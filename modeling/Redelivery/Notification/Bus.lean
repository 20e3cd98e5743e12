import Redelivery.Notification
import Redelivery.Text.Quoted
import Redelivery.Whole

/-! Buses that carry notifications to subscribers. A clone of a bus is another handle on the same
channel. Whoever is on a channel when a notification is raised is called with it, one after
another. A subscriber that is called may bring others onto buses; those are on their channel from
then on, and are called from the next notification on. -/
namespace Redelivery

/-- What a subscriber does with a notification, over a state that all subscribers share: whom it
brings onto which buses, one after another, and the state it leaves. -/
abbrev Callback (κ σ : Type) := κ → Notification → σ → List (Nat × κ) × σ

/-- Channels with their subscribers in order of registration, and the handles on them. What is
done to a bus that does not exist has no effect. -/
structure Buses (κ σ : Type) where
  channels : List (List κ) := [[]]
  handles : List Nat := [0]
  shared : σ
  joins : List (Nat × κ) := []
  calls : List (κ × Notification) := []

namespace Buses
variable {κ σ : Type}

inductive Step (κ : Type) where
  | create
  /-- One more handle on the channel of a bus. -/
  | clone (bus : Nat)
  | subscribe (bus : Nat) (subscriber : κ)
  | raise (bus : Nat) (n : Notification)

def subscribers (b : Buses κ σ) (bus : Nat) : List κ :=
  ((b.handles[bus]?).bind (b.channels[·]?)).getD []

def join (b : Buses κ σ) (bus : Nat) (newcomer : κ) : Buses κ σ :=
  match b.handles[bus]? with
  | some channel =>
    { b with channels := b.channels.modify channel (· ++ [newcomer]),
             joins := b.joins ++ [(bus, newcomer)] }
  | none => b

def joinAll (b : Buses κ σ) (newcomers : List (Nat × κ)) : Buses κ σ :=
  newcomers.foldl (fun b (bus, newcomer) => b.join bus newcomer) b

def tell (call : Callback κ σ) (n : Notification) (b : Buses κ σ) (subscriber : κ) : Buses κ σ :=
  let (newcomers, shared) := call subscriber n b.shared
  { b with shared, calls := b.calls ++ [(subscriber, n)] }.joinAll newcomers

def step (call : Callback κ σ) (b : Buses κ σ) : Step κ → Buses κ σ
  | .create =>
    { b with channels := b.channels ++ [[]], handles := b.handles ++ [b.channels.length] }
  | .clone bus => { b with handles := b.handles ++ (b.handles[bus]?).toList }
  | .subscribe bus subscriber => b.join bus subscriber
  | .raise bus n => (b.subscribers bus).foldl (tell call n) b

def counts (b : Buses κ σ) : List Nat :=
  (List.range b.handles.length).map fun bus => (b.subscribers bus).length

def description (b : Buses κ σ) (bus : Nat) : String :=
  Text.described "Notifications" [("subscribers", Whole.text (b.subscribers bus).length)]

end Buses
end Redelivery
