import Redelivery.Receiver.Loop
import Redelivery.Receiver.Settle

/-! A receiver at work beside the one who runs the endpoint. Everybody takes turns as the agenda
says, until the loop has stopped and the one who runs the endpoint is done, or until nobody has
anything left to do. -/
namespace Redelivery

/-- The one who runs the endpoint, acting on a state of its own. -/
structure Director (δ τ : Type) where
  turn : δ → Receiver τ → δ × Turn τ
  /-- Nothing is left to do but to wait for the loop to stop. -/
  isDone : δ → Bool

structure Scene (δ τ : Type) where
  receiver : Receiver τ
  director : δ

namespace Scene
variable {δ τ : Type}

def act (p : ReceiverPlan τ) (d : Director δ τ) (s : Scene δ τ) : Activity → δ × Turn τ
  | .host => d.turn s.director s.receiver
  | .receiver => (s.director, s.receiver.loopTurn p)
  | .settler task => (s.director, s.receiver.settlerTurn p task)
  | .worker task => (s.director, s.receiver.workerTurn p task)
  | .courier parcel =>
    let r := s.receiver
    (s.director, { receiver := { r with exchange := r.exchange.courierTurn parcel } })

def afterTurn (a : Activity) (director : δ) (t : Turn τ) : Scene δ τ :=
  let r := t.receiver
  ⟨if t.goesOn then { r with exchange := r.exchange.resume a } else r, director⟩

/-- The loop has stopped, and nobody wants to go on without it. -/
def isOver (d : Director δ τ) (s : Scene δ τ) : Bool :=
  s.receiver.stage = .stopped && d.isDone s.director

def next? (p : ReceiverPlan τ) (d : Director δ τ) (s : Scene δ τ) :
    Option (Scene δ τ × List Happening) :=
  if s.isOver d then none
  else
    match s.receiver.exchange.agenda.next? with
    | none => none
    | some (a, agenda) =>
      let r := s.receiver
      let r := { r with exchange := { r.exchange with agenda } }
      let (director, turn) := act p d { s with receiver := r } a
      some (afterTurn a director turn, turn.seen)

def runOn (p : ReceiverPlan τ) (d : Director δ τ) : Nat → Scene δ τ → List (Nat × Happening) →
    Scene δ τ × List (Nat × Happening)
  | 0, s, seen => (s, seen)
  | turns + 1, s, seen =>
    match s.next? p d with
    | none => (s, seen)
    | some (s, more) =>
      runOn p d turns s ((more.map fun h => (s.receiver.exchange.now, h)).reverse ++ seen)

def turnLimit : Nat := 1152921504606846976

def run (p : ReceiverPlan τ) (d : Director δ τ) (s : Scene δ τ) :
    Scene δ τ × List (Nat × Happening) :=
  let now := s.receiver.exchange.now
  let r := s.receiver.wake .receiver
  let (s, seen) := runOn p d turnLimit { s with receiver := r.wake .host }
    [(now, .logged (Receiver.startEntry p))]
  (s, seen.reverse)

end Scene

inductive Command where
  | send (address : String) (m : Outgoing)
  | unavailable (address : String) (value : Bool)
  | signal (value : Bool)
  | dropSignal

abbrev Commands := List (Nat × Command)

namespace Commands
variable {τ : Type}

def perform (r : Receiver τ) : Command → Receiver τ
  | .send address m => { r with exchange := r.exchange.send address m }
  | .unavailable address value => { r with exchange := r.exchange.setUnavailable address value }
  | .signal value => r.signalled (·.send value)
  | .dropSignal => r.signalled Signal.drop

def turn : Commands → Receiver τ → Commands × Turn τ
  | [], r => ([], { receiver := r })
  | (time, command) :: rest, r =>
    if time ≤ r.exchange.now then turn rest (perform r command)
    else
      ((time, command) :: rest,
        { receiver := { r with exchange := r.exchange.sleepUntil .host time } })

def director : Director Commands τ := ⟨turn, List.isEmpty⟩

def before (commands : Commands) (r : Receiver τ) : Scene Commands τ :=
  let due := commands.takeWhile (·.1 ≤ r.exchange.now)
  ⟨due.foldl (fun r c => perform r c.2) r, commands.dropWhile (·.1 ≤ r.exchange.now)⟩

end Commands
end Redelivery
