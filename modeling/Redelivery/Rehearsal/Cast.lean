import Redelivery.Pipeline.World
import Redelivery.Rehearsal.Script

/-! Surroundings that follow scripts: handlers, a dispatcher with an answer for each of its
calls, and host policies with lists of delays. They remember only how often they were asked. -/
namespace Redelivery

inductive DispatchCue where
  | succeed
  | refuse (reason : String)
  | fail (recipe : FailureRecipe)

structure Cast where
  handlers : List ScriptedHandler := []
  dispatches : List DispatchCue := []
  /-- For each host policy the delay before each retry, from the first one on. -/
  policies : List (List (Option Duration)) := []
  clock : Instant

structure CastState where
  calls : List ((Nat × Option String) × Nat) := []
  dispatches : Nat := 0
  nextIdentity : Nat := 0

namespace Cast

def countCall (key : Nat × Option String) : List ((Nat × Option String) × Nat) →
    Nat × List ((Nat × Option String) × Nat)
  | [] => (1, [(key, 1)])
  | (k, n) :: rest =>
    if k = key then (n + 1, (k, n + 1) :: rest)
    else
      let (call, rest) := countCall key rest
      (call, (k, n) :: rest)

def handle (cast : Cast) (slot : Nat) (m : Incoming) (s : CastState) : Handling × CastState :=
  let (key, script) := match cast.handlers[slot]? with
    | some handler => handler.part m.id
    | none => (none, {})
  let (call, calls) := countCall (slot, key) s.calls
  ((script.act call).perform call s.nextIdentity m,
    { s with calls, nextIdentity := s.nextIdentity + 1 })

def delay? (cast : Cast) (policy : Nat) (q : DelayQuestion) : Option Duration := do
  let delays ← cast.policies[policy]?
  (delays[q.retry - 1]?).join

def failureOf (identity : Nat) (op : Operation) : DispatchCue → Option Failure
  | .succeed => none
  | .refuse reason => some (.dispatch op.message.id op.destination reason)
  | .fail recipe => some (recipe.build identity)

def dispatch (cast : Cast) (op : Operation) (s : CastState) : DispatchReply × CastState :=
  let cue := (cast.dispatches[s.dispatches]?).getD .succeed
  ({ failure := failureOf s.nextIdentity op cue },
    { s with dispatches := s.dispatches + 1, nextIdentity := s.nextIdentity + 1 })

def host (cast : Cast) : Host CastState where
  handle := cast.handle
  consult policy q s := (cast.delay? policy q, s)
  now _ := cast.clock

def outside (cast : Cast) : Outside CastState := { cast.host with dispatch := cast.dispatch }

end Cast
end Redelivery
