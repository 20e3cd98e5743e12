import Redelivery.Pipeline.Flow
import Redelivery.Text.Quoted

/-! Chains of named stages. A stage decides whether and when the rest of the chain runs, which it
is given as a function on contexts; at the end of the chain a delivery succeeds. A stage may mark
the receive as aborted, which is not a failure: the caller sees the mark when the chain is done. -/
namespace Redelivery

structure Context where
  message : Incoming
  address : String
  aborted : Bool := false
  deriving DecidableEq

def Context.abort (c : Context) : Context := { c with aborted := true }

structure Passage where
  context : Context
  failure : Option Failure := none
  deriving DecidableEq

abbrev Way := Context → Flow Passage

structure Stage where
  name : String
  /-- What the stage does, given the rest of the chain. -/
  behaviour : Way → Way

def runStages : List Stage → Way
  | [], c => .done { context := c }
  | stage :: rest, c =>
    .ask (.enter stage.name c.message.id) fun _ => stage.behaviour (runStages rest) c

def describeChain (stages : List Stage) : String :=
  let names := stages.map fun stage => Text.described "Stage" [("name", Text.quoted stage.name)]
  Text.described "Pipeline" [("stages", "[" ++ ", ".intercalate names ++ "]")]

namespace Stage

/-- Gives the message to the handler in a slot and goes on if it succeeds. A failure is claimed
in the handler's name; what the handler did to the message stays either way. -/
def handling (slot : Nat) (name : String) : Way → Way := fun rest c => do
  let h ← Flow.handle slot name c.message
  Flow.pause h.pause
  Flow.logAll h.log
  let c := { c with message := { c.message with headers := h.headers, body := h.body } }
  match h.outcome with
  | .done => rest c
  | .failed failure => return { context := c, failure := some (failure.claimedBy name) }
  | .panicked text => .panicked text

def ofHandler (slot : Nat) (name : String) : Stage := ⟨name, handling slot name⟩

end Stage
end Redelivery
