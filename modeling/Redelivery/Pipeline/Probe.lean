import Redelivery.Pipeline.Chain

/-! Stages for trying out a chain: they watch a delivery, end it, mark it, repeat the rest, hide
its failure, replace its body, or make it fail. -/
namespace Redelivery

inductive Probe where
  /-- Reports what it sees on the way in and on the way out. -/
  | watch (label : String)
  | shortCircuit
  | abort
  /-- Runs the rest twice, but stops at the first failure. -/
  | twice
  /-- Reports a failure and turns it into a success. -/
  | swallow
  | replaceBody (body : Bytes)
  /-- Runs the rest and fails if that succeeded. -/
  | fail (failure : Failure)

def Probe.behaviour : Probe → Way → Way
  | .watch label, rest, c => do
    Flow.observe (.before label)
    let p ← rest c
    Flow.observe (.after label p.failure.isNone p.context.aborted)
    return p
  | .shortCircuit, _, c => return { context := c }
  | .abort, rest, c => rest c.abort
  | .twice, rest, c => do
    let p ← rest c
    match p.failure with
    | none => rest p.context
    | some _ => return p
  | .swallow, rest, c => do
    let p ← rest c
    match p.failure with
    | none => return p
    | some failure =>
      Flow.observe (.swallowed failure)
      return { context := p.context }
  | .replaceBody body, rest, c => rest { c with message := c.message.updateBody body }
  | .fail failure, rest, c => do
    let p ← rest c
    return { context := p.context, failure := some (p.failure.getD failure) }

end Redelivery
