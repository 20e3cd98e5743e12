import Redelivery.Failure

/-! Failures made one after another. Each report that is wrapped gets a fresh identity; copies
keep the identity of what they copy, whichever stages claim them. -/
namespace Redelivery

inductive FailureSource where
  | wrapped (exceptionType : String) (report : Report)
  | deserialization (messageId reason : String)
  | dispatch (messageId destination reason : String)
  deriving DecidableEq, Repr

def FailureSource.build (identity : Nat) : FailureSource → Failure
  | .wrapped exceptionType report => .handler { identity, exceptionType, report }
  | .deserialization messageId reason => .deserialization messageId reason
  | .dispatch messageId destination reason => .dispatch messageId destination reason

def Failure.claimedByAll (f : Failure) (stages : List String) : Failure :=
  stages.foldl (fun f stage => f.claimedBy stage) f

structure FailureRecipe where
  source : FailureSource
  stages : List String := []
  deriving DecidableEq, Repr

def FailureRecipe.build (identity : Nat) (r : FailureRecipe) : Failure :=
  (r.source.build identity).claimedByAll r.stages

structure FailurePool where
  members : List Failure := []
  next : Nat := 0

namespace FailurePool

inductive Step where
  | make (recipe : FailureRecipe)
  /-- A copy of an earlier member, claimed by further stages. -/
  | copy (index : Nat) (stages : List String)

def step (pool : FailurePool) : Step → FailurePool
  | .make recipe =>
    { members := pool.members ++ [recipe.build pool.next], next := pool.next + 1 }
  | .copy index stages =>
    match pool.members[index]? with
    | some f => { pool with members := pool.members ++ [f.claimedByAll stages] }
    | none => pool

def build (steps : List Step) : FailurePool := steps.foldl step {}

def sameMatrix (pool : FailurePool) : List (List Bool) :=
  pool.members.map fun a => pool.members.map fun b => a.sameAs b

end FailurePool
end Redelivery
