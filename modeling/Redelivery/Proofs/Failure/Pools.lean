import Mathlib.Data.List.Forall2
import Mathlib.Data.List.Induction
import Redelivery.Proofs.Failure.Identity
import Redelivery.Proofs.FailureTable.Changes

/-! Where failures come from. Members of a pool are constructed or copied from other members. Two
members that are failures of user code are the same exactly if they come from one construction, and
members that are the same tell the same, but for the stage. -/
namespace Redelivery

namespace Failure

/-- A failure as it is found again where it was kept: in the record of a message that failed with
it, whatever happened to the records of others since, or in a notification. -/
inductive Kept (f : Failure) : Failure → Prop where
  | recorded {t : FailureTable} {id : String} {toErrorQueue toDelay : Bool}
      {changes : List TableChange} {r : FailureRecord}
      (apart : ∀ change ∈ changes, change.id ≠ id)
      (found : ((t.record id f toErrorQueue toDelay).1.changed changes).lookup id = some r) :
      Kept f r.failure
  | notified {n : Notification} (told : n.failure = f) : Kept f n.failure

theorem Kept.eq {f kept : Failure} (h : f.Kept kept) : kept = f := by
  cases h with
  | recorded apart found =>
    rcases FailureTable.lookup_changed_other _ _ apart with same | gone
    · rw [same, FailureTable.record_self] at found
      cases found
      rfl
    · cases gone.symm.trans found
  | notified told => exact told

end Failure

namespace FailurePool

def Step.isMake : Step → Bool
  | .make _ => true
  | .copy .. => false

def trace (known : List Nat) : Step × Nat → List Nat
  | (.make _, number) => known ++ [number]
  | (.copy index _, _) => known ++ known[index]?.toList

/-- For each member of a pool the number of the step that constructed it. A copy comes from where
the copied member comes from. -/
def origins (steps : List Step) : List Nat := steps.zipIdx.foldl trace []

def constructions (steps : List Step) : Nat := steps.countP Step.isMake

/-- A failure constructed in the step with a number, whichever stages claimed it since. -/
def MadeIn (steps : List Step) (f : Failure) (number : Nat) : Prop :=
  ∃ recipe stages, steps[number]? = some (.make recipe) ∧
    f = (recipe.source.build (constructions (steps.take number))).claimedByAll stages

/-- A pool whose identities count the constructions, with the origin of each member. -/
structure Traced (steps : List Step) (pool : FailurePool) (known : List Nat) : Prop where
  next : pool.next = constructions steps
  made : List.Forall₂ (MadeIn steps) pool.members known

variable {steps : List Step} {pool : FailurePool} {known : List Nat} {f a b : Failure} {n k : Nat}

theorem build_concat (steps : List Step) (s : Step) :
    build (steps ++ [s]) = (build steps).step s := by
  simp [build]

theorem origins_concat (steps : List Step) (s : Step) :
    origins (steps ++ [s]) = trace (origins steps) (s, steps.length) := by
  simp [origins, List.zipIdx_append]

theorem MadeIn.later (made : MadeIn steps f n) (s : Step) : MadeIn (steps ++ [s]) f n := by
  obtain ⟨recipe, stages, here, rfl⟩ := made
  have before : n < steps.length := (List.getElem?_eq_some_iff.1 here).1
  refine ⟨recipe, stages, ?_, ?_⟩
  · rw [List.getElem?_append_left before, here]
  · rw [List.take_append_of_le_length (Nat.le_of_lt before)]

theorem exists_origin {members : List Failure} (made : List.Forall₂ (MadeIn steps) members known)
    {i : Nat} (member : members[i]? = some f) : ∃ n, known[i]? = some n ∧ MadeIn steps f n := by
  induction made generalizing i with
  | nil => cases member
  | cons here _ ih =>
    cases i with
    | zero =>
      cases Option.some.inj member
      exact ⟨_, rfl, here⟩
    | succ i => exact ih member

theorem Traced.step (traced : Traced steps pool known) (s : Step) :
    Traced (steps ++ [s]) (pool.step s) (trace known (s, steps.length)) := by
  have earlier : List.Forall₂ (MadeIn (steps ++ [s])) pool.members known :=
    traced.made.imp fun _ _ made => made.later s
  cases s with
  | make recipe =>
    refine ⟨?_, List.rel_append earlier (.cons ⟨recipe, recipe.stages, ?_, ?_⟩ .nil)⟩
    · rw [FailurePool.step, constructions, List.countP_append, traced.next]
      rfl
    · simp
    · rw [FailureRecipe.build, traced.next]
      simp
  | copy index stages =>
    have next : pool.next = constructions (steps ++ [.copy index stages]) := by
      rw [constructions, List.countP_append, traced.next]
      rfl
    rw [FailurePool.step, trace]
    cases member : pool.members[index]? with
    | none =>
      have missing : known[index]? = none := by
        rw [List.getElem?_eq_none_iff] at member ⊢
        exact traced.made.length_eq ▸ member
      rw [missing]
      exact ⟨next, by simpa using earlier⟩
    | some f =>
      obtain ⟨n, known_n, recipe, claimed, here, rfl⟩ := exists_origin earlier member
      rw [known_n]
      refine ⟨next, List.rel_append earlier (.cons ⟨recipe, claimed ++ stages, here, ?_⟩ .nil)⟩
      rw [Failure.claimedByAll_append]

theorem traced (steps : List Step) : Traced steps (build steps) (origins steps) := by
  induction steps using List.reverseRecOn with
  | nil => exact ⟨rfl, .nil⟩
  | append_singleton steps s ih =>
    rw [build_concat, origins_concat]
    exact ih.step s

theorem constructions_lt {recipe : FailureRecipe} (here : steps[n]? = some (.make recipe))
    (later : n < k) : constructions (steps.take n) < constructions (steps.take k) := by
  have counted : constructions (steps.take (n + 1)) = constructions (steps.take n) + 1 := by
    rw [constructions, List.take_add_one, here, List.countP_append]
    rfl
  have within : constructions (steps.take (n + 1)) ≤ constructions (steps.take k) :=
    (List.take_sublist_take_left later).countP_le
  omega

theorem MadeIn.fingerprint (made : MadeIn steps f n) (user : f.category = .handler) :
    f.fingerprint = .inl (constructions (steps.take n)) := by
  obtain ⟨recipe, stages, _, rfl⟩ := made
  rw [(Failure.agrees_claimedByAll _ _).category] at user
  rw [Failure.fingerprint_claimedByAll]
  cases source : recipe.source with
  | wrapped exceptionType report => rfl
  | deserialization messageId reason => rw [source] at user; cases user
  | dispatch messageId destination reason => rw [source] at user; cases user

theorem MadeIn.agrees (madeA : MadeIn steps a n) (madeB : MadeIn steps b n) : a.Agrees b := by
  obtain ⟨recipe, stages, here, rfl⟩ := madeA
  obtain ⟨recipe', stages', here', rfl⟩ := madeB
  cases here.symm.trans here'
  exact (Failure.agrees_claimedByAll _ stages).trans (Failure.agrees_claimedByAll _ stages').symm

/-- Failures of user code are the same exactly if they come from one construction. -/
theorem MadeIn.sameAs_iff (madeA : MadeIn steps a n) (madeB : MadeIn steps b k)
    (userA : a.category = .handler) (userB : b.category = .handler) :
    a.sameAs b = true ↔ n = k := by
  rw [Failure.sameAs_iff, madeA.fingerprint userA, madeB.fingerprint userB]
  constructor
  · intro same
    have counted := Sum.inl.inj same
    obtain ⟨recipe, _, here, _⟩ := madeA
    obtain ⟨recipe', _, here', _⟩ := madeB
    rcases Nat.lt_trichotomy n k with before | now | after
    · exact absurd counted (Nat.ne_of_lt (constructions_lt here before))
    · exact now
    · exact absurd counted.symm (Nat.ne_of_lt (constructions_lt here' after))
  · rintro rfl
    rfl

theorem MadeIn.agrees_of_same (madeA : MadeIn steps a n) (madeB : MadeIn steps b k)
    (same : a.sameAs b = true) : a.Agrees b := by
  have fingerprints := Failure.sameAs_iff.1 same
  by_cases userA : a.category = .handler
  · rw [madeA.fingerprint userA] at fingerprints
    have userB := Failure.category_of_fingerprint fingerprints.symm
    cases (madeA.sameAs_iff madeB userA userB).1 same
    exact madeA.agrees madeB
  · exact Failure.agrees_of_fingerprint fingerprints userA

theorem Traced.agrees_of_same (traced : Traced steps pool known) (memberA : a ∈ pool.members)
    (memberB : b ∈ pool.members) (same : a.sameAs b = true) : a.Agrees b := by
  obtain ⟨i, placeA⟩ := List.mem_iff_getElem?.1 memberA
  obtain ⟨j, placeB⟩ := List.mem_iff_getElem?.1 memberB
  obtain ⟨n, -, madeA⟩ := exists_origin traced.made placeA
  obtain ⟨k, -, madeB⟩ := exists_origin traced.made placeB
  exact madeA.agrees_of_same madeB same

/-- Being the same is an equivalence of failures, and neither copies nor claims of stages on either
side touch it. In every pool it joins exactly those failures of user code that come from one
construction. Members that are the same agree in all but the stage, so that wherever one of them is
kept, it writes onto headers what the other one does, but for the source. -/
theorem sameness_congruent (steps : List Step) :
    Equivalence (fun a b : Failure => a.sameAs b = true) ∧
    (∀ a b : Failure, ∀ stages stages',
      (a.claimedByAll stages).sameAs (b.claimedByAll stages') = a.sameAs b) ∧
    (∀ index stages f, (build steps).members[index]? = some f →
      ∃ copy, (build (steps ++ [.copy index stages])).members = (build steps).members ++ [copy] ∧
        ∀ g, copy.sameAs g = f.sameAs g ∧ g.sameAs copy = g.sameAs f) ∧
    (origins steps).length = (build steps).members.length ∧
    (∀ (i j : Nat) (a b : Failure),
      (build steps).members[i]? = some a → (build steps).members[j]? = some b →
      a.category = .handler → b.category = .handler →
      (a.sameAs b = true ↔ (origins steps)[i]? = (origins steps)[j]?)) ∧
    ∀ a ∈ (build steps).members, ∀ b ∈ (build steps).members, a.sameAs b = true →
      a.Agrees b ∧ ∀ kept, a.Kept kept → kept.StampsAlike b := by
  have whole := traced steps
  refine ⟨Failure.sameAs_equivalence, ?claims, ?copies, whole.made.length_eq.symm, ?origins, ?told⟩
  case claims =>
    intro a b stages stages'
    exact Failure.sameAs_congr (a.fingerprint_claimedByAll stages)
      (b.fingerprint_claimedByAll stages')
  case copies =>
    intro index stages f member
    have unclaimed := f.fingerprint_claimedByAll stages
    refine ⟨f.claimedByAll stages, ?_, fun g =>
      ⟨Failure.sameAs_congr unclaimed rfl, Failure.sameAs_congr rfl unclaimed⟩⟩
    rw [build_concat, step, member]
  case origins =>
    intro i j a b memberA memberB userA userB
    obtain ⟨n, originA, madeA⟩ := exists_origin whole.made memberA
    obtain ⟨k, originB, madeB⟩ := exists_origin whole.made memberB
    rw [originA, originB, Option.some_inj]
    exact madeA.sameAs_iff madeB userA userB
  case told =>
    intro a memberA b memberB same
    have agree := whole.agrees_of_same memberA memberB same
    refine ⟨agree, fun kept found => ?_⟩
    rw [found.eq]
    exact agree.stampsAlike

example :
    let boom : FailureRecipe := { source := .wrapped Failure.untypedReport { text := "boom" } }
    (build [.make boom, .copy 0 ["Billing"], .make boom]).sameMatrix =
      [[true, true, false], [true, true, false], [false, false, true]] := rfl

end FailurePool
end Redelivery
