import Redelivery.Proofs.Processing.Settlement

/-! The deliveries of one processing, taken apart. The deliveries in front of any one of them were
aborted, each in the world that the one before it left, and there are fewer of them than the
message had in front of it at the start. What a processing did is what its deliveries did, and one
that is allowed fewer deliveries does the first part of it. -/
namespace Redelivery.ReceivePipeline
variable {σ : Type} {o : Outside σ} {p : ReceivePipeline} {m : Incoming} {w v : World σ}
  {before : List (Course σ Delivery)}

/-- Aborted deliveries of a message that lead from one world to another. -/
inductive Leads (o : Outside σ) (p : ReceivePipeline) (m : Incoming) :
    World σ → List (Course σ Delivery) → World σ → Prop where
  | here (w : World σ) : Leads o p m w [] w
  | again {w w' v : World σ} {ds : List Deed} {before : List (Course σ Delivery)}
      (aborted : (p.invoke m).course o w = ⟨.done .aborted, w', ds⟩)
      (later : Leads o p m w' before v) : Leads o p m w (⟨.done .aborted, w', ds⟩ :: before) v

theorem aborted_or_last (o : Outside σ) (p : ReceivePipeline) (m : Incoming) (w : World σ) :
    (∃ w' ds, (p.invoke m).course o w = ⟨.done .aborted, w', ds⟩) ∨
      ((p.invoke m).course o w).ended ≠ .done .aborted := by
  cases course : (p.invoke m).course o w with
  | mk ended w' ds =>
    by_cases aborted : ended = .done .aborted
    · subst aborted
      exact .inl ⟨w', ds, rfl⟩
    · exact .inr aborted

theorem passes_aborted {w' : World σ} {ds : List Deed} (allowed : Nat)
    (aborted : (p.invoke m).course o w = ⟨.done .aborted, w', ds⟩) :
    passes o p m (allowed + 1) w = ⟨.done .aborted, w', ds⟩ :: passes o p m allowed w' := by
  rw [passes, aborted]

theorem passes_last (allowed : Nat)
    (last : ((p.invoke m).course o w).ended ≠ .done .aborted) :
    passes o p m (allowed + 1) w = [(p.invoke m).course o w] := by
  rw [passes]
  split
  · contradiction
  · rfl

theorem pass_of_passes {pass : Course σ Delivery} {after : List (Course σ Delivery)} {allowed : Nat}
    (split : passes o p m (allowed + 1) w = pass :: after) : pass = (p.invoke m).course o w := by
  rw [passes] at split
  split at split <;> exact (List.cons.inj split).1.symm

theorem deeds_processWithin_last (allowed earlier : Nat)
    (last : ((p.invoke m).course o w).ended ≠ .done .aborted) :
    ((p.processWithin m (allowed + 1) earlier).course o w).deeds =
      ((p.invoke m).course o w).deeds := by
  cases course : (p.invoke m).course o w with
  | mk ended w' ds =>
    rw [course] at last
    cases ended with
    | panicked text => rw [course_processWithin_panicked _ _ course]
    | done d =>
      cases d with
      | completed => rw [course_processWithin_completed _ _ course]
      | failed failure => rw [course_processWithin_failed _ _ course]
      | aborted => exact absurd rfl last

theorem deeds_processWithin (o : Outside σ) (p : ReceivePipeline) (m : Incoming)
    (allowed earlier : Nat) (w : World σ) :
    ((p.processWithin m allowed earlier).course o w).deeds =
      (passes o p m allowed w).flatMap (·.deeds) := by
  induction allowed generalizing earlier w with
  | zero => rfl
  | succ allowed ih =>
    rcases aborted_or_last o p m w with ⟨w', ds, aborted⟩ | last
    · rw [course_processWithin_aborted _ _ aborted, passes_aborted _ aborted,
        Course.deeds_after, ih, List.flatMap_cons]
    · rw [deeds_processWithin_last _ _ last, passes_last _ last, List.flatMap_singleton]

theorem deeds_processWithin_fewer (o : Outside σ) (p : ReceivePipeline) (m : Incoming)
    (allowed more earlier : Nat) (w : World σ) :
    ((p.processWithin m allowed earlier).course o w).deeds <+:
      ((p.processWithin m (allowed + more) earlier).course o w).deeds := by
  induction allowed generalizing earlier w with
  | zero => exact List.nil_prefix
  | succ allowed ih =>
    rw [Nat.add_right_comm]
    rcases aborted_or_last o p m w with ⟨w', ds, aborted⟩ | last
    · rw [course_processWithin_aborted _ _ aborted, course_processWithin_aborted _ _ aborted]
      exact (List.prefix_append_right_inj ds).2 (ih (earlier + 1) w')
    · simp only [deeds_processWithin_last _ _ last, List.prefix_rfl]

/-- Any delivery of a processing comes after aborted ones, with deliveries left for itself and for
those behind it. -/
theorem leads_of_passes {pass : Course σ Delivery} {after : List (Course σ Delivery)} {allowed : Nat}
    (split : passes o p m allowed w = before ++ pass :: after) :
    ∃ v left, Leads o p m w before v ∧ allowed = before.length + (left + 1) ∧
      pass = (p.invoke m).course o v ∧ passes o p m (left + 1) v = pass :: after := by
  -- On the deliveries in front, which the first of those allowed has to be one of.
  induction before generalizing allowed w with
  | nil =>
    cases allowed with
    | zero => cases split
    | succ left => exact ⟨w, left, .here w, (Nat.zero_add _).symm, pass_of_passes split, split⟩
  | cons first before ih =>
    cases allowed with
    | zero => cases split
    | succ allowed =>
      rcases aborted_or_last o p m w with ⟨w', ds, aborted⟩ | last
      · rw [passes_aborted _ aborted, List.cons_append] at split
        obtain ⟨rfl, rest⟩ := List.cons.inj split
        obtain ⟨v, left, leads, counted, here⟩ := ih rest
        refine ⟨v, left, .again aborted leads, ?_, here⟩
        rw [List.length_cons]
        omega
      · rw [passes_last _ last] at split
        have none : before ++ pass :: after = [] := (List.cons.inj split).2.symm
        cases (List.append_eq_nil_iff.1 none).2

theorem leads_of_failed {failure : Failure} {allowed earlier : Nat}
    (failed : ((p.processWithin m allowed earlier).course o w).ended = .done (.failed failure)) :
    ∃ before v v' ds, Leads o p m w before v ∧
      (p.invoke m).course o v = ⟨.done (.failed failure), v', ds⟩ ∧
      (p.processWithin m allowed earlier).course o w =
        ⟨.done (.failed failure), v', before.flatMap (·.deeds) ++ ds⟩ := by
  induction allowed generalizing earlier w with
  | zero => cases failed
  | succ allowed ih =>
    cases course : (p.invoke m).course o w with
    | mk ended w' ds =>
      cases ended with
      | panicked text =>
        rw [course_processWithin_panicked _ _ course] at failed
        cases failed
      | done d =>
        cases d with
        | completed =>
          rw [course_processWithin_completed _ _ course] at failed
          cases failed
        | failed other =>
          rw [course_processWithin_failed _ _ course] at failed ⊢
          cases failed
          exact ⟨[], w, w', ds, .here w, course, rfl⟩
        | aborted =>
          rw [course_processWithin_aborted _ _ course] at failed ⊢
          obtain ⟨before, v, v', ds', leads, last, run⟩ := ih failed
          refine ⟨_, v, v', ds', .again course leads, last, ?_⟩
          rw [run, Course.after_mk, List.flatMap_cons, List.append_assoc]

theorem Leads.deliveriesLeft {handlers : List (Nat × String)} {s : Settings}
    {given : Option DelayPolicy} (built : build s given (handlerStages handlers) = .ok p)
    (leads : Leads o p m w before v) :
    before.length +
        v.table.deliveriesLeft (modeOf s) (policyOf s given) s.immediateRetries.toNat m.id ≤
      w.table.deliveriesLeft (modeOf s) (policyOf s given) s.immediateRetries.toNat m.id := by
  induction leads with
  | here w => exact Nat.le_of_eq (Nat.zero_add _)
  | @again w w' v ds before aborted later ih =>
    rcases delivers_or_panicked built o m w with ⟨passage, w'', ds', delivers, course⟩ | panicked
    · have same := course.symm.trans aborted
      simp only [Course.mk.injEq, Ended.done.injEq] at same
      obtain ⟨again, rfl, rfl⟩ := same
      have fewer := delivers.fewer rfl again
      simp only [entry] at fewer
      rw [List.length_cons]
      omega
    · obtain ⟨text, w'', ds', panic, course, acts⟩ := panicked
      cases course.symm.trans aborted

end Redelivery.ReceivePipeline
