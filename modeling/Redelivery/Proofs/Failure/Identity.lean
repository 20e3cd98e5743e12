import Redelivery.Failure.Pool
import Redelivery.Proofs.Delivery.Copies

/-! Which failures are the same. A failure of user code is recognised by its construction, the
other kinds by what they say, and claims of stages change neither. Failures that tell the same write
the same onto headers, but for the source. -/
namespace Redelivery

namespace Failure

/-- What a failure is recognised by. -/
def fingerprint : Failure → Nat ⊕ (Category × String)
  | .handler failure => .inl failure.identity
  | f => .inr (f.category, f.text)

/-- Failures that tell the same, but for the stage that raised them. -/
structure Agrees (a b : Failure) : Prop where
  category : a.category = b.category
  text : a.text = b.text
  exceptionType : a.exceptionType = b.exceptionType
  stackTrace : a.stackTrace = b.stackTrace

def StampsAlike (a b : Failure) : Prop :=
  ∀ (h : Headers) (queue : String) (time : Instant), ∀ key ≠ Headers.exceptionSource,
    (h.stampFailure a queue time).get? key = (h.stampFailure b queue time).get? key

variable {a b c f : Failure}

theorem sameAs_iff : a.sameAs b = true ↔ a.fingerprint = b.fingerprint := by
  cases a <;> cases b <;> simp [sameAs, fingerprint, category]

theorem sameAs_congr {a' b' : Failure} (left : a.fingerprint = a'.fingerprint)
    (right : b.fingerprint = b'.fingerprint) : a.sameAs b = a'.sameAs b' := by
  rw [Bool.eq_iff_iff, sameAs_iff, sameAs_iff, left, right]

theorem sameAs_equivalence : Equivalence fun a b : Failure => a.sameAs b = true where
  refl _ := sameAs_iff.2 rfl
  symm same := sameAs_iff.2 (sameAs_iff.1 same).symm
  trans first second := sameAs_iff.2 ((sameAs_iff.1 first).trans (sameAs_iff.1 second))

theorem Agrees.refl (f : Failure) : f.Agrees f := ⟨rfl, rfl, rfl, rfl⟩

theorem Agrees.symm (agree : a.Agrees b) : b.Agrees a :=
  ⟨agree.category.symm, agree.text.symm, agree.exceptionType.symm, agree.stackTrace.symm⟩

theorem Agrees.trans (first : a.Agrees b) (second : b.Agrees c) : a.Agrees c :=
  ⟨first.category.trans second.category, first.text.trans second.text,
    first.exceptionType.trans second.exceptionType, first.stackTrace.trans second.stackTrace⟩

/-- Only a failure of user code is recognised by a construction. -/
theorem category_of_fingerprint {identity : Nat} (known : f.fingerprint = .inl identity) :
    f.category = .handler := by
  cases f with
  | handler failure => rfl
  | deserialization messageId reason => cases known
  | dispatch messageId destination reason => cases known

/-- Apart from user code, what a failure is recognised by decides all that it tells. -/
theorem agrees_of_fingerprint (same : a.fingerprint = b.fingerprint)
    (other : a.category ≠ .handler) : a.Agrees b := by
  cases a with
  | handler failure => exact absurd rfl other
  | deserialization messageId reason =>
    cases b with
    | handler failure => cases same
    | deserialization messageId' reason' =>
      have text := (Prod.mk.inj (Sum.inr.inj same)).2
      exact ⟨rfl, text, rfl, text⟩
    | dispatch messageId' destination reason' => cases (Prod.mk.inj (Sum.inr.inj same)).1
  | dispatch messageId destination reason =>
    cases b with
    | handler failure => cases same
    | deserialization messageId' reason' => cases (Prod.mk.inj (Sum.inr.inj same)).1
    | dispatch messageId' destination' reason' =>
      have text := (Prod.mk.inj (Sum.inr.inj same)).2
      exact ⟨rfl, text, rfl, text⟩

theorem lookup_stamps_other (f : Failure) (queue : String) (time : Instant) {key : String}
    (other : key ≠ Headers.exceptionSource) :
    (f.stamps queue time).lookup key =
      [(Headers.timeOfFailure, time.wireText), (Headers.failedQueue, queue),
        (Headers.exceptionStackTrace, f.stackTrace), (Headers.exceptionMessage, f.text),
        (Headers.exceptionType, f.exceptionType)].lookup key := by
  unfold Failure.stamps
  cases f.stage? with
  | none => rfl
  | some stage => simp [Headers.lookup_cons, other]

theorem Agrees.stampsAlike (agree : a.Agrees b) : a.StampsAlike b := by
  intro h queue time key other
  rw [Headers.get?_stampFailure, Headers.get?_stampFailure, lookup_stamps_other a queue time other,
    lookup_stamps_other b queue time other, agree.stackTrace, agree.text, agree.exceptionType]

theorem fingerprint_claimedBy (f : Failure) (stage : String) :
    (f.claimedBy stage).fingerprint = f.fingerprint := by
  cases f <;> rfl

theorem agrees_claimedBy (f : Failure) (stage : String) : (f.claimedBy stage).Agrees f := by
  cases f <;> exact ⟨rfl, rfl, rfl, rfl⟩

theorem stage?_claimedBy (f : Failure) (stage : String) :
    (f.claimedBy stage).stage? = if f.category = .handler then f.stage?.or (some stage) else none := by
  cases f with
  | handler failure => cases failure with
    | mk identity exceptionType stage? report => cases stage? <;> rfl
  | deserialization messageId reason => rfl
  | dispatch messageId destination reason => rfl

theorem fingerprint_claimedByAll (f : Failure) (stages : List String) :
    (f.claimedByAll stages).fingerprint = f.fingerprint := by
  induction stages generalizing f with
  | nil => rfl
  | cons stage rest ih => exact (ih _).trans (fingerprint_claimedBy f stage)

theorem agrees_claimedByAll (f : Failure) (stages : List String) :
    (f.claimedByAll stages).Agrees f := by
  induction stages generalizing f with
  | nil => exact .refl f
  | cons stage rest ih => exact (ih _).trans (agrees_claimedBy f stage)

theorem claimedByAll_append (f : Failure) (first second : List String) :
    f.claimedByAll (first ++ second) = (f.claimedByAll first).claimedByAll second :=
  List.foldl_append

end Failure

theorem sameAs_claimedBy (cause : Failure) (name : String) :
    (cause.claimedBy name).sameAs cause = true :=
  Failure.sameAs_iff.2 (Failure.fingerprint_claimedBy cause name)

end Redelivery
