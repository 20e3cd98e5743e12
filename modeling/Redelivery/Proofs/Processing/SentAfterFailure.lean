import Redelivery.Proofs.Processing.Decision
import Redelivery.Proofs.Failure.Identity
import Redelivery.Proofs.Processing.Deliveries

/-! What a processing sends away, and what it did before. A message parts as a delayed copy or on
its way to the error queue. Either is made from the message as received, up to the number of
immediate retries, and follows upon the last failure of a handler. What the error queue is told is
that failure, unless a copy could not be sent before. -/
namespace Redelivery

/-- Every deed of a list is as asked for, given the deeds before it. -/
def EachAfter (P : List Deed → Deed → Prop) (seen : List Deed) : List Deed → Prop
  | [] => True
  | deed :: ds => P seen deed ∧ EachAfter P (seen ++ [deed]) ds

structure Indifferent (P : List Deed → Deed → Prop) : Prop where
  entered : ∀ seen stage messageId, P seen (.entered stage messageId)
  congr : ∀ seen seen' deed, seen.filter Deed.isAct = seen'.filter Deed.isAct →
    P seen deed → P seen' deed

section each
variable {P : List Deed → Deed → Prop} {seen seen' ds ds' : List Deed}

theorem eachAfter_append :
    EachAfter P seen (ds ++ ds') ↔ EachAfter P seen ds ∧ EachAfter P (seen ++ ds) ds' := by
  induction ds generalizing seen with
  | nil => simp [EachAfter]
  | cons deed ds ih => simp [EachAfter, ih, and_assoc]

theorem EachAfter.here {before after : List Deed} {deed : Deed}
    (each : EachAfter P [] (before ++ deed :: after)) : P before deed :=
  (eachAfter_append.1 each).2.1

theorem EachAfter.beginning (each : EachAfter P seen ds') (first : ds <+: ds') :
    EachAfter P seen ds := by
  obtain ⟨later, rfl⟩ := first
  exact (eachAfter_append.1 each).1

theorem EachAfter.congr (indifferent : Indifferent P)
    (same : seen.filter Deed.isAct = seen'.filter Deed.isAct) (each : EachAfter P seen ds) :
    EachAfter P seen' ds := by
  induction ds generalizing seen seen' with
  | nil => exact trivial
  | cons deed ds ih =>
    refine ⟨indifferent.congr _ _ _ same each.1, ih ?_ each.2⟩
    rw [List.filter_append, List.filter_append, same]

theorem eachAfter_acts (indifferent : Indifferent P) :
    EachAfter P seen (ds.filter Deed.isAct) ↔ EachAfter P seen ds := by
  induction ds generalizing seen with
  | nil => rfl
  | cons deed ds ih =>
    cases act : deed.isAct with
    | true =>
      rw [List.filter_cons_of_pos act]
      exact and_congr_right fun _ => ih
    | false =>
      have silent : (seen ++ [deed]).filter Deed.isAct = seen.filter Deed.isAct := by simp [act]
      have entered : P seen deed := by
        cases deed <;> first | exact indifferent.entered _ _ _ | cases act
      rw [List.filter_cons_of_neg (by simp [act]), ih]
      constructor
      · exact fun each => ⟨entered, each.congr indifferent silent.symm⟩
      · exact fun each => each.2.congr indifferent silent

end each

def Deed.failure? : Deed → Option Failure
  | .called _ _ _ handling =>
    match handling.outcome with
    | .failed failure => some failure
    | _ => none
  | _ => none

def lastFailure (ds : List Deed) : Option Failure := (ds.filterMap Deed.failure?).getLast?

theorem lastFailure_append (a b : List Deed) :
    lastFailure (a ++ b) = (lastFailure b).or (lastFailure a) := by
  simp [lastFailure, List.getLast?_append]

theorem lastFailure_acts (ds : List Deed) : lastFailure (ds.filter Deed.isAct) = lastFailure ds := by
  rw [lastFailure, lastFailure, filterMap_acts fun _ _ => rfl]

theorem refused_acts (ds : List Deed) :
    (tally (ds.filter Deed.isAct)).refused = (tally ds).refused := by
  induction ds with
  | nil => rfl
  | cons deed ds ih =>
    cases act : deed.isAct with
    | true =>
      rw [List.filter_cons_of_pos act, tally_cons, tally_cons, Tally.refused_add,
        Tally.refused_add, ih]
    | false =>
      rw [List.filter_cons_of_neg (by simp [act]), ih]
      cases deed <;> first | rfl | cases act

/-- What is said to have failed, after some deeds the last of which was brought about by a cause:
that cause, unless something could not be sent. -/
structure Blames (before : List Deed) (cause failure : Failure) : Prop where
  unrefused : (tally before).refused = [] → failure.sameAs cause = true
  refused : ∀ refusal ∈ (tally before).refused, failure = refusal.2

/-- The message that is sent away after a failure: as received, up to the number of immediate
retries where the decision follows the attempt. -/
structure Carries {σ : Type} (o : Outside σ) (handlers : List (Nat × String)) (s : Settings)
    (m : Incoming) (cause : Failure) (shown : Incoming) : Prop where
  id : shown.id = m.id
  originalBody : shown.originalBody = m.originalBody
  later : ReceivePipeline.modeOf s = .onNextDelivery → shown = m
  now : ReceivePipeline.modeOf s = .atOnce → o.KeepsHeaders handlers → shown.headers =
    if cause.isRetryable then
      m.headers.insert Headers.immediateRetries (Whole.text s.immediateRetries.toNat)
    else m.headers

/-- A deed that sends a message away, or tells that it went to the error queue. -/
def Deed.isParting : Deed → Bool
  | .dispatched .. => true
  | .notified (.faulted ..) => true
  | _ => false

inductive Parting {σ : Type} (o : Outside σ) (handlers : List (Nat × String)) (s : Settings)
    (given : Option DelayPolicy) (m : Incoming) (before : List Deed) : Deed → Prop where
  | copy {asked : DelayPolicy} {q : DelayQuestion} {delay : Duration} {cause : Failure}
      {shown : Incoming} (time : Instant) (refusal : Option Failure)
      (chosen : ReceivePipeline.policyOf s given = some asked)
      (granted : .consulted asked q (some delay) ∈ before)
      (last : lastFailure before = some cause) (retryable : cause.isRetryable = true)
      (carries : Carries o handlers s m cause shown) :
      Parting o handlers s given m before
        (.dispatched (delayedOperation s.address shown delay time) refusal)
  | forward {cause failure : Failure} {shown : Incoming} (time : Instant)
      (refusal : Option Failure) (last : lastFailure before = some cause)
      (blames : Blames before cause failure) (carries : Carries o handlers s m cause shown) :
      Parting o handlers s given m before
        (.dispatched (faultedOperation s.errorQueue s.address shown failure time) refusal)
  | told {cause failure : Failure} (copy : Incoming) (last : lastFailure before = some cause)
      (blames : Blames before cause failure) :
      Parting o handlers s given m before (.notified (.faulted copy failure))
  | other {deed : Deed} (stays : deed.isParting = false) :
      Parting o handlers s given m before deed

section partings
variable {σ : Type} {o : Outside σ} {handlers : List (Nat × String)} {s : Settings}
  {given : Option DelayPolicy} {m shown : Incoming} {cause failure : Failure}
  {seen ds : List Deed}

theorem indifferent_parting : Indifferent (Parting o handlers s given m) where
  entered seen stage messageId := .other rfl
  congr := by
    intro seen seen' deed same parting
    have last : lastFailure seen' = lastFailure seen := by
      rw [← lastFailure_acts seen, same, lastFailure_acts]
    have refused : (tally seen').refused = (tally seen).refused := by
      rw [← refused_acts seen, same, refused_acts]
    have blamed {cause failure : Failure} (blames : Blames seen cause failure) :
        Blames seen' cause failure :=
      ⟨fun none => blames.unrefused (refused ▸ none), fun r member =>
        blames.refused r (refused ▸ member)⟩
    cases parting with
    | copy time refusal chosen granted known retryable carries =>
      have act := List.mem_filter.2 ⟨granted, (rfl : Deed.isAct (.consulted _ _ _) = true)⟩
      rw [same] at act
      exact .copy time refusal chosen (List.mem_filter.1 act).1 (last.trans known) retryable carries
    | forward time refusal known blames carries =>
      exact .forward time refusal (last.trans known) (blamed blames) carries
    | told copy known blames => exact .told copy (last.trans known) (blamed blames)
    | other stays => exact .other stays

theorem eachAfter_stays (stays : ∀ deed ∈ ds, deed.isParting = false) :
    EachAfter (Parting o handlers s given m) seen ds := by
  induction ds generalizing seen with
  | nil => exact trivial
  | cons deed ds ih =>
    exact ⟨.other (stays deed List.mem_cons_self),
      ih fun other member => stays other (List.mem_cons_of_mem _ member)⟩

theorem refused_stays (stays : ∀ deed ∈ ds, deed.isParting = false) : (tally ds).refused = [] := by
  induction ds with
  | nil => rfl
  | cons deed ds ih =>
    have later := ih fun other member => stays other (List.mem_cons_of_mem _ member)
    have here := stays deed List.mem_cons_self
    cases deed <;> first | exact later | cases here

theorem lastFailure_append_silent {more : List Deed} (last : lastFailure seen = some cause)
    (silent : lastFailure more = none) : lastFailure (seen ++ more) = some cause := by
  rw [lastFailure_append, silent, last]
  rfl

theorem forward_partings (o : Outside σ) (st : σ) (last : lastFailure seen = some cause)
    (blames : Blames seen cause failure) (carries : Carries o handlers s m cause shown) :
    EachAfter (Parting o handlers s given m) seen (o.forward s failure shown st).deeds := by
  rw [Outside.forward]
  split
  · exact ⟨.forward _ _ last blames carries, .other rfl, trivial⟩
  · have sent : Parting o handlers s given m (seen ++ [.dispatched (faultedOperation s.errorQueue
        s.address shown failure (o.now st)) none])
        (.notified (.faulted (shown.faulted failure s.address (o.now st)) failure)) := by
      refine .told _ (lastFailure_append_silent last rfl) ⟨?_, ?_⟩
      · simpa [Deed.tally] using blames.unrefused
      · simpa [Deed.tally] using blames.refused
    exact ⟨.forward _ _ last blames carries, sent, trivial⟩

theorem decided_partings (o : Outside σ) (st : σ) (given : Option DelayPolicy)
    (last : lastFailure seen = some cause) (unrefused : (tally seen).refused = [])
    (same : failure.sameAs cause = true) (alike : failure.isRetryable = cause.isRetryable)
    (carries : Carries o handlers s m cause shown) :
    EachAfter (Parting o handlers s given m) seen (o.decided s given failure shown st).deeds := by
  have blames (more : List Deed) (none : (tally more).refused = []) :
      Blames (seen ++ more) cause failure :=
    ⟨fun _ => same, fun refusal member => by simp [unrefused, none] at member⟩
  have forwarded : EachAfter (Parting o handlers s given m) seen
      (o.forward s failure shown st).deeds := by
    have none := blames [] rfl
    rw [List.append_nil] at none
    exact forward_partings o st last none carries
  rw [Outside.decided]
  split
  · rename_i asked chosen
    split
    · rename_i retryable
      rw [alike] at retryable
      rw [Outside.consulted]
      split
      · refine eachAfter_append.2 ⟨⟨.other rfl, trivial⟩, ?_⟩
        exact forward_partings o _ (lastFailure_append_silent last rfl) (blames _ rfl) carries
      · rename_i delay granted
        have copy (refusal : Option Failure) : Parting o handlers s given m
            (seen ++ [.consulted asked (.about failure shown) (some delay)]) (.dispatched
              (delayedOperation s.address shown delay
                (o.now (o.answerPolicy asked (.about failure shown) st).2.1)) refusal) :=
          .copy (q := .about failure shown) _ refusal chosen (by simp)
            (lastFailure_append_silent last rfl) retryable carries
        dsimp only
        split
        · rename_i refusal refused
          refine eachAfter_append.2 ⟨⟨.other rfl, copy _, .other rfl, trivial⟩, ?_⟩
          -- From here on it is the copy that failed.
          refine forward_partings o _ (lastFailure_append_silent last rfl) ⟨?_, ?_⟩ carries
          · intro none
            simp [Deed.tally] at none
          · simp [unrefused, Deed.tally]
        · exact ⟨.other rfl, copy _, .other rfl, trivial⟩
    · exact forwarded
  · exact forwarded

end partings

section attempts
variable {σ : Type} {o : Outside σ} {handlers : List (Nat × String)} {s : Settings}
  {given : Option DelayPolicy} {m : Incoming} {failure : Failure} {st : σ}

theorem handleAll_stays (o : Outside σ) (handlers : List (Nat × String)) (m : Incoming) (st : σ) :
    ∀ deed ∈ (o.handleAll handlers m st).deeds, deed.isParting = false := by
  apply o.handleAll_induction (P := fun _ _ _ r => ∀ deed ∈ r.deeds, deed.isParting = false)
  case empty => simp
  case done =>
    intro slot name rest m s r outcome ih
    simpa [Handled.after, Deed.isParting] using ih
  case failed => simp [Deed.isParting]
  case panicked => simp [Deed.isParting]

/-- A chain of handlers that failed did so with the failure of its last call. -/
theorem handleAll_lastFailure (failed : (o.handleAll handlers m st).verdict = .failed failure) :
    ∃ cause name, lastFailure (o.handleAll handlers m st).deeds = some cause ∧
      failure = cause.claimedBy name := by
  have along := o.handleAll_induction
    (P := fun _ _ _ r => ∀ failure, r.verdict = .failed failure →
      ∃ cause name, lastFailure r.deeds = some cause ∧ failure = cause.claimedBy name)
    ?empty ?done ?failed ?panicked handlers m st
  case empty =>
    intro m s failure failed
    cases failed
  case done =>
    intro slot name rest m s r outcome ih failure failed
    obtain ⟨cause, name', last, claimed⟩ := ih failure failed
    refine ⟨cause, name', ?_, claimed⟩
    rw [Handled.after, lastFailure_append, last]
    rfl
  case failed =>
    intro slot name rest m s cause outcome failure failed
    cases failed
    exact ⟨cause, name, by simp [lastFailure, Deed.failure?, outcome], rfl⟩
  case panicked =>
    intro slot name rest m s text outcome failure failed
    cases failed
  exact along failure failed

theorem attempts_stays (o : Outside σ) (handlers : List (Nat × String)) (m : Incoming)
    (left before : Nat) (st : σ) :
    ∀ deed ∈ (o.attempts handlers m left before st).deeds, deed.isParting = false := by
  apply attempts_induction o handlers m (P := fun _ _ _ r => ∀ deed ∈ r.deeds, deed.isParting = false)
  case ending =>
    rintro left before st r rfl _
    exact handleAll_stays o handlers m st
  case usedUp =>
    rintro before st r failure rfl _ _
    exact handleAll_stays o handlers m st
  case again =>
    rintro left before st r failure notice later rfl _ _ rfl ih deed member
    rcases List.mem_append.1 member with first | later
    · rcases List.mem_append.1 first with attempt | told
      · exact handleAll_stays o handlers m st deed attempt
      · cases List.mem_singleton.1 told
        rfl
    · exact ih deed later

/-- Attempts that came to nothing ended with a failure of a handler, and left the message as it was
but for the number of immediate retries, if the handlers leave headers alone. -/
theorem attempts_failed (handlers : List (Nat × String)) (m : Incoming) (left before : Nat) (st : σ)
    (failed : (o.attempts handlers m left before st).verdict = .failed failure) :
    let r := o.attempts handlers m left before st
    (∃ cause name, lastFailure r.deeds = some cause ∧ failure = cause.claimedBy name) ∧
      r.message.id = m.id ∧ r.message.originalBody = m.originalBody ∧
      (o.KeepsHeaders handlers → r.message.headers =
        if failure.isRetryable then
          m.headers.insert Headers.immediateRetries (Whole.text (before + left))
        else m.headers) := by
  have along := attempts_induction o handlers m
    (P := fun left before _ r => ∀ failure, r.verdict = .failed failure →
      (∃ cause name, lastFailure r.deeds = some cause ∧ failure = cause.claimedBy name) ∧
        r.message.id = m.id ∧ r.message.originalBody = m.originalBody ∧
        (o.KeepsHeaders handlers → r.message.headers =
          if failure.isRetryable then
            m.headers.insert Headers.immediateRetries (Whole.text (before + left))
          else m.headers)) ?ending ?usedUp ?again left before st
  case ending =>
    rintro left before st r rfl hopeless failure failed
    refine ⟨handleAll_lastFailure failed, handleAll_id o handlers m st,
      handleAll_originalBody o handlers m st, fun keeps => ?_⟩
    rw [handleAll_headers o handlers keeps, hopeless failure failed]
    rfl
  case usedUp =>
    rintro before st r failure rfl verdict retryable failure' failed
    cases verdict.symm.trans failed
    refine ⟨handleAll_lastFailure verdict, handleAll_id o handlers m st,
      handleAll_originalBody o handlers m st, fun keeps => ?_⟩
    rw [if_pos retryable, ← handleAll_headers o handlers keeps m st]
    rfl
  case again =>
    rintro left before st r failure notice later rfl _ _ rfl ih failure' failed
    obtain ⟨⟨cause, name, last, claimed⟩, id, body, headers⟩ := ih failure' failed
    refine ⟨⟨cause, name, ?_, claimed⟩, id, body, fun keeps => ?_⟩
    · rw [Handled.after, lastFailure_append, last]
      rfl
    · rw [show before + (left + 1) = before + 1 + left by omega]
      exact headers keeps
  exact along failure failed

end attempts

namespace ReceivePipeline
variable {σ : Type} {o : Outside σ} {handlers : List (Nat × String)} {s : Settings}
  {given : Option DelayPolicy} {p : ReceivePipeline} {m : Incoming} {w : World σ}

theorem carries_shown {attempted : Incoming} {cause failure : Failure} (id : attempted.id = m.id)
    (body : attempted.originalBody = m.originalBody)
    (alike : failure.isRetryable = cause.isRetryable)
    (headers : o.KeepsHeaders handlers → attempted.headers =
      if failure.isRetryable then
        m.headers.insert Headers.immediateRetries (Whole.text s.immediateRetries.toNat)
      else m.headers) :
    Carries o handlers s m cause ((modeOf s).shown m attempted) := by
  rw [alike] at headers
  cases mode : modeOf s with
  | onNextDelivery => exact ⟨rfl, rfl, fun _ => rfl, fun now => by cases mode.symm.trans now⟩
  | atOnce => exact ⟨id, body, fun later => by (cases mode.symm.trans later), fun _ => headers⟩

theorem fate_partings (o : Outside σ) (handlers : List (Nat × String)) (s : Settings)
    (given : Option DelayPolicy) (m : Incoming) (st : σ) :
    EachAfter (Parting o handlers s given m) []
      (o.fate s given handlers m s.immediateRetries.toNat 0 st).deeds := by
  have stays := attempts_stays o handlers m s.immediateRetries.toNat 0 st
  rw [Outside.fate]
  split
  · exact eachAfter_stays stays
  · rename_i failure failed
    obtain ⟨⟨cause, name, last, claimed⟩, id, body, headers⟩ :=
      attempts_failed handlers m s.immediateRetries.toNat 0 st failed
    rw [Nat.zero_add] at headers
    have alike : failure.isRetryable = cause.isRetryable := by
      rw [claimed]
      exact isRetryable_claimedBy cause name
    have same : failure.sameAs cause = true := by
      rw [claimed]
      exact sameAs_claimedBy cause name
    exact eachAfter_append.2 ⟨eachAfter_stays stays, decided_partings o _ given last
      (refused_stays stays) same alike (carries_shown id body alike headers)⟩
  · exact eachAfter_stays stays

theorem processWithin_partings (built : build s given (handlerStages handlers) = .ok p)
    (unrecorded : w.table.lookup m.id = none) (o : Outside σ) (allowed : Nat) :
    EachAfter (Parting o handlers s given m) [] ((p.processWithin m allowed 0).course o w).deeds := by
  have fulfils := process_fulfils_fate (o := o) (allowed + (s.immediateRetries.toNat + 3)) 0 built
    unrecorded (Nat.le_add_left _ _)
  have whole := (eachAfter_acts indifferent_parting).2
    (fate_partings o handlers s given m w.outside)
  rw [← fulfils.deeds, eachAfter_acts indifferent_parting] at whole
  exact whole.beginning (deeds_processWithin_fewer o p m allowed _ 0 w)

end ReceivePipeline
end Redelivery
