import Redelivery.Proofs.Processing.ModeAgreement
import Redelivery.Proofs.Processing.RootCause
import Redelivery.Proofs.Processing.UnreadableMessages
import Redelivery.Proofs.Processing.PolicyQuestions

/-! When the policy of delayed retries is asked, and what follows. The failures of one processing
are counted: one more than there are immediate retries, and the policy is asked, once, about the
last of them; with fewer it is not asked. A processing may also be cut off in between, by the
counter of its deliveries. -/
namespace Redelivery

/-- How many handlers failed in a way that may be retried. -/
def stumbles (ds : List Deed) : Nat := (ds.filterMap Deed.failure?).countP (·.isRetryable)

def stumbled (ds : List Deed) : Bool := (lastFailure ds).any (·.isRetryable)

def HandlerOutcome.mayRetry : HandlerOutcome → Bool
  | .failed failure => failure.isRetryable
  | _ => false

theorem HandlerOutcome.mayRetry_done : HandlerOutcome.done.mayRetry = false := rfl

theorem HandlerOutcome.mayRetry_panicked (text : String) :
    (HandlerOutcome.panicked text).mayRetry = false := rfl

def Deed.dispatch? : Deed → Option Operation
  | .dispatched op _ => some op
  | _ => none

/-- All that was given to the dispatcher, whether it could be sent or not. -/
def dispatches (ds : List Deed) : List Operation := ds.filterMap Deed.dispatch?

section counts
variable (a b ds : List Deed)

theorem failures_entered (stage messageId : String) :
    (.entered stage messageId :: ds).filterMap Deed.failure? = ds.filterMap Deed.failure? := rfl

@[simp] theorem stumbles_append : stumbles (a ++ b) = stumbles a + stumbles b := by
  simp [stumbles]

@[simp] theorem dispatches_append : dispatches (a ++ b) = dispatches a ++ dispatches b :=
  List.filterMap_append

theorem failures_acts :
    (ds.filter Deed.isAct).filterMap Deed.failure? = ds.filterMap Deed.failure? :=
  filterMap_acts (fun _ _ => rfl) ds

theorem stumbles_acts : stumbles (ds.filter Deed.isAct) = stumbles ds := by
  rw [stumbles, stumbles, failures_acts]

theorem dispatches_acts : dispatches (ds.filter Deed.isAct) = dispatches ds :=
  filterMap_acts (fun _ _ => rfl) ds

theorem dispatches_of_stays {ds : List Deed}
    (stays : ∀ deed ∈ ds, deed.isParting = false) : dispatches ds = [] := by
  refine List.filterMap_eq_nil_iff.2 fun deed member => ?_
  have here := stays deed member
  cases deed <;> first | rfl | cases here

theorem stumbles_of_few (few : (ds.filterMap Deed.failure?).length ≤ 1) :
    stumbles ds = (stumbled ds).toNat := by
  rw [stumbles, stumbled, lastFailure]
  generalize ds.filterMap Deed.failure? = failures at few
  cases failures with
  | nil => rfl
  | cons failure rest =>
    have none : rest = [] := List.length_eq_zero_iff.1 (Nat.le_zero.1 (Nat.le_of_succ_le_succ few))
    cases retryable : failure.isRetryable <;> simp [none, retryable]

end counts

section failures
variable {σ : Type} {o : Outside σ} {handlers : List (Nat × String)} {bound : Nat}
  {mode : DecisionMode} {asked : DelayPolicy} {policy : Option DelayPolicy} {failure : Failure}
  {errorQueue : String} {c : Context} {w w' : World σ} {p : Passage} {ds : List Deed}

theorem handleAll_failures (o : Outside σ) (handlers : List (Nat × String)) (m : Incoming)
    (st : σ) :
    let r := o.handleAll handlers m st
    (r.deeds.filterMap Deed.failure?).length ≤ 1 ∧ stumbles r.deeds = r.verdict.mayRetry.toNat := by
  apply o.handleAll_induction (P := fun _ _ _ r =>
    (r.deeds.filterMap Deed.failure?).length ≤ 1 ∧ stumbles r.deeds = r.verdict.mayRetry.toNat)
  case empty => exact fun _ _ => ⟨Nat.zero_le 1, rfl⟩
  case done =>
    intro slot name rest m st r outcome ih
    simpa [Handled.after, stumbles, List.filterMap_cons, Deed.failure?, outcome] using ih
  case failed =>
    intro slot name rest m st failure outcome
    cases retryable : failure.isRetryable <;>
      simp [stumbles, List.filterMap_cons, Deed.failure?, outcome, HandlerOutcome.mayRetry,
        isRetryable_claimedBy, retryable]
  case panicked =>
    intro slot name rest m st text outcome
    simp [stumbles, List.filterMap_cons, Deed.failure?, outcome, HandlerOutcome.mayRetry]

theorem calls_nothing_fails (quiet : ∀ d ∈ ds, d.isCall = false) :
    ds.filterMap Deed.failure? = [] := by
  refine List.filterMap_eq_nil_iff.2 fun d member => ?_
  have still := quiet d member
  cases d <;> first | rfl | cases still

theorem Tries.failures (tries : Tries o handlers bound c w p w' ds) :
    (ds.filterMap Deed.failure?).length ≤ 1 := by
  have few := (handleAll_failures o handlers c.message w.outside).1
  cases tries with
  | succeeded handled done => exact handled ▸ few
  | absorbed handled failed retryable left told =>
    subst handled
    simpa [List.filterMap_cons, Deed.failure?] using few
  | usedUp handled failed retryable spent => exact handled ▸ few
  | unreadable handled failed hopeless => exact handled ▸ few

theorem Delays.failures (delays : Delays o handlers bound mode c w policy p w' ds) :
    (ds.filterMap Deed.failure?).length ≤ 1 := by
  cases delays with
  | absent tries => exact tries.failures
  | resumed later pending defers =>
    rw [failures_entered, calls_nothing_fails defers.calls_nothing]
    exact Nat.zero_le 1
  | passed fresh tries fine => exact tries.failures
  | postponed later fresh tries failed retryable => exact tries.failures
  | unreadable later fresh tries failed hopeless => exact tries.failures
  | decided now tries failed defers =>
    rw [List.filterMap_append, calls_nothing_fails defers.calls_nothing, List.append_nil]
    exact tries.failures

theorem Delivers.failures
    (delivers : Delivers o handlers bound mode policy errorQueue c w p w' ds) :
    (ds.filterMap Deed.failure?).length ≤ 1 := by
  cases delivers with
  | resumed later pending forwards =>
    rw [failures_entered, calls_nothing_fails forwards.calls_nothing]
    exact Nat.zero_le 1
  | passed fresh delays fine => exact delays.failures
  | postponed later fresh delays failed => exact delays.failures
  | forwarded now delays failed forwards =>
    rw [List.filterMap_append, calls_nothing_fails forwards.calls_nothing, List.append_nil]
    exact delays.failures

end failures

section attempts
variable {σ : Type} (o : Outside σ) (handlers : List (Nat × String)) (m : Incoming)
  (left before : Nat) (st : σ)

theorem attempts_questions : questions (o.attempts handlers m left before st).deeds = [] := by
  apply attempts_induction o handlers m (P := fun _ _ _ r => questions r.deeds = [])
  case ending =>
    rintro left before st r rfl _
    exact handleAll_questions o handlers m st
  case usedUp =>
    rintro before st r failure rfl _ _
    exact handleAll_questions o handlers m st
  case again =>
    rintro left before st r failure notice later rfl _ _ _ ih
    rw [Handled.after, questions_append, questions_append, handleAll_questions, ih]
    rfl

theorem attempts_dispatches : dispatches (o.attempts handlers m left before st).deeds = [] :=
  dispatches_of_stays (attempts_stays o handlers m left before st)

theorem attempts_stumbles :
    let r := o.attempts handlers m left before st
    if r.verdict.mayRetry then stumbles r.deeds = left + 1 else stumbles r.deeds ≤ left := by
  apply attempts_induction o handlers m (P := fun left _ _ r =>
    if r.verdict.mayRetry then stumbles r.deeds = left + 1 else stumbles r.deeds ≤ left)
  case ending =>
    rintro left before st r rfl hopeless
    have none : (o.handleAll handlers m st).verdict.mayRetry = false := by
      cases verdict : (o.handleAll handlers m st).verdict with
      | failed failure => exact hopeless failure verdict
      | _ => rfl
    rw [none, (handleAll_failures o handlers m st).2, none]
    exact Nat.zero_le left
  case usedUp =>
    rintro before st r failure rfl failed retryable
    have may : (o.handleAll handlers m st).verdict.mayRetry = true := by
      rw [failed]
      exact retryable
    have one := (handleAll_failures o handlers m st).2
    rw [may] at one
    simp [may, one]
  case again =>
    rintro left before st r failure notice later rfl failed retryable rfl ih
    have one := (handleAll_failures o handlers m st).2
    rw [failed, HandlerOutcome.mayRetry, retryable] at one
    have told : stumbles [.notified (immediateNotice before
      (o.handleAll handlers m st).message failure)] = 0 := rfl
    simp only [Handled.after, stumbles_append, one, told]
    split at ih <;> rename_i verdict
    · rw [if_pos verdict, ih]
      simp only [Bool.toNat_true]
      omega
    · rw [if_neg verdict]
      simp only [Bool.toNat_true]
      omega

end attempts

structure Operation.FollowsDenial (op : Operation) (s : Settings) (m : Incoming)
    (q : DelayQuestion) : Prop where
  destination : op.destination = s.errorQueue
  id : op.message.id = m.id
  body : op.message.body = m.originalBody
  tells : op.message.headers.Describe q.failure
  uncounted : op.message.headers.get? Headers.retries = none

/-- The one question of a processing, with what was done before and after it, all of it unless the
processing was cut off. -/
structure Inquiry {σ : Type} (o : Outside σ) (handlers : List (Nat × String)) (s : Settings)
    (m : Incoming) (cut : Prop) (tries : List Deed) (q : DelayQuestion) (answer : Option Duration)
    (rest : List Deed) : Prop where
  first : questions tries = []
  undispatched : dispatches tries = []
  spent : stumbles tries = s.immediateRetries.toNat + 1
  cause : ∃ cause, lastFailure tries = some cause ∧ q.failure.sameAs cause = true
  retryable : ∀ cause, lastFailure tries = some cause → cause.isRetryable = true
  number : q.retry = min (q.message.headers.retryCount + 1) Whole.max32
  counted : o.KeepsHeaders handlers → q.message.headers.retryCount = m.headers.retryCount
  last : questions rest = []
  unfailing : rest.filterMap Deed.failure? = []
  denied : answer = none → ∃ op, op.FollowsDenial s m q ∧
    (dispatches rest = [op] ∨ dispatches rest = [] ∧ cut)

section inquiry
variable {σ : Type} {o : Outside σ} {handlers : List (Nat × String)} {s : Settings}
  {given : Option DelayPolicy} {m shown : Incoming} {failure : Failure} {st : σ}
  {asked : DelayPolicy}

theorem forward_quiet (o : Outside σ) (s : Settings) (failure : Failure) (shown : Incoming)
    (st : σ) :
    let ds := (o.forward s failure shown st).deeds
    questions ds = [] ∧ ds.filterMap Deed.failure? = [] ∧
      dispatches ds = [faultedOperation s.errorQueue s.address shown failure (o.now st)] := by
  rw [Outside.forward]
  split <;> exact ⟨rfl, rfl, rfl⟩

theorem consulted_deeds (o : Outside σ) (s : Settings) (asked : DelayPolicy) (failure : Failure)
    (m : Incoming) (st : σ) :
    ∃ answer rest, (o.consulted s asked failure m st).deeds =
        .consulted asked (.about failure m) answer :: rest ∧
      questions rest = [] ∧ rest.filterMap Deed.failure? = [] ∧
      (answer = none → ∃ time,
        dispatches rest = [faultedOperation s.errorQueue s.address m failure time]) := by
  rw [Outside.consulted]
  split
  · obtain ⟨unasked, unfailing, sent⟩ := forward_quiet o s failure m
      (o.answerPolicy asked (.about failure m) st).2.1
    exact ⟨none, _, rfl, unasked, unfailing, fun _ => ⟨_, sent⟩⟩
  · rename_i delay granted
    dsimp only
    split
    · rename_i refusal refused
      obtain ⟨unasked, unfailing, -⟩ := forward_quiet o s refusal m (o.dispatch (delayedOperation
        s.address m delay (o.now (o.answerPolicy asked (.about failure m) st).2.1))
        (o.answerPolicy asked (.about failure m) st).2.1).2
      exact ⟨some delay, _, rfl, unasked, unfailing, fun denied => by cases denied⟩
    · exact ⟨some delay, _, rfl, rfl, rfl, fun denied => by cases denied⟩

theorem followsDenial (id : shown.id = m.id) (body : shown.originalBody = m.originalBody)
    (time : Instant) (q : DelayQuestion) :
    (faultedOperation s.errorQueue s.address shown q.failure time).FollowsDenial s m q where
  destination := rfl
  id := id
  body := body
  tells := describe_faulted _ _ _ _
  uncounted := Incoming.faulted_uncounted _ _ _ _

theorem retryCount_of_alike (alike : m.Alike [] shown) :
    shown.headers.retryCount = m.headers.retryCount := by
  rw [Headers.retryCount, Headers.retryCount,
    alike.headers.same Headers.retries (by decide) (by simp)]

theorem inquiry_of_attempts (o : Outside σ) (asked : DelayPolicy)
    (failed : (o.attempts handlers m s.immediateRetries.toNat 0 st).verdict = .failed failure)
    (retryable : failure.isRetryable = true) :
    let r := o.attempts handlers m s.immediateRetries.toNat 0 st
    ∃ answer rest, (o.consulted s asked failure ((ReceivePipeline.modeOf s).shown m r.message)
        r.outside).deeds = .consulted asked
          (.about failure ((ReceivePipeline.modeOf s).shown m r.message)) answer :: rest ∧
      Inquiry o handlers s m False r.deeds
        (.about failure ((ReceivePipeline.modeOf s).shown m r.message)) answer rest := by
  intro r
  obtain ⟨⟨cause, name, last, claimed⟩, id, body, -⟩ :=
    attempts_failed handlers m s.immediateRetries.toNat 0 st failed
  have may : r.verdict.mayRetry = true := by
    rw [show r.verdict = .failed failure from failed]
    exact retryable
  have spent := attempts_stumbles o handlers m s.immediateRetries.toNat 0 st
  rw [if_pos may] at spent
  obtain ⟨answer, rest, deeds, once, unfailing, forwarded⟩ := consulted_deeds o s asked failure
    ((ReceivePipeline.modeOf s).shown m r.message) r.outside
  refine ⟨answer, rest, deeds, ?_⟩
  exact {
    first := attempts_questions o handlers m _ 0 st
    undispatched := attempts_dispatches o handlers m _ 0 st
    spent
    cause := ⟨cause, last, claimed ▸ sameAs_claimedBy cause name⟩
    retryable := by
      intro cause' last'
      cases last.symm.trans last'
      rw [← isRetryable_claimedBy cause name, ← claimed]
      exact retryable
    number := rfl
    counted := by
      intro keeps
      have alike := attempts_alike keeps m s.immediateRetries.toNat 0 st
      cases ReceivePipeline.modeOf s with
      | onNextDelivery => rfl
      | atOnce => exact retryCount_of_alike alike
    last := once
    unfailing
    denied := by
      intro none
      obtain ⟨time, sent⟩ := forwarded none
      refine ⟨_, followsDenial ?_ ?_ time (.about failure _), .inl sent⟩
      · cases ReceivePipeline.modeOf s with
        | onNextDelivery => rfl
        | atOnce => exact id
      · cases ReceivePipeline.modeOf s with
        | onNextDelivery => rfl
        | atOnce => exact body }

theorem fate_inquiry (chosen : ReceivePipeline.policyOf s given = some asked) (o : Outside σ)
    (handlers : List (Nat × String)) (m : Incoming) (st : σ) :
    let ds := (o.fate s given handlers m s.immediateRetries.toNat 0 st).deeds
    (questions ds = [] ∧ stumbles ds ≤ s.immediateRetries.toNat) ∨
      ∃ tries q answer rest, ds = tries ++ .consulted asked q answer :: rest ∧
        Inquiry o handlers s m False tries q answer rest := by
  have unasked := attempts_questions o handlers m s.immediateRetries.toNat 0 st
  have few := attempts_stumbles o handlers m s.immediateRetries.toNat 0 st
  rw [Outside.fate]
  dsimp only at few ⊢
  split
  · rename_i done
    rw [done, HandlerOutcome.mayRetry_done, if_neg Bool.false_ne_true] at few
    exact .inl ⟨unasked, few⟩
  · rename_i failure failed
    rw [Outside.decided, chosen]
    cases retryable : failure.isRetryable with
    | true =>
      obtain ⟨answer, rest, deeds, inquiry⟩ := inquiry_of_attempts o asked failed retryable
      refine .inr ⟨_, _, answer, rest, ?_, inquiry⟩
      simp only [if_true, Fate.after, deeds]
    | false =>
      rw [failed, HandlerOutcome.mayRetry, retryable, if_neg Bool.false_ne_true] at few
      obtain ⟨quiet, unfailing, -⟩ := forward_quiet o s failure ((ReceivePipeline.modeOf s).shown m
        (o.attempts handlers m s.immediateRetries.toNat 0 st).message)
        (o.attempts handlers m s.immediateRetries.toNat 0 st).outside
      refine .inl ⟨?_, ?_⟩
      · simp [Fate.after, unasked, quiet]
      · simpa [Fate.after, stumbles, unfailing] using few
  · rename_i text panicked
    rw [panicked, HandlerOutcome.mayRetry_panicked, if_neg Bool.false_ne_true] at few
    exact .inl ⟨unasked, few⟩

/-- The beginning of what was done around a question ends before it or after it. -/
theorem beginning_around {α : Type} {first before after : List α} {a : α}
    (beginning : first <+: before ++ a :: after) :
    first <+: before ∨ ∃ rest, rest <+: after ∧ first = before ++ a :: rest := by
  rcases List.prefix_or_prefix_of_prefix beginning (List.prefix_append before (a :: after)) with
    early | ⟨late, rfl⟩
  · exact .inl early
  · have within := (List.prefix_append_right_inj before).1 beginning
    rcases List.prefix_cons_iff.1 within with none | ⟨rest, same, later⟩
    · exact .inl (by simp [none])
    · exact .inr ⟨rest, later, by rw [same]⟩

section parts
variable {cut : Prop} {tries rest : List Deed} {q : DelayQuestion} {answer : Option Duration}

theorem Inquiry.acts (inquiry : Inquiry o handlers s m cut tries q answer rest) :
    Inquiry o handlers s m cut (tries.filter Deed.isAct) q answer (rest.filter Deed.isAct) where
  first := by rw [questions_acts, inquiry.first]
  undispatched := by rw [dispatches_acts, inquiry.undispatched]
  spent := by rw [stumbles_acts, inquiry.spent]
  cause := by rw [lastFailure_acts]; exact inquiry.cause
  retryable := by rw [lastFailure_acts]; exact inquiry.retryable
  number := inquiry.number
  counted := inquiry.counted
  last := by rw [questions_acts, inquiry.last]
  unfailing := by rw [failures_acts, inquiry.unfailing]
  denied := by rw [dispatches_acts]; exact inquiry.denied

theorem Inquiry.beginning (inquiry : Inquiry o handlers s m False tries q answer rest) (off : cut)
    {less : List Deed} (beginning : less <+: rest) :
    Inquiry o handlers s m cut tries q answer less where
  first := inquiry.first
  undispatched := inquiry.undispatched
  spent := inquiry.spent
  cause := inquiry.cause
  retryable := inquiry.retryable
  number := inquiry.number
  counted := inquiry.counted
  last := List.prefix_nil.1 (inquiry.last ▸ beginning.filterMap Deed.question?)
  unfailing := List.prefix_nil.1 (inquiry.unfailing ▸ beginning.filterMap Deed.failure?)
  denied none := by
    obtain ⟨op, follows, sent | ⟨-, never⟩⟩ := inquiry.denied none
    · refine ⟨op, follows, ?_⟩
      have few : dispatches less <+: [op] := sent ▸ beginning.filterMap Deed.dispatch?
      rcases List.prefix_cons_iff.1 few with unsent | ⟨more, same, nothing⟩
      · exact .inr ⟨unsent, off⟩
      · exact .inl (by rw [same, List.prefix_nil.1 nothing])
    · exact never.elim

theorem Inquiry.whole (inquiry : Inquiry o handlers s m False tries q answer rest) (cut : Prop) :
    Inquiry o handlers s m cut tries q answer rest :=
  { inquiry with
    denied := fun none => (inquiry.denied none).imp fun _ follows =>
      follows.imp_right fun sent => sent.imp_right fun never => never.2.elim }

end parts

end inquiry

/-- The delivery in which the immediate retries were used up: its handlers failed in a way that may
be retried, after as many deliveries in which they did. -/
def UsesUp {σ : Type} (bound : Nat) (deliveries : List (Course σ Delivery))
    (pass : Course σ Delivery) : Prop :=
  ∃ earlier later, deliveries = earlier ++ pass :: later ∧
    earlier.countP (fun d => stumbled d.deeds) = bound ∧ stumbled pass.deeds = true

structure CutOff {σ : Type} (allowed : Nat) (deliveries : List (Course σ Delivery)) : Prop where
  all : deliveries.length = allowed
  aborted : ∀ pass ∈ deliveries, pass.ended = .done .aborted

section deliveries
variable {σ : Type} {deliveries : List (Course σ Delivery)} {bound : Nat}
  {pass : Course σ Delivery}

theorem stumbles_flatMap
    (few : ∀ pass ∈ deliveries, (pass.deeds.filterMap Deed.failure?).length ≤ 1) :
    stumbles (deliveries.flatMap (·.deeds)) = deliveries.countP fun d => stumbled d.deeds := by
  induction deliveries with
  | nil => rfl
  | cons pass deliveries ih =>
    rw [List.flatMap_cons, stumbles_append, ih fun other member =>
      few other (List.mem_cons_of_mem _ member), List.countP_cons,
      stumbles_of_few _ (few pass List.mem_cons_self)]
    cases stumbled pass.deeds <;> simp [Nat.add_comm]

theorem exists_usesUp (enough : bound < deliveries.countP fun d => stumbled d.deeds) :
    ∃ pass, UsesUp bound deliveries pass := by
  induction deliveries generalizing bound with
  | nil => cases enough
  | cons first deliveries ih =>
    cases here : stumbled first.deeds with
    | false =>
      rw [List.countP_cons_of_neg (by simp [here])] at enough
      obtain ⟨pass, earlier, later, split, count, failed⟩ := ih enough
      exact ⟨pass, first :: earlier, later, by rw [split]; rfl, by simp [here, count], failed⟩
    | true =>
      rw [List.countP_cons, here, if_pos rfl] at enough
      cases bound with
      | zero => exact ⟨first, [], deliveries, rfl, rfl, here⟩
      | succ bound =>
        obtain ⟨pass, earlier, later, split, count, failed⟩ := ih (Nat.lt_of_succ_lt_succ enough)
        exact ⟨pass, first :: earlier, later, by rw [split]; rfl, by simp [here, count], failed⟩

theorem UsesUp.enough (usesUp : UsesUp bound deliveries pass) :
    bound < deliveries.countP fun d => stumbled d.deeds := by
  obtain ⟨earlier, later, rfl, count, failed⟩ := usesUp
  simp only [List.countP_append, List.countP_cons, failed, count, if_true]
  omega

theorem exists_of_lastFailure {cause : Failure}
    (last : lastFailure (deliveries.flatMap (·.deeds)) = some cause) :
    ∃ pass ∈ deliveries, lastFailure pass.deeds = some cause := by
  induction deliveries with
  | nil => cases last
  | cons first deliveries ih =>
    rw [List.flatMap_cons, lastFailure_append] at last
    cases later : lastFailure (deliveries.flatMap (·.deeds)) with
    | some other =>
      rw [later] at last
      cases last
      obtain ⟨pass, member, failed⟩ := ih later
      exact ⟨pass, List.mem_cons_of_mem _ member, failed⟩
    | none =>
      rw [later] at last
      exact ⟨first, List.mem_cons_self, last⟩

theorem UsesUp.lastFailure {cause : Failure} (usesUp : UsesUp bound deliveries pass)
    (exactly : (deliveries.countP fun d => stumbled d.deeds) = bound + 1)
    (last : lastFailure (deliveries.flatMap (·.deeds)) = some cause)
    (retryable : cause.isRetryable = true) : Redelivery.lastFailure pass.deeds = some cause := by
  obtain ⟨earlier, later, rfl, count, failed⟩ := usesUp
  have none : (later.countP fun d => stumbled d.deeds) = 0 := by
    simp only [List.countP_append, List.countP_cons, failed, count, if_true] at exactly
    omega
  rw [List.flatMap_append, List.flatMap_cons, lastFailure_append, lastFailure_append] at last
  cases after : Redelivery.lastFailure (later.flatMap (·.deeds)) with
  | some other =>
    -- A later failure would be the last, and of a delivery that stumbled as well.
    rw [after] at last
    cases last
    obtain ⟨pass', member, failed'⟩ := exists_of_lastFailure after
    have still := List.countP_eq_zero.1 none pass' member
    simp [stumbled, failed', retryable] at still
  | none =>
    rw [after, Option.none_or] at last
    cases known : Redelivery.lastFailure pass.deeds with
    | none => simp [stumbled, known] at failed
    | some mine =>
      rw [known] at last
      exact last

end deliveries

namespace ReceivePipeline
variable {σ : Type} {o : Outside σ} {handlers : List (Nat × String)} {s : Settings}
  {given : Option DelayPolicy} {p : ReceivePipeline} {m : Incoming} {w : World σ}
  {asked : DelayPolicy}

theorem passes_more (o : Outside σ) (p : ReceivePipeline) (m : Incoming) (allowed more : Nat)
    (w : World σ) :
    passes o p m (allowed + more) w = passes o p m allowed w ∨
      CutOff allowed (passes o p m allowed w) := by
  -- On the smaller number: the deliveries agree up to it, and are cut off there or over before.
  induction allowed generalizing w with
  | zero => exact .inr ⟨rfl, fun _ member => absurd member List.not_mem_nil⟩
  | succ allowed ih =>
    rw [Nat.add_right_comm]
    rcases aborted_or_last o p m w with ⟨w', ds, aborted⟩ | last
    · rw [passes_aborted _ aborted, passes_aborted _ aborted]
      rcases ih w' with same | cut
      · exact .inl (congrArg _ same)
      · refine .inr ⟨congrArg (· + 1) cut.all, fun pass member => ?_⟩
        rcases List.mem_cons.1 member with rfl | later
        · rfl
        · exact cut.aborted pass later
    · exact .inl (by rw [passes_last _ last, passes_last _ last])

theorem leads_of_aborted {allowed : Nat}
    (aborted : ∀ pass ∈ passes o p m allowed w, pass.ended = .done .aborted) :
    ∃ v, Leads o p m w (passes o p m allowed w) v := by
  induction allowed generalizing w with
  | zero => exact ⟨w, .here w⟩
  | succ allowed ih =>
    rcases aborted_or_last o p m w with ⟨w', ds, first⟩ | last
    · rw [passes_aborted _ first] at aborted ⊢
      obtain ⟨v, leads⟩ := ih fun pass member => aborted pass (List.mem_cons_of_mem _ member)
      exact ⟨v, .again first leads⟩
    · rw [passes_last _ last] at aborted
      exact absurd (aborted _ List.mem_cons_self) last

/-- No processing is cut off that is allowed more deliveries than it can need. -/
theorem CutOff.bound {allowed : Nat} (built : build s given (handlerStages handlers) = .ok p)
    (cut : CutOff allowed (passes o p m allowed w)) :
    allowed ≤ s.immediateRetries.toNat + 2 := by
  obtain ⟨v, leads⟩ := leads_of_aborted cut.aborted
  have left := leads.deliveriesLeft built
  have some := v.table.deliveriesLeft_pos (modeOf s) (policyOf s given)
    s.immediateRetries.toNat m.id
  have most := w.table.deliveriesLeft_le (modeOf s) (policyOf s given)
    s.immediateRetries.toNat m.id
  rw [cut.all] at left
  omega

theorem passes_failures (built : build s given (handlerStages handlers) = .ok p) {allowed : Nat} :
    ∀ pass ∈ passes o p m allowed w, (pass.deeds.filterMap Deed.failure?).length ≤ 1 := by
  intro pass member
  obtain ⟨before, after, split⟩ := List.append_of_mem member
  obtain ⟨v, left, leads, counted, rfl, rest⟩ := leads_of_passes split
  rcases delivers_or_panicked built o m v with ⟨passage, w', ds, delivers, course⟩ | panicked
  · rw [course]
    exact delivers.failures
  · obtain ⟨text, w', ds, panic, course, acts⟩ := panicked
    rw [course, ← failures_acts, acts, failures_acts]
    exact (handleAll_failures o handlers m v.outside).1

/-- What a processing did, with or without a question. -/
theorem processWithin_inquiry (built : build s given (handlerStages handlers) = .ok p)
    (unrecorded : w.table.lookup m.id = none) (chosen : policyOf s given = some asked)
    (o : Outside σ) (allowed : Nat) :
    let ds := ((p.processWithin m allowed 0).course o w).deeds
    let cut := CutOff allowed (passes o p m allowed w)
    (questions ds = [] ∧ (stumbles ds ≤ s.immediateRetries.toNat ∨ cut)) ∨
      ∃ tries q answer rest,
        ds.filter Deed.isAct = tries ++ .consulted asked q answer :: rest ∧
        Inquiry o handlers s m cut tries q answer rest := by
  intro ds cut
  have fulfils := process_fulfils_fate (o := o) (allowed + (s.immediateRetries.toNat + 3)) 0 built
    unrecorded (Nat.le_add_left _ _)
  have beginning := (deeds_processWithin_fewer o p m allowed (s.immediateRetries.toNat + 3) 0
    w).filter Deed.isAct
  rw [fulfils.deeds] at beginning
  have whole : cut ∨ ds.filter Deed.isAct =
      (o.fate s given handlers m s.immediateRetries.toNat 0 w.outside).deeds.filter Deed.isAct := by
    rcases passes_more o p m allowed (s.immediateRetries.toNat + 3) w with same | off
    · right
      rw [← fulfils.deeds, deeds_processWithin, same, ← deeds_processWithin o p m allowed 0 w]
    · exact .inl off
  rcases fate_inquiry chosen o handlers m w.outside with ⟨unasked, few⟩ | inquired
  · left
    have none : questions ds = [] := by
      rw [← questions_acts]
      refine List.prefix_nil.1 ?_
      rw [← unasked, ← questions_acts (Fate.deeds _)]
      exact beginning.filterMap Deed.question?
    refine ⟨none, whole.symm.imp_left fun same => ?_⟩
    rwa [← stumbles_acts, same, stumbles_acts]
  · obtain ⟨tries, q, answer, rest, deeds, inquiry⟩ := inquired
    have acts : (o.fate s given handlers m s.immediateRetries.toNat 0 w.outside).deeds.filter
        Deed.isAct = tries.filter Deed.isAct ++ .consulted asked q answer ::
          rest.filter Deed.isAct := by
      rw [deeds, List.filter_append]
      rfl
    rcases whole with off | same
    · rw [acts] at beginning
      rcases beginning_around beginning with early | ⟨less, later, split⟩
      · left
        refine ⟨?_, .inr off⟩
        rw [← questions_acts]
        refine List.prefix_nil.1 ?_
        rw [← inquiry.acts.first]
        exact early.filterMap Deed.question?
      · exact .inr ⟨_, q, answer, less, split, inquiry.acts.beginning off later⟩
    · exact .inr ⟨_, q, answer, _, same.trans acts, inquiry.acts.whole cut⟩

/-- How the policy of delayed retries is asked in a processing, if a number of deliveries is
allowed. -/
structure AskedOnce (o : Outside σ) (handlers : List (Nat × String)) (s : Settings)
    (asked : DelayPolicy) (m : Incoming) (allowed : Nat) (deliveries : List (Course σ Delivery))
    (ds : List Deed) : Prop where
  deeds : ds = deliveries.flatMap (·.deeds)
  once : (questions ds).length ≤ 1
  due : ∀ policy q answer, (policy, q, answer) ∈ questions ds → policy = asked ∧
    ∃ pass cause, UsesUp s.immediateRetries.toNat deliveries pass ∧
      lastFailure pass.deeds = some cause ∧ q.failure.sameAs cause = true ∧
      q.retry = min (q.message.headers.retryCount + 1) Whole.max32 ∧
      (o.KeepsHeaders handlers → q.message.headers.retryCount = m.headers.retryCount)
  always : ∀ pass, UsesUp s.immediateRetries.toNat deliveries pass →
    questions ds ≠ [] ∨ CutOff allowed deliveries
  denied : ∀ q, (asked, q, none) ∈ questions ds → ∃ op, op.FollowsDenial s m q ∧
    (dispatches ds = [op] ∨ dispatches ds = [] ∧ CutOff allowed deliveries)
  whole : s.immediateRetries.toNat + 3 ≤ allowed → ¬ CutOff allowed deliveries

/-- A message without a record: the policy is asked at most once while it is processed, just when
its handlers failed in a way that may be retried with all immediate retries used up, and about that
failure. If it denies a retry, nothing is dispatched but the forward of that failure. Only bounds
of immediate retries at the end of 32 bits leave no deliveries to ask or to forward. -/
theorem policy_asked_once (built : build s given (handlerStages handlers) = .ok p)
    (unrecorded : w.table.lookup m.id = none) (chosen : policyOf s given = some asked)
    (o : Outside σ) :
    AskedOnce o handlers s asked m Whole.max32 (passes o p m Whole.max32 w)
      ((p.process m).course o w).deeds := by
  obtain ⟨deliveries, same⟩ : ∃ deliveries, passes o p m Whole.max32 w = deliveries := ⟨_, rfl⟩
  obtain ⟨ds, done⟩ : ∃ ds, ((p.process m).course o w).deeds = ds := ⟨_, rfl⟩
  have deeds : ds = deliveries.flatMap (·.deeds) := by
    rw [← done, ← same]
    exact deeds_processWithin o p m Whole.max32 0 w
  have counted : stumbles ds = deliveries.countP fun d => stumbled d.deeds := by
    rw [deeds, ← same]
    exact stumbles_flatMap (passes_failures built)
  have whole : s.immediateRetries.toNat + 3 ≤ Whole.max32 → ¬ CutOff Whole.max32 deliveries := by
    intro room cut
    have few := CutOff.bound built (same ▸ cut)
    omega
  have inquired := processWithin_inquiry built unrecorded chosen o Whole.max32
  rw [same] at inquired ⊢
  rw [show ((p.processWithin m Whole.max32 0).course o w).deeds = ds from done] at inquired
  rw [done]
  rcases inquired with ⟨unasked, few⟩ | ⟨tries, q, answer, rest, acts, inquiry⟩
  · exact {
      deeds, whole
      once := by simp [unasked]
      due := by simp [unasked]
      always := by
        intro pass usesUp
        have enough := usesUp.enough
        exact .inr (few.resolve_left (by omega))
      denied := by simp [unasked] }
  · have only : questions ds = [(asked, q, answer)] := by
      have after : questions (.consulted asked q answer :: rest) =
          (asked, q, answer) :: questions rest := rfl
      rw [← questions_acts, acts, questions_append, inquiry.first, after, inquiry.last]
      rfl
    have spent : (deliveries.countP fun d => stumbled d.deeds) =
        s.immediateRetries.toNat + 1 := by
      rw [← counted, ← stumbles_acts, acts, stumbles_append, inquiry.spent]
      simp [stumbles, List.filterMap_cons, Deed.failure?, inquiry.unfailing]
    obtain ⟨cause, last, sameFailure⟩ := inquiry.cause
    have final : lastFailure (deliveries.flatMap (·.deeds)) = some cause := by
      rw [← deeds, ← lastFailure_acts, acts, lastFailure_append, last]
      simp [lastFailure, List.filterMap_cons, Deed.failure?, inquiry.unfailing]
    exact {
      deeds, whole
      once := by simp [only]
      due := by
        intro policy q' answer' member
        rw [only] at member
        cases List.mem_singleton.1 member
        have enough : s.immediateRetries.toNat < deliveries.countP fun d => stumbled d.deeds := by
          omega
        obtain ⟨pass, usesUp⟩ := exists_usesUp enough
        exact ⟨rfl, pass, cause, usesUp,
          usesUp.lastFailure spent final (inquiry.retryable cause last), sameFailure,
          inquiry.number, inquiry.counted⟩
      always := fun pass usesUp => .inl (by simp [only])
      denied := by
        intro q' member
        rw [only] at member
        cases List.mem_singleton.1 member
        have sent : dispatches ds = dispatches rest := by
          rw [← dispatches_acts, acts, dispatches_append, inquiry.undispatched]
          rfl
        rw [sent]
        exact inquiry.denied rfl }

def tiredOrder : Incoming := .received "m1" (Headers.empty.insert Headers.retries "3") []

theorem stumbling_asked_once : ∃ p q,
    build (.forAddress "orders") none (handlerStages [(0, "Billing")]) = .ok p ∧
    (FailureTable.ofCapacity 1).lookup tiredOrder.id = none ∧
    policyOf (.forAddress "orders") none = some .standard ∧
    questions ((p.process tiredOrder).course Cast.stumbling.outside
      ⟨.ofCapacity 1, {}⟩).deeds = [(.standard, q, none)] ∧ q.retry = 4 ∧
    AskedOnce Cast.stumbling.outside [(0, "Billing")] (.forAddress "orders") .standard tiredOrder
      Whole.max32 (passes Cast.stumbling.outside p tiredOrder Whole.max32 ⟨.ofCapacity 1, {}⟩)
      ((p.process tiredOrder).course Cast.stumbling.outside ⟨.ofCapacity 1, {}⟩).deeds :=
  ⟨_, _, rfl, rfl, rfl, rfl, rfl,
    policy_asked_once (m := tiredOrder) (w := ⟨.ofCapacity 1, {}⟩) rfl rfl rfl
      Cast.stumbling.outside⟩

end ReceivePipeline
end Redelivery
