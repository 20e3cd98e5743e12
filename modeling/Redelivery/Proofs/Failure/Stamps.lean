import Redelivery.Proofs.Processing.PolicyAskedOnce

/-! What is left of older failures. A message that comes back from an error queue still carries
what was written onto it on its way there, and its next failure is written over that. The headers
then tell of the last failure alone, but for one of them: a failure without a known stage leaves
the name of the stage that an older one wrote. -/
namespace Redelivery

/-- A failure as it is written onto headers: with the queue it happened in and its time. -/
structure Mark where
  failure : Failure
  queue : String
  time : Instant

namespace Headers

def mark (h : Headers) (m : Mark) : Headers := h.stampFailure m.failure m.queue m.time

def marked (h : Headers) (marks : List Mark) : Headers := marks.foldl mark h

def failureKeys : List String :=
  [timeOfFailure, failedQueue, exceptionStackTrace, exceptionMessage, exceptionType,
    exceptionSource]

/-- Headers that tell of a failure and name a source, and agree with other headers on the rest. -/
structure Reports (h : Headers) (m : Mark) (source : Option String) (others : Headers) :
    Prop where
  timeOfFailure : h.get? Headers.timeOfFailure = some m.time.wireText
  failedQueue : h.get? Headers.failedQueue = some m.queue
  stackTrace : h.get? Headers.exceptionStackTrace = some m.failure.stackTrace
  message : h.get? Headers.exceptionMessage = some m.failure.text
  exceptionType : h.get? Headers.exceptionType = some m.failure.exceptionType
  source : h.get? Headers.exceptionSource = source
  others : ∀ key ∉ failureKeys, h.get? key = others.get? key

end Headers

def lastStage? : List Mark → Option String
  | [] => none
  | m :: later => (lastStage? later).or m.failure.stage?

/-- A message that was sent to the error queue for each of some failures and came back each time. -/
def Incoming.replayed (m : Incoming) (marks : List Mark) : Incoming :=
  marks.foldl (fun m mark => (m.faulted mark.failure mark.queue mark.time).toOutgoing.toIncoming) m

section stamps
variable {h h' others : Headers} {m : Mark} {source source' : Option String}

theorem reports_mark (h : Headers) (m : Mark) :
    (h.mark m).Reports m (m.failure.stage?.or (h.get? Headers.exceptionSource)) h := by
  have told (key : String) : (h.mark m).get? key =
      ((m.failure.stamps m.queue m.time).lookup key).or (h.get? key) :=
    Headers.get?_stampFailure h m.failure m.queue m.time key
  unfold Failure.stamps at told
  constructor
  case others =>
    intro key other
    simp only [Headers.failureKeys, List.mem_cons, List.not_mem_nil, or_false, not_or] at other
    rw [told]
    cases m.failure.stage? <;> simp [Headers.lookup_cons, other]
  all_goals
    rw [told]
    cases m.failure.stage? <;> rfl

theorem Headers.Reports.unique (reports : h.Reports m source others)
    (reports' : h'.Reports m source others) : h = h' := by
  refine Headers.ext_get? fun key => ?_
  by_cases known : key ∈ Headers.failureKeys
  · simp only [Headers.failureKeys, List.mem_cons, List.not_mem_nil, or_false] at known
    rcases known with rfl | rfl | rfl | rfl | rfl | rfl
    · rw [reports.timeOfFailure, reports'.timeOfFailure]
    · rw [reports.failedQueue, reports'.failedQueue]
    · rw [reports.stackTrace, reports'.stackTrace]
    · rw [reports.message, reports'.message]
    · rw [reports.exceptionType, reports'.exceptionType]
    · rw [reports.source, reports'.source]
  · rw [reports.others key known, reports'.others key known]

theorem Headers.Reports.eq_iff (reports : h.Reports m source others)
    (reports' : h'.Reports m source' others) : h = h' ↔ source = source' := by
  constructor
  · rintro rfl
    exact reports.source.symm.trans reports'.source
  · rintro rfl
    exact reports.unique reports'

theorem source_marked (h : Headers) (marks : List Mark) :
    (h.marked marks).get? Headers.exceptionSource =
      (lastStage? marks).or (h.get? Headers.exceptionSource) := by
  induction marks generalizing h with
  | nil => rfl
  | cons m later ih =>
    calc (h.marked (m :: later)).get? Headers.exceptionSource
        = (lastStage? later).or ((h.mark m).get? Headers.exceptionSource) := ih (h.mark m)
      _ = (lastStage? (m :: later)).or (h.get? Headers.exceptionSource) := by
        rw [(reports_mark h m).source, lastStage?, Option.or_assoc]

theorem others_marked (h : Headers) (marks : List Mark) {key : String}
    (other : key ∉ Headers.failureKeys) : (h.marked marks).get? key = h.get? key := by
  induction marks generalizing h with
  | nil => rfl
  | cons m later ih => exact (ih (h.mark m)).trans ((reports_mark h m).others key other)

theorem reports_marked (h : Headers) (earlier : List Mark) (last : Mark) :
    ((h.marked earlier).mark last).Reports last
      (last.failure.stage?.or ((lastStage? earlier).or (h.get? Headers.exceptionSource))) h := by
  have reports := reports_mark (h.marked earlier) last
  rw [source_marked] at reports
  exact { reports with
    others := fun key other => (reports.others key other).trans (others_marked h earlier other) }

theorem marked_congr {key : String} (marks : List Mark) (same : h.get? key = h'.get? key) :
    (h.marked marks).get? key = (h'.marked marks).get? key := by
  induction marks generalizing h h' with
  | nil => exact same
  | cons m later ih =>
    refine ih ?_
    simp only [Headers.mark, Headers.get?_stampFailure, same]

theorem headers_replayed (m : Incoming) (marks : List Mark) {key : String}
    (other : key ≠ Headers.retries) :
    (m.replayed marks).headers.get? key = (m.headers.marked marks).get? key := by
  induction marks generalizing m with
  | nil => rfl
  | cons mark later ih =>
    refine (ih _).trans (marked_congr later ?_)
    rw [Headers.mark, Headers.get?_stampFailure]
    exact (m.get?_faulted mark.failure mark.queue mark.time key).trans (if_neg other)

theorem headers_faulted_replayed (m : Incoming) (earlier : List Mark) (last : Mark) :
    ((m.replayed earlier).faulted last.failure last.queue last.time).headers =
      ((m.headers.marked earlier).mark last).erase Headers.retries := by
  refine Headers.ext_get? fun key => ?_
  rw [Incoming.get?_faulted, Headers.get?_erase, Headers.mark, Headers.get?_stampFailure]
  by_cases number : key = Headers.retries
  · rw [if_pos number, if_pos number]
  · rw [if_neg number, if_neg number, headers_replayed m earlier number]

theorem dispatches_forwardToErrorQueue {σ : Type} (o : Outside σ) (errorQueue : String)
    (failure : Failure) (c : Context) (w : World σ) :
    dispatches ((Stage.forwardToErrorQueue errorQueue failure c).deeds o w) =
      [faultedOperation errorQueue c.address c.message failure (o.now w.outside)] := by
  obtain ⟨p, w', ds, forwards⟩ := exists_forwards o errorQueue failure c w
  have deeds : (Stage.forwardToErrorQueue errorQueue failure c).deeds o w = ds :=
    congrArg Course.deeds forwards.course
  rw [deeds]
  cases forwards with
  | sent copy accepted told => rw [← copy]; rfl
  | refused copy refused => rw [← copy]; rfl

end stamps

/-- The headers tell of the last failure, its queue and its time, whatever was written onto them
before, and leave all others alone. The exception is the source: it is the last one that any of
the failures names, and else the one before them all. So earlier failures leave no trace exactly
if the last one names its stage, or no earlier one does, or the stage was there before. The
forward of a message that was replayed after earlier failures carries these headers. -/
theorem last_failure_told (h : Headers) (earlier : List Mark) (last : Mark) :
    ((h.marked earlier).mark last).Reports last
      (last.failure.stage?.or ((lastStage? earlier).or (h.get? Headers.exceptionSource))) h ∧
    ((h.marked earlier).mark last = h.mark last ↔
      last.failure.stage? ≠ none ∨ lastStage? earlier = none ∨
        lastStage? earlier = h.get? Headers.exceptionSource) ∧
    ∀ {σ : Type} (o : Outside σ) (w : World σ) (errorQueue address : String) (m : Incoming)
        (failure : Failure), ∃ op,
      dispatches ((Stage.forwardToErrorQueue errorQueue failure
        { message := m.replayed earlier, address }).deeds o w) = [op] ∧
      op.message.headers = ((m.headers.marked earlier).mark
        ⟨failure, address, o.now w.outside⟩).erase Headers.retries := by
  have told := reports_marked h earlier last
  refine ⟨told, ?_, fun o w errorQueue address m failure =>
    ⟨_, dispatches_forwardToErrorQueue o errorQueue failure _ w,
      headers_faulted_replayed m earlier ⟨failure, address, o.now w.outside⟩⟩⟩
  rw [told.eq_iff (reports_mark h last)]
  cases last.failure.stage? with
  | some stage => simp
  | none =>
    cases lastStage? earlier with
    | none => simp
    | some older => simp

section unread

def failedBefore : Mark :=
  { failure := .handler ⟨0, Failure.untypedReport, some "OldHandler", { text := "boom" }⟩
    queue := "sales", time := ⟨0, 0⟩ }

def unread : Mark :=
  { failure := .deserialization "m1" "bad json", queue := "sales", time := ⟨0, 0⟩ }

theorem older_source_stays :
    unread.failure.stage? = none ∧
    ((Headers.empty.mark failedBefore).mark unread).get? Headers.exceptionSource =
      some "OldHandler" ∧
    (Headers.empty.mark failedBefore).mark unread ≠ Headers.empty.mark unread := by
  have stays : ((Headers.empty.mark failedBefore).mark unread).get? Headers.exceptionSource =
      some "OldHandler" := (reports_marked Headers.empty [failedBefore] unread).source
  have absent : (Headers.empty.mark unread).get? Headers.exceptionSource = none :=
    (reports_mark Headers.empty unread).source
  refine ⟨rfl, stays, fun same => ?_⟩
  rw [same, absent] at stays
  cases stays

end unread
end Redelivery
