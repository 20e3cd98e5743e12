import Redelivery.Pipeline.World

/-! The course of a flow in a world: how it ended, the world it left, and its deeds. A deed is a
request that matters outside the pipeline, together with its answer, so that a call of a handler
is seen with all the handler did. Log entries and observations are left out, and what is left of
the events of a run is its deeds as they look from outside. -/
namespace Redelivery

inductive Deed where
  | entered (stage messageId : String)
  | called (slot : Nat) (name : String) (message : Incoming) (handling : Handling)
  | consulted (policy : DelayPolicy) (question : DelayQuestion) (answer : Option Duration)
  | dispatched (op : Operation) (failed : Option Failure)
  | notified (n : Notification)
  | critical (text : String) (failure : Failure)

/-- The deed of a request with its answer, if it is one. -/
def Request.deed? : (r : Request) → r.Answer → Option Deed
  | .enter stage messageId, _ => some (.entered stage messageId)
  | .handle slot name m, handling => some (.called slot name m handling)
  | .consult policy q, delay => some (.consulted policy q delay)
  | .dispatch op, failed => some (.dispatched op failed)
  | .notify n, _ => some (.notified n)
  | .critical text failure, _ => some (.critical text failure)
  | .lookup _, _ => none
  | .record .., _ => none
  | .clear _, _ => none
  | .pause _, _ => none
  | .now, _ => none
  | .log _, _ => none
  | .observe _, _ => none

def DelayPolicy.host? : DelayPolicy → Option Nat
  | .host number => some number
  | _ => none

def Deed.event : Deed → Event
  | .entered stage messageId => .entered stage messageId
  | .called _ name m handling => .called name handling.call m
  | .consulted policy q delay => .consulted policy.host? q delay
  | .dispatched op failed => .dispatched op failed
  | .notified n => .notified n
  | .critical text failure => .critical text failure

def Deed.isAct : Deed → Bool
  | .entered .. => false
  | _ => true

theorem filterMap_acts {β : Type} {f : Deed → Option β}
    (unentered : ∀ stage id, f (.entered stage id) = none) (ds : List Deed) :
    (ds.filter Deed.isAct).filterMap f = ds.filterMap f := by
  rw [List.filterMap_filter]
  congr 1
  funext deed
  cases deed <;> first | rfl | exact (unentered _ _).symm

def Event.isDeed : Event → Bool
  | .logged _ => false
  | .observed _ => false
  | _ => true

structure Course (σ α : Type) where
  ended : Ended α
  world : World σ
  deeds : List Deed

namespace Course
variable {σ α : Type}

def after (earlier : List Deed) (c : Course σ α) : Course σ α :=
  { c with deeds := earlier ++ c.deeds }

@[simp] theorem after_after (earlier later : List Deed) (c : Course σ α) :
    (c.after later).after earlier = c.after (earlier ++ later) := by
  simp [after, List.append_assoc]

@[simp] theorem after_mk (earlier ds : List Deed) (ended : Ended α) (w : World σ) :
    (⟨ended, w, ds⟩ : Course σ α).after earlier = ⟨ended, w, earlier ++ ds⟩ := rfl

@[simp] theorem deeds_after (earlier : List Deed) (c : Course σ α) :
    (c.after earlier).deeds = earlier ++ c.deeds := rfl

end Course

namespace Flow
variable {σ α β : Type} (o : Outside σ) (w : World σ)

def deeds (o : Outside σ) : Flow α → World σ → List Deed
  | .done _, _ => []
  | .panicked _, _ => []
  | .ask r next, w =>
    (r.deed? (o.answer w r).1).toList ++ deeds o (next (o.answer w r).1) (o.answer w r).2.1

def course (x : Flow α) : Course σ α := ⟨(x.run o w).ended, (x.run o w).world, x.deeds o w⟩

theorem course_pure (a : α) : (pure a : Flow α).course o w = ⟨.done a, w, []⟩ := rfl

theorem course_panicked (text : String) :
    (Flow.panicked text : Flow α).course o w = ⟨.panicked text, w, []⟩ := rfl

theorem course_ask (r : Request) (next : r.Answer → Flow α) :
    (Flow.ask r next).course o w =
      ((next (o.answer w r).1).course o (o.answer w r).2.1).after
        (r.deed? (o.answer w r).1).toList := rfl

theorem course_bind (x : Flow α) (f : α → Flow β) :
    (x >>= f).course o w =
      match x.course o w with
      | ⟨.done a, w', ds⟩ => ((f a).course o w').after ds
      | ⟨.panicked text, w', ds⟩ => ⟨.panicked text, w', ds⟩ := by
  change (x.bind f).course o w = _
  induction x generalizing w with
  | done a => rfl
  | panicked text => rfl
  | ask r next ih =>
    rw [bind, course_ask, course_ask, ih]
    generalize (next (o.answer w r).1).course o (o.answer w r).2.1 = first
    obtain ⟨ended, w', ds⟩ := first
    cases ended with
    | done a => simp
    | panicked text => rfl

theorem course_bind_done {x : Flow α} {a : α} {w' : World σ} {ds : List Deed}
    (first : x.course o w = ⟨.done a, w', ds⟩) (f : α → Flow β) :
    (x >>= f).course o w = ((f a).course o w').after ds := by
  rw [course_bind, first]

theorem course_bind_panicked {x : Flow α} {text : String} {w' : World σ} {ds : List Deed}
    (first : x.course o w = ⟨.panicked text, w', ds⟩) (f : α → Flow β) :
    (x >>= f).course o w = ⟨.panicked text, w', ds⟩ := by
  rw [course_bind, first]

section requests
variable (id : String) (failure : Failure)

theorem course_lookup (f : Option FailureRecord → Flow α) :
    (lookup id >>= f).course o w = (f (w.table.lookup id)).course o w := rfl

theorem course_record (toErrorQueue toDelay : Bool) (f : Unit → Flow α) :
    (record id failure toErrorQueue toDelay >>= f).course o w =
      (f ()).course o { w with table := (w.table.record id failure toErrorQueue toDelay).1 } := rfl

theorem course_handle (slot : Nat) (m : Incoming) (f : Handling → Flow α) :
    (handle slot id m >>= f).course o w =
      ((f (o.handle slot m w.outside).1).course o
        { w with outside := (o.handle slot m w.outside).2 }).after
          [.called slot id m (o.handle slot m w.outside).1] := rfl

theorem course_pause (length : Duration) (f : Unit → Flow α) :
    (pause length >>= f).course o w = (f ()).course o w := rfl

theorem course_consult (policy : DelayPolicy) (q : DelayQuestion) (f : Option Duration → Flow α) :
    (consult policy q >>= f).course o w =
      ((f (o.answerPolicy policy q w.outside).1).course o
        { w with outside := (o.answerPolicy policy q w.outside).2.1 }).after
          [.consulted policy q (o.answerPolicy policy q w.outside).1] := rfl

theorem course_dispatch (op : Operation) (f : Option Failure → Flow α) :
    (dispatch op >>= f).course o w =
      ((f (o.dispatch op w.outside).1.failure).course o
        { w with outside := (o.dispatch op w.outside).2 }).after
          [.dispatched op (o.dispatch op w.outside).1.failure] := rfl

theorem course_now (f : Instant → Flow α) :
    (now >>= f).course o w = (f (o.now w.outside)).course o w := rfl

theorem course_log (entry : LogEntry) (f : Unit → Flow α) :
    (log entry >>= f).course o w = (f ()).course o w := rfl

theorem course_logAll (entries : List LogEntry) (f : Unit → Flow α) :
    (logAll entries >>= f).course o w = (f ()).course o w := by
  induction entries with
  | nil => rfl
  | cons entry rest ih => exact ih

end requests

theorem answer_events (r : Request) :
    (o.answer w r).2.2.filter Event.isDeed =
      ((r.deed? (o.answer w r).1).map Deed.event).toList := by
  have quiet : ∀ entries : List LogEntry, (entries.map Event.logged).filter Event.isDeed = [] := by
    intro entries
    simp [Event.isDeed]
  cases r with
  | record id failure toErrorQueue toDelay => exact quiet _
  | consult policy q =>
    cases policy with
    | linear retries increase => rfl
    | ofMessage schedule =>
      simp only [Outside.answer, Outside.answerPolicy, List.filter_append, quiet]
      rfl
    | host number => rfl
  | dispatch op =>
    simp only [Outside.answer, List.filter_append, quiet]
    rfl
  | critical text failure =>
    simp only [Outside.answer, List.filter_cons, quiet]
    rfl
  | _ => rfl

/-- What is seen of a run, log entries and observations apart, is its deeds. -/
theorem events_run (x : Flow α) :
    (x.run o w).events.filter Event.isDeed = (x.deeds o w).map Deed.event := by
  induction x generalizing w with
  | done a => rfl
  | panicked text => rfl
  | ask r next ih =>
    simp only [run, Run.after, deeds, List.filter_append, List.map_append, answer_events, ih]
    cases r.deed? (o.answer w r).1 <;> rfl

end Flow
end Redelivery
