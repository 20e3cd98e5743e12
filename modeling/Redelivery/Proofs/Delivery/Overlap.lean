import Mathlib.Data.List.Forall2
import Redelivery.Proofs.Delivery.TimeIndependence
import Redelivery.Proofs.Delivery.RetryBound

/-! Deliveries of different messages that overlap. They share one table of failures, and each is
suspended after every request it makes, for any time; what handlers, policies and the dispatcher
answer about a message depends on what they were asked about it before. As long as no record has
to make room, a message goes the way it goes alone. -/
namespace Redelivery

/-- All deliveries at work on one table, with the surroundings as each message knows them, and
what became of the messages so far. -/
structure Hall (σ : Type) where
  table : FailureTable
  outside : String → σ
  /-- What is left of the delivery of a message, if one is under way. -/
  active : String → Option (Flow Delivery) := fun _ => none
  begun : String → List Incoming := fun _ => []
  outcomes : String → List (Ended Delivery) := fun _ => []
  deeds : String → List Deed := fun _ => []
  /-- The messages whose records had to make room. -/
  dropped : List String := []

namespace Hall

inductive Move where
  /-- A delivery begins, unless one of the same message is under way. -/
  | start (m : Incoming)
  /-- The delivery of a message goes one request further, at some time. -/
  | go (id : String) (time : Instant)

def Move.id : Move → String
  | .start m => m.id
  | .go id _ => id

def put {α : Type} (f : String → α) (id : String) (a : α) : String → α :=
  fun other => if other = id then a else f other

@[simp] theorem put_self {α : Type} (f : String → α) (id : String) (a : α) : put f id a id = a :=
  if_pos rfl

theorem put_other {α : Type} (f : String → α) {id other : String} (different : other ≠ id) (a : α) :
    put f id a other = f other :=
  if_neg different

theorem put_forall {α : Type} {f : String → Option α} {id : String} {a : Option α}
    {P : String → α → Prop} (before : ∀ other x, f other = some x → P other x)
    (here : ∀ x, a = some x → P id x) : ∀ other x, put f id a other = some x → P other x := by
  intro other x found
  by_cases same : other = id
  · subst same
    rw [put_self] at found
    exact here x found
  · rw [put_other _ same] at found
    exact before other x found

end Hall

def Outside.atTime {σ : Type} (o : Outside σ) (time : Instant) : Outside σ :=
  { o with now := fun _ => time }

namespace Hall
variable {σ : Type} (o : Outside σ) (p : ReceivePipeline) (h : Hall σ)

def deliver (m : Incoming) : Hall σ :=
  { h with
    active := put h.active m.id (some (p.invoke m))
    begun := put h.begun m.id (h.begun m.id ++ [m]) }

def finish (id : String) (ended : Ended Delivery) : Hall σ :=
  { h with
    active := put h.active id none
    outcomes := put h.outcomes id (h.outcomes id ++ [ended]) }

def serve (id : String) (r : Request) (next : r.Answer → Flow Delivery) : Hall σ :=
  let answered := o.answer ⟨h.table, h.outside id⟩ r
  { h with
    table := answered.2.1.table
    outside := put h.outside id answered.2.1.outside
    active := put h.active id (some (next answered.1))
    deeds := put h.deeds id (h.deeds id ++ (r.deed? answered.1).toList)
    dropped := h.dropped ++ (r.change?.bind h.table.dropped?).toList }

def step : Move → Hall σ
  | .start m => if (h.active m.id).isSome then h else h.deliver p m
  | .go id time =>
    match h.active id with
    | none => h
    | some (.done delivery) => h.finish id (.done delivery)
    | some (.panicked text) => h.finish id (.panicked text)
    | some (.ask r next) => h.serve (o.atTime time) id r next

def after (moves : List Move) : Hall σ := moves.foldl (step o p) h

end Hall

/-- What the deliveries of some messages come to, one after another. -/
structure Solo (σ : Type) where
  outcomes : List (Ended Delivery)
  deeds : List Deed
  world : World σ

def ReceivePipeline.alone {σ : Type} (o : Outside σ) (p : ReceivePipeline) :
    List Incoming → World σ → Solo σ
  | [], w => ⟨[], [], w⟩
  | m :: ms, w =>
    let first := (p.invoke m).course o w
    let rest := alone o p ms first.world
    ⟨first.ended :: rest.outcomes, first.deeds ++ rest.deeds, rest.world⟩

/-- Surroundings that do not look at stamped times: in related states they answer alike to what
differs in nothing else, and stay related. -/
structure Outside.Timeless {σ : Type} (o : Outside σ) (R : σ → σ → Prop) : Prop where
  handle : ∀ slot m st st', R st st' → (o.handle slot m st).1 = (o.handle slot m st').1 ∧
    R (o.handle slot m st).2 (o.handle slot m st').2
  consult : ∀ number q st st', R st st' → (o.consult number q st).1 = (o.consult number q st').1 ∧
    R (o.consult number q st).2 (o.consult number q st').2
  dispatch : ∀ op op' st st', op.Restamped op' → R st st' →
    (o.dispatch op st).1.failure = (o.dispatch op' st').1.failure ∧
      R (o.dispatch op st).2 (o.dispatch op' st').2
  notified : ∀ n n' st st', n.Restamped n' → R st st' → R (o.notified n st) (o.notified n' st')

structure World.Alike {σ : Type} (R : σ → σ → Prop) (id : String) (w w' : World σ) : Prop where
  known : w.table.lookup id = w'.table.lookup id
  outside : R w.outside w'.outside

section answers
variable {σ : Type} {o : Outside σ} {R : σ → σ → Prop} {id : String} {w w' : World σ}

theorem answerPolicy_alike (timeless : o.Timeless R) {st st' : σ} (related : R st st')
    (policy : DelayPolicy) (q : DelayQuestion) :
    (o.answerPolicy policy q st).1 = (o.answerPolicy policy q st').1 ∧
      R (o.answerPolicy policy q st).2.1 (o.answerPolicy policy q st').2.1 := by
  cases policy with
  | linear retries increase => exact ⟨rfl, related⟩
  | ofMessage schedule => exact ⟨rfl, related⟩
  | host number => exact timeless.consult number q st st' related

theorem answer_alike (timeless : o.Timeless R) {r : Request} (stays : r.staysWith id)
    (alike : w.Alike R id w') (time : Instant) :
    ((o.atTime time).answer w r).1 = (o.answer w' r).1 ∧
      ((o.atTime time).answer w r).2.1.Alike R id (o.answer w' r).2.1 := by
  obtain ⟨known, outside⟩ := alike
  cases r with
  | enter stage message => exact ⟨rfl, known, outside⟩
  | lookup other =>
    cases stays
    exact ⟨known, known, outside⟩
  | record other failure toErrorQueue toDelay =>
    cases stays
    refine ⟨rfl, ?_, outside⟩
    change (w.table.record id failure toErrorQueue toDelay).1.lookup id =
      (w'.table.record id failure toErrorQueue toDelay).1.lookup id
    rw [FailureTable.lookup_record_self, FailureTable.lookup_record_self, known]
  | clear other =>
    cases stays
    refine ⟨rfl, ?_, outside⟩
    change (w.table.clear id).lookup id = (w'.table.clear id).lookup id
    rw [FailureTable.lookup_clear_self, FailureTable.lookup_clear_self]
  | handle slot name m =>
    obtain ⟨same, related⟩ := timeless.handle slot m w.outside w'.outside outside
    exact ⟨same, known, related⟩
  | pause length => exact ⟨rfl, known, outside⟩
  | consult policy q =>
    obtain ⟨same, related⟩ := answerPolicy_alike timeless outside policy q
    exact ⟨same, known, related⟩
  | dispatch op =>
    obtain ⟨same, related⟩ := timeless.dispatch op op w.outside w'.outside (.same op) outside
    exact ⟨same, known, related⟩
  | now => exact stays.elim
  | notify n => exact ⟨rfl, known, timeless.notified n n w.outside w'.outside (.same n) outside⟩
  | critical text failure => exact ⟨rfl, known, outside⟩
  | log entry => exact ⟨rfl, known, outside⟩
  | observe seen => exact ⟨rfl, known, outside⟩

end answers

def Request.about (id : String) (r : Request) : Prop :=
  ∀ change, r.change? = some change → change.id = id

theorem Request.about_of_none {id : String} {r : Request} (unchanging : r.change? = none) :
    r.about id := by
  intro change changes
  cases unchanging.symm.trans changes

theorem Request.staysWith.about {id : String} {r : Request} (stays : r.staysWith id) :
    r.about id := by
  intro change changes
  cases r with
  | record other failure toErrorQueue toDelay =>
    cases changes
    exact stays
  | clear other =>
    cases changes
    exact stays
  | _ => cases changes

theorem Flow.Echoes.about {α : Type} {id : String} {R : α → α → Prop} {x y : Flow α}
    (echoes : x.Echoes id R y) : x.only (Request.about id) := by
  induction echoes with
  | done alike => exact trivial
  | panicked text => exact trivial
  | ask stays rest ih => exact ⟨stays.about, ih⟩
  | @now next next' rest ih => exact ⟨Request.about_of_none rfl, fun time => ih time time⟩
  | dispatch restamped rest ih => exact ⟨Request.about_of_none rfl, ih⟩
  | notify restamped rest ih => exact ⟨Request.about_of_none rfl, fun _ => ih⟩

namespace Hall
variable {σ : Type} {o : Outside σ} {p : ReceivePipeline} {h : Hall σ} {id : String}

/-- Every delivery under way is only about its own message. -/
def Tame (h : Hall σ) : Prop :=
  ∀ id x, h.active id = some x → x.only (Request.about id)

theorem Tame.step (tame : h.Tame) (about : ∀ m, (p.invoke m).only (Request.about m.id))
    (move : Move) : (h.step o p move).Tame := by
  cases move with
  | start m =>
    simp only [Hall.step]
    split
    · exact tame
    · exact put_forall tame fun x found => Option.some.inj found ▸ about m
  | go id time =>
    simp only [Hall.step]
    split
    · exact tame
    · exact put_forall tame fun x gone => nomatch gone
    · exact put_forall tame fun x gone => nomatch gone
    · rename_i r next active
      have mine := tame id _ active
      exact put_forall tame fun x found => Option.some.inj found ▸ mine.2 _

/-- How far the deliveries of a message went, told by those that take place alone. -/
inductive Reached (o : Outside σ) (p : ReceivePipeline) (start : World σ) (h : Hall σ)
    (id : String) : Solo σ → Prop where
  | resting (idle : h.active id = none) : Reached o p start h id (p.alone o (h.begun id) start)
  | midway {ms : List Incoming} {m : Incoming} {x y : Flow Delivery} {w : World σ}
      {ds : List Deed} (active : h.active id = some x) (begun : h.begun id = ms ++ [m])
      (echoes : x.Echoes id Eq y)
      (sofar : (p.invoke m).course o (p.alone o ms start).world = (y.course o w).after ds) :
      Reached o p start h id
        ⟨(p.alone o ms start).outcomes, (p.alone o ms start).deeds ++ ds, w⟩

/-- What a message came to is what it comes to alone, except for stamped times. -/
structure Mirrors (R : σ → σ → Prop) (h : Hall σ) (id : String) (solo : Solo σ) : Prop where
  outcomes : h.outcomes id = solo.outcomes
  deeds : List.Forall₂ Deed.Restamped (h.deeds id) solo.deeds
  alike : World.Alike R id ⟨h.table, h.outside id⟩ solo.world

variable {R : σ → σ → Prop} {start : World σ}

theorem alone_append (o : Outside σ) (p : ReceivePipeline) (ms : List Incoming) (m : Incoming)
    (w : World σ) :
    p.alone o (ms ++ [m]) w =
      let earlier := p.alone o ms w
      let last := (p.invoke m).course o earlier.world
      ⟨earlier.outcomes ++ [last.ended], earlier.deeds ++ last.deeds, last.world⟩ := by
  induction ms generalizing w with
  | nil => simp [ReceivePipeline.alone]
  | cons first ms ih => simp [ReceivePipeline.alone, ih]

structure Untouched (h h' : Hall σ) (id : String) : Prop where
  active : h'.active id = h.active id
  begun : h'.begun id = h.begun id
  outcomes : h'.outcomes id = h.outcomes id
  deeds : h'.deeds id = h.deeds id
  outside : h'.outside id = h.outside id
  known : h'.table.lookup id = h.table.lookup id

theorem lookup_serve_other (o : Outside σ) (h : Hall σ) {other : String} (different : id ≠ other)
    {r : Request} (about : r.about other) (next : r.Answer → Flow Delivery)
    (undropped : id ∉ (h.serve o other r next).dropped) :
    (h.serve o other r next).table.lookup id = h.table.lookup id := by
  have table := Flow.table_answer o ⟨h.table, h.outside other⟩ r
  simp only [serve] at undropped ⊢
  rw [table]
  cases changes : r.change? with
  | none => rfl
  | some change =>
    have apart : id ≠ change.id := about change changes ▸ different
    rcases h.table.lookup_change_other id apart with kept | ⟨_, gone⟩
    · exact kept
    · rw [changes] at undropped
      simp [gone] at undropped

theorem untouched_step (tame : h.Tame) {move : Move} (different : id ≠ move.id)
    (undropped : id ∉ (h.step o p move).dropped) : h.Untouched (h.step o p move) id := by
  cases move with
  | start m =>
    simp only [step]
    split
    · exact ⟨rfl, rfl, rfl, rfl, rfl, rfl⟩
    · exact ⟨put_other _ different _, put_other _ different _, rfl, rfl, rfl, rfl⟩
  | go other time =>
    simp only [step] at undropped ⊢
    split at undropped
    · exact ⟨rfl, rfl, rfl, rfl, rfl, rfl⟩
    · exact ⟨put_other _ different _, rfl, put_other _ different _, rfl, rfl, rfl⟩
    · exact ⟨put_other _ different _, rfl, put_other _ different _, rfl, rfl, rfl⟩
    · rename_i r next active
      have mine := (tame other _ active).1
      exact ⟨put_other _ different _, rfl, rfl, put_other _ different _, put_other _ different _,
        lookup_serve_other _ h different mine next undropped⟩

theorem Reached.of_untouched {h' : Hall σ} {solo : Solo σ} (reached : Reached o p start h id solo)
    (untouched : h.Untouched h' id) : Reached o p start h' id solo := by
  cases reached with
  | resting idle =>
    rw [← untouched.begun]
    exact .resting (untouched.active.trans idle)
  | midway active begun echoes sofar =>
    exact .midway (untouched.active.trans active) (untouched.begun.trans begun) echoes sofar

theorem Mirrors.of_untouched {h' : Hall σ} {solo : Solo σ} (mirrors : h.Mirrors R id solo)
    (untouched : h.Untouched h' id) : h'.Mirrors R id solo where
  outcomes := untouched.outcomes.trans mirrors.outcomes
  deeds := untouched.deeds ▸ mirrors.deeds
  alike := ⟨untouched.known.trans mirrors.alike.known, by
    simp only [untouched.outside]
    exact mirrors.alike.outside⟩

theorem reached_deliver {m : Incoming} {solo : Solo σ}
    (echoes : (p.invoke m).Echoes m.id Eq (p.invoke m)) (idle : h.active m.id = none)
    (reached : Reached o p start h m.id solo) (mirrors : h.Mirrors R m.id solo) :
    ∃ solo', Reached o p start (h.deliver p m) m.id solo' ∧
      (h.deliver p m).Mirrors R m.id solo' := by
  cases reached with
  | midway active => cases idle.symm.trans active
  | resting =>
    have sofar : (p.invoke m).course o (p.alone o (h.begun m.id) start).world =
        ((p.invoke m).course o (p.alone o (h.begun m.id) start).world).after [] := rfl
    refine ⟨_, .midway (put_self _ _ _) (put_self _ _ _) echoes sofar, ?_⟩
    refine ⟨mirrors.outcomes, ?_, mirrors.alike⟩
    rw [List.append_nil]
    exact mirrors.deeds

theorem reached_finish {ms : List Incoming} {m : Incoming} {w : World σ} {ds : List Deed}
    {ended : Ended Delivery} (begun : h.begun id = ms ++ [m])
    (sofar : (p.invoke m).course o (p.alone o ms start).world = ⟨ended, w, ds⟩)
    (mirrors : h.Mirrors R id
      ⟨(p.alone o ms start).outcomes, (p.alone o ms start).deeds ++ ds, w⟩) :
    ∃ solo', Reached o p start (h.finish id ended) id solo' ∧
      (h.finish id ended).Mirrors R id solo' := by
  have whole : p.alone o (h.begun id) start =
      ⟨(p.alone o ms start).outcomes ++ [ended], (p.alone o ms start).deeds ++ ds, w⟩ := by
    rw [begun, alone_append]
    simp only [sofar]
  refine ⟨_, .resting (put_self _ _ _), ?_⟩
  change (h.finish id ended).Mirrors R id (p.alone o (h.begun id) start)
  rw [whole]
  refine ⟨?_, mirrors.deeds, mirrors.alike⟩
  change put h.outcomes id (h.outcomes id ++ [ended]) id = _
  rw [put_self, mirrors.outcomes]

theorem reached_serve {ms : List Incoming} {m : Incoming} {w : World σ} {ds : List Deed}
    {r r' : Request} {next : r.Answer → Flow Delivery} {next' : r'.Answer → Flow Delivery}
    (begun : h.begun id = ms ++ [m])
    (sofar : (p.invoke m).course o (p.alone o ms start).world =
      ((Flow.ask r' next').course o w).after ds)
    (mirrors : h.Mirrors R id
      ⟨(p.alone o ms start).outcomes, (p.alone o ms start).deeds ++ ds, w⟩) {time : Instant}
    (alike : ((o.atTime time).answer ⟨h.table, h.outside id⟩ r).2.1.Alike R id
      (o.answer w r').2.1)
    (echoes : (next ((o.atTime time).answer ⟨h.table, h.outside id⟩ r).1).Echoes id Eq
      (next' (o.answer w r').1))
    (deeds : List.Forall₂ Deed.Restamped
      (r.deed? ((o.atTime time).answer ⟨h.table, h.outside id⟩ r).1).toList
      (r'.deed? (o.answer w r').1).toList) :
    ∃ solo', Reached o p start (h.serve (o.atTime time) id r next) id solo' ∧
      (h.serve (o.atTime time) id r next).Mirrors R id solo' := by
  rw [Flow.course_ask, Course.after_after] at sofar
  refine ⟨_, .midway (put_self _ _ _) begun echoes sofar, mirrors.outcomes, ?_, ?_⟩
  · simp only [serve, put_self]
    rw [← List.append_assoc]
    exact List.rel_append mirrors.deeds deeds
  · refine ⟨alike.known, ?_⟩
    simp only [serve, put_self]
    exact alike.outside

theorem restamped_toList (deed : Option Deed) :
    List.Forall₂ Deed.Restamped deed.toList deed.toList := by
  cases deed with
  | none => exact .nil
  | some deed => exact .cons (.same deed) .nil

theorem reached_go (timeless : o.Timeless R) {solo : Solo σ}
    (reached : Reached o p start h id solo) (mirrors : h.Mirrors R id solo) (time : Instant) :
    ∃ solo', Reached o p start (h.step o p (.go id time)) id solo' ∧
      (h.step o p (.go id time)).Mirrors R id solo' := by
  cases reached with
  | resting idle =>
    simp only [step, idle]
    exact ⟨_, .resting idle, mirrors⟩
  | @midway ms m x y w ds active begun echoes sofar =>
    have alike := mirrors.alike
    simp only [step, active]
    -- What is left here and what is left alone differ in the times they were told so far, so the
    -- next requests of both need not be the same.
    cases echoes with
    | @done delivery _ same =>
      subst same
      have last : (Flow.done delivery).course o w = ⟨.done delivery, w, []⟩ := rfl
      rw [last, Course.after_mk, List.append_nil] at sofar
      exact reached_finish begun sofar mirrors
    | panicked text =>
      rw [Flow.course_panicked, Course.after_mk, List.append_nil] at sofar
      exact reached_finish begun sofar mirrors
    | @ask r next next' stays rest =>
      obtain ⟨same, later⟩ := answer_alike timeless stays alike time
      refine reached_serve begun sofar mirrors later ?_ ?_
      · rw [same]
        exact rest _
      · rw [same]
        exact restamped_toList _
    | now rest => exact reached_serve begun sofar mirrors alike (rest _ _) .nil
    | @dispatch op op' next next' restamped rest =>
      obtain ⟨same, related⟩ := timeless.dispatch op op' _ _ restamped alike.outside
      have later := rest (o.dispatch op (h.outside id)).1.failure
      have sent : Deed.Restamped (.dispatched op (o.dispatch op (h.outside id)).1.failure)
          (.dispatched op' (o.dispatch op' w.outside).1.failure) := by
        rw [same]
        exact .dispatched restamped _
      refine reached_serve begun sofar mirrors ⟨alike.known, related⟩ ?_ (.cons sent .nil)
      change (next _).Echoes id Eq (next' (o.dispatch op' w.outside).1.failure)
      rw [← same]
      exact later
    | notify restamped rest =>
      have related := timeless.notified _ _ _ _ restamped alike.outside
      refine reached_serve begun sofar mirrors ⟨alike.known, related⟩ rest ?_
      exact .cons (.notified restamped) .nil

theorem mirrors_step (timeless : o.Timeless R)
    (echoes : ∀ m, (p.invoke m).Echoes m.id Eq (p.invoke m)) (tame : h.Tame) (move : Move)
    (undropped : id ∉ (h.step o p move).dropped) {solo : Solo σ}
    (reached : Reached o p start h id solo) (mirrors : h.Mirrors R id solo) :
    ∃ solo', Reached o p start (h.step o p move) id solo' ∧
      (h.step o p move).Mirrors R id solo' := by
  by_cases mine : id = move.id
  -- Only a message's own moves bring its deliveries further, alone as well.
  · cases move with
    | go other time =>
      cases mine
      exact reached_go timeless reached mirrors time
    | start m =>
      cases mine
      simp only [step]
      cases active : h.active m.id with
      | some x => exact ⟨solo, reached, mirrors⟩
      | none => exact reached_deliver (echoes m) active reached mirrors
  · have untouched := untouched_step tame mine undropped
    exact ⟨solo, reached.of_untouched untouched, mirrors.of_untouched untouched⟩

theorem dropped_step (o : Outside σ) (p : ReceivePipeline) (h : Hall σ) (move : Move) :
    h.dropped <+: (h.step o p move).dropped := by
  cases move with
  | start m =>
    simp only [step]
    split <;> exact List.prefix_rfl
  | go id time =>
    simp only [step]
    split
    · exact List.prefix_rfl
    · exact List.prefix_rfl
    · exact List.prefix_rfl
    · exact List.prefix_append _ _

theorem dropped_after (o : Outside σ) (p : ReceivePipeline) (h : Hall σ) (moves : List Move) :
    h.dropped <+: (h.after o p moves).dropped := by
  induction moves generalizing h with
  | nil => exact List.prefix_rfl
  | cons move moves ih => exact (dropped_step o p h move).trans (ih (h.step o p move))

theorem mirrors_after (timeless : o.Timeless R)
    (echoes : ∀ m, (p.invoke m).Echoes m.id Eq (p.invoke m)) (tame : h.Tame) (moves : List Move)
    (undropped : id ∉ (h.after o p moves).dropped) {solo : Solo σ}
    (reached : Reached o p start h id solo) (mirrors : h.Mirrors R id solo) :
    ∃ solo', Reached o p start (h.after o p moves) id solo' ∧
      (h.after o p moves).Mirrors R id solo' := by
  induction moves generalizing h solo with
  | nil => exact ⟨solo, reached, mirrors⟩
  | cons move moves ih =>
    have kept : id ∉ (h.step o p move).dropped := fun gone =>
      undropped ((dropped_after o p (h.step o p move) moves).subset gone)
    obtain ⟨next, reached, mirrors⟩ :=
      mirrors_step timeless echoes tame move kept reached mirrors
    exact ih (tame.step (fun m => (echoes m).about) move) undropped reached mirrors

/-- A hall with room for the records of all messages under way. -/
structure Roomy (h : Hall σ) (known : List String) : Prop where
  table : h.table.Holds known
  active : ∀ id x, h.active id = some x → id ∈ known
  undropped : h.dropped = []

theorem Roomy.serve {known : List String} (roomy : h.Roomy known) (named : id ∈ known)
    {r : Request} (about : r.about id) (next : r.Answer → Flow Delivery) :
    (h.serve o id r next).Roomy known := by
  have ⟨kept, undropped⟩ : (h.table.changed r.change?.toList).Holds known ∧
      r.change?.bind h.table.dropped? = none := by
    cases changes : r.change? with
    | none => exact ⟨roomy.table, rfl⟩
    | some change => exact roomy.table.change (about change changes ▸ named)
  have table : (h.serve o id r next).table = h.table.changed r.change?.toList :=
    Flow.table_answer o ⟨h.table, h.outside id⟩ r
  refine ⟨table ▸ kept, put_forall roomy.active fun _ _ => named, ?_⟩
  simp only [Hall.serve, undropped, roomy.undropped, Option.toList_none, List.append_nil]

theorem Roomy.step {known : List String} (roomy : h.Roomy known) (tame : h.Tame) {move : Move}
    (named : ∀ m, move = .start m → m.id ∈ known) : (h.step o p move).Roomy known := by
  cases move with
  | start m =>
    simp only [Hall.step]
    split
    · exact roomy
    · exact ⟨roomy.table, put_forall roomy.active fun _ _ => named m rfl, roomy.undropped⟩
  | go id time =>
    simp only [Hall.step]
    split
    · exact roomy
    · exact ⟨roomy.table, put_forall roomy.active (fun x gone => nomatch gone), roomy.undropped⟩
    · exact ⟨roomy.table, put_forall roomy.active (fun x gone => nomatch gone), roomy.undropped⟩
    · rename_i r next active
      exact roomy.serve (roomy.active id _ active) (tame id _ active).1 next

theorem Roomy.after {known : List String} (roomy : h.Roomy known) (tame : h.Tame)
    (about : ∀ m, (p.invoke m).only (Request.about m.id)) {moves : List Move}
    (named : ∀ m, .start m ∈ moves → m.id ∈ known) : (h.after o p moves).Roomy known := by
  induction moves generalizing h with
  | nil => exact roomy
  | cons move moves ih =>
    have next : (h.step o p move).Roomy known :=
      roomy.step tame fun m same => named m (same ▸ List.mem_cons_self)
    exact ih next (tame.step about move) fun m member => named m (List.mem_cons_of_mem _ member)

end Hall

/-- Messages do not disturb each other: what a message came to among others is, but for stamped
times, what its own deliveries come to alone, unless its record had to make room. -/
theorem ReceivePipeline.overlapping_deliveries_undisturbed {σ : Type} {s : Settings}
    {given : Option DelayPolicy} {own : List Stage} {p : ReceivePipeline}
    (built : build s given own = .ok p) (stays : ∀ stage ∈ own, stage.StaysWithMessage)
    {o : Outside σ} {R : σ → σ → Prop} (timeless : o.Timeless R) (table : FailureTable)
    (outside : String → σ) (moves : List Hall.Move) {id : String} {st : σ}
    (related : R (outside id) st) :
    let h := Hall.after o p { table, outside } moves
    let solo := p.alone o (h.begun id) ⟨table, st⟩
    (id ∉ h.dropped ∨
      ∃ known, table.Holds known ∧ ∀ m, .start m ∈ moves → m.id ∈ known) →
    h.active id = none →
    h.outcomes id = solo.outcomes ∧ List.Forall₂ Deed.Restamped (h.deeds id) solo.deeds ∧
      h.table.lookup id = solo.world.table.lookup id ∧
      R (h.outside id) solo.world.outside := by
  intro h solo room idle
  have echoes := echoes_invoke built stays
  have tame : Hall.Tame { table, outside } := fun _ _ under => nomatch under
  have undropped : id ∉ h.dropped := by
    rcases room with kept | ⟨known, few, named⟩
    · exact kept
    · have roomy : Hall.Roomy { table, outside } known :=
        ⟨few, (fun _ _ under => nomatch under), rfl⟩
      have later : h.Roomy known := roomy.after tame (fun m => (echoes m).about) named
      rw [later.undropped]
      exact List.not_mem_nil
  have reached : Hall.Reached o p ⟨table, st⟩ { table, outside } id ⟨[], [], ⟨table, st⟩⟩ :=
    .resting rfl
  have mirrors : Hall.Mirrors R { table, outside } id ⟨[], [], ⟨table, st⟩⟩ :=
    ⟨rfl, .nil, rfl, related⟩
  obtain ⟨last, reached, same⟩ :=
    Hall.mirrors_after timeless echoes tame moves undropped reached mirrors
  cases reached with
  | resting => exact ⟨same.outcomes, same.deeds, same.alike.known, same.alike.outside⟩
  | midway active => cases idle.symm.trans active

section overlap
open ReceivePipeline

theorem Cast.timeless (cast : Cast) : cast.outside.Timeless Eq where
  handle := by
    rintro slot m st _ rfl
    exact ⟨rfl, rfl⟩
  consult := by
    rintro number q st _ rfl
    exact ⟨rfl, rfl⟩
  dispatch := by
    rintro op op' st _ restamped rfl
    refine ⟨?_, rfl⟩
    change Cast.failureOf st.nextIdentity op _ = Cast.failureOf st.nextIdentity op' _
    cases (cast.dispatches[st.dispatches]?).getD .succeed with
    | succeed => rfl
    | refuse reason => simp only [Cast.failureOf, restamped.id_eq, restamped.destination_eq]
    | fail recipe => rfl
  notified := by
    rintro n n' st _ _ rfl
    rfl

/-- Two rounds of deliveries of both messages, one request of each in turn. -/
def twoByTwo : List Hall.Move :=
  let round := [.start (.received "a" .empty []), .start (.received "b" .empty [])] ++
    (List.replicate 14 [.go "a" ⟨3, 0⟩, .go "b" ⟨4, 0⟩]).flatten
  round ++ round

theorem twoByTwo_undisturbed :
    let h := Hall.after Cast.stumbling.outside crowdedPipeline
      { table := .ofCapacity 2, outside := fun _ => {} } twoByTwo
    let solo := crowdedPipeline.alone Cast.stumbling.outside (h.begun "a") ⟨.ofCapacity 2, {}⟩
    h.begun "a" = [.received "a" .empty [], .received "a" .empty []] ∧
    h.outcomes "a" = solo.outcomes ∧ List.Forall₂ Deed.Restamped (h.deeds "a") solo.deeds ∧
      h.table.lookup "a" = solo.world.table.lookup "a" ∧
      h.outside "a" = solo.world.outside := by
  have ids : ∀ move ∈ twoByTwo, move.id ∈ ["a", "b"] := by decide
  exact ⟨rfl, overlapping_deliveries_undisturbed (crowded_built 2)
    (handlerStages_stayWithMessage [(0, "Billing")]) (R := Eq) Cast.stumbling.timeless
    (.ofCapacity 2) (fun _ => {}) twoByTwo rfl
    (.inr ⟨["a", "b"], .start (by decide), fun m member => ids (.start m) member⟩) rfl⟩

/-- A stage that fails for every message, and first puts a message "b" in the place of "a". -/
def replacing : Stage where
  name := "Replacing"
  behaviour _ c :=
    let m := c.message
    .done
      { context := { c with message := if m.id = "a" then .received "b" m.headers m.body else m }
        failure := some (.dispatch m.id "billing" "down") }

/-- A stage that fails if the answer to what it asks is yes. -/
def doubting (asks : Flow Bool) : Stage where
  name := "Doubting"
  behaviour _ c := do
    let doubts ← asks
    return { context := c
             failure := if doubts then some (.dispatch c.message.id "billing" "down") else none }

def pipelineWith (own : List Stage) : ReceivePipeline :=
  { stages := recoverability (crowded 1) none ++ own, address := "sales" }

theorem pipelineWith_built (capacity : UInt64) (own : List Stage) :
    build (crowded capacity) none own = .ok (pipelineWith own) :=
  build_ok (s := crowded capacity) rfl (by cbv) none own

/-- A table that is full of records from earlier, of "c" and then of a message not seen again. -/
def fullTable : FailureTable :=
  let failure : Failure := .dispatch "" "billing" "down"
  let older := (FailureTable.ofCapacity 2).record "c" failure false false
  (older.1.record "x" failure false false).1

def inTurn (ids : List String) : List Hall.Move :=
  ids.flatMap fun id => .start (.received id .empty []) :: List.replicate 14 (.go id ⟨3, 0⟩)

/-- Where "a" turns into "b", the failure of "a" takes the record of "b" away, and "b" is retried
once more than alone. A stage that looks at the record of "b" or at the time does something else
alone as well. Where there is room for the messages delivered, but not for those with a record at
the start too, "c" loses its record and is retried, where alone it is forwarded. -/
theorem deliveries_disturbed :
    let cast := { Cast.stumbling with dispatches := [] }
    let o := cast.outside
    let hall own ids := Hall.after o (pipelineWith own)
      { table := .ofCapacity 2, outside := fun _ => {} } (inTurn ids)
    let alone own ms := ((pipelineWith own).alone o ms ⟨.ofCapacity 2, {}⟩).outcomes
    let unrecorded := doubting (Option.isNone <$> Flow.lookup "b")
    let late := doubting ((· = ⟨3, 0⟩) <$> Flow.now)
    let replaced := hall [replacing] ["b", "a", "a", "b"]
    let peeked := hall [unrecorded] ["b", "a"]
    let timed := hall [late] ["a"]
    let full := Hall.after o (pipelineWith (handlerStages [(0, "Billing")]))
      { table := fullTable, outside := fun _ => {} } (inTurn ["b", "c"])
    o.Timeless Eq ∧ (∀ own, build (crowded 2) none own = .ok (pipelineWith own)) ∧
    (replaced.dropped = [] ∧ replaced.active "b" = none ∧
      replaced.outcomes "b" = [.done .aborted, .done .aborted] ∧
      alone [replacing] (replaced.begun "b") = [.done .aborted, .done .completed]) ∧
    (peeked.dropped = [] ∧ peeked.active "a" = none ∧
      peeked.outcomes "a" = [.done .completed] ∧
      alone [unrecorded] (peeked.begun "a") = [.done .aborted]) ∧
    (timed.dropped = [] ∧ timed.active "a" = none ∧
      timed.outcomes "a" = [.done .aborted] ∧
      alone [late] (timed.begun "a") = [.done .completed]) ∧
    (["b", "c"].length ≤ fullTable.capacity ∧ full.active "c" = none ∧
      full.outcomes "c" = [.done .aborted] ∧
      ((pipelineWith (handlerStages [(0, "Billing")])).alone o (full.begun "c")
        ⟨fullTable, {}⟩).outcomes = [.done .completed]) :=
  ⟨Cast.timeless _, pipelineWith_built 2, ⟨rfl, rfl, rfl, rfl⟩, ⟨rfl, rfl, rfl, rfl⟩,
    ⟨rfl, rfl, rfl, rfl⟩, by decide, rfl, rfl, rfl⟩

end overlap
end Redelivery
