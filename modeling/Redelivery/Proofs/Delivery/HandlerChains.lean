import Redelivery.Proofs.Delivery.Handlers
import Redelivery.Proofs.Failure.Identity

/-! Handlers in succession. In a chain of handlers each one gets the message as the one before left
it, up to the first that fails: every handler up to there has one turn, and none has one after it.
The failure that comes out is the one that handler ended with, in the name of the stage that claimed
it first. Two chains in a row are the first one and, if it succeeded, the second. -/
namespace Redelivery

/-- A stage that gives its message to a handler. Stage and handler need not have the same name. -/
structure Post where
  stage : String
  slot : Nat
  handler : String

def Post.toStage (p : Post) : Stage := ⟨p.stage, Stage.handling p.slot p.handler⟩

def postStages (posts : List Post) : List Stage := posts.map Post.toStage

/-- A handler's turn: the message it was given and what it did. -/
structure Stint where
  post : Post
  message : Incoming
  handling : Handling

namespace Stint

def deeds (s : Stint) : List Deed :=
  [.entered s.post.stage s.message.id,
    .called s.post.slot s.post.handler s.message s.handling]

def IsDone (s : Stint) : Prop := s.handling.outcome = .done

/-- The failure of a turn as the chain tells it: the same failure, which keeps the stage it carried
and else takes the handler's name. Only failures of user code have a stage. -/
structure Tells (s : Stint) (failure told : Failure) : Prop where
  failed : s.handling.outcome = .failed failure
  same : told.sameAs failure = true
  agrees : told.Agrees failure
  stage : told.stage? =
    if failure.category = .handler then failure.stage?.or (some s.post.handler) else none

end Stint

namespace Outside
variable {σ : Type} (o : Outside σ)

def stint (p : Post) (m : Incoming) (st : σ) : Stint := ⟨p, m, (o.handle p.slot m st).1⟩

def leave (p : Post) (m : Incoming) (st : σ) : Incoming × σ :=
  (m.handledBy (o.handle p.slot m st).1, (o.handle p.slot m st).2)

def leaveAll (posts : List Post) (m : Incoming) (st : σ) : Incoming × σ :=
  posts.foldl (fun left p => o.leave p left.1 left.2) (m, st)

def stintAfter (before : List Post) (p : Post) (m : Incoming) (st : σ) : Stint :=
  o.stint p (o.leaveAll before m st).1 (o.leaveAll before m st).2

def stints : List Post → Incoming → σ → List Stint
  | [], _, _ => []
  | p :: rest, m, st => o.stint p m st :: stints rest (o.leave p m st).1 (o.leave p m st).2

def courseOf (posts : List Post) (c : Context) (w : World σ) (ended : Context → Ended Passage) :
    Course σ Passage where
  ended := ended { c with message := (o.leaveAll posts c.message w.outside).1 }
  world := { w with outside := (o.leaveAll posts c.message w.outside).2 }
  deeds := (o.stints posts c.message w.outside).flatMap Stint.deeds

/-- How a chain of handlers goes: all are done, or the first that is not done is the last one that
has a turn. -/
inductive Succession (c : Context) (w : World σ) : List Post → Course σ Passage → Prop where
  | succeeded {posts : List Post}
      (done : ∀ s ∈ o.stints posts c.message w.outside, s.IsDone) :
      Succession c w posts (o.courseOf posts c w fun c' => .done { context := c' })
  | failed (before : List Post) (p : Post) (after : List Post) {failure told : Failure}
      (done : ∀ s ∈ o.stints before c.message w.outside, s.IsDone)
      (tells : (o.stintAfter before p c.message w.outside).Tells failure told) :
      Succession c w (before ++ p :: after)
        (o.courseOf (before ++ [p]) c w fun c' => .done { context := c', failure := some told })
  | panicked (before : List Post) (p : Post) (after : List Post) {text : String}
      (done : ∀ s ∈ o.stints before c.message w.outside, s.IsDone)
      (panics : (o.stintAfter before p c.message w.outside).handling.outcome = .panicked text) :
      Succession c w (before ++ p :: after)
        (o.courseOf (before ++ [p]) c w fun _ => .panicked text)

end Outside

section succession
variable {σ : Type} (o : Outside σ)

theorem mem_stints (before : List Post) (p : Post) (after : List Post) (m : Incoming) (st : σ) :
    o.stintAfter before p m st ∈ o.stints (before ++ p :: after) m st := by
  induction before generalizing m st with
  | nil => exact List.mem_cons_self
  | cons first before ih => exact List.mem_cons_of_mem _ (ih _ _)

theorem course_post (p : Post) (rest : List Stage) (c : Context) (w : World σ) :
    (runStages (p.toStage :: rest) c).course o w =
      let s := o.stint p c.message w.outside
      let c' := { c with message := (o.leave p c.message w.outside).1 }
      let w' := { w with outside := (o.leave p c.message w.outside).2 }
      (match s.handling.outcome with
        | .done => (runStages rest c').course o w'
        | .failed failure =>
          ⟨.done { context := c', failure := some (failure.claimedBy p.handler) }, w', []⟩
        | .panicked text => ⟨.panicked text, w', []⟩).after s.deeds := by
  have turn := course_handling o p.slot p.handler (runStages rest) c w
  rw [course_runStages]
  exact (congrArg (Course.after [.entered p.stage c.message.id]) turn).trans
    (Course.after_after _ _ _)

theorem tells_claimedBy {s : Stint} {failure : Failure}
    (failed : s.handling.outcome = .failed failure) :
    s.Tells failure (failure.claimedBy s.post.handler) where
  failed := failed
  same := sameAs_claimedBy failure _
  agrees := Failure.agrees_claimedBy failure _
  stage := Failure.stage?_claimedBy failure _

theorem Outside.Succession.cons {p : Post} {posts : List Post} {c : Context} {w : World σ}
    {course : Course σ Passage} (first : (o.stint p c.message w.outside).IsDone)
    (rest : o.Succession { c with message := (o.leave p c.message w.outside).1 }
      { w with outside := (o.leave p c.message w.outside).2 } posts course) :
    o.Succession c w (p :: posts) (course.after (o.stint p c.message w.outside).deeds) := by
  cases rest with
  | succeeded done => exact .succeeded (List.forall_mem_cons.2 ⟨first, done⟩)
  | failed before last after done tells =>
    exact .failed (p :: before) last after (List.forall_mem_cons.2 ⟨first, done⟩) tells
  | panicked before last after done panics =>
    exact .panicked (p :: before) last after (List.forall_mem_cons.2 ⟨first, done⟩) panics

theorem succession (posts : List Post) (c : Context) (w : World σ) :
    o.Succession c w posts ((runStages (postStages posts) c).course o w) := by
  induction posts generalizing c w with
  | nil => exact .succeeded (List.forall_mem_nil _)
  | cons p rest ih =>
    rw [postStages, List.map_cons, course_post]
    dsimp only
    cases outcome : (o.stint p c.message w.outside).handling.outcome with
    | done => exact (ih _ _).cons o outcome
    | failed failure =>
      exact .failed [] p rest (List.forall_mem_nil _) (tells_claimedBy outcome)
    | panicked text => exact .panicked [] p rest (List.forall_mem_nil _) outcome

theorem Outside.Succession.succeeded_iff {posts : List Post} {c : Context} {w : World σ}
    {course : Course σ Passage} (goes : o.Succession c w posts course) :
    (∃ c', course.ended = .done { context := c' }) ↔
      ∀ s ∈ o.stints posts c.message w.outside, s.IsDone := by
  cases goes with
  | succeeded done => exact ⟨fun _ => done, fun _ => ⟨_, rfl⟩⟩
  | failed before p after _ tells =>
    refine ⟨fun ⟨_, ended⟩ => ?_, fun done => ?_⟩
    · cases ended
    · cases tells.failed.symm.trans (done _ (mem_stints o before p after _ _))
  | panicked before p after _ panics =>
    refine ⟨fun ⟨_, ended⟩ => ?_, fun done => ?_⟩
    · cases ended
    · cases panics.symm.trans (done _ (mem_stints o before p after _ _))

def Passage.andThen (later : Way) (p : Passage) : Flow Passage :=
  match p.failure with
  | none => later p.context
  | some _ => .done p

theorem handling_andThen (slot : Nat) (name : String) (rest later : Way) (c : Context) :
    Stage.handling slot name rest c >>= Passage.andThen later =
      Stage.handling slot name (fun c' => rest c' >>= Passage.andThen later) c := by
  refine congrArg (Flow.ask _) (funext fun h => congrArg (Flow.ask _) (funext fun _ => ?_))
  change ((Flow.logAll h.log).bind _).bind (Passage.andThen later) = (Flow.logAll h.log).bind _
  rw [Flow.bind_assoc]
  refine congrArg (Flow.bind _) (funext fun _ => ?_)
  cases h.outcome with
  | done => rfl
  | failed failure => rfl
  | panicked text => rfl

theorem runStages_append (posts : List Post) (later : List Stage) (c : Context) :
    runStages (postStages posts ++ later) c =
      runStages (postStages posts) c >>= Passage.andThen (runStages later) := by
  induction posts generalizing c with
  | nil => rfl
  | cons p rest ih =>
    have remaining : runStages (postStages rest ++ later) = fun c' =>
        runStages (postStages rest) c' >>= Passage.andThen (runStages later) := funext ih
    refine congrArg (Flow.ask _) (funext fun _ => ?_)
    refine Eq.trans ?_ (handling_andThen p.slot p.handler _ _ c).symm
    exact congrArg (fun way => Stage.handling p.slot p.handler way c) remaining

end succession

/-- A chain of handlers is their succession: each gets the message as the one before left it and has
one turn, up to the first that fails, whose failure comes out in its name. The chain succeeds if and
only if all of them do, and two chains in a row are the first and, unless it failed, the second. -/
theorem handlers_in_succession {σ : Type} (o : Outside σ) (posts : List Post) (c : Context)
    (w : World σ) :
    o.Succession c w posts ((runStages (postStages posts) c).course o w) ∧
    ((∃ c', ((runStages (postStages posts) c).run o w).ended = .done { context := c' }) ↔
      ∀ s ∈ o.stints posts c.message w.outside, s.IsDone) ∧
    ∀ later : List Post, runStages (postStages (posts ++ later)) c =
      runStages (postStages posts) c >>= Passage.andThen (runStages (postStages later)) := by
  have goes := succession o posts c w
  refine ⟨goes, goes.succeeded_iff o, fun later => ?_⟩
  rw [postStages, List.map_append]
  exact runStages_append posts (postStages later) c

/-- The second of three handlers fails, and the third has no turn. -/
example :
    (((runStages (postStages [⟨"Check", 1, "Check"⟩, ⟨"Bill", 0, "Billing"⟩, ⟨"Ship", 1, "Ship"⟩])
      { message := .received "m1" .empty [], address := "sales" }).deeds Cast.stumbling.outside
        ⟨.ofCapacity 1, {}⟩).filterMap fun
          | .called _ name _ _ => some name
          | _ => none) = ["Check", "Billing"] := rfl

end Redelivery
