import Redelivery.Proofs.Receiver.Turns

/-! The permits of a receiver, and what a turn does with them. Every permit is free, held by a task,
or held by the loop while it asks for a message, and no turn changes how many there are. The source
may be the mailbox of the endpoint or follow a script; what it gives away becomes a task in the same
turn. -/
namespace Redelivery

/-- What tells of a message: it came from the source, its end was counted, and the source was told
what became of it. -/
inductive Word where
  | received (id : String)
  | measured (measure : Measure)
  | completed (id : String)
  | abandoned (m : Incoming)
  deriving DecidableEq

def Happening.word? : Happening → Option Word
  | .received id _ => id.map .received
  | .measured measure => some (.measured measure)
  | .completed id => some (.completed id)
  | .abandoned m => some (.abandoned m)
  | _ => none

def Ended.words (m : Incoming) : Ended Processed → List Word
  | .done (.settled _) => [.measured .succeeded, .completed m.id]
  | .done (.failed failure) => [.measured (.failed failure.category), .abandoned m]
  | .panicked _ => [.measured (.failed .handler), .abandoned m]

def Polled.message? : Polled → Option Incoming
  | .message m => some m
  | _ => none

def SourceScript.messages (script : SourceScript) : List Incoming :=
  script.receive.filterMap Polled.message?

/-- A source that gave some messages away; what a mailbox holds is told by its transport. -/
inductive Source.Gives : List Incoming → Source → Source → Prop where
  | mailbox (given : List Incoming) (poll : Duration) :
      Gives given (.mailbox poll) (.mailbox poll)
  | scripted {given : List Incoming} {script script' : SourceScript}
      (split : script.messages = given ++ script'.messages) :
      Gives given (.scripted script) (.scripted script')

namespace Source
variable {a b : List Incoming} {s s' s'' : Source}

theorem gives_nothing (s : Source) : Gives [] s s := by
  cases s with
  | mailbox poll => exact .mailbox [] poll
  | scripted script => exact .scripted rfl

theorem Gives.trans (first : Gives a s s') (second : Gives b s' s'') :
    Gives (a ++ b) s s'' := by
  cases first with
  | mailbox => cases second with | mailbox => exact .mailbox _ _
  | scripted split =>
    cases second with
    | scripted split' => exact .scripted (by rw [split, split', List.append_assoc])

theorem gives_nextReceive (script : SourceScript) :
    Gives script.nextReceive.1.message?.toList (.scripted script)
      (.scripted script.nextReceive.2) := by
  apply Gives.scripted
  obtain ⟨polls, completions, abandons⟩ := script
  cases polls with
  | nil => rfl
  | cons polled rest => cases polled <;> rfl

end Source

namespace Receiver
variable {τ : Type} {p : ReceiverPlan τ} {r r' : Receiver τ} {number : Nat}

/-- All permits: the free ones, one for each task, and the one of the loop. -/
def permits (r : Receiver τ) : Nat :=
  r.free + r.tasks.length + r.stage.holdsPermit.toNat

structure Freed (permits : Nat) (r r' : Receiver τ) : Prop where
  free : r'.free = r.free + permits
  tasks : r'.tasks = r.tasks
  nextTask : r'.nextTask = r.nextTask
  source : r'.source = r.source

theorem Freed.trans {a b : Nat} {r'' : Receiver τ} (first : Freed a r r')
    (second : Freed b r' r'') : Freed (a + b) r r'' where
  free := by rw [second.free, first.free, Nat.add_assoc]
  tasks := second.tasks.trans first.tasks
  nextTask := second.nextTask.trans first.nextTask
  source := second.source.trans first.source

theorem freed_wakeLoopIf (r : Receiver τ) (waits : Bool) : Freed 0 r (r.wakeLoopIf waits) := by
  cases waits <;> exact ⟨rfl, rfl, rfl, rfl⟩

theorem freed_release (r : Receiver τ) : Freed 1 r r.release := by
  have one : Freed 1 r { r with free := r.free + 1 } := ⟨rfl, rfl, rfl, rfl⟩
  exact one.trans (freed_wakeLoopIf _ _)

structure Tidy (r : Receiver τ) : Prop where
  listens : ∀ time, r.stage = .listening time → ∃ poll, r.source = .mailbox poll
  drained : r.stage = .stopped → r.tasks = []

theorem Tidy.next (tidy : r.Tidy) (stage : r'.stage = r.stage)
    (source : Source.Gives [] r.source r'.source) (tasks : r.tasks = [] → r'.tasks = []) :
    r'.Tidy := by
  refine ⟨fun time listening => ?_, fun stopped => tasks (tidy.drained (stage ▸ stopped))⟩
  obtain ⟨poll, mailbox⟩ := tidy.listens time (stage ▸ listening)
  rw [mailbox] at source
  generalize r'.source = later at source
  cases source
  exact ⟨poll, rfl⟩

structure Yields (freed : Nat) (r : Receiver τ) (turn : Turn τ) : Prop where
  freed : Freed freed r turn.receiver
  emptyHanded : turn.receiver.stage.holdsPermit = false
  unheard : turn.seen.filterMap Happening.word? = []
  tidy : turn.receiver.Tidy

theorem yields_rest (r : Receiver τ) (length : Duration) {seen : List Happening}
    (unheard : seen.filterMap Happening.word? = []) : Yields 0 r (r.rest length seen) := by
  simp only [rest, goTo]
  split <;> refine ⟨⟨rfl, rfl, rfl, rfl⟩, rfl, unheard, ⟨fun _ listens => ?_, fun stopped => ?_⟩⟩
  · cases listens
  · cases stopped
  · cases listens
  · cases stopped

theorem Yields.after {a b : Nat} {turn : Turn τ} (freed : Freed a r r')
    (yields : Yields b r' turn) : Yields (a + b) r turn :=
  ⟨freed.trans yields.freed, yields.emptyHanded, yields.unheard, yields.tidy⟩

inductive LoopWay (r : Receiver τ) (turn : Turn τ) : Prop where
  | kept (permits : turn.receiver.permits = r.permits) (tasks : turn.receiver.tasks = r.tasks)
      (nextTask : turn.receiver.nextTask = r.nextTask)
      (source : Source.Gives [] r.source turn.receiver.source)
      (unheard : turn.seen.filterMap Happening.word? = [])
      (tidy : turn.receiver.Tidy)
  | took {m : Incoming} (permits : turn.receiver.permits = r.permits)
      (tasks : turn.receiver.tasks = r.tasks ++ [{ number := r.nextTask, message := m }])
      (nextTask : turn.receiver.nextTask = r.nextTask + 1)
      (source : Source.Gives [m] r.source turn.receiver.source)
      (heard : turn.seen.filterMap Happening.word? = [.received m.id])
      (tidy : turn.receiver.Tidy)

theorem Yields.way {turn : Turn τ} {freed : Nat} (yields : Yields freed r turn)
    (held : r.stage.holdsPermit.toNat = freed) : LoopWay r turn := by
  refine .kept ?_ yields.freed.tasks yields.freed.nextTask ?_ yields.unheard yields.tidy
  · rw [permits, permits, yields.freed.free, yields.freed.tasks, yields.emptyHanded, held,
      Bool.toNat_false, Nat.add_zero, Nat.add_right_comm]
  · rw [yields.freed.source]
    exact Source.gives_nothing r.source

structure Asked (r r' : Receiver τ) : Prop where
  stage : r'.stage = r.stage
  free : r'.free = r.free
  tasks : r'.tasks = r.tasks
  nextTask : r'.nextTask = r.nextTask

theorem Asked.permits (asked : Asked r r') : r'.permits = r.permits := by
  rw [Receiver.permits, Receiver.permits, asked.stage, asked.free, asked.tasks]

theorem asked_signalled (r : Receiver τ) (change : Signal → Signal) :
    Asked r (r.signalled change) ∧ (r.signalled change).source = r.source := by
  unfold signalled wakeLoopIf
  split <;> exact ⟨⟨rfl, rfl, rfl, rfl⟩, rfl⟩

theorem LoopWay.before {turn : Turn τ} (asked : Asked r r')
    (gives : Source.Gives [] r.source r'.source) (way : LoopWay r' turn) : LoopWay r turn := by
  cases way with
  | kept permits tasks nextTask source unheard tidy =>
    exact .kept (permits.trans asked.permits) (tasks.trans asked.tasks)
      (nextTask.trans asked.nextTask) (gives.trans source) unheard tidy
  | took permits tasks nextTask source heard tidy =>
    rw [asked.tasks, asked.nextTask] at tasks
    rw [asked.nextTask] at nextTask
    exact .took (permits.trans asked.permits) tasks nextTask (gives.trans source) heard tidy

theorem way_take (p : ReceiverPlan τ) (asked : Asked r r') (holds : r.stage.holdsPermit = true)
    (polled : Polled) (gives : Source.Gives polled.message?.toList r.source r'.source) :
    LoopWay r (r'.take p polled) := by
  have held : r'.stage.holdsPermit = true := by rw [asked.stage, holds]
  cases polled with
  | message m =>
    refine .took ?_ ?_ ?_ gives rfl ⟨nofun, nofun⟩
    · rw [← asked.permits, Receiver.permits, Receiver.permits, held]
      change r'.free + (r'.tasks ++ [_]).length + 0 = r'.free + r'.tasks.length + 1
      rw [List.length_append]
      rfl
    · rw [← asked.tasks, ← asked.nextTask]
      rfl
    · rw [← asked.nextTask]
      rfl
  | nothing =>
    have quiet : [Happening.received none none].filterMap Happening.word? = [] := rfl
    have rests := (yields_rest r'.release p.rest quiet).after (freed_release r')
    exact (rests.way (by rw [held]; rfl)).before asked gives
  | failed failure =>
    let counted : Receiver τ := { r' with failures := r'.failures + 1 }
    have same : Asked r counted := ⟨asked.stage, asked.free, asked.tasks, asked.nextTask⟩
    have quiet : [Happening.received none (some failure),
        .logged (backoffEntry failure (r'.failures + 1))].filterMap Happening.word? = [] := rfl
    have rests := (yields_rest counted.release (.ofSeconds (backoff (r'.failures + 1))) quiet).after
      (freed_release counted)
    exact (rests.way (congrArg Bool.toNat held)).before same gives

theorem way_takeFromMailbox (p : ReceiverPlan τ) (x : Exchange) {poll : Duration}
    (mailbox : r.source = .mailbox poll) (holds : r.stage.holdsPermit = true)
    (found : Option Incoming) :
    LoopWay r (takeFromMailbox p { r with exchange := x } found) := by
  have asked : Asked r { r with exchange := x } := ⟨rfl, rfl, rfl, rfl⟩
  cases found with
  | some m =>
    have gives : Source.Gives (Polled.message m).message?.toList r.source r.source := by
      rw [mailbox]
      exact .mailbox _ poll
    exact way_take p asked holds _ gives
  | none =>
    let heard : Receiver τ := { r with exchange := x }
    have quiet : ([] : List Happening).filterMap Happening.word? = [] := rfl
    have rests := (yields_rest heard.release p.rest quiet).after (freed_release heard)
    exact (rests.way (congrArg Bool.toNat holds)).before asked (Source.gives_nothing r.source)

theorem yields_goTo (r : Receiver τ) (stage : LoopStage) (seen : List Happening)
    (emptyHanded : stage.holdsPermit = false) (running : stage ≠ .stopped)
    (unheard : seen.filterMap Happening.word? = []) : Yields 0 r (r.goTo stage seen) := by
  refine ⟨⟨rfl, rfl, rfl, rfl⟩, emptyHanded, unheard, ?_, fun stop => absurd stop running⟩
  intro time listening
  change stage = .listening time at listening
  rw [listening] at emptyHanded
  cases emptyHanded

theorem way_stay (tidy : r.Tidy) : LoopWay r r.stay :=
  .kept rfl rfl rfl (Source.gives_nothing _) rfl tidy

theorem unheard_reap (r : Receiver τ) : r.reap.filterMap Happening.word? = [] := by
  rw [reap, List.filterMap_filterMap]
  apply List.filterMap_eq_nil_iff.2
  rintro ⟨task, panic⟩ _
  cases panic <;> rfl

theorem freed_withdrawn (p : ReceiverPlan τ) (r : Receiver τ) :
    Freed r.stage.holdsPermit.toNat r (r.withdrawn p) := by
  cases stage : r.stage with
  | receiving =>
    rw [withdrawn_receiving p stage]
    exact freed_release r
  | listening time =>
    have gone : Freed 0 r { r with exchange := r.exchange.leave p.pipeline.address } :=
      ⟨rfl, rfl, rfl, rfl⟩
    rw [withdrawn_listening p stage]
    exact gone.trans (freed_release _)
  | resting time =>
    rw [withdrawn_resting p stage]
    exact ⟨rfl, rfl, rfl, rfl⟩
  | _ =>
    have here : r.withdrawn p = r := by simp only [withdrawn, stage]
    rw [here]
    exact ⟨rfl, rfl, rfl, rfl⟩

theorem way_withdrawn (p : ReceiverPlan τ) (r : Receiver τ) (signal : Signal) {stage : LoopStage}
    (emptyHanded : stage.holdsPermit = false) (running : stage ≠ .stopped) :
    LoopWay r ({ r.withdrawn p with signal }.goTo stage) := by
  have told : Freed 0 (r.withdrawn p) { r.withdrawn p with signal } := ⟨rfl, rfl, rfl, rfl⟩
  have goes := yields_goTo { r.withdrawn p with signal } stage [] emptyHanded running rfl
  exact ((goes.after told).after (freed_withdrawn p r)).way rfl

/-- Whatever the loop does in a turn, the permits stay the same, and a message that it receives
becomes a task. -/
theorem way_loopTurn (p : ReceiverPlan τ) (tidy : r.Tidy) :
    LoopWay r (r.loopTurn p) := by
  have step := step_loopTurn p r
  have reaped : Freed 0 r { r with finished := [] } := ⟨rfl, rfl, rfl, rfl⟩
  generalize r.loopTurn p = turn at step ⊢
  cases step with
  | closes top flag => exact (yields_goTo r .draining _ rfl nofun rfl).way (by rw [top]; rfl)
  | begins top unset => exact (yields_goTo r .acquiring [] rfl nofun rfl).way (by rw [top]; rfl)
  | blocked | hearsNothing | sleeps | stopped => exact way_stay tidy
  | acquires acquiring quiet free =>
    refine .kept ?_ rfl rfl (Source.gives_nothing _) rfl ⟨nofun, nofun⟩
    rw [permits, permits, acquiring]
    change r.free - 1 + r.tasks.length + 1 = r.free + r.tasks.length + 0
    omega
  | @polls script receiving quiet source =>
    have gives := Source.gives_nextReceive script
    rw [← source] at gives
    have asked : Asked r { r with source := .scripted script.nextReceive.2 } :=
      ⟨rfl, rfl, rfl, rfl⟩
    exact way_take p asked (by rw [receiving]; rfl) _ gives
  | finds receiving quiet source tried =>
    exact way_takeFromMailbox p _ source (by rw [receiving]; rfl) _
  | listens receiving quiet source tried =>
    refine .kept ?_ rfl rfl (Source.gives_nothing _) rfl ⟨fun _ _ => ⟨_, source⟩, nofun⟩
    rw [permits, permits, receiving]
    rfl
  | hears listening quiet heard =>
    obtain ⟨poll, mailbox⟩ := tidy.listens _ listening
    exact way_takeFromMailbox p _ mailbox (by rw [listening]; rfl) _
  | rises resting quiet elapsed =>
    have awake : Freed 0 r { r with exchange := r.exchange.cancel .receiver } :=
      ⟨rfl, rfl, rfl, rfl⟩
    exact ((yields_goTo _ .reaping [] rfl nofun rfl).after awake).way (by rw [resting]; rfl)
  | left waits gone =>
    exact ((yields_goTo _ .draining [] rfl nofun rfl).after (freed_withdrawn p r)).way rfl
  | recalled waits awake changed => exact way_withdrawn p r _ rfl nofun
  | roused resting changed =>
    cases r.signal.value with
    | true => exact way_withdrawn p r _ rfl nofun
    | false => exact way_withdrawn p r _ rfl nofun
  | reaps reaping =>
    exact ((yields_goTo _ .top _ rfl nofun r.unheard_reap).after reaped).way (by rw [reaping]; rfl)
  | drains draining busy =>
    have waits : Yields 0 r { receiver := { r with finished := [] }, seen := r.reap } := by
      refine ⟨⟨rfl, rfl, rfl, rfl⟩, ?_, unheard_reap r, tidy.listens, tidy.drained⟩
      rw [draining]
      rfl
    exact waits.way (by rw [draining]; rfl)
  | stops draining idle =>
    have stops : Yields 0 r
        { receiver := { r with finished := [], stage := .stopped },
          seen := r.reap ++ [.logged stoppedEntry] } := by
      refine ⟨⟨rfl, rfl, rfl, rfl⟩, rfl, ?_, nofun, fun _ => idle⟩
      rw [List.filterMap_append, unheard_reap]
      rfl
    exact stops.way (by rw [draining]; rfl)

def IsClosing (r : Receiver τ) : Prop := r.stage = .draining ∨ r.stage = .stopped

/-- The loop is about to look at the flag, at the top or woken from a rest, and finds it set. -/
def SeesFlag (r : Receiver τ) : Prop :=
  r.signal.value = true ∧
    (r.stage = .top ∨ ∃ time, r.stage = .resting time ∧ r.signal.news = .changed)

theorem closing_of_seesFlag (p : ReceiverPlan τ) (sees : r.SeesFlag) :
    (r.loopTurn p).receiver.IsClosing := by
  obtain ⟨value, top | ⟨time, resting, changed⟩⟩ := sees
  · left
    simp [loopTurn, top, value, goTo]
  · left
    simp [loopTurn, resting, heed, changed, goTo, Signal.seen, value]

theorem closing_loopTurn (p : ReceiverPlan τ) (closing : r.IsClosing) :
    (r.loopTurn p).receiver.IsClosing ∧ (r.loopTurn p).receiver.tasks = r.tasks := by
  rcases closing with draining | stopped
  · rw [loopTurn, draining]
    dsimp only
    split
    · exact ⟨.inr rfl, rfl⟩
    · exact ⟨.inl rfl, rfl⟩
  · rw [loopTurn, stopped]
    exact ⟨.inr stopped, rfl⟩

structure Closes (number : Nat) (r r' : Receiver τ) : Prop where
  stage : r'.stage = r.stage
  free : r'.free = r.free + 1
  tasks : r'.tasks = r.tasks.filter (·.number ≠ number)
  nextTask : r'.nextTask = r.nextTask
  source : Source.Gives [] r.source r'.source

theorem stage_wakeLoopIf (r : Receiver τ) (waits : Bool) :
    (r.wakeLoopIf waits).stage = r.stage := by
  cases waits <;> rfl

theorem closes_finish (r : Receiver τ) (number : Nat) (panic : Option String) :
    Closes number r (r.finish number panic) := by
  let left : Receiver τ := { r with
    tasks := r.tasks.filter (·.number ≠ number), finished := r.finished ++ [(number, panic)] }
  have freed : Freed 1 left (r.finish number panic) :=
    (freed_release left).trans (freed_wakeLoopIf _ _)
  have stage : (r.finish number panic).stage = r.stage := by
    rw [finish, stage_wakeLoopIf, release, stage_wakeLoopIf]
  refine ⟨stage, freed.free, freed.tasks, freed.nextTask, ?_⟩
  rw [freed.source]
  exact Source.gives_nothing r.source

theorem closes_conclude (r : Receiver τ) (t : Task) (complaint : String) (seen : List Happening)
    (receipt : Receipt) : Closes t.number r (r.conclude t complaint seen receipt).receiver := by
  cases receipt <;> exact closes_finish r t.number _

theorem words_conclude (r : Receiver τ) (t : Task) (complaint : String) (seen : List Happening)
    (receipt : Receipt) :
    (r.conclude t complaint seen receipt).seen.filterMap Happening.word? =
      seen.filterMap Happening.word? := by
  cases receipt with
  | failed failure => simp [conclude, Happening.word?]
  | _ => rfl

theorem Closes.before {r'' : Receiver τ} (asked : Asked r r')
    (gives : Source.Gives [] r.source r'.source) (closes : Closes number r' r'') :
    Closes number r r'' where
  stage := closes.stage.trans asked.stage
  free := by rw [closes.free, asked.free]
  tasks := by rw [closes.tasks, asked.tasks]
  nextTask := closes.nextTask.trans asked.nextTask
  source := gives.trans closes.source

section settling
variable (p : ReceiverPlan τ) (r : Receiver τ) (t : Task)

theorem closes_complete (seen : List Happening) :
    Closes t.number r (r.complete p t seen).receiver := by
  unfold complete
  dsimp only
  split
  · rename_i script scripted
    have asked : Asked r { r with source := .scripted script.nextComplete.2 } :=
      ⟨rfl, rfl, rfl, rfl⟩
    have gives : Source.Gives [] r.source (.scripted script.nextComplete.2) := by
      rw [scripted]
      exact .scripted rfl
    exact (closes_conclude _ t _ _ _).before asked gives
  · let x := r.exchange.setMailbox p.pipeline.address
      (r.exchange.mailbox p.pipeline.address).complete
    have asked : Asked r { r with exchange := x } := ⟨rfl, rfl, rfl, rfl⟩
    exact (closes_conclude _ t _ _ _).before asked (Source.gives_nothing r.source)

theorem closes_abandon (seen : List Happening) :
    Closes t.number r (r.abandon p t seen).receiver := by
  unfold abandon
  dsimp only
  split
  · rename_i script scripted
    have asked : Asked r { r with source := .scripted script.nextAbandon.2 } :=
      ⟨rfl, rfl, rfl, rfl⟩
    have gives : Source.Gives [] r.source (.scripted script.nextAbandon.2) := by
      rw [scripted]
      exact .scripted rfl
    exact (closes_conclude _ t _ _ _).before asked gives
  · let x := r.exchange.push p.pipeline.address t.message
    have asked : Asked r { r with exchange := x } := ⟨rfl, rfl, rfl, rfl⟩
    exact (closes_conclude _ t _ _ _).before asked (Source.gives_nothing r.source)

theorem words_complete (seen : List Happening) :
    (r.complete p t seen).seen.filterMap Happening.word? =
      seen.filterMap Happening.word? ++ [.completed t.message.id] := by
  have told : (seen ++ [Happening.completed t.message.id]).filterMap Happening.word? =
      seen.filterMap Happening.word? ++ [.completed t.message.id] := List.filterMap_append
  rw [← told]
  unfold complete
  dsimp only
  split <;> exact words_conclude _ _ _ _ _

theorem words_abandon (seen : List Happening) :
    (r.abandon p t seen).seen.filterMap Happening.word? =
      seen.filterMap Happening.word? ++ [.abandoned t.message] := by
  have told : (seen ++ [Happening.abandoned t.message]).filterMap Happening.word? =
      seen.filterMap Happening.word? ++ [.abandoned t.message] := List.filterMap_append
  rw [← told]
  unfold abandon
  dsimp only
  split <;> exact words_conclude _ _ _ _ _

theorem closes_settle (result : Ended Processed) :
    Closes t.number r (r.settle p t result).receiver ∧
      (r.settle p t result).seen.filterMap Happening.word? = result.words t.message := by
  cases result with
  | panicked text => exact ⟨closes_abandon p r t _, words_abandon p r t _⟩
  | done processed =>
    cases processed with
    | settled deliveries => exact ⟨closes_complete p r t _, words_complete p r t _⟩
    | failed failure => exact ⟨closes_abandon p r t _, words_abandon p r t _⟩

end settling

inductive SettlerWay (p : ReceiverPlan τ) (number : Nat) (r : Receiver τ) (turn : Turn τ) :
    Prop where
  | idle (busy : ∀ t, r.task? number = some t → ∃ rest time, t.phase = .processing rest time)
      (idle : turn = { receiver := r })
  | started {t : Task} (found : r.task? number = some t) (fresh : t.phase = .received)
      (asked : Asked (r.setPhase number
        (.processing (p.pipeline.process t.message) r.exchange.now)) turn.receiver)
      (source : turn.receiver.source = r.source) (quiet : turn.seen = [])
  | settled {t : Task} {result : Ended Processed} (found : r.task? number = some t)
      (ended : t.phase = .processed result) (closes : Closes number r turn.receiver)
      (words : turn.seen.filterMap Happening.word? = result.words t.message)

theorem way_settlerTurn (p : ReceiverPlan τ) (r : Receiver τ) (number : Nat) :
    SettlerWay p number r (r.settlerTurn p number) := by
  have step := step_settlerTurn p r number
  generalize r.settlerTurn p number = turn at step ⊢
  cases step with
  | idle busy => exact .idle busy rfl
  | starts found fresh => exact .started found fresh ⟨rfl, rfl, rfl, rfl⟩ rfl rfl
  | @settles t result found ended =>
    obtain ⟨closes, words⟩ := closes_settle p r t result
    exact .settled found ended ((task?_mem found).2 ▸ closes) words

theorem closes_of_ended {t : Task} {result : Ended Processed} (p : ReceiverPlan τ)
    (found : r.task? number = some t) (ended : t.phase = .processed result) :
    Closes number r (r.settlerTurn p number).receiver ∧
      (r.settlerTurn p number).seen.filterMap Happening.word? = result.words t.message := by
  cases way_settlerTurn p r number with
  | idle busy =>
    obtain ⟨rest, time, working⟩ := busy t found
    cases ended.symm.trans working
  | started found' fresh =>
    cases found.symm.trans found'
    cases ended.symm.trans fresh
  | settled found' ended' closes words =>
    cases found.symm.trans found'
    cases ended.symm.trans ended'
    exact ⟨closes, words⟩

end Receiver
end Redelivery
