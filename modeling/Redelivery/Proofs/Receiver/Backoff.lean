import Redelivery.Proofs.Receiver.Steps
import Redelivery.Proofs.Transport.Parcels

/-! How long the loop of a receiver rests between two questions to its source. After an error it
rests longer each time, and what counts is the errors since the last message: an answer that there
is nothing does not end their row. Whoever else takes steps, and whenever the loop is woken, it
rests until its time is over, as long as nothing is said about the signal. -/
namespace Redelivery

namespace Polled

def ofFound : Option Incoming → Polled
  | some m => .message m
  | none => .nothing

def isMessage : Polled → Bool
  | .message _ => true
  | _ => false

def isFailed : Polled → Bool
  | .failed _ => true
  | _ => false

/-- The errors that count after an answer, when some counted before. -/
def counted (errors : Nat) : Polled → Nat
  | .message _ => 0
  | .nothing => errors
  | .failed _ => errors + 1

end Polled

def sinceMessage (answers : List Polled) : List Polled :=
  answers.reverse.takeWhile fun answer => !answer.isMessage

def errorsSinceMessage (answers : List Polled) : Nat := (sinceMessage answers).countP (·.isFailed)

def errorsInARow (answers : List Polled) : Nat :=
  (answers.reverse.takeWhile (·.isFailed)).length

def backoffMillis (k : Nat) : Nat := 1000 * min (Nat.pow 2 (min k 5)) 30

section answers
variable (answers : List Polled)

theorem sinceMessage_append (answer : Polled) :
    sinceMessage (answers ++ [answer]) =
      if answer.isMessage then [] else answer :: sinceMessage answers := by
  simp only [sinceMessage, List.reverse_append, List.reverse_singleton, List.singleton_append,
    List.takeWhile_cons]
  cases answer.isMessage <;> rfl

theorem errorsSinceMessage_append (answer : Polled) :
    errorsSinceMessage (answers ++ [answer]) = answer.counted (errorsSinceMessage answers) := by
  rw [errorsSinceMessage, sinceMessage_append]
  cases answer with
  | message m => rfl
  | nothing => rfl
  | failed failure => simp [Polled.isMessage, Polled.counted, Polled.isFailed, errorsSinceMessage]

theorem errorsSinceMessage_eq_row (busy : Polled.nothing ∉ sinceMessage answers) :
    errorsSinceMessage answers = errorsInARow answers := by
  unfold errorsSinceMessage errorsInARow sinceMessage at *
  generalize answers.reverse = latest at busy ⊢
  induction latest with
  | nil => rfl
  | cons answer earlier ih =>
    cases answer with
    | message m => rfl
    | nothing => exact absurd List.mem_cons_self busy
    | failed failure =>
      have rest := ih fun member => busy (List.mem_cons_of_mem _ member)
      simpa [List.takeWhile_cons, Polled.isMessage, Polled.isFailed] using rest

end answers

theorem waitMillis_backoff (k : Nat) :
    Agenda.waitMillis (.ofSeconds (Receiver.backoff k)) = backoffMillis k := by
  have few : Receiver.backoff k ≤ 30 := Nat.min_le_right _ _
  have fits : Receiver.backoff k < 18446744073709551616 := Nat.lt_of_le_of_lt few (by decide)
  have whole :
      (Duration.ofSeconds (Receiver.backoff k)).ceilMillis = 1000 * Receiver.backoff k := by
    rw [Duration.ofSeconds, dif_pos fits, Duration.ceilMillis, Duration.toNanos]
    dsimp only
    omega
  rw [Agenda.waitMillis, whole, Nat.min_eq_left]
  · rfl
  · exact Nat.le_trans (Nat.mul_le_mul_left 1000 few) (by decide)

def LoopStage.isIdle : LoopStage → Bool
  | .receiving | .listening _ | .resting _ => false
  | _ => true

namespace Receiver
variable {τ : Type} {p : ReceiverPlan τ} {r r' r'' : Receiver τ}

def answer? (p : ReceiverPlan τ) (r : Receiver τ) : Option Polled :=
  match r.stage, r.signal.news with
  | .receiving, .none =>
    match r.source with
    | .scripted script => some script.nextReceive.1
    | .mailbox _ => (r.exchange.tryReceive p.pipeline.address).1.map .ofFound
  | .listening time, .none => (r.exchange.hear p.pipeline.address time).1.map .ofFound
  | _, _ => none

def restFor (p : ReceiverPlan τ) (errors : Nat) : Polled → Option Nat
  | .message _ => none
  | .nothing => some (Agenda.waitMillis p.rest)
  | .failed _ => some (backoffMillis (errors + 1))

structure Level (r r' : Receiver τ) : Prop where
  failures : r'.failures = r.failures
  signal : r'.signal = r.signal
  now : r'.exchange.now = r.exchange.now

structure Aside (r r' : Receiver τ) : Prop extends Level r r' where
  stage : r'.stage = r.stage

theorem Level.trans (first : Level r r') (second : Level r' r'') : Level r r'' where
  failures := second.failures.trans first.failures
  signal := second.signal.trans first.signal
  now := second.now.trans first.now

theorem Aside.refl (r : Receiver τ) : Aside r r := ⟨⟨rfl, rfl, rfl⟩, rfl⟩

theorem Aside.trans (first : Aside r r') (second : Aside r' r'') : Aside r r'' where
  toLevel := first.toLevel.trans second.toLevel
  stage := second.stage.trans first.stage

theorem now_wake (x : Exchange) (a : Activity) : (x.wake a).now = x.now := by
  unfold Exchange.wake Exchange.now Agenda.wake
  dsimp only
  split <;> rfl

theorem aside_wake (r : Receiver τ) (a : Activity) : Aside r (r.wake a) :=
  ⟨⟨rfl, rfl, now_wake r.exchange a⟩, rfl⟩

theorem aside_wakeLoopIf (r : Receiver τ) (waits : Bool) : Aside r (r.wakeLoopIf waits) := by
  cases waits with
  | true => exact aside_wake r .receiver
  | false => exact .refl r

theorem aside_release (r : Receiver τ) : Aside r r.release := by
  have freed : Aside r { r with free := r.free + 1 } := ⟨⟨rfl, rfl, rfl⟩, rfl⟩
  exact freed.trans (aside_wakeLoopIf _ _)

structure Heard (p : ReceiverPlan τ) (answer : Polled) (r r' : Receiver τ) : Prop where
  failures : r'.failures = answer.counted r.failures
  signal : r'.signal = r.signal
  now : r'.exchange.now = r.exchange.now
  stage : r'.stage = match restFor p r.failures answer with
    | none => .reaping
    | some rest => .resting (r.exchange.now + rest)

theorem Heard.before {answer : Polled} (level : Level r r') (heard : Heard p answer r' r'') :
    Heard p answer r r'' where
  failures := by rw [heard.failures, level.failures]
  signal := heard.signal.trans level.signal
  now := heard.now.trans level.now
  stage := by rw [heard.stage, level.failures, level.now]

theorem level_rest (r : Receiver τ) (length : Duration) (seen : List Happening) :
    Level r (r.rest length seen).receiver := by
  simp only [rest, goTo]
  split <;> exact ⟨rfl, rfl, rfl⟩

theorem stage_rest (r : Receiver τ) (length : Duration) (seen : List Happening) :
    (r.rest length seen).receiver.stage =
      .resting (r.exchange.now + Agenda.waitMillis length) := rfl

theorem heard_take (p : ReceiverPlan τ) (r : Receiver τ) (answer : Polled) :
    Heard p answer r (r.take p answer).receiver := by
  cases answer with
  | message m => exact ⟨rfl, rfl, now_wake _ _, rfl⟩
  | nothing =>
    have level :=
      (aside_release r).toLevel.trans (level_rest r.release p.rest [.received none none])
    refine ⟨level.failures, level.signal, level.now, ?_⟩
    rw [take, stage_rest, (aside_release r).now]
    rfl
  | failed failure =>
    let counted : Receiver τ := { r with failures := r.failures + 1 }
    let seen : List Happening :=
      [.received none (some failure), .logged (backoffEntry failure (r.failures + 1))]
    have level := (aside_release counted).toLevel.trans
      (level_rest counted.release (.ofSeconds (backoff (r.failures + 1))) seen)
    refine ⟨level.failures, level.signal, level.now, ?_⟩
    rw [take, stage_rest, (aside_release counted).now, waitMillis_backoff]
    rfl

theorem heard_takeFromMailbox (p : ReceiverPlan τ) (r : Receiver τ) (found : Option Incoming) :
    Heard p (.ofFound found) r (r.takeFromMailbox p found).receiver := by
  cases found with
  | some m => exact heard_take p r (.message m)
  | none =>
    have level := (aside_release r).toLevel.trans (level_rest r.release p.rest [])
    refine ⟨level.failures, level.signal, level.now, ?_⟩
    rw [takeFromMailbox, stage_rest, (aside_release r).now]
    rfl

inductive LoopPace (p : ReceiverPlan τ) (r r' : Receiver τ) : Prop where
  | heard {answer : Polled} (asked : r.answer? p = some answer) (heard : Heard p answer r r')
  | early {time : Nat} (resting : r.stage = .resting time) (ahead : r.exchange.now < time)
      (same : r' = r)
  | rested {time : Nat} (resting : r.stage = .resting time) (elapsed : time ≤ r.exchange.now)
      (level : Level r r') (stage : r'.stage = .reaping)
  | elsewhere (unasked : r.answer? p = none) (level : Level r r')
      (before : ∀ time, r.stage ≠ .resting time) (after : ∀ time, r'.stage ≠ .resting time)

theorem now_tryReceive {x x' : Exchange} {address : String} {found : Option (Option Incoming)}
    (tried : x.tryReceive address = (found, x')) : x'.now = x.now := by
  unfold Exchange.tryReceive at tried
  dsimp only at tried
  split at tried
  · cases tried
    rfl
  · split at tried <;> (cases tried; rfl)

theorem now_hear {x x' : Exchange} {address : String} {time : Nat}
    {found : Option (Option Incoming)} (heard : x.hear address time = (found, x')) :
    x'.now = x.now := by
  unfold Exchange.hear at heard
  dsimp only at heard
  split at heard
  · cases heard
    rfl
  · split at heard <;> (cases heard; rfl)

theorem LoopPace.of_idle (idle : r.stage.isIdle = true) (level : Level r r')
    (awake : ∀ time, r'.stage ≠ .resting time) : LoopPace p r r' := by
  have unasked : r.answer? p = none := by
    unfold answer?
    split
    · rename_i stage _
      rw [stage] at idle
      cases idle
    · rename_i stage _
      rw [stage] at idle
      cases idle
    · rfl
  refine .elsewhere unasked level (fun time resting => ?_) awake
  rw [resting] at idle
  cases idle

theorem pace_loopTurn (p : ReceiverPlan τ) (quiet : r.signal.news = .none) :
    LoopPace p r (r.loopTurn p).receiver := by
  have step := step_loopTurn p r
  have self : Level r r := ⟨rfl, rfl, rfl⟩
  generalize r.loopTurn p = turn at step ⊢
  cases step with
  | closes top | begins top => exact .of_idle (by rw [top]; rfl) ⟨rfl, rfl, rfl⟩ nofun
  | blocked acquiring => exact .of_idle (by rw [acquiring]; rfl) self (by simp [stay, acquiring])
  | acquires acquiring => exact .of_idle (by rw [acquiring]; rfl) ⟨rfl, rfl, rfl⟩ nofun
  | @polls script receiving _ source =>
    have asked : r.answer? p = some script.nextReceive.1 := by
      rw [answer?, receiving, quiet, source]
    have level : Level r { r with source := .scripted script.nextReceive.2 } := ⟨rfl, rfl, rfl⟩
    exact .heard asked ((heard_take p _ _).before level)
  | @finds _ found x receiving _ source tried =>
    have asked : r.answer? p = some (.ofFound found) := by
      rw [answer?, receiving, quiet, source]
      exact congrArg (fun tried => tried.1.map Polled.ofFound) tried
    have level : Level r { r with exchange := x } := ⟨rfl, rfl, now_tryReceive tried⟩
    exact .heard asked ((heard_takeFromMailbox p _ found).before level)
  | listens receiving _ source tried =>
    have unasked : r.answer? p = none := by
      rw [answer?, receiving, quiet, source]
      exact congrArg (fun tried => tried.1.map Polled.ofFound) tried
    have now := now_tryReceive tried
    exact .elsewhere unasked ⟨rfl, rfl, now⟩ (by simp [receiving]) nofun
  | @hears _ found x listening _ heard =>
    have asked : r.answer? p = some (.ofFound found) := by
      rw [answer?, listening, quiet]
      exact congrArg (fun heard => heard.1.map Polled.ofFound) heard
    have level : Level r { r with exchange := x } := ⟨rfl, rfl, now_hear heard⟩
    exact .heard asked ((heard_takeFromMailbox p _ found).before level)
  | hearsNothing listening _ heard =>
    have unasked : r.answer? p = none := by
      rw [answer?, listening, quiet]
      exact congrArg (fun heard => heard.1.map Polled.ofFound) heard
    exact .elsewhere unasked self (by simp [listening]) (by simp [stay, listening])
  | sleeps resting _ ahead => exact .early resting ahead rfl
  | rises resting _ elapsed => exact .rested resting elapsed ⟨rfl, rfl, rfl⟩ rfl
  | left _ gone => cases quiet.symm.trans gone
  | recalled _ _ changed => cases quiet.symm.trans changed
  | roused _ changed => cases quiet.symm.trans changed
  | reaps reaping => exact .of_idle (by rw [reaping]; rfl) ⟨rfl, rfl, rfl⟩ nofun
  | drains draining =>
    exact .of_idle (by rw [draining]; rfl) ⟨rfl, rfl, rfl⟩ (by simp [draining])
  | stops draining => exact .of_idle (by rw [draining]; rfl) ⟨rfl, rfl, rfl⟩ nofun
  | stopped stopped => exact .of_idle (by rw [stopped]; rfl) self (by simp [stay, stopped])

theorem stage_rested {time : Nat} (quiet : r.signal.news = .none)
    (resting : r.stage = .resting time) :
    (r.loopTurn p).receiver.stage =
      if time ≤ r.exchange.now then .reaping else .resting time := by
  cases pace_loopTurn p quiet with
  | heard asked heard =>
    rw [answer?, resting] at asked
    cases asked
  | early resting' ahead same =>
    cases resting.symm.trans resting'
    rw [same, if_neg (Nat.not_le_of_lt ahead), resting]
  | rested resting' elapsed level stage =>
    cases resting.symm.trans resting'
    rw [if_pos elapsed, stage]
  | elsewhere unasked level before after => exact absurd resting (before time)

theorem now_after (x : Exchange) (change : Transport × Bool) : (x.after change).now = x.now := by
  unfold Exchange.after
  dsimp only
  split
  · exact now_wake _ _
  · rfl

theorem now_dispatch (x : Exchange) (op : Operation) : (x.dispatch op).2.now = x.now := by
  unfold Exchange.dispatch
  dsimp only
  split
  · rfl
  · exact now_after _ _
  · exact now_wake _ _

theorem now_courierTurn (x : Exchange) (number : Nat) : (x.courierTurn number).now = x.now := by
  unfold Exchange.courierTurn
  split
  · rfl
  · split
    · exact now_after _ _
    · rfl

theorem now_answer (h : Host τ) (w : World (Exchange × τ)) (request : Request) :
    (h.onExchange.answer w request).2.1.outside.1.now = w.outside.1.now := by
  cases request with
  | dispatch op => exact now_dispatch w.outside.1 op
  | consult policy question => cases policy <;> rfl
  | _ => rfl

theorem aside_serve (p : ReceiverPlan τ) (r : Receiver τ) (number time : Nat) :
    Aside r (r.serve p number time).1 := by
  have ended (phase : TaskPhase) : Aside r ((r.setPhase number phase).wake (.settler number)) :=
    ⟨⟨rfl, rfl, now_wake _ _⟩, rfl⟩
  unfold serve
  split
  · exact ended _
  · exact ended _
  · exact ⟨⟨rfl, rfl, now_answer p.host _ _⟩, rfl⟩
  · exact .refl r

theorem aside_conclude (before : Aside r r') (t : Task) (complaint : String)
    (seen : List Happening) (receipt : Receipt) :
    Aside r (r'.conclude t complaint seen receipt).receiver := by
  have finished (panic : Option String) : Aside r' (r'.finish t.number panic) := by
    have left : Aside r' { r' with
        tasks := r'.tasks.filter (·.number ≠ t.number),
        finished := r'.finished ++ [(t.number, panic)] } := ⟨⟨rfl, rfl, rfl⟩, rfl⟩
    exact left.trans ((aside_release _).trans (aside_wakeLoopIf _ _))
  cases receipt <;> exact before.trans (finished _)

theorem aside_complete (p : ReceiverPlan τ) (r : Receiver τ) (t : Task) (seen : List Happening) :
    Aside r (r.complete p t seen).receiver := by
  unfold complete
  dsimp only
  split
  all_goals
    refine aside_conclude ?_ t _ _ _
    exact ⟨⟨rfl, rfl, rfl⟩, rfl⟩

theorem aside_abandon (p : ReceiverPlan τ) (r : Receiver τ) (t : Task) (seen : List Happening) :
    Aside r (r.abandon p t seen).receiver := by
  unfold abandon
  dsimp only
  split
  all_goals refine aside_conclude ?_ t _ _ _
  · exact ⟨⟨rfl, rfl, rfl⟩, rfl⟩
  · exact ⟨⟨rfl, rfl, Exchange.now_push _ _ _⟩, rfl⟩

theorem aside_settlerTurn (p : ReceiverPlan τ) (r : Receiver τ) (number : Nat) :
    Aside r (r.settlerTurn p number).receiver := by
  have step := step_settlerTurn p r number
  generalize r.settlerTurn p number = turn at step ⊢
  cases step with
  | idle => exact .refl r
  | starts => exact ⟨⟨rfl, rfl, now_wake _ _⟩, rfl⟩
  | settles =>
    unfold settle
    split
    · exact aside_complete p r _ _
    · exact aside_abandon p r _ _
    · exact aside_abandon p r _ _

/-- The time before which the loop asks its source for nothing. -/
def ready (r : Receiver τ) : Nat :=
  match r.stage with
  | .resting time => max time r.exchange.now
  | _ => r.exchange.now

theorem now_le_ready (r : Receiver τ) : r.exchange.now ≤ r.ready := by
  unfold ready
  split
  · exact Nat.le_max_right _ _
  · exact Nat.le_refl _

theorem ready_resting {time : Nat} (resting : r.stage = .resting time) :
    r.ready = max time r.exchange.now := by
  rw [ready, resting]

theorem ready_awake (awake : ∀ time, r.stage ≠ .resting time) : r.ready = r.exchange.now := by
  unfold ready
  split
  · rename_i time resting
    exact absurd resting (awake time)
  · rfl

theorem ready_le (stage : r'.stage = r.stage) (later : r.exchange.now ≤ r'.exchange.now) :
    r.ready ≤ r'.ready := by
  unfold ready
  rw [stage]
  split
  · exact Nat.max_le.2 ⟨Nat.le_max_left _ _, Nat.le_trans later (Nat.le_max_right _ _)⟩
  · exact later

theorem awake_of_asked {answer : Polled} (asked : r.answer? p = some answer) (time : Nat) :
    r.stage ≠ .resting time := by
  intro resting
  rw [answer?, resting] at asked
  cases asked

theorem Heard.ready {answer : Polled} (heard : Heard p answer r r') :
    r'.ready = r.exchange.now + (restFor p r.failures answer).getD 0 := by
  have stage := heard.stage
  cases known : restFor p r.failures answer with
  | none =>
    rw [known] at stage
    rw [ready_awake (by simp [stage]), heard.now]
    rfl
  | some rest =>
    rw [known] at stage
    rw [ready_resting stage, heard.now]
    exact Nat.max_eq_left (Nat.le_add_right _ _)

end Receiver

/-- An answer of the source: when it came, what it was, and how long the loop then rests. -/
structure Poll where
  time : Nat
  answer : Polled
  rest : Option Nat

def Poll.finish (poll : Poll) : Nat := poll.time + poll.rest.getD 0

def LoopStage.restFrom (now : Nat) : LoopStage → Option Nat
  | .resting time => some (time - now)
  | _ => none

/-- A step that says nothing about the signal and does not set the clock back. -/
def Move.isOnward (now : Nat) : Move → Bool
  | .signal _ => false
  | .agenda a => now ≤ a.now
  | _ => true

namespace Chronicle
variable {τ : Type} {p : ReceiverPlan τ} {c c' : Chronicle τ} {past : List Poll}

def now (c : Chronicle τ) : Nat := c.receiver.exchange.now

def poll? (p : ReceiverPlan τ) (c : Chronicle τ) (next : Move) : Option Poll :=
  match next with
  | .loop => (c.receiver.answer? p).map fun answer =>
      ⟨c.now, answer, (c.move p .loop).receiver.stage.restFrom c.now⟩
  | _ => none

def polls (p : ReceiverPlan τ) (c : Chronicle τ) : List Move → List Poll
  | [] => []
  | next :: moves => (c.poll? p next).toList ++ (c.move p next).polls p moves

/-- The signal stays as it is, and the clock is never set back. -/
def Undisturbed (p : ReceiverPlan τ) (c : Chronicle τ) : List Move → Prop
  | [] => True
  | next :: moves => next.isOnward c.now = true ∧ (c.move p next).Undisturbed p moves

instance decidableUndisturbed (p : ReceiverPlan τ) :
    (c : Chronicle τ) → (moves : List Move) → Decidable (c.Undisturbed p moves)
  | _, [] => isTrue trivial
  | c, next :: moves =>
    have := decidableUndisturbed p (c.move p next) moves
    inferInstanceAs (Decidable (next.isOnward c.now = true ∧ _))

/-- The rests so far are as they have to be, and the last one is kept. -/
structure Paced (p : ReceiverPlan τ) (c : Chronicle τ) (polls : List Poll) : Prop where
  quiet : c.receiver.signal.news = .none
  failures : c.receiver.failures = errorsSinceMessage (polls.map (·.answer))
  rests : ∀ before poll after, polls = before ++ poll :: after →
    poll.rest = Receiver.restFor p (errorsSinceMessage (before.map (·.answer))) poll.answer
  spaced : polls.Pairwise fun a b => a.finish ≤ b.time
  kept : ∀ poll ∈ polls, poll.finish ≤ c.receiver.ready

theorem Paced.onward (paced : c.Paced p past)
    (failures : c'.receiver.failures = c.receiver.failures)
    (signal : c'.receiver.signal = c.receiver.signal)
    (ready : c.receiver.ready ≤ c'.receiver.ready) : c'.Paced p past where
  quiet := signal ▸ paced.quiet
  failures := failures.trans paced.failures
  rests := paced.rests
  spaced := paced.spaced
  kept poll member := Nat.le_trans (paced.kept poll member) ready

theorem Paced.heard {answer : Polled} (paced : c.Paced p past)
    (asked : c.receiver.answer? p = some answer)
    (heard : Receiver.Heard p answer c.receiver c'.receiver) :
    c'.Paced p (past ++ [⟨c.now, answer, Receiver.restFor p c.receiver.failures answer⟩]) where
  quiet := heard.signal ▸ paced.quiet
  failures := by
    rw [List.map_append, List.map_singleton, errorsSinceMessage_append, heard.failures,
      paced.failures]
  rests before poll after split := by
    rw [paced.failures] at split
    rcases List.eq_nil_or_concat after with rfl | ⟨later, last, rfl⟩
    · obtain ⟨rfl, here⟩ := List.append_inj' split rfl
      cases List.singleton_inj.1 here
      rfl
    · rw [List.concat_eq_append, ← List.cons_append, ← List.append_assoc] at split
      exact paced.rests before poll later (List.append_inj' split rfl).1
  spaced := by
    refine List.pairwise_append.2
      ⟨paced.spaced, List.pairwise_singleton _ _, fun a earlier b new => ?_⟩
    rw [List.mem_singleton.1 new]
    have kept := paced.kept a earlier
    rwa [Receiver.ready_awake (Receiver.awake_of_asked asked)] at kept
  kept poll member := by
    rw [heard.ready]
    rcases List.mem_append.1 member with earlier | new
    · have kept := paced.kept poll earlier
      rw [Receiver.ready_awake (Receiver.awake_of_asked asked)] at kept
      exact Nat.le_trans kept (Nat.le_add_right _ _)
    · rw [List.mem_singleton.1 new]
      exact Nat.le_refl _

theorem poll?_of_unasked (unasked : c.receiver.answer? p = none) : c.poll? p .loop = none := by
  rw [poll?, unasked]
  rfl

theorem poll?_of_heard {answer : Polled} (asked : c.receiver.answer? p = some answer)
    (heard : Receiver.Heard p answer c.receiver (c.move p .loop).receiver) :
    c.poll? p .loop = some ⟨c.now, answer, Receiver.restFor p c.receiver.failures answer⟩ := by
  have stage := heard.stage
  rw [poll?, asked, stage]
  cases Receiver.restFor p c.receiver.failures answer with
  | none => rfl
  | some rest =>
    have length : c.receiver.exchange.now + rest - c.now = rest := Nat.add_sub_cancel_left _ _
    simp only [Option.map_some, LoopStage.restFrom, length]

theorem Paced.loop (paced : c.Paced p past) :
    (c.move p .loop).Paced p (past ++ (c.poll? p .loop).toList) := by
  have pace : Receiver.LoopPace p c.receiver (c.move p .loop).receiver :=
    Receiver.pace_loopTurn p paced.quiet
  cases pace with
  | heard asked heard =>
    rw [poll?_of_heard asked heard]
    exact paced.heard asked heard
  | @early time resting ahead same =>
    have unasked : c.receiver.answer? p = none := by rw [Receiver.answer?, resting]
    rw [poll?_of_unasked unasked, Option.toList_none, List.append_nil]
    exact paced.onward (congrArg _ same) (congrArg _ same) (Nat.le_of_eq (congrArg _ same.symm))
  | @rested time resting elapsed level stage =>
    have unasked : c.receiver.answer? p = none := by rw [Receiver.answer?, resting]
    rw [poll?_of_unasked unasked, Option.toList_none, List.append_nil]
    refine paced.onward level.failures level.signal ?_
    rw [Receiver.ready_resting resting, Nat.max_eq_right elapsed, ← level.now]
    exact Receiver.now_le_ready _
  | elsewhere unasked level before after =>
    rw [poll?_of_unasked unasked, Option.toList_none, List.append_nil]
    refine paced.onward level.failures level.signal ?_
    rw [Receiver.ready_awake before, ← level.now]
    exact Receiver.now_le_ready _

/-- Whoever takes the next step, the rests stay as they have to be. -/
theorem Paced.move (paced : c.Paced p past) {next : Move} (onward : next.isOnward c.now = true) :
    (c.move p next).Paced p (past ++ (c.poll? p next).toList) := by
  have aside (others : c.poll? p next = none)
      (aside : Receiver.Aside c.receiver (c.move p next).receiver) :
      (c.move p next).Paced p (past ++ (c.poll? p next).toList) := by
    rw [others, Option.toList_none, List.append_nil]
    exact paced.onward aside.failures aside.signal
      (Receiver.ready_le aside.stage (Nat.le_of_eq aside.now.symm))
  cases next with
  | loop => exact paced.loop
  | settler number => exact aside rfl (Receiver.aside_settlerTurn p c.receiver number)
  | worker number time => exact aside rfl (Receiver.aside_serve p c.receiver number time)
  | courier number => exact aside rfl ⟨⟨rfl, rfl, Receiver.now_courierTurn _ _⟩, rfl⟩
  | send address m => exact aside rfl ⟨⟨rfl, rfl, Exchange.now_push _ _ _⟩, rfl⟩
  | unavailable address value => exact aside rfl ⟨⟨rfl, rfl, rfl⟩, rfl⟩
  | signal s => cases onward
  | agenda a =>
    have later : c.now ≤ a.now := of_decide_eq_true onward
    have same : past ++ (c.poll? p (.agenda a)).toList = past := List.append_nil _
    rw [same]
    exact paced.onward rfl rfl (Receiver.ready_le rfl later)

theorem Paced.after (paced : c.Paced p past) {moves : List Move}
    (undisturbed : c.Undisturbed p moves) :
    (c.after p moves).Paced p (past ++ c.polls p moves) := by
  induction moves generalizing c past with
  | nil =>
    rw [polls, List.append_nil]
    exact paced
  | cons next moves ih =>
    rw [polls, ← List.append_assoc]
    exact ih (paced.move undisturbed.1) undisturbed.2

theorem Undisturbed.beginning {early late : List Move}
    (undisturbed : c.Undisturbed p (early ++ late)) : c.Undisturbed p early := by
  induction early generalizing c with
  | nil => exact trivial
  | cons next early ih => exact ⟨undisturbed.1, ih undisturbed.2⟩

theorem paced_start (p : ReceiverPlan τ) (source : Source) (table : FailureTable) (host : τ) :
    ({ receiver := .create p source table host } : Chronicle τ).Paced p [] where
  quiet := rfl
  failures := rfl
  rests before poll after split := by simp at split
  spaced := .nil
  kept poll member := by cases member

/-- After an error the loop rests by the number of errors since the last message, after an answer
that there is nothing as long as it was told to, and after a message not at all. If no empty answer
came since that message, the errors are those in a row. A rest is over when its time is, not before:
no later answer comes earlier, and the loop goes on with its first turn from then on. -/
theorem rests_follow_errors (p : ReceiverPlan τ) (source : Source) (table : FailureTable)
    (host : τ) {moves : List Move}
    (undisturbed : ({ receiver := .create p source table host } : Chronicle τ).Undisturbed p
      moves) :
    let start : Chronicle τ := { receiver := .create p source table host }
    (∀ before poll after, start.polls p moves = before ++ poll :: after →
      match poll.answer with
      | .message _ => poll.rest = none
      | .nothing => poll.rest = some (Agenda.waitMillis p.rest)
      | .failed _ =>
        poll.rest = some (backoffMillis (errorsSinceMessage (before.map (·.answer)) + 1)) ∧
        (.nothing ∉ sinceMessage (before.map (·.answer)) →
          poll.rest = some (backoffMillis (errorsInARow (before.map (·.answer)) + 1)))) ∧
    (start.polls p moves).Pairwise (fun a b => a.time + a.rest.getD 0 ≤ b.time) ∧
    ∀ early late time, moves = early ++ .loop :: late →
      (start.after p early).receiver.stage = .resting time →
      (start.after p (early ++ [.loop])).receiver.stage =
        if time ≤ (start.after p early).now then .reaping else .resting time := by
  intro start
  have paced : (start.after p moves).Paced p (start.polls p moves) :=
    (paced_start p source table host).after undisturbed
  refine ⟨fun before poll after split => ?_, paced.spaced, fun early late time split resting => ?_⟩
  · have rest := paced.rests before poll after split
    cases answer : poll.answer with
    | message m => rw [rest, answer]; rfl
    | nothing => rw [rest, answer]; rfl
    | failed failure =>
      rw [answer] at rest
      refine ⟨rest, fun busy => ?_⟩
      rw [← errorsSinceMessage_eq_row _ busy]
      exact rest
  · subst split
    have quiet := ((paced_start p source table host).after undisturbed.beginning).quiet
    rw [after, List.foldl_append]
    exact Receiver.stage_rested quiet resting

section unreachable

def unreachable : Failure := .handler ⟨0, Failure.untypedReport, none, { text := "down" }⟩

def unreachablePlan : ReceiverPlan CastState :=
  { pipeline := ⟨[], "sales"⟩, host := Cast.stumbling.host, rest := .ofSeconds 10,
    concurrency := 1 }

def unreachableStart : Chronicle CastState :=
  { receiver := .create unreachablePlan
      (.scripted { receive := [.failed unreachable, .nothing, .failed unreachable] })
      (.ofCapacity 1000) {} }

def unreachableMoves : List Move :=
  List.replicate 3 .loop ++ .agenda { now := 2000 } :: List.replicate 5 .loop ++
    .agenda { now := 12000 } :: List.replicate 5 .loop

theorem unreachable_rests :
    unreachableStart.Undisturbed unreachablePlan unreachableMoves ∧
    (unreachableStart.polls unreachablePlan unreachableMoves).Pairwise fun a b =>
      a.time + a.rest.getD 0 ≤ b.time := by
  have undisturbed : unreachableStart.Undisturbed unreachablePlan unreachableMoves := by decide
  exact ⟨undisturbed, (rests_follow_errors _ _ _ _ undisturbed).2.1⟩

/-- The last error stands alone, but the loop rests as after two in a row. -/
theorem errors_around_a_pause :
    ∃ first pause last,
      unreachableStart.polls unreachablePlan unreachableMoves = [first, pause, last] ∧
      first.answer = .failed unreachable ∧ pause.answer = .nothing ∧
      last.answer = .failed unreachable ∧
      errorsInARow [first.answer, pause.answer, last.answer] = 1 ∧
      last.rest = some 4000 ∧ last.rest ≠ some (backoffMillis 1) :=
  ⟨⟨0, .failed unreachable, some 2000⟩, ⟨2000, .nothing, some 10000⟩,
    ⟨12000, .failed unreachable, some 4000⟩, rfl, rfl, rfl, rfl, rfl, rfl, by decide⟩

end unreachable
end Chronicle
end Redelivery
