import Redelivery.Proofs.Receiver.Steps

/-! Runs that follow an agenda. What a receiver does when everybody takes turns as the agenda says,
and the one who runs it follows a list of commands, is one of the courses that steps in any order
can take. -/
namespace Redelivery

namespace Chronicle
variable {τ : Type} {p : ReceiverPlan τ} {c : Chronicle τ} {r r' : Receiver τ}
  {posted posted' : List (String × Outgoing)}

def CanReach (p : ReceiverPlan τ) (c : Chronicle τ) (r : Receiver τ)
    (posted : List (String × Outgoing)) : Prop :=
  ∃ moves, (c.after p moves).receiver = r ∧ (c.after p moves).posted = posted

theorem canReach_after {moves : List Move} (later : (c.after p moves).CanReach p r posted) :
    c.CanReach p r posted := by
  obtain ⟨more, reached, sent⟩ := later
  have joined : c.after p (moves ++ more) = (c.after p moves).after p more := List.foldl_append
  exact ⟨moves ++ more, by rw [joined, reached], by rw [joined, sent]⟩

theorem CanReach.trans (first : c.CanReach p r posted)
    (later : ∀ c : Chronicle τ, c.receiver = r → c.posted = posted → c.CanReach p r' posted') :
    c.CanReach p r' posted' := by
  obtain ⟨moves, reached, sent⟩ := first
  exact canReach_after (later _ reached sent)

theorem canReach_self (p : ReceiverPlan τ) (c : Chronicle τ) : c.CanReach p c.receiver c.posted :=
  ⟨[], rfl, rfl⟩

theorem canReach_move (p : ReceiverPlan τ) (c : Chronicle τ) (next : Move) :
    c.CanReach p (c.move p next).receiver (c.move p next).posted := ⟨[next], rfl, rfl⟩

theorem canReach_agenda (p : ReceiverPlan τ) (c : Chronicle τ) (agenda : Agenda Activity) :
    c.CanReach p { c.receiver with exchange := { c.receiver.exchange with agenda } } c.posted :=
  canReach_move p c (.agenda agenda)

end Chronicle

section worker
variable {τ : Type} {p : ReceiverPlan τ} {c : Chronicle τ} {number : Nat}

theorem setPhase_setPhase (r : Receiver τ) (number : Nat) (phase phase' : TaskPhase) :
    (r.setPhase number phase).setPhase number phase' = r.setPhase number phase' := by
  have same : ∀ t : Task,
      (fun t : Task => if t.number = number then { t with phase := phase' } else t)
        (if t.number = number then { t with phase } else t) =
          if t.number = number then { t with phase := phase' } else t := by
    intro t
    by_cases mine : t.number = number
    · simp [mine]
    · simp [mine]
  unfold Receiver.setPhase
  simp only [List.map_map]
  congr 1
  exact List.map_congr_left fun t _ => same t

theorem task?_setPhase {r : Receiver τ} {t : Task} (found : r.task? number = some t)
    (phase : TaskPhase) : (r.setPhase number phase).task? number = some { t with phase } := by
  unfold Receiver.task? at found ⊢
  have keeps : ((fun t : Task => decide (t.number = number)) ∘ fun t : Task =>
      if t.number = number then { t with phase } else t) = fun t => decide (t.number = number) := by
    funext t
    simp only [Function.comp_apply]
    split <;> rfl
  change (r.tasks.map _).find? _ = _
  rw [List.find?_map, keeps, found]
  have mine : t.number = number := by simpa using List.find?_some found
  simp [mine]

/-- A request that is not a pause of some length, in front of the rest. -/
theorem advance_ask {σ α : Type} (o : Outside σ) (w : World σ) {request : Request}
    (next : request.Answer → Flow α)
    (goes : ∀ length, request = .pause length → length.isZero = true) :
    ((Flow.ask request next).advance o w).1 =
        ((next (o.answer w request).1).advance o (o.answer w request).2.1).1 ∧
      ((Flow.ask request next).advance o w).2.1 =
        ((next (o.answer w request).1).advance o (o.answer w request).2.1).2.1 := by
  cases request with
  | pause length =>
    have same : (Flow.ask (.pause length) next).advance o w = (next ()).advance o w :=
      if_pos (goes length rfl)
    rw [same]
    exact ⟨rfl, rfl⟩
  | _ => exact ⟨rfl, rfl⟩

def Receiver.stopped (r : Receiver τ) (number : Nat) (stop : Flow.Stop Processed)
    (w : World (Exchange × τ)) : Receiver τ :=
  let r := { r with table := w.table, exchange := w.outside.1, host := w.outside.2 }
  match stop with
  | .ended result => (r.setPhase number (.processed result)).wake (.settler number)
  | .paused length rest =>
    let time := r.exchange.agenda.due length
    let exchange := r.exchange.sleepUntil (.worker number) time
    { r with exchange }.setPhase number (.processing rest time)

theorem work_stopped (p : ReceiverPlan τ) (r : Receiver τ) (number : Nat) (rest : Flow Processed) :
    (r.work p number rest).receiver =
      r.stopped number (rest.advance p.host.onExchange ⟨r.table, r.exchange, r.host⟩).1
        (rest.advance p.host.onExchange ⟨r.table, r.exchange, r.host⟩).2.1 := by
  simp only [Receiver.work, Receiver.stopped]
  cases (rest.advance p.host.onExchange ⟨r.table, r.exchange, r.host⟩).1 <;> rfl

theorem stopped_setPhase (r : Receiver τ) (phase : TaskPhase) (stop : Flow.Stop Processed)
    (w : World (Exchange × τ)) :
    (r.setPhase number phase).stopped number stop w = r.stopped number stop w := by
  cases stop with
  | ended result =>
    have same := setPhase_setPhase
      { r with table := w.table, exchange := w.outside.1, host := w.outside.2 } number phase
      (.processed result)
    exact congrArg (fun r : Receiver τ => r.wake (.settler number)) same
  | paused length rest =>
    have same := fun exchange => setPhase_setPhase
      { r with table := w.table, exchange, host := w.outside.2 } number phase
      (.processing rest (w.outside.1.agenda.due length))
    exact same _

theorem work_ask (r : Receiver τ) {request : Request} (next : request.Answer → Flow Processed)
    (goes : ∀ length, request = .pause length → length.isZero = true) (time : Nat) :
    (r.work p number (.ask request next)).receiver =
      ((r.answered p number request next time).work p number
        (next (p.host.onExchange.answer ⟨r.table, r.exchange, r.host⟩ request).1)).receiver := by
  obtain ⟨stop, world⟩ := advance_ask p.host.onExchange ⟨r.table, r.exchange, r.host⟩ next goes
  rw [work_stopped, work_stopped, Receiver.answered, stopped_setPhase, stop, world]
  rfl

theorem work_pause (r : Receiver τ) {length : Duration} (nonzero : length.isZero ≠ true)
    (next : Unit → Flow Processed) :
    let time := r.exchange.agenda.due length
    let r' := r.answered p number (.pause length) next time
    (r.work p number (.ask (.pause length) next)).receiver =
      { r' with exchange := r'.exchange.sleepUntil (.worker number) time } := by
  have stop : (Flow.ask (.pause length) next).advance p.host.onExchange
      ⟨r.table, r.exchange, r.host⟩ =
        (.paused length (next ()), ⟨r.table, r.exchange, r.host⟩, []) := if_neg nonzero
  rw [work_stopped, stop]
  rfl

theorem canReach_work {t : Task} {rest : Flow Processed} {due : Nat}
    (found : c.receiver.task? number = some t) (processing : t.phase = .processing rest due) :
    c.CanReach p (c.receiver.work p number rest).receiver c.posted := by
  -- On the requests of the worker: a turn answers all up to the next pause, a step only one.
  induction rest generalizing c t due with
  | done result =>
    have step := Chronicle.canReach_move p c (.worker number 0)
    simp only [Chronicle.move, Receiver.serve_done p 0 found processing] at step
    exact step
  | panicked text =>
    have step := Chronicle.canReach_move p c (.worker number 0)
    simp only [Chronicle.move, Receiver.serve_panicked p 0 found processing] at step
    exact step
  | ask request next ih =>
    by_cases goes : ∀ length, request = .pause length → length.isZero = true
    · have step := Chronicle.canReach_move p c (.worker number 0)
      simp only [Chronicle.move, Receiver.serve_ask p 0 found processing] at step
      refine step.trans fun c' reached sent => ?_
      rw [work_ask c.receiver next goes 0, ← sent]
      let answer := (p.host.onExchange.answer
        ⟨c.receiver.table, c.receiver.exchange, c.receiver.host⟩ request).1
      have found' : c'.receiver.task? number =
          some { t with phase := .processing (next answer) 0 } := by
        rw [reached]
        exact task?_setPhase found _
      have later := ih _ found' rfl
      rw [reached] at later
      exact later
    · obtain ⟨length, pauses⟩ := not_forall.1 goes
      obtain ⟨rfl, nonzero⟩ := Classical.not_imp.1 pauses
      have step := Chronicle.canReach_move p c
        (.worker number (c.receiver.exchange.agenda.due length))
      simp only [Chronicle.move, Receiver.serve_ask p _ found processing] at step
      refine step.trans fun c' reached sent => ?_
      rw [work_pause c.receiver nonzero next, ← sent]
      have slept := Chronicle.canReach_agenda p c' (c'.receiver.exchange.sleepUntil (.worker number)
        (c.receiver.exchange.agenda.due length)).agenda
      rw [reached] at slept
      exact slept

end worker
def Commands.sends (commands : Commands) : List (String × Outgoing) :=
  commands.filterMap fun
    | (_, .send address m) => some (address, m)
    | _ => none

namespace Chronicle
variable {τ : Type} {p : ReceiverPlan τ} {c : Chronicle τ} {r r' : Receiver τ}
  {commands commands' : Commands}

/-- Some steps lead to a receiver, with all messages sent but those that the commands left send. -/
def Follows (p : ReceiverPlan τ) (c : Chronicle τ) (commands : Commands) (r : Receiver τ)
    (left : Commands) : Prop :=
  ∃ posted, c.CanReach p r posted ∧ posted ++ left.sends = c.posted ++ commands.sends

theorem CanReach.follows (reach : c.CanReach p r c.posted) (commands : Commands) :
    c.Follows p commands r commands := ⟨c.posted, reach, rfl⟩

theorem Follows.trans {left left' : Commands} (first : c.Follows p commands r left)
    (later : ∀ c : Chronicle τ, c.receiver = r → c.Follows p left r' left') :
    c.Follows p commands r' left' := by
  obtain ⟨posted, ⟨moves, reached, sent⟩, total⟩ := first
  obtain ⟨posted', reach, total'⟩ := later _ reached
  refine ⟨posted', canReach_after reach, ?_⟩
  rw [total', sent, total]

theorem follows_perform (p : ReceiverPlan τ) (c : Chronicle τ) (time : Nat) (command : Command)
    (rest : Commands) :
    c.Follows p ((time, command) :: rest) (Commands.perform c.receiver command) rest := by
  cases command with
  | send address m =>
    refine ⟨_, canReach_move p c (.send address m), ?_⟩
    exact List.append_assoc c.posted [(address, m)] rest.sends
  | unavailable address value =>
    exact ⟨_, canReach_move p c (.unavailable address value), rfl⟩
  | signal value => exact ⟨_, canReach_move p c (.signal (c.receiver.signal.send value)), rfl⟩
  | dropSignal => exact ⟨_, canReach_move p c (.signal c.receiver.signal.drop), rfl⟩

theorem follows_commands (p : ReceiverPlan τ) (c : Chronicle τ) (commands : Commands) :
    c.Follows p commands (Commands.turn commands c.receiver).2.receiver
      (Commands.turn commands c.receiver).1 := by
  induction commands generalizing c with
  | nil => exact (canReach_self p c).follows []
  | cons entry rest ih =>
    obtain ⟨time, command⟩ := entry
    unfold Commands.turn
    split
    · refine (follows_perform p c time command rest).trans fun c' reached => ?_
      rw [← reached]
      exact ih c'
    · exact (canReach_agenda p c (c.receiver.exchange.sleepUntil .host time).agenda).follows _

theorem follows_worker (p : ReceiverPlan τ) (c : Chronicle τ) (commands : Commands) (number : Nat) :
    c.Follows p commands (c.receiver.workerTurn p number).receiver commands := by
  unfold Receiver.workerTurn
  split
  · rename_i found
    split
    · exact (canReach_work found rfl).follows commands
    · exact (canReach_self p c).follows commands
  · exact (canReach_self p c).follows commands

theorem follows_act (p : ReceiverPlan τ) (c : Chronicle τ) (commands : Commands) (a : Activity) :
    let turn := Scene.act p Commands.director ⟨c.receiver, commands⟩ a
    c.Follows p commands turn.2.receiver turn.1 := by
  cases a with
  | host => exact follows_commands p c commands
  | receiver => exact (canReach_move p c .loop).follows commands
  | settler number => exact (canReach_move p c (.settler number)).follows commands
  | worker number => exact follows_worker p c commands number
  | courier number => exact (canReach_move p c (.courier number)).follows commands

theorem follows_afterTurn {turn : Turn τ} (here : c.receiver = turn.receiver) (a : Activity)
    (left : Commands) : c.Follows p left (Scene.afterTurn a left turn).receiver left := by
  unfold Scene.afterTurn
  rw [← here]
  simp only
  split
  · exact (canReach_agenda p c (c.receiver.exchange.resume a).agenda).follows left
  · exact (canReach_self p c).follows left

theorem exists_act {δ : Type} {d : Director δ τ} {scene scene' : Scene δ τ} {seen : List Happening}
    (next : scene.next? p d = some (scene', seen)) :
    ∃ a agenda, let r := scene.receiver
      let r := { r with exchange := { r.exchange with agenda } }
      let turn := Scene.act p d { scene with receiver := r } a
      scene' = Scene.afterTurn a turn.1 turn.2 := by
  unfold Scene.next? at next
  cases finished : scene.isOver d with
  | true => simp [finished] at next
  | false =>
    cases turns : scene.receiver.exchange.agenda.next? with
    | none => simp [finished, turns] at next
    | some entry =>
      simp only [finished, turns, Bool.false_eq_true, if_false, Option.some.injEq,
        Prod.mk.injEq] at next
      exact ⟨entry.1, entry.2, next.1.symm⟩

theorem follows_next {scene scene' : Scene Commands τ} {seen : List Happening}
    (here : c.receiver = scene.receiver)
    (next : scene.next? p Commands.director = some (scene', seen)) :
    c.Follows p scene.director scene'.receiver scene'.director := by
  obtain ⟨a, agenda, rfl⟩ := exists_act next
  rw [← here]
  refine ((canReach_agenda p c agenda).follows scene.director).trans fun c' reached => ?_
  rw [← reached]
  exact (follows_act p c' scene.director a).trans fun c'' reached' => follows_afterTurn reached' a _

/-- Turns that follow the agenda and a list of commands are steps that could be taken. -/
theorem follows_runOn (p : ReceiverPlan τ) (c : Chronicle τ) (turns : Nat)
    (scene : Scene Commands τ) (here : c.receiver = scene.receiver)
    (seen : List (Nat × Happening)) :
    let scene' := (scene.runOn p Commands.director turns seen).1
    c.Follows p scene.director scene'.receiver scene'.director := by
  -- On the turns: each is some steps of the chronicle, from wherever the ones before it led.
  induction turns generalizing c scene seen with
  | zero =>
    have stayed := canReach_self p c
    rw [here] at stayed
    exact stayed.follows _
  | succ turns ih =>
    unfold Scene.runOn
    cases next : scene.next? p Commands.director with
    | none =>
      have stayed := canReach_self p c
      rw [here] at stayed
      exact stayed.follows _
    | some turn =>
      exact (follows_next here next).trans fun c' reached => ih c' turn.1 reached _

theorem follows_performed (p : ReceiverPlan τ) (c : Chronicle τ) (due rest : Commands) :
    c.Follows p (due ++ rest)
      (due.foldl (fun r entry => Commands.perform r entry.2) c.receiver) rest := by
  induction due generalizing c with
  | nil => exact (canReach_self p c).follows rest
  | cons entry due ih =>
    refine (follows_perform p c entry.1 entry.2 (due ++ rest)).trans fun c' reached => ?_
    rw [List.foldl_cons, ← reached]
    exact ih c'

/-- A receiver at work from its start to its end: what it did and what was sent to it could also
come from steps in some order. -/
theorem follows_run (p : ReceiverPlan τ) (c : Chronicle τ) (commands : Commands) :
    let scene := ((Commands.before commands c.receiver).run p Commands.director).1
    c.Follows p commands scene.receiver scene.director := by
  let isDue : Nat × Command → Bool := fun entry => entry.1 ≤ c.receiver.exchange.now
  have split : commands.takeWhile isDue ++ commands.dropWhile isDue = commands :=
    List.takeWhile_append_dropWhile
  have performed := follows_performed p c (commands.takeWhile isDue) (commands.dropWhile isDue)
  rw [split] at performed
  refine performed.trans fun c' reached => ?_
  have woken := canReach_agenda p c' ((c'.receiver.wake .receiver).wake .host).exchange.agenda
  refine (woken.follows (commands.dropWhile isDue)).trans fun c'' reached' => ?_
  have ran := follows_runOn p c'' Scene.turnLimit ⟨c''.receiver, commands.dropWhile isDue⟩ rfl
    [((Commands.before commands c.receiver).receiver.exchange.now, .logged (Receiver.startEntry p))]
  rw [reached', reached] at ran
  exact ran

end Chronicle
end Redelivery
