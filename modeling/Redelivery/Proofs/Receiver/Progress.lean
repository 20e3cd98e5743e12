import Mathlib.Data.Nat.Find
import Redelivery.Proofs.Receiver.Ledger
import Redelivery.Proofs.Receiver.Schedules

/-! A message in flight is settled in the end. Its settler sets a worker to work, the worker gets
the answers to its requests one after the other, and the settler tells the source what became of the
message. Whatever others do in between, all that is asked of a schedule is that the settler and the
worker of the message take turn after turn. -/
namespace Redelivery

theorem Flow.Residual.trans {α : Type} {x y z : Flow α} (first : x.Residual y)
    (second : y.Residual z) : x.Residual z := by
  induction second with
  | self => exact first
  | answered _ answer ih => exact ih.answered answer

/-- A flow went on to its end, or to a pause of some length. -/
def Flow.Reaches (x : Flow Processed) : TaskPhase → Prop
  | .received => False
  | .processing later _ => ∃ length next, length.isZero ≠ true ∧ later = next () ∧
      x.Residual (.ask (.pause length) next)
  | .processed result => x.Residual result.flow

theorem Flow.Residual.reaches {x y : Flow Processed} {phase : TaskPhase} (first : x.Residual y)
    (reaches : y.Reaches phase) : x.Reaches phase := by
  cases phase with
  | received => exact reaches
  | processing later time =>
    obtain ⟨length, next, nonzero, rest, pauses⟩ := reaches
    exact ⟨length, next, nonzero, rest, first.trans pauses⟩
  | processed result => exact first.trans reaches

def Flow.Stop.phase (time : Nat) : Flow.Stop Processed → TaskPhase
  | .ended result => .processed result
  | .paused _ rest => .processing rest time

theorem advance_reaches {σ : Type} (o : Outside σ) (x : Flow Processed) (w : World σ)
    (time : Nat) : x.Reaches ((x.advance o w).1.phase time) := by
  induction x generalizing w with
  | done result => exact .self
  | panicked text => exact .self
  | ask request next ih =>
    by_cases goes : ∀ length, request = .pause length → length.isZero = true
    · rw [(advance_ask o w next goes).1]
      have answered : (Flow.ask request next).Residual (next (o.answer w request).1) :=
        .answered .self _
      exact answered.reaches (ih _ _)
    · obtain ⟨length, pauses⟩ := not_forall.1 goes
      obtain ⟨rfl, nonzero⟩ := Classical.not_imp.1 pauses
      have stop : (Flow.ask (.pause length) next).advance o w =
          (.paused length (next ()), w, []) := if_neg nonzero
      rw [stop]
      exact ⟨length, next, nonzero, rfl, .self⟩

theorem Receiver.workerTurn_reaches {τ : Type} (p : ReceiverPlan τ) {r : Receiver τ} {number : Nat}
    {t : Task} {rest : Flow Processed} {due : Nat} (found : r.task? number = some t)
    (working : t.phase = .processing rest due) (elapsed : due ≤ r.exchange.now) :
    ∃ phase, rest.Reaches phase ∧
      (r.workerTurn p number).receiver.task? number = some { t with phase } := by
  let world : World (Exchange × τ) := ⟨r.table, r.exchange, r.host⟩
  have turn : (r.workerTurn p number).receiver = r.stopped number
      (rest.advance p.host.onExchange world).1 (rest.advance p.host.onExchange world).2.1 := by
    obtain ⟨_, m, _⟩ := t
    cases working
    rw [Receiver.workerTurn, found]
    dsimp only
    rw [if_pos elapsed, work_stopped]
  have reaches := advance_reaches p.host.onExchange rest world
  rw [turn]
  generalize (rest.advance p.host.onExchange world).2.1 = w
  cases stop : (rest.advance p.host.onExchange world).1 with
  | ended result =>
    rw [stop] at reaches
    exact ⟨_, reaches 0, task?_setPhase found _⟩
  | paused length later =>
    rw [stop] at reaches
    exact ⟨_, reaches _, task?_setPhase found _⟩

/-- The settler and the worker of a task take turn after turn. -/
structure FairTo (schedule : Nat → Move) (number : Nat) : Prop where
  settler : ∀ k, ∃ j ≥ k, schedule j = .settler number
  worker : ∀ k, ∃ j ≥ k, ∃ time, schedule j = .worker number time

theorem FairTo.later {schedule : Nat → Move} {number : Nat} (fair : FairTo schedule number)
    (k : Nat) : FairTo (fun j => schedule (k + j)) number where
  settler j := by
    obtain ⟨i, after, turn⟩ := fair.settler (k + j)
    exact ⟨i - k, by omega, by rw [← turn, Nat.add_sub_cancel' (by omega)]⟩
  worker j := by
    obtain ⟨i, after, turn⟩ := fair.worker (k + j)
    exact ⟨i - k, by omega, by rwa [Nat.add_sub_cancel' (by omega)]⟩

def inRounds (moves : List Move) (k : Nat) : Move := moves.getD (k % moves.length) .loop

theorem comes_again {moves : List Move} {next : Move} (member : next ∈ moves) (k : Nat) :
    ∃ j ≥ k, inRounds moves j = next := by
  obtain ⟨i, listed, rfl⟩ := List.getElem_of_mem member
  have late : k ≤ k * moves.length := Nat.le_mul_of_pos_right k (Nat.zero_lt_of_lt listed)
  refine ⟨i + k * moves.length, by omega, ?_⟩
  rw [inRounds, Nat.add_mul_mod_self_right, Nat.mod_eq_of_lt listed]
  simp [listed]

theorem fairTo_inRounds {moves : List Move} {number time : Nat} (settler : .settler number ∈ moves)
    (worker : .worker number time ∈ moves) : FairTo (inRounds moves) number where
  settler := comes_again settler
  worker k := by
    obtain ⟨j, after, turn⟩ := comes_again worker k
    exact ⟨j, after, time, turn⟩

/-- Whose turn a task waits for. -/
def Task.Awaits (t : Task) (next : Move) : Prop :=
  match t.phase with
  | .processing _ _ => ∃ time, next = .worker t.number time
  | _ => next = .settler t.number

theorem FairTo.awaits {schedule : Nat → Move} {t : Task} (fair : FairTo schedule t.number) :
    ∃ k, t.Awaits (schedule k) := by
  unfold Task.Awaits
  obtain ⟨j, _, settler⟩ := fair.settler 0
  obtain ⟨k, _, worker⟩ := fair.worker 0
  cases t.phase with
  | processing => exact ⟨k, worker⟩
  | _ => exact ⟨j, settler⟩

namespace Ledger
variable {τ : Type} {p : ReceiverPlan τ} {source : Source} {l : Ledger τ} {t : Task}

def along (p : ReceiverPlan τ) (l : Ledger τ) (schedule : Nat → Move) (k : Nat) : Ledger τ :=
  l.after p ((List.range k).map schedule)

theorem along_succ (p : ReceiverPlan τ) (l : Ledger τ) (schedule : Nat → Move) (k : Nat) :
    l.along p schedule (k + 1) = (l.along p schedule k).move p (schedule k) := by
  simp [along, after, List.range_succ]

theorem along_add (p : ReceiverPlan τ) (l : Ledger τ) (schedule : Nat → Move) (k j : Nat) :
    l.along p schedule (k + j) = (l.along p schedule k).along p (fun i => schedule (k + i)) j := by
  induction j with
  | zero => rfl
  | succ j ih => rw [← Nat.add_assoc, along_succ, along_succ, ih]

theorem task?_of_mem (apart : (l.receiver.tasks.map (·.number)).Nodup)
    (member : t ∈ l.receiver.tasks) : l.receiver.task? t.number = some t := by
  cases found : l.receiver.task? t.number with
  | none => simpa using List.find?_eq_none.1 found t member
  | some other =>
    obtain ⟨known, same⟩ := Receiver.task?_mem found
    rw [eq_of_number apart known member same]

theorem Sound.task? (sound : l.Sound p source) (member : t ∈ l.receiver.tasks) :
    l.receiver.task? t.number = some t :=
  task?_of_mem sound.numbers.apart member

/-- What a step does to the tasks: it leaves them, opens one, or changes or closes one that waits
for it. -/
inductive TaskStep (r : Receiver τ) (next : Move) (tasks : List Task) : Prop where
  | kept (same : tasks = r.tasks)
  | opened {m : Incoming} (more : tasks = r.tasks ++ [{ number := r.nextTask, message := m }])
  | changed {u : Task} {phase : TaskPhase} (known : u ∈ r.tasks) (turn : u.Awaits next)
      (goesOn : tasks = (r.setPhase u.number phase).tasks)
  | closed {u : Task} (known : u ∈ r.tasks) (turn : u.Awaits next)
      (fewer : tasks = r.tasks.filter (·.number ≠ u.number))

theorem Sound.step_tasks (sound : l.Sound p source) (next : Move) :
    TaskStep l.receiver next (l.move p next).receiver.tasks := by
  cases next with
  | loop =>
    change TaskStep l.receiver _ (l.receiver.loopTurn p).receiver.tasks
    cases Receiver.way_loopTurn p sound.tidy with
    | kept _ same => exact .kept same
    | took _ more => exact .opened more
  | settler number =>
    change TaskStep l.receiver _ (l.receiver.settlerTurn p number).receiver.tasks
    cases Receiver.way_settlerTurn p l.receiver number with
    | idle _ idle => exact .kept (congrArg (·.receiver.tasks) idle)
    | started found fresh asked =>
      obtain ⟨known, rfl⟩ := Receiver.task?_mem found
      exact .changed known (by rw [Task.Awaits, fresh]) asked.tasks
    | settled found ended closes =>
      obtain ⟨known, rfl⟩ := Receiver.task?_mem found
      exact .closed known (by rw [Task.Awaits, ended]) closes.tasks
  | worker number time =>
    change TaskStep l.receiver _ (l.receiver.serve p number time).1.tasks
    cases way_serve p l.receiver number time with
    | idle _ same => exact .kept (congrArg Receiver.tasks same)
    | answered found working _ asked | ended found working asked =>
      obtain ⟨known, rfl⟩ := Receiver.task?_mem found
      exact .changed known (by rw [Task.Awaits, working]; exact ⟨time, rfl⟩) asked.tasks
  | signal s => exact .kept (Receiver.asked_signalled l.receiver fun _ => s).1.tasks
  | _ => exact .kept rfl

/-- Nobody changes a task but the one for whose turn it waits. -/
theorem Sound.waits (sound : l.Sound p source) (member : t ∈ l.receiver.tasks) {next : Move}
    (other : ¬ t.Awaits next) : t ∈ (l.move p next).receiver.tasks := by
  have away {u : Task} (known : u ∈ l.receiver.tasks) (turn : u.Awaits next) :
      t.number ≠ u.number := by
    intro same
    rw [eq_of_number sound.numbers.apart member known same] at other
    exact other turn
  cases sound.step_tasks next with
  | kept same => rwa [same]
  | opened more =>
    rw [more]
    exact List.mem_append_left _ member
  | changed known turn goesOn =>
    rw [goesOn]
    exact (mem_setPhase_other _ (away known turn)).2 member
  | closed known turn fewer =>
    rw [fewer]
    exact List.mem_filter.2 ⟨member, by simpa using away known turn⟩

theorem Sound.starts (sound : l.Sound p source) (member : t ∈ l.receiver.tasks)
    (fresh : t.phase = .received) :
    { t with phase := .processing (p.pipeline.process t.message) l.receiver.exchange.now } ∈
      (l.move p (.settler t.number)).receiver.tasks := by
  have found := sound.task? member
  change _ ∈ (l.receiver.settlerTurn p t.number).receiver.tasks
  cases Receiver.way_settlerTurn p l.receiver t.number with
  | idle busy =>
    obtain ⟨rest, time, working⟩ := busy t found
    cases fresh.symm.trans working
  | started found' _ asked =>
    cases found.symm.trans found'
    rw [asked.tasks]
    exact mem_setPhase_self _ found
  | settled found' ended =>
    cases found.symm.trans found'
    cases fresh.symm.trans ended

theorem Sound.answers {request : Request} {next : request.Answer → Flow Processed} {due : Nat}
    (sound : l.Sound p source) (member : t ∈ l.receiver.tasks)
    (working : t.phase = .processing (.ask request next) due) (time : Nat) :
    ∃ answer later, { t with phase := .processing (next answer) later } ∈
      (l.move p (.worker t.number time)).receiver.tasks := by
  have found := sound.task? member
  change ∃ answer later, _ ∈ (l.receiver.serve p t.number time).1.tasks
  cases way_serve p l.receiver t.number time with
  | idle idle => exact absurd working (idle t found _ _)
  | @answered _ _ later _ _ found' phase answer asked =>
    cases found.symm.trans found'
    cases working.symm.trans phase
    refine ⟨answer, later, ?_⟩
    rw [asked.tasks]
    exact mem_setPhase_self _ found
  | @ended _ _ result found' phase =>
    cases found.symm.trans found'
    cases result <;> cases working.symm.trans phase

theorem Sound.ends {result : Ended Processed} {due : Nat} (sound : l.Sound p source)
    (member : t ∈ l.receiver.tasks) (working : t.phase = .processing result.flow due)
    (time : Nat) :
    { t with phase := .processed result } ∈
      (l.move p (.worker t.number time)).receiver.tasks := by
  have found := sound.task? member
  change _ ∈ (l.receiver.serve p t.number time).1.tasks
  cases way_serve p l.receiver t.number time with
  | idle idle => exact absurd working (idle t found _ _)
  | answered found' phase =>
    cases found.symm.trans found'
    cases result <;> cases working.symm.trans phase
  | @ended _ _ result' found' phase asked =>
    cases found.symm.trans found'
    have same : result' = result := by
      cases result <;> cases result' <;> cases working.symm.trans phase <;> rfl
    subst same
    rw [asked.tasks]
    exact mem_setPhase_self _ found

/-- The task is gone, and it was told once how the processing of its message ended. -/
structure IsSettled (p : ReceiverPlan τ) (l : Ledger τ) (number : Nat) (m : Incoming) : Prop where
  gone : ∀ t ∈ l.receiver.tasks, t.number ≠ number
  told : ∃ result : Ended Processed, (p.pipeline.process m).Residual result.flow ∧
    l.wordsOf number = .received m.id :: result.words m

theorem Sound.isSettled {result : Ended Processed} (sound : l.Sound p source)
    (member : t ∈ l.receiver.tasks) (ended : t.phase = .processed result) :
    (l.move p (.settler t.number)).IsSettled p t.number t.message := by
  have found := sound.task? member
  obtain ⟨_, _, follows⟩ := sound.found found
  rw [Task.Follows, ended] at follows
  obtain ⟨closes, _⟩ := Receiver.closes_of_ended p found ended
  refine ⟨fun u left => ?_, result, follows.2, sound.settles found ended⟩
  have left : u ∈ (l.receiver.settlerTurn p t.number).receiver.tasks := left
  rw [closes.tasks] at left
  simpa using (List.mem_filter.1 left).2

theorem Sound.along (sound : l.Sound p source) (schedule : Nat → Move) (k : Nat) :
    (l.along p schedule k).Sound p source :=
  sound.after _

def Eventually (p : ReceiverPlan τ) (number : Nat) (goal : Ledger τ → Prop) (l : Ledger τ) : Prop :=
  ∀ schedule, FairTo schedule number → ∃ k, goal (l.along p schedule k)

variable {goal : Ledger τ → Prop}

/-- The turn comes for which a task waits, and finds it as it was. -/
theorem Sound.eventually (sound : l.Sound p source) (member : t ∈ l.receiver.tasks)
    (goesOn : ∀ l' : Ledger τ, l'.Sound p source → t ∈ l'.receiver.tasks → ∀ next, t.Awaits next →
      (l'.move p next).Eventually p t.number goal) : l.Eventually p t.number goal := by
  classical
  intro schedule fair
  have again := fair.awaits
  have waited : ∀ k ≤ Nat.find again, t ∈ (l.along p schedule k).receiver.tasks := by
    intro k
    induction k with
    | zero => exact fun _ => member
    | succ k ih =>
      intro before
      rw [along_succ]
      exact (sound.along schedule k).waits (ih (Nat.le_of_succ_le before)) (Nat.find_min again before)
  obtain ⟨j, reached⟩ := goesOn _ (sound.along schedule _) (waited _ (Nat.le_refl _)) _
    (Nat.find_spec again) _ (fair.later (Nat.find again + 1))
  rw [← along_succ, ← along_add] at reached
  exact ⟨_, reached⟩

theorem eventually_here (number : Nat) (here : goal l) : l.Eventually p number goal :=
  fun _ _ => ⟨0, here⟩

theorem Sound.settles_processed {result : Ended Processed} (sound : l.Sound p source)
    (member : t ∈ l.receiver.tasks) (ended : t.phase = .processed result) :
    l.Eventually p t.number fun l => l.IsSettled p t.number t.message := by
  apply sound.eventually member
  intro l' sound' member' next turn
  rw [Task.Awaits, ended] at turn
  subst turn
  exact eventually_here _ (sound'.isSettled member' ended)

theorem Sound.settles_ended {result : Ended Processed} {due : Nat} (sound : l.Sound p source)
    (member : t ∈ l.receiver.tasks) (working : t.phase = .processing result.flow due) :
    l.Eventually p t.number fun l => l.IsSettled p t.number t.message := by
  apply sound.eventually member
  intro l' sound' member' next turn
  rw [Task.Awaits, working] at turn
  obtain ⟨time, rfl⟩ := turn
  have settles := (sound'.move _).settles_processed (sound'.ends member' working time) rfl
  exact settles

theorem Sound.settles_processing {rest : Flow Processed} {due : Nat} (sound : l.Sound p source)
    (member : t ∈ l.receiver.tasks) (working : t.phase = .processing rest due) :
    l.Eventually p t.number fun l => l.IsSettled p t.number t.message := by
  -- On what is left of the flow, whatever answers it gets; each one leaves a part of it.
  induction rest generalizing l t due with
  | done result =>
    have working : t.phase = .processing (Ended.done result).flow due := working
    exact sound.settles_ended member working
  | panicked text =>
    have working : t.phase = .processing (Ended.flow (.panicked text)) due := working
    exact sound.settles_ended member working
  | ask request next ih =>
    apply sound.eventually member
    intro l' sound' member' move turn
    rw [Task.Awaits, working] at turn
    obtain ⟨time, rfl⟩ := turn
    obtain ⟨answer, later, asked⟩ := sound'.answers member' working time
    have settles := ih answer (sound'.move _) asked rfl
    exact settles

theorem Sound.settles_inFlight (sound : l.Sound p source) (member : t ∈ l.receiver.tasks) :
    l.Eventually p t.number fun l => l.IsSettled p t.number t.message := by
  cases phase : t.phase with
  | processed result => exact sound.settles_processed member phase
  | processing rest due => exact sound.settles_processing member phase
  | received =>
    apply sound.eventually member
    intro l' sound' member' next turn
    rw [Task.Awaits, phase] at turn
    subst turn
    have settles := (sound'.move _).settles_processing (sound'.starts member' phase) rfl
    exact settles

theorem Sound.gone_move {number : Nat} (sound : l.Sound p source)
    (known : number ∈ l.taken.map (·.1)) (gone : ∀ t ∈ l.receiver.tasks, t.number ≠ number)
    (next : Move) : ∀ t ∈ (l.move p next).receiver.tasks, t.number ≠ number := by
  intro t member
  cases sound.step_tasks next with
  | kept same => exact gone t (same ▸ member)
  | opened more =>
    rw [more] at member
    rcases List.mem_append.1 member with old | new
    · exact gone t old
    · obtain ⟨entry, listed, rfl⟩ := List.mem_map.1 known
      rw [List.mem_singleton.1 new]
      exact Nat.ne_of_gt (sound.numbers.below entry listed)
  | changed _ _ goesOn =>
    rw [goesOn] at member
    obtain ⟨old, listed, rfl⟩ := List.mem_map.1 member
    have same := gone old listed
    split <;> exact same
  | closed _ _ fewer =>
    rw [fewer] at member
    exact gone t (List.mem_filter.1 member).1

theorem taken_move (p : ReceiverPlan τ) (l : Ledger τ) (next : Move) :
    l.taken ⊆ (l.move p next).taken := by
  cases next with
  | loop => exact List.subset_append_left _ _
  | _ => exact List.Subset.refl _

theorem taken_along (p : ReceiverPlan τ) (l : Ledger τ) (schedule : Nat → Move) (k : Nat) :
    l.taken ⊆ (l.along p schedule k).taken := by
  induction k with
  | zero => exact List.Subset.refl _
  | succ k ih =>
    rw [along_succ]
    exact List.Subset.trans ih (taken_move p _ _)

/-- A task that is gone does not come back, and its message is settled. -/
theorem Sound.gone_along {number : Nat} {m : Incoming} (sound : l.Sound p source)
    (taken : (number, m) ∈ l.taken) (gone : ∀ t ∈ l.receiver.tasks, t.number ≠ number)
    (schedule : Nat → Move) (k : Nat) : (l.along p schedule k).IsSettled p number m := by
  have known (k : Nat) := taken_along p l schedule k taken
  have gone : ∀ t ∈ (l.along p schedule k).receiver.tasks, t.number ≠ number := by
    induction k with
    | zero => exact gone
    | succ k ih =>
      rw [along_succ]
      exact (sound.along schedule k).gone_move (List.mem_map_of_mem (known k)) ih _
  refine ⟨gone, ?_⟩
  cases (sound.along schedule k).accounted _ (known k) with
  | inFlight flying own => exact absurd own (gone _ flying)
  | settled _ _ reached told => exact ⟨_, reached, told⟩

/-- Every message in flight is settled in the end, and for good. -/
theorem Sound.settles_for_good (sound : l.Sound p source) (member : t ∈ l.receiver.tasks)
    {schedule : Nat → Move} (fair : FairTo schedule t.number) :
    ∃ k, ∀ j ≥ k, (l.along p schedule j).IsSettled p t.number t.message := by
  obtain ⟨k, settled⟩ := sound.settles_inFlight member schedule fair
  have taken := taken_along p l schedule k (sound.found (sound.task? member)).1
  refine ⟨k, fun j after => ?_⟩
  obtain ⟨i, rfl⟩ := Nat.exists_eq_add_of_le after
  rw [along_add]
  exact (sound.along schedule k).gone_along taken settled.gone _ i

theorem stage_move (p : ReceiverPlan τ) (l : Ledger τ) {next : Move} (other : next ≠ .loop) :
    (l.move p next).receiver.stage = l.receiver.stage := by
  cases next with
  | loop => exact absurd rfl other
  | settler number =>
    cases Receiver.way_settlerTurn p l.receiver number with
    | idle _ idle => exact congrArg (·.receiver.stage) idle
    | started _ _ asked => exact asked.stage
    | settled _ _ closes => exact closes.stage
  | worker number time =>
    cases way_serve p l.receiver number time with
    | idle _ same => exact congrArg Receiver.stage same
    | answered _ _ _ asked => exact asked.stage
    | ended _ _ asked => exact asked.stage
  | signal s => exact (Receiver.asked_signalled l.receiver fun _ => s).1.stage
  | _ => rfl

theorem Sound.closing_move (sound : l.Sound p source) (closing : l.receiver.IsClosing)
    (next : Move) :
    (l.move p next).receiver.IsClosing ∧ (l.move p next).taken = l.taken := by
  by_cases loops : next = .loop
  · subst loops
    obtain ⟨closing, tasks⟩ := Receiver.closing_loopTurn p closing
    refine ⟨closing, ?_⟩
    change l.taken ++ l.receiver.opened (l.receiver.loopTurn p).receiver = _
    rw [opened_kept sound.numbers.fresh tasks, List.append_nil]
  · refine ⟨?_, ?_⟩
    · rw [Receiver.IsClosing, stage_move p l loops]
      exact closing
    · cases next with
      | loop => exact absurd rfl loops
      | _ => rfl

theorem Sound.closing_after (sound : l.Sound p source) (closing : l.receiver.IsClosing)
    (moves : List Move) :
    (l.after p moves).receiver.IsClosing ∧ (l.after p moves).taken = l.taken := by
  induction moves generalizing l with
  | nil => exact ⟨closing, rfl⟩
  | cons next rest ih =>
    obtain ⟨closing, same⟩ := sound.closing_move closing next
    obtain ⟨closing, later⟩ := ih (sound.move next) closing
    exact ⟨closing, later.trans same⟩

/-- A receiver that is about to stop does stop, once all it has in flight is settled. -/
theorem Sound.stops (sound : l.Sound p source) (closing : l.receiver.IsClosing)
    {schedule : Nat → Move} (loops : ∀ k, ∃ j ≥ k, schedule j = .loop)
    (fair : ∀ t ∈ l.receiver.tasks, FairTo schedule t.number) :
    ∃ k, (l.along p schedule k).receiver.stage = .stopped := by
  -- On the tasks in flight: from the latest of their times on, all of them are settled.
  have settle : ∀ tasks ⊆ l.receiver.tasks, ∃ k, ∀ j ≥ k, ∀ t ∈ tasks,
      (l.along p schedule j).IsSettled p t.number t.message := by
    intro tasks
    induction tasks with
    | nil => exact fun _ => ⟨0, fun _ _ => nofun⟩
    | cons t rest ih =>
      intro listed
      obtain ⟨here, later⟩ := List.cons_subset.1 listed
      obtain ⟨i, first⟩ := sound.settles_for_good here (fair t here)
      obtain ⟨k, others⟩ := ih later
      refine ⟨max i k, fun j after u member => ?_⟩
      rcases List.mem_cons.1 member with rfl | member
      · exact first j (by omega)
      · exact others j (by omega) u member
  obtain ⟨k, settled⟩ := settle _ (List.Subset.refl _)
  obtain ⟨j, after, turn⟩ := loops k
  have here := sound.along schedule j
  have closed := sound.closing_after closing ((List.range j).map schedule)
  have idle : (l.along p schedule j).receiver.tasks = [] := by
    apply List.eq_nil_iff_forall_not_mem.2
    intro u member
    -- The receiver takes nothing any more, so the message was there at the beginning.
    have taken := (here.found (here.task? member)).1
    rw [Ledger.along, closed.2] at taken
    cases sound.accounted _ taken with
    | inFlight flying own => exact (settled j after _ flying).gone u member own.symm
    | settled gone => exact (sound.gone_along taken gone schedule j).gone u member rfl
  refine ⟨j + 1, ?_⟩
  rw [along_succ, turn]
  change ((l.along p schedule j).receiver.loopTurn p).receiver.stage = .stopped
  rcases closed.1 with draining | stopped
  · have draining : (l.along p schedule j).receiver.stage = .draining := draining
    simp [Receiver.loopTurn, draining, idle]
  · have stopped : (l.along p schedule j).receiver.stage = .stopped := stopped
    simp [Receiver.loopTurn, Receiver.stay, stopped]

end Ledger
end Redelivery
