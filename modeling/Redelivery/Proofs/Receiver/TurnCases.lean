import Redelivery.Receiver.Loop
import Redelivery.Receiver.Settle

/-! The turns of the loop of a receiver and of its settlers, taken apart once into what they can find
and what they do then. What a turn keeps, takes or frees is told case by case elsewhere. -/
namespace Redelivery

/-- The loop waits for something, or is about to ask for it, and can be called away. -/
def LoopStage.canLeave : LoopStage → Bool
  | .acquiring | .receiving | .listening _ | .resting _ => true
  | _ => false

def LoopStage.isResting : LoopStage → Bool
  | .resting _ => true
  | _ => false

namespace Receiver
variable {τ : Type} {p : ReceiverPlan τ} {r r' : Receiver τ}

/-- The loop lets go of what it holds and of what it waits for. -/
def withdrawn (p : ReceiverPlan τ) (r : Receiver τ) : Receiver τ :=
  match r.stage with
  | .receiving => r.release
  | .listening _ => { r with exchange := r.exchange.leave p.pipeline.address }.release
  | .resting _ => { r with exchange := r.exchange.cancel .receiver }
  | _ => r

/-- The steps of the loop, each with what it finds. -/
inductive LoopStep (p : ReceiverPlan τ) (r : Receiver τ) : Turn τ → Prop where
  | closes (top : r.stage = .top) (flag : r.signal.value = true) :
      LoopStep p r (r.goTo .draining [.logged shutdownEntry])
  | begins (top : r.stage = .top) (flag : r.signal.value = false) :
      LoopStep p r (r.goTo .acquiring)
  | blocked (acquiring : r.stage = .acquiring) (quiet : r.signal.news = .none)
      (taken : r.free = 0) : LoopStep p r r.stay
  | acquires (acquiring : r.stage = .acquiring) (quiet : r.signal.news = .none)
      (free : r.free ≠ 0) : LoopStep p r ({ r with free := r.free - 1 }.goTo .receiving)
  | polls {script : SourceScript} (receiving : r.stage = .receiving)
      (quiet : r.signal.news = .none) (source : r.source = .scripted script) :
      LoopStep p r
        ({ r with source := .scripted script.nextReceive.2 }.take p script.nextReceive.1)
  | finds {poll : Duration} {found : Option Incoming} {x : Exchange}
      (receiving : r.stage = .receiving) (quiet : r.signal.news = .none)
      (source : r.source = .mailbox poll)
      (tried : r.exchange.tryReceive p.pipeline.address = (some found, x)) :
      LoopStep p r ({ r with exchange := x }.takeFromMailbox p found)
  | listens {poll : Duration} {x : Exchange} (receiving : r.stage = .receiving)
      (quiet : r.signal.news = .none) (source : r.source = .mailbox poll)
      (tried : r.exchange.tryReceive p.pipeline.address = (none, x)) :
      LoopStep p r
        ({ r with exchange := x.listen p.pipeline.address (x.agenda.due poll) }.goTo
          (.listening (x.agenda.due poll)))
  | hears {time : Nat} {found : Option Incoming} {x : Exchange}
      (listening : r.stage = .listening time) (quiet : r.signal.news = .none)
      (heard : r.exchange.hear p.pipeline.address time = (some found, x)) :
      LoopStep p r ({ r with exchange := x }.takeFromMailbox p found)
  | hearsNothing {time : Nat} {x : Exchange} (listening : r.stage = .listening time)
      (quiet : r.signal.news = .none)
      (heard : r.exchange.hear p.pipeline.address time = (none, x)) : LoopStep p r r.stay
  | sleeps {time : Nat} (resting : r.stage = .resting time) (quiet : r.signal.news = .none)
      (ahead : r.exchange.now < time) : LoopStep p r r.stay
  | rises {time : Nat} (resting : r.stage = .resting time) (quiet : r.signal.news = .none)
      (elapsed : time ≤ r.exchange.now) :
      LoopStep p r ({ r with exchange := r.exchange.cancel .receiver }.goTo .reaping)
  | left (waits : r.stage.canLeave = true) (gone : r.signal.news = .gone) :
      LoopStep p r ((r.withdrawn p).goTo .draining)
  | recalled (waits : r.stage.canLeave = true) (awake : r.stage.isResting = false)
      (changed : r.signal.news = .changed) :
      LoopStep p r ({ r.withdrawn p with signal := r.signal.seen }.goTo .top)
  | roused (resting : r.stage.isResting = true) (changed : r.signal.news = .changed) :
      LoopStep p r ({ r.withdrawn p with signal := r.signal.seen }.goTo
        (if r.signal.value then .draining else .reaping))
  | reaps (reaping : r.stage = .reaping) :
      LoopStep p r ({ r with finished := [] }.goTo .top r.reap)
  | drains (draining : r.stage = .draining) (busy : r.tasks ≠ []) :
      LoopStep p r { receiver := { r with finished := [] }, seen := r.reap }
  | stops (draining : r.stage = .draining) (idle : r.tasks = []) :
      LoopStep p r { receiver := { r with finished := [], stage := .stopped },
                     seen := r.reap ++ [.logged stoppedEntry] }
  | stopped (stopped : r.stage = .stopped) : LoopStep p r r.stay

@[simp] theorem signal_wakeLoopIf (r : Receiver τ) (waits : Bool) :
    (r.wakeLoopIf waits).signal = r.signal := by
  cases waits <;> rfl

@[simp] theorem signal_release (r : Receiver τ) : r.release.signal = r.signal :=
  signal_wakeLoopIf _ _

@[simp] theorem signal_withdrawn (p : ReceiverPlan τ) (r : Receiver τ) :
    (r.withdrawn p).signal = r.signal := by
  unfold withdrawn
  split <;> simp

section withdrawing
variable (p : ReceiverPlan τ) {time : Nat}

theorem withdrawn_acquiring (acquiring : r.stage = .acquiring) : r.withdrawn p = r := by
  simp only [withdrawn, acquiring]

theorem withdrawn_receiving (receiving : r.stage = .receiving) : r.withdrawn p = r.release := by
  simp only [withdrawn, receiving]

theorem withdrawn_listening (listening : r.stage = .listening time) :
    r.withdrawn p = { r with exchange := r.exchange.leave p.pipeline.address }.release := by
  simp only [withdrawn, listening]

theorem withdrawn_resting (resting : r.stage = .resting time) :
    r.withdrawn p = { r with exchange := r.exchange.cancel .receiver } := by
  simp only [withdrawn, resting]

end withdrawing

theorem LoopStep.of_heed {turn : Turn τ} (waits : r.stage.canLeave = true)
    (awake : r.stage.isResting = false) (here : r.withdrawn p = r')
    (heeds : r'.heed = some turn) : LoopStep p r turn := by
  subst here
  unfold heed at heeds
  rw [signal_withdrawn] at heeds
  cases news : r.signal.news with
  | none =>
    rw [news] at heeds
    cases heeds
  | gone =>
    rw [news] at heeds
    cases heeds
    exact .left waits news
  | changed =>
    rw [news] at heeds
    cases heeds
    exact .recalled waits awake news

theorem quiet_of_heed (here : r.withdrawn p = r') (unheeded : r'.heed = none) :
    r.signal.news = .none := by
  subst here
  unfold heed at unheeded
  rw [signal_withdrawn] at unheeded
  cases news : r.signal.news with
  | none => rfl
  | _ =>
    rw [news] at unheeded
    cases unheeded

theorem step_loopTurn (p : ReceiverPlan τ) (r : Receiver τ) : LoopStep p r (r.loopTurn p) := by
  unfold loopTurn
  split
  case h_1 top =>
    split
    · rename_i flag
      exact .closes top flag
    · rename_i unset
      exact .begins top (by simpa using unset)
  case h_2 acquiring =>
    have here := withdrawn_acquiring p acquiring
    split
    · rename_i turn heeds
      exact .of_heed (by rw [acquiring]; rfl) (by rw [acquiring]; rfl) here heeds
    · rename_i unheeded
      have quiet := quiet_of_heed here unheeded
      split
      · rename_i taken
        exact .blocked acquiring quiet taken
      · rename_i free
        exact .acquires acquiring quiet free
  case h_3 receiving =>
    have here := withdrawn_receiving p receiving
    split
    · rename_i turn heeds
      exact .of_heed (by rw [receiving]; rfl) (by rw [receiving]; rfl) here heeds
    · rename_i unheeded
      have quiet := quiet_of_heed here unheeded
      unfold ask
      split
      · rename_i script source
        exact .polls receiving quiet source
      · rename_i poll source
        split
        · rename_i found x tried
          exact .finds receiving quiet source tried
        · rename_i x tried
          exact .listens receiving quiet source tried
  case h_4 time listening =>
    have here := withdrawn_listening p listening
    dsimp only
    split
    · rename_i turn heeds
      exact .of_heed (by rw [listening]; rfl) (by rw [listening]; rfl) here heeds
    · rename_i unheeded
      have quiet := quiet_of_heed here unheeded
      split
      · rename_i found x heard
        exact .hears listening quiet heard
      · rename_i x heard
        exact .hearsNothing listening quiet heard
  case h_5 time resting =>
    have here := withdrawn_resting p resting
    have rests : r.stage.isResting = true := by rw [resting]; rfl
    dsimp only
    rw [← here, heed, signal_withdrawn]
    cases news : r.signal.news with
    | none =>
      dsimp only
      split
      · rename_i elapsed
        rw [here]
        exact .rises resting news elapsed
      · rename_i early
        exact .sleeps resting news (Nat.lt_of_not_le early)
    | gone => exact .left (by rw [resting]; rfl) news
    | changed => exact .roused rests news
  case h_6 reaping => exact .reaps reaping
  case h_7 draining =>
    dsimp only
    split
    · rename_i idle
      exact .stops draining (List.isEmpty_iff.1 idle)
    · rename_i busy
      exact .drains draining (by simpa using busy)
  case h_8 stopped => exact .stopped stopped

inductive SettlerStep (p : ReceiverPlan τ) (r : Receiver τ) (number : Nat) : Turn τ → Prop where
  | idle (busy : ∀ t, r.task? number = some t → ∃ rest time, t.phase = .processing rest time) :
      SettlerStep p r number { receiver := r }
  | starts {t : Task} (found : r.task? number = some t) (fresh : t.phase = .received) :
      SettlerStep p r number
        { receiver := (r.setPhase number
            (.processing (p.pipeline.process t.message) r.exchange.now)).wake (.worker number) }
  | settles {t : Task} {result : Ended Processed} (found : r.task? number = some t)
      (ended : t.phase = .processed result) : SettlerStep p r number (r.settle p t result)

theorem step_settlerTurn (p : ReceiverPlan τ) (r : Receiver τ) (number : Nat) :
    SettlerStep p r number (r.settlerTurn p number) := by
  unfold settlerTurn
  cases found : r.task? number with
  | none => exact .idle fun t other => by cases found.symm.trans other
  | some t =>
    obtain ⟨_, m, phase⟩ := t
    cases phase with
    | received => exact .starts found rfl
    | processed result => exact .settles found rfl
    | processing rest time =>
      refine .idle fun t other => ?_
      cases found.symm.trans other
      exact ⟨rest, time, rfl⟩

end Receiver
end Redelivery
