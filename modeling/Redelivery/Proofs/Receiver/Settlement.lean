import Redelivery.Proofs.Notification.Counters
import Redelivery.Proofs.Receiver.Progress

/-! Every message that a receiver takes is settled once, whoever takes which step when: the messages
in flight never outnumber the permits, the counters follow what was told, and a receiver that has
seen the signal takes no more messages and stops when it is done with those it has. -/
namespace Redelivery

namespace Ledger
variable {τ : Type} {p : ReceiverPlan τ} {source : Source} {l l' : Ledger τ} {r r' : Receiver τ}
  {number : Nat} {m : Incoming}

theorem Sound.perm_words (sound : l.Sound p source) :
    (l.seen.filterMap Happening.word?).Perm
      (l.taken.flatMap fun entry => l.wordsOf entry.1) := by
  have known : ∀ entry ∈ l.words, entry.1 ∈ l.taken.map (·.1) := by
    intro entry member
    by_contra unknown
    have unsaid := (sound.unwritten entry.1 unknown).1
    have said : entry.2 ∈ l.wordsOf entry.1 :=
      List.mem_map.2 ⟨entry, List.mem_filter.2 ⟨member, by simp⟩, rfl⟩
    rw [unsaid] at said
    cases said
  have perm := perm_entriesOf sound.numbers.distinct known
  rw [List.flatMap_map] at perm
  rw [sound.spoken]
  exact perm

theorem count_words_le (m : Incoming) (result : Ended Processed) (e : Measure) :
    (result.words m).count (.measured e) ≤ 1 := by
  rcases result with (_ | _) | _ <;> simp [Ended.words, List.count_cons] <;> split <;> decide

theorem Accounted.count_le (accounted : l.Accounted p number m) (e : Measure) :
    (l.wordsOf number).count (.measured e) ≤ 1 := by
  cases accounted with
  | inFlight _ _ _ told => simp [told]
  | settled _ _ _ told =>
    rw [told, List.count_cons_of_ne (by simp)]
    exact count_words_le m _ e

theorem count_flatMap_once {α β : Type} [DecidableEq β] {entries : List α} {f : α → List β} {b : β}
    (once : ∀ a ∈ entries, (f a).count b ≤ 1) :
    (entries.flatMap f).count b = entries.countP fun a => b ∈ f a := by
  induction entries with
  | nil => rfl
  | cons a rest ih =>
    have later := ih fun other member => once other (List.mem_cons_of_mem _ member)
    have here := once a List.mem_cons_self
    rw [List.flatMap_cons, List.count_append, later, List.countP_cons, Nat.add_comm]
    by_cases known : b ∈ f a
    · have some := List.count_pos_iff.2 known
      simp only [known, decide_true, if_true]
      omega
    · simp [known, List.count_eq_zero_of_not_mem known]

theorem count_measures {e : Measure} {endpoint : String} {t : Series}
    (own : e.ending? endpoint = some t) (seen : List Happening) :
    (seen.filterMap Happening.measure?).countP (· == e) =
      (seen.filterMap Happening.word?).count (.measured e) := by
  induction seen with
  | nil => rfl
  | cons h rest ih =>
    cases h with
    | measured measure =>
      simp [Happening.measure?, Happening.word?, List.countP_cons, List.count_cons, ih]
    | delivery event =>
      have other : ∀ measure, event.measure? = some measure → (measure == e) = false := by
        intro measure raised
        cases event <;> cases raised <;> cases e <;> cases own <;> rfl
      cases raised : event.measure? with
      | none => simpa [List.filterMap_cons, Happening.measure?, Happening.word?, raised] using ih
      | some measure =>
        simpa [List.filterMap_cons, Happening.measure?, Happening.word?, raised,
          List.countP_cons, other measure raised] using ih
    | received id failure =>
      cases id <;>
        simpa [List.filterMap_cons, Happening.measure?, Happening.word?, List.count_cons] using ih
    | _ =>
      simpa [List.filterMap_cons, Happening.measure?, Happening.word?, List.count_cons] using ih

theorem Sound.value_counting (sound : l.Sound p source) (counters : Counters) {e : Measure}
    {endpoint : String} {t : Series} (own : e.ending? endpoint = some t) :
    (counters.counting endpoint (l.seen.filterMap Happening.measure?)).value t =
      counters.value t + l.taken.countP fun entry => .measured e ∈ l.wordsOf entry.1 := by
  rw [Counters.value_counting (Measure.count_ending endpoint own), count_measures own,
    sound.perm_words.count_eq]
  rw [count_flatMap_once fun entry member => (sound.accounted entry member).count_le e]

theorem chronicle_move (p : ReceiverPlan τ) (l : Ledger τ) (next : Move) :
    (l.move p next).chronicle = l.chronicle.move p next := by
  cases next <;> rfl

theorem chronicle_after (p : ReceiverPlan τ) (l : Ledger τ) (moves : List Move) :
    (l.after p moves).chronicle = l.chronicle.after p moves := by
  induction moves generalizing l with
  | nil => rfl
  | cons next rest ih =>
    change ((l.move p next).after p rest).chronicle = (l.chronicle.move p next).after p rest
    rw [ih, chronicle_move]

theorem exists_moves_run (p : ReceiverPlan τ) (source : Source) (table : FailureTable) (host : τ)
    (commands : Commands) :
    let before := Commands.before commands (.create p source table host)
    ∃ moves, ((start p source table host).after p moves).receiver =
      (before.run p Commands.director).1.receiver := by
  obtain ⟨_, ⟨moves, reached, _⟩, _⟩ :=
    Chronicle.follows_run p (start p source table host).chronicle commands
  refine ⟨moves, ?_⟩
  rw [receiver, chronicle_after, reached]
  rfl

theorem opened_gave {poll : Duration} (fresh : ∀ t ∈ r.tasks, t.number < r.nextTask)
    (mailbox : r.source = .mailbox poll) :
    let r' := (r.loopTurn p).receiver
    (r.opened r' = [] ∧ Transport.Unmoved r.exchange.transport r'.exchange.transport) ∨
      ∃ m, r.opened r' = [(r.nextTask, m)] ∧
        Transport.Popped r.exchange.transport r'.exchange.transport p.pipeline.address m := by
  cases Receiver.effect_loopTurn (p := p) mailbox with
  | kept kept => exact .inl ⟨opened_kept fresh kept.tasks, kept.goods⟩
  | took popped tasks => exact .inr ⟨_, opened_took fresh tasks, popped⟩

/-- What the source has for a loop that asks it. -/
def Offers (p : ReceiverPlan τ) (r : Receiver τ) (m : Incoming) : Prop :=
  match r.source with
  | .scripted script => script.nextReceive.1 = .message m
  | .mailbox _ => (r.exchange.mailbox p.pipeline.address).messages.head? = some m

theorem tasks_received (receiving : r.stage = .receiving) (quiet : r.signal.news = .none)
    (offers : Offers p r m) :
    (r.loopTurn p).receiver.tasks = r.tasks ++ [{ number := r.nextTask, message := m }] := by
  have unheeded : r.release.heed = none := by
    rw [Receiver.heed, Receiver.signal_release, quiet]
  have asks : r.loopTurn p = r.ask p := by
    simp only [Receiver.loopTurn, receiving, unheeded]
  rw [asks, Receiver.ask]
  unfold Offers at offers
  cases source : r.source with
  | scripted script =>
    rw [source] at offers
    have offers : script.nextReceive.1 = .message m := offers
    simp only [offers]
    rfl
  | mailbox poll =>
    rw [source] at offers
    obtain ⟨rest, waiting⟩ := List.head?_eq_some_iff.1 offers
    simp only [Exchange.tryReceive, Mailbox.pop, waiting]
    rfl

theorem Sound.receives (sound : l.Sound p source) (receiving : l.receiver.stage = .receiving)
    (quiet : l.receiver.signal.news = .none) (offers : Offers p l.receiver m) :
    l.receiver.opened (l.receiver.loopTurn p).receiver = [(l.receiver.nextTask, m)] :=
  opened_took sound.numbers.fresh (tasks_received receiving quiet offers)

/-- When the loop has stopped nothing is in flight, so all that was taken is settled. -/
theorem Sound.all_settled (sound : l.Sound p source) (stopped : l.receiver.stage = .stopped) :
    l.receiver.tasks = [] ∧ ∀ entry ∈ l.taken, ∃ result : Ended Processed,
      (p.pipeline.process entry.2).Residual result.flow ∧
        l.wordsOf entry.1 = .received entry.2.id :: result.words entry.2 := by
  have none := sound.tidy.drained stopped
  refine ⟨none, fun entry member => ?_⟩
  cases sound.accounted entry member with
  | inFlight flying =>
    rw [none] at flying
    cases flying
  | settled _ _ reached told => exact ⟨_, reached, told⟩

/-- A receiver at work loses no permit and settles what it takes. -/
structure Settles (p : ReceiverPlan τ) (source : Source) (l : Ledger τ) : Prop where
  bounded : l.receiver.tasks.length ≤ max p.concurrency 1
  permits : l.receiver.free + l.receiver.tasks.length + l.receiver.stage.holdsPermit.toNat =
    max p.concurrency 1
  /-- What the source gave away was taken, and a turn of the loop takes one message at most. -/
  given : Source.Gives (l.taken.map (·.2)) source l.receiver.source
  popped : ∀ poll, l.receiver.source = .mailbox poll →
    let r := l.receiver
    let r' := (r.loopTurn p).receiver
    (r.opened r' = [] ∧ Transport.Unmoved r.exchange.transport r'.exchange.transport) ∨
      ∃ m, r.opened r' = [(r.nextTask, m)] ∧
        Transport.Popped r.exchange.transport r'.exchange.transport p.pipeline.address m
  /-- A loop that holds a permit takes what its source has, unless the signal calls it away. -/
  receives : ∀ m, l.receiver.stage = .receiving → l.receiver.signal.news = .none →
    Offers p l.receiver m →
      l.receiver.opened (l.receiver.loopTurn p).receiver = [(l.receiver.nextTask, m)]
  /-- All that is told is told of a message that was taken: that it came, and once at most how it
  ended. -/
  distinct : (l.taken.map (·.1)).Nodup
  accounted : ∀ entry ∈ l.taken, l.Accounted p entry.1 entry.2
  told : (l.seen.filterMap Happening.word?).Perm
    (l.taken.flatMap fun entry => l.wordsOf entry.1)
  counted : ∀ (counters : Counters) endpoint (e : Measure) (t : Series),
    e.ending? endpoint = some t →
      (counters.counting endpoint (l.seen.filterMap Happening.measure?)).value t =
        counters.value t + l.taken.countP fun entry => .measured e ∈ l.wordsOf entry.1
  /-- A message goes from phase to phase, each in the turn of the one it waits for. -/
  starts : ∀ t ∈ l.receiver.tasks, t.phase = .received →
    { t with phase := .processing (p.pipeline.process t.message) l.receiver.exchange.now } ∈
      (l.move p (.settler t.number)).receiver.tasks
  works : ∀ t ∈ l.receiver.tasks, ∀ rest due, t.phase = .processing rest due →
    due ≤ l.receiver.exchange.now → ∃ phase, rest.Reaches phase ∧
      (l.receiver.workerTurn p t.number).receiver.task? t.number = some { t with phase }
  ends : ∀ number t result, l.receiver.task? number = some t → t.phase = .processed result →
    (l.move p (.settler number)).wordsOf number =
      .received t.message.id :: result.words t.message
  /-- Whatever others do, a message is settled in the end, and for good. -/
  settled : ∀ t ∈ l.receiver.tasks, ∀ schedule, FairTo schedule t.number →
    ∃ k, ∀ j ≥ k, (l.along p schedule j).IsSettled p t.number t.message
  stopped : l.receiver.stage = .stopped → l.receiver.tasks = [] ∧
    ∀ entry ∈ l.taken, ∃ result : Ended Processed,
      (p.pipeline.process entry.2).Residual result.flow ∧
        l.wordsOf entry.1 = .received entry.2.id :: result.words entry.2
  /-- Once the loop has seen the flag no message is taken, and in the end the loop stops. -/
  seesFlag : l.receiver.SeesFlag → (l.receiver.loopTurn p).receiver.IsClosing
  closing : l.receiver.IsClosing → ∀ moves, (l.after p moves).taken = l.taken
  stops : l.receiver.IsClosing → ∀ schedule : Nat → Move, (∀ k, ∃ j ≥ k, schedule j = .loop) →
    (∀ t ∈ l.receiver.tasks, FairTo schedule t.number) →
      ∃ k, (l.along p schedule k).receiver.stage = .stopped

/-- Whoever takes which step when, from the start of a receiver on: no permit is lost or made, each
message that came from the source is in flight or was settled once, none stays in flight for ever,
and a receiver that has seen the signal takes no more. -/
theorem messages_settled_once (p : ReceiverPlan τ) (source : Source) (table : FailureTable)
    (host : τ) (moves : List Move) :
    ((start p source table host).after p moves).Settles p source := by
  have sound := (sound_start p source table host).after (p := p) moves
  generalize (start p source table host).after p moves = l at sound ⊢
  have permits : l.receiver.free + l.receiver.tasks.length + l.receiver.stage.holdsPermit.toNat =
      max p.concurrency 1 := sound.permits
  exact {
    bounded := by omega
    permits
    given := sound.given
    popped := fun poll => opened_gave sound.numbers.fresh
    receives := fun m => sound.receives
    distinct := sound.numbers.distinct
    accounted := sound.accounted
    told := sound.perm_words
    counted := fun counters endpoint e t => sound.value_counting counters
    starts := fun t => sound.starts
    works := fun t member rest due => Receiver.workerTurn_reaches p (sound.task? member)
    ends := fun number t result => sound.settles
    settled := fun t member schedule => sound.settles_for_good member
    stopped := sound.all_settled
    seesFlag := Receiver.closing_of_seesFlag p
    closing := fun closing moves => (sound.closing_after closing moves).2
    stops := fun closing schedule => sound.stops closing }

/-- A message without handlers is taken and settled, and the receiver stops. -/
example :
    let host : Host Unit :=
      { handle _ m s := (⟨0, .zero, m.headers, m.body, [], .done⟩, s)
        consult _ _ s := (none, s)
        now _ := ⟨0, 0⟩ }
    let p : ReceiverPlan Unit := ⟨⟨[], "orders"⟩, host, .zero, 1⟩
    let source := Source.scripted { receive := [.message default] }
    let l := (start p source (.ofCapacity 10) ()).after p
      [.loop, .loop, .loop, .settler 0, .worker 0 0, .worker 0 0, .settler 0,
        .signal { value := true }, .loop, .loop, .loop]
    l.receiver.stage = .stopped ∧
      l.wordsOf 0 = [.received "", .measured .succeeded, .completed ""] := by
  decide +kernel

end Ledger
end Redelivery
