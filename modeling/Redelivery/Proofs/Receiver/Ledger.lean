import Redelivery.Proofs.Receiver.Permits
import Redelivery.Proofs.Receiver.Steps

/-! A ledger of the messages that a receiver took, of how their processing ended and of what was told
about them. Whoever takes the next step, a message is in flight, and no more was told of it than
that it came, or the source was told once what became of it. -/
namespace Redelivery

/-- What is left of a flow after some answers. -/
inductive Flow.Residual {α : Type} (x : Flow α) : Flow α → Prop where
  | self : Residual x x
  | answered {request : Request} {next : request.Answer → Flow α}
      (asked : Residual x (.ask request next)) (answer : request.Answer) :
      Residual x (next answer)

def Ended.flow {α : Type} : Ended α → Flow α
  | .done a => .done a
  | .panicked text => .panicked text

section entries
variable {α : Type}

def entriesOf (entries : List (Nat × α)) (number : Nat) : List α :=
  (entries.filter (·.1 = number)).map (·.2)

theorem entriesOf_append (entries : List (Nat × α)) (number : Nat) (more : List α) (n : Nat) :
    entriesOf (entries ++ more.map (number, ·)) n =
      if n = number then entriesOf entries number ++ more else entriesOf entries n := by
  unfold entriesOf
  rw [List.filter_append, List.map_append, List.filter_map, List.map_map]
  by_cases same : n = number
  · subst same
    simp [Function.comp_def]
  · simp [Function.comp_def, same, Ne.symm same]

theorem entriesOf_self (entries : List (Nat × α)) (number : Nat) (more : List α) :
    entriesOf (entries ++ more.map (number, ·)) number = entriesOf entries number ++ more := by
  rw [entriesOf_append, if_pos rfl]

theorem entriesOf_other {number n : Nat} (other : n ≠ number) (entries : List (Nat × α))
    (more : List α) : entriesOf (entries ++ more.map (number, ·)) n = entriesOf entries n := by
  rw [entriesOf_append, if_neg other]

theorem perm_entriesOf {numbers : List Nat} {entries : List (Nat × α)} (distinct : numbers.Nodup)
    (known : ∀ entry ∈ entries, entry.1 ∈ numbers) :
    (entries.map (·.2)).Perm (numbers.flatMap (entriesOf entries)) := by
  induction numbers generalizing entries with
  | nil =>
    cases entries with
    | nil => exact .refl []
    | cons entry rest => cases known entry List.mem_cons_self
  | cons number rest ih =>
    obtain ⟨fresh, distinct⟩ := List.nodup_cons.1 distinct
    let others := entries.filter fun entry => !decide (entry.1 = number)
    have split := (List.filter_append_perm (·.1 = number) entries).symm.map (·.2)
    have later : (others.map (·.2)).Perm (rest.flatMap (entriesOf others)) := by
      refine ih distinct fun entry member => ?_
      obtain ⟨member, other⟩ := List.mem_filter.1 member
      exact (List.mem_cons.1 (known entry member)).resolve_left (by simpa using other)
    have same : rest.flatMap (entriesOf others) = rest.flatMap (entriesOf entries) := by
      apply List.flatMap_congr
      intro n member
      have other : n ≠ number := fun equal => fresh (equal ▸ member)
      unfold entriesOf
      rw [List.filter_filter]
      congr 2
      funext entry
      by_cases own : entry.1 = n <;> simp [own, other]
    rw [List.map_append] at split
    rw [List.flatMap_cons, ← same]
    exact split.trans (later.append_left _)

end entries

def Receiver.eventsOf {τ : Type} (p : ReceiverPlan τ) (r : Receiver τ) (number : Nat) :
    List Event :=
  match r.task? number with
  | some { phase := .processing (.ask request _) _, .. } =>
    (p.host.onExchange.answer ⟨r.table, r.exchange, r.host⟩ request).2.2
  | _ => []

def Receiver.endOf {τ : Type} (r : Receiver τ) (number : Nat) : List (Ended Processed) :=
  match r.task? number with
  | some { phase := .processing (.done result) _, .. } => [.done result]
  | some { phase := .processing (.panicked text) _, .. } => [.panicked text]
  | _ => []

def Receiver.opened {τ : Type} (r r' : Receiver τ) : List (Nat × Incoming) :=
  (r'.tasks.filter fun t => r.nextTask ≤ t.number).map fun t => (t.number, t.message)

/-- A receiver at work, with all that was seen, the messages it took, by the numbers of their tasks,
the ends of their processing and the words about them. -/
structure Ledger (τ : Type) where
  chronicle : Chronicle τ
  seen : List Happening := []
  taken : List (Nat × Incoming) := []
  ends : List (Nat × Ended Processed) := []
  words : List (Nat × Word) := []

namespace Ledger
variable {τ : Type}

def receiver (l : Ledger τ) : Receiver τ := l.chronicle.receiver

def wordsOf (l : Ledger τ) (number : Nat) : List Word := entriesOf l.words number

def endsOf (l : Ledger τ) (number : Nat) : List (Ended Processed) := entriesOf l.ends number

def noted (l : Ledger τ) (number : Nat) (seen : List Happening) : Ledger τ :=
  { l with seen := l.seen ++ seen,
           words := l.words ++ (seen.filterMap Happening.word?).map (number, ·) }

def move (p : ReceiverPlan τ) (l : Ledger τ) (next : Move) : Ledger τ :=
  let r := l.receiver
  let moved := { l with chronicle := l.chronicle.move p next }
  match next with
  | .loop =>
    let turn := r.loopTurn p
    { moved.noted r.nextTask turn.seen with taken := l.taken ++ r.opened turn.receiver }
  | .settler number => moved.noted number (r.settlerTurn p number).seen
  | .worker number _ =>
    { moved.noted number ((r.eventsOf p number).map .delivery) with
      ends := l.ends ++ (r.endOf number).map (number, ·) }
  | _ => moved

def start (p : ReceiverPlan τ) (source : Source) (table : FailureTable) (host : τ) : Ledger τ :=
  { chronicle := { receiver := .create p source table host } }

def after (p : ReceiverPlan τ) (l : Ledger τ) (moves : List Move) : Ledger τ :=
  moves.foldl (move p) l

end Ledger

def Task.Follows {τ : Type} (p : ReceiverPlan τ) (t : Task) (ends : List (Ended Processed)) :
    Prop :=
  match t.phase with
  | .received => ends = []
  | .processing rest _ => ends = [] ∧ (p.pipeline.process t.message).Residual rest
  | .processed result => ends = [result] ∧ (p.pipeline.process t.message).Residual result.flow

section phases
variable {τ : Type} {r : Receiver τ} {number : Nat} {t : Task}

theorem mem_setPhase_self (phase : TaskPhase) (found : r.task? number = some t) :
    { t with phase } ∈ (r.setPhase number phase).tasks := by
  obtain ⟨member, own⟩ := Receiver.task?_mem found
  exact List.mem_map.2 ⟨t, member, if_pos own⟩

theorem mem_setPhase_other (phase : TaskPhase) (other : t.number ≠ number) :
    t ∈ (r.setPhase number phase).tasks ↔ t ∈ r.tasks := by
  constructor
  · intro member
    rcases mem_setPhase member with ⟨own, _⟩ | ⟨_, known⟩
    · exact absurd own other
    · exact known
  · intro known
    exact List.mem_map.2 ⟨t, known, if_neg other⟩

theorem length_others {tasks : List Task} (apart : (tasks.map (·.number)).Nodup)
    (member : t ∈ tasks) : (tasks.filter (·.number ≠ t.number)).length + 1 = tasks.length :=
  (perm_cons_others apart member).length_eq.symm

end phases

namespace Ledger
variable {τ : Type} {p : ReceiverPlan τ} {source : Source} {l l' : Ledger τ} {r r' : Receiver τ}
  {number : Nat} {m : Incoming}

/-- A message in flight, of which no more was told than that it came, or one whose processing
ended, and of which the counters and the source were told so. -/
inductive Accounted (p : ReceiverPlan τ) (l : Ledger τ) (number : Nat) (m : Incoming) : Prop where
  | inFlight {t : Task} (member : t ∈ l.receiver.tasks) (own : t.number = number)
      (message : t.message = m) (told : l.wordsOf number = [.received m.id])
      (follows : t.Follows p (l.endsOf number))
  | settled {result : Ended Processed} (gone : ∀ t ∈ l.receiver.tasks, t.number ≠ number)
      (ended : l.endsOf number = [result])
      (reached : (p.pipeline.process m).Residual result.flow)
      (told : l.wordsOf number = .received m.id :: result.words m)

/-- The messages of the tasks are among those that were taken, under the numbers of the tasks. -/
structure Numbered (r : Receiver τ) (taken : List (Nat × Incoming)) : Prop where
  apart : (r.tasks.map (·.number)).Nodup
  opened : ∀ t ∈ r.tasks, (t.number, t.message) ∈ taken
  below : ∀ entry ∈ taken, entry.1 < r.nextTask
  distinct : (taken.map (·.1)).Nodup

/-- What every step keeps: no permit is lost, and each message that was taken is accounted for. -/
structure Sound (p : ReceiverPlan τ) (source : Source) (l : Ledger τ) : Prop where
  permits : l.receiver.permits = p.permits
  tidy : l.receiver.Tidy
  numbers : Numbered l.receiver l.taken
  accounted : ∀ entry ∈ l.taken, l.Accounted p entry.1 entry.2
  unwritten : ∀ n, n ∉ l.taken.map (·.1) → l.wordsOf n = [] ∧ l.endsOf n = []
  spoken : l.seen.filterMap Happening.word? = l.words.map (·.2)
  given : Source.Gives (l.taken.map (·.2)) source l.receiver.source

theorem sound_start (p : ReceiverPlan τ) (source : Source) (table : FailureTable) (host : τ) :
    (start p source table host).Sound p source where
  permits := rfl
  tidy := ⟨nofun, nofun⟩
  numbers := ⟨List.nodup_nil, nofun, nofun, List.nodup_nil⟩
  accounted _ member := by cases member
  unwritten _ _ := ⟨rfl, rfl⟩
  spoken := rfl
  given := Source.gives_nothing source

section numbers
variable {taken : List (Nat × Incoming)}

theorem Numbered.fresh (numbers : Numbered r taken) : ∀ t ∈ r.tasks, t.number < r.nextTask :=
  fun t member => numbers.below _ (numbers.opened t member)

theorem Numbered.fewer (numbers : Numbered r taken) (tasks : (r'.tasks.map
      fun t => (t.number, t.message)).Sublist (r.tasks.map fun t => (t.number, t.message)))
    (nextTask : r'.nextTask = r.nextTask) : Numbered r' taken := by
  have fewer := tasks.map Prod.fst
  rw [List.map_map, List.map_map] at fewer
  refine ⟨List.Sublist.nodup fewer numbers.apart, fun t member => ?_, ?_, numbers.distinct⟩
  · obtain ⟨old, mine, same⟩ := List.mem_map.1 (tasks.subset (List.mem_map.2 ⟨t, member, rfl⟩))
    exact same ▸ numbers.opened old mine
  · rw [nextTask]
    exact numbers.below

theorem Numbered.took (numbers : Numbered r taken)
    (tasks : r'.tasks = r.tasks ++ [{ number := r.nextTask, message := m }])
    (nextTask : r'.nextTask = r.nextTask + 1) :
    Numbered r' (taken ++ [(r.nextTask, m)]) := by
  refine ⟨?_, ?_, ?_, ?_⟩
  · rw [tasks, List.map_append]
    refine nodup_next numbers.apart fun n member => ?_
    obtain ⟨t, old, rfl⟩ := List.mem_map.1 member
    exact numbers.fresh t old
  · intro t member
    rw [tasks] at member
    rcases List.mem_append.1 member with old | new
    · exact List.mem_append_left _ (numbers.opened t old)
    · rw [List.mem_singleton.1 new]
      exact List.mem_append_right _ (List.mem_singleton_self _)
  · intro entry member
    rw [nextTask]
    rcases List.mem_append.1 member with old | new
    · exact Nat.lt_succ_of_lt (numbers.below entry old)
    · rw [List.mem_singleton.1 new]
      exact Nat.lt_succ_self _
  · rw [List.map_append]
    refine nodup_next numbers.distinct fun n member => ?_
    obtain ⟨entry, old, rfl⟩ := List.mem_map.1 member
    exact numbers.below entry old

end numbers

theorem Accounted.later (tasks : ∀ t : Task, t.number = number →
      (t ∈ l'.receiver.tasks ↔ t ∈ l.receiver.tasks))
    (words : l'.wordsOf number = l.wordsOf number) (ends : l'.endsOf number = l.endsOf number)
    (accounted : l.Accounted p number m) : l'.Accounted p number m := by
  cases accounted with
  | inFlight member own message told follows =>
    exact .inFlight ((tasks _ own).2 member) own message (words.trans told) (ends ▸ follows)
  | settled gone ended reached told =>
    exact .settled (fun t member own => gone t ((tasks t own).1 member) own)
      (ends.trans ended) reached (words.trans told)

structure Onward (l l' : Ledger τ) : Prop where
  permits : l'.receiver.permits = l.receiver.permits
  tidy : l'.receiver.Tidy
  tasks : (l'.receiver.tasks.map fun t => (t.number, t.message)).Sublist
    (l.receiver.tasks.map fun t => (t.number, t.message))
  nextTask : l'.receiver.nextTask = l.receiver.nextTask
  source : Source.Gives [] l.receiver.source l'.receiver.source
  taken : l'.taken = l.taken
  spoken : l.seen.filterMap Happening.word? = l.words.map (·.2) →
    l'.seen.filterMap Happening.word? = l'.words.map (·.2)

theorem Sound.onward (sound : l.Sound p source) (onward : Onward l l')
    (accounted : ∀ entry ∈ l.taken, l'.Accounted p entry.1 entry.2)
    (unwritten : ∀ n, n ∉ l.taken.map (·.1) →
      l'.wordsOf n = l.wordsOf n ∧ l'.endsOf n = l.endsOf n) : l'.Sound p source := by
  have given := sound.given.trans onward.source
  rw [List.append_nil] at given
  refine ⟨onward.permits.trans sound.permits, onward.tidy, ?_, ?_, ?_,
    onward.spoken sound.spoken, ?_⟩
  · rw [onward.taken]
    exact sound.numbers.fewer onward.tasks onward.nextTask
  · rw [onward.taken]
    exact accounted
  · intro n unknown
    rw [onward.taken] at unknown
    obtain ⟨words, ends⟩ := unwritten n unknown
    obtain ⟨unsaid, unended⟩ := sound.unwritten n unknown
    exact ⟨words.trans unsaid, ends.trans unended⟩
  · rw [onward.taken]
    exact given

theorem Sound.still (sound : l.Sound p source) (onward : Onward l l')
    (tasks : l'.receiver.tasks = l.receiver.tasks) (words : l'.words = l.words)
    (ends : l'.ends = l.ends) : l'.Sound p source := by
  have told : ∀ n, l'.wordsOf n = l.wordsOf n := fun n => congrArg (entriesOf · n) words
  have ended : ∀ n, l'.endsOf n = l.endsOf n := fun n => congrArg (entriesOf · n) ends
  refine sound.onward onward (fun entry member => ?_) fun n _ => ⟨told n, ended n⟩
  refine (sound.accounted entry member).later (fun t _ => ?_) (told _) (ended _)
  rw [tasks]

theorem Sound.quiet (sound : l.Sound p source) (asked : Receiver.Asked l.receiver l'.receiver)
    (same : l'.receiver.source = l.receiver.source) (taken : l'.taken = l.taken)
    (words : l'.words = l.words) (ends : l'.ends = l.ends)
    (spoken : l.seen.filterMap Happening.word? = l.words.map (·.2) →
      l'.seen.filterMap Happening.word? = l'.words.map (·.2)) : l'.Sound p source := by
  have gives : Source.Gives [] l.receiver.source l'.receiver.source := by
    rw [same]
    exact Source.gives_nothing _
  have onward : Onward l l' := by
    refine ⟨asked.permits, ?_, ?_, asked.nextTask, gives, taken, spoken⟩
    · exact sound.tidy.next asked.stage gives asked.tasks.trans
    · rw [asked.tasks]
  exact sound.still onward asked.tasks words ends

theorem Sound.found {t : Task} (sound : l.Sound p source)
    (found : l.receiver.task? number = some t) :
    (number, t.message) ∈ l.taken ∧ l.wordsOf number = [.received t.message.id] ∧
      t.Follows p (l.endsOf number) := by
  obtain ⟨member, rfl⟩ := Receiver.task?_mem found
  have taken := sound.numbers.opened t member
  cases sound.accounted _ taken with
  | inFlight known own message told follows =>
    have same := eq_of_number sound.numbers.apart known member own
    subst same
    exact ⟨taken, told, follows⟩
  | settled gone => exact absurd rfl (gone t member)

theorem Sound.task {t : Task} (sound : l.Sound p source) (onward : Onward l l')
    (found : l.receiver.task? number = some t)
    (others : ∀ u : Task, u.number ≠ number → (u ∈ l'.receiver.tasks ↔ u ∈ l.receiver.tasks))
    (words : ∀ n, n ≠ number → l'.wordsOf n = l.wordsOf n)
    (ends : ∀ n, n ≠ number → l'.endsOf n = l.endsOf n)
    (own : l'.Accounted p number t.message) : l'.Sound p source := by
  have taken := (sound.found found).1
  refine sound.onward onward (fun entry member => ?_) fun n unknown => ?_
  · by_cases mine : entry.1 = number
    · have same := List.inj_on_of_nodup_map sound.numbers.distinct member taken mine
      rw [same]
      exact own
    · exact (sound.accounted entry member).later (fun u same => others u (same ▸ mine))
        (words _ mine) (ends _ mine)
  · have other : n ≠ number := by
      rintro rfl
      exact unknown (List.mem_map.2 ⟨_, taken, rfl⟩)
    exact ⟨words n other, ends n other⟩

theorem wordless_events (events : List Event) :
    (events.map Happening.delivery).filterMap Happening.word? = [] := by
  rw [List.filterMap_map]
  exact List.filterMap_eq_nil_iff.2 fun _ _ => rfl

theorem words_noted (l : Ledger τ) (number : Nat) {seen : List Happening}
    (wordless : seen.filterMap Happening.word? = []) : (l.noted number seen).words = l.words := by
  simp [noted, wordless]

theorem spoken_noted (l : Ledger τ) (number : Nat) (seen : List Happening)
    (spoken : l.seen.filterMap Happening.word? = l.words.map (·.2)) :
    (l.noted number seen).seen.filterMap Happening.word? =
      (l.noted number seen).words.map (·.2) := by
  simp [noted, spoken, List.filterMap_append, Function.comp_def]

theorem spoken_move (p : ReceiverPlan τ) (l : Ledger τ) (next : Move)
    (spoken : l.seen.filterMap Happening.word? = l.words.map (·.2)) :
    (l.move p next).seen.filterMap Happening.word? = (l.move p next).words.map (·.2) := by
  cases next with
  | loop => exact spoken_noted l _ _ spoken
  | settler number => exact spoken_noted l _ _ spoken
  | worker number time => exact spoken_noted l _ _ spoken
  | _ => exact spoken

theorem opened_kept (fresh : ∀ t ∈ r.tasks, t.number < r.nextTask) (tasks : r'.tasks = r.tasks) :
    r.opened r' = [] := by
  have none : r.tasks.filter (fun t => r.nextTask ≤ t.number) = [] := by
    apply List.filter_eq_nil_iff.2
    intro t member
    simpa using fresh t member
  rw [Receiver.opened, tasks, none, List.map_nil]

theorem opened_took (fresh : ∀ t ∈ r.tasks, t.number < r.nextTask)
    (tasks : r'.tasks = r.tasks ++ [{ number := r.nextTask, message := m }]) :
    r.opened r' = [(r.nextTask, m)] := by
  have none : r.opened r = [] := opened_kept fresh rfl
  unfold Receiver.opened at none ⊢
  rw [tasks, List.filter_append, List.map_append, none]
  simp

theorem Sound.took (sound : l.Sound p source)
    (permits : l'.receiver.permits = l.receiver.permits) (tidy : l'.receiver.Tidy)
    (tasks : l'.receiver.tasks =
      l.receiver.tasks ++ [{ number := l.receiver.nextTask, message := m }])
    (nextTask : l'.receiver.nextTask = l.receiver.nextTask + 1)
    (gives : Source.Gives [m] l.receiver.source l'.receiver.source)
    (taken : l'.taken = l.taken ++ [(l.receiver.nextTask, m)])
    (words : l'.words = l.words ++ [Word.received m.id].map (l.receiver.nextTask, ·))
    (ends : l'.ends = l.ends)
    (spoken : l'.seen.filterMap Happening.word? = l'.words.map (·.2)) : l'.Sound p source := by
  have ended : ∀ n, l'.endsOf n = l.endsOf n := fun n => congrArg (entriesOf · n) ends
  have quiet : ∀ n, n ≠ l.receiver.nextTask → l'.wordsOf n = l.wordsOf n := by
    intro n other
    rw [wordsOf, words]
    exact entriesOf_other other l.words _
  have unknown : l.receiver.nextTask ∉ l.taken.map (·.1) := by
    intro member
    obtain ⟨entry, old, same⟩ := List.mem_map.1 member
    exact absurd (sound.numbers.below entry old) (by omega)
  obtain ⟨unsaid, unended⟩ := sound.unwritten _ unknown
  refine ⟨permits.trans sound.permits, tidy, ?_, ?_, ?_, spoken, ?_⟩
  · rw [taken]
    exact sound.numbers.took tasks nextTask
  · rw [taken]
    intro entry member
    rcases List.mem_append.1 member with old | new
    · have other : entry.1 ≠ l.receiver.nextTask := Nat.ne_of_lt (sound.numbers.below entry old)
      refine (sound.accounted entry old).later (fun t own => ?_) (quiet _ other) (ended _)
      have different : t.number ≠ l.receiver.nextTask := own ▸ other
      rw [tasks, List.mem_append, List.mem_singleton]
      constructor
      · rintro (old | rfl)
        · exact old
        · exact absurd rfl different
      · exact .inl
    · rw [List.mem_singleton.1 new]
      refine .inFlight (t := { number := l.receiver.nextTask, message := m }) ?_ rfl rfl ?_ ?_
      · rw [tasks]
        exact List.mem_append_right _ (List.mem_singleton_self _)
      · rw [wordsOf, words, entriesOf_self]
        exact congrArg (· ++ [Word.received m.id]) unsaid
      · exact (ended _).trans unended
  · intro n unheard
    rw [taken, List.map_append, List.mem_append, not_or] at unheard
    have other : n ≠ l.receiver.nextTask := by simpa using unheard.2
    obtain ⟨unsaid, unended⟩ := sound.unwritten n unheard.1
    exact ⟨(quiet n other).trans unsaid, (ended n).trans unended⟩
  · rw [taken, List.map_append]
    exact sound.given.trans gives

theorem Sound.loop (sound : l.Sound p source) : (l.move p .loop).Sound p source := by
  have spoken := spoken_move p l .loop
  let r' := (l.receiver.loopTurn p).receiver
  have taken : (l.move p .loop).taken = l.taken ++ l.receiver.opened r' := rfl
  cases Receiver.way_loopTurn p sound.tidy with
  | kept permits tasks nextTask gives unheard tidy =>
    rw [opened_kept sound.numbers.fresh tasks, List.append_nil] at taken
    have onward : Onward l (l.move p .loop) := by
      refine ⟨permits, tidy, ?_, nextTask, gives, taken, spoken⟩
      change (r'.tasks.map _).Sublist _
      rw [tasks]
    exact sound.still onward tasks (words_noted l _ unheard) rfl
  | took permits tasks nextTask gives heard tidy =>
    rw [opened_took sound.numbers.fresh tasks] at taken
    refine sound.took permits tidy tasks nextTask gives taken ?_ rfl (spoken sound.spoken)
    change l.words ++ _ = _
    rw [heard]

theorem Sound.phase {t : Task} {phase : TaskPhase} (sound : l.Sound p source)
    (found : l.receiver.task? number = some t)
    (asked : Receiver.Asked (l.receiver.setPhase number phase) l'.receiver)
    (same : l'.receiver.source = l.receiver.source) (taken : l'.taken = l.taken)
    (words : l'.words = l.words)
    (ends : ∀ n, n ≠ number → l'.endsOf n = l.endsOf n)
    (follows : Task.Follows p { t with phase } (l'.endsOf number))
    (spoken : l.seen.filterMap Happening.word? = l.words.map (·.2) →
      l'.seen.filterMap Happening.word? = l'.words.map (·.2)) : l'.Sound p source := by
  obtain ⟨_, told, _⟩ := sound.found found
  have own := (Receiver.task?_mem found).2
  have labels := map_setPhase l.receiver number phase (fun t => (t.number, t.message))
    fun _ _ => rfl
  have length := congrArg List.length (map_setPhase l.receiver number phase (·.number)
    fun _ _ => rfl)
  rw [List.length_map, List.length_map] at length
  have gives : Source.Gives [] l.receiver.source l'.receiver.source := by
    rw [same]
    exact Source.gives_nothing _
  have onward : Onward l l' := by
    refine ⟨?_, ?_, ?_, asked.nextTask, gives, taken, spoken⟩
    · rw [asked.permits, Receiver.permits, length]
      rfl
    · refine sound.tidy.next asked.stage gives fun none => ?_
      rw [asked.tasks]
      exact List.length_eq_zero_iff.1 (length.trans (by rw [none]; rfl))
    · rw [asked.tasks, labels]
  refine sound.task onward found (fun u other => ?_) (fun n _ => congrArg (entriesOf · n) words)
    ends ?_
  · rw [asked.tasks]
    exact mem_setPhase_other phase other
  · refine .inFlight (t := { t with phase }) ?_ own rfl
      ((congrArg (entriesOf · number) words).trans told) follows
    rw [asked.tasks]
    exact mem_setPhase_self phase found

theorem Sound.settler (sound : l.Sound p source) (number : Nat) :
    (l.move p (.settler number)).Sound p source := by
  have spoken := spoken_move p l (.settler number)
  cases Receiver.way_settlerTurn p l.receiver number with
  | idle _ idle =>
    have quiet : (l.receiver.settlerTurn p number).seen.filterMap Happening.word? = [] := by
      rw [idle]
      rfl
    have same : (l.move p (.settler number)).receiver = l.receiver :=
      congrArg Turn.receiver idle
    have asked : Receiver.Asked l.receiver (l.move p (.settler number)).receiver := by
      rw [same]
      exact ⟨rfl, rfl, rfl, rfl⟩
    exact sound.quiet asked (congrArg Receiver.source same) rfl (words_noted l number quiet) rfl
      spoken
  | started found fresh asked source quiet =>
    obtain ⟨_, _, follows⟩ := sound.found found
    rw [Task.Follows, fresh] at follows
    refine sound.phase found asked source rfl (words_noted l number ?_) (fun _ _ => rfl)
      ⟨follows, .self⟩ spoken
    rw [quiet]
    rfl
  | settled found ended closes words =>
    rename_i t result
    obtain ⟨member, rfl⟩ := Receiver.task?_mem found
    obtain ⟨taken, told, follows⟩ := sound.found found
    rw [Task.Follows, ended] at follows
    have heard : (l.move p (.settler t.number)).words =
        l.words ++ (result.words t.message).map (t.number, ·) := by
      change l.words ++ _ = _
      rw [words]
    have onward : Onward l (l.move p (.settler t.number)) := by
      refine ⟨?_, ?_, ?_, closes.nextTask, closes.source, rfl, spoken⟩
      · change Receiver.permits (l.receiver.settlerTurn p t.number).receiver = _
        rw [Receiver.permits, Receiver.permits, closes.free, closes.tasks, closes.stage,
          ← length_others sound.numbers.apart member]
        omega
      · refine sound.tidy.next closes.stage closes.source fun none => ?_
        rw [none] at member
        cases member
      · change ((l.receiver.settlerTurn p t.number).receiver.tasks.map _).Sublist _
        rw [closes.tasks]
        exact List.filter_sublist.map _
    refine sound.task onward found (fun u other => ?_) (fun n other => ?_) (fun _ _ => rfl) ?_
    · change u ∈ (l.receiver.settlerTurn p t.number).receiver.tasks ↔ _
      rw [closes.tasks, List.mem_filter]
      simp [other]
    · rw [wordsOf, heard]
      exact entriesOf_other other l.words _
    · refine .settled (fun u left => ?_) follows.1 follows.2 ?_
      · have left : u ∈ (l.receiver.settlerTurn p t.number).receiver.tasks := left
        rw [closes.tasks] at left
        simpa using (List.mem_filter.1 left).2
      · rw [wordsOf, heard, entriesOf_self]
        exact congrArg (· ++ result.words t.message) told

inductive WorkerWay (number : Nat) (r r' : Receiver τ) (ends : List (Ended Processed)) : Prop where
  | idle (idle : ∀ t, r.task? number = some t → ∀ rest due, t.phase ≠ .processing rest due)
      (same : r' = r) (unended : ends = [])
  | answered {t : Task} {due time : Nat} {request : Request}
      {next : request.Answer → Flow Processed} (found : r.task? number = some t)
      (phase : t.phase = .processing (.ask request next) due) (answer : request.Answer)
      (asked : Receiver.Asked (r.setPhase number (.processing (next answer) time)) r')
      (source : r'.source = r.source) (unended : ends = [])
  | ended {t : Task} {due : Nat} {result : Ended Processed} (found : r.task? number = some t)
      (phase : t.phase = .processing result.flow due)
      (asked : Receiver.Asked (r.setPhase number (.processed result)) r')
      (source : r'.source = r.source) (ended : ends = [result])

theorem way_serve (p : ReceiverPlan τ) (r : Receiver τ) (number time : Nat) :
    WorkerWay number r (r.serve p number time).1 (r.endOf number) := by
  unfold Receiver.serve Receiver.endOf
  cases found : r.task? number with
  | none => exact .idle (fun t other => by cases found.symm.trans other) rfl rfl
  | some t =>
    obtain ⟨_, m, phase⟩ := t
    cases phase with
    | received | processed =>
      refine .idle (fun t other rest due working => ?_) rfl rfl
      cases found.symm.trans other
      cases working
    | processing rest due =>
      cases rest with
      | done result =>
        have phase : TaskPhase.processing (.done result) due =
            .processing (Ended.done result).flow due := rfl
        exact .ended found phase ⟨rfl, rfl, rfl, rfl⟩ rfl rfl
      | panicked text =>
        have phase : TaskPhase.processing (.panicked text) due =
            .processing (.panicked text : Ended Processed).flow due := rfl
        exact .ended found phase ⟨rfl, rfl, rfl, rfl⟩ rfl rfl
      | ask request next =>
        exact .answered found rfl _ ⟨rfl, rfl, rfl, rfl⟩ rfl rfl

theorem Sound.worker (sound : l.Sound p source) (number time : Nat) :
    (l.move p (.worker number time)).Sound p source := by
  let l' := l.move p (.worker number time)
  have spoken := spoken_move p l (.worker number time)
  have words : l'.words = l.words :=
    words_noted l number (wordless_events (l.receiver.eventsOf p number))
  have ends : l'.ends = l.ends ++ (l.receiver.endOf number).map (number, ·) := rfl
  have others : ∀ n, n ≠ number → l'.endsOf n = l.endsOf n :=
    fun n other => entriesOf_other other l.ends _
  have own : l'.endsOf number = l.endsOf number ++ l.receiver.endOf number :=
    entriesOf_self l.ends number _
  cases way_serve p l.receiver number time with
  | idle _ same unended =>
    have asked : Receiver.Asked l.receiver l'.receiver := by
      change Receiver.Asked l.receiver (l.receiver.serve p number time).1
      rw [same]
      exact ⟨rfl, rfl, rfl, rfl⟩
    rw [unended, List.map_nil, List.append_nil] at ends
    exact sound.quiet asked (congrArg Receiver.source same) rfl words ends spoken
  | answered found phase answer asked source unended =>
    obtain ⟨_, _, follows⟩ := sound.found found
    rw [Task.Follows, phase] at follows
    rw [unended, List.append_nil] at own
    exact sound.phase found asked source rfl words others
      ⟨own.trans follows.1, .answered follows.2 answer⟩ spoken
  | ended found phase asked source ended =>
    obtain ⟨_, _, follows⟩ := sound.found found
    rw [Task.Follows, phase] at follows
    rw [ended, follows.1] at own
    exact sound.phase found asked source rfl words others ⟨own, follows.2⟩ spoken

theorem Sound.move (sound : l.Sound p source) (next : Move) : (l.move p next).Sound p source := by
  have spoken := spoken_move p l next
  cases next with
  | loop => exact sound.loop
  | settler number => exact sound.settler number
  | worker number time => exact sound.worker number time
  | signal s =>
    obtain ⟨asked, same⟩ := Receiver.asked_signalled l.receiver fun _ => s
    exact sound.quiet asked same rfl rfl rfl spoken
  | _ => exact sound.quiet ⟨rfl, rfl, rfl, rfl⟩ rfl rfl rfl rfl spoken

theorem Sound.after (sound : l.Sound p source) (moves : List Move) :
    (l.after p moves).Sound p source := by
  induction moves generalizing l with
  | nil => exact sound
  | cons next rest ih => exact ih (sound.move next)

/-- A message whose processing ended is settled in its settler's next turn. -/
theorem Sound.settles {t : Task} {result : Ended Processed} (sound : l.Sound p source)
    (found : l.receiver.task? number = some t) (ended : t.phase = .processed result) :
    (l.move p (.settler number)).wordsOf number =
      .received t.message.id :: result.words t.message := by
  obtain ⟨_, told, _⟩ := sound.found found
  obtain ⟨_, heard⟩ := Receiver.closes_of_ended p found ended
  change entriesOf (l.words ++ _) number = _
  rw [heard, entriesOf_self]
  exact congrArg (· ++ result.words t.message) told

end Ledger
end Redelivery
