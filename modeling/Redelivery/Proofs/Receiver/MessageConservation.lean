import Redelivery.Proofs.Receiver.Steps

/-! No message is lost or duplicated by a receiver at work. Every step keeps the number of what there
is of each message, over all the places where it can be, equal to the number of times it was sent
to the endpoint. -/
namespace Redelivery

/-- The deeds of a task whose message was handled: nothing was sent, and in the last delivery every
stage was entered and every handler was done. -/
def HandledWell (names : List String) (ds : List Deed) : Prop :=
  ∃ earlier last, ds = earlier ++ last ∧ (tally last).Complete names ∧ (tally ds).sent = []

namespace Chronicle
variable {τ : Type} {p : ReceiverPlan τ} {s : Settings} {c : Chronicle τ} {r : Receiver τ}
  {number : Nat}

structure Sound (s : Settings) (p : ReceiverPlan τ) (c : Chronicle τ) : Prop where
  source : ∃ poll, c.receiver.source = .mailbox poll
  sorted : c.receiver.exchange.transport.Sorted s.address
  fresh : ∀ t ∈ c.receiver.tasks, t.number < c.receiver.nextTask
  apart : (c.receiver.tasks.map (·.number)).Nodup
  unwritten : ∀ n, c.receiver.nextTask ≤ n → c.deedsOf n = []
  orderly : ∀ t ∈ c.receiver.tasks, t.Orderly s p.pipeline.stageNames (c.deedsOf t.number)
  handled : ∀ entry ∈ c.handled, HandledWell p.pipeline.stageNames entry.2
  counted : ∀ id, c.census s id = (c.incoming s).count id

theorem sound_start (p : ReceiverPlan τ) (poll : Duration) (table : FailureTable) (host : τ)
    (s : Settings) : (start p poll table host).Sound s p where
  source := ⟨poll, rfl⟩
  sorted := Transport.sorted_empty s.address
  fresh t member := by cases member
  apart := List.nodup_nil
  unwritten _ _ := rfl
  orderly t member := by cases member
  handled entry member := by cases member
  counted id := by
    have nothing : Transport.forwardedIds {} s = [] := by
      unfold Transport.forwardedIds
      split <;> rfl
    change (0 + 0 + (Transport.forwardedIds {} s).count id) + 0 + 0 = 0
    rw [nothing]
    rfl

theorem Sound.of_held (sound : c.Sound s p) (tasks : r.tasks = c.receiver.tasks)
    (nextTask : r.nextTask = c.receiver.nextTask) (source : r.source = c.receiver.source)
    (sorted : r.exchange.transport.Sorted s.address)
    (held : ∀ id, r.exchange.transport.held s id = c.receiver.exchange.transport.held s id) :
    ({ c with receiver := r } : Chronicle τ).Sound s p where
  source := source ▸ sound.source
  sorted := sorted
  fresh := by
    simp only [tasks, nextTask]
    exact sound.fresh
  apart := by
    simp only [tasks]
    exact sound.apart
  unwritten := by
    simp only [nextTask]
    exact sound.unwritten
  orderly := by
    simp only [tasks]
    exact sound.orderly
  handled := sound.handled
  counted id := by
    have same : ({ c with receiver := r } : Chronicle τ).idsAt s .inFlight = c.idsAt s .inFlight := by
      change (r.tasks.filter c.isIdle).map (·.message.id) = _
      rw [tasks]
      rfl
    have before := sound.counted id
    unfold census at before ⊢
    rw [same, held]
    exact before

theorem Sound.of_kept (sound : c.Sound s p) (kept : c.receiver.Kept r) :
    ({ c with receiver := r } : Chronicle τ).Sound s p :=
  sound.of_held kept.tasks kept.nextTask kept.source
    (sound.sorted.of_same kept.goods.labels kept.goods.next) (kept.goods.held s)

theorem sound_send (sound : c.Sound s p) (address : String) (m : Outgoing) :
    (c.move p (.send address m)).Sound s p where
  source := sound.source
  sorted :=
    let pushed := Exchange.pushed_push c.receiver.exchange address m.toIncoming
    sound.sorted.of_same pushed.labels pushed.next
  fresh := sound.fresh
  apart := sound.apart
  unwritten := sound.unwritten
  orderly := sound.orderly
  handled := sound.handled
  counted id := by
    have pushed := Exchange.pushed_push c.receiver.exchange address m.toIncoming
    have before := sound.counted id
    unfold census at before
    change (c.receiver.exchange.push address m.toIncoming).transport.held s id +
      (c.idsAt s .inFlight).count id + (c.idsAt s .settled).count id =
        (((c.posted ++ [(address, m)]).filter fun post =>
          post.1 = s.address ∨ post.1 = s.errorQueue).map (·.2.id)).count id
    rw [List.filter_append, List.map_append, List.count_append]
    by_cases own : address = s.address ∨ address = s.errorQueue
    · rw [pushed.held own, List.filter_cons_of_pos (by simpa using own)]
      change _ = (c.incoming s).count id + [m.id].count id
      have same : m.toIncoming.id = m.id := rfl
      rw [same]
      omega
    · have away := not_or.1 own
      rw [pushed.held_elsewhere away.1 away.2, List.filter_cons_of_neg (by simpa using own)]
      exact before

theorem sound_courier (sound : c.Sound s p) (number : Nat) :
    (c.move p (.courier number)).Sound s p := by
  obtain ⟨sorted, held⟩ := Exchange.held_courierTurn sound.sorted number
  exact sound.of_held rfl rfl rfl sorted held

theorem deedsOf_append (c : Chronicle τ) (r : Receiver τ) (ds : List Deed) (n : Nat) :
    ({ c with receiver := r, deeds := c.deeds ++ ds.map fun d => (number, d) } :
      Chronicle τ).deedsOf n = if n = number then c.deedsOf number ++ ds else c.deedsOf n := by
  unfold deedsOf
  rw [List.filterMap_append, List.filterMap_map]
  by_cases same : n = number
  · subst same
    simp
  · simp [same, Ne.symm same]

theorem sound_loop (sound : c.Sound s p) (here : p.pipeline.address = s.address) :
    (c.move p .loop).Sound s p := by
  obtain ⟨poll, source⟩ := sound.source
  have effect := Receiver.effect_loopTurn (p := p) source
  rw [here] at effect
  change ({ c with receiver := (c.receiver.loopTurn p).receiver } : Chronicle τ).Sound s p
  generalize (c.receiver.loopTurn p).receiver = r at effect ⊢
  cases effect with
  | kept kept => exact sound.of_kept kept
  | @took m popped tasks nextTask same =>
    have empty : c.deedsOf c.receiver.nextTask = [] := sound.unwritten _ (Nat.le_refl _)
    refine ⟨⟨poll, same.trans source⟩, sound.sorted.of_same popped.labels popped.next, ?_, ?_, ?_, ?_,
      sound.handled, ?_⟩
    · intro t member
      simp only [tasks] at member
      simp only [nextTask]
      rcases List.mem_append.1 member with member | member
      · exact Nat.lt_succ_of_lt (sound.fresh t member)
      · cases List.mem_singleton.1 member
        exact Nat.lt_succ_self _
    · simp only [tasks, List.map_append, List.nodup_append]
      refine ⟨sound.apart, by simp, ?_⟩
      intro n old n' new same
      obtain ⟨t, member, rfl⟩ := List.mem_map.1 old
      have below := sound.fresh t member
      simp only [List.map_cons, List.map_nil, List.mem_singleton] at new
      omega
    · intro n above
      simp only [nextTask] at above
      exact sound.unwritten n (Nat.le_of_succ_le above)
    · intro t member
      simp only [tasks] at member
      rcases List.mem_append.1 member with member | member
      · exact sound.orderly t member
      · cases List.mem_singleton.1 member
        exact empty
    · intro id
      have before := sound.counted id
      have idle : c.isIdle { number := c.receiver.nextTask, message := m } = true := by
        unfold isIdle
        rw [empty]
        rfl
      have more : ({ c with receiver := r } : Chronicle τ).idsAt s .inFlight =
          c.idsAt s .inFlight ++ [m.id] := by
        change (r.tasks.filter c.isIdle).map (·.message.id) = _
        rw [tasks, List.filter_append, List.filter_cons_of_pos idle, List.map_append]
        rfl
      unfold census at before ⊢
      rw [popped.held] at before
      rw [more, List.count_append]
      change r.exchange.transport.held s id + _ + (c.idsAt s .settled).count id =
        (c.incoming s).count id
      omega

theorem idsAt_inFlight_closed (sound : c.Sound s p) {t : Task}
    (found : c.receiver.task? number = some t)
    (closed : r.tasks = c.receiver.tasks.filter (·.number ≠ number)) (id : String) :
    (c.idsAt s .inFlight).count id =
      ((r.tasks.filter c.isIdle).map (·.message.id)).count id +
        if c.isIdle t then [t.message.id].count id else 0 := by
  obtain ⟨member, rfl⟩ := Receiver.task?_mem found
  have left : r.tasks.filter c.isIdle =
      c.receiver.tasks.filter fun q => c.isIdle q && decide (q.number ≠ t.number) := by
    rw [closed, List.filter_filter]
  change ((c.receiver.tasks.filter c.isIdle).map (·.message.id)).count id = _
  rw [left]
  by_cases idle : c.isIdle t = true
  · rw [if_pos idle]
    refine count_tasks sound.apart member _ _ idle (by simp) (fun other _ different => ?_) id
    simp [different]
  · have same : (c.receiver.tasks.filter fun q => c.isIdle q && decide (q.number ≠ t.number)) =
        c.receiver.tasks.filter c.isIdle := by
      apply List.filter_congr
      intro q known
      by_cases equal : q.number = t.number
      · have one : q = t := eq_of_number sound.apart known member equal
        simp [one, idle]
      · simp [equal]
    rw [if_neg idle, same]
    rfl

theorem Sound.closed (sound : c.Sound s p) {t : Task} (found : c.receiver.task? number = some t)
    (closed : c.receiver.Closed r number) (sorted : r.exchange.transport.Sorted s.address)
    {more : List (String × List Deed)}
    (well : ∀ entry ∈ more, HandledWell p.pipeline.stageNames entry.2)
    (balance : ∀ id, r.exchange.transport.held s id + (more.map (·.1)).count id =
      c.receiver.exchange.transport.held s id +
        if c.isIdle t then [t.message.id].count id else 0) :
    ({ c with receiver := r, handled := c.handled ++ more } : Chronicle τ).Sound s p where
  source := closed.source ▸ sound.source
  sorted := sorted
  fresh := by
    intro q member
    simp only [closed.tasks] at member
    simp only [closed.nextTask]
    exact sound.fresh q (List.mem_of_mem_filter member)
  apart := by
    simp only [closed.tasks]
    exact sound.apart.sublist (List.filter_sublist.map _)
  unwritten := by
    simp only [closed.nextTask]
    exact sound.unwritten
  orderly := by
    intro q member
    simp only [closed.tasks] at member
    exact sound.orderly q (List.mem_of_mem_filter member)
  handled := by
    intro entry member
    rcases List.mem_append.1 member with member | member
    · exact sound.handled entry member
    · exact well entry member
  counted id := by
    have before := sound.counted id
    have fewer := idsAt_inFlight_closed sound found closed.tasks id
    have balanced := balance id
    unfold census at before ⊢
    change r.exchange.transport.held s id +
        ((r.tasks.filter c.isIdle).map (·.message.id)).count id +
        ((c.handled ++ more).map (·.1)).count id = (c.incoming s).count id
    change _ + _ + (c.handled.map (·.1)).count id = _ at before
    rw [List.map_append, List.count_append]
    omega

theorem handledBy_unsettled (c : Chronicle τ) (number : Nat)
    (unsettled : ∀ t n, c.receiver.task? number = some t →
      t.phase ≠ .processed (.done (.settled n))) : c.handledBy number = [] := by
  unfold handledBy
  split
  · rename_i t found
    split
    · rename_i n phase
      exact absurd phase (unsettled t n found)
    · rfl
  · rfl

theorem handledBy_settled {t : Task} {deliveries : Nat} (found : c.receiver.task? number = some t)
    (settled : t.phase = .processed (.done (.settled deliveries))) :
    c.handledBy number = if c.isIdle t then [(t.message.id, c.deedsOf t.number)] else [] := by
  unfold handledBy
  rw [found]
  simp only [settled]

theorem sound_completed (sound : c.Sound s p) {t : Task} {deliveries : Nat}
    (found : c.receiver.task? number = some t)
    (settled : t.phase = .processed (.done (.settled deliveries)))
    (goods : Transport.Unmoved c.receiver.exchange.transport r.exchange.transport)
    (closed : c.receiver.Closed r number) :
    ({ c with receiver := r, handled := c.handled ++ c.handledBy number } :
      Chronicle τ).Sound s p := by
  have sorted := sound.sorted.of_same goods.labels goods.next
  have orderly := sound.orderly t (Receiver.task?_mem found).1
  unfold Task.Orderly at orderly
  rw [settled] at orderly
  rw [handledBy_settled found settled]
  refine sound.closed found closed sorted ?_ fun id => ?_
  · intro entry member
    split at member
    · rename_i idle
      cases List.mem_singleton.1 member
      have unsent : (tally (c.deedsOf t.number)).sent = [] := List.isEmpty_iff.1 idle
      generalize c.deedsOf t.number = ds at orderly unsent ⊢
      cases orderly with
      | handled complete still => exact ⟨_, _, rfl, complete, still⟩
      | sent gone => cases unsent.symm.trans gone
    · cases member
  · rw [goods.held]
    split <;> rfl

theorem sound_abandoned (sound : c.Sound s p) (here : p.pipeline.address = s.address) {t : Task}
    {result : Ended Processed} (found : c.receiver.task? number = some t)
    (failed : t.phase = .processed result)
    (unsettled : ∀ deliveries, result ≠ .done (.settled deliveries))
    (pushed : Transport.Pushed c.receiver.exchange.transport r.exchange.transport
      p.pipeline.address t.message)
    (closed : c.receiver.Closed r number) :
    ({ c with receiver := r, handled := c.handled ++ c.handledBy number } :
      Chronicle τ).Sound s p := by
  have sorted := sound.sorted.of_same pushed.labels pushed.next
  have orderly := sound.orderly t (Receiver.task?_mem found).1
  unfold Task.Orderly at orderly
  rw [failed] at orderly
  have unsent : (tally (c.deedsOf t.number)).sent = [] := by
    generalize c.deedsOf t.number = ds at orderly ⊢
    cases orderly with
    | handled complete still => exact absurd rfl (unsettled _)
    | sent gone => exact absurd rfl (unsettled _)
    | failed still => exact still
    | panicked still => exact still
  have idle : c.isIdle t = true := List.isEmpty_iff.2 unsent
  have none : c.handledBy number = [] := by
    refine handledBy_unsettled c number fun other n found' settled => ?_
    cases found.symm.trans found'
    exact unsettled n (TaskPhase.processed.inj (failed.symm.trans settled))
  rw [none]
  refine sound.closed found closed sorted (fun entry member => by cases member) fun id => ?_
  rw [if_pos idle, pushed.held (.inl here)]
  rfl

theorem isIdle_append (c : Chronicle τ) (r : Receiver τ) (ds : List Deed) (t : Task) :
    ({ c with receiver := r, deeds := c.deeds ++ ds.map fun d => (number, d) } :
      Chronicle τ).isIdle t =
      (c.isIdle t && (t.number != number || (tally ds).sent.isEmpty)) := by
  unfold isIdle
  rw [deedsOf_append]
  by_cases same : t.number = number
  · rw [if_pos same, same, tally_append, Tally.sent_add]
    cases (tally (c.deedsOf number)).sent <;> simp
  · simp [same]

theorem inFlight_setPhase {idle : Task → Bool} {phase : TaskPhase}
    (tasks : r.tasks = (c.receiver.setPhase number phase).tasks)
    (blind : ∀ (t : Task) (phase : TaskPhase), idle { t with phase } = idle t) :
    (r.tasks.filter idle).map (·.message.id) =
      (c.receiver.tasks.filter idle).map (·.message.id) := by
  rw [tasks, Receiver.setPhase, List.filter_map, List.map_map]
  have same : (c.receiver.tasks.filter (idle ∘ fun t =>
      if t.number = number then { t with phase } else t)) = c.receiver.tasks.filter idle := by
    apply List.filter_congr
    intro t _
    simp only [Function.comp_apply]
    split
    · exact blind t phase
    · rfl
  rw [same]
  apply List.map_congr_left
  intro t _
  simp only [Function.comp_apply]
  split <;> rfl

theorem Sound.advanced (sound : c.Sound s p) {t : Task} (found : c.receiver.task? number = some t)
    {phase : TaskPhase} {ds : List Deed}
    (tasks : r.tasks = (c.receiver.setPhase number phase).tasks)
    (nextTask : r.nextTask = c.receiver.nextTask) (source : r.source = c.receiver.source)
    (sorted : r.exchange.transport.Sorted s.address)
    (orderly : Task.Orderly s p.pipeline.stageNames { t with phase } (c.deedsOf number ++ ds))
    (balance : (tally ds).sent = [] ∧
        (∀ id, r.exchange.transport.held s id = c.receiver.exchange.transport.held s id) ∨
      c.isIdle t = true ∧ (tally ds).sent ≠ [] ∧ ∀ id, r.exchange.transport.held s id =
        c.receiver.exchange.transport.held s id + [t.message.id].count id) :
    ({ c with receiver := r, deeds := c.deeds ++ ds.map fun d => (number, d) } :
      Chronicle τ).Sound s p := by
  obtain ⟨member, same⟩ := Receiver.task?_mem found
  have numbers : r.tasks.map (·.number) = c.receiver.tasks.map (·.number) := by
    rw [tasks]
    exact map_setPhase c.receiver number phase (·.number) fun _ _ => rfl
  refine ⟨source ▸ sound.source, sorted, ?_, ?_, ?_, ?_, sound.handled, ?_⟩
  · intro q known
    have listed : q.number ∈ c.receiver.tasks.map (·.number) := by
      rw [← numbers]
      exact List.mem_map_of_mem known
    obtain ⟨old, member, equal⟩ := List.mem_map.1 listed
    simp only [nextTask, ← equal]
    exact sound.fresh old member
  · simp only [numbers]
    exact sound.apart
  · intro n above
    simp only [nextTask] at above
    have other : n ≠ number := by
      have below := sound.fresh t member
      omega
    rw [deedsOf_append, if_neg other]
    exact sound.unwritten n above
  · intro q known
    simp only [tasks] at known
    rw [deedsOf_append]
    rcases mem_setPhase known with ⟨equal, old, listed, mine, rfl⟩ | ⟨other, listed⟩
    · have one : old = t := eq_of_number sound.apart listed member (mine.trans same.symm)
      rw [if_pos equal, one]
      exact orderly
    · rw [if_neg other]
      exact sound.orderly q listed
  · intro id
    have before := sound.counted id
    unfold census at before ⊢
    let longer : Chronicle τ :=
      { c with receiver := r, deeds := c.deeds ++ ds.map fun d => (number, d) }
    change r.exchange.transport.held s id +
        ((r.tasks.filter longer.isIdle).map (·.message.id)).count id +
        (c.idsAt s .settled).count id = (c.incoming s).count id
    rw [inFlight_setPhase tasks fun _ _ => rfl]
    -- Where the task sent its message, the copy is held elsewhere and the task is idle no longer.
    rcases balance with ⟨still, held⟩ | ⟨idle, gone, held⟩
    · have unchanged : c.receiver.tasks.filter longer.isIdle = c.receiver.tasks.filter c.isIdle := by
        apply List.filter_congr
        intro q _
        rw [isIdle_append, still]
        simp
      rw [unchanged, held]
      exact before
    · have now : longer.isIdle t = false := by
        rw [isIdle_append, same]
        simp [gone]
      have others : ∀ q ∈ c.receiver.tasks, q.number ≠ t.number →
          longer.isIdle q = c.isIdle q := by
        intro q _ other
        rw [isIdle_append, ← same]
        simp [other]
      have fewer := count_tasks sound.apart member c.isIdle longer.isIdle idle now others id
      rw [held]
      change _ + ((c.receiver.tasks.filter c.isIdle).map (·.message.id)).count id + _ = _ at before
      omega

theorem sound_settler (orderly : ∀ m, (p.pipeline.process m).conducts (Request.Orderly s m.id)
      (ProcessEnds p.pipeline.stageNames) [])
    (sound : c.Sound s p) (here : p.pipeline.address = s.address) (number : Nat) :
    (c.move p (.settler number)).Sound s p := by
  obtain ⟨poll, source⟩ := sound.source
  have effect := Receiver.effect_settlerTurn (p := p) source number
  unfold move
  simp only
  generalize (c.receiver.settlerTurn p number).receiver = r at effect ⊢
  -- What is counted moves from a task to its mailbox or to what is settled, or stays.
  cases effect with
  | kept unsettled kept =>
    rw [handledBy_unsettled c number unsettled, List.append_nil]
    exact sound.of_kept kept
  | @started t time found fresh kept =>
    have none : c.handledBy number = [] := by
      refine handledBy_unsettled c number fun other n found' settled => ?_
      cases found.symm.trans found'
      cases fresh.symm.trans settled
    have unwritten : c.deedsOf number = [] := by
      obtain ⟨member, same⟩ := Receiver.task?_mem found
      have phase := sound.orderly t member
      unfold Task.Orderly at phase
      rw [fresh, same] at phase
      exact phase
    have nothing : (tally []).sent = [] := rfl
    have begun := sound.advanced found kept.tasks kept.nextTask kept.source
      (sound.sorted.of_same kept.goods.labels kept.goods.next)
      (by rw [unwritten]; exact orderly t.message) (.inl ⟨nothing, kept.goods.held s⟩)
    rw [none, List.append_nil]
    rw [List.map_nil, List.append_nil] at begun
    exact begun
  | completed found settled goods closed => exact sound_completed sound found settled goods closed
  | abandoned found failed unsettled pushed closed =>
    exact sound_abandoned sound here found failed unsettled pushed closed

theorem exchange_answer (h : Host τ) (w : World (Exchange × τ)) {r : Request}
    (other : ∀ op, r ≠ .dispatch op) :
    (h.onExchange.answer w r).2.1.outside.1 = w.outside.1 := by
  cases r with
  | dispatch op => exact absurd rfl (other op)
  | consult policy q => cases policy <;> rfl
  | _ => rfl

theorem unsent_deed {r : Request} (other : ∀ op, r ≠ .dispatch op) (a : r.Answer) :
    (tally (r.deed? a).toList).sent = [] := by
  cases r with
  | dispatch op => exact absurd rfl (other op)
  | _ => rfl

theorem sound_worker (sound : c.Sound s p) (number time : Nat) :
    (c.move p (.worker number time)).Sound s p := by
  unfold move
  simp only
  by_cases working : ∃ t rest due, c.receiver.task? number = some t ∧ t.phase = .processing rest due
  · obtain ⟨t, rest, due, found, processing⟩ := working
    obtain ⟨member, same⟩ := Receiver.task?_mem found
    have orderly := sound.orderly t member
    unfold Task.Orderly at orderly
    rw [processing, same] at orderly
    have nothing : (tally []).sent = [] := rfl
    cases rest with
    | done result =>
      rw [Receiver.serve_done p time found processing]
      exact sound.advanced found rfl rfl rfl sound.sorted (by rw [List.append_nil]; exact orderly)
        (.inl ⟨nothing, fun _ => rfl⟩)
    | panicked text =>
      rw [Receiver.serve_panicked p time found processing]
      exact sound.advanced found rfl rfl rfl sound.sorted (by rw [List.append_nil]; exact orderly)
        (.inl ⟨nothing, fun _ => rfl⟩)
    | ask request next =>
      rw [Receiver.serve_ask p time found processing]
      obtain ⟨permitted, later⟩ := orderly
      by_cases dispatches : ∃ op, request = .dispatch op
      · obtain ⟨op, rfl⟩ := dispatches
        obtain ⟨unsent, mine, kind⟩ := permitted
        obtain ⟨sorted, held⟩ := Exchange.held_dispatch sound.sorted kind
        refine sound.advanced found rfl rfl rfl sorted (later _) ?_
        change (tally [.dispatched op (c.receiver.exchange.dispatch op).1.failure]).sent = [] ∧
            (∀ id, (c.receiver.exchange.dispatch op).2.transport.held s id = _) ∨ _ ∧
          (tally [.dispatched op (c.receiver.exchange.dispatch op).1.failure]).sent ≠ [] ∧
            ∀ id, (c.receiver.exchange.dispatch op).2.transport.held s id = _
        cases refused : (c.receiver.exchange.dispatch op).1.failure with
        | some failure =>
          rw [refused] at held
          refine .inl ⟨rfl, fun id => ?_⟩
          rw [held]
        | none =>
          rw [refused] at held
          have idle : c.isIdle t = true := by
            unfold isIdle
            rw [same, unsent]
            rfl
          refine .inr ⟨idle, by simp [Deed.tally], fun id => ?_⟩
          rw [held, mine]
      · have other : ∀ op, request ≠ .dispatch op := fun op h => dispatches ⟨op, h⟩
        have still := exchange_answer p.host ⟨c.receiver.table, c.receiver.exchange,
          c.receiver.host⟩ other
        have same : (c.receiver.answered p number request next time).exchange =
            c.receiver.exchange := still
        refine sound.advanced found rfl rfl rfl ?_ (later _) (.inl ⟨unsent_deed other _, ?_⟩)
        · rw [same]
          exact sound.sorted
        · intro id
          rw [same]
  · have idle := Receiver.serve_idle p c.receiver number time
      fun t found rest due processing => working ⟨t, rest, due, found, processing⟩
    rw [idle, List.map_nil, List.append_nil]
    exact sound

theorem Sound.move (orderly : ∀ m, (p.pipeline.process m).conducts (Request.Orderly s m.id)
      (ProcessEnds p.pipeline.stageNames) [])
    (here : p.pipeline.address = s.address) (sound : c.Sound s p) (next : Move) :
    (c.move p next).Sound s p := by
  cases next with
  | loop => exact sound_loop sound here
  | settler number => exact sound_settler orderly sound here number
  | worker number time => exact sound_worker sound number time
  | courier number => exact sound_courier sound number
  | send address m => exact sound_send sound address m
  | unavailable address value =>
    exact sound.of_kept ⟨Transport.unmoved_setUnavailable _ address value, rfl, rfl, rfl⟩
  | signal signal =>
    have changed : c.receiver.Kept { c.receiver with signal } := ⟨.refl _, rfl, rfl, rfl⟩
    exact sound.of_kept (changed.trans (Receiver.kept_wakeLoopIf _ _))
  | agenda agenda => exact sound.of_kept ⟨.refl _, rfl, rfl, rfl⟩

theorem Sound.after (orderly : ∀ m, (p.pipeline.process m).conducts (Request.Orderly s m.id)
      (ProcessEnds p.pipeline.stageNames) [])
    (here : p.pipeline.address = s.address) (sound : c.Sound s p) (moves : List Move) :
    (c.after p moves).Sound s p := by
  induction moves generalizing c with
  | nil => exact sound
  | cons next moves ih => exact ih (sound.move orderly here next)

/-- What there is of a message that was sent once is in one place. -/
theorem place_of_census {id : String} (once : c.census s id = 1) :
    ∃ place, (c.idsAt s place).count id = 1 ∧ ∀ other, other ≠ place → id ∉ c.idsAt s other := by
  have total : (c.idsAt s .waiting).count id + (c.idsAt s .delayed).count id +
      (c.idsAt s .errorQueue).count id + (c.idsAt s .inFlight).count id +
      (c.idsAt s .settled).count id = 1 := once
  have single : ∃ place, (c.idsAt s place).count id = 1 := by
    by_contra none
    have waiting := mt (Exists.intro Place.waiting) none
    have delayed := mt (Exists.intro Place.delayed) none
    have errorQueue := mt (Exists.intro Place.errorQueue) none
    have inFlight := mt (Exists.intro Place.inFlight) none
    have settled := mt (Exists.intro Place.settled) none
    omega
  obtain ⟨place, here⟩ := single
  refine ⟨place, here, fun other different => List.count_eq_zero.1 ?_⟩
  cases place <;> cases other <;> first | exact absurd rfl different | omega

theorem count_incoming (c : Chronicle τ) (s : Settings) (id : String) :
    (c.incoming s).count id = (((c.posted.filter (·.2.id = id)).map (·.1)).filter fun address =>
      address = s.address ∨ address = s.errorQueue).length := by
  unfold incoming
  rw [List.count, List.countP_map, List.countP_filter, ← List.countP_eq_length_filter,
    List.countP_map, List.countP_filter]
  apply List.countP_congr
  intro post _
  simp [and_comm]

end Chronicle

/-- At every moment a message that was sent once, to the endpoint, is in exactly one place, and once
there; and where it was settled in the endpoint, its handlers were all done. -/
theorem message_in_one_place {τ : Type} {s : Settings} {given : Option DelayPolicy}
    {handlers : List (Nat × String)} {p : ReceiverPlan τ}
    (built : ReceivePipeline.build s given (handlerStages handlers) = .ok p.pipeline)
    (poll : Duration) (table : FailureTable) (host : τ) (moves : List Move) {c : Chronicle τ}
    (run : (Chronicle.start p poll table host).after p moves = c) {id : String}
    (once : (c.posted.filter (·.2.id = id)).map (·.1) = [s.address]) :
    (∃ place, (c.idsAt s place).count id = 1 ∧ ∀ other, other ≠ place → id ∉ c.idsAt s other) ∧
      ∀ entry ∈ c.handled, HandledWell p.pipeline.stageNames entry.2 := by
  have sound : c.Sound s p := by
    rw [← run]
    exact (Chronicle.sound_start p poll table host s).after
      (ReceivePipeline.conducts_process built) (ReceivePipeline.address_of_build built) moves
  have single : c.census s id = 1 := by
    rw [sound.counted, Chronicle.count_incoming, once]
    simp
  exact ⟨Chronicle.place_of_census single, sound.handled⟩

namespace Cast

def stumblingPlan : ReceiverPlan CastState where
  pipeline :=
    { stages := ReceivePipeline.recoverability (.forAddress "orders") none ++
        handlerStages [(0, "Billing")]
      address := "orders" }
  host := stumbling.host
  rest := .zero
  concurrency := 1

/-- A message is sent, taken and given to the handler, while its queue cannot be reached. -/
def stumblingMoves : List Move :=
  [.send "orders" ⟨"m-1", .empty, []⟩, .loop, .loop, .loop, .unavailable "orders" true,
    .settler 0] ++ List.replicate 9 (.worker 0 0)

end Cast

theorem stumbling_message_in_one_place :
    let c := (Chronicle.start Cast.stumblingPlan .zero (.ofCapacity 1000) {}).after
      Cast.stumblingPlan Cast.stumblingMoves
    (c.posted.filter (·.2.id = "m-1")).map (·.1) = ["orders"] ∧
      (∃ place, (c.idsAt (.forAddress "orders") place).count "m-1" = 1 ∧
        ∀ other, other ≠ place → "m-1" ∉ c.idsAt (.forAddress "orders") other) ∧
      ∀ entry ∈ c.handled, HandledWell Cast.stumblingPlan.pipeline.stageNames entry.2 := by
  intro c
  have once : (c.posted.filter (·.2.id = "m-1")).map (·.1) =
      [(Settings.forAddress "orders").address] := rfl
  have built : ReceivePipeline.build (.forAddress "orders") none
      (handlerStages [(0, "Billing")]) = .ok Cast.stumblingPlan.pipeline := rfl
  exact ⟨once, message_in_one_place built .zero (.ofCapacity 1000) {} Cast.stumblingMoves rfl once⟩

end Redelivery
