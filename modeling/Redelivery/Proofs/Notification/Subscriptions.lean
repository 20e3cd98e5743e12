import Mathlib.Data.List.Basic
import Redelivery.Notification.Bus

/-! Who is called with the notifications on a bus. A clone goes back to the bus it was made from,
and through it to a bus that was created. Whoever joins one of the buses that go back to the same
one is a member of all of them. A notification calls those who are members when it is raised, in
the order in which they joined; whoever joins during its calls is called from the next one on. -/
namespace Redelivery.Buses
variable {κ σ : Type}

/-- The buses after one more step, each given as the created bus that it goes back to. -/
def descend (founders : List Nat) : Step κ → List Nat
  | .create => founders ++ [founders.length]
  | .clone bus => founders ++ (founders[bus]?).toList
  | .subscribe .. => founders
  | .raise .. => founders

/-- The created bus that each bus goes back to. -/
def founders (steps : List (Step κ)) : List Nat := steps.foldl descend [0]

def Kin (founders : List Nat) (bus other : Nat) : Prop :=
  bus < founders.length ∧ founders[bus]? = founders[other]?

instance (founders : List Nat) (bus other : Nat) : Decidable (Kin founders bus other) :=
  inferInstanceAs (Decidable (_ ∧ _))

def enrolled (founders : List Nat) (bus : Nat) (newcomers : List (Nat × κ)) : List κ :=
  (newcomers.filter fun newcomer => Kin founders newcomer.1 bus).map (·.2)

def brought (call : Callback κ σ) (n : Notification) : List κ → σ → List (Nat × κ)
  | [], _ => []
  | subscriber :: rest, shared =>
    let (newcomers, shared) := call subscriber n shared
    newcomers ++ brought call n rest shared

/-- Who comes onto which bus in a step, given the members of each bus. -/
def arrivals (call : Callback κ σ) (members : Nat → List κ) (shared : σ) :
    Step κ → List (Nat × κ)
  | .create => []
  | .clone _ => []
  | .subscribe bus subscriber => [(bus, subscriber)]
  | .raise bus n => brought call n (members bus) shared

/-- Who is called with what in a step, given the members of each bus. -/
def told (members : Nat → List κ) : Step κ → List (κ × Notification)
  | .create => []
  | .clone _ => []
  | .subscribe .. => []
  | .raise bus n => (members bus).map (·, n)

def run (call : Callback κ σ) (shared : σ) (steps : List (Step κ)) : Buses κ σ :=
  steps.foldl (step call) { shared }

/-- Who joined a bus or its kin in some steps, in the order of joining. -/
def members (call : Callback κ σ) (shared : σ) (steps : List (Step κ)) (bus : Nat) : List κ :=
  enrolled (founders steps) bus (run call shared steps).joins

section kin
variable {founders more : List Nat} {bus other third : Nat} {joins : List (Nat × κ)}

theorem Kin.bound (kin : Kin founders bus other) : other < founders.length := by
  obtain ⟨bound, same⟩ := kin
  rw [List.getElem?_eq_getElem bound] at same
  exact (List.getElem?_eq_some_iff.1 same.symm).1

theorem Kin.iff_kin (kin : Kin founders bus other) :
    Kin founders third bus ↔ Kin founders third other := by
  rw [Kin, Kin, kin.2]

theorem kin_append (bound : bus < founders.length) (bound' : other < founders.length) :
    Kin (founders ++ more) bus other ↔ Kin founders bus other := by
  rw [Kin, Kin, List.getElem?_append_left bound, List.getElem?_append_left bound',
    List.length_append]
  exact and_congr_left fun _ => ⟨fun _ => bound, fun _ => by omega⟩

theorem enrolled_append (founders : List Nat) (bus : Nat) (joins later : List (Nat × κ)) :
    enrolled founders bus (joins ++ later) =
      enrolled founders bus joins ++ enrolled founders bus later := by
  rw [enrolled, List.filter_append, List.map_append]
  rfl

theorem enrolled_kin (kin : Kin founders bus other) (joins : List (Nat × κ)) :
    enrolled founders bus joins = enrolled founders other joins := by
  refine congrArg (List.map Prod.snd) (List.filter_congr fun join _ => ?_)
  exact decide_eq_decide.2 kin.iff_kin

theorem enrolled_strangers (strangers : ∀ join ∈ joins, ¬Kin founders join.1 bus) :
    enrolled founders bus joins = [] := by
  rw [enrolled, List.map_eq_nil_iff, List.filter_eq_nil_iff]
  exact fun join mem kin => strangers join mem (of_decide_eq_true kin)

theorem enrolled_one (kin : Kin founders bus other) (newcomer : κ) :
    enrolled founders other [(bus, newcomer)] = [newcomer] := by
  simp [enrolled, kin]

theorem enrolled_stranger {newcomer : κ} (stranger : ¬Kin founders bus other) :
    enrolled founders other [(bus, newcomer)] = [] :=
  enrolled_strangers (List.forall_mem_singleton.2 stranger)

def Known (founders : List Nat) (joins : List (Nat × κ)) : Prop :=
  ∀ join ∈ joins, join.1 < founders.length

theorem Known.enrolled (known : Known founders joins) (bound : bus < founders.length) :
    enrolled (founders ++ more) bus joins = enrolled founders bus joins := by
  refine congrArg (List.map Prod.snd) (List.filter_congr fun join mem => ?_)
  exact decide_eq_decide.2 (kin_append (known join mem) bound)

theorem Known.append (known : Known founders joins) : Known (founders ++ more) joins := by
  intro join mem
  rw [List.length_append]
  exact Nat.lt_add_right _ (known join mem)

end kin

section steps
variable {fs : List Nat} {b : Buses κ σ} {call : Callback κ σ} {n : Notification}

/-- Two handles are on one channel if their buses go back to the same one, and on the channel of
a bus are those who joined it or its kin, in order. -/
structure Kept (fs : List Nat) (b : Buses κ σ) : Prop where
  length : b.handles.length = fs.length
  older : ∀ f ∈ fs, f < fs.length
  aligned : ∀ bus other : Nat, fs[bus]? = fs[other]? ↔ b.handles[bus]? = b.handles[other]?
  filled : ∀ bus channel : Nat, b.handles[bus]? = some channel →
    b.channels[channel]? = some (enrolled fs bus b.joins)
  known : Known fs b.joins

theorem Kept.missing (kept : Kept fs b) {bus : Nat} (found : b.handles[bus]? = none) :
    ¬bus < fs.length := by
  rw [← kept.length]
  exact Nat.not_lt.2 (List.getElem?_eq_none_iff.1 found)

theorem Kept.subscribers (kept : Kept fs b) (bus : Nat) :
    b.subscribers bus = enrolled fs bus b.joins := by
  cases found : b.handles[bus]? with
  | some channel =>
    rw [Buses.subscribers, found, Option.bind_some, kept.filled bus channel found, Option.getD_some]
  | none =>
    rw [Buses.subscribers, found, enrolled_strangers fun _ _ kin => kept.missing found kin.bound]
    rfl

theorem Kept.start (shared : σ) : Kept [0] ({ shared } : Buses κ σ) where
  length := rfl
  older := by simp
  aligned _ _ := Iff.rfl
  filled bus channel found := by
    obtain ⟨bound, rfl⟩ := List.getElem?_eq_some_iff.1 found
    cases Nat.lt_one_iff.1 bound
    rfl
  known _ mem := by cases mem

structure Leads (fs : List Nat) (b b' : Buses κ σ) (newcomers : List (Nat × κ))
    (told : List (κ × Notification)) : Prop where
  kept : Kept fs b'
  grown : b.joins <+: b'.joins
  joined : ∀ bus, enrolled fs bus b'.joins =
    enrolled fs bus b.joins ++ enrolled fs bus newcomers
  called : b'.calls = b.calls ++ told

theorem Leads.refl (kept : Kept fs b) : Leads fs b b [] [] :=
  ⟨kept, List.prefix_rfl, fun _ => (List.append_nil _).symm, (List.append_nil _).symm⟩

theorem Leads.trans {b' b'' : Buses κ σ} {newcomers newcomers' : List (Nat × κ)}
    {told told' : List (κ × Notification)} (first : Leads fs b b' newcomers told)
    (next : Leads fs b' b'' newcomers' told') :
    Leads fs b b'' (newcomers ++ newcomers') (told ++ told') where
  kept := next.kept
  grown := first.grown.trans next.grown
  joined bus := by rw [next.joined, first.joined, enrolled_append, List.append_assoc]
  called := by rw [next.called, first.called, List.append_assoc]

theorem Kept.leads_join (kept : Kept fs b) (bus : Nat) (newcomer : κ) :
    Leads fs b (b.join bus newcomer) [(bus, newcomer)] [] := by
  cases found : b.handles[bus]? with
  | none =>
    rw [Buses.join, found]
    refine ⟨kept, List.prefix_rfl, fun other => ?_, (List.append_nil _).symm⟩
    rw [enrolled_stranger fun kin => kept.missing found kin.1, List.append_nil]
  | some channel =>
    have bound : bus < fs.length := kept.length ▸ (List.getElem?_eq_some_iff.1 found).1
    rw [Buses.join, found]
    refine ⟨⟨kept.length, kept.older, kept.aligned, fun other into found' => ?_, ?_⟩,
      List.prefix_append .., fun other => enrolled_append .., (List.append_nil _).symm⟩
    · rw [List.getElem?_modify, kept.filled other into found', enrolled_append]
      by_cases same : channel = into
      · have kin : Kin fs bus other := by
          refine ⟨bound, (kept.aligned bus other).2 ?_⟩
          rw [found, found', same]
        rw [Option.map_eq_map, Option.map_some, if_pos same, enrolled_one kin]
      · have strangers : ¬Kin fs bus other := fun kin => by
          have aligned := (kept.aligned bus other).1 kin.2
          rw [found, found'] at aligned
          exact same (Option.some.inj aligned)
        rw [Option.map_eq_map, Option.map_some, if_neg same, enrolled_stranger strangers]
        exact congrArg some (List.append_nil _).symm
    · intro join mem
      rcases List.mem_append.1 mem with mem | mem
      · exact kept.known join mem
      · cases List.mem_singleton.1 mem
        exact bound

theorem shared_join (b : Buses κ σ) (bus : Nat) (newcomer : κ) :
    (b.join bus newcomer).shared = b.shared := by
  rw [join]
  split <;> rfl

theorem Kept.leads_joinAll (kept : Kept fs b) (newcomers : List (Nat × κ)) :
    Leads fs b (b.joinAll newcomers) newcomers [] := by
  induction newcomers generalizing b with
  | nil => exact .refl kept
  | cons newcomer rest ih =>
    have first := kept.leads_join newcomer.1 newcomer.2
    exact first.trans (ih first.kept)

theorem shared_joinAll (b : Buses κ σ) (newcomers : List (Nat × κ)) :
    (b.joinAll newcomers).shared = b.shared := by
  induction newcomers generalizing b with
  | nil => rfl
  | cons newcomer rest ih => exact (ih _).trans (shared_join ..)

theorem Kept.leads_tell (kept : Kept fs b) (call : Callback κ σ) (n : Notification)
    (subscriber : κ) :
    Leads fs b (tell call n b subscriber) (call subscriber n b.shared).1 [(subscriber, n)] := by
  have called : Leads fs b { b with
      shared := (call subscriber n b.shared).2, calls := b.calls ++ [(subscriber, n)] }
      [] [(subscriber, n)] :=
    ⟨⟨kept.length, kept.older, kept.aligned, kept.filled, kept.known⟩, List.prefix_rfl,
      fun _ => (List.append_nil _).symm, rfl⟩
  exact called.trans (called.kept.leads_joinAll _)

theorem shared_tell (call : Callback κ σ) (n : Notification) (b : Buses κ σ) (subscriber : κ) :
    (tell call n b subscriber).shared = (call subscriber n b.shared).2 :=
  shared_joinAll ..

theorem Kept.leads_tells (kept : Kept fs b) (call : Callback κ σ) (n : Notification)
    (subscribers : List κ) :
    Leads fs b (subscribers.foldl (tell call n) b) (brought call n subscribers b.shared)
      (subscribers.map (·, n)) := by
  induction subscribers generalizing b with
  | nil => exact .refl kept
  | cons subscriber rest ih =>
    have first := kept.leads_tell call n subscriber
    have next := ih first.kept
    rw [shared_tell] at next
    exact first.trans next

theorem getElem?_concat (xs : List Nat) (x i : Nat) :
    (xs ++ [x])[i]? = if i = xs.length then some x else xs[i]? := by
  rw [List.getElem?_append]
  grind

theorem aligned_concat {xs ys : List Nat} {x y : Nat} (length : ys.length = xs.length)
    (aligned : ∀ i j : Nat, xs[i]? = xs[j]? ↔ ys[i]? = ys[j]?)
    (agree : ∀ i : Nat, some x = xs[i]? ↔ some y = ys[i]?) (i j : Nat) :
    (xs ++ [x])[i]? = (xs ++ [x])[j]? ↔ (ys ++ [y])[i]? = (ys ++ [y])[j]? := by
  simp only [getElem?_concat, length]
  by_cases last : i = xs.length <;> by_cases last' : j = xs.length
  · rw [if_pos last, if_pos last', if_pos last, if_pos last']
    exact iff_of_true rfl rfl
  · rw [if_pos last, if_neg last', if_pos last, if_neg last']
    exact agree j
  · rw [if_neg last, if_pos last', if_neg last, if_pos last']
    exact eq_comm.trans ((agree i).trans eq_comm)
  · rw [if_neg last, if_neg last', if_neg last, if_neg last']
    exact aligned i j

theorem Kept.concat {f channel : Nat} {channels : List (List κ)} (kept : Kept fs b)
    (recent : f ≤ fs.length)
    (agree : ∀ i : Nat, some f = fs[i]? ↔ some channel = b.handles[i]?)
    (preserved : b.channels <+: channels)
    (filled : channels[channel]? = some (enrolled (fs ++ [f]) fs.length b.joins)) :
    Kept (fs ++ [f]) { b with channels, handles := b.handles ++ [channel] } where
  length := by rw [List.length_append, List.length_append, kept.length]; rfl
  older g mem := by
    rw [List.length_append]
    rcases List.mem_append.1 mem with mem | mem
    · exact Nat.lt_add_right _ (kept.older g mem)
    · rw [List.mem_singleton.1 mem]
      exact Nat.lt_succ_of_le recent
  aligned := aligned_concat kept.length kept.aligned agree
  filled bus into found := by
    rw [getElem?_concat, kept.length] at found
    split at found
    · cases found
      subst bus
      exact filled
    · have bound := (List.getElem?_eq_some_iff.1 found).1
      have full := kept.filled bus into found
      rw [kept.known.enrolled (kept.length ▸ bound)]
      obtain ⟨more, rfl⟩ := preserved
      rwa [List.getElem?_append_left (List.getElem?_eq_some_iff.1 full).1]
  known := kept.known.append

theorem Kept.enrolled_fresh (kept : Kept fs b) :
    enrolled (fs ++ [fs.length]) fs.length b.joins = [] := by
  refine enrolled_strangers fun join mem kin => ?_
  have same := kin.2
  rw [List.getElem?_append_left (kept.known join mem), List.getElem?_concat_length] at same
  exact Nat.lt_irrefl _ (kept.older _ (List.mem_of_getElem? same))

theorem Kept.create (kept : Kept fs b) :
    Kept (descend fs (.create : Step κ)) (b.step call .create) := by
  refine kept.concat (Nat.le_refl _) (fun i => iff_of_false (fun found => ?_) fun found => ?_)
    (List.prefix_append ..) ?_
  · exact Nat.lt_irrefl _ (kept.older _ (List.mem_of_getElem? found.symm))
  · have full := kept.filled i _ found.symm
    exact Nat.lt_irrefl _ (List.getElem?_eq_some_iff.1 full).1
  · rw [kept.enrolled_fresh, List.getElem?_concat_length]

theorem Kept.clone (kept : Kept fs b) (bus : Nat) :
    Kept (descend fs (.clone bus : Step κ)) (b.step call (.clone bus)) := by
  rw [descend, step]
  by_cases bound : bus < fs.length
  · have bound' : bus < b.handles.length := kept.length ▸ bound
    have found := List.getElem?_eq_getElem bound
    have found' := List.getElem?_eq_getElem bound'
    have kin : Kin (fs ++ [fs[bus]]) bus fs.length := by
      rw [Kin, List.getElem?_append_left bound, List.getElem?_concat_length, List.length_append]
      exact ⟨Nat.lt_add_right _ bound, found⟩
    rw [found, found']
    refine kept.concat (Nat.le_of_lt (kept.older _ (List.getElem_mem bound))) (fun i => ?_)
      List.prefix_rfl ?_
    · rw [← found, ← found']
      exact kept.aligned bus i
    · rw [← enrolled_kin kin, kept.known.enrolled bound]
      exact kept.filled bus _ found'
  · have missing : fs[bus]? = none := List.getElem?_eq_none (Nat.not_lt.1 bound)
    have missing' : b.handles[bus]? = none :=
      List.getElem?_eq_none (Nat.not_lt.1 (kept.length ▸ bound))
    rw [missing, missing', Option.toList_none, List.append_nil, List.append_nil]
    exact kept

structure Advances (call : Callback κ σ) (fs : List Nat) (b b' : Buses κ σ) (st : Step κ) :
    Prop where
  kept : Kept (descend fs st) b'
  grown : b.joins <+: b'.joins
  joined : ∀ bus < fs.length, enrolled (descend fs st) bus b'.joins =
    enrolled fs bus b.joins ++
      enrolled fs bus (arrivals call (enrolled fs · b.joins) b.shared st)
  called : b'.calls = b.calls ++ told (enrolled fs · b.joins) st

theorem Kept.step (kept : Kept fs b) (call : Callback κ σ) (st : Step κ) :
    Advances call fs b (b.step call st) st := by
  cases st with
  | create =>
    exact ⟨kept.create, List.prefix_rfl,
      fun bus bound => (kept.known.enrolled bound).trans (List.append_nil _).symm,
      (List.append_nil _).symm⟩
  | clone source =>
    exact ⟨kept.clone source, List.prefix_rfl,
      fun bus bound => (kept.known.enrolled bound).trans (List.append_nil _).symm,
      (List.append_nil _).symm⟩
  | subscribe bus subscriber =>
    have leads := kept.leads_join bus subscriber
    exact ⟨leads.kept, leads.grown, fun other _ => leads.joined other, leads.called⟩
  | raise bus n =>
    have leads := kept.leads_tells call n (b.subscribers bus)
    rw [kept.subscribers] at leads
    rw [Buses.step, kept.subscribers]
    exact ⟨leads.kept, leads.grown, fun other _ => leads.joined other, leads.called⟩

theorem descend_keeps (fs : List Nat) (st : Step κ) : fs <+: descend fs st := by
  cases st with
  | create => exact List.prefix_append ..
  | clone bus => exact List.prefix_append ..
  | subscribe bus subscriber => exact List.prefix_rfl
  | raise bus n => exact List.prefix_rfl

theorem Kept.run (kept : Kept fs b) (call : Callback κ σ) (steps : List (Step κ)) :
    Kept (steps.foldl descend fs) (steps.foldl (Buses.step call) b) ∧
      fs <+: steps.foldl descend fs ∧ b.joins <+: (steps.foldl (Buses.step call) b).joins := by
  induction steps generalizing fs b with
  | nil => exact ⟨kept, List.prefix_rfl, List.prefix_rfl⟩
  | cons st rest ih =>
    have first := kept.step call st
    obtain ⟨kept', older, grown⟩ := ih first.kept
    exact ⟨kept', (descend_keeps fs st).trans older, first.grown.trans grown⟩

end steps

section runs
variable (call : Callback κ σ) (shared : σ) (steps : List (Step κ))

theorem kept_run : Kept (founders steps) (run call shared steps) :=
  ((Kept.start shared).run call steps).1

theorem founders_append (more : List (Step κ)) :
    founders (steps ++ more) = more.foldl descend (founders steps) :=
  List.foldl_append

theorem run_append (more : List (Step κ)) :
    run call shared (steps ++ more) = more.foldl (step call) (run call shared steps) :=
  List.foldl_append

theorem advances_run (st : Step κ) :
    Advances call (founders steps) (run call shared steps)
      (run call shared (steps ++ [st])) st := by
  rw [run_append]
  exact (kept_run call shared steps).step call st

theorem members_create :
    members call shared (steps ++ [.create]) (founders steps).length = [] := by
  rw [members, founders_append, run_append]
  exact (kept_run call shared steps).enrolled_fresh

theorem members_grow (more : List (Step κ)) {bus other : Nat}
    (bound : bus < (founders steps).length) (kin : Kin (founders (steps ++ more)) bus other) :
    members call shared steps bus <+: members call shared (steps ++ more) other := by
  have kept := kept_run call shared steps
  obtain ⟨_, ⟨fs, older⟩, later, grown⟩ := kept.run call more
  rw [← founders_append] at older
  rw [← run_append] at grown
  rw [members, members, ← enrolled_kin kin, ← grown, enrolled_append, ← older,
    kept.known.enrolled bound]
  exact List.prefix_append ..

/-- A step calls the members of the bus it raises a notification on, as they were before it, in
the order in which they joined, and nobody else. Those who come onto a bus in a step, put there
or brought along by the called, become members of it and its kin, after the others, and of no
other bus. A bus has the members of its kin, a created one has none, and nobody is ever lost.
These are the subscribers that a bus shows and counts. -/
theorem members_called :
    (∀ st, (run call shared (steps ++ [st])).calls =
      (run call shared steps).calls ++ told (members call shared steps) st) ∧
    (∀ st, ∀ bus < (founders steps).length,
      members call shared (steps ++ [st]) bus = members call shared steps bus ++
        enrolled (founders steps) bus
          (arrivals call (members call shared steps) (run call shared steps).shared st)) ∧
    (∀ st, ∀ bus < (founders steps).length,
      (∀ newcomer ∈ arrivals call (members call shared steps) (run call shared steps).shared st,
        ¬Kin (founders steps) newcomer.1 bus) →
      members call shared (steps ++ [st]) bus = members call shared steps bus) ∧
    members call shared (steps ++ [.create]) (founders steps).length = [] ∧
    (∀ bus other, Kin (founders steps) bus other →
      members call shared steps bus = members call shared steps other) ∧
    (∀ more, ∀ bus < (founders steps).length, ∀ other, Kin (founders (steps ++ more)) bus other →
      members call shared steps bus <+: members call shared (steps ++ more) other) ∧
    (∀ bus, (run call shared steps).subscribers bus = members call shared steps bus) ∧
    (run call shared steps).counts =
      (List.range (founders steps).length).map fun bus =>
        (members call shared steps bus).length := by
  have kept := kept_run call shared steps
  have joined (st : Step κ) (bus : Nat) (bound : bus < (founders steps).length) :
      members call shared (steps ++ [st]) bus = members call shared steps bus ++
        enrolled (founders steps) bus
          (arrivals call (members call shared steps) (run call shared steps).shared st) := by
    rw [members, founders_append]
    exact (advances_run call shared steps st).joined bus bound
  refine ⟨fun st => (advances_run call shared steps st).called, joined,
    fun st bus bound strangers => ?_, members_create call shared steps,
    fun bus other kin => enrolled_kin kin _,
    fun more bus bound other kin => members_grow call shared steps more bound kin,
    kept.subscribers, ?_⟩
  · rw [joined st bus bound, enrolled_strangers strangers, List.append_nil]
  · rw [counts, kept.length]
    exact List.map_congr_left fun bus _ => congrArg List.length (kept.subscribers bus)

end runs

/-- A subscriber on a clone brings one along when it is called; the next notification on the bus
calls both. -/
theorem newcomer_called_next :
    let call : Callback Nat Unit := fun subscriber _ shared =>
      (if subscriber = 0 then [(0, 1)] else [], shared)
    let n := Notification.faulted (.received "1" .empty []) (.deserialization "1" "unreadable")
    let steps := [.clone 0, .create, .subscribe 1 0, .subscribe 2 2, .raise 0 n]
    (run call () steps).calls = [(0, n)] ∧
      (run call () (steps ++ [.raise 1 n])).calls = [(0, n), (0, n), (1, n)] := by
  intro call n steps
  exact ⟨rfl, (members_called call () steps).1 (.raise 1 n)⟩

end Redelivery.Buses
