import Redelivery.Exchange
import Redelivery.Proofs.Delivery.Outcome

/-! The messages that a transport holds for an endpoint: in its own mailbox, in the mailbox for
errors, and on their way to it. Each change of a transport leaves them all where they are, or moves
or adds or takes a single one. -/
namespace Redelivery

def Parcel.label (p : Parcel) : Nat × String × Incoming := (p.number, p.address, p.message)

theorem nodup_next {numbers : List Nat} {next : Nat} (distinct : numbers.Nodup)
    (below : ∀ n ∈ numbers, n < next) : (numbers ++ [next]).Nodup := by
  refine List.nodup_append.2 ⟨distinct, by simp, fun n old m new => ?_⟩
  rw [List.mem_singleton.1 new]
  exact Nat.ne_of_lt (below n old)

section keys
variable {α : Type} {l : List α} {key : α → Nat} {a : α}

theorem perm_cons_others (apart : (l.map key).Nodup) (member : a ∈ l) :
    l.Perm (a :: l.filter (key · ≠ key a)) := by
  induction l with
  | nil => cases member
  | cons b rest ih =>
    obtain ⟨fresh, apart⟩ := List.nodup_cons.1 apart
    rcases List.mem_cons.1 member with rfl | member
    · have others : rest.filter (key · ≠ key a) = rest := by
        apply List.filter_eq_self.2
        intro b known
        have different : key b ≠ key a := fun same => fresh (List.mem_map.2 ⟨b, known, same⟩)
        simpa using different
      rw [List.filter_cons_of_neg (by simp), others]
    · have different : key b ≠ key a := fun same =>
        fresh (List.mem_map.2 ⟨a, member, same.symm⟩)
      rw [List.filter_cons_of_pos (by simpa using different)]
      exact ((ih apart member).cons b).trans (.swap a b _)

theorem perm_map_at (apart : (l.map key).Nodup) (member : a ∈ l) (change : α → α) :
    (l.map fun b => if key b = key a then change b else b).Perm
      (change a :: l.filter (key · ≠ key a)) := by
  refine ((perm_cons_others apart member).map _).trans (.of_eq ?_)
  rw [List.map_cons, if_pos rfl]
  congr 1
  refine (List.map_congr_left fun b known => ?_).trans (List.map_id _)
  exact if_neg (by simpa using (List.mem_filter.1 known).2)

end keys

namespace Transport
variable {t t' : Transport} {s : Settings} {address other id : String} {m : Incoming}

def messagesAt (t : Transport) (address : String) : List Incoming := (t.mailbox address).messages

def labels (t : Transport) : List (Nat × String × Incoming) := t.parcels.map Parcel.label

theorem lookup_putMailbox (address other : String) (b : Mailbox)
    (boxes : List (String × Mailbox)) :
    (putMailbox address b boxes).lookup other =
      if other = address then some b else boxes.lookup other := by
  induction boxes with
  | nil =>
    by_cases same : other = address
    · simp [putMailbox, same]
    · have different : (other == address) = false := beq_eq_false_iff_ne.2 same
      simp [putMailbox, List.lookup_cons, same, different]
  | cons entry rest ih =>
    obtain ⟨key, old⟩ := entry
    unfold putMailbox
    by_cases found : key = address
    · subst found
      by_cases same : other = key
      · simp [same]
      · have different : (other == key) = false := beq_eq_false_iff_ne.2 same
        simp [List.lookup_cons, same, different]
    · rw [if_neg found]
      by_cases same : other = key
      · subst same
        simp [found]
      · have different : (other == key) = false := beq_eq_false_iff_ne.2 same
        simp only [List.lookup_cons, different, ih]

theorem mailbox_setMailbox (t : Transport) (address other : String) (b : Mailbox) :
    (t.setMailbox address b).mailbox other = if other = address then b else t.mailbox other := by
  unfold mailbox setMailbox
  rw [lookup_putMailbox]
  split <;> rfl

structure Unmoved (t t' : Transport) : Prop where
  messages : ∀ a, t'.messagesAt a = t.messagesAt a
  labels : t'.labels = t.labels
  next : t'.next = t.next

structure Pushed (t t' : Transport) (address : String) (m : Incoming) : Prop where
  here : t'.messagesAt address = t.messagesAt address ++ [m]
  elsewhere : ∀ a, a ≠ address → t'.messagesAt a = t.messagesAt a
  labels : t'.labels = t.labels
  next : t'.next = t.next

structure Popped (t t' : Transport) (address : String) (m : Incoming) : Prop where
  here : t.messagesAt address = m :: t'.messagesAt address
  elsewhere : ∀ a, a ≠ address → t'.messagesAt a = t.messagesAt a
  labels : t'.labels = t.labels
  next : t'.next = t.next

theorem Unmoved.refl (t : Transport) : Unmoved t t := ⟨fun _ => rfl, rfl, rfl⟩

theorem Unmoved.trans {t'' : Transport} (first : Unmoved t t') (second : Unmoved t' t'') :
    Unmoved t t'' where
  messages a := (second.messages a).trans (first.messages a)
  labels := second.labels.trans first.labels
  next := second.next.trans first.next

theorem unmoved_setMailbox {b : Mailbox} (same : b.messages = t.messagesAt address) :
    Unmoved t (t.setMailbox address b) where
  messages a := by
    unfold messagesAt
    rw [mailbox_setMailbox]
    split
    · rename_i h
      exact h ▸ same
    · rfl
  labels := rfl
  next := rfl

theorem pushed_setMailbox {b : Mailbox} (more : b.messages = t.messagesAt address ++ [m]) :
    Pushed t (t.setMailbox address b) address m where
  here := by
    unfold messagesAt at more ⊢
    rw [mailbox_setMailbox, if_pos rfl, more]
  elsewhere a different := by
    unfold messagesAt
    rw [mailbox_setMailbox, if_neg different]
  labels := rfl
  next := rfl

theorem popped_setMailbox {b : Mailbox} (fewer : t.messagesAt address = m :: b.messages) :
    Popped t (t.setMailbox address b) address m where
  here := by
    have left : (t.setMailbox address b).messagesAt address = b.messages := by
      unfold messagesAt
      rw [mailbox_setMailbox, if_pos rfl]
    rw [left, fewer]
  elsewhere a different := by
    unfold messagesAt
    rw [mailbox_setMailbox, if_neg different]
  labels := rfl
  next := rfl

theorem push_messages (b : Mailbox) (m : Incoming) : (b.push m).1.messages = b.messages ++ [m] := by
  simp only [Mailbox.push]
  split <;> rfl

theorem pushed_push (t : Transport) (address : String) (m : Incoming) :
    Pushed t (t.push address m).1 address m :=
  pushed_setMailbox (push_messages _ _)

theorem unmoved_start (t : Transport) (number : Nat) : Unmoved t (t.start number) where
  messages _ := rfl
  labels := by
    unfold labels start
    rw [List.map_map]
    apply List.map_congr_left
    intro p _
    simp only [Function.comp_apply]
    split <;> rfl
  next := rfl

theorem unmoved_setUnavailable (t : Transport) (address : String) (value : Bool) :
    Unmoved t (t.setUnavailable address value) := by
  cases value <;> exact ⟨fun _ => rfl, rfl, rfl⟩

def idsAt (t : Transport) (address : String) : List String := (t.messagesAt address).map (·.id)

def delayedIds (t : Transport) : List String := t.parcels.map (·.message.id)

/-- The ids in the mailbox for errors, if that is not the endpoint's own mailbox. -/
def forwardedIds (t : Transport) (s : Settings) : List String :=
  if s.errorQueue = s.address then [] else t.idsAt s.errorQueue

def held (t : Transport) (s : Settings) (id : String) : Nat :=
  (t.idsAt s.address).count id + t.delayedIds.count id + (t.forwardedIds s).count id

theorem delayedIds_eq (t : Transport) : t.delayedIds = t.labels.map (·.2.2.id) := by
  unfold delayedIds labels
  rw [List.map_map]
  rfl

theorem Unmoved.held (unmoved : Unmoved t t') (s : Settings) (id : String) :
    t'.held s id = t.held s id := by
  have same : ∀ a, t'.idsAt a = t.idsAt a := fun a => congrArg _ (unmoved.messages a)
  unfold Transport.held forwardedIds
  rw [delayedIds_eq, delayedIds_eq, unmoved.labels, same, same]

theorem Pushed.held (pushed : Pushed t t' address m)
    (own : address = s.address ∨ address = s.errorQueue) (id : String) :
    t'.held s id = t.held s id + [m.id].count id := by
  have more : t'.idsAt address = t.idsAt address ++ [m.id] := by
    unfold idsAt
    rw [pushed.here, List.map_append]
    rfl
  have same : ∀ a, a ≠ address → t'.idsAt a = t.idsAt a :=
    fun a different => congrArg _ (pushed.elsewhere a different)
  unfold Transport.held forwardedIds
  rw [delayedIds_eq, delayedIds_eq, pushed.labels]
  by_cases one : s.errorQueue = s.address
  · rw [one, or_self] at own
    subst own
    rw [if_pos one, if_pos one, more, List.count_append]
    omega
  · rw [if_neg one, if_neg one]
    rcases own with rfl | rfl
    · rw [more, same _ one, List.count_append]
      omega
    · rw [more, same _ (Ne.symm one), List.count_append]
      omega

theorem Pushed.held_elsewhere (pushed : Pushed t t' address m) (away : address ≠ s.address)
    (fine : address ≠ s.errorQueue) (id : String) : t'.held s id = t.held s id := by
  have same : ∀ a, a ≠ address → t'.idsAt a = t.idsAt a :=
    fun a different => congrArg _ (pushed.elsewhere a different)
  unfold Transport.held forwardedIds
  rw [delayedIds_eq, delayedIds_eq, pushed.labels, same _ (Ne.symm away), same _ (Ne.symm fine)]

theorem Popped.held (popped : Popped t t' s.address m) (id : String) :
    t.held s id = t'.held s id + [m.id].count id := by
  have fewer : t.idsAt s.address = m.id :: t'.idsAt s.address := by
    unfold idsAt
    rw [popped.here, List.map_cons]
  unfold Transport.held forwardedIds
  rw [delayedIds_eq, delayedIds_eq, popped.labels, fewer, List.count_cons, List.count_singleton]
  by_cases one : s.errorQueue = s.address
  · rw [if_pos one, if_pos one]
    omega
  · have same : t'.idsAt s.errorQueue = t.idsAt s.errorQueue :=
      congrArg _ (popped.elsewhere _ one)
    rw [if_neg one, if_neg one, same]
    omega

/-- Each parcel has a number of its own and is on its way to one address. -/
structure Sorted (t : Transport) (address : String) : Prop where
  apart : (t.labels.map (·.1)).Nodup
  below : ∀ l ∈ t.labels, l.1 < t.next
  bound : ∀ l ∈ t.labels, l.2.1 = address

theorem Sorted.of_same (sorted : Sorted t address) (labels : t'.labels = t.labels)
    (next : t'.next = t.next) : Sorted t' address where
  apart := labels ▸ sorted.apart
  below := by
    rw [labels, next]
    exact sorted.below
  bound := labels ▸ sorted.bound

theorem sorted_empty (address : String) : Sorted {} address where
  apart := List.nodup_nil
  below _ member := by cases member
  bound _ member := by cases member

structure Loaded (t t' : Transport) (address : String) (m : Incoming) : Prop where
  messages : ∀ a, t'.messagesAt a = t.messagesAt a
  labels : t'.labels = t.labels ++ [(t.next, address, m)]
  next : t'.next = t.next + 1

theorem loaded_of (t : Transport) (p : Parcel) (fresh : p.number = t.next) :
    Loaded t { t with parcels := t.parcels ++ [p], next := t.next + 1 } p.address p.message where
  messages _ := rfl
  labels := by
    unfold labels
    rw [List.map_append, ← fresh]
    rfl
  next := rfl

theorem Loaded.sorted (loaded : Loaded t t' other m) (sorted : Sorted t address)
    (here : other = address) : Sorted t' address where
  apart := by
    rw [loaded.labels, List.map_append]
    refine nodup_next sorted.apart fun number old => ?_
    obtain ⟨l, member, rfl⟩ := List.mem_map.1 old
    exact sorted.below l member
  below := by
    intro l member
    rw [loaded.labels] at member
    rw [loaded.next]
    rcases List.mem_append.1 member with member | member
    · have below := sorted.below l member
      omega
    · cases List.mem_singleton.1 member
      exact Nat.lt_succ_self t.next
  bound := by
    intro l member
    rw [loaded.labels] at member
    rcases List.mem_append.1 member with member | member
    · exact sorted.bound l member
    · cases List.mem_singleton.1 member
      exact here

theorem Loaded.held (loaded : Loaded t t' address m) (s : Settings) (id : String) :
    t'.held s id = t.held s id + [m.id].count id := by
  have same : ∀ a, t'.idsAt a = t.idsAt a := fun a => congrArg _ (loaded.messages a)
  unfold Transport.held forwardedIds
  rw [delayedIds_eq, delayedIds_eq, loaded.labels, List.map_append, List.count_append, same, same]
  simp only [List.map_cons, List.map_nil]
  omega

/-- A dispatch for an endpoint fails and changes nothing, or it adds its message. -/
theorem held_post (sorted : Sorted t s.address) {op : Operation}
    (kind : op.IsDelayedCopy s ∨ op.IsForward s) :
    Sorted (t.post op).1 s.address ∧
      match (t.post op).2 with
      | .refused _ => (t.post op).1 = t
      | _ => ∀ id, (t.post op).1.held s id = t.held s id + [op.message.id].count id := by
  simp only [post]
  split
  · split
    · have pushed := pushed_push t op.destination op.message.toIncoming
      have own : op.destination = s.address ∨ op.destination = s.errorQueue :=
        kind.imp (·.1) (·.1)
      exact ⟨sorted.of_same pushed.labels pushed.next, pushed.held own⟩
    · rename_i waits
      rcases kind with ⟨here, -⟩ | ⟨-, delays⟩
      · have loaded := loaded_of t
          ⟨t.next, op.destination, op.message.toIncoming, op.wait, false⟩ rfl
        exact ⟨loaded.sorted sorted here, loaded.held s⟩
      · exfalso
        apply waits
        unfold Operation.wait
        rw [delays]
        rfl
  · exact ⟨sorted, rfl⟩

theorem parcel?_label {number : Nat} {p : Parcel} (found : t.parcel? number = some p) :
    p ∈ t.parcels ∧ p.number = number := by
  unfold parcel? at found
  exact ⟨List.mem_of_find?_eq_some found, by simpa using List.find?_some found⟩

theorem count_delivered {parcels : List Parcel} {p : Parcel}
    (apart : (parcels.map (·.number)).Nodup) (member : p ∈ parcels) (id : String) :
    (parcels.map (·.message.id)).count id =
      ((parcels.filter (·.number ≠ p.number)).map (·.message.id)).count id +
        [p.message.id].count id := by
  have split := ((perm_cons_others apart member).map (·.message.id)).count_eq id
  rw [split, List.map_cons, List.count_cons, List.count_singleton]

def without (t : Transport) (p : Parcel) : Transport :=
  { t with parcels := t.parcels.filter (·.number ≠ p.number) }

theorem pushed_deliver (t : Transport) (p : Parcel) :
    Pushed (t.without p) (t.deliver p).1 p.address p.message := pushed_push (t.without p) _ _

theorem Sorted.apart_parcels (sorted : Sorted t address) : (t.parcels.map (·.number)).Nodup := by
  have apart := sorted.apart
  unfold labels at apart
  rwa [List.map_map] at apart

theorem Sorted.deliver (sorted : Sorted t address) (p : Parcel) :
    Sorted (t.deliver p).1 address := by
  have kept : (t.without p).labels.Sublist t.labels := List.filter_sublist.map _
  have rest : Sorted (t.without p) address := ⟨sorted.apart.sublist (kept.map _),
    fun l member => sorted.below l (kept.subset member),
    fun l member => sorted.bound l (kept.subset member)⟩
  exact rest.of_same (t.pushed_deliver p).labels (t.pushed_deliver p).next

theorem held_deliver (sorted : Sorted t s.address) {p : Parcel} (member : p ∈ t.parcels) :
    Sorted (t.deliver p).1 s.address ∧ ∀ id, (t.deliver p).1.held s id = t.held s id := by
  have here : p.address = s.address := sorted.bound p.label (List.mem_map_of_mem member)
  refine ⟨sorted.deliver p, fun id => ?_⟩
  have arrived := (t.pushed_deliver p).held (.inl here) id
  have left : (t.parcels.map (·.message.id)).count id =
      ((t.without p).parcels.map (·.message.id)).count id + [p.message.id].count id :=
    count_delivered sorted.apart_parcels member id
  have split : t.held s id = (t.without p).held s id + [p.message.id].count id := by
    change (t.idsAt s.address).count id + (t.parcels.map (·.message.id)).count id +
        (t.forwardedIds s).count id =
      (t.idsAt s.address).count id + ((t.without p).parcels.map (·.message.id)).count id +
        (t.forwardedIds s).count id + [p.message.id].count id
    rw [left]
    omega
  omega

end Transport
end Redelivery
