import Redelivery.Demo.Endpoint
import Redelivery.Proofs.Delivery.Handlers

/-! What one attempt of the demo's handler does to its books. An attempt that can be counted is
counted for its message alone and fails as long as the order says; an unreadable body, or an
attempt too many to be counted, leaves the books as they are. -/
namespace Redelivery.Demo

def Order.failuresIn (body : Bytes) : Option Nat := (ofBody body).toOption.map (·.failures)

theorem failures_orders : orders.map (·.failures) = failurePlan := rfl

theorem failuresIn_order : ∀ order ∈ orders, Order.failuresIn order.body = some order.failures := by
  decide +kernel

theorem failuresIn_malformed : Order.failuresIn malformed = none := by decide +kernel

theorem failures_le : ∀ order ∈ orders, order.failures ≤ Whole.max32 := by decide +kernel

def StockRoom.tried (room : StockRoom) (id : String) : Nat := (room.attempts.lookup id).getD 0

section books
variable (id other : String) (attempts : List (String × Nat))

theorem countAttempt_attempt :
    (StockRoom.countAttempt id attempts).1 = (attempts.lookup id).getD 0 + 1 := by
  induction attempts with
  | nil => rfl
  | cons entry rest ih =>
    obtain ⟨known, n⟩ := entry
    rw [StockRoom.countAttempt]
    by_cases same : known = id
    · subst same
      simp
    · have different : (id == known) = false := beq_eq_false_iff_ne.2 (Ne.symm same)
      simp only [if_neg same, List.lookup_cons, different, ih]

theorem lookup_countAttempt :
    ((StockRoom.countAttempt id attempts).2.lookup other).getD 0 =
      (attempts.lookup other).getD 0 + if other = id then 1 else 0 := by
  induction attempts with
  | nil =>
    by_cases same : other = id
    · subst same
      simp [StockRoom.countAttempt]
    · have different : (other == id) = false := beq_eq_false_iff_ne.2 same
      simp [StockRoom.countAttempt, List.lookup_cons, same, different]
  | cons entry rest ih =>
    obtain ⟨known, n⟩ := entry
    rw [StockRoom.countAttempt]
    by_cases found : known = id
    · subst found
      by_cases same : other = known
      · subst same
        simp
      · have different : (other == known) = false := beq_eq_false_iff_ne.2 same
        simp [List.lookup_cons, same, different]
    · by_cases here : other = known
      · subst here
        simp [if_neg found]
      · have different : (other == known) = false := beq_eq_false_iff_ne.2 here
        simp only [if_neg found, List.lookup_cons, different, ih]

end books

/-- The office after some attempts at a message, with so many more reserved and so many more in
the error queue. -/
structure Office.Advanced (id : String) (tries reserved faulted : Nat) (o o' : Office) : Prop where
  tried : o'.room.tried id = o.room.tried id + tries
  others : ∀ other, other ≠ id → o'.room.tried other = o.room.tried other
  reserved : o'.room.reserved = o.room.reserved + reserved
  faulted : o'.faulted = o.faulted + faulted

namespace Office.Advanced
variable {id : String} {a b r r' f f' : Nat} {o o' o'' : Office}

theorem refl (id : String) (o : Office) : Advanced id 0 0 0 o o := ⟨rfl, fun _ _ => rfl, rfl, rfl⟩

theorem trans (first : Advanced id a r f o o') (later : Advanced id b r' f' o' o'') :
    Advanced id (a + b) (r + r') (f + f') o o'' where
  tried := by rw [later.tried, first.tried, Nat.add_assoc]
  others other different := (later.others other different).trans (first.others other different)
  reserved := by rw [later.reserved, first.reserved, Nat.add_assoc]
  faulted := by rw [later.faulted, first.faulted, Nat.add_assoc]

end Office.Advanced

def outside (clock : Clock) : Outside (Exchange × Office) := (host clock).onExchange

def handlers : List (Nat × String) := [(0, StockRoom.handlerName)]

section attempt
variable {clock : Clock} {m : Incoming} {st : Exchange × Office} {failures : Nat}

inductive Attempts (m : Incoming) (st : Exchange × Office) :
    Handled (Exchange × Office) → Prop where
  | reserved {failures st' ds} (read : Order.failuresIn m.body = some failures)
      (counted : st.2.room.tried m.id < Whole.max32) (enough : failures ≤ st.2.room.tried m.id)
      (exchange : st'.1 = st.1) (office : Office.Advanced m.id 1 1 0 st.2 st'.2) :
      Attempts m st ⟨m, .done, st', ds⟩
  | unavailable {failures failure st' ds} (read : Order.failuresIn m.body = some failures)
      (counted : st.2.room.tried m.id < Whole.max32) (early : st.2.room.tried m.id < failures)
      (retryable : failure.isRetryable = true) (exchange : st'.1 = st.1)
      (office : Office.Advanced m.id 1 0 0 st.2 st'.2) :
      Attempts m st ⟨m, .failed failure, st', ds⟩
  | uncounted {failures text ds} (read : Order.failuresIn m.body = some failures)
      (full : Whole.max32 ≤ st.2.room.tried m.id) : Attempts m st ⟨m, .panicked text, st, ds⟩
  | unreadable {reason ds} (broken : Order.failuresIn m.body = none) :
      Attempts m st ⟨m, .failed (.deserialization m.id reason), st, ds⟩

theorem advanced_of_counted {room : StockRoom} {failures : Nat}
    (counted : room.attempts = (StockRoom.countAttempt m.id st.2.room.attempts).2)
    (reserved : room.reserved = st.2.room.reserved + failures) :
    Office.Advanced m.id 1 failures 0 st.2 { st.2 with room } where
  tried := by
    have more := lookup_countAttempt m.id m.id st.2.room.attempts
    rw [if_pos rfl, ← counted] at more
    exact more
  others other different := by
    have same := lookup_countAttempt m.id other st.2.room.attempts
    rw [if_neg different, ← counted] at same
    exact same
  reserved := reserved
  faulted := rfl

theorem attempts_handleAll (clock : Clock) (m : Incoming) (st : Exchange × Office) :
    Attempts m st ((outside clock).handleAll handlers m st) := by
  have attempt := countAttempt_attempt m.id st.2.room.attempts
  simp only [handlers, Outside.handleAll, outside, Host.onExchange, host, StockRoom.handle]
  cases read : Order.ofBody m.body with
  | error fault =>
    have broken : Order.failuresIn m.body = none := by
      rw [Order.failuresIn, read]
      rfl
    exact .unreadable broken
  | ok order =>
    have here : Order.failuresIn m.body = some order.failures := by
      rw [Order.failuresIn, read]
      rfl
    by_cases full : Whole.max32 < (StockRoom.countAttempt m.id st.2.room.attempts).1
    · simp only [if_pos full]
      rw [attempt] at full
      exact .uncounted here (Nat.le_of_lt_succ full)
    · have counted : st.2.room.tried m.id < Whole.max32 := by
        rw [attempt] at full
        exact Nat.lt_of_not_le fun h => full (Nat.lt_succ_of_le h)
      by_cases early : (StockRoom.countAttempt m.id st.2.room.attempts).1 ≤ order.failures
      · simp only [if_neg full, if_pos early]
        rw [attempt] at early
        exact .unavailable here counted early rfl rfl (advanced_of_counted rfl rfl)
      · simp only [if_neg full, if_neg early]
        rw [attempt] at early
        exact .reserved here counted (Nat.le_of_lt_succ (Nat.lt_of_not_le early)) rfl
          (advanced_of_counted rfl rfl)

theorem exists_attempt (clock : Clock) (m : Incoming) (st : Exchange × Office) :
    ∃ r, (outside clock).handleAll handlers m st = r ∧ Attempts m st r :=
  ⟨_, rfl, attempts_handleAll clock m st⟩

end attempt
end Redelivery.Demo
