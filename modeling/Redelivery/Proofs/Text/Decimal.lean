import Redelivery.Message.RetryCount

/-! Whole numbers read back from their decimal text. The text of a number starts with a digit and
holds no white space, so that a number of retries survives the way through a header. -/
namespace Redelivery
namespace Whole

theorem isDigit_digitChar {d : Nat} (small : d < 10) : isDigit (digitChar d) = true := by
  revert d
  decide

theorem digitValue_digitChar {d : Nat} (small : d < 10) : digitValue (digitChar d) = d := by
  revert d
  decide

theorem decimal_of_lt {n : Nat} (small : n < 10) : decimal n = [digitChar n] := by
  rw [decimal, if_pos small]

theorem readDigits_append (limit : Nat) (fault : Fault) (value : Nat) (a b : List Char) :
    readDigits limit fault value (a ++ b) =
      (readDigits limit fault value a).bind fun value => readDigits limit fault value b := by
  induction a generalizing value with
  | nil => rfl
  | cons c a ih =>
    simp only [List.cons_append, readDigits]
    split
    · split
      · rfl
      · exact ih _
    · rfl

theorem readDigits_decimal {limit n : Nat} (fault : Fault) (within : n ≤ limit) :
    readDigits limit fault 0 (decimal n) = .ok n := by
  induction n using decimal.induct with
  | case1 n small =>
    rw [decimal, if_pos small]
    simp only [readDigits, isDigit_digitChar small, digitValue_digitChar small]
    simp [Nat.not_lt.2 within]
  | case2 n large ih =>
    have last : n % 10 < 10 := Nat.mod_lt n (by decide)
    rw [decimal, if_neg large, readDigits_append, ih (by omega)]
    simp only [Except.bind, readDigits, isDigit_digitChar last, digitValue_digitChar last]
    have whole : 10 * (n / 10) + n % 10 = n := by omega
    simp [whole, Nat.not_lt.2 within]

theorem decimal_digits (n : Nat) : ∀ c ∈ decimal n, isDigit c = true := by
  induction n using decimal.induct with
  | case1 n small =>
    intro c member
    rw [decimal, if_pos small] at member
    rw [List.mem_singleton.1 member]
    exact isDigit_digitChar small
  | case2 n large ih =>
    intro c member
    rw [decimal, if_neg large] at member
    rcases List.mem_append.1 member with member | member
    · exact ih c member
    · rw [List.mem_singleton.1 member]
      exact isDigit_digitChar (Nat.mod_lt n (by decide))

theorem decimal_ne_nil (n : Nat) : decimal n ≠ [] := by
  rw [decimal]
  split <;> simp

theorem decimal_starts (n : Nat) : ∃ c digits, decimal n = c :: digits ∧ isDigit c = true := by
  obtain ⟨c, digits, text⟩ := List.exists_cons_of_ne_nil (decimal_ne_nil n)
  exact ⟨c, digits, text, decimal_digits n c (text ▸ List.mem_cons_self)⟩

theorem exists_decimal {n : Nat} (positive : n ≠ 0) : ∃ c digits,
    decimal n = c :: digits ∧ digitValue c ≠ 0 := by
  induction n using decimal.induct with
  | case1 n small =>
    refine ⟨digitChar n, [], decimal_of_lt small, ?_⟩
    rwa [digitValue_digitChar small]
  | case2 n large ih =>
    obtain ⟨c, digits, higher, leading⟩ := ih (by omega)
    exact ⟨c, digits ++ [digitChar (n % 10)],
      by rw [decimal, if_neg large, higher, List.cons_append], leading⟩

theorem readNat_decimal {limit n : Nat} (within : n ≤ limit) : readNat limit (decimal n) = .ok n := by
  have read := readDigits_decimal .tooLarge within
  obtain ⟨c, digits, text, digit⟩ := decimal_starts n
  have unsigned : c ≠ '+' := by
    rintro rfl
    cases digit
  rw [text] at read ⊢
  rw [readNat] <;> simp_all

end Whole

namespace Text

theorem isBlank_of_isDigit {c : Char} (digit : Whole.isDigit c = true) : isBlank c = false := by
  simp only [Whole.isDigit, Bool.and_eq_true, decide_eq_true_eq] at digit
  simp only [isBlank]
  have low : 0x20 < c.toNat := by omega
  have high : c.toNat < 0x85 := by omega
  simp
  omega

theorem trimStart_of_unblank {cs : List Char} (unblank : ∀ c ∈ cs, isBlank c = false) :
    trimStart cs = cs := by
  cases cs with
  | nil => rfl
  | cons c rest => simp [trimStart, unblank c List.mem_cons_self]

theorem trimEnd_of_unblank {cs : List Char} (unblank : ∀ c ∈ cs, isBlank c = false) :
    trimEnd cs = cs := by
  rw [trimEnd, trimStart_of_unblank (by simpa using unblank), List.reverse_reverse]

theorem trim_of_unblank {cs : List Char} (unblank : ∀ c ∈ cs, isBlank c = false) : trim cs = cs := by
  rw [trim, trimStart_of_unblank unblank, trimEnd_of_unblank unblank]

end Text

theorem readRetries_text {n : Nat} (within : n ≤ Whole.max32) :
    readRetries (Whole.text n) = .ok n := by
  have unblank := fun c member => Text.isBlank_of_isDigit (Whole.decimal_digits n c member)
  rw [readRetries, Whole.text, String.toList_ofList, Text.trim_of_unblank unblank,
    Whole.readNat_decimal within]

end Redelivery
