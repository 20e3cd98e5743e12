import Mathlib.Data.List.TakeWhile
import Redelivery.Proofs.Text.Decimal

/-! Which texts hold a number. A reader takes one or more digits, leading zeros and one plus sign
included, as far as its limit goes, and nothing else. In a header there may be white space around
them. The number of delayed retries is what such a header holds, and none for any other text. -/
namespace Redelivery
namespace Whole

def extended (n : Nat) (digits : List Char) : Nat :=
  digits.foldl (fun n c => 10 * n + digitValue c) n

/-- One or more decimal digits, and the number they denote. -/
structure Numeral (digits : List Char) (n : Nat) : Prop where
  nonempty : digits ≠ []
  decimal : ∀ c ∈ digits, isDigit c = true
  value : extended 0 digits = n

/-- A number as it may be written, with a plus sign or without. -/
inductive Spells : List Char → Nat → Prop where
  | plain {digits : List Char} {n : Nat} (numeral : Numeral digits n) : Spells digits n
  | plus {digits : List Char} {n : Nat} (numeral : Numeral digits n) : Spells ('+' :: digits) n

theorem le_extended (n : Nat) (digits : List Char) : n ≤ extended n digits := by
  induction digits generalizing n with
  | nil => exact Nat.le_refl n
  | cons c rest ih =>
    have grown : n ≤ 10 * n + digitValue c := by omega
    exact Nat.le_trans grown (ih _)

theorem readDigits_eq_ok {limit value n : Nat} (fault : Fault) (within : value ≤ limit)
    (cs : List Char) :
    readDigits limit fault value cs = .ok n ↔
      (∀ c ∈ cs, isDigit c = true) ∧ extended value cs = n ∧ n ≤ limit := by
  induction cs generalizing value with
  | nil =>
    simp only [readDigits, extended, List.foldl_nil, Except.ok.injEq, List.not_mem_nil,
      false_implies, implies_true, true_and]
    exact ⟨fun same => ⟨same, same ▸ within⟩, And.left⟩
  | cons c rest ih =>
    have later := le_extended (10 * value + digitValue c) rest
    rw [readDigits, List.forall_mem_cons]
    cases digit : isDigit c with
    | false => simp
    | true =>
      by_cases beyond : limit < 10 * value + digitValue c
      · -- The digits that follow only make the number larger.
        simp only [if_true, if_pos beyond, reduceCtorEq, false_iff]
        rintro ⟨_, rfl, small⟩
        exact absurd (Nat.lt_of_lt_of_le beyond later) (Nat.not_lt.2 small)
      · simp only [if_true, if_neg beyond, true_and]
        exact ih (Nat.not_lt.1 beyond)

theorem extended_decimal (n : Nat) : extended 0 (decimal n) = n :=
  ((readDigits_eq_ok .tooLarge (Nat.zero_le n) _).1
    (readDigits_decimal .tooLarge (Nat.le_refl n))).2.1

theorem readDigits_numeral {limit n : Nat} {cs : List Char} (nonempty : cs ≠ []) :
    readDigits limit .tooLarge 0 cs = .ok n ↔ Numeral cs n ∧ n ≤ limit := by
  rw [readDigits_eq_ok .tooLarge (Nat.zero_le limit)]
  exact ⟨fun ⟨decimal, value, within⟩ => ⟨⟨nonempty, decimal, value⟩, within⟩,
    fun ⟨numeral, within⟩ => ⟨numeral.decimal, numeral.value, within⟩⟩

theorem Numeral.unsigned {digits : List Char} {n : Nat} (numeral : Numeral digits n)
    {rest : List Char} : digits ≠ '+' :: rest := by
  rintro rfl
  cases numeral.decimal '+' List.mem_cons_self

theorem spells_plus {digits : List Char} {n : Nat} :
    Spells ('+' :: digits) n ↔ Numeral digits n := by
  constructor
  · intro spells
    cases spells with
    | plain numeral => exact absurd rfl numeral.unsigned
    | plus numeral => exact numeral
  · exact .plus

theorem spells_unsigned {c : Char} {rest : List Char} {n : Nat} (unsigned : c ≠ '+') :
    Spells (c :: rest) n ↔ Numeral (c :: rest) n := by
  constructor
  · intro spells
    cases spells with
    | plain numeral => exact numeral
    | plus numeral => exact absurd rfl unsigned
  · exact .plain

theorem readNat_eq_ok {limit n : Nat} (cs : List Char) :
    readNat limit cs = .ok n ↔ Spells cs n ∧ n ≤ limit := by
  cases cs with
  | nil =>
    have nothing : ¬Spells [] n := fun | .plain numeral => numeral.nonempty rfl
    simp [readNat, nothing]
  | cons c rest =>
    by_cases sign : c = '+'
    · subst sign
      rw [spells_plus]
      cases rest with
      | nil =>
        have nothing : ¬Numeral [] n := fun numeral => numeral.nonempty rfl
        simp [readNat, nothing]
      | cons d digits => exact readDigits_numeral (List.cons_ne_nil d digits)
    · rw [spells_unsigned sign, readNat]
      · exact readDigits_numeral (List.cons_ne_nil c rest)
      all_goals simp [sign]

theorem spells_decimal (n : Nat) : Spells (decimal n) n :=
  ((readNat_eq_ok _).1 (readNat_decimal (Nat.le_refl n))).1

theorem Spells.unblank {cs : List Char} {n : Nat} (spells : Spells cs n) :
    ∀ c ∈ cs, Text.isBlank c = false := by
  cases spells with
  | plain numeral => exact fun c member => Text.isBlank_of_isDigit (numeral.decimal c member)
  | plus numeral =>
    refine List.forall_mem_cons.2 ⟨rfl, fun c member => ?_⟩
    exact Text.isBlank_of_isDigit (numeral.decimal c member)

end Whole

namespace Text

/-- A text that is some middle part with white space on both sides, or with none. -/
def Surrounds (middle cs : List Char) : Prop :=
  ∃ lead trail, cs = lead ++ middle ++ trail ∧ (∀ c ∈ lead, isBlank c = true) ∧
    ∀ c ∈ trail, isBlank c = true

theorem trimStart_append_of_blank {lead : List Char} (blank : ∀ c ∈ lead, isBlank c = true)
    (cs : List Char) : trimStart (lead ++ cs) = trimStart cs :=
  List.dropWhile_append_of_pos blank

theorem exists_trimStart (cs : List Char) :
    ∃ lead, cs = lead ++ trimStart cs ∧ ∀ c ∈ lead, isBlank c = true :=
  ⟨cs.takeWhile isBlank, List.takeWhile_append_dropWhile.symm,
    fun _ member => List.mem_takeWhile_imp member⟩

theorem surrounds_trim (cs : List Char) : Surrounds (trim cs) cs := by
  obtain ⟨lead, started, blankLead⟩ := exists_trimStart cs
  obtain ⟨trail, ended, blankTrail⟩ := exists_trimStart (trimStart cs).reverse
  refine ⟨lead, trail.reverse, ?_, blankLead, fun c member =>
    blankTrail c (List.mem_reverse.1 member)⟩
  have middle : trimStart cs = trim cs ++ trail.reverse := by
    rw [trim, trimEnd, ← List.reverse_append, ← ended, List.reverse_reverse]
  rw [List.append_assoc, ← middle]
  exact started

theorem trimEnd_append_of_blank {trail : List Char} (blank : ∀ c ∈ trail, isBlank c = true)
    (cs : List Char) : trimEnd (cs ++ trail) = trimEnd cs := by
  rw [trimEnd, List.reverse_append,
    trimStart_append_of_blank fun c member => blank c (List.mem_reverse.1 member), ← trimEnd]

theorem trim_of_surrounds {middle cs : List Char} (surrounds : Surrounds middle cs)
    (unblank : ∀ c ∈ middle, isBlank c = false) : trim cs = middle := by
  obtain ⟨lead, trail, rfl, blankLead, blankTrail⟩ := surrounds
  rw [trim, List.append_assoc, trimStart_append_of_blank blankLead]
  cases middle with
  | nil =>
    have nothing : trimStart trail = [] := List.dropWhile_eq_nil_iff.2 blankTrail
    rw [List.nil_append, nothing]
    rfl
  | cons c rest =>
    have started : trimStart (c :: rest ++ trail) = c :: rest ++ trail :=
      List.dropWhile_cons_of_neg (by simp [unblank c List.mem_cons_self])
    rw [started, trimEnd_append_of_blank blankTrail, trimEnd_of_unblank unblank]

end Text

/-- A text that holds a number and nothing else but white space around it. -/
def HoldsNumber (value : String) (n : Nat) : Prop :=
  ∃ number, Text.Surrounds number value.toList ∧ Whole.Spells number n

theorem readRetries_eq_ok (value : String) (n : Nat) :
    readRetries value = .ok n ↔ HoldsNumber value n ∧ n ≤ Whole.max32 := by
  rw [readRetries, Whole.readNat_eq_ok]
  refine and_congr_left fun _ => ⟨fun spells => ⟨_, Text.surrounds_trim _, spells⟩, ?_⟩
  rintro ⟨number, surrounds, spells⟩
  rwa [Text.trim_of_surrounds surrounds spells.unblank]

namespace Headers

def TellsRetries (h : Headers) (n : Nat) : Prop :=
  ∃ value, h.get? retries = some value ∧ HoldsNumber value n ∧ n ≤ Whole.max32

theorem retryCount_eq_iff (h : Headers) (n : Nat) :
    h.retryCount = n ↔ h.TellsRetries n ∨ n = 0 ∧ ∀ k, ¬h.TellsRetries k := by
  have tells (value : String) (known : h.get? retries = some value) (k : Nat) :
      h.TellsRetries k ↔ readRetries value = .ok k := by
    rw [readRetries_eq_ok, TellsRetries, known]
    simp
  rw [retryCount]
  cases known : h.get? retries with
  | none =>
    have silent (k : Nat) : ¬h.TellsRetries k := by
      simp [TellsRetries, known]
    simp [silent, eq_comm]
  | some value =>
    simp only [tells value known]
    cases readRetries value with
    | ok k =>
      have found : ¬∀ j, ¬(Except.ok k : Except Whole.Fault Nat) = .ok j := fun none => none k rfl
      rw [or_iff_left fun none => found none.2, Except.ok.injEq]
    | error fault => simp [eq_comm]

end Headers
end Redelivery
