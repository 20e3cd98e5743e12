import Redelivery.Message.Json
import Redelivery.Proofs.Text.Numerals

/-! What is printed as JSON is read back. A reader is described by the text that lies before it and
the text that it leaves, wherever it stands in the whole; such readings follow on each other.
Strings come back character by character, numbers digit by digit, and lists, maps and records item
by item. -/
namespace Redelivery.Json

open Text (Glyph)

/-- A reader that reads a value off the front of a text and leaves the rest of it. -/
structure Reader.Yields {α : Type} (reader : Reader α) (before : List Glyph) (a : α)
    (after : List Glyph) : Prop where
  shrinks : after.length ≤ before.length
  reads : ∀ position bound, before.length < bound →
    ∃ position', reader ⟨before, position, bound⟩ = .ok a ⟨after, position', bound⟩

namespace Reader

/-- A value that is read back from its text whatever follows. -/
def Recovers {α : Type} (reader : Reader α) (text : List Char) (a : α) : Prop :=
  ∀ s, reader.Yields (glyphsOf text ++ s) a s

section laws
variable {α β : Type} {x : Reader α} {f : α → Reader β} {a : α} {b : β} {s t u : List Glyph}

theorem yields_pure (a : α) (s : List Glyph) : (pure a : Reader α).Yields s a s :=
  ⟨Nat.le_refl _, fun position _ _ => ⟨position, rfl⟩⟩

theorem yields_bind (first : x.Yields s a t) (later : (f a).Yields t b u) :
    (x >>= f).Yields s b u := by
  refine ⟨Nat.le_trans later.shrinks first.shrinks, fun position bound enough => ?_⟩
  obtain ⟨p, read⟩ := first.reads position bound enough
  obtain ⟨p', read'⟩ := later.reads p bound (Nat.lt_of_le_of_lt first.shrinks enough)
  refine ⟨p', ?_⟩
  show EStateM.bind x f _ = _
  rw [EStateM.bind, read]
  exact read'

theorem yields_return (g : α → β) (reads : x.Yields s a t) :
    (x >>= fun a => pure (g a)).Yields s (g a) t :=
  yields_bind reads (yields_pure (g a) t)

theorem Recovers.kept {text : List Char} (recovers : Recovers x text a) (g : α → β) :
    Recovers (x >>= fun a => pure (g a)) text (g a) :=
  fun s => yields_return g (recovers s)

theorem yields_placed (reads : x.Yields s a t) : (placed x).Yields s a t := by
  refine ⟨reads.shrinks, fun position bound enough => ?_⟩
  obtain ⟨p, read⟩ := reads.reads position bound enough
  exact ⟨p, by rw [placed, read]⟩

theorem yields_closedBy {closing : Reader Unit} (reads : x.Yields s a t)
    (closes : closing.Yields t () u) : (closedBy x closing).Yields s a u := by
  refine ⟨Nat.le_trans closes.shrinks reads.shrinks, fun position bound enough => ?_⟩
  obtain ⟨p, read⟩ := reads.reads position bound enough
  obtain ⟨p', closed⟩ := closes.reads p bound (Nat.lt_of_le_of_lt reads.shrinks enough)
  exact ⟨p', by rw [closedBy, read]; simp only [closed]⟩

theorem yields_turns {f : Nat → Reader β}
    (reads : ∀ n, s.length < n → (f n).Yields s b t) : (turns >>= f).Yields s b t :=
  ⟨(reads _ (Nat.lt_succ_self _)).shrinks, fun position bound enough =>
    (reads bound enough).reads position bound enough⟩

theorem yields_eat (g : Glyph) (s : List Glyph) : eat.Yields (g :: s) () s :=
  ⟨Nat.le_succ _, fun position _ _ => ⟨position.after g, rfl⟩⟩

theorem yields_peek (s : List Glyph) : peek.Yields s s.head? s :=
  ⟨Nat.le_refl _, fun position _ _ => ⟨position, rfl⟩⟩

theorem yields_peekSolid {g : Glyph} (solid : isSpace g = false) (s : List Glyph) :
    peekSolid.Yields (g :: s) (some g) (g :: s) := by
  refine ⟨Nat.le_refl _, fun position _ _ => ⟨position, ?_⟩⟩
  simp [peekSolid, skipSpaces, solid]

theorem yields_peekValue {g : Glyph} (solid : isSpace g = false) (s : List Glyph) :
    peekValue.Yields (g :: s) g (g :: s) :=
  yields_bind (yields_peekSolid solid s) (yields_pure g _)

theorem yields_expectMore (g : Glyph) (s : List Glyph) : expectMore.Yields (g :: s) g (g :: s) :=
  yields_bind (yields_peek (g :: s)) (yields_pure g _)

theorem readAll_eq_ok (reads : x.Yields s a []) : readAll x s = .ok a := by
  have done : finish.Yields [] () [] := ⟨Nat.le_refl _, fun position _ _ => ⟨position, rfl⟩⟩
  have whole : (x >>= fun a => finish >>= fun _ => pure a).Yields s a [] :=
    yields_bind reads (yields_bind done (yields_pure a []))
  obtain ⟨p, read⟩ := whole.reads {} (s.length + 1) (Nat.lt_succ_self _)
  rw [readAll]
  simp only [read]

end laws

section strings
variable {s t : List Glyph} {a : String} {more : Nat} {read : List Char}

theorem yields_stringEnd (more : Nat) (read : List Char) (s : List Glyph) :
    (stringWithin (more + 1) (.sound read)).Yields (.char '"' :: s)
      (String.ofList read.reverse) s := by
  refine yields_bind (yields_expectMore _ _) ?_
  exact yields_bind (yields_eat _ _) (yields_pure _ _)

theorem yields_plainChar {c : Char} (mark : c ≠ '"') (escape : c ≠ '\\') (shown : 32 ≤ c.toNat)
    (later : (stringWithin more (.sound (c :: read))).Yields s a t) :
    (stringWithin (more + 1) (.sound read)).Yields (.char c :: s) a t := by
  rw [stringWithin]
  refine yields_bind (yields_expectMore _ _) ?_
  have visible : Glyph.isControl (.char c) = false := by simpa [Glyph.isControl] using shown
  split
  · rename_i same
    cases same
    exact absurd rfl mark
  · rename_i same
    cases same
    exact absurd rfl escape
  · rw [visible]
    exact yields_bind (yields_eat _ _) later

theorem yields_escapedChar {c : Char} (escaped : escape.Yields s c t) {u : List Glyph}
    (later : (stringWithin more (.sound (c :: read))).Yields t a u) :
    (stringWithin (more + 1) (.sound read)).Yields (.char '\\' :: s) a u := by
  refine yields_bind (yields_expectMore _ _) ?_
  refine yields_bind (yields_eat _ _) ?_
  exact yields_bind escaped later

theorem yields_letterEscape {letter c : Char} (known : letterEscape letter = some c)
    (s : List Glyph) : escape.Yields (.char letter :: s) c s := by
  rw [escape]
  refine yields_bind (yields_expectMore _ _) ?_
  split
  · rename_i same
    cases same
    cases known
  · rename_i same
    cases same
    rw [known]
    exact yields_bind (yields_eat _ _) (yields_pure _ _)
  · rename_i same
    cases same

theorem hexValue_hexDigit : ∀ d < 16, hexValue (.char (Text.hexDigit d)) = some d := by decide

theorem yields_codeEscape {c : Char} (control : c.toNat < 32) (s : List Glyph) :
    escape.Yields (glyphsOf ['u', '0', '0', Text.hexDigit (c.toNat / 16),
      Text.hexDigit (c.toNat % 16)] ++ s) c s := by
  have first := hexValue_hexDigit (c.toNat / 16) (by omega)
  have second := hexValue_hexDigit (c.toNat % 16) (by omega)
  have four : fourHex (.char '0') (.char '0') (.char (Text.hexDigit (c.toNat / 16)))
      (.char (Text.hexDigit (c.toNat % 16))) = some c.toNat := by
    rw [fourHex, first, second]
    show some ((0 * 16 + 0) * 256 + (c.toNat / 16 * 16 + c.toNat % 16)) = some c.toNat
    congr 1
    omega
  have number : hexEscape.Yields (glyphsOf ['0', '0', Text.hexDigit (c.toNat / 16),
      Text.hexDigit (c.toNat % 16)] ++ s) c.toNat s := by
    refine ⟨by simp [glyphsOf]; omega, fun position bound _ => ?_⟩
    refine ⟨⟨position.line, position.column + 4⟩, ?_⟩
    simp only [hexEscape, glyphsOf, List.map_cons, List.map_nil, List.cons_append, List.nil_append,
      four]
  have whole : ¬(0xDC00 ≤ c.toNat ∧ c.toNat ≤ 0xDFFF) ∧ ¬(0xD800 ≤ c.toNat ∧ c.toNat ≤ 0xDBFF) := by
    omega
  have code : codePoint.Yields (glyphsOf ['0', '0', Text.hexDigit (c.toNat / 16),
      Text.hexDigit (c.toNat % 16)] ++ s) c s := by
    refine yields_bind number ?_
    rw [if_neg whole.1, if_neg whole.2, Char.ofNat_toNat]
    exact yields_pure c s
  refine yields_bind (yields_expectMore _ _) ?_
  exact yields_bind (yields_eat _ _) code

inductive Escapes : Char → List Char → Prop where
  | letter {l c : Char} (known : letterEscape l = some c) : Escapes c ['\\', l]
  | code {c : Char} (control : c.toNat < 32) :
    Escapes c ['\\', 'u', '0', '0', Text.hexDigit (c.toNat / 16), Text.hexDigit (c.toNat % 16)]
  | plain {c : Char} (mark : c ≠ '"') (escape : c ≠ '\\') (shown : 32 ≤ c.toNat) : Escapes c [c]

theorem escapes_escapeChar (c : Char) : Escapes c (escapeChar c) := by
  fun_cases escapeChar c
  case case8 control => exact .code control
  case case9 mark escape _ _ _ _ _ shown => exact .plain mark escape (Nat.not_lt.1 shown)
  all_goals
    subst c
    exact .letter rfl

theorem Escapes.yields {c : Char} {text : List Char} (escapes : Escapes c text)
    (later : (stringWithin more (.sound (c :: read))).Yields s a t) :
    (stringWithin (more + 1) (.sound read)).Yields (glyphsOf text ++ s) a t := by
  cases escapes with
  | letter known => exact yields_escapedChar (yields_letterEscape known s) later
  | code control => exact yields_escapedChar (yields_codeEscape control s) later
  | plain mark escape shown => exact yields_plainChar mark escape shown later

theorem yields_characters (cs read : List Char) (s : List Glyph) {more : Nat}
    (enough : cs.length < more) :
    (stringWithin more (.sound read)).Yields (glyphsOf (cs.flatMap escapeChar) ++ .char '"' :: s)
      (String.ofList (read.reverse ++ cs)) s := by
  induction cs generalizing read more with
  | nil =>
    obtain ⟨more, rfl⟩ := Nat.exists_eq_add_one.2 enough
    rw [List.append_nil]
    exact yields_stringEnd more read s
  | cons c cs ih =>
    obtain ⟨more, rfl⟩ := Nat.exists_eq_add_one.2 (Nat.zero_lt_of_lt enough)
    have later := ih (c :: read) (Nat.lt_of_succ_lt_succ enough)
    rw [List.reverse_cons, List.append_assoc] at later
    rw [List.flatMap_cons, glyphsOf, List.map_append, List.append_assoc]
    exact (escapes_escapeChar c).yields later

theorem length_le_escaped (cs : List Char) : cs.length ≤ (cs.flatMap escapeChar).length := by
  induction cs with
  | nil => exact Nat.le_refl 0
  | cons c cs ih =>
    have some : 1 ≤ (escapeChar c).length := by
      have escapes := escapes_escapeChar c
      generalize escapeChar c = text at escapes
      cases escapes <;> simp
    rw [List.flatMap_cons, List.length_append, List.length_cons]
    omega

theorem yields_stringRest (text : String) (s : List Glyph) :
    stringRest.Yields (glyphsOf (text.toList.flatMap escapeChar) ++ .char '"' :: s) text s := by
  refine yields_turns fun n enough => ?_
  have turns : text.toList.length < n := by
    have long := length_le_escaped text.toList
    simp only [glyphsOf, List.length_append, List.length_map] at enough
    omega
  have reads := yields_characters text.toList [] s turns
  rwa [List.reverse_nil, List.nil_append, String.ofList_toList] at reads

theorem glyphs_printText (text : String) (s : List Glyph) : glyphsOf (printText text) ++ s =
    .char '"' :: (glyphsOf (text.toList.flatMap escapeChar) ++ .char '"' :: s) := by
  simp [glyphsOf, printText]

theorem recovers_text (text : String) : Recovers Reader.text (printText text) text := by
  intro s
  rw [glyphs_printText]
  refine yields_bind (yields_peekValue rfl _) ?_
  exact yields_bind (yields_eat _ _) (yields_stringRest text s)

end strings

section numbers
variable {limit n : Nat} {s : List Glyph}

/-- Nothing at the front that would go on with a number. -/
structure EndsNumber (s : List Glyph) : Prop where
  digit : digitOf s.head? = none
  point : isMark '.' s.head? = false
  exponent : isExponentMark s.head? = false

theorem digitOf_of_isDigit {c : Char} (digit : Whole.isDigit c = true) :
    digitOf (some (.char c)) = some (Whole.digitValue c) := by
  rw [digitOf, if_pos digit]

theorem yields_digitsWithin {more value : Nat} (count : Nat) (ends : EndsNumber s)
    (digits : List Char) (decimal : ∀ c ∈ digits, Whole.isDigit c = true)
    (within : Whole.extended value digits ≤ limit) (enough : digits.length ≤ more) :
    (digitsWithin limit more value count).Yields (glyphsOf digits ++ s)
      (Whole.extended value digits, count + digits.length, false) s := by
  induction digits generalizing more value count with
  | nil =>
    cases more with
    | zero => exact yields_pure _ s
    | succ more =>
      refine yields_bind (yields_peek s) ?_
      rw [ends.digit]
      exact yields_pure _ s
  | cons c digits ih =>
    obtain ⟨more, rfl⟩ := Nat.exists_eq_add_one.2 (Nat.zero_lt_of_lt enough)
    obtain ⟨digit, decimal⟩ := List.forall_mem_cons.1 decimal
    have extended : Whole.extended value (c :: digits) =
        Whole.extended (value * 10 + Whole.digitValue c) digits := by
      rw [Nat.mul_comm]
      rfl
    rw [extended] at within ⊢
    have below := Nat.not_lt.2 (Nat.le_trans (Whole.le_extended _ digits) within)
    have later := ih (count + 1) decimal within (Nat.le_of_succ_le_succ enough)
    refine yields_bind (yields_peek _) ?_
    simp only [glyphsOf, List.map_cons, List.cons_append, List.head?_cons, digitOf_of_isDigit digit,
      if_neg below]
    refine yields_bind (yields_eat _ _) ?_
    rwa [List.length_cons, Nat.add_comm digits.length, ← Nat.add_assoc]

theorem yields_numberRest (ends : EndsNumber s) (n : Nat) :
    (numberRest true n).Yields s (.whole n) s := by
  refine yields_bind (yields_peek s) ?_
  rw [ends.point, ends.exponent]
  exact yields_pure _ s

theorem yields_unsignedNumber (ends : EndsNumber s) (within : n ≤ Whole.max64) :
    (unsignedNumber true).Yields (glyphsOf (Whole.decimal n) ++ s) (.whole n) s := by
  by_cases zero : n = 0
  · subst n
    rw [Whole.decimal_of_lt (by decide)]
    refine yields_bind (yields_peek (.char '0' :: s)) ?_
    refine yields_bind (yields_eat (.char '0') s) ?_
    refine yields_bind (yields_peek s) ?_
    rw [ends.digit]
    exact yields_numberRest ends 0
  · obtain ⟨c, digits, text, leading⟩ := Whole.exists_decimal zero
    have decimal := Whole.decimal_digits n
    have value := Whole.extended_decimal n
    rw [text] at decimal value ⊢
    obtain ⟨digit, decimal⟩ := List.forall_mem_cons.1 decimal
    have extended : Whole.extended (Whole.digitValue c) digits = n := by
      rw [← value]
      show _ = Whole.extended (10 * 0 + Whole.digitValue c) digits
      rw [Nat.mul_zero, Nat.zero_add]
    refine yields_bind (yields_peek _) ?_
    simp only [glyphsOf, List.map_cons, List.cons_append, List.head?_cons, digitOf_of_isDigit digit]
    refine yields_bind (yields_eat _ _) ?_
    refine yields_turns fun turns enough => ?_
    have few : digits.length ≤ turns := by
      rw [List.length_append, List.length_map] at enough
      omega
    rw [← extended] at within
    have read := yields_digitsWithin 0 ends digits decimal within few
    rw [extended] at read
    exact yields_bind read (yields_numberRest ends n)

theorem not_isSpace_of_isDigit {c : Char} (digit : Whole.isDigit c = true) :
    isSpace (.char c) = false := by
  have unblank := Text.isBlank_of_isDigit digit
  by_contra space
  simp only [isSpace, Bool.or_eq_true, decide_eq_true_eq, Bool.not_eq_false] at space
  rcases space with ((rfl | rfl) | rfl) | rfl <;> cases unblank

theorem yields_natural (type : String) (ends : EndsNumber s) (within : n ≤ limit)
    (small : limit ≤ Whole.max64) :
    (natural limit type).Yields (glyphsOf (Whole.decimal n) ++ s) n s := by
  obtain ⟨c, digits, text, digit⟩ := Whole.decimal_starts n
  have unsigned : isMark '-' (some (.char c)) = false := by
    by_contra minus
    simp only [isMark, decide_eq_true_eq, Bool.not_eq_false] at minus
    subst c
    cases digit
  have known : (c = '-' || Whole.isDigit c) = true := by rw [digit, Bool.or_true]
  have read := yields_unsignedNumber ends (Nat.le_trans within small)
  rw [text] at read ⊢
  have number : number.Yields (glyphsOf (c :: digits) ++ s) (.whole n) s := by
    refine yields_bind (yields_peek _) ?_
    simp only [glyphsOf, List.map_cons, List.cons_append, List.head?_cons, unsigned]
    exact read
  refine yields_bind (yields_peekValue (not_isSpace_of_isDigit digit) _) ?_
  simp only [known]
  refine yields_placed (yields_bind number ?_)
  have fits : 0 ≤ (n : Int) ∧ (n : Int) ≤ limit := ⟨Int.natCast_nonneg n, Int.ofNat_le.2 within⟩
  simp only [if_pos fits]
  exact yields_pure _ s

end numbers
end Reader

def comma (first : Bool) : List Char := if first then [] else [',']

def separated : Bool → List (List Char) → List Char
  | _, [] => []
  | first, item :: items => comma first ++ item ++ separated false items

theorem commaSeparated_eq (items : List (List Char)) :
    commaSeparated items = separated true items := by
  have later (items : List (List Char)) (item : List Char) :
      [','].intercalate (item :: items) = item ++ separated false items := by
    induction items generalizing item with
    | nil => simp [List.intercalate, separated]
    | cons next items ih =>
      rw [separated, List.append_assoc, ← ih next]
      simp [List.intercalate, comma]
  cases items with
  | nil => rfl
  | cons item items => exact later items item

theorem lt_of_separated_lt {items : List (List Char)} {g : Glyph} {s : List Glyph} {turns : Nat}
    (enough : (glyphsOf (separated true items) ++ g :: s).length < turns) :
    items.length < turns := by
  have commas (items : List (List Char)) : items.length ≤ (separated false items).length := by
    induction items with
    | nil => exact Nat.le_refl 0
    | cons item items ih =>
      have mark : (comma false).length = 1 := rfl
      rw [separated, List.length_append, List.length_append, List.length_cons, mark]
      omega
  have long : items.length ≤ (separated true items).length + 1 := by
    cases items with
    | nil => exact Nat.zero_le _
    | cons item items =>
      have later := commas items
      rw [separated, List.length_append, List.length_cons]
      omega
  simp only [glyphsOf, List.length_append, List.length_map, List.length_cons] at enough
  omega

namespace Reader

section lists
variable {α : Type} {element : Reader α} {print : α → List Char}

/-- A value that is read back whatever follows that is no part of a number, and whose text does not
look like the end of a list. -/
structure Element (reader : Reader α) (text : List Char) (a : α) : Prop where
  begins : ∃ c rest, text = c :: rest ∧ isSpace (.char c) = false ∧ c ≠ ']'
  reads : ∀ s, EndsNumber s → reader.Yields (glyphsOf text ++ s) a s

theorem yields_moreElements {c : Char} (solid : isSpace (.char c) = false) (more : c ≠ ']')
    (first : Bool) (s : List Glyph) :
    (moreElements first).Yields (glyphsOf (comma first) ++ .char c :: s) true (.char c :: s) := by
  cases first with
  | true =>
    refine yields_bind (yields_peekSolid solid s) ?_
    split
    · rename_i same
      cases same
      exact absurd rfl more
    · rename_i same
      cases same
    · exact yields_pure true _
  | false =>
    refine yields_bind (yields_peekSolid rfl (.char c :: s)) ?_
    refine yields_bind (yields_eat (.char ',') (.char c :: s)) ?_
    refine yields_bind (yields_peekSolid solid s) ?_
    split
    · rename_i same
      cases same
      exact absurd rfl more
    · exact yields_pure true _
    · rename_i same
      cases same

theorem yields_noMoreElements (first : Bool) (s : List Glyph) :
    (moreElements first).Yields (.char ']' :: s) false (.char ']' :: s) :=
  yields_bind (yields_peekSolid rfl s) (yields_pure false _)

theorem endsNumber_separated (items : List (List Char)) (s : List Glyph) :
    EndsNumber (glyphsOf (separated false items) ++ .char ']' :: s) := by
  cases items with
  | nil => exact ⟨rfl, rfl, rfl⟩
  | cons item items => exact ⟨rfl, rfl, rfl⟩

theorem yields_elementsWithin {as : List α} (elements : ∀ a ∈ as, Element element (print a) a)
    (read : List α) (s : List Glyph) {more : Nat} (enough : as.length < more) :
    (elementsWithin element more read).Yields
      (glyphsOf (separated read.isEmpty (as.map print)) ++ .char ']' :: s) (read.reverse ++ as)
      (.char ']' :: s) := by
  induction as generalizing read more with
  | nil =>
    obtain ⟨more, rfl⟩ := Nat.exists_eq_add_one.2 enough
    refine yields_bind (yields_noMoreElements read.isEmpty s) ?_
    rw [List.append_nil]
    exact yields_pure _ _
  | cons a as ih =>
    obtain ⟨more, rfl⟩ := Nat.exists_eq_add_one.2 (Nat.zero_lt_of_lt enough)
    obtain ⟨⟨⟨c, rest, text, solid, other⟩, reads⟩, elements⟩ := List.forall_mem_cons.1 elements
    have later := ih elements (a :: read) (Nat.lt_of_succ_lt_succ enough)
    have element := reads _ (endsNumber_separated (as.map print) s)
    rw [List.reverse_cons, List.append_assoc] at later
    rw [List.map_cons, separated, glyphsOf, List.map_append, List.map_append, List.append_assoc,
      List.append_assoc, text]
    refine yields_bind (yields_moreElements solid other read.isEmpty _) ?_
    rw [text] at element
    exact yields_bind element later

theorem recovers_list {as : List α} (elements : ∀ a ∈ as, Element element (print a) a) :
    Recovers (list element) (printList (as.map print)) as := by
  intro s
  have layout : glyphsOf (printList (as.map print)) ++ s =
      .char '[' :: (glyphsOf (separated true (as.map print)) ++ .char ']' :: s) := by
    simp [glyphsOf, printList, commaSeparated_eq]
  rw [layout]
  refine yields_bind (yields_peekValue rfl _) ?_
  have closes : listEnd.Yields (.char ']' :: s) () s :=
    yields_bind (yields_peekSolid rfl s) (yields_eat _ s)
  refine yields_placed (yields_bind (yields_eat _ _) (yields_closedBy ?_ closes))
  refine yields_turns fun turns enough => ?_
  have few := lt_of_separated_lt enough
  rw [List.length_map] at few
  exact yields_elementsWithin elements [] s few

end lists

section objects

theorem yields_colon (s : List Glyph) : colon.Yields (.char ':' :: s) () s :=
  yields_bind (yields_peekSolid rfl s) (yields_eat _ s)

theorem yields_objectEnd (s : List Glyph) : objectEnd.Yields (.char '\x7d' :: s) () s :=
  yields_bind (yields_peekSolid rfl s) (yields_eat _ s)

theorem yields_noNextKey (first : Bool) (s : List Glyph) :
    (nextKey first).Yields (.char '\x7d' :: s) none (.char '\x7d' :: s) :=
  yields_bind (yields_peekSolid rfl s) (yields_pure none _)

theorem yields_nextKey (first : Bool) (key : String) (s : List Glyph) :
    (nextKey first).Yields (glyphsOf (comma first) ++ (glyphsOf (printText key) ++ s))
      (some key) s := by
  rw [glyphs_printText]
  have rest := yields_return some (yields_stringRest key s)
  cases first with
  | true =>
    refine yields_bind (yields_peekSolid rfl _) ?_
    exact yields_bind (yields_eat _ _) rest
  | false =>
    refine yields_bind (yields_peekSolid rfl _) ?_
    refine yields_bind (yields_eat _ _) ?_
    refine yields_bind (yields_peekSolid rfl _) ?_
    exact yields_bind (yields_eat _ _) rest

theorem yields_membersWithin {α : Type} {value : Reader α} {print : α → List Char}
    (recovers : ∀ a, Recovers value (print a) a) (members read : List (String × α))
    (s : List Glyph) {more : Nat} (enough : members.length < more) :
    (membersWithin value more read).Yields
      (glyphsOf (separated read.isEmpty (members.map fun m => printMember m.1 (print m.2))) ++
        .char '\x7d' :: s)
      (read.reverse ++ members) (.char '\x7d' :: s) := by
  induction members generalizing read more with
  | nil =>
    obtain ⟨more, rfl⟩ := Nat.exists_eq_add_one.2 enough
    refine yields_bind (yields_noNextKey read.isEmpty s) ?_
    rw [List.append_nil]
    exact yields_pure _ _
  | cons member members ih =>
    obtain ⟨key, a⟩ := member
    obtain ⟨more, rfl⟩ := Nat.exists_eq_add_one.2 (Nat.zero_lt_of_lt enough)
    have later := ih ((key, a) :: read) (Nat.lt_of_succ_lt_succ enough)
    rw [List.reverse_cons, List.append_assoc] at later
    simp only [List.map_cons, separated, printMember, glyphsOf, List.map_append, List.append_assoc]
    refine yields_bind (yields_nextKey read.isEmpty key _) ?_
    refine yields_bind (yields_colon _) ?_
    exact yields_bind (recovers a _) later

theorem glyphs_printObject (members : List (String × List Char)) (s : List Glyph) :
    glyphsOf (printObject members) ++ s = .char '\x7b' ::
      (glyphsOf (separated true (members.map fun m => printMember m.1 m.2)) ++
        .char '\x7d' :: s) := by
  simp [glyphsOf, printObject, commaSeparated_eq]

theorem recovers_map {α : Type} {value : Reader α} {print : α → List Char}
    (recovers : ∀ a, Recovers value (print a) a) (members : List (String × α)) :
    Recovers (map value) (printObject (members.map fun m => (m.1, print m.2))) members := by
  intro s
  rw [glyphs_printObject, List.map_map]
  refine yields_bind (yields_peekValue rfl _) ?_
  refine yields_placed (yields_bind (yields_eat _ _) (yields_closedBy ?_ (yields_objectEnd s)))
  refine yields_turns fun turns enough => ?_
  have few := lt_of_separated_lt enough
  rw [List.length_map] at few
  exact yields_membersWithin recovers members [] s few

inductive Fills {σ : Type} (fields : List (RecordField σ)) :
    σ → List (String × List Char) → σ → Prop where
  | done (s : σ) : Fills fields s [] s
  | field {s s' s'' : σ} {field : RecordField σ} {key : String} {text : List Char}
    {members : List (String × List Char)} (known : fields.find? (·.name = key) = some field)
    (unset : field.isSet s = false) (read : Recovers (field.read s) text s')
    (later : Fills fields s' members s'') : Fills fields s ((key, text) :: members) s''

theorem Fills.yields {σ : Type} {fields : List (RecordField σ)} {s s' : σ}
    {members : List (String × List Char)} (fills : Fills fields s members s') (first : Bool)
    (t : List Glyph) {more : Nat} (enough : members.length < more) :
    (fieldsByName fields more first s).Yields
      (glyphsOf (separated first (members.map fun m => printMember m.1 m.2)) ++ .char '\x7d' :: t)
      s' (.char '\x7d' :: t) := by
  induction fills generalizing first more with
  | done s =>
    obtain ⟨more, rfl⟩ := Nat.exists_eq_add_one.2 enough
    exact yields_bind (yields_noNextKey first t) (yields_pure _ _)
  | @field s s' s'' field key text members known unset read later ih =>
    obtain ⟨more, rfl⟩ := Nat.exists_eq_add_one.2 (Nat.zero_lt_of_lt enough)
    have later := ih false (Nat.lt_of_succ_lt_succ enough)
    simp only [List.map_cons, separated, printMember, glyphsOf, List.map_append, List.append_assoc]
    refine yields_bind (yields_nextKey first key _) ?_
    simp only [known, unset]
    refine yields_bind (yields_colon _) ?_
    exact yields_bind (read _) later

theorem yields_requireAll {σ : Type} {fields : List (RecordField σ)} {s : σ}
    (complete : ∀ field ∈ fields, field.isSet s = true) (t : List Glyph) :
    (requireAll fields s).Yields t () t := by
  induction fields with
  | nil => exact yields_pure () t
  | cons field fields ih =>
    obtain ⟨set, complete⟩ := List.forall_mem_cons.1 complete
    rw [requireAll, if_pos set]
    exact ih complete

theorem recovers_record {σ : Type} {fields : List (RecordField σ)} {blank s : σ}
    {members : List (String × List Char)} (name : String) (fills : Fills fields blank members s)
    (complete : ∀ field ∈ fields, field.isSet s = true) :
    Recovers (record name fields blank) (printObject members) s := by
  intro t
  rw [glyphs_printObject]
  refine yields_bind (yields_peekValue rfl _) ?_
  refine yields_placed (yields_bind (yields_eat _ _) (yields_closedBy ?_ (yields_objectEnd t)))
  refine yields_turns fun turns enough => ?_
  have few := lt_of_separated_lt enough
  rw [List.length_map] at few
  refine yields_bind (fills.yields true t few) ?_
  exact yields_bind (yields_requireAll complete _) (yields_pure s _)

end objects
end Reader
end Redelivery.Json
