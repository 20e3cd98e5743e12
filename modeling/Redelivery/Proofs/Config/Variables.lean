import Redelivery.Config.Variables
import Redelivery.Proofs.Text.Encoding
import Redelivery.Proofs.Text.Numerals

/-! One variable of the environment. It holds a text if its bytes are that text in UTF-8, and
counts as not set if they are no text at all. A variable tells the value that its text denotes,
with white space around it or without. What is read from it is that value, or the default if the
variable is not set; a variable that is set and tells no value cannot be read. -/
namespace Redelivery

namespace Text

theorem sameLetters_iff {s t : String} :
    sameLetters s t = true ↔ s.toList.map lower = t.toList.map lower :=
  beq_iff_eq

theorem isBlank_lower {c : Char} (blank : isBlank c = true) : isBlank (lower c) = true := by
  have unlettered : ¬('A' ≤ c ∧ c ≤ 'Z') := by
    rintro ⟨least, most⟩
    have low : 65 ≤ c.toNat := least
    have high : c.toNat ≤ 90 := most
    simp only [isBlank, Bool.or_eq_true, Bool.and_eq_true, decide_eq_true_eq, beq_iff_eq] at blank
    omega
  rwa [lower, if_neg unlettered]

theorem isBlankText_iff (s : String) : isBlankText s = true ↔ ∀ c ∈ s.toList, isBlank c = true := by
  rw [isBlankText, List.isEmpty_iff]
  constructor
  · intro nothing
    obtain ⟨lead, trail, whole, blankLead, blankTrail⟩ := surrounds_trim s.toList
    rw [whole, nothing, List.append_nil]
    exact fun c member => (List.mem_append.1 member).elim (blankLead c) (blankTrail c)
  · intro blank
    refine trim_of_surrounds ⟨s.toList, [], ?_, blank, fun c member => ?_⟩ fun c member => ?_
    · rw [List.append_nil, List.append_nil]
    · cases member
    · cases member

end Text

namespace Variables
variable {α : Type} {vars : Variables} {name value : String}

def Holds (vars : Variables) (name value : String) : Prop :=
  vars.lookup name = some (Text.utf8 value)

def Unset (vars : Variables) (name : String) : Prop := ∀ value, ¬vars.Holds name value

/-- A variable holds a text that denotes a value, with white space around it or without. -/
def Tells (vars : Variables) (name : String) (denotes : List Char → α → Prop) (a : α) : Prop :=
  ∃ value core, vars.Holds name value ∧ Text.Surrounds core value.toList ∧ denotes core a

/-- A variable tells a value, or is not set and the value is the default. -/
def Gives (vars : Variables) (name : String) (denotes : List Char → α → Prop) (default a : α) :
    Prop :=
  vars.Tells name denotes a ∨ vars.Unset name ∧ a = default

theorem text?_eq_some : vars.text? name = some value ↔ vars.Holds name value := by
  rw [text?, Holds]
  cases vars.lookup name with
  | none => simp
  | some bytes => rw [Option.some.injEq, ← Text.fromUTF8?_eq_some]

theorem text?_eq_none : vars.text? name = none ↔ vars.Unset name := by
  rw [Option.eq_none_iff_forall_ne_some]
  exact forall_congr' fun value => not_congr text?_eq_some

theorem Holds.unique {value' : String} (holds : vars.Holds name value)
    (holds' : vars.Holds name value') : value = value' :=
  Option.some.inj ((text?_eq_some.2 holds).symm.trans (text?_eq_some.2 holds'))

end Variables

namespace Reader
variable {α : Type} {reader : List Char → Except String α} {denotes : List Char → α → Prop}

/-- A reader takes exactly the texts that denote a value. None of these holds white space. -/
structure Takes (reader : List Char → Except String α) (denotes : List Char → α → Prop) : Prop where
  ok_iff : ∀ {cs a}, reader cs = .ok a ↔ denotes cs a
  unblank : ∀ {cs a}, denotes cs a → ∀ c ∈ cs, Text.isBlank c = false

theorem Takes.trim (takes : Takes reader denotes) {cs : List Char} {a : α} :
    reader (Text.trim cs) = .ok a ↔ ∃ core, Text.Surrounds core cs ∧ denotes core a := by
  rw [takes.ok_iff]
  refine ⟨fun denoted => ⟨_, Text.surrounds_trim cs, denoted⟩, ?_⟩
  rintro ⟨core, surrounds, denoted⟩
  rwa [Text.trim_of_surrounds surrounds (takes.unblank denoted)]

theorem read_of_unset {vars : Variables} {name : String} (unset : vars.Unset name) (default : α)
    (reader : List Char → Except String α) : vars.read name default reader = .ok default := by
  rw [Variables.read, Variables.text?_eq_none.2 unset]

theorem read_of_holds {vars : Variables} {name value : String} (holds : vars.Holds name value)
    (default : α) (reader : List Char → Except String α) :
    vars.read name default reader =
      (reader (Text.trim value.toList)).mapError (.unreadable name) := by
  simp only [Variables.read, Variables.text?_eq_some.2 holds]
  cases reader (Text.trim value.toList) <;> rfl

theorem mapError_eq_ok {ε ε' : Type} {x : Except ε α} {f : ε → ε'} {a : α} :
    x.mapError f = .ok a ↔ x = .ok a := by
  cases x <;> simp [Except.mapError]

theorem read_eq_error {vars : Variables} {name : String} {default : α} {e : ConfigError}
    (failed : vars.read name default reader = .error e) :
    ∃ details, e = .unreadable name details := by
  cases text : vars.text? name with
  | none =>
    rw [read_of_unset (Variables.text?_eq_none.1 text)] at failed
    cases failed
  | some value =>
    rw [read_of_holds (Variables.text?_eq_some.1 text)] at failed
    cases read : reader (Text.trim value.toList) with
    | ok a =>
      rw [read] at failed
      cases failed
    | error details =>
      rw [read] at failed
      cases failed
      exact ⟨details, rfl⟩

theorem Takes.read_eq_ok (takes : Takes reader denotes) {vars : Variables} {name : String}
    {default a : α} :
    vars.read name default reader = .ok a ↔ vars.Gives name denotes default a := by
  cases text : vars.text? name with
  | none =>
    have unset := Variables.text?_eq_none.1 text
    have silent : ¬vars.Tells name denotes a := fun ⟨value, _, holds, _⟩ => unset value holds
    rw [read_of_unset unset, Variables.Gives, or_iff_right silent, and_iff_right unset,
      Except.ok.injEq, eq_comm]
  | some value =>
    have holds := Variables.text?_eq_some.1 text
    rw [read_of_holds holds, mapError_eq_ok, takes.trim, Variables.Gives,
      or_iff_left fun unset => unset.1 value holds]
    constructor
    · exact fun ⟨core, around⟩ => ⟨value, core, holds, around⟩
    · rintro ⟨value', core, holds', around⟩
      cases holds.unique holds'
      exact ⟨core, around⟩

theorem Takes.gives_unique (takes : Takes reader denotes) {vars : Variables} {name : String}
    {default a b : α} (gives : vars.Gives name denotes default a)
    (gives' : vars.Gives name denotes default b) : a = b :=
  Except.ok.inj ((takes.read_eq_ok.2 gives).symm.trans (takes.read_eq_ok.2 gives'))

end Reader

namespace Denotes

def word32 (cs : List Char) (n : UInt32) : Prop := Whole.Spells cs n.toNat

def word64 (cs : List Char) (n : UInt64) : Prop := Whole.Spells cs n.toNat

def seconds (cs : List Char) (n : Nat) : Prop := Whole.Spells cs n ∧ n ≤ Whole.max64

def bool (cs : List Char) : Bool → Prop
  | true => cs = "true".toList
  | false => cs = "false".toList

def mode (cs : List Char) (mode : TransactionMode) : Prop :=
  cs.map Text.lower = mode.name.toList.map Text.lower

end Denotes

namespace Reader

theorem nat_eq_ok {limit n : Nat} {cs : List Char} :
    nat limit cs = .ok n ↔ Whole.Spells cs n ∧ n ≤ limit := by
  rw [← Whole.readNat_eq_ok, nat, mapError_eq_ok]

theorem takes_seconds : Takes (nat Whole.max64) Denotes.seconds where
  ok_iff := nat_eq_ok
  unblank denoted := denoted.1.unblank

theorem takes_word {α : Type} {limit : Nat} {ofNat : Nat → α} {toNat : α → Nat}
    (within : ∀ a, toNat a ≤ limit) (restored : ∀ a, ofNat (toNat a) = a)
    (kept : ∀ n ≤ limit, toNat (ofNat n) = n) :
    Takes (fun cs => (nat limit cs).map ofNat) fun cs a => Whole.Spells cs (toNat a) where
  ok_iff {cs a} := by
    constructor
    · intro read
      cases number : nat limit cs with
      | error details =>
        rw [number] at read
        cases read
      | ok n =>
        rw [number] at read
        cases read
        obtain ⟨spelled, small⟩ := nat_eq_ok.1 number
        rwa [kept n small]
    · intro spelled
      rw [nat_eq_ok.2 ⟨spelled, within a⟩]
      exact congrArg Except.ok (restored a)
  unblank spelled := spelled.unblank

theorem takes_word32 : Takes word32 Denotes.word32 :=
  takes_word (fun n => Nat.le_of_lt_succ n.toNat_lt) (fun _ => UInt32.ofNat_toNat)
    fun _ small => UInt32.toNat_ofNat_of_lt' (Nat.lt_succ_of_le small)

theorem takes_word64 : Takes word64 Denotes.word64 :=
  takes_word (fun n => Nat.le_of_lt_succ n.toNat_lt) (fun _ => UInt64.ofNat_toNat)
    fun _ small => UInt64.toNat_ofNat_of_lt' (Nat.lt_succ_of_le small)

theorem takes_bool : Takes bool Denotes.bool where
  ok_iff {cs b} := by
    rw [Reader.bool]
    split
    · next yes => cases b <;> simp [Denotes.bool, yes]
    · next notTrue =>
      split
      · next no => cases b <;> simp [Denotes.bool, no]
      · next notFalse => cases b <;> simp_all [Denotes.bool]
  unblank {cs b} denoted := by
    cases b <;> cases denoted <;> simp [Text.isBlank]

theorem mode_inj {m m' : TransactionMode}
    (same : m.name.toList.map Text.lower = m'.name.toList.map Text.lower) : m = m' := by
  revert same
  cases m <;> cases m' <;> decide

theorem takes_mode : Takes mode Denotes.mode where
  ok_iff {cs m} := by
    have named (m : TransactionMode) :
        Text.sameLetters (String.ofList cs) m.name = true ↔ Denotes.mode cs m := by
      rw [Text.sameLetters_iff, String.toList_ofList, Denotes.mode]
    rw [Reader.mode]
    cases found : TransactionMode.ofName? (String.ofList cs) with
    | none =>
      have unnamed := List.find?_eq_none.1 found m (by cases m <;> decide)
      exact iff_of_false (by simp) fun denoted => unnamed ((named m).2 denoted)
    | some first =>
      rw [TransactionMode.ofName?] at found
      have same := List.find?_some found
      have denoted := (named first).1 same
      refine ⟨fun same => by cases same; exact denoted, fun denoted' => ?_⟩
      exact congrArg Except.ok (mode_inj (denoted.symm.trans denoted'))
  unblank {cs m} denoted c member := by
    by_contra blank
    have lowered : Text.lower c ∈ m.name.toList.map Text.lower := by
      rw [← denoted]
      exact List.mem_map_of_mem member
    have unblank : (m.name.toList.map Text.lower).all (!Text.isBlank ·) = true := by
      cases m <;> decide
    have letter := List.all_eq_true.1 unblank _ lowered
    rw [Text.isBlank_lower (Bool.not_eq_false _ ▸ blank)] at letter
    cases letter

end Reader
end Redelivery
