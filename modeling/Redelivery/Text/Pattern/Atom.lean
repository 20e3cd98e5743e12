import Redelivery.Text.Pattern.Flags

/-! The smallest pieces of a pattern. Nothing is known of scripts, so whatever would need tables
of characters cannot be used: letters in any case and the kinds of characters, unless bytes are
matched. Then again only what is found between whole characters can be used. -/
namespace Redelivery.Text

inductive PatternAtom where
  /-- A character, perhaps written as the number of a byte. -/
  | literal (code : Nat) (asByte : Bool)
  | any
  | kind (negated : Bool)
  /-- The start or end of the text or of a line. -/
  | textEdge
  | wordEdge
  deriving DecidableEq, Repr

def asciiLimit : Nat := 128

namespace PatternAtom

def fits (flags : PatternFlags) : PatternAtom → Bool
  | literal code asByte => if flags.unicode then !flags.anyCase else !asByte || code < asciiLimit
  | any => flags.unicode
  | kind negated => !flags.unicode && !negated
  | textEdge => true
  | wordEdge => !flags.unicode

def fitsSet (flags : PatternFlags) : PatternAtom → Bool
  | literal code _ => if flags.unicode then !flags.anyCase else code < asciiLimit
  | kind negated => !flags.unicode && !negated
  | _ => false

def hexValue? (c : Char) : Option Nat :=
  if c.isDigit then some (c.toNat - 48)
  else if 'a' ≤ c ∧ c ≤ 'f' then some (c.toNat - 87)
  else if 'A' ≤ c ∧ c ≤ 'F' then some (c.toNat - 55)
  else none

def readHex (flags : PatternFlags) (asByte : Bool) :
    (digits value : Nat) → List Char → Option (PatternAtom × List Char)
  | 0, value, cs => if value.isValidChar then some (literal value asByte, cs) else none
  | digits + 1, value, cs =>
    match flags.skip cs with
    | [] => none
    | c :: rest =>
      match hexValue? c with
      | some digit => readHex flags asByte digits (16 * value + digit) rest
      | none => none

def controls : List (Char × Nat) :=
  [('a', 7), ('t', 9), ('n', 10), ('v', 11), ('f', 12), ('r', 13)]

def readEscape (flags : PatternFlags) : List Char → Option (PatternAtom × List Char)
  | [] => none
  | c :: rest =>
    match c with
    | 'x' => readHex flags true 2 0 rest
    | 'u' => readHex flags false 4 0 rest
    | 'U' => readHex flags false 8 0 rest
    | 'd' | 's' | 'w' => some (kind false, rest)
    | 'D' | 'S' | 'W' => some (kind true, rest)
    | 'A' | 'z' => some (textEdge, rest)
    | 'b' | 'B' | '<' | '>' => some (wordEdge, rest)
    | _ =>
      match controls.find? (·.1 = c) with
      | some control => some (literal control.2 false, rest)
      | none =>
        if c.isAlphanum ∨ asciiLimit ≤ c.toNat then none else some (literal c.toNat false, rest)

def readSetAtom (flags : PatternFlags) : List Char → Option (PatternAtom × List Char)
  | [] => none
  | '\\' :: rest => readEscape flags rest
  | c :: rest => some (literal c.toNat false, rest)

def readAtom (flags : PatternFlags) : List Char → Option (PatternAtom × List Char)
  | '.' :: rest => some (any, rest)
  | '^' :: rest | '$' :: rest => some (textEdge, rest)
  | cs => readSetAtom flags cs

end PatternAtom
end Redelivery.Text
