/-! Bytes read as UTF-8. Every well-formed sequence is one character; a byte that is not part of
one stands for itself, so that no byte is lost. -/
namespace Redelivery.Text

inductive Glyph where
  | char (c : Char)
  | stray (byte : UInt8)
  deriving DecidableEq, Repr

namespace Utf8

def isTail (b : UInt8) : Bool := 0x80 ≤ b && b ≤ 0xBF

def tailBits (b : UInt8) : Nat := b.toNat - 0x80

/-- The bytes that may follow a first byte of three or four: no long forms, no surrogates,
nothing above the last code point. -/
def secondFits (first second : UInt8) : Bool :=
  isTail second &&
  (first != 0xE0 || 0xA0 ≤ second) && (first != 0xED || second ≤ 0x9F) &&
  (first != 0xF0 || 0x90 ≤ second) && (first != 0xF4 || second ≤ 0x8F)

def front : List UInt8 → Option (Char × Nat)
  | [] => none
  | a :: rest =>
    if a < 0x80 then some (Char.ofNat a.toNat, 0)
    else if 0xC2 ≤ a ∧ a ≤ 0xDF then
      match rest with
      | b :: _ =>
        if isTail b then some (Char.ofNat ((a.toNat - 0xC0) * 64 + tailBits b), 1) else none
      | _ => none
    else if 0xE0 ≤ a ∧ a ≤ 0xEF then
      match rest with
      | b :: c :: _ =>
        if secondFits a b && isTail c then
          some (Char.ofNat (((a.toNat - 0xE0) * 64 + tailBits b) * 64 + tailBits c), 2)
        else none
      | _ => none
    else if 0xF0 ≤ a ∧ a ≤ 0xF4 then
      match rest with
      | b :: c :: d :: _ =>
        if secondFits a b && isTail c && isTail d then
          some (Char.ofNat
            ((((a.toNat - 0xF0) * 64 + tailBits b) * 64 + tailBits c) * 64 + tailBits d), 3)
        else none
      | _ => none
    else none

def decode : List UInt8 → List Glyph
  | [] => []
  | a :: rest =>
    match front (a :: rest) with
    | some (c, more) => .char c :: decode (rest.drop more)
    | none => .stray a :: decode rest
termination_by bytes => bytes.length
decreasing_by all_goals simp only [List.length_drop, List.length_cons]; omega

end Utf8

def Glyph.width : Glyph → Nat
  | .char c => c.utf8Size
  | .stray _ => 1

def Glyph.isControl : Glyph → Bool
  | .char c => c.toNat < 32
  | .stray _ => false

end Redelivery.Text
