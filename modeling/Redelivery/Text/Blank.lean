/-! White space as Unicode defines it, and the two ends of a text without it.
A text is blank when nothing is left after trimming. -/
namespace Redelivery.Text

/-- The characters with the Unicode property White_Space. -/
def isBlank (c : Char) : Bool :=
  let n := c.toNat
  (9 ≤ n && n ≤ 13) || n == 0x20 || n == 0x85 || n == 0xA0 || n == 0x1680 ||
  (0x2000 ≤ n && n ≤ 0x200A) || n == 0x2028 || n == 0x2029 || n == 0x202F ||
  n == 0x205F || n == 0x3000

def trimStart (cs : List Char) : List Char := cs.dropWhile isBlank
def trimEnd (cs : List Char) : List Char := (trimStart cs.reverse).reverse

def trim (cs : List Char) : List Char := trimEnd (trimStart cs)

def isBlankText (s : String) : Bool := (trim s.toList).isEmpty

/-- The lower-case form of an ASCII letter; every other character stays. -/
def lower (c : Char) : Char :=
  if 'A' ≤ c ∧ c ≤ 'Z' then Char.ofNat (c.toNat + 32) else c

def sameLetters (s t : String) : Bool := s.toList.map lower == t.toList.map lower

end Redelivery.Text
