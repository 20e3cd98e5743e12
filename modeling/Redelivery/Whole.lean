/-! Whole numbers as decimal text. The writer gives the shortest form; the reader also takes
leading zeros and one plus sign, and says which of four faults stopped it. The first fault
from the left wins, so a number that is too large is refused before a later bad character. -/
namespace Redelivery.Whole

def digitChar (d : Nat) : Char := Char.ofNat (48 + d)

def decimal (n : Nat) : List Char :=
  if n < 10 then [digitChar n] else decimal (n / 10) ++ [digitChar (n % 10)]

def text (n : Nat) : String := String.ofList (decimal n)

/-- Decimal digits, filled up with zeros on the left to a given width. -/
def padded (width n : Nat) : List Char :=
  List.replicate (width - (decimal n).length) '0' ++ decimal n

inductive Fault where
  | empty
  | badDigit
  | tooLarge
  | tooSmall
  deriving DecidableEq, Repr

def Fault.message : Fault → String
  | .empty => "cannot parse integer from empty string"
  | .badDigit => "invalid digit found in string"
  | .tooLarge => "number too large to fit in target type"
  | .tooSmall => "number too small to fit in target type"

def isDigit (c : Char) : Bool := 48 ≤ c.toNat && c.toNat ≤ 57
def digitValue (c : Char) : Nat := c.toNat - 48

def readDigits (limit : Nat) (onOverflow : Fault) : Nat → List Char → Except Fault Nat
  | value, [] => .ok value
  | value, c :: rest =>
    if isDigit c then
      let next := 10 * value + digitValue c
      if limit < next then .error onOverflow else readDigits limit onOverflow next rest
    else .error .badDigit

def readNat (limit : Nat) : List Char → Except Fault Nat
  | [] => .error .empty
  | ['+'] => .error .badDigit
  | '+' :: rest => readDigits limit .tooLarge 0 rest
  | cs => readDigits limit .tooLarge 0 cs

/-- Reads a number from minus the lower limit to the upper limit. -/
def readInt (lowest limit : Nat) : List Char → Except Fault Int
  | [] => .error .empty
  | ['+'] => .error .badDigit
  | ['-'] => .error .badDigit
  | '+' :: rest => (readDigits limit .tooLarge 0 rest).map Int.ofNat
  | '-' :: rest => (readDigits lowest .tooSmall 0 rest).map fun n => -(Int.ofNat n)
  | cs => (readDigits limit .tooLarge 0 cs).map Int.ofNat

def signedText : Int → String
  | .ofNat n => text n
  | .negSucc n => "-" ++ text (n + 1)

def max8 : Nat := 255
def max32 : Nat := 4294967295
def max64 : Nat := 18446744073709551615

end Redelivery.Whole
