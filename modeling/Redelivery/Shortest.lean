import Redelivery.Whole

/-! The shortest decimal text that reads back as a given binary floating-point number. The number
is m · 2^q; the reals that round to it form an interval around it, with its ends if m is even.
On the grid of each number of digits only the two neighbours of the number can lie inside, and
the first grid with one inside gives the digits. -/
namespace Redelivery.Shortest

/-- A positive number m · 2^q; a power of two has a nearer neighbour below. -/
structure Binary where
  mantissa : Nat
  exponent : Int
  nearBelow : Bool

/-- Two to the power of 52: mantissas have one bit more than their fractions. -/
def hiddenBit : Nat := 4503599627370496

/-- The parts of a positive number of 64 bits, given by its bits without the sign. -/
def ofBits (bits : Nat) : Binary :=
  let fraction : Nat := bits % hiddenBit
  let biased : Nat := bits / hiddenBit % 2048
  if biased = 0 then ⟨fraction, -1074, false⟩
  else ⟨fraction + hiddenBit, (biased : Int) - 1075, fraction = 0 && 1 < biased⟩

structure Ratio where
  num : Nat
  den : Nat

def Ratio.scaled (n : Nat) (two ten : Int) : Ratio :=
  ⟨n * Nat.pow 2 two.toNat * Nat.pow 10 ten.toNat,
    Nat.pow 2 (-two).toNat * Nat.pow 10 (-ten).toNat⟩

def Ratio.le (a b : Ratio) : Bool := a.num * b.den ≤ b.num * a.den
def Ratio.lt (a b : Ratio) : Bool := a.num * b.den < b.num * a.den

/-- Whether a number of grid steps lies in the rounding interval, all measured in steps. -/
def inside (b : Binary) (low high : Ratio) (n : Nat) : Bool :=
  let point : Ratio := ⟨n, 1⟩
  if b.mantissa % 2 = 0 then low.le point && point.le high
  else low.lt point && point.lt high

def onGrid (b : Binary) (power : Int) : Option Nat :=
  let value := Ratio.scaled (4 * b.mantissa) (b.exponent - 2) (-power)
  let high := Ratio.scaled (4 * b.mantissa + 2) (b.exponent - 2) (-power)
  let low := Ratio.scaled (4 * b.mantissa - (if b.nearBelow then 1 else 2)) (b.exponent - 2) (-power)
  let down := value.num / value.den
  let up := down + 1
  match 0 < down && inside b low high down, inside b low high up with
  | true, true =>
    let rest := value.num % value.den
    if 2 * rest < value.den || (2 * rest = value.den && down % 2 = 0) then some down else some up
  | true, false => some down
  | false, true => some up
  | false, false => none

/-- The first grid from coarse to fine with a point inside. -/
def search (b : Binary) : Nat → Int → Nat × Int
  | 0, power => ((onGrid b power).getD 0, power)
  | steps + 1, power =>
    match onGrid b power with
    | some n => (n, power)
    | none => search b steps (power - 1)

/-- Trailing zeros of the digits moved into the power of ten. -/
def stripZeros : Nat → Nat → Int → Nat × Int
  | 0, n, power => (n, power)
  | fuel + 1, n, power =>
    if n % 10 = 0 ∧ n ≠ 0 then stripZeros fuel (n / 10) (power + 1) else (n, power)

def digits (b : Binary) : Nat × Int :=
  let (n, power) := search b 660 309
  stripZeros 20 n power

def exponentText (exponent : Int) : List Char :=
  (if 0 ≤ exponent then ['+'] else []) ++ (Whole.signedText exponent).toList

/-- Digits with a point: as a whole number up to sixteen places, with leading zeros down to five
places, else with an exponent. -/
def layout (n : Nat) (power : Int) : List Char :=
  let ds := Whole.decimal n
  let length : Int := ds.length
  let point := length + power
  if 0 ≤ power ∧ point ≤ 16 then ds ++ List.replicate power.toNat '0' ++ ['.', '0']
  else if 0 < point ∧ point ≤ 16 then ds.take point.toNat ++ '.' :: ds.drop point.toNat
  else if -5 < point ∧ point ≤ 0 then
    '0' :: '.' :: List.replicate (-point).toNat '0' ++ ds
  else
    ds.take 1 ++ (if ds.length = 1 then [] else '.' :: ds.drop 1) ++
      'e' :: exponentText (point - 1)

def text (x : Float) : String :=
  let bits := x.toBits.toNat
  let sign := if 9223372036854775808 ≤ bits then "-" else ""
  let magnitude := bits % 9223372036854775808
  if magnitude = 0 then sign ++ "0.0"
  else
    let (n, power) := digits (ofBits magnitude)
    sign ++ String.ofList (layout n power)

end Redelivery.Shortest
