import Redelivery.Json.Cursor

/-! Numbers. A whole number that fits in 64 bits is kept as it is; every other number becomes a
floating-point one, from its leading digits that fit in 64 bits and a power of ten. -/
namespace Redelivery.Json

open Text (Glyph)

inductive Number where
  | whole (n : Int)
  | float (x : Float)

def Number.found : Number → Found
  | .whole n => .integer n
  | .float x => .float x

namespace Reader

def digitOf : Option Glyph → Option Nat
  | some (.char c) => if Whole.isDigit c then some (Whole.digitValue c) else none
  | _ => none

def isMark (mark : Char) : Option Glyph → Bool
  | some (.char c) => c = mark
  | _ => false

def isExponentMark (g : Option Glyph) : Bool := isMark 'e' g || isMark 'E' g

def powerOfTen (n : Nat) : Float := Float.ofScientific 1 false n

/-- The digits times a power of ten, computed in floating point step by step. -/
def scaleFloat : Nat → Float → Int → Option Float
  | 0, f, _ => some f
  | more + 1, f, exponent =>
    if exponent.natAbs ≤ 308 then
      if 0 ≤ exponent then
        let scaled := f * powerOfTen exponent.natAbs
        if scaled.isInf then none else some scaled
      else some (f / powerOfTen exponent.natAbs)
    else if f == 0.0 then some f
    else if 0 ≤ exponent then none
    else scaleFloat more (f / powerOfTen 308) (exponent + 308)

def signed (positive : Bool) (x : Float) : Float := if positive then x else -x

def floatOf (positive : Bool) (digits : Nat) (exponent : Int) : Reader Float :=
  match scaleFloat (exponent.natAbs / 308 + 2) digits.toUInt64.toFloat exponent with
  | some x => return signed positive x
  | none => failHere .numberOutOfRange

def skipDigits : Nat → Reader Unit
  | 0 => return ()
  | more + 1 => do
    match digitOf (← peek) with
    | some _ =>
      eat
      skipDigits more
    | none => return ()

/-- Reads further digits onto a number while it does not pass a limit; says how many were read
and whether a digit was left that would pass it. -/
def digitsWithin (limit : Nat) : Nat → Nat → Nat → Reader (Nat × Nat × Bool)
  | 0, value, count => return (value, count, false)
  | more + 1, value, count => do
    match digitOf (← peek) with
    | some d =>
      if limit < value * 10 + d then return (value, count, true)
      else
        eat
        digitsWithin limit more (value * 10 + d) (count + 1)
    | none => return (value, count, false)

def countDigits : Nat → Nat → Reader Nat
  | 0, count => return count
  | more + 1, count => do
    match digitOf (← peek) with
    | some _ =>
      eat
      countDigits more (count + 1)
    | none => return count

def exponentSign : Reader Bool := do
  let g ← peek
  if isMark '+' g then
    eat
    return true
  else if isMark '-' g then
    eat
    return false
  else return true

def exponentPart (positive : Bool) (digits : Nat) (before : Int) : Reader Float := do
  eat
  let up ← exponentSign
  match ← peek with
  | none => failHere .endInValue
  | some g =>
    match digitOf (some g) with
    | none => failNext .badNumber
    | some d =>
      eat
      let (exponent, _, overflow) ← digitsWithin 2147483647 (← turns) d 0
      if overflow then
        eat
        if digits ≠ 0 ∧ up then failHere .numberOutOfRange
        else
          skipDigits (← turns)
          return signed positive 0.0
      else
        let total := if up then before + exponent else before - exponent
        floatOf positive digits (max (-2147483648) (min 2147483647 total))

def fractionPart (positive : Bool) (digits : Nat) (before : Int) : Reader Float := do
  eat
  let (value, count, overflow) ← digitsWithin Whole.max64 (← turns) digits 0
  let exponent := before - count
  if overflow then skipDigits (← turns)
  else if count = 0 then
    match ← peek with
    | some _ => failNext .badNumber
    | none => failNext .endInValue
  if isExponentMark (← peek) then exponentPart positive value exponent
  else floatOf positive value exponent

/-- A number whose leading digits fill 64 bits; the other digits only count. -/
def longNumber (positive : Bool) (digits : Nat) : Reader Float := do
  let count ← countDigits (← turns) 0
  let g ← peek
  if isMark '.' g then fractionPart positive digits count
  else if isExponentMark g then exponentPart positive digits count
  else floatOf positive digits count

def numberRest (positive : Bool) (digits : Nat) : Reader Number := do
  let g ← peek
  if isMark '.' g then return .float (← fractionPart positive digits 0)
  else if isExponentMark g then return .float (← exponentPart positive digits 0)
  else if positive then return .whole digits
  else if digits = 0 ∨ 9223372036854775808 < digits then return .float (-(digits.toUInt64.toFloat))
  else return .whole (-(digits : Int))

def unsignedNumber (positive : Bool) : Reader Number := do
  match ← peek with
  | none => failHere .endInValue
  | some g =>
    match digitOf (some g) with
    | none => failNext .badNumber
    | some 0 =>
      eat
      if (digitOf (← peek)).isSome then failNext .badNumber else numberRest positive 0
    | some d =>
      eat
      let (digits, _, overflow) ← digitsWithin Whole.max64 (← turns) d 0
      if overflow then return .float (← longNumber positive digits)
      else numberRest positive digits

def number : Reader Number := do
  if isMark '-' (← peek) then
    eat
    unsignedNumber false
  else unsignedNumber true

def skipExponent : Reader Unit := do
  eat
  discard exponentSign
  match digitOf (← peek) with
  | some _ => skipDigits (← turns)
  | none =>
    match ← peek with
    | some _ => failNext .badNumber
    | none => failHere .badNumber

def skipFraction : Reader Unit := do
  eat
  match digitOf (← peek) with
  | none => failNext .badNumber
  | some _ =>
    skipDigits (← turns)
    if isExponentMark (← peek) then skipExponent else return ()

def skipUnsigned : Reader Unit := do
  match ← peek with
  | none => failHere .badNumber
  | some g =>
    match digitOf (some g) with
    | none => failNext .badNumber
    | some d =>
      eat
      if d = 0 then
        if (digitOf (← peek)).isSome then failNext .badNumber
      else skipDigits (← turns)
      let after ← peek
      if isMark '.' after then skipFraction
      else if isExponentMark after then skipExponent
      else return ()

def skipNumber : Reader Unit := do
  if isMark '-' (← peek) then
    eat
    skipUnsigned
  else skipUnsigned

end Reader
end Redelivery.Json
