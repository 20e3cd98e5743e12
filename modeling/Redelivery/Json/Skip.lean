import Redelivery.Json.Numbers
import Redelivery.Json.Strings

/-! Values that nobody asked for are passed over, however deep they nest; only their form is
checked. -/
namespace Redelivery.Json

open Text (Glyph)

inductive Frame where
  | list
  | object
  deriving DecidableEq, Repr

namespace Frame

def closing : Frame → Glyph
  | .list => .char ']'
  | .object => .char '\x7d'

def atEnd : Frame → Complaint
  | .list => .endInList
  | .object => .endInObject

def expected : Frame → Complaint
  | .list => .expectedCommaOrListEnd
  | .object => .expectedCommaOrObjectEnd

end Frame

namespace Reader

def colon : Reader Unit := do
  match ← peekSolid with
  | some (.char ':') => eat
  | some _ => failNext .expectedColon
  | none => failNext .endInObject

def skipSimple : Reader (Option Frame) := do
  match ← peekValue with
  | .char 'n' =>
    eat
    ident ['u', 'l', 'l']
    return none
  | .char 't' =>
    eat
    ident ['r', 'u', 'e']
    return none
  | .char 'f' =>
    eat
    ident ['a', 'l', 's', 'e']
    return none
  | .char '"' =>
    eat
    skipString
    return none
  | .char '[' =>
    eat
    return some .list
  | .char '\x7b' =>
    eat
    return some .object
  | .char c =>
    if c = '-' || Whole.isDigit c then
      skipNumber
      return none
    else failNext .expectedValue
  | .stray _ => failNext .expectedValue

/-- Closes what can be closed and shows the frames that expect one more value. A comma is only
in its place after a value. -/
def closeFrames : Bool → List Frame → Reader (List Frame)
  | _, [] => return []
  | afterValue, frame :: outer => do
    match ← peekSolid with
    | none => failNext frame.atEnd
    | some g =>
      if afterValue && g = .char ',' then
        eat
        return frame :: outer
      else if g = frame.closing then
        eat
        closeFrames true outer
      else if afterValue then failNext frame.expected
      else return frame :: outer

def skipKey : Reader Unit := do
  match ← peekSolid with
  | some (.char '"') =>
    eat
    skipString
    colon
  | some _ => failNext .keyNotString
  | none => failNext .endInObject

def skipWithin : Nat → List Frame → Reader Unit
  | 0, _ => failHere .endInValue
  | more + 1, frames => do
    let open' ← match ← skipSimple with
      | none => closeFrames true frames
      | some frame => closeFrames false (frame :: frames)
    match open' with
    | [] => return ()
    | .list :: _ => skipWithin more open'
    | .object :: _ =>
      skipKey
      skipWithin more open'

def skipValue : Reader Unit := do skipWithin (← turns) []

end Reader
end Redelivery.Json
