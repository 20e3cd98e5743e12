import Redelivery.Text.Pattern.Atom
import Redelivery.Text.Pattern.Depth

/-! Sets of characters in brackets: characters, ranges, kinds with a name and other sets, joined
by doubled marks. A closing bracket in front of all else is a character, and so are dashes in
front and before the closing bracket. -/
namespace Redelivery.Text

inductive SetPlace where
  | start
  | afterDashes
  | inside
  deriving DecidableEq, Repr

structure OpenSet where
  place : SetPlace := .start
  /-- How deep the part before the last doubled mark is nested, if there is such a mark. -/
  left : Option Nat := none
  row : PatternRow := {}
  deriving DecidableEq, Repr

namespace OpenSet

def depth (s : OpenSet) : Nat :=
  match s.left with
  | none => s.row.depth
  | some left => max left s.row.depth + 1

def add (s : OpenSet) (depth : Nat) : OpenSet :=
  { s with place := .inside, row := s.row.add depth }

def joined (s : OpenSet) : OpenSet := { place := .inside, left := some s.depth }

def kindNames : List String :=
  ["alnum", "alpha", "ascii", "blank", "cntrl", "digit", "graph", "lower", "print", "punct",
   "space", "upper", "word", "xdigit"]

/-- A kind by its name between colons, after the opening bracket, and whether it is negated. -/
def readKind : List Char → Option (Bool × List Char)
  | ':' :: cs =>
    let (negated, cs) := match cs with
      | '^' :: cs => (true, cs)
      | cs => (false, cs)
    match cs.dropWhile (· ≠ ':') with
    | ':' :: ']' :: rest =>
      if kindNames.contains (String.ofList (cs.takeWhile (· ≠ ':'))) then some (negated, rest)
      else none
    | _ => none
  | _ => none

/-- A set can hold a kind with a name. Without tables nothing has two cases, and among bytes a
negated set would hold halves of characters. -/
def admitsKind (flags : PatternFlags) (negated : Bool) : Bool :=
  if flags.unicode then !flags.anyCase else !negated

def readStart (flags : PatternFlags) (cs : List Char) : Option (List Char) :=
  match flags.skip cs with
  | '^' :: rest => if flags.unicode then some rest else none
  | rest => some rest

def readRange (flags : PatternFlags) (cs : List Char) : Option (List Char) :=
  match PatternAtom.readSetAtom flags cs with
  | none => none
  | some (first, rest) =>
    if !first.fitsSet flags then none
    else
      match flags.skip rest with
      | [] => none
      | '-' :: after =>
        if [some ']', some '-'].contains (flags.peek after) then some ('-' :: after)
        else
          match first, PatternAtom.readSetAtom flags (flags.skip after) with
          | .literal low _, some (.literal high asByte, rest) =>
            if low ≤ high && (PatternAtom.literal high asByte).fitsSet flags then some rest
            else none
          | _, _ => none
      | rest => some rest

def read (flags : PatternFlags) :
    (fuel level : Nat) → OpenSet → List Char → Option (Nat × List Char)
  | 0, _, _, _ => none
  | fuel + 1, level, s, cs =>
    let literal (c : Char) (place : SetPlace) (rest : List Char) :=
      if (PatternAtom.literal c.toNat false).fitsSet flags then
        read flags fuel level { s.add 0 with place } rest
      else none
    match s.place, flags.skip cs with
    | _, [] => none
    | .start, ']' :: rest => literal ']' .inside rest
    | .start, '-' :: rest | .afterDashes, '-' :: rest => literal '-' .afterDashes rest
    | _, ']' :: rest => some (s.depth, rest)
    | _, '&' :: '&' :: rest | _, '-' :: '-' :: rest | _, '~' :: '~' :: rest =>
      read flags fuel level s.joined rest
    | _, '[' :: rest =>
      match readKind rest with
      | some (negated, rest) =>
        if admitsKind flags negated then read flags fuel level (s.add 0) rest else none
      | none =>
        if depthLimit ≤ level then none
        else
          match (readStart flags rest).bind (read flags fuel (level + 1) {}) with
          | some (depth, rest) => read flags fuel level (s.add (depth + 1)) rest
          | none => none
    | _, rest =>
      match readRange flags rest with
      | some rest => read flags fuel level (s.add 0) rest
      | none => none

end OpenSet
end Redelivery.Text
