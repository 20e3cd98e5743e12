import Redelivery.Text.Alphanumeric
import Redelivery.Text.Pattern.CharacterSet
import Redelivery.Whole

/-! Which texts are search patterns: alternatives, groups, repetitions, sets in brackets and
escapes, read one piece after another. References to groups, looking around and repetitions
counted in braces are not part of the language. -/
namespace Redelivery.Text

/-- A group that is read up to some point, or the whole pattern. -/
structure OpenGroup where
  flags : PatternFlags := {}
  /-- The alternatives before the one that is read. -/
  alternatives : PatternRow := {}
  row : PatternRow := {}
  /-- The depth of the piece after them, which can be repeated. -/
  last : Option Nat := none
  names : List (List Char) := []

namespace OpenGroup

def pieces (g : OpenGroup) : PatternRow :=
  match g.last with
  | some depth => g.row.add depth
  | none => g.row

def depth (g : OpenGroup) : Nat := (g.alternatives.add g.pieces.depth).depth

def add (g : OpenGroup) (depth : Nat) : OpenGroup := { g with row := g.pieces, last := some depth }

def change (g : OpenGroup) (flags : PatternFlags) : OpenGroup :=
  { g with flags, row := g.pieces.add 0, last := none }

def repeated (g : OpenGroup) : Option OpenGroup :=
  g.last.map fun depth => { g with last := some (depth + 1) }

def next (g : OpenGroup) : OpenGroup :=
  { g with alternatives := g.alternatives.add g.pieces.depth, row := {}, last := none }

def isName : List Char → Bool
  | [] => false
  | first :: rest =>
    (first = '_' || isAlphabetic first) &&
    rest.all fun c => ['_', '.', '[', ']'].contains c || isAlphanumeric c

inductive Opening where
  | group (flags : PatternFlags) (names : List (List Char))
  | change (flags : PatternFlags)

def readName (g : OpenGroup) (cs : List Char) : Option (Opening × List Char) :=
  let name := cs.takeWhile (· ≠ '>')
  match cs.dropWhile (· ≠ '>') with
  | _ :: rest =>
    if isName name && !g.names.contains name then some (.group g.flags (name :: g.names), rest)
    else none
  | [] => none

def readOpening (g : OpenGroup) (cs : List Char) : Option (Opening × List Char) :=
  match g.flags.skip cs with
  | '?' :: 'P' :: '<' :: rest | '?' :: '<' :: rest => g.readName rest
  | '?' :: rest =>
    match g.flags.read [] rest with
    | some (flags, _, ':' :: rest) => some (.group flags g.names, rest)
    | some (flags, _ :: _, _ :: rest) => some (.change flags, rest)
    | _ => none
  | rest => some (.group g.flags g.names, rest)

/-- The text after the mark of a repetition that ends as soon as it can. -/
def afterLazy : List Char → List Char
  | '?' :: rest => rest
  | rest => rest

def read : (fuel level : Nat) → OpenGroup → List Char → Option (OpenGroup × List Char)
  | 0, _, _, _ => none
  | fuel + 1, level, g, cs =>
    match g.flags.skip cs with
    | [] => if level = 0 then some (g, []) else none
    | ')' :: rest => if level = 0 then none else some (g, rest)
    | '|' :: rest => read fuel level g.next rest
    | '(' :: rest =>
      match g.readOpening rest with
      | none => none
      | some (.change flags, rest) => read fuel level (g.change flags) rest
      | some (.group flags names, rest) =>
        if depthLimit ≤ level then none
        else
          match read fuel (level + 1) { flags, names } rest with
          | some (inner, rest) =>
            read fuel level { g.add (inner.depth + 1) with names := inner.names } rest
          | none => none
    | '[' :: rest =>
      match (OpenSet.readStart g.flags rest).bind (OpenSet.read g.flags fuel 1 {}) with
      | some (depth, rest) => read fuel level (g.add (depth + 1)) rest
      | none => none
    | '*' :: rest | '+' :: rest | '?' :: rest =>
      match g.repeated with
      | some g => read fuel level g (afterLazy rest)
      | none => none
    | '\x7b' :: _ => none
    | cs =>
      match PatternAtom.readAtom g.flags cs with
      | some (atom, rest) => if atom.fits g.flags then read fuel level (g.add 0) rest else none
      | none => none

end OpenGroup

def isPattern (cs : List Char) : Bool :=
  (OpenGroup.read (cs.length + 1) 0 {} cs).any fun (g, _) => g.depth ≤ depthLimit

def isExponent : List Char → Bool
  | [] => true
  | e :: rest =>
    let digits :=
      match rest with
      | '+' :: digits | '-' :: digits => digits
      | _ => rest
    (e = 'e' || e = 'E') && !digits.isEmpty && digits.all Whole.isDigit

def isDecimal (cs : List Char) : Bool :=
  let whole := cs.takeWhile Whole.isDigit
  match cs.dropWhile Whole.isDigit with
  | '.' :: rest =>
    !(whole.isEmpty && (rest.takeWhile Whole.isDigit).isEmpty) &&
    isExponent (rest.dropWhile Whole.isDigit)
  | rest => !whole.isEmpty && isExponent rest

def isPatternOrNumber : List Char → Bool
  | '+' :: rest =>
    isDecimal rest || ["inf", "infinity", "nan"].any (sameLetters (String.ofList rest))
  | cs => isPattern cs

end Redelivery.Text
