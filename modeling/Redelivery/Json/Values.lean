import Redelivery.Json.Skip

/-! Values of an expected kind: texts, whole numbers up to a bound, lists, maps, and records whose
fields stand in an object under their names or in a list in their order. A field that is given
twice or not at all is a fault; a member nobody asked for is passed over. -/
namespace Redelivery.Json

open Text (Glyph)

namespace Reader

def refuse {α : Type} (expected : String) : Reader α := placed do
  let wrong (found : Found) : Reader α := failUnplaced (.wrongType found expected)
  match ← peek with
  | some (.char 'n') =>
    eat
    ident ['u', 'l', 'l']
    wrong .null
  | some (.char 't') =>
    eat
    ident ['r', 'u', 'e']
    wrong (.bool true)
  | some (.char 'f') =>
    eat
    ident ['a', 'l', 's', 'e']
    wrong (.bool false)
  | some (.char '"') =>
    eat
    wrong (.text (← stringRest))
  | some (.char '[') => wrong .list
  | some (.char '\x7b') => wrong .object
  | some (.char c) =>
    if c = '-' || Whole.isDigit c then wrong (← number).found else failNext .expectedValue
  | _ => failNext .expectedValue

def text : Reader String := do
  match ← peekValue with
  | .char '"' =>
    eat
    stringRest
  | _ => refuse "a string"

def natural (limit : Nat) (type : String) : Reader Nat := do
  match ← peekValue with
  | .char c =>
    if c = '-' || Whole.isDigit c then placed do
      match ← number with
      | .whole n =>
        if 0 ≤ n ∧ n ≤ limit then return n.toNat
        else failUnplaced (.wrongValue (.integer n) type)
      | .float x => failUnplaced (.wrongType (.float x) type)
    else refuse type
  | .stray _ => refuse type

def listEnd : Reader Unit := do
  match ← peekSolid with
  | some (.char ']') => eat
  | some (.char ',') =>
    eat
    match ← peekSolid with
    | some (.char ']') => failNext .trailingComma
    | _ => failNext .trailingCharacters
  | some _ => failNext .trailingCharacters
  | none => failNext .endInList

def objectEnd : Reader Unit := do
  match ← peekSolid with
  | some (.char '\x7d') => eat
  | some (.char ',') => failNext .trailingComma
  | some _ => failNext .trailingCharacters
  | none => failNext .endInObject

def moreElements (first : Bool) : Reader Bool := do
  match ← peekSolid with
  | some (.char ']') => return false
  | none => failNext .endInList
  | some g =>
    if first then return true
    else if g = .char ',' then
      eat
      match ← peekSolid with
      | some (.char ']') => failNext .trailingComma
      | some _ => return true
      | none => failNext .endInValue
    else failNext .expectedCommaOrListEnd

def nextKey (first : Bool) : Reader (Option String) := do
  match ← peekSolid with
  | some (.char '\x7d') => return none
  | none => failNext .endInObject
  | some g =>
    if first then
      if g = .char '"' then
        eat
        return some (← stringRest)
      else failNext .keyNotString
    else if g = .char ',' then
      eat
      match ← peekSolid with
      | some (.char '"') =>
        eat
        return some (← stringRest)
      | some (.char '\x7d') => failNext .trailingComma
      | some _ => failNext .keyNotString
      | none => failNext .endInValue
    else failNext .expectedCommaOrObjectEnd

def elementsWithin {α : Type} (element : Reader α) : Nat → List α → Reader (List α)
  | 0, _ => failHere .endInList
  | more + 1, read => do
    if ← moreElements read.isEmpty then elementsWithin element more ((← element) :: read)
    else return read.reverse

def list {α : Type} (element : Reader α) : Reader (List α) := do
  match ← peekValue with
  | .char '[' => placed do
    eat
    closedBy (do elementsWithin element (← turns) []) listEnd
  | _ => refuse "a sequence"

def membersWithin {α : Type} (value : Reader α) : Nat → List (String × α) →
    Reader (List (String × α))
  | 0, _ => failHere .endInObject
  | more + 1, read => do
    match ← nextKey read.isEmpty with
    | none => return read.reverse
    | some key =>
      colon
      membersWithin value more ((key, ← value) :: read)

def map {α : Type} (value : Reader α) : Reader (List (String × α)) := do
  match ← peekValue with
  | .char '\x7b' => placed do
    eat
    closedBy (do membersWithin value (← turns) []) objectEnd
  | _ => refuse "a map"

end Reader

structure RecordField (σ : Type) where
  name : String
  isSet : σ → Bool
  read : σ → Reader σ

namespace Reader
variable {σ : Type}

def fieldsInOrder (expected : String) : List (RecordField σ) → Nat → σ → Reader σ
  | [], _, s => return s
  | field :: rest, index, s => do
    if ← moreElements (index = 0) then fieldsInOrder expected rest (index + 1) (← field.read s)
    else failUnplaced (.wrongLength index expected)

def fieldsByName (fields : List (RecordField σ)) : Nat → Bool → σ → Reader σ
  | 0, _, _ => failHere .endInObject
  | more + 1, first, s => do
    match ← nextKey first with
    | none => return s
    | some key =>
      match fields.find? (·.name = key) with
      | none =>
        colon
        skipValue
        fieldsByName fields more false s
      | some field =>
        if field.isSet s then failUnplaced (.duplicateField key)
        else
          colon
          fieldsByName fields more false (← field.read s)

def requireAll : List (RecordField σ) → σ → Reader Unit
  | [], _ => return ()
  | field :: rest, s =>
    if field.isSet s then requireAll rest s else failUnplaced (.missingField field.name)

def record (name : String) (fields : List (RecordField σ)) (blank : σ) : Reader σ := do
  match ← peekValue with
  | .char '[' => placed do
    eat
    let expected := name ++ " with " ++ Whole.text fields.length ++ " elements"
    closedBy (fieldsInOrder expected fields 0 blank) listEnd
  | .char '\x7b' => placed do
    eat
    closedBy (do
      let s ← fieldsByName fields (← turns) true blank
      requireAll fields s
      return s) objectEnd
  | _ => refuse name

def finish : Reader Unit := do
  match ← peekSolid with
  | none => return ()
  | some _ => failNext .trailingCharacters

end Reader

def readAll {α : Type} (reader : Reader α) (glyphs : List Glyph) : Except Fault α :=
  match (do let a ← reader; Reader.finish; return a : Reader α) { rest := glyphs } with
  | .ok a _ => .ok a
  | .error fault _ => .error fault

end Redelivery.Json
