import Redelivery.Log
import Redelivery.Text.Alphanumeric
import Redelivery.Text.Blank
import Redelivery.Text.Pattern
import Redelivery.Text.Pieces

/-! One rule about which log entries are shown, and its text form `target[span{field}]=level`,
of which every part can be missing. A rule that names a span or the value of a field is about
spans; no entry is written inside one, so such a rule decides about no entry. -/
namespace Redelivery

abbrev LogBound := Option LogLevel

structure LogField where
  name : String
  value : Option String
  deriving DecidableEq, Repr

structure LogRule where
  target : String := ""
  span : Option String := none
  field : Option LogField := none
  bound : LogBound
  deriving DecidableEq, Repr

inductive LogRuleFault where
  | malformed
  /-- A piece would begin or end inside a character. -/
  | broken
  deriving DecidableEq, Repr

namespace LogRule

def bounds : List (String × LogBound) :=
  [("off", none), ("error", some .error), ("warn", some .warn), ("info", some .info),
   ("debug", some .debug), ("trace", some .trace)]

def boundOf? (cs : List Char) : Option LogBound :=
  match Whole.readNat Whole.max64 cs with
  | .ok n => (bounds[n]?).map (·.2)
  | .error _ => (bounds.find? fun b => Text.sameLetters (String.ofList cs) b.1).map (·.2)

/-- What stands after the equals sign. Nothing is as much as everything. -/
def boundOf (cs : List Char) : Except LogRuleFault LogBound :=
  if cs.isEmpty then .ok (some .trace)
  else
    match boundOf? cs with
    | some bound => .ok bound
    | none => .error .malformed

def fieldOf (cs : List Char) : Except LogRuleFault LogField :=
  match Text.split '=' cs with
  | name :: value :: _ =>
    if Text.isPatternOrNumber value then .ok ⟨String.ofList name, some (String.ofList value)⟩
    else .error .malformed
  | [name] => if name.isEmpty then .error .malformed else .ok ⟨String.ofList name, none⟩
  | [] => .error .malformed

def startsRule (c : Char) : Bool := c = '-' || c = ':' || c = '_' || Text.isAlphanumeric c

def piece (part : List Char) (start stop : Nat) : Except LogRuleFault (List Char) :=
  match Text.between? start stop part with
  | some cs => .ok cs
  | none => .error .broken

def pieceFrom (part : List Char) (start : Nat) : Except LogRuleFault (List Char) :=
  piece part start (Text.byteCount part)

def endOf (part : List Char) (position : Nat) : List Char → Except LogRuleFault LogBound
  | [] => .ok (some .trace)
  | '=' :: _ => do boundOf (← pieceFrom part (position + 1))
  | _ => .error .malformed

def ofSpan (part : List Char) (target : String) (position : Nat) (cs : List Char) :
    Except LogRuleFault LogRule := do
  let endsName (c : Char) : Bool := c = ']' || c = '\x7b'
  let stop := position + Text.byteCount (cs.takeWhile (!endsName ·))
  match cs.dropWhile (!endsName ·) with
  | ']' :: rest =>
    let name ← piece part position stop
    return { target, span := some (String.ofList name), bound := ← endOf part (stop + 1) rest }
  | '\x7b' :: inner =>
    let name ← piece part position stop
    let span := if name.isEmpty then none else some (String.ofList name)
    let position := stop + 1
    let stop := position + Text.byteCount (inner.takeWhile (· ≠ '\x7d'))
    match inner.dropWhile (· ≠ '\x7d') with
    | [] => throw .malformed
    | _ :: rest =>
      let field ← fieldOf (← piece part position stop)
      match rest with
      | ']' :: rest =>
        return { target, span, field := some field, bound := ← endOf part (stop + 2) rest }
      | _ => throw .malformed
  | _ => throw .malformed

/-- The rule in a text. Its marks are found without the white space around the text; the pieces
are cut from the whole text at the same bytes, so white space in front moves each of them. -/
def ofText (part : List Char) : Except LogRuleFault LogRule := do
  let trimmed := Text.trim part
  match trimmed with
  | [] => throw .malformed
  | '[' :: rest => ofSpan part "" 1 rest
  | first :: _ =>
    if !startsRule first then throw .malformed
    let endsTarget (c : Char) : Bool := c = '=' || c = '['
    let stop := Text.byteCount (trimmed.takeWhile (!endsTarget ·))
    match trimmed.dropWhile (!endsTarget ·) with
    | [] =>
      return match boundOf? part with
        | some bound => { bound }
        | none => { target := String.ofList part, bound := some .trace }
    | mark :: rest =>
      let target := String.ofList (← piece part 0 stop)
      if mark = '=' then return { target, bound := ← boundOf (← pieceFrom part (stop + 1)) }
      else ofSpan part target (stop + 1) rest

def decides (rule : LogRule) : Bool :=
  rule.span.isNone && !rule.field.any (·.value.isSome)

def entryNames (e : LogEntry) : List String := "message" :: e.fields.map (·.1)

def covers (rule : LogRule) (e : LogEntry) : Bool :=
  rule.decides && rule.target.toList.isPrefixOf e.target.toList &&
  rule.field.all fun field => (entryNames e).contains field.name

/-- A rule gives way to a later one that is at least as close: its target is shorter, or as long
and it names no field, or one that is not later in the order of texts. -/
def yieldsTo (rule other : LogRule) : Bool :=
  let size (r : LogRule) := r.target.utf8ByteSize
  let name (r : LogRule) := (r.field.map (·.name)).getD ""
  size rule < size other || size rule == size other &&
    (rule.field.isNone || other.field.isSome && name rule ≤ name other)

end LogRule
end Redelivery
