import Redelivery.Json.Cursor

/-! Strings between quotation marks: escapes by a letter, escapes by four hexadecimal digits, of
which a pair stands for one character beyond the first plane, and no control characters. -/
namespace Redelivery.Json.Reader

open Text (Glyph)

def letterEscape : Char → Option Char
  | '"' => some '"'
  | '\\' => some '\\'
  | '/' => some '/'
  | 'b' => some '\x08'
  | 'f' => some '\x0c'
  | 'n' => some '\n'
  | 'r' => some '\r'
  | 't' => some '\t'
  | _ => none

def hexValue : Glyph → Option Nat
  | .char c =>
    let n := c.toNat
    if 48 ≤ n ∧ n ≤ 57 then some (n - 48)
    else if 97 ≤ n ∧ n ≤ 102 then some (n - 87)
    else if 65 ≤ n ∧ n ≤ 70 then some (n - 55)
    else none
  | .stray _ => none

def fourHex (a b c d : Glyph) : Option Nat := do
  return ((← hexValue a) * 16 + (← hexValue b)) * 256 + ((← hexValue c) * 16 + (← hexValue d))

def hexEscape : Reader Nat := fun c =>
  match c.rest with
  | g₁ :: g₂ :: g₃ :: g₄ :: rest =>
    match fourHex g₁ g₂ g₃ g₄ with
    | some n => .ok n { c with rest, position := ⟨c.position.line, c.position.column + 4⟩ }
    | none => badHex c
  | _ => badHex c
where
  badHex (c : Cursor) : EStateM.Result Fault Cursor Nat :=
    let left := c.rest.foldl (fun n g => n + g.width) 0
    if left < 4 then
      .error { complaint := .endInString, position := some (c.position.afterBytes left c.rest) } c
    else .error { complaint := .badEscape, position := some (c.position.afterBytes 4 c.rest) } c

def expectMore : Reader Glyph := do
  match ← peek with
  | some g => return g
  | none => failHere .endInString

def expectPairMark (mark : Char) : Reader Unit := do
  if (← expectMore) = .char mark then eat else failNext .unfinishedPair

def codePoint : Reader Char := do
  let n ← hexEscape
  if 0xDC00 ≤ n ∧ n ≤ 0xDFFF then failHere .loneSurrogate
  else if 0xD800 ≤ n ∧ n ≤ 0xDBFF then
    expectPairMark '\\'
    expectPairMark 'u'
    let low ← hexEscape
    if 0xDC00 ≤ low ∧ low ≤ 0xDFFF then
      return Char.ofNat ((n - 0xD800) * 0x400 + (low - 0xDC00) + 0x10000)
    else failHere .loneSurrogate
  else return Char.ofNat n

def escape : Reader Char := do
  match ← expectMore with
  | .char 'u' =>
    eat
    codePoint
  | .char c =>
    match letterEscape c with
    | some escaped =>
      eat
      return escaped
    | none => failNext .badEscape
  | .stray _ => failNext .badEscape

inductive Content where
  | sound (read : List Char)
  | spoiled (bytes : Nat)

def Content.add : Content → Glyph → Content
  | .sound read, .char c => .sound (c :: read)
  | .sound _, .stray _ => .spoiled 1
  | .spoiled bytes, g => .spoiled (bytes + g.width)

/-- The end of a string behind its closing mark. Content that is not UTF-8 is refused as many
bytes before it as the content has from the first wrong byte on. -/
def closeString : Content → Reader String
  | .sound read => return String.ofList read.reverse
  | .spoiled bytes => fun c =>
    let place : Position := ⟨c.position.line, c.position.column - bytes⟩
    .error { complaint := .badCodePoint, position := some place } c

def stringWithin : Nat → Content → Reader String
  | 0, _ => failHere .endInString
  | more + 1, content => do
    match ← expectMore with
    | .char '"' =>
      eat
      closeString content
    | .char '\\' =>
      eat
      stringWithin more (content.add (.char (← escape)))
    | g =>
      if g.isControl then failNext .controlCharacter
      else
        eat
        stringWithin more (content.add g)

def stringRest : Reader String := do stringWithin (← turns) (.sound [])

def skipEscape : Reader Unit := do
  match ← expectMore with
  | .char 'u' =>
    eat
    discard hexEscape
  | .char c => if (letterEscape c).isSome then eat else failNext .badEscape
  | .stray _ => failNext .badEscape

def skipStringWithin : Nat → Reader Unit
  | 0 => failHere .endInString
  | more + 1 => do
    match ← expectMore with
    | .char '"' => eat
    | .char '\\' =>
      eat
      skipEscape
      skipStringWithin more
    | g =>
      if g.isControl then failHere .controlCharacter
      else
        eat
        skipStringWithin more

def skipString : Reader Unit := do skipStringWithin (← turns)

end Redelivery.Json.Reader
