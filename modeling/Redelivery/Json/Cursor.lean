import Redelivery.Json.Fault
import Redelivery.Text.Utf8

/-! A reader walks over the glyphs of a text and knows its position in bytes. A fault is placed
either at the last byte read or at the byte that comes next. -/
namespace Redelivery.Json

open Text (Glyph)

structure Cursor where
  rest : List Glyph
  position : Position := {}
  /-- More than the glyphs of the whole text. -/
  bound : Nat := rest.length + 1

abbrev Reader := EStateM Fault Cursor

def Position.after (p : Position) : Glyph → Position
  | .char '\n' => ⟨p.line + 1, 0⟩
  | g => ⟨p.line, p.column + g.width⟩

def Position.afterByte (p : Position) : Glyph → Position
  | .char '\n' => ⟨p.line + 1, 0⟩
  | _ => ⟨p.line, p.column + 1⟩

def Position.afterBytes (p : Position) : Nat → List Glyph → Position
  | 0, _ => p
  | _ + 1, [] => p
  | n + 1, g :: rest =>
    if g.width ≤ n + 1 then (p.after g).afterBytes (n + 1 - g.width) rest
    else ⟨p.line, p.column + (n + 1)⟩
termination_by _ glyphs => glyphs.length

namespace Cursor

def nextPosition (c : Cursor) : Position :=
  match c.rest with
  | [] => c.position
  | g :: _ => c.position.afterByte g

def step (c : Cursor) : Cursor :=
  match c.rest with
  | [] => c
  | g :: rest => { c with rest, position := c.position.after g }

end Cursor

def isSpace : Glyph → Bool
  | .char c => c = ' ' || c = '\n' || c = '\t' || c = '\r'
  | .stray _ => false

def skipSpaces : List Glyph → Position → List Glyph × Position
  | [], p => ([], p)
  | g :: rest, p => if isSpace g then skipSpaces rest (p.after g) else (g :: rest, p)

namespace Reader

def failHere {α : Type} (complaint : Complaint) : Reader α := fun c =>
  .error { complaint, position := some c.position } c

def failNext {α : Type} (complaint : Complaint) : Reader α := fun c =>
  .error { complaint, position := some c.nextPosition } c

def failUnplaced {α : Type} (complaint : Complaint) : Reader α := fun c =>
  .error { complaint } c

def peek : Reader (Option Glyph) := fun c => .ok c.rest.head? c
def eat : Reader Unit := fun c => .ok () c.step

def peekSolid : Reader (Option Glyph) := fun c =>
  let (rest, position) := skipSpaces c.rest c.position
  .ok rest.head? { c with rest, position }

def peekValue : Reader Glyph := do
  match ← peekSolid with
  | some g => return g
  | none => failNext .endInValue

def placed {α : Type} (reader : Reader α) : Reader α := fun c =>
  match reader c with
  | .ok a c => .ok a c
  | .error fault c => .error { fault with position := fault.position.or (some c.position) } c

/-- Runs a closing reader after another one in any case; the first fault counts. -/
def closedBy {α : Type} (reader : Reader α) (closing : Reader Unit) : Reader α := fun c =>
  match reader c with
  | .ok a c =>
    match closing c with
    | .ok _ c => .ok a c
    | .error fault c => .error fault c
  | .error fault c =>
    match closing c with
    | .ok _ c => .error fault c
    | .error _ c => .error fault c

def ident : List Char → Reader Unit
  | [] => return ()
  | letter :: letters => do
    match ← peek with
    | none => failHere .endInValue
    | some g =>
      if g = .char letter then
        eat
        ident letters
      else failNext .expectedIdent

/-- As often as that a loop can go on, since every turn takes a glyph. -/
def turns : Reader Nat := fun c => .ok c.bound c

end Reader
end Redelivery.Json
