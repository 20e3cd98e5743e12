import Redelivery.Whole

/-! What user code reports when it fails: a text and the texts of its causes, outermost first.
A rendered report shows each cause on lines of its own under a heading, a single cause indented
and several causes numbered from zero. -/
namespace Redelivery

structure Report where
  text : String
  causes : List String := []
  deriving DecidableEq, Repr, Inhabited

namespace Report

def splitLines : List Char → List (List Char)
  | [] => [[]]
  | c :: rest =>
    if c = '\n' then [] :: splitLines rest
    else
      match splitLines rest with
      | [] => [[c]]
      | line :: lines => (c :: line) :: lines

/-- Lines with a margin: the first line that is not empty gets the first margin, later ones the
other, and empty lines stay empty. -/
def withMargins (first later : List Char) : List (List Char) → List (List Char)
  | [] => []
  | [] :: rest => [] :: withMargins first later rest
  | line :: rest => (first ++ line) :: withMargins later later rest

def numberMargin (index : Nat) : List Char :=
  List.replicate (4 - (Whole.decimal index).length) ' ' ++ Whole.decimal index ++ [':', ' ']

def joinLines (lines : List (List Char)) : List Char := ['\n'].intercalate lines

def indentedCause (first later : List Char) (cause : String) : List Char :=
  '\n' :: joinLines (withMargins first later (splitLines cause.toList))

def renderCauses : List String → List Char
  | [cause] => indentedCause (List.replicate 4 ' ') (List.replicate 4 ' ') cause
  | causes => (causes.zipIdx.map fun (cause, index) =>
      indentedCause (numberMargin index) (List.replicate 6 ' ') cause).flatten

def rendered (r : Report) : String :=
  if r.causes.isEmpty then r.text
  else r.text ++ "\n\nCaused by:" ++ String.ofList (renderCauses r.causes)

end Report
end Redelivery
