import Redelivery.Text.Blank

/-! Flags of a pattern, which hold from where they are set to the end of the group around them.
Spaced patterns have white space and comments between their pieces. -/
namespace Redelivery.Text

structure PatternFlags where
  anyCase : Bool := false
  unicode : Bool := true
  spaced : Bool := false
  deriving DecidableEq, Repr

namespace PatternFlags

/-- A flag set or taken back by its letter. The other letters change what is found, but not
whether a pattern can be used. -/
def set (flags : PatternFlags) (letter : Char) (value : Bool) : PatternFlags :=
  match letter with
  | 'i' => { flags with anyCase := value }
  | 'u' => { flags with unicode := value }
  | 'x' => { flags with spaced := value }
  | _ => flags

def letters : List Char := ['i', 'm', 's', 'U', 'u', 'R', 'x', '-']

def read (flags : PatternFlags) (seen : List Char) :
    List Char → Option (PatternFlags × List Char × List Char)
  | [] => none
  | c :: rest =>
    if c = ':' ∨ c = ')' then
      if seen.head? = some '-' then none else some (flags, seen, c :: rest)
    else if c ∈ seen ∨ c ∉ letters then none
    else read (flags.set c ('-' ∉ seen)) (c :: seen) rest

/-- A text from its next piece on; a comment runs from a number sign to the end of its line. -/
def skipSpace : (inComment : Bool) → List Char → List Char
  | _, [] => []
  | true, c :: rest => skipSpace (c ≠ '\n') rest
  | false, c :: rest =>
    if isBlank c then skipSpace false rest
    else if c = '#' then skipSpace true rest
    else c :: rest

def skip (flags : PatternFlags) (cs : List Char) : List Char :=
  if flags.spaced then skipSpace false cs else cs

/-- The character that decides whether a dash before it joins a range. It can be one of a comment:
only the first number sign is passed over. -/
def peek (flags : PatternFlags) (cs : List Char) : Option Char :=
  if flags.spaced then
    match cs.dropWhile isBlank with
    | '#' :: rest => (rest.find? (!isBlank ·)).or cs.head?
    | found => found.head?.or cs.head?
  else cs.head?

end PatternFlags
end Redelivery.Text
