/-! Pieces of a text: between marks, and from one byte of its UTF-8 form to another. A cut that
would fall inside a character is none. -/
namespace Redelivery.Text

def split (mark : Char) : List Char → List (List Char)
  | [] => [[]]
  | c :: rest =>
    if c = mark then [] :: split mark rest
    else
      match split mark rest with
      | [] => [[c]]
      | part :: parts => (c :: part) :: parts

def byteCount : List Char → Nat
  | [] => 0
  | c :: rest => c.utf8Size + byteCount rest

/-- The text before a byte and the text from it on. -/
def cutAt? : Nat → List Char → Option (List Char × List Char)
  | 0, cs => some ([], cs)
  | _ + 1, [] => none
  | n + 1, c :: rest =>
    if n + 1 < c.utf8Size then none
    else (cutAt? (n + 1 - c.utf8Size) rest).map fun (before, after) => (c :: before, after)

def between? (start stop : Nat) (cs : List Char) : Option (List Char) := do
  let (_, rest) ← cutAt? start cs
  let (piece, _) ← cutAt? (stop - start) rest
  return piece

theorem cutAt?_append (front rest : List Char) :
    cutAt? (byteCount front) (front ++ rest) = some (front, rest) := by
  induction front with
  | nil => simp [byteCount, cutAt?]
  | cons c front ih =>
    have positive := c.utf8Size_pos
    obtain ⟨n, size⟩ : ∃ n, byteCount (c :: front) = n + 1 :=
      ⟨byteCount (c :: front) - 1, by simp only [byteCount]; omega⟩
    have whole : n + 1 = c.utf8Size + byteCount front := by rw [← size]; rfl
    rw [size, List.cons_append, cutAt?, if_neg (by omega), whole, Nat.add_sub_cancel_left, ih]
    rfl

end Redelivery.Text
