import Redelivery.Message

/-! The bytes of a text in UTF-8. A text comes back from its bytes and from no others, and the bytes
of ASCII characters are their numbers. -/
namespace Redelivery.Text

def utf8 (s : String) : Bytes := s.toUTF8.data.toList

def asciiByte (c : Char) : UInt8 := UInt8.ofNat c.toNat

theorem utf8_ofList (cs : List Char) :
    utf8 (String.ofList cs) = cs.flatMap String.utf8EncodeChar := by
  rw [utf8, String.toUTF8_eq_toByteArray, String.toByteArray_ofList, List.utf8Encode,
    List.toList_data_toByteArray]

theorem utf8_of_ascii {cs : List Char} (ascii : ∀ c ∈ cs, c.toNat ≤ 127) :
    utf8 (String.ofList cs) = cs.map asciiByte := by
  rw [utf8_ofList]
  induction cs with
  | nil => rfl
  | cons c rest ih =>
    have single : String.utf8EncodeChar c = [asciiByte c] := if_pos (ascii c List.mem_cons_self)
    rw [List.flatMap_cons, single, ih fun c member => ascii c (List.mem_cons_of_mem _ member)]
    rfl

theorem asciiByte_toNat {c : Char} (ascii : c.toNat ≤ 127) : (asciiByte c).toNat = c.toNat := by
  rw [asciiByte, UInt8.toNat_ofNat']
  exact Nat.mod_eq_of_lt (by omega)

theorem asciiByte_lt {c d : Char} (ascii : c.toNat ≤ 127) (ascii' : d.toNat ≤ 127) :
    asciiByte c < asciiByte d ↔ c < d := by
  rw [UInt8.lt_iff_toNat_lt, asciiByte_toNat ascii, asciiByte_toNat ascii', Char.lt_def,
    UInt32.lt_iff_toNat_lt]
  rfl

theorem asciiByte_inj {c d : Char} (ascii : c.toNat ≤ 127) (ascii' : d.toNat ≤ 127) :
    asciiByte c = asciiByte d ↔ c = d := by
  rw [← UInt8.toNat_inj, asciiByte_toNat ascii, asciiByte_toNat ascii', Char.toNat_inj]

theorem map_asciiByte_lt {cs ds : List Char} (ascii : ∀ c ∈ cs, c.toNat ≤ 127)
    (ascii' : ∀ d ∈ ds, d.toNat ≤ 127) : cs.map asciiByte < ds.map asciiByte ↔ cs < ds := by
  induction cs generalizing ds with
  | nil => cases ds <;> simp
  | cons c cs ih =>
    cases ds with
    | nil => simp
    | cons d ds =>
      obtain ⟨small, ascii⟩ := List.forall_mem_cons.1 ascii
      obtain ⟨small', ascii'⟩ := List.forall_mem_cons.1 ascii'
      rw [List.map_cons, List.map_cons, List.cons_lt_cons_iff, List.cons_lt_cons_iff,
        asciiByte_lt small small', asciiByte_inj small small', ih ascii ascii']

theorem fromUTF8?_utf8 (s : String) : String.fromUTF8? ⟨(utf8 s).toArray⟩ = some s := by
  rw [utf8, Array.toArray_toList]
  exact dif_pos s.isValidUTF8

theorem fromUTF8?_eq_some {bytes : Bytes} {s : String} :
    String.fromUTF8? ⟨bytes.toArray⟩ = some s ↔ bytes = utf8 s := by
  constructor
  · intro read
    unfold String.fromUTF8? at read
    split at read
    · cases read
      rfl
    · cases read
  · rintro rfl
    exact fromUTF8?_utf8 s

end Redelivery.Text
