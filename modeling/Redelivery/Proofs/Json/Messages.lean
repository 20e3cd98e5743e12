import Redelivery.Proofs.Json.Readings

/-! Messages come back from their JSON text as they were, with the body that was received beside the
one that took its place. So a message that was edited, written down and restored can still be
reverted, and no two messages are written alike. -/
namespace Redelivery

open Json Json.Reader

inductive Edit where
  | body (bytes : Bytes)
  | revert
  | headers (change : Headers → Headers)

namespace Incoming

def edit (m : Incoming) : Edit → Incoming
  | .body bytes => m.updateBody bytes
  | .revert => m.revert
  | .headers change => { m with headers := change m.headers }

def edited (m : Incoming) (edits : List Edit) : Incoming := edits.foldl edit m

theorem originalBody_edited (m : Incoming) (edits : List Edit) :
    (m.edited edits).originalBody = m.originalBody := by
  induction edits generalizing m with
  | nil => rfl
  | cons change later ih =>
    refine (ih (m.edit change)).trans ?_
    cases change <;> rfl

end Incoming

theorem putEntry_last {key value : String} {entries : List (String × String)}
    (last : ∀ e ∈ entries, e.1 < key) : putEntry key value entries = entries ++ [(key, value)] := by
  induction entries with
  | nil => rfl
  | cons head rest ih =>
    obtain ⟨k, v⟩ := head
    obtain ⟨before, later⟩ := List.forall_mem_cons.1 last
    have behind : ¬key < k := fun after => String.lt_irrefl k (String.lt_trans before after)
    have other : key ≠ k := fun same => String.lt_irrefl k (same ▸ before)
    rw [putEntry, if_neg behind, if_neg other, ih later, List.cons_append]

theorem Headers.ofList_entries (h : Headers) : ofList h.entries = h := by
  have read (pairs : List (String × String)) (known : Headers)
      (sorted : (known.entries ++ pairs).Pairwise (·.1 < ·.1)) :
      (pairs.foldl (fun h e => h.insert e.1 e.2) known).entries = known.entries ++ pairs := by
    induction pairs generalizing known with
    | nil => simp
    | cons pair pairs ih =>
      have last : ∀ e ∈ known.entries, e.1 < pair.1 := fun e member =>
        (List.pairwise_append.1 sorted).2.2 e member pair List.mem_cons_self
      have grown : (known.insert pair.1 pair.2).entries = known.entries ++ [pair] :=
        putEntry_last last
      rw [List.foldl_cons, ih, grown, List.append_assoc, List.singleton_append]
      rwa [grown, List.append_assoc, List.singleton_append]
  have entries : (ofList h.entries).entries = h.entries := read h.entries empty h.sorted
  obtain ⟨pairs, sorted⟩ := h
  generalize ofList pairs = known at entries ⊢
  cases known
  cases entries
  rfl

namespace PartialMessage

theorem recovers_headers (h : Headers) : Recovers headersReader (printHeaders h) h := by
  have pairs := (recovers_map recovers_text h.entries).kept Headers.ofList
  rwa [h.ofList_entries] at pairs

theorem element_byte (b : UInt8) :
    Element (natural Whole.max8 "u8") (Whole.decimal b.toNat) b.toNat := by
  refine ⟨?_, fun s ends => yields_natural "u8" ends (Nat.le_of_lt_succ b.toNat_lt) (by decide)⟩
  obtain ⟨c, digits, text, digit⟩ := Whole.decimal_starts b.toNat
  refine ⟨c, digits, text, not_isSpace_of_isDigit digit, ?_⟩
  rintro rfl
  cases digit

theorem recovers_bytes (bytes : Bytes) : Recovers bytesReader (printBytes bytes) bytes := by
  have elements : ∀ n ∈ bytes.map UInt8.toNat,
      Element (natural Whole.max8 "u8") (Whole.decimal n) n := by
    intro n member
    obtain ⟨b, _, rfl⟩ := List.mem_map.1 member
    exact element_byte b
  have numbers := (recovers_list elements).kept (List.map UInt8.ofNat)
  have same : (bytes.map UInt8.toNat).map UInt8.ofNat = bytes := by
    simp [List.map_map, Function.comp_def]
  rw [same, List.map_map] at numbers
  exact numbers

end PartialMessage

open PartialMessage

theorem Incoming.ofJson?_printJson (m : Incoming) : ofJson? m.printJson = some m := by
  have fills : Fills [idField, headersField, bodyField, originalBodyField] {}
      [("message_id", printText m.id), ("headers", printHeaders m.headers),
        ("body", printBytes m.body), ("original_body", printBytes m.originalBody)]
      ⟨some m.id, some m.headers, some m.body, some m.originalBody⟩ :=
    .field rfl rfl ((recovers_text m.id).kept _) <|
    .field rfl rfl ((recovers_headers m.headers).kept _) <|
    .field rfl rfl ((recovers_bytes m.body).kept _) <|
    .field rfl rfl ((recovers_bytes m.originalBody).kept _) (.done _)
  have complete : ∀ field ∈ [idField, headersField, bodyField, originalBodyField],
      field.isSet ⟨some m.id, some m.headers, some m.body, some m.originalBody⟩ = true := by
    simp [idField, headersField, bodyField, originalBodyField]
  have reads := recovers_record "struct IncomingMessage" fills complete []
  rw [List.append_nil] at reads
  rw [ofJson?, printJson, readAll_eq_ok reads]
  rfl

theorem Outgoing.ofJson?_printJson (m : Outgoing) : ofJson? m.printJson = some m := by
  have fills : Fills [idField, headersField, bodyField] {}
      [("message_id", printText m.id), ("headers", printHeaders m.headers),
        ("body", printBytes m.body)]
      ⟨some m.id, some m.headers, some m.body, none⟩ :=
    .field rfl rfl ((recovers_text m.id).kept _) <|
    .field rfl rfl ((recovers_headers m.headers).kept _) <|
    .field rfl rfl ((recovers_bytes m.body).kept _) (.done _)
  have complete : ∀ field ∈ [idField, headersField, bodyField],
      field.isSet ⟨some m.id, some m.headers, some m.body, none⟩ = true := by
    simp [idField, headersField, bodyField]
  have reads := recovers_record "struct OutgoingMessage" fills complete []
  rw [List.append_nil] at reads
  rw [ofJson?, printJson, readAll_eq_ok reads]
  rfl

/-- A message comes back from its JSON text just as it was, also after any edits; so two messages
have the same text only if they are the same. A message received and edited before it was written
down is reverted, after it is restored, to the bytes that were received. -/
theorem messages_restored :
    (∀ m : Incoming, Incoming.ofJson? m.printJson = some m) ∧
    (∀ m : Outgoing, Outgoing.ofJson? m.printJson = some m) ∧
    (∀ (id : String) (headers : Headers) (bytes : Bytes) (edits : List Edit),
      let m := (Incoming.received id headers bytes).edited edits
      ∃ restored, Incoming.ofJson? m.printJson = some restored ∧ restored.body = m.body ∧
        restored.revert.body = bytes) ∧
    (∀ m m' : Incoming, m.printJson = m'.printJson ↔ m = m') ∧
    ∀ m m' : Outgoing, m.printJson = m'.printJson ↔ m = m' := by
  have incoming := Incoming.ofJson?_printJson
  have outgoing := Outgoing.ofJson?_printJson
  refine ⟨incoming, outgoing, fun id headers bytes edits => ⟨_, incoming _, rfl, ?_⟩,
    fun m m' => ⟨fun same => ?_, congrArg _⟩, fun m m' => ⟨fun same => ?_, congrArg _⟩⟩
  · exact (Incoming.received id headers bytes).originalBody_edited edits
  · have read := incoming m
    rw [same, incoming m'] at read
    exact (Option.some.inj read).symm
  · have read := outgoing m
    rw [same, outgoing m'] at read
    exact (Option.some.inj read).symm

end Redelivery
