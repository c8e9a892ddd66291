import BotApi.Proofs.Response.Reduced

/-!
# The normal form of payloads

A payload has no records and no tuples in it, and no mapping in it has an entry that was not sent. Such a value is its
own payload, so making payloads comes to an end after one step. What is in no container is never looked at: files,
scalars and marks come out as they went in, and in the same order, unless they stood for what was not sent.

A record becomes a mapping by two tables of its class, that of its fields and that of their wire names. The second one
has no wire name twice, as each attribute is made from its wire name and no attribute is there twice; so each field that
was sent has an entry of its own. The first one is looked up on the record itself, and a field may have taken its place.

## Main results

* `throughout_isNormal_payload`, `payload_of_isNormal` — payloads are normal, and normal values are their own payloads.
* `leaves_payload` — what is in no container is kept.
* `payload_record_eq` — the payload of a record has an entry for each field that was sent.
* `payload_is_normal_form` — all of this for payloads that are made, and when they are.
* `payload_loses_fields` — a record with a field in the place of the table of its fields.
-/

namespace BotApi

namespace Value

/-! ## Normal values -/

/-- Whether a value may stand in a payload: it is neither a record nor a tuple, and if it is a mapping then all of its
entries were sent. -/
def isNormal : Value → Bool
  | .record _ _ | .tuple _ => false
  | .object entries => entries.all fun e => !e.2.isAbsent
  | _ => true

theorem isAbsent_payload (v : Value) : v.payload.isAbsent = v.isAbsent := by
  cases v <;> rfl

/-- What was not sent is left out, and no payload is the mark of that. -/
theorem isAbsent_of_mem_filterMap {α : Type} {key : α → Key} {items : List (α × Value)} {e : Key × Value}
    (h : e ∈ items.filterMap fun i => if i.2.isAbsent then none else some (key i.1, i.2.payload)) :
    e.2.isAbsent = false := by
  obtain ⟨⟨a, v⟩, -, he⟩ := List.mem_filterMap.1 h
  cases hv : v.isAbsent with
  | true => simp [hv] at he
  | false =>
    simp only [hv, Bool.false_eq_true, if_false, Option.some.injEq] at he
    subst he
    rw [isAbsent_payload, hv]

theorem isNormal_payload (v : Value) : v.payload.isNormal = true := by
  cases v with
  | object entries =>
    rw [payload, isNormal, List.all_eq_true, payloadEntries_eq_filterMap]
    intro e he
    simp [@isAbsent_of_mem_filterMap Key id entries e he]
  | record type fields =>
    rw [payload]
    split
    · rfl
    · rw [isNormal, List.all_eq_true, payloadFields_eq_filterMap]
      intro e he
      simp [@isAbsent_of_mem_filterMap FieldName (fun f => .text f.wireName) fields e he]
  | _ => rfl

/-- Whatever is in a payload is normal. -/
theorem throughout_isNormal_payload (v : Value) : v.payload.throughout isNormal = true :=
  @throughout_payload (fun _ => true) isNormal (fun w _ => isNormal_payload w) v (throughout_of_forall (fun _ => rfl) v)

/-! ## Normal values are their own payloads -/

mutual

theorem payload_of_isNormal : ∀ v : Value, v.throughout isNormal = true → v.payload = v
  | .list items, h => by
    have hitems := throughoutItems_iff.2 (throughout_list_iff.1 h).2
    rw [payload, payloadItems_of_isNormal items hitems]
  | .object entries, h => by
    obtain ⟨hsent, hentries⟩ := throughout_object_iff.1 h
    rw [isNormal, List.all_eq_true] at hsent
    have hvalues := throughoutEntries_iff.2 hentries
    rw [payload, payloadEntries_of_isNormal entries hsent hvalues]
  | .tuple items, h => nomatch (throughout_tuple_iff.1 h).1
  | .record type fields, h => nomatch (throughout_record_iff.1 h).1
  | .null, _ | .absent, _ | .bool _, _ | .int _, _ | .float _, _ | .text _, _ | .bytes _, _ | .bytearray _, _
  | .file _, _ | .stream _, _ | .foreign _ _, _ => rfl

theorem payloadItems_of_isNormal :
    ∀ items : List Value, throughoutItems isNormal items = true → payloadItems items = items
  | [], _ => rfl
  | v :: rest, h => by
    rw [throughoutItems, Bool.and_eq_true] at h
    rw [payloadItems, payload_of_isNormal v h.1, payloadItems_of_isNormal rest h.2]

theorem payloadEntries_of_isNormal :
    ∀ entries : List (Key × Value), (∀ e ∈ entries, (!e.2.isAbsent) = true) →
      throughoutEntries isNormal entries = true → payloadEntries entries = entries
  | [], _, _ => rfl
  | (k, v) :: rest, hsent, h => by
    obtain ⟨hv, hrest⟩ := List.forall_mem_cons.1 hsent
    rw [throughoutEntries, Bool.and_eq_true] at h
    -- the entry was sent, and so it is not left out
    have hv : v.isAbsent = false := by simpa using hv
    rw [payloadEntries, hv, if_neg Bool.false_ne_true, payload_of_isNormal v h.1,
      payloadEntries_of_isNormal rest hrest h.2]

end

/-- The payload of a payload is itself, and nothing keeps it from being made. -/
theorem payload?_payload (v : Value) : v.payload.payload? = .ok v.payload := by
  have hnormal := throughout_isNormal_payload v
  have hrecords : HasTables isNormal := fun type fields hrecord => nomatch hrecord
  rw [payload?_eq_ok hrecords hnormal, payload_of_isNormal _ hnormal]

/-! ## Leaves -/

mutual

/-- The values in a value that are no containers, in their order. What was not sent has none in a mapping or a
record. -/
def leaves : Value → List Value
  | .list items | .tuple items => leavesOfItems items
  | .object entries => leavesOfEntries entries
  | .record _ fields => leavesOfFields fields
  | v => [v]

/-- The leaves of items. -/
def leavesOfItems : List Value → List Value
  | [] => []
  | v :: rest => leaves v ++ leavesOfItems rest

/-- The leaves of the entries that were sent. -/
def leavesOfEntries : List (Key × Value) → List Value
  | [] => []
  | (_, v) :: rest => if v.isAbsent then leavesOfEntries rest else leaves v ++ leavesOfEntries rest

/-- The leaves of the fields that were sent. -/
def leavesOfFields : List (FieldName × Value) → List Value
  | [] => []
  | (_, v) :: rest => if v.isAbsent then leavesOfFields rest else leaves v ++ leavesOfFields rest

end

/-- Whether a record has its own tables, in whose places no field is. -/
def hasOwnTables : Value → Bool
  | .record _ fields => !lacks .access fields && !lacks .wireNames fields && (table? fields).isNone
  | _ => true

theorem hasOwnTables_record_iff {type : String} {fields : List (FieldName × Value)} :
    (Value.record type fields).hasOwnTables = true ↔
      lacks .access fields = false ∧ lacks .wireNames fields = false ∧ table? fields = none := by
  rw [hasOwnTables]
  simp only [Bool.and_eq_true, Bool.not_eq_true', Option.isNone_iff_eq_none, and_assoc]

theorem hasTables_hasOwnTables : HasTables hasOwnTables := fun _ _ h => hasOwnTables_record_iff.1 h

mutual

/-- What is in no container is kept as it is. -/
theorem leaves_payload : ∀ v : Value, v.throughout hasOwnTables = true → v.payload.leaves = v.leaves
  | .list items, h => by
    have hitems := throughoutItems_iff.2 (throughout_list_iff.1 h).2
    rw [payload, leaves, leaves, leavesOfItems_payload items hitems]
  | .tuple items, h => by
    have hitems := throughoutItems_iff.2 (throughout_tuple_iff.1 h).2
    rw [payload, leaves, leaves, leavesOfItems_payload items hitems]
  | .object entries, h => by
    have hentries := throughoutEntries_iff.2 (throughout_object_iff.1 h).2
    rw [payload, leaves, leaves, leavesOfEntries_payload entries hentries]
  | .record type fields, h => by
    obtain ⟨hroot, hfields⟩ := throughout_record_iff.1 h
    obtain ⟨-, -, htable⟩ := hasOwnTables_record_iff.1 hroot
    rw [payload_record type htable, leaves, leaves, leavesOfFields_payload fields (throughoutFields_iff.2 hfields)]
  | .null, _ | .absent, _ | .bool _, _ | .int _, _ | .float _, _ | .text _, _ | .bytes _, _ | .bytearray _, _
  | .file _, _ | .stream _, _ | .foreign _ _, _ => rfl

theorem leavesOfItems_payload :
    ∀ items : List Value, throughoutItems hasOwnTables items = true →
      leavesOfItems (payloadItems items) = leavesOfItems items
  | [], _ => rfl
  | v :: rest, h => by
    rw [throughoutItems, Bool.and_eq_true] at h
    rw [payloadItems, leavesOfItems, leavesOfItems, leaves_payload v h.1, leavesOfItems_payload rest h.2]

theorem leavesOfEntries_payload :
    ∀ entries : List (Key × Value), throughoutEntries hasOwnTables entries = true →
      leavesOfEntries (payloadEntries entries) = leavesOfEntries entries
  | [], _ => rfl
  | (k, v) :: rest, h => by
    rw [throughoutEntries, Bool.and_eq_true] at h
    have hrest := leavesOfEntries_payload rest h.2
    rw [payloadEntries, leavesOfEntries]
    cases hv : v.isAbsent with
    | true => rw [if_pos rfl, if_pos rfl, hrest]
    | false =>
      rw [if_neg Bool.false_ne_true, if_neg Bool.false_ne_true, leavesOfEntries, isAbsent_payload, hv,
        if_neg Bool.false_ne_true, leaves_payload v h.1, hrest]

theorem leavesOfFields_payload :
    ∀ fields : List (FieldName × Value), throughoutFields hasOwnTables fields = true →
      leavesOfEntries (payloadFields fields) = leavesOfFields fields
  | [], _ => rfl
  | (f, v) :: rest, h => by
    rw [throughoutFields, Bool.and_eq_true] at h
    have hrest := leavesOfFields_payload rest h.2
    rw [payloadFields, leavesOfFields]
    cases hv : v.isAbsent with
    | true => rw [if_pos rfl, if_pos rfl, hrest]
    | false =>
      rw [if_neg Bool.false_ne_true, if_neg Bool.false_ne_true, leavesOfEntries, isAbsent_payload, hv,
        if_neg Bool.false_ne_true, leaves_payload v h.1, hrest]

end

end Value

/-! ## Records -/

open Value

/-- The fields of a record that were sent. -/
def sentFields (fields : List (FieldName × Value)) : List (FieldName × Value) := fields.filter fun e => !e.2.isAbsent

section

variable {types : Table TypeBinding} {name : String} {type : TypeBinding} {fields : List (FieldName × Value)}

/-- The wire names of the fields of a type are found under their attributes, and no two fields have the same. -/
theorem nodup_wireNameOf (resolved : Resolved types) (htype : types.find? name = some type) :
    (type.fields.map fun f => wireNameOf type.fields f.name).Nodup := by
  have hnames := resolved.attributes name type htype
  have hwires : (type.fields.map fun f => wireNameOf type.fields f.name) = type.fields.map (·.wireName) :=
    List.map_congr_left fun f hf => wireNameOf_name hnames hf
  rw [hwires]
  exact resolved.wireNames name type htype

/-- The payload of a record has one entry for each field that was sent, under the wire name of the field. -/
theorem payload_record_eq (resolved : Resolved types) (htype : types.find? name = some type)
    (hfields : fields.map Prod.fst = type.fields.map (·.names)) (htable : table? fields = none) :
    (Value.record name fields).payload =
      .object ((sentFields fields).map fun e => (.text (wireNameOf type.fields e.1.name), e.2.payload)) := by
  have hnames := resolved.attributes name type htype
  have hwire : ∀ e ∈ fields, wireNameOf type.fields e.1.name = e.1.wireName := by
    intro e he
    have hmem : e.1 ∈ type.fields.map (·.names) := hfields ▸ List.mem_map_of_mem he
    obtain ⟨f, hf, heq⟩ := List.mem_map.1 hmem
    rw [← heq]
    exact wireNameOf_name hnames hf
  rw [payload_record name htable]
  congr 1
  clear hfields htable
  induction fields with
  | nil => rfl
  | cons e rest ih =>
    obtain ⟨f, v⟩ := e
    obtain ⟨hfirst, hrest⟩ := List.forall_mem_cons.1 hwire
    have hmore := ih hrest
    rw [sentFields] at hmore ⊢
    rw [payloadFields, List.filter_cons]
    cases hv : v.isAbsent with
    | true => simp [hmore]
    | false =>
      dsimp only at hfirst
      simp [hmore, hfirst]

theorem nodup_keys_sentFields (resolved : Resolved types) (htype : types.find? name = some type)
    (hfields : fields.map Prod.fst = type.fields.map (·.names)) :
    ((sentFields fields).map fun e => Key.text (wireNameOf type.fields e.1.name)).Nodup := by
  have hkeys : fields.map (fun e => Key.text (wireNameOf type.fields e.1.name)) =
      (type.fields.map fun f => wireNameOf type.fields f.name).map Key.text := by
    have hmap := congrArg (List.map fun f : FieldName => Key.text (wireNameOf type.fields f.name)) hfields
    rw [List.map_map, List.map_map] at hmap
    rw [List.map_map]
    exact hmap
  have hall : (fields.map fun e => Key.text (wireNameOf type.fields e.1.name)).Nodup := by
    rw [hkeys]
    exact (nodup_wireNameOf resolved htype).map fun _ _ h => Key.text.inj h
  exact ((List.filter_sublist (l := fields)).map _).nodup hall

end

/-- A payload that is made is normal, and its own payload. It is made of each value whose records have their own tables,
and then it has all leaves of the value. No two fields of a type have one wire name, and the payload of a record of the
type with its own tables has one entry for each field that was sent. -/
theorem payload_is_normal_form :
    (∀ v w : Value, v.payload? = .ok w → w.throughout isNormal = true ∧ w.payload? = .ok w) ∧
      (∀ v : Value, v.throughout hasOwnTables = true → ∃ w, v.payload? = .ok w ∧ w.leaves = v.leaves) ∧
      ∀ (schema : Schema) (b : Bindings), (Bindings.build schema).result = .ok b →
        ∀ name type, b.types.find? name = some type →
          (type.fields.map fun f => wireNameOf type.fields f.name).Nodup ∧
          ∀ fields : List (FieldName × Value), fields.map Prod.fst = type.fields.map (·.names) →
            (Value.record name fields).hasOwnTables = true → ∀ w, (Value.record name fields).payload? = .ok w →
              ∃ entries, w = .object entries ∧ (entries.map Prod.fst).Nodup ∧
                entries = (sentFields fields).map fun e => (.text (wireNameOf type.fields e.1.name), e.2.payload) := by
  refine ⟨fun v w h => ?_, fun v h => ?_, fun schema b hb name type htype => ?_⟩
  · obtain rfl := eq_payload_of_payload? h
    exact ⟨throughout_isNormal_payload v, payload?_payload v⟩
  · exact ⟨v.payload, payload?_eq_ok hasTables_hasOwnTables h, leaves_payload v h⟩
  · have resolved := Bindings.resolved_of_build hb
    refine ⟨nodup_wireNameOf resolved htype, fun fields hfields hown w hw => ?_⟩
    obtain ⟨-, -, htable⟩ := hasOwnTables_record_iff.1 hown
    have hpayload := payload_record_eq resolved htype hfields htable
    refine ⟨_, (eq_payload_of_payload? hw).trans hpayload, ?_, rfl⟩
    rw [List.map_map]
    exact nodup_keys_sentFields resolved htype hfields

/-! ### Notes once more -/

/-- A note in a tuple, with a sender that has another wire name and a text that was not sent, beside a mapping with a
file, with null and with an entry that was not sent. -/
def noteTuple : Value :=
  .tuple [.record "Note" [(⟨"from_user", "from", true⟩, .tuple [.int 1, .absent]), (⟨"text", "text", false⟩, .absent)],
    .object [(.text "a", .file ⟨.octets [7], "a.bin"⟩), (.int 3, .absent), (.null, .null)]]

/-- Its payload. -/
def noteList : Value :=
  .list [.object [(.text "from", .list [.int 1, .absent])],
    .object [(.text "a", .file ⟨.octets [7], "a.bin"⟩), (.null, .null)]]

theorem payload_is_normal_form_noteTuple :
    ∃ b type, (Bindings.build Response.noteSchema).result = .ok b ∧ b.types.find? "Note" = some type ∧
      noteTuple.throughout hasOwnTables = true ∧ noteTuple.payload? = .ok noteList ∧
      noteList.throughout isNormal = true ∧ noteList.payload? = .ok noteList ∧
      noteList.leaves = noteTuple.leaves ∧
      (type.fields.map fun f => wireNameOf type.fields f.name).Nodup ∧
      ∃ entries, Response.reducedNote = .object entries ∧ (entries.map Prod.fst).Nodup ∧ entries.length = 2 := by
  obtain ⟨hnormal, hmade, hrecords⟩ := payload_is_normal_form
  obtain ⟨b, hb, htypes⟩ := Response.build_noteSchema
  have hown : noteTuple.throughout hasOwnTables = true := by decide
  obtain ⟨w, hw, hleaves⟩ := hmade noteTuple hown
  have hlist : w = noteList := by
    have htable : table? [(⟨"from_user", "from", true⟩, .tuple [.int 1, .absent]), (⟨"text", "text", false⟩, .absent)] =
        none := Option.isNone_iff_eq_none.1 (by decide)
    rw [eq_payload_of_payload? hw, noteTuple, payload, payloadItems, payload_record "Note" htable]
    rfl
  subst hlist
  obtain ⟨hthroughout, hagain⟩ := hnormal _ _ hw
  have htype : b.types.find? "Note" = Response.noteTypes.find? "Note" := by rw [htypes]
  obtain ⟨hwires, hentries⟩ := hrecords _ b hb "Note" _ htype
  have hnote : Response.note.payload? = .ok Response.reducedNote := by
    refine payload?_eq_ok_iff.2 ⟨by decide, ?_⟩
    exact payload_record "Note" (Option.isNone_iff_eq_none.1 (by decide))
  obtain ⟨entries, heq, hkeys, hsent⟩ := hentries
    [(⟨"from_user", "from", true⟩, .int 1), (⟨"text", "text", false⟩, .null)] (by decide) (by decide) _ hnote
  exact ⟨b, _, hb, htype, hown, hw, hthroughout, hagain, hleaves, hwires, entries, heq, hkeys, by rw [hsent]; rfl⟩

/-- A schema with a type that has a field in the place of the table of its fields. -/
def tabledSchema : Schema where
  version := none
  releaseDate := none
  changelog := none
  types := .ofList
    [("Tabled", { href := "", description := [], subtypes := [], subtypeOf := []
                  fields := [⟨"id", ["Integer"], true, ""⟩, ⟨"__dataclass_fields__", ["String"], true, ""⟩] })]
  methods := .empty

/-- A record of that type, with an empty mapping in the place of the table. -/
def tabledRecord : Value :=
  .record "Tabled" [(⟨"id", "id", true⟩, .int 5), (⟨"__dataclass_fields__", "__dataclass_fields__", true⟩, .object [])]

/-- Both fields of such a record were sent, and its payload has an entry for neither. -/
theorem payload_loses_fields :
    ∃ b type fields, (Bindings.build tabledSchema).result = .ok b ∧ b.types.find? "Tabled" = some type ∧
      tabledRecord = .record "Tabled" fields ∧ fields.map Prod.fst = type.fields.map (·.names) ∧
      (sentFields fields).length = 2 ∧ tabledRecord.payload? = .ok (.object []) := by
  have hb := @Bindings.build_eq_ok tabledSchema
    (.ofList [("Tabled",
      { name := "Tabled", variants := [], description := []
        fields := [⟨"id", "id", .primitive .integer, true, ""⟩,
          ⟨"__dataclass_fields__", "__dataclass_fields__", .primitive .string, true, ""⟩] })])
    (by decide +kernel) (eq_ok_of_toOption (by decide +kernel))
  refine ⟨_, _, _, hb, rfl, rfl, by decide, rfl, ?_⟩
  exact payload?_eq_ok_iff.2 ⟨by decide, by cbv⟩

end BotApi
