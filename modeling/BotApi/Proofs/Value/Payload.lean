import BotApi.Proofs.Value.Throughout
import Mathlib.Data.Option.Basic

/-!
# The keys of payloads

What stands in a payload under which key: the entries and fields that were sent, in their order.

## Main results

* `get?_payloadFields` — what the payload of a record has under the wire name of a field.
* `payload?_eq_ok` — values have payloads if their records have what payloads are made by.
-/

namespace BotApi

/-- Whether a key is a text. -/
def Key.isText : Key → Bool
  | .text _ => true
  | _ => false

namespace Value

theorem eq_payload_of_payload? {v w : Value} (h : v.payload? = .ok w) : w = v.payload := by
  unfold payload? at h
  split at h
  · cases h
  · cases h
    rfl

theorem payloadItems_eq_map (items : List Value) : payloadItems items = items.map payload := by
  induction items with
  | nil => rfl
  | cons v rest ih => rw [payloadItems, ih, List.map_cons]

theorem payloadEntries_eq_filterMap (entries : List (Key × Value)) :
    payloadEntries entries = entries.filterMap fun e => if e.2.isAbsent then none else some (e.1, e.2.payload) := by
  induction entries with
  | nil => rfl
  | cons e rest ih =>
    obtain ⟨k, v⟩ := e
    rw [payloadEntries, List.filterMap_cons, ih]
    cases v.isAbsent <;> rfl

theorem payloadFields_eq_filterMap (fields : List (FieldName × Value)) :
    payloadFields fields =
      fields.filterMap fun e => if e.2.isAbsent then none else some (.text e.1.wireName, e.2.payload) := by
  induction fields with
  | nil => rfl
  | cons e rest ih =>
    obtain ⟨f, v⟩ := e
    rw [payloadFields, List.filterMap_cons, ih]
    cases v.isAbsent <;> rfl

theorem map_fst_payloadEntries_sublist (entries : List (Key × Value)) :
    ((payloadEntries entries).map Prod.fst).Sublist (entries.map Prod.fst) := by
  induction entries with
  | nil => exact List.Sublist.refl _
  | cons e rest ih =>
    obtain ⟨k, v⟩ := e
    rw [payloadEntries]
    split
    · exact ih.cons k
    · exact ih.cons_cons k

theorem map_fst_payloadFields_sublist (fields : List (FieldName × Value)) :
    ((payloadFields fields).map Prod.fst).Sublist (fields.map fun e => Key.text e.1.wireName) := by
  induction fields with
  | nil => exact List.Sublist.refl _
  | cons e rest ih =>
    obtain ⟨f, v⟩ := e
    rw [payloadFields]
    split
    · exact ih.cons (.text f.wireName)
    · exact ih.cons_cons (.text f.wireName)

/-- The keys of the payload of a mapping are keys of the mapping. -/
theorem forall_key_payloadEntries {P : Key → Prop} {entries : List (Key × Value)} (h : ∀ e ∈ entries, P e.1) :
    ∀ e ∈ payloadEntries entries, P e.1 := by
  intro e he
  have hkey := (map_fst_payloadEntries_sublist entries).subset (List.mem_map_of_mem (f := Prod.fst) he)
  obtain ⟨e', he', hkey⟩ := List.mem_map.1 hkey
  rw [← hkey]
  exact h e' he'

/-- The keys of the payload of a record are texts. -/
theorem forall_key_payload_record {P : Key → Prop} (fields : List (FieldName × Value)) (h : ∀ s, P (.text s)) :
    ∀ e ∈ (if (table? fields).isSome then [] else payloadFields fields), P e.1 := by
  intro e he
  split at he
  · cases he
  · have hkey := (map_fst_payloadFields_sublist fields).subset (List.mem_map_of_mem (f := Prod.fst) he)
    obtain ⟨e', -, hkey⟩ := List.mem_map.1 hkey
    rw [← hkey]
    exact h _

/-- The keys of the payload of a record are the wire names of the fields that were sent. -/
theorem mem_keys_payloadFields {fields : List (FieldName × Value)} {k : Key} :
    k ∈ (payloadFields fields).map Prod.fst ↔
      ∃ f v, (f, v) ∈ fields ∧ v.isAbsent = false ∧ k = .text f.wireName := by
  induction fields with
  | nil => simp [payloadFields]
  | cons e rest ih =>
    obtain ⟨g, w⟩ := e
    have hcons : (∃ f v, (f, v) ∈ (g, w) :: rest ∧ v.isAbsent = false ∧ k = .text f.wireName) ↔
        (w.isAbsent = false ∧ k = .text g.wireName) ∨
          ∃ f v, (f, v) ∈ rest ∧ v.isAbsent = false ∧ k = .text f.wireName := by
      constructor
      · rintro ⟨f, v, hm, hrest⟩
        rcases List.mem_cons.1 hm with he | hm
        · cases he
          exact .inl hrest
        · exact .inr ⟨f, v, hm, hrest⟩
      · rintro (h | ⟨f, v, hm, hrest⟩)
        · exact ⟨g, w, List.mem_cons_self .., h⟩
        · exact ⟨f, v, List.mem_cons_of_mem _ hm, hrest⟩
    rw [hcons, payloadFields, ← ih]
    cases w.isAbsent with
    | true => simp
    | false => simp

/-- Different wire names are different keys. -/
theorem nodup_keys_payloadFields {fields : List (FieldName × Value)}
    (h : (fields.map fun e => e.1.wireName).Nodup) : ((payloadFields fields).map Prod.fst).Nodup := by
  refine (map_fst_payloadFields_sublist fields).nodup ?_
  have hkeys : (fields.map fun e => Key.text e.1.wireName) =
      (fields.map fun e => e.1.wireName).map Key.text := by
    rw [List.map_map]
    rfl
  rw [hkeys]
  exact List.Pairwise.map Key.text (fun _ _ hne he => hne (Key.text.inj he)) h

/-- The payload of a record has the payload of a field under its wire name, unless the field was not sent. -/
theorem get?_payloadFields {fields : List (FieldName × Value)}
    (hn : (fields.map fun e => e.1.wireName).Nodup) {f : FieldName} {v : Value} (hm : (f, v) ∈ fields) :
    get? (payloadFields fields) f.wireName = if v.isAbsent then none else some v.payload := by
  induction fields with
  | nil => cases hm
  | cons e rest ih =>
    obtain ⟨g, w⟩ := e
    rw [List.map_cons, List.nodup_cons] at hn
    rw [payloadFields]
    rcases List.mem_cons.1 hm with he | hr
    · cases he
      split
      · -- no other field has the wire name
        rw [get?, List.lookup_eq_none_iff]
        intro e he
        refine bne_iff_ne.2 fun hk => hn.1 ?_
        have hkey := (map_fst_payloadFields_sublist rest).subset (List.mem_map_of_mem (f := Prod.fst) he)
        obtain ⟨e', he', hkey⟩ := List.mem_map.1 hkey
        rw [← hk] at hkey
        exact List.mem_map.2 ⟨e', he', Key.text.inj hkey⟩
      · exact List.lookup_cons_self
    · -- the field stands further on, under another wire name
      have hne : f.wireName ≠ g.wireName := by
        intro he
        exact hn.1 (List.mem_map.2 ⟨(f, v), hr, he⟩)
      have ih := ih hn.2 hr
      split
      · exact ih
      · rw [get?, List.lookup_cons, beq_eq_false_iff_ne.2 fun hk => hne (Key.text.inj hk)]
        exact ih

/-! ## Values that have payloads -/

theorem payload_record (type : String) {fields : List (FieldName × Value)} (h : table? fields = none) :
    (Value.record type fields).payload = .object (payloadFields fields) := by
  rw [payload, h]
  rfl

/-- Records that pass the test have what their payloads are made by. -/
def HasTables (test : Value → Bool) : Prop :=
  ∀ type fields, test (.record type fields) = true →
    lacks .access fields = false ∧ lacks .wireNames fields = false ∧ table? fields = none

variable {test : Value → Bool}

mutual

theorem payloadObstruction?_eq_none (hrecord : HasTables test) :
    ∀ v : Value, v.throughout test = true → v.payloadObstruction? = none
  | .list items => by
    intro h
    rw [payloadObstruction?]
    exact itemsObstruction?_eq_none hrecord items (throughoutItems_iff.2 (throughout_list_iff.1 h).2)
  | .tuple items => by
    intro h
    rw [payloadObstruction?]
    exact itemsObstruction?_eq_none hrecord items (throughoutItems_iff.2 (throughout_tuple_iff.1 h).2)
  | .object entries => by
    intro h
    rw [payloadObstruction?]
    exact entriesObstruction?_eq_none hrecord entries
      (throughoutEntries_iff.2 (throughout_object_iff.1 h).2)
  | .record type fields => by
    intro h
    obtain ⟨hroot, hfields⟩ := throughout_record_iff.1 h
    obtain ⟨haccess, hwire, htable⟩ := hrecord type fields hroot
    rw [payloadObstruction?, haccess, htable, hwire]
    exact fieldsObstruction?_eq_none hrecord fields (throughoutFields_iff.2 hfields)
  | .null | .absent | .bool _ | .int _ | .float _ | .text _ | .bytes _ | .bytearray _ | .file _ | .stream _
  | .foreign _ _ => fun _ => rfl

theorem itemsObstruction?_eq_none (hrecord : HasTables test) :
    ∀ items : List Value, throughoutItems test items = true → itemsObstruction? items = none
  | [] => fun _ => rfl
  | v :: rest => by
    intro h
    rw [throughoutItems, Bool.and_eq_true] at h
    rw [itemsObstruction?, payloadObstruction?_eq_none hrecord v h.1, itemsObstruction?_eq_none hrecord rest h.2]
    rfl

theorem entriesObstruction?_eq_none (hrecord : HasTables test) :
    ∀ entries : List (Key × Value), throughoutEntries test entries = true →
      entriesObstruction? entries = none
  | [] => fun _ => rfl
  | (k, v) :: rest => by
    intro h
    rw [throughoutEntries, Bool.and_eq_true] at h
    rw [entriesObstruction?, payloadObstruction?_eq_none hrecord v h.1, entriesObstruction?_eq_none hrecord rest h.2]
    split <;> rfl

theorem fieldsObstruction?_eq_none (hrecord : HasTables test) :
    ∀ fields : List (FieldName × Value), throughoutFields test fields = true →
      fieldsObstruction? false fields = none
  | [] => fun _ => rfl
  | (f, v) :: rest => by
    intro h
    rw [throughoutFields, Bool.and_eq_true] at h
    rw [fieldsObstruction?, payloadObstruction?_eq_none hrecord v h.1, fieldsObstruction?_eq_none hrecord rest h.2]
    split <;> rfl

end

theorem payload?_eq_ok_iff {v w : Value} : v.payload? = .ok w ↔ v.payloadObstruction? = none ∧ v.payload = w := by
  rw [payload?]
  cases v.payloadObstruction? with
  | none => simp
  | some o => simp

theorem itemsObstruction?_eq_none_iff {items : List Value} :
    itemsObstruction? items = none ↔ ∀ v ∈ items, v.payloadObstruction? = none := by
  induction items with
  | nil => simp [itemsObstruction?]
  | cons v rest ih => rw [itemsObstruction?, Option.orElse_eq_none, ih, List.forall_mem_cons]

theorem entriesObstruction?_eq_none_iff {entries : List (Key × Value)} :
    entriesObstruction? entries = none ↔
      ∀ e ∈ entries, e.2.isAbsent = false → e.2.payloadObstruction? = none := by
  induction entries with
  | nil => simp [entriesObstruction?]
  | cons e rest ih =>
    obtain ⟨k, v⟩ := e
    rw [entriesObstruction?, List.forall_mem_cons]
    cases v.isAbsent with
    | true => simp [ih]
    | false => simp [ih]

theorem fieldsObstruction?_eq_none_iff {nameless : Bool} {fields : List (FieldName × Value)} :
    fieldsObstruction? nameless fields = none ↔
      ∀ e ∈ fields, e.2.isAbsent = false → nameless = false ∧ e.2.payloadObstruction? = none := by
  induction fields with
  | nil => simp [fieldsObstruction?]
  | cons e rest ih =>
    obtain ⟨f, v⟩ := e
    rw [fieldsObstruction?, List.forall_mem_cons]
    cases v.isAbsent with
    | true => simp [ih]
    | false => cases nameless <;> simp [ih]

/-- Values that pass such a test throughout have payloads. -/
theorem payload?_eq_ok (hrecord : HasTables test) {v : Value} (h : v.throughout test = true) :
    v.payload? = .ok v.payload := by
  rw [payload?, payloadObstruction?_eq_none hrecord v h]

end Value

end BotApi
