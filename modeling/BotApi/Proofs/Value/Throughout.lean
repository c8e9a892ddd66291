import BotApi.Value.Payload

/-!
# What holds throughout a value

A test holds throughout a value if it holds of the value itself and throughout all values in it. Conditions on
the arguments of a call are put in this way, as tests that look at one value only.

## Main results

* `throughout_eq_all` — a test holds throughout a value if it holds of each of its parts.
* `throughout_payload` — what passes from a value to its payload passes throughout.
-/

namespace BotApi.Value

mutual

/-- Whether a test holds of a value and of all values in it. -/
def throughout (test : Value → Bool) (v : Value) : Bool :=
  test v &&
    match v with
    | .list items | .tuple items => throughoutItems test items
    | .object entries => throughoutEntries test entries
    | .record _ fields => throughoutFields test fields
    | _ => true

/-- Whether a test holds throughout items. -/
def throughoutItems (test : Value → Bool) : List Value → Bool
  | [] => true
  | v :: rest => throughout test v && throughoutItems test rest

/-- Whether a test holds throughout the values of entries. -/
def throughoutEntries (test : Value → Bool) : List (Key × Value) → Bool
  | [] => true
  | (_, v) :: rest => throughout test v && throughoutEntries test rest

/-- Whether a test holds throughout the values of fields. -/
def throughoutFields (test : Value → Bool) : List (FieldName × Value) → Bool
  | [] => true
  | (_, v) :: rest => throughout test v && throughoutFields test rest

end

variable {test test' : Value → Bool}

theorem holds_of_throughout {v : Value} (h : v.throughout test = true) : test v = true := by
  rw [throughout.eq_def, Bool.and_eq_true] at h
  exact h.1

theorem throughoutItems_iff {items : List Value} :
    throughoutItems test items = true ↔ ∀ v ∈ items, v.throughout test = true := by
  induction items with
  | nil => simp [throughoutItems]
  | cons v rest ih => rw [throughoutItems, Bool.and_eq_true, ih, List.forall_mem_cons]

theorem throughoutEntries_iff {entries : List (Key × Value)} :
    throughoutEntries test entries = true ↔ ∀ k v, (k, v) ∈ entries → v.throughout test = true := by
  induction entries with
  | nil => simp [throughoutEntries]
  | cons e rest ih =>
    obtain ⟨k, v⟩ := e
    rw [throughoutEntries, Bool.and_eq_true, ih]
    constructor
    · rintro ⟨hv, hr⟩ k' v' hm
      rcases List.mem_cons.1 hm with he | hm
      · obtain ⟨-, rfl⟩ := Prod.mk.inj he
        exact hv
      · exact hr k' v' hm
    · intro h
      exact ⟨h k v (List.mem_cons_self ..), fun k' v' hm => h k' v' (List.mem_cons_of_mem _ hm)⟩

theorem throughoutFields_iff {fields : List (FieldName × Value)} :
    throughoutFields test fields = true ↔ ∀ f v, (f, v) ∈ fields → v.throughout test = true := by
  induction fields with
  | nil => simp [throughoutFields]
  | cons e rest ih =>
    obtain ⟨f, v⟩ := e
    rw [throughoutFields, Bool.and_eq_true, ih]
    constructor
    · rintro ⟨hv, hr⟩ f' v' hm
      rcases List.mem_cons.1 hm with he | hm
      · obtain ⟨-, rfl⟩ := Prod.mk.inj he
        exact hv
      · exact hr f' v' hm
    · intro h
      exact ⟨h f v (List.mem_cons_self ..), fun f' v' hm => h f' v' (List.mem_cons_of_mem _ hm)⟩

theorem throughout_list_iff {items : List Value} :
    (Value.list items).throughout test = true ↔
      test (.list items) = true ∧ ∀ v ∈ items, v.throughout test = true := by
  rw [throughout, Bool.and_eq_true, throughoutItems_iff]

theorem throughout_tuple_iff {items : List Value} :
    (Value.tuple items).throughout test = true ↔
      test (.tuple items) = true ∧ ∀ v ∈ items, v.throughout test = true := by
  rw [throughout, Bool.and_eq_true, throughoutItems_iff]

theorem throughout_object_iff {entries : List (Key × Value)} :
    (Value.object entries).throughout test = true ↔
      test (.object entries) = true ∧ ∀ k v, (k, v) ∈ entries → v.throughout test = true := by
  rw [throughout, Bool.and_eq_true, throughoutEntries_iff]

theorem throughout_record_iff {type : String} {fields : List (FieldName × Value)} :
    (Value.record type fields).throughout test = true ↔
      test (.record type fields) = true ∧ ∀ f v, (f, v) ∈ fields → v.throughout test = true := by
  rw [throughout, Bool.and_eq_true, throughoutFields_iff]

/-- What holds throughout a list or a tuple holds throughout each of its items. -/
theorem throughout_of_item {v w : Value} {items : List Value} (hv : v = .list items ∨ v = .tuple items)
    (h : v.throughout test = true) (hw : w ∈ items) : w.throughout test = true := by
  rcases hv with rfl | rfl
  · exact (throughout_list_iff.1 h).2 w hw
  · exact (throughout_tuple_iff.1 h).2 w hw

/-- What holds throughout a mapping holds throughout the value under a key. -/
theorem throughout_of_lookup {entries : List (Key × Value)} {k : Key} {v : Value}
    (h : (Value.object entries).throughout test = true) (hl : entries.lookup k = some v) :
    v.throughout test = true := by
  obtain ⟨before, rest, he, -⟩ := List.lookup_eq_some_iff.1 hl
  refine (throughout_object_iff.1 h).2 k v ?_
  rw [he]
  simp

/-! ## The values in a value -/

mutual

/-- A value and all values in it. -/
def parts (v : Value) : List Value :=
  v ::
    match v with
    | .list items | .tuple items => partsOfItems items
    | .object entries => partsOfEntries entries
    | .record _ fields => partsOfFields fields
    | _ => []

/-- The values in items. -/
def partsOfItems : List Value → List Value
  | [] => []
  | v :: rest => parts v ++ partsOfItems rest

/-- The values in the values of entries. -/
def partsOfEntries : List (Key × Value) → List Value
  | [] => []
  | (_, v) :: rest => parts v ++ partsOfEntries rest

/-- The values in the values of fields. -/
def partsOfFields : List (FieldName × Value) → List Value
  | [] => []
  | (_, v) :: rest => parts v ++ partsOfFields rest

end

theorem partsOfItems_eq (items : List Value) : partsOfItems items = items.flatMap parts := by
  induction items with
  | nil => rfl
  | cons v rest ih => rw [partsOfItems, ih, List.flatMap_cons]

theorem partsOfEntries_eq (entries : List (Key × Value)) :
    partsOfEntries entries = entries.flatMap fun e => e.2.parts := by
  induction entries with
  | nil => rfl
  | cons e rest ih => rw [partsOfEntries, ih, List.flatMap_cons]

theorem partsOfFields_eq (fields : List (FieldName × Value)) :
    partsOfFields fields = fields.flatMap fun e => e.2.parts := by
  induction fields with
  | nil => rfl
  | cons e rest ih => rw [partsOfFields, ih, List.flatMap_cons]

theorem mem_parts_self (v : Value) : v ∈ v.parts := by
  rw [parts.eq_def]
  exact List.mem_cons_self ..

theorem parts_subset_of_mem {items : List Value} {v : Value} (h : v ∈ items) :
    v.parts ⊆ (Value.list items).parts := by
  show v.parts ⊆ .list items :: partsOfItems items
  rw [partsOfItems_eq]
  exact fun w hw => List.mem_cons_of_mem _ (List.mem_flatMap.2 ⟨v, h, hw⟩)

theorem parts_subset_of_lookup {entries : List (Key × Value)} {k : Key} {v : Value}
    (h : entries.lookup k = some v) : v.parts ⊆ (Value.object entries).parts := by
  obtain ⟨before, rest, he, -⟩ := List.lookup_eq_some_iff.1 h
  have hmem : (k, v) ∈ entries := by
    rw [he]
    simp
  show v.parts ⊆ .object entries :: partsOfEntries entries
  rw [partsOfEntries_eq]
  exact fun w hw => List.mem_cons_of_mem _ (List.mem_flatMap.2 ⟨(k, v), hmem, hw⟩)

mutual

theorem throughout_eq_all (test : Value → Bool) : ∀ v : Value, v.throughout test = v.parts.all test
  | .list items => by rw [throughout, parts, List.all_cons, throughoutItems_eq_all test items]
  | .tuple items => by rw [throughout, parts, List.all_cons, throughoutItems_eq_all test items]
  | .object entries => by rw [throughout, parts, List.all_cons, throughoutEntries_eq_all test entries]
  | .record _ fields => by rw [throughout, parts, List.all_cons, throughoutFields_eq_all test fields]
  | .null | .absent | .bool _ | .int _ | .float _ | .text _ | .bytes _ | .bytearray _ | .file _ | .stream _
  | .foreign _ _ => by rw [throughout.eq_def, parts.eq_def, List.all_cons, List.all_nil]

theorem throughoutItems_eq_all (test : Value → Bool) :
    ∀ items : List Value, throughoutItems test items = (partsOfItems items).all test
  | [] => rfl
  | v :: rest => by
    rw [throughoutItems, partsOfItems, List.all_append, throughout_eq_all test v, throughoutItems_eq_all test rest]

theorem throughoutEntries_eq_all (test : Value → Bool) :
    ∀ entries : List (Key × Value), throughoutEntries test entries = (partsOfEntries entries).all test
  | [] => rfl
  | (_, v) :: rest => by
    rw [throughoutEntries, partsOfEntries, List.all_append, throughout_eq_all test v,
      throughoutEntries_eq_all test rest]

theorem throughoutFields_eq_all (test : Value → Bool) :
    ∀ fields : List (FieldName × Value), throughoutFields test fields = (partsOfFields fields).all test
  | [] => rfl
  | (_, v) :: rest => by
    rw [throughoutFields, partsOfFields, List.all_append, throughout_eq_all test v, throughoutFields_eq_all test rest]

end

theorem throughout_iff_forall_mem {v : Value} : v.throughout test = true ↔ ∀ w ∈ v.parts, test w = true := by
  rw [throughout_eq_all, List.all_eq_true]

theorem throughout_eq_false_iff {v : Value} : v.throughout test = false ↔ ∃ w ∈ v.parts, test w = false := by
  rw [throughout_eq_all, List.all_eq_false]
  simp only [Bool.not_eq_true]

/-- A weaker test holds throughout as well. -/
theorem throughout_mono (himp : ∀ v, test v = true → test' v = true) {v : Value}
    (h : v.throughout test = true) : v.throughout test' = true := by
  rw [throughout_iff_forall_mem] at h ⊢
  exact fun w hw => himp w (h w hw)

/-- A test that always holds does so throughout. -/
theorem throughout_of_forall (h : ∀ v, test v = true) (v : Value) : v.throughout test = true := by
  rw [throughout_iff_forall_mem]
  exact fun w _ => h w

/-! ## Payloads -/

mutual

/-- What passes from each value to its payload does so throughout. -/
theorem throughout_payload (hnode : ∀ v, test v = true → test' v.payload = true) :
    ∀ v : Value, v.throughout test = true → v.payload.throughout test' = true
  | .list items, h => by
    have hroot := hnode _ (holds_of_throughout h)
    rw [payload] at hroot ⊢
    exact throughout_list_iff.2
      ⟨hroot, throughoutItems_iff.1 (throughoutItems_payload hnode items
        (throughoutItems_iff.2 (throughout_list_iff.1 h).2))⟩
  | .tuple items, h => by
    have hroot := hnode _ (holds_of_throughout h)
    rw [payload] at hroot ⊢
    exact throughout_list_iff.2
      ⟨hroot, throughoutItems_iff.1 (throughoutItems_payload hnode items
        (throughoutItems_iff.2 (throughout_tuple_iff.1 h).2))⟩
  | .object entries, h => by
    have hroot := hnode _ (holds_of_throughout h)
    rw [payload] at hroot ⊢
    exact throughout_object_iff.2
      ⟨hroot, throughoutEntries_iff.1 (throughoutEntries_payload hnode entries
        (throughoutEntries_iff.2 (throughout_object_iff.1 h).2))⟩
  | .record type fields, h => by
    have hroot := hnode _ (holds_of_throughout h)
    rw [payload] at hroot ⊢
    refine throughout_object_iff.2 ⟨hroot, ?_⟩
    -- a field in the place of the table leaves an empty payload
    split
    · intro k v hm
      cases hm
    · exact throughoutEntries_iff.1 (throughoutFields_payload hnode fields
        (throughoutFields_iff.2 (throughout_record_iff.1 h).2))
  | .null, h | .absent, h | .bool _, h | .int _, h | .float _, h | .text _, h | .bytes _, h
  | .bytearray _, h | .file _, h | .stream _, h | .foreign _ _, h => by
    have hroot := hnode _ (holds_of_throughout h)
    rw [throughout.eq_def, hroot]
    rfl

theorem throughoutItems_payload (hnode : ∀ v, test v = true → test' v.payload = true) :
    ∀ items : List Value, throughoutItems test items = true →
      throughoutItems test' (payloadItems items) = true
  | [], _ => rfl
  | v :: rest, h => by
    rw [throughoutItems, Bool.and_eq_true] at h
    rw [payloadItems, throughoutItems, Bool.and_eq_true]
    exact ⟨throughout_payload hnode v h.1, throughoutItems_payload hnode rest h.2⟩

theorem throughoutEntries_payload (hnode : ∀ v, test v = true → test' v.payload = true) :
    ∀ entries : List (Key × Value), throughoutEntries test entries = true →
      throughoutEntries test' (payloadEntries entries) = true
  | [], _ => rfl
  | (k, v) :: rest, h => by
    rw [throughoutEntries, Bool.and_eq_true] at h
    rw [payloadEntries]
    -- what was not sent is left out
    split
    · exact throughoutEntries_payload hnode rest h.2
    · rw [throughoutEntries, Bool.and_eq_true]
      exact ⟨throughout_payload hnode v h.1, throughoutEntries_payload hnode rest h.2⟩

theorem throughoutFields_payload (hnode : ∀ v, test v = true → test' v.payload = true) :
    ∀ fields : List (FieldName × Value), throughoutFields test fields = true →
      throughoutEntries test' (payloadFields fields) = true
  | [], _ => rfl
  | (f, v) :: rest, h => by
    rw [throughoutFields, Bool.and_eq_true] at h
    rw [payloadFields]
    split
    · exact throughoutFields_payload hnode rest h.2
    · rw [throughoutEntries, Bool.and_eq_true]
      exact ⟨throughout_payload hnode v h.1, throughoutFields_payload hnode rest h.2⟩

end

end BotApi.Value
