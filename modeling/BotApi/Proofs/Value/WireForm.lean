import BotApi.Proofs.Value.Payload
import BotApi.Value.Upload
import Mathlib.Data.List.Forall2

/-!
# The wire form of a value

What a value looks like when it is sent, told from the value alone: records and mappings are mappings without
what is null or was not sent, sequences are lists, and whatever can be uploaded is the file that it uploads. No
type has a say in it.

## Main results

* `wireForm_payload` — a value and its payload have the same wire form.
* `Alike.symm`, `Alike.trans` — being alike, which is equality up to the order of keys, is an equivalence.
-/

namespace BotApi.Value

/-- Whether the value is null or marks a field that was not sent. -/
def isBlank : Value → Bool
  | .null | .absent => true
  | _ => false

mutual

/-- The wire form of a value. -/
def wireForm : Value → Value
  | .list items | .tuple items => .list (wireFormItems items)
  | .object entries => .object (wireFormEntries entries)
  | .record _ fields => .object (wireFormFields fields)
  | v =>
    match v.upload? with
    | some (.ok f) => .file f
    | _ => v

/-- The wire forms of items, all of them. -/
def wireFormItems : List Value → List Value
  | [] => []
  | v :: rest => wireForm v :: wireFormItems rest

/-- The wire forms of entries that are not blank. -/
def wireFormEntries : List (Key × Value) → List (Key × Value)
  | [] => []
  | (k, v) :: rest => if v.isBlank then wireFormEntries rest else (k, wireForm v) :: wireFormEntries rest

/-- The wire forms of fields that are not blank, under their wire names. -/
def wireFormFields : List (FieldName × Value) → List (Key × Value)
  | [] => []
  | (f, v) :: rest =>
    if v.isBlank then wireFormFields rest else (.text f.wireName, wireForm v) :: wireFormFields rest

end

/-- Whether a value has one entry under each key, or one field under each wire name, none of which stands in
for the table of fields. Values that are no mapping and no record always have. -/
def isOrderly : Value → Bool
  | .object entries => (entries.map Prod.fst).Nodup
  | .record _ fields => (fields.map fun e => e.1.wireName).Nodup && (table? fields).isNone
  | _ => true

/-- Whether a value is no record that looks like an open file. -/
def isUnread : Value → Bool
  | .record _ fields => !hasRead fields
  | _ => true

/-- Where no record is taken for a file, the file made of a value is the one it uploads. -/
theorem toFile?_of_isUnread {v : Value} (h : v.isUnread = true) : v.toFile? = v.upload? := by
  cases v with
  | record type fields =>
    rw [isUnread, Bool.not_eq_true'] at h
    rw [toFile?, h]
    rfl
  | _ => rfl

/-- There are no records in payloads. -/
theorem isUnread_payload (v : Value) : v.payload.isUnread = true := by
  cases v <;> rfl

theorem wireForm_of_upload {v : Value} {f : InputFile} (h : v.upload? = some (.ok f)) : v.wireForm = .file f := by
  cases v with
  | file g =>
    cases h
    rfl
  | bytes content =>
    cases h
    rfl
  | bytearray content =>
    cases h
    rfl
  | stream s =>
    rw [wireForm, h]
    all_goals simp
  | _ => cases h

theorem wireFormItems_eq_map (items : List Value) : wireFormItems items = items.map wireForm := by
  induction items with
  | nil => rfl
  | cons v rest ih => rw [wireFormItems, ih, List.map_cons]

theorem mem_keys_of_mem_wireFormEntries {entries : List (Key × Value)} {k : Key}
    (h : k ∈ (wireFormEntries entries).map Prod.fst) : k ∈ entries.map Prod.fst := by
  induction entries with
  | nil => exact h
  | cons e rest ih =>
    obtain ⟨l, v⟩ := e
    rw [wireFormEntries] at h
    rw [List.map_cons, List.mem_cons]
    split at h
    · exact .inr (ih h)
    · rw [List.map_cons, List.mem_cons] at h
      exact h.imp_right ih

/-- What the wire form of a mapping has under a key. -/
theorem lookup_wireFormEntries {entries : List (Key × Value)} (h : (entries.map Prod.fst).Nodup) (k : Key) :
    (wireFormEntries entries).lookup k =
      ((entries.lookup k).filter fun v => !v.isBlank).map wireForm := by
  induction entries with
  | nil => rfl
  | cons e rest ih =>
    obtain ⟨l, v⟩ := e
    rw [List.map_cons, List.nodup_cons] at h
    have ih := ih h.2
    rw [wireFormEntries]
    by_cases hk : k = l
    · subst hk
      rw [List.lookup_cons_self, Option.filter_some]
      cases hb : v.isBlank with
      | true =>
        -- the key stands here only, so nothing else can come up for it
        rw [if_pos rfl, if_neg (by simp), Option.map_none, List.lookup_eq_none_iff]
        intro e he
        refine bne_iff_ne.2 fun hk => ?_
        exact h.1 (mem_keys_of_mem_wireFormEntries (List.mem_map.2 ⟨e, he, hk.symm⟩))
      | false =>
        rw [if_neg (by simp), List.lookup_cons_self]
        rfl
    · have hne : (k == l) = false := beq_eq_false_iff_ne.2 hk
      rw [List.lookup_cons, hne]
      split
      · exact ih
      · rw [List.lookup_cons, hne]
        exact ih

/-! ## Payloads -/

theorem isBlank_payload (v : Value) : v.payload.isBlank = v.isBlank := by
  cases v <;> rfl

theorem isBlank_of_isAbsent {v : Value} (h : v.isAbsent = true) : v.isBlank = true := by
  cases v with
  | absent => rfl
  | _ => cases h

theorem isOrderly_payload (v : Value) (h : v.isOrderly = true) : v.payload.isOrderly = true := by
  cases v with
  | object entries =>
    rw [isOrderly, decide_eq_true_eq] at h
    rw [payload, isOrderly, decide_eq_true_eq]
    exact (map_fst_payloadEntries_sublist entries).nodup h
  | record type fields =>
    rw [isOrderly, Bool.and_eq_true, decide_eq_true_eq, Option.isNone_iff_eq_none] at h
    rw [payload_record type h.2, isOrderly, decide_eq_true_eq]
    exact nodup_keys_payloadFields h.1
  | _ => exact h

mutual

/-- Making the payload first makes no difference to the wire form. -/
theorem wireForm_payload : ∀ v : Value, v.throughout isOrderly = true → v.payload.wireForm = v.wireForm
  | .list items, h => by
    rw [payload, wireForm, wireForm,
      wireFormItems_payload items (throughoutItems_iff.2 (throughout_list_iff.1 h).2)]
  | .tuple items, h => by
    rw [payload, wireForm, wireForm,
      wireFormItems_payload items (throughoutItems_iff.2 (throughout_tuple_iff.1 h).2)]
  | .object entries, h => by
    rw [payload, wireForm, wireForm,
      wireFormEntries_payload entries (throughoutEntries_iff.2 (throughout_object_iff.1 h).2)]
  | .record type fields, h => by
    obtain ⟨hroot, hfields⟩ := throughout_record_iff.1 h
    rw [isOrderly, Bool.and_eq_true, Option.isNone_iff_eq_none] at hroot
    rw [payload_record type hroot.2, wireForm, wireForm, wireFormFields_payload fields (throughoutFields_iff.2 hfields)]
  | .null, _ | .absent, _ | .bool _, _ | .int _, _ | .float _, _ | .text _, _ | .bytes _, _
  | .bytearray _, _ | .file _, _ | .stream _, _ | .foreign _ _, _ => rfl

theorem wireFormItems_payload :
    ∀ items : List Value, throughoutItems isOrderly items = true →
      wireFormItems (payloadItems items) = wireFormItems items
  | [], _ => rfl
  | v :: rest, h => by
    rw [throughoutItems, Bool.and_eq_true] at h
    rw [payloadItems, wireFormItems, wireFormItems, wireForm_payload v h.1,
      wireFormItems_payload rest h.2]

theorem wireFormEntries_payload :
    ∀ entries : List (Key × Value), throughoutEntries isOrderly entries = true →
      wireFormEntries (payloadEntries entries) = wireFormEntries entries
  | [], _ => rfl
  | (k, v) :: rest, h => by
    rw [throughoutEntries, Bool.and_eq_true] at h
    have ih := wireFormEntries_payload rest h.2
    rw [payloadEntries, wireFormEntries]
    -- what the payload leaves out is blank
    split
    · next ha => rw [if_pos (isBlank_of_isAbsent ha), ih]
    · rw [wireFormEntries, isBlank_payload, wireForm_payload v h.1, ih]

theorem wireFormFields_payload :
    ∀ fields : List (FieldName × Value), throughoutFields isOrderly fields = true →
      wireFormEntries (payloadFields fields) = wireFormFields fields
  | [], _ => rfl
  | (f, v) :: rest, h => by
    rw [throughoutFields, Bool.and_eq_true] at h
    have ih := wireFormFields_payload rest h.2
    rw [payloadFields, wireFormFields]
    split
    · next ha => rw [if_pos (isBlank_of_isAbsent ha), ih]
    · rw [wireFormEntries, isBlank_payload, wireForm_payload v h.1, ih]

end

/-! ## Equality up to the order of keys -/

/-- Two values are alike if they differ at most in the order in which mappings have their keys: the same key
has values that are alike. -/
inductive Alike : Value → Value → Prop
  | refl (v : Value) : Alike v v
  | list {items others : List Value} (length : items.length = others.length)
      (each : ∀ (i : Nat) (v w : Value), items[i]? = some v → others[i]? = some w → Alike v w) :
      Alike (.list items) (.list others)
  | object {entries others : List (Key × Value)}
      (keys : ∀ k, (entries.lookup k).isSome = (others.lookup k).isSome)
      (each : ∀ (k : Key) (v w : Value), entries.lookup k = some v → others.lookup k = some w → Alike v w) :
      Alike (.object entries) (.object others)

namespace Alike

theorem of_forall₂ {items others : List Value} (h : List.Forall₂ Alike items others) :
    Alike (.list items) (.list others) := by
  refine .list h.length_eq fun i v w hv hw => ?_
  obtain ⟨hi, rfl⟩ := List.getElem?_eq_some_iff.1 hv
  obtain ⟨hj, rfl⟩ := List.getElem?_eq_some_iff.1 hw
  exact h.get hi hj

theorem symm {v w : Value} (h : Alike v w) : Alike w v := by
  induction h with
  | refl v => exact .refl v
  | list length _ ih => exact .list length.symm fun i v w hv hw => ih i w v hw hv
  | object keys _ ih => exact .object (fun k => (keys k).symm) fun k v w hv hw => ih k w v hw hv

theorem trans {u v w : Value} (h₁ : Alike u v) (h₂ : Alike v w) : Alike u w := by
  induction h₁ generalizing w with
  | refl v => exact h₂
  | @list items others length each ih =>
    cases h₂ with
    | refl => exact .list length each
    | @list _ last length' each' =>
      refine .list (length.trans length') fun i a c ha hc => ?_
      -- there is an item between the two
      obtain ⟨b, hb⟩ : ∃ b, others[i]? = some b := by
        have hi := (List.getElem?_eq_some_iff.1 ha).1
        exact ⟨_, List.getElem?_eq_getElem (length ▸ hi)⟩
      exact ih i a b ha hb (each' i b c hb hc)
  | @object entries others keys each ih =>
    cases h₂ with
    | refl => exact .object keys each
    | @object _ last keys' each' =>
      refine .object (fun k => (keys k).trans (keys' k)) fun k a c ha hc => ?_
      -- and here an entry
      obtain ⟨b, hb⟩ : ∃ b, others.lookup k = some b := by
        rw [← Option.isSome_iff_exists, ← keys k, ha]
        rfl
      exact ih k a b ha hb (each' k b c hb hc)

end Alike

end BotApi.Value
