import BotApi.Proofs.Value.Lookup
import BotApi.Proofs.Value.Payload
import BotApi.Value.Upload
import Mathlib

/-!
# Entries in another order

A mapping keeps its entries in the order in which they were written. Two values that differ in such orders only, at any
depth, have the same under each key, again up to the order of entries, and so have their payloads. Which record is in
the way of a payload may depend on the order, but not whether one is.

## Main results

* `Reordered.induction` — induction along values of which one is the other in another order.
* `Reordered.lookup_rel` — what stands under a key.
* `Reordered.throughout_iff` — what holds throughout a value.
* `Reordered.toFile?_eq` — the file that is made of a value.
* `Reordered.payload`, `Reordered.payloadObstruction?_eq_none_iff` — payloads, and which values have them.
-/

namespace BotApi

/-- Whether two values are the same up to the order of entries in their mappings, at any depth. -/
inductive Reordered : Value → Value → Prop
  | same (v : Value) : Reordered v v
  | list {items others : List Value} (each : List.Forall₂ Reordered items others) :
      Reordered (.list items) (.list others)
  | tuple {items others : List Value} (each : List.Forall₂ Reordered items others) :
      Reordered (.tuple items) (.tuple others)
  | object {entries moved others : List (Key × Value)} (order : entries.Perm moved)
      (keys : moved.map Prod.fst = others.map Prod.fst)
      (each : List.Forall₂ Reordered (moved.map Prod.snd) (others.map Prod.snd)) :
      Reordered (.object entries) (.object others)
  | record {type : String} {fields others : List (FieldName × Value)}
      (names : fields.map Prod.fst = others.map Prod.fst)
      (each : List.Forall₂ Reordered (fields.map Prod.snd) (others.map Prod.snd)) :
      Reordered (.record type fields) (.record type others)

namespace Value

/-- Whether a value has one entry under each key, or one field under each wire name. Values that are no mapping and no
record always have. -/
def isKeyed : Value → Bool
  | .object entries => (entries.map Prod.fst).Nodup
  | .record _ fields => (fields.map fun e => e.1.wireName).Nodup
  | _ => true

theorem isKeyed_payload (v : Value) (h : v.isKeyed = true) : v.payload.isKeyed = true := by
  cases v with
  | object entries =>
    rw [isKeyed, decide_eq_true_eq] at h
    rw [payload, isKeyed, decide_eq_true_eq]
    exact (map_fst_payloadEntries_sublist entries).nodup h
  | record type fields =>
    rw [isKeyed, decide_eq_true_eq] at h
    rw [payload, isKeyed, decide_eq_true_eq]
    split
    · exact List.nodup_nil
    · exact nodup_keys_payloadFields h
  | _ => rfl

end Value

/-! ## Options -/

section

variable {α β : Type} {R : α → β → Prop} {a c : Option α} {b d : Option β}

theorem rel_filter {p : α → Bool} {q : β → Bool} (h : Option.Rel R a b) (hpq : ∀ x y, R x y → p x = q y) :
    Option.Rel R (a.filter p) (b.filter q) := by
  cases h with
  | none => exact .none
  | @some x y hxy =>
    rw [Option.filter_some, Option.filter_some, hpq x y hxy]
    split
    · exact .some hxy
    · exact .none

theorem rel_or (h : Option.Rel R a b) (h' : Option.Rel R c d) : Option.Rel R (a.or c) (b.or d) := by
  cases h with
  | none => exact h'
  | some hxy => exact .some hxy

theorem isNone_eq_of_rel (h : Option.Rel R a b) : a.isNone = b.isNone := by
  cases h <;> rfl

end

namespace Reordered

/-- A property of two values passes from their parts to themselves. The parts are reordered themselves. -/
theorem induction {motive : Value → Value → Prop} (same : ∀ v, motive v v)
    (list : ∀ items others, List.Forall₂ (fun v w => Reordered v w ∧ motive v w) items others →
      motive (.list items) (.list others))
    (tuple : ∀ items others, List.Forall₂ (fun v w => Reordered v w ∧ motive v w) items others →
      motive (.tuple items) (.tuple others))
    (object : ∀ entries moved others, entries.Perm moved →
      List.Forall₂ (Paired fun v w => Reordered v w ∧ motive v w) moved others →
      motive (.object entries) (.object others))
    (record : ∀ type fields others, List.Forall₂ (Paired fun v w => Reordered v w ∧ motive v w) fields others →
      motive (.record type fields) (.record type others))
    {v w : Value} (h : Reordered v w) : motive v w :=
  @Reordered.rec (fun v w _ => motive v w)
    (fun items others _ => List.Forall₂ (fun v w => Reordered v w ∧ motive v w) items others)
    same (fun _ ih => list _ _ ih) (fun _ ih => tuple _ _ ih)
    (fun order keys _ ih => object _ _ _ order (forall₂_paired_iff.2 ⟨keys, ih⟩))
    (fun names _ ih => record _ _ _ (forall₂_paired_iff.2 ⟨names, ih⟩))
    .nil (fun h _ hmotive ih => .cons ⟨h, hmotive⟩ ih) _ _ h

variable {v w : Value} {entries moved others : List (Key × Value)}

theorem of_paired (order : entries.Perm moved) (each : List.Forall₂ (Paired Reordered) moved others) :
    Reordered (.object entries) (.object others) :=
  .object order (forall₂_paired_iff.1 each).1 (forall₂_paired_iff.1 each).2

theorem exists_paired (h : Reordered (.object entries) (.object others)) :
    ∃ moved, entries.Perm moved ∧ List.Forall₂ (Paired Reordered) moved others := by
  cases h with
  | same => exact ⟨entries, .refl _, List.forall₂_same.2 fun e _ => ⟨rfl, .same e.2⟩⟩
  | @object _ moved _ order keys each => exact ⟨moved, order, forall₂_paired_iff.2 ⟨keys, each⟩⟩

theorem isAbsent_eq (h : Reordered v w) : v.isAbsent = w.isAbsent := by
  cases h <;> rfl

/-- The keys are the same in another order. -/
theorem keys_perm (h : Reordered (.object entries) (.object others)) :
    (entries.map Prod.fst).Perm (others.map Prod.fst) := by
  obtain ⟨moved, order, each⟩ := h.exists_paired
  rw [← (forall₂_paired_iff.1 each).1]
  exact order.map Prod.fst

/-- What stands under a key is the same up to the order of its own entries. -/
theorem lookup_rel (h : Reordered (.object entries) (.object others)) (hkeys : (entries.map Prod.fst).Nodup) (k : Key) :
    Option.Rel Reordered (entries.lookup k) (others.lookup k) := by
  obtain ⟨moved, order, each⟩ := h.exists_paired
  rw [Entries.lookup_of_perm order hkeys]
  exact BotApi.lookup_rel each k

/-- What holds throughout a value holds throughout it in any order, if it can be told of a value in any order. -/
theorem throughout_iff {test : Value → Bool} (htest : ∀ v w, Reordered v w → test v = test w) (h : Reordered v w) :
    v.throughout test = true ↔ w.throughout test = true := by
  refine Reordered.induction (motive := fun v w => v.throughout test = true ↔ w.throughout test = true)
    (fun v => .rfl) ?list ?tuple ?object ?record h
  case list =>
    intro items others each
    have hroot := htest _ _ (.list (each.imp fun _ _ h => h.1))
    rw [Value.throughout_list_iff, Value.throughout_list_iff, hroot]
    exact and_congr_right fun _ => forall_mem_iff_of_forall₂ each fun _ _ h => h.2
  case tuple =>
    intro items others each
    have hroot := htest _ _ (.tuple (each.imp fun _ _ h => h.1))
    rw [Value.throughout_tuple_iff, Value.throughout_tuple_iff, hroot]
    exact and_congr_right fun _ => forall_mem_iff_of_forall₂ each fun _ _ h => h.2
  case object =>
    intro entries moved others order each
    have hroot := htest _ _ (of_paired order (each.imp fun _ _ h => ⟨h.1, h.2.1⟩))
    rw [Value.throughout_object_iff, Value.throughout_object_iff, hroot]
    refine and_congr_right fun _ => ?_
    rw [← Prod.forall', ← Prod.forall']
    refine Iff.trans (forall_congr' fun e => by rw [order.mem_iff]) ?_
    exact forall_mem_iff_of_forall₂ each fun _ _ h => h.2.2
  case record =>
    intro type fields others each
    obtain ⟨hfields, hothers⟩ := forall₂_paired_iff.1 (each.imp fun _ _ h => ⟨h.1, h.2.1⟩)
    have hroot := htest (.record type fields) (.record type others) (.record hfields hothers)
    rw [Value.throughout_record_iff, Value.throughout_record_iff, hroot]
    refine and_congr_right fun _ => ?_
    rw [← Prod.forall', ← Prod.forall']
    exact forall_mem_iff_of_forall₂ each fun _ _ h => h.2.2

/-! ## Files -/

theorem isVoid_eq (h : Reordered v w) : v.isVoid = w.isVoid := by
  cases h with
  | same => rfl
  | list each => cases each <;> rfl
  | tuple each => cases each <;> rfl
  | record => rfl
  | object order keys each =>
    have hlength := (keys_perm (.object order keys each)).length_eq
    rw [List.length_map, List.length_map] at hlength
    rw [Value.isVoid, Value.isVoid, Bool.eq_iff_iff, List.isEmpty_iff_length_eq_zero, List.isEmpty_iff_length_eq_zero,
      hlength]

/-- No container is a name, in whatever order it is. -/
theorem ofValue_eq (h : Reordered v w) : StreamName.ofValue v = StreamName.ofValue w := by
  unfold StreamName.ofValue
  rw [h.isVoid_eq]
  cases h <;> rfl

section

variable {type : String} {fields others : List (FieldName × Value)}

theorem hasRead_eq (each : List.Forall₂ (Paired Reordered) fields others) :
    Value.hasRead fields = Value.hasRead others := by
  have hread := isNone_eq_of_rel (Value.field?_rel each "read")
  rw [Value.hasRead, Value.hasRead, Value.lacks_eq (forall₂_paired_iff.1 each).1, ← Option.not_isNone,
    ← Option.not_isNone, hread]

/-- What stands in for the class of a record is a class, or it is none, in any order. -/
theorem classObstruction?_eq (each : List.Forall₂ (Paired Reordered) fields others) :
    (Value.record type fields).classObstruction? = (Value.record type others).classObstruction? := by
  have hclass : Option.Rel Reordered (Value.standIn? fields) (Value.standIn? others) := Value.field?_rel each _
  rw [Value.classObstruction?, Value.classObstruction?, Value.lacks_eq (forall₂_paired_iff.1 each).1]
  generalize Value.standIn? fields = standIn, Value.standIn? others = other at hclass ⊢
  cases hclass with
  | none => rfl
  | some h => cases h <;> rfl

/-- The same file is made of a record in any order. -/
theorem ofRecord_eq (each : List.Forall₂ (Paired Reordered) fields others) :
    InputFile.ofRecord type fields none = InputFile.ofRecord type others none := by
  have hnames := (forall₂_paired_iff.1 each).1
  have hneed : ∀ a, Value.need a others = Value.need a fields := fun a => by
    rw [Value.need, Value.need, Value.lacks_eq hnames]
  have hname : InputFile.recordName fields = InputFile.recordName others := by
    have hfield : Option.Rel Reordered (Value.field? "name" fields) (Value.field? "name" others) :=
      Value.field?_rel each _
    unfold InputFile.recordName
    rw [hneed]
    generalize Value.field? "name" fields = name, Value.field? "name" others = other at hfield ⊢
    cases hfield with
    | none => rfl
    | some h => exact congrArg Except.ok h.ofValue_eq
  rw [InputFile.ofRecord, InputFile.ofRecord, classObstruction?_eq each, hneed, hname]

end

theorem isBinary_eq (h : Reordered v w) : v.isBinary = w.isBinary := by
  cases h with
  | record names each => exact hasRead_eq (forall₂_paired_iff.2 ⟨names, each⟩)
  | _ => rfl

/-- The same file is made of a value in any order. -/
theorem toFile?_eq (h : Reordered v w) : v.toFile? = w.toFile? := by
  cases h with
  | record names each =>
    have hpaired := forall₂_paired_iff.2 ⟨names, each⟩
    rw [Value.toFile?, Value.toFile?, hasRead_eq hpaired, ofRecord_eq hpaired]
  | _ => rfl

/-! ## Payloads -/

theorem payload (h : Reordered v w) : Reordered v.payload w.payload := by
  refine Reordered.induction (motive := fun v w => Reordered v.payload w.payload)
    (fun v => .same _) ?list ?tuple ?object ?record h
  case list =>
    intro items others each
    rw [Value.payload, Value.payload, Value.payloadItems_eq_map, Value.payloadItems_eq_map]
    exact .list (List.rel_map (fun _ _ h => h.2) each)
  case tuple =>
    intro items others each
    rw [Value.payload, Value.payload, Value.payloadItems_eq_map, Value.payloadItems_eq_map]
    exact .list (List.rel_map (fun _ _ h => h.2) each)
  case object =>
    intro entries moved others order each
    rw [Value.payload, Value.payload, Value.payloadEntries_eq_filterMap, Value.payloadEntries_eq_filterMap]
    refine of_paired (order.filterMap _) (List.rel_filterMap (fun e f h => ?_) each)
    obtain ⟨hkey, hvalue, hpayload⟩ := h
    rw [hvalue.isAbsent_eq, hkey]
    split
    · exact .none
    · exact .some ⟨rfl, hpayload⟩
  case record =>
    intro type fields others each
    -- fields keep their places, and with them the one that stands in for the table of fields
    have htable : (Value.table? fields).isNone = (Value.table? others).isNone :=
      isNone_eq_of_rel (Value.field?_rel each _)
    rw [Value.payload, Value.payload, ← Option.not_isNone, ← Option.not_isNone, htable]
    split
    · exact .same _
    · rw [Value.payloadFields_eq_filterMap, Value.payloadFields_eq_filterMap]
      refine of_paired (.refl _) (List.rel_filterMap (fun e f h => ?_) each)
      obtain ⟨hname, hvalue, hpayload⟩ := h
      rw [hvalue.isAbsent_eq, hname]
      split
      · exact .none
      · exact .some ⟨rfl, hpayload⟩

/-- Only an empty mapping can stand in for the table of fields. -/
theorem tableObstruction?_eq_none_iff {v : Value} : Value.tableObstruction? v = none ↔ v = .object [] := by
  unfold Value.tableObstruction?
  split <;> simp_all

theorem eq_nil_iff (h : Reordered v w) : v = .object [] ↔ w = .object [] := by
  cases h with
  | same => rfl
  | object order keys each =>
    have hperm := keys_perm (.object order keys each)
    rw [Value.object.injEq, Value.object.injEq, ← List.map_eq_nil_iff (f := Prod.fst),
      ← List.map_eq_nil_iff (f := Prod.fst)]
    exact ⟨fun h => (h ▸ hperm).nil_eq.symm, fun h => (h ▸ hperm).eq_nil⟩
  | _ => simp

/-- Either both values have payloads or neither. -/
theorem payloadObstruction?_eq_none_iff (h : Reordered v w) :
    v.payloadObstruction? = none ↔ w.payloadObstruction? = none := by
  refine Reordered.induction (motive := fun v w => v.payloadObstruction? = none ↔ w.payloadObstruction? = none)
    (fun v => .rfl) ?list ?tuple ?object ?record h
  case list =>
    intro items others each
    rw [Value.payloadObstruction?, Value.payloadObstruction?, Value.itemsObstruction?_eq_none_iff,
      Value.itemsObstruction?_eq_none_iff]
    exact forall_mem_iff_of_forall₂ each fun _ _ h => h.2
  case tuple =>
    intro items others each
    rw [Value.payloadObstruction?, Value.payloadObstruction?, Value.itemsObstruction?_eq_none_iff,
      Value.itemsObstruction?_eq_none_iff]
    exact forall_mem_iff_of_forall₂ each fun _ _ h => h.2
  case object =>
    intro entries moved others order each
    rw [Value.payloadObstruction?, Value.payloadObstruction?, Value.entriesObstruction?_eq_none_iff,
      Value.entriesObstruction?_eq_none_iff]
    -- which entry is in the way depends on the order, but not whether any is
    refine Iff.trans (forall_congr' fun e => by rw [order.mem_iff]) (forall_mem_iff_of_forall₂ each fun e f h => ?_)
    rw [h.2.1.isAbsent_eq, h.2.2]
  case record =>
    intro type fields others each
    have hnames := (forall₂_paired_iff.1 each).1
    have htable : Option.Rel (fun v w => Reordered v w ∧ _) (Value.table? fields) (Value.table? others) :=
      Value.field?_rel each _
    rw [Value.payloadObstruction?, Value.payloadObstruction?, Value.lacks_eq hnames, Value.lacks_eq hnames]
    split
    · rfl
    · generalize Value.table? fields = table, Value.table? others = other at htable ⊢
      cases htable with
      | some hvw =>
        dsimp only
        rw [tableObstruction?_eq_none_iff, tableObstruction?_eq_none_iff, hvw.1.eq_nil_iff]
      | none =>
        dsimp only
        rw [Value.fieldsObstruction?_eq_none_iff, Value.fieldsObstruction?_eq_none_iff]
        refine forall_mem_iff_of_forall₂ each fun e f h => ?_
        rw [h.2.1.isAbsent_eq, h.2.2]

end Reordered

end BotApi
