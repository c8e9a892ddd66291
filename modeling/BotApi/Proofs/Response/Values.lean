import BotApi.Proofs.Bindings.Resolved
import BotApi.Proofs.Response.Decoded
import BotApi.Proofs.Value.Payload
import BotApi.Value.Same

/-!
# Decoded values

What decoded values are made of, and what follows for their payloads and their equality. Some records do not have
a payload, or do not equal themselves: those with a field in the place of what either rests on.

## Main results

* `throughout_isRead_of_decode` — decoded values consist of scalars, tuples and records.
* `payload?_of_isSpared` — they have payloads unless a field has taken the place of what these rest on.
* `equal_self` — in the same way, they equal themselves.
-/

namespace BotApi

namespace Response

/-- Whether a value is one that decoding makes, as far as the values in it are. -/
def isRead : Value → Bool
  | .null | .absent | .bool _ | .int _ | .float _ | .text _ | .tuple _ => true
  | .record _ fields => (fields.map fun e => e.1.name).Nodup && (fields.map fun e => e.1.wireName).Nodup
  | _ => false

theorem nodup_names_of_decodeFields {types : Table TypeBinding} (resolved : Resolved types) {name : String}
    {type : TypeBinding} (htype : types.find? name = some type) {entries : List (Key × Value)}
    {fields : List (FieldName × Value)} (h : decodeFields types type.fields entries = .ok fields) :
    (fields.map fun e => e.1.name).Nodup ∧ (fields.map fun e => e.1.wireName).Nodup := by
  have hnames := names_of_decodeFields h
  -- a decoded field keeps both names of the field of the type
  have hname : (fields.map fun e => e.1.name) = type.fields.map (·.name) := by
    have heq := congrArg (List.map FieldName.name) hnames
    rwa [List.map_map, List.map_map] at heq
  have hwireName : (fields.map fun e => e.1.wireName) = type.fields.map (·.wireName) := by
    have heq := congrArg (List.map FieldName.wireName) hnames
    rwa [List.map_map, List.map_map] at heq
  rw [hname, hwireName]
  exact ⟨resolved.attributes name type htype, resolved.wireNames name type htype⟩

/-- Decoded values are scalars, arrays and records, and in the place of a field also null and the mark of a field
that was not sent. -/
theorem throughout_isRead_of_decode {types : Table TypeBinding} (resolved : Resolved types) {opens : Nat}
    {e : TypeExpr} {p v : Value} (h : decode types opens e p = .ok v) : v.throughout isRead = true := by
  refine value_induction types (motive := fun _ _ _ v => v.throughout isRead = true)
    ?primitive ?items ?option ?variant ?fields h
  case primitive =>
    intro opens r v ha
    have hscalar := isScalar_of_admits ha
    cases v with
    | text s => rfl
    | int n => rfl
    | float x => rfl
    | bool b => rfl
    | _ => cases hscalar
  case items =>
    intro opens item ps vs hitems ih
    refine Value.throughout_tuple_iff.2 ⟨rfl, fun v hv => ?_⟩
    -- each item was decoded from one of the list
    obtain ⟨p, hp, hpv⟩ := exists_of_mem_right hitems hv
    exact ih p hp v hpv
  case option => exact fun opens options e p v _ _ ih => ih
  case variant => exact fun opens name type e p v _ _ _ _ ih => ih
  case fields =>
    intro opens name type entries fields htype _ _ hfields ih
    obtain ⟨hname, hwireName⟩ := nodup_names_of_decodeFields resolved htype hfields
    refine Value.throughout_record_iff.2 ⟨?_, fun f w hm => ?_⟩
    · rw [isRead, Bool.and_eq_true, decide_eq_true_eq, decide_eq_true_eq]
      exact ⟨hname, hwireName⟩
    · obtain ⟨f', hf', -, hw⟩ := exists_of_mem_right (decodeFields_eq_ok_iff.1 hfields) hm
      -- it was missing, null, or decoded from the value under its key
      rcases fieldValue_eq_ok_iff.1 hw with ⟨-, -, rfl⟩ | ⟨-, -, rfl⟩ | ⟨p, hget, -, hp⟩
      · rfl
      · rfl
      · exact ih f' hf' p w hget hp

end Response

namespace Value

/-- Whether no field of the record has taken the place of what its payload and its equality rest on. What stands in
for its class has to be such that it is one thing only. -/
def isSpared : Value → Bool
  | .record _ fields =>
    !lacks .access fields && !lacks .wireNames fields && !lacks .equality fields && (table? fields).isNone &&
      (standIn? fields).all fun c => identical true c c
  | _ => true

/-- What a record with its special attributes is spared. -/
theorem isSpared_record_iff {type : String} {fields : List (FieldName × Value)} :
    (Value.record type fields).isSpared = true ↔
      lacks .access fields = false ∧ lacks .wireNames fields = false ∧ lacks .equality fields = false ∧
        table? fields = none ∧ ∀ c, standIn? fields = some c → identical true c c = true := by
  rw [isSpared]
  simp only [Bool.and_eq_true, Bool.not_eq_true', Option.isNone_iff_eq_none, Option.all_eq_true, and_assoc]

/-- Nothing keeps a value from having a payload if the records in it have their special attributes. -/
theorem payload?_of_isSpared {v : Value} (h : v.throughout isSpared = true) : v.payload? = .ok v.payload := by
  refine payload?_eq_ok (fun type fields hrecord => ?_) h
  obtain ⟨haccess, hwireNames, -, htable, -⟩ := isSpared_record_iff.1 hrecord
  exact ⟨haccess, hwireNames, htable⟩

/-! ## Equality -/

theorem field?_of_mem {fields : List (FieldName × Value)} (hn : (fields.map fun e => e.1.name).Nodup)
    {f : FieldName} {v : Value} (hm : (f, v) ∈ fields) : field? f.name fields = some v := by
  induction fields with
  | nil => cases hm
  | cons e rest ih =>
    rw [List.map_cons, List.nodup_cons] at hn
    rw [field?, List.find?_cons]
    -- no field before it has the same attribute
    rcases List.mem_cons.1 hm with rfl | hr
    · rw [decide_eq_true rfl]
      rfl
    · have hne : e.1.name ≠ f.name := fun he => hn.1 (List.mem_map.2 ⟨(f, v), hr, he.symm⟩)
      rw [decide_eq_false hne]
      exact ih hn.2 hr

/-- Inside a container what is not a number equals itself as well. -/
theorem equalsShared_self {v : Value} (h : v ≠ .float .nan → equal true v v = .ok true) :
    equalsShared v v = .ok true := by
  rw [equalsShared]
  by_cases hnan : v = .float .nan
  · rw [hnan, if_pos (by rw [identical]; rfl)]
  · rw [h hnan]
    split <;> rfl

mutual

/-- A decoded value that is a number, if it is a float, equals itself. -/
theorem equal_self :
    ∀ v : Value, v.throughout Response.isRead = true → v.throughout isSpared = true → v ≠ .float .nan →
      equal true v v = .ok true
  | .tuple items, hread, hspared, _ => by
    rw [equal]
    exact equalItems_self items (throughoutItems_iff.2 (throughout_tuple_iff.1 hread).2)
      (throughoutItems_iff.2 (throughout_tuple_iff.1 hspared).2)
  | .record type fields, hread, hspared, _ => by
    obtain ⟨hroot, hfields⟩ := throughout_record_iff.1 hread
    obtain ⟨hroot', hfields'⟩ := throughout_record_iff.1 hspared
    rw [Response.isRead, Bool.and_eq_true, decide_eq_true_eq] at hroot
    obtain ⟨-, -, hequality, -, hclass⟩ := isSpared_record_iff.1 hroot'
    -- a record is of its own class, whatever stands in for that
    have hsame : sameClass true type fields type fields = true := by
      rw [sameClass]
      cases hc : standIn? fields with
      | none => exact decide_eq_true rfl
      | some c => exact hclass c hc
    -- and it has its own attributes
    have hmissing : missing? fields fields = none := by
      rw [missing?, List.find?_eq_none]
      intro name hname
      obtain ⟨e, he, rfl⟩ := List.mem_map.1 hname
      rw [field?_of_mem hroot.1 he]
      simp
    rw [equal, need, hequality, hsame, hmissing]
    exact equalFields_self hroot.1 fields (fun e he => he) (throughoutFields_iff.2 hfields)
      (throughoutFields_iff.2 hfields')
  | .float x, _, _, hnan => by
    cases x with
    | nan => exact absurd rfl hnan
    | infinity negative => simp [equal, number?, sameNumber, Number.Binary64.equal]
    | finite negative m e => simp [equal, number?, sameNumber, Number.Binary64.equal]
  | .null, _, _, _ | .absent, _, _, _ => by rw [equal]
  | .bool _, _, _, _ | .int _, _, _, _ | .text _, _, _, _ => by simp [equal, number?, sameNumber]
  | .list _, h, _, _ | .object _, h, _, _ | .bytes _, h, _, _ | .bytearray _, h, _, _ | .file _, h, _, _
  | .stream _, h, _, _ | .foreign _ _, h, _, _ => by cases holds_of_throughout h

theorem equalItems_self :
    ∀ items : List Value, throughoutItems Response.isRead items = true → throughoutItems isSpared items = true →
      equalItems true items items = .ok true
  | [], _, _ => by rw [equalItems]
  | v :: rest, hread, hspared => by
    rw [throughoutItems, Bool.and_eq_true] at hread hspared
    have hfirst := equalsShared_self (equal_self v hread.1 hspared.1)
    have hrest := equalItems_self rest hread.2 hspared.2
    -- items are compared unless they are the very same
    rw [equalsShared] at hfirst
    rw [equalItems]
    split
    · exact hrest
    · next hne =>
      rw [if_neg hne] at hfirst
      rw [hfirst]
      exact hrest

theorem equalFields_self {whole : List (FieldName × Value)} (hn : (whole.map fun e => e.1.name).Nodup) :
    ∀ fields : List (FieldName × Value), fields ⊆ whole → throughoutFields Response.isRead fields = true →
      throughoutFields isSpared fields = true → equalFields true fields whole = .ok true
  | [], _, _, _ => by rw [equalFields]
  | (f, v) :: rest, hwhole, hread, hspared => by
    rw [throughoutFields, Bool.and_eq_true] at hread hspared
    have hfirst := equalsShared_self (equal_self v hread.1 hspared.1)
    have hrest := equalFields_self hn rest (fun e he => hwhole (List.mem_cons_of_mem _ he)) hread.2 hspared.2
    -- the field found under the attribute is the field itself
    rw [equalFields, field?_of_mem hn (hwhole (List.mem_cons_self ..))]
    rw [equalsShared] at hfirst
    dsimp only
    split
    · exact hrest
    · next hne =>
      rw [if_neg hne] at hfirst
      rw [hfirst]
      exact hrest

end

end Value

end BotApi
