import BotApi.Proofs.Response.Values

/-!
# Decoding what was decoded

A decoded value has a payload, which lacks the keys that the types of its records do not declare. An option that
such a key kept from fitting may fit the payload, and if it stands before the one that was taken, the second value
is another one than the first. Nothing else comes between the two.

## Main results

* `not_refuses_payload` — what was decoded once is not refused the second time.
* `not_refuses_of_decode_payload` — an option by which the value comes back fitted the first time too.
* `decode_payload_eq_ok_iff` — the value comes back exactly if the choices last.
-/

namespace BotApi

namespace Value

theorem payload_of_isScalar {v : Value} (h : Response.isScalar v = true) : v.payload = v := by
  cases v with
  | text s => rfl
  | int n => rfl
  | float x => rfl
  | bool b => rfl
  | _ => cases h

end Value

namespace Response

/-- The choices made in decoding a payload last: at each union and each abstract type on the way, the option that
was taken is also the first which does not refuse the payload of the value. -/
inductive Lasting (types : Table TypeBinding) : Nat → TypeExpr → Value → Prop
  | primitive {opens : Nat} {r : Primitive} {p : Value} : Lasting types opens (.primitive r) p
  | items {opens : Nat} {item : TypeExpr} {ps : List Value} (each : ∀ p ∈ ps, Lasting types types.size item p) :
      Lasting types opens (.array item) (.list ps)
  | option {opens : Nat} {options : List TypeExpr} {e : TypeExpr} {p v : Value}
      (taken : IsFirst (fun e => ¬ Refuses types opens e p) options e) (value : decode types opens e p = .ok v)
      (again : IsFirst (fun e => ¬ Refuses types opens e v.payload) options e)
      (lasting : Lasting types opens e p) : Lasting types opens (.union options) p
  | variant {opens : Nat} {name : String} {type : TypeBinding} {p : Value} (find : types.find? name = some type)
      (abstract : type.isAbstract = true) (lasting : Lasting types opens (.union (type.variants.map .ref)) p) :
      Lasting types (opens + 1) (.ref name) p
  | fields {opens : Nat} {name : String} {type : TypeBinding} {entries : List (Key × Value)}
      (find : types.find? name = some type) (concrete : type.isAbstract = false)
      (each : ∀ f ∈ type.fields, ∀ p, Value.get? entries f.wireName = some p → p ≠ .null →
        Lasting types types.size f.type p) :
      Lasting types opens (.ref name) (.object entries)

section

variable {types : Table TypeBinding} {opens : Nat} {name : String} {type : TypeBinding} {p : Value}

theorem lasting_list_iff {item : TypeExpr} {ps : List Value} :
    Lasting types opens (.array item) (.list ps) ↔ ∀ p ∈ ps, Lasting types types.size item p := by
  constructor
  · intro h
    cases h with
    | items each => exact each
  · exact .items

theorem lasting_abstract_iff (htype : types.find? name = some type) (ha : type.isAbstract = true) :
    Lasting types (opens + 1) (.ref name) p ↔ Lasting types opens (.union (type.variants.map .ref)) p := by
  constructor
  · intro h
    cases h with
    | variant find _ lasting =>
      rw [htype, Option.some.injEq] at find
      rwa [find]
    | fields find concrete =>
      rw [htype, Option.some.injEq] at find
      rw [← find, ha] at concrete
      cases concrete
  · exact .variant htype ha

theorem lasting_object_iff (htype : types.find? name = some type) (hc : type.isAbstract = false)
    {entries : List (Key × Value)} :
    Lasting types opens (.ref name) (.object entries) ↔
      ∀ f ∈ type.fields, ∀ p, Value.get? entries f.wireName = some p → p ≠ .null →
        Lasting types types.size f.type p := by
  constructor
  · intro h
    cases h with
    | variant find abstract =>
      rw [htype, Option.some.injEq] at find
      rw [← find, hc] at abstract
      cases abstract
    | fields find _ each =>
      rw [htype, Option.some.injEq] at find
      rwa [find]
  · exact .fields htype hc

end

/-! ## The payload of what was decoded -/

section

variable {types : Table TypeBinding} {opens : Nat} {e : TypeExpr} {p v : Value}

theorem Decoded.payload_ne_null (h : Decoded types p v) : v.payload ≠ .null ∧ v.isAbsent = false := by
  cases h with
  | scalar hv =>
    rw [Value.payload_of_isScalar hv]
    cases p with
    | null => cases hv
    | absent => cases hv
    | _ => exact ⟨by simp, rfl⟩
  | items => exact ⟨by simp [Value.payload], rfl⟩
  | fields => exact ⟨by simp [Value.payload], rfl⟩

theorem payload_of_isSpared {name : String} {fields : List (FieldName × Value)}
    (h : (Value.record name fields).isSpared = true) :
    (Value.record name fields).payload = .object (Value.payloadFields fields) := by
  obtain ⟨-, -, -, htable, -⟩ := Value.isSpared_record_iff.1 h
  exact Value.payload_record name htable

/-- A field that was missing or null is so again in the payload of the record, and any other is the payload of its
value. -/
theorem fieldValue_payloadFields {f : FieldBinding} {entries : List (Key × Value)}
    {fields : List (FieldName × Value)} {w : Value} (hn : (fields.map fun e => e.1.wireName).Nodup)
    (hm : (f.names, w) ∈ fields) (hw : fieldValue types f entries = .ok w) :
    ((∀ p, Value.get? entries f.wireName = some p → p = .null) ∧
        fieldValue types f (Value.payloadFields fields) = .ok w) ∨
      ∃ p, Value.get? entries f.wireName = some p ∧ p ≠ .null ∧ decode types types.size f.type p = .ok w ∧
        fieldValue types f (Value.payloadFields fields) = decode types types.size f.type w.payload := by
  have hpayload : Value.get? (Value.payloadFields fields) f.wireName =
      if w.isAbsent then none else some w.payload := Value.get?_payloadFields hn hm
  rcases fieldValue_eq_ok_iff.1 hw with ⟨hget, hr, rfl⟩ | ⟨hget, hr, rfl⟩ | ⟨p, hget, hp, hx⟩
  -- a field that was not sent is left out of the payload
  · refine .inl ⟨fun p hp => ?_, fieldValue_eq_ok_iff.2 (.inl ⟨hpayload, hr, rfl⟩)⟩
    rw [hget] at hp
    cases hp
  -- null is null in the payload
  · refine .inl ⟨fun p hp => ?_, fieldValue_eq_ok_iff.2 (.inr (.inl ⟨hpayload, hr, rfl⟩))⟩
    rw [hget] at hp
    cases hp
    rfl
  · obtain ⟨hnull, habsent⟩ := (decoded_of_decode hx).payload_ne_null
    rw [habsent, if_neg (by simp)] at hpayload
    exact .inr ⟨p, hget, hp, hx, fieldValue_of_get? hpayload hnull⟩

/-- What was decoded once is not refused the second time. -/
theorem not_refuses_payload (resolved : Resolved types) (h : decode types opens e p = .ok v)
    (spared : v.throughout Value.isSpared = true) : ¬ Refuses types opens e v.payload := by
  refine value_induction types
    (motive := fun opens e _ v => v.throughout Value.isSpared = true → ¬ Refuses types opens e v.payload)
    ?primitive ?items ?option ?variant ?fields h spared
  case primitive =>
    intro opens r v ha _
    rw [Value.payload_of_isScalar (isScalar_of_admits ha)]
    exact not_refuses_of_eq_ok (decode_primitive_eq_ok_iff.2 ⟨ha, rfl⟩)
  case items =>
    rintro opens item ps vs hitems ih spared ⟨m, hm⟩
    rw [Value.payload, decode_list, map_eq_error_iff] at hm
    -- an item is refused, and it is the payload of an item that was decoded
    obtain ⟨q, hq, s, step, hs, hstep⟩ := exists_of_decodeItems_eq_error hm
    obtain ⟨m', rfl⟩ := eq_mismatch_of_under hstep
    rw [Value.payloadItems_eq_map] at hq
    obtain ⟨v, hv, rfl⟩ := List.mem_map.1 hq
    obtain ⟨p, hp, hpv⟩ := exists_of_mem_right hitems hv
    exact ih p hp v hpv ((Value.throughout_tuple_iff.1 spared).2 v hv) ⟨m', hs⟩
  case option =>
    rintro opens options e p v taken _ ih spared ⟨m, hm⟩
    rw [decode_union] at hm
    exact ih spared (refuses_of_decodeFirst hm e taken.mem)
  case variant =>
    rintro opens name type e p v htype ha taken _ ih spared ⟨m, hm⟩
    rw [decode_abstract htype ha] at hm
    exact ih spared (refuses_of_decodeFirst hm e taken.mem)
  case fields =>
    rintro opens name type entries fields htype hc hobstacle hfields ih spared ⟨m, hm⟩
    obtain ⟨hroot, hspared⟩ := Value.throughout_record_iff.1 spared
    rw [payload_of_isSpared hroot, decode_object htype hc, bind_eq_error_iff] at hm
    rcases hm with hm | ⟨others, -, hm⟩
    · obtain ⟨f, hf, s, step, hs, hstep⟩ := exists_of_decodeFields_eq_error hm
      obtain ⟨m', rfl⟩ := eq_mismatch_of_under hstep
      -- a field is refused, which had a value the first time
      obtain ⟨⟨names, w⟩, he, rfl, hw⟩ := exists_of_mem_left (decodeFields_eq_ok_iff.1 hfields) hf
      have hn := (nodup_names_of_decodeFields resolved htype hfields).2
      rcases fieldValue_payloadFields hn he hw with ⟨-, hagain⟩ | ⟨p, hget, -, hp, hagain⟩
      · rw [hagain] at hs
        cases hs
      · rw [hagain] at hs
        exact ih f hf p w hget hp (hspared _ w he) ⟨m', hs⟩
    -- the records of the type can be made, as one was
    · rw [makeRecord, hobstacle] at hm
      cases hm

/-- An option by which the value comes back from its payload was not refused the first time. -/
theorem not_refuses_of_decode_payload (h : decode types opens e v.payload = .ok v) (hd : Decoded types p v) :
    ¬ Refuses types opens e p := by
  induction opens, e, p using decode_induction types generalizing v with
  | primitive opens r p =>
    obtain ⟨ha, hv⟩ := decode_primitive_eq_ok_iff.1 h
    cases hd with
    | scalar hp =>
      rw [← hv] at h
      exact not_refuses_of_eq_ok h
    | items => cases hv
    | fields => cases hv
  | list opens item ps ih =>
    cases hd with
    | scalar hp => cases hp
    | @items item' _ vs hitems =>
      rw [Value.payload, decode_list, Value.payloadItems_eq_map] at h
      obtain ⟨vs', hvs', he⟩ := map_eq_ok_iff.1 h
      cases he
      -- each item comes back from its payload
      have hagain := List.forall₂_same.1 (List.forall₂_map_left_iff.1 (decodeItems_eq_ok_iff.1 hvs'))
      rintro ⟨m, hm⟩
      rw [decode_list, map_eq_error_iff] at hm
      obtain ⟨p, hp, s, step, hs, hstep⟩ := exists_of_decodeItems_eq_error hm
      obtain ⟨m', rfl⟩ := eq_mismatch_of_under hstep
      -- so the item that was refused is not
      obtain ⟨v, hv, hpv⟩ := exists_of_mem_left hitems hp
      exact ih p hp (hagain v hv) (decoded_of_decode hpv) ⟨m', hs⟩
  | notList opens item p hp =>
    cases hd with
    | scalar hscalar =>
      rw [Value.payload_of_isScalar hscalar, decode_not_list hp] at h
      cases h
    | items => exact (hp _ rfl).elim
    | fields =>
      rw [Value.payload, decode_not_list (by simp)] at h
      cases h
  | union opens options p ih =>
    rw [decode_union] at h
    obtain ⟨e, hfirst, he⟩ := decodeFirst_eq_ok_iff.1 h
    rintro ⟨m, hm⟩
    rw [decode_union] at hm
    exact ih e hfirst.mem he hd (refuses_of_decodeFirst hm e hfirst.mem)
  | unknown opens name p htype =>
    rw [decode_unknown htype] at h
    cases h
  | endless name type p htype ha =>
    rw [decode_endless htype ha] at h
    cases h
  | abstract opens name type p htype ha ih =>
    rw [decode_abstract htype ha] at h
    obtain ⟨e, hfirst, he⟩ := decodeFirst_eq_ok_iff.1 h
    rintro ⟨m, hm⟩
    rw [decode_abstract htype ha] at hm
    exact ih e hfirst.mem he hd (refuses_of_decodeFirst hm e hfirst.mem)
  | object opens name type entries htype hc _ =>
    cases hd with
    | scalar hp => cases hp
    | @fields other otherType _ fields find concrete obstacle decoded =>
      -- the record is of this very type, which then decodes the mapping itself
      rw [Value.payload] at h
      obtain ⟨fields', -, -, he⟩ := (decode_object_eq_ok_iff htype hc).1 h
      cases he
      rw [find, Option.some.injEq] at htype
      subst htype
      exact not_refuses_of_eq_ok ((decode_object_eq_ok_iff find hc).2 ⟨fields, decoded, obstacle, rfl⟩)
  | notObject opens name type p htype hc hp =>
    cases hd with
    | scalar hscalar =>
      rw [Value.payload_of_isScalar hscalar, decode_not_object htype hc hp] at h
      cases h
    | items =>
      rw [Value.payload, decode_not_object htype hc (by simp)] at h
      cases h
    | fields => exact (hp _ rfl).elim

/-- Where the value comes back from the option that was taken exactly if the choices last, it does from all
options. -/
theorem decodeFirst_payload_eq_ok_iff (resolved : Resolved types) {whole : TypeExpr} {options : List TypeExpr}
    (taken : IsFirst (fun e => ¬ Refuses types opens e p) options e) (he : decode types opens e p = .ok v)
    (hoption : decode types opens e v.payload = .ok v ↔ Lasting types opens e p)
    (spared : v.throughout Value.isSpared = true) :
    decodeFirst types opens whole options v.payload = .ok v ↔ Lasting types opens (.union options) p := by
  rw [decodeFirst_eq_ok_iff]
  constructor
  · rintro ⟨e', again, he'⟩
    -- neither of the two options is refused where the other was taken
    have hsame : e = e' := taken.eq_of_holds again (not_refuses_payload resolved he spared)
      (not_refuses_of_decode_payload he' (decoded_of_decode he))
    subst hsame
    exact .option taken he again (hoption.1 he')
  · intro hlasting
    cases hlasting with
    | @option _ _ e' _ v' taken' value again lasting =>
      -- the option that lasts is the one that was taken
      cases taken.unique taken'
      rw [he, Except.ok.injEq] at value
      subst value
      exact ⟨e, again, hoption.2 lasting⟩

/-- The value comes back from its payload exactly if the choices last that were made the first time. -/
theorem decode_payload_eq_ok_iff (resolved : Resolved types) (h : decode types opens e p = .ok v)
    (spared : v.throughout Value.isSpared = true) :
    decode types opens e v.payload = .ok v ↔ Lasting types opens e p := by
  refine value_induction types
    (motive := fun opens e p v => v.throughout Value.isSpared = true →
      (decode types opens e v.payload = .ok v ↔ Lasting types opens e p))
    ?primitive ?items ?option ?variant ?fields h spared
  case primitive =>
    intro opens r v ha _
    rw [Value.payload_of_isScalar (isScalar_of_admits ha)]
    exact iff_of_true (decode_primitive_eq_ok_iff.2 ⟨ha, rfl⟩) .primitive
  case items =>
    intro opens item ps vs hitems ih spared
    have hspared := (Value.throughout_tuple_iff.1 spared).2
    -- a tuple comes back if its items do
    have hback : decode types opens (.array item) (Value.tuple vs).payload = .ok (.tuple vs) ↔
        ∀ v ∈ vs, decode types types.size item v.payload = .ok v := by
      rw [Value.payload, decode_list, Value.payloadItems_eq_map, map_eq_ok_iff]
      simp only [Value.tuple.injEq, exists_eq_right]
      rw [decodeItems_eq_ok_iff, List.forall₂_map_left_iff, List.forall₂_same]
    rw [hback, lasting_list_iff]
    constructor
    · intro hall p hp
      obtain ⟨v, hv, hpv⟩ := exists_of_mem_left hitems hp
      exact (ih p hp v hpv (hspared v hv)).1 (hall v hv)
    · intro hall v hv
      obtain ⟨p, hp, hpv⟩ := exists_of_mem_right hitems hv
      exact (ih p hp v hpv (hspared v hv)).2 (hall p hp)
  case option =>
    intro opens options e p v taken he ih spared
    rw [decode_union]
    exact decodeFirst_payload_eq_ok_iff resolved taken he (ih spared) spared
  case variant =>
    intro opens name type e p v htype ha taken he ih spared
    rw [decode_abstract htype ha, lasting_abstract_iff htype ha]
    exact decodeFirst_payload_eq_ok_iff resolved taken he (ih spared) spared
  case fields =>
    intro opens name type entries fields htype hc hobstacle hfields ih spared
    obtain ⟨hroot, hspared⟩ := Value.throughout_record_iff.1 spared
    have hn := (nodup_names_of_decodeFields resolved htype hfields).2
    -- a record comes back if its fields do
    have hback : decode types opens (.ref name) (Value.record name fields).payload = .ok (.record name fields) ↔
        decodeFields types type.fields (Value.payloadFields fields) = .ok fields := by
      rw [payload_of_isSpared hroot, decode_object_eq_ok_iff htype hc]
      simp [hobstacle]
    rw [hback, lasting_object_iff htype hc, decodeFields_eq_ok_iff]
    refine forall₂_iff_forall_left (decodeFields_eq_ok_iff.1 hfields) fun f hf e he => ?_
    obtain ⟨names, w⟩ := e
    rintro ⟨rfl, hw⟩
    rcases fieldValue_payloadFields hn he hw with ⟨hnull, hagain⟩ | ⟨p, hget, hp, hx, hagain⟩
    -- without a value there is no choice
    · exact iff_of_true ⟨rfl, hagain⟩ fun p hget hp => absurd (hnull p hget) hp
    · dsimp only
      rw [hagain, ih f hf p w hget hx (hspared _ w he), hget]
      constructor
      · rintro ⟨-, hlasting⟩ p' hp' -
        cases hp'
        exact hlasting
      · intro hall
        exact ⟨rfl, hall p rfl hp⟩

end

end Response

end BotApi
