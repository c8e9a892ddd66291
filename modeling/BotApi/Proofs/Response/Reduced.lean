import BotApi.Proofs.Response.Fitting

/-!
# The payload of what was decoded

A payload that is decoded and made into a payload again comes back reduced: of each mapping only those keys are left
that its type declares, and everything else is as it was. On the way a field has another name, its attribute. The
payload finds the wire name again in a table of the attributes whose wire names differ.

## Main results

* `wireNameOf_name` — the wire name that is found under an attribute is the one that the attribute was made from.
* `isReduced_of_decode` — where the value has a payload, it is the reduced one.
* `payload_of_decode_reduced` — the same for the expressions of bindings, and what may keep a value from a payload.
* `decoded_value_without_payload` — a value need not have one.
-/

namespace BotApi

/-- The wire name of an attribute: what the table of renamed attributes says, or else the attribute itself. -/
def wireNameOf (fields : List FieldBinding) (name : String) : String :=
  ((renamed fields).lookup name).getD name

/-- The wire name that is found under an attribute is the one that the attribute was made from. -/
theorem wireNameOf_name {fields : List FieldBinding} (hn : (fields.map (·.name)).Nodup) {f : FieldBinding}
    (hf : f ∈ fields) : wireNameOf fields f.name = f.wireName := by
  unfold wireNameOf
  cases hlookup : (renamed fields).lookup f.name with
  | none =>
    -- what is not in the table was not renamed
    by_contra hne
    rw [List.lookup_eq_none_iff] at hlookup
    have hm : (f.name, f.wireName) ∈ renamed fields :=
      List.mem_map.2 ⟨f, List.mem_filter.2 ⟨hf, decide_eq_true hne⟩, rfl⟩
    simpa using hlookup _ hm
  | some wireName =>
    -- the entry is that of a field with the same attribute, which is the field itself
    obtain ⟨before, after, he, -⟩ := List.lookup_eq_some_iff.1 hlookup
    have hm : (f.name, wireName) ∈ renamed fields := by
      rw [he]
      simp
    obtain ⟨g, hg, hpair⟩ := List.mem_map.1 hm
    obtain ⟨hname, rfl⟩ := Prod.mk.inj hpair
    rw [List.inj_on_of_nodup_map hn (List.mem_filter.1 hg).1 hf hname]
    rfl

namespace Response

/-- A payload with the value that it was decoded to and the payload that is left of it: all of what it was, except that
a mapping has only the keys that the type of its record declares. -/
inductive IsReduced (types : Table TypeBinding) : Value → Value → Value → Prop
  | null : IsReduced types .null .null .null
  | scalar {p : Value} (h : isScalar p = true) : IsReduced types p p p
  | items {ps vs qs : List Value} (decoded : ps.length = vs.length) (left : ps.length = qs.length)
      (each : ∀ (i : Nat) (p v q : Value), ps[i]? = some p → vs[i]? = some v → qs[i]? = some q →
        IsReduced types p v q) :
      IsReduced types (.list ps) (.tuple vs) (.list qs)
  | fields {name : String} {type : TypeBinding} {entries others : List (Key × Value)}
      {own : List (FieldName × Value)} (find : types.find? name = some type) (concrete : type.isAbstract = false)
      (names : own.map Prod.fst = type.fields.map (·.names)) (nodup : (others.map Prod.fst).Nodup)
      (keys : ∀ k, k ∈ others.map Prod.fst ↔
        k ∈ entries.map Prod.fst ∧ ∃ f ∈ type.fields, k = .text f.wireName)
      (each : ∀ f ∈ type.fields, ∀ p v q, Value.get? entries f.wireName = some p → (f.names, v) ∈ own →
        Value.get? others f.wireName = some q → IsReduced types p v q) :
      IsReduced types (.object entries) (.record name own) (.object others)

/-! ## Payloads of records -/

section

variable {types : Table TypeBinding} {opens : Nat} {e : TypeExpr} {p v w : Value}

theorem get?_eq_none_iff {entries : List (Key × Value)} {key : String} :
    Value.get? entries key = none ↔ .text key ∉ entries.map Prod.fst := by
  rw [Value.get?, List.lookup_eq_none_iff]
  constructor
  · intro h hm
    obtain ⟨e, he, hkey⟩ := List.mem_map.1 hm
    simpa [hkey] using h e he
  · intro h e he
    refine bne_iff_ne.2 fun hkey => h ?_
    exact List.mem_map.2 ⟨e, he, hkey.symm⟩

/-- A record of decoded values that has a payload has no field in the place of the table of fields. -/
theorem table?_eq_none_of_payload? {name : String} {own : List (FieldName × Value)}
    (hread : (Value.record name own).throughout isRead = true)
    (h : (Value.record name own).payloadObstruction? = none) : Value.table? own = none := by
  rw [Value.payloadObstruction?] at h
  split at h
  · cases h
  · split at h
    · next table htable =>
      -- what stands there is a decoded value, and none of these is a table
      obtain ⟨⟨f, v⟩, hfind, rfl⟩ := Option.map_eq_some_iff.1 htable
      have hv := (Value.throughout_record_iff.1 hread).2 f v (List.mem_of_find?_eq_some hfind)
      cases v with
      | object => cases Value.holds_of_throughout hv
      | _ => cases h
    · next htable => exact htable

/-- Its payload has the payloads of the fields that were sent. -/
theorem payload?_record_eq_ok {name : String} {own : List (FieldName × Value)}
    (hread : (Value.record name own).throughout isRead = true) (h : (Value.record name own).payload? = .ok w) :
    w = .object (Value.payloadFields own) ∧
      ∀ f v, (f, v) ∈ own → v.isAbsent = false → v.payload? = .ok v.payload := by
  obtain ⟨hnone, hw⟩ := Value.payload?_eq_ok_iff.1 h
  have htable := table?_eq_none_of_payload? hread hnone
  rw [Value.payload_record name htable] at hw
  refine ⟨hw.symm, fun f v hm hsent => Value.payload?_eq_ok_iff.2 ⟨?_, rfl⟩⟩
  rw [Value.payloadObstruction?, htable] at hnone
  split at hnone
  · cases hnone
  · exact (Value.fieldsObstruction?_eq_none_iff.1 hnone _ hm hsent).2

/-- The fields that a record was decoded with and that were sent are those whose keys were in the mapping. -/
theorem mem_keys_payloadFields_of_decode {declared : List FieldBinding} {entries : List (Key × Value)}
    {own : List (FieldName × Value)} (h : decodeFields types declared entries = .ok own) (k : Key) :
    k ∈ (Value.payloadFields own).map Prod.fst ↔ k ∈ entries.map Prod.fst ∧ ∃ f ∈ declared, k = .text f.wireName := by
  have hsent {f : FieldBinding} {v : Value} (hv : fieldValue types f entries = .ok v) :
      v.isAbsent = false ↔ .text f.wireName ∈ entries.map Prod.fst := by
    rw [← not_iff_not, ← get?_eq_none_iff, ← (fieldValue_marks hv).2.1]
    cases v <;> simp [Value.isAbsent]
  rw [Value.mem_keys_payloadFields]
  constructor
  · rintro ⟨names, v, hm, hv, rfl⟩
    obtain ⟨f, hf, rfl, hvalue⟩ := exists_of_mem_right (decodeFields_eq_ok_iff.1 h) hm
    exact ⟨(hsent hvalue).1 hv, f, hf, rfl⟩
  · rintro ⟨hk, f, hf, rfl⟩
    obtain ⟨⟨names, v⟩, hm, rfl, hvalue⟩ := exists_of_mem_left (decodeFields_eq_ok_iff.1 h) hf
    exact ⟨f.names, v, hm, (hsent hvalue).2 hk, rfl⟩

/-! ## Reduction -/

/-- What a payload was decoded to is made into the reduced payload, if it can be made into one. -/
theorem isReduced_of_decode (resolved : Resolved types) (h : decode types opens e p = .ok v)
    (hpayload : v.payload? = .ok w) : IsReduced types p v w := by
  refine value_induction types (motive := fun _ _ p v => ∀ w, v.payload? = .ok w → IsReduced types p v w)
    ?primitive ?items ?option ?variant ?fields h w hpayload
  case primitive =>
    intro opens r v ha w hw
    have hscalar := isScalar_of_admits ha
    rw [Value.eq_payload_of_payload? hw, Value.payload_of_isScalar hscalar]
    exact .scalar hscalar
  case items =>
    intro opens item ps vs hitems ih w hw
    obtain ⟨hnone, rfl⟩ := Value.payload?_eq_ok_iff.1 hw
    rw [Value.payloadObstruction?, Value.itemsObstruction?_eq_none_iff] at hnone
    rw [Value.payload, Value.payloadItems_eq_map]
    refine .items hitems.length_eq (by rw [List.length_map, hitems.length_eq]) fun i p v q hp hv hq => ?_
    rw [List.getElem?_map, hv, Option.map_some, Option.some.injEq] at hq
    obtain ⟨hi, rfl⟩ := List.getElem?_eq_some_iff.1 hp
    obtain ⟨hj, rfl⟩ := List.getElem?_eq_some_iff.1 hv
    refine ih _ (List.getElem_mem hi) _ (hitems.get hi hj) q ?_
    exact Value.payload?_eq_ok_iff.2 ⟨hnone _ (List.getElem_mem hj), hq⟩
  case option => exact fun opens options e p v _ _ ih => ih
  case variant => exact fun opens name type e p v _ _ _ _ ih => ih
  case fields =>
    intro opens name type entries own htype hc hobstacle hfields ih w hw
    have hrecord : decode types opens (.ref name) (.object entries) = .ok (.record name own) :=
      (decode_object_eq_ok_iff htype hc).2 ⟨own, hfields, hobstacle, rfl⟩
    have hread := throughout_isRead_of_decode resolved hrecord
    obtain ⟨rfl, hparts⟩ := payload?_record_eq_ok hread hw
    have hn := (nodup_names_of_decodeFields resolved htype hfields).2
    refine .fields htype hc (names_of_decodeFields hfields) (Value.nodup_keys_payloadFields hn)
      (mem_keys_payloadFields_of_decode hfields) fun f hf p v q hp hm hq => ?_
    have hvalue := fieldValue_of_mem_decodeFields resolved htype hfields hf hm
    have hget : Value.get? (Value.payloadFields own) f.wireName = if v.isAbsent then none else some v.payload :=
      Value.get?_payloadFields hn hm
    rw [hq] at hget
    -- a field that is in the payload was sent, as null or with a value
    rcases fieldValue_eq_ok_iff.1 hvalue with ⟨-, -, rfl⟩ | ⟨hnull, -, rfl⟩ | ⟨p', hp', -, hx⟩
    · cases hget
    · rw [hp] at hnull
      cases hnull
      cases hget
      exact .null
    · rw [hp] at hp'
      cases hp'
      have hsent := (decoded_of_decode hx).payload_ne_null.2
      rw [hsent, if_neg (by simp), Option.some.injEq] at hget
      rw [hget]
      exact ih f hf p v hp hx v.payload (hparts f.names v hm hsent)

/-- Whether a value, if it is a record, has what its payload is made by. -/
def isListed : Value → Bool
  | .record _ fields =>
    !Value.lacks .access fields && !Value.lacks .wireNames fields && (Value.table? fields).isNone
  | _ => true

/-- A value that has no payload has a record in it with a field in the place of what payloads are made by. -/
theorem exists_of_payload?_eq_error {o : Obstruction} (h : v.payload? = .error o) :
    ∃ w ∈ v.parts, isListed w = false := by
  rw [← Value.throughout_eq_false_iff, ← Bool.not_eq_true]
  intro hlisted
  have htables : Value.HasTables isListed := by
    intro type fields hrecord
    rw [isListed] at hrecord
    simpa only [Bool.and_eq_true, Bool.not_eq_true', Option.isNone_iff_eq_none, and_assoc] using hrecord
  rw [Value.payload?_eq_ok htables hlisted] at h
  cases h

end

/-- A value that was decoded by an expression of bindings is made into the reduced payload, or there is a record in it
with a field in the place of what payloads are made by. In each type the wire name that is found under the attribute of
a field is the one that it is decoded by. -/
theorem payload_of_decode_reduced {schema : Schema} {b : Bindings} (hb : (Bindings.build schema).result = .ok b)
    {threshold : Threshold} {root : String} {e : TypeExpr} {p v : Value}
    (h : (decodeLogged threshold b.types root e p).result = .ok v) :
    (∀ w, v.payload? = .ok w → IsReduced b.types p v w) ∧
      (∀ o, v.payload? = .error o → ∃ part ∈ v.parts, isListed part = false) ∧
      ∀ name type, b.types.find? name = some type → ∀ f ∈ type.fields, wireNameOf type.fields f.name = f.wireName := by
  have resolved := Bindings.resolved_of_build hb
  refine ⟨fun w hw => isReduced_of_decode resolved (decode_of_decodeLogged h) hw,
    fun o ho => exists_of_payload?_eq_error ho, fun name type htype f hf => ?_⟩
  exact wireNameOf_name (resolved.attributes name type htype) hf

/-! ### Notes -/

/-- A schema with notes, which have a sender and may have a text, and with marks, which have a field in the place of the
table of renamed attributes. -/
def noteSchema : Schema where
  version := none
  releaseDate := none
  changelog := none
  types := .ofList
    [("Note", { href := "", description := [], subtypes := [], subtypeOf := []
                fields := [⟨"from", ["Integer"], true, ""⟩, ⟨"text", ["String"], false, ""⟩] }),
      ("Mark", { href := "", description := [], subtypes := [], subtypeOf := []
                 fields := [⟨"from", ["Integer"], true, ""⟩, ⟨"__wire_names__", ["String"], false, ""⟩] })]
  methods := .empty

/-- The types of its bindings. -/
def noteTypes : Table TypeBinding where
  entries :=
    [("Note", { name := "Note", variants := [], description := []
                fields := [⟨"from_user", "from", .primitive .integer, true, ""⟩,
                  ⟨"text", "text", .primitive .string, false, ""⟩] }),
      ("Mark", { name := "Mark", variants := [], description := []
                 fields := [⟨"from_user", "from", .primitive .integer, true, ""⟩,
                   ⟨"__wire_names__", "__wire_names__", .primitive .string, false, ""⟩] })]
  nodup := by decide

theorem build_noteSchema : ∃ b, (Bindings.build noteSchema).result = .ok b ∧ b.types = noteTypes := by
  have htypes : (noteSchema.types.map Graph.typeOf).mapM (fun _ node => Bindings.bindType node) =
      .ok noteTypes := eq_ok_of_toOption (by decide +kernel)
  exact ⟨_, Bindings.build_eq_ok (by decide +kernel) htypes, rfl⟩

/-- A mapping with a sender, no text, and a colour, which no type declares. -/
def notePayload : Value := .object [(.text "from", .int 1), (.text "colour", .text "red"), (.text "text", .null)]

/-- The note that it is decoded to. -/
def note : Value := .record "Note" [(⟨"from_user", "from", true⟩, .int 1), (⟨"text", "text", false⟩, .null)]

/-- What is left of the mapping. -/
def reducedNote : Value := .object [(.text "from", .int 1), (.text "text", .null)]

theorem payload_of_decode_reduced_note :
    ∃ b, (Bindings.build noteSchema).result = .ok b ∧
      (decodeLogged .all b.types "Note" (.ref "Note") notePayload).result = .ok note ∧
      note.payload? = .ok reducedNote ∧ IsReduced b.types notePayload note reducedNote := by
  obtain ⟨b, hb, htypes⟩ := build_noteSchema
  have hnote : (decodeLogged .all b.types "Note" (.ref "Note") notePayload).result = .ok note := by
    rw [htypes, result_of_decodeLogged _ _ _ _ (by decide)]
    cbv
  have hpayload : note.payload? = .ok reducedNote := by
    refine Value.payload?_eq_ok_iff.2 ⟨by decide, ?_⟩
    exact Value.payload_record "Note" (Option.isNone_iff_eq_none.1 (by decide))
  exact ⟨b, hb, hnote, hpayload, (payload_of_decode_reduced hb hnote).1 _ hpayload⟩

/-- The same mapping is decoded to a mark as well, which has no payload. -/
theorem decoded_value_without_payload :
    ∃ b v, (Bindings.build noteSchema).result = .ok b ∧
      (decodeLogged .all b.types "Mark" (.ref "Mark") notePayload).result = .ok v ∧
      v.payload? = .error (.noAttribute .absent "get") := by
  obtain ⟨b, hb, htypes⟩ := build_noteSchema
  refine ⟨b, .record "Mark" [(⟨"from_user", "from", true⟩, .int 1),
    (⟨"__wire_names__", "__wire_names__", false⟩, .absent)], hb, ?_, ?_⟩
  · rw [htypes, result_of_decodeLogged _ _ _ _ (by decide)]
    cbv
  · -- the field was not sent, and nothing can be looked up in the mark of that
    rw [Value.payload?, show Value.payloadObstruction? _ = some (.noAttribute .absent "get") by decide]

end Response

end BotApi
