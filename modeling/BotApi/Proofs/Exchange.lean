import BotApi.Proofs.Request.Uploads
import BotApi.Proofs.Response.Reduced

/-!
# Sending back what was read, and reading what was sent

The encoder and the decoder go by the same types, but not in the same way: the one knows records by name and refuses
undeclared keys, the other goes by what a mapping has and passes them over, so that a union may take another option on
the way back. Where no file can be reached they agree all the same. What was decoded conforms to the expression, as a
value and as a payload, and whatever conforms is converted by some option; which one makes no difference to what is
sent. What was converted fits, and is read by some option.

## Main results

* `conforms_of_decode` — a decoded value conforms to its expression, and so does its payload.
* `tellable_of_returned` — for both it can be told, if the records know the names of their types.
* `fits_of_inPlace` — what was converted fits.
* `decode_and_convert_agree` — both ways, for the expressions of bindings.
* `exchange_breaks` — a field in a special place may keep a value from either way.
-/

namespace BotApi

namespace Value

/-! ## Values without nulls -/

mutual

/-- The value without the entries of its mappings that are null, at any depth. -/
def withoutNulls : Value → Value
  | .list items => .list (withoutNullsItems items)
  | .object entries => .object (withoutNullsEntries entries)
  | v => v

/-- The items without null entries. -/
def withoutNullsItems : List Value → List Value
  | [] => []
  | v :: rest => withoutNulls v :: withoutNullsItems rest

/-- The entries that are not null, without null entries. -/
def withoutNullsEntries : List (Key × Value) → List (Key × Value)
  | [] => []
  | (_, .null) :: rest => withoutNullsEntries rest
  | (k, v) :: rest => (k, withoutNulls v) :: withoutNullsEntries rest

end

theorem withoutNullsEntries_cons {k : Key} {v : Value} (h : v ≠ .null) (rest : List (Key × Value)) :
    withoutNullsEntries ((k, v) :: rest) = (k, withoutNulls v) :: withoutNullsEntries rest := by
  rw [withoutNullsEntries]
  exact h

mutual

/-- The wire form of what decoded values are made into is that without nulls: there is no file in it, and nothing that
was not sent. -/
theorem wireForm_payload_of_isRead :
    ∀ v : Value, v.throughout Response.isRead = true → v.payload.wireForm = v.payload.withoutNulls
  | .tuple items, h => by
    rw [payload, wireForm, withoutNulls,
      wireFormItems_payload_of_isRead items (throughoutItems_iff.2 (throughout_tuple_iff.1 h).2)]
  | .record _ fields, h => by
    rw [payload, wireForm, withoutNulls]
    split
    · rfl
    · rw [wireFormEntries_payload_of_isRead fields (throughoutFields_iff.2 (throughout_record_iff.1 h).2)]
  | .null, _ | .absent, _ | .bool _, _ | .int _, _ | .float _, _ | .text _, _ => rfl
  | .list _, h | .object _, h | .bytes _, h | .bytearray _, h | .file _, h | .stream _, h | .foreign _ _, h => by
    cases holds_of_throughout h

theorem wireFormItems_payload_of_isRead :
    ∀ items : List Value, throughoutItems Response.isRead items = true →
      wireFormItems (payloadItems items) = withoutNullsItems (payloadItems items)
  | [], _ => rfl
  | v :: rest, h => by
    rw [throughoutItems, Bool.and_eq_true] at h
    rw [payloadItems, wireFormItems, withoutNullsItems, wireForm_payload_of_isRead v h.1,
      wireFormItems_payload_of_isRead rest h.2]

theorem wireFormEntries_payload_of_isRead :
    ∀ fields : List (FieldName × Value), throughoutFields Response.isRead fields = true →
      wireFormEntries (payloadFields fields) = withoutNullsEntries (payloadFields fields)
  | [], _ => rfl
  | (f, v) :: rest, h => by
    rw [throughoutFields, Bool.and_eq_true] at h
    have ih := wireFormEntries_payload_of_isRead rest h.2
    have hfirst := wireForm_payload_of_isRead v h.1
    rw [payloadFields]
    cases hsent : v.isAbsent with
    | true => exact ih
    | false =>
      rw [if_neg (by simp), wireFormEntries]
      cases v with
      -- null is left out on both sides
      | null => exact ih
      | absent => cases hsent
      | _ =>
        rw [withoutNullsEntries_cons (by simp [payload]), if_neg (by simp [payload, isBlank]), hfirst, ih]

end

/-! ## Outermost records -/

mutual

/-- The records in a value that are inside no other record. -/
def outermost : Value → List Value
  | .record type fields => [.record type fields]
  | .list items | .tuple items => outermostOfItems items
  | .object entries => outermostOfEntries entries
  | _ => []

/-- The outermost records in items. -/
def outermostOfItems : List Value → List Value
  | [] => []
  | v :: rest => outermost v ++ outermostOfItems rest

/-- The outermost records in entries. -/
def outermostOfEntries : List (Key × Value) → List Value
  | [] => []
  | (_, v) :: rest => outermost v ++ outermostOfEntries rest

end

theorem mem_outermost_tuple_iff {items : List Value} {w : Value} :
    w ∈ (Value.tuple items).outermost ↔ ∃ v ∈ items, w ∈ v.outermost := by
  rw [outermost]
  induction items with
  | nil => simp [outermostOfItems]
  | cons v rest ih => simp only [outermostOfItems, List.mem_append, ih, List.mem_cons, exists_eq_or_imp]

/-- Whether each outermost record in a value knows the name of its type. -/
def KnowsTypes (v : Value) : Prop :=
  ∀ type fields, .record type fields ∈ v.outermost → lacks .typeName fields = false

theorem knowsTypes_tuple_iff {items : List Value} :
    (Value.tuple items).KnowsTypes ↔ ∀ v ∈ items, v.KnowsTypes := by
  constructor
  · exact fun h v hv type fields hm => h type fields (mem_outermost_tuple_iff.2 ⟨v, hv, hm⟩)
  · intro h type fields hm
    obtain ⟨v, hv, hm⟩ := mem_outermost_tuple_iff.1 hm
    exact h v hv type fields hm

theorem knowsTypes_record_iff {type : String} {fields : List (FieldName × Value)} :
    (Value.record type fields).KnowsTypes ↔ lacks .typeName fields = false := by
  constructor
  · exact fun h => h type fields (by simp [outermost])
  · intro h other own hm
    rw [outermost, List.mem_singleton] at hm
    cases hm
    exact h

end Value

/-! ## What was decoded can be sent -/

namespace Response

section

variable {types : Table TypeBinding} {opens : Nat} {e : TypeExpr} {p v : Value}

/-- A record that was read and has a payload has no field in the place of the table of fields, and what was decoded for
its fields has a payload. -/
theorem fields_of_payloadObstruction? {name : String} {own : List (FieldName × Value)}
    (hread : (Value.record name own).throughout isRead = true)
    (hnone : (Value.record name own).payloadObstruction? = none) :
    Value.table? own = none ∧ ∀ names opens e p w, (names, w) ∈ own → decode types opens e p = .ok w →
      w.payloadObstruction? = none := by
  refine ⟨table?_eq_none_of_payload? hread hnone, fun names opens e p w hm hp => ?_⟩
  have hparts := (payload?_record_eq_ok hread (Value.payload?_eq_ok_iff.2 ⟨hnone, rfl⟩)).2
  exact (Value.payload?_eq_ok_iff.1 (hparts names w hm (decoded_of_decode hp).payload_ne_null.2)).1

/-- A decoded value that has a payload has one field under each wire name, and no field in the place of the table of
fields. -/
theorem isOrderly_of_decode (resolved : Resolved types) (h : decode types opens e p = .ok v)
    (hpayload : v.payloadObstruction? = none) : v.throughout Value.isOrderly = true := by
  refine value_induction types
    (motive := fun _ _ _ v => v.payloadObstruction? = none → v.throughout Value.isOrderly = true)
    ?primitive ?items ?option ?variant ?fields h hpayload
  case primitive =>
    intro opens r v ha _
    have hscalar := isScalar_of_admits ha
    cases v <;> first | rfl | cases hscalar
  case items =>
    intro opens item ps vs hitems ih hnone
    rw [Value.payloadObstruction?, Value.itemsObstruction?_eq_none_iff] at hnone
    refine Value.throughout_tuple_iff.2 ⟨rfl, fun v hv => ?_⟩
    obtain ⟨p, hp, hpv⟩ := exists_of_mem_right hitems hv
    exact ih p hp v hpv (hnone v hv)
  case option => exact fun opens options e p v _ _ ih => ih
  case variant => exact fun opens name type e p v _ _ _ _ ih => ih
  case fields =>
    intro opens name type entries own htype hc hobstacle hfields ih hnone
    have hrecord : decode types opens (.ref name) (.object entries) = .ok (.record name own) :=
      (decode_object_eq_ok_iff htype hc).2 ⟨own, hfields, hobstacle, rfl⟩
    obtain ⟨htable, hparts⟩ := fields_of_payloadObstruction? (throughout_isRead_of_decode resolved hrecord) hnone
    refine Value.throughout_record_iff.2 ⟨?_, fun names w hm => ?_⟩
    · rw [Value.isOrderly, Bool.and_eq_true, decide_eq_true_eq, Option.isNone_iff_eq_none]
      exact ⟨(nodup_names_of_decodeFields resolved htype hfields).2, htable⟩
    · obtain ⟨f, hf, rfl, hw⟩ := exists_of_mem_right (decodeFields_eq_ok_iff.1 hfields) hm
      rcases fieldValue_eq_ok_iff.1 hw with ⟨-, -, rfl⟩ | ⟨-, -, rfl⟩ | ⟨p, hget, -, hp⟩
      · rfl
      · rfl
      · exact ih f hf p w hget hp (hparts f.names _ _ p w hm hp)

/-- A scalar is admitted where it was read, unless a file was asked for. -/
theorem admits_of_admits {r : Primitive} (hr : r ≠ .inputFile) (h : admits r p = true) :
    Request.admits r p = true := by
  cases r <;> cases p <;> first | rfl | exact h | exact absurd rfl hr

/-- Under the wire name of a field the payload of a record gives what was decoded for it, unless that is null or was not
sent. -/
theorem given?_payloadFields {own : List (FieldName × Value)} (hn : (own.map fun e => e.1.wireName).Nodup)
    {names : FieldName} {w : Value} (hm : (names, w) ∈ own) :
    Request.given? (Value.payloadFields own) names.wireName = if w.isBlank then none else some w.payload := by
  have hget := Value.get?_payloadFields hn hm
  rw [Value.get?] at hget
  rw [Request.given?_eq, hget, ← Value.isBlank_payload w]
  cases w with
  | absent => rfl
  | _ => simp [Value.isAbsent, Value.payload, Value.isBlank]

theorem isBlank_eq_false_of_decode (h : decode types opens e p = .ok v) : v.isBlank = false := by
  obtain ⟨hnull, habsent⟩ := ne_null_of_decode h
  cases v with
  | null => exact absurd rfl hnull
  | absent => exact absurd rfl habsent
  | _ => rfl

/-- A record of what was decoded for the fields of its type conforms, as it is and as its payload, if what stands in the
fields does. -/
theorem conforms_of_decodeFields (resolved : Resolved types) {name : String} {type : TypeBinding}
    {entries : List (Key × Value)} {own : List (FieldName × Value)} (htype : types.find? name = some type)
    (hc : type.isAbstract = false) (hfields : decodeFields types type.fields entries = .ok own)
    (htable : Value.table? own = none)
    (heach : ∀ f ∈ type.fields, ∀ p w, (f.names, w) ∈ own → Value.get? entries f.wireName = some p →
      decode types types.size f.type p = .ok w → Request.Conforms types f.type w.payload) :
    Request.Conforms types (.ref name) (.record name own) ∧
      Request.Conforms types (.ref name) (Value.record name own).payload := by
  have hn := (nodup_names_of_decodeFields resolved htype hfields).2
  have hobject := Value.payload_record name htable
  have hdeclared : ∀ e ∈ Value.payloadFields own, ∃ f ∈ type.fields, .text f.wireName = e.1 := by
    intro e he
    obtain ⟨-, f, hf, hk⟩ := (mem_keys_payloadFields_of_decode hfields e.1).1 (List.mem_map_of_mem he)
    exact ⟨f, hf, hk.symm⟩
  have hgiven : ∀ f ∈ type.fields, (f.required = true →
      Request.given? (Value.payloadFields own) f.wireName ≠ none) ∧
      ∀ q, Request.given? (Value.payloadFields own) f.wireName = some q → Request.Conforms types f.type q := by
    intro f hf
    obtain ⟨⟨names, w⟩, hm, rfl, hw⟩ := exists_of_mem_left (decodeFields_eq_ok_iff.1 hfields) hf
    have hentry : Request.given? (Value.payloadFields own) f.wireName = _ := given?_payloadFields hn hm
    rw [hentry]
    -- a field that is not required may be missing or null, and is not given then
    rcases fieldValue_eq_ok_iff.1 hw with ⟨-, hr, rfl⟩ | ⟨-, hr, rfl⟩ | ⟨p, hget, -, hp⟩
    · simp [hr, Value.isBlank]
    · simp [hr, Value.isBlank]
    · rw [isBlank_eq_false_of_decode hp, if_neg (by simp)]
      refine ⟨fun _ => by simp, fun q hq => ?_⟩
      cases hq
      exact heach f hf p w hm hget hp
  have hboth := fun v hoffers => (Request.conforms_concrete_iff (v := v) htype hc).2
    ⟨Value.payloadFields own, hoffers, hdeclared, hgiven⟩
  rw [hobject]
  exact ⟨hboth _ (.record own hobject), hboth _ (.mapping _)⟩

/-- A decoded value conforms to its expression, and so does its payload. -/
theorem conforms_of_decode (resolved : Resolved types) (h : decode types opens e p = .ok v)
    (hno : ¬ ReachesFile (below TypeBinding.mentions types) e) (hpayload : v.payloadObstruction? = none) :
    Request.Conforms types e v ∧ Request.Conforms types e v.payload := by
  refine value_induction types
    (motive := fun _ e _ v => ¬ ReachesFile (below TypeBinding.mentions types) e → v.payloadObstruction? = none →
      Request.Conforms types e v ∧ Request.Conforms types e v.payload)
    ?primitive ?items ?option ?variant ?fields h hno hpayload
  case primitive =>
    intro opens r v ha hno _
    have hr : r ≠ .inputFile := fun hr => hno (ReachesFile.primitive_iff.2 hr)
    rw [Value.payload_of_isScalar (isScalar_of_admits ha)]
    exact ⟨.primitive (admits_of_admits hr ha), .primitive (admits_of_admits hr ha)⟩
  case items =>
    intro opens item ps vs hitems ih hno hnone
    rw [Value.payloadObstruction?, Value.itemsObstruction?_eq_none_iff] at hnone
    have heach : ∀ v ∈ vs, Request.Conforms types item v ∧ Request.Conforms types item v.payload := by
      intro v hv
      obtain ⟨p, hp, hpv⟩ := exists_of_mem_right hitems hv
      exact ih p hp v hpv (fun hreach => hno (ReachesFile.array_iff.2 hreach)) (hnone v hv)
    rw [Value.payload, Value.payloadItems_eq_map]
    refine ⟨.tuple fun v hv => (heach v hv).1, .list fun w hw => ?_⟩
    obtain ⟨v, hv, rfl⟩ := List.mem_map.1 hw
    exact (heach v hv).2
  case option =>
    intro opens options e p v taken _ ih hno hnone
    obtain ⟨hvalue, hpayload⟩ := ih (fun hreach => hno (ReachesFile.union_iff.2 ⟨e, taken.mem, hreach⟩)) hnone
    exact ⟨.option taken.mem hvalue, .option taken.mem hpayload⟩
  case variant =>
    intro opens name type e p v htype ha taken _ ih hno hnone
    obtain ⟨hvalue, hpayload⟩ := ih (fun hreach => hno (.of_variant htype taken.mem hreach)) hnone
    exact ⟨(Request.conforms_abstract_iff htype ha).2 ⟨e, taken.mem, hvalue⟩,
      (Request.conforms_abstract_iff htype ha).2 ⟨e, taken.mem, hpayload⟩⟩
  case fields =>
    intro opens name type entries own htype hc hobstacle hfields ih hno hnone
    have hrecord : decode types opens (.ref name) (.object entries) = .ok (.record name own) :=
      (decode_object_eq_ok_iff htype hc).2 ⟨own, hfields, hobstacle, rfl⟩
    obtain ⟨htable, hparts⟩ := fields_of_payloadObstruction? (throughout_isRead_of_decode resolved hrecord) hnone
    refine conforms_of_decodeFields resolved htype hc hfields htable fun f hf p w hm hget hp => ?_
    exact (ih f hf p w hget hp (fun hreach => hno (.of_field htype hf hreach)) (hparts f.names _ _ p w hm hp)).2

/-- Whether a value is a decoded one that has a payload and the records of which know their types, or else one of what
payloads of decoded values consist of. -/
def IsReturned (v : Value) : Prop :=
  v.throughout isPlain = true ∨
    v.throughout isRead = true ∧ v.payloadObstruction? = none ∧ v.KnowsTypes

theorem accessObstruction?_of_isReturned (h : IsReturned v) : v.accessObstruction? = none := by
  cases v with
  | record type fields =>
    rcases h with h | ⟨-, h, -⟩
    · cases Value.holds_of_throughout h
    · rw [Value.payloadObstruction?] at h
      split at h
      · cases h
      · next haccess => rw [Value.accessObstruction?, if_neg haccess]
  | _ => rfl

theorem isReturned_item {items : List Value} (h : IsReturned v) (hv : v = .list items ∨ v = .tuple items) :
    ∀ w ∈ items, IsReturned w := by
  intro w hw
  rcases h with h | ⟨hread, hnone, hknows⟩
  · left
    rcases hv with rfl | rfl
    · exact (Value.throughout_list_iff.1 h).2 w hw
    · exact (Value.throughout_tuple_iff.1 h).2 w hw
  · rcases hv with rfl | rfl
    · cases Value.holds_of_throughout hread
    · rw [Value.payloadObstruction?, Value.itemsObstruction?_eq_none_iff] at hnone
      exact .inr ⟨(Value.throughout_tuple_iff.1 hread).2 w hw, hnone w hw, Value.knowsTypes_tuple_iff.1 hknows w hw⟩

/-- A plain mapping has text keys, and what stands under them is plain. -/
theorem plain_entries {entries : List (Key × Value)} (h : (Value.object entries).throughout isPlain = true) :
    (∀ e ∈ entries, Request.Key.isWritable e.1 = true) ∧
      ∀ name w, Request.given? entries name = some w → IsReturned w := by
  constructor
  · intro e he
    have htext := List.all_eq_true.1 (Value.holds_of_throughout h) e he
    cases hk : e.1 with
    | text s => rfl
    | _ =>
      rw [hk] at htext
      cases htext
  · exact fun name w hw => .inl (Request.throughout_of_given? h hw)

/-- It can be told if what is sent back conforms to expressions from which no file can be reached. -/
theorem tellable_of_returned (types : Table TypeBinding) :
    Request.Tellable types fun e v => ¬ ReachesFile (below TypeBinding.mentions types) e ∧ IsReturned v where
  primitive {p v} h := by
    have hp : p ≠ .inputFile := fun hp => h.1 (ReachesFile.primitive_iff.2 hp)
    have hasked : Request.primitiveObstruction? p v = none := by
      have haccess := accessObstruction?_of_isReturned h.2
      cases p with
      | inputFile => exact absurd rfl hp
      | literalTrue => rfl
      | _ => exact haccess
    rw [Request.inPlacePrimitive, hasked, if_neg hp]
    cases ha : Request.admits p v with
    | false => exact Bool.false_ne_true
    | true => exact rfl
  access h := accessObstruction?_of_isReturned h.2
  item h hv w hw := ⟨fun hreach => h.1 (ReachesFile.array_iff.2 hreach), isReturned_item h.2 hv w hw⟩
  option {_ e _} h he := ⟨fun hreach => h.1 (ReachesFile.union_iff.2 ⟨e, he, hreach⟩), h.2⟩
  variant h find hvariant := ⟨fun hreach => h.1 (.of_variant find (List.mem_map_of_mem hvariant) hreach), h.2⟩
  entries {name type v} h find := by
    have hno : ∀ f ∈ type.fields, ¬ ReachesFile (below TypeBinding.mentions types) f.type :=
      fun f hf hreach => h.1 (.of_field find hf hreach)
    cases v with
    | object entries =>
      rcases h.2 with hplain | ⟨hread, -⟩
      · obtain ⟨hkeys, hvalues⟩ := plain_entries hplain
        exact .inl ⟨entries, rfl, .mapping entries, hkeys, fun f hf w hw => ⟨hno f hf, hvalues _ w hw⟩⟩
      · cases Value.holds_of_throughout hread
    | record other fields =>
      rcases h.2 with hplain | ⟨hread, hnone, hknows⟩
      · cases Value.holds_of_throughout hplain
      · by_cases hname : other = name
        · -- a record of the very type offers its payload, which is plain
          subst hname
          have hobject := Value.payload_record other (table?_eq_none_of_payload? hread hnone)
          have hplain := throughout_isPlain_payload hread
          rw [hobject] at hplain
          obtain ⟨hkeys, hvalues⟩ := plain_entries hplain
          refine .inl ⟨_, Request.entriesFor_eq_ok_iff.2 (.inr ⟨fields, rfl, Value.knowsTypes_record_iff.1 hknows, ?_⟩),
            .record fields hobject, hkeys, fun f hf w hw => ⟨hno f hf, hvalues _ w hw⟩⟩
          exact Value.payload?_eq_ok_iff.2 ⟨hnone, hobject⟩
        · refine .inr ⟨⟨⟨[], .ref name, .ofArgument (.record other fields)⟩, ?_⟩, fun entries hoffers => ?_⟩
          · rw [Request.entriesFor, if_pos (by rw [Bool.or_eq_true, decide_eq_true_eq]; exact .inl hname)]
            rfl
          · cases hoffers
            exact hname rfl
    | _ =>
      refine .inr ⟨⟨_, rfl⟩, fun entries hoffers => ?_⟩
      cases hoffers

/-- A decoded value that is converted knows the types of its records, if no file can be asked for. -/
theorem knowsTypes_of_inPlace (hread : v.throughout isRead = true)
    (hno : ¬ ReachesFile (below TypeBinding.mentions types) e) {r : Value}
    (h : Request.inPlace types opens e v = .ok r) : v.KnowsTypes := by
  refine Request.inPlace_induction types
    (motive := fun e v _ => ¬ ReachesFile (below TypeBinding.mentions types) e → v.throughout isRead = true →
      v.KnowsTypes)
    ?primitive ?items ?option ?variant ?entries h hno hread
  case primitive =>
    intro p v r h hno hread type fields hm
    cases v with
    | record other own =>
      -- a record is of no primitive type but that of files
      have hp : Request.admits p (.record other own) = false := by
        cases p with
        | inputFile => exact absurd (ReachesFile.primitive_iff.2 rfl) hno
        | _ => rfl
      rw [Request.inPlacePrimitive, hp] at h
      cases h
    | tuple items =>
      have hp : Request.admits p (.tuple items) = false := by cases p <;> rfl
      rw [Request.inPlacePrimitive, hp] at h
      cases h
    | list => cases Value.holds_of_throughout hread
    | object => cases Value.holds_of_throughout hread
    | _ => cases hm
  case items =>
    rintro item v items out (rfl | rfl) hout ih hno hread
    · cases Value.holds_of_throughout hread
    · refine Value.knowsTypes_tuple_iff.2 fun w hw => ?_
      obtain ⟨r, -, hr⟩ := exists_of_mem_left hout hw
      exact ih w hw r hr (mt ReachesFile.array_iff.2 hno) ((Value.throughout_tuple_iff.1 hread).2 w hw)
  case option =>
    exact fun options e v r he ih hno => ih (mt (fun hreach => ReachesFile.union_iff.2 ⟨e, he, hreach⟩) hno)
  case variant => exact fun name type e v r htype he ih hno => ih (mt (.of_variant htype he) hno)
  case entries =>
    intro name type v entries out _ _ hentries _ _ _ _ hread
    rcases Request.entriesFor_eq_ok_iff.1 hentries with rfl | ⟨fields, rfl, hknows, -⟩
    · cases Value.holds_of_throughout hread
    · exact Value.knowsTypes_record_iff.2 hknows

end

end Response

/-! ## What was sent can be read -/

namespace Request

section

variable {types : Table TypeBinding} {opens : Nat} {e : TypeExpr} {v r : Value}

/-- What is admitted is of the kind that can be read, unless it is a file. -/
theorem isOfKind_of_admits {p : Primitive} (hp : p ≠ .inputFile) (h : admits p v = true) :
    Response.IsOfKind p v := by
  refine Response.admits_iff_isOfKind.1 ?_
  cases p <;> cases v <;> first | rfl | exact h | exact absurd rfl hp

/-- Each required field was given, if the fields were converted. -/
theorem given?_ne_none_of_inPlaceFields {fields : List FieldBinding} {entries out : List (Key × Value)}
    (h : inPlaceFields types fields entries = .ok out) {f : FieldBinding} (hf : f ∈ fields)
    (hr : f.required = true) : given? entries f.wireName ≠ none := by
  induction fields generalizing out with
  | nil => cases hf
  | cons g rest ih =>
    rw [inPlaceFields_cons] at h
    split at h
    · next hnone =>
      split at h
      · cases h
      · next hg =>
        rcases List.mem_cons.1 hf with rfl | hf
        · exact absurd hr hg
        · exact ih h hf
    · next w hw =>
      obtain ⟨first, -, h⟩ := bind_eq_ok_iff.1 h
      obtain ⟨more, hmore, -⟩ := bind_eq_ok_iff.1 h
      rcases List.mem_cons.1 hf with rfl | hf
      · rw [hw]
        simp
      · exact ih hmore hf

/-- Converted fields have something under the wire name of a field exactly if it was given, namely what it converts to:
no other field has that name. -/
theorem get?_inPlaceFields (resolved : Resolved types) {name : String} {type : TypeBinding}
    (htype : types.find? name = some type) {entries out : List (Key × Value)}
    (h : inPlaceFields types type.fields entries = .ok out) {f : FieldBinding} (hf : f ∈ type.fields) :
    (Value.get? out f.wireName = none ∧ given? entries f.wireName = none) ∨
      ∃ w r, Value.get? out f.wireName = some r ∧ given? entries f.wireName = some w ∧
        inPlace types types.size f.type w = .ok r := by
  rcases lookup_inPlaceFields h (.text f.wireName) with ⟨hnone, hall⟩ | ⟨g, hg, hname, w, r, hw, hr, hsome⟩
  · exact .inl ⟨hnone, hall f hf rfl⟩
  · have hsame : g = f :=
      List.inj_on_of_nodup_map (resolved.wireNames name type htype) hg hf (Key.text.inj hname)
    subst hsame
    exact .inr ⟨w, r, hsome, hw, hr⟩

/-- What was converted fits the expression, if no file can be reached from it. -/
theorem fits_of_inPlace (resolved : Resolved types) (hno : ¬ ReachesFile (below TypeBinding.mentions types) e)
    (h : inPlace types opens e v = .ok r) : Response.Fits types e r := by
  refine inPlace_induction types
    (motive := fun e _ r => ¬ ReachesFile (below TypeBinding.mentions types) e → Response.Fits types e r)
    ?primitive ?items ?option ?variant ?entries h hno
  case primitive =>
    intro p v r h hno
    have hp : p ≠ .inputFile := fun hp => hno (ReachesFile.primitive_iff.2 hp)
    rw [inPlacePrimitive, if_neg hp] at h
    split at h
    · cases h
    · next ha =>
      cases h
      rw [Bool.not_eq_true, Bool.not_eq_false'] at ha
      exact .primitive (isOfKind_of_admits hp ha)
  case items =>
    intro item v items out _ hout ih hno
    refine .items fun r hr => ?_
    obtain ⟨w, hw, hwr⟩ := exists_of_mem_right hout hr
    exact ih w hw r hwr fun hreach => hno (ReachesFile.array_iff.2 hreach)
  case option =>
    intro options e v r he ih hno
    exact .option he (ih fun hreach => hno (ReachesFile.union_iff.2 ⟨e, he, hreach⟩))
  case variant =>
    intro name type e v r htype he ih hno
    obtain ⟨variant, hvariant, rfl⟩ := List.mem_map.1 he
    exact .variant htype hvariant (ih fun hreach => hno (.of_variant htype he hreach))
  case entries =>
    intro name type v entries out htype hc _ _ hout ih hno
    have hfield : ∀ f ∈ type.fields, ¬ ReachesFile (below TypeBinding.mentions types) f.type :=
      fun f hf hreach => hno (.of_field htype hf hreach)
    refine .fields htype hc (fun f hf hr => ?_) fun f hf p hp _ => ?_
    · rcases get?_inPlaceFields resolved htype hout hf with ⟨-, hnone⟩ | ⟨w, r, hsome, -, hr⟩
      · exact absurd hnone (given?_ne_none_of_inPlaceFields hout hf ‹_›)
      · refine ⟨r, hsome, ?_⟩
        rintro rfl
        cases (isBodyValue_of_inPlace (hfield f hf) hr).1
    · rcases get?_inPlaceFields resolved htype hout hf with ⟨hnone, -⟩ | ⟨w, r, hsome, hw, hr⟩
      · rw [hnone] at hp
        cases hp
      · rw [hsome] at hp
        cases hp
        exact ih f w p hw hr (hfield f hf)

/-- Whether a value is converted to another one by an expression, wherever it stands and whatever is attached, and
attaches nothing itself. -/
def ComesTo (types : Table TypeBinding) (e : TypeExpr) (v r : Value) : Prop :=
  ∀ top parts, convert types types.size top e v parts = .ok r parts

/-- Where no file can be reached a conversion comes to what it comes to in place. -/
theorem convert_eq_of_inPlace (hno : ¬ ReachesFile (below TypeBinding.mentions types) e)
    (h : inPlace types opens e v = .ok r) (top : Bool) (parts : List Part) :
    convert types opens top e v parts = .ok r parts := by
  have hrefines := convert_refines types opens top e v parts
  obtain ⟨hsent, hnested⟩ := Value.sent_of_files_eq_nil (isBodyValue_of_inPlace hno h).2 top parts.length
  rw [h] at hrefines
  dsimp only at hrefines
  rw [hrefines, hsent, hnested]
  exact congrArg _ (List.append_nil parts)

theorem convert_eq_ok_iff (hno : ¬ ReachesFile (below TypeBinding.mentions types) e) {top : Bool}
    {parts after : List Part} :
    convert types opens top e v parts = .ok r after ↔ inPlace types opens e v = .ok r ∧ after = parts := by
  constructor
  · intro h
    cases hr : inPlace types opens e v with
    | ok w =>
      rw [convert_eq_of_inPlace hno hr] at h
      cases h
      exact ⟨rfl, rfl⟩
    | error stop =>
      have hrefines := convert_refines types opens top e v parts
      rw [hr] at hrefines
      obtain ⟨more, hrefines⟩ := hrefines
      rw [hrefines] at h
      cases h
  · rintro ⟨hr, rfl⟩
    exact convert_eq_of_inPlace hno hr top after

theorem comesTo_iff (hno : ¬ ReachesFile (below TypeBinding.mentions types) e) :
    ComesTo types e v r ↔ inPlace types types.size e v = .ok r := by
  constructor
  · exact fun h => ((convert_eq_ok_iff hno).1 (h true [])).1
  · exact fun h top parts => convert_eq_of_inPlace hno h top parts

theorem isPlain_of_isBodyValue (h : isBodyValue v = true) : Response.isPlain v = true := by
  cases v with
  | object entries => exact h
  | record => cases h
  | _ => rfl

end

end Request

/-! ## Both ways -/

section

variable {schema : Schema} {b : Bindings} {e : TypeExpr}

/-- What is decoded by an expression of bindings from which no file can be reached is converted by it, as its payload
and as it is, and comes to its payload without nulls, up to the order of keys. Only a record that does not know its
type is in the way, as long as it is inside no other record. What is converted by the expression attaches nothing and
is decoded by it, unless a type has no records. -/
theorem decode_and_convert_agree (hb : (Bindings.build schema).result = .ok b) (founded : Founded b.types)
    (closed : Closed b.types e) (hno : ¬ ReachesFile (below TypeBinding.mentions b.types) e) (threshold : Threshold)
    (root : String) :
    (∀ p v q, (Response.decodeLogged threshold b.types root e p).result = .ok v → v.payload? = .ok q →
      (∃ r, Request.ComesTo b.types e q r) ∧ ((∃ r, Request.ComesTo b.types e v r) ↔ v.KnowsTypes) ∧
        ∀ r, Request.ComesTo b.types e q r ∨ Request.ComesTo b.types e v r → r.Alike q.withoutNulls) ∧
      ∀ x w top start after, Request.convert b.types b.types.size top e x start = .ok w after →
        after = start ∧
          ((∃ v, (Response.decodeLogged threshold b.types root e w).result = .ok v) ∨
            ∃ fault, (Response.decodeLogged threshold b.types root e w).result = .error (.fault fault) ∧
              Response.IsObstacle b.types fault) := by
  have resolved := Bindings.resolved_of_build hb
  have room := hasRoom_of_size_le (Nat.le_refl b.types.size) e
  constructor
  · intro p v q hlogged hq
    have hdecode := Response.decode_of_decodeLogged hlogged
    obtain ⟨hnone, rfl⟩ := Value.payload?_eq_ok_iff.1 hq
    have hread := Response.throughout_isRead_of_decode resolved hdecode
    have horderly := Response.isOrderly_of_decode resolved hdecode hnone
    obtain ⟨hvalue, hpayload⟩ := Response.conforms_of_decode resolved hdecode hno hnone
    -- what conforms and is returned is converted
    have hconverted : ∀ x, Response.IsReturned x → Request.Conforms b.types e x →
        ∃ r, Request.ComesTo b.types e x r := by
      intro x hreturned hconforms
      have hsettles := (Response.tellable_of_returned b.types).settles resolved founded room closed ⟨hno, hreturned⟩
      obtain ⟨r, hr⟩ := hsettles.iff_exists_ok.1 hconforms
      exact ⟨r, (Request.comesTo_iff hno).2 hr⟩
    refine ⟨hconverted _ (.inl (Response.throughout_isPlain_payload hread)) hpayload, ⟨?_, fun hknows => ?_⟩, ?_⟩
    · rintro ⟨r, hr⟩
      exact Response.knowsTypes_of_inPlace hread hno ((Request.comesTo_iff hno).1 hr)
    · exact hconverted v (.inr ⟨hread, hnone, hknows⟩) hvalue
    · -- either comes to the wire form of the value
      intro r hr
      rw [← Value.wireForm_payload_of_isRead v hread]
      rcases hr with hr | hr
      · have hq := Value.throughout_payload Value.isOrderly_payload v horderly
        exact Request.alike_wireForm_of_inPlace hq (.inr hno) ((Request.comesTo_iff hno).1 hr)
      · rw [Value.wireForm_payload v horderly]
        exact Request.alike_wireForm_of_inPlace horderly (.inr hno) ((Request.comesTo_iff hno).1 hr)
  · intro x w top start after h
    obtain ⟨hw, rfl⟩ := (Request.convert_eq_ok_iff hno).1 h
    have hplain : w.throughout Response.isPlain = true :=
      Value.throughout_mono (fun _ => Request.isPlain_of_isBodyValue) (Request.isBodyValue_of_inPlace hno hw).1
    refine ⟨rfl, ?_⟩
    rw [Response.result_of_decodeLogged threshold b.types root e hplain]
    cases hdecode : Response.decode b.types b.types.size e w with
    | ok v => exact .inl ⟨v, rfl⟩
    | error stop =>
      cases stop with
      | mismatch m =>
        exact absurd ⟨m, hdecode⟩ (Response.not_refuses_of_fits (Request.fits_of_inPlace resolved hno hw))
      | fault fault =>
        exact .inr ⟨fault, rfl, Response.isObstacle_of_decode founded resolved room closed hplain hdecode⟩

end

/-! ### Points -/

open Response (pointSpec pointType point pointPayload)

/-- A schema with four kinds of points. The other number of a tag stands in the place of the name of the type, that of
a mute point in the place of the table of wire names, and that of a stuck one in the place of what makes records. -/
def exchangeSchema : Schema where
  version := none
  releaseDate := none
  changelog := none
  types := .ofList
    [("Point", pointSpec "y"), ("Tag", pointSpec "__binding__"), ("Mute", pointSpec "__wire_names__"),
      ("Stuck", pointSpec "__init__")]
  methods := .empty

/-- The types of its bindings. -/
def exchangeTypes : Table TypeBinding where
  entries :=
    [("Point", pointType "Point" "y"), ("Tag", pointType "Tag" "__binding__"),
      ("Mute", pointType "Mute" "__wire_names__"), ("Stuck", pointType "Stuck" "__init__")]
  nodup := by decide

theorem build_exchangeSchema :
    ∃ b, (Bindings.build exchangeSchema).result = .ok b ∧ b.types = exchangeTypes ∧ Founded b.types := by
  have htypes : (exchangeSchema.types.map Graph.typeOf).mapM (fun _ node => Bindings.bindType node) =
      .ok exchangeTypes := eq_ok_of_toOption (by decide +kernel)
  exact ⟨_, Bindings.build_eq_ok (by decide +kernel) htypes, rfl, founded_of_rank (fun _ => 0) (by decide)⟩

theorem closed_exchangeTypes (name : String) (h : name ∈ exchangeTypes.names) : Closed exchangeTypes (.ref name) := by
  intro other hother
  rw [TypeExpr.refs, List.mem_singleton] at hother
  rwa [hother]

/-- No type of points leads to a file. -/
theorem not_reachesFile_exchangeTypes (name : String) :
    ¬ ReachesFile (below TypeBinding.mentions exchangeTypes) (.ref name) := by
  intro h
  obtain ⟨e, he, hfile⟩ := ReachesFile.ref_iff.1 h
  obtain ⟨type, htype, he⟩ := mem_below_iff.1 he
  -- both fields of each type are numbers
  have hall : ∀ e ∈ exchangeTypes.entries, ∀ t ∈ e.2.mentions, t = .primitive .integer := by decide
  rw [hall (name, type) (Table.mem_of_find? htype) e he] at hfile
  cases ReachesFile.primitive_iff.1 hfile

/-- An array of points or texts. -/
def marksExpr : TypeExpr := .array (.union [.ref "Point", .primitive .string])

theorem not_reachesFile_marksExpr : ¬ ReachesFile (below TypeBinding.mentions exchangeTypes) marksExpr := by
  intro h
  obtain ⟨e, he, h⟩ := ReachesFile.union_iff.1 (ReachesFile.array_iff.1 h)
  rcases List.mem_pair.1 he with rfl | rfl
  · exact not_reachesFile_exchangeTypes "Point" h
  · cases ReachesFile.primitive_iff.1 h

/-- A point without the other number, one with an undeclared key, and a text. -/
def marksPayload : Value :=
  .list
    [.object [(.text "y", .null), (.text "x", .int 1)], .object [(.text "x", .int 2), (.text "z", .int 3)], .text "a"]

/-- What it is decoded to. -/
def marks : Value :=
  .tuple
    [.record "Point" [(⟨"x", "x", true⟩, .int 1), (⟨"y", "y", false⟩, .null)],
      .record "Point" [(⟨"x", "x", true⟩, .int 2), (⟨"y", "y", false⟩, .absent)], .text "a"]

/-- What is left of it as a payload. -/
def leftMarks : Value :=
  .list [.object [(.text "x", .int 1), (.text "y", .null)], .object [(.text "x", .int 2)], .text "a"]

/-- What is sent of it. -/
def sentMarks : Value := .list [.object [(.text "x", .int 1)], .object [(.text "x", .int 2)], .text "a"]

theorem decode_and_convert_agree_marks :
    ∃ b, (Bindings.build exchangeSchema).result = .ok b ∧ Founded b.types ∧ Closed b.types marksExpr ∧
      (Response.decodeLogged .all b.types "result" marksExpr marksPayload).result = .ok marks ∧
      marks.payload? = .ok leftMarks ∧ marks.KnowsTypes ∧
      (∃ r, Request.ComesTo b.types marksExpr leftMarks r ∧ r.Alike sentMarks) ∧
      (∃ r, Request.ComesTo b.types marksExpr marks r ∧ r.Alike sentMarks) ∧
      Request.convert b.types b.types.size true marksExpr leftMarks [] = .ok sentMarks [] ∧
      ((∃ v, (Response.decodeLogged .all b.types "result" marksExpr sentMarks).result = .ok v) ∨
        ∃ fault, (Response.decodeLogged .all b.types "result" marksExpr sentMarks).result = .error (.fault fault) ∧
          Response.IsObstacle b.types fault) := by
  obtain ⟨b, hb, htypes, founded⟩ := build_exchangeSchema
  have closed : Closed b.types marksExpr := by
    rw [htypes]
    unfold Closed
    decide
  have hno : ¬ ReachesFile (below TypeBinding.mentions b.types) marksExpr := by
    rw [htypes]
    exact not_reachesFile_marksExpr
  have hmarks : (Response.decodeLogged .all b.types "result" marksExpr marksPayload).result = .ok marks := by
    rw [htypes, Response.result_of_decodeLogged _ _ _ _ (by decide)]
    cbv
  have hleft : marks.payload? = .ok leftMarks := by
    refine Value.payload?_eq_ok_iff.2 ⟨by decide, ?_⟩
    simp [marks, leftMarks, Value.payload, Value.payloadItems, Value.payloadFields, Value.table?, Value.field?,
      Value.isAbsent]
  have hknows : marks.KnowsTypes := by
    intro type fields hm
    simp only [marks, Value.outermost, Value.outermostOfItems, List.append_nil, List.cons_append, List.nil_append,
      List.mem_cons, List.not_mem_nil, or_false] at hm
    rcases hm with hm | hm <;> cases hm <;> decide
  have hconvert : Request.convert b.types b.types.size true marksExpr leftMarks [] = .ok sentMarks [] := by
    rw [htypes]
    cbv
  obtain ⟨hback, hforth⟩ := decode_and_convert_agree hb founded closed hno .all "result"
  obtain ⟨⟨r, hr⟩, hiff, halike⟩ := hback marksPayload marks leftMarks hmarks hleft
  obtain ⟨r', hr'⟩ := hiff.2 hknows
  have hsent : leftMarks.withoutNulls = sentMarks := by cbv
  rw [hsent] at halike
  exact ⟨b, hb, founded, closed, hmarks, hleft, hknows, ⟨r, hr, halike r (.inl hr)⟩, ⟨r', hr', halike r' (.inr hr')⟩,
    hconvert, (hforth _ _ _ _ _ hconvert).2⟩

/-- A tag is decoded and has a payload, but it does not convert, as it does not know its type. A mute point is decoded
and has no payload. A stuck point is converted, but it cannot be decoded. -/
theorem exchange_breaks :
    ∃ b, (Bindings.build exchangeSchema).result = .ok b ∧ Founded b.types ∧
      (∀ name ∈ b.types.names, Closed b.types (.ref name) ∧
        ¬ ReachesFile (below TypeBinding.mentions b.types) (.ref name)) ∧
      ((Response.decodeLogged .all b.types "Tag" (.ref "Tag") pointPayload).result = .ok (point "Tag" "__binding__") ∧
        (point "Tag" "__binding__").payload? = .ok pointPayload ∧
        Request.convert b.types b.types.size true (.ref "Tag") (point "Tag" "__binding__") [] =
          .error (.mismatch ⟨[], .ref "Tag", .unnamed⟩) []) ∧
      ((Response.decodeLogged .all b.types "Mute" (.ref "Mute") pointPayload).result =
          .ok (point "Mute" "__wire_names__") ∧
        (point "Mute" "__wire_names__").payload? = .error (.noAttribute .absent "get")) ∧
      Request.convert b.types b.types.size true (.ref "Stuck") pointPayload [] = .ok pointPayload [] ∧
        (Response.decodeLogged .all b.types "Stuck" (.ref "Stuck") pointPayload).result =
          .error (.fault (.noRecord "Stuck" "__init__")) := by
  obtain ⟨b, hb, htypes, founded⟩ := build_exchangeSchema
  refine ⟨b, hb, founded, ?_⟩
  rw [htypes, Response.result_of_decodeLogged _ _ _ _ (by decide),
    Response.result_of_decodeLogged _ _ _ _ (by decide),
    Response.result_of_decodeLogged _ _ _ _ (by decide)]
  refine ⟨fun name hname => ⟨closed_exchangeTypes name hname, not_reachesFile_exchangeTypes name⟩,
    ⟨by cbv, Value.payload?_eq_ok_iff.2 ⟨by decide, ?_⟩, by cbv⟩, ⟨by cbv, ?_⟩, by cbv, by cbv⟩
  · simp [point, pointPayload, Value.payload, Value.payloadFields, Value.table?, Value.field?, Value.isAbsent]
  · rw [Value.payload?, show Value.payloadObstruction? _ = some (.noAttribute .absent "get") by decide]

end BotApi
