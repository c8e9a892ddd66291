import BotApi.Proofs.Response.Lasting
import BotApi.Proofs.Response.Remarks
import Mathlib

/-!
# What fits, and what it is read as

Whether a payload fits an expression can be told without decoding: a scalar is of the right kind, the items of a list
all fit, one of several options does, and an object has what the fields of a type ask for. Decoding finds a value for
what fits and refuses the rest. Where there is a choice it takes the first option that fits.

## Main results

* `not_refuses_of_fits`, `fits_of_decode` — what fits is not refused, and what has a value fits.
* `isReading_of_decode` — what the value is.
* `result_of_fits` — what comes of a payload that fits, for the expressions of bindings.
* `decode_finds_first_fit` — both directions for the expressions of bindings, and what may come between.
* `fitting_payload_breaks` — a payload may fit and still not be decoded.
-/

namespace BotApi.Response

/-! ## Fitting -/

/-- The kinds of the primitive types. A truth value is no number, and a file is a text. -/
inductive IsOfKind : Primitive → Value → Prop
  | string (s : String) : IsOfKind .string (.text s)
  | file (s : String) : IsOfKind .inputFile (.text s)
  | integer (n : Int) : IsOfKind .integer (.int n)
  | whole (n : Int) : IsOfKind .float (.int n)
  | float (x : Number.Binary64) : IsOfKind .float (.float x)
  | boolean (b : Bool) : IsOfKind .boolean (.bool b)
  | literalTrue : IsOfKind .literalTrue (.bool true)

theorem admits_iff_isOfKind {r : Primitive} {p : Value} : admits r p = true ↔ IsOfKind r p := by
  constructor
  · intro h
    unfold admits at h
    split at h
    · exact .string _
    · exact .file _
    · exact .integer _
    · exact .whole _
    · exact .float _
    · exact .boolean _
    · rw [h]
      exact .literalTrue
    · cases h
  · intro h
    cases h <;> rfl

/-- Whether a payload fits an expression. A field that is required is there, is not null and fits; any other may also
be missing or null. -/
inductive Fits (types : Table TypeBinding) : TypeExpr → Value → Prop
  | primitive {r : Primitive} {p : Value} (kind : IsOfKind r p) : Fits types (.primitive r) p
  | items {item : TypeExpr} {ps : List Value} (each : ∀ p ∈ ps, Fits types item p) :
      Fits types (.array item) (.list ps)
  | option {options : List TypeExpr} {e : TypeExpr} {p : Value} (mem : e ∈ options) (fits : Fits types e p) :
      Fits types (.union options) p
  | variant {name : String} {type : TypeBinding} {variant : String} {p : Value}
      (find : types.find? name = some type) (mem : variant ∈ type.variants) (fits : Fits types (.ref variant) p) :
      Fits types (.ref name) p
  | fields {name : String} {type : TypeBinding} {entries : List (Key × Value)}
      (find : types.find? name = some type) (concrete : type.isAbstract = false)
      (present : ∀ f ∈ type.fields, f.required = true →
        ∃ p, Value.get? entries f.wireName = some p ∧ p ≠ .null)
      (each : ∀ f ∈ type.fields, ∀ p, Value.get? entries f.wireName = some p → p ≠ .null → Fits types f.type p) :
      Fits types (.ref name) (.object entries)

section

variable {types : Table TypeBinding} {opens : Nat} {name : String} {type : TypeBinding} {e : TypeExpr} {p v : Value}

theorem isAbstract_iff_exists_variant : type.isAbstract = true ↔ ∃ variant, variant ∈ type.variants := by
  rw [TypeBinding.isAbstract, Bool.not_eq_true', List.isEmpty_eq_false_iff_exists_mem]

theorem fits_list_iff {item : TypeExpr} {ps : List Value} :
    Fits types (.array item) (.list ps) ↔ ∀ p ∈ ps, Fits types item p := by
  constructor
  · intro h
    cases h with
    | items each => exact each
  · exact .items

theorem fits_union_iff {options : List TypeExpr} :
    Fits types (.union options) p ↔ ∃ e ∈ options, Fits types e p := by
  constructor
  · intro h
    cases h with
    | option mem fits => exact ⟨_, mem, fits⟩
  · rintro ⟨e, he, h⟩
    exact .option he h

theorem fits_abstract_iff (htype : types.find? name = some type) (ha : type.isAbstract = true) :
    Fits types (.ref name) p ↔ ∃ e ∈ type.variants.map TypeExpr.ref, Fits types e p := by
  constructor
  · intro h
    cases h with
    | variant find mem fits =>
      rw [htype, Option.some.injEq] at find
      exact ⟨_, List.mem_map_of_mem (find ▸ mem), fits⟩
    | fields find concrete =>
      rw [htype, Option.some.injEq] at find
      rw [← find, ha] at concrete
      cases concrete
  · rintro ⟨e, he, h⟩
    obtain ⟨variant, hv, rfl⟩ := List.mem_map.1 he
    exact .variant htype hv h

/-- What fits a type with records is an object, which has what the fields of the type ask for. -/
theorem fits_concrete_iff (htype : types.find? name = some type) (hc : type.isAbstract = false) :
    Fits types (.ref name) p ↔ ∃ entries, p = .object entries ∧
      (∀ f ∈ type.fields, f.required = true → ∃ p, Value.get? entries f.wireName = some p ∧ p ≠ .null) ∧
        ∀ f ∈ type.fields, ∀ p, Value.get? entries f.wireName = some p → p ≠ .null → Fits types f.type p := by
  constructor
  · intro h
    cases h with
    | variant find mem =>
      rw [htype, Option.some.injEq] at find
      rw [isAbstract_iff_exists_variant.2 ⟨_, find ▸ mem⟩] at hc
      cases hc
    | fields find _ present each =>
      rw [htype, Option.some.injEq] at find
      rw [find]
      exact ⟨_, rfl, present, each⟩
  · rintro ⟨entries, rfl, present, each⟩
    exact .fields htype hc present each

/-! ## What is refused -/

/-- A field is refused if it is required and there is nothing, or if it has a value that is refused. -/
theorem of_fieldValue_eq_mismatch {f : FieldBinding} {entries : List (Key × Value)} {m : Mismatch}
    (h : fieldValue types f entries = .error (.mismatch m)) :
    (f.required = true ∧ ∀ p, Value.get? entries f.wireName = some p → p = .null) ∨
      ∃ p, Value.get? entries f.wireName = some p ∧ p ≠ .null ∧ Refuses types types.size f.type p := by
  rw [fieldValue] at h
  split at h
  · next hget =>
    split at h
    · next hr => exact .inl ⟨hr, by simp [hget]⟩
    · cases h
  · next hget =>
    split at h
    · next hr => exact .inl ⟨hr, by simp [hget]⟩
    · cases h
  · next p hp hget => exact .inr ⟨p, hget, hp, m, h⟩

/-- What fits is not refused. -/
theorem not_refuses_of_fits (h : Fits types e p) : ¬ Refuses types opens e p := by
  rintro ⟨m, hm⟩
  induction opens, e, p using decode_induction types generalizing m with
  | primitive opens r p =>
    cases h with
    | primitive kind =>
      rw [decode, if_pos (admits_iff_isOfKind.2 kind)] at hm
      cases hm
  | list opens item ps ih =>
    rw [decode_list, map_eq_error_iff] at hm
    obtain ⟨p, hp, s, step, hs, hstep⟩ := exists_of_decodeItems_eq_error hm
    obtain ⟨m', rfl⟩ := eq_mismatch_of_under hstep
    exact ih p hp (fits_list_iff.1 h p hp) m' hs
  | notList opens item p hp =>
    cases h with
    | items => exact hp _ rfl
  | union opens options p ih =>
    rw [decode_union] at hm
    obtain ⟨e, he, hfits⟩ := fits_union_iff.1 h
    -- all options are refused, the one that fits among them
    obtain ⟨m', hm'⟩ := refuses_of_decodeFirst hm e he
    exact ih e he hfits m' hm'
  | unknown opens name p htype =>
    rw [decode_unknown htype] at hm
    cases hm
  | endless name type p htype ha =>
    rw [decode_endless htype ha] at hm
    cases hm
  | abstract opens name type p htype ha ih =>
    rw [decode_abstract htype ha] at hm
    obtain ⟨e, he, hfits⟩ := (fits_abstract_iff htype ha).1 h
    obtain ⟨m', hm'⟩ := refuses_of_decodeFirst hm e he
    exact ih e he hfits m' hm'
  | object opens name type entries htype hc ih =>
    obtain ⟨_, hentries, present, each⟩ := (fits_concrete_iff htype hc).1 h
    cases hentries
    rw [decode_object htype hc, bind_eq_error_iff] at hm
    rcases hm with hm | ⟨fields, -, hm⟩
    · obtain ⟨f, hf, s, step, hs, hstep⟩ := exists_of_decodeFields_eq_error hm
      obtain ⟨m', rfl⟩ := eq_mismatch_of_under hstep
      rcases of_fieldValue_eq_mismatch hs with ⟨hr, hnull⟩ | ⟨p, hget, hp, m'', hm''⟩
      · obtain ⟨p, hget, hp⟩ := present f hf hr
        exact hp (hnull p hget)
      · exact ih f hf p hget (each f hf p hget hp) m'' hm''
    · -- a type without records is no mismatch
      unfold makeRecord at hm
      split at hm <;> cases hm
  | notObject opens name type p htype hc hp =>
    obtain ⟨entries, hentries, -⟩ := (fits_concrete_iff htype hc).1 h
    exact hp entries hentries

/-- What has a value fits. -/
theorem fits_of_decode (h : decode types opens e p = .ok v) : Fits types e p := by
  refine value_induction types (motive := fun _ e p _ => Fits types e p)
    ?primitive ?items ?option ?variant ?fields h
  case primitive => exact fun opens r v ha => .primitive (admits_iff_isOfKind.1 ha)
  case items =>
    intro opens item ps vs hitems ih
    refine .items fun p hp => ?_
    obtain ⟨v, -, hpv⟩ := exists_of_mem_left hitems hp
    exact ih p hp v hpv
  case option => exact fun opens options e p v taken _ ih => .option taken.mem ih
  case variant =>
    exact fun opens name type e p v htype ha taken _ ih => (fits_abstract_iff htype ha).2 ⟨e, taken.mem, ih⟩
  case fields =>
    intro opens name type entries fields htype hc hobstacle hfields ih
    refine .fields htype hc (fun f hf hr => ?_) fun f hf p hget hp => ?_
    · obtain ⟨_, -, -, hw⟩ := exists_of_mem_left (decodeFields_eq_ok_iff.1 hfields) hf
      rcases fieldValue_eq_ok_iff.1 hw with ⟨-, hnot, -⟩ | ⟨-, hnot, -⟩ | ⟨p, hget, hp, -⟩
      · rw [hr] at hnot
        cases hnot
      · rw [hr] at hnot
        cases hnot
      · exact ⟨p, hget, hp⟩
    · obtain ⟨⟨_, w⟩, -, -, hw⟩ := exists_of_mem_left (decodeFields_eq_ok_iff.1 hfields) hf
      rw [fieldValue_of_get? hget hp] at hw
      exact ih f hf p w hget hw

/-- The option that was taken is the first that fits. -/
theorem isFirst_fits {options : List TypeExpr} (taken : IsFirst (fun e => ¬ Refuses types opens e p) options e)
    (he : decode types opens e p = .ok v) : IsFirst (fun e => Fits types e p) options e := by
  obtain ⟨before, after, rfl, -, hbefore⟩ := taken
  refine ⟨before, after, rfl, fits_of_decode he, fun e' he' hfits => ?_⟩
  exact hbefore e' he' (not_refuses_of_fits hfits)

end

/-! ## Readings -/

/-- What a payload that fits an expression is read as. Of several options it is the first that fits. A field is not
sent if its key is missing and null if there is null, and neither if it is required. -/
inductive IsReading (types : Table TypeBinding) : TypeExpr → Value → Value → Prop
  | primitive {r : Primitive} {p : Value} (kind : IsOfKind r p) : IsReading types (.primitive r) p p
  | items {item : TypeExpr} {ps vs : List Value} (length : ps.length = vs.length)
      (each : ∀ (i : Nat) (p v : Value), ps[i]? = some p → vs[i]? = some v → IsReading types item p v) :
      IsReading types (.array item) (.list ps) (.tuple vs)
  | option {options : List TypeExpr} {e : TypeExpr} {p v : Value}
      (first : IsFirst (fun e => Fits types e p) options e) (reading : IsReading types e p v) :
      IsReading types (.union options) p v
  | variant {name : String} {type : TypeBinding} {e : TypeExpr} {p v : Value}
      (find : types.find? name = some type) (abstract : type.isAbstract = true)
      (first : IsFirst (fun e => Fits types e p) (type.variants.map .ref) e) (reading : IsReading types e p v) :
      IsReading types (.ref name) p v
  | fields {name : String} {type : TypeBinding} {entries : List (Key × Value)} {own : List (FieldName × Value)}
      (find : types.find? name = some type) (concrete : type.isAbstract = false)
      (names : own.map Prod.fst = type.fields.map (·.names))
      (required : ∀ f ∈ type.fields, f.required = true → ∀ v, (f.names, v) ∈ own → v ≠ .absent ∧ v ≠ .null)
      (absent : ∀ f ∈ type.fields, ∀ v, (f.names, v) ∈ own →
        (v = .absent ↔ Value.get? entries f.wireName = none))
      (null : ∀ f ∈ type.fields, ∀ v, (f.names, v) ∈ own →
        (v = .null ↔ Value.get? entries f.wireName = some .null))
      (each : ∀ f ∈ type.fields, ∀ p v, Value.get? entries f.wireName = some p → p ≠ .null →
        (f.names, v) ∈ own → IsReading types f.type p v) :
      IsReading types (.ref name) (.object entries) (.record name own)

section

variable {types : Table TypeBinding} {opens : Nat} {e : TypeExpr} {p v : Value}

/-- A field as it was decoded is found by its names alone, which no other field of the type has. -/
theorem fieldValue_of_mem_decodeFields (resolved : Resolved types) {name : String} {type : TypeBinding}
    (htype : types.find? name = some type) {entries : List (Key × Value)} {own : List (FieldName × Value)}
    (h : decodeFields types type.fields entries = .ok own) {f : FieldBinding} (hf : f ∈ type.fields) {w : Value}
    (hm : (f.names, w) ∈ own) : fieldValue types f entries = .ok w := by
  obtain ⟨g, hg, hnames, hw⟩ := exists_of_mem_right (decodeFields_eq_ok_iff.1 h) hm
  have hsame : g = f :=
    List.inj_on_of_nodup_map (resolved.attributes name type htype) hg hf (congrArg FieldName.name hnames).symm
  rwa [← hsame]

theorem ne_null_of_decode (h : decode types opens e p = .ok v) : v ≠ .null ∧ v ≠ .absent := by
  obtain ⟨hnull, habsent⟩ := (decoded_of_decode h).payload_ne_null
  constructor
  · rintro rfl
    exact hnull rfl
  · rintro rfl
    cases habsent

/-- A field is not sent if its key is missing, and null if there is null. -/
theorem fieldValue_marks {f : FieldBinding} {entries : List (Key × Value)} {w : Value}
    (h : fieldValue types f entries = .ok w) :
    (f.required = true → w ≠ .absent ∧ w ≠ .null) ∧ (w = .absent ↔ Value.get? entries f.wireName = none) ∧
      (w = .null ↔ Value.get? entries f.wireName = some .null) := by
  rcases fieldValue_eq_ok_iff.1 h with ⟨hget, hr, rfl⟩ | ⟨hget, hr, rfl⟩ | ⟨p, hget, hp, hw⟩
  · simp [hget, hr]
  · simp [hget, hr]
  · obtain ⟨hnull, habsent⟩ := ne_null_of_decode hw
    simp [hget, hp, hnull, habsent]

/-- The value of a payload is what it is read as. -/
theorem isReading_of_decode (resolved : Resolved types) (h : decode types opens e p = .ok v) :
    IsReading types e p v := by
  refine value_induction types (motive := fun _ e p v => IsReading types e p v)
    ?primitive ?items ?option ?variant ?fields h
  case primitive => exact fun opens r v ha => .primitive (admits_iff_isOfKind.1 ha)
  case items =>
    intro opens item ps vs hitems ih
    refine .items hitems.length_eq fun i p v hp hv => ?_
    obtain ⟨hi, rfl⟩ := List.getElem?_eq_some_iff.1 hp
    obtain ⟨hj, rfl⟩ := List.getElem?_eq_some_iff.1 hv
    exact ih _ (List.getElem_mem hi) _ (hitems.get hi hj)
  case option => exact fun opens options e p v taken he ih => .option (isFirst_fits taken he) ih
  case variant =>
    exact fun opens name type e p v htype ha taken he ih => .variant htype ha (isFirst_fits taken he) ih
  case fields =>
    intro opens name type entries own htype hc hobstacle hfields ih
    have hvalue {f : FieldBinding} (hf : f ∈ type.fields) {w : Value} (hm : (f.names, w) ∈ own) :=
      fieldValue_of_mem_decodeFields resolved htype hfields hf hm
    refine .fields htype hc (names_of_decodeFields hfields) ?_ ?_ ?_ ?_
    · exact fun f hf hr w hm => (fieldValue_marks (hvalue hf hm)).1 hr
    · exact fun f hf w hm => (fieldValue_marks (hvalue hf hm)).2.1
    · exact fun f hf w hm => (fieldValue_marks (hvalue hf hm)).2.2
    · intro f hf p w hget hp hm
      have hw := hvalue hf hm
      rw [fieldValue_of_get? hget hp] at hw
      exact ih f hf p w hget hw

/-- There is one reading at most. -/
theorem IsReading.unique {w : Value} (h : IsReading types e p v) (h' : IsReading types e p w) : v = w := by
  induction h generalizing w with
  | primitive =>
    cases h'
    rfl
  | @items item ps vs length each ih =>
    cases h' with
    | @items _ _ ws length' each' =>
      refine congrArg Value.tuple (List.ext_getElem (length.symm.trans length') fun i hi hj => ?_)
      have hlt : i < ps.length := by rwa [length]
      have hp : ps[i]? = some ps[i] := List.getElem?_eq_getElem hlt
      exact ih i _ _ hp (List.getElem?_eq_getElem hi) (each' i _ _ hp (List.getElem?_eq_getElem hj))
  | option first _ ih =>
    cases h' with
    | option first' reading' =>
      cases first.unique first'
      exact ih reading'
  | variant find ha first _ ih =>
    cases h' with
    | variant find' _ first' reading' =>
      rw [find, Option.some.injEq] at find'
      subst find'
      cases first.unique first'
      exact ih reading'
    | fields find' hc =>
      rw [find, Option.some.injEq] at find'
      rw [find', hc] at ha
      cases ha
  | @fields name type entries own find hc names _ absent null each ih =>
    cases h' with
    | variant find' ha =>
      rw [find, Option.some.injEq] at find'
      rw [← find', hc] at ha
      cases ha
    | @fields _ type' _ own' find' _ names' _ absent' null' each' =>
      rw [find, Option.some.injEq] at find'
      subst find'
      refine congrArg (Value.record name) (eq_of_map_fst_eq (names.trans names'.symm) fun k a a' hm hm' => ?_)
      -- the field is one of the type, and what it is read as goes by the value under its key
      have hk : k ∈ type.fields.map (·.names) := by
        rw [← names]
        exact List.mem_map_of_mem hm
      obtain ⟨f, hf, rfl⟩ := List.mem_map.1 hk
      cases hget : Value.get? entries f.wireName with
      | none => rw [(absent f hf a hm).2 hget, (absent' f hf a' hm').2 hget]
      | some p =>
        by_cases hp : p = .null
        · subst hp
          rw [(null f hf a hm).2 hget, (null' f hf a' hm').2 hget]
        · exact ih f hf p a hget hp hm (each' f hf p a' hget hp hm')

end

/-! ## Values that do not change -/

/-- Whether a value can be a key, as far as the values in it can. -/
def isHashed : Value → Bool
  | .list _ | .object _ | .bytearray _ => false
  | .record _ fields => !Value.lacks .hash fields
  | _ => true

mutual

/-- A value can be a key if all values in it can. -/
theorem isHashable_eq_throughout : ∀ v : Value, v.isHashable = v.throughout isHashed
  | .tuple items => by
    rw [Value.isHashable, Value.throughout, itemsHashable_eq_throughout items]
    rfl
  | .record _ fields => by
    rw [Value.isHashable, Value.throughout, isHashed, fieldsHashable_eq_throughout fields]
  | .list _ | .object _ | .null | .absent | .bool _ | .int _ | .float _ | .text _ | .bytes _ | .bytearray _
  | .file _ | .stream _ | .foreign _ _ => by
    rw [Value.isHashable.eq_def, Value.throughout.eq_def]
    rfl

theorem itemsHashable_eq_throughout :
    ∀ items : List Value, Value.itemsHashable items = Value.throughoutItems isHashed items
  | [] => rfl
  | v :: rest => by
    rw [Value.itemsHashable, Value.throughoutItems, isHashable_eq_throughout v, itemsHashable_eq_throughout rest]

theorem fieldsHashable_eq_throughout :
    ∀ fields : List (FieldName × Value), Value.fieldsHashable fields = Value.throughoutFields isHashed fields
  | [] => rfl
  | (_, v) :: rest => by
    rw [Value.fieldsHashable, Value.throughoutFields, isHashable_eq_throughout v, fieldsHashable_eq_throughout rest]

end

section

variable {types : Table TypeBinding} {opens : Nat} {e : TypeExpr} {p v : Value}

/-- There are no lists and no mappings in a decoded value. -/
theorem isFrozen_of_decode (resolved : Resolved types) (h : decode types opens e p = .ok v) :
    ∀ w ∈ v.parts, w.kind ≠ .list ∧ w.kind ≠ .object := by
  intro w hw
  have hread := Value.throughout_iff_forall_mem.1 (throughout_isRead_of_decode resolved h) w hw
  cases w with
  | list => cases hread
  | object => cases hread
  | _ => simp [Value.kind]

/-- A decoded value can be a key, unless a record in it has a field in the place of what that rests on. -/
theorem isHashable_of_decode (resolved : Resolved types) (h : decode types opens e p = .ok v) :
    v.isHashable = true ∨ ∃ type fields, .record type fields ∈ v.parts ∧ Value.lacks .hash fields = true := by
  cases hhash : v.isHashable with
  | true => exact .inl rfl
  | false =>
    rw [isHashable_eq_throughout, Value.throughout_eq_false_iff] at hhash
    obtain ⟨w, hw, hlost⟩ := hhash
    have hread := Value.throughout_iff_forall_mem.1 (throughout_isRead_of_decode resolved h) w hw
    -- of the values that decoding makes only a record can be at fault
    cases w with
    | record type fields =>
      rw [isHashed, Bool.not_eq_false'] at hlost
      exact .inr ⟨type, fields, hw, hlost⟩
    | list => cases hread
    | object => cases hread
    | bytearray => cases hread
    | _ => cases hlost

end

/-- What fits an expression of bindings is decoded, unless a type has no records, a value in the payload cannot be
asked for its class, or a remark is to be made on keys that are no texts. -/
theorem result_of_fits {schema : Schema} {b : Bindings} (hb : (Bindings.build schema).result = .ok b)
    (founded : Founded b.types) {e : TypeExpr} (closed : Closed b.types e) (threshold : Threshold) (root : String)
    {p : Value} (hfits : Fits b.types e p) :
    (∃ v, (decodeLogged threshold b.types root e p).result = .ok v) ∨
      ∃ fault, (decodeLogged threshold b.types root e p).result = .error (.fault fault) ∧
        (IsObstacle b.types fault ∨ (∃ w ∈ p.parts, isOpen w = false) ∨
          threshold.admits .debug = true ∧ ∃ w ∈ p.parts, hasTextKeys w = false) := by
  have resolved := Bindings.resolved_of_build hb
  have room := hasRoom_of_size_le (Nat.le_refl b.types.size) e
  rcases decodeLogged_cases threshold b.types root e p with hsame | ⟨hdebug, hkeys, hfault⟩
  · rw [hsame]
    cases hdecode : decode b.types b.types.size e p with
    | ok v => exact .inl ⟨v, rfl⟩
    | error stop =>
      cases stop with
      | mismatch m => exact (not_refuses_of_fits hfits ⟨m, hdecode⟩).elim
      | fault fault =>
        refine .inr ⟨fault, rfl, (exists_cause_of_decode founded resolved room closed hdecode).imp_right ?_⟩
        exact fun hunaskable => .inl (Value.throughout_eq_false_iff.1 hunaskable.2)
  · exact .inr ⟨_, hfault, .inr (.inr ⟨hdebug, Value.throughout_eq_false_iff.1 hkeys⟩)⟩

/-- What fits an expression of bindings is decoded, unless a type has no records or a value in the payload cannot be
asked for its class; keys that remarks have to put in order are taken to be texts. What is decoded fits, the value is
what the payload is read as, it has no lists and no mappings in it, and it can be a key, unless one of its records has
a field in the place of what that rests on. -/
theorem decode_finds_first_fit {schema : Schema} {b : Bindings} (hb : (Bindings.build schema).result = .ok b)
    (founded : Founded b.types) {e : TypeExpr} (closed : Closed b.types e) (threshold : Threshold) (root : String)
    (p : Value) :
    (Fits b.types e p → (threshold.admits .debug = true → ∀ w ∈ p.parts, hasTextKeys w = true) →
        (∃ v, (decodeLogged threshold b.types root e p).result = .ok v) ∨
          ∃ fault, (decodeLogged threshold b.types root e p).result = .error (.fault fault) ∧
            (IsObstacle b.types fault ∨ ∃ w ∈ p.parts, isOpen w = false)) ∧
      ∀ v, (decodeLogged threshold b.types root e p).result = .ok v →
        Fits b.types e p ∧ IsReading b.types e p v ∧ (∀ w ∈ v.parts, w.kind ≠ .list ∧ w.kind ≠ .object) ∧
          (v.isHashable = true ∨
            ∃ type fields, .record type fields ∈ v.parts ∧ Value.lacks .hash fields = true) := by
  have resolved := Bindings.resolved_of_build hb
  constructor
  · intro hfits hkeys
    refine (result_of_fits hb founded closed threshold root hfits).imp_right ?_
    rintro ⟨fault, hfault, hobstacle | hclosed | ⟨hdebug, w, hw, hw'⟩⟩
    · exact ⟨fault, hfault, .inl hobstacle⟩
    · exact ⟨fault, hfault, .inr hclosed⟩
    · rw [hkeys hdebug w hw] at hw'
      cases hw'
  · intro v hv
    have hdecode := decode_of_decodeLogged hv
    exact ⟨fits_of_decode hdecode, isReading_of_decode resolved hdecode, isFrozen_of_decode resolved hdecode,
      isHashable_of_decode resolved hdecode⟩

/-! ### Points -/

/-- The documentation of a point with a number and another one, which may be left out. -/
def pointSpec (other : String) : TypeSpec :=
  { href := "", description := [], subtypes := [], subtypeOf := []
    fields := [⟨"x", ["Integer"], true, ""⟩, ⟨other, ["Integer"], false, ""⟩] }

/-- A schema with three kinds of points. The other number of the second stands in the place of what makes records, and
that of the third in the place of what makes keys of them. -/
def pointSchema : Schema where
  version := none
  releaseDate := none
  changelog := none
  types := .ofList [("Point", pointSpec "y"), ("Stuck", pointSpec "__init__"), ("Loose", pointSpec "__hash__")]
  methods := .empty

/-- The binding of a type of points. -/
def pointType (name other : String) : TypeBinding :=
  { name, variants := [], description := []
    fields := [⟨"x", "x", .primitive .integer, true, ""⟩, ⟨other, other, .primitive .integer, false, ""⟩] }

/-- The types of the bindings. -/
def pointTypes : Table TypeBinding where
  entries :=
    [("Point", pointType "Point" "y"), ("Stuck", pointType "Stuck" "__init__"),
      ("Loose", pointType "Loose" "__hash__")]
  nodup := by decide

theorem build_pointSchema :
    ∃ b, (Bindings.build pointSchema).result = .ok b ∧ b.types = pointTypes ∧ Founded b.types := by
  have htypes : (pointSchema.types.map Graph.typeOf).mapM (fun _ node => Bindings.bindType node) =
      .ok pointTypes := eq_ok_of_toOption (by decide +kernel)
  exact ⟨_, Bindings.build_eq_ok (by decide +kernel) htypes, rfl, founded_of_rank (fun _ => 0) (by decide)⟩

theorem closed_pointTypes : ∀ e ∈ [TypeExpr.ref "Point", .ref "Stuck", .ref "Loose"], Closed pointTypes e := by
  unfold Closed
  decide

/-- The payload of a point without the other number. -/
def pointPayload : Value := .object [(.text "x", .int 1)]

/-- It has what each of the types requires. -/
theorem fits_pointPayload {name other : String} (htype : pointTypes.find? name = some (pointType name other))
    (hother : other ≠ "x") : Fits pointTypes (.ref name) pointPayload := by
  have hget : Value.get? [(.text "x", .int 1)] other = none := by simp [Value.get?, hother]
  refine .fields htype rfl (List.forall_mem_cons.2 ⟨?_, List.forall_mem_singleton.2 ?_⟩)
    (List.forall_mem_cons.2 ⟨?_, List.forall_mem_singleton.2 ?_⟩)
  · exact fun _ => ⟨.int 1, rfl, by simp⟩
  · simp
  · rintro p hp -
    cases hp
    exact .primitive (.integer 1)
  · intro p hp
    rw [hget] at hp
    cases hp

/-- The value of the payload. -/
def point (name other : String) : Value :=
  .record name [(⟨"x", "x", true⟩, .int 1), (⟨other, other, false⟩, .absent)]

/-- An array of points of the first kind or else of the third. -/
def pointsExpr : TypeExpr := .array (.union [.ref "Point", .ref "Loose"])

/-- Two points, of which the second is not of the first kind. -/
def pointsPayload : Value := .list [pointPayload, .object [(.text "x", .int 1), (.text "y", .text "high")]]

theorem decode_finds_first_fit_points :
    ∃ b v, (Bindings.build pointSchema).result = .ok b ∧ Founded b.types ∧ Closed b.types pointsExpr ∧
      v = .tuple [point "Point" "y", point "Loose" "__hash__"] ∧
      (decodeLogged .all b.types "result" pointsExpr pointsPayload).result = .ok v ∧
      Fits b.types pointsExpr pointsPayload ∧ IsReading b.types pointsExpr pointsPayload v ∧
      ∀ w ∈ v.parts, w.kind ≠ .list ∧ w.kind ≠ .object := by
  obtain ⟨b, hb, htypes, founded⟩ := build_pointSchema
  have closed : Closed b.types pointsExpr := by
    rw [htypes]
    unfold Closed
    decide
  have hv : (decodeLogged .all b.types "result" pointsExpr pointsPayload).result =
      .ok (.tuple [point "Point" "y", point "Loose" "__hash__"]) := by
    rw [htypes, result_of_decodeLogged _ _ _ _ (by decide)]
    cbv
  obtain ⟨-, hsound⟩ := decode_finds_first_fit hb founded closed .all "result" pointsPayload
  obtain ⟨hfits, hreading, hfrozen, -⟩ := hsound _ hv
  exact ⟨b, _, hb, founded, closed, rfl, hv, hfits, hreading, hfrozen⟩

/-- The payload fits a type of points that cannot be made, and is not decoded. It is decoded to a point of another
type that cannot be a key. -/
theorem fitting_payload_breaks :
    ∃ b, (Bindings.build pointSchema).result = .ok b ∧ Founded b.types ∧
      (Closed b.types (.ref "Stuck") ∧ Fits b.types (.ref "Stuck") pointPayload ∧
        (decodeLogged .all b.types "Stuck" (.ref "Stuck") pointPayload).result =
          .error (.fault (.noRecord "Stuck" "__init__"))) ∧
      Closed b.types (.ref "Loose") ∧
        (decodeLogged .all b.types "Loose" (.ref "Loose") pointPayload).result = .ok (point "Loose" "__hash__") ∧
        (point "Loose" "__hash__").isHashable = false := by
  obtain ⟨b, hb, htypes, founded⟩ := build_pointSchema
  refine ⟨b, hb, founded, ?_⟩
  rw [htypes, result_of_decodeLogged _ _ _ _ (by decide), result_of_decodeLogged _ _ _ _ (by decide)]
  refine ⟨⟨closed_pointTypes _ (by simp), fits_pointPayload rfl (by decide), by cbv⟩, closed_pointTypes _ (by simp),
    by cbv, by decide⟩

end BotApi.Response
