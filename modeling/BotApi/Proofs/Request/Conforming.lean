import BotApi.Proofs.Bindings.Founded
import BotApi.Proofs.Bindings.Resolved
import BotApi.Proofs.Request.InPlace
import BotApi.Proofs.Value.WireForm

/-!
# Values that conform to an expression

What it takes to be sent as an expression says, told without any search: a value conforms to a union if it
conforms to one of the options, in whatever order they stand. The conversion finds out.

## Main results

* `Tellable.settles` — a conversion succeeds if the value conforms and is a mismatch if it does not, for values of
  which that can be told.
* `inPlace_settles` — ordinary values are such.
-/

namespace BotApi.Request

/-- The entries that a value offers to a named type. A mapping offers its own, and a record of that very type
those of its payload. -/
inductive Offers (name : String) : Value → List (Key × Value) → Prop
  | mapping (entries : List (Key × Value)) : Offers name (.object entries) entries
  | record (fields : List (FieldName × Value)) {entries : List (Key × Value)}
      (payload : (Value.record name fields).payload = .object entries) :
      Offers name (.record name fields) entries

theorem Offers.unique {name : String} {v : Value} {entries others : List (Key × Value)}
    (h : Offers name v entries) (h' : Offers name v others) : entries = others := by
  cases h with
  | mapping =>
    cases h' with
    | mapping => rfl
  | record fields hp =>
    cases h' with
    | record _ hp' =>
      rw [hp, Value.object.injEq] at hp'
      exact hp'

/-- Whether a value is what an expression says. -/
inductive Conforms (types : Table TypeBinding) : TypeExpr → Value → Prop
  | primitive {p : Primitive} {v : Value} (admitted : admits p v = true) : Conforms types (.primitive p) v
  | list {item : TypeExpr} {items : List Value} (each : ∀ v ∈ items, Conforms types item v) :
      Conforms types (.array item) (.list items)
  | tuple {item : TypeExpr} {items : List Value} (each : ∀ v ∈ items, Conforms types item v) :
      Conforms types (.array item) (.tuple items)
  | option {options : List TypeExpr} {e : TypeExpr} {v : Value} (mem : e ∈ options)
      (conforms : Conforms types e v) : Conforms types (.union options) v
  | variant {name variant : String} {type : TypeBinding} {v : Value} (find : types.find? name = some type)
      (mem : variant ∈ type.variants) (conforms : Conforms types (.ref variant) v) :
      Conforms types (.ref name) v
  | fields {name : String} {type : TypeBinding} {v : Value} {entries : List (Key × Value)}
      (find : types.find? name = some type) (concrete : type.isAbstract = false)
      (offers : Offers name v entries)
      (declared : ∀ e ∈ entries, ∃ f ∈ type.fields, .text f.wireName = e.1)
      (required : ∀ f ∈ type.fields, f.required = true → given? entries f.wireName ≠ none)
      (each : ∀ f ∈ type.fields, ∀ w, given? entries f.wireName = some w → Conforms types f.type w) :
      Conforms types (.ref name) v

section

variable {types : Table TypeBinding} {v : Value}

theorem conforms_primitive_iff {p : Primitive} : Conforms types (.primitive p) v ↔ admits p v = true := by
  constructor
  · intro h
    cases h with
    | primitive admitted => exact admitted
  · exact .primitive

theorem conforms_array_iff {item : TypeExpr} :
    Conforms types (.array item) v ↔
      ∃ items, (v = .list items ∨ v = .tuple items) ∧ ∀ w ∈ items, Conforms types item w := by
  constructor
  · intro h
    cases h with
    | list each => exact ⟨_, .inl rfl, each⟩
    | tuple each => exact ⟨_, .inr rfl, each⟩
  · rintro ⟨items, rfl | rfl, each⟩
    · exact .list each
    · exact .tuple each

theorem conforms_union_iff {options : List TypeExpr} :
    Conforms types (.union options) v ↔ ∃ e ∈ options, Conforms types e v := by
  constructor
  · intro h
    cases h with
    | option mem conforms => exact ⟨_, mem, conforms⟩
  · rintro ⟨e, mem, conforms⟩
    exact .option mem conforms

variable {name : String} {type : TypeBinding}

theorem conforms_abstract_iff (htype : types.find? name = some type) (ha : type.isAbstract = true) :
    Conforms types (.ref name) v ↔ ∃ e ∈ type.variants.map TypeExpr.ref, Conforms types e v := by
  constructor
  · intro h
    cases h with
    | variant find mem conforms =>
      rw [htype, Option.some.injEq] at find
      subst find
      exact ⟨_, List.mem_map_of_mem mem, conforms⟩
    | fields find concrete =>
      rw [htype, Option.some.injEq] at find
      subst find
      rw [ha] at concrete
      cases concrete
  · rintro ⟨e, mem, conforms⟩
    obtain ⟨variant, hv, rfl⟩ := List.mem_map.1 mem
    exact .variant htype hv conforms

theorem conforms_concrete_iff (htype : types.find? name = some type) (hc : type.isAbstract = false) :
    Conforms types (.ref name) v ↔
      ∃ entries, Offers name v entries ∧ (∀ e ∈ entries, ∃ f ∈ type.fields, .text f.wireName = e.1) ∧
        ∀ f ∈ type.fields, (f.required = true → given? entries f.wireName ≠ none) ∧
          ∀ w, given? entries f.wireName = some w → Conforms types f.type w := by
  constructor
  · intro h
    cases h with
    | variant find mem =>
      -- a concrete type has no variants
      rw [htype, Option.some.injEq] at find
      subst find
      rw [TypeBinding.isAbstract, Bool.not_eq_false', List.isEmpty_iff] at hc
      rw [hc] at mem
      cases mem
    | fields find concrete offers declared required each =>
      rw [htype, Option.some.injEq] at find
      subst find
      exact ⟨_, offers, declared, fun f hf => ⟨required f hf, each f hf⟩⟩
  · rintro ⟨entries, offers, declared, each⟩
    exact .fields htype hc offers declared (fun f hf => (each f hf).1) fun f hf => (each f hf).2

/-- A value offers one list of entries only, and so these decide if it conforms. -/
theorem conforms_iff_of_offers {entries : List (Key × Value)} (htype : types.find? name = some type)
    (hc : type.isAbstract = false) (hoffers : Offers name v entries) :
    Conforms types (.ref name) v ↔
      (∀ e ∈ entries, ∃ f ∈ type.fields, .text f.wireName = e.1) ∧
        ∀ f ∈ type.fields, (f.required = true → given? entries f.wireName ≠ none) ∧
          ∀ w, given? entries f.wireName = some w → Conforms types f.type w := by
  rw [conforms_concrete_iff htype hc]
  constructor
  · rintro ⟨others, hothers, h⟩
    rwa [hothers.unique hoffers] at h
  · exact fun h => ⟨entries, hoffers, h⟩

end

/-! ## Values without faults -/

/-- Whether a whole number can be written. -/
def isWritable (n : Int) : Bool := n.natAbs < Nat.pow 10 Number.maxDigits

/-- Whether a key can be written. -/
def Key.isWritable : Key → Bool
  | .int n => Request.isWritable n
  | _ => true

theorem intLiteral_failsOnly (n : Int) :
    FailsOnly (.tooManyDigits .writing) (isWritable n = false) (Value.intLiteral n) := by
  rw [Value.intLiteral, Number.intText]
  split
  · exact .inl ⟨_, rfl⟩
  · next h => exact .inr ⟨rfl, decide_eq_false h⟩

theorem keyLiteral_failsOnly (k : Key) :
    FailsOnly (.tooManyDigits .writing) (Key.isWritable k = false) (Value.keyLiteral k) := by
  cases k with
  | int n => exact intLiteral_failsOnly n
  | _ => exact .inl ⟨_, rfl⟩

theorem keyText_failsOnly (k : Key) :
    FailsOnly (.tooManyDigits .writing) (Key.isWritable k = false) (Value.keyText k) := by
  cases k with
  | text s => exact .inl ⟨s, rfl⟩
  | _ => exact keyLiteral_failsOnly _

/-- The refusal of a key is a mismatch, unless the key is too long to be shown. -/
theorem refuseKey_cases (e : TypeExpr) (k : Key) :
    (∃ m, Stop.refuseKey e k = .mismatch m) ∨
      (Stop.refuseKey e k = .fault (.unwritable (.tooManyDigits .writing)) ∧ Key.isWritable k = false) := by
  rw [Stop.refuseKey]
  rcases keyText_failsOnly k with ⟨name, hname⟩ | ⟨herror, hlong⟩
  · exact .inl ⟨_, by rw [hname]⟩
  · exact .inr ⟨by rw [herror], hlong⟩

/-- Whether a value has a name that can be used, if it is a stream or a record that can be read. -/
def isNamed : Value → Bool
  | .stream s => s.name ≠ .other
  | .record _ fields =>
    !Value.hasRead fields || ((Value.field? "name" fields).map StreamName.ofValue).getD .unnamed ≠ .other
  | _ => true

/-- Whether a record that can be read can be asked for its class, and is not taken for a path. -/
def isReader (type : String) (fields : List (FieldName × Value)) : Bool :=
  !Value.hasRead fields ||
    ((Value.record type fields).classObstruction?.isNone && !Value.lacks .path fields)

/-- Whether nothing about a value stands in the way of telling whether it conforms: its number can be written, its
name is a text or octets, and no field stands in for what a record is asked for. -/
def isOrdinary : Value → Bool
  | .int n => isWritable n
  | .stream s => s.name ≠ .other
  | .object entries => entries.all fun e => Key.isWritable e.1
  | .record type fields =>
    !Value.lacks .access fields && !Value.lacks .attributes fields && !Value.lacks .typeName fields &&
      !Value.lacks .wireNames fields && (Value.table? fields).isNone && isNamed (.record type fields) &&
      isReader type fields
  | _ => true

/-- What an ordinary record is not in want of. -/
structure Ordinary (type : String) (fields : List (FieldName × Value)) : Prop where
  access : Value.lacks .access fields = false
  attributes : Value.lacks .attributes fields = false
  typeName : Value.lacks .typeName fields = false
  wireNames : Value.lacks .wireNames fields = false
  table : Value.table? fields = none
  named : isNamed (.record type fields) = true
  reader : isReader type fields = true

theorem of_isOrdinary_record {type : String} {fields : List (FieldName × Value)}
    (h : isOrdinary (.record type fields) = true) : Ordinary type fields := by
  simp only [isOrdinary, Bool.and_eq_true, Bool.not_eq_true', Option.isNone_iff_eq_none] at h
  obtain ⟨⟨⟨⟨⟨⟨haccess, hattributes⟩, htype⟩, hwire⟩, htable⟩, hnamed⟩, hreader⟩ := h
  exact ⟨haccess, hattributes, htype, hwire, htable, hnamed, hreader⟩

theorem isNamed_of_isOrdinary {v : Value} (h : isOrdinary v = true) : isNamed v = true := by
  cases v with
  | stream s => exact h
  | record type fields => exact (of_isOrdinary_record h).named
  | _ => rfl

theorem isOrdinary_payload (v : Value) (h : isOrdinary v = true) : isOrdinary v.payload = true := by
  cases v with
  | object entries =>
    rw [isOrdinary, List.all_eq_true] at h
    rw [Value.payload, isOrdinary, List.all_eq_true]
    exact Value.forall_key_payloadEntries (P := fun k => Key.isWritable k = true) h
  | record type fields =>
    -- wire names are texts, which can be written
    rw [Value.payload, isOrdinary, List.all_eq_true]
    exact Value.forall_key_payload_record (P := fun k => Key.isWritable k = true) fields fun _ => rfl
  | _ => exact h

/-- Values that are ordinary throughout have payloads. -/
theorem payload?_of_ordinary {v : Value} (h : v.throughout isOrdinary = true) : v.payload? = .ok v.payload := by
  refine Value.payload?_eq_ok (fun type fields hrecord => ?_) h
  have hordinary := of_isOrdinary_record hrecord
  exact ⟨hordinary.access, hordinary.wireNames, hordinary.table⟩

/-- An ordinary value offers entries, or it is refused for having none. -/
theorem entriesFor_of_ordinary (name : String) {v : Value} (h : v.throughout isOrdinary = true) :
    (∃ entries, entriesFor name v = .ok entries ∧ Offers name v entries ∧
        (Value.object entries).throughout isOrdinary = true) ∨
      (∃ m, entriesFor name v = .error (.mismatch m)) ∧ ∀ entries, ¬ Offers name v entries := by
  cases v with
  | object entries => exact .inl ⟨entries, rfl, .mapping entries, h⟩
  | record other fields =>
    have hordinary := of_isOrdinary_record (Value.holds_of_throughout h)
    have htable := hordinary.table
    by_cases hname : other = name
    · -- a record of the very type offers its payload
      subst hname
      have hpayload := Value.throughout_payload isOrdinary_payload _ h
      have hobject := Value.payload_record other htable
      have hp : (Value.record other fields).payload? = .ok (.object (Value.payloadFields fields)) := by
        rw [payload?_of_ordinary h, hobject]
      rw [hobject] at hpayload
      exact .inl ⟨_, entriesFor_eq_ok_iff.2 (.inr ⟨fields, rfl, hordinary.typeName, hp⟩), .record fields hobject,
        hpayload⟩
    · -- a record of another type offers nothing
      refine .inr ⟨⟨⟨[], .ref name, .ofArgument (.record other fields)⟩, ?_⟩, ?_⟩
      · rw [entriesFor, if_pos (by rw [Bool.or_eq_true, decide_eq_true_eq]; exact .inl hname)]
        rfl
      · intro entries hoffers
        cases hoffers
        exact hname rfl
  | _ =>
    refine .inr ⟨⟨_, rfl⟩, fun entries hoffers => ?_⟩
    cases hoffers

/-! ## What a conversion finds out -/

/-- Whether a result tells if a condition holds: a value says that it does, a mismatch that it does not, and there
is no fault. -/
def Settles {α : Type} (P : Prop) : Except Stop α → Prop
  | .ok _ => P
  | .error (.mismatch _) => ¬ P
  | .error (.fault _) => False

namespace Settles

variable {α β : Type} {P Q : Prop} {x y : Except Stop α}

theorem congr (h : Settles P x) (hPQ : P ↔ Q) : Settles Q x := by
  rwa [← propext hPQ]

theorem map (f : α → β) (h : Settles P x) : Settles P (f <$> x) := by
  cases x with
  | ok a => exact h
  | error stop => cases stop <;> exact h

theorem under (step : Step) (h : Settles P x) : Settles P (BotApi.under step x) := by
  cases x with
  | ok a => exact h
  | error stop => cases stop <;> exact h

theorem orNext (hx : Settles P x) (hy : Settles Q y) : Settles (P ∨ Q) (Request.orNext x y) := by
  cases x with
  | ok a => exact .inl hx
  | error stop =>
    cases stop with
    | mismatch m => exact hy.congr (or_iff_right hx).symm
    | fault f => exact hx.elim

theorem bind {f : α → Except Stop β} (hx : Settles P x) (hf : ∀ a, x = .ok a → Settles Q (f a)) :
    Settles (P ∧ Q) (x >>= f) := by
  cases x with
  | ok a => exact (hf a rfl).congr (and_iff_right hx).symm
  | error stop =>
    cases stop with
    | mismatch m => exact fun h => hx h.1
    | fault f => exact hx.elim

/-- Where a condition is settled, it holds just if there is a value. -/
theorem iff_exists_ok (h : Settles P x) : P ↔ ∃ a, x = .ok a := by
  cases x with
  | ok a => exact ⟨fun _ => ⟨a, rfl⟩, fun _ => h⟩
  | error stop =>
    cases stop with
    | mismatch m => exact ⟨fun hP => absurd hP h, fun ⟨a, ha⟩ => by cases ha⟩
    | fault f => exact h.elim

/-- Where a condition is settled and does not hold, there is a mismatch. -/
theorem exists_mismatch (h : Settles P x) (hP : ¬ P) : ∃ m, x = .error (.mismatch m) := by
  cases x with
  | ok a => exact absurd h hP
  | error stop =>
    cases stop with
    | mismatch m => exact ⟨m, rfl⟩
    | fault f => exact h.elim

end Settles

theorem accessObstruction?_of_ordinary {v : Value} (h : isOrdinary v = true) : v.accessObstruction? = none := by
  cases v with
  | record type fields =>
    rw [Value.accessObstruction?, (of_isOrdinary_record h).access]
    rfl
  | _ => rfl

theorem attributeObstruction?_of_ordinary {v : Value} (h : isOrdinary v = true) :
    v.attributeObstruction? = none := by
  cases v with
  | record type fields =>
    rw [Value.attributeObstruction?, (of_isOrdinary_record h).attributes]
    rfl
  | _ => rfl

theorem primitiveObstruction?_of_ordinary {v : Value} (h : isOrdinary v = true) (p : Primitive) :
    primitiveObstruction? p v = none := by
  cases p with
  | inputFile => exact attributeObstruction?_of_ordinary h
  | literalTrue => rfl
  | _ => exact accessObstruction?_of_ordinary h

/-- A name that is a text or octets can be used. -/
theorem exists_ofReader (source : FileSource) {name : StreamName} (h : name ≠ .other) :
    ∃ f, InputFile.ofReader source (.ok name) none = .ok f := by
  cases name with
  | other => exact absurd rfl h
  | _ => exact ⟨_, rfl⟩

/-- A record that can be asked for its name is called what its field says. -/
theorem recordName_eq {fields : List (FieldName × Value)} (h : Value.lacks .attributes fields = false) :
    InputFile.recordName fields = .ok (((Value.field? "name" fields).map StreamName.ofValue).getD .unnamed) := by
  unfold InputFile.recordName
  cases Value.field? "name" fields with
  | some v => rfl
  | none =>
    rw [Value.need, h]
    rfl

/-- A file is made of what can be read, if it has a name that can be used and, as a record, can be asked for it. -/
theorem exists_toFile {v : Value} (hb : v.isBinary = true) (hnamed : isNamed v = true)
    (hrecord : ∀ type fields, v = .record type fields →
      Value.lacks .attributes fields = false ∧ isReader type fields = true) : ∃ f, v.toFile? = some (.ok f) := by
  cases v with
  | file f => exact ⟨f, rfl⟩
  | bytes content => exact ⟨_, rfl⟩
  | bytearray content => exact ⟨_, rfl⟩
  | stream s =>
    rw [isNamed, decide_eq_true_eq] at hnamed
    obtain ⟨f, hf⟩ := exists_ofReader (.stream s) hnamed
    exact ⟨f, congrArg some hf⟩
  | record type fields =>
    obtain ⟨hattributes, hreader⟩ := hrecord type fields rfl
    rw [Value.isBinary] at hb
    rw [isReader, hb, Bool.not_true, Bool.false_or, Bool.and_eq_true, Option.isNone_iff_eq_none,
      Bool.not_eq_true'] at hreader
    rw [isNamed, hb, Bool.not_true, Bool.false_or, decide_eq_true_eq] at hnamed
    obtain ⟨f, hf⟩ := exists_ofReader (.record type) hnamed
    refine ⟨f, ?_⟩
    rw [Value.toFile?, if_pos hb, InputFile.ofRecord, hreader.1, Value.need, hreader.2, recordName_eq hattributes]
    exact congrArg some hf
  | _ => cases hb

theorem exists_toFile_of_ordinary {v : Value} (h : isOrdinary v = true) (hb : v.isBinary = true) :
    ∃ f, v.toFile? = some (.ok f) := by
  refine exists_toFile hb (isNamed_of_isOrdinary h) fun type fields hv => ?_
  subst hv
  have hordinary := of_isOrdinary_record h
  exact ⟨hordinary.attributes, hordinary.reader⟩

theorem inPlacePrimitive_settles {p : Primitive} {v : Value} (h : isOrdinary v = true) :
    Settles (admits p v = true) (inPlacePrimitive p v) := by
  rw [inPlacePrimitive]
  cases ha : admits p v with
  | false =>
    rw [Bool.not_false, if_pos rfl, primitiveObstruction?_of_ordinary h]
    exact Bool.false_ne_true
  | true =>
    rw [Bool.not_true, if_neg Bool.false_ne_true]
    split
    · next hp =>
      subst hp
      obtain ⟨f, hf⟩ := exists_toFile_of_ordinary h ha
      rw [hf]
      rfl
    · rfl

theorem inPlaceItems_settles {types : Table TypeBinding} {item : TypeExpr} {items : List Value}
    (h : ∀ v ∈ items, Settles (Conforms types item v) (inPlace types types.size item v)) (i : Nat) :
    Settles (∀ v ∈ items, Conforms types item v) (inPlaceItems types item i items) := by
  induction items generalizing i with
  | nil =>
    rw [inPlaceItems]
    intro v hv
    cases hv
  | cons v rest ih =>
    rw [inPlaceItems]
    have hrest := ih (fun w hw => h w (List.mem_cons_of_mem _ hw)) (i + 1)
    refine (((h v (List.mem_cons_self ..)).under _).bind fun first _ => hrest.map (first :: ·)).congr ?_
    rw [List.forall_mem_cons]

theorem inPlaceFirst_settles {types : Table TypeBinding} {opens : Nat} {v : Value} (whole : TypeExpr)
    (options : List TypeExpr)
    (h : ∀ e ∈ options, Settles (Conforms types e v) (inPlace types opens e v)) :
    Settles (∃ e ∈ options, Conforms types e v) (inPlaceFirst types opens whole options v) := by
  induction options with
  | nil =>
    rw [inPlaceFirst]
    rintro ⟨e, he, -⟩
    cases he
  | cons e rest ih =>
    rw [inPlaceFirst]
    have hrest := ih fun e he => h e (List.mem_cons_of_mem _ he)
    refine ((h e (List.mem_cons_self ..)).orNext hrest).congr ?_
    simp only [List.mem_cons, exists_eq_or_imp]

theorem inPlaceFields_settles {types : Table TypeBinding} {entries : List (Key × Value)}
    {fields : List FieldBinding}
    (h : ∀ f ∈ fields, ∀ w, given? entries f.wireName = some w →
      Settles (Conforms types f.type w) (inPlace types types.size f.type w)) :
    Settles (∀ f ∈ fields, (f.required = true → given? entries f.wireName ≠ none) ∧
        ∀ w, given? entries f.wireName = some w → Conforms types f.type w)
      (inPlaceFields types fields entries) := by
  induction fields with
  | nil =>
    rw [inPlaceFields]
    intro f hf
    cases hf
  | cons f rest ih =>
    have hrest := ih fun g hg => h g (List.mem_cons_of_mem _ hg)
    rw [inPlaceFields_cons]
    cases hgiven : given? entries f.wireName with
    | none =>
      dsimp only
      cases hrequired : f.required with
      | true =>
        rw [if_pos rfl]
        exact fun hall => (hall f (List.mem_cons_self ..)).1 hrequired hgiven
      | false =>
        rw [if_neg Bool.false_ne_true]
        refine hrest.congr ?_
        rw [List.forall_mem_cons, hrequired, hgiven]
        simp
    | some w =>
      dsimp only
      have hfirst := h f (List.mem_cons_self ..) w hgiven
      refine ((hfirst.under _).bind fun first _ => hrest.map ((.text f.wireName, first) :: ·)).congr ?_
      rw [List.forall_mem_cons, hgiven]
      simp

/-- The keys of an ordinary mapping can be written. -/
theorem isWritable_of_ordinary {entries : List (Key × Value)}
    (h : (Value.object entries).throughout isOrdinary = true) : ∀ e ∈ entries, Key.isWritable e.1 = true := by
  have hroot := Value.holds_of_throughout h
  rwa [isOrdinary, List.all_eq_true] at hroot

/-- Whether it can be told of values that belong to expressions if they conform: what is asked of them has an answer,
and their parts belong to the expressions that these are converted by. -/
structure Tellable (types : Table TypeBinding) (belongs : TypeExpr → Value → Prop) : Prop where
  primitive {p : Primitive} {v : Value} (h : belongs (.primitive p) v) :
    Settles (admits p v = true) (inPlacePrimitive p v)
  access {item : TypeExpr} {v : Value} (h : belongs (.array item) v) : v.accessObstruction? = none
  item {item : TypeExpr} {v : Value} {items : List Value} (h : belongs (.array item) v)
    (hv : v = .list items ∨ v = .tuple items) : ∀ w ∈ items, belongs item w
  option {options : List TypeExpr} {e : TypeExpr} {v : Value} (h : belongs (.union options) v) (he : e ∈ options) :
    belongs e v
  variant {name variant : String} {type : TypeBinding} {v : Value} (h : belongs (.ref name) v)
    (find : types.find? name = some type) (hvariant : variant ∈ type.variants) : belongs (.ref variant) v
  entries {name : String} {type : TypeBinding} {v : Value} (h : belongs (.ref name) v)
    (find : types.find? name = some type) :
    (∃ entries, entriesFor name v = .ok entries ∧ Offers name v entries ∧
        (∀ e ∈ entries, Key.isWritable e.1 = true) ∧
        ∀ f ∈ type.fields, ∀ w, given? entries f.wireName = some w → belongs f.type w) ∨
      (∃ m, entriesFor name v = .error (.mismatch m)) ∧ ∀ entries, ¬ Offers name v entries

theorem tellable_of_ordinary (types : Table TypeBinding) :
    Tellable types fun _ v => v.throughout isOrdinary = true where
  primitive h := inPlacePrimitive_settles (Value.holds_of_throughout h)
  access h := accessObstruction?_of_ordinary (Value.holds_of_throughout h)
  item h hv := by
    rcases hv with rfl | rfl
    · exact (Value.throughout_list_iff.1 h).2
    · exact (Value.throughout_tuple_iff.1 h).2
  option h _ := h
  variant h _ _ := h
  entries {name _ _} h _ := by
    refine (entriesFor_of_ordinary name h).imp_left ?_
    rintro ⟨entries, hentries, hoffers, hordinary⟩
    refine ⟨entries, hentries, hoffers, isWritable_of_ordinary hordinary, fun f _ w hw => ?_⟩
    exact throughout_of_given? hordinary hw

/-- Where it can be told if values conform, a conversion tells it. -/
theorem Tellable.settles {types : Table TypeBinding} {belongs : TypeExpr → Value → Prop}
    (tellable : Tellable types belongs) (resolved : Resolved types) (founded : Founded types)
    {opens : Nat} {e : TypeExpr} {v : Value} (room : HasRoom types opens e) (closed : Closed types e)
    (hv : belongs e v) : Settles (Conforms types e v) (inPlace types opens e v) := by
  induction opens, e, v using conversion_induction with
  | primitive opens p v =>
    rw [inPlace]
    exact (tellable.primitive hv).congr conforms_primitive_iff.symm
  | array opens item v smaller =>
    have hroom := hasRoom_of_size_le (Nat.le_refl types.size) item
    have hitems : ∀ items, Value.sizeItems items < v.size → v = .list items ∨ v = .tuple items →
        Settles (∀ w ∈ items, Conforms types item w) (inPlaceItems types item 0 items) := by
      intro items hsize hform
      refine inPlaceItems_settles (fun w hw => ?_) 0
      have hlt := Value.size_lt_of_mem_items hw
      exact smaller w (by omega) types.size item hroom closed.item (tellable.item hv hform w hw)
    rw [inPlace.eq_def]
    cases v with
    | list items =>
      have hsettles := hitems items (by rw [Value.size]; omega) (.inl rfl)
      refine (hsettles.map Value.list).congr ?_
      rw [conforms_array_iff]
      simp
    | tuple items =>
      have hsettles := hitems items (by rw [Value.size]; omega) (.inr rfl)
      refine (hsettles.map Value.list).congr ?_
      rw [conforms_array_iff]
      simp
    | _ =>
      dsimp only
      rw [tellable.access hv]
      intro h
      cases h
  | union opens options v ih =>
    rw [inPlace]
    refine (inPlaceFirst_settles _ options fun e he => ?_).congr conforms_union_iff.symm
    exact ih e he (room.option e) (closed.option he) (tellable.option hv he)
  | ref opens name v smaller fewer =>
    obtain ⟨type, htype⟩ := Table.exists_find?_of_mem_names closed.mem_names
    cases ha : type.isAbstract with
    | true =>
      -- one opening later there is room for each variant
      obtain ⟨rest, rfl, hroom⟩ := room.variants founded htype
      rw [inPlace_abstract htype ha]
      refine (inPlaceFirst_settles _ _ fun e he => ?_).congr (conforms_abstract_iff htype ha).symm
      obtain ⟨variant, hvariant, rfl⟩ := List.mem_map.1 he
      exact fewer rest (Nat.lt_succ_self rest) _ (hroom variant hvariant) (resolved.variant htype hvariant)
        (tellable.variant hv htype hvariant)
    | false =>
      rw [inPlace_concrete htype ha]
      rcases tellable.entries hv htype with ⟨entries, hentries, hoffers, hwritable, hfields⟩ | ⟨⟨m, hm⟩, hno⟩
      · have hiff := conforms_iff_of_offers htype ha hoffers
        rw [hentries]
        dsimp only
        cases hknown : unknownKey? type.fields entries with
        | some k =>
          -- the key can be shown, and stands in the way of conforming
          obtain ⟨e, he, rfl⟩ := List.mem_map.1 (List.mem_of_find?_eq_some hknown)
          obtain ⟨m, hm⟩ := (refuseKey_cases (.ref name) e.1).resolve_right fun h => by
            rw [hwritable e he] at h
            cases h.2
          dsimp only
          rw [hm]
          intro h
          rw [unknownKey?_eq_none_iff.2 (hiff.1 h).1] at hknown
          cases hknown
        | none =>
          refine ((inPlaceFields_settles fun f hf w hw => ?_).map Value.object).congr ?_
          · have hlt := Nat.lt_trans (size_lt_of_given? hw) (sizeEntries_lt_of_entriesFor hentries)
            exact smaller w hlt types.size f.type (hasRoom_of_size_le (Nat.le_refl _) _)
              (resolved.fields name type htype f hf) (hfields f hf w hw)
          · rw [hiff, and_iff_right (unknownKey?_eq_none_iff.1 hknown)]
      · rw [hm]
        intro h
        obtain ⟨entries, hoffers, -⟩ := (conforms_concrete_iff htype ha).1 h
        exact hno entries hoffers

/-- A conversion of an ordinary value succeeds if the value conforms, and otherwise it is a mismatch. -/
theorem inPlace_settles {types : Table TypeBinding} (resolved : Resolved types) (founded : Founded types)
    {opens : Nat} {e : TypeExpr} {v : Value} (room : HasRoom types opens e) (closed : Closed types e)
    (hv : v.throughout isOrdinary = true) : Settles (Conforms types e v) (inPlace types opens e v) :=
  (tellable_of_ordinary types).settles resolved founded room closed hv

end BotApi.Request
