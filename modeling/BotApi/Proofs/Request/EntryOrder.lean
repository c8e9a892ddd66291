import BotApi.Proofs.Request.Faults
import BotApi.Proofs.Request.Uploads
import BotApi.Proofs.Value.Reordered

/-!
# Arguments in another order

A call is encoded along the parameters of its method and the fields of its types. The order in which a caller writes
the entries of mappings plays a part in two places only: undeclared keys are looked for in the order of the caller, and
so are records that have no payload. What is found first decides about the error, and it is an error in any order.

This is less plain for undeclared keys than for records. A mismatch sends a union on to its next option, while a key
that cannot be written ends the conversion, so one order might lead to a later option and the other to an end. But such
a key is no text, no type declares it, and the later options do not take the mapping either. `Stuck` says so of a value,
and `Agrees` relates two conversions that may differ in this way. Only a record that looks like an open file hides such
a key, since the file type takes it whatever it holds.

## Main results

* `Stuck.of_item`, `Stuck.of_entries` — what fits no type makes what it is in fit none.
* `inPlace_agrees` — conversions of a value and of the same in another order.
* `entry_order_is_immaterial` — calls with arguments in another order.
* `request_error_tells_order` — the kind of an error may depend on the order.
* `order_tells_reader` — so may the success of a conversion, where a record hides a key that cannot be written.
-/

namespace BotApi

/-! ## Kinds of errors -/

/-- The kind of error that an obstruction is. -/
def Obstruction.errorKind : Obstruction → String
  | .noAttribute .. => "AttributeError"
  | .lost _ | .notClass | .notNames => "TypeError"

/-- The kind of error of a value that cannot be shown. -/
def Unwritable.errorKind : Unwritable → String
  | .tooManyDigits _ => "ValueError"
  | .obstructed o => o.errorKind

/-- The kind of error that a fault is. -/
def Fault.errorKind (f : Fault) : String :=
  match f with
  | .endless _ => "RecursionError"
  | .unknownType _ => "KeyError"
  | .streamName | .unorderedKeys => "TypeError"
  | .noRecord .. => if f.message?.isSome then "AttributeError" else "TypeError"
  | .obstructed o => o.errorKind
  | .unwritable u => u.errorKind

namespace Request

/-- The kind of error that ends a call before it is sent. -/
def EncodeError.kind : EncodeError → String
  | .refused e => e.kind
  | .fault f => f.errorKind
  | .unwritable u => u.errorKind
  | .notJson | .notArguments => "TypeError"
  | .noLookup _ => "AttributeError"

theorem kind_refusal_fault (param : String) (f : Fault) : (refusal param (.fault f)).kind = f.errorKind := by
  cases f <;> rfl

/-! ## Conversions that agree -/

section

variable {α β γ δ : Type}

/-- Whether two conversions agree: their results are related, or both are a mismatch or both a fault. Faults are of one
kind unless there is a cause. A mismatch and a fault only go together if there is a cause and the values fit nowhere. -/
inductive Agrees (R : α → β → Prop) (cause unfit : Prop) : Except Stop α → Except Stop β → Prop
  | ok {a : α} {b : β} (related : R a b) : Agrees R cause unfit (.ok a) (.ok b)
  | mismatch (m n : Mismatch) : Agrees R cause unfit (.error (.mismatch m)) (.error (.mismatch n))
  | fault {f g : Fault} (kinds : f.errorKind = g.errorKind ∨ cause) :
      Agrees R cause unfit (.error (.fault f)) (.error (.fault g))
  | unfit (s t : Stop) (caused : cause) (nowhere : unfit) : Agrees R cause unfit (.error s) (.error t)

namespace Agrees

variable {R : α → β → Prop} {S : γ → δ → Prop} {cause cause' unfit unfit' : Prop} {x : Except Stop α}
  {y : Except Stop β}

theorem error (stop : Stop) : Agrees R cause unfit (.error stop) (.error stop) := by
  cases stop with
  | mismatch m => exact .mismatch m m
  | fault f => exact .fault (.inl rfl)

theorem refl (x : Except Stop α) : Agrees Eq cause unfit x x := by
  cases x with
  | ok a => exact .ok rfl
  | error stop => exact error stop

theorem imp (h : Agrees R cause unfit x y) (hcause : cause → cause') (hunfit : unfit → unfit') :
    Agrees R cause' unfit' x y := by
  cases h with
  | ok related => exact .ok related
  | mismatch m n => exact .mismatch m n
  | fault kinds => exact .fault (kinds.imp_right hcause)
  | unfit s t caused nowhere => exact .unfit s t (hcause caused) (hunfit nowhere)

theorem map {f : α → γ} {g : β → δ} (h : Agrees R cause unfit x y) (hfg : ∀ a b, R a b → S (f a) (g b)) :
    Agrees S cause unfit (f <$> x) (g <$> y) := by
  cases h with
  | ok related => exact .ok (hfg _ _ related)
  | mismatch m n => exact .mismatch m n
  | fault kinds => exact .fault kinds
  | unfit s t caused nowhere => exact .unfit s t caused nowhere

theorem under (step : Step) (h : Agrees R cause unfit x y) :
    Agrees R cause unfit (BotApi.under step x) (BotApi.under step y) := by
  cases h with
  | ok related => exact .ok related
  | mismatch m n => exact .mismatch _ _
  | fault kinds => exact .fault kinds
  | unfit s t caused nowhere => exact .unfit _ _ caused nowhere

theorem bind {f : α → Except Stop γ} {g : β → Except Stop δ} (h : Agrees R cause unfit x y)
    (hfg : ∀ a b, R a b → Agrees S cause unfit (f a) (g b)) : Agrees S cause unfit (x >>= f) (y >>= g) := by
  cases h with
  | ok related => exact hfg _ _ related
  | mismatch m n => exact .mismatch m n
  | fault kinds => exact .fault kinds
  | unfit s t caused nowhere => exact .unfit s t caused nowhere

/-- Two options agree with those after them if values that fit nowhere do not fit these. -/
theorem orNext {x' : Except Stop α} {y' : Except Stop β} (h : Agrees R cause unfit x y)
    (h' : Agrees R cause unfit x' y') (hx : unfit → ∀ a, x' ≠ .ok a) (hy : unfit → ∀ b, y' ≠ .ok b) :
    Agrees R cause unfit (Request.orNext x x') (Request.orNext y y') := by
  cases h with
  | ok related => exact .ok related
  | mismatch m n => exact h'
  | fault kinds => exact .fault kinds
  | unfit s t caused nowhere =>
    -- whatever comes next, it is no result
    have hstop : ∀ {γ : Type} (s : Stop) (z : Except Stop γ), (∀ c, z ≠ .ok c) →
        ∃ s', Request.orNext (.error s) z = .error s' := by
      intro γ s z hz
      cases s with
      | mismatch m =>
        cases z with
        | ok c => exact absurd rfl (hz c)
        | error s' => exact ⟨s', rfl⟩
      | fault f => exact ⟨.fault f, rfl⟩
    obtain ⟨s', hs⟩ := hstop s x' (hx nowhere)
    obtain ⟨t', ht⟩ := hstop t y' (hy nowhere)
    rw [hs, ht]
    exact .unfit s' t' caused nowhere

end Agrees

end

/-! ## Values that fit nowhere -/

/-- Whether a value fits no type expression. -/
def Unfit (types : Table TypeBinding) (v : Value) : Prop := ∀ opens e r, inPlace types opens e v ≠ .ok r

section

variable {types : Table TypeBinding} {v w : Value} {entries : List (Key × Value)}

/-- Whether a value may fit a type, as far as its parts go: it is of a primitive type, or its items fit somewhere, or
its keys are texts and what is given under them fits somewhere. -/
inductive PartsFit (types : Table TypeBinding) (v : Value) : Prop
  | primitive (p : Primitive) (admitted : admits p v = true)
  | items (items : List Value) (isList : v = .list items ∨ v = .tuple items) (each : ∀ w ∈ items, ¬ Unfit types w)
  | entries (name : String) (entries : List (Key × Value)) (offered : entriesFor name v = .ok entries)
      (keys : ∀ k ∈ entries.map Prod.fst, k.isText = true)
      (each : ∀ key w, given? entries key = some w → ¬ Unfit types w)

/-- What converts has parts that convert. -/
theorem partsFit_of_inPlace {opens : Nat} {e : TypeExpr} {r : Value} (h : inPlace types opens e v = .ok r) :
    PartsFit types v := by
  refine inPlace_induction types (motive := fun _ v _ => PartsFit types v) ?primitive ?items ?option ?variant ?entries h
  case primitive =>
    intro p v r h
    unfold inPlacePrimitive at h
    split at h
    · cases h
    · next hadmits => exact .primitive p (by simpa using hadmits)
  case items =>
    intro item v items out hv hout _
    refine .items items hv fun w hw hunfit => ?_
    obtain ⟨r, -, hr⟩ := exists_of_mem_left hout hw
    exact hunfit _ _ r hr
  -- an option and a variant have the parts of the whole
  case option => exact fun options e v r _ ih => ih
  case variant => exact fun name type e v r _ _ ih => ih
  case entries =>
    intro name type v entries out _ _ hentries hknown hout _
    refine .entries name entries hentries (fun k hk => ?_) fun key w hw hunfit => ?_
    · obtain ⟨e, he, rfl⟩ := List.mem_map.1 hk
      obtain ⟨f, -, hf⟩ := unknownKey?_eq_none_iff.1 hknown e he
      rw [← hf]
      rfl
    · -- each key is declared, so what is given under it was converted for a field
      obtain ⟨f, hf, hkey⟩ := exists_field_of_lookup hknown (Option.filter_eq_some_iff.1 hw).1
      cases hkey
      rcases lookup_inPlaceFields hout (.text f.wireName) with ⟨-, hall⟩ | ⟨g, -, hsame, u, r, hu, hr, -⟩
      · rw [hall f hf rfl] at hw
        cases hw
      · rw [Key.text.inj hsame, hw, Option.some.injEq] at hu
        subst hu
        exact hunfit _ _ r hr

/-- A value offers the same entries to all types that take any. -/
theorem entriesFor_unique {name other : String} {own : List (Key × Value)} (h : entriesFor name v = .ok entries)
    (h' : entriesFor other v = .ok own) : entries = own := by
  rcases entriesFor_eq_ok_iff.1 h with rfl | ⟨fields, rfl, -, hp⟩ <;>
    rcases entriesFor_eq_ok_iff.1 h' with h' | ⟨fields', h', -, hp'⟩ <;> cases h'
  · rfl
  · rw [hp] at hp'
    cases hp'
    rfl

namespace Unfit

/-- A list fits nowhere if one of its items does not. -/
theorem of_item {items : List Value} (hv : v = .list items ∨ v = .tuple items) (hw : w ∈ items)
    (h : Unfit types w) : Unfit types v := by
  intro opens e r hr
  cases partsFit_of_inPlace hr with
  | primitive p hp => rcases hv with rfl | rfl <;> cases p <;> cases hp
  | items own hown heach =>
    have hsame : own = items := by
      rcases hv with rfl | rfl <;> rcases hown with hown | hown <;> cases hown <;> rfl
    exact heach w (hsame ▸ hw) h
  | entries name own hown => rcases hv with rfl | rfl <;> cases hown

/-- A value that offers entries to a type fits nowhere if one of their keys is no text, or if what is given under one of
them fits nowhere, unless it looks like an open file. -/
theorem of_entries {name : String} (hunread : v.isUnread = true) (hentries : entriesFor name v = .ok entries)
    (h : (∃ k ∈ entries.map Prod.fst, k.isText = false) ∨ ∃ key w, given? entries key = some w ∧ Unfit types w) :
    Unfit types v := by
  intro opens e r hr
  cases partsFit_of_inPlace hr with
  | primitive p hp =>
    rcases entriesFor_eq_ok_iff.1 hentries with rfl | ⟨fields, rfl, -⟩
    · cases p <;> cases hp
    · cases p with
      | inputFile =>
        rw [Value.isUnread, show Value.hasRead fields = true from hp] at hunread
        cases hunread
      | _ => cases hp
  | items own hown => rcases hown with rfl | rfl <;> cases hentries
  | entries other own hown hkeys heach =>
    -- whichever type it is that takes them, the entries are the same
    cases entriesFor_unique hentries hown
    rcases h with ⟨k, hk, hno⟩ | ⟨key, w, hw, hunfit⟩
    · rw [hkeys k hk] at hno
      cases hno
    · exact heach key w hw hunfit

end Unfit

end

/-! ## Conversions in another order -/

/-- Whether a value does not make the kind of an error depend on the order of entries: its keys can be written, and no
field stands in for what its payload is made by. -/
def isUnobstructed : Value → Bool
  | .object entries => entries.all fun e => Key.isWritable e.1
  | .record _ fields => !Value.lacks .access fields && !Value.lacks .wireNames fields && (Value.table? fields).isNone
  | _ => true

/-- Whether something in a value may make the kind of an error depend on the order of entries. -/
def Obstructed (v : Value) : Prop := ¬ v.throughout isUnobstructed = true

theorem Obstructed.of_root {v : Value} (h : isUnobstructed v = false) : Obstructed v := by
  intro hall
  rw [Value.holds_of_throughout hall] at h
  cases h

theorem isUnobstructed_object_eq_false {entries : List (Key × Value)} {k : Key} (hk : k ∈ entries.map Prod.fst)
    (hlong : Key.isWritable k = false) : isUnobstructed (.object entries) = false := by
  obtain ⟨e, he, rfl⟩ := List.mem_map.1 hk
  refine List.all_eq_false.2 ⟨e, he, ?_⟩
  rw [hlong]
  exact Bool.false_ne_true

theorem hasTables_isUnobstructed : Value.HasTables isUnobstructed := by
  intro type fields h
  simp only [isUnobstructed, Bool.and_eq_true, Bool.not_eq_true', Option.isNone_iff_eq_none] at h
  exact ⟨h.1.1, h.1.2, h.2⟩

theorem isUnobstructed_payload (v : Value) (h : isUnobstructed v = true) : isUnobstructed v.payload = true := by
  cases v with
  | object entries =>
    rw [isUnobstructed, List.all_eq_true] at h
    rw [Value.payload, isUnobstructed, List.all_eq_true]
    exact Value.forall_key_payloadEntries (P := fun k => Key.isWritable k = true) h
  | record type fields =>
    rw [Value.payload, isUnobstructed, List.all_eq_true]
    exact Value.forall_key_payload_record (P := fun k => Key.isWritable k = true) fields fun _ => rfl
  | _ => rfl

/-! ## Keys that cannot be written -/

/-- Whether all keys of a value, if it is a mapping, can be written. -/
def hasShortKeys : Value → Bool
  | .object entries => entries.all fun e => Key.isWritable e.1
  | _ => true

/-- Whether a value, if it is a record that looks like an open file, holds no key that cannot be written. -/
def isFrank : Value → Bool
  | .record type fields => !Value.hasRead fields || (Value.record type fields).throughout hasShortKeys
  | _ => true

/-- Either a value holds no record that hides a key, or there is one that looks like an open file and has a key in it
that cannot be written. -/
theorem frank_or_hidden (v : Value) :
    v.throughout isFrank = true ∨
      ∃ type fields, .record type fields ∈ v.parts ∧ Value.hasRead fields = true ∧
        ∃ w ∈ (Value.record type fields).parts, hasShortKeys w = false := by
  cases hfrank : v.throughout isFrank with
  | true => exact .inl rfl
  | false =>
    obtain ⟨w, hw, hhidden⟩ := Value.throughout_eq_false_iff.1 hfrank
    cases w with
    | record type fields =>
      rw [isFrank, Bool.or_eq_false_iff, Bool.not_eq_false'] at hhidden
      exact .inr ⟨type, fields, hw, hhidden.1, Value.throughout_eq_false_iff.1 hhidden.2⟩
    | _ => cases hhidden

theorem hasShortKeys_payload (v : Value) (h : hasShortKeys v = true) : hasShortKeys v.payload = true := by
  cases v with
  | object entries =>
    rw [hasShortKeys, List.all_eq_true] at h
    rw [Value.payload, hasShortKeys, List.all_eq_true]
    exact Value.forall_key_payloadEntries (P := fun k => Key.isWritable k = true) h
  | record type fields =>
    rw [Value.payload, hasShortKeys, List.all_eq_true]
    exact Value.forall_key_payload_record (P := fun k => Key.isWritable k = true) fields fun _ => rfl
  | _ => rfl

theorem isFrank_payload (v : Value) : isFrank v.payload = true := by
  cases v <;> rfl

theorem hasShortKeys_eq {v w : Value} (h : Reordered v w) : hasShortKeys v = hasShortKeys w := by
  cases h with
  | same => rfl
  | object order keys each =>
    have hkeys := (Reordered.object order keys each).keys_perm
    rw [hasShortKeys, hasShortKeys, Bool.eq_iff_iff, List.all_eq_true, List.all_eq_true,
      ← List.forall_mem_map (f := Prod.fst) (P := fun k => Key.isWritable k = true),
      ← List.forall_mem_map (f := Prod.fst) (P := fun k => Key.isWritable k = true)]
    exact forall_congr' fun k => by rw [hkeys.mem_iff]
  | _ => rfl

theorem isFrank_eq {v w : Value} (h : Reordered v w) : isFrank v = isFrank w := by
  cases h with
  | same => rfl
  | @record type fields others names each =>
    have hrecord : Reordered (.record type fields) (.record type others) := .record names each
    have hshort := hrecord.throughout_iff fun _ _ => hasShortKeys_eq
    rw [isFrank, isFrank, Reordered.hasRead_eq (forall₂_paired_iff.2 ⟨names, each⟩), Bool.eq_iff_iff, Bool.or_eq_true,
      Bool.or_eq_true, hshort]
  | _ => rfl

/-- Whether a value fits nowhere and has a key in it that cannot be written. -/
structure Stuck (types : Table TypeBinding) (v : Value) : Prop where
  unfit : Unfit types v
  long : v.throughout hasShortKeys = false

namespace Stuck

variable {types : Table TypeBinding} {v w : Value}

theorem of_item {items : List Value} (hv : v = .list items ∨ v = .tuple items) (hw : w ∈ items)
    (h : Stuck types w) : Stuck types v := by
  refine ⟨h.unfit.of_item hv hw, ?_⟩
  have hlong := h.long
  rw [← Bool.not_eq_true] at hlong ⊢
  exact mt (fun hall => Value.throughout_of_item hv hall hw) hlong

/-- Such a key below an entry keeps a value from fitting, unless the value hides it. -/
theorem of_entries {name : String} {entries : List (Key × Value)} (hfrank : isFrank v = true)
    (hentries : entriesFor name v = .ok entries) (hlong : (Value.object entries).throughout hasShortKeys = false)
    (h : (∃ k ∈ entries.map Prod.fst, k.isText = false) ∨ ∃ key w, given? entries key = some w ∧ Unfit types w) :
    Stuck types v := by
  have hlong' : v.throughout hasShortKeys = false := by
    rw [← Bool.not_eq_true] at hlong ⊢
    exact mt (fun hall => throughout_of_entriesFor hasShortKeys_payload hall hentries) hlong
  refine ⟨.of_entries ?_ hentries h, hlong'⟩
  cases v with
  | record type fields => rwa [isFrank, hlong', Bool.or_false] at hfrank
  | _ => rfl

/-- A key that cannot be written is no text, so a mapping that has it fits nowhere. -/
theorem of_unwritable {name : String} {entries : List (Key × Value)} {k : Key} (hfrank : isFrank v = true)
    (hentries : entriesFor name v = .ok entries) (hk : k ∈ entries.map Prod.fst) (hlong : Key.isWritable k = false) :
    Stuck types v := by
  refine .of_entries hfrank hentries ?_ (.inl ⟨k, hk, ?_⟩)
  · rw [← Bool.not_eq_true]
    intro hall
    have hshort := Value.holds_of_throughout hall
    obtain ⟨e, he, rfl⟩ := List.mem_map.1 hk
    rw [hasShortKeys, List.all_eq_true] at hshort
    rw [hshort e he] at hlong
    cases hlong
  · cases k with
    | text s => cases hlong
    | _ => rfl

/-- What is given under a key keeps a value from fitting. -/
theorem of_given {name key : String} {entries : List (Key × Value)} (hfrank : isFrank v = true)
    (hentries : entriesFor name v = .ok entries) (hw : given? entries key = some w) (h : Stuck types w) :
    Stuck types v := by
  refine .of_entries hfrank hentries ?_ (.inr ⟨key, w, hw, h.unfit⟩)
  have hlong := h.long
  rw [← Bool.not_eq_true] at hlong ⊢
  exact mt (fun hall => throughout_of_given? hall hw) hlong

end Stuck

section

variable {types : Table TypeBinding} {v w : Value} {entries others : List (Key × Value)} {cause unfit : Prop}

theorem asked_agrees {α β : Type} {R : α → β → Prop} (o : Option Obstruction) (m n : Mismatch) :
    Agrees R cause unfit (.error (.asked o (.mismatch m))) (.error (.asked o (.mismatch n))) := by
  cases o with
  | none => exact .mismatch m n
  | some o => exact .fault (.inl rfl)

theorem primitiveObstruction?_eq (h : Reordered v w) (p : Primitive) :
    primitiveObstruction? p v = primitiveObstruction? p w := by
  cases h with
  | same => rfl
  | record names each =>
    unfold primitiveObstruction?
    rw [Value.attributeObstruction?, Value.attributeObstruction?, Value.accessObstruction?, Value.accessObstruction?,
      Value.lacks_eq names, Value.lacks_eq names]
  | _ => cases p <;> rfl

theorem admits_eq (h : Reordered v w) (p : Primitive) : admits p v = admits p w := by
  cases p with
  | inputFile => exact h.isBinary_eq
  | _ => cases h <;> rfl

theorem inPlacePrimitive_agrees (h : Reordered v w) (p : Primitive) :
    Agrees Eq cause unfit (inPlacePrimitive p v) (inPlacePrimitive p w) := by
  rw [inPlacePrimitive, inPlacePrimitive, admits_eq h, primitiveObstruction?_eq h, h.toFile?_eq]
  cases ha : admits p w with
  | false => exact asked_agrees _ _ _
  | true =>
    rw [Bool.not_true, if_neg Bool.false_ne_true, if_neg Bool.false_ne_true]
    split
    · cases w.toFile? with
      | none => exact .mismatch _ _
      | some file => cases file <;> exact .refl _
    · next hp =>
      -- containers are of no other primitive type
      cases h with
      | same => exact .refl _
      | _ => cases p <;> first | exact absurd rfl hp | cases ha

theorem inPlaceItems_agrees {item : TypeExpr} {items others : List Value} (h : List.Forall₂ (fun v w =>
      Agrees Eq cause unfit (inPlace types types.size item v) (inPlace types types.size item w)) items others)
    (i : Nat) : Agrees Eq cause unfit (inPlaceItems types item i items) (inPlaceItems types item i others) := by
  induction h generalizing i with
  | nil => exact .refl _
  | cons hfirst _ ih =>
    rw [inPlaceItems, inPlaceItems]
    refine (hfirst.under _).bind fun first _ hsame => ?_
    subst hsame
    exact (ih (i + 1)).map fun more _ hmore => by rw [hmore]

theorem inPlaceFirst_agrees {opens : Nat} (whole : TypeExpr) {options : List TypeExpr}
    (h : ∀ e ∈ options, Agrees Eq cause (Stuck types v ∧ Stuck types w) (inPlace types opens e v)
      (inPlace types opens e w)) :
    Agrees Eq cause (Stuck types v ∧ Stuck types w) (inPlaceFirst types opens whole options v)
      (inPlaceFirst types opens whole options w) := by
  induction options with
  | nil =>
    rw [inPlaceFirst, inPlaceFirst]
    exact .mismatch _ _
  | cons e rest ih =>
    obtain ⟨hfirst, hrest⟩ := List.forall_mem_cons.1 h
    -- a value that fits nowhere fits none of the options that follow
    have hnone : ∀ u, Unfit types u → ∀ r, inPlaceFirst types opens whole rest u ≠ .ok r := by
      intro u hunfit r hr
      obtain ⟨e', -, he'⟩ := exists_mem_of_inPlaceFirst hr
      exact hunfit _ _ r he'
    rw [inPlaceFirst, inPlaceFirst]
    exact hfirst.orNext (ih hrest) (fun hstuck => hnone v hstuck.1.unfit) fun hstuck => hnone w hstuck.2.unfit

/-- What is given under a key is the same up to the order of its own entries. -/
theorem given?_rel (h : Reordered (.object entries) (.object others)) (hkeys : (entries.map Prod.fst).Nodup)
    (name : String) : Option.Rel Reordered (given? entries name) (given? others name) :=
  rel_filter (h.lookup_rel hkeys (.text name)) fun _ _ h => by cases h <;> rfl

theorem inPlaceFields_agrees {fields : List FieldBinding}
    (hgiven : ∀ name, Option.Rel Reordered (given? entries name) (given? others name))
    (heach : ∀ f ∈ fields, ∀ v w, given? entries f.wireName = some v → given? others f.wireName = some w →
      Reordered v w → Agrees Eq cause unfit (inPlace types types.size f.type v) (inPlace types types.size f.type w)) :
    Agrees Eq cause unfit (inPlaceFields types fields entries) (inPlaceFields types fields others) := by
  induction fields with
  | nil =>
    rw [inPlaceFields, inPlaceFields]
    exact .refl _
  | cons f rest ih =>
    obtain ⟨hfirst, hrest⟩ := List.forall_mem_cons.1 heach
    have hrel := hgiven f.wireName
    rw [inPlaceFields_cons, inPlaceFields_cons]
    generalize hv : given? entries f.wireName = found, hw : given? others f.wireName = other at hrel ⊢
    cases hrel with
    | none =>
      dsimp only
      split
      · exact .mismatch _ _
      · exact ih hrest
    | some hvw =>
      refine ((hfirst _ _ hv hw hvw).under _).bind fun first _ hsame => ?_
      subst hsame
      exact (ih hrest).map fun more _ hmore => by rw [hmore]

/-- What a value offers to a type it offers in any order. A record offers nothing where something is in the way of its
payload. -/
theorem entriesFor_agrees (h : Reordered v w) (name : String) :
    Agrees (fun entries others => Reordered (.object entries) (.object others)) (Obstructed v)
      unfit (entriesFor name v) (entriesFor name w) := by
  cases h with
  | same =>
    cases entriesFor name v with
    | ok entries => exact .ok (.same _)
    | error stop => exact .error stop
  | list => exact .mismatch _ _
  | tuple => exact .mismatch _ _
  | object order keys each => exact .ok (.object order keys each)
  | @record type fields others names each =>
    -- either both records have payloads or neither, though it may be for different reasons
    have hrecord : Reordered (.record type fields) (.record type others) := .record names each
    have hboth := hrecord.payloadObstruction?_eq_none_iff
    rw [entriesFor, entriesFor, Value.lacks_eq names]
    split
    · exact .mismatch _ _
    · cases hv : (Value.record type fields).payloadObstruction? with
      | none =>
        have hpayload := hrecord.payload
        rw [Value.payload?, Value.payload?, hv, hboth.1 hv]
        rw [Value.payload, Value.payload] at hpayload ⊢
        exact .ok hpayload
      | some o =>
        cases hw : (Value.record type others).payloadObstruction? with
        | none =>
          rw [hboth.2 hw] at hv
          cases hv
        | some o' =>
          rw [Value.payload?, Value.payload?, hv, hw]
          refine .fault (.inr fun hall => ?_)
          rw [Value.payloadObstruction?_eq_none hasTables_isUnobstructed _ hall] at hv
          cases hv

/-- The undeclared keys that are found first agree, in that there is one in either order. -/
theorem unknownKey?_eq_none_congr (h : Reordered (.object entries) (.object others)) (fields : List FieldBinding) :
    unknownKey? fields entries = none ↔ unknownKey? fields others = none := by
  rw [unknownKey?, unknownKey?]
  exact find?_eq_none_iff_of_perm h.keys_perm _

theorem obstructed_of_unwritable {name : String} {k : Key} (hentries : entriesFor name v = .ok entries)
    (hk : k ∈ entries.map Prod.fst) (hlong : Key.isWritable k = false) : Obstructed v := fun hall =>
  Obstructed.of_root (isUnobstructed_object_eq_false hk hlong)
    (throughout_of_entriesFor isUnobstructed_payload hall hentries)

/-- Whichever undeclared key is found first, it is refused, unless it cannot be written. -/
theorem refuseKey_agrees {α β : Type} {R : α → β → Prop} {name : String} (e : TypeExpr) {k l : Key}
    (hv : isFrank v = true) (hw : isFrank w = true) (hentries : entriesFor name v = .ok entries)
    (hothers : entriesFor name w = .ok others) (hrel : Reordered (.object entries) (.object others))
    (hk : k ∈ entries.map Prod.fst) (hl : l ∈ others.map Prod.fst) :
    Agrees R (Obstructed v) (Stuck types v ∧ Stuck types w) (.error (.refuseKey e k)) (.error (.refuseKey e l)) := by
  -- either mapping has the keys of the other
  have hlong : ∀ key ∈ entries.map Prod.fst, Key.isWritable key = false →
      Agrees R (Obstructed v) (Stuck types v ∧ Stuck types w) (.error (.refuseKey e k)) (.error (.refuseKey e l)) := by
    intro key hkey hno
    exact .unfit _ _ (obstructed_of_unwritable hentries hkey hno)
      ⟨.of_unwritable hv hentries hkey hno, .of_unwritable hw hothers (hrel.keys_perm.mem_iff.1 hkey) hno⟩
  rcases refuseKey_cases e k with ⟨m, hm⟩ | ⟨-, hno⟩
  · rcases refuseKey_cases e l with ⟨n, hn⟩ | ⟨-, hno⟩
    · rw [hm, hn]
      exact .mismatch m n
    · exact hlong l (hrel.keys_perm.mem_iff.2 hl) hno
  · exact hlong k hk hno

/-- A concrete type takes the same from entries in any order. -/
theorem inPlaceConcrete_agrees {name : String} {type : TypeBinding} {opens : Nat} (htype : types.find? name = some type)
    (hconcrete : type.isAbstract = false) (h : Reordered v w) (hv : v.throughout Value.isKeyed = true)
    (hfrank : isFrank v = true) (hfields : ∀ entries others (f : FieldBinding) u u', entriesFor name v = .ok entries →
      entriesFor name w = .ok others → given? entries f.wireName = some u → given? others f.wireName = some u' →
      Reordered u u' → Agrees Eq (Obstructed v) (Stuck types v ∧ Stuck types w)
        (inPlace types types.size f.type u) (inPlace types types.size f.type u')) :
    Agrees Eq (Obstructed v) (Stuck types v ∧ Stuck types w) (inPlace types opens (.ref name) v)
      (inPlace types opens (.ref name) w) := by
  have hoffered : Agrees _ (Obstructed v) (Stuck types v ∧ Stuck types w) _ _ := entriesFor_agrees h name
  rw [inPlace_concrete htype hconcrete, inPlace_concrete htype hconcrete]
  generalize hentries : entriesFor name v = offered, hothers : entriesFor name w = other at hoffered ⊢
  cases hoffered with
  | mismatch m n => exact .mismatch m n
  | fault kinds => exact .fault kinds
  | unfit s t caused nowhere => exact .unfit s t caused nowhere
  | @ok entries others hrel =>
    have hkeyed := Value.holds_of_throughout (throughout_of_entriesFor Value.isKeyed_payload hv hentries)
    rw [Value.isKeyed, decide_eq_true_eq] at hkeyed
    dsimp only
    cases hk : unknownKey? type.fields entries with
    | none =>
      rw [(unknownKey?_eq_none_congr hrel type.fields).1 hk]
      refine (inPlaceFields_agrees (given?_rel hrel hkeyed) fun f _ u u' hu hu' => ?_).map fun out _ hout => by
        rw [hout]
      exact hfields entries others f u u' hentries hothers hu hu'
    | some k =>
      cases hl : unknownKey? type.fields others with
      | none =>
        rw [(unknownKey?_eq_none_congr hrel type.fields).2 hl] at hk
        cases hk
      | some l =>
        exact refuseKey_agrees _ hfrank (isFrank_eq h ▸ hfrank) hentries hothers hrel (List.mem_of_find?_eq_some hk)
          (List.mem_of_find?_eq_some hl)

/-- Conversions of a value and of the same with its entries in another order give the same result, or both fail. -/
theorem inPlace_agrees (h : Reordered v w) (hv : v.throughout Value.isKeyed = true)
    (hfrank : v.throughout isFrank = true) (opens : Nat) (e : TypeExpr) :
    Agrees Eq (Obstructed v) (Stuck types v ∧ Stuck types w) (inPlace types opens e v) (inPlace types opens e w) := by
  -- for every reordering at once, since each part of the other value is a reordering of its own
  induction opens, e, v using conversion_induction generalizing w with
  | primitive opens p v =>
    rw [inPlace, inPlace]
    exact inPlacePrimitive_agrees h p
  | array opens item v smaller =>
    -- items keep their places
    have hitems : ∀ items others, (v = .list items ∨ v = .tuple items) → (w = .list others ∨ w = .tuple others) →
        Value.sizeItems items < v.size → List.Forall₂ Reordered items others →
        Agrees Eq (Obstructed v) (Stuck types v ∧ Stuck types w)
          (Value.list <$> inPlaceItems types item 0 items) (Value.list <$> inPlaceItems types item 0 others) := by
      intro items others hlist hother hsize each
      refine (inPlaceItems_agrees (forall₂_imp_of_mem each fun u hu u' hu' hrel => ?_) 0).map fun out _ hout => by
        rw [hout]
      have hlt := Nat.lt_trans (Value.size_lt_of_mem_items hu) hsize
      have hkeyed : u.throughout Value.isKeyed = true := Value.throughout_of_item hlist hv hu
      have hcause : Obstructed u → Obstructed v := mt fun hall => Value.throughout_of_item hlist hall hu
      have hstuck : Stuck types u ∧ Stuck types u' → Stuck types v ∧ Stuck types w := fun hboth =>
        ⟨hboth.1.of_item hlist hu, hboth.2.of_item hother hu'⟩
      exact (smaller u hlt types.size item hrel hkeyed (Value.throughout_of_item hlist hfrank hu)).imp hcause hstuck
    rw [inPlace.eq_def, inPlace.eq_def]
    cases h with
    | same => exact .refl _
    | list each => exact hitems _ _ (.inl rfl) (.inl rfl) (by rw [Value.size]; omega) each
    | tuple each => exact hitems _ _ (.inr rfl) (.inr rfl) (by rw [Value.size]; omega) each
    | object => exact asked_agrees _ _ _
    | record names each =>
      dsimp only
      rw [Value.accessObstruction?, Value.accessObstruction?, Value.lacks_eq names]
      exact asked_agrees _ _ _
  | union opens options v ih =>
    rw [inPlace, inPlace]
    exact inPlaceFirst_agrees _ fun e he => ih e he h hv hfrank
  | ref opens name v smaller fewer =>
    cases htype : types.find? name with
    | none =>
      rw [inPlace_unknown htype, inPlace_unknown htype]
      exact .error _
    | some type =>
      cases ha : type.isAbstract with
      | true =>
        cases opens with
        | zero =>
          rw [inPlace_endless htype ha, inPlace_endless htype ha]
          exact .error _
        | succ opens =>
          rw [inPlace_abstract htype ha, inPlace_abstract htype ha]
          exact inPlaceFirst_agrees _ fun e _ => fewer opens (Nat.lt_succ_self opens) e h hv hfrank
      | false =>
        have hroot := Value.holds_of_throughout hfrank
        refine inPlaceConcrete_agrees htype ha h hv hroot fun entries others f u u' hentries hothers hu hu' hrel => ?_
        -- what is given under a key is smaller than the value, and fails for it too
        have hlt := Nat.lt_trans (size_lt_of_given? hu) (sizeEntries_lt_of_entriesFor hentries)
        have hkeyed : u.throughout Value.isKeyed = true :=
          throughout_of_given? (throughout_of_entriesFor Value.isKeyed_payload hv hentries) hu
        have hcause : Obstructed u → Obstructed v := mt fun hall =>
          throughout_of_given? (throughout_of_entriesFor isUnobstructed_payload hall hentries) hu
        have hstuck : Stuck types u ∧ Stuck types u' → Stuck types v ∧ Stuck types w := fun hboth =>
          ⟨hboth.1.of_given hroot hentries hu, hboth.2.of_given (isFrank_eq h ▸ hroot) hothers hu'⟩
        have hrest : u.throughout isFrank = true :=
          throughout_of_given? (throughout_of_entriesFor (fun v _ => isFrank_payload v) hfrank hentries) hu
        exact (smaller u hlt types.size f.type hrel hkeyed hrest).imp hcause hstuck

end

/-! ## Calls -/

/-- Whether two steps of a call have the same end: related results, or errors, which are of one kind unless there is a
cause. -/
inductive SameEnd {α β : Type} (R : α → β → Prop) (cause : Prop) : Except EncodeError α → Except EncodeError β → Prop
  | ok {a : α} {b : β} (related : R a b) : SameEnd R cause (.ok a) (.ok b)
  | error {e f : EncodeError} (kinds : e.kind = f.kind ∨ cause) : SameEnd R cause (.error e) (.error f)

namespace SameEnd

variable {α β γ δ : Type} {R : α → β → Prop} {S : γ → δ → Prop} {cause : Prop} {x : Except EncodeError α}
  {y : Except EncodeError β}

theorem refl (x : Except EncodeError α) : SameEnd Eq cause x x := by
  cases x with
  | ok a => exact .ok rfl
  | error e => exact .error (.inl rfl)

theorem bind {f : α → Except EncodeError γ} {g : β → Except EncodeError δ} (h : SameEnd R cause x y)
    (hfg : ∀ a b, x = .ok a → R a b → SameEnd S cause (f a) (g b)) : SameEnd S cause (x >>= f) (y >>= g) := by
  cases h with
  | ok related => exact hfg _ _ rfl related
  | error kinds => exact .error kinds

theorem map {f : α → γ} {g : β → δ} (h : SameEnd R cause x y) (hfg : ∀ a b, R a b → S (f a) (g b)) :
    SameEnd S cause (f <$> x) (g <$> y) := by
  cases h with
  | ok related => exact .ok (hfg _ _ related)
  | error kinds => exact .error kinds

end SameEnd

/-- Conversions that agree bring the call to the same end. -/
theorem Agrees.refusal {α : Type} {cause unfit : Prop} {x y : Except Stop α} (h : Agrees Eq cause unfit x y)
    (param : String) : SameEnd Eq cause (x.mapError (Request.refusal param)) (y.mapError (Request.refusal param)) := by
  cases h with
  | ok related => exact .ok related
  | mismatch m n => exact .error (.inl rfl)
  | fault kinds =>
    refine .error (kinds.imp_left fun hkinds => ?_)
    rw [kind_refusal_fault, kind_refusal_fault, hkinds]
  | unfit s t caused nowhere => exact .error (.inr caused)

section

variable {types : Table TypeBinding} {method : MethodBinding} {arguments others : Arguments}

theorem kind_unexpected (method : MethodBinding) (k : Key) :
    (unexpected method k.toValue).kind = "UnexpectedParameter" ∨ Key.isWritable k = false := by
  rw [unexpected]
  rcases literal_toValue_failsOnly k with ⟨shown, hshown⟩ | ⟨-, hlong⟩
  · rw [hshown]
    exact .inl rfl
  · exact .inr hlong

/-- The argument of a parameter is the same up to the order of its own entries. -/
theorem argument?_rel (h : Reordered (.object arguments) (.object others)) (hkeys : (arguments.map Prod.fst).Nodup)
    (p : FieldBinding) : Option.Rel Reordered (argument? arguments p) (argument? others p) := by
  have hsent : ∀ name, Option.Rel Reordered (sent? arguments name) (sent? others name) := fun name =>
    rel_filter (h.lookup_rel hkeys (.text name)) fun _ _ h => by rw [h.isAbsent_eq]
  exact rel_filter (rel_or (hsent p.name) (hsent p.wireName)) fun _ _ h => by cases h <;> rfl

/-- Arguments are supplied in the order of the parameters. -/
theorem supplied_sameEnd {cause : Prop} (h : Reordered (.object arguments) (.object others))
    (hkeys : (arguments.map Prod.fst).Nodup) (params : List FieldBinding) :
    SameEnd (List.Forall₂ (Paired Reordered)) cause (supplied arguments params) (supplied others params) := by
  -- parameters are gone through in the order of the method, so the first missing one is the same
  have hmissing : isMissing arguments = isMissing others := by
    funext p
    rw [isMissing, isMissing, isNone_eq_of_rel (argument?_rel h hkeys p)]
  rw [supplied_eq, supplied_eq, hmissing]
  cases params.find? (isMissing others) with
  | some p => exact .error (.inl rfl)
  | none =>
    refine .ok (List.rel_filterMap (R := Eq) (fun p q hpq => ?_) (List.forall₂_same.2 fun _ _ => rfl))
    subst hpq
    have hrel := argument?_rel h hkeys p
    generalize argument? arguments p = found, argument? others p = other at hrel ⊢
    cases hrel with
    | none => exact .none
    | some hvw => exact .some ⟨rfl, hvw⟩

/-- Related values that are put under one key, one after another, are in the same places. -/
theorem forall₂_merge {κ : Type} [DecidableEq κ] {R : Value → Value → Prop} {entries others : List (κ × Value)}
    (h : List.Forall₂ (Paired R) entries others) :
    List.Forall₂ (Paired R) (Entries.merge entries) (Entries.merge others) := by
  have hput : ∀ (k : κ) {v w : Value} {done made : List (κ × Value)}, R v w → List.Forall₂ (Paired R) done made →
      List.Forall₂ (Paired R) (Entries.put k v done) (Entries.put k w made) := by
    intro k v w done made hvw hdone
    induction hdone with
    | nil => exact .cons ⟨rfl, hvw⟩ .nil
    | @cons e f done made hef hrest ih =>
      rw [Entries.put, Entries.put, hef.1]
      split
      · exact .cons ⟨rfl, hvw⟩ hrest
      · exact .cons ⟨rfl, hef.2⟩ ih
  -- the induction is for whatever was put before
  have hfold : ∀ {done made : List (κ × Value)}, List.Forall₂ (Paired R) done made →
      List.Forall₂ (Paired R) (entries.foldl (fun done e => Entries.put e.1 e.2 done) done)
        (others.foldl (fun done e => Entries.put e.1 e.2 done) made) := by
    induction h with
    | nil => exact fun hdone => hdone
    | @cons e f _ _ hef _ ih =>
      intro done made hdone
      rw [List.foldl_cons, List.foldl_cons, ← hef.1]
      exact ih (hput e.1 hef.2 hdone)
  exact hfold .nil

/-- Arguments are collected in any order. There is an undeclared one in either order, or in neither. -/
theorem collect_sameEnd (h : Reordered (.object arguments) (.object others))
    (hkeys : (arguments.map Prod.fst).Nodup) (method : MethodBinding) :
    SameEnd (List.Forall₂ (Paired Reordered)) (Obstructed (.object arguments)) (collect method arguments)
      (collect method others) := by
  have hfound := find?_eq_none_iff_of_perm h.keys_perm fun k => !isName method.params k.toValue
  rw [collect, collect, unexpected?_eq, unexpected?_eq]
  cases hk : (arguments.map Prod.fst).find? fun k => !isName method.params k.toValue with
  | none =>
    rw [hfound.1 hk]
    exact (supplied_sameEnd h hkeys method.params).map fun _ _ => forall₂_merge
  | some k =>
    cases hl : (others.map Prod.fst).find? fun k => !isName method.params k.toValue with
    | none =>
      rw [hfound.2 hl] at hk
      cases hk
    | some l =>
      have hkmem : k ∈ arguments.map Prod.fst := List.mem_of_find?_eq_some hk
      have hlmem : l ∈ arguments.map Prod.fst := h.keys_perm.mem_iff.2 (List.mem_of_find?_eq_some hl)
      refine .error ?_
      -- of one kind, unless one of the names cannot be shown
      rcases kind_unexpected method k with hkind | hno
      · rcases kind_unexpected method l with hkind' | hno
        · exact .inl (hkind.trans hkind'.symm)
        · exact .inr (.of_root (isUnobstructed_object_eq_false hlmem hno))
      · exact .inr (.of_root (isUnobstructed_object_eq_false hkmem hno))

/-- Arguments are converted one after another, each in any order of its entries. -/
theorem inPlaceAll_sameEnd {cause : Prop} {supply others : List (FieldBinding × Value)}
    (h : List.Forall₂ (Paired Reordered) supply others)
    (hkeyed : ∀ e ∈ supply, e.2.throughout Value.isKeyed = true) (hfrank : ∀ e ∈ supply, e.2.throughout isFrank = true)
    (hcause : ∀ e ∈ supply, Obstructed e.2 → cause) :
    SameEnd Eq cause (inPlaceAll types supply) (inPlaceAll types others) := by
  induction h with
  | nil => exact .refl _
  | @cons e f rest more hef _ ih =>
    obtain ⟨p, v⟩ := e
    obtain ⟨q, w⟩ := f
    obtain ⟨hparam, hvw⟩ := hef
    have hparam : p = q := hparam
    subst hparam
    obtain ⟨hv, hkeyed⟩ := List.forall_mem_cons.1 hkeyed
    obtain ⟨hfrank, hrest⟩ := List.forall_mem_cons.1 hfrank
    obtain ⟨hcause, hmore⟩ := List.forall_mem_cons.1 hcause
    rw [inPlaceAll, inPlaceAll]
    have hagrees : Agrees Eq _ _ (inPlace types types.size p.type v) (inPlace types types.size p.type w) :=
      inPlace_agrees hvw hv hfrank types.size p.type
    refine ((hagrees.imp hcause id).refusal p.wireName).bind fun a _ _ hsame => ?_
    subst hsame
    exact (ih hkeyed hrest hmore).map fun done _ hdone => by rw [hdone]

/-- Calls of a method with the same arguments up to the order of entries, in the arguments and in mappings in them,
come to the same request, or both to errors. These are of one kind, unless a mapping in the arguments has a key that
cannot be written, or one of their records has a field in the place of what its payload is made by. The exception is
arguments with a record that looks like an open file and has in it a mapping with a key that cannot be written. -/
theorem entry_order_is_immaterial (h : Reordered (.object arguments) (.object others))
    (hkeyed : (Value.object arguments).throughout Value.isKeyed = true) :
    (∃ request, encode types method arguments = .ok request ∧ encode types method others = .ok request) ∨
      (∃ e f, encode types method arguments = .error e ∧ encode types method others = .error f ∧
        (e.kind = f.kind ∨ ∃ v ∈ (Value.object arguments).parts, isUnobstructed v = false)) ∨
      ∃ type fields, .record type fields ∈ (Value.object arguments).parts ∧ Value.hasRead fields = true ∧
        ∃ w ∈ (Value.record type fields).parts, hasShortKeys w = false := by
  rcases frank_or_hidden (.object arguments) with hfrank | hhidden
  case inr => exact .inr (.inr hhidden)
  have hkeys := Value.holds_of_throughout hkeyed
  rw [Value.isKeyed, decide_eq_true_eq] at hkeys
  have hend : SameEnd Eq (Obstructed (.object arguments)) (encode types method arguments)
      (encode types method others) := by
    rw [encode_eq_bind, encode_eq_bind]
    refine (collect_sameEnd h hkeys method).bind fun supply _ hsupply hpaired => ?_
    have hargument : ∀ e ∈ supply, argument? arguments e.1 = some e.2 := fun e he =>
      (argument?_of_mem_collect hsupply he).2
    refine (inPlaceAll_sameEnd hpaired (fun e he => throughout_of_argument? hkeyed (hargument e he))
      (fun e he => throughout_of_argument? hfrank (hargument e he))
      fun e he => mt fun hall => throughout_of_argument? hall (hargument e he)).bind fun placed _ _ hsame => ?_
    -- what was converted is the same, and so is the rest
    subst hsame
    exact .refl _
  generalize encode types method arguments = x, encode types method others = y at hend ⊢
  cases hend with
  | ok related => exact .inl ⟨_, rfl, by rw [related]⟩
  | error kinds =>
    refine .inr (.inl ⟨_, _, rfl, rfl, kinds.imp_right fun hcause => ?_⟩)
    rwa [Obstructed, Bool.not_eq_true, Value.throughout_eq_false_iff] at hcause

end

/-! ### An album in another order -/

/-- The album, whose entries are written in another order, and so are those of the photo in it. -/
def turnedAlbumArguments : Arguments :=
  [(.text "from", .bytes [3]),
    (.text "photos", .tuple
      [.object [(.text "media", .bytes [1]), (.text "next", .object [(.text "media", .bytearray [2])])]])]

theorem reordered_album : Reordered (.object albumArguments) (.object turnedAlbumArguments) := by
  refine .object (.swap _ _ _) rfl (.cons (.same _) (.cons (.tuple (.cons ?_ .nil)) .nil))
  exact .object (.swap _ _ _) rfl (.cons (.same _) (.cons (.same _) .nil))

theorem entry_order_is_immaterial_album :
    ∃ b request, (Bindings.build albumSchema).result = .ok b ∧ b.method? "sendAlbum" = some sendAlbumMethod ∧
      Reordered (.object albumArguments) (.object turnedAlbumArguments) ∧
      (Value.object albumArguments).throughout Value.isKeyed = true ∧
      encode b.types sendAlbumMethod albumArguments = .ok request ∧ request.partList.length = 4 ∧
      encode b.types sendAlbumMethod turnedAlbumArguments = .ok request := by
  obtain ⟨b, hb, htypes, -, hm⟩ := build_albumSchema
  have hencode : encode b.types sendAlbumMethod albumArguments = .ok ⟨"sendAlbum", .parts albumParts⟩ := by
    rw [htypes]
    exact encode_albumArguments
  have hkeyed : (Value.object albumArguments).throughout Value.isKeyed = true := by decide
  have hnone : (Value.object albumArguments).throughout Value.isUnread = true := by decide
  refine ⟨b, _, hb, hm, reordered_album, hkeyed, hencode, rfl, ?_⟩
  rcases @entry_order_is_immaterial b.types sendAlbumMethod _ _ reordered_album hkeyed with
    ⟨request, hrequest, hother⟩ | ⟨e, f, herror, -, -⟩ | ⟨type, fields, hrecord, hread, -⟩
  · rw [hencode] at hrequest
    rw [hother, hrequest]
  · rw [hencode] at herror
    cases herror
  · -- there are no records in the album
    have hunread := Value.throughout_iff_forall_mem.1 hnone _ hrecord
    rw [Value.isUnread, hread] at hunread
    cases hunread

/-! ### Records without payloads in another order -/

/-- A schema with two types whose records have no payload, and with one that holds anything. -/
def strandedSchema : Schema where
  version := none
  releaseDate := none
  changelog := none
  types := .ofList
    [("A", { href := "", description := [], subtypes := [], subtypeOf := []
             fields := [⟨"__getattribute__", ["Integer"], false, ""⟩] }),
      ("B", { href := "", description := [], subtypes := [], subtypeOf := []
              fields := [⟨"id", ["Integer"], true, ""⟩, ⟨"__wire_names__", ["Integer"], false, ""⟩] }),
      ("H", { href := "", description := [], subtypes := [], subtypeOf := []
              fields := [⟨"m", ["A"], true, ""⟩] })]
  methods := .ofList [("send", sendSpec "H")]

/-- The types of its graph. -/
def strandedNodes : Table TypeNode where
  entries :=
    [("A", { name := "A", variants := [], description := [], href := ""
             fields := [⟨"__getattribute__", .primitive .integer, false, ""⟩] }),
      ("B", { name := "B", variants := [], description := [], href := ""
              fields := [⟨"id", .primitive .integer, true, ""⟩, ⟨"__wire_names__", .primitive .integer, false, ""⟩] }),
      ("H", { name := "H", variants := [], description := [], href := ""
              fields := [⟨"m", .ref "A", true, ""⟩] })]
  nodup := by decide

/-- The types of its bindings. -/
def strandedTypes : Table TypeBinding where
  entries :=
    [("A", { name := "A", variants := [], description := []
             fields := [⟨"__getattribute__", "__getattribute__", .primitive .integer, false, ""⟩] }),
      ("B", { name := "B", variants := [], description := []
              fields := [⟨"id", "id", .primitive .integer, true, ""⟩,
                ⟨"__wire_names__", "__wire_names__", .primitive .integer, false, ""⟩] }),
      ("H", { name := "H", variants := [], description := []
              fields := [⟨"m", "m", .ref "A", true, ""⟩] })]
  nodup := by decide

/-- The binding of its method. -/
def strandedMethod : MethodBinding where
  name := "send"
  params := [⟨"x", "x", .ref "H", true, ""⟩]
  returns := .primitive .literalTrue
  hasAttachment := false
  snakeName := "send"
  description := []

theorem build_strandedSchema :
    ∃ b, (Bindings.build strandedSchema).result = .ok b ∧ b.types = strandedTypes ∧
      b.method? "send" = some strandedMethod := by
  have hnodes : strandedSchema.types.map Graph.typeOf = strandedNodes := by decide +kernel
  have htypes : strandedNodes.mapM (fun _ node => Bindings.bindType node) = .ok strandedTypes :=
    eq_ok_of_toOption (by decide +kernel)
  rw [← hnodes] at htypes
  have hb := Bindings.build_eq_ok (by decide +kernel) htypes
  have hparams : (Graph.methodOf "send" (sendSpec "H")).params.map (·.type) = [.ref "H"] := by decide +kernel
  have hfile : (FileTracker.queryAny strandedNodes
      ((Graph.methodOf "send" (sendSpec "H")).params.map (·.type)) .empty).1 = false := by
    rw [hparams]
    cbv
  refine ⟨_, hb, rfl, ?_⟩
  rw [Bindings.method?_of_build_first hb rfl, hnodes, Bindings.bindMethod_fst hfile]
  decide +kernel

/-- A record in which a field stands in the place of all access. -/
def closedRecord : Value := .record "A" [(⟨"__getattribute__", "__getattribute__", false⟩, .absent)]

/-- A record in which a field stands in the place of the wire names. -/
def namelessRecord : Value :=
  .record "B" [(⟨"id", "id", true⟩, .int 1), (⟨"__wire_names__", "__wire_names__", false⟩, .absent)]

/-- A record that holds a mapping. -/
def holder (entries : List (Key × Value)) : Value := .record "H" [(⟨"m", "m", true⟩, .object entries)]

theorem encode_holder {entries : List (Key × Value)} {o : Obstruction}
    (h : (holder entries).payloadObstruction? = some o) :
    encode strandedTypes strandedMethod [(.text "x", holder entries)] = .error (.fault (.obstructed o)) := by
  have hlacks : Value.lacks .typeName [(⟨"m", "m", true⟩, .object entries)] = false := rfl
  have hentries : entriesFor "H" (holder entries) = .error (.fault (.obstructed o)) := by
    rw [holder, entriesFor, hlacks, if_neg (by decide), ← holder, Value.payload?, h]
  have hcollect : collect strandedMethod [(.text "x", holder entries)] =
      .ok [(⟨"x", "x", .ref "H", true, ""⟩, holder entries)] := rfl
  rw [encode_eq_bind, hcollect]
  show (inPlaceAll strandedTypes [(⟨"x", "x", .ref "H", true, ""⟩, holder entries)] >>= _) = _
  have htype : strandedTypes.find? "H" = some
      { name := "H", variants := [], description := []
        fields := [⟨"m", "m", .ref "A", true, ""⟩] } := by cbv
  rw [inPlaceAll, inPlace_concrete htype rfl, hentries]
  rfl

/-- The arguments of a call with a record that has no payload for two reasons. -/
def strandedArguments : Arguments := [(.text "x", holder [(.text "a", closedRecord), (.text "b", namelessRecord)])]

/-- The same arguments with the reasons in the other order. -/
def turnedStrandedArguments : Arguments :=
  [(.text "x", holder [(.text "b", namelessRecord), (.text "a", closedRecord)])]

/-- Which of two records without payloads comes first tells the kind of the error. -/
theorem request_error_tells_order :
    ∃ b e f, (Bindings.build strandedSchema).result = .ok b ∧ b.method? "send" = some strandedMethod ∧
      Reordered (.object strandedArguments) (.object turnedStrandedArguments) ∧
      (Value.object strandedArguments).throughout Value.isKeyed = true ∧
      encode b.types strandedMethod strandedArguments = .error e ∧
      encode b.types strandedMethod turnedStrandedArguments = .error f ∧
      e.kind = "TypeError" ∧ f.kind = "AttributeError" := by
  obtain ⟨b, hb, htypes, hm⟩ := build_strandedSchema
  have hreordered : Reordered (.object strandedArguments) (.object turnedStrandedArguments) := by
    refine .object (.refl _) rfl (.cons (.record rfl (.cons ?_ .nil)) .nil)
    exact .object (.swap _ _ _) rfl (.cons (.same _) (.cons (.same _) .nil))
  refine ⟨b, .fault (.obstructed (.lost .access)), .fault (.obstructed (.noAttribute .absent "get")), hb, hm,
    hreordered, by decide, ?_, ?_, rfl, rfl⟩
  · rw [htypes]
    exact encode_holder (by decide +kernel)
  · rw [htypes]
    exact encode_holder (by decide +kernel)

/-! ### A record that hides a key -/

/-- The type of a record that looks like an open file and may hold another one. -/
def replyType : TypeBinding where
  name := "Reply"
  fields := [⟨"read", "read", .primitive .boolean, true, ""⟩, ⟨"to", "to", .ref "Reply", false, ""⟩]
  variants := []
  description := []

/-- The only type. -/
def replyTypes : Table TypeBinding where
  entries := [("Reply", replyType)]
  nodup := by decide

/-- A number that cannot be written. -/
def longNumber : Int := Nat.pow 10 Number.maxDigits

/-- The refusal of the number as a key is none, for the key cannot be shown. -/
theorem refuseKey_longNumber (e : TypeExpr) :
    Stop.refuseKey e (.int longNumber) = .fault (.unwritable (.tooManyDigits .writing)) := by
  have htext : Number.intText longNumber = .error .writing := if_neg (Nat.lt_irrefl _)
  rw [Stop.refuseKey, Value.keyText, Value.keyLiteral, Value.intLiteral, htext]
  · rfl
  · simp

/-- A record that holds a mapping with two keys. -/
def reply (k l : Key) : Value :=
  .record "Reply" [(⟨"read", "read", true⟩, .bool true), (⟨"to", "to", false⟩, .object [(k, .null), (l, .null)])]

/-- A mapping with undeclared keys is no reply, and so neither is a reply to it. But a reply is also a file. -/
theorem inPlace_reply {k l : Key} (hk : k.isText = false) :
    inPlace replyTypes 1 (.union [.ref "Reply", .primitive .inputFile]) (reply k l) =
      orNext (.error ((Stop.refuseKey (.ref "Reply") k).under (.key "to")))
        (.ok (.file ⟨.record "Reply", "file"⟩)) := by
  have htype : replyTypes.find? "Reply" = some replyType := by cbv
  have hoffered : entriesFor "Reply" (reply k l) =
      .ok [(.text "read", .bool true), (.text "to", .object [(k, .null), (l, .null)])] :=
    entriesFor_eq_ok_iff.2 (.inr ⟨_, rfl, rfl, rfl⟩)
  have hknown : unknownKey? replyType.fields
      [(.text "read", .bool true), (.text "to", .object [(k, .null), (l, .null)])] = none := rfl
  have hstray : unknownKey? replyType.fields [(k, .null), (l, .null)] = some k := by
    cases k with
    | text s => cases hk
    | _ => rfl
  have hinner : inPlace replyTypes replyTypes.size (.ref "Reply") (.object [(k, .null), (l, .null)]) =
      .error (Stop.refuseKey (.ref "Reply") k) := by
    rw [inPlace_concrete htype rfl, show entriesFor "Reply" (.object [(k, .null), (l, .null)]) = .ok _ from rfl]
    dsimp only
    rw [hstray]
  have hread : inPlace replyTypes replyTypes.size (.primitive .boolean) (.bool true) = .ok (.bool true) := by
    rw [inPlace]
    rfl
  have hfields : inPlaceFields replyTypes replyType.fields
      [(.text "read", .bool true), (.text "to", .object [(k, .null), (l, .null)])] =
        .error ((Stop.refuseKey (.ref "Reply") k).under (.key "to")) := by
    have hto : given? [(.text "read", .bool true), (.text "to", .object [(k, .null), (l, .null)])] "to" =
        some (.object [(k, .null), (l, .null)]) := rfl
    rw [replyType, inPlaceFields_cons, show given? _ "read" = some (.bool true) from rfl]
    dsimp only
    rw [hread, inPlaceFields_cons, hto]
    dsimp only
    rw [hinner]
    rfl
  have hreply : inPlace replyTypes 1 (.ref "Reply") (reply k l) =
      .error ((Stop.refuseKey (.ref "Reply") k).under (.key "to")) := by
    rw [inPlace_concrete htype rfl, hoffered]
    dsimp only
    rw [hknown]
    dsimp only
    rw [hfields]
    rfl
  have hfile : inPlace replyTypes 1 (.primitive .inputFile) (reply k l) = .ok (.file ⟨.record "Reply", "file"⟩) := by
    rw [inPlace]
    rfl
  rw [inPlace, inPlaceFirst, inPlaceFirst, hreply, hfile]
  rfl

/-- Where the first undeclared key can be shown, a record that looks like an open file is sent as one. Where it cannot,
the conversion ends. -/
theorem order_tells_reader :
    Reordered (reply .null (.int longNumber)) (reply (.int longNumber) .null) ∧
      inPlace replyTypes 1 (.union [.ref "Reply", .primitive .inputFile]) (reply .null (.int longNumber)) =
        .ok (.file ⟨.record "Reply", "file"⟩) ∧
      inPlace replyTypes 1 (.union [.ref "Reply", .primitive .inputFile]) (reply (.int longNumber) .null) =
        .error (.fault (.unwritable (.tooManyDigits .writing))) := by
  refine ⟨?_, ?_, ?_⟩
  · refine .record rfl (.cons (.same _) (.cons ?_ .nil))
    exact .object (.swap _ _ _) rfl (.cons (.same _) (.cons (.same _) .nil))
  · rw [inPlace_reply rfl]
    rfl
  · rw [inPlace_reply rfl, refuseKey_longNumber]
    rfl

end Request

end BotApi
