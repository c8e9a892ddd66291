import BotApi.Proofs.Conversion
import BotApi.Proofs.Lists
import BotApi.Proofs.Results
import BotApi.Proofs.Value.Payload
import BotApi.Request.Convert

/-!
# Conversion in place

What a conversion comes to, apart from its attachments: each file below the argument stays where it is. A union
and an abstract type take their first option that converts. Nothing is attached, and so nothing has to be taken
back.

`Value.attached` is the way from here to what is sent: the files of a converted value, read depth first, are
numbered one after another, and each gives its place to a reference.
-/

namespace BotApi

namespace Value

mutual

/-- The files in a value, depth first. -/
def files : Value → List InputFile
  | .file f => [f]
  | .list items | .tuple items => filesOfItems items
  | .object entries => filesOfEntries entries
  | .record _ fields => filesOfFields fields
  | .null | .absent | .bool _ | .int _ | .float _ | .text _ | .bytes _ | .bytearray _ | .stream _
  | .foreign _ _ => []

/-- The files in items. -/
def filesOfItems : List Value → List InputFile
  | [] => []
  | v :: rest => files v ++ filesOfItems rest

/-- The files in entries. -/
def filesOfEntries : List (Key × Value) → List InputFile
  | [] => []
  | (_, v) :: rest => files v ++ filesOfEntries rest

/-- The files in fields. -/
def filesOfFields : List (FieldName × Value) → List InputFile
  | [] => []
  | (_, v) :: rest => files v ++ filesOfFields rest

end

mutual

/-- The value with references in the place of its files, of which the first is the attachment after `n`
others. -/
def attached (n : Nat) : Value → Value
  | .file _ => Request.attachmentReference n
  | .list items => .list (attachedItems n items)
  | .tuple items => .tuple (attachedItems n items)
  | .object entries => .object (attachedEntries n entries)
  | .record type fields => .record type (attachedFields n fields)
  | .null => .null
  | .absent => .absent
  | .bool b => .bool b
  | .int i => .int i
  | .float x => .float x
  | .text s => .text s
  | .bytes content => .bytes content
  | .bytearray content => .bytearray content
  | .stream s => .stream s
  | .foreign kind literal => .foreign kind literal

/-- The items with references in the place of their files. -/
def attachedItems (n : Nat) : List Value → List Value
  | [] => []
  | v :: rest => attached n v :: attachedItems (n + (files v).length) rest

/-- The entries with references in the place of their files. -/
def attachedEntries (n : Nat) : List (Key × Value) → List (Key × Value)
  | [] => []
  | (k, v) :: rest => (k, attached n v) :: attachedEntries (n + (files v).length) rest

/-- The fields with references in the place of their files. -/
def attachedFields (n : Nat) : List (FieldName × Value) → List (FieldName × Value)
  | [] => []
  | (f, v) :: rest => (f, attached n v) :: attachedFields (n + (files v).length) rest

end

/-- A converted value as it is sent, after `n` attachments. A file that is the argument itself stays. -/
def sent (top : Bool) (n : Nat) : Value → Value
  | .file f => if top then .file f else Request.attachmentReference n
  | v => v.attached n

/-- The files of a converted value that are attached. -/
def nested (top : Bool) : Value → List InputFile
  | .file f => if top then [] else [f]
  | v => v.files

@[simp] theorem sent_list (top : Bool) (n : Nat) (items : List Value) :
    (Value.list items).sent top n = .list (attachedItems n items) := rfl

@[simp] theorem sent_object (top : Bool) (n : Nat) (entries : List (Key × Value)) :
    (Value.object entries).sent top n = .object (attachedEntries n entries) := rfl

@[simp] theorem nested_list (top : Bool) (items : List Value) :
    (Value.list items).nested top = filesOfItems items := by
  rw [nested, files]
  simp

@[simp] theorem nested_object (top : Bool) (entries : List (Key × Value)) :
    (Value.object entries).nested top = filesOfEntries entries := by
  rw [nested, files]
  simp

theorem sent_false (n : Nat) (v : Value) : v.sent false n = v.attached n := by
  cases v <;> simp [sent, attached]

theorem nested_false (v : Value) : v.nested false = v.files := by
  cases v <;> simp [nested, files]

end Value

namespace Request

/-- A value of a primitive type, in place. -/
def inPlacePrimitive (p : Primitive) (v : Value) : Except Stop Value :=
  if !admits p v then .error (.asked (primitiveObstruction? p v) (.refuseArgument (.primitive p) v))
  else if p = .inputFile then
    match v.toFile? with
    | none => .error (.refuseArgument (.primitive .inputFile) v)
    | some (.error fault) => .error (.fault (namingFault fault))
    | some (.ok f) => .ok (.file f)
  else .ok v

/-- The first result, or the other one if the first is a mismatch. -/
def orNext {α : Type} (x other : Except Stop α) : Except Stop α :=
  match x with
  | .error (.mismatch _) => other
  | result => result

mutual

/-- The converted value with its files in place. -/
def inPlace (types : Table TypeBinding) (opens : Nat) (e : TypeExpr) (v : Value) : Except Stop Value :=
  match e with
  | .primitive p => inPlacePrimitive p v
  | .array item =>
    match v with
    | .list items | .tuple items => Value.list <$> inPlaceItems types item 0 items
    | _ => .error (.asked v.accessObstruction? (.refuseArgument e v))
  | .union options => inPlaceFirst types opens e options v
  | .ref name =>
    match types.find? name with
    | none => .error (.fault (.unknownType name))
    | some type =>
      if type.isAbstract then
        match opens with
        | 0 => .error (.fault (.endless name))
        | opens + 1 => inPlaceFirst types opens e (type.variants.map .ref) v
      else
        match _h : entriesFor name v with
        | .error stop => .error stop
        | .ok entries =>
          match unknownKey? type.fields entries with
          | some k => .error (.refuseKey e k)
          | none => Value.object <$> inPlaceFields types type.fields entries
termination_by (v.size, opens, e.size)
decreasing_by
  · exact Prod.Lex.left _ _ (by simp only [Value.size]; omega)
  · exact Prod.Lex.left _ _ (by simp only [Value.size]; omega)
  · exact Prod.Lex.right _ (Prod.Lex.right _ (by simp only [TypeExpr.size]; omega))
  · exact Prod.Lex.right _ (Prod.Lex.left _ _ (by omega))
  · exact Prod.Lex.left _ _ (sizeEntries_lt_of_entriesFor _h)

/-- The converted items, the first of which has the given index. -/
def inPlaceItems (types : Table TypeBinding) (item : TypeExpr) (i : Nat) (items : List Value) :
    Except Stop (List Value) :=
  match items with
  | [] => .ok []
  | v :: rest => do
    let first ← under (.index i) (inPlace types types.size item v)
    let more ← inPlaceItems types item (i + 1) rest
    pure (first :: more)
termination_by (Value.sizeItems items, 0, 0)
decreasing_by
  · exact Prod.Lex.left _ _ (by simp only [Value.sizeItems]; omega)
  · exact Prod.Lex.left _ _ (by simp only [Value.sizeItems]; omega)

/-- The value by the first option that converts. -/
def inPlaceFirst (types : Table TypeBinding) (opens : Nat) (whole : TypeExpr) (options : List TypeExpr)
    (v : Value) : Except Stop Value :=
  match options with
  | [] => .error (.refuseArgument whole v)
  | e :: rest => orNext (inPlace types opens e v) (inPlaceFirst types opens whole rest v)
termination_by (v.size, opens, TypeExpr.sizeOptions options)
decreasing_by
  · exact Prod.Lex.right _ (Prod.Lex.right _ (by simp only [TypeExpr.sizeOptions]; omega))
  · exact Prod.Lex.right _ (Prod.Lex.right _ (by simp only [TypeExpr.sizeOptions]; omega))

/-- The converted fields of a type from the entries of a mapping, in the order of the type. -/
def inPlaceFields (types : Table TypeBinding) (fields : List FieldBinding) (entries : List (Key × Value)) :
    Except Stop (List (Key × Value)) :=
  match fields with
  | [] => .ok []
  | f :: rest =>
    match _h : given? entries f.wireName with
    | none =>
      if f.required then .error (.mismatch ⟨[.key f.wireName], f.type, .nothing⟩)
      else inPlaceFields types rest entries
    | some v => do
      let first ← under (.key f.wireName) (inPlace types types.size f.type v)
      let more ← inPlaceFields types rest entries
      pure ((.text f.wireName, first) :: more)
termination_by (Value.sizeEntries entries, 0, fields.length)
decreasing_by
  · exact Prod.Lex.right _ (Prod.Lex.right _ (Nat.lt_succ_self _))
  · exact Prod.Lex.left _ _ (size_lt_of_given? _h)
  · exact Prod.Lex.right _ (Prod.Lex.right _ (Nat.lt_succ_self _))

end

/-! ## One step of a conversion

The definitions remember that what they found is smaller. Proofs take one step by these equations, which do
not. -/

section

variable {types : Table TypeBinding} {name : String} {type : TypeBinding}

theorem inPlace_unknown (h : types.find? name = none) (opens : Nat) (v : Value) :
    inPlace types opens (.ref name) v = .error (.fault (.unknownType name)) := by
  rw [inPlace, h]

theorem inPlace_endless (h : types.find? name = some type) (ha : type.isAbstract = true) (v : Value) :
    inPlace types 0 (.ref name) v = .error (.fault (.endless name)) := by
  rw [inPlace, h]
  simp only [ha, if_true]

theorem inPlace_abstract (h : types.find? name = some type) (ha : type.isAbstract = true) (opens : Nat)
    (v : Value) :
    inPlace types (opens + 1) (.ref name) v =
      inPlaceFirst types opens (.ref name) (type.variants.map .ref) v := by
  rw [inPlace, h]
  simp only [ha, if_true]

theorem inPlace_concrete (h : types.find? name = some type) (hc : type.isAbstract = false) (opens : Nat)
    (v : Value) :
    inPlace types opens (.ref name) v =
      match entriesFor name v with
      | .error stop => .error stop
      | .ok entries =>
        match unknownKey? type.fields entries with
        | some k => .error (.refuseKey (.ref name) k)
        | none => Value.object <$> inPlaceFields types type.fields entries := by
  rw [inPlace, h]
  simp only [hc, Bool.false_eq_true, if_false]
  split <;> rename_i he <;> rw [he]

end

theorem inPlaceFields_cons (types : Table TypeBinding) (f : FieldBinding) (rest : List FieldBinding)
    (entries : List (Key × Value)) :
    inPlaceFields types (f :: rest) entries =
      match given? entries f.wireName with
      | none =>
        if f.required then .error (.mismatch ⟨[.key f.wireName], f.type, .nothing⟩)
        else inPlaceFields types rest entries
      | some v => (do
          let first ← under (.key f.wireName) (inPlace types types.size f.type v)
          let more ← inPlaceFields types rest entries
          pure ((.text f.wireName, first) :: more)) := by
  rw [inPlaceFields]
  split <;> rename_i h <;> rw [h]

/-! ## Results -/

/-- A type takes entries from a mapping, and the payload of its own records. -/
theorem entriesFor_eq_ok_iff {name : String} {v : Value} {entries : List (Key × Value)} :
    entriesFor name v = .ok entries ↔
      v = .object entries ∨
        ∃ fields, v = .record name fields ∧ Value.lacks .typeName fields = false ∧
          v.payload? = .ok (.object entries) := by
  cases v with
  | object own => simp [entriesFor]
  | record other fields =>
    rw [entriesFor]
    constructor
    · intro h
      split at h
      · cases h
      · next hn =>
        -- the record is of the type and knows it
        rw [Bool.or_eq_true, decide_eq_true_eq, not_or, Decidable.not_not, Bool.not_eq_true] at hn
        obtain ⟨rfl, hlacks⟩ := hn
        split at h
        · cases h
        · next hp =>
          cases h
          exact .inr ⟨fields, rfl, hlacks, hp⟩
        · cases h
    · rintro (h | ⟨own, h, hlacks, hp⟩)
      · cases h
      · cases h
        rw [hlacks, hp]
        simp
  | _ => simp [entriesFor]

/-- What passes from each value to its payload passes to what a value offers to a type. -/
theorem throughout_of_entriesFor {test : Value → Bool} (hnode : ∀ v, test v = true → test v.payload = true)
    {name : String} {v : Value} {entries : List (Key × Value)} (hv : v.throughout test = true)
    (h : entriesFor name v = .ok entries) : (Value.object entries).throughout test = true := by
  rcases entriesFor_eq_ok_iff.1 h with rfl | ⟨fields, rfl, -, hp⟩
  · exact hv
  · rw [Value.eq_payload_of_payload? hp]
    exact Value.throughout_payload hnode _ hv

/-- What holds throughout a mapping holds throughout what is given under a key. -/
theorem throughout_of_given? {test : Value → Bool} {entries : List (Key × Value)} {key : String} {v : Value}
    (h : (Value.object entries).throughout test = true) (hv : given? entries key = some v) :
    v.throughout test = true :=
  Value.throughout_of_lookup h (Option.filter_eq_some_iff.1 hv).1

/-- No key is unknown if each is that of a field. -/
theorem unknownKey?_eq_none_iff {fields : List FieldBinding} {entries : List (Key × Value)} :
    unknownKey? fields entries = none ↔ ∀ e ∈ entries, ∃ f ∈ fields, .text f.wireName = e.1 := by
  rw [unknownKey?, List.find?_eq_none, List.forall_mem_map]
  refine forall₂_congr fun e _ => ?_
  rw [Bool.not_eq_true, Bool.not_eq_false', List.any_eq_true]
  simp only [decide_eq_true_eq]

theorem orNext_eq_ok_iff {α : Type} {x other : Except Stop α} {a : α} :
    orNext x other = .ok a ↔ x = .ok a ∨ (∃ m, x = .error (.mismatch m)) ∧ other = .ok a := by
  cases x with
  | ok b => simp [orNext]
  | error stop => cases stop <;> simp [orNext]

/-- The result of a list of options is that of one of them. -/
theorem exists_mem_of_inPlaceFirst {types : Table TypeBinding} {opens : Nat} {whole : TypeExpr}
    {options : List TypeExpr} {v r : Value} (h : inPlaceFirst types opens whole options v = .ok r) :
    ∃ e ∈ options, inPlace types opens e v = .ok r := by
  induction options with
  | nil =>
    rw [inPlaceFirst] at h
    cases h
  | cons e rest ih =>
    rw [inPlaceFirst, orNext_eq_ok_iff] at h
    rcases h with hx | ⟨-, hr⟩
    · exact ⟨e, List.mem_cons_self .., hx⟩
    · obtain ⟨e', he', hx⟩ := ih hr
      exact ⟨e', List.mem_cons_of_mem _ he', hx⟩

/-- Converted items are those of the items one by one. -/
theorem inPlaceItems_eq_ok_iff {types : Table TypeBinding} {item : TypeExpr} {i : Nat} {items out : List Value} :
    inPlaceItems types item i items = .ok out ↔
      List.Forall₂ (fun v r => inPlace types types.size item v = .ok r) items out := by
  induction items generalizing i out with
  | nil => rw [inPlaceItems, Except.ok.injEq, eq_comm, List.forall₂_nil_left_iff]
  | cons v rest ih =>
    rw [inPlaceItems, bind_eq_ok_iff, List.forall₂_cons_left_iff]
    constructor
    · rintro ⟨first, hfirst, h⟩
      obtain ⟨more, hmore, h⟩ := bind_eq_ok_iff.1 h
      cases h
      exact ⟨first, more, mapError_eq_ok_iff.1 hfirst, ih.1 hmore, rfl⟩
    · rintro ⟨first, more, hfirst, hmore, rfl⟩
      exact ⟨first, mapError_eq_ok_iff.2 hfirst, bind_eq_ok_iff.2 ⟨more, ih.2 hmore, rfl⟩⟩

/-- Each converted field comes from a field of the type that was given. -/
theorem exists_of_mem_inPlaceFields {types : Table TypeBinding} {fields : List FieldBinding}
    {entries out : List (Key × Value)} (h : inPlaceFields types fields entries = .ok out) {k : Key} {r : Value}
    (hm : (k, r) ∈ out) :
    ∃ f ∈ fields, k = .text f.wireName ∧
      ∃ v, given? entries f.wireName = some v ∧ inPlace types types.size f.type v = .ok r := by
  induction fields generalizing out with
  | nil =>
    rw [inPlaceFields] at h
    cases h
    cases hm
  | cons f rest ih =>
    -- what comes from a later field
    have hrest : ∀ more, inPlaceFields types rest entries = .ok more → (k, r) ∈ more → ∃ f' ∈ f :: rest,
        k = .text f'.wireName ∧
          ∃ v, given? entries f'.wireName = some v ∧ inPlace types types.size f'.type v = .ok r := by
      intro more hmore hm
      obtain ⟨f', hf', hfound⟩ := ih hmore hm
      exact ⟨f', List.mem_cons_of_mem _ hf', hfound⟩
    rw [inPlaceFields_cons] at h
    split at h
    · split at h
      · cases h
      · exact hrest out h hm
    · next v hv =>
      obtain ⟨first, hfirst, h⟩ := bind_eq_ok_iff.1 h
      obtain ⟨more, hmore, h⟩ := bind_eq_ok_iff.1 h
      cases h
      rcases List.mem_cons.1 hm with he | hm
      · obtain ⟨rfl, rfl⟩ := Prod.mk.inj he
        exact ⟨f, List.mem_cons_self .., rfl, v, hv, mapError_eq_ok_iff.1 hfirst⟩
      · exact hrest more hmore hm

/-- Induction along successful conversions: items come from items, an option and a variant give their own result,
and a concrete type takes the entries of a value one by one. -/
theorem inPlace_induction (types : Table TypeBinding) {motive : TypeExpr → Value → Value → Prop}
    (primitive : ∀ p v r, inPlacePrimitive p v = .ok r → motive (.primitive p) v r)
    (items : ∀ item v items out, v = .list items ∨ v = .tuple items →
      List.Forall₂ (fun w r => inPlace types types.size item w = .ok r) items out →
      (∀ w ∈ items, ∀ r, inPlace types types.size item w = .ok r → motive item w r) →
      motive (.array item) v (.list out))
    (option : ∀ options e v r, e ∈ options → motive e v r → motive (.union options) v r)
    (variant : ∀ name type e v r, types.find? name = some type → e ∈ type.variants.map TypeExpr.ref →
      motive e v r → motive (.ref name) v r)
    (entries : ∀ name type v entries out, types.find? name = some type → type.isAbstract = false →
      entriesFor name v = .ok entries → unknownKey? type.fields entries = none →
      inPlaceFields types type.fields entries = .ok out →
      (∀ (f : FieldBinding) w r, given? entries f.wireName = some w → inPlace types types.size f.type w = .ok r →
        motive f.type w r) →
      motive (.ref name) v (.object out))
    {opens : Nat} {e : TypeExpr} {v r : Value} (h : inPlace types opens e v = .ok r) : motive e v r := by
  induction opens, e, v using conversion_induction generalizing r with
  | primitive opens p v =>
    rw [inPlace] at h
    exact primitive p v r h
  | array opens item v smaller =>
    -- a list and a tuple convert alike
    have hitems : ∀ given out, v = .list given ∨ v = .tuple given → Value.sizeItems given < v.size →
        inPlaceItems types item 0 given = .ok out → motive (.array item) v (.list out) := by
      intro given out hv hsize hout
      refine items item v given out hv (inPlaceItems_eq_ok_iff.1 hout) fun w hw r hr => ?_
      have hlt := Value.size_lt_of_mem_items hw
      exact smaller w (by omega) types.size item hr
    rw [inPlace.eq_def] at h
    cases v with
    | list given =>
      obtain ⟨out, hout, rfl⟩ := map_eq_ok_iff.1 h
      exact hitems given out (.inl rfl) (by rw [Value.size]; omega) hout
    | tuple given =>
      obtain ⟨out, hout, rfl⟩ := map_eq_ok_iff.1 h
      exact hitems given out (.inr rfl) (by rw [Value.size]; omega) hout
    | _ => cases h
  | union opens options v ih =>
    rw [inPlace] at h
    obtain ⟨e, he, hx⟩ := exists_mem_of_inPlaceFirst h
    exact option options e v r he (ih e he hx)
  | ref opens name v smaller fewer =>
    cases htype : types.find? name with
    | none =>
      rw [inPlace_unknown htype] at h
      cases h
    | some type =>
      cases ha : type.isAbstract with
      | true =>
        cases opens with
        | zero =>
          rw [inPlace_endless htype ha] at h
          cases h
        | succ opens =>
          rw [inPlace_abstract htype ha] at h
          obtain ⟨e, he, hx⟩ := exists_mem_of_inPlaceFirst h
          exact variant name type e v r htype he (fewer opens (Nat.lt_succ_self opens) e hx)
      | false =>
        rw [inPlace_concrete htype ha] at h
        split at h
        · cases h
        · next own hentries =>
          split at h
          · cases h
          · next hknown =>
            obtain ⟨out, hout, rfl⟩ := map_eq_ok_iff.1 h
            refine entries name type v own out htype ha hentries hknown hout fun f w r hw hr => ?_
            -- a field of what the value offers is smaller than the value
            have hlt := Nat.lt_trans (size_lt_of_given? hw) (sizeEntries_lt_of_entriesFor hentries)
            exact smaller w hlt types.size f.type hr

/-- What a named type converts to is a mapping, and never a file. -/
theorem exists_object_of_inPlace_ref {types : Table TypeBinding} {v r : Value} {opens : Nat} {name : String}
    (h : inPlace types opens (.ref name) v = .ok r) : ∃ entries, r = .object entries := by
  refine inPlace_induction types
    (motive := fun e _ r => (∃ name, e = .ref name) → ∃ entries, r = .object entries)
    ?primitive ?items ?option ?variant ?entries h ⟨name, rfl⟩
  case primitive =>
    rintro p v r - ⟨name, he⟩
    cases he
  case items =>
    rintro item v items out - - - ⟨name, he⟩
    cases he
  case option =>
    rintro options e v r - - ⟨name, he⟩
    cases he
  case variant =>
    -- variants are named types themselves
    intro name type e v r _ he ih _
    obtain ⟨variant, -, rfl⟩ := List.mem_map.1 he
    exact ih ⟨variant, rfl⟩
  case entries => exact fun name type v entries out _ _ _ _ _ _ _ => ⟨out, rfl⟩

end Request

end BotApi
