import BotApi.Proofs.Conversion
import BotApi.Proofs.Lists
import BotApi.Proofs.Results
import BotApi.Response.Decode

/-!
# What decoding comes to

How a decoded value arises from its payload, without regard to the options that were tried on the way: a scalar is
itself, an array became a tuple, and a mapping became a record of some type by the fields of that type.

## Main results

* `decodeItems_eq_ok_iff`, `decodeFields_eq_ok_iff`, `decodeFirst_eq_ok_iff` — what the parts of a result are.
* `decode_induction`, `value_induction` — induction along decoding, and along successful decoding.
* `decoded_of_decode` — how whatever was decoded arises from its payload.
-/

namespace BotApi.Response

/-! ## One step of decoding -/

section

variable {types : Table TypeBinding} {opens : Nat} {name : String} {type : TypeBinding} {p v : Value}

theorem decode_primitive_eq_ok_iff {r : Primitive} :
    decode types opens (.primitive r) p = .ok v ↔ admits r p = true ∧ v = p := by
  rw [decode]
  cases admits r p with
  | true => simp [eq_comm]
  | false => simp

theorem decode_list (types : Table TypeBinding) (opens : Nat) (item : TypeExpr) (ps : List Value) :
    decode types opens (.array item) (.list ps) = .tuple <$> decodeItems types item 0 ps := by
  rw [decode]

theorem decode_not_list (hp : ∀ ps, p ≠ .list ps) (types : Table TypeBinding) (opens : Nat) (item : TypeExpr) :
    decode types opens (.array item) p = .error (.asked p.accessObstruction? (.refuse (.array item) p)) := by
  rw [decode.eq_def]
  dsimp only
  split
  · next ps => exact (hp ps rfl).elim
  · rfl

theorem decode_union (types : Table TypeBinding) (opens : Nat) (options : List TypeExpr) (p : Value) :
    decode types opens (.union options) p = decodeFirst types opens (.union options) options p := by
  rw [decode]

theorem decode_unknown (h : types.find? name = none) (opens : Nat) (p : Value) :
    decode types opens (.ref name) p = .error (.fault (.unknownType name)) := by
  rw [decode, h]

theorem decode_endless (h : types.find? name = some type) (ha : type.isAbstract = true) (p : Value) :
    decode types 0 (.ref name) p = .error (.fault (.endless name)) := by
  rw [decode, h]
  simp only [ha, if_true]

theorem decode_abstract (h : types.find? name = some type) (ha : type.isAbstract = true) (opens : Nat)
    (p : Value) :
    decode types (opens + 1) (.ref name) p =
      decodeFirst types opens (.ref name) (type.variants.map .ref) p := by
  rw [decode, h]
  simp only [ha, if_true]

theorem decode_object (h : types.find? name = some type) (hc : type.isAbstract = false) (opens : Nat)
    (entries : List (Key × Value)) :
    decode types opens (.ref name) (.object entries) =
      decodeFields types type.fields entries >>= makeRecord name type := by
  rw [decode, h]
  simp only [hc, Bool.false_eq_true, if_false]

theorem decode_not_object (h : types.find? name = some type) (hc : type.isAbstract = false)
    (hp : ∀ entries, p ≠ .object entries) (opens : Nat) :
    decode types opens (.ref name) p = .error (.asked p.classObstruction? (.refuse (.ref name) p)) := by
  rw [decode.eq_def]
  dsimp only
  rw [h]
  simp only [hc, Bool.false_eq_true, if_false]

end

/-- Induction along decoding: what holds of each expression at a payload if it holds of the options at the same
payload, and of the expressions for the parts at the parts of the payload, holds everywhere. -/
theorem decode_induction (types : Table TypeBinding) {motive : Nat → TypeExpr → Value → Prop}
    (primitive : ∀ opens r p, motive opens (.primitive r) p)
    (list : ∀ opens item ps, (∀ p ∈ ps, motive types.size item p) → motive opens (.array item) (.list ps))
    (notList : ∀ opens item p, (∀ ps, p ≠ .list ps) → motive opens (.array item) p)
    (union : ∀ opens options p, (∀ e ∈ options, motive opens e p) → motive opens (.union options) p)
    (unknown : ∀ opens name p, types.find? name = none → motive opens (.ref name) p)
    (endless : ∀ name type p, types.find? name = some type → type.isAbstract = true → motive 0 (.ref name) p)
    (abstract : ∀ opens name type p, types.find? name = some type → type.isAbstract = true →
      (∀ e ∈ type.variants.map TypeExpr.ref, motive opens e p) → motive (opens + 1) (.ref name) p)
    (object : ∀ opens name type entries, types.find? name = some type → type.isAbstract = false →
      (∀ f ∈ type.fields, ∀ p, Value.get? entries f.wireName = some p → motive types.size f.type p) →
      motive opens (.ref name) (.object entries))
    (notObject : ∀ opens name type p, types.find? name = some type → type.isAbstract = false →
      (∀ entries, p ≠ .object entries) → motive opens (.ref name) p)
    (opens : Nat) (e : TypeExpr) (p : Value) : motive opens e p := by
  induction opens, e, p using conversion_induction with
  | primitive opens r p => exact primitive opens r p
  | array opens item p smaller =>
    cases p with
    | list ps =>
      refine list opens item ps fun p hp => smaller p ?_ types.size item
      -- an item is smaller than the list
      have hlt := Value.size_lt_of_mem_items hp
      rw [Value.size]
      omega
    | _ => exact notList opens item _ (by simp)
  | union opens options p ih => exact union opens options p ih
  | ref opens name p smaller fewer =>
    cases htype : types.find? name with
    | none => exact unknown opens name p htype
    | some type =>
      cases ha : type.isAbstract with
      | true =>
        cases opens with
        | zero => exact endless name type p htype ha
        -- the payload stays the same, but one opening is used up
        | succ opens => exact abstract opens name type p htype ha fun e _ => fewer opens (Nat.lt_succ_self opens) e
      | false =>
        cases p with
        | object entries =>
          refine object opens name type entries htype ha fun f _ p hp => smaller p ?_ types.size f.type
          -- the value under a key is smaller than the mapping
          have hlt := Value.size_lt_of_lookup hp
          rw [Value.size]
          omega
        | _ => exact notObject opens name type _ htype ha (by simp)

theorem eq_mismatch_of_under {step : Step} {s : Stop} {m : Mismatch} (h : s.under step = .mismatch m) :
    ∃ m', s = .mismatch m' := by
  cases s with
  | mismatch m' => exact ⟨m', rfl⟩
  | fault f => cases h

theorem eq_fault_of_under {step : Step} {s : Stop} {f : Fault} (h : s.under step = .fault f) : s = .fault f := by
  cases s with
  | mismatch m => cases h
  | fault f' => exact h

/-! ## Items -/

/-- Decoded items are the decoded payloads, one by one. -/
theorem decodeItems_eq_ok_iff {types : Table TypeBinding} {item : TypeExpr} {i : Nat} {ps vs : List Value} :
    decodeItems types item i ps = .ok vs ↔
      List.Forall₂ (fun p v => decode types types.size item p = .ok v) ps vs := by
  induction ps generalizing i vs with
  | nil => rw [decodeItems, Except.ok.injEq, eq_comm, List.forall₂_nil_left_iff]
  | cons p rest ih =>
    rw [decodeItems, bind_eq_ok_iff, List.forall₂_cons_left_iff]
    constructor
    · rintro ⟨v, hv, h⟩
      obtain ⟨more, hmore, h⟩ := bind_eq_ok_iff.1 h
      cases h
      exact ⟨v, more, mapError_eq_ok_iff.1 hv, ih.1 hmore, rfl⟩
    · rintro ⟨v, more, hv, hmore, rfl⟩
      exact ⟨v, mapError_eq_ok_iff.2 hv, bind_eq_ok_iff.2 ⟨more, ih.2 hmore, rfl⟩⟩

/-- Items fail with one of them. -/
theorem exists_of_decodeItems_eq_error {types : Table TypeBinding} {item : TypeExpr} {i : Nat} {ps : List Value}
    {s : Stop} (h : decodeItems types item i ps = .error s) :
    ∃ p ∈ ps, ∃ s' step, decode types types.size item p = .error s' ∧ s'.under step = s := by
  induction ps generalizing i with
  | nil =>
    rw [decodeItems] at h
    cases h
  | cons p rest ih =>
    rw [decodeItems, bind_eq_error_iff] at h
    rcases h with h | ⟨v, -, h⟩
    -- the first item fails, or one of the others does
    · obtain ⟨s', hs', hs⟩ := mapError_eq_error_iff.1 h
      exact ⟨p, List.mem_cons_self .., s', .index i, hs', hs⟩
    · rcases bind_eq_error_iff.1 h with h | ⟨vs, -, h⟩
      · obtain ⟨p', hp', hrest⟩ := ih h
        exact ⟨p', List.mem_cons_of_mem _ hp', hrest⟩
      · cases h

/-! ## Fields -/

/-- The value of a field in a mapping. -/
def fieldValue (types : Table TypeBinding) (f : FieldBinding) (entries : List (Key × Value)) : Except Stop Value :=
  match Value.get? entries f.wireName with
  | none => if f.required then .error (.mismatch ⟨[], f.type, .nothing⟩) else .ok .absent
  | some .null => if f.required then .error (.refuse f.type .null) else .ok .null
  | some p => decode types types.size f.type p

theorem decodeFields_cons (types : Table TypeBinding) (f : FieldBinding) (rest : List FieldBinding)
    (entries : List (Key × Value)) :
    decodeFields types (f :: rest) entries = (do
      let w ← under (.key f.wireName) (fieldValue types f entries)
      let ws ← decodeFields types rest entries
      pure ((f.names, w) :: ws)) := by
  rw [decodeFields, fieldValue]
  congr 2
  -- the match in decoding keeps the equation that its termination rests on
  split
  · next h => rw [h]
  · next h => rw [h]
  · next p hp h =>
    rw [h]
    cases p with
    | null => exact (hp rfl).elim
    | _ => rfl

/-- Decoded fields are the values of the fields of the type, one by one. -/
theorem decodeFields_eq_ok_iff {types : Table TypeBinding} {declared : List FieldBinding}
    {entries : List (Key × Value)} {fields : List (FieldName × Value)} :
    decodeFields types declared entries = .ok fields ↔
      List.Forall₂ (fun f e => e.1 = f.names ∧ fieldValue types f entries = .ok e.2) declared fields := by
  induction declared generalizing fields with
  | nil => rw [decodeFields, Except.ok.injEq, eq_comm, List.forall₂_nil_left_iff]
  | cons f rest ih =>
    rw [decodeFields_cons, bind_eq_ok_iff, List.forall₂_cons_left_iff]
    constructor
    · rintro ⟨w, hw, h⟩
      obtain ⟨more, hmore, h⟩ := bind_eq_ok_iff.1 h
      cases h
      exact ⟨(f.names, w), more, ⟨rfl, mapError_eq_ok_iff.1 hw⟩, ih.1 hmore, rfl⟩
    · rintro ⟨⟨_, w⟩, more, ⟨rfl, hw⟩, hmore, rfl⟩
      exact ⟨w, mapError_eq_ok_iff.2 hw, bind_eq_ok_iff.2 ⟨more, ih.2 hmore, rfl⟩⟩

/-- Fields fail with one of them. -/
theorem exists_of_decodeFields_eq_error {types : Table TypeBinding} {declared : List FieldBinding}
    {entries : List (Key × Value)} {s : Stop} (h : decodeFields types declared entries = .error s) :
    ∃ f ∈ declared, ∃ s' step, fieldValue types f entries = .error s' ∧ s'.under step = s := by
  induction declared with
  | nil =>
    rw [decodeFields] at h
    cases h
  | cons f rest ih =>
    rw [decodeFields_cons, bind_eq_error_iff] at h
    rcases h with h | ⟨v, -, h⟩
    -- as for items
    · obtain ⟨s', hs', hs⟩ := mapError_eq_error_iff.1 h
      exact ⟨f, List.mem_cons_self .., s', .key f.wireName, hs', hs⟩
    · rcases bind_eq_error_iff.1 h with h | ⟨vs, -, h⟩
      · obtain ⟨f', hf', hrest⟩ := ih h
        exact ⟨f', List.mem_cons_of_mem _ hf', hrest⟩
      · cases h

/-- Decoded fields have the names of the fields of the type. -/
theorem names_of_decodeFields {types : Table TypeBinding} {declared : List FieldBinding}
    {entries : List (Key × Value)} {fields : List (FieldName × Value)}
    (h : decodeFields types declared entries = .ok fields) : fields.map Prod.fst = declared.map (·.names) := by
  have hpairs := decodeFields_eq_ok_iff.1 h
  clear h
  induction hpairs with
  | nil => rfl
  | cons hfirst _ ih => rw [List.map_cons, List.map_cons, hfirst.1, ih]

theorem fieldValue_of_get? {types : Table TypeBinding} {f : FieldBinding} {entries : List (Key × Value)} {p : Value}
    (hget : Value.get? entries f.wireName = some p) (hp : p ≠ .null) :
    fieldValue types f entries = decode types types.size f.type p := by
  rw [fieldValue, hget]
  cases p with
  | null => exact (hp rfl).elim
  | _ => rfl

/-- A field that was decoded was missing, null, or decoded by its type. -/
theorem fieldValue_eq_ok_iff {types : Table TypeBinding} {f : FieldBinding} {entries : List (Key × Value)}
    {w : Value} :
    fieldValue types f entries = .ok w ↔
      (Value.get? entries f.wireName = none ∧ f.required = false ∧ w = .absent) ∨
        (Value.get? entries f.wireName = some .null ∧ f.required = false ∧ w = .null) ∨
          ∃ p, Value.get? entries f.wireName = some p ∧ p ≠ .null ∧ decode types types.size f.type p = .ok w := by
  rw [fieldValue]
  cases hget : Value.get? entries f.wireName with
  | none =>
    cases hr : f.required with
    | true => simp
    | false => simp [eq_comm]
  | some p =>
    cases p with
    | null =>
      cases hr : f.required with
      | true => simp [Stop.refuse]
      | false => simp [eq_comm]
    | _ => simp

/-- A fault of a field is one of its value. -/
theorem exists_of_fieldValue_eq_fault {types : Table TypeBinding} {f : FieldBinding}
    {entries : List (Key × Value)} {fault : Fault} (h : fieldValue types f entries = .error (.fault fault)) :
    ∃ p, Value.get? entries f.wireName = some p ∧ decode types types.size f.type p = .error (.fault fault) := by
  rw [fieldValue] at h
  split at h
  · split at h <;> cases h
  · split at h <;> cases h
  · next p _ hget => exact ⟨p, hget, h⟩

theorem makeRecord_eq_ok_iff {name : String} {type : TypeBinding} {fields : List (FieldName × Value)} {v : Value} :
    makeRecord name type fields = .ok v ↔ type.obstacle? = none ∧ v = .record name fields := by
  rw [makeRecord]
  cases type.obstacle? with
  | none => simp [eq_comm]
  | some f => simp

/-! ## Options -/

/-- Decoding the payload is a mismatch, which sends a union on to its next option. -/
def Refuses (types : Table TypeBinding) (opens : Nat) (e : TypeExpr) (p : Value) : Prop :=
  ∃ m, decode types opens e p = .error (.mismatch m)

theorem not_refuses_of_eq_ok {types : Table TypeBinding} {opens : Nat} {e : TypeExpr} {p v : Value}
    (h : decode types opens e p = .ok v) : ¬ Refuses types opens e p := by
  rintro ⟨m, hm⟩
  rw [h] at hm
  cases hm

section

variable {types : Table TypeBinding} {opens : Nat} {whole : TypeExpr} {options : List TypeExpr} {p : Value}

/-- The result of options is that of the first which is not refused. -/
theorem decodeFirst_eq_ok_iff {v : Value} :
    decodeFirst types opens whole options p = .ok v ↔
      ∃ e, IsFirst (fun e => ¬ Refuses types opens e p) options e ∧ decode types opens e p = .ok v := by
  induction options with
  | nil =>
    rw [decodeFirst]
    simp [IsFirst]
  | cons e rest ih =>
    rw [decodeFirst]
    simp only [IsFirst.cons_iff, not_not]
    constructor
    · intro h
      split at h
      -- the first option is refused, and the result comes from the rest
      · next m hm =>
        obtain ⟨e', hfirst, he'⟩ := ih.1 h
        exact ⟨e', .inr ⟨⟨m, hm⟩, hfirst⟩, he'⟩
      · exact ⟨e, .inl ⟨not_refuses_of_eq_ok h, rfl⟩, h⟩
    · rintro ⟨e', ⟨-, rfl⟩ | ⟨⟨m, hm⟩, hfirst⟩, he'⟩
      · rw [he']
      · rw [hm]
        exact ih.2 ⟨e', hfirst, he'⟩

/-- A mismatch of options is one of each of them. -/
theorem refuses_of_decodeFirst {m : Mismatch} (h : decodeFirst types opens whole options p = .error (.mismatch m)) :
    ∀ e ∈ options, Refuses types opens e p := by
  induction options with
  | nil => simp
  | cons e rest ih =>
    rw [decodeFirst] at h
    split at h
    · next m' hm => exact List.forall_mem_cons.2 ⟨⟨m', hm⟩, ih h⟩
    -- what is no mismatch of the first option does not come out as one
    · next hne => exact (hne m h).elim

/-- A fault of options is one of some of them. -/
theorem exists_of_decodeFirst_eq_fault {f : Fault} (h : decodeFirst types opens whole options p = .error (.fault f)) :
    ∃ e ∈ options, decode types opens e p = .error (.fault f) := by
  induction options with
  | nil =>
    rw [decodeFirst] at h
    cases h
  | cons e rest ih =>
    rw [decodeFirst] at h
    split at h
    · obtain ⟨e', he', hf⟩ := ih h
      exact ⟨e', List.mem_cons_of_mem _ he', hf⟩
    · exact ⟨e, List.mem_cons_self .., h⟩

end

/-! ## Results -/

/-- Whether a value is a text, a number or a truth value. -/
def isScalar : Value → Bool
  | .text _ | .int _ | .float _ | .bool _ => true
  | _ => false

/-- How a value was decoded from a payload, the options apart. -/
inductive Decoded (types : Table TypeBinding) : Value → Value → Prop
  | scalar {v : Value} (scalar : isScalar v = true) : Decoded types v v
  | items {item : TypeExpr} {ps vs : List Value}
      (items : List.Forall₂ (fun p v => decode types types.size item p = .ok v) ps vs) :
      Decoded types (.list ps) (.tuple vs)
  | fields {name : String} {type : TypeBinding} {entries : List (Key × Value)}
      {fields : List (FieldName × Value)} (find : types.find? name = some type)
      (concrete : type.isAbstract = false) (obstacle : type.obstacle? = none)
      (decoded : decodeFields types type.fields entries = .ok fields) :
      Decoded types (.object entries) (.record name fields)

theorem isScalar_of_admits {r : Primitive} {p : Value} (h : admits r p = true) : isScalar p = true := by
  cases r <;> cases p <;> first | rfl | cases h

/-- The fields of a type, if its records can be made, are decoded to a record. -/
theorem decode_object_eq_ok_iff {types : Table TypeBinding} {name : String} {type : TypeBinding}
    (htype : types.find? name = some type) (hc : type.isAbstract = false) {opens : Nat}
    {entries : List (Key × Value)} {v : Value} :
    decode types opens (.ref name) (.object entries) = .ok v ↔
      ∃ fields, decodeFields types type.fields entries = .ok fields ∧ type.obstacle? = none ∧
        v = .record name fields := by
  rw [decode_object htype hc, bind_eq_ok_iff]
  simp only [makeRecord_eq_ok_iff]

/-- Induction along successful decoding: items come from items, a union and an abstract type give the result of the
option that is taken, and a record has the values of its fields. -/
theorem value_induction (types : Table TypeBinding) {motive : Nat → TypeExpr → Value → Value → Prop}
    (primitive : ∀ opens r v, admits r v = true → motive opens (.primitive r) v v)
    (items : ∀ opens item ps vs, List.Forall₂ (fun p v => decode types types.size item p = .ok v) ps vs →
      (∀ p ∈ ps, ∀ v, decode types types.size item p = .ok v → motive types.size item p v) →
      motive opens (.array item) (.list ps) (.tuple vs))
    (option : ∀ opens options e p v, IsFirst (fun e => ¬ Refuses types opens e p) options e →
      decode types opens e p = .ok v → motive opens e p v → motive opens (.union options) p v)
    (variant : ∀ opens name type e p v, types.find? name = some type → type.isAbstract = true →
      IsFirst (fun e => ¬ Refuses types opens e p) (type.variants.map .ref) e → decode types opens e p = .ok v →
      motive opens e p v → motive (opens + 1) (.ref name) p v)
    (fields : ∀ opens name type entries fields, types.find? name = some type → type.isAbstract = false →
      type.obstacle? = none → decodeFields types type.fields entries = .ok fields →
      (∀ f ∈ type.fields, ∀ p v, Value.get? entries f.wireName = some p → decode types types.size f.type p = .ok v →
        motive types.size f.type p v) →
      motive opens (.ref name) (.object entries) (.record name fields))
    {opens : Nat} {e : TypeExpr} {p v : Value} (h : decode types opens e p = .ok v) : motive opens e p v := by
  induction opens, e, p using decode_induction types generalizing v with
  | primitive opens r p =>
    obtain ⟨ha, rfl⟩ := decode_primitive_eq_ok_iff.1 h
    exact primitive opens r v ha
  | list opens item ps ih =>
    rw [decode_list] at h
    obtain ⟨vs, hvs, rfl⟩ := map_eq_ok_iff.1 h
    exact items opens item ps vs (decodeItems_eq_ok_iff.1 hvs) fun p hp v hv => ih p hp hv
  | notList opens item p hp =>
    rw [decode_not_list hp] at h
    cases h
  | union opens options p ih =>
    rw [decode_union] at h
    obtain ⟨e, hfirst, he⟩ := decodeFirst_eq_ok_iff.1 h
    exact option opens options e p v hfirst he (ih e hfirst.mem he)
  | unknown opens name p htype =>
    rw [decode_unknown htype] at h
    cases h
  | endless name type p htype ha =>
    rw [decode_endless htype ha] at h
    cases h
  | abstract opens name type p htype ha ih =>
    rw [decode_abstract htype ha] at h
    obtain ⟨e, hfirst, he⟩ := decodeFirst_eq_ok_iff.1 h
    exact variant opens name type e p v htype ha hfirst he (ih e hfirst.mem he)
  | object opens name type entries htype hc ih =>
    obtain ⟨own, hown, hobstacle, rfl⟩ := (decode_object_eq_ok_iff htype hc).1 h
    exact fields opens name type entries own htype hc hobstacle hown fun f hf p v hp hv => ih f hf p hp hv
  | notObject opens name type p htype hc hp =>
    rw [decode_not_object htype hc hp] at h
    cases h

/-- What was decoded arose in one of these ways, whichever options were taken. -/
theorem decoded_of_decode {types : Table TypeBinding} {opens : Nat} {e : TypeExpr} {p v : Value}
    (h : decode types opens e p = .ok v) : Decoded types p v := by
  refine value_induction types (motive := fun _ _ p v => Decoded types p v)
    ?primitive ?items ?option ?variant ?fields h
  case primitive => exact fun opens r v ha => .scalar (isScalar_of_admits ha)
  case items => exact fun opens item ps vs hitems _ => .items hitems
  case option => exact fun opens options e p v _ _ ih => ih
  case variant => exact fun opens name type e p v _ _ _ _ ih => ih
  case fields =>
    exact fun opens name type entries fields htype hc hobstacle hfields _ => .fields htype hc hobstacle hfields

end BotApi.Response
