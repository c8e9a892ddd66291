import BotApi.Proofs.Request.Faults
import BotApi.Proofs.Response.Faultless
import BotApi.Proofs.Search

/-!
# Conversions end

Decoding and encoding call themselves: at the items of an array, at the options of a union, at the variants of an
abstract type, and at the fields of a record. The value becomes smaller at items and fields only, where the expression
may become larger, for a type may lead back to itself through its fields. At the options and variants the value stays
the same. So no single quantity goes down at every call, but three of them together do: the size of the value, then the
number of types that can still be opened at it, then the size of the expression. This needs that no abstract type leads
back to itself through variants alone.

The bodies of both functions stand here apart from their recursion, as `decoding` and `encoding`. Nested in itself
deeply enough, the body gives the result, whatever is at the bottom: so the calls have ended before they come there.

## Main results

* `Recursion.Ends.of_fixed` — a recursion whose calls go down ends.
* `decode_eq_body`, `convert_eq_body` — the number of openings that decoding and encoding count is of no account.
* `conversions_end` — decoding and encoding end.
-/

namespace BotApi

/-! ## Recursions -/

/-- The order in which the three quantities go down: the first, or else the second, or else the third. -/
def Below : Nat × Nat × Nat → Nat × Nat × Nat → Prop := Prod.Lex (· < ·) (Prod.Lex (· < ·) (· < ·))

theorem wellFounded_below : WellFounded Below :=
  (Prod.lex Nat.lt_wfRel (Prod.lex Nat.lt_wfRel Nat.lt_wfRel)).wf

/-- A function that calls itself: its body, which is given what the function comes to elsewhere, and the arguments at
which the body may call the function. -/
structure Recursion (κ ρ : Type) where
  body : (κ → ρ) → κ → ρ
  calls : κ → List κ

namespace Recursion

variable {κ ρ : Type}

/-- The body nested in itself so many times, with something else at the bottom. -/
def unrolled (r : Recursion κ ρ) (bottom : κ → ρ) : Nat → κ → ρ
  | 0 => bottom
  | depth + 1 => r.body (r.unrolled bottom depth)

/-- What it is for a recursion to end in the values of a function, and for a measure to show it. -/
structure Ends (r : Recursion κ ρ) (measure : κ → Nat × Nat × Nat) (f : κ → ρ) : Prop where
  /-- The measure goes down at every call. -/
  decreases : ∀ k, ∀ next ∈ r.calls k, Below (measure next) (measure k)
  /-- These are all the calls that the body makes. -/
  asks : ∀ g h k, (∀ next ∈ r.calls k, g next = h next) → r.body g k = r.body h k
  /-- From some depth on it makes no difference what is at the bottom. -/
  reaches : ∀ k, ∃ depth, ∀ more bottom, r.unrolled bottom (depth + more) k = f k

variable {r : Recursion κ ρ} {measure : κ → Nat × Nat × Nat} {f : κ → ρ}

/-- What is deep enough for each of finitely many arguments is found for all of them at once. -/
theorem exists_depth {ks : List κ}
    (h : ∀ k ∈ ks, ∃ depth, ∀ more bottom, r.unrolled bottom (depth + more) k = f k) :
    ∃ depth, ∀ k ∈ ks, ∀ more bottom, r.unrolled bottom (depth + more) k = f k := by
  induction ks with
  | nil => exact ⟨0, by simp⟩
  | cons k rest ih =>
    obtain ⟨hfirst, hrest⟩ := List.forall_mem_cons.1 h
    obtain ⟨depth, hdepth⟩ := hfirst
    obtain ⟨depth', hdepth'⟩ := ih hrest
    -- deeper than deep enough is deep enough
    refine ⟨depth + depth', List.forall_mem_cons.2 ⟨fun more bottom => ?_, fun k hk more bottom => ?_⟩⟩
    · rw [Nat.add_assoc]
      exact hdepth _ bottom
    · rw [Nat.add_comm depth, Nat.add_assoc]
      exact hdepth' k hk _ bottom

/-- A recursion whose calls go down ends in the values of any function that it leaves as it is. -/
theorem Ends.of_fixed (decreases : ∀ k, ∀ next ∈ r.calls k, Below (measure next) (measure k))
    (asks : ∀ g h k, (∀ next ∈ r.calls k, g next = h next) → r.body g k = r.body h k)
    (fixed : ∀ k, f k = r.body f k) : r.Ends measure f where
  decreases := decreases
  asks := asks
  reaches := by
    intro k
    induction k using (InvImage.wf measure wellFounded_below).induction with
    | _ k ih =>
      obtain ⟨depth, hdepth⟩ := exists_depth fun next hnext => ih next (decreases k next hnext)
      -- one level more than the calls need
      refine ⟨depth + 1, fun more bottom => ?_⟩
      rw [Nat.add_right_comm, unrolled, fixed k]
      exact asks _ _ k fun next hnext => hdepth next hnext more bottom

end Recursion

/-! ## What goes down -/

/-- How far a conversion still has to go: the size of the value, then the rank of the type in the order of variants,
then the size of the expression. -/
noncomputable def stage (types : Table TypeBinding) (e : TypeExpr) (v : Value) : Nat × Nat × Nat :=
  (v.size, e.rank types, e.size)

section

variable {types : Table TypeBinding} {v w : Value} {e e' : TypeExpr} {options : List TypeExpr}

/-- At a smaller value the expression may be any. -/
theorem below_of_size_lt (h : w.size < v.size) : Below (stage types e' w) (stage types e v) :=
  Prod.Lex.left _ _ h

/-- An item is smaller than the sequence it is in. -/
theorem below_item {items : List Value} (hv : v ∈ items) (hsize : w.size = (Value.list items).size) :
    Below (stage types e' v) (stage types e w) := by
  have hlt : v.size < w.size := by
    have hlt := Value.size_lt_of_mem_items hv
    rw [hsize, Value.size]
    omega
  exact below_of_size_lt hlt

/-- An option has the rank of the union, or a lower one, and is smaller. -/
theorem below_option (he : e ∈ options) : Below (stage types e v) (stage types (.union options) v) := by
  refine Prod.Lex.right _ ?_
  have hsize : e.size < (TypeExpr.union options).size := by
    have hlt := TypeExpr.size_lt_of_mem he
    rw [TypeExpr.size]
    omega
  have hle : e.rank types ≤ (TypeExpr.union options).rank types := TypeExpr.rank_le_of_mem he
  rcases Nat.lt_or_eq_of_le hle with hrank | hrank
  · exact Prod.Lex.left _ _ hrank
  · show Prod.Lex _ _ (e.rank types, e.size) _
    rw [hrank]
    exact Prod.Lex.right _ hsize

/-- A variant has a lower rank, though the expression is no smaller. -/
theorem below_variant (founded : Founded types) {name variant : String} {type : TypeBinding}
    (htype : types.find? name = some type) (hv : variant ∈ type.variants) :
    Below (stage types (.ref variant) v) (stage types (.ref name) v) := by
  refine Prod.Lex.right _ (Prod.Lex.left _ _ ?_)
  rw [TypeExpr.rank, TypeExpr.rank]
  exact variantRank_lt founded ⟨type, htype, hv⟩

end

/-! ## Decoding -/

namespace Response

section

variable (types : Table TypeBinding) (self : TypeExpr × Value → Except Stop Value)

/-- The values of items, where those of single payloads are given. -/
def itemsBy (item : TypeExpr) (i : Nat) : List Value → Except Stop (List Value)
  | [] => .ok []
  | v :: rest => do
    let w ← under (.index i) (self (item, v))
    let ws ← itemsBy item (i + 1) rest
    pure (w :: ws)

/-- The value of a field. -/
def fieldBy (f : FieldBinding) (entries : List (Key × Value)) : Except Stop Value :=
  match Value.get? entries f.wireName with
  | none => if f.required then .error (.mismatch ⟨[], f.type, .nothing⟩) else .ok .absent
  | some .null => if f.required then .error (.refuse f.type .null) else .ok .null
  | some v => self (f.type, v)

/-- The values of fields. -/
def fieldsBy (entries : List (Key × Value)) : List FieldBinding → Except Stop (List (FieldName × Value))
  | [] => .ok []
  | f :: rest => do
    let w ← under (.key f.wireName) (fieldBy self f entries)
    let ws ← fieldsBy entries rest
    pure ((f.names, w) :: ws)

/-- Decoding apart from its recursion. Openings are not counted. -/
def decodeBody : TypeExpr × Value → Except Stop Value
  | (.primitive p, v) => if admits p v then .ok v else .error (refusePrimitive p v)
  | (.array item, .list items) => .tuple <$> itemsBy self item 0 items
  | (.array item, v) => .error (.asked v.accessObstruction? (.refuse (.array item) v))
  | (.union options, v) => firstOf (fun e => self (e, v)) (.refuse (.union options) v) options
  | (.ref name, v) =>
    match types.find? name with
    | none => .error (.fault (.unknownType name))
    | some type =>
      if type.isAbstract then
        firstOf (fun e => self (e, v)) (.refuse (.ref name) v) (type.variants.map .ref)
      else
        match v with
        | .object entries => fieldsBy self entries type.fields >>= makeRecord name type
        | _ => .error (.asked v.classObstruction? (.refuse (.ref name) v))

/-- Where decoding calls itself. -/
def decodeCalls : TypeExpr × Value → List (TypeExpr × Value)
  | (.array item, .list items) => items.map (item, ·)
  | (.union options, v) => options.map (·, v)
  | (.ref name, v) =>
    match types.find? name with
    | none => []
    | some type =>
      if type.isAbstract then type.variants.map (.ref ·, v)
      else
        match v with
        | .object entries => type.fields.filterMap fun f => (Value.get? entries f.wireName).map (f.type, ·)
        | _ => []
  | _ => []

/-- Decoding as a recursion. -/
def decoding : Recursion (TypeExpr × Value) (Except Stop Value) where
  body := decodeBody types
  calls := decodeCalls types

end

section

variable {types : Table TypeBinding} {self other : TypeExpr × Value → Except Stop Value}

theorem itemsBy_congr {item : TypeExpr} {items : List Value} (h : ∀ v ∈ items, self (item, v) = other (item, v))
    (i : Nat) : itemsBy self item i items = itemsBy other item i items := by
  induction items generalizing i with
  | nil => rfl
  | cons v rest ih =>
    obtain ⟨hfirst, hrest⟩ := List.forall_mem_cons.1 h
    rw [itemsBy, itemsBy, hfirst, ih hrest]

theorem fieldBy_congr {f : FieldBinding} {entries : List (Key × Value)}
    (h : ∀ v, Value.get? entries f.wireName = some v → self (f.type, v) = other (f.type, v)) :
    fieldBy self f entries = fieldBy other f entries := by
  unfold fieldBy
  split
  · rfl
  · rfl
  · next v _ hv => exact h v hv

theorem fieldsBy_congr {fields : List FieldBinding} {entries : List (Key × Value)}
    (h : ∀ f ∈ fields, ∀ v, Value.get? entries f.wireName = some v → self (f.type, v) = other (f.type, v)) :
    fieldsBy self entries fields = fieldsBy other entries fields := by
  induction fields with
  | nil => rfl
  | cons f rest ih =>
    obtain ⟨hfirst, hrest⟩ := List.forall_mem_cons.1 h
    rw [fieldsBy, fieldsBy, fieldBy_congr hfirst, ih hrest]

/-- The body of decoding asks for nothing but its calls. -/
theorem decodeBody_congr {k : TypeExpr × Value} (h : ∀ next ∈ decodeCalls types k, self next = other next) :
    decodeBody types self k = decodeBody types other k := by
  unfold decodeCalls at h
  unfold decodeBody
  split
  · rfl
  · next item items =>
    rw [itemsBy_congr (List.forall_mem_map.1 h)]
  · rfl
  · next options v => exact firstOf_congr (List.forall_mem_map.1 h)
  · next name v =>
    dsimp only at h
    split
    · rfl
    · next type htype =>
      rw [htype] at h
      dsimp only at h
      split
      · next ha =>
        rw [if_pos ha] at h
        refine firstOf_congr fun e he => ?_
        obtain ⟨variant, hv, rfl⟩ := List.mem_map.1 he
        exact h _ (List.mem_map_of_mem hv)
      · next ha =>
        rw [if_neg ha] at h
        split
        · next entries =>
          rw [fieldsBy_congr fun f hf v hv => h (f.type, v) (List.mem_filterMap.2 ⟨f, hf, by rw [hv]; rfl⟩)]
        · rfl

/-- Decoding, with all openings. -/
def decodeFully (types : Table TypeBinding) (k : TypeExpr × Value) : Except Stop Value :=
  decode types types.size k.1 k.2

theorem decodeItems_eq_itemsBy (item : TypeExpr) (i : Nat) (items : List Value) :
    decodeItems types item i items = itemsBy (decodeFully types) item i items := by
  induction items generalizing i with
  | nil => rw [decodeItems, itemsBy]
  | cons v rest ih =>
    rw [decodeItems, itemsBy, ih]
    rfl

theorem decodeFields_eq_fieldsBy (fields : List FieldBinding) (entries : List (Key × Value)) :
    decodeFields types fields entries = fieldsBy (decodeFully types) entries fields := by
  induction fields with
  | nil => rw [decodeFields, fieldsBy]
  | cons f rest ih =>
    rw [decodeFields_cons, fieldsBy, ih]
    rfl

theorem decodeFirst_eq_firstOf (opens : Nat) (whole : TypeExpr) (options : List TypeExpr) (v : Value) :
    decodeFirst types opens whole options v =
      firstOf (fun e => decode types opens e v) (.refuse whole v) options := by
  induction options with
  | nil => rw [decodeFirst, firstOf]
  | cons e rest ih =>
    rw [decodeFirst.eq_def, firstOf, ← ih]
    dsimp only
    cases decode types opens e v with
    | ok w => rfl
    | error s => cases s <;> rfl

/-- Openings make no difference where there is room. -/
theorem decode_eq_of_room (founded : Founded types) {m n : Nat} {e : TypeExpr} {v : Value}
    (hm : HasRoom types m e) (hn : HasRoom types n e) : decode types m e v = decode types n e v := by
  induction m, e, v using decode_induction types generalizing n with
  | primitive m r v => rw [decode, decode]
  -- items and fields have all openings on either side
  | list m item vs _ => rw [decode_list, decode_list]
  | notList m item v hv => rw [decode_not_list hv, decode_not_list hv]
  | union m options v ih =>
    rw [decode_union, decode_union, decodeFirst_eq_firstOf, decodeFirst_eq_firstOf]
    exact firstOf_congr fun e he => ih e he (hm.option e) (hn.option e)
  | unknown m name v htype => rw [decode_unknown htype, decode_unknown htype]
  | endless name type v htype ha =>
    obtain ⟨fewer, hopens, -⟩ := hm.variants founded htype
    omega
  | abstract m name type v htype ha ih =>
    -- both have an opening left for each variant
    obtain ⟨fewer, hopens, hroom⟩ := hm.variants founded htype
    obtain ⟨fewer', rfl, hroom'⟩ := hn.variants founded htype
    obtain rfl : m = fewer := by omega
    rw [decode_abstract htype ha, decode_abstract htype ha, decodeFirst_eq_firstOf, decodeFirst_eq_firstOf]
    refine firstOf_congr fun e he => ?_
    obtain ⟨variant, hv, rfl⟩ := List.mem_map.1 he
    exact ih _ he (hroom variant hv) (hroom' variant hv)
  | object m name type entries htype hc _ => rw [decode_object htype hc, decode_object htype hc]
  | notObject m name type v htype hc hv => rw [decode_not_object htype hc hv, decode_not_object htype hc hv]

/-- Decoding is its body, and the openings that it counts are of no account. -/
theorem decode_eq_body (founded : Founded types) (k : TypeExpr × Value) :
    decodeFully types k = decodeBody types (decodeFully types) k := by
  unfold decodeBody
  split
  · rw [decodeFully, decode]
  · rw [decodeFully, decode_list, decodeItems_eq_itemsBy]
  · next item v hv => exact decode_not_list (fun items h => hv items h) ..
  · next options v =>
    rw [decodeFully, decode_union, decodeFirst_eq_firstOf]
    rfl
  · next name v =>
    split
    · next htype => exact decode_unknown htype ..
    · next type htype =>
      split
      · next ha =>
        have hroom : HasRoom types types.size (.ref name) := hasRoom_of_size_le (Nat.le_refl _) _
        obtain ⟨fewer, hopens, hvariants⟩ := hroom.variants founded htype
        show decode types types.size (.ref name) v = _
        rw [decode_eq_of_room founded hroom (hopens ▸ hroom), decode_abstract htype ha, decodeFirst_eq_firstOf]
        refine firstOf_congr fun e he => ?_
        -- after one opening there are still enough of them
        obtain ⟨variant, hv, rfl⟩ := List.mem_map.1 he
        exact decode_eq_of_room founded (hvariants variant hv) (hasRoom_of_size_le (Nat.le_refl _) _)
      · next ha =>
        rw [Bool.not_eq_true] at ha
        split
        · rw [decodeFully, decode_object htype ha, decodeFields_eq_fieldsBy]
        · next hv => exact decode_not_object htype ha hv ..

theorem below_of_mem_decodeCalls (founded : Founded types) {k next : TypeExpr × Value}
    (h : next ∈ decodeCalls types k) : Below (stage types next.1 next.2) (stage types k.1 k.2) := by
  unfold decodeCalls at h
  split at h
  · obtain ⟨v, hv, rfl⟩ := List.mem_map.1 h
    exact below_item hv rfl
  · next options v =>
    obtain ⟨e, he, rfl⟩ := List.mem_map.1 h
    exact below_option he
  · next name v =>
    split at h
    · cases h
    · next type htype =>
      split at h
      · obtain ⟨variant, hv, rfl⟩ := List.mem_map.1 h
        exact below_variant founded htype hv
      · split at h
        · next entries =>
          obtain ⟨f, -, hf⟩ := List.mem_filterMap.1 h
          obtain ⟨v, hv, rfl⟩ := Option.map_eq_some_iff.1 hf
          -- the value under a key is smaller than the mapping
          have hlt : v.size < (Value.object entries).size := by
            have hlt := Value.size_lt_of_lookup hv
            rw [Value.size]
            omega
          exact below_of_size_lt hlt
        · cases h
  · cases h

/-- Decoding ends. -/
theorem decoding_ends (founded : Founded types) :
    (decoding types).Ends (fun k => stage types k.1 k.2) (decodeFully types) :=
  .of_fixed (fun _ _ => below_of_mem_decodeCalls founded) (fun _ _ _ => decodeBody_congr) (decode_eq_body founded)

end

end Response

/-! ## Encoding -/

namespace Request

/-- What an argument is converted by: whether it is the argument itself, the expression, and the value. -/
abbrev Conversion := Bool × TypeExpr × Value

section

variable (types : Table TypeBinding) (self : Conversion → Attaching Value)

/-- The converted items, where the conversions of single values are given. -/
def itemsBy (item : TypeExpr) (i : Nat) : List Value → Attaching (List Value)
  | [] => pure []
  | v :: rest => do
    let first ← Attaching.under (.index i) (self (false, item, v))
    let more ← itemsBy item (i + 1) rest
    pure (first :: more)

/-- The value by the first option that fits. -/
def firstBy (top : Bool) (whole : TypeExpr) (v : Value) : List TypeExpr → Attaching Value
  | [] => throw (.refuseArgument whole v)
  | e :: rest => Attaching.orNext (self (top, e, v)) (firstBy top whole v rest)

/-- The converted fields. -/
def fieldsBy (entries : List (Key × Value)) : List FieldBinding → Attaching (List (Key × Value))
  | [] => pure []
  | f :: rest =>
    match given? entries f.wireName with
    | none =>
      if f.required then throw (.mismatch ⟨[.key f.wireName], f.type, .nothing⟩) else fieldsBy entries rest
    | some v => do
      let first ← Attaching.under (.key f.wireName) (self (false, f.type, v))
      let more ← fieldsBy entries rest
      pure ((.text f.wireName, first) :: more)

/-- Encoding apart from its recursion. Openings are not counted. -/
def convertBody : Conversion → Attaching Value
  | (top, .primitive p, v) => convertPrimitive p top v
  | (_, .array item, .list items) | (_, .array item, .tuple items) => Value.list <$> itemsBy self item 0 items
  | (_, .array item, v) => throw (.asked v.accessObstruction? (.refuseArgument (.array item) v))
  | (top, .union options, v) => firstBy self top (.union options) v options
  | (_, .ref name, v) =>
    match types.find? name with
    | none => throw (.fault (.unknownType name))
    | some type =>
      if type.isAbstract then firstBy self false (.ref name) v (type.variants.map .ref)
      else
        -- a record gives its payload here
        match entriesFor name v with
        | .error stop => throw stop
        | .ok entries =>
          match unknownKey? type.fields entries with
          | some k => throw (.refuseKey (.ref name) k)
          | none => Value.object <$> fieldsBy self entries type.fields

/-- Where encoding calls itself. -/
def convertCalls : Conversion → List Conversion
  | (_, .array item, .list items) | (_, .array item, .tuple items) => items.map (false, item, ·)
  | (top, .union options, v) => options.map (top, ·, v)
  | (_, .ref name, v) =>
    match types.find? name with
    | none => []
    | some type =>
      if type.isAbstract then type.variants.map (false, .ref ·, v)
      else
        match entriesFor name v with
        | .error _ => []
        | .ok entries => type.fields.filterMap fun f => (given? entries f.wireName).map (false, f.type, ·)
  | _ => []

/-- Encoding as a recursion. -/
def encoding : Recursion Conversion (Attaching Value) where
  body := convertBody types
  calls := convertCalls types

end

section

variable {types : Table TypeBinding} {self other : Conversion → Attaching Value}

theorem itemsBy_congr {item : TypeExpr} {items : List Value}
    (h : ∀ v ∈ items, self (false, item, v) = other (false, item, v)) (i : Nat) :
    itemsBy self item i items = itemsBy other item i items := by
  induction items generalizing i with
  | nil => rfl
  | cons v rest ih =>
    obtain ⟨hfirst, hrest⟩ := List.forall_mem_cons.1 h
    rw [itemsBy, itemsBy, hfirst, ih hrest]

theorem firstBy_congr {top : Bool} {whole : TypeExpr} {v : Value} {options : List TypeExpr}
    (h : ∀ e ∈ options, self (top, e, v) = other (top, e, v)) :
    firstBy self top whole v options = firstBy other top whole v options := by
  induction options with
  | nil => rfl
  | cons e rest ih =>
    obtain ⟨hfirst, hrest⟩ := List.forall_mem_cons.1 h
    rw [firstBy, firstBy, hfirst, ih hrest]

theorem fieldsBy_congr {entries : List (Key × Value)} {fields : List FieldBinding}
    (h : ∀ f ∈ fields, ∀ v, given? entries f.wireName = some v → self (false, f.type, v) = other (false, f.type, v)) :
    fieldsBy self entries fields = fieldsBy other entries fields := by
  induction fields with
  | nil => rfl
  | cons f rest ih =>
    obtain ⟨hfirst, hrest⟩ := List.forall_mem_cons.1 h
    rw [fieldsBy, fieldsBy, ih hrest]
    split
    · rfl
    · next v hv => rw [hfirst v hv]

/-- The body of encoding asks for nothing but its calls. -/
theorem convertBody_congr {k : Conversion} (h : ∀ next ∈ convertCalls types k, self next = other next) :
    convertBody types self k = convertBody types other k := by
  unfold convertCalls at h
  unfold convertBody
  split
  · rfl
  · rw [itemsBy_congr (List.forall_mem_map.1 h)]
  · rw [itemsBy_congr (List.forall_mem_map.1 h)]
  · rfl
  · exact firstBy_congr (List.forall_mem_map.1 h)
  · next name v =>
    dsimp only at h
    split
    · rfl
    · next type htype =>
      rw [htype] at h
      dsimp only at h
      split
      · next ha =>
        rw [if_pos ha] at h
        refine firstBy_congr fun e he => ?_
        obtain ⟨variant, hv, rfl⟩ := List.mem_map.1 he
        exact h _ (List.mem_map_of_mem hv)
      · next ha =>
        rw [if_neg ha] at h
        split
        · rfl
        · next entries hentries =>
          rw [hentries] at h
          rw [fieldsBy_congr fun f hf v hv => h (false, f.type, v) (List.mem_filterMap.2 ⟨f, hf, by rw [hv]; rfl⟩)]

/-- Encoding, with all openings. -/
def convertFully (types : Table TypeBinding) (k : Conversion) : Attaching Value :=
  convert types types.size k.1 k.2.1 k.2.2

theorem convertItems_eq_itemsBy (item : TypeExpr) (i : Nat) (items : List Value) :
    convertItems types item i items = itemsBy (convertFully types) item i items := by
  induction items generalizing i with
  | nil => rw [convertItems, itemsBy]
  | cons v rest ih =>
    rw [convertItems, itemsBy, ih]
    rfl

theorem convertFields_eq_fieldsBy (fields : List FieldBinding) (entries : List (Key × Value)) :
    convertFields types fields entries = fieldsBy (convertFully types) entries fields := by
  induction fields with
  | nil => rw [convertFields, fieldsBy]
  | cons f rest ih =>
    rw [convertFields_cons, fieldsBy, ih]
    rfl

theorem convertFirst_eq_firstBy (opens : Nat) (top : Bool) (whole : TypeExpr) (options : List TypeExpr)
    (v : Value) :
    convertFirst types opens top whole options v =
      firstBy (fun k => convert types opens k.1 k.2.1 k.2.2) top whole v options := by
  induction options with
  | nil => rw [convertFirst, firstBy]
  | cons e rest ih => rw [convertFirst, firstBy, ih]

/-- Openings make no difference where there is room. -/
theorem convert_eq_of_room (founded : Founded types) {m n : Nat} {e : TypeExpr} {v : Value} (top : Bool)
    (hm : HasRoom types m e) (hn : HasRoom types n e) : convert types m top e v = convert types n top e v := by
  induction m, e, v using conversion_induction generalizing n top with
  | primitive m p v => rw [convert, convert]
  -- items and fields have all openings on either side
  | array m item v _ => rw [convert.eq_def, convert.eq_def]
  | union m options v ih =>
    rw [convert, convert, convertFirst_eq_firstBy, convertFirst_eq_firstBy]
    exact firstBy_congr fun e he => ih e he top (hm.option e) (hn.option e)
  | ref m name v _ fewer =>
    cases htype : types.find? name with
    | none => rw [convert_unknown htype, convert_unknown htype]
    | some type =>
      cases ha : type.isAbstract with
      | true =>
        -- both have an opening left for each variant
        obtain ⟨rest, rfl, hroom⟩ := hm.variants founded htype
        obtain ⟨rest', rfl, hroom'⟩ := hn.variants founded htype
        rw [convert_abstract htype ha, convert_abstract htype ha, convertFirst_eq_firstBy, convertFirst_eq_firstBy]
        refine firstBy_congr fun e he => ?_
        obtain ⟨variant, hv, rfl⟩ := List.mem_map.1 he
        exact fewer rest (Nat.lt_succ_self rest) _ false (hroom variant hv) (hroom' variant hv)
      | false => rw [convert_concrete htype ha, convert_concrete htype ha]

/-- Encoding is its body, and the openings that it counts are of no account. -/
theorem convert_eq_body (founded : Founded types) (k : Conversion) :
    convertFully types k = convertBody types (convertFully types) k := by
  unfold convertBody
  split
  · rw [convertFully, convert]
  · rw [convertFully, convert, convertItems_eq_itemsBy]
  · rw [convertFully, convert, convertItems_eq_itemsBy]
  · next top item v hlist htuple =>
    rw [convertFully, convert.eq_def]
    cases v with
    | list items => exact (hlist items rfl).elim
    | tuple items => exact (htuple items rfl).elim
    | _ => rfl
  · next options v =>
    rw [convertFully, convert, convertFirst_eq_firstBy]
    rfl
  · next top name v =>
    split
    · next htype => exact convert_unknown htype ..
    · next type htype =>
      split
      · next ha =>
        have hroom : HasRoom types types.size (.ref name) := hasRoom_of_size_le (Nat.le_refl _) _
        obtain ⟨fewer, hopens, hvariants⟩ := hroom.variants founded htype
        show convert types types.size top (.ref name) v = _
        rw [convert_eq_of_room founded top hroom (hopens ▸ hroom), convert_abstract htype ha,
          convertFirst_eq_firstBy]
        refine firstBy_congr fun e he => ?_
        -- after one opening there are still enough of them
        obtain ⟨variant, hv, rfl⟩ := List.mem_map.1 he
        exact convert_eq_of_room founded false (hvariants variant hv) (hasRoom_of_size_le (Nat.le_refl _) _)
      · next ha =>
        rw [Bool.not_eq_true] at ha
        show convert types types.size top (.ref name) v = _
        rw [convert_concrete htype ha]
        cases entriesFor name v with
        | error stop => rfl
        | ok entries =>
          dsimp only
          cases unknownKey? type.fields entries with
          | some k => rfl
          | none => exact congrArg (Value.object <$> ·) (convertFields_eq_fieldsBy type.fields entries)

theorem below_of_mem_convertCalls (founded : Founded types) {k next : Conversion}
    (h : next ∈ convertCalls types k) : Below (stage types next.2.1 next.2.2) (stage types k.2.1 k.2.2) := by
  unfold convertCalls at h
  split at h
  · obtain ⟨v, hv, rfl⟩ := List.mem_map.1 h
    exact below_item hv rfl
  · obtain ⟨v, hv, rfl⟩ := List.mem_map.1 h
    exact below_item hv (by rw [Value.size, Value.size])
  · next options v =>
    obtain ⟨e, he, rfl⟩ := List.mem_map.1 h
    exact below_option he
  · next name v =>
    split at h
    · cases h
    · next type htype =>
      split at h
      · obtain ⟨variant, hv, rfl⟩ := List.mem_map.1 h
        exact below_variant founded htype hv
      · split at h
        · cases h
        · next entries hentries =>
          obtain ⟨f, -, hf⟩ := List.mem_filterMap.1 h
          obtain ⟨w, hw, rfl⟩ := Option.map_eq_some_iff.1 hf
          -- also if the value is a record, of whose payload these are the entries
          have hlt : w.size < v.size := Nat.lt_trans (size_lt_of_given? hw) (sizeEntries_lt_of_entriesFor hentries)
          exact below_of_size_lt hlt
  · cases h

/-- Encoding ends. -/
theorem encoding_ends (founded : Founded types) :
    (encoding types).Ends (fun k => stage types k.2.1 k.2.2) (convertFully types) :=
  .of_fixed (fun _ _ => below_of_mem_convertCalls founded) (fun _ _ _ => convertBody_congr) (convert_eq_body founded)

/-- Encoding does not stop for want of openings. -/
theorem convert_ne_endless (founded : Founded types) (resolved : Resolved types) {e : TypeExpr}
    (closed : Closed types e) (top : Bool) (v : Value) (parts more : List Part) (name : String) :
    convert types types.size top e v parts ≠ .error (.fault (.endless name)) more := by
  intro h
  have hroom : HasRoom types types.size e := hasRoom_of_size_le (Nat.le_refl _) e
  -- no value is the cause of such a fault
  have hspares : Spares (.fault (.endless name)) (inPlace types types.size e v) :=
    inPlace_spares resolved founded hroom closed (Value.throughout_of_forall (fun _ => rfl) v)
  have hrefines := convert_refines types types.size top e v parts
  cases hplace : inPlace types types.size e v with
  | ok r =>
    rw [hplace, h] at hrefines
    cases hrefines
  | error stop =>
    rw [hplace, h] at hrefines
    obtain ⟨_, hstop⟩ := hrefines
    cases hstop
    exact hspares _ hplace rfl

end

end Request

/-- Decoding does not stop for want of openings. -/
theorem Response.decode_ne_endless {types : Table TypeBinding} (founded : Founded types) (resolved : Resolved types)
    {e : TypeExpr} (closed : Closed types e) (v : Value) (name : String) :
    decode types types.size e v ≠ .error (.fault (.endless name)) := by
  intro h
  have hroom : HasRoom types types.size e := hasRoom_of_size_le (Nat.le_refl _) e
  -- what does cause a fault are parts of the value
  rcases exists_cause_of_decode founded resolved hroom closed h with ⟨_, _, _, _, _, _, hfault⟩ | ⟨⟨o, hfault⟩, -⟩
  · cases hfault
  · cases hfault

/-! ## Both conversions -/

/-- By bindings in which no type leads back to itself through variants alone, decoding and encoding end: what goes down
goes down at every call, the calls are all that the bodies ask for, and so deep enough in itself each body gives the
result. Neither stops for want of openings. -/
theorem conversions_end {schema : Schema} {b : Bindings} (hb : (Bindings.build schema).result = .ok b)
    (founded : Founded b.types) :
    (Response.decoding b.types).Ends (fun k => stage b.types k.1 k.2)
        (fun k => Response.decode b.types b.types.size k.1 k.2) ∧
      (Request.encoding b.types).Ends (fun k => stage b.types k.2.1 k.2.2)
        (fun k => Request.convert b.types b.types.size k.1 k.2.1 k.2.2) ∧
      ∀ e, Closed b.types e →
        (∀ v name, Response.decode b.types b.types.size e v ≠ .error (.fault (.endless name))) ∧
          ∀ top v parts more name,
            Request.convert b.types b.types.size top e v parts ≠ .error (.fault (.endless name)) more := by
  have resolved := Bindings.resolved_of_build hb
  refine ⟨Response.decoding_ends founded, Request.encoding_ends founded, fun e closed => ⟨?_, ?_⟩⟩
  · exact Response.decode_ne_endless founded resolved closed
  · exact Request.convert_ne_endless founded resolved closed

/-- A schema of trees: a node is a leaf or a branch, and a branch has nodes below it and may have one above it. -/
def treeSchema : Schema where
  version := none
  releaseDate := none
  changelog := none
  types := .ofList
    [("Node", ⟨"", [], [], ["Leaf", "Branch"], []⟩),
      ("Leaf", ⟨"", [], [⟨"value", ["Integer"], true, ""⟩], [], ["Node"]⟩),
      ("Branch", ⟨"", [], [⟨"below", ["Array of Node"], true, ""⟩, ⟨"above", ["Node"], false, ""⟩], [], ["Node"]⟩)]
  methods := .empty

/-- The types of its bindings. -/
def treeTypes : Table TypeBinding where
  entries :=
    [("Node", ⟨"Node", [], ["Leaf", "Branch"], []⟩),
      ("Leaf", ⟨"Leaf", [⟨"value", "value", .primitive .integer, true, ""⟩], [], []⟩),
      ("Branch",
        ⟨"Branch", [⟨"below", "below", .array (.ref "Node"), true, ""⟩, ⟨"above", "above", .ref "Node", false, ""⟩],
          [], []⟩)]
  nodup := by decide

theorem build_treeSchema : ∃ b, (Bindings.build treeSchema).result = .ok b ∧ b.types = treeTypes := by
  have htypes : (treeSchema.types.map Graph.typeOf).mapM (fun _ node => Bindings.bindType node) =
      .ok treeTypes := eq_ok_of_toOption (by decide +kernel)
  exact ⟨_, Bindings.build_eq_ok (by decide +kernel) htypes, rfl⟩

/-- A leaf and another branch that are below a branch, as a payload. -/
def treesPayload : Value :=
  .list
    [.object [(.text "value", .int 1)],
      .object [(.text "below", .list []), (.text "above", .object [(.text "value", .int 2)])]]

/-- The branch as a record. -/
def tree : Value :=
  let leaf (n : Int) := Value.record "Leaf" [(⟨"value", "value", true⟩, .int n)]
  let branch (below : List Value) (above : Value) :=
    Value.record "Branch" [(⟨"below", "below", true⟩, .tuple below), (⟨"above", "above", false⟩, above)]
  branch [leaf 1, branch [] (leaf 2)] .absent

/-- A branch has nodes as parts and is a node itself, and yet its conversions end. Encoding it as a record goes on with
the parts of its payload. -/
theorem conversions_end_trees :
    ∃ b, (Bindings.build treeSchema).result = .ok b ∧ Founded b.types ∧
      (Response.decoding b.types).Ends (fun k => stage b.types k.1 k.2)
          (fun k => Response.decode b.types b.types.size k.1 k.2) ∧
        (Request.encoding b.types).Ends (fun k => stage b.types k.2.1 k.2.2)
            (fun k => Request.convert b.types b.types.size k.1 k.2.1 k.2.2) ∧
          Response.decode b.types b.types.size (.ref "Node") (.object [(.text "below", treesPayload)]) = .ok tree ∧
            (Request.encoding b.types).calls (true, .ref "Branch", tree) =
              [(false, .array (.ref "Node"), treesPayload)] := by
  obtain ⟨b, hb, htypes⟩ := build_treeSchema
  have founded : Founded b.types := by
    rw [htypes]
    exact founded_of_rank (fun name => if name = "Node" then 1 else 0) (by decide)
  obtain ⟨hdecoding, hencoding, -⟩ := conversions_end hb founded
  refine ⟨b, hb, founded, hdecoding, hencoding, ?_⟩
  rw [htypes]
  exact ⟨by cbv, rfl⟩

end BotApi
