import BotApi.Proofs.Response.Agreement
import BotApi.Proofs.Response.Levels
import BotApi.Proofs.Value.Lookup
import Mathlib

/-!
# Payloads with more in them

A newer version of an API sends more than the types say. Decoding two payloads, of which one has further entries in its
mappings under keys that no type declares, runs through the same options and fields, looks up the same keys, and ends in
the same way. Only remarks see the further keys. They make a difference where a mapping has had keys that are no texts
all along: these can no longer be put in order with the further ones.

## Main results

* `Extends.watched` — decoding with remarks, where a payload is extended.
* `unknown_keys_change_nothing` — the same for payloads, for responses, and for objects without an envelope.
* `unknown_key_breaks_decoding` — a further key may keep a payload from being decoded.
-/

namespace BotApi.Response

open Request (orNext)

/-! ## Further entries -/

/-- Whether a key is a text that no type declares. -/
def IsUnknown (types : Table TypeBinding) (k : Key) : Prop := ∃ key, k = .text key ∧ ¬ Declares types key

/-- Whether entries are other ones with further entries among them. The values of those that were there are related. -/
inductive Interspersed (further : Key → Prop) (R : Value → Value → Prop) :
    List (Key × Value) → List (Key × Value) → Prop
  | nil : Interspersed further R [] []
  | kept {k : Key} {p q : Value} {entries others : List (Key × Value)} (same : R p q)
      (rest : Interspersed further R entries others) : Interspersed further R ((k, p) :: entries) ((k, q) :: others)
  | added {k : Key} {v : Value} {entries others : List (Key × Value)} (new : further k)
      (rest : Interspersed further R entries others) : Interspersed further R entries ((k, v) :: others)

/-- Whether a payload is another one with further entries in its mappings, at any depth, whose keys are texts that no
type declares. -/
inductive Extends (types : Table TypeBinding) : Value → Value → Prop
  | same (p : Value) : Extends types p p
  | list {ps qs : List Value} (each : List.Forall₂ (Extends types) ps qs) : Extends types (.list ps) (.list qs)
  | tuple {ps qs : List Value} (each : List.Forall₂ (Extends types) ps qs) : Extends types (.tuple ps) (.tuple qs)
  | object {entries others : List (Key × Value)}
      (each : Interspersed (IsUnknown types) (Extends types) entries others) :
      Extends types (.object entries) (.object others)
  | record {type : String} {fields others : List (FieldName × Value)}
      (names : fields.map Prod.fst = others.map Prod.fst)
      (each : List.Forall₂ (Extends types) (fields.map Prod.snd) (others.map Prod.snd)) :
      Extends types (.record type fields) (.record type others)

namespace Interspersed

variable {types : Table TypeBinding} {R : Value → Value → Prop} {entries others : List (Key × Value)}

/-- Under a key that a type declares there is the value that was there. -/
theorem get?_cases (h : Interspersed (IsUnknown types) R entries others) {key : String} (hkey : Declares types key) :
    (Value.get? entries key = none ∧ Value.get? others key = none) ∨
      ∃ p q, Value.get? entries key = some p ∧ Value.get? others key = some q ∧ R p q := by
  induction h with
  | nil => exact .inl ⟨rfl, rfl⟩
  | @kept k p q entries others same rest ih =>
    rw [Value.get?_cons, Value.get?_cons]
    split
    · exact .inr ⟨p, q, rfl, rfl, same⟩
    · exact ih
  | @added k v entries others new rest ih =>
    -- a further key is none that a type declares
    rw [Value.get?_cons, if_neg]
    · exact ih
    · rintro rfl
      obtain ⟨_, hsame, hnot⟩ := new
      cases hsame
      exact hnot hkey

/-- The keys that were there are still there. -/
theorem keys_sublist (h : Interspersed (IsUnknown types) R entries others) :
    (entries.map Prod.fst).Sublist (others.map Prod.fst) := by
  induction h with
  | nil => exact .slnil
  | kept _ _ ih => exact ih.cons_cons _
  | added _ _ ih => exact ih.cons _

/-- What was not there is a text. -/
theorem mem_or_isText (h : Interspersed (IsUnknown types) R entries others) {k : Key}
    (hk : k ∈ others.map Prod.fst) : k ∈ entries.map Prod.fst ∨ k.isText = true := by
  induction h with
  | nil => cases hk
  | kept _ _ ih =>
    rw [List.map_cons, List.mem_cons] at hk ⊢
    rcases hk with rfl | hk
    · exact .inl (.inl rfl)
    · exact (ih hk).imp_left .inr
  | added new _ ih =>
    rw [List.map_cons, List.mem_cons] at hk
    rcases hk with rfl | hk
    · obtain ⟨key, hkey, -⟩ := new
      rw [show k = .text key from hkey]
      exact .inr rfl
    · exact ih hk

end Interspersed

/-! ## Results that are kept -/

section

variable {α : Type} {fault : Fault} {cause : Prop} {x y x' y' : Except Stop α}

theorem under_kept (step : Step) (h : KeptUnless (.fault fault) cause x y) :
    KeptUnless (.fault fault) cause (under step x) (under step y) := by
  rcases h with rfl | ⟨rfl, hcause⟩
  · exact .refl _
  · exact .inr ⟨rfl, hcause⟩

/-- A fault of an option is one of the options. -/
theorem orNext_kept (h : KeptUnless (.fault fault) cause x y) (h' : KeptUnless (.fault fault) cause x' y') :
    KeptUnless (.fault fault) cause (orNext x x') (orNext y y') := by
  rcases h with rfl | ⟨rfl, hcause⟩
  · cases y with
    | ok a => exact .refl _
    | error s =>
      cases s with
      -- a mismatch leaves it to the options that follow
      | mismatch m => exact h'
      | fault f => exact .refl _
  · exact .inr ⟨rfl, hcause⟩

theorem firstOf_kept {out out' : TypeExpr → Except Stop α} {refusal : Stop} {options : List TypeExpr}
    (h : ∀ e ∈ options, KeptUnless (.fault fault) cause (out e) (out' e)) :
    KeptUnless (.fault fault) cause (firstOf out refusal options) (firstOf out' refusal options) := by
  induction options with
  | nil => exact .refl _
  | cons e rest ih =>
    obtain ⟨hfirst, hrest⟩ := List.forall_mem_cons.1 h
    exact orNext_kept hfirst (ih hrest)

end

/-! ## Decoding what was extended -/

namespace Extends

variable {types : Table TypeBinding} {p q : Value}

theorem kind_eq (h : Extends types p q) : q.kind = p.kind := by
  cases h <;> rfl

theorem accessObstruction?_eq (h : Extends types p q) : q.accessObstruction? = p.accessObstruction? := by
  cases h with
  | record names each => rw [Value.accessObstruction?, Value.accessObstruction?, Value.lacks_eq names]
  | _ => rfl

theorem classObstruction?_eq (h : Extends types p q) : q.classObstruction? = p.classObstruction? := by
  cases h with
  | @record type fields others names each =>
    -- what stands in for the class of a record is extended with it
    have hstandIn : Option.Rel (Extends types) (Value.standIn? fields) (Value.standIn? others) :=
      Value.field?_rel (forall₂_paired_iff.2 ⟨names, each⟩) "__class__"
    rw [Value.classObstruction?, Value.classObstruction?, Value.lacks_eq names]
    generalize Value.standIn? fields = standIn, Value.standIn? others = other at hstandIn ⊢
    cases hstandIn with
    | none => rfl
    | some hpq => cases hpq <;> rfl
  | _ => rfl

theorem refuse_eq (h : Extends types p q) (e : TypeExpr) : Stop.refuse e q = Stop.refuse e p := by
  rw [Stop.refuse, Stop.refuse, h.kind_eq]

end Extends

/-- Whether remarks may find keys in a payload that are no texts. -/
def Exposed (strict : Bool) (p : Value) : Prop := strict = true ∧ p.throughout hasTextKeys = false

theorem Exposed.of_parts {strict : Bool} {p q : Value} (h : Exposed strict p) (hparts : p.parts ⊆ q.parts) :
    Exposed strict q := by
  obtain ⟨hstrict, hkeys⟩ := h
  obtain ⟨w, hw, hno⟩ := Value.throughout_eq_false_iff.1 hkeys
  exact ⟨hstrict, Value.throughout_eq_false_iff.2 ⟨w, hparts hw, hno⟩⟩

section

variable {strict : Bool} {types : Table TypeBinding} {cause : Prop}

/-- The remark on a mapping can be made as before, unless some of its keys are no texts. -/
theorem heeding_undeclared {α : Type} {entries others : List (Key × Value)}
    (each : Interspersed (IsUnknown types) (Extends types) entries others) (fields : List FieldBinding)
    (x : Except Stop α) :
    KeptUnless (.fault .unorderedKeys) (Exposed strict (.object entries))
      (heeding strict [⟨[], undeclared fields entries⟩] x) (heeding strict [⟨[], undeclared fields others⟩] x) := by
  have hmake : ∀ entries : List (Key × Value),
      canMake [⟨[], undeclared fields entries⟩] = (sortedKeys (undeclared fields entries)).isSome := by
    intro entries
    exact Bool.and_true _
  rw [heeding, heeding, hmake, hmake]
  cases strict with
  | false => exact .refl _
  | true =>
    cases hothers : (sortedKeys (undeclared fields others)).isSome with
    | true =>
      -- fewer keys have an order if more have
      have hsublist : (undeclared fields entries).Sublist (undeclared fields others) := each.keys_sublist.filter _
      rw [isSome_sortedKeys_of_sublist hsublist hothers]
      exact .refl _
    | false =>
      cases hentries : (sortedKeys (undeclared fields entries)).isSome with
      | false => exact .refl _
      | true =>
        refine .inr ⟨rfl, rfl, ?_⟩
        -- texts among texts could be put in order
        rw [← Bool.not_eq_true]
        intro htexts
        have hkeys : ∀ k ∈ undeclared fields others, k.isText = true := by
          refine isText_of_mem_undeclared ?_
          refine List.all_eq_true.2 fun e he => ?_
          rcases each.mem_or_isText (List.mem_map_of_mem he) with hk | hk
          · obtain ⟨e', he', hsame⟩ := List.mem_map.1 hk
            rw [← hsame]
            exact List.all_eq_true.1 (Value.holds_of_throughout htexts) e' he'
          · exact hk
        rw [isSome_sortedKeys hkeys] at hothers
        cases hothers

theorem watchedItems_kept {item : TypeExpr} {ps qs : List Value} (each : List.Forall₂ (Extends types) ps qs)
    (hitem : ∀ p ∈ ps, ∀ q, Extends types p q →
      KeptUnless (.fault .unorderedKeys) cause
        (watched strict types types.size item p) (watched strict types types.size item q)) (i : Nat) :
    KeptUnless (.fault .unorderedKeys) cause
      (watchedItems strict types item i ps) (watchedItems strict types item i qs) := by
  induction each generalizing i with
  | nil => exact .refl _
  | @cons p q ps qs same _ ih =>
    obtain ⟨hfirst, hrest⟩ := List.forall_mem_cons.1 hitem
    rw [watchedItems_cons, watchedItems_cons]
    exact (under_kept _ (hfirst q same)).bind fun v => (ih hrest (i + 1)).bind fun vs => .refl _

theorem watchedValue_kept {f : FieldBinding} {entries others : List (Key × Value)} (hkey : Declares types f.wireName)
    (each : Interspersed (IsUnknown types) (Extends types) entries others)
    (hvalue : ∀ p, Value.get? entries f.wireName = some p → ∀ q, Extends types p q →
      KeptUnless (.fault .unorderedKeys) cause
        (watched strict types types.size f.type p) (watched strict types types.size f.type q)) :
    KeptUnless (.fault .unorderedKeys) cause
      (watchedValue strict types f entries) (watchedValue strict types f others) := by
  rcases each.get?_cases hkey with ⟨hp, hq⟩ | ⟨p, q, hp, hq, same⟩
  · rw [watchedValue, watchedValue, hp, hq]
    exact .refl _
  · have hkept := hvalue p hp q same
    rw [watchedValue, watchedValue, hp, hq]
    -- only null extends null
    cases p with
    | null =>
      cases same
      exact .refl _
    | _ => cases same <;> exact hkept

theorem watchedFields_kept {fields : List FieldBinding} {entries others : List (Key × Value)}
    (hfields : ∀ f ∈ fields,
      KeptUnless (.fault .unorderedKeys) cause
        (watchedValue strict types f entries) (watchedValue strict types f others)) :
    KeptUnless (.fault .unorderedKeys) cause
      (watchedFields strict types fields entries) (watchedFields strict types fields others) := by
  induction fields with
  | nil => exact .inl (by rw [watchedFields_nil, watchedFields_nil])
  | cons f rest ih =>
    obtain ⟨hfirst, hrest⟩ := List.forall_mem_cons.1 hfields
    rw [watchedFields_cons, watchedFields_cons]
    exact (under_kept _ hfirst).bind fun w => (ih hrest).bind fun ws => .refl _

end

namespace Extends

variable {types : Table TypeBinding} {p q : Value}

/-- What was extended has parts, and so it is of no primitive type. -/
theorem watched_primitive (h : Extends types p q) (strict : Bool) (opens : Nat) (r : Primitive) :
    watched strict types opens (.primitive r) q = watched strict types opens (.primitive r) p := by
  have hadmits : admits r q = admits r p ∧ (admits r p = true → q = p) := by
    cases h with
    | same => exact ⟨rfl, fun _ => rfl⟩
    | _ => cases r <;> exact ⟨rfl, fun h => by cases h⟩
  rw [Response.watched_primitive, Response.watched_primitive, refusePrimitive, refusePrimitive, hadmits.1,
    h.accessObstruction?_eq, h.refuse_eq]
  split
  · next ha => rw [hadmits.2 ha]
  · rfl

/-- Decoding an extended payload comes to the same, unless remarks find keys that have no order. -/
theorem watched (h : Extends types p q) (strict : Bool) (opens : Nat) (e : TypeExpr) :
    KeptUnless (.fault .unorderedKeys) (Exposed strict p)
      (watched strict types opens e p) (Response.watched strict types opens e q) := by
  -- the induction is that of decoding `p`, and what extends it goes along
  induction opens, e, p using decode_induction types generalizing q with
  | primitive opens r p => exact .inl (h.watched_primitive strict opens r)
  | list opens item ps ih =>
    cases h with
    | same => exact .refl _
    | list each =>
      rw [watched_list, watched_list]
      refine (watchedItems_kept each (fun p hp q same => ?_) 0).map _
      exact (ih p hp same).imp fun hexposed => hexposed.of_parts (Value.parts_subset_of_mem hp)
  | notList opens item p hp =>
    have hq : ∀ qs, q ≠ .list qs := by
      rintro qs rfl
      cases h with
      | same => exact hp _ rfl
      | list => exact hp _ rfl
    refine .inl ?_
    rw [watched_not_list hp, watched_not_list hq, h.accessObstruction?_eq, h.refuse_eq]
  | union opens options p ih =>
    rw [(isSearch_watched strict types p).union, (isSearch_watched strict types q).union, h.refuse_eq]
    exact firstOf_kept fun e he => ih e he h
  | unknown opens name p find => exact .inl (by rw [watched_unknown find, watched_unknown find])
  | endless name type p find ha =>
    refine .inl ?_
    rw [(isSearch_watched strict types p).endless find ha, (isSearch_watched strict types q).endless find ha]
  | abstract opens name type p find ha ih =>
    rw [(isSearch_watched strict types p).opened find ha, (isSearch_watched strict types q).opened find ha, h.refuse_eq]
    exact firstOf_kept fun e he => ih e he h
  | object opens name type entries find hc ih =>
    cases h with
    | same => exact .refl _
    | object each =>
      rw [watched_object find hc, watched_object find hc]
      refine (watchedFields_kept fun f hf => ?_).bind fun fields => heeding_undeclared each type.fields _
      refine watchedValue_kept ⟨name, type, find, f, hf, rfl⟩ each fun p hget q same => ?_
      exact (ih f hf p hget same).imp fun hexposed => hexposed.of_parts (Value.parts_subset_of_lookup hget)
  | notObject opens name type p find hc hp =>
    have hq : ∀ others, q ≠ .object others := by
      rintro others rfl
      cases h with
      | same => exact hp _ rfl
      | object => exact hp _ rfl
    refine .inl ?_
    rw [watched_not_object find hc hp, watched_not_object find hc hq, h.classObstruction?_eq, h.refuse_eq]

end Extends

/-! ## Responses and objects -/

section

variable {types : Table TypeBinding} {p q : Value} {entries others : List (Key × Value)}

/-- A failure is reported under other keys than the result. -/
theorem ofEnvelope_eq (hrest : ∀ name, name ≠ "result" → Value.get? others name = Value.get? entries name) :
    Failure.ofEnvelope others = Failure.ofEnvelope entries := by
  rw [Failure.ofEnvelope, Failure.ofEnvelope, hrest "error_code" (by decide), hrest "description" (by decide),
    hrest "parameters" (by decide)]

theorem Extends.decodeLogged (h : Extends types p q) (threshold : Threshold) (root : String) (e : TypeExpr) :
    KeptUnless (.fault .unorderedKeys) (Exposed (threshold.admits .debug) p)
      (decodeLogged threshold types root e p).result (decodeLogged threshold types root e q).result := by
  rw [result_of_decodeLogged_eq, result_of_decodeLogged_eq]
  exact h.watched _ _ e

theorem Extends.decodeEnvelope (h : Extends types p q) (threshold : Threshold) (method : MethodBinding)
    (hp : Value.get? entries "result" = some p) (hq : Value.get? others "result" = some q)
    (hrest : ∀ name, name ≠ "result" → Value.get? others name = Value.get? entries name) :
    KeptUnless (.fault .unorderedKeys) (Exposed (threshold.admits .debug) p)
      (decodeEnvelope threshold types method (.object entries)).result
      (decodeEnvelope threshold types method (.object others)).result := by
  have hok : Value.get? others "ok" = Value.get? entries "ok" := hrest "ok" (by decide)
  rw [Response.decodeEnvelope, Response.decodeEnvelope, hok, hp, hq]
  split
  · rw [result_of_decodeResult, result_of_decodeResult]
    exact ofDecoded_kept (h.decodeLogged threshold "result" method.returns) method
  · rw [ofEnvelope_eq hrest]
    exact .refl _
  · exact .refl _

theorem Extends.readObject (h : Extends types p q) (threshold : Threshold) (name : String) :
    KeptUnless (.fault .unorderedKeys) (Exposed (threshold.admits .debug) p)
      (readObject threshold types name p).result (readObject threshold types name q).result := by
  cases find : types.find? name with
  | none =>
    rw [readObject_of_unknown find, readObject_of_unknown find]
    exact .refl _
  | some type =>
    rw [readObject_of_find? find, readObject_of_find? find]
    exact objectOfDecoded_kept (h.decodeLogged threshold name (.ref name)) name

end

/-- Entries under keys that no type declares, added anywhere in a payload, make no difference to what it is decoded
to, or to where and why it is refused; nor to a response with that result, or to an object without an envelope. The
exception is a payload with a mapping whose keys are not all texts: if the log takes remarks, these keys and the
further ones may have no order. -/
theorem unknown_keys_change_nothing {types : Table TypeBinding} {p q : Value} (h : Extends types p q)
    (threshold : Threshold) :
    (∀ root e,
        KeptUnless (.fault .unorderedKeys) (Exposed (threshold.admits .debug) p)
          (decodeLogged threshold types root e p).result (decodeLogged threshold types root e q).result) ∧
      (∀ method raw raw' entries others, load raw = .ok (.object entries) → load raw' = .ok (.object others) →
        Value.get? entries "result" = some p → Value.get? others "result" = some q →
        (∀ name, name ≠ "result" → Value.get? others name = Value.get? entries name) →
          KeptUnless (.fault .unorderedKeys) (Exposed (threshold.admits .debug) p)
            (read threshold types method raw).result (read threshold types method raw').result) ∧
      ∀ name,
        KeptUnless (.fault .unorderedKeys) (Exposed (threshold.admits .debug) p)
          (readObject threshold types name p).result (readObject threshold types name q).result := by
  refine ⟨h.decodeLogged threshold, ?_, h.readObject threshold⟩
  intro method raw raw' entries others hload hload' hp hq hrest
  rw [read, read, hload, hload']
  exact h.decodeEnvelope threshold method hp hq hrest

/-! ### Points with a colour -/

/-- The two points with a colour each, which no type declares. -/
def colouredPoints : Value :=
  .list [.object [(.text "x", .int 1), (.text "colour", .object [(.text "x", .text "red")])],
    .object [(.text "colour", .null), (.text "x", .int 1), (.text "y", .text "high")]]

theorem isUnknown_colour : IsUnknown pointTypes (.text "colour") := by
  have hall : ∀ e ∈ pointTypes.entries, ∀ f ∈ e.2.fields, f.wireName ≠ "colour" := by decide
  refine ⟨"colour", rfl, ?_⟩
  rintro ⟨name, type, find, f, hf, hname⟩
  exact hall (name, type) (Table.mem_of_find? find) f hf hname

theorem extends_colouredPoints : Extends pointTypes pointsPayload colouredPoints := by
  refine .list (.cons (.object ?_) (.cons (.object ?_) .nil))
  · exact .kept (.same _) (.added isUnknown_colour .nil)
  · exact .added isUnknown_colour (.kept (.same _) (.kept (.same _) .nil))

/-- A method that returns points. -/
def pointsMethod : MethodBinding := getMethod "getPoints" "get_points" pointsExpr

/-- The colours do not even matter to a log of everything, as all keys are texts. -/
theorem unknown_keys_change_nothing_colours :
    ∃ b, (Bindings.build pointSchema).result = .ok b ∧ Extends b.types pointsPayload colouredPoints ∧
      (read .all b.types pointsMethod (successEnvelope colouredPoints)).result =
        .ok (.ok (.tuple [point "Point" "y", point "Loose" "__hash__"])) := by
  obtain ⟨b, hb, htypes, -⟩ := build_pointSchema
  refine ⟨b, hb, ?_⟩
  rw [htypes]
  refine ⟨extends_colouredPoints, ?_⟩
  have hpoints : (read .all pointTypes pointsMethod (successEnvelope pointsPayload)).result =
      .ok (.ok (.tuple [point "Point" "y", point "Loose" "__hash__"])) := by
    show (decodeEnvelope _ _ _ _).result = _
    rw [decodeEnvelope_of_isSuccess (isSuccess_successEnvelope _), result_of_decodeLogged _ _ _ _ (by decide +kernel)]
    cbv
  obtain ⟨-, hread, -⟩ := unknown_keys_change_nothing extends_colouredPoints .all
  have hother : ∀ name, name ≠ "result" →
      Value.get? [(.text "ok", .bool true), (.text "result", colouredPoints)] name =
        Value.get? [(.text "ok", .bool true), (.text "result", pointsPayload)] name := by
    intro name hname
    by_cases hok : name = "ok"
    · rw [hok]
      rfl
    · simp [Value.get?, Entries.lookup_cons_of_ne, hok, hname]
  rcases hread pointsMethod (successEnvelope _) (successEnvelope _) _ _ rfl rfl rfl rfl hother with
    hsame | ⟨-, -, hkeys⟩
  · exact hsame.trans hpoints
  · rw [show pointsPayload.throughout hasTextKeys = true by decide +kernel] at hkeys
    cases hkeys

/-- A point with a further key that is a number. There is nothing to be put in order. -/
def numberedPoint : Value := .object [(.text "x", .int 1), (.int 5, .null)]

/-- The point is decoded without a colour, and with one it is not. -/
theorem unknown_key_breaks_decoding :
    ∃ b, (Bindings.build pointSchema).result = .ok b ∧ Extends b.types numberedPoint mixedPoint ∧
      (readObject .all b.types "Point" numberedPoint).result = .ok (point "Point" "y") ∧
      (readObject .all b.types "Point" mixedPoint).result = .error (.fault .unorderedKeys) := by
  obtain ⟨b, hb, htypes, -⟩ := build_pointSchema
  refine ⟨b, hb, ?_⟩
  rw [htypes]
  refine ⟨.object (.kept (.same _) (.kept (.same _) (.added isUnknown_colour .nil))), by cbv, ?_⟩
  rw [readObject_of_find? find?_point, decodeLogged_mixedPoint]
  rfl

end BotApi.Response
