import BotApi.Proofs.Response.Agreement
import BotApi.Proofs.Response.Lasting
import BotApi.Proofs.Response.Remarks
import BotApi.Response.Envelope
import Mathlib

/-!
# The way of a response and back

A response is decoded, the value is turned into its payload, and the payload is decoded as the result of a
response of its own.

## Main results

* `decode_payload_round_trip` — there is a value again, and it is the first one exactly if the choices last that
  were made between options.
* `response_changes_type` — the choices need not last: a record may come back as one of another type.
-/

namespace BotApi.Response

/-- Whether a value, if it is a float, is a number. -/
def isNumber : Value → Bool
  | .float .nan => false
  | _ => true

/-- The response that reports a result. -/
def success (result : Value) : Value := .object [(.text "ok", .bool true), (.text "result", result)]

section

variable {threshold : Threshold} {types : Table TypeBinding} {method : MethodBinding} {raw v : Value}

/-- A response with a value has a result that was decoded to it. -/
theorem exists_of_read_eq_ok (h : (read threshold types method raw).result = .ok (.ok v)) :
    ∃ entries result, load raw = .ok (.object entries) ∧ Value.get? entries "result" = some result ∧
      decode types types.size method.returns result = .ok v := by
  rw [read] at h
  cases hload : load raw with
  | error e =>
    rw [hload] at h
    cases e <;> cases h
  | ok envelope =>
    rw [hload] at h
    dsimp only at h
    rw [decodeEnvelope.eq_def] at h
    dsimp only at h
    -- of all the ways through an envelope only one ends with a value
    split at h
    · next entries =>
      split at h
      · split at h
        · next result hresult =>
          refine ⟨entries, result, rfl, hresult, ?_⟩
          rw [decodeResult] at h
          split at h
          · next w hw =>
            cases h
            exact decode_of_decodeLogged hw
          · cases h
          · cases h
        · cases h
      · split at h
        · cases h
        · cases h
      · cases h
    · split at h <;> cases h

/-- A response that reports a plain result has the value that this is decoded to. -/
theorem read_success_eq_ok_iff {p : Value} (plain : p.throughout isPlain = true) :
    (read threshold types method (success p)).result = .ok (.ok v) ↔
      decode types types.size method.returns p = .ok v := by
  have hread : read threshold types method (success p) = decodeResult threshold types method p := by
    cbv
  rw [hread, decodeResult, result_of_decodeLogged threshold types "result" method.returns plain]
  cases decode types types.size method.returns p with
  | ok w => simp
  | error stop =>
    cases stop with
    | mismatch m => simp [shapeMismatch, Logged.after]
    | fault f => simp

end

/-- A response with a value has a result, and the value has a payload. If the types have records, this payload is
decoded to a value again. It is the first value exactly if the choices last that were made in decoding the result,
which they do if the result and the payload agree on all keys that a type declares. And the first value equals
itself. -/
theorem decode_payload_round_trip {schema : Schema} {b : Bindings}
    (h : (Bindings.build schema).result = .ok b) (founded : Founded b.types) {name : String}
    {method : MethodBinding} (hm : b.method? name = some method) {threshold : Threshold} {raw v : Value}
    (number : ∀ envelope, load raw = .ok envelope → envelope.throughout isNumber = true)
    (spared : v.throughout Value.isSpared = true)
    (hread : (read threshold b.types method raw).result = .ok (.ok v)) (again : Threshold) :
    ∃ entries result p, load raw = .ok (.object entries) ∧ Value.get? entries "result" = some result ∧
      v.payload? = .ok p ∧
      (HasRecords b.types → ∃ w, (read again b.types method (success p)).result = .ok (.ok w)) ∧
      ((read again b.types method (success p)).result = .ok (.ok v) ↔
        Lasting b.types b.types.size method.returns result) ∧
      (Agree b.types result p → (read again b.types method (success p)).result = .ok (.ok v)) ∧
      Value.equal true v v = .ok true := by
  have resolved := Bindings.resolved_of_build h
  have closed := (Bindings.closed_of_method h hm).2
  obtain ⟨entries, result, hload, hresult, hv⟩ := exists_of_read_eq_ok hread
  have hmade := throughout_isRead_of_decode resolved hv
  have plain := throughout_isPlain_payload hmade
  refine ⟨entries, result, v.payload, hload, hresult, Value.payload?_of_isSpared spared, ?_, ?_, ?_, ?_⟩
  · intro records
    have room := hasRoom_of_size_le (Nat.le_refl b.types.size) method.returns
    cases hw : decode b.types b.types.size method.returns v.payload with
    | ok w => exact ⟨w, (read_success_eq_ok_iff plain).2 hw⟩
    | error stop =>
      -- neither a mismatch nor a fault is left
      cases stop with
      | mismatch m => exact (not_refuses_payload resolved hv spared ⟨m, hw⟩).elim
      | fault f => exact (decode_ne_fault founded resolved records room closed plain f hw).elim
  · rw [read_success_eq_ok_iff plain]
    exact decode_payload_eq_ok_iff resolved hv spared
  · intro hagree
    rw [read_success_eq_ok_iff plain, ← hagree.decode_eq]
    exact hv
  · -- only a value that is a float itself is compared as a number
    refine Value.equal_self v hmade spared ?_
    rintro rfl
    cases decoded_of_decode hv with
    | scalar =>
      have hnan := Value.holds_of_throughout (Value.throughout_of_lookup (number _ hload) hresult)
      cases hnan

/-! ### Shapes with a name and without -/

/-- A schema with a method that returns a record with a number, with or without a name. -/
def shapeSchema : Schema where
  version := none
  releaseDate := none
  changelog := none
  types := .ofList
    [("A", { href := "", description := [], subtypes := [], subtypeOf := []
             fields := [⟨"id", ["Integer"], true, ""⟩, ⟨"name", ["Integer"], false, ""⟩] }),
      ("B", { href := "", description := [], subtypes := [], subtypeOf := []
              fields := [⟨"id", ["Integer"], true, ""⟩] })]
  methods := .ofList [("getShape", { href := "", description := [], fields := [], returns := ["A", "B"] })]

/-- The types of its bindings. -/
def shapeTypes : Table TypeBinding where
  entries :=
    [("A", { name := "A", variants := [], description := []
             fields := [⟨"id", "id", .primitive .integer, true, ""⟩,
               ⟨"name", "name", .primitive .integer, false, ""⟩] }),
      ("B", { name := "B", variants := [], description := []
              fields := [⟨"id", "id", .primitive .integer, true, ""⟩] })]
  nodup := by decide

/-- The binding of its method. -/
def shapeMethod : MethodBinding where
  name := "getShape"
  params := []
  returns := .union [.ref "A", .ref "B"]
  hasAttachment := false
  snakeName := "get_shape"
  description := []

theorem build_shapeSchema :
    ∃ b, (Bindings.build shapeSchema).result = .ok b ∧ b.types = shapeTypes ∧
      b.method? "getShape" = some shapeMethod := by
  have htypes : (shapeSchema.types.map Graph.typeOf).mapM (fun _ node => Bindings.bindType node) =
      .ok shapeTypes := eq_ok_of_toOption (by decide +kernel)
  have hb := Bindings.build_eq_ok (by decide +kernel) htypes
  refine ⟨_, hb, rfl, ?_⟩
  rw [Bindings.method?_of_build_first hb rfl, Bindings.bindMethod_fst rfl]
  decide +kernel

theorem founded_shapeTypes : Founded shapeTypes := founded_of_rank (fun _ => 0) (by decide)

/-- A record that may have a name, and came without. -/
def unnamedShape : Value :=
  .record "A" [(⟨"id", "id", true⟩, .int 1), (⟨"name", "name", false⟩, .absent)]

/-- A record without a name. -/
def bareShape : Value := .record "B" [(⟨"id", "id", true⟩, .int 1)]

/-- The payload of both. -/
def shapePayload : Value := .object [(.text "id", .int 1)]

theorem isSpared_shapes :
    unnamedShape.throughout Value.isSpared = true ∧ bareShape.throughout Value.isSpared = true := by
  decide

theorem payload_shapes : unnamedShape.payload = shapePayload ∧ bareShape.payload = shapePayload := by
  obtain ⟨hunnamed, hbare⟩ := isSpared_shapes
  constructor
  · rw [unnamedShape, payload_of_isSpared (Value.holds_of_throughout hunnamed)]
    rfl
  · rw [bareShape, payload_of_isSpared (Value.holds_of_throughout hbare)]
    rfl

/-- A mapping with a colour, which no type declares. -/
def colouredPayload : Value := .object [(.text "id", .int 1), (.text "colour", .text "red")]

theorem agree_colouredPayload : Agree shapeTypes colouredPayload shapePayload := by
  have hdeclared : ∀ key, Declares shapeTypes key → key = "id" ∨ key = "name" := by
    rintro key ⟨name, type, htype, f, hf, rfl⟩
    have hmem := Table.mem_of_find? htype
    simp only [shapeTypes, List.mem_cons, List.not_mem_nil, or_false, Prod.mk.injEq] at hmem
    rcases hmem with ⟨-, rfl⟩ | ⟨-, rfl⟩
    · simp only [List.mem_cons, List.not_mem_nil, or_false] at hf
      rcases hf with rfl | rfl
      · exact .inl rfl
      · exact .inr rfl
    · cases List.mem_singleton.1 hf
      exact .inl rfl
  refine .object (fun key hkey => ?_) fun key p q hkey hp hq => ?_
  · rcases hdeclared key hkey with rfl | rfl <;> rfl
  · rcases hdeclared key hkey with rfl | rfl
    · cases hp
      cases hq
      exact .refl _
    · cases hq

theorem decode_payload_round_trip_coloured :
    (success colouredPayload).throughout isNumber = true ∧ unnamedShape.throughout Value.isSpared = true ∧
      (read .all shapeTypes shapeMethod (success colouredPayload)).result = .ok (.ok unnamedShape) ∧
      unnamedShape.payload? = .ok shapePayload ∧
      (read .all shapeTypes shapeMethod (success shapePayload)).result = .ok (.ok unnamedShape) ∧
      Value.equal true unnamedShape unnamedShape = .ok true := by
  obtain ⟨b, hb, htypes, hm⟩ := build_shapeSchema
  have number : (success colouredPayload).throughout isNumber = true := by decide
  have spared := isSpared_shapes.1
  have hread : (read .all shapeTypes shapeMethod (success colouredPayload)).result = .ok (.ok unnamedShape) :=
    (read_success_eq_ok_iff (by decide)).2 (by cbv)
  have hpayload : unnamedShape.payload? = .ok shapePayload := by
    rw [Value.payload?_of_isSpared spared, payload_shapes.1]
  have founded := founded_shapeTypes
  have hagree := agree_colouredPayload
  rw [← htypes] at founded hread hagree ⊢
  obtain ⟨entries, result, p, hload, hresult, hp, -, -, hagain, hequal⟩ :=
    decode_payload_round_trip hb founded hm (fun envelope henvelope => by cases henvelope; exact number) spared
      hread .all
  rw [hpayload] at hp
  cases hload
  cases hresult
  cases hp
  exact ⟨number, spared, hread, hpayload, hagain hagree, hequal⟩

/-- A mapping with a name that is no number, which no type takes. -/
def namedPayload : Value := .object [(.text "id", .int 1), (.text "name", .text "x")]

/-- The name keeps the mapping from being a record of the first type, and goes with the record of the second. So the
payload of this one is a record of the first. -/
theorem response_changes_type :
    ∃ b, (Bindings.build shapeSchema).result = .ok b ∧ Founded b.types ∧ HasRecords b.types ∧
      b.method? "getShape" = some shapeMethod ∧ (success namedPayload).throughout isNumber = true ∧
      (read .all b.types shapeMethod (success namedPayload)).result = .ok (.ok bareShape) ∧
      bareShape.throughout Value.isSpared = true ∧ bareShape.payload? = .ok shapePayload ∧
      (read .all b.types shapeMethod (success shapePayload)).result = .ok (.ok unnamedShape) ∧
      Value.equal true bareShape unnamedShape = .ok false := by
  obtain ⟨b, hb, htypes, hm⟩ := build_shapeSchema
  refine ⟨b, hb, ?_⟩
  rw [htypes]
  have records : HasRecords shapeTypes := by
    intro name type htype _
    have hall : ∀ e ∈ shapeTypes.entries, e.2.obstacle? = none := by decide
    exact hall (name, type) (Table.mem_of_find? htype)
  have hpayload : bareShape.payload? = .ok shapePayload := by
    rw [Value.payload?_of_isSpared isSpared_shapes.2, payload_shapes.2]
  refine ⟨founded_shapeTypes, records, hm, by decide, ?_, isSpared_shapes.2, hpayload, ?_, ?_⟩
  · exact (read_success_eq_ok_iff (by decide)).2 (by cbv)
  · exact (read_success_eq_ok_iff (by decide)).2 (by cbv)
  · exact eq_ok_of_toOption (by decide +kernel)

end BotApi.Response
