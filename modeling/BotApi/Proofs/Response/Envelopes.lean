import BotApi.Proofs.Response.Bodies

/-!
# Envelopes

What is done about an envelope goes by its entries. If it reports success, what its result is decoded to makes the
outcome, and nothing else of it is asked for. An object that arrives without an envelope is decoded in the same way.

## Main results

* `decodeEnvelope_of_isSuccess`, `decodeEnvelope_of_not_isSuccess` — what an envelope comes to.
* `readObject_of_find?` — what an object without an envelope comes to.
-/

namespace BotApi.Response

/-- Whether an envelope reports success with a result. -/
def IsSuccess (envelope result : Value) : Prop :=
  ∃ entries, envelope = .object entries ∧ Value.get? entries "ok" = some (.bool true) ∧
    Value.get? entries "result" = some result

/-- An envelope with nothing but a result. -/
def successEnvelope (result : Value) : Value := .object [(.text "ok", .bool true), (.text "result", result)]

theorem isSuccess_successEnvelope (result : Value) : IsSuccess (successEnvelope result) result :=
  ⟨_, rfl, rfl, rfl⟩

/-- The binding of a method that returns something and has no parameters. -/
def getMethod (name snakeName : String) (returns : TypeExpr) : MethodBinding :=
  { name, snakeName, returns, params := [], hasAttachment := false, description := [] }

/-- The outcome of a success by what its result is decoded to. -/
def ofDecoded (method : MethodBinding) : Except Stop Value → Except Breakdown Outcome
  | .ok v => .ok (.ok v)
  | .error (.fault f) => .error (.fault f)
  | .error (.mismatch m) =>
    .ok (.failed (.shape method.name (trailText "result" m.trail) m.expected.toText (m.got.toText Kind.wireName)))

/-- What comes of an object without an envelope by what it is decoded to. -/
def objectOfDecoded (name : String) : Except Stop Value → Except ObjectError Value
  | .ok v => .ok v
  | .error (.fault f) => .error (.fault f)
  | .error (.mismatch m) =>
    .error (.failed (.shape name (trailText name m.trail) m.expected.toText (m.got.toText Kind.wireName)))

section

variable {types : Table TypeBinding} {method : MethodBinding} {envelope p : Value} {cause : Prop}
  {x y : Except Stop Value}

theorem ofDecoded_kept {fault : Fault} (h : KeptUnless (.fault fault) cause x y) (method : MethodBinding) :
    KeptUnless (.fault fault) cause (ofDecoded method x) (ofDecoded method y) := by
  rcases h with rfl | ⟨rfl, hcause⟩
  · exact .refl _
  · exact .inr ⟨rfl, hcause⟩

theorem objectOfDecoded_kept {fault : Fault} (h : KeptUnless (.fault fault) cause x y) (name : String) :
    KeptUnless (.fault fault) cause (objectOfDecoded name x) (objectOfDecoded name y) := by
  rcases h with rfl | ⟨rfl, hcause⟩
  · exact .refl _
  · exact .inr ⟨rfl, hcause⟩

theorem readObject_of_find? {name : String} {type : TypeBinding} (find : types.find? name = some type)
    (threshold : Threshold) (p : Value) :
    (readObject threshold types name p).result =
      objectOfDecoded name (decodeLogged threshold types name (.ref name) p).result := by
  rw [readObject, find]
  dsimp only
  cases (decodeLogged threshold types name (.ref name) p).result with
  | ok v => rfl
  | error s => cases s <;> rfl

theorem readObject_of_unknown {name : String} (find : types.find? name = none) (threshold : Threshold) (p : Value) :
    (readObject threshold types name p).result = .error (.unknownType name) := by
  rw [readObject, find]

theorem result_of_decodeResult (threshold : Threshold) (types : Table TypeBinding) (method : MethodBinding)
    (p : Value) :
    (decodeResult threshold types method p).result =
      ofDecoded method (decodeLogged threshold types "result" method.returns p).result := by
  rw [decodeResult]
  cases (decodeLogged threshold types "result" method.returns p).result with
  | ok v => rfl
  | error s => cases s <;> rfl

theorem decodeEnvelope_of_isSuccess (h : IsSuccess envelope p) (threshold : Threshold) :
    (decodeEnvelope threshold types method envelope).result =
      ofDecoded method (decodeLogged threshold types "result" method.returns p).result := by
  obtain ⟨entries, rfl, hok, hresult⟩ := h
  rw [decodeEnvelope, hok]
  dsimp only
  rw [hresult]
  dsimp only
  rw [result_of_decodeResult]

/-- Of an envelope that reports no success with a result neither types nor remarks are asked. -/
theorem decodeEnvelope_of_not_isSuccess (h : ∀ p, ¬ IsSuccess envelope p) (threshold threshold' : Threshold) :
    (decodeEnvelope threshold types method envelope).result =
      (decodeEnvelope threshold' types method envelope).result := by
  rw [decodeEnvelope.eq_def, decodeEnvelope.eq_def]
  dsimp only
  split
  · next entries =>
    split
    · next hok =>
      split
      · next p hresult => exact absurd ⟨entries, rfl, hok, hresult⟩ (h p)
      · rfl
    · rfl
    · rfl
  · rfl

end

end BotApi.Response
