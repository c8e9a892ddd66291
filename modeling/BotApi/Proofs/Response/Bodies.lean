import BotApi.Proofs.Json.Reader
import BotApi.Proofs.Response.Remarks
import BotApi.Response.Envelope
import Mathlib

/-!
# Whatever a server sends

The body of a response is a text or octets, and may be anything. It is read to a value of JSON, or it is no JSON.
From there on everything has an outcome, with two exceptions: a whole number of too many digits stops the reader
itself, and a type may be such that none of its records can be made.

## Main results

* `read_body_cases` — what becomes of a body.
* `read_breaks_at_long_number` — a body with a number that is too long has no outcome.
-/

namespace BotApi.Response

open Json (isJson HasLongRun)

/-! ## Values of JSON -/

theorem isPlain_of_isJson {v : Value} (h : isJson v = true) : isPlain v = true := by
  cases v with
  | object entries => exact h
  | record => cases h
  | _ => rfl

theorem exists_intLiteral {n : Int} (h : isJson (.int n) = true) : ∃ s, Value.intLiteral n = .ok s := by
  rw [isJson, decide_eq_true_eq] at h
  exact ⟨toString n, by rw [Value.intLiteral, Number.intText, if_pos h]; rfl⟩

mutual

/-- A value of JSON can be shown. -/
theorem exists_literal : ∀ v : Value, v.throughout isJson = true → ∃ s, v.literal = .ok s
  | .int n, h => by
    rw [Value.literal]
    exact exists_intLiteral (Value.holds_of_throughout h)
  | .list items, h => by
    obtain ⟨parts, hparts⟩ := exists_literalItems items (Value.throughoutItems_iff.2 (Value.throughout_list_iff.1 h).2)
    exact ⟨_, by rw [Value.literal, hparts]; rfl⟩
  | .object entries, h => by
    obtain ⟨hroot, heach⟩ := Value.throughout_object_iff.1 h
    rw [isJson] at hroot
    obtain ⟨parts, hparts⟩ := exists_literalEntries entries hroot (Value.throughoutEntries_iff.2 heach)
    exact ⟨_, by rw [Value.literal, hparts]; rfl⟩
  | .null, _ | .bool _, _ | .float _, _ | .text _, _ => ⟨_, rfl⟩
  | .absent, h | .bytes _, h | .bytearray _, h | .file _, h | .stream _, h | .tuple _, h | .record _ _, h
  | .foreign _ _, h => absurd (Value.holds_of_throughout h) Bool.false_ne_true

theorem exists_literalItems : ∀ items : List Value, Value.throughoutItems isJson items = true →
    ∃ parts, Value.literalItems items = .ok parts
  | [], _ => ⟨[], rfl⟩
  | v :: rest, h => by
    rw [Value.throughoutItems, Bool.and_eq_true] at h
    obtain ⟨part, hpart⟩ := exists_literal v h.1
    obtain ⟨parts, hparts⟩ := exists_literalItems rest h.2
    exact ⟨part :: parts, by rw [Value.literalItems, hpart, hparts]; rfl⟩

theorem exists_literalEntries : ∀ entries : List (Key × Value),
    (entries.all fun e => e.1.isText) = true → Value.throughoutEntries isJson entries = true →
      ∃ parts, Value.literalEntries entries = .ok parts
  | [], _, _ => ⟨[], rfl⟩
  | (k, v) :: rest, hkeys, h => by
    rw [List.all_cons, Bool.and_eq_true] at hkeys
    rw [Value.throughoutEntries, Bool.and_eq_true] at h
    obtain ⟨part, hpart⟩ := exists_literal v h.1
    obtain ⟨parts, hparts⟩ := exists_literalEntries rest hkeys.2 h.2
    cases k with
    | text s =>
      refine ⟨(Text.quoted s ++ ": " ++ part) :: parts, ?_⟩
      rw [Value.literalEntries, hpart, hparts]
      rfl
    | _ => cases hkeys.1

end

theorem exists_messageText {v : Value} (h : v.throughout isJson = true) : ∃ s, v.messageText = .ok s := by
  have hliteral := exists_literal v h
  cases v with
  | text s => exact ⟨s, rfl⟩
  | record => exact absurd (Value.holds_of_throughout h) Bool.false_ne_true
  | _ => exact hliteral

/-! ## Envelopes -/

section

variable {entries : List (Key × Value)}

theorem isJson_getD (h : (Value.object entries).throughout isJson = true) (key : String) :
    ((Value.get? entries key).getD .null).throughout isJson = true := by
  cases hget : Value.get? entries key with
  | none => rfl
  | some v => exact Value.throughout_of_lookup h hget

theorem exists_descriptionOf {v : Value} (h : v.throughout isJson = true) :
    ∃ d, Failure.descriptionOf v = .ok d ∧ d.throughout isJson = true := by
  have hisVoid : v.isVoid? = .ok v.isVoid := by
    cases v with
    | record => exact absurd (Value.holds_of_throughout h) Bool.false_ne_true
    | _ => rfl
  unfold Failure.descriptionOf
  rw [hisVoid]
  show ∃ d, (if v.isVoid then Except.ok (.text "") else Except.ok v) = Except.ok d ∧ _
  split
  · exact ⟨_, rfl, rfl⟩
  · exact ⟨v, rfl, h⟩

theorem exists_entriesOf {v : Value} (h : v.throughout isJson = true) :
    ∃ entries, Failure.entriesOf v = .ok entries := by
  have hclass := classObstruction?_of_isPlain (isPlain_of_isJson (Value.holds_of_throughout h))
  unfold Failure.entriesOf
  rw [hclass]
  cases v <;> exact ⟨_, rfl⟩

theorem exists_make {code description : Value} (hcode : code.throughout isJson = true)
    (hdescription : description.throughout isJson = true) (parameters : List (Key × Value)) (advice : Advice) :
    ∃ r, Rejection.make code description parameters advice = .ok r := by
  obtain ⟨codeText, hcodeText⟩ := exists_messageText hcode
  obtain ⟨descriptionText, hdescriptionText⟩ := exists_messageText hdescription
  unfold Rejection.make
  rw [hcodeText, hdescriptionText]
  exact ⟨_, rfl⟩

/-- An envelope of JSON that reports a failure has one. -/
theorem exists_ofEnvelope (h : (Value.object entries).throughout isJson = true) :
    ∃ f, Failure.ofEnvelope entries = .ok f := by
  unfold Failure.ofEnvelope
  obtain ⟨d, hd, hjson⟩ := exists_descriptionOf (isJson_getD h "description")
  obtain ⟨parameters, hparameters⟩ := exists_entriesOf (isJson_getD h "parameters")
  rw [hd, hparameters]
  obtain ⟨r, hr⟩ := exists_make (isJson_getD h "error_code") hjson parameters _
  exact ⟨.rejected r, map_eq_ok_iff.2 ⟨r, hr, rfl⟩⟩

variable {types : Table TypeBinding} {method : MethodBinding}

/-- An envelope of JSON has an outcome, unless a type has no records. -/
theorem decodeEnvelope_cases (founded : Founded types) (resolved : Resolved types)
    (closed : Closed types method.returns) (threshold : Threshold) {envelope : Value}
    (h : envelope.throughout isJson = true) :
    (∃ outcome, (decodeEnvelope threshold types method envelope).result = .ok outcome) ∨
      ∃ fault, IsObstacle types fault ∧
        (decodeEnvelope threshold types method envelope).result = .error (.fault fault) := by
  have hclass := classObstruction?_of_isPlain (isPlain_of_isJson (Value.holds_of_throughout h))
  unfold decodeEnvelope
  dsimp only
  split
  · next entries =>
    split
    · split
      · next payload hpayload =>
        -- the result is decoded whether or not remarks are made on the way
        have hplain : payload.throughout isPlain = true :=
          Value.throughout_mono (fun _ => isPlain_of_isJson) (Value.throughout_of_lookup h hpayload)
        rw [decodeResult, result_of_decodeLogged threshold types "result" method.returns hplain]
        cases hdecode : decode types types.size method.returns payload with
        | ok v => exact .inl ⟨_, rfl⟩
        | error stop =>
          cases stop with
          | mismatch m => exact .inl ⟨_, rfl⟩
          | fault fault =>
            have room := hasRoom_of_size_le (Nat.le_refl types.size) method.returns
            exact .inr ⟨fault, isObstacle_of_decode founded resolved room closed hplain hdecode, rfl⟩
      · exact .inl ⟨_, rfl⟩
    · obtain ⟨f, hf⟩ := exists_ofEnvelope h
      rw [hf]
      exact .inl ⟨_, rfl⟩
    · exact .inl ⟨_, rfl⟩
  · rw [hclass]
    exact .inl ⟨_, rfl⟩

end

/-! ## Bodies -/

/-- Whether a response is a body that was not read yet: a text or octets. -/
def isBody : Value → Bool
  | .text _ | .bytes _ | .bytearray _ => true
  | _ => false

/-- The text of a body, if it has one. -/
def bodyText? : Value → Option (List Char)
  | .text s => some s.toList
  | .bytes content | .bytearray content => (Text.Utf8.decode content).toOption
  | _ => none

/-- Whether a body is the text of a value. -/
def IsValueOf (v : Value) (body : Value) : Prop := ∃ text, bodyText? body = some text ∧ Json.read text = .ok v

theorem load_of_bodyText {body : Value} {text : List Char} (h : bodyText? body = some text) :
    load body = loadText text := by
  -- octets that have a text are loaded as that text
  have hoctets : ∀ content : List UInt8, (Text.Utf8.decode content).toOption = some text →
      Text.Utf8.decode content = .ok text := fun content h => eq_ok_of_toOption h
  cases body with
  | text s =>
    cases h
    rfl
  | bytes content => rw [load, hoctets content h]
  | bytearray content => rw [load, hoctets content h]
  | _ => cases h

theorem load_of_no_text {body : Value} (hbody : isBody body = true) (h : bodyText? body = none) :
    ∃ reason, load body = .error (.unreadable reason) := by
  have hoctets : ∀ content : List UInt8, (Text.Utf8.decode content).toOption = none →
      ∃ f, Text.Utf8.decode content = .error f := by
    intro content h
    cases hdecode : Text.Utf8.decode content with
    | ok text =>
      rw [hdecode] at h
      cases h
    | error f => exact ⟨f, rfl⟩
  cases body with
  | text s => cases h
  | bytes content =>
    obtain ⟨f, hf⟩ := hoctets content h
    exact ⟨f.message, by rw [load, hf]⟩
  | bytearray content =>
    obtain ⟨f, hf⟩ := hoctets content h
    exact ⟨f.message, by rw [load, hf]⟩
  | _ => cases hbody

/-- A body has a value, or there is a reason why it is no JSON, or a number in it has too many digits. -/
theorem load_cases {body : Value} (hbody : isBody body = true) :
    (∃ v, IsValueOf v body ∧ v.throughout isJson = true ∧ load body = .ok v) ∨
      (¬ ∃ v, IsValueOf v body) ∧
        ((∃ reason, load body = .error (.unreadable reason)) ∨
          ∃ text n, bodyText? body = some text ∧ HasLongRun n text ∧ load body = .error (.tooManyDigits n)) := by
  cases htext : bodyText? body with
  | none =>
    refine .inr ⟨?_, .inl (load_of_no_text hbody htext)⟩
    rintro ⟨v, text, hsome, -⟩
    rw [htext] at hsome
    cases hsome
  | some text =>
    have hno : ∀ e, Json.read text = .error e → ¬ ∃ v, IsValueOf v body := by
      rintro e he ⟨v, text', hsome, hv⟩
      rw [htext] at hsome
      cases hsome
      rw [he] at hv
      cases hv
    rw [load_of_bodyText htext, loadText]
    rcases Json.read_cases text with ⟨v, hv, hjson⟩ | ⟨problem, position, hmalformed⟩ | ⟨n, hlong, hrun⟩
    · rw [hv]
      exact .inl ⟨v, ⟨text, htext, hv⟩, hjson, rfl⟩
    · rw [hmalformed]
      exact .inr ⟨hno _ hmalformed, .inl ⟨_, rfl⟩⟩
    · rw [hlong]
      exact .inr ⟨hno _ hlong, .inr ⟨text, n, rfl, hrun, rfl⟩⟩

/-- A body of JSON has an outcome, unless a type has no records. A body that is no JSON fails for that reason, unless
a number in it is what stops the reader. -/
theorem read_body_cases {schema : Schema} {b : Bindings} (hb : (Bindings.build schema).result = .ok b)
    (founded : Founded b.types) {name : String} {method : MethodBinding} (hm : b.method? name = some method)
    {body : Value} (hbody : isBody body = true) (threshold : Threshold) :
    ((∃ v, IsValueOf v body) ∧
        ((∃ outcome, (read threshold b.types method body).result = .ok outcome) ∨
          ∃ fault, IsObstacle b.types fault ∧ (read threshold b.types method body).result = .error (.fault fault))) ∨
      (¬ ∃ v, IsValueOf v body) ∧
        ((∃ reason, (read threshold b.types method body).result =
            .ok (.failed (.shape method.name "envelope" "JSON" reason))) ∨
          ∃ text n, bodyText? body = some text ∧ HasLongRun n text ∧
            (read threshold b.types method body).result = .error (.tooManyDigits n)) := by
  have resolved := Bindings.resolved_of_build hb
  have closed := (Bindings.closed_of_method hb hm).2
  unfold read
  rcases load_cases hbody with ⟨v, hv, hjson, hload⟩ | ⟨hno, ⟨reason, hload⟩ | ⟨text, n, htext, hrun, hload⟩⟩
  · rw [hload]
    exact .inl ⟨⟨v, hv⟩, decodeEnvelope_cases founded resolved closed threshold hjson⟩
  · rw [hload]
    exact .inr ⟨hno, .inl ⟨reason, rfl⟩⟩
  · rw [hload]
    exact .inr ⟨hno, .inr ⟨text, n, htext, hrun, rfl⟩⟩

/-! ### A number that is too long -/

theorem readNumber_ones {n : Nat} (h : Number.maxDigits < n) :
    Json.readNumber (List.replicate n '1') = .error (.tooManyDigits n) := by
  obtain ⟨m, rfl⟩ : ∃ m, n = m + 1 := ⟨n - 1, by omega⟩
  have hdigits : ∀ c ∈ List.replicate (m + 1) '1', Json.isDigit c = true := by
    intro c hc
    rw [List.eq_of_mem_replicate hc]
    rfl
  have hwhole : Json.readWhole (List.replicate (m + 1) '1') = (List.replicate (m + 1) '1', []) := by
    show (List.replicate (m + 1) '1').span Json.isDigit = _
    rw [List.span_eq_takeWhile_dropWhile, List.takeWhile_eq_self_iff.2 hdigits, List.dropWhile_eq_nil_iff.2 hdigits]
  unfold Json.readNumber
  split
  next negative body hsign =>
    -- the first digit is no sign
    rw [List.replicate_succ] at hsign
    cases hsign
    rw [← List.replicate_succ, hwhole]
    simp [Json.readFraction, Json.readExponent, h]

/-- A body that is a number of so many ones. -/
def ones (n : Nat) : Value := .text (String.ofList (List.replicate n '1'))

theorem load_ones {n : Nat} (h : Number.maxDigits < n) : load (ones n) = .error (.tooManyDigits n) := by
  obtain ⟨m, rfl⟩ : ∃ m, n = m + 1 := ⟨n - 1, by omega⟩
  have hnumber := readNumber_ones h
  have hvalue : ∀ fuel, Json.readValue (fuel + 1) (List.replicate (m + 1) '1') = .error (.tooManyDigits (m + 1)) := by
    intro fuel
    rw [List.replicate_succ] at hnumber ⊢
    have hword : Json.readWord ('1' :: List.replicate m '1') = none := by simp [Json.readWord, Json.words]
    rw [Json.readValue.eq_def]
    dsimp only
    rw [hword]
    exact hnumber
  have hread : Json.read (List.replicate (m + 1) '1') = .error (.tooManyDigits (m + 1)) := by
    unfold Json.read Json.readAll
    show Except.mapError _ (Json.readValue (2 * (List.replicate (m + 1) '1').length + 1 + 1)
      (List.replicate (m + 1) '1') >>= _) = _
    rw [hvalue]
    rfl
  rw [ones, load, String.toList_ofList, loadText, hread]

/-- A schema with a method that returns a number. -/
def countSchema : Schema where
  version := none
  releaseDate := none
  changelog := none
  types := .empty
  methods := .ofList [("getCount", { href := "", description := [], fields := [], returns := ["Integer"] })]

/-- The binding of its method. -/
def countMethod : MethodBinding where
  name := "getCount"
  params := []
  returns := .primitive .integer
  hasAttachment := false
  snakeName := "get_count"
  description := []

theorem build_countSchema :
    ∃ b, (Bindings.build countSchema).result = .ok b ∧ Founded b.types ∧
      b.method? "getCount" = some countMethod := by
  refine ⟨⟨.empty, .ofList [("getCount", countMethod)], none⟩, eq_ok_of_toOption (by decide +kernel), ?_,
    by decide +kernel⟩
  exact founded_of_rank (fun _ => 0) (by decide)

theorem maxDigits_lt : Number.maxDigits < 4301 := by
  rw [Number.maxDigits]
  omega

theorem read_body_cases_ones :
    isBody (ones 4301) = true ∧
      ∃ b text n, (Bindings.build countSchema).result = .ok b ∧ Founded b.types ∧
        b.method? "getCount" = some countMethod ∧ bodyText? (ones 4301) = some text ∧ HasLongRun n text ∧
        (read .all b.types countMethod (ones 4301)).result = .error (.tooManyDigits n) := by
  obtain ⟨b, hb, founded, hm⟩ := build_countSchema
  have hread : (read .all b.types countMethod (ones 4301)).result = .error (.tooManyDigits 4301) := by
    rw [read, load_ones maxDigits_lt]
  have hbody : isBody (ones 4301) = true := rfl
  refine ⟨hbody, ?_⟩
  rcases read_body_cases hb founded hm hbody .all with
    ⟨-, ⟨outcome, h⟩ | ⟨fault, -, h⟩⟩ | ⟨-, ⟨reason, h⟩ | ⟨text, n, htext, hrun, h⟩⟩
  · rw [hread] at h
    cases h
  · rw [hread] at h
    cases h
  · rw [hread] at h
    cases h
  · exact ⟨b, text, n, hb, founded, hm, htext, hrun, h⟩

/-- A body with a number that is too long has no outcome. Nothing in it is a value of JSON, but it does not fail for
that reason. -/
theorem read_breaks_at_long_number :
    ∃ b, (Bindings.build countSchema).result = .ok b ∧ Founded b.types ∧ b.method? "getCount" = some countMethod ∧
      (¬ ∃ v, IsValueOf v (ones 4301)) ∧
      (read .all b.types countMethod (ones 4301)).result = .error (.tooManyDigits 4301) := by
  obtain ⟨b, hb, founded, hm⟩ := build_countSchema
  have hread : (read .all b.types countMethod (ones 4301)).result = .error (.tooManyDigits 4301) := by
    rw [read, load_ones maxDigits_lt]
  refine ⟨b, hb, founded, hm, ?_, hread⟩
  have hbody : isBody (ones 4301) = true := rfl
  rcases load_cases hbody with ⟨v, -, -, hload⟩ | ⟨hno, -⟩
  · rw [load_ones maxDigits_lt] at hload
    cases hload
  · exact hno

end BotApi.Response
