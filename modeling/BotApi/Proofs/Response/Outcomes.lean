import BotApi.Proofs.Response.Envelopes
import BotApi.Proofs.Response.Fitting
import Mathlib

/-!
# The outcomes of envelopes

An envelope of JSON that reports success has the value of its result, if the result fits. One that reports failure has
a rejection, whatever else it holds. Everything else has not the shape of a response. The three exclude each other, and
there is no other way out, unless the result is of a type that has no records.

## Main results

* `ofEnvelope_reports` — what a rejection says.
* `envelope_has_one_outcome` — which outcome an envelope has.
* `successful_envelope_breaks` — an envelope with a result that fits may have none.
-/

namespace BotApi.Response

open Json (isJson)

/-! ## What a rejection says -/

/-- Whether entries report a failure with a whole number among its parameters. -/
def HasParameter (entries : List (Key × Value)) (name : String) (n : Int) : Prop :=
  ∃ parameters, Value.get? entries "parameters" = some (.object parameters) ∧
    Value.get? parameters name = some (.int n)

/-- What a rejection says of the entries that report it. Its advice makes its kind. -/
structure Reports (entries : List (Key × Value)) (r : Rejection) : Prop where
  code : r.code = (Value.get? entries "error_code").getD .null
  described : ∀ d, Value.get? entries "description" = some d → d.isVoid = false → r.description = d
  undescribed : (∀ d, Value.get? entries "description" = some d → d.isVoid = true) → r.description = .text ""
  limited : ∀ seconds, r.advice = .retryAfter seconds ↔ ∃ n, HasParameter entries "retry_after" n ∧ seconds = .int n
  migrated : ∀ chat, r.advice = .migrateTo chat ↔
    (¬ ∃ n, HasParameter entries "retry_after" n) ∧ ∃ n, HasParameter entries "migrate_to_chat_id" n ∧ chat = .int n

section

variable {entries : List (Key × Value)}

theorem HasParameter.unique {name : String} {n m : Int} (h : HasParameter entries name n)
    (h' : HasParameter entries name m) : n = m := by
  obtain ⟨parameters, hparameters, hn⟩ := h
  obtain ⟨parameters', hparameters', hm⟩ := h'
  rw [hparameters] at hparameters'
  cases hparameters'
  rw [hn] at hm
  cases hm
  rfl

/-- Parameters are looked up in a mapping, and nothing else has any. -/
theorem get?_parameters_iff {parameters : List (Key × Value)}
    (h : Failure.entriesOf ((Value.get? entries "parameters").getD .null) = .ok parameters) {name : String} {n : Int} :
    Value.get? parameters name = some (.int n) ↔ HasParameter entries name n := by
  rw [Failure.entriesOf.eq_def] at h
  rw [HasParameter]
  cases hget : Value.get? entries "parameters" with
  | none =>
    rw [hget] at h
    cases h
    simp [Value.get?]
  | some v =>
    rw [hget] at h
    dsimp only [Option.getD_some] at h
    split at h
    · cases h
      simp
    · cases h
    · next hno _ =>
      cases h
      refine iff_of_false (by simp [Value.get?]) ?_
      rintro ⟨parameters, hsome, -⟩
      exact hno parameters (Option.some.inj hsome)

theorem intParameter?_cases {parameters : List (Key × Value)}
    (h : Failure.entriesOf ((Value.get? entries "parameters").getD .null) = .ok parameters) (name : String) :
    (∃ n, HasParameter entries name n ∧ Failure.intParameter? parameters name = some (.int n)) ∨
      (¬ ∃ n, HasParameter entries name n) ∧ Failure.intParameter? parameters name = none := by
  rw [Failure.intParameter?]
  split
  · next n hget => exact .inl ⟨n, (get?_parameters_iff h).1 hget, rfl⟩
  · next hno =>
    refine .inr ⟨?_, rfl⟩
    rintro ⟨n, hn⟩
    exact hno n ((get?_parameters_iff h).2 hn)

/-- A description is kept as it is if it says anything. -/
theorem descriptionOf_eq_ok {v d : Value} (h : Failure.descriptionOf v = .ok d) :
    d = if v.isVoid then .text "" else v := by
  have hvoid : ∀ b, v.isVoid? = .ok b → b = v.isVoid := by
    intro b hb
    cases v with
    | record type fields =>
      obtain ⟨_, -, rfl⟩ := map_eq_ok_iff.1 hb
      rfl
    | _ => exact (Except.ok.inj hb).symm
  rw [Failure.descriptionOf, bind_eq_ok_iff] at h
  obtain ⟨b, hb, h⟩ := h
  rw [hvoid b hb] at h
  split at h
  · next hv =>
    cases h
    rw [if_pos hv]
  · next hv =>
    cases h
    rw [if_neg hv]

/-- The failure that entries report is a rejection which says so. -/
theorem ofEnvelope_reports {f : Failure} (h : Failure.ofEnvelope entries = .ok f) :
    ∃ r, f = .rejected r ∧ Reports entries r := by
  -- the description and the parameters are read first, and then the texts of the message are made
  rw [Failure.ofEnvelope, bind_eq_ok_iff] at h
  obtain ⟨description, hdescription, h⟩ := h
  obtain ⟨parameters, hparameters, h⟩ := bind_eq_ok_iff.1 h
  obtain ⟨r, hr, rfl⟩ := map_eq_ok_iff.1 h
  rw [Rejection.make, bind_eq_ok_iff] at hr
  obtain ⟨codeText, -, hr⟩ := hr
  obtain ⟨descriptionText, -, hr⟩ := bind_eq_ok_iff.1 hr
  cases hr
  have hdescription := descriptionOf_eq_ok (mapError_eq_ok_iff.1 hdescription)
  have hparameters := intParameter?_cases (mapError_eq_ok_iff.1 hparameters)
  refine ⟨_, rfl, rfl, ?described, ?undescribed, ?limited, ?migrated⟩
  case described =>
    intro d hd hvoid
    rw [hd, Option.getD_some, hvoid] at hdescription
    exact hdescription
  case undescribed =>
    intro hvoid
    cases hget : Value.get? entries "description" with
    | none =>
      rw [hget] at hdescription
      exact hdescription
    | some d =>
      rw [hget, Option.getD_some, hvoid d hget] at hdescription
      exact hdescription
  case limited =>
    intro seconds
    rcases hparameters "retry_after" with ⟨n, hn, hretry⟩ | ⟨hno, hretry⟩
    · simp only [hretry, Advice.retryAfter.injEq]
      constructor
      · rintro rfl
        exact ⟨n, hn, rfl⟩
      · rintro ⟨m, hm, rfl⟩
        rw [hn.unique hm]
    · -- without a time to wait there may still be another chat, but that is another advice
      refine iff_of_false ?_ (by rintro ⟨n, hn, -⟩; exact hno ⟨n, hn⟩)
      rcases hparameters "migrate_to_chat_id" with ⟨n, -, hmigrate⟩ | ⟨-, hmigrate⟩ <;> simp [hretry, hmigrate]
  case migrated =>
    intro chat
    rcases hparameters "retry_after" with ⟨n, hn, hretry⟩ | ⟨hno, hretry⟩
    · exact iff_of_false (by simp [hretry]) fun h => h.1 ⟨n, hn⟩
    · rcases hparameters "migrate_to_chat_id" with ⟨n, hn, hmigrate⟩ | ⟨hno', hmigrate⟩
      · simp only [hretry, hmigrate, Advice.migrateTo.injEq]
        constructor
        · rintro rfl
          exact ⟨hno, n, hn, rfl⟩
        · rintro ⟨-, m, hm, rfl⟩
          rw [hn.unique hm]
      · refine iff_of_false (by simp [hretry, hmigrate]) ?_
        rintro ⟨-, n, hn, -⟩
        exact hno' ⟨n, hn⟩

end

/-! ## The outcome of an envelope -/

/-- Whether an envelope reports a failure by its entries. -/
def IsFailure (envelope : Value) (entries : List (Key × Value)) : Prop :=
  envelope = .object entries ∧ Value.get? entries "ok" = some (.bool false)

theorem IsFailure.not_isSuccess {envelope p : Value} {entries : List (Key × Value)} (h : IsFailure envelope entries) :
    ¬ IsSuccess envelope p := by
  obtain ⟨rfl, hfalse⟩ := h
  rintro ⟨_, hentries, htrue, -⟩
  cases hentries
  rw [hfalse] at htrue
  cases htrue

section

variable {types : Table TypeBinding} {method : MethodBinding} {envelope p : Value} {entries : List (Key × Value)}

/-- An envelope that reports a failure has a rejection. -/
theorem decodeEnvelope_of_isFailure (types : Table TypeBinding) (method : MethodBinding)
    (h : IsFailure envelope entries) (hjson : envelope.throughout isJson = true) (threshold : Threshold) :
    ∃ r, Reports entries r ∧ (decodeEnvelope threshold types method envelope).result = .ok (.failed (.rejected r)) := by
  obtain ⟨rfl, hok⟩ := h
  obtain ⟨f, hf⟩ := exists_ofEnvelope hjson
  obtain ⟨r, rfl, hr⟩ := ofEnvelope_reports hf
  refine ⟨r, hr, ?_⟩
  rw [decodeEnvelope, hok]
  dsimp only
  rw [hf]

/-- An envelope that reports neither has not the shape of one, or it lacks its result. -/
theorem decodeEnvelope_of_neither (hsuccess : ∀ p, ¬ IsSuccess envelope p)
    (hfailure : ∀ entries, ¬ IsFailure envelope entries) (hjson : envelope.throughout isJson = true)
    (threshold : Threshold) :
    ∃ path expected got, (decodeEnvelope threshold types method envelope).result =
      .ok (.failed (.shape method.name path expected got)) := by
  have hclass := classObstruction?_of_isPlain (isPlain_of_isJson (Value.holds_of_throughout hjson))
  unfold decodeEnvelope
  dsimp only
  split
  · next entries =>
    split
    · next hok =>
      split
      · next p hresult => exact absurd ⟨entries, rfl, hok, hresult⟩ (hsuccess p)
      · exact ⟨_, _, _, rfl⟩
    · next hok => exact absurd ⟨rfl, hok⟩ (hfailure entries)
    · exact ⟨_, _, _, rfl⟩
  · rw [hclass]
    exact ⟨_, _, _, rfl⟩

/-- An envelope that reports success has the reading of its result or is refused for it, unless a type has no
records. -/
theorem decodeEnvelope_of_success (founded : Founded types) (resolved : Resolved types)
    (closed : Closed types method.returns) (h : IsSuccess envelope p) (hjson : envelope.throughout isJson = true)
    (threshold : Threshold) :
    (∃ v, Fits types method.returns p ∧ IsReading types method.returns p v ∧
        (decodeEnvelope threshold types method envelope).result = .ok (.ok v)) ∨
      (¬ Fits types method.returns p ∧ ∃ path expected got,
        (decodeEnvelope threshold types method envelope).result =
          .ok (.failed (.shape method.name path expected got))) ∨
        ∃ fault, IsObstacle types fault ∧
          (decodeEnvelope threshold types method envelope).result = .error (.fault fault) := by
  have hplain : p.throughout isPlain = true := by
    obtain ⟨entries, rfl, -, hresult⟩ := h
    exact Value.throughout_mono (fun _ => isPlain_of_isJson) (Value.throughout_of_lookup hjson hresult)
  rw [decodeEnvelope_of_isSuccess h, result_of_decodeLogged _ _ _ _ hplain]
  cases hdecode : decode types types.size method.returns p with
  | ok v => exact .inl ⟨v, fits_of_decode hdecode, isReading_of_decode resolved hdecode, rfl⟩
  | error stop =>
    cases stop with
    | mismatch m => exact .inr (.inl ⟨fun hfits => not_refuses_of_fits hfits ⟨m, hdecode⟩, _, _, _, rfl⟩)
    | fault fault =>
      have room := hasRoom_of_size_le (Nat.le_refl types.size) method.returns
      exact .inr (.inr ⟨fault, isObstacle_of_decode founded resolved room closed hplain hdecode, rfl⟩)

end

/-- An envelope has one result at most. -/
theorem IsSuccess.unique {envelope p q : Value} (h : IsSuccess envelope p) (h' : IsSuccess envelope q) : p = q := by
  obtain ⟨entries, rfl, -, hp⟩ := h
  obtain ⟨others, hsame, -, hq⟩ := h'
  cases hsame
  rw [hp] at hq
  cases hq
  rfl

theorem load_of_not_isBody {raw : Value} (h : isBody raw = false) : load raw = .ok raw := by
  cases raw with
  | text => cases h
  | bytes => cases h
  | bytearray => cases h
  | _ => rfl

/-- An envelope of JSON has one of three outcomes, unless a type has no records. -/
theorem read_envelope_cases {types : Table TypeBinding} (founded : Founded types) (resolved : Resolved types)
    {method : MethodBinding} (closed : Closed types method.returns) {envelope : Value}
    (hjson : envelope.throughout isJson = true) (hbody : isBody envelope = false) (threshold : Threshold) :
    (∃ p v, IsSuccess envelope p ∧ Fits types method.returns p ∧ IsReading types method.returns p v ∧
        (read threshold types method envelope).result = .ok (.ok v)) ∨
      (∃ entries r, IsFailure envelope entries ∧ Reports entries r ∧
        (read threshold types method envelope).result = .ok (.failed (.rejected r))) ∨
      ((¬ ∃ p, IsSuccess envelope p ∧ Fits types method.returns p) ∧ (¬ ∃ entries, IsFailure envelope entries) ∧
        ∃ path expected got, (read threshold types method envelope).result =
          .ok (.failed (.shape method.name path expected got))) ∨
      ((∃ p, IsSuccess envelope p) ∧ ∃ fault, IsObstacle types fault ∧
        (read threshold types method envelope).result = .error (.fault fault)) := by
  rw [read, load_of_not_isBody hbody]
  by_cases hfailure : ∃ entries, IsFailure envelope entries
  · obtain ⟨entries, hfailure⟩ := hfailure
    obtain ⟨r, hr, hresult⟩ := decodeEnvelope_of_isFailure types method hfailure hjson threshold
    exact .inr (.inl ⟨entries, r, hfailure, hr, hresult⟩)
  · by_cases hsuccess : ∃ p, IsSuccess envelope p
    · obtain ⟨p, hp⟩ := hsuccess
      rcases decodeEnvelope_of_success founded resolved closed hp hjson threshold with
        ⟨v, hfits, hreading, hresult⟩ | ⟨hno, hshape⟩ | hfault
      · exact .inl ⟨p, v, hp, hfits, hreading, hresult⟩
      · refine .inr (.inr (.inl ⟨?_, hfailure, hshape⟩))
        -- the envelope has no other result that might fit
        rintro ⟨q, hq, hfits⟩
        rw [← hp.unique hq] at hfits
        exact hno hfits
      · exact .inr (.inr (.inr ⟨⟨p, hp⟩, hfault⟩))
    · refine .inr (.inr (.inl ⟨?_, hfailure, ?_⟩))
      · rintro ⟨p, hp, -⟩
        exact hsuccess ⟨p, hp⟩
      · exact decodeEnvelope_of_neither (fun p hp => hsuccess ⟨p, hp⟩) (fun entries h => hfailure ⟨entries, h⟩) hjson
          threshold

/-- An envelope of JSON has a value if it reports success with a result that fits, and the value is what the result is
read as. It has a rejection exactly if it reports a failure, and the rejection says so. In every other case it has not
the shape of a response. The exception is a success with a result of a type that has no records. Only a rejection that
tells how long to wait is worth another try. -/
theorem envelope_has_one_outcome {schema : Schema} {b : Bindings} (hb : (Bindings.build schema).result = .ok b)
    (founded : Founded b.types) {name : String} {method : MethodBinding} (hm : b.method? name = some method)
    {envelope : Value} (hjson : envelope.throughout isJson = true) (hbody : isBody envelope = false)
    (threshold : Threshold) :
    let outcome := (read threshold b.types method envelope).result
    (((∃ p, IsSuccess envelope p) ∧ ∃ fault, IsObstacle b.types fault ∧ outcome = .error (.fault fault)) ∨
        ((∃ p, IsSuccess envelope p ∧ Fits b.types method.returns p) → ∃ v, outcome = .ok (.ok v)) ∧
        (∀ v, outcome = .ok (.ok v) ↔
          ∃ p, IsSuccess envelope p ∧ Fits b.types method.returns p ∧ IsReading b.types method.returns p v) ∧
        ((∃ path expected got, outcome = .ok (.failed (.shape method.name path expected got))) ↔
          (¬ ∃ p, IsSuccess envelope p ∧ Fits b.types method.returns p) ∧ ¬ ∃ entries, IsFailure envelope entries)) ∧
      (∀ r, outcome = .ok (.failed (.rejected r)) → ∃ entries, IsFailure envelope entries ∧ Reports entries r) ∧
      (∀ entries, IsFailure envelope entries → ∃ r, outcome = .ok (.failed (.rejected r)) ∧ Reports entries r) ∧
      ∀ f, outcome = .ok (.failed f) →
        (f.isRetryable = true ↔ ∃ r seconds, f = .rejected r ∧ r.advice = .retryAfter seconds) := by
  intro outcome
  have closed := (Bindings.closed_of_method hb hm).2
  rcases read_envelope_cases founded (Bindings.resolved_of_build hb) closed hjson hbody threshold with
    ⟨p, v, hp, hfits, hreading, h⟩ | ⟨entries, r, hfailure, hr, h⟩ | ⟨hno, hnot, path, expected, got, h⟩ |
      ⟨hsuccess, fault, hobstacle, h⟩
  all_goals
    change outcome = _ at h
    rw [h]
  -- a value
  · refine ⟨.inr ⟨fun _ => ⟨v, rfl⟩, fun w => ?_, iff_of_false (by simp) fun hno => hno.1 ⟨p, hp, hfits⟩⟩, by simp,
      fun entries hfailure => absurd hp hfailure.not_isSuccess, by simp⟩
    constructor
    · intro hw
      cases hw
      exact ⟨p, hp, hfits, hreading⟩
    · rintro ⟨q, hq, -, hreading'⟩
      cases hp.unique hq
      rw [hreading.unique hreading']
  -- a rejection
  · refine ⟨.inr ⟨?_, fun w => iff_of_false (by simp) ?_, iff_of_false (by simp) fun hno => hno.2 ⟨entries, hfailure⟩⟩,
      ?_, ?_, ?_⟩
    · rintro ⟨p, hp, -⟩
      exact absurd hp hfailure.not_isSuccess
    · rintro ⟨p, hp, -⟩
      exact absurd hp hfailure.not_isSuccess
    · intro r' hr'
      cases hr'
      exact ⟨entries, hfailure, hr⟩
    · intro entries' hfailure'
      cases hfailure.1.symm.trans hfailure'.1
      exact ⟨r, rfl, hr⟩
    · intro f hf
      cases hf
      rw [Failure.isRetryable_iff]
      simp
  -- a mismatch
  · refine ⟨.inr ⟨fun hfits => absurd hfits hno, fun w => iff_of_false (by simp) ?_,
      iff_of_true ⟨path, expected, got, rfl⟩ ⟨hno, hnot⟩⟩, by simp,
      fun entries hfailure => absurd ⟨entries, hfailure⟩ hnot, ?_⟩
    · rintro ⟨p, hp, hfits, -⟩
      exact hno ⟨p, hp, hfits⟩
    · intro f hf
      cases hf
      rw [Failure.isRetryable_iff]
      simp
  -- a type without records
  · obtain ⟨p, hp⟩ := hsuccess
    exact ⟨.inl ⟨⟨p, hp⟩, fault, hobstacle, rfl⟩, by simp, fun entries hfailure => absurd hp hfailure.not_isSuccess,
      by simp⟩

/-! ### Points that a method returns -/

/-- A schema of points with a method that returns one, and a method that returns one that cannot be made. -/
def pointMethodsSchema : Schema :=
  { pointSchema with
    methods := .ofList
      [("getPoint", { href := "", description := [], fields := [], returns := ["Point"] }),
        ("getStuck", { href := "", description := [], fields := [], returns := ["Stuck"] })] }

theorem build_pointMethodsSchema :
    ∃ b, (Bindings.build pointMethodsSchema).result = .ok b ∧ b.types = pointTypes ∧ Founded b.types ∧
      b.method? "getPoint" = some (getMethod "getPoint" "get_point" (.ref "Point")) ∧
      b.method? "getStuck" = some (getMethod "getStuck" "get_stuck" (.ref "Stuck")) := by
  refine ⟨⟨pointTypes, .ofList [("getPoint", getMethod "getPoint" "get_point" (.ref "Point")),
    ("getStuck", getMethod "getStuck" "get_stuck" (.ref "Stuck"))], none⟩, eq_ok_of_toOption (by decide +kernel), rfl,
    founded_of_rank (fun _ => 0) (by decide), by decide +kernel, by decide +kernel⟩

/-- An envelope that reports a failure, with all that one may hold and a result that fits. -/
def failureEntries : List (Key × Value) :=
  [(.text "ok", .bool false), (.text "result", pointPayload), (.text "error_code", .int 429),
    (.text "description", .text "Too Many Requests"),
    (.text "parameters", .object [(.text "migrate_to_chat_id", .int 5), (.text "retry_after", .int 3)])]

theorem envelope_has_one_outcome_failure :
    ∃ b r, (Bindings.build pointMethodsSchema).result = .ok b ∧ Founded b.types ∧
      (Value.object failureEntries).throughout isJson = true ∧
      (read .all b.types (getMethod "getPoint" "get_point" (.ref "Point")) (.object failureEntries)).result =
        .ok (.failed (.rejected r)) ∧
      r.code = .int 429 ∧ r.description = .text "Too Many Requests" ∧ r.advice = .retryAfter (.int 3) := by
  obtain ⟨b, hb, -, founded, hm, -⟩ := build_pointMethodsSchema
  have hjson : (Value.object failureEntries).throughout isJson = true := by decide +kernel
  obtain ⟨-, -, hrejects, -⟩ := envelope_has_one_outcome hb founded hm hjson rfl .all
  obtain ⟨r, hr, hreports⟩ := hrejects failureEntries ⟨rfl, rfl⟩
  exact ⟨b, r, hb, founded, hjson, hr, hreports.code, hreports.described _ rfl rfl,
    (hreports.limited _).2 ⟨3, ⟨_, rfl, rfl⟩, rfl⟩⟩

/-- The result fits, and there is no value of it. -/
theorem successful_envelope_breaks :
    ∃ b, (Bindings.build pointMethodsSchema).result = .ok b ∧ Founded b.types ∧
      b.method? "getStuck" = some (getMethod "getStuck" "get_stuck" (.ref "Stuck")) ∧
      (successEnvelope pointPayload).throughout isJson = true ∧ Fits b.types (.ref "Stuck") pointPayload ∧
      (read .all b.types (getMethod "getStuck" "get_stuck" (.ref "Stuck")) (successEnvelope pointPayload)).result =
        .error (.fault (.noRecord "Stuck" "__init__")) := by
  obtain ⟨b, hb, htypes, founded, -, hm⟩ := build_pointMethodsSchema
  refine ⟨b, hb, founded, hm, by decide +kernel, ?_⟩
  rw [htypes]
  refine ⟨fits_pointPayload rfl (by decide), ?_⟩
  show (decodeEnvelope _ _ _ _).result = _
  rw [decodeEnvelope_of_isSuccess (isSuccess_successEnvelope _), result_of_decodeLogged _ _ _ _ (by decide +kernel)]
  cbv

end BotApi.Response
