import BotApi.Client
import BotApi.Proofs.Request.Faults

/-!
# Calls of known methods

A call of a method that the bindings have is sent, or it is refused and nothing is sent. What else may come of its
arguments has a cause in one of them.

## Main results

* `call_eq` — a call by name is one of the method, with its keywords put over its arguments.
* `sent_or_refused_or_caused` — what may come of the arguments of a call.
* `call_breaks_at_stream` — a call need not be sent or refused.
-/

namespace BotApi

namespace Client

/-- The arguments of a call, each under its last value, overridden by keywords. -/
def gathered (entries : Request.Arguments) (keywords : List (String × Value)) : Request.Arguments :=
  override (entries.foldl (fun done e => Value.putKey e.1 e.2 done) []) keywords

theorem toKey?_toValue (k : Key) : k.toValue.toKey? = some k := by
  cases k <;> rfl

theorem entriesOfPairs?_toValue (entries : Request.Arguments) :
    Value.entriesOfPairs? (entries.map fun e => (e.1.toValue, e.2)) =
      some (entries.foldl (fun done e => Value.putKey e.1 e.2 done) []) := by
  unfold Value.entriesOfPairs?
  generalize ([] : List (Key × Value)) = done
  induction entries generalizing done with
  | nil => rfl
  | cons e rest ih =>
    rw [List.map_cons, List.foldlM_cons, List.foldl_cons, toKey?_toValue]
    exact ih (Value.putKey e.1 e.2 done)

variable {client : Client} {name : String} {method : MethodBinding}

theorem target_text (hm : client.bindings.method? name = some method) {route : Route} (hroute : route ≠ .attribute)
    (arguments : Option Value) (keywords : List String) :
    client.target route (.text name) arguments keywords = .ok (method, arguments.getD .null) := by
  have hnamed : client.named (.text name) = .ok method := by
    rw [named, hm]
  cases route with
  | byName =>
    show (client.named (.text name) >>= _) = _
    rw [hnamed]
    rfl
  | awaited =>
    show (client.named (.text name) >>= _) = _
    rw [hnamed]
    rfl
  | _ => exact absurd rfl hroute

/-- A call that leads to a method is a call of it with the arguments gathered. -/
theorem call_of_target (client : Client) {route : Route}
    (htarget : ∀ arguments keywords,
      client.target route (.text name) arguments keywords = .ok (method, arguments.getD .null))
    (threshold : Threshold) (given : Option Request.Arguments) (keywords : List (String × Value)) :
    client.call threshold route (.text name) (given.map .object) keywords =
      client.callMethod threshold route method (gathered (given.getD []) keywords) := by
  unfold call
  rw [htarget]
  cases given with
  | none => rfl
  | some entries =>
    -- the pairs of a mapping have its keys
    show client.callPairs threshold route method (entries.map fun e => (e.1.toValue, e.2)) keywords = _
    unfold callPairs
    rw [entriesOfPairs?_toValue]
    rfl

/-- A call by name is a call of the method with that name. -/
theorem call_eq (client : Client) (hm : client.bindings.method? name = some method) {route : Route}
    (hroute : route ≠ .attribute) (threshold : Threshold) (given : Option Request.Arguments)
    (keywords : List (String × Value)) :
    client.call threshold route (.text name) (given.map .object) keywords =
      client.callMethod threshold route method (gathered (given.getD []) keywords) :=
  call_of_target client (target_text hm hroute) threshold given keywords

/-- What becomes of a call once its arguments were looked at: it is sent, or it is refused without being sent, or
its arguments are to blame. -/
theorem callMethod_cases (client : Client) {types : Table TypeBinding} (htypes : client.bindings.types = types)
    (threshold : Threshold) (route : Route) (method : MethodBinding) (arguments : Request.Arguments) :
    (∃ request, Request.encode types method arguments = .ok request ∧
        (client.callMethod threshold route method arguments).result =
          (client.send threshold route method request).result) ∨
      (∃ e, Request.encode types method arguments = .error (.refused e) ∧
        (client.callMethod threshold route method arguments).result = ⟨[], .ok (.refused e)⟩) ∨
      ∃ failure, Request.encode types method arguments = .error failure ∧ (∀ e, failure ≠ .refused e) ∧
        (client.callMethod threshold route method arguments).result = ⟨[], .error (.encoding failure)⟩ := by
  unfold callMethod Request.encodeLogged
  rw [htypes]
  cases hencode : Request.encode types method arguments with
  | ok request => exact .inl ⟨request, rfl, rfl⟩
  | error failure =>
    cases failure with
    | refused e => exact .inr (.inl ⟨e, rfl, rfl⟩)
    | _ => exact .inr (.inr ⟨_, rfl, fun e => by simp, rfl⟩)

/-- A method that bindings have encodes any arguments to a request, or it refuses them, unless one of the values in
them is the cause of another failure. So a call by name is sent, or comes back refused with nothing sent, unless there
is such a value. -/
theorem sent_or_refused_or_caused {schema : Schema} {b : Bindings} (hb : (Bindings.build schema).result = .ok b)
    (founded : Founded b.types) {name : String} {method : MethodBinding} (hm : b.method? name = some method) :
    (∀ arguments failure, Request.encode b.types method arguments = .error failure →
      (∃ e, failure = .refused e) ∨
        ∃ v ∈ (Value.object arguments).parts, Request.isClear failure v = false) ∧
      ∀ (transport : Transport) (options : Options) (threshold : Threshold) (route : Route)
        (given : Option Request.Arguments) (keywords : List (String × Value)), route ≠ .attribute →
        let client : Client := ⟨b, transport, options⟩
        let arguments := gathered (given.getD []) keywords
        let exchange := (client.call threshold route (.text name) (given.map .object) keywords).result
        (∃ request, Request.encode b.types method arguments = .ok request ∧
            exchange = (client.send threshold route method request).result) ∨
          (∃ e, Request.encode b.types method arguments = .error (.refused e) ∧ exchange = ⟨[], .ok (.refused e)⟩) ∨
          ∃ failure, exchange = ⟨[], .error (.encoding failure)⟩ ∧
            ∃ v ∈ (Value.object arguments).parts, Request.isClear failure v = false := by
  have resolved := Bindings.resolved_of_build hb
  have closed := (Bindings.closed_of_method hb hm).1
  have hencode : ∀ arguments failure, Request.encode b.types method arguments = .error failure →
      (∃ e, failure = .refused e) ∨ ∃ v ∈ (Value.object arguments).parts, Request.isClear failure v = false :=
    fun arguments failure h => Request.exists_cause_of_encode resolved founded closed h
  refine ⟨hencode, fun transport options threshold route given keywords hroute => ?_⟩
  dsimp only
  rw [call_eq ⟨b, transport, options⟩ hm hroute]
  rcases callMethod_cases ⟨b, transport, options⟩ rfl threshold route method
    (gathered (given.getD []) keywords) with hsent | hrefused | ⟨failure, herror, hne, hexchange⟩
  · exact .inl hsent
  · exact .inr (.inl hrefused)
  · -- the failure is no refusal, and so it has a cause
    refine .inr (.inr ⟨failure, hexchange, (hencode _ failure herror).resolve_left ?_⟩)
    rintro ⟨e, he⟩
    exact hne e he

/-! ### A stream with a number for a name -/

/-- A schema with a method that takes a file. -/
def documentSchema : Schema where
  version := none
  releaseDate := none
  changelog := none
  types := .empty
  methods := .ofList [("send",
    { href := "", description := [], returns := ["True"], fields := [⟨"doc", ["InputFile"], true, ""⟩] })]

/-- The binding of that method. -/
def documentMethod : MethodBinding where
  name := "send"
  params := [⟨"doc", "doc", .primitive .inputFile, true, ""⟩]
  returns := .primitive .literalTrue
  hasAttachment := true
  snakeName := "send"
  description := []

/-- The bindings of the schema. -/
def documentBindings : Bindings := ⟨.empty, .ofList [("send", documentMethod)], none⟩

theorem build_documentSchema :
    (Bindings.build documentSchema).result = .ok documentBindings ∧
      documentBindings.method? "send" = some documentMethod :=
  ⟨eq_ok_of_toOption (by decide +kernel), by decide +kernel⟩

theorem founded_documentBindings : Founded documentBindings.types := founded_of_rank (fun _ => 0) (by decide)

/-- A stream with a name that is no text. -/
def numberedStream : Value := .stream ⟨[0], .other⟩

/-- A transport that comes back with nothing. -/
def mute : Transport := ⟨false, fun _ _ => .response .null⟩

theorem encode_numberedStream :
    Request.encode .empty documentMethod [(.text "doc", numberedStream)] = .error (.fault .streamName) := by
  cbv

theorem sent_or_refused_or_caused_numberedStream :
    Founded documentBindings.types ∧
      ∃ v ∈ (Value.object [(.text "doc", numberedStream)]).parts,
        Request.isClear (.fault .streamName) v = false := by
  obtain ⟨hb, hm⟩ := build_documentSchema
  have hcause := (sent_or_refused_or_caused hb founded_documentBindings hm).1 _ _ encode_numberedStream
  refine ⟨founded_documentBindings, hcause.resolve_left ?_⟩
  rintro ⟨e, he⟩
  cases he

/-- A stream is a file to the encoder, which then cannot make one of it. The call ends with that failure. -/
theorem call_breaks_at_stream :
    ∃ b, (Bindings.build documentSchema).result = .ok b ∧ Founded b.types ∧
      b.method? "send" = some documentMethod ∧
      Request.encode b.types documentMethod [(.text "doc", numberedStream)] = .error (.fault .streamName) ∧
      ((Client.mk b mute []).call .all .byName (.text "send")
        (some (.object [(.text "doc", numberedStream)])) []).result =
          ⟨[], .error (.encoding (.fault .streamName))⟩ := by
  obtain ⟨hb, hm⟩ := build_documentSchema
  refine ⟨documentBindings, hb, founded_documentBindings, hm, encode_numberedStream, ?_⟩
  have hroute : Route.byName ≠ .attribute := by simp
  have hcall := call_eq ⟨documentBindings, mute, []⟩ hm hroute .all (some [(.text "doc", numberedStream)]) []
  rw [Option.map_some] at hcall
  rw [hcall]
  -- the call ends as the encoding does
  have htypes : documentBindings.types = .empty := rfl
  rcases callMethod_cases ⟨documentBindings, mute, []⟩ htypes .all .byName documentMethod
    [(.text "doc", numberedStream)] with ⟨request, hok, -⟩ | ⟨e, hrefused, -⟩ | ⟨failure, herror, -, hexchange⟩
  · rw [encode_numberedStream] at hok
    cases hok
  · rw [encode_numberedStream] at hrefused
    cases hrefused
  · rw [encode_numberedStream] at herror
    cases herror
    exact hexchange

end Client

end BotApi
