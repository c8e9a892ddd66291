import BotApi.Proofs.Client.Calls
import BotApi.Proofs.Value.Lookup
import Mathlib

/-!
# Calls by every route

A call encodes its arguments, sends one request at most, and decodes the response. It does so by each of its names and
on each route, and with a transport that has to be awaited as with one that has not. One thing tells the routes apart:
where an answer may have to be awaited, a response that looks as if it had to be is.

## Main results

* `IsExchange` — the steps of a call, whatever its route.
* `call_isExchange_or` — calls go through these steps.
* `call_is_one_exchange` — calls on two routes come to the same.
* `response_tells_routes_apart` — a response that is awaited by mistake.
-/

namespace BotApi

namespace Client

/-! ## Arguments -/

/-- Keywords as entries of a mapping. -/
def entriesOfKeywords (keywords : List (String × Value)) : List (Key × Value) :=
  keywords.map fun e => (.text e.1, e.2)

/-- Each argument is the last one under its name, and the keywords come after what was given. -/
theorem get?_gathered (entries : Request.Arguments) (keywords : List (String × Value)) (key : String) :
    Value.get? (gathered entries keywords) key = Value.get? (entries ++ entriesOfKeywords keywords).reverse key := by
  have hoverride : ∀ done, override done keywords =
      (entriesOfKeywords keywords).foldl (fun done e => Entries.put e.1 e.2 done) done := by
    intro done
    rw [entriesOfKeywords, List.foldl_map]
    rfl
  -- what was given is put in by the values that its keys stand for, and the keywords by themselves
  rw [gathered, hoverride, Value.get?_foldl fun k v done => Value.get?_put k v done key,
    Value.get?_foldl fun k v done => Value.get?_putKey k v done key, List.reverse_append, Value.get?_append]
  simp [Value.get?]

/-! ## Routes -/

/-- Whether a name leads to a method of the API on a route. Attributes do unless they are a client's own or begin with
an underscore, and a transport whose answers are deferred has to be awaited. -/
structure Serves (route : Route) (deferred : Bool) (name : String) : Prop where
  awaited : deferred = true → route = .awaited
  free : route = .attribute → name ∉ ownAttributes ∧ name.toList.head? ≠ some '_'

section

variable {client : Client} {route : Route} {name : String} {method : MethodBinding} {threshold : Threshold}

theorem target_attribute (hm : client.bindings.method? name = some method)
    (hown : client.bindings.method? method.name = some method) (hfree : name ∉ ownAttributes)
    (hscore : name.toList.head? ≠ some '_') (arguments : Option Value) (keywords : List String) :
    client.target .attribute (.text name) arguments keywords = .ok (method, arguments.getD .null) := by
  have hparts : ["bindings", "options", "transport"].contains name = false := by
    rw [← Bool.not_eq_true, List.contains_iff_mem]
    intro hmem
    have hall : ∀ part ∈ ["bindings", "options", "transport"], part ∈ ownAttributes := by decide
    exact hfree (hall name hmem)
  have hfound : client.methodAttribute name = .ok method := by
    rw [methodAttribute, hparts, hm]
    simp [hscore]
  have hnamed : client.named (.text method.name) = .ok method := by
    rw [named, hown]
  have hcontains : ownAttributes.contains name = false := by
    rw [← Bool.not_eq_true, List.contains_iff_mem]
    exact hfree
  rw [target]
  simp only [hcontains, hfound]
  show (client.named (.text method.name) >>= _) = _
  rw [hnamed]
  rfl

/-- The request goes out once, and the reply to it makes the outcome. -/
theorem result_of_send (hserves : Serves route client.transport.deferred name) (request : Request) :
    (client.send threshold route method request).result =
      ⟨[(request, client.options)],
        (ofReply threshold client.bindings.types method (client.reply route request)).result⟩ := by
  rw [send, if_neg]
  simp only [Bool.and_eq_true, decide_eq_true_eq, not_and, not_not]
  exact hserves.awaited

/-- A route takes the reply of the transport as it is, unless it awaits what need not be awaited. -/
theorem reply_cases (client : Client) (route : Route) (request : Request) :
    client.reply route request = client.transport.answer request client.options ∨
      route = .awaited ∧ client.transport.deferred = false ∧
        ∃ raw o, client.transport.answer request client.options = .response raw ∧ waitObstruction? raw = some o ∧
          client.reply route request = .raised (.cause ⟨"TypeError", [.text o.message]⟩) := by
  unfold reply
  split
  · next raw hanswer hdeferred =>
    split
    · next o ho => exact .inr ⟨rfl, hdeferred, raw, o, hanswer, ho, rfl⟩
    · exact .inl hanswer.symm
  · exact .inl rfl

end

/-! ## The steps of a call -/

/-- What calls a method may come to, given what its transport answers. Nothing is sent if the arguments are not encoded.
Otherwise the request is sent once with the options, and the outcome is that of the response or of what was raised. -/
inductive IsExchange (threshold : Threshold) (types : Table TypeBinding) (method : MethodBinding)
    (arguments : Request.Arguments) (answer : Request → Options → Reply) (options : Options) : Exchange → Prop
  | refused {e : CallError} (encoded : Request.encode types method arguments = .error (.refused e)) :
      IsExchange threshold types method arguments answer options ⟨[], .ok (.refused e)⟩
  | broken {failure : Request.EncodeError} (encoded : Request.encode types method arguments = .error failure)
      (other : ∀ e, failure ≠ .refused e) :
      IsExchange threshold types method arguments answer options ⟨[], .error (.encoding failure)⟩
  | answered {request : Request} {raw : Value} (encoded : Request.encode types method arguments = .ok request)
      (reply : answer request options = .response raw) :
      IsExchange threshold types method arguments answer options
        ⟨[(request, options)], ofResponse (Response.read threshold types method raw).result⟩
  | failed {request : Request} {f : Failure} (encoded : Request.encode types method arguments = .ok request)
      (reply : answer request options = .raised (.failure f)) :
      IsExchange threshold types method arguments answer options ⟨[(request, options)], .ok (.failed f)⟩
  | raised {request : Request} {c : Cause} {text : String}
      (encoded : Request.encode types method arguments = .ok request)
      (reply : answer request options = .raised (.cause c)) (literal : c.literal = .ok text) :
      IsExchange threshold types method arguments answer options
        ⟨[(request, options)], .ok (.failed (.transport text))⟩
  | unwritable {request : Request} {c : Cause} {u : Unwritable}
      (encoded : Request.encode types method arguments = .ok request)
      (reply : answer request options = .raised (.cause c)) (literal : c.literal = .error u) :
      IsExchange threshold types method arguments answer options
        ⟨[(request, options)], .error (.response (.unwritable u))⟩

section

variable {threshold : Threshold} {types : Table TypeBinding} {method : MethodBinding} {arguments : Request.Arguments}
  {answer : Request → Options → Reply} {options : Options} {x y : Exchange}

/-- What was encoded and sent as an exchange says. -/
theorem isExchange_of_reply {request : Request} (encoded : Request.encode types method arguments = .ok request) :
    IsExchange threshold types method arguments answer options
      ⟨[(request, options)], (ofReply threshold types method (answer request options)).result⟩ := by
  cases hreply : answer request options with
  | response raw => exact .answered encoded hreply
  | raised e =>
    cases e with
    | failure f => exact .failed encoded hreply
    | cause c =>
      rw [ofReply, TransportError.report]
      cases hliteral : c.literal with
      | ok text => exact .raised encoded hreply hliteral
      | error u => exact .unwritable encoded hreply hliteral

theorem IsExchange.eq (h : IsExchange threshold types method arguments answer options x) :
    x = match Request.encode types method arguments with
      | .ok request => ⟨[(request, options)], (ofReply threshold types method (answer request options)).result⟩
      | .error failure => (ofEncodeError method failure).result := by
  cases h with
  | refused encoded =>
    rw [encoded]
    rfl
  | @broken failure encoded other =>
    rw [encoded]
    cases failure with
    | refused e => exact absurd rfl (other e)
    | _ => rfl
  | answered encoded reply =>
    rw [encoded]
    dsimp only
    rw [reply]
    rfl
  | failed encoded reply =>
    rw [encoded]
    dsimp only
    rw [reply]
    rfl
  | raised encoded reply literal =>
    rw [encoded]
    dsimp only
    rw [reply, ofReply, TransportError.report, literal]
    rfl
  | unwritable encoded reply literal =>
    rw [encoded]
    dsimp only
    rw [reply, ofReply, TransportError.report, literal]
    rfl

/-- A call has one exchange. -/
theorem IsExchange.unique (h : IsExchange threshold types method arguments answer options x)
    (h' : IsExchange threshold types method arguments answer options y) : x = y := h.eq.trans h'.eq.symm

end

/-! ## Calls -/

theorem literal_typeError (message : String) :
    (Cause.mk "TypeError" [.text message]).literal = .ok ("TypeError(" ++ Text.quoted message ++ ")") := by
  rfl

section

variable {b : Bindings} {name : String} {method : MethodBinding} {route : Route}

/-- A call that leads to a method is a call of it. -/
theorem call_of_serves (hm : b.method? name = some method) (hown : b.method? method.name = some method)
    {transport : Transport} (hserves : Serves route transport.deferred name) (options : Options) (threshold : Threshold)
    (given : Option Request.Arguments) (keywords : List (String × Value)) :
    (Client.mk b transport options).call threshold route (.text name) (given.map .object) keywords =
      (Client.mk b transport options).callMethod threshold route method (gathered (given.getD []) keywords) := by
  refine call_of_target _ (fun arguments keywords => ?_) threshold given keywords
  -- as an attribute the method is looked up twice, the second time by its documented name
  by_cases hroute : route = .attribute
  · subst hroute
    obtain ⟨hfree, hscore⟩ := hserves.free rfl
    exact target_attribute hm hown hfree hscore arguments keywords
  · exact target_text hm hroute arguments keywords

/-- A call is an exchange, unless its response is awaited by mistake. -/
theorem call_isExchange_or (hm : b.method? name = some method) (hown : b.method? method.name = some method)
    {transport : Transport} (hserves : Serves route transport.deferred name) (options : Options) (threshold : Threshold)
    (given : Option Request.Arguments) (keywords : List (String × Value)) :
    let arguments := gathered (given.getD []) keywords
    let exchange :=
      ((Client.mk b transport options).call threshold route (.text name) (given.map .object) keywords).result
    IsExchange threshold b.types method arguments transport.answer options exchange ∨
      (route = .awaited ∧ transport.deferred = false) ∧
        ∃ request raw o, Request.encode b.types method arguments = .ok request ∧
          transport.answer request options = .response raw ∧ waitObstruction? raw = some o ∧
          exchange =
            ⟨[(request, options)], .ok (.failed (.transport ("TypeError(" ++ Text.quoted o.message ++ ")")))⟩ := by
  dsimp only
  rw [call_of_serves hm hown hserves]
  rcases callMethod_cases ⟨b, transport, options⟩ rfl threshold route method (gathered (given.getD []) keywords) with
    ⟨request, hencode, hexchange⟩ | ⟨e, hencode, hexchange⟩ | ⟨failure, hencode, hother, hexchange⟩
  · rw [hexchange, result_of_send hserves]
    rcases reply_cases ⟨b, transport, options⟩ route request with
      hreply | ⟨hroute, hdeferred, raw, o, hanswer, ho, hreply⟩
    · rw [hreply]
      exact .inl (isExchange_of_reply hencode)
    · refine .inr ⟨⟨hroute, hdeferred⟩, request, raw, o, hencode, hanswer, ho, ?_⟩
      rw [hreply, ofReply, TransportError.report, literal_typeError]
      rfl
  · rw [hexchange]
    exact .inl (.refused hencode)
  · rw [hexchange]
    exact .inl (.broken hencode hother)

/-- A call by name, or as an attribute, comes to what its response is read as. -/
theorem call_of_response (hm : b.method? name = some method) (hown : b.method? method.name = some method)
    {transport : Transport} (hserves : Serves route transport.deferred name) (hroute : route ≠ .awaited)
    {options : Options} (threshold : Threshold) (given : Option Request.Arguments) (keywords : List (String × Value))
    {request : Request} {raw : Value}
    (hencode : Request.encode b.types method (gathered (given.getD []) keywords) = .ok request)
    (hreply : transport.answer request options = .response raw) :
    ((Client.mk b transport options).call threshold route (.text name) (given.map .object) keywords).result =
      ⟨[(request, options)], ofResponse (Response.read threshold b.types method raw).result⟩ := by
  rcases call_isExchange_or hm hown hserves options threshold given keywords with hexchange | ⟨⟨hawaited, -⟩, -⟩
  · exact hexchange.unique (.answered hencode hreply)
  · exact absurd hawaited hroute

end

/-- A call encodes what it was given with its keywords put over that, sends one request at most, and decodes the
response; whatever is raised on the way is its outcome. It does so on every route and under every name, and all of them
come to the same. The exception is a response with something in the place of what is asked for when one waits: a route
that may have to wait does so, and that fails. -/
theorem call_is_one_exchange {schema : Schema} {b : Bindings} (hb : (Bindings.build schema).result = .ok b)
    {name : String} {method : MethodBinding} (hm : b.method? name = some method) (transport : Transport) {route : Route}
    (hserves : Serves route transport.deferred name) (options : Options) (threshold : Threshold)
    (given : Option Request.Arguments) (keywords : List (String × Value)) :
    let arguments := gathered (given.getD []) keywords
    let exchange :=
      ((Client.mk b transport options).call threshold route (.text name) (given.map .object) keywords).result
    (∀ key, Value.get? arguments key = Value.get? (given.getD [] ++ entriesOfKeywords keywords).reverse key) ∧
      (IsExchange threshold b.types method arguments transport.answer options exchange ∨
        (route = .awaited ∧ transport.deferred = false) ∧
          ∃ request raw o, Request.encode b.types method arguments = .ok request ∧
            transport.answer request options = .response raw ∧ waitObstruction? raw = some o ∧
            exchange =
              ⟨[(request, options)], .ok (.failed (.transport ("TypeError(" ++ Text.quoted o.message ++ ")")))⟩) ∧
      ∀ name' route' transport', b.method? name' = some method → Serves route' transport'.deferred name' →
        transport'.answer = transport.answer →
        (∀ request raw, Request.encode b.types method arguments = .ok request →
          transport.answer request options = .response raw → waitObstruction? raw = none) →
        ((Client.mk b transport' options).call threshold route' (.text name') (given.map .object) keywords).result =
          exchange := by
  have hown := Bindings.method?_name hb hm
  refine ⟨get?_gathered _ keywords, call_isExchange_or hm hown hserves options threshold given keywords, ?_⟩
  intro name' route' transport' hm' hserves' hanswer hplain
  -- no response is awaited by mistake, and so both calls are the one exchange
  rcases call_isExchange_or hm' hown hserves' options threshold given keywords with
    hexchange' | ⟨-, request, raw, o, hencode, hreply, ho, -⟩
  · rcases call_isExchange_or hm hown hserves options threshold given keywords with
      hexchange | ⟨-, request, raw, o, hencode, hreply, ho, -⟩
    · rw [hanswer] at hexchange'
      exact hexchange'.unique hexchange
    · rw [hplain request raw hencode hreply] at ho
      cases ho
  · rw [hanswer] at hreply
    rw [hplain request raw hencode hreply] at ho
    cases ho

/-! ### Profiles -/

/-- A schema with profiles, which have a field in the place of what is asked for when one waits, and with a method that
returns a profile. -/
def profileSchema : Schema where
  version := none
  releaseDate := none
  changelog := none
  types := .ofList
    [("Profile", { href := "", description := [], subtypes := [], subtypeOf := []
                   fields := [⟨"id", ["Integer"], true, ""⟩, ⟨"__await__", ["Integer"], false, ""⟩] })]
  methods := .ofList [("getMe", { href := "", description := [], fields := [], returns := ["Profile"] })]

/-- The binding of the method. -/
def profileMethod : MethodBinding where
  name := "getMe"
  params := []
  returns := .ref "Profile"
  hasAttachment := false
  snakeName := "get_me"
  description := []

/-- The bindings of the schema. -/
def profileBindings : Bindings where
  types := .ofList
    [("Profile", { name := "Profile", variants := [], description := []
                   fields := [⟨"id", "id", .primitive .integer, true, ""⟩,
                     ⟨"__await__", "__await__", .primitive .integer, false, ""⟩] })]
  methods := .ofList [("getMe", profileMethod)]
  version := none

theorem build_profileSchema :
    (Bindings.build profileSchema).result = .ok profileBindings ∧
      profileBindings.method? "getMe" = some profileMethod ∧ profileBindings.method? "get_me" = some profileMethod :=
  ⟨eq_ok_of_toOption (by decide +kernel), by decide +kernel, by decide +kernel⟩

/-- A profile. -/
def profile : Value := .record "Profile" [(⟨"id", "id", true⟩, .int 1), (⟨"__await__", "__await__", false⟩, .absent)]

/-- The response with it. -/
def profileResponse : Value :=
  .object [(.text "ok", .bool true), (.text "result", .object [(.text "id", .int 1)])]

/-- The request for it. -/
def profileRequest : Request := ⟨"getMe", .json []⟩

theorem encode_profileMethod : Request.encode profileBindings.types profileMethod [] = .ok profileRequest := by
  cbv

/-- A transport that answers at once, or when it is awaited. -/
def answering (deferred : Bool) (raw : Value) : Transport := ⟨deferred, fun _ _ => .response raw⟩

theorem serves_getMe : Serves .awaited true "getMe" ∧ Serves .attribute false "get_me" :=
  ⟨⟨fun _ => rfl, by simp⟩, ⟨by simp, fun _ => by decide⟩⟩

theorem call_is_one_exchange_profile :
    ∃ b, (Bindings.build profileSchema).result = .ok b ∧ b.method? "get_me" = some profileMethod ∧
      Serves .attribute (answering false profileResponse).deferred "get_me" ∧
      ((Client.mk b (answering false profileResponse) []).call .all .attribute (.text "get_me") none []).result =
        ⟨[(profileRequest, [])], .ok (.ok profile)⟩ ∧
      ((Client.mk b (answering true profileResponse) []).call .all .awaited (.text "getMe") none []).result =
        ⟨[(profileRequest, [])], .ok (.ok profile)⟩ := by
  obtain ⟨hb, hm, hsnake⟩ := build_profileSchema
  obtain ⟨hawaited, hattribute⟩ := serves_getMe
  have hread : (Response.read .all profileBindings.types profileMethod profileResponse).result = .ok (.ok profile) := by
    cbv
  have hone : ((Client.mk profileBindings (answering false profileResponse) []).call .all .attribute (.text "get_me")
      none []).result = ⟨[(profileRequest, [])], .ok (.ok profile)⟩ := by
    refine (call_of_response hsnake hm hattribute (by simp) .all none [] encode_profileMethod rfl).trans ?_
    rw [hread]
    rfl
  obtain ⟨-, -, hsame⟩ := call_is_one_exchange hb hsnake (answering false profileResponse) hattribute [] .all none []
  refine ⟨profileBindings, hb, hsnake, hattribute, hone, (hsame "getMe" .awaited (answering true profileResponse) hm
    hawaited rfl ?_).trans hone⟩
  -- the response is no record
  rintro request raw - hraw
  cases hraw
  rfl

/-- A transport comes back with a profile instead of a response. By name the call tells that this is no response. When
the profile might have to be awaited it is, which fails. -/
theorem response_tells_routes_apart :
    ∃ b, (Bindings.build profileSchema).result = .ok b ∧ b.method? "getMe" = some profileMethod ∧
      ((Client.mk b (answering false profile) []).call .all .byName (.text "getMe") none []).result =
        ⟨[(profileRequest, [])], .ok (.failed (.shape "getMe" "envelope" "envelope" "Profile"))⟩ ∧
      ((Client.mk b (answering false profile) []).call .all .awaited (.text "getMe") none []).result =
        ⟨[(profileRequest, [])], .ok (.failed (.transport
          ("TypeError(" ++ Text.quoted (Obstruction.lost .waiting).message ++ ")")))⟩ := by
  obtain ⟨hb, hm, -⟩ := build_profileSchema
  have hname : Serves .byName (answering false profile).deferred "getMe" := ⟨by simp [answering], by simp⟩
  have hawaited : Serves .awaited (answering false profile).deferred "getMe" := ⟨fun _ => rfl, by simp⟩
  refine ⟨profileBindings, hb, hm, ?_, ?_⟩
  · exact call_of_response hm hm hname (by simp) .all none [] encode_profileMethod rfl
  · rcases callMethod_cases ⟨profileBindings, answering false profile, []⟩ rfl .all .awaited profileMethod [] with
      ⟨request, hok, hexchange⟩ | ⟨e, hrefused, -⟩ | ⟨failure, herror, -, -⟩
    · rw [encode_profileMethod] at hok
      cases hok
      have hcall := call_of_serves hm hm hawaited [] .all none []
      refine (congrArg Logged.result hcall).trans (hexchange.trans ((result_of_send hawaited profileRequest).trans ?_))
      show (⟨[(profileRequest, [])], (ofReply _ _ _
        (.raised (.cause ⟨"TypeError", [.text (Obstruction.lost .waiting).message]⟩))).result⟩ : Exchange) = _
      rw [ofReply, TransportError.report, literal_typeError]
      rfl
    · rw [encode_profileMethod] at hrefused
      cases hrefused
    · rw [encode_profileMethod] at herror
      cases herror

end Client

end BotApi
