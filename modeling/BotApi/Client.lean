import BotApi.Response.Envelope
import BotApi.TransportError

/-!
# Calls

A call is encoded, handed to the transport, and its response decoded. Whatever goes wrong with the arguments,
the transport or the response is the outcome of the call, and nothing is tried twice. An outcome comes with
the requests that were sent.
-/

namespace BotApi

/-- What a transport comes back with. -/
inductive Reply
  | response (raw : Value)
  | raised (e : TransportError)

/-- The options of a client, which its transport gets with each request. -/
abbrev Options := List (String × Value)

/-- A transport. A deferred one does nothing until its answer is awaited. -/
structure Transport where
  deferred : Bool
  answer : Request → Options → Reply

/-- A client: bindings, and a transport with its options. -/
structure Client where
  bindings : Bindings
  transport : Transport
  options : Options

/-- How a call is made: by name, by name and awaited, or as an attribute of the client. -/
inductive Route
  | byName
  | awaited
  | attribute
  deriving DecidableEq

namespace Client

/-- What a call comes to. -/
inductive Outcome
  | ok (v : Value)
  | failed (f : Failure)
  | refused (e : CallError)

/-- What keeps a call from having an outcome. -/
inductive Breakdown
  | unknownMethod (shown : String)
  | noAttribute (name : String)
  /-- What was asked for is no method, or cannot be called so. -/
  | notAMethod
  /-- What the call gives is no outcome, but a value of another kind. -/
  | noOutcome (kind : String)
  | notArguments (f : Value.MappingFault)
  | encoding (e : Request.EncodeError)
  | response (b : Response.Breakdown)

/-- A call: what was sent, and what it came to. -/
structure Exchange where
  sent : List (Request × Options)
  result : Except Breakdown Outcome

/-- A client with options, none of which may be called like a part of the client. -/
def make? (bindings : Bindings) (transport : Transport) (options : Options) : Option Client :=
  if options.any fun e => ["self", "bindings", "transport"].contains e.1 then none
  else some ⟨bindings, transport, options⟩

/-! ## Finding the method -/

/-- The attributes of a client that are no methods of the API, its own and those that everything has. -/
def ownAttributes : List String :=
  ["_prepare", "acall", "bindings", "call", "options", "transport",
    "__class__", "__delattr__", "__dict__", "__dir__", "__doc__", "__eq__", "__format__", "__ge__",
    "__getattr__", "__getattribute__", "__getstate__", "__gt__", "__hash__", "__init__",
    "__init_subclass__", "__le__", "__lt__", "__module__", "__ne__", "__new__", "__reduce__",
    "__reduce_ex__", "__repr__", "__setattr__", "__sizeof__", "__str__", "__subclasshook__",
    "__weakref__"]

/-- The method of a name, which only a text can be. -/
def named (client : Client) : Value → Except Breakdown MethodBinding
  | .text name =>
    match client.bindings.method? name with
    | some m => .ok m
    | none => .error (.unknownMethod (Text.quoted name))
  | v =>
    match v.isHashable, v.literal with
    | true, .ok shown => .error (.unknownMethod shown)
    | _, _ => .error .notAMethod

/-- The method that is an attribute of the client. The attribute stands for calls by its documented name. -/
def methodAttribute (client : Client) (name : String) : Except Breakdown MethodBinding :=
  if name.toList.head? = some '_' || ["bindings", "options", "transport"].contains name then
    .error (.noAttribute name)
  else match client.bindings.method? name with
    | some m => .ok m
    | none => .error (.noAttribute name)

/-- The method that an attribute of the client itself leads to. One of them calls the method that its argument
names. Three more take an argument, but give no outcome; no other leads anywhere. -/
def ownAttribute (client : Client) (name : String) (argument : Option Value) (keywords : List String) :
    Except Breakdown MethodBinding :=
  match name, argument, keywords with
  | "call", some v, _ => client.named v
  | "acall", some _, _ => .error (.noOutcome "coroutine")
  | "_prepare", some v, ["arguments", "kwargs"] | "_prepare", some v, ["kwargs", "arguments"] => do
    let _ ← client.named v
    throw (.noOutcome "tuple")
  | "__getattr__", some (.text sought), [] => do
    let _ ← client.methodAttribute sought
    throw (.noOutcome "functools.partial")
  | _, _, _ => .error .notAMethod

/-- The method that a route leads to, and its arguments. -/
def target (client : Client) (route : Route) (name : Value) (arguments : Option Value)
    (keywords : List String) : Except Breakdown (MethodBinding × Value) := do
  match route, name with
  | .attribute, .text name =>
    if ownAttributes.contains name then pure (← client.ownAttribute name arguments keywords, .null)
    else
      let found ← client.methodAttribute name
      pure (← client.named (.text found.name), arguments.getD .null)
  | .attribute, _ => throw .notAMethod
  | _, name => pure (← client.named name, arguments.getD .null)

/-! ## Calling it -/

/-- Arguments overridden by keywords. -/
def override (arguments : Request.Arguments) (keywords : List (String × Value)) : Request.Arguments :=
  keywords.foldl (fun done e => Entries.put (.text e.1) e.2 done) arguments

/-- The outcome of a response. -/
def ofResponse : Except Response.Breakdown Response.Outcome → Except Breakdown Outcome
  | .ok (.ok v) => .ok (.ok v)
  | .ok (.failed f) => .ok (.failed f)
  | .error b => .error (.response b)

/-- The outcome of a reply, which is reported. -/
def ofReply (threshold : Threshold) (types : Table TypeBinding) (method : MethodBinding) :
    Reply → Logged (Except Breakdown Outcome)
  | .response raw =>
    let read := Response.read threshold types method raw
    ⟨ofResponse read.result, read.entries⟩
  | .raised e =>
    match TransportError.report e with
    | .error u => ⟨.error (.response (.unwritable u)), []⟩
    | .ok (text, failure) =>
      ⟨.ok (.failed failure),
        [{ level := .warning, reporter := .client
           message := "Transport failed for " ++ method.name ++ ": " ++ text }]⟩

/-- A response that nobody awaited has no shape. -/
def ofUnawaited (method : MethodBinding) : Logged (Except Breakdown Outcome) :=
  let read := Response.shapeMismatch method.name "envelope" "envelope" "coroutine"
  ⟨ofResponse read.result, read.entries⟩

/-- What keeps a response from being taken as it is where one may have to be awaited. -/
def waitObstruction? : Value → Option Obstruction
  | .record type fields =>
    (Value.classObstruction? (.record type fields)).or
      (if Value.lacks .waiting fields then some (.lost .waiting) else none)
  | _ => none

/-- The reply of a transport on a route. -/
def reply (client : Client) (route : Route) (request : Request) : Reply :=
  match client.transport.answer request client.options, client.transport.deferred, route with
  | .response raw, false, .awaited =>
    match waitObstruction? raw with
    | some o => .raised (.cause ⟨"TypeError", [.text o.message]⟩)
    | none => .response raw
  | reply, _, _ => reply

/-- Sends a request. -/
def send (client : Client) (threshold : Threshold) (route : Route) (method : MethodBinding)
    (request : Request) : Logged Exchange :=
  if client.transport.deferred && route ≠ .awaited then
    let outcome := ofUnawaited method
    ⟨⟨[], outcome.result⟩, outcome.entries⟩
  else
    let outcome := ofReply threshold client.bindings.types method (client.reply route request)
    ⟨⟨[(request, client.options)], outcome.result⟩, outcome.entries⟩

/-- The end of a call that was not encoded. A refusal is reported. -/
def ofEncodeError (method : MethodBinding) : Request.EncodeError → Logged Exchange
  | .refused e =>
    ⟨⟨[], .ok (.refused e)⟩,
      [{ level := .debug, reporter := .client
         message := "Rejected call of " ++ method.name ++ ": " ++ e.message }]⟩
  | e => ⟨⟨[], .error (.encoding e)⟩, []⟩

/-- Calls a method with its arguments. -/
def callMethod (client : Client) (threshold : Threshold) (route : Route) (method : MethodBinding)
    (arguments : Request.Arguments) : Logged Exchange :=
  let encoded := Request.encodeLogged client.bindings.types method arguments
  match encoded.result with
  | .ok request => (client.send threshold route method request).after encoded.entries
  | .error e => ofEncodeError method e

/-- Calls a method with the pairs of its arguments, overridden by keywords. What is no scalar can be a key, but
no name of a parameter. -/
def callPairs (client : Client) (threshold : Threshold) (route : Route) (method : MethodBinding)
    (given : List (Value × Value)) (keywords : List (String × Value)) : Logged Exchange :=
  match Value.entriesOfPairs? given, Request.unexpected? method.params (given.map Prod.fst) with
  | none, some param => ofEncodeError method (Request.unexpected method param)
  | entries, _ => client.callMethod threshold route method (override (entries.getD []) keywords)

/-- Calls the method that a route leads to. -/
def call (client : Client) (threshold : Threshold) (route : Route) (name : Value)
    (arguments : Option Value) (keywords : List (String × Value)) : Logged Exchange :=
  match client.target route name arguments (keywords.map Prod.fst) with
  | .error e => ⟨⟨[], .error e⟩, []⟩
  | .ok (method, arguments) =>
    match arguments.mappingPairs with
    | .error f => ⟨⟨[], .error (.notArguments f)⟩, []⟩
    | .ok given => client.callPairs threshold route method given keywords

end Client

end BotApi
