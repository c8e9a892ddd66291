import BotApi.Failure
import BotApi.Json.Reader
import BotApi.Response.Remarks
import BotApi.Text.Utf8

/-!
# Responses

A response is an envelope: a mapping that says under `ok` whether the call succeeded, with the result or with
the reason of the failure. It arrives as a JSON text, as the octets of one, or already read.
-/

namespace BotApi.Response

/-- What a call comes to. -/
inductive Outcome
  | ok (v : Value)
  | failed (f : Failure)

/-- What keeps a response from having an outcome. -/
inductive Breakdown
  | fault (f : Fault)
  | unwritable (u : Unwritable)
  | tooManyDigits (digits : Nat)

/-- A text that is no JSON, or a number in it that is too long. -/
inductive LoadError
  | unreadable (reason : String)
  | tooManyDigits (digits : Nat)

/-- The value of a JSON text. -/
def loadText (text : List Char) : Except LoadError Value :=
  match Json.read text with
  | .ok v => .ok v
  | .error (.malformed problem position) =>
    .error (.unreadable (Json.ReadError.malformed problem position).message)
  | .error (.tooManyDigits digits) => .error (.tooManyDigits digits)

/-- The value of a response. A text and octets are read, and any other value is the response itself. -/
def load : Value → Except LoadError Value
  | .text s => loadText s.toList
  | .bytes content | .bytearray content =>
    match Text.Utf8.decode content with
    | .ok text => loadText text
    | .error f => .error (.unreadable f.message)
  | v => .ok v

/-- A failure of shape, which is reported. -/
def shapeMismatch (method path expected got : String) : Logged (Except Breakdown Outcome) :=
  let failure : Failure := .shape method path expected got
  ⟨.ok (.failed failure),
    [{ level := .error, reporter := .decoder
       message := "Response does not match bindings: " ++ failure.message }]⟩

/-- The outcome of the result in an envelope. -/
def decodeResult (threshold : Threshold) (types : Table TypeBinding) (method : MethodBinding)
    (payload : Value) : Logged (Except Breakdown Outcome) :=
  let decoded := decodeLogged threshold types "result" method.returns payload
  match decoded.result with
  | .ok v => ⟨.ok (.ok v), decoded.entries⟩
  | .error (.fault f) => ⟨.error (.fault f), decoded.entries⟩
  | .error (.mismatch m) =>
    (shapeMismatch method.name (trailText "result" m.trail) m.expected.toText
      (m.got.toText Kind.wireName)).after decoded.entries

/-- The outcome of an envelope. -/
def decodeEnvelope (threshold : Threshold) (types : Table TypeBinding) (method : MethodBinding)
    (envelope : Value) : Logged (Except Breakdown Outcome) :=
  let notEnvelope := shapeMismatch method.name "envelope" "envelope" envelope.kind.wireName
  match envelope with
  | .object entries =>
    -- nothing but a truth value says how the call ended
    match Value.get? entries "ok" with
    | some (.bool true) =>
      match Value.get? entries "result" with
      | some payload => decodeResult threshold types method payload
      | none => shapeMismatch method.name "result" method.returns.toText "nothing"
    | some (.bool false) =>
      match Failure.ofEnvelope entries with
      | .ok f => ⟨.ok (.failed f), []⟩
      | .error u => ⟨.error (.unwritable u), []⟩
    | _ => notEnvelope
  | v =>
    -- a record is asked whether it is a mapping, which may fail
    match v.classObstruction? with
    | some o => ⟨.error (.fault (.obstructed o)), []⟩
    | none => notEnvelope

/-- The outcome of a response to a call of the method. -/
def read (threshold : Threshold) (types : Table TypeBinding) (method : MethodBinding) (raw : Value) :
    Logged (Except Breakdown Outcome) :=
  match load raw with
  | .ok envelope => decodeEnvelope threshold types method envelope
  | .error (.unreadable reason) => shapeMismatch method.name "envelope" "JSON" reason
  | .error (.tooManyDigits digits) => ⟨.error (.tooManyDigits digits), []⟩

/-- Why an object on its own is not decoded. -/
inductive ObjectError
  | unknownType (name : String)
  | failed (f : Failure)
  | fault (f : Fault)

/-- The value of an object that arrives without an envelope. -/
def readObject (threshold : Threshold) (types : Table TypeBinding) (type : String) (payload : Value) :
    Logged (Except ObjectError Value) :=
  match types.find? type with
  | none => ⟨.error (.unknownType type), []⟩
  | some _ =>
    let decoded := decodeLogged threshold types type (.ref type) payload
    match decoded.result with
    | .ok v => ⟨.ok v, decoded.entries⟩
    | .error (.fault f) => ⟨.error (.fault f), decoded.entries⟩
    | .error (.mismatch m) =>
      let path := trailText type m.trail
      ⟨.error (.failed (.shape type path m.expected.toText (m.got.toText Kind.wireName))),
        decoded.entries ++
          [{ level := .error, reporter := .decoder
             message := "Object does not match bindings: " ++ type ++ " at " ++ path }]⟩

end BotApi.Response
