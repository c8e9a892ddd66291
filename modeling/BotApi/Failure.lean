import BotApi.Table
import BotApi.Value.Literal

/-!
# Failures of calls

A call fails in one of three ways: the remote API rejects it, the transport breaks down, or the response
does not have the declared shape. `normalize` brings what an API or a transport reports into this form.

## Main results

* `Failure.isRetryable_iff` — only a rate limit and a broken transport make it worth repeating the call.
-/

namespace BotApi

/-- What went wrong outside the library: the name of the exception and its arguments. -/
structure Cause where
  kind : String
  args : List Value

/-- The literal of a cause. -/
def Cause.literal (c : Cause) : Except Unwritable String := do
  let args ← Value.literalItems c.args
  pure (c.kind ++ "(" ++ ", ".intercalate args ++ ")")

/-- What a rejection says about how to go on. -/
inductive Advice
  | none
  | retryAfter (seconds : Value)
  | migrateTo (chat : Value)

/-- An answer of the API that refuses a call. -/
structure Rejection where
  code : Value
  description : Value
  parameters : List (Key × Value)
  advice : Advice
  message : String

/-- Why a call failed. -/
inductive Failure
  | rejected (r : Rejection)
  | transport (cause : String)
  | shape (method path expected got : String)
  /-- A failure that a transport made itself, known by its kind, its message, its literal, and what else it
  tells. -/
  | other (kind message literal : String) (details : List (String × Value))

namespace Rejection

/-- A rejection. Its message is made at once, and fails if a part of it cannot be shown. -/
def make (code description : Value) (parameters : List (Key × Value)) (advice : Advice) :
    Except Unwritable Rejection := do
  let codeText ← code.messageText
  let descriptionText ← description.messageText
  pure { code, description, parameters, advice, message := "[" ++ codeText ++ "] " ++ descriptionText }

/-- The kind of a rejection. -/
def kind (r : Rejection) : String :=
  match r.advice with
  | .none => "ApiRejected"
  | .retryAfter _ => "RateLimited"
  | .migrateTo _ => "ChatMigrated"

end Rejection

namespace Failure

/-- The kind of a failure. -/
def kind : Failure → String
  | .rejected r => r.kind
  | .transport _ => "TransportFailure"
  | .shape .. => "ShapeMismatch"
  | .other kind .. => kind

/-- The wording of a failure. -/
def message : Failure → String
  | .rejected r => r.message
  | .transport cause => "transport failed: " ++ cause
  | .shape method path expected got =>
    method ++ ": " ++ path ++ ": expected " ++ expected ++ ", got " ++ got
  | .other _ message .. => message

/-- Whether the very same call may succeed when it is repeated. -/
def isRetryable : Failure → Bool
  | .rejected { advice := .retryAfter _, .. } => true
  | .transport _ => true
  | _ => false

/-- Whether the API itself refused the call. -/
def isRejected : Failure → Bool
  | .rejected _ => true
  | _ => false

/-- The literal of a failure shows its message. -/
def literal : Failure → String
  | .other _ _ literal _ => literal
  | f => f.kind ++ "(" ++ Text.quoted f.message ++ ")"

/-- A failure that is made from a kind and arguments: one argument is the message, several are shown
together. -/
def ofCause (c : Cause) : Except Unwritable Failure := do
  let message ← match c.args with
    | [] => pure ""
    | [v] => v.plainText
    | args => Value.literal (.tuple args)
  (.other c.kind message · []) <$> c.literal

/-- A failure of shape that a transport made itself, from whatever values. -/
def ofShape (method path expected got : Value) : Except Unwritable Failure := do
  let message := (← method.messageText) ++ ": " ++ (← path.messageText) ++ ": expected " ++
    (← expected.messageText) ++ ", got " ++ (← got.messageText)
  let kind := "ShapeMismatch"
  pure (.other kind message (kind ++ "(" ++ Text.quoted message ++ ")")
    [("method", method), ("path", path), ("expected", expected), ("got", got)])

/-- Repeating a call is worth while after a rate limit and after a broken transport only. -/
theorem isRetryable_iff (f : Failure) :
    f.isRetryable = true ↔
      (∃ r seconds, f = .rejected r ∧ r.advice = .retryAfter seconds) ∨ ∃ cause, f = .transport cause := by
  cases f with
  | rejected r => cases r with | mk code description parameters advice message =>
    cases advice <;> simp [isRetryable]
  | _ => simp [isRetryable]

end Failure

/-! ## Normalizing -/

namespace Failure

/-- A whole number under a name. -/
def intParameter? (parameters : List (Key × Value)) (name : String) : Option Value :=
  match Value.get? parameters name with
  | some (.int n) => some (.int n)
  | _ => none

/-- Why an envelope has no failure. -/
inductive NormalizeError
  | success
  | unwritable (u : Unwritable)

/-- The wording of the refusal to normalize an envelope. -/
def successMessage : String := "envelope reports success, there is no error"

/-- The entries of a mapping; of anything else, none. -/
def entriesOf (v : Value) : Except Obstruction (List (Key × Value)) :=
  match v, v.classObstruction? with
  | .object entries, _ => .ok entries
  | _, some o => .error o
  | _, none => .ok []

/-- The description in an envelope, empty if there is none that says anything. -/
def descriptionOf (v : Value) : Except Obstruction Value := do
  if ← v.isVoid? then pure (.text "") else pure v

/-- The rejection that an envelope reports. -/
def ofEnvelope (entries : List (Key × Value)) : Except Unwritable Failure := do
  let code := (Value.get? entries "error_code").getD .null
  let description ← (descriptionOf ((Value.get? entries "description").getD .null)).mapError .obstructed
  let parameters ← (entriesOf ((Value.get? entries "parameters").getD .null)).mapError .obstructed
  let advice : Advice :=
    match intParameter? parameters "retry_after" with
    | some seconds => .retryAfter seconds
    | none =>
      match intParameter? parameters "migrate_to_chat_id" with
      | some chat => .migrateTo chat
      | none => .none
  .rejected <$> Rejection.make code description parameters advice

/-- The failure that an answer reports. -/
def normalize : Value → Except NormalizeError Failure
  | .object entries =>
    match Value.get? entries "ok" with
    | some (.bool true) => .error .success
    | _ => (ofEnvelope entries).mapError .unwritable
  | v => .ok (.shape "?" "envelope" "JSON object" v.kind.name)

end Failure

end BotApi
