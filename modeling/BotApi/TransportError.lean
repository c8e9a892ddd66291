import BotApi.Failure
import BotApi.Graph
import BotApi.Request.Encode

/-!
# Errors of a transport

A transport may raise a failure that is ready to be the outcome of the call, or an error of any other kind,
which becomes a failure of the transport. An error is made from the name of its kind and its arguments; those
of the library have arguments of their own, and word their message from them.
-/

namespace BotApi

/-- What a transport raises: a failure that is ready to be an outcome, or something else. -/
inductive TransportError
  | failure (f : Failure)
  | cause (c : Cause)

namespace TransportError

/-- What a broken transport raised, as a literal and as a failure. -/
def report : TransportError → Except Unwritable (String × Failure)
  | .failure f => .ok (f.literal, f)
  | .cause c => (fun text => (text, .transport text)) <$> c.literal

/-- Why there is no error of a kind with some arguments. -/
inductive MakeFault
  /-- The kind has other arguments. -/
  | arguments
  | parameters (f : Value.MappingFault)
  | unwritable (u : Unwritable)

/-! ## Errors of the system -/

/-- The kinds of errors of the system. -/
def systemKinds : List String := ["OSError", "TimeoutError", "ConnectionResetError"]

/-- The errors of the system that have a kind of their own, by number. -/
def numberedKinds : List (Int × String) :=
  [(1, "PermissionError"), (2, "FileNotFoundError"), (3, "ProcessLookupError"), (4, "InterruptedError"),
    (10, "ChildProcessError"), (11, "BlockingIOError"), (13, "PermissionError"), (17, "FileExistsError"),
    (20, "NotADirectoryError"), (21, "IsADirectoryError"), (32, "BrokenPipeError"),
    (103, "ConnectionAbortedError"), (104, "ConnectionResetError"), (108, "BrokenPipeError"),
    (110, "TimeoutError"), (111, "ConnectionRefusedError"), (114, "BlockingIOError"),
    (115, "BlockingIOError")]

/-- The kind of an error of the system by its number, unless it has a kind of its own already. -/
def systemKind (kind : String) (number : Value) : String :=
  match kind, number.toKey?.map Key.common with
  | "OSError", some (.int n) => (numberedKinds.lookup n).getD kind
  | _, _ => kind

/-- An error of the system: a number and a text, and behind them names of files, which are not shown. -/
def systemError (kind : String) (args : List Value) : Cause :=
  match args with
  | [number, _] | [number, _, .null] | [number, _, .null, _] | [number, _, .null, _, _] =>
    ⟨systemKind kind number, args⟩
  | [number, text, _] | [number, text, _, _] | [number, text, _, _, _] =>
    ⟨systemKind kind number, [number, text]⟩
  | _ => ⟨kind, args⟩

/-! ## Errors of the library -/

/-- A rejection as an error. -/
def rejection (code description : Value) (parameters : Value) (advice : Advice) :
    Except MakeFault TransportError := do
  let parameters ← parameters.mapping.mapError .parameters
  let rejection ← (Rejection.make code description parameters advice).mapError .unwritable
  pure (.failure (.rejected rejection))

/-- An error of the library that is no failure of a call, under its own kind. -/
def stray (kind : String) (message : Except Unwritable String) : Except MakeFault TransportError := do
  pure (.cause ⟨kind, [.text (← message.mapError .unwritable)]⟩)

/-- A failure with its message, unless it cannot be shown. -/
def failureOf (f : Except Unwritable Failure) : Except MakeFault TransportError :=
  (f.map .failure).mapError .unwritable

/-- The wording of a missing parameter, whatever it is called. -/
def missingMessage (param : Value) : Except Unwritable String := do
  pure ("missing required parameter " ++ (← param.literal))

/-- The wording of a parameter that a method does not have. -/
def unexpectedMessage (param method : Value) : Except Unwritable String := do
  let method ← method.messageText
  pure (CallError.unexpected param (← param.literal) method).message

/-- The wording of an argument that does not fit. -/
def mismatchMessage (path expected got : Value) : Except Unwritable String := do
  pure ((← path.messageText) ++ ": expected " ++ (← expected.messageText) ++ ", got " ++ (← got.messageText))

/-- The path that a mismatch names: one that says something, else the parameter. -/
def pathOf (param path : Value) : Except Unwritable Value := do
  if ← path.isVoid?.mapError .obstructed then pure param else pure path

/-- The wording of unresolved references, if they are texts. -/
def unresolvedMessage? (problems : Value) : Option String := do
  let members ← problems.members?
  let texts ← members.mapM fun
    | .text s => some s
    | _ => none
  pure (Unresolved.summary texts)

/-- The error of a kind with arguments. -/
def make (kind : String) (args : List Value) : Except MakeFault TransportError :=
  match kind, args with
  | "ApiRejected", [code, description] => rejection code description .null .none
  | "ApiRejected", [code, description, parameters] => rejection code description parameters .none
  | "RateLimited", [code, description, seconds] =>
    rejection code description .null (.retryAfter seconds)
  | "RateLimited", [code, description, seconds, parameters] =>
    rejection code description parameters (.retryAfter seconds)
  | "ChatMigrated", [code, description, chat] => rejection code description .null (.migrateTo chat)
  | "ChatMigrated", [code, description, chat, parameters] =>
    rejection code description parameters (.migrateTo chat)
  | "ShapeMismatch", [method, path, expected, got] => failureOf (Failure.ofShape method path expected got)
  | "TransportFailure", [reason] => failureOf (reason.literal.map .transport)
  | "APIError", args | "DecodeError", args => failureOf (Failure.ofCause ⟨kind, args⟩)
  | "MissingRequired", [param] => stray kind (missingMessage param)
  | "UnexpectedParameter", [param, method] => stray kind (unexpectedMessage param method)
  | "TypeMismatch", [param, expected, got] => stray kind (mismatchMessage param expected got)
  | "TypeMismatch", [param, expected, got, path] =>
    stray kind (do mismatchMessage (← pathOf param path) expected got)
  | "EncodeError", [_, message] => .ok (.cause ⟨kind, [message]⟩)
  | "ResolutionError", [problems] =>
    match unresolvedMessage? problems with
    | some message => stray kind (.ok message)
    | none => .error .arguments
  | "ApiRejected", _ | "RateLimited", _ | "ChatMigrated", _ | "ShapeMismatch", _ | "TransportFailure", _
  | "MissingRequired", _ | "UnexpectedParameter", _ | "TypeMismatch", _ | "EncodeError", _
  | "ResolutionError", _ => .error .arguments
  | kind, args => .ok (.cause (if systemKinds.contains kind then systemError kind args else ⟨kind, args⟩))

end TransportError

end BotApi
