import BotApi.Json.Writer
import BotApi.Request.Convert
import BotApi.Value.Mapping

/-!
# Requests

A call is encoded as the JSON body of a request. A method whose parameters can carry files always takes the
form of several parts instead: one for each argument, a file as it is and any other value as the text of a
form field, and one for each attachment.

Faults are looked for in this order: an argument that the method does not have, a required parameter that is
missing, a value that does not fit.
-/

namespace BotApi

/-- What a request carries. -/
inductive Body
  | json (fields : List (String × Value))
  | parts (parts : List Part)

/-- A request, whatever transport will take it. -/
structure Request where
  method : String
  body : Body

namespace Request

/-- Whether the request comes in parts. -/
def isMultipart (r : Request) : Bool :=
  match r.body with
  | .json _ => false
  | .parts _ => true

/-- The content type of a request. -/
def contentType (r : Request) : String :=
  if r.isMultipart then "multipart/form-data" else "application/json"

/-- The parts of a request. -/
def partList (r : Request) : List Part :=
  match r.body with
  | .json _ => []
  | .parts parts => parts

/-- The form fields among the parts by name; of two with one name the later counts. -/
def fields (r : Request) : List (String × String) :=
  Entries.merge <| r.partList.filterMap fun part =>
    match part.content with
    | .text s => some (part.name, s)
    | .file _ => none

/-- The files among the parts by name; of two with one name the later counts. -/
def files (r : Request) : List (String × InputFile) :=
  Entries.merge <| r.partList.filterMap fun part =>
    match part.content with
    | .text _ => none
    | .file f => some (part.name, f)

end Request

/-- Why a call does not fit the method. -/
inductive CallError
  /-- An argument that the method does not have, and how it is shown. -/
  | unexpected (param : Value) (shown method : String)
  | missing (param : String)
  | mismatch (param path expected : String) (got : Got)

/-- The kind of a refusal. -/
def CallError.kind : CallError → String
  | .unexpected .. => "UnexpectedParameter"
  | .missing _ => "MissingRequired"
  | .mismatch .. => "TypeMismatch"

/-- The wording of a refusal. -/
def CallError.message : CallError → String
  | .unexpected _ shown method => method ++ " has no parameter " ++ shown
  | .missing param => "missing required parameter " ++ Text.quoted param
  | .mismatch _ path expected got => path ++ ": expected " ++ expected ++ ", got " ++ got.toText Kind.name

namespace Request

/-- What keeps a call from becoming a request. Only the first is a refusal of the call. -/
inductive EncodeError
  | refused (e : CallError)
  | fault (f : Fault)
  | unwritable (u : Unwritable)
  | notJson
  /-- The arguments are no mapping, and not even names of arguments. -/
  | notArguments
  /-- The arguments are only names, and nothing can be looked up under them. -/
  | noLookup (k : Kind)

/-- The wording of a failed look-up. -/
def noLookupMessage (k : Kind) : String := "'" ++ k.name ++ "' object has no attribute 'get'"

/-- The arguments of a call, by attribute or by wire name. -/
abbrev Arguments := List (Key × Value)

/-- Whether a value is a name of one of the parameters. -/
def isName (params : List FieldBinding) : Value → Bool
  | .text s => params.any fun p => p.name = s || p.wireName = s
  | _ => false

/-- The first name that no parameter has. -/
def unexpected? (params : List FieldBinding) (names : List Value) : Option Value :=
  names.find? fun name => !isName params name

/-- The refusal of an argument that the method does not have. -/
def unexpected (method : MethodBinding) (param : Value) : EncodeError :=
  match param.literal with
  | .ok shown => .refused (.unexpected param shown method.name)
  | .error u => .unwritable u

/-- What was sent under a name. -/
def sent? (arguments : Arguments) (name : String) : Option Value :=
  (Value.get? arguments name).filter fun v => !v.isAbsent

/-- The argument of a parameter: the one under its attribute, or else the one under its wire name. Null
counts as none. -/
def argument? (arguments : Arguments) (p : FieldBinding) : Option Value :=
  ((sent? arguments p.name).or (sent? arguments p.wireName)).filter fun
    | .null => false
    | _ => true

/-- The parameters that have an argument, up to the first that needs one and has none. -/
def supplied (arguments : Arguments) :
    List FieldBinding → Except EncodeError (List (FieldBinding × Value))
  | [] => .ok []
  | p :: rest =>
    match argument? arguments p with
    | some v => ((p, v) :: ·) <$> supplied arguments rest
    | none => if p.required then .error (.refused (.missing p.wireName)) else supplied arguments rest

/-- The arguments of a call by parameter, each parameter once. -/
def collect (method : MethodBinding) (arguments : Arguments) :
    Except EncodeError (List (FieldBinding × Value)) :=
  -- an argument too many is reported before one that is missing
  match unexpected? method.params (arguments.map fun e => e.1.toValue) with
  | some param => .error (unexpected method param)
  | none => Entries.merge <$> supplied arguments method.params

/-- A stop as the refusal of an argument. -/
def refusal (param : String) : Stop → EncodeError
  | .fault (.unwritable u) => .unwritable u
  | .fault f => .fault f
  | .mismatch m =>
    .refused (.mismatch param (trailText param m.trail) m.expected.toText m.got)

/-- The converted arguments by wire name, and all attachments after them. -/
def convertAll (types : Table TypeBinding) :
    List (FieldBinding × Value) → List Part → Except EncodeError (List (String × Value) × List Part)
  | [], parts => .ok ([], parts)
  | (p, v) :: rest, parts =>
    match convert types types.size true p.type v parts with
    | .error stop _ => .error (refusal p.wireName stop)
    -- the attachments are handed on, so their numbers run through all arguments
    | .ok first parts => do
      let (more, parts) ← convertAll types rest parts
      pure ((p.wireName, first) :: more, parts)

/-- The text of a converted value in a form field. -/
def formText : Value → Except EncodeError String
  | .text s => .ok s
  | .bool b => .ok (if b then "true" else "false")
  | .int n => (Value.intLiteral n).mapError .unwritable
  | .float x => .ok (Number.plainLayout.text x)
  | v =>
    match Json.write v with
    | .ok text => .ok (String.ofList text)
    | .error .tooManyDigits => .error (.unwritable (.tooManyDigits .writing))
    | .error .notJson => .error .notJson

/-- The part of an argument. -/
def partOf (name : String) : Value → Except EncodeError Part
  | .file f => .ok ⟨name, .file f⟩
  | v => (fun s => ⟨name, .text s⟩) <$> formText v

/-- The request of a call. -/
def encode (types : Table TypeBinding) (method : MethodBinding) (arguments : Arguments) :
    Except EncodeError Request := do
  let given ← collect method arguments
  let (converted, attachments) ← convertAll types given []
  -- parameters may share a wire name, and then the later one counts
  let values := Entries.merge converted
  if method.hasAttachment then
    let parts ← values.mapM fun e => partOf e.1 e.2
    pure ⟨method.name, .parts (parts ++ attachments)⟩
  else pure ⟨method.name, .json values⟩

/-- The entry that reports a request. -/
def entry (r : Request) : LogEntry :=
  let message := match r.body with
    | .json fields => "Encoded " ++ r.method ++ " as JSON with " ++ toString fields.length ++ " fields"
    | .parts parts =>
      let files := parts.filter fun part => match part.content with
        | .text _ => false
        | .file _ => true
      "Encoded " ++ r.method ++ " as multipart with " ++ toString parts.length ++ " parts (" ++
        toString files.length ++ " files)"
  { level := .debug, reporter := .encoder, message }

/-- A request, which is reported. -/
def report (result : Except EncodeError Request) : Logged (Except EncodeError Request) :=
  match result with
  | .ok r => ⟨.ok r, [r.entry]⟩
  | .error e => ⟨.error e, []⟩

/-- The request of a call, which is reported. -/
def encodeLogged (types : Table TypeBinding) (method : MethodBinding) (arguments : Arguments) :
    Logged (Except EncodeError Request) :=
  report (encode types method arguments)

/-! ## Arguments that are no mapping -/

/-- Checks that members are names of parameters, up to the first that is not. -/
def checkNames (method : MethodBinding) : List Value → Except EncodeError Unit
  | [] => .ok ()
  | v :: rest =>
    if !v.isHashable then .error .notArguments
    else if isName method.params v then checkNames method rest
    else .error (unexpected method v)

/-- The arguments that a value holds. What is no mapping holds at most names, and these will do only if the
method needs no argument looked up. -/
def argumentsOf (method : MethodBinding) : Value → Except EncodeError Arguments
  | .object entries => .ok entries
  | v =>
    match v.members? with
    | none => .error .notArguments
    | some names => do
      checkNames method names
      if method.params.isEmpty then pure [] else throw (.noLookup v.kind)

/-- The request of a call whose arguments are any value, which is reported. -/
def encodeValue (types : Table TypeBinding) (method : MethodBinding) (v : Value) :
    Logged (Except EncodeError Request) :=
  report (argumentsOf method v >>= encode types method)

end Request

end BotApi
