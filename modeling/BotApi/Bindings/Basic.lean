import BotApi.Bindings.FileTracker
import BotApi.Bindings.Naming
import BotApi.Bindings.Reserved
import BotApi.Log
import BotApi.Resolver
import BotApi.Text.Quoted
import BotApi.Text.Snake
import BotApi.Unicode.Normal
import BotApi.Value.Literal

/-!
# Bindings

Bindings are what encoding and decoding go by: the types and methods of a graph, with the attribute of each
field and, for each method, whether its parameters can carry files.
-/

namespace BotApi

/-- A field of a type, or a parameter of a method: its attribute and its key in JSON. -/
structure FieldBinding where
  name : String
  wireName : String
  type : TypeExpr
  required : Bool
  description : String
  deriving DecidableEq

/-- A type. -/
structure TypeBinding where
  name : String
  fields : List FieldBinding
  variants : List String
  description : List String
  deriving DecidableEq

/-- A method. -/
structure MethodBinding where
  name : String
  params : List FieldBinding
  returns : TypeExpr
  hasAttachment : Bool
  snakeName : String
  description : List String
  deriving DecidableEq

/-- The types and methods of a schema, ready for use. -/
structure Bindings where
  types : Table TypeBinding
  methods : Table MethodBinding
  version : Option String
  deriving DecidableEq

namespace FieldBinding

/-- The binding of a field. -/
def ofField (f : Field) : FieldBinding :=
  { name := attributeName f.name, wireName := f.name, type := f.type, required := f.required
    description := f.description }

/-- The hint of a field. One that is not required may also be null or not sent. -/
def hint (f : FieldBinding) : String :=
  f.type.hint ++ (if f.required then "" else " | None | Absent")

/-- What a record keeps of a field. -/
def names (f : FieldBinding) : FieldName := ⟨f.name, f.wireName, f.required⟩

end FieldBinding

/-- The attributes whose wire name differs. -/
def renamed (fields : List FieldBinding) : List (String × String) :=
  (fields.filter fun f => f.name ≠ f.wireName).map fun f => (f.name, f.wireName)

/-- Whether the type has no values of its own, only those of its variants. -/
def TypeBinding.isAbstract (t : TypeBinding) : Bool := !t.variants.isEmpty

namespace TypeBinding

/-- The text that a type is documented by: its description, or else its name. -/
def ownDoc (t : TypeBinding) : String :=
  let text := "\n\n".intercalate t.description
  if text = "" then t.name else text

/-- Whether a field stands in for the documentation of the type. -/
def hidesDoc (t : TypeBinding) : Bool := t.fields.any fun f => f.name = Reserved.docName && !f.required

/-- The value of a field that a record is made without, if it has one. -/
def default? (t : TypeBinding) (f : FieldBinding) : Option Value :=
  let doc := if t.hidesDoc then none else some t.ownDoc
  let earlier := (t.fields.map (·.name)).takeWhile (· ≠ f.name)
  (Reserved.default? t.name doc earlier f.name f.required).or (if f.required then none else some .absent)

/-- A field in a signature: its attribute with its hint, and its default. -/
def parameter (t : TypeBinding) (f : FieldBinding) : String :=
  let default := match (t.default? f).map Value.literal with
    | some (.ok text) => " = " ++ text
    | _ => ""
  f.name ++ ": " ++ Text.quoted f.hint ++ default

/-- The signature of a record. -/
def signature (t : TypeBinding) : String :=
  let parameters := t.fields.map t.parameter
  "(" ++ ", ".intercalate (if parameters.isEmpty then [] else "*" :: parameters) ++ ")"

/-- Whether the type is documented by its signature, for lack of a text or because a field stands in for it. -/
def isSigned (t : TypeBinding) : Bool :=
  t.hidesDoc || t.ownDoc = ""

/-- The documentation of a record: its text, or its name with the signature, from which whatever looks like a
result is gone. -/
def doc (t : TypeBinding) : String :=
  if t.isSigned then t.name ++ t.signature.replace " -> None" "" else t.ownDoc

/-- The field that keeps records of the type from being made, the first that does. -/
def obstacle? (t : TypeBinding) : Option FieldBinding :=
  Reserved.obstacles.findSome? fun blocks => t.fields.find? fun f => blocks f.name f.required

end TypeBinding

/-- Why a type has no class of records. -/
inductive BindingFault
  | notAttribute (type field : String)
  | repeated (type field : String)
  | nulInName (type : String)
  | clash (type : String)
  | notNormal (type field : String)
  | harm (type field : String) (h : Reserved.Harm)
  deriving DecidableEq

/-- The wording of a fault, for those that have one. -/
def BindingFault.message? : BindingFault → Option String
  | .nulInName _ => some "type name must not contain null characters"
  | .harm _ _ .lostModule => some "'NoneType' object has no attribute '__dict__'"
  | .harm _ field (.shared kind) =>
    some ("mutable default <class '" ++ kind ++ "'> for field " ++ field ++
      " is not allowed: use default_factory")
  | .harm _ _ .unwrapped => some "callable ABSENT is not supported by signature"
  | _ => none

namespace Bindings

/-- The first field that cannot be an attribute of its own, after the attributes seen so far. -/
def fieldFault? (type : String) : List String → List FieldBinding → Option BindingFault
  | _, [] => none
  | seen, f :: rest =>
    if !isAttributeName f.name then some (.notAttribute type f.name)
    else if seen.contains f.name then some (.repeated type f.name)
    else fieldFault? type (f.name :: seen) rest

/-- The first field that does a harm of the kind in question. -/
def harmFault? (type : String) (inQuestion : Reserved.Harm → Bool) (fields : List FieldBinding) :
    Option BindingFault :=
  fields.findSome? fun f =>
    ((Reserved.harm? f.name f.required).filter inQuestion).map fun h => .harm type f.name h

/-- The parameters of the function that makes records: the record itself under a name that no field has, and
the fields. -/
def parameterNames (fields : List FieldBinding) : List String :=
  let names := fields.map (·.name)
  (if names.contains "self" then "__dataclass_self__" else "self") :: names

/-- Whether the function that makes records has parameters that are one in their normal form, or one that is
the name of a constant. -/
def hasClash (fields : List FieldBinding) : Bool :=
  let names := (parameterNames fields).map fun name => Unicode.normalForm name.toList
  names.contains "__debug__".toList || names.eraseDups.length ≠ names.length

/-- What harms the documentation of a type, if that is its signature. -/
def docFault? (t : TypeBinding) : Option BindingFault :=
  let harm := Reserved.docHarms.find? fun e => t.fields.any fun f => f.name = e.1 && !f.required
  (harm.filter fun _ => t.isSigned).map fun (name, h) => .harm t.name name h

/-- The fault that keeps a type from having a class of records, in the order in which a class is made: the
attributes, the class itself, its module, the defaults of its fields, its methods, and its documentation. -/
def typeFault? (t : TypeBinding) : Option BindingFault :=
  (fieldFault? t.name [] t.fields)
    <|> (if t.name.toList.contains (Char.ofNat 0) then some (.nulInName t.name) else none)
    <|> harmFault? t.name (· = .refused) t.fields
    <|> harmFault? t.name (· = .lostModule) t.fields
    <|> harmFault? t.name (fun h => h matches .shared _) t.fields
    <|> (if hasClash t.fields then some (.clash t.name) else none)
    <|> (t.fields.find? fun f => !Unicode.isNormal f.name.toList).map (fun f => .notNormal t.name f.name)
    <|> harmFault? t.name (· = .frozen) t.fields
    <|> docFault? t

/-- The binding of a type. Its fields need attributes of their own. -/
def bindType (node : TypeNode) : Except BindingFault TypeBinding :=
  let t : TypeBinding :=
    { name := node.name, fields := node.fields.map .ofField, variants := node.variants
      description := node.description }
  match typeFault? t with
  | some fault => .error fault
  | none => .ok t

/-- The binding of a method, with what is known about files before and after. -/
def bindMethod (types : Table TypeNode) (node : MethodNode) (known : Table Bool) :
    MethodBinding × Table Bool :=
  let (hasAttachment, known) := FileTracker.queryAny types (node.params.map (·.type)) known
  ({ name := node.name, params := node.params.map .ofField, returns := node.returns, hasAttachment
     snakeName := Text.snake node.name, description := node.description }, known)

/-- The bindings of a graph. -/
def ofGraph (graph : Graph) : Except BindingFault Bindings := do
  let types ← graph.types.mapM fun _ node => bindType node
  -- what a method finds out about files is known to the methods after it
  pure
    { types
      methods := graph.methods.mapS (fun _ node known => bindMethod graph.types node known) .empty
      version := graph.version }

/-- The documented names under their snake case. Of two methods with one snake case the later counts. -/
def snakeNames (b : Bindings) : Table String :=
  .ofList (b.methods.values.map fun m => (m.snakeName, m.name))

/-- The type of a name. -/
def type? (b : Bindings) (name : String) : Option TypeBinding := b.types.find? name

/-- The method of a documented name, or else of a snake case name. -/
def method? (b : Bindings) (name : String) : Option MethodBinding :=
  match b.methods.find? name with
  | some m => some m
  | none => (b.snakeNames.find? name).bind b.methods.find?

/-- Whether two bindings have the same types, in whatever order. -/
def sameTypes (a b : Bindings) : Bool := a.types.agrees (fun s t => s = t) b.types

/-- Whether two bindings have the same methods, in whatever order. -/
def sameMethods (a b : Bindings) : Bool := a.methods.agrees (fun m n => m = n) b.methods

/-- Whether two bindings are equal, the order of their types and methods apart. -/
def same (a b : Bindings) : Bool := a.sameTypes b && a.sameMethods b && a.version = b.version

/-! ## From a schema -/

/-- Why a schema has no bindings. -/
inductive BuildError
  | unresolved (problems : List Unresolved)
  | fault (f : BindingFault)

/-- The entry that reports a resolved graph. -/
def resolvedEntry (graph : Graph) : LogEntry :=
  { level := .info, reporter := .resolver
    message := "Resolved " ++ toString graph.types.size ++ " types and " ++
      toString graph.methods.size ++ " methods" }

/-- The entry that reports bindings. -/
def generatedEntry (b : Bindings) : LogEntry :=
  { level := .info, reporter := .generator
    message := "Generated bindings for " ++ toString b.types.size ++ " types and " ++
      toString b.methods.size ++ " methods (" ++
      toString (b.methods.values.filter (·.hasAttachment)).length ++ " with attachments)" }

/-- The graph of a schema. -/
def resolve (schema : Schema) : Logged (Except BuildError Graph) :=
  match Graph.resolve schema with
  | .error problems => ⟨.error (.unresolved problems), []⟩
  | .ok graph => ⟨.ok graph, [resolvedEntry graph]⟩

/-- The bindings of a graph. -/
def generate (graph : Graph) : Logged (Except BuildError Bindings) :=
  match ofGraph graph with
  | .error f => ⟨.error (.fault f), []⟩
  | .ok b => ⟨.ok b, [generatedEntry b]⟩

/-- The bindings of a schema. -/
def build (schema : Schema) : Logged (Except BuildError Bindings) :=
  let resolved := resolve schema
  match resolved.result with
  | .error e => ⟨.error e, resolved.entries⟩
  | .ok graph => (generate graph).after resolved.entries

end Bindings

end BotApi
