import BotApi.Schema.Basic
import BotApi.Text.Quoted
import BotApi.TypeExpr.Reading

/-!
# Graphs

A graph is a schema whose type expressions are read. Types refer to each other by name, and each name that is
mentioned has to be that of a type; whatever is not is a problem of the schema.
-/

namespace BotApi

/-- A field of a type, or a parameter of a method. -/
structure Field where
  name : String
  type : TypeExpr
  required : Bool
  description : String
  deriving DecidableEq

/-- A type of a graph. -/
structure TypeNode where
  name : String
  description : List String
  href : String
  fields : List Field
  variants : List String
  deriving DecidableEq

/-- A method of a graph. -/
structure MethodNode where
  name : String
  params : List Field
  returns : TypeExpr
  description : List String
  href : String
  deriving DecidableEq

/-- The types and methods of a schema, with their type expressions read. -/
structure Graph where
  types : Table TypeNode
  methods : Table MethodNode
  version : Option String

/-- Whether the type has no values of its own. -/
def TypeNode.isAbstract (node : TypeNode) : Bool := !node.variants.isEmpty

/-- Where a schema mentions a type. -/
inductive Mention
  | field (owner name : String)
  | subtype (owner : String)
  | subtypeOf (owner : String)
  | returns (method : String)
  deriving DecidableEq

/-- The wording of a mention. -/
def Mention.toText : Mention → String
  | .field owner name => owner ++ "." ++ name
  | .subtype owner => owner ++ " (subtype)"
  | .subtypeOf owner => owner ++ " (subtype_of)"
  | .returns method => method ++ " (returns)"

/-- What is wrong with a mention. -/
inductive Unresolved
  | unknown (mention : Mention) (name : String)
  | empty (mention : Mention)
  deriving DecidableEq

/-- The wording of a problem. -/
def Unresolved.message : Unresolved → String
  | .unknown mention name => mention.toText ++ ": unknown type " ++ Text.quoted name
  | .empty mention => mention.toText ++ ": empty type expression"

/-- The wording of all problems together. -/
def Unresolved.summary (problems : List String) : String :=
  toString problems.length ++ " unresolved reference(s): " ++ "; ".intercalate problems

namespace Schema

/-- The names that no type has, as problems of their mention. -/
def unknownNames (schema : Schema) (mention : Mention) (names : List String) : List Unresolved :=
  (names.filter fun name => !schema.types.contains name).map (.unknown mention)

/-- The problems of a list of alternatives. -/
def problemsOfTexts (schema : Schema) (mention : Mention) (texts : List String) : List Unresolved :=
  if texts.isEmpty then [.empty mention]
  else schema.unknownNames mention (TypeExpr.ofTexts texts).refs

/-- The problems of fields, one after another. -/
def problemsOfFields (schema : Schema) (owner : String) (fields : List FieldSpec) : List Unresolved :=
  fields.flatMap fun f => schema.problemsOfTexts (.field owner f.name) f.types

/-- The problems of a type: of its fields, its subtypes, and the types that it is a subtype of. -/
def problemsOfType (schema : Schema) (name : String) (spec : TypeSpec) : List Unresolved :=
  schema.problemsOfFields name spec.fields ++
    schema.unknownNames (.subtype name) spec.subtypes ++
    schema.unknownNames (.subtypeOf name) spec.subtypeOf

/-- The problems of a method: of its parameters and of what it returns. -/
def problemsOfMethod (schema : Schema) (name : String) (spec : MethodSpec) : List Unresolved :=
  schema.problemsOfFields name spec.fields ++ schema.problemsOfTexts (.returns name) spec.returns

/-- All problems, types first. -/
def problems (schema : Schema) : List Unresolved :=
  schema.types.entries.flatMap (fun e => schema.problemsOfType e.1 e.2) ++
    schema.methods.entries.flatMap (fun e => schema.problemsOfMethod e.1 e.2)

end Schema

namespace Graph

/-- The field of a specification. -/
def fieldOf (spec : FieldSpec) : Field :=
  { name := spec.name, type := .ofTexts spec.types, required := spec.required
    description := spec.description }

/-- The type of a specification. -/
def typeOf (name : String) (spec : TypeSpec) : TypeNode :=
  { name, description := spec.description, href := spec.href, fields := spec.fields.map fieldOf
    variants := spec.subtypes }

/-- The method of a specification. -/
def methodOf (name : String) (spec : MethodSpec) : MethodNode :=
  { name, params := spec.fields.map fieldOf, returns := .ofTexts spec.returns
    description := spec.description, href := spec.href }

/-- Whether two graphs have the same types, in whatever order. -/
def sameTypes (g h : Graph) : Bool := g.types.agrees (fun a b => a = b) h.types

/-- Whether two graphs have the same methods, in whatever order. -/
def sameMethods (g h : Graph) : Bool := g.methods.agrees (fun a b => a = b) h.methods

/-- Whether two graphs are equal, the order of their types and methods apart. -/
def same (g h : Graph) : Bool := g.sameTypes h && g.sameMethods h && g.version = h.version

end Graph

end BotApi
