import BotApi.Graph

/-!
# Resolving schemas

Types refer to each other in whatever order, and to themselves, so that resolving goes over them twice. First each
name gets a node with what needs no reading, and only then are the nodes filled. A reference holds the node of its
name from the beginning; what it refers to comes into that same node later.

Whatever is wrong is noted where it is met, while an expression is read, and reading goes on. In the end there is a
graph only if nothing was noted.

Nodes are told apart by what they are and not by what they hold. They lie on a heap under handles.
-/

namespace BotApi

/-! ## Linked graphs -/

/-- Where a node lies. -/
abbrev Handle := Nat

/-- A reference: the name that is mentioned, and the node of that name if there was one. -/
structure NodeRef where
  name : String
  node : Option Handle
  deriving DecidableEq

/-- A type expression whose references hold nodes. -/
inductive LinkedExpr
  | primitive (p : Primitive)
  | ref (r : NodeRef)
  | array (item : LinkedExpr)
  | union (options : List LinkedExpr)

/-- A field of a type, or a parameter of a method. -/
structure LinkedField where
  name : String
  type : LinkedExpr
  required : Bool
  description : String

/-- A type. Its fields and variants are filled in last. -/
structure LinkedNode where
  name : String
  description : List String
  href : String
  fields : List LinkedField := []
  variants : List NodeRef := []

/-- A method. -/
structure LinkedMethod where
  name : String
  params : List LinkedField
  returns : LinkedExpr
  description : List String
  href : String

/-- The types and methods of a schema, whose references lead to nodes on a heap. -/
structure LinkedGraph where
  heap : List LinkedNode
  types : Table Handle
  methods : Table LinkedMethod
  version : Option String

namespace LinkedExpr

mutual

/-- The references of an expression, in order. -/
def refs : LinkedExpr → List NodeRef
  | .primitive _ => []
  | .ref r => [r]
  | .array item => refs item
  | .union options => optionRefs options

/-- The references of options. -/
def optionRefs : List LinkedExpr → List NodeRef
  | [] => []
  | e :: rest => refs e ++ optionRefs rest

end

mutual

/-- The expression without nodes. -/
def forget : LinkedExpr → TypeExpr
  | .primitive p => .primitive p
  | .ref r => .ref r.name
  | .array item => .array (forget item)
  | .union options => .union (forgetOptions options)

/-- The options without nodes. -/
def forgetOptions : List LinkedExpr → List TypeExpr
  | [] => []
  | e :: rest => forget e :: forgetOptions rest

end

/-- The options of a union; any other expression is its own only option. -/
def alternatives : LinkedExpr → List LinkedExpr
  | .union options => options
  | e => [e]

/-- The expression with these options, of which unions give theirs. -/
def flatten (options : List LinkedExpr) : LinkedExpr :=
  match options.flatMap alternatives with
  | [e] => e
  | flat => .union flat

end LinkedExpr

/-- The field without nodes. -/
def LinkedField.forget (f : LinkedField) : Field :=
  { name := f.name, type := f.type.forget, required := f.required, description := f.description }

/-- The type without nodes. -/
def LinkedNode.forget (node : LinkedNode) : TypeNode :=
  { name := node.name, description := node.description, href := node.href
    fields := node.fields.map LinkedField.forget, variants := node.variants.map NodeRef.name }

/-- The method without nodes. -/
def LinkedMethod.forget (m : LinkedMethod) : MethodNode :=
  { name := m.name, params := m.params.map LinkedField.forget, returns := m.returns.forget
    description := m.description, href := m.href }

/-- The node that lies under a handle, or one of which nothing is said if nothing lies there. -/
def LinkedGraph.node (g : LinkedGraph) (h : Handle) : LinkedNode :=
  g.heap.getD h { name := "", description := [], href := "" }

/-- The graph without nodes, in which types refer to each other by name. -/
def LinkedGraph.forget (g : LinkedGraph) : Graph :=
  { types := g.types.map fun _ h => (g.node h).forget
    methods := g.methods.map fun _ m => m.forget
    version := g.version }

/-! ## The two passes -/

/-- What resolving keeps while it goes on: the nodes, where that of each name lies, and the problems noted so far. -/
structure Resolver where
  heap : List LinkedNode := []
  nodes : Table Handle := .empty
  problems : List Unresolved := []

/-- A step of resolving. -/
abbrev Resolving := StateM Resolver

namespace Resolver

open TypeExpr (splitOr afterArray?)
open Unicode (trim)

/-- Makes the node of a type, with neither fields nor variants. -/
def allocate (name : String) (spec : TypeSpec) : Resolving Unit :=
  modify fun s =>
    { s with
      heap := s.heap ++ [{ name, description := spec.description, href := spec.href }]
      nodes := s.nodes.insert name s.heap.length }

/-- Notes a problem. -/
def report (problem : Unresolved) : Resolving Unit :=
  modify fun s => { s with problems := s.problems ++ [problem] }

/-- Changes the node under a handle. -/
def write (h : Handle) (change : LinkedNode → LinkedNode) : Resolving Unit :=
  modify fun s => { s with heap := s.heap.modify h change }

/-- The reference to a name. -/
def reference (place : Mention) (name : String) : Resolving NodeRef := do
  let node := (← get).nodes.find? name
  if node.isNone then report (.unknown place name)
  return { name, node }

/-- Reads a text. Each of its parts is read like a text itself. -/
def parse (place : Mention) (cs : List Char) : Resolving LinkedExpr :=
  if _h : 1 < (splitOr [] (trim cs)).length then
    .flatten <$> (splitOr [] (trim cs)).attach.mapM fun part => parse place part.1
  else
    match _h : afterArray? (trim cs) with
    | some rest => .array <$> parse place rest
    | none =>
      match Primitive.ofName? (String.ofList (trim cs)) with
      | some p => pure (.primitive p)
      | none => .ref <$> reference place (String.ofList (trim cs))
termination_by cs.length
decreasing_by
  · exact Nat.lt_of_lt_of_le (TypeExpr.length_lt_of_mem_splitOr part.2 _h) (TypeExpr.length_trim_le cs)
  · exact Nat.lt_of_lt_of_le (TypeExpr.length_afterArray?_lt _h) (TypeExpr.length_trim_le cs)

/-- Reads alternatives. For lack of any, the place is taken for a text. -/
def resolveTexts (place : Mention) (texts : List String) : Resolving LinkedExpr := do
  let options ← texts.mapM fun text => parse place text.toList
  if options.isEmpty then
    report (.empty place)
    return .primitive .string
  return .flatten options

/-- Reads a field. -/
def resolveField (owner : String) (spec : FieldSpec) : Resolving LinkedField := do
  let type ← resolveTexts (.field owner spec.name) spec.types
  return { name := spec.name, type, required := spec.required, description := spec.description }

/-- Fills the node of a type. What it is a subtype of is only looked up. -/
def fill (name : String) (spec : TypeSpec) : Resolving Unit := do
  -- the first pass made a node for each name
  let some node := (← get).nodes.find? name | return
  let fields ← spec.fields.mapM (resolveField name)
  write node fun n => { n with fields }
  let variants ← spec.subtypes.mapM (reference (.subtype name))
  write node fun n => { n with variants }
  let _ ← spec.subtypeOf.mapM (reference (.subtypeOf name))

/-- Reads a method. -/
def resolveMethod (name : String) (spec : MethodSpec) : Resolving LinkedMethod := do
  let params ← spec.fields.mapM (resolveField name)
  let returns ← resolveTexts (.returns name) spec.returns
  return { name, params, returns, description := spec.description, href := spec.href }

/-- Makes all nodes, fills them, and reads the methods. -/
def resolve (schema : Schema) : Resolving (Table LinkedMethod) := do
  schema.types.entries.forM fun e => allocate e.1 e.2
  schema.types.entries.forM fun e => fill e.1 e.2
  let methods ← schema.methods.entries.mapM fun e => (e.1, ·) <$> resolveMethod e.1 e.2
  return .ofList methods

end Resolver

/-- The linked graph of a schema, or all problems in the order in which they were noted. -/
def LinkedGraph.resolve (schema : Schema) : Except (List Unresolved) LinkedGraph :=
  let (methods, s) := (Resolver.resolve schema).run {}
  if s.problems.isEmpty then
    .ok { heap := s.heap, types := s.nodes, methods, version := schema.version }
  else .error s.problems

/-- The graph of a schema, or its problems. -/
def Graph.resolve (schema : Schema) : Except (List Unresolved) Graph :=
  (LinkedGraph.resolve schema).map LinkedGraph.forget

end BotApi
