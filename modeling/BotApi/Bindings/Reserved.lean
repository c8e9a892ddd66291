import BotApi.Value.Basic

/-!
# Reserved attributes

A record is a value of a class, which has attributes of its own beside the fields. A field that takes
the name of one of them may be harmless, or it may keep the class or its records from being made. A field that
may be left out puts its default into the class, and so does harm where a required one does not, and the other
way round. Where the class has an attribute of the name already, that is the default of the field, even of a
required one.
-/

namespace BotApi.Reserved

/-- What a field does by its name alone. -/
inductive Harm
  /-- No class has the default of such a field for this attribute. -/
  | refused
  /-- The class does not know its module. -/
  | lostModule
  /-- The attribute has a value of this kind already, and no field may have it as its default. -/
  | shared (kind : String)
  /-- The class has to set the attribute itself, so that its records stay as they are. -/
  | frozen
  /-- Nothing can be documented by a signature that the default of such a field is. -/
  | unsigned
  /-- Nothing can be documented by the signature of the default of such a field. -/
  | unwrapped
  deriving DecidableEq

/-- The harm that a field of a name does to its class. -/
def harm? (name : String) (required : Bool) : Option Harm :=
  match name, required with
  | "__slots__", false | "__qualname__", false | "__classcell__", false => some .refused
  | "__module__", false => some .lostModule
  | "__annotations__", _ => some (.shared "dict")
  | "__dict__", _ => some (.shared "mappingproxy")
  | "__wire_names__", true => some (.shared "dict")
  | "__setattr__", false | "__delattr__", false => some .frozen
  | _, _ => none

/-- The names of fields that may be left out and harm documentation by a signature, in the order in which a
signature is looked for. -/
def docHarms : List (String × Harm) :=
  [("__signature__", .unsigned), ("__wrapped__", .unwrapped), ("__init__", .unsigned), ("__new__", .unsigned)]

/-- What keeps records from being made, by the time at which it does: before their fields are set, when the
field itself is set, and after all are set. -/
def obstacles : List (String → Bool → Bool) :=
  [fun name required =>
      name = "__dataclass_builtins_object__" || (["__new__", "__init__"].contains name && !required),
    fun name required => ["__class__", "__weakref__"].contains name && required,
    fun name required => name = "__post_init__" && !required]

/-- The name of the documentation. A field of it that may be left out stands in for it. -/
def docName : String := "__doc__"

/-! ## Attributes that a class has -/

/-- A class under its full name. -/
def classValue (name : String) : Value := .foreign "type" ("<class '" ++ name ++ "'>")

/-- The class that all records have in common. -/
def baseClass : Value := classValue "botschema.runtime.values.Object"

/-- The attributes of every class that are wrapped operators. -/
def operators : List String :=
  ["__delattr__", "__eq__", "__ge__", "__getattribute__", "__gt__", "__hash__", "__init__", "__le__", "__lt__",
    "__ne__", "__repr__", "__setattr__", "__str__"]

/-- The attributes of every class that are methods of its values. -/
def methods : List String :=
  ["__dir__", "__format__", "__getstate__", "__reduce__", "__reduce_ex__", "__sizeof__"]

/-- The attributes of every class that are methods of the class itself. -/
def classMethods : List String :=
  ["__init_subclass__", "__instancecheck__", "__new__", "__prepare__", "__subclasscheck__", "__subclasses__",
    "__subclasshook__", "mro"]

/-- The attributes of every class that are operators of the class itself. -/
def classOperators : List String := ["__call__", "__or__", "__ror__"]

/-- What a class tells about itself, which is not looked up among its attributes. -/
def descriptions : List String :=
  ["__abstractmethods__", "__base__", "__bases__", "__basicsize__", "__class__", "__dictoffset__", "__doc__",
    "__flags__", "__itemsize__", "__module__", "__mro__", "__name__", "__qualname__", "__text_signature__",
    "__weakrefoffset__"]

/-- The flags of a class. Looking up an attribute, which each earlier field does unless it is a description,
sets one more. -/
def flags (earlier : List String) : Int :=
  if earlier.all descriptions.contains then 22032 else 546320

/-- What closes a signature at the start of a documentation. -/
def signatureEnd : List Char := ")\n--\n\n".toList

/-- The part of a documentation up to the closing bracket of a signature, if that comes before an empty line. -/
def takeSignature : List Char → Option (List Char)
  | [] => none
  | c :: rest =>
    if signatureEnd.isPrefixOf (c :: rest) then some [c]
    else if "\n\n".toList.isPrefixOf (c :: rest) then none
    else (takeSignature rest).map (c :: ·)

/-- The signature at the start of a documentation, behind the last part of the name of the type. -/
def textSignature? (type doc : String) : Option String :=
  let name := ((type.splitOn ".").getLast?.getD type).toList
  let text := doc.toList.takeWhile (· ≠ Char.ofNat 0)
  let rest := text.drop name.length
  if name.isPrefixOf text && rest.head? = some '(' then (takeSignature rest).map String.ofList else none

/-- What every class of records tells about itself. `doc` is its documentation, unless a field stands in for it,
and `earlier` are the fields before the one in question. -/
def description? (type : String) (doc : Option String) (earlier : List String) (name : String) : Option Value :=
  match name with
  | "__name__" | "__qualname__" => some (.text type)
  | "__base__" => some baseClass
  | "__bases__" => some (.tuple [baseClass])
  | "__mro__" => some (.tuple [classValue ("types." ++ type), baseClass, classValue "object"])
  | "__class__" => some (classValue "type")
  | "__basicsize__" => some (.int 24)
  | "__dictoffset__" => some (.int (-48))
  | "__flags__" => some (.int (flags earlier))
  | "__itemsize__" => some (.int 0)
  | "__weakrefoffset__" => some (.int 16)
  | "__text_signature__" =>
    match doc.bind (textSignature? type) with
    | some signature => some (.text signature)
    | none => some .null
  | "__dataclass_params__" =>
    some (.foreign "_DataclassParams" ("_DataclassParams(init=True,repr=True,eq=True,order=False," ++
      "unsafe_hash=False,frozen=True)"))
  | _ => none

/-- What a class of records has for a name unless a field puts its default there. -/
def inherited? (type : String) (doc : Option String) (name : String) : Option Value :=
  match name with
  | "__binding__" => some (.text type)
  | "__doc__" => doc.map .text
  | "__module__" => some (.text "types")
  | "__slots__" => some (.tuple [])
  | "__weakref__" =>
    some (.foreign "getset_descriptor" ("<attribute '__weakref__' of '" ++ type ++ "' objects>"))
  | _ =>
    if operators.contains name then
      some (.foreign "wrapper_descriptor" ("<slot wrapper '" ++ name ++ "' of 'object' objects>"))
    else if methods.contains name then
      some (.foreign "method_descriptor" ("<method '" ++ name ++ "' of 'object' objects>"))
    else if classMethods.contains name then
      some (.foreign "builtin_function_or_method" ("<built-in method " ++ name ++ " of type object>"))
    else if classOperators.contains name then
      some (.foreign "method-wrapper" ("<method-wrapper '" ++ name ++ "' of type object>"))
    else none

/-- The default that a field takes from its class, where the class has one for it. -/
def default? (type : String) (doc : Option String) (earlier : List String) (name : String) (required : Bool) :
    Option Value :=
  (description? type doc earlier name).or (if required then inherited? type doc name else none)

end BotApi.Reserved
