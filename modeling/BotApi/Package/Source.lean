import BotApi.Package.Docstring
import BotApi.Text.Quoted

/-!
# The source texts of the generated package

A type becomes a module with a frozen record class, and the methods become one class of typed entry points.
Each text imports what its hints name.
-/

namespace BotApi.Package

/-- What every generated file starts with. -/
def warning : String :=
  "# # # # # # # # # # # # # # # # # # # # # # # #\n" ++
  "#               !!! WARNING !!!               #\n" ++
  "#          This is a generated file!          #\n" ++
  "# All changes made in this file will be lost! #\n" ++
  "# # # # # # # # # # # # # # # # # # # # # # # #"

/-- The types that fields refer to, in order and each once, without one of them. -/
def importedTypes (fields : List FieldBinding) (exclude : String) : List String :=
  let names := (fields.flatMap fun f => f.type.refs).filter (· ≠ exclude)
  (names.mergeSort (· ≤ ·)).eraseDups

/-- The import of the typing module, for a text that imports types. -/
def typingImport (fields : List FieldBinding) (exclude : String) : String :=
  if (importedTypes fields exclude).isEmpty then "" else "\nimport typing\n"

/-- The import of types, which only a checker of hints performs. -/
def typesImport (fields : List FieldBinding) (package exclude : String) : String :=
  let names := importedTypes fields exclude
  if names.isEmpty then ""
  else
    "\nif typing.TYPE_CHECKING:\n" ++ indentUnit ++ "from " ++ package ++ ".types import " ++
      ", ".intercalate names ++ "\n"

/-- What a type module imports from the library that runs it. -/
def runtimeImports (fields : List FieldBinding) : String :=
  let optional := fields.any fun f => !f.required
  let files := fields.any fun f => f.type.mentionsFile
  ", ".intercalate <|
    (if optional then ["ABSENT", "Absent"] else []) ++ (if files then ["InputFile"] else []) ++ ["Object"]

/-- The default of a field that is not required. -/
def defaultOf (f : FieldBinding) : String :=
  if f.required then "" else " = ABSENT"

/-- The attributes of a class. -/
def attributes (fields : List FieldBinding) : String :=
  ("\n" ++ indentUnit).intercalate (fields.map fun f => f.name ++ ": " ++ f.hint ++ defaultOf f)

/-- The table from attributes to wire names, where they differ. -/
def wireNames (fields : List FieldBinding) : String :=
  "\x7b" ++
    ", ".intercalate ((renamed fields).map fun e => Text.quoted e.1 ++ ": " ++ Text.quoted e.2) ++ "\x7d"

/-- The module of a type. -/
def typeModule (package : String) (t : TypeBinding) : String :=
  warning ++ "\n\nfrom __future__ import annotations\n\nimport dataclasses\n" ++
    typingImport t.fields t.name ++
    "\nfrom botschema.runtime.values import " ++ runtimeImports t.fields ++ "\n" ++
    typesImport t.fields package t.name ++
    "\n\n@dataclasses.dataclass(frozen=True, kw_only=True)\nclass " ++ t.name ++ "(Object):\n" ++
    indentUnit ++ "\"\"\"" ++ docstring package indentUnit (describe t) t.fields none ++ "\n" ++
    indentUnit ++ "\"\"\"\n\n" ++
    indentUnit ++ "__binding__ = \"" ++ t.name ++ "\"\n" ++
    indentUnit ++ "__wire_names__ = " ++ wireNames t.fields ++ "\n\n" ++
    indentUnit ++ attributes t.fields ++ "\n"

/-- The name of the module of a type. -/
def moduleName (type : String) : String := Text.snake type

/-- The types by the names of their modules. Of two types with one module the later counts. -/
def modules (types : List TypeBinding) : Table String :=
  .ofList (types.map fun t => (moduleName t.name, t.name))

/-- The module that gathers the types. -/
def typesInit (types : List TypeBinding) : String :=
  let table := modules types
  let imports := String.join (table.entries.map fun e => "from ." ++ e.1 ++ " import " ++ e.2 ++ "\n")
  let names := ",\n".intercalate (table.values.map fun name => "\"" ++ name ++ "\"")
  warning ++ "\n\n" ++ imports ++ "\n\n__all__ = [\n" ++ names ++ "\n]\n"

/-- The entry point of a method. -/
def methodSource (package : String) (m : MethodBinding) : String :=
  let indent := indentUnit ++ indentUnit
  let parameters := m.params.map fun p => p.name ++ ": " ++ p.hint ++ defaultOf p
  let signature := "self" :: (if m.params.isEmpty then [] else "*" :: parameters)
  let arguments := m.params.map fun p => "\"" ++ p.wireName ++ "\": " ++ p.name
  indentUnit ++ "def " ++ m.snakeName ++ "(" ++ ", ".intercalate signature ++ ") -> APIResult:\n" ++
    indent ++ "\"\"\"" ++ docstring package indent m.description m.params (some m.returns) ++ "\n" ++
    indent ++ "\"\"\"\n\n" ++
    indent ++ "return self.call(\"" ++ m.name ++ "\", \x7b" ++ ", ".intercalate arguments ++ "\x7d)\n"

/-- The module of the methods. -/
def methodsModule (package : String) (methods : List MethodBinding) : String :=
  let body := "\n".intercalate (methods.map (methodSource package))
  warning ++ "\n\nfrom __future__ import annotations\n\nimport typing\n\n" ++
    "from botschema.runtime.result import APIResult\n" ++
    "from botschema.runtime.values import ABSENT, Absent, InputFile\n" ++
    typesImport (methods.flatMap (·.params)) package "" ++
    "\n\nclass Methods:\n" ++
    indentUnit ++ "\"\"\"Typed entry points of every method.\n\n" ++
    indentUnit ++ "Mix into :class:`botschema.Client`, which provides ``call``:\n\n" ++
    indentUnit ++ indentUnit ++ "class Bot(Methods, Client):\n" ++
    indentUnit ++ indentUnit ++ indentUnit ++ "pass\n" ++
    indentUnit ++ "\"\"\"\n\n" ++
    indentUnit ++ "call: typing.Callable[..., APIResult]\n\n" ++
    (if body = "" then indentUnit ++ "pass\n" else body) ++ "\n"

end BotApi.Package
