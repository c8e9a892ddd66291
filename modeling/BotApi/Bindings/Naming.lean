import BotApi.Graph
import BotApi.Unicode.Identifier

/-!
# Names and hints in generated code

A field becomes an attribute in the generated package, so a wire name that is a keyword gets another name there,
and its type becomes a type hint.
-/

namespace BotApi

/-- The keywords, which cannot name an attribute. -/
def keywords : List String :=
  ["False", "None", "True", "and", "as", "assert", "async", "await", "break", "class", "continue", "def",
    "del", "elif", "else", "except", "finally", "for", "from", "global", "if", "import", "in", "is",
    "lambda", "nonlocal", "not", "or", "pass", "raise", "return", "try", "while", "with", "yield"]

/-- The attribute of a wire name. A keyword takes a low line at its end; the sender of a message has a name
of its own. -/
def attributeName (wireName : String) : String :=
  if wireName = "from" then "from_user"
  else if keywords.contains wireName then wireName ++ "_"
  else wireName

/-- Whether a text can name an attribute. -/
def isAttributeName (name : String) : Bool :=
  Unicode.isIdentifier name.toList && !keywords.contains name

/-- The hint of a primitive. -/
def Primitive.hint : Primitive → String
  | .string => "str"
  | .integer => "int"
  | .boolean => "bool"
  | .float => "float"
  | .literalTrue => "bool"
  | .inputFile => "InputFile"

namespace TypeExpr

mutual

/-- The hint of an expression. Arrays arrive as tuples. -/
def hint : TypeExpr → String
  | .primitive p => p.hint
  | .ref name => name
  | .array item => "tuple[" ++ hint item ++ ", ...]"
  | .union options => " | ".intercalate (optionHints options)

/-- The hints of options. -/
def optionHints : List TypeExpr → List String
  | [] => []
  | e :: rest => hint e :: optionHints rest

end

end TypeExpr

end BotApi
