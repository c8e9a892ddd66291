import BotApi.Bindings.Basic
import BotApi.Text.Fill

/-!
# Documentation in the generated package

The documentation of a type or a method becomes a docstring: its description in filled paragraphs, then its
fields or parameters, then what it returns. Descriptions are escaped, so that none can end the docstring.
-/

namespace BotApi.Package

/-- A reverse solidus is doubled, and three double quotes in a row are escaped one by one. -/
def escapeDoc : List Char → List Char
  | [] => []
  | '"' :: '"' :: '"' :: rest => '\\' :: '"' :: '\\' :: '"' :: '\\' :: '"' :: escapeDoc rest
  | c :: rest => if c = '\\' then '\\' :: '\\' :: escapeDoc rest else c :: escapeDoc rest

/-- The name of a primitive in documentation. -/
def primitiveDoc : Primitive → String
  | .inputFile => ":obj:`~botschema.InputFile`"
  | .literalTrue => "``True``"
  | p => "``" ++ p.hint ++ "``"

mutual

/-- An expression in documentation. -/
def typeDoc (package : String) : TypeExpr → String
  | .primitive p => primitiveDoc p
  | .array item => "List of " ++ typeDoc package item
  | .union options => " | ".intercalate (optionDocs package options)
  | .ref name => ":obj:`~" ++ package ++ ".types." ++ name ++ "`"

/-- Options in documentation. -/
def optionDocs (package : String) : List TypeExpr → List String
  | [] => []
  | e :: rest => typeDoc package e :: optionDocs package rest

end

/-- The type of a field in documentation. -/
def fieldTypeDoc (package : String) (f : FieldBinding) : String :=
  typeDoc package f.type ++ (if f.required then "" else ", *optional*")

/-- The indentation of one level. -/
def indentUnit : String := "    "

/-- The width of a docstring line. -/
def docWidth : Nat := 70

/-- A text filled into lines. -/
def fillDoc (first others : String) (text : List Char) : String :=
  String.ofList (Text.Frame.fill ⟨docWidth, first.toList, others.toList⟩ text)

/-- A paragraph that announces a list ends in a colon. -/
def paragraph (text : String) : String :=
  if text.endsWith "of" then text ++ ":" else text

/-- The paragraphs of a description. An item of a list is followed by the next line at once, any other
paragraph by a blank line. The first paragraph starts behind the opening quotes. -/
def paragraphs (indent : String) : Bool → List String → String
  | _, [] => ""
  | first, x :: rest =>
    let text := paragraph x
    let filled := fillDoc (if first then "" else indent) indent (escapeDoc text.toList)
    let gap := if rest.isEmpty then "" else if text.startsWith "-" then "\n" else "\n\n"
    filled ++ gap ++ paragraphs indent false rest

/-- The text without the first occurrence of a word. -/
def removeFirst (word : List Char) : List Char → List Char
  | [] => []
  | c :: rest =>
    if word.isPrefixOf (c :: rest) then (c :: rest).drop word.length else c :: removeFirst word rest

/-- The description of a field. That it is optional is said with its type. -/
def fieldDescription (f : FieldBinding) : List Char :=
  if f.description.startsWith "Optional." then removeFirst "Optional. ".toList f.description.toList
  else f.description.toList

/-- A field: its name and type, and its description below them. -/
def fieldDoc (package indent : String) (f : FieldBinding) : String :=
  let item := indent ++ indentUnit
  let text := item ++ indentUnit
  let header := f.name ++ " (" ++ fieldTypeDoc package f ++ "):"
  fillDoc item item header.toList ++ "\n" ++ fillDoc text text (escapeDoc (fieldDescription f))

/-- The docstring of a description, with fields and with what is returned, if there are any. -/
def docstring (package indent : String) (description : List String) (fields : List FieldBinding)
    (returns : Option TypeExpr) : String :=
  let body := paragraphs indent true description
  let parameters :=
    if fields.isEmpty then ""
    else "\n\n" ++ indent ++ "Parameters:\n" ++ "\n\n".intercalate (fields.map (fieldDoc package indent))
  let result := match returns with
    | none => ""
    | some e => "\n\n" ++ indent ++ "Returns:\n" ++ indent ++ indentUnit ++ typeDoc package e
  body ++ parameters ++ result

/-- The description of a type: its own, or else its name, and its variants. -/
def describe (t : TypeBinding) : List String :=
  (if t.description.isEmpty then [t.name] else t.description) ++
    if t.variants.isEmpty then []
    else "It can be one of:" :: t.variants.map fun v => "- " ++ v

end BotApi.Package
