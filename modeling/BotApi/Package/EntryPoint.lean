import BotApi.Package.Literal
import BotApi.Package.Source
import BotApi.Request.Encode

/-!
# Entry points

The function that the generated package has for a method stands in a class. It takes the arguments as keywords, with a
mark as the default of each one that may be left out, and hands a mapping on. What a call of it does is told here by the
rules of the language: which texts are functions at all, which keyword belongs to which parameter, and what the names in
the body stand for.
-/

namespace BotApi.Package

/-! ## Variables -/

/-- The name that a text stands for. Texts with one normal form are one name. -/
def nameOf (text : String) : String := String.ofList (Unicode.normalForm text.toList)

/-- Whether a name belongs to the class in which it is used: it starts with two low lines and does not end with two. -/
def isPrivate (name : String) : Bool :=
  "__".toList.isPrefixOf name.toList && !"__".toList.isSuffixOf name.toList

/-- The variable of a text in the class of the entry points. A private name has that of the class in front. -/
def variableOf (text : String) : String := if isPrivate (nameOf text) then "_Methods" ++ nameOf text else nameOf text

/-- Whether a text can name a function or a parameter. The name of a constant cannot. -/
def isBindable (text : String) : Bool := isAttributeName text && nameOf text ≠ "__debug__"

/-! ## Functions -/

/-- A keyword parameter. One that is optional has the mark of what was not sent as its default. -/
structure Parameter where
  name : String
  type : TypeExpr
  isOptional : Bool

/-- A function with keyword parameters that calls a method with a mapping. The values of the mapping are variables. -/
structure EntryPoint where
  name : String
  parameters : List Parameter
  doc : String
  method : String
  items : List (String × String)

/-- A parameter in a signature. -/
def Parameter.toText (p : Parameter) : String :=
  p.name ++ ": " ++ p.type.hint ++ if p.isOptional then " | None | Absent = ABSENT" else ""

/-- The characters that do not stand for themselves between quotes. -/
def specialChars : List Char := ['"', '\\', '\n', '\r', Char.ofNat 0]

/-- Whether a text between quotes stands for itself. -/
def isPlain (text : String) : Bool := text.toList.all fun c => !specialChars.contains c

namespace EntryPoint

/-- The text of a function. -/
def toText (e : EntryPoint) : String :=
  let indent := indentUnit ++ indentUnit
  let signature := "self" :: (if e.parameters.isEmpty then [] else "*" :: e.parameters.map Parameter.toText)
  let items := e.items.map fun i => "\"" ++ i.1 ++ "\": " ++ i.2
  indentUnit ++ "def " ++ e.name ++ "(" ++ ", ".intercalate signature ++ ") -> APIResult:\n" ++
    indent ++ "\"\"\"" ++ e.doc ++ "\n" ++ indent ++ "\"\"\"\n\n" ++
    indent ++ "return self.call(\"" ++ e.method ++ "\", \x7b" ++ ", ".intercalate items ++ "\x7d)\n"

/-- The characters between the triple quotes. -/
def literal (e : EntryPoint) : List Char := (e.doc ++ "\n" ++ (indentUnit ++ indentUnit)).toList

/-- Whether the text of a function is taken for that function. -/
structure IsFunction (e : EntryPoint) : Prop where
  name : isBindable e.name = true
  parameters : ∀ p ∈ e.parameters, isBindable p.name = true
  /-- No two parameters are one variable, and none is the first parameter. -/
  apart : (("self" :: e.parameters.map (·.name)).map variableOf).Nodup
  /-- Hints are expressions, as the types in them have names. -/
  hints : ∀ p ∈ e.parameters, ∀ name ∈ p.type.refs, isAttributeName name = true
  /-- The documentation ends at the quotes behind it, and its escapes are complete. No text has a null character. -/
  doc : splitLiteral (e.literal ++ "\"\"\"".toList) = some (e.literal, []) ∧ (unescape e.literal).isSome = true ∧
    Char.ofNat 0 ∉ e.literal
  method : isPlain e.method = true
  items : ∀ i ∈ e.items, isPlain i.1 = true ∧ i.2 ∈ e.parameters.map (·.name)

instance (e : EntryPoint) : Decidable e.IsFunction :=
  have : Decidable (∀ p ∈ e.parameters, ∀ name ∈ p.type.refs, isAttributeName name = true) :=
    List.decidableBAll (fun p => ∀ name ∈ p.type.refs, isAttributeName name = true) e.parameters
  decidable_of_iff
    (isBindable e.name = true ∧ (∀ p ∈ e.parameters, isBindable p.name = true) ∧
      (("self" :: e.parameters.map (·.name)).map variableOf).Nodup ∧
      (∀ p ∈ e.parameters, ∀ name ∈ p.type.refs, isAttributeName name = true) ∧
      (splitLiteral (e.literal ++ "\"\"\"".toList) = some (e.literal, []) ∧ (unescape e.literal).isSome = true ∧
        Char.ofNat 0 ∉ e.literal) ∧
      isPlain e.method = true ∧ ∀ i ∈ e.items, isPlain i.1 = true ∧ i.2 ∈ e.parameters.map (·.name))
    ⟨fun ⟨name, parameters, apart, hints, doc, method, items⟩ =>
      ⟨name, parameters, apart, hints, doc, method, items⟩,
    fun ⟨name, parameters, apart, hints, doc, method, items⟩ =>
      ⟨name, parameters, apart, hints, doc, method, items⟩⟩

/-- The values of the variables in a call, if the keywords are different ones of the parameters and none is missing. A
keyword stands in the text of a call outside the class, so its normal form counts, and it is not private there. -/
def scope? (e : EntryPoint) (keywords : List (String × Value)) : Option (List (String × Value)) :=
  let given := keywords.map fun kw => (nameOf kw.1, kw.2)
  let known := e.parameters.map fun p => variableOf p.name
  if (given.map Prod.fst).Nodup ∧ ∀ kw ∈ given, kw.1 ∈ known then
    e.parameters.mapM fun p =>
      ((given.lookup (variableOf p.name)).or (if p.isOptional then some .absent else none)).map fun v =>
        (variableOf p.name, v)
  else none

/-- The mapping that is made of the variables. -/
def mapping? (e : EntryPoint) (scope : List (String × Value)) : Option Request.Arguments :=
  Entries.merge <$> e.items.mapM fun i => (scope.lookup (variableOf i.2)).map fun v => (Key.text i.1, v)

/-- The method that a call with keywords is handed on to, with the mapping. A text that is no function hands nothing
on. -/
def forwards? (e : EntryPoint) (keywords : List (String × Value)) : Option (String × Request.Arguments) :=
  if e.IsFunction then ((e.scope? keywords).bind e.mapping?).map fun arguments => (e.method, arguments) else none

end EntryPoint

/-- The entry point of a method: it hands on each parameter under its wire name. -/
def entryPoint (package : String) (m : MethodBinding) : EntryPoint where
  name := m.snakeName
  parameters := m.params.map fun p => ⟨p.name, p.type, !p.required⟩
  doc := docstring package (indentUnit ++ indentUnit) m.description m.params (some m.returns)
  method := m.name
  items := m.params.map fun p => (p.wireName, p.name)

end BotApi.Package
