/-!
# Type expressions

The documentation gives the type of a field as a text such as `Array of PhotoSize` or `Integer or String`.
A type expression is what such a text means: a primitive, a named type, an array, or a union whose options
stand in the order of the documentation.

`TypeExpr.size` counts the nodes of an expression; recursion over expressions goes down in it last.
-/

namespace BotApi

/-- The primitive types. `literalTrue` is the type of the one value that some methods return. -/
inductive Primitive
  | string | integer | float | boolean | literalTrue | inputFile
  deriving DecidableEq

/-- The name of a primitive in the documentation. -/
def Primitive.name : Primitive → String
  | .string => "String"
  | .integer => "Integer"
  | .float => "Float"
  | .boolean => "Boolean"
  | .literalTrue => "True"
  | .inputFile => "InputFile"

/-- The primitives. -/
def Primitive.all : List Primitive :=
  [.string, .integer, .float, .boolean, .literalTrue, .inputFile]

/-- The primitive of a name. -/
def Primitive.ofName? (name : String) : Option Primitive :=
  Primitive.all.find? (·.name = name)

/-- A type expression. -/
inductive TypeExpr
  | primitive (p : Primitive)
  | ref (name : String)
  | array (item : TypeExpr)
  | union (options : List TypeExpr)

namespace TypeExpr

mutual

/-- Equality of expressions is decidable. -/
def decEq : (a b : TypeExpr) → Decidable (a = b)
  | .primitive p, .primitive q =>
    if h : p = q then isTrue (by rw [h]) else isFalse (by simp [h])
  | .ref m, .ref n => if h : m = n then isTrue (by rw [h]) else isFalse (by simp [h])
  | .array a, .array b =>
    match decEq a b with
    | isTrue h => isTrue (by rw [h])
    | isFalse h => isFalse (by simp [h])
  | .union as, .union bs =>
    match decEqOptions as bs with
    | isTrue h => isTrue (by rw [h])
    | isFalse h => isFalse (by simp [h])
  | .primitive _, .ref _ | .primitive _, .array _ | .primitive _, .union _
  | .ref _, .primitive _ | .ref _, .array _ | .ref _, .union _
  | .array _, .primitive _ | .array _, .ref _ | .array _, .union _
  | .union _, .primitive _ | .union _, .ref _ | .union _, .array _ => isFalse (by simp)

/-- Equality of options is decidable. -/
def decEqOptions : (as bs : List TypeExpr) → Decidable (as = bs)
  | [], [] => isTrue rfl
  | a :: as, b :: bs =>
    match decEq a b, decEqOptions as bs with
    | isTrue h₁, isTrue h₂ => isTrue (by rw [h₁, h₂])
    | isFalse h, _ => isFalse (by simp [h])
    | _, isFalse h => isFalse (by simp [h])
  | [], _ :: _ | _ :: _, [] => isFalse (by simp)

end

instance : DecidableEq TypeExpr := decEq

mutual

/-- The number of nodes of an expression. -/
def size : TypeExpr → Nat
  | .primitive _ | .ref _ => 1
  | .array item => 1 + size item
  | .union options => 1 + sizeOptions options

/-- One more than the nodes of each option. -/
def sizeOptions : List TypeExpr → Nat
  | [] => 0
  | e :: rest => 1 + size e + sizeOptions rest

end

mutual

/-- The text of an expression. -/
def toText : TypeExpr → String
  | .primitive p => p.name
  | .ref name => name
  | .array item => "Array of " ++ toText item
  | .union options => " or ".intercalate (optionTexts options)

/-- The texts of options. -/
def optionTexts : List TypeExpr → List String
  | [] => []
  | e :: rest => toText e :: optionTexts rest

end

mutual

/-- The named types that an expression mentions, in order. -/
def refs : TypeExpr → List String
  | .primitive _ => []
  | .ref name => [name]
  | .array item => refs item
  | .union options => optionRefs options

/-- The named types that options mention. -/
def optionRefs : List TypeExpr → List String
  | [] => []
  | e :: rest => refs e ++ optionRefs rest

end

mutual

/-- Whether an expression itself mentions the file type, under arrays and unions only. -/
def mentionsFile : TypeExpr → Bool
  | .primitive p => p = .inputFile
  | .ref _ => false
  | .array item => mentionsFile item
  | .union options => optionsMentionFile options

/-- Whether one of the options mentions the file type. -/
def optionsMentionFile : List TypeExpr → Bool
  | [] => false
  | e :: rest => mentionsFile e || optionsMentionFile rest

end

/-- The options of a union; any other expression is its own only option. -/
def alternatives : TypeExpr → List TypeExpr
  | .union options => options
  | e => [e]

/-- The expression with these alternatives. -/
def anyOf : List TypeExpr → TypeExpr
  | [e] => e
  | options => .union options

end TypeExpr

end BotApi
