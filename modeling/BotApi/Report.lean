/-!
# Reports on documents

A reader of a document reports everything that is wrong with it, each issue with its place. Readers of parts
combine so that the issues of all parts are kept, in the order of the parts.
-/

namespace BotApi

/-- A step from a document to a part of it. -/
inductive Locator
  | key (name : String)
  | index (i : Nat)
  deriving DecidableEq

/-- What a document is a description of. -/
inductive Model
  | schema | type | method | field
  deriving DecidableEq

/-- The name of a model in a report. -/
def Model.name : Model → String
  | .schema => "SchemaModel"
  | .type => "TypeDefinition"
  | .method => "MethodDefinition"
  | .field => "FieldModel"

/-- What is wrong with a part of a document. -/
inductive Complaint
  | missing
  | notText
  | notUnicode
  | notList
  | notMapping
  | notModel (model : Model)
  | notBool
  | unreadableBool
  | notInt
  | unreadableInt
  | oversizedInt
  | fractionalInt
  | notFinite
  | below (least : Nat)
  | shorter (least : Nat)
  | notPath
  | rejected (reason : String)
  deriving DecidableEq

namespace Complaint

/-- The name of the kind of a complaint. -/
def kind : Complaint → String
  | .missing => "missing"
  | .notText => "string_type"
  | .notUnicode => "string_unicode"
  | .notList => "list_type"
  | .notMapping => "dict_type"
  | .notModel _ => "model_type"
  | .notBool => "bool_type"
  | .unreadableBool => "bool_parsing"
  | .notInt => "int_type"
  | .unreadableInt => "int_parsing"
  | .oversizedInt => "int_parsing_size"
  | .fractionalInt => "int_from_float"
  | .notFinite => "finite_number"
  | .below _ => "greater_than_equal"
  | .shorter _ => "string_too_short"
  | .notPath => "path_type"
  | .rejected _ => "value_error"

/-- The wording of a complaint. -/
def message : Complaint → String
  | .missing => "Field required"
  | .notText => "Input should be a valid string"
  | .notUnicode => "Input should be a valid string, unable to parse raw data as a unicode string"
  | .notList => "Input should be a valid list"
  | .notMapping => "Input should be a valid dictionary"
  | .notModel model => "Input should be a valid dictionary or instance of " ++ model.name
  | .notBool => "Input should be a valid boolean"
  | .unreadableBool => "Input should be a valid boolean, unable to interpret input"
  | .notInt => "Input should be a valid integer"
  | .unreadableInt => "Input should be a valid integer, unable to parse string as an integer"
  | .oversizedInt => "Unable to parse input string as an integer, exceeded maximum size"
  | .fractionalInt => "Input should be a valid integer, got a number with a fractional part"
  | .notFinite => "Input should be a finite number"
  | .below least => "Input should be greater than or equal to " ++ toString least
  | .shorter least =>
    "String should have at least " ++ toString least ++ (if least = 1 then " character" else " characters")
  | .notPath => "Input is not a valid path for <class 'pathlib.Path'>"
  | .rejected reason => "Value error, " ++ reason

end Complaint

/-- A complaint and its place. -/
structure Issue where
  place : List Locator
  complaint : Complaint
  deriving DecidableEq

/-- What reading a part of a document gives: a value, or the issues found in the part. -/
inductive Checked (α : Type)
  | valid (a : α)
  | invalid (issues : List Issue)

namespace Checked

variable {α β : Type}

/-- A complaint about the part itself. -/
def complain (c : Complaint) : Checked α := .invalid [⟨[], c⟩]

/-- A part that needs a value of another one. -/
def andThen (x : Checked α) (f : α → Checked β) : Checked β :=
  match x with
  | .valid a => f a
  | .invalid issues => .invalid issues

/-- Two parts: if one is invalid, the issues of both. -/
def ap (f : Checked (α → β)) (x : Checked α) : Checked β :=
  match f, x with
  | .valid g, .valid a => .valid (g a)
  | .valid _, .invalid issues => .invalid issues
  | .invalid issues, .valid _ => .invalid issues
  | .invalid issues, .invalid more => .invalid (issues ++ more)

instance : Applicative Checked where
  pure := .valid
  seq f x := ap f (x ())

/-- The part stands at a step from the whole. -/
def within (step : Locator) : Checked α → Checked α
  | .valid a => .valid a
  | .invalid issues => .invalid (issues.map fun i => { i with place := step :: i.place })

/-- All parts of a list. -/
def all : List (Checked α) → Checked (List α)
  | [] => .valid []
  | x :: rest => List.cons <$> x <*> all rest

end Checked

end BotApi
