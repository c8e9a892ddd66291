import BotApi.Json.Reader
import BotApi.Report
import BotApi.Schema.Basic
import BotApi.Text.Lines
import BotApi.Text.Quoted
import BotApi.Value.Literal

/-!
# Reading schemas

A schema is read from a JSON document. Nothing is converted, with one exception: whether a field is required
may also be said by a number or by a word. Keys that mean nothing are passed over. Once every part is valid,
each definition has to stand under its own name.
-/

namespace BotApi.Schema

/-- A text. -/
def readText : Value → Checked String
  | .text s => .valid s
  | _ => .complain .notText

/-- A text or null. -/
def readOptionalText : Value → Checked (Option String)
  | .null => .valid none
  | v => some <$> readText v

/-- The words for a truth value. -/
def truthWords : List (String × Bool) :=
  [("1", true), ("true", true), ("t", true), ("yes", true), ("y", true), ("on", true),
    ("0", false), ("false", false), ("f", false), ("no", false), ("n", false), ("off", false)]

/-- The truth value of a small number, if it has one. -/
def boolOfInt (n : Int) : Checked Bool :=
  if n = 0 then .valid false else if n = 1 then .valid true else .complain .unreadableBool

/-- A truth value, or a number or a word for one. A number that does not fit into 64 bits is not even looked
at, and neither is one with a fraction. -/
def readBool : Value → Checked Bool
  | .bool b => .valid b
  | .int n =>
    if -(Nat.pow 2 63 : Int) ≤ n && n < Nat.pow 2 63 then boolOfInt n else .complain .notBool
  | .float x =>
    match x.toInt?.filter fun n => n.natAbs < Nat.pow 2 63 with
    | some n => boolOfInt n
    | none => .complain .notBool
  | .text s =>
    match truthWords.lookup (String.ofList (s.toList.map Char.toLower)) with
    | some b => .valid b
    | none => .complain .unreadableBool
  | _ => .complain .notBool

/-- A list whose items a reader takes one by one. -/
def readList {α : Type} (item : Value → Checked α) : Value → Checked (List α)
  | .list items => Checked.all (items.mapIdx fun i v => (item v).within (.index i))
  | _ => .complain .notList

/-- A member that has to be there. -/
def required {α : Type} (read : Value → Checked α) (name : String) (entries : List (Key × Value)) :
    Checked α :=
  match Value.get? entries name with
  | some v => (read v).within (.key name)
  | none => (Checked.complain .missing).within (.key name)

/-- A member that has a default. -/
def optional {α : Type} (read : Value → Checked α) (name : String) (default : α)
    (entries : List (Key × Value)) : Checked α :=
  match Value.get? entries name with
  | some v => (read v).within (.key name)
  | none => .valid default

/-- A mapping that a model describes. -/
def readModel {α : Type} (model : Model) (read : List (Key × Value) → Checked α) : Value → Checked α
  | .object entries => read entries
  | _ => .complain (.notModel model)

/-- A mapping from names to what a reader takes. -/
def readTable {α : Type} (read : Value → Checked α) : Value → Checked (Table α)
  | .object entries =>
    Table.ofList <$> Checked.all (entries.map fun (k, v) =>
      (fun a => (k.toText, a)) <$> (read v).within (.key k.toText))
  | _ => .complain .notMapping

/-- A field. -/
def readField : Value → Checked FieldSpec :=
  readModel .field fun entries =>
    FieldSpec.mk <$> required readText "name" entries
      <*> required (readList readText) "types" entries
      <*> required readBool "required" entries
      <*> optional readText "description" "" entries

/-- A type and the name it gives itself. -/
def readType : Value → Checked (String × TypeSpec) :=
  readModel .type fun entries =>
    (fun name href description fields subtypes subtypeOf =>
        (name, { href, description, fields, subtypes, subtypeOf }))
      <$> required readText "name" entries
      <*> optional readText "href" "" entries
      <*> optional (readList readText) "description" [] entries
      <*> optional (readList readField) "fields" [] entries
      <*> optional (readList readText) "subtypes" [] entries
      <*> optional (readList readText) "subtype_of" [] entries

/-- A method and the name it gives itself. -/
def readMethod : Value → Checked (String × MethodSpec) :=
  readModel .method fun entries =>
    (fun name href description fields returns => (name, { href, description, fields, returns }))
      <$> required readText "name" entries
      <*> optional readText "href" "" entries
      <*> optional (readList readText) "description" [] entries
      <*> optional (readList readField) "fields" [] entries
      <*> required (readList readText) "returns" entries

/-- The first definition that does not stand under its own name. -/
def misnamed? {α : Type} (table : Table (String × α)) : Option String :=
  table.entries.findSome? fun (key, name, _) =>
    if key = name then none
    else some ("key " ++ Text.quoted key ++ " holds definition named " ++ Text.quoted name)

/-- The schema of a document. -/
def ofValue : Value → Checked Schema :=
  readModel .schema fun entries =>
    let parts :=
      (fun version releaseDate changelog methods types =>
          (version, releaseDate, changelog, methods, types))
        <$> optional readOptionalText "version" none entries
        <*> optional readOptionalText "release_date" none entries
        <*> optional readOptionalText "changelog" none entries
        <*> optional (readTable readMethod) "methods" Table.empty entries
        <*> required (readTable readType) "types" entries
    parts.andThen fun (version, releaseDate, changelog, methods, types) =>
      match misnamed? types <|> misnamed? methods with
      | some reason => .complain (.rejected reason)
      | none =>
        .valid
          { version, releaseDate, changelog
            methods := methods.map fun _ d => d.2
            types := types.map fun _ d => d.2 }

/-- Why a text is no schema. -/
inductive LoadError
  | json (e : Json.ReadError)
  | invalid (issues : List Issue)

/-- The schema of a text file. -/
def ofText (text : String) : Except LoadError Schema := do
  let document ← (Json.read (Text.unifyNewlines text.toList)).mapError .json
  match ofValue document with
  | .valid schema => pure schema
  | .invalid issues => throw (.invalid issues)

end BotApi.Schema
