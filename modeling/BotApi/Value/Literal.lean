import BotApi.Number.Integer
import BotApi.Number.Shortest
import BotApi.Text.Quoted
import BotApi.Value.Special

/-!
# Values in messages

A message shows a text as it is and every other value as a literal: containers in brackets of their kind,
texts inside them quoted. A whole number with too many digits has no literal, and some records have none.
-/

namespace BotApi

/-- The literal of a key. -/
def Key.literal : Key → String
  | .text s => Text.quoted s
  | .int n => toString n
  | .bool b => if b then "True" else "False"
  | .float x => Number.plainLayout.text x
  | .null => "None"
  | .absent => "ABSENT"
  | .bytes content => Text.quotedOctets content

/-- The text of a key in a path. -/
def Key.toText : Key → String
  | .text s => s
  | k => k.literal

/-- The literal of the name of a file. -/
def FileName.literal : FileName → String
  | .text s => Text.quoted s
  | .octets content => Text.quotedOctets content

/-- The text of the name of a file. -/
def FileName.toText : FileName → String
  | .text s => s
  | name => name.literal

instance : Coe FileName String := ⟨FileName.toText⟩

/-- Why a value cannot be shown. -/
inductive Unwritable
  | tooManyDigits (e : Number.TooManyDigits)
  | obstructed (o : Obstruction)
  deriving DecidableEq

namespace Value

/-- The literal of a whole number. -/
def intLiteral (n : Int) : Except Unwritable String := (Number.intText n).mapError .tooManyDigits

/-- The literal of a key inside a value. -/
def keyLiteral : Key → Except Unwritable String
  | .int n => intLiteral n
  | k => .ok k.literal

/-- The text of a key inside a path: a text as it is, and the literal of any other key. -/
def keyText : Key → Except Unwritable String
  | .text s => .ok s
  | k => keyLiteral k

/-- The literal of a file shows its name. -/
def fileLiteral (f : InputFile) : String := "InputFile(filename=" ++ f.filename.literal ++ ")"

/-- The name that a record goes by in its literal: that of its type, or of what stands in for its class. -/
def classLabel (type : String) (fields : List (FieldName × Value)) : Except Obstruction String :=
  match standIn? fields with
  | none => .ok type
  | some (.foreign kind _) => .ok kind
  | some v => .error (noAttribute v "__qualname__")

mutual

/-- The literal of a value. -/
def literal : Value → Except Unwritable String
  | .null => .ok "None"
  | .absent => .ok "ABSENT"
  | .bool b => .ok (if b then "True" else "False")
  | .int n => intLiteral n
  | .float x => .ok (Number.plainLayout.text x)
  | .text s => .ok (Text.quoted s)
  | .bytes content => .ok (Text.quotedOctets content)
  | .bytearray content => .ok ("bytearray(" ++ Text.quotedOctets content ++ ")")
  | .file f => .ok (fileLiteral f)
  | .stream _ => .ok "<Stream object>"
  | .foreign _ shown => .ok shown
  | .list items => do
    let parts ← literalItems items
    pure ("[" ++ ", ".intercalate parts ++ "]")
  | .tuple items => do
    let parts ← literalItems items
    let close := if parts.length = 1 then ",)" else ")"
    pure ("(" ++ ", ".intercalate parts ++ close)
  | .object entries => do
    let parts ← literalEntries entries
    pure ("\x7b" ++ ", ".intercalate parts ++ "\x7d")
  | .record type fields => do
    (need .literal fields).mapError .obstructed
    let label ← (classLabel type fields).mapError .obstructed
    let parts ← literalFields fields
    pure (label ++ "(" ++ ", ".intercalate parts ++ ")")

/-- The literals of items. -/
def literalItems : List Value → Except Unwritable (List String)
  | [] => .ok []
  | v :: rest => do
    let part ← literal v
    let parts ← literalItems rest
    pure (part :: parts)

/-- The literals of entries, key and value. -/
def literalEntries : List (Key × Value) → Except Unwritable (List String)
  | [] => .ok []
  | (k, v) :: rest => do
    let key ← keyLiteral k
    let part ← literal v
    let parts ← literalEntries rest
    pure ((key ++ ": " ++ part) :: parts)

/-- The literals of fields, attribute and value. -/
def literalFields : List (FieldName × Value) → Except Unwritable (List String)
  | [] => .ok []
  | (f, v) :: rest => do
    let part ← literal v
    let parts ← literalFields rest
    pure ((f.name ++ "=" ++ part) :: parts)

end

/-- The text of a value: a text as it is, and the literal of any other value. -/
def plainText : Value → Except Unwritable String
  | .text s => .ok s
  | .record type fields => do
    (need .text fields).mapError .obstructed
    literal (.record type fields)
  | v => v.literal

/-- The text of a value as a part of a message. -/
def messageText : Value → Except Unwritable String
  | .record type fields => do
    (need .format fields).mapError .obstructed
    plainText (.record type fields)
  | v => v.plainText

end Value

end BotApi
