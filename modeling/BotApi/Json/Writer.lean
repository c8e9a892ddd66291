import BotApi.Number.Integer
import BotApi.Number.Shortest
import BotApi.Text.Quoted
import BotApi.Value.Basic

/-!
# Writing JSON

Values are written without white space, mappings in their order, and characters as themselves wherever JSON
allows it.
-/

namespace BotApi.Json

/-- Why a value has no JSON text. -/
inductive WriteFault
  | tooManyDigits
  | notJson
  deriving DecidableEq

/-- The escape of a character inside a JSON text. -/
def escapeChar (c : Char) : List Char :=
  if c = '"' || c = '\\' then ['\\', c]
  else if c = '\n' then ['\\', 'n']
  else if c = '\r' then ['\\', 'r']
  else if c = '\t' then ['\\', 't']
  else if c.toNat = 0x08 then ['\\', 'b']
  else if c.toNat = 0x0C then ['\\', 'f']
  else if c.toNat < 0x20 then '\\' :: 'u' :: Text.hex 4 c.toNat
  else [c]

/-- A text in double quotes. -/
def writeText (s : String) : List Char :=
  '"' :: s.toList.flatMap escapeChar ++ ['"']

/-- The decimal text of a whole number. -/
def writeInt (n : Int) : Except WriteFault (List Char) :=
  match Number.intText n with
  | .ok s => .ok s.toList
  | .error _ => .error .tooManyDigits

/-- A key in double quotes. Numbers, truth values and null become the texts that they are as values. -/
def writeKey : Key → Except WriteFault (List Char)
  | .text s => .ok (writeText s)
  | .int n => (fun digits => '"' :: digits ++ ['"']) <$> writeInt n
  | .bool b => .ok (writeText (if b then "true" else "false"))
  | .float x => .ok (writeText (Number.jsonLayout.text x))
  | .null => .ok (writeText "null")
  | .absent | .bytes _ => .error .notJson

mutual

/-- The JSON text of a value. -/
def write : Value → Except WriteFault (List Char)
  | .null => .ok "null".toList
  | .bool b => .ok (if b then "true".toList else "false".toList)
  | .int n => writeInt n
  | .float x => .ok (Number.jsonLayout.text x).toList
  | .text s => .ok (writeText s)
  | .list items | .tuple items => do
    let parts ← writeItems items
    pure ('[' :: [','].intercalate parts ++ [']'])
  | .object entries => do
    let parts ← writeEntries entries
    pure ('{' :: [','].intercalate parts ++ ['}'])
  | .absent | .bytes _ | .bytearray _ | .file _ | .stream _ | .record _ _ | .foreign _ _ => .error .notJson

/-- The JSON texts of items. -/
def writeItems : List Value → Except WriteFault (List (List Char))
  | [] => .ok []
  | v :: rest => do
    let part ← write v
    let parts ← writeItems rest
    pure (part :: parts)

/-- The JSON texts of entries. -/
def writeEntries : List (Key × Value) → Except WriteFault (List (List Char))
  | [] => .ok []
  | (k, v) :: rest => do
    let key ← writeKey k
    let part ← write v
    let parts ← writeEntries rest
    pure ((key ++ ':' :: part) :: parts)

end

end BotApi.Json
