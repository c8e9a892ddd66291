import BotApi.Number.Binary64
import BotApi.PosixPath

/-!
# Values

The values that callers hand to a call and that responses decode to. They are the values of JSON, and
beyond them octets, files and streams to upload, tuples, decoded records, and the mark of a field that was
not sent.

`Value.size` counts the values inside a value; every recursion over values and type expressions together
goes down in it first.
-/

namespace BotApi

/-- A key of a mapping. JSON has text keys only; a mapping of the caller may have others. -/
inductive Key
  | text (s : String)
  | int (n : Int)
  | bool (b : Bool)
  | float (x : Number.Binary64)
  | null
  | absent
  | bytes (content : List UInt8)
  deriving DecidableEq

/-- The name of what can be read: none worth mentioning, a text, octets, or something that cannot name a file. -/
inductive StreamName
  | unnamed
  | text (s : String)
  | octets (content : List UInt8)
  | other
  deriving DecidableEq

/-- An open binary file: what reading it gives, and its name. -/
structure Stream where
  content : List UInt8
  name : StreamName
  deriving DecidableEq

/-- Where the content of an upload comes from. Of a record only the type is kept: reading it gives no octets. -/
inductive FileSource
  | octets (content : List UInt8)
  | path (p : PosixPath)
  | stream (s : Stream)
  | record (type : String)
  deriving DecidableEq

/-- The name of a file, which is a text unless the source goes by octets. -/
inductive FileName
  | text (s : String)
  | octets (content : List UInt8)
  deriving DecidableEq

instance : Coe String FileName := ⟨.text⟩

/-- Whether there is nothing in a name. -/
def FileName.isEmpty : FileName → Bool
  | .text s => s = ""
  | .octets content => content.isEmpty

/-- A file to upload under a name. -/
structure InputFile where
  source : FileSource
  filename : FileName
  deriving DecidableEq

/-- A field by its two names, the attribute of a record and the key in JSON, and whether it is required. -/
structure FieldName where
  name : String
  wireName : String
  required : Bool
  deriving DecidableEq

/-- A value. A foreign one is a part of the language of the records, of which only its kind and its literal are
known. -/
inductive Value
  | null
  | absent
  | bool (b : Bool)
  | int (n : Int)
  | float (x : Number.Binary64)
  | text (s : String)
  | bytes (content : List UInt8)
  | bytearray (content : List UInt8)
  | file (f : InputFile)
  | stream (s : Stream)
  | list (items : List Value)
  | tuple (items : List Value)
  | object (entries : List (Key × Value))
  | record (type : String) (fields : List (FieldName × Value))
  | foreign (kind literal : String)

/-- The kind of a value, as messages name it. -/
inductive Kind
  | null | absent | bool | int | float | text | bytes | bytearray | file | stream | list | tuple | object
  | record (type : String)
  | foreign (name : String)
  deriving DecidableEq

/-- The name of a kind. The kind of a record is its type. -/
def Kind.name : Kind → String
  | .null => "NoneType"
  | .absent => "Absent"
  | .bool => "bool"
  | .int => "int"
  | .float => "float"
  | .text => "str"
  | .bytes => "bytes"
  | .bytearray => "bytearray"
  | .file => "InputFile"
  | .stream => "Stream"
  | .list => "list"
  | .tuple => "tuple"
  | .object => "dict"
  | .record type => type
  | .foreign name => name

/-- The name of a kind in a message about a response, which speaks of null as JSON does. -/
def Kind.wireName : Kind → String
  | .null => "null"
  | k => k.name

/-- The value that a key is. -/
def Key.toValue : Key → Value
  | .text s => .text s
  | .int n => .int n
  | .bool b => .bool b
  | .float x => .float x
  | .null => .null
  | .absent => .absent
  | .bytes content => .bytes content

namespace Value

/-- The kind of a value. -/
def kind : Value → Kind
  | .null => .null
  | .absent => .absent
  | .bool _ => .bool
  | .int _ => .int
  | .float _ => .float
  | .text _ => .text
  | .bytes _ => .bytes
  | .bytearray _ => .bytearray
  | .file _ => .file
  | .stream _ => .stream
  | .list _ => .list
  | .tuple _ => .tuple
  | .object _ => .object
  | .record type _ => .record type
  | .foreign kind _ => .foreign kind

/-- Whether the value says nothing: nothing sent, null, false, zero, or empty. -/
def isVoid : Value → Bool
  | .null | .absent => true
  | .bool b => !b
  | .int n => n = 0
  | .float x => !x.isNonzero
  | .text s => s = ""
  | .bytes content | .bytearray content => content.isEmpty
  | .list items | .tuple items => items.isEmpty
  | .object entries => entries.isEmpty
  | .record _ _ | .file _ | .stream _ | .foreign _ _ => false

mutual

/-- The number of values in a value, itself included. -/
def size : Value → Nat
  | .list items | .tuple items => 1 + sizeItems items
  | .object entries => 1 + sizeEntries entries
  | .record _ fields => 1 + sizeFields fields
  | .null | .absent | .bool _ | .int _ | .float _ | .text _ | .bytes _ | .bytearray _ | .file _
  | .stream _ | .foreign _ _ => 1

/-- One more than the values in each item. -/
def sizeItems : List Value → Nat
  | [] => 0
  | v :: rest => 1 + size v + sizeItems rest

/-- One more than the values in each entry. -/
def sizeEntries : List (Key × Value) → Nat
  | [] => 0
  | (_, v) :: rest => 1 + size v + sizeEntries rest

/-- One more than the values in each field. -/
def sizeFields : List (FieldName × Value) → Nat
  | [] => 0
  | (_, v) :: rest => 1 + size v + sizeFields rest

end

/-- The value under a key is smaller than the entries. -/
theorem size_lt_of_lookup {k : Key} {v : Value} {entries : List (Key × Value)}
    (h : entries.lookup k = some v) : v.size < sizeEntries entries := by
  induction entries with
  | nil => simp at h
  | cons e rest ih =>
    obtain ⟨k', w⟩ := e
    rw [sizeEntries]
    by_cases hk : k = k'
    · simp only [hk, List.lookup_cons_self, Option.some.injEq] at h
      subst h
      omega
    · rw [List.lookup_cons, beq_eq_false_iff_ne.2 hk] at h
      have := ih h
      omega

/-- The value under a text key of a mapping. -/
def get? (entries : List (Key × Value)) (name : String) : Option Value :=
  entries.lookup (.text name)

end Value

end BotApi
