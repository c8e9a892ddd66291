import BotApi.Value.Special

/-!
# Mappings of values

A mapping can be made from what is none: from the pairs of a sequence, one after another. Keys are compared
as values, so that a truth value is the same key as its number, and a number with a fraction of zero the same
as the whole number.
-/

namespace BotApi

/-- The key that stands for all keys equal to it. -/
def Key.common : Key → Key
  | .bool b => .int (if b then 1 else 0)
  | .float x =>
    match x.toInt? with
    | some n => .int n
    | none => .float x
  | k => k

namespace Value

/-- The value as a key, if it is a scalar. -/
def toKey? : Value → Option Key
  | .text s => some (.text s)
  | .int n => some (.int n)
  | .bool b => some (.bool b)
  | .float x => some (.float x)
  | .null => some .null
  | .absent => some .absent
  | .bytes content => some (.bytes content)
  | _ => none

/-- The values that a value goes through one by one. A mapping goes through its keys. -/
def members? : Value → Option (List Value)
  | .list items | .tuple items => some items
  | .object entries => some (entries.map fun e => e.1.toValue)
  | .text s => some (s.toList.map fun c => .text (String.singleton c))
  | .bytes content | .bytearray content => some (content.map fun b => .int b.toNat)
  | _ => none

/-- The entries with a value put under a key. A key that is there already stays as it is. -/
def putKey (k : Key) (v : Value) : List (Key × Value) → List (Key × Value)
  | [] => [(k, v)]
  | (l, w) :: rest => if l.common = k.common then (l, v) :: rest else (l, w) :: putKey k v rest

/-- Why a value makes no mapping: it has no members, or one of them is no pair, or no pair with a key. -/
inductive MappingFault
  | notPairs
  | notKey
  | length (index count : Nat)
  deriving DecidableEq

/-- The wording of a fault. -/
def MappingFault.message : MappingFault → String
  | .notPairs => "no sequence of pairs"
  | .notKey => "no key"
  | .length index count =>
    "dictionary update sequence element #" ++ toString index ++ " has length " ++ toString count ++
      "; 2 is required"

/-- The key and the value of a pair, which is the member of that index. -/
def pair (index : Nat) (v : Value) : Except MappingFault (Value × Value) :=
  match v.members? with
  | none => .error .notPairs
  | some [k, w] => if k.isHashable then .ok (k, w) else .error .notKey
  | some items => .error (.length index items.length)

/-- The pairs among members, the first of which has the given index. -/
def pairs (index : Nat) : List Value → Except MappingFault (List (Value × Value))
  | [] => .ok []
  | v :: rest => do
    let first ← pair index v
    let more ← pairs (index + 1) rest
    pure (first :: more)

/-- The pairs of a mapping that a value is or makes. What says nothing has none. -/
def mappingPairs : Value → Except MappingFault (List (Value × Value))
  | .object entries => .ok (entries.map fun e => (e.1.toValue, e.2))
  | v =>
    if v.isVoid then .ok []
    else match v.members? with
      | some items => pairs 0 items
      | none => .error .notPairs

/-- The entries of pairs, one put after another. There are none under a key that is no scalar. -/
def entriesOfPairs? (given : List (Value × Value)) : Option (List (Key × Value)) :=
  given.foldlM (fun done e => e.1.toKey?.map fun k => putKey k e.2 done) []

/-- The entries of a mapping that a value is or makes, all under scalars. -/
def mapping : Value → Except MappingFault (List (Key × Value))
  | .object entries => .ok entries
  | v => do
    match entriesOfPairs? (← mappingPairs v) with
    | some entries => pure entries
    | none => throw .notKey

/-- The fields that a record lists by name: all of them, or those that the members of what stands in for the
table of fields name. -/
def listed (type : String) (fields : List (FieldName × Value)) : Except Obstruction (List (String × Value)) := do
  need .access fields
  match table? fields with
  | none => .ok (fields.map fun e => (e.1.name, e.2))
  | some v =>
    match v.members? with
    | none => .error .notNames
    | some names => names.mapM fun
      | .text name =>
        match field? name fields with
        | some w => .ok (name, w)
        | none => .error (noAttribute (.record type fields) name)
      | _ => .error .notNames

end Value

end BotApi
