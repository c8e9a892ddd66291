import BotApi.Value.Mapping
import BotApi.Value.Special

/-!
# Equality of values

Numbers and truth values are equal if they are the same number, octets if they are the same octets, and
mappings in whatever order of their entries. Lists differ from tuples, records from mappings, and a file or
a stream from every other one. Records are equal if their classes are the very same and their fields are
equal; some records cannot be compared, and then the comparison fails where it reaches them.

What is not a number differs from itself, but inside a container the very same item is equal to itself before
anything is compared. `shared` says that one of the two values was made from the parts of the other, so that
parts that look the same are the same.
-/

namespace BotApi.Value

/-- The number that a truth value or a number stands for. -/
def number? : Value → Option (Int ⊕ Number.Binary64)
  | .bool b => some (.inl (if b then 1 else 0))
  | .int n => some (.inl n)
  | .float x => some (.inr x)
  | _ => none

/-- Whether two numbers are the same. -/
def sameNumber : Int ⊕ Number.Binary64 → Int ⊕ Number.Binary64 → Bool
  | .inl m, .inl n => m = n
  | .inl m, .inr y => y.equalInt m
  | .inr x, .inl n => x.equalInt n
  | .inr x, .inr y => x.equal y

/-- The octets of a sequence, changeable or not. -/
def octets? : Value → Option (List UInt8)
  | .bytes content | .bytearray content => some content
  | _ => none

/-- Whether a text is one of those that exist once only. -/
def isLoneText (s : String) : Bool :=
  match s.toList with
  | [] => true
  | [c] => c.toNat < 0x100
  | _ => false

/-- Whether two values are the very same thing. Small values exist once only. -/
def identical (shared : Bool) : Value → Value → Bool
  | .null, .null | .absent, .absent | .tuple [], .tuple [] => true
  | .bool a, .bool b => a = b
  | .int m, .int n => m = n && (shared || (-5 ≤ m && m ≤ 256))
  | .float x, .float y => x = y && shared
  | .text s, .text t => s = t && (shared || isLoneText s)
  | .bytes a, .bytes b => a = b && (shared || a.length ≤ 1)
  | .foreign _ shown, .foreign _ other => shown = other
  | _, _ => false

/-- Whether the classes of two records are the very same, or what stands in for them is. -/
def sameClass (shared : Bool) (type : String) (fields : List (FieldName × Value)) (other : String)
    (others : List (FieldName × Value)) : Bool :=
  match standIn? fields, standIn? others with
  | none, none => type = other
  | some v, some w => identical shared v w
  | _, _ => false

/-- The attribute that a record with the other fields does not have. -/
def missing? (fields others : List (FieldName × Value)) : Option String :=
  ((fields.map fun e => e.1.name).find? fun name => (field? name others).isNone)

mutual

/-- Whether two values are equal. -/
def equal (shared : Bool) (v w : Value) : Except Obstruction Bool :=
  match v, w with
  | .null, .null | .absent, .absent => .ok true
  | .text s, .text t => .ok (s = t)
  | .foreign _ shown, .foreign _ other => .ok (shown = other)
  | .list items, .list others =>
    if items.length = others.length then equalItems shared items others else .ok false
  | .tuple items, .tuple others => equalItems shared items others
  | .object entries, .object others =>
    if entries.length = others.length then equalEntries shared entries others else .ok false
  | .record type fields, .record other others => do
    need .equality fields
    if sameClass shared type fields other others then
      -- records of one class may still differ in their fields, if something stands in for the class
      match missing? fields others with
      | some name => throw (noAttribute (.record other others) name)
      | none => equalFields shared fields others
    else
      need .equality others
      pure false
  | .record _ fields, _ | _, .record _ fields => (fun _ => false) <$> need .equality fields
  | v, w =>
    match v.number?, w.number? with
    | some x, some y => .ok (sameNumber x y)
    | _, _ =>
      match v.octets?, w.octets? with
      | some a, some b => .ok (a = b)
      | _, _ => .ok false

/-- Item by item, up to the first that differs. -/
def equalItems (shared : Bool) : List Value → List Value → Except Obstruction Bool
  | [], [] => .ok true
  | v :: rest, w :: others => do
    let same ← if identical shared v w then pure true else equal shared v w
    if same then equalItems shared rest others else pure false
  | _, _ => .ok false

/-- Each entry against the one under the same key, up to the first that differs. -/
def equalEntries (shared : Bool) : List (Key × Value) → List (Key × Value) → Except Obstruction Bool
  | [], _ => .ok true
  | (k, v) :: rest, others => do
    match others.find? fun e => e.1.common = k.common with
    | none => pure false
    | some (_, w) =>
      let same ← if identical shared v w then pure true else equal shared v w
      if same then equalEntries shared rest others else pure false

/-- Each field against the one of the same attribute, up to the first that differs. -/
def equalFields (shared : Bool) :
    List (FieldName × Value) → List (FieldName × Value) → Except Obstruction Bool
  | [], _ => .ok true
  | (f, v) :: rest, others => do
    match field? f.name others with
    | none => pure false
    | some w =>
      let same ← if identical shared v w then pure true else equal shared v w
      if same then equalFields shared rest others else pure false

end

/-- Whether two values that share no parts are equal. -/
def equals (v w : Value) : Except Obstruction Bool := equal false v w

/-- Whether two values are equal, of which one was made from the parts of the other. -/
def equalsShared (v w : Value) : Except Obstruction Bool :=
  if identical true v w then .ok true else equal true v w

end BotApi.Value
