import BotApi.Text.Utf8
import BotApi.Value.Basic

/-!
# Special attributes

Records are values of classes, and what can be asked of one is up to special attributes of its class.
A field that may be left out and has the name of such an attribute takes its place, and whatever rests on the
attribute fails.
-/

namespace BotApi

/-- What can be asked of a record. -/
inductive Ability
  | access | truth | literal | text | format | equality | hash | attributes | waiting | path | typeName | wireNames
  deriving DecidableEq

/-- The special attribute by which all others are found. -/
def accessor : String := "__getattribute__"

/-- The special attributes that an ability rests on. -/
def Ability.special : Ability → List String
  | .access => [accessor]
  | .truth => ["__bool__", "__len__"]
  | .literal => ["__repr__", accessor]
  | .text => ["__str__"]
  | .format => ["__format__"]
  | .equality => ["__eq__", accessor]
  | .hash => ["__hash__", accessor]
  | .attributes => ["__getattr__", accessor]
  | .waiting => ["__await__"]
  | .path => ["__fspath__"]
  | .typeName => ["__binding__"]
  | .wireNames => ["__wire_names__"]

/-- Why something cannot be asked of a value. -/
inductive Obstruction
  /-- A field has taken the place of a special attribute. -/
  | lost (a : Ability)
  /-- What stands in for the class of a record is no class. -/
  | notClass
  /-- What stands in for the table of the fields of a record goes through no names. -/
  | notNames
  /-- A value has no attribute of that name. -/
  | noAttribute (kind : Kind) (name : String)
  deriving DecidableEq

/-- The name of a kind as far as a message shows it. -/
def Kind.shown (limit : Nat) (k : Kind) : String := String.ofList (Text.Utf8.cut limit k.name.toList)

/-- The wording of an obstruction. -/
def Obstruction.message : Obstruction → String
  | .lost _ => "'Absent' object is not callable"
  | .notClass => "issubclass() arg 1 must be a class"
  | .notNames => "no names of fields"
  | .noAttribute kind name => "'" ++ kind.shown 50 ++ "' object has no attribute '" ++ name ++ "'"

namespace Value

/-- The value of a field, by its attribute. -/
def field? (name : String) (fields : List (FieldName × Value)) : Option Value :=
  (fields.find? fun e => e.1.name = name).map Prod.snd

/-- Whether a record with these fields lacks an ability. -/
def lacks (a : Ability) (fields : List (FieldName × Value)) : Bool :=
  fields.any fun e => !e.1.required && a.special.contains e.1.name

/-- Fails if a record with these fields lacks the ability. -/
def need (a : Ability) (fields : List (FieldName × Value)) : Except Obstruction Unit :=
  if lacks a fields then .error (.lost a) else .ok ()

/-- What stands in for the table of the fields of a record, if a field does. -/
def table? (fields : List (FieldName × Value)) : Option Value := field? "__dataclass_fields__" fields

/-- What stands in for the class of a record with these fields, if a field does. -/
def standIn? (fields : List (FieldName × Value)) : Option Value := field? "__class__" fields

/-- What keeps a value from being asked for its class, if it is of another one than asked for. -/
def accessObstruction? : Value → Option Obstruction
  | .record _ fields => if lacks .access fields then some (.lost .access) else none
  | _ => none

/-- What keeps a value from being asked whether it is a mapping. -/
def classObstruction? : Value → Option Obstruction
  | .record _ fields =>
    if lacks .access fields then some (.lost .access)
    else match standIn? fields with
      | none | some (.foreign _ _) => none
      | some _ => some .notClass
  | _ => none

/-- What keeps a value from being asked for attributes that it may not have. -/
def attributeObstruction? : Value → Option Obstruction
  | .record _ fields => if lacks .attributes fields then some (.lost .attributes) else none
  | _ => none

/-- What comes of asking a value for an attribute that it does not have. -/
def noAttribute (v : Value) (name : String) : Obstruction :=
  v.attributeObstruction?.getD (.noAttribute v.kind name)

/-- Whether the value says nothing, which some records cannot be asked. -/
def isVoid? : Value → Except Obstruction Bool
  | .record _ fields => (fun _ => false) <$> need .truth fields
  | v => .ok v.isVoid

mutual

/-- Whether the value can be a key, which nothing that can change is. -/
def isHashable : Value → Bool
  | .list _ | .object _ | .bytearray _ => false
  | .tuple items => itemsHashable items
  | .record _ fields => !lacks .hash fields && fieldsHashable fields
  | _ => true

/-- Whether all items can be keys. -/
def itemsHashable : List Value → Bool
  | [] => true
  | v :: rest => isHashable v && itemsHashable rest

/-- Whether the values of all fields can be keys. -/
def fieldsHashable : List (FieldName × Value) → Bool
  | [] => true
  | (_, v) :: rest => isHashable v && fieldsHashable rest

end

end Value

end BotApi
