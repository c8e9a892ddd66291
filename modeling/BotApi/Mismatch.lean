import BotApi.TypeExpr.Basic
import BotApi.Value.Literal

/-!
# Mismatches

A value that does not fit a type expression is refused with the place in the value, the type that was
expected there, and what was found instead. A mismatch sends a union on to its next option; a fault ends the
whole conversion.
-/

namespace BotApi

/-- A step from a value to a part of it. -/
inductive Step
  | index (i : Nat)
  | key (name : String)
  deriving DecidableEq

/-- The text of a step. -/
def Step.toText : Step → String
  | .index i => "[" ++ toString i ++ "]"
  | .key name => "." ++ name

/-- The text of the steps from a named root. -/
def trailText (root : String) (trail : List Step) : String :=
  root ++ String.join (trail.map Step.toText)

/-- What was found where another type was expected. -/
inductive Got
  | kind (k : Kind)
  /-- A record that lacks the name of its type. -/
  | unnamed
  | nothing
  | unknownKey
  deriving DecidableEq

/-- The wording of what was found, given the names of kinds. -/
def Got.toText (kindName : Kind → String) : Got → String
  | .kind k => kindName k
  | .unnamed => "ABSENT"
  | .nothing => "nothing"
  | .unknownKey => "unknown key"

/-- A value that does not fit. -/
structure Mismatch where
  trail : List Step
  expected : TypeExpr
  got : Got
  deriving DecidableEq

/-- What ends a conversion at once. Bindings of a schema name only types that they have, and the first two
arise for none whose abstract types are apart from their own variants. -/
inductive Fault
  /-- An abstract type leads back to itself through its variants. -/
  | endless (type : String)
  /-- A type expression names no type. -/
  | unknownType (name : String)
  /-- Something is to be a file that is called by no text and by no octets. -/
  | streamName
  /-- Keys that nobody asked for are to be reported in order and have none. -/
  | unorderedKeys
  /-- A field keeps records of the type from being made. -/
  | noRecord (type field : String)
  /-- A value cannot be asked for what the conversion needs of it. -/
  | obstructed (o : Obstruction)
  /-- A key that is to be shown in a path cannot be. -/
  | unwritable (u : Unwritable)
  deriving DecidableEq

/-- The wording of a fault, for one that has one. -/
def Fault.message? : Fault → Option String
  | .noRecord type "__weakref__" =>
    some ("attribute '__weakref__' of '" ++ (Kind.record type).shown 100 ++ "' objects is not writable")
  | .obstructed (.noAttribute kind name) => some (Obstruction.noAttribute kind name).message
  | _ => none

/-- Why a conversion stopped. -/
inductive Stop
  | mismatch (m : Mismatch)
  | fault (f : Fault)
  deriving DecidableEq

/-- The refusal of a value where it stands. -/
def Stop.refuse (expected : TypeExpr) (v : Value) : Stop :=
  .mismatch ⟨[], expected, .kind v.kind⟩

/-- What an argument was found to be. -/
def Got.ofArgument : Value → Got
  | .record type fields => if Value.lacks .typeName fields then .unnamed else .kind (.record type)
  | v => .kind v.kind

/-- The refusal of an argument where it stands. -/
def Stop.refuseArgument (expected : TypeExpr) (v : Value) : Stop :=
  .mismatch ⟨[], expected, .ofArgument v⟩

/-- The refusal of a key that a type does not declare. The path to it shows the key, which some numbers are too
long for. -/
def Stop.refuseKey (expected : TypeExpr) (k : Key) : Stop :=
  match Value.keyText k with
  | .ok name => .mismatch ⟨[.key name], expected, .unknownKey⟩
  | .error u => .fault (.unwritable u)

/-- A refusal of a value after it was asked for something, which may have failed. -/
def Stop.asked (obstruction : Option Obstruction) (refusal : Stop) : Stop :=
  match obstruction with
  | some o => .fault (.obstructed o)
  | none => refusal

/-- A stop seen from one step further up. -/
def Stop.under (step : Step) : Stop → Stop
  | .mismatch m => .mismatch { m with trail := step :: m.trail }
  | .fault f => .fault f

/-- A result seen from one step further up. -/
def under {α : Type} (step : Step) (x : Except Stop α) : Except Stop α :=
  x.mapError (·.under step)

end BotApi
