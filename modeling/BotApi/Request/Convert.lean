import BotApi.Bindings.Basic
import BotApi.Request.Part
import BotApi.Value.Literal
import BotApi.Value.Payload

/-!
# Converting arguments

An argument is checked against the type of its parameter and brought into the form that is sent: records and
mappings become mappings of their declared keys in the order of the type, lists and tuples become lists, and
everything else stays as it is. A union and an abstract type take their first option that fits.

A file is sent as it is if it is the argument itself. Anywhere below, it is replaced by a reference to an
attachment. The attachments of a conversion follow those of the conversions before it. An option that does not
fit may have attached files before it failed; these are taken back before the next option is tried.
-/

namespace BotApi.Request

/-- Whether a value is of a primitive type. Nothing is coerced: a truth value is no number. -/
def admits : Primitive → Value → Bool
  | .string, .text _ => true
  | .integer, .int _ => true
  | .float, .int _ | .float, .float _ => true
  | .boolean, .bool _ => true
  | .literalTrue, .bool b => b
  | .inputFile, v => v.isBinary
  | _, _ => false

/-- How a conversion ends where no file can be made of a value. -/
def namingFault : InputFile.NamingFault → Fault
  | .streamName => .streamName
  | .obstructed o => .obstructed o

/-- A file: itself if it is the argument, a reference otherwise. -/
def convertFile (top : Bool) (v : Value) : Attaching Value :=
  match v.toFile? with
  | none => throw (.refuseArgument (.primitive .inputFile) v)
  | some (.error fault) => throw (.fault (namingFault fault))
  | some (.ok f) => if top then pure (.file f) else Attaching.attach f

/-- What keeps a value from being told to be of a primitive type or not. A file may be anything that can be
read, and whether a value is the true one can be told of any. -/
def primitiveObstruction? (p : Primitive) (v : Value) : Option Obstruction :=
  match p with
  | .inputFile => v.attributeObstruction?
  | .literalTrue => none
  | _ => v.accessObstruction?

/-- A value of a primitive type as it is sent. -/
def convertPrimitive (p : Primitive) (top : Bool) (v : Value) : Attaching Value :=
  if !admits p v then throw (.asked (primitiveObstruction? p v) (.refuseArgument (.primitive p) v))
  else if p = .inputFile then convertFile top v
  else pure v

/-- The entries that a value offers to a type: its own, or those of the payload of a record of that very
type. -/
def entriesFor (name : String) (v : Value) : Except Stop (List (Key × Value)) :=
  match v with
  | .object entries => .ok entries
  | .record other fields =>
    if other ≠ name || Value.lacks .typeName fields then .error (.refuseArgument (.ref name) v)
    else match v.payload? with
      | .error o => .error (.fault (.obstructed o))
      | .ok (.object entries) => .ok entries
      | .ok _ => .error (.refuseArgument (.ref name) v)
  | _ => .error (.refuseArgument (.ref name) v)

theorem sizeEntries_lt_of_entriesFor {name : String} {v : Value} {entries : List (Key × Value)}
    (h : entriesFor name v = .ok entries) : Value.sizeEntries entries < v.size := by
  unfold entriesFor at h
  split at h
  · simp only [Except.ok.injEq] at h
    subst h
    simp only [Value.size]
    omega
  -- a record offers its payload, which is no larger
  · next other fields =>
    split at h
    · simp at h
    · split at h
      · simp at h
      · next payload hp =>
        simp only [Except.ok.injEq] at h
        subst h
        have := Value.size_le_of_payload? hp
        simp only [Value.size] at this ⊢
        omega
      · simp at h
  · simp at h

/-- The first key that none of the fields declares. -/
def unknownKey? (fields : List FieldBinding) (entries : List (Key × Value)) : Option Key :=
  (entries.map Prod.fst).find? fun k => !fields.any fun f => .text f.wireName = k

/-- The value under a key, unless it is null or was not sent. -/
def given? (entries : List (Key × Value)) (name : String) : Option Value :=
  (Value.get? entries name).filter fun
    | .null | .absent => false
    | _ => true

theorem size_lt_of_given? {entries : List (Key × Value)} {name : String} {v : Value}
    (h : given? entries name = some v) : v.size < Value.sizeEntries entries :=
  Value.size_lt_of_lookup (Option.filter_eq_some_iff.1 h).1

mutual

/-- Converts a value. `opens` is the number of abstract types that may still be opened at it. -/
def convert (types : Table TypeBinding) (opens : Nat) (top : Bool) (e : TypeExpr) (v : Value) :
    Attaching Value :=
  match e with
  | .primitive p => convertPrimitive p top v
  | .array item =>
    match v with
    | .list items | .tuple items => Value.list <$> convertItems types item 0 items
    | _ => throw (.asked v.accessObstruction? (.refuseArgument e v))
  | .union options => convertFirst types opens top e options v
  | .ref name =>
    match types.find? name with
    | none => throw (.fault (.unknownType name))
    | some type =>
      if type.isAbstract then
        match opens with
        | 0 => throw (.fault (.endless name))
        -- variants take mappings and records only, so there is no argument that is a file itself
        | opens + 1 => convertFirst types opens false e (type.variants.map .ref) v
      else
        match _h : entriesFor name v with
        | .error stop => throw stop
        | .ok entries =>
          -- keys are checked before any field is converted
          match unknownKey? type.fields entries with
          | some k => throw (.refuseKey e k)
          | none => Value.object <$> convertFields types type.fields entries
termination_by (v.size, opens, e.size)
decreasing_by
  -- the items of a list or of a tuple
  · exact Prod.Lex.left _ _ (by simp only [Value.size]; omega)
  · exact Prod.Lex.left _ _ (by simp only [Value.size]; omega)
  -- the options of a union, at the same value
  · exact Prod.Lex.right _ (Prod.Lex.right _ (by simp only [TypeExpr.size]; omega))
  -- the variants of an abstract type, one opening later
  · exact Prod.Lex.right _ (Prod.Lex.left _ _ (by omega))
  -- the entries of a mapping or of a record
  · exact Prod.Lex.left _ _ (sizeEntries_lt_of_entriesFor _h)

/-- Converts items, the first of which has the given index. -/
def convertItems (types : Table TypeBinding) (item : TypeExpr) (i : Nat) (items : List Value) :
    Attaching (List Value) :=
  match items with
  | [] => pure []
  | v :: rest => do
    let first ← Attaching.under (.index i) (convert types types.size false item v)
    let more ← convertItems types item (i + 1) rest
    pure (first :: more)
termination_by (Value.sizeItems items, 0, 0)
decreasing_by
  · exact Prod.Lex.left _ _ (by simp only [Value.sizeItems]; omega)
  · exact Prod.Lex.left _ _ (by simp only [Value.sizeItems]; omega)

/-- Converts by the first option that fits. -/
def convertFirst (types : Table TypeBinding) (opens : Nat) (top : Bool) (whole : TypeExpr)
    (options : List TypeExpr) (v : Value) : Attaching Value :=
  match options with
  | [] => throw (.refuseArgument whole v)
  | e :: rest => Attaching.orNext (convert types opens top e v) (convertFirst types opens top whole rest v)
termination_by (v.size, opens, TypeExpr.sizeOptions options)
decreasing_by
  · exact Prod.Lex.right _ (Prod.Lex.right _ (by simp only [TypeExpr.sizeOptions]; omega))
  · exact Prod.Lex.right _ (Prod.Lex.right _ (by simp only [TypeExpr.sizeOptions]; omega))

/-- Converts the fields of a type from the entries of a mapping. -/
def convertFields (types : Table TypeBinding) (fields : List FieldBinding) (entries : List (Key × Value)) :
    Attaching (List (Key × Value)) :=
  match fields with
  | [] => pure []
  | f :: rest =>
    match _h : given? entries f.wireName with
    | none =>
      -- null is as good as nothing, and is not sent
      if f.required then throw (.mismatch ⟨[.key f.wireName], f.type, .nothing⟩)
      else convertFields types rest entries
    | some v => do
      let first ← Attaching.under (.key f.wireName) (convert types types.size false f.type v)
      let more ← convertFields types rest entries
      pure ((.text f.wireName, first) :: more)
termination_by (Value.sizeEntries entries, 0, fields.length)
decreasing_by
  · exact Prod.Lex.right _ (Prod.Lex.right _ (Nat.lt_succ_self _))
  · exact Prod.Lex.left _ _ (size_lt_of_given? _h)
  · exact Prod.Lex.right _ (Prod.Lex.right _ (Nat.lt_succ_self _))

end

end BotApi.Request
