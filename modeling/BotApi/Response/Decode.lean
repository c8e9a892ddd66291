import BotApi.Bindings.Basic
import BotApi.Mismatch

/-!
# Decoding

A payload is decoded against a type expression: arrays become tuples, mappings become records of the type
that was asked for. A union and an abstract type take their first option that fits. Keys that a type does
not declare are passed over.

Each call goes down in the size of the payload, or else in the number of abstract types that may still be
opened at the same payload, or else in the size of the expression. There are as many of the second as there
are types, which is enough unless an abstract type leads back to itself.
-/

namespace BotApi.Response

/-- Whether a payload is of a primitive type. A file comes back as the text that identifies it. -/
def admits : Primitive → Value → Bool
  | .string, .text _ | .inputFile, .text _ => true
  | .integer, .int _ => true
  | .float, .int _ | .float, .float _ => true
  | .boolean, .bool _ => true
  | .literalTrue, .bool b => b
  | _, _ => false

/-- The refusal of a payload for a primitive type. Whether it is the true value can be told of any. -/
def refusePrimitive (p : Primitive) (v : Value) : Stop :=
  .asked (if p = .literalTrue then none else v.accessObstruction?) (.refuse (.primitive p) v)

/-- The record of a type with its fields. -/
def makeRecord (name : String) (type : TypeBinding) (fields : List (FieldName × Value)) : Except Stop Value :=
  match type.obstacle? with
  | none => .ok (.record name fields)
  | some f => .error (.fault (.noRecord name f.name))

mutual

/-- The value of a payload. `opens` is the number of abstract types that may still be opened at it. -/
def decode (types : Table TypeBinding) (opens : Nat) (e : TypeExpr) (v : Value) : Except Stop Value :=
  match e with
  | .primitive p => if admits p v then .ok v else .error (refusePrimitive p v)
  | .array item =>
    match v with
    | .list items => .tuple <$> decodeItems types item 0 items
    | _ => .error (.asked v.accessObstruction? (.refuse e v))
  | .union options => decodeFirst types opens e options v
  | .ref name =>
    match types.find? name with
    | none => .error (.fault (.unknownType name))
    | some type =>
      if type.isAbstract then
        match opens with
        | 0 => .error (.fault (.endless name))
        | opens + 1 => decodeFirst types opens e (type.variants.map .ref) v
      else
        -- undeclared keys are never looked at
        match v with
        | .object entries => decodeFields types type.fields entries >>= makeRecord name type
        | _ => .error (.asked v.classObstruction? (.refuse e v))
termination_by (v.size, opens, e.size)
decreasing_by
  -- the items of a list
  · exact Prod.Lex.left _ _ (by simp only [Value.size]; omega)
  -- the options of a union, at the same payload
  · exact Prod.Lex.right _ (Prod.Lex.right _ (by simp only [TypeExpr.size]; omega))
  -- the variants of an abstract type, one opening later
  · exact Prod.Lex.right _ (Prod.Lex.left _ _ (by omega))
  -- the entries of a mapping
  · exact Prod.Lex.left _ _ (by simp only [Value.size]; omega)

/-- The values of items, the first of which has the given index. -/
def decodeItems (types : Table TypeBinding) (item : TypeExpr) (i : Nat) (items : List Value) :
    Except Stop (List Value) :=
  match items with
  | [] => .ok []
  | v :: rest => do
    let w ← under (.index i) (decode types types.size item v)
    let ws ← decodeItems types item (i + 1) rest
    pure (w :: ws)
termination_by (Value.sizeItems items, 0, 0)
decreasing_by
  · exact Prod.Lex.left _ _ (by simp only [Value.sizeItems]; omega)
  · exact Prod.Lex.left _ _ (by simp only [Value.sizeItems]; omega)

/-- The value by the first option that fits. -/
def decodeFirst (types : Table TypeBinding) (opens : Nat) (whole : TypeExpr) (options : List TypeExpr)
    (v : Value) : Except Stop Value :=
  match options with
  | [] => .error (.refuse whole v)
  | e :: rest =>
    match decode types opens e v with
    -- only a mismatch sends on to the next option
    | .error (.mismatch _) => decodeFirst types opens whole rest v
    | result => result
termination_by (v.size, opens, TypeExpr.sizeOptions options)
decreasing_by
  · exact Prod.Lex.right _ (Prod.Lex.right _ (by simp only [TypeExpr.sizeOptions]; omega))
  · exact Prod.Lex.right _ (Prod.Lex.right _ (by simp only [TypeExpr.sizeOptions]; omega))

/-- The values of the fields of a type in a mapping. A field that is not required may be missing or null,
and its value tells which. -/
def decodeFields (types : Table TypeBinding) (fields : List FieldBinding) (entries : List (Key × Value)) :
    Except Stop (List (FieldName × Value)) :=
  match fields with
  | [] => .ok []
  | f :: rest => do
    let w ← under (.key f.wireName) <|
      match _h : Value.get? entries f.wireName with
      | none => if f.required then .error (.mismatch ⟨[], f.type, .nothing⟩) else .ok .absent
      | some .null => if f.required then .error (.refuse f.type .null) else .ok .null
      | some v => decode types types.size f.type v
    let ws ← decodeFields types rest entries
    pure ((f.names, w) :: ws)
termination_by (Value.sizeEntries entries, 0, fields.length)
decreasing_by
  · exact Prod.Lex.left _ _ (Value.size_lt_of_lookup _h)
  · exact Prod.Lex.right _ (Prod.Lex.right _ (Nat.lt_succ_self _))

end

end BotApi.Response
