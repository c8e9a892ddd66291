import BotApi.Response.Decode
import BotApi.Value.Literal

/-!
# Remarks on undeclared keys

While a payload is decoded, each record that is made may leave keys of its mapping aside. A remark names the
mapping and these keys. Options that were tried and did not fit have left remarks too, up to where they
failed; the records inside a mapping come before the mapping itself.
-/

namespace BotApi.Response

/-- A mapping with keys that its type does not declare. -/
structure Remark where
  trail : List Step
  keys : List Key

/-- A remark seen from one step further up. -/
def Remark.under (step : Step) (r : Remark) : Remark :=
  { r with trail := step :: r.trail }

/-- Whether a result is a value. -/
def succeeds {α : Type} : Except Stop α → Bool
  | .ok _ => true
  | .error _ => false

/-- Whether a result lets a union go on to its next option. -/
def goesOn {α : Type} : Except Stop α → Bool
  | .error (.mismatch _) => true
  | _ => false

/-- The keys of a mapping that none of the fields declares. -/
def undeclared (fields : List FieldBinding) (entries : List (Key × Value)) : List Key :=
  (entries.map Prod.fst).filter fun k => !fields.any fun f => .text f.wireName = k

mutual

/-- The remarks that decoding a payload leaves, whether it succeeds or not. -/
def remarks (types : Table TypeBinding) (opens : Nat) (e : TypeExpr) (v : Value) : List Remark :=
  match e with
  | .primitive _ => []
  | .array item =>
    match v with
    | .list items => remarksOfItems types item 0 items
    | _ => []
  | .union options => remarksOfOptions types opens options v
  | .ref name =>
    match types.find? name with
    | none => []
    | some type =>
      if type.isAbstract then
        match opens with
        | 0 => []
        | opens + 1 => remarksOfOptions types opens (type.variants.map .ref) v
      else
        match v with
        | .object entries =>
          -- the type remarks on its own keys after its fields have, and only if they all fit
          let keys := undeclared type.fields entries
          let own : List Remark :=
            if succeeds (decodeFields types type.fields entries) && !keys.isEmpty then [⟨[], keys⟩]
            else []
          remarksOfFields types type.fields entries ++ own
        | _ => []
termination_by (v.size, opens, e.size)
decreasing_by
  -- items, options, variants and entries, as in decoding
  · exact Prod.Lex.left _ _ (by simp only [Value.size]; omega)
  · exact Prod.Lex.right _ (Prod.Lex.right _ (by simp only [TypeExpr.size]; omega))
  · exact Prod.Lex.right _ (Prod.Lex.left _ _ (by omega))
  · exact Prod.Lex.left _ _ (by simp only [Value.size]; omega)

/-- The remarks on items, up to the first that does not fit. -/
def remarksOfItems (types : Table TypeBinding) (item : TypeExpr) (i : Nat) (items : List Value) :
    List Remark :=
  match items with
  | [] => []
  | v :: rest =>
    (remarks types types.size item v).map (·.under (.index i)) ++
      if succeeds (decode types types.size item v) then remarksOfItems types item (i + 1) rest else []
termination_by (Value.sizeItems items, 0, 0)
decreasing_by
  · exact Prod.Lex.left _ _ (by simp only [Value.sizeItems]; omega)
  · exact Prod.Lex.left _ _ (by simp only [Value.sizeItems]; omega)

/-- The remarks of options, up to the first that fits. -/
def remarksOfOptions (types : Table TypeBinding) (opens : Nat) (options : List TypeExpr) (v : Value) :
    List Remark :=
  match options with
  | [] => []
  | e :: rest =>
    remarks types opens e v ++
      if goesOn (decode types opens e v) then remarksOfOptions types opens rest v else []
termination_by (v.size, opens, TypeExpr.sizeOptions options)
decreasing_by
  · exact Prod.Lex.right _ (Prod.Lex.right _ (by simp only [TypeExpr.sizeOptions]; omega))
  · exact Prod.Lex.right _ (Prod.Lex.right _ (by simp only [TypeExpr.sizeOptions]; omega))

/-- The remarks on the fields of a mapping, up to the first that does not fit. -/
def remarksOfFields (types : Table TypeBinding) (fields : List FieldBinding)
    (entries : List (Key × Value)) : List Remark :=
  match fields with
  | [] => []
  | f :: rest =>
    match _h : Value.get? entries f.wireName with
    | none | some .null => if f.required then [] else remarksOfFields types rest entries
    | some v =>
      (remarks types types.size f.type v).map (·.under (.key f.wireName)) ++
        if succeeds (decode types types.size f.type v) then remarksOfFields types rest entries else []
termination_by (Value.sizeEntries entries, 0, fields.length)
decreasing_by
  · exact Prod.Lex.right _ (Prod.Lex.right _ (Nat.lt_succ_self _))
  · exact Prod.Lex.right _ (Prod.Lex.right _ (Nat.lt_succ_self _))
  · exact Prod.Lex.left _ _ (Value.size_lt_of_lookup _h)
  · exact Prod.Lex.right _ (Prod.Lex.right _ (Nat.lt_succ_self _))

end

/-! ## Reporting them -/

/-- Where a key stands in the order of numbers, if it is one. -/
def position? : Key → Option (Int × Int)
  | .int n => some (Number.Binary64.positionOfInt n)
  | .bool b => some (Number.Binary64.positionOfInt (if b then 1 else 0))
  | .float x => some x.position
  | _ => none

/-- The text of a key that is one. -/
def keyText? : Key → Option String
  | .text s => some s
  | _ => none

/-- The octets of a key that is made of them. -/
def keyOctets? : Key → Option (List UInt8)
  | .bytes content => some content
  | _ => none

/-- Whether one position is not after the other. -/
def notAfter (a b : Int × Int) : Bool := a.1 < b.1 || (a.1 = b.1 && a.2 ≤ b.2)

/-- The keys in order, as literals. Texts are ordered among themselves, and so are numbers and octets, but there
is no order between these, and none for several other keys. -/
def sortedKeys (keys : List Key) : Option (List String) :=
  let texts := keys.filterMap keyText?
  let numbers := keys.filterMap fun k => (position? k).map fun p => (p, k.literal)
  let octets := keys.filterMap keyOctets?
  if keys.length ≤ 1 then some (keys.map Key.literal)
  else if texts.length = keys.length then some ((texts.mergeSort (· ≤ ·)).map Text.quoted)
  else if numbers.length = keys.length then
    some ((numbers.mergeSort fun a b => notAfter a.1 b.1).map Prod.snd)
  else if octets.length = keys.length then some ((octets.mergeSort (· ≤ ·)).map Text.quotedOctets)
  else none

/-- The entry of a remark, if its keys have an order. -/
def Remark.entry (root : String) (r : Remark) : Option LogEntry :=
  (sortedKeys r.keys).map fun keys =>
    { level := .debug, reporter := .decoder
      message := "Ignoring unknown keys [" ++ ", ".intercalate keys ++ "] at " ++ trailText root r.trail }

/-- The entries of remarks up to the first without an order, and whether that is all of them. -/
def entriesOf (root : String) : List Remark → List LogEntry × Bool
  | [] => ([], true)
  | r :: rest =>
    match r.entry root with
    | none => ([], false)
    | some entry =>
      let (entries, all) := entriesOf root rest
      (entry :: entries, all)

/-- Decodes a payload. If the log takes remarks, they are made on the way; a remark whose keys have no order
ends the decoding. -/
def decodeLogged (threshold : Threshold) (types : Table TypeBinding) (root : String) (e : TypeExpr)
    (v : Value) : Logged (Except Stop Value) :=
  if threshold.admits .debug then
    match entriesOf root (remarks types types.size e v) with
    | (entries, true) => ⟨decode types types.size e v, entries⟩
    | (entries, false) => ⟨.error (.fault .unorderedKeys), entries⟩
  else ⟨decode types types.size e v, []⟩

end BotApi.Response
