import BotApi.Value.Special

/-!
# Payloads

The payload of a value is its shape in JSON: records become mappings under their wire names, tuples become
lists, and what was not sent is left out. Some records have none, because a field has taken the place of what
the payload is made by. An empty mapping in the place of the table of fields makes an empty payload.

## Main results

* `Value.size_payload_le` — the payload has no more values than the value.
-/

namespace BotApi.Value

/-- Whether the value marks a field that was not sent. -/
def isAbsent : Value → Bool
  | .absent => true
  | _ => false

mutual

/-- The payload of a value. Values that are no record, list, tuple or mapping are their own payload. -/
def payload : Value → Value
  | .list items | .tuple items => .list (payloadItems items)
  | .object entries => .object (payloadEntries entries)
  | .record _ fields => .object (if (table? fields).isSome then [] else payloadFields fields)
  | v => v

/-- The payloads of items, all of them. -/
def payloadItems : List Value → List Value
  | [] => []
  | v :: rest => payload v :: payloadItems rest

/-- The payloads of the entries that were sent. -/
def payloadEntries : List (Key × Value) → List (Key × Value)
  | [] => []
  | (k, v) :: rest =>
    if v.isAbsent then payloadEntries rest else (k, payload v) :: payloadEntries rest

/-- The payloads of the fields that were sent, under their wire names. -/
def payloadFields : List (FieldName × Value) → List (Key × Value)
  | [] => []
  | (f, v) :: rest =>
    if v.isAbsent then payloadFields rest
    else (.text f.wireName, payload v) :: payloadFields rest

end

mutual

theorem size_payload_le : ∀ v : Value, v.payload.size ≤ v.size
  | .list items => by
    have := sizeItems_payload_le items
    simp only [payload, size]
    omega
  | .tuple items => by
    have := sizeItems_payload_le items
    simp only [payload, size]
    omega
  | .object entries => by
    have := sizeEntries_payload_le entries
    simp only [payload, size]
    omega
  | .record _ fields => by
    have := sizeFields_payload_le fields
    simp only [payload, size]
    split
    · simp only [sizeEntries]
      omega
    · omega
  | .null | .absent | .bool _ | .int _ | .float _ | .text _ | .bytes _ | .bytearray _ | .file _
  | .stream _ | .foreign _ _ => by simp only [payload, Nat.le_refl]

theorem sizeItems_payload_le : ∀ items : List Value, sizeItems (payloadItems items) ≤ sizeItems items
  | [] => by simp [payloadItems]
  | v :: rest => by
    have h₁ := size_payload_le v
    have h₂ := sizeItems_payload_le rest
    simp only [payloadItems, sizeItems]
    omega

theorem sizeEntries_payload_le :
    ∀ entries : List (Key × Value), sizeEntries (payloadEntries entries) ≤ sizeEntries entries
  | [] => by simp [payloadEntries]
  | (k, v) :: rest => by
    have h₁ := size_payload_le v
    have h₂ := sizeEntries_payload_le rest
    simp only [payloadEntries, sizeEntries]
    split
    · omega
    · simp only [sizeEntries]
      omega

theorem sizeFields_payload_le :
    ∀ fields : List (FieldName × Value), sizeEntries (payloadFields fields) ≤ sizeFields fields
  | [] => by simp [payloadFields, sizeEntries]
  | (f, v) :: rest => by
    have h₁ := size_payload_le v
    have h₂ := sizeFields_payload_le rest
    simp only [payloadFields, sizeFields]
    split
    · omega
    · simp only [sizeEntries]
      omega

end

/-! ## Records without a payload -/

/-- What is wrong with a value that stands in for the table of fields. -/
def tableObstruction? : Value → Option Obstruction
  | .object [] => none
  | .object ((_, v) :: _) => some (noAttribute v "_field_type")
  | v => some (noAttribute v "values")

mutual

/-- What keeps a value from having a payload. -/
def payloadObstruction? : Value → Option Obstruction
  | .list items | .tuple items => itemsObstruction? items
  | .object entries => entriesObstruction? entries
  | .record _ fields =>
    if lacks .access fields then some (.lost .access)
    else match table? fields with
      | some v => tableObstruction? v
      | none => fieldsObstruction? (lacks .wireNames fields) fields
  | _ => none

/-- What keeps one of the items from it. -/
def itemsObstruction? : List Value → Option Obstruction
  | [] => none
  | v :: rest => payloadObstruction? v <|> itemsObstruction? rest

/-- What keeps one of the entries that were sent from it. -/
def entriesObstruction? : List (Key × Value) → Option Obstruction
  | [] => none
  | (_, v) :: rest =>
    if v.isAbsent then entriesObstruction? rest else payloadObstruction? v <|> entriesObstruction? rest

/-- What keeps one of the fields that were sent from it, or the lack of wire names. -/
def fieldsObstruction? (nameless : Bool) : List (FieldName × Value) → Option Obstruction
  | [] => none
  | (_, v) :: rest =>
    if v.isAbsent then fieldsObstruction? nameless rest
    -- the value is made ready first, and then its wire name is looked up
    else if nameless then payloadObstruction? v <|> some (.noAttribute .absent "get")
    else payloadObstruction? v <|> fieldsObstruction? nameless rest

end

/-- The payload of a value, if it has one. -/
def payload? (v : Value) : Except Obstruction Value :=
  match v.payloadObstruction? with
  | some o => .error o
  | none => .ok v.payload

theorem size_le_of_payload? {v w : Value} (h : v.payload? = .ok w) : w.size ≤ v.size := by
  unfold payload? at h
  split at h
  · simp at h
  · simp only [Except.ok.injEq] at h
    subst h
    exact size_payload_le v

end BotApi.Value
