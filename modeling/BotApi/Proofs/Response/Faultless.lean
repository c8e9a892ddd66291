import BotApi.Proofs.Bindings.Founded
import BotApi.Proofs.Response.Values
import BotApi.Response.Remarks

/-!
# Faults in decoding

Decoding ends at once where an abstract type leads back to itself, where a type has no records, and where a value
cannot be asked what it is. If the types are as they should be, only the second can come of what holds no record and
has texts for keys, as payloads of decoded values do.

## Main results

* `exists_cause_of_decode` — what can be the matter where decoding comes to neither a value nor a mismatch.
* `decode_ne_fault` — decoding plain values comes to one of the two, if the types have records.
* `throughout_isPlain_payload` — the payloads of decoded values are plain.
-/

namespace BotApi.Response

/-- Whether a value is plain, as far as the values in it are: no record, and no mapping with a key that is no
text. -/
def isPlain : Value → Bool
  | .record _ _ => false
  | .object entries => entries.all fun e => e.1.isText
  | _ => true

/-- Whether a value can be asked for its class. Only some records cannot. -/
def isOpen (v : Value) : Bool := v.classObstruction?.isNone

/-- Whether the keys of a value, if it is a mapping, are texts. -/
def hasTextKeys : Value → Bool
  | .object entries => entries.all fun e => e.1.isText
  | _ => true

/-- Whether nothing keeps the types from having records. -/
def HasRecords (types : Table TypeBinding) : Prop :=
  ∀ name type, types.find? name = some type → type.isAbstract = false → type.obstacle? = none

theorem isPlain_payload {v : Value} (h : isRead v = true) : isPlain v.payload = true := by
  cases v with
  | record type fields =>
    -- its keys are wire names
    rw [Value.payload, isPlain, List.all_eq_true]
    exact Value.forall_key_payload_record (P := fun k => k.isText = true) fields fun _ => rfl
  | list => cases h
  | object => cases h
  | _ => rfl

/-- The payloads of decoded values are plain. -/
theorem throughout_isPlain_payload {v : Value} (h : v.throughout isRead = true) :
    v.payload.throughout isPlain = true := Value.throughout_payload (fun _ => isPlain_payload) v h

theorem isOpen_of_isPlain {p : Value} (h : isPlain p = true) : isOpen p = true := by
  cases p with
  | record => cases h
  | _ => rfl

theorem hasTextKeys_of_isPlain {p : Value} (h : isPlain p = true) : hasTextKeys p = true := by
  cases p with
  | object entries => exact h
  | _ => rfl

theorem classObstruction?_of_isPlain {p : Value} (h : isPlain p = true) : p.classObstruction? = none :=
  Option.isNone_iff_eq_none.1 (isOpen_of_isPlain h)

/-! ## Faults -/

/-- Whether the records of a type cannot be made, and a fault says so. -/
def IsObstacle (types : Table TypeBinding) (fault : Fault) : Prop :=
  ∃ name type f, types.find? name = some type ∧ type.isAbstract = false ∧ type.obstacle? = some f ∧
    fault = .noRecord name f.name

/-- Whether a fault comes from a value in the payload that cannot be asked for its class. -/
def IsUnaskable (p : Value) (fault : Fault) : Prop :=
  (∃ o, fault = .obstructed o) ∧ p.throughout isOpen = false

section

variable {p q : Value} {fault : Fault}

theorem isOpen_eq_false_of_class {o : Obstruction} (h : p.classObstruction? = some o) : isOpen p = false := by
  rw [isOpen, h]
  rfl

theorem isOpen_eq_false_of_access {o : Obstruction} (h : p.accessObstruction? = some o) : isOpen p = false := by
  cases p with
  | record type fields =>
    -- a class is asked for by the same attribute
    cases haccess : Value.lacks .access fields with
    | true => exact isOpen_eq_false_of_class (o := .lost .access) (by rw [Value.classObstruction?, haccess]; rfl)
    | false =>
      rw [Value.accessObstruction?, haccess] at h
      cases h
  | _ => cases h

/-- A question that a value cannot answer is a fault of it. -/
theorem isUnaskable_of_asked {obstruction : Option Obstruction} {m : Mismatch}
    (h : Stop.asked obstruction (.mismatch m) = .fault fault)
    (hopen : ∀ o, obstruction = some o → isOpen p = false) : IsUnaskable p fault := by
  cases obstruction with
  | none => cases h
  | some o =>
    cases h
    refine ⟨⟨o, rfl⟩, ?_⟩
    rw [Value.throughout.eq_def, hopen o rfl, Bool.false_and]

/-- A fault of a part is one of the whole. -/
theorem IsUnaskable.of_part (h : IsUnaskable q fault)
    (hpart : p.throughout isOpen = true → q.throughout isOpen = true) : IsUnaskable p fault := by
  obtain ⟨hobstructed, hq⟩ := h
  refine ⟨hobstructed, ?_⟩
  rw [← Bool.not_eq_true]
  intro hp
  rw [hpart hp] at hq
  cases hq

/-- The faults in decoding: a type has no records, or a value in the payload cannot be asked for its class. -/
theorem exists_cause_of_decode {types : Table TypeBinding} (founded : Founded types) (resolved : Resolved types)
    {opens : Nat} {e : TypeExpr} (room : HasRoom types opens e) (closed : Closed types e)
    (h : decode types opens e p = .error (.fault fault)) : IsObstacle types fault ∨ IsUnaskable p fault := by
  induction opens, e, p using decode_induction types with
  | primitive opens r p =>
    rw [decode] at h
    split at h
    · cases h
    · unfold refusePrimitive at h
      refine .inr (isUnaskable_of_asked (Except.error.inj h) fun o ho => ?_)
      split at ho
      · cases ho
      · exact isOpen_eq_false_of_access ho
  | list opens item ps ih =>
    rw [decode_list, map_eq_error_iff] at h
    obtain ⟨p, hp, s, step, hs, hstep⟩ := exists_of_decodeItems_eq_error h
    rw [eq_fault_of_under hstep] at hs
    -- at an item all openings are there again
    refine (ih p hp (hasRoom_of_size_le (Nat.le_refl _) item) closed.item hs).imp_right fun hcause => ?_
    exact hcause.of_part fun hall => (Value.throughout_list_iff.1 hall).2 p hp
  | notList opens item p hp =>
    rw [decode_not_list hp] at h
    exact .inr (isUnaskable_of_asked (Except.error.inj h) fun o => isOpen_eq_false_of_access)
  | union opens options p ih =>
    rw [decode_union] at h
    obtain ⟨e, he, hfault⟩ := exists_of_decodeFirst_eq_fault h
    exact ih e he (room.option e) (closed.option he) hfault
  | unknown opens name p htype =>
    -- names that are mentioned are there
    obtain ⟨type, hsome⟩ := Table.exists_find?_of_mem_names closed.mem_names
    rw [htype] at hsome
    cases hsome
  | endless name type p htype ha =>
    -- an abstract type that there is room for has an opening left
    obtain ⟨fewer, hopens, -⟩ := room.variants founded htype
    cases hopens
  | abstract opens name type p htype ha ih =>
    rw [decode_abstract htype ha] at h
    obtain ⟨e, he, hfault⟩ := exists_of_decodeFirst_eq_fault h
    obtain ⟨variant, hv, rfl⟩ := List.mem_map.1 he
    obtain ⟨fewer, hopens, hroom⟩ := room.variants founded htype
    cases hopens
    exact ih _ he (hroom variant hv) (resolved.variant htype hv) hfault
  | object opens name type entries htype hc ih =>
    rw [decode_object htype hc, bind_eq_error_iff] at h
    rcases h with h | ⟨fields, -, h⟩
    · obtain ⟨f, hf, s, step, hs, hstep⟩ := exists_of_decodeFields_eq_error h
      rw [eq_fault_of_under hstep] at hs
      obtain ⟨p, hget, hp⟩ := exists_of_fieldValue_eq_fault hs
      refine (ih f hf p hget (hasRoom_of_size_le (Nat.le_refl _) f.type) (resolved.fields name type htype f hf)
        hp).imp_right fun hcause => ?_
      exact hcause.of_part fun hall => Value.throughout_of_lookup hall hget
    · -- the fields are there, but the type has no records
      unfold makeRecord at h
      split at h
      · cases h
      · next f hf =>
        cases h
        exact .inl ⟨name, type, f, htype, hc, hf, rfl⟩
  | notObject opens name type p htype hc hp =>
    rw [decode_not_object htype hc hp] at h
    exact .inr (isUnaskable_of_asked (Except.error.inj h) fun o => isOpen_eq_false_of_class)

end

/-- The only fault in decoding what is plain is that a type has no records. -/
theorem isObstacle_of_decode {types : Table TypeBinding} (founded : Founded types) (resolved : Resolved types)
    {opens : Nat} {e : TypeExpr} {p : Value} (room : HasRoom types opens e) (closed : Closed types e)
    (plain : p.throughout isPlain = true) {fault : Fault} (h : decode types opens e p = .error (.fault fault)) :
    IsObstacle types fault := by
  refine (exists_cause_of_decode founded resolved room closed h).resolve_right ?_
  rintro ⟨-, hclosed⟩
  rw [Value.throughout_mono (fun _ => isOpen_of_isPlain) plain] at hclosed
  cases hclosed

/-- Decoding what is plain comes to a value or to a mismatch, as far as it depends on the types. -/
theorem decode_ne_fault {types : Table TypeBinding} (founded : Founded types) (resolved : Resolved types)
    (records : HasRecords types) {opens : Nat} {e : TypeExpr} {p : Value} (room : HasRoom types opens e)
    (closed : Closed types e) (plain : p.throughout isPlain = true) (fault : Fault) :
    decode types opens e p ≠ .error (.fault fault) := by
  intro h
  obtain ⟨name, type, f, htype, hc, hobstacle, -⟩ := isObstacle_of_decode founded resolved room closed plain h
  rw [records name type htype hc] at hobstacle
  cases hobstacle

end BotApi.Response
