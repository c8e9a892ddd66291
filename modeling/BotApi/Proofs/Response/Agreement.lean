import BotApi.Proofs.Response.Decoded

/-!
# Payloads that agree

Decoding looks at a mapping only through the keys that some type declares. Two payloads that agree on these, at
any depth, come to the same, whatever else either of them holds.

## Main results

* `Agree.decode_eq` — payloads that agree are decoded to the same result.
-/

namespace BotApi.Response

/-- Whether some type has a field under the key. -/
def Declares (types : Table TypeBinding) (key : String) : Prop :=
  ∃ name type, types.find? name = some type ∧ ∃ f ∈ type.fields, f.wireName = key

/-- Two payloads agree if they differ at most in keys that no type declares. -/
inductive Agree (types : Table TypeBinding) : Value → Value → Prop
  | refl (p : Value) : Agree types p p
  | list {ps qs : List Value} (length : ps.length = qs.length)
      (each : ∀ (i : Nat) (p q : Value), ps[i]? = some p → qs[i]? = some q → Agree types p q) :
      Agree types (.list ps) (.list qs)
  | object {entries others : List (Key × Value)}
      (keys : ∀ key, Declares types key → (Value.get? entries key).isSome = (Value.get? others key).isSome)
      (each : ∀ key p q, Declares types key → Value.get? entries key = some p → Value.get? others key = some q →
        Agree types p q) :
      Agree types (.object entries) (.object others)

namespace Agree

variable {types : Table TypeBinding} {p q : Value}

theorem kind_eq (h : Agree types p q) : p.kind = q.kind := by
  cases h <;> rfl

theorem decodeItems_eq {item : TypeExpr} {ps qs : List Value} (length : ps.length = qs.length)
    (each : ∀ (i : Nat) (p q : Value), ps[i]? = some p → qs[i]? = some q →
      decode types types.size item p = decode types types.size item q) (i : Nat) :
    decodeItems types item i ps = decodeItems types item i qs := by
  induction ps generalizing qs i with
  | nil =>
    cases qs with
    | nil => rfl
    | cons => cases length
  | cons p rest ih =>
    cases qs with
    | nil => cases length
    | cons q more =>
      have hrest := ih (Nat.succ.inj length) (fun j p q hp hq => each (j + 1) p q hp hq) (i + 1)
      rw [decodeItems, decodeItems, each 0 p q rfl rfl, hrest]

theorem decodeFirst_eq (h : Agree types p q) {opens : Nat} {whole : TypeExpr} {options : List TypeExpr}
    (each : ∀ e ∈ options, decode types opens e p = decode types opens e q) :
    decodeFirst types opens whole options p = decodeFirst types opens whole options q := by
  induction options with
  | nil => rw [decodeFirst, decodeFirst, Stop.refuse, Stop.refuse, h.kind_eq]
  | cons e rest ih =>
    obtain ⟨hfirst, hrest⟩ := List.forall_mem_cons.1 each
    rw [decodeFirst, decodeFirst, hfirst, ih hrest]

theorem decodeFields_eq {fields : List FieldBinding} {entries others : List (Key × Value)}
    (each : ∀ f ∈ fields, fieldValue types f entries = fieldValue types f others) :
    decodeFields types fields entries = decodeFields types fields others := by
  induction fields with
  | nil => rw [decodeFields, decodeFields]
  | cons f rest ih =>
    obtain ⟨hfirst, hrest⟩ := List.forall_mem_cons.1 each
    rw [decodeFields_cons, decodeFields_cons, hfirst, ih hrest]

/-- Payloads that agree are decoded to the same result. -/
theorem decode_eq (h : Agree types p q) (opens : Nat) (e : TypeExpr) :
    decode types opens e p = decode types opens e q := by
  induction opens, e, p using decode_induction types generalizing q with
  | primitive opens r p =>
    cases h with
    | refl => rfl
    | list => cases r <;> rw [decode, decode] <;> rfl
    | object => cases r <;> rw [decode, decode] <;> rfl
  | list opens item ps ih =>
    cases h with
    | refl => rfl
    | @list _ qs length each =>
      rw [decode_list, decode_list, decodeItems_eq length]
      intro i p q hp hq
      exact ih p (List.mem_of_getElem? hp) (each i p q hp hq)
  | notList opens item p hp =>
    cases h with
    | refl => rfl
    | list => exact (hp _ rfl).elim
    | object =>
      -- both are refused as mappings
      rw [decode_not_list (by simp), decode_not_list (by simp)]
      rfl
  | union opens options p ih =>
    rw [decode_union, decode_union]
    exact h.decodeFirst_eq fun e he => ih e he h
  | unknown opens name p htype => rw [decode_unknown htype, decode_unknown htype]
  | endless name type p htype ha => rw [decode_endless htype ha, decode_endless htype ha]
  | abstract opens name type p htype ha ih =>
    rw [decode_abstract htype ha, decode_abstract htype ha]
    exact h.decodeFirst_eq fun e he => ih e he h
  | object opens name type entries htype hc ih =>
    cases h with
    | refl => rfl
    | @object _ others keys each =>
      rw [decode_object htype hc, decode_object htype hc]
      congr 1
      refine decodeFields_eq fun f hf => ?_
      -- the key of a field is declared, so both have it or neither has
      have hdeclared : Declares types f.wireName := ⟨name, type, htype, f, hf, rfl⟩
      have hkeys := keys f.wireName hdeclared
      cases hp : Value.get? entries f.wireName with
      | none =>
        rw [hp, Option.isSome_none, eq_comm, Option.isSome_eq_false_iff, Option.isNone_iff_eq_none] at hkeys
        rw [fieldValue, fieldValue, hp, hkeys]
      | some p =>
        rw [hp, Option.isSome_some, eq_comm, Option.isSome_iff_exists] at hkeys
        obtain ⟨q, hq⟩ := hkeys
        have hpq := each f.wireName p q hdeclared hp hq
        have hdecode := ih f hf p hp hpq
        -- null agrees with null only
        by_cases hnull : p = .null
        · subst hnull
          cases hpq
          rw [fieldValue, fieldValue, hp, hq]
        · have hnull' : q ≠ .null := by
            rintro rfl
            cases hpq
            exact hnull rfl
          rw [fieldValue_of_get? hp hnull, fieldValue_of_get? hq hnull', hdecode]
  | notObject opens name type p htype hc hp =>
    cases h with
    | refl => rfl
    | list =>
      rw [decode_not_object htype hc (by simp), decode_not_object htype hc (by simp)]
      rfl
    | object => exact (hp _ rfl).elim

end Agree

end BotApi.Response
