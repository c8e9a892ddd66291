import BotApi.Request.Encode
import Mathlib.Data.List.Nodup

/-!
# Arguments of a call

The parameters of a method take their arguments one after another, up to the first that needs one and has
none. `collect_eq` says so for methods whose parameters have different wire names.
-/

namespace BotApi.Request

/-- Whether a parameter needs an argument and has none. -/
def isMissing (arguments : Arguments) (p : FieldBinding) : Bool :=
  p.required && (argument? arguments p).isNone

/-- The parameters that have an argument, each with its own. -/
def given (arguments : Arguments) (params : List FieldBinding) : List (FieldBinding × Value) :=
  params.filterMap fun p => (argument? arguments p).map fun v => (p, v)

theorem given_cons_none {arguments : Arguments} {p : FieldBinding} (h : argument? arguments p = none)
    (rest : List FieldBinding) : given arguments (p :: rest) = given arguments rest := by
  rw [given, List.filterMap_cons, h]
  rfl

theorem given_cons_some {arguments : Arguments} {p : FieldBinding} {v : Value}
    (h : argument? arguments p = some v) (rest : List FieldBinding) :
    given arguments (p :: rest) = (p, v) :: given arguments rest := by
  rw [given, List.filterMap_cons, h]
  rfl

theorem mem_given_iff {arguments : Arguments} {params : List FieldBinding} {p : FieldBinding} {v : Value} :
    (p, v) ∈ given arguments params ↔ p ∈ params ∧ argument? arguments p = some v := by
  rw [given, List.mem_filterMap]
  constructor
  · rintro ⟨q, hq, h⟩
    obtain ⟨w, hw, he⟩ := Option.map_eq_some_iff.1 h
    obtain ⟨rfl, rfl⟩ := Prod.mk.inj he
    exact ⟨hq, hw⟩
  · rintro ⟨hp, hv⟩
    exact ⟨p, hp, by rw [hv]; rfl⟩

theorem map_given_sublist (arguments : Arguments) (params : List FieldBinding) :
    ((given arguments params).map Prod.fst).Sublist params := by
  induction params with
  | nil => exact List.Sublist.refl _
  | cons p rest ih =>
    cases h : argument? arguments p with
    | none =>
      rw [given_cons_none h]
      exact ih.cons p
    | some v =>
      rw [given_cons_some h, List.map_cons]
      exact ih.cons_cons p

/-- Wire names that differ among the parameters differ among those with arguments. -/
theorem nodup_given {params : List FieldBinding} (h : (params.map (·.wireName)).Nodup)
    (arguments : Arguments) : ((given arguments params).map fun e => e.1.wireName).Nodup := by
  have hsub := (map_given_sublist arguments params).map FieldBinding.wireName
  rw [List.map_map] at hsub
  exact hsub.nodup h

theorem supplied_eq (arguments : Arguments) (params : List FieldBinding) :
    supplied arguments params =
      match params.find? (isMissing arguments) with
      | some p => .error (.refused (.missing p.wireName))
      | none => .ok (given arguments params) := by
  induction params with
  | nil => rfl
  | cons p rest ih =>
    rw [supplied, List.find?_cons]
    cases h : argument? arguments p with
    | none =>
      -- without an argument it counts only whether one is needed
      rw [isMissing, h, given_cons_none h, Option.isNone_none, Bool.and_true]
      cases p.required with
      | true => rfl
      | false => exact ih
    | some v =>
      rw [isMissing, h, given_cons_some h, Option.isNone_some, Bool.and_false]
      show (fun more => (p, v) :: more) <$> supplied arguments rest = _
      rw [ih]
      cases rest.find? (isMissing arguments) <;> rfl

/-- The arguments of a call to a method whose parameters have different wire names. -/
theorem collect_eq {method : MethodBinding} (h : (method.params.map (·.wireName)).Nodup)
    (arguments : Arguments) :
    collect method arguments =
      match unexpected? method.params (arguments.map fun e => e.1.toValue) with
      | some param => .error (unexpected method param)
      | none => supplied arguments method.params := by
  rw [collect]
  cases unexpected? method.params (arguments.map fun e => e.1.toValue) with
  | some param => rfl
  | none =>
    show Entries.merge <$> supplied arguments method.params = supplied arguments method.params
    rw [supplied_eq]
    cases method.params.find? (isMissing arguments) with
    | some p => rfl
    | none =>
      have hn := nodup_given h arguments
      show Except.ok (Entries.merge (given arguments method.params)) = _
      -- parameters that have different wire names are different
      rw [Entries.merge_of_nodup]
      exact List.Nodup.of_map FieldBinding.wireName (by rw [List.map_map]; exact hn)

end BotApi.Request
