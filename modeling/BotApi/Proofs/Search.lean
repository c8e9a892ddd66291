import BotApi.Proofs.Request.InPlace
import Mathlib.Data.List.Nodup
import Mathlib.Data.Nat.Init

/-!
# Searching options and variants

At one value a conversion goes through the options of unions and the variants of abstract types, up to the first that
does not refuse the value. Abstract types can be opened a limited number of times only, which ends the search where one
leads back to itself. The limit shows in the result only there: with as many openings as there are types that can come
up, a search that runs out of openings runs out of any number of them.

## Main results

* `IsSearch.eq_of_le` — more openings make no difference to a search that has enough.
* `IsSearch.exists_names` — a search for which a number of openings is just enough has opened as many different types.
* `IsSearch.endsAlike` — all searches with an opening for each type that can come up end alike.
-/

namespace BotApi

open Request (orNext)

/-! ## Results that end alike -/

/-- Two results are the same, or both are of a kind of errors that are not told apart. -/
def EndsAlike {ε α : Type} (lost : ε → Prop) (x y : Except ε α) : Prop :=
  x = y ∨ (∃ s, x = .error s ∧ lost s) ∧ ∃ s, y = .error s ∧ lost s

/-- Whether a conversion stopped for want of openings. -/
def Stop.IsEndless (s : Stop) : Prop := ∃ name, s = .fault (.endless name)

/-- Whether a result comes from want of openings. -/
def IsEndless {α : Type} (x : Except Stop α) : Prop := ∃ s, x = .error s ∧ s.IsEndless

namespace EndsAlike

variable {ε ε' α β : Type} {lost : ε → Prop} {lost' : ε' → Prop} {x y z : Except ε α}

theorem refl (x : Except ε α) : EndsAlike lost x x := .inl rfl

theorem symm (h : EndsAlike lost x y) : EndsAlike lost y x := h.imp Eq.symm And.symm

theorem trans (h : EndsAlike lost x y) (h' : EndsAlike lost y z) : EndsAlike lost x z := by
  rcases h with rfl | ⟨hx, hy⟩
  · exact h'
  · rcases h' with rfl | ⟨-, hz⟩
    · exact .inr ⟨hx, hy⟩
    · exact .inr ⟨hx, hz⟩

theorem bind {f g : α → Except ε β} (h : EndsAlike lost x y) (hfg : ∀ a, EndsAlike lost (f a) (g a)) :
    EndsAlike lost (x >>= f) (y >>= g) := by
  rcases h with rfl | ⟨⟨s, rfl, hs⟩, ⟨t, rfl, ht⟩⟩
  · cases x with
    | ok a => exact hfg a
    | error s => exact refl _
  · exact .inr ⟨⟨s, rfl, hs⟩, ⟨t, rfl, ht⟩⟩

theorem map (f : α → β) (h : EndsAlike lost x y) : EndsAlike lost (f <$> x) (f <$> y) := by
  rcases h with rfl | ⟨⟨s, rfl, hs⟩, ⟨t, rfl, ht⟩⟩
  · exact refl _
  · exact .inr ⟨⟨s, rfl, hs⟩, ⟨t, rfl, ht⟩⟩

theorem mapError {f : ε → ε'} (hf : ∀ s, lost s → lost' (f s)) (h : EndsAlike lost x y) :
    EndsAlike lost' (x.mapError f) (y.mapError f) := by
  rcases h with rfl | ⟨⟨s, rfl, hs⟩, ⟨t, rfl, ht⟩⟩
  · exact refl _
  · exact .inr ⟨⟨f s, rfl, hf s hs⟩, ⟨f t, rfl, hf t ht⟩⟩

theorem under {x y : Except Stop α} (step : Step) (h : EndsAlike Stop.IsEndless x y) :
    EndsAlike Stop.IsEndless (BotApi.under step x) (BotApi.under step y) := by
  refine h.mapError ?_
  rintro s ⟨name, rfl⟩
  exact ⟨name, rfl⟩

theorem orNext {x y x' y' : Except Stop α} (h : EndsAlike Stop.IsEndless x y)
    (h' : EndsAlike Stop.IsEndless x' y') :
    EndsAlike Stop.IsEndless (Request.orNext x x') (Request.orNext y y') := by
  rcases h with rfl | ⟨⟨_, rfl, hs⟩, ⟨_, rfl, ht⟩⟩
  · cases x with
    | ok a => exact refl _
    | error s =>
      cases s with
      | mismatch m => exact h'
      | fault f => exact refl _
  · obtain ⟨name, rfl⟩ := hs
    obtain ⟨other, rfl⟩ := ht
    exact .inr ⟨⟨_, rfl, name, rfl⟩, ⟨_, rfl, other, rfl⟩⟩

end EndsAlike

/-! ## The first option that does not refuse -/

/-- The result of the first option that does not refuse, or else the refusal of the whole. -/
def firstOf {α : Type} (out : TypeExpr → Except Stop α) (refusal : Stop) : List TypeExpr → Except Stop α
  | [] => .error refusal
  | e :: rest => orNext (out e) (firstOf out refusal rest)

section

variable {α : Type} {out out' : TypeExpr → Except Stop α} {refusal : Stop} {options : List TypeExpr}

theorem firstOf_congr (h : ∀ e ∈ options, out e = out' e) :
    firstOf out refusal options = firstOf out' refusal options := by
  induction options with
  | nil => rfl
  | cons e rest ih =>
    obtain ⟨hfirst, hrest⟩ := List.forall_mem_cons.1 h
    rw [firstOf, firstOf, hfirst, ih hrest]

theorem firstOf_endsAlike (h : ∀ e ∈ options, EndsAlike Stop.IsEndless (out e) (out' e)) :
    EndsAlike Stop.IsEndless (firstOf out refusal options) (firstOf out' refusal options) := by
  induction options with
  | nil => exact .refl _
  | cons e rest ih =>
    obtain ⟨hfirst, hrest⟩ := List.forall_mem_cons.1 h
    exact hfirst.orNext (ih hrest)

/-- A first option that was lost for want of openings loses the whole. -/
theorem isEndless_orNext {x other : Except Stop α} (h : IsEndless x) : IsEndless (orNext x other) := by
  obtain ⟨_, rfl, name, rfl⟩ := h
  exact ⟨_, rfl, name, rfl⟩

/-- Options of which none is lost that the result depends on have that result whatever becomes of the lost ones. -/
theorem firstOf_eq (h : ∀ e ∈ options, ¬ IsEndless (out e) → out' e = out e)
    (hnot : ¬ IsEndless (firstOf out refusal options)) :
    firstOf out' refusal options = firstOf out refusal options := by
  induction options with
  | nil => rfl
  | cons e rest ih =>
    obtain ⟨hfirst, hrest⟩ := List.forall_mem_cons.1 h
    rw [firstOf] at hnot ⊢
    rw [firstOf, hfirst fun he => hnot (isEndless_orNext he)]
    cases hout : out e with
    | ok a => rfl
    | error s =>
      cases s with
      | fault f => rfl
      | mismatch m =>
        -- the first option refuses, and the result is that of the rest
        rw [hout] at hnot
        exact ih hrest hnot

/-- Where a result is lost and comes back, that of an option does. -/
theorem exists_of_firstOf (h : ∀ e ∈ options, ¬ IsEndless (out e) → out' e = out e)
    (hlost : IsEndless (firstOf out refusal options)) (hback : ¬ IsEndless (firstOf out' refusal options)) :
    ∃ e ∈ options, IsEndless (out e) ∧ ¬ IsEndless (out' e) := by
  by_contra hnone
  push Not at hnone
  refine hback ?_
  have hsame : ∀ e ∈ options, EndsAlike Stop.IsEndless (out e) (out' e) := by
    intro e he
    by_cases hout : IsEndless (out e)
    · exact .inr ⟨hout, hnone e he hout⟩
    · exact .inl (h e he hout).symm
  have hends : EndsAlike Stop.IsEndless (firstOf out refusal options) (firstOf out' refusal options) :=
    firstOf_endsAlike hsame
  rcases hends with heq | ⟨-, hends⟩
  · rwa [← heq]
  · exact hends

end

/-! ## Searches -/

/-- Whether expressions are closed under what they lead to, and name types that there are. -/
structure IsScope (types : Table TypeBinding) (scope : TypeExpr → Prop) : Prop where
  item {item : TypeExpr} (h : scope (.array item)) : scope item
  option {options : List TypeExpr} {e : TypeExpr} (h : scope (.union options)) (he : e ∈ options) : scope e
  named {name : String} (h : scope (.ref name)) : ∃ type, types.find? name = some type
  field {name : String} {type : TypeBinding} (h : scope (.ref name)) (find : types.find? name = some type)
    {f : FieldBinding} (hf : f ∈ type.fields) : scope f.type
  variant {name : String} {type : TypeBinding} (h : scope (.ref name)) (find : types.find? name = some type)
    {e : TypeExpr} (he : e ∈ type.variants.map TypeExpr.ref) : scope e

/-- Whether the results for expressions, given a number of openings, are those of a search. Openings are used up by
abstract types alone. -/
structure IsSearch (types : Table TypeBinding) {α : Type} (refusal : TypeExpr → Stop)
    (out : Nat → TypeExpr → Except Stop α) : Prop where
  primitive (p : Primitive) (n m : Nat) : out n (.primitive p) = out m (.primitive p)
  array (item : TypeExpr) (n m : Nat) : out n (.array item) = out m (.array item)
  union (options : List TypeExpr) (n : Nat) :
    out n (.union options) = firstOf (out n) (refusal (.union options)) options
  unknown {name : String} (find : types.find? name = none) (n m : Nat) : out n (.ref name) = out m (.ref name)
  concrete {name : String} {type : TypeBinding} (find : types.find? name = some type)
    (concrete : type.isAbstract = false) (n m : Nat) : out n (.ref name) = out m (.ref name)
  endless {name : String} {type : TypeBinding} (find : types.find? name = some type)
    (abstract : type.isAbstract = true) : out 0 (.ref name) = .error (.fault (.endless name))
  opened {name : String} {type : TypeBinding} (find : types.find? name = some type)
    (abstract : type.isAbstract = true) (n : Nat) :
    out (n + 1) (.ref name) = firstOf (out n) (refusal (.ref name)) (type.variants.map .ref)

namespace IsSearch

variable {types : Table TypeBinding} {α : Type} {refusal : TypeExpr → Stop}
  {out : Nat → TypeExpr → Except Stop α} {scope : TypeExpr → Prop}

/-- One more opening makes no difference to a search that has enough. -/
theorem eq_succ (search : IsSearch types refusal out) {n : Nat} {e : TypeExpr} (h : ¬ IsEndless (out n e)) :
    out (n + 1) e = out n e := by
  -- the value at which the search takes place does not matter
  refine conversion_induction (motive := fun n e _ => ¬ IsEndless (out n e) → out (n + 1) e = out n e)
    ?primitive ?array ?union ?ref n e .null h
  case primitive => exact fun n p _ _ => search.primitive p (n + 1) n
  case array => exact fun n item _ _ _ => search.array item (n + 1) n
  case union =>
    intro n options _ ih h
    rw [search.union] at h
    rw [search.union, search.union]
    exact firstOf_eq ih h
  case ref =>
    intro n name _ _ fewer h
    cases htype : types.find? name with
    | none => exact search.unknown htype (n + 1) n
    | some type =>
      cases ha : type.isAbstract with
      | false => exact search.concrete htype ha (n + 1) n
      | true =>
        cases n with
        | zero => exact absurd ⟨_, search.endless htype ha, name, rfl⟩ h
        | succ n =>
          rw [search.opened htype ha] at h
          rw [search.opened htype ha, search.opened htype ha]
          exact firstOf_eq (fun e _ => fewer n (Nat.lt_succ_self n) e) h

/-- More openings make no difference to a search that has enough. -/
theorem eq_of_le (search : IsSearch types refusal out) {n m : Nat} (hle : n ≤ m) {e : TypeExpr}
    (h : ¬ IsEndless (out n e)) : out m e = out n e := by
  induction m, hle using Nat.le_induction with
  | base => rfl
  | succ m _ ih =>
    rw [← ih] at h
    rw [search.eq_succ h, ih]

/-- A search for which a number of openings is just enough has opened as many different types: each of them needed a
different number. -/
theorem exists_names (search : IsSearch types refusal out) (closed : IsScope types scope) {n : Nat} {e : TypeExpr}
    (he : scope e) (hlost : IsEndless (out n e)) (hback : ¬ IsEndless (out (n + 1) e)) :
    ∃ names : List String, names.Nodup ∧ names.length = n + 1 ∧ (∀ name ∈ names, scope (.ref name)) ∧
      ∀ name ∈ names, ¬ IsEndless (out (n + 1) (.ref name)) := by
  refine conversion_induction
    (motive := fun n e _ => scope e → IsEndless (out n e) → ¬ IsEndless (out (n + 1) e) →
      ∃ names : List String, names.Nodup ∧ names.length = n + 1 ∧ (∀ name ∈ names, scope (.ref name)) ∧
        ∀ name ∈ names, ¬ IsEndless (out (n + 1) (.ref name)))
    ?primitive ?array ?union ?ref n e .null he hlost hback
  case primitive =>
    intro n p _ _ hlost hback
    rw [search.primitive p (n + 1) n] at hback
    exact absurd hlost hback
  case array =>
    intro n item _ _ _ hlost hback
    rw [search.array item (n + 1) n] at hback
    exact absurd hlost hback
  case union =>
    intro n options _ ih hscope hlost hback
    rw [search.union] at hlost hback
    obtain ⟨e, he, hlost, hback⟩ := exists_of_firstOf (fun e _ => search.eq_succ) hlost hback
    exact ih e he (closed.option hscope he) hlost hback
  case ref =>
    intro n name _ _ fewer hscope hlost hback
    obtain ⟨type, htype⟩ := closed.named hscope
    cases ha : type.isAbstract with
    | false =>
      rw [search.concrete htype ha (n + 1) n] at hback
      exact absurd hlost hback
    | true =>
      cases n with
      | zero =>
        refine ⟨[name], List.nodup_singleton name, rfl, ?_, ?_⟩
        · simpa using hscope
        · simpa using hback
      | succ n =>
        have hlost' := hlost
        have hback' := hback
        rw [search.opened htype ha] at hlost' hback'
        obtain ⟨e, he, hlost', hback'⟩ := exists_of_firstOf (fun e _ => search.eq_succ) hlost' hback'
        obtain ⟨names, hnodup, hlength, hnames, hfound⟩ :=
          fewer n (Nat.lt_succ_self n) e (closed.variant hscope htype he) hlost' hback'
        -- those that the variant opened needed fewer openings than the type itself
        have hnew : name ∉ names := fun hm => hfound name hm hlost
        refine ⟨name :: names, List.nodup_cons.2 ⟨hnew, hnodup⟩, by rw [List.length_cons, hlength],
          List.forall_mem_cons.2 ⟨hscope, hnames⟩, List.forall_mem_cons.2 ⟨hback, fun other hm => ?_⟩⟩
        rw [search.eq_succ (hfound other hm)]
        exact hfound other hm

/-- Where there are no more types to open than openings, further openings make no difference to how a search ends. -/
theorem endsAlike_of_le (search : IsSearch types refusal out) (closed : IsScope types scope) {n m : Nat} (hle : n ≤ m)
    (hn : ∀ names : List String, names.Nodup → (∀ name ∈ names, scope (.ref name)) → names.length ≤ n)
    {e : TypeExpr} (he : scope e) : EndsAlike Stop.IsEndless (out n e) (out m e) := by
  by_cases hlost : IsEndless (out n e)
  · refine .inr ⟨hlost, ?_⟩
    change IsEndless (out m e)
    induction m, hle using Nat.le_induction with
    | base => exact hlost
    | succ m hle ih =>
      by_contra hback
      obtain ⟨names, hnodup, hlength, hnames, -⟩ := search.exists_names closed he ih hback
      have hbound := hn names hnodup hnames
      omega
  · exact .inl (search.eq_of_le hle hlost).symm

/-- All searches with an opening for each type that can come up end alike. -/
theorem endsAlike (search : IsSearch types refusal out) (closed : IsScope types scope) {n m : Nat}
    (hn : ∀ names : List String, names.Nodup → (∀ name ∈ names, scope (.ref name)) → names.length ≤ n)
    (hm : ∀ names : List String, names.Nodup → (∀ name ∈ names, scope (.ref name)) → names.length ≤ m)
    {e : TypeExpr} (he : scope e) : EndsAlike Stop.IsEndless (out n e) (out m e) := by
  rcases Nat.le_total n m with hle | hle
  · exact search.endsAlike_of_le closed hle hn he
  · exact (search.endsAlike_of_le closed hle hm he).symm

end IsSearch

end BotApi
