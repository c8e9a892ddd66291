import BotApi.Bindings.Basic
import Mathlib.Data.Set.Card

/-!
# Abstract types that do not lead back to themselves

An abstract type is opened into its variants, which may be abstract again. A conversion allows as many openings
at one value as there are types. That is enough if no type comes back to itself: the types on the way are all
different, and so there is one more opening left than there are types that were not on it.

## Main results

* `HasRoom.variants` — where there is room for an abstract type there is room for its variants.
* `founded_of_rank` — types whose variants have a lower rank do not lead back to themselves.
* `variantRank_lt` — conversely, if none leads back to itself, a variant leads to fewer types than what it is one of.
-/

namespace BotApi

/-- Whether a type has another one among its variants. -/
def HasVariant (types : Table TypeBinding) (name variant : String) : Prop :=
  ∃ type, types.find? name = some type ∧ variant ∈ type.variants

/-- No type reaches itself through variants. -/
def Founded (types : Table TypeBinding) : Prop := ∀ name, ¬ Relation.TransGen (HasVariant types) name name

/-- Whether so many openings are enough for an expression: at a named type, together with the different types that
led to it. -/
def HasRoom (types : Table TypeBinding) (opens : Nat) : TypeExpr → Prop
  | .ref name =>
    ∃ seen : List String, seen.Nodup ∧
      (∀ s ∈ seen, s ∈ types.names ∧ Relation.TransGen (HasVariant types) s name) ∧
      types.size ≤ seen.length + opens
  | _ => types.size ≤ opens

variable {types : Table TypeBinding} {opens : Nat}

/-- With an opening for each type there is room for everything. -/
theorem hasRoom_of_size_le (h : types.size ≤ opens) (e : TypeExpr) : HasRoom types opens e := by
  cases e with
  | ref name => exact ⟨[], List.nodup_nil, by simp, by rw [List.length_nil]; omega⟩
  | _ => exact h

namespace HasRoom

theorem option {options : List TypeExpr} (h : HasRoom types opens (.union options)) (e : TypeExpr) :
    HasRoom types opens e :=
  hasRoom_of_size_le h e

/-- A named type has an opening left, and after it there is room for each variant. -/
theorem variants (founded : Founded types) {name : String} {type : TypeBinding}
    (htype : types.find? name = some type) (h : HasRoom types opens (.ref name)) :
    ∃ fewer, opens = fewer + 1 ∧ ∀ variant ∈ type.variants, HasRoom types fewer (.ref variant) := by
  obtain ⟨seen, hnodup, hseen, hsize⟩ := h
  -- the name itself is not among those that led to it
  have hnew : name ∉ seen := fun hm => founded name (hseen name hm).2
  have hnodup' : (name :: seen).Nodup := List.nodup_cons.2 ⟨hnew, hnodup⟩
  have hsubset : name :: seen ⊆ types.names := by
    intro s hs
    rcases List.mem_cons.1 hs with rfl | hs
    · exact Table.mem_names_of_find? htype
    · exact (hseen s hs).1
  -- there are not more names on the way than types
  have hlength := hnodup'.length_le_of_subset hsubset
  rw [List.length_cons, Table.length_names] at hlength
  refine ⟨opens - 1, by omega, fun variant hv => ?_⟩
  refine ⟨name :: seen, hnodup', fun s hs => ?_, by rw [List.length_cons]; omega⟩
  -- each name on the way leads to the variant, the last one in one step
  rcases List.mem_cons.1 hs with rfl | hs
  · exact ⟨hsubset (List.mem_cons_self ..), .single ⟨type, htype, hv⟩⟩
  · exact ⟨(hseen s hs).1, .tail (hseen s hs).2 ⟨type, htype, hv⟩⟩

end HasRoom

/-- A rank that goes down from a type to its variants keeps it from coming back. -/
theorem founded_of_rank (rank : String → Nat)
    (h : ∀ e ∈ types.entries, ∀ variant ∈ e.2.variants, rank variant < rank e.1) : Founded types := by
  have hstep : ∀ a b, HasVariant types a b → rank b < rank a := by
    rintro a b ⟨type, htype, hb⟩
    exact h (a, type) (Table.mem_of_find? htype) b hb
  -- along a path the rank only goes down
  have hpath : ∀ a b, Relation.TransGen (HasVariant types) a b → rank b < rank a := by
    intro a b hab
    induction hab with
    | single hb => exact hstep _ _ hb
    | tail _ hc ih => exact Nat.lt_trans (hstep _ _ hc) ih
  exact fun name hname => Nat.lt_irrefl _ (hpath name name hname)

/-- The rank of a type in the order of variants: how many types it leads to through them. -/
noncomputable def variantRank (types : Table TypeBinding) (name : String) : Nat :=
  {variant | Relation.TransGen (HasVariant types) name variant}.ncard

/-- Where no type comes back to itself, a variant has a lower rank than a type that has it. -/
theorem variantRank_lt (founded : Founded types) {name variant : String} (h : HasVariant types name variant) :
    variantRank types variant < variantRank types name := by
  -- whatever a type leads to is written down as a variant somewhere
  have hfinite : {other | Relation.TransGen (HasVariant types) name other}.Finite := by
    refine (List.finite_toSet (types.entries.flatMap fun e => e.2.variants)).subset fun other hother => ?_
    obtain ⟨last, -, type, htype, hlast⟩ := Relation.TransGen.tail'_iff.1 hother
    exact List.mem_flatMap.2 ⟨(last, type), Table.mem_of_find? htype, hlast⟩
  have hsubset : {other | Relation.TransGen (HasVariant types) variant other} ⊆
      {other | Relation.TransGen (HasVariant types) name other} := fun other hother => .head h hother
  -- the type leads to its variant, and the variant does not
  have hstrict := (Set.ssubset_iff_of_subset hsubset).2 ⟨variant, .single h, founded variant⟩
  exact Set.ncard_lt_ncard hstrict hfinite

mutual

/-- The rank of an expression: that of the type it names, or the highest among its options. -/
noncomputable def TypeExpr.rank (types : Table TypeBinding) : TypeExpr → Nat
  | .primitive _ | .array _ => 0
  | .ref name => variantRank types name
  | .union options => TypeExpr.optionsRank types options

/-- The highest rank among options. -/
noncomputable def TypeExpr.optionsRank (types : Table TypeBinding) : List TypeExpr → Nat
  | [] => 0
  | e :: rest => max (TypeExpr.rank types e) (TypeExpr.optionsRank types rest)

end

theorem TypeExpr.rank_le_of_mem {e : TypeExpr} {options : List TypeExpr} (he : e ∈ options) :
    e.rank types ≤ (TypeExpr.union options).rank types := by
  rw [TypeExpr.rank]
  induction options with
  | nil => cases he
  | cons first rest ih =>
    rw [TypeExpr.optionsRank]
    rcases List.mem_cons.1 he with rfl | he
    · exact Nat.le_max_left _ _
    · have hle := ih he
      omega

end BotApi
