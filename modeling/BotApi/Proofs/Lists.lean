import Mathlib.Data.List.Forall2

/-!
# Lists

The first item of a list that has a property, and lists whose items belong together pair by pair. Lists of pairs stand
for mappings; `Paired` relates two pairs under the same key. At the end, lists that are made item by item, or joined.

## Main results

* `IsFirst.unique` — there is one first item at most.
* `IsFirst.eq_of_holds` — the first items that have either of two properties are the same if each has both.
* `split_unique` — what stands before the first item that lacks a property is determined too.
* `forall₂_paired_iff`, `lookup_rel` — lists of pairs under the same keys, and what is found in them.
* `map_intercalate`, `forall_mem_intercalate` — lists joined with something between them.
-/

namespace BotApi

section

variable {α : Type} {P Q : α → Prop} {items : List α} {a b : α}

/-- Whether an item is the first that has a property. -/
def IsFirst (P : α → Prop) (items : List α) (a : α) : Prop :=
  ∃ before after, items = before ++ a :: after ∧ P a ∧ ∀ b ∈ before, ¬ P b

namespace IsFirst

theorem mem (h : IsFirst P items a) : a ∈ items := by
  obtain ⟨before, after, rfl, -⟩ := h
  simp

theorem holds (h : IsFirst P items a) : P a := by
  obtain ⟨before, after, -, ha, -⟩ := h
  exact ha

theorem head (h : P a) (rest : List α) : IsFirst P (a :: rest) a := ⟨[], rest, rfl, h, by simp⟩

theorem tail (hb : ¬ P b) (h : IsFirst P items a) : IsFirst P (b :: items) a := by
  obtain ⟨before, after, rfl, ha, hbefore⟩ := h
  exact ⟨b :: before, after, rfl, ha, List.forall_mem_cons.2 ⟨hb, hbefore⟩⟩

theorem cons_iff : IsFirst P (b :: items) a ↔ (P b ∧ a = b) ∨ (¬ P b ∧ IsFirst P items a) := by
  constructor
  · rintro ⟨before, after, he, ha, hbefore⟩
    cases before with
    | nil =>
      obtain ⟨rfl, -⟩ := List.cons.inj he
      exact .inl ⟨ha, rfl⟩
    | cons first before =>
      obtain ⟨rfl, rfl⟩ := List.cons.inj he
      obtain ⟨hb, hbefore⟩ := List.forall_mem_cons.1 hbefore
      exact .inr ⟨hb, before, after, rfl, ha, hbefore⟩
  · rintro (⟨hb, rfl⟩ | ⟨hb, h⟩)
    · exact head hb items
    · exact tail hb h

/-- Two items that each have both properties, one the first to have the one and the other the first to have the
other, are the same. -/
theorem eq_of_holds (ha : IsFirst P items a) (hb : IsFirst Q items b) (hQa : Q a) (hPb : P b) : a = b := by
  induction items with
  | nil => cases ha.mem
  | cons c rest ih =>
    rcases cons_iff.1 ha with ⟨hPc, rfl⟩ | ⟨hPc, ha⟩
    · rcases cons_iff.1 hb with ⟨-, hbc⟩ | ⟨hQc, -⟩
      · exact hbc.symm
      · exact absurd hQa hQc
    · rcases cons_iff.1 hb with ⟨-, rfl⟩ | ⟨-, hb⟩
      · exact absurd hPb hPc
      · exact ih ha hb

theorem unique (ha : IsFirst P items a) (hb : IsFirst P items b) : a = b := eq_of_holds ha hb ha.holds hb.holds

end IsFirst

/-- A list is split in one way at the first item that lacks a property. -/
theorem split_unique {before before' after after' : List α} (h : before ++ a :: after = before' ++ b :: after')
    (hbefore : ∀ c ∈ before, P c) (ha : ¬ P a) (hbefore' : ∀ c ∈ before', P c) (hb : ¬ P b) :
    before = before' ∧ a = b ∧ after = after' := by
  induction before generalizing before' with
  | nil =>
    cases before' with
    | nil =>
      obtain ⟨hab, hafter⟩ := List.cons.inj h
      exact ⟨rfl, hab, hafter⟩
    | cons c before' =>
      obtain ⟨rfl, -⟩ := List.cons.inj h
      exact absurd (hbefore' a (List.mem_cons_self ..)) ha
  | cons c before ih =>
    cases before' with
    | nil =>
      obtain ⟨rfl, -⟩ := List.cons.inj h
      exact absurd (hbefore c (List.mem_cons_self ..)) hb
    | cons c' before' =>
      obtain ⟨rfl, hrest⟩ := List.cons.inj h
      obtain ⟨rfl, hsame⟩ :=
        ih hrest (List.forall_mem_cons.1 hbefore).2 (List.forall_mem_cons.1 hbefore').2
      exact ⟨rfl, hsame⟩

theorem find?_eq_some_iff_isFirst {p : α → Bool} (h : ∀ a, p a = true ↔ P a) :
    items.find? p = some a ↔ IsFirst P items a := by
  rw [List.find?_eq_some_iff_append, IsFirst, h]
  constructor
  · rintro ⟨ha, before, after, he, hbefore⟩
    refine ⟨before, after, he, ha, fun b hb hP => ?_⟩
    have hnot := hbefore b hb
    rw [(h b).2 hP] at hnot
    cases hnot
  · rintro ⟨before, after, he, ha, hbefore⟩
    refine ⟨ha, before, after, he, fun b hb => ?_⟩
    rw [Bool.not_eq_true', Bool.eq_false_iff]
    exact fun hp => hbefore b hb ((h b).1 hp)

theorem find?_eq_none_iff_forall {p : α → Bool} (h : ∀ a, p a = true ↔ P a) :
    items.find? p = none ↔ ∀ a ∈ items, ¬ P a := by
  rw [List.find?_eq_none]
  exact forall₂_congr fun a _ => not_congr (h a)

end

/-- In whatever order the items are, one of them is found or none. -/
theorem find?_eq_none_iff_of_perm {α : Type} {items moved : List α} (order : items.Perm moved) (p : α → Bool) :
    items.find? p = none ↔ moved.find? p = none := by
  rw [List.find?_eq_none, List.find?_eq_none]
  exact forall_congr' fun a => by rw [order.mem_iff]

/-! ## Pairs -/

section

variable {α β : Type} {R S : α → β → Prop} {as : List α} {bs : List β}

theorem exists_of_mem_left (h : List.Forall₂ R as bs) {a : α} (ha : a ∈ as) : ∃ b ∈ bs, R a b := by
  induction h with
  | nil => cases ha
  | cons hfirst _ ih =>
    rcases List.mem_cons.1 ha with rfl | hr
    · exact ⟨_, List.mem_cons_self .., hfirst⟩
    · obtain ⟨b, hb, hab⟩ := ih hr
      exact ⟨b, List.mem_cons_of_mem _ hb, hab⟩

theorem exists_of_mem_right (h : List.Forall₂ R as bs) {b : β} (hb : b ∈ bs) : ∃ a ∈ as, R a b :=
  exists_of_mem_left h.flip hb

theorem forall₂_imp_of_mem (h : List.Forall₂ R as bs) (himp : ∀ a ∈ as, ∀ b ∈ bs, R a b → S a b) :
    List.Forall₂ S as bs := by
  induction h with
  | nil => exact .nil
  | @cons a b as bs hab _ ih =>
    have hrest := ih fun a' ha b' hb => himp a' (List.mem_cons_of_mem _ ha) b' (List.mem_cons_of_mem _ hb)
    exact .cons (himp a (List.mem_cons_self ..) b (List.mem_cons_self ..) hab) hrest

/-- What is said of both items of each pair may be said of the first ones, if it comes to the same. -/
theorem forall₂_iff_forall_left (h : List.Forall₂ R as bs) {P : α → Prop}
    (hiff : ∀ a ∈ as, ∀ b ∈ bs, R a b → (S a b ↔ P a)) : List.Forall₂ S as bs ↔ ∀ a ∈ as, P a := by
  induction h with
  | nil => simp
  | @cons a b as bs hab _ ih =>
    have ih := ih fun a' ha b' hb => hiff a' (List.mem_cons_of_mem _ ha) b' (List.mem_cons_of_mem _ hb)
    have hfirst := hiff a (List.mem_cons_self ..) b (List.mem_cons_self ..) hab
    rw [List.forall₂_cons, List.forall_mem_cons, hfirst, ih]

/-- What is said of all first items may be said of all second ones, if it comes to the same for each pair. -/
theorem forall_mem_iff_of_forall₂ (h : List.Forall₂ R as bs) {P : α → Prop} {Q : β → Prop}
    (hiff : ∀ a b, R a b → (P a ↔ Q b)) : (∀ a ∈ as, P a) ↔ ∀ b ∈ bs, Q b := by
  induction h with
  | nil => simp
  | cons hab _ ih => rw [List.forall_mem_cons, List.forall_mem_cons, hiff _ _ hab, ih]

/-- Pairs are the same if their first components are, and if these determine the second ones. -/
theorem eq_of_map_fst_eq {pairs others : List (α × β)} (h : pairs.map Prod.fst = others.map Prod.fst)
    (hsame : ∀ a b b', (a, b) ∈ pairs → (a, b') ∈ others → b = b') : pairs = others := by
  induction pairs generalizing others with
  | nil =>
    cases others with
    | nil => rfl
    | cons => cases h
  | cons e rest ih =>
    cases others with
    | nil => cases h
    | cons e' more =>
      obtain ⟨a, b⟩ := e
      obtain ⟨a', b'⟩ := e'
      obtain ⟨rfl, hrest⟩ := List.cons.inj h
      rw [hsame a b b' (List.mem_cons_self ..) (List.mem_cons_self ..), ih hrest]
      exact fun c d d' hd hd' => hsame c d d' (List.mem_cons_of_mem _ hd) (List.mem_cons_of_mem _ hd')

end

/-! ## Lists of pairs -/

section

variable {κ α β : Type} {R : α → β → Prop} {pairs : List (κ × α)} {others : List (κ × β)}

/-- Whether two pairs have the same first component and related second ones. -/
def Paired (R : α → β → Prop) (e : κ × α) (f : κ × β) : Prop := e.1 = f.1 ∧ R e.2 f.2

theorem forall₂_paired_iff :
    List.Forall₂ (Paired R) pairs others ↔
      pairs.map Prod.fst = others.map Prod.fst ∧ List.Forall₂ R (pairs.map Prod.snd) (others.map Prod.snd) := by
  induction pairs generalizing others with
  | nil => cases others <;> simp
  | cons e rest ih =>
    cases others with
    | nil => simp
    | cons f more =>
      rw [List.forall₂_cons, ih, List.map_cons, List.map_cons, List.map_cons, List.map_cons, List.cons.injEq,
        List.forall₂_cons, Paired]
      exact and_and_and_comm

/-- Lists of pairs with the same first components have related values, or none, under each of them. -/
theorem lookup_rel [DecidableEq κ] (h : List.Forall₂ (Paired R) pairs others) (key : κ) :
    Option.Rel R (pairs.lookup key) (others.lookup key) := by
  induction h with
  | nil => exact .none
  | @cons e f rest more hpaired _ ih =>
    obtain ⟨k, a⟩ := e
    obtain ⟨k', b⟩ := f
    obtain ⟨hkeys, hab⟩ := hpaired
    have hkeys : k = k' := hkeys
    subst hkeys
    rw [List.lookup_cons, List.lookup_cons]
    cases key == k with
    | true => exact .some hab
    | false => exact ih

end

/-! ## Lists made from others -/

section

variable {α β : Type}

/-- Lists that a function makes the same are the same if it tells their items apart. -/
theorem eq_of_map_eq {f : α → β} {as bs : List α} (hinj : ∀ a ∈ as, ∀ b ∈ bs, f a = f b → a = b)
    (h : as.map f = bs.map f) : as = bs := by
  induction as generalizing bs with
  | nil => exact (List.map_eq_nil_iff.1 h.symm).symm
  | cons a as ih =>
    obtain ⟨b, rest, rfl, hfirst, hrest⟩ := List.map_eq_cons_iff.1 h.symm
    have hmore : as = rest :=
      ih (fun a ha b hb => hinj a (List.mem_cons_of_mem _ ha) b (List.mem_cons_of_mem _ hb)) hrest.symm
    rw [hinj a (List.mem_cons_self ..) b (List.mem_cons_self ..) hfirst.symm, hmore]

theorem map_intercalate (f : α → β) (between : List α) (parts : List (List α)) :
    (between.intercalate parts).map f = (between.map f).intercalate (parts.map (List.map f)) := by
  induction parts with
  | nil => rfl
  | cons part parts ih =>
    cases parts with
    | nil => rw [List.map_cons, List.map_nil, List.intercalate_singleton, List.intercalate_singleton]
    | cons next parts =>
      rw [List.map_cons, List.map_cons, List.intercalate_cons_cons, List.intercalate_cons_cons, ← List.map_cons, ← ih,
        List.map_append, List.map_append]

/-- What holds of the parts and of what is between them holds of the whole. -/
theorem forall_mem_intercalate {P : α → Prop} {between : List α} {parts : List (List α)}
    (hbetween : ∀ a ∈ between, P a) (hparts : ∀ part ∈ parts, ∀ a ∈ part, P a) :
    ∀ a ∈ between.intercalate parts, P a := by
  induction parts with
  | nil => simp
  | cons part parts ih =>
    obtain ⟨hfirst, hrest⟩ := List.forall_mem_cons.1 hparts
    cases parts with
    | nil => rwa [List.intercalate_singleton]
    | cons next parts =>
      rw [List.intercalate_cons_cons, List.forall_mem_append, List.forall_mem_append]
      exact ⟨⟨hfirst, hbetween⟩, ih hrest⟩

end

end BotApi
