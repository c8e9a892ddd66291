import BotApi.TypeExpr.Reading
import Mathlib.Data.List.DropRight

/-!
# The parts of a text

What stands between two separators has no separator in it. That remains so without the white space at its ends, and
without the words of an array before it: a part that is read like a text is not taken apart again. What is read from
it is a name under some arrays.

## Main results

* `isWhole_of_mem_splitOr` — no separator begins in a part of a text.
* `splitOr_of_isWhole` — a text in which no separator begins is its own only part.
* `isAtomic_ofAtom` — what is read from a part is a name under arrays.
-/

namespace BotApi.TypeExpr

open Unicode (isBlank trim trimRight)

/-! ## Separators in parts -/

/-- Whether no separator begins in a text. -/
def IsWhole (cs : List Char) : Prop := ∀ u, u <:+ cs → afterOr? u = none

/-- A separator remains one whatever comes after it. -/
theorem afterOr?_append_ne_none {u tail : List Char} (h : afterOr? u = some tail) (more : List Char) :
    afterOr? (u ++ more) ≠ none := by
  unfold afterOr? at h
  split at h
  · cases h
  · next c rest =>
    split at h
    · next hc =>
      split at h
      · next b after hdrop =>
        split at h
        · next hb =>
          have hmore : (c :: (rest ++ more)).dropWhile isBlank = 'o' :: 'r' :: b :: (after ++ more) := by
            rw [← List.cons_append, List.dropWhile_append, hdrop]
            rfl
          rw [List.cons_append, afterOr?, if_pos hc, hmore]
          simp only [hb, if_true, ne_eq, reduceCtorEq, not_false_eq_true]
        · cases h
      · cases h
    · cases h

theorem IsWhole.of_infix {part cs : List Char} (h : IsWhole cs) (hpart : part <:+: cs) : IsWhole part := by
  rintro u ⟨before, rfl⟩
  obtain ⟨first, last, rfl⟩ := hpart
  cases hu : afterOr? u with
  | none => rfl
  | some tail => exact absurd (h (u ++ last) ⟨first ++ before, by simp⟩) (afterOr?_append_ne_none hu last)

theorem isPrefix_trimRight (cs : List Char) : trimRight cs <+: cs := by
  have hsuffix : cs.reverse.dropWhile isBlank <:+ cs.reverse := List.dropWhile_suffix isBlank
  rwa [← List.reverse_suffix, trimRight, List.reverse_reverse]

theorem IsWhole.trim {cs : List Char} (h : IsWhole cs) : IsWhole (trim cs) :=
  h.of_infix ((isPrefix_trimRight _).isInfix.trans (List.dropWhile_suffix isBlank).isInfix)

theorem IsWhole.of_afterArray? {cs rest : List Char} (h : IsWhole cs) (hrest : afterArray? cs = some rest) :
    IsWhole rest := by
  unfold afterArray? at hrest
  split at hrest
  · cases hrest
    exact h.of_infix (List.drop_suffix ..).isInfix
  · cases hrest

/-- A text in which no separator begins is its own only part. -/
theorem splitOr_of_isWhole {seen cs : List Char} (h : IsWhole cs) : splitOr seen cs = [seen.reverse ++ cs] := by
  induction cs generalizing seen with
  | nil => rw [splitOr_nil, List.append_nil]
  | cons c rest ih =>
    rw [splitOr_of_none (h _ List.suffix_rfl), ih (h.of_infix (List.suffix_cons c rest).isInfix), List.reverse_cons,
      List.append_assoc, List.singleton_append]

/-- No separator begins in a part, if none was found to begin in what was seen of the first one. -/
theorem isWhole_of_mem_splitOr {seen cs part : List Char} (hpart : part ∈ splitOr seen cs)
    (hseen : ∀ u, u ≠ [] → u <:+ seen.reverse → afterOr? (u ++ cs) = none) : IsWhole part := by
  induction seen, cs using splitOr.induct with
  | case1 seen =>
    rw [splitOr_nil, List.mem_singleton] at hpart
    subst hpart
    intro u hu
    by_cases hnil : u = []
    · rw [hnil]
      rfl
    · rw [← hseen u hnil hu, List.append_nil]
  | case2 seen c rest tail htail ih =>
    rw [splitOr_of_some htail, List.mem_cons] at hpart
    rcases hpart with rfl | hpart
    · intro u hu
      by_cases hnil : u = []
      · rw [hnil]
        rfl
      · cases hafter : afterOr? u with
        | none => rfl
        | some more => exact absurd (hseen u hnil hu) (afterOr?_append_ne_none hafter _)
    · refine ih hpart fun u hnil hu => absurd (List.suffix_nil.1 hu) hnil
  | case3 seen c rest hnone ih =>
    rw [splitOr_of_none hnone] at hpart
    refine ih hpart fun u hnil hu => ?_
    rw [List.reverse_cons, List.suffix_concat_iff] at hu
    obtain ⟨before, rfl, hbefore⟩ := hu.resolve_left hnil
    rw [List.append_assoc, List.singleton_append]
    by_cases hfirst : before = []
    · rw [hfirst]
      exact hnone
    · exact hseen before hfirst hbefore

/-! ## Parts by themselves -/

theorem splitOr_ne_nil (seen cs : List Char) : splitOr seen cs ≠ [] := by
  induction seen, cs using splitOr.induct with
  | case1 seen => simp [splitOr_nil]
  | case2 seen c rest tail h _ => simp [splitOr_of_some h]
  | case3 seen c rest h ih => rwa [splitOr_of_none h]

theorem eq_of_splitOr_eq_singleton {seen cs part : List Char} (h : splitOr seen cs = [part]) :
    part = seen.reverse ++ cs := by
  induction seen, cs using splitOr.induct with
  | case1 seen =>
    rw [splitOr_nil, List.singleton_inj] at h
    rw [← h, List.append_nil]
  | case2 seen c rest tail htail _ =>
    rw [splitOr_of_some htail, List.cons_eq_cons] at h
    exact absurd h.2 (splitOr_ne_nil [] tail)
  | case3 seen c rest hnone ih =>
    rw [splitOr_of_none hnone] at h
    rw [ih h, List.reverse_cons, List.append_assoc]
    rfl

theorem trim_trim (cs : List Char) : trim (trim cs) = trim cs := by
  have hleft : (trim cs).dropWhile isBlank = trim cs := by
    -- what is left of a text at the right begins like it
    have hprefix : trim cs <+: cs.dropWhile isBlank := isPrefix_trimRight _
    have hhead := List.head?_dropWhile_not isBlank cs
    cases htrim : trim cs with
    | nil => rfl
    | cons c rest =>
      obtain ⟨more, hmore⟩ := hprefix
      rw [← hmore, htrim] at hhead
      rw [List.dropWhile_cons, if_neg]
      simpa using hhead
  rw [trim, hleft, trim, trimRight, trimRight, List.reverse_reverse, List.dropWhile_idempotent]

theorem ofAtom_trim (cs : List Char) : ofAtom (trim cs) = ofAtom cs := by
  cases h : afterArray? (trim cs) with
  | some rest => rw [ofAtom_of_some h, ofAtom_of_some (by rwa [trim_trim])]
  | none => rw [ofAtom_of_none h, ofAtom_of_none (by rwa [trim_trim]), trim_trim]

/-! ## What is read from parts -/

/-- Whether an expression is a name under arrays. -/
inductive IsAtomic : TypeExpr → Prop
  | primitive (p : Primitive) : IsAtomic (.primitive p)
  | ref (name : String) : IsAtomic (.ref name)
  | array {item : TypeExpr} (h : IsAtomic item) : IsAtomic (.array item)

theorem isAtomic_named (name : String) : IsAtomic (named name) := by
  unfold named
  split
  · exact .primitive _
  · exact .ref _

theorem isAtomic_ofAtom (cs : List Char) : IsAtomic (ofAtom cs) := by
  induction cs using ofAtom.induct with
  | case1 cs rest h ih =>
    rw [ofAtom_of_some h]
    exact .array ih
  | case2 cs h =>
    rw [ofAtom_of_none h]
    exact isAtomic_named _

theorem isAtomic_of_mem_readAlternatives {text : String} {e : TypeExpr} (h : e ∈ readAlternatives text) :
    IsAtomic e := by
  obtain ⟨part, -, rfl⟩ := List.mem_map.1 h
  exact isAtomic_ofAtom part

theorem IsAtomic.alternatives_eq {e : TypeExpr} (h : IsAtomic e) : e.alternatives = [e] := by
  cases h <;> rfl

theorem flatMap_alternatives {options : List TypeExpr} (h : ∀ o ∈ options, IsAtomic o) :
    options.flatMap alternatives = options := by
  induction options with
  | nil => rfl
  | cons e rest ih =>
    rw [List.flatMap_cons, (h e (List.mem_cons_self ..)).alternatives_eq,
      ih fun o ho => h o (List.mem_cons_of_mem _ ho)]
    rfl

theorem alternatives_anyOf {options : List TypeExpr} (h : ∀ o ∈ options, IsAtomic o) :
    (anyOf options).alternatives = options := by
  unfold anyOf
  split
  · exact (h _ (List.mem_singleton_self _)).alternatives_eq
  · rfl

theorem isAtomic_of_mem_flatMap {texts : List String} : ∀ e ∈ texts.flatMap readAlternatives, IsAtomic e := by
  intro e he
  obtain ⟨text, -, he⟩ := List.mem_flatMap.1 he
  exact isAtomic_of_mem_readAlternatives he

end BotApi.TypeExpr
