import BotApi.Proofs.Graph.Resolution
import Mathlib.Data.List.TakeWhile

/-!
# The words of a text

How a text of types is cut up can be said of its words, which stand between white space: the word `or` separates
alternatives, and what begins with the words `Array` and `of` is an array. The reader goes by characters instead, and
cuts where it comes to a separator. Both see the same words, and the reader finds the parts that a text is joined from
if each of them begins and ends with a letter and none has an `or` in it.

## Main results

* `words_append_blank` — white space separates words.
* `intercalate_words_splitOr` — the words of a text are those of its parts, with an `or` between them.
* `words_toText_ofAtom` — what is read from a part is printed with the words of the part.
* `splitOr_intercalate` — tight texts without an `or` are the parts that they are joined from.
-/

namespace BotApi.TypeExpr

open Unicode (isBlank trim trimRight)

/-! ## Words -/

/-- The words of a text: what stands between white space. -/
def words (cs : List Char) : List (List Char) := (cs.splitOnP isBlank).filter fun w => !w.isEmpty

/-- The word that separates alternatives. -/
def orWord : List Char := "or".toList

/-- White space separates words. -/
theorem words_append_blank {c : Char} (hc : isBlank c = true) (x y : List Char) :
    words (x ++ c :: y) = words x ++ words y := by
  rw [words, List.splitOnP_append_cons x y hc, List.filter_append]
  rfl

theorem words_cons_blank {c : Char} (hc : isBlank c = true) (y : List Char) : words (c :: y) = words y :=
  words_append_blank hc [] y

/-- A text without white space is one word. -/
theorem words_of_unbroken {cs : List Char} (hne : cs ≠ []) (h : cs.any isBlank = false) : words cs = [cs] := by
  have hnone : ∀ c ∈ cs, isBlank c = false := by simpa using h
  rw [words, List.splitOnP_eq_singleton hnone, List.filter_cons_of_pos (by simpa using hne), List.filter_nil]

theorem words_eq_nil {cs : List Char} (h : ∀ c ∈ cs, isBlank c = true) : words cs = [] := by
  induction cs with
  | nil => rfl
  | cons c rest ih =>
    rw [words_cons_blank (h c (List.mem_cons_self ..))]
    exact ih fun d hd => h d (List.mem_cons_of_mem _ hd)

/-- A text has a word if not all of it is white space. -/
theorem words_ne_nil {cs : List Char} {c : Char} (hc : c ∈ cs) (hblank : isBlank c = false) : words cs ≠ [] := by
  induction cs with
  | nil => cases hc
  | cons d rest ih =>
    cases hd : isBlank d with
    | true =>
      rw [words_cons_blank hd]
      rcases List.mem_cons.1 hc with rfl | hc
      · rw [hblank] at hd
        cases hd
      · exact ih hc
    | false =>
      -- the first word begins with the first character
      obtain ⟨w, more, hsplit⟩ := List.exists_cons_of_ne_nil (List.splitOnP_ne_nil isBlank rest)
      rw [words, List.splitOnP_cons_eq_if_modifyHead, hd, if_neg Bool.false_ne_true, hsplit, List.modifyHead_cons,
        List.filter_cons_of_pos (by simp)]
      exact List.cons_ne_nil _ _

theorem words_dropWhile (cs : List Char) : words (cs.dropWhile isBlank) = words cs := by
  induction cs with
  | nil => rfl
  | cons c rest ih =>
    rw [List.dropWhile_cons]
    split
    · next hc => rw [ih, words_cons_blank hc]
    · rfl

theorem words_append_blanks {blanks : List Char} (h : ∀ c ∈ blanks, isBlank c = true) (x : List Char) :
    words (x ++ blanks) = words x := by
  cases blanks with
  | nil => rw [List.append_nil]
  | cons c more =>
    obtain ⟨hc, hmore⟩ := List.forall_mem_cons.1 h
    rw [words_append_blank hc, words_eq_nil hmore, List.append_nil]

theorem words_trimRight (cs : List Char) : words (trimRight cs) = words cs := by
  have hblank : ∀ c ∈ (cs.reverse.takeWhile isBlank).reverse, isBlank c = true := fun c hc =>
    List.mem_takeWhile_imp (List.mem_reverse.1 hc)
  have hcut : trimRight cs ++ (cs.reverse.takeWhile isBlank).reverse = cs := by
    rw [trimRight, ← List.reverse_append, List.takeWhile_append_dropWhile, List.reverse_reverse]
  calc words (trimRight cs)
      = words (trimRight cs ++ (cs.reverse.takeWhile isBlank).reverse) := (words_append_blanks hblank _).symm
    _ = words cs := by rw [hcut]

theorem words_trim (cs : List Char) : words (trim cs) = words cs := by
  rw [trim, words_trimRight, words_dropWhile]

/-! ## Parts -/

/-- Where a separator begins the next word is `or`, and the words after it are those of what follows. -/
theorem words_of_afterOr? {cs tail : List Char} (h : afterOr? cs = some tail) (x : List Char) :
    words (x ++ cs) = words x ++ orWord :: words tail := by
  unfold afterOr? at h
  split at h
  · cases h
  · next c rest =>
    split at h
    · next hc =>
      split at h
      · next b more hdrop =>
        split at h
        · next hb =>
          cases h
          have hor : words (['o', 'r'] ++ b :: more) = orWord :: words more := by
            rw [words_append_blank hb, words_of_unbroken (by simp) (by decide)]
            rfl
          rw [words_append_blank hc, ← words_cons_blank hc rest, ← words_dropWhile (c :: rest), hdrop, words_dropWhile]
          exact congrArg (words x ++ ·) hor
        · cases h
      · cases h
    · cases h

theorem afterOr?_of_not_blank {c : Char} {rest : List Char} (h : isBlank c = false) : afterOr? (c :: rest) = none := by
  simp only [afterOr?, h, Bool.false_eq_true, if_false]

/-- The words of a text are those of its parts, with an `or` between them. -/
theorem intercalate_words_splitOr (seen cs : List Char) :
    words (seen.reverse ++ cs) = [orWord].intercalate ((splitOr seen cs).map words) := by
  induction seen, cs using splitOr.induct with
  | case1 seen => simp [splitOr_nil]
  | case2 seen c rest tail h ih =>
    obtain ⟨part, more, hparts⟩ := List.exists_cons_of_ne_nil (splitOr_ne_nil [] tail)
    rw [words_of_afterOr? h, splitOr_of_some h, List.map_cons]
    rw [hparts, List.map_cons] at ih ⊢
    rw [List.intercalate_cons_cons, ← ih, List.append_assoc]
    rfl
  | case3 seen c rest h ih =>
    rw [splitOr_of_none h, ← ih, List.reverse_cons, List.append_assoc]
    rfl

/-! ## Arrays -/

theorem words_append_arrayWords (cs : List Char) :
    words (arrayWords ++ cs) = "Array".toList :: "of".toList :: words cs := by
  have h : arrayWords ++ cs = "Array".toList ++ ' ' :: ("of".toList ++ ' ' :: cs) := rfl
  rw [h, words_append_blank (by decide), words_append_blank (by decide), words_of_unbroken (by decide) (by decide),
    words_of_unbroken (by decide) (by decide)]
  rfl

theorem toList_toText_array (item : TypeExpr) :
    (TypeExpr.array item).toText.toList = arrayWords ++ item.toText.toList := by
  rw [toText, String.toList_append]
  rfl

theorem toText_named (name : String) : (named name).toText = name := by
  unfold named
  split
  · next p h =>
    have hname := List.find?_some h
    rw [toText]
    exact of_decide_eq_true hname
  · rw [toText]

theorem afterArray?_eq_some_iff {cs rest : List Char} : afterArray? cs = some rest ↔ cs = arrayWords ++ rest := by
  unfold afterArray?
  constructor
  · intro h
    split at h
    · next hprefix =>
      obtain ⟨after, rfl⟩ := List.isPrefixOf_iff_prefix.1 hprefix
      rw [List.drop_left, Option.some.injEq] at h
      rw [h]
    · cases h
  · rintro rfl
    rw [if_pos (List.isPrefixOf_iff_prefix.2 (List.prefix_append ..)), List.drop_left]

/-- What is read from a part is printed with the words of the part. -/
theorem words_toText_ofAtom (cs : List Char) : words (ofAtom cs).toText.toList = words cs := by
  induction cs using ofAtom.induct with
  | case1 cs rest h ih =>
    rw [ofAtom_of_some h, toList_toText_array, words_append_arrayWords, ih, ← words_append_arrayWords,
      ← afterArray?_eq_some_iff.1 h, words_trim]
  | case2 cs h => rw [ofAtom_of_none h, toText_named, String.toList_ofList, words_trim]

/-! ## Tight texts -/

/-- A text that neither begins nor ends with white space, and is not empty. -/
structure IsTight (cs : List Char) : Prop where
  first : ∃ c ∈ cs.head?, isBlank c = false
  last : ∃ c ∈ cs.getLast?, isBlank c = false

theorem isTight_of_unbroken {cs : List Char} (hne : cs ≠ []) (h : cs.any isBlank = false) : IsTight cs := by
  have hnone : ∀ c ∈ cs, isBlank c = false := by simpa using h
  exact ⟨⟨cs.head hne, List.head?_eq_some_head hne, hnone _ (List.head_mem hne)⟩,
    ⟨cs.getLast hne, List.getLast?_eq_some_getLast hne, hnone _ (List.getLast_mem hne)⟩⟩

theorem IsTight.append {x y : List Char} (hx : IsTight x) (hy : IsTight y) (between : List Char) :
    IsTight (x ++ between ++ y) := by
  obtain ⟨c, hc, hcblank⟩ := hx.first
  obtain ⟨d, hd, hdblank⟩ := hy.last
  refine ⟨⟨c, ?_, hcblank⟩, ⟨d, ?_, hdblank⟩⟩
  · rw [List.append_assoc, List.head?_append, Option.mem_def.1 hc]
    rfl
  · rw [List.getLast?_append, Option.mem_def.1 hd]
    rfl

theorem dropWhile_of_first {cs : List Char} (h : ∃ c ∈ cs.head?, isBlank c = false) : cs.dropWhile isBlank = cs := by
  obtain ⟨c, hc, hblank⟩ := h
  cases cs with
  | nil => cases hc
  | cons d rest =>
    cases hc
    rw [List.dropWhile_cons, hblank, if_neg Bool.false_ne_true]

theorem IsTight.trim_eq {cs : List Char} (h : IsTight cs) : trim cs = cs := by
  have hlast : ∃ c ∈ cs.reverse.head?, isBlank c = false := by
    rw [List.head?_reverse]
    exact h.last
  rw [trim, dropWhile_of_first h.first, trimRight, dropWhile_of_first hlast, List.reverse_reverse]

/-- Wherever white space begins in a tight text without an `or`, some other word comes next. -/
theorem IsTight.next_word {cs u : List Char} {c : Char} (h : IsTight cs) (hor : orWord ∉ words cs)
    (hc : isBlank c = true) (hsuffix : c :: u <:+ cs) : ∃ w more, words u = w :: more ∧ w ≠ orWord := by
  obtain ⟨before, rfl⟩ := hsuffix
  rw [words_append_blank hc] at hor
  obtain ⟨d, hd, hdblank⟩ := h.last
  -- the last letter is not that white space, so it is in what follows
  have hmem : d ∈ u := by
    rw [List.getLast?_append, Option.mem_def, List.getLast?_cons, Option.some_or, Option.some.injEq] at hd
    cases u with
    | nil =>
      cases hd
      rw [List.getLast?_nil, Option.getD_none, hc] at hdblank
      cases hdblank
    | cons e more =>
      subst hd
      simp [List.getLast?_eq_some_getLast]
  obtain ⟨w, more, hwords⟩ := List.exists_cons_of_ne_nil (words_ne_nil hmem hdblank)
  refine ⟨w, more, hwords, ?_⟩
  rintro rfl
  exact hor (List.mem_append_right _ (hwords ▸ List.mem_cons_self ..))

/-! ## Joined texts -/

/-- The separator as it is printed. -/
def orText : List Char := " or ".toList

theorem afterOr?_orText {y : List Char} (h : ∃ c ∈ y.head?, isBlank c = false) : afterOr? (orText ++ y) = some y := by
  have htext : orText ++ y = ' ' :: 'o' :: 'r' :: ' ' :: y := rfl
  have hdrop : (' ' :: 'o' :: 'r' :: ' ' :: y).dropWhile isBlank = 'o' :: 'r' :: ' ' :: y := rfl
  have hblank : isBlank ' ' = true := by decide
  simp only [htext, afterOr?, hdrop, hblank, if_true, dropWhile_of_first h]

/-- No separator begins where another word comes next. -/
theorem afterOr?_eq_none {c : Char} {u : List Char}
    (h : isBlank c = true → ∃ w more, words u = w :: more ∧ w ≠ orWord) : afterOr? (c :: u) = none := by
  cases hc : isBlank c with
  | false => exact afterOr?_of_not_blank hc
  | true =>
    obtain ⟨w, more, hwords, hne⟩ := h hc
    refine Option.eq_none_iff_forall_ne_some.2 fun tail htail => hne ?_
    have hor := words_of_afterOr? htail []
    rw [List.nil_append, words_cons_blank hc, hwords] at hor
    exact (List.cons.inj hor).1

/-- The reader passes over a text in which no separator begins. -/
theorem splitOr_append_of_none {x tail seen : List Char}
    (h : ∀ c u, c :: u <:+ x → afterOr? (c :: (u ++ tail)) = none) :
    splitOr seen (x ++ tail) = splitOr (x.reverse ++ seen) tail := by
  induction x generalizing seen with
  | nil => rfl
  | cons c rest ih =>
    rw [List.cons_append, splitOr_of_none (h c rest List.suffix_rfl),
      ih fun d u hsuffix => h d u (hsuffix.trans (List.suffix_cons ..)), List.reverse_cons, List.append_assoc]
    rfl

section

variable {x : List Char} (htight : IsTight x) (hor : orWord ∉ words x)

include htight hor

theorem splitOr_of_isTight : splitOr [] x = [x] := by
  have h : splitOr [] (x ++ []) = splitOr (x.reverse ++ []) [] := by
    refine splitOr_append_of_none fun c u hsuffix => afterOr?_eq_none fun hc => ?_
    rw [List.append_nil]
    exact htight.next_word hor hc hsuffix
  rw [List.append_nil, List.append_nil] at h
  rw [h, splitOr_nil, List.reverse_reverse]

theorem splitOr_append_orText {y : List Char} (hy : ∃ c ∈ y.head?, isBlank c = false) :
    splitOr [] (x ++ (orText ++ y)) = x :: splitOr [] y := by
  have h : splitOr [] (x ++ (orText ++ y)) = splitOr (x.reverse ++ []) (orText ++ y) := by
    refine splitOr_append_of_none fun c u hsuffix => afterOr?_eq_none fun hc => ?_
    -- the next word is the one that comes next in the text itself
    obtain ⟨w, more, hwords, hne⟩ := htight.next_word hor hc hsuffix
    have htext : u ++ (orText ++ y) = u ++ ' ' :: ("or ".toList ++ y) := rfl
    rw [htext, words_append_blank (by decide), hwords]
    exact ⟨w, _, rfl, hne⟩
  have hcut : splitOr (x.reverse ++ []) (orText ++ y) = (x.reverse ++ []).reverse :: splitOr [] y :=
    splitOr_of_some (afterOr?_orText hy)
  rw [h, hcut, List.append_nil, List.reverse_reverse]

end

theorem isTight_intercalate {parts : List (List Char)} (hne : parts ≠ []) (htight : ∀ part ∈ parts, IsTight part) :
    IsTight (orText.intercalate parts) := by
  induction parts with
  | nil => exact absurd rfl hne
  | cons part rest ih =>
    obtain ⟨hpart, hrest⟩ := List.forall_mem_cons.1 htight
    cases rest with
    | nil => rwa [List.intercalate_singleton]
    | cons next more =>
      rw [List.intercalate_cons_cons]
      exact hpart.append (ih (List.cons_ne_nil _ _) hrest) orText

/-- Tight texts without an `or` are the parts that they are joined from. -/
theorem splitOr_intercalate {parts : List (List Char)} (hne : parts ≠ []) (htight : ∀ part ∈ parts, IsTight part)
    (hor : ∀ part ∈ parts, orWord ∉ words part) : splitOr [] (orText.intercalate parts) = parts := by
  induction parts with
  | nil => exact absurd rfl hne
  | cons part rest ih =>
    obtain ⟨hpart, hrest⟩ := List.forall_mem_cons.1 htight
    obtain ⟨horpart, horrest⟩ := List.forall_mem_cons.1 hor
    cases rest with
    | nil => rw [List.intercalate_singleton, splitOr_of_isTight hpart horpart]
    | cons next more =>
      have htail := isTight_intercalate (List.cons_ne_nil next more) hrest
      rw [List.intercalate_cons_cons, List.append_assoc, splitOr_append_orText hpart horpart htail.first,
        ih (List.cons_ne_nil _ _) hrest horrest]

end BotApi.TypeExpr
