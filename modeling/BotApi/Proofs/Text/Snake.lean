import BotApi.Proofs.Lists
import BotApi.Text.Snake

/-!
# The snake case of camel case

A name in camel case is a row of words. Each pass of the conversion goes over the name once, and what it has passed it
does not look at again: so the first pass sets off every other word only. The second one must then set off those that
are left, and no others. `Joined` says what stands between the passes: words with a low line or nothing between any two
of them. Whichever it is, the second pass leaves one low line between any two.

## Main results

* `joined_splitWords` — after the first pass the words are still there, joined in one way or another.
* `splitCase_of_joined` — the second pass leaves them joined by low lines.
* `lower_of_ascii` — the lower case of a text of ASCII, one character after another.
* `mem_of_mem_snake` — no character before the letters comes in with the snake case.
* `CamelCase.snake_text` — the snake case of a name in camel case.
* `CamelCase.text_injective` — names with one snake case are equal, the case of their first letters apart.
-/

namespace BotApi.Text

namespace Snake

/-! ## Characters -/

variable {c d : Char}

theorem isCapital_iff : isCapital c = true ↔ 0x41 ≤ c.toNat ∧ c.toNat ≤ 0x5A := by
  rw [isCapital, Bool.and_eq_true, decide_eq_true_eq, decide_eq_true_eq]
  exact Iff.rfl

theorem isSmall_iff : isSmall c = true ↔ 0x61 ≤ c.toNat ∧ c.toNat ≤ 0x7A := by
  rw [isSmall, Bool.and_eq_true, decide_eq_true_eq, decide_eq_true_eq]
  exact Iff.rfl

theorem isCapital_of_isSmall (h : isSmall c = true) : isCapital c = false := by
  rw [isSmall_iff] at h
  rw [← Bool.not_eq_true, isCapital_iff]
  omega

theorem isSmall_of_isCapital (h : isCapital c = true) : isSmall c = false := by
  rw [isCapital_iff] at h
  rw [← Bool.not_eq_true, isSmall_iff]
  omega

theorem isDigit_of_isCapital (h : isCapital c = true) : isDigit c = false := by
  rw [isCapital_iff] at h
  rw [← Bool.not_eq_true, isDigit, Bool.and_eq_true, decide_eq_true_eq, decide_eq_true_eq]
  show ¬ (0x30 ≤ c.toNat ∧ c.toNat ≤ 0x39)
  omega

theorem ne_newline_of_isSmall (h : isSmall c = true) : c ≠ '\n' := by
  rintro rfl
  cases h

/-! ## Words -/

/-- Whether a word is a capital with small letters after it. -/
def isWord : List Char → Bool
  | u :: rest => isCapital u && !rest.isEmpty && rest.all isSmall
  | [] => false

/-- Whether a word is one or more small letters. -/
def isSmallWord (w : List Char) : Bool := !w.isEmpty && w.all isSmall

theorem isWord_cons_iff {u : Char} {rest : List Char} :
    isWord (u :: rest) = true ↔ isCapital u = true ∧ isSmallWord rest = true := by
  rw [isWord, isSmallWord, Bool.and_assoc, Bool.and_eq_true]

theorem exists_cons_of_isWord {w : List Char} (h : isWord w = true) :
    ∃ u rest, w = u :: rest ∧ isCapital u = true ∧ isSmallWord rest = true := by
  cases w with
  | nil => cases h
  | cons u rest => exact ⟨u, rest, rfl, isWord_cons_iff.1 h⟩

theorem isSmallWord_iff {w : List Char} : isSmallWord w = true ↔ w ≠ [] ∧ ∀ c ∈ w, isSmall c = true := by
  rw [isSmallWord, Bool.and_eq_true, List.all_eq_true, Bool.not_eq_true', List.isEmpty_eq_false_iff]

theorem exists_cons_of_isSmallWord {w : List Char} (h : isSmallWord w = true) :
    ∃ c rest, w = c :: rest ∧ isSmall c = true ∧ ∀ d ∈ rest, isSmall d = true := by
  cases w with
  | nil => cases h
  | cons c rest => exact ⟨c, rest, rfl, List.forall_mem_cons.1 (isSmallWord_iff.1 h).2⟩

/-- The letters after the first are a word of small letters too, if there are any. -/
theorem eq_nil_of_isSmallWord {rest : List Char} (h : isSmallWord (c :: rest) = true)
    (hrest : isSmallWord rest = false) : rest = [] := by
  by_contra hne
  have hall := (List.forall_mem_cons.1 (isSmallWord_iff.1 h).2).2
  rw [isSmallWord_iff.2 ⟨hne, hall⟩] at hrest
  cases hrest

/-- Words one after another, with a low line or nothing between any two of them. -/
inductive Joined : List (List Char) → List Char → Prop
  | single (w : List Char) : Joined [w] w
  | lowLine (w : List Char) {rest : List (List Char)} {text : List Char} (h : Joined rest text) :
    Joined (w :: rest) (w ++ '_' :: text)
  | nothing (w : List Char) {rest : List (List Char)} {text : List Char} (h : Joined rest text) :
    Joined (w :: rest) (w ++ text)

/-- A letter before the words is one of the first of them. -/
theorem Joined.cons {w text : List Char} {rest : List (List Char)} (c : Char) (h : Joined (w :: rest) text) :
    Joined ((c :: w) :: rest) (c :: text) := by
  cases h with
  | single => exact .single _
  | lowLine _ h => exact .lowLine (c :: w) h
  | nothing _ h => exact .nothing (c :: w) h

/-! ## The first pass -/

section

variable {u : Char} {smalls rest tail : List Char} {inWord : Bool}

/-- A small letter of a word that was set off is passed over with it. -/
theorem splitWords_small (hc : isSmall c = true) : splitWords true (c :: rest) = c :: splitWords true rest := by
  rw [splitWords.eq_def]
  dsimp only
  rw [hc, Bool.and_self, if_pos rfl]

/-- A word is set off from the character before it, unless that was passed over with another word. -/
theorem splitWords_start (hc : (inWord && isSmall c) = false) (hline : c ≠ '\n')
    (hstarts : startsWord (u :: tail) = true) :
    splitWords inWord (c :: u :: tail) = c :: '_' :: u :: splitWords true tail := by
  rw [splitWords.eq_def]
  dsimp only
  rw [hc, if_neg Bool.false_ne_true, hstarts, decide_eq_true hline, Bool.and_self, if_pos rfl]

/-- Any other character is passed over alone. -/
theorem splitWords_pass (hc : (inWord && isSmall c) = false) (hrest : startsWord rest = false) :
    splitWords inWord (c :: rest) = c :: splitWords false rest := by
  rw [splitWords.eq_def]
  dsimp only
  rw [hc, if_neg Bool.false_ne_true, hrest, Bool.and_false, if_neg Bool.false_ne_true]

/-- No word starts where small letters do. -/
theorem startsWord_smalls (hs : isSmallWord smalls = true) (rest : List Char) :
    startsWord (smalls ++ rest) = false := by
  obtain ⟨c, more, rfl, hc, -⟩ := exists_cons_of_isSmallWord hs
  rw [List.cons_append, startsWord.eq_def]
  split
  · next u l _ heq =>
    obtain ⟨rfl, -⟩ := List.cons.inj heq
    rw [isCapital_of_isSmall hc, Bool.false_and]
  · rfl

theorem startsWord_word (hu : isCapital u = true) (hs : isSmallWord smalls = true) (rest : List Char) :
    startsWord (u :: (smalls ++ rest)) = true := by
  obtain ⟨c, more, rfl, hc, -⟩ := exists_cons_of_isSmallWord hs
  rw [List.cons_append, startsWord, hu, hc, Bool.and_self]

/-- A capital that was not set off is passed over, and then the small letters after it are as any others. -/
theorem splitWords_capital (hu : isCapital u = true) (hs : isSmallWord smalls = true) (inWord : Bool)
    (rest : List Char) : splitWords inWord (u :: (smalls ++ rest)) = u :: splitWords false (smalls ++ rest) := by
  refine splitWords_pass ?_ (startsWord_smalls hs rest)
  rw [isSmall_of_isCapital hu, Bool.and_false]

theorem splitWords_true_append (hs : ∀ c ∈ smalls, isSmall c = true) (rest : List Char) :
    splitWords true (smalls ++ rest) = smalls ++ splitWords true rest := by
  induction smalls with
  | nil => rfl
  | cons c smalls ih =>
    obtain ⟨hc, hs⟩ := List.forall_mem_cons.1 hs
    rw [List.cons_append, splitWords_small hc, ih hs, List.cons_append]

/-- A word is set off at the last of the small letters before it. -/
theorem splitWords_false_append (hs : isSmallWord smalls = true) (hstarts : startsWord (u :: tail) = true) :
    splitWords false (smalls ++ u :: tail) = smalls ++ '_' :: u :: splitWords true tail := by
  induction smalls with
  | nil => cases hs
  | cons c smalls ih =>
    have hc := (isSmallWord_iff.1 hs).2 c (List.mem_cons_self ..)
    cases hsmalls : isSmallWord smalls with
    | true =>
      -- the next letter is a small one too, so nothing starts there
      rw [List.cons_append, splitWords_pass (Bool.false_and _) (startsWord_smalls hsmalls _), ih hsmalls,
        List.cons_append]
    | false =>
      obtain rfl := eq_nil_of_isSmallWord hs hsmalls
      exact splitWords_start (Bool.false_and _) (ne_newline_of_isSmall hc) hstarts

theorem splitWords_false_smalls (hs : isSmallWord smalls = true) : splitWords false smalls = smalls := by
  induction smalls with
  | nil => rfl
  | cons c smalls ih =>
    cases hsmalls : isSmallWord smalls with
    | true =>
      have hstarts := startsWord_smalls hsmalls []
      rw [List.append_nil] at hstarts
      rw [splitWords_pass (Bool.false_and _) hstarts, ih hsmalls]
    | false =>
      obtain rfl := eq_nil_of_isSmallWord hs hsmalls
      exact splitWords_pass (Bool.false_and _) rfl

/-- The first pass over small letters and the words after them leaves them joined, both if the letters belong to a word
that was set off and if they do not. In the one case the next word is not set off, and in the other case it is. -/
theorem joined_splitWords {words : List (List Char)} (hwords : ∀ w ∈ words, isWord w = true)
    (hs : isSmallWord smalls = true) (inWord : Bool) :
    Joined (smalls :: words) (splitWords inWord (smalls ++ words.flatten)) := by
  induction words generalizing smalls inWord with
  | nil =>
    rw [List.flatten_nil]
    cases inWord with
    | true =>
      rw [splitWords_true_append (isSmallWord_iff.1 hs).2, splitWords, List.append_nil]
      exact .single smalls
    | false =>
      rw [List.append_nil, splitWords_false_smalls hs]
      exact .single smalls
  | cons w words ih =>
    obtain ⟨hw, hrest⟩ := List.forall_mem_cons.1 hwords
    obtain ⟨u, more, rfl, hu, hmore⟩ := exists_cons_of_isWord hw
    rw [List.flatten_cons, List.cons_append]
    cases inWord with
    | true =>
      -- the small letters are passed over with the capital before them, and then this capital is missed
      rw [splitWords_true_append (isSmallWord_iff.1 hs).2, splitWords_capital hu hmore]
      exact .nothing smalls ((ih hrest hmore false).cons u)
    | false =>
      rw [splitWords_false_append hs (startsWord_word hu hmore _)]
      exact .lowLine smalls ((ih hrest hmore true).cons u)

end

/-! ## The second pass -/

/-- What the second pass makes of a text after a small letter. -/
def setOff (text : List Char) : List Char :=
  if text.head?.any isCapital then '_' :: splitCase text else splitCase text

theorem splitCase_small (hc : isSmall c = true) (rest : List Char) : splitCase (c :: rest) = c :: setOff rest := by
  rw [splitCase.eq_def, setOff]
  cases rest with
  | nil => rfl
  | cons u rest =>
    dsimp only
    rw [hc, Bool.true_or, Bool.true_and, List.head?_cons, Option.any_some]
    split <;> rfl

theorem setOff_small (hc : isSmall c = true) (rest : List Char) : setOff (c :: rest) = c :: setOff rest := by
  rw [setOff, List.head?_cons, Option.any_some, isCapital_of_isSmall hc, if_neg Bool.false_ne_true,
    splitCase_small hc]

theorem setOff_smalls {smalls : List Char} (hs : ∀ c ∈ smalls, isSmall c = true) (rest : List Char) :
    setOff (smalls ++ rest) = smalls ++ setOff rest := by
  induction smalls with
  | nil => rfl
  | cons c smalls ih =>
    obtain ⟨hc, hs⟩ := List.forall_mem_cons.1 hs
    rw [List.cons_append, setOff_small hc, ih hs, List.cons_append]

theorem splitCase_cons {rest : List Char} (hc : isSmall c = false) (hd : isDigit c = false) :
    splitCase (c :: rest) = c :: splitCase rest := by
  rw [splitCase.eq_def]
  cases rest with
  | nil => rfl
  | cons u rest =>
    dsimp only
    rw [hc, hd, Bool.or_self, Bool.false_and, if_neg Bool.false_ne_true]

theorem setOff_lowLine (rest : List Char) : setOff ('_' :: rest) = '_' :: splitCase rest :=
  splitCase_cons rfl rfl

/-- The second pass sets off what comes after a word, whether the word has a capital or not. -/
theorem splitCase_word_append {w : List Char} (hw : isWord w = true ∨ isSmallWord w = true) (rest : List Char) :
    splitCase (w ++ rest) = w ++ setOff rest := by
  have hsmalls : ∀ smalls, isSmallWord smalls = true → splitCase (smalls ++ rest) = smalls ++ setOff rest := by
    intro smalls hs
    obtain ⟨c, more, rfl, hc, hmore⟩ := exists_cons_of_isSmallWord hs
    rw [List.cons_append, splitCase_small hc, setOff_smalls hmore, List.cons_append]
  rcases hw with hw | hw
  · obtain ⟨u, smalls, rfl, hu, hs⟩ := exists_cons_of_isWord hw
    rw [List.cons_append, splitCase_cons (isSmall_of_isCapital hu) (isDigit_of_isCapital hu), hsmalls smalls hs,
      List.cons_append]
  · exact hsmalls w hw

theorem head?_of_joined {w text : List Char} {rest : List (List Char)} (h : Joined (w :: rest) text)
    (hw : isWord w = true) : text.head?.any isCapital = true := by
  obtain ⟨u, smalls, rfl, hu, -⟩ := exists_cons_of_isWord hw
  cases h <;> exact hu

/-- The second pass leaves one low line between any two words, whether one was there or not. -/
theorem splitCase_of_joined {w text : List Char} {words : List (List Char)} (h : Joined (w :: words) text)
    (hw : isWord w = true ∨ isSmallWord w = true) (hwords : ∀ w ∈ words, isWord w = true) :
    splitCase text = ['_'].intercalate (w :: words) := by
  induction words generalizing w text with
  | nil =>
    cases h with
    | single =>
      have hend := splitCase_word_append hw []
      rw [List.append_nil] at hend
      rw [hend, List.intercalate_singleton]
      exact List.append_nil w
    | lowLine _ h => cases h
    | nothing _ h => cases h
  | cons next words ih =>
    obtain ⟨hnext, hwords⟩ := List.forall_mem_cons.1 hwords
    -- what stands between the word and the next one is a low line in either case
    have hset : ∀ text, Joined (next :: words) text →
        w ++ '_' :: splitCase text = ['_'].intercalate (w :: next :: words) := by
      intro text h
      rw [List.intercalate_cons_cons, ih h (.inl hnext) hwords, List.append_assoc, List.singleton_append]
    cases h with
    | lowLine _ h =>
      rw [splitCase_word_append hw, setOff_lowLine, hset _ h]
    | nothing _ h => rw [splitCase_word_append hw, setOff, head?_of_joined h hnext, if_pos rfl, hset _ h]

/-! ## Lower case -/

/-- The lower case of a text of ASCII is that of each character. -/
theorem lower_of_ascii {text : List Char} (h : ∀ c ∈ text, c.toNat < 0x80) :
    Unicode.lower text = text.map Char.toLower := by
  -- what stands before a character matters to none of ASCII
  have hafter : ∀ before, Unicode.lowerAfter before text = text.map Char.toLower := by
    induction text with
    | nil => exact fun _ => rfl
    | cons c rest ih =>
      intro before
      obtain ⟨hc, hrest⟩ := List.forall_mem_cons.1 h
      rw [Unicode.lowerAfter, if_neg (by omega), if_neg (by omega), Unicode.lowerChar, if_pos hc, ih hrest,
        List.map_cons, List.singleton_append]
  exact hafter []

theorem toNat_toLower_of_isCapital (hc : isCapital c = true) : c.toLower.toNat = c.toNat + 0x20 := by
  rw [isCapital_iff] at hc
  have hrange : c.val ≥ 'A'.val ∧ c.val ≤ 'Z'.val := hc
  have hval : c.toLower.val = c.val + (0x61 - 0x41) := congrArg Char.val (dif_pos hrange)
  show c.toLower.val.toNat = _
  rw [hval, UInt32.toNat_add]
  show (c.toNat + 0x20) % 2 ^ 32 = _
  omega

theorem toLower_of_not_isCapital (h : isCapital c = false) : c.toLower = c := by
  refine dif_neg fun hrange => ?_
  rw [isCapital_iff.2 hrange] at h
  cases h

theorem toLower_of_isSmall (hc : isSmall c = true) : c.toLower = c :=
  toLower_of_not_isCapital (isCapital_of_isSmall hc)

/-- Different capitals have different small letters. -/
theorem eq_of_toLower_eq (hc : isCapital c = true) (hd : isCapital d = true) (h : c.toLower = d.toLower) : c = d := by
  have hsum := congrArg Char.toNat h
  rw [toNat_toLower_of_isCapital hc, toNat_toLower_of_isCapital hd] at hsum
  exact Char.toNat_inj.1 (by omega)

/-- The lower case of a word. -/
def lowerWord (w : List Char) : List Char := w.map Char.toLower

theorem lowerWord_of_smalls {smalls : List Char} (hs : ∀ c ∈ smalls, isSmall c = true) :
    lowerWord smalls = smalls := by
  have hsame : smalls.map Char.toLower = smalls.map id := List.map_congr_left fun c hc => toLower_of_isSmall (hs c hc)
  rw [lowerWord, hsame, List.map_id]

theorem lowerWord_of_isSmallWord {w : List Char} (h : isSmallWord w = true) : lowerWord w = w :=
  lowerWord_of_smalls (isSmallWord_iff.1 h).2

theorem lowerWord_capital {u : Char} {smalls : List Char} (hs : isSmallWord smalls = true) :
    lowerWord (u :: smalls) = u.toLower :: smalls := by
  rw [lowerWord, List.map_cons, ← lowerWord, lowerWord_of_isSmallWord hs]

/-- A word consists of letters. -/
theorem isLetter_of_mem_word {w : List Char} (hw : isWord w = true ∨ isSmallWord w = true) (hc : c ∈ w) :
    isCapital c = true ∨ isSmall c = true := by
  rcases hw with hw | hw
  · obtain ⟨u, smalls, rfl, hu, hs⟩ := exists_cons_of_isWord hw
    rcases List.mem_cons.1 hc with rfl | hc
    · exact .inl hu
    · exact .inr ((isSmallWord_iff.1 hs).2 c hc)
  · exact .inr ((isSmallWord_iff.1 hw).2 c hc)

theorem toNat_lt_of_mem_word {w : List Char} (hw : isWord w = true ∨ isSmallWord w = true) (hc : c ∈ w) :
    c.toNat < 0x80 := by
  rcases isLetter_of_mem_word hw hc with hletter | hletter
  · rw [isCapital_iff] at hletter
    omega
  · rw [isSmall_iff] at hletter
    omega

/-- The lower case of a word consists of small letters. -/
theorem isSmall_of_mem_lowerWord {w : List Char} (hw : isWord w = true ∨ isSmallWord w = true)
    (hc : c ∈ lowerWord w) : isSmall c = true := by
  obtain ⟨d, hd, rfl⟩ := List.mem_map.1 hc
  rcases isLetter_of_mem_word hw hd with hletter | hletter
  · have hlower := toNat_toLower_of_isCapital hletter
    rw [isCapital_iff] at hletter
    rw [isSmall_iff]
    omega
  · rwa [toLower_of_isSmall hletter]

/-- Words with capitals are told apart by their lower case. -/
theorem eq_of_lowerWord_eq {w w' : List Char} (hw : isWord w = true) (hw' : isWord w' = true)
    (h : lowerWord w = lowerWord w') : w = w' := by
  obtain ⟨u, smalls, rfl, hu, hs⟩ := exists_cons_of_isWord hw
  obtain ⟨u', smalls', rfl, hu', hs'⟩ := exists_cons_of_isWord hw'
  rw [lowerWord_capital hs, lowerWord_capital hs', List.cons.injEq] at h
  rw [eq_of_toLower_eq hu hu' h.1, h.2]

/-! ## What the conversion leaves -/

/-- The first pass puts in low lines, and nothing else. -/
theorem filter_splitWords (inWord : Bool) (text : List Char) :
    (splitWords inWord text).filter (· ≠ '_') = text.filter (· ≠ '_') := by
  -- low lines may be in the text as well, and so they are left out on both sides
  induction inWord, text using splitWords.induct with
  | case1 => rfl
  | case2 inWord c rest hsmall ih =>
    rw [splitWords.eq_def]
    dsimp only
    rw [if_pos hsmall, List.filter_cons, List.filter_cons, ih]
  | case3 inWord c hsmall hstarts => cases (Bool.and_eq_true_iff.1 hstarts).2
  | case4 inWord c hsmall u tail hstarts ih =>
    rw [splitWords.eq_def]
    dsimp only
    rw [if_neg hsmall, if_pos hstarts]
    simp only [List.filter_cons, ih]
    rfl
  | case5 inWord c rest hsmall hstarts ih =>
    rw [splitWords.eq_def]
    dsimp only
    rw [if_neg hsmall, if_neg hstarts, List.filter_cons, List.filter_cons, ih]

/-- So does the second one. -/
theorem filter_splitCase (text : List Char) : (splitCase text).filter (· ≠ '_') = text.filter (· ≠ '_') := by
  induction text using splitCase.induct with
  | case1 => rfl
  | case2 => rfl
  | case3 c u tail hcase ih =>
    rw [splitCase.eq_def]
    dsimp only
    rw [if_pos hcase]
    simp only [List.filter_cons, ih]
    rfl
  | case4 c u tail hcase ih =>
    rw [splitCase.eq_def]
    dsimp only
    rw [if_neg hcase]
    simp only [List.filter_cons, ih]

theorem toNat_ofNat {n : Nat} (h : n.isValidChar) : (Char.ofNat n).toNat = n := by
  rw [Char.ofNat, dif_pos h]
  rfl

/-- Small letters come after the characters that are no letters. -/
theorem lt_of_capitals : ∀ e ∈ Unicode.capitals.toList,
    0x41 ≤ e.2.2.2 ∧ (e.2.2.2 + (e.2.1 - e.1) < 0xD800 ∨ (0xE000 ≤ e.2.2.2 ∧ e.2.2.2 + (e.2.1 - e.1) < 0x110000)) := by
  decide +kernel

theorem le_toNat_lowerChar (hc : 0x41 ≤ c.toNat) : 0x41 ≤ (Unicode.lowerChar c).toNat := by
  unfold Unicode.lowerChar
  split
  · cases hcapital : isCapital c with
    | true =>
      rw [toNat_toLower_of_isCapital hcapital]
      omega
    | false => rwa [toLower_of_not_isCapital hcapital]
  · split
    · next low high step small hfind =>
      obtain ⟨hleast, hscalar⟩ := lt_of_capitals _ (Array.mem_toList_iff.2 (Array.mem_of_find?_eq_some hfind))
      have hrange := Array.find?_some hfind
      simp only [Bool.and_eq_true, decide_eq_true_eq] at hrange hleast hscalar
      have hvalid : (small + (c.toNat - low)).isValidChar := by
        unfold Nat.isValidChar
        omega
      rw [toNat_ofNat hvalid]
      omega
    · exact hc

/-- No other character has a small letter before the letters. -/
theorem lowerChar_eq_self (h : (Unicode.lowerChar c).toNat < 0x41) : Unicode.lowerChar c = c := by
  have hc : c.toNat < 0x41 := by
    by_contra hle
    exact absurd (le_toNat_lowerChar (Nat.not_lt.1 hle)) (Nat.not_le.2 h)
  have hcapital : isCapital c = false := by
    rw [← Bool.not_eq_true, isCapital_iff]
    omega
  rw [Unicode.lowerChar, if_pos (by omega), toLower_of_not_isCapital hcapital]

/-- In lower case there is no character before the letters that was not there. -/
theorem mem_of_mem_lower {text : List Char} (hm : c ∈ Unicode.lower text) (hc : c.toNat < 0x41) : c ∈ text := by
  have hafter : ∀ before, c ∈ Unicode.lowerAfter before text → c ∈ text := by
    clear hm
    induction text with
    | nil => exact fun _ h => h
    | cons d rest ih =>
      intro before hm
      rw [Unicode.lowerAfter, List.mem_append] at hm
      rcases hm with hm | hm
      · refine List.mem_cons.2 (.inl ?_)
        -- what the two characters with rules of their own become comes after the letters too
        split at hm
        · simp only [List.mem_cons, List.not_mem_nil, or_false] at hm
          rcases hm with rfl | rfl
          · exact absurd hc (by decide)
          · exact absurd hc (by decide)
        · split at hm
          · rw [List.mem_singleton] at hm
            subst hm
            split at hc
            · exact absurd hc (by decide)
            · exact absurd hc (by decide)
          · rw [List.mem_singleton] at hm
            subst hm
            exact lowerChar_eq_self hc
      · exact List.mem_cons_of_mem _ (ih _ hm)
  exact hafter [] hm

/-- A character of ASCII that is no capital stays where case is changed. -/
theorem mem_lower_of_mem {text : List Char} (hm : c ∈ text) (hc : c.toNat < 0x80) (hcapital : isCapital c = false) :
    c ∈ Unicode.lower text := by
  have hself : Unicode.lowerChar c = c := by rw [Unicode.lowerChar, if_pos hc, toLower_of_not_isCapital hcapital]
  have hafter : ∀ before, c ∈ Unicode.lowerAfter before text := by
    induction text with
    | nil => cases hm
    | cons d rest ih =>
      intro before
      rw [Unicode.lowerAfter, List.mem_append]
      rcases List.mem_cons.1 hm with rfl | hm
      · rw [if_neg (by omega), if_neg (by omega), hself]
        exact .inl (List.mem_singleton_self _)
      · exact .inr (ih hm _)
  exact hafter []

end Snake

theorem mem_of_mem_snake {c : Char} {name : String} (hm : c ∈ (snake name).toList) (hc : c.toNat < 0x41) :
    c ∈ name.toList := by
  rw [snake, String.toList_ofList] at hm
  have hsplit := Snake.mem_of_mem_lower hm hc
  have hne : c ≠ '_' := by
    rintro rfl
    exact absurd hc (by decide)
  have hkept : c ∈ (Snake.splitCase (Snake.splitWords false name.toList)).filter (· ≠ '_') :=
    List.mem_filter.2 ⟨hsplit, decide_eq_true hne⟩
  rw [Snake.filter_splitCase, Snake.filter_splitWords] at hkept
  exact List.mem_of_mem_filter hkept

/-- A character of ASCII that is neither a capital nor a low line stays in snake case. -/
theorem mem_snake_of_mem {c : Char} {name : String} (hm : c ∈ name.toList) (hc : c.toNat < 0x80)
    (hcapital : Snake.isCapital c = false) (hne : c ≠ '_') : c ∈ (snake name).toList := by
  have hkept : c ∈ name.toList.filter (· ≠ '_') := List.mem_filter.2 ⟨hm, decide_eq_true hne⟩
  rw [← Snake.filter_splitWords false, ← Snake.filter_splitCase] at hkept
  rw [snake, String.toList_ofList]
  exact Snake.mem_lower_of_mem (List.mem_of_mem_filter hkept) hc hcapital

/-! ## Names in camel case -/

/-- A name in camel case: a first word, which may lack its capital, and more words with capitals. -/
structure CamelCase where
  first : List Char
  rest : List (List Char)
  first_isWord : Snake.isWord first = true ∨ Snake.isSmallWord first = true
  rest_isWord : ∀ w ∈ rest, Snake.isWord w = true

namespace CamelCase

open Snake

/-- The words of a name. -/
def words (n : CamelCase) : List (List Char) := n.first :: n.rest

/-- The name itself: its words with nothing between them. -/
def text (n : CamelCase) : String := String.ofList n.words.flatten

/-- Whether the first word lacks its capital. -/
def startsSmall (n : CamelCase) : Bool := isSmallWord n.first

variable (n : CamelCase)

theorem word_of_mem {w : List Char} (hw : w ∈ n.words) : isWord w = true ∨ isSmallWord w = true := by
  rcases List.mem_cons.1 hw with rfl | hw
  · exact n.first_isWord
  · exact .inl (n.rest_isWord w hw)

theorem joined_words : Joined n.words (splitWords false n.words.flatten) := by
  rw [words, List.flatten_cons]
  rcases n.first_isWord with hfirst | hfirst
  · obtain ⟨u, smalls, hcons, hu, hs⟩ := exists_cons_of_isWord hfirst
    rw [hcons, List.cons_append, splitWords_capital hu hs]
    exact (joined_splitWords n.rest_isWord hs false).cons u
  · exact joined_splitWords n.rest_isWord hfirst false

/-- The snake case of a name in camel case: its words in lower case, with a low line between any two. -/
theorem snake_text : snake n.text = String.ofList (['_'].intercalate (n.words.map lowerWord)) := by
  have hcase : splitCase (splitWords false n.words.flatten) = ['_'].intercalate n.words :=
    splitCase_of_joined n.joined_words n.first_isWord n.rest_isWord
  have hascii : ∀ c ∈ ['_'].intercalate n.words, c.toNat < 0x80 :=
    forall_mem_intercalate (List.forall_mem_singleton.2 (by decide)) fun w hw c hc =>
      toNat_lt_of_mem_word (n.word_of_mem hw) hc
  rw [snake, text, String.toList_ofList, ofCamel, hcase, lower_of_ascii hascii, map_intercalate]
  rfl

/-- The snake case tells the lower case of the words. -/
theorem words_of_snake_eq {n n' : CamelCase} (h : snake n.text = snake n'.text) :
    n.words.map lowerWord = n'.words.map lowerWord := by
  -- no word has a low line, and so the words are found again between the low lines
  have hsplit : ∀ m : CamelCase,
      (['_'].intercalate (m.words.map lowerWord)).splitOn '_' = m.words.map lowerWord := by
    intro m
    refine List.splitOn_intercalate '_' (List.forall_mem_map.2 fun w hw hlow => ?_) (List.cons_ne_nil _ _)
    have hsmall := isSmall_of_mem_lowerWord (m.word_of_mem hw) hlow
    cases hsmall
  rw [snake_text, snake_text, String.ofList_inj] at h
  rw [← hsplit n, ← hsplit n', h]

/-- Names with one snake case are equal, if their first letters are of one case. -/
theorem text_injective {n n' : CamelCase} (hcase : n.startsSmall = n'.startsSmall)
    (h : snake n.text = snake n'.text) : n.text = n'.text := by
  have hwords := words_of_snake_eq h
  rw [words, words, List.map_cons, List.map_cons, List.cons.injEq] at hwords
  have hrest : n.rest = n'.rest :=
    eq_of_map_eq (fun w hw w' hw' => eq_of_lowerWord_eq (n.rest_isWord w hw) (n'.rest_isWord w' hw')) hwords.2
  have hfirst : n.first = n'.first := by
    unfold startsSmall at hcase
    cases hsmall : isSmallWord n.first with
    | true =>
      rw [hsmall] at hcase
      rw [← lowerWord_of_isSmallWord hsmall, ← lowerWord_of_isSmallWord hcase.symm, hwords.1]
    | false =>
      rw [hsmall] at hcase
      refine eq_of_lowerWord_eq (n.first_isWord.resolve_right ?_) (n'.first_isWord.resolve_right ?_) hwords.1
      · rw [hsmall]
        exact Bool.false_ne_true
      · rw [← hcase]
        exact Bool.false_ne_true
  rw [text, text, words, words, hfirst, hrest]

/-- A name is the snake case of another one only if both are the same word of small letters. -/
theorem text_eq_of_snake {n n' : CamelCase} (hsmall : n.startsSmall = true) (h : snake n.text = n'.text) :
    n.text = n'.text := by
  rw [← h, snake_text, text, words]
  cases hrest : n.rest with
  | nil =>
    rw [List.map_cons, List.map_nil, List.intercalate_singleton, List.flatten_cons, List.flatten_nil, List.append_nil,
      lowerWord_of_isSmallWord hsmall]
  | cons w rest =>
    -- with a second word there is a low line, which is no letter of a name
    have hmem : '_' ∈ n'.words.flatten := by
      rw [snake_text, text, String.ofList_inj, words, hrest, List.map_cons, List.map_cons,
        List.intercalate_cons_cons] at h
      rw [← h]
      simp
    obtain ⟨w', hw', hlow⟩ := List.mem_flatten.1 hmem
    rcases isLetter_of_mem_word (n'.word_of_mem hw') hlow with hletter | hletter <;> cases hletter

end CamelCase

end BotApi.Text
