import BotApi.Text.Fill
import Mathlib.Data.List.SplitBy

/-!
# What a filled paragraph is made of

Filling takes a text apart into words and gaps, and puts some of them together again. It never parts a word: each line
is a row of neighbouring words and gaps of the text, behind an indent, and where the row begins and where it ends there
is a space of the text, or the end of it.

## Main results

* `flatten_chunks` — the words and gaps are those of the text, with a space for each character it may be broken at.
* `space_at_boundary` — where two rows of words and gaps meet, there is a space on one side.
* `exists_infix_of_mem_lines` — each line is a row of neighbouring words and gaps behind an indent.
-/

namespace BotApi.Text

/-! ## Words and gaps -/

/-- The text that is taken apart: tabs and line ends have become spaces. -/
def spaced (text : List Char) : List Char := (expandTabs 0 text).map fun c => if isBreak c then ' ' else c

theorem flatten_chunks (text : List Char) : (chunks text).flatten = spaced text := List.flatten_splitBy _ _

/-- Whether of any two neighbouring chunks the one ends with a space or the other begins with one, but not both. -/
def Alternating (cs : List (List Char)) : Prop :=
  cs.IsChain fun a b => ∃ (ha : a ≠ []) (hb : b ≠ []), ¬ (a.getLast ha = ' ' ↔ b.head hb = ' ')

theorem alternating_chunks (text : List Char) : Alternating (chunks text) := by
  refine (List.isChain_getLast_head_splitBy _ _).imp fun a b => ?_
  rintro ⟨ha, hb, hdiffer⟩
  refine ⟨ha, hb, fun hsame => ?_⟩
  rw [decide_eq_false_iff_not] at hdiffer
  exact hdiffer (propext hsame)

/-- Where two rows of chunks meet, the one ends or the other begins with a space. -/
theorem space_at_boundary {before after : List (List Char)} (h : Alternating (before ++ after)) :
    before = [] ∨ after = [] ∨ (∃ front, before.flatten = front ++ [' ']) ∨ ∃ back, after.flatten = ' ' :: back := by
  -- the last chunk before and the first one after decide
  rcases List.eq_nil_or_concat before with rfl | ⟨firsts, last, rfl⟩
  · exact .inl rfl
  cases after with
  | nil => exact .inr (.inl rfl)
  | cons head rest =>
    rw [List.concat_eq_append, Alternating, List.isChain_append] at h
    obtain ⟨hlast, hhead, hdiffer⟩ := h.2.2 last (by simp) head (by simp)
    refine .inr (.inr ?_)
    by_cases hspace : last.getLast hlast = ' '
    · refine .inl ⟨firsts.flatten ++ last.dropLast, ?_⟩
      have hend := List.dropLast_append_getLast hlast
      rw [hspace] at hend
      rw [List.concat_eq_append, List.flatten_append, List.flatten_singleton, List.append_assoc, hend]
    · -- one of the two is a space, and it is not the first
      have hback : head.head hhead = ' ' := by
        by_contra hne
        simp [hspace, hne] at hdiffer
      refine .inr ⟨head.tail ++ rest.flatten, ?_⟩
      have hstart := List.cons_head_tail hhead
      rw [hback] at hstart
      rw [List.flatten_cons, ← List.cons_append, hstart]

/-! ## Lines -/

theorem fit_append (room : Nat) (cs : List (List Char)) : (fit room cs).1 ++ (fit room cs).2 = cs := by
  induction cs generalizing room with
  | nil => rfl
  | cons c rest ih =>
    rw [fit]
    split
    · exact congrArg (c :: ·) (ih _)
    · rfl

/-- A line and what comes after it are the chunks that there are. -/
theorem nextLine_append (room : Nat) (c : List Char) (rest : List (List Char)) :
    (nextLine room c rest).1 ++ (nextLine room c rest).2 = c :: rest := by
  rw [nextLine]
  split
  · exact congrArg (c :: ·) (fit_append _ rest)
  · rfl

theorem dropLastBlank_isPrefix (line : List (List Char)) : dropLastBlank line <+: line := by
  rw [dropLastBlank]
  split
  · split
    · exact List.dropLast_prefix line
    · exact List.prefix_rfl
  · exact List.prefix_rfl

theorem lineStart_isSuffix (started : Bool) (cs : List (List Char)) : lineStart started cs <:+ cs := by
  cases cs with
  | nil => exact List.suffix_rfl
  | cons c rest =>
    rw [lineStart]
    split
    · exact List.suffix_cons c rest
    · exact List.suffix_rfl

/-- What a line begins with. -/
def Frame.indent (frame : Frame) (started : Bool) : List Char := if started then frame.others else frame.first

theorem Frame.lines_of_nil {frame : Frame} {started : Bool} {cs : List (List Char)} (h : lineStart started cs = []) :
    frame.lines started cs = [] := by
  rw [lines]
  split
  · rfl
  · next heq =>
    rw [h] at heq
    cases heq

theorem Frame.lines_of_cons {frame : Frame} {started : Bool} {cs rest : List (List Char)} {c : List Char}
    (h : lineStart started cs = c :: rest) :
    frame.lines started cs =
      let line := nextLine (frame.width - (frame.indent started).length) c rest
      if (dropLastBlank line.1).isEmpty then frame.lines started line.2
      else (frame.indent started ++ (dropLastBlank line.1).flatten) :: frame.lines true line.2 := by
  rw [lines]
  split
  · next heq =>
    rw [h] at heq
    cases heq
  · next heq =>
    obtain ⟨rfl, rfl⟩ := List.cons.inj (heq.symm.trans h)
    rfl

/-- Each line is a row of neighbouring chunks behind one of the indents. -/
theorem exists_infix_of_mem_lines {frame : Frame} {started : Bool} {cs : List (List Char)} {line : List Char}
    (h : line ∈ frame.lines started cs) :
    ∃ started row, row <:+: cs ∧ line = frame.indent started ++ row.flatten := by
  -- a line takes the first chunks, and the other lines come from those after it
  induction hn : cs.length using Nat.strongRecOn generalizing started cs with
  | ind n ih =>
    cases hstart : lineStart started cs with
    | nil =>
      rw [Frame.lines_of_nil hstart] at h
      cases h
    | cons c rest =>
      rw [Frame.lines_of_cons hstart] at h
      dsimp only at h
      have hsplit := nextLine_append (frame.width - (frame.indent started).length) c rest
      have hshort := length_nextLine_le (frame.width - (frame.indent started).length) c rest
      generalize nextLine (frame.width - (frame.indent started).length) c rest = taken at h hsplit hshort
      have hsuffix : c :: rest <:+ cs := hstart ▸ lineStart_isSuffix started cs
      have hlength : taken.2.length < n := by
        have hle := hsuffix.length_le
        rw [List.length_cons] at hle
        omega
      have hmore : ∀ started, line ∈ frame.lines started taken.2 →
          ∃ started row, row <:+: cs ∧ line = frame.indent started ++ row.flatten := by
        intro started hline
        obtain ⟨started', row, hrow, heq⟩ := ih _ hlength hline rfl
        have hrest : taken.2 <:+ cs := (hsplit ▸ List.suffix_append taken.1 taken.2).trans hsuffix
        exact ⟨started', row, hrow.trans hrest.isInfix, heq⟩
      split at h
      · exact hmore started h
      · rcases List.mem_cons.1 h with rfl | h
        · have hfirst : taken.1 <:+: cs := (hsplit ▸ List.prefix_append taken.1 taken.2).isInfix.trans hsuffix.isInfix
          exact ⟨started, _, (dropLastBlank_isPrefix _).isInfix.trans hfirst, rfl⟩
        · exact hmore true h

end BotApi.Text
