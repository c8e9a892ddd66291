import BotApi.TypeExpr.Basic
import BotApi.Unicode.Blank

/-!
# Reading type expressions

The word `or` between white space separates alternatives, and `Array of` binds more tightly than it. What is
left between them names a primitive or a type; white space inside such a name is kept.
-/

namespace BotApi.TypeExpr

open Unicode (isBlank trim trimRight)

theorem length_trimRight_le (cs : List Char) : (trimRight cs).length ≤ cs.length := by
  have h := (List.dropWhile_suffix isBlank (l := cs.reverse)).length_le
  simpa [trimRight] using h

theorem length_trim_le (cs : List Char) : (trim cs).length ≤ cs.length :=
  Nat.le_trans (length_trimRight_le _) (List.dropWhile_suffix _).length_le

/-- What follows a separator, if the text starts with one: white space, `or`, and white space. -/
def afterOr? (cs : List Char) : Option (List Char) :=
  match cs with
  | [] => none
  | c :: _ =>
    if isBlank c then
      match cs.dropWhile isBlank with
      | 'o' :: 'r' :: b :: rest => if isBlank b then some (rest.dropWhile isBlank) else none
      | _ => none
    else none

theorem length_afterOr?_lt {cs tail : List Char} (h : afterOr? cs = some tail) :
    tail.length < cs.length := by
  unfold afterOr? at h
  split at h
  · simp at h
  · next c rest =>
    split at h
    · split at h
      · next b more heq =>
        split at h
        · simp only [Option.some.injEq] at h
          subst h
          -- the separator is at least its two letters and the blank after them
          have h₁ := (List.dropWhile_suffix isBlank (l := more)).length_le
          have h₂ := (List.dropWhile_suffix isBlank (l := c :: rest)).length_le
          rw [heq] at h₂
          simp only [List.length_cons] at h₁ h₂ ⊢
          omega
        · simp at h
      · simp at h
    · simp at h

/-- The texts between separators. The first argument holds the characters since the last one, the latest
first. -/
def splitOr (seen : List Char) (cs : List Char) : List (List Char) :=
  match cs with
  | [] => [seen.reverse]
  | c :: rest =>
    match _h : afterOr? (c :: rest) with
    | some tail => seen.reverse :: splitOr [] tail
    | none => splitOr (c :: seen) rest
termination_by cs.length
decreasing_by
  · exact length_afterOr?_lt _h
  · simp

theorem splitOr_nil (seen : List Char) : splitOr seen [] = [seen.reverse] := by
  unfold splitOr
  rfl

theorem splitOr_of_some {seen rest tail : List Char} {c : Char} (h : afterOr? (c :: rest) = some tail) :
    splitOr seen (c :: rest) = seen.reverse :: splitOr [] tail := by
  rw [splitOr.eq_def]
  dsimp only
  split
  · next heq =>
    cases h.symm.trans heq
    rfl
  · next heq => cases h.symm.trans heq

theorem splitOr_of_none {seen rest : List Char} {c : Char} (h : afterOr? (c :: rest) = none) :
    splitOr seen (c :: rest) = splitOr (c :: seen) rest := by
  rw [splitOr.eq_def]
  dsimp only
  split
  · next heq => cases h.symm.trans heq
  · rfl

theorem length_splitOr_le (seen cs : List Char) : (splitOr seen cs).length ≤ cs.length + 1 := by
  induction seen, cs using splitOr.induct with
  | case1 seen => simp [splitOr_nil]
  | case2 seen c rest tail htail ih =>
    have hlt := length_afterOr?_lt htail
    rw [splitOr_of_some htail, List.length_cons]
    omega
  | case3 seen c rest hnone ih =>
    rw [splitOr_of_none hnone, List.length_cons]
    omega

/-- With each separator the parts get shorter, if only by one character. -/
theorem length_add_le_of_mem_splitOr {seen cs part : List Char} (h : part ∈ splitOr seen cs) :
    part.length + (splitOr seen cs).length ≤ seen.length + cs.length + 1 := by
  induction seen, cs using splitOr.induct with
  | case1 seen =>
    rw [splitOr_nil, List.mem_singleton] at h
    simp [h, splitOr_nil]
  | case2 seen c rest tail htail ih =>
    have hlt := length_afterOr?_lt htail
    rw [splitOr_of_some htail] at h ⊢
    rw [List.length_cons]
    rcases List.mem_cons.1 h with rfl | h
    · have hparts := length_splitOr_le [] tail
      rw [List.length_reverse]
      omega
    · have hpart := ih h
      rw [List.length_nil] at hpart
      omega
  | case3 seen c rest hnone ih =>
    rw [splitOr_of_none hnone] at h ⊢
    have hpart := ih h
    rw [List.length_cons] at hpart ⊢
    omega

/-- Where there is a separator each part is shorter than the text. -/
theorem length_lt_of_mem_splitOr {cs part : List Char} (h : part ∈ splitOr [] cs)
    (hparts : 1 < (splitOr [] cs).length) : part.length < cs.length := by
  have hpart := length_add_le_of_mem_splitOr h
  rw [List.length_nil] at hpart
  omega

/-- What an array text starts with. -/
def arrayWords : List Char := "Array of ".toList

/-- The text of the items, if the text is that of an array. -/
def afterArray? (cs : List Char) : Option (List Char) :=
  if arrayWords.isPrefixOf cs then some (cs.drop arrayWords.length) else none

theorem length_afterArray?_lt {cs tail : List Char} (h : afterArray? cs = some tail) :
    tail.length < cs.length := by
  unfold afterArray? at h
  split at h
  · next hp =>
    simp only [Option.some.injEq] at h
    subst h
    have h₁ := (List.isPrefixOf_iff_prefix.1 hp).length_le
    have h₂ : arrayWords.length = 9 := by decide
    rw [List.length_drop]
    omega
  · simp at h

/-- The primitive or the type of a name. -/
def named (name : String) : TypeExpr :=
  match Primitive.ofName? name with
  | some p => .primitive p
  | none => .ref name

/-- The expression of a text without separators. -/
def ofAtom (cs : List Char) : TypeExpr :=
  match _h : afterArray? (trim cs) with
  | some rest => .array (ofAtom rest)
  | none => named (String.ofList (trim cs))
termination_by cs.length
decreasing_by
  exact Nat.lt_of_lt_of_le (length_afterArray?_lt _h) (length_trim_le cs)

theorem ofAtom_of_some {cs rest : List Char} (h : afterArray? (trim cs) = some rest) :
    ofAtom cs = .array (ofAtom rest) := by
  rw [ofAtom]
  split
  · next heq =>
    cases h.symm.trans heq
    rfl
  · next heq => cases h.symm.trans heq

theorem ofAtom_of_none {cs : List Char} (h : afterArray? (trim cs) = none) :
    ofAtom cs = named (String.ofList (trim cs)) := by
  rw [ofAtom]
  split
  · next heq => cases h.symm.trans heq
  · rfl

/-- The alternatives of a text. -/
def readAlternatives (text : String) : List TypeExpr :=
  (splitOr [] (trim text.toList)).map ofAtom

/-- The expression of a list of texts, each of which adds its alternatives. -/
def ofTexts (texts : List String) : TypeExpr :=
  anyOf (texts.flatMap readAlternatives)

end BotApi.TypeExpr
