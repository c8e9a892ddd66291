import BotApi.Proofs.Graph.Resolution

/-!
# The names in a hint

A hint is read as a text here: the names in it are the longest pieces that consist of characters of identifiers. If the
names of types are identifiers, then these are the names of builtin types, that of the file type, and those of the types
that the expression refers to; and the three are found by three walks over the expression that pass the same places.

## Main results

* `Text.identifiers_append_cons` — the names of a text are found piece by piece.
* `TypeExpr.identifiers_hint` — the names in a hint.
* `TypeExpr.mem_hintNames_iff` — which names these are.
-/

namespace BotApi

/-! ## Names in a text -/

namespace Unicode

theorem isIdentifierPart_of_start {c : Char} (h : isIdentifierStart c = true) : isIdentifierPart c = true := by
  unfold isIdentifierStart at h
  unfold isIdentifierPart
  split at h
  · next hascii =>
    rw [if_pos hascii]
    rw [Bool.or_eq_true] at h ⊢
    exact h.imp_left fun halpha => by rw [Char.isAlphanum, halpha, Bool.true_or]
  · next hascii => rw [if_neg hascii, h, Bool.true_or]

theorem isIdentifierPart_of_mem {c : Char} {text : List Char} (h : isIdentifier text = true) (hc : c ∈ text) :
    isIdentifierPart c = true := by
  cases text with
  | nil => cases hc
  | cons d rest =>
    rw [isIdentifier, Bool.and_eq_true, List.all_eq_true] at h
    rcases List.mem_cons.1 hc with rfl | hc
    · exact isIdentifierPart_of_start h.1
    · exact h.2 c hc

end Unicode

namespace Text

/-- The names in a text: its longest pieces of characters that can stand in an identifier. -/
def identifiers (text : List Char) : List String :=
  ((text.splitOnP fun c => !Unicode.isIdentifierPart c).filter (· ≠ [])).map String.ofList

variable {c : Char} (hsep : Unicode.isIdentifierPart c = false)

include hsep

/-- The names of a text are found piece by piece. -/
theorem identifiers_append_cons (before after : List Char) :
    identifiers (before ++ c :: after) = identifiers before ++ identifiers after := by
  have hsplit : (!Unicode.isIdentifierPart c) = true := by rw [hsep, Bool.not_false]
  rw [identifiers, List.splitOnP_append_cons (p := fun c => !Unicode.isIdentifierPart c) before after hsplit,
    List.filter_append, List.map_append]
  rfl

theorem identifiers_cons (after : List Char) : identifiers (c :: after) = identifiers after := by
  have hempty : identifiers [] = [] := rfl
  rw [← List.nil_append (c :: after), identifiers_append_cons hsep, hempty, List.nil_append]

omit hsep in
theorem identifiers_of_isIdentifier {name : String} (h : Unicode.isIdentifier name.toList = true) :
    identifiers name.toList = [name] := by
  have hparts : ∀ c ∈ name.toList, (!Unicode.isIdentifierPart c) = false := fun c hc => by
    rw [Unicode.isIdentifierPart_of_mem h hc, Bool.not_true]
  have hne : name.toList ≠ [] := by
    intro hnil
    rw [hnil] at h
    cases h
  have hkept : [name.toList].filter (fun piece => decide (piece ≠ [])) = [name.toList] :=
    List.filter_cons_of_pos (decide_eq_true hne)
  rw [identifiers, List.splitOnP_eq_singleton hparts, hkept, List.map_singleton, String.ofList_toList]

end Text

/-! ## Hints -/

/-- The names that hints take from the language itself. -/
def builtins : List String := ["str", "int", "bool", "float", "tuple", "None"]

namespace TypeExpr

open Text (identifiers identifiers_append_cons identifiers_cons identifiers_of_isIdentifier)

mutual

/-- The names in the hint of an expression, in order. -/
def hintNames : TypeExpr → List String
  | .primitive p => [p.hint]
  | .ref name => [name]
  | .array item => "tuple" :: hintNames item
  | .union options => optionHintNames options

/-- The names in the hints of options. -/
def optionHintNames : List TypeExpr → List String
  | [] => []
  | e :: rest => hintNames e ++ optionHintNames rest

end

theorem identifiers_primitive (p : Primitive) : identifiers p.hint.toList = [p.hint] := by
  cases p <;> decide

mutual

/-- If the types that an expression refers to are identifiers, its hint is a text with these names. -/
theorem identifiers_hint : ∀ e : TypeExpr, (∀ name ∈ e.refs, Unicode.isIdentifier name.toList = true) →
    identifiers e.hint.toList = e.hintNames
  | .primitive p, _ => identifiers_primitive p
  | .ref name, h => identifiers_of_isIdentifier (h name (List.mem_singleton_self _))
  | .array item, h => by
    have htext : (TypeExpr.array item).hint.toList =
        "tuple".toList ++ '[' :: (item.hint.toList ++ ',' :: " ...]".toList) := by
      rw [hint, String.toList_append, String.toList_append, List.append_assoc]
      rfl
    have htuple : identifiers "tuple".toList = ["tuple"] := by decide
    have hdots : identifiers " ...]".toList = [] := by decide
    rw [htext, identifiers_append_cons (by decide), identifiers_append_cons (by decide),
      identifiers_hint item h, htuple, hdots, List.append_nil, hintNames, List.singleton_append]
  | .union options, h => by
    rw [hint, hintNames]
    exact identifiers_optionHints options h

/-- The same of options. -/
theorem identifiers_optionHints : ∀ options : List TypeExpr,
    (∀ name ∈ optionRefs options, Unicode.isIdentifier name.toList = true) →
    identifiers (" | ".intercalate (optionHints options)).toList = optionHintNames options
  | [], _ => rfl
  | [e], h => by
    rw [optionHints, optionHints, String.intercalate_singleton, optionHintNames, optionHintNames, List.append_nil]
    exact identifiers_hint e fun name hname => h name (List.mem_append_left _ hname)
  | e :: next :: rest, h => by
    have htext : (" | ".intercalate (optionHints (e :: next :: rest))).toList =
        e.hint.toList ++ ' ' :: '|' :: ' ' :: (" | ".intercalate (optionHints (next :: rest))).toList := by
      rw [optionHints, optionHints, String.intercalate_cons_cons, String.toList_append, String.toList_append,
        List.append_assoc]
      rfl
    have hfirst := identifiers_hint e fun name hname => h name (List.mem_append_left _ hname)
    have hrest := identifiers_optionHints (next :: rest) fun name hname => h name (List.mem_append_right _ hname)
    rw [htext, identifiers_append_cons (by decide), identifiers_cons (by decide),
      identifiers_cons (by decide), hfirst, hrest]
    rfl

end

theorem hint_mem_builtins {p : Primitive} (h : p ≠ .inputFile) : p.hint ∈ builtins := by
  cases p
  case inputFile => exact absurd rfl h
  all_goals decide

mutual

/-- Apart from builtin names, the names in a hint are those of the types that the expression refers to, and that of the
file type where it is mentioned. -/
theorem mem_hintNames_iff {name : String} (hname : name ∉ builtins) : ∀ e : TypeExpr,
    (name ∈ e.hintNames ↔ name ∈ e.refs ∨ name = "InputFile" ∧ e.mentionsFile = true)
  | .primitive p => by
    rw [hintNames, refs, mentionsFile, List.mem_singleton, decide_eq_true_eq]
    by_cases hp : p = .inputFile
    · subst hp
      simp [Primitive.hint]
    · have hother : name ≠ p.hint := fun heq => hname (heq ▸ hint_mem_builtins hp)
      simp [hp, hother]
  | .ref other => by simp [hintNames, refs, mentionsFile]
  | .array item => by
    have htuple : name ≠ "tuple" := fun heq => hname (heq ▸ by decide)
    rw [hintNames, refs, mentionsFile, List.mem_cons, mem_hintNames_iff hname item]
    simp [htuple]
  | .union options => by
    rw [hintNames, refs, mentionsFile]
    exact mem_optionHintNames_iff hname options

/-- The same of options. -/
theorem mem_optionHintNames_iff {name : String} (hname : name ∉ builtins) : ∀ options : List TypeExpr,
    (name ∈ optionHintNames options ↔
      name ∈ optionRefs options ∨ name = "InputFile" ∧ optionsMentionFile options = true)
  | [] => by simp [optionHintNames, optionRefs, optionsMentionFile]
  | e :: rest => by
    rw [optionHintNames, optionRefs, optionsMentionFile, List.mem_append, List.mem_append, mem_hintNames_iff hname e,
      mem_optionHintNames_iff hname rest, Bool.or_eq_true]
    -- each of the two has both kinds of names
    constructor
    · rintro ((h | ⟨h, hfile⟩) | (h | ⟨h, hfile⟩))
      · exact .inl (.inl h)
      · exact .inr ⟨h, .inl hfile⟩
      · exact .inl (.inr h)
      · exact .inr ⟨h, .inr hfile⟩
    · rintro ((h | h) | ⟨h, hfile | hfile⟩)
      · exact .inl (.inl h)
      · exact .inr (.inl h)
      · exact .inl (.inr ⟨h, hfile⟩)
      · exact .inr (.inr ⟨h, hfile⟩)

end

/-- An expression that is read from texts does not refer to a type under the name of the file type. -/
theorem inputFile_not_mem_refs (texts : List String) : "InputFile" ∉ (ofTexts texts).refs := by
  rw [refs_ofTexts, List.mem_filter]
  rintro ⟨-, hnot⟩
  exact of_decide_eq_true hnot (by decide)

end TypeExpr

end BotApi
