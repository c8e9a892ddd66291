import BotApi.Package.Literal
import BotApi.Package.Source
import BotApi.Proofs.Lists
import BotApi.Proofs.Text.Fill

/-!
# Docstrings do not end early

A docstring stands between triple quotes, and what it says comes from documentation of any kind. Escaping takes care of
quotes and of reverse solidi in a description. But afterwards the description is broken into lines, and put together
with names and headers that nobody escapes. What survives all of this is a property of single characters and of their
neighbours, `Inner`: each reverse solidus is the first half of an escape, and no three quotes stand in a row that are
not escaped. White space is in no escape and among no quotes, and so a text can be cut and joined where it has some.

## Main results

* `unescape_escapeDoc` — escaped documentation stands for the documentation.
* `Inner.append_cons`, `Inner.of_append` — joining and cutting at a character that is neither a quote nor a solidus.
* `inner_fill` — filling keeps the property.
* `splitLiteral_append` — a literal with the property ends where its closing quotes are.
* `docstring_is_closed` — docstrings of any descriptions have it.
-/

namespace BotApi.Package

/-! ## Escaped documentation -/

variable {c : Char} {text rest : List Char}

theorem unescape_cons (hc : c ≠ '\\') (rest : List Char) : unescape (c :: rest) = (c :: ·) <$> unescape rest := by
  rw [unescape, valueAfter, if_neg hc]
  rfl

theorem unescape_escaped (hc : c = '\\' ∨ c = '"') (rest : List Char) :
    unescape ('\\' :: c :: rest) = (c :: ·) <$> unescape rest := by
  have hvalue : escapeValue (c :: rest) = some ([c], 1) := by
    rcases hc with rfl | rfl <;> rfl
  rw [unescape, valueAfter, if_pos rfl, hvalue]
  show (valueAfter 1 (c :: rest)).bind _ = _
  rw [valueAfter, unescape]
  cases valueAfter 0 rest <;> rfl

theorem escapeDoc_solidus (rest : List Char) : escapeDoc ('\\' :: rest) = '\\' :: '\\' :: escapeDoc rest := by
  rw [escapeDoc.eq_def]
  rfl

/-- A character that is neither a solidus nor the first of three quotes stays. -/
theorem escapeDoc_cons (hc : c ≠ '\\') (hquotes : c = '"' → ¬ ['"', '"'] <+: rest) :
    escapeDoc (c :: rest) = c :: escapeDoc rest := by
  rw [escapeDoc.eq_def]
  split
  · next heq => cases heq
  · next tail heq =>
    obtain ⟨rfl, rfl⟩ := List.cons.inj heq
    exact absurd (List.prefix_append ['"', '"'] tail) (hquotes rfl)
  · next heq =>
    obtain ⟨rfl, rfl⟩ := List.cons.inj heq
    rw [if_neg hc]

/-- Escaped documentation stands for the documentation. -/
theorem unescape_escapeDoc (text : List Char) : unescape (escapeDoc text) = some text := by
  induction text using escapeDoc.induct with
  | case1 => rfl
  | case2 rest ih =>
    rw [escapeDoc, unescape_escaped (.inr rfl), unescape_escaped (.inr rfl), unescape_escaped (.inr rfl), ih]
    rfl
  | case3 rest hquotes ih =>
    rw [escapeDoc_solidus, unescape_escaped (.inl rfl), ih]
    rfl
  | case4 c rest hquotes hc ih =>
    have hnot : c = '"' → ¬ ['"', '"'] <+: rest := by
      rintro rfl ⟨tail, rfl⟩
      exact hquotes tail rfl rfl
    rw [escapeDoc_cons hc hnot, unescape_cons hc, ih]
    rfl

/-! ## What cannot end a literal -/

/-- Whether a character is neither a quote nor a reverse solidus. -/
def IsOrdinary (c : Char) : Prop := c ≠ '"' ∧ c ≠ '\\'

instance : DecidablePred IsOrdinary := fun _ => inferInstanceAs (Decidable (_ ∧ _))

/-- Whether a text, after so many quotes that are not escaped, is no end of a literal: a reverse solidus escapes another
one or a quote, and there are no three quotes in a row that are not escaped. -/
inductive Inner : Nat → List Char → Prop
  | nil (quotes : Nat) : Inner quotes []
  | quote {quotes : Nat} {rest : List Char} (few : quotes < 2) (h : Inner (quotes + 1) rest) :
    Inner quotes ('"' :: rest)
  | escape {quotes : Nat} {c : Char} {rest : List Char} (hc : c = '\\' ∨ c = '"') (h : Inner 0 rest) :
    Inner quotes ('\\' :: c :: rest)
  | ordinary {quotes : Nat} {c : Char} {rest : List Char} (hc : IsOrdinary c) (h : Inner 0 rest) :
    Inner quotes (c :: rest)

namespace Inner

variable {m n : Nat} {a b : List Char}

/-- Fewer quotes before the text are as good. -/
theorem mono (hle : m ≤ n) (h : Inner n text) : Inner m text := by
  induction h generalizing m with
  | nil => exact .nil m
  | quote few _ ih => exact .quote (by omega) (ih (by omega))
  | escape hc h _ => exact .escape hc h
  | ordinary hc h _ => exact .ordinary hc h

/-- An ordinary character joins two such texts. -/
theorem append_cons (ha : Inner n a) (hc : IsOrdinary c) (hb : Inner 0 b) : Inner n (a ++ c :: b) := by
  induction ha with
  | nil => exact .ordinary hc hb
  | quote few _ ih => exact .quote few ih
  | escape hd _ ih => exact .escape hd ih
  | ordinary hd _ ih => exact .ordinary hd ih

/-- At an ordinary character such a text can be cut. -/
theorem of_append (hc : IsOrdinary c) (h : Inner n (a ++ c :: b)) : Inner n a ∧ Inner 0 b := by
  generalize htext : a ++ c :: b = text at h
  -- the cut is not at a quote or a solidus, and so before it stands all of what is read there
  induction h generalizing a with
  | nil => simp at htext
  | quote few _ ih =>
    cases a with
    | nil => exact absurd (List.cons.inj htext).1 hc.1
    | cons d a =>
      obtain ⟨rfl, hrest⟩ := List.cons.inj htext
      exact ⟨.quote few (ih hrest).1, (ih hrest).2⟩
  | escape hd _ ih =>
    cases a with
    | nil => exact absurd (List.cons.inj htext).1 hc.2
    | cons d a =>
      obtain ⟨rfl, hafter⟩ := List.cons.inj htext
      cases a with
      | nil =>
        -- what a solidus escapes is not ordinary
        obtain ⟨rfl, -⟩ := List.cons.inj hafter
        exact (hd.elim hc.2 hc.1).elim
      | cons e a =>
        obtain ⟨rfl, hrest⟩ := List.cons.inj hafter
        exact ⟨.escape hd (ih hrest).1, (ih hrest).2⟩
  | ordinary hd h ih =>
    cases a with
    | nil =>
      obtain ⟨rfl, rfl⟩ := List.cons.inj htext
      exact ⟨.nil _, h⟩
    | cons e a =>
      obtain ⟨rfl, hrest⟩ := List.cons.inj htext
      exact ⟨.ordinary hd (ih hrest).1, (ih hrest).2⟩

/-- Ordinary characters may come before it. -/
theorem ordinary_append (ha : ∀ c ∈ a, IsOrdinary c) (hb : Inner 0 b) : Inner 0 (a ++ b) := by
  induction a with
  | nil => exact hb
  | cons c a ih =>
    obtain ⟨hc, ha⟩ := List.forall_mem_cons.1 ha
    exact .ordinary hc (ih ha)

theorem of_ordinary (h : ∀ c ∈ text, IsOrdinary c) : Inner 0 text := by
  have happend := ordinary_append h (.nil 0)
  rwa [List.append_nil] at happend

/-- Ordinary characters may come after it. -/
theorem append_ordinary (ha : Inner n a) (hb : ∀ c ∈ b, IsOrdinary c) : Inner n (a ++ b) := by
  cases b with
  | nil => rwa [List.append_nil]
  | cons c b =>
    obtain ⟨hc, hb⟩ := List.forall_mem_cons.1 hb
    exact ha.append_cons hc (of_ordinary hb)

/-- Ordinary characters join two such texts, if there are any. -/
theorem append_append {between : List Char} (ha : Inner n a) (hbetween : ∀ c ∈ between, IsOrdinary c)
    (hne : between ≠ []) (hb : Inner 0 b) : Inner n (a ++ between ++ b) := by
  cases between with
  | nil => exact (hne rfl).elim
  | cons c more =>
    obtain ⟨hc, hmore⟩ := List.forall_mem_cons.1 hbetween
    rw [List.append_assoc, List.cons_append]
    exact ha.append_cons hc (ordinary_append hmore hb)

end Inner

/-- Texts that cannot end a literal cannot when ordinary characters join them. -/
theorem inner_intercalate {between : List Char} (hbetween : ∀ c ∈ between, IsOrdinary c) (hne : between ≠ [])
    {parts : List (List Char)} (h : ∀ part ∈ parts, Inner 0 part) : Inner 0 (between.intercalate parts) := by
  induction parts with
  | nil => exact .nil 0
  | cons part parts ih =>
    obtain ⟨hfirst, hrest⟩ := List.forall_mem_cons.1 h
    cases parts with
    | nil => rwa [List.intercalate_singleton]
    | cons next parts =>
      rw [List.intercalate_cons_cons]
      exact hfirst.append_append hbetween hne (ih hrest)

/-- Escaped documentation cannot end a literal, not even after quotes that would make three with those it starts
with. -/
theorem inner_escapeDoc (text : List Char) {quotes : Nat}
    (hquotes : quotes = 0 ∨ ¬ List.replicate (3 - quotes) '"' <+: text) : Inner quotes (escapeDoc text) := by
  induction text using escapeDoc.induct generalizing quotes with
  | case1 => exact .nil quotes
  | case2 rest ih =>
    rw [escapeDoc]
    exact .escape (.inr rfl) (.escape (.inr rfl) (.escape (.inr rfl) (ih (.inl rfl))))
  | case3 rest _ ih =>
    rw [escapeDoc_solidus]
    exact .escape (.inl rfl) (ih (.inl rfl))
  | case4 c rest hthree hc ih =>
    have hnot : c = '"' → ¬ ['"', '"'] <+: rest := by
      rintro rfl ⟨tail, rfl⟩
      exact hthree tail rfl rfl
    rw [escapeDoc_cons hc hnot]
    by_cases hquote : c = '"'
    · subst hquote
      -- with this one there are one or two quotes, and the rest does not make them three
      have hfew : quotes < 2 ∧ ¬ List.replicate (3 - (quotes + 1)) '"' <+: rest := by
        rcases hquotes with rfl | hquotes
        · exact ⟨by omega, hnot rfl⟩
        · have hless : ∀ k, ¬ List.replicate k '"' <+: '"' :: rest →
              1 < k ∧ ¬ List.replicate (k - 1) '"' <+: rest := by
            intro k hk
            rcases k with _ | _ | k
            · exact absurd List.nil_prefix hk
            · exact absurd (List.prefix_append ['"'] rest) hk
            · exact ⟨by omega, fun hrest => hk (List.cons_prefix_cons.2 ⟨rfl, hrest⟩)⟩
          obtain ⟨hlt, hrest⟩ := hless _ hquotes
          exact ⟨by omega, by rwa [← Nat.sub_sub]⟩
      exact .quote hfew.1 (ih (.inr hfew.2))
    · exact .ordinary ⟨hquote, hc⟩ (ih (.inl rfl))

/-! ## Filling -/

theorem isOrdinary_space : IsOrdinary ' ' := by decide

theorem isOrdinary_newline : IsOrdinary '\n' := by decide

/-- Tabs become spaces, of which there is one at least. -/
theorem inner_expandTabs {n : Nat} (h : Inner n text) (column : Nat) : Inner n (Text.expandTabs column text) := by
  induction h generalizing column with
  | nil => exact .nil _
  | quote few _ ih => exact .quote few (ih _)
  | escape hc _ ih =>
    rcases hc with rfl | rfl
    · exact .escape (.inl rfl) (ih _)
    · exact .escape (.inr rfl) (ih _)
  | @ordinary quotes c rest hc _ ih =>
    rw [Text.expandTabs]
    split
    · -- a space to begin with, and perhaps more
      obtain ⟨gap, hgap⟩ : ∃ gap, 8 - column % 8 = gap + 1 := ⟨7 - column % 8, by omega⟩
      dsimp only
      rw [hgap, List.replicate_succ, List.cons_append]
      refine .ordinary isOrdinary_space (.ordinary_append (fun d hd => ?_) (ih _))
      rw [List.eq_of_mem_replicate hd]
      exact isOrdinary_space
    · split
      · exact .ordinary hc (ih _)
      · exact .ordinary hc (ih _)

theorem inner_map_break {n : Nat} (h : Inner n text) :
    Inner n (text.map fun c => if Text.isBreak c then ' ' else c) := by
  induction h with
  | nil => exact .nil _
  | quote few _ ih => exact .quote few ih
  | escape hc _ ih =>
    rcases hc with rfl | rfl
    · exact .escape (.inl rfl) ih
    · exact .escape (.inr rfl) ih
  | ordinary hc _ ih =>
    rw [List.map_cons]
    split
    · exact .ordinary isOrdinary_space ih
    · exact .ordinary hc ih

theorem inner_spaced (h : Inner 0 text) : Inner 0 (Text.spaced text) := inner_map_break (inner_expandTabs h 0)

/-- Between chunks there is a space to cut the text at. -/
theorem inner_of_flatten_append {before after : List (List Char)} (halt : Text.Alternating (before ++ after))
    (h : Inner 0 (before ++ after).flatten) : Inner 0 before.flatten ∧ Inner 0 after.flatten := by
  rw [List.flatten_append] at h
  -- that space belongs to the chunks on the one side or on the other
  rcases Text.space_at_boundary halt with rfl | rfl | ⟨front, hfront⟩ | ⟨back, hback⟩
  · exact ⟨.nil 0, h⟩
  · rw [List.flatten_nil, List.append_nil] at h
    exact ⟨h, .nil 0⟩
  · rw [hfront, List.append_assoc, List.singleton_append] at h
    obtain ⟨hbefore, hafter⟩ := Inner.of_append isOrdinary_space h
    exact ⟨hfront ▸ hbefore.append_cons isOrdinary_space (.nil 0), hafter⟩
  · rw [hback] at h
    obtain ⟨hbefore, hafter⟩ := Inner.of_append isOrdinary_space h
    exact ⟨hbefore, hback ▸ .ordinary isOrdinary_space hafter⟩

/-- So is any row of neighbouring chunks. -/
theorem inner_row (h : Inner 0 text) {row : List (List Char)} (hrow : row <:+: Text.chunks text) :
    Inner 0 row.flatten := by
  obtain ⟨before, after, heq⟩ := hrow
  have halt := Text.alternating_chunks text
  have hwhole := inner_spaced h
  rw [← Text.flatten_chunks] at hwhole
  rw [← heq] at halt hwhole
  have hfront := (inner_of_flatten_append halt hwhole).1
  exact (inner_of_flatten_append halt.left_of_append hfront).2

/-- A filled paragraph cannot end a literal if the text cannot, and if its indents are ordinary. -/
theorem inner_fill (frame : Text.Frame) (hfirst : ∀ c ∈ frame.first, IsOrdinary c)
    (hothers : ∀ c ∈ frame.others, IsOrdinary c) (h : Inner 0 text) : Inner 0 (frame.fill text) := by
  have hlines : ∀ line ∈ frame.lines false (Text.chunks text), Inner 0 line := by
    intro line hline
    obtain ⟨started, row, hrow, rfl⟩ := Text.exists_infix_of_mem_lines hline
    have hindent : ∀ c ∈ frame.indent started, IsOrdinary c := by
      cases started with
      | false => exact hfirst
      | true => exact hothers
    exact .ordinary_append hindent (inner_row h hrow)
  exact inner_intercalate (List.forall_mem_singleton.2 isOrdinary_newline) (List.cons_ne_nil _ _) hlines

/-! ## Literals -/

/-- A character that is neither a solidus nor the first of three quotes belongs to the literal. -/
theorem splitLiteral_cons (hc : c ≠ '\\') (hquotes : c = '"' → ¬ ['"', '"'] <+: rest) :
    splitLiteral (c :: rest) = (splitLiteral rest).map fun r => (c :: r.1, r.2) := by
  rw [splitLiteral.eq_def]
  split
  · next tail heq =>
    obtain ⟨rfl, rfl⟩ := List.cons.inj heq
    exact absurd (List.prefix_append ['"', '"'] tail) (hquotes rfl)
  · next heq => exact absurd (List.cons.inj heq).1 hc
  · next heq => exact absurd (List.cons.inj heq).1 hc
  · next heq => cases heq
  · next heq =>
    obtain ⟨rfl, rfl⟩ := List.cons.inj heq
    rfl

theorem splitLiteral_ordinary (hc : IsOrdinary c) (rest : List Char) :
    splitLiteral (c :: rest) = (splitLiteral rest).map fun r => (c :: r.1, r.2) :=
  splitLiteral_cons hc.2 fun hquote => absurd hquote hc.1

/-- After a quote there are no two more. -/
theorem Inner.not_quotes {quotes : Nat} (h : Inner (quotes + 1) text) (hc : IsOrdinary c) (rest : List Char) :
    ¬ ['"', '"'] <+: text ++ c :: rest := by
  intro hprefix
  -- with the quote before the text, two more would be three
  cases h with
  | nil => exact hc.1 (List.cons_prefix_cons.1 hprefix).1.symm
  | quote few h =>
    have hsecond := (List.cons_prefix_cons.1 hprefix).2
    cases h with
    | nil => exact hc.1 (List.cons_prefix_cons.1 hsecond).1.symm
    | quote fewer _ => omega
    | escape _ _ => exact absurd (List.cons_prefix_cons.1 hsecond).1 (by decide)
    | ordinary hd _ => exact hd.1 (List.cons_prefix_cons.1 hsecond).1.symm
  | escape _ _ => exact absurd (List.cons_prefix_cons.1 hprefix).1 (by decide)
  | ordinary hd _ => exact hd.1 (List.cons_prefix_cons.1 hprefix).1.symm

/-- A text that cannot end a literal belongs to it, with an ordinary character after it. -/
theorem splitLiteral_append {quotes : Nat} (h : Inner quotes text) (hc : IsOrdinary c) (rest : List Char) :
    splitLiteral (text ++ c :: rest) = (splitLiteral rest).map fun r => (text ++ c :: r.1, r.2) := by
  induction h with
  | nil => exact splitLiteral_ordinary hc rest
  | quote _ h ih =>
    rw [List.cons_append, splitLiteral_cons (by decide) fun _ => h.not_quotes hc rest, ih, Option.map_map]
    rfl
  | escape hd _ ih =>
    rw [List.cons_append, List.cons_append, splitLiteral, ih, Option.map_map]
    rfl
  | ordinary hd _ ih =>
    rw [List.cons_append, splitLiteral_ordinary hd, ih, Option.map_map]
    rfl

/-- The literal ends at the quotes that come after ordinary characters. -/
theorem splitLiteral_close {indent : List Char} (h : ∀ c ∈ indent, IsOrdinary c) (rest : List Char) :
    splitLiteral (indent ++ '"' :: '"' :: '"' :: rest) = some (indent, rest) := by
  induction indent with
  | nil => rfl
  | cons c indent ih =>
    obtain ⟨hc, h⟩ := List.forall_mem_cons.1 h
    rw [List.cons_append, splitLiteral_ordinary hc, ih h]
    rfl

/-- A text that cannot end a literal stands for some text. -/
theorem exists_unescape {quotes : Nat} (h : Inner quotes text) : ∃ value, unescape text = some value := by
  -- how many quotes come before makes no difference to what escapes stand for
  induction h with
  | nil => exact ⟨[], rfl⟩
  | quote _ _ ih =>
    obtain ⟨value, hvalue⟩ := ih
    exact ⟨'"' :: value, by rw [unescape_cons (by decide), hvalue]; rfl⟩
  | @escape _ c _ hc _ ih =>
    obtain ⟨value, hvalue⟩ := ih
    exact ⟨c :: value, by rw [unescape_escaped hc, hvalue]; rfl⟩
  | @ordinary _ c _ hc _ ih =>
    obtain ⟨value, hvalue⟩ := ih
    exact ⟨c :: value, by rw [unescape_cons hc.2, hvalue]; rfl⟩

/-! ## Names and headers -/

/-- Whether a text has neither quotes nor reverse solidi. -/
def IsBare (s : String) : Prop := ∀ c ∈ s.toList, IsOrdinary c

instance : DecidablePred IsBare := fun s => List.decidableBAll IsOrdinary s.toList

theorem IsBare.append {s t : String} (hs : IsBare s) (ht : IsBare t) : IsBare (s ++ t) := by
  unfold IsBare
  rw [String.toList_append, List.forall_mem_append]
  exact ⟨hs, ht⟩

/-- Whether a name is one or more identifiers with dots between them. -/
def isDotted (name : String) : Bool := (name.toList.splitOn '.').all Unicode.isIdentifier

theorem isBare_of_isDotted {name : String} (h : isDotted name = true) : IsBare name := by
  have hjoin : ['.'].intercalate (name.toList.splitOn '.') = name.toList := List.intercalate_splitOn '.'
  unfold IsBare
  rw [← hjoin]
  refine forall_mem_intercalate (List.forall_mem_singleton.2 (by decide)) fun part hm c hc => ?_
  -- neither character can stand in an identifier
  have hidentifier := List.all_eq_true.1 h part hm
  constructor
  · rintro rfl
    exact Unicode.not_mem_of_isIdentifier rfl rfl hidentifier hc
  · rintro rfl
    exact Unicode.not_mem_of_isIdentifier rfl rfl hidentifier hc

theorem isBare_primitiveDoc (p : Primitive) : IsBare (primitiveDoc p) := by
  cases p <;> decide

mutual

theorem isBare_typeDoc {package : String} (hp : isDotted package = true) :
    ∀ e : TypeExpr, (∀ name ∈ e.refs, isDotted name = true) → IsBare (typeDoc package e)
  | .primitive p, _ => isBare_primitiveDoc p
  | .array item, h => .append (by decide) (isBare_typeDoc hp item h)
  | .union options, h => by
    rw [typeDoc]
    have hbetween : IsBare " | " := by decide
    unfold IsBare
    rw [String.toList_intercalate]
    exact forall_mem_intercalate hbetween (List.forall_mem_map.2 (isBare_optionDocs hp options h))
  | .ref name, h => by
    have hname := isBare_of_isDotted (h name (List.mem_singleton.2 rfl))
    exact .append (.append (.append (.append (by decide) (isBare_of_isDotted hp)) (by decide)) hname) (by decide)

theorem isBare_optionDocs {package : String} (hp : isDotted package = true) :
    ∀ options : List TypeExpr, (∀ name ∈ TypeExpr.optionRefs options, isDotted name = true) →
      ∀ doc ∈ optionDocs package options, IsBare doc
  | [], _ => by simp [optionDocs]
  | e :: rest, h => by
    rw [TypeExpr.optionRefs, List.forall_mem_append] at h
    exact List.forall_mem_cons.2 ⟨isBare_typeDoc hp e h.1, isBare_optionDocs hp rest h.2⟩

end

/-! ## Docstrings -/

/-- Whether a text cannot end a literal. -/
def IsInner (s : String) : Prop := Inner 0 s.toList

section

variable {s t : String}

theorem IsBare.isInner (h : IsBare s) : IsInner s := .of_ordinary h

theorem IsInner.append_bare (hs : IsInner s) (ht : IsBare t) : IsInner (s ++ t) := by
  unfold IsInner
  rw [String.toList_append]
  exact hs.append_ordinary ht

theorem IsInner.bare_append (hs : IsBare s) (ht : IsInner t) : IsInner (s ++ t) := by
  unfold IsInner
  rw [String.toList_append]
  exact .ordinary_append hs ht

/-- Texts with something bare between them. -/
theorem IsInner.join {between : String} (hs : IsInner s) (hbetween : IsBare between) (hne : between ≠ "")
    (ht : IsInner t) : IsInner (s ++ between ++ t) := by
  unfold IsInner
  rw [String.toList_append, String.toList_append]
  refine hs.append_append hbetween (fun hnil => hne ?_) ht
  exact String.toList_inj.1 hnil

/-- A section of a docstring: nothing, or a text after a blank line. -/
def IsSection (s : String) : Prop := s = "" ∨ ∃ t, s = "\n\n" ++ t ∧ IsInner t

theorem IsInner.append_section (hs : IsInner s) (ht : IsSection t) : IsInner (s ++ t) := by
  rcases ht with rfl | ⟨u, rfl, hu⟩
  · exact hs.append_bare (by decide)
  · rw [← String.append_assoc]
    exact hs.join (by decide) (by decide) hu

theorem isInner_fillDoc {first others : String} (hfirst : IsBare first) (hothers : IsBare others)
    {text : List Char} (h : Inner 0 text) : IsInner (fillDoc first others text) := by
  unfold IsInner
  rw [fillDoc, String.toList_ofList]
  exact inner_fill _ hfirst hothers h

end

/-- Descriptions of any texts, as paragraphs. -/
theorem isInner_paragraphs {indent : String} (hindent : IsBare indent) (first : Bool) (description : List String) :
    IsInner (paragraphs indent first description) := by
  induction description generalizing first with
  | nil => exact .nil 0
  | cons x rest ih =>
    have hfirst : IsBare (if first then "" else indent) := by
      split
      · decide
      · exact hindent
    have hfilled := isInner_fillDoc hfirst hindent (inner_escapeDoc (paragraph x).toList (.inl rfl))
    have hempty : IsBare "" := by decide
    have hline : IsBare "\n" := by decide
    have hblank : IsBare "\n\n" := by decide
    rw [paragraphs]
    cases rest with
    | nil => exact (hfilled.append_bare hempty).append_bare hempty
    | cons next rest =>
      rw [List.isEmpty_cons, if_neg Bool.false_ne_true]
      by_cases hitem : (paragraph x).startsWith "-" = true
      · rw [if_pos hitem]
        exact hfilled.join hline (by decide) (ih false)
      · rw [if_neg hitem]
        exact hfilled.join hblank (by decide) (ih false)

theorem isInner_fieldDoc {package indent : String} (hp : isDotted package = true) (hindent : IsBare indent)
    {f : FieldBinding} (hf : isDotted f.name = true ∧ ∀ name ∈ f.type.refs, isDotted name = true) :
    IsInner (fieldDoc package indent f) := by
  have hunit : IsBare indentUnit := by decide
  have hitem := hindent.append hunit
  have htype : IsBare (fieldTypeDoc package f) := by
    refine (isBare_typeDoc hp f.type hf.2).append ?_
    split <;> decide
  have hheader : IsBare (f.name ++ " (" ++ fieldTypeDoc package f ++ "):") :=
    (((isBare_of_isDotted hf.1).append (by decide)).append htype).append (by decide)
  -- the header is not escaped, but it has nothing to escape
  have hfirst := isInner_fillDoc hitem hitem hheader.isInner
  exact hfirst.join (by decide) (by decide)
    (isInner_fillDoc (hitem.append hunit) (hitem.append hunit) (inner_escapeDoc _ (.inl rfl)))

/-- A docstring cannot end its literal, whatever the descriptions say. -/
theorem isInner_docstring {package indent : String} (hp : isDotted package = true) (hindent : IsBare indent)
    (description : List String) {fields : List FieldBinding}
    (hfields : ∀ f ∈ fields, isDotted f.name = true ∧ ∀ name ∈ f.type.refs, isDotted name = true)
    {returns : Option TypeExpr} (hreturns : ∀ e, returns = some e → ∀ name ∈ e.refs, isDotted name = true) :
    IsInner (docstring package indent description fields returns) := by
  have hdocs : IsInner ("\n\n".intercalate (fields.map (fieldDoc package indent))) := by
    have hblank : IsBare "\n\n" := by decide
    unfold IsInner
    rw [String.toList_intercalate]
    refine inner_intercalate hblank (by decide) (List.forall_mem_map.2 (List.forall_mem_map.2 fun f hf => ?_))
    exact isInner_fieldDoc hp hindent (hfields f hf)
  have hparameters : IsSection (if fields.isEmpty then ""
      else "\n\n" ++ indent ++ "Parameters:\n" ++ "\n\n".intercalate (fields.map (fieldDoc package indent))) := by
    split
    · exact .inl rfl
    · refine .inr ⟨indent ++ "Parameters:\n" ++ "\n\n".intercalate (fields.map (fieldDoc package indent)), ?_, ?_⟩
      · simp only [String.append_assoc]
      · exact .bare_append (hindent.append (by decide)) hdocs
  unfold docstring
  refine ((isInner_paragraphs hindent true description).append_section hparameters).append_section ?_
  cases returns with
  | none => exact .inl rfl
  | some e =>
    refine .inr ⟨indent ++ "Returns:\n" ++ indent ++ indentUnit ++ typeDoc package e, ?_, ?_⟩
    · simp only [String.append_assoc]
    · have htype := isBare_typeDoc hp e (hreturns e rfl)
      exact ((((hindent.append (by decide)).append hindent).append (by decide)).append htype).isInner

/-- A docstring between triple quotes ends at the closing ones, with all escapes complete. -/
theorem splitLiteral_docstring {package indent : String} (hp : isDotted package = true) (hindent : IsBare indent)
    (description : List String) {fields : List FieldBinding}
    (hfields : ∀ f ∈ fields, isDotted f.name = true ∧ ∀ name ∈ f.type.refs, isDotted name = true)
    {returns : Option TypeExpr} (hreturns : ∀ e, returns = some e → ∀ name ∈ e.refs, isDotted name = true)
    (rest : List Char) :
    let literal := docstring package indent description fields returns ++ "\n" ++ indent
    splitLiteral (literal.toList ++ "\"\"\"".toList ++ rest) = some (literal.toList, rest) ∧
      ∃ value, unescape literal.toList = some value := by
  have hinner := isInner_docstring hp hindent description hfields hreturns
  have hliteral : (docstring package indent description fields returns ++ "\n" ++ indent).toList =
      (docstring package indent description fields returns).toList ++ '\n' :: indent.toList := by
    rw [String.toList_append, String.toList_append, List.append_assoc]
    rfl
  dsimp only
  constructor
  · rw [hliteral, List.append_assoc, List.append_assoc, List.cons_append]
    show splitLiteral (_ ++ '\n' :: (indent.toList ++ '"' :: '"' :: '"' :: rest)) = _
    rw [splitLiteral_append hinner isOrdinary_newline, splitLiteral_close hindent]
    rfl
  · exact exists_unescape ((hinner.append_bare (by decide)).append_bare hindent)

/-- Escaped documentation stands for the documentation. And whatever descriptions say, a docstring between triple quotes
ends at the closing ones, with all escapes complete, if the names in it are identifiers with dots between them. -/
theorem docstring_is_closed :
    (∀ text, unescape (escapeDoc text) = some text) ∧
      ∀ (package indent : String) (description : List String) (fields : List FieldBinding)
        (returns : Option TypeExpr),
        isDotted package = true → indent = indentUnit ∨ indent = indentUnit ++ indentUnit →
          (∀ f ∈ fields, isDotted f.name = true ∧ ∀ name ∈ f.type.refs, isDotted name = true) →
            (∀ e, returns = some e → ∀ name ∈ e.refs, isDotted name = true) →
              ∀ rest,
                let literal := docstring package indent description fields returns ++ "\n" ++ indent
                splitLiteral (literal.toList ++ "\"\"\"".toList ++ rest) = some (literal.toList, rest) ∧
                  ∃ value, unescape literal.toList = some value := by
  refine ⟨unescape_escapeDoc, fun package indent description fields returns hp hindent hfields hreturns rest => ?_⟩
  have hbare : IsBare indent := by
    rcases hindent with rfl | rfl <;> decide
  exact splitLiteral_docstring hp hbare description hfields hreturns rest

/-- A field whose description has four quotes in a row and ends with a reverse solidus. -/
def quotingField : FieldBinding :=
  ⟨"text", "text", .union [.primitive .string, .array (.ref "Message")], false, "Optional. A \"\"\"\" or \\"⟩

theorem docstring_is_closed_quoting :
    let literal := docstring "bot.api" indentUnit ["\"\"\"Say\"\"\" one of", "- \\", "\""] [quotingField]
      (some (.ref "Message")) ++ "\n" ++ indentUnit
    splitLiteral (literal.toList ++ "\"\"\"".toList ++ "\n\"\"\"".toList) = some (literal.toList, "\n\"\"\"".toList) ∧
      ∃ value, unescape literal.toList = some value := by
  refine docstring_is_closed.2 "bot.api" indentUnit _ _ _ (by decide) (.inl rfl) ?_ ?_ _
  · exact List.forall_mem_singleton.2 (by decide)
  · rintro e h
    cases h
    decide

end BotApi.Package
