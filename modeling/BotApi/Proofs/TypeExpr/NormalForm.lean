import BotApi.Proofs.TypeExpr.Words
import Mathlib.Data.List.Forall2

/-!
# The normal form of expressions

An expression that is read is a name under some arrays, or a union of at least two of these: what would be a union
inside a union is spread out, and there is no way to write an array of a union. If the names of types are words that
do not separate alternatives, such an expression can be told from the words of its texts, and reading the text that is
printed for it gives it back.

## Main results

* `TypeExpr.IsPlain.ofAtom_toText` — a name under arrays is read back from its text.
* `TypeExpr.readAlternatives_toText` — so are the options of a union.
* `TypeExpr.flatMap_readAlternatives` — the options are the alternatives in the words of the texts.
* `Graph.normal_form_of_resolve` — each expression of a resolved graph has the normal form, and is read back.
-/

namespace BotApi

namespace TypeExpr

open Unicode (isBlank trim)

/-! ## Normal form -/

/-- Whether an expression is a name under arrays, or a union of at least two of these. -/
inductive IsNormal : TypeExpr → Prop
  | atomic {e : TypeExpr} (h : IsAtomic e) : IsNormal e
  | union {options : List TypeExpr} (htwo : 2 ≤ options.length) (h : ∀ o ∈ options, IsAtomic o) :
      IsNormal (.union options)

section

variable {options : List TypeExpr}

theorem isNormal_anyOf (hne : options ≠ []) (h : ∀ o ∈ options, IsAtomic o) : IsNormal (anyOf options) := by
  unfold anyOf
  split
  · exact .atomic (h _ (List.mem_singleton_self _))
  · next hmany =>
    refine .union ?_ h
    -- neither none nor one
    match options, hne, hmany with
    | [e], _, hmany => exact absurd rfl (hmany e)
    | _ :: _ :: _, _, _ => simp

end

theorem flatMap_readAlternatives_ne_nil {texts : List String} (h : texts ≠ []) :
    texts.flatMap readAlternatives ≠ [] := by
  obtain ⟨text, rest, rfl⟩ := List.exists_cons_of_ne_nil h
  rw [List.flatMap_cons, Ne, List.append_eq_nil_iff, readAlternatives, List.map_eq_nil_iff]
  exact fun h => splitOr_ne_nil _ _ h.1

/-! ## Names that are words -/

/-- Whether a name is one word of a text, other than the one that separates alternatives. -/
def IsWord (name : String) : Prop := name ≠ "" ∧ name.toList.any isBlank = false ∧ name ≠ "or"

instance : DecidablePred IsWord := fun _ => inferInstanceAs (Decidable (_ ∧ _ ∧ _))

/-- Whether an expression is a word under arrays. -/
inductive IsPlain : TypeExpr → Prop
  | named {name : String} (h : IsWord name) : IsPlain (named name)
  | array {item : TypeExpr} (h : IsPlain item) : IsPlain (.array item)

theorem named_name (p : Primitive) : named p.name = .primitive p := by
  cases p <;> decide

theorem isWord_name (p : Primitive) : IsWord p.name := by
  cases p <;> decide

theorem named_of_not_isPrimitive {name : String} (h : ¬ IsPrimitive name) : named name = .ref name := by
  rw [IsPrimitive, Option.isSome_iff_ne_none, not_not] at h
  rw [named, h]

/-- An atomic expression that refers to words, none of which is read as a primitive. -/
theorem IsAtomic.isPlain {e : TypeExpr} (h : IsAtomic e) (hrefs : ∀ name ∈ e.refs, IsWord name ∧ ¬ IsPrimitive name) :
    IsPlain e := by
  induction h with
  | primitive p =>
    rw [← named_name p]
    exact .named (isWord_name p)
  | ref name =>
    obtain ⟨hword, hprimitive⟩ := hrefs name (List.mem_singleton_self _)
    rw [← named_of_not_isPrimitive hprimitive]
    exact .named hword
  | array _ ih => exact .array (ih hrefs)

namespace IsWord

variable {name : String} (h : IsWord name)

include h

theorem toList_ne_nil : name.toList ≠ [] := fun hnil => h.1 (String.toList_eq_nil_iff.1 hnil)

theorem words_eq : words name.toList = [name.toList] := words_of_unbroken h.toList_ne_nil h.2.1

theorem afterArray?_eq_none : afterArray? name.toList = none := by
  refine Option.eq_none_iff_forall_ne_some.2 fun rest hrest => ?_
  -- an array has a blank
  have hblank : arrayWords.any isBlank = true := by decide
  have hno := h.2.1
  rw [afterArray?_eq_some_iff.1 hrest, List.any_append, hblank, Bool.true_or] at hno
  cases hno

end IsWord

/-! ## Printing and reading -/

/-- The expression of some words without an `or`. -/
def ofWords : List (List Char) → TypeExpr
  | first :: second :: rest =>
    if first = "Array".toList ∧ second = "of".toList then .array (ofWords rest)
    else named (String.ofList ([' '].intercalate (first :: second :: rest)))
  | few => named (String.ofList ([' '].intercalate few))

namespace IsPlain

variable {e : TypeExpr} (h : IsPlain e)

include h

theorem isTight : IsTight e.toText.toList := by
  induction h with
  | named hword =>
    rw [toText_named]
    exact isTight_of_unbroken hword.toList_ne_nil hword.2.1
  | @array item _ ih =>
    have harray : IsTight "Array of".toList := ⟨⟨'A', rfl, by decide⟩, ⟨'f', rfl, by decide⟩⟩
    rw [toList_toText_array]
    exact harray.append ih [' ']

theorem orWord_not_mem : orWord ∉ words e.toText.toList := by
  induction h with
  | @named name hword =>
    rw [toText_named, hword.words_eq, List.mem_singleton]
    exact fun hor => hword.2.2 (String.toList_inj.1 hor.symm)
  | array _ ih =>
    rw [toList_toText_array, words_append_arrayWords, List.mem_cons, List.mem_cons]
    rintro (hor | hor | hor)
    · exact absurd hor (by decide)
    · exact absurd hor (by decide)
    · exact ih hor

/-- A name under arrays is read back from its text. -/
theorem ofAtom_toText : ofAtom e.toText.toList = e := by
  induction h with
  | @named name hword =>
    have htrim := (isTight_of_unbroken hword.toList_ne_nil hword.2.1).trim_eq
    rw [toText_named, ofAtom_of_none (by rw [htrim, hword.afterArray?_eq_none]), htrim, String.ofList_toList]
  | @array item hitem ih =>
    have harray : afterArray? (trim (TypeExpr.array item).toText.toList) = some item.toText.toList := by
      rw [hitem.array.isTight.trim_eq, afterArray?_eq_some_iff, toList_toText_array]
    rw [ofAtom_of_some harray, ih]

theorem ofWords_words : ofWords (words e.toText.toList) = e := by
  induction h with
  | @named name hword =>
    rw [toText_named, hword.words_eq, ofWords, List.intercalate_singleton, String.ofList_toList]
    simp
  | array _ ih =>
    rw [toList_toText_array, words_append_arrayWords, ofWords, if_pos ⟨rfl, rfl⟩, ih]

end IsPlain

theorem optionTexts_eq (options : List TypeExpr) : optionTexts options = options.map toText := by
  induction options with
  | nil => rfl
  | cons e rest ih => rw [optionTexts, List.map_cons, ih]

theorem toList_toText_anyOf (options : List TypeExpr) :
    (anyOf options).toText.toList = orText.intercalate (options.map fun o => o.toText.toList) := by
  unfold anyOf
  split
  · rw [List.map_singleton, List.intercalate_singleton]
  · rw [toText, String.toList_intercalate, optionTexts_eq, List.map_map]
    rfl

section

variable {options : List TypeExpr}

/-- The options of a union are read back from its text. -/
theorem readAlternatives_toText (hne : options ≠ []) (h : ∀ o ∈ options, IsPlain o) :
    readAlternatives (anyOf options).toText = options := by
  have hne' : (options.map fun o => o.toText.toList) ≠ [] := by simpa using hne
  have htight : ∀ part ∈ options.map fun o => o.toText.toList, IsTight part := by
    simpa using fun o ho => (h o ho).isTight
  have hor : ∀ part ∈ options.map fun o => o.toText.toList, orWord ∉ words part := by
    simpa using fun o ho => (h o ho).orWord_not_mem
  rw [readAlternatives, toList_toText_anyOf, (isTight_intercalate hne' htight).trim_eq,
    splitOr_intercalate hne' htight hor, List.map_map]
  exact (List.map_congr_left fun o ho => (h o ho).ofAtom_toText).trans (List.map_id _)

theorem ofTexts_toText (hne : options ≠ []) (h : ∀ o ∈ options, IsPlain o) :
    ofTexts [(anyOf options).toText] = anyOf options := by
  rw [ofTexts, List.flatMap_singleton, readAlternatives_toText hne h]

end

/-- The alternatives in the words of a text. -/
def spokenAlternatives (text : String) : List (List (List Char)) := (words text.toList).splitOn orWord

/-- What is read from a text are the alternatives in its words. -/
theorem readAlternatives_eq {text : String} (h : ∀ e ∈ readAlternatives text, IsPlain e) :
    readAlternatives text = (spokenAlternatives text).map ofWords := by
  have hplain : ∀ part ∈ splitOr [] (trim text.toList), IsPlain (ofAtom part) := fun part hpart =>
    h _ (List.mem_map_of_mem hpart)
  have hwords : words text.toList = [orWord].intercalate ((splitOr [] (trim text.toList)).map words) := by
    rw [← intercalate_words_splitOr, List.reverse_nil, List.nil_append, words_trim]
  have hor : ∀ part ∈ (splitOr [] (trim text.toList)).map words, orWord ∉ part := by
    intro ws hws
    obtain ⟨part, hpart, rfl⟩ := List.mem_map.1 hws
    rw [← words_toText_ofAtom]
    exact (hplain part hpart).orWord_not_mem
  rw [spokenAlternatives, hwords, List.splitOn_intercalate orWord hor (by simpa using splitOr_ne_nil _ _), List.map_map,
    readAlternatives]
  refine List.map_congr_left fun part hpart => ?_
  rw [Function.comp_apply, ← words_toText_ofAtom, (hplain part hpart).ofWords_words]

theorem flatMap_readAlternatives {texts : List String} (h : ∀ e ∈ texts.flatMap readAlternatives, IsPlain e) :
    texts.flatMap readAlternatives = (texts.flatMap spokenAlternatives).map ofWords := by
  rw [List.map_flatMap]
  refine List.flatMap_congr fun text htext => readAlternatives_eq fun e he => h e ?_
  exact List.mem_flatMap.2 ⟨text, htext, he⟩

end TypeExpr

/-! ## The expressions of a schema -/

/-- The lists of texts of a schema: of the fields of its types, then of the parameters and the result of each method. -/
def Schema.listed (schema : Schema) : List (List String) :=
  (schema.types.entries.flatMap fun e => e.2.fields.map fun f => f.types) ++
    schema.methods.entries.flatMap fun e => (e.2.fields.map fun f => f.types) ++ [e.2.returns]

/-- The expressions of a graph, in the same order. -/
def Graph.expressions (g : Graph) : List TypeExpr :=
  (g.types.entries.flatMap fun e => e.2.fields.map fun f => f.type) ++
    g.methods.entries.flatMap fun e => (e.2.params.map fun p => p.type) ++ [e.2.returns]

/-- What is wanted of the expression that a schema reads from a list of texts: it has the normal form, its options are
the alternatives in the words of the texts, and its own text is read in the schema without problems and gives it
again. -/
structure TypeExpr.IsNormalReading (schema : Schema) (texts : List String) (e : TypeExpr) : Prop where
  normal : e.IsNormal
  alternatives : e.alternatives = (texts.flatMap spokenAlternatives).map ofWords
  unproblematic : ∀ place, schema.problemsOfTexts place [e.toText] = []
  read_again : ofTexts [e.toText] = e

section

open TypeExpr

variable {schema : Schema}

theorem isNormalReading_ofTexts (hnames : ∀ name ∈ schema.types.names, IsWord name) {place : Mention}
    {texts : List String} (h : schema.problemsOfTexts place texts = []) :
    IsNormalReading schema texts (ofTexts texts) := by
  have hrefs := Schema.refs_of_problemsOfTexts h
  have hne : texts ≠ [] := by
    rintro rfl
    cases h
  have hoptions := flatMap_readAlternatives_ne_nil hne
  -- each option refers to types only, so it is a word under arrays
  have hplain : ∀ e ∈ texts.flatMap readAlternatives, IsPlain e := by
    intro e he
    refine (isAtomic_of_mem_flatMap e he).isPlain fun name hname => ?_
    have hmem : name ∈ (ofTexts texts).refs := by
      rw [ofTexts, refs_anyOf]
      exact List.mem_flatMap.2 ⟨e, he, hname⟩
    refine ⟨hnames name (hrefs name hmem), ?_⟩
    rw [refs_ofTexts] at hmem
    exact of_decide_eq_true (List.mem_filter.1 hmem).2
  have hagain : ofTexts [(ofTexts texts).toText] = ofTexts texts := ofTexts_toText hoptions hplain
  constructor
  · exact isNormal_anyOf hoptions isAtomic_of_mem_flatMap
  · rw [ofTexts, alternatives_anyOf isAtomic_of_mem_flatMap, flatMap_readAlternatives hplain]
  · intro place'
    rw [Schema.problemsOfTexts, hagain, Schema.unknownNames, List.isEmpty_cons, if_neg Bool.false_ne_true,
      List.map_eq_nil_iff, List.filter_eq_nil_iff]
    intro name hname
    rw [Schema.contains_iff.2 (hrefs name hname)]
    exact Bool.false_ne_true
  · exact hagain

/-- Nothing that a schema without problems lists is a problem. -/
theorem Schema.problemsOfTexts_of_mem_listed (h : schema.problems = []) {texts : List String}
    (hmem : texts ∈ schema.listed) : ∃ place, schema.problemsOfTexts place texts = [] := by
  rw [problems, List.append_eq_nil_iff, List.flatMap_eq_nil_iff, List.flatMap_eq_nil_iff] at h
  obtain ⟨htypes, hmethods⟩ := h
  rcases List.mem_append.1 hmem with hmem | hmem
  · obtain ⟨e, he, hmem⟩ := List.mem_flatMap.1 hmem
    obtain ⟨f, hf, rfl⟩ := List.mem_map.1 hmem
    have hnil := htypes e he
    rw [problemsOfType, List.append_eq_nil_iff, List.append_eq_nil_iff, problemsOfFields,
      List.flatMap_eq_nil_iff] at hnil
    exact ⟨_, hnil.1.1 f hf⟩
  · obtain ⟨e, he, hmem⟩ := List.mem_flatMap.1 hmem
    have hnil := hmethods e he
    rw [problemsOfMethod, List.append_eq_nil_iff, problemsOfFields, List.flatMap_eq_nil_iff] at hnil
    rcases List.mem_append.1 hmem with hmem | hmem
    · obtain ⟨f, hf, rfl⟩ := List.mem_map.1 hmem
      exact ⟨_, hnil.1 f hf⟩
    · cases List.mem_singleton.1 hmem
      exact ⟨_, hnil.2⟩

namespace Graph

variable {g : Graph}

theorem expressions_of_resolve (h : resolve schema = .ok g) : g.expressions = schema.listed.map ofTexts := by
  obtain ⟨-, rfl⟩ := resolve_eq_ok_iff.1 h
  have htypes : (schema.types.map typeOf).entries = schema.types.entries.map fun e => (e.1, typeOf e.1 e.2) := rfl
  have hmethods : (schema.methods.map methodOf).entries = schema.methods.entries.map fun e => (e.1, methodOf e.1 e.2) :=
    rfl
  rw [expressions, Schema.listed, htypes, hmethods, List.flatMap_map, List.flatMap_map, List.map_append,
    List.map_flatMap, List.map_flatMap]
  simp only [typeOf, methodOf, List.map_append, List.map_map, List.map_singleton]
  rfl

/-- Where the names of types are words and none is `or`, each expression of a resolved graph is a name under arrays or
a union of at least two of these, its options are the alternatives in its texts, one after another, and reading the
one text that is printed for it gives it again without a problem. -/
theorem normal_form_of_resolve (h : resolve schema = .ok g) (hnames : ∀ name ∈ schema.types.names, IsWord name) :
    List.Forall₂ (IsNormalReading schema) schema.listed g.expressions := by
  rw [expressions_of_resolve h, List.forall₂_map_right_iff, List.forall₂_same]
  intro texts hmem
  obtain ⟨place, hplace⟩ := Schema.problemsOfTexts_of_mem_listed (resolve_eq_ok_iff.1 h).1 hmem
  exact isNormalReading_ofTexts hnames hplace

/-- A schema with a type that is named like the beginning of an array, and with an alternative twice. -/
def arraySchema : Schema where
  version := none
  releaseDate := none
  changelog := none
  types := .ofList
    [("Array",
        { href := "", description := [], subtypes := [], subtypeOf := []
          fields :=
            [{ name := "items", types := [" Array of Array of  Array or Integer", "Array"], required := true
               description := "" }] })]
  methods := .ofList
    [("sort",
        { href := "", description := [], returns := ["Array of Array\tor\tArray of Array"]
          fields := [{ name := "order", types := ["Boolean"], required := false, description := "" }] })]

theorem normal_form_of_resolve_arraySchema :
    (∀ name ∈ arraySchema.types.names, IsWord name) ∧
      ∃ g, resolve arraySchema = .ok g ∧
        g.expressions =
          [.union [.array (.array (.ref "Array")), .primitive .integer, .ref "Array"], .primitive .boolean,
           .union [.array (.ref "Array"), .array (.ref "Array")]] ∧
        List.Forall₂ (IsNormalReading arraySchema) arraySchema.listed g.expressions := by
  have hnames : ∀ name ∈ arraySchema.types.names, IsWord name := by decide +kernel
  have hresolve := resolve_eq_ok_iff.2 ⟨(by decide +kernel : arraySchema.problems = []), rfl⟩
  refine ⟨hnames, _, hresolve, ?_, normal_form_of_resolve hresolve hnames⟩
  rw [expressions_of_resolve hresolve]
  decide +kernel

end Graph

end

end BotApi
