import BotApi.Package.Source
import BotApi.Proofs.Package.Code

/-!
# Reading imports

What a module imports is read from its code. The names that it takes from the library follow the words of that import,
with commas between them; and right behind them stands the import from the types of a package, if there is one, which
only a checker of hints performs. Whatever comes later does not matter. This goes for a package of any name: its name
stands in the second import only.

## Main results

* `after_append` — what follows the first occurrence of words.
* `code_typesImport` — the code of an import of types.
* `names_textOf` — what a text imports that has the imports of some fields in it.
-/

namespace BotApi.Package

/-! ## Words and names -/

/-- What follows the first occurrence of words. -/
def after (words : List String) : List String → List String
  | [] => []
  | token :: rest =>
    if words.isPrefixOf (token :: rest) then (token :: rest).drop words.length else after words rest

/-- Names with commas between them, and what follows the last of them. -/
def splitNames : List String → List String × List String
  | [] => ([], [])
  | [name] => ([name], [])
  | name :: next :: rest =>
    if next = "," then (name :: (splitNames rest).1, (splitNames rest).2) else ([name], next :: rest)

/-- The words in front of the names that are imported from a module. -/
def importWords (module : String) : List String := code ("from " ++ module ++ " import ")

/-- The names that a module imports from the library, and what follows them. -/
def libraryImport (text : String) : List String × List String :=
  splitNames (after (importWords "botschema.runtime.values") (code text))

/-- The names that a module imports from the library. -/
def runtimeNames (text : String) : List String := (libraryImport text).1

/-- The words in front of an import that only a checker of hints performs. -/
def guardWords : List String := ["if", "typing", ".", "TYPE_CHECKING", ":"]

/-- The names that a module imports from the types of a package, right behind the import from the library. -/
def schemaNames (package text : String) : List String :=
  let words := guardWords ++ importWords (package ++ ".types")
  let rest := (libraryImport text).2
  if words.isPrefixOf rest then (splitNames (rest.drop words.length)).1 else []

/-- These characters are not in the warning, and so no word with one of them is. -/
theorem not_mem_warning : ∀ c ∈ [':', '=', 'v'], c ∉ warning.toList := by
  intro c hc
  unfold warning
  simp only [String.toList_append, List.mem_append, not_or]
  simp only [List.mem_cons, List.not_mem_nil, or_false] at hc
  rcases hc with rfl | rfl | rfl
  all_goals decide

/-- Words are found if one of them does not stand before them. -/
theorem after_append {front back : List String} {word : String} {before : List String} (hfront : word ∉ front)
    (hbefore : word ∉ before) (rest : List String) :
    after (front ++ word :: back) (before ++ (front ++ word :: back ++ rest)) = rest := by
  induction before with
  | nil =>
    have hprefix : (front ++ word :: back).isPrefixOf (front ++ word :: back ++ rest) = true :=
      List.isPrefixOf_iff_prefix.2 (List.prefix_append ..)
    have hdrop : (front ++ word :: back ++ rest).drop (front ++ word :: back).length = rest := List.drop_left
    cases htokens : front ++ word :: back ++ rest with
    | nil => simp at htokens
    | cons token tokens =>
      rw [htokens] at hprefix hdrop
      rw [List.nil_append, after, hprefix, if_pos rfl, hdrop]
  | cons token before ih =>
    rw [List.mem_cons, not_or] at hbefore
    rw [List.cons_append, after, if_neg, ih hbefore.2]
    intro hwords
    -- the word would stand where it is found first, and that is further on
    obtain ⟨tail, htail⟩ := List.isPrefixOf_iff_prefix.1 hwords
    have hkept : ∀ other ∈ front, decide (other ≠ word) = true := fun other ho =>
      decide_eq_true fun heq => hfront (heq ▸ ho)
    have hall : ∀ other ∈ token :: before ++ front, decide (other ≠ word) = true := by
      rw [List.forall_mem_append, List.forall_mem_cons]
      exact ⟨⟨decide_eq_true fun heq => hbefore.1 heq.symm,
        fun other ho => decide_eq_true fun heq => hbefore.2 (heq ▸ ho)⟩, hkept⟩
    have hsame := congrArg (fun tokens => (tokens.takeWhile fun other => decide (other ≠ word)).length) htail
    have hright : token :: (before ++ (front ++ word :: back ++ rest)) =
        token :: before ++ front ++ word :: (back ++ rest) := by simp
    rw [hright, List.append_assoc] at hsame
    rw [List.cons_append, List.takeWhile_append_of_pos hkept, List.takeWhile_append_of_pos hall,
      List.takeWhile_cons_of_neg (by simp), List.takeWhile_cons_of_neg (by simp)] at hsame
    simp only [List.append_nil, List.length_append, List.length_cons] at hsame
    omega

theorem splitNames_intersperse {names rest : List String} (hne : names ≠ []) (hrest : rest.head? ≠ some ",") :
    splitNames (names.intersperse "," ++ rest) = (names, rest) := by
  induction names with
  | nil => exact absurd rfl hne
  | cons name more ih =>
    cases more with
    | nil =>
      rw [List.intersperse_singleton, List.singleton_append]
      cases rest with
      | nil => rfl
      | cons next rest => rw [splitNames, if_neg fun heq => hrest (by rw [heq, List.head?_cons])]
    | cons next more =>
      rw [List.intersperse_cons_cons, List.cons_append, List.cons_append, splitNames, if_pos rfl,
        ih (List.cons_ne_nil _ _)]

/-! ## The imports of a text -/

section

variable {fields : List FieldBinding} {package exclude : String}

theorem nodup_eraseDups (names : List String) : names.eraseDups.Nodup := by
  cases names with
  | nil => exact List.nodup_nil
  | cons name rest =>
    rw [List.eraseDups_cons, List.nodup_cons]
    refine ⟨?_, nodup_eraseDups (rest.filter fun other => !other == name)⟩
    simp [List.mem_eraseDups]
termination_by names.length
decreasing_by
  exact Nat.lt_succ_of_le (List.length_filter_le ..)

theorem mem_importedTypes_iff {name : String} :
    name ∈ importedTypes fields exclude ↔ name ≠ exclude ∧ ∃ f ∈ fields, name ∈ f.type.refs := by
  simp only [importedTypes, List.mem_eraseDups, List.mem_mergeSort, List.mem_filter, List.mem_flatMap,
    decide_eq_true_eq]
  exact And.comm

theorem nodup_importedTypes : (importedTypes fields exclude).Nodup := nodup_eraseDups _

theorem importWords_types (package : String) :
    importWords (package ++ ".types") = "from" :: (code package ++ [".", "types", "import"]) := by
  have htext : "from " ++ (package ++ ".types") ++ " import " = "from " ++ (package ++ (".types import " ++ "")) := by
    have hmark : ".types import " = ".types" ++ " import " := by decide
    rw [hmark]
    simp only [String.append_assoc, String.append_empty]
  have hfirst : code "from " = ["from"] := by decide
  have hlast : code ".types import " = [".", "types", "import"] := by decide
  have hnone : code "" = [] := by decide
  rw [importWords, htext, code_mark_append (by decide), hfirst, code_append_append (by decide) (by decide),
    hlast, hnone, List.append_nil]
  rfl

/-- The code of an import of types. -/
theorem code_typesImport (hnames : ∀ name ∈ importedTypes fields exclude, Unicode.isIdentifier name.toList = true) :
    code (typesImport fields package exclude) =
      if (importedTypes fields exclude).isEmpty then []
      else guardWords ++ importWords (package ++ ".types") ++ (importedTypes fields exclude).intersperse "," := by
  rw [typesImport]
  split
  · decide
  · have htext : "\nif typing.TYPE_CHECKING:\n" ++ indentUnit ++ "from " ++ package ++ ".types import " ++
        ", ".intercalate (importedTypes fields exclude) ++ "\n" =
        "\nif typing.TYPE_CHECKING:\n    from " ++ (package ++
          (".types import " ++ (", ".intercalate (importedTypes fields exclude) ++ "\n"))) := by
      have hguard : "\nif typing.TYPE_CHECKING:\n    from " =
          "\nif typing.TYPE_CHECKING:\n" ++ indentUnit ++ "from " := by decide
      rw [hguard]
      simp only [String.append_assoc]
    have hguard : code "\nif typing.TYPE_CHECKING:\n    from " = guardWords ++ ["from"] := by decide
    have hwords : code ".types import " = [".", "types", "import"] := by decide
    rw [htext, code_mark_append (by decide), code_append_append (by decide) (by decide),
      code_append_of_isQuiet (by decide), code_intercalate hnames, importWords_types, hguard, hwords]
    simp only [List.append_assoc, List.cons_append, List.nil_append]

/-- A module that imports names from the library and the types of some fields, up to its class. -/
def textOf (head : String) (runtime : List String) (package exclude : String) (fields : List FieldBinding)
    (opening rest : String) : String :=
  head ++ ("\nfrom botschema.runtime.values import " ++ (", ".intercalate runtime ++ "\n" ++
    (typesImport fields package exclude ++ (opening ++ rest))))

variable {head opening : String} {runtime : List String}

theorem importWords_values :
    importWords "botschema.runtime.values" = ["from", "botschema", ".", "runtime", "."] ++ "values" :: ["import"] := by
  decide

theorem code_textOf (hruntime : ∀ name ∈ runtime, Unicode.isIdentifier name.toList = true)
    (hopens : opens opening.toList = true) (hcloses : closes opening.toList = true) (rest : String) :
    code (textOf head runtime package exclude fields opening rest) =
      code head ++ (importWords "botschema.runtime.values" ++ (runtime.intersperse "," ++
        (code (typesImport fields package exclude) ++ (code opening ++ code rest)))) := by
  have hwords : code "\nfrom botschema.runtime.values import " = importWords "botschema.runtime.values" := by decide
  have hblock : code (", ".intercalate runtime ++ "\n" ++ (typesImport fields package exclude ++ (opening ++ rest))) =
      runtime.intersperse "," ++ (code (typesImport fields package exclude) ++ (code opening ++ code rest)) := by
    have htail : code (opening ++ rest) = code opening ++ code rest := code_mark_append hcloses rest
    cases himports : (importedTypes fields exclude).isEmpty with
    | true =>
      have hnone : typesImport fields package exclude = "" := by rw [typesImport, himports, if_pos rfl]
      have hempty : code "" = [] := by decide
      rw [hnone, hempty, String.empty_append, code_append_of_opens hopens, code_append_of_isQuiet (by decide),
        code_intercalate hruntime, htail, List.nil_append]
    | false =>
      -- the import begins with a mark of its own
      obtain ⟨more, hmore⟩ : ∃ more, typesImport fields package exclude =
          "\nif typing.TYPE_CHECKING:\n" ++ more := by
        rw [typesImport, himports, if_neg Bool.false_ne_true]
        simp only [String.append_assoc]
        exact ⟨_, rfl⟩
      have himport : code (", ".intercalate runtime ++ "\n" ++
          (typesImport fields package exclude ++ (opening ++ rest))) =
          code (", ".intercalate runtime ++ "\n") ++
            code (typesImport fields package exclude ++ (opening ++ rest)) := by
        have hassoc : ∀ tail : String, "\nif typing.TYPE_CHECKING:\n" ++ more ++ tail =
            "\nif typing.TYPE_CHECKING:\n" ++ (more ++ tail) := fun _ => String.append_assoc
        rw [hmore, hassoc]
        exact code_append_of_opens (by decide) _ _
      rw [himport, code_append_of_isQuiet (by decide), code_intercalate hruntime, code_append_of_opens hopens, htail]
  rw [textOf, code_append_append (by decide) (by decide), hwords, hblock, List.append_assoc]

/-- Such a module imports from the library what it says, and from the types of the package those that its fields refer
to. -/
theorem names_textOf (hne : runtime ≠ []) (hruntime : ∀ name ∈ runtime, Unicode.isIdentifier name.toList = true)
    (hnames : ∀ f ∈ fields, ∀ name ∈ f.type.refs, Unicode.isIdentifier name.toList = true)
    (hhead : "values" ∉ code head) (hopens : opens opening.toList = true) (hcloses : closes opening.toList = true)
    (hfirst : ∃ token ∈ (code opening).head?, token ≠ "," ∧ token ≠ "if") {text rest : String}
    (htext : code text = code (textOf head runtime package exclude fields opening rest)) :
    schemaNames package text = importedTypes fields exclude ∧ runtimeNames text = runtime := by
  have hidentifiers : ∀ name ∈ importedTypes fields exclude, Unicode.isIdentifier name.toList = true := by
    intro name hname
    obtain ⟨-, f, hf, hrefs⟩ := mem_importedTypes_iff.1 hname
    exact hnames f hf name hrefs
  obtain ⟨token, hopening, hcomma, hif⟩ := hfirst
  obtain ⟨tokens, htokens⟩ := List.head?_eq_some_iff.1 hopening
  -- the import from the library, and what stands behind it
  have hlibrary : libraryImport text =
      (runtime, code (typesImport fields package exclude) ++ (token :: (tokens ++ code rest))) := by
    have hbehind :
        (code (typesImport fields package exclude) ++ (token :: (tokens ++ code rest))).head? ≠ some "," := by
      rw [code_typesImport hidentifiers]
      split
      · rw [List.nil_append, List.head?_cons, Ne, Option.some.injEq]
        exact hcomma
      · rw [guardWords]
        exact ne_of_beq_false rfl
    rw [libraryImport, htext, code_textOf hruntime hopens hcloses, importWords_values, htokens,
      after_append (by decide) hhead, List.cons_append, splitNames_intersperse hne hbehind]
  refine ⟨?_, by rw [runtimeNames, hlibrary]⟩
  rw [schemaNames, hlibrary, code_typesImport hidentifiers]
  dsimp only
  cases himports : (importedTypes fields exclude).isEmpty with
  | true =>
    rw [if_pos rfl, List.nil_append, if_neg, List.isEmpty_iff.1 himports]
    -- the class does not begin as that import does
    intro hwords
    obtain ⟨tail, htail⟩ := List.isPrefixOf_iff_prefix.1 hwords
    exact hif (List.cons.inj htail).1.symm
  | false =>
    have hsplit := @splitNames_intersperse (importedTypes fields exclude) (token :: (tokens ++ code rest))
      (by rw [← List.isEmpty_eq_false_iff, himports]) (by rw [List.head?_cons, Ne, Option.some.injEq]; exact hcomma)
    rw [if_neg Bool.false_ne_true, List.append_assoc, List.isPrefixOf_iff_prefix.2 (List.prefix_append ..), if_pos rfl,
      List.drop_left, hsplit]

end

end BotApi.Package
