import BotApi.Proofs.Bindings.Resolved
import BotApi.Proofs.Lists
import BotApi.Proofs.Package.Emission
import BotApi.Proofs.Package.ImportedNames
import Mathlib.Data.List.Nodup

/-!
# The type modules of a package

Each type has a module that is named after it in snake case, and a further module gathers the types: it imports each
from its module and lists their names. Different types may have one snake case, and a type may have that of the module
that gathers them. Then one file is written over another, and one type takes the place of another in the list. So a
package holds all of its types if their modules are told apart by their names, from each other and from the module that
gathers them; and this is the only case in which it does.

The texts are read here by their code, which a formatter keeps. What the names of types are put between, no name that is
an identifier can contain.

## Main results

* `code_typesInit` — the code of the module that gathers the types.
* `offered_of_code_eq` — the names that it lists.
* `nodup_of_holds`, `holds_of_nodup` — when a package holds all of its types.
* `length_typeModules_eq_iff` — when there are as many type modules as types.
* `package_holds_types_iff` — what emission into a clear directory gives.
-/

namespace BotApi

namespace Package

open FileTree
open Emission (laid laidFiles Accepted)

/-- A name that is an identifier has no mark in it, and neither does the name of its module. -/
theorem not_mem_of_isIdentifier {name : String} (h : Unicode.isIdentifier name.toList = true) {c : Char}
    (hstart : Unicode.isIdentifierStart c = false) (hpart : Unicode.isIdentifierPart c = false)
    (hlower : c.toNat < 65) : c ∉ name.toList ∧ c ∉ (moduleName name).toList := by
  have hname : c ∉ name.toList := Unicode.not_mem_of_isIdentifier hstart hpart h
  exact ⟨hname, fun hm => hname (Text.mem_of_mem_snake hm hlower)⟩

/-! ## The module of a type -/

/-- The words in which the class of a type starts. -/
def classWords (type : String) : List String := ["class", type, "Object", ":"]

/-- The module of a type has its class. -/
theorem classWords_infix_typeModule (package : String) {t : TypeBinding}
    (h : Unicode.isIdentifier t.name.toList = true) : classWords t.name <:+: code (typeModule package t) := by
  -- what stands before and after does not matter, as the words before and after the name are marked
  have hsplit : ∃ before after, typeModule package t =
      before ++ ("\n\n@dataclasses.dataclass(frozen=True, kw_only=True)\nclass " ++
        (t.name ++ ("(Object):\n" ++ after))) := by
    refine ⟨warning ++ "\n\nfrom __future__ import annotations\n\nimport dataclasses\n" ++
      typingImport t.fields t.name ++
      "\nfrom botschema.runtime.values import " ++ runtimeImports t.fields ++ "\n" ++
      typesImport t.fields package t.name,
      indentUnit ++ "\"\"\"" ++ docstring package indentUnit (describe t) t.fields none ++ "\n" ++
      indentUnit ++ "\"\"\"\n\n" ++
      indentUnit ++ "__binding__ = \"" ++ t.name ++ "\"\n" ++
      indentUnit ++ "__wire_names__ = " ++ wireNames t.fields ++ "\n\n" ++
      indentUnit ++ attributes t.fields ++ "\n", ?_⟩
    unfold typeModule
    simp only [String.append_assoc]
  obtain ⟨before, after, htext⟩ := hsplit
  have hdecorated : code "\n\n@dataclasses.dataclass(frozen=True, kw_only=True)\nclass " =
      ["@", "dataclasses", ".", "dataclass", "frozen", "=", "True", ",", "kw_only", "=", "True", "class"] := by decide
  have hbase : code "(Object):\n" = ["Object", ":"] := by decide
  rw [htext, code_append_append (by decide) (by decide), code_append_append (by decide) (by decide), hdecorated, hbase,
    code_of_isIdentifier h]
  exact ⟨code before ++ ["@", "dataclasses", ".", "dataclass", "frozen", "=", "True", ",", "kw_only", "=", "True"],
    code after, by simp [classWords]⟩

/-! ## The module that gathers the types -/

/-- The words of the import of a class from a module. -/
def typeImport (module type : String) : List String := ["from", "."] ++ code module ++ ["import", type]

/-- The words in front of the names that a module says it offers. -/
def offerWords : List String := ["__all__", "=", "["]

/-- The names that a module says it offers. -/
def offered (text : String) : List String :=
  ((after offerWords (code text)).takeWhile (· ≠ "]")).filter (· ≠ ",")

/-- A name between quotes. -/
def item (name : String) : String := "\"" ++ name ++ "\""

/-- The line of an import. -/
def importLine (module type : String) : String := "from ." ++ module ++ " import " ++ type ++ "\n"

theorem mem_of_mem_intersperse {names : List String} {mark token : String} (h : token ∈ names.intersperse mark) :
    token = mark ∨ token ∈ names := by
  induction names with
  | nil => cases h
  | cons name rest ih =>
    cases rest with
    | nil => exact .inr h
    | cons next more =>
      rw [List.intersperse_cons_cons, List.mem_cons, List.mem_cons] at h
      rcases h with rfl | h | h
      · exact .inr (List.mem_cons_self)
      · exact .inl h
      · exact (ih h).imp_right (List.mem_cons_of_mem _)

theorem filter_intersperse {names : List String} (h : ∀ name ∈ names, name ≠ ",") :
    (names.intersperse ",").filter (· ≠ ",") = names := by
  induction names with
  | nil => rfl
  | cons name rest ih =>
    obtain ⟨hname, hrest⟩ := List.forall_mem_cons.1 h
    cases rest with
    | nil => simp [hname]
    | cons next more =>
      have hkept := ih hrest
      simp only [List.intersperse_cons_cons, List.filter_cons, decide_eq_true hname, if_pos, hkept]
      rfl

section

variable {name : String} (hname : Unicode.isIdentifier name.toList = true)

include hname

theorem ne_of_isIdentifier {mark : String} (hmark : Unicode.isIdentifier mark.toList = false) : name ≠ mark := by
  rintro rfl
  rw [hname] at hmark
  cases hmark

/-- A text that begins with a name between quotes. -/
theorem firstMark?_item (rest : String) :
    ∃ c, firstMark? (item name ++ rest).toList = some c ∧ Unicode.isIdentifierPart c = true := by
  have htext : (item name ++ rest).toList = '"' :: (name ++ ("\"" ++ rest)).toList := by
    simp only [item, String.toList_append, List.append_assoc]
    rfl
  rw [htext, firstMark?_cons_of_isQuiet (by decide)]
  exact firstMark?_of_isIdentifier hname _

theorem code_item : code (item name) = [name] := by
  obtain ⟨c, hfirst, hc⟩ := firstMark?_of_isIdentifier hname ""
  rw [String.append_empty] at hfirst
  rw [item, code_append_of_isQuiet (by decide), code_append_of_name (by decide) hfirst hc, code_of_isIdentifier hname]
  rfl

/-- The code of an import, and of what follows it if that begins with a name. -/
theorem code_importLine_append (module : String) {rest : String} {c : Char}
    (hfirst : firstMark? rest.toList = some c) (hc : Unicode.isIdentifierPart c = true) :
    code (importLine module name ++ rest) = typeImport module name ++ code rest := by
  have hfrom : code "from ." = ["from", "."] := by decide
  have himport : code " import " = ["import"] := by decide
  have htext : importLine module name = "from ." ++ (module ++ (" import " ++ (name ++ "\n"))) := by
    rw [importLine]
    simp only [String.append_assoc]
  have hline : code (importLine module name) = typeImport module name := by
    rw [htext, code_mark_append (by decide), code_append_append (by decide) (by decide),
      code_append_of_isQuiet (by decide), code_of_isIdentifier hname, hfrom, himport, typeImport]
    simp only [List.append_assoc, List.singleton_append]
  rw [← hline]
  refine code_append_of_name ?_ hfirst hc
  rw [importLine, getLast?_toList_append (by decide)]
  decide

end

/-- Whether texts open a list of names, divide the names by commas, and close the list. -/
structure Lists (opening between closing : String) : Prop where
  words : code opening = offerWords
  first : firstMark? opening.toList = some '_'
  bracket : closes opening.toList = true
  comma : code between = [","]
  mark : opens between.toList = true
  last : between.toList.getLast?.any Unicode.isIdentifierPart = false
  ends : code closing = ["]"]
  head : closing.toList.head?.any Unicode.isIdentifierPart = false

section

variable {opening between closing : String} {names : List String} (hlists : Lists opening between closing)
  (hnames : ∀ name ∈ names, Unicode.isIdentifier name.toList = true)

include hnames

/-- A list of names does not end in a comma. -/
theorem getLast?_tokens_items : (tokens (between.intercalate (names.map item)).toList).getLast? ≠ some "," := by
  have hlast : ∀ before : String,
      (tokens (before ++ between.intercalate (names.map item)).toList).getLast? = some "," → names = [] := by
    induction names with
    | nil => exact fun _ _ => rfl
    | cons name rest ih =>
      obtain ⟨hname, hrest⟩ := List.forall_mem_cons.1 hnames
      intro before hcomma
      cases rest with
      | nil =>
        have htext : before ++ item name = before ++ "\"" ++ name ++ "\"" := by
          rw [item]
          simp only [String.append_assoc]
        rw [List.map_singleton, String.intercalate_singleton, htext] at hcomma
        exact absurd hcomma (getLast?_tokens_ne_of_isIdentifier hname (by decide) _)
      | cons next more =>
        rw [List.map_cons, List.map_cons, String.intercalate_cons_cons, ← List.map_cons, ← String.append_assoc]
          at hcomma
        exact absurd (ih hrest _ hcomma) (List.cons_ne_nil _ _)
  intro hcomma
  rw [← String.empty_append (s := between.intercalate (names.map item))] at hcomma
  rw [hlast "" hcomma, List.map_nil, String.intercalate_nil, String.empty_append] at hcomma
  exact absurd hcomma (by decide)

include hlists

/-- The code of names between quotes, with commas between them. -/
theorem code_items : code (between.intercalate (names.map item)) = names.intersperse "," := by
  induction names with
  | nil =>
    rw [List.map_nil, String.intercalate_nil]
    decide
  | cons name rest ih =>
    obtain ⟨hname, hrest⟩ := List.forall_mem_cons.1 hnames
    cases rest with
    | nil => rw [List.map_singleton, String.intercalate_singleton, code_item hname, List.intersperse_singleton]
    | cons next more =>
      obtain ⟨c, hfirst, hc⟩ : ∃ c, firstMark? (between.intercalate ((next :: more).map item)).toList = some c ∧
          Unicode.isIdentifierPart c = true := by
        have hnext := (List.forall_mem_cons.1 hrest).1
        cases more with
        | nil =>
          rw [List.map_singleton, String.intercalate_singleton, ← String.append_empty (s := item next)]
          exact firstMark?_item hnext ""
        | cons other more =>
          rw [List.map_cons, List.map_cons, String.intercalate_cons_cons, String.append_assoc]
          exact firstMark?_item hnext _
      have hjoint : code (between ++ between.intercalate ((next :: more).map item)) =
          code between ++ code (between.intercalate ((next :: more).map item)) :=
        code_append_of_name hlists.last hfirst hc
      rw [List.map_cons, List.map_cons, String.intercalate_cons_cons, ← List.map_cons, String.append_assoc,
        code_append_of_opens hlists.mark, hjoint, ih hrest, code_item hname, hlists.comma, List.intersperse_cons_cons]
      rfl

/-- The code of the names that a module offers. -/
theorem code_offer :
    code (opening ++ (between.intercalate (names.map item) ++ closing)) =
      offerWords ++ (names.intersperse "," ++ ["]"]) := by
  have hclosing : code (between.intercalate (names.map item) ++ closing) = names.intersperse "," ++ ["]"] := by
    have hhead := (Option.any_eq_false _ _).1 hlists.head
    rw [code_append (fun a _ d hd => joined_eq_false_right a (hhead d hd))
      fun hcomma => absurd hcomma (getLast?_tokens_items hnames), code_items hlists hnames, hlists.ends]
  rw [code_mark_append hlists.bracket, hclosing, hlists.words]

end

/-- The imports of classes from modules, and of what follows them if that begins with a name. -/
theorem code_imports_append {entries : List (String × String)}
    (hentries : ∀ e ∈ entries, Unicode.isIdentifier e.2.toList = true) {rest : String} {c : Char}
    (hfirst : firstMark? rest.toList = some c) (hc : Unicode.isIdentifierPart c = true) :
    code (String.join (entries.map fun e => importLine e.1 e.2) ++ rest) =
        (entries.flatMap fun e => typeImport e.1 e.2) ++ code rest ∧
      ∃ d, firstMark? (String.join (entries.map fun e => importLine e.1 e.2) ++ rest).toList = some d ∧
        Unicode.isIdentifierPart d = true := by
  induction entries with
  | nil =>
    rw [List.map_nil, String.join_nil, String.empty_append]
    exact ⟨rfl, c, hfirst, hc⟩
  | cons e entries ih =>
    obtain ⟨he, hmore⟩ := List.forall_mem_cons.1 hentries
    obtain ⟨hcode, d, hd, hpart⟩ := ih hmore
    rw [List.map_cons, String.join_cons, String.append_assoc, code_importLine_append he e.1 hd hpart, hcode,
      List.flatMap_cons, List.append_assoc]
    -- an import begins with its keyword
    refine ⟨rfl, 'f', ?_, by decide⟩
    simp only [importLine, String.append_assoc]
    rw [String.toList_append]
    rfl

section

variable {types : List TypeBinding} (hnames : ∀ t ∈ types, Unicode.isIdentifier t.name.toList = true)

/-- The modules of types, and the types. -/
theorem exists_of_mem_modules {e : String × String} (h : e ∈ (modules types).entries) :
    ∃ t ∈ types, e = (moduleName t.name, t.name) := by
  rw [modules, Table.entries_ofList] at h
  obtain ⟨t, ht, rfl⟩ := List.mem_map.1 (Entries.mem_of_mem_merge h)
  exact ⟨t, ht, rfl⟩

/-- The code of the module that gathers the types, up to the names that it offers. -/
def gatherHead (types : List TypeBinding) : List String :=
  code warning ++ (modules types).entries.flatMap fun e => typeImport e.1 e.2

/-- The module that gathers the types, with the list of their names laid out in one way or another. -/
def gatherText (opening between closing : String) (types : List TypeBinding) : String :=
  warning ++ "\n\n" ++ (String.join ((modules types).entries.map fun e => importLine e.1 e.2) ++
    (opening ++ (between.intercalate ((modules types).values.map item) ++ closing)))

theorem typesInit_eq (types : List TypeBinding) :
    typesInit types = gatherText "\n\n__all__ = [\n" ",\n" "\n]\n" types := by
  have hitem : item = fun name => "\"" ++ name ++ "\"" := rfl
  unfold typesInit gatherText
  simp only [importLine, hitem, String.append_assoc]

include hnames

theorem isIdentifier_of_mem_values {name : String} (h : name ∈ (modules types).values) :
    Unicode.isIdentifier name.toList = true := by
  obtain ⟨e, he, rfl⟩ := List.mem_map.1 h
  obtain ⟨t, ht, rfl⟩ := exists_of_mem_modules he
  exact hnames t ht

/-- The code of the module that gathers the types. It does not matter how the list of names is laid out. -/
theorem code_gatherText {opening between closing : String} (hlists : Lists opening between closing) :
    code (gatherText opening between closing types) =
      gatherHead types ++ (offerWords ++ ((modules types).values.intersperse "," ++ ["]"])) := by
  have hvalues : ∀ name ∈ (modules types).values, Unicode.isIdentifier name.toList = true := fun name hm =>
    isIdentifier_of_mem_values hnames hm
  have hentries : ∀ e ∈ (modules types).entries, Unicode.isIdentifier e.2.toList = true := fun e he =>
    hvalues e.2 (List.mem_map.2 ⟨e, he, rfl⟩)
  have hfirst : firstMark? (opening ++ (between.intercalate ((modules types).values.map item) ++ closing)).toList =
      some '_' := by
    rw [String.toList_append]
    exact firstMark?_append hlists.first _
  have hend : (warning ++ "\n\n").toList.getLast?.any Unicode.isIdentifierPart = false := by
    rw [getLast?_toList_append (by decide)]
    decide
  obtain ⟨hcode, d, hd, hpart⟩ := code_imports_append hentries hfirst (by decide)
  rw [gatherText, code_append_of_name hend hd hpart, code_append_of_isQuiet (by decide), hcode,
    code_offer hlists hvalues, gatherHead, List.append_assoc]

theorem code_typesInit :
    code (typesInit types) = gatherHead types ++ (offerWords ++ ((modules types).values.intersperse "," ++ ["]"])) := by
  have hlists : Lists "\n\n__all__ = [\n" ",\n" "\n]\n" := by constructor <;> decide
  rw [typesInit_eq, code_gatherText hnames hlists]

/-- A mark that is part of no name is a token before the list of names only if it is one of the warning. -/
theorem not_mem_gatherHead {c : Char} (hstart : Unicode.isIdentifierStart c = false)
    (hpart : Unicode.isIdentifierPart c = false) (hlower : c.toNat < 65) (hwarning : c ∉ warning.toList)
    (hdot : c ≠ '.') : String.ofList [c] ∉ gatherHead types := by
  intro hm
  rw [gatherHead, List.mem_append, List.mem_flatMap] at hm
  rcases hm with hm | ⟨e, he, hm⟩
  · exact hwarning (mem_of_mem_code hm c (by simp))
  · obtain ⟨t, ht, rfl⟩ := exists_of_mem_modules he
    obtain ⟨hname, hmodule⟩ := not_mem_of_isIdentifier (hnames t ht) hstart hpart hlower
    have hone : ∀ token : String, String.ofList [c] = token → token.toList = [c] := by
      rintro token rfl
      exact String.toList_ofList
    simp only [typeImport, List.mem_append, List.mem_cons, List.not_mem_nil, or_false] at hm
    rcases hm with ((hm | hm) | hm) | hm | hm
    · exact absurd (congrArg List.length (hone _ hm)) (by simp)
    · exact hdot (List.singleton_inj.1 (hone _ hm)).symm
    · exact hmodule (mem_of_mem_code hm c (by simp))
    · exact absurd (congrArg List.length (hone _ hm)) (by simp)
    · exact hname ((hone _ hm).symm ▸ List.mem_singleton_self c)

/-- There is no class in the module that gathers the types. -/
theorem not_classWords_infix_typesInit (type : String) : ¬ classWords type <:+: code (typesInit types) := by
  intro hinfix
  have hcolon : ":" ∈ code (typesInit types) := hinfix.subset (by simp [classWords])
  rw [code_typesInit hnames, List.mem_append, List.mem_append, List.mem_append] at hcolon
  rcases hcolon with hm | hm | hm | hm
  · exact not_mem_gatherHead hnames (by decide) (by decide) (by decide) (not_mem_warning _ (by decide)) (by decide) hm
  · exact absurd hm (by decide)
  · rcases mem_of_mem_intersperse hm with hm | hm
    · exact absurd hm (by decide)
    · exact ne_of_isIdentifier (isIdentifier_of_mem_values hnames hm) (by decide) rfl
  · exact absurd hm (by decide)

/-- The names that are offered are those of the types that count. -/
theorem offered_of_code_eq {text : String} (htext : code text = code (typesInit types)) :
    offered text = (modules types).values := by
  have hvalue : ∀ name ∈ (modules types).values, ∀ mark, Unicode.isIdentifier mark.toList = false → name ≠ mark :=
    fun name hm mark hmark => ne_of_isIdentifier (isIdentifier_of_mem_values hnames hm) hmark
  have hafter : after offerWords (code text) = (modules types).values.intersperse "," ++ ["]"] := by
    have hwords : offerWords = ["__all__"] ++ "=" :: ["["] := rfl
    have hhead : "=" ∉ gatherHead types :=
      not_mem_gatherHead hnames (by decide) (by decide) (by decide) (not_mem_warning _ (by decide)) (by decide)
    rw [htext, code_typesInit hnames, hwords, after_append (by decide) hhead]
  have hlisted : ∀ token ∈ (modules types).values.intersperse ",", decide (token ≠ "]") = true := by
    intro token hm
    rcases mem_of_mem_intersperse hm with rfl | hm
    · decide
    · exact decide_eq_true (hvalue token hm "]" (by decide))
  rw [offered, hafter, List.takeWhile_append_of_pos hlisted, List.takeWhile_cons_of_neg (by decide), List.append_nil]
  exact filter_intersperse fun name hm => hvalue name hm "," (by decide)

end

/-! ## What a package holds -/

section

variable {ρ : Type} {format : Formatter ρ} {settings : Settings} {b : Bindings} {tree made : FileTree}

theorem target_gatherFile (settings : Settings) :
    target (gatherFile settings) = target (typesDir settings) ++ ["__init__.py"] := by
  rw [gatherFile_eq, target_append _ _ (by decide), typesDir_eq]

theorem target_typeFile {type : String} (h : Unicode.isIdentifier type.toList = true) :
    target (typeFile settings type) = target (typesDir settings) ++ [moduleFile type] := by
  rw [typeFile_eq h, target_append _ _ (moduleFile_ne type (by decide)), typesDir_eq]

/-- The name of a module file is that of the module that gathers the types only if the names of the modules are. -/
theorem moduleFile_eq_iff {type : String} : moduleFile type = "__init__.py" ↔ moduleName type = "__init__" := by
  have hfile : "__init__.py".toList = "__init__".toList ++ ['.', 'p', 'y'] := by decide
  rw [← String.toList_inj, toList_moduleFile, hfile, List.append_left_inj, String.toList_inj]

/-- Whether a package holds a type: its module, which has its class, and in the module that gathers the types the import
from there and one mention of it. -/
structure Holds (tree : FileTree) (settings : Settings) (type : String) : Prop where
  defined : ∃ text, tree.read (typeFile settings type) = .ok text ∧ classWords type <:+: code text
  gathered : ∃ text, tree.read (gatherFile settings) = .ok text ∧ typeImport (moduleName type) type <:+: code text ∧
    (offered text).count type = 1

/-- The names of modules: that of the one that gathers the types, and those of the types. -/
def moduleNames (b : Bindings) : List String := "__init__" :: b.types.values.map fun t => moduleName t.name

/-- A text that the formatter takes keeps its code. -/
theorem code_laid {lineLength : Int} {text : String} (haccepted : ∃ made, format lineLength text = .ok made)
    (hkeeps : format.Keeps lineLength text) : code (laid (format lineLength) text) = code text := by
  obtain ⟨made, hmade⟩ := haccepted
  rw [laid, hmade]
  exact hkeeps made hmade

variable (hnames : ∀ t ∈ b.types.values, Unicode.isIdentifier t.name.toList = true)

include hnames

/-- All files among the type modules have paths that fit if the names of the modules give such paths, and only then. -/
theorem forall_fits_iff :
    (∀ f ∈ typeFiles b settings, f.1.Fits) ↔
      ∀ module ∈ moduleNames b, PosixPath.Fits
        ⟨settings.outputDir.root, settings.outputDir.parts ++ ["types"] ++ [module ++ ".py"]⟩ := by
  rw [typeFiles_eq, List.forall_mem_append, List.forall_mem_map, List.forall_mem_singleton, moduleNames,
    List.forall_mem_cons, List.forall_mem_map, and_comm]
  refine and_congr ?_ (forall₂_congr fun t ht => ?_)
  · dsimp only
    rw [gatherFile_eq]
    rfl
  · dsimp only
    rw [typeFile_eq (hnames t ht), moduleFile]

variable (hclear : tree.Clear settings.outputDir) (hfits : ∀ f ∈ typeFiles b settings, f.1.Fits)
  (hmade : Widened tree made (spots settings))

include hclear hfits hmade

/-- A file among the type modules is read as it was written, if none of those after it has its place. -/
theorem read_of_last {path : PosixPath} {text : String} {before after : List (PosixPath × String)}
    (hsplit : typeFiles b settings = before ++ (path, text) :: after) (hlast : ∀ g ∈ after, target g.1 ≠ target path) :
    (made.putAll (packageFiles (format settings.lineLength) b settings)).read path =
      .ok (laid (format settings.lineLength) text) := by
  have hf : (path, text) ∈ typeFiles b settings := by
    rw [hsplit]
    simp
  have hfile : (path, laid (format settings.lineLength) text) ∈ packageFiles (format settings.lineLength) b settings :=
    mem_packageFiles_of_mem_typeFiles hf
  have hown : Own settings path := own_of_mem_packageFiles hnames hfile
  refine read_eq_ok_iff.2 ⟨(hown.ready hclear hmade (hfits _ hf)).putAll fun g hg => ?_, ?_⟩
  · exact (own_of_mem_packageFiles hnames hg).apart hown hclear
  · rw [packageFiles_eq, hsplit, laidFiles, List.map_append, List.map_cons, List.append_assoc, List.cons_append]
    refine read?_putAll_cons _ (f := (path, laid (format settings.lineLength) text)) fun g hg => ?_
    rw [List.mem_append, List.mem_map, List.mem_cons, List.mem_singleton] at hg
    -- what is written last stands beside the type modules
    rcases hg with ⟨g, hg, rfl⟩ | rfl | rfl
    · exact hlast g hg
    · rw [target_methodsFile]
      exact (target_ne_of_mem_typeFiles hnames hf _).symm
    · rw [target_initFile]
      exact (target_ne_of_mem_typeFiles hnames hf _).symm

theorem read_gatherFile :
    (made.putAll (packageFiles (format settings.lineLength) b settings)).read (gatherFile settings) =
      .ok (laid (format settings.lineLength) (typesInit b.types.values)) :=
  read_of_last hnames hclear hfits hmade (typeFiles_eq b settings) nofun

/-- Where modules are told apart by their names, each type has its own. -/
theorem read_typeFile (hapart : (moduleNames b).Nodup) {t : TypeBinding} (ht : t ∈ b.types.values) :
    (made.putAll (packageFiles (format settings.lineLength) b settings)).read (typeFile settings t.name) =
      .ok (laid (format settings.lineLength) (typeModule settings.package t)) := by
  obtain ⟨before, after, hvalues⟩ := List.append_of_mem ht
  have hsplit := typeFiles_eq b settings
  rw [hvalues, List.map_append, List.map_cons, List.append_assoc, List.cons_append] at hsplit
  refine read_of_last hnames hclear hfits hmade hsplit fun g hg => ?_
  -- the name of the module is not among those after it
  rw [moduleNames, hvalues, List.map_append, List.map_cons, List.nodup_cons, List.nodup_append, List.nodup_cons,
    List.mem_append, List.mem_cons, not_or, not_or] at hapart
  obtain ⟨⟨-, hinit, -⟩, -, ⟨hafter, -⟩, -⟩ := hapart
  rw [List.mem_append, List.mem_map, List.mem_singleton] at hg
  rw [target_typeFile (hnames t ht)]
  rcases hg with ⟨other, hother, rfl⟩ | rfl
  · have hin : other ∈ b.types.values := by
      rw [hvalues]
      simp [hother]
    dsimp only
    rw [target_typeFile (hnames other hin), Ne, List.append_cancel_left_eq, List.singleton_inj, moduleFile_inj]
    exact fun heq => hafter (List.mem_map.2 ⟨other, hother, heq⟩)
  · rw [target_gatherFile, Ne, List.append_cancel_left_eq, List.singleton_inj]
    exact fun heq => hinit (moduleFile_eq_iff.1 heq.symm).symm

variable (hkeys : (b.types.values.map (·.name)).Nodup)
  (hcode : ∀ f ∈ typeFiles b settings, code (laid (format settings.lineLength) f.2) = code f.2)

include hkeys hcode

/-- A package whose modules are told apart by their names holds all types. -/
theorem holds_of_nodup (hapart : (moduleNames b).Nodup) {t : TypeBinding} (ht : t ∈ b.types.values) :
    Holds (made.putAll (packageFiles (format settings.lineLength) b settings)) settings t.name := by
  have hentries : (modules b.types.values).entries = b.types.values.map fun t => (moduleName t.name, t.name) := by
    rw [modules, Table.entries_ofList]
    refine Entries.merge_of_nodup ?_
    rw [List.map_map]
    exact (List.nodup_cons.1 hapart).2
  have hgather := hcode _ (gatherFile_mem_typeFiles b settings)
  have hmodule := hcode (typeFile settings t.name, typeModule settings.package t) <| by
    rw [typeFiles_eq]
    exact List.mem_append_left _ (List.mem_map.2 ⟨t, ht, rfl⟩)
  dsimp only at hgather hmodule
  refine ⟨⟨_, read_typeFile hnames hclear hfits hmade hapart ht, ?_⟩,
    ⟨_, read_gatherFile hnames hclear hfits hmade, ?_, ?_⟩⟩
  · rw [hmodule]
    exact classWords_infix_typeModule _ (hnames t ht)
  · have hm : (moduleName t.name, t.name) ∈ (modules b.types.values).entries := by
      rw [hentries]
      exact List.mem_map_of_mem (f := fun t : TypeBinding => (moduleName t.name, t.name)) ht
    obtain ⟨before, after, hsplit⟩ := List.append_of_mem hm
    have himport : typeImport (moduleName t.name) t.name <:+:
        (modules b.types.values).entries.flatMap fun e => typeImport e.1 e.2 := by
      rw [hsplit, List.flatMap_append, List.flatMap_cons, ← List.append_assoc]
      exact List.infix_append _ _ _
    rw [hgather, code_typesInit hnames, gatherHead]
    exact (himport.trans (List.suffix_append _ _).isInfix).trans (List.prefix_append _ _).isInfix
  · have hvalues : (modules b.types.values).values = b.types.values.map (·.name) := by
      rw [Table.values, hentries, List.map_map]
      rfl
    rw [offered_of_code_eq hnames hgather, hvalues]
    exact List.count_eq_one_of_mem hkeys (List.mem_map_of_mem ht)

/-- A package that holds all types has modules that are told apart by their names. -/
theorem nodup_of_holds
    (hholds : ∀ t ∈ b.types.values,
      Holds (made.putAll (packageFiles (format settings.lineLength) b settings)) settings t.name) :
    (moduleNames b).Nodup := by
  have hgather := @read_gatherFile ρ format settings b tree made hnames hclear hfits hmade
  have hkept := hcode _ (gatherFile_mem_typeFiles b settings)
  dsimp only at hkept
  rw [moduleNames, List.nodup_cons]
  constructor
  · -- the module of such a type would be the one that gathers the types, and that has no class
    intro hm
    obtain ⟨t, ht, hinit⟩ := List.mem_map.1 hm
    obtain ⟨text, htext, hclass⟩ := (hholds t ht).defined
    rw [typeFile, moduleFile_eq_iff.2 hinit, ← gatherFile, hgather, Except.ok.injEq] at htext
    rw [← htext, hkept] at hclass
    exact not_classWords_infix_typesInit hnames t.name hclass
  · -- as many types are listed as there are, and so no entry was lost
    have hsub : b.types.values.map (·.name) ⊆ (modules b.types.values).values := by
      intro name hname
      obtain ⟨t, ht, rfl⟩ := List.mem_map.1 hname
      obtain ⟨text, htext, -, hcount⟩ := (hholds t ht).gathered
      rw [hgather, Except.ok.injEq] at htext
      rw [← htext, offered_of_code_eq hnames hkept] at hcount
      exact List.count_pos_iff.1 (by omega)
    have hvalues : (modules b.types.values).values.length =
        (Entries.merge (b.types.values.map fun t => (moduleName t.name, t.name))).length := by
      rw [Table.values, List.length_map, modules, Table.entries_ofList]
    have hle := (hkeys.subperm hsub).length_le
    rw [hvalues, List.length_map] at hle
    have hmerge := Entries.length_merge_le (b.types.values.map fun t => (moduleName t.name, t.name))
    have hlength : (Entries.merge (b.types.values.map fun t => (moduleName t.name, t.name))).length =
        (b.types.values.map fun t => (moduleName t.name, t.name)).length := by
      rw [List.length_map] at hmerge ⊢
      exact Nat.le_antisymm hmerge hle
    have hnodup := Entries.length_merge_eq_iff.1 hlength
    rwa [List.map_map] at hnodup

end

/-! ## How many modules there are -/

section

variable {ρ : Type} {layOut : String → Except ρ String} {settings : Settings} {b : Bindings} {tree made : FileTree}

/-- Whether a place is that of a type module. -/
def isTypeModule (settings : Settings) (place : Place) : Bool :=
  place.dropLast = target (typesDir settings) && place ≠ target (typesDir settings) ++ ["__init__.py"]

/-- The places of the type modules of a package. -/
def typeModules (settings : Settings) (tree : FileTree) : List Place :=
  (tree.files.map Prod.fst).filter (isTypeModule settings)

/-- The place of a module among the type modules. -/
def modulePlace (settings : Settings) (module : String) : Place := target (typesDir settings) ++ [module ++ ".py"]

theorem modulePlace_injective (settings : Settings) : Function.Injective (modulePlace settings) := by
  intro name other heq
  exact (String.append_left_inj _).1 (List.singleton_inj.1 (List.append_cancel_left heq))

/-- The modules of the types that are not written over by the one that gathers the types. -/
def ownModules (layOut : String → Except ρ String) (b : Bindings) (settings : Settings) : List (Place × String) :=
  (b.types.values.filter fun t => moduleName t.name ≠ "__init__").map fun t =>
    (modulePlace settings (moduleName t.name), laid layOut (typeModule settings.package t))

theorem length_ownModules_le (layOut : String → Except ρ String) (b : Bindings) (settings : Settings) :
    (ownModules layOut b settings).length ≤ b.types.values.length := by
  rw [ownModules, List.length_map]
  exact List.length_filter_le ..

/-- All types have modules of their own that are kept if modules are told apart by their names, and only then. -/
theorem length_merge_ownModules_eq_iff (layOut : String → Except ρ String) (b : Bindings) (settings : Settings) :
    (Entries.merge (ownModules layOut b settings)).length = b.types.values.length ↔ (moduleNames b).Nodup := by
  have hkeys : (ownModules layOut b settings).map Prod.fst =
      ((b.types.values.filter fun t => moduleName t.name ≠ "__init__").map fun t => moduleName t.name).map
        (modulePlace settings) := by
    rw [ownModules, List.map_map, List.map_map]
    rfl
  have hmerge := Entries.length_merge_le (ownModules layOut b settings)
  have hle := length_ownModules_le layOut b settings
  rw [moduleNames, List.nodup_cons]
  constructor
  · intro heq
    -- no module was written over by the one that gathers the types, and none by another one
    have hlength : (ownModules layOut b settings).length = b.types.values.length := by omega
    have hall : ∀ t ∈ b.types.values, decide (moduleName t.name ≠ "__init__") = true := by
      rw [ownModules, List.length_map] at hlength
      exact List.length_filter_eq_length_iff.1 hlength
    have hnodup := Entries.length_merge_eq_iff.1 (Nat.le_antisymm hmerge (by omega))
    rw [hkeys, List.nodup_map_iff (modulePlace_injective settings), List.filter_eq_self.2 hall] at hnodup
    refine ⟨fun hm => ?_, hnodup⟩
    obtain ⟨t, ht, hinit⟩ := List.mem_map.1 hm
    exact of_decide_eq_true (hall t ht) hinit
  · rintro ⟨hinit, hnodup⟩
    have hall : ∀ t ∈ b.types.values, decide (moduleName t.name ≠ "__init__") = true := fun t ht =>
      decide_eq_true fun heq => hinit (List.mem_map.2 ⟨t, ht, heq⟩)
    have hdistinct : ((ownModules layOut b settings).map Prod.fst).Nodup := by
      rw [hkeys, List.nodup_map_iff (modulePlace_injective settings), List.filter_eq_self.2 hall]
      exact hnodup
    rw [Entries.length_merge_eq_iff.2 hdistinct, ownModules, List.length_map, List.filter_eq_self.2 hall]

theorem isTypeModule_append (settings : Settings) (name : String) :
    isTypeModule settings (target (typesDir settings) ++ [name]) = decide (name ≠ "__init__.py") := by
  rw [isTypeModule, List.dropLast_concat, decide_eq_true rfl, Bool.true_and, decide_eq_decide, not_iff_not,
    List.append_cancel_left_eq, List.singleton_inj]

/-- Before emission into a clear directory there is no type module. -/
theorem filter_isTypeModule_eq_nil (hclear : tree.Clear settings.outputDir) :
    tree.files.filter (fun e => isTypeModule settings e.1) = [] := by
  rw [List.filter_eq_nil_iff]
  intro e he hmodule
  rw [isTypeModule, Bool.and_eq_true, decide_eq_true_eq] at hmodule
  -- the place of such a file is a name in the directory of type modules
  have hne : e.1 ≠ [] := by
    intro hnil
    rw [hnil, List.dropLast_nil, target_typesDir] at hmodule
    exact absurd hmodule.1.symm (by simp)
  have hplace : e.1 = target settings.outputDir ++ "types" :: [e.1.getLast hne] := by
    have hsplit := List.dropLast_concat_getLast hne
    rw [hmodule.1, target_typesDir, List.append_assoc] at hsplit
    exact hsplit.symm
  have hfile := hclear.files e.1 (hplace ▸ below_append (by decide) (by decide) _ _)
  rw [hasFile, read?, Entries.isSome_find?_of_mem he] at hfile
  cases hfile

variable (hnames : ∀ t ∈ b.types.values, Unicode.isIdentifier t.name.toList = true)
  (hclear : tree.Clear settings.outputDir) (hmade : Widened tree made (spots settings))

include hnames

/-- The type modules among the files of a package are those of the types whose module is not the one that gathers
them. -/
theorem filter_placed_packageFiles :
    (placed (packageFiles layOut b settings)).filter (fun e => isTypeModule settings e.1) =
      ownModules layOut b settings := by
  -- the place of a type module is one longer
  have hbeside : ∀ name : String, isTypeModule settings (target settings.outputDir ++ [name]) = false := by
    intro name
    rw [isTypeModule, List.dropLast_concat, target_typesDir, Bool.and_eq_false_iff]
    exact .inl (by simp)
  have htypes : ∀ t ∈ b.types.values,
      (target (typeFile settings t.name), laid layOut (typeModule settings.package t)) =
        (modulePlace settings (moduleName t.name), laid layOut (typeModule settings.package t)) := by
    intro t ht
    rw [target_typeFile (hnames t ht)]
    rfl
  have hplaced : placed (packageFiles layOut b settings) =
      (b.types.values.map fun t =>
        (modulePlace settings (moduleName t.name), laid layOut (typeModule settings.package t))) ++
        [(target (typesDir settings) ++ ["__init__.py"], laid layOut (typesInit b.types.values)),
          (target settings.outputDir ++ ["methods.py"],
            laid layOut (methodsModule settings.package b.methods.values)),
          (target settings.outputDir ++ ["__init__.py"], warning ++ "\n")] := by
    rw [placed, packageFiles_eq, typeFiles_eq, laidFiles, List.map_append, List.map_append, List.map_append,
      List.map_map, List.map_map, List.append_assoc, ← target_gatherFile, ← target_methodsFile, ← target_initFile,
      ← List.map_congr_left htypes]
    simp only [Function.comp_def, List.singleton_append, List.map_cons, List.map_nil]
  have hmodule : ∀ t : TypeBinding,
      isTypeModule settings (modulePlace settings (moduleName t.name)) = decide (moduleName t.name ≠ "__init__") :=
    fun t => (isTypeModule_append settings (moduleFile t.name)).trans (decide_eq_decide.2 (not_congr moduleFile_eq_iff))
  rw [hplaced, List.filter_append, List.filter_map]
  simp only [List.filter_cons, List.filter_nil, Function.comp_def, isTypeModule_append, hbeside, hmodule]
  simp [ownModules]

include hclear hmade

theorem length_typeModules :
    (typeModules settings (made.putAll (packageFiles layOut b settings))).length =
      (Entries.merge (ownModules layOut b settings)).length := by
  rw [typeModules, List.filter_map, List.length_map, files_putAll, hmade.files, Function.comp_def,
    Entries.filter_foldl_put _ (filter_isTypeModule_eq_nil hclear), filter_placed_packageFiles hnames]

/-- There are as many type modules as types if modules are told apart by their names, and only then. -/
theorem length_typeModules_eq_iff :
    (typeModules settings (made.putAll (packageFiles layOut b settings))).length = b.types.size ↔
      (moduleNames b).Nodup := by
  have hsize : b.types.size = b.types.values.length := (List.length_map ..).symm
  rw [← length_merge_ownModules_eq_iff layOut b settings, hsize, length_typeModules hnames hclear hmade]

end

/-! ## Emission into a clear directory -/

section

variable {ρ : Type} {format : Formatter ρ} {schema : Schema} {b : Bindings} {tree : FileTree}

/-- If the names of types are identifiers, and the formatter keeps the code of the texts among the type modules, then
emission into a clear directory goes without a fault if the paths of all type modules fit and the formatter takes all
texts, and only then. The package then holds every type if the modules are told apart by their names, and only then; and
only then are there as many type modules as types. -/
theorem package_holds_types_iff (hb : (Bindings.build schema).result = .ok b)
    (hnames : ∀ t ∈ b.types.values, Unicode.isIdentifier t.name.toList = true) (settings : Settings)
    (hkeeps : ∀ f ∈ typeFiles b settings, format.Keeps settings.lineLength f.2)
    (hclear : tree.Clear settings.outputDir) :
    ((emitWith format b settings tree).fault = none ↔
        (∀ f ∈ typeFiles b settings, f.1.Fits) ∧
          ∀ f ∈ drafts b settings, ∃ made, format settings.lineLength f.2 = .ok made) ∧
      ((emitWith format b settings tree).fault = none →
        ((∀ t ∈ b.types.values, Holds (emitWith format b settings tree).tree settings t.name) ↔
          (moduleNames b).Nodup) ∧
        ((typeModules settings (emitWith format b settings tree).tree).length = b.types.size ↔
          (moduleNames b).Nodup)) := by
  have hfault := @fault_emit_eq_none_iff settings ρ format b tree hnames hclear
  refine ⟨hfault, fun hnone => ?_⟩
  obtain ⟨hfits, haccepted⟩ := hfault.1 hnone
  have hkeys : (b.types.values.map (·.name)).Nodup := by
    rw [Bindings.map_name_values hb]
    exact b.types.nodup
  have hcode : ∀ f ∈ typeFiles b settings, code (laid (format settings.lineLength) f.2) = code f.2 := fun f hf =>
    code_laid (haccepted f (List.mem_append_left _ hf)) (hkeeps f hf)
  obtain ⟨made, hmade, hgives⟩ := emit_gives hnames hclear hfits haccepted
  rw [hgives.tree]
  refine ⟨⟨nodup_of_holds hnames hclear hfits hmade hkeys hcode, fun hapart t ht => ?_⟩,
    length_typeModules_eq_iff hnames hclear hmade⟩
  exact holds_of_nodup hnames hclear hfits hmade hkeys hcode hapart ht

end

/-! ## Types without fields -/

/-- A schema of types without fields, and without methods. -/
def bareSchema (names : List String) : Schema where
  version := none
  releaseDate := none
  changelog := none
  types := .ofList <| names.map fun name =>
    (name, { href := "", description := [], fields := [], subtypes := [], subtypeOf := [] })
  methods := .empty

/-- A type without fields. -/
def bareType (name : String) : TypeBinding := { name, fields := [], variants := [], description := [] }

/-- The bindings of such a schema. -/
def bareBindings (names : List String) : Bindings where
  types := .ofList (names.map fun name => (name, bareType name))
  methods := .empty
  version := none

/-- The module of a type without fields, up to its documentation. -/
def bareHead (name : String) : String :=
  warning ++ "\n\nfrom __future__ import annotations\n\nimport dataclasses\n" ++
    "\nfrom botschema.runtime.values import " ++ "Object" ++ "\n" ++
    "\n\n@dataclasses.dataclass(frozen=True, kw_only=True)\nclass " ++ name ++ "(Object):\n    \"\"\""

/-- The module of a type without fields, by what stands around its name once it is documented. -/
def bareText (binding table name : String) : String := bareHead name ++ (name ++ (binding ++ (name ++ table)))

/-- The formatter of a package of types without fields, and without methods. It closes documentation of one line in its
line, lists the names that are offered in one line, and leaves no blank lines at the end of a text. No other text is
known to it. -/
def bareLayout (names : List String) : Formatter String := fun _ text =>
  match names.find? fun name => text = typeModule "botapi" (bareType name) with
  | some name =>
    .ok (bareText "\"\"\"\n\n    __binding__ = \"" "\"\n    __wire_names__ = \x7b\x7d\n" name)
  | none =>
    if text = typesInit (names.map bareType) then
      .ok (gatherText "\n\n__all__ = [" ", " "]\n" (names.map bareType))
    else if text = methodsModule "botapi" [] then .ok (String.ofList text.toList.dropLast)
    else .error "Cannot parse"

/-- The texts that this formatter knows. -/
inductive BareDraft (names : List String) : String → Prop
  | module (name : String) (h : name ∈ names) : BareDraft names (typeModule "botapi" (bareType name))
  | gather : BareDraft names (typesInit (names.map bareType))
  | methods : BareDraft names (methodsModule "botapi" [])

theorem exists_bareLayout_eq {names : List String} {text : String} (h : BareDraft names text) (lineLength : Int) :
    ∃ made, bareLayout names lineLength text = .ok made := by
  unfold bareLayout
  split
  · exact ⟨_, rfl⟩
  · next hnone =>
    rw [List.find?_eq_none] at hnone
    cases h with
    | module name hm => exact absurd (decide_eq_true rfl) (hnone name hm)
    | gather => exact ⟨_, if_pos rfl⟩
    | methods =>
      split
      · exact ⟨_, rfl⟩
      · exact ⟨_, if_pos rfl⟩

section

variable {names : List String} {name : String}

/-- The code of such a module is told by the code of what stands around the name. -/
theorem code_bareText {binding table : String} (hopens : opens binding.toList = true)
    (hcloses : closes binding.toList = true) (htable : opens table.toList = true) (name : String) :
    code (bareText binding table name) =
      code (bareHead name) ++ (code name ++ code binding ++ (code name ++ code table)) := by
  have hclass : ∀ before after : String, code (before ++ "(Object):\n    \"\"\"" ++ after) =
      code (before ++ "(Object):\n    \"\"\"") ++ code after := code_append_of_closes (by decide)
  have hend : code (name ++ table) = code name ++ code table := by
    have hjoint := code_append_of_opens htable name ""
    rwa [String.append_empty] at hjoint
  rw [bareText, bareHead, hclass, code_append_append hopens hcloses, hend]

theorem typeModule_bareType (hdoc : docstring "botapi" indentUnit (describe (bareType name)) [] none = name) :
    typeModule "botapi" (bareType name) =
      bareText "\n    \"\"\"\n\n    __binding__ = \"" "\"\n    __wire_names__ = \x7b\x7d\n\n    \n" name := by
  have hbinding : "\n    \"\"\"\n\n    __binding__ = \"" =
      "\n" ++ indentUnit ++ "\"\"\"\n\n" ++ indentUnit ++ "__binding__ = \"" := by decide
  have htable : "\"\n    __wire_names__ = \x7b\x7d\n\n    \n" =
      "\"\n" ++ indentUnit ++ "__wire_names__ = " ++ "\x7b\x7d" ++ "\n\n" ++ indentUnit ++ "" ++ "\n" := by decide
  have hopening : "(Object):\n    \"\"\"" = "(Object):\n" ++ indentUnit ++ "\"\"\"" := by decide
  have himports : importedTypes [] name = [] := by simp [importedTypes]
  have htyping : typingImport [] name = "" := by
    rw [typingImport, himports]
    rfl
  have htypes : typesImport [] "botapi" name = "" := by
    rw [typesImport, himports]
    rfl
  have hruntime : runtimeImports [] = "Object" := rfl
  have hwire : wireNames [] = "\x7b\x7d" := rfl
  have hattributes : attributes [] = "" := rfl
  have hdocumented : docstring "botapi" indentUnit (describe ⟨name, [], [], []⟩) [] none = name := hdoc
  unfold typeModule bareText bareHead bareType
  dsimp only
  rw [hdocumented, htyping, htypes, hruntime, hwire, hattributes, hbinding, htable, hopening]
  simp only [String.append_assoc, String.empty_append]

variable (hnames : ∀ name ∈ names, Unicode.isIdentifier name.toList = true)
  (hdocs : ∀ name ∈ names, docstring "botapi" indentUnit (describe (bareType name)) [] none = name)

include hnames hdocs

/-- This formatter keeps the code of what it takes. -/
theorem keeps_bareLayout (lineLength : Int) (text : String) : (bareLayout names).Keeps lineLength text := by
  intro made hmade
  unfold bareLayout at hmade
  split at hmade
  · next name hfind =>
    have htext : text = typeModule "botapi" (bareType name) := by simpa using List.find?_some hfind
    have hbinding : code "\"\"\"\n\n    __binding__ = \"" = code "\n    \"\"\"\n\n    __binding__ = \"" := by decide
    have htable : code "\"\n    __wire_names__ = \x7b\x7d\n" =
        code "\"\n    __wire_names__ = \x7b\x7d\n\n    \n" := by decide
    rw [← Except.ok.inj hmade, htext, typeModule_bareType (hdocs name (List.mem_of_find?_eq_some hfind)),
      code_bareText (by decide) (by decide) (by decide), code_bareText (by decide) (by decide) (by decide), hbinding,
      htable]
  · split at hmade
    · next htext =>
      have htypes : ∀ t ∈ names.map bareType, Unicode.isIdentifier t.name.toList = true := by
        intro t ht
        obtain ⟨name, hname, rfl⟩ := List.mem_map.1 ht
        exact hnames name hname
      have hlists : Lists "\n\n__all__ = [" ", " "]\n" := by constructor <;> decide
      rw [← Except.ok.inj hmade, htext, code_typesInit htypes, code_gatherText htypes hlists]
    · split at hmade
      · next htext =>
        -- the module of the methods ends with a line feed
        obtain ⟨body, hbody⟩ : ∃ body, methodsModule "botapi" [] = body ++ "\n" := ⟨_, rfl⟩
        have hchopped : String.ofList (body ++ "\n").toList.dropLast = body := by
          have hchars : (body ++ "\n").toList = body.toList ++ ['\n'] := String.toList_append
          rw [hchars, List.dropLast_concat, String.ofList_toList]
        rw [← Except.ok.inj hmade, htext, hbody, hchopped, code_append_of_isQuiet (by decide)]
      · cases hmade

end

/-- All texts of such a package are known to its formatter. -/
theorem bareDraft_of_mem_drafts {names : List String} (hvalues : (bareBindings names).types.values = names.map bareType)
    {f : PosixPath × String} (hf : f ∈ drafts (bareBindings names) Settings.defaults) : BareDraft names f.2 := by
  rw [drafts, typeFiles_eq, hvalues, List.map_map, List.mem_append, List.mem_append, List.mem_map, List.mem_singleton,
    List.mem_singleton] at hf
  rcases hf with (⟨name, hname, rfl⟩ | rfl) | rfl
  · exact .module name hname
  · exact .gather
  · exact .methods

theorem package_holds_types_iff_chat :
    (Bindings.build (bareSchema ["User", "ChatUrl"])).result = .ok (bareBindings ["User", "ChatUrl"]) ∧
      (∀ t ∈ (bareBindings ["User", "ChatUrl"]).types.values, Unicode.isIdentifier t.name.toList = true) ∧
      (∀ f ∈ typeFiles (bareBindings ["User", "ChatUrl"]) Settings.defaults,
        (bareLayout ["User", "ChatUrl"]).Keeps Settings.defaults.lineLength f.2) ∧
      FileTree.empty.Clear Settings.defaults.outputDir ∧
      (∀ f ∈ typeFiles (bareBindings ["User", "ChatUrl"]) Settings.defaults, f.1.Fits) ∧
      (emitWith (bareLayout ["User", "ChatUrl"]) (bareBindings ["User", "ChatUrl"]) Settings.defaults .empty).fault =
        none ∧
      (∀ t ∈ (bareBindings ["User", "ChatUrl"]).types.values,
        Holds
          (emitWith (bareLayout ["User", "ChatUrl"]) (bareBindings ["User", "ChatUrl"]) Settings.defaults .empty).tree
          Settings.defaults t.name) ∧
      (typeModules Settings.defaults (emitWith (bareLayout ["User", "ChatUrl"]) (bareBindings ["User", "ChatUrl"])
        Settings.defaults .empty).tree).length = 2 := by
  have hb : (Bindings.build (bareSchema ["User", "ChatUrl"])).result = .ok (bareBindings ["User", "ChatUrl"]) :=
    eq_ok_of_toOption (by decide +kernel)
  have hnames : ∀ t ∈ (bareBindings ["User", "ChatUrl"]).types.values, Unicode.isIdentifier t.name.toList = true := by
    decide +kernel
  have hkeeps : ∀ f ∈ typeFiles (bareBindings ["User", "ChatUrl"]) Settings.defaults,
      (bareLayout ["User", "ChatUrl"]).Keeps Settings.defaults.lineLength f.2 := fun f _ =>
    keeps_bareLayout (by decide) (by decide +kernel) _ f.2
  have haccepted : ∀ f ∈ drafts (bareBindings ["User", "ChatUrl"]) Settings.defaults,
      ∃ made, bareLayout ["User", "ChatUrl"] Settings.defaults.lineLength f.2 = .ok made := fun f hf =>
    exists_bareLayout_eq (bareDraft_of_mem_drafts rfl hf) _
  have hclear : FileTree.empty.Clear Settings.defaults.outputDir := clear_empty (by decide)
  have hfits := (@forall_fits_iff Settings.defaults _ hnames).2 (by decide +kernel)
  have hapart : (moduleNames (bareBindings ["User", "ChatUrl"])).Nodup := by decide +kernel
  obtain ⟨hfault, hholds⟩ := package_holds_types_iff hb hnames Settings.defaults hkeeps hclear
  have hnone := hfault.2 ⟨hfits, haccepted⟩
  obtain ⟨hall, hcount⟩ := hholds hnone
  exact ⟨hb, hnames, hkeeps, hclear, hfits, hnone, hall.2 hapart, hcount.2 hapart⟩

/-- The names of two types may differ only in capitals that make no difference in snake case. Then emission goes without
a fault, and the later type is in the place of the earlier one. -/
theorem type_lost_at_snake_case :
    (Bindings.build (bareSchema ["ChatURL", "ChatUrl"])).result = .ok (bareBindings ["ChatURL", "ChatUrl"]) ∧
      (∀ t ∈ (bareBindings ["ChatURL", "ChatUrl"]).types.values, Unicode.isIdentifier t.name.toList = true) ∧
      FileTree.empty.Clear Settings.defaults.outputDir ∧
      (emitWith (bareLayout ["ChatURL", "ChatUrl"]) (bareBindings ["ChatURL", "ChatUrl"]) Settings.defaults
        .empty).fault = none ∧
      (∃ t ∈ (bareBindings ["ChatURL", "ChatUrl"]).types.values,
        ¬ Holds (emitWith (bareLayout ["ChatURL", "ChatUrl"]) (bareBindings ["ChatURL", "ChatUrl"]) Settings.defaults
          .empty).tree Settings.defaults t.name) ∧
      (typeModules Settings.defaults (emitWith (bareLayout ["ChatURL", "ChatUrl"])
        (bareBindings ["ChatURL", "ChatUrl"]) Settings.defaults .empty).tree).length = 1 := by
  have hnames : ∀ t ∈ (bareBindings ["ChatURL", "ChatUrl"]).types.values,
      Unicode.isIdentifier t.name.toList = true := by
    decide +kernel
  have hclear : FileTree.empty.Clear Settings.defaults.outputDir := clear_empty (by decide)
  have hfits := (@forall_fits_iff Settings.defaults _ hnames).2 (by decide +kernel)
  have haccepted : ∀ f ∈ drafts (bareBindings ["ChatURL", "ChatUrl"]) Settings.defaults,
      ∃ made, bareLayout ["ChatURL", "ChatUrl"] Settings.defaults.lineLength f.2 = .ok made := fun f hf =>
    exists_bareLayout_eq (bareDraft_of_mem_drafts rfl hf) _
  obtain ⟨made, hmade, hgives⟩ := emit_gives hnames hclear hfits haccepted
  refine ⟨eq_ok_of_toOption (by decide +kernel), hnames, hclear, hgives.fault, ?_, ?_⟩
  · refine ⟨bareType "ChatURL", by decide +kernel, fun hholds => ?_⟩
    -- the name is not among those that are listed
    have hlisted : (modules (bareBindings ["ChatURL", "ChatUrl"]).types.values).values.count "ChatURL" = 0 := by
      decide +kernel
    have hgather : typesInit (bareBindings ["ChatURL", "ChatUrl"]).types.values =
        typesInit (["ChatURL", "ChatUrl"].map bareType) := rfl
    have hkept : code (laid (bareLayout ["ChatURL", "ChatUrl"] Settings.defaults.lineLength)
        (typesInit (bareBindings ["ChatURL", "ChatUrl"]).types.values)) =
        code (typesInit (bareBindings ["ChatURL", "ChatUrl"]).types.values) :=
      code_laid (exists_bareLayout_eq (hgather ▸ .gather) _) (keeps_bareLayout (by decide) (by decide +kernel) _ _)
    obtain ⟨text, htext, -, hcount⟩ := hholds.gathered
    rw [hgives.tree, read_gatherFile hnames hclear hfits hmade, Except.ok.injEq] at htext
    rw [← htext, offered_of_code_eq hnames hkept] at hcount
    exact absurd (hlisted.symm.trans hcount) (by decide)
  · rw [hgives.tree, length_typeModules hnames hclear hmade]
    decide +kernel

end Package

end BotApi
