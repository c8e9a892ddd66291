import BotApi.Proofs.Bindings.Resolved
import BotApi.Proofs.Package.ImportedNames
import BotApi.Settings.Basic

/-!
# The imports of generated modules

The hints of a module and the defaults of its fields use names, and all of them are bound: they are builtin, or that of
the class itself, or imported from the types, or from the library. Conversely, what is imported from the types is used.
Hints, imports of types and imports from the library come from three walks over the same expressions, and the walks have
to find the same names; nothing more is needed of the types than that their names are identifiers which do not stand for
anything else.

The formatter may lay the texts out as it likes if it keeps their code. What is declared is then found in the code: the
module of a type ends with its declarations, and each entry point has those of its parameters in its head.

## Main results

* `names_typeModule`, `names_methodsModule` — what the modules import.
* `declarations_suffix`, `entryHead_infix` — where the modules declare fields and parameters.
* `modules_bind_their_names` — modules import exactly what their hints and defaults use.
-/

namespace BotApi.Package

open Text (identifiers)

/-! ## The names that fields use -/

/-- The names in the hint of a field and in its default. -/
def usedNames (f : FieldBinding) : List String := identifiers f.hint.toList ++ identifiers (defaultOf f).toList

/-- The names that stand for something else in a module. -/
def reservedNames : List String := ["Object", "Absent", "ABSENT", "None", "str", "int", "float", "bool", "tuple"]

/-- Whether a module imports what its fields use, and imports no type that they do not use. There may be a class of its
own that it does not import. -/
structure BindsNames (types : Table TypeBinding) (package text : String) (own : Option String)
    (fields : List FieldBinding) : Prop where
  bound : ∀ f ∈ fields, ∀ name ∈ usedNames f,
    name ∈ builtins ∨ own = some name ∨ name ∈ schemaNames package text ∨
      name ∈ ["ABSENT", "Absent", "InputFile"] ∧ name ∈ runtimeNames text
  imported : ∀ name, name ∈ schemaNames package text ↔ own ≠ some name ∧ ∃ f ∈ fields, name ∈ f.type.refs
  nodup : (schemaNames package text).Nodup
  used : ∀ name ∈ schemaNames package text, ∃ f ∈ fields, name ∈ identifiers f.hint.toList
  apart : ∀ name ∈ schemaNames package text, name ∈ types.names ∧ name ∉ builtins ∧ name ∉ runtimeNames text

section

variable {f : FieldBinding} (hnames : ∀ name ∈ f.type.refs, Unicode.isIdentifier name.toList = true)

include hnames

theorem identifiers_hint_field :
    identifiers f.hint.toList = f.type.hintNames ++ if f.required then [] else ["None", "Absent"] := by
  rw [FieldBinding.hint]
  cases f.required with
  | true => rw [if_pos rfl, if_pos rfl, String.append_empty, List.append_nil, TypeExpr.identifiers_hint _ hnames]
  | false =>
    have htext : (f.type.hint ++ " | None | Absent").toList =
        f.type.hint.toList ++ ' ' :: "| None | Absent".toList := by
      rw [String.toList_append]
      rfl
    have hrest : identifiers "| None | Absent".toList = ["None", "Absent"] := by decide
    rw [if_neg Bool.false_ne_true, if_neg Bool.false_ne_true, htext, Text.identifiers_append_cons (by decide),
      TypeExpr.identifiers_hint _ hnames, hrest]

/-- What a field uses is builtin, a type that it refers to, the file type, or what marks a field as not sent. -/
theorem mem_usedNames {name : String} (h : name ∈ usedNames f) :
    name ∈ builtins ∨ name ∈ f.type.refs ∨ (name = "InputFile" ∧ f.type.mentionsFile = true) ∨
      (name ∈ ["ABSENT", "Absent"] ∧ f.required = false) := by
  by_cases hbuiltin : name ∈ builtins
  · exact .inl hbuiltin
  · right
    have hdefault : identifiers (defaultOf f).toList = if f.required then [] else ["ABSENT"] := by
      rw [defaultOf]
      cases f.required <;> decide
    rw [usedNames, identifiers_hint_field hnames, hdefault, List.mem_append, List.mem_append,
      TypeExpr.mem_hintNames_iff hbuiltin] at h
    cases hrequired : f.required with
    | true =>
      rw [hrequired] at h
      rcases h with (h | h) | h
      · exact h.imp_right .inl
      · cases h
      · cases h
    | false =>
      rw [hrequired] at h
      rcases h with (h | h) | h
      · exact h.imp_right .inl
      · have hne : name ≠ "None" := fun heq => hbuiltin (heq ▸ by decide)
        have hlast : name = "Absent" := by simpa [hne] using h
        exact .inr (.inr ⟨by rw [hlast]; decide, rfl⟩)
      · have hlast : name = "ABSENT" := by simpa using h
        exact .inr (.inr ⟨by rw [hlast]; decide, rfl⟩)

end

section

variable {types : Table TypeBinding} {fields : List FieldBinding} {package text exclude : String}
  {own : Option String}

/-- Whether fields refer to types only that can be imported under their names. -/
def RefersTo (types : Table TypeBinding) (fields : List FieldBinding) : Prop :=
  ∀ f ∈ fields, ∀ name ∈ f.type.refs,
    name ∈ types.names ∧ Unicode.isIdentifier name.toList = true ∧ name ∉ reservedNames ∧ name ≠ "InputFile"

theorem RefersTo.isIdentifier (hrefs : RefersTo types fields) {f : FieldBinding} (hf : f ∈ fields) :
    ∀ name ∈ f.type.refs, Unicode.isIdentifier name.toList = true :=
  fun name hname => (hrefs f hf name hname).2.1

/-- The file type is in the hint of a field that mentions it, as no type has its name. -/
theorem RefersTo.mem_hint_iff (hrefs : RefersTo types fields) {f : FieldBinding} (hf : f ∈ fields) :
    "InputFile" ∈ identifiers f.hint.toList ↔ f.type.mentionsFile = true := by
  have hnone : "InputFile" ∉ f.type.refs := fun hm => (hrefs f hf _ hm).2.2.2 rfl
  rw [identifiers_hint_field (hrefs.isIdentifier hf), List.mem_append, TypeExpr.mem_hintNames_iff (by decide)]
  cases f.required <;> simp [hnone]

theorem bindsNames (hrefs : RefersTo types fields) (hschema : schemaNames package text = importedTypes fields exclude)
    (hown : ∀ f ∈ fields, ∀ name ∈ f.type.refs, name ≠ exclude ↔ own ≠ some name)
    (hruntime : runtimeNames text ⊆ ["ABSENT", "Absent", "InputFile", "Object"])
    (hoptional : ∀ f ∈ fields, f.required = false → ["ABSENT", "Absent"] ⊆ runtimeNames text)
    (hfile : ∀ f ∈ fields, f.type.mentionsFile = true → "InputFile" ∈ runtimeNames text) :
    BindsNames types package text own fields := by
  have himported : ∀ name, name ∈ schemaNames package text ↔ own ≠ some name ∧ ∃ f ∈ fields, name ∈ f.type.refs := by
    intro name
    rw [hschema, mem_importedTypes_iff]
    exact and_congr_left fun ⟨f, hf, hname⟩ => hown f hf name hname
  have hnotBuiltin : ∀ f ∈ fields, ∀ name ∈ f.type.refs, name ∉ builtins := by
    intro f hf name hname hbuiltin
    have hreserved : ∀ builtin ∈ builtins, builtin ∈ reservedNames := by decide
    exact (hrefs f hf name hname).2.2.1 (hreserved name hbuiltin)
  refine ⟨fun f hf name hname => ?_, himported, ?_, fun name hname => ?_, fun name hname => ?_⟩
  · rcases mem_usedNames (hrefs.isIdentifier hf) hname with h | h | ⟨rfl, h⟩ | ⟨h, hrequired⟩
    · exact .inl h
    · -- a type that a field refers to is imported, unless it is the one that the module is about
      by_cases hself : own = some name
      · exact .inr (.inl hself)
      · exact .inr (.inr (.inl ((himported name).2 ⟨hself, f, hf, h⟩)))
    · exact .inr (.inr (.inr ⟨by decide, hfile f hf h⟩))
    · have hmarks : ∀ mark ∈ ["ABSENT", "Absent"], mark ∈ ["ABSENT", "Absent", "InputFile"] := by decide
      exact .inr (.inr (.inr ⟨hmarks name h, hoptional f hf hrequired h⟩))
  · rw [hschema]
    exact nodup_importedTypes
  · obtain ⟨-, f, hf, href⟩ := (himported name).1 hname
    refine ⟨f, hf, ?_⟩
    rw [identifiers_hint_field (hrefs.isIdentifier hf)]
    exact List.mem_append_left _ ((TypeExpr.mem_hintNames_iff (hnotBuiltin f hf name href) _).2 (.inl href))
  · obtain ⟨-, f, hf, href⟩ := (himported name).1 hname
    obtain ⟨hin, -, hreserved, hne⟩ := hrefs f hf name href
    refine ⟨hin, hnotBuiltin f hf name href, fun hm => ?_⟩
    -- what the library offers are reserved names, and the file type, which no type can be named as here
    have hlibrary := hruntime hm
    simp only [List.mem_cons, List.not_mem_nil, or_false] at hlibrary
    rcases hlibrary with rfl | rfl | rfl | rfl
    · exact hreserved (by decide)
    · exact hreserved (by decide)
    · exact hne rfl
    · exact hreserved (by decide)

end

/-! ## The modules of a package -/

/-- The names that a type module imports from the library. -/
def runtimeList (fields : List FieldBinding) : List String :=
  (if fields.any fun f => !f.required then ["ABSENT", "Absent"] else []) ++
    (if fields.any fun f => f.type.mentionsFile then ["InputFile"] else []) ++ ["Object"]

/-- What stands before the import from the library in the module of a type. -/
def moduleHead (t : TypeBinding) : String :=
  warning ++ "\n\nfrom __future__ import annotations\n\nimport dataclasses\n" ++ typingImport t.fields t.name

/-- What stands before the import from the library in the module of the methods. -/
def methodsHead : String :=
  warning ++ "\n\nfrom __future__ import annotations\n\nimport typing\n\n" ++
    "from botschema.runtime.result import APIResult"

section

variable {t : TypeBinding} {package : String}

theorem mem_runtimeList_iff {fields : List FieldBinding} {name : String} :
    name ∈ runtimeList fields ↔
      (name ∈ ["ABSENT", "Absent"] ∧ ∃ f ∈ fields, f.required = false) ∨
      (name = "InputFile" ∧ ∃ f ∈ fields, f.type.mentionsFile = true) ∨ name = "Object" := by
  have hoptional : (fields.any fun f => !f.required) = true ↔ ∃ f ∈ fields, f.required = false := by simp
  have hfile : (fields.any fun f => f.type.mentionsFile) = true ↔ ∃ f ∈ fields, f.type.mentionsFile = true := by simp
  rw [runtimeList, List.mem_append, List.mem_append, List.mem_singleton, or_assoc, ← hoptional, ← hfile]
  refine or_congr ?_ (or_congr ?_ Iff.rfl)
  · split
    · next h => simp [h]
    · next h => simp [h]
  · split
    · next h => simp [h]
    · next h => simp [h]

theorem isIdentifier_of_mem_runtimeList {fields : List FieldBinding} {name : String} (h : name ∈ runtimeList fields) :
    Unicode.isIdentifier name.toList = true := by
  have hmarks : ∀ mark ∈ ["ABSENT", "Absent"], Unicode.isIdentifier mark.toList = true := by decide
  rcases mem_runtimeList_iff.1 h with ⟨h, -⟩ | ⟨rfl, -⟩ | rfl
  · exact hmarks name h
  · decide
  · decide

/-- The module of a type, with its imports set apart. -/
theorem exists_typeModule_eq (package : String) (t : TypeBinding) :
    ∃ rest, typeModule package t =
      textOf (moduleHead t) (runtimeList t.fields) package t.name t.fields
        "\n\n@dataclasses.dataclass(frozen=True, kw_only=True)\nclass " rest := by
  -- what follows the name of the class does not matter
  refine ⟨t.name ++ ("(Object):\n" ++ (indentUnit ++ ("\"\"\"" ++
    (docstring package indentUnit (describe t) t.fields none ++ ("\n" ++
    (indentUnit ++ ("\"\"\"\n\n" ++
    (indentUnit ++ ("__binding__ = \"" ++ (t.name ++ ("\"\n" ++
    (indentUnit ++ ("__wire_names__ = " ++ (wireNames t.fields ++ ("\n\n" ++
    (indentUnit ++ (attributes t.fields ++ "\n"))))))))))))))))), ?_⟩
  unfold typeModule textOf moduleHead runtimeImports runtimeList
  simp only [String.append_assoc]

theorem exists_methodsModule_eq (package : String) (methods : List MethodBinding) :
    ∃ rest, methodsModule package methods =
      textOf methodsHead ["ABSENT", "Absent", "InputFile"] package "" (methods.flatMap (·.params))
        "\n\nclass Methods:\n" rest := by
  have himport : "from botschema.runtime.result import APIResult\n" ++
      "from botschema.runtime.values import ABSENT, Absent, InputFile\n" =
      "from botschema.runtime.result import APIResult" ++ ("\nfrom botschema.runtime.values import " ++
        (", ".intercalate ["ABSENT", "Absent", "InputFile"] ++ "\n")) := by decide
  have himports : ∀ tail, "from botschema.runtime.result import APIResult\n" ++
      ("from botschema.runtime.values import ABSENT, Absent, InputFile\n" ++ tail) =
      "from botschema.runtime.result import APIResult" ++ ("\nfrom botschema.runtime.values import " ++
        (", ".intercalate ["ABSENT", "Absent", "InputFile"] ++ ("\n" ++ tail))) := by
    intro tail
    rw [← String.append_assoc, himport]
    simp only [String.append_assoc]
  -- what follows the class does not matter
  apply Exists.intro
  unfold methodsModule textOf methodsHead
  dsimp only
  simp only [String.append_assoc, himports]
  rfl

/-- The module that imports names is not among the words before the import from the library. -/
theorem values_not_mem_code {head : String} (h : 'v' ∉ head.toList) : "values" ∉ code head := fun hm =>
  h (mem_of_mem_code hm 'v' (by decide))

variable {text : String}

/-- What the module of a type imports. -/
theorem names_typeModule
    (hrefs : ∀ f ∈ t.fields, ∀ name ∈ f.type.refs, Unicode.isIdentifier name.toList = true)
    (htext : code text = code (typeModule package t)) :
    schemaNames package text = importedTypes t.fields t.name ∧ runtimeNames text = runtimeList t.fields := by
  have hhead : "values" ∉ code (moduleHead t) := by
    refine values_not_mem_code ?_
    rw [moduleHead, typingImport, String.toList_append, String.toList_append, List.mem_append, List.mem_append, not_or,
      not_or]
    refine ⟨⟨not_mem_warning _ (by decide), by decide⟩, ?_⟩
    split <;> decide
  have hne : runtimeList t.fields ≠ [] := List.append_ne_nil_of_right_ne_nil _ (List.cons_ne_nil _ _)
  obtain ⟨rest, hmodule⟩ := exists_typeModule_eq package t
  rw [hmodule] at htext
  exact names_textOf hne (fun _ => isIdentifier_of_mem_runtimeList) hrefs hhead (by decide) (by decide)
    ⟨"@", by decide, by decide⟩ htext

/-- What the module of the methods imports. -/
theorem names_methodsModule {methods : List MethodBinding}
    (hrefs : ∀ p ∈ methods.flatMap (·.params), ∀ name ∈ p.type.refs, Unicode.isIdentifier name.toList = true)
    (htext : code text = code (methodsModule package methods)) :
    schemaNames package text = importedTypes (methods.flatMap (·.params)) "" ∧
      runtimeNames text = ["ABSENT", "Absent", "InputFile"] := by
  have hhead : "values" ∉ code methodsHead := by
    refine values_not_mem_code ?_
    rw [methodsHead, String.toList_append, String.toList_append, List.mem_append, List.mem_append, not_or, not_or]
    exact ⟨⟨not_mem_warning _ (by decide), by decide⟩, by decide⟩
  obtain ⟨rest, hmodule⟩ := exists_methodsModule_eq package methods
  rw [hmodule] at htext
  exact names_textOf (List.cons_ne_nil _ _) (by decide) hrefs hhead (by decide) (by decide)
    ⟨"class", by decide, by decide⟩ htext

end


/-! ## What modules bind -/

section

variable {types : Table TypeBinding} {t : TypeBinding} {package text : String}

section

variable (hrefs : RefersTo types t.fields) (htext : code text = code (typeModule package t))

include hrefs htext

/-- The module of a type imports the marks of what was not sent if some field may be left out. -/
theorem mark_mem_runtimeNames_iff {mark : String} (hmark : mark ∈ ["ABSENT", "Absent"]) :
    mark ∈ runtimeNames text ↔ ∃ f ∈ t.fields, f.required = false := by
  have hne : mark ≠ "InputFile" ∧ mark ≠ "Object" := by
    revert mark
    decide
  rw [(names_typeModule (fun f hf => hrefs.isIdentifier hf) htext).2, mem_runtimeList_iff]
  simp [hmark, hne]

/-- It imports the file type if some field mentions it. -/
theorem file_mem_runtimeNames_iff :
    "InputFile" ∈ runtimeNames text ↔ ∃ f ∈ t.fields, f.type.mentionsFile = true := by
  rw [(names_typeModule (fun f hf => hrefs.isIdentifier hf) htext).2, mem_runtimeList_iff]
  simp

theorem bindsNames_typeModule : BindsNames types package text (some t.name) t.fields := by
  obtain ⟨hschema, hruntime⟩ := names_typeModule (fun f hf => hrefs.isIdentifier hf) htext
  refine bindsNames hrefs hschema ?_ ?_ ?_ ?_
  · intro f hf name hname
    rw [Ne, Ne, Option.some.injEq, eq_comm]
  · intro name hname
    rw [hruntime] at hname
    rcases mem_runtimeList_iff.1 hname with ⟨hmark, -⟩ | ⟨rfl, -⟩ | rfl
    · exact List.mem_append_left ["InputFile", "Object"] hmark
    · decide
    · decide
  · exact fun f hf hrequired mark hmark => (mark_mem_runtimeNames_iff hrefs htext hmark).2 ⟨f, hf, hrequired⟩
  · exact fun f hf hmention => (file_mem_runtimeNames_iff hrefs htext).2 ⟨f, hf, hmention⟩

end

theorem bindsNames_methodsModule {methods : List MethodBinding} (hrefs : RefersTo types (methods.flatMap (·.params)))
    (htext : code text = code (methodsModule package methods)) :
    BindsNames types package text none (methods.flatMap (·.params)) := by
  obtain ⟨hschema, hruntime⟩ := names_methodsModule (fun p hp => hrefs.isIdentifier hp) htext
  refine bindsNames hrefs hschema ?_ ?_ ?_ ?_
  · -- the methods leave out no type, as none has an empty name
    intro p hp name hname
    have hne : name ≠ "" := by
      rintro rfl
      exact absurd (hrefs.isIdentifier hp _ hname) (by decide)
    exact ⟨fun _ => nofun, fun _ => hne⟩
  · rw [hruntime]
    decide
  · rw [hruntime]
    exact fun _ _ _ => by decide
  · rw [hruntime]
    exact fun _ _ _ => by decide

end

/-! ## Declarations -/

/-- The declaration of an attribute: its name, its hint, and its default. -/
def declaration (f : FieldBinding) : String := f.name ++ ": " ++ f.hint ++ defaultOf f

/-- The head of the entry point of a method, with the declarations of its parameters. -/
def entryHead (m : MethodBinding) : String :=
  "    def " ++ (m.snakeName ++ "(" ++
    ", ".intercalate ("self" :: if m.params.isEmpty then [] else "*" :: m.params.map declaration)) ++
    ") -> APIResult:\n"

/-- The code of texts with blanks between them is that of each, if each begins where a token does. -/
theorem code_intercalate_of_joint {quiet : String} {texts : List String} (hquiet : quiet.toList.all isQuiet = true)
    (hjoint : ∀ text ∈ texts, ∀ before after,
      code (before ++ quiet ++ (text ++ after)) = code (before ++ quiet) ++ code (text ++ after)) :
    code (quiet.intercalate texts) = texts.flatMap code := by
  induction texts with
  | nil => rfl
  | cons text rest ih =>
    cases rest with
    | nil => rw [String.intercalate_singleton, List.flatMap_singleton]
    | cons next more =>
      obtain ⟨after, hafter⟩ : ∃ after, quiet.intercalate (next :: more) = next ++ after := by
        have hnext := @String.intercalate_cons_append quiet next "" more
        rw [String.append_empty] at hnext
        exact ⟨_, hnext⟩
      have hnext := hjoint next (List.mem_cons_of_mem _ List.mem_cons_self) text after
      rw [String.intercalate_cons_cons, hafter, hnext, ← hafter,
        ih fun t ht => hjoint t (List.mem_cons_of_mem _ ht), code_append_of_isQuiet hquiet, ← List.flatMap_cons]

section

variable {t : TypeBinding} {package : String}

theorem code_attributes {fields : List FieldBinding}
    (hnames : ∀ f ∈ fields, Unicode.isIdentifier f.name.toList = true) :
    code (attributes fields) = fields.flatMap fun f => code (declaration f) := by
  have hattributes : attributes fields = "\n    ".intercalate (fields.map declaration) := rfl
  rw [hattributes, code_intercalate_of_joint (by decide), List.flatMap_map]
  intro text htext before after
  obtain ⟨f, hf, rfl⟩ := List.mem_map.1 htext
  -- a declaration begins with the name of its field, and the line before it ends in a blank
  have hdeclaration : declaration f ++ after = f.name ++ (": " ++ f.hint ++ defaultOf f ++ after) := by
    simp only [declaration, String.append_assoc]
  obtain ⟨c, hfirst, hpart⟩ := firstMark?_of_isIdentifier (hnames f hf) (": " ++ f.hint ++ defaultOf f ++ after)
  rw [hdeclaration]
  refine code_append_of_name ?_ hfirst hpart
  rw [getLast?_toList_append (by decide)]
  decide

/-- The module of a type ends with the declarations of its fields. -/
theorem declarations_suffix (package : String) (hnames : ∀ f ∈ t.fields, Unicode.isIdentifier f.name.toList = true) :
    (t.fields.flatMap fun f => code (declaration f)) <:+ code (typeModule package t) := by
  obtain ⟨before, htext⟩ : ∃ before,
      typeModule package t = before ++ "\x7d\n\n    " ++ (attributes t.fields ++ "\n") := by
    have hmark : "\x7d\n\n    " = "\x7d" ++ ("\n\n" ++ indentUnit) := by decide
    rw [hmark]
    apply Exists.intro
    unfold typeModule wireNames
    simp only [← String.append_assoc]
    rfl
  have hdeclared : code (attributes t.fields ++ "\n") = t.fields.flatMap fun f => code (declaration f) := by
    rw [code_append_of_isQuiet (by decide), code_attributes hnames]
  rw [htext, code_append_of_closes (by decide), hdeclared]
  exact List.suffix_append _ _

/-- The entry point of a method is its head, and a body. -/
theorem exists_methodSource_eq (package : String) (m : MethodBinding) :
    ∃ body, methodSource package m = entryHead m ++ body := by
  have hdef : "    def " = indentUnit ++ "def " := by decide
  have hdeclaration : declaration = fun f => f.name ++ ": " ++ f.hint ++ defaultOf f := rfl
  refine ⟨indentUnit ++ (indentUnit ++ ("\"\"\"" ++
    (docstring package (indentUnit ++ indentUnit) m.description m.params (some m.returns) ++ ("\n" ++
    (indentUnit ++ (indentUnit ++ ("\"\"\"\n\n" ++
    (indentUnit ++ (indentUnit ++ ("return self.call(\"" ++ (m.name ++ ("\", \x7b" ++
    (", ".intercalate (m.params.map fun p => "\"" ++ p.wireName ++ "\": " ++ p.name) ++ "\x7d)\n"))))))))))))), ?_⟩
  unfold methodSource entryHead
  simp only [hdef, hdeclaration, String.append_assoc]

/-- The head of an entry point is a text of its own. -/
theorem code_entryHead_append (m : MethodBinding) (body : String) :
    code (entryHead m ++ body) = code (entryHead m) ++ code body := by
  have hjoint := @code_append_of_closes ") -> APIResult:\n" (by decide)
    ("    def " ++ (m.snakeName ++ "(" ++
      ", ".intercalate ("self" :: if m.params.isEmpty then [] else "*" :: m.params.map declaration))) body
  have hassoc : entryHead m = "    def " ++ (m.snakeName ++ "(" ++
      ", ".intercalate ("self" :: if m.params.isEmpty then [] else "*" :: m.params.map declaration)) ++
      ") -> APIResult:\n" := by
    simp only [entryHead, String.append_assoc]
  rw [hassoc, hjoint]

/-- The module of the methods ends with their entry points. -/
theorem sources_suffix (package : String) (methods : List MethodBinding) :
    (methods.flatMap fun m => code (methodSource package m)) <:+ code (methodsModule package methods) := by
  have hsource : ∀ m : MethodBinding, ∃ rest, methodSource package m = "    def " ++ rest := by
    intro m
    obtain ⟨body, hbody⟩ := exists_methodSource_eq package m
    rw [hbody, entryHead]
    simp only [String.append_assoc]
    exact ⟨_, rfl⟩
  have hcode : code ("\n".intercalate (methods.map (methodSource package))) =
      methods.flatMap fun m => code (methodSource package m) := by
    rw [code_intercalate_of_joint (by decide), List.flatMap_map]
    intro text htext before after
    obtain ⟨m, -, rfl⟩ := List.mem_map.1 htext
    obtain ⟨rest, hrest⟩ := hsource m
    have hassoc : "    def " ++ rest ++ after = "    def " ++ (rest ++ after) := String.append_assoc
    rw [hrest, hassoc]
    exact code_append_of_opens (by decide) _ _
  cases methods with
  | nil => exact List.nil_suffix
  | cons m others =>
    -- the first entry point begins with a mark
    obtain ⟨rest, hrest⟩ : ∃ rest,
        "\n".intercalate ((m :: others).map (methodSource package)) = "    def " ++ rest := by
      obtain ⟨rest, hrest⟩ := hsource m
      rw [List.map_cons, hrest, String.intercalate_cons_append]
      exact ⟨_, rfl⟩
    have hbody : "\n".intercalate ((m :: others).map (methodSource package)) ≠ "" := by
      rw [hrest]
      exact fun heq => absurd (congrArg (·.toList.isEmpty) heq) (by rw [String.toList_append]; exact Bool.false_ne_true)
    obtain ⟨before, htext⟩ : ∃ before, methodsModule package (m :: others) =
        before ++ "\n".intercalate ((m :: others).map (methodSource package)) ++ "\n" := by
      apply Exists.intro
      unfold methodsModule
      dsimp only
      rw [if_neg hbody]
    rw [htext, code_append_of_isQuiet (by decide), hrest, @code_append_of_opens "    def " (by decide), ← hrest, hcode]
    exact List.suffix_append _ _

/-- The heads of the entry points stand in the module of the methods. -/
theorem entryHead_infix (package : String) {methods : List MethodBinding} {m : MethodBinding} (hm : m ∈ methods) :
    code (entryHead m) <:+: code (methodsModule package methods) := by
  have hhead : code (entryHead m) <:+: code (methodSource package m) := by
    obtain ⟨body, hbody⟩ := exists_methodSource_eq package m
    rw [hbody, code_entryHead_append]
    exact (List.prefix_append _ _).isInfix
  have hsource : code (methodSource package m) <:+: methods.flatMap fun m => code (methodSource package m) := by
    obtain ⟨before, after, rfl⟩ := List.append_of_mem hm
    rw [List.flatMap_append, List.flatMap_cons]
    exact List.infix_append' _ _ _
  exact hhead.trans (hsource.trans (sources_suffix package methods).isInfix)

end

/-! ## Modules of bindings -/

section

variable {schema : Schema} {b : Bindings}

theorem isAttributeName_of_fieldFault? {type : String} {seen : List String} {fields : List FieldBinding}
    (h : Bindings.fieldFault? type seen fields = none) : ∀ f ∈ fields, isAttributeName f.name = true := by
  induction fields generalizing seen with
  | nil => simp
  | cons f rest ih =>
    rw [Bindings.fieldFault?] at h
    split at h
    · cases h
    · next hname =>
      split at h
      · cases h
      · rw [Bool.not_eq_true, Bool.not_eq_false'] at hname
        exact List.forall_mem_cons.2 ⟨hname, ih h⟩

/-- The attributes of types are identifiers. -/
theorem isIdentifier_of_mem_fields (hb : (Bindings.build schema).result = .ok b) {t : TypeBinding}
    (ht : t ∈ b.types.values) : ∀ f ∈ t.fields, Unicode.isIdentifier f.name.toList = true := by
  obtain ⟨e, he, rfl⟩ := List.mem_map.1 ht
  obtain ⟨spec, -, hbind, -⟩ := Bindings.type_of_build hb ((Entries.lookup_eq_some_iff_mem b.types.nodup).2 he)
  intro f hf
  have hname := isAttributeName_of_fieldFault? (Bindings.of_bindType hbind).2.2 f hf
  rw [isAttributeName, Bool.and_eq_true] at hname
  exact hname.1

section

variable (hb : (Bindings.build schema).result = .ok b)
  (hnames : ∀ t ∈ b.types.values, Unicode.isIdentifier t.name.toList = true ∧ t.name ∉ reservedNames)

include hb hnames

/-- What is read from texts refers to types only that can be imported under their names. -/
theorem refersTo_of_closed {fields : List FieldBinding}
    (hfields : ∀ f ∈ fields, Closed b.types f.type ∧ ∃ texts, f.type = .ofTexts texts) : RefersTo b.types fields := by
  intro f hf name hname
  obtain ⟨hclosed, texts, htexts⟩ := hfields f hf
  have hin := hclosed name hname
  have hvalues := hin
  rw [← Bindings.map_name_values hb] at hvalues
  obtain ⟨t, ht, rfl⟩ := List.mem_map.1 hvalues
  refine ⟨hin, (hnames t ht).1, (hnames t ht).2, fun heq => ?_⟩
  rw [htexts, heq] at hname
  exact TypeExpr.inputFile_not_mem_refs texts hname

theorem refersTo_fields {t : TypeBinding} (ht : t ∈ b.types.values) : RefersTo b.types t.fields := by
  obtain ⟨e, he, rfl⟩ := List.mem_map.1 ht
  have hfind := (Entries.lookup_eq_some_iff_mem b.types.nodup).2 he
  obtain ⟨spec, -, -, hfields, -⟩ := Bindings.type_of_build hb hfind
  refine refersTo_of_closed hb hnames fun f hf => ⟨(Bindings.resolved_of_build hb).fields _ _ hfind f hf, ?_⟩
  rw [hfields] at hf
  obtain ⟨-, field, -, htexts⟩ := Bindings.name_of_ofField hf
  exact ⟨field.types, htexts⟩

theorem refersTo_params : RefersTo b.types (b.methods.values.flatMap (·.params)) := by
  refine refersTo_of_closed hb hnames fun p hp => ?_
  obtain ⟨m, hm, hp⟩ := List.mem_flatMap.1 hp
  obtain ⟨e, he, rfl⟩ := List.mem_map.1 hm
  have hfind := (Entries.lookup_eq_some_iff_mem b.methods.nodup).2 he
  have hmethod : b.method? e.1 = some e.2 := by
    rw [Bindings.method?, show b.methods.find? e.1 = some e.2 from hfind]
  refine ⟨(Bindings.closed_of_method hb hmethod).1 p hp, ?_⟩
  obtain ⟨other, spec, -, hparams, -⟩ := Bindings.method_of_build hb hmethod
  rw [hparams] at hp
  obtain ⟨-, field, -, htexts⟩ := Bindings.name_of_ofField hp
  exact ⟨field.types, htexts⟩

/-- Suppose that the names of types are identifiers that stand for nothing else, and that the formatter keeps the code
of the modules. Then each type module that is laid out binds the names in its declarations: they are builtin, that of its
class, imported from the types, or imported from the library. It imports the types that its fields refer to, apart from
itself, and from the library what its fields use. The module of the methods does the same for all parameters, which are
declared in the heads of its entry points. -/
theorem modules_bind_their_names {ρ : Type} {format : Formatter ρ} {settings : Settings}
    (htypes : ∀ t ∈ b.types.values, format.Keeps settings.lineLength (typeModule settings.package t))
    (hmethods : format.Keeps settings.lineLength (methodsModule settings.package b.methods.values)) :
    (∀ t ∈ b.types.values, ∀ text, format settings.lineLength (typeModule settings.package t) = .ok text →
      BindsNames b.types settings.package text (some t.name) t.fields ∧
      (t.fields.flatMap fun f => code (declaration f)) <:+ code text ∧
      (∀ mark ∈ ["ABSENT", "Absent"], mark ∈ runtimeNames text ↔ ∃ f ∈ t.fields, f.required = false) ∧
      ("InputFile" ∈ runtimeNames text ↔ ∃ f ∈ t.fields, "InputFile" ∈ identifiers f.hint.toList)) ∧
      ∀ text, format settings.lineLength (methodsModule settings.package b.methods.values) = .ok text →
        BindsNames b.types settings.package text none (b.methods.values.flatMap (·.params)) ∧
        ∀ m ∈ b.methods.values, code (entryHead m) <:+: code text := by
  refine ⟨fun t ht text hformat => ?_, fun text hformat => ?_⟩
  · have hrefs := refersTo_fields hb hnames ht
    have htext := htypes t ht text hformat
    refine ⟨bindsNames_typeModule hrefs htext, ?_, fun mark hmark => mark_mem_runtimeNames_iff hrefs htext hmark, ?_⟩
    · rw [htext]
      exact declarations_suffix settings.package (isIdentifier_of_mem_fields hb ht)
    · rw [file_mem_runtimeNames_iff hrefs htext]
      exact exists_congr fun f => and_congr_right fun hf => (hrefs.mem_hint_iff hf).symm
  · have htext := hmethods text hformat
    refine ⟨bindsNames_methodsModule (refersTo_params hb hnames) htext, fun m hm => ?_⟩
    rw [htext]
    exact entryHead_infix settings.package hm

end

end

/-- A schema with a type that refers to itself, to another type and to files, and with a method. -/
def gallerySchema : Schema where
  version := none
  releaseDate := none
  changelog := none
  types := .ofList
    [("Photo", { href := "", description := [], subtypes := [], subtypeOf := []
                 fields := [⟨"id", ["String"], true, ""⟩] }),
      ("Album", { href := "", description := [], subtypes := [], subtypeOf := []
                  fields := [⟨"photos", ["Array of Photo"], true, ""⟩, ⟨"cover", ["InputFile or String"], true, ""⟩,
                    ⟨"parent", ["Album"], false, ""⟩] })]
  methods := .ofList
    [("sendAlbum", { href := "", description := ["Sends an album."], fields := [⟨"album", ["Album"], true, ""⟩]
                     returns := ["True"] })]

/-- The type that refers to the others. -/
def albumType : TypeBinding where
  name := "Album"
  fields := [⟨"photos", "photos", .array (.ref "Photo"), true, ""⟩,
    ⟨"cover", "cover", .union [.primitive .inputFile, .primitive .string], true, ""⟩,
    ⟨"parent", "parent", .ref "Album", false, ""⟩]
  variants := []
  description := []

/-- The types of its bindings. -/
def galleryTypes : Table TypeBinding :=
  .ofList [("Photo", ⟨"Photo", [⟨"id", "id", .primitive .string, true, ""⟩], [], []⟩), ("Album", albumType)]

/-- Its bindings. -/
def galleryBindings : Bindings where
  types := galleryTypes
  methods := (gallerySchema.methods.map Graph.methodOf).mapS
    (fun _ node known => Bindings.bindMethod (gallerySchema.types.map Graph.typeOf) node known) .empty
  version := none

/-- The formatter of a package whose texts are in order up to blank lines at their ends. It leaves no blank line at the
end of a text. -/
def endLayout : Formatter Empty := fun _ text =>
  .ok (if "\n\n".toList <:+ text.toList then String.ofList text.toList.dropLast else text)

theorem keeps_endLayout (lineLength : Int) (text : String) : endLayout.Keeps lineLength text := by
  intro made hmade
  rw [endLayout, Except.ok.injEq] at hmade
  subst hmade
  split
  · next h =>
    obtain ⟨before, hbefore⟩ := h
    have htext : text = String.ofList (before ++ ['\n']) ++ "\n" := by
      have hchars : (String.ofList (before ++ ['\n'])).toList = before ++ ['\n'] := String.toList_ofList
      rw [← String.toList_inj, ← hbefore, String.toList_append, hchars]
      exact (List.append_assoc before ['\n'] ['\n']).symm
    have hshort : text.toList.dropLast = before ++ ['\n'] := by
      rw [← hbefore]
      exact List.dropLast_append_cons
    rw [hshort, htext, code_append_of_isQuiet (by decide)]
  · rfl

theorem modules_bind_their_names_gallery :
    (Bindings.build gallerySchema).result = .ok galleryBindings ∧
      (∀ t ∈ galleryBindings.types.values, Unicode.isIdentifier t.name.toList = true ∧ t.name ∉ reservedNames) ∧
      (∀ text, endLayout.Keeps Settings.defaults.lineLength text) ∧
      albumType ∈ galleryBindings.types.values ∧
      (∃ text, endLayout Settings.defaults.lineLength (typeModule "botapi" albumType) = .ok text ∧
        "Photo" ∈ schemaNames "botapi" text ∧ "Album" ∉ schemaNames "botapi" text ∧
        "ABSENT" ∈ runtimeNames text ∧ "InputFile" ∈ runtimeNames text) ∧
      ∃ text,
        endLayout Settings.defaults.lineLength (methodsModule "botapi" galleryBindings.methods.values) = .ok text ∧
        "Album" ∈ schemaNames "botapi" text ∧ "Photo" ∉ schemaNames "botapi" text ∧
        ["def", "send_album", "self", ",", "*", ",", "album", ":", "Album", "-", ">", "APIResult", ":"] <:+:
          code text := by
  have htypes : (gallerySchema.types.map Graph.typeOf).mapM (fun _ node => Bindings.bindType node) =
      .ok galleryTypes := eq_ok_of_toOption (by decide +kernel)
  have hb : (Bindings.build gallerySchema).result = .ok galleryBindings :=
    Bindings.build_eq_ok (by decide +kernel) htypes
  have hnames : ∀ t ∈ galleryBindings.types.values,
      Unicode.isIdentifier t.name.toList = true ∧ t.name ∉ reservedNames := by decide +kernel
  have halbum : albumType ∈ galleryBindings.types.values := by decide +kernel
  have hheads : galleryBindings.methods.values.map (fun m => code (entryHead m)) =
      [["def", "send_album", "self", ",", "*", ",", "album", ":", "Album", "-", ">", "APIResult", ":"]] := by
    decide +kernel
  obtain ⟨htypes, hmethods⟩ := @modules_bind_their_names _ _ hb hnames Empty endLayout Settings.defaults
    (fun _ _ => keeps_endLayout _ _) (keeps_endLayout _ _)
  obtain ⟨hbinds, -, hmarks, hfile⟩ := htypes albumType halbum _ rfl
  obtain ⟨hmethodsBind, hinfix⟩ := hmethods _ rfl
  refine ⟨hb, hnames, keeps_endLayout _, halbum, ⟨_, rfl, ?_, ?_, ?_, ?_⟩, _, rfl, ?_, ?_, ?_⟩
  · exact (hbinds.imported _).2 (by decide +kernel)
  · exact fun hself => absurd ((hbinds.imported _).1 hself) (by decide +kernel)
  · exact (hmarks _ (by decide)).2 (by decide +kernel)
  · exact hfile.2 (by decide +kernel)
  · exact (hmethodsBind.imported _).2 (by decide +kernel)
  · exact fun hphoto => absurd ((hmethodsBind.imported _).1 hphoto) (by decide +kernel)
  · obtain ⟨m, hm, hhead⟩ := List.mem_map.1 (hheads ▸ List.mem_singleton_self _)
    rw [← hhead]
    exact hinfix m hm

end BotApi.Package
