import BotApi.Proofs.Bindings.Resolved
import Mathlib.Logic.Basic

/-!
# Resolving in one pass

A schema mentions names in its texts, and expects a text in certain places. Which of that is broken can be said
without reading a single expression: a name that no type has and that is no primitive, a subtype that no type is,
an empty list of alternatives. Resolving reports exactly these, each once and in the order in which they stand; and
once nothing is broken, each reference of the graph is to a type of the graph.

## Main results

* `TypeExpr.refs_ofTexts` — the references of an expression are the names in its texts that are no primitives.
* `Schema.problems_eq` — the problems of a schema are its broken mentions.
* `Schema.problems_repaired` — a type for each unknown name and a text for each empty list leave no problems.
* `Graph.isClosed_of_resolve` — the references of a resolved graph are to its own types.
-/

namespace BotApi

/-! ## The names in a text -/

namespace TypeExpr

open Unicode (trim)

/-- The name in a text without separators, within its arrays. -/
def atomName (cs : List Char) : String :=
  match _h : afterArray? (trim cs) with
  | some rest => atomName rest
  | none => String.ofList (trim cs)
termination_by cs.length
decreasing_by
  exact Nat.lt_of_lt_of_le (length_afterArray?_lt _h) (length_trim_le cs)

/-- The names in a text, primitives among them, in order. -/
def namesIn (text : String) : List String := (splitOr [] (trim text.toList)).map atomName

/-- Whether a name is that of a primitive. -/
def IsPrimitive (name : String) : Prop := (Primitive.ofName? name).isSome = true

instance (name : String) : Decidable (IsPrimitive name) := inferInstanceAs (Decidable (_ = true))

theorem refs_named (name : String) : (named name).refs = [name].filter fun n => ¬ IsPrimitive n := by
  unfold named
  cases h : Primitive.ofName? name with
  | some p => simp [refs, IsPrimitive, h]
  | none => simp [refs, IsPrimitive, h]

theorem atomName_of_some {cs rest : List Char} (h : afterArray? (trim cs) = some rest) :
    atomName cs = atomName rest := by
  rw [atomName]
  split
  · next heq =>
    cases h.symm.trans heq
    rfl
  · next heq => cases h.symm.trans heq

theorem atomName_of_none {cs : List Char} (h : afterArray? (trim cs) = none) :
    atomName cs = String.ofList (trim cs) := by
  rw [atomName]
  split
  · next heq => cases h.symm.trans heq
  · rfl

/-- Arrays add nothing to what an expression refers to. -/
theorem refs_ofAtom (cs : List Char) : (ofAtom cs).refs = [atomName cs].filter fun n => ¬ IsPrimitive n := by
  induction cs using ofAtom.induct with
  | case1 cs rest h ih =>
    rw [ofAtom_of_some h, atomName_of_some h, refs, ih]
  | case2 cs h =>
    rw [ofAtom_of_none h, atomName_of_none h, refs_named]

/-- An expression refers to the names in its texts, the primitives apart, in the same order. -/
theorem refs_ofTexts (texts : List String) :
    (ofTexts texts).refs = (texts.flatMap namesIn).filter fun n => ¬ IsPrimitive n := by
  have hatoms : ∀ parts : List (List Char),
      (parts.map ofAtom).flatMap refs = (parts.map atomName).filter fun n => ¬ IsPrimitive n := by
    intro parts
    induction parts with
    | nil => rfl
    | cons cs rest ih =>
      rw [List.map_cons, List.map_cons, List.flatMap_cons, ih, refs_ofAtom, ← List.filter_append,
        List.singleton_append]
  have htext : ∀ text, (readAlternatives text).flatMap refs = (namesIn text).filter fun n => ¬ IsPrimitive n :=
    fun text => hatoms _
  rw [ofTexts, refs_anyOf, List.flatMap_assoc, List.filter_flatMap]
  exact congrArg (texts.flatMap ·) (funext htext)

end TypeExpr

/-! ## What a schema mentions -/

/-- What stands at a place of a schema: a name in a text, a name that only a type can have, or nothing where there
should be a text. -/
inductive Occurrence
  | inText (place : Mention) (name : String)
  | ofType (place : Mention) (name : String)
  | nothing (place : Mention)
  deriving DecidableEq

/-- How an occurrence is reported if it is broken. -/
def Occurrence.report : Occurrence → Unresolved
  | .inText place name | .ofType place name => .unknown place name
  | .nothing place => .empty place

namespace Schema

/-- What alternatives mention. -/
def occurrencesOfTexts (place : Mention) (texts : List String) : List Occurrence :=
  if texts = [] then [.nothing place] else (texts.flatMap TypeExpr.namesIn).map (.inText place)

/-- What fields mention, one after another. -/
def occurrencesOfFields (owner : String) (fields : List FieldSpec) : List Occurrence :=
  fields.flatMap fun f => occurrencesOfTexts (.field owner f.name) f.types

/-- What a type mentions. -/
def occurrencesOfType (name : String) (spec : TypeSpec) : List Occurrence :=
  occurrencesOfFields name spec.fields ++ spec.subtypes.map (.ofType (.subtype name)) ++
    spec.subtypeOf.map (.ofType (.subtypeOf name))

/-- What a method mentions. -/
def occurrencesOfMethod (name : String) (spec : MethodSpec) : List Occurrence :=
  occurrencesOfFields name spec.fields ++ occurrencesOfTexts (.returns name) spec.returns

/-- All that a schema mentions, types first. -/
def occurrences (schema : Schema) : List Occurrence :=
  schema.types.entries.flatMap (fun e => occurrencesOfType e.1 e.2) ++
    schema.methods.entries.flatMap (fun e => occurrencesOfMethod e.1 e.2)

/-- Whether an occurrence has no meaning in a schema. In a text a primitive has one without being a type. -/
def IsBroken (schema : Schema) : Occurrence → Prop
  | .inText _ name => ¬ TypeExpr.IsPrimitive name ∧ name ∉ schema.types.names
  | .ofType _ name => name ∉ schema.types.names
  | .nothing _ => True

instance (schema : Schema) : DecidablePred schema.IsBroken
  | .inText _ _ => inferInstanceAs (Decidable (_ ∧ _))
  | .ofType _ _ => inferInstanceAs (Decidable (¬ _))
  | .nothing _ => inferInstanceAs (Decidable True)

/-- The broken ones among some occurrences, as they are reported. -/
def brokenAmong (schema : Schema) (occurrences : List Occurrence) : List Unresolved :=
  (occurrences.filter fun o => schema.IsBroken o).map Occurrence.report

/-! ## The problems of a schema -/

theorem contains_iff {schema : Schema} {name : String} :
    schema.types.contains name = true ↔ name ∈ schema.types.names := by
  refine ⟨Table.mem_names_of_contains, fun h => ?_⟩
  obtain ⟨spec, hspec⟩ := Table.exists_find?_of_mem_names h
  rw [Table.contains, hspec]
  rfl

theorem brokenAmong_append (schema : Schema) (left right : List Occurrence) :
    schema.brokenAmong (left ++ right) = schema.brokenAmong left ++ schema.brokenAmong right := by
  rw [brokenAmong, List.filter_append, List.map_append]
  rfl

theorem brokenAmong_flatMap {α : Type} (schema : Schema) (items : List α) (f : α → List Occurrence) :
    schema.brokenAmong (items.flatMap f) = items.flatMap fun a => schema.brokenAmong (f a) := by
  rw [brokenAmong, List.filter_flatMap, List.map_flatMap]
  rfl

theorem unknownNames_eq (schema : Schema) (place : Mention) (names : List String) :
    schema.unknownNames place names = schema.brokenAmong (names.map (.ofType place)) := by
  rw [unknownNames, brokenAmong, List.filter_map, List.map_map]
  congr 1
  refine List.filter_congr fun name _ => ?_
  rw [Function.comp_apply, Bool.eq_iff_iff, Bool.not_eq_true', decide_eq_true_iff, IsBroken, ← contains_iff,
    Bool.not_eq_true]

theorem problemsOfTexts_eq (schema : Schema) (place : Mention) (texts : List String) :
    schema.problemsOfTexts place texts = schema.brokenAmong (occurrencesOfTexts place texts) := by
  rw [problemsOfTexts, occurrencesOfTexts]
  by_cases h : texts = []
  · subst h
    rfl
  · rw [if_neg (by simpa using h), if_neg h, TypeExpr.refs_ofTexts, unknownNames_eq, brokenAmong, brokenAmong,
      List.filter_map, List.filter_map, List.map_map, List.map_map, List.filter_filter]
    -- both keep the names that are neither primitives nor types, and report them alike
    congr 1
    refine List.filter_congr fun name _ => ?_
    rw [Bool.eq_iff_iff]
    simp only [Function.comp_apply, Bool.and_eq_true, decide_eq_true_iff]
    exact And.comm

theorem problemsOfFields_eq (schema : Schema) (owner : String) (fields : List FieldSpec) :
    schema.problemsOfFields owner fields = schema.brokenAmong (occurrencesOfFields owner fields) := by
  rw [problemsOfFields, occurrencesOfFields, brokenAmong_flatMap]
  exact congrArg (fields.flatMap ·) (funext fun f => problemsOfTexts_eq schema _ f.types)

/-- The problems of a schema are its broken occurrences, each reported once, in the order in which they stand. -/
theorem problems_eq (schema : Schema) : schema.problems = schema.brokenAmong schema.occurrences := by
  have htype : ∀ e : String × TypeSpec,
      schema.problemsOfType e.1 e.2 = schema.brokenAmong (occurrencesOfType e.1 e.2) := by
    intro e
    rw [problemsOfType, occurrencesOfType, brokenAmong_append, brokenAmong_append, problemsOfFields_eq,
      unknownNames_eq, unknownNames_eq]
  have hmethod : ∀ e : String × MethodSpec,
      schema.problemsOfMethod e.1 e.2 = schema.brokenAmong (occurrencesOfMethod e.1 e.2) := by
    intro e
    rw [problemsOfMethod, occurrencesOfMethod, brokenAmong_append, problemsOfFields_eq, problemsOfTexts_eq]
  rw [problems, occurrences, brokenAmong_append, brokenAmong_flatMap, brokenAmong_flatMap, funext htype,
    funext hmethod]

theorem problems_eq_nil_iff {schema : Schema} :
    schema.problems = [] ↔ ∀ o ∈ schema.occurrences, ¬ schema.IsBroken o := by
  rw [problems_eq, brokenAmong, List.map_eq_nil_iff, List.filter_eq_nil_iff]
  simp only [decide_eq_true_iff]

theorem mem_occurrences_of_type {schema : Schema} {e : String × TypeSpec} (he : e ∈ schema.types.entries) :
    ∀ o ∈ occurrencesOfType e.1 e.2, o ∈ schema.occurrences :=
  fun _ ho => List.mem_append_left _ (List.mem_flatMap.2 ⟨e, he, ho⟩)

theorem mem_occurrences_of_method {schema : Schema} {e : String × MethodSpec} (he : e ∈ schema.methods.entries) :
    ∀ o ∈ occurrencesOfMethod e.1 e.2, o ∈ schema.occurrences :=
  fun _ ho => List.mem_append_right _ (List.mem_flatMap.2 ⟨e, he, ho⟩)

end Schema

/-! ## Repairing a schema -/

/-- A type of which nothing is said. -/
def TypeSpec.blank : TypeSpec := { href := "", description := [], fields := [], subtypes := [], subtypeOf := [] }

/-- The alternatives, or a text for the place if there are none. -/
def filledTexts (fill : Mention → String) (place : Mention) (texts : List String) : List String :=
  if texts = [] then [fill place] else texts

/-- Fields with a text in each empty list. -/
def filledFields (fill : Mention → String) (owner : String) (fields : List FieldSpec) : List FieldSpec :=
  fields.map fun f => { f with types := filledTexts fill (.field owner f.name) f.types }

/-- A type with a text in each empty list. -/
def TypeSpec.filled (fill : Mention → String) (name : String) (spec : TypeSpec) : TypeSpec :=
  { spec with fields := filledFields fill name spec.fields }

/-- A method with a text in each empty list. -/
def MethodSpec.filled (fill : Mention → String) (name : String) (spec : MethodSpec) : MethodSpec :=
  { spec with
    fields := filledFields fill name spec.fields
    returns := filledTexts fill (.returns name) spec.returns }

/-- The names that are reported as unknown. -/
def Unresolved.names (problems : List Unresolved) : List String :=
  problems.filterMap fun
    | .unknown _ name => some name
    | .empty _ => none

/-- A table with a blank type more for each name. -/
def withBlanks (names : List String) (types : Table TypeSpec) : Table TypeSpec :=
  names.foldl (fun t name => t.insert name .blank) types

/-- A schema with a blank type for each name that is reported as unknown, and a text in each empty list. -/
def Schema.repaired (schema : Schema) (fill : Mention → String) (problems : List Unresolved) : Schema :=
  { schema with
    types := withBlanks (Unresolved.names problems) (schema.types.map (TypeSpec.filled fill))
    methods := schema.methods.map (MethodSpec.filled fill) }

theorem mem_names_insert_blank {types : Table TypeSpec} {first name : String} (h : name = first ∨ name ∈ types.names) :
    name ∈ (types.insert first .blank).names := by
  by_cases heq : name = first
  · have hfind : (types.insert first .blank).find? name = some .blank := by rw [Table.find?_insert, if_pos heq]
    exact Table.mem_names_of_find? hfind
  · obtain ⟨spec, hspec⟩ := Table.exists_find?_of_mem_names (h.resolve_left heq)
    have hfind : (types.insert first .blank).find? name = some spec := by rw [Table.find?_insert, if_neg heq, hspec]
    exact Table.mem_names_of_find? hfind

theorem mem_names_withBlanks {names : List String} {types : Table TypeSpec} {name : String}
    (h : name ∈ types.names ∨ name ∈ names) : name ∈ (withBlanks names types).names := by
  induction names generalizing types with
  | nil => exact h.resolve_right List.not_mem_nil
  | cons first rest ih =>
    refine ih ?_
    rw [List.mem_cons] at h
    -- one insertion keeps the names, and adds its own
    rcases h with h | h | h
    · exact .inl (mem_names_insert_blank (.inr h))
    · exact .inl (mem_names_insert_blank (.inl h))
    · exact .inr h

theorem mem_withBlanks {names : List String} {types : Table TypeSpec} {e : String × TypeSpec}
    (h : e ∈ (withBlanks names types).entries) : e.2 = .blank ∨ e ∈ types.entries := by
  induction names generalizing types with
  | nil => exact .inr h
  | cons first rest ih =>
    rcases ih h with h | h
    · exact .inl h
    · rcases Entries.mem_put h with rfl | h
      · exact .inl rfl
      · exact .inr h

namespace Schema

section

variable {schema : Schema} {fill : Mention → String}

/-- What was mentioned has a meaning once each unknown name is a type, empty lists apart. -/
theorem not_isBroken_repaired {o : Occurrence} (ho : o ∈ schema.occurrences) (hsome : ∀ place, o ≠ .nothing place) :
    ¬ (schema.repaired fill schema.problems).IsBroken o := by
  have hnames : ∀ name, name ∈ schema.types.names ∨ name ∈ Unresolved.names schema.problems →
      name ∈ (schema.repaired fill schema.problems).types.names := by
    intro name h
    refine mem_names_withBlanks ?_
    rwa [Table.names_map]
  -- if it was broken its name is among the reported ones
  have hreported : schema.IsBroken o → o.report ∈ schema.problems := by
    intro hbroken
    rw [problems_eq]
    exact List.mem_map_of_mem (List.mem_filter.2 ⟨ho, decide_eq_true hbroken⟩)
  cases o with
  | nothing place => exact absurd rfl (hsome place)
  | inText place name =>
    rintro ⟨hprimitive, hno⟩
    refine hno (hnames name ?_)
    by_cases hname : name ∈ schema.types.names
    · exact .inl hname
    · exact .inr (List.mem_filterMap.2 ⟨_, hreported ⟨hprimitive, hname⟩, rfl⟩)
  | ofType place name =>
    intro hno
    refine hno (hnames name ?_)
    by_cases hname : name ∈ schema.types.names
    · exact .inl hname
    · exact .inr (List.mem_filterMap.2 ⟨_, hreported hname, rfl⟩)

/-- Whether the text for each empty list mentions nothing but primitives and the types that are there in the end. -/
def Fills (schema : Schema) (fill : Mention → String) : Prop :=
  ∀ place, .empty place ∈ schema.problems → ∀ name ∈ TypeExpr.namesIn (fill place),
    TypeExpr.IsPrimitive name ∨ name ∈ (schema.repaired fill schema.problems).types.names

theorem not_isBroken_filledTexts (hfill : schema.Fills fill) {place : Mention} {texts : List String}
    (hin : ∀ o ∈ occurrencesOfTexts place texts, o ∈ schema.occurrences) :
    ∀ o ∈ occurrencesOfTexts place (filledTexts fill place texts),
      ¬ (schema.repaired fill schema.problems).IsBroken o := by
  intro o ho
  unfold filledTexts at ho
  by_cases h : texts = []
  · -- the empty list was reported, and the text in it is chosen well
    subst h
    have hempty : .empty place ∈ schema.problems := by
      rw [problems_eq]
      refine List.mem_map.2 ⟨.nothing place, List.mem_filter.2 ⟨hin _ ?_, rfl⟩, rfl⟩
      exact List.mem_singleton_self _
    rw [if_pos rfl, occurrencesOfTexts, if_neg (List.cons_ne_nil _ _), List.flatMap_singleton] at ho
    obtain ⟨name, hname, rfl⟩ := List.mem_map.1 ho
    rintro ⟨hprimitive, hno⟩
    exact (hfill place hempty name hname).elim hprimitive hno
  · rw [if_neg h] at ho
    refine not_isBroken_repaired (hin o ho) ?_
    rintro other rfl
    rw [occurrencesOfTexts, if_neg h] at ho
    obtain ⟨name, -, hname⟩ := List.mem_map.1 ho
    cases hname

theorem not_isBroken_filledFields (hfill : schema.Fills fill) {owner : String} {fields : List FieldSpec}
    (hin : ∀ o ∈ occurrencesOfFields owner fields, o ∈ schema.occurrences) :
    ∀ o ∈ occurrencesOfFields owner (filledFields fill owner fields),
      ¬ (schema.repaired fill schema.problems).IsBroken o := by
  intro o ho
  obtain ⟨f', hf', ho⟩ := List.mem_flatMap.1 ho
  obtain ⟨f, hf, rfl⟩ := List.mem_map.1 hf'
  exact not_isBroken_filledTexts hfill (fun o ho => hin o (List.mem_flatMap.2 ⟨f, hf, ho⟩)) o ho

/-- A type for each unknown name and a text for each empty list leave no problems. -/
theorem problems_repaired (hfill : schema.Fills fill) : (schema.repaired fill schema.problems).problems = [] := by
  rw [problems_eq_nil_iff]
  intro o ho
  rcases List.mem_append.1 ho with ho | ho
  · obtain ⟨e, he, ho⟩ := List.mem_flatMap.1 ho
    rcases mem_withBlanks he with hblank | he
    · -- a new type mentions nothing
      rw [hblank] at ho
      cases ho
    · obtain ⟨⟨name, spec⟩, hspec, rfl⟩ := List.mem_map.1 he
      have hin := mem_occurrences_of_type hspec
      unfold occurrencesOfType at ho hin
      rcases List.mem_append.1 ho with ho | ho
      · rcases List.mem_append.1 ho with ho | ho
        · refine not_isBroken_filledFields hfill (fun o ho => hin o ?_) o ho
          exact List.mem_append_left _ (List.mem_append_left _ ho)
        · refine not_isBroken_repaired (hin o (List.mem_append_left _ (List.mem_append_right _ ho))) ?_
          rintro place rfl
          obtain ⟨_, -, h⟩ := List.mem_map.1 ho
          cases h
      · refine not_isBroken_repaired (hin o (List.mem_append_right _ ho)) ?_
        rintro place rfl
        obtain ⟨_, -, h⟩ := List.mem_map.1 ho
        cases h
  · obtain ⟨e, he, ho⟩ := List.mem_flatMap.1 ho
    obtain ⟨⟨name, spec⟩, hspec, rfl⟩ := List.mem_map.1 he
    have hin := mem_occurrences_of_method hspec
    unfold occurrencesOfMethod at ho hin
    rcases List.mem_append.1 ho with ho | ho
    · exact not_isBroken_filledFields hfill (fun o ho => hin o (List.mem_append_left _ ho)) o ho
    · exact not_isBroken_filledTexts hfill (fun o ho => hin o (List.mem_append_right _ ho)) o ho

end

end Schema

/-! ## Resolved graphs -/

namespace Graph

/-- Whether a graph has a type of its own under a name. -/
def Has (g : Graph) (name : String) : Prop := ∃ node, g.types.find? name = some node ∧ node.name = name

/-- Whether all references of a graph are to its own types. -/
structure IsClosed (g : Graph) : Prop where
  fields : ∀ name node, g.types.find? name = some node → ∀ f ∈ node.fields, ∀ other ∈ f.type.refs, g.Has other
  variants : ∀ name node, g.types.find? name = some node → ∀ variant ∈ node.variants, g.Has variant
  params : ∀ name node, g.methods.find? name = some node → ∀ p ∈ node.params, ∀ other ∈ p.type.refs, g.Has other
  returns : ∀ name node, g.methods.find? name = some node → ∀ other ∈ node.returns.refs, g.Has other

variable {schema : Schema} {g : Graph}

theorem resolve_eq_error_iff {problems : List Unresolved} :
    resolve schema = .error problems ↔ problems = schema.problems ∧ problems ≠ [] := by
  rw [resolve_eq]
  cases h : schema.problems with
  | nil => simp
  | cons problem more =>
    simp only [Except.error.injEq]
    constructor
    · rintro rfl
      exact ⟨rfl, List.cons_ne_nil _ _⟩
    · exact fun h => h.1.symm

theorem resolve_eq_ok_iff :
    resolve schema = .ok g ↔ schema.problems = [] ∧
      g = { types := schema.types.map typeOf, methods := schema.methods.map methodOf
            version := schema.version } := by
  rw [resolve_eq]
  cases h : schema.problems with
  | nil => simp [eq_comm]
  | cons problem more => simp

theorem has_of_mem_names {name : String} (h : name ∈ schema.types.names) (hg : g.types = schema.types.map typeOf) :
    g.Has name := by
  obtain ⟨spec, hspec⟩ := Table.exists_find?_of_mem_names h
  refine ⟨typeOf name spec, ?_, rfl⟩
  rw [hg, Table.find?_map, hspec]
  rfl

/-- A type of a resolved graph is one of the schema that has no problems. -/
theorem type_of_resolve (h : resolve schema = .ok g) {name : String} {node : TypeNode}
    (hnode : g.types.find? name = some node) :
    ∃ spec, node = typeOf name spec ∧ schema.problemsOfType name spec = [] := by
  obtain ⟨hproblems, rfl⟩ := resolve_eq_ok_iff.1 h
  rw [Table.find?_map, Option.map_eq_some_iff] at hnode
  obtain ⟨spec, hspec, rfl⟩ := hnode
  exact ⟨spec, rfl, Schema.problemsOfType_eq_nil hproblems hspec⟩

/-- A method of a resolved graph is one of the schema that has no problems. -/
theorem method_of_resolve (h : resolve schema = .ok g) {name : String} {node : MethodNode}
    (hnode : g.methods.find? name = some node) :
    ∃ spec, node = methodOf name spec ∧ schema.problemsOfMethod name spec = [] := by
  obtain ⟨hproblems, rfl⟩ := resolve_eq_ok_iff.1 h
  rw [Table.find?_map, Option.map_eq_some_iff] at hnode
  obtain ⟨spec, hspec, rfl⟩ := hnode
  exact ⟨spec, rfl, Schema.problemsOfMethod_eq_nil hproblems hspec⟩

/-- The references of a resolved graph are to its own types. -/
theorem isClosed_of_resolve (h : resolve schema = .ok g) : g.IsClosed := by
  have htypes : g.types = schema.types.map typeOf := by rw [(resolve_eq_ok_iff.1 h).2]
  constructor
  · intro name node hnode f hf other hother
    obtain ⟨spec, rfl, hnil⟩ := type_of_resolve h hnode
    obtain ⟨fspec, hfspec, rfl⟩ := List.mem_map.1 hf
    rw [Schema.problemsOfType, List.append_eq_nil_iff, List.append_eq_nil_iff] at hnil
    exact has_of_mem_names (Schema.refs_of_problemsOfFields hnil.1.1 hfspec other hother) htypes
  · intro name node hnode variant hv
    obtain ⟨spec, rfl, hnil⟩ := type_of_resolve h hnode
    rw [Schema.problemsOfType, List.append_eq_nil_iff, List.append_eq_nil_iff] at hnil
    exact has_of_mem_names (Schema.contains_of_unknownNames hnil.1.2 hv) htypes
  · intro name node hnode p hp other hother
    obtain ⟨spec, rfl, hnil⟩ := method_of_resolve h hnode
    obtain ⟨fspec, hfspec, rfl⟩ := List.mem_map.1 hp
    rw [Schema.problemsOfMethod, List.append_eq_nil_iff] at hnil
    exact has_of_mem_names (Schema.refs_of_problemsOfFields hnil.1 hfspec other hother) htypes
  · intro name node hnode other hother
    obtain ⟨spec, rfl, hnil⟩ := method_of_resolve h hnode
    rw [Schema.problemsOfMethod, List.append_eq_nil_iff] at hnil
    exact has_of_mem_names (Schema.refs_of_problemsOfTexts hnil.2 other hother) htypes

end Graph

/-! ## Linked graphs -/

namespace LinkedGraph

/-- Whether a reference holds the node that lies in the graph under its name. -/
def Owns (g : LinkedGraph) (r : NodeRef) : Prop :=
  ∃ h node, r.node = some h ∧ g.types.find? r.name = some h ∧ g.heap[h]? = some node ∧ node.name = r.name

/-- Whether all references of a graph hold nodes of its own. -/
structure IsClosed (g : LinkedGraph) : Prop where
  fields : ∀ node ∈ g.heap, ∀ f ∈ node.fields, ∀ r ∈ f.type.refs, g.Owns r
  variants : ∀ node ∈ g.heap, ∀ r ∈ node.variants, g.Owns r
  params : ∀ m ∈ g.methods.values, ∀ p ∈ m.params, ∀ r ∈ p.type.refs, g.Owns r
  returns : ∀ m ∈ g.methods.values, ∀ r ∈ m.returns.refs, g.Owns r

variable {schema : Schema}

theorem find?_types_iff {name : String} {h : Handle} :
    schema.linkedGraph.types.find? name = some h ↔ (schema.linkedGraph.heap[h]?).map (·.name) = some name := by
  have hnames : (schema.linkedGraph.heap[h]?).map (·.name) = schema.types.names[h]? := by
    rw [Schema.linkedGraph, List.getElem?_map, Option.map_map, Table.names, List.getElem?_map]
    rfl
  rw [hnames]
  exact Schema.find?_handles_eq_some_iff

theorem owns_linkedRef {name : String} (h : name ∈ schema.types.names) :
    schema.linkedGraph.Owns (schema.linkedRef name) := by
  rw [← Schema.names_handles] at h
  obtain ⟨node, hnode⟩ := Table.exists_find?_of_mem_names h
  obtain ⟨found, hfound, hname⟩ := Option.map_eq_some_iff.1 (find?_types_iff.1 hnode)
  exact ⟨node, found, hnode, hnode, hfound, hname⟩

theorem owns_of_mem_linkedExpr {place : Mention} {texts : List String} (h : schema.problemsOfTexts place texts = []) :
    ∀ r ∈ (schema.linkedExpr texts).refs, schema.linkedGraph.Owns r := by
  intro r hr
  unfold Schema.linkedExpr at hr
  split at hr
  · cases hr
  · rw [TypeExpr.refs_link] at hr
    obtain ⟨name, hname, rfl⟩ := List.mem_map.1 hr
    exact owns_linkedRef (Schema.refs_of_problemsOfTexts h name hname)

theorem owns_of_mem_linkedFields {owner : String} {fields : List FieldSpec}
    (h : schema.problemsOfFields owner fields = []) :
    ∀ f ∈ fields.map schema.linkedField, ∀ r ∈ f.type.refs, schema.linkedGraph.Owns r := by
  intro f hf
  obtain ⟨spec, hspec, rfl⟩ := List.mem_map.1 hf
  rw [Schema.problemsOfFields, List.flatMap_eq_nil_iff] at h
  exact owns_of_mem_linkedExpr (h spec hspec)

/-- The references of a linked graph hold its own nodes. -/
theorem isClosed_linkedGraph (h : schema.problems = []) : schema.linkedGraph.IsClosed := by
  have htype : ∀ node ∈ schema.linkedGraph.heap, ∃ name spec, node = schema.linkedNode name spec ∧
      schema.problemsOfFields name spec.fields = [] ∧ schema.unknownNames (.subtype name) spec.subtypes = [] := by
    intro node hnode
    obtain ⟨e, he, rfl⟩ := List.mem_map.1 hnode
    have hnil := Schema.problemsOfType_of_mem h he
    rw [Schema.problemsOfType, List.append_eq_nil_iff, List.append_eq_nil_iff] at hnil
    exact ⟨e.1, e.2, rfl, hnil.1⟩
  have hmethod : ∀ m ∈ schema.linkedGraph.methods.values, ∃ name spec, m = schema.linkedMethod name spec ∧
      schema.problemsOfFields name spec.fields = [] ∧ schema.problemsOfTexts (.returns name) spec.returns = [] := by
    intro m hm
    obtain ⟨entry, hentry, rfl⟩ := List.mem_map.1 hm
    obtain ⟨e, he, rfl⟩ := List.mem_map.1 hentry
    have hnil := Schema.problemsOfMethod_of_mem h he
    rw [Schema.problemsOfMethod, List.append_eq_nil_iff] at hnil
    exact ⟨e.1, e.2, rfl, hnil⟩
  constructor
  · intro node hnode
    obtain ⟨name, spec, rfl, hfields, -⟩ := htype node hnode
    exact owns_of_mem_linkedFields hfields
  · intro node hnode r hr
    obtain ⟨name, spec, rfl, -, hsubtypes⟩ := htype node hnode
    obtain ⟨variant, hvariant, rfl⟩ := List.mem_map.1 hr
    exact owns_linkedRef (Schema.contains_of_unknownNames hsubtypes hvariant)
  · intro m hm
    obtain ⟨name, spec, rfl, hfields, -⟩ := hmethod m hm
    exact owns_of_mem_linkedFields hfields
  · intro m hm
    obtain ⟨name, spec, rfl, -, hreturns⟩ := hmethod m hm
    exact owns_of_mem_linkedExpr hreturns

theorem resolve_eq_error_iff {problems : List Unresolved} :
    resolve schema = .error problems ↔ problems = schema.problems ∧ problems ≠ [] := by
  rw [resolve_eq]
  split
  · next h => simp [h]
  · next h =>
    rw [Except.error.injEq]
    constructor
    · rintro rfl
      exact ⟨rfl, h⟩
    · exact fun heq => heq.1.symm

theorem resolve_eq_ok_iff {g : LinkedGraph} :
    resolve schema = .ok g ↔ schema.problems = [] ∧ g = schema.linkedGraph := by
  rw [resolve_eq]
  split
  · next h => simp [h, eq_comm]
  · next h => simp [h]

/-- Resolving fails exactly if something that the schema mentions is broken, and then reports all that is, each once
and in order; a blank type for each unknown name and a text for each empty list are enough for it to succeed. A
resolved graph has the types and methods of the schema in their order, and refers to types of its own only. -/
theorem resolve_reports_all_or_closes (schema : Schema) :
    (∀ problems, resolve schema = .error problems ↔
      problems = schema.brokenAmong schema.occurrences ∧ problems ≠ []) ∧
    ((∃ problems, resolve schema = .error problems) ↔ ∃ o ∈ schema.occurrences, schema.IsBroken o) ∧
    (∀ fill problems, resolve schema = .error problems →
      (∀ place, .empty place ∈ problems → ∀ name ∈ TypeExpr.namesIn (fill place),
        TypeExpr.IsPrimitive name ∨ name ∈ (schema.repaired fill problems).types.names) →
      ∃ g, resolve (schema.repaired fill problems) = .ok g) ∧
    (∀ g, resolve schema = .ok g →
      g.types.names = schema.types.names ∧
      g.heap.map LinkedNode.forget = (schema.types.map Graph.typeOf).values ∧
      (∀ name h, g.types.find? name = some h ↔ (g.heap[h]?).map (·.name) = some name) ∧
      g.methods.map (fun _ m => m.forget) = schema.methods.map Graph.methodOf ∧
      g.IsClosed ∧ Graph.resolve schema = .ok g.forget ∧ g.forget.IsClosed) := by
  refine ⟨?_, ?_, ?_, ?_⟩
  · intro problems
    rw [resolve_eq_error_iff, Schema.problems_eq]
  · -- there are problems exactly if something is broken
    have hiff : (∃ problems, resolve schema = .error problems) ↔ schema.problems ≠ [] := by
      simp only [resolve_eq_error_iff]
      exact ⟨fun ⟨_, h, hne⟩ => h ▸ hne, fun h => ⟨_, rfl, h⟩⟩
    rw [hiff, Ne, Schema.problems_eq_nil_iff]
    simp only [not_forall, not_not, exists_prop]
  · intro fill problems h hfill
    obtain ⟨rfl, -⟩ := resolve_eq_error_iff.1 h
    exact ⟨_, resolve_eq_ok_iff.2 ⟨Schema.problems_repaired hfill, rfl⟩⟩
  · intro g h
    have hgraph : Graph.resolve schema = .ok g.forget := by
      rw [Graph.resolve, h]
      rfl
    obtain ⟨hproblems, rfl⟩ := resolve_eq_ok_iff.1 h
    exact ⟨Schema.names_handles, Schema.map_forget_heap hproblems, fun _ _ => find?_types_iff,
      Schema.map_forget_methods hproblems, isClosed_linkedGraph hproblems, hgraph, Graph.isClosed_of_resolve hgraph⟩

/-- A schema of two types that refer to each other, with a broken mention of each kind. -/
def brokenSchema : Schema where
  version := none
  releaseDate := none
  changelog := none
  types := .ofList
    [("Tree",
        { href := "", description := [], subtypes := ["String", "Leaf"], subtypeOf := ["Plant"]
          fields :=
            [{ name := "left", types := ["Array of Leaf or Branch", "Tree"], required := true, description := "" },
             { name := "right", types := [], required := true, description := "" }] }),
     ("Leaf",
        { href := "", description := [], subtypes := [], subtypeOf := []
          fields := [{ name := "tree", types := ["Tree", "String"], required := true, description := "" }] })]
  methods := .ofList
    [("plant",
        { href := "", description := [], returns := []
          fields := [{ name := "tree", types := ["Branch"], required := true, description := "" }] })]

/-- Its problems. -/
def brokenProblems : List Unresolved :=
  [.unknown (.field "Tree" "left") "Branch", .empty (.field "Tree" "right"), .unknown (.subtype "Tree") "String",
   .unknown (.subtypeOf "Tree") "Plant", .unknown (.field "plant" "tree") "Branch", .empty (.returns "plant")]

theorem resolve_reports_all_or_closes_brokenSchema :
    resolve brokenSchema = .error brokenProblems ∧
      (∀ place, .empty place ∈ brokenProblems → ∀ name ∈ TypeExpr.namesIn "Array of Plant",
        TypeExpr.IsPrimitive name ∨
          name ∈ (brokenSchema.repaired (fun _ => "Array of Plant") brokenProblems).types.names) ∧
      ∃ g, resolve (brokenSchema.repaired (fun _ => "Array of Plant") brokenProblems) = .ok g ∧
        g.types.names = ["Tree", "Leaf", "Branch", "String", "Plant"] ∧ g.IsClosed := by
  have hbroken : brokenProblems = brokenSchema.brokenAmong brokenSchema.occurrences ∧ brokenProblems ≠ [] := by
    decide +kernel
  have herror := ((resolve_reports_all_or_closes brokenSchema).1 brokenProblems).2 hbroken
  have hfill : ∀ name ∈ TypeExpr.namesIn "Array of Plant", TypeExpr.IsPrimitive name ∨
      name ∈ (brokenSchema.repaired (fun _ => "Array of Plant") brokenProblems).types.names := by
    decide +kernel
  obtain ⟨g, hg⟩ := (resolve_reports_all_or_closes brokenSchema).2.2.1 _ _ herror fun _ _ => hfill
  obtain ⟨hnames, -, -, -, hclosed, -⟩ := (resolve_reports_all_or_closes _).2.2.2 g hg
  refine ⟨herror, fun _ _ => hfill, g, hg, ?_, hclosed⟩
  rw [hnames]
  decide +kernel

end LinkedGraph

end BotApi
