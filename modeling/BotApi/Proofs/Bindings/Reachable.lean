import BotApi.Proofs.Bindings.Resolved
import Mathlib.Logic.Basic
import Mathlib.Logic.Relation

/-!
# What can be reached from an expression

From an expression one comes to its items and options, and from a named type to all that the type mentions: the
types of its fields, and its variants. The file tracker asks whether one comes to the file type in this way. It cuts
its search at names that are on the path already, and it remembers answers of earlier questions. Neither matters: a
way that comes back to a name can be taken from there at once, and only answers to whole questions are remembered.

## Main results

* `Reaches.congr` — what is reached depends only on what is below the names that are reached.
* `Carries.without` — a way that avoids some names can avoid one more, or starts again from it.
* `FileTracker.reaches_eq_true_iff` — the search finds a file exactly if one can be reached.
* `FileTracker.query_spec` — a question is answered rightly and leaves only right answers behind.
* `Bindings.method?_of_build`, `Bindings.hasAttachment_iff` — a method has attachments exactly if a parameter leads to
  the file type.
-/

namespace BotApi

/-! ## Reachability -/

/-- One step from an expression to a part of it, or from a named type to what is below it. -/
inductive Leads (below : String → List TypeExpr) : TypeExpr → TypeExpr → Prop
  | item (item : TypeExpr) : Leads below (.array item) item
  | option {options : List TypeExpr} {e : TypeExpr} (h : e ∈ options) : Leads below (.union options) e
  | named {name : String} {e : TypeExpr} (h : e ∈ below name) : Leads below (.ref name) e

/-- Whether one comes from an expression to another one. -/
def Reaches (below : String → List TypeExpr) : TypeExpr → TypeExpr → Prop := Relation.ReflTransGen (Leads below)

/-- Whether one comes from an expression to the file type. -/
def ReachesFile (below : String → List TypeExpr) (e : TypeExpr) : Prop := Reaches below e (.primitive .inputFile)

/-- What is reached depends only on what is below the names that are reached. -/
theorem Reaches.congr {below below' : String → List TypeExpr} {root e : TypeExpr}
    (h : ∀ name, Reaches below root (.ref name) → below' name = below name) :
    Reaches below' root e ↔ Reaches below root e := by
  constructor
  · intro hreach
    induction hreach with
    | refl => exact .refl
    | tail _ hstep ih =>
      cases hstep with
      | item => exact ih.tail (.item _)
      | option he => exact ih.tail (.option he)
      | named he =>
        rw [h _ ih] at he
        exact ih.tail (.named he)
  · intro hreach
    induction hreach with
    | refl => exact .refl
    | tail hway hstep ih =>
      cases hstep with
      | item => exact ih.tail (.item _)
      | option he => exact ih.tail (.option he)
      | named he =>
        rw [← h _ hway] at he
        exact ih.tail (.named he)

/-- What the documentation of a type mentions: the types of its fields, as they are written, and its subtypes. -/
def TypeSpec.mentions (spec : TypeSpec) : List TypeExpr :=
  (spec.fields.map fun f => .ofTexts f.types) ++ spec.subtypes.map .ref

/-- What a node mentions: the types of its fields and its variants. -/
def TypeNode.mentions (node : TypeNode) : List TypeExpr := node.fields.map (·.type) ++ node.variants.map .ref

/-- What the binding of a type mentions, which is what its node does. -/
def TypeBinding.mentions (type : TypeBinding) : List TypeExpr := type.fields.map (·.type) ++ type.variants.map .ref

/-- What is below a name: all that its type mentions. -/
def below {α : Type} (mentions : α → List TypeExpr) (types : Table α) (name : String) : List TypeExpr :=
  match types.find? name with
  | some type => mentions type
  | none => []

theorem mem_below_iff {α : Type} {mentions : α → List TypeExpr} {types : Table α} {name : String} {e : TypeExpr} :
    e ∈ below mentions types name ↔ ∃ type, types.find? name = some type ∧ e ∈ mentions type := by
  rw [below]
  cases types.find? name with
  | none => simp
  | some type => simp

theorem mem_mentions_iff {type : TypeBinding} {e : TypeExpr} :
    e ∈ type.mentions ↔ (∃ f ∈ type.fields, f.type = e) ∨ ∃ variant ∈ type.variants, .ref variant = e := by
  rw [TypeBinding.mentions, List.mem_append, List.mem_map, List.mem_map]

/-- A schema leads where its graph leads. -/
theorem below_map_typeOf (types : Table TypeSpec) :
    below TypeNode.mentions (types.map Graph.typeOf) = below TypeSpec.mentions types := by
  funext name
  rw [below, below, Table.find?_map]
  cases types.find? name with
  | none => rfl
  | some spec =>
    show (Graph.typeOf name spec).mentions = spec.mentions
    rw [TypeNode.mentions, TypeSpec.mentions, Graph.typeOf, List.map_map]
    rfl

namespace ReachesFile

variable {below : String → List TypeExpr}

theorem primitive_iff {p : Primitive} : ReachesFile below (.primitive p) ↔ p = .inputFile := by
  constructor
  · intro h
    rcases Relation.ReflTransGen.cases_head h with heq | ⟨e, hstep, -⟩
    · exact TypeExpr.primitive.inj heq
    · cases hstep
  · rintro rfl
    exact .refl

theorem array_iff {item : TypeExpr} : ReachesFile below (.array item) ↔ ReachesFile below item := by
  constructor
  · intro h
    rcases Relation.ReflTransGen.cases_head h with heq | ⟨e, hstep, h⟩
    · cases heq
    · cases hstep
      exact h
  · exact fun h => .head (.item item) h

theorem union_iff {options : List TypeExpr} :
    ReachesFile below (.union options) ↔ ∃ e ∈ options, ReachesFile below e := by
  constructor
  · intro h
    rcases Relation.ReflTransGen.cases_head h with heq | ⟨e, hstep, h⟩
    · cases heq
    · cases hstep with
      | option he => exact ⟨e, he, h⟩
  · exact fun ⟨e, he, h⟩ => .head (.option he) h

theorem ref_iff {name : String} :
    ReachesFile below (.ref name) ↔ ∃ e ∈ below name, ReachesFile below e := by
  constructor
  · intro h
    rcases Relation.ReflTransGen.cases_head h with heq | ⟨e, hstep, h⟩
    · cases heq
    · cases hstep with
      | named he => exact ⟨e, he, h⟩
  · exact fun ⟨e, he, h⟩ => .head (.named he) h

/-- A file that is reached from a field of a type is reached from the type. -/
theorem of_field {types : Table TypeBinding} {name : String} {type : TypeBinding}
    (htype : types.find? name = some type) {f : FieldBinding} (hf : f ∈ type.fields)
    (h : ReachesFile (BotApi.below TypeBinding.mentions types) f.type) :
    ReachesFile (BotApi.below TypeBinding.mentions types) (.ref name) :=
  ref_iff.2 ⟨f.type, mem_below_iff.2 ⟨type, htype, mem_mentions_iff.2 (.inl ⟨f, hf, rfl⟩)⟩, h⟩

/-- A file that is reached from a variant of a type is reached from the type. -/
theorem of_variant {types : Table TypeBinding} {name : String} {type : TypeBinding}
    (htype : types.find? name = some type) {e : TypeExpr} (he : e ∈ type.variants.map TypeExpr.ref)
    (h : ReachesFile (BotApi.below TypeBinding.mentions types) e) :
    ReachesFile (BotApi.below TypeBinding.mentions types) (.ref name) :=
  ref_iff.2 ⟨e, mem_below_iff.2 ⟨type, htype, List.mem_append_right _ he⟩, h⟩

end ReachesFile

/-! ## Ways that avoid names -/

/-- Whether one comes from an expression to the file type without following one of the names, nor any name twice. -/
inductive Carries (below : String → List TypeExpr) : List String → TypeExpr → Prop
  | file {path} : Carries below path (.primitive .inputFile)
  | item {path item} (h : Carries below path item) : Carries below path (.array item)
  | option {path options e} (he : e ∈ options) (h : Carries below path e) : Carries below path (.union options)
  | named {path name e} (hn : name ∉ path) (he : e ∈ below name) (h : Carries below (name :: path) e) :
    Carries below path (.ref name)

namespace Carries

variable {below : String → List TypeExpr} {path : List String} {e : TypeExpr}

/-- With fewer names to avoid the way is still there. -/
theorem mono (h : Carries below path e) {fewer : List String} (hsub : fewer ⊆ path) : Carries below fewer e := by
  induction h generalizing fewer with
  | file => exact .file
  | item _ ih => exact .item (ih hsub)
  | option he _ ih => exact .option he (ih hsub)
  | named hn he _ ih => exact .named (fun hm => hn (hsub hm)) he (ih (List.cons_subset_cons _ hsub))

theorem reachesFile (h : Carries below path e) : ReachesFile below e := by
  induction h with
  | file => exact ReachesFile.primitive_iff.2 rfl
  | item _ ih => exact ReachesFile.array_iff.2 ih
  | option he _ ih => exact ReachesFile.union_iff.2 ⟨_, he, ih⟩
  | named _ he _ ih => exact ReachesFile.ref_iff.2 ⟨_, he, ih⟩

/-- A way avoids a further name, or comes to it and then goes on without coming to it again. -/
theorem without (h : Carries below path e) (name : String) :
    Carries below (name :: path) e ∨ ∃ next ∈ below name, Carries below (name :: path) next := by
  induction h with
  | file => exact .inl .file
  | item _ ih => exact ih.imp_left .item
  | option he _ ih => exact ih.imp_left (.option he)
  | @named path other e hn he h ih =>
    by_cases heq : other = name
    · subst heq
      exact .inr ⟨e, he, h⟩
    · rcases ih with ih | ⟨next, hnext, ih⟩
      · left
        have hn' : other ∉ name :: path := by simp [heq, hn]
        exact .named hn' he (ih.mono (by simp))
      · exact .inr ⟨next, hnext, ih.mono (by simp)⟩

end Carries

/-- Where the file type can be reached, it can be reached without following a name twice. -/
theorem ReachesFile.carries {below : String → List TypeExpr} {e : TypeExpr} (h : ReachesFile below e) :
    Carries below [] e := by
  induction h using Relation.ReflTransGen.head_induction_on with
  | refl => exact .file
  | head hstep _ ih =>
    cases hstep with
    | item => exact .item ih
    | option he => exact .option he ih
    | @named name e he =>
      -- the rest of the way need not come back to the name
      rcases ih.without name with h | ⟨next, hnext, h⟩
      · exact .named List.not_mem_nil he h
      · exact .named List.not_mem_nil hnext h

/-! ## The tracker -/

namespace FileTracker

variable {types : Table TypeNode}

/-- Whether all remembered answers are right. -/
def IsRight (types : Table TypeNode) (known : Table Bool) : Prop :=
  ∀ name answer, known.find? name = some answer →
    (answer = true ↔ ReachesFile (below TypeNode.mentions types) (.ref name))

theorem isRight_empty (types : Table TypeNode) : IsRight types .empty := by
  intro name answer h
  cases h

/-- A search that finds a file is right, and one that does not has missed none that avoids its path. -/
theorem reaches_spec {known : Table Bool} (hknown : IsRight types known) (path : List String) (e : TypeExpr) :
    (reaches types known path e = true → ReachesFile (below TypeNode.mentions types) e) ∧
      (Carries (below TypeNode.mentions types) path e → reaches types known path e = true) := by
  refine reaches.induct_unfolding types known
    (fun path e answer => (answer = true → ReachesFile (below TypeNode.mentions types) e) ∧
      (Carries (below TypeNode.mentions types) path e → answer = true))
    (fun path es answer => (answer = true → ∃ e ∈ es, ReachesFile (below TypeNode.mentions types) e) ∧
      ((∃ e ∈ es, Carries (below TypeNode.mentions types) path e) → answer = true))
    ?primitive ?array ?union ?onPath ?known ?undefined ?named ?nil ?cons path e
  case primitive =>
    intro path p
    refine ⟨fun h => ReachesFile.primitive_iff.2 (of_decide_eq_true h), fun h => ?_⟩
    cases h
    rfl
  case array =>
    intro path item ih
    refine ⟨fun h => ReachesFile.array_iff.2 (ih.1 h), fun h => ?_⟩
    cases h with
    | item h => exact ih.2 h
  case union =>
    intro path options ih
    refine ⟨fun h => ReachesFile.union_iff.2 (ih.1 h), fun h => ?_⟩
    cases h with
    | option he h => exact ih.2 ⟨_, he, h⟩
  case onPath =>
    intro path name hpath
    refine ⟨fun h => (nomatch h), fun h => ?_⟩
    cases h with
    | named hn => exact absurd (List.contains_iff_mem.1 hpath) hn
  case known =>
    intro path name _ answer hanswer
    exact ⟨(hknown name answer hanswer).1, fun h => (hknown name answer hanswer).2 h.reachesFile⟩
  case undefined =>
    intro path name _ _ hnone
    refine ⟨fun h => (nomatch h), fun h => ?_⟩
    cases h with
    | named _ he =>
      obtain ⟨node, hnode, -⟩ := mem_below_iff.1 he
      rw [hnone] at hnode
      cases hnode
  case named =>
    intro path name hpath _ node hnode ih
    refine ⟨fun h => ?_, fun h => ?_⟩
    · obtain ⟨e, he, h⟩ := ih.1 h
      exact ReachesFile.ref_iff.2 ⟨e, mem_below_iff.2 ⟨node, hnode, he⟩, h⟩
    · cases h with
      | named _ he h =>
        obtain ⟨node', hnode', he⟩ := mem_below_iff.1 he
        cases hnode.symm.trans hnode'
        exact ih.2 ⟨_, he, h⟩
  case nil =>
    intro path
    refine ⟨fun h => (nomatch h), ?_⟩
    rintro ⟨e, he, -⟩
    cases he
  case cons =>
    intro path e rest hfirst hrest
    refine ⟨fun h => ?_, ?_⟩
    · rcases Bool.or_eq_true_iff.1 h with h | h
      · exact ⟨e, List.mem_cons_self .., hfirst.1 h⟩
      · obtain ⟨e', he', h⟩ := hrest.1 h
        exact ⟨e', List.mem_cons_of_mem _ he', h⟩
    · rintro ⟨e', he', h⟩
      rw [Bool.or_eq_true]
      rcases List.mem_cons.1 he' with rfl | he'
      · exact .inl (hfirst.2 h)
      · exact .inr (hrest.2 ⟨e', he', h⟩)

/-- The search finds a file exactly if one can be reached. -/
theorem reaches_eq_true_iff {known : Table Bool} (hknown : IsRight types known) (e : TypeExpr) :
    reaches types known [] e = true ↔ ReachesFile (below TypeNode.mentions types) e := by
  obtain ⟨hsound, hcomplete⟩ := reaches_spec hknown [] e
  exact ⟨hsound, fun h => hcomplete h.carries⟩

/-- A new answer that is right leaves all answers right. -/
theorem IsRight.insert {known : Table Bool} (hknown : IsRight types known) {name : String} {answer : Bool}
    (h : answer = true ↔ ReachesFile (below TypeNode.mentions types) (.ref name)) :
    IsRight types (known.insert name answer) := by
  intro other found hfound
  rw [Table.find?_insert] at hfound
  split at hfound
  · next heq =>
    subst heq
    cases hfound
    exact h
  · exact hknown other found hfound

/-- A question is answered rightly, and leaves only right answers behind. -/
theorem query_spec {known : Table Bool} (hknown : IsRight types known) (e : TypeExpr) :
    ((query types e known).1 = true ↔ ReachesFile (below TypeNode.mentions types) e) ∧
      IsRight types (query types e known).2 := by
  refine query.induct types
    (fun e known => IsRight types known →
      ((query types e known).1 = true ↔ ReachesFile (below TypeNode.mentions types) e) ∧
        IsRight types (query types e known).2)
    (fun es known => IsRight types known →
      ((queryAny types es known).1 = true ↔ ∃ e ∈ es, ReachesFile (below TypeNode.mentions types) e) ∧
        IsRight types (queryAny types es known).2)
    ?primitive ?array ?union ?known ?new ?nil ?found ?next e known hknown
  case primitive =>
    intro p known hknown
    rw [query, ReachesFile.primitive_iff]
    exact ⟨decide_eq_true_iff, hknown⟩
  case array =>
    intro item known ih hknown
    rw [query, ReachesFile.array_iff]
    exact ih hknown
  case union =>
    intro options known ih hknown
    rw [query, ReachesFile.union_iff]
    exact ih hknown
  case known =>
    intro name known answer hanswer hknown
    rw [query, hanswer]
    exact ⟨hknown name answer hanswer, hknown⟩
  case new =>
    intro name known hnone hknown
    rw [query, hnone]
    have h := reaches_eq_true_iff hknown (.ref name)
    exact ⟨h, hknown.insert h⟩
  case nil =>
    intro known hknown
    rw [queryAny]
    refine ⟨⟨fun h => (nomatch h), ?_⟩, hknown⟩
    rintro ⟨e, he, -⟩
    cases he
  case found =>
    intro e rest known after hquery ih hknown
    obtain ⟨hiff, hafter⟩ := ih hknown
    rw [hquery] at hiff hafter
    rw [queryAny, hquery]
    exact ⟨iff_of_true rfl ⟨e, List.mem_cons_self .., hiff.1 rfl⟩, hafter⟩
  case next =>
    intro e rest known after hquery hfirst hrest hknown
    obtain ⟨hiff, hafter⟩ := hfirst hknown
    rw [hquery] at hiff hafter
    obtain ⟨hiff', hafter'⟩ := hrest hafter
    rw [queryAny, hquery]
    refine ⟨hiff'.trans ?_, hafter'⟩
    -- the first expression leads to no file
    have hno : ¬ ReachesFile (below TypeNode.mentions types) e := fun h => Bool.false_ne_true (hiff.2 h)
    simp only [List.mem_cons, exists_eq_or_imp, hno, false_or]

theorem queryAny_spec {known : Table Bool} (hknown : IsRight types known) (es : List TypeExpr) :
    ((queryAny types es known).1 = true ↔ ∃ e ∈ es, ReachesFile (below TypeNode.mentions types) e) ∧
      IsRight types (queryAny types es known).2 := by
  obtain ⟨hiff, hright⟩ := query_spec hknown (.union es)
  rw [query] at hiff hright
  exact ⟨hiff.trans ReachesFile.union_iff, hright⟩

end FileTracker

/-! ## Bindings of a schema -/

namespace Bindings

variable {schema : Schema} {b : Bindings}

theorem mentions_of_bindType {node : TypeNode} {type : TypeBinding} (h : bindType node = .ok type) :
    type.mentions = node.mentions := by
  obtain ⟨hfields, hvariants, -⟩ := of_bindType h
  rw [TypeBinding.mentions, TypeNode.mentions, hfields, hvariants, List.map_map]
  rfl

/-- Each type of the schema is bound. -/
theorem find?_eq_none_of_build (h : (build schema).result = .ok b) {name : String}
    (hnone : b.types.find? name = none) : schema.types.find? name = none := by
  cases hspec : schema.types.find? name with
  | none => rfl
  | some spec =>
    have hname := Table.mem_names_of_find? hspec
    rw [← names_of_build h] at hname
    obtain ⟨type, htype⟩ := Table.exists_find?_of_mem_names hname
    rw [hnone] at htype
    cases htype

/-- Bindings lead where their schema leads. -/
theorem below_of_build (h : (build schema).result = .ok b) :
    below TypeBinding.mentions b.types = below TypeSpec.mentions schema.types := by
  rw [← below_map_typeOf]
  funext name
  rw [below, below, Table.find?_map]
  cases htype : b.types.find? name with
  | some type =>
    obtain ⟨spec, hspec, hbind, -⟩ := type_of_build h htype
    rw [hspec]
    exact mentions_of_bindType hbind
  | none =>
    rw [find?_eq_none_of_build h htype]
    rfl

/-- What a method is bound to, and that its flag tells whether a parameter leads to the file type. -/
theorem find?_methods_of_build (h : (build schema).result = .ok b) {name : String} {method : MethodBinding}
    (hm : b.methods.find? name = some method) :
    ∃ spec known, schema.methods.find? name = some spec ∧ FileTracker.IsRight (schema.types.map Graph.typeOf) known ∧
      method = (bindMethod (schema.types.map Graph.typeOf) (Graph.methodOf name spec) known).1 := by
  rw [(of_build h).2.2] at hm
  -- what is known about files stays right from method to method
  obtain ⟨node, known, hknown, hnode, hbind⟩ :=
    Table.exists_of_find?_mapS_of_inv (FileTracker.IsRight (schema.types.map Graph.typeOf))
      (fun _ node _ hknown => (FileTracker.queryAny_spec hknown (node.params.map (·.type))).2)
      (FileTracker.isRight_empty _) hm
  rw [Table.find?_map, Option.map_eq_some_iff] at hnode
  obtain ⟨spec, hspec, rfl⟩ := hnode
  exact ⟨spec, known, hspec, hknown, hbind.symm⟩

theorem hasAttachment_bindMethod {types : Table TypeNode} {node : MethodNode} {known : Table Bool}
    (hknown : FileTracker.IsRight types known) :
    (bindMethod types node known).1.hasAttachment = true ↔
      ∃ p ∈ node.params, ReachesFile (below TypeNode.mentions types) p.type := by
  refine (FileTracker.queryAny_spec hknown (node.params.map (·.type))).1.trans ?_
  simp only [List.mem_map, exists_exists_and_eq_and]

/-- A method with what is known about its files. -/
def withFlag (node : MethodNode) (flag : Bool) : MethodBinding :=
  { name := node.name, params := node.params.map .ofField, returns := node.returns, hasAttachment := flag
    snakeName := Text.snake node.name, description := node.description }

/-- A method of a schema is bound under its name, and its flag tells whether one of its parameters leads to the file
type. -/
theorem method?_of_build (h : (build schema).result = .ok b) {name : String} {spec : MethodSpec}
    (hspec : schema.methods.find? name = some spec) :
    ∃ flag, b.method? name = some (withFlag (Graph.methodOf name spec) flag) ∧
      (flag = true ↔ ∃ f ∈ spec.fields, ReachesFile (below TypeSpec.mentions schema.types) (.ofTexts f.types)) := by
  -- the method is there
  obtain ⟨method, hm⟩ : ∃ method, b.methods.find? name = some method := by
    refine Table.exists_find?_of_mem_names ?_
    rw [(of_build h).2.2]
    show name ∈ (Table.mapEntriesS _ _ _).map Prod.fst
    rw [Table.names_mapEntriesS]
    have hname := Table.mem_names_of_find? hspec
    rwa [← Table.names_map Graph.methodOf] at hname
  obtain ⟨spec', known, hspec', hknown, rfl⟩ := find?_methods_of_build h hm
  cases hspec.symm.trans hspec'
  have hflag : (bindMethod _ (Graph.methodOf name spec) known).1.hasAttachment = true ↔ _ :=
    hasAttachment_bindMethod hknown
  refine ⟨_, ?_, hflag.trans ?_⟩
  · rw [method?, hm]
    rfl
  · rw [below_map_typeOf, Graph.methodOf]
    simp only [List.mem_map, exists_exists_and_eq_and]
    rfl

/-- A method has attachments exactly if one of its parameters leads to the file type. -/
theorem hasAttachment_iff (h : (build schema).result = .ok b) {name : String} {method : MethodBinding}
    (hm : b.method? name = some method) :
    method.hasAttachment = true ↔
      ∃ p ∈ method.params, ReachesFile (below TypeBinding.mentions b.types) p.type := by
  obtain ⟨other, hother⟩ := exists_find?_of_method? hm
  obtain ⟨spec, known, -, hknown, rfl⟩ := find?_methods_of_build h hother
  rw [hasAttachment_bindMethod hknown, below_of_build h, ← below_map_typeOf]
  show _ ↔ ∃ p ∈ (Graph.methodOf other spec).params.map FieldBinding.ofField, _
  simp only [List.mem_map, exists_exists_and_eq_and]
  rfl

end Bindings

end BotApi
