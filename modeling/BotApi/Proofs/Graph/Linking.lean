import BotApi.Proofs.TypeExpr.Parts
import BotApi.Resolver

/-!
# What the two passes make

While texts are read the nodes stay where they are, so that each step only gives a result and notes problems. The
result is the expression of the text, in which each reference holds the node of its name, and the problems are those
of the schema. Filling changes one node after another; the node of a name is the one that was made for it. So in the
end each node is that of its type, and nothing is lost if the nodes are left out and only names are kept.

## Main results

* `Resolver.reports_parse`, `Resolver.reports_resolveTexts` — what is read from texts, and what is noted meanwhile.
* `Resolver.run_fill`, `Resolver.run_resolve` — what filling does to the heap, and what is there in the end.
* `LinkedGraph.resolve_eq`, `Graph.resolve_eq` — linked and unlinked, the graph is read off the schema.
-/

namespace BotApi

open TypeExpr (splitOr afterArray? readAlternatives)
open Unicode (trim)

/-! ## References in expressions -/

namespace TypeExpr

mutual

/-- The expression with the node that each name leads to. -/
def link (nodeOf : String → Option Handle) : TypeExpr → LinkedExpr
  | .primitive p => .primitive p
  | .ref name => .ref ⟨name, nodeOf name⟩
  | .array item => .array (link nodeOf item)
  | .union options => .union (linkOptions nodeOf options)

/-- The options with the nodes that their names lead to. -/
def linkOptions (nodeOf : String → Option Handle) : List TypeExpr → List LinkedExpr
  | [] => []
  | e :: rest => link nodeOf e :: linkOptions nodeOf rest

end

variable (nodeOf : String → Option Handle)

theorem linkOptions_eq (options : List TypeExpr) : linkOptions nodeOf options = options.map (link nodeOf) := by
  induction options with
  | nil => rfl
  | cons e rest ih => rw [linkOptions, List.map_cons, ih]

mutual

theorem forget_link : ∀ e : TypeExpr, (link nodeOf e).forget = e
  | .primitive _ => rfl
  | .ref _ => rfl
  | .array item => by rw [link, LinkedExpr.forget, forget_link item]
  | .union options => by rw [link, LinkedExpr.forget, forgetOptions_linkOptions options]

theorem forgetOptions_linkOptions : ∀ options : List TypeExpr,
    LinkedExpr.forgetOptions (linkOptions nodeOf options) = options
  | [] => rfl
  | e :: rest => by rw [linkOptions, LinkedExpr.forgetOptions, forget_link e, forgetOptions_linkOptions rest]

end

mutual

theorem refs_link : ∀ e : TypeExpr, (link nodeOf e).refs = e.refs.map fun name => ⟨name, nodeOf name⟩
  | .primitive _ => rfl
  | .ref _ => rfl
  | .array item => by rw [link, LinkedExpr.refs, refs_link item, refs]
  | .union options => by rw [link, LinkedExpr.refs, optionRefs_linkOptions options, refs]

theorem optionRefs_linkOptions : ∀ options : List TypeExpr,
    LinkedExpr.optionRefs (linkOptions nodeOf options) = (optionRefs options).map fun name => ⟨name, nodeOf name⟩
  | [] => rfl
  | e :: rest => by
    rw [linkOptions, LinkedExpr.optionRefs, refs_link e, optionRefs_linkOptions rest, optionRefs, List.map_append]

end

theorem alternatives_link (e : TypeExpr) : (link nodeOf e).alternatives = e.alternatives.map (link nodeOf) := by
  cases e with
  | union options => exact linkOptions_eq nodeOf options
  | _ => rfl

/-- Spreading out linked expressions is linking what was spread out. -/
theorem flatten_map_link (options : List TypeExpr) :
    LinkedExpr.flatten (options.map (link nodeOf)) = link nodeOf (anyOf (options.flatMap alternatives)) := by
  have hflat : (options.map (link nodeOf)).flatMap LinkedExpr.alternatives =
      (options.flatMap alternatives).map (link nodeOf) := by
    rw [List.flatMap_map, List.map_flatMap]
    exact congrArg (options.flatMap ·) (funext (alternatives_link nodeOf))
  rw [LinkedExpr.flatten, hflat]
  match options.flatMap alternatives with
  | [] => rfl
  | [e] => rfl
  | first :: second :: rest =>
    rw [anyOf, link, linkOptions_eq]
    · rfl
    · exact fun e h => absurd (congrArg List.length h) (by simp)

theorem optionRefs_eq (options : List TypeExpr) : optionRefs options = options.flatMap refs := by
  induction options with
  | nil => rfl
  | cons e rest ih => rw [optionRefs, List.flatMap_cons, ih]

theorem refs_anyOf (options : List TypeExpr) : (anyOf options).refs = options.flatMap refs := by
  unfold anyOf
  split
  · rw [List.flatMap_singleton]
  · rw [refs, optionRefs_eq]

/-- What is read from each of several texts is spread out to what is read from them together. -/
theorem flatMap_alternatives_anyOf (texts : List String) :
    (texts.map fun text => anyOf (readAlternatives text)).flatMap alternatives = texts.flatMap readAlternatives := by
  rw [List.flatMap_map]
  refine congrArg (texts.flatMap ·) (funext fun text => ?_)
  exact alternatives_anyOf fun _ => isAtomic_of_mem_readAlternatives

end TypeExpr

/-! ## What belongs to a schema -/

namespace Schema

variable (schema : Schema)

/-- Where the node of each type is made: in the order of the types. -/
def handles : Table Handle :=
  ⟨schema.types.names.zipIdx, by
    rw [List.zipIdx_map_fst]
    exact schema.types.nodup⟩

/-- The expression of texts, linked to the nodes of the schema. -/
def linkedExpr (texts : List String) : LinkedExpr :=
  if texts = [] then .primitive .string else (TypeExpr.ofTexts texts).link schema.handles.find?

/-- The field of a specification. -/
def linkedField (spec : FieldSpec) : LinkedField :=
  { name := spec.name, type := schema.linkedExpr spec.types, required := spec.required
    description := spec.description }

/-- The reference to a name. -/
def linkedRef (name : String) : NodeRef := ⟨name, schema.handles.find? name⟩

/-- The type of a specification. -/
def linkedNode (name : String) (spec : TypeSpec) : LinkedNode :=
  { name, description := spec.description, href := spec.href, fields := spec.fields.map schema.linkedField
    variants := spec.subtypes.map schema.linkedRef }

/-- The method of a specification. -/
def linkedMethod (name : String) (spec : MethodSpec) : LinkedMethod :=
  { name, params := spec.fields.map schema.linkedField, returns := schema.linkedExpr spec.returns
    description := spec.description, href := spec.href }

/-- The linked graph of the schema. -/
def linkedGraph : LinkedGraph :=
  { heap := schema.types.entries.map fun e => schema.linkedNode e.1 e.2
    types := schema.handles
    methods := schema.methods.map schema.linkedMethod
    version := schema.version }

variable {schema}

theorem find?_handles_eq_some_iff {name : String} {h : Handle} :
    schema.handles.find? name = some h ↔ schema.types.names[h]? = some name :=
  (Entries.lookup_eq_some_iff_mem schema.handles.nodup).trans List.mem_zipIdx_iff_getElem?

theorem names_handles : schema.handles.names = schema.types.names := List.zipIdx_map_fst ..

/-- A name has a node exactly if it is that of a type. -/
theorem isNone_find?_handles (name : String) :
    (schema.handles.find? name).isNone = !schema.types.contains name := by
  rw [← Option.not_isSome, Table.contains, Bool.not_inj_iff, Bool.eq_iff_iff]
  constructor
  all_goals
    intro h
    have hmem := Table.mem_names_of_contains h
  · rw [names_handles] at hmem
    obtain ⟨spec, hspec⟩ := Table.exists_find?_of_mem_names hmem
    rw [hspec]
    rfl
  · rw [← names_handles] at hmem
    obtain ⟨node, hnode⟩ := Table.exists_find?_of_mem_names hmem
    rw [hnode]
    rfl

theorem unknownNames_singleton (place : Mention) (name : String) :
    schema.unknownNames place [name] = if schema.types.contains name then [] else [.unknown place name] := by
  unfold unknownNames
  cases h : schema.types.contains name <;> simp [h]

theorem unknownNames_flatMap {α : Type} (place : Mention) (items : List α) (names : α → List String) :
    schema.unknownNames place (items.flatMap names) = items.flatMap fun a => schema.unknownNames place (names a) := by
  rw [unknownNames, List.filter_flatMap, List.map_flatMap]
  rfl

end Schema

/-! ## Reading -/

namespace Resolver

variable {schema : Schema} {α β : Type}

/-- Whether a step gives a result and notes problems, and changes nothing, where the nodes are those of a schema. -/
def Reports (schema : Schema) (step : Resolving α) (result : α) (problems : List Unresolved) : Prop :=
  ∀ s : Resolver, s.nodes = schema.handles →
    step.run s = pure (result, { s with problems := s.problems ++ problems })

/-- What comes next goes on with the result, and with the problems noted. -/
theorem Reports.run_bind {step : Resolving α} {next : α → Resolving β} {a : α} {problems : List Unresolved}
    (h : Reports schema step a problems) {s : Resolver} (hs : s.nodes = schema.handles) :
    (step >>= next).run s = (next a).run { s with problems := s.problems ++ problems } := by
  rw [StateT.run_bind, h s hs, pure_bind]

theorem Reports.pure (a : α) : Reports schema (pure a) a [] := by
  intro s _
  rw [List.append_nil]
  rfl

theorem Reports.bind {step : Resolving α} {next : α → Resolving β} {a : α} {b : β} {problems more : List Unresolved}
    (h : Reports schema step a problems) (hnext : Reports schema (next a) b more) :
    Reports schema (step >>= next) b (problems ++ more) := by
  intro s hs
  have hrest := hnext { s with problems := s.problems ++ problems } hs
  rw [List.append_assoc] at hrest
  rwa [h.run_bind hs]

theorem Reports.map {step : Resolving α} {a : α} {problems : List Unresolved} (h : Reports schema step a problems)
    (f : α → β) : Reports schema (f <$> step) (f a) problems := by
  intro s hs
  rw [StateT.run_map, h s hs, map_pure]

/-- Steps one after another note their problems in order. -/
theorem Reports.mapM {items : List α} {step : α → Resolving β} {result : α → β} {problems : α → List Unresolved}
    (h : ∀ a ∈ items, Reports schema (step a) (result a) (problems a)) :
    Reports schema (items.mapM step) (items.map result) (items.flatMap problems) := by
  induction items with
  | nil => exact .pure []
  | cons a rest ih =>
    have hrest := ih fun b hb => h b (List.mem_cons_of_mem _ hb)
    rw [List.mapM_cons, List.map_cons, List.flatMap_cons, ← List.append_nil (rest.flatMap problems)]
    exact (h a (List.mem_cons_self ..)).bind (hrest.bind (.pure _))

theorem reports_reference (place : Mention) (name : String) :
    Reports schema (reference place name) (schema.linkedRef name) (schema.unknownNames place [name]) := by
  intro s hs
  have hnode := @Schema.isNone_find?_handles schema name
  rw [Schema.unknownNames_singleton, Schema.linkedRef]
  rw [← hs] at hnode ⊢
  unfold reference
  rw [StateT.run_bind, StateT.run_get, pure_bind]
  dsimp only
  rw [hnode]
  cases schema.types.contains name with
  | true =>
    rw [if_neg (by simp), if_pos rfl, List.append_nil]
    rfl
  | false => rfl

theorem parse_of_parts {place : Mention} {cs : List Char} (h : 1 < (splitOr [] (trim cs)).length) :
    parse place cs = LinkedExpr.flatten <$> (splitOr [] (trim cs)).mapM (parse place) := by
  rw [parse, dif_pos h]
  have hattach : (splitOr [] (trim cs)).attach.mapM (fun part => parse place part.1) =
      ((splitOr [] (trim cs)).attach.map Subtype.val).mapM (parse place) := List.mapM_map.symm
  rw [hattach, List.attach_map_subtype_val]

theorem parse_of_some {place : Mention} {cs rest : List Char} (h : (splitOr [] (trim cs)).length ≤ 1)
    (hrest : afterArray? (trim cs) = some rest) : parse place cs = LinkedExpr.array <$> parse place rest := by
  rw [parse, dif_neg (by omega)]
  split
  · next heq =>
    cases hrest.symm.trans heq
    rfl
  · next heq => cases hrest.symm.trans heq

theorem parse_of_none {place : Mention} {cs : List Char} (h : (splitOr [] (trim cs)).length ≤ 1)
    (hrest : afterArray? (trim cs) = none) :
    parse place cs =
      match Primitive.ofName? (String.ofList (trim cs)) with
      | some p => pure (.primitive p)
      | none => LinkedExpr.ref <$> reference place (String.ofList (trim cs)) := by
  rw [parse, dif_neg (by omega)]
  split
  · next heq => cases hrest.symm.trans heq
  · rfl

/-- A text in which no separator begins is read as a part. -/
theorem reports_parse_of_isWhole (place : Mention) {cs : List Char} (hwhole : TypeExpr.IsWhole (trim cs)) :
    Reports schema (parse place cs) ((TypeExpr.ofAtom cs).link schema.handles.find?)
      (schema.unknownNames place (TypeExpr.ofAtom cs).refs) := by
  have hone : ∀ {cs}, TypeExpr.IsWhole (trim cs) → (splitOr [] (trim cs)).length ≤ 1 := by
    intro cs h
    rw [TypeExpr.splitOr_of_isWhole h]
    exact Nat.le_refl 1
  induction cs using TypeExpr.ofAtom.induct with
  | case1 cs rest hrest ih =>
    rw [parse_of_some (hone hwhole) hrest, TypeExpr.ofAtom_of_some hrest]
    exact (ih (hwhole.of_afterArray? hrest).trim).map _
  | case2 cs hrest =>
    rw [parse_of_none (hone hwhole) hrest, TypeExpr.ofAtom_of_none hrest, TypeExpr.named]
    cases Primitive.ofName? (String.ofList (trim cs)) with
    | some p => exact .pure _
    | none => exact (reports_reference place _).map _

/-- A text is read as the alternatives in it. -/
theorem reports_parse (place : Mention) (text : String) :
    Reports schema (parse place text.toList)
      ((TypeExpr.anyOf (readAlternatives text)).link schema.handles.find?)
      (schema.unknownNames place (TypeExpr.anyOf (readAlternatives text)).refs) := by
  have hwhole : ∀ part ∈ splitOr [] (trim text.toList), TypeExpr.IsWhole part := fun part hpart =>
    TypeExpr.isWhole_of_mem_splitOr hpart fun u hne hu => absurd (List.suffix_nil.1 hu) hne
  by_cases hmany : 1 < (splitOr [] (trim text.toList)).length
  · have hparts := (Reports.mapM fun part hpart =>
      @reports_parse_of_isWhole schema place part (hwhole part hpart).trim).map LinkedExpr.flatten
    have hatoms : (readAlternatives text).flatMap TypeExpr.alternatives = readAlternatives text :=
      TypeExpr.flatMap_alternatives fun _ => TypeExpr.isAtomic_of_mem_readAlternatives
    rw [parse_of_parts hmany, ← hatoms, ← TypeExpr.flatten_map_link, hatoms, TypeExpr.refs_anyOf,
      Schema.unknownNames_flatMap, readAlternatives, List.map_map, List.flatMap_map]
    exact hparts
  · -- the only part is the text itself
    obtain ⟨part, hpart⟩ : ∃ part, splitOr [] (trim text.toList) = [part] := by
      refine List.length_eq_one_iff.1 ?_
      have hpos := List.length_pos_iff.2 (TypeExpr.splitOr_ne_nil [] (trim text.toList))
      omega
    have htrim : part = trim text.toList := TypeExpr.eq_of_splitOr_eq_singleton hpart
    have hatom : TypeExpr.anyOf (readAlternatives text) = TypeExpr.ofAtom text.toList := by
      rw [readAlternatives, hpart, htrim, List.map_singleton, TypeExpr.ofAtom_trim, TypeExpr.anyOf]
    rw [hatom]
    refine reports_parse_of_isWhole place ?_
    rw [← htrim]
    exact hwhole part (by simp [hpart])

/-- Alternatives are read as one expression, and an empty list of them is noted. -/
theorem reports_resolveTexts (place : Mention) (texts : List String) :
    Reports schema (resolveTexts place texts) (schema.linkedExpr texts) (schema.problemsOfTexts place texts) := by
  have hoptions := Reports.mapM fun text (_ : text ∈ texts) => @reports_parse schema place text
  by_cases h : texts = []
  · subst h
    exact fun s hs => rfl
  · have hflat := TypeExpr.flatten_map_link schema.handles.find?
      (texts.map fun text => TypeExpr.anyOf (readAlternatives text))
    rw [TypeExpr.flatMap_alternatives_anyOf, List.map_map] at hflat
    have hproblems : texts.flatMap (fun text =>
        schema.unknownNames place (TypeExpr.anyOf (readAlternatives text)).refs) =
        schema.unknownNames place (TypeExpr.ofTexts texts).refs := by
      rw [TypeExpr.ofTexts, TypeExpr.refs_anyOf, List.flatMap_assoc, Schema.unknownNames_flatMap]
      simp only [TypeExpr.refs_anyOf]
    have hnonempty : (texts.map fun text =>
        (TypeExpr.anyOf (readAlternatives text)).link schema.handles.find?).isEmpty = false := by
      simpa using h
    rw [Schema.linkedExpr, if_neg h, Schema.problemsOfTexts, if_neg (by simpa using h), TypeExpr.ofTexts, ← hflat,
      ← TypeExpr.ofTexts, ← hproblems, ← List.append_nil (texts.flatMap _)]
    refine hoptions.bind ?_
    rw [if_neg (by rw [hnonempty]; exact Bool.false_ne_true)]
    exact .pure _

theorem reports_resolveField (owner : String) (spec : FieldSpec) :
    Reports schema (resolveField owner spec) (schema.linkedField spec)
      (schema.problemsOfTexts (.field owner spec.name) spec.types) := by
  unfold resolveField
  rw [bind_pure_comp]
  exact (reports_resolveTexts _ spec.types).map _

theorem reports_fields (owner : String) (fields : List FieldSpec) :
    Reports schema (fields.mapM (resolveField owner)) (fields.map schema.linkedField)
      (schema.problemsOfFields owner fields) :=
  .mapM fun spec _ => reports_resolveField owner spec

theorem reports_references (place : Mention) (names : List String) :
    Reports schema (names.mapM (reference place)) (names.map schema.linkedRef) (schema.unknownNames place names) := by
  have hnames : schema.unknownNames place names = names.flatMap fun name => schema.unknownNames place [name] := by
    rw [← Schema.unknownNames_flatMap, List.flatMap_singleton']
  rw [hnames]
  exact .mapM fun name _ => reports_reference place name

theorem reports_resolveMethod (name : String) (spec : MethodSpec) :
    Reports schema (resolveMethod name spec) (schema.linkedMethod name spec) (schema.problemsOfMethod name spec) := by
  refine (reports_fields name spec.fields).bind ?_
  rw [bind_pure_comp]
  exact (reports_resolveTexts _ spec.returns).map _

/-! ## The first pass -/

/-- The node of a type before it is filled. -/
def shell (e : String × TypeSpec) : LinkedNode := { name := e.1, description := e.2.description, href := e.2.href }

/-- After some types the heap has their shells in order, and each name leads to its own. -/
theorem run_allocate (done rest : List (String × TypeSpec)) (t : Table Handle)
    (hnodup : ((done ++ rest).map Prod.fst).Nodup) (ht : t.entries = (done.map Prod.fst).zipIdx)
    (u : Table Handle) (hu : u.entries = ((done ++ rest).map Prod.fst).zipIdx) :
    (rest.forM fun e => allocate e.1 e.2).run { heap := done.map shell, nodes := t } =
      pure ((), { heap := (done ++ rest).map shell, nodes := u }) := by
  induction rest generalizing done t with
  | nil =>
    have htu : t = u := Table.eq_of_entries (by rw [ht, hu, List.append_nil])
    rw [htu, List.append_nil]
    rfl
  | cons e rest ih =>
    have hassoc : done ++ e :: rest = (done ++ [e]) ++ rest := by rw [List.append_assoc, List.singleton_append]
    have hnew : e.1 ∉ t.entries.map Prod.fst := by
      rw [ht, List.zipIdx_map_fst]
      rw [List.map_append, List.nodup_append] at hnodup
      exact fun hmem => hnodup.2.2 _ hmem _ (List.mem_cons_self ..) rfl
    rw [hassoc] at hnodup hu ⊢
    have hrest := ih (done ++ [e]) (t.insert e.1 (done.map shell).length) hnodup ?_ hu
    · have hshells : (done ++ [e]).map shell = done.map shell ++ [shell e] := List.map_append
      rw [hshells, List.forM_eq_forM] at hrest
      rw [List.forM_eq_forM]
      rw [List.forM_cons, StateT.run_bind]
      exact hrest
    · change Entries.put e.1 (done.map shell).length t.entries = _
      rw [Entries.put_of_not_mem _ hnew, ht, List.map_append, List.zipIdx_append, List.length_map,
        List.length_map, Nat.zero_add]
      rfl

/-! ## The second pass -/

theorem run_write_bind (h : Handle) (change : LinkedNode → LinkedNode) (next : Resolving α) (s : Resolver) :
    (write h change >>= fun _ => next).run s = next.run { s with heap := s.heap.modify h change } := rfl

/-- Filling changes one node, the one of the name. -/
theorem run_fill {s : Resolver} {name : String} {h : Handle} (spec : TypeSpec) (hs : s.nodes = schema.handles)
    (hnode : schema.handles.find? name = some h) :
    (fill name spec).run s =
      pure ((), { s with
        heap := s.heap.modify h fun n =>
          { n with fields := spec.fields.map schema.linkedField, variants := spec.subtypes.map schema.linkedRef }
        problems := s.problems ++ schema.problemsOfType name spec }) := by
  unfold fill
  rw [StateT.run_bind, StateT.run_get, pure_bind]
  dsimp only
  rw [hs, hnode]
  dsimp only
  rw [(reports_fields name spec.fields).run_bind hs, run_write_bind,
    (reports_references (.subtype name) spec.subtypes).run_bind, run_write_bind,
    (reports_references (.subtypeOf name) spec.subtypeOf).run_bind, StateT.run_pure]
  · dsimp only
    rw [List.modify_modify_eq, Schema.problemsOfType, hs, List.append_assoc, List.append_assoc, List.append_assoc]
    rfl
  · exact hs
  · exact hs

/-- After some types their nodes are filled, and the others are as they were made. -/
theorem run_fill_all (done rest : List (String × TypeSpec)) (problems : List Unresolved)
    (hentries : schema.types.entries = done ++ rest) :
    (rest.forM fun e => fill e.1 e.2).run
        { heap := (done.map fun e => schema.linkedNode e.1 e.2) ++ rest.map shell, nodes := schema.handles, problems } =
      pure ((),
        { heap := (done ++ rest).map fun e => schema.linkedNode e.1 e.2
          nodes := schema.handles
          problems := problems ++ rest.flatMap fun e => schema.problemsOfType e.1 e.2 }) := by
  induction rest generalizing done problems with
  | nil =>
    rw [List.append_nil, List.map_nil, List.append_nil, List.flatMap_nil, List.append_nil]
    rfl
  | cons e rest ih =>
    have hassoc : done ++ e :: rest = (done ++ [e]) ++ rest := by rw [List.append_assoc, List.singleton_append]
    have hnode : schema.handles.find? e.1 = some done.length := by
      rw [Schema.find?_handles_eq_some_iff, Table.names, hentries, List.map_append,
        List.getElem?_append_right (by simp)]
      simp
    have hrest := ih (done ++ [e]) (problems ++ schema.problemsOfType e.1 e.2) (by rw [hentries, hassoc])
    rw [List.forM_eq_forM] at hrest ⊢
    rw [List.forM_cons, StateT.run_bind, run_fill e.2 rfl hnode, pure_bind, hassoc]
    rw [List.modify_eq_take_drop, List.take_left' (by simp), List.drop_left' (by simp), List.map_cons,
      List.modifyHead_cons]
    rw [@List.map_append _ _ _ done [e], List.append_assoc] at hrest
    rw [List.flatMap_cons, ← List.append_assoc]
    exact hrest

/-- In the end the nodes are those of the types, and all problems have been noted. -/
theorem run_resolve (schema : Schema) :
    (resolve schema).run {} =
      pure (schema.methods.map schema.linkedMethod,
        { heap := schema.linkedGraph.heap, nodes := schema.handles, problems := schema.problems }) := by
  have hallocate := run_allocate [] schema.types.entries .empty schema.types.nodup rfl schema.handles rfl
  have hfill := @run_fill_all schema [] schema.types.entries [] rfl
  have hmethods := Reports.mapM fun (e : String × MethodSpec) (_ : e ∈ schema.methods.entries) =>
    (@reports_resolveMethod schema e.1 e.2).map (e.1, ·)
  have htable : Table.ofList (schema.methods.entries.map fun e => (e.1, schema.linkedMethod e.1 e.2)) =
      schema.methods.map schema.linkedMethod := by
    refine Table.eq_of_entries ?_
    rw [Table.entries_ofList]
    exact Entries.merge_of_nodup (schema.methods.map schema.linkedMethod).nodup
  unfold resolve
  rw [List.map_nil, List.nil_append] at hallocate hfill
  rw [StateT.run_bind, hallocate, pure_bind]
  dsimp only
  rw [StateT.run_bind, hfill, pure_bind]
  dsimp only
  rw [hmethods.run_bind rfl, htable]
  rfl

end Resolver

/-! ## Schemas without problems -/

namespace Schema

variable {schema : Schema}

theorem contains_of_unknownNames {mention : Mention} {names : List String}
    (h : schema.unknownNames mention names = []) {name : String} (hn : name ∈ names) :
    name ∈ schema.types.names := by
  rw [unknownNames, List.map_eq_nil_iff, List.filter_eq_nil_iff] at h
  have hc := h name hn
  rw [Bool.not_eq_true, Bool.not_eq_false'] at hc
  exact Table.mem_names_of_contains hc

theorem refs_of_problemsOfTexts {mention : Mention} {texts : List String}
    (h : schema.problemsOfTexts mention texts = []) :
    ∀ name ∈ (TypeExpr.ofTexts texts).refs, name ∈ schema.types.names := by
  rw [problemsOfTexts] at h
  split at h
  · cases h
  · exact fun name hn => contains_of_unknownNames h hn

theorem refs_of_problemsOfFields {owner : String} {fields : List FieldSpec}
    (h : schema.problemsOfFields owner fields = []) {f : FieldSpec} (hf : f ∈ fields) :
    ∀ name ∈ (TypeExpr.ofTexts f.types).refs, name ∈ schema.types.names := by
  rw [problemsOfFields, List.flatMap_eq_nil_iff] at h
  exact refs_of_problemsOfTexts (h f hf)

theorem forget_linkedExpr {place : Mention} {texts : List String} (h : schema.problemsOfTexts place texts = []) :
    (schema.linkedExpr texts).forget = .ofTexts texts := by
  rw [problemsOfTexts] at h
  split at h
  · cases h
  · next hne =>
    rw [linkedExpr, if_neg (by simpa using hne)]
    exact TypeExpr.forget_link _ _

theorem forget_linkedFields {owner : String} {fields : List FieldSpec}
    (h : schema.problemsOfFields owner fields = []) :
    (fields.map schema.linkedField).map LinkedField.forget = fields.map Graph.fieldOf := by
  rw [problemsOfFields, List.flatMap_eq_nil_iff] at h
  rw [List.map_map]
  refine List.map_congr_left fun f hf => ?_
  rw [Function.comp_apply, LinkedField.forget, linkedField, Graph.fieldOf]
  dsimp only
  rw [forget_linkedExpr (h f hf)]

theorem forget_linkedNode {name : String} {spec : TypeSpec} (h : schema.problemsOfType name spec = []) :
    (schema.linkedNode name spec).forget = Graph.typeOf name spec := by
  rw [problemsOfType, List.append_eq_nil_iff, List.append_eq_nil_iff] at h
  rw [LinkedNode.forget, linkedNode, Graph.typeOf]
  dsimp only
  rw [forget_linkedFields h.1.1, List.map_map]
  congr 1
  exact List.map_id _

theorem forget_linkedMethod {name : String} {spec : MethodSpec} (h : schema.problemsOfMethod name spec = []) :
    (schema.linkedMethod name spec).forget = Graph.methodOf name spec := by
  rw [problemsOfMethod, List.append_eq_nil_iff] at h
  rw [LinkedMethod.forget, linkedMethod, Graph.methodOf]
  dsimp only
  rw [forget_linkedFields h.1, forget_linkedExpr h.2]

section

variable (h : schema.problems = [])

include h

theorem problemsOfType_of_mem {e : String × TypeSpec} (he : e ∈ schema.types.entries) :
    schema.problemsOfType e.1 e.2 = [] := by
  rw [problems, List.append_eq_nil_iff, List.flatMap_eq_nil_iff, List.flatMap_eq_nil_iff] at h
  exact h.1 e he

theorem problemsOfMethod_of_mem {e : String × MethodSpec} (he : e ∈ schema.methods.entries) :
    schema.problemsOfMethod e.1 e.2 = [] := by
  rw [problems, List.append_eq_nil_iff, List.flatMap_eq_nil_iff, List.flatMap_eq_nil_iff] at h
  exact h.2 e he

theorem problemsOfType_eq_nil {name : String} {spec : TypeSpec} (hspec : schema.types.find? name = some spec) :
    schema.problemsOfType name spec = [] := problemsOfType_of_mem h (Table.mem_of_find? hspec)

theorem problemsOfMethod_eq_nil {name : String} {spec : MethodSpec} (hspec : schema.methods.find? name = some spec) :
    schema.problemsOfMethod name spec = [] := problemsOfMethod_of_mem h (Table.mem_of_find? hspec)

theorem map_forget_heap :
    schema.linkedGraph.heap.map LinkedNode.forget = (schema.types.map Graph.typeOf).values := by
  change (schema.types.entries.map _).map _ = (schema.types.entries.map _).map _
  rw [List.map_map, List.map_map]
  exact List.map_congr_left fun e he => forget_linkedNode (problemsOfType_of_mem h he)

theorem map_forget_methods :
    schema.linkedGraph.methods.map (fun _ m => m.forget) = schema.methods.map Graph.methodOf := by
  refine Table.eq_of_entries ?_
  change (schema.methods.entries.map _).map _ = schema.methods.entries.map _
  rw [List.map_map]
  refine List.map_congr_left fun e he => ?_
  dsimp only [Function.comp_apply]
  rw [forget_linkedMethod (problemsOfMethod_of_mem h he)]

theorem map_forget_types :
    schema.linkedGraph.types.map (fun _ node => (schema.linkedGraph.node node).forget) =
      schema.types.map Graph.typeOf := by
  refine Table.eq_of_entries (List.ext_getElem? fun i => ?_)
  change (schema.types.names.zipIdx.map _)[i]? = (schema.types.entries.map _)[i]?
  rw [List.getElem?_map, List.getElem?_map, List.getElem?_zipIdx, Table.names, List.getElem?_map]
  cases he : schema.types.entries[i]? with
  | none => rfl
  | some e =>
    -- what lies under the handle is the node of the type at this place
    have hnode : schema.linkedGraph.node i = schema.linkedNode e.1 e.2 := by
      rw [LinkedGraph.node, List.getD_eq_getElem?_getD, linkedGraph, List.getElem?_map, he]
      rfl
    rw [Option.map_some, Option.map_some, Option.map_some, Nat.zero_add]
    dsimp only
    rw [hnode, forget_linkedNode (problemsOfType_of_mem h (List.mem_of_getElem? he))]
    rfl

/-- Without nodes the linked graph is the graph that goes by names. -/
theorem forget_linkedGraph :
    schema.linkedGraph.forget =
      { types := schema.types.map Graph.typeOf
        methods := schema.methods.map Graph.methodOf
        version := schema.version } := by
  rw [LinkedGraph.forget, map_forget_types h, map_forget_methods h]
  rfl

end

end Schema

namespace LinkedGraph

variable {schema : Schema}

theorem resolve_eq (schema : Schema) :
    resolve schema = if schema.problems = [] then .ok schema.linkedGraph else .error schema.problems := by
  rw [resolve, Resolver.run_resolve]
  cases h : schema.problems with
  | nil =>
    rw [if_pos rfl]
    rfl
  | cons problem more =>
    rw [if_neg (List.cons_ne_nil _ _)]
    rfl

end LinkedGraph

namespace Graph

/-- The graph of a schema can be read off it, type by type. -/
theorem resolve_eq (schema : Schema) :
    resolve schema =
      match schema.problems with
      | [] =>
        .ok
          { types := schema.types.map typeOf
            methods := schema.methods.map methodOf
            version := schema.version }
      | problems => .error problems := by
  rw [resolve, LinkedGraph.resolve_eq]
  cases h : schema.problems with
  | nil => rw [if_pos rfl, Except.map, Schema.forget_linkedGraph h]
  | cons problem more => rw [if_neg (List.cons_ne_nil _ _), Except.map]

end Graph

end BotApi
