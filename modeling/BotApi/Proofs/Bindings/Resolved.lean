import BotApi.Bindings.Basic
import BotApi.Proofs.Graph.Linking
import BotApi.Proofs.Results

/-!
# What bindings of a schema can be relied on for

Bindings exist only of a schema in which each name that is mentioned is that of a type, and only if the fields
of each type have attributes of their own.

## Main results

* `resolved_of_build` — the types of bindings are closed and their fields told apart.
* `closed_of_method`, `name_of_param` — the same of the methods.
-/

namespace BotApi

/-- Whether all types that an expression mentions are there. -/
def Closed (types : Table TypeBinding) (e : TypeExpr) : Prop := ∀ name ∈ e.refs, name ∈ types.names

/-- Types that mention each other only, and whose fields differ in their attributes and in their wire names. -/
structure Resolved (types : Table TypeBinding) : Prop where
  fields : ∀ name type, types.find? name = some type → ∀ f ∈ type.fields, Closed types f.type
  variants : ∀ name type, types.find? name = some type → ∀ variant ∈ type.variants, variant ∈ types.names
  attributes : ∀ name type, types.find? name = some type → (type.fields.map (·.name)).Nodup
  wireNames : ∀ name type, types.find? name = some type → (type.fields.map (·.wireName)).Nodup

theorem TypeExpr.refs_subset_of_mem {e : TypeExpr} {options : List TypeExpr} (h : e ∈ options) :
    e.refs ⊆ TypeExpr.optionRefs options := by
  induction options with
  | nil => cases h
  | cons first rest ih =>
    rw [TypeExpr.optionRefs]
    intro name hname
    rcases List.mem_cons.1 h with rfl | hr
    · exact List.mem_append_left _ hname
    · exact List.mem_append_right _ (ih hr hname)

namespace Closed

variable {types : Table TypeBinding}

theorem item {item : TypeExpr} (h : Closed types (.array item)) : Closed types item := h

theorem option {options : List TypeExpr} (h : Closed types (.union options)) {e : TypeExpr} (he : e ∈ options) :
    Closed types e := fun name hname => h name (TypeExpr.refs_subset_of_mem he hname)

theorem mem_names {name : String} (h : Closed types (.ref name)) : name ∈ types.names :=
  h name (List.mem_singleton_self name)

end Closed

theorem Resolved.variant {types : Table TypeBinding} (h : Resolved types) {name : String} {type : TypeBinding}
    (htype : types.find? name = some type) {variant : String} (hv : variant ∈ type.variants) :
    Closed types (.ref variant) := by
  intro other hother
  rw [List.mem_singleton.1 hother]
  exact h.variants name type htype variant hv

/-! ## From a schema to its bindings -/

namespace Bindings

/-- What a schema is bound to, step by step. -/
theorem of_build {schema : Schema} {b : Bindings} (h : (build schema).result = .ok b) :
    schema.problems = [] ∧
      (schema.types.map Graph.typeOf).mapM (fun _ node => bindType node) = .ok b.types ∧
      b.methods = (schema.methods.map Graph.methodOf).mapS
        (fun _ node known => bindMethod (schema.types.map Graph.typeOf) node known) .empty := by
  unfold build resolve at h
  rw [Graph.resolve_eq] at h
  cases hp : schema.problems with
  | cons problem more =>
    rw [hp] at h
    cases h
  | nil =>
    rw [hp] at h
    refine ⟨rfl, ?_⟩
    -- what is left is the binding of the graph
    unfold generate ofGraph at h
    dsimp only at h
    cases ht : (schema.types.map Graph.typeOf).mapM (fun _ node => bindType node) with
    | error fault =>
      rw [ht] at h
      cases h
    | ok types =>
      rw [ht] at h
      cases h
      exact ⟨rfl, rfl⟩

/-- The bindings of a schema without problems, whose types can be bound. -/
theorem build_eq_ok {schema : Schema} {types : Table TypeBinding} (hp : schema.problems = [])
    (ht : (schema.types.map Graph.typeOf).mapM (fun _ node => bindType node) = .ok types) :
    (build schema).result = .ok
      { types
        methods := (schema.methods.map Graph.methodOf).mapS
          (fun _ node known => bindMethod (schema.types.map Graph.typeOf) node known) .empty
        version := schema.version } := by
  unfold build resolve
  rw [Graph.resolve_eq, hp]
  unfold generate ofGraph
  dsimp only
  rw [ht]
  rfl

theorem of_bindType {node : TypeNode} {t : TypeBinding} (h : bindType node = .ok t) :
    t.fields = node.fields.map .ofField ∧ t.variants = node.variants ∧
      fieldFault? t.name [] t.fields = none := by
  unfold bindType at h
  dsimp only at h
  split at h
  · cases h
  · next hfault =>
    cases h
    refine ⟨rfl, rfl, ?_⟩
    -- the faults of fields are the first to be looked for
    unfold typeFault? at hfault
    dsimp only at hfault ⊢
    cases hf : fieldFault? node.name [] (node.fields.map .ofField) with
    | none => rfl
    | some fault =>
      rw [hf] at hfault
      simp at hfault

theorem nodup_of_fieldFault? {type : String} {seen : List String} {fields : List FieldBinding}
    (h : fieldFault? type seen fields = none) :
    (fields.map (·.name)).Nodup ∧ ∀ f ∈ fields, f.name ∉ seen := by
  induction fields generalizing seen with
  | nil => exact ⟨List.nodup_nil, by simp⟩
  | cons f rest ih =>
    rw [fieldFault?] at h
    split at h
    · cases h
    · split at h
      · cases h
      · next hseen =>
        obtain ⟨hnodup, hrest⟩ := ih h
        rw [List.contains_iff_mem] at hseen
        refine ⟨?_, fun g hg => ?_⟩
        · -- the later fields were checked against this one
          rw [List.map_cons, List.nodup_cons]
          refine ⟨fun hm => ?_, hnodup⟩
          obtain ⟨g, hg, hname⟩ := List.mem_map.1 hm
          exact hrest g hg (by rw [hname]; exact List.mem_cons_self ..)
        · rcases List.mem_cons.1 hg with rfl | hg
          · exact hseen
          · exact fun hm => hrest g hg (List.mem_cons_of_mem _ hm)

/-- The wire name tells the attribute, so fields with different attributes have different wire names. -/
theorem nodup_wireName_of_nodup_name {fields : List FieldBinding}
    (hname : ∀ f ∈ fields, f.name = attributeName f.wireName) (h : (fields.map (·.name)).Nodup) :
    (fields.map (·.wireName)).Nodup := by
  induction fields with
  | nil => exact List.nodup_nil
  | cons f rest ih =>
    rw [List.map_cons, List.nodup_cons] at h ⊢
    refine ⟨fun hm => ?_, ih (fun g hg => hname g (List.mem_cons_of_mem _ hg)) h.2⟩
    obtain ⟨g, hg, hwire⟩ := List.mem_map.1 hm
    refine h.1 (List.mem_map.2 ⟨g, hg, ?_⟩)
    rw [hname g (List.mem_cons_of_mem _ hg), hname f (List.mem_cons_self ..), hwire]

theorem name_of_ofField {specs : List FieldSpec} {f : FieldBinding}
    (h : f ∈ (specs.map Graph.fieldOf).map FieldBinding.ofField) :
    f.name = attributeName f.wireName ∧ ∃ spec ∈ specs, f.type = .ofTexts spec.types := by
  obtain ⟨field, hfield, rfl⟩ := List.mem_map.1 h
  obtain ⟨spec, hspec, rfl⟩ := List.mem_map.1 hfield
  exact ⟨rfl, spec, hspec, rfl⟩

variable {schema : Schema} {b : Bindings}

theorem names_of_build (h : (build schema).result = .ok b) : b.types.names = schema.types.names := by
  rw [Table.names_of_mapM (of_build h).2.1, Table.names_map]

/-- Each type of bindings comes from one of the schema. -/
theorem type_of_build (h : (build schema).result = .ok b) {name : String} {type : TypeBinding}
    (htype : b.types.find? name = some type) :
    ∃ spec, schema.types.find? name = some spec ∧ bindType (Graph.typeOf name spec) = .ok type ∧
      type.fields = (spec.fields.map Graph.fieldOf).map .ofField ∧ type.variants = spec.subtypes ∧
      (type.fields.map (·.name)).Nodup := by
  obtain ⟨node, hnode, hbind⟩ := Table.exists_of_find?_mapM (of_build h).2.1 htype
  rw [Table.find?_map, Option.map_eq_some_iff] at hnode
  obtain ⟨spec, hspec, rfl⟩ := hnode
  obtain ⟨hfields, hvariants, hfault⟩ := of_bindType hbind
  exact ⟨spec, hspec, hbind, hfields, hvariants, (nodup_of_fieldFault? hfault).1⟩

theorem name_of_bindType {node : TypeNode} {t : TypeBinding} (h : bindType node = .ok t) : t.name = node.name := by
  unfold bindType at h
  dsimp only at h
  split at h
  · cases h
  · cases h
    rfl

/-- Types go by their own names. -/
theorem map_name_values (h : (build schema).result = .ok b) : b.types.values.map (·.name) = b.types.names := by
  rw [Table.values, List.map_map, Table.names]
  refine List.map_congr_left fun e he => ?_
  obtain ⟨spec, -, hbind, -⟩ := type_of_build h ((Entries.lookup_eq_some_iff_mem b.types.nodup).2 he)
  exact name_of_bindType hbind

/-- The types of bindings mention each other only, and tell their fields apart. -/
theorem resolved_of_build (h : (build schema).result = .ok b) : Resolved b.types := by
  obtain ⟨hproblems, -, -⟩ := of_build h
  refine ⟨?_, ?_, ?_, ?_⟩
  · intro name type htype f hf
    obtain ⟨spec, hspec, -, hfields, -⟩ := type_of_build h htype
    have hnil := Schema.problemsOfType_eq_nil hproblems hspec
    rw [Schema.problemsOfType, List.append_eq_nil_iff, List.append_eq_nil_iff] at hnil
    rw [hfields] at hf
    obtain ⟨-, field, hfield, htexts⟩ := name_of_ofField hf
    intro other hother
    rw [htexts] at hother
    rw [names_of_build h]
    exact Schema.refs_of_problemsOfFields hnil.1.1 hfield other hother
  · intro name type htype variant hv
    obtain ⟨spec, hspec, -, -, hvariants, -⟩ := type_of_build h htype
    have hnil := Schema.problemsOfType_eq_nil hproblems hspec
    rw [Schema.problemsOfType, List.append_eq_nil_iff, List.append_eq_nil_iff] at hnil
    rw [hvariants] at hv
    rw [names_of_build h]
    exact Schema.contains_of_unknownNames hnil.1.2 hv
  · intro name type htype
    obtain ⟨spec, -, -, -, -, hnodup⟩ := type_of_build h htype
    exact hnodup
  · intro name type htype
    obtain ⟨spec, -, -, hfields, -, hnodup⟩ := type_of_build h htype
    refine nodup_wireName_of_nodup_name (fun f hf => ?_) hnodup
    rw [hfields] at hf
    exact (name_of_ofField hf).1

/-- A method is found by its documented name or by its snake case name. -/
theorem exists_find?_of_method? {name : String} {method : MethodBinding} (hm : b.method? name = some method) :
    ∃ other, b.methods.find? other = some method := by
  rw [method?] at hm
  split at hm
  · next found hfound =>
    cases hm
    exact ⟨name, hfound⟩
  · obtain ⟨other, -, hother⟩ := Option.bind_eq_some_iff.1 hm
    exact ⟨other, hother⟩

/-- Each method of bindings comes from one of the schema. -/
theorem method_of_build (h : (build schema).result = .ok b) {name : String} {method : MethodBinding}
    (hm : b.method? name = some method) :
    ∃ other spec, schema.methods.find? other = some spec ∧
      method.params = (spec.fields.map Graph.fieldOf).map .ofField ∧
      method.returns = .ofTexts spec.returns := by
  obtain ⟨-, -, hmethods⟩ := of_build h
  obtain ⟨other, hother⟩ := exists_find?_of_method? hm
  rw [hmethods] at hother
  obtain ⟨node, known, hnode, hbind⟩ := Table.exists_of_find?_mapS hother
  rw [Table.find?_map, Option.map_eq_some_iff] at hnode
  obtain ⟨spec, hspec, rfl⟩ := hnode
  refine ⟨other, spec, hspec, ?_, ?_⟩ <;> rw [← hbind] <;> rfl

/-- A method is found again by its own name, which is the documented one. -/
theorem method?_name (h : (build schema).result = .ok b) {name : String} {method : MethodBinding}
    (hm : b.method? name = some method) : b.method? method.name = some method := by
  obtain ⟨-, -, hmethods⟩ := of_build h
  obtain ⟨other, hother⟩ := exists_find?_of_method? hm
  have hname : method.name = other := by
    have hbound := hother
    rw [hmethods] at hbound
    obtain ⟨node, known, hnode, hbind⟩ := Table.exists_of_find?_mapS hbound
    rw [Table.find?_map, Option.map_eq_some_iff] at hnode
    obtain ⟨spec, -, rfl⟩ := hnode
    rw [← hbind]
    rfl
  rw [hname, method?, hother]

/-- What the parameters of a method and its result mention is there. -/
theorem closed_of_method (h : (build schema).result = .ok b) {name : String} {method : MethodBinding}
    (hm : b.method? name = some method) :
    (∀ p ∈ method.params, Closed b.types p.type) ∧ Closed b.types method.returns := by
  obtain ⟨hproblems, -⟩ := of_build h
  obtain ⟨other, spec, hspec, hparams, hreturns⟩ := method_of_build h hm
  have hnil := Schema.problemsOfMethod_eq_nil hproblems hspec
  rw [Schema.problemsOfMethod, List.append_eq_nil_iff] at hnil
  refine ⟨fun p hp => ?_, ?_⟩
  · rw [hparams] at hp
    obtain ⟨-, field, hfield, htexts⟩ := name_of_ofField hp
    intro type htype
    rw [htexts] at htype
    rw [names_of_build h]
    exact Schema.refs_of_problemsOfFields hnil.1 hfield type htype
  · intro type htype
    rw [hreturns] at htype
    rw [names_of_build h]
    exact Schema.refs_of_problemsOfTexts hnil.2 type htype

/-- The first method of a schema is bound before anything is known about files. -/
theorem method?_of_build_first (h : (build schema).result = .ok b) {name : String} {spec : MethodSpec}
    {rest : List (String × MethodSpec)} (he : schema.methods.entries = (name, spec) :: rest) :
    b.method? name = some (bindMethod (schema.types.map Graph.typeOf) (Graph.methodOf name spec) .empty).1 := by
  have hfirst : b.methods.find? name =
      some (bindMethod (schema.types.map Graph.typeOf) (Graph.methodOf name spec) .empty).1 := by
    rw [(of_build h).2.2]
    show (Table.mapEntriesS _ (schema.methods.entries.map _) _).lookup name = _
    rw [he, List.map_cons, Table.mapEntriesS]
    exact List.lookup_cons_self
  rw [method?, hfirst]

theorem bindMethod_fst {types : Table TypeNode} {node : MethodNode} {known : Table Bool} {hasFile : Bool}
    (h : (FileTracker.queryAny types (node.params.map (·.type)) known).1 = hasFile) :
    (bindMethod types node known).1 =
      { name := node.name, params := node.params.map .ofField, returns := node.returns
        hasAttachment := hasFile, snakeName := Text.snake node.name, description := node.description } := by
  rw [← h]
  rfl

theorem name_of_param (h : (build schema).result = .ok b) {name : String} {method : MethodBinding}
    (hm : b.method? name = some method) {p : FieldBinding} (hp : p ∈ method.params) :
    p.name = attributeName p.wireName := by
  obtain ⟨other, spec, -, hparams, -⟩ := method_of_build h hm
  rw [hparams] at hp
  exact (name_of_ofField hp).1

end Bindings

end BotApi
