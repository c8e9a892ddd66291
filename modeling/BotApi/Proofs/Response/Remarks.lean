import BotApi.Proofs.Response.Faultless

/-!
# What remarks are about

A remark is about one mapping in the payload, and names the keys of it that some type leaves aside. It can be made if
these keys have an order, as texts have. So decoding comes to the same with remarks and without, unless a remark is to
be made on keys that have none.

## Main results

* `exists_mapping_of_mem_remarks` — what a remark is about.
* `isSome_sortedKeys_iff` — which keys have an order.
* `decodeLogged_cases` — the log makes no difference, unless keys that are no texts are to be put in order.
-/

namespace BotApi.Response

/-! ## The mappings that remarks are about -/

theorem exists_of_mem_remarksOfItems {types : Table TypeBinding} {item : TypeExpr} {i : Nat} {ps : List Value}
    {r : Remark} (h : r ∈ remarksOfItems types item i ps) :
    ∃ p ∈ ps, ∃ r' ∈ remarks types types.size item p, r'.keys = r.keys := by
  induction ps generalizing i with
  | nil =>
    rw [remarksOfItems] at h
    cases h
  | cons p rest ih =>
    rw [remarksOfItems, List.mem_append] at h
    rcases h with h | h
    · obtain ⟨r', hr', rfl⟩ := List.mem_map.1 h
      exact ⟨p, List.mem_cons_self .., r', hr', rfl⟩
    · split at h
      · obtain ⟨p', hp', hrest⟩ := ih h
        exact ⟨p', List.mem_cons_of_mem _ hp', hrest⟩
      · cases h

theorem exists_of_mem_remarksOfOptions {types : Table TypeBinding} {opens : Nat} {options : List TypeExpr}
    {p : Value} {r : Remark} (h : r ∈ remarksOfOptions types opens options p) :
    ∃ e ∈ options, r ∈ remarks types opens e p := by
  induction options with
  | nil =>
    rw [remarksOfOptions] at h
    cases h
  | cons e rest ih =>
    rw [remarksOfOptions, List.mem_append] at h
    rcases h with h | h
    · exact ⟨e, List.mem_cons_self .., h⟩
    · split at h
      · obtain ⟨e', he', hrest⟩ := ih h
        exact ⟨e', List.mem_cons_of_mem _ he', hrest⟩
      · cases h

theorem exists_of_mem_remarksOfFields {types : Table TypeBinding} {fields : List FieldBinding}
    {entries : List (Key × Value)} {r : Remark} (h : r ∈ remarksOfFields types fields entries) :
    ∃ f ∈ fields, ∃ p, Value.get? entries f.wireName = some p ∧
      ∃ r' ∈ remarks types types.size f.type p, r'.keys = r.keys := by
  induction fields with
  | nil =>
    rw [remarksOfFields] at h
    cases h
  | cons f rest ih =>
    -- the remark is on this field or on a later one
    have hstep : r ∈ remarksOfFields types rest entries ∨ ∃ p, Value.get? entries f.wireName = some p ∧
        ∃ r' ∈ remarks types types.size f.type p, r'.keys = r.keys := by
      rw [remarksOfFields] at h
      split at h
      · split at h
        · cases h
        · exact .inl h
      · split at h
        · cases h
        · exact .inl h
      · next p _ hget =>
        rcases List.mem_append.1 h with h | h
        · obtain ⟨r', hr', rfl⟩ := List.mem_map.1 h
          exact .inr ⟨p, hget, r', hr', rfl⟩
        · split at h
          · exact .inl h
          · cases h
    rcases hstep with h | h
    · obtain ⟨f', hf', hrest⟩ := ih h
      exact ⟨f', List.mem_cons_of_mem _ hf', hrest⟩
    · exact ⟨f, List.mem_cons_self .., h⟩

/-- A remark is on a mapping in the payload, and on the keys of it that some type leaves aside. -/
theorem exists_mapping_of_mem_remarks {types : Table TypeBinding} {opens : Nat} {e : TypeExpr} {p : Value}
    {r : Remark} (hr : r ∈ remarks types opens e p) :
    ∃ entries name type, .object entries ∈ p.parts ∧ types.find? name = some type ∧ type.isAbstract = false ∧
      r.keys = undeclared type.fields entries := by
  -- remarks on a part come with its place put before theirs, and with the same keys
  induction opens, e, p using decode_induction types generalizing r with
  | primitive opens q p =>
    rw [remarks] at hr
    cases hr
  | list opens item ps ih =>
    rw [remarks] at hr
    obtain ⟨p, hp, r', hr', hkeys⟩ := exists_of_mem_remarksOfItems hr
    obtain ⟨entries, name, type, hmem, hrest⟩ := ih p hp hr'
    rw [← hkeys]
    exact ⟨entries, name, type, Value.parts_subset_of_mem hp hmem, hrest⟩
  | notList opens item p hp =>
    rw [remarks.eq_def] at hr
    dsimp only at hr
    split at hr
    · next ps => exact (hp ps rfl).elim
    · cases hr
  | union opens options p ih =>
    rw [remarks] at hr
    obtain ⟨e, he, hr⟩ := exists_of_mem_remarksOfOptions hr
    exact ih e he hr
  | unknown opens name p htype =>
    rw [remarks, htype] at hr
    cases hr
  | endless name type p htype ha =>
    rw [remarks, htype] at hr
    simp [ha] at hr
  | abstract opens name type p htype ha ih =>
    rw [remarks, htype] at hr
    simp only [ha, if_true] at hr
    obtain ⟨e, he, hr⟩ := exists_of_mem_remarksOfOptions hr
    exact ih e he hr
  | object opens name type entries htype hc ih =>
    rw [remarks, htype] at hr
    simp only [hc, Bool.false_eq_true, if_false, List.mem_append] at hr
    rcases hr with hr | hr
    · obtain ⟨f, hf, p, hget, r', hr', hkeys⟩ := exists_of_mem_remarksOfFields hr
      obtain ⟨inner, other, type', hmem, hrest⟩ := ih f hf p hget hr'
      rw [← hkeys]
      exact ⟨inner, other, type', Value.parts_subset_of_lookup hget hmem, hrest⟩
    · -- the keys of the mapping itself
      split at hr
      · cases List.mem_singleton.1 hr
        exact ⟨entries, name, type, Value.mem_parts_self _, htype, hc, rfl⟩
      · cases hr
  | notObject opens name type p htype hc hp =>
    rw [remarks.eq_def] at hr
    dsimp only at hr
    rw [htype] at hr
    simp only [hc, Bool.false_eq_true, if_false] at hr
    cases hr

/-! ## Keys that have an order -/

theorem isText_eq (k : Key) : k.isText = (keyText? k).isSome := by
  cases k <;> rfl

/-- Keys have an order if there is only one, or all of them are texts, or numbers, or octets. -/
theorem isSome_sortedKeys_iff {keys : List Key} :
    (sortedKeys keys).isSome = true ↔
      keys.length ≤ 1 ∨ (∀ k ∈ keys, k.isText = true) ∨ (∀ k ∈ keys, (position? k).isSome = true) ∨
        ∀ k ∈ keys, (keyOctets? k).isSome = true := by
  simp only [isText_eq]
  rw [sortedKeys]
  simp only [List.filterMap_length_eq_length, Option.isSome_map]
  split
  · next hone => exact iff_of_true rfl (.inl hone)
  · next hone =>
    split
    · next htexts => exact iff_of_true rfl (.inr (.inl htexts))
    · next htexts =>
      split
      · next hnumbers => exact iff_of_true rfl (.inr (.inr (.inl hnumbers)))
      · next hnumbers =>
        split
        · next hoctets => exact iff_of_true rfl (.inr (.inr (.inr hoctets)))
        · next hoctets =>
          refine iff_of_false Bool.false_ne_true ?_
          rintro (h | h | h | h)
          · exact hone h
          · exact htexts h
          · exact hnumbers h
          · exact hoctets h

/-- Some of several keys that have an order have one as well. -/
theorem isSome_sortedKeys_of_sublist {keys more : List Key} (h : keys.Sublist more)
    (hmore : (sortedKeys more).isSome = true) : (sortedKeys keys).isSome = true := by
  rw [isSome_sortedKeys_iff] at hmore ⊢
  refine hmore.imp (Nat.le_trans h.length_le) (.imp ?_ (.imp ?_ ?_))
  all_goals exact fun hall k hk => hall k (h.subset hk)

/-- Texts can be put in order. -/
theorem isSome_sortedKeys {keys : List Key} (h : ∀ k ∈ keys, k.isText = true) : (sortedKeys keys).isSome = true :=
  isSome_sortedKeys_iff.2 (.inr (.inl h))

theorem isText_of_mem_undeclared {fields : List FieldBinding} {entries : List (Key × Value)}
    (h : hasTextKeys (.object entries) = true) : ∀ k ∈ undeclared fields entries, k.isText = true := by
  intro k hk
  obtain ⟨e, he, rfl⟩ := List.mem_map.1 (List.mem_filter.1 hk).1
  exact List.all_eq_true.1 h e he

/-! ## Decoding with remarks -/

/-- Whether a type leaves keys of a mapping in a payload aside that have no order. -/
def LeavesUnordered (types : Table TypeBinding) (p : Value) : Prop :=
  ∃ entries name type, .object entries ∈ p.parts ∧ types.find? name = some type ∧ type.isAbstract = false ∧
    sortedKeys (undeclared type.fields entries) = none

/-- Then some of the keys are no texts. -/
theorem LeavesUnordered.hasTextKeys {types : Table TypeBinding} {p : Value} (h : LeavesUnordered types p) :
    p.throughout hasTextKeys = false := by
  obtain ⟨entries, name, type, hmem, -, -, hkeys⟩ := h
  refine Value.throughout_eq_false_iff.2 ⟨_, hmem, ?_⟩
  rw [← Bool.not_eq_true]
  intro htexts
  have hordered : (sortedKeys (undeclared type.fields entries)).isSome = true :=
    isSome_sortedKeys (isText_of_mem_undeclared htexts)
  rw [hkeys] at hordered
  cases hordered

/-- Remarks can all be made if the keys of each have an order. -/
theorem entriesOf_snd (root : String) (given : List Remark) :
    (entriesOf root given).2 = given.all fun r => (sortedKeys r.keys).isSome := by
  induction given with
  | nil => rfl
  | cons r rest ih =>
    rw [entriesOf, Remark.entry, List.all_cons, ← ih]
    cases sortedKeys r.keys with
    | none => rfl
    | some keys => rfl

/-- A value comes out of decoding whether or not remarks are made on the way. -/
theorem decode_of_decodeLogged {threshold : Threshold} {types : Table TypeBinding} {root : String} {e : TypeExpr}
    {p v : Value} (h : (decodeLogged threshold types root e p).result = .ok v) :
    decode types types.size e p = .ok v := by
  rw [decodeLogged] at h
  split at h
  · split at h
    · exact h
    · cases h
  · exact h

/-- The log makes no difference, unless a remark is to be made on keys that have no order. -/
theorem decodeLogged_cases_of_remarks (threshold : Threshold) (types : Table TypeBinding) (root : String)
    (e : TypeExpr) (p : Value) :
    (decodeLogged threshold types root e p).result = decode types types.size e p ∨
      threshold.admits .debug = true ∧ LeavesUnordered types p ∧
        (decodeLogged threshold types root e p).result = .error (.fault .unorderedKeys) := by
  rw [decodeLogged]
  split
  · next hdebug =>
    split
    · exact .inl rfl
    · next hentries =>
      have hall := entriesOf_snd root (remarks types types.size e p)
      rw [hentries, eq_comm, List.all_eq_false] at hall
      obtain ⟨r, hr, hkeys⟩ := hall
      obtain ⟨entries, name, type, hmem, htype, hc, hown⟩ := exists_mapping_of_mem_remarks hr
      rw [hown, Bool.not_eq_true, Option.isSome_eq_false_iff, Option.isNone_iff_eq_none] at hkeys
      exact .inr ⟨hdebug, ⟨entries, name, type, hmem, htype, hc, hkeys⟩, rfl⟩
  · exact .inl rfl

/-- The log makes no difference, unless a remark is to be made on keys that are no texts. -/
theorem decodeLogged_cases (threshold : Threshold) (types : Table TypeBinding) (root : String) (e : TypeExpr)
    (p : Value) :
    (decodeLogged threshold types root e p).result = decode types types.size e p ∨
      threshold.admits .debug = true ∧ p.throughout hasTextKeys = false ∧
        (decodeLogged threshold types root e p).result = .error (.fault .unorderedKeys) := by
  refine (decodeLogged_cases_of_remarks threshold types root e p).imp_right ?_
  rintro ⟨hdebug, hunordered, hfault⟩
  exact ⟨hdebug, hunordered.hasTextKeys, hfault⟩

/-- The log makes no difference to what plain values come to. -/
theorem result_of_decodeLogged (threshold : Threshold) (types : Table TypeBinding) (root : String) (e : TypeExpr)
    {p : Value} (plain : p.throughout isPlain = true) :
    (decodeLogged threshold types root e p).result = decode types types.size e p := by
  refine (decodeLogged_cases threshold types root e p).resolve_right ?_
  rintro ⟨-, hkeys, -⟩
  rw [Value.throughout_mono (fun _ => hasTextKeys_of_isPlain) plain] at hkeys
  cases hkeys

end BotApi.Response
