/-!
# Tables

A table names values and keeps the names in the order of their first insertion. A name that is inserted
again keeps its place and takes the new value.

## Main results

* `Entries.keys_put` — what putting a value does to the keys.
* `Entries.lookup_put`, `Table.find?_insert` — what it does to the values.
* `Entries.lookup_foldl_put`, `Table.find?_ofList` — what stands under a key once several values were put.
* `Entries.merge_of_nodup` — entries without repeated keys are merged already.
* `Entries.mem_of_mem_merge` — merging makes no new entries.
* `Table.find?_map`, `Table.exists_of_find?_mapM`, `Table.exists_of_find?_mapS_of_inv` — what stands under a name in
  a table that was made from another.
-/

namespace BotApi

/-! ## Lists of entries -/

namespace Entries

variable {κ α : Type} [DecidableEq κ]

/-- The value goes under the key: in its place if the key is there, at the end otherwise. -/
def put (key : κ) (a : α) : List (κ × α) → List (κ × α)
  | [] => [(key, a)]
  | (k, b) :: rest => if k = key then (k, a) :: rest else (k, b) :: put key a rest

/-- The value under a key. -/
def find? (key : κ) (entries : List (κ × α)) : Option α := entries.lookup key

/-- The entries put one after another, so that no key stands twice. -/
def merge (entries : List (κ × α)) : List (κ × α) :=
  entries.foldl (fun done e => put e.1 e.2 done) []

theorem keys_put (key : κ) (a : α) (entries : List (κ × α)) :
    (put key a entries).map Prod.fst =
      if key ∈ entries.map Prod.fst then entries.map Prod.fst
      else entries.map Prod.fst ++ [key] := by
  induction entries with
  | nil => simp [put]
  | cons e rest ih =>
    obtain ⟨k, b⟩ := e
    rw [put]
    by_cases h : k = key
    · simp [h]
    · have h' : ¬ key = k := fun e => h e.symm
      simp only [if_neg h, List.map_cons, ih, List.mem_cons, h', false_or]
      split <;> simp

theorem nodup_put (key : κ) (a : α) {entries : List (κ × α)}
    (h : (entries.map Prod.fst).Nodup) : ((put key a entries).map Prod.fst).Nodup := by
  rw [keys_put]
  split
  · exact h
  · next hn =>
    rw [List.nodup_append]
    exact ⟨h, by simp, fun x hx y hy e => hn (by simp_all)⟩

theorem lookup_cons_of_ne {key other : κ} (h : other ≠ key) (a : α) (entries : List (κ × α)) :
    ((key, a) :: entries).lookup other = entries.lookup other := by
  rw [List.lookup_cons, beq_eq_false_iff_ne.2 h]

/-- Where each key is there once, what is found under a key is what stands there. -/
theorem lookup_eq_some_iff_mem {entries : List (κ × α)} (hkeys : (entries.map Prod.fst).Nodup) {key : κ} {a : α} :
    entries.lookup key = some a ↔ (key, a) ∈ entries := by
  rw [List.lookup_eq_some_iff]
  constructor
  · rintro ⟨before, after, rfl, -⟩
    simp
  · intro h
    obtain ⟨before, after, rfl⟩ := List.append_of_mem h
    refine ⟨before, after, rfl, fun e he => ?_⟩
    rw [List.map_append, List.map_cons, List.nodup_append] at hkeys
    rw [bne_iff_ne]
    exact fun heq => hkeys.2.2 _ (List.mem_map_of_mem he) _ (List.mem_cons_self ..) heq.symm

theorem lookup_put (key other : κ) (a : α) (entries : List (κ × α)) :
    (put key a entries).lookup other =
      if other = key then some a else entries.lookup other := by
  induction entries with
  | nil =>
    by_cases h : other = key
    · simp [put, h]
    · simp [put, lookup_cons_of_ne h, h]
  | cons e rest ih =>
    obtain ⟨k, b⟩ := e
    rw [put]
    by_cases hk : k = key
    -- the value goes in the place of the head
    · subst hk
      by_cases h : other = k
      · simp [h]
      · simp [lookup_cons_of_ne h, h]
    -- the value goes further on, and the head stays
    · rw [if_neg hk]
      by_cases h : other = k
      · subst h
        simp [hk]
      · simp [lookup_cons_of_ne h, ih]

/-- Of values that are put under one key, the last one counts. -/
theorem lookup_foldl_put (rest done : List (κ × α)) (key : κ) :
    (rest.foldl (fun done e => put e.1 e.2 done) done).lookup key = (rest.reverse.lookup key).or (done.lookup key) := by
  induction rest generalizing done with
  | nil => rfl
  | cons e rest ih =>
    rw [List.foldl_cons, ih, lookup_put, List.reverse_cons, List.lookup_append]
    by_cases h : key = e.1
    · subst h
      rw [if_pos rfl, List.lookup_cons_self, Option.or_assoc, Option.some_or]
    · rw [if_neg h, lookup_cons_of_ne h, List.lookup_nil, Option.or_none]

theorem put_of_not_mem {key : κ} (a : α) {entries : List (κ × α)} (h : key ∉ entries.map Prod.fst) :
    put key a entries = entries ++ [(key, a)] := by
  induction entries with
  | nil => rfl
  | cons e rest ih =>
    rw [List.map_cons, List.mem_cons, not_or] at h
    rw [put, if_neg fun he => h.1 he.symm, ih h.2, List.cons_append]

/-- Entries in which no key stands twice stay as they are. -/
theorem merge_of_nodup {entries : List (κ × α)} (h : (entries.map Prod.fst).Nodup) :
    merge entries = entries := by
  -- what is done so far and what is still to come have no key in common
  have hfold : ∀ rest done : List (κ × α), ((done ++ rest).map Prod.fst).Nodup →
      rest.foldl (fun done e => put e.1 e.2 done) done = done ++ rest := by
    intro rest
    induction rest with
    | nil =>
      intro done _
      rw [List.foldl_nil, List.append_nil]
    | cons e rest ih =>
      intro done hn
      have hnot : e.1 ∉ done.map Prod.fst := by
        rw [List.map_append, List.nodup_append] at hn
        exact fun hm => hn.2.2 e.1 hm e.1 (by simp) rfl
      rw [List.foldl_cons, put_of_not_mem e.2 hnot, ih (done ++ [e]) (by simpa using hn),
        List.append_assoc, List.singleton_append]
  have := hfold entries [] h
  rwa [List.nil_append] at this

theorem mem_put {key : κ} {a : α} {entries : List (κ × α)} {e : κ × α} (h : e ∈ put key a entries) :
    e = (key, a) ∨ e ∈ entries := by
  induction entries with
  | nil => exact .inl (List.mem_singleton.1 h)
  | cons first rest ih =>
    rw [put] at h
    split at h
    -- the new entry is in the place of the first one, or further on
    · next hk =>
      subst hk
      exact (List.mem_cons.1 h).imp_right (List.mem_cons_of_mem _)
    · rcases List.mem_cons.1 h with rfl | h
      · exact .inr (List.mem_cons_self ..)
      · exact (ih h).imp_right (List.mem_cons_of_mem _)

theorem mem_foldl_put {rest done : List (κ × α)} {e : κ × α}
    (h : e ∈ rest.foldl (fun done e => put e.1 e.2 done) done) : e ∈ done ∨ e ∈ rest := by
  induction rest generalizing done with
  | nil => exact .inl h
  | cons first rest ih =>
    rw [List.foldl_cons] at h
    rcases ih h with h | h
    · rcases mem_put h with rfl | h
      · exact .inr (List.mem_cons_self ..)
      · exact .inl h
    · exact .inr (List.mem_cons_of_mem _ h)

/-- Merged entries are among the entries. -/
theorem mem_of_mem_merge {entries : List (κ × α)} {e : κ × α} (h : e ∈ merge entries) : e ∈ entries :=
  (mem_foldl_put h).resolve_left List.not_mem_nil

end Entries

/-! ## Tables -/

/-- Named values in order, no name twice. -/
structure Table (α : Type) where
  entries : List (String × α)
  nodup : (entries.map Prod.fst).Nodup
  deriving DecidableEq

namespace Table

variable {α β : Type}

/-- The names, in order. -/
def names (t : Table α) : List String := t.entries.map Prod.fst

/-- The values, in the order of their names. -/
def values (t : Table α) : List α := t.entries.map Prod.snd

/-- How many names there are. -/
def size (t : Table α) : Nat := t.entries.length

/-- The value under a name. -/
def find? (t : Table α) (name : String) : Option α := t.entries.lookup name

/-- Whether the name has a value. -/
def contains (t : Table α) (name : String) : Bool := (t.find? name).isSome

/-- The table without names. -/
def empty : Table α := ⟨[], List.nodup_nil⟩

/-- The table with a value under the name. -/
def insert (t : Table α) (name : String) (a : α) : Table α :=
  ⟨Entries.put name a t.entries, Entries.nodup_put name a t.nodup⟩

/-- The table of named values, inserted one after another. -/
def ofList (entries : List (String × α)) : Table α :=
  entries.foldl (fun t e => t.insert e.1 e.2) empty

/-- Each value replaced by a function of its name and itself. -/
def map (f : String → α → β) (t : Table α) : Table β :=
  ⟨t.entries.map fun e => (e.1, f e.1 e.2), by simpa [Function.comp_def] using t.nodup⟩

/-- The results of a function on each entry in turn, up to the first failure. -/
def mapEntriesM {ε : Type} (f : String → α → Except ε β) :
    List (String × α) → Except ε (List (String × β))
  | [] => .ok []
  | (name, a) :: rest => do
    let b ← f name a
    let done ← mapEntriesM f rest
    pure ((name, b) :: done)

theorem names_mapEntriesM {ε : Type} {f : String → α → Except ε β} {entries : List (String × α)}
    {done : List (String × β)} (h : mapEntriesM f entries = .ok done) :
    done.map Prod.fst = entries.map Prod.fst := by
  induction entries generalizing done with
  | nil =>
    cases h
    rfl
  | cons e rest ih =>
    obtain ⟨name, a⟩ := e
    rw [mapEntriesM] at h
    cases hf : f name a with
    | error e => simp [hf, bind, Except.bind] at h
    | ok b =>
      cases hr : mapEntriesM f rest with
      | error e => simp [hf, hr, bind, Except.bind] at h
      | ok more =>
        simp only [hf, hr, bind, Except.bind, pure, Except.pure, Except.ok.injEq] at h
        subst h
        simp [ih hr]

/-- The table of the results of a function on each entry, or the first failure. -/
def mapM {ε : Type} (f : String → α → Except ε β) (t : Table α) : Except ε (Table β) :=
  match h : mapEntriesM f t.entries with
  | .error e => .error e
  | .ok entries => .ok ⟨entries, by rw [names_mapEntriesM h]; exact t.nodup⟩

/-- The results of a function on each entry in turn, which hands a state on. -/
def mapEntriesS {σ : Type} (f : String → α → σ → β × σ) : List (String × α) → σ → List (String × β)
  | [], _ => []
  | (name, a) :: rest, s =>
    let (b, s) := f name a s
    (name, b) :: mapEntriesS f rest s

theorem names_mapEntriesS {σ : Type} (f : String → α → σ → β × σ) (entries : List (String × α)) (s : σ) :
    (mapEntriesS f entries s).map Prod.fst = entries.map Prod.fst := by
  induction entries generalizing s with
  | nil => rfl
  | cons e rest ih => simp [mapEntriesS, ih]

/-- The table of the results of a function that hands a state on. -/
def mapS {σ : Type} (f : String → α → σ → β × σ) (t : Table α) (s : σ) : Table β :=
  ⟨mapEntriesS f t.entries s, by rw [names_mapEntriesS]; exact t.nodup⟩

/-- Whether two tables name the same values, in whatever order. -/
def agrees (same : α → α → Bool) (t u : Table α) : Bool :=
  t.size = u.size && t.entries.all fun e =>
    match u.find? e.1 with
    | some b => same e.2 b
    | none => false

theorem eq_of_entries {t u : Table α} (h : t.entries = u.entries) : t = u := by
  cases t
  cases u
  cases h
  rfl

/-- A name that a list of entries has, it has with the value of one of them. -/
theorem mem_of_find? {t : Table α} {name : String} {a : α} (h : t.find? name = some a) :
    (name, a) ∈ t.entries := by
  obtain ⟨before, after, he, -⟩ := List.lookup_eq_some_iff.1 h
  rw [he]
  simp

theorem mem_names_of_find? {t : Table α} {name : String} {a : α} (h : t.find? name = some a) :
    name ∈ t.names := by
  exact List.mem_map_of_mem (f := Prod.fst) (mem_of_find? h)

theorem exists_find?_of_mem_names {t : Table α} {name : String} (h : name ∈ t.names) :
    ∃ a, t.find? name = some a := by
  cases hf : t.find? name with
  | some a => exact ⟨a, rfl⟩
  | none =>
    obtain ⟨e, he, rfl⟩ := List.mem_map.1 h
    have hne := List.lookup_eq_none_iff.1 hf e he
    simp at hne

theorem mem_names_of_contains {t : Table α} {name : String} (h : t.contains name = true) : name ∈ t.names := by
  obtain ⟨a, ha⟩ := Option.isSome_iff_exists.1 h
  exact mem_names_of_find? ha

theorem length_names (t : Table α) : t.names.length = t.size := List.length_map ..

/-! ### Look-up in derived tables -/

theorem names_map (f : String → α → β) (t : Table α) : (t.map f).names = t.names := by
  rw [names, map, List.map_map]
  rfl

theorem find?_map (f : String → α → β) (t : Table α) (name : String) :
    (t.map f).find? name = (t.find? name).map (f name) := by
  have hentries : ∀ entries : List (String × α),
      (entries.map fun e => (e.1, f e.1 e.2)).lookup name = (entries.lookup name).map (f name) := by
    intro entries
    induction entries with
    | nil => rfl
    | cons e rest ih =>
      rw [List.map_cons]
      by_cases h : name = e.1
      · rw [h, List.lookup_cons_self, List.lookup_cons, beq_self_eq_true]
        rfl
      · rw [List.lookup_cons, List.lookup_cons, beq_eq_false_iff_ne.2 h]
        exact ih
  exact hentries t.entries

theorem entries_of_mapM {ε : Type} {f : String → α → Except ε β} {t : Table α} {u : Table β}
    (h : t.mapM f = .ok u) : mapEntriesM f t.entries = .ok u.entries := by
  unfold mapM at h
  split at h
  · cases h
  · next entries hentries =>
    cases h
    exact hentries

theorem names_of_mapM {ε : Type} {f : String → α → Except ε β} {t : Table α} {u : Table β}
    (h : t.mapM f = .ok u) : u.names = t.names :=
  names_mapEntriesM (entries_of_mapM h)

theorem exists_of_lookup_mapEntriesM {ε : Type} {f : String → α → Except ε β} {entries : List (String × α)}
    {done : List (String × β)} {name : String} {b : β} (h : mapEntriesM f entries = .ok done)
    (hb : done.lookup name = some b) : ∃ a, entries.lookup name = some a ∧ f name a = .ok b := by
  induction entries generalizing done with
  | nil =>
    cases h
    cases hb
  | cons e rest ih =>
    obtain ⟨other, a⟩ := e
    rw [mapEntriesM] at h
    cases hf : f other a with
    | error e => simp [hf, bind, Except.bind] at h
    | ok c =>
      cases hr : mapEntriesM f rest with
      | error e => simp [hf, hr, bind, Except.bind] at h
      | ok more =>
        simp only [hf, hr, bind, Except.bind, pure, Except.pure, Except.ok.injEq] at h
        subst h
        by_cases hn : name = other
        · subst hn
          rw [List.lookup_cons_self, Option.some.injEq] at hb
          subst hb
          exact ⟨a, List.lookup_cons_self, hf⟩
        · rw [Entries.lookup_cons_of_ne hn] at hb ⊢
          exact ih hr hb

/-- What stands under a name in the table of results is the result of what stands there in the table. -/
theorem exists_of_find?_mapM {ε : Type} {f : String → α → Except ε β} {t : Table α} {u : Table β} {name : String}
    {b : β} (h : t.mapM f = .ok u) (hb : u.find? name = some b) :
    ∃ a, t.find? name = some a ∧ f name a = .ok b :=
  exists_of_lookup_mapEntriesM (entries_of_mapM h) hb

theorem exists_of_lookup_mapEntriesS {σ : Type} {f : String → α → σ → β × σ} (inv : σ → Prop)
    (hstep : ∀ name a s, inv s → inv (f name a s).2) {entries : List (String × α)} {s : σ} (hs : inv s)
    {name : String} {b : β} (h : (mapEntriesS f entries s).lookup name = some b) :
    ∃ a s', inv s' ∧ entries.lookup name = some a ∧ (f name a s').1 = b := by
  induction entries generalizing s with
  | nil => cases h
  | cons e rest ih =>
    obtain ⟨other, a⟩ := e
    rw [mapEntriesS] at h
    by_cases hn : name = other
    · subst hn
      rw [List.lookup_cons_self, Option.some.injEq] at h
      exact ⟨a, s, hs, List.lookup_cons_self, h⟩
    · rw [Entries.lookup_cons_of_ne hn] at h
      rw [Entries.lookup_cons_of_ne hn]
      exact ih (hstep other a s hs) h

/-- What stands under a name was made from what stood there, in a state with all that each step keeps. -/
theorem exists_of_find?_mapS_of_inv {σ : Type} {f : String → α → σ → β × σ} (inv : σ → Prop)
    (hstep : ∀ name a s, inv s → inv (f name a s).2) {t : Table α} {s : σ} (hs : inv s) {name : String} {b : β}
    (h : (t.mapS f s).find? name = some b) :
    ∃ a s', inv s' ∧ t.find? name = some a ∧ (f name a s').1 = b :=
  exists_of_lookup_mapEntriesS inv hstep hs h

theorem exists_of_find?_mapS {σ : Type} {f : String → α → σ → β × σ} {t : Table α} {s : σ} {name : String}
    {b : β} (h : (t.mapS f s).find? name = some b) :
    ∃ a s', t.find? name = some a ∧ (f name a s').1 = b := by
  obtain ⟨a, s', -, ha, hb⟩ := exists_of_find?_mapS_of_inv (fun _ => True) (fun _ _ _ _ => trivial) trivial h
  exact ⟨a, s', ha, hb⟩

/-- Insertion changes the value of the inserted name, and of no other. -/
theorem find?_insert (t : Table α) (name other : String) (a : α) :
    (t.insert name a).find? other = if other = name then some a else t.find? other :=
  Entries.lookup_put name other a t.entries

theorem entries_foldl_insert (entries : List (String × α)) (t : Table α) :
    (entries.foldl (fun t e => t.insert e.1 e.2) t).entries =
      entries.foldl (fun done e => Entries.put e.1 e.2 done) t.entries := by
  induction entries generalizing t with
  | nil => rfl
  | cons e rest ih =>
    rw [List.foldl_cons, List.foldl_cons, ih]
    rfl

theorem entries_ofList (entries : List (String × α)) : (ofList entries).entries = Entries.merge entries :=
  entries_foldl_insert entries empty

/-- Of values that are inserted under one name, the last one counts. -/
theorem find?_ofList (entries : List (String × α)) (name : String) :
    (ofList entries).find? name = entries.reverse.lookup name := by
  rw [find?, entries_ofList, Entries.merge, Entries.lookup_foldl_put]
  exact Option.or_none

/-- What all entries with a name agree on is found under it. -/
theorem find?_ofList_of_forall {entries : List (String × α)} {name : String} {a : α} (hm : (name, a) ∈ entries)
    (hall : ∀ e ∈ entries, e.1 = name → e.2 = a) : (ofList entries).find? name = some a := by
  rw [find?_ofList]
  cases hlookup : entries.reverse.lookup name with
  | none =>
    have hne := List.lookup_eq_none_iff.1 hlookup (name, a) (List.mem_reverse.2 hm)
    simp at hne
  | some found =>
    obtain ⟨before, after, he, -⟩ := List.lookup_eq_some_iff.1 hlookup
    have hfound : (name, found) ∈ entries := by
      rw [← List.mem_reverse, he]
      simp
    exact congrArg some (hall _ hfound rfl)

end Table

end BotApi
