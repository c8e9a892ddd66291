import BotApi.Proofs.Lists
import BotApi.Table
import BotApi.Value.Mapping

/-!
# Values under text keys

What is found under a text after a value was put into a mapping, or several were, one after another. It is the last one
that was put there. This holds whether keys are compared as keys or as the values they stand for, as no other key stands
for a text.

## Main results

* `get?_putKey`, `get?_put` — what is found after one value was put.
* `get?_foldl` — what is found after several were.
* `get?_eq_some_iff_mem` — what is found where each key is there once.
* `Entries.lookup_of_perm` — there the order of the entries is of no account.
-/

namespace BotApi

/-- Where each key is there once, the same is found in whatever order the entries are. -/
theorem Entries.lookup_of_perm {κ α : Type} [DecidableEq κ] {entries moved : List (κ × α)} (order : entries.Perm moved)
    (hkeys : (entries.map Prod.fst).Nodup) (key : κ) : entries.lookup key = moved.lookup key := by
  have hmoved : (moved.map Prod.fst).Nodup := (order.map Prod.fst).nodup_iff.1 hkeys
  refine Option.ext fun a => ?_
  rw [lookup_eq_some_iff_mem hkeys, lookup_eq_some_iff_mem hmoved, order.mem_iff]

/-- No other key stands for a text. -/
theorem Key.common_eq_text_iff {k : Key} {key : String} : k.common = .text key ↔ k = .text key := by
  cases k with
  | float x =>
    rw [Key.common]
    split <;> simp
  | _ => simp [Key.common]

namespace Value

theorem get?_cons (k : Key) (v : Value) (rest : List (Key × Value)) (key : String) :
    get? ((k, v) :: rest) key = if k = .text key then some v else get? rest key := by
  split
  · next hk =>
    rw [hk]
    exact List.lookup_cons_self
  · next hk => exact Entries.lookup_cons_of_ne (Ne.symm hk) v rest

theorem get?_append (entries more : List (Key × Value)) (key : String) :
    get? (entries ++ more) key = (get? entries key).or (get? more key) :=
  List.lookup_append

theorem get?_putKey (k : Key) (v : Value) (entries : List (Key × Value)) (key : String) :
    get? (putKey k v entries) key = if k = .text key then some v else get? entries key := by
  induction entries with
  | nil => rw [putKey, get?_cons]
  | cons e rest ih =>
    obtain ⟨l, w⟩ := e
    rw [putKey]
    split
    · next hsame =>
      -- the key that is there stays, and it is the text if the other one is
      have hiff : l = .text key ↔ k = .text key := by
        rw [← Key.common_eq_text_iff, hsame, Key.common_eq_text_iff]
      rw [get?_cons, get?_cons]
      simp only [hiff]
      split <;> rfl
    · next hne =>
      rw [get?_cons, get?_cons, ih]
      split
      · next hl =>
        rw [if_neg]
        rintro rfl
        exact hne (by rw [hl])
      · rfl

theorem get?_put (k : Key) (v : Value) (entries : List (Key × Value)) (key : String) :
    get? (Entries.put k v entries) key = if k = .text key then some v else get? entries key := by
  rw [get?, Entries.lookup_put]
  simp only [eq_comm]
  rfl

/-- Of entries that are put one after another, the last one under a name counts, in whatever way they are put. -/
theorem get?_foldl {put : Key → Value → List (Key × Value) → List (Key × Value)} {key : String}
    (hput : ∀ k v done, get? (put k v done) key = if k = .text key then some v else get? done key)
    (entries done : List (Key × Value)) :
    get? (entries.foldl (fun done e => put e.1 e.2 done) done) key =
      (get? entries.reverse key).or (get? done key) := by
  induction entries generalizing done with
  | nil => rfl
  | cons e rest ih =>
    obtain ⟨k, v⟩ := e
    rw [List.foldl_cons, ih, hput, List.reverse_cons, get?_append, get?_cons, Option.or_assoc]
    split <;> rfl

/-- Where each key is there once, what is found under a text is what stands there. -/
theorem get?_eq_some_iff_mem {entries : List (Key × Value)} (hkeys : (entries.map Prod.fst).Nodup) {key : String}
    {v : Value} : get? entries key = some v ↔ (.text key, v) ∈ entries :=
  Entries.lookup_eq_some_iff_mem hkeys

/-! ## Fields of records -/

section

variable {fields others : List (FieldName × Value)}

/-- What a record lacks is up to its fields, and not to their values. -/
theorem lacks_eq (names : fields.map Prod.fst = others.map Prod.fst) (a : Ability) :
    lacks a others = lacks a fields := by
  have hlacks : ∀ fields : List (FieldName × Value), lacks a fields =
      (fields.map Prod.fst).any fun f => !f.required && a.special.contains f.name := by
    intro fields
    rw [lacks, List.any_map]
    rfl
  rw [hlacks, hlacks, names]

/-- Fields whose values are related have related values, or none, under each attribute. -/
theorem field?_rel {R : Value → Value → Prop} (h : List.Forall₂ (Paired R) fields others) (name : String) :
    Option.Rel R (field? name fields) (field? name others) := by
  induction h with
  | nil => exact .none
  | @cons e f rest more hpaired _ ih =>
    obtain ⟨n, v⟩ := e
    obtain ⟨n', w⟩ := f
    obtain ⟨hnames, hvw⟩ := hpaired
    have hnames : n = n' := hnames
    subst hnames
    by_cases hname : n.name = name
    · simp only [field?, List.find?_cons, hname, decide_true, Option.map_some]
      exact .some hvw
    · simp only [field?, List.find?_cons, hname, decide_false]
      exact ih

end

end Value

end BotApi
