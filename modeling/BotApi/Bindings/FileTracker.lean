import BotApi.Graph

/-!
# Types that carry files

An expression carries a file if the file type can be reached from it through arrays, unions, and the fields
and variants of the types it names. The search follows a name only once on each path; a tracker remembers
the answers for the names it was asked about.
-/

namespace BotApi.FileTracker

/-- The types that a path has not come to. -/
def unvisited (types : Table TypeNode) (path : List String) : Nat :=
  (types.names.filter fun name => !path.contains name).length

theorem length_filter_le_of_imp {α : Type} {p q : α → Bool} (h : ∀ x, q x = true → p x = true)
    (l : List α) : (l.filter q).length ≤ (l.filter p).length := by
  rw [← List.countP_eq_length_filter, ← List.countP_eq_length_filter]
  exact List.countP_mono_left fun x _ => h x

theorem length_filter_lt_of_imp {α : Type} {p q : α → Bool} (h : ∀ x, q x = true → p x = true)
    {a : α} {l : List α} (ha : a ∈ l) (hp : p a = true) (hq : ¬ q a = true) :
    (l.filter q).length < (l.filter p).length := by
  induction l with
  | nil => simp at ha
  | cons x rest ih =>
    rcases List.mem_cons.1 ha with rfl | hr
    · rw [List.filter_cons_of_pos hp, List.filter_cons_of_neg hq, List.length_cons]
      exact Nat.lt_succ_of_le (length_filter_le_of_imp h rest)
    · have := ih hr
      -- the head counts on both sides, on the longer side only, or on neither
      by_cases hx : q x = true
      · rw [List.filter_cons_of_pos hx, List.filter_cons_of_pos (h x hx)]
        simpa using this
      · rw [List.filter_cons_of_neg hx]
        rw [List.filter_cons]
        split
        · rw [List.length_cons]
          omega
        · exact this

theorem unvisited_lt {types : Table TypeNode} {path : List String} {name : String} {node : TypeNode}
    (hn : ¬ path.contains name = true) (hf : types.find? name = some node) :
    unvisited types (name :: path) < unvisited types path := by
  refine length_filter_lt_of_imp (fun x hx => ?_) (Table.mem_names_of_find? hf) (by simpa using hn)
    (by simp)
  simp only [List.contains_cons, Bool.not_or, Bool.and_eq_true] at hx
  exact hx.2

mutual

/-- Whether a file can be reached from an expression without coming back to a name of the path. `known`
holds answers of earlier searches. -/
def reaches (types : Table TypeNode) (known : Table Bool) (path : List String) : TypeExpr → Bool
  | .primitive p => p = .inputFile
  | .array item => reaches types known path item
  | .union options => reachesAny types known path options
  | .ref name =>
    -- a name on the path is being searched already
    if _hn : path.contains name then false
    else match known.find? name with
      | some answer => answer
      | none =>
        match _hf : types.find? name with
        | none => false
        | some node =>
          reachesAny types known (name :: path)
            (node.fields.map (·.type) ++ node.variants.map .ref)
termination_by e => (unvisited types path, e.size)
decreasing_by
  -- the item of an array, the options of a union
  · simp only [TypeExpr.size]
    exact Prod.Lex.right _ (by omega)
  · simp only [TypeExpr.size]
    exact Prod.Lex.right _ (by omega)
  -- a name that is new on the path leaves fewer types to come to
  · exact Prod.Lex.left _ _ (unvisited_lt _hn _hf)

/-- Whether a file can be reached from one of the expressions. -/
def reachesAny (types : Table TypeNode) (known : Table Bool) (path : List String) :
    List TypeExpr → Bool
  | [] => false
  | e :: rest => reaches types known path e || reachesAny types known path rest
termination_by es => (unvisited types path, TypeExpr.sizeOptions es)
decreasing_by
  · simp only [TypeExpr.sizeOptions]
    exact Prod.Lex.right _ (by omega)
  · simp only [TypeExpr.sizeOptions]
    exact Prod.Lex.right _ (by omega)

end

mutual

/-- Whether an expression carries a file, and what is known after the search. -/
def query (types : Table TypeNode) : TypeExpr → Table Bool → Bool × Table Bool
  | .primitive p, known => (p = .inputFile, known)
  | .array item, known => query types item known
  | .union options, known => queryAny types options known
  | .ref name, known =>
    match known.find? name with
    | some answer => (answer, known)
    | none =>
      -- answers inside the search are for its path only and are not kept
      let answer := reaches types known [] (.ref name)
      (answer, known.insert name answer)

/-- Whether one of the expressions carries a file. The search ends with the first that does. -/
def queryAny (types : Table TypeNode) : List TypeExpr → Table Bool → Bool × Table Bool
  | [], known => (false, known)
  | e :: rest, known =>
    match query types e known with
    | (true, known) => (true, known)
    | (false, known) => queryAny types rest known

end

/-- Whether an expression carries a file. -/
def carriesFile (types : Table TypeNode) (e : TypeExpr) : Bool :=
  (query types e .empty).1

end BotApi.FileTracker
