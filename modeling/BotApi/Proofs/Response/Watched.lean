import BotApi.Proofs.Response.Remarks
import BotApi.Proofs.Search

/-!
# Decoding that watches its remarks

Where the log takes remarks, one that cannot be made ends the decoding, whatever would have come after it. So decoding
with its remarks is a decoding of its own, which goes through items, fields and options as plain decoding does and may
also stop between them.

## Main results

* `result_of_decodeLogged_eq` — what decoding with a log comes to.
* `watchedItems_cons`, `watchedFields_cons`, `watched_object` — one step of it.
* `isSearch_watched` — at options and variants it is a search.
-/

namespace BotApi.Response

open Request (orNext)

/-- Whether remarks can be made: the keys of each have an order. -/
def canMake (rs : List Remark) : Bool := rs.all fun r => (sortedKeys r.keys).isSome

/-- A result after remarks. If they are made, one that cannot be made takes its place. -/
def heeding {α : Type} (strict : Bool) (rs : List Remark) (x : Except Stop α) : Except Stop α :=
  if strict && !canMake rs then .error (.fault .unorderedKeys) else x

section

variable {α β : Type} {strict : Bool}

theorem heeding_nil (x : Except Stop α) : heeding strict [] x = x := by
  rw [heeding, canMake]
  simp

theorem canMake_append (rs more : List Remark) : canMake (rs ++ more) = (canMake rs && canMake more) :=
  List.all_append

theorem canMake_map_under (rs : List Remark) (step : Step) : canMake (rs.map (·.under step)) = canMake rs := by
  rw [canMake, canMake, List.all_map]
  rfl

theorem heeding_under (rs : List Remark) (step : Step) (x : Except Stop α) :
    heeding strict (rs.map (·.under step)) (under step x) = under step (heeding strict rs x) := by
  rw [heeding, heeding, canMake_map_under]
  split <;> rfl

theorem heeding_map (rs : List Remark) (f : α → β) (x : Except Stop α) :
    heeding strict rs (f <$> x) = f <$> heeding strict rs x := by
  rw [heeding, heeding]
  split <;> rfl

/-- Remarks on what comes after a value are made only if there is one. -/
theorem heeding_bind (rs more : List Remark) (x : Except Stop α) (f : α → Except Stop β) :
    heeding strict (rs ++ if succeeds x then more else []) (x >>= f) =
      heeding strict rs x >>= fun a => heeding strict more (f a) := by
  cases x with
  | ok a =>
    rw [heeding, heeding, canMake_append]
    cases strict <;> cases canMake rs <;> simp [heeding, succeeds] <;> rfl
  | error s =>
    rw [heeding, heeding, canMake_append]
    cases strict <;> cases canMake rs <;> simp [canMake, succeeds] <;> rfl

/-- Remarks on further options are made only if an option refuses. -/
theorem heeding_orNext (rs more : List Remark) (x y : Except Stop α) :
    heeding strict (rs ++ if goesOn x then more else []) (orNext x y) =
      orNext (heeding strict rs x) (heeding strict more y) := by
  have hdone : canMake [] = true := rfl
  rw [heeding, heeding, heeding, canMake_append]
  cases x with
  | ok a => cases strict <;> cases canMake rs <;> simp [goesOn, orNext, hdone]
  | error s =>
    cases s with
    | fault f => cases strict <;> cases canMake rs <;> simp [goesOn, orNext, hdone]
    | mismatch m => cases strict <;> cases canMake rs <;> simp [goesOn, orNext]

theorem succeeds_under (step : Step) (x : Except Stop α) : succeeds (under step x) = succeeds x := by
  cases x <;> rfl

end

/-! ## One step at a time -/

/-- Decoding with its remarks. -/
def watched (strict : Bool) (types : Table TypeBinding) (opens : Nat) (e : TypeExpr) (p : Value) :
    Except Stop Value :=
  heeding strict (remarks types opens e p) (decode types opens e p)

/-- Decoding of items with their remarks. -/
def watchedItems (strict : Bool) (types : Table TypeBinding) (item : TypeExpr) (i : Nat) (ps : List Value) :
    Except Stop (List Value) :=
  heeding strict (remarksOfItems types item i ps) (decodeItems types item i ps)

/-- Decoding of fields with their remarks. -/
def watchedFields (strict : Bool) (types : Table TypeBinding) (fields : List FieldBinding)
    (entries : List (Key × Value)) : Except Stop (List (FieldName × Value)) :=
  heeding strict (remarksOfFields types fields entries) (decodeFields types fields entries)

/-- The value of a field with its remarks. -/
def watchedValue (strict : Bool) (types : Table TypeBinding) (f : FieldBinding) (entries : List (Key × Value)) :
    Except Stop Value :=
  match Value.get? entries f.wireName with
  | none => if f.required then .error (.mismatch ⟨[], f.type, .nothing⟩) else .ok .absent
  | some .null => if f.required then .error (.refuse f.type .null) else .ok .null
  | some p => watched strict types types.size f.type p

section

variable {strict : Bool} {types : Table TypeBinding}

theorem result_of_decodeLogged_eq (threshold : Threshold) (types : Table TypeBinding) (root : String) (e : TypeExpr)
    (p : Value) :
    (decodeLogged threshold types root e p).result =
      watched (threshold.admits .debug) types types.size e p := by
  have hall := entriesOf_snd root (remarks types types.size e p)
  rw [decodeLogged, watched, heeding, canMake, ← hall]
  cases threshold.admits .debug with
  | false => rfl
  | true =>
    rw [if_pos rfl]
    split
    · next hentries =>
      rw [hentries]
      rfl
    · next hentries =>
      rw [hentries]
      rfl

theorem watched_list (opens : Nat) (item : TypeExpr) (ps : List Value) :
    watched strict types opens (.array item) (.list ps) = .tuple <$> watchedItems strict types item 0 ps := by
  rw [watched, remarks, decode_list, heeding_map, watchedItems]

theorem watched_not_list {p : Value} (hp : ∀ ps, p ≠ .list ps) (opens : Nat) (item : TypeExpr) :
    watched strict types opens (.array item) p = .error (.asked p.accessObstruction? (.refuse (.array item) p)) := by
  rw [watched, decode_not_list hp, remarks.eq_def]
  cases p with
  | list ps => exact absurd rfl (hp ps)
  | _ => exact heeding_nil _

theorem watchedItems_nil (item : TypeExpr) (i : Nat) : watchedItems strict types item i [] = .ok [] := by
  rw [watchedItems, remarksOfItems, heeding_nil, decodeItems]

theorem watchedItems_cons (item : TypeExpr) (i : Nat) (p : Value) (rest : List Value) :
    watchedItems strict types item i (p :: rest) = (do
      let v ← under (.index i) (watched strict types types.size item p)
      let vs ← watchedItems strict types item (i + 1) rest
      pure (v :: vs)) := by
  rw [watchedItems, remarksOfItems, decodeItems, ← succeeds_under (.index i), heeding_bind, heeding_under, watched]
  refine bind_congr fun v => ?_
  exact heeding_map _ (v :: ·) _

theorem watchedFields_nil (entries : List (Key × Value)) : watchedFields strict types [] entries = .ok [] := by
  rw [watchedFields, remarksOfFields, heeding_nil, decodeFields]

theorem watchedFields_cons (f : FieldBinding) (rest : List FieldBinding) (entries : List (Key × Value)) :
    watchedFields strict types (f :: rest) entries = (do
      let w ← under (.key f.wireName) (watchedValue strict types f entries)
      let ws ← watchedFields strict types rest entries
      pure ((f.names, w) :: ws)) := by
  -- the remarks on the field itself, which it has only if it has a value
  have hremarks : ∃ rs : List Remark,
      remarksOfFields types (f :: rest) entries = rs.map (·.under (.key f.wireName)) ++
        (if succeeds (fieldValue types f entries) then remarksOfFields types rest entries else []) ∧
      heeding strict rs (fieldValue types f entries) = watchedValue strict types f entries := by
    rw [remarksOfFields, fieldValue, watchedValue]
    split
    · next hget =>
      refine ⟨[], ?_, ?_⟩
      · rw [hget]
        cases f.required <;> rfl
      · rw [hget, heeding_nil]
    · next hget =>
      refine ⟨[], ?_, ?_⟩
      · rw [hget]
        cases f.required <;> rfl
      · rw [hget, heeding_nil]
    · next p hp hget =>
      rw [hget]
      cases p with
      | null => exact absurd rfl hp
      | _ => exact ⟨_, rfl, rfl⟩
  obtain ⟨rs, hrs, hvalue⟩ := hremarks
  rw [watchedFields, hrs, decodeFields_cons, ← succeeds_under (.key f.wireName), heeding_bind, heeding_under, hvalue]
  refine bind_congr fun w => ?_
  exact heeding_map _ ((f.names, w) :: ·) _

/-- The remark on a mapping itself is made after those on its fields. -/
theorem watched_object {name : String} {type : TypeBinding} (htype : types.find? name = some type)
    (hc : type.isAbstract = false) (opens : Nat) (entries : List (Key × Value)) :
    watched strict types opens (.ref name) (.object entries) =
      watchedFields strict types type.fields entries >>= fun fields =>
        heeding strict [⟨[], undeclared type.fields entries⟩] (makeRecord name type fields) := by
  have hown : ∀ x : Except Stop Value,
      heeding strict
          (if (undeclared type.fields entries).isEmpty then [] else [⟨[], undeclared type.fields entries⟩]) x =
        heeding strict [⟨[], undeclared type.fields entries⟩] x := by
    intro x
    split
    · next hempty =>
      rw [List.isEmpty_iff.1 hempty, heeding_nil, heeding]
      simp [canMake, sortedKeys]
    · rfl
  rw [watched, remarks, htype]
  simp only [hc, Bool.false_eq_true, if_false]
  rw [decode_object htype hc, watchedFields]
  simp only [← hown]
  rw [← heeding_bind]
  congr 2
  cases succeeds (decodeFields types type.fields entries) <;>
    cases (undeclared type.fields entries).isEmpty <;> rfl

theorem watched_not_object {name : String} {type : TypeBinding} {p : Value} (htype : types.find? name = some type)
    (hc : type.isAbstract = false) (hp : ∀ entries, p ≠ .object entries) (opens : Nat) :
    watched strict types opens (.ref name) p = .error (.asked p.classObstruction? (.refuse (.ref name) p)) := by
  rw [watched, decode_not_object htype hc hp, remarks.eq_def]
  dsimp only
  rw [htype]
  simp only [hc, Bool.false_eq_true, if_false]
  cases p with
  | object entries => exact absurd rfl (hp entries)
  | _ => exact heeding_nil _

theorem watched_options (opens : Nat) (whole : TypeExpr) (options : List TypeExpr) (p : Value) :
    heeding strict (remarksOfOptions types opens options p) (decodeFirst types opens whole options p) =
      firstOf (fun e => watched strict types opens e p) (.refuse whole p) options := by
  induction options with
  | nil => rw [remarksOfOptions, decodeFirst, heeding_nil, firstOf]
  | cons e rest ih =>
    have hfirst : decodeFirst types opens whole (e :: rest) p =
        orNext (decode types opens e p) (decodeFirst types opens whole rest p) := by
      rw [decodeFirst]
      cases decode types opens e p with
      | ok v => rfl
      | error s => cases s <;> rfl
    rw [remarksOfOptions, hfirst, heeding_orNext, ih, firstOf, watched]

theorem watched_primitive (opens : Nat) (r : Primitive) (p : Value) :
    watched strict types opens (.primitive r) p = if admits r p then .ok p else .error (refusePrimitive r p) := by
  rw [watched, remarks, heeding_nil, decode]

theorem watched_unknown {name : String} (find : types.find? name = none) (opens : Nat) (p : Value) :
    watched strict types opens (.ref name) p = .error (.fault (.unknownType name)) := by
  rw [watched, decode_unknown find, remarks, find]
  exact heeding_nil _

/-- At one payload, decoding with remarks is a search. -/
theorem isSearch_watched (strict : Bool) (types : Table TypeBinding) (p : Value) :
    IsSearch types (fun e => .refuse e p) fun n e => watched strict types n e p where
  primitive r n m := by
    rw [watched_primitive, watched_primitive]
  array item n m := by
    cases p with
    | list ps => rw [watched_list, watched_list]
    | _ => rw [watched_not_list (by simp), watched_not_list (by simp)]
  union options n := by
    rw [watched, remarks, decode_union, watched_options]
  unknown find n m := by
    rw [watched_unknown find, watched_unknown find]
  concrete {name type} find hc n m := by
    cases p with
    | object entries => rw [watched_object find hc, watched_object find hc]
    | _ => rw [watched_not_object find hc (by simp), watched_not_object find hc (by simp)]
  endless find ha := by
    rw [watched, decode_endless find ha, remarks, find]
    simp only [ha, if_true]
    exact heeding_nil _
  opened find ha n := by
    rw [watched, decode_abstract find ha, remarks, find]
    simp only [ha, if_true]
    exact watched_options n _ _ p

end

end BotApi.Response
