import BotApi.Proofs.Response.Envelopes
import BotApi.Proofs.Response.Fitting

/-!
# What a mismatch blames

A payload that does not fit is refused with a place in it. The place is told by the payload and the expression alone:
on every level it is the first item or field that does not fit, and it lies where nothing smaller can be to blame,
which is never within the options of a union or of an abstract type. A required field that is missing is a place with
nothing in it.

## Main results

* `Blames.unique` — there is one such place at most.
* `blames_of_decode` — it is the place that decoding gives.
* `mismatch_blames_first_misfit` — so do the failures that are reported.
-/

namespace BotApi.Response

/-! ## Places -/

/-- Whether a payload fits or does not fit in one piece, as all do but lists at an array and mappings at a type with
records. -/
def isWhole (types : Table TypeBinding) : TypeExpr → Value → Bool
  | .array _, .list _ => false
  | .ref name, .object _ => (types.find? name).all TypeBinding.isAbstract
  | _, _ => true

/-- Whether a mapping has what a field asks for. -/
inductive FieldFits (types : Table TypeBinding) (f : FieldBinding) (entries : List (Key × Value)) : Prop
  | missing (optional : f.required = false) (get : Value.get? entries f.wireName = none)
  | null (optional : f.required = false) (get : Value.get? entries f.wireName = some .null)
  | value {p : Value} (get : Value.get? entries f.wireName = some p) (fits : Fits types f.type p)

/-- Whether the steps lead to the first part of a payload that does not fit, with the expression for that part and
what is there. All items before it on the way fit, and all fields that a type lists before it. -/
inductive Blames (types : Table TypeBinding) : TypeExpr → Value → List Step → TypeExpr → Option Value → Prop
  | here {e : TypeExpr} {p : Value} (whole : isWhole types e p = true) (misfit : ¬ Fits types e p) :
      Blames types e p [] e (some p)
  | item {item expected : TypeExpr} {before after : List Value} {p : Value} {trail : List Step}
      {found : Option Value} (fit : ∀ q ∈ before, Fits types item q)
      (blames : Blames types item p trail expected found) :
      Blames types (.array item) (.list (before ++ p :: after)) (.index before.length :: trail) expected found
  | field {name : String} {type : TypeBinding} {entries : List (Key × Value)} {before after : List FieldBinding}
      {f : FieldBinding} {p : Value} {trail : List Step} {expected : TypeExpr} {found : Option Value}
      (find : types.find? name = some type) (concrete : type.isAbstract = false)
      (fields : type.fields = before ++ f :: after) (fit : ∀ g ∈ before, FieldFits types g entries)
      (get : Value.get? entries f.wireName = some p) (required : p = .null → f.required = true)
      (blames : Blames types f.type p trail expected found) :
      Blames types (.ref name) (.object entries) (.key f.wireName :: trail) expected found
  | missing {name : String} {type : TypeBinding} {entries : List (Key × Value)} {before after : List FieldBinding}
      {f : FieldBinding} (find : types.find? name = some type) (concrete : type.isAbstract = false)
      (fields : type.fields = before ++ f :: after) (fit : ∀ g ∈ before, FieldFits types g entries)
      (get : Value.get? entries f.wireName = none) (required : f.required = true) :
      Blames types (.ref name) (.object entries) [.key f.wireName] f.type none

/-- The part of a payload that steps lead to. -/
def partAt? : Value → List Step → Option Value
  | v, [] => some v
  | .list items, .index i :: trail => items[i]? >>= fun v => partAt? v trail
  | .object entries, .key name :: trail => Value.get? entries name >>= fun v => partAt? v trail
  | _, _ :: _ => none

section

variable {types : Table TypeBinding} {name : String} {type : TypeBinding} {f : FieldBinding}
  {entries : List (Key × Value)} {e expected expected' : TypeExpr} {p q : Value} {trail trail' : List Step}
  {found found' : Option Value}

theorem ne_null_of_fits (h : Fits types e p) : p ≠ .null := by
  induction h with
  | primitive kind => cases kind <;> simp
  | items => simp
  | option _ _ ih => exact ih
  | variant _ _ _ ih => exact ih
  | fields => simp

/-- A mapping fits a type with records if each field fits. -/
theorem fits_object_iff (find : types.find? name = some type) (concrete : type.isAbstract = false) :
    Fits types (.ref name) (.object entries) ↔ ∀ f ∈ type.fields, FieldFits types f entries := by
  rw [fits_concrete_iff find concrete]
  -- what a mapping has to offer as a whole is told field by field
  constructor
  · rintro ⟨_, hentries, present, each⟩ f hf
    cases hentries
    cases hget : Value.get? entries f.wireName with
    | none =>
      refine .missing ?_ hget
      rw [← Bool.not_eq_true]
      intro hr
      obtain ⟨p, hp, -⟩ := present f hf hr
      rw [hget] at hp
      cases hp
    | some p =>
      by_cases hp : p = .null
      · subst hp
        refine .null ?_ hget
        rw [← Bool.not_eq_true]
        intro hr
        obtain ⟨q, hq, hnull⟩ := present f hf hr
        rw [hget, Option.some.injEq] at hq
        exact hnull hq.symm
      · exact .value hget (each f hf p hget hp)
  · refine fun h => ⟨entries, rfl, fun f hf hr => ?_, fun f hf p hget hp => ?_⟩
    · cases h f hf with
      | missing optional => simp [optional] at hr
      | null optional => simp [optional] at hr
      | value get fits => exact ⟨_, get, ne_null_of_fits fits⟩
    · cases h f hf with
      | missing _ get => simp [get] at hget
      | null _ get =>
        rw [get, Option.some.injEq] at hget
        exact (hp hget.symm).elim
      | value get fits =>
        rw [get, Option.some.injEq] at hget
        rwa [← hget]

theorem not_fieldFits_of_missing (get : Value.get? entries f.wireName = none) (required : f.required = true) :
    ¬ FieldFits types f entries := by
  intro h
  cases h with
  | missing optional => simp [required] at optional
  | null optional => simp [required] at optional
  | value get' => simp [get] at get'

theorem not_fieldFits_of_misfit (get : Value.get? entries f.wireName = some p)
    (required : p = .null → f.required = true) (misfit : ¬ Fits types f.type p) : ¬ FieldFits types f entries := by
  intro h
  cases h with
  | missing _ get' => simp [get] at get'
  | null optional get' =>
    rw [get, Option.some.injEq] at get'
    simp [required get'] at optional
  | value get' fits =>
    rw [get, Option.some.injEq] at get'
    exact misfit (get' ▸ fits)

namespace Blames

/-- A payload with a part to blame does not fit. -/
theorem not_fits (h : Blames types e p trail expected found) : ¬ Fits types e p := by
  induction h with
  | here _ misfit => exact misfit
  | item _ _ ih =>
    rw [fits_list_iff]
    exact fun h => ih (h _ (by simp))
  | field find concrete fields _ get required _ ih =>
    rw [fits_object_iff find concrete, fields]
    exact fun h => not_fieldFits_of_misfit get required ih (h _ (by simp))
  | missing find concrete fields _ get required =>
    rw [fits_object_iff find concrete, fields]
    exact fun h => not_fieldFits_of_missing get required (h _ (by simp))

/-- The steps lead to what is there. -/
theorem partAt?_eq (h : Blames types e p trail expected found) : partAt? p trail = found := by
  induction h with
  | here => rw [partAt?]
  | item _ _ ih => simp [partAt?, ih]
  | field _ _ _ _ get _ _ ih => simp [partAt?, get, ih]
  | missing _ _ _ _ get => simp [partAt?, get]

theorem of_whole (whole : isWhole types e p = true) (h : Blames types e p trail expected found) :
    trail = [] ∧ expected = e ∧ found = some p := by
  cases h with
  | here => exact ⟨rfl, rfl, rfl⟩
  | item => cases whole
  | field find concrete => simp [isWhole, find, concrete] at whole
  | missing find concrete => simp [isWhole, find, concrete] at whole

theorem of_list {item : TypeExpr} {ps : List Value} (h : Blames types (.array item) (.list ps) trail expected found) :
    ∃ before p after inner, ps = before ++ p :: after ∧ (∀ q ∈ before, Fits types item q) ∧
      Blames types item p inner expected found ∧ trail = .index before.length :: inner := by
  cases h with
  | here whole => cases whole
  | item fit blames => exact ⟨_, _, _, _, rfl, fit, blames, rfl⟩

theorem of_object (find : types.find? name = some type) (concrete : type.isAbstract = false)
    (h : Blames types (.ref name) (.object entries) trail expected found) :
    ∃ before f after, type.fields = before ++ f :: after ∧ (∀ g ∈ before, FieldFits types g entries) ∧
      ¬ FieldFits types f entries ∧
      ((∃ p inner, Value.get? entries f.wireName = some p ∧ Blames types f.type p inner expected found ∧
          trail = .key f.wireName :: inner) ∨
        (Value.get? entries f.wireName = none ∧ trail = [.key f.wireName] ∧ expected = f.type ∧ found = none)) := by
  cases h with
  | here whole => simp [isWhole, find, concrete] at whole
  | field find' _ fields fit get required blames =>
    rw [find, Option.some.injEq] at find'
    subst find'
    exact ⟨_, _, _, fields, fit, not_fieldFits_of_misfit get required blames.not_fits, .inl ⟨_, _, get, blames, rfl⟩⟩
  | missing find' _ fields fit get required =>
    rw [find, Option.some.injEq] at find'
    subst find'
    exact ⟨_, _, _, fields, fit, not_fieldFits_of_missing get required, .inr ⟨get, rfl, rfl, rfl⟩⟩

/-- There is one part to blame at most. -/
theorem unique (h : Blames types e p trail expected found) (h' : Blames types e p trail' expected' found') :
    trail = trail' ∧ expected = expected' ∧ found = found' := by
  -- all before the blamed part fits on either way, so both ways stop at the same item or field
  induction h generalizing trail' expected' found' with
  | here whole =>
    obtain ⟨rfl, rfl, rfl⟩ := h'.of_whole whole
    exact ⟨rfl, rfl, rfl⟩
  | item fit blames ih =>
    obtain ⟨before', p', after', inner, hsplit, fit', blames', rfl⟩ := h'.of_list
    obtain ⟨rfl, rfl, -⟩ := split_unique hsplit fit blames.not_fits fit' blames'.not_fits
    obtain ⟨rfl, hsame⟩ := ih blames'
    exact ⟨rfl, hsame⟩
  | field find concrete fields fit get required blames ih =>
    obtain ⟨before', f', after', fields', fit', misfit', hplace⟩ := h'.of_object find concrete
    have misfit := not_fieldFits_of_misfit get required blames.not_fits
    obtain ⟨rfl, rfl, -⟩ := split_unique (fields.symm.trans fields') fit misfit fit' misfit'
    rcases hplace with ⟨p', inner, get', blames', rfl⟩ | ⟨get', -⟩
    · rw [get, Option.some.injEq] at get'
      subst get'
      obtain ⟨rfl, hsame⟩ := ih blames'
      exact ⟨rfl, hsame⟩
    · simp [get] at get'
  | missing find concrete fields fit get required =>
    obtain ⟨before', f', after', fields', fit', misfit', hplace⟩ := h'.of_object find concrete
    have misfit : ¬ FieldFits types _ _ := not_fieldFits_of_missing get required
    obtain ⟨rfl, rfl, -⟩ := split_unique (fields.symm.trans fields') fit misfit fit' misfit'
    rcases hplace with ⟨p', inner, get', -⟩ | ⟨-, rfl, rfl, rfl⟩
    · simp [get] at get'
    · exact ⟨rfl, rfl, rfl⟩

end Blames

end

/-! ## The place of a mismatch -/

/-- What was found at a place, as it is reported. -/
def gotOf : Option Value → Got
  | some p => .kind p.kind
  | none => .nothing

section

variable {types : Table TypeBinding} {opens : Nat} {e : TypeExpr} {p : Value} {m : Mismatch}

theorem eq_of_asked_refuse {o : Option Obstruction} (h : Stop.asked o (.refuse e p) = .mismatch m) :
    m = ⟨[], e, gotOf (some p)⟩ := by
  cases o with
  | some o => cases h
  | none =>
    cases h
    rfl

/-- Options are refused as a whole. -/
theorem eq_of_decodeFirst {whole : TypeExpr} {options : List TypeExpr}
    (h : decodeFirst types opens whole options p = .error (.mismatch m)) : m = ⟨[], whole, gotOf (some p)⟩ := by
  induction options with
  | nil =>
    rw [decodeFirst] at h
    cases h
    rfl
  | cons e rest ih =>
    rw [decodeFirst] at h
    split at h
    · exact ih h
    · next hne => exact (hne m h).elim

/-- Items are refused with the first one that is. -/
theorem exists_first_of_decodeItems {item : TypeExpr} {i : Nat} {ps : List Value}
    (h : decodeItems types item i ps = .error (.mismatch m)) :
    ∃ before p after m', ps = before ++ p :: after ∧ (∀ q ∈ before, Fits types item q) ∧
      decode types types.size item p = .error (.mismatch m') ∧
      m = { m' with trail := .index (i + before.length) :: m'.trail } := by
  -- the induction is for every place at which the items may start in the whole list
  induction ps generalizing i with
  | nil =>
    rw [decodeItems] at h
    cases h
  | cons p rest ih =>
    rw [decodeItems, bind_eq_error_iff] at h
    rcases h with h | ⟨v, hv, h⟩
    · obtain ⟨s, hs, hstep⟩ := mapError_eq_error_iff.1 h
      obtain ⟨m', rfl⟩ := eq_mismatch_of_under hstep
      cases hstep
      exact ⟨[], p, rest, m', rfl, by simp, hs, rfl⟩
    · -- the first item has a value, so it fits, and another one is refused
      rcases bind_eq_error_iff.1 h with h | ⟨vs, -, h⟩
      · obtain ⟨before, q, after, m', rfl, fit, hq, rfl⟩ := ih h
        refine ⟨p :: before, q, after, m', rfl, List.forall_mem_cons.2 ⟨?_, fit⟩, hq, ?_⟩
        · exact fits_of_decode (mapError_eq_ok_iff.1 hv)
        · rw [List.length_cons, Nat.add_assoc, Nat.add_comm 1]
      · cases h

theorem fieldFits_of_fieldValue {f : FieldBinding} {entries : List (Key × Value)} {w : Value}
    (h : fieldValue types f entries = .ok w) : FieldFits types f entries := by
  rcases fieldValue_eq_ok_iff.1 h with ⟨hget, hr, -⟩ | ⟨hget, hr, -⟩ | ⟨p, hget, -, hw⟩
  · exact .missing hr hget
  · exact .null hr hget
  · exact .value hget (fits_of_decode hw)

/-- Fields are refused with the first one that is. -/
theorem exists_first_of_decodeFields {declared : List FieldBinding} {entries : List (Key × Value)}
    (h : decodeFields types declared entries = .error (.mismatch m)) :
    ∃ before f after m', declared = before ++ f :: after ∧ (∀ g ∈ before, FieldFits types g entries) ∧
      fieldValue types f entries = .error (.mismatch m') ∧
      m = { m' with trail := .key f.wireName :: m'.trail } := by
  induction declared with
  | nil =>
    rw [decodeFields] at h
    cases h
  | cons f rest ih =>
    rw [decodeFields_cons, bind_eq_error_iff] at h
    rcases h with h | ⟨w, hw, h⟩
    -- as for items
    · obtain ⟨s, hs, hstep⟩ := mapError_eq_error_iff.1 h
      obtain ⟨m', rfl⟩ := eq_mismatch_of_under hstep
      cases hstep
      exact ⟨[], f, rest, m', rfl, by simp, hs, rfl⟩
    · rcases bind_eq_error_iff.1 h with h | ⟨ws, -, h⟩
      · obtain ⟨before, g, after, m', rfl, fit, hg, rfl⟩ := ih h
        refine ⟨f :: before, g, after, m', rfl, List.forall_mem_cons.2 ⟨?_, fit⟩, hg, rfl⟩
        exact fieldFits_of_fieldValue (mapError_eq_ok_iff.1 hw)
      · cases h

/-- A field is refused if it is required and there is nothing or null, or with a part of its value. -/
theorem fieldValue_eq_mismatch_cases {f : FieldBinding} {entries : List (Key × Value)}
    (h : fieldValue types f entries = .error (.mismatch m)) :
    (f.required = true ∧ Value.get? entries f.wireName = none ∧ m = ⟨[], f.type, gotOf none⟩) ∨
      (f.required = true ∧ Value.get? entries f.wireName = some .null ∧ m = ⟨[], f.type, gotOf (some .null)⟩) ∨
      ∃ p, Value.get? entries f.wireName = some p ∧ p ≠ .null ∧
        decode types types.size f.type p = .error (.mismatch m) := by
  rw [fieldValue] at h
  split at h
  · next hget =>
    split at h
    · next hr =>
      cases h
      exact .inl ⟨hr, hget, rfl⟩
    · cases h
  · next hget =>
    split at h
    · next hr =>
      cases h
      exact .inr (.inl ⟨hr, hget, rfl⟩)
    · cases h
  · next p hp hget => exact .inr (.inr ⟨p, hget, hp, h⟩)

/-- What is refused where it stands is to blame itself. -/
theorem blames_here (whole : isWhole types e p = true) (misfit : ¬ Fits types e p)
    (hm : m = ⟨[], e, gotOf (some p)⟩) :
    ∃ found, Blames types e p m.trail m.expected found ∧ m.got = gotOf found := by
  rw [hm]
  exact ⟨some p, .here whole misfit, rfl⟩

/-- A mismatch has the place of the first part that does not fit. -/
theorem blames_of_decode (h : decode types opens e p = .error (.mismatch m)) :
    ∃ found, Blames types e p m.trail m.expected found ∧ m.got = gotOf found := by
  -- what fits is never refused, so whatever is refused in one piece is to blame itself
  have misfit : ¬ Fits types e p := fun hfits => not_refuses_of_fits hfits ⟨m, h⟩
  induction opens, e, p using decode_induction types generalizing m with
  | primitive opens r p =>
    rw [decode] at h
    split at h
    · cases h
    · exact blames_here rfl misfit (eq_of_asked_refuse (Except.error.inj h))
  | list opens item ps ih =>
    rw [decode_list, map_eq_error_iff] at h
    obtain ⟨before, p, after, m', rfl, fit, hp, rfl⟩ := exists_first_of_decodeItems h
    obtain ⟨found, hblames, hgot⟩ := ih p (by simp) hp fun hfits => not_refuses_of_fits hfits ⟨m', hp⟩
    rw [Nat.zero_add]
    exact ⟨found, .item fit hblames, hgot⟩
  | notList opens item p hp =>
    rw [decode_not_list hp] at h
    refine blames_here ?_ misfit (eq_of_asked_refuse (Except.error.inj h))
    cases p with
    | list ps => exact (hp ps rfl).elim
    | _ => rfl
  | union opens options p =>
    rw [decode_union] at h
    exact blames_here rfl misfit (eq_of_decodeFirst h)
  | unknown opens name p find =>
    rw [decode_unknown find] at h
    cases h
  | endless name type p find abstract =>
    rw [decode_endless find abstract] at h
    cases h
  | abstract opens name type p find abstract =>
    rw [decode_abstract find abstract] at h
    refine blames_here ?_ misfit (eq_of_decodeFirst h)
    cases p <;> simp [isWhole, find, abstract]
  | object opens name type entries find concrete ih =>
    rw [decode_object find concrete, bind_eq_error_iff] at h
    rcases h with h | ⟨fields, -, h⟩
    · obtain ⟨before, f, after, m', hsplit, fit, hf, rfl⟩ := exists_first_of_decodeFields h
      rcases fieldValue_eq_mismatch_cases hf with ⟨hr, hget, rfl⟩ | ⟨hr, hget, rfl⟩ | ⟨p, hget, hp, hmis⟩
      · exact ⟨none, .missing find concrete hsplit fit hget hr, rfl⟩
      · -- null fits nothing
        have hnull : ¬ Fits types f.type .null := fun hfits => ne_null_of_fits hfits rfl
        refine ⟨some .null, .field find concrete hsplit fit hget (fun _ => hr) (.here ?_ hnull), rfl⟩
        cases f.type <;> rfl
      · have hf : f ∈ type.fields := by simp [hsplit]
        obtain ⟨found, hblames, hgot⟩ :=
          ih f hf p hget hmis fun hfits => not_refuses_of_fits hfits ⟨m', hmis⟩
        exact ⟨found, .field find concrete hsplit fit hget (fun h => (hp h).elim) hblames, hgot⟩
    · -- a type without records is no mismatch
      unfold makeRecord at h
      split at h <;> cases h
  | notObject opens name type p find concrete hp =>
    rw [decode_not_object find concrete hp] at h
    refine blames_here ?_ misfit (eq_of_asked_refuse (Except.error.inj h))
    cases p with
    | object entries => exact (hp entries rfl).elim
    | _ => rfl

end

/-! ## What is reported -/

/-- Whether a failure reports the first part of a payload that does not fit, at a path from the root. -/
def ReportsBlame (types : Table TypeBinding) (asked root : String) (e : TypeExpr) (p : Value) (failure : Failure) :
    Prop :=
  ∃ trail expected found, Blames types e p trail expected found ∧ partAt? p trail = found ∧
    failure = .shape asked (trailText root trail) expected.toText ((gotOf found).toText Kind.wireName)

section

variable {types : Table TypeBinding} {threshold : Threshold} {e : TypeExpr} {p : Value} {m : Mismatch}
  {asked root : String}

theorem reportsBlame_of_decodeLogged (h : (decodeLogged threshold types root e p).result = .error (.mismatch m)) :
    ReportsBlame types asked root e p
      (.shape asked (trailText root m.trail) m.expected.toText (m.got.toText Kind.wireName)) := by
  rcases decodeLogged_cases threshold types root e p with hsame | ⟨-, -, hfault⟩
  · rw [hsame] at h
    obtain ⟨found, hblames, hgot⟩ := blames_of_decode h
    exact ⟨m.trail, m.expected, found, hblames, hblames.partAt?_eq, by rw [hgot]⟩
  · rw [hfault] at h
    cases h

end

/-- A mismatch, the failure of a call whose result does not fit, and that of an object on its own which does not fit,
all blame the first part that does not fit, with the expression for that part and what is there. -/
theorem mismatch_blames_first_misfit (types : Table TypeBinding) :
    (∀ opens e p m, decode types opens e p = .error (.mismatch m) →
      ∃ found, Blames types e p m.trail m.expected found ∧ partAt? p m.trail = found ∧ m.got = gotOf found) ∧
    (∀ threshold method envelope p failure, IsSuccess envelope p →
      (decodeEnvelope threshold types method envelope).result = .ok (.failed failure) →
        ReportsBlame types method.name "result" method.returns p failure) ∧
    ∀ threshold name p failure, (readObject threshold types name p).result = .error (.failed failure) →
      ReportsBlame types name name (.ref name) p failure := by
  refine ⟨?decoded, ?called, ?alone⟩
  case decoded =>
    intro opens e p m h
    obtain ⟨found, hblames, hgot⟩ := blames_of_decode h
    exact ⟨found, hblames, hblames.partAt?_eq, hgot⟩
  case called =>
    intro threshold method envelope p failure success h
    rw [decodeEnvelope_of_isSuccess success] at h
    cases hresult : (decodeLogged threshold types "result" method.returns p).result with
    | ok v =>
      rw [hresult] at h
      cases h
    | error stop =>
      cases stop with
      | fault f =>
        rw [hresult] at h
        cases h
      | mismatch m =>
        rw [hresult] at h
        cases h
        exact reportsBlame_of_decodeLogged hresult
  case alone =>
    intro threshold name p failure h
    cases find : types.find? name with
    | none =>
      rw [readObject_of_unknown find] at h
      cases h
    | some type =>
      rw [readObject_of_find? find] at h
      cases hresult : (decodeLogged threshold types name (.ref name) p).result with
      | ok v =>
        rw [hresult] at h
        cases h
      | error stop =>
        cases stop with
        | fault f =>
          rw [hresult] at h
          cases h
        | mismatch m =>
          rw [hresult] at h
          cases h
          exact reportsBlame_of_decodeLogged hresult

/-! ### Rows of points -/

/-- Rows of points, and of numbers in the place of some. -/
def rowsExpr : TypeExpr := .array (.array (.union [.ref "Point", .primitive .integer]))

/-- Rows whose last point has a text for a number. A later row is no array at all. -/
def rowsPayload : Value :=
  .list [.list [pointPayload], .list [.int 1, .object [(.text "x", .text "far")], .null], .bool true]

/-- Decoding blames the whole point, which is one of the options of a union, and not its number. Of points on their
own it blames the number. -/
theorem mismatch_blames_first_misfit_rows :
    (decode pointTypes 3 rowsExpr rowsPayload =
        .error (.mismatch ⟨[.index 1, .index 1], .union [.ref "Point", .primitive .integer], .kind .object⟩) ∧
      ∃ found, Blames pointTypes rowsExpr rowsPayload [.index 1, .index 1]
          (.union [.ref "Point", .primitive .integer]) found ∧
        partAt? rowsPayload [.index 1, .index 1] = found ∧ Got.kind .object = gotOf found) ∧
    ((readObject .all pointTypes "Point" (.object [(.text "y", .null)])).result =
        .error (.failed (.shape "Point" "Point.x" "Integer" "nothing")) ∧
      ReportsBlame pointTypes "Point" "Point" (.ref "Point") (.object [(.text "y", .null)])
        (.shape "Point" "Point.x" "Integer" "nothing")) := by
  have hrows : decode pointTypes 3 rowsExpr rowsPayload =
      .error (.mismatch ⟨[.index 1, .index 1], .union [.ref "Point", .primitive .integer], .kind .object⟩) := by
    cbv
  have hpoint : (readObject .all pointTypes "Point" (.object [(.text "y", .null)])).result =
      .error (.failed (.shape "Point" "Point.x" "Integer" "nothing")) := by
    cbv
  obtain ⟨hdecoded, -, halone⟩ := mismatch_blames_first_misfit pointTypes
  exact ⟨⟨hrows, hdecoded 3 rowsExpr rowsPayload _ hrows⟩, hpoint, halone .all "Point" _ _ hpoint⟩

end BotApi.Response
