import BotApi.Proofs.Bindings.Reachable
import BotApi.Proofs.Request.Faults
import BotApi.Proofs.Response.Watched
import BotApi.Response.Envelope
import Mathlib

/-!
# What a method depends on

A method is bound to what its documentation says, and the types of its parameters and of its result lead on to others.
Nothing else in a schema has a say in what comes of its calls: neither further types and methods nor the order in which
any of them are declared. The one thing that all types share is their number, which limits how many abstract types are
opened at a value, and there are always enough of these.

## Main results

* `isScope_reachedFrom` — what is reached from the types of a method is closed, and names types that there are.
* `inPlace_endsAlike`, `watched_endsAlike` — conversions and decoding by collections with the same types in a scope.
* `encode_endsAlike`, `read_endsAlike` — calls and responses of a method all of which is in the scope.
* `method_depends_on_reached` — two schemas with the same method and the same types that it reaches.
-/

namespace BotApi

/-! ## Common types -/

/-- Whether two collections of types have the same ones in a scope. -/
structure Shared (types types' : Table TypeBinding) (scope : TypeExpr → Prop) : Prop extends IsScope types scope where
  same {name : String} (h : scope (.ref name)) : types'.find? name = types.find? name

/-- There are at least as many types as can come up. -/
theorem IsScope.length_le {types : Table TypeBinding} {scope : TypeExpr → Prop} (closed : IsScope types scope)
    {names : List String} (hnodup : names.Nodup) (hnames : ∀ name ∈ names, scope (.ref name)) :
    names.length ≤ types.size := by
  rw [← Table.length_names]
  refine hnodup.length_le_of_subset fun name hm => ?_
  obtain ⟨type, htype⟩ := closed.named (hnames name hm)
  exact Table.mem_names_of_find? htype

namespace Shared

variable {types types' : Table TypeBinding} {scope : TypeExpr → Prop}

/-- The scope is one of the other types as well. -/
theorem isScope (shared : Shared types types' scope) : IsScope types' scope where
  item := shared.item
  option := shared.option
  named h := by
    rw [shared.same h]
    exact shared.named h
  field {_ _} h find {_} hf := by
    rw [shared.same h] at find
    exact shared.field h find hf
  variant {_ _} h find {_} he := by
    rw [shared.same h] at find
    exact shared.variant h find he

/-- What ends alike with as many openings as one collection has types does so if each has its own number. -/
theorem endsAlike_sizes (shared : Shared types types' scope) {α : Type} {refusal : TypeExpr → Stop}
    {out : Nat → TypeExpr → Except Stop α} (search : IsSearch types' refusal out) {e : TypeExpr} (he : scope e)
    {x : Except Stop α} (h : EndsAlike Stop.IsEndless x (out types.size e)) :
    EndsAlike Stop.IsEndless x (out types'.size e) :=
  h.trans (search.endsAlike shared.isScope (fun _ => shared.toIsScope.length_le)
    (fun _ => shared.isScope.length_le) he)

end Shared

/-! ## Conversions -/

namespace Request

theorem inPlaceFirst_eq (types : Table TypeBinding) (opens : Nat) (whole : TypeExpr) (options : List TypeExpr)
    (v : Value) :
    inPlaceFirst types opens whole options v =
      firstOf (fun e => inPlace types opens e v) (.refuseArgument whole v) options := by
  induction options with
  | nil => rw [inPlaceFirst, firstOf]
  | cons e rest ih => rw [inPlaceFirst, firstOf, ih]

/-- At one value, a conversion is a search. -/
theorem isSearch_inPlace (types : Table TypeBinding) (v : Value) :
    IsSearch types (fun e => .refuseArgument e v) fun n e => inPlace types n e v where
  primitive p n m := by rw [inPlace, inPlace]
  array item n m := by rw [inPlace.eq_def, inPlace.eq_def]
  union options n := by rw [inPlace, inPlaceFirst_eq]
  unknown find n m := by rw [inPlace_unknown find, inPlace_unknown find]
  concrete find hc n m := by rw [inPlace_concrete find hc, inPlace_concrete find hc]
  endless find ha := inPlace_endless find ha v
  opened find ha n := by rw [inPlace_abstract find ha, inPlaceFirst_eq]

section

variable {types types' : Table TypeBinding} {scope : TypeExpr → Prop}

theorem inPlaceItems_endsAlike {item : TypeExpr} {items : List Value}
    (h : ∀ v ∈ items, EndsAlike Stop.IsEndless (inPlace types types.size item v)
      (inPlace types' types'.size item v)) (i : Nat) :
    EndsAlike Stop.IsEndless (inPlaceItems types item i items) (inPlaceItems types' item i items) := by
  induction items generalizing i with
  | nil =>
    rw [inPlaceItems, inPlaceItems]
    exact .refl _
  | cons v rest ih =>
    obtain ⟨hfirst, hrest⟩ := List.forall_mem_cons.1 h
    rw [inPlaceItems, inPlaceItems]
    exact (hfirst.under _).bind fun first => (ih hrest (i + 1)).map (first :: ·)

theorem inPlaceFields_endsAlike {fields : List FieldBinding} {entries : List (Key × Value)}
    (h : ∀ f ∈ fields, ∀ v, given? entries f.wireName = some v →
      EndsAlike Stop.IsEndless (inPlace types types.size f.type v) (inPlace types' types'.size f.type v)) :
    EndsAlike Stop.IsEndless (inPlaceFields types fields entries) (inPlaceFields types' fields entries) := by
  induction fields with
  | nil =>
    rw [inPlaceFields, inPlaceFields]
    exact .refl _
  | cons f rest ih =>
    obtain ⟨hfirst, hrest⟩ := List.forall_mem_cons.1 h
    have ih := ih hrest
    rw [inPlaceFields_cons, inPlaceFields_cons]
    cases hgiven : given? entries f.wireName with
    | none =>
      cases f.required with
      | true => exact .refl _
      | false => exact ih
    | some v => exact ((hfirst v hgiven).under _).bind fun first => ih.map ((Key.text f.wireName, first) :: ·)

/-- Conversions by the same types end alike. -/
theorem inPlace_endsAlike (shared : Shared types types' scope) (opens : Nat) {e : TypeExpr} (he : scope e)
    (v : Value) : EndsAlike Stop.IsEndless (inPlace types opens e v) (inPlace types' opens e v) := by
  induction opens, e, v using conversion_induction with
  | primitive opens p v =>
    rw [inPlace, inPlace]
    exact .refl _
  | array opens item v smaller =>
    have hitems : ∀ items, Value.sizeItems items < v.size → EndsAlike Stop.IsEndless
        (Value.list <$> inPlaceItems types item 0 items) (Value.list <$> inPlaceItems types' item 0 items) := by
      intro items hsize
      refine (inPlaceItems_endsAlike (fun w hw => ?_) 0).map Value.list
      have hlt := Value.size_lt_of_mem_items hw
      have hitem := shared.item he
      exact shared.endsAlike_sizes (isSearch_inPlace types' w) hitem (smaller w (by omega) types.size item hitem)
    rw [inPlace.eq_def, inPlace.eq_def]
    cases v with
    | list items => exact hitems items (by rw [Value.size]; omega)
    | tuple items => exact hitems items (by rw [Value.size]; omega)
    | _ => exact .refl _
  | union opens options v ih =>
    rw [inPlace, inPlace, inPlaceFirst_eq, inPlaceFirst_eq]
    exact firstOf_endsAlike fun e hm => ih e hm (shared.option he hm)
  | ref opens name v smaller fewer =>
    obtain ⟨type, htype⟩ := shared.named he
    have htype' : types'.find? name = some type := by rw [shared.same he, htype]
    cases ha : type.isAbstract with
    | true =>
      cases opens with
      | zero =>
        rw [inPlace_endless htype ha, inPlace_endless htype' ha]
        exact .refl _
      | succ opens =>
        rw [inPlace_abstract htype ha, inPlace_abstract htype' ha, inPlaceFirst_eq, inPlaceFirst_eq]
        exact firstOf_endsAlike fun e hm => fewer opens (Nat.lt_succ_self opens) e (shared.variant he htype hm)
    | false =>
      rw [inPlace_concrete htype ha, inPlace_concrete htype' ha]
      cases hentries : entriesFor name v with
      | error stop => exact .refl _
      | ok entries =>
        dsimp only
        split
        · exact .refl _
        · refine (inPlaceFields_endsAlike fun f hf w hw => ?_).map Value.object
          -- a field of what the value offers is smaller than the value
          have hlt := Nat.lt_trans (size_lt_of_given? hw) (sizeEntries_lt_of_entriesFor hentries)
          have hfield := shared.field he htype hf
          exact shared.endsAlike_sizes (isSearch_inPlace types' w) hfield (smaller w hlt types.size f.type hfield)

/-- Whether a call failed for want of openings. -/
def EncodeError.IsEndless (e : EncodeError) : Prop := ∃ name, e = .fault (.endless name)

theorem inPlaceAll_endsAlike (shared : Shared types types' scope) {supply : List (FieldBinding × Value)}
    (h : ∀ e ∈ supply, scope e.1.type) :
    EndsAlike EncodeError.IsEndless (inPlaceAll types supply) (inPlaceAll types' supply) := by
  induction supply with
  | nil => exact .refl _
  | cons e rest ih =>
    obtain ⟨p, v⟩ := e
    obtain ⟨hfirst, hrest⟩ := List.forall_mem_cons.1 h
    have hplaced := shared.endsAlike_sizes (isSearch_inPlace types' v) hfirst
      (inPlace_endsAlike shared types.size hfirst v)
    have hrefusal : ∀ s : Stop, s.IsEndless → (refusal p.wireName s).IsEndless := by
      rintro s ⟨name, rfl⟩
      exact ⟨name, rfl⟩
    rw [inPlaceAll, inPlaceAll]
    exact (hplaced.mapError hrefusal).bind fun first => (ih hrest).map ((p.wireName, first) :: ·)

/-- Calls to a method that is in the scope end alike. -/
theorem encode_endsAlike (shared : Shared types types' scope) {method : MethodBinding}
    (h : ∀ p ∈ method.params, scope p.type) (arguments : Arguments) :
    EndsAlike EncodeError.IsEndless (encode types method arguments) (encode types' method arguments) := by
  rw [encode_eq_bind, encode_eq_bind]
  cases hsupply : collect method arguments with
  | error e => exact .refl _
  | ok supply =>
    refine (inPlaceAll_endsAlike shared fun e he => ?_).bind fun placed => .refl _
    exact h e.1 (argument?_of_mem_collect hsupply he).1

end

end Request

/-! ## Responses -/

namespace Response

section

variable {strict : Bool} {types types' : Table TypeBinding} {scope : TypeExpr → Prop}

theorem watchedItems_endsAlike {item : TypeExpr} {ps : List Value}
    (h : ∀ p ∈ ps, EndsAlike Stop.IsEndless (watched strict types types.size item p)
      (watched strict types' types'.size item p)) (i : Nat) :
    EndsAlike Stop.IsEndless (watchedItems strict types item i ps) (watchedItems strict types' item i ps) := by
  induction ps generalizing i with
  | nil =>
    rw [watchedItems_nil, watchedItems_nil]
    exact .refl _
  | cons p rest ih =>
    obtain ⟨hfirst, hrest⟩ := List.forall_mem_cons.1 h
    rw [watchedItems_cons, watchedItems_cons]
    exact (hfirst.under _).bind fun v => (ih hrest (i + 1)).map (v :: ·)

theorem watchedFields_endsAlike {fields : List FieldBinding} {entries : List (Key × Value)}
    (h : ∀ f ∈ fields, ∀ p, Value.get? entries f.wireName = some p →
      EndsAlike Stop.IsEndless (watched strict types types.size f.type p)
        (watched strict types' types'.size f.type p)) :
    EndsAlike Stop.IsEndless (watchedFields strict types fields entries)
      (watchedFields strict types' fields entries) := by
  induction fields with
  | nil =>
    rw [watchedFields_nil, watchedFields_nil]
    exact .refl _
  | cons f rest ih =>
    obtain ⟨hfirst, hrest⟩ := List.forall_mem_cons.1 h
    have hvalue : EndsAlike Stop.IsEndless (watchedValue strict types f entries)
        (watchedValue strict types' f entries) := by
      rw [watchedValue, watchedValue]
      split
      · exact .refl _
      · exact .refl _
      · next p _ hget => exact hfirst p hget
    rw [watchedFields_cons, watchedFields_cons]
    exact (hvalue.under _).bind fun w => (ih hrest).map ((f.names, w) :: ·)

/-- Decoding by the same types ends alike. -/
theorem watched_endsAlike (shared : Shared types types' scope) (opens : Nat) {e : TypeExpr} (he : scope e)
    (p : Value) :
    EndsAlike Stop.IsEndless (watched strict types opens e p) (watched strict types' opens e p) := by
  induction opens, e, p using decode_induction types with
  | primitive opens r p =>
    rw [watched, watched, remarks, remarks, decode, decode]
    exact .refl _
  | list opens item ps ih =>
    rw [watched_list, watched_list]
    refine (watchedItems_endsAlike (fun p hp => ?_) 0).map Value.tuple
    have hitem := shared.item he
    exact shared.endsAlike_sizes (isSearch_watched strict types' p) hitem (ih p hp hitem)
  | notList opens item p hp =>
    rw [watched_not_list hp, watched_not_list hp]
    exact .refl _
  | union opens options p ih =>
    have hfirst : ∀ other, watched strict other opens (.union options) p =
        firstOf (fun e => watched strict other opens e p) (.refuse (.union options) p) options :=
      fun other => (isSearch_watched strict other p).union options opens
    rw [hfirst, hfirst]
    exact firstOf_endsAlike fun e hm => ih e hm (shared.option he hm)
  | unknown opens name p htype =>
    obtain ⟨type, hsome⟩ := shared.named he
    rw [htype] at hsome
    cases hsome
  | endless name type p htype ha =>
    have htype' : types'.find? name = some type := by rw [shared.same he, htype]
    rw [(isSearch_watched strict types p).endless htype ha, (isSearch_watched strict types' p).endless htype' ha]
    exact .refl _
  | abstract opens name type p htype ha ih =>
    have htype' : types'.find? name = some type := by rw [shared.same he, htype]
    have hopened := (isSearch_watched strict types p).opened htype ha opens
    have hopened' := (isSearch_watched strict types' p).opened htype' ha opens
    rw [hopened, hopened']
    exact firstOf_endsAlike fun e hm => ih e hm (shared.variant he htype hm)
  | object opens name type entries htype hc ih =>
    have htype' : types'.find? name = some type := by rw [shared.same he, htype]
    rw [watched_object htype hc, watched_object htype' hc]
    refine (watchedFields_endsAlike fun f hf p hp => ?_).bind fun fields => .refl _
    have hfield := shared.field he htype hf
    exact shared.endsAlike_sizes (isSearch_watched strict types' p) hfield (ih f hf p hp hfield)
  | notObject opens name type p htype hc hp =>
    have htype' : types'.find? name = some type := by rw [shared.same he, htype]
    rw [watched_not_object htype hc hp, watched_not_object htype' hc hp]
    exact .refl _

/-- Whether a response has no outcome for want of openings. -/
def Breakdown.IsEndless (b : Breakdown) : Prop := ∃ name, b = .fault (.endless name)

/-- What the outcome of a call depends on is what comes of the result in its response. -/
theorem decodeResult_endsAlike {threshold : Threshold} {method : MethodBinding} {p : Value}
    (h : EndsAlike Stop.IsEndless (decodeLogged threshold types "result" method.returns p).result
      (decodeLogged threshold types' "result" method.returns p).result) :
    EndsAlike Breakdown.IsEndless (decodeResult threshold types method p).result
      (decodeResult threshold types' method p).result := by
  rw [decodeResult, decodeResult]
  rcases h with heq | ⟨⟨_, hx, name, rfl⟩, ⟨_, hy, other, rfl⟩⟩
  · rw [heq]
    left
    cases (decodeLogged threshold types' "result" method.returns p).result with
    | ok v => rfl
    | error s => cases s <;> rfl
  · rw [hx, hy]
    exact .inr ⟨⟨_, rfl, name, rfl⟩, ⟨_, rfl, other, rfl⟩⟩

/-- Responses to calls of a method that is in the scope end alike. -/
theorem read_endsAlike (shared : Shared types types' scope) {method : MethodBinding} (h : scope method.returns)
    (threshold : Threshold) (raw : Value) :
    EndsAlike Breakdown.IsEndless (read threshold types method raw).result
      (read threshold types' method raw).result := by
  have hresult : ∀ p, EndsAlike Breakdown.IsEndless (decodeResult threshold types method p).result
      (decodeResult threshold types' method p).result := by
    intro p
    refine decodeResult_endsAlike ?_
    rw [result_of_decodeLogged_eq, result_of_decodeLogged_eq]
    exact shared.endsAlike_sizes (isSearch_watched _ types' p) h (watched_endsAlike shared types.size h p)
  rw [read, read]
  cases load raw with
  | error e => cases e <;> exact .refl _
  | ok envelope =>
    dsimp only
    -- the types count only for the result of a success
    rw [decodeEnvelope.eq_def, decodeEnvelope.eq_def]
    dsimp only
    split
    · split
      · split
        · exact hresult _
        · exact .refl _
      · exact .refl _
      · exact .refl _
    · exact .refl _

end

end Response

/-! ## Schemas -/

/-- Where the types of a method start: the types of its parameters and that of its result. -/
def MethodSpec.roots (spec : MethodSpec) : List TypeExpr :=
  (spec.fields.map fun f => .ofTexts f.types) ++ [.ofTexts spec.returns]

/-- Whether an expression is reached from some of the given ones. -/
def ReachedFrom (below : String → List TypeExpr) (roots : List TypeExpr) (e : TypeExpr) : Prop :=
  ∃ root ∈ roots, Reaches below root e

/-- What is reached from expressions that mention types of a collection mentions types of it, too. -/
theorem closed_of_reaches {types : Table TypeBinding} (resolved : Resolved types) {root e : TypeExpr}
    (closed : Closed types root) (h : Reaches (below TypeBinding.mentions types) root e) : Closed types e := by
  induction h with
  | refl => exact closed
  | tail _ hstep ih =>
    cases hstep with
    | item => exact ih.item
    | option he => exact ih.option he
    | named he =>
      obtain ⟨type, htype, he⟩ := mem_below_iff.1 he
      rcases mem_mentions_iff.1 he with ⟨f, hf, rfl⟩ | ⟨variant, hvariant, rfl⟩
      · exact resolved.fields _ type htype f hf
      · exact resolved.variant htype hvariant

/-- What is reached from such expressions is a scope. -/
theorem isScope_reachedFrom {types : Table TypeBinding} (resolved : Resolved types) {roots : List TypeExpr}
    (closed : ∀ root ∈ roots, Closed types root) :
    IsScope types (ReachedFrom (below TypeBinding.mentions types) roots) where
  item := by
    rintro item ⟨root, hroot, h⟩
    exact ⟨root, hroot, h.tail (.item item)⟩
  option := by
    rintro options e ⟨root, hroot, h⟩ he
    exact ⟨root, hroot, h.tail (.option he)⟩
  named := by
    rintro name ⟨root, hroot, h⟩
    exact Table.exists_find?_of_mem_names (closed_of_reaches resolved (closed root hroot) h).mem_names
  field := by
    rintro name type ⟨root, hroot, h⟩ find f hf
    exact ⟨root, hroot, h.tail (.named (mem_below_iff.2 ⟨type, find, mem_mentions_iff.2 (.inl ⟨f, hf, rfl⟩)⟩))⟩
  variant := by
    rintro name type ⟨root, hroot, h⟩ find e he
    exact ⟨root, hroot, h.tail (.named (mem_below_iff.2 ⟨type, find, List.mem_append_right _ he⟩))⟩

section

variable {schema schema' : Schema} {b b' : Bindings}

/-- A type is bound in the same way wherever it is documented in the same way. -/
theorem find?_types_congr (hb : (Bindings.build schema).result = .ok b)
    (hb' : (Bindings.build schema').result = .ok b') {name : String}
    (h : schema'.types.find? name = schema.types.find? name) : b'.types.find? name = b.types.find? name := by
  cases htype : b.types.find? name with
  | none =>
    cases htype' : b'.types.find? name with
    | none => rfl
    | some type' =>
      obtain ⟨spec', hspec', -⟩ := Bindings.type_of_build hb' htype'
      rw [h, Bindings.find?_eq_none_of_build hb htype] at hspec'
      cases hspec'
  | some type =>
    obtain ⟨spec, hspec, hbind, -⟩ := Bindings.type_of_build hb htype
    cases htype' : b'.types.find? name with
    | none =>
      rw [Bindings.find?_eq_none_of_build hb' htype', hspec] at h
      cases h
    | some type' =>
      obtain ⟨spec', hspec', hbind', -⟩ := Bindings.type_of_build hb' htype'
      rw [hspec', hspec, Option.some.injEq] at h
      rw [h, hbind] at hbind'
      rw [Except.ok.inj hbind']

/-- Two schemas may have all sorts of types and methods in any order. If they have a method that is documented in the
same way, and document the types in the same way that one comes to from its parameters and its result, then the method
is bound to the same thing in both, each call of it comes to the same request or fails in the same way, and so does
each response. If a call or a response runs through an abstract type that leads back to itself, it does so in both. -/
theorem method_depends_on_reached (hb : (Bindings.build schema).result = .ok b)
    (hb' : (Bindings.build schema').result = .ok b') {name : String} {spec : MethodSpec}
    (hspec : schema.methods.find? name = some spec) (hspec' : schema'.methods.find? name = some spec)
    (hagree : ∀ root ∈ spec.roots, ∀ type, Reaches (below TypeSpec.mentions schema.types) root (.ref type) →
      schema'.types.find? type = schema.types.find? type) :
    ∃ method, b.method? name = some method ∧ b'.method? name = some method ∧
      (∀ arguments, EndsAlike Request.EncodeError.IsEndless (Request.encode b.types method arguments)
        (Request.encode b'.types method arguments)) ∧
      ∀ threshold raw, EndsAlike Response.Breakdown.IsEndless (Response.read threshold b.types method raw).result
        (Response.read threshold b'.types method raw).result := by
  obtain ⟨flag, hmethod, hflag⟩ := Bindings.method?_of_build hb hspec
  obtain ⟨flag', hmethod', hflag'⟩ := Bindings.method?_of_build hb' hspec'
  -- both find a way to the file type or none does
  have hsame : flag' = flag := by
    rw [Bool.eq_iff_iff, hflag', hflag]
    refine exists_congr fun f => and_congr_right fun hf => Reaches.congr fun type htype => ?_
    have hroot : TypeExpr.ofTexts f.types ∈ spec.roots := List.mem_append_left _ (List.mem_map_of_mem hf)
    rw [below, below, hagree _ hroot type htype]
  subst hsame
  obtain ⟨hparams, hreturns⟩ := Bindings.closed_of_method hb hmethod
  -- the parameters and the result of the method as it is bound are those of its documentation
  have hroots : ∀ root ∈ spec.roots, Closed b.types root := by
    intro root hroot
    rcases List.mem_append.1 hroot with hroot | hroot
    · obtain ⟨f, hf, rfl⟩ := List.mem_map.1 hroot
      exact hparams (.ofField (Graph.fieldOf f)) (List.mem_map_of_mem (List.mem_map_of_mem hf))
    · rw [List.mem_singleton.1 hroot]
      exact hreturns
  have shared : Shared b.types b'.types (ReachedFrom (below TypeBinding.mentions b.types) spec.roots) :=
    { isScope_reachedFrom (Bindings.resolved_of_build hb) hroots with
      same := by
        rintro type ⟨root, hroot, htype⟩
        rw [Bindings.below_of_build hb] at htype
        exact find?_types_congr hb hb' (hagree root hroot type htype) }
  refine ⟨_, hmethod, hmethod', fun arguments => ?_, fun threshold raw => ?_⟩
  · refine Request.encode_endsAlike shared (fun p hp => ?_) arguments
    obtain ⟨field, hfield, rfl⟩ := List.mem_map.1 hp
    obtain ⟨f, hf, rfl⟩ := List.mem_map.1 hfield
    exact ⟨.ofTexts f.types, List.mem_append_left _ (List.mem_map_of_mem hf), .refl⟩
  · refine Response.read_endsAlike shared ?_ threshold raw
    exact ⟨.ofTexts spec.returns, List.mem_append_right _ (List.mem_singleton_self _), .refl⟩

end

/-! ### Posts -/

/-- A post with its author. -/
def postSpec : TypeSpec where
  href := ""
  description := []
  fields := [⟨"id", ["Integer"], true, ""⟩, ⟨"author", ["User"], false, ""⟩]
  subtypes := []
  subtypeOf := []

/-- A user with posts. -/
def userSpec : TypeSpec where
  href := ""
  description := []
  fields := [⟨"name", ["String"], true, ""⟩, ⟨"posts", ["Array of Post"], false, ""⟩]
  subtypes := []
  subtypeOf := []

/-- A picture of a user. -/
def pictureSpec : TypeSpec where
  href := ""
  description := []
  fields := [⟨"file", ["InputFile"], true, ""⟩, ⟨"of", ["User"], false, ""⟩]
  subtypes := []
  subtypeOf := []

/-- A method that finds the last post of a user. -/
def getPostSpec : MethodSpec where
  href := ""
  description := []
  fields := [⟨"from", ["User", "String"], true, ""⟩]
  returns := ["Post"]

/-- A method that sends a picture. -/
def sendPictureSpec : MethodSpec where
  href := ""
  description := []
  fields := [⟨"picture", ["Picture"], true, ""⟩]
  returns := ["True"]

/-- A schema with posts and users. -/
def postSchema : Schema where
  version := none
  releaseDate := none
  changelog := none
  types := .ofList [("Post", postSpec), ("User", userSpec)]
  methods := .ofList [("getPost", getPostSpec)]

/-- A schema that also has pictures, which carry files and lead to users. -/
def pictureSchema : Schema where
  version := some "2"
  releaseDate := none
  changelog := none
  types := .ofList [("Picture", pictureSpec), ("User", userSpec), ("Post", postSpec)]
  methods := .ofList [("sendPicture", sendPictureSpec), ("getPost", getPostSpec)]

theorem build_postSchemas :
    (∃ b, (Bindings.build postSchema).result = .ok b) ∧ ∃ b, (Bindings.build pictureSchema).result = .ok b := by
  have hbuild (schema : Schema) (hproblems : schema.problems = [])
      (h : ((schema.types.map Graph.typeOf).mapM fun _ node => Bindings.bindType node).toOption.isSome = true) :
      ∃ b, (Bindings.build schema).result = .ok b := by
    obtain ⟨types, htypes⟩ := Option.isSome_iff_exists.1 h
    exact ⟨_, Bindings.build_eq_ok hproblems (eq_ok_of_toOption htypes)⟩
  exact ⟨hbuild postSchema (by decide +kernel) (by decide +kernel),
    hbuild pictureSchema (by decide +kernel) (by decide +kernel)⟩

/-- The types that one comes to from the method are in both schemas. -/
theorem find?_postSchemas {root : TypeExpr} (hroot : root ∈ getPostSpec.roots) {type : String}
    (h : Reaches (below TypeSpec.mentions postSchema.types) root (.ref type)) :
    pictureSchema.types.find? type = postSchema.types.find? type := by
  obtain ⟨⟨b, hb⟩, -⟩ := build_postSchemas
  have hnames := Bindings.names_of_build hb
  have hclosed : Closed b.types root := by
    unfold Closed
    rw [hnames]
    have hall : ∀ root ∈ getPostSpec.roots, ∀ name ∈ root.refs, name ∈ postSchema.types.names := by decide +kernel
    exact hall root hroot
  rw [← Bindings.below_of_build hb] at h
  have hmem := (closed_of_reaches (Bindings.resolved_of_build hb) hclosed h).mem_names
  rw [hnames] at hmem
  rcases List.mem_pair.1 hmem with rfl | rfl
  · rfl
  · rfl

/-- A call with a user who has a post. -/
def getPostArguments : Request.Arguments :=
  [(.text "from", .object [(.text "name", .text "a"), (.text "posts", .list [.object [(.text "id", .int 1)]])])]

/-- A response with a post. -/
def getPostResponse : Value :=
  .object [(.text "ok", .bool true), (.text "result", .object [(.text "id", .int 2)])]

theorem method_depends_on_reached_posts :
    ∃ b b' method, (Bindings.build postSchema).result = .ok b ∧ (Bindings.build pictureSchema).result = .ok b' ∧
      postSchema.methods.find? "getPost" = some getPostSpec ∧
      pictureSchema.methods.find? "getPost" = some getPostSpec ∧
      (∀ root ∈ getPostSpec.roots, ∀ type, Reaches (below TypeSpec.mentions postSchema.types) root (.ref type) →
        pictureSchema.types.find? type = postSchema.types.find? type) ∧
      b.method? "getPost" = some method ∧ b'.method? "getPost" = some method ∧
      EndsAlike Request.EncodeError.IsEndless (Request.encode b.types method getPostArguments)
        (Request.encode b'.types method getPostArguments) ∧
      EndsAlike Response.Breakdown.IsEndless (Response.read .all b.types method getPostResponse).result
        (Response.read .all b'.types method getPostResponse).result := by
  obtain ⟨⟨b, hb⟩, ⟨b', hb'⟩⟩ := build_postSchemas
  have hspec : postSchema.methods.find? "getPost" = some getPostSpec := rfl
  have hspec' : pictureSchema.methods.find? "getPost" = some getPostSpec := rfl
  have hagree : ∀ root ∈ getPostSpec.roots, ∀ type,
      Reaches (below TypeSpec.mentions postSchema.types) root (.ref type) →
        pictureSchema.types.find? type = postSchema.types.find? type := fun _ hroot _ h => find?_postSchemas hroot h
  obtain ⟨method, hmethod, hmethod', hencode, hread⟩ := method_depends_on_reached hb hb' hspec hspec' hagree
  exact ⟨b, b', method, hb, hb', hspec, hspec', hagree, hmethod, hmethod', hencode getPostArguments,
    hread .all getPostResponse⟩

end BotApi
