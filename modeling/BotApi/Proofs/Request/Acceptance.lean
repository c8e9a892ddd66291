import BotApi.Proofs.Lists
import BotApi.Proofs.Request.Sendable
import Mathlib

/-!
# Which calls are accepted

A call becomes a request exactly if each of its keys belongs to a parameter, no required parameter is left out,
and each argument conforms to the type of its parameter. Otherwise the first of these that fails is reported, in
this order, and where several keys or parameters fail, the first of them.

## Main results

* `encode_accepts_exactly` — the four outcomes of a call.
* `request_refuses_conforming` — conforming is not a matter of payloads: a mapping that holds a record of another
  type is refused where its payload is accepted.
-/

namespace BotApi.Request

/-! ## Keys and arguments -/

/-- Whether a key belongs to one of the parameters, by its attribute or by its wire name. -/
def Names (params : List FieldBinding) (k : Key) : Prop :=
  ∃ p ∈ params, k = .text p.name ∨ k = .text p.wireName

/-- What a call has for a parameter: the value under its attribute or, where that is missing or marks what was
not sent, the one under its wire name. -/
def entryOf? (arguments : Arguments) (p : FieldBinding) : Option Value :=
  match Value.get? arguments p.name with
  | none | some .absent => Value.get? arguments p.wireName
  | some v => some v

/-- Whether a parameter is left out: nothing is there for it, or null, or the mark of what was not sent. -/
def IsLeftOut (arguments : Arguments) (p : FieldBinding) : Prop :=
  ∀ v, entryOf? arguments p = some v → v.isBlank = true

/-- Whether what is there for a parameter, if it is not left out, conforms to its type. -/
def Fits (types : Table TypeBinding) (arguments : Arguments) (p : FieldBinding) : Prop :=
  ∀ v, entryOf? arguments p = some v → v.isBlank = false → Conforms types p.type v

theorem isName_toValue_iff (params : List FieldBinding) (k : Key) :
    isName params k.toValue = true ↔ Names params k := by
  cases k with
  | text s =>
    rw [Key.toValue, isName, List.any_eq_true, Names]
    refine exists_congr fun p => and_congr_right fun _ => ?_
    rw [Bool.or_eq_true, decide_eq_true_eq, decide_eq_true_eq, Key.text.injEq, Key.text.injEq, eq_comm,
      @eq_comm _ p.wireName]
  | _ =>
    refine ⟨fun h => absurd h Bool.false_ne_true, ?_⟩
    rintro ⟨p, -, h | h⟩ <;> cases h

theorem toValue_injective {k l : Key} (h : k.toValue = l.toValue) : k = l := by
  cases k <;> cases l <;> cases h <;> rfl

theorem argument?_eq (arguments : Arguments) (p : FieldBinding) :
    argument? arguments p = (entryOf? arguments p).filter fun v => !v.isBlank := by
  rw [argument?, sent?, sent?, entryOf?]
  -- the wire name is looked up only where the attribute has nothing that was sent
  cases hname : Value.get? arguments p.name with
  | none =>
    cases hwire : Value.get? arguments p.wireName with
    | none => rfl
    | some w => cases w <;> rfl
  | some v =>
    cases v with
    | absent =>
      cases hwire : Value.get? arguments p.wireName with
      | none => rfl
      | some w => cases w <;> rfl
    | _ => rfl

theorem argument?_eq_none_iff {arguments : Arguments} {p : FieldBinding} :
    argument? arguments p = none ↔ IsLeftOut arguments p := by
  rw [argument?_eq, Option.filter_eq_none_iff, IsLeftOut]
  refine forall₂_congr fun v _ => ?_
  rw [Bool.not_eq_true, Bool.not_eq_false']

theorem argument?_eq_some_iff {arguments : Arguments} {p : FieldBinding} {v : Value} :
    argument? arguments p = some v ↔ entryOf? arguments p = some v ∧ v.isBlank = false := by
  rw [argument?_eq, Option.filter_eq_some_iff, Bool.not_eq_true']

theorem isMissing_iff (arguments : Arguments) (p : FieldBinding) :
    isMissing arguments p = true ↔ p.required = true ∧ IsLeftOut arguments p := by
  rw [isMissing, Bool.and_eq_true, Option.isNone_iff_eq_none, argument?_eq_none_iff]

theorem fits_of_argument?_eq_none {types : Table TypeBinding} {arguments : Arguments} {p : FieldBinding}
    (h : argument? arguments p = none) : Fits types arguments p := by
  intro v hv hblank
  rw [argument?_eq_none_iff.1 h v hv] at hblank
  cases hblank

theorem fits_iff_of_argument?_eq_some {types : Table TypeBinding} {arguments : Arguments} {p : FieldBinding}
    {v : Value} (h : argument? arguments p = some v) : Fits types arguments p ↔ Conforms types p.type v := by
  obtain ⟨hentry, hblank⟩ := argument?_eq_some_iff.1 h
  constructor
  · exact fun hfits => hfits v hentry hblank
  · intro hconforms w hw _
    rw [hentry, Option.some.injEq] at hw
    rwa [← hw]

/-! ## One check after another -/

theorem literal_toValue_failsOnly (k : Key) :
    FailsOnly (.tooManyDigits .writing) (Key.isWritable k = false) k.toValue.literal := by
  cases k with
  | int n =>
    rw [Key.toValue, Value.literal]
    exact intLiteral_failsOnly n
  | _ => exact .inl ⟨_, rfl⟩

/-- The first key that belongs to no parameter is the one that is reported. -/
theorem unexpected?_eq (params : List FieldBinding) (arguments : Arguments) :
    unexpected? params (arguments.map fun e => e.1.toValue) =
      ((arguments.map Prod.fst).find? fun k => !isName params k.toValue).map Key.toValue := by
  have hkeys : (arguments.map fun e => e.1.toValue) = (arguments.map Prod.fst).map Key.toValue := by
    rw [List.map_map]
    rfl
  rw [unexpected?, hkeys, List.find?_map]
  rfl

theorem not_isName_iff (params : List FieldBinding) (k : Key) :
    (!isName params k.toValue) = true ↔ ¬ Names params k := by
  rw [Bool.not_eq_true', Bool.eq_false_iff, ← isName_toValue_iff]

/-- The arguments are converted up to the first that does not conform. -/
theorem inPlaceAll_given {types : Table TypeBinding} {arguments : Arguments} {params : List FieldBinding}
    (h : ∀ p ∈ params, ∀ v, argument? arguments p = some v →
      Settles (Conforms types p.type v) (inPlace types types.size p.type v)) :
    ((∃ placed, inPlaceAll types (given arguments params) = .ok placed) ∧
        ∀ p ∈ params, Fits types arguments p) ∨
      ∃ p path expected got, IsFirst (fun p => ¬ Fits types arguments p) params p ∧
        inPlaceAll types (given arguments params) = .error (.refused (.mismatch p.wireName path expected got)) := by
  induction params with
  | nil => exact .inl ⟨⟨[], rfl⟩, fun p hp => by cases hp⟩
  | cons p rest ih =>
    have ih := ih fun q hq => h q (List.mem_cons_of_mem _ hq)
    cases hargument : argument? arguments p with
    | none =>
      -- nothing is converted for the parameter, and nothing can fail
      have hfits : Fits types arguments p := fits_of_argument?_eq_none hargument
      rw [given_cons_none hargument]
      rcases ih with ⟨hplaced, hall⟩ | ⟨q, path, expected, got, hfirst, herror⟩
      · exact .inl ⟨hplaced, List.forall_mem_cons.2 ⟨hfits, hall⟩⟩
      · exact .inr ⟨q, path, expected, got, IsFirst.tail (not_not_intro hfits) hfirst, herror⟩
    | some v =>
      have hsettles := h p (List.mem_cons_self ..) v hargument
      have hiff : Fits types arguments p ↔ Conforms types p.type v := fits_iff_of_argument?_eq_some hargument
      rw [given_cons_some hargument, inPlaceAll]
      by_cases hfits : Fits types arguments p
      · obtain ⟨first, hfirst⟩ := hsettles.iff_exists_ok.1 (hiff.1 hfits)
        rw [hfirst]
        rcases ih with ⟨⟨more, hmore⟩, hall⟩ | ⟨q, path, expected, got, hq, herror⟩
        · refine .inl ⟨⟨(p.wireName, first) :: more, ?_⟩, List.forall_mem_cons.2 ⟨hfits, hall⟩⟩
          rw [hmore]
          rfl
        · refine .inr ⟨q, path, expected, got, IsFirst.tail (not_not_intro hfits) hq, ?_⟩
          rw [herror]
          rfl
      · -- the conversion ends here, whatever comes later
        obtain ⟨m, hm⟩ := hsettles.exists_mismatch (mt hiff.2 hfits)
        rw [hm]
        exact .inr ⟨p, _, _, _, ⟨[], rest, rfl, hfits, fun q hq => by cases hq⟩, rfl⟩

/-- What is there for a parameter is one of the values of the call. -/
theorem throughout_of_argument? {test : Value → Bool} {arguments : Arguments} {p : FieldBinding} {v : Value}
    (h : (Value.object arguments).throughout test = true) (hv : argument? arguments p = some v) :
    v.throughout test = true := by
  obtain ⟨hentry, -⟩ := argument?_eq_some_iff.1 hv
  rw [entryOf?] at hentry
  split at hentry
  · exact Value.throughout_of_lookup h hentry
  · exact Value.throughout_of_lookup h hentry
  · next w _ hw =>
    rw [hentry] at hw
    exact Value.throughout_of_lookup h hw

section

variable {types : Table TypeBinding} {method : MethodBinding} {arguments : Arguments}

/-- The outcomes of a call: one of three refusals, each after the checks before it have passed, or a request. -/
theorem encode_outcome (resolved : Resolved types) (founded : Founded types)
    (closed : ∀ p ∈ method.params, Closed types p.type) (hn : (method.params.map (·.wireName)).Nodup)
    (hv : (Value.object arguments).throughout isOrdinary = true) :
    (∃ k shown, IsFirst (fun k => ¬ Names method.params k) (arguments.map Prod.fst) k ∧
      encode types method arguments = .error (.refused (.unexpected k.toValue shown method.name))) ∨
    (∀ k ∈ arguments.map Prod.fst, Names method.params k) ∧
      ((∃ p, IsFirst (fun p => p.required = true ∧ IsLeftOut arguments p) method.params p ∧
        encode types method arguments = .error (.refused (.missing p.wireName))) ∨
      (∀ p ∈ method.params, ¬ (p.required = true ∧ IsLeftOut arguments p)) ∧
        ((∃ p path expected got, IsFirst (fun p => ¬ Fits types arguments p) method.params p ∧
          encode types method arguments = .error (.refused (.mismatch p.wireName path expected got))) ∨
        (∀ p ∈ method.params, Fits types arguments p) ∧
          ∃ request, encode types method arguments = .ok request)) := by
  rw [encode_eq hn, unexpected?_eq]
  cases hkey : (arguments.map Prod.fst).find? fun k => !isName method.params k.toValue with
  | some k =>
    have hfirst := (find?_eq_some_iff_isFirst (not_isName_iff method.params)).1 hkey
    -- the key can be shown, as all keys of the call can be written
    obtain ⟨e, he, rfl⟩ := List.mem_map.1 hfirst.mem
    have hwritable := List.all_eq_true.1 (Value.holds_of_throughout hv) e he
    obtain ⟨shown, hshown⟩ := (literal_toValue_failsOnly e.1).exists_ok (by rw [hwritable]; simp)
    refine .inl ⟨e.1, shown, hfirst, ?_⟩
    rw [Option.map_some]
    dsimp only
    rw [unexpected, hshown]
  | none =>
    have hnames := (find?_eq_none_iff_forall (not_isName_iff method.params)).1 hkey
    refine .inr ⟨fun k hk => Classical.not_not.1 (hnames k hk), ?_⟩
    rw [Option.map_none]
    dsimp only
    cases hmissing : method.params.find? (isMissing arguments) with
    | some p =>
      exact .inl ⟨p, (find?_eq_some_iff_isFirst (isMissing_iff arguments)).1 hmissing, rfl⟩
    | none =>
      refine .inr ⟨(find?_eq_none_iff_forall (isMissing_iff arguments)).1 hmissing, ?_⟩
      -- each argument is converted with an opening for each type
      have hsettles : ∀ p ∈ method.params, ∀ v, argument? arguments p = some v →
          Settles (Conforms types p.type v) (inPlace types types.size p.type v) := fun p hp v hargument =>
        inPlace_settles resolved founded (hasRoom_of_size_le (Nat.le_refl _) _) (closed p hp)
          (throughout_of_argument? hv hargument)
      rcases inPlaceAll_given hsettles with ⟨⟨placed, hplaced⟩, hall⟩ | ⟨p, path, expected, got, hfirst, herror⟩
      · -- a body can be made of what was converted
        refine .inr ⟨hall, ?_⟩
        have hordinary : ∀ e ∈ given arguments method.params, e.2.throughout isOrdinary = true := by
          rintro ⟨p, v⟩ he
          exact throughout_of_argument? hv (mem_given_iff.1 he).2
        obtain ⟨body, hbody⟩ := exists_bodyOf method hplaced hordinary
        refine ⟨⟨method.name, body⟩, ?_⟩
        rw [hplaced]
        dsimp only
        rw [hbody]
        rfl
      · refine .inl ⟨p, path, expected, got, hfirst, ?_⟩
        rw [herror]

end

/-- A call has an unexpected argument just if one of its keys belongs to no parameter; if there is none, a parameter
is missing just if a required one is left out; if there is none, an argument is a mismatch just if it does not
conform; and if there is none, there is a request. Each time the first one is reported. -/
theorem encode_accepts_exactly {schema : Schema} {b : Bindings} (hb : (Bindings.build schema).result = .ok b)
    {name : String} {method : MethodBinding} (hm : b.method? name = some method) (founded : Founded b.types)
    (hn : (method.params.map (·.name)).Nodup) {arguments : Arguments}
    (hv : (Value.object arguments).throughout isOrdinary = true) :
    (∀ k, (∃ shown, encode b.types method arguments =
          .error (.refused (.unexpected (Key.toValue k) shown method.name))) ↔
        IsFirst (fun k => ¬ Names method.params k) (arguments.map Prod.fst) k) ∧
    ((∀ k ∈ arguments.map Prod.fst, Names method.params k) →
      (∀ wireName, encode b.types method arguments = .error (.refused (.missing wireName)) ↔
        ∃ p, IsFirst (fun p => p.required = true ∧ IsLeftOut arguments p) method.params p ∧
          p.wireName = wireName) ∧
      ((∀ p ∈ method.params, ¬ (p.required = true ∧ IsLeftOut arguments p)) →
        (∀ wireName, (∃ path expected got, encode b.types method arguments =
            .error (.refused (.mismatch wireName path expected got))) ↔
          ∃ p, IsFirst (fun p => ¬ Fits b.types arguments p) method.params p ∧ p.wireName = wireName) ∧
        ((∃ request, encode b.types method arguments = .ok request) ↔
          ∀ p ∈ method.params, Fits b.types arguments p))) := by
  have hwire := Bindings.nodup_wireName_of_nodup_name (fun p hp => Bindings.name_of_param hb hm hp) hn
  -- the outcomes exclude each other, so each is told by its condition and by its error alike
  rcases encode_outcome (Bindings.resolved_of_build hb) founded (Bindings.closed_of_method hb hm).1 hwire hv with
    ⟨k, shown, hfirst, he⟩ | ⟨hknown, hrest⟩
  · -- a key that belongs to no parameter
    refine ⟨fun l => ⟨?_, fun hl => ?_⟩, fun hknown => absurd (hknown k hfirst.mem) hfirst.holds⟩
    · rintro ⟨s, hs⟩
      rw [he] at hs
      injection hs with hs
      injection hs with hs
      injection hs with hk
      rwa [← toValue_injective hk]
    · rw [hl.unique hfirst]
      exact ⟨shown, he⟩
  refine ⟨fun l => ⟨?_, fun hl => absurd (hknown l hl.mem) hl.holds⟩, fun _ => ?_⟩
  · -- every other outcome is no unexpected argument
    rintro ⟨s, hs⟩
    rcases hrest with ⟨p, -, he⟩ | ⟨-, ⟨p, path, expected, got, -, he⟩ | ⟨-, request, he⟩⟩ <;>
      · rw [he] at hs
        cases hs
  rcases hrest with ⟨p, hfirst, he⟩ | ⟨hpresent, hrest⟩
  · -- a required parameter that is left out
    refine ⟨fun wireName => ⟨fun h => ⟨p, hfirst, ?_⟩, ?_⟩, fun h => absurd hfirst.holds (h p hfirst.mem)⟩
    · rw [he] at h
      cases h
      rfl
    · rintro ⟨q, hq, rfl⟩
      rw [hq.unique hfirst]
      exact he
  refine ⟨fun wireName => ⟨fun h => ?_, ?_⟩, fun _ => ?_⟩
  · rcases hrest with ⟨p, path, expected, got, -, he⟩ | ⟨-, request, he⟩ <;>
      · rw [he] at h
        cases h
  · rintro ⟨q, hq, -⟩
    exact absurd hq.holds (hpresent q hq.mem)
  rcases hrest with ⟨p, path, expected, got, hfirst, he⟩ | ⟨hall, request, he⟩
  · -- an argument that does not conform
    refine ⟨fun wireName => ⟨?_, ?_⟩, ?_, fun h => absurd (h p hfirst.mem) hfirst.holds⟩
    · rintro ⟨path', expected', got', h⟩
      rw [he] at h
      cases h
      exact ⟨p, hfirst, rfl⟩
    · rintro ⟨q, hq, rfl⟩
      rw [hq.unique hfirst]
      exact ⟨path, expected, got, he⟩
    · rintro ⟨request, h⟩
      rw [he] at h
      cases h
  · -- a request
    refine ⟨fun wireName => ⟨?_, ?_⟩, fun _ => hall, fun _ => ⟨request, he⟩⟩
    · rintro ⟨path, expected, got, h⟩
      rw [he] at h
      cases h
    · rintro ⟨q, hq, -⟩
      exact absurd (hall q hq.mem) hq.holds

/-! ### Records of twin types -/

/-- A method that takes one argument. -/
def sendSpec (type : String) : MethodSpec where
  href := ""
  description := []
  fields := [⟨"x", [type], true, ""⟩]
  returns := ["True"]

/-- A schema with two types that have the same fields, an abstract type with the first as its only variant, a type
that has a field of it, and a type with a field of the name under which a record knows its type. -/
def twinSchema : Schema where
  version := none
  releaseDate := none
  changelog := none
  types := .ofList
    [("T", { href := "", description := [], subtypes := [], subtypeOf := []
             fields := [⟨"id", ["Integer"], true, ""⟩] }),
      ("U", { href := "", description := [], subtypes := [], subtypeOf := []
              fields := [⟨"id", ["Integer"], true, ""⟩] }),
      ("S", { href := "", description := [], subtypes := ["T"], subtypeOf := [], fields := [] }),
      ("W", { href := "", description := [], subtypes := [], subtypeOf := []
              fields := [⟨"t", ["S"], true, ""⟩] }),
      ("N", { href := "", description := [], subtypes := [], subtypeOf := []
              fields := [⟨"__binding__", ["String"], false, ""⟩] })]
  methods := .ofList [("send", sendSpec "W")]

/-- The types of its graph. -/
def twinNodes : Table TypeNode where
  entries :=
    [("T", { name := "T", variants := [], description := [], href := ""
             fields := [⟨"id", .primitive .integer, true, ""⟩] }),
      ("U", { name := "U", variants := [], description := [], href := ""
              fields := [⟨"id", .primitive .integer, true, ""⟩] }),
      ("S", { name := "S", variants := ["T"], description := [], href := "", fields := [] }),
      ("W", { name := "W", variants := [], description := [], href := ""
              fields := [⟨"t", .ref "S", true, ""⟩] }),
      ("N", { name := "N", variants := [], description := [], href := ""
              fields := [⟨"__binding__", .primitive .string, false, ""⟩] })]
  nodup := by decide

/-- The types of its bindings. -/
def twinTypes : Table TypeBinding where
  entries :=
    [("T", { name := "T", variants := [], description := []
             fields := [⟨"id", "id", .primitive .integer, true, ""⟩] }),
      ("U", { name := "U", variants := [], description := []
              fields := [⟨"id", "id", .primitive .integer, true, ""⟩] }),
      ("S", { name := "S", variants := ["T"], description := [], fields := [] }),
      ("W", { name := "W", variants := [], description := []
              fields := [⟨"t", "t", .ref "S", true, ""⟩] }),
      ("N", { name := "N", variants := [], description := []
              fields := [⟨"__binding__", "__binding__", .primitive .string, false, ""⟩] })]
  nodup := by decide

/-- The binding of its method. -/
def twinMethod : MethodBinding where
  name := "send"
  params := [⟨"x", "x", .ref "W", true, ""⟩]
  returns := .primitive .literalTrue
  hasAttachment := false
  snakeName := "send"
  description := []

theorem build_twinSchema :
    ∃ b, (Bindings.build twinSchema).result = .ok b ∧ b.types = twinTypes ∧
      b.method? "send" = some twinMethod := by
  have hnodes : twinSchema.types.map Graph.typeOf = twinNodes := by decide +kernel
  have htypes : twinNodes.mapM (fun _ node => Bindings.bindType node) = .ok twinTypes :=
    eq_ok_of_toOption (by decide)
  rw [← hnodes] at htypes
  -- the schema has no problem, and none of its types reaches a file
  have hb := Bindings.build_eq_ok (by decide +kernel) htypes
  have hparams : (Graph.methodOf "send" (sendSpec "W")).params.map (·.type) = [.ref "W"] := by decide +kernel
  have hfile : (FileTracker.queryAny twinNodes
      ((Graph.methodOf "send" (sendSpec "W")).params.map (·.type)) .empty).1 = false := by
    rw [hparams]
    cbv
  refine ⟨_, hb, rfl, ?_⟩
  rw [Bindings.method?_of_build_first hb rfl, hnodes, Bindings.bindMethod_fst hfile]
  decide +kernel

/-- A record with an integer. -/
def identified (type : String) : Value := .record type [(⟨"id", "id", true⟩, .int 1)]

/-- A mapping with something in it. -/
def holding (v : Value) : Value := .object [(.text "t", v)]

theorem payload_identified (type : String) : (identified type).payload = .object [(.text "id", .int 1)] := by
  have htable : Value.table? [(⟨"id", "id", true⟩, .int 1)] = none := by
    rw [← Option.isNone_iff_eq_none]
    decide
  rw [identified, Value.payload_record type htable]
  rfl

/-- Whatever offers an integer conforms to the first type. -/
theorem conforms_of_offers {v : Value} (h : Offers "T" v [(.text "id", .int 1)]) :
    Conforms twinTypes (.ref "T") v := by
  refine .fields (by cbv) rfl h ?_ ?_ ?_
  · simp
  · simp [given?, Value.get?]
  · intro f hf w hw
    cases List.mem_singleton.1 hf
    cases hw
    exact .primitive rfl

/-- A mapping that holds a value of the first type conforms, as that is a variant of the abstract one. -/
theorem conforms_holding {v : Value} (hgiven : given? [(.text "t", v)] "t" = some v)
    (hv : Conforms twinTypes (.ref "T") v) : Conforms twinTypes (.ref "W") (holding v) := by
  refine .fields (by cbv) rfl (.mapping _) ?_ ?_ ?_
  · simp
  · simp [hgiven]
  · intro f hf w hw
    cases List.mem_singleton.1 hf
    rw [hgiven, Option.some.injEq] at hw
    rw [← hw]
    exact .variant (by cbv) (List.mem_singleton_self _) hv

theorem encode_accepts_exactly_twin :
    Founded twinTypes ∧ (twinMethod.params.map (·.name)).Nodup ∧
      (Value.object [(.text "x", holding (identified "T"))]).throughout isOrdinary = true ∧
      ∃ request, encode twinTypes twinMethod [(.text "x", holding (identified "T"))] = .ok request := by
  obtain ⟨b, hb, htypes, hm⟩ := build_twinSchema
  have founded : Founded twinTypes := founded_of_rank (fun name => if name = "S" then 1 else 0) (by decide)
  have hn : (twinMethod.params.map (·.name)).Nodup := by decide
  have hv : (Value.object [(.text "x", holding (identified "T"))]).throughout isOrdinary = true := by
    decide +kernel
  have hconforms : Conforms twinTypes (.ref "W") (holding (identified "T")) :=
    conforms_holding rfl (conforms_of_offers (.record _ (payload_identified "T")))
  rw [← htypes] at founded hconforms ⊢
  obtain ⟨-, hrest⟩ := encode_accepts_exactly hb hm founded hn hv
  obtain ⟨-, hrest⟩ := hrest fun k hk => by
    rw [List.mem_singleton.1 hk]
    exact ⟨_, List.mem_singleton_self _, .inl rfl⟩
  have hentry : ∀ p ∈ twinMethod.params, entryOf? [(.text "x", holding (identified "T"))] p =
      some (holding (identified "T")) := by
    intro p hp
    rw [List.mem_singleton.1 hp]
    rfl
  obtain ⟨-, haccepted⟩ := hrest fun p hp h => by cases h.2 _ (hentry p hp)
  refine ⟨founded, hn, hv, haccepted.2 fun p hp v hv _ => ?_⟩
  rw [hentry p hp, Option.some.injEq] at hv
  rw [← hv, List.mem_singleton.1 hp]
  exact hconforms

/-- A record that may have a field in the place of the name of its type, and was made without it. -/
def nameless : Value := .record "N" [(⟨"__binding__", "__binding__", false⟩, .absent)]

theorem convert_nameless :
    convert twinTypes twinTypes.size true (.ref "N") nameless [] =
      .error (.mismatch ⟨[], .ref "N", .unnamed⟩) [] := by
  have hlacks : Value.lacks .typeName [(⟨"__binding__", "__binding__", false⟩, .absent)] = true := by
    decide
  have hentries : entriesFor "N" nameless = .error (.mismatch ⟨[], .ref "N", .unnamed⟩) := by
    rw [nameless, entriesFor, hlacks, if_pos (Bool.or_true _), Stop.refuseArgument, Got.ofArgument, hlacks]
    rfl
  have htype : twinTypes.find? "N" = some
      { name := "N", variants := [], description := []
        fields := [⟨"__binding__", "__binding__", .primitive .string, false, ""⟩] } := by cbv
  rw [convert_concrete htype rfl, hentries]
  rfl

theorem conforms_nameless : Conforms twinTypes (.ref "N") nameless := by
  have htable : Value.table? [(⟨"__binding__", "__binding__", false⟩, .absent)] = none := by
    rw [← Option.isNone_iff_eq_none]
    decide
  have hpayload : nameless.payload = .object [] := by
    rw [nameless, Value.payload_record "N" htable]
    rfl
  refine .fields (by cbv) rfl (.record _ hpayload) ?_ ?_ ?_
  · simp
  · intro f hf hrequired
    cases List.mem_singleton.1 hf
    cases hrequired
  · intro f hf w hw
    cases hw

/-- The payload of a mapping may conform where the mapping itself, which holds a record of another type, is refused.
A record of the very type is refused too, if a field has taken the place of the name of its type. -/
theorem request_refuses_conforming :
    ∃ b, (Bindings.build twinSchema).result = .ok b ∧ b.method? "send" = some twinMethod ∧
      Conforms b.types (.ref "W") (holding (identified "U")).payload ∧
      encode b.types twinMethod [(.text "x", holding (identified "U"))] =
        .error (.refused (.mismatch "x" "x.t" "S" (.kind (.record "U")))) ∧
      Conforms b.types (.ref "N") nameless ∧
      convert b.types b.types.size true (.ref "N") nameless [] =
        .error (.mismatch ⟨[], .ref "N", .unnamed⟩) [] := by
  obtain ⟨b, hb, htypes, hm⟩ := build_twinSchema
  refine ⟨b, hb, hm, ?_⟩
  rw [htypes]
  refine ⟨?_, by cbv, conforms_nameless, convert_nameless⟩
  have hpayload : (holding (identified "U")).payload = holding (.object [(.text "id", .int 1)]) := by
    rw [holding, Value.payload, Value.payloadEntries, if_neg (by simp [identified, Value.isAbsent]),
      payload_identified]
    rfl
  rw [hpayload]
  exact conforms_holding rfl (conforms_of_offers (.mapping _))

end BotApi.Request
