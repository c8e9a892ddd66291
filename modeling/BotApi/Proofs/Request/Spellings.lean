import BotApi.Proofs.Request.Uploads
import BotApi.Proofs.Value.Lookup

/-!
# Two spellings of a parameter

An argument is given under the attribute of its parameter or under its wire name. Parameters that differ in their
attributes share neither, so a key belongs to one parameter only, and the request has the argument under the wire name
of that. If a parameter is given under both of its names, what is under the attribute counts. Only where it marks what
was not sent the wire name is looked at, and null is no such mark.

## Main results

* `Spells.unique` — a key is a name of one parameter.
* `exists_isMadeOf` — a request is made of the arguments of the parameters, and carries them.
* `supplied_argument_is_carried` — a request carries each argument, unless something else stands under the attribute of
  its parameter.
* `null_hides_argument` — null under an attribute hides what is under the wire name.
-/

namespace BotApi.Request

/-! ## Keys -/

/-- Whether a key is a name of a parameter: its attribute or its wire name. -/
def Spells (p : FieldBinding) (k : Key) : Prop := k = .text p.name ∨ k = .text p.wireName

/-- Either name of a parameter leads to its attribute. -/
theorem Spells.attributeName_eq {p : FieldBinding} {s : String} (hp : p.name = attributeName p.wireName)
    (h : Spells p (.text s)) : attributeName s = p.name := by
  rcases h with h | h
  · rw [Key.text.inj h, hp, attributeName_attributeName]
  · rw [Key.text.inj h, hp]

section

variable {params : List FieldBinding} (hnames : ∀ p ∈ params, p.name = attributeName p.wireName)
  (hn : (params.map (·.name)).Nodup)

include hnames hn

/-- A key is a name of one parameter. -/
theorem Spells.unique {p q : FieldBinding} {k : Key} (hp : p ∈ params) (hq : q ∈ params) (hpk : Spells p k)
    (hqk : Spells q k) : q = p := by
  obtain ⟨s, rfl⟩ : ∃ s, k = .text s := by
    rcases hpk with h | h
    · exact ⟨_, h⟩
    · exact ⟨_, h⟩
  refine List.inj_on_of_nodup_map hn hq hp ?_
  rw [← hqk.attributeName_eq (hnames q hq), hpk.attributeName_eq (hnames p hp)]

end

/-- A parameter takes what is under its attribute, and what is under its wire name if nothing was sent under the
attribute. -/
theorem argument?_of_mem {arguments : Arguments} (hkeys : (arguments.map Prod.fst).Nodup) {p : FieldBinding} {k : Key}
    {x : Value} (hmem : (k, x) ∈ arguments) (hpk : Spells p k)
    (hspelled : k = .text p.name ∨ sent? arguments p.name = none) (hx : x.isBlank = false) :
    argument? arguments p = some x := by
  rw [argument?_eq_some_iff, entryOf?]
  refine ⟨?_, hx⟩
  by_cases hname : k = .text p.name
  · rw [hname, ← Value.get?_eq_some_iff_mem hkeys] at hmem
    rw [hmem]
    cases x with
    | absent => cases hx
    | _ => rfl
  · rw [hpk.resolve_left hname, ← Value.get?_eq_some_iff_mem hkeys] at hmem
    have hnone := hspelled.resolve_left hname
    rw [sent?] at hnone
    cases hv : Value.get? arguments p.name with
    | none => exact hmem
    | some v =>
      cases v with
      | absent => exact hmem
      | _ =>
        rw [hv] at hnone
        cases hnone

/-! ## What a request carries -/

/-- Whether a request is made of converted arguments, each under a name of its own, and of attachments. If it comes in
parts there is one for each argument, and the attachments come after them; and if not there are none. -/
structure IsMadeOf (request : Request) (own : List (String × Value)) (attachments : List Part) : Prop where
  nodup : (own.map Prod.fst).Nodup
  body : match request.body with
    | .json fields => fields = own ∧ attachments = []
    | .parts parts => ∃ main, (own.mapM fun e => partOf e.1 e.2) = .ok main ∧ parts = main ++ attachments

/-- Whether what a value is converted to is there under the wire name of a parameter. The attachments of the value come
after others, and are among those of the request. -/
def Carries (types : Table TypeBinding) (own : List (String × Value)) (attachments : List Part) (p : FieldBinding)
    (x : Value) : Prop :=
  ∃ before mine w, convert types types.size true p.type x before = .ok w (before ++ mine) ∧ (p.wireName, w) ∈ own ∧
    before ++ mine <+: attachments

section

variable {types : Table TypeBinding} {supply : List (FieldBinding × Value)} {placed : List (String × Value)}
  {p : FieldBinding} {x : Value}

/-- Each argument is converted after the attachments of those before it. -/
theorem carries_sentAll (h : inPlaceAll types supply = .ok placed) (hmem : (p, x) ∈ supply) (parts : List Part) :
    Carries types (sentAll parts.length placed) (parts ++ partsFrom parts.length (nestedAll placed)) p x := by
  induction supply generalizing placed parts with
  | nil => cases hmem
  | cons e rest ih =>
    obtain ⟨q, y⟩ := e
    obtain ⟨first, more, hfirst, hmore, rfl⟩ := inPlaceAll_cons_eq_ok_iff.1 h
    rw [sentAll, nestedAll, partsFrom_append, ← List.append_assoc]
    rcases List.mem_cons.1 hmem with heq | hmem
    · -- the first argument comes after the attachments that are there already
      cases heq
      have hconvert := convert_refines types types.size true p.type x parts
      rw [hfirst] at hconvert
      exact ⟨parts, _, _, hconvert, List.mem_cons_self .., List.prefix_append ..⟩
    · -- the others come after those of the first one, too
      obtain ⟨before, mine, w, hconvert, hw, hprefix⟩ :=
        ih hmore hmem (parts ++ partsFrom parts.length (first.nested true))
      rw [List.length_append, length_partsFrom] at hw hprefix
      exact ⟨before, mine, w, hconvert, List.mem_cons_of_mem _ hw, hprefix⟩

end

section

variable {schema : Schema} {b : Bindings} {name : String} {method : MethodBinding} {arguments : Arguments}
  {request : Request} (hb : (Bindings.build schema).result = .ok b) (hm : b.method? name = some method)
  (hn : (method.params.map (·.name)).Nodup)

include hb hm hn

/-- A request is made of the arguments that the parameters have, and carries each of them. -/
theorem exists_isMadeOf (h : encode b.types method arguments = .ok request) :
    ∃ own attachments, IsMadeOf request own attachments ∧
      own.map Prod.fst = (given arguments method.params).map (fun e => e.1.wireName) ∧
      ∀ p x, (p, x) ∈ given arguments method.params → Carries b.types own attachments p x := by
  have hwires := Bindings.nodup_wireName_of_nodup_name (fun p hp => Bindings.name_of_param hb hm hp) hn
  obtain ⟨placed, body, hplaced, hbody, rfl⟩ := inPlaceAll_of_encode hwires h
  have hown : (sentAll 0 placed).map Prod.fst = (given arguments method.params).map fun e => e.1.wireName := by
    rw [map_fst_sentAll, map_fst_inPlaceAll hplaced]
  refine ⟨_, _, ⟨hown ▸ nodup_given hwires arguments, ?_⟩, hown, fun p x hx => carries_sentAll hplaced hx []⟩
  rw [bodyOf] at hbody
  split at hbody
  · obtain ⟨main, hmain, hbody⟩ := bind_eq_ok_iff.1 hbody
    cases hbody
    exact ⟨main, hmain, rfl⟩
  · next hflag =>
    cases hbody
    -- no parameter leads to the file type, so there is nothing to attach
    have hno : ∀ e ∈ given arguments method.params, ¬ ReachesFile (below TypeBinding.mentions b.types) e.1.type := by
      intro e he hreach
      exact hflag ((Bindings.hasAttachment_iff hb hm).2 ⟨e.1, (mem_given_iff.1 he).1, hreach⟩)
    refine ⟨rfl, ?_⟩
    rw [(sentAll_of_unreachable hno hplaced).2.1]
    rfl

/-- Each entry of an accepted call belongs to one parameter by its key, and its value is carried under the wire name of
this parameter, if it is neither null nor the mark of what was not sent. The only exceptions are entries under a wire
name where the attribute is a key too, with anything but that mark. Where the attribute has null the request has nothing
for the parameter. -/
theorem supplied_argument_is_carried (hkeys : (arguments.map Prod.fst).Nodup)
    (h : encode b.types method arguments = .ok request) :
    ∃ own attachments, IsMadeOf request own attachments ∧
      (∀ k x, (k, x) ∈ arguments → x.isBlank = false →
        ∃ p ∈ method.params, Spells p k ∧ (∀ q ∈ method.params, Spells q k → q = p) ∧
          (k = .text p.name ∨ sent? arguments p.name = none → Carries b.types own attachments p x)) ∧
      ∀ p ∈ method.params, sent? arguments p.name = some .null → p.wireName ∉ own.map Prod.fst := by
  have hnames : ∀ p ∈ method.params, p.name = attributeName p.wireName := fun p hp => Bindings.name_of_param hb hm hp
  have hwires := Bindings.nodup_wireName_of_nodup_name hnames hn
  obtain ⟨own, attachments, hmade, hown, hcarries⟩ := exists_isMadeOf hb hm hn h
  refine ⟨own, attachments, hmade, fun k x hmem hx => ?_, fun p hp hnull hwire => ?_⟩
  · obtain ⟨p, hp, hpk⟩ := names_of_encode h _ hmem
    refine ⟨p, hp, hpk, fun q hq hqk => Spells.unique hnames hn hp hq hpk hqk, fun hspelled => hcarries p x ?_⟩
    exact mem_given_iff.2 ⟨hp, argument?_of_mem hkeys hmem hpk hspelled hx⟩
  · -- the only parameter of that wire name has no argument
    rw [hown, List.mem_map] at hwire
    obtain ⟨⟨q, x⟩, hq, heq⟩ := hwire
    obtain ⟨hq, hx⟩ := mem_given_iff.1 hq
    cases List.inj_on_of_nodup_map hwires hq hp heq
    rw [argument?, hnull] at hx
    cases hx

end

/-- Photos with a file of their own, which is given under its wire name and marked as not sent under its attribute. -/
def markedAlbumArguments : Arguments := (.text "from_user", .absent) :: albumArguments

theorem supplied_argument_is_carried_markedAlbum :
    ∃ b request, (Bindings.build albumSchema).result = .ok b ∧ b.method? "sendAlbum" = some sendAlbumMethod ∧
      (sendAlbumMethod.params.map (·.name)).Nodup ∧ (markedAlbumArguments.map Prod.fst).Nodup ∧
      encode b.types sendAlbumMethod markedAlbumArguments = .ok request ∧
      (.text "from", .bytes [3]) ∈ markedAlbumArguments ∧ (Value.bytes [3]).isBlank = false ∧
      sent? markedAlbumArguments "from_user" = none ∧
      ∃ own attachments, IsMadeOf request own attachments ∧
        ∃ p ∈ sendAlbumMethod.params, p.wireName = "from" ∧ Carries b.types own attachments p (.bytes [3]) := by
  obtain ⟨b, hb, htypes, -, hm⟩ := build_albumSchema
  have hn : (sendAlbumMethod.params.map (·.name)).Nodup := by decide
  have hkeys : (markedAlbumArguments.map Prod.fst).Nodup := by decide
  have hencode : encode b.types sendAlbumMethod markedAlbumArguments =
      .ok ⟨"sendAlbum", .parts
        [⟨"from", .file ⟨.octets [3], "file"⟩⟩,
          ⟨"photos", .text ("[\x7b\"media\":\"attach://attach_1\"," ++
            "\"next\":\x7b\"media\":\"attach://attach_2\"\x7d\x7d]")⟩,
          ⟨"attach_1", .file ⟨.octets [1], "file"⟩⟩, ⟨"attach_2", .file ⟨.octets [2], "file"⟩⟩]⟩ := by
    rw [htypes]
    cbv
  have hmem : (.text "from", .bytes [3]) ∈ markedAlbumArguments := by simp [markedAlbumArguments, albumArguments]
  have hmark : sent? markedAlbumArguments "from_user" = none := by decide
  obtain ⟨own, attachments, hmade, hentries, -⟩ := supplied_argument_is_carried hb hm hn hkeys hencode
  obtain ⟨p, hp, hspells, -, hcarries⟩ := hentries _ _ hmem rfl
  -- the name that is no attribute here is a wire name
  have hwire : ∀ p ∈ sendAlbumMethod.params, Spells p (.text "from") → p.name = "from_user" ∧ p.wireName = "from" := by
    unfold Spells
    decide
  obtain ⟨hname, hwire⟩ := hwire p hp hspells
  exact ⟨b, _, hb, hm, hn, hkeys, hencode, hmem, rfl, hmark, own, attachments, hmade, p, hp, hwire,
    hcarries (.inr (hname ▸ hmark))⟩

/-! ### Null under the attribute -/

/-- A method with a parameter whose attribute is not its wire name. -/
def senderSchema : Schema where
  version := none
  releaseDate := none
  changelog := none
  types := .empty
  methods := .ofList [("send",
    { href := "", description := [], returns := ["True"], fields := [⟨"from", ["Integer"], false, ""⟩] })]

/-- Its parameter. -/
def senderParam : FieldBinding := ⟨"from_user", "from", .primitive .integer, false, ""⟩

/-- The binding of that method. -/
def senderMethod : MethodBinding where
  name := "send"
  params := [senderParam]
  returns := .primitive .literalTrue
  hasAttachment := false
  snakeName := "send"
  description := []

/-- Null under the attribute hides what is under the wire name, and so does another value. Both calls are accepted. -/
theorem null_hides_argument :
    ∃ b, (Bindings.build senderSchema).result = .ok b ∧ b.method? "send" = some senderMethod ∧
      (senderMethod.params.map (·.name)).Nodup ∧
      encode b.types senderMethod [(.text "from_user", .null), (.text "from", .int 2)] = .ok ⟨"send", .json []⟩ ∧
      (∀ own attachments, IsMadeOf ⟨"send", .json []⟩ own attachments →
        ¬ Carries b.types own attachments senderParam (.int 2)) ∧
      encode b.types senderMethod [(.text "from_user", .int 1), (.text "from", .int 2)] =
        .ok ⟨"send", .json [("from", .int 1)]⟩ := by
  refine ⟨⟨.empty, .ofList [("send", senderMethod)], none⟩, ?_, by decide +kernel, by decide, by cbv, ?_, by cbv⟩
  · exact eq_ok_of_toOption (by decide +kernel)
  · rintro own attachments ⟨-, rfl, -⟩ ⟨-, -, w, -, hw, -⟩
    cases hw

end BotApi.Request
