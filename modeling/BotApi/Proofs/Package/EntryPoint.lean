import BotApi.Package.EntryPoint
import BotApi.Proofs.Bindings.SnakeNames
import BotApi.Proofs.Package.Docstring
import BotApi.Proofs.Request.Spellings

/-!
# The entry point of a method

The generated package has a function for each method. It takes the arguments as keywords under the attributes of the
parameters, and hands them on under the wire names, with a mark for each one that was left out. The call could as well
have been made directly, by attributes, by wire names, or by some of each: what is encoded depends on the argument of
each parameter only, and there is no difference between what is marked as not sent and what is not there.

The text of an entry point need not be a function that can be called like this. The attributes of types are checked when
bindings are made, but those of parameters are not. So the names of a method have to be such that the language takes
them: a parameter cannot be called `self`, nor by a name that is no identifier, and a private name is another one
outside the class.

## Main results

* `Request.encode_congr` — a call depends on the argument of each parameter only.
* `Request.argument?_entriesBy` — each parameter takes what is assigned to it, under either of its names.
* `Package.methodSource_eq` — the text of a method is that of a function that hands on its parameters.
* `Package.Callable.isFunction` — where the names of a method can be used, its text is taken for that function.
* `Package.entry_point_is_direct_call` — a call by an entry point and each direct call with the same arguments come to
  the same request, or to the same error.
-/

namespace BotApi

namespace Request

/-! ## The same call -/

section

variable {params : List FieldBinding} {arguments others : Arguments}

theorem unexpected?_eq_none_iff :
    unexpected? params (arguments.map fun e => e.1.toValue) = none ↔ ∀ e ∈ arguments, Names params e.1 := by
  rw [unexpected?_eq, Option.map_eq_none_iff, find?_eq_none_iff_forall (not_isName_iff params), List.forall_mem_map]
  exact forall₂_congr fun e _ => not_not

theorem supplied_congr (h : ∀ p ∈ params, argument? arguments p = argument? others p) :
    supplied arguments params = supplied others params := by
  induction params with
  | nil => rfl
  | cons p rest ih =>
    obtain ⟨hfirst, hrest⟩ := List.forall_mem_cons.1 h
    rw [supplied, supplied, hfirst, ih hrest]

/-- Where all keys belong to parameters, a call depends on the argument of each parameter only. -/
theorem encode_congr (types : Table TypeBinding) {method : MethodBinding}
    (hnames : ∀ e ∈ arguments, Names method.params e.1) (hothers : ∀ e ∈ others, Names method.params e.1)
    (h : ∀ p ∈ method.params, argument? arguments p = argument? others p) :
    encode types method arguments = encode types method others := by
  have hcollect : collect method arguments = collect method others := by
    rw [collect, collect, unexpected?_eq_none_iff.2 hnames, unexpected?_eq_none_iff.2 hothers, supplied_congr h]
  rw [encode, encode, hcollect]

end

/-! ## Assigned arguments -/

section

variable {κ : Type} {key : FieldBinding → κ} {assigned : FieldBinding → Option Value} {params : List FieldBinding}

/-- What is assigned to parameters, each under a key for its parameter. -/
def entriesBy (key : FieldBinding → κ) (assigned : FieldBinding → Option Value) (params : List FieldBinding) :
    List (κ × Value) :=
  params.filterMap fun p => (assigned p).map fun v => (key p, v)

theorem mem_entriesBy_iff {k : κ} {v : Value} :
    (k, v) ∈ entriesBy key assigned params ↔ ∃ p ∈ params, key p = k ∧ assigned p = some v := by
  rw [entriesBy, List.mem_filterMap]
  refine exists_congr fun p => and_congr_right fun _ => ?_
  rw [Option.map_eq_some_iff]
  constructor
  · rintro ⟨w, hw, heq⟩
    cases heq
    exact ⟨rfl, hw⟩
  · rintro ⟨rfl, hv⟩
    exact ⟨v, hv, rfl⟩

theorem keys_entriesBy_sublist : ((entriesBy key assigned params).map Prod.fst).Sublist (params.map key) := by
  induction params with
  | nil => exact .slnil
  | cons p rest ih =>
    rw [entriesBy, List.filterMap_cons, List.map_cons]
    cases assigned p with
    | none => exact ih.cons _
    | some v => exact ih.cons_cons _

/-- Where each parameter has a key of its own, what is found under a key is what is assigned to the parameter. -/
theorem lookup_entriesBy_eq_some_iff [DecidableEq κ] (hkeys : (params.map key).Nodup) {entries : List (κ × Value)}
    (hperm : entries.Perm (entriesBy key assigned params)) {k : κ} {v : Value} :
    entries.lookup k = some v ↔ ∃ p ∈ params, key p = k ∧ assigned p = some v := by
  have hentries : (entries.map Prod.fst).Nodup :=
    (hperm.map Prod.fst).nodup_iff.2 (keys_entriesBy_sublist.nodup hkeys)
  rw [Entries.lookup_eq_some_iff_mem hentries, hperm.mem_iff, mem_entriesBy_iff]

end

section

variable {params : List FieldBinding} {spell : FieldBinding → String} {assigned : FieldBinding → Option Value}
  (hspell : ∀ p ∈ params, Spells p (.text (spell p))) {arguments : Arguments}
  (hperm : arguments.Perm (entriesBy (fun p => .text (spell p)) assigned params))

include hspell hperm

theorem names_of_entriesBy : ∀ e ∈ arguments, Names params e.1 := by
  rintro ⟨k, v⟩ he
  obtain ⟨p, hp, rfl, -⟩ := mem_entriesBy_iff.1 (hperm.mem_iff.1 he)
  exact ⟨p, hp, hspell p hp⟩

variable (hnames : ∀ p ∈ params, p.name = attributeName p.wireName) (hn : (params.map (·.name)).Nodup)

include hnames hn

/-- Under a name of a parameter stands what is assigned to it, if it goes by that name, and nothing otherwise. -/
theorem get?_entriesBy {p : FieldBinding} (hp : p ∈ params) {s : String} (hs : Spells p (.text s)) :
    Value.get? arguments s = if spell p = s then assigned p else none := by
  have hkeys := nodup_of_attributeName (fun p hp => (hspell p hp).attributeName_eq (hnames p hp)) hn
  ext v
  rw [Value.get?, lookup_entriesBy_eq_some_iff hkeys hperm]
  constructor
  · rintro ⟨q, hq, heq, hv⟩
    -- no other parameter has a name of this one
    cases Spells.unique hnames hn hp hq hs (heq ▸ hspell q hq)
    rw [if_pos (Key.text.inj heq), hv]
  · intro h
    split at h
    · next heq => exact ⟨p, hp, by rw [heq], h⟩
    · cases h

/-- Each parameter takes what is assigned to it, under either of its names. -/
theorem argument?_entriesBy {p : FieldBinding} (hp : p ∈ params) :
    argument? arguments p = (assigned p).filter fun v => !v.isBlank := by
  have hname := get?_entriesBy hspell hperm hnames hn hp (.inl rfl)
  have hwire := get?_entriesBy hspell hperm hnames hn hp (.inr rfl)
  rw [argument?_eq, entryOf?, hname, hwire]
  by_cases hspelled : spell p = p.name
  · rw [if_pos hspelled]
    cases assigned p with
    | none => rw [ite_self]
    | some v =>
      cases v with
      | absent =>
        -- under the wire name there is the same mark or nothing
        dsimp only
        split <;> rfl
      | _ => rfl
  · rw [if_neg hspelled, if_pos (Key.text.inj ((hspell p hp).resolve_left fun h => hspelled (Key.text.inj h)))]

end

end Request

/-! ## Entry points -/

namespace Package

open Request

/-- The text of a method is that of its entry point. -/
theorem methodSource_eq (package : String) (m : MethodBinding) :
    methodSource package m = (entryPoint package m).toText := by
  have hparameter : ∀ p : FieldBinding,
      Parameter.toText ⟨p.name, p.type, !p.required⟩ = p.name ++ ": " ++ p.hint ++ defaultOf p := by
    intro p
    have hoptional : " | None | Absent = ABSENT" = " | None | Absent" ++ " = ABSENT" := by decide
    rw [Parameter.toText, FieldBinding.hint, defaultOf, hoptional]
    cases p.required with
    | true => simp
    | false => simp [String.append_assoc]
  unfold methodSource EntryPoint.toText entryPoint
  simp only [List.map_map, Function.comp_def, hparameter, List.isEmpty_map]

/-- Whether the names of a method can be used in its entry point: those of the method and its parameters are names that
can be bound, no parameter is private, and no two are one or that of the first parameter; and the types have names. -/
structure Callable (package : String) (m : MethodBinding) : Prop where
  dotted : isDotted package = true
  name : isBindable m.snakeName = true
  params : ∀ p ∈ m.params, isBindable p.name = true ∧ isPrivate (nameOf p.name) = false
  apart : (("self" :: m.params.map (·.name)).map variableOf).Nodup
  types : ∀ p ∈ m.params, ∀ name ∈ p.type.refs, isAttributeName name = true
  returns : ∀ name ∈ m.returns.refs, isAttributeName name = true
  noNul : Char.ofNat 0 ∉
    (docstring package (indentUnit ++ indentUnit) m.description m.params (some m.returns)).toList

/-! ### Names that need no escapes -/

theorem isPlain_iff {text : String} : isPlain text = true ↔ ∀ c ∈ specialChars, c ∉ text.toList := by
  rw [isPlain, List.all_eq_true]
  constructor
  · intro h c hc hm
    have hnot := h c hm
    rw [List.contains_iff_mem.2 hc] at hnot
    cases hnot
  · intro h c hm
    rw [Bool.not_eq_true', ← Bool.not_eq_true, List.contains_iff_mem]
    exact fun hc => h c hc hm

theorem isPlain_of_isIdentifier {name : String} (h : Unicode.isIdentifier name.toList = true) :
    isPlain name = true := by
  have hspecial : ∀ c ∈ specialChars, Unicode.isIdentifierStart c = false ∧ Unicode.isIdentifierPart c = false := by
    intro c hc
    simp only [specialChars, List.mem_cons, List.not_mem_nil, or_false] at hc
    rcases hc with rfl | rfl | rfl | rfl | rfl <;> decide
  exact isPlain_iff.2 fun c hc => Unicode.not_mem_of_isIdentifier (hspecial c hc).1 (hspecial c hc).2 h

theorem isIdentifier_of_isBindable {name : String} (h : isBindable name = true) :
    Unicode.isIdentifier name.toList = true := by
  rw [isBindable, isAttributeName, Bool.and_eq_true, Bool.and_eq_true] at h
  exact h.1.1

/-- A name that is an identifier once it is an attribute is one, or a keyword. -/
theorem isPlain_wireName {p : FieldBinding} (hname : p.name = attributeName p.wireName)
    (h : isBindable p.name = true) : isPlain p.wireName = true := by
  rw [hname, attributeName] at h
  split at h
  · next hfrom =>
    rw [hfrom]
    decide
  · split at h
    · next hkeyword =>
      have hplain : ∀ word ∈ keywords, isPlain word = true := by decide
      exact hplain _ (List.contains_iff_mem.1 hkeyword)
    · exact isPlain_of_isIdentifier (isIdentifier_of_isBindable h)

theorem isPlain_of_snake {name : String} (h : isBindable (Text.snake name) = true) : isPlain name = true := by
  have hspecial : ∀ c ∈ specialChars, c.toNat < 0x80 ∧ Text.Snake.isCapital c = false ∧ c ≠ '_' := by
    intro c hc
    simp only [specialChars, List.mem_cons, List.not_mem_nil, or_false] at hc
    rcases hc with rfl | rfl | rfl | rfl | rfl <;> decide
  have hsnake := isPlain_iff.1 (isPlain_of_isIdentifier (isIdentifier_of_isBindable h))
  refine isPlain_iff.2 fun c hc hm => hsnake c hc ?_
  -- snake case would have the character as well
  obtain ⟨hascii, hcapital, hline⟩ := hspecial c hc
  exact Text.mem_snake_of_mem hm hascii hcapital hline

theorem isDotted_of_isIdentifier {name : String} (h : Unicode.isIdentifier name.toList = true) :
    isDotted name = true := by
  have hdot : ∀ c ∈ name.toList, (c == '.') = false := fun c hc => by
    rw [beq_eq_false_iff_ne]
    rintro rfl
    exact Unicode.not_mem_of_isIdentifier (by decide) (by decide) h hc
  rw [isDotted, List.splitOn, List.splitOnP_eq_singleton hdot, List.all_cons, h]
  rfl

/-! ### Calls -/

theorem isDotted_of_isAttributeName {name : String} (h : isAttributeName name = true) : isDotted name = true := by
  rw [isAttributeName, Bool.and_eq_true] at h
  exact isDotted_of_isIdentifier h.1

/-- Where the names of a method can be used, the text of its entry point is taken for that function. -/
theorem Callable.isFunction {package : String} {m : MethodBinding} (h : Callable package m)
    (hname : m.snakeName = Text.snake m.name) (hnames : ∀ p ∈ m.params, p.name = attributeName p.wireName) :
    (entryPoint package m).IsFunction where
  name := h.name
  parameters := List.forall_mem_map.2 fun p hp => (h.params p hp).1
  apart := by
    have hparams : (entryPoint package m).parameters.map (·.name) = m.params.map (·.name) := by
      rw [entryPoint, List.map_map]
      rfl
    rw [hparams]
    exact h.apart
  hints := List.forall_mem_map.2 h.types
  doc := by
    have hindent : IsBare (indentUnit ++ indentUnit) := by decide
    have hfields : ∀ p ∈ m.params, isDotted p.name = true ∧ ∀ name ∈ p.type.refs, isDotted name = true := fun p hp =>
      ⟨isDotted_of_isIdentifier (isIdentifier_of_isBindable (h.params p hp).1),
        fun name hname => isDotted_of_isAttributeName (h.types p hp name hname)⟩
    have hreturns : ∀ e, some m.returns = some e → ∀ name ∈ e.refs, isDotted name = true := by
      rintro e ⟨⟩ name hname
      exact isDotted_of_isAttributeName (h.returns name hname)
    obtain ⟨hsplit, value, hvalue⟩ := splitLiteral_docstring h.dotted hindent m.description hfields hreturns []
    rw [List.append_nil] at hsplit
    refine ⟨hsplit, Option.isSome_iff_exists.2 ⟨value, hvalue⟩, ?_⟩
    rw [EntryPoint.literal, String.toList_append, String.toList_append, List.mem_append, List.mem_append, not_or,
      not_or]
    exact ⟨⟨h.noNul, by decide⟩, by decide⟩
  method := isPlain_of_snake (hname ▸ h.name)
  items := List.forall_mem_map.2 fun p hp => by
    refine ⟨isPlain_wireName (hnames p hp) (h.params p hp).1, ?_⟩
    rw [entryPoint, List.map_map]
    exact List.mem_map.2 ⟨p, hp, rfl⟩

/-- Each parameter under its wire name, with a mark where nothing is assigned. -/
def markedBy (assigned : FieldBinding → Option Value) (params : List FieldBinding) : Arguments :=
  params.map fun p => (.text p.wireName, (assigned p).getD .absent)

theorem markedBy_eq (assigned : FieldBinding → Option Value) (params : List FieldBinding) :
    markedBy assigned params =
      entriesBy (fun p => .text p.wireName) (fun p => some ((assigned p).getD .absent)) params := by
  simp only [markedBy, entriesBy, Option.map_some, List.filterMap_eq_map']

theorem mapM_eq_some_map {α β : Type} {f : α → Option β} {g : α → β} {items : List α}
    (h : ∀ a ∈ items, f a = some (g a)) : items.mapM f = some (items.map g) := by
  induction items with
  | nil => rfl
  | cons a rest ih =>
    obtain ⟨hfirst, hrest⟩ := List.forall_mem_cons.1 h
    rw [List.mapM_cons, hfirst, ih hrest]
    rfl

/-- Outside the class, a keyword is the variable of its parameter. -/
theorem keywords_perm {assigned : FieldBinding → Option Value} {params : List FieldBinding}
    {keywords : List (String × Value)} (hkeywords : keywords.Perm (entriesBy (·.name) assigned params))
    (hnormal : ∀ p ∈ params, variableOf p.name = nameOf p.name) :
    (keywords.map fun kw => (nameOf kw.1, kw.2)).Perm (entriesBy (fun p => variableOf p.name) assigned params) := by
  have hmap : (entriesBy (·.name) assigned params).map (fun kw => (nameOf kw.1, kw.2)) =
      entriesBy (fun p => variableOf p.name) assigned params := by
    rw [entriesBy, entriesBy, List.map_filterMap]
    refine List.filterMap_congr fun p hp => ?_
    rw [Option.map_map, hnormal p hp]
    rfl
  rw [← hmap]
  exact hkeywords.map _

section

variable {assigned : FieldBinding → Option Value} {method : MethodBinding}
  (hvariables : (method.params.map fun p => variableOf p.name).Nodup)

include hvariables

/-- In the function each parameter has what is assigned to it, or else the mark. -/
theorem scope?_entryPoint {keywords : List (String × Value)}
    (hkeywords : keywords.Perm (entriesBy (·.name) assigned method.params))
    (hnormal : ∀ p ∈ method.params, variableOf p.name = nameOf p.name)
    (hrequired : ∀ p ∈ method.params, p.required = true → (assigned p).isSome = true) (package : String) :
    (entryPoint package method).scope? keywords =
      some (method.params.map fun p => (variableOf p.name, (assigned p).getD .absent)) := by
  have hgiven := keywords_perm hkeywords hnormal
  have hdistinct : ((keywords.map fun kw => (nameOf kw.1, kw.2)).map Prod.fst).Nodup :=
    (hgiven.map Prod.fst).nodup_iff.2 (keys_entriesBy_sublist.nodup hvariables)
  have hknown : ∀ kw ∈ keywords.map fun kw => (nameOf kw.1, kw.2),
      kw.1 ∈ (entryPoint package method).parameters.map fun p => variableOf p.name := by
    rintro ⟨name, v⟩ hkw
    obtain ⟨p, hp, rfl, -⟩ := mem_entriesBy_iff.1 (hgiven.mem_iff.1 hkw)
    simp only [entryPoint, List.map_map, Function.comp_def]
    exact List.mem_map_of_mem (f := fun p : FieldBinding => variableOf p.name) hp
  have hlookup : ∀ p ∈ method.params,
      (keywords.map fun kw => (nameOf kw.1, kw.2)).lookup (variableOf p.name) = assigned p := by
    intro p hp
    ext v
    rw [lookup_entriesBy_eq_some_iff hvariables hgiven]
    constructor
    · rintro ⟨q, hq, heq, hv⟩
      rwa [List.inj_on_of_nodup_map hvariables hq hp heq] at hv
    · exact fun hv => ⟨p, hp, rfl, hv⟩
  rw [EntryPoint.scope?, if_pos ⟨hdistinct, hknown⟩, entryPoint, List.mapM_map]
  refine mapM_eq_some_map fun p hp => ?_
  dsimp only [Function.comp_apply]
  rw [hlookup p hp]
  cases hv : assigned p with
  | some v => rfl
  | none =>
    -- only an optional parameter may be left out
    cases hneeded : p.required with
    | false => rfl
    | true =>
      have hsome := hrequired p hp hneeded
      rw [hv] at hsome
      cases hsome

theorem mapping?_entryPoint (hwires : (method.params.map (·.wireName)).Nodup) (package : String) :
    (entryPoint package method).mapping? (method.params.map fun p => (variableOf p.name, (assigned p).getD .absent)) =
      some (markedBy assigned method.params) := by
  have hscope : ∀ p ∈ method.params,
      (method.params.map fun p => (variableOf p.name, (assigned p).getD .absent)).lookup (variableOf p.name) =
        some ((assigned p).getD .absent) := by
    intro p hp
    have hdistinct :
        ((method.params.map fun p => (variableOf p.name, (assigned p).getD .absent)).map Prod.fst).Nodup := by
      simp only [List.map_map, Function.comp_def]
      exact hvariables
    rw [Entries.lookup_eq_some_iff_mem hdistinct]
    exact List.mem_map_of_mem (f := fun p : FieldBinding => (variableOf p.name, (assigned p).getD .absent)) hp
  have hkeys : ((markedBy assigned method.params).map Prod.fst).Nodup := by
    have h := hwires.map (f := Key.text) fun _ _ h => Key.text.inj h
    rw [List.map_map] at h
    rwa [markedBy, List.map_map]
  rw [EntryPoint.mapping?, entryPoint, List.mapM_map,
    mapM_eq_some_map (g := fun p => (.text p.wireName, (assigned p).getD .absent))]
  · show some (Entries.merge (markedBy assigned method.params)) = _
    rw [Entries.merge_of_nodup hkeys]
  · intro p hp
    dsimp only [Function.comp_apply]
    rw [hscope p hp]
    rfl

end

section

variable {schema : Schema} {b : Bindings} {name : String} {method : MethodBinding}

theorem snakeName_of_method? (hb : (Bindings.build schema).result = .ok b) (hm : b.method? name = some method) :
    method.snakeName = Text.snake method.name := by
  obtain ⟨other, hother⟩ := Bindings.exists_find?_of_method? hm
  obtain ⟨hname, hsnake, -⟩ := Bindings.names_of_find? hb hother
  rw [hsnake, hname]

/-- It makes no difference under which of its names each argument is given, nor in which order. The text of an entry
point is that of a function that takes the arguments as keywords and hands on a mapping under the wire names, where what
was left out is marked, to the method of that name, if the names of the method can be used there; and this makes no
difference either. -/
theorem entry_point_is_direct_call (hb : (Bindings.build schema).result = .ok b) (hm : b.method? name = some method)
    (hn : (method.params.map (·.name)).Nodup) (assigned : FieldBinding → Option Value) :
    (∀ spell : FieldBinding → String, (∀ p ∈ method.params, spell p = p.name ∨ spell p = p.wireName) →
      ∀ arguments : Arguments, arguments.Perm (entriesBy (fun p => .text (spell p)) assigned method.params) →
        encode b.types method arguments =
          encode b.types method (entriesBy (fun p => .text p.name) assigned method.params)) ∧
    ∀ package, methodSource package method = (entryPoint package method).toText ∧
      (Callable package method → (∀ p ∈ method.params, p.required = true → (assigned p).isSome = true) →
        ∀ keywords : List (String × Value), keywords.Perm (entriesBy (·.name) assigned method.params) →
          (entryPoint package method).forwards? keywords = some (method.name, markedBy assigned method.params) ∧
          b.method? method.name = some method ∧
          encode b.types method (markedBy assigned method.params) =
            encode b.types method (entriesBy (fun p => .text p.name) assigned method.params)) := by
  have hnames : ∀ p ∈ method.params, p.name = attributeName p.wireName := fun p hp => Bindings.name_of_param hb hm hp
  have hwires := Bindings.nodup_wireName_of_nodup_name hnames hn
  have hbyName : ∀ p ∈ method.params, Spells p (.text p.name) := fun p _ => .inl rfl
  have hbyWire : ∀ p ∈ method.params, Spells p (.text p.wireName) := fun p _ => .inr rfl
  refine ⟨fun spell hspell arguments hperm => ?_, fun package => ⟨methodSource_eq package method, ?_⟩⟩
  · have hspell : ∀ p ∈ method.params, Spells p (.text (spell p)) := fun p hp =>
      (hspell p hp).imp (congrArg Key.text) (congrArg Key.text)
    refine encode_congr b.types (names_of_entriesBy hspell hperm) (names_of_entriesBy hbyName (.refl _)) fun p hp => ?_
    rw [argument?_entriesBy hspell hperm hnames hn hp, argument?_entriesBy hbyName (.refl _) hnames hn hp]
  · intro hcallable hrequired keywords hkeywords
    have hfunction := hcallable.isFunction (snakeName_of_method? hb hm) hnames
    have hvariables : (method.params.map fun p => variableOf p.name).Nodup := by
      have hapart := (List.nodup_cons.1 hcallable.apart).2
      simp only [List.map_map, Function.comp_def] at hapart
      exact hapart
    have hnormal : ∀ p ∈ method.params, variableOf p.name = nameOf p.name := by
      intro p hp
      rw [variableOf, (hcallable.params p hp).2]
      rfl
    refine ⟨?_, Bindings.method?_name hb hm, ?_⟩
    · rw [EntryPoint.forwards?, if_pos hfunction, scope?_entryPoint hvariables hkeywords hnormal hrequired package,
        Option.bind_some, mapping?_entryPoint hvariables hwires package]
      rfl
    · rw [markedBy_eq]
      refine encode_congr b.types (names_of_entriesBy hbyWire (.refl _)) (names_of_entriesBy hbyName (.refl _))
        fun p hp => ?_
      rw [argument?_entriesBy hbyWire (.refl _) hnames hn hp, argument?_entriesBy hbyName (.refl _) hnames hn hp]
      -- the mark counts as none
      cases assigned p <;> rfl

end

/-- A method with parameters that have other names as attributes. -/
def noteSchema : Schema where
  version := none
  releaseDate := none
  changelog := none
  types := .empty
  methods := .ofList [("sendNote",
    { href := "", description := [], returns := ["True"]
      fields := [⟨"from", ["Integer"], false, ""⟩, ⟨"text", ["String"], true, ""⟩, ⟨"class", ["String"], false, ""⟩] })]

/-- The binding of that method. -/
def noteMethod : MethodBinding where
  name := "sendNote"
  params :=
    [⟨"from_user", "from", .primitive .integer, false, ""⟩, ⟨"text", "text", .primitive .string, true, ""⟩,
      ⟨"class_", "class", .primitive .string, false, ""⟩]
  returns := .primitive .literalTrue
  hasAttachment := false
  snakeName := "send_note"
  description := []

/-- A note without a class. -/
def noteAssigned (p : FieldBinding) : Option Value :=
  if p.name = "from_user" then some (.int 7) else if p.name = "text" then some (.text "a") else none

theorem entry_point_is_direct_call_note :
    ∃ b, (Bindings.build noteSchema).result = .ok b ∧ b.method? "sendNote" = some noteMethod ∧
      (noteMethod.params.map (·.name)).Nodup ∧ Callable "bot" noteMethod ∧
      (∀ p ∈ noteMethod.params, p.required = true → (noteAssigned p).isSome = true) ∧
      encode b.types noteMethod [(.text "text", .text "a"), (.text "from", .int 7)] =
        encode b.types noteMethod [(.text "from_user", .int 7), (.text "text", .text "a")] ∧
      (entryPoint "bot" noteMethod).forwards? [("text", .text "a"), ("from_user", .int 7)] =
        some ("sendNote", [(.text "from", .int 7), (.text "text", .text "a"), (.text "class", .absent)]) ∧
      encode b.types noteMethod [(.text "from", .int 7), (.text "text", .text "a"), (.text "class", .absent)] =
        encode b.types noteMethod [(.text "from_user", .int 7), (.text "text", .text "a")] ∧
      encode b.types noteMethod [(.text "from_user", .int 7), (.text "text", .text "a")] =
        .ok ⟨"sendNote", .json [("from", .int 7), ("text", .text "a")]⟩ := by
  have hb : (Bindings.build noteSchema).result = .ok ⟨.empty, .ofList [("sendNote", noteMethod)], none⟩ :=
    eq_ok_of_toOption (by decide +kernel)
  have hm : Bindings.method? ⟨.empty, .ofList [("sendNote", noteMethod)], none⟩ "sendNote" = some noteMethod := by
    decide +kernel
  have hn : (noteMethod.params.map (·.name)).Nodup := by decide
  have hcallable : Callable "bot" noteMethod := by constructor <;> decide +kernel
  have hrequired : ∀ p ∈ noteMethod.params, p.required = true → (noteAssigned p).isSome = true := by decide
  obtain ⟨hmixed, hentry⟩ := entry_point_is_direct_call hb hm hn noteAssigned
  have hwire := hmixed (·.wireName) (fun _ _ => .inr rfl) [(.text "text", .text "a"), (.text "from", .int 7)]
    (.swap _ _ [])
  obtain ⟨hforwards, -, hmarked⟩ := (hentry "bot").2 hcallable hrequired [("text", .text "a"), ("from_user", .int 7)]
    (.swap _ _ [])
  exact ⟨_, hb, hm, hn, hcallable, hrequired, hwire, hforwards, hmarked, by cbv⟩

/-- A method with a parameter that has the name of the first parameter of each entry point. -/
def selfSchema : Schema where
  version := none
  releaseDate := none
  changelog := none
  types := .empty
  methods := .ofList [("mute", { href := "", description := ["Mutes a chat."], returns := ["True"]
                                 fields := [⟨"self", ["String"], true, ""⟩] })]

/-- The binding of that method. -/
def selfMethod : MethodBinding where
  name := "mute"
  params := [⟨"self", "self", .primitive .string, true, ""⟩]
  returns := .primitive .literalTrue
  hasAttachment := false
  snakeName := "mute"
  description := ["Mutes a chat."]

/-- Such a method can be called directly, but its entry point has two parameters of one name and is no function. -/
theorem entry_point_with_self :
    ∃ b, (Bindings.build selfSchema).result = .ok b ∧ b.method? "mute" = some selfMethod ∧
      (selfMethod.params.map (·.name)).Nodup ∧
      encode b.types selfMethod [(.text "self", .text "a")] = .ok ⟨"mute", .json [("self", .text "a")]⟩ ∧
      ∀ package keywords, methodSource package selfMethod = (entryPoint package selfMethod).toText ∧
        (entryPoint package selfMethod).forwards? keywords = none := by
  have hb : (Bindings.build selfSchema).result = .ok ⟨.empty, .ofList [("mute", selfMethod)], none⟩ :=
    eq_ok_of_toOption (by decide +kernel)
  refine ⟨_, hb, by decide +kernel, by decide, by cbv, fun package keywords => ⟨methodSource_eq package selfMethod, ?_⟩⟩
  have hnot : ¬ (entryPoint package selfMethod).IsFunction := fun h =>
    absurd h.apart (by show ¬ (["self", "self"].map variableOf).Nodup; decide)
  rw [EntryPoint.forwards?, if_neg hnot]

end Package

end BotApi
