import BotApi.Proofs.Bindings.Reachable
import BotApi.Proofs.Conversion
import BotApi.Proofs.Graph.Resolution
import Mathlib

/-!
# Questions to one tracker

A tracker is asked many questions, and each leaves answers behind for the next. A search starts further searches: of
the items and options of its expression, and, at a name that is new on its path and has no answer yet, of all that is
below the name. Each of these has fewer names left to come to, or a smaller expression, so a search ends. What it
answers is right whatever was asked before, since only answers to whole questions are kept, and these are right.

## Main results

* `wellFounded_starts` — no chain of searches, each started by the one before it, goes on for ever.
* `ask_spec` — questions that are put one after another are answered rightly, and leave only right answers behind.
* `tracker_decides_reachability` — both for the graph of a schema, and for the methods that are bound from it.
-/

namespace BotApi.FileTracker

variable {types : Table TypeNode} {known : Table Bool}

/-! ## Searches that searches start -/

/-- The first search, at an expression and on a path, is one that the second starts. -/
inductive Starts (types : Table TypeNode) (known : Table Bool) :
    List String × TypeExpr → List String × TypeExpr → Prop
  | item {path : List String} {item : TypeExpr} : Starts types known (path, item) (path, .array item)
  | option {path : List String} {options : List TypeExpr} {e : TypeExpr} (he : e ∈ options) :
    Starts types known (path, e) (path, .union options)
  | named {path : List String} {name : String} {e : TypeExpr} (hpath : name ∉ path)
    (hknown : known.find? name = none) (he : e ∈ below TypeNode.mentions types name) :
    Starts types known (name :: path, e) (path, .ref name)

/-- No chain of searches, each started by the one before it, goes on for ever. -/
theorem wellFounded_starts (types : Table TypeNode) (known : Table Bool) : WellFounded (Starts types known) := by
  -- first the names that the path has not come to become fewer, then the expression becomes smaller
  have hwf := InvImage.wf (fun search : List String × TypeExpr => (unvisited types search.1, search.2.size))
    (Prod.lex Nat.lt_wfRel Nat.lt_wfRel).wf
  refine Subrelation.wf ?_ hwf
  intro inner outer h
  cases h with
  | @item path item =>
    have hlt : item.size < (TypeExpr.array item).size := by
      rw [TypeExpr.size]
      omega
    exact Prod.Lex.right _ hlt
  | @option path options e he =>
    have hlt : e.size < (TypeExpr.union options).size := by
      have := TypeExpr.size_lt_of_mem he
      rw [TypeExpr.size]
      omega
    exact Prod.Lex.right _ hlt
  | named hpath _ he =>
    obtain ⟨node, hnode, -⟩ := mem_below_iff.1 he
    exact Prod.Lex.left _ _ (unvisited_lt (by simpa using hpath) hnode)

theorem reachesAny_eq_true_iff {path : List String} {es : List TypeExpr} :
    reachesAny types known path es = true ↔ ∃ e ∈ es, reaches types known path e = true := by
  induction es with
  | nil => simp [reachesAny]
  | cons e rest ih => simp only [reachesAny, Bool.or_eq_true, ih, List.mem_cons, exists_eq_or_imp]

theorem reaches_ref {path : List String} {name : String} {node : TypeNode} (hpath : name ∉ path)
    (hknown : known.find? name = none) (hnode : types.find? name = some node) :
    reaches types known path (.ref name) = reachesAny types known (name :: path) node.mentions := by
  rw [reaches, dif_neg (by simpa using hpath), hknown]
  dsimp only
  split
  · next hnone =>
    rw [hnode] at hnone
    cases hnone
  · next node' hnode' =>
    cases hnode.symm.trans hnode'
    rfl

/-- A search finds a file if it is at the file type, if it is remembered that there is one, or if a search that it
starts finds one. -/
theorem reaches_eq_true_iff_starts (path : List String) (e : TypeExpr) :
    reaches types known path e = true ↔
      e = .primitive .inputFile ∨ (∃ name, e = .ref name ∧ name ∉ path ∧ known.find? name = some true) ∨
        ∃ inner, Starts types known inner (path, e) ∧ reaches types known inner.1 inner.2 = true := by
  constructor
  · intro h
    cases e with
    | primitive p =>
      rw [reaches, decide_eq_true_eq] at h
      exact .inl (by rw [h])
    | array item =>
      rw [reaches] at h
      exact .inr (.inr ⟨_, .item, h⟩)
    | union options =>
      rw [reaches, reachesAny_eq_true_iff] at h
      obtain ⟨e, he, h⟩ := h
      exact .inr (.inr ⟨_, .option he, h⟩)
    | ref name =>
      rw [reaches] at h
      split at h
      · cases h
      · next hpath =>
        rw [List.contains_iff_mem] at hpath
        split at h
        · next answer hanswer =>
          subst h
          exact .inr (.inl ⟨name, rfl, hpath, hanswer⟩)
        · next hnone =>
          split at h
          · cases h
          · next node hnode =>
            obtain ⟨e, he, h⟩ := reachesAny_eq_true_iff.1 h
            exact .inr (.inr ⟨_, .named hpath hnone (mem_below_iff.2 ⟨node, hnode, he⟩), h⟩)
  · rintro (rfl | ⟨name, rfl, hpath, hanswer⟩ | ⟨inner, hstarts, h⟩)
    · rw [reaches]
      exact decide_eq_true rfl
    · rw [reaches, dif_neg (by simpa using hpath), hanswer]
    · cases hstarts with
      | item => rwa [reaches]
      | option he =>
        rw [reaches, reachesAny_eq_true_iff]
        exact ⟨_, he, h⟩
      | named hpath hnone he =>
        obtain ⟨node, hnode, he⟩ := mem_below_iff.1 he
        rw [reaches_ref hpath hnone hnode, reachesAny_eq_true_iff]
        exact ⟨_, he, h⟩

/-- A search in a graph whose references are to its own types starts searches with such references only. -/
theorem has_of_starts {g : Graph} (closed : g.IsClosed) {inner outer : List String × TypeExpr}
    (h : Starts g.types known inner outer) (hrefs : ∀ name ∈ outer.2.refs, g.Has name) :
    ∀ name ∈ inner.2.refs, g.Has name := by
  cases h with
  | item => exact hrefs
  | option he => exact fun name hname => hrefs name (TypeExpr.refs_subset_of_mem he hname)
  | named _ _ he =>
    obtain ⟨node, hnode, he⟩ := mem_below_iff.1 he
    rcases List.mem_append.1 he with he | he
    · obtain ⟨f, hf, rfl⟩ := List.mem_map.1 he
      exact closed.fields _ node hnode f hf
    · obtain ⟨variant, hv, rfl⟩ := List.mem_map.1 he
      intro name hname
      rw [List.mem_singleton.1 hname]
      exact closed.variants _ node hnode variant hv

/-! ## Questions one after another -/

/-- The answers to questions that are put one after another, and what is known after them. -/
def ask (types : Table TypeNode) : List TypeExpr → Table Bool → List Bool × Table Bool
  | [], known => ([], known)
  | e :: rest, known =>
    let (answer, known) := query types e known
    let (more, known) := ask types rest known
    (answer :: more, known)

/-- Questions that are put one after another are answered rightly, and leave only right answers behind. -/
theorem ask_spec (hknown : IsRight types known) (es : List TypeExpr) :
    List.Forall₂ (fun e answer => answer = true ↔ ReachesFile (below TypeNode.mentions types) e) es
        (ask types es known).1 ∧
      IsRight types (ask types es known).2 := by
  induction es generalizing known with
  | nil => exact ⟨.nil, hknown⟩
  | cons e rest ih =>
    obtain ⟨hanswer, hafter⟩ := query_spec hknown e
    obtain ⟨hmore, hlast⟩ := ih hafter
    exact ⟨.cons hanswer hmore, hlast⟩

/-- What was asked before makes no difference to an answer. -/
theorem query_eq_carriesFile (hknown : IsRight types known) (e : TypeExpr) :
    (query types e known).1 = carriesFile types e := by
  rw [Bool.eq_iff_iff, (query_spec hknown e).1, carriesFile, (query_spec (isRight_empty types) e).1]

/-- A search in the graph of a schema ends: its answer is made from those of the searches that it starts, no chain of
which goes on for ever, and it comes to no name that is not that of a type. Questions that are put to one tracker,
whatever they are and in whatever order, are answered by whether the file type can be reached, and so each is answered
as if it were the first. A method that is bound has attachments exactly if the file type can be reached from one of its
parameters. -/
theorem tracker_decides_reachability {schema : Schema} {g : Graph} (hg : Graph.resolve schema = .ok g) :
    (∀ known, WellFounded (Starts g.types known) ∧
      (∀ path e, reaches g.types known path e = true ↔
        e = .primitive .inputFile ∨ (∃ name, e = .ref name ∧ name ∉ path ∧ known.find? name = some true) ∨
          ∃ inner, Starts g.types known inner (path, e) ∧ reaches g.types known inner.1 inner.2 = true) ∧
      ∀ path e inner, (∀ name ∈ e.refs, g.Has name) →
        Relation.ReflTransGen (fun outer inner => Starts g.types known inner outer) (path, e) inner →
        ∀ name ∈ inner.2.refs, g.Has name) ∧
    (∀ es, List.Forall₂ (fun e answer => answer = true ↔ ReachesFile (below TypeNode.mentions g.types) e) es
      (ask g.types es .empty).1) ∧
    (∀ earlier e, (query g.types e (ask g.types earlier .empty).2).1 = carriesFile g.types e) ∧
    ∀ b, (Bindings.build schema).result = .ok b → ∀ name method, b.method? name = some method →
      (method.hasAttachment = true ↔
        ∃ p ∈ method.params, ReachesFile (below TypeNode.mentions g.types) p.type) := by
  have hempty := isRight_empty g.types
  refine ⟨fun known => ⟨wellFounded_starts g.types known, reaches_eq_true_iff_starts, ?_⟩,
    fun es => (ask_spec hempty es).1, fun earlier e => query_eq_carriesFile (ask_spec hempty earlier).2 e, ?_⟩
  · intro path e inner hrefs hsearches
    induction hsearches with
    | refl => exact hrefs
    | tail _ hstarts ih => exact has_of_starts (Graph.isClosed_of_resolve hg) hstarts ih
  · intro b hb name method hm
    -- bindings lead where their graph leads
    rw [Bindings.hasAttachment_iff hb hm, Bindings.below_of_build hb, ← below_map_typeOf,
      (Graph.resolve_eq_ok_iff.1 hg).2]

/-! ### Messages that lead back to messages -/

/-- A method that takes a tag. -/
def setTagSpec : MethodSpec where
  href := ""
  description := []
  fields := [⟨"tag", ["Tag"], true, ""⟩]
  returns := ["True"]

/-- A method that takes a link. -/
def sendLinkSpec : MethodSpec where
  href := ""
  description := []
  fields := [⟨"link", ["Link"], true, ""⟩]
  returns := ["Message"]

/-- A schema in which a link leads to a message, and a message to links and photos. -/
def threadSchema : Schema where
  version := none
  releaseDate := none
  changelog := none
  types := .ofList
    [("Message",
        { href := "", description := [], subtypes := [], subtypeOf := []
          fields := [⟨"reply", ["Message"], false, ""⟩, ⟨"media", ["Array of Media"], false, ""⟩] }),
      ("Media", { href := "", description := [], fields := [], subtypes := ["Link", "Photo"], subtypeOf := [] }),
      ("Link",
        { href := "", description := [], subtypes := [], subtypeOf := ["Media"]
          fields := [⟨"target", ["Message"], true, ""⟩] }),
      ("Photo",
        { href := "", description := [], subtypes := [], subtypeOf := ["Media"]
          fields := [⟨"source", ["String or InputFile"], true, ""⟩] }),
      ("Tag",
        { href := "", description := [], subtypes := [], subtypeOf := []
          fields := [⟨"next", ["Tag"], false, ""⟩, ⟨"name", ["String"], true, ""⟩] })]
  methods := .ofList [("setTag", setTagSpec), ("sendLink", sendLinkSpec)]

/-- The types of its graph. -/
def threadNodes : Table TypeNode where
  entries :=
    [("Message",
        { name := "Message", description := [], href := "", variants := []
          fields := [⟨"reply", .ref "Message", false, ""⟩, ⟨"media", .array (.ref "Media"), false, ""⟩] }),
      ("Media", { name := "Media", description := [], href := "", fields := [], variants := ["Link", "Photo"] }),
      ("Link",
        { name := "Link", description := [], href := "", variants := []
          fields := [⟨"target", .ref "Message", true, ""⟩] }),
      ("Photo",
        { name := "Photo", description := [], href := "", variants := []
          fields := [⟨"source", .union [.primitive .string, .primitive .inputFile], true, ""⟩] }),
      ("Tag",
        { name := "Tag", description := [], href := "", variants := []
          fields := [⟨"next", .ref "Tag", false, ""⟩, ⟨"name", .primitive .string, true, ""⟩] })]
  nodup := by decide

/-- Questions about them. The first search comes back to the name in question. -/
def threadQuestions : List TypeExpr := [.ref "Link", .ref "Tag", .array (.ref "Media"), .ref "Link", .ref "Photo"]

theorem tracker_decides_reachability_thread :
    ∃ g b setTag sendLink, Graph.resolve threadSchema = .ok g ∧
      (ask g.types threadQuestions .empty).1 = [true, false, true, true, true] ∧
      ReachesFile (below TypeNode.mentions g.types) (.ref "Link") ∧
      ¬ ReachesFile (below TypeNode.mentions g.types) (.ref "Tag") ∧
      (Bindings.build threadSchema).result = .ok b ∧
      b.method? "setTag" = some setTag ∧ setTag.hasAttachment = false ∧
      b.method? "sendLink" = some sendLink ∧ sendLink.hasAttachment = true := by
  have hnodes : threadSchema.types.map Graph.typeOf = threadNodes := by decide +kernel
  have hproblems : threadSchema.problems = [] := by decide +kernel
  have hg := Graph.resolve_eq_ok_iff.2 ⟨hproblems, rfl⟩
  -- the types can be bound, and so there are both methods
  have hbound : ((threadSchema.types.map Graph.typeOf).mapM
      (fun _ node => Bindings.bindType node)).toOption.isSome = true := by decide +kernel
  obtain ⟨types, htypes⟩ := Option.isSome_iff_exists.1 hbound
  have hb := Bindings.build_eq_ok hproblems (eq_ok_of_toOption htypes)
  obtain ⟨flag, hset, -⟩ :=
    Bindings.method?_of_build hb (show threadSchema.methods.find? "setTag" = some setTagSpec from rfl)
  obtain ⟨flag', hsend, -⟩ :=
    Bindings.method?_of_build hb (show threadSchema.methods.find? "sendLink" = some sendLinkSpec from rfl)
  obtain ⟨-, hanswers, -, hflags⟩ := tracker_decides_reachability hg
  have hask : (ask threadNodes threadQuestions .empty).1 = [true, false, true, true, true] := by cbv
  rw [← hnodes] at hask
  have hanswers := hanswers threadQuestions
  rw [hask] at hanswers
  have hlink := (List.forall₂_cons.1 hanswers).1.1 rfl
  have htag := mt (List.forall₂_cons.1 (List.forall₂_cons.1 hanswers).2).1.2 Bool.false_ne_true
  have htagText : TypeExpr.ofTexts ["Tag"] = .ref "Tag" := by decide +kernel
  have hlinkText : TypeExpr.ofTexts ["Link"] = .ref "Link" := by decide +kernel
  refine ⟨_, _, _, _, hg, hask, hlink, htag, hb, hset, ?_, hsend, ?_⟩
  · rw [← Bool.not_eq_true, hflags _ hb _ _ hset]
    rintro ⟨p, hp, hreach⟩
    rw [List.mem_singleton.1 hp] at hreach
    exact htag (htagText ▸ hreach)
  · refine (hflags _ hb _ _ hsend).2 ⟨_, List.mem_singleton_self _, ?_⟩
    show ReachesFile _ (TypeExpr.ofTexts ["Link"])
    rwa [hlinkText]

end BotApi.FileTracker
