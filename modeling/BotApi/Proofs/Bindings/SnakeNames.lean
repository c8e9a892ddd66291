import BotApi.Proofs.Bindings.Resolved
import BotApi.Proofs.Text.Snake

/-!
# Methods by their snake case names

A method is looked up by its documented name, or else by its snake case. Both tables can stand in the way: another
method may have the snake case as its documented name, or the same snake case. Where neither happens, as among names in
camel case that start with a small letter, a method is found by either name.

## Main results

* `names_of_find?` — a method is under its documented name, of which its other name is the snake case.
* `method?_snakeName` — the method of a snake case that is no name of any other method.
* `snake_names_are_exact` — what the snake case of a name in camel case is, and that the method is found by it.
-/

namespace BotApi.Bindings

open Text (CamelCase)

variable {schema : Schema} {b : Bindings} {m : MethodBinding}

/-- A method is bound under its documented name, which the schema has. -/
theorem names_of_find? (h : (build schema).result = .ok b) {name : String} (hm : b.methods.find? name = some m) :
    m.name = name ∧ m.snakeName = Text.snake name ∧ name ∈ schema.methods.names := by
  rw [(of_build h).2.2] at hm
  obtain ⟨node, known, hnode, rfl⟩ := Table.exists_of_find?_mapS hm
  rw [Table.find?_map, Option.map_eq_some_iff] at hnode
  obtain ⟨spec, hspec, rfl⟩ := hnode
  exact ⟨rfl, rfl, Table.mem_names_of_find? hspec⟩

theorem find?_name (h : (build schema).result = .ok b) (hm : m ∈ b.methods.values) :
    b.methods.find? m.name = some m := by
  obtain ⟨⟨name, m⟩, hentry, rfl⟩ := List.mem_map.1 hm
  have hfind : b.methods.find? name = some m := (Entries.lookup_eq_some_iff_mem b.methods.nodup).2 hentry
  rwa [(names_of_find? h hfind).1]

/-- A method is found by its snake case, if no other method has it as its documented name or as its snake case. -/
theorem method?_snakeName (h : (build schema).result = .ok b) (hm : m ∈ b.methods.values)
    (hnames : ∀ m' ∈ b.methods.values, m'.name = m.snakeName → m'.name = m.name)
    (hsnakes : ∀ m' ∈ b.methods.values, m'.snakeName = m.snakeName → m'.name = m.name) :
    b.method? m.snakeName = some m := by
  have hfind := find?_name h hm
  rw [method?]
  cases hdirect : b.methods.find? m.snakeName with
  | some m' =>
    -- what has the snake case as its documented name is the method itself
    have hm' : m' ∈ b.methods.values := List.mem_map_of_mem (f := Prod.snd) (Table.mem_of_find? hdirect)
    have hsame := hnames m' hm' (names_of_find? h hdirect).1
    have hfind' := find?_name h hm'
    rw [hsame, hfind] at hfind'
    exact hfind'.symm
  | none =>
    have hentry : (m.snakeName, m.name) ∈ b.methods.values.map fun m => (m.snakeName, m.name) :=
      List.mem_map_of_mem hm
    have hsnake : b.snakeNames.find? m.snakeName = some m.name :=
      Table.find?_ofList_of_forall hentry (List.forall_mem_map.2 hsnakes)
    show (b.snakeNames.find? m.snakeName).bind b.methods.find? = some m
    rw [hsnake]
    exact hfind

/-- The snake case of a name in camel case is its words in lower case with single low lines between them, and it tells
names apart that start alike. So by bindings of a schema whose methods have such names, each starting with a small
letter, a method is found by its documented name and by its snake case. -/
theorem snake_names_are_exact :
    (∀ n : CamelCase,
        Text.snake n.text = String.ofList (['_'].intercalate (n.words.map fun w => w.map Char.toLower))) ∧
      (∀ n n' : CamelCase, n.startsSmall = n'.startsSmall → Text.snake n.text = Text.snake n'.text →
        n.text = n'.text) ∧
      ∀ (schema : Schema) (b : Bindings), (build schema).result = .ok b →
        (∀ name ∈ schema.methods.names, ∃ n : CamelCase, n.startsSmall = true ∧ n.text = name) →
          ∀ m ∈ b.methods.values, b.method? m.name = some m ∧ b.method? m.snakeName = some m := by
  refine ⟨CamelCase.snake_text, fun n n' => CamelCase.text_injective, fun schema b h hcamel m hm => ⟨?_, ?_⟩⟩
  · rw [method?, find?_name h hm]
  · -- the name of each method is that of a name in camel case
    have hname : ∀ m' ∈ b.methods.values, ∃ n : CamelCase,
        n.startsSmall = true ∧ n.text = m'.name ∧ m'.snakeName = Text.snake n.text := by
      intro m' hm'
      obtain ⟨-, hsnake, hmem⟩ := names_of_find? h (find?_name h hm')
      obtain ⟨n, hsmall, htext⟩ := hcamel m'.name hmem
      exact ⟨n, hsmall, htext, by rw [htext, hsnake]⟩
    obtain ⟨n, hsmall, htext, hsnake⟩ := hname m hm
    refine method?_snakeName h hm (fun m' hm' heq => ?_) fun m' hm' heq => ?_
    · obtain ⟨n', -, htext', -⟩ := hname m' hm'
      rw [← htext, ← htext']
      rw [← htext', hsnake] at heq
      exact (CamelCase.text_eq_of_snake hsmall heq.symm).symm
    · obtain ⟨n', hsmall', htext', hsnake'⟩ := hname m' hm'
      rw [← htext, ← htext']
      rw [hsnake, hsnake'] at heq
      exact CamelCase.text_injective (hsmall'.trans hsmall.symm) heq

/-- A name of three words. -/
def sendChatAction : CamelCase :=
  ⟨"send".toList, ["Chat".toList, "Action".toList], .inr (by decide), by decide⟩

/-- A name of one word, with which the other one starts. -/
def send : CamelCase := ⟨"send".toList, [], .inr (by decide), by decide⟩

/-- A schema whose methods have these names. -/
def sendSchema : Schema where
  version := none
  releaseDate := none
  changelog := none
  types := .empty
  methods := .ofList [("sendChatAction", ⟨"", [], [], ["True"]⟩), ("send", ⟨"", [], [], ["True"]⟩)]

theorem snake_names_are_exact_send :
    ∃ b, (build sendSchema).result = .ok b ∧
      (∀ name ∈ sendSchema.methods.names, ∃ n : CamelCase, n.startsSmall = true ∧ n.text = name) ∧
      Text.snake sendChatAction.text = "send_chat_action" ∧ Text.snake send.text ≠ Text.snake sendChatAction.text ∧
      b.methods.values.map (·.snakeName) = ["send_chat_action", "send"] ∧
      ∀ m ∈ b.methods.values, b.method? m.name = some m ∧ b.method? m.snakeName = some m := by
  have hcamel : ∀ name ∈ sendSchema.methods.names, ∃ n : CamelCase, n.startsSmall = true ∧ n.text = name := by
    have hnames : sendSchema.methods.names = [sendChatAction.text, send.text] := by decide
    rw [hnames]
    exact List.forall_mem_cons.2 ⟨⟨sendChatAction, by decide, rfl⟩,
      List.forall_mem_singleton.2 ⟨send, by decide, rfl⟩⟩
  obtain ⟨hsnake, hinj, hlookup⟩ := snake_names_are_exact
  have hb := @build_eq_ok sendSchema .empty (by decide +kernel) (eq_ok_of_toOption (by decide +kernel))
  refine ⟨_, hb, hcamel, (hsnake sendChatAction).trans (by decide), fun heq => ?_, by decide +kernel,
    hlookup sendSchema _ hb hcamel⟩
  exact absurd (hinj send sendChatAction rfl heq) (by decide)

end BotApi.Bindings
