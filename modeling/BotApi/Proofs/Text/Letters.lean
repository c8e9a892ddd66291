import BotApi.Package.Source
import BotApi.Proofs.Bindings.SnakeNames

/-!
# The letters of snake case names

Snake case changes nothing in a name of ASCII except capitals and low lines. Both passes put in low lines only, so if
low lines are left out the text is the same before and after them; and what is in lower case already has no capital at
which a pass could put one in. Therefore snake case comes to an end after one conversion, and names that have become one
had the same letters.

Other names may lose more: outside ASCII there are capitals whose small letter is two characters.

## Main results

* `snake_of_no_capital` — a name of ASCII without capitals is its own snake case.
* `letters_snake` — snake case keeps the letters of a name.
* `snake_keeps_letters` — snake case has no capitals, is reached in one step, and is shared by names with the same
  letters only.
-/

namespace BotApi.Text

/-- Whether all characters of a name are of ASCII. -/
def IsAscii (name : String) : Prop := ∀ c ∈ name.toList, c.toNat < 0x80

instance : DecidablePred IsAscii := fun name => List.decidableBAll (fun c : Char => c.toNat < 0x80) name.toList

/-- The letters of a name: the name in lower case, without its low lines. -/
def letters (name : String) : List Char := (Unicode.lower name.toList).filter (· ≠ '_')

namespace Snake

variable {c : Char} {text : List Char}

/-! ## Texts without capitals -/

theorem startsWord_of_no_capital (h : ∀ c ∈ text, isCapital c = false) : startsWord text = false := by
  rw [startsWord.eq_def]
  split
  · next u l rest =>
    have hu : isCapital u = false := h u (List.mem_cons_self ..)
    rw [hu, Bool.false_and]
  · rfl

/-- Where no capital is, the first pass finds no word. -/
theorem splitWords_of_no_capital (h : ∀ c ∈ text, isCapital c = false) (inWord : Bool) :
    splitWords inWord text = text := by
  induction text generalizing inWord with
  | nil => rfl
  | cons c rest ih =>
    obtain ⟨-, hrest⟩ := List.forall_mem_cons.1 h
    cases hc : inWord && isSmall c with
    | true =>
      obtain ⟨rfl, hsmall⟩ := Bool.and_eq_true_iff.1 hc
      rw [splitWords_small hsmall, ih hrest]
    | false => rw [splitWords_pass hc (startsWord_of_no_capital hrest), ih hrest]

/-- Nor does the second pass find a capital to set off. -/
theorem splitCase_of_no_capital (h : ∀ c ∈ text, isCapital c = false) : splitCase text = text := by
  induction text with
  | nil => rfl
  | cons c rest ih =>
    obtain ⟨-, hrest⟩ := List.forall_mem_cons.1 h
    have hsame : splitCase rest = rest := ih hrest
    rw [splitCase.eq_def]
    cases rest with
    | nil => rfl
    | cons u rest =>
      have hu : isCapital u = false := hrest u (List.mem_cons_self ..)
      dsimp only
      rw [hu, Bool.and_false, if_neg Bool.false_ne_true, hsame]

/-! ## What the passes bring in -/

/-- Beside low lines there is nothing after the passes that was not there before. -/
theorem mem_of_mem_passes (hm : c ∈ splitCase (splitWords false text)) : c = '_' ∨ c ∈ text := by
  by_cases hc : c = '_'
  · exact .inl hc
  · have hkept : c ∈ (splitCase (splitWords false text)).filter (· ≠ '_') :=
      List.mem_filter.2 ⟨hm, decide_eq_true hc⟩
    rw [filter_splitCase, filter_splitWords] at hkept
    exact .inr (List.mem_of_mem_filter hkept)

theorem toNat_toLower_lt (h : c.toNat < 0x80) : c.toLower.toNat < 0x80 := by
  cases hc : isCapital c with
  | true =>
    have hsum := toNat_toLower_of_isCapital hc
    rw [isCapital_iff] at hc
    omega
  | false => rwa [toLower_of_not_isCapital hc]

theorem isCapital_toLower (c : Char) : isCapital c.toLower = false := by
  cases hc : isCapital c with
  | true =>
    have hsum := toNat_toLower_of_isCapital hc
    rw [isCapital_iff] at hc
    rw [← Bool.not_eq_true, isCapital_iff]
    omega
  | false => rwa [toLower_of_not_isCapital hc]

/-- No capital becomes a low line. -/
theorem toLower_eq_lowLine_iff : c.toLower = '_' ↔ c = '_' := by
  cases hc : isCapital c with
  | true =>
    have hsum := toNat_toLower_of_isCapital hc
    have hline : ('_' : Char).toNat = 0x5F := rfl
    rw [isCapital_iff] at hc
    -- both sides are false: a small letter comes after the low line, and a capital before it
    constructor
    · intro h
      rw [h, hline] at hsum
      omega
    · rintro rfl
      omega
  | false => rw [toLower_of_not_isCapital hc]

/-- It makes no difference whether low lines are left out before or after the lower case is taken. -/
theorem filter_map_toLower (text : List Char) :
    (text.map Char.toLower).filter (· ≠ '_') = (text.filter (· ≠ '_')).map Char.toLower := by
  rw [List.filter_map]
  congr 1
  refine List.filter_congr fun c _ => ?_
  exact decide_eq_decide.2 (not_congr toLower_eq_lowLine_iff)

end Snake

open Snake

variable {name : String}

/-- Of a name of ASCII, snake case is the lower case of what both passes leave. -/
theorem toList_snake (h : IsAscii name) :
    (snake name).toList = (splitCase (splitWords false name.toList)).map Char.toLower := by
  have hascii : ∀ c ∈ splitCase (splitWords false name.toList), c.toNat < 0x80 := by
    intro c hc
    rcases mem_of_mem_passes hc with rfl | hc
    · decide
    · exact h c hc
  rw [snake, String.toList_ofList, ofCamel, lower_of_ascii hascii]

theorem isAscii_snake (h : IsAscii name) : IsAscii (snake name) := by
  intro c hc
  rw [toList_snake h] at hc
  obtain ⟨d, hd, rfl⟩ := List.mem_map.1 hc
  have hd : d.toNat < 0x80 := by
    rcases mem_of_mem_passes hd with rfl | hd
    · decide
    · exact h d hd
  exact toNat_toLower_lt hd

theorem no_capital_snake (h : IsAscii name) : ∀ c ∈ (snake name).toList, isCapital c = false := by
  intro c hc
  rw [toList_snake h] at hc
  obtain ⟨d, -, rfl⟩ := List.mem_map.1 hc
  exact isCapital_toLower d

/-- A name of ASCII without capitals is its own snake case. -/
theorem snake_of_no_capital (h : IsAscii name) (hcapital : ∀ c ∈ name.toList, isCapital c = false) :
    snake name = name := by
  have hlower : name.toList.map Char.toLower = name.toList.map id :=
    List.map_congr_left fun c hc => toLower_of_not_isCapital (hcapital c hc)
  rw [← String.toList_inj, toList_snake h, splitWords_of_no_capital hcapital, splitCase_of_no_capital hcapital, hlower,
    List.map_id]

theorem letters_eq (h : IsAscii name) : letters name = (name.toList.filter (· ≠ '_')).map Char.toLower := by
  rw [letters, lower_of_ascii h, filter_map_toLower]

/-- Snake case has the letters of the name, and beside them low lines only. -/
theorem letters_snake (h : IsAscii name) : (snake name).toList.filter (· ≠ '_') = letters name := by
  rw [toList_snake h, filter_map_toLower, filter_splitCase, filter_splitWords, letters_eq h]

/-- Names with one snake case have the same letters. -/
theorem letters_eq_of_snake_eq {other : String} (h : IsAscii name) (hother : IsAscii other)
    (heq : snake name = snake other) : letters name = letters other := by
  rw [← letters_snake h, ← letters_snake hother, heq]

/-- The snake case of a name of ASCII has no capitals and no further snake case, and it has the letters of the name in
their order, with nothing but low lines among them. So two types have modules of one name, and two methods have one
snake case name, only if their names differ in capitals and low lines alone. -/
theorem snake_keeps_letters :
    (∀ name, IsAscii name →
      IsAscii (snake name) ∧ (∀ c ∈ (snake name).toList, c.isUpper = false) ∧ snake (snake name) = snake name ∧
        (snake name).toList.filter (· ≠ '_') = letters name) ∧
      (∀ type type', IsAscii type → IsAscii type' → Package.moduleName type = Package.moduleName type' →
        letters type = letters type') ∧
      ∀ (schema : Schema) (b : Bindings), (Bindings.build schema).result = .ok b →
        ∀ m ∈ b.methods.values, ∀ m' ∈ b.methods.values, IsAscii m.name → IsAscii m'.name →
          m.snakeName = m'.snakeName → letters m.name = letters m'.name := by
  refine ⟨fun name h => ⟨isAscii_snake h, fun c hc => ?_, ?_, letters_snake h⟩,
    fun type type' => letters_eq_of_snake_eq, fun schema b hb m hm m' hm' h h' heq => ?_⟩
  · have hcapital := no_capital_snake h c hc
    rw [← Bool.not_eq_true, isCapital_iff] at hcapital
    exact decide_eq_false hcapital
  · exact snake_of_no_capital (isAscii_snake h) (no_capital_snake h)
  · -- each method has the snake case of its own name
    have hsnake := (Bindings.names_of_find? hb (Bindings.find?_name hb hm)).2.1
    have hsnake' := (Bindings.names_of_find? hb (Bindings.find?_name hb hm')).2.1
    rw [hsnake, hsnake'] at heq
    exact letters_eq_of_snake_eq h h' heq

/-- A name with capitals in a row, a digit, a low line of its own, and a line feed. -/
def mixedName : String := "getHTTP2_URLOf\nUser"

/-- A schema with methods of one snake case name. -/
def mixedSchema : Schema where
  version := none
  releaseDate := none
  changelog := none
  types := .empty
  methods := .ofList [("getHTTPUrl", ⟨"", [], [], ["True"]⟩), ("getHttpURL", ⟨"", [], [], ["True"]⟩)]

theorem snake_keeps_letters_mixedName :
    IsAscii mixedName ∧ snake mixedName = "get_http2_url_of\nuser" ∧
      (∀ c ∈ (snake mixedName).toList, c.isUpper = false) ∧ snake (snake mixedName) = snake mixedName ∧
      (snake mixedName).toList.filter (· ≠ '_') = letters mixedName ∧
      Package.moduleName "ChatURL" = Package.moduleName "chat_url" ∧ letters "ChatURL" = letters "chat_url" ∧
      ∃ b, (Bindings.build mixedSchema).result = .ok b ∧
        b.methods.values.map (·.snakeName) = ["get_http_url", "get_http_url"] ∧
        letters "getHTTPUrl" = letters "getHttpURL" := by
  obtain ⟨hnames, hmodules, hmethods⟩ := snake_keeps_letters
  have hascii : IsAscii mixedName := by decide +kernel
  obtain ⟨-, hupper, hagain, hletters⟩ := hnames mixedName hascii
  have hmodule : Package.moduleName "ChatURL" = Package.moduleName "chat_url" := by decide +kernel
  have hb := @Bindings.build_eq_ok mixedSchema .empty (by decide +kernel) (eq_ok_of_toOption (by decide +kernel))
  refine ⟨hascii, by decide +kernel, hupper, hagain, hletters, hmodule,
    hmodules "ChatURL" "chat_url" (by decide +kernel) (by decide +kernel) hmodule, _, hb, by decide +kernel, ?_⟩
  exact hmethods mixedSchema _ hb ⟨"getHTTPUrl", [], .primitive .literalTrue, false, "get_http_url", []⟩
    (by decide +kernel) ⟨"getHttpURL", [], .primitive .literalTrue, false, "get_http_url", []⟩ (by decide +kernel)
    (by decide +kernel) (by decide +kernel) rfl

end BotApi.Text
