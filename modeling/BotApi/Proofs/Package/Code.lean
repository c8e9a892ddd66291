import BotApi.Package.Formatter
import BotApi.Proofs.TypeExpr.Hints
import BotApi.Unicode.Blank
import Mathlib.Data.List.Induction
import Mathlib.Data.List.SplitBy
import Mathlib.Data.List.TakeWhile

/-!
# The code of a text

A formatter breaks lines and joins them, and on the way it adds parentheses and commas, or other quotes. What it keeps
is the code: the row of names and marks of which a text consists. Code is read here without the marks that the layout
decides on. These are blanks and quotes, which are no tokens, parentheses, and a comma before a closing bracket.

A text that is put together of others has the code of these, in their order, where each joint is marked: the one ends
there, or the other begins, with a mark that is part of no name, and no comma meets a closing bracket. For a mark that
is a fixed text this is decided by looking at its ends.

## Main results

* `code_append_of_opens`, `code_append_of_closes` — the code of a text that is put together at a mark.
* `Formatter.Keeps` — what is asked of a formatter.
-/

namespace BotApi.Package

open Unicode (isIdentifierPart isBlank)

/-! ## Tokens -/

/-- Whether a character of a text is part of no token: it stands in no name, and is a blank, a quote, or the mark that
escapes one. -/
def isQuiet (c : Char) : Bool := !isIdentifierPart c && (isBlank c || c = '"' || c = '\'' || c = '\\')

/-- Whether two characters stand in one name if the one follows the other. -/
def joined (c d : Char) : Bool := isIdentifierPart c && isIdentifierPart d

/-- The names and the marks in a text. A mark has one character. -/
def tokens (text : List Char) : List String :=
  ((text.splitBy joined).filter fun piece => !piece.all isQuiet).map String.ofList

/-- The brackets that close. -/
def closers : List String := [")", "]", "\x7d"]

/-- Tokens without those that depend on the layout. -/
def settle : List String → List String
  | [] => []
  | token :: rest =>
    if token = "(" || token = ")" || token = "," && rest.head?.any closers.contains then settle rest
    else token :: settle rest

/-- The code of a text. -/
def code (text : String) : List String := settle (tokens text.toList)

/-- Whether a formatter keeps the code of a text, if it takes the text. -/
def Formatter.Keeps {ρ : Type} (format : Formatter ρ) (lineLength : Int) (text : String) : Prop :=
  ∀ made, format lineLength text = .ok made → code made = code text

/-! ## Texts put together -/

theorem joined_eq_false_left {c : Char} (h : isIdentifierPart c = false) (d : Char) : joined c d = false := by
  rw [joined, h, Bool.false_and]

theorem joined_eq_false_right {d : Char} (c : Char) (h : isIdentifierPart d = false) : joined c d = false := by
  rw [joined, h, Bool.and_false]

theorem isIdentifierPart_of_isQuiet {c : Char} (h : isQuiet c = true) : isIdentifierPart c = false := by
  rw [isQuiet, Bool.and_eq_true, Bool.not_eq_true'] at h
  exact h.1

theorem tokens_append {before after : List Char} (h : ∀ c ∈ before.getLast?, ∀ d ∈ after.head?, joined c d = false) :
    tokens (before ++ after) = tokens before ++ tokens after := by
  rw [tokens, List.splitBy_append h, List.filter_append, List.map_append]
  rfl

theorem settle_append {before after : List String}
    (h : before.getLast? = some "," → ∀ token ∈ after.head?, token ∉ closers) :
    settle (before ++ after) = settle before ++ settle after := by
  induction before with
  | nil => rfl
  | cons token rest ih =>
    have hrest : settle (rest ++ after) = settle rest ++ settle after := by
      cases rest with
      | nil => rfl
      | cons next rest => exact ih fun hlast => h (by rw [List.getLast?_cons_cons, hlast])
    have hhead : (token = "," && (rest ++ after).head?.any closers.contains) =
        (token = "," && rest.head?.any closers.contains) := by
      cases rest with
      | cons next rest => rfl
      | nil =>
        by_cases hcomma : token = ","
        · -- the comma is the last token, and what follows is no closing bracket
          have hnone : after.head?.any closers.contains = false := by
            have hlast : [token].getLast? = some "," := by rw [hcomma, List.getLast?_singleton]
            cases hafter : after.head? with
            | none => rfl
            | some next =>
              rw [Option.any_some, ← Bool.not_eq_true, List.contains_iff_mem]
              exact h hlast next hafter
          rw [List.nil_append, hnone]
          rfl
        · rw [decide_eq_false hcomma]
          rfl
    rw [List.cons_append, settle, hhead, hrest, settle]
    split
    · rfl
    · rfl

/-- The code of a text that is put together of two. -/
theorem code_append {before after : String}
    (hname : ∀ c ∈ before.toList.getLast?, ∀ d ∈ after.toList.head?, joined c d = false)
    (hcomma : (tokens before.toList).getLast? = some "," → ∀ token ∈ (tokens after.toList).head?, token ∉ closers) :
    code (before ++ after) = code before ++ code after := by
  rw [code, String.toList_append, tokens_append hname, settle_append hcomma]
  rfl

/-! ## Joints that are marked -/

/-- The first character of a text that is part of a token. -/
def firstMark? (text : List Char) : Option Char := (text.dropWhile isQuiet).head?

/-- The last character of a text that is part of a token. -/
def lastMark? (text : List Char) : Option Char := firstMark? text.reverse

theorem firstMark?_append {before : List Char} {c : Char} (h : firstMark? before = some c) (after : List Char) :
    firstMark? (before ++ after) = some c := by
  obtain ⟨rest, hrest⟩ := List.head?_eq_some_iff.1 h
  have hsome : (before.dropWhile isQuiet).isEmpty = false := by rw [hrest, List.isEmpty_cons]
  rw [firstMark?, List.dropWhile_append, hsome, hrest]
  rfl

theorem lastMark?_append {after : List Char} {c : Char} (h : lastMark? after = some c) (before : List Char) :
    lastMark? (before ++ after) = some c := by
  rw [lastMark?, List.reverse_append]
  exact firstMark?_append h _

theorem isQuiet_of_firstMark? {text : List Char} {c : Char} (h : firstMark? text = some c) : isQuiet c = false := by
  have hne : text.dropWhile isQuiet ≠ [] := by
    intro hnil
    rw [firstMark?, hnil] at h
    cases h
  have hhead := List.head_dropWhile_not isQuiet hne
  rw [firstMark?, List.head?_eq_some_head hne, Option.some.injEq] at h
  rwa [h] at hhead

theorem tokens_singleton {c : Char} (h : isQuiet c = true) : tokens [c] = [] := by
  simp [tokens, List.splitBy, List.splitBy.loop, h]

/-- What is quiet at the beginning of a text makes no token. -/
theorem tokens_dropWhile (text : List Char) : tokens (text.dropWhile isQuiet) = tokens text := by
  induction text with
  | nil => rfl
  | cons c rest ih =>
    rw [List.dropWhile_cons]
    split
    · next h =>
      have hname : ∀ a ∈ [c].getLast?, ∀ d ∈ rest.head?, joined a d = false := by
        rintro a ha d -
        obtain rfl := Option.some.inj ha
        exact joined_eq_false_left (isIdentifierPart_of_isQuiet h) d
      rw [← List.singleton_append, tokens_append hname, tokens_singleton h, List.nil_append, ih]
    · rfl

/-- The first token starts with the first character that is part of one. -/
theorem head?_tokens {text : List Char} {c : Char} (h : firstMark? text = some c) :
    ∃ rest, (tokens text).head? = some (String.ofList (c :: rest)) := by
  have hloud := isQuiet_of_firstMark? h
  obtain ⟨more, hmore⟩ := List.head?_eq_some_iff.1 h
  rw [← tokens_dropWhile, hmore, tokens]
  -- the first piece is not empty, and it is at the beginning
  have hflat := List.flatten_splitBy joined (c :: more)
  cases hpieces : (c :: more).splitBy joined with
  | nil => exact absurd (List.splitBy_eq_nil.1 hpieces) (List.cons_ne_nil c more)
  | cons piece pieces =>
    rw [hpieces] at hflat
    cases piece with
    | nil => exact absurd (hpieces ▸ List.mem_cons_self) (List.nil_notMem_splitBy joined (c :: more))
    | cons d rest =>
      obtain rfl : d = c := (List.cons.inj hflat).1
      refine ⟨rest, ?_⟩
      rw [List.filter_cons_of_pos (by rw [List.all_cons, hloud]; rfl)]
      rfl

/-- What is quiet at the end of a text makes no token. -/
theorem tokens_append_of_isQuiet {text quiet : List Char} (h : ∀ c ∈ quiet, isQuiet c = true) :
    tokens (text ++ quiet) = tokens text := by
  induction quiet generalizing text with
  | nil => rw [List.append_nil]
  | cons c quiet ih =>
    obtain ⟨hc, hrest⟩ := List.forall_mem_cons.1 h
    have hname : ∀ a ∈ text.getLast?, ∀ d ∈ [c].head?, joined a d = false := by
      rintro a - d hd
      obtain rfl := Option.some.inj hd
      exact joined_eq_false_right a (isIdentifierPart_of_isQuiet hc)
    rw [List.append_cons, ih hrest, tokens_append hname, tokens_singleton hc, List.append_nil]

/-- The last token ends with the last character that is part of one. -/
theorem getLast?_tokens {text : List Char} {c : Char} (h : lastMark? text = some c) :
    ∃ front, (tokens text).getLast? = some (String.ofList (front ++ [c])) := by
  have hloud := isQuiet_of_firstMark? h
  obtain ⟨more, hmore⟩ := List.head?_eq_some_iff.1 h
  have hsplit : text = more.reverse ++ [c] ++ (text.reverse.takeWhile isQuiet).reverse := by
    have htext := congrArg List.reverse (List.takeWhile_append_dropWhile (p := isQuiet) (l := text.reverse))
    rw [hmore, List.reverse_append, List.reverse_reverse, List.reverse_cons] at htext
    exact htext.symm
  have hquiet : ∀ d ∈ (text.reverse.takeWhile isQuiet).reverse, isQuiet d = true := fun d hd =>
    List.mem_takeWhile_imp (List.mem_reverse.1 hd)
  rw [hsplit, tokens_append_of_isQuiet hquiet, tokens]
  -- the last piece is not empty, and it is at the end
  have hflat := List.flatten_splitBy joined (more.reverse ++ [c])
  cases hpieces : (more.reverse ++ [c]).splitBy joined using List.reverseRecOn with
  | nil => exact absurd (List.splitBy_eq_nil.1 hpieces) (by simp)
  | append_singleton pieces piece =>
    rw [hpieces, List.flatten_append, List.flatten_singleton] at hflat
    cases piece using List.reverseRecOn with
    | nil => exact absurd (hpieces ▸ List.mem_concat_self) (List.nil_notMem_splitBy joined (more.reverse ++ [c]))
    | append_singleton front d =>
      rw [← List.append_assoc] at hflat
      obtain rfl : d = c := List.singleton_inj.1 (List.append_inj_right' hflat rfl)
      refine ⟨front, ?_⟩
      rw [List.filter_append, List.filter_cons_of_pos (by simp [hloud]), List.filter_nil, List.map_append,
        List.map_singleton, List.getLast?_concat]

/-- Whether a text begins with a mark, and not with a bracket that closes. -/
def opens (text : List Char) : Bool :=
  text.head?.all (fun c => !isIdentifierPart c) && (firstMark? text).any fun c => !closers.contains (String.ofList [c])

/-- Whether a text ends with a mark, and not in a comma. -/
def closes (text : List Char) : Bool :=
  text.getLast?.all (fun c => !isIdentifierPart c) && (lastMark? text).any fun c => c ≠ ','

/-- The code of a text is the code of its parts where the second part begins with a mark. -/
theorem code_append_of_opens {mark : String} (h : opens mark.toList = true) (before after : String) :
    code (before ++ (mark ++ after)) = code before ++ code (mark ++ after) := by
  rw [opens, Bool.and_eq_true, Option.any_eq_true] at h
  obtain ⟨hhead, c, hfirst, hopen⟩ := h
  have htext := String.toList_append (s := mark) (t := after)
  refine code_append (fun a _ d hd => joined_eq_false_right a ?_) fun _ token htoken hcloser => ?_
  · -- the mark is not empty, and so the character is its first one
    have hne : mark.toList ≠ [] := by
      intro hnil
      rw [hnil] at hfirst
      cases hfirst
    rw [htext, List.head?_append_of_ne_nil _ hne] at hd
    rw [Option.mem_def.1 hd] at hhead
    simpa using hhead
  · obtain ⟨rest, hrest⟩ := head?_tokens (firstMark?_append hfirst after.toList)
    rw [htext, Option.mem_def, hrest, Option.some.injEq] at htoken
    subst htoken
    -- a closing bracket is a token of one character
    have hlength : ∀ closer ∈ closers, closer.toList.length = 1 := by decide
    have hone := hlength _ hcloser
    rw [String.toList_ofList, List.length_cons, Nat.add_eq_right, List.length_eq_zero_iff] at hone
    subst hone
    rw [List.contains_iff_mem.2 hcloser] at hopen
    cases hopen

/-- The code of a text is the code of its parts where the first part ends with a mark. -/
theorem code_append_of_closes {mark : String} (h : closes mark.toList = true) (before after : String) :
    code (before ++ mark ++ after) = code (before ++ mark) ++ code after := by
  rw [closes, Bool.and_eq_true, Option.any_eq_true] at h
  obtain ⟨hend, c, hlast, hcomma⟩ := h
  have htext := String.toList_append (s := before) (t := mark)
  refine code_append (fun a ha d _ => joined_eq_false_left ?_ d) fun heq => ?_
  · have hne : mark.toList ≠ [] := by
      intro hnil
      rw [hnil] at hlast
      cases hlast
    rw [htext, List.getLast?_append_of_ne_nil _ hne] at ha
    rw [Option.mem_def.1 ha] at hend
    simpa using hend
  · obtain ⟨front, hfront⟩ := getLast?_tokens (lastMark?_append hlast before.toList)
    rw [htext, hfront, Option.some.injEq, ← String.toList_inj, String.toList_ofList] at heq
    -- the last character would be a comma
    have hlength := congrArg List.length heq
    rw [List.length_append, List.length_singleton] at hlength
    have hnil : front = [] := List.length_eq_zero_iff.1 (Nat.add_right_cancel (hlength.trans rfl))
    rw [hnil, List.nil_append] at heq
    exact absurd (List.singleton_inj.1 heq) (of_decide_eq_true hcomma)

theorem code_mark_append {mark : String} (h : closes mark.toList = true) (after : String) :
    code (mark ++ after) = code mark ++ code after := by
  have hmark := code_append_of_closes h "" after
  rwa [String.empty_append] at hmark

/-- The code of a text around a mark. -/
theorem code_append_append {mark : String} (hopens : opens mark.toList = true) (hcloses : closes mark.toList = true)
    (before after : String) : code (before ++ (mark ++ after)) = code before ++ code mark ++ code after := by
  rw [code_append_of_opens hopens, code_mark_append hcloses, List.append_assoc]

/-! ## Names -/

/-- Blanks and quotes at the end of a text are not code. -/
theorem code_append_of_isQuiet {quiet : String} (h : quiet.toList.all isQuiet = true) (text : String) :
    code (text ++ quiet) = code text := by
  rw [code, String.toList_append, tokens_append_of_isQuiet (List.all_eq_true.1 h)]
  rfl

theorem isQuiet_of_isIdentifierPart {c : Char} (h : isIdentifierPart c = true) : isQuiet c = false := by
  by_contra hquiet
  rw [isIdentifierPart_of_isQuiet (Bool.not_eq_false _ ▸ hquiet)] at h
  cases h

theorem not_mem_closers_of_isIdentifierPart {c : Char} (h : isIdentifierPart c = true) (rest : List Char) :
    String.ofList (c :: rest) ∉ closers := by
  have hcloser : ∀ closer ∈ closers, closer.toList.any isIdentifierPart = false := by decide
  intro hm
  exact List.any_eq_false.1 (hcloser _ hm) c (by rw [String.toList_ofList]; exact List.mem_cons_self) h

/-- The end of a text is that of its last part. -/
theorem getLast?_toList_append {last : String} (hne : last.toList ≠ []) (before : String) :
    (before ++ last).toList.getLast? = last.toList.getLast? := by
  rw [String.toList_append, List.getLast?_append_of_ne_nil _ hne]

/-- The code of a text is the code of its parts where the first part ends with a mark and the second begins with a
name. -/
theorem code_append_of_name {before after : String} {c : Char}
    (hmark : before.toList.getLast?.any isIdentifierPart = false) (hfirst : firstMark? after.toList = some c)
    (hname : isIdentifierPart c = true) : code (before ++ after) = code before ++ code after := by
  have hlast := (Option.any_eq_false _ _).1 hmark
  refine code_append (fun a ha d _ => joined_eq_false_left (hlast a ha) d) fun _ token htoken => ?_
  obtain ⟨rest, hrest⟩ := head?_tokens hfirst
  rw [Option.mem_def, hrest, Option.some.injEq] at htoken
  subst htoken
  exact not_mem_closers_of_isIdentifierPart hname rest

theorem firstMark?_cons_of_isQuiet {c : Char} (h : isQuiet c = true) (text : List Char) :
    firstMark? (c :: text) = firstMark? text := by
  rw [firstMark?, List.dropWhile_cons_of_pos h]
  rfl

/-- A text that begins with a name. -/
theorem firstMark?_of_isIdentifier {name : String} (h : Unicode.isIdentifier name.toList = true) (rest : String) :
    ∃ c, firstMark? (name ++ rest).toList = some c ∧ isIdentifierPart c = true := by
  cases hchars : name.toList with
  | nil =>
    rw [hchars] at h
    cases h
  | cons c more =>
    have hc : isIdentifierPart c = true := Unicode.isIdentifierPart_of_mem h (hchars ▸ List.mem_cons_self)
    have hloud : ¬ isQuiet c = true := by rw [isQuiet_of_isIdentifierPart hc]; exact Bool.false_ne_true
    refine ⟨c, ?_, hc⟩
    rw [String.toList_append, hchars, List.cons_append, firstMark?, List.dropWhile_cons_of_neg hloud, List.head?_cons]

/-- A text that ends with a name does not end in a comma. -/
theorem getLast?_tokens_ne_of_isIdentifier {name quiet : String} (h : Unicode.isIdentifier name.toList = true)
    (hquiet : quiet.toList.all isQuiet = true) (before : String) :
    (tokens (before ++ name ++ quiet).toList).getLast? ≠ some "," := by
  obtain ⟨front, c, hchars⟩ : ∃ front c, name.toList = front ++ [c] := by
    cases hchars : name.toList using List.reverseRecOn with
    | nil =>
      rw [hchars] at h
      cases h
    | append_singleton front c => exact ⟨front, c, rfl⟩
  have hc : isIdentifierPart c = true := Unicode.isIdentifierPart_of_mem h (hchars ▸ List.mem_concat_self)
  have hlast : lastMark? (before ++ name).toList = some c := by
    have hloud : ¬ isQuiet c = true := by rw [isQuiet_of_isIdentifierPart hc]; exact Bool.false_ne_true
    rw [String.toList_append, hchars, ← List.append_assoc]
    refine lastMark?_append ?_ _
    rw [lastMark?, List.reverse_singleton, firstMark?, List.dropWhile_cons_of_neg hloud, List.head?_cons]
  obtain ⟨more, hmore⟩ := getLast?_tokens hlast
  rw [String.toList_append, tokens_append_of_isQuiet (List.all_eq_true.1 hquiet), hmore, Ne, Option.some.injEq,
    ← String.toList_inj, String.toList_ofList]
  intro heq
  -- the name would end in a comma
  have hmem : c ∈ ",".toList := heq ▸ List.mem_concat_self
  rw [List.mem_singleton.1 hmem] at hc
  exact absurd hc (by decide)

/-- A name is one token. -/
theorem code_of_isIdentifier {name : String} (h : Unicode.isIdentifier name.toList = true) : code name = [name] := by
  have hparts : ∀ c ∈ name.toList, isIdentifierPart c = true := fun c hc => Unicode.isIdentifierPart_of_mem h hc
  obtain ⟨c, rest, hchars⟩ : ∃ c rest, name.toList = c :: rest := by
    cases hchars : name.toList with
    | nil =>
      rw [hchars] at h
      cases h
    | cons c rest => exact ⟨c, rest, rfl⟩
  have hc : isIdentifierPart c = true := hparts c (hchars ▸ List.mem_cons_self)
  have hchain : name.toList.IsChain fun a b => joined a b = true := by
    refine List.Pairwise.isChain (List.pairwise_of_forall_mem_list fun a ha b hb => ?_)
    rw [joined, hparts a ha, hparts b hb]
    rfl
  have htokens : tokens name.toList = [name] := by
    have hloud : (!name.toList.all isQuiet) = true := by
      rw [hchars, List.all_cons, isQuiet_of_isIdentifierPart hc]
      rfl
    have hne : name.toList ≠ [] := by rw [hchars]; exact List.cons_ne_nil c rest
    have hkept : [name.toList].filter (fun piece => !piece.all isQuiet) = [name.toList] :=
      List.filter_cons_of_pos hloud
    rw [tokens, List.splitBy_of_isChain hne hchain, hkept, List.map_singleton, String.ofList_toList]
  have hname : ∀ mark ∈ ["(", ")", ","], name ≠ mark := by
    have hmarks : ∀ mark ∈ ["(", ")", ","], mark.toList.any isIdentifierPart = false := by decide
    rintro mark hmark rfl
    exact List.any_eq_false.1 (hmarks name hmark) c (hchars ▸ List.mem_cons_self) hc
  rw [code, htokens]
  simp [settle, hname]

/-- The code of names between commas. -/
theorem code_intercalate {names : List String} (hnames : ∀ name ∈ names, Unicode.isIdentifier name.toList = true) :
    code (", ".intercalate names) = names.intersperse "," := by
  induction names with
  | nil => rfl
  | cons name rest ih =>
    obtain ⟨hname, hrest⟩ := List.forall_mem_cons.1 hnames
    cases rest with
    | nil => rw [String.intercalate_singleton, code_of_isIdentifier hname, List.intersperse_singleton]
    | cons next more =>
      have hcomma : code ", " = [","] := by decide
      obtain ⟨c, hfirst, hpart⟩ : ∃ c, firstMark? (", ".intercalate (next :: more)).toList = some c ∧
          isIdentifierPart c = true := by
        rw [← String.append_empty (s := next), String.intercalate_cons_append]
        exact firstMark?_of_isIdentifier (List.forall_mem_cons.1 hrest).1 _
      rw [String.intercalate_cons_cons, String.append_assoc, code_append_of_opens (by decide),
        code_append_of_name (by decide) hfirst hpart, ih hrest, code_of_isIdentifier hname, hcomma,
        List.intersperse_cons_cons]
      rfl

/-! ## What code consists of -/

theorem mem_of_mem_settle {token : String} {all : List String} (h : token ∈ settle all) : token ∈ all := by
  induction all with
  | nil => exact h
  | cons first rest ih =>
    rw [settle] at h
    split at h
    · exact List.mem_cons_of_mem _ (ih h)
    · rcases List.mem_cons.1 h with rfl | h
      · exact List.mem_cons_self
      · exact List.mem_cons_of_mem _ (ih h)

/-- The characters of a token are those of the text. -/
theorem mem_of_mem_code {text token : String} (h : token ∈ code text) : ∀ c ∈ token.toList, c ∈ text.toList := by
  obtain ⟨piece, hpiece, rfl⟩ := List.mem_map.1 (mem_of_mem_settle h)
  intro c hc
  rw [String.toList_ofList] at hc
  rw [← List.flatten_splitBy joined text.toList]
  exact List.mem_flatten.2 ⟨piece, (List.mem_filter.1 hpiece).1, hc⟩

end BotApi.Package
