/-!
# Results that may fail

How a result arises that is made step by step, where each step may fail, and in which way.
-/

namespace BotApi

variable {ε ε' α β : Type}

theorem map_eq_ok_iff {f : α → β} {x : Except ε α} {b : β} :
    f <$> x = .ok b ↔ ∃ a, x = .ok a ∧ f a = b := by
  cases x with
  | ok a => simp [Functor.map, Except.map]
  | error e => simp [Functor.map, Except.map]

theorem map_eq_error_iff {f : α → β} {x : Except ε α} {e : ε} : f <$> x = .error e ↔ x = .error e := by
  cases x with
  | ok a => simp [Functor.map, Except.map]
  | error e' => simp [Functor.map, Except.map]

theorem bind_eq_ok_iff {x : Except ε α} {f : α → Except ε β} {b : β} :
    x >>= f = .ok b ↔ ∃ a, x = .ok a ∧ f a = .ok b := by
  cases x with
  | ok a => simp [bind, Except.bind]
  | error e => simp [bind, Except.bind]

theorem bind_eq_error_iff {x : Except ε α} {f : α → Except ε β} {e : ε} :
    x >>= f = .error e ↔ x = .error e ∨ ∃ a, x = .ok a ∧ f a = .error e := by
  cases x with
  | ok a => simp [bind, Except.bind]
  | error e' => simp [bind, Except.bind]

theorem mapError_eq_ok_iff {f : ε → ε'} {x : Except ε α} {a : α} : x.mapError f = .ok a ↔ x = .ok a := by
  constructor
  · intro h
    cases x with
    | ok b =>
      cases h
      rfl
    | error e => cases h
  · rintro rfl
    rfl

theorem mapError_eq_error_iff {f : ε → ε'} {x : Except ε α} {e : ε'} :
    x.mapError f = .error e ↔ ∃ e', x = .error e' ∧ f e' = e := by
  constructor
  · intro h
    cases x with
    | ok b => cases h
    | error e' => exact ⟨e', rfl, Except.error.inj h⟩
  · rintro ⟨e', rfl, rfl⟩
    rfl

theorem eq_ok_of_toOption {x : Except ε α} {a : α} (h : x.toOption = some a) : x = .ok a := by
  cases x with
  | ok b =>
    cases h
    rfl
  | error e => cases h

/-- Each result in a row is that of its item. -/
theorem mapM_cons_eq_ok_iff {f : α → Except ε β} {a : α} {rest : List α} {bs : List β} :
    (a :: rest).mapM f = .ok bs ↔ ∃ b more, f a = .ok b ∧ rest.mapM f = .ok more ∧ bs = b :: more := by
  rw [List.mapM_cons, bind_eq_ok_iff]
  constructor
  · rintro ⟨b, hb, h⟩
    obtain ⟨more, hm, h⟩ := bind_eq_ok_iff.1 h
    cases h
    exact ⟨b, more, hb, hm, rfl⟩
  · rintro ⟨b, more, hb, hm, rfl⟩
    exact ⟨b, hb, bind_eq_ok_iff.2 ⟨more, hm, rfl⟩⟩

theorem mapM_nil_eq_ok_iff {f : α → Except ε β} {bs : List β} : ([] : List α).mapM f = .ok bs ↔ bs = [] := by
  rw [List.mapM_nil]
  constructor
  · intro h
    cases h
    rfl
  · rintro rfl
    rfl

/-! ## Results that fail in one way -/

/-- Whether a result is a value, or else one certain error that has a cause. -/
def FailsOnly (e : ε) (cause : Prop) (x : Except ε α) : Prop := (∃ a, x = .ok a) ∨ (x = .error e ∧ cause)

namespace FailsOnly

variable {e : ε} {cause cause' : Prop} {x : Except ε α}

theorem imp (h : FailsOnly e cause x) (himp : cause → cause') : FailsOnly e cause' x :=
  h.imp_right fun h => ⟨h.1, himp h.2⟩

theorem exists_ok (h : FailsOnly e cause x) (hno : ¬ cause) : ∃ a, x = .ok a :=
  h.resolve_right fun h => hno h.2

theorem map (f : α → β) (h : FailsOnly e cause x) : FailsOnly e cause (f <$> x) := by
  rcases h with ⟨a, rfl⟩ | ⟨rfl, hcause⟩
  · exact .inl ⟨f a, rfl⟩
  · exact .inr ⟨rfl, hcause⟩

theorem bind {f : α → Except ε β} (h : FailsOnly e cause x) (hf : ∀ a, x = .ok a → FailsOnly e cause (f a)) :
    FailsOnly e cause (x >>= f) := by
  rcases h with ⟨a, rfl⟩ | ⟨rfl, hcause⟩
  · exact hf a rfl
  · exact .inr ⟨rfl, hcause⟩

theorem mapM {f : α → Except ε β} {items : List α} (h : ∀ a ∈ items, FailsOnly e cause (f a)) :
    FailsOnly e cause (items.mapM f) := by
  induction items with
  | nil => exact .inl ⟨[], rfl⟩
  | cons a rest ih =>
    obtain ⟨hfirst, hrest⟩ := List.forall_mem_cons.1 h
    rw [List.mapM_cons]
    exact hfirst.bind fun b _ => (ih hrest).map (b :: ·)

end FailsOnly

/-! ## Results that are kept -/

/-- Whether a second result is the first one, or else one certain error that has a cause. -/
def KeptUnless (e : ε) (cause : Prop) (x y : Except ε α) : Prop := y = x ∨ (y = .error e ∧ cause)

namespace KeptUnless

variable {e : ε} {cause cause' : Prop} {x y : Except ε α}

theorem refl (x : Except ε α) : KeptUnless e cause x x := .inl rfl

theorem imp (h : KeptUnless e cause x y) (himp : cause → cause') : KeptUnless e cause' x y :=
  h.imp_right fun h => ⟨h.1, himp h.2⟩

theorem bind {f g : α → Except ε β} (h : KeptUnless e cause x y) (hfg : ∀ a, KeptUnless e cause (f a) (g a)) :
    KeptUnless e cause (x >>= f) (y >>= g) := by
  rcases h with rfl | ⟨rfl, hcause⟩
  · cases y with
    | ok a => exact hfg a
    | error s => exact refl _
  · exact .inr ⟨rfl, hcause⟩

theorem map (f : α → β) (h : KeptUnless e cause x y) : KeptUnless e cause (f <$> x) (f <$> y) := by
  rcases h with rfl | ⟨rfl, hcause⟩
  · exact refl _
  · exact .inr ⟨rfl, hcause⟩

end KeptUnless

end BotApi
