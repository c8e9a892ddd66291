import BotApi.TypeExpr.Basic
import BotApi.Value.Basic

/-!
# Induction over values and type expressions together

Encoding and decoding go down in the size of the value, or else in the number of abstract types that may still
be opened at it, or else in the size of the expression. `conversion_induction` packs that once, with a case
for each form of an expression. The lists below an expression or a value are left to inductions of their own.
-/

namespace BotApi

theorem TypeExpr.size_lt_of_mem {e : TypeExpr} {options : List TypeExpr} (h : e ∈ options) :
    e.size < TypeExpr.sizeOptions options := by
  induction options with
  | nil => cases h
  | cons first rest ih =>
    rw [TypeExpr.sizeOptions]
    rcases List.mem_cons.1 h with rfl | hr
    · omega
    · have hlt := ih hr
      omega

namespace Value

theorem size_lt_of_mem_items {v : Value} {items : List Value} (h : v ∈ items) :
    v.size < sizeItems items := by
  induction items with
  | nil => cases h
  | cons first rest ih =>
    rw [sizeItems]
    rcases List.mem_cons.1 h with rfl | hr
    · omega
    · have hlt := ih hr
      omega

end Value

/-- What holds of each expression at a value if it holds at all smaller values, at the same value with fewer
openings left, and of the options of a union, holds everywhere. -/
theorem conversion_induction {motive : Nat → TypeExpr → Value → Prop}
    (primitive : ∀ opens p v, motive opens (.primitive p) v)
    (array : ∀ opens item v, (∀ w, w.size < v.size → ∀ opens e, motive opens e w) →
      motive opens (.array item) v)
    (union : ∀ opens options v, (∀ e ∈ options, motive opens e v) → motive opens (.union options) v)
    (ref : ∀ opens name v, (∀ w, w.size < v.size → ∀ opens e, motive opens e w) →
      (∀ fewer, fewer < opens → ∀ e, motive fewer e v) → motive opens (.ref name) v)
    (opens : Nat) (e : TypeExpr) (v : Value) : motive opens e v := by
  -- by the size of the value, then by the openings left, then by the size of the expression
  have hvalues : ∀ n v, Value.size v = n → ∀ opens e, motive opens e v := by
    intro n
    induction n using Nat.strongRecOn with
    | ind n smaller =>
      intro v hv opens
      have hsmaller : ∀ w, w.size < v.size → ∀ opens e, motive opens e w := fun w hw =>
        smaller w.size (hv ▸ hw) w rfl
      induction opens using Nat.strongRecOn with
      | ind opens fewer =>
        have hexprs : ∀ m e, TypeExpr.size e = m → motive opens e v := by
          intro m
          induction m using Nat.strongRecOn with
          | ind m within =>
            intro e he
            cases e with
            | primitive p => exact primitive opens p v
            | array item => exact array opens item v hsmaller
            | union options =>
              refine union opens options v fun option ho => within option.size ?_ option rfl
              have hlt := TypeExpr.size_lt_of_mem ho
              rw [← he, TypeExpr.size]
              omega
            | ref name => exact ref opens name v hsmaller fewer
        exact fun e => hexprs e.size e rfl
  exact hvalues v.size v rfl opens e

end BotApi
