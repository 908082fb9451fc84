import Mathlib.Algebra.Order.Floor.Ring
import Mathlib.Tactic.Linarith
import Mathlib.Tactic.Ring

/-!
# Rounding to the nearest integer

Of two integers that are equally near the one farther from zero is taken.
-/

namespace Rounding

variable {α : Type*} [Field α] [LinearOrder α]

/-- No integer is nearer to `x` than `n`, and none as near is farther from zero. -/
structure Nearest (x : α) (n : ℤ) : Prop where
  nearest : ∀ k : ℤ, |x - n| ≤ |x - k|
  away : ∀ k : ℤ, |x - k| = |x - n| → |k| ≤ |n|

lemma Nearest.neg {x : α} {n : ℤ} (h : Nearest x n) : Nearest (-x) (-n) := by
  have hflip : ∀ k : ℤ, |-x - k| = |x - ((-k : ℤ) : α)| := by
    intro k
    rw [← abs_neg (-x - k)]
    congr 1
    push_cast
    ring
  refine ⟨fun k => ?_, fun k hk => ?_⟩
  · rw [hflip, hflip, neg_neg]
    exact h.nearest (-k)
  · rw [hflip, hflip, neg_neg] at hk
    have haway := h.away (-k) hk
    rwa [abs_neg] at haway ⊢

/-- A non-negative number and the floor of the number and a half. -/
theorem nearest_floor [IsStrictOrderedRing α] [FloorRing α] {x : α} (hx : 0 ≤ x) :
    Nearest x ⌊x + 1 / 2⌋ := by
  have hle : (⌊x + 1 / 2⌋ : α) ≤ x + 1 / 2 := Int.floor_le _
  have hlt : x + 1 / 2 < ⌊x + 1 / 2⌋ + 1 := Int.lt_floor_add_one _
  have hnonneg : 0 ≤ ⌊x + 1 / 2⌋ := Int.floor_nonneg.mpr (by linarith)
  have hhalf : |x - ⌊x + 1 / 2⌋| ≤ 1 / 2 := abs_le.mpr ⟨by linarith, by linarith⟩
  -- an integer on either side is at least a half away
  have habove : ∀ k : ℤ, ⌊x + 1 / 2⌋ < k → 1 / 2 < |x - k| := by
    intro k hk
    have hk' : (⌊x + 1 / 2⌋ : α) + 1 ≤ k := by exact_mod_cast hk
    rw [abs_sub_comm]
    exact lt_of_lt_of_le (by linarith) (le_abs_self _)
  have hbelow : ∀ k : ℤ, k < ⌊x + 1 / 2⌋ → 1 / 2 ≤ |x - k| := by
    intro k hk
    have hk' : (k : α) + 1 ≤ ⌊x + 1 / 2⌋ := by exact_mod_cast hk
    exact le_trans (by linarith) (le_abs_self _)
  refine ⟨fun k => ?_, fun k hk => ?_⟩
  · rcases lt_trichotomy k ⌊x + 1 / 2⌋ with hlow | rfl | hhigh
    · exact hhalf.trans (hbelow k hlow)
    · exact le_rfl
    · exact hhalf.trans (habove k hhigh).le
  · rcases lt_trichotomy k ⌊x + 1 / 2⌋ with hlow | rfl | hhigh
    · have hsum : (⌊x + 1 / 2⌋ : α) + k = 2 * x := by
        rcases abs_eq_abs.mp hk with h | h
        · exact absurd (by exact_mod_cast sub_right_injective h) hlow.ne
        · linarith
      have hopp : -⌊x + 1 / 2⌋ ≤ k := by
        have : (0 : α) ≤ ((⌊x + 1 / 2⌋ + k : ℤ) : α) := by push_cast; linarith
        have : 0 ≤ ⌊x + 1 / 2⌋ + k := by exact_mod_cast this
        linarith
      rw [abs_of_nonneg hnonneg]
      exact abs_le.mpr ⟨hopp, hlow.le⟩
    · exact le_rfl
    · exact absurd (hk.le.trans hhalf) (not_le.mpr (habove k hhigh))

end Rounding
