import Mathlib.Tactic
import Mathlib.Algebra.Order.Chebyshev

/-!
# Fpvd.Lib.LeastSquares — the line of least squares

* `slope`: the sum of products of deviations over the sum of squares; `loss`: the squared residuals of a line.
-/

namespace Fpvd.LeastSquares

open Finset

variable {ι K : Type} [Field K] (s : Finset ι) (x y : ι → K)

def mean : K := (∑ i ∈ s, x i) / s.card

def codev : K := ∑ i ∈ s, (x i - mean s x) * (y i - mean s y)

def slope : K := codev s x y / codev s x x

def loss (m b : K) : K := ∑ i ∈ s, (y i - (m * x i + b)) ^ 2

variable {s x y} [LinearOrder K] [IsStrictOrderedRing K]

theorem sum_sub_mean (hs : s.Nonempty) (f : ι → K) : ∑ i ∈ s, (f i - mean s f) = 0 := by
  have hcard : (s.card : K) ≠ 0 := by exact_mod_cast hs.card_ne_zero
  rw [sum_sub_distrib, sum_const, nsmul_eq_mul, mean, mul_div_cancel₀ _ hcard, sub_self]

theorem codev_eq (hs : s.Nonempty) : codev s x y = ∑ i ∈ s, (x i - mean s x) * y i := by
  simp only [codev, mul_sub, sum_sub_distrib, ← sum_mul, sum_sub_mean hs, zero_mul, sub_zero]

/-- The loss is that of the best line, a multiple of the square of the error of the gradient, and one of
the error at the mean. -/
theorem loss_eq (hs : s.Nonempty) (hx : codev s x x ≠ 0) (m b : K) :
    loss s x y m b = codev s y y - slope s x y ^ 2 * codev s x x +
      codev s x x * (m - slope s x y) ^ 2 + s.card * (mean s y - (m * mean s x + b)) ^ 2 := by
  set c := mean s y - (m * mean s x + b) with hc
  have hterm : ∀ i ∈ s, (y i - (m * x i + b)) ^ 2 = (y i - mean s y) * (y i - mean s y) +
      m ^ 2 * ((x i - mean s x) * (x i - mean s x)) - 2 * m * ((x i - mean s x) * (y i - mean s y)) +
      2 * c * (y i - mean s y) - 2 * m * c * (x i - mean s x) + c ^ 2 := by
    intro i _
    rw [hc]
    ring
  have hexpand : loss s x y m b =
      codev s y y + m ^ 2 * codev s x x - 2 * m * codev s x y + s.card * c ^ 2 := by
    have hx0 := sum_sub_mean hs x
    have hy0 := sum_sub_mean hs y
    simp only [sum_sub_distrib, sum_const, nsmul_eq_mul] at hx0 hy0
    rw [loss, sum_congr rfl hterm]
    simp only [sum_add_distrib, sum_sub_distrib, ← mul_sum, sum_const, nsmul_eq_mul, hx0, hy0]
    unfold codev
    ring
  have hslope : codev s x y = slope s x y * codev s x x := (div_mul_cancel₀ _ hx).symm
  rw [hexpand, hslope]
  ring

/-- **The slope is the gradient of least squares**, and the only one. -/
theorem exists_le_loss_iff (hs : s.Nonempty) (hx : 0 < codev s x x) {m : K} :
    (∃ b, ∀ m' b', loss s x y m b ≤ loss s x y m' b') ↔ m = slope s x y := by
  have hcard : (0 : K) < s.card := by exact_mod_cast hs.card_pos
  constructor
  · rintro ⟨b, hbest⟩
    have hle := hbest (slope s x y) (mean s y - slope s x y * mean s x)
    rw [loss_eq hs hx.ne', loss_eq hs hx.ne'] at hle
    have hzero : codev s x x * (m - slope s x y) ^ 2 ≤ 0 := by
      have hb : 0 ≤ s.card * (mean s y - (m * mean s x + b)) ^ 2 := by positivity
      nlinarith
    have hsq : (m - slope s x y) ^ 2 ≤ 0 := by
      by_contra hpos
      exact absurd hzero (not_le.mpr (mul_pos hx (not_le.mp hpos)))
    exact sub_eq_zero.mp (pow_eq_zero_iff two_ne_zero |>.mp (le_antisymm hsq (sq_nonneg _)))
  · rintro rfl
    refine ⟨mean s y - slope s x y * mean s x, fun m' b' => ?_⟩
    rw [loss_eq hs hx.ne', loss_eq hs hx.ne' m' b']
    have hm : 0 ≤ codev s x x * (m' - slope s x y) ^ 2 := by positivity
    have hb : 0 ≤ s.card * (mean s y - (m' * mean s x + b')) ^ 2 := by positivity
    nlinarith

theorem slope_affine (hs : s.Nonempty) (hx : 0 < codev s x x) {a b : K}
    (h : ∀ i ∈ s, y i = a * x i + b) : slope s x y = a := by
  refine ((exists_le_loss_iff hs hx).mp ⟨b, fun m' b' => ?_⟩).symm
  have hzero : loss s x y a b = 0 := sum_eq_zero fun i hi => by rw [h i hi, sub_self, zero_pow two_ne_zero]
  rw [hzero]
  exact sum_nonneg fun i _ => sq_nonneg _

theorem slope_nonneg (hs : s.Nonempty) (hx : 0 < codev s x x) (h : MonovaryOn x y s) :
    0 ≤ slope s x y := by
  have hcard : (0 : K) < s.card := by exact_mod_cast hs.card_pos
  have hvary : MonovaryOn (fun i => x i - mean s x) y s := fun i hi j hj hij =>
    sub_le_sub_right (h hi hj hij) _
  have hcheb := hvary.sum_mul_sum_le_card_mul_sum
  rw [sum_sub_mean hs, zero_mul, ← codev_eq hs] at hcheb
  exact div_nonneg (nonneg_of_mul_nonneg_right hcheb hcard) hx.le

end Fpvd.LeastSquares
