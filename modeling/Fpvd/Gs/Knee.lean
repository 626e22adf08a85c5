import Mathlib.Data.List.GetD
import Fpvd.Lib.LeastSquares

/-!
# Fpvd.Gs.Knee — the learned SNR knees (`gs/fpvdgs/dynlink/learned_prior.py`)

`knee[K]` is an SNR at which rung `K` was seen to fail, `count[K]` its decayed confidence.  Floats are
exact rationals.

The facade `LearnedPrior` adds `None` handling and, in `Gs.PriorFile`, its file.
-/

namespace Fpvd.Gs

def maxMcs : ℕ := 7

def lsqSlope (samples : List ℚ) : ℚ :=
  let n := samples.length
  if n < 2 then 0
  else
    let meanX : ℚ := ((n : ℚ) - 1) / 2
    let meanY := samples.sum / n
    let num := (samples.zipIdx.map fun (y, i) => ((i : ℚ) - meanX) * (y - meanY)).sum
    let den := ((List.range n).map fun i => ((i : ℚ) - meanX) ^ 2).sum
    if den ≠ 0 then num / den else 0

/-! ## The slope -/

section Slope

open Finset LeastSquares

variable {samples : List ℚ}

def squaredResiduals (samples : List ℚ) (m b : ℚ) : ℚ :=
  (samples.zipIdx.map fun (y, i) => (y - (m * i + b)) ^ 2).sum

theorem sum_zipIdx (samples : List ℚ) (f : ℚ × ℕ → ℚ) :
    (samples.zipIdx.map f).sum = ∑ i ∈ range samples.length, f (samples.getD i 0, i) := by
  induction samples using List.reverseRecOn with
  | nil => simp
  | append_singleton samples y ih =>
    rw [List.zipIdx_append, List.map_append, List.sum_append, ih, List.length_append,
      List.length_singleton, sum_range_succ]
    congr 1
    · refine sum_congr rfl fun i hi => ?_
      rw [List.getD_append _ _ _ _ (mem_range.mp hi)]
    · simp

abbrev ticks (i : ℕ) : ℚ := i

theorem mean_ticks {n : ℕ} (hn : n ≠ 0) : mean (range n) ticks = ((n : ℚ) - 1) / 2 := by
  have hgauss : (∑ i ∈ range n, (i : ℚ)) * 2 = n * ((n : ℚ) - 1) := by
    have hnat := sum_range_id_mul_two n
    have hcast : ((n - 1 : ℕ) : ℚ) = (n : ℚ) - 1 := by
      rw [Nat.cast_sub (Nat.one_le_iff_ne_zero.mpr hn), Nat.cast_one]
    rw [← hcast, ← Nat.cast_sum]
    exact_mod_cast hnat
  have hn' : (n : ℚ) ≠ 0 := by exact_mod_cast hn
  rw [mean, card_range, div_eq_iff hn']
  linarith

theorem codev_ticks_pos {n : ℕ} (hn : 2 ≤ n) : 0 < codev (range n) ticks ticks := by
  refine sum_pos' (fun i _ => mul_self_nonneg _) ⟨0, mem_range.mpr (by omega), ?_⟩
  have hn' : (2 : ℚ) ≤ n := by exact_mod_cast hn
  rw [mean_ticks (by omega)]
  refine mul_self_pos.mpr (ne_of_lt ?_)
  simp only [ticks, Nat.cast_zero]
  linarith

theorem lsqSlope_eq (hn : 2 ≤ samples.length) :
    lsqSlope samples = slope (range samples.length) ticks (samples.getD · 0) := by
  have hsum : samples.sum = ∑ i ∈ range samples.length, samples.getD i 0 := by
    have h := sum_zipIdx samples Prod.fst
    rwa [List.zipIdx_map_fst] at h
  have hden : ((List.range samples.length).map fun i =>
      ((i : ℚ) - ((samples.length : ℚ) - 1) / 2) ^ 2).sum =
      codev (range samples.length) ticks ticks := by
    rw [codev, mean_ticks (by omega)]
    simp only [← sq]
    change (((List.range samples.length).flatMap (pure ∘ Nat.cast)).map _).sum = _
    rw [List.flatMap_pure_eq_map, List.map_map]
    rfl
  unfold lsqSlope
  dsimp only
  rw [if_neg (by omega), hden, if_pos (codev_ticks_pos hn).ne', sum_zipIdx, hsum]
  simp only [LeastSquares.slope, codev, mean_ticks (show samples.length ≠ 0 by omega)]
  simp only [mean, card_range]

theorem lsqSlope_const {s : ℚ} (h : ∀ x ∈ samples, x = s) : lsqSlope samples = 0 := by
  by_cases hn : 2 ≤ samples.length
  · rw [lsqSlope_eq hn]
    refine slope_affine (b := s) (nonempty_range_iff.mpr (by omega)) (codev_ticks_pos hn) fun i hi => ?_
    rw [zero_mul, zero_add, List.getD_eq_getElem _ _ (mem_range.mp hi)]
    exact h _ (List.getElem_mem _)
  · rw [lsqSlope, if_pos (by omega)]

theorem lsqSlope_reverse (hn : 2 ≤ samples.length) :
    lsqSlope samples.reverse = -lsqSlope samples := by
  have hs : (range samples.length).Nonempty := nonempty_range_iff.mpr (by omega)
  rw [lsqSlope_eq hn, lsqSlope_eq (by rwa [List.length_reverse]), List.length_reverse,
    LeastSquares.slope, LeastSquares.slope, ← neg_div]
  congr 1
  rw [codev_eq hs, codev_eq hs, ← sum_range_reflect, ← sum_neg_distrib]
  refine sum_congr rfl fun i hi => ?_
  have hi' := mem_range.mp hi
  have hplace : ticks (samples.length - 1 - i) - mean (range samples.length) ticks =
      -(ticks i - mean (range samples.length) ticks) := by
    rw [mean_ticks (by omega)]
    simp only [ticks]
    rw [Nat.cast_sub (by omega), Nat.cast_sub (by omega)]
    push_cast
    ring
  have hvalue : samples.reverse.getD (samples.length - 1 - i) 0 = samples.getD i 0 := by
    rw [List.getD_eq_getElem _ _ (by rw [List.length_reverse]; omega), List.getD_eq_getElem _ _ hi',
      List.getElem_reverse]
    congr 1
    omega
  rw [hplace, hvalue, neg_mul]

/-- **The slope is the least-squares slope**: it alone is the gradient of a line with the smallest squared
residuals.  It is exact on ramps, does not see a constant, changes its sign with the direction of time,
and is not negative for samples that do not fall. -/
theorem lsqSlope_laws (samples : List ℚ) (hn : 2 ≤ samples.length) :
    (∀ m, (∃ b, ∀ m' b', squaredResiduals samples m b ≤ squaredResiduals samples m' b') ↔
      m = lsqSlope samples) ∧
    (∀ a b : ℚ, lsqSlope ((List.range samples.length).map fun i : ℕ => a * i + b) = a) ∧
    (∀ c, lsqSlope (samples.map (· + c)) = lsqSlope samples) ∧
    lsqSlope samples.reverse = -lsqSlope samples ∧
    (samples.Pairwise (· ≤ ·) → 0 ≤ lsqSlope samples) := by
  have hs : (range samples.length).Nonempty := nonempty_range_iff.mpr (by omega)
  have hx := codev_ticks_pos hn
  have hloss : ∀ m b, squaredResiduals samples m b =
      loss (range samples.length) ticks (samples.getD · 0) m b := fun m b => sum_zipIdx samples _
  refine ⟨fun m => ?_, fun a b => ?_, fun c => ?_, lsqSlope_reverse hn, fun hmono => ?_⟩
  · simp only [hloss, lsqSlope_eq hn]
    exact exists_le_loss_iff hs hx
  · rw [lsqSlope_eq (by simpa using hn), List.length_map, List.length_range]
    refine slope_affine (b := b) hs hx fun i hi => ?_
    rw [List.getD_eq_getElem _ _ (by simpa using hi)]
    simp
  · rw [lsqSlope_eq (by simpa using hn), lsqSlope_eq hn, List.length_map,
      LeastSquares.slope, LeastSquares.slope]
    congr 1
    rw [codev_eq hs, codev_eq hs]
    have hadd : ∀ i ∈ range samples.length, (ticks i - mean (range samples.length) ticks) *
        (samples.map (· + c)).getD i 0 = (ticks i - mean (range samples.length) ticks) *
          samples.getD i 0 + (ticks i - mean (range samples.length) ticks) * c := by
      intro i hi
      have hi' := mem_range.mp hi
      rw [List.getD_eq_getElem _ _ (by simpa using hi'), List.getD_eq_getElem _ _ hi', List.getElem_map,
        mul_add]
    rw [sum_congr rfl hadd, sum_add_distrib, ← sum_mul, sum_sub_mean hs, zero_mul, add_zero]
  · rw [lsqSlope_eq hn]
    refine slope_nonneg hs hx fun i hi j hj hij => ?_
    simp only [coe_range, Set.mem_Iio] at hi hj
    by_contra hji
    have hlt : j < i := by simpa using hji
    rw [List.getD_eq_getElem _ _ hi, List.getD_eq_getElem _ _ hj] at hij
    exact absurd (List.pairwise_iff_getElem.mp hmono j i hj hi hlt) (not_le.mpr hij)

/-- A rise of two over two ticks, with a dip. -/
theorem lsqSlope_laws_dip : lsqSlope [0, -1, 2] = 1 ∧ lsqSlope [2, -1, 0] = -1 := by
  have hone : lsqSlope [0, -1, 2] = 1 := by decide +kernel
  exact ⟨hone, by simpa [hone] using (lsqSlope_laws [0, -1, 2] (by decide)).2.2.2.1⟩

end Slope

/-- The knobs of the prior; the predictive ones are frozen. -/
structure LearnedPriorConfig where
  settleTicks : ℤ := 5
  viableLoss : ℚ := 5 / 100
  alphaTighten : ℚ := 25 / 100
  alphaRelax : ℚ := 5 / 100
  minSamples : ℚ := 8
  recencyDecay : ℚ := 9995 / 10000
  predictiveHorizonTicks : ℤ := 3
  predictiveSlopeWindowTicks : ℕ := 10
  predictiveMinDropDb : ℚ := 1
  predictiveDebounceWindows : ℤ := 3
  predictiveDemoteMarginDb : ℚ := 3 / 2
  deriving DecidableEq, Repr

structure KneeModel where
  knee : List (Option ℚ) := List.replicate (maxMcs + 1) none
  count : List ℚ := List.replicate (maxMcs + 1) 0
  knee_length : knee.length = maxMcs + 1 := by rfl
  count_length : count.length = maxMcs + 1 := by rfl
  deriving DecidableEq

namespace KneeModel

def kneeAt (m : KneeModel) (K : ℕ) : Option ℚ := m.knee.getD K none

def countAt (m : KneeModel) (K : ℕ) : ℚ := m.count.getD K 0

section Model

variable (cfg : LearnedPriorConfig)

def sampled (value : ℚ) (clean : Bool) : Option ℚ → Option ℚ
  | none => if clean then none else some value
  | some k =>
    if clean ∧ value < k then some (k + cfg.alphaRelax * (value - k))
    else if ¬ clean ∧ value > k then some (k + cfg.alphaTighten * (value - k))
    else some k

/-- `observe`: every count decays, whatever the rung, and the rung's own grows by one, whatever the
sample. -/
def observe (rung : ℤ) (value : ℚ) (clean : Bool) (m : KneeModel) : KneeModel :=
  if rung < 0 ∨ rung > maxMcs then m
  else
    let count := m.count.map fun c => if cfg.recencyDecay < 1 then c * cfg.recencyDecay else c
    { knee := m.knee.set rung.toNat (sampled cfg value clean (m.kneeAt rung.toNat))
      count := count.set rung.toNat (count.getD rung.toNat 0 + 1)
      knee_length := by rw [List.length_set]; exact m.knee_length
      count_length := by rw [List.length_set, List.length_map]; exact m.count_length }

def effFrom : Option ℚ → List (Option ℚ × ℚ) → List (Option ℚ)
  | _, [] => []
  | run, (some k, c) :: rest =>
    if cfg.minSamples ≤ c then
      let run := match run with
        | none => k
        | some r => max r k
      some run :: effFrom (some run) rest
    else none :: effFrom run rest
  | run, (none, _) :: rest => none :: effFrom run rest

def effKnees (m : KneeModel) : List (Option ℚ) := effFrom cfg none (m.knee.zip m.count)

def rungUnviable (m : KneeModel) (rung : ℤ) (value margin : ℚ) : Bool :=
  if rung < 0 ∨ rung > maxMcs then false
  else match (effKnees cfg m).getD rung.toNat none with
    | none => false
    | some k => value < k - margin

def rungConfident (m : KneeModel) (rung : ℤ) : Bool :=
  if rung < 0 ∨ rung > maxMcs then false
  else ((effKnees cfg m).getD rung.toNat none).isSome

def snrRungUnviable (m : KneeModel) (target : ℤ) (snr : Option ℚ) (margin : ℚ) : Bool :=
  match snr with
  | none => false
  | some snr => rungUnviable cfg m target snr margin

def snrPredictiveRungUnviable (m : KneeModel) (snr slopeDbPerTick : ℚ) (rung : ℤ) (margin : ℚ) :
    Bool :=
  rungUnviable cfg m rung (snr + slopeDbPerTick * cfg.predictiveHorizonTicks) margin

end Model

/-! ## Effective knees -/

section Eff

variable {cfg : LearnedPriorConfig}

/-- Entry `j` of a list of knees and counts is the confident knee `k`. -/
def SureAt (cfg : LearnedPriorConfig) (es : List (Option ℚ × ℚ)) (j : ℕ) (k : ℚ) : Prop :=
  ∃ c, es[j]? = some (some k, c) ∧ cfg.minSamples ≤ c

variable {m : KneeModel} {value margin : ℚ} {rung : ℤ} (e : Option ℚ × ℚ) (es : List (Option ℚ × ℚ))

@[simp] theorem sureAt_cons_succ (j : ℕ) (k : ℚ) :
    SureAt cfg (e :: es) (j + 1) k ↔ SureAt cfg es j k := by
  simp [SureAt]

@[simp] theorem sureAt_cons_zero (k : ℚ) :
    SureAt cfg (e :: es) 0 k ↔ e.1 = some k ∧ cfg.minSamples ≤ e.2 := by
  obtain ⟨k', c⟩ := e
  simp [SureAt]

theorem exists_sureAt_cons (r : ℕ) (x : ℚ) :
    (∃ j ≤ r + 1, ∃ k, SureAt cfg (e :: es) j k ∧ x < k) ↔
      (∃ k, SureAt cfg (e :: es) 0 k ∧ x < k) ∨ ∃ j ≤ r, ∃ k, SureAt cfg es j k ∧ x < k := by
  constructor
  · rintro ⟨j, hj, k, hk, hx⟩
    cases j with
    | zero => exact .inl ⟨k, hk, hx⟩
    | succ j => exact .inr ⟨j, by omega, k, (sureAt_cons_succ e es j k).mp hk, hx⟩
  · rintro (⟨k, hk, hx⟩ | ⟨j, hj, k, hk, hx⟩)
    · exact ⟨0, by omega, k, hk, hx⟩
    · exact ⟨j + 1, by omega, k, (sureAt_cons_succ e es j k).mpr hk, hx⟩

theorem effFrom_isSome (run : Option ℚ) (es : List (Option ℚ × ℚ)) (r : ℕ) :
    ((effFrom cfg run es).getD r none).isSome = true ↔ ∃ k, SureAt cfg es r k := by
  induction es generalizing run r with
  | nil => simp [effFrom, SureAt]
  | cons e es ih =>
    obtain ⟨k, c⟩ := e
    cases k with
    | none =>
      cases r with
      | zero => simp [effFrom]
      | succ r => simpa [effFrom] using ih run r
    | some k =>
      by_cases hc : cfg.minSamples ≤ c
      · cases r with
        | zero => simp [effFrom, hc]
        | succ r => simpa [effFrom, hc] using ih _ r
      · cases r with
        | zero => simp [effFrom, hc]
        | succ r => simpa [effFrom, hc] using ih run r

/-- **The running maximum.**  An entry of `effFrom` exceeds `x` when the entry is confident and the
start, or some confident entry up to it, exceeds `x`. -/
theorem effFrom_lt (run : Option ℚ) (es : List (Option ℚ × ℚ)) (r : ℕ) (x : ℚ) :
    (∃ k, (effFrom cfg run es).getD r none = some k ∧ x < k) ↔
      (∃ k, SureAt cfg es r k) ∧
        ((∃ k, run = some k ∧ x < k) ∨ ∃ j ≤ r, ∃ k, SureAt cfg es j k ∧ x < k) := by
  induction es generalizing run r with
  | nil => simp [effFrom, SureAt]
  | cons e es ih =>
    obtain ⟨k, c⟩ := e
    cases k with
    | none =>
      cases r with
      | zero => simp [effFrom]
      | succ r => simpa [effFrom, exists_sureAt_cons] using ih run r
    | some k =>
      by_cases hc : cfg.minSamples ≤ c
      · cases r with
        | zero => cases run <;> simp [effFrom, hc]
        | succ r =>
          cases run with
          | none => simpa [effFrom, exists_sureAt_cons, hc] using ih (some k) r
          | some q => simpa [effFrom, exists_sureAt_cons, hc, or_assoc] using ih (some (max q k)) r
      · cases r with
        | zero => simp [effFrom, hc]
        | succ r => simpa [effFrom, exists_sureAt_cons, hc] using ih run r

def Confident (cfg : LearnedPriorConfig) (m : KneeModel) (K : ℕ) : Prop :=
  (m.kneeAt K).isSome = true ∧ cfg.minSamples ≤ m.countAt K

instance (cfg : LearnedPriorConfig) (m : KneeModel) (K : ℕ) : Decidable (Confident cfg m K) :=
  inferInstanceAs (Decidable (_ ∧ _))

theorem sureAt_zip (m : KneeModel) (j : ℕ) (k : ℚ) :
    SureAt cfg (m.knee.zip m.count) j k ↔ m.kneeAt j = some k ∧ cfg.minSamples ≤ m.countAt j := by
  unfold SureAt kneeAt countAt
  have hk := m.knee_length
  have hc := m.count_length
  by_cases hj : j < maxMcs + 1
  · have hjk : j < m.knee.length := by omega
    have hjc : j < m.count.length := by omega
    simp [List.getD_eq_getElem?_getD, hjk, hjc]
  · have h1 : m.knee[j]? = none := List.getElem?_eq_none (by omega)
    simp [List.getD_eq_getElem?_getD, List.getElem?_zip_eq_some, h1]

theorem rungConfident_iff (m : KneeModel) (rung : ℤ) :
    rungConfident cfg m rung = true ↔ 0 ≤ rung ∧ rung ≤ maxMcs ∧ Confident cfg m rung.toNat := by
  unfold rungConfident
  by_cases hr : rung < 0 ∨ rung > maxMcs
  · rw [if_pos hr]
    constructor
    · intro h
      cases h
    · rintro ⟨h0, h7, -⟩
      omega
  · rw [if_neg hr, effKnees, effFrom_isSome]
    simp only [sureAt_zip, Confident, Option.isSome_iff_exists, exists_and_right]
    constructor
    · intro h
      exact ⟨by omega, by omega, h⟩
    · rintro ⟨-, -, h⟩
      exact h

/-- **Viability, rung by rung**: a confident rung is unviable when its own knee, or the confident knee
of a rung below it, is more than `margin` above the value. -/
theorem rungUnviable_iff (m : KneeModel) (rung : ℤ) (value margin : ℚ) :
    rungUnviable cfg m rung value margin = true ↔
      rungConfident cfg m rung = true ∧
        ∃ K ≤ rung.toNat, ∃ k, m.kneeAt K = some k ∧ cfg.minSamples ≤ m.countAt K ∧
          value + margin < k := by
  by_cases hr : rung < 0 ∨ rung > maxMcs
  · simp [rungUnviable, rungConfident, if_pos hr]
  have hun : rungUnviable cfg m rung value margin = true ↔
      ∃ k, (effKnees cfg m).getD rung.toNat none = some k ∧ value + margin < k := by
    rw [rungUnviable, if_neg hr]
    cases (effKnees cfg m).getD rung.toNat none with
    | none => simp
    | some k => simp [lt_sub_iff_add_lt]
  have hconf : rungConfident cfg m rung = true ↔
      ∃ k, SureAt cfg (m.knee.zip m.count) rung.toNat k := by
    rw [rungConfident, if_neg hr, effKnees, effFrom_isSome]
  rw [hun, hconf, effKnees, effFrom_lt]
  simp only [sureAt_zip, reduceCtorEq, false_and, exists_false, false_or, and_assoc]

theorem rungUnviable_mono {margin' : ℚ} (hle : margin ≤ margin')
    (h : rungUnviable cfg m rung value margin = false) :
    rungUnviable cfg m rung value margin' = false := by
  rw [Bool.eq_false_iff] at h ⊢
  intro hun
  obtain ⟨hconf, K, hK, k, hk, hc, hlt⟩ := (rungUnviable_iff m rung value margin').mp hun
  exact h ((rungUnviable_iff m rung value margin).mpr ⟨hconf, K, hK, k, hk, hc, by linarith⟩)

theorem rungUnviable_above {above : ℤ} {margin' : ℚ} (habove : rung ≤ above) (hle : margin' ≤ margin)
    (hconf : rungConfident cfg m above = true) (h : rungUnviable cfg m rung value margin = true) :
    rungUnviable cfg m above value margin' = true := by
  obtain ⟨-, K, hK, k, hk, hc, hlt⟩ := (rungUnviable_iff m rung value margin).mp h
  have hKabove : K ≤ above.toNat := hK.trans (Int.toNat_le_toNat habove)
  exact (rungUnviable_iff m above value margin').mpr ⟨hconf, K, hKabove, k, hk, hc, by linarith⟩

theorem rungUnviable_cold (h : rungConfident cfg m rung = false) :
    rungUnviable cfg m rung value margin = false := by
  rw [Bool.eq_false_iff] at h ⊢
  exact fun hun => h ((rungUnviable_iff m rung value margin).mp hun).1

theorem knee_le_of_viable (hconf : rungConfident cfg m rung = true)
    (h : rungUnviable cfg m rung value margin = false) :
    ∃ k, (effKnees cfg m).getD rung.toNat none = some k ∧ k - margin ≤ value := by
  unfold rungConfident at hconf
  unfold rungUnviable at h
  split_ifs at hconf h with hr
  obtain ⟨k, hk⟩ := Option.isSome_iff_exists.mp hconf
  rw [hk] at h
  exact ⟨k, hk, not_lt.mp (of_decide_eq_false h)⟩

end Eff

/-! ## One sample -/

section Observe

variable {cfg : LearnedPriorConfig} {m : KneeModel} {rung : ℤ} {value : ℚ} {clean : Bool}

theorem observe_kneeAt (h0 : 0 ≤ rung) (h7 : rung ≤ maxMcs) (K : ℕ) :
    (observe cfg rung value clean m).kneeAt K =
      if K = rung.toNat then sampled cfg value clean (m.kneeAt K) else m.kneeAt K := by
  have hr : ¬ (rung < 0 ∨ rung > maxMcs) := by omega
  have hlen : rung.toNat < m.knee.length := by rw [m.knee_length]; omega
  rw [observe, if_neg hr]
  simp only [kneeAt, List.getD_eq_getElem?_getD, List.getElem?_set]
  by_cases hK : K = rung.toNat
  · subst hK
    simp [hlen]
  · rw [if_neg (Ne.symm hK), if_neg hK]

theorem observe_countAt (h0 : 0 ≤ rung) (h7 : rung ≤ maxMcs) (K : ℕ) :
    (observe cfg rung value clean m).countAt K =
      (if cfg.recencyDecay < 1 then m.countAt K * cfg.recencyDecay else m.countAt K) +
        if K = rung.toNat then 1 else 0 := by
  have hr : ¬ (rung < 0 ∨ rung > maxMcs) := by omega
  have hlen : rung.toNat < m.count.length := by rw [m.count_length]; omega
  rw [observe, if_neg hr]
  simp only [countAt, List.getD_eq_getElem?_getD, List.getElem?_set, List.getElem?_map,
    List.length_map]
  by_cases hK : K = rung.toNat
  · subst hK
    simp [hlen]
  · rw [if_neg (Ne.symm hK), if_neg hK]
    cases m.count[K]? <;> simp

theorem observe_isSome (K : ℕ) (h : (m.kneeAt K).isSome = true) :
    ((observe cfg rung value clean m).kneeAt K).isSome = true := by
  by_cases hr : rung < 0 ∨ rung > maxMcs
  · rwa [observe, if_pos hr]
  rw [observe_kneeAt (by omega) (by omega)]
  by_cases hK : K = rung.toNat
  · rw [if_pos hK]
    obtain ⟨k, hk⟩ := Option.isSome_iff_exists.mp h
    rw [hk, sampled]
    split_ifs <;> rfl
  · rwa [if_neg hK]

theorem observe_plants (h0 : 0 ≤ rung) (h7 : rung ≤ maxMcs) :
    ((observe cfg rung value false m).kneeAt rung.toNat).isSome = true := by
  rw [observe_kneeAt h0 h7, if_pos rfl]
  cases m.kneeAt rung.toNat with
  | none => rfl
  | some k =>
    rw [sampled]
    split_ifs <;> rfl

theorem minSamples_le_of_observe (hmin : 0 ≤ cfg.minSamples) (hdecay : 0 < cfg.recencyDecay)
    (h0 : 0 ≤ rung) (h7 : rung ≤ maxMcs) {K : ℕ} (hK : K ≠ rung.toNat)
    (h : cfg.minSamples ≤ (observe cfg rung value clean m).countAt K) :
    cfg.minSamples ≤ m.countAt K := by
  rw [observe_countAt h0 h7, if_neg hK, add_zero] at h
  split_ifs at h with hlt
  · have hpos : 0 ≤ m.countAt K := by
      by_contra hneg
      have := mul_neg_of_neg_of_pos (not_le.mp hneg) hdecay
      linarith
    calc cfg.minSamples ≤ m.countAt K * cfg.recencyDecay := h
      _ ≤ m.countAt K * 1 := mul_le_mul_of_nonneg_left hlt.le hpos
      _ = m.countAt K := mul_one _
  · exact h

/-- **A clean sample keeps a confident rung viable**: its knee relaxes, and the knees below it keep
their place or lose their confidence. -/
theorem observe_clean_viable {margin : ℚ} (hmin : 0 ≤ cfg.minSamples) (hdecay : 0 < cfg.recencyDecay)
    (hrelax : 0 < cfg.alphaRelax) (hconf : rungConfident cfg m rung = true)
    (h : rungUnviable cfg m rung value margin = false) :
    rungUnviable cfg (observe cfg rung value true m) rung value margin = false := by
  obtain ⟨h0, h7, -, hcount⟩ := (rungConfident_iff m rung).mp hconf
  rw [Bool.eq_false_iff] at h ⊢
  intro hun
  obtain ⟨-, K, hK, k, hk, hc, hlt⟩ := (rungUnviable_iff _ rung value margin).mp hun
  refine h ((rungUnviable_iff m rung value margin).mpr ⟨hconf, K, hK, ?_⟩)
  rw [observe_kneeAt h0 h7] at hk
  by_cases hKr : K = rung.toNat
  · rw [if_pos hKr] at hk
    cases hk' : m.kneeAt K with
    | none =>
      rw [hk'] at hk
      cases hk
    | some k' =>
      refine ⟨k', rfl, hKr ▸ hcount, hlt.trans_le ?_⟩
      rw [hk', sampled] at hk
      split_ifs at hk with h1 h2
      · obtain rfl := Option.some.inj hk
        nlinarith [mul_pos hrelax (sub_pos.mpr h1.2)]
      · exact absurd rfl h2.1
      · exact (Option.some.inj hk).ge
  · rw [if_neg hKr] at hk
    exact ⟨k, hk, minSamples_le_of_observe hmin hdecay h0 h7 hKr hc, hlt⟩

end Observe

/-! ## No knee at all -/

section Cold

variable {cfg : LearnedPriorConfig} {m : KneeModel}

def Cold (m : KneeModel) : Prop := ∀ K, m.kneeAt K = none

theorem Cold.rungConfident (h : Cold m) (rung : ℤ) : rungConfident cfg m rung = false := by
  rw [Bool.eq_false_iff]
  intro hconf
  obtain ⟨-, -, hsome, -⟩ := (rungConfident_iff m rung).mp hconf
  rw [h] at hsome
  cases hsome

theorem Cold.rungUnviable (h : Cold m) (rung : ℤ) (value margin : ℚ) :
    rungUnviable cfg m rung value margin = false :=
  rungUnviable_cold (h.rungConfident rung)

theorem Cold.observe_clean (h : Cold m) (rung : ℤ) (value : ℚ) :
    Cold (observe cfg rung value true m) := by
  intro K
  by_cases hr : rung < 0 ∨ rung > maxMcs
  · rw [observe, if_pos hr]
    exact h K
  rw [observe_kneeAt (by omega) (by omega), h K]
  split_ifs <;> rfl

end Cold

end KneeModel

end Fpvd.Gs
