import Fpvd.DynLink.Backend

/-!
# Fpvd.DynLink.Roi — the ROI curve of an accepted configuration

`validate` checks the knobs of `dynamicLink.roiQp` as `int`s; `buildDlSnapshot` narrows them to
`uint16_t`, `int8_t` and `uint8_t`, and `computeRoiQp` divides by what is left.
-/

namespace Fpvd.DynLink

def cdiv (a b : ℤ) : Option ℤ := if b = 0 then none else some (a.tdiv b)

def computeRoiQpChecked (bitrateKbps thresholdKbps lowAnchorKbps : ℕ) (floor : ℤ) (step : ℕ) :
    Option ℤ :=
  if bitrateKbps ≥ thresholdKbps then some 0
  else do
    let span : ℤ := (thresholdKbps : ℤ) - lowAnchorKbps
    let delta : ℤ := (bitrateKbps : ℤ) - lowAnchorKbps
    let delta := if delta < 0 then 0 else delta
    let raw ← cdiv (floor * (span - delta)) span
    let units ← cdiv raw step
    let q := units * step
    let q := if q < floor then floor else q
    return if q > 0 then 0 else q

def RoiCurve.qp (r : RoiCurve) (bitrateKbps : ℕ) : Option ℤ :=
  computeRoiQpChecked bitrateKbps r.thresholdKbps r.lowAnchorKbps r.floor r.step

/-- What the curve `r` owes the knobs it was made from, on the 16-bit bitrates. -/
structure RoiSound (knobs : DynamicLinkRoiQp) (r : RoiCurve) : Prop where
  defined : ∀ b < 2 ^ 16, r.qp b ≠ none
  on_step : ∀ b < 2 ^ 16, ∀ q ∈ r.qp b, knobs.step ∣ q
  bounded : ∀ b < 2 ^ 16, ∀ q ∈ r.qp b, knobs.floor ≤ q ∧ q ≤ 0
  above : ∀ b : ℕ, b < 2 ^ 16 → knobs.thresholdKbps ≤ b → r.qp b = some 0
  mono : ∀ b b' : ℕ, b ≤ b' → b' < 2 ^ 16 → ∀ q ∈ r.qp b, ∀ q' ∈ r.qp b', q ≤ q'

/-- The narrowed knobs fit together: the threshold has wrapped to `0`, or it has not met the low
anchor, the step is not `0`, and a step that has wrapped is larger than the floor is deep. -/
def RoiFits (knobs : DynamicLinkRoiQp) : Prop :=
  u16 knobs.thresholdKbps = 0 ∨
    u16 knobs.thresholdKbps ≠ u16 knobs.lowAnchorKbps ∧ u8 knobs.step ≠ 0 ∧
      (knobs.step ≤ 255 ∨ -i8 knobs.floor < u8 knobs.step)

instance (knobs : DynamicLinkRoiQp) : Decidable (RoiFits knobs) := by
  unfold RoiFits
  infer_instance

/-! ## The two divisions -/

variable {b T L S : ℕ} {F : ℤ}

theorem computeRoiQpChecked_eq (hspan : T ≠ L) (hstep : S ≠ 0) :
    computeRoiQpChecked b T L F S = some (computeRoiQp b T L F S) := by
  have hspan' : ¬ (T : ℤ) - L = 0 := by omega
  have hstep' : ¬ (S : ℤ) = 0 := by omega
  unfold computeRoiQpChecked computeRoiQp cdiv
  by_cases h : b ≥ T
  · rw [if_pos h, if_pos h]
  · rw [if_neg h, if_neg h]
    simp only [if_neg hspan', if_neg hstep']
    rfl

theorem computeRoiQpChecked_ne_none (hb : b < T) (h : computeRoiQpChecked b T L F S ≠ none) :
    T ≠ L ∧ S ≠ 0 := by
  unfold computeRoiQpChecked cdiv at h
  rw [if_neg (not_le.mpr hb)] at h
  constructor
  · rintro rfl
    exact h (by simp)
  · rintro rfl
    refine h ?_
    by_cases hspan : (T : ℤ) - L = 0 <;> simp [hspan]

/-- How far below `0` the curve is, before rounding: the whole floor up to the low anchor (or
everywhere, for an anchor above the threshold), then linear. -/
def depth (b T L : ℕ) (A : ℤ) : ℤ := if T < L then A else A * (T - max b L) / (T - L)

theorem depth_bounds {A : ℤ} (hA : 0 ≤ A) (hb : b < T) (hspan : T ≠ L) :
    0 ≤ depth b T L A ∧ depth b T L A ≤ A := by
  unfold depth
  by_cases hTL : T < L
  · rw [if_pos hTL]
    exact ⟨hA, le_rfl⟩
  · rw [if_neg hTL]
    have hpos : (0 : ℤ) < T - L := by omega
    have hnum : (0 : ℤ) ≤ T - max b L := by omega
    refine ⟨Int.ediv_nonneg (mul_nonneg hA hnum) hpos.le, ?_⟩
    refine Int.ediv_le_of_le_mul hpos ?_
    exact mul_le_mul_of_nonneg_left (by omega) hA

theorem depth_anti {b' : ℕ} {A : ℤ} (hA : 0 ≤ A) (hspan : T ≠ L) (h : b ≤ b') :
    depth b' T L A ≤ depth b T L A := by
  unfold depth
  by_cases hTL : T < L
  · rw [if_pos hTL, if_pos hTL]
  · rw [if_neg hTL, if_neg hTL]
    have hpos : (0 : ℤ) < T - L := by omega
    exact Int.ediv_le_ediv hpos (mul_le_mul_of_nonneg_left (by omega) hA)

theorem raw_eq (hF : F ≤ 0) (hb : b < T) :
    (F * ((T : ℤ) - L - if (b : ℤ) - L < 0 then 0 else (b : ℤ) - L)).tdiv (T - L) =
      -depth b T L (-F) := by
  unfold depth
  by_cases hTL : T < L
  · rw [if_pos hTL, if_pos (by omega), sub_zero, neg_neg, Int.mul_tdiv_cancel _ (by omega)]
  · have hmax : ((T : ℤ) - L - if (b : ℤ) - L < 0 then 0 else (b : ℤ) - L) = T - max b L := by
      split_ifs <;> omega
    have hnum : (0 : ℤ) ≤ -F * (T - max b L) := mul_nonneg (by omega) (by omega)
    rw [if_neg hTL, hmax, ← Int.tdiv_eq_ediv_of_nonneg hnum, ← Int.neg_tdiv, neg_mul, neg_neg]

theorem computeRoiQp_eq (hF : F ≤ 0) (hb : b < T) (hspan : T ≠ L) (hstep : S ≠ 0) :
    computeRoiQp b T L F S = -(depth b T L (-F) / S * S) := by
  obtain ⟨h0, hA⟩ := depth_bounds (A := -F) (by omega) hb hspan
  have hS : (0 : ℤ) < S := by omega
  have hle : depth b T L (-F) / S * S ≤ depth b T L (-F) := Int.ediv_mul_le _ hS.ne'
  have hge : 0 ≤ depth b T L (-F) / S * S := mul_nonneg (Int.ediv_nonneg h0 hS.le) hS.le
  unfold computeRoiQp
  rw [if_neg (not_le.mpr hb)]
  dsimp only
  rw [raw_eq hF hb, Int.neg_tdiv, Int.tdiv_eq_ediv_of_nonneg h0, neg_mul,
    if_neg (by omega), if_neg (by omega)]

theorem computeRoiQp_of_floor_pos (hF : 0 < F) :
    computeRoiQp b T L F S = 0 := by
  unfold computeRoiQp
  dsimp only
  split_ifs <;> omega

theorem computeRoiQp_of_ge (hb : T ≤ b) : computeRoiQp b T L F S = 0 :=
  if_pos hb

theorem computeRoiQp_bounds (hspan : T ≠ L) (hstep : S ≠ 0) :
    min F 0 ≤ computeRoiQp b T L F S ∧ computeRoiQp b T L F S ≤ 0 := by
  rcases le_or_gt T b with hb | hb
  · rw [computeRoiQp_of_ge hb]
    omega
  · rcases le_or_gt F 0 with hF | hF
    · obtain ⟨h0, hA⟩ := depth_bounds (A := -F) (by omega) hb hspan
      have hS : (0 : ℤ) < S := by omega
      have hle : depth b T L (-F) / S * S ≤ depth b T L (-F) := Int.ediv_mul_le _ hS.ne'
      have hge : 0 ≤ depth b T L (-F) / S * S := mul_nonneg (Int.ediv_nonneg h0 hS.le) hS.le
      rw [computeRoiQp_eq hF hb hspan hstep]
      omega
    · rw [computeRoiQp_of_floor_pos hF]
      omega

theorem computeRoiQp_mono {b' : ℕ} (hspan : T ≠ L) (hstep : S ≠ 0) (h : b ≤ b') :
    computeRoiQp b T L F S ≤ computeRoiQp b' T L F S := by
  rcases le_or_gt T b' with hb' | hb'
  · rw [computeRoiQp_of_ge hb']
    exact (computeRoiQp_bounds hspan hstep).2
  · rcases le_or_gt F 0 with hF | hF
    · have hS : (0 : ℤ) < S := by omega
      have hd := depth_anti (A := -F) (by omega) hspan h
      have hq := mul_le_mul_of_nonneg_right (Int.ediv_le_ediv hS hd) hS.le
      rw [computeRoiQp_eq hF (by omega) hspan hstep, computeRoiQp_eq hF hb' hspan hstep]
      omega
    · rw [computeRoiQp_of_floor_pos hF, computeRoiQp_of_floor_pos hF]

theorem step_dvd_computeRoiQp (hspan : T ≠ L) (hstep : S ≠ 0) :
    (S : ℤ) ∣ computeRoiQp b T L F S := by
  rcases le_or_gt T b with hb | hb
  · rw [computeRoiQp_of_ge hb]
    exact dvd_zero _
  · rcases le_or_gt F 0 with hF | hF
    · rw [computeRoiQp_eq hF hb hspan hstep]
      exact (Dvd.intro_left _ rfl).neg_right
    · rw [computeRoiQp_of_floor_pos hF]
      exact dvd_zero _

theorem computeRoiQp_of_floor_shallow (hspan : T ≠ L) (hstep : S ≠ 0) (h : -F < S) :
    computeRoiQp b T L F S = 0 := by
  have hb := computeRoiQp_bounds (b := b) (F := F) hspan hstep
  refine Int.eq_zero_of_abs_lt_dvd (step_dvd_computeRoiQp hspan hstep) ?_
  rw [abs_lt]
  omega

/-! ## The narrowed knobs -/

theorem validateDynamicLink_roiQp {dl : DynamicLink} (h : validateDynamicLink dl = []) :
    0 < dl.roiQp.lowAnchorKbps ∧ dl.roiQp.lowAnchorKbps < dl.roiQp.thresholdKbps ∧
      dl.roiQp.floor ≤ 0 ∧ 1 ≤ dl.roiQp.step := by
  simp only [validateDynamicLink, List.append_eq_nil_iff, errIf_eq_nil, Bool.or_eq_false_iff,
    decide_eq_false_iff_not, not_le, not_lt] at h
  obtain ⟨⟨⟨⟨⟨⟨⟨-, h1⟩, h2⟩, h3⟩, -⟩, -⟩, -⟩, -⟩ := h
  exact ⟨h1.1.2, h1.2, h2, h3⟩

theorem i8_bounds (x : ℤ) : -2 ^ 7 ≤ i8 x ∧ i8 x < 2 ^ 7 := by
  unfold i8
  omega

theorem le_i8 {x : ℤ} (h : x ≤ 0) : x ≤ i8 x := by
  unfold i8
  omega

variable {c : Config} (iface : String)

/-- The threshold has wrapped to `0`: the curve is `0` everywhere. -/
theorem roiSound_of_threshold_zero (hv : validate c = [])
    (h : u16 c.dynamicLink.roiQp.thresholdKbps = 0) :
    RoiSound c.dynamicLink.roiQp (buildDlSnapshot c iface).roiQp := by
  obtain ⟨-, -, hfloor, -⟩ := validateDynamicLink_roiQp (validate_dynamicLink hv)
  have hqp : ∀ b, (buildDlSnapshot c iface).roiQp.qp b = some 0 := by
    intro b
    show computeRoiQpChecked b (u16 c.dynamicLink.roiQp.thresholdKbps) _ _ _ = some 0
    rw [h]
    rfl
  refine ⟨?_, ?_, ?_, fun b _ _ => hqp b, ?_⟩
  · intro b _
    rw [hqp]
    exact Option.some_ne_none _
  · intro b _ q hq
    rw [hqp] at hq
    exact Option.some.inj hq ▸ dvd_zero _
  · intro b _ q hq
    rw [hqp] at hq
    exact Option.some.inj hq ▸ ⟨hfloor, le_rfl⟩
  · intro b b' _ _ q hq q' hq'
    rw [hqp] at hq hq'
    exact (Option.some.inj hq ▸ Option.some.inj hq' ▸ le_rfl)

theorem roiSound_of_fits (hv : validate c = []) (h : RoiFits c.dynamicLink.roiQp) :
    RoiSound c.dynamicLink.roiQp (buildDlSnapshot c iface).roiQp := by
  rcases h with h | ⟨hspan, hstep, hsmall⟩
  · exact roiSound_of_threshold_zero iface hv h
  obtain ⟨hlow, hthr, hfloor, hst⟩ := validateDynamicLink_roiQp (validate_dynamicLink hv)
  set k := c.dynamicLink.roiQp with hk
  have hqp : ∀ b, (buildDlSnapshot c iface).roiQp.qp b = some
      (computeRoiQp b (u16 k.thresholdKbps) (u16 k.lowAnchorKbps) (i8 k.floor) (u8 k.step)) :=
    fun b => computeRoiQpChecked_eq hspan hstep
  refine ⟨?_, ?_, ?_, ?_, ?_⟩
  · intro b _
    rw [hqp]
    exact Option.some_ne_none _
  · intro b _ q hq
    rw [hqp] at hq
    rw [← Option.some.inj hq]
    rcases hsmall with hsmall | hsmall
    · have hdvd := step_dvd_computeRoiQp (b := b) (F := i8 k.floor) hspan hstep
      rwa [u8_of_lt (by omega) (by omega)] at hdvd
    · rw [computeRoiQp_of_floor_shallow hspan hstep hsmall]
      exact dvd_zero _
  · intro b _ q hq
    rw [hqp] at hq
    have hb := computeRoiQp_bounds (b := b) (F := i8 k.floor) hspan hstep
    have hf := le_i8 hfloor
    rw [← Option.some.inj hq]
    omega
  · intro b hb hle
    have hT : (u16 k.thresholdKbps : ℤ) = k.thresholdKbps := u16_of_lt (by omega) (by omega)
    rw [hqp, computeRoiQp_of_ge (by omega)]
  · intro b b' hle _ q hq q' hq'
    rw [hqp] at hq hq'
    rw [← Option.some.inj hq, ← Option.some.inj hq']
    exact computeRoiQp_mono hspan hstep hle

/-- At bitrate `0` the curve is at its deepest, so a wrapped step shows there. -/
theorem fits_of_roiSound (hv : validate c = [])
    (h : RoiSound c.dynamicLink.roiQp (buildDlSnapshot c iface).roiQp) :
    RoiFits c.dynamicLink.roiQp := by
  obtain ⟨-, -, -, hst⟩ := validateDynamicLink_roiQp (validate_dynamicLink hv)
  set k := c.dynamicLink.roiQp with hk
  by_cases hT : u16 k.thresholdKbps = 0
  · exact Or.inl hT
  have hb : 0 < u16 k.thresholdKbps := Nat.pos_of_ne_zero hT
  obtain ⟨hspan, hstep⟩ : u16 k.thresholdKbps ≠ u16 k.lowAnchorKbps ∧ u8 k.step ≠ 0 :=
    computeRoiQpChecked_ne_none hb (h.defined 0 (by norm_num))
  refine Or.inr ⟨hspan, hstep, ?_⟩
  by_contra hbig
  rw [not_or, not_le, not_lt] at hbig
  obtain ⟨hwrap, hdeep⟩ := hbig
  have hqp : (buildDlSnapshot c iface).roiQp.qp 0 = some (computeRoiQp 0 (u16 k.thresholdKbps)
      (u16 k.lowAnchorKbps) (i8 k.floor) (u8 k.step)) := computeRoiQpChecked_eq hspan hstep
  have hdvd := h.on_step 0 (by norm_num) _ hqp
  have hF : i8 k.floor ≤ 0 := by omega
  have hS : (0 : ℤ) < u8 k.step := by omega
  -- the whole depth of the floor is at least one wrapped step, and less than the configured one
  have hdepth : depth 0 (u16 k.thresholdKbps) (u16 k.lowAnchorKbps) (-i8 k.floor) =
      -i8 k.floor := by
    unfold depth
    split_ifs with hTL
    · rfl
    · rw [Nat.zero_max, Int.mul_ediv_cancel _ (by omega)]
  have hval := computeRoiQp_eq hF hb hspan hstep
  rw [hdepth] at hval
  have hunit : 1 ≤ -i8 k.floor / (u8 k.step : ℤ) := by
    rw [Int.le_ediv_iff_mul_le hS]
    omega
  have hneg : computeRoiQp 0 (u16 k.thresholdKbps) (u16 k.lowAnchorKbps) (i8 k.floor) (u8 k.step)
      < 0 := by
    rw [hval]
    have := mul_le_mul_of_nonneg_right hunit hS.le
    omega
  have hbounds := computeRoiQp_bounds (b := 0) (F := i8 k.floor) hspan hstep
  have hi8 := i8_bounds k.floor
  have hzero := Int.eq_zero_of_abs_lt_dvd hdvd (by
    rw [abs_lt]
    omega)
  omega

/-- **The ROI curve of an accepted configuration is the configured one exactly when the narrowed
knobs fit together.** -/
theorem roiCurve_sound_iff (c : Config) (iface : String) (hv : validate c = []) :
    RoiSound c.dynamicLink.roiQp (buildDlSnapshot c iface).roiQp ↔ RoiFits c.dynamicLink.roiQp :=
  ⟨fits_of_roiSound iface hv, roiSound_of_fits iface hv⟩

theorem roiCurve_sound_default :
    RoiSound ({} : Config).dynamicLink.roiQp (buildDlSnapshot {} "wlan0").roiQp :=
  (roiCurve_sound_iff {} "wlan0" (by decide +kernel)).mpr (by decide)

def wrappedThreshold : Config :=
  { dynamicLink := { roiQp := { thresholdKbps := 70000, lowAnchorKbps := 4464 } } }

/-- The span is `0`, and the curve divides by it. -/
theorem roiCurve_divides_by_zero :
    validate wrappedThreshold = [] ∧
      (buildDlSnapshot wrappedThreshold "wlan0").roiQp.qp 4000 = none ∧
      ¬ RoiSound wrappedThreshold.dynamicLink.roiQp
        (buildDlSnapshot wrappedThreshold "wlan0").roiQp := by
  have hdiv : (buildDlSnapshot wrappedThreshold "wlan0").roiQp.qp 4000 = none := by decide +kernel
  exact ⟨by decide +kernel, hdiv, fun h => h.defined 4000 (by norm_num) hdiv⟩

end Fpvd.DynLink
