import Fpvd.Config.Validate
import Fpvd.DynLink.RuntimeConfig
import Fpvd.DynLink.Wire

/-!
# Fpvd.DynLink.LocalCompute — what the drone derives from `{mcs, width}`

`drone/src/dynlink/bitrate.cpp`, `fec.cpp`, `txpower_curve.cpp` and `local_compute.cpp`, with
doubles read as exact rationals and `int` / `long` as integers.
-/

namespace Fpvd.DynLink

def kRate20 : List ℕ := [6500, 12000, 15500, 20000, 25000, 42000, 47500, 55000]
def kRate40 : List ℕ := [9800, 18600, 30400, 40200, 55800, 80400, 90200, 97000]
def kRate10 : List ℕ := [3250, 6000, 7750, 10000, 12500, 21000, 23750, 27500]

/-- The effective-rate table, by channel width; `0` outside it. -/
def openIpcBaseRateKbps (bandwidthMhz mcs : ℤ) : ℕ :=
  if mcs < 0 ∨ mcs > 7 then 0
  else if bandwidthMhz = 10 then kRate10.getD mcs.toNat 0
  else if bandwidthMhz = 20 then kRate20.getD mcs.toNat 0
  else if bandwidthMhz = 40 then kRate40.getD mcs.toNat 0
  else 0

def computeWireTargetKbps (bandwidthMhz mcs probeCeiling : ℤ) (probeKbps : ℚ) : ℚ :=
  let base := openIpcBaseRateKbps bandwidthMhz mcs
  if base = 0 then 0
  else
    let probeRung := if mcs + 1 > probeCeiling then probeCeiling else mcs + 1
    let probeBase := openIpcBaseRateKbps bandwidthMhz probeRung
    let probeUtil : ℚ := if probeBase > 0 then probeKbps / probeBase else 0
    let util : ℚ := 2 / 3 - probeUtil
    base * (if util < 0 then 0 else util)

/-- `static_cast<int>` / `static_cast<long>` of a double: truncation toward zero. -/
def truncToInt (x : ℚ) : ℤ := if x < 0 then ⌈x⌉ else ⌊x⌋

def clampInt (lo hi x : ℤ) : ℤ :=
  let x := if x < lo then lo else x
  if x > hi then hi else x

def sat8 (x : ℤ) : ℕ := (clampInt 0 255 x).toNat
def sat16 (x : ℤ) : ℕ := (clampInt 0 65535 x).toNat

def computeBitrateKbps (wireTargetKbps : ℚ) (k n minKbps maxKbps : ℤ) : ℕ :=
  if k ≤ 0 ∨ n ≤ 0 then sat16 minKbps
  else sat16 (clampInt minKbps maxKbps (truncToInt (wireTargetKbps * k / n)))

def computeBitrateKbpsSwfec (wireTargetKbps : ℚ) (overheadPct minKbps maxKbps : ℤ) : ℕ :=
  let overheadPct := if overheadPct < 0 then 0 else overheadPct
  computeBitrateKbps wireTargetKbps 100 (100 + overheadPct) minKbps maxKbps

def computeK (wireTargetKbps : ℚ) (mtuBytes fps : ℤ) (baseRedundancyRatio blocksPerFrame : ℚ)
    (kMin kMax : ℤ) : ℤ :=
  if wireTargetKbps ≤ 0 ∨ mtuBytes ≤ 0 ∨ fps ≤ 0 ∨ blocksPerFrame ≤ 0 ∨ baseRedundancyRatio ≤ -1
  then kMin
  else
    let anchorKbps := wireTargetKbps / (1 + baseRedundancyRatio)
    let packetsPerFrame := anchorKbps * 1000 / (fps * mtuBytes * 8)
    clampInt kMin kMax (truncToInt (packetsPerFrame / blocksPerFrame))

def computeN (k : ℤ) (baseRedundancyRatio : ℚ) : ℤ := ⌈(k : ℚ) * (1 + baseRedundancyRatio)⌉

def kTxPowerDbmByMcs : List ℤ := [29, 28, 25, 23, 19, 19, 19, 19]

def txpowerDbmForMcs (mcs : ℤ) : ℤ := kTxPowerDbmByMcs.getD (clampInt 0 7 mcs).toNat 19

def kDlFailsafeMcs : ℕ := 0

/-- The probe's on-air rate; nothing is reserved for it when it is off. -/
def probeKbps (cfg : DlRuntimeConfig) : ℚ :=
  if cfg.probeEnabled then (kProbePps : ℚ) * kProbePacketBytes * 8 / 1000 else 0

def wireTarget (cfg : DlRuntimeConfig) (mcs : ℕ) : ℚ :=
  computeWireTargetKbps cfg.linkWidthMhz mcs cfg.probeMcsCeiling (probeKbps cfg)

/-- Overwrites the derived fields of a decision; `mcs` and `bandwidth` stay. -/
def applyLocalCompute (cfg : DlRuntimeConfig) (d : Decision) : Decision :=
  let b := cfg.bitrate
  let wt := wireTarget cfg d.mcs
  let d :=
    if cfg.swfec then
      -- FEC is static configuration: the slots carry overhead_pct / deadline_ms
      { d with
        k := cfg.swfecOverheadPct
        n := cfg.swfecDeadlineMs
        bitrateKbps := computeBitrateKbpsSwfec wt cfg.swfecOverheadPct b.minBitrateKbps
          b.maxBitrateKbps }
    else
      let k := computeK wt b.mtuBytes b.fps b.baseRedundancyRatio b.blocksPerFrame b.kMin b.kMax
      let n := computeN k b.baseRedundancyRatio
      { d with
        k := sat8 k
        n := sat8 n
        bitrateKbps := computeBitrateKbps wt k n b.minBitrateKbps b.maxBitrateKbps }
  { d with
    fps := sat8 b.fps
    txPowerDbm := txpowerDbmForMcs d.mcs }

def cap (cfg : DlRuntimeConfig) (mcs : ℕ) : ℕ :=
  (applyLocalCompute cfg { mcs := mcs }).bitrateKbps

section Fields

variable (cfg : DlRuntimeConfig) (d : Decision)

@[simp] theorem applyLocalCompute_bitrateKbps :
    (applyLocalCompute cfg d).bitrateKbps = cap cfg d.mcs := by
  unfold cap applyLocalCompute
  cases cfg.swfec <;> rfl

@[simp] theorem applyLocalCompute_mcs : (applyLocalCompute cfg d).mcs = d.mcs := by
  unfold applyLocalCompute
  cases cfg.swfec <;> rfl

@[simp] theorem applyLocalCompute_bandwidth :
    (applyLocalCompute cfg d).bandwidth = d.bandwidth := by
  unfold applyLocalCompute
  cases cfg.swfec <;> rfl

@[simp] theorem applyLocalCompute_magic : (applyLocalCompute cfg d).magic = d.magic := by
  unfold applyLocalCompute
  cases cfg.swfec <;> rfl

end Fields

/-! ## Integer conversions -/

theorem clampInt_eq (lo hi x : ℤ) : clampInt lo hi x = min hi (max lo x) := by
  unfold clampInt
  dsimp only
  split_ifs <;> omega

variable {c : Config} {cfg : DlRuntimeConfig} {w w' r : ℚ} {x k n lo k' : ℤ}

theorem clampInt_mono (lo hi : ℤ) {y : ℤ} (h : x ≤ y) : clampInt lo hi x ≤ clampInt lo hi y := by
  rw [clampInt_eq, clampInt_eq]
  omega

theorem sat16_mono {y : ℤ} (h : x ≤ y) : sat16 x ≤ sat16 y :=
  Int.toNat_le_toNat (clampInt_mono 0 65535 h)

theorem sat16_pos (h : 0 < x) : 0 < sat16 x := by
  unfold sat16
  rw [clampInt_eq]
  omega

theorem truncToInt_mono {x y : ℚ} (hx : 0 ≤ x) (h : x ≤ y) : truncToInt x ≤ truncToInt y := by
  unfold truncToInt
  rw [if_neg (not_lt.mpr hx), if_neg (not_lt.mpr (hx.trans h))]
  exact Int.floor_le_floor h

/-! ## Accepted snapshots -/

structure Sound (cfg : DlRuntimeConfig) : Prop where
  width : cfg.linkWidthMhz = 10 ∨ cfg.linkWidthMhz = 20
  ceiling : cfg.probeMcsCeiling = 7
  min_pos : 0 < cfg.bitrate.minBitrateKbps
  min_lt_max : cfg.bitrate.minBitrateKbps < cfg.bitrate.maxBitrateKbps
  ratio_pos : 0 < cfg.bitrate.baseRedundancyRatio
  blocks_pos : 0 < cfg.bitrate.blocksPerFrame
  kMin_pos : 1 ≤ cfg.bitrate.kMin
  kMin_le : cfg.bitrate.kMin ≤ cfg.bitrate.kMax

theorem buildDlSnapshot_sound (hv : validate c = []) (hw : c.link.width = 10 ∨ c.link.width = 20)
    (iface : String) :
    Sound (buildDlSnapshot c iface) := by
  obtain ⟨h1, h2, h3, h4, h5, h6⟩ := validateDynamicLink_compute (validate_dynamicLink hv)
  refine ⟨?_, rfl, h1, h2, h3, h4, h5, h6⟩
  show u8 c.link.width = 10 ∨ u8 c.link.width = 20
  rcases hw with hw | hw <;> rw [hw] <;> decide

theorem computeBitrateKbps_pos {wt : ℚ} {hi : ℤ} (hlo : 0 < lo) (hhi : lo < hi) :
    0 < computeBitrateKbps wt k n lo hi := by
  unfold computeBitrateKbps
  split_ifs
  · exact sat16_pos hlo
  · refine sat16_pos ?_
    rw [clampInt_eq]
    omega

theorem cap_pos_of_bounds (hlo : 0 < cfg.bitrate.minBitrateKbps)
    (hhi : cfg.bitrate.minBitrateKbps < cfg.bitrate.maxBitrateKbps) (m : ℕ) : 0 < cap cfg m := by
  unfold cap applyLocalCompute
  cases cfg.swfec
  · exact computeBitrateKbps_pos hlo hhi
  · exact computeBitrateKbps_pos hlo hhi

theorem cap_pos (h : Sound cfg) (m : ℕ) : 0 < cap cfg m :=
  cap_pos_of_bounds h.min_pos h.min_lt_max m

/-! ## The bitrate grows with the rung -/

theorem wireTarget_step (h : Sound cfg) {m : ℕ} (hm : m < 7) :
    0 < wireTarget cfg m ∧ wireTarget cfg m * (9 / 8) ≤ wireTarget cfg (m + 1) := by
  have hp : probeKbps cfg = 280 ∨ probeKbps cfg = 0 := by
    unfold probeKbps
    cases cfg.probeEnabled
    · exact Or.inr rfl
    · exact Or.inl (by norm_num [kProbePps, kProbePacketBytes])
  unfold wireTarget
  rw [h.ceiling]
  rcases h.width with hw | hw <;> rw [hw] <;> rcases hp with hp | hp <;> rw [hp] <;>
    interval_cases m <;> exact ⟨by decide +kernel, by decide +kernel⟩

theorem computeK_mono (hw : 0 < w) (hww : w ≤ w') (mtu fps : ℤ) (hr : 0 < r) (blocks : ℚ)
    (kMin kMax : ℤ) :
    computeK w mtu fps r blocks kMin kMax ≤ computeK w' mtu fps r blocks kMin kMax := by
  unfold computeK
  by_cases hc : mtu ≤ 0 ∨ fps ≤ 0 ∨ blocks ≤ 0 ∨ r ≤ -1
  · rw [if_pos (Or.inr hc), if_pos (Or.inr hc)]
  · rw [if_neg (not_or.mpr ⟨not_le.mpr hw, hc⟩), if_neg (not_or.mpr ⟨by linarith, hc⟩)]
    simp only [not_or, not_le] at hc
    obtain ⟨hmtu, hfps, hblocks, -⟩ := hc
    have hmtu' : (0 : ℚ) < mtu := by exact_mod_cast hmtu
    have hfps' : (0 : ℚ) < fps := by exact_mod_cast hfps
    refine clampInt_mono _ _ (truncToInt_mono (by positivity) ?_)
    gcongr

theorem computeK_ge (w : ℚ) (mtu fps : ℤ) (r blocks : ℚ) {kMin kMax : ℤ} (hk : kMin ≤ kMax) :
    kMin ≤ computeK w mtu fps r blocks kMin kMax := by
  unfold computeK
  split_ifs
  · exact le_rfl
  · rw [clampInt_eq]
    omega

theorem computeN_bounds (k : ℤ) (r : ℚ) :
    (k : ℚ) * (1 + r) ≤ computeN k r ∧ (computeN k r : ℚ) < k * (1 + r) + 1 :=
  ⟨Int.le_ceil _, Int.ceil_lt_add_one _⟩

theorem lt_computeN (hk : 1 ≤ k) (hr : 0 < r) : k < computeN k r := by
  have hkq : (1 : ℚ) ≤ k := by exact_mod_cast hk
  have h := (computeN_bounds k r).1
  have : (k : ℚ) < computeN k r := by nlinarith
  exact_mod_cast this

/-- A larger block can lose code rate to the rounding of `n`, but no more than a ninth. -/
theorem computeN_ratio (hk : 1 ≤ k) (hkk : k < k') (hr : 0 < r) :
    8 * (k * computeN k' r) ≤ 9 * (k' * computeN k r) := by
  have hn := lt_computeN hk hr
  have hround : k * computeN k' r - k < k' * computeN k r := by
    obtain ⟨hle, -⟩ := computeN_bounds k r
    obtain ⟨-, hlt⟩ := computeN_bounds k' r
    have hkq : (0 : ℚ) < k := by exact_mod_cast hk
    have hkq' : (0 : ℚ) < k' := by exact_mod_cast (by omega : (0 : ℤ) < k')
    have hq : (k : ℚ) * computeN k' r - k < k' * computeN k r := by
      calc (k : ℚ) * computeN k' r - k < k * (k' * (1 + r) + 1) - k := by gcongr
        _ = k' * (k * (1 + r)) := by ring
        _ ≤ k' * computeN k r := by gcongr
    exact_mod_cast hq
  -- `8 (k - 1) ≤ (k + 1)²`
  have hsq : 8 * (k - 1) ≤ (k + 1) * (k + 1) := by nlinarith [sq_nonneg (k - 3)]
  have hprod : (k + 1) * (k + 1) ≤ k' * computeN k r := by gcongr <;> omega
  linarith

/-- A wire target that grows by an eighth outweighs the lost code rate. -/
theorem rs_rate_mono (hw : 0 < w) (hww : w * (9 / 8) ≤ w') (hr : 0 < r) (hk : 1 ≤ k) (hkk : k ≤ k') :
    w * k / computeN k r ≤ w' * k' / computeN k' r := by
  have hkq : (0 : ℚ) < k := by exact_mod_cast hk
  have hkq' : (0 : ℚ) < k' := by exact_mod_cast hk.trans hkk
  have hn : (0 : ℚ) < computeN k r := by exact_mod_cast (hk.trans (lt_computeN hk hr).le)
  have hn' : (0 : ℚ) < computeN k' r := by
    exact_mod_cast ((hk.trans hkk).trans (lt_computeN (hk.trans hkk) hr).le)
  rcases eq_or_lt_of_le hkk with rfl | hlt
  · gcongr
    linarith
  · have hratio : 8 * ((k : ℚ) * computeN k' r) ≤ 9 * (k' * computeN k r) := by
      exact_mod_cast computeN_ratio hk hlt hr
    rw [div_le_div_iff₀ hn hn']
    calc w * k * computeN k' r = w / 8 * (8 * (k * computeN k' r)) := by ring
      _ ≤ w / 8 * (9 * (k' * computeN k r)) := by gcongr
      _ = w * (9 / 8) * (k' * computeN k r) := by ring
      _ ≤ w' * (k' * computeN k r) := by gcongr
      _ = w' * k' * computeN k r := by ring

theorem computeBitrateKbps_mono {n' hi : ℤ} (hw : 0 ≤ w) (hk : 0 < k) (hn : 0 < n) (hk' : 0 < k')
    (hn' : 0 < n') (h : w * k / n ≤ w' * k' / n') :
    computeBitrateKbps w k n lo hi ≤ computeBitrateKbps w' k' n' lo hi := by
  unfold computeBitrateKbps
  rw [if_neg (by omega), if_neg (by omega)]
  have hk0 : (0 : ℚ) < k := by exact_mod_cast hk
  have hn0 : (0 : ℚ) < n := by exact_mod_cast hn
  exact sat16_mono (clampInt_mono _ _ (truncToInt_mono (by positivity) h))

theorem cap_step (h : Sound cfg) {m : ℕ} (hm : m < 7) :
    cap cfg m ≤ cap cfg (m + 1) := by
  obtain ⟨hw, hww⟩ := wireTarget_step h hm
  have hwle : wireTarget cfg m ≤ wireTarget cfg (m + 1) := by linarith
  unfold cap applyLocalCompute
  cases cfg.swfec with
  | true =>
    have ho : (0 : ℤ) ≤ cfg.swfecOverheadPct := Int.natCast_nonneg _
    simp only [if_true, computeBitrateKbpsSwfec, if_neg (not_lt.mpr ho)]
    refine computeBitrateKbps_mono hw.le (by norm_num) (by omega) (by norm_num) (by omega) ?_
    have : (0 : ℚ) ≤ ((100 + (cfg.swfecOverheadPct : ℤ) : ℤ) : ℚ) := by exact_mod_cast (by omega)
    gcongr
  | false =>
    simp only [Bool.false_eq_true, if_false]
    have hk := computeK_mono hw hwle cfg.bitrate.mtuBytes cfg.bitrate.fps h.ratio_pos
      cfg.bitrate.blocksPerFrame cfg.bitrate.kMin cfg.bitrate.kMax
    have hge := h.kMin_pos.trans (computeK_ge (wireTarget cfg m) cfg.bitrate.mtuBytes
      cfg.bitrate.fps cfg.bitrate.baseRedundancyRatio cfg.bitrate.blocksPerFrame h.kMin_le)
    have hn := lt_computeN hge h.ratio_pos
    have hn' := lt_computeN (hge.trans hk) h.ratio_pos
    exact computeBitrateKbps_mono hw.le (by omega) (by omega) (by omega) (by omega)
      (rs_rate_mono hw hww h.ratio_pos hge hk)

theorem cap_mono (h : Sound cfg) {m m' : ℕ} (hmm : m ≤ m') (hm : m' ≤ 7) :
    cap cfg m ≤ cap cfg m' := by
  induction m', hmm using Nat.le_induction with
  | base => exact le_rfl
  | succ m' hmm ih => exact (ih (by omega)).trans (cap_step h hm)

/-! ## The derived bitrate keeps to the wire target -/

theorem clampInt_le {hi : ℤ} (hlo : lo < clampInt lo hi x) : clampInt lo hi x ≤ x := by
  rw [clampInt_eq] at *
  omega

theorem sat16_le (hx : 0 ≤ x) : (sat16 x : ℤ) ≤ x := by
  unfold sat16
  rw [clampInt_eq]
  omega

theorem computeBitrateKbps_budget {hi : ℤ} (hw : 0 ≤ w) (hk : 0 < k) (hn : 0 < n) (hlo : 0 < lo)
    (hmin : lo < (computeBitrateKbps w k n lo hi : ℤ)) :
    (computeBitrateKbps w k n lo hi : ℚ) * n ≤ w * k := by
  have hk0 : (0 : ℚ) < k := by exact_mod_cast hk
  have hn0 : (0 : ℚ) < n := by exact_mod_cast hn
  have hraw : (0 : ℚ) ≤ w * k / n := by positivity
  unfold computeBitrateKbps at hmin ⊢
  rw [if_neg (by omega)] at hmin ⊢
  set v := clampInt lo hi (truncToInt (w * k / n)) with hv
  have hv0 : 0 ≤ v := by
    by_contra hneg
    have hz : sat16 v = 0 := by
      unfold sat16
      rw [clampInt_eq]
      omega
    rw [hz] at hmin
    omega
  have hsat := sat16_le hv0
  have htrunc : v ≤ ⌊w * k / n⌋ := by
    have hle : v ≤ truncToInt (w * k / n) := clampInt_le (lt_of_lt_of_le hmin hsat)
    rwa [truncToInt, if_neg (not_lt.mpr hraw)] at hle
  have hle : (sat16 v : ℚ) ≤ w * k / n := by
    have hint : ((sat16 v : ℤ) : ℚ) ≤ w * k / n := Int.le_floor.mp (hsat.trans htrunc)
    exact_mod_cast hint
  rwa [le_div_iff₀ hn0] at hle

theorem wireTarget_nonneg (cfg : DlRuntimeConfig) (m : ℕ) : 0 ≤ wireTarget cfg m := by
  unfold wireTarget computeWireTargetKbps
  dsimp only
  have hutil : ∀ u : ℚ, 0 ≤ if u < 0 then 0 else u := by
    intro u
    split_ifs with hu
    · exact le_rfl
    · exact not_lt.mp hu
  by_cases hbase : openIpcBaseRateKbps cfg.linkWidthMhz m = 0
  · rw [if_pos hbase]
  · rw [if_neg hbase]
    exact mul_nonneg (Nat.cast_nonneg _) (hutil _)

theorem sat8_ratio (hk : 1 ≤ k) (hkn : k < n) :
    (sat8 n : ℤ) * k ≤ n * sat8 k ∧ 0 < sat8 k := by
  unfold sat8
  rw [clampInt_eq, clampInt_eq]
  by_cases h1 : n ≤ 255
  · rw [show min 255 (max 0 n) = n by omega, show min 255 (max 0 k) = k by omega,
      Int.toNat_of_nonneg (by omega), Int.toNat_of_nonneg (by omega)]
    exact ⟨le_rfl, by omega⟩
  · by_cases h2 : k ≤ 255
    · rw [show min 255 (max 0 n) = 255 by omega, show min 255 (max 0 k) = k by omega]
      refine ⟨?_, by omega⟩
      rw [Int.toNat_of_nonneg (by omega), Int.toNat_of_nonneg (by omega)]
      nlinarith
    · rw [show min 255 (max 0 n) = 255 by omega, show min 255 (max 0 k) = 255 by omega]
      refine ⟨?_, by omega⟩
      norm_num
      omega

theorem cap_budget_rs (h : Sound cfg) (hmode : cfg.swfec = false) (d : Decision)
    (hmin : cfg.bitrate.minBitrateKbps < (cap cfg d.mcs : ℤ)) :
    ((applyLocalCompute cfg d).bitrateKbps : ℚ) * (applyLocalCompute cfg d).n /
      (applyLocalCompute cfg d).k ≤ wireTarget cfg d.mcs := by
  have hk := h.kMin_pos.trans (computeK_ge (wireTarget cfg d.mcs) cfg.bitrate.mtuBytes
    cfg.bitrate.fps cfg.bitrate.baseRedundancyRatio cfg.bitrate.blocksPerFrame h.kMin_le)
  set k := computeK (wireTarget cfg d.mcs) cfg.bitrate.mtuBytes cfg.bitrate.fps
    cfg.bitrate.baseRedundancyRatio cfg.bitrate.blocksPerFrame cfg.bitrate.kMin cfg.bitrate.kMax
    with hkdef
  set n := computeN k cfg.bitrate.baseRedundancyRatio with hndef
  have hkn := lt_computeN hk h.ratio_pos
  have hcap : cap cfg d.mcs = computeBitrateKbps (wireTarget cfg d.mcs) k n
      cfg.bitrate.minBitrateKbps cfg.bitrate.maxBitrateKbps := by
    simp [cap, applyLocalCompute, hmode, ← hkdef, ← hndef]
  have hd : (applyLocalCompute cfg d).k = sat8 k ∧ (applyLocalCompute cfg d).n = sat8 n := by
    simp [applyLocalCompute, hmode, ← hkdef, ← hndef]
  obtain ⟨hratio, hpos⟩ := sat8_ratio hk hkn
  rw [hcap] at hmin
  have hbudget := computeBitrateKbps_budget (wireTarget_nonneg cfg d.mcs) (by omega) (by omega)
    h.min_pos hmin
  rw [applyLocalCompute_bitrateKbps, hd.1, hd.2, div_le_iff₀ (by exact_mod_cast hpos), hcap]
  have hkq : (0 : ℚ) < k := by exact_mod_cast hk
  have hratioq : (sat8 n : ℚ) * k ≤ n * sat8 k := by exact_mod_cast hratio
  refine le_of_mul_le_mul_right ?_ hkq
  calc (computeBitrateKbps (wireTarget cfg d.mcs) k n cfg.bitrate.minBitrateKbps
        cfg.bitrate.maxBitrateKbps : ℚ) * sat8 n * k
      = computeBitrateKbps (wireTarget cfg d.mcs) k n cfg.bitrate.minBitrateKbps
        cfg.bitrate.maxBitrateKbps * (sat8 n * k) := by ring
    _ ≤ computeBitrateKbps (wireTarget cfg d.mcs) k n cfg.bitrate.minBitrateKbps
        cfg.bitrate.maxBitrateKbps * (n * sat8 k) := by gcongr
    _ = computeBitrateKbps (wireTarget cfg d.mcs) k n cfg.bitrate.minBitrateKbps
        cfg.bitrate.maxBitrateKbps * n * sat8 k := by ring
    _ ≤ wireTarget cfg d.mcs * k * sat8 k := by gcongr
    _ = wireTarget cfg d.mcs * sat8 k * k := by ring

theorem cap_budget_swfec (h : Sound cfg) (hmode : cfg.swfec = true) (m : ℕ)
    (hmin : cfg.bitrate.minBitrateKbps < (cap cfg m : ℤ)) :
    (cap cfg m : ℚ) * (100 + cfg.swfecOverheadPct) / 100 ≤ wireTarget cfg m := by
  have ho : ¬ (cfg.swfecOverheadPct : ℤ) < 0 := by omega
  have hcap : cap cfg m = computeBitrateKbps (wireTarget cfg m) 100
      (100 + (cfg.swfecOverheadPct : ℤ)) cfg.bitrate.minBitrateKbps cfg.bitrate.maxBitrateKbps := by
    simp [cap, applyLocalCompute, hmode, computeBitrateKbpsSwfec, ho]
  rw [hcap] at hmin
  have hbudget := computeBitrateKbps_budget (wireTarget_nonneg cfg m) (by norm_num) (by omega)
    h.min_pos hmin
  rw [hcap, div_le_iff₀ (by norm_num)]
  push_cast at hbudget
  exact hbudget

theorem validate_width (hv : validate c = []) (hon : c.dynamicLink.enabled = true) :
    c.link.width = 10 ∨ c.link.width = 20 := by
  have h := validate_link hv
  simp only [validateLink, List.append_eq_nil_iff, errIf_eq_nil, hon, Bool.true_and,
    Bool.and_eq_false_iff, Bool.or_eq_false_iff, decide_eq_false_iff_not, not_not] at h
  obtain ⟨⟨⟨⟨⟨⟨⟨⟨hw, hoff⟩, -⟩, -⟩, -⟩, -⟩, -⟩, -⟩, -⟩ := h
  omega

theorem validate_overheadPct (hv : validate c = []) :
    0 ≤ c.link.fec.overheadPct ∧ c.link.fec.overheadPct ≤ 255 := by
  have h := validate_link hv
  simp only [validateLink, List.append_eq_nil_iff, errIf_eq_nil, Bool.or_eq_false_iff,
    decide_eq_false_iff_not, not_lt] at h
  exact h.1.1.2

/-- **The derived bitrate is monotone and within budget**, for every snapshot of an accepted
configuration with dynamic link enabled. -/
theorem bitrate_budget (c : Config) (iface : String) (hv : validate c = [])
    (hon : c.dynamicLink.enabled = true) (d : Decision) :
    let cfg := buildDlSnapshot c iface
    (∀ m m' : ℕ, m ≤ m' → m' ≤ 7 → (applyLocalCompute cfg { d with mcs := m }).bitrateKbps ≤
      (applyLocalCompute cfg { d with mcs := m' }).bitrateKbps) ∧
    (c.dynamicLink.compute.minBitrateKbps < (applyLocalCompute cfg d).bitrateKbps →
      (c.link.fec.mode = "rs" → ((applyLocalCompute cfg d).bitrateKbps : ℚ) *
        (applyLocalCompute cfg d).n / (applyLocalCompute cfg d).k ≤ wireTarget cfg d.mcs) ∧
      (c.link.fec.mode = "swfec" → ((applyLocalCompute cfg d).bitrateKbps : ℚ) *
        (100 + c.link.fec.overheadPct) / 100 ≤ wireTarget cfg d.mcs)) := by
  intro cfg
  have hs : Sound cfg := buildDlSnapshot_sound hv (validate_width hv hon) iface
  refine ⟨fun m m' hmm hm => ?_, fun hmin => ⟨fun hmode => ?_, fun hmode => ?_⟩⟩
  · rw [applyLocalCompute_bitrateKbps, applyLocalCompute_bitrateKbps]
    exact cap_mono hs hmm hm
  · rw [applyLocalCompute_bitrateKbps] at hmin
    refine cap_budget_rs hs ?_ d hmin
    show decide (c.link.fec.mode = "swfec") = false
    rw [hmode]
    decide
  · rw [applyLocalCompute_bitrateKbps] at hmin ⊢
    have hbudget := cap_budget_swfec hs (decide_eq_true hmode) d.mcs hmin
    have hpct : ((cfg.swfecOverheadPct : ℕ) : ℤ) = c.link.fec.overheadPct := by
      obtain ⟨h0, h255⟩ := validate_overheadPct hv
      show ((u8 c.link.fec.overheadPct : ℕ) : ℤ) = _
      unfold u8
      omega
    rw [← hpct, Int.cast_natCast]
    exact hbudget

/-- The code defaults with dynamic link on. -/
theorem bitrate_budget_default :
    (applyLocalCompute (buildDlSnapshot { dynamicLink := { enabled := true } } "wlan0")
        { mcs := 2 }).bitrateKbps ≤
      (applyLocalCompute (buildDlSnapshot { dynamicLink := { enabled := true } } "wlan0")
        { mcs := 5 }).bitrateKbps :=
  (bitrate_budget { dynamicLink := { enabled := true } } "wlan0" (by decide +kernel) rfl {}).1 2 5
    (by decide) (by decide)

/-! ## The block geometry -/

/-- A geometry that the TX takes, and the one that the bitrate was computed from. -/
structure LegalGeometry (cfg : DlRuntimeConfig) (d : Decision) : Prop where
  k_pos : 1 ≤ d.k
  k_lt_n : d.k < d.n
  n_le : d.n ≤ 255
  ratio : (d.n : ℤ) = computeN d.k cfg.bitrate.baseRedundancyRatio
  bitrate : d.bitrateKbps = computeBitrateKbps (wireTarget cfg d.mcs) d.k d.n
    cfg.bitrate.minBitrateKbps cfg.bitrate.maxBitrateKbps

/-- The largest `k` whose block keeps to 255 fragments. -/
def kTop (baseRedundancyRatio : ℚ) : ℤ := ⌊255 / (1 + baseRedundancyRatio)⌋

/-- Fragments of one block when the wire target of the rung is used up. -/
def blockFill (cfg : DlRuntimeConfig) (mcs : ℕ) : ℚ :=
  wireTarget cfg mcs * 1000 / (cfg.bitrate.fps * cfg.bitrate.mtuBytes * 8) /
    cfg.bitrate.blocksPerFrame

/-- `kMin` fits into a block of 255, and so does `kMax` or what the rung fills a block with. -/
def GeometryFits (cfg : DlRuntimeConfig) (mcs : ℕ) : Prop :=
  cfg.bitrate.kMin ≤ kTop cfg.bitrate.baseRedundancyRatio ∧
    (cfg.bitrate.kMax ≤ kTop cfg.bitrate.baseRedundancyRatio ∨
      blockFill cfg mcs <
        (kTop cfg.bitrate.baseRedundancyRatio + 1) * (1 + cfg.bitrate.baseRedundancyRatio))

theorem computeN_le_iff (hr : 0 < r) : computeN k r ≤ 255 ↔ k ≤ kTop r := by
  have hpos : 0 < 1 + r := by linarith
  unfold computeN kTop
  rw [Int.ceil_le, Int.le_floor, le_div_iff₀ hpos]
  norm_num

theorem clampInt_le_iff {hi t : ℤ} (h : lo ≤ hi) :
    clampInt lo hi x ≤ t ↔ lo ≤ t ∧ (hi ≤ t ∨ x ≤ t) := by
  rw [clampInt_eq]
  omega

theorem computeK_le_iff {wt blocks : ℚ} {mtu fps kMin kMax t : ℤ} (hwt : 0 ≤ wt) (hfps : 0 < fps)
    (hr : 0 < r) (hblocks : 0 < blocks) (hmin : 1 ≤ kMin) (hk : kMin ≤ kMax) :
    computeK wt mtu fps r blocks kMin kMax ≤ t ↔
      kMin ≤ t ∧ (kMax ≤ t ∨ wt * 1000 / (fps * mtu * 8) / blocks < (t + 1) * (1 + r)) := by
  have hpos : 0 < 1 + r := by linarith
  have hfpsq : (0 : ℚ) < fps := by exact_mod_cast hfps
  unfold computeK
  by_cases hc : wt ≤ 0 ∨ mtu ≤ 0 ∨ fps ≤ 0 ∨ blocks ≤ 0 ∨ r ≤ -1
  · -- nothing to fill a block with: the code falls back to `kMin`
    rw [if_pos hc]
    refine ⟨fun h => ⟨h, Or.inr ?_⟩, And.left⟩
    have ht : (0 : ℚ) < t + 1 := by exact_mod_cast (by omega : 0 < t + 1)
    have hfill : wt * 1000 / (fps * mtu * 8) / blocks ≤ 0 := by
      rcases hc with hc | hc | hc | hc | hc
      · rw [le_antisymm hc hwt]
        simp
      · have hmtu : (mtu : ℚ) ≤ 0 := by exact_mod_cast hc
        refine div_nonpos_of_nonpos_of_nonneg (div_nonpos_of_nonneg_of_nonpos ?_ ?_) hblocks.le
        · positivity
        · nlinarith
      · omega
      · linarith
      · linarith
    exact lt_of_le_of_lt hfill (mul_pos ht hpos)
  · rw [if_neg hc]
    simp only [not_or, not_le] at hc
    have hmtuq : (0 : ℚ) < mtu := by exact_mod_cast hc.2.1
    have hsplit : wt / (1 + r) * 1000 / (fps * mtu * 8) / blocks =
        wt * 1000 / (fps * mtu * 8) / blocks / (1 + r) := by ring
    have hnonneg : 0 ≤ wt * 1000 / (fps * mtu * 8) / blocks / (1 + r) := by positivity
    dsimp only
    have hfloor : ⌊wt * 1000 / (fps * mtu * 8) / blocks / (1 + r)⌋ ≤ t ↔
        wt * 1000 / (fps * mtu * 8) / blocks < (t + 1) * (1 + r) := by
      rw [← Int.lt_add_one_iff, Int.floor_lt, div_lt_iff₀ hpos]
      push_cast
      rfl
    rw [clampInt_le_iff hk, hsplit, truncToInt, if_neg (not_lt.mpr hnonneg), hfloor]

theorem sat8_eq (x : ℤ) : (sat8 x : ℤ) = min 255 (max 0 x) := by
  unfold sat8
  rw [clampInt_eq]
  omega

theorem sat8_pair_iff (hk : 1 ≤ k) (hkn : k < n) (hn : n = computeN k r) :
    (sat8 k < sat8 n ∧ (sat8 n : ℤ) = computeN (sat8 k) r) ↔ n ≤ 255 := by
  have hk8 := sat8_eq k
  have hn8 := sat8_eq n
  constructor
  · rintro ⟨hlt, hratio⟩
    by_contra hbig
    rw [show (sat8 k : ℤ) = k by omega, ← hn] at hratio
    omega
  · intro hle
    refine ⟨by omega, ?_⟩
    rw [show (sat8 k : ℤ) = k by omega, show (sat8 n : ℤ) = n by omega]
    exact hn

theorem validate_fps (hv : validate c = []) : 0 < c.video.fps := by
  have h := validate_video hv
  simp only [validateVideo, List.append_eq_nil_iff, errIf_eq_nil, Bool.or_eq_false_iff,
    decide_eq_false_iff_not, not_le] at h
  exact h.1.1.1.2.1

def rsBlocks (kMin kMax : ℤ) : Config :=
  { link := { fec := { mode := "rs" } }
    dynamicLink := { enabled := true, compute := { kMin, kMax } } }

end Fpvd.DynLink
