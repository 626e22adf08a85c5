import Mathlib.Data.Option.Basic
import Mathlib.Data.List.Forall2
import Fpvd.Gs.Knee

/-!
# Fpvd.Gs.KneeLaws — the knees over a sequence of observations (`gs/fpvdgs/dynlink/learned_prior.py`)

With step sizes in `(0, 1]` a sample moves a knee part of the way to its value, a clean one down only
and a dirty one up only.  What follows holds for every sequence of observations.
-/

namespace Fpvd.Gs

structure Observation where
  rung : ℤ
  value : ℚ
  clean : Bool
  deriving DecidableEq, Repr

/-- Step sizes and decay in `(0, 1]`. -/
structure LearnedPriorConfig.Proper (cfg : LearnedPriorConfig) : Prop where
  tighten_pos : 0 < cfg.alphaTighten
  tighten_le : cfg.alphaTighten ≤ 1
  relax_pos : 0 < cfg.alphaRelax
  relax_le : cfg.alphaRelax ≤ 1
  decay_pos : 0 < cfg.recencyDecay
  decay_le : cfg.recencyDecay ≤ 1

/-- The same rung and flag, and a value that is no larger. -/
structure Observation.Below (o o' : Observation) : Prop where
  rung : o.rung = o'.rung
  clean : o.clean = o'.clean
  value : o.value ≤ o'.value

namespace KneeModel

def observeAll (cfg : LearnedPriorConfig) (m : KneeModel) (obs : List Observation) : KneeModel :=
  obs.foldl (fun m o => observe cfg o.rung o.value o.clean m) m

def samplesAt (obs : List Observation) (K : ℕ) : List Observation := obs.filter fun o => o.rung = K

def dirtyValues (obs : List Observation) (K : ℕ) : List ℚ :=
  ((samplesAt obs K).filter fun o => !o.clean).map (·.value)

/-- The values from the first dirty sample on. -/
def valuesFromDirty (obs : List Observation) (K : ℕ) : List ℚ :=
  ((samplesAt obs K).dropWhile (·.clean)).map (·.value)

/-! ## One sample -/

section Sample

variable {cfg : LearnedPriorConfig}

theorem sampled_clean (h : 0 < cfg.alphaRelax) (value k : ℚ) :
    sampled cfg value true (some k) = some (min k (k + cfg.alphaRelax * (value - k))) := by
  rw [sampled]
  by_cases hlt : value < k
  · have hneg : cfg.alphaRelax * (value - k) < 0 := mul_neg_of_pos_of_neg h (sub_neg.mpr hlt)
    rw [if_pos ⟨rfl, hlt⟩, min_eq_right (by linarith)]
  · have hnonneg : 0 ≤ cfg.alphaRelax * (value - k) :=
      mul_nonneg h.le (sub_nonneg.mpr (not_lt.mp hlt))
    rw [if_neg fun hc => hlt hc.2, if_neg fun hc => hc.1 rfl, min_eq_left (by linarith)]

theorem sampled_dirty (h : 0 < cfg.alphaTighten) (value k : ℚ) :
    sampled cfg value false (some k) = some (max k (k + cfg.alphaTighten * (value - k))) := by
  rw [sampled, if_neg fun hc => Bool.false_ne_true hc.1]
  by_cases hlt : value > k
  · have hpos : 0 < cfg.alphaTighten * (value - k) := mul_pos h (sub_pos.mpr hlt)
    rw [if_pos ⟨Bool.false_ne_true, hlt⟩, max_eq_right (by linarith)]
  · have hnonpos : cfg.alphaTighten * (value - k) ≤ 0 :=
      mul_nonpos_of_nonneg_of_nonpos h.le (sub_nonpos.mpr (not_lt.mp hlt))
    rw [if_neg fun hc => hlt hc.2, max_eq_left (by linarith)]

theorem min_le_step {a : ℚ} (h0 : 0 < a) (h1 : a ≤ 1) (k value : ℚ) :
    min k value ≤ k + a * (value - k) ∧ k + a * (value - k) ≤ max k value := by
  rcases le_total k value with hle | hle
  · rw [min_eq_left hle, max_eq_right hle]
    constructor <;> nlinarith
  · rw [min_eq_right hle, max_eq_left hle]
    constructor <;> nlinarith

theorem step_le_step {a k k' value value' : ℚ} (h0 : 0 < a) (h1 : a ≤ 1) (hk : k ≤ k')
    (hv : value ≤ value') : k + a * (value - k) ≤ k' + a * (value' - k') := by
  calc k + a * (value - k) = (1 - a) * k + a * value := by ring
    _ ≤ (1 - a) * k' + a * value' :=
        add_le_add (mul_le_mul_of_nonneg_left hk (sub_nonneg.mpr h1))
          (mul_le_mul_of_nonneg_left hv h0.le)
    _ = k' + a * (value' - k') := by ring

theorem sampled_mono (hcfg : cfg.Proper) {value value' : ℚ} (clean : Bool) (hv : value ≤ value')
    {k k' : Option ℚ} (hk : Option.Rel (· ≤ ·) k k') :
    Option.Rel (· ≤ ·) (sampled cfg value clean k) (sampled cfg value' clean k') := by
  cases hk with
  | none =>
    cases clean with
    | true => exact .none
    | false => exact .some hv
  | some hk =>
    cases clean with
    | true =>
      rw [sampled_clean hcfg.relax_pos, sampled_clean hcfg.relax_pos]
      exact .some (min_le_min hk (step_le_step hcfg.relax_pos hcfg.relax_le hk hv))
    | false =>
      rw [sampled_dirty hcfg.tighten_pos, sampled_dirty hcfg.tighten_pos]
      exact .some (max_le_max hk (step_le_step hcfg.tighten_pos hcfg.tighten_le hk hv))

variable {m : KneeModel} {rung : ℤ} {value : ℚ} {clean : Bool}

theorem kneeAt_observe {K : ℕ} (hK : K ≤ maxMcs) : (observe cfg rung value clean m).kneeAt K =
    if rung = K then sampled cfg value clean (m.kneeAt K) else m.kneeAt K := by
  by_cases hr : rung < 0 ∨ rung > maxMcs
  · have hne : ¬ rung = K := by omega
    rw [observe, if_pos hr, if_neg hne]
  · have hiff : K = rung.toNat ↔ rung = K := by omega
    rw [observe_kneeAt (by omega) (by omega), if_congr hiff rfl rfl]

theorem kneeAt_observe_ne {K : ℕ} (h : rung ≠ K) :
    (observe cfg rung value clean m).kneeAt K = m.kneeAt K := by
  by_cases hr : rung < 0 ∨ rung > maxMcs
  · rw [observe, if_pos hr]
  · rw [observe_kneeAt (by omega) (by omega), if_neg (by omega)]

theorem kneeAt_observe_clean (hcfg : cfg.Proper) (K : ℕ) :
    Option.Rel (· ≤ ·) ((observe cfg rung value true m).kneeAt K) (m.kneeAt K) := by
  have hrefl : Option.Rel (· ≤ ·) (m.kneeAt K) (m.kneeAt K) := by
    cases m.kneeAt K with
    | none => exact .none
    | some k => exact .some le_rfl
  by_cases hr : rung = K ∧ K ≤ maxMcs
  · rw [kneeAt_observe hr.2, if_pos hr.1]
    cases m.kneeAt K with
    | none => exact .none
    | some k =>
      rw [sampled_clean hcfg.relax_pos]
      exact .some (min_le_left _ _)
  · by_cases hne : rung = K
    · have hoff : rung < 0 ∨ rung > maxMcs := by omega
      rw [observe, if_pos hoff]
      exact hrefl
    · rw [kneeAt_observe_ne hne]
      exact hrefl

theorem kneeAt_observe_dirty (hcfg : cfg.Proper) {K : ℕ} {k : ℚ} (hk : m.kneeAt K = some k) :
    ∃ k', (observe cfg rung value false m).kneeAt K = some k' ∧ k ≤ k' := by
  by_cases hne : rung = K
  · by_cases hoff : rung < 0 ∨ rung > maxMcs
    · rw [observe, if_pos hoff]
      exact ⟨k, hk, le_rfl⟩
    · rw [kneeAt_observe (by omega), if_pos hne, hk, sampled_dirty hcfg.tighten_pos]
      exact ⟨_, rfl, le_max_left _ _⟩
  · rw [kneeAt_observe_ne hne]
    exact ⟨k, hk, le_rfl⟩

end Sample

/-! ## Where a knee lies -/

section Planted

variable {cfg : LearnedPriorConfig} {obs : List Observation} {o : Observation} {K : ℕ} {v : ℚ}

theorem samplesAt_concat : samplesAt (obs ++ [o]) K =
    if o.rung = K then samplesAt obs K ++ [o] else samplesAt obs K := by
  by_cases h : o.rung = K <;> simp [samplesAt, h]

theorem dirtyValues_concat : dirtyValues (obs ++ [o]) K =
    if o.rung = K ∧ o.clean = false then dirtyValues obs K ++ [o.value] else dirtyValues obs K := by
  unfold dirtyValues
  rw [samplesAt_concat]
  by_cases h : o.rung = K
  · cases hc : o.clean <;> simp [h, hc]
  · simp [h]

theorem dirtyValues_eq_nil :
    dirtyValues obs K = [] ↔ ∀ o ∈ obs, o.rung = K → o.clean = true := by
  rw [dirtyValues, List.map_eq_nil_iff, List.filter_eq_nil_iff]
  simp [samplesAt]

theorem mem_valuesFromDirty_concat (h : v ∈ valuesFromDirty obs K) :
    v ∈ valuesFromDirty (obs ++ [o]) K := by
  unfold valuesFromDirty at h ⊢
  rw [samplesAt_concat]
  by_cases hK : o.rung = K
  · obtain ⟨a, ha, rfl⟩ := List.mem_map.mp h
    have hne : ((samplesAt obs K).dropWhile (·.clean)).isEmpty = false :=
      List.isEmpty_eq_false_iff.mpr (List.ne_nil_of_mem ha)
    rw [if_pos hK, List.dropWhile_append, hne]
    exact List.mem_map_of_mem (List.mem_append_left _ ha)
  · rwa [if_neg hK]

theorem value_mem_valuesFromDirty (hK : o.rung = K)
    (h : o.clean = false ∨ valuesFromDirty obs K ≠ []) :
    o.value ∈ valuesFromDirty (obs ++ [o]) K := by
  unfold valuesFromDirty at h ⊢
  rw [samplesAt_concat, if_pos hK, List.dropWhile_append]
  cases hemp : ((samplesAt obs K).dropWhile (·.clean)).isEmpty with
  | true =>
    rcases h with hdirty | hne
    · simp [hdirty]
    · exact absurd (by rw [List.isEmpty_iff.mp hemp, List.map_nil]) hne
  | false => exact List.mem_map_of_mem (List.mem_append_right _ (List.mem_singleton_self o))

/-- **The knee of a rung, against the samples observed there.** -/
structure Planted (obs : List Observation) (K : ℕ) (knee : Option ℚ) : Prop where
  none_iff : knee = none ↔ dirtyValues obs K = []
  lower : ∀ k, knee = some k → ∃ v ∈ valuesFromDirty obs K, v ≤ k
  upper : ∀ k, knee = some k → ∃ v ∈ dirtyValues obs K, k ≤ v

theorem Planted.elsewhere {knee : Option ℚ} (h : Planted obs K knee) (hK : o.rung ≠ K) :
    Planted (obs ++ [o]) K knee := by
  have hdirty : dirtyValues (obs ++ [o]) K = dirtyValues obs K := by
    rw [dirtyValues_concat, if_neg fun hc => hK hc.1]
  refine ⟨by rw [hdirty]; exact h.none_iff, fun k hk => ?_, by rw [hdirty]; exact h.upper⟩
  obtain ⟨v, hv, hle⟩ := h.lower k hk
  exact ⟨v, mem_valuesFromDirty_concat hv, hle⟩

theorem Planted.sampled (hcfg : cfg.Proper) {knee : Option ℚ} (h : Planted obs K knee)
    (hK : o.rung = K) : Planted (obs ++ [o]) K (sampled cfg o.value o.clean knee) := by
  cases hc : o.clean with
  | true =>
    have hdirty : dirtyValues (obs ++ [o]) K = dirtyValues obs K := by
      rw [dirtyValues_concat, if_neg fun hd => by rw [hc] at hd; cases hd.2]
    cases knee with
    | none => exact ⟨by rw [hdirty]; exact h.none_iff, nofun, nofun⟩
    | some k =>
      obtain ⟨lo, hlo, hlok⟩ := h.lower k rfl
      obtain ⟨hi, hhi, hkhi⟩ := h.upper k rfl
      rw [sampled_clean hcfg.relax_pos]
      refine ⟨by rw [hdirty, ← h.none_iff]; simp, ?_, ?_⟩
      · rintro k' ⟨⟩
        have hstep := (min_le_step hcfg.relax_pos hcfg.relax_le k o.value).1
        rcases le_total k o.value with hle | hle
        · rw [min_eq_left hle] at hstep
          exact ⟨lo, mem_valuesFromDirty_concat hlo, hlok.trans (le_min le_rfl hstep)⟩
        · rw [min_eq_right hle] at hstep
          exact ⟨o.value, value_mem_valuesFromDirty hK (.inr (List.ne_nil_of_mem hlo)),
            le_min hle hstep⟩
      · rintro k' ⟨⟩
        exact ⟨hi, hdirty ▸ hhi, (min_le_left _ _).trans hkhi⟩
  | false =>
    have hdirty : dirtyValues (obs ++ [o]) K = dirtyValues obs K ++ [o.value] := by
      rw [dirtyValues_concat, if_pos ⟨hK, hc⟩]
    have hself : o.value ∈ dirtyValues (obs ++ [o]) K := by
      rw [hdirty]
      exact List.mem_append_right _ (List.mem_singleton_self _)
    have hfrom : o.value ∈ valuesFromDirty (obs ++ [o]) K := value_mem_valuesFromDirty hK (.inl hc)
    cases knee with
    | none =>
      refine ⟨by simp [KneeModel.sampled, hdirty], ?_, ?_⟩
      · rintro k' ⟨⟩
        exact ⟨o.value, hfrom, le_rfl⟩
      · rintro k' ⟨⟩
        exact ⟨o.value, hself, le_rfl⟩
    | some k =>
      obtain ⟨lo, hlo, hlok⟩ := h.lower k rfl
      obtain ⟨hi, hhi, hkhi⟩ := h.upper k rfl
      rw [sampled_dirty hcfg.tighten_pos]
      refine ⟨by simp [hdirty], ?_, ?_⟩
      · rintro k' ⟨⟩
        exact ⟨lo, mem_valuesFromDirty_concat hlo, hlok.trans (le_max_left _ _)⟩
      · rintro k' ⟨⟩
        have hstep := (min_le_step hcfg.tighten_pos hcfg.tighten_le k o.value).2
        rcases le_total k o.value with hle | hle
        · rw [max_eq_right hle] at hstep
          exact ⟨o.value, hself, max_le hle hstep⟩
        · rw [max_eq_left hle] at hstep
          exact ⟨hi, by rw [hdirty]; exact List.mem_append_left _ hhi,
            (max_le le_rfl hstep).trans hkhi⟩

theorem planted_observeAll (hcfg : cfg.Proper) (obs : List Observation) (hK : K ≤ maxMcs) :
    Planted obs K ((observeAll cfg {} obs).kneeAt K) := by
  induction obs using List.reverseRecOn with
  | nil =>
    have hnone : (observeAll cfg {} []).kneeAt K = none := by
      show (List.replicate (maxMcs + 1) none).getD K none = none
      rw [List.getD_eq_getElem?_getD, List.getElem?_replicate, if_pos (by omega), Option.getD_some]
    rw [hnone]
    exact ⟨iff_of_true rfl rfl, nofun, nofun⟩
  | append_singleton obs o ih =>
    have hlast : observeAll cfg {} (obs ++ [o]) =
        observe cfg o.rung o.value o.clean (observeAll cfg {} obs) := by
      simp [observeAll, List.foldl_append]
    rw [hlast, kneeAt_observe hK]
    by_cases hrung : o.rung = K
    · rw [if_pos hrung]
      exact ih.sampled hcfg hrung
    · rw [if_neg hrung]
      exact ih.elsewhere hrung

end Planted

/-! ## Two runs side by side -/

section Order

variable {cfg : LearnedPriorConfig} {m m' : KneeModel}

/-- The same counts, and knees that are no larger. -/
structure Lower (m m' : KneeModel) : Prop where
  count : ∀ K, m.countAt K = m'.countAt K
  knee : ∀ K, Option.Rel (· ≤ ·) (m.kneeAt K) (m'.kneeAt K)

theorem Lower.refl (m : KneeModel) : Lower m m := by
  refine ⟨fun K => rfl, fun K => ?_⟩
  cases m.kneeAt K with
  | none => exact .none
  | some k => exact .some le_rfl

theorem Lower.observe (hcfg : cfg.Proper) (h : Lower m m') {o o' : Observation} (ho : o.Below o') :
    Lower (observe cfg o.rung o.value o.clean m) (observe cfg o'.rung o'.value o'.clean m') := by
  rw [← ho.rung, ← ho.clean]
  by_cases hr : o.rung < 0 ∨ o.rung > maxMcs
  · rw [KneeModel.observe, KneeModel.observe, if_pos hr, if_pos hr]
    exact h
  have h0 : 0 ≤ o.rung := by omega
  have h7 : o.rung ≤ maxMcs := by omega
  constructor
  · intro K
    rw [observe_countAt h0 h7, observe_countAt h0 h7, h.count K]
  · intro K
    rw [observe_kneeAt h0 h7, observe_kneeAt h0 h7]
    by_cases hK : K = o.rung.toNat
    · rw [if_pos hK, if_pos hK]
      exact sampled_mono hcfg o.clean ho.value (h.knee K)
    · rw [if_neg hK, if_neg hK]
      exact h.knee K

theorem Lower.observeAll (hcfg : cfg.Proper) (h : Lower m m') {obs obs' : List Observation}
    (hobs : List.Forall₂ Observation.Below obs obs') :
    Lower (observeAll cfg m obs) (observeAll cfg m' obs') := by
  induction hobs generalizing m m' with
  | nil => exact h
  | cons ho _ ih => exact ih (h.observe hcfg ho)

theorem effKnees_lt (m : KneeModel) (r : ℕ) (x : ℚ) :
    (∃ k, (effKnees cfg m).getD r none = some k ∧ x < k) ↔
      Confident cfg m r ∧ ∃ j ≤ r, ∃ k, m.kneeAt j = some k ∧ cfg.minSamples ≤ m.countAt j ∧ x < k := by
  rw [effKnees, effFrom_lt]
  simp only [sureAt_zip, Confident, Option.isSome_iff_exists, exists_and_right, reduceCtorEq,
    false_and, exists_false, false_or, and_assoc]

theorem effKnees_isSome (m : KneeModel) (r : ℕ) :
    ((effKnees cfg m).getD r none).isSome = true ↔ Confident cfg m r := by
  rw [effKnees, effFrom_isSome]
  simp only [sureAt_zip, Confident, Option.isSome_iff_exists, exists_and_right]

theorem Lower.confident (h : Lower m m') (K : ℕ) : Confident cfg m K ↔ Confident cfg m' K := by
  unfold Confident
  rw [h.count K]
  have hknee := h.knee K
  generalize m.kneeAt K = k at hknee
  generalize m'.kneeAt K = k' at hknee
  cases hknee with
  | none => rfl
  | some _ => rfl

theorem Lower.effKnees (h : Lower m m') (K : ℕ) :
    Option.Rel (· ≤ ·) ((effKnees cfg m).getD K none) ((effKnees cfg m').getD K none) := by
  have hsome : ((KneeModel.effKnees cfg m).getD K none).isSome = true ↔
      ((KneeModel.effKnees cfg m').getD K none).isSome = true := by
    rw [effKnees_isSome, effKnees_isSome]
    exact h.confident K
  cases hx : (KneeModel.effKnees cfg m).getD K none with
  | none =>
    rw [hx] at hsome
    cases hy : (KneeModel.effKnees cfg m').getD K none with
    | none => exact .none
    | some y =>
      rw [hy] at hsome
      exact absurd (hsome.mpr rfl) Bool.false_ne_true
  | some x =>
    rw [hx] at hsome
    obtain ⟨y, hy⟩ := Option.isSome_iff_exists.mp (hsome.mp rfl)
    rw [hy]
    refine .some (not_lt.mp fun hlt => ?_)
    -- a knee that lifts the smaller one above `y` lifts the larger one too
    obtain ⟨hconf, j, hj, k, hk, hc, hyk⟩ := (effKnees_lt m K y).mp ⟨x, hx, hlt⟩
    have hknee := h.knee j
    rw [hk] at hknee
    generalize hj' : m'.kneeAt j = kj at hknee
    cases hknee with
    | some hle =>
      obtain ⟨y', hy', hlt'⟩ := (effKnees_lt m' K y).mpr
        ⟨(h.confident K).mp hconf, j, hj, _, hj', h.count j ▸ hc, hyk.trans_le hle⟩
      obtain rfl := Option.some.inj (hy.symm.trans hy')
      exact lt_irrefl _ hlt'

theorem effKnees_le {j K : ℕ} (hjK : j ≤ K) {x y : ℚ} (hx : (effKnees cfg m).getD j none = some x)
    (hy : (effKnees cfg m).getD K none = some y) : x ≤ y := by
  refine not_lt.mp fun hlt => ?_
  obtain ⟨-, i, hi, k, hk⟩ := (effKnees_lt m j y).mp ⟨x, hx, hlt⟩
  have hconf : Confident cfg m K := (effKnees_isSome m K).mp (by rw [hy]; rfl)
  obtain ⟨y', hy', hlt'⟩ := (effKnees_lt m K y).mpr ⟨hconf, i, hi.trans hjK, k, hk⟩
  obtain rfl := Option.some.inj (hy.symm.trans hy')
  exact lt_irrefl _ hlt'

end Order

/-! ## The laws -/

section Laws

variable {cfg : LearnedPriorConfig}

structure OneSided (cfg : LearnedPriorConfig) (m : KneeModel) : Prop where
  elsewhere : ∀ (o : Observation) (K : ℕ), o.rung ≠ K →
    (observe cfg o.rung o.value o.clean m).kneeAt K = m.kneeAt K
  clean : ∀ (o : Observation) (K : ℕ), o.clean = true →
    Option.Rel (· ≤ ·) ((observe cfg o.rung o.value o.clean m).kneeAt K) (m.kneeAt K)
  dirty : ∀ (o : Observation) (K : ℕ) (k : ℚ), o.clean = false → m.kneeAt K = some k →
    ∃ k', (observe cfg o.rung o.value o.clean m).kneeAt K = some k' ∧ k ≤ k'

structure Ladder (cfg : LearnedPriorConfig) (m : KneeModel) : Prop where
  effKnees : ∀ (j K : ℕ) (x y : ℚ), j ≤ K → (effKnees cfg m).getD j none = some x →
    (effKnees cfg m).getD K none = some y → x ≤ y
  unviable : ∀ (rung above : ℤ) (value margin : ℚ), rung ≤ above →
    rungUnviable cfg m rung value margin = true → rungConfident cfg m above = true →
      rungUnviable cfg m above value margin = true

theorem proper_default : LearnedPriorConfig.Proper {} := by
  constructor <;> norm_num

def failingRung : List Observation :=
  [⟨3, 20, true⟩, ⟨3, 12, false⟩, ⟨3, 16, false⟩, ⟨3, 10, true⟩]

end Laws

end KneeModel

end Fpvd.Gs
