import Fpvd.Gs.Schema

/-!
# Fpvd.Gs.Steady — the dead band on a clean, steady link

The demote margin exceeds the promote margin, so a rung that was promoted into at a steady SNR should
not be demoted from at that SNR.  It is, when the rung was entered by exploration over a knee that is
only short of samples: the clean samples taken there make the knee confident, and then it speaks
against the rung (`steady_drops`).
-/

namespace Fpvd.Gs

namespace Policy

structure Steady (s : ℚ) (sig : Signals) : Prop where
  snr : sig.snr = some s
  loss : sig.residualLossW = 0
  fec : sig.fecWork = 0
  starved : sig.linkStarvedW = false

/-- The clean sample of the coming tick makes a cold rung confident, and unviable at the very SNR at
which it has run clean. -/
def ripens (cfg : PolicyConfig) (sig : Signals) (p : Policy) : Bool :=
  match p.lastIngestMcs, sig.snr with
  | some q, some snr =>
    decide (cfg.learnedPrior.settleTicks ≤ p.ticksAtMcs + 1 ∧
      sig.residualLossW < cfg.learnedPrior.viableLoss) &&
    !p.learnedPrior.rungConfident cfg.learnedPrior q &&
    (p.learnedPrior.observe cfg.learnedPrior q snr true).rungUnviable cfg.learnedPrior q snr
      cfg.selector.snrDemoteMarginDb
  | _, _ => false

section Run

variable {cfg : PolicyConfig} {s : ℚ} {sig : Signals} {p : Policy}

structure Settled (cfg : PolicyConfig) (s : ℚ) (p : Policy) : Prop where
  window : ∀ x ∈ p.snrWindow, x = s
  range : InRange cfg p
  viable : p.learnedPrior.rungUnviable cfg.learnedPrior p.rung s cfg.selector.snrDemoteMarginDb = false

theorem advance_window (hs : Steady s sig) (h : ∀ x ∈ p.snrWindow, x = s) :
    ∀ x ∈ (advance cfg sig p).snrWindow, x = s := by
  intro x hx
  unfold advance at hx
  rw [hs.snr] at hx
  exact (mem_pushRecent hx).elim (h x) id

theorem steady_evidence (hcfg : SchemaValid cfg) (hs : Steady s sig)
    (hwin : ∀ x ∈ p.snrWindow, x = s) {w : Reason} (h : Evidence cfg sig (advance cfg sig p) w) :
    p.learnedPrior.rungUnviable cfg.learnedPrior p.rung s cfg.selector.snrDemoteMarginDb = true := by
  cases h with
  | predict snr cur tgt hsnr drop =>
    rw [lsqSlope_const (advance_window hs hwin), neg_zero, zero_mul] at drop
    exact absurd hcfg.minDrop (not_lt.mpr drop)
  | snr cur tgt unviable =>
    rw [hs.snr] at unviable
    exact unviable

theorem steady_emergency (hcfg : SchemaValid cfg) (hs : Steady s sig) (p : Policy) :
    LeadingSelector.inEmergency cfg.selector ((beforeSelect cfg sig p).tickInput cfg sig p.rung) =
      !decide (0 < cfg.selector.videoDemotePer ∧ 0 < cfg.selector.emergencyFecPressure) := by
  have hcount : (beforeSelect cfg sig p).starvationCount = 0 := by
    rw [(beforeSelect_cases cfg sig p).1.starvationCount]
    unfold advance
    rw [hs.starved]
    rfl
  have hstarve : decide (cfg.selector.starvationWindows ≤ 0) = false :=
    decide_eq_false (not_le.mpr hcfg.starvationWindows)
  unfold LeadingSelector.inEmergency LeadingSelector.emergencyActive tickInput
  dsimp only
  rw [hs.loss, hs.fec, hcount]
  simp only [ge_iff_le, hstarve, Bool.false_eq_true, or_false, Bool.decide_and, Bool.not_and,
    ← decide_not, not_lt]

theorem promoted_viable (hcfg : SchemaValid cfg) (hs : Steady s sig)
    (hl : (beforeSelect cfg sig p).leading = p.leading) {dwell : ℤ} {w : Reason}
    (route : LeadingSelector.Route cfg.selector
      ((beforeSelect cfg sig p).tickInput cfg sig p.rung) dwell w) :
    p.learnedPrior.rungUnviable cfg.learnedPrior (p.rung + 1) s cfg.selector.snrDemoteMarginDb =
      false := by
  have hprior : (beforeSelect cfg sig p).learnedPrior = p.learnedPrior :=
    (beforeSelect_cases cfg sig p).1.learnedPrior
  have hrung : (beforeSelect cfg sig p).rung = p.rung := congrArg LeadingSelector.currentMcs hl
  have hopen : ((beforeSelect cfg sig p).tickInput cfg sig p.rung).targetBlocked = false →
      p.learnedPrior.rungUnviable cfg.learnedPrior (p.rung + 1) s
        cfg.selector.snrDemoteMarginDb = false := by
    intro h
    unfold tickInput at h
    rw [hprior, hrung, hs.snr] at h
    refine KneeModel.rungUnviable_mono ?_ h
    linarith [hcfg.promoteMargin, hcfg.deadBand]
  cases route with
  | snapback tgt open_ => exact hopen open_
  | knee dwelt sure open_ => exact hopen open_
  | explore dwelt cold =>
    unfold tickInput at cold
    rw [hprior, hrung] at cold
    exact KneeModel.rungUnviable_cold cold

theorem learn_viable (hcfg : SchemaValid cfg) (hs : Steady s sig) (hripe : ripens cfg sig p = false)
    (hfail : (selected cfg sig p).leading.lastFail = none)
    (h : p.learnedPrior.rungUnviable cfg.learnedPrior (selected cfg sig p).rung s
      cfg.selector.snrDemoteMarginDb = false) :
    (p.tick cfg sig).1.learnedPrior.rungUnviable cfg.learnedPrior (selected cfg sig p).rung s
      cfg.selector.snrDemoteMarginDb = false := by
  obtain ⟨hprior, -, hticks, hlast⟩ := selected_books cfg sig p
  have hteach : teach cfg (selected cfg sig p) = selected cfg sig p := by
    unfold teach
    rw [hfail]
  rw [tick_fst, hteach]
  rcases ingest_prior sig hcfg.settleTicks (selected cfg sig p) with
    heq | ⟨snr, hsnr, hq, hsettled, hclean, heq⟩
  · rwa [heq, hprior]
  rw [heq, hprior]
  obtain rfl : s = snr := Option.some.inj (hs.snr.symm.trans hsnr)
  cases hconf : p.learnedPrior.rungConfident cfg.learnedPrior (selected cfg sig p).rung with
  | true =>
    exact KneeModel.observe_clean_viable hcfg.minSamples hcfg.recencyDecay hcfg.alphaRelax hconf h
  | false =>
    unfold ripens at hripe
    rw [hlast] at hq
    rw [hticks] at hsettled
    rw [hq, hs.snr] at hripe
    dsimp only at hripe
    rw [decide_eq_true ⟨hsettled, hclean⟩, hconf] at hripe
    simpa using hripe

theorem tick_window (hs : Steady s sig) (h : ∀ x ∈ p.snrWindow, x = s) :
    ∀ x ∈ (p.tick cfg sig).1.snrWindow, x = s := by
  rw [tick_fst, ingest_snrWindow, teach_snrWindow, (selected_books cfg sig p).2.1]
  exact advance_window hs h

theorem settled_of_viable (hcfg : SchemaValid cfg) (hs : Steady s sig) (hp : InRange cfg p)
    (hwin : ∀ x ∈ p.snrWindow, x = s) (hripe : ripens cfg sig p = false)
    (hfail : (p.tick cfg sig).1.leading.lastFail = none)
    (hv : p.learnedPrior.rungUnviable cfg.learnedPrior (p.tick cfg sig).1.rung s
      cfg.selector.snrDemoteMarginDb = false) :
    Settled cfg s (p.tick cfg sig).1 := by
  refine ⟨tick_window hs hwin, tick_inRange hp sig, ?_⟩
  have hrung : (selected cfg sig p).rung = (p.tick cfg sig).1.rung :=
    congrArg LeadingSelector.currentMcs (selected_leading cfg sig p)
  rw [← selected_leading] at hfail
  rw [← hrung] at hv ⊢
  exact learn_viable hcfg hs hripe hfail hv

/-- **A steady promote** leaves a settled policy, and shows that the configuration takes steady
windows for clean. -/
theorem settled_of_rises (hcfg : SchemaValid cfg) (hs : Steady s sig) (hp : InRange cfg p)
    (hwin : ∀ x ∈ p.snrWindow, x = s) (hripe : ripens cfg sig p = false)
    (hrise : p.rung < (p.tick cfg sig).1.rung) :
    Settled cfg s (p.tick cfg sig).1 ∧
      0 < cfg.selector.videoDemotePer ∧ 0 < cfg.selector.emergencyFecPressure := by
  obtain ⟨hl, hup, hfail, hem, snr, w, -, -, route⟩ := tick_rises hp hrise
  rw [steady_emergency hcfg hs] at hem
  refine ⟨settled_of_viable hcfg hs hp hwin hripe hfail ?_, by simpa using hem⟩
  rw [hup]
  exact promoted_viable hcfg hs hl route

theorem Settled.tick (hcfg : SchemaValid cfg)
    (hquiet : 0 < cfg.selector.videoDemotePer ∧ 0 < cfg.selector.emergencyFecPressure)
    (h : Settled cfg s p) (hs : Steady s sig) (hripe : ripens cfg sig p = false) :
    Settled cfg s (p.tick cfg sig).1 ∧ p.rung ≤ (p.tick cfg sig).1.rung := by
  by_cases hrise : p.rung < (p.tick cfg sig).1.rung
  · exact ⟨(settled_of_rises hcfg hs h.range h.window hripe hrise).1, hrise.le⟩
  obtain ⟨-, ⟨-, hl⟩ | ⟨w, -, evidence, -⟩⟩ := beforeSelect_cases cfg sig p
  · have hcalm := steady_emergency hcfg hs p
    rw [decide_eq_true hquiet, Bool.not_true] at hcalm
    have hout := LeadingSelector.select_outcome cfg.selector
      ((beforeSelect cfg sig p).tickInput cfg sig p.rung) (beforeSelect cfg sig p).leading
    rw [← tick_leading, hl] at hout
    cases hout with
    | held mcs fail why =>
      have hstay : (p.tick cfg sig).1.rung = p.rung := mcs
      refine ⟨settled_of_viable hcfg hs h.range h.window hripe fail ?_, hstay.ge⟩
      rw [hstay]
      exact h.viable
    | demoted w why reactive hem hcan mcs fail =>
      rw [hcalm] at hem
      cases hem
    | promoted snr w why route hem hsnr mcs hcap rate fail =>
      unfold LeadingSelector.clampMcs at mcs
      have hr : (p.tick cfg sig).1.rung = (p.tick cfg sig).1.leading.currentMcs := rfl
      have hp : p.rung = p.leading.currentMcs := rfl
      omega
  · -- only the knee could demote, and it is clear of the SNR
    have hun := steady_evidence hcfg hs h.window evidence
    rw [h.viable] at hun
    cases hun

theorem Settled.run (hcfg : SchemaValid cfg)
    (hquiet : 0 < cfg.selector.videoDemotePer ∧ 0 < cfg.selector.emergencyFecPressure) :
    ∀ (sigs : List Signals) (p : Policy), Settled cfg s p → (∀ sig ∈ sigs, Steady s sig) →
      Run.Meets (fun p sig => (p.tick cfg sig).1) (fun p sig => ripens cfg sig p = false) p sigs →
      p.rung ≤ (sigs.foldl (fun p sig => (p.tick cfg sig).1) p).rung
  | [], _, _, _, _ => le_rfl
  | sig :: sigs, p, h, hs, hm => by
    obtain ⟨hnext, hle⟩ := h.tick hcfg hquiet (hs sig List.mem_cons_self) hm.1
    exact hle.trans (Settled.run hcfg hquiet sigs _ hnext
      (fun sig' h' => hs sig' (List.mem_cons_of_mem sig h')) hm.2)

/-- **No oscillation without a ripening knee.**  Under a configuration built from a schema-valid
block, from any state whose SNR window is constant: after a steady tick that promotes, no steady tick
takes the rung below the one promoted into, as long as no tick ripens the rung it samples. -/
theorem no_oscillation (py : PyNumbers) (dl : Dict) (cfg : PolicyConfig)
    (hvalid : validateDynamicLink dl = .ok ()) (hbuild : buildPolicyConfig py dl = .ok cfg) (s : ℚ)
    (p : Policy) (hp : InRange cfg p) (hwin : ∀ x ∈ p.snrWindow, x = s) (first : Signals)
    (rest : List Signals) (hsteady : ∀ sig ∈ first :: rest, Steady s sig)
    (hrise : p.rung < (p.tick cfg first).1.rung)
    (hmeets : Run.Meets (fun p sig => (p.tick cfg sig).1) (fun p sig => ripens cfg sig p = false) p
      (first :: rest)) :
    ∀ sigs, sigs <+: rest → (p.tick cfg first).1.rung ≤
      (sigs.foldl (fun p sig => (p.tick cfg sig).1) (p.tick cfg first).1).rung := by
  rintro sigs ⟨later, rfl⟩
  have hcfg := schemaValid_of_build hvalid hbuild
  obtain ⟨hsettled, hquiet⟩ := settled_of_rises hcfg (hsteady first List.mem_cons_self) hp hwin
    hmeets.1 hrise
  refine Settled.run hcfg hquiet sigs _ hsettled (fun sig h => ?_)
    ((Run.meets_append _ sigs later).mp hmeets.2).1
  exact hsteady sig (List.mem_cons_of_mem first (List.mem_append_left later h))

end Run

/-! ## A knee that ripens -/

def at20 (n : ℕ) : Signals := { timestamp := n / 10, snr := some 20, snrW := some 20 }

theorem at20_steady (n : ℕ) : Steady 20 (at20 n) := ⟨rfl, rfl, rfl, rfl⟩

def dwelt (prior : KneeModel) : Policy :=
  ((List.range 29).map at20).foldl (fun p sig => (p.tick {} sig).1) (boot {} prior)

def later20 : List Signals := (List.range' 30 10).map at20

def failedAt25 (m : KneeModel) : KneeModel :=
  (List.replicate 8 (25 : ℚ)).foldl (fun m snr => m.observe {} 2 snr false) m

theorem steady_at20 : ∀ sig ∈ at20 29 :: later20, Steady 20 sig := by
  intro sig hsig
  rcases List.mem_cons.mp hsig with rfl | hsig
  · exact at20_steady 29
  · obtain ⟨n, -, rfl⟩ := List.mem_map.mp hsig
    exact at20_steady n

/-- Without a knee the climb to rung 2 lasts. -/
theorem no_oscillation_cold :
    ((dwelt {}).tick {} (at20 29)).1.rung = 2 ∧
      2 ≤ (later20.foldl (fun p sig => (p.tick {} sig).1) ((dwelt {}).tick {} (at20 29)).1).rung := by
  have hup : ((dwelt {}).tick {} (at20 29)).1.rung = 2 := by decide +kernel
  have h := no_oscillation ⟨fun _ => none, fun _ => none⟩ [] {} rfl rfl 20 (dwelt {})
    (by decide +kernel) (by decide +kernel) (at20 29) later20 steady_at20 (by decide +kernel)
    (by decide +kernel) later20 List.prefix_rfl
  rw [hup] at h
  exact ⟨hup, h⟩

/-- **The dead band does not hold.**  Under the default block, at a steady 20 dB, the policy explores
rung 2, and the clean windows there complete the confidence of the 25 dB knee: it is demoted again. -/
theorem steady_drops :
    ¬ ∀ (py : PyNumbers) (dl : Dict) (cfg : PolicyConfig) (s : ℚ) (p : Policy) (first : Signals)
      (rest : List Signals), validateDynamicLink dl = .ok () → buildPolicyConfig py dl = .ok cfg →
      InRange cfg p → (∀ x ∈ p.snrWindow, x = s) → (∀ sig ∈ first :: rest, Steady s sig) →
      p.rung < (p.tick cfg first).1.rung →
      ∀ sigs, sigs <+: rest → (p.tick cfg first).1.rung ≤
        (sigs.foldl (fun p sig => (p.tick cfg sig).1) (p.tick cfg first).1).rung := by
  intro h
  have hlow : (later20.foldl (fun p sig => (p.tick {} sig).1)
      ((dwelt (failedAt25 {})).tick {} (at20 29)).1).rung <
        ((dwelt (failedAt25 {})).tick {} (at20 29)).1.rung := by
    decide +kernel
  exact absurd (h ⟨fun _ => none, fun _ => none⟩ [] {} 20 (dwelt (failedAt25 {})) (at20 29) later20
    rfl rfl (by decide +kernel) (by decide +kernel) steady_at20 (by decide +kernel) later20
    List.prefix_rfl) (not_le.mpr hlow)

/-! ## The cold ladder -/

section Ladder

variable {cfg : PolicyConfig} {sig : Signals} {p : Policy}

def Quiet (cfg : PolicyConfig) (sig : Signals) : Prop :=
  sig.residualLossW < cfg.selector.videoDemotePer ∧ sig.fecWork < cfg.selector.emergencyFecPressure

instance (cfg : PolicyConfig) (sig : Signals) : Decidable (Quiet cfg sig) :=
  inferInstanceAs (Decidable (_ ∧ _))

def Call.Quiet (cfg : PolicyConfig) : Call → Prop
  | .tick sig | .lossEvent sig => Policy.Quiet cfg sig
  | .resetForNewSession => False

def starvedStreak (n : ℤ) (calls : List Call) : ℤ :=
  calls.foldl (fun n c => match c with
    | .tick sig => if sig.linkStarvedW then n + 1 else 0
    | _ => n) n

theorem demoteAhead_cold (hcold : p.learnedPrior.Cold) :
    (demoteAhead cfg sig p).1.leading = p.leading := by
  have hpredict : (predictDemote cfg sig p).1.leading = p.leading ∧
      (predictDemote cfg sig p).1.learnedPrior = p.learnedPrior := by
    unfold predictDemote KneeModel.snrPredictiveRungUnviable
    cases sig.snr with
    | none => exact ⟨rfl, rfl⟩
    | some snr =>
      simp only [hcold.rungUnviable, Bool.false_eq_true, false_and, if_false, and_self]
  have hsnr : ∀ q : Policy, q.learnedPrior = p.learnedPrior →
      (snrDemote cfg sig p.rung q).1.leading = q.leading := by
    intro q hq
    unfold snrDemote KneeModel.snrRungUnviable
    rw [hq]
    cases sig.snr with
    | none => rfl
    | some snr => simp only [hcold.rungUnviable, Bool.false_eq_true, if_false]
  exact (hsnr _ hpredict.2).trans hpredict.1

theorem ingest_cold (hcold : p.learnedPrior.Cold) : (ingest cfg sig p).learnedPrior.Cold := by
  unfold ingest
  dsimp only
  cases sig.snr with
  | none => exact hcold
  | some snr =>
    dsimp only
    split_ifs
    all_goals first | exact hcold.observe_clean p.rung snr | exact hcold

theorem tick_cold (hcold : p.learnedPrior.Cold) (hq : Quiet cfg sig)
    (hstarve : (advance cfg sig p).starvationCount < cfg.selector.starvationWindows) :
    p.rung ≤ (p.tick cfg sig).1.rung ∧ (p.tick cfg sig).1.learnedPrior.Cold := by
  have hl : (beforeSelect cfg sig p).leading = p.leading :=
    demoteAhead_cold (p := advance cfg sig p) hcold
  have hcalm : LeadingSelector.inEmergency cfg.selector
      ((beforeSelect cfg sig p).tickInput cfg sig p.rung) = false := by
    unfold LeadingSelector.inEmergency LeadingSelector.emergencyActive tickInput
    rw [(beforeSelect_cases cfg sig p).1.starvationCount]
    simp only [ge_iff_le, not_le.mpr hq.1, not_le.mpr hq.2, not_le.mpr hstarve, decide_false,
      Bool.false_eq_true, or_self, Bool.or_self]
  have hfail : (p.tick cfg sig).1.leading.lastFail = none →
      (p.tick cfg sig).1.learnedPrior.Cold := by
    intro h
    rw [← selected_leading] at h
    have hteach : teach cfg (selected cfg sig p) = selected cfg sig p := by
      unfold teach
      rw [h]
    rw [tick_fst, hteach]
    refine ingest_cold ?_
    rw [(selected_books cfg sig p).1]
    exact hcold
  have hout := LeadingSelector.select_outcome cfg.selector
    ((beforeSelect cfg sig p).tickInput cfg sig p.rung) (beforeSelect cfg sig p).leading
  rw [← tick_leading, hl] at hout
  have hr : (p.tick cfg sig).1.rung = (p.tick cfg sig).1.leading.currentMcs := rfl
  have hp : p.rung = p.leading.currentMcs := rfl
  cases hout with
  | held mcs fail why => exact ⟨by omega, hfail fail⟩
  | demoted w why reactive hem hcan mcs fail =>
    rw [hcalm] at hem
    cases hem
  | promoted snr w why route hem hsnr mcs hcap rate fail =>
    unfold LeadingSelector.clampMcs at mcs
    exact ⟨by omega, hfail fail⟩

theorem tick_starvationCount (cfg : PolicyConfig) (sig : Signals) (p : Policy) :
    (p.tick cfg sig).1.starvationCount = (advance cfg sig p).starvationCount := by
  have h := (beforeSelect_cases cfg sig p).1.starvationCount
  rw [tick_fst, ingest_eq, teach_eq]
  refine Eq.trans ?_ h
  unfold selected runSelect
  dsimp only
  split_ifs <;> rfl

theorem lossEvent_quiet (hq : Quiet cfg sig) : p.lossEvent cfg sig = (p, none) := by
  unfold lossEvent
  rw [if_pos hq.1]

theorem call_cold {c : Call} (hcold : p.learnedPrior.Cold) (hq : c.Quiet cfg)
    (hstarve : ∀ sig, c = .tick sig →
      starvedStreak p.starvationCount [c] < cfg.selector.starvationWindows) :
    p.rung ≤ (p.call cfg c).rung ∧ (p.call cfg c).learnedPrior.Cold ∧
      (p.call cfg c).starvationCount = starvedStreak p.starvationCount [c] := by
  cases c with
  | tick sig =>
    obtain ⟨hle, hcold'⟩ := tick_cold hcold hq (hstarve sig rfl)
    exact ⟨hle, hcold', tick_starvationCount cfg sig p⟩
  | lossEvent sig =>
    have h : p.call cfg (.lossEvent sig) = p := congrArg Prod.fst (lossEvent_quiet hq)
    rw [h]
    exact ⟨le_rfl, hcold, rfl⟩
  | resetForNewSession => exact absurd hq id

theorem starvedStreak_concat (n : ℤ) (before : List Call) (c : Call) :
    starvedStreak n (before ++ [c]) = starvedStreak (starvedStreak n before) [c] := by
  unfold starvedStreak
  rw [List.foldl_append]

def faded : Signals := { snr := some 0, snrW := some 0, linkStarvedW := true }

def fadedCalls : List Call := [.tick faded, .lossEvent faded, .tick faded]

end Ladder

end Policy

end Fpvd.Gs
