import Fpvd.Gs.Effective

/-!
# Fpvd.Gs.Debounce — the proactive SNR check and the promotes around it

A proactive demote needs two ticks in a row that find the rung unviable by its knee, but the counter does
not say which rung it counts for, and the promote gates look at the knee of the next rung only.
-/

namespace Fpvd.Gs

namespace Policy

variable {cfg : PolicyConfig} {sig : Signals} {p : Policy}

/-- The rung that the proactive check of a tick examines: a predictive demote comes before it. -/
def checked (cfg : PolicyConfig) (sig : Signals) (p : Policy) : ℤ :=
  (predictDemote cfg sig (advance cfg sig p)).1.rung

def findsUnviable (cfg : PolicyConfig) (sig : Signals) (p : Policy) : Bool :=
  p.learnedPrior.snrRungUnviable cfg.learnedPrior (checked cfg sig p) sig.snr
    cfg.selector.snrDemoteMarginDb

/-! ## One tick -/

section Tick

variable (cfg sig p)

theorem checked_cases :
    SameBooks (advance cfg sig p) (predictDemote cfg sig (advance cfg sig p)).1 ∧
      ((predictDemote cfg sig (advance cfg sig p)).1.leading = p.leading ∧
          (predictDemote cfg sig (advance cfg sig p)).2 = [] ∨
        0 < p.rung ∧ (predictDemote cfg sig (advance cfg sig p)).1.leading = stepDown cfg sig p ∧
          p.learnedPrior.rungConfident cfg.learnedPrior p.rung = true) := by
  unfold predictDemote
  cases hsnr : sig.snr with
  | none => exact ⟨⟨rfl, rfl, rfl, rfl, rfl, rfl⟩, .inl ⟨rfl, rfl⟩⟩
  | some snr =>
    dsimp only
    split_ifs with h1 h2 h3
    · refine ⟨⟨rfl, rfl, rfl, rfl, rfl, rfl⟩, .inr ⟨?_, rfl, ?_⟩⟩
      · have hpos : max ((advance cfg sig p).rung - 1) 0 < (advance cfg sig p).rung := h3
        have hr : (advance cfg sig p).rung = p.rung := rfl
        omega
      · exact ((KneeModel.rungUnviable_iff _ _ _ _).mp h1.1).1
    all_goals exact ⟨⟨rfl, rfl, rfl, rfl, rfl, rfl⟩, .inl ⟨rfl, rfl⟩⟩

theorem snrDemote_spec (startMcs : ℤ) (q : Policy) :
    (snrDemote cfg sig startMcs q).1.snrDemoteCount =
        (if q.learnedPrior.snrRungUnviable cfg.learnedPrior q.rung sig.snr
          cfg.selector.snrDemoteMarginDb then q.snrDemoteCount + 1 else 0) ∧
      ∀ r tgt, .snrDemote r tgt ∈ (snrDemote cfg sig startMcs q).2 →
        r = q.rung ∧ q.rung = startMcs ∧ q.cooldownOk cfg = true ∧
          q.learnedPrior.snrRungUnviable cfg.learnedPrior q.rung sig.snr
            cfg.selector.snrDemoteMarginDb = true ∧
          cfg.selector.snrDemoteDebounce ≤ q.snrDemoteCount + 1 := by
  unfold snrDemote
  dsimp only
  split_ifs with h1 h2 h3
  · refine ⟨rfl, fun r tgt h => ?_⟩
    obtain ⟨rfl, -⟩ := Reason.snrDemote.inj (List.mem_singleton.mp h)
    exact ⟨rfl, h2.2.2, h2.2.1, h1, h2.1⟩
  all_goals exact ⟨rfl, fun r tgt h => by simp at h⟩

theorem beforeSelect_eq :
    beforeSelect cfg sig p =
      countProbe sig (snrDemote cfg sig p.rung (predictDemote cfg sig (advance cfg sig p)).1).1 := rfl

theorem beforeSelect_rung_le :
    (beforeSelect cfg sig p).rung ≤ checked cfg sig p := by
  have h := snrDemote_ahead cfg sig p.rung (predictDemote cfg sig (advance cfg sig p)).1
  rw [beforeSelect_eq]
  generalize snrDemote cfg sig p.rung (predictDemote cfg sig (advance cfg sig p)).1 = x at h
  cases h with
  | kept books leading => exact (congrArg LeadingSelector.currentMcs leading).le
  | demoted w books evidence cooldown pos leading =>
    exact (congrArg LeadingSelector.currentMcs leading).trans_le (stepDown_spec cfg sig pos).2.1.le

variable {cfg sig p}

/-- **A tick that leaves an unviable rung upwards** explores: the rung above has no confident knee. -/
theorem rises_into_cold (hcfg : SchemaValid cfg) (hp : InRange cfg p)
    (hun : findsUnviable cfg sig p = true) (hrise : checked cfg sig p < (p.tick cfg sig).1.rung) :
    p.learnedPrior.rungConfident cfg.learnedPrior (checked cfg sig p + 1) = false := by
  obtain ⟨⟨h0, hm⟩, -⟩ := beforeSelect_step hp sig
  have hle := beforeSelect_rung_le cfg sig p
  have hprior := (beforeSelect_cases cfg sig p).1.learnedPrior
  have hr : (p.tick cfg sig).1.rung = (p.tick cfg sig).1.leading.currentMcs := rfl
  have hb : (beforeSelect cfg sig p).rung = (beforeSelect cfg sig p).leading.currentMcs := rfl
  have hout := LeadingSelector.select_outcome cfg.selector
    ((beforeSelect cfg sig p).tickInput cfg sig p.rung) (beforeSelect cfg sig p).leading
  rw [← tick_leading] at hout
  cases hout with
  | held mcs fail why => omega
  | demoted w why reactive hem hcan mcs fail =>
    unfold LeadingSelector.clampMcs at mcs
    omega
  | promoted snr w why route hem hsnr mcs hcap rate fail =>
    unfold LeadingSelector.clampMcs at mcs
    have hrung : (beforeSelect cfg sig p).rung = checked cfg sig p := by omega
    have hsig : sig.snr = some snr := hsnr
    -- an open gate at the next rung would need more SNR than the check has found
    have hopen : ((beforeSelect cfg sig p).tickInput cfg sig p.rung).targetBlocked = false →
        p.learnedPrior.rungConfident cfg.learnedPrior (checked cfg sig p + 1) = false := by
      intro hgate
      rw [Bool.eq_false_iff]
      intro hconf
      unfold findsUnviable at hun
      unfold tickInput at hgate
      rw [hprior, hrung, hsig] at hgate
      rw [hsig] at hun
      have hblocked : p.learnedPrior.rungUnviable cfg.learnedPrior (checked cfg sig p + 1) snr
          (-cfg.selector.snrPromoteMarginDb) = true :=
        KneeModel.rungUnviable_above (by omega) (by linarith [hcfg.promoteMargin, hcfg.deadBand])
          hconf hun
      exact absurd (hgate.symm.trans hblocked) (by decide)
    cases route with
    | snapback tgt open_ => exact hopen open_
    | knee dwelt sure open_ => exact hopen open_
    | explore dwelt cold =>
      unfold tickInput at cold
      rwa [hprior, hrung] at cold

theorem predictDemote_snrDemoteCount (cfg : PolicyConfig) (sig : Signals) (q : Policy) :
    (predictDemote cfg sig q).1.snrDemoteCount = q.snrDemoteCount := by
  unfold predictDemote
  cases sig.snr with
  | none => rfl
  | some snr =>
    dsimp only
    split_ifs <;> rfl

theorem predictDemote_reasons {q : Policy} {r tgt : ℤ} :
    .snrDemote r tgt ∉ (predictDemote cfg sig q).2 := by
  unfold predictDemote
  cases sig.snr with
  | none => simp
  | some snr =>
    dsimp only
    split_ifs <;> simp

theorem tick_snrDemoteCount (cfg : PolicyConfig) (sig : Signals) (p : Policy) :
    (p.tick cfg sig).1.snrDemoteCount =
      if findsUnviable cfg sig p then p.snrDemoteCount + 1 else 0 := by
  have hselected : (selected cfg sig p).snrDemoteCount =
      (snrDemote cfg sig p.rung (predictDemote cfg sig (advance cfg sig p)).1).1.snrDemoteCount := by
    unfold selected runSelect
    dsimp only
    split_ifs <;> rfl
  rw [tick_fst, ingest_eq, teach_eq]
  dsimp only
  rw [hselected, (snrDemote_spec cfg sig p.rung _).1, (checked_cases cfg sig p).1.learnedPrior,
    predictDemote_snrDemoteCount]
  rfl

theorem fires_spec {r tgt : ℤ} (h : .snrDemote r tgt ∈ (p.tick cfg sig).2.reasons) :
    checked cfg sig p = r ∧ p.rung = r ∧ findsUnviable cfg sig p = true ∧
      cfg.selector.demoteCooldownWindows ≤ p.windowsSinceDemote + 1 ∧
      cfg.selector.snrDemoteDebounce ≤ p.snrDemoteCount + 1 := by
  obtain ⟨hbooks, hpredict⟩ := checked_cases cfg sig p
  have hspec := (snrDemote_spec cfg sig p.rung (predictDemote cfg sig (advance cfg sig p)).1).2 r tgt
  rw [tick_decision, tick_leading] at h
  rcases List.mem_append.mp h with h | h
  · have hmem : .snrDemote r tgt ∈
        (snrDemote cfg sig p.rung (predictDemote cfg sig (advance cfg sig p)).1).2 := by
      rcases List.mem_append.mp h with h | h
      · exact absurd h predictDemote_reasons
      · exact h
    obtain ⟨hr, hstart, hcool, hun, hcount⟩ := hspec hmem
    rw [hbooks.learnedPrior] at hun
    rw [cooldownOk, hbooks.windowsSinceDemote] at hcool
    rw [predictDemote_snrDemoteCount] at hcount
    exact ⟨hr.symm, hstart.symm.trans hr.symm, hun, of_decide_eq_true hcool, hcount⟩
  · exact absurd h select_reasons.2

end Tick

/-! ## Runs -/

section Run

theorem lossEvent_books (cfg : PolicyConfig) (sig : Signals) (p : Policy) :
    (p.lossEvent cfg sig).1.snrDemoteCount = p.snrDemoteCount ∧
      (p.lossEvent cfg sig).1.lastIngestMcs = p.lastIngestMcs := by
  rcases lossEvent_cases cfg sig p with h | ⟨-, p', rfl, ⟨-, h⟩ | ⟨-, h⟩⟩
  · rw [h]
    exact ⟨rfl, rfl⟩
  · rw [h]
    exact ⟨rfl, rfl⟩
  · rw [h, teach_eq]
    exact ⟨rfl, rfl⟩

theorem lossEvent_unmoved (hp : InRange cfg p) (h : (p.lossEvent cfg sig).1.windowsSinceDemote ≠ 0) :
    (p.lossEvent cfg sig).1.rung = p.rung ∧
      (p.lossEvent cfg sig).1.learnedPrior = p.learnedPrior ∧
      (p.lossEvent cfg sig).1.windowsSinceDemote = p.windowsSinceDemote := by
  have hstep := (lossEvent_step hp sig).2
  rcases lossEvent_cases cfg sig p with hs | ⟨-, p', rfl, ⟨hge, hs⟩ | ⟨-, hs⟩⟩
  · rw [hs]
    exact ⟨rfl, rfl, rfl⟩
  · rw [hs] at hstep ⊢
    dsimp only at hstep ⊢
    exact ⟨by omega, rfl, rfl⟩
  · rw [hs, teach_windows] at h
    exact absurd rfl h

/-- Between two ticks the rung moves only by a demote, which restarts the cooldown. -/
def Tracked (p : Policy) : Prop :=
  p.lastIngestMcs = none ∨ p.lastIngestMcs = some p.rung ∨ p.windowsSinceDemote = 0

theorem ingest_lastIngestMcs (cfg : PolicyConfig) (sig : Signals) (q : Policy) :
    (ingest cfg sig q).lastIngestMcs = some q.rung := by
  unfold ingest
  dsimp only
  cases sig.snr with
  | none => rfl
  | some snr =>
    dsimp only
    split_ifs <;> rfl

theorem call_tracked (h : p.Tracked) (hp : InRange cfg p) (c : Call) : (p.call cfg c).Tracked := by
  cases c with
  | tick sig =>
    refine .inr (.inl ?_)
    show (p.tick cfg sig).1.lastIngestMcs = some (p.tick cfg sig).1.rung
    rw [tick_fst, ingest_lastIngestMcs, rung, rung, ingest_leading]
  | lossEvent sig =>
    show (p.lossEvent cfg sig).1.Tracked
    by_cases hw : (p.lossEvent cfg sig).1.windowsSinceDemote = 0
    · exact .inr (.inr hw)
    · obtain ⟨hrung, -, hwin⟩ := lossEvent_unmoved hp hw
      unfold Tracked
      rw [(lossEvent_books cfg sig p).2, hrung, hwin]
      exact h
  | resetForNewSession => exact .inl rfl

theorem losses_quiet (losses : List Call) (hloss : ∀ c ∈ losses, ∃ sig, c = .lossEvent sig)
    (hp : InRange cfg p) (h : (losses.foldl (call cfg) p).windowsSinceDemote ≠ 0) :
    (losses.foldl (call cfg) p).rung = p.rung ∧
      (losses.foldl (call cfg) p).learnedPrior = p.learnedPrior ∧
      (losses.foldl (call cfg) p).windowsSinceDemote = p.windowsSinceDemote := by
  induction losses generalizing p with
  | nil => exact ⟨rfl, rfl, rfl⟩
  | cons c losses ih =>
    obtain ⟨sig, rfl⟩ := hloss c List.mem_cons_self
    obtain ⟨hrung, hprior, hwin⟩ := ih (fun c hc => hloss c (List.mem_cons_of_mem _ hc))
      (lossEvent_step hp sig).1 h
    have hquiet : (p.lossEvent cfg sig).1.windowsSinceDemote ≠ 0 := fun hz => h (hwin.trans hz)
    obtain ⟨hrung', hprior', hwin'⟩ := lossEvent_unmoved hp hquiet
    exact ⟨hrung.trans hrung', hprior.trans hprior', hwin.trans hwin'⟩

theorem rise_keeps_prior (hcfg : SchemaValid cfg) (hp : InRange cfg p) (ht : p.Tracked)
    (hw : p.windowsSinceDemote ≠ 0) (hrise : p.rung < (p.tick cfg sig).1.rung) :
    (p.tick cfg sig).1.learnedPrior = p.learnedPrior := by
  obtain ⟨-, hup, hfail, -⟩ := tick_rises hp hrise
  obtain ⟨hprior, -, -, hlast⟩ := selected_books cfg sig p
  have hteach : (teach cfg (selected cfg sig p)).learnedPrior = p.learnedPrior := by
    have hnone : (selected cfg sig p).leading.lastFail = none := by rw [selected_leading, hfail]
    unfold teach
    rw [hnone]
    exact hprior
  rw [tick_fst]
  rcases ingest_prior sig hcfg.settleTicks (teach cfg (selected cfg sig p)) with h |
    ⟨snr, -, hsame, -⟩
  · rw [h, hteach]
  · rw [teach_eq] at hsame
    dsimp only at hsame
    have hrung : (teach cfg (selected cfg sig p)).rung = p.rung + 1 := by
      rw [teach_rung, rung, selected_leading]
      exact hup
    rw [hlast] at hsame
    rcases ht with hnone | hsome | hzero
    · rw [hnone] at hsame
      cases hsame
    · have heq := Option.some.inj (hsome.symm.trans hsame)
      rw [teach_eq] at hrung
      dsimp only [rung] at heq hrung
      omega
    · exact absurd hzero hw

theorem previous_check (hcfg : SchemaValid cfg) (hp : InRange cfg p) (ht : p.Tracked)
    (hun : findsUnviable cfg sig p = true) {losses : List Call}
    (hloss : ∀ c ∈ losses, ∃ sig, c = .lossEvent sig)
    {next : Policy} (hnext : next = losses.foldl (call cfg) (p.tick cfg sig).1)
    (hwin : 2 ≤ next.windowsSinceDemote) {snr : Option ℚ} {margin : ℚ}
    (hagain : next.learnedPrior.snrRungUnviable cfg.learnedPrior next.rung snr margin = true) :
    checked cfg sig p = next.rung := by
  obtain ⟨hrung, hprior, hwindows⟩ := losses_quiet losses hloss (tick_inRange hp sig)
    (by rw [← hnext]; omega)
  rw [← hnext] at hrung hprior hwindows
  rw [tick_windows] at hwindows
  -- the cooldown has gone on, so that the tick has not lowered the rung
  have hkept : ¬ (p.tick cfg sig).1.rung < p.rung := by
    intro hlow
    rw [if_pos hlow] at hwindows
    omega
  rw [if_neg hkept] at hwindows
  rcases (checked_cases cfg sig p).2 with ⟨hlead, -⟩ | ⟨hpos, hlead, hconf⟩
  · have hchecked : checked cfg sig p = p.rung := congrArg LeadingSelector.currentMcs hlead
    by_contra hne
    -- the rung has risen to one that was cold, and still is
    have hrise : p.rung < (p.tick cfg sig).1.rung := by omega
    have hcold := rises_into_cold hcfg hp hun (hchecked ▸ hrise)
    have hup := (tick_rises hp hrise).2.1
    have hsame := rise_keeps_prior hcfg hp ht (by omega) hrise
    rw [hprior, hsame, hrung, hup] at hagain
    cases snr with
    | none => cases hagain
    | some snr =>
      have hconf := ((KneeModel.rungUnviable_iff _ _ _ _).mp hagain).1
      rw [hchecked, hconf] at hcold
      cases hcold
  · -- a predictive demote was undone by a promote to the rung that it had found confident
    obtain ⟨hmcs, hlow, -⟩ := stepDown_spec cfg sig hpos
    have hchecked : checked cfg sig p = (stepDown cfg sig p).currentMcs :=
      congrArg LeadingSelector.currentMcs hlead
    unfold LeadingSelector.clampMcs at hmcs
    have hmax : p.rung ≤ cfg.selector.maxMcs := hp.2
    have hone : checked cfg sig p + 1 = p.rung := by omega
    have hcold := rises_into_cold hcfg hp hun (by omega)
    rw [hone, hconf] at hcold
    cases hcold

theorem builtIn_of_build {py : PyNumbers} {dl : Dict} (hvalid : validateDynamicLink dl = .ok ())
    (hbuild : buildPolicyConfig py dl = .ok cfg) :
    cfg.selector.demoteCooldownWindows = 3 ∧ cfg.selector.snrDemoteDebounce = 2 := by
  obtain ⟨-, hsel, -⟩ := valid_parts hvalid
  simp only [buildPolicyConfig, buildSelector, Json.bind_eq_ok, Json.pure_eq_ok] at hbuild
  obtain ⟨sel, ⟨-, -, -, -, -, -, -, -, -, -, -, -, -, -, -, -, w, hw, -, -, -, -, -, -, -, -, -, -, -,
    -, -, -, -, -, -, -, -, -, -, -, -, -, rfl⟩, lp, -, rfl⟩ := hbuild
  refine ⟨?_, rfl⟩
  have hknown : unknownKeys "dynamicLink.selector" selectorKeys (dl.sub "selector") = none :=
    sub_check hsel (fun j => by simp [validateSelector, validateBlockKeys]) rfl
  have hnone : AssocMap.find? "demoteCooldownWindows" (dl.sub "selector") = none := by
    rw [← Option.not_isSome_iff_eq_none]
    intro hsome
    have hkey := unknownKeys_eq_none.mp hknown _ ((AssocMap.find?_isSome_iff _ _).mp hsome)
    exact absurd hkey (by decide)
  unfold Dict.int Dict.read at hw
  rw [hnone] at hw
  exact (Except.ok.inj hw).symm

theorem counted_since (cfg : PolicyConfig) (prior : KneeModel) (calls : List Call)
    (h : 1 ≤ (calls.foldl (call cfg) (boot cfg prior)).snrDemoteCount) :
    Run.Since (call cfg) (fun p c => ∃ sig, c = .tick sig ∧ findsUnviable cfg sig p = true)
      (fun _ c => ∃ sig, c = .lossEvent sig) (boot cfg prior) calls := by
  refine Run.Since.of_remembers (P := fun p => 1 ≤ p.snrDemoteCount) (by simp [boot]) ?_ calls h
  intro p c hcount
  cases c with
  | tick sig =>
    refine .inl ⟨sig, rfl, ?_⟩
    have hstep : (p.call cfg (.tick sig)).snrDemoteCount = _ := tick_snrDemoteCount cfg sig p
    by_contra hviable
    rw [hstep, if_neg hviable] at hcount
    omega
  | lossEvent sig =>
    have hstep : (p.call cfg (.lossEvent sig)).snrDemoteCount = _ := (lossEvent_books cfg sig p).1
    rw [hstep] at hcount
    exact .inr ⟨hcount, sig, rfl⟩
  | resetForNewSession =>
    have hzero : (p.call cfg .resetForNewSession).snrDemoteCount = 0 := rfl
    omega

/-- **Proactive demotes are debounced on the rung they leave.**  Under a configuration built from a
schema-valid block, over any prior and after any ticks, fast-path events and resets: a tick that demotes
proactively from `r` has itself examined `r` and found it unviable, and so has the tick before it, with
nothing but fast-path events in between. -/
theorem snr_demote_debounced (py : PyNumbers) (dl : Dict) (cfg : PolicyConfig)
    (hvalid : validateDynamicLink dl = .ok ()) (hbuild : buildPolicyConfig py dl = .ok cfg)
    (prior : KneeModel) (calls : List Call) (sig : Signals) (r tgt : ℤ)
    (hfires : .snrDemote r tgt ∈
      ((calls.foldl (call cfg) (boot cfg prior)).tick cfg sig).2.reasons) :
    (checked cfg sig (calls.foldl (call cfg) (boot cfg prior)) = r ∧
      findsUnviable cfg sig (calls.foldl (call cfg) (boot cfg prior)) = true) ∧
    ∃ before sig' losses, calls = before ++ .tick sig' :: losses ∧
      (∀ c ∈ losses, ∃ sig, c = .lossEvent sig) ∧
      checked cfg sig' (before.foldl (call cfg) (boot cfg prior)) = r ∧
      findsUnviable cfg sig' (before.foldl (call cfg) (boot cfg prior)) = true := by
  have hcfg := schemaValid_of_build hvalid hbuild
  obtain ⟨hcooldown, hdebounce⟩ := builtIn_of_build hvalid hbuild
  obtain ⟨hchecked, hrung, hun, hwin, hcount⟩ := fires_spec hfires
  rw [hcooldown] at hwin
  rw [hdebounce] at hcount
  refine ⟨⟨hchecked, hun⟩, ?_⟩
  obtain ⟨before, c, losses, hcalls, ⟨sig', rfl, hun'⟩, hmeets⟩ :=
    counted_since cfg prior calls (by omega)
  have hloss : ∀ c ∈ losses, ∃ sig, c = .lossEvent sig := Run.Meets.forall_mem losses _ hmeets
  have hinv : InRange cfg (before.foldl (call cfg) (boot cfg prior)) ∧
      (before.foldl (call cfg) (boot cfg prior)).Tracked := by
    refine List.foldlRecOn (motive := fun p => InRange cfg p ∧ p.Tracked) before (call cfg)
      ⟨boot_inRange hcfg.maxMcs.1 prior, .inl rfl⟩ ?_
    exact fun p hp c _ => ⟨call_inRange hcfg.maxMcs.1 c hp.1, call_tracked hp.2 hp.1 c⟩
  have hnext : calls.foldl (call cfg) (boot cfg prior) =
      losses.foldl (call cfg) ((before.foldl (call cfg) (boot cfg prior)).tick cfg sig').1 := by
    rw [hcalls, List.foldl_append, List.foldl_cons]
    rfl
  have hagain := hun
  unfold findsUnviable at hagain
  rw [hchecked, ← hrung] at hagain
  refine ⟨before, sig', losses, hcalls, hloss, ?_, hun'⟩
  rw [previous_check hcfg hinv.1 hinv.2 hun' hloss hnext (by omega) hagain, hrung]

/-- Two windows at 20 dB over a knee of 30 dB at rung 1: the second one demotes, and both had found
rung 1 unviable. -/
theorem snr_demote_debounced_twice :
    let p := [Call.tick { snr := some 20 }].foldl (call {}) (boot {} kneeAtOne)
    let sig : Signals := { snr := some 20 }
    .snrDemote 1 0 ∈ (p.tick {} sig).2.reasons ∧
      (checked {} sig p = 1 ∧ findsUnviable {} sig p = true) ∧
      ∃ before sig' losses, [Call.tick { snr := some 20 }] = before ++ .tick sig' :: losses ∧
        (∀ c ∈ losses, ∃ sig, c = .lossEvent sig) ∧
        checked {} sig' (before.foldl (call {}) (boot {} kneeAtOne)) = 1 ∧
        findsUnviable {} sig' (before.foldl (call {}) (boot {} kneeAtOne)) = true := by
  intro p sig
  have hfires : .snrDemote 1 0 ∈ (p.tick {} sig).2.reasons := by decide +kernel
  exact ⟨hfires, snr_demote_debounced ⟨fun _ => none, fun _ => none⟩ [] {} rfl rfl kneeAtOne
    [.tick { snr := some 20 }] sig 1 0 hfires⟩

end Run

/-! ## Promotes against the check -/

section Promote

/-- A call, or `bind_learned_prior` under another key: the prior is loaded anew. -/
inductive Event where
  | call (c : Call)
  | bindLearnedPrior (prior : KneeModel)

def event (cfg : PolicyConfig) (p : Policy) : Event → Policy
  | .call c => p.call cfg c
  | .bindLearnedPrior prior => { p with learnedPrior := prior }

theorem events_inRange (hmax : 0 ≤ cfg.selector.maxMcs) (prior : KneeModel) (events : List Event) :
    InRange cfg (events.foldl (event cfg) (boot cfg prior)) := by
  refine List.foldlRecOn events (event cfg) (boot_inRange hmax prior) fun p hp e _ => ?_
  cases e with
  | call c => exact call_inRange hmax c hp
  | bindLearnedPrior prior => exact hp

/-- **A promote into a confident rung does not contradict the check.**  Under a configuration built from
a schema-valid block, after any calls and over any priors: a tick whose check finds the rung unviable
does not raise it, if the rung above has a confident knee. -/
theorem promote_respects_check (py : PyNumbers) (dl : Dict) (cfg : PolicyConfig)
    (hvalid : validateDynamicLink dl = .ok ()) (hbuild : buildPolicyConfig py dl = .ok cfg)
    (prior : KneeModel) (events : List Event) (sig : Signals) (p : Policy)
    (hp : p = events.foldl (event cfg) (boot cfg prior)) (hun : findsUnviable cfg sig p = true)
    (hsure : p.learnedPrior.rungConfident cfg.learnedPrior (checked cfg sig p + 1) = true) :
    (p.tick cfg sig).1.rung ≤ checked cfg sig p := by
  have hcfg := schemaValid_of_build hvalid hbuild
  have hrange : InRange cfg p := hp ▸ events_inRange hcfg.maxMcs.1 prior events
  by_contra hrise
  rw [rises_into_cold hcfg hrange hun (not_le.mp hrise)] at hsure
  cases hsure

def kneesAtTwo : KneeModel where
  knee := [none, some 30, some 30, none, none, none, none, none]
  count := [0, 10, 10, 0, 0, 0, 0, 0]

def windowAt (snr : ℚ) (n : ℕ) : Signals := { timestamp := n / 10, snr := some snr, snrW := some snr }

def atTheKnee : List Event :=
  (List.range 29).map fun n => .call (.tick (windowAt (if 20 ≤ n ∧ n < 25 then 29 else 30) n))

/-- Where rung 2 has its knee, the window in which rung 1 turns unviable holds. -/
theorem promote_respects_check_knee :
    let p := atTheKnee.foldl (event {}) (boot {} kneesAtTwo)
    let sig := windowAt 28 29
    findsUnviable {} sig p = true ∧ checked {} sig p = 1 ∧
      (p.tick {} sig).1.rung ≤ checked {} sig p := by
  intro p sig
  have hun : findsUnviable {} sig p = true := by decide +kernel
  exact ⟨hun, by decide +kernel, promote_respects_check ⟨fun _ => none, fun _ => none⟩ [] {} rfl rfl
    kneesAtTwo atTheKnee sig p rfl hun (by decide +kernel)⟩

/-- **An unviable rung is left upwards.**  Under the default block, over a knee at rung 1 only, the window
in which rung 1 turns unviable is the one that completes the dwell: the debounce holds the demote back,
and the cold rung 2 is explored. -/
theorem explores_from_unviable :
    let p := atTheKnee.foldl (event {}) (boot {} kneeAtOne)
    let sig := windowAt 28 29
    validateDynamicLink [] = .ok () ∧
      buildPolicyConfig ⟨fun _ => none, fun _ => none⟩ [] = .ok {} ∧
      checked {} sig p = 1 ∧ findsUnviable {} sig p = true ∧ (p.tick {} sig).1.rung = 2 ∧
      (p.tick {} sig).2.reasons = [.explorePromote] := by
  refine ⟨rfl, rfl, ?_⟩
  decide +kernel

end Promote

end Policy

end Fpvd.Gs
