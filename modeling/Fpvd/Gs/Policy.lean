import Fpvd.Lib.Run
import Fpvd.Gs.Knee
import Fpvd.Gs.Selector

/-!
# Fpvd.Gs.Policy — the policy engine (`Policy` of `gs/fpvdgs/dynlink/policy.py`)

Runs at 10 Hz, one `tick` per window; `loss_event` is the fast path between ticks.  A tick goes
through the predictive demote, the proactive SNR demote and the selector, in this order, and then
learns from what happened.
-/

namespace Fpvd.Gs

def probeDirtyPer : ℚ := 10 / 100

def probeCleanPer : ℚ := 2 / 100

def probeCleanReleaseTicks : ℕ := 20

structure PolicyConfig where
  selector : SelectorConfig := {}
  learnedPrior : LearnedPriorConfig := {}
  deriving DecidableEq, Repr

structure ProbeReading where
  per : Option ℚ := none
  fresh : Bool := false
  deriving DecidableEq, Repr

structure Signals where
  timestamp : ℚ := 0
  snr : Option ℚ := none
  snrW : Option ℚ := none
  residualLossW : ℚ := 0
  fecWork : ℚ := 0
  linkStarvedW : Bool := false
  probe : OrdMap ℤ ProbeReading := ∅
  deriving DecidableEq

namespace Signals

def tsMs (sig : Signals) : ℚ := if sig.timestamp ≠ 0 then sig.timestamp * 1000 else 0

end Signals

structure McsDecision where
  mcs : ℤ
  reasons : List Reason
  deriving DecidableEq, Repr

structure Policy where
  leading : LeadingSelector
  learnedPrior : KneeModel := {}
  starvationCount : ℤ := 0
  ticksAtMcs : ℤ := 0
  lastIngestMcs : Option ℤ := none
  snrWindow : List ℚ := []
  predictDemoteCount : ℤ := 0
  snrDemoteCount : ℤ := 0
  windowsSinceDemote : ℤ
  probeCleanTicks : ℕ := 0
  probeCleanRung : Option ℤ := none
  deriving DecidableEq

namespace Policy

def rung (p : Policy) : ℤ := p.leading.currentMcs

section Model

variable (cfg : PolicyConfig)

def boot (prior : KneeModel) : Policy where
  leading := .boot cfg.selector
  learnedPrior := prior
  windowsSinceDemote := cfg.selector.demoteCooldownWindows

def new (prior : KneeModel) : Except String Policy :=
  (LeadingSelector.new cfg.selector).map fun leading => { boot cfg prior with leading := leading }

/-- `reset_for_new_session`: everything but the prior.  The selector was built once from the same
configuration, so it does not raise here. -/
def resetForNewSession (p : Policy) : Policy :=
  { p with
    leading := .boot cfg.selector
    starvationCount := 0
    ticksAtMcs := 0
    lastIngestMcs := none
    predictDemoteCount := 0
    snrDemoteCount := 0
    windowsSinceDemote := cfg.selector.demoteCooldownWindows
    probeCleanTicks := 0
    probeCleanRung := none
    snrWindow := [] }

def advance (sig : Signals) (p : Policy) : Policy :=
  { p with
    windowsSinceDemote := p.windowsSinceDemote + 1
    starvationCount := if sig.linkStarvedW then p.starvationCount + 1 else 0
    snrWindow := match sig.snr with
      | some snr => pushRecent cfg.learnedPrior.predictiveSlopeWindowTicks snr p.snrWindow
      | none => p.snrWindow }

def cooldownOk (p : Policy) : Bool := p.windowsSinceDemote ≥ cfg.selector.demoteCooldownWindows

def slope (sig : Signals) (p : Policy) : Option ℚ := sig.snr.map fun _ => lsqSlope p.snrWindow

def predictDemote (sig : Signals) (p : Policy) : Policy × List Reason :=
  match sig.snr with
  | none => (p, [])
  | some snr =>
    let cur := p.rung
    let slope := lsqSlope p.snrWindow
    let projectedDrop := -slope * cfg.learnedPrior.predictiveHorizonTicks
    if p.learnedPrior.snrPredictiveRungUnviable cfg.learnedPrior snr slope cur
        cfg.learnedPrior.predictiveDemoteMarginDb ∧
        projectedDrop ≥ cfg.learnedPrior.predictiveMinDropDb then
      let p := { p with predictDemoteCount := p.predictDemoteCount + 1 }
      if p.predictDemoteCount ≥ cfg.learnedPrior.predictiveDebounceWindows ∧ p.cooldownOk cfg then
        let tgt := max (cur - 1) 0
        if tgt < cur then
          ({ p with leading := p.leading.externalDemote cfg.selector tgt sig.tsMs },
            [.predictDemote cur tgt])
        else (p, [])
      else (p, [])
    else ({ p with predictDemoteCount := 0 }, [])

def snrDemote (sig : Signals) (startMcs : ℤ) (p : Policy) : Policy × List Reason :=
  let cur := p.rung
  if p.learnedPrior.snrRungUnviable cfg.learnedPrior cur sig.snr cfg.selector.snrDemoteMarginDb then
    let p := { p with snrDemoteCount := p.snrDemoteCount + 1 }
    if p.snrDemoteCount ≥ cfg.selector.snrDemoteDebounce ∧ p.cooldownOk cfg ∧
        p.rung = startMcs then
      let tgt := max (cur - 1) 0
      if tgt < cur then
        ({ p with leading := p.leading.externalDemote cfg.selector tgt sig.tsMs },
          [.snrDemote cur tgt])
      else (p, [])
    else (p, [])
  else ({ p with snrDemoteCount := 0 }, [])

def probeAt (sig : Signals) (p : Policy) : ProbeReading :=
  (sig.probe.find? (p.rung + 1)).getD {}

def probeVeto (sig : Signals) (p : Policy) : Bool :=
  let pr := p.probeAt sig
  pr.fresh ∧ pr.per.any (· ≥ probeDirtyPer)

def countProbe (sig : Signals) (p : Policy) : Policy :=
  let pr := p.probeAt sig
  let ticks := if p.probeCleanRung = some (p.rung + 1) then p.probeCleanTicks else 0
  { p with
    probeCleanRung := some (p.rung + 1)
    probeCleanTicks := if pr.fresh ∧ pr.per.any (· ≤ probeCleanPer) then ticks + 1 else 0 }

def tickInput (sig : Signals) (startMcs : ℤ) (p : Policy) : SelectInput where
  snrEwma := sig.snr
  snrW := sig.snrW
  slope := p.slope sig
  lossRate := sig.residualLossW
  lossDemote := sig.residualLossW ≥ cfg.selector.videoDemotePer
  targetConfident := p.learnedPrior.rungConfident cfg.learnedPrior (p.rung + 1)
  targetBlocked := p.learnedPrior.snrRungUnviable cfg.learnedPrior (p.rung + 1) sig.snr
    (-cfg.selector.snrPromoteMarginDb)
  fecPressure := sig.fecWork
  linkStarved := p.starvationCount ≥ cfg.selector.starvationWindows
  canDemote := p.cooldownOk cfg ∧ p.rung = startMcs
  tsMs := sig.tsMs
  probeVeto := p.probeVeto sig
  probeRelease := p.probeCleanTicks ≥ probeCleanReleaseTicks

def teach (p : Policy) : Policy :=
  match p.leading.lastFail with
  | none => p
  | some f => { p with learnedPrior := p.learnedPrior.observe cfg.learnedPrior f.rung f.snr false }

def ingest (sig : Signals) (p : Policy) : Policy :=
  let ticks := if p.lastIngestMcs = some p.rung then p.ticksAtMcs + 1 else 0
  let p := { p with ticksAtMcs := ticks, lastIngestMcs := some p.rung }
  match sig.snr with
  | none => p
  | some snr =>
    if ticks ≥ cfg.learnedPrior.settleTicks ∧ sig.residualLossW < cfg.learnedPrior.viableLoss then
      { p with learnedPrior := p.learnedPrior.observe cfg.learnedPrior p.rung snr true }
    else p

def demoteAhead (sig : Signals) (p : Policy) : Policy × List Reason :=
  let startMcs := p.rung
  let (p, predictReason) := predictDemote cfg sig p
  let (p, snrReason) := snrDemote cfg sig startMcs p
  (p, predictReason ++ snrReason)

def runSelect (sig : Signals) (startMcs : ℤ) (p : Policy) : Policy :=
  let p := countProbe sig p
  let p := { p with leading := p.leading.select cfg.selector (p.tickInput cfg sig startMcs) }
  if p.rung < startMcs then { p with windowsSinceDemote := 0 } else p

def tick (sig : Signals) (p : Policy) : Policy × McsDecision :=
  let startMcs := p.rung
  let (p, ahead) := demoteAhead cfg sig (advance cfg sig p)
  let p := runSelect cfg sig startMcs p
  (ingest cfg sig (teach cfg p), ⟨p.rung, ahead ++ p.leading.reasons⟩)

def lossInput (sig : Signals) : SelectInput where
  snrEwma := sig.snr
  snrW := sig.snrW
  slope := none
  lossRate := sig.residualLossW
  lossDemote := true
  fecPressure := sig.fecWork
  linkStarved := false
  tsMs := sig.tsMs

def lossEvent (sig : Signals) (p : Policy) : Policy × Option McsDecision :=
  if sig.residualLossW < cfg.selector.videoDemotePer then (p, none)
  else if p.windowsSinceDemote < cfg.selector.demoteCooldownWindows then (p, none)
  else
    let startMcs := p.rung
    let p := { p with leading := p.leading.select cfg.selector (lossInput sig) }
    if p.rung = startMcs ∨ p.rung ≥ startMcs then (p, none)
    else
      let p := teach cfg { p with windowsSinceDemote := 0 }
      (p, some ⟨p.rung, p.leading.reasons⟩)

inductive Call where
  | tick (sig : Signals)
  | lossEvent (sig : Signals)
  | resetForNewSession
  deriving DecidableEq

def call (p : Policy) : Call → Policy
  | .tick sig => (p.tick cfg sig).1
  | .lossEvent sig => (p.lossEvent cfg sig).1
  | .resetForNewSession => p.resetForNewSession cfg

def answer (p : Policy) : Call → Option McsDecision
  | .tick sig => some (p.tick cfg sig).2
  | .lossEvent sig => (p.lossEvent cfg sig).2
  | .resetForNewSession => none

def transcript (p : Policy) : List Call → List (Option McsDecision × KneeModel)
  | [] => []
  | c :: calls => (p.answer cfg c, (p.call cfg c).learnedPrior) :: transcript (p.call cfg c) calls

end Model

/-! ## What one tick can do -/

section Tick

variable {cfg : PolicyConfig} {sig : Signals} {p : Policy}

/-- What the demotes ahead of the selector leave alone. -/
structure SameBooks (p p' : Policy) : Prop where
  learnedPrior : p'.learnedPrior = p.learnedPrior
  windowsSinceDemote : p'.windowsSinceDemote = p.windowsSinceDemote
  starvationCount : p'.starvationCount = p.starvationCount
  snrWindow : p'.snrWindow = p.snrWindow
  ticksAtMcs : p'.ticksAtMcs = p.ticksAtMcs
  lastIngestMcs : p'.lastIngestMcs = p.lastIngestMcs

def stepDown (cfg : PolicyConfig) (sig : Signals) (p : Policy) : LeadingSelector :=
  p.leading.externalDemote cfg.selector (max (p.rung - 1) 0) sig.tsMs

inductive Evidence (cfg : PolicyConfig) (sig : Signals) (p : Policy) : Reason → Prop
  | predict (snr : ℚ) (cur tgt : ℤ) (hsnr : sig.snr = some snr)
      (drop : -lsqSlope p.snrWindow * cfg.learnedPrior.predictiveHorizonTicks ≥
        cfg.learnedPrior.predictiveMinDropDb) : Evidence cfg sig p (.predictDemote cur tgt)
  | snr (cur tgt : ℤ) (unviable : p.learnedPrior.snrRungUnviable cfg.learnedPrior p.rung sig.snr
      cfg.selector.snrDemoteMarginDb = true) : Evidence cfg sig p (.snrDemote cur tgt)

inductive Ahead (cfg : PolicyConfig) (sig : Signals) (p : Policy) : Policy × List Reason → Prop
  | kept {p' : Policy} (books : SameBooks p p') (leading : p'.leading = p.leading) :
      Ahead cfg sig p (p', [])
  | demoted {p' : Policy} (w : Reason) (books : SameBooks p p') (evidence : Evidence cfg sig p w)
      (cooldown : p.cooldownOk cfg = true) (pos : 0 < p.rung)
      (leading : p'.leading = stepDown cfg sig p) : Ahead cfg sig p (p', [w])

variable (cfg sig)

theorem predictDemote_ahead (p : Policy) :
    Ahead cfg sig p (predictDemote cfg sig p) := by
  unfold predictDemote
  cases hsnr : sig.snr with
  | none => exact .kept ⟨rfl, rfl, rfl, rfl, rfl, rfl⟩ rfl
  | some snr =>
    dsimp only
    split_ifs with h1 h2 h3
    · exact .demoted _ ⟨rfl, rfl, rfl, rfl, rfl, rfl⟩ (.predict snr _ _ hsnr h1.2) h2.2
        (by omega) rfl
    all_goals exact .kept ⟨rfl, rfl, rfl, rfl, rfl, rfl⟩ rfl

theorem snrDemote_ahead (startMcs : ℤ) (p : Policy) :
    Ahead cfg sig p (snrDemote cfg sig startMcs p) := by
  unfold snrDemote
  dsimp only
  split_ifs with h1 h2 h3
  · exact .demoted _ ⟨rfl, rfl, rfl, rfl, rfl, rfl⟩ (.snr _ _ h1) h2.2.1 (by omega) rfl
  all_goals exact .kept ⟨rfl, rfl, rfl, rfl, rfl, rfl⟩ rfl

theorem snrDemote_moved {startMcs : ℤ} (h : p.rung ≠ startMcs) :
    SameBooks p (snrDemote cfg sig startMcs p).1 ∧
      (snrDemote cfg sig startMcs p).1.leading = p.leading ∧
      (snrDemote cfg sig startMcs p).2 = [] := by
  unfold snrDemote
  dsimp only
  split_ifs with h1 h2 h3
  · exact absurd h2.2.2 h
  all_goals exact ⟨⟨rfl, rfl, rfl, rfl, rfl, rfl⟩, rfl, rfl⟩

variable {cfg sig}

theorem SameBooks.trans {p' p'' : Policy} (h : SameBooks p p') (h' : SameBooks p' p'') :
    SameBooks p p'' where
  learnedPrior := h'.learnedPrior.trans h.learnedPrior
  windowsSinceDemote := h'.windowsSinceDemote.trans h.windowsSinceDemote
  starvationCount := h'.starvationCount.trans h.starvationCount
  snrWindow := h'.snrWindow.trans h.snrWindow
  ticksAtMcs := h'.ticksAtMcs.trans h.ticksAtMcs
  lastIngestMcs := h'.lastIngestMcs.trans h.lastIngestMcs

theorem Ahead.of_same {p' : Policy} {x : Policy × List Reason} (h : Ahead cfg sig p' x)
    (hb : SameBooks p p') (hl : p'.leading = p.leading) : Ahead cfg sig p x := by
  have hr : p'.rung = p.rung := congrArg LeadingSelector.currentMcs hl
  cases h with
  | kept books leading => exact .kept (hb.trans books) (leading.trans hl)
  | demoted w books evidence cooldown pos leading =>
    refine .demoted w (hb.trans books) ?_ ?_ (hr ▸ pos) ?_
    · cases evidence with
      | predict snr cur tgt hsnr drop => exact .predict snr cur tgt hsnr (hb.snrWindow ▸ drop)
      | snr cur tgt unviable =>
        rw [hb.learnedPrior, hr] at unviable
        exact .snr cur tgt unviable
    · rwa [cooldownOk, hb.windowsSinceDemote] at cooldown
    · rw [leading, stepDown, stepDown, hl, hr]

theorem stepDown_spec (cfg : PolicyConfig) (sig : Signals) (hpos : 0 < p.rung) :
    (stepDown cfg sig p).currentMcs = LeadingSelector.clampMcs cfg.selector (p.rung - 1) ∧
      (stepDown cfg sig p).currentMcs < p.rung ∧
      (stepDown cfg sig p).lastChangeTimeMs = sig.tsMs := by
  have hmax : max (p.rung - 1) 0 = p.rung - 1 := by omega
  have hlt : LeadingSelector.clampMcs cfg.selector (p.rung - 1) < p.rung := by
    unfold LeadingSelector.clampMcs
    omega
  have hne : LeadingSelector.clampMcs cfg.selector (p.rung - 1) ≠ p.leading.currentMcs := hlt.ne
  unfold stepDown LeadingSelector.externalDemote
  rw [hmax, if_neg hne]
  exact ⟨rfl, hlt, rfl⟩

theorem demoteAhead_ahead (cfg : PolicyConfig) (sig : Signals) (p : Policy) :
    Ahead cfg sig p (demoteAhead cfg sig p) := by
  have hpredict := predictDemote_ahead cfg sig p
  unfold demoteAhead
  generalize predictDemote cfg sig p = x at hpredict
  cases hpredict with
  | kept books leading =>
    dsimp only
    rw [List.nil_append]
    exact (snrDemote_ahead cfg sig p.rung _).of_same books leading
  | @demoted p' w books evidence cooldown pos leading =>
    have hmoved : p'.rung ≠ p.rung := by
      rw [rung, leading]
      exact (stepDown_spec cfg sig pos).2.1.ne
    obtain ⟨hbooks, hleading, hnil⟩ := snrDemote_moved cfg sig hmoved
    dsimp only
    rw [hnil, List.append_nil]
    exact .demoted w (books.trans hbooks) evidence cooldown pos (hleading.trans leading)

variable (p)

theorem teach_eq :
    teach cfg p = { p with learnedPrior := (teach cfg p).learnedPrior } := by
  unfold teach
  split <;> rfl

@[simp] theorem teach_leading : (teach cfg p).leading = p.leading := by rw [teach_eq]

@[simp] theorem teach_rung : (teach cfg p).rung = p.rung :=
  congrArg LeadingSelector.currentMcs (teach_leading p)

@[simp] theorem teach_windows :
    (teach cfg p).windowsSinceDemote = p.windowsSinceDemote := by rw [teach_eq]

@[simp] theorem teach_snrWindow : (teach cfg p).snrWindow = p.snrWindow := by
  rw [teach_eq]

theorem ingest_eq : ingest cfg sig p =
    { p with
      ticksAtMcs := (ingest cfg sig p).ticksAtMcs
      lastIngestMcs := (ingest cfg sig p).lastIngestMcs
      learnedPrior := (ingest cfg sig p).learnedPrior } := by
  unfold ingest
  dsimp only
  cases sig.snr with
  | none => rfl
  | some snr =>
    dsimp only
    split_ifs <;> rfl

@[simp] theorem ingest_leading : (ingest cfg sig p).leading = p.leading := by
  rw [ingest_eq]

@[simp] theorem ingest_windows :
    (ingest cfg sig p).windowsSinceDemote = p.windowsSinceDemote := by rw [ingest_eq]

@[simp] theorem ingest_snrWindow : (ingest cfg sig p).snrWindow = p.snrWindow := by
  rw [ingest_eq]

variable {p}

theorem ingest_prior (sig : Signals) (hsettle : 0 < cfg.learnedPrior.settleTicks) (p : Policy) :
    (ingest cfg sig p).learnedPrior = p.learnedPrior ∨
      ∃ snr, sig.snr = some snr ∧ p.lastIngestMcs = some p.rung ∧
        cfg.learnedPrior.settleTicks ≤ p.ticksAtMcs + 1 ∧
        sig.residualLossW < cfg.learnedPrior.viableLoss ∧
        (ingest cfg sig p).learnedPrior =
          p.learnedPrior.observe cfg.learnedPrior p.rung snr true := by
  unfold ingest
  dsimp only
  cases sig.snr with
  | none => exact .inl rfl
  | some snr =>
    dsimp only
    split_ifs with h1 h2 h2
    · exact .inr ⟨snr, rfl, h1, h2.1, h2.2, rfl⟩
    · exact .inl rfl
    · exact absurd h2.1 (not_le.mpr hsettle)
    · exact .inl rfl

def beforeSelect (cfg : PolicyConfig) (sig : Signals) (p : Policy) : Policy :=
  countProbe sig (demoteAhead cfg sig (advance cfg sig p)).1

def ahead (cfg : PolicyConfig) (sig : Signals) (p : Policy) : List Reason :=
  (demoteAhead cfg sig (advance cfg sig p)).2

def selected (cfg : PolicyConfig) (sig : Signals) (p : Policy) : Policy :=
  runSelect cfg sig p.rung (demoteAhead cfg sig (advance cfg sig p)).1

variable (cfg sig p)

theorem tick_fst :
    (p.tick cfg sig).1 = ingest cfg sig (teach cfg (selected cfg sig p)) := rfl

theorem tick_leading :
    (p.tick cfg sig).1.leading =
      (beforeSelect cfg sig p).leading.select cfg.selector
        ((beforeSelect cfg sig p).tickInput cfg sig p.rung) := by
  unfold tick
  simp only [ingest_leading, teach_leading]
  unfold runSelect
  dsimp only
  split_ifs <;> rfl

theorem tick_decision :
    (p.tick cfg sig).2 =
      ⟨(p.tick cfg sig).1.rung, ahead cfg sig p ++ (p.tick cfg sig).1.leading.reasons⟩ := by
  simp only [rung, tick, ingest_leading, teach_leading, ahead]

theorem beforeSelect_cases :
    SameBooks (advance cfg sig p) (beforeSelect cfg sig p) ∧
      (ahead cfg sig p = [] ∧ (beforeSelect cfg sig p).leading = p.leading ∨
        ∃ w, ahead cfg sig p = [w] ∧ Evidence cfg sig (advance cfg sig p) w ∧
          (advance cfg sig p).cooldownOk cfg = true ∧ 0 < p.rung ∧
          (beforeSelect cfg sig p).leading = stepDown cfg sig p) := by
  have h := demoteAhead_ahead cfg sig (advance cfg sig p)
  unfold beforeSelect ahead
  generalize demoteAhead cfg sig (advance cfg sig p) = x at h
  cases h with
  | kept books leading =>
    exact ⟨books.trans ⟨rfl, rfl, rfl, rfl, rfl, rfl⟩, .inl ⟨rfl, leading⟩⟩
  | demoted w books evidence cooldown pos leading =>
    exact ⟨books.trans ⟨rfl, rfl, rfl, rfl, rfl, rfl⟩, .inr ⟨w, rfl, evidence, cooldown, pos, leading⟩⟩

theorem selected_books :
    (selected cfg sig p).learnedPrior = p.learnedPrior ∧
      (selected cfg sig p).snrWindow = (advance cfg sig p).snrWindow ∧
      (selected cfg sig p).ticksAtMcs = p.ticksAtMcs ∧
      (selected cfg sig p).lastIngestMcs = p.lastIngestMcs := by
  have h := (beforeSelect_cases cfg sig p).1
  have hframe : ∀ q : Policy, q.learnedPrior = (beforeSelect cfg sig p).learnedPrior →
      q.snrWindow = (beforeSelect cfg sig p).snrWindow →
      q.ticksAtMcs = (beforeSelect cfg sig p).ticksAtMcs →
      q.lastIngestMcs = (beforeSelect cfg sig p).lastIngestMcs →
      q.learnedPrior = p.learnedPrior ∧ q.snrWindow = (advance cfg sig p).snrWindow ∧
        q.ticksAtMcs = p.ticksAtMcs ∧ q.lastIngestMcs = p.lastIngestMcs :=
    fun q h1 h2 h3 h4 => ⟨h1.trans h.learnedPrior, h2.trans h.snrWindow, h3.trans h.ticksAtMcs,
      h4.trans h.lastIngestMcs⟩
  unfold selected runSelect
  dsimp only
  split_ifs <;> exact hframe _ rfl rfl rfl rfl

theorem selected_leading :
    (selected cfg sig p).leading = (p.tick cfg sig).1.leading := by
  rw [tick_fst, ingest_leading, teach_leading]

theorem tick_windows :
    (p.tick cfg sig).1.windowsSinceDemote =
      if (p.tick cfg sig).1.rung < p.rung then 0 else p.windowsSinceDemote + 1 := by
  have hbooks := (beforeSelect_cases cfg sig p).1.windowsSinceDemote
  have hl := tick_leading cfg sig p
  rw [rung, hl]
  unfold tick
  simp only [ingest_windows, teach_windows]
  unfold runSelect
  dsimp only
  by_cases h : ((beforeSelect cfg sig p).leading.select cfg.selector
      ((beforeSelect cfg sig p).tickInput cfg sig p.rung)).currentMcs < p.rung
  · rw [if_pos h]
    exact congrArg windowsSinceDemote (if_pos h)
  · rw [if_neg h]
    exact (congrArg windowsSinceDemote (if_neg h)).trans hbooks

end Tick

/-! ## Step discipline -/

section Discipline

variable {cfg : PolicyConfig} {sig : Signals} {p : Policy}

def InRange (cfg : PolicyConfig) (p : Policy) : Prop := 0 ≤ p.rung ∧ p.rung ≤ cfg.selector.maxMcs

instance (cfg : PolicyConfig) (p : Policy) : Decidable (InRange cfg p) :=
  inferInstanceAs (Decidable (_ ∧ _))

/-- A demote ahead of the selector fires in the tick, as its decision tells. -/
def FiresAhead (d : McsDecision) : Prop :=
  ∃ cur tgt, .predictDemote cur tgt ∈ d.reasons ∨ .snrDemote cur tgt ∈ d.reasons

theorem boot_inRange (hmax : 0 ≤ cfg.selector.maxMcs) (prior : KneeModel) :
    InRange cfg (boot cfg prior) := by
  unfold InRange rung boot LeadingSelector.boot
  dsimp only
  split_ifs <;> omega

/-- A selector call moves by at most one rung, within the cap; it goes down only if it may, and up
only outside the rate limit. -/
theorem select_step {s : LeadingSelector} {c : SelectorConfig} (i : SelectInput)
    (h0 : 0 ≤ s.currentMcs) (hm : s.currentMcs ≤ c.maxMcs) :
    (0 ≤ (s.select c i).currentMcs ∧ (s.select c i).currentMcs ≤ c.maxMcs) ∧
      ((s.select c i).currentMcs = s.currentMcs ∨
        (s.select c i).currentMcs = s.currentMcs - 1 ∧ i.canDemote = true ∨
        (s.select c i).currentMcs = s.currentMcs + 1 ∧
          c.minBetweenChangesMs ≤ i.tsMs - s.lastChangeTimeMs ∧
          LeadingSelector.inEmergency c i = false) := by
  cases LeadingSelector.select_outcome c i s with
  | held mcs fail why => exact ⟨by omega, .inl mcs⟩
  | demoted w why reactive hem hcan mcs fail =>
    unfold LeadingSelector.clampMcs at mcs
    by_cases hz : s.currentMcs = 0
    · exact ⟨by omega, .inl (by omega)⟩
    · exact ⟨by omega, .inr (.inl ⟨by omega, hcan⟩)⟩
  | promoted snr w why route hem hsnr mcs hcap rate fail =>
    unfold LeadingSelector.clampMcs at mcs
    exact ⟨by omega, .inr (.inr ⟨by omega, rate, hem⟩)⟩

theorem select_reasons {s : LeadingSelector} {c : SelectorConfig} {i : SelectInput} {cur tgt : ℤ} :
    .predictDemote cur tgt ∉ (s.select c i).reasons ∧
      .snrDemote cur tgt ∉ (s.select c i).reasons := by
  cases LeadingSelector.select_outcome c i s with
  | held mcs fail why => simp [why]
  | demoted w why reactive hem hcan mcs fail =>
    rw [why]
    cases w <;> simp_all [Reason.Reactive]
  | promoted snr w why route hem hsnr mcs hcap rate fail =>
    rw [why]
    cases route <;> simp

/-- The selector is called within the cap: at the rung the tick started at, or one below it, with the
change stamped and no further demote allowed. -/
theorem beforeSelect_step (hp : InRange cfg p) (sig : Signals) :
    InRange cfg (beforeSelect cfg sig p) ∧
      (ahead cfg sig p = [] ∧ (beforeSelect cfg sig p).leading = p.leading ∨
        ahead cfg sig p ≠ [] ∧ (beforeSelect cfg sig p).rung = p.rung - 1 ∧
          (beforeSelect cfg sig p).leading.lastChangeTimeMs = sig.tsMs ∧
          ((beforeSelect cfg sig p).tickInput cfg sig p.rung).canDemote = false) := by
  obtain ⟨h0, hm⟩ := hp
  obtain ⟨-, ⟨hnil, hl⟩ | ⟨w, hw, -, -, hpos, hl⟩⟩ := beforeSelect_cases cfg sig p
  · have hr : (beforeSelect cfg sig p).rung = p.rung := congrArg LeadingSelector.currentMcs hl
    exact ⟨⟨by omega, by omega⟩, .inl ⟨hnil, hl⟩⟩
  · obtain ⟨hmcs, hlt, hstamp⟩ := stepDown_spec cfg sig hpos
    unfold LeadingSelector.clampMcs at hmcs
    have hr : (beforeSelect cfg sig p).rung = p.rung - 1 := by
      rw [rung, hl]
      omega
    refine ⟨⟨by omega, by omega⟩, .inr ⟨by simp [hw], hr, by rw [hl, hstamp], ?_⟩⟩
    unfold tickInput
    simp only [decide_eq_false_iff_not, not_and]
    omega

theorem tick_inRange (hp : InRange cfg p) (sig : Signals) : InRange cfg (p.tick cfg sig).1 := by
  obtain ⟨⟨h0, hm⟩, -⟩ := beforeSelect_step hp sig
  unfold InRange
  rw [rung, tick_leading]
  exact (select_step _ h0 hm).1

/-- **One tick**: by at most one rung, and by exactly one rung down when a demote fires ahead of the
selector. -/
theorem tick_step (hgap : 0 < cfg.selector.minBetweenChangesMs) (hp : InRange cfg p) (sig : Signals) :
    |(p.tick cfg sig).1.rung - p.rung| ≤ 1 ∧
      (ahead cfg sig p ≠ [] → (p.tick cfg sig).1.rung = p.rung - 1) := by
  obtain ⟨⟨h0, hm⟩, hcases⟩ := beforeSelect_step hp sig
  have hmove := (select_step ((beforeSelect cfg sig p).tickInput cfg sig p.rung) h0 hm).2
  rw [← tick_leading] at hmove
  have hr : (p.tick cfg sig).1.rung = (p.tick cfg sig).1.leading.currentMcs := rfl
  have hb : (beforeSelect cfg sig p).rung = (beforeSelect cfg sig p).leading.currentMcs := rfl
  rw [abs_le]
  rcases hcases with ⟨hnil, hl⟩ | ⟨-, hdown, hstamp, hcan⟩
  · refine ⟨?_, fun h => absurd hnil h⟩
    have hp' : p.rung = (beforeSelect cfg sig p).leading.currentMcs := by rw [hl, rung]
    rcases hmove with h | ⟨h, -⟩ | ⟨h, -⟩ <;> omega
  · -- the demote has moved the rung and stamped it: the selector may neither demote nor promote
    have hstay : (p.tick cfg sig).1.rung = p.rung - 1 := by
      rcases hmove with h | ⟨-, h⟩ | ⟨-, h, -⟩
      · omega
      · rw [hcan] at h
        cases h
      · have hzero : ((beforeSelect cfg sig p).tickInput cfg sig p.rung).tsMs - sig.tsMs = 0 :=
          sub_self _
        rw [hstamp, hzero] at h
        have : cfg.selector.minBetweenChangesMs ≤ 0 := by exact_mod_cast h
        omega
    exact ⟨by omega, fun _ => hstay⟩

/-- **A tick that ends higher** has promoted by one rung over one of the routes, with nothing ahead
of the selector. -/
theorem tick_rises (hp : InRange cfg p) {sig : Signals} (hrise : p.rung < (p.tick cfg sig).1.rung) :
    (beforeSelect cfg sig p).leading = p.leading ∧ (p.tick cfg sig).1.rung = p.rung + 1 ∧
      (p.tick cfg sig).1.leading.lastFail = none ∧
      LeadingSelector.inEmergency cfg.selector
        ((beforeSelect cfg sig p).tickInput cfg sig p.rung) = false ∧
      ∃ snr w, sig.snr = some snr ∧ (p.tick cfg sig).2.reasons = [w] ∧
        LeadingSelector.Route cfg.selector ((beforeSelect cfg sig p).tickInput cfg sig p.rung)
          (p.leading.cleanDwell + 1) w := by
  obtain ⟨⟨h0, hm⟩, hcases⟩ := beforeSelect_step hp sig
  have hout := LeadingSelector.select_outcome cfg.selector
    ((beforeSelect cfg sig p).tickInput cfg sig p.rung) (beforeSelect cfg sig p).leading
  rw [← tick_leading] at hout
  have hr : (p.tick cfg sig).1.rung = (p.tick cfg sig).1.leading.currentMcs := rfl
  have hb : (beforeSelect cfg sig p).rung = (beforeSelect cfg sig p).leading.currentMcs := rfl
  rcases hcases with ⟨hnil, hl⟩ | ⟨-, hdown, -⟩
  · have hp' : p.rung = (beforeSelect cfg sig p).leading.currentMcs := by rw [hl, rung]
    cases hout with
    | held mcs fail why => omega
    | demoted w why reactive hem hcan mcs fail =>
      unfold LeadingSelector.clampMcs at mcs
      omega
    | promoted snr w why route hem hsnr mcs hcap rate fail =>
      unfold LeadingSelector.clampMcs at mcs
      refine ⟨hl, by omega, fail, hem, snr, w, hsnr, ?_, hl ▸ route⟩
      rw [tick_decision, hnil, List.nil_append, why]
  · -- after a demote ahead of it the selector climbs back to the start at most
    cases hout with
    | held mcs fail why => omega
    | demoted w why reactive hem hcan mcs fail =>
      unfold LeadingSelector.clampMcs at mcs
      omega
    | promoted snr w why route hem hsnr mcs hcap rate fail =>
      unfold LeadingSelector.clampMcs at mcs
      omega

theorem lossEvent_cases (cfg : PolicyConfig) (sig : Signals) (p : Policy) :
    p.lossEvent cfg sig = (p, none) ∨
      cfg.selector.demoteCooldownWindows ≤ p.windowsSinceDemote ∧
        ∃ p', p' = { p with leading := p.leading.select cfg.selector (lossInput sig) } ∧
          (p.rung ≤ p'.rung ∧ p.lossEvent cfg sig = (p', none) ∨
            p'.rung < p.rung ∧
              p.lossEvent cfg sig =
                (teach cfg { p' with windowsSinceDemote := 0 }, some ⟨p'.rung, p'.leading.reasons⟩)) := by
  unfold lossEvent
  by_cases h1 : sig.residualLossW < cfg.selector.videoDemotePer
  · exact .inl (if_pos h1)
  by_cases h2 : p.windowsSinceDemote < cfg.selector.demoteCooldownWindows
  · exact .inl (by rw [if_neg h1, if_pos h2])
  rw [if_neg h1, if_neg h2]
  dsimp only
  refine .inr ⟨not_lt.mp h2, _, rfl, ?_⟩
  split_ifs with h3
  · exact .inl ⟨h3.elim (fun h => h.ge) id, rfl⟩
  · refine .inr ⟨not_le.mp fun h => h3 (.inr h), ?_⟩
    simp only [rung, teach_leading]

theorem lossEvent_step (hp : InRange cfg p) (sig : Signals) :
    InRange cfg (p.lossEvent cfg sig).1 ∧
      ((p.lossEvent cfg sig).1.rung = p.rung ∨ (p.lossEvent cfg sig).1.rung = p.rung - 1) := by
  have hstep := select_step (s := p.leading) (c := cfg.selector) (lossInput sig) hp.1 hp.2
  have hloss : ∀ p', p'.leading = p.leading.select cfg.selector (lossInput sig) →
      InRange cfg p' ∧ (p'.rung = p.rung ∨ p'.rung = p.rung - 1) := by
    intro p' hp'
    unfold InRange rung
    rw [hp']
    refine ⟨hstep.1, ?_⟩
    rcases hstep.2 with h | ⟨h, -⟩ | ⟨-, -, h⟩
    · exact .inl h
    · exact .inr h
    · -- a loss event is an emergency by its argument
      cases h
  rcases lossEvent_cases cfg sig p with h | ⟨-, p', rfl, ⟨-, h⟩ | ⟨-, h⟩⟩
  · rw [h]
    exact ⟨hp, .inl rfl⟩
  · rw [h]
    exact hloss _ rfl
  · rw [h]
    exact hloss _ (teach_leading _)

theorem call_inRange (hmax : 0 ≤ cfg.selector.maxMcs) (c : Call) (hp : InRange cfg p) : InRange cfg (p.call cfg c) := by
  cases c with
  | tick sig => exact tick_inRange hp sig
  | lossEvent sig => exact (lossEvent_step hp sig).1
  | resetForNewSession => exact boot_inRange hmax p.learnedPrior

theorem ahead_ne_nil (h : FiresAhead (p.tick cfg sig).2) : ahead cfg sig p ≠ [] := by
  intro hnil
  obtain ⟨cur, tgt, h⟩ := h
  rw [tick_decision, hnil, List.nil_append, tick_leading] at h
  rcases h with h | h
  · exact select_reasons.1 h
  · exact select_reasons.2 h

theorem new_ok (hmax : 0 ≤ cfg.selector.maxMcs) (prior : KneeModel) :
    new cfg prior = .ok (boot cfg prior) := by
  rw [new, LeadingSelector.new, if_neg (not_lt.mpr hmax)]
  rfl

/-- **Step discipline.**  A policy over any prior is built, and after any calls: the rung lies within
the cap; a tick decides the rung it leaves in force and moves by at most one; a fast-path event goes
down by at most one and never up; and a tick in which a demote fires ahead of the selector ends
exactly one rung down. -/
theorem selector_discipline (cfg : PolicyConfig) (hmax : 0 ≤ cfg.selector.maxMcs)
    (hgap : 0 < cfg.selector.minBetweenChangesMs) (prior : KneeModel) (calls : List Call) :
    ∃ p₀, new cfg prior = .ok p₀ ∧
      let p := calls.foldl (call cfg) p₀
      (0 ≤ p.rung ∧ p.rung ≤ cfg.selector.maxMcs) ∧
      ∀ sig,
        ((p.tick cfg sig).2.mcs = (p.tick cfg sig).1.rung ∧
          |(p.tick cfg sig).1.rung - p.rung| ≤ 1) ∧
        ((p.lossEvent cfg sig).1.rung = p.rung ∨ (p.lossEvent cfg sig).1.rung = p.rung - 1) ∧
        (FiresAhead (p.tick cfg sig).2 → (p.tick cfg sig).1.rung = p.rung - 1) := by
  refine ⟨boot cfg prior, new_ok hmax prior, ?_⟩
  have hp : InRange cfg (calls.foldl (call cfg) (boot cfg prior)) := by
    refine List.foldlRecOn calls (call cfg) (boot_inRange hmax prior) ?_
    intro p hp c _
    exact call_inRange hmax c hp
  refine ⟨hp, fun sig => ⟨⟨?_, (tick_step hgap hp sig).1⟩, (lossEvent_step hp sig).2, ?_⟩⟩
  · rw [tick_decision]
  · exact fun h => (tick_step hgap hp sig).2 (ahead_ne_nil h)

def kneeAtOne : KneeModel where
  knee := [none, some 30, none, none, none, none, none, none]
  count := [0, 10, 0, 0, 0, 0, 0, 0]

/-- The second window at 20 dB on such a prior demotes ahead of the selector. -/
theorem selector_discipline_snrDemote :
    ∃ p₀, new {} kneeAtOne = .ok p₀ ∧
      let p := [Call.tick { snr := some 20 }].foldl (call {}) p₀
      FiresAhead (p.tick {} { snr := some 20 }).2 ∧ (p.tick {} { snr := some 20 }).1.rung = p.rung - 1 := by
  obtain ⟨p₀, hnew, -, h⟩ := selector_discipline {} (by decide) (by decide) kneeAtOne
    [.tick { snr := some 20 }]
  obtain rfl : boot {} kneeAtOne = p₀ := Except.ok.inj hnew
  have hfires : FiresAhead (([Call.tick { snr := some 20 }].foldl (call {})
      (boot {} kneeAtOne)).tick {} { snr := some 20 }).2 := ⟨1, 0, .inr (by decide +kernel)⟩
  exact ⟨_, hnew, hfires, (h _).2.2 hfires⟩

end Discipline

/-! ## Cooldown -/

section Cooldown

variable {cfg : PolicyConfig} {p : Policy}

def Call.isTick : Call → Bool
  | .tick _ => true
  | _ => false

def Lowers (cfg : PolicyConfig) (p : Policy) (c : Call) : Prop := (p.call cfg c).rung < p.rung

instance (cfg : PolicyConfig) (p : Policy) (c : Call) : Decidable (Lowers cfg p c) :=
  inferInstanceAs (Decidable (_ < _))

theorem tick_lowers {sig : Signals} (h : (p.tick cfg sig).1.rung < p.rung) :
    cfg.selector.demoteCooldownWindows ≤ p.windowsSinceDemote + 1 := by
  obtain ⟨hbooks, ⟨-, hl⟩ | ⟨w, -, -, hcool, -, -⟩⟩ := beforeSelect_cases cfg sig p
  · rw [rung, tick_leading, hl] at h
    cases LeadingSelector.select_outcome cfg.selector
      ((beforeSelect cfg sig p).tickInput cfg sig p.rung) p.leading with
    | held mcs fail why => exact absurd mcs h.ne
    | demoted w why reactive hem hcan mcs fail =>
      have hcool : (beforeSelect cfg sig p).cooldownOk cfg = true := (of_decide_eq_true hcan).1
      rw [cooldownOk, hbooks.windowsSinceDemote] at hcool
      exact of_decide_eq_true hcool
    | promoted snr w why route hem hsnr mcs hcap rate fail =>
      unfold LeadingSelector.clampMcs at mcs
      have hr : p.rung = p.leading.currentMcs := rfl
      omega
  · exact of_decide_eq_true hcool

theorem lossEvent_lowers {sig : Signals} (h : (p.lossEvent cfg sig).1.rung < p.rung) :
    cfg.selector.demoteCooldownWindows ≤ p.windowsSinceDemote := by
  rcases lossEvent_cases cfg sig p with hp | ⟨hcool, -⟩
  · rw [hp] at h
    exact absurd h (lt_irrefl _)
  · exact hcool

theorem lossEvent_windows (cfg : PolicyConfig) (sig : Signals) (p : Policy) :
    (p.lossEvent cfg sig).1.windowsSinceDemote =
      if (p.lossEvent cfg sig).1.rung < p.rung then 0 else p.windowsSinceDemote := by
  rcases lossEvent_cases cfg sig p with h | ⟨-, p', hp', ⟨hge, h⟩ | ⟨hlt, h⟩⟩
  · rw [h, if_neg (lt_irrefl _)]
  · rw [h, if_neg (not_lt.mpr hge), hp']
  · rw [h]
    dsimp only
    rw [teach_windows, teach_rung]
    exact (if_pos hlt).symm

theorem call_windows {c : Call} (hc : c ≠ .resetForNewSession) :
    (p.call cfg c).windowsSinceDemote =
      if Lowers cfg p c then 0 else p.windowsSinceDemote + if c.isTick then 1 else 0 := by
  cases c with
  | tick sig => exact tick_windows cfg sig p
  | lossEvent sig =>
    have h := lossEvent_windows cfg sig p
    rwa [← add_zero p.windowsSinceDemote] at h
  | resetForNewSession => exact absurd rfl hc

theorem call_lowers {c : Call} (hc : c ≠ .resetForNewSession) (h : Lowers cfg p c) :
    cfg.selector.demoteCooldownWindows ≤ p.windowsSinceDemote + if c.isTick then 1 else 0 := by
  cases c with
  | tick sig => exact tick_lowers h
  | lossEvent sig => exact (lossEvent_lowers h).trans (le_add_of_nonneg_right le_rfl)
  | resetForNewSession => exact absurd rfl hc

theorem run_windows (cfg : PolicyConfig) {calls : List Call} (hcalls : ∀ c ∈ calls, c ≠ .resetForNewSession) :
    ∀ (p : Policy) (w : ℕ), p.windowsSinceDemote ≤ w →
      (calls.foldl (call cfg) p).windowsSinceDemote ≤ w + calls.countP Call.isTick := by
  induction calls with
  | nil =>
    intro p w h
    exact h.trans (le_add_of_nonneg_right (Int.natCast_nonneg _))
  | cons c cs ih =>
    intro p w h
    have hstep : (p.call cfg c).windowsSinceDemote ≤ ((w + if c.isTick then 1 else 0 : ℕ) : ℤ) := by
      rw [call_windows (hcalls c List.mem_cons_self)]
      split_ifs <;> push_cast <;> omega
    have hrest := ih (fun c' hc' => hcalls c' (List.mem_cons_of_mem c hc')) _ _ hstep
    rw [List.foldl_cons, List.countP_cons]
    push_cast at hrest ⊢
    split_ifs at hrest ⊢ <;> omega

/-- **One demote per cooldown, over all paths.**  From any state, if a call lowers the rung, and
later, with no session reset in between, another one does, then at least `demote_cooldown_windows`
ticks were made after the first up to and including the second. -/
theorem demote_cooldown (cfg : PolicyConfig) (p : Policy) (first : Call) (between : List Call)
    (second : Call) (hreset : ∀ c ∈ first :: second :: between, c ≠ .resetForNewSession)
    (hfirst : Lowers cfg p first)
    (hsecond : Lowers cfg (between.foldl (call cfg) (p.call cfg first)) second) :
    cfg.selector.demoteCooldownWindows ≤ (between ++ [second]).countP Call.isTick := by
  have hzero : (p.call cfg first).windowsSinceDemote ≤ (0 : ℕ) := by
    rw [call_windows (hreset first (by simp)), if_pos hfirst]
    rfl
  have hrun := run_windows cfg
    (fun c hc => hreset c (List.mem_cons_of_mem _ (List.mem_cons_of_mem _ hc))) _ 0 hzero
  have hlow := call_lowers (hreset second (by simp)) hsecond
  rw [List.countP_append, List.countP_singleton]
  push_cast at hrun ⊢
  split_ifs at hlow ⊢ <;> omega

def lossy : Signals := { residualLossW := 1 }

def climbed : Policy :=
  { boot {} ⟨_, _, List.length_replicate (a := none), List.length_replicate (a := 0)⟩ with
    leading := { currentMcs := 5 } }

def lossyCalls : List Call := [.tick lossy, .lossEvent lossy, .tick lossy]

/-- A fast-path demote from rung 5, and the first tick that may demote again. -/
theorem demote_cooldown_climbed :
    Lowers {} climbed (.lossEvent lossy) ∧
      Lowers {} (lossyCalls.foldl (call {}) (climbed.call {} (.lossEvent lossy))) (.tick lossy) ∧
      (3 : ℤ) ≤ (lossyCalls ++ [Call.tick lossy]).countP Call.isTick := by
  have hfirst : Lowers {} climbed (.lossEvent lossy) := by decide +kernel
  have hsecond : Lowers {} (lossyCalls.foldl (call {}) (climbed.call {} (.lossEvent lossy)))
      (.tick lossy) := by decide +kernel
  exact ⟨hfirst, hsecond,
    demote_cooldown {} climbed (.lossEvent lossy) lossyCalls (.tick lossy) (by simp [lossyCalls])
      hfirst hsecond⟩

end Cooldown

/-! ## A new session -/

theorem resetForNewSession_eq (cfg : PolicyConfig) (p : Policy) :
    p.resetForNewSession cfg = boot cfg p.learnedPrior := rfl

theorem new_eq_boot {cfg : PolicyConfig} {prior : KneeModel} {p : Policy}
    (h : new cfg prior = .ok p) : p = boot cfg prior ∧ 0 ≤ cfg.selector.maxMcs := by
  unfold new LeadingSelector.new at h
  by_cases hmax : cfg.selector.maxMcs < 0
  · rw [if_pos hmax] at h
    cases h
  · rw [if_neg hmax] at h
    exact ⟨(Except.ok.inj h).symm, not_lt.mp hmax⟩

/-- **A session reset is a fresh start**: whatever state `p` a policy has come to, after the reset
it answers every sequence of calls, and learns from it, as a new policy over the same prior. -/
theorem session_reset_fresh (cfg : PolicyConfig) (prior₀ : KneeModel) (p₀ : Policy)
    (h₀ : new cfg prior₀ = .ok p₀) (p : Policy) :
    ∃ q, new cfg p.learnedPrior = .ok q ∧
      ∀ calls, (p.resetForNewSession cfg).transcript cfg calls = q.transcript cfg calls := by
  obtain ⟨-, hmax⟩ := new_eq_boot h₀
  refine ⟨boot cfg p.learnedPrior, new_ok hmax p.learnedPrior, fun calls => ?_⟩
  rw [resetForNewSession_eq]

/-- A climbed policy with a learned knee, reset in the middle of a cooldown. -/
theorem session_reset_fresh_climbed :
    ∃ q, new {} kneeAtOne = .ok q ∧
      ∀ calls, (Policy.resetForNewSession {} { climbed with
        learnedPrior := kneeAtOne, windowsSinceDemote := 0, starvationCount := 3 }).transcript {}
          calls = q.transcript {} calls :=
  session_reset_fresh {} {} (boot {} {}) rfl
    { climbed with learnedPrior := kneeAtOne, windowsSinceDemote := 0, starvationCount := 3 }

end Policy

end Fpvd.Gs
