import Mathlib.Tactic
import Fpvd.Lib.Json

/-!
# Fpvd.Gs.Selector — the MCS selector (`LeadingSelector` of `gs/fpvdgs/dynlink/policy.py`)

One call of `select` either demotes by one rung, or holds, or promotes by one rung over one of three
routes.  `select_outcome` says once what a call can do and under which guards; the properties of the
policy are derived from it.

The four damper dictionaries of the source are written and dropped together and are one map here, as
are the two of the snap-back memory.  What only the flight log reads (`last_release`,
`_promote_suppressed`, `_snapback_tgt`, `last_mcs_change_time_ms`) is left out.
-/

namespace Fpvd.Gs

def rawMinReleaseWindowTicks : ℕ := 20

structure SelectorConfig where
  videoDemotePer : ℚ := 5 / 100
  emergencyFecPressure : ℚ := 80 / 100
  maxMcs : ℤ := 7
  holdModesDownMs : ℤ := 2000
  minBetweenChangesMs : ℤ := 200
  starvationWindows : ℤ := 5
  demoteCooldownWindows : ℤ := 3
  snrDemoteDebounce : ℤ := 2
  snrPromoteMarginDb : ℚ := 1
  snrDemoteMarginDb : ℚ := 3 / 2
  flapBaseBackoffMs : ℤ := 2000
  flapBackoffMult : ℚ := 2
  flapBackoffCapMs : ℤ := 10000
  flapResetCleanDwellTicks : ℤ := 30
  promoteDwellTicks : ℤ := 30
  promoteSlopeMin : ℚ := -5 / 100
  trialWindowMs : ℤ := 10000
  collapseDeltaDb : ℚ := 4
  flapSnrReleaseDb : ℚ := 3
  flapDecayMs : ℤ := 60000
  snapbackRecoverMarginDb : ℚ := 3
  confirmTtlMs : ℤ := 60000
  deriving DecidableEq, Repr

inductive FailClass where
  | fade
  | flap
  | burst
  deriving DecidableEq, Repr

inductive Reason where
  | predictDemote (cur tgt : ℤ)
  | snrDemote (cur tgt : ℤ)
  | videoPerDemote (loss : ℚ) (klass : FailClass)
  | emergency (fec : ℚ) (starved : Bool)
  | snapbackPromote (tgt : ℤ)
  | kneePromote
  | explorePromote
  deriving DecidableEq, Repr

def Reason.Reactive : Reason → Prop
  | .videoPerDemote _ _ | .emergency _ _ => True
  | _ => False

structure Damper where
  flapLevel : ℤ
  lastFlapMs : ℚ
  suppressUntilMs : ℚ
  snrAtLastFlap : Option ℚ
  deriving DecidableEq, Repr

structure Confirmation where
  untilMs : ℚ
  snr : ℚ
  deriving DecidableEq, Repr

structure Failure where
  rung : ℤ
  klass : FailClass
  snr : ℚ
  deriving DecidableEq, Repr

structure LeadingSelector where
  currentMcs : ℤ
  lastChangeTimeMs : ℚ := -1000000000
  cleanDwell : ℤ := 0
  damper : OrdMap ℤ Damper := ∅
  snrWRecent : List ℚ := []
  trialRung : Option ℤ := none
  trialUntilMs : ℚ := 0
  confirmed : OrdMap ℤ Confirmation := ∅
  lastFail : Option Failure := none
  reasons : List Reason := []
  deriving DecidableEq

structure SelectInput where
  snrEwma : Option ℚ
  snrW : Option ℚ
  slope : Option ℚ
  lossRate : ℚ
  lossDemote : Bool := false
  targetConfident : Bool := false
  targetBlocked : Bool := false
  fecPressure : ℚ
  linkStarved : Bool
  canDemote : Bool := true
  tsMs : ℚ
  probeVeto : Bool := false
  probeRelease : Bool := false

def pushRecent (maxlen : ℕ) (x : ℚ) (q : List ℚ) : List ℚ :=
  (q ++ [x]).drop (q.length + 1 - maxlen)

theorem mem_pushRecent {maxlen : ℕ} {x y : ℚ} {q : List ℚ} (h : y ∈ pushRecent maxlen x q) :
    y ∈ q ∨ y = x := by
  have hmem := List.mem_of_mem_drop h
  simpa using hmem

namespace LeadingSelector

section Model

variable (cfg : SelectorConfig)

def boot : LeadingSelector where
  currentMcs := if 1 > cfg.maxMcs then cfg.maxMcs else 1

def new : Except String LeadingSelector :=
  if cfg.maxMcs < 0 then .error s!"max_mcs={cfg.maxMcs} excludes every MCS" else .ok (boot cfg)

def emergencyActive (fecPressure : ℚ) (linkStarved : Bool) : Bool :=
  fecPressure ≥ cfg.emergencyFecPressure ∨ linkStarved

def flapBackoffMs (level : ℤ) : ℤ :=
  min (Json.trunc (cfg.flapBaseBackoffMs * cfg.flapBackoffMult ^ (min (level - 1) 40).toNat))
    cfg.flapBackoffCapMs

def effectiveFlapLevel (rung : ℤ) (tsMs : ℚ) (s : LeadingSelector) : ℤ :=
  match s.damper.find? rung with
  | none => 0
  | some d =>
    if d.flapLevel ≠ 0 ∧ cfg.flapDecayMs > 0 then
      max 0 (d.flapLevel - Json.trunc ((tsMs - d.lastFlapMs) / cfg.flapDecayMs))
    else d.flapLevel

def chargeFlap (rung : ℤ) (snrEwma : Option ℚ) (tsMs : ℚ) (s : LeadingSelector) :
    LeadingSelector :=
  let lvl := effectiveFlapLevel cfg rung tsMs s + 1
  { s with
    damper := s.damper.insert rung
      { flapLevel := lvl
        lastFlapMs := tsMs
        suppressUntilMs := tsMs + flapBackoffMs cfg lvl
        snrAtLastFlap := snrEwma.or ((s.damper.find? rung).bind Damper.snrAtLastFlap) } }

def suppressed (rung : ℤ) (tsMs : ℚ) (probeRelease : Bool) (s : LeadingSelector) : Bool :=
  let untilMs := ((s.damper.find? rung).map Damper.suppressUntilMs).getD 0
  if tsMs ≥ untilMs then false
  else if probeRelease then false
  else match (s.damper.find? rung).bind Damper.snrAtLastFlap with
    | none => true
    | some laf =>
      -- a full window, its minimum at least the bar
      ¬ (s.snrWRecent.length = rawMinReleaseWindowTicks ∧
        ∀ x ∈ s.snrWRecent, x ≥ laf + cfg.flapSnrReleaseDb)

def onTrial (rung : ℤ) (tsMs : ℚ) (s : LeadingSelector) : Bool :=
  s.trialRung = some rung ∧ tsMs < s.trialUntilMs

def classify (rung : ℤ) (snrEwma snrW : Option ℚ) (tsMs : ℚ) (s : LeadingSelector) : FailClass :=
  let collapsed : Bool := match snrEwma, snrW with
    | some e, some w => w ≤ e - cfg.collapseDeltaDb
    | _, _ => false
  if collapsed then .fade
  else if s.onTrial rung tsMs then .flap
  else .burst

/-- `_snapback_target`: the highest rung confirmed lately whose SNR is nearly back. -/
def snapbackTarget (snrEwma tsMs : ℚ) (s : LeadingSelector) : Option ℤ :=
  s.confirmed.entries.foldl (fun best (r, c) =>
    if c.untilMs < tsMs ∨ r > cfg.maxMcs then best
    else if snrEwma ≥ c.snr - cfg.snapbackRecoverMarginDb then
      match best with
      | none => some r
      | some b => if r > b then some r else some b
    else best) none

def clampMcs (m : ℤ) : ℤ := max 0 (min m cfg.maxMcs)

def externalDemote (tgt : ℤ) (tsMs : ℚ) (s : LeadingSelector) : LeadingSelector :=
  let tgt := clampMcs cfg tgt
  if tgt = s.currentMcs then s
  else { s with currentMcs := tgt, lastChangeTimeMs := tsMs, cleanDwell := 0, trialRung := none }

def commit (tsMs : ℚ) (newMcs : ℤ) (why : Reason) (s : LeadingSelector) : LeadingSelector :=
  let newMcs := clampMcs cfg newMcs
  if newMcs ≠ s.currentMcs then
    { s with currentMcs := newMcs, lastChangeTimeMs := tsMs, cleanDwell := 0,
             reasons := s.reasons ++ [why] }
  else s

def failSample (prev : ℤ) (snrEwma snrW : Option ℚ) : FailClass → Option Failure
  | .fade => snrW.map fun w => ⟨prev, .fade, w⟩
  | .flap => snrEwma.map fun e => ⟨prev, .flap, e⟩
  | .burst => none

def lossDemote (i : SelectInput) (s : LeadingSelector) : LeadingSelector :=
  let prev := s.currentMcs
  let klass := classify cfg prev i.snrEwma i.snrW i.tsMs s
  let s' := commit cfg i.tsMs (prev - 1) (.videoPerDemote i.lossRate klass) s
  if s'.currentMcs ≠ prev then
    let s' := { s' with lastFail := failSample prev i.snrEwma i.snrW klass }
    if s.onTrial prev i.tsMs then chargeFlap cfg prev i.snrEwma i.tsMs s' else s'
  else s'

/-- The demote branch of `select`.  The tick counts as dirty also when the cooldown holds. -/
def demote (i : SelectInput) (s : LeadingSelector) : LeadingSelector :=
  let prev := s.currentMcs
  let s' :=
    if i.canDemote then
      if i.lossDemote then lossDemote cfg i s
      else commit cfg i.tsMs (prev - 1) (.emergency i.fecPressure i.linkStarved) s
    else s
  let s' := if s'.currentMcs ≠ prev then { s' with trialRung := none } else s'
  { s' with cleanDwell := 0 }

/-- The confirmation of the current rung.  While one is live its SNR only rises. -/
def confirm (snr tsMs : ℚ) (s : LeadingSelector) : LeadingSelector :=
  let untilMs := tsMs + cfg.confirmTtlMs
  let prev := s.confirmed.find? s.currentMcs
  let fresh : Bool := (prev.map Confirmation.untilMs).getD 0 ≥ tsMs
  let snr := match prev with
    | some c => if fresh then max c.snr snr else snr
    | none => snr
  { s with confirmed := s.confirmed.insert s.currentMcs ⟨untilMs, snr⟩ }

/-- The bookkeeping of a clean tick in `select`: dwell, damper, confirmation, probation. -/
def cleanTick (i : SelectInput) (s : LeadingSelector) : LeadingSelector :=
  let s := { s with cleanDwell := s.cleanDwell + 1 }
  let s := if s.cleanDwell ≥ cfg.flapResetCleanDwellTicks then
      { s with damper := s.damper.erase s.currentMcs } else s
  let s : LeadingSelector := match i.snrEwma with
    | some snr => if s.cleanDwell ≥ cfg.promoteDwellTicks then confirm cfg snr i.tsMs s else s
    | none => s
  if s.trialRung.isSome ∧ i.tsMs ≥ s.trialUntilMs then { s with trialRung := none } else s

def promoteRoute (i : SelectInput) (snrEwma : ℚ) (s : LeadingSelector) : Option Reason :=
  let target := s.currentMcs + 1
  let withinRate : Bool := i.tsMs - s.lastChangeTimeMs < cfg.minBetweenChangesMs
  let withinHold : Bool := i.tsMs - s.lastChangeTimeMs < cfg.holdModesDownMs
  let slope := i.slope.getD 0
  let sb := snapbackTarget cfg snrEwma i.tsMs s
  if withinRate ∨ suppressed cfg target i.tsMs i.probeRelease s ∨ i.probeVeto then none
  else if sb.any (· > s.currentMcs) ∧ slope ≥ 0 ∧ ¬ i.targetBlocked then
    sb.map .snapbackPromote
  else if ¬ withinHold ∧ s.cleanDwell ≥ cfg.promoteDwellTicks ∧ slope ≥ cfg.promoteSlopeMin then
    if i.targetConfident then
      if i.targetBlocked then none else some .kneePromote
    else some .explorePromote
  else none

def startTrial (tsMs : ℚ) (prev : ℤ) (s : LeadingSelector) : LeadingSelector :=
  if s.currentMcs > prev then
    { s with trialRung := some s.currentMcs, trialUntilMs := tsMs + cfg.trialWindowMs }
  else s

def promote (i : SelectInput) (s : LeadingSelector) : LeadingSelector :=
  match i.snrEwma with
  | none => s
  | some snr =>
    if s.currentMcs + 1 > cfg.maxMcs then s
    else match promoteRoute cfg i snr s with
      | none => s
      | some why =>
        startTrial cfg i.tsMs s.currentMcs (commit cfg i.tsMs (s.currentMcs + 1) why s)

def inEmergency (i : SelectInput) : Bool :=
  i.lossDemote || emergencyActive cfg i.fecPressure i.linkStarved

def enter (i : SelectInput) (s : LeadingSelector) : LeadingSelector :=
  { s with
    lastFail := none
    reasons := []
    snrWRecent := match i.snrW with
      | some w => pushRecent rawMinReleaseWindowTicks w s.snrWRecent
      | none => s.snrWRecent }

def select (i : SelectInput) (s : LeadingSelector) : LeadingSelector :=
  let s := enter i s
  if inEmergency cfg i then demote cfg i s else promote cfg i (cleanTick cfg i s)

end Model

/-! ## What one call can do -/

section Outcome

variable {cfg : SelectorConfig} {i : SelectInput} {s : LeadingSelector}

/-- A promote route with its guards; `dwell` counts the tick itself. -/
inductive Route (cfg : SelectorConfig) (i : SelectInput) (dwell : ℤ) : Reason → Prop
  | snapback (tgt : ℤ) (open_ : i.targetBlocked = false) : Route cfg i dwell (.snapbackPromote tgt)
  | knee (dwelt : cfg.promoteDwellTicks ≤ dwell) (sure : i.targetConfident = true)
      (open_ : i.targetBlocked = false) : Route cfg i dwell .kneePromote
  | explore (dwelt : cfg.promoteDwellTicks ≤ dwell) (cold : i.targetConfident = false) :
      Route cfg i dwell .explorePromote

inductive Outcome (cfg : SelectorConfig) (i : SelectInput) (s s' : LeadingSelector) : Prop
  | held (mcs : s'.currentMcs = s.currentMcs) (fail : s'.lastFail = none) (why : s'.reasons = [])
  | demoted (w : Reason) (why : s'.reasons = [w]) (reactive : w.Reactive)
      (hem : inEmergency cfg i = true) (hcan : i.canDemote = true)
      (mcs : s'.currentMcs = clampMcs cfg (s.currentMcs - 1))
      (fail : ∀ f, s'.lastFail = some f → f.rung = s.currentMcs)
  | promoted (snr : ℚ) (w : Reason) (why : s'.reasons = [w])
      (route : Route cfg i (s.cleanDwell + 1) w) (hem : inEmergency cfg i = false)
      (hsnr : i.snrEwma = some snr) (mcs : s'.currentMcs = clampMcs cfg (s.currentMcs + 1))
      (hcap : s.currentMcs + 1 ≤ cfg.maxMcs)
      (rate : cfg.minBetweenChangesMs ≤ i.tsMs - s.lastChangeTimeMs) (fail : s'.lastFail = none)

theorem commit_cases (cfg : SelectorConfig) (tsMs : ℚ) (m : ℤ) (why : Reason) (s : LeadingSelector) :
    commit cfg tsMs m why s = s ∨
      clampMcs cfg m ≠ s.currentMcs ∧
        commit cfg tsMs m why s = { s with
          currentMcs := clampMcs cfg m, lastChangeTimeMs := tsMs, cleanDwell := 0,
          reasons := s.reasons ++ [why] } := by
  unfold commit
  by_cases h : clampMcs cfg m ≠ s.currentMcs
  · exact .inr ⟨h, if_pos h⟩
  · exact .inl (if_neg h)

theorem cleanTick_frame (cfg : SelectorConfig) (i : SelectInput) (s : LeadingSelector) :
    (cleanTick cfg i s).currentMcs = s.currentMcs ∧
      (cleanTick cfg i s).lastChangeTimeMs = s.lastChangeTimeMs ∧
      (cleanTick cfg i s).cleanDwell = s.cleanDwell + 1 ∧
      (cleanTick cfg i s).lastFail = s.lastFail ∧ (cleanTick cfg i s).reasons = s.reasons := by
  unfold cleanTick confirm
  dsimp only
  cases i.snrEwma <;> dsimp only <;> split_ifs <;> exact ⟨rfl, rfl, rfl, rfl, rfl⟩

theorem promoteRoute_spec {snr : ℚ} {why : Reason} (h : promoteRoute cfg i snr s = some why) :
    Route cfg i s.cleanDwell why ∧ cfg.minBetweenChangesMs ≤ i.tsMs - s.lastChangeTimeMs := by
  unfold promoteRoute at h
  dsimp only at h
  split_ifs at h with h1 h2 h3 h4 h5
  · obtain ⟨tgt, -, rfl⟩ := Option.map_eq_some_iff.mp h
    simp only [not_or, decide_eq_true_eq, not_lt] at h1
    exact ⟨.snapback tgt (by simpa using h2.2.2), h1.1⟩
  · obtain rfl := Option.some.inj h
    simp only [not_or, decide_eq_true_eq, not_lt] at h1
    exact ⟨.knee h3.2.1 h4 (by simpa using h5), h1.1⟩
  · obtain rfl := Option.some.inj h
    simp only [not_or, decide_eq_true_eq, not_lt] at h1
    exact ⟨.explore h3.2.1 (by simpa using h4), h1.1⟩

theorem failSample_rung {prev : ℤ} {e w : Option ℚ} {k : FailClass} {f : Failure}
    (h : failSample prev e w k = some f) : f.rung = prev := by
  cases k with
  | fade =>
    obtain ⟨x, -, rfl⟩ := Option.map_eq_some_iff.mp h
    rfl
  | flap =>
    obtain ⟨x, -, rfl⟩ := Option.map_eq_some_iff.mp h
    rfl
  | burst => cases h

variable (cfg i s)

theorem lossDemote_cases :
    lossDemote cfg i s = s ∨
      (lossDemote cfg i s).currentMcs = clampMcs cfg (s.currentMcs - 1) ∧
      (∃ k, (lossDemote cfg i s).reasons = s.reasons ++ [.videoPerDemote i.lossRate k]) ∧
      ∀ f, (lossDemote cfg i s).lastFail = some f → f.rung = s.currentMcs := by
  unfold lossDemote
  dsimp only
  rcases commit_cases cfg i.tsMs (s.currentMcs - 1)
    (.videoPerDemote i.lossRate (classify cfg s.currentMcs i.snrEwma i.snrW i.tsMs s)) s
    with h | ⟨hne, h⟩
  · exact .inl (by rw [h, if_neg (not_not.mpr rfl)])
  rw [h, if_pos hne]
  refine .inr ?_
  by_cases ht : s.onTrial s.currentMcs i.tsMs = true
  · rw [if_pos ht]
    exact ⟨rfl, ⟨_, rfl⟩, fun f hf => failSample_rung hf⟩
  · rw [if_neg ht]
    exact ⟨rfl, ⟨_, rfl⟩, fun f hf => failSample_rung hf⟩

theorem demote_frame :
    ∃ s', (demote cfg i s).currentMcs = s'.currentMcs ∧ (demote cfg i s).reasons = s'.reasons ∧
      (demote cfg i s).lastFail = s'.lastFail ∧
      (s' = s ∨ i.canDemote = true ∧
        (s' = lossDemote cfg i s ∨
          s' = commit cfg i.tsMs (s.currentMcs - 1) (.emergency i.fecPressure i.linkStarved) s)) := by
  unfold demote
  dsimp only
  by_cases hc : i.canDemote = true
  · rw [if_pos hc]
    by_cases hl : i.lossDemote = true
    · rw [if_pos hl]
      refine ⟨lossDemote cfg i s, ?_, ?_, ?_, .inr ⟨hc, .inl rfl⟩⟩ <;> split_ifs <;> rfl
    · rw [if_neg hl]
      refine ⟨commit cfg i.tsMs (s.currentMcs - 1) (.emergency i.fecPressure i.linkStarved) s,
        ?_, ?_, ?_, .inr ⟨hc, .inr rfl⟩⟩ <;> split_ifs <;> rfl
  · rw [if_neg hc]
    refine ⟨s, ?_, ?_, ?_, .inl rfl⟩ <;> split_ifs <;> rfl

variable {cfg i s}

theorem demote_outcome (hem : inEmergency cfg i = true) (hf : s.lastFail = none)
    (hr : s.reasons = []) : Outcome cfg i s (demote cfg i s) := by
  obtain ⟨s', hm, hw, hl, h⟩ := demote_frame cfg i s
  rcases h with rfl | ⟨hcan, rfl | rfl⟩
  · exact .held hm (hl.trans hf) (hw.trans hr)
  · rcases lossDemote_cases cfg i s with h | ⟨hmcs, ⟨k, hk⟩, hfail⟩
    · rw [h] at hm hw hl
      exact .held hm (hl.trans hf) (hw.trans hr)
    · rw [hr, List.nil_append] at hk
      exact .demoted _ (hw.trans hk) trivial hem hcan (hm.trans hmcs) fun f h => hfail f (hl ▸ h)
  · rcases commit_cases cfg i.tsMs (s.currentMcs - 1)
      (.emergency i.fecPressure i.linkStarved) s with h | ⟨-, h⟩
    · rw [h] at hm hw hl
      exact .held hm (hl.trans hf) (hw.trans hr)
    · rw [h] at hm hw hl
      rw [hr] at hw
      refine .demoted _ hw trivial hem hcan hm fun f h => ?_
      rw [hl, hf] at h
      cases h

theorem startTrial_frame (cfg : SelectorConfig) (tsMs : ℚ) (prev : ℤ) (s : LeadingSelector) :
    (startTrial cfg tsMs prev s).currentMcs = s.currentMcs ∧
      (startTrial cfg tsMs prev s).lastFail = s.lastFail ∧
      (startTrial cfg tsMs prev s).reasons = s.reasons := by
  unfold startTrial
  split_ifs <;> exact ⟨rfl, rfl, rfl⟩

theorem promote_outcome (hem : inEmergency cfg i = false) (hf : s.lastFail = none)
    (hr : s.reasons = []) : Outcome cfg i s (promote cfg i (cleanTick cfg i s)) := by
  obtain ⟨hm, ht, hd, hf', hr'⟩ := cleanTick_frame cfg i s
  have stay : Outcome cfg i s (cleanTick cfg i s) := .held hm (hf'.trans hf) (hr'.trans hr)
  unfold promote
  cases hsnr : i.snrEwma with
  | none => exact stay
  | some snr =>
    dsimp only
    by_cases hcap : (cleanTick cfg i s).currentMcs + 1 > cfg.maxMcs
    · rw [if_pos hcap]
      exact stay
    rw [if_neg hcap]
    cases hroute : promoteRoute cfg i snr (cleanTick cfg i s) with
    | none => exact stay
    | some why =>
      obtain ⟨route, rate⟩ := promoteRoute_spec hroute
      rw [hd] at route
      rw [ht] at rate
      rw [hm] at hcap
      dsimp only
      rcases commit_cases cfg i.tsMs ((cleanTick cfg i s).currentMcs + 1) why
        (cleanTick cfg i s) with h | ⟨-, h⟩
      · rw [h]
        obtain ⟨hm', hf'', hr''⟩ :=
          startTrial_frame cfg i.tsMs (cleanTick cfg i s).currentMcs (cleanTick cfg i s)
        exact .held (hm'.trans hm) (hf''.trans (hf'.trans hf)) (hr''.trans (hr'.trans hr))
      · rw [h]
        refine .promoted snr why ?_ route hem hsnr ?_ (not_lt.mp hcap) rate ?_
        · rw [(startTrial_frame cfg i.tsMs _ _).2.2, hr', hr, List.nil_append]
        · rw [(startTrial_frame cfg i.tsMs _ _).1, hm]
        · rw [(startTrial_frame cfg i.tsMs _ _).2.1, hf', hf]

theorem Outcome.of_enter {s' : LeadingSelector} (h : Outcome cfg i (enter i s) s') :
    Outcome cfg i s s' := by
  cases h with
  | held mcs fail why => exact .held mcs fail why
  | demoted w why reactive hem hcan mcs fail => exact .demoted w why reactive hem hcan mcs fail
  | promoted snr w why route hem hsnr mcs hcap rate fail =>
    exact .promoted snr w why route hem hsnr mcs hcap rate fail

/-- **What a call of `select` can do**, with every guard the policy relies on. -/
theorem select_outcome (cfg : SelectorConfig) (i : SelectInput) (s : LeadingSelector) :
    Outcome cfg i s (select cfg i s) := by
  unfold select
  dsimp only
  cases hem : inEmergency cfg i with
  | true =>
    rw [if_pos rfl]
    exact (demote_outcome (s := enter i s) hem rfl rfl).of_enter
  | false =>
    rw [if_neg Bool.false_ne_true]
    exact (promote_outcome (s := enter i s) hem rfl rfl).of_enter

end Outcome

end LeadingSelector

end Fpvd.Gs
