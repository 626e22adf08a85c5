import Fpvd.Gs.Policy

/-!
# Fpvd.Gs.Damper — the flap damper and the history behind it

A loss demote from a rung on promote probation charges the damper of that rung: no promote into it
before a deadline, unless one of three things releases it early.  The state of this is spread over the
damper map, the window of raw SNR samples and the probe streak.  Here each of them is read off the
history of calls.
-/

namespace Fpvd.Gs

def Reason.isLossDemote : Reason → Bool
  | .videoPerDemote _ _ => true
  | _ => false

inductive Release where
  | timer
  | probe
  | rawMin
  deriving DecidableEq, Repr

namespace LeadingSelector

section Model

variable (cfg : SelectorConfig)

def release (rung : ℤ) (tsMs : ℚ) (probeRelease : Bool) (s : LeadingSelector) : Option Release :=
  let untilMs := ((s.damper.find? rung).map Damper.suppressUntilMs).getD 0
  if tsMs ≥ untilMs then if untilMs ≠ 0 then some .timer else none
  else if probeRelease then some .probe
  else match (s.damper.find? rung).bind Damper.snrAtLastFlap with
    | none => none
    | some laf =>
      if s.snrWRecent.length = rawMinReleaseWindowTicks ∧
        ∀ x ∈ s.snrWRecent, x ≥ laf + cfg.flapSnrReleaseDb then some .rawMin else none

def lastRelease (i : SelectInput) (s : LeadingSelector) : Option Release :=
  if inEmergency cfg i || i.snrEwma.isNone || s.currentMcs + 1 > cfg.maxMcs then none
  else release cfg (s.currentMcs + 1) i.tsMs i.probeRelease (cleanTick cfg i (enter i s))

/-- The call is a loss demote from a rung on promote probation. -/
def charges (i : SelectInput) (s : LeadingSelector) : Bool :=
  s.onTrial s.currentMcs i.tsMs && (s.select cfg i).reasons.any Reason.isLossDemote

/-- The call is a clean tick whose dwell clears the damper of the rung. -/
def clears (i : SelectInput) (s : LeadingSelector) : Bool :=
  !inEmergency cfg i && decide (cfg.flapResetCleanDwellTicks ≤ s.cleanDwell + 1)

def charged (i : SelectInput) (s : LeadingSelector) : Damper where
  flapLevel := effectiveFlapLevel cfg s.currentMcs i.tsMs s + 1
  lastFlapMs := i.tsMs
  suppressUntilMs := i.tsMs + flapBackoffMs cfg (effectiveFlapLevel cfg s.currentMcs i.tsMs s + 1)
  snrAtLastFlap := i.snrEwma.or ((s.damper.find? s.currentMcs).bind Damper.snrAtLastFlap)

end Model

/-! ## What one call does to the damper -/

section Call

variable {cfg : SelectorConfig} {i : SelectInput} {s : LeadingSelector} {r : ℤ}

variable (cfg i s r)

theorem cleanTick_damper :
    (cleanTick cfg i s).damper.find? r =
        (if r = s.currentMcs ∧ cfg.flapResetCleanDwellTicks ≤ s.cleanDwell + 1 then none
          else s.damper.find? r) ∧
      (cleanTick cfg i s).snrWRecent = s.snrWRecent := by
  unfold cleanTick confirm
  dsimp only
  by_cases hr : cfg.flapResetCleanDwellTicks ≤ s.cleanDwell + 1
  · rw [if_pos hr]
    simp only [hr, and_true, ← OrdMap.find?_erase]
    cases i.snrEwma <;> dsimp only <;> split_ifs <;> exact ⟨rfl, rfl⟩
  · rw [if_neg hr]
    simp only [hr, and_false, if_false]
    cases i.snrEwma <;> dsimp only <;> split_ifs <;> exact ⟨rfl, rfl⟩

theorem commit_damper (tsMs : ℚ) (m : ℤ) (why : Reason) (s : LeadingSelector) :
    (commit cfg tsMs m why s).damper = s.damper ∧
      (commit cfg tsMs m why s).snrWRecent = s.snrWRecent := by
  unfold commit
  dsimp only
  split_ifs <;> exact ⟨rfl, rfl⟩

theorem startTrial_damper (tsMs : ℚ) (prev : ℤ) (s : LeadingSelector) :
    (startTrial cfg tsMs prev s).damper = s.damper ∧
      (startTrial cfg tsMs prev s).snrWRecent = s.snrWRecent := by
  unfold startTrial
  split_ifs <;> exact ⟨rfl, rfl⟩

theorem promote_damper :
    (promote cfg i s).damper = s.damper ∧ (promote cfg i s).snrWRecent = s.snrWRecent := by
  unfold promote
  cases i.snrEwma with
  | none => exact ⟨rfl, rfl⟩
  | some snr =>
    dsimp only
    by_cases hcap : s.currentMcs + 1 > cfg.maxMcs
    · rw [if_pos hcap]
      exact ⟨rfl, rfl⟩
    rw [if_neg hcap]
    cases promoteRoute cfg i snr s with
    | none => exact ⟨rfl, rfl⟩
    | some why =>
      obtain ⟨h1, h2⟩ := startTrial_damper cfg i.tsMs s.currentMcs
        (commit cfg i.tsMs (s.currentMcs + 1) why s)
      obtain ⟨h3, h4⟩ := commit_damper cfg i.tsMs (s.currentMcs + 1) why s
      exact ⟨h1.trans h3, h2.trans h4⟩

variable {cfg i s r}

/-- What a branch of `select` does to the damper: nothing, or a loss demote, which charges the damper
of a rung on probation. -/
inductive DemoteEffect (cfg : SelectorConfig) (i : SelectInput) (s s' : LeadingSelector) : Prop
  | spared (why : s'.reasons.any Reason.isLossDemote = false) (damper : s'.damper = s.damper)
      (recent : s'.snrWRecent = s.snrWRecent)
  | loss (why : s'.reasons.any Reason.isLossDemote = true)
      (damper : s'.damper = if s.onTrial s.currentMcs i.tsMs then
        s.damper.insert s.currentMcs (charged cfg i s) else s.damper)
      (recent : s'.snrWRecent = s.snrWRecent)

theorem lossDemote_damper (hr : s.reasons = []) : DemoteEffect cfg i s (lossDemote cfg i s) := by
  unfold lossDemote
  dsimp only
  rcases commit_cases cfg i.tsMs (s.currentMcs - 1)
    (.videoPerDemote i.lossRate (classify cfg s.currentMcs i.snrEwma i.snrW i.tsMs s)) s
    with h | ⟨hne, h⟩
  · rw [h, if_neg (not_not.mpr rfl)]
    exact .spared (by rw [hr]; rfl) rfl rfl
  rw [h, if_pos hne]
  by_cases ht : s.onTrial s.currentMcs i.tsMs = true
  · rw [if_pos ht]
    exact .loss (by simp [chargeFlap, hr, Reason.isLossDemote]) (by rw [if_pos ht]; rfl) rfl
  · rw [if_neg ht]
    exact .loss (by simp [hr, Reason.isLossDemote]) (by rw [if_neg ht]) rfl

theorem emergency_damper (hr : s.reasons = []) :
    DemoteEffect cfg i s
      (commit cfg i.tsMs (s.currentMcs - 1) (.emergency i.fecPressure i.linkStarved) s) := by
  obtain ⟨hd, hw⟩ := commit_damper cfg i.tsMs (s.currentMcs - 1)
    (.emergency i.fecPressure i.linkStarved) s
  refine .spared ?_ hd hw
  rcases commit_cases cfg i.tsMs (s.currentMcs - 1) (.emergency i.fecPressure i.linkStarved) s with
    h | ⟨-, h⟩
  · rw [h, hr]
    rfl
  · rw [h, hr]
    rfl

variable (cfg i s)

theorem demote_damper (hr : s.reasons = []) : DemoteEffect cfg i s (demote cfg i s) := by
  -- ending the trial and the dwell touches neither the damper nor the window
  have hend : ∀ s' : LeadingSelector, DemoteEffect cfg i s s' → DemoteEffect cfg i s
      { (if s'.currentMcs ≠ s.currentMcs then { s' with trialRung := none } else s') with
        cleanDwell := 0 } := by
    intro s' h
    cases h with
    | spared why damper recent => split_ifs <;> exact .spared why damper recent
    | loss why damper recent => split_ifs <;> exact .loss why damper recent
  unfold demote
  dsimp only
  refine hend _ ?_
  split_ifs
  · exact lossDemote_damper hr
  · exact emergency_damper hr
  · exact .spared (by rw [hr]; rfl) rfl rfl

/-- **The damper after a call of `select`**: charged, cleared, or as before.  The window of raw samples
takes the sample of the call. -/
theorem select_damper (r : ℤ) :
    (select cfg i s).damper.find? r =
        (if r = s.currentMcs then
          if charges cfg i s then some (charged cfg i s)
          else if clears cfg i s then none else s.damper.find? r
        else s.damper.find? r) ∧
      (select cfg i s).snrWRecent = (enter i s).snrWRecent := by
  cases hem : inEmergency cfg i with
  | true =>
    have hsel : select cfg i s = demote cfg i (enter i s) := by
      unfold select
      dsimp only
      rw [if_pos hem]
    have hclear : clears cfg i s = false := by
      unfold clears
      rw [hem]
      rfl
    have hcharge : charges cfg i s = (s.onTrial s.currentMcs i.tsMs &&
        (demote cfg i (enter i s)).reasons.any Reason.isLossDemote) := by
      rw [← hsel]
      rfl
    rw [hclear, hcharge, hsel]
    cases demote_damper cfg i (enter i s) rfl with
    | spared why damper recent =>
      rw [why, damper, recent]
      simp [enter]
    | loss why damper recent =>
      have hd : (demote cfg i (enter i s)).damper = if s.onTrial s.currentMcs i.tsMs then
          s.damper.insert s.currentMcs (charged cfg i s) else s.damper := damper
      refine ⟨?_, recent⟩
      rw [why, hd, Bool.and_true]
      cases s.onTrial s.currentMcs i.tsMs with
      | true => simp [OrdMap.find?_insert]
      | false => simp
  | false =>
    have hsel : select cfg i s = promote cfg i (cleanTick cfg i (enter i s)) := by
      unfold select
      dsimp only
      rw [if_neg (Bool.eq_false_iff.mp hem)]
    have hcharge : charges cfg i s = false := by
      have hout := select_outcome cfg i s
      unfold charges
      cases hout with
      | held mcs fail why => simp [why]
      | demoted w why reactive hem' hcan mcs fail =>
        rw [hem] at hem'
        cases hem'
      | promoted snr w why route hem' hsnr mcs hcap rate fail =>
        rw [why]
        cases route <;> simp [Reason.isLossDemote]
    obtain ⟨hd, hw⟩ := promote_damper cfg i (cleanTick cfg i (enter i s))
    obtain ⟨hd', hw'⟩ := cleanTick_damper cfg i (enter i s) r
    refine ⟨?_, by rw [hsel, hw, hw']⟩
    rw [hsel, hd, hd', hcharge]
    unfold clears
    rw [hem]
    by_cases hr : r = s.currentMcs <;>
      by_cases hdw : cfg.flapResetCleanDwellTicks ≤ s.cleanDwell + 1 <;> simp [enter, hr, hdw]

variable {cfg i s}

theorem promoteRoute_open {snr : ℚ} {why : Reason} (h : promoteRoute cfg i snr s = some why) :
    suppressed cfg (s.currentMcs + 1) i.tsMs i.probeRelease s = false ∧ i.probeVeto = false := by
  unfold promoteRoute at h
  dsimp only at h
  split_ifs at h with h1
  all_goals
    simp only [not_or, Bool.not_eq_true] at h1
    exact h1.2

/-- A call that lifts the rung is clean, goes up by one, and finds the damper of the target open and
no veto. -/
theorem select_rises (h0 : 0 ≤ s.currentMcs) (h : s.currentMcs < (select cfg i s).currentMcs) :
    (select cfg i s).currentMcs = s.currentMcs + 1 ∧ inEmergency cfg i = false ∧
      i.snrEwma.isNone = false ∧ s.currentMcs + 1 ≤ cfg.maxMcs ∧ i.probeVeto = false ∧
      suppressed cfg (s.currentMcs + 1) i.tsMs i.probeRelease (cleanTick cfg i (enter i s)) =
        false := by
  cases select_outcome cfg i s with
  | held mcs fail why => omega
  | demoted w why reactive hem hcan mcs fail =>
    unfold clampMcs at mcs
    omega
  | promoted snr w why route hem hsnr mcs hcap rate fail =>
    have hmcs : (cleanTick cfg i (enter i s)).currentMcs = s.currentMcs := (cleanTick_frame ..).1
    have hsel : select cfg i s = promote cfg i (cleanTick cfg i (enter i s)) := by
      unfold select
      dsimp only
      rw [if_neg (Bool.eq_false_iff.mp hem)]
    have hroute : ∃ w', promoteRoute cfg i snr (cleanTick cfg i (enter i s)) = some w' := by
      by_contra hnone
      rw [hsel, promote, hsnr] at h
      dsimp only at h
      rw [hmcs, if_neg (not_lt.mpr hcap),
        Option.eq_none_iff_forall_ne_some.mpr fun w' hw' => hnone ⟨w', hw'⟩] at h
      exact absurd hmcs h.ne'
    obtain ⟨w', hw'⟩ := hroute
    obtain ⟨hopen, hveto⟩ := promoteRoute_open hw'
    rw [hmcs] at hopen
    refine ⟨?_, hem, by rw [hsnr]; rfl, hcap, hveto, hopen⟩
    unfold clampMcs at mcs
    omega

theorem release_of_open {rung : ℤ} {tsMs : ℚ} {pr : Bool} {d : Damper}
    (h : suppressed cfg rung tsMs pr s = false) (hd : s.damper.find? rung = some d)
    (hlive : tsMs < d.suppressUntilMs) :
    pr = true ∨ release cfg rung tsMs pr s = some .rawMin := by
  unfold suppressed at h
  unfold release
  rw [hd] at h ⊢
  simp only [Option.map_some, Option.getD_some, Option.bind_some, ge_iff_le, not_le.mpr hlive,
    if_false] at h ⊢
  cases pr with
  | true => exact .inl rfl
  | false =>
    rw [if_neg Bool.false_ne_true] at h ⊢
    cases hlaf : d.snrAtLastFlap with
    | none =>
      rw [hlaf] at h
      cases h
    | some laf =>
      rw [hlaf] at h
      exact .inr (if_pos (by simpa using h))

theorem release_rawMin {rung : ℤ} {tsMs : ℚ} {pr : Bool}
    (h : release cfg rung tsMs pr s = some .rawMin) :
    ∃ laf, (s.damper.find? rung).bind Damper.snrAtLastFlap = some laf ∧
      s.snrWRecent.length = rawMinReleaseWindowTicks ∧
      ∀ x ∈ s.snrWRecent, laf + cfg.flapSnrReleaseDb ≤ x := by
  unfold release at h
  dsimp only at h
  split_ifs at h
  · cases h
  · cases h
  cases hlaf : (s.damper.find? rung).bind Damper.snrAtLastFlap with
  | none =>
    rw [hlaf] at h
    cases h
  | some laf =>
    rw [hlaf] at h
    dsimp only at h
    split_ifs at h with hfull
    exact ⟨laf, rfl, hfull⟩

theorem lastRelease_rawMin (h : lastRelease cfg i s = some .rawMin) :
    ∃ laf, (s.damper.find? (s.currentMcs + 1)).bind Damper.snrAtLastFlap = some laf ∧
      (enter i s).snrWRecent.length = rawMinReleaseWindowTicks ∧
      ∀ x ∈ (enter i s).snrWRecent, laf + cfg.flapSnrReleaseDb ≤ x := by
  unfold lastRelease at h
  split_ifs at h
  obtain ⟨laf, hlaf, hfull⟩ := release_rawMin h
  obtain ⟨hd, hw⟩ := cleanTick_damper cfg i (enter i s) (s.currentMcs + 1)
  have hne : ¬ (s.currentMcs + 1 = (enter i s).currentMcs ∧
      cfg.flapResetCleanDwellTicks ≤ (enter i s).cleanDwell + 1) :=
    fun h => absurd h.1 (by simp [enter])
  rw [hd, if_neg hne] at hlaf
  rw [hw] at hfull
  exact ⟨laf, hlaf, hfull⟩

end Call

end LeadingSelector

namespace Policy

section Model

variable (cfg : PolicyConfig)

/-- The selector and the arguments with which a call calls `select`; a fast-path event may return
before. -/
def selectorCall (p : Policy) : Call → Option (LeadingSelector × SelectInput)
  | .tick sig =>
    some ((beforeSelect cfg sig p).leading, (beforeSelect cfg sig p).tickInput cfg sig p.rung)
  | .lossEvent sig =>
    if sig.residualLossW < cfg.selector.videoDemotePer ∨
        p.windowsSinceDemote < cfg.selector.demoteCooldownWindows then none
    else some (p.leading, lossInput sig)
  | .resetForNewSession => none

def Call.tsMs : Call → ℚ
  | .tick sig | .lossEvent sig => sig.tsMs
  | .resetForNewSession => 0

/-- The call is a loss demote from rung `r`, on promote probation. -/
def charges (r : ℤ) (p : Policy) (c : Call) : Bool :=
  (selectorCall cfg p c).any fun x =>
    x.1.currentMcs = r && LeadingSelector.charges cfg.selector x.2 x.1

/-- The call is a clean tick at rung `r` with a clean dwell of `flap_reset_clean_dwell_ticks`. -/
def clears (r : ℤ) (p : Policy) (c : Call) : Bool :=
  (selectorCall cfg p c).any fun x =>
    x.1.currentMcs = r && LeadingSelector.clears cfg.selector x.2 x.1

def deadline (r : ℤ) (p : Policy) (c : Call) : ℚ :=
  let level := LeadingSelector.effectiveFlapLevel cfg.selector r c.tsMs p.leading + 1
  c.tsMs + min (Json.trunc (cfg.selector.flapBaseBackoffMs *
    cfg.selector.flapBackoffMult ^ (min (level - 1) 40).toNat)) cfg.selector.flapBackoffCapMs

def Promotes (r : ℤ) (p : Policy) (sig : Signals) : Prop :=
  (beforeSelect cfg sig p).rung < (p.tick cfg sig).1.rung ∧ (p.tick cfg sig).1.rung = r

instance (r : ℤ) (p : Policy) (sig : Signals) : Decidable (Promotes cfg r p sig) :=
  inferInstanceAs (Decidable (_ ∧ _))

def seen (p : Policy) (c : Call) : List ℚ :=
  (selectorCall cfg p c).elim [] fun x => x.2.snrW.toList

def recorded (r : ℤ) (p : Policy) (c : Call) : List ℚ :=
  if charges cfg r p c then (selectorCall cfg p c).elim [] fun x => x.2.snrEwma.toList else []

/-- For each tick: is its promote target `r`, with a fresh and clean probe? -/
def cleanProbe (r : ℤ) (p : Policy) : Call → List Bool
  | .tick sig =>
    let pr := (beforeSelect cfg sig p).probeAt sig
    [(beforeSelect cfg sig p).rung + 1 = r ∧ pr.fresh ∧ pr.per.any (· ≤ probeCleanPer)]
  | _ => []

end Model

section History

variable {cfg : PolicyConfig} {p : Policy} {c : Call} {s : LeadingSelector} {i : SelectInput}

theorem call_of_selectorCall (h : selectorCall cfg p c = some (s, i)) :
    (p.call cfg c).leading = s.select cfg.selector i := by
  cases c with
  | tick sig =>
    obtain ⟨rfl, rfl⟩ := Prod.mk.inj (Option.some.inj h)
    exact tick_leading cfg sig p
  | lossEvent sig =>
    simp only [selectorCall] at h
    split_ifs at h with hguard
    obtain ⟨rfl, rfl⟩ := Prod.mk.inj (Option.some.inj h)
    rw [not_or] at hguard
    show (p.lossEvent cfg sig).1.leading = _
    unfold lossEvent
    rw [if_neg hguard.1, if_neg hguard.2]
    dsimp only
    split_ifs
    · rfl
    · exact teach_leading _
  | resetForNewSession => cases h

theorem call_of_no_selectorCall (h : selectorCall cfg p c = none) (hc : c ≠ .resetForNewSession) :
    p.call cfg c = p := by
  cases c with
  | tick sig => cases h
  | lossEvent sig =>
    simp only [selectorCall] at h
    split_ifs at h with hguard
    show (p.lossEvent cfg sig).1 = p
    unfold lossEvent
    by_cases h1 : sig.residualLossW < cfg.selector.videoDemotePer
    · rw [if_pos h1]
    · rw [if_neg h1, if_pos (hguard.resolve_left h1)]
  | resetForNewSession => exact absurd rfl hc

theorem selectorCall_frame (h : selectorCall cfg p c = some (s, i)) :
    s.damper = p.leading.damper ∧ s.snrWRecent = p.leading.snrWRecent ∧ i.tsMs = c.tsMs := by
  cases c with
  | tick sig =>
    obtain ⟨rfl, rfl⟩ := Prod.mk.inj (Option.some.inj h)
    obtain ⟨-, ⟨-, hl⟩ | ⟨w, -, -, -, -, hl⟩⟩ := beforeSelect_cases cfg sig p
    · rw [hl]
      exact ⟨rfl, rfl, rfl⟩
    · rw [hl]
      unfold stepDown LeadingSelector.externalDemote
      dsimp only
      split_ifs <;> exact ⟨rfl, rfl, rfl⟩
  | lossEvent sig =>
    simp only [selectorCall] at h
    split_ifs at h
    obtain ⟨rfl, rfl⟩ := Prod.mk.inj (Option.some.inj h)
    exact ⟨rfl, rfl, rfl⟩
  | resetForNewSession => cases h

theorem charges_of_selectorCall (r : ℤ) (h : selectorCall cfg p c = some (s, i)) :
    charges cfg r p c = (decide (s.currentMcs = r) && LeadingSelector.charges cfg.selector i s) := by
  simp [charges, h]

theorem clears_of_selectorCall (r : ℤ) (h : selectorCall cfg p c = some (s, i)) :
    clears cfg r p c = (decide (s.currentMcs = r) && LeadingSelector.clears cfg.selector i s) := by
  simp [clears, h]

variable (cfg p)

theorem call_damper (hc : c ≠ .resetForNewSession) (r : ℤ) :
    (∃ s i, selectorCall cfg p c = some (s, i) ∧ s.currentMcs = r ∧ charges cfg r p c = true ∧
        (p.call cfg c).leading.damper.find? r = some (LeadingSelector.charged cfg.selector i s)) ∨
      charges cfg r p c = false ∧
        (p.call cfg c).leading.damper.find? r =
          if clears cfg r p c then none else p.leading.damper.find? r := by
  cases hsel : selectorCall cfg p c with
  | none =>
    rw [call_of_no_selectorCall hsel hc]
    simp [charges, clears, hsel]
  | some x =>
    obtain ⟨s, i⟩ := x
    obtain ⟨hd, -, -⟩ := selectorCall_frame hsel
    have h := (LeadingSelector.select_damper cfg.selector i s r).1
    rw [← call_of_selectorCall hsel, hd] at h
    rw [charges_of_selectorCall r hsel, clears_of_selectorCall r hsel, h]
    by_cases hr : r = s.currentMcs
    · subst hr
      cases hch : LeadingSelector.charges cfg.selector i s with
      | true => exact .inl ⟨s, i, rfl, rfl, by simp, by simp⟩
      | false => exact .inr (by simp)
    · exact .inr (by simp [hr, Ne.symm hr])

theorem pushRecent_rtake (n : ℕ) (x : ℚ) (l : List ℚ) :
    pushRecent (n + 1) x (l.rtake (n + 1)) = (l ++ [x]).rtake (n + 1) := by
  have htake : (l.rtake (n + 1)).rtake n = l.rtake n := by
    simp only [List.rtake, List.drop_drop, List.length_drop]
    congr 1
    omega
  calc pushRecent (n + 1) x (l.rtake (n + 1))
      = (l.rtake (n + 1) ++ [x]).rtake (n + 1) := by
        simp only [pushRecent, List.rtake, List.length_append, List.length_singleton]
    _ = l.rtake n ++ [x] := by rw [List.rtake_concat_succ, htake]
    _ = (l ++ [x]).rtake (n + 1) := (List.rtake_concat_succ l n x).symm

theorem demoteAhead_probe (sig : Signals) (p : Policy) :
    (demoteAhead cfg sig p).1.probeCleanTicks = p.probeCleanTicks ∧
      (demoteAhead cfg sig p).1.probeCleanRung = p.probeCleanRung := by
  have hpredict : (predictDemote cfg sig p).1.probeCleanTicks = p.probeCleanTicks ∧
      (predictDemote cfg sig p).1.probeCleanRung = p.probeCleanRung := by
    unfold predictDemote
    cases sig.snr with
    | none => exact ⟨rfl, rfl⟩
    | some snr =>
      dsimp only
      split_ifs <;> exact ⟨rfl, rfl⟩
  have hsnr : ∀ (m : ℤ) (q : Policy), (snrDemote cfg sig m q).1.probeCleanTicks = q.probeCleanTicks ∧
      (snrDemote cfg sig m q).1.probeCleanRung = q.probeCleanRung := by
    intro m q
    unfold snrDemote
    dsimp only
    split_ifs <;> exact ⟨rfl, rfl⟩
  obtain ⟨h1, h2⟩ := hsnr p.rung (predictDemote cfg sig p).1
  exact ⟨h1.trans hpredict.1, h2.trans hpredict.2⟩

theorem tick_probe (sig : Signals) (p : Policy) :
    (p.tick cfg sig).1.probeCleanTicks = (beforeSelect cfg sig p).probeCleanTicks ∧
      (p.tick cfg sig).1.probeCleanRung = (beforeSelect cfg sig p).probeCleanRung := by
  rw [tick_fst, ingest_eq, teach_eq]
  unfold selected runSelect
  dsimp only
  split_ifs <;> exact ⟨rfl, rfl⟩

theorem lossEvent_probe (sig : Signals) (p : Policy) :
    (p.lossEvent cfg sig).1.probeCleanTicks = p.probeCleanTicks ∧
      (p.lossEvent cfg sig).1.probeCleanRung = p.probeCleanRung := by
  rcases lossEvent_cases cfg sig p with h | ⟨-, p', rfl, ⟨-, h⟩ | ⟨-, h⟩⟩
  · rw [h]
    exact ⟨rfl, rfl⟩
  · rw [h]
    exact ⟨rfl, rfl⟩
  · rw [h, teach_eq]
    exact ⟨rfl, rfl⟩

variable {cfg p}

/-- What the selector and the policy remember, read off the history. -/
structure History (cfg : PolicyConfig) (p₀ : Policy) (calls : List Call) : Prop where
  window : (calls.foldl (call cfg) p₀).leading.snrWRecent =
    (Run.shown (call cfg) (seen cfg) p₀ calls).rtake rawMinReleaseWindowTicks
  snr : ∀ r laf, ((calls.foldl (call cfg) p₀).leading.damper.find? r).bind Damper.snrAtLastFlap =
    some laf → (Run.shown (call cfg) (recorded cfg r) p₀ calls).getLast? = some laf
  probe : ∀ r, (calls.foldl (call cfg) p₀).probeCleanRung = some r →
    ∃ l, Run.shown (call cfg) (cleanProbe cfg r) p₀ calls =
      l ++ List.replicate (calls.foldl (call cfg) p₀).probeCleanTicks true

theorem call_window (hc : c ≠ .resetForNewSession) {l : List ℚ}
    (h : p.leading.snrWRecent = l.rtake rawMinReleaseWindowTicks) :
    (p.call cfg c).leading.snrWRecent = (l ++ seen cfg p c).rtake rawMinReleaseWindowTicks := by
  unfold seen
  cases hsel : selectorCall cfg p c with
  | none =>
    rw [call_of_no_selectorCall hsel hc]
    simpa using h
  | some x =>
    obtain ⟨s, i⟩ := x
    rw [call_of_selectorCall hsel, (LeadingSelector.select_damper cfg.selector i s 0).2]
    unfold LeadingSelector.enter
    dsimp only [Option.elim_some]
    rw [(selectorCall_frame hsel).2.1, h]
    cases i.snrW with
    | none => simp
    | some w => exact pushRecent_rtake 19 w l

theorem call_snr (hc : c ≠ .resetForNewSession) {r : ℤ} {l : List ℚ}
    (h : ∀ laf, (p.leading.damper.find? r).bind Damper.snrAtLastFlap = some laf →
      l.getLast? = some laf) {laf : ℚ}
    (hlaf : ((p.call cfg c).leading.damper.find? r).bind Damper.snrAtLastFlap = some laf) :
    (l ++ recorded cfg r p c).getLast? = some laf := by
  unfold recorded
  rcases call_damper cfg p hc r with ⟨s, i, hsel, rfl, hch, hd⟩ | ⟨hch, hd⟩
  · rw [hd] at hlaf
    rw [hch, if_pos rfl, hsel]
    simp only [Option.bind_some, LeadingSelector.charged, (selectorCall_frame hsel).1] at hlaf
    cases he : i.snrEwma with
    | none =>
      rw [he, Option.none_or] at hlaf
      simpa [he] using h laf hlaf
    | some e =>
      rw [he, Option.some_or] at hlaf
      simpa [he] using hlaf
  · rw [hch, if_neg Bool.false_ne_true, List.append_nil]
    refine h laf ?_
    rw [hd] at hlaf
    split_ifs at hlaf
    · cases hlaf
    · exact hlaf

theorem call_probe (hc : c ≠ .resetForNewSession) {r : ℤ} {l : List Bool}
    (h : p.probeCleanRung = some r → ∃ l', l = l' ++ List.replicate p.probeCleanTicks true)
    (hr : (p.call cfg c).probeCleanRung = some r) :
    ∃ l', l ++ cleanProbe cfg r p c =
      l' ++ List.replicate (p.call cfg c).probeCleanTicks true := by
  cases c with
  | tick sig =>
    obtain ⟨ht, hr'⟩ := tick_probe cfg sig p
    obtain ⟨ha, ha'⟩ := demoteAhead_probe cfg sig (advance cfg sig p)
    have hrung : (beforeSelect cfg sig p).rung + 1 = r := by
      rw [call, hr'] at hr
      exact Option.some.inj hr
    have hticks : (beforeSelect cfg sig p).probeCleanTicks =
        if ((beforeSelect cfg sig p).probeAt sig).fresh ∧
            ((beforeSelect cfg sig p).probeAt sig).per.any (· ≤ probeCleanPer) then
          (if p.probeCleanRung = some r then p.probeCleanTicks else 0) + 1 else 0 := by
      rw [← hrung]
      unfold beforeSelect countProbe
      dsimp only
      rw [ha, ha']
      rfl
    rw [call, ht, hticks, cleanProbe]
    by_cases hclean : ((beforeSelect cfg sig p).probeAt sig).fresh ∧
        ((beforeSelect cfg sig p).probeAt sig).per.any (· ≤ probeCleanPer)
    · rw [if_pos hclean, decide_eq_true ⟨hrung, hclean⟩]
      by_cases hsame : p.probeCleanRung = some r
      · obtain ⟨l', rfl⟩ := h hsame
        exact ⟨l', by rw [if_pos hsame, List.replicate_succ', List.append_assoc]⟩
      · exact ⟨l, by rw [if_neg hsame]; rfl⟩
    · exact ⟨_, by rw [if_neg hclean, List.replicate_zero, List.append_nil]⟩
  | lossEvent sig =>
    obtain ⟨ht, hr'⟩ := lossEvent_probe cfg sig p
    rw [call, hr'] at hr
    obtain ⟨l', rfl⟩ := h hr
    refine ⟨l', ?_⟩
    rw [call, ht]
    exact List.append_nil _
  | resetForNewSession => exact absurd rfl hc

theorem history (cfg : PolicyConfig) (prior : KneeModel) (calls : List Call)
    (hcalls : ∀ c ∈ calls, c ≠ .resetForNewSession) : History cfg (boot cfg prior) calls := by
  induction calls using List.reverseRecOn with
  | nil =>
    refine ⟨rfl, fun r laf h => ?_, fun r h => ?_⟩
    · cases h
    · cases h
  | append_singleton calls c ih =>
    have hc := hcalls c (by simp)
    obtain ⟨hw, hs, hp⟩ := ih fun c' h => hcalls c' (List.mem_append_left _ h)
    have hlast : (calls ++ [c]).foldl (call cfg) (boot cfg prior) =
        (calls.foldl (call cfg) (boot cfg prior)).call cfg c := by simp
    constructor
    · rw [hlast, Run.shown_concat]
      exact call_window hc hw
    · intro r laf h
      rw [hlast] at h
      rw [Run.shown_concat]
      exact call_snr hc (hs r) h
    · intro r h
      rw [hlast] at h
      rw [hlast, Run.shown_concat]
      exact call_probe hc (hp r) h

end History

end Policy

end Fpvd.Gs
