import Fpvd.Gs.Damper

/-!
# Fpvd.Gs.Release — deadlines of the flap damper, and what lifts them
-/

namespace Fpvd.Gs

namespace Policy

/-! ## Deadlines -/

section Deadline

variable {cfg : PolicyConfig} {p : Policy} {c : Call} {r : ℤ}

theorem of_new {prior : KneeModel} {p₀ : Policy} (h : new cfg prior = .ok p₀) :
    0 ≤ cfg.selector.maxMcs ∧ p₀ = boot cfg prior := by
  by_cases hmax : 0 ≤ cfg.selector.maxMcs
  · rw [new_ok hmax] at h
    exact ⟨hmax, (Except.ok.inj h).symm⟩
  · rw [new, LeadingSelector.new, if_pos (not_le.mp hmax)] at h
    cases h

theorem run_inRange (hmax : 0 ≤ cfg.selector.maxMcs) (prior : KneeModel) (calls : List Call) :
    InRange cfg (calls.foldl (call cfg) (boot cfg prior)) := by
  refine List.foldlRecOn calls (call cfg) (boot_inRange hmax prior) ?_
  intro p hp c _
  exact call_inRange hmax c hp

theorem charges_deadline (hc : c ≠ .resetForNewSession) (h : charges cfg r p c = true) :
    ∃ d, (p.call cfg c).leading.damper.find? r = some d ∧ d.suppressUntilMs = deadline cfg r p c := by
  rcases call_damper cfg p hc r with ⟨s, i, hsel, rfl, -, hd⟩ | ⟨hch, -⟩
  · obtain ⟨hdamper, -, hts⟩ := selectorCall_frame hsel
    refine ⟨_, hd, ?_⟩
    have hlevel : LeadingSelector.effectiveFlapLevel cfg.selector s.currentMcs i.tsMs s =
        LeadingSelector.effectiveFlapLevel cfg.selector s.currentMcs c.tsMs p.leading := by
      unfold LeadingSelector.effectiveFlapLevel
      rw [hdamper, hts]
    unfold LeadingSelector.charged LeadingSelector.flapBackoffMs deadline
    rw [hlevel, hts]
  · rw [h] at hch
    cases hch

theorem clears_tick (h : clears cfg r p c = true) : ∃ sig, c = .tick sig := by
  cases c with
  | tick sig => exact ⟨sig, rfl⟩
  | lossEvent sig =>
    unfold clears at h
    simp only [selectorCall] at h
    split_ifs at h
    · cases h
    · simp [LeadingSelector.clears, LeadingSelector.inEmergency, lossInput] at h
  | resetForNewSession => cases h

variable {d : Damper} {sig : Signals}

theorem run_damper {calls : List Call} (hd : p.leading.damper.find? r = some d)
    (hm : Run.Meets (call cfg) (fun p c => c ≠ .resetForNewSession ∧ charges cfg r p c = false ∧
      clears cfg r p c = false) p calls) :
    (calls.foldl (call cfg) p).leading.damper.find? r = some d := by
  refine Run.Meets.invariant (I := fun p => p.leading.damper.find? r = some d) ?_ calls p hd hm
  rintro p c hp ⟨hc, hch, hcl⟩
  rcases call_damper cfg p hc r with ⟨s, i, -, -, h, -⟩ | ⟨-, h⟩
  · rw [hch] at h
    cases h
  · rw [h, hcl, if_neg Bool.false_ne_true]
    exact hp

theorem promotes_open (hp : InRange cfg p) (h : Promotes cfg r p sig) :
    r = (beforeSelect cfg sig p).rung + 1 ∧ (beforeSelect cfg sig p).probeVeto sig = false ∧
      LeadingSelector.suppressed cfg.selector r sig.tsMs
        (decide ((beforeSelect cfg sig p).probeCleanTicks ≥ probeCleanReleaseTicks))
        (LeadingSelector.cleanTick cfg.selector ((beforeSelect cfg sig p).tickInput cfg sig p.rung)
          (LeadingSelector.enter ((beforeSelect cfg sig p).tickInput cfg sig p.rung)
            (beforeSelect cfg sig p).leading)) = false := by
  obtain ⟨hlt, hr⟩ := h
  have hl := tick_leading cfg sig p
  unfold rung at hlt hr
  rw [hl] at hlt hr
  obtain ⟨hup, -, -, -, hveto, hopen⟩ :=
    LeadingSelector.select_rises (beforeSelect_step hp sig).1.1 hlt
  obtain rfl : r = (beforeSelect cfg sig p).rung + 1 := hr.symm.trans hup
  exact ⟨rfl, hveto, hopen⟩

/-- A tick that promotes into a rung with a live window was released: by the probe streak, or by the
window of raw samples. -/
theorem promotes_live (hp : InRange cfg p) (hprom : Promotes cfg r p sig)
    (hd : p.leading.damper.find? r = some d) (hlive : sig.tsMs < d.suppressUntilMs) :
    ((p.call cfg (.tick sig)).probeCleanRung = some r ∧
        probeCleanReleaseTicks ≤ (p.call cfg (.tick sig)).probeCleanTicks) ∨
      ∃ laf, d.snrAtLastFlap = some laf ∧
        (p.call cfg (.tick sig)).leading.snrWRecent.length = rawMinReleaseWindowTicks ∧
        ∀ x ∈ (p.call cfg (.tick sig)).leading.snrWRecent, laf + cfg.selector.flapSnrReleaseDb ≤ x := by
  obtain ⟨hr, -, hopen⟩ := promotes_open hp hprom
  have hsel : selectorCall cfg p (.tick sig) = some ((beforeSelect cfg sig p).leading,
      (beforeSelect cfg sig p).tickInput cfg sig p.rung) := rfl
  set s := (beforeSelect cfg sig p).leading with hs
  set i := (beforeSelect cfg sig p).tickInput cfg sig p.rung
  obtain ⟨hdamper, hrecent⟩ := LeadingSelector.cleanTick_damper cfg.selector i
    (LeadingSelector.enter i s) r
  have hne : ¬ (r = (LeadingSelector.enter i s).currentMcs ∧
      cfg.selector.flapResetCleanDwellTicks ≤ (LeadingSelector.enter i s).cleanDwell + 1) := by
    rintro ⟨heq, -⟩
    have : r = (beforeSelect cfg sig p).rung := heq
    omega
  have hfind : (LeadingSelector.cleanTick cfg.selector i (LeadingSelector.enter i s)).damper.find? r =
      some d := by
    rw [hdamper, if_neg hne, ← hd, ← (selectorCall_frame hsel).1]
    rfl
  rw [call_of_selectorCall hsel, (LeadingSelector.select_damper cfg.selector i s r).2]
  rcases LeadingSelector.release_of_open hopen hfind hlive with hpr | hraw
  · refine .inl ⟨?_, ?_⟩
    · rw [call, (tick_probe cfg sig p).2, hr]
      rfl
    · rw [call, (tick_probe cfg sig p).1]
      exact of_decide_eq_true hpr
  · obtain ⟨laf, hlaf, hfull⟩ := LeadingSelector.release_rawMin hraw
    rw [hfind] at hlaf
    rw [hrecent] at hfull
    exact .inr ⟨laf, hlaf, hfull⟩

theorem promotes_released (hmax : 0 ≤ cfg.selector.maxMcs) (prior : KneeModel) (calls : List Call)
    (hcalls : ∀ c ∈ calls ++ [.tick sig], c ≠ .resetForNewSession)
    (hprom : Promotes cfg r (calls.foldl (call cfg) (boot cfg prior)) sig)
    (hd : (calls.foldl (call cfg) (boot cfg prior)).leading.damper.find? r = some d)
    (hlive : sig.tsMs < d.suppressUntilMs) :
    (∃ snr, (Run.shown (call cfg) (recorded cfg r) (boot cfg prior) calls).getLast? = some snr ∧
      Run.Recent rawMinReleaseWindowTicks (snr + cfg.selector.flapSnrReleaseDb ≤ ·)
        (Run.shown (call cfg) (seen cfg) (boot cfg prior) (calls ++ [.tick sig]))) ∨
    Run.Recent probeCleanReleaseTicks (· = true)
      (Run.shown (call cfg) (cleanProbe cfg r) (boot cfg prior) (calls ++ [.tick sig])) := by
  have hhist := history cfg prior calls fun c h => hcalls c (List.mem_append_left _ h)
  obtain ⟨hwindow, -, hprobe⟩ := history cfg prior (calls ++ [.tick sig]) hcalls
  rw [List.foldl_append, List.foldl_cons, List.foldl_nil] at hwindow hprobe
  rcases promotes_live (run_inRange hmax prior calls) hprom hd hlive with
    ⟨hrung, hticks⟩ | ⟨laf, hlaf, hfull, hall⟩
  · obtain ⟨l, hl⟩ := hprobe r hrung
    rw [hl]
    have hlen : probeCleanReleaseTicks ≤ (List.replicate ((calls.foldl (call cfg)
        (boot cfg prior)).call cfg (.tick sig)).probeCleanTicks true).length := by
      rwa [List.length_replicate]
    exact .inr ((Run.recent_append_iff l hlen).mpr
      (Run.recent_of_forall hlen fun x hx => List.eq_of_mem_replicate hx))
  · rw [hwindow] at hfull hall
    refine .inl ⟨laf, hhist.snr r laf ?_, Run.recent_of_rtake hfull hall⟩
    rw [hd]
    exact hlaf

/-- What may lift the damper of rung `r` before the deadline that the call `c` set: a clean tick there
with the clearing dwell; or the last 20 samples seen, all above the recorded SNR by the release margin;
or 20 ticks with a clean probe of that rung. -/
def Released (cfg : PolicyConfig) (p₀ : Policy) (r : ℤ) (before : List Call) (c : Call)
    (after : List Call) (sig : Signals) : Prop :=
  (∃ mid sig', mid ++ [.tick sig'] <+: after ∧
    clears cfg r ((before ++ c :: mid).foldl (call cfg) p₀) (.tick sig') = true) ∨
  (∃ snr, (Run.shown (call cfg) (recorded cfg r) p₀ (before ++ c :: after)).getLast? = some snr ∧
    Run.Recent rawMinReleaseWindowTicks (snr + cfg.selector.flapSnrReleaseDb ≤ ·)
      (Run.shown (call cfg) (seen cfg) p₀ (before ++ c :: after ++ [.tick sig]))) ∨
  Run.Recent probeCleanReleaseTicks (· = true)
    (Run.shown (call cfg) (cleanProbe cfg r) p₀ (before ++ c :: after ++ [.tick sig]))

/-- **The flap damper.**  In every run from a fresh policy without a session reset: a tick with a fresh
dirty probe at its promote target does not promote.  A loss demote from a rung on promote probation
sets a deadline by the decayed level of that rung.  Until the deadline of the latest such charge no
tick promotes into the rung, unless it was released. -/
theorem flap_damper (cfg : PolicyConfig) (prior : KneeModel) (p₀ : Policy)
    (hnew : new cfg prior = .ok p₀) (before : List Call)
    (hbefore : ∀ c ∈ before, c ≠ .resetForNewSession) (r : ℤ) :
    let p := before.foldl (call cfg) p₀
    (∀ sig, ((beforeSelect cfg sig p).probeAt sig).fresh = true →
      ((beforeSelect cfg sig p).probeAt sig).per.any (probeDirtyPer ≤ ·) = true →
      ¬ Promotes cfg r p sig) ∧
    ∀ c, c ≠ .resetForNewSession → charges cfg r p c = true →
      ((p.call cfg c).leading.damper.find? r).map Damper.suppressUntilMs =
        some (deadline cfg r p c) ∧
      ∀ after sig, (∀ c' ∈ after, c' ≠ .resetForNewSession) →
        Run.Meets (call cfg) (fun q c' => charges cfg r q c' = false) (p.call cfg c) after →
        Promotes cfg r (after.foldl (call cfg) (p.call cfg c)) sig →
        sig.tsMs < deadline cfg r p c → Released cfg p₀ r before c after sig := by
  obtain ⟨hmax, rfl⟩ := of_new hnew
  refine ⟨?_, fun c hc hcharge => ?_⟩
  · intro sig hfresh hdirty hprom
    obtain ⟨-, hveto, -⟩ := promotes_open (run_inRange hmax prior before) hprom
    unfold probeVeto at hveto
    simp [hfresh, hdirty] at hveto
  obtain ⟨d, hd, hdl⟩ := charges_deadline hc hcharge
  refine ⟨by rw [hd, ← hdl]; rfl, fun after sig hafter hnone hprom hlive => ?_⟩
  have hrun : ∀ mid, mid.foldl (call cfg) ((before.foldl (call cfg) (boot cfg prior)).call cfg c) =
      (before ++ c :: mid).foldl (call cfg) (boot cfg prior) := fun mid => by simp
  by_cases hclear : ∃ mid sig', mid ++ [.tick sig'] <+: after ∧
      clears cfg r ((before ++ c :: mid).foldl (call cfg) (boot cfg prior)) (.tick sig') = true
  · exact .inl hclear
  refine .inr ?_
  -- so the charge still stands
  have hmeets : Run.Meets (call cfg) (fun p c => c ≠ .resetForNewSession ∧ charges cfg r p c = false ∧
      clears cfg r p c = false) ((before.foldl (call cfg) (boot cfg prior)).call cfg c) after := by
    rw [Run.meets_iff_before] at hnone ⊢
    intro mid c' hpre
    refine ⟨hafter c' (hpre.subset (by simp)), hnone mid c' hpre, ?_⟩
    rw [Bool.eq_false_iff, hrun]
    intro hcl
    obtain ⟨sig', rfl⟩ := clears_tick hcl
    exact hclear ⟨mid, sig', hpre, hcl⟩
  have hfind := run_damper hd hmeets
  have hcalls : ∀ c' ∈ before ++ c :: after ++ [.tick sig], c' ≠ .resetForNewSession := by
    simp only [List.mem_append, List.mem_cons, List.not_mem_nil, or_false]
    rintro c' ((h | rfl | h) | rfl)
    · exact hbefore c' h
    · exact hc
    · exact hafter c' h
    · simp
  rw [hrun] at hprom hfind
  exact promotes_released hmax prior _ hcalls hprom hfind (hdl ▸ hlive)

def hasty : PolicyConfig where
  selector := { promoteDwellTicks := 2, holdModesDownMs := 0, flapResetCleanDwellTicks := 100,
                demoteCooldownWindows := 1 }

def cleanAt (n : ℕ) (raw : ℚ) : Signals := { timestamp := n / 10, snr := some 20, snrW := some raw }

def lostAt (t raw : ℚ) : Signals :=
  { timestamp := t, snr := some 20, snrW := some raw, residualLossW := 1 }

/-- A demote from rung 2 on probation, and 20 windows with raw samples 10 dB up: the last of them
promotes again, 50 ms ahead of the deadline. -/
theorem flap_damper_hasty :
    charges hasty 2 ([.tick (cleanAt 1 20), .tick (cleanAt 2 20)].foldl (call hasty) (boot hasty {}))
        (.lossEvent (lostAt (1 / 4) 20)) = true ∧
      Released hasty (boot hasty {}) 2 [.tick (cleanAt 1 20), .tick (cleanAt 2 20)]
        (.lossEvent (lostAt (1 / 4) 20)) ((List.range' 3 19).map fun n => .tick (cleanAt n 30))
        (cleanAt 22 30) := by
  have hcharge : charges hasty 2 ([.tick (cleanAt 1 20), .tick (cleanAt 2 20)].foldl (call hasty)
      (boot hasty {})) (.lossEvent (lostAt (1 / 4) 20)) = true := by decide +kernel
  refine ⟨hcharge, ((flap_damper hasty {} (boot hasty {}) (new_ok (by decide) {})
    [.tick (cleanAt 1 20), .tick (cleanAt 2 20)] (by decide +kernel) 2).2 _ (by simp) hcharge).2 _ _
    (by decide +kernel) (by decide +kernel) (by decide +kernel) (by decide +kernel)⟩

end Deadline

/-! ## The raw-minimum release -/

section RawMin

variable {cfg : PolicyConfig} {p : Policy} {c : Call}

def tickRelease (cfg : PolicyConfig) (p : Policy) (sig : Signals) : Option Release :=
  (beforeSelect cfg sig p).leading.lastRelease cfg.selector
    ((beforeSelect cfg sig p).tickInput cfg sig p.rung)

def tickSnr (_ : Policy) : Call → List (Option ℚ)
  | .tick sig => [sig.snrW]
  | _ => []

/-- The release window is fed by ticks: a tick brings its sample, and a fast-path event brings none
to the selector. -/
def TickFed (cfg : PolicyConfig) (p : Policy) : Call → Prop
  | .tick sig => sig.snrW.isSome = true
  | .lossEvent sig => seen cfg p (.lossEvent sig) = []
  | .resetForNewSession => False

instance (cfg : PolicyConfig) (p : Policy) : (c : Call) → Decidable (TickFed cfg p c)
  | .tick _ => inferInstanceAs (Decidable (_ = _))
  | .lossEvent _ => inferInstanceAs (Decidable (_ = _))
  | .resetForNewSession => inferInstanceAs (Decidable False)

theorem tickFed_seen (h : TickFed cfg p c) :
    tickSnr p c = (seen cfg p c).map some ∧
      (tickSnr p c).length = [c].countP Call.isTick := by
  cases c with
  | tick sig =>
    obtain ⟨w, hw⟩ := Option.isSome_iff_exists.mp h
    have hseen : seen cfg p (.tick sig) = sig.snrW.toList := rfl
    rw [hseen, tickSnr, hw]
    exact ⟨rfl, rfl⟩
  | lossEvent sig =>
    have hseen : seen cfg p (.lossEvent sig) = [] := h
    rw [hseen]
    exact ⟨rfl, rfl⟩
  | resetForNewSession => exact absurd h id

theorem run_tickFed (calls : List Call) : ∀ p, Run.Meets (call cfg) (TickFed cfg) p calls →
    Run.shown (call cfg) tickSnr p calls = (Run.shown (call cfg) (seen cfg) p calls).map some ∧
      (Run.shown (call cfg) tickSnr p calls).length = calls.countP Call.isTick := by
  induction calls with
  | nil => exact fun p _ => ⟨rfl, rfl⟩
  | cons c calls ih =>
    rintro p ⟨hc, hrest⟩
    obtain ⟨h1, h2⟩ := tickFed_seen hc
    obtain ⟨h3, h4⟩ := ih _ hrest
    refine ⟨by rw [Run.shown, Run.shown, List.map_append, h1, h3], ?_⟩
    rw [Run.shown, List.length_append, h2, h4, ← List.countP_append, List.singleton_append]

theorem tickRelease_rawMin {sig : Signals} (h : tickRelease cfg p sig = some .rawMin) :
    ∃ laf, (p.leading.damper.find? ((beforeSelect cfg sig p).rung + 1)).bind Damper.snrAtLastFlap =
        some laf ∧
      (p.call cfg (.tick sig)).leading.snrWRecent.length = rawMinReleaseWindowTicks ∧
      ∀ x ∈ (p.call cfg (.tick sig)).leading.snrWRecent, laf + cfg.selector.flapSnrReleaseDb ≤ x := by
  have hsel : selectorCall cfg p (.tick sig) = some ((beforeSelect cfg sig p).leading,
      (beforeSelect cfg sig p).tickInput cfg sig p.rung) := rfl
  obtain ⟨laf, hlaf, hfull⟩ := LeadingSelector.lastRelease_rawMin h
  rw [(selectorCall_frame hsel).1] at hlaf
  rw [call_of_selectorCall hsel, (LeadingSelector.select_damper cfg.selector _ _ 0).2]
  exact ⟨laf, hlaf, hfull⟩

/-- **The raw-minimum release looks at 2 s of ticks, as long as ticks feed its window.**  In every run
from a fresh policy: if the calls since the 20th last tick, or all calls, feed the window by ticks, a
raw-minimum release means that each of the last 20 ticks had a raw SNR above the recorded one by the
release margin. -/
theorem rawMin_tick_fed (cfg : PolicyConfig) (prior : KneeModel) (p₀ : Policy)
    (hnew : new cfg prior = .ok p₀) (before after : List Call)
    (hcalls : ∀ c ∈ before ++ after, c ≠ .resetForNewSession) (sig : Signals)
    (hlong : before = [] ∨ rawMinReleaseWindowTicks ≤
      (after ++ [Call.tick sig]).countP Call.isTick)
    (hfed : Run.Meets (call cfg) (TickFed cfg) (before.foldl (call cfg) p₀) (after ++ [.tick sig]))
    (hfires : tickRelease cfg ((before ++ after).foldl (call cfg) p₀) sig = some .rawMin) :
    ∃ snr, (Run.shown (call cfg) (recorded cfg ((beforeSelect cfg sig
        ((before ++ after).foldl (call cfg) p₀)).rung + 1)) p₀ (before ++ after)).getLast? = some snr ∧
      Run.Recent rawMinReleaseWindowTicks (fun w => w.any (snr + cfg.selector.flapSnrReleaseDb ≤ ·) = true)
        (Run.shown (call cfg) tickSnr p₀ (before ++ after ++ [.tick sig])) := by
  obtain ⟨-, rfl⟩ := of_new hnew
  have hhist := history cfg prior (before ++ after) hcalls
  have hwindow := (history cfg prior (before ++ after ++ [.tick sig]) (by
    intro c hc
    rcases List.mem_append.mp hc with hc | hc
    · exact hcalls c hc
    · rw [List.mem_singleton.mp hc]
      simp)).window
  obtain ⟨snr, hsnr, hfull, hall⟩ := tickRelease_rawMin hfires
  rw [List.foldl_append, List.foldl_cons, List.foldl_nil] at hwindow
  rw [hwindow] at hfull hall
  have hrecent := Run.recent_of_rtake hfull hall
  obtain ⟨hmap, hcount⟩ := run_tickFed (after ++ [.tick sig]) _ hfed
  refine ⟨snr, hhist.snr _ snr hsnr, ?_⟩
  rw [List.append_assoc, Run.shown_append] at hrecent ⊢
  rw [hmap, List.length_map] at hcount
  have hsince : Run.Recent rawMinReleaseWindowTicks (snr + cfg.selector.flapSnrReleaseDb ≤ ·)
      (Run.shown (call cfg) (seen cfg) (before.foldl (call cfg) (boot cfg prior))
        (after ++ [.tick sig])) := by
    rcases hlong with rfl | hlong
    · exact hrecent
    · exact (Run.recent_append_iff _ (hcount ▸ hlong)).mp hrecent
  rw [hmap]
  refine (Run.recent_append_iff _ (by rw [List.length_map]; exact hsince.1)).mpr ?_
  rw [Run.recent_map]
  exact ⟨hsince.1, fun x hx => by simpa using hsince.2 x hx⟩

/-- The same run is fed by ticks from the demote on. -/
theorem rawMin_tick_fed_hasty :
    Run.Recent rawMinReleaseWindowTicks (fun w => w.any (20 + 3 ≤ ·) = true)
      (Run.shown (call hasty) tickSnr (boot hasty {})
        ([.tick (cleanAt 1 20), .tick (cleanAt 2 20), .lossEvent (lostAt (1 / 4) 20)] ++
          (List.range' 3 19).map (fun n => .tick (cleanAt n 30)) ++ [.tick (cleanAt 22 30)])) := by
  obtain ⟨snr, hsnr, h⟩ := rawMin_tick_fed hasty {} (boot hasty {}) (new_ok (by decide) {})
    [.tick (cleanAt 1 20), .tick (cleanAt 2 20), .lossEvent (lostAt (1 / 4) 20)]
    ((List.range' 3 19).map fun n => .tick (cleanAt n 30)) (by decide +kernel) (cleanAt 22 30)
    (.inr (by decide)) (by decide +kernel) (by decide +kernel)
  have hlast : snr = 20 := by
    refine Option.some.inj (hsnr.symm.trans ?_)
    decide +kernel
  rw [hlast] at h
  exact h

def grounded : List Call :=
  .lossEvent (lostAt 1 20) :: (List.range' 11 30).map (fun n => .tick (cleanAt n 20)) ++
    .lossEvent (lostAt (405 / 100) 20) :: (List.range' 41 3).map fun n => .tick (cleanAt n 20)

def flood : List Call :=
  (List.range 20).map fun n => .lossEvent (lostAt (431 / 100 + n / 1000) 40)

/-- **Fast-path events fill the release window.**  The next tick releases the damper of rung 1 on the
samples of the flood; of the last 20 ticks 19 were at 20 dB, the SNR of the charge itself. -/
theorem rawMin_flooded :
    ¬ ∀ (cfg : PolicyConfig) (prior : KneeModel) (p₀ : Policy) (calls : List Call) (sig : Signals),
      new cfg prior = .ok p₀ → (∀ c ∈ calls, c ≠ .resetForNewSession) →
      tickRelease cfg (calls.foldl (call cfg) p₀) sig = some .rawMin →
      ∃ snr, (Run.shown (call cfg) (recorded cfg ((beforeSelect cfg sig
          (calls.foldl (call cfg) p₀)).rung + 1)) p₀ calls).getLast? = some snr ∧
        Run.Recent rawMinReleaseWindowTicks
          (fun w => w.any (snr + cfg.selector.flapSnrReleaseDb ≤ ·) = true)
          (Run.shown (call cfg) tickSnr p₀ (calls ++ [.tick sig])) := by
  intro h
  obtain ⟨snr, hsnr, hrecent⟩ := h {} {} (boot {} {}) (grounded ++ flood) (cleanAt 44 40)
    (new_ok (by decide) {}) (by decide +kernel) (by decide +kernel)
  have hlast : snr = 20 := by
    refine Option.some.inj (hsnr.symm.trans ?_)
    decide +kernel
  rw [hlast] at hrecent
  revert hrecent
  decide +kernel

end RawMin

end Policy

end Fpvd.Gs
