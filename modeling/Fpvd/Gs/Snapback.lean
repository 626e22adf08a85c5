import Fpvd.Lib.LinkedRun
import Fpvd.Gs.Debounce

/-!
# Fpvd.Gs.Snapback — the bar of the snap-back route

A clean dwell confirms the rung at its SNR for `confirm_ttl_ms`; the snap-back route returns to a
confirmed rung once the SNR is nearly back.  The stored SNR is a running maximum that starts anew when a
confirmation has expired.
-/

namespace Fpvd.Gs

structure Confirmed where
  rung : ℤ
  tsMs : ℚ
  snr : ℚ
  deriving DecidableEq, Repr

def Confirmed.Renews (cfg : SelectorConfig) (a b : Confirmed) : Prop :=
  b.tsMs ≤ a.tsMs + cfg.confirmTtlMs

namespace LeadingSelector

section Confirm

variable (cfg : SelectorConfig) (i : SelectInput) (s : LeadingSelector)

def confirmsAt : Option ℚ :=
  if inEmergency cfg i ∨ s.cleanDwell + 1 < cfg.promoteDwellTicks then none else i.snrEwma

theorem demote_confirmed : (demote cfg i s).confirmed = s.confirmed := by
  unfold demote lossDemote commit chargeFlap
  dsimp only
  split_ifs <;> rfl

theorem commit_confirmed (tsMs : ℚ) (mcs : ℤ) (why : Reason) :
    (s.commit cfg tsMs mcs why).confirmed = s.confirmed := by
  unfold commit
  dsimp only
  split_ifs <;> rfl

theorem startTrial_confirmed (tsMs : ℚ) (prev : ℤ) :
    (startTrial cfg tsMs prev s).confirmed = s.confirmed := by
  unfold startTrial
  split_ifs <;> rfl

theorem promote_confirmed : (promote cfg i s).confirmed = s.confirmed := by
  unfold promote
  cases i.snrEwma with
  | none => rfl
  | some snr =>
    dsimp only
    by_cases hcap : s.currentMcs + 1 > cfg.maxMcs
    · rw [if_pos hcap]
    · rw [if_neg hcap]
      cases promoteRoute cfg i snr s with
      | none => rfl
      | some why =>
        dsimp only
        rw [startTrial_confirmed, commit_confirmed]

theorem cleanTick_confirmed : (cleanTick cfg i s).confirmed =
    match i.snrEwma with
    | some snr => if s.cleanDwell + 1 ≥ cfg.promoteDwellTicks then
        (s.confirm cfg snr i.tsMs).confirmed else s.confirmed
    | none => s.confirmed := by
  unfold cleanTick confirm
  dsimp only
  cases i.snrEwma <;> dsimp only <;> split_ifs <;> rfl

theorem select_confirmed : (select cfg i s).confirmed =
    match confirmsAt cfg i s with
    | some snr => (s.confirm cfg snr i.tsMs).confirmed
    | none => s.confirmed := by
  unfold select confirmsAt
  dsimp only
  by_cases hem : inEmergency cfg i = true
  · rw [if_pos hem, demote_confirmed, if_pos (.inl hem)]
    rfl
  · rw [if_neg hem, promote_confirmed, cleanTick_confirmed]
    by_cases hd : s.cleanDwell + 1 < cfg.promoteDwellTicks
    · rw [if_pos (.inr hd)]
      have hdwell : ¬ (enter i s).cleanDwell + 1 ≥ cfg.promoteDwellTicks := not_le.mpr hd
      cases i.snrEwma with
      | none => rfl
      | some snr =>
        dsimp only
        rw [if_neg hdwell]
        rfl
    · rw [if_neg fun h => h.elim hem hd]
      have hdwell : (enter i s).cleanDwell + 1 ≥ cfg.promoteDwellTicks := not_lt.mp hd
      cases i.snrEwma with
      | none => rfl
      | some snr =>
        dsimp only
        rw [if_pos hdwell]
        rfl

end Confirm

section Target

variable {cfg : SelectorConfig} {i : SelectInput} {s : LeadingSelector}

theorem snapbackTarget_spec {snr tsMs : ℚ} {tgt : ℤ} (h : s.snapbackTarget cfg snr tsMs = some tgt) :
    ∃ c, s.confirmed.find? tgt = some c ∧ tsMs ≤ c.untilMs ∧
      c.snr - cfg.snapbackRecoverMarginDb ≤ snr := by
  have hfold : ∀ best, s.snapbackTarget cfg snr tsMs = some best →
      ∃ c, (best, c) ∈ s.confirmed.entries ∧ tsMs ≤ c.untilMs ∧
        c.snr - cfg.snapbackRecoverMarginDb ≤ snr := by
    unfold snapbackTarget
    refine List.foldlRecOn (motive := fun acc => ∀ best, acc = some best → ∃ c,
      (best, c) ∈ s.confirmed.entries ∧ tsMs ≤ c.untilMs ∧
        c.snr - cfg.snapbackRecoverMarginDb ≤ snr) _ _ (fun best hb => by cases hb) ?_
    rintro acc hacc ⟨r, c⟩ hmem best hb
    dsimp only at hb
    split_ifs at hb with hlive hback
    · exact hacc best hb
    · have hr : best = r ∨ acc = some best := by
        cases acc with
        | none => exact .inl (Option.some.inj hb).symm
        | some b =>
          dsimp only at hb
          split_ifs at hb
          · exact .inl (Option.some.inj hb).symm
          · exact .inr hb
      rcases hr with rfl | hr
      · exact ⟨c, hmem, not_lt.mp fun h => hlive (.inl h), hback⟩
      · exact hacc best hr
    · exact hacc best hb
  obtain ⟨c, hmem, hlive, hback⟩ := hfold tgt h
  exact ⟨c, OrdMap.mem_entries.mp hmem, hlive, hback⟩

theorem promote_reasons {why : Reason} (hs : s.reasons = []) (h : why ∈ (promote cfg i s).reasons) :
    ∃ snr, i.snrEwma = some snr ∧ promoteRoute cfg i snr s = some why := by
  unfold promote at h
  cases hsnr : i.snrEwma with
  | none => simp [hsnr, hs] at h
  | some snr =>
    refine ⟨snr, rfl, ?_⟩
    simp only [hsnr] at h
    split_ifs at h
    · simp [hs] at h
    · cases hroute : promoteRoute cfg i snr s with
      | none => simp [hroute, hs] at h
      | some why' =>
        simp only [hroute] at h
        rw [(startTrial_frame cfg i.tsMs _ _).2.2] at h
        rcases commit_cases cfg i.tsMs (s.currentMcs + 1) why' s with hc | ⟨-, hc⟩
        · simp [hc, hs] at h
        · simpa [hc, hs, eq_comm] using h

theorem promoteRoute_snapback {snr : ℚ} {tgt : ℤ}
    (h : promoteRoute cfg i snr s = some (.snapbackPromote tgt)) :
    s.snapbackTarget cfg snr i.tsMs = some tgt ∧ s.currentMcs < tgt ∧ 0 ≤ i.slope.getD 0 ∧
      i.targetBlocked = false := by
  unfold promoteRoute at h
  dsimp only at h
  split_ifs at h with h1 h2 h3 h4 h5
  · obtain ⟨tgt', htgt, heq⟩ := Option.map_eq_some_iff.mp h
    obtain rfl := Reason.snapbackPromote.inj heq
    rw [htgt] at h2
    exact ⟨htgt, by simpa using h2.1, h2.2.1, by simpa using h2.2.2⟩
  · cases h
  · cases h

theorem find?_cleanTick_ne {r : ℤ} (hr : r ≠ s.currentMcs) :
    (cleanTick cfg i s).confirmed.find? r = s.confirmed.find? r := by
  rw [cleanTick_confirmed]
  cases i.snrEwma with
  | none => rfl
  | some snr =>
    dsimp only
    split_ifs
    · rw [confirm, OrdMap.find?_insert, if_neg hr]
    · rfl

theorem select_snapback {tgt : ℤ} (h : .snapbackPromote tgt ∈ (select cfg i s).reasons) :
    ∃ snr, i.snrEwma = some snr ∧ 0 ≤ i.slope.getD 0 ∧ i.targetBlocked = false ∧
      s.currentMcs < tgt ∧
      ∃ c, s.confirmed.find? tgt = some c ∧ i.tsMs ≤ c.untilMs ∧
        c.snr - cfg.snapbackRecoverMarginDb ≤ snr := by
  unfold select at h
  dsimp only at h
  by_cases hem : inEmergency cfg i = true
  · rw [if_pos hem] at h
    cases demote_outcome (s := enter i s) hem rfl rfl with
    | held mcs fail why => simp [why] at h
    | demoted w why reactive hem hcan mcs fail =>
      rw [why, List.mem_singleton] at h
      subst h
      exact reactive.elim
    | promoted snr w why route hem' hsnr mcs hcap rate fail =>
      rw [hem] at hem'
      cases hem'
  · rw [if_neg hem] at h
    obtain ⟨hmcs, -, -, -, hreasons⟩ := cleanTick_frame cfg i (enter i s)
    obtain ⟨snr, hsnr, hroute⟩ := promote_reasons hreasons h
    obtain ⟨htgt, hup, hslope, hopen⟩ := promoteRoute_snapback hroute
    rw [hmcs] at hup
    obtain ⟨c, hc, hlive, hback⟩ := snapbackTarget_spec htgt
    rw [find?_cleanTick_ne hup.ne'] at hc
    exact ⟨snr, hsnr, hslope, hopen, hup, c, hc, hlive, hback⟩

end Target

/-! ## The bar of a rung -/

section Bar

variable {cfg : SelectorConfig}

/-- What is stored for a rung, given its confirmations in order: the maximum over the latest run of
them, live for the time to live after the last. -/
def Held (cfg : SelectorConfig) (log : List Confirmed) : Option Confirmation → Prop
  | none => log = []
  | some c => ∃ run, LatestRun (Confirmed.Renews cfg) log run ∧
      (∀ x ∈ run.getLast?, c.untilMs = x.tsMs + cfg.confirmTtlMs) ∧ ∀ x ∈ run, x.snr ≤ c.snr

/-- **One confirmation** joins the run while the one before it is live, and else starts anew. -/
theorem Held.confirm {log : List Confirmed} {s : LeadingSelector} {snr tsMs : ℚ}
    (h : Held cfg log (s.confirmed.find? s.currentMcs)) :
    Held cfg (log ++ [⟨s.currentMcs, tsMs, snr⟩])
      ((s.confirm cfg snr tsMs).confirmed.find? s.currentMcs) := by
  rw [LeadingSelector.confirm, OrdMap.find?_insert, if_pos rfl]
  cases hprev : s.confirmed.find? s.currentMcs with
  | none =>
    rw [hprev] at h
    obtain rfl : log = [] := h
    refine ⟨[⟨s.currentMcs, tsMs, snr⟩], LatestRun.restart (by simp), by simp, by simp⟩
  | some c =>
    rw [hprev] at h
    obtain ⟨run, hrun, huntil, hmax⟩ := h
    by_cases hfresh : tsMs ≤ c.untilMs
    · refine ⟨run ++ [⟨s.currentMcs, tsMs, snr⟩], hrun.extend fun a ha => ?_, by simp, ?_⟩
      · rw [Confirmed.Renews, ← huntil a ha]
        exact hfresh
      · intro x hx
        simp only [Option.map_some, Option.getD_some, ge_iff_le, hfresh, decide_true, if_true]
        rcases List.mem_append.mp hx with hx | hx
        · exact (hmax x hx).trans (le_max_left _ _)
        · rw [List.mem_singleton.mp hx]
          exact le_max_right _ _
    · refine ⟨[⟨s.currentMcs, tsMs, snr⟩], LatestRun.restart fun a ha => ?_, by simp, ?_⟩
      · rw [hrun.getLast?_eq] at ha
        rw [Confirmed.Renews, ← huntil a ha]
        exact hfresh
      · intro x hx
        rw [List.mem_singleton.mp hx]
        simp [hfresh]

end Bar

end LeadingSelector

namespace Policy

open LeadingSelector (Held)

variable {cfg : PolicyConfig} {sig : Signals} {p : Policy}

def confirms (cfg : PolicyConfig) (p : Policy) : Event → List Confirmed
  | .call (.tick sig) =>
    ((beforeSelect cfg sig p).leading.confirmsAt cfg.selector
      ((beforeSelect cfg sig p).tickInput cfg sig p.rung)).toList.map
        fun snr => ⟨(beforeSelect cfg sig p).rung, sig.tsMs, snr⟩
  | _ => []

def confirmations (cfg : PolicyConfig) (prior : KneeModel) (events : List Event) : List Confirmed :=
  Run.shown (event cfg) (confirms cfg) (boot cfg prior) events

variable (cfg sig p)

theorem stepDown_confirmed :
    (stepDown cfg sig p).confirmed = p.leading.confirmed := by
  unfold stepDown LeadingSelector.externalDemote
  dsimp only
  split_ifs <;> rfl

theorem beforeSelect_confirmed :
    (beforeSelect cfg sig p).leading.confirmed = p.leading.confirmed := by
  obtain ⟨-, ⟨-, hlead⟩ | ⟨-, -, -, -, -, hlead⟩⟩ := beforeSelect_cases cfg sig p
  · rw [hlead]
  · rw [hlead, stepDown_confirmed]

theorem lossEvent_confirmed :
    (p.lossEvent cfg sig).1.leading.confirmed = p.leading.confirmed := by
  have hselect : (p.leading.select cfg.selector (lossInput sig)).confirmed = p.leading.confirmed := by
    have hnone : p.leading.confirmsAt cfg.selector (lossInput sig) = none := if_pos (.inl rfl)
    rw [LeadingSelector.select_confirmed, hnone]
  rcases lossEvent_cases cfg sig p with h | ⟨-, p', rfl, ⟨-, h⟩ | ⟨-, h⟩⟩
  · rw [h]
  · rw [h]
    exact hselect
  · rw [h, teach_leading]
    exact hselect

variable {cfg sig p}

/-- For every rung, what the selector stores is the bar of its confirmations. -/
def Barred (cfg : PolicyConfig) (log : List Confirmed) (p : Policy) : Prop :=
  ∀ r, Held cfg.selector (log.filter (·.rung = r)) (p.leading.confirmed.find? r)

theorem Barred.tick {log : List Confirmed} (h : Barred cfg log p) (sig : Signals) :
    Barred cfg (log ++ confirms cfg p (.call (.tick sig))) (p.tick cfg sig).1 := by
  intro r
  rw [tick_leading, LeadingSelector.select_confirmed]
  dsimp only [confirms]
  cases (beforeSelect cfg sig p).leading.confirmsAt cfg.selector
      ((beforeSelect cfg sig p).tickInput cfg sig p.rung) with
  | none =>
    simp only [Option.toList_none, List.map_nil]
    rw [List.append_nil, beforeSelect_confirmed]
    exact h r
  | some snr =>
    simp only [Option.toList_some, List.map_cons, List.map_nil]
    rw [List.filter_append]
    by_cases hr : (beforeSelect cfg sig p).rung = r
    · subst hr
      rw [List.filter_cons_of_pos (by simp), List.filter_nil]
      refine Held.confirm ?_
      rw [beforeSelect_confirmed]
      exact h _
    · have hmcs : r ≠ (beforeSelect cfg sig p).leading.currentMcs := Ne.symm hr
      rw [List.filter_cons_of_neg (by simpa using hr), List.filter_nil, List.append_nil,
        LeadingSelector.confirm, OrdMap.find?_insert, if_neg hmcs, beforeSelect_confirmed]
      exact h r

theorem events_barred (cfg : PolicyConfig) (prior : KneeModel) (events : List Event)
    (hreset : ∀ e ∈ events, e ≠ .call .resetForNewSession) :
    Barred cfg (confirmations cfg prior events) (events.foldl (event cfg) (boot cfg prior)) := by
  induction events using List.reverseRecOn with
  | nil =>
    intro r
    rfl
  | append_singleton events e ih =>
    have hlast := ih fun e he => hreset e (List.mem_append_left _ he)
    unfold confirmations at hlast ⊢
    rw [Run.shown_concat, List.foldl_append]
    generalize events.foldl (event cfg) (boot cfg prior) = p at hlast ⊢
    generalize Run.shown (event cfg) (confirms cfg) (boot cfg prior) events = log at hlast ⊢
    cases e with
    | bindLearnedPrior prior =>
      have hnone : confirms cfg p (.bindLearnedPrior prior) = [] := rfl
      rw [hnone, List.append_nil]
      exact hlast
    | call c =>
      cases c with
      | tick sig => exact hlast.tick sig
      | lossEvent sig =>
        have hnone : confirms cfg p (.call (.lossEvent sig)) = [] := rfl
        intro r
        show Held cfg.selector _ ((p.lossEvent cfg sig).1.leading.confirmed.find? r)
        rw [hnone, List.append_nil, lossEvent_confirmed]
        exact hlast r
      | resetForNewSession => exact absurd rfl (hreset _ (by simp))

theorem tick_snapback {tgt : ℤ} (h : .snapbackPromote tgt ∈ (p.tick cfg sig).2.reasons) :
    .snapbackPromote tgt ∈ ((beforeSelect cfg sig p).leading.select cfg.selector
      ((beforeSelect cfg sig p).tickInput cfg sig p.rung)).reasons := by
  rw [tick_decision, tick_leading] at h
  rcases List.mem_append.mp h with h | h
  · obtain ⟨-, ⟨hnil, -⟩ | ⟨w, hw, hev, -⟩⟩ := beforeSelect_cases cfg sig p
    · rw [hnil] at h
      cases h
    · rw [hw, List.mem_singleton] at h
      subst h
      cases hev
  · exact h

/-- **The snap-back bar.**  Under any configuration, over any prior and after any ticks, fast-path events
and re-binds: a tick that promotes by the snap-back route has an SNR that clears, up to the margin, all of
the latest chain of confirmations of some rung above, the last one still live; the slope is not negative,
and the knee of the next rung does not block it. -/
theorem snapback_respects_chain (cfg : PolicyConfig) (prior : KneeModel) (events : List Event)
    (hreset : ∀ e ∈ events, e ≠ .call .resetForNewSession) (sig : Signals) (p : Policy)
    (hp : p = events.foldl (event cfg) (boot cfg prior)) (tgt : ℤ)
    (hsnap : .snapbackPromote tgt ∈ (p.tick cfg sig).2.reasons) :
    ∃ snr, sig.snr = some snr ∧
      (∃ r > (beforeSelect cfg sig p).rung, ∃ chain,
        LatestRun (Confirmed.Renews cfg.selector)
          ((confirmations cfg prior events).filter (·.rung = r)) chain ∧
        (∀ c ∈ chain.getLast?, sig.tsMs - c.tsMs ≤ cfg.selector.confirmTtlMs) ∧
        ∀ c ∈ chain, c.snr - cfg.selector.snapbackRecoverMarginDb ≤ snr) ∧
      0 ≤ lsqSlope (advance cfg sig p).snrWindow ∧
      p.learnedPrior.rungUnviable cfg.learnedPrior ((beforeSelect cfg sig p).rung + 1) snr
        (-cfg.selector.snrPromoteMarginDb) = false := by
  obtain ⟨snr, hsnr, hslope, hopen, hup, c, hc, hlive, hback⟩ :=
    LeadingSelector.select_snapback (tick_snapback hsnap)
  have hsig : sig.snr = some snr := hsnr
  have hbooks := (beforeSelect_cases cfg sig p).1
  refine ⟨snr, hsig, ?_, ?_, ?_⟩
  · have hheld := events_barred cfg prior events hreset tgt
    rw [← hp, ← beforeSelect_confirmed cfg sig p, hc] at hheld
    obtain ⟨chain, hchain, huntil, hmax⟩ := hheld
    refine ⟨tgt, hup, chain, hchain, fun x hx => ?_, fun x hx => ?_⟩
    · have hts : sig.tsMs ≤ c.untilMs := hlive
      linarith [huntil x hx]
    · linarith [hmax x hx]
  · unfold tickInput slope at hslope
    rw [hsig, hbooks.snrWindow] at hslope
    exact hslope
  · unfold tickInput at hopen
    rw [hsig, hbooks.learnedPrior] at hopen
    exact hopen

def quickDwell : PolicyConfig where
  selector := { promoteDwellTicks := 1, maxMcs := 2 }

def confirmedTwice : List Event :=
  [(2, 28, 0), (4, 32, 0), (15, 30, 0), (16, 30, 1)].map fun (t, snr, loss) =>
    .call (.tick { timestamp := t, snr := some snr, snrW := some snr, residualLossW := loss })

/-- The next clean window returns to rung 2, at 30 dB against a bar of 32 dB and a margin of 3 dB. -/
theorem snapback_respects_chain_twice :
    let p := confirmedTwice.foldl (event quickDwell) (boot quickDwell {})
    let sig : Signals := { timestamp := 17, snr := some 30, snrW := some 30 }
    .snapbackPromote 2 ∈ (p.tick quickDwell sig).2.reasons ∧
      (confirmations quickDwell {} confirmedTwice).filter (·.rung = 2) =
        [⟨2, 4000, 32⟩, ⟨2, 15000, 30⟩] ∧
      ∃ snr, sig.snr = some snr ∧
        (∃ r > (beforeSelect quickDwell sig p).rung, ∃ chain,
          LatestRun (Confirmed.Renews quickDwell.selector)
            ((confirmations quickDwell {} confirmedTwice).filter (·.rung = r)) chain ∧
          (∀ c ∈ chain.getLast?, sig.tsMs - c.tsMs ≤ quickDwell.selector.confirmTtlMs) ∧
          ∀ c ∈ chain, c.snr - quickDwell.selector.snapbackRecoverMarginDb ≤ snr) ∧
        0 ≤ lsqSlope (advance quickDwell sig p).snrWindow ∧
        p.learnedPrior.rungUnviable quickDwell.learnedPrior
          ((beforeSelect quickDwell sig p).rung + 1) snr
          (-quickDwell.selector.snrPromoteMarginDb) = false := by
  intro p sig
  have hsnap : .snapbackPromote 2 ∈ (p.tick quickDwell sig).2.reasons := by decide +kernel
  refine ⟨hsnap, by decide +kernel, ?_⟩
  refine snapback_respects_chain quickDwell {} confirmedTwice ?_ sig p rfl 2 hsnap
  intro e he
  obtain ⟨w, -, rfl⟩ := List.mem_map.mp he
  simp

end Policy

end Fpvd.Gs
