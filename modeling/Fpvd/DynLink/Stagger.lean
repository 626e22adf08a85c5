import Fpvd.DynLink.Controller

/-!
# Fpvd.DynLink.Stagger — the staggered apply

Raise capacity before the encoder expands; throttle the encoder before capacity narrows.
-/

namespace Fpvd.DynLink

open Run

/-! ## Observations -/

def pushedBitrate (t : List Ev) : Option ℕ := (pushedEnc t).map (·.bitrate)

def pushedMcs (t : List Ev) : Option ℕ := (pushedRadio t).map (·.mcs)

/-- The encoder's bitrate fits the capacity of the video TX. -/
def Within (cfg : DlRuntimeConfig) (t : List Ev) : Prop :=
  ∃ b m, pushedBitrate t = some b ∧ pushedMcs t = some m ∧ b ≤ cap cfg m

def Started (t : List Ev) : Prop := ∃ d, Ev.done d ∈ t

/-- The last event is a command of a watchdog trip that is not completed. -/
def InTrip (t : List Ev) : Prop := ∃ c ok, t.getLast? = some (.cmd .tick c ok)

def Safe (cfg : DlRuntimeConfig) (t : List Ev) : Prop := Started t → ¬ InTrip t → Within cfg t

/-! ## Pushes that all succeed -/

section AllOk

variable (b : Branch) (cfg : DlRuntimeConfig) (d : Decision)

theorem pushedMcs_dispatchTxApply {x : Io TxClients}
    (h : x.st.lastTx.magic = kWireMagic → pushedMcs x.trace = some x.st.lastTx.mcs) :
    pushedMcs (dispatchTxApply allOk b cfg d x).trace = some d.mcs := by
  rw [pushedMcs, pushedRadio_dispatchTxApply]
  split_ifs with hw
  · rfl
  · obtain ⟨hmagic, hmcs, -⟩ := wantsRadio_eq_false hw
    rw [← pushedMcs, h hmagic, hmcs]

/-- The diff cache of the encoder client repeats what was pushed last. -/
def Cached (x : Io EncoderClient) : Prop :=
  x.st.lastValid = true → pushedBitrate x.trace = some x.st.lastBitrate

theorem encIssue_spec (f : EncFields) (roiQp : ℤ) (fps : ℕ) (x : Io EncoderClient) :
    let y := x.issue allOk b (.encSet f) (EncoderClient.latch f.bitrate roiQp fps)
    pushedBitrate y.trace = some f.bitrate ∧ Cached y := by
  have h : pushedBitrate (x.issue allOk b (.encSet f)
      (EncoderClient.latch f.bitrate roiQp fps)).trace = some f.bitrate := by
    simp [Io.issue, pushedBitrate, pushedEnc, Ev.enc?, allOk]
  exact ⟨h, fun _ => h⟩

theorem encApply_spec {x : Io EncoderClient} (hx : Cached x) {r : ℕ} (hr : 0 < r) (fps : ℕ) :
    pushedBitrate (EncoderClient.apply allOk b r fps x).trace = some r ∧
      Cached (EncoderClient.apply allOk b r fps x) := by
  unfold EncoderClient.apply
  rw [if_neg hr.ne']
  dsimp only
  split_ifs with hsame
  · exact ⟨by rw [hx hsame.1, hsame.2.1], hx⟩
  · exact encIssue_spec b ⟨r, _, _⟩ _ fps x

end AllOk

/-! ## Points of a push -/

section Points

variable {cfg : DlRuntimeConfig} {b : Branch} {d : Decision} {t p : List Ev}

theorem started_of_grows {Q : Ev → Prop} (h : Grows Q t p) (hQ : ∀ d, ¬ Q (.done d)) :
    Started p → Started t := by
  obtain ⟨u, rfl, hu⟩ := h
  rintro ⟨d, hd⟩
  rcases List.mem_append.mp hd with hd | hd
  · exact ⟨d, hd⟩
  · exact absurd (hu _ hd) (hQ d)

theorem pushedBitrate_tx (h : Grows (IsTxCmd b cfg d) t p) : pushedBitrate p = pushedBitrate t := by
  rw [pushedBitrate, pushedEnc, h.lastObs_eq IsTxCmd.enc?]
  rfl

theorem pushedMcs_enc {r : ℕ} (h : Grows (IsEncCmd b r) t p) : pushedMcs p = pushedMcs t := by
  rw [pushedMcs, pushedRadio, h.lastObs_eq IsEncCmd.radio?]
  rfl

theorem IsTxCmd.radio?_mcs {w : RadioWord} :
    ∀ e, IsTxCmd b cfg d e → e.radio? = some w → w.mcs = d.mcs
  | .cmd _ (.setRadio _) true, he, rfl => by rw [he.2]; rfl

theorem IsEncCmd.enc?_bitrate {r : ℕ} {f : EncFields} :
    ∀ e, IsEncCmd b r e → e.enc? = some f → f.bitrate = r
  | .cmd _ (.encSet _) true, he, rfl => he.2

theorem pushedMcs_of_grows (h : Grows (IsTxCmd b cfg d) t p) :
    pushedMcs p = pushedMcs t ∨ pushedMcs p = some d.mcs := by
  rcases h.lastObs_cases fun e w => IsTxCmd.radio?_mcs (w := w) e with hp | ⟨w, hw, hp⟩
  · exact .inl (by rw [pushedMcs, pushedRadio, hp]; rfl)
  · exact .inr (by rw [pushedMcs, pushedRadio, hp, ← hw]; rfl)

theorem pushedBitrate_of_grows {r : ℕ} (h : Grows (IsEncCmd b r) t p) :
    pushedBitrate p = pushedBitrate t ∨ pushedBitrate p = some r := by
  rcases h.lastObs_cases fun e f => IsEncCmd.enc?_bitrate (f := f) e with hp | ⟨f, hf, hp⟩
  · exact .inl (by rw [pushedBitrate, pushedEnc, hp]; rfl)
  · exact .inr (by rw [pushedBitrate, pushedEnc, hp, ← hf]; rfl)

theorem safe_tx (ht : Throughout (Safe cfg) t) (h : Grows (IsTxCmd b cfg d) t p)
    (hfit : Started t → ∃ r m, pushedBitrate t = some r ∧ pushedMcs t = some m ∧
      r ≤ cap cfg m ∧ r ≤ cap cfg d.mcs) : Throughout (Safe cfg) p := by
  refine ht.grows h fun q hq hstart _ => ?_
  obtain ⟨r, m, hr, hm, h1, h2⟩ := hfit (started_of_grows hq (fun _ h => h) hstart)
  have hrq : pushedBitrate q = some r := (pushedBitrate_tx hq).trans hr
  rcases pushedMcs_of_grows hq with hmq | hmq
  · exact ⟨r, m, hrq, hmq.trans hm, h1⟩
  · exact ⟨r, d.mcs, hrq, hmq, h2⟩

theorem safe_enc {r : ℕ} (ht : Throughout (Safe cfg) t) (h : Grows (IsEncCmd b r) t p)
    (hfit : Started t → ∃ r' m, pushedBitrate t = some r' ∧ pushedMcs t = some m ∧
      r' ≤ cap cfg m ∧ r ≤ cap cfg m) : Throughout (Safe cfg) p := by
  refine ht.grows h fun q hq hstart _ => ?_
  obtain ⟨r', m, hr, hm, h1, h2⟩ := hfit (started_of_grows hq (fun _ h => h) hstart)
  have hmq : pushedMcs q = some m := (pushedMcs_enc hq).trans hm
  rcases pushedBitrate_of_grows hq with hrq | hrq
  · exact ⟨r', m, hrq.trans hr, hmq, h1⟩
  · exact ⟨r, m, hrq, hmq, h2⟩

theorem safe_trip (ht : Throughout (Safe cfg) t)
    (h : Grows (fun e => ∃ c ok, e = .cmd .tick c ok) t p) : Throughout (Safe cfg) p := by
  refine ht.grows h fun q hq hstart hout => ?_
  obtain ⟨u, rfl, hu⟩ := hq
  rcases List.eq_nil_or_concat u with rfl | ⟨v, e, rfl⟩
  · rw [List.append_nil] at hstart hout ⊢
    exact ht.last hstart hout
  · obtain ⟨c, ok, rfl⟩ := hu e (by simp)
    exact absurd ⟨c, ok, by simp⟩ hout

end Points

/-! ## The invariant -/

/-- What holds of the loop between two branches.  `le` is independent of the apply state, so a
pending phase 2 can be dropped at any moment. -/
structure Inv (cfg : DlRuntimeConfig) (s : Loop) : Prop where
  cfg_eq : s.cfg = cfg
  gapFd : s.gapFd = true
  points : Throughout (Safe cfg) s.trace
  settled : ¬ InTrip s.trace
  cached : Cached ⟨s.enc, s.trace⟩
  baseline : s.tx.lastTx.magic = kWireMagic ↔ s.lastEnc.magic = kWireMagic
  tx : s.lastEnc.magic = kWireMagic → pushedMcs s.trace = some s.tx.lastTx.mcs
  enc : s.lastEnc.magic = kWireMagic → pushedBitrate s.trace = some s.lastEnc.bitrateKbps
  le : s.lastEnc.magic = kWireMagic → s.lastEnc.bitrateKbps ≤ cap cfg s.tx.lastTx.mcs
  /-- Without a baseline the devices are at the failsafe rung, once anything was applied. -/
  fresh : s.lastEnc.magic ≠ kWireMagic → s.applyState = .idle ∧ (Started s.trace →
    pushedBitrate s.trace = some (cap cfg kDlFailsafeMcs) ∧
      pushedMcs s.trace = some kDlFailsafeMcs)
  pending : s.applyState ≠ .idle → s.applyPending.magic = kWireMagic ∧
    s.applyPending.bitrateKbps = cap cfg s.applyPending.mcs
  up : s.applyState = .upGap → s.tx.lastTx.mcs = s.applyPending.mcs
  down : s.applyState = .downGap → s.lastEnc.bitrateKbps = cap cfg s.applyPending.mcs

def Silent : Ev → Prop
  | .cmd _ _ _ | .done _ => False
  | _ => True

def Unseen : Ev → Prop
  | .cmd _ _ _ => False
  | _ => True

section Invariant

variable {cfg : DlRuntimeConfig} {s : Loop} {t : List Ev} {e : Ev}

theorem Silent.unseen : ∀ e, Silent e → Unseen e
  | .accepted _, _ | .armed _, _ | .disarmed, _ | .expired, _ | .phase2 _, _ | .tripped, _
  | .reconciled _ _ _, _ => trivial

theorem Unseen.radio? : ∀ e, Unseen e → e.radio? = none
  | .accepted _, _ | .armed _, _ | .disarmed, _ | .expired, _ | .phase2 _, _ | .tripped, _
  | .reconciled _ _ _, _ | .done _, _ => rfl

theorem Unseen.enc? : ∀ e, Unseen e → e.enc? = none
  | .accepted _, _ | .armed _, _ | .disarmed, _ | .expired, _ | .phase2 _, _ | .tripped, _
  | .reconciled _ _ _, _ | .done _, _ => rfl

theorem pushedMcs_unseen (he : Unseen e) : pushedMcs (t ++ [e]) = pushedMcs t := by
  simp [pushedMcs, pushedRadio, Unseen.radio? e he]

theorem pushedBitrate_unseen (he : Unseen e) : pushedBitrate (t ++ [e]) = pushedBitrate t := by
  simp [pushedBitrate, pushedEnc, Unseen.enc? e he]

theorem not_inTrip_unseen (he : Unseen e) : ¬ InTrip (t ++ [e]) := by
  rintro ⟨c, ok, h⟩
  rw [List.getLast?_concat, Option.some.injEq] at h
  rw [h] at he
  exact he

theorem started_silent (he : Silent e) (h : Started (t ++ [e])) : Started t :=
  started_of_grows (Grows.concat he) (fun _ h => h) h

theorem within_unseen (he : Unseen e) (h : Within cfg t) : Within cfg (t ++ [e]) := by
  rwa [Within, pushedBitrate_unseen he, pushedMcs_unseen he]

theorem Inv.ready (h : Inv cfg s) (hs : Started s.trace) : Within cfg s.trace :=
  h.points.last hs h.settled

theorem Inv.fits (h : Inv cfg s) {r : ℕ}
    (hv : s.lastEnc.magic = kWireMagic → s.lastEnc.bitrateKbps ≤ r)
    (hf : cap cfg kDlFailsafeMcs ≤ r) (hs : Started s.trace) :
    ∃ r' m, pushedBitrate s.trace = some r' ∧ pushedMcs s.trace = some m ∧
      r' ≤ cap cfg m ∧ r' ≤ r := by
  by_cases hm : s.lastEnc.magic = kWireMagic
  · exact ⟨_, _, h.enc hm, h.tx hm, h.le hm, hv hm⟩
  · obtain ⟨h1, h2⟩ := (h.fresh hm).2 hs
    exact ⟨_, _, h1, h2, le_rfl, hf⟩

theorem Inv.emit (h : Inv cfg s) (he : Silent e) : Inv cfg (s.emit e) where
  cfg_eq := h.cfg_eq
  gapFd := h.gapFd
  points := (throughout_concat _ _).mpr ⟨h.points, fun hs _ =>
    within_unseen (Silent.unseen e he) (h.ready (started_silent he hs))⟩
  settled := not_inTrip_unseen (Silent.unseen e he)
  cached hv := (pushedBitrate_unseen (Silent.unseen e he)).trans (h.cached hv)
  baseline := h.baseline
  tx hv := (pushedMcs_unseen (Silent.unseen e he)).trans (h.tx hv)
  enc hv := (pushedBitrate_unseen (Silent.unseen e he)).trans (h.enc hv)
  le := h.le
  fresh hv := ⟨(h.fresh hv).1, fun hs => by
    obtain ⟨hb, hm⟩ := (h.fresh hv).2 (started_silent he hs)
    exact ⟨(pushedBitrate_unseen (Silent.unseen e he)).trans hb,
      (pushedMcs_unseen (Silent.unseen e he)).trans hm⟩⟩
  pending := h.pending
  up := h.up
  down := h.down

theorem Inv.of_baselines (he : Unseen e) (htrace : s.trace = t ++ [e]) (hcfg : s.cfg = cfg)
    (hfd : s.gapFd = true) (hp : Throughout (Safe cfg) t) (hcache : Cached ⟨s.enc, t⟩)
    (htx : s.tx.lastTx.magic = kWireMagic) (hlast : s.lastEnc.magic = kWireMagic)
    (hm : pushedMcs t = some s.tx.lastTx.mcs) (hb : pushedBitrate t = some s.lastEnc.bitrateKbps)
    (hle : s.lastEnc.bitrateKbps ≤ cap cfg s.tx.lastTx.mcs)
    (hpending : s.applyState ≠ .idle → s.applyPending.magic = kWireMagic ∧
      s.applyPending.bitrateKbps = cap cfg s.applyPending.mcs)
    (hup : s.applyState = .upGap → s.tx.lastTx.mcs = s.applyPending.mcs)
    (hdown : s.applyState = .downGap → s.lastEnc.bitrateKbps = cap cfg s.applyPending.mcs) :
    Inv cfg s where
  cfg_eq := hcfg
  gapFd := hfd
  points := by
    rw [htrace, throughout_concat]
    exact ⟨hp, fun _ _ => within_unseen he ⟨_, _, hb, hm, hle⟩⟩
  settled := htrace ▸ not_inTrip_unseen he
  cached hv := by
    rw [htrace, pushedBitrate_unseen he]
    exact hcache hv
  baseline := iff_of_true htx hlast
  tx _ := by rw [htrace, pushedMcs_unseen he, hm]
  enc _ := by rw [htrace, pushedBitrate_unseen he, hb]
  le _ := hle
  fresh hn := absurd hlast hn
  pending := hpending
  up := hup
  down := hdown

theorem Inv.frame (h : Inv cfg s) (g : GapTimer) (w : Watchdog) (f : Dedup) (ms : ℕ) (st : DlStatus)
    (stop : Bool) :
    Inv cfg { s with
      timer := g, watchdog := w, dedup := f, lastDecisionMs := ms, status := st, stopped := stop } :=
  ⟨h.cfg_eq, h.gapFd, h.points, h.settled, h.cached, h.baseline, h.tx, h.enc, h.le, h.fresh,
    h.pending, h.up, h.down⟩

theorem Inv.setTimer (h : Inv cfg s) (g : GapTimer) : Inv cfg { s with timer := g } :=
  h.frame g s.watchdog s.dedup s.lastDecisionMs s.status s.stopped

theorem Inv.expire (h : Inv cfg s) (now : Bool) : Inv cfg (s.expire now) := by
  unfold Loop.expire
  split_ifs
  · exact (h.emit (e := .expired) trivial).setTimer _
  · exact h

theorem Inv.toIdle (h : Inv cfg s) : Inv cfg { s with applyState := .idle } :=
  ⟨h.cfg_eq, h.gapFd, h.points, h.settled, h.cached, h.baseline, h.tx, h.enc, h.le,
    fun hv => ⟨rfl, (h.fresh hv).2⟩, fun hne => absurd rfl hne, nofun, nofun⟩

theorem Inv.dropPending (h : Inv cfg s) : Inv cfg s.dropPending := by
  unfold Loop.dropPending
  split_ifs
  · exact h
  · exact ((h.emit (e := .disarmed) trivial).setTimer {}).toIdle
  · exact h.toIdle

/-! ## Phases -/

structure Derived (cfg : DlRuntimeConfig) (d : Decision) : Prop where
  magic : d.magic = kWireMagic
  bitrate : d.bitrateKbps = cap cfg d.mcs
  mcs_le : d.mcs ≤ 7

theorem derive_derived {w : Decision} (hm : w.magic = kWireMagic) (hw : w.mcs ≤ 7) :
    Derived cfg (Loop.derive cfg w) := by
  constructor <;> simp [Loop.derive, hm, hw]

theorem Inv.txPhase (h : Inv cfg s) {d : Decision} (b : Branch)
    (hfit : Started s.trace → ∃ r m, pushedBitrate s.trace = some r ∧
      pushedMcs s.trace = some m ∧ r ≤ cap cfg m ∧ r ≤ cap cfg d.mcs) :
    let s' := s.onTx (dispatchTxApply allOk b cfg d)
    Throughout (Safe cfg) s'.trace ∧ Cached ⟨s'.enc, s'.trace⟩ ∧
      pushedMcs s'.trace = some d.mcs ∧ pushedBitrate s'.trace = pushedBitrate s.trace ∧
      (Started s'.trace → Started s.trace) := by
  have hg := dispatchTxApply_grows allOk b cfg d ⟨s.tx, s.trace⟩
  have hb := pushedBitrate_tx hg
  refine ⟨safe_tx h.points hg hfit, fun hv => hb.trans (h.cached hv), ?_, hb,
    started_of_grows hg fun _ h => h⟩
  exact pushedMcs_dispatchTxApply b cfg d fun hv => h.tx (h.baseline.mp hv)

theorem encPhase {x : Io EncoderClient} {r m : ℕ} (b : Branch) (fps : ℕ)
    (hp : Throughout (Safe cfg) x.trace) (hx : Cached x) (hr : 0 < r)
    (hm : pushedMcs x.trace = some m) (hle : r ≤ cap cfg m)
    (hfit : Started x.trace → ∃ r', pushedBitrate x.trace = some r' ∧ r' ≤ cap cfg m) :
    let y := EncoderClient.apply allOk b r fps x
    Throughout (Safe cfg) y.trace ∧ Cached y ∧ pushedMcs y.trace = some m ∧
      pushedBitrate y.trace = some r := by
  have hg := encApply_grows allOk b r fps x
  obtain ⟨hb, hcache⟩ := encApply_spec b hx hr fps
  refine ⟨safe_enc hp hg fun hs => ?_, hcache, (pushedMcs_enc hg).trans hm, hb⟩
  obtain ⟨r', hr', hle'⟩ := hfit hs
  exact ⟨r', m, hr', hm, hle', hle⟩

end Invariant

/-! ## Branches -/

section Branches

variable {cfg : DlRuntimeConfig} {s : Loop} {d : Decision}

theorem Loop.canStagger_of_inv (h : Inv cfg s) (hst : cfg.applyStaggerMs ≠ 0) :
    s.canStagger = true := by
  simp [Loop.canStagger, h.cfg_eq, h.gapFd, hst]

theorem direction_spec (d : Decision) (s : Loop) :
    match s.direction d with
    | .equal => s.lastEnc.magic = kWireMagic → s.lastEnc.bitrateKbps = d.bitrateKbps
    | .up => s.lastEnc.magic = kWireMagic ∧ s.lastEnc.bitrateKbps < d.bitrateKbps
    | .down => s.lastEnc.magic = kWireMagic ∧ d.bitrateKbps < s.lastEnc.bitrateKbps := by
  unfold Loop.direction applyDirection
  split_ifs with h1 h2 h3
  · exact fun h => absurd h (by simpa using h1)
  · exact ⟨by simpa using h1, h2⟩
  · exact ⟨by simpa using h1, h3⟩
  · exact fun _ => by omega

theorem Inv.singleShot (hc : Sound cfg) (h : Inv cfg s) (hd : Derived cfg d)
    (hidle : s.applyState = .idle)
    (heq : s.lastEnc.magic = kWireMagic → s.lastEnc.bitrateKbps = d.bitrateKbps) :
    Inv cfg (s.singleShot allOk d) := by
  unfold Loop.singleShot
  rw [h.cfg_eq]
  have hfit := h.fits (r := cap cfg d.mcs) (fun hv => by rw [heq hv, hd.bitrate])
    (cap_mono hc (Nat.zero_le _) hd.mcs_le)
  obtain ⟨hp, hcache, hm, hb, hst⟩ := h.txPhase .decision hfit
  have hr : 0 < d.bitrateKbps := hd.bitrate ▸ cap_pos hc d.mcs
  obtain ⟨hp', hcache', hm', hb'⟩ := encPhase .decision d.fps hp hcache hr hm hd.bitrate.le fun hs => by
    obtain ⟨r, m, h1, -, -, h4⟩ := hfit (hst hs)
    exact ⟨r, hb.trans h1, h4⟩
  have hbusy : ∀ st, st ≠ ApplyState.idle → s.applyState ≠ st := fun st hst => hidle ▸ hst.symm
  exact .of_baselines (e := .done d) trivial rfl h.cfg_eq h.gapFd hp' hcache' hd.magic hd.magic hm' hb'
    hd.bitrate.le (fun hn => absurd hidle hn) (fun hu => absurd hu (hbusy _ (by decide)))
    fun hu => absurd hu (hbusy _ (by decide))

theorem Inv.raiseTx (h : Inv cfg s) (hd : Derived cfg d) (hv : s.lastEnc.magic = kWireMagic)
    (hlt : s.lastEnc.bitrateKbps < d.bitrateKbps) :
    Inv cfg (s.raiseTx allOk d) := by
  unfold Loop.raiseTx
  rw [h.cfg_eq]
  have hle : s.lastEnc.bitrateKbps ≤ cap cfg d.mcs := hd.bitrate ▸ hlt.le
  obtain ⟨hp, hcache, hm, hb, -⟩ :=
    h.txPhase .decision fun _ => ⟨_, _, h.enc hv, h.tx hv, h.le hv, hle⟩
  exact .of_baselines (e := .armed d) trivial rfl h.cfg_eq h.gapFd hp hcache hd.magic hv hm
    (hb.trans (h.enc hv)) hle (fun _ => ⟨hd.magic, hd.bitrate⟩) (fun _ => rfl) nofun

theorem Inv.throttleEnc (hc : Sound cfg) (h : Inv cfg s) (hd : Derived cfg d)
    (hv : s.lastEnc.magic = kWireMagic) (hlt : d.bitrateKbps < s.lastEnc.bitrateKbps) :
    Inv cfg (s.throttleEnc allOk d) := by
  have hle : d.bitrateKbps ≤ cap cfg s.tx.lastTx.mcs := hlt.le.trans (h.le hv)
  have hr : 0 < d.bitrateKbps := hd.bitrate ▸ cap_pos hc d.mcs
  obtain ⟨hp, hcache, hm, hb⟩ := encPhase .decision d.fps h.points h.cached hr (h.tx hv) hle
    fun _ => ⟨_, h.enc hv, h.le hv⟩
  exact .of_baselines (e := .armed d) trivial rfl h.cfg_eq h.gapFd hp hcache (h.baseline.mpr hv) hd.magic
    hm hb hle (fun _ => ⟨hd.magic, hd.bitrate⟩) nofun fun _ => hd.bitrate

theorem Inv.applyDecision (hc : Sound cfg) (hst : cfg.applyStaggerMs ≠ 0) (h : Inv cfg s)
    (hd : Derived cfg d) (hidle : s.applyState = .idle) : Inv cfg (s.applyDecision allOk d) := by
  have hdir := direction_spec d s
  unfold Loop.applyDecision
  rw [if_pos (Loop.canStagger_of_inv h hst)]
  cases hdd : s.direction d with
  | equal => rw [hdd] at hdir; exact h.singleShot hc hd hidle hdir
  | up => rw [hdd] at hdir; exact h.raiseTx hd hdir.1 hdir.2
  | down => rw [hdd] at hdir; exact h.throttleEnc hc hd hdir.1 hdir.2

theorem Inv.pending_baseline (h : Inv cfg s) (hne : s.applyState ≠ .idle) :
    s.lastEnc.magic = kWireMagic := by
  by_contra hn
  exact hne (h.fresh hn).1

theorem Inv.expandEnc (hc : Sound cfg) (h₀ : Inv cfg s) (hs : s.applyState = .upGap) :
    Inv cfg (s.expandEnc allOk) := by
  have h := h₀.emit (e := .phase2 s.applyPending) trivial
  have hne : s.applyState ≠ .idle := by rw [hs]; decide
  obtain ⟨hmagic, hbit⟩ := h₀.pending hne
  have hv := h₀.pending_baseline hne
  have hle : s.applyPending.bitrateKbps ≤ cap cfg s.tx.lastTx.mcs := by rw [h₀.up hs, hbit]
  have hr : 0 < s.applyPending.bitrateKbps := hbit ▸ cap_pos hc _
  obtain ⟨hp, hcache, hm, hb⟩ := encPhase .gap s.applyPending.fps h.points h.cached hr (h.tx hv) hle
    fun _ => ⟨_, h.enc hv, h.le hv⟩
  exact .of_baselines (e := .done s.applyPending) trivial rfl h.cfg_eq h.gapFd hp hcache
    (h.baseline.mpr hv) hmagic hm hb hle (fun hn => absurd rfl hn) nofun nofun

theorem Inv.narrowTx (h₀ : Inv cfg s) (hs : s.applyState = .downGap) :
    Inv cfg (s.narrowTx allOk) := by
  unfold Loop.narrowTx
  rw [h₀.cfg_eq]
  have h := h₀.emit (e := .phase2 s.applyPending) trivial
  have hne : s.applyState ≠ .idle := by rw [hs]; decide
  have hv := h₀.pending_baseline hne
  have hle : s.lastEnc.bitrateKbps ≤ cap cfg s.applyPending.mcs := (h.down hs).le
  obtain ⟨hp, hcache, hm, hb, -⟩ :=
    h.txPhase .gap fun _ => ⟨_, _, h.enc hv, h.tx hv, h.le hv, hle⟩
  exact .of_baselines (e := .done s.applyPending) trivial rfl h.cfg_eq h.gapFd hp hcache
    (h.pending hne).1 hv hm (hb.trans (h.enc hv)) hle (fun hn => absurd rfl hn) nofun nofun

theorem Inv.gapBranch (hc : Sound cfg) (h : Inv cfg s) (ready : Bool) :
    Inv cfg (s.gapBranch allOk ready) := by
  unfold Loop.gapBranch
  split_ifs
  · have h' := h.setTimer { s.timer with expired := false }
    dsimp only
    split
    · exact h'
    · next hs => exact h'.expandEnc hc hs
    · next hs => exact h'.narrowTx hs
  · exact h

theorem pushedMcs_dispatchTxSafe (x : Io TxClients) :
    pushedMcs (dispatchTxSafe allOk .tick cfg x).trace = some kDlFailsafeMcs := by
  have hside := (dispatchTxSafe_side allOk .tick cfg x).lastObs_eq IsSideCmd.radio?
  have hlast : lastObs Ev.radio? (safePushed allOk .tick cfg x).trace =
      some (radioWord cfg (safeDecision cfg).bandwidth (safeDecision cfg).mcs) := lastObs_concat _ _ _
  rw [pushedMcs, pushedRadio, hside, hlast]
  simp [radioWord, safeDecision]

theorem Inv.trip (h₀ : Inv cfg s) : Inv cfg (s.trip allOk) := by
  have h := h₀.dropPending
  unfold Loop.trip
  dsimp only
  rw [h.cfg_eq]
  have hcfg : (s.dropPending.onTx (dispatchTxSafe allOk .tick cfg)).cfg = cfg := h.cfg_eq
  rw [hcfg]
  set t := s.dropPending.trace
  set r := (safeDecision cfg).bitrateKbps
  have hr : r = cap cfg kDlFailsafeMcs := by simp [r, safeDecision]
  have hg1 := dispatchTxSafe_grows allOk .tick cfg ⟨s.dropPending.tx, t⟩
  set x := dispatchTxSafe allOk .tick cfg ⟨s.dropPending.tx, t⟩
  have hg2 := encApplySafe_grows allOk .tick r ⟨s.dropPending.enc, x.trace⟩
  obtain ⟨hb, hcache⟩ := encIssue_spec .tick ⟨r, s.dropPending.enc.roiQpFor r, none⟩
    (s.dropPending.enc.roiQpFor r) 0 ⟨s.dropPending.enc, x.trace⟩
  have hm := (pushedMcs_enc hg2).trans (pushedMcs_dispatchTxSafe ⟨s.dropPending.tx, t⟩)
  have hp := safe_trip (safe_trip h.points (hg1.mono IsTxCmd.isCmd)) (hg2.mono IsEncCmd.isCmd)
  have he : Unseen .tripped := trivial
  have hidle := (Loop.dropPending_frame s).1
  refine ⟨h.cfg_eq, h.gapFd, (throughout_concat _ _).mpr ⟨hp, fun _ _ => within_unseen he ?_⟩,
    not_inTrip_unseen he, fun hl => ?_, Iff.rfl, fun hv => absurd hv magic_default,
    fun hv => absurd hv magic_default, fun hv => absurd hv magic_default,
    fun _ => ⟨hidle, fun _ => ⟨?_, ?_⟩⟩, fun hn => absurd hidle hn, fun hu => ?_, fun hu => ?_⟩
  · exact ⟨_, _, hb, hm, hr.le⟩
  · exact (pushedBitrate_unseen he).trans (hcache hl)
  · exact ((pushedBitrate_unseen he).trans hb).trans (congrArg some hr)
  · exact (pushedMcs_unseen he).trans hm
  · exact absurd (hidle.symm.trans hu) (by decide)
  · exact absurd (hidle.symm.trans hu) (by decide)

theorem Inv.tickBranch (h : Inv cfg s) : ∀ tick, Inv cfg (s.tickBranch allOk tick)
  | none => h
  | some now => by
    have h1 : Inv cfg { s with watchdog := s.watchdog.tick now } :=
      h.frame s.timer _ s.dedup s.lastDecisionMs s.status s.stopped
    have h2 : Inv cfg (if s.watchdog.fires now then
        Loop.trip allOk { s with watchdog := s.watchdog.tick now }
        else { s with watchdog := s.watchdog.tick now }) := by
      split_ifs
      · exact h1.trip
      · exact h1
    unfold Loop.tickBranch
    dsimp only
    split_ifs at h2 ⊢
    all_goals first | exact h2 | exact h2.frame _ _ _ _ _ _

theorem accepts_spec {bytes : List UInt8} (ha : s.accepts bytes = some d) :
    decodeDecision (bytes.take 256) = .ok d := by
  unfold Loop.accepts at ha
  dsimp only at ha
  split_ifs at ha
  split at ha
  · next d' hd' =>
    split_ifs at ha
    cases ha
    exact hd'
  · cases ha

theorem Inv.acceptDecision (hc : Sound cfg) (hst : cfg.applyStaggerMs ≠ 0) (h : Inv cfg s)
    (hm : d.magic = kWireMagic) (hd : d.mcs ≤ 7) (now : ℕ) :
    Inv cfg (s.acceptDecision allOk now d) := by
  have h1 := h.dropPending
  unfold Loop.acceptDecision
  dsimp only
  rw [h1.cfg_eq]
  have h2 := h1.emit (e := .accepted (Loop.derive cfg d)) trivial
  exact (h2.applyDecision hc hst (derive_derived hm hd) (Loop.dropPending_frame s).1).frame _ _ _ _ _ _

def McsInTable : Option (List UInt8 × ℕ) → Prop
  | none => True
  | some (bytes, _) => ∀ d, decodeDecision (bytes.take 256) = .ok d → d.mcs ≤ 7

theorem Inv.listenBranch (hc : Sound cfg) (hst : cfg.applyStaggerMs ≠ 0) (h : Inv cfg s) :
    ∀ msg, McsInTable msg → Inv cfg (s.listenBranch allOk msg)
  | none, _ => h
  | some (bytes, now), hmcs => by
    unfold Loop.listenBranch
    dsimp only
    split
    · exact h
    · next d ha =>
      have hdec := accepts_spec ha
      have h1 := h.frame s.timer s.watchdog (s.dedup.check d.sequence) s.lastDecisionMs s.status
        s.stopped
      exact h1.acceptDecision hc hst (decodeDecision_magic hdec) (hmcs d hdec) now

/-- The inputs considered: no reconfiguration, and every MCS is in the rate table. -/
structure Quiet (r : Round) : Prop where
  event : ∀ snap, r.event ≠ some (.config snap)
  mcs : McsInTable r.listen

theorem Inv.round (hc : Sound cfg) (hst : cfg.applyStaggerMs ≠ 0) (h : Inv cfg s) {r : Round}
    (hr : Quiet r) : Inv cfg (round allOk s r) := by
  unfold DynLink.round
  split_ifs
  · exact h
  have h1 := h.expire r.expirePoll
  have h2 : Inv cfg ((s.expire r.expirePoll).eventBranch allOk r.event) := by
    match he : r.event with
    | none => exact h1
    | some .stop => exact h1.frame _ _ _ _ _ _
    | some (.config snap) => exact absurd he (hr.event snap)
  dsimp only
  split_ifs
  · exact h2
  · have h3 := (h2.expire r.expireListen).listenBranch hc hst r.listen hr.mcs
    have h4 := (h3.expire r.expireTick).tickBranch r.tick
    exact (h4.expire r.expireGap).gapBranch hc _

theorem Inv.start (cfg : DlRuntimeConfig) : Inv cfg (Loop.start cfg true) where
  cfg_eq := rfl
  gapFd := rfl
  points := throughout_nil.mpr fun ⟨_, hd⟩ => absurd hd List.not_mem_nil
  settled := fun ⟨_, _, h⟩ => absurd h (by simp [Loop.start])
  cached := nofun
  baseline := Iff.rfl
  tx hv := absurd hv magic_default
  enc hv := absurd hv magic_default
  le hv := absurd hv magic_default
  fresh _ := ⟨rfl, fun ⟨_, hd⟩ => absurd hd List.not_mem_nil⟩
  pending hn := absurd rfl hn
  up := nofun
  down := nofun

theorem Inv.run (hc : Sound cfg) (hst : cfg.applyStaggerMs ≠ 0) :
    ∀ (rs : List Round) (s : Loop), Inv cfg s → (∀ r ∈ rs, Quiet r) → Inv cfg (run allOk s rs)
  | [], _, h, _ => h
  | r :: rs, _, h, hrs =>
    Inv.run hc hst rs _ (h.round hc hst (hrs r List.mem_cons_self))
      fun r' hr' => hrs r' (List.mem_cons_of_mem _ hr')

end Branches

/-! ## Throttle before narrow, raise before expand -/

theorem applyStaggerMs_ne_zero {c : Config} (hv : validate c = [])
    (hs : 0 < c.dynamicLink.applyStaggerMs) (iface : String) :
    (buildDlSnapshot c iface).applyStaggerMs ≠ 0 := by
  have hle := (validateDynamicLink_stagger (validate_dynamicLink hv)).2
  show u32 c.dynamicLink.applyStaggerMs ≠ 0
  unfold u32
  omega

/-- **Throttle before narrow, raise before expand.**  In every run of the loop over accepted
decisions, gap expiries and watchdog ticks, in any order and overlap, with every command succeeding:
at each point after the first decision is done, except half-way through a watchdog trip, the bitrate
pushed last is at most the capacity of the MCS pushed last. -/
theorem throttle_before_narrow (c : Config) (iface : String) (hv : validate c = [])
    (hw : c.link.width = 10 ∨ c.link.width = 20) (hs : 0 < c.dynamicLink.applyStaggerMs)
    (rs : List Round) (hrs : ∀ r ∈ rs, Quiet r) :
    Throughout (Safe (buildDlSnapshot c iface))
      (run allOk (Loop.start (buildDlSnapshot c iface) true) rs).trace :=
  (Inv.run (buildDlSnapshot_sound hv hw iface) (applyStaggerMs_ne_zero hv hs iface) rs _
    (Inv.start _) hrs).points

theorem mcsInTable_of_decode {bytes : List UInt8} {now : ℕ} {d : Decision}
    (h : decodeDecision (bytes.take 256) = .ok d) (hd : d.mcs ≤ 7) :
    McsInTable (some (bytes, now)) := by
  intro d' hd'
  rw [h, DecodeResult.ok.injEq] at hd'
  exact hd' ▸ hd

theorem Quiet.of_mcs {r : Round} (he : r.event = none) (hm : McsInTable r.listen) : Quiet r :=
  ⟨fun _ h => (nomatch he.symm.trans h), hm⟩

def sampleRun : List Round :=
  [Round.frame 1 2 1000, Round.frame 2 5 1100, { expirePoll := true }, Round.frame 3 1 1200,
    { tick := some 20000, expireTick := true }]

theorem throttle_before_narrow_sample :
    Started (run allOk (Loop.start (buildDlSnapshot {} "wlan0") true) sampleRun).trace ∧
      Throughout (Safe (buildDlSnapshot {} "wlan0"))
        (run allOk (Loop.start (buildDlSnapshot {} "wlan0") true) sampleRun).trace := by
  refine ⟨?_, throttle_before_narrow {} "wlan0" (by decide +kernel) (by decide) (by decide) _ ?_⟩
  · have h : (run allOk (Loop.start (buildDlSnapshot {} "wlan0") true) sampleRun).trace.any
        (fun e => match e with | .done _ => true | _ => false) = true := by decide +kernel
    obtain ⟨e, he, hdone⟩ := List.any_eq_true.mp h
    match e, hdone with
    | .done d, _ => exact ⟨d, he⟩
  · intro r hr
    simp only [sampleRun, List.mem_cons, List.not_mem_nil, or_false] at hr
    rcases hr with rfl | rfl | rfl | rfl | rfl
    · exact .of_mcs rfl (mcsInTable_of_decode
        (d := { magic := kWireMagic, version := 3, sequence := 1, mcs := 2 })
        (by decide +kernel) (by decide))
    · exact .of_mcs rfl (mcsInTable_of_decode
        (d := { magic := kWireMagic, version := 3, sequence := 2, mcs := 5 })
        (by decide +kernel) (by decide))
    · exact .of_mcs rfl trivial
    · exact .of_mcs rfl (mcsInTable_of_decode
        (d := { magic := kWireMagic, version := 3, sequence := 3, mcs := 1 })
        (by decide +kernel) (by decide))
    · exact .of_mcs rfl trivial

end Fpvd.DynLink
