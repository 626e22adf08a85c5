import Fpvd.DynLink.Gap
import Fpvd.DynLink.Stagger

/-!
# Fpvd.DynLink.EncCache — the diff cache of the encoder client

With every command succeeding, the cache holds the bitrate that the client pushed last, and a decision
is completed only when the cache holds its bitrate.  Whether the encoder holds it, too, depends on
whether something else wrote to the encoder since.
-/

namespace Fpvd.DynLink

open Run

def EncoderClient.cached (e : EncoderClient) : Option ℕ :=
  if e.lastValid then some e.lastBitrate else none

def EncoderClient.suppresses (bitrateKbps fps : ℕ) (e : EncoderClient) : Bool :=
  e.lastValid && e.lastBitrate = bitrateKbps && e.lastRoiQp = e.roiQpFor bitrateKbps &&
    e.lastFps = fps

/-- Does the branch complete a decision without a push to the encoder?  Phase 2 of a downward decision
never pushes: the encoder was throttled in phase 1. -/
def Loop.quiet (s : Loop) : Input → Bool
  | .listen (some (bytes, _)) =>
    match s.accepts bytes with
    | none => false
    | some wire =>
      let d := derive s.cfg wire
      (!s.canStagger || s.direction d = .equal) && s.enc.suppresses d.bitrateKbps d.fps
  | .gap true =>
    match s.applyState with
    | .idle => false
    | .upGap => s.enc.suppresses s.applyPending.bitrateKbps s.applyPending.fps
    | .downGap => true
  | _ => false

/-! ## Events without a completed decision -/

def NotDone (e : Ev) : Prop := ∀ d, e ≠ .done d

/-- The event completes no decision and pushes nothing to the encoder. -/
def Passive (e : Ev) : Prop := e.enc? = none ∧ NotDone e

theorem IsTxCmd.passive {b : Branch} {cfg : DlRuntimeConfig} {d : Decision} (e : Ev)
    (he : IsTxCmd b cfg d e) : Passive e := by
  refine ⟨IsTxCmd.enc? e he, fun d' => ?_⟩
  obtain ⟨c, ok, rfl⟩ := IsTxCmd.isCmd e he
  nofun

theorem Silent.passive (e : Ev) (he : Silent e) : Passive e := by
  refine ⟨Unseen.enc? e (Silent.unseen e he), fun d => ?_⟩
  rintro rfl
  exact he

theorem pushedBitrate_append (t u : List Ev) :
    pushedBitrate (t ++ u) = (pushedBitrate u).or (pushedBitrate t) := by
  rw [pushedBitrate, pushedEnc, lastObs_append, Option.map_or]
  rfl

theorem pushedBitrate_passive {t : List Ev} (h : ∀ e ∈ t, Passive e) : pushedBitrate t = none := by
  have hobs := lastObs_append_of_none Ev.enc? (t := []) fun e he => (h e he).1
  rw [List.nil_append] at hobs
  rw [pushedBitrate, pushedEnc, hobs]
  rfl

/-- The loop goes from `s` to `s'` with the events `t`, completing no decision; the cache holds what was
pushed last. -/
structure Extends (t : List Ev) (s s' : Loop) : Prop where
  trace : s'.trace = s.trace ++ t
  notDone : ∀ e ∈ t, NotDone e
  cached : s'.enc.cached = (pushedBitrate t).or s.enc.cached

section Extends

variable {s s' s'' : Loop} {t u : List Ev}

theorem Extends.trans (h : Extends t s s') (h' : Extends u s' s'') : Extends (t ++ u) s s'' where
  trace := by rw [h'.trace, h.trace, List.append_assoc]
  notDone e he := by
    rcases List.mem_append.mp he with he | he
    · exact h.notDone e he
    · exact h'.notDone e he
  cached := by rw [h'.cached, h.cached, pushedBitrate_append, Option.or_assoc]

theorem Extends.of_grows {Q : Ev → Prop} (h : Grows Q s.trace s'.trace) (hQ : ∀ e, Q e → Passive e)
    (henc : s'.enc.cached = s.enc.cached) : ∃ t, Extends t s s' ∧ pushedBitrate t = none := by
  obtain ⟨t, ht, hall⟩ := h
  have hnone := pushedBitrate_passive fun e he => hQ e (hall e he)
  refine ⟨t, ⟨ht, fun e he => (hQ e (hall e he)).2, ?_⟩, hnone⟩
  rw [hnone, Option.none_or, henc]

theorem Extends.silent {e : Ev} (he : Silent e) (ht : s'.trace = s.trace ++ [e])
    (henc : s'.enc.cached = s.enc.cached) : Extends [e] s s' := by
  have hp := Silent.passive e he
  refine ⟨ht, by simpa using hp.2, ?_⟩
  rw [henc, pushedBitrate_passive (by simpa using hp), Option.none_or]

theorem Extends.snoc {e : Ev} (h : Extends t s s') (he : Silent e) (ht : s''.trace = s'.trace ++ [e])
    (henc : s''.enc.cached = s'.enc.cached) : Extends (t ++ [e]) s s'' :=
  h.trans (.silent he ht henc)

theorem Extends.setLastEnc (h : Extends t s s') (d : Decision) :
    Extends t s { s' with lastEnc := d } :=
  ⟨h.trace, h.notDone, h.cached⟩

theorem Extends.of_eq (ht : s'.trace = s.trace) (henc : s'.enc.cached = s.enc.cached) :
    Extends [] s s' :=
  ⟨by simpa using ht, by simp, henc⟩

theorem extends_dispatch (b : Branch) (cfg : DlRuntimeConfig) (d : Decision) (s : Loop) :
    ∃ t, Extends t s (s.onTx (dispatchTxApply allOk b cfg d)) ∧ pushedBitrate t = none :=
  Extends.of_grows (dispatchTxApply_grows allOk b cfg d ⟨s.tx, s.trace⟩) IsTxCmd.passive rfl

theorem extends_push (b : Branch) (r : ℕ) (roiQp : ℤ) (fps : ℕ) (f : Option ℕ) (s : Loop) :
    Extends [.cmd b (.encSet ⟨r, roiQp, f⟩) true] s
      (s.onEnc fun x => x.issue allOk b (.encSet ⟨r, roiQp, f⟩) (EncoderClient.latch r roiQp fps)) :=
  ⟨rfl, by simp [NotDone], rfl⟩

theorem extends_setRadio (b : Branch) (w : RadioWord) (s : Loop) :
    Extends [.cmd b (.setRadio w) true] s (s.onTx fun x => x.issue allOk b (.setRadio w) id) :=
  ⟨rfl, by simp [NotDone], rfl⟩

theorem extends_encode (b : Branch) {r : ℕ} (hr : 0 < r) (fps : ℕ) (s : Loop) :
    ∃ t, Extends t s (s.onEnc (EncoderClient.apply allOk b r fps)) ∧
      (s.onEnc (EncoderClient.apply allOk b r fps)).enc.cached = some r ∧
      (pushedBitrate t = none → s.enc.suppresses r fps = true) := by
  by_cases hsame : s.enc.suppresses r fps = true
  · have hskip : EncoderClient.apply allOk b r fps ⟨s.enc, s.trace⟩ = ⟨s.enc, s.trace⟩ := by
      simp only [EncoderClient.suppresses, Bool.and_eq_true, decide_eq_true_eq, and_assoc] at hsame
      unfold EncoderClient.apply
      rw [if_neg hr.ne']
      exact if_pos hsame
    have hcached : s.enc.cached = some r := by
      simp only [EncoderClient.suppresses, Bool.and_eq_true, decide_eq_true_eq, and_assoc] at hsame
      rw [EncoderClient.cached, if_pos hsame.1, hsame.2.1]
    unfold Loop.onEnc
    rw [hskip]
    exact ⟨[], .of_eq rfl rfl, hcached, fun _ => hsame⟩
  · have hpush : EncoderClient.apply allOk b r fps ⟨s.enc, s.trace⟩ =
        Io.issue allOk b (.encSet ⟨r, s.enc.roiQpFor r, fpsField fps⟩)
          (EncoderClient.latch r (s.enc.roiQpFor r) fps) ⟨s.enc, s.trace⟩ := by
      simp only [EncoderClient.suppresses, Bool.and_eq_true, decide_eq_true_eq, and_assoc] at hsame
      unfold EncoderClient.apply
      rw [if_neg hr.ne']
      exact if_neg hsame
    unfold Loop.onEnc
    rw [hpush]
    refine ⟨_, extends_push b r _ fps _ s, rfl, fun hnone => ?_⟩
    cases hnone

theorem extends_dropPending (s : Loop) :
    ∃ t, Extends t s s.dropPending ∧ pushedBitrate t = none := by
  refine Extends.of_grows (Q := Silent) ?_ Silent.passive ?_
  · unfold Loop.dropPending
    split_ifs
    · exact Grows.refl _
    · exact Grows.concat (e := Ev.disarmed) trivial
    · exact Grows.refl _
  · unfold Loop.dropPending
    split_ifs <;> rfl

end Extends

/-! ## Branches -/

/-- What a branch adds to the trace: a decision is completed last, the cache then holds its bitrate, and
without a push the branch was a quiet one (`q`). -/
structure Tracked (q : Bool) (t : List Ev) (s s' : Loop) : Prop where
  trace : s'.trace = s.trace ++ t
  cached : s'.enc.cached = (pushedBitrate t).or s.enc.cached
  done : ∀ u d v, t = u ++ .done d :: v →
    v = [] ∧ s'.enc.cached = some d.bitrateKbps ∧ (pushedBitrate t = none → q = true)

/-- A positive bitrate can be derived. -/
def Rated (cfg : DlRuntimeConfig) : Prop :=
  0 < cfg.bitrate.minBitrateKbps ∧ cfg.bitrate.minBitrateKbps < cfg.bitrate.maxBitrateKbps

structure EncReady (s : Loop) : Prop where
  rated : Rated s.cfg
  pending : s.applyState ≠ .idle → 0 < s.applyPending.bitrateKbps
  down : s.applyState = .downGap → s.enc.cached = some s.applyPending.bitrateKbps

section Branches

variable {s s' : Loop} {t : List Ev} {q : Bool} {d : Decision}

theorem Extends.tracked (h : Extends t s s') : Tracked q t s s' where
  trace := h.trace
  cached := h.cached
  done u d v ht := absurd rfl (h.notDone (.done d) (ht ▸ by simp) d)

theorem Extends.complete (h : Extends t s s') (hc : s'.enc.cached = some d.bitrateKbps)
    (hq : pushedBitrate t = none → q = true) : Tracked q (t ++ [.done d]) s (s'.emit (.done d)) where
  trace := by simp [Loop.emit, h.trace]
  cached := by rw [pushedBitrate_unseen (e := .done d) trivial]; exact h.cached
  done u d' v ht := by
    rw [pushedBitrate_unseen (e := .done d) trivial]
    rcases List.append_eq_append_iff.mp ht with ⟨w, rfl, hw⟩ | ⟨w, rfl, hw⟩
    · rcases List.append_eq_singleton_iff.mp hw.symm with ⟨rfl, hw⟩ | ⟨-, hw⟩
      · cases hw
        exact ⟨rfl, hc, hq⟩
      · cases hw
    · cases w with
      | nil =>
        cases hw
        exact ⟨rfl, hc, hq⟩
      | cons e w =>
        cases hw
        exact absurd rfl (h.notDone (.done d') (by simp) d')

theorem derive_pos (h : Rated s.cfg) (wire : Decision) : 0 < (Loop.derive s.cfg wire).bitrateKbps := by
  simp only [Loop.derive, applyLocalCompute_bitrateKbps]
  exact cap_pos_of_bounds h.1 h.2 _

theorem EncReady.of_idle (h : Rated s.cfg) (hidle : s.applyState = .idle) : EncReady s :=
  ⟨h, fun hne => absurd hidle hne, fun hd => absurd (hidle.symm.trans hd) nofun⟩

theorem tracked_singleShot (h : Rated s.cfg) (hidle : s.applyState = .idle)
    (hpos : 0 < d.bitrateKbps)
    (hq : s.enc.suppresses d.bitrateKbps d.fps = true → q = true) :
    EncReady (s.singleShot allOk d) ∧ ∃ t, Tracked q t s (s.singleShot allOk d) := by
  refine ⟨.of_idle h hidle, ?_⟩
  obtain ⟨t, ht, hnone⟩ := extends_dispatch .decision s.cfg d s
  obtain ⟨u, hu, hc, hs⟩ := extends_encode .decision hpos d.fps
    (s.onTx (dispatchTxApply allOk .decision s.cfg d))
  refine ⟨_, ((ht.trans hu).setLastEnc d).complete hc fun hn => hq (hs ?_)⟩
  rw [pushedBitrate_append, hnone, Option.or_none] at hn
  exact hn

theorem tracked_raiseTx (h : Rated s.cfg) (hpos : 0 < d.bitrateKbps) :
    EncReady (s.raiseTx allOk d) ∧ ∃ t, Tracked q t s (s.raiseTx allOk d) := by
  refine ⟨⟨h, fun _ => hpos, nofun⟩, ?_⟩
  obtain ⟨t, ht, -⟩ := extends_dispatch .decision s.cfg d s
  have harm : Extends (t ++ [.armed d]) s (s.raiseTx allOk d) := ht.snoc trivial rfl rfl
  exact ⟨_, harm.tracked⟩

theorem tracked_throttleEnc (h : Rated s.cfg) (hpos : 0 < d.bitrateKbps) :
    EncReady (s.throttleEnc allOk d) ∧ ∃ t, Tracked q t s (s.throttleEnc allOk d) := by
  obtain ⟨t, ht, hc, -⟩ := extends_encode .decision hpos d.fps s
  have harm : Extends (t ++ [.armed d]) s (s.throttleEnc allOk d) := ht.snoc trivial rfl rfl
  exact ⟨⟨h, fun _ => hpos, fun _ => hc⟩, _, harm.tracked⟩

theorem tracked_applyDecision (h : Rated s.cfg) (hidle : s.applyState = .idle)
    (hpos : 0 < d.bitrateKbps)
    (hq : ((!s.canStagger || s.direction d = .equal) && s.enc.suppresses d.bitrateKbps d.fps) = true →
      q = true) :
    EncReady (s.applyDecision allOk d) ∧ ∃ t, Tracked q t s (s.applyDecision allOk d) := by
  unfold Loop.applyDecision
  cases hcan : s.canStagger with
  | false =>
    rw [if_neg (by simp)]
    exact tracked_singleShot h hidle hpos fun hs => hq (by simp [hcan, hs])
  | true =>
    rw [if_pos rfl]
    cases hdir : s.direction d with
    | equal => exact tracked_singleShot h hidle hpos fun hs => hq (by simp [hdir, hs])
    | up => exact tracked_raiseTx h hpos
    | down => exact tracked_throttleEnc h hpos

theorem Tracked.after {s₀ : Loop} {u : List Ev} (h : Tracked q t s s') (h₀ : Extends u s₀ s)
    (hnone : pushedBitrate u = none) : Tracked q (u ++ t) s₀ s' where
  trace := by rw [h.trace, h₀.trace, List.append_assoc]
  cached := by
    rw [h.cached, h₀.cached, pushedBitrate_append, hnone, Option.or_none, Option.none_or]
  done w d v ht := by
    rw [pushedBitrate_append, hnone, Option.or_none]
    rcases List.append_eq_append_iff.mp ht with ⟨x, rfl, hx⟩ | ⟨x, rfl, hx⟩
    · exact h.done x d v hx
    · cases x with
      | nil => exact h.done [] d v hx.symm
      | cons e x =>
        cases hx
        exact absurd rfl (h₀.notDone (.done d) (by simp) d)

theorem tracked_acceptDecision (h : EncReady s) (now : ℕ) (wire : Decision)
    (hq : ((!s.canStagger || s.direction (Loop.derive s.cfg wire) = .equal) &&
      s.enc.suppresses (Loop.derive s.cfg wire).bitrateKbps (Loop.derive s.cfg wire).fps) = true →
      q = true) :
    EncReady (s.acceptDecision allOk now wire) ∧
      ∃ t, Tracked q t s (s.acceptDecision allOk now wire) := by
  obtain ⟨hidle, hcfg, hfd, hlast, -⟩ := Loop.dropPending_frame s
  obtain ⟨u, hu, hnone⟩ := extends_dropPending s
  have henc : s.dropPending.enc = s.enc := by
    unfold Loop.dropPending
    split_ifs <;> rfl
  have hemit : Extends [.accepted (Loop.derive s.dropPending.cfg wire)] s.dropPending
      (s.dropPending.emit (.accepted (Loop.derive s.dropPending.cfg wire))) := .silent trivial rfl rfl
  have hrated : Rated s.dropPending.cfg := hcfg ▸ h.rated
  obtain ⟨hready, t, ht⟩ := tracked_applyDecision (q := q)
    (s := s.dropPending.emit (.accepted (Loop.derive s.dropPending.cfg wire)))
    hrated hidle (derive_pos hrated wire) fun hs => hq (by
      simpa [Loop.emit, Loop.canStagger, Loop.direction, hcfg, hfd, hlast, henc] using hs)
  have htr := (ht.after hemit rfl).after hu hnone
  exact ⟨⟨hready.rated, hready.pending, hready.down⟩, _, htr.trace, htr.cached, htr.done⟩

theorem extends_trip (s : Loop) : ∃ t, Extends t s (s.trip allOk) := by
  obtain ⟨t, ht, -⟩ := extends_dropPending s
  obtain ⟨u, hu, -⟩ : ∃ u, Extends u s.dropPending
      (s.dropPending.onTx (dispatchTxSafe allOk .tick s.dropPending.cfg)) ∧ pushedBitrate u = none :=
    Extends.of_grows (dispatchTxSafe_grows allOk .tick _ ⟨s.dropPending.tx, s.dropPending.trace⟩)
      IsTxCmd.passive rfl
  have hsafe := extends_push .tick (safeDecision s.dropPending.cfg).bitrateKbps
    (s.dropPending.enc.roiQpFor (safeDecision s.dropPending.cfg).bitrateKbps) 0 none
    (s.dropPending.onTx (dispatchTxSafe allOk .tick s.dropPending.cfg))
  exact ⟨_, ((ht.trans hu).trans hsafe).snoc (e := Ev.tripped) trivial rfl rfl⟩

theorem tracked_tick (h : EncReady s) : ∀ now, EncReady (s.tickBranch allOk now) ∧
    ∃ t, Tracked q t s (s.tickBranch allOk now)
  | none => ⟨h, [], (Extends.of_eq rfl rfl).tracked⟩
  | some now => by
    have hclock : Extends [] s { s with watchdog := s.watchdog.tick now } := .of_eq rfl rfl
    obtain ⟨t, ht⟩ := extends_trip { s with watchdog := s.watchdog.tick now }
    have hidle : (Loop.trip allOk { s with watchdog := s.watchdog.tick now }).applyState = .idle :=
      (Loop.dropPending_frame { s with watchdog := s.watchdog.tick now }).1
    have hrated : Rated (Loop.trip allOk { s with watchdog := s.watchdog.tick now }).cfg := by
      show Rated (Loop.dropPending _).cfg
      rw [(Loop.dropPending_frame _).2.1]
      exact h.rated
    unfold Loop.tickBranch
    dsimp only
    split_ifs
    · have htr := (hclock.trans ht).tracked (q := q)
      exact ⟨.of_idle hrated hidle, _, htr.trace, htr.cached, htr.done⟩
    · exact ⟨.of_idle hrated hidle, _, (hclock.trans ht).tracked⟩
    · have htr := hclock.tracked (q := q)
      exact ⟨⟨h.rated, h.pending, h.down⟩, _, htr.trace, htr.cached, htr.done⟩
    · exact ⟨⟨h.rated, h.pending, h.down⟩, _, hclock.tracked⟩

theorem tracked_reconcile (h : EncReady s) {snap : DlRuntimeConfig} (hsnap : Rated snap) :
    EncReady (s.reconcile allOk snap) ∧ ∃ t, Tracked q t s (s.reconcile allOk snap) := by
  have hflags : Extends [.reconciled (snap.stbc ≠ s.cfg.stbc || snap.ldpc ≠ s.cfg.ldpc) snap.stbc
      snap.ldpc] s (Loop.emit (.reconciled (snap.stbc ≠ s.cfg.stbc || snap.ldpc ≠ s.cfg.ldpc)
        snap.stbc snap.ldpc) { s with
          watchdog := s.watchdog.setTimeout snap.healthTimeoutMs
          tickMs := computeTickMs s.osdUpdateIntervalMs snap
          enc := { s.enc with roi := snap.roiQp }
          cfg := snap }) := .silent trivial rfl rfl
  unfold Loop.reconcile
  dsimp only
  split_ifs
  · exact ⟨⟨hsnap, h.pending, h.down⟩, _, (hflags.trans (extends_setRadio .event _ _)).tracked⟩
  · exact ⟨⟨hsnap, h.pending, h.down⟩, _, hflags.tracked⟩

theorem tracked_expandEnc (h : EncReady s) (hup : s.applyState = .upGap)
    (hq : s.enc.suppresses s.applyPending.bitrateKbps s.applyPending.fps = true → q = true) :
    EncReady (s.expandEnc allOk) ∧ ∃ t, Tracked q t s (s.expandEnc allOk) := by
  refine ⟨.of_idle h.rated rfl, ?_⟩
  have hpos := h.pending (by simp [hup])
  have hphase : Extends [.phase2 s.applyPending] s (s.emit (.phase2 s.applyPending)) :=
    .silent trivial rfl rfl
  obtain ⟨t, ht, hc, hs⟩ := extends_encode .gap hpos s.applyPending.fps
    (s.emit (.phase2 s.applyPending))
  have hall := hphase.trans ht
  have hidle : Extends ([.phase2 s.applyPending] ++ t) s
      { (s.emit (.phase2 s.applyPending)).onEnc (EncoderClient.apply allOk .gap
          s.applyPending.bitrateKbps s.applyPending.fps) with
        lastEnc := s.applyPending, applyState := .idle } := ⟨hall.trace, hall.notDone, hall.cached⟩
  refine ⟨_, hidle.complete hc fun hn => hq (hs ?_)⟩
  rw [pushedBitrate_append] at hn
  exact (Option.or_eq_none_iff.mp hn).1

theorem tracked_narrowTx (h : EncReady s) (hdown : s.applyState = .downGap) (hq : q = true) :
    EncReady (s.narrowTx allOk) ∧ ∃ t, Tracked q t s (s.narrowTx allOk) := by
  refine ⟨.of_idle h.rated rfl, ?_⟩
  have hphase : Extends [.phase2 s.applyPending] s (s.emit (.phase2 s.applyPending)) :=
    .silent trivial rfl rfl
  obtain ⟨t, ht, -⟩ := extends_dispatch .gap s.cfg s.applyPending (s.emit (.phase2 s.applyPending))
  have hall := hphase.trans ht
  have hidle : Extends ([.phase2 s.applyPending] ++ t) s
      { (s.emit (.phase2 s.applyPending)).onTx (dispatchTxApply allOk .gap s.cfg s.applyPending) with
        applyState := .idle } := ⟨hall.trace, hall.notDone, hall.cached⟩
  exact ⟨_, hidle.complete (h.down hdown) fun _ => hq⟩

theorem tracked_gap (h : EncReady s) (ready : Bool) :
    EncReady (s.gapBranch allOk ready) ∧
      ∃ t, Tracked (s.quiet (.gap ready)) t s (s.gapBranch allOk ready) := by
  -- the read empties the timer, which concerns no one here
  set s₁ : Loop := { s with timer := { s.timer with expired := false } } with hs₁
  have hread : EncReady s₁ := ⟨h.rated, h.pending, h.down⟩
  cases ready with
  | false => exact ⟨h, _, (Extends.of_eq rfl rfl).tracked⟩
  | true =>
    have hcases : s.applyState = .idle ∨ s.applyState = .upGap ∨ s.applyState = .downGap := by
      cases s.applyState <;> simp
    rcases hcases with hst | hst | hst
    · have hb : s.gapBranch allOk true = s₁ := by simp [Loop.gapBranch, hst, hs₁]
      have hsame : Extends [] s s₁ := .of_eq rfl rfl
      rw [hb]
      exact ⟨hread, [], hsame.tracked⟩
    · have hb : s.gapBranch allOk true = s₁.expandEnc allOk := by simp [Loop.gapBranch, hst, hs₁]
      obtain ⟨hready, t, ht⟩ := tracked_expandEnc (q := s.quiet (.gap true)) hread hst
        fun hs => by simpa [Loop.quiet, hst] using hs
      rw [hb]
      exact ⟨hready, t, ht.trace, ht.cached, ht.done⟩
    · have hb : s.gapBranch allOk true = s₁.narrowTx allOk := by simp [Loop.gapBranch, hst, hs₁]
      obtain ⟨hready, t, ht⟩ := tracked_narrowTx (q := s.quiet (.gap true)) hread hst
        (by simp [Loop.quiet, hst])
      rw [hb]
      exact ⟨hready, t, ht.trace, ht.cached, ht.done⟩

/-- A configuration that a branch takes over is rated. -/
def Input.Rated : Input → Prop
  | .event (some (.config snap)) => DynLink.Rated snap
  | _ => True

theorem input_tracked (h : EncReady s) : ∀ i : Input, i.Rated →
    EncReady (s.input allOk i) ∧ ∃ t, Tracked (s.quiet i) t s (s.input allOk i)
  | .expire now, _ => by
    show EncReady (s.expire now) ∧ ∃ t, Tracked _ t s (s.expire now)
    unfold Loop.expire
    split_ifs
    · refine ⟨⟨h.rated, h.pending, h.down⟩, [.expired], Extends.tracked ?_⟩
      exact .silent trivial rfl rfl
    · exact ⟨h, _, (Extends.of_eq rfl rfl).tracked⟩
  | .event none, _ => ⟨h, _, (Extends.of_eq rfl rfl).tracked⟩
  | .event (some .stop), _ => by
    refine ⟨⟨h.rated, h.pending, h.down⟩, [], Extends.tracked ?_⟩
    exact .of_eq rfl rfl
  | .event (some (.config snap)), hi => tracked_reconcile h hi
  | .listen none, _ => ⟨h, _, (Extends.of_eq rfl rfl).tracked⟩
  | .listen (some (bytes, now)), _ => by
    show EncReady (s.listenBranch allOk (some (bytes, now))) ∧
      ∃ t, Tracked (s.quiet (.listen (some (bytes, now)))) t s (s.listenBranch allOk (some (bytes, now)))
    unfold Loop.listenBranch Loop.quiet
    dsimp only
    cases s.accepts bytes with
    | none => exact ⟨h, _, (Extends.of_eq rfl rfl).tracked⟩
    | some wire =>
      have hcheck : EncReady { s with dedup := s.dedup.check wire.sequence } :=
        ⟨h.rated, h.pending, h.down⟩
      obtain ⟨hready, t, ht⟩ := tracked_acceptDecision hcheck now wire id
      exact ⟨hready, t, ht.trace, ht.cached, ht.done⟩
  | .tick now, _ => tracked_tick h now
  | .gap ready, _ => tracked_gap h ready

end Branches

end Fpvd.DynLink
