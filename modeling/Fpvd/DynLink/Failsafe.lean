import Fpvd.DynLink.Gap
import Fpvd.DynLink.WireCodec

/-!
# Fpvd.DynLink.Failsafe — the watchdog, the dedup filter and the diff baselines over whole runs

* `Hears ack s i t`: what one branch does to the loop's memory of the ground station.  It leaves the
  memory alone, or accepts a decision, or trips the watchdog.
* `runMarks`: the accepted decisions and the failsafe dispatches of a run, with their times.
-/

namespace Fpvd.DynLink

open Run

/-! ## Marks of a run -/

inductive Mark where
  | accepted (now : ℕ)
  | failsafe (now timeoutMs : ℕ)
  deriving DecidableEq, Repr

def Ev.mark? (now timeoutMs : ℕ) : Ev → Option Mark
  | .accepted _ => some (.accepted now)
  | .tripped => some (.failsafe now timeoutMs)
  | _ => none

def Input.clock : Input → ℕ
  | .listen (some (_, now)) => now
  | .tick (some now) => now
  | _ => 0

/-- What a branch adds to the marks; the timeout in force is the configured one. -/
def Loop.marks (ack : ℕ → Bool) (s : Loop) (i : Input) : List Mark :=
  ((s.input ack i).trace.drop s.trace.length).filterMap (Ev.mark? i.clock s.cfg.healthTimeoutMs)

def runMarks (ack : ℕ → Bool) : Loop → List Input → List Mark
  | _, [] => []
  | s, i :: is => s.marks ack i ++ runMarks ack (s.input ack i) is

/-- **The mark before a failsafe is an accepted decision**, and the timeout then in force has
elapsed since. -/
def FailsafeSound (ms : List Mark) : Prop :=
  ∀ p now timeoutMs, p ++ [.failsafe now timeoutMs] <+: ms →
    ∃ t₀, p.getLast? = some (.accepted t₀) ∧ t₀ + timeoutMs ≤ now

theorem failsafeSound_concat {ms : List Mark} {m : Mark} (h : FailsafeSound ms)
    (hm : ∀ now timeoutMs, m = .failsafe now timeoutMs →
      ∃ t₀, ms.getLast? = some (.accepted t₀) ∧ t₀ + timeoutMs ≤ now) :
    FailsafeSound (ms ++ [m]) := by
  intro p now timeoutMs hp
  rcases List.prefix_concat_iff.mp hp with heq | hp
  · obtain ⟨rfl, rfl⟩ := List.append_singleton_inj.mp heq
    exact hm now timeoutMs rfl
  · exact h p now timeoutMs hp

def Unmarked : Ev → Prop
  | .accepted _ | .tripped => False
  | _ => True

theorem Unmarked.mark? {now timeoutMs : ℕ} : ∀ e, Unmarked e → e.mark? now timeoutMs = none
  | .cmd .., _ | .done _, _ | .armed _, _ | .disarmed, _ | .expired, _ | .phase2 _, _
  | .reconciled .., _ => rfl

theorem IsTxCmd.unmarked {b : Branch} {cfg : DlRuntimeConfig} {d : Decision} (e : Ev)
    (he : IsTxCmd b cfg d e) : Unmarked e := by
  obtain ⟨c, ok, rfl⟩ := IsTxCmd.isCmd e he
  trivial

theorem IsEncCmd.unmarked {b : Branch} {r : ℕ} (e : Ev) (he : IsEncCmd b r e) : Unmarked e := by
  obtain ⟨c, ok, rfl⟩ := IsEncCmd.isCmd e he
  trivial

theorem filterMap_unmarked {u : List Ev} (hu : ∀ e ∈ u, Unmarked e) (now timeoutMs : ℕ) :
    u.filterMap (Ev.mark? now timeoutMs) = [] :=
  List.filterMap_eq_nil_iff.mpr fun e he => Unmarked.mark? e (hu e he)

section Marks

variable {ack : ℕ → Bool} {s : Loop} {i : Input}

theorem marks_of_unmarked (h : Grows Unmarked s.trace (s.input ack i).trace) :
    s.marks ack i = [] := by
  obtain ⟨u, hu, hq⟩ := h
  rw [Loop.marks, hu, List.drop_left]
  exact filterMap_unmarked hq _ _

theorem marks_of_marked {t : List Ev} {e : Ev} {m : Mark} (h₁ : Grows Unmarked s.trace t)
    (h₂ : Grows Unmarked (t ++ [e]) (s.input ack i).trace)
    (he : e.mark? i.clock s.cfg.healthTimeoutMs = some m) : s.marks ack i = [m] := by
  obtain ⟨u, rfl, hu⟩ := h₁
  obtain ⟨v, hv, hq⟩ := h₂
  rw [Loop.marks, hv, List.append_assoc, List.append_assoc, List.drop_left, List.filterMap_append,
    List.filterMap_append, filterMap_unmarked hu, filterMap_unmarked hq, List.filterMap_cons, he]
  rfl

end Marks

/-! ## What a branch does to the memory of the ground station -/

/-- Nothing is remembered that could suppress a command, and nothing is pending. -/
structure Unset (s : Loop) : Prop where
  lastTx : s.tx.lastTx = {}
  lastEnc : s.lastEnc = {}
  current : s.tx.radio.current = none
  auto : s.tx.radio.auto = false
  idle : s.applyState = .idle

structure SameWatch (w w' : Watchdog) : Prop where
  everSeen : w'.everSeen = w.everSeen
  tripped : w'.tripped = w.tripped
  lastDecisionMs : w'.lastDecisionMs = w.lastDecisionMs

def InForce (s : Loop) : Prop := s.watchdog.timeoutMs = s.cfg.healthTimeoutMs

inductive Hears (ack : ℕ → Bool) (s : Loop) (i : Input) (t : Loop) : Prop where
  | quiet (hmarks : s.marks ack i = []) (hdedup : t.dedup = s.dedup)
      (hwatch : SameWatch s.watchdog t.watchdog) (hforce : InForce s → InForce t)
      (hunset : Unset s → Unset t)
  | accepted (bytes : List UInt8) (now : ℕ) (d : Decision) (hi : i = .listen (some (bytes, now)))
      (hacc : s.accepts bytes = some d) (hmarks : s.marks ack i = [.accepted now])
      (hdedup : t.dedup = s.dedup.check d.sequence)
      (hwatch : t.watchdog = s.watchdog.notifyDecision now) (hcfg : t.cfg = s.cfg)
  | tripped (now : ℕ) (hfires : s.watchdog.fires now = true)
      (hmarks : s.marks ack i = [.failsafe now s.cfg.healthTimeoutMs])
      (hdedup : t.dedup = s.dedup.reset) (hwatch : t.watchdog = s.watchdog.tick now)
      (hcfg : t.cfg = s.cfg) (hunset : Unset t)

structure SameHeard (s s' : Loop) : Prop where
  dedup : s'.dedup = s.dedup
  watchdog : s'.watchdog = s.watchdog
  cfg : s'.cfg = s.cfg
  grows : Grows Unmarked s.trace s'.trace

section Same

variable {s s' s'' : Loop} (ack : ℕ → Bool) (d : Decision)

theorem SameHeard.trans (h : SameHeard s s') (h' : SameHeard s' s'') : SameHeard s s'' :=
  ⟨h'.1.trans h.1, h'.2.trans h.2, h'.3.trans h.3, h.4.trans h'.4⟩

theorem sameHeard_dispatch (b : Branch) (s : Loop) :
    SameHeard s (s.onTx (dispatchTxApply ack b s.cfg d)) :=
  ⟨rfl, rfl, rfl, (dispatchTxApply_grows ack b s.cfg d _).mono IsTxCmd.unmarked⟩

theorem sameHeard_encode (b : Branch) (r fps : ℕ) (s : Loop) :
    SameHeard s (s.onEnc (EncoderClient.apply ack b r fps)) :=
  ⟨rfl, rfl, rfl, (encApply_grows ack b r fps _).mono IsEncCmd.unmarked⟩

theorem sameHeard_expire (now : Bool) (s : Loop) : SameHeard s (s.expire now) := by
  unfold Loop.expire
  split_ifs
  · exact ⟨rfl, rfl, rfl, Grows.concat trivial⟩
  · exact ⟨rfl, rfl, rfl, Grows.refl _⟩

theorem sameHeard_dropPending (s : Loop) : SameHeard s s.dropPending := by
  unfold Loop.dropPending
  split_ifs
  · exact ⟨rfl, rfl, rfl, Grows.refl _⟩
  · exact ⟨rfl, rfl, rfl, Grows.concat trivial⟩
  · exact ⟨rfl, rfl, rfl, Grows.refl _⟩

theorem sameHeard_singleShot (s : Loop) : SameHeard s (s.singleShot ack d) :=
  ((sameHeard_dispatch ack d .decision s).trans
    (sameHeard_encode ack .decision d.bitrateKbps d.fps _)).trans
    ⟨rfl, rfl, rfl, Grows.concat trivial⟩

theorem sameHeard_applyDecision (s : Loop) : SameHeard s (s.applyDecision ack d) := by
  unfold Loop.applyDecision
  split_ifs
  · cases s.direction d with
    | equal => exact sameHeard_singleShot ack d s
    | up =>
      exact (sameHeard_dispatch ack d .decision s).trans ⟨rfl, rfl, rfl, Grows.concat trivial⟩
    | down =>
      exact (sameHeard_encode ack .decision d.bitrateKbps d.fps s).trans
        ⟨rfl, rfl, rfl, Grows.concat trivial⟩
  · exact sameHeard_singleShot ack d s

theorem sameHeard_gapBranch (ready : Bool) (s : Loop) : SameHeard s (s.gapBranch ack ready) := by
  unfold Loop.gapBranch
  split_ifs
  · dsimp only
    cases s.applyState with
    | idle => exact ⟨rfl, rfl, rfl, Grows.refl _⟩
    | upGap =>
      have hstart : Grows Unmarked s.trace (s.trace ++ [.phase2 s.applyPending]) :=
        Grows.concat trivial
      have hpush := (encApply_grows ack .gap s.applyPending.bitrateKbps s.applyPending.fps
        ⟨s.enc, s.trace ++ [.phase2 s.applyPending]⟩).mono IsEncCmd.unmarked
      exact ⟨rfl, rfl, rfl, (hstart.trans hpush).trans (Grows.concat trivial)⟩
    | downGap =>
      have hstart : Grows Unmarked s.trace (s.trace ++ [.phase2 s.applyPending]) :=
        Grows.concat trivial
      have hpush := (dispatchTxApply_grows ack .gap s.cfg s.applyPending
        ⟨s.tx, s.trace ++ [.phase2 s.applyPending]⟩).mono IsTxCmd.unmarked
      exact ⟨rfl, rfl, rfl, (hstart.trans hpush).trans (Grows.concat trivial)⟩
  · exact ⟨rfl, rfl, rfl, Grows.refl _⟩

theorem SameHeard.hears {i : Input} (h : SameHeard s (s.input ack i))
    (hunset : Unset s → Unset (s.input ack i)) : Hears ack s i (s.input ack i) := by
  refine .quiet (marks_of_unmarked h.grows) h.dedup ?_ ?_ hunset
  · rw [h.watchdog]
    exact ⟨rfl, rfl, rfl⟩
  · intro hf
    rw [InForce, h.watchdog, h.cfg]
    exact hf

end Same

section Branches

variable (ack : ℕ → Bool) (s : Loop)

theorem hears_expire (now : Bool) : Hears ack s (.expire now) (s.expire now) := by
  refine SameHeard.hears ack (i := .expire now) (sameHeard_expire now s) fun h => ?_
  show Unset (s.expire now)
  unfold Loop.expire
  split_ifs
  · exact ⟨h.1, h.2, h.3, h.4, h.5⟩
  · exact h

theorem hears_gap (ready : Bool) : Hears ack s (.gap ready) (s.gapBranch ack ready) := by
  refine SameHeard.hears ack (i := .gap ready) (sameHeard_gapBranch ack ready s) fun h => ?_
  show Unset (s.gapBranch ack ready)
  unfold Loop.gapBranch
  split_ifs
  · dsimp only
    rw [h.idle]
    exact ⟨h.1, h.2, h.3, h.4, rfl⟩
  · exact h

theorem hears_event : ∀ w, Hears ack s (.event w) (s.eventBranch ack w)
  | none => SameHeard.hears ack (i := .event none) ⟨rfl, rfl, rfl, Grows.refl _⟩ id
  | some .stop =>
    SameHeard.hears ack (i := .event (some .stop)) ⟨rfl, rfl, rfl, Grows.refl _⟩
      fun h => ⟨h.1, h.2, h.3, h.4, h.5⟩
  | some (.config snap) => by
    have hgrows : Grows Unmarked s.trace (s.reconcile ack snap).trace := by
      unfold Loop.reconcile
      dsimp only
      split_ifs
      · exact (Grows.concat trivial).trans (Grows.concat trivial)
      · exact Grows.concat trivial
    refine .quiet (marks_of_unmarked hgrows) ?_ ?_ ?_ ?_
    all_goals
      unfold Loop.eventBranch Loop.reconcile
      dsimp only
      split_ifs
    · rfl
    · rfl
    · exact ⟨rfl, rfl, rfl⟩
    · exact ⟨rfl, rfl, rfl⟩
    · exact fun _ => rfl
    · exact fun _ => rfl
    · intro h
      exact ⟨by simpa [Loop.onTx, Io.issue, Loop.emit] using h.1, h.2,
        by simpa [Loop.onTx, Io.issue, Loop.emit] using h.3,
        by simpa [Loop.onTx, Io.issue, Loop.emit] using h.4, h.5⟩
    · exact fun h => ⟨h.1, h.2, h.3, h.4, h.5⟩

theorem acceptDecision_heard (now : ℕ) (w : Decision) :
    (s.acceptDecision ack now w).dedup = s.dedup ∧
      (s.acceptDecision ack now w).watchdog = s.watchdog.notifyDecision now ∧
      (s.acceptDecision ack now w).cfg = s.cfg ∧
      ∃ t d, Grows Unmarked s.trace t ∧
        Grows Unmarked (t ++ [.accepted d]) (s.acceptDecision ack now w).trace := by
  set d := Loop.derive s.dropPending.cfg w with hd
  have hdrop := sameHeard_dropPending s
  have happly := sameHeard_applyDecision ack d (s.dropPending.emit (.accepted d))
  refine ⟨happly.dedup.trans hdrop.dedup, ?_, happly.cfg.trans hdrop.cfg, s.dropPending.trace, d,
    hdrop.grows, happly.grows⟩
  show Watchdog.notifyDecision now _ = _
  exact congrArg _ (happly.watchdog.trans hdrop.watchdog)

variable {s} in
theorem listenBranch_accepted {bytes : List UInt8} {w : Decision} (hacc : s.accepts bytes = some w)
    (now : ℕ) : s.listenBranch ack (some (bytes, now)) =
      Loop.acceptDecision ack now w { s with dedup := s.dedup.check w.sequence } := by
  simp [Loop.listenBranch, hacc]

theorem hears_listen : ∀ msg, Hears ack s (.listen msg) (s.listenBranch ack msg)
  | none => SameHeard.hears ack (i := .listen none) ⟨rfl, rfl, rfl, Grows.refl _⟩ id
  | some (bytes, now) => by
    cases hacc : s.accepts bytes with
    | none =>
      have heq : s.listenBranch ack (some (bytes, now)) = s := by simp [Loop.listenBranch, hacc]
      have hin : s.input ack (.listen (some (bytes, now))) = s := heq
      rw [heq]
      refine .quiet (marks_of_unmarked ?_) rfl ⟨rfl, rfl, rfl⟩ id id
      rw [hin]
      exact Grows.refl _
    | some w =>
      obtain ⟨hdedup, hwatch, hcfg, t, d, ht, hrest⟩ :=
        acceptDecision_heard ack { s with dedup := s.dedup.check w.sequence } now w
      rw [← listenBranch_accepted ack hacc] at hdedup hwatch hcfg hrest
      exact .accepted bytes now w rfl hacc (marks_of_marked (e := .accepted d) ht hrest rfl) hdedup
        hwatch hcfg

theorem trip_spec : SameHeard s s.dropPending ∧ Unset (s.trip ack) ∧
    (s.trip ack).dedup = s.dedup.reset ∧ (s.trip ack).watchdog = s.watchdog ∧
    (s.trip ack).cfg = s.cfg ∧ ∃ t, Grows Unmarked s.trace t ∧ (s.trip ack).trace = t ++ [.tripped] := by
  have hdrop := sameHeard_dropPending s
  have h₁ := (dispatchTxSafe_grows ack .tick s.dropPending.cfg
    ⟨s.dropPending.tx, s.dropPending.trace⟩).mono IsTxCmd.unmarked
  have h₂ := (encApplySafe_grows ack .tick (safeDecision s.dropPending.cfg).bitrateKbps
    ⟨s.dropPending.enc, (s.dropPending.onTx (dispatchTxSafe ack .tick s.dropPending.cfg)).trace⟩).mono
    IsEncCmd.unmarked
  refine ⟨hdrop, ⟨rfl, rfl, rfl, rfl, (Loop.dropPending_frame s).1⟩, ?_, hdrop.watchdog, hdrop.cfg,
    _, (hdrop.grows.trans h₁).trans h₂, rfl⟩
  exact congrArg Dedup.reset hdrop.dedup

theorem hears_tick : ∀ tick, Hears ack s (.tick tick) (s.tickBranch ack tick)
  | none => SameHeard.hears ack (i := .tick none) ⟨rfl, rfl, rfl, Grows.refl _⟩ id
  | some now => by
    by_cases hf : s.watchdog.fires now = true
    · obtain ⟨-, hunset, hdedup, hwatch, hcfg, t, ht, htrace⟩ :=
        trip_spec ack { s with watchdog := s.watchdog.tick now }
      have hafter : (s.tickBranch ack (some now)).trace = t ++ [.tripped] ∧
          (s.tickBranch ack (some now)).dedup = s.dedup.reset ∧
          (s.tickBranch ack (some now)).watchdog = s.watchdog.tick now ∧
          (s.tickBranch ack (some now)).cfg = s.cfg ∧ Unset (s.tickBranch ack (some now)) := by
        unfold Loop.tickBranch
        dsimp only
        rw [if_pos hf]
        split_ifs
        · exact ⟨htrace, hdedup, hwatch, hcfg, hunset.1, hunset.2, hunset.3, hunset.4, hunset.5⟩
        · exact ⟨htrace, hdedup, hwatch, hcfg, hunset⟩
      refine .tripped now hf ?_ hafter.2.1 hafter.2.2.1 hafter.2.2.2.1 hafter.2.2.2.2
      exact marks_of_marked (e := .tripped) ht (Grows.of_eq hafter.1) rfl
    · have hsame : SameHeard s (s.tickBranch ack (some now)) := by
        unfold Loop.tickBranch
        dsimp only
        rw [if_neg hf, Watchdog.tick, if_neg hf]
        split_ifs <;> exact ⟨rfl, rfl, rfl, Grows.refl _⟩
      refine SameHeard.hears ack (i := .tick (some now)) hsame fun h => ?_
      show Unset (s.tickBranch ack (some now))
      unfold Loop.tickBranch
      dsimp only
      rw [if_neg hf]
      split_ifs <;> exact ⟨h.1, h.2, h.3, h.4, h.5⟩

theorem hears_input : ∀ i, Hears ack s i (s.input ack i)
  | .expire now => hears_expire ack s now
  | .event w => hears_event ack s w
  | .listen msg => hears_listen ack s msg
  | .tick now => hears_tick ack s now
  | .gap ready => hears_gap ack s ready

end Branches

/-! ## Runs -/

structure Recovers (s : Loop) (ms : List Mark) : Prop where
  force : InForce s
  watching : s.watchdog.everSeen = true → s.watchdog.tripped = false →
    ms.getLast? = some (.accepted s.watchdog.lastDecisionMs)
  sound : FailsafeSound ms
  forgot : s.watchdog.tripped = true → s.dedup.ever = false ∧ Unset s

theorem fires_spec {w : Watchdog} {now : ℕ} (h : w.fires now = true) :
    w.everSeen = true ∧ w.tripped = false ∧ w.lastDecisionMs + w.timeoutMs ≤ now := by
  simp only [Watchdog.fires, Bool.and_eq_true, Bool.not_eq_true', decide_eq_true_eq] at h
  obtain ⟨⟨⟨hseen, htripped⟩, hle⟩, hout⟩ := h
  exact ⟨hseen, htripped, by omega⟩

theorem Recovers.start (snap : DlRuntimeConfig) (gapFd : Bool) :
    Recovers (Loop.start snap gapFd) [] where
  force := rfl
  watching := nofun
  sound := fun p now timeoutMs hp => by simp at hp
  forgot := nofun

theorem Recovers.input {s : Loop} {ms : List Mark} (h : Recovers s ms) (ack : ℕ → Bool) (i : Input) :
    Recovers (s.input ack i) (ms ++ s.marks ack i) := by
  cases hears_input ack s i with
  | quiet hmarks hdedup hwatch hforce hunset =>
    rw [hmarks, List.append_nil]
    refine ⟨hforce h.force, ?_, h.sound, ?_⟩
    · rw [hwatch.everSeen, hwatch.tripped, hwatch.lastDecisionMs]
      exact h.watching
    · rw [hwatch.tripped, hdedup]
      exact fun ht => ⟨(h.forgot ht).1, hunset (h.forgot ht).2⟩
  | accepted bytes now d hi hacc hmarks hdedup hwatch hcfg =>
    rw [hmarks]
    refine ⟨?_, ?_, failsafeSound_concat h.sound nofun, ?_⟩
    · rw [InForce, hwatch, hcfg]
      exact h.force
    · rw [hwatch]
      exact fun _ _ => List.getLast?_concat
    · rw [hwatch]
      exact nofun
  | tripped now hfires hmarks hdedup hwatch hcfg hunset =>
    obtain ⟨hseen, htripped, hout⟩ := fires_spec hfires
    rw [hmarks]
    have htick : s.watchdog.tick now = { s.watchdog with tripped := true } := if_pos hfires
    refine ⟨?_, ?_, failsafeSound_concat h.sound ?_, ?_⟩
    · rw [InForce, hwatch, htick, hcfg]
      exact h.force
    · rw [hwatch, htick]
      exact fun _ => nofun
    · rintro t timeoutMs ⟨⟩
      refine ⟨_, h.watching hseen htripped, ?_⟩
      rw [← h.force]
      exact hout
    · rw [hdedup]
      exact fun _ => ⟨rfl, hunset⟩

theorem Recovers.run (ack : ℕ → Bool) : ∀ (is : List Input) {s : Loop} {ms : List Mark},
    Recovers s ms → Recovers (is.foldl (Loop.input ack) s) (ms ++ runMarks ack s is)
  | [], s, ms, h => by simpa [runMarks] using h
  | i :: is, s, ms, h => by
    rw [List.foldl_cons, runMarks, ← List.append_assoc]
    exact Recovers.run ack is (h.input ack i)

/-! ## The first decision after a trip -/

/-- Commands of every kind bring the TX to `d`, whatever was sent before. -/
structure Restates (b : Branch) (cfg : DlRuntimeConfig) (d : Decision) (u : List Ev) : Prop where
  fec : ∃ ok, .cmd b (.setFec d.k d.n) ok ∈ u
  radio : ∃ ok, .cmd b (.setRadio (radioWord cfg d.bandwidth d.mcs)) ok ∈ u
  power : ∃ iface ok, .cmd b (if cfg.txPowerControl then .iwFixed iface (d.txPowerDbm * 100)
    else .iwAuto iface) ok ∈ u

variable (ack : ℕ → Bool) (b : Branch) (cfg : DlRuntimeConfig) (d : Decision)

theorem pushProbe_radio (x : Io TxClients) : (pushProbe ack b cfg d x).st.radio = x.st.radio := by
  unfold pushProbe retuneProbe Io.issue
  dsimp only
  split_ifs <;> rfl

theorem pushTxpower_unset {x : Io TxClients} (hcur : x.st.radio.current = none)
    (hauto : x.st.radio.auto = false) :
    ∃ iface ok, (pushTxpower ack b cfg d x).trace = x.trace ++
      [.cmd b (if cfg.txPowerControl then .iwFixed iface (d.txPowerDbm * 100) else .iwAuto iface) ok] := by
  refine ⟨x.st.radio.iface, ack x.trace.length, ?_⟩
  unfold pushTxpower RadioTxpower.apply RadioTxpower.applyAuto
  simp only [hcur, hauto]
  cases cfg.txPowerControl <;> rfl

theorem dispatchTxApply_unset {x : Io TxClients} (hlast : x.st.lastTx = {})
    (hcur : x.st.radio.current = none) (hauto : x.st.radio.auto = false) :
    ∃ u, (dispatchTxApply ack b cfg d x).trace = x.trace ++ u ∧ Restates b cfg d u := by
  set x₁ := pushFec ack b d (reconciled cfg x) with hx₁
  set x₂ := pushRadio ack b cfg d x₁ with hx₂
  set x₃ := pushProbe ack b cfg d x₂ with hx₃
  have hfirst : ∀ y : Io TxClients, y.st.lastTx = {} → y.st.first = true := fun y hy => by
    rw [TxClients.first, hy]
    rfl
  have hrad : (reconciled cfg x).st.radio = x.st.radio := by
    unfold reconciled reconcileProbeClient
    dsimp only
    split_ifs <;> rfl
  have hfec : x₁.trace = x.trace ++ [.cmd b (.setFec d.k d.n) (ack x.trace.length)] := by
    rw [hx₁, pushFec, TxClients.wantsFec, hfirst _ (by rw [reconciled_lastTx, hlast]), Bool.true_or,
      Bool.true_or, if_pos rfl]
    rfl
  have hradio : x₂.trace = x₁.trace ++
      [.cmd b (.setRadio (radioWord cfg d.bandwidth d.mcs)) (ack x₁.trace.length)] := by
    rw [hx₂, pushRadio, TxClients.wantsRadio,
      hfirst _ (by rw [hx₁, pushFec_st, reconciled_lastTx, hlast]), Bool.true_or, Bool.true_or,
      if_pos rfl]
    rfl
  obtain ⟨u, hu, -⟩ := pushProbe_grows ack b cfg d x₂
  have hsame : x₃.st.radio = x.st.radio := by
    rw [hx₃, pushProbe_radio, hx₂, pushRadio_st, hx₁, pushFec_st, hrad]
  obtain ⟨iface, ok, hpow⟩ := pushTxpower_unset ack b cfg d (x := x₃)
    (by rw [hsame, hcur]) (by rw [hsame, hauto])
  have htrace : (dispatchTxApply ack b cfg d x).trace = _ := hpow
  rw [hx₃, hu, hradio, hfec, List.append_assoc, List.append_assoc, List.append_assoc] at htrace
  have hhead : ∀ (e : Ev) (v : List Ev), e ∈ [e] ++ v := fun e v => List.mem_cons_self
  exact ⟨_, htrace, ⟨_, hhead _ _⟩, ⟨_, List.mem_append_right _ (hhead _ _)⟩, ⟨iface, ok,
    List.mem_append_right _ (List.mem_append_right _ (List.mem_append_right _ (hhead _ [])))⟩⟩

theorem take_encodeDecision : (encodeDecision d).take 256 = encodeDecision d :=
  List.take_of_length_le (show (encodeDecision d).length ≤ 256 from by
    have : (encodeDecision d).length = kWireOnWire := rfl
    rw [this]
    decide)

theorem peekKind_of_ok {buf : List UInt8} {d : Decision} (h : decodeDecision buf = .ok d) :
    peekKind buf = .decision := by
  obtain ⟨hlen, hmagic, -⟩ := decodeDecision_ok h
  have h15 : 15 ≤ buf.length := hlen
  rw [peekKind, if_neg (by omega), if_pos hmagic]

theorem accepts_eq {s : Loop} {bytes : List UInt8} {d : Decision}
    (h : decodeDecision (bytes.take 256) = .ok d) :
    s.accepts bytes = if s.dedup.drops d.sequence then none else some d := by
  simp [Loop.accepts, peekKind_of_ok h, h]

section Recovery

variable (ack : ℕ → Bool) {s : Loop}

theorem applyDecision_unset (h : Unset s) (d : Decision) :
    s.applyDecision ack d = s.singleShot ack d := by
  have hdir : s.direction d = .equal := by
    rw [Loop.direction, h.lastEnc]
    rfl
  unfold Loop.applyDecision
  rw [hdir]
  split_ifs <;> rfl

theorem singleShot_restates (h : Unset s) (d : Decision) :
    ∃ u, (s.singleShot ack d).trace = s.trace ++ u ∧ Restates .decision s.cfg d u := by
  obtain ⟨u, hu, hfec, hradio, hpower⟩ := dispatchTxApply_unset ack .decision s.cfg d
    (x := ⟨s.tx, s.trace⟩) h.lastTx h.current h.auto
  obtain ⟨v, hv, -⟩ := encApply_grows ack .decision d.bitrateKbps d.fps
    ⟨s.enc, (dispatchTxApply ack .decision s.cfg d ⟨s.tx, s.trace⟩).trace⟩
  have htrace : (s.singleShot ack d).trace = s.trace ++ (u ++ (v ++ [.done d])) := by
    refine (congrArg (· ++ [Ev.done d]) (hv.trans (congrArg (· ++ v) hu))).trans ?_
    simp only [List.append_assoc]
  have hmem : ∀ e ∈ u, e ∈ u ++ (v ++ [Ev.done d]) := fun e he => List.mem_append_left _ he
  exact ⟨_, htrace, hfec.imp fun ok => hmem _, hradio.imp fun ok => hmem _,
    hpower.imp fun iface => Exists.imp fun ok => hmem _⟩

/-- **Recovery**: with nothing remembered, a frame that decodes is accepted whatever its number, and
the TX is brought to its values. -/
theorem listen_restates (h : Unset s) (hever : s.dedup.ever = false) {bytes : List UInt8} {d : Decision}
    (hdec : decodeDecision (bytes.take 256) = .ok d) (now : ℕ) :
    s.accepts bytes = some d ∧ ∃ u, (s.listenBranch ack (some (bytes, now))).trace = s.trace ++ u ∧
      Restates .decision s.cfg (Loop.derive s.cfg d) u := by
  have hacc : s.accepts bytes = some d := by
    rw [accepts_eq hdec, Dedup.drops, hever]
    rfl
  refine ⟨hacc, ?_⟩
  set s₁ : Loop := { s with dedup := s.dedup.check d.sequence } with hs₁
  set s₂ : Loop := s₁.emit (.accepted (Loop.derive s.cfg d)) with hs₂
  have hdrop : s₁.dropPending = s₁ := if_pos h.idle
  have hun : Unset s₂ := ⟨h.1, h.2, h.3, h.4, h.5⟩
  obtain ⟨u, hu, hfec, hradio, hpower⟩ := singleShot_restates ack hun (Loop.derive s.cfg d)
  have htrace : (s.listenBranch ack (some (bytes, now))).trace =
      s.trace ++ (.accepted (Loop.derive s.cfg d) :: u) := by
    have heq : s.listenBranch ack (some (bytes, now)) = s₁.acceptDecision ack now d := by
      simp [Loop.listenBranch, hacc, hs₁]
    rw [heq, Loop.acceptDecision, hdrop]
    show (s₂.applyDecision ack (Loop.derive s.cfg d)).trace = _
    rw [applyDecision_unset ack hun, hu, hs₂, Loop.emit, List.append_assoc]
    rfl
  exact ⟨_, htrace, hfec.imp fun ok => List.mem_cons_of_mem _,
    hradio.imp fun ok => List.mem_cons_of_mem _,
    hpower.imp fun iface => Exists.imp fun ok => List.mem_cons_of_mem _⟩

end Recovery

/-- **Failsafe recovery.**  In every sequence of branches, hence in every run of the loop
(`run_eq_inputs`): a failsafe is dispatched at most once after an accepted decision, never before the
first, and only when the timeout in force has elapsed; and while the watchdog is tripped the dedup
filter has seen nothing and the baselines are invalid, so that a frame that decodes is accepted
whatever its number and FEC, radio and power commands are sent. -/
theorem failsafe_recovery (ack : ℕ → Bool) (snap : DlRuntimeConfig) (gapFd : Bool) (is : List Input) :
    FailsafeSound (runMarks ack (Loop.start snap gapFd) is) ∧
      let s := is.foldl (Loop.input ack) (Loop.start snap gapFd)
      s.watchdog.tripped = true →
        s.dedup.ever = false ∧ s.tx.lastTx.magic ≠ kWireMagic ∧ s.lastEnc.magic ≠ kWireMagic ∧
        ∀ (bytes : List UInt8) (d : Decision) (now : ℕ), decodeDecision (bytes.take 256) = .ok d →
          s.accepts bytes = some d ∧
          ∃ u, (s.listenBranch ack (some (bytes, now))).trace = s.trace ++ u ∧
            Restates .decision s.cfg (Loop.derive s.cfg d) u := by
  have hinv := (Recovers.start snap gapFd).run ack is
  rw [List.nil_append] at hinv
  refine ⟨hinv.sound, fun htripped => ?_⟩
  obtain ⟨hever, hun⟩ := hinv.forgot htripped
  refine ⟨hever, ?_, ?_, fun bytes d now hdec => listen_restates ack hun hever hdec now⟩
  · rw [hun.lastTx]
    exact magic_default
  · rw [hun.lastEnc]
    exact magic_default

def silentRun : List Input :=
  [.listen (some (encodeDecision { sequence := 900, mcs := 4 }, 1000)), .tick (some 2000),
    .tick (some 20000)]

/-- After the silence, the first decision of a restarted ground station is accepted. -/
theorem failsafe_recovery_restart :
    runMarks allOk (Loop.start (buildDlSnapshot {} "wlan0") true) silentRun =
        [.accepted 1000, .failsafe 20000 10000] ∧
      ((silentRun.foldl (Loop.input allOk) (Loop.start (buildDlSnapshot {} "wlan0") true)).accepts
        (encodeDecision { sequence := 1, mcs := 2 })).isSome = true := by
  have htripped : (silentRun.foldl (Loop.input allOk)
      (Loop.start (buildDlSnapshot {} "wlan0") true)).watchdog.tripped = true := by decide +kernel
  have hrec := (failsafe_recovery allOk (buildDlSnapshot {} "wlan0") true silentRun).2
  obtain ⟨-, -, -, hnext⟩ := hrec htripped
  have hdec := decode_encode (d := { sequence := 1, mcs := 2 }) ⟨by decide, by decide, by decide⟩ []
  rw [List.append_nil, ← take_encodeDecision] at hdec
  refine ⟨by decide +kernel, ?_⟩
  rw [(hnext _ _ 20100 hdec).1]
  rfl

end Fpvd.DynLink
