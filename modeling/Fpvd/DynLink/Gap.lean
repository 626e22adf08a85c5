import Fpvd.DynLink.Controller

/-!
# Fpvd.DynLink.Gap — phase 2 waits for its own gap

`poll` reports the gap timer once per iteration.  When a decision of the same iteration supersedes
the pending one and arms the timer anew, the report is about the old arming, and the gap branch acts
on it nevertheless.
-/

namespace Fpvd.DynLink

open Run

/-- If the trace ends in phase 2 of `d`, the last arming was for `d` and it has expired since. -/
def Staggered (t : List Ev) : Prop :=
  ∀ t₁ d, t = t₁ ++ [.phase2 d] →
    ∃ u v, t₁ = u ++ .armed d :: v ∧ .expired ∈ v ∧ ∀ d', .armed d' ∉ v

/-! ## The last arming -/

def armStep : Option (Decision × Bool) → Ev → Option (Decision × Bool)
  | _, .armed d => some (d, false)
  | a, .expired => a.map fun p => (p.1, true)
  | a, _ => a

/-- The decision of the last arming, and whether the timer has expired since. -/
def gapState (t : List Ev) : Option (Decision × Bool) := t.foldl armStep none

@[simp] theorem gapState_concat (t : List Ev) (e : Ev) :
    gapState (t ++ [e]) = armStep (gapState t) e := by
  simp [gapState, List.foldl_append]

/-- The last arming in `t` is for `d`; if `x`, the timer has expired since. -/
def ArmedFor (t : List Ev) (d : Decision) (x : Bool) : Prop :=
  ∃ u v, t = u ++ .armed d :: v ∧ (x = true → .expired ∈ v) ∧ ∀ d', .armed d' ∉ v

variable {d : Decision} {t : List Ev} {s : Loop} (ack : ℕ → Bool)

theorem ArmedFor.concat {x y : Bool} {e : Ev} (h : ArmedFor t d y) (hne : ∀ d', e ≠ .armed d')
    (hx : x = true → y = true ∨ e = .expired) :
    ArmedFor (t ++ [e]) d x := by
  obtain ⟨u, v, rfl, hexp, harm⟩ := h
  refine ⟨u, v ++ [e], by simp, fun hxt => ?_, fun d' hd' => ?_⟩
  · rcases hx hxt with hy | rfl
    · exact List.mem_append_left _ (hexp hy)
    · simp
  · rcases List.mem_append.mp hd' with hd' | hd'
    · exact harm d' hd'
    · exact hne d' (List.mem_singleton.mp hd').symm

theorem gapState_spec {x : Bool} (h : gapState t = some (d, x)) :
    ArmedFor t d x := by
  induction t using List.reverseRecOn generalizing x with
  | nil => cases h
  | append_singleton t e ih =>
    rw [gapState_concat] at h
    cases e with
    | armed d' =>
      cases h
      exact ⟨t, [], rfl, nofun, fun _ => List.not_mem_nil⟩
    | expired =>
      obtain ⟨⟨d', y⟩, hy, heq⟩ := Option.map_eq_some_iff.mp h
      cases heq
      exact (ih hy).concat (fun _ h => by cases h) fun _ => .inr rfl
    | cmd | accepted | done | disarmed | phase2 | tripped | reconciled =>
      exact (ih h).concat (fun _ h => by cases h) .inl

/-- An event that neither concerns the gap timer's armings nor enters phase 2. -/
def Neutral : Ev → Prop
  | .armed _ | .expired | .phase2 _ => False
  | _ => True

theorem gapState_neutral {p : List Ev} (h : Grows Neutral t p) : gapState p = gapState t := by
  obtain ⟨u, rfl, hu⟩ := h
  induction u using List.reverseRecOn with
  | nil => rw [List.append_nil]
  | append_singleton u e ih =>
    rw [← List.append_assoc, gapState_concat, ih fun e' he' => hu e' (List.mem_append_left _ he')]
    match e, hu e (by simp) with
    | .cmd _ _ _, _ | .accepted _, _ | .done _, _ | .disarmed, _ | .tripped, _
    | .reconciled _ _ _, _ => rfl

def NoPhase2 (e : Ev) : Prop := ∀ d, e ≠ .phase2 d

theorem Neutral.noPhase2 : ∀ e, Neutral e → NoPhase2 e
  | .cmd _ _ _, _ | .accepted _, _ | .done _, _ | .disarmed, _ | .tripped, _ | .reconciled _ _ _, _ =>
    nofun

theorem staggered_noPhase2 {p : List Ev} (ht : Throughout Staggered t) (h : Grows NoPhase2 t p) :
    Throughout Staggered p := by
  refine ht.grows h fun q hq t₁ d heq => ?_
  obtain ⟨u, rfl, hu⟩ := hq
  rcases List.eq_nil_or_concat u with rfl | ⟨v, e, rfl⟩
  · rw [List.append_nil] at heq
    exact ht.last t₁ d heq
  · rw [List.concat_eq_append, ← List.append_assoc] at heq
    have he := (List.append_inj' heq rfl).2
    exact absurd (List.cons.inj he).1 (hu e (by simp) d)

theorem staggered_phase2 (ht : Throughout Staggered t) (hd : gapState t = some (d, true)) :
    Throughout Staggered (t ++ [.phase2 d]) := by
  refine (throughout_concat _ _).mpr ⟨ht, fun t₁ d' heq => ?_⟩
  obtain ⟨rfl, he⟩ := List.append_inj' heq rfl
  cases he
  obtain ⟨u, v, h, hexp, harm⟩ := gapState_spec hd
  exact ⟨u, v, h, hexp rfl, harm⟩

/-! ## What the branches leave of the gap -/

/-- The pending decision is the one of the last arming, and an unread expiration is its own. -/
def Held (s : Loop) : Prop :=
  s.applyState ≠ .idle →
    ∃ x, gapState s.trace = some (s.applyPending, x) ∧ (s.timer.expired = true → x = true)

/-- The pending decision's own gap has run out. -/
def Due (s : Loop) : Prop := s.applyState ≠ .idle → gapState s.trace = some (s.applyPending, true)

/-- The pending decision, the apply state and the timer are the same, and nothing but commands and
notes were added to the trace. -/
structure SameGap (s s' : Loop) : Prop where
  applyState : s'.applyState = s.applyState
  applyPending : s'.applyPending = s.applyPending
  timer : s'.timer = s.timer
  grows : Grows Neutral s.trace s'.trace

section SameGap

variable {s s' s'' : Loop}

theorem SameGap.trans (h : SameGap s s') (h' : SameGap s' s'') : SameGap s s'' :=
  ⟨h'.1.trans h.1, h'.2.trans h.2, h'.3.trans h.3, h.4.trans h'.4⟩

theorem SameGap.held (h : SameGap s s') (hs : Held s) : Held s' := by
  unfold Held
  rw [h.applyState, h.applyPending, h.timer, gapState_neutral h.grows]
  exact hs

theorem SameGap.due (h : SameGap s s') (hs : Due s) : Due s' := by
  unfold Due
  rw [h.applyState, h.applyPending, gapState_neutral h.grows]
  exact hs

theorem sameGap_emit (s : Loop) {e : Ev} (he : Neutral e) : SameGap s (s.emit e) :=
  ⟨rfl, rfl, rfl, Grows.concat he⟩

theorem IsTxCmd.neutral {b : Branch} {cfg : DlRuntimeConfig} {d : Decision} (e : Ev)
    (he : IsTxCmd b cfg d e) : Neutral e := by
  obtain ⟨c, ok, rfl⟩ := IsTxCmd.isCmd e he
  trivial

theorem IsEncCmd.neutral {b : Branch} {r : ℕ} (e : Ev) (he : IsEncCmd b r e) : Neutral e := by
  obtain ⟨c, ok, rfl⟩ := IsEncCmd.isCmd e he
  trivial

theorem sameGap_onTx (s : Loop) {f : Io TxClients → Io TxClients}
    (hf : Grows Neutral s.trace (f ⟨s.tx, s.trace⟩).trace) : SameGap s (s.onTx f) :=
  ⟨rfl, rfl, rfl, hf⟩

theorem sameGap_onEnc (s : Loop) {f : Io EncoderClient → Io EncoderClient}
    (hf : Grows Neutral s.trace (f ⟨s.enc, s.trace⟩).trace) : SameGap s (s.onEnc f) :=
  ⟨rfl, rfl, rfl, hf⟩

variable (ack : ℕ → Bool)

theorem sameGap_dispatch (b : Branch) (d : Decision) (s : Loop) :
    SameGap s (s.onTx (dispatchTxApply ack b s.cfg d)) :=
  sameGap_onTx s ((dispatchTxApply_grows ack b s.cfg d _).mono IsTxCmd.neutral)

theorem sameGap_encode (b : Branch) (r fps : ℕ) (s : Loop) :
    SameGap s (s.onEnc (EncoderClient.apply ack b r fps)) :=
  sameGap_onEnc s ((encApply_grows ack b r fps _).mono IsEncCmd.neutral)

theorem sameGap_reconcile (snap : DlRuntimeConfig) (s : Loop) :
    SameGap s (s.reconcile ack snap) := by
  unfold Loop.reconcile
  dsimp only
  split_ifs
  · exact ⟨rfl, rfl, rfl, (Grows.concat trivial).trans (Grows.concat trivial)⟩
  · exact ⟨rfl, rfl, rfl, Grows.concat trivial⟩

theorem sameGap_event (s : Loop) : ∀ w, SameGap s (s.eventBranch ack w)
  | none => ⟨rfl, rfl, rfl, Grows.refl _⟩
  | some .stop => ⟨rfl, rfl, rfl, Grows.refl _⟩
  | some (.config snap) => sameGap_reconcile ack snap s

end SameGap

/-! ### Expiry -/

section Expire

variable {s : Loop} (now : Bool)

theorem expire_grows : Grows NoPhase2 s.trace (s.expire now).trace := by
  unfold Loop.expire
  split_ifs
  · exact Grows.concat nofun
  · exact Grows.refl _

theorem expire_held (h : Held s) : Held (s.expire now) := by
  unfold Loop.expire
  split_ifs
  · intro hs
    obtain ⟨x, hx, -⟩ := h hs
    exact ⟨true, by simp [hx, armStep], fun _ => rfl⟩
  · exact h

theorem expire_due (h : Due s) : Due (s.expire now) := by
  unfold Loop.expire
  split_ifs
  · intro hs
    simp [h hs, armStep]
  · exact h

theorem expire_due_of_armed (h : Held s) (harm : s.timer.armed = true) : Due (s.expire true) := by
  unfold Loop.expire
  rw [harm, Bool.and_self, if_pos rfl]
  intro hs
  obtain ⟨x, hx, -⟩ := h hs
  simp [hx, armStep]

theorem Held.due (h : Held s) (hexp : s.timer.expired = true) : Due s := by
  intro hs
  obtain ⟨x, hx, hx'⟩ := h hs
  rw [hx, hx' hexp]

end Expire

/-! ### Decision -/

/-- Does the loop, under `cfg`, apply the wire decision `w` in two phases? -/
def Staggers (cfg : DlRuntimeConfig) (s : Loop) (w : Decision) : Prop :=
  cfg.applyStaggerMs ≠ 0 ∧ s.gapFd = true ∧
    applyDirection s.lastEnc.bitrateKbps (Loop.derive cfg w).bitrateKbps
      (s.lastEnc.magic ≠ kWireMagic) ≠ .equal

instance (cfg : DlRuntimeConfig) (s : Loop) (w : Decision) : Decidable (Staggers cfg s w) :=
  inferInstanceAs (Decidable (_ ∧ _ ∧ _))

structure JustArmed (s : Loop) : Prop where
  gap : gapState s.trace = some (s.applyPending, false)
  timer : s.timer = { armed := true, expired := false }

theorem JustArmed.held (h : JustArmed s) : Held s :=
  fun _ => ⟨false, h.gap, by rw [h.timer]; nofun⟩

theorem held_of_idle (h : s.applyState = .idle) : Held s := fun hn => absurd h hn

theorem due_of_idle (h : s.applyState = .idle) : Due s := fun hn => absurd h hn

theorem dropPending_grows (s : Loop) : Grows Neutral s.trace s.dropPending.trace := by
  unfold Loop.dropPending
  split_ifs
  · exact Grows.refl _
  · exact Grows.concat trivial
  · exact Grows.refl _

section Decision

variable (ack : ℕ → Bool) (d : Decision) (s : Loop)

theorem singleShot_same : SameGap s (s.singleShot ack d) :=
  ((sameGap_dispatch ack .decision d s).trans
    (sameGap_encode ack .decision d.bitrateKbps d.fps _)).trans
    ⟨rfl, rfl, rfl, Grows.concat trivial⟩

theorem armGap_justArmed {s' : Loop} (hc : s'.cfg.applyStaggerMs ≠ 0) (hp : s'.applyPending = d) :
    JustArmed (s'.armGap d) :=
  ⟨by simp [Loop.armGap, armStep, hp], by simp [Loop.armGap, hc]⟩

theorem applyDecision_gap (hidle : s.applyState = .idle) :
    Grows NoPhase2 s.trace (s.applyDecision ack d).trace ∧
      (s.applyDecision ack d).watchdog = s.watchdog ∧
      ((s.applyDecision ack d).applyState = .idle ∨
        (JustArmed (s.applyDecision ack d) ∧ s.canStagger = true ∧ s.direction d ≠ .equal)) := by
  have hsingle : Grows NoPhase2 s.trace (s.singleShot ack d).trace ∧
      (s.singleShot ack d).watchdog = s.watchdog ∧ (s.singleShot ack d).applyState = .idle :=
    ⟨(singleShot_same ack d s).grows.mono Neutral.noPhase2, rfl, hidle⟩
  unfold Loop.applyDecision
  split_ifs with hcan
  · have hst : s.cfg.applyStaggerMs ≠ 0 := by
      simp only [Loop.canStagger, Bool.and_eq_true, decide_eq_true_eq] at hcan
      exact hcan.1
    split
    · exact ⟨hsingle.1, hsingle.2.1, .inl hsingle.2.2⟩
    · next hd =>
      have hg := (sameGap_dispatch ack .decision d s).grows.mono Neutral.noPhase2
      exact ⟨hg.trans (Grows.concat nofun), rfl,
        .inr ⟨armGap_justArmed d hst rfl, hcan, by rw [hd]; decide⟩⟩
    · next hd =>
      have hg := (sameGap_encode ack .decision d.bitrateKbps d.fps s).grows.mono Neutral.noPhase2
      exact ⟨hg.trans (Grows.concat nofun), rfl,
        .inr ⟨armGap_justArmed d hst rfl, hcan, by rw [hd]; decide⟩⟩
  · exact ⟨hsingle.1, hsingle.2.1, .inl hsingle.2.2⟩

theorem acceptDecision_gap (now : ℕ) (w : Decision) :
    Grows NoPhase2 s.trace (s.acceptDecision ack now w).trace ∧
      ((s.acceptDecision ack now w).applyState = .idle ∨
        (JustArmed (s.acceptDecision ack now w) ∧ Staggers s.cfg s w ∧
          (s.acceptDecision ack now w).watchdog = s.watchdog.notifyDecision now)) := by
  obtain ⟨hidle, hcfg, hfd, henc, hwd⟩ := Loop.dropPending_frame s
  set d := Loop.derive s.dropPending.cfg w with hd
  set s₁ := s.dropPending.emit (.accepted d)
  obtain ⟨hg, hw, hcase⟩ := applyDecision_gap ack d s₁ hidle
  have hg₁ : Grows NoPhase2 s.trace s₁.trace :=
    ((dropPending_grows s).trans
      (sameGap_emit s.dropPending (e := .accepted d) trivial).grows).mono Neutral.noPhase2
  refine ⟨hg₁.trans hg, hcase.imp id fun ⟨harm, hcan, hdir⟩ => ⟨⟨harm.gap, harm.timer⟩, ?_, ?_⟩⟩
  · simp only [Loop.canStagger, Bool.and_eq_true, decide_eq_true_eq] at hcan
    refine ⟨hcfg ▸ hcan.1, hfd ▸ hcan.2, ?_⟩
    rw [← henc, ← hcfg, ← hd]
    exact hdir
  · show ((s₁.applyDecision ack d).watchdog).notifyDecision now = _
    rw [hw]
    exact congrArg _ hwd

/-- What the listen branch leaves: everything as it was, nothing pending, or a freshly armed timer
for a decision that staggers. -/
theorem listenBranch_gap (msg : Option (List UInt8 × ℕ)) :
    Grows NoPhase2 s.trace (s.listenBranch ack msg).trace ∧
      (s.listenBranch ack msg = s ∨ (s.listenBranch ack msg).applyState = .idle ∨
        (JustArmed (s.listenBranch ack msg) ∧ ∃ bytes now w, msg = some (bytes, now) ∧
          s.accepts bytes = some w ∧ Staggers s.cfg s w ∧
          (s.listenBranch ack msg).watchdog = s.watchdog.notifyDecision now)) := by
  match msg with
  | none => exact ⟨Grows.refl _, .inl rfl⟩
  | some (bytes, now) =>
    cases ha : s.accepts bytes with
    | none =>
      have heq : s.listenBranch ack (some (bytes, now)) = s := by simp [Loop.listenBranch, ha]
      rw [heq]
      exact ⟨Grows.refl _, .inl rfl⟩
    | some w =>
      have heq : s.listenBranch ack (some (bytes, now)) =
          Loop.acceptDecision ack now w { s with dedup := s.dedup.check w.sequence } := by
        simp [Loop.listenBranch, ha]
      rw [heq]
      obtain ⟨hg, hcase⟩ :=
        acceptDecision_gap ack { s with dedup := s.dedup.check w.sequence } now w
      exact ⟨hg, .inr (hcase.imp id fun ⟨harm, hst, hw⟩ => ⟨harm, bytes, now, w, rfl, ha, hst, hw⟩)⟩

end Decision

/-! ### Tick -/

section Tick

variable (ack : ℕ → Bool) (s : Loop)

theorem trip_gap :
    Grows Neutral s.trace (s.trip ack).trace ∧ (s.trip ack).applyState = .idle := by
  refine ⟨?_, (Loop.dropPending_frame s).1⟩
  have h1 := (dispatchTxSafe_grows ack .tick s.dropPending.cfg
    ⟨s.dropPending.tx, s.dropPending.trace⟩).mono IsTxCmd.neutral
  have h2 := (encApplySafe_grows ack .tick (safeDecision s.dropPending.cfg).bitrateKbps
    ⟨s.dropPending.enc, (s.dropPending.onTx (dispatchTxSafe ack .tick s.dropPending.cfg)).trace⟩).mono
    IsEncCmd.neutral
  have h3 : Neutral .tripped := trivial
  exact (((dropPending_grows s).trans h1).trans h2).trans (Grows.concat h3)

theorem tickBranch_gap : ∀ tick, Grows NoPhase2 s.trace (s.tickBranch ack tick).trace ∧
    (SameGap s (s.tickBranch ack tick) ∨ (s.tickBranch ack tick).applyState = .idle) ∧
    ∀ now, tick = some now → s.watchdog.fires now = true →
      (s.tickBranch ack tick).applyState = .idle
  | none => ⟨Grows.refl _, .inl ⟨rfl, rfl, rfl, Grows.refl _⟩, nofun⟩
  | some now => by
    obtain ⟨hg, hidle⟩ := trip_gap ack { s with watchdog := s.watchdog.tick now }
    unfold Loop.tickBranch
    dsimp only
    by_cases hf : s.watchdog.fires now = true
    · rw [if_pos hf]
      split_ifs
      · exact ⟨hg.mono Neutral.noPhase2, .inr hidle, fun _ _ _ => hidle⟩
      · exact ⟨hg.mono Neutral.noPhase2, .inr hidle, fun _ _ _ => hidle⟩
    · rw [if_neg hf]
      have hno : ∀ t, some now = some t → s.watchdog.fires t = true → False := by
        rintro t ⟨⟩ ht
        exact hf ht
      split_ifs
      · exact ⟨Grows.refl _, .inl ⟨rfl, rfl, rfl, Grows.refl _⟩, fun t h ht => (hno t h ht).elim⟩
      · exact ⟨Grows.refl _, .inl ⟨rfl, rfl, rfl, Grows.refl _⟩, fun t h ht => (hno t h ht).elim⟩

end Tick

/-! ## Runs -/

def Loop.cfgAfter (s : Loop) : Option Loop.Wake → DlRuntimeConfig
  | some (.config snap) => snap
  | _ => s.cfg

def Loop.timeoutAfter (s : Loop) : Option Loop.Wake → ℕ
  | some (.config snap) => snap.healthTimeoutMs
  | _ => s.watchdog.timeoutMs

/-- The round arms the timer for a new decision while `poll` has reported an earlier expiry, the new
gap does not run out within the round either, and no watchdog trip drops the decision again. -/
structure Overlap (s : Loop) (r : Round) : Prop where
  running : s.stopped = false
  event : r.event ≠ some .stop
  ready : (s.expire r.expirePoll).timer.expired = true
  decision : ∃ bytes now w, r.listen = some (bytes, now) ∧ s.accepts bytes = some w ∧
    Staggers (s.cfgAfter r.event) s w ∧
    ¬ ∃ t, r.tick = some t ∧ now ≤ t ∧ s.timeoutAfter r.event ≤ t - now
  expireTick : r.expireTick = false
  expireGap : r.expireGap = false

structure GapInv (s : Loop) : Prop where
  points : Throughout Staggered s.trace
  held : Held s

theorem expire_frame (s : Loop) (now : Bool) :
    (s.expire now).cfg = s.cfg ∧ (s.expire now).gapFd = s.gapFd ∧
      (s.expire now).lastEnc = s.lastEnc ∧ (s.expire now).watchdog = s.watchdog ∧
      (s.expire now).dedup = s.dedup := by
  unfold Loop.expire
  split_ifs <;> exact ⟨rfl, rfl, rfl, rfl, rfl⟩

theorem eventBranch_frame (s : Loop) : ∀ w,
    (s.eventBranch ack w).cfg = s.cfgAfter w ∧ (s.eventBranch ack w).gapFd = s.gapFd ∧
      (s.eventBranch ack w).lastEnc = s.lastEnc ∧
      (s.eventBranch ack w).watchdog.timeoutMs = s.timeoutAfter w ∧
      (s.eventBranch ack w).dedup = s.dedup
  | none => ⟨rfl, rfl, rfl, rfl, rfl⟩
  | some .stop => ⟨rfl, rfl, rfl, rfl, rfl⟩
  | some (.config snap) => by
    unfold Loop.eventBranch Loop.reconcile
    dsimp only
    split_ifs <;> exact ⟨rfl, rfl, rfl, rfl, rfl⟩

theorem fires_notifyDecision {w : Watchdog} {now t : ℕ} (h1 : now ≤ t)
    (h2 : w.timeoutMs ≤ t - now) : (w.notifyDecision now).fires t = true := by
  simp [Watchdog.fires, Watchdog.notifyDecision, h1, h2]

theorem gapBranch_inv (h : GapInv s) {ready : Bool} (hdue : ready = true → Due s) :
    GapInv (s.gapBranch ack ready) := by
  unfold Loop.gapBranch
  split_ifs with hr
  · have hp : s.applyState ≠ .idle → Throughout Staggered (s.trace ++ [.phase2 s.applyPending]) :=
      fun hs => staggered_phase2 h.points (hdue hr hs)
    dsimp only
    split
    · next hs => exact ⟨h.points, held_of_idle hs⟩
    · next hs =>
      refine ⟨staggered_noPhase2 (hp (by rw [hs]; decide)) ?_, held_of_idle rfl⟩
      exact ((encApply_grows ack .gap _ _ _).mono fun e he =>
        Neutral.noPhase2 e (IsEncCmd.neutral e he)).trans
          (Grows.concat (Neutral.noPhase2 (.done _) trivial))
    · next hs =>
      refine ⟨staggered_noPhase2 (hp (by rw [hs]; decide)) ?_, held_of_idle rfl⟩
      exact ((dispatchTxApply_grows ack .gap _ _ _).mono fun e he =>
        Neutral.noPhase2 e (IsTxCmd.neutral e he)).trans
          (Grows.concat (Neutral.noPhase2 (.done _) trivial))
  · exact h

theorem atListen_frame (s : Loop) (r : Round) :
    let s₃ := ((s.expire r.expirePoll).eventBranch ack r.event).expire r.expireListen
    (∀ bytes, s₃.accepts bytes = s.accepts bytes) ∧
      (∀ w, Staggers s₃.cfg s₃ w ↔ Staggers (s.cfgAfter r.event) s w) ∧
      s₃.watchdog.timeoutMs = s.timeoutAfter r.event := by
  dsimp only
  obtain ⟨g1, g2, g3, g4, g5⟩ := expire_frame s r.expirePoll
  obtain ⟨e1, e2, e3, e4, e5⟩ := eventBranch_frame ack (s.expire r.expirePoll) r.event
  obtain ⟨f1, f2, f3, f4, f5⟩ :=
    expire_frame ((s.expire r.expirePoll).eventBranch ack r.event) r.expireListen
  have hcfg : (s.expire r.expirePoll).cfgAfter r.event = s.cfgAfter r.event := by
    unfold Loop.cfgAfter
    rw [g1]
  refine ⟨fun bytes => ?_, fun w => ?_, ?_⟩
  · unfold Loop.accepts
    rw [f5, e5, g5]
  · unfold Staggers
    rw [f1, e1, hcfg, f2, e2, g2, f3, e3, g3]
  · rw [f4, e4]
    unfold Loop.timeoutAfter
    rw [g4]

section Rest

variable (ack : ℕ → Bool) {s : Loop} {tick : Option ℕ}

theorem tickBranch_held (h : Held s) : Held (s.tickBranch ack tick) := by
  rcases (tickBranch_gap ack s tick).2.1 with hsame | hidle
  · exact hsame.held h
  · exact held_of_idle hidle

theorem tickBranch_due (h : Due s) : Due (s.tickBranch ack tick) := by
  rcases (tickBranch_gap ack s tick).2.1 with hsame | hidle
  · exact hsame.due h
  · exact due_of_idle hidle

/-- A freshly armed decision is due at the gap branch, or dropped, if its gap runs out within the
round or the watchdog trips. -/
theorem due_of_justArmed (harm : JustArmed s) {w : Watchdog} {now : ℕ}
    (hwd : s.watchdog = w.notifyDecision now) {x y : Bool}
    (h : x = true ∨ y = true ∨ ∃ t, tick = some t ∧ now ≤ t ∧ w.timeoutMs ≤ t - now) :
    Due (((s.expire x).tickBranch ack tick).expire y) := by
  have harmed : s.timer.armed = true := by rw [harm.timer]
  cases x with
  | true => exact expire_due _ (tickBranch_due ack (expire_due_of_armed harm.held harmed))
  | false =>
    have hs : s.expire false = s := by simp [Loop.expire]
    rw [hs]
    obtain ⟨-, hcase, htrip⟩ := tickBranch_gap ack s tick
    rcases h with h | rfl | ⟨t, rfl, h1, h2⟩
    · cases h
    · rcases hcase with hsame | hidle
      · exact expire_due_of_armed (tickBranch_held ack harm.held) (by rw [hsame.timer, harmed])
      · exact expire_due _ (due_of_idle hidle)
    · have hf : s.watchdog.fires t = true := by
        rw [hwd]
        exact fires_notifyDecision h1 h2
      exact expire_due _ (due_of_idle (htrip t rfl hf))

end Rest

/-- The step: without an overlap, whatever `poll` reported is the pending decision's own expiry by
the time the gap branch runs. -/
theorem GapInv.round (ack : ℕ → Bool) {s : Loop} (h : GapInv s) {r : Round} (hno : ¬ Overlap s r) :
    GapInv (round ack s r) := by
  unfold DynLink.round
  split_ifs with hrun
  · exact h
  dsimp only
  have held₁ : Held (s.expire r.expirePoll) := expire_held _ h.held
  have pts₁ := staggered_noPhase2 h.points (expire_grows (s := s) r.expirePoll)
  have same₂ := sameGap_event ack (s.expire r.expirePoll) r.event
  have pts₂ := staggered_noPhase2 pts₁ (same₂.grows.mono Neutral.noPhase2)
  split_ifs with hstop
  · exact ⟨pts₂, same₂.held held₁⟩
  obtain ⟨hacc, hstag, hto⟩ := atListen_frame ack s r
  set s₂ := (s.expire r.expirePoll).eventBranch ack r.event
  have pts₃ := staggered_noPhase2 pts₂ (expire_grows (s := s₂) r.expireListen)
  set s₃ := s₂.expire r.expireListen
  have held₃ : Held s₃ := expire_held _ (same₂.held held₁)
  obtain ⟨hg₄, hcase⟩ := listenBranch_gap ack s₃ r.listen
  set s₄ := s₃.listenBranch ack r.listen
  have held₄ : Held s₄ := by
    rcases hcase with heq | hidle | ⟨harm, -⟩
    · rw [heq]; exact held₃
    · exact held_of_idle hidle
    · exact harm.held
  have pts₅ := staggered_noPhase2 (staggered_noPhase2 pts₃ hg₄) (expire_grows (s := s₄) r.expireTick)
  have pts₆ := staggered_noPhase2 pts₅ (tickBranch_gap ack (s₄.expire r.expireTick) r.tick).1
  have pts₇ := staggered_noPhase2 pts₆
    (expire_grows (s := (s₄.expire r.expireTick).tickBranch ack r.tick) r.expireGap)
  refine gapBranch_inv ack
    ⟨pts₇, expire_held _ (tickBranch_held ack (expire_held _ held₄))⟩ fun hready => ?_
  rcases hcase with heq | hidle | ⟨harm, bytes, now, w, hmsg, ha, hst, hwd⟩
  · -- the pending decision is still the one whose expiry was reported
    have due₄ : Due s₄ := by rw [heq]; exact expire_due _ (same₂.due (held₁.due hready))
    exact expire_due _ (tickBranch_due ack (expire_due _ due₄))
  · exact expire_due _ (tickBranch_due ack (expire_due _ (due_of_idle hidle)))
  · -- a new decision was armed under the old report
    refine due_of_justArmed ack harm hwd ?_
    by_contra hnone
    push Not at hnone
    obtain ⟨hT, hG, htick⟩ := hnone
    refine hno ⟨by simpa using hrun, ?_, hready, ⟨bytes, now, w, hmsg, hacc bytes ▸ ha,
      (hstag w).mp hst, ?_⟩, by simpa using hT, by simpa using hG⟩
    · intro he
      exact hstop (by simp [s₂, he, Loop.eventBranch])
    · rintro ⟨t, ht, h1, h2⟩
      exact absurd (hto ▸ h2) (not_le.mpr (htick t ht h1))

/-- **Phase 2 waits for its own gap** in every run none of whose rounds arms the timer for a new
decision under the report of an earlier expiry. -/
theorem staggered_of_no_overlap (ack : ℕ → Bool) (snap : DlRuntimeConfig) (gapFd : Bool)
    (rs : List Round)
    (h : Meets (round ack) (fun s r => ¬ Overlap s r) (Loop.start snap gapFd) rs) :
    Throughout Staggered (run ack (Loop.start snap gapFd) rs).trace := by
  have h0 : GapInv (Loop.start snap gapFd) :=
    ⟨throughout_nil.mpr fun t₁ d h => by simp at h, held_of_idle rfl⟩
  exact (h.invariant (fun s r hs hr => hs.round ack hr) rs _ h0).points

def separateRun : List Round :=
  [Round.frame 1 2 1000, Round.frame 2 4 1100, { expirePoll := true }]

theorem staggered_of_no_overlap_sample :
    gapState (run allOk (Loop.start (buildDlSnapshot {} "wlan0") true) separateRun).trace =
        some (Loop.derive (buildDlSnapshot {} "wlan0")
          { magic := kWireMagic, version := 3, sequence := 2, mcs := 4 }, true) ∧
      Throughout Staggered
        (run allOk (Loop.start (buildDlSnapshot {} "wlan0") true) separateRun).trace := by
  refine ⟨by decide +kernel, staggered_of_no_overlap allOk _ true separateRun ⟨?_, ?_, ?_, trivial⟩⟩
  · exact fun h => absurd h.ready (by decide +kernel)
  · exact fun h => absurd h.ready (by decide +kernel)
  · rintro ⟨-, -, -, ⟨_, _, _, hmsg, -⟩, -, -⟩
    exact nomatch hmsg

theorem not_staggered_adjacent (t : List Ev) (d d' : Decision) :
    ¬ Staggered (t ++ [.armed d'] ++ [.phase2 d]) := by
  intro h
  obtain ⟨u, v, heq, hexp, harm⟩ := h _ d rfl
  -- the expiry would have to follow the arming that ends the trace
  have hlast : (Ev.armed d :: v).getLast? = some (.armed d') := by
    have := congrArg List.getLast? heq
    simpa [List.getLast?_append] using this.symm
  cases v with
  | nil => cases hexp
  | cons e v =>
    rw [List.getLast?_cons_cons] at hlast
    exact harm d' (List.mem_of_getLast? hlast)

def overlapRun : List Round :=
  [Round.frame 1 2 1000, Round.frame 2 4 1100, { Round.frame 3 7 1200 with expirePoll := true }]

/-- **The stale report triggers phase 2.**  The encoder is raised in the same iteration as the TX. -/
theorem superseding_decision_not_staggered :
    ¬ Throughout Staggered
      (run allOk (Loop.start (buildDlSnapshot {} "wlan0") true) overlapRun).trace := by
  intro h
  set d := Loop.derive (buildDlSnapshot {} "wlan0")
    { magic := kWireMagic, version := 3, sequence := 3, mcs := 7 }
  set t := (run allOk (Loop.start (buildDlSnapshot {} "wlan0") true) overlapRun).trace
  have htake : t.take 16 = t.take 14 ++ [.armed d] ++ [.phase2 d] := by decide +kernel
  exact not_staggered_adjacent _ d d (htake ▸ h _ (List.take_prefix 16 t))

end Fpvd.DynLink
