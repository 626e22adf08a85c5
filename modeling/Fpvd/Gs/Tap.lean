import Mathlib.Data.Real.Basic
import Fpvd.Gs.Signals

/-!
# Fpvd.Gs.Tap — the loop that feeds the policy (`_run` of `gs/fpvdgs/dynlink/controller.py`)

While the tap of the receiver is alive, its records drive the aggregator and every tenth of them a
tick of the policy; otherwise the video records of the `:8103` feed do both.
-/

namespace Fpvd.Gs

structure LoopConfig where
  policy : PolicyConfig := {}
  smoothing : Smoothing := {}
  /-- `tap.staleMs`, in seconds -/
  tapStaleS : ℚ := 1 / 2
  /-- the tenth root of the platform -/
  root : ℚ → ℚ

/-- What comes in, with the clocks that are read: `alive` where the loop asks whether the tap is
alive, `rx` where it notes the record, and `now` for the time of day. -/
inductive LoopInput where
  | micro (rec : TapMicro) (alive rx now : ℚ) (probe : OrdMap ℤ ProbeReading)
  | loss (lostCount : ℤ) (alive rx now : ℚ)
  | session (ev : SessionEvent)
  | rx (ev : RxEvent) (alive : ℚ) (probe : OrdMap ℤ ProbeReading)
  /-- a drone connects; the prior bound to its adapter, if it reports one -/
  | connected (prior : Option KneeModel)
  deriving DecidableEq

structure TapLoop where
  agg : SignalAggregator := {}
  policy : Policy
  lastRx : Option ℚ := none
  micros : ℕ := 0
  /-- `tapActive` of the status -/
  tapActive : Bool := false
  deriving DecidableEq

def isVideo (id : String) : Bool := idHas "video" id

namespace TapLoop

section Model

variable (cfg : LoopConfig)

def tapAlive (alive : ℚ) (st : TapLoop) : Bool :=
  match st.lastRx with
  | none => false
  | some lastRx => alive - lastRx < cfg.tapStaleS

def markTapRx (alive rx : ℚ) (st : TapLoop) : TapLoop :=
  if st.tapAlive cfg alive then { st with lastRx := some rx }
  else
    let agg := st.agg.resetMicroWindow
    { st with
      lastRx := some rx
      micros := 0
      agg := { agg with signals := { agg.signals with tapActive := true } }
      tapActive := true }

def tick (probe : OrdMap ℤ ProbeReading) (st : TapLoop) : TapLoop :=
  let signals := { st.agg.signals with probe := probe }
  { st with
    agg := { st.agg with signals := signals }
    policy := (st.policy.tick cfg.policy signals.toSignals).1 }

def takeMicro (rec : TapMicro) (alive rx now : ℚ) (st : TapLoop) : TapLoop :=
  let st := st.markTapRx cfg alive rx
  let agg := st.agg.consumeMicro cfg.smoothing cfg.root rec now
  { st with
    agg := agg
    policy := if rec.pktLost ≠ 0 then (st.policy.lossEvent cfg.policy agg.signals.toSignals).1
      else st.policy
    micros := st.micros + 1 }

def takeLoss (lostCount : ℤ) (alive rx now : ℚ) (st : TapLoop) : TapLoop :=
  let st := st.markTapRx cfg alive rx
  let agg := st.agg.consumeLoss cfg.smoothing lostCount now
  { st with
    agg := agg
    policy := (st.policy.lossEvent cfg.policy agg.signals.toSignals).1 }

def noteSession (session : Option SessionInfo) (st : TapLoop) : TapLoop :=
  match session with
  | none => st
  | some s => { st with agg := st.agg.updateSession s }

def takeRx (ev : RxEvent) (alive : ℚ) (probe : OrdMap ℤ ProbeReading) (st : TapLoop) : TapLoop :=
  let st := st.noteSession ev.session
  if st.tapAlive cfg alive then st
  else
    let agg := { st.agg with signals := { st.agg.signals with tapActive := false } }
    let tapActive := if st.agg.signals.tapActive then false else st.tapActive
    tick cfg probe { st with agg := agg.consume cfg.smoothing ev, tapActive := tapActive }

def newSession (prior : Option KneeModel) (st : TapLoop) : TapLoop :=
  let policy := { st.policy with learnedPrior := prior.getD st.policy.learnedPrior }
  { st with agg := st.agg.resetSmoothed, policy := policy.resetForNewSession cfg.policy }

def step (st : TapLoop) : LoopInput → TapLoop
  | .micro rec alive rx now probe =>
    let st := st.takeMicro cfg rec alive rx now
    if st.micros % microsPerWindow = 0 then st.tick cfg probe else st
  | .loss lostCount alive rx now => st.takeLoss cfg lostCount alive rx now
  | .session ev => if isVideo ev.id then st.noteSession (some ev.session) else st
  | .rx ev alive probe => if isVideo ev.id then st.takeRx cfg ev alive probe else st
  | .connected prior => st.newSession cfg prior

def microTick (st : TapLoop) : LoopInput → Option WindowSignals
  | .micro rec alive rx now probe =>
    let st := st.takeMicro cfg rec alive rx now
    if st.micros % microsPerWindow = 0 then some (st.tick cfg probe).agg.signals else none
  | _ => none

end Model

/-! ## The records since the tap became alive -/

/-- What a run shows of the tap: it becomes alive, or a `MICRO` record comes in. -/
inductive TapMark where
  | revived
  | micro (rec : TapMicro)
  deriving DecidableEq

def marks (cfg : LoopConfig) (st : TapLoop) : LoopInput → List TapMark
  | .micro rec alive _ _ _ =>
    (if st.tapAlive cfg alive then [] else [.revived]) ++ [.micro rec]
  | .loss _ alive _ _ => if st.tapAlive cfg alive then [] else [.revived]
  | _ => []

def counted (recs : List TapMicro) : TapMark → List TapMicro
  | .revived => []
  | .micro rec => recs ++ [rec]

def sinceRevival (marks : List TapMark) : List TapMicro := marks.foldl counted []

/-- What the loop keeps of the records since the tap became alive: their number, and the last ten. -/
structure Tracks (st : TapLoop) (recs : List TapMicro) : Prop where
  micros : st.micros = recs.length
  window : st.agg.micro = (recs.map TapMicro.counters).rtake microsPerWindow

variable {cfg : LoopConfig} {st : TapLoop} {recs : List TapMicro}

theorem sinceRevival_append (l l' : List TapMark) :
    sinceRevival (l ++ l') = l'.foldl counted (sinceRevival l) := List.foldl_append

theorem Tracks.markTapRx (cfg : LoopConfig) (h : Tracks st recs) (alive rx : ℚ) :
    Tracks (st.markTapRx cfg alive rx) (if st.tapAlive cfg alive then recs else []) := by
  unfold TapLoop.markTapRx
  by_cases halive : st.tapAlive cfg alive = true
  · rw [if_pos halive, if_pos halive]
    exact ⟨h.micros, h.window⟩
  · rw [if_neg halive, if_neg halive]
    exact ⟨rfl, rfl⟩

theorem Tracks.takeMicro (cfg : LoopConfig) (h : Tracks st recs) (rec : TapMicro)
    (alive rx now : ℚ) :
    Tracks (st.takeMicro cfg rec alive rx now)
      ((if st.tapAlive cfg alive then recs else []) ++ [rec]) := by
  have hmark := h.markTapRx cfg alive rx
  constructor
  · rw [List.length_append, List.length_singleton, ← hmark.micros]
    rfl
  · show ((st.markTapRx cfg alive rx).agg.micro ++ [rec.counters]).rtake microsPerWindow = _
    rw [hmark.window, Run.rtake_append_rtake, List.map_append, List.map_singleton]

theorem tick_frame (cfg : LoopConfig) (probe : OrdMap ℤ ProbeReading) (st : TapLoop) :
    (st.tick cfg probe).micros = st.micros ∧ (st.tick cfg probe).agg.micro = st.agg.micro ∧
      (st.tick cfg probe).agg.signals.window = st.agg.signals.window ∧
      (st.tick cfg probe).agg.signals.session = st.agg.signals.session :=
  ⟨rfl, rfl, rfl, rfl⟩

theorem noteSession_frame (session : Option SessionInfo) (st : TapLoop) :
    (st.noteSession session).micros = st.micros ∧
      (st.noteSession session).agg.micro = st.agg.micro := by
  cases session <;> exact ⟨rfl, rfl⟩

theorem takeRx_frame (cfg : LoopConfig) (ev : RxEvent) (alive : ℚ) (probe : OrdMap ℤ ProbeReading)
    (st : TapLoop) : (st.takeRx cfg ev alive probe).micros = st.micros ∧
      (st.takeRx cfg ev alive probe).agg.micro = st.agg.micro := by
  obtain ⟨hmicros, hmicro⟩ := noteSession_frame ev.session st
  unfold takeRx
  dsimp only
  split_ifs <;> exact ⟨hmicros, hmicro⟩

theorem Tracks.step {l : List TapMark} (h : Tracks st (sinceRevival l)) (i : LoopInput) :
    Tracks (st.step cfg i) (sinceRevival (l ++ st.marks cfg i)) := by
  rw [sinceRevival_append]
  cases i with
  | micro rec alive rx now probe =>
    have hrecs : (st.marks cfg (.micro rec alive rx now probe)).foldl counted (sinceRevival l) =
        (if st.tapAlive cfg alive then sinceRevival l else []) ++ [rec] := by
      unfold marks
      dsimp only
      split_ifs <;> rfl
    have hmicro := h.takeMicro cfg rec alive rx now
    rw [hrecs]
    unfold TapLoop.step
    dsimp only
    by_cases hten : (st.takeMicro cfg rec alive rx now).micros % microsPerWindow = 0
    · rw [if_pos hten]
      exact ⟨hmicro.micros, hmicro.window⟩
    · rw [if_neg hten]
      exact hmicro
  | loss lostCount alive rx now =>
    have hrecs : (st.marks cfg (.loss lostCount alive rx now)).foldl counted (sinceRevival l) =
        if st.tapAlive cfg alive then sinceRevival l else [] := by
      unfold marks
      dsimp only
      split_ifs <;> rfl
    rw [hrecs]
    have hmark := h.markTapRx cfg alive rx
    exact ⟨hmark.micros, hmark.window⟩
  | session ev =>
    unfold TapLoop.step
    dsimp only
    split_ifs
    · exact ⟨h.micros, h.window⟩
    · exact h
  | rx ev alive probe =>
    unfold TapLoop.step
    dsimp only
    split_ifs
    · obtain ⟨hmicros, hmicro⟩ := takeRx_frame cfg ev alive probe st
      exact ⟨hmicros.trans h.micros, hmicro.trans h.window⟩
    · exact h
  | connected prior => exact ⟨h.micros, h.window⟩

theorem tracks_run (cfg : LoopConfig) (policy : Policy) (inputs : List LoopInput) :
    Tracks (inputs.foldl (step cfg) { policy := policy })
      (sinceRevival (Run.shown (step cfg) (marks cfg) { policy := policy } inputs)) := by
  induction inputs using List.reverseRecOn with
  | nil => exact ⟨rfl, rfl⟩
  | append_singleton inputs i ih =>
    rw [List.foldl_append, List.foldl_cons, List.foldl_nil, Run.shown_concat]
    exact ih.step i

theorem microTick_window {i : LoopInput} {sig : WindowSignals} (h : st.microTick cfg i = some sig) :
    sig.window = .of cfg.smoothing sig.session (Counters.sum (st.step cfg i).agg.micro) ∧
      (st.step cfg i).micros % microsPerWindow = 0 ∧ 0 < (st.step cfg i).micros := by
  cases i with
  | micro rec alive rx now probe =>
    unfold microTick at h
    dsimp only at h
    split_ifs at h with hten
    unfold TapLoop.step
    dsimp only
    rw [if_pos hten]
    obtain ⟨hmicros, hmicro, hwindow, hsession⟩ :=
      tick_frame cfg probe (st.takeMicro cfg rec alive rx now)
    rw [← Option.some.inj h, hwindow, hmicro, hmicros, hsession]
    obtain ⟨hring, hses⟩ := SignalAggregator.consumeMicro_frame cfg.smoothing cfg.root rec now
      (st.markTapRx cfg alive rx).agg
    have hwin := SignalAggregator.consumeMicro_window cfg.smoothing cfg.root rec now
      (st.markTapRx cfg alive rx).agg
    refine ⟨?_, hten, Nat.succ_pos _⟩
    show ((st.markTapRx cfg alive rx).agg.consumeMicro _ _ rec now).signals.window =
      .of _ ((st.markTapRx cfg alive rx).agg.consumeMicro _ _ rec now).signals.session
        (Counters.sum ((st.markTapRx cfg alive rx).agg.consumeMicro _ _ rec now).micro)
    rw [hwin, hring, hses]
  | loss => cases h
  | session => cases h
  | rx => cases h
  | connected => cases h

/-- **The tap computes the windows of the 100 ms feed.**  Over every sequence of records, clocks and
sessions: the window of a tick that a `MICRO` record drives is the one that `consume` computes, with
the same session, from a record whose counters are the sums over the last ten `MICRO` records, which
have all come in since the tap last became alive; and ten folds of one value at the micro cadence
smooth as one fold at the window cadence. -/
theorem tap_windows (cfg : LoopConfig) (policy : Policy) :
    (∀ before i sig,
      (before.foldl (step cfg) { policy := policy }).microTick cfg i = some sig →
      ∃ older last, sinceRevival (Run.shown (step cfg) (marks cfg) { policy := policy }
          (before ++ [i])) = older ++ last ∧ last.length = microsPerWindow ∧
        ∀ (a : SignalAggregator) (ev : RxEvent),
          ev.counters = Counters.sum (last.map TapMicro.counters) →
          ev.session.or a.signals.session = sig.session →
          sig.window = (a.consume cfg.smoothing ev).signals.window) ∧
    ∀ (a a' x : ℝ) (prev : Option ℝ), (1 - a') ^ microsPerWindow = 1 - a →
      (smoothed x a')^[microsPerWindow] prev = smoothed x a prev := by
  refine ⟨fun before i sig hsig => ?_, fun a a' x prev h => smoothed_micro h x prev⟩
  have htracks := tracks_run cfg policy (before ++ [i])
  rw [List.foldl_append, List.foldl_cons, List.foldl_nil] at htracks
  obtain ⟨hwindow, hten, hpos⟩ := microTick_window hsig
  set recs := sinceRevival (Run.shown (step cfg) (marks cfg) { policy := policy } (before ++ [i]))
  have hlen : microsPerWindow ≤ recs.length := by
    rw [← htracks.micros]
    exact Nat.le_of_dvd hpos (Nat.dvd_of_mod_eq_zero hten)
  refine ⟨recs.take (recs.length - microsPerWindow), recs.rtake microsPerWindow,
    (List.take_append_drop _ _).symm, ?_, ?_⟩
  · rw [List.rtake, List.length_drop]
    omega
  · intro a ev hcounters hsession
    rw [SignalAggregator.consume_window, hcounters, hsession, hwindow, htracks.window, List.rtake,
      List.rtake, List.length_map, List.map_drop]

end TapLoop

end Fpvd.Gs
