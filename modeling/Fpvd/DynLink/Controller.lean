import Fpvd.DynLink.Backend

/-!
# Fpvd.DynLink.Controller — the poll loop of the drone's dynamic-link controller

`drone/src/dynlink/watchdog.cpp`, `dedup.cpp` and `DynamicLinkController::run` of `controller.cpp`.

* `round ack s r` is one iteration: the ready set `r` is handled in the loop's order (event, listen,
  tick, gap).  Whether the gap timer is ready is fixed when `poll` returns and is not looked at
  again, while the timer itself may expire, be disarmed or be armed anew before the gap branch.

The OSD lines, and `lastApplied_` and `lastOsdWriteMs_` that only they read, are not modelled.
-/

namespace Fpvd.DynLink

/-! ## Watchdog and dedup filter -/

structure Watchdog where
  timeoutMs : ℕ
  lastDecisionMs : ℕ := 0
  everSeen : Bool := false
  tripped : Bool := false
  deriving DecidableEq, Repr

def Watchdog.setTimeout (timeoutMs : ℕ) (w : Watchdog) : Watchdog := { w with timeoutMs := timeoutMs }

def Watchdog.notifyDecision (nowMs : ℕ) (w : Watchdog) : Watchdog :=
  { w with lastDecisionMs := nowMs, everSeen := true, tripped := false }

/-- Does a tick at `nowMs` trip the watchdog?  It does so once per silence. -/
def Watchdog.fires (nowMs : ℕ) (w : Watchdog) : Bool :=
  w.everSeen && !w.tripped && w.lastDecisionMs ≤ nowMs && w.timeoutMs ≤ nowMs - w.lastDecisionMs

def Watchdog.tick (nowMs : ℕ) (w : Watchdog) : Watchdog :=
  if w.fires nowMs then { w with tripped := true } else w

structure Dedup where
  lastSeq : ℕ := 0
  ever : Bool := false
  deriving DecidableEq, Repr

def i32 (x : ℤ) : ℤ := (x + 2 ^ 31) % 2 ^ 32 - 2 ^ 31

def Dedup.drops (seq : ℕ) (f : Dedup) : Bool := f.ever && i32 ((seq : ℤ) - f.lastSeq) ≤ 0

def Dedup.check (seq : ℕ) (f : Dedup) : Dedup :=
  if f.drops seq then f else { lastSeq := seq, ever := true }

def Dedup.reset (f : Dedup) : Dedup := { f with ever := false }

/-! ## State of the loop -/

inductive ApplyState where
  | idle
  /-- Phase 1 was the TX; the encoder is pending. -/
  | upGap
  /-- Phase 1 was the encoder; the TX is pending. -/
  | downGap
  deriving DecidableEq, Repr

/-- The single-shot timerfd: `expired` is an expiration not yet read. -/
structure GapTimer where
  armed : Bool := false
  expired : Bool := false
  deriving DecidableEq, Repr

structure DlStatus where
  running : Bool := false
  watchdogTripped : Bool := false
  lastDecisionAgeMs : ℤ := -1
  deriving DecidableEq, Repr

structure Loop where
  cfg : DlRuntimeConfig
  tx : TxClients
  enc : EncoderClient
  watchdog : Watchdog
  dedup : Dedup := {}
  lastEnc : Decision := {}
  lastDecisionMs : ℕ := 0
  applyState : ApplyState := .idle
  applyPending : Decision := {}
  timer : GapTimer := {}
  /-- Did `timerfd_create` succeed? -/
  gapFd : Bool
  osdUpdateIntervalMs : ℕ := 1000
  tickMs : ℕ
  status : DlStatus := {}
  stopped : Bool := false
  trace : List Ev := []

def computeTickMs (osdUpdateIntervalMs : ℕ) (c : DlRuntimeConfig) : ℕ :=
  let t := osdUpdateIntervalMs
  let t := if c.healthTimeoutMs / 2 < t then c.healthTimeoutMs / 2 else t
  if t < 100 then 100 else t

/-- `start`: every client and baseline is fresh. -/
def Loop.start (snap : DlRuntimeConfig) (gapFd : Bool) : Loop where
  cfg := snap
  tx := { radio := { iface := snap.iface } }
  enc := { roi := snap.roiQp }
  watchdog := { timeoutMs := snap.healthTimeoutMs }
  gapFd := gapFd
  tickMs := computeTickMs 1000 snap
  status := { running := true }

namespace Loop

def emit (e : Ev) (s : Loop) : Loop := { s with trace := s.trace ++ [e] }

def onTx (f : Io TxClients → Io TxClients) (s : Loop) : Loop :=
  { s with tx := (f ⟨s.tx, s.trace⟩).st, trace := (f ⟨s.tx, s.trace⟩).trace }

def onEnc (f : Io EncoderClient → Io EncoderClient) (s : Loop) : Loop :=
  { s with enc := (f ⟨s.enc, s.trace⟩).st, trace := (f ⟨s.enc, s.trace⟩).trace }

/-! ## The gap timer -/

/-- `armGap`: `timerfd_settime` forgets an earlier expiration; an interval of `0` disarms. -/
def armGap (d : Decision) (s : Loop) : Loop :=
  { s with
    timer := { armed := s.cfg.applyStaggerMs ≠ 0, expired := false }
    trace := s.trace ++ [.armed d] }

def disarmGap (s : Loop) : Loop := { s with timer := {}, trace := s.trace ++ [.disarmed] }

def expire (now : Bool) (s : Loop) : Loop :=
  if now && s.timer.armed then
    { s with timer := { armed := false, expired := true }, trace := s.trace ++ [.expired] }
  else s

def dropPending (s : Loop) : Loop :=
  if s.applyState = .idle then s
  else { (if s.gapFd then s.disarmGap else s) with applyState := .idle }

theorem dropPending_frame (s : Loop) :
    s.dropPending.applyState = .idle ∧ s.dropPending.cfg = s.cfg ∧ s.dropPending.gapFd = s.gapFd ∧
      s.dropPending.lastEnc = s.lastEnc ∧ s.dropPending.watchdog = s.watchdog := by
  unfold dropPending
  split_ifs with h
  · exact ⟨h, rfl, rfl, rfl, rfl⟩
  · exact ⟨rfl, rfl, rfl, rfl, rfl⟩
  · exact ⟨rfl, rfl, rfl, rfl, rfl⟩

/-! ## Event branch -/

def reconcile (ack : ℕ → Bool) (newCfg : DlRuntimeConfig) (s : Loop) : Loop :=
  let radiotapFlagsChanged : Bool := newCfg.stbc ≠ s.cfg.stbc || newCfg.ldpc ≠ s.cfg.ldpc
  let s := emit (.reconciled radiotapFlagsChanged newCfg.stbc newCfg.ldpc)
    { s with
      watchdog := s.watchdog.setTimeout newCfg.healthTimeoutMs
      tickMs := computeTickMs s.osdUpdateIntervalMs newCfg
      enc := { s.enc with roi := newCfg.roiQp }
      cfg := newCfg }
  -- gated on a baseline and the idle state; otherwise nothing is sent here
  if radiotapFlagsChanged && s.tx.lastTx.magic = kWireMagic && s.applyState = .idle then
    s.onTx fun x => x.issue ack .event
      (.setRadio (radioWord newCfg s.tx.lastTx.bandwidth s.tx.lastTx.mcs)) id
  else s

inductive Wake where
  | stop
  | config (snap : DlRuntimeConfig)

def eventBranch (ack : ℕ → Bool) (s : Loop) : Option Wake → Loop
  | none => s
  | some .stop => { s with stopped := true, status := { s.status with running := false } }
  | some (.config snap) => s.reconcile ack snap

/-! ## Listen branch -/

def canStagger (s : Loop) : Bool := s.cfg.applyStaggerMs ≠ 0 && s.gapFd

def direction (d : Decision) (s : Loop) : ApplyDir :=
  applyDirection s.lastEnc.bitrateKbps d.bitrateKbps (s.lastEnc.magic ≠ kWireMagic)

def derive (cfg : DlRuntimeConfig) (d : Decision) : Decision :=
  applyLocalCompute cfg { d with bandwidth := u8 (modulationWidth cfg.linkWidthMhz) }

def singleShot (ack : ℕ → Bool) (d : Decision) (s : Loop) : Loop :=
  let s' := (s.onTx (dispatchTxApply ack .decision s.cfg d)).onEnc
    (EncoderClient.apply ack .decision d.bitrateKbps d.fps)
  emit (.done d) { s' with lastEnc := d }

/-- Phase 1 upward: capacity is raised now, the encoder expands after the gap. -/
def raiseTx (ack : ℕ → Bool) (d : Decision) (s : Loop) : Loop :=
  let s' := s.onTx (dispatchTxApply ack .decision s.cfg d)
  armGap d { s' with applyPending := d, applyState := .upGap }

/-- Phase 1 downward: the producer is throttled now, capacity narrows after the gap. -/
def throttleEnc (ack : ℕ → Bool) (d : Decision) (s : Loop) : Loop :=
  let s' := s.onEnc (EncoderClient.apply ack .decision d.bitrateKbps d.fps)
  armGap d { s' with lastEnc := d, applyPending := d, applyState := .downGap }

def applyDecision (ack : ℕ → Bool) (d : Decision) (s : Loop) : Loop :=
  if s.canStagger then
    match s.direction d with
    | .equal => s.singleShot ack d
    | .up => s.raiseTx ack d
    | .down => s.throttleEnc ack d
  else s.singleShot ack d

def acceptDecision (ack : ℕ → Bool) (now : ℕ) (wire : Decision) (s : Loop) : Loop :=
  let s := s.dropPending
  let d := derive s.cfg wire
  let s := (s.emit (.accepted d)).applyDecision ack d
  { s with
    watchdog := s.watchdog.notifyDecision now
    lastDecisionMs := now
    status := { s.status with watchdogTripped := false, lastDecisionAgeMs := 0 } }

/-- The decision a datagram carries past decoding and the dedup filter, if any. -/
def accepts (bytes : List UInt8) (s : Loop) : Option Decision :=
  let buf := bytes.take 256
  if peekKind buf = .decision then
    match decodeDecision buf with
    | .ok d => if s.dedup.drops d.sequence then none else some d
    | _ => none
  else none

def listenBranch (ack : ℕ → Bool) (s : Loop) : Option (List UInt8 × ℕ) → Loop
  | none => s
  | some (bytes, now) =>
    match s.accepts bytes with
    | none => s
    | some d => { s with dedup := s.dedup.check d.sequence }.acceptDecision ack now d

/-! ## Tick branch -/

def trip (ack : ℕ → Bool) (s : Loop) : Loop :=
  let s := s.dropPending
  let s := s.onTx (dispatchTxSafe ack .tick s.cfg)
  let s := s.onEnc (EncoderClient.applySafe ack .tick (safeDecision s.cfg).bitrateKbps)
  emit .tripped
    { s with
      tx := { s.tx with lastTx := {}, radio := s.tx.radio.setIface s.cfg.iface }
      lastEnc := {}
      dedup := s.dedup.reset
      status := { s.status with watchdogTripped := true } }

def tickBranch (ack : ℕ → Bool) (s : Loop) : Option ℕ → Loop
  | none => s
  | some now =>
    let s' := { s with watchdog := s.watchdog.tick now }
    let s' := if s.watchdog.fires now then s'.trip ack else s'
    if s'.lastDecisionMs ≠ 0 then
      { s' with status := { s'.status with lastDecisionAgeMs := (now : ℤ) - s'.lastDecisionMs } }
    else s'

/-! ## Gap branch -/

def expandEnc (ack : ℕ → Bool) (s : Loop) : Loop :=
  let d := s.applyPending
  let s' := (s.emit (.phase2 d)).onEnc (EncoderClient.apply ack .gap d.bitrateKbps d.fps)
  emit (.done d) { s' with lastEnc := d, applyState := .idle }

def narrowTx (ack : ℕ → Bool) (s : Loop) : Loop :=
  let d := s.applyPending
  let s' := (s.emit (.phase2 d)).onTx (dispatchTxApply ack .gap s.cfg d)
  emit (.done d) { s' with applyState := .idle }

/-- Phase 2, entered whenever `poll` reported the timer; `read` may find nothing (`EAGAIN`), which
the source ignores. -/
def gapBranch (ack : ℕ → Bool) (ready : Bool) (s : Loop) : Loop :=
  if ready then
    let s := { s with timer := { s.timer with expired := false } }
    match s.applyState with
    | .idle => s
    | .upGap => s.expandEnc ack
    | .downGap => s.narrowTx ack
  else s

end Loop

/-! ## Rounds and runs -/

/-- One iteration's inputs.  The `expire*` flags say where an armed gap timer runs out. -/
structure Round where
  expirePoll : Bool := false
  event : Option Loop.Wake := none
  expireListen : Bool := false
  listen : Option (List UInt8 × ℕ) := none
  expireTick : Bool := false
  tick : Option ℕ := none
  expireGap : Bool := false

def round (ack : ℕ → Bool) (s : Loop) (r : Round) : Loop :=
  if s.stopped then s
  else
    let s := s.expire r.expirePoll
    -- `revents` of the gap timer, fixed here for the whole iteration
    let ready := s.timer.expired
    let s := s.eventBranch ack r.event
    if s.stopped then s
    else
      let s := (s.expire r.expireListen).listenBranch ack r.listen
      let s := (s.expire r.expireTick).tickBranch ack r.tick
      (s.expire r.expireGap).gapBranch ack ready

inductive Input where
  | expire (now : Bool)
  | event (w : Option Loop.Wake)
  | listen (msg : Option (List UInt8 × ℕ))
  | tick (now : Option ℕ)
  | gap (ready : Bool)

def Loop.input (ack : ℕ → Bool) (s : Loop) : Input → Loop
  | .expire now => s.expire now
  | .event w => s.eventBranch ack w
  | .listen msg => s.listenBranch ack msg
  | .tick now => s.tickBranch ack now
  | .gap ready => s.gapBranch ack ready

def roundInputs (ack : ℕ → Bool) (s : Loop) (r : Round) : List Input :=
  if s.stopped then []
  else if ((s.expire r.expirePoll).eventBranch ack r.event).stopped then
    [.expire r.expirePoll, .event r.event]
  else [.expire r.expirePoll, .event r.event, .expire r.expireListen, .listen r.listen,
    .expire r.expireTick, .tick r.tick, .expire r.expireGap,
    .gap (s.expire r.expirePoll).timer.expired]

theorem round_eq_inputs (ack : ℕ → Bool) (s : Loop) (r : Round) :
    round ack s r = (roundInputs ack s r).foldl (Loop.input ack) s := by
  unfold round roundInputs
  dsimp only
  split_ifs <;> rfl

def Round.frame (sequence mcs now : ℕ) : Round where
  listen := some (encodeDecision { sequence := sequence, mcs := mcs }, now)

def run (ack : ℕ → Bool) (s : Loop) (rs : List Round) : Loop := rs.foldl (round ack) s

def runInputs (ack : ℕ → Bool) : Loop → List Round → List Input
  | _, [] => []
  | s, r :: rs => roundInputs ack s r ++ runInputs ack (round ack s r) rs

theorem run_eq_inputs (ack : ℕ → Bool) : ∀ (rs : List Round) (s : Loop),
    run ack s rs = (runInputs ack s rs).foldl (Loop.input ack) s
  | [], _ => rfl
  | r :: rs, s => by
    rw [runInputs, List.foldl_append, ← round_eq_inputs]
    exact run_eq_inputs ack rs (round ack s r)

end Fpvd.DynLink
