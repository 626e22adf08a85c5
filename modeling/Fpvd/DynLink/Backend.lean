import Fpvd.DynLink.LocalCompute
import Fpvd.Lib.Run

/-!
# Fpvd.DynLink.Backend — the commands of the control loop and the clients that issue them

`drone/src/dynlink/encoder_client.cpp`, `roi_qp.cpp`, `radio_txpower.cpp`, `apply_direction.hpp`
and the dispatch helpers of `controller.cpp`.

A backend command has no effect inside the loop but its outcome; it is recorded in the trace with
that outcome (`Ev.cmd`), and the state of the video TX and of the encoder is what the trace says was
pushed last (`pushedFec`, `pushedRadio`, `pushedEnc`).  The outcome of the command issued at trace
position `i` is `ack i`, so that a quantifier over `ack` ranges over every pattern of success and
failure.  `usleep` between sub-commands is not modelled: it only delays them.
-/

namespace Fpvd.DynLink

open Run

/-! ## Commands and trace events -/

/-- The arguments of `CMD_SET_RADIO`: the whole radiotap word at once. -/
structure RadioWord where
  stbc : ℕ
  ldpc : Bool
  shortGi : Bool
  bandwidth : ℕ
  mcs : ℕ
  vhtMode : Bool
  vhtNss : ℕ
  deriving DecidableEq, Repr

/-- The fields of one push to the encoder; a push without `fps` leaves the encoder's. -/
structure EncFields where
  bitrate : ℕ
  roiQp : ℤ
  fps : Option ℕ
  deriving DecidableEq, Repr

inductive Cmd where
  | setFec (k n : ℕ)
  | setRadio (w : RadioWord)
  | probeRadio (w : RadioWord)
  | iwFixed (iface : String) (mBm : ℤ)
  | iwAuto (iface : String)
  | encSet (f : EncFields)
  deriving DecidableEq, Repr

inductive Branch where
  | event
  | decision
  | tick
  | gap
  deriving DecidableEq, Repr

/-- What a run shows.  Besides the commands: a decision that passed the dedup filter, a decision
whose phases are all done, the gap timer being armed for a decision, disarmed, or expiring, phase 2
of a decision being entered, a completed watchdog trip, and a new configuration being taken over
(whether `stbc` or `ldpc` changed, and their new values). -/
inductive Ev where
  | cmd (b : Branch) (c : Cmd) (ok : Bool)
  | accepted (d : Decision)
  | done (d : Decision)
  | armed (d : Decision)
  | disarmed
  | expired
  | phase2 (d : Decision)
  | tripped
  | reconciled (flagsChanged stbc ldpc : Bool)
  deriving DecidableEq, Repr

def Ev.fec? : Ev → Option (ℕ × ℕ)
  | .cmd _ (.setFec k n) true => some (k, n)
  | _ => none

def Ev.radio? : Ev → Option RadioWord
  | .cmd _ (.setRadio w) true => some w
  | _ => none

def Ev.enc? : Ev → Option EncFields
  | .cmd _ (.encSet f) true => some f
  | _ => none

def pushedFec (t : List Ev) : Option (ℕ × ℕ) := lastObs Ev.fec? t
def pushedRadio (t : List Ev) : Option RadioWord := lastObs Ev.radio? t
def pushedEnc (t : List Ev) : Option EncFields := lastObs Ev.enc? t

structure Io (α : Type) where
  st : α
  trace : List Ev

def Io.emit {α : Type} (x : Io α) (e : Ev) : Io α := { x with trace := x.trace ++ [e] }

def Io.issue {α : Type} (ack : ℕ → Bool) (b : Branch) (c : Cmd) (onOk : α → α) (x : Io α) : Io α :=
  let ok := ack x.trace.length
  { st := if ok then onOk x.st else x.st, trace := x.trace ++ [.cmd b c ok] }

def allOk : ℕ → Bool := fun _ => true

/-! ## Direction of an apply -/

inductive ApplyDir where
  | equal
  | up
  | down
  deriving DecidableEq, Repr

def applyDirection (prevBitrateKbps newBitrateKbps : ℕ) (firstDecision : Bool) : ApplyDir :=
  if firstDecision then .equal
  else if newBitrateKbps > prevBitrateKbps then .up
  else if newBitrateKbps < prevBitrateKbps then .down
  else .equal

/-! ## Encoder -/

/-- Port of `dl_compute_roi_qp_raw`; `/` on `int` truncates. -/
def computeRoiQp (bitrateKbps thresholdKbps lowAnchorKbps : ℕ) (floor : ℤ) (step : ℕ) : ℤ :=
  if bitrateKbps ≥ thresholdKbps then 0
  else
    let span : ℤ := (thresholdKbps : ℤ) - lowAnchorKbps
    let delta : ℤ := (bitrateKbps : ℤ) - lowAnchorKbps
    let delta := if delta < 0 then 0 else delta
    let raw := (floor * (span - delta)).tdiv span
    let q := raw.tdiv step * step
    let q := if q < floor then floor else q
    if q > 0 then 0 else q

structure EncoderClient where
  roi : RoiCurve
  lastValid : Bool := false
  lastBitrate : ℕ := 0
  lastRoiQp : ℤ := 0
  lastFps : ℕ := 0
  deriving DecidableEq, Repr

def EncoderClient.roiQpFor (e : EncoderClient) (bitrateKbps : ℕ) : ℤ :=
  i8 (computeRoiQp bitrateKbps e.roi.thresholdKbps e.roi.lowAnchorKbps e.roi.floor e.roi.step)

def EncoderClient.latch (bitrateKbps : ℕ) (roiQp : ℤ) (fps : ℕ) (e : EncoderClient) :
    EncoderClient :=
  { e with lastValid := true, lastBitrate := bitrateKbps, lastRoiQp := roiQp, lastFps := fps }

def fpsField (fps : ℕ) : Option ℕ := if fps ≠ 0 then some fps else none

/-- `EncoderClient::apply`: bitrate `0` is a sentinel, and an unchanged triple is suppressed. -/
def EncoderClient.apply (ack : ℕ → Bool) (b : Branch) (bitrateKbps fps : ℕ)
    (x : Io EncoderClient) : Io EncoderClient :=
  if bitrateKbps = 0 then x
  else
    let roiQp := x.st.roiQpFor bitrateKbps
    if x.st.lastValid ∧ x.st.lastBitrate = bitrateKbps ∧ x.st.lastRoiQp = roiQp ∧ x.st.lastFps = fps
    then x
    else x.issue ack b (.encSet ⟨bitrateKbps, roiQp, fpsField fps⟩)
      (EncoderClient.latch bitrateKbps roiQp fps)

def EncoderClient.applySafe (ack : ℕ → Bool) (b : Branch) (safeBitrateKbps : ℕ)
    (x : Io EncoderClient) : Io EncoderClient :=
  let roiQp := x.st.roiQpFor safeBitrateKbps
  x.issue ack b (.encSet ⟨safeBitrateKbps, roiQp, none⟩)
    (EncoderClient.latch safeBitrateKbps roiQp 0)

/-! ## Transmit power -/

structure RadioTxpower where
  iface : String
  current : Option ℤ := none
  auto : Bool := false
  deriving DecidableEq, Repr

def RadioTxpower.setIface (iface : String) (_ : RadioTxpower) : RadioTxpower := { iface := iface }

/-! ## Video TX, probe TX and transmit power -/

/-- The client state of the dispatch helpers.  `probeWfb_` exists exactly when `probeWfbPort` is not
`0`.  `lastRadio_` is left out: the source never reads it. -/
structure TxClients where
  lastTx : Decision := {}
  probeWfbPort : ℕ := 0
  lastProbeMcs : ℤ := -1
  radio : RadioTxpower
  deriving DecidableEq, Repr

def probeRungFor (mcs ceiling : ℤ) : ℤ := if mcs + 1 < ceiling then mcs + 1 else ceiling

/-- The word of every `CMD_SET_RADIO` the loop sends: the configured flags are restated. -/
def radioWord (cfg : DlRuntimeConfig) (bandwidth mcs : ℕ) : RadioWord where
  stbc := if cfg.stbc then 1 else 0
  ldpc := cfg.ldpc
  shortGi := false
  bandwidth := bandwidth
  mcs := mcs
  vhtMode := false
  vhtNss := 1

def reconcileProbeClient (cfg : DlRuntimeConfig) (t : TxClients) : TxClients :=
  if cfg.probeCtlPort = t.probeWfbPort then t
  else { t with probeWfbPort := cfg.probeCtlPort, lastProbeMcs := -1 }

section Dispatch

variable (ack : ℕ → Bool) (b : Branch) (cfg : DlRuntimeConfig)

def RadioTxpower.runIw (dBm : ℤ) (x : Io TxClients) : Io TxClients :=
  x.issue ack b (.iwFixed x.st.radio.iface (dBm * 100))
    (fun t => { t with radio := { t.radio with current := some dBm, auto := false } })

def RadioTxpower.apply (dBm : ℤ) (x : Io TxClients) : Io TxClients :=
  if !x.st.radio.auto ∧ x.st.radio.current = some dBm then x else RadioTxpower.runIw ack b dBm x

def RadioTxpower.applyAuto (x : Io TxClients) : Io TxClients :=
  if x.st.radio.auto then x
  else x.issue ack b (.iwAuto x.st.radio.iface)
    (fun t => { t with radio := { t.radio with current := none, auto := true } })

def TxClients.first (t : TxClients) : Bool := t.lastTx.magic ≠ kWireMagic

def TxClients.wantsFec (t : TxClients) (d : Decision) : Bool :=
  t.first || t.lastTx.k ≠ d.k || t.lastTx.n ≠ d.n

def TxClients.wantsRadio (t : TxClients) (d : Decision) : Bool :=
  t.first || t.lastTx.mcs ≠ d.mcs || t.lastTx.bandwidth ≠ d.bandwidth

def pushFec (d : Decision) (x : Io TxClients) : Io TxClients :=
  if x.st.wantsFec d then x.issue ack b (.setFec d.k d.n) id else x

def pushRadio (d : Decision) (x : Io TxClients) : Io TxClients :=
  if x.st.wantsRadio d then x.issue ack b (.setRadio (radioWord cfg d.bandwidth d.mcs)) id else x

def retuneProbe (rung : ℤ) (bandwidth : ℕ) (x : Io TxClients) : Io TxClients :=
  x.issue ack b (.probeRadio (radioWord cfg bandwidth (u8 rung)))
    (fun t => { t with lastProbeMcs := rung })

def pushProbe (d : Decision) (x : Io TxClients) : Io TxClients :=
  let rung := probeRungFor d.mcs cfg.probeMcsCeiling
  if x.st.probeWfbPort ≠ 0 ∧ rung ≠ x.st.lastProbeMcs then retuneProbe ack b cfg rung d.bandwidth x
  else x

def pushTxpower (d : Decision) (x : Io TxClients) : Io TxClients :=
  if cfg.txPowerControl then RadioTxpower.apply ack b d.txPowerDbm x
  else RadioTxpower.applyAuto ack b x

/-- `dispatchTxApply`: FEC if `k`/`n` differ, radio if `mcs`/`bandwidth` differ, then probe and
power; the baseline moves to `d` whatever the outcomes. -/
def dispatchTxApply (d : Decision) (x : Io TxClients) : Io TxClients :=
  let x := { x with st := reconcileProbeClient cfg x.st }
  let x := pushFec ack b d x
  let x := pushRadio ack b cfg d x
  let x := pushProbe ack b cfg d x
  let x := pushTxpower ack b cfg d x
  { x with st := { x.st with lastTx := d } }

def safeDecision : Decision :=
  applyLocalCompute cfg
    { mcs := kDlFailsafeMcs, bandwidth := u8 (modulationWidth cfg.linkWidthMhz) }

def pushProbeSafe (d : Decision) (x : Io TxClients) : Io TxClients :=
  if x.st.probeWfbPort ≠ 0 then
    retuneProbe ack b cfg (probeRungFor d.mcs cfg.probeMcsCeiling) d.bandwidth x
  else x

def pushTxpowerSafe (d : Decision) (x : Io TxClients) : Io TxClients :=
  if cfg.txPowerControl then RadioTxpower.runIw ack b d.txPowerDbm x
  else RadioTxpower.applyAuto ack b x

def dispatchTxSafe (x : Io TxClients) : Io TxClients :=
  let d := safeDecision cfg
  let x := { x with st := reconcileProbeClient cfg x.st }
  let x := x.issue ack b (.setFec d.k d.n) id
  let x := x.issue ack b (.setRadio (radioWord cfg d.bandwidth d.mcs)) id
  let x := pushProbeSafe ack b cfg d x
  pushTxpowerSafe ack b cfg d x

end Dispatch

/-! ## What a dispatch adds to the trace -/

def IsSideCmd (b : Branch) : Ev → Prop
  | .cmd b' (.probeRadio _) _ | .cmd b' (.iwFixed _ _) _ | .cmd b' (.iwAuto _) _ => b' = b
  | _ => False

def IsTxCmd (b : Branch) (cfg : DlRuntimeConfig) (d : Decision) : Ev → Prop
  | .cmd b' (.setFec k n) _ => b' = b ∧ k = d.k ∧ n = d.n
  | .cmd b' (.setRadio w) _ => b' = b ∧ w = radioWord cfg d.bandwidth d.mcs
  | e => IsSideCmd b e

def IsEncCmd (b : Branch) (bitrateKbps : ℕ) : Ev → Prop
  | .cmd b' (.encSet f) _ => b' = b ∧ f.bitrate = bitrateKbps
  | _ => False

section Spec

variable (ack : ℕ → Bool) (b : Branch) (cfg : DlRuntimeConfig) (d : Decision) (x : Io TxClients)

theorem IsSideCmd.isTxCmd {b : Branch} {cfg : DlRuntimeConfig} {d : Decision} :
    ∀ e, IsSideCmd b e → IsTxCmd b cfg d e
  | .cmd _ (.probeRadio _) _, h | .cmd _ (.iwFixed _ _) _, h | .cmd _ (.iwAuto _) _, h => h

theorem IsSideCmd.fec? {b : Branch} : ∀ e, IsSideCmd b e → e.fec? = none
  | .cmd _ (.probeRadio _) _, _ | .cmd _ (.iwFixed _ _) _, _ | .cmd _ (.iwAuto _) _, _ => rfl

theorem IsSideCmd.radio? {b : Branch} : ∀ e, IsSideCmd b e → e.radio? = none
  | .cmd _ (.probeRadio _) _, _ | .cmd _ (.iwFixed _ _) _, _ | .cmd _ (.iwAuto _) _, _ => rfl

theorem IsTxCmd.isCmd {b : Branch} {cfg : DlRuntimeConfig} {d : Decision} :
    ∀ e, IsTxCmd b cfg d e → ∃ c ok, e = .cmd b c ok
  | .cmd _ (.setFec k n) ok, h => ⟨.setFec k n, ok, congrArg (Ev.cmd · _ _) h.1⟩
  | .cmd _ (.setRadio w) ok, h => ⟨.setRadio w, ok, congrArg (Ev.cmd · _ _) h.1⟩
  | .cmd _ (.probeRadio w) ok, h => ⟨.probeRadio w, ok, congrArg (Ev.cmd · _ _) h⟩
  | .cmd _ (.iwFixed i p) ok, h => ⟨.iwFixed i p, ok, congrArg (Ev.cmd · _ _) h⟩
  | .cmd _ (.iwAuto i) ok, h => ⟨.iwAuto i, ok, congrArg (Ev.cmd · _ _) h⟩

theorem IsEncCmd.isCmd {b : Branch} {r : ℕ} : ∀ e, IsEncCmd b r e → ∃ c ok, e = .cmd b c ok
  | .cmd _ (.encSet f) ok, h => ⟨.encSet f, ok, congrArg (Ev.cmd · _ _) h.1⟩

theorem IsTxCmd.enc? {b : Branch} {cfg : DlRuntimeConfig} {d : Decision} :
    ∀ e, IsTxCmd b cfg d e → e.enc? = none
  | .cmd _ (.setFec _ _) _, _ | .cmd _ (.setRadio _) _, _ | .cmd _ (.probeRadio _) _, _
  | .cmd _ (.iwFixed _ _) _, _ | .cmd _ (.iwAuto _) _, _ => rfl

theorem IsEncCmd.radio? {b : Branch} {r : ℕ} : ∀ e, IsEncCmd b r e → e.radio? = none
  | .cmd _ (.encSet _) _, _ => rfl

@[simp] theorem reconcileProbeClient_lastTx (t : TxClients) :
    (reconcileProbeClient cfg t).lastTx = t.lastTx := by
  unfold reconcileProbeClient
  split_ifs <;> rfl

@[simp] theorem pushFec_st : (pushFec ack b d x).st = x.st := by
  unfold pushFec Io.issue
  split_ifs <;> simp

@[simp] theorem pushRadio_st : (pushRadio ack b cfg d x).st = x.st := by
  unfold pushRadio Io.issue
  split_ifs <;> simp

theorem issue_grows {α : Type} {Q : Ev → Prop} (c : Cmd) (onOk : α → α) (y : Io α)
    (hQ : ∀ ok, Q (.cmd b c ok)) : Grows Q y.trace (y.issue ack b c onOk).trace :=
  Grows.concat (hQ _)

theorem retuneProbe_grows (rung : ℤ) (bandwidth : ℕ) :
    Grows (IsSideCmd b) x.trace (retuneProbe ack b cfg rung bandwidth x).trace :=
  issue_grows ack b _ _ x fun _ => rfl

theorem runIw_grows (dBm : ℤ) :
    Grows (IsSideCmd b) x.trace (RadioTxpower.runIw ack b dBm x).trace :=
  issue_grows ack b _ _ x fun _ => rfl

theorem applyAuto_grows : Grows (IsSideCmd b) x.trace (RadioTxpower.applyAuto ack b x).trace := by
  unfold RadioTxpower.applyAuto
  split_ifs
  · exact Grows.refl _
  · exact issue_grows ack b _ _ x fun _ => rfl

theorem pushProbe_grows : Grows (IsSideCmd b) x.trace (pushProbe ack b cfg d x).trace := by
  unfold pushProbe
  dsimp only
  split_ifs
  · exact retuneProbe_grows ack b cfg x _ _
  · exact Grows.refl _

theorem pushTxpower_grows : Grows (IsSideCmd b) x.trace (pushTxpower ack b cfg d x).trace := by
  unfold pushTxpower RadioTxpower.apply
  split_ifs
  · exact Grows.refl _
  · exact runIw_grows ack b x _
  · exact applyAuto_grows ack b x

theorem pushFec_grows : Grows (IsTxCmd b cfg d) x.trace (pushFec ack b d x).trace := by
  unfold pushFec
  split_ifs
  · exact issue_grows ack b _ _ x fun _ => ⟨rfl, rfl, rfl⟩
  · exact Grows.refl _

theorem pushRadio_grows : Grows (IsTxCmd b cfg d) x.trace (pushRadio ack b cfg d x).trace := by
  unfold pushRadio
  split_ifs
  · exact issue_grows ack b _ _ x fun _ => ⟨rfl, rfl⟩
  · exact Grows.refl _

def reconciled (x : Io TxClients) : Io TxClients := { x with st := reconcileProbeClient cfg x.st }

@[simp] theorem reconciled_lastTx : (reconciled cfg x).st.lastTx = x.st.lastTx := by
  simp [reconciled]

theorem dispatchTxApply_side :
    Grows (IsSideCmd b) (pushRadio ack b cfg d (pushFec ack b d (reconciled cfg x))).trace
      (dispatchTxApply ack b cfg d x).trace :=
  (pushProbe_grows ack b cfg d _).trans (pushTxpower_grows ack b cfg d _)

theorem dispatchTxApply_grows :
    Grows (IsTxCmd b cfg d) x.trace (dispatchTxApply ack b cfg d x).trace :=
  ((pushFec_grows ack b cfg d (reconciled cfg x)).trans (pushRadio_grows ack b cfg d _)).trans
    ((dispatchTxApply_side ack b cfg d x).mono IsSideCmd.isTxCmd)

@[simp] theorem dispatchTxApply_lastTx : (dispatchTxApply ack b cfg d x).st.lastTx = d := rfl

def safePushed : Io TxClients :=
  ((reconciled cfg x).issue ack b (.setFec (safeDecision cfg).k (safeDecision cfg).n) id).issue ack b
    (.setRadio (radioWord cfg (safeDecision cfg).bandwidth (safeDecision cfg).mcs)) id

theorem pushProbeSafe_grows :
    Grows (IsSideCmd b) x.trace (pushProbeSafe ack b cfg d x).trace := by
  unfold pushProbeSafe
  split_ifs
  · exact retuneProbe_grows ack b cfg x _ _
  · exact Grows.refl _

theorem pushTxpowerSafe_grows :
    Grows (IsSideCmd b) x.trace (pushTxpowerSafe ack b cfg d x).trace := by
  unfold pushTxpowerSafe
  split_ifs
  · exact runIw_grows ack b x _
  · exact applyAuto_grows ack b x

theorem dispatchTxSafe_side :
    Grows (IsSideCmd b) (safePushed ack b cfg x).trace (dispatchTxSafe ack b cfg x).trace :=
  (pushProbeSafe_grows ack b cfg _ _).trans (pushTxpowerSafe_grows ack b cfg _ _)

theorem dispatchTxSafe_grows :
    Grows (IsTxCmd b cfg (safeDecision cfg)) x.trace (dispatchTxSafe ack b cfg x).trace := by
  have h1 : Grows (IsTxCmd b cfg (safeDecision cfg)) x.trace (safePushed ack b cfg x).trace :=
    (issue_grows ack b _ _ (reconciled cfg x) fun _ => ⟨rfl, rfl, rfl⟩).trans
      (issue_grows ack b _ _ _ fun _ => ⟨rfl, rfl⟩)
  exact h1.trans ((dispatchTxSafe_side ack b cfg x).mono IsSideCmd.isTxCmd)

theorem encApply_grows (r fps : ℕ) (y : Io EncoderClient) :
    Grows (IsEncCmd b r) y.trace (EncoderClient.apply ack b r fps y).trace := by
  unfold EncoderClient.apply
  dsimp only
  split_ifs
  · exact Grows.refl _
  · exact Grows.refl _
  · exact issue_grows ack b _ _ y fun _ => ⟨rfl, rfl⟩

theorem encApplySafe_grows (r : ℕ) (y : Io EncoderClient) :
    Grows (IsEncCmd b r) y.trace (EncoderClient.applySafe ack b r y).trace :=
  issue_grows ack b _ _ y fun _ => ⟨rfl, rfl⟩

theorem first_congr {t t' : TxClients} (h : t.lastTx = t'.lastTx) : t.first = t'.first := by
  simp [TxClients.first, h]

theorem wantsFec_congr {t t' : TxClients} (h : t.lastTx = t'.lastTx) :
    t.wantsFec d = t'.wantsFec d := by
  simp [TxClients.wantsFec, first_congr h, h]

theorem wantsRadio_congr {t t' : TxClients} (h : t.lastTx = t'.lastTx) :
    t.wantsRadio d = t'.wantsRadio d := by
  simp [TxClients.wantsRadio, first_congr h, h]

end Spec

theorem wantsFec_eq_false {t : TxClients} {d : Decision} (h : ¬ t.wantsFec d = true) :
    t.lastTx.magic = kWireMagic ∧ t.lastTx.k = d.k ∧ t.lastTx.n = d.n := by
  simp only [TxClients.wantsFec, TxClients.first, Bool.or_eq_true, decide_eq_true_eq, not_or,
    not_not] at h
  exact ⟨h.1.1, h.1.2, h.2⟩

theorem wantsRadio_eq_false {t : TxClients} {d : Decision} (h : ¬ t.wantsRadio d = true) :
    t.lastTx.magic = kWireMagic ∧ t.lastTx.mcs = d.mcs ∧ t.lastTx.bandwidth = d.bandwidth := by
  simp only [TxClients.wantsRadio, TxClients.first, Bool.or_eq_true, decide_eq_true_eq, not_or,
    not_not] at h
  exact ⟨h.1.1, h.1.2, h.2⟩

/-! ## What a dispatch shows to an observer of one command kind -/

section Observer

variable (ack : ℕ → Bool) (b : Branch) (cfg : DlRuntimeConfig) (d : Decision) (x : Io TxClients)

theorem lastObs_dispatch_fec {β : Type} (f : Ev → Option β)
    (hside : ∀ e, IsSideCmd b e → f e = none) (hradio : ∀ w ok, f (.cmd b (.setRadio w) ok) = none) :
    lastObs f (dispatchTxApply ack b cfg d x).trace =
      if x.st.wantsFec d then
        (f (.cmd b (.setFec d.k d.n) (ack x.trace.length))).or (lastObs f x.trace)
      else lastObs f x.trace := by
  have hpr : ∀ y : Io TxClients, lastObs f (pushRadio ack b cfg d y).trace = lastObs f y.trace := by
    intro y
    unfold pushRadio
    split_ifs
    · exact (lastObs_concat _ _ _).trans (by rw [hradio, Option.none_or])
    · rfl
  rw [(dispatchTxApply_side ack b cfg d x).lastObs_eq hside, hpr, pushFec,
    wantsFec_congr d (reconciled_lastTx cfg x)]
  split_ifs
  · exact lastObs_concat _ _ _
  · rfl

theorem lastObs_dispatch_radio {β : Type} (f : Ev → Option β)
    (hside : ∀ e, IsSideCmd b e → f e = none) (hfec : ∀ k n ok, f (.cmd b (.setFec k n) ok) = none) :
    lastObs f (dispatchTxApply ack b cfg d x).trace =
      if x.st.wantsRadio d then
        (f (.cmd b (.setRadio (radioWord cfg d.bandwidth d.mcs))
          (ack (pushFec ack b d (reconciled cfg x)).trace.length))).or (lastObs f x.trace)
      else lastObs f x.trace := by
  have hpf : lastObs f (pushFec ack b d (reconciled cfg x)).trace = lastObs f x.trace := by
    unfold pushFec
    split_ifs
    · exact (lastObs_concat _ _ _).trans (by rw [hfec, Option.none_or]; rfl)
    · rfl
  have hw : (pushFec ack b d (reconciled cfg x)).st.wantsRadio d = x.st.wantsRadio d :=
    wantsRadio_congr d (by simp)
  rw [(dispatchTxApply_side ack b cfg d x).lastObs_eq hside, pushRadio, hw]
  split_ifs
  · exact (lastObs_concat _ _ _).trans (by rw [hpf])
  · exact hpf

theorem pushedRadio_dispatchTxApply :
    pushedRadio (dispatchTxApply allOk b cfg d x).trace =
      if x.st.wantsRadio d then some (radioWord cfg d.bandwidth d.mcs) else pushedRadio x.trace :=
  lastObs_dispatch_radio allOk b cfg d x Ev.radio? IsSideCmd.radio? fun _ _ _ => rfl

end Observer

end Fpvd.DynLink
