import Mathlib.Tactic.Simps.Basic
import Fpvd.Config.Diff
import Fpvd.Config.Lock
import Fpvd.Daemon.World
import Fpvd.DynLink.Controller
import Fpvd.Lib.Stage

/-!
# Fpvd.Daemon.Apply — the daemon: patches, applies, deferred workers (`drone/src/daemon.cpp`)

* `patchPending`, `reset`, the workers and `apply` hold the daemon's mutex.  The control thread does
  not, so `apply` is cut where its commands can fall between the daemon's own:
  `begin` (validation and the live push to the encoder), `commit` (the configuration is committed;
  either everything is rebuilt, or the encoder is restarted), `finish` (the control thread is started,
  stopped or reconfigured, then the hot pushes).  `job` is the apply under way.

The outcome of the act issued at log position `i` is `env.out i`.  The OSD lines, the IDR relay and the
timestamp of `lastApply_` are not modelled.
-/

namespace Fpvd

open DynLink

/-! ## Data -/

/-- Outcome of an external act: scripts report an exit status, their `stderr` and what they found,
control commands an error text. -/
structure Outcome where
  ok : Bool
  text : String := ""
  driver : String := ""
  iface : String := ""
  adapterId : Option String := none

structure Env where
  out : ℕ → Outcome
  /-- Does `timerfd_create` succeed in a starting control thread? -/
  gapFd : Bool := true

structure PatchResult where
  ok : Bool := true
  errors : List ValidationError := []
  lockedPaths : List String := []
  deriving DecidableEq, Repr

inductive PatchReturn where
  | result (r : PatchResult)
  | threw (what : String)
  deriving DecidableEq, Repr

structure ApplyResult where
  ok : Bool := true
  errors : List ValidationError := []
  restarted : List String := []
  radioError : Option String := none
  version : ℤ
  deriving DecidableEq, Repr

inductive ApplyReturn where
  | result (r : ApplyResult)
  | threw (what : String)
  deriving DecidableEq, Repr

structure LastApply where
  ok : Bool := false
  restarted : List String := []
  error : Option String := none
  deriving DecidableEq, Repr

structure RadioInfo where
  driver : String := ""
  iface : String := ""
  adapterId : Option String := none
  deriving DecidableEq, Repr

structure Job where
  reallyRestart : Bool
  subs : SubsystemDiff
  link : LinkChange
  enabledOld : Bool
  enabledNew : Bool
  probeOld : Bool
  probeNew : Bool
  bfChanged : Bool
  wbDiff : WaybeamFieldDiff

def Job.of (reallyRestart : Bool) (effective pending : Config) : Job where
  reallyRestart := reallyRestart
  subs := diffSubsystems effective pending
  link := classifyLinkChange effective pending
  enabledOld := effective.dynamicLink.enabled
  enabledNew := pending.dynamicLink.enabled
  probeOld := effective.dynamicLink.probe.enabled
  probeNew := pending.dynamicLink.probe.enabled
  bfChanged := effective.link.beamforming.toJson ≠ pending.link.beamforming.toJson ||
    effective.link.width ≠ pending.link.width
  wbDiff := waybeamConfigDiff effective pending pending.dynamicLink.enabled

namespace Job

def encRestart (j : Job) : Bool := !j.wbDiff.restart.isEmpty

def encLive (j : Job) : Bool := !j.encRestart && !j.wbDiff.live.isEmpty

def encChanged (j : Job) : Bool := j.encRestart || j.encLive

def needsRebuild (j : Job) : Bool :=
  j.subs.telemetry || !j.subs.servicesAffected.isEmpty || j.link.fullRestart

def dlAffects (j : Job) : Bool := j.subs.dynamicLink && (j.enabledOld || j.enabledNew)

def restarted (j : Job) : List String :=
  (if j.subs.radio then ["radio"] else []) ++ (if j.encChanged then ["encoder"] else []) ++
  (if j.subs.telemetry then ["telemetry"] else []) ++ (if j.dlAffects then ["dynamicLink"] else []) ++
  j.subs.servicesAffected ++ (if j.bfChanged then ["beamforming"] else [])

end Job

inductive Point where
  | commit
  | finish
  deriving DecidableEq, Repr

structure Sys where
  /-- Path of `radio-tune.sh`; may be empty. -/
  radioTuneScript : String := ""
  effective : Config
  pending : Config
  version : ℤ := 0
  lastApply : LastApply := {}
  radio : RadioInfo := {}
  orch : Orchestrator := {}
  /-- The running control thread. -/
  dl : Option Loop := none
  /-- A snapshot posted by `setConfig` that the control thread has not taken yet. -/
  mailbox : Option DlRuntimeConfig := none
  /-- Deferred workers: does the worker push the width? -/
  workers : List Bool := []
  job : Option (Point × Job) := none
  /-- How the apply ended that returned in the last step. -/
  returned : Option ApplyReturn := none
  log : List SysEv := []

namespace Sys

/-! ## Acts -/

def ev (s : Sys) (a : Act) (ok : Bool) : SysEv :=
  .act a ok s.effective.dynamicLink.enabled s.dl.isSome

@[simps] def grow (s : Sys) (l : List SysEv) : Sys := { s with log := s.log ++ l }

def act (env : Env) (a : Act) (s : Sys) : Sys := s.grow [s.ev a (env.out s.log.length).ok]

def note (a : Act) (s : Sys) : Sys := s.grow [s.ev a true]

def attempt (env : Env) (a : Sys → Act) (onFail : Outcome → Sys → Sys) : Stage Sys := fun s =>
  let o := env.out s.log.length
  let s' := s.act env (a s)
  if o.ok then .ok s' else .error (onFail o s')

def ret (r : ApplyReturn) (s : Sys) : Sys := { s with job := none, returned := some r }

def retFail (restarted : List String) (last err : String) (s : Sys) : Sys :=
  { s with lastApply := { ok := false, restarted := restarted, error := some last } }.ret
    (.result { ok := false, restarted := restarted, radioError := some err, version := s.version })

def retOk (restarted : List String) (s : Sys) : Sys :=
  { s with version := s.version + 1, lastApply := { ok := true, restarted := restarted } }.ret
    (.result { ok := true, restarted := restarted, version := s.version + 1 })

/-! ## Processes -/

def iface (s : Sys) : String := ifaceOr s.radio.iface

def seed (s : Sys) : Sys := { s with orch := seedOrchestrator s.effective s.iface }

def startAll : Stage Sys := fun s =>
  match s.orch.startAll with
  | none => .error (s.ret (.threw "startAfter cycle detected"))
  | some specs => .ok (specs.foldl (fun s spec => s.note (.launch spec)) s)

def stopAll : Stage Sys := fun s =>
  match s.orch.stopOrder with
  | none => .error (s.ret (.threw "startAfter cycle detected"))
  | some _ => .ok s

/-- `Orchestrator::restart`: nothing happens when the process is not supervised. -/
def restartProc (name : String) (s : Sys) : Sys :=
  match s.orch.spec? name with
  | none => s
  | some spec => s.note (.launch spec)

def restartOsd (s : Sys) : Sys :=
  if s.effective.telemetry.router ≠ "msposd" then s
  else if s.orch.spec? "msposd" = none then s
  else if telemetryArgs s.effective = [] then s
  else
    let spec := wfbSpec "msposd" (telemetryArgs s.effective) ["wfb_tlm_rx", "wfb_tlm_tx"]
    { s with orch := (s.orch.remove "msposd").add spec }.note (.launch spec)

def addProbeStream (s : Sys) : Sys :=
  if !s.effective.dynamicLink.probe.enabled then s
  else (probeSpecs s.effective s.iface).foldl
    (fun s spec => { s with orch := s.orch.add spec }.note (.launch spec)) s

def removeProbeStream (s : Sys) : Sys :=
  { s with orch := (s.orch.remove "probe-feed").remove "probe-tx" }

/-! ## Control thread -/

def dlSnapshot (s : Sys) : DlRuntimeConfig := buildDlSnapshot s.effective s.radio.iface

def startController (env : Env) (s : Sys) : Sys :=
  { s with dl := some (Loop.start s.dlSnapshot env.gapFd), mailbox := none }

def stopController (s : Sys) : Sys := { s with dl := none, mailbox := none }

/-- `setConfig`: without a running thread the snapshot reaches nobody. -/
def setDlConfig (s : Sys) : Sys :=
  if s.dl.isSome then { s with mailbox := some s.dlSnapshot } else s

/-- One iteration of the control thread.  It takes the posted snapshot if its `poll` saw the wake. -/
def dlRound (ack : ℕ → Bool) (wake : Bool) (r : Round) (s : Sys) : Sys :=
  match s.dl with
  | none => s
  | some l =>
    let l' := round ack l
      { r with event := if wake then s.mailbox.map Loop.Wake.config else none }
    { s with
      dl := some l'
      mailbox := if wake then none else s.mailbox
      log := s.log ++ (l'.trace.drop l.trace.length).map SysEv.dl }

/-! ## Radio, video TX and encoder -/

def radioEnv (s : Sys) : RadioEnv where
  channel := s.effective.link.channel
  width := s.effective.link.width
  txPowerDbm := s.effective.link.txPowerDbm
  mtu := s.effective.link.mtu
  iface := s.radio.iface
  driver := s.radio.driver

def bringUpEnv (s : Sys) : RadioEnv where
  channel := s.effective.link.channel
  width := s.effective.link.width
  txPowerDbm := s.effective.link.txPowerDbm
  mtu := s.effective.link.mtu
  wlanAdapter := s.effective.link.wlanAdapter

def reconcileBeamforming (force : Bool) (s : Sys) : Sys :=
  let bfc := s.effective.link.beamforming
  s.note (.beamforming bfc.enabled
    { iface := s.iface, driver := s.radio.driver, remoteMac := bfc.remoteMac
      width := s.effective.link.width, ackTimeout := bfc.ackTimeout, intervalMs := bfc.intervalMs }
    force)

def fecAct (s : Sys) : Act := .setFec (staticFec s.effective).1 (staticFec s.effective).2

def radioAct (s : Sys) : Act := .setRadio (staticRadio s.effective)

/-- Push the configured radio and encoder values back; failures are ignored. -/
def restateStaticLink (env : Env) (s : Sys) : Sys :=
  let s := s.act env s.fecAct
  let s := s.act env s.radioAct
  let s := if s.radioTuneScript ≠ "" then s.act env (.tune .txpower s.radioEnv) else s
  s.act env (.encSet [.bitrate s.effective.video.bitrate, .roiQp s.effective.video.roi.qp])

/-! ## Apply, first part -/

def livePush (env : Env) (j : Job) : Stage Sys :=
  Stage.when (j.reallyRestart && !j.needsRebuild && j.encLive)
    (attempt env (fun _ => .encSet j.wbDiff.live)
      (fun _ => retFail [] "waybeam: /api/v1/set failed" "waybeam: /api/v1/set failed"))

def begin (reallyRestart : Bool) (env : Env) (s : Sys) : Sys :=
  if validate s.pending ≠ [] then
    s.ret (.result { ok := false, errors := validate s.pending, version := s.version })
  else
    let j := Job.of reallyRestart s.effective s.pending
    (livePush env j).run (fun s => { s with job := some (.commit, j) }) s

/-! ## Apply, second part -/

def commitConfig (env : Env) : Stage Sys :=
  (attempt env (fun s => .writeConfig s.pending) fun o => ret (.threw o.text)).andThen <|
  (Stage.lift fun s => { s with effective := s.pending }).andThen <|
  attempt env (fun s => .writeWaybeam (toWaybeamJson s.effective)) fun o => ret (.threw o.text)

def bringUpRadio (env : Env) : Stage Sys := fun s =>
  let o := env.out s.log.length
  let s := s.act env (.radioUp s.bringUpEnv)
  if o.ok then
    .ok { s with radio := { driver := o.driver, iface := o.iface, adapterId := o.adapterId } }
  else .error (s.retFail [] ("radio: " ++ o.text) o.text)

def restartAll (env : Env) (j : Job) : Stage Sys :=
  (Stage.when j.subs.radio (bringUpRadio env)).andThen <|
  (Stage.lift seed).andThen <|
  startAll.andThen <|
  Stage.lift fun s =>
    let s := s.reconcileBeamforming true
    let s := if j.enabledNew then s.startController env else s
    s.retOk j.restarted

def rebuild (env : Env) (j : Job) : Stage Sys :=
  (Stage.lift fun s => if j.enabledOld then s.stopController else s).andThen <|
  stopAll.andThen <|
  (Stage.lift fun s => { s with orch := {} }).andThen <|
  restartAll env j

/-- `apply(false)`: the specs are seeded anew and nothing is started. -/
def dryLoad (j : Job) (s : Sys) : Sys := { s with orch := {} }.seed.retOk j.restarted

def encoderRestart (j : Job) (s : Sys) : Sys :=
  let s := if j.encRestart then (s.restartProc "waybeam").restartOsd else s
  { s with job := some (.finish, j) }

def commit (env : Env) (j : Job) : Stage Sys :=
  (commitConfig env).andThen <|
    if !j.reallyRestart then Stage.lift (dryLoad j)
    else if j.needsRebuild then rebuild env j
    else Stage.lift (encoderRestart j)

/-! ## Apply, third part -/

def toggleProbe (j : Job) (s : Sys) : Sys :=
  if j.probeNew && !j.probeOld then s.addProbeStream
  else if !j.probeNew && j.probeOld then s.removeProbeStream
  else s

def route (env : Env) (j : Job) (s : Sys) : Sys :=
  if !j.enabledOld && j.enabledNew then s.addProbeStream.startController env
  else if j.enabledOld && !j.enabledNew then
    s.stopController.removeProbeStream.restateStaticLink env
  else if j.enabledOld && j.enabledNew &&
      (j.subs.dynamicLink || j.link.videoRadiotap || j.link.videoFec) then
    (s.toggleProbe j).setDlConfig
  else s

def hotPush (env : Env) (j : Job) (due : Bool) (a : Sys → Act) (label : String) : Stage Sys :=
  Stage.when due (attempt env a fun o => retFail j.restarted (label ++ ": " ++ o.text) o.text)

def pushTxpower (env : Env) (j : Job) : Stage Sys :=
  hotPush env j j.link.nicTxpower (fun s => .tune .txpower s.radioEnv) "txpower"

def pushMtu (env : Env) (j : Job) : Stage Sys :=
  hotPush env j j.link.nicMtu (fun s => .tune .mtu s.radioEnv) "mtu"

def pushFec (env : Env) (j : Job) : Stage Sys :=
  hotPush env j (j.link.videoFec && !j.enabledNew) fecAct "fec"

def pushRadio (env : Env) (j : Job) : Stage Sys :=
  hotPush env j (j.link.videoRadiotap && !j.link.nicWidth && !j.enabledNew) radioAct "radio"

/-- A channel or width change is left to a deferred worker. -/
def conclude (j : Job) (s : Sys) : Sys :=
  (if j.link.nicChannel then { s with workers := s.workers ++ [j.link.nicWidth] } else s).retOk
    j.restarted

def finish (env : Env) (j : Job) : Stage Sys :=
  (Stage.lift (route env j)).andThen <|
  (pushTxpower env j).andThen <|
  (pushMtu env j).andThen <|
  (pushFec env j).andThen <|
  (pushRadio env j).andThen <|
  Stage.lift fun s => (s.reconcileBeamforming j.subs.radio).conclude j

def advance (env : Env) (s : Sys) : Sys :=
  match s.job with
  | none => s
  | some (.commit, j) => (commit env j).run id s
  | some (.finish, j) => (finish env j).run id s

/-! ## Deferred worker -/

def workerFail (label : String) (o : Outcome) (s : Sys) : Sys :=
  { s with lastApply := { s.lastApply with ok := false, error := some (label ++ ": " ++ o.text) } }

/-- Retune the channel, then push the radiotap if the width changed, on whatever `effective` is now. -/
def worker (env : Env) (i : ℕ) (s : Sys) : Sys :=
  match s.workers[i]? with
  | none => s
  | some pushWidth =>
    ((attempt env (fun s => .tune .channel s.radioEnv) (workerFail "channel")).andThen
      (Stage.when pushWidth (attempt env radioAct (workerFail "radio")))).run id
      { s with workers := s.workers.eraseIdx i }

end Sys

/-! ## Patch and reset -/

def patchPending (patch : Json) (pending : Config) : PatchReturn × Config :=
  match Config.fromJson (deepMergeJson pending.toJson patch) with
  | .error (.json what) => (.result { ok := false, errors := [⟨"<root>", what⟩] }, pending)
  | .error (.runtime what) => (.threw what, pending)
  | .ok candidate =>
    let lockR := checkDynamicLinkLock patch candidate
    if !lockR.ok then (.result { ok := false, lockedPaths := lockR.lockedPaths }, pending)
    else if validate candidate ≠ [] then
      (.result { ok := false, errors := validate candidate }, pending)
    else (.result {}, candidate)

def Sys.reset (s : Sys) : Sys := { s.note .removeConfig with pending := {} }

/-! ## The whole -/

inductive Step where
  | patch (body : Json)
  | apply (reallyRestart : Bool) (env : Env)
  | advance (env : Env)
  | reset
  | worker (i : ℕ) (env : Env)
  | round (ack : ℕ → Bool) (wake : Bool) (r : Round)

/-- One step.  Operations and workers wait while an apply holds the mutex. -/
def Sys.step (s : Sys) (i : Step) : Sys :=
  let s := { s with returned := none }
  match i with
  | .round ack wake r => s.dlRound ack wake r
  | .advance env => s.advance env
  | .patch body => if s.job.isSome then s else { s with pending := (patchPending body s.pending).2 }
  | .apply reallyRestart env => if s.job.isSome then s else s.begin reallyRestart env
  | .reset => if s.job.isSome then s else s.reset
  | .worker i env => if s.job.isSome then s else s.worker env i

def Sys.startProcesses (env : Env) (s : Sys) : Except String Sys :=
  let o := env.out s.log.length
  let s := s.act env (.radioUp s.bringUpEnv)
  if !o.ok then .ok { s with lastApply := { ok := false, error := some ("radio: " ++ o.text) } }
  else
    let s := { s with radio := { driver := o.driver, iface := o.iface, adapterId := o.adapterId } }
    match Sys.startAll s.seed with
    | .error _ => .error "startAfter cycle detected"
    | .ok s =>
      let s := s.reconcileBeamforming true
      .ok (if s.effective.dynamicLink.enabled then s.startController env else s)

/-- `bootstrap(true)` on the configuration loaded from the file; an exception ends the daemon. -/
def bootstrap (radioTuneScript : String) (c : Config) (env : Env) : Except String Sys :=
  if validate c ≠ [] then .error "invalid configuration on bootstrap"
  else
    let s : Sys := { radioTuneScript := radioTuneScript, effective := c, pending := c }
    let o := env.out 0
    let s := s.act env (.writeWaybeam (toWaybeamJson c))
    if !o.ok then .error o.text else s.startProcesses env

end Fpvd
