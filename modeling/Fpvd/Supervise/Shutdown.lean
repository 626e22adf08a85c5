import Mathlib.Logic.Function.Basic
import Fpvd.Lib.Run
import Fpvd.Supervise.Orchestrator

/-!
# Fpvd.Supervise.Shutdown — one supervised process, and its shutdown

`Supervisor::loop` runs in a thread of its own and keeps a child alive; `Supervisor::shutdown` is called
from another thread (`drone/src/supervise/supervisor.cpp`, `process.cpp`).  They share `stopFlag_` and
`proc_`, and nothing guards the pointer.

* `State`: both threads at their control points, the shared variables, and the children.  A step is one
  shared access of one thread, or an event of a child.

The clock, the outcome of `fork` and what the children do are inputs of the steps.  A child's pid is its
number; `Process` objects are numbered too, and a freed one keeps its contents.
-/

namespace Fpvd

/-! ## Processes and children -/

inductive ProcState where
  | stopped
  | starting
  | running
  | exited
  | failed
  deriving DecidableEq, Repr

structure Process where
  /-- `pid_`; `none` is -1 -/
  pid : Option ℕ := none
  state : ProcState := .stopped
  lastExitCode : Option ℤ := none
  deriving DecidableEq, Repr

inductive WaitStatus where
  | exited (code : ℤ)
  | signaled (sig : ℤ)
  deriving DecidableEq, Repr

def WaitStatus.exitCode : WaitStatus → ℤ
  | .exited code => code
  | .signaled sig => 128 + sig

structure Supervisor where
  restart : RestartPolicy := .always
  backoffStartMs : ℤ := 1000
  failureCap : ℤ := 5
  failureWindow : ℤ := 60 * 1000000000
  deriving DecidableEq, Repr

namespace Supervisor

structure Child where
  /-- it has made its own process group (`setpgid`), which `killpg` reaches -/
  grouped : Bool := false
  exit : Option WaitStatus := none
  reaped : Bool := false
  term : Bool := false
  kill : Bool := false
  deriving DecidableEq, Repr

def Child.Stopped (c : Child) : Prop := c.exit.isSome ∨ c.kill = true

/-! ## Control points -/

inductive ReapPc where
  | pid
  | wait
  | code (status : WaitStatus)
  | mark
  deriving DecidableEq, Repr

inductive LoopPc where
  | head
  | create
  | fork
  | forkFailed
  | setPid (p : ℕ)
  | setRunning
  | checkState
  | storeFailed
  | storeRunning
  | pollTest
  | pollReap (r : ReapPc)
  | afterPoll
  | policy
  | storeExited
  | addRestart
  | backoffTest
  | backoffClock
  | done
  deriving DecidableEq, Repr

/-- Inside `shutdown`, and inside the `stop` that it calls on a process. -/
inductive ShutPc where
  | joinable
  | setFlag
  | readProc
  | callStop
  | stopState (o : ℕ)
  | term (o : ℕ)
  | grace (o : ℕ) (deadline : ℤ)
  | reap (o : ℕ) (deadline : ℤ) (r : ReapPc)
  | kill (o : ℕ)
  | join
  | storeStopped
  | returned
  deriving DecidableEq, Repr

structure LoopVars where
  backoffMs : ℤ
  recentFailures : List ℤ := []
  startedAt : ℤ := 0
  exitedAt : ℤ := 0
  wakeAt : ℤ := 0
  deriving DecidableEq, Repr

structure State where
  loop : LoopPc := .head
  vars : LoopVars
  shut : ShutPc := .joinable
  joinable : Bool := true
  stopFlag : Bool := false
  state : ProcState := .stopped
  restarts : ℤ := 0
  /-- `proc_` -/
  proc : Option ℕ := none
  heap : ℕ → Process := fun _ => {}
  allocated : ℕ := 0
  children : ℕ → Child := fun _ => {}
  forked : ℕ := 0

def boot (sup : Supervisor) : State where
  vars := { backoffMs := sup.backoffStartMs }

/-! ## Steps -/

namespace State

def deref (s : State) : ℕ := s.proc.getD 0

def setProcess (o : ℕ) (p : Process) (s : State) : State :=
  { s with heap := Function.update s.heap o p }

def setChild (i : ℕ) (c : Child) (s : State) : State :=
  { s with children := Function.update s.children i c }

/-- One access of `reapIfReady` on an object: the next one, or its answer. -/
def reapStep (o : ℕ) (r : ReapPc) (s : State) : State × (ReapPc ⊕ Bool) :=
  match r with
  | .pid => (s, if (s.heap o).pid.isNone then .inr false else .inl .wait)
  | .wait =>
    let p := (s.heap o).pid.getD 0
    match (s.children p).exit with
    | none => (s, .inr false)
    | some status =>
      -- a child that was reaped before is an error of `waitpid`
      if (s.children p).reaped then (s, .inl .mark)
      else (s.setChild p { s.children p with reaped := true }, .inl (.code status))
  | .code status => (s.setProcess o { s.heap o with lastExitCode := some status.exitCode }, .inl .mark)
  | .mark => (s.setProcess o { s.heap o with state := .exited }, .inr true)

def killpg (pid : Option ℕ) (signal : Child → Child) (s : State) : State :=
  match pid with
  | none => s
  | some p => if (s.children p).grouped then s.setChild p (signal (s.children p)) else s

end State

open State

def trimFailures (sup : Supervisor) (exitedAt : ℤ) (failures : List ℤ) : List ℤ :=
  (failures ++ [exitedAt]).dropWhile fun t => exitedAt - t > sup.failureWindow

def nextBackoff (sup : Supervisor) (v : LoopVars) : ℤ :=
  if (v.exitedAt - v.startedAt).tdiv 1000000000 ≥ 60 then sup.backoffStartMs
  else min (v.backoffMs * 2) 30000

def loopStep (sup : Supervisor) (forkOk : Bool) (now : ℤ) (s : State) : State :=
  match s.loop with
  | .head => { s with loop := if s.stopFlag then .done else .create }
  | .create =>
    { s.setProcess s.allocated {} with
      proc := some s.allocated, allocated := s.allocated + 1, loop := .fork }
  | .fork =>
    if forkOk then
      { s.setChild s.forked {} with forked := s.forked + 1, loop := .setPid s.forked }
    else { s with loop := .forkFailed }
  | .forkFailed =>
    { s.setProcess s.deref { s.heap s.deref with state := .failed } with loop := .checkState }
  | .setPid p => { s.setProcess s.deref { s.heap s.deref with pid := some p } with loop := .setRunning }
  | .setRunning =>
    { s.setProcess s.deref { s.heap s.deref with state := .running } with loop := .checkState }
  | .checkState =>
    { s with loop := if (s.heap s.deref).state ≠ .running then .storeFailed else .storeRunning }
  | .storeFailed => { s with state := .failed, loop := .done }
  | .storeRunning =>
    { s with state := .running, vars := { s.vars with startedAt := now }, loop := .pollTest }
  | .pollTest => { s with loop := if s.stopFlag then .afterPoll else .pollReap .pid }
  | .pollReap r =>
    match s.reapStep s.deref r with
    | (s', .inl r') => { s' with loop := .pollReap r' }
    | (s', .inr ready) => { s' with loop := if ready then .afterPoll else .pollTest }
  | .afterPoll =>
    if s.stopFlag then { s with loop := .done }
    else { s with vars := { s.vars with exitedAt := now }, loop := .policy }
  | .policy =>
    if sup.restart = .never then { s with loop := .storeExited }
    else if sup.restart = .onFailure ∧ (s.heap s.deref).lastExitCode.getD 1 = 0 then
      { s with loop := .storeExited }
    else
      let failures := sup.trimFailures s.vars.exitedAt s.vars.recentFailures
      { s with vars := { s.vars with recentFailures := failures }, loop := .addRestart }
  | .storeExited => { s with state := .exited, loop := .done }
  | .addRestart =>
    let s := { s with restarts := s.restarts + 1 }
    if (s.vars.recentFailures.length : ℤ) ≥ sup.failureCap then { s with loop := .storeFailed }
    else
      let backoffMs := sup.nextBackoff s.vars
      { s with
        vars := { s.vars with backoffMs := backoffMs, wakeAt := now + backoffMs * 1000000 }
        loop := .backoffTest }
  | .backoffTest => { s with loop := if s.stopFlag then .head else .backoffClock }
  | .backoffClock => { s with loop := if now < s.vars.wakeAt then .backoffTest else .head }
  | .done => s

def shutdownStep (now : ℤ) (s : State) : State :=
  match s.shut with
  | .joinable => { s with shut := if s.joinable then .setFlag else .returned }
  | .setFlag => { s with stopFlag := true, shut := .readProc }
  | .readProc => { s with shut := if s.proc.isSome then .callStop else .join }
  | .callStop => { s with shut := .stopState s.deref }
  | .stopState o => { s with shut := if (s.heap o).state ≠ .running then .join else .term o }
  | .term o =>
    { s.killpg (s.heap o).pid ({ · with term := true }) with shut := .grace o (now + 5000 * 1000000) }
  | .grace o deadline =>
    { s with shut := if now < deadline then .reap o deadline .pid else .kill o }
  | .reap o deadline r =>
    match s.reapStep o r with
    | (s', .inl r') => { s' with shut := .reap o deadline r' }
    | (s', .inr ready) => { s' with shut := if ready then .join else .grace o deadline }
  | .kill o => { s.killpg (s.heap o).pid ({ · with kill := true }) with shut := .join }
  -- the thread is joined once it has ended
  | .join => if s.loop = .done then { s with joinable := false, shut := .storeStopped } else s
  | .storeStopped => { s with state := .stopped, shut := .returned }
  | .returned => s

inductive ChildEvent where
  | setpgid
  | exit (status : WaitStatus)
  deriving DecidableEq, Repr

def childStep (i : ℕ) (e : ChildEvent) (s : State) : State :=
  if i < s.forked ∧ (s.children i).exit.isNone then
    match e with
    | .setpgid => s.setChild i { s.children i with grouped := true }
    | .exit status => s.setChild i { s.children i with exit := some status }
  else s

inductive Act where
  | loop (forkOk : Bool) (now : ℤ)
  | shutdown (now : ℤ)
  | child (i : ℕ) (e : ChildEvent)
  deriving DecidableEq, Repr

def step (sup : Supervisor) (s : State) : Act → State
  | .loop forkOk now => sup.loopStep forkOk now s
  | .shutdown now => shutdownStep now s
  | .child i e => childStep i e s

/-! ## What a shutdown overlooks -/

/-- From the test of `stopFlag_` to the running process. -/
def LoopPc.launching : LoopPc → Bool
  | .create | .fork | .setPid _ | .setRunning => true
  | _ => false

namespace State

def Alive (s : State) (i : ℕ) : Prop := i < s.forked ∧ (s.children i).exit = none

instance (s : State) (i : ℕ) : Decidable (s.Alive i) := inferInstanceAs (Decidable (_ ∧ _))

/-- **The accesses that overlook a child.** -/
def misses (s : State) : Act → Bool
  | .shutdown _ =>
    match s.shut with
    | .readProc => s.proc.isNone && s.loop.launching
    | .stopState o =>
      decide ((s.heap o).state ≠ .running) && (s.loop.launching || decide (s.proc ≠ some o))
    | .kill o => (s.heap o).pid.any fun p => decide (s.Alive p) && !(s.children p).grouped
    | _ => false
  | _ => false

/-! ## The invariant -/

end State

/-- The control points at which the process behind `proc_` may be running. -/
def LoopPc.minding (flag : Bool) : LoopPc → Bool
  | .checkState | .storeRunning | .pollTest | .pollReap _ | .done => true
  | .afterPoll => flag
  | _ => false

def ReapPc.waited : ReapPc → Bool
  | .code _ | .mark => true
  | _ => false

namespace State

def Owned (s : State) (i : ℕ) : Prop :=
  s.loop = .setPid i ∨ (s.loop = .setRunning ∧ (s.heap s.deref).pid = some i) ∨
    (s.loop.minding s.stopFlag = true ∧ (s.heap s.deref).pid = some i ∧
      (s.heap s.deref).state = .running)

structure LoopInv (s : State) : Prop where
  made : s.loop.launching = true → s.loop ≠ .create → s.proc.isSome
  pid : s.loop = .setRunning → (s.heap s.deref).pid.isSome
  owned : ∀ i, s.Alive i → s.Owned i
  running : ∀ o, (s.heap o).state = .running →
    s.proc = some o ∧ (s.heap o).pid.isSome ∧ s.loop.minding s.stopFlag = true
  waited : ∀ r, s.loop = .pollReap r → r.waited = true → ∀ i, ¬ s.Alive i

/-- `stop` works on the process that the loop has launched last. -/
structure Holds (s : State) (o : ℕ) : Prop where
  flag : s.stopFlag = true
  proc : s.proc = some o
  pid : (s.heap o).pid.isSome
  launched : s.loop.launching = false

/-- Nothing is left to do for `shutdown`, nor will there be. -/
structure Over (s : State) : Prop where
  flag : s.stopFlag = true
  launched : s.loop.launching = false
  killed : ∀ i, s.Alive i → (s.children i).kill = true

def ShutInv (s : State) : Prop :=
  match s.shut with
  | .joinable => s.joinable = true
  | .setFlag => True
  | .readProc | .callStop | .stopState _ => s.stopFlag = true
  | .term o | .grace o _ | .kill o => s.Holds o
  | .reap o _ r => s.Holds o ∧ (r.waited = true → ∀ i, ¬ s.Alive i)
  | .join => s.Over
  | .storeStopped | .returned => s.Over ∧ s.loop = .done

/-- What every step keeps but those that launch a child. -/
structure Frame (s s' : State) : Prop where
  proc : s'.proc = s.proc
  forked : s'.forked = s.forked
  flag : s.stopFlag = true → s'.stopFlag = true
  pid : ∀ o, (s'.heap o).pid = (s.heap o).pid
  exit : ∀ i, (s'.children i).exit = none → (s.children i).exit = none
  kill : ∀ i, (s.children i).kill = true → (s'.children i).kill = true

/-- A step that moves the loop only. -/
structure Same (s s' : State) : Prop where
  proc : s'.proc = s.proc
  heap : s'.heap = s.heap
  children : s'.children = s.children
  forked : s'.forked = s.forked
  flag : s'.stopFlag = s.stopFlag
  shut : s'.shut = s.shut
  joinable : s'.joinable = s.joinable

section Steps

variable {s s' : State}

theorem Frame.refl (s : State) : Frame s s := ⟨rfl, rfl, id, fun _ => rfl, fun _ => id, fun _ => id⟩

theorem Frame.moved (hf : Frame s s') (loop : LoopPc) (vars : LoopVars) (shut : ShutPc)
    (joinable : Bool) (state : ProcState) (restarts : ℤ) :
    Frame s { s' with
      loop := loop, vars := vars, shut := shut, joinable := joinable, state := state,
      restarts := restarts } :=
  ⟨hf.proc, hf.forked, hf.flag, hf.pid, hf.exit, hf.kill⟩

theorem Same.frame (h : Same s s') : Frame s s' :=
  ⟨h.proc, h.forked, fun hs => h.flag.trans hs, fun _ => by rw [h.heap],
    fun _ => by rw [h.children]; exact id, fun _ => by rw [h.children]; exact id⟩

theorem Frame.alive (hf : Frame s s') {i : ℕ} (h : s'.Alive i) : s.Alive i :=
  ⟨hf.forked ▸ h.1, hf.exit i h.2⟩

theorem Frame.deref (hf : Frame s s') : s'.deref = s.deref := by rw [State.deref, hf.proc, State.deref]

theorem reapStep_frame (o : ℕ) (r : ReapPc) (s : State) : Frame s (s.reapStep o r).1 := by
  cases r with
  | pid => exact Frame.refl s
  | wait =>
    simp only [reapStep]
    cases hexit : (s.children ((s.heap o).pid.getD 0)).exit with
    | none => exact Frame.refl s
    | some status =>
      by_cases hreaped : (s.children ((s.heap o).pid.getD 0)).reaped = true
      · simpa only [hreaped, if_true] using Frame.refl s
      · simp only [hreaped]
        refine ⟨rfl, rfl, id, fun _ => rfl, fun i => ?_, fun i => ?_⟩ <;>
          by_cases hi : i = (s.heap o).pid.getD 0 <;> simp [setChild, hi]
  | code status =>
    refine ⟨rfl, rfl, id, fun o' => ?_, fun _ => id, fun _ => id⟩
    by_cases ho : o' = o <;> simp [reapStep, setProcess, ho]
  | mark =>
    refine ⟨rfl, rfl, id, fun o' => ?_, fun _ => id, fun _ => id⟩
    by_cases ho : o' = o <;> simp [reapStep, setProcess, ho]

theorem reapStep_state (o : ℕ) (r : ReapPc) (s : State) (o' : ℕ) :
    ((s.reapStep o r).1.heap o').state =
      if r = .mark ∧ o' = o then .exited else (s.heap o').state := by
  cases r with
  | pid => simp [reapStep]
  | wait =>
    simp only [reapStep]
    cases (s.children ((s.heap o).pid.getD 0)).exit with
    | none => simp
    | some status =>
      by_cases hreaped : (s.children ((s.heap o).pid.getD 0)).reaped = true <;>
        simp [hreaped, setChild]
  | code status => by_cases ho : o' = o <;> simp [reapStep, setProcess, ho]
  | mark => by_cases ho : o' = o <;> simp [reapStep, setProcess, ho]

theorem reapStep_pcs (o : ℕ) (r : ReapPc) (s : State) :
    (s.reapStep o r).1.loop = s.loop ∧ (s.reapStep o r).1.shut = s.shut ∧
      (s.reapStep o r).1.joinable = s.joinable ∧ (s.reapStep o r).1.stopFlag = s.stopFlag := by
  cases r with
  | wait =>
    simp only [reapStep]
    cases (s.children ((s.heap o).pid.getD 0)).exit with
    | none => simp
    | some status =>
      by_cases hreaped : (s.children ((s.heap o).pid.getD 0)).reaped = true <;>
        simp [hreaped, setChild]
  | _ => simp [reapStep, setProcess]

/-- `reapIfReady` answers yes, or has waited for the child, only if the child has exited. -/
theorem reapStep_waited {o : ℕ} {r : ReapPc} {s : State} {next : ReapPc ⊕ Bool}
    (h : (s.reapStep o r).2 = next)
    (hnext : next = .inr true ∨ ∃ r', next = .inl r' ∧ r'.waited = true) :
    r.waited = true ∨ (s.children ((s.heap o).pid.getD 0)).exit ≠ none := by
  cases r with
  | pid =>
    simp only [reapStep] at h
    rcases hnext with rfl | ⟨r', rfl, hr'⟩
    · split at h <;> simp at h
    · split at h
      · simp at h
      · rw [← Sum.inl.inj h] at hr'
        simp [ReapPc.waited] at hr'
  | wait =>
    refine .inr fun hexit => ?_
    simp only [reapStep, hexit] at h
    rcases hnext with rfl | ⟨r', rfl, -⟩ <;> simp at h
  | code status => exact .inl rfl
  | mark => exact .inl rfl

theorem reapStep_true {o : ℕ} {r : ReapPc} {s : State} (h : (s.reapStep o r).2 = .inr true) :
    r = .mark := by
  cases r with
  | pid =>
    simp only [reapStep] at h
    split at h <;> simp at h
  | wait =>
    simp only [reapStep] at h
    split at h
    · simp at h
    · split at h <;> simp at h
  | code status => simp [reapStep] at h
  | mark => rfl

/-! ### The loop -/

theorem LoopInv.frame (h : s.LoopInv) (hf : Frame s s') (hloop : s'.loop = s.loop)
    (hflag : s.loop.minding s.stopFlag = true → s'.loop.minding s'.stopFlag = true)
    (hstate : ∀ o, (s'.heap o).state = .running → (s.heap o).state = .running)
    (hkeep : ∀ i, s'.Alive i → (s'.heap s.deref).state = (s.heap s.deref).state) : s'.LoopInv := by
  constructor
  · rw [hloop, hf.proc]
    exact h.made
  · rw [hloop, hf.deref, hf.pid]
    exact h.pid
  · intro i hi
    unfold Owned
    rw [hf.deref, hf.pid, hkeep i hi, hloop]
    rcases h.owned i (hf.alive hi) with hset | hset | ⟨hmind, hpid⟩
    · exact .inl hset
    · exact .inr (.inl hset)
    · exact .inr (.inr ⟨hloop ▸ hflag hmind, hpid⟩)
  · intro o ho
    obtain ⟨hproc, hpid, hmind⟩ := h.running o (hstate o ho)
    exact ⟨by rw [hf.proc, hproc], by rw [hf.pid]; exact hpid, hflag hmind⟩
  · intro r hr hw i hi
    exact h.waited r (hloop ▸ hr) hw i (hf.alive hi)

theorem LoopInv.alive (h : s.LoopInv) (hl : s.loop.launching = false) {i : ℕ} (hi : s.Alive i) :
    s.loop.minding s.stopFlag = true ∧ (s.heap s.deref).pid = some i ∧
      (s.heap s.deref).state = .running := by
  rcases h.owned i hi with hset | ⟨hset, -⟩ | hmind
  · simp [hset, LoopPc.launching] at hl
  · simp [hset, LoopPc.launching] at hl
  · exact hmind

theorem LoopInv.goto (h : s.LoopInv) (hf : Frame s s') (hl : s.loop.launching = false)
    (hl' : s'.loop.launching = false)
    (hstate : ∀ o, (s'.heap o).state = .running →
      (s.heap o).state = .running ∧ s'.loop.minding s'.stopFlag = true)
    (hkeep : ∀ i, s'.Alive i → (s'.heap s.deref).state = (s.heap s.deref).state)
    (hwaited : ∀ r, s'.loop = .pollReap r → r.waited = true → ∀ i, ¬ s.Alive i) : s'.LoopInv := by
  constructor
  · intro hlaunch
    rw [hl'] at hlaunch
    simp at hlaunch
  · intro hset
    simp [hset, LoopPc.launching] at hl'
  · intro i hi
    obtain ⟨-, hpid, hrun⟩ := h.alive hl (hf.alive hi)
    have hrun' : (s'.heap s.deref).state = .running := (hkeep i hi).trans hrun
    refine .inr (.inr ⟨(hstate _ hrun').2, ?_, ?_⟩)
    · rw [hf.deref, hf.pid, hpid]
    · rw [hf.deref, hrun']
  · intro o ho
    obtain ⟨hproc, hpid, -⟩ := h.running o (hstate o ho).1
    exact ⟨by rw [hf.proc, hproc], by rw [hf.pid]; exact hpid, (hstate o ho).2⟩
  · intro r hr hw i hi
    exact hwaited r hr hw i (hf.alive hi)

theorem LoopInv.jump (h : s.LoopInv) (s' : State) (hl : s.loop.launching = false)
    (hl' : s'.loop.launching = false)
    (hmind : s.loop.minding s.stopFlag = true → (s.heap s.deref).state = .running →
      s'.loop.minding s'.stopFlag = true)
    (hwaited : ∀ r, s'.loop = .pollReap r → r.waited = false) (hsame : Same s s') : s'.LoopInv := by
  refine h.goto hsame.frame hl hl' (fun o ho => ?_) (fun _ _ => by rw [hsame.heap])
    (fun r hr hw => ?_)
  · rw [hsame.heap] at ho
    obtain ⟨hproc, -, hm⟩ := h.running o ho
    exact ⟨ho, hmind hm (by rw [State.deref, hproc]; exact ho)⟩
  · rw [hwaited r hr] at hw
    simp at hw

theorem LoopInv.poll (h : s.LoopInv) {r : ReapPc} (hpc : s.loop = .pollReap r) :
    (∀ r', (s.reapStep s.deref r).2 = .inl r' →
      { (s.reapStep s.deref r).1 with loop := .pollReap r' }.LoopInv) ∧
    ∀ ready, (s.reapStep s.deref r).2 = .inr ready →
      { (s.reapStep s.deref r).1 with loop := if ready then .afterPoll else .pollTest }.LoopInv := by
  have hl : s.loop.launching = false := by rw [hpc]; rfl
  have hf := reapStep_frame s.deref r s
  have hstate := reapStep_state s.deref r s
  have hrunning : ∀ o, ((s.reapStep s.deref r).1.heap o).state = .running →
      (s.heap o).state = .running := by
    intro o ho
    rw [hstate] at ho
    split at ho
    · simp at ho
    · exact ho
  have hgone : (s.children ((s.heap s.deref).pid.getD 0)).exit ≠ none → ∀ i, ¬ s.Alive i := by
    intro hexit i hi
    rw [(h.alive hl hi).2.1] at hexit
    exact hexit hi.2
  have hmark : ∀ i, s.Alive i → ((s.reapStep s.deref r).1.heap s.deref).state =
      (s.heap s.deref).state := by
    intro i hi
    rw [hstate]
    refine if_neg fun hr => h.waited r hpc ?_ i hi
    rw [hr.1]
    rfl
  constructor
  · intro r' hr'
    refine h.goto (hf.moved _ _ _ _ _ _) hl rfl
      (fun o ho => ⟨hrunning o ho, rfl⟩) (fun i hi => hmark i (hf.alive hi)) ?_
    intro r'' hr'' hw
    rcases reapStep_waited hr' (.inr ⟨r', rfl, LoopPc.pollReap.inj hr'' ▸ hw⟩) with hwaited | hexit
    · exact h.waited r hpc hwaited
    · exact hgone hexit
  · intro ready hready
    refine h.goto (hf.moved _ _ _ _ _ _) hl
      (by cases ready <;> rfl) (fun o ho => ⟨hrunning o ho, ?_⟩) (fun i hi => hmark i (hf.alive hi))
      (by cases ready <;> simp)
    cases ready with
    | false => rfl
    | true =>
      -- the answer comes from the mark, after which the loop's process is not running
      have hr : r = .mark := reapStep_true hready
      have hderef : s.deref = o := by
        rw [State.deref, (h.running o (hrunning o ho)).1]
        rfl
      have hmarked := hstate o
      rw [if_pos ⟨hr, hderef.symm⟩] at hmarked
      exact absurd (hmarked.symm.trans ho) (by decide)

variable {sup : Supervisor} {forkOk : Bool} {now : ℤ}

theorem LoopInv.idle (h : s.LoopInv) (hm : s.loop.minding s.stopFlag = false) (o : ℕ) :
    (s.heap o).state ≠ .running := by
  intro ho
  rw [(h.running o ho).2.2] at hm
  simp at hm

theorem launch_inv (h : s.LoopInv) (hl : s.loop.launching = true) :
    (sup.loopStep forkOk now s).LoopInv := by
  cases hpc : s.loop with
  | create =>
    have hnone : ∀ i, ¬ s.Alive i := fun i hi => by
      simpa [Owned, hpc, LoopPc.minding] using h.owned i hi
    have hidle := h.idle (by rw [hpc]; rfl)
    simp only [loopStep, hpc]
    refine ⟨by simp, by simp, fun i hi => absurd hi (hnone i), fun o ho => ?_, by simp⟩
    by_cases hnew : o = s.allocated
    · simp [setProcess, hnew] at ho
    · simp [setProcess, hnew, hidle] at ho
  | fork =>
    have hnone : ∀ i, ¬ s.Alive i := fun i hi => by
      simpa [Owned, hpc, LoopPc.minding] using h.owned i hi
    have hidle := h.idle (by rw [hpc]; rfl)
    have hmade := h.made hl (by simp [hpc])
    simp only [loopStep, hpc]
    split
    · refine ⟨fun _ _ => hmade, by simp, fun i hi => .inl ?_, fun o ho => absurd ho (hidle o),
        by simp⟩
      by_cases hnew : i = s.forked
      · rw [hnew]
      · refine absurd ⟨?_, ?_⟩ (hnone i)
        · have hlt : i < s.forked + 1 := hi.1
          omega
        · simpa [setChild, hnew] using hi.2
    · exact ⟨by simp [LoopPc.launching], by simp, fun i hi => absurd hi (hnone i),
        fun o ho => absurd ho (hidle o), by simp⟩
  | setPid p =>
    have hidle := h.idle (by rw [hpc]; rfl)
    have hmade := h.made hl (by simp [hpc])
    simp only [loopStep, hpc]
    refine ⟨fun _ _ => hmade, by simp [setProcess, deref], fun i hi => .inr (.inl ⟨rfl, ?_⟩),
      fun o ho => ?_, by simp⟩
    · have hown : p = i := by simpa [Owned, hpc, LoopPc.minding] using h.owned i hi
      simp [setProcess, deref, hown]
    · by_cases hnew : o = s.deref
      · simp [setProcess, hnew, hidle] at ho
      · simp [setProcess, hnew, hidle] at ho
  | setRunning =>
    have hidle := h.idle (by rw [hpc]; rfl)
    have hmade := h.made hl (by simp [hpc])
    have hpid := h.pid hpc
    simp only [loopStep, hpc]
    refine ⟨by simp [LoopPc.launching], by simp, fun i hi => .inr (.inr ⟨rfl, ?_⟩),
      fun o ho => ?_, by simp⟩
    · have hown : (s.heap s.deref).pid = some i := by
        simpa [Owned, hpc, LoopPc.minding] using h.owned i hi
      simpa [setProcess, deref] using hown
    · by_cases hnew : o = s.deref
      · obtain ⟨o', ho'⟩ := Option.isSome_iff_exists.mp hmade
        have hderef : s.deref = o' := by rw [deref, ho']; rfl
        refine ⟨by rw [hnew, hderef]; exact ho', ?_, rfl⟩
        simpa [setProcess, hnew] using hpid
      · simp [setProcess, hnew, hidle] at ho
  | _ => simp [hpc, LoopPc.launching] at hl

theorem loopStep_same (hl : s.loop.launching = false) (hfork : s.loop ≠ .forkFailed)
    (hpoll : ∀ r, s.loop ≠ .pollReap r) : Same s (sup.loopStep forkOk now s) := by
  cases hpc : s.loop with
  | create | fork | setPid p | setRunning => simp [hpc, LoopPc.launching] at hl
  | forkFailed => exact absurd hpc hfork
  | pollReap r => exact absurd hpc (hpoll r)
  | _ =>
    simp only [loopStep, hpc]
    try split_ifs
    all_goals exact ⟨rfl, rfl, rfl, rfl, rfl, rfl, rfl⟩

theorem loopStep_inv (h : s.LoopInv) : (sup.loopStep forkOk now s).LoopInv := by
  by_cases hl : s.loop.launching = true
  · exact launch_inv h hl
  rw [Bool.not_eq_true] at hl
  have hsame := @loopStep_same s sup forkOk now hl
  cases hpc : s.loop with
  | create | fork | setPid p | setRunning => simp [hpc, LoopPc.launching] at hl
  | head =>
    have hnone : ∀ i, ¬ s.Alive i := fun i hi => by
      simpa [Owned, hpc, LoopPc.minding] using h.owned i hi
    have hidle := h.idle (by rw [hpc]; rfl)
    simp only [loopStep, hpc]
    exact ⟨by split <;> simp [LoopPc.launching], by split <;> simp, fun i hi => absurd hi (hnone i),
      fun o ho => absurd ho (hidle o), by split <;> simp⟩
  | forkFailed =>
    have hnone : ∀ i, ¬ s.Alive i := fun i hi => by
      simpa [Owned, hpc, LoopPc.minding] using h.owned i hi
    have hidle := h.idle (by rw [hpc]; rfl)
    simp only [loopStep, hpc]
    refine ⟨by simp [LoopPc.launching], by simp, fun i hi => absurd hi (hnone i), fun o ho => ?_,
      by simp⟩
    by_cases hnew : o = s.deref
    · simp [setProcess, hnew] at ho
    · simp [setProcess, hnew, hidle] at ho
  | pollReap r =>
    obtain ⟨hnext, hready⟩ := h.poll hpc
    simp only [loopStep, hpc]
    split
    · next heq => simpa [heq] using hnext _ (by rw [heq])
    · next heq => simpa [heq] using hready _ (by rw [heq])
  | checkState =>
    refine h.jump _ hl ?_ ?_ ?_ (hsame (by simp [hpc]) (by simp [hpc])) <;> simp only [loopStep, hpc]
    · split <;> rfl
    · intro _ hrun
      simp [hrun, LoopPc.minding]
    · intro r
      split <;> simp
  | afterPoll =>
    refine h.jump _ hl ?_ ?_ ?_ (hsame (by simp [hpc]) (by simp [hpc])) <;> simp only [loopStep, hpc]
    · split <;> rfl
    · intro hm _
      have hflag : s.stopFlag = true := by simpa [LoopPc.minding] using hm
      simp [hflag, LoopPc.minding]
    · intro r
      split <;> simp
  | pollTest =>
    refine h.jump _ hl ?_ ?_ ?_ (hsame (by simp [hpc]) (by simp [hpc])) <;> simp only [loopStep, hpc]
    · split <;> rfl
    · intro _ _
      cases hflag : s.stopFlag <;> simp [LoopPc.minding]
    · intro r
      split
      · simp
      · rintro ⟨⟩
        rfl
  | storeRunning | done =>
    exact h.jump _ hl (by simp [loopStep, hpc, LoopPc.launching])
      (by simp [loopStep, hpc, LoopPc.minding]) (by simp [loopStep, hpc])
      (hsame (by simp [hpc]) (by simp [hpc]))
  | storeFailed | policy | storeExited | addRestart | backoffTest | backoffClock =>
    refine h.jump _ hl ?_ (fun hm => ?_) ?_ (hsame (by simp [hpc]) (by simp [hpc]))
    · simp only [loopStep, hpc]
      try split_ifs
      all_goals rfl
    · simp [hpc, LoopPc.minding] at hm
    · intro r
      simp only [loopStep, hpc]
      try split_ifs
      all_goals simp

theorem loopStep_flagged (hl : s.loop.launching = false) (hflag : s.stopFlag = true) :
    Frame s (sup.loopStep forkOk now s) ∧ (sup.loopStep forkOk now s).loop.launching = false ∧
      (s.loop = .done → (sup.loopStep forkOk now s).loop = .done) := by
  cases hpc : s.loop with
  | create | fork | setPid p | setRunning => simp [hpc, LoopPc.launching] at hl
  | forkFailed =>
    refine ⟨⟨?_, ?_, ?_, fun o => ?_, ?_, ?_⟩, ?_, by simp⟩ <;> simp only [loopStep, hpc]
    · rfl
    · rfl
    · exact id
    · by_cases ho : o = s.deref <;> simp [setProcess, ho]
    · exact fun _ => id
    · exact fun _ => id
    · rfl
  | pollReap r =>
    have hf := reapStep_frame s.deref r s
    refine ⟨?_, ?_, by simp⟩ <;> simp only [loopStep, hpc]
    · split <;> next heq =>
        rw [heq] at hf
        exact hf.moved _ _ _ _ _ _
    · split
      · rfl
      · dsimp only
        split <;> rfl
  | _ =>
    refine ⟨(loopStep_same hl (by simp [hpc]) (by simp [hpc])).frame, ?_, ?_⟩ <;>
      simp only [loopStep, hpc, hflag, if_true]
    all_goals try split_ifs
    all_goals simp [LoopPc.launching]

theorem loopStep_shared : (sup.loopStep forkOk now s).stopFlag = s.stopFlag ∧
    (sup.loopStep forkOk now s).shut = s.shut ∧
    (sup.loopStep forkOk now s).joinable = s.joinable := by
  unfold loopStep
  split
  case h_11 r _ =>
    obtain ⟨-, hshut, hjoin, hflag⟩ := reapStep_pcs s.deref r s
    split <;> next heq =>
      rw [heq] at hshut hjoin hflag
      exact ⟨hflag, hshut, hjoin⟩
  all_goals try dsimp only
  all_goals try split_ifs
  all_goals exact ⟨rfl, rfl, rfl⟩

/-! ### The shutdown -/

theorem Holds.frame {o : ℕ} (h : s.Holds o) (hf : Frame s s') (hl : s'.loop.launching = false) :
    s'.Holds o :=
  ⟨hf.flag h.flag, hf.proc.trans h.proc, by rw [hf.pid]; exact h.pid, hl⟩

theorem Over.frame (h : s.Over) (hf : Frame s s') (hl : s'.loop.launching = false) : s'.Over :=
  ⟨hf.flag h.flag, hl, fun i hi => hf.kill i (h.killed i (hf.alive hi))⟩

theorem ShutInv.frame (h : s.ShutInv) (hshut : s'.shut = s.shut) (hjoin : s'.joinable = s.joinable)
    (hflag : s'.stopFlag = s.stopFlag)
    (hf : s.loop.launching = false → s.stopFlag = true → Frame s s' ∧ s'.loop.launching = false ∧
      (s.loop = .done → s'.loop = .done)) : s'.ShutInv := by
  unfold ShutInv at h ⊢
  rw [hshut]
  cases hpc : s.shut with
  | joinable =>
    simp only [hpc] at h ⊢
    exact hjoin.trans h
  | setFlag => trivial
  | readProc | callStop | stopState o =>
    simp only [hpc] at h ⊢
    exact hflag.trans h
  | term o | grace o deadline | kill o =>
    simp only [hpc] at h ⊢
    obtain ⟨hframe, hl, -⟩ := hf h.launched h.flag
    exact h.frame hframe hl
  | reap o deadline r =>
    simp only [hpc] at h ⊢
    obtain ⟨hframe, hl, -⟩ := hf h.1.launched h.1.flag
    exact ⟨h.1.frame hframe hl, fun hr i hi => h.2 hr i (hframe.alive hi)⟩
  | join =>
    simp only [hpc] at h ⊢
    obtain ⟨hframe, hl, -⟩ := hf h.launched h.flag
    exact h.frame hframe hl
  | storeStopped | returned =>
    simp only [hpc] at h ⊢
    obtain ⟨hframe, hl, hdone⟩ := hf h.1.launched h.1.flag
    exact ⟨h.1.frame hframe hl, hdone h.2⟩

theorem killpg_frame (signal : Child → Child) (hexit : ∀ c, (signal c).exit = c.exit)
    (hkill : ∀ c : Child, c.kill = true → (signal c).kill = true) (pid : Option ℕ) (s : State) :
    Frame s (s.killpg pid signal) := by
  unfold killpg
  cases pid with
  | none => exact Frame.refl s
  | some p =>
    dsimp only
    split
    · refine ⟨rfl, rfl, id, fun _ => rfl, fun i hi => ?_, fun i hi => ?_⟩
      · by_cases hp : i = p
        · simpa [setChild, hp, hexit] using hi
        · simpa [setChild, hp] using hi
      · by_cases hp : i = p
        · simpa [setChild, hp] using hkill _ (hp ▸ hi)
        · simpa [setChild, hp] using hi
    · exact Frame.refl s

theorem killpg_rest (pid : Option ℕ) (signal : Child → Child) (s : State) :
    (s.killpg pid signal).heap = s.heap ∧ (s.killpg pid signal).loop = s.loop ∧
      (s.killpg pid signal).stopFlag = s.stopFlag := by
  unfold killpg
  cases pid with
  | none => exact ⟨rfl, rfl, rfl⟩
  | some p =>
    dsimp only
    split <;> exact ⟨rfl, rfl, rfl⟩

theorem minding_flagged {pc : LoopPc} {flag : Bool} (h : pc.minding flag = true) :
    pc.minding true = true := by
  cases pc <;> first | exact h | rfl

theorem not_launching_of_minding {pc : LoopPc} {flag : Bool} (h : pc.minding flag = true) :
    pc.launching = false := by
  cases pc <;> first | rfl | simp [LoopPc.minding] at h

theorem LoopInv.aside (h : s.LoopInv) (hf : Frame s s') (hheap : s'.heap = s.heap)
    (hloop : s'.loop = s.loop) (hflag : s'.stopFlag = s.stopFlag) : s'.LoopInv :=
  h.frame hf hloop (by rw [hloop, hflag]; exact id) (fun o => by rw [hheap]; exact id)
    (fun _ _ => by rw [hheap])

theorem shutdownStep_loopInv (h : s.LoopInv) (hs : s.ShutInv) : (shutdownStep now s).LoopInv := by
  unfold ShutInv at hs
  unfold shutdownStep
  cases hpc : s.shut with
  | setFlag =>
    exact h.frame ⟨rfl, rfl, fun _ => rfl, fun _ => rfl, fun _ => id, fun _ => id⟩ rfl
      minding_flagged (fun _ => id) (fun _ _ => rfl)
  | term o =>
    obtain ⟨hheap, hloop, hflag⟩ := killpg_rest (s.heap o).pid ({ · with term := true }) s
    have hf := killpg_frame ({ · with term := true }) (fun _ => rfl) (fun _ => id) (s.heap o).pid s
    exact h.aside (hf.moved _ _ _ _ _ _) hheap hloop hflag
  | kill o =>
    obtain ⟨hheap, hloop, hflag⟩ := killpg_rest (s.heap o).pid ({ · with kill := true }) s
    have hf := killpg_frame ({ · with kill := true }) (fun _ => rfl) (fun _ _ => rfl) (s.heap o).pid s
    exact h.aside (hf.moved _ _ _ _ _ _) hheap hloop hflag
  | reap o deadline r =>
    simp only [hpc] at hs
    have hf := reapStep_frame o r s
    have hstate := reapStep_state o r s
    obtain ⟨hloop, -, -, hflag⟩ := reapStep_pcs o r s
    have hinv : (s.reapStep o r).1.LoopInv := by
      refine h.frame hf hloop (by rw [hloop, hflag]; exact id) (fun o' ho' => ?_) (fun i hi => ?_)
      · rw [hstate] at ho'
        split at ho'
        · simp at ho'
        · exact ho'
      · rw [hstate]
        refine if_neg fun hr => hs.2 ?_ i (hf.alive hi)
        rw [hr.1]
        rfl
    dsimp only
    split <;> next heq =>
      rw [heq] at hinv
      exact hinv.aside ((Frame.refl _).moved _ _ _ _ _ _) rfl rfl rfl
  | join =>
    dsimp only
    split
    · exact h.aside ((Frame.refl _).moved _ _ _ _ _ _) rfl rfl rfl
    · exact h
  | returned => exact h
  | _ => exact h.aside ((Frame.refl _).moved _ _ _ _ _ _) rfl rfl rfl

theorem Holds.deref {o : ℕ} (h : s.Holds o) : s.deref = o := by
  rw [State.deref, h.proc]
  rfl

theorem Holds.waited {o : ℕ} (h : s.Holds o) (hi : s.LoopInv) {r : ReapPc} {next : ReapPc ⊕ Bool}
    (hr : r.waited = true → ∀ i, ¬ s.Alive i) (hnext : (s.reapStep o r).2 = next)
    (hw : next = .inr true ∨ ∃ r', next = .inl r' ∧ r'.waited = true) : ∀ i, ¬ s.Alive i := by
  rcases reapStep_waited hnext hw with hwaited | hexit
  · exact hr hwaited
  · intro i halive
    have hpid := (hi.alive h.launched halive).2.1
    rw [h.deref] at hpid
    rw [hpid] at hexit
    exact hexit halive.2

theorem shutdownStep_shutInv (h : s.LoopInv) (hs : s.ShutInv)
    (hmiss : s.misses (.shutdown now) = false) : (shutdownStep now s).ShutInv := by
  unfold ShutInv at hs
  unfold shutdownStep
  simp only [misses] at hmiss
  cases hpc : s.shut with
  | joinable =>
    simp only [hpc] at hs
    simp [ShutInv, hs]
  | setFlag => rfl
  | readProc =>
    simp only [hpc] at hs hmiss
    cases hproc : s.proc with
    | some o => exact hs
    | none =>
      have hl : s.loop.launching = false := by simpa [hproc] using hmiss
      refine ⟨hs, hl, fun i hi => ?_⟩
      have hrun := (h.running _ (h.alive hl hi).2.2).1
      rw [hproc] at hrun
      simp at hrun
  | callStop =>
    simp only [hpc] at hs
    exact hs
  | stopState o =>
    simp only [hpc] at hs hmiss
    by_cases hrun : (s.heap o).state = .running
    · obtain ⟨hproc, hpid, hmind⟩ := h.running o hrun
      have hholds : s.Holds o := ⟨hs, hproc, hpid, not_launching_of_minding hmind⟩
      simp only [hrun, ne_eq, not_true, if_false]
      exact hholds.frame ((Frame.refl _).moved _ _ _ _ _ _) hholds.launched
    · have hseen : s.loop.launching = false ∧ s.proc = some o := by simpa [hrun] using hmiss
      simp only [ne_eq, hrun, not_false_eq_true, if_true]
      refine ⟨hs, hseen.1, fun i hi => ?_⟩
      have hderef : s.deref = o := by rw [State.deref, hseen.2]; rfl
      exact absurd (hderef ▸ (h.alive hseen.1 hi).2.2) hrun
  | term o =>
    simp only [hpc] at hs
    have hf := killpg_frame ({ · with term := true }) (fun _ => rfl) (fun _ => id) (s.heap o).pid s
    refine hs.frame (hf.moved _ _ _ _ _ _) ?_
    exact (congrArg LoopPc.launching (killpg_rest _ _ s).2.1).trans hs.launched
  | grace o deadline =>
    simp only [hpc] at hs
    have hheld : ∀ pc, ({ s with shut := pc } : State).Holds o := fun pc =>
      hs.frame ((Frame.refl _).moved _ _ _ _ _ _) hs.launched
    dsimp only
    split
    · exact ⟨hheld _, fun hw => by simp [ReapPc.waited] at hw⟩
    · exact hheld _
  | reap o deadline r =>
    simp only [hpc] at hs
    obtain ⟨hholds, hwaited⟩ := hs
    have hf := reapStep_frame o r s
    have hgone := @Holds.waited s o hholds h r _ hwaited rfl
    have hl : (s.reapStep o r).1.loop.launching = false :=
      (congrArg LoopPc.launching (reapStep_pcs o r s).1).trans hholds.launched
    dsimp only
    split
    · next s' r' heq =>
      rw [heq] at hf hl hgone
      exact ⟨hholds.frame (hf.moved _ _ _ _ _ _) hl,
        fun hw i hi => hgone (.inr ⟨r', rfl, hw⟩) i (hf.alive hi)⟩
    · next s' ready heq =>
      rw [heq] at hf hl hgone
      cases ready with
      | false => exact hholds.frame (hf.moved _ _ _ _ _ _) hl
      | true =>
        refine ⟨hf.flag hholds.flag, hl, fun i hi => ?_⟩
        exact absurd (hf.alive hi) (hgone (.inl rfl) i)
  | kill o =>
    simp only [hpc] at hs hmiss
    have hf := killpg_frame ({ · with kill := true }) (fun _ => rfl) (fun _ _ => rfl) (s.heap o).pid s
    refine ⟨hf.flag hs.flag, ?_, fun i hi => ?_⟩
    · exact (congrArg LoopPc.launching (killpg_rest _ _ s).2.1).trans hs.launched
    · have halive : s.Alive i := hf.alive hi
      have hpid := (h.alive hs.launched halive).2.1
      rw [hs.deref] at hpid
      have hgrouped : (s.children i).grouped = true := by simpa [hpid, halive] using hmiss
      simp [hpid, killpg, hgrouped, setChild]
  | join =>
    simp only [hpc] at hs
    dsimp only
    split
    · next hdone =>
      exact ⟨hs.frame ((Frame.refl _).moved _ _ _ _ _ _) hs.launched, hdone⟩
    · simpa [ShutInv, hpc] using hs
  | storeStopped =>
    simp only [hpc] at hs
    exact ⟨hs.1.frame ((Frame.refl _).moved _ _ _ _ _ _) hs.1.launched, hs.2⟩
  | returned =>
    simp only [hpc] at hs
    simpa [ShutInv, hpc] using hs

/-! ### The children -/

theorem childStep_frame (i : ℕ) (e : ChildEvent) (s : State) : Frame s (childStep i e s) := by
  unfold childStep
  split
  · next hi =>
    cases e with
    | setpgid =>
      refine ⟨rfl, rfl, id, fun _ => rfl, fun j => ?_, fun j => ?_⟩ <;>
        by_cases hj : j = i <;> simp [setChild, hj]
    | exit status =>
      refine ⟨rfl, rfl, id, fun _ => rfl, fun j => ?_, fun j => ?_⟩ <;>
        by_cases hj : j = i <;> simp [setChild, hj]
  · exact Frame.refl s

theorem childStep_rest (i : ℕ) (e : ChildEvent) (s : State) :
    (childStep i e s).heap = s.heap ∧ (childStep i e s).loop = s.loop ∧
      (childStep i e s).stopFlag = s.stopFlag ∧ (childStep i e s).shut = s.shut ∧
      (childStep i e s).joinable = s.joinable := by
  unfold childStep
  split
  · cases e <;> exact ⟨rfl, rfl, rfl, rfl, rfl⟩
  · exact ⟨rfl, rfl, rfl, rfl, rfl⟩

/-! ## Every interleaving -/

theorem step_inv {a : Act} (h : s.LoopInv ∧ s.ShutInv) (hmiss : s.misses a = false) :
    (sup.step s a).LoopInv ∧ (sup.step s a).ShutInv := by
  cases a with
  | loop forkOk now =>
    obtain ⟨hflag, hshut, hjoin⟩ := @loopStep_shared s sup forkOk now
    exact ⟨loopStep_inv h.1, h.2.frame hshut hjoin hflag loopStep_flagged⟩
  | shutdown now => exact ⟨shutdownStep_loopInv h.1 h.2, shutdownStep_shutInv h.1 h.2 hmiss⟩
  | child i e =>
    obtain ⟨hheap, hloop, hflag, hshut, hjoin⟩ := childStep_rest i e s
    have hf := childStep_frame i e s
    refine ⟨h.1.aside hf hheap hloop hflag, h.2.frame hshut hjoin hflag fun hl _ => ⟨hf, ?_, ?_⟩⟩
    · exact (congrArg LoopPc.launching hloop).trans hl
    · exact fun hdone => hloop.trans hdone

theorem boot_inv (sup : Supervisor) : sup.boot.LoopInv ∧ sup.boot.ShutInv :=
  ⟨⟨by simp [boot, LoopPc.launching], by simp [boot], fun i hi => by simp [boot, Alive] at hi,
    fun o ho => by simp [boot] at ho, by simp [boot]⟩, rfl⟩

theorem returned_forked (h : s.shut = .returned ∧ s.loop = .done) (a : Act) :
    ((sup.step s a).shut = .returned ∧ (sup.step s a).loop = .done) ∧
      (sup.step s a).forked = s.forked := by
  cases a with
  | loop forkOk now => simp [step, loopStep, h]
  | shutdown now => simp [step, shutdownStep, h]
  | child i e =>
    obtain ⟨-, hloop, -, hshut, -⟩ := childStep_rest i e s
    exact ⟨⟨hshut.trans h.1, hloop.trans h.2⟩, (childStep_frame i e s).forked⟩

theorem returned_run (h : s.shut = .returned ∧ s.loop = .done) (more : List Act) :
    (more.foldl sup.step s).forked = s.forked := by
  induction more generalizing s with
  | nil => rfl
  | cons a more ih =>
    obtain ⟨hstay, hforked⟩ := @returned_forked s sup h a
    rw [List.foldl_cons, ih hstay, hforked]

end Steps

end State

open State

/-- **A shutdown leaves nothing running.**  In every interleaving of the loop, one call of `shutdown`
and the children in which no access of `shutdown` overlooks a child: once `shutdown` has returned, every
child has exited or was sent SIGKILL, and no later step starts one. -/
theorem shutdown_leaves_nothing (sup : Supervisor) (acts : List Act)
    (h : Run.Meets sup.step (fun s a => s.misses a = false) sup.boot acts)
    (hreturned : (acts.foldl sup.step sup.boot).shut = .returned) :
    (∀ i < (acts.foldl sup.step sup.boot).forked,
      ((acts.foldl sup.step sup.boot).children i).Stopped) ∧
    ∀ more : List Act, ((acts ++ more).foldl sup.step sup.boot).forked =
      (acts.foldl sup.step sup.boot).forked := by
  obtain ⟨-, hshut⟩ := Run.Meets.invariant (I := fun s => s.LoopInv ∧ s.ShutInv)
    (fun _ _ hs hm => step_inv hs hm) acts sup.boot (boot_inv sup) h
  unfold ShutInv at hshut
  rw [hreturned] at hshut
  obtain ⟨hover, hdone⟩ := hshut
  constructor
  · intro i hi
    by_cases hexit : ((acts.foldl sup.step sup.boot).children i).exit = none
    · exact .inr (hover.killed i ⟨hi, hexit⟩)
    · exact .inl (Option.isSome_iff_ne_none.mpr hexit)
  · intro more
    rw [List.foldl_append]
    exact returned_run ⟨hreturned, hdone⟩ more

def orderly : List Act :=
  List.replicate 8 (Act.loop true 0) ++ [Act.child 0 .setpgid] ++
    List.replicate 7 (Act.shutdown 0) ++ [Act.child 0 (.exit (.signaled 15))] ++
    List.replicate 4 (Act.shutdown 0) ++ List.replicate 4 (Act.loop true 0) ++
    List.replicate 2 (Act.shutdown 0)

theorem orderly_leaves_nothing :
    let s := orderly.foldl (step {}) (boot {})
    (s.shut = .returned ∧ s.forked = 1 ∧ (s.children 0).term = true) ∧
      (∀ i < s.forked, (s.children i).Stopped) ∧
      ∀ more : List Act, ((orderly ++ more).foldl (step {}) (boot {})).forked = s.forked :=
  ⟨by decide +kernel, shutdown_leaves_nothing {} orderly (by decide +kernel) (by decide +kernel)⟩

/-- The loop has seen the flag clear; `shutdown` sets it and finds no process yet; the loop goes on to
launch the child, sees the flag and ends; `shutdown` returns. -/
def overtaken : List Act :=
  [Act.loop true 0] ++ List.replicate 3 (Act.shutdown 0) ++ List.replicate 8 (Act.loop true 0) ++
    List.replicate 2 (Act.shutdown 0)

/-- `shutdown` has returned, and the child runs on without a signal. -/
theorem overtaken_leaves_child :
    let s := overtaken.foldl (step {}) (boot {})
    s.shut = .returned ∧ s.loop = .done ∧ s.forked = 1 ∧
      (s.children 0).exit = none ∧ (s.children 0).term = false ∧ (s.children 0).kill = false := by
  decide +kernel

end Supervisor

end Fpvd
