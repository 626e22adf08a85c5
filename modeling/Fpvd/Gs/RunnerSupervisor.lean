import Mathlib.Tactic
import Fpvd.Lib.Run
import Fpvd.Lib.Window

/-!
# Fpvd.Gs.RunnerSupervisor — a supervised child process (`ProcessSupervisor` of `gs/fpvdgs/runner_supervisor.py`)

The operator starts, stops and restarts the child; a watcher thread polls it and respawns it after a crash,
within a budget.  All of it runs under one lock, so calls and watcher iterations follow one another.
-/

namespace Fpvd.Gs

structure RunnerConfig where
  readyOnTimeout : Bool := false
  maxRestarts : ℕ := 5
  restartWindow : ℚ := 60
  deriving DecidableEq, Repr

inductive Attempt where
  /-- the log file cannot be opened: an `OSError` before the handle is touched -/
  | logFails (errno : Option ℤ)
  /-- `Popen` raises an `OSError` -/
  | popenFails (errno : Option ℤ)
  /-- `Popen` raises something else, and so does the call -/
  | raises
  | exits (code : ℤ)
  | ready
  | timedOut
  deriving DecidableEq, Repr

/-- There is a handle after the attempt; `had` says whether there was one before. -/
def Attempt.leavesHandle (had : Bool) : Attempt → Bool
  | .logFails _ | .raises => had
  | .popenFails _ => false
  | .exits _ | .ready | .timedOut => true

structure Handle where
  exit : Option ℤ := none
  deriving DecidableEq, Repr

structure RunnerSupervisor where
  proc : Option Handle := none
  restarts : ℕ := 0
  autoRestarts : ℕ := 0
  lastExit : Option ℤ := none
  fault : Bool := false
  recent : List ℚ := []
  supervise : Bool := false
  /-- the watcher thread is alive -/
  watching : Bool := false
  deriving DecidableEq, Repr

namespace RunnerSupervisor

variable (cfg : RunnerConfig)

def spawnAndWait (s : RunnerSupervisor) : Attempt → RunnerSupervisor × Option Bool
  | .logFails errno => ({ s with lastExit := some (errno.getD (-1)) }, some false)
  | .popenFails errno => ({ s with proc := none, lastExit := some (errno.getD (-1)) }, some false)
  | .raises => (s, none)
  | .exits code => ({ s with proc := some ⟨some code⟩, lastExit := some code }, some false)
  | .ready => ({ s with proc := some {} }, some true)
  | .timedOut => ({ s with proc := some {} }, some cfg.readyOnTimeout)

def killLocked (code : ℤ) (s : RunnerSupervisor) : RunnerSupervisor :=
  match s.proc with
  | none => s
  | some h => { s with lastExit := some (h.exit.getD code), proc := none }

def start (a : Attempt) (s : RunnerSupervisor) : RunnerSupervisor × Option Bool :=
  match spawnAndWait cfg { s with fault := false, recent := [] } a with
  | (s, none) => (s, none)
  | (s, some ok) => ({ s with supervise := true, watching := true }, some ok)

def stop (code : ℤ) (s : RunnerSupervisor) : RunnerSupervisor := killLocked code { s with supervise := false }

def restart (code : ℤ) (a : Attempt) (s : RunnerSupervisor) : RunnerSupervisor × Option Bool :=
  let s := stop code s
  start cfg a { s with restarts := s.restarts + 1 }

def recentAt (now : ℚ) (s : RunnerSupervisor) : List ℚ :=
  s.recent.filter (now - · < cfg.restartWindow) ++ [now]

def onCrashLocked (now : ℚ) (code : ℤ) (a : Attempt) (s : RunnerSupervisor) : RunnerSupervisor :=
  let s := { s with lastExit := some code, proc := none, recent := s.recentAt cfg now }
  if s.recent.length > cfg.maxRestarts then { s with fault := true, supervise := false }
  else match spawnAndWait cfg { s with autoRestarts := s.autoRestarts + 1 } a with
    | (s, some _) => s
    | (s, none) => { s with watching := false }

def watch (now : ℚ) (a : Attempt) (s : RunnerSupervisor) : RunnerSupervisor :=
  match s.watching && s.supervise, s.proc with
  | true, some ⟨some code⟩ => s.onCrashLocked cfg now code a
  | _, _ => s

inductive Event where
  | start (a : Attempt)
  | stop (code : ℤ)
  | restart (code : ℤ) (a : Attempt)
  /-- the child exits -/
  | exit (code : ℤ)
  | watch (now : ℚ) (a : Attempt)
  deriving DecidableEq, Repr

def step (s : RunnerSupervisor) : Event → RunnerSupervisor
  | .start a => (s.start cfg a).1
  | .stop code => s.stop code
  | .restart code a => (s.restart cfg code a).1
  | .exit code => { s with proc := s.proc.map fun h => ⟨some (h.exit.getD code)⟩ }
  | .watch now a => s.watch cfg now a

/-- While supervision is on, there is a handle that the watcher looks at, or a fault. -/
def Kept (s : RunnerSupervisor) : Prop :=
  s.supervise = true → s.proc.isSome = true ∧ s.watching = true ∨ s.fault = true

instance (s : RunnerSupervisor) : Decidable s.Kept := inferInstanceAs (Decidable (_ → _))

/-- The watcher finds the child down, and has the budget to respawn it. -/
def Respawns (now : ℚ) (s : RunnerSupervisor) : Prop :=
  s.watching = true ∧ s.supervise = true ∧ (∃ code, s.proc = some ⟨some code⟩) ∧
    (s.recentAt cfg now).length ≤ cfg.maxRestarts

/-- An attempt that the event makes leaves a handle; a call that raises may not, it leaves supervision as
it was. -/
def Holds (s : RunnerSupervisor) : Event → Prop
  | .start a => a = .raises ∨ a.leavesHandle s.proc.isSome = true
  | .restart _ a => a = .raises ∨ a.leavesHandle false = true
  | .watch now a => s.Respawns cfg now → a.leavesHandle false = true
  | _ => True

variable (s : RunnerSupervisor)

theorem stop_frame (code : ℤ) : (s.stop code).supervise = false ∧ (s.stop code).proc = none ∧
    (s.stop code).fault = s.fault := by
  unfold stop killLocked
  cases s.proc <;> exact ⟨rfl, rfl, rfl⟩

theorem start_cases (a : Attempt) :
    a = .raises ∧ (s.start cfg a).1 = { s with fault := false, recent := [] } ∨
    a ≠ .raises ∧ (s.start cfg a).1.supervise = true ∧ (s.start cfg a).1.watching = true ∧
      (s.start cfg a).1.fault = false ∧
      (s.start cfg a).1.proc.isSome = a.leavesHandle s.proc.isSome := by
  cases a <;> simp [start, spawnAndWait, Attempt.leavesHandle]

theorem watch_cases (now : ℚ) (a : Attempt) :
    s.Respawns cfg now ∧ (s.watch cfg now a).supervise = true ∧ (s.watch cfg now a).fault = s.fault ∧
      (s.watch cfg now a).proc.isSome = a.leavesHandle false ∧
      (s.watch cfg now a).watching = decide (a ≠ .raises) ∨
    ¬ s.Respawns cfg now ∧ (s.watch cfg now a = s ∨
      (s.watch cfg now a).fault = true ∧ (s.watch cfg now a).supervise = false) := by
  unfold watch
  split
  next code hon hproc =>
    rw [Bool.and_eq_true] at hon
    unfold onCrashLocked
    dsimp only
    by_cases hbudget : (s.recentAt cfg now).length > cfg.maxRestarts
    · rw [if_pos hbudget]
      exact .inr ⟨fun h => absurd h.2.2.2 (not_le.mpr hbudget), .inr ⟨rfl, rfl⟩⟩
    · rw [if_neg hbudget]
      refine .inl ⟨⟨hon.1, hon.2, ⟨code, hproc⟩, not_lt.mp hbudget⟩, ?_⟩
      cases a <;> simp [spawnAndWait, Attempt.leavesHandle, hon.1, hon.2]
  next hno =>
    refine .inr ⟨fun ⟨hw, hs, ⟨code, hp⟩, _⟩ => hno code (by rw [hw, hs]; rfl) hp, .inl rfl⟩

/-- A fault turns supervision off. -/
def Quiet (s : RunnerSupervisor) : Prop := s.fault = true → s.supervise = false

instance (s : RunnerSupervisor) : Decidable s.Quiet := inferInstanceAs (Decidable (_ → _))

theorem start_quiet (a : Attempt) : (s.start cfg a).1.Quiet := by
  rcases start_cases cfg s a with ⟨-, h⟩ | ⟨-, -, -, hf, -⟩
  · rw [h]
    nofun
  · exact fun h => absurd (hf.symm.trans h) nofun

variable {s}

theorem step_quiet (e : Event) (hs : s.Quiet) : (s.step cfg e).Quiet := by
  cases e with
  | start a => exact start_quiet cfg s a
  | stop code => exact fun _ => (stop_frame s code).1
  | restart code a => exact start_quiet cfg _ a
  | exit code => exact hs
  | watch now a =>
    intro h
    rcases watch_cases cfg s now a with ⟨hr, -, hf, -⟩ | ⟨-, heq | ⟨-, hsup⟩⟩
    · exact absurd (hr.2.1.symm.trans (hs (hf.symm.trans h))) nofun
    · rw [step, heq] at h ⊢
      exact hs h
    · exact hsup

theorem start_kept_iff (a : Attempt) (hs : s.Quiet) (hk : s.Kept) :
    (s.start cfg a).1.Kept ↔ a = .raises ∨ a.leavesHandle s.proc.isSome = true := by
  rcases start_cases cfg s a with ⟨ha, h⟩ | ⟨ha, hsup, hw, hf, hp⟩
  · refine iff_of_true (fun hsup => ?_) (.inl ha)
    rw [h] at hsup ⊢
    exact (hk hsup).imp_right fun hf => absurd (hsup.symm.trans (hs hf)) nofun
  · simp [Kept, hsup, hw, hf, hp, ha]

theorem watch_kept_iff (now : ℚ) (a : Attempt) (hs : s.Quiet) (hk : s.Kept) :
    (s.watch cfg now a).Kept ↔ (s.Respawns cfg now → a.leavesHandle false = true) := by
  rcases watch_cases cfg s now a with ⟨hr, hsup, hf, hp, hw⟩ | ⟨hr, heq | ⟨-, hsup⟩⟩
  · have hfault : s.fault = false := by
      by_contra hf
      exact absurd (hr.2.1.symm.trans (hs (by simpa using hf))) nofun
    cases a <;> simp_all [Kept, Attempt.leavesHandle]
  · rw [heq]
    exact iff_of_true hk fun h => absurd h hr
  · exact iff_of_true (fun h => absurd (hsup.symm.trans h) nofun) fun h => absurd h hr

/-- **The supervisor keeps its child** in every state of a run, just when every attempt of the run leaves a
handle: after an attempt that does not, the child is down, no fault is set and the watcher looks away. -/
theorem kept_iff (cfg : RunnerConfig) (events : List Event) :
    Run.Meets (step cfg) (Holds cfg) {} events ↔
      ∀ before, before <+: events → (before.foldl (step cfg) {}).Kept := by
  refine Run.meets_iff_throughout (I := Quiet) (by decide) (fun _ => step_quiet cfg) (by decide) ?_ events
  intro s e hs hk
  cases e with
  | start a => exact start_kept_iff cfg a hs hk
  | stop code =>
    refine iff_of_true (fun h => ?_) trivial
    rw [step, (stop_frame s code).1] at h
    cases h
  | restart code a =>
    obtain ⟨hsup, hproc, -⟩ := stop_frame s code
    have h := start_kept_iff cfg (s := { s.stop code with restarts := (s.stop code).restarts + 1 }) a
      (fun _ => hsup) (fun h => absurd (hsup.symm.trans h) nofun)
    rwa [hproc] at h
  | exit code => exact iff_of_true (fun h => by simpa [step] using hk h) trivial
  | watch now a => exact watch_kept_iff cfg now a hs hk

/-- The program is not there: supervision is on, and the watcher never tries again. -/
theorem start_strands : ¬ ([Event.start (.popenFails (some 2))].foldl (step {}) {}).Kept ∧
    ∀ now a, step {} ([Event.start (.popenFails (some 2))].foldl (step {}) {}) (.watch now a) =
      [Event.start (.popenFails (some 2))].foldl (step {}) {} :=
  ⟨by decide, fun _ _ => rfl⟩

/-! ## The restart budget -/

def Event.now? : Event → Option ℚ
  | .watch now _ => some now
  | _ => none

def Event.clears : Event → Bool
  | .start _ | .restart _ _ => true
  | _ => false

def autoRestart (s : RunnerSupervisor) (e : Event) : List ℚ :=
  if (s.step cfg e).autoRestarts = s.autoRestarts then [] else e.now?.toList

theorem step_cases (e : Event) (he : e.clears = false) :
    (s.step cfg e).autoRestarts = s.autoRestarts ∧ ((s.step cfg e).fault = true ∨
      (s.step cfg e).fault = s.fault ∧ (s.step cfg e).recent = s.recent) ∨
    ∃ now, e.now? = some now ∧ s.supervise = true ∧ (s.recentAt cfg now).length ≤ cfg.maxRestarts ∧
      (s.step cfg e).autoRestarts = s.autoRestarts + 1 ∧ (s.step cfg e).recent = s.recentAt cfg now := by
  cases e with
  | start | restart => cases he
  | exit code => exact .inl ⟨rfl, .inr ⟨rfl, rfl⟩⟩
  | stop code =>
    simp only [step, stop, killLocked]
    split <;> exact .inl ⟨rfl, .inr ⟨rfl, rfl⟩⟩
  | watch now a =>
    unfold step watch
    dsimp only
    split
    next code hon hproc =>
      rw [Bool.and_eq_true] at hon
      unfold onCrashLocked
      dsimp only
      by_cases hbudget : (s.recentAt cfg now).length > cfg.maxRestarts
      · rw [if_pos hbudget]
        exact .inl ⟨rfl, .inl rfl⟩
      · rw [if_neg hbudget]
        refine .inr ⟨now, rfl, hon.2, not_lt.mp hbudget, ?_⟩
        cases a <;> exact ⟨rfl, rfl⟩
    next => exact .inl ⟨rfl, .inr ⟨rfl, rfl⟩⟩

theorem step_spends (e : Event) (he : e.clears = false) (hs : s.Quiet) :
    Window.Spends cfg.maxRestarts cfg.restartWindow (step cfg) (autoRestart cfg) Event.now? recent
      (fault · = true) s e := by
  unfold Window.Spends autoRestart
  rcases step_cases cfg (s := s) e he with ⟨hauto, hkept⟩ | ⟨now, hnow, hsup, hlen, hauto, hrecent⟩
  · rw [if_pos hauto]
    refine .inl ⟨rfl, hkept.elim .inl fun h => ?_⟩
    dsimp only
    rw [h.1]
    exact (em _).imp_right fun hf => ⟨hf, h.2⟩
  · rw [if_neg (by omega), hnow]
    refine .inr ⟨now, rfl, fun hf => ?_, ?_, rfl, hrecent⟩
    · exact Bool.false_ne_true ((hs hf).symm.trans hsup)
    · simpa [recentAt, Window.fresh] using hlen

/-- **The watcher's budget.**  Until the next `start` or `restart` of the operator, every interval of
`restart_window` sees at most `max_restarts` automatic restarts. -/
theorem watcher_budget (cfg : RunnerConfig) (s : RunnerSupervisor) (a : Attempt) (events : List Event)
    (hops : ∀ e ∈ events, e.clears = false)
    (hclock : (events.filterMap Event.now?).Pairwise (· ≤ ·)) :
    Window.Sparse cfg.maxRestarts cfg.restartWindow
      (Run.shown (step cfg) (autoRestart cfg) (s.start cfg a).1 events) := by
  refine (Window.sparse_run (I := Quiet) (fun _ hs e _ => step_quiet cfg e hs)
    (fun _ hs e he => step_spends cfg e (hops e he) hs) (start_quiet cfg s a) ?_ hclock).1
  cases a <;> rfl

def crashes : List Event := [.exit 1, .watch 0 .ready, .exit 1, .watch 1 .ready]

theorem watcher_budget_crashes : (∀ e ∈ crashes, e.clears = false) ∧
    Window.Sparse 5 60 (Run.shown (step {}) (autoRestart {}) (start {} .ready {}).1 crashes) :=
  ⟨by decide, watcher_budget {} {} .ready crashes (by decide) (by decide +kernel)⟩

end RunnerSupervisor

end Fpvd.Gs
