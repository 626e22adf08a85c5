import Mathlib.Tactic
import Fpvd.Lib.Run
import Fpvd.Lib.Window
import Fpvd.Wfb.Graph

/-!
# Fpvd.Wfb.ChildWatch — the crash watch of one child (`WfbChild` of `gs/fpvdgs/wfb/children.py`)

The watch is a task of the engine's event loop.  A step takes it from one await to the next; in between,
processes exit and `stop()` is called.  Every crash and every failed respawn reads the clock and charges the
same budget.
-/

namespace Fpvd.Wfb

open Window (fresh Sparse)

structure ChildConfig where
  spec : ServiceSpec
  maxRestarts : ℕ := 5
  restartWindow : ℚ := 60
  /-- there is an `on_fault` -/
  onFault : Bool := false

/-- A new process has to announce itself (`_wait_tx_ready`). -/
def ChildConfig.handshakes (c : ChildConfig) : Bool := c.spec.parser.isSome && c.spec.kind == .tx

inductive Await where
  | exit
  | backoff
  | spawn
  | handshake
  /-- in `_kill_process`, for a process whose handshake timed out -/
  | kill
  /-- in the `finally` of `_wait_tx_ready`, which suppresses a cancel -/
  | exitTask
  /-- at none: it has ended, or was never armed -/
  | ended
  deriving DecidableEq, Repr

def Await.respawning : Await → Bool
  | .spawn | .handshake | .kill => true
  | _ => false

structure WfbChild where
  /-- the process, with its `returncode` -/
  proc : Option (Option ℤ) := none
  autoRestarts : ℕ := 0
  lastExit : Option ℤ := none
  fault : Bool := false
  recent : List ℚ := []
  supervise : Bool := false
  watch : Await := .ended
  deriving DecidableEq, Repr

namespace WfbChild

inductive Spawn where
  | fails (errno : Option ℤ)
  | ready
  | exits (code : ℤ)
  | timedOut (code : ℤ)
  deriving DecidableEq, Repr

def spawnAndWait (s : WfbChild) : Spawn → WfbChild
  | .fails errno => { s with proc := none, lastExit := some (errno.getD (-1)) }
  | .ready => { s with proc := some none }
  | .exits code => { s with proc := some (some code), lastExit := some code }
  | .timedOut code => { s with proc := none, lastExit := some code }

def start (a : Spawn) (s : WfbChild) : WfbChild :=
  let s := spawnAndWait { s with fault := false, recent := [] } a
  if s.proc.isSome then { s with supervise := true, watch := .exit } else s

/-- What happens: `now` is the clock when the watch goes on, `done` whether the exit task is done. -/
inductive Event where
  /-- the process exits -/
  | exits (code : ℤ)
  /-- `proc.wait()` returns in the watch -/
  | waited (now : ℚ)
  | slept
  /-- `create_subprocess_exec` raises an `OSError` -/
  | spawnFails (errno : Option ℤ) (now : ℚ)
  /-- it raises something else -/
  | spawnRaises
  | spawned (exit : Option ℤ) (now : ℚ)
  | handshake (done : Bool) (now : ℚ)
  /-- the process exits before its handshake -/
  | exitTaskDone (now : ℚ)
  | handshakeTimeout (done : Bool) (now : ℚ)
  | killed (code : ℤ) (done : Bool) (now : ℚ)
  | exitTaskAwaited (now : ℚ)
  /-- `stop()` turns supervision off and cancels the watch -/
  | stop
  /-- `stop()`, past the watch, kills the process -/
  | stopKills (code : ℤ)
  deriving DecidableEq, Repr

def Event.now? : Event → Option ℚ
  | .waited now | .spawnFails _ now | .spawned _ now | .handshake _ now | .exitTaskDone now
  | .handshakeTimeout _ now | .killed _ _ now | .exitTaskAwaited now => some now
  | _ => none

def killProcess (code : ℤ) (s : WfbChild) : WfbChild :=
  match s.proc with
  | none => s
  | some exit => { s with lastExit := some (exit.getD code), proc := none }

/-- `_spawn_and_wait` has returned: the watch waits for the process, or enters the respawn loop again. -/
def spawnReturned (now : ℚ) (s : WfbChild) : WfbChild × Option ℚ :=
  if s.proc.isSome then ({ s with watch := .exit }, none) else (s, some now)

/-- The `finally` of `_wait_tx_ready`. -/
def awaitExitTask (done : Bool) (now : ℚ) (s : WfbChild) : WfbChild × Option ℚ :=
  if done then s.spawnReturned now else ({ s with watch := .exitTask }, none)

variable (c : ChildConfig)

def advance (s : WfbChild) (e : Event) : WfbChild × Option ℚ :=
  match s.watch, e with
  | _, .exits code => ({ s with proc := s.proc.map fun exit => some (exit.getD code) }, none)
  | .exit, .waited now =>
    match s.proc with
    | some (some code) =>
      if s.supervise then ({ s with lastExit := some code }, some now)
      else ({ s with watch := .ended }, none)
    | _ => (s, none)
  | .backoff, .slept => ({ s with watch := if s.supervise then .spawn else .ended }, none)
  | .spawn, .spawnFails errno now =>
    spawnReturned now { s with proc := none, lastExit := some (errno.getD (-1)) }
  | .spawn, .spawnRaises => ({ s with watch := .ended }, none)
  | .spawn, .spawned exit now =>
    if c.handshakes then ({ s with proc := some exit, watch := .handshake }, none)
    else spawnReturned now { s with proc := some exit, lastExit := exit.or s.lastExit }
  | .handshake, .handshake done now => s.awaitExitTask done now
  | .handshake, .exitTaskDone now =>
    match s.proc with
    | some (some code) => spawnReturned now { s with lastExit := some code }
    | _ => (s, none)
  | .handshake, .handshakeTimeout done now =>
    if s.proc = some none then ({ s with watch := .kill }, none)
    else (killProcess 0 s).awaitExitTask done now
  | .kill, .killed code done now => (killProcess code s).awaitExitTask done now
  | .exitTask, .exitTaskAwaited now => s.spawnReturned now
  -- the cancel ends the watch at any await but one
  | .exitTask, .stop => ({ s with supervise := false }, none)
  | _, .stop => ({ s with supervise := false, watch := .ended }, none)
  | .ended, .stopKills code => (if s.supervise then s else killProcess code s, none)
  | _, _ => (s, none)

def recentAt (now : ℚ) (s : WfbChild) : List ℚ := fresh c.restartWindow now s.recent ++ [now]

def charge (now : ℚ) (s : WfbChild) : WfbChild :=
  let s := { s with recent := s.recentAt c now }
  if s.recent.length > c.maxRestarts then
    { s with fault := true, supervise := false, proc := none, watch := .ended }
  else { s with autoRestarts := s.autoRestarts + 1, watch := .backoff }

def step (s : WfbChild) (e : Event) : WfbChild :=
  match s.advance c e with
  | (s, none) => s
  | (s, some now) => s.charge c now

inductive Effect where
  | onFault
  | restart (now : ℚ)
  deriving DecidableEq, Repr

def Effect.restart? : Effect → Option ℚ
  | .restart now => some now
  | .onFault => none

def effects (s : WfbChild) (e : Event) : List Effect :=
  match s.advance c e with
  | (_, none) => []
  | (s, some now) =>
    if (s.recentAt c now).length > c.maxRestarts then (if c.onFault then [.onFault] else [])
    else [.restart now]

/-! ## What a step does -/

section Step

variable {c} {s : WfbChild} {e : Event} {now : ℚ}

@[simp] theorem killProcess_frame (code : ℤ) : (killProcess code s).fault = s.fault ∧
    (killProcess code s).recent = s.recent ∧ (killProcess code s).supervise = s.supervise ∧
    (killProcess code s).watch = s.watch ∧ (killProcess code s).proc = none := by
  unfold killProcess
  cases hp : s.proc <;> simp [hp]

/-- **One step of the watch**, as far as the budget and the end of the task go. -/
structure Advances (s : WfbChild) (e : Event) (r : WfbChild × Option ℚ) : Prop where
  fault : r.1.fault = s.fault
  recent : r.1.recent = s.recent
  supervise : r.1.supervise = (s.supervise && decide (e ≠ .stop))
  charges : ∀ now, r.2 = some now → s.watch ≠ .ended ∧ e.now? = some now
  stays : s.watch = .ended → r.1.watch = .ended
  ends : r.2 = none → r.1.watch = .ended →
    s.watch = .ended ∨ r.1.supervise = false ∨ s.watch = .spawn ∧ e = .spawnRaises
  raised : s.watch = .spawn → e = .spawnRaises → r = ({ s with watch := .ended }, none)
  respawning : r.1.watch.respawning = true → e ≠ .stop ∧ (s.watch.respawning = true ∨ s.supervise = true)

theorem advances (c : ChildConfig) (s : WfbChild) (e : Event) : Advances s e (s.advance c e) := by
  unfold advance
  simp only [awaitExitTask, spawnReturned]
  -- one case for each await with an event it takes, then for the tests that the source makes there
  split <;> (try split) <;> (try split) <;> constructor <;> simp_all [Event.now?, Await.respawning]

/-- A step goes to the next await, or charges the budget: a fault, or a restart. -/
theorem step_cases (c : ChildConfig) (s : WfbChild) (e : Event) :
    (s.advance c e).2 = none ∧ s.step c e = (s.advance c e).1 ∧ s.effects c e = [] ∨
    ∃ now, (s.advance c e).2 = some now ∧
      ((s.recentAt c now).length > c.maxRestarts ∧ (s.step c e).fault = true ∧
        (s.step c e).supervise = false ∧ (s.step c e).watch = .ended ∧
        s.effects c e = (if c.onFault then [.onFault] else []) ∨
      (s.recentAt c now).length ≤ c.maxRestarts ∧ (s.step c e).fault = s.fault ∧
        (s.step c e).supervise = (s.supervise && decide (e ≠ .stop)) ∧ (s.step c e).watch = .backoff ∧
        (s.step c e).recent = s.recentAt c now ∧ s.effects c e = [.restart now]) := by
  have hadv := advances c s e
  have hrecent : ∀ now, (s.advance c e).1.recentAt c now = s.recentAt c now := by
    intro now
    rw [recentAt, recentAt, hadv.recent]
  unfold step effects
  generalize s.advance c e = r at hadv hrecent ⊢
  obtain ⟨s', t⟩ := r
  cases t with
  | none => exact .inl ⟨rfl, rfl, rfl⟩
  | some now =>
    refine .inr ⟨now, rfl, ?_⟩
    dsimp only [charge] at hrecent ⊢
    rw [hrecent now]
    by_cases hlen : (s.recentAt c now).length > c.maxRestarts
    · rw [if_pos hlen, if_pos hlen]
      exact .inl ⟨hlen, rfl, rfl, rfl, rfl⟩
    · rw [if_neg hlen, if_neg hlen]
      exact .inr ⟨not_lt.mp hlen, hadv.fault, hadv.supervise, rfl, rfl, rfl⟩

/-! ## The end of the watch -/

/-- A fault has ended the watch, and an attempt to respawn is supervised. -/
def Guarded (s : WfbChild) : Prop :=
  (s.fault = true → s.watch = .ended) ∧ (s.watch.respawning = true → s.supervise = true)

theorem step_guarded (hs : Guarded s) : Guarded (s.step c e) := by
  have hadv := advances c s e
  rcases step_cases c s e with ⟨-, hstep, -⟩ | ⟨now, ht, ⟨-, -, -, hw, -⟩ | ⟨-, hf, -, hw, -⟩⟩
  · rw [hstep]
    constructor
    · intro hf
      exact hadv.stays (hs.1 (hadv.fault.symm.trans hf))
    · intro hw
      obtain ⟨he, hrespawn⟩ := hadv.respawning hw
      rw [hadv.supervise, hrespawn.elim hs.2 id, decide_eq_true he]
      rfl
  · rw [Guarded, hw]
    exact ⟨fun _ => rfl, fun h => absurd h Bool.false_ne_true⟩
  · rw [Guarded, hw, hf]
    exact ⟨fun h => absurd (hs.1 h) (hadv.charges now ht).1, fun h => absurd h Bool.false_ne_true⟩

theorem fault_of_charge (hs : Guarded s) (ht : (s.advance c e).2 = some now) : s.fault = false := by
  by_contra hf
  exact ((advances c s e).charges now ht).1 (hs.1 (by simpa using hf))

def Caught (s : WfbChild) (e : Event) : Prop := s.watch = .spawn → e ≠ .spawnRaises

def Attended (s : WfbChild) : Prop := s.watch = .ended → s.supervise = false

theorem step_attended_iff (hs : Guarded s) (hk : Attended s) :
    Attended (s.step c e) ↔ Caught s e := by
  have hadv := advances c s e
  have hcaught : ∀ now, (s.advance c e).2 = some now → Caught s e := by
    rintro now ht - rfl
    cases (hadv.charges now ht).2
  rcases step_cases c s e with ⟨hnone, hstep, -⟩ | ⟨now, ht, ⟨-, -, hsup, -⟩ | ⟨-, -, -, hw, -⟩⟩
  · by_cases hraise : s.watch = .spawn ∧ e = .spawnRaises
    · have hsup : s.supervise = true := hs.2 (by rw [hraise.1]; rfl)
      refine iff_of_false (fun h => ?_) fun h => h hraise.1 hraise.2
      rw [Attended, hstep, hadv.raised hraise.1 hraise.2] at h
      exact Bool.false_ne_true ((h rfl).symm.trans hsup)
    · refine iff_of_true (fun hw => ?_) fun hw he => hraise ⟨hw, he⟩
      rw [hstep] at hw ⊢
      rcases hadv.ends hnone hw with h | h | h
      · rw [hadv.supervise, hk h]
        rfl
      · exact h
      · exact absurd h hraise
  · exact iff_of_true (fun _ => hsup) (hcaught now ht)
  · refine iff_of_true (fun h => ?_) (hcaught now ht)
    rw [hw] at h
    cases h

end Step

section Run

variable {c} {a : Spawn}

/-- The child after a `start()` and what followed. -/
def run (c : ChildConfig) (a : Spawn) (events : List Event) : WfbChild :=
  events.foldl (step c) (start a {})

theorem run_concat (events : List Event) (e : Event) :
    run c a (events ++ [e]) = (run c a events).step c e := List.foldl_concat ..

def emitted (c : ChildConfig) (a : Spawn) (events : List Event) : List Effect :=
  Run.shown (step c) (effects c) (start a {}) events

theorem emitted_concat (events : List Event) (e : Event) :
    emitted c a (events ++ [e]) = emitted c a events ++ (run c a events).effects c e :=
  Run.shown_concat ..

theorem start_armed (h : (start a {}).proc.isSome = true) :
    (start a {}).watch = .exit ∧ (start a {}).supervise = true := by
  cases a with
  | ready | exits => exact ⟨rfl, rfl⟩
  | fails | timedOut => cases h

theorem start_fresh (a : Spawn) : (start a {}).fault = false ∧ (start a {}).recent = [] := by
  cases a <;> exact ⟨rfl, rfl⟩

theorem run_guarded (c : ChildConfig) (a : Spawn) (events : List Event) : Guarded (run c a events) := by
  refine List.foldlRecOn events (step c) ?_ fun _ hs _ _ => step_guarded hs
  rw [Guarded, (start_fresh a).1]
  refine ⟨fun h => absurd h Bool.false_ne_true, fun h => ?_⟩
  cases a <;> exact absurd h Bool.false_ne_true

theorem supervise_iff (h : (start a {}).proc.isSome = true) (events : List Event) :
    (run c a events).supervise = false ↔ (run c a events).fault = true ∨ .stop ∈ events := by
  induction events using List.reverseRecOn with
  | nil => simp [run, (start_armed h).2, (start_fresh a).1]
  | append_singleton events e ih =>
    rw [run_concat]
    generalize run c a events = s at ih ⊢
    have hkept : (s.step c e).supervise = (s.supervise && decide (e ≠ .stop)) →
        (s.step c e).fault = s.fault → ((s.step c e).supervise = false ↔
          (s.step c e).fault = true ∨ .stop ∈ events ++ [e]) := by
      intro hsup hf
      rw [hsup, hf, Bool.and_eq_false_iff, ih, decide_eq_false_iff_not, not_ne_iff, List.mem_append,
        List.mem_singleton, eq_comm (a := e), or_assoc]
    rcases step_cases c s e with ⟨-, hstep, -⟩ | ⟨now, -, ⟨-, hf, hsup, -⟩ | ⟨-, hf, hsup, -⟩⟩
    · exact hkept (hstep ▸ (advances c s e).supervise) (hstep ▸ (advances c s e).fault)
    · exact iff_of_true hsup (.inl hf)
    · exact hkept hsup hf

/-- **The watch does not die unnoticed.**  At every point of a run it has ended only if a fault is set or
`stop()` was called, just when no respawn raises anything but an `OSError`.  And `on_fault` has been
called once if the fault is set, and else never. -/
theorem watch_contract (c : ChildConfig) (a : Spawn) (h : (start a {}).proc.isSome = true)
    (events : List Event) :
    (Run.Meets (step c) Caught (start a {}) events ↔ ∀ before, before <+: events →
      (run c a before).watch = .ended → (run c a before).fault = true ∨ .stop ∈ before) ∧
    (emitted c a events).count .onFault = if (run c a events).fault && c.onFault then 1 else 0 := by
  constructor
  · simp only [← supervise_iff h]
    refine Run.meets_iff_throughout (I := Guarded) (K := Attended) (s := start a {})
      (run_guarded c a []) (fun _ _ => step_guarded) (fun hw => ?_) (fun _ _ => step_attended_iff) events
    rw [(start_armed h).1] at hw
    cases hw
  · induction events using List.reverseRecOn with
    | nil => simp [run, emitted, (start_fresh a).1]
    | append_singleton events e ih =>
      rw [emitted_concat, List.count_append, ih, run_concat]
      have hs := run_guarded c a events
      generalize run c a events = s at hs ⊢
      rcases step_cases c s e with
        ⟨-, hstep, heff⟩ | ⟨now, ht, ⟨-, hf, -, -, heff⟩ | ⟨-, hf, -, -, -, heff⟩⟩
      · rw [heff, hstep, (advances c s e).fault]
        rfl
      · rw [heff, hf, fault_of_charge hs ht]
        cases c.onFault <;> rfl
      · rw [heff, hf]
        rfl

def txChild : ChildConfig := ⟨⟨"tunnel tx", .tx, [], some .tx, none⟩, 1, 60, true⟩

def crashLoop : List Event :=
  [.exits 1, .waited 0, .slept, .spawned none 1, .handshakeTimeout false 11, .killed (-15) true 11]

theorem watch_contract_crashLoop : (start .ready {}).proc.isSome = true ∧
    (emitted txChild .ready crashLoop).count .onFault = 1 :=
  ⟨rfl, (watch_contract txChild .ready rfl crashLoop).2.trans (by decide +kernel)⟩

/-! ## The budget -/

def restart (c : ChildConfig) (s : WfbChild) (e : Event) : List ℚ :=
  (s.effects c e).filterMap Effect.restart?

def restarts (c : ChildConfig) (a : Spawn) (events : List Event) : List ℚ :=
  Run.shown (step c) (restart c) (start a {}) events

theorem step_spends {s : WfbChild} (e : Event) (hs : Guarded s) : Window.Spends c.maxRestarts
    c.restartWindow (step c) (restart c) Event.now? recent (fault · = true) s e := by
  have hadv := advances c s e
  unfold Window.Spends restart
  rcases step_cases c s e with
    ⟨-, hstep, heff⟩ | ⟨now, ht, ⟨-, hf, -, -, heff⟩ | ⟨hlen, -, -, -, hrecent, heff⟩⟩
  · rw [heff, hstep, hadv.recent]
    dsimp only
    rw [hadv.fault]
    exact .inl ⟨rfl, (em _).imp_right fun h => ⟨h, rfl⟩⟩
  · refine .inl ⟨?_, .inl hf⟩
    rw [heff]
    cases c.onFault <;> rfl
  · rw [heff]
    refine .inr ⟨now, (hadv.charges now ht).2, ?_, ?_, rfl, hrecent⟩
    · dsimp only
      rw [fault_of_charge hs ht]
      exact Bool.false_ne_true
    · simpa [recentAt] using hlen

/-- Until a fault, the pruned list stands for all restarts of the run. -/
theorem restarts_tracked (c : ChildConfig) (a : Spawn) (events : List Event)
    (hclock : (events.filterMap Event.now?).Pairwise (· ≤ ·)) :
    Sparse c.maxRestarts c.restartWindow (restarts c a events) ∧
      (¬ (run c a events).fault = true → ∀ t, (∀ now ∈ events.filterMap Event.now?, now ≤ t) →
        Window.Tracks c.restartWindow t (run c a events).recent (restarts c a events)) :=
  Window.sparse_run (I := Guarded) (fun _ hs _ _ => step_guarded hs) (fun _ hs e _ => step_spends e hs)
    (run_guarded c a []) (start_fresh a).2 hclock

/-- **The budget is that of the whole history.**  With a clock that never goes back, every interval of
`restart_window` sees at most `max_restarts` restarts; and the respawn loop gives up exactly when that many
restarts of the run are less than `restart_window` old. -/
theorem restart_budget (c : ChildConfig) (a : Spawn) (events : List Event)
    (hclock : (events.filterMap Event.now?).Pairwise (· ≤ ·)) :
    Sparse c.maxRestarts c.restartWindow (restarts c a events) ∧
      ∀ before e now, before ++ [e] <+: events → ((run c a before).advance c e).2 = some now →
        ((run c a (before ++ [e])).fault = true ↔
          c.maxRestarts ≤ (fresh c.restartWindow now (restarts c a before)).length) := by
  refine ⟨(restarts_tracked c a events hclock).1, fun before e now hpre ht => ?_⟩
  have hfault := fault_of_charge (run_guarded c a before) ht
  have hprefix := hclock.sublist (hpre.filterMap Event.now?).sublist
  rw [List.filterMap_append, List.pairwise_append] at hprefix
  obtain ⟨hbefore, -, hlast⟩ := hprefix
  have hmem : now ∈ [e].filterMap Event.now? := by
    simp [((advances c (run c a before) e).charges now ht).2]
  have hnow := (restarts_tracked c a before hbefore).2 (by simp [hfault]) now fun x hx =>
    hlast x hx now hmem
  rw [run_concat, ← hnow now le_rfl]
  generalize run c a before = s at ht hfault ⊢
  have hlen : (s.recentAt c now).length = (fresh c.restartWindow now s.recent).length + 1 :=
    List.length_append
  rcases step_cases c s e with ⟨hnone, -⟩ | ⟨now', ht', ⟨hgt, hf, -⟩ | ⟨hle, hf, -⟩⟩
  · cases ht.symm.trans hnone
  · obtain rfl := Option.some.inj (ht.symm.trans ht')
    exact iff_of_true hf (by omega)
  · obtain rfl := Option.some.inj (ht.symm.trans ht')
    rw [hf, hfault]
    exact iff_of_false Bool.false_ne_true (by omega)

theorem restart_budget_crashLoop : (crashLoop.filterMap Event.now?).Pairwise (· ≤ ·) ∧
    Sparse 1 60 (restarts txChild .ready crashLoop) :=
  ⟨by decide +kernel, (restart_budget txChild .ready crashLoop (by decide +kernel)).1⟩

end Run

end WfbChild

end Fpvd.Wfb
