import Fpvd.Gs.StatsClient

/-!
# Fpvd.Gs.Connection — the connection monitor (`gs/fpvdgs/connection_monitor.py`)

The monitor watches the tunnel stream of the statistics feed and polls the drone over HTTP.  Its
loop evaluates one round after the other; a round awaits at most one HTTP call, and records of the
feed come in between rounds and during that await.  The clock is read at several places of a round,
and a round carries the reading of each.
-/

namespace Fpvd.Gs

structure ConnectionMonitorConfig where
  tunnelStaleS : ℚ := 4
  httpPollS : ℚ := 3 / 2
  httpFailCount : ℤ := 2
  disconnectGraceS : ℚ := 6
  deriving DecidableEq, Repr

inductive DroneState where
  | disconnected
  | armed
  | connected
  deriving DecidableEq, Repr

inductive LossReason where
  | tunnelLost
  | httpFailed
  deriving DecidableEq, Repr

/-- A record of the statistics feed, with the clock at its arrival; `id` is `""` for `None`. -/
structure StatsRecord where
  isRx : Bool
  id : String
  now : ℚ
  deriving DecidableEq, Repr

def StatsRecord.isTunnel (r : StatsRecord) : Bool :=
  r.isRx && r.id ≠ "" && idHas "tunnel" r.id

inductive Http where
  | returned (v : Json)
  | raised
  deriving DecidableEq

def Http.call : Http → Json
  | .returned v => v
  | .raised => .null

def Http.callBool : Http → Bool
  | .returned v => v.truthy
  | .raised => false

/-- One round of `_evaluate`: its clock readings, and how its HTTP call ends if it makes one. -/
structure Evaluation where
  /-- the reading at the start: freshness while disconnected, the poll timer while connected -/
  start : ℚ
  /-- the reading that `_last_http` is set to -/
  polled : ℚ
  status : Http
  healthz : Http
  /-- the records that come in while the call is awaited -/
  during : List StatsRecord
  /-- the reading at which freshness is checked after the await -/
  fresh : ℚ
  /-- the last reading, with which the round decides -/
  now : ℚ
  deriving DecidableEq

inductive Published where
  | connected (atMono : ℚ) (drone : Dict)
  | disconnected (atMono : ℚ) (reason : Option LossReason) (lastSeenMono : ℚ)
  deriving DecidableEq

structure ConnectionMonitor where
  state : DroneState := .disconnected
  since : ℚ := 0
  reason : Option LossReason := none
  droneInfo : Option Dict := none
  lastTunnelRx : ℚ := -1000000000
  fail : ℕ := 0
  lastHttp : ℚ := -1000000000
  badSince : Option ℚ := none
  pendingReason : Option LossReason := none
  deriving DecidableEq

namespace ConnectionMonitor

section Model

variable (cfg : ConnectionMonitorConfig)

def onStatsEvent (m : ConnectionMonitor) (r : StatsRecord) : ConnectionMonitor :=
  if r.isTunnel then { m with lastTunnelRx := r.now } else m

def tunnelFresh (now : ℚ) (m : ConnectionMonitor) : Bool := now - m.lastTunnelRx < cfg.tunnelStaleS

def infoOf : Json → Dict
  | .obj snap =>
    let radio : Dict := match Dict.getOr snap "radio" .null with
      | .obj radio => [("radio", .obj [("adapterId", Dict.getOr radio "adapterId" .null),
          ("txPowerCurve", Dict.getOr radio "txPowerCurve" .null)])]
      | _ => []
    radio ++ [("version", Dict.getOr snap "version" .null)]
  | _ => []

def enterConnected (snap : Json) (now : ℚ) (m : ConnectionMonitor) :
    ConnectionMonitor × List Published :=
  ({ m with
      state := .connected
      since := now
      reason := none
      droneInfo := some (infoOf snap)
      fail := 0
      lastHttp := now
      badSince := none
      pendingReason := none },
    [.connected now (infoOf snap)])

def enterDisconnected (reason : Option LossReason) (now : ℚ) (m : ConnectionMonitor) :
    ConnectionMonitor × List Published :=
  ({ m with
      state := .disconnected
      reason := reason
      droneInfo := none
      fail := 0
      badSince := none
      pendingReason := none },
    [.disconnected now reason m.since])

def confirm (e : Evaluation) (m : ConnectionMonitor) : ConnectionMonitor × List Published :=
  let m := e.during.foldl onStatsEvent m
  let snap := e.status.call
  if snap ≠ .null then enterConnected snap e.now m
  else if !m.tunnelFresh cfg e.fresh then ({ m with state := .disconnected }, [])
  else (m, [])

def pollDue (e : Evaluation) (m : ConnectionMonitor) : Bool :=
  e.start - m.lastHttp ≥ cfg.httpPollS

def poll (e : Evaluation) (m : ConnectionMonitor) : ConnectionMonitor :=
  if m.pollDue cfg e then
    let m := e.during.foldl onStatsEvent { m with lastHttp := e.polled }
    { m with fail := if e.healthz.callBool then 0 else m.fail + 1 }
  else m

def bad (e : Evaluation) (m : ConnectionMonitor) : Bool :=
  !m.tunnelFresh cfg e.fresh || cfg.httpFailCount ≤ m.fail

def watch (e : Evaluation) (m : ConnectionMonitor) : ConnectionMonitor × List Published :=
  let m := m.poll cfg e
  if !m.bad cfg e then ({ m with badSince := none, pendingReason := none }, [])
  else
    match m.badSince with
    | none =>
      let reason := if !m.tunnelFresh cfg e.fresh then .tunnelLost else .httpFailed
      ({ m with badSince := some e.now, pendingReason := some reason }, [])
    | some badSince =>
      if e.now - badSince ≥ cfg.disconnectGraceS then enterDisconnected m.pendingReason e.now m
      else (m, [])

def evaluate (e : Evaluation) (m : ConnectionMonitor) : ConnectionMonitor × List Published :=
  match m.state with
  | .disconnected =>
    if m.tunnelFresh cfg e.start then confirm cfg e { m with state := .armed } else (m, [])
  | .armed => confirm cfg e m
  | .connected => watch cfg e m

inductive Input where
  | record (r : StatsRecord)
  | evaluate (e : Evaluation)
  deriving DecidableEq

def step (m : ConnectionMonitor) : Input → ConnectionMonitor
  | .record r => m.onStatsEvent r
  | .evaluate e => (m.evaluate cfg e).1

def published (m : ConnectionMonitor) : Input → List Published
  | .record _ => []
  | .evaluate e => (m.evaluate cfg e).2

/-! ### What a run shows -/

def awaits (e : Evaluation) (m : ConnectionMonitor) : Bool :=
  match m.state with
  | .disconnected => m.tunnelFresh cfg e.start
  | .armed => true
  | .connected => m.pollDue cfg e

def tunnelRx (m : ConnectionMonitor) : Input → List ℚ
  | .record r => if r.isTunnel then [r.now] else []
  | .evaluate e =>
    if m.awaits cfg e then (e.during.filter StatsRecord.isTunnel).map StatsRecord.now else []

inductive Mark where
  | connect
  | heartbeat (ok : Bool)
  deriving DecidableEq

def marks (m : ConnectionMonitor) : Input → List Mark
  | .record _ => []
  | .evaluate e =>
    if m.state = .connected then
      if m.pollDue cfg e then [.heartbeat e.healthz.callBool] else []
    else (m.evaluate cfg e).2.map fun _ => .connect

end Model

def lastTunnel (cfg : ConnectionMonitorConfig) (inputs : List Input) : ℚ :=
  (Run.shown (step cfg) (tunnelRx cfg) {} inputs).getLastD (-1000000000)

/-- Heartbeats that have failed in a row, back to the last connect. -/
def failing (marks : List Mark) : ℕ := (marks.reverse.takeWhile (· = .heartbeat false)).length

def failedPolls (cfg : ConnectionMonitorConfig) (inputs : List Input) : ℕ :=
  failing (Run.shown (step cfg) (marks cfg) {} inputs)

/-- A round after the run `before` found the tunnel fresh. -/
def FoundFresh (cfg : ConnectionMonitorConfig) (before : List Input) (e : Evaluation) : Prop :=
  e.start - lastTunnel cfg before < cfg.tunnelStaleS

/-- A round after the run `before` found the link bad: the tunnel is too old, or enough heartbeats
have failed in a row, those of the round included. -/
def FoundBad (cfg : ConnectionMonitorConfig) (before : List Input) (e : Evaluation) : Prop :=
  cfg.tunnelStaleS ≤ e.fresh - lastTunnel cfg (before ++ [.evaluate e]) ∨
    cfg.httpFailCount ≤ failedPolls cfg (before ++ [.evaluate e])

/-- Connects and disconnects in turn, a connect first if `up` is `false`. -/
def Alternates : Bool → List Published → Prop
  | _, [] => True
  | false, .connected _ _ :: rest => Alternates true rest
  | true, .disconnected _ _ _ :: rest => Alternates false rest
  | _, _ => False

/-! ### One round -/

variable {cfg : ConnectionMonitorConfig} {m : ConnectionMonitor} {e : Evaluation}

theorem foldl_onStatsEvent (rs : List StatsRecord) (m : ConnectionMonitor) :
    rs.foldl onStatsEvent m =
      { m with lastTunnelRx :=
          ((rs.filter StatsRecord.isTunnel).map StatsRecord.now).getLastD m.lastTunnelRx } := by
  induction rs generalizing m with
  | nil => rfl
  | cons r rs ih =>
    rw [List.foldl_cons, ih, onStatsEvent]
    by_cases hr : r.isTunnel
    · rw [if_pos hr, List.filter_cons_of_pos hr, List.map_cons, List.getLastD_cons]
    · rw [if_neg hr, List.filter_cons_of_neg hr]

variable (cfg e)

theorem poll_frame (m : ConnectionMonitor) :
    (m.poll cfg e).state = m.state ∧ (m.poll cfg e).badSince = m.badSince := by
  unfold poll
  rw [foldl_onStatsEvent]
  by_cases hdue : m.pollDue cfg e = true
  · rw [if_pos hdue]
    exact ⟨rfl, rfl⟩
  · rw [if_neg hdue]
    exact ⟨rfl, rfl⟩

theorem confirm_cases {m : ConnectionMonitor} (hm : m.state = .armed) :
    (e.status.call ≠ .null ∧ (m.confirm cfg e).1.state = .connected ∧
      (m.confirm cfg e).1.badSince = none ∧ (m.confirm cfg e).1.fail = 0 ∧
      (m.confirm cfg e).2 = [.connected e.now (infoOf e.status.call)]) ∨
    ((m.confirm cfg e).1.state ≠ .connected ∧ (m.confirm cfg e).2 = []) := by
  unfold confirm
  rw [foldl_onStatsEvent]
  by_cases hs : e.status.call ≠ .null
  · rw [if_pos hs]
    exact Or.inl ⟨hs, rfl, rfl, rfl, rfl⟩
  · rw [if_neg hs]
    refine Or.inr ?_
    split_ifs
    · exact ⟨DroneState.noConfusion, rfl⟩
    · exact ⟨by simp [hm], rfl⟩

theorem evaluate_unconnected (hm : m.state ≠ .connected) :
    (e.status.call ≠ .null ∧ (m.evaluate cfg e).1.state = .connected ∧
      (m.evaluate cfg e).1.badSince = none ∧ (m.evaluate cfg e).1.fail = 0 ∧
      (m.evaluate cfg e).2 = [.connected e.now (infoOf e.status.call)]) ∨
    ((m.evaluate cfg e).1.state ≠ .connected ∧ (m.evaluate cfg e).2 = []) := by
  unfold evaluate
  cases hst : m.state with
  | connected => exact absurd hst hm
  | armed => exact confirm_cases cfg e hst
  | disconnected =>
    dsimp only
    split_ifs
    · exact confirm_cases cfg e rfl
    · exact Or.inr ⟨by simp [hst], rfl⟩

/-- The connected part of a round: healthy, suspect for the first time, still suspect, or lost after
the grace period. -/
theorem watch_cases (hm : m.state = .connected) :
    ((m.watch cfg e).1 = { m.poll cfg e with badSince := none, pendingReason := none } ∧
      (m.watch cfg e).2 = []) ∨
    ((m.poll cfg e).bad cfg e = true ∧ (m.watch cfg e).2 = [] ∧
      (m.watch cfg e).1.state = .connected ∧ (m.watch cfg e).1.fail = (m.poll cfg e).fail ∧
      ((m.watch cfg e).1.badSince = some e.now ∨ (m.watch cfg e).1.badSince = m.badSince)) ∨
    ((m.poll cfg e).bad cfg e = true ∧ (m.watch cfg e).1.state = .disconnected ∧
      ∃ u, m.badSince = some u ∧ cfg.disconnectGraceS ≤ e.now - u ∧
        ∃ reason, (m.watch cfg e).2 = [.disconnected e.now reason (m.poll cfg e).since]) := by
  obtain ⟨hstate, hbad⟩ := poll_frame cfg e m
  unfold watch
  dsimp only
  by_cases hb : (m.poll cfg e).bad cfg e = true
  · rw [if_neg (by simp [hb]), hbad]
    cases hu : m.badSince with
    | none => exact Or.inr (Or.inl ⟨hb, rfl, hstate.trans hm, rfl, Or.inl rfl⟩)
    | some u =>
      dsimp only
      split_ifs with hgrace
      · exact Or.inr (Or.inr ⟨hb, rfl, u, rfl, hgrace, _, rfl⟩)
      · exact Or.inr (Or.inl ⟨hb, rfl, hstate.trans hm, rfl, Or.inr (hbad.trans hu)⟩)
  · rw [if_pos (by simp [hb])]
    exact Or.inl ⟨rfl, rfl⟩

theorem step_evaluate_connected (hm : m.state = .connected) :
    m.step cfg (.evaluate e) = (m.watch cfg e).1 ∧
      m.published cfg (.evaluate e) = (m.watch cfg e).2 := by
  unfold step published evaluate
  rw [hm]
  exact ⟨rfl, rfl⟩

theorem step_record_frame (r : StatsRecord) (m : ConnectionMonitor) :
    (m.step cfg (.record r)).state = m.state ∧
      (m.step cfg (.record r)).badSince = m.badSince ∧
      (m.step cfg (.record r)).fail = m.fail := by
  unfold step onStatsEvent
  dsimp only
  split_ifs
  · exact ⟨rfl, rfl, rfl⟩
  · exact ⟨rfl, rfl, rfl⟩

/-! ### What the run has shown, and what the state holds of it -/

theorem getLastD_append {α : Type} (l l' : List α) (d : α) :
    (l ++ l').getLastD d = l'.getLastD (l.getLastD d) := by
  induction l generalizing d with
  | nil => rfl
  | cons x l ih => rw [List.cons_append, List.getLastD_cons, List.getLastD_cons, ih]

theorem poll_lastTunnelRx (hm : m.state = .connected) :
    (m.poll cfg e).lastTunnelRx = (m.tunnelRx cfg (.evaluate e)).getLastD m.lastTunnelRx := by
  have hrx : m.tunnelRx cfg (.evaluate e) = if m.pollDue cfg e then
      (e.during.filter StatsRecord.isTunnel).map StatsRecord.now else [] := by
    simp only [tunnelRx, awaits, hm]
  rw [hrx, poll, foldl_onStatsEvent]
  by_cases hdue : m.pollDue cfg e = true
  · rw [if_pos hdue, if_pos hdue]
  · rw [if_neg hdue, if_neg hdue]
    rfl

theorem confirm_lastTunnelRx (m : ConnectionMonitor) :
    (m.confirm cfg e).1.lastTunnelRx =
      ((e.during.filter StatsRecord.isTunnel).map StatsRecord.now).getLastD m.lastTunnelRx := by
  unfold confirm
  rw [foldl_onStatsEvent]
  dsimp only
  split_ifs <;> rfl

theorem watch_lastTunnelRx (m : ConnectionMonitor) :
    (m.watch cfg e).1.lastTunnelRx = (m.poll cfg e).lastTunnelRx := by
  unfold watch
  dsimp only
  by_cases hb : (!(m.poll cfg e).bad cfg e) = true
  · rw [if_pos hb]
  · rw [if_neg hb]
    cases (m.poll cfg e).badSince with
    | none => rfl
    | some u =>
      dsimp only
      split_ifs <;> rfl

variable {e}

theorem step_lastTunnelRx (m : ConnectionMonitor) (i : Input) :
    (m.step cfg i).lastTunnelRx = (m.tunnelRx cfg i).getLastD m.lastTunnelRx := by
  cases i with
  | record r =>
    simp only [step, onStatsEvent, tunnelRx]
    split_ifs <;> rfl
  | evaluate e =>
    unfold step evaluate
    cases hst : m.state with
    | connected => rw [watch_lastTunnelRx, poll_lastTunnelRx cfg e hst]
    | armed =>
      rw [confirm_lastTunnelRx, tunnelRx, awaits, hst]
      rfl
    | disconnected =>
      rw [tunnelRx, awaits, hst]
      dsimp only
      split_ifs
      · rw [confirm_lastTunnelRx]
      · rfl

theorem lastTunnelRx_run (inputs : List Input) :
    (inputs.foldl (step cfg) {}).lastTunnelRx = lastTunnel cfg inputs := by
  induction inputs using List.reverseRecOn with
  | nil => rfl
  | append_singleton inputs i ih =>
    rw [List.foldl_append, List.foldl_cons, List.foldl_nil, step_lastTunnelRx, ih, lastTunnel,
      lastTunnel, Run.shown_concat, getLastD_append]

@[simp] theorem failing_connect (l : List Mark) : failing (l ++ [.connect]) = 0 := by
  simp [failing]

@[simp] theorem failing_heartbeat (l : List Mark) (ok : Bool) :
    failing (l ++ [.heartbeat ok]) = if ok then 0 else failing l + 1 := by
  cases ok <;> simp [failing]

theorem poll_fail (e : Evaluation) (hm : m.state = .connected) {l : List Mark} (hl : m.fail = failing l) :
    (m.poll cfg e).fail = failing (l ++ m.marks cfg (.evaluate e)) := by
  have hmarks : m.marks cfg (.evaluate e) =
      if m.pollDue cfg e then [.heartbeat e.healthz.callBool] else [] := if_pos hm
  rw [hmarks, poll, foldl_onStatsEvent]
  by_cases hdue : m.pollDue cfg e = true
  · rw [if_pos hdue, if_pos hdue, failing_heartbeat, ← hl]
  · rw [if_neg hdue, if_neg hdue, List.append_nil]
    exact hl

variable {cfg}

theorem step_fail {l : List Mark} {i : Input} (hl : m.state = .connected → m.fail = failing l)
    (h : (m.step cfg i).state = .connected) :
    (m.step cfg i).fail = failing (l ++ m.marks cfg i) := by
  cases i with
  | record r =>
    obtain ⟨hstate, -, hfail⟩ := step_record_frame cfg r m
    rw [hfail, hl (hstate ▸ h), marks, List.append_nil]
  | evaluate e =>
    by_cases hm : m.state = .connected
    · rw [← poll_fail cfg e hm (hl hm)]
      rw [(step_evaluate_connected cfg e hm).1] at h ⊢
      rcases watch_cases cfg e hm with ⟨hw, -⟩ | ⟨-, -, -, hw, -⟩ | ⟨-, hw, -⟩
      · rw [hw]
      · exact hw
      · rw [hw] at h
        cases h
    · rcases evaluate_unconnected cfg e hm with ⟨-, -, -, hfail, hpub⟩ | ⟨hw, -⟩
      · rw [marks, if_neg hm, hpub]
        exact hfail.trans (failing_connect l).symm
      · exact absurd h hw

variable (cfg)

theorem fail_run (inputs : List Input) (h : (inputs.foldl (step cfg) {}).state = .connected) :
    (inputs.foldl (step cfg) {}).fail = failedPolls cfg inputs := by
  induction inputs using List.reverseRecOn with
  | nil => cases h
  | append_singleton inputs i ih =>
    rw [List.foldl_append, List.foldl_cons, List.foldl_nil] at h ⊢
    rw [failedPolls, Run.shown_concat]
    exact step_fail ih h

theorem bad_iff (before : List Input) (e : Evaluation)
    (hm : (before.foldl (step cfg) {}).state = .connected) :
    ((before.foldl (step cfg) {}).poll cfg e).bad cfg e = true ↔ FoundBad cfg before e := by
  have hlast : ((before.foldl (step cfg) {}).poll cfg e).lastTunnelRx =
      lastTunnel cfg (before ++ [.evaluate e]) := by
    rw [poll_lastTunnelRx cfg e hm, lastTunnelRx_run, lastTunnel, lastTunnel, Run.shown_concat,
      getLastD_append]
  have hfail : ((before.foldl (step cfg) {}).poll cfg e).fail =
      failedPolls cfg (before ++ [.evaluate e]) := by
    rw [poll_fail cfg e hm (fail_run cfg before hm), failedPolls, Run.shown_concat]
  unfold bad tunnelFresh FoundBad
  rw [hlast, hfail]
  simp

/-! ### The events of a run -/

theorem alternates_shown (inputs : List Input) (m : ConnectionMonitor) :
    Alternates (m.state = .connected) (Run.shown (step cfg) (published cfg) m inputs) := by
  induction inputs generalizing m with
  | nil => cases decide (m.state = .connected) <;> trivial
  | cons i inputs ih =>
    have hrest := ih (m.step cfg i)
    rw [Run.shown]
    cases i with
    | record r =>
      rwa [(step_record_frame cfg r m).1] at hrest
    | evaluate e =>
      by_cases hm : m.state = .connected
      · obtain ⟨hstep, hout⟩ := step_evaluate_connected cfg e hm
        have hframe := (poll_frame cfg e m).1.trans hm
        rw [hstep] at hrest ⊢
        rw [hout]
        rcases watch_cases cfg e hm with ⟨hw, hpub⟩ | ⟨-, hpub, hw, -⟩ | ⟨-, hw, u, -, -, reason, hpub⟩
        · rw [hpub, List.nil_append]
          simpa [hw, hm, hframe] using hrest
        · rw [hpub, List.nil_append]
          simpa [hw, hm] using hrest
        · rw [hpub]
          simpa [hw, hm, Alternates] using hrest
      · simp only [step, published] at hrest ⊢
        rcases evaluate_unconnected cfg e hm with ⟨-, hw, -, -, hpub⟩ | ⟨hw, hpub⟩
        · rw [hpub]
          simpa [hw, hm, Alternates] using hrest
        · rw [hpub, List.nil_append]
          simpa [hw, hm] using hrest

theorem not_disconnected_of_unconnected (e : Evaluation) (hm : m.state ≠ .connected) (t : ℚ)
    (r : Option LossReason) (l : ℚ) :
    .disconnected t r l ∉ m.published cfg (.evaluate e) := by
  intro hmem
  have hmem' : .disconnected t r l ∈ (m.evaluate cfg e).2 := hmem
  rcases evaluate_unconnected cfg e hm with ⟨-, -, -, -, hw⟩ | ⟨-, hw⟩ <;> simp [hw] at hmem'

/-- A monitor that is not disconnected was armed by a round that found the tunnel fresh, and has
published no disconnect since. -/
theorem step_armed (m : ConnectionMonitor) (i : Input) (h : (m.step cfg i).state ≠ .disconnected) :
    (∃ e, i = .evaluate e ∧ m.state = .disconnected ∧ m.tunnelFresh cfg e.start = true) ∨
      m.state ≠ .disconnected ∧ ∀ t r l, .disconnected t r l ∉ m.published cfg i := by
  cases i with
  | record r =>
    rw [(step_record_frame cfg r m).1] at h
    exact Or.inr ⟨h, fun _ _ _ => List.not_mem_nil⟩
  | evaluate e =>
    by_cases hdis : m.state = .disconnected
    · refine Or.inl ⟨e, rfl, hdis, ?_⟩
      by_contra hstale
      refine h ?_
      unfold step evaluate
      rw [hdis]
      dsimp only
      rw [if_neg hstale, hdis]
    · refine Or.inr ⟨hdis, fun t r l hmem => ?_⟩
      by_cases hm : m.state = .connected
      · obtain ⟨hstep, hpub⟩ := step_evaluate_connected cfg e hm
        rw [hstep] at h
        rw [hpub] at hmem
        rcases watch_cases cfg e hm with ⟨-, hw⟩ | ⟨-, hw, -⟩ | ⟨-, hw, -⟩
        · simp [hw] at hmem
        · simp [hw] at hmem
        · exact h hw
      · exact not_disconnected_of_unconnected cfg e hm t r l hmem

/-- A connected monitor is suspicious since a round that found the link bad, and every round since
has found it bad. -/
theorem step_suspect (u : ℚ) (m : ConnectionMonitor) (i : Input)
    (h : (m.step cfg i).state = .connected ∧ (m.step cfg i).badSince = some u) :
    (∃ e, i = .evaluate e ∧ e.now = u ∧ m.state = .connected ∧ (m.poll cfg e).bad cfg e = true) ∨
      (m.state = .connected ∧ m.badSince = some u) ∧
        ∀ e, i = .evaluate e → m.state = .connected ∧ (m.poll cfg e).bad cfg e = true := by
  cases i with
  | record r =>
    obtain ⟨hstate, hbad, -⟩ := step_record_frame cfg r m
    rw [hstate, hbad] at h
    exact Or.inr ⟨h, fun e he => by cases he⟩
  | evaluate e =>
    by_cases hm : m.state = .connected
    · obtain ⟨hstep, -⟩ := step_evaluate_connected cfg e hm
      rw [hstep] at h
      rcases watch_cases cfg e hm with ⟨hw, -⟩ | ⟨hb, -, -, -, hw⟩ | ⟨-, hw, -⟩
      · rw [hw] at h
        cases h.2
      · rcases hw with hw | hw
        · exact Or.inl ⟨e, rfl, Option.some.inj (hw.symm.trans h.2), hm, hb⟩
        · refine Or.inr ⟨⟨hm, hw.symm.trans h.2⟩, fun e' he' => ?_⟩
          cases he'
          exact ⟨hm, hb⟩
      · rw [hw] at h
        cases h.1
    · rcases evaluate_unconnected cfg e hm with ⟨-, -, hw, -⟩ | ⟨hw, -⟩
      · cases hw.symm.trans h.2
      · exact absurd h.1 hw

theorem connect_preceded (before : List Input) (e : Evaluation) {t : ℚ} {drone : Dict}
    (h : .connected t drone ∈ (before.foldl (step cfg) {}).published cfg (.evaluate e)) :
    e.status.call ≠ .null ∧ ∃ earlier e₀ since,
      before ++ [.evaluate e] = earlier ++ .evaluate e₀ :: since ∧ FoundFresh cfg earlier e₀ ∧
      ∀ t r l, .disconnected t r l ∉
        Run.shown (step cfg) (published cfg) (earlier.foldl (step cfg) {}) (.evaluate e₀ :: since) := by
  set m := before.foldl (step cfg) {} with hmdef
  have hm : m.state ≠ .connected := by
    intro hm
    rw [(step_evaluate_connected cfg e hm).2] at h
    rcases watch_cases cfg e hm with ⟨-, hw⟩ | ⟨-, hw, -⟩ | ⟨-, -, u, -, -, reason, hw⟩ <;>
      simp [hw] at h
  have h' : .connected t drone ∈ (m.evaluate cfg e).2 := h
  rcases evaluate_unconnected cfg e hm with ⟨hstatus, hw, -⟩ | ⟨-, hw⟩
  · refine ⟨hstatus, ?_⟩
    have hend : ((before ++ [Input.evaluate e]).foldl (step cfg) {}).state ≠ .disconnected := by
      rw [List.foldl_append, List.foldl_cons, List.foldl_nil, ← hmdef]
      show (m.evaluate cfg e).1.state ≠ .disconnected
      rw [hw]
      exact DroneState.noConfusion
    obtain ⟨earlier, i, since, hsplit, ⟨e₀, rfl, hdis, hfresh⟩, hquiet⟩ :=
      Run.Since.of_remembers (P := fun m : ConnectionMonitor => m.state ≠ .disconnected) (fun h => h rfl)
        (step_armed cfg) _ hend
    refine ⟨earlier, e₀, since, hsplit, ?_, ?_⟩
    · unfold FoundFresh
      rw [← lastTunnelRx_run]
      simpa [tunnelFresh] using hfresh
    · intro t r l hmem
      rw [Run.shown] at hmem
      rcases List.mem_append.mp hmem with hmem | hmem
      · refine not_disconnected_of_unconnected cfg e₀ ?_ t r l hmem
        rw [hdis]
        exact DroneState.noConfusion
      · exact Run.Meets.shown_forall (I := fun _ => True)
          (P := fun x => ∀ t r l, x ≠ .disconnected t r l) (fun _ _ _ _ => trivial)
          (fun s i _ hR x hx t r l hxe => hR t r l (hxe ▸ hx)) since _ trivial hquiet _ hmem t r l rfl
  · simp [hw] at h'

theorem disconnect_preceded (before : List Input) (e : Evaluation) {t l : ℚ} {r : Option LossReason}
    (h : .disconnected t r l ∈ (before.foldl (step cfg) {}).published cfg (.evaluate e)) :
    t = e.now ∧ ∃ earlier e₀ between, before = earlier ++ .evaluate e₀ :: between ∧
      cfg.disconnectGraceS ≤ t - e₀.now ∧
      ∀ pre e' post, .evaluate e₀ :: between ++ [.evaluate e] = pre ++ .evaluate e' :: post →
        FoundBad cfg (earlier ++ pre) e' := by
  set m := before.foldl (step cfg) {} with hmdef
  have hm : m.state = .connected := by
    by_contra hm
    exact not_disconnected_of_unconnected cfg e hm t r l h
  rw [(step_evaluate_connected cfg e hm).2] at h
  rcases watch_cases cfg e hm with ⟨-, hw⟩ | ⟨-, hw, -⟩ | ⟨hb, -, u, hu, hgrace, reason, hw⟩
  · simp [hw] at h
  · simp [hw] at h
  obtain rfl : t = e.now := by
    rw [hw, List.mem_singleton] at h
    cases h
    rfl
  obtain ⟨earlier, i, between, hsplit, ⟨e₀, rfl, hnow, hm₀, hb₀⟩, hbetween⟩ :=
    Run.Since.of_remembers (P := fun m : ConnectionMonitor => m.state = .connected ∧ m.badSince = some u)
      (fun h => by cases h.1) (step_suspect cfg u) before ⟨hm, hu⟩
  refine ⟨rfl, earlier, e₀, between, hsplit, hnow ▸ hgrace, ?_⟩
  -- the first round, those in between, and the one that gives up
  have hall : Run.Meets (step cfg)
      (fun m i => ∀ e, i = .evaluate e → m.state = .connected ∧ (m.poll cfg e).bad cfg e = true)
      (earlier.foldl (step cfg) {}) (.evaluate e₀ :: between ++ [.evaluate e]) := by
    refine (Run.meets_append _ _ _).mpr ⟨⟨fun e' he' => ?_, hbetween⟩, fun e' he' => ?_, trivial⟩
    · cases he'
      exact ⟨hm₀, hb₀⟩
    · cases he'
      rw [← List.foldl_append, ← hsplit]
      exact ⟨hm, hb⟩
  intro pre e' post hpre
  obtain ⟨hm', hb'⟩ := (Run.meets_iff_before _ _).mp hall pre (.evaluate e')
    ⟨post, by rw [hpre]; simp⟩ e' rfl
  rw [← List.foldl_append] at hm' hb'
  exact (bad_iff cfg (earlier ++ pre) e' hm').mp hb'

/-- **Connection events are well formed and never premature.**  Over every sequence of records and
rounds: the events alternate, a connect first; a connect is published by a round that got a status,
after a round since the last disconnect that found the tunnel fresh; and a disconnect at `t` follows
a round at `u`, `t - u` at least the grace period, such that every round from `u` to `t` found the
link bad. -/
theorem connection_events (cfg : ConnectionMonitorConfig) (inputs : List Input) :
    Alternates false (Run.shown (step cfg) (published cfg) {} inputs) ∧
    (∀ before e after, inputs = before ++ .evaluate e :: after → ∀ t drone,
      .connected t drone ∈ (before.foldl (step cfg) {}).published cfg (.evaluate e) →
      e.status.call ≠ .null ∧ ∃ earlier e₀ since,
        before ++ [.evaluate e] = earlier ++ .evaluate e₀ :: since ∧ FoundFresh cfg earlier e₀ ∧
        ∀ t r l, .disconnected t r l ∉ Run.shown (step cfg) (published cfg)
          (earlier.foldl (step cfg) {}) (.evaluate e₀ :: since)) ∧
    (∀ before e after, inputs = before ++ .evaluate e :: after → ∀ t r l,
      .disconnected t r l ∈ (before.foldl (step cfg) {}).published cfg (.evaluate e) →
      t = e.now ∧ ∃ earlier e₀ between, before = earlier ++ .evaluate e₀ :: between ∧
        cfg.disconnectGraceS ≤ t - e₀.now ∧
        ∀ pre e' post, .evaluate e₀ :: between ++ [.evaluate e] = pre ++ .evaluate e' :: post →
          FoundBad cfg (earlier ++ pre) e') :=
  ⟨alternates_shown cfg inputs {},
    fun before e _ _ _ _ h => connect_preceded cfg before e h,
    fun before e _ _ _ _ _ h => disconnect_preceded cfg before e h⟩

end ConnectionMonitor

end Fpvd.Gs
