import Fpvd.Daemon.Apply

/-!
# Fpvd.Daemon.Frame — what the parts of the daemon can do
-/

namespace Fpvd

open Stage

namespace Sys

/-! ## The log -/

variable {c : Config} {n radioTuneScript : String} {R : Sys → Prop} (env : Env) (j : Job)
  (k : Sys → Sys) (specs : List SupervisedSpec) (s : Sys)

@[simp] theorem grow_nil : s.grow [] = s := by simp [grow]

@[simp] theorem grow_grow (l l' : List SysEv) : (s.grow l).grow l' = s.grow (l ++ l') := by
  simp [grow]

@[simp] theorem ev_grow (l : List SysEv) : (s.grow l).ev = s.ev := rfl

def evs (s : Sys) (as : List Act) : List SysEv := as.map fun a => s.ev a true

theorem launchAll_eq : ∀ s : Sys,
    specs.foldl (fun s spec => s.note (.launch spec)) s = s.grow (s.evs (specs.map .launch)) := by
  induction specs with
  | nil => simp [evs]
  | cons spec specs ih =>
    intro s
    rw [List.foldl_cons, ih]
    simp [note, evs]

theorem addAll_eq : ∀ s : Sys,
    specs.foldl (fun s spec => { s with orch := s.orch.add spec }.note (.launch spec)) s =
      { s with orch := specs.foldl (fun o spec => o.add spec) s.orch }.grow
        (s.evs (specs.map .launch)) := by
  induction specs with
  | nil => simp [evs]
  | cons spec specs ih =>
    intro s
    rw [List.foldl_cons, ih]
    simp [note, evs, grow, ev]

/-! ## Processes -/

def probePair (s : Sys) : List SupervisedSpec :=
  if s.effective.dynamicLink.probe.enabled then probeSpecs s.effective s.iface else []

theorem addProbeStream_eq :
    s.addProbeStream =
      { s with orch := s.probePair.foldl (fun o spec => o.add spec) s.orch }.grow
        (s.evs (s.probePair.map .launch)) := by
  unfold addProbeStream probePair
  cases s.effective.dynamicLink.probe.enabled with
  | true => exact addAll_eq _ s
  | false => simp [evs]

def osdSpec (s : Sys) : Option SupervisedSpec :=
  if s.effective.telemetry.router = "msposd" ∧ s.orch.spec? "msposd" ≠ none then
    some (wfbSpec "msposd" (telemetryArgs s.effective) ["wfb_tlm_rx", "wfb_tlm_tx"])
  else none

theorem restartOsd_eq :
    s.restartOsd =
      { s with orch := s.osdSpec.elim s.orch fun spec => (s.orch.remove "msposd").add spec }.grow
        (s.evs (s.osdSpec.toList.map .launch)) := by
  unfold restartOsd osdSpec
  by_cases hr : s.effective.telemetry.router = "msposd"
  · have hargs : telemetryArgs s.effective ≠ [] := by simp [telemetryArgs, hr]
    by_cases ho : s.orch.spec? "msposd" = none
    · simp [ho, evs]
    · simp [hr, ho, hargs, evs, note, ev]
  · simp [hr, evs]

theorem restartProc_eq (name : String) (s : Sys) :
    s.restartProc name = s.grow (s.evs ((s.orch.spec? name).toList.map .launch)) := by
  unfold restartProc
  cases s.orch.spec? name <;> simp [evs, note]

theorem encoderRestart_eq :
    s.encoderRestart j =
      if j.encRestart then
        { s with
          job := some (.finish, j)
          orch := s.osdSpec.elim s.orch fun spec => (s.orch.remove "msposd").add spec }.grow
          (s.evs (((s.orch.spec? "waybeam").toList ++ s.osdSpec.toList).map .launch))
      else { s with job := some (.finish, j) } := by
  unfold encoderRestart
  cases j.encRestart with
  | false => rfl
  | true =>
    simp only [if_true, restartOsd_eq, restartProc_eq]
    simp [grow, evs, ev, osdSpec]

@[simp] theorem encoderRestart_effective :
    (s.encoderRestart j).effective = s.effective := by
  rw [encoderRestart_eq]
  split_ifs <;> rfl

theorem encoderRestart_iface : (s.encoderRestart j).iface = s.iface := by
  rw [encoderRestart_eq]
  split_ifs <;> rfl

theorem encoderRestart_spec? (n : String) :
    (s.encoderRestart j).orch.spec? n =
      if j.encRestart ∧ n = "msposd" ∧ s.effective.telemetry.router = "msposd" ∧
          s.orch.spec? "msposd" ≠ none then
        some (wfbSpec "msposd" (telemetryArgs s.effective) ["wfb_tlm_rx", "wfb_tlm_tx"])
      else s.orch.spec? n := by
  rw [encoderRestart_eq]
  cases j.encRestart with
  | false => rw [if_neg (by simp), if_neg (by simp)]
  | true =>
    rw [if_pos rfl]
    show (s.osdSpec.elim s.orch _).spec? n = _
    unfold osdSpec
    by_cases hosd : s.effective.telemetry.router = "msposd" ∧ s.orch.spec? "msposd" ≠ none
    · rw [if_pos hosd, Option.elim_some, Orchestrator.spec?_add]
      show (if n = "msposd" then some _ else _) = _
      by_cases hn : n = "msposd"
      · rw [if_pos hn, if_pos ⟨rfl, hn, hosd⟩]
      · rw [if_neg hn, Orchestrator.spec?_remove, if_neg hn, if_neg fun h => hn h.2.1]
    · rw [if_neg hosd, if_neg fun h => hosd h.2.2]
      rfl

theorem addProbeStream_spec? (hn : n ∉ ["probe-tx", "probe-feed"]) (s : Sys) :
    s.addProbeStream.orch.spec? n = s.orch.spec? n := by
  have hnone : Orchestrator.named n s.probePair = none := by
    rw [Orchestrator.named_eq_none]
    intro spec hspec hname
    unfold probePair at hspec
    split_ifs at hspec
    · exact hn (hname ▸ probeSpecs_name hspec)
    · simp at hspec
  rw [addProbeStream_eq]
  show (s.probePair.foldl (fun o spec => o.add spec) s.orch).spec? n = _
  rw [Orchestrator.spec?_addAll, hnone, Option.none_or]

theorem removeProbeStream_spec? (hn : n ∉ ["probe-tx", "probe-feed"]) (s : Sys) :
    s.removeProbeStream.orch.spec? n = s.orch.spec? n := by
  obtain ⟨htx, hfeed⟩ : n ≠ "probe-tx" ∧ n ≠ "probe-feed" := by simpa using hn
  unfold removeProbeStream
  rw [Orchestrator.spec?_remove, if_neg htx, Orchestrator.spec?_remove, if_neg hfeed]

/-! ## First part of an apply -/

theorem attempt_run (a : Sys → Act) (onFail : Outcome → Sys → Sys) (k : Sys → Sys) (s : Sys) :
    (attempt env a onFail).run k s =
      if (env.out s.log.length).ok then k (s.grow [s.ev (a s) true])
      else onFail (env.out s.log.length) (s.grow [s.ev (a s) false]) := by
  unfold attempt Stage.run act
  cases h : (env.out s.log.length).ok <;> simp [h]

def liveActs (j : Job) : List Act :=
  if j.reallyRestart && !j.needsRebuild && j.encLive then [.encSet j.wbDiff.live] else []

theorem begin_cases {reallyRestart : Bool} {env : Env} {s : Sys}
    (hinvalid : ∀ errors version, R (s.ret (.result { ok := false, errors, version })))
    (hfail : validate s.pending = [] → ∀ a last err,
      a ∈ liveActs (Job.of reallyRestart s.effective s.pending) →
      R ((s.grow [s.ev a false]).retFail [] last err))
    (hok : validate s.pending = [] → ∀ j, j = Job.of reallyRestart s.effective s.pending →
      R { s.grow (s.evs (liveActs j)) with job := some (.commit, j) }) :
    R (s.begin reallyRestart env) := by
  unfold begin livePush
  dsimp only
  rw [run_when]
  by_cases hv : validate s.pending ≠ []
  · rw [if_pos hv]
    exact hinvalid _ _
  · rw [if_neg hv, attempt_run]
    have hok' := hok (not_not.mp hv) _ rfl
    unfold liveActs at hfail hok'
    split_ifs with hp ho
    · simpa [hp, evs] using hok'
    · exact hfail (not_not.mp hv) _ _ _ (by simp [hp])
    · simpa [hp, evs] using hok'

/-! ## Second part of an apply -/

theorem startAll_eq :
    startAll s =
      match s.orch.startAll with
      | none => .error (s.ret (.threw "startAfter cycle detected"))
      | some specs => .ok (s.grow (s.evs (specs.map .launch))) := by
  unfold startAll
  cases s.orch.startAll with
  | none => rfl
  | some specs => simp only [launchAll_eq]

theorem startAll_run :
    startAll.run k s =
      match s.orch.startAll with
      | none => s.ret (.threw "startAfter cycle detected")
      | some specs => k (s.grow (s.evs (specs.map .launch))) := by
  rw [Stage.run, startAll_eq]
  cases s.orch.startAll <;> rfl

theorem stopAll_run :
    stopAll.run k s =
      match s.orch.stopOrder with
      | none => s.ret (.threw "startAfter cycle detected")
      | some _ => k s := by
  unfold Stage.run stopAll
  cases s.orch.stopOrder <;> rfl

theorem bringUpRadio_run :
    (bringUpRadio env).run k s =
      let o := env.out s.log.length
      if o.ok then
        k ({ s with radio := { driver := o.driver, iface := o.iface, adapterId := o.adapterId } }.grow
          [s.ev (.radioUp s.bringUpEnv) true])
      else (s.grow [s.ev (.radioUp s.bringUpEnv) false]).retFail [] ("radio: " ++ o.text) o.text := by
  unfold Stage.run bringUpRadio act
  cases h : (env.out s.log.length).ok <;> simp [h, grow]

def adopted (s : Sys) : Sys :=
  { s with effective := s.pending }.grow [s.ev (.writeConfig s.pending) true]

def committed (s : Sys) : Sys :=
  s.adopted.grow [s.adopted.ev (.writeWaybeam (toWaybeamJson s.pending)) true]

theorem commit_cases {env : Env} {j : Job} {s : Sys}
    (hconfig : ∀ what, R ((s.grow [s.ev (.writeConfig s.pending) false]).ret (.threw what)))
    (hwaybeam : ∀ what, R ((s.adopted.grow
      [s.adopted.ev (.writeWaybeam (toWaybeamJson s.pending)) false]).ret (.threw what)))
    (hdry : j.reallyRestart = false → R (s.committed.dryLoad j))
    (hrebuild : j.reallyRestart = true → j.needsRebuild = true →
      R ((rebuild env j).run id s.committed))
    (hhot : j.reallyRestart = true → j.needsRebuild = false → R (s.committed.encoderRestart j)) :
    R ((commit env j).run id s) := by
  unfold commit commitConfig
  simp only [run_andThen, attempt_run, run_lift]
  split_ifs with h1 h2 h3 h4
  · exact hdry (by simpa using h3)
  · exact hrebuild (by simpa using h3) h4
  · exact hhot (by simpa using h3) (by simpa using h4)
  · exact hwaybeam _
  · exact hconfig _

/-! ## Rebuild -/

def vacated (j : Job) (s : Sys) : Sys :=
  { (if j.enabledOld then s.stopController else s) with orch := {} }

def raised (env : Env) (j : Job) (s : Sys) : Sys :=
  let o := env.out s.log.length
  if j.subs.radio then
    { s with radio := { driver := o.driver, iface := o.iface, adapterId := o.adapterId } }.grow
      [s.ev (.radioUp s.bringUpEnv) true]
  else s

def rebuilt (env : Env) (j : Job) (specs : List SupervisedSpec) (s : Sys) : Sys :=
  let s := (s.seed.grow (s.evs (specs.map .launch))).reconcileBeamforming true
  (if j.enabledNew then s.startController env else s).retOk j.restarted

@[simp] theorem vacated_effective : (s.vacated j).effective = s.effective := by
  unfold vacated
  split_ifs <;> rfl

@[simp] theorem vacated_workers : (s.vacated j).workers = s.workers := by
  unfold vacated
  split_ifs <;> rfl

theorem vacated_dl :
    (s.vacated j).dl = if j.enabledOld then none else s.dl := by
  unfold vacated
  cases j.enabledOld <;> rfl

@[simp] theorem vacated_log : (s.vacated j).log = s.log := by
  unfold vacated
  split_ifs <;> rfl

theorem raised_log :
    (s.raised env j).log =
      s.log ++ if j.subs.radio then [s.ev (.radioUp s.bringUpEnv) true] else [] := by
  unfold raised
  dsimp only
  split_ifs
  · rfl
  · exact (List.append_nil _).symm

@[simp] theorem raised_dl : (s.raised env j).dl = s.dl := by
  unfold raised
  dsimp only
  split_ifs <;> rfl

@[simp] theorem raised_workers :
    (s.raised env j).workers = s.workers := by
  unfold raised
  dsimp only
  split_ifs <;> rfl

@[simp] theorem raised_effective :
    (s.raised env j).effective = s.effective := by
  unfold raised
  dsimp only
  split_ifs <;> rfl

@[simp] theorem rebuilt_effective :
    (s.rebuilt env j specs).effective = s.effective := by
  unfold rebuilt
  cases j.enabledNew <;> rfl

@[simp] theorem rebuilt_radio :
    (s.rebuilt env j specs).radio = s.radio := by
  unfold rebuilt
  cases j.enabledNew <;> rfl

@[simp] theorem rebuilt_workers :
    (s.rebuilt env j specs).workers = s.workers := by
  unfold rebuilt
  cases j.enabledNew <;> rfl

theorem rebuilt_dl :
    (s.rebuilt env j specs).dl =
      if j.enabledNew then some (DynLink.Loop.start s.dlSnapshot env.gapFd) else s.dl := by
  unfold rebuilt
  cases j.enabledNew <;> rfl

theorem rebuilt_orch :
    (s.rebuilt env j specs).orch = seedOrchestrator s.effective s.iface := by
  unfold rebuilt
  cases j.enabledNew <;> rfl

theorem rebuilt_log :
    ∃ a b c, (s.rebuilt env j specs).log =
      s.log ++ s.evs (specs.map .launch) ++ [s.ev (.beamforming a b c) true] := by
  unfold rebuilt
  dsimp only
  split_ifs <;> exact ⟨_, _, _, rfl⟩

theorem restartAll_cases {env : Env} {j : Job} {s : Sys}
    (hradio : ∀ last err,
      R ((s.grow [s.ev (.radioUp s.bringUpEnv) false]).retFail [] last err))
    (hstart : ∀ what, R ((s.raised env j).seed.ret (.threw what)))
    (hok : ∀ specs, (s.raised env j).seed.orch.startAll = some specs →
      R ((s.raised env j).rebuilt env j specs)) :
    R ((restartAll env j).run id s) := by
  have hgo : R (startAll.run (fun s =>
      (if j.enabledNew then (s.reconcileBeamforming true).startController env
        else s.reconcileBeamforming true).retOk j.restarted) (s.raised env j).seed) := by
    rw [startAll_run]
    cases h : (s.raised env j).seed.orch.startAll with
    | none => exact hstart _
    | some specs => exact hok specs h
  unfold restartAll
  simp only [run_andThen, run_when, bringUpRadio_run, run_lift, id]
  unfold raised at hgo
  cases hr : j.subs.radio with
  | false => simpa [hr] using hgo
  | true =>
    rw [if_pos rfl]
    by_cases ho : (env.out s.log.length).ok = true
    · simpa [hr, ho] using hgo
    · rw [if_neg ho]
      exact hradio _ _

theorem rebuild_cases {env : Env} {j : Job} {s : Sys}
    (hstop : ∀ what, R ((if j.enabledOld then s.stopController else s).ret (.threw what)))
    (hradio : ∀ last err, R (((s.vacated j).grow
      [(s.vacated j).ev (.radioUp (s.vacated j).bringUpEnv) false]).retFail [] last err))
    (hstart : ∀ what, R (((s.vacated j).raised env j).seed.ret (.threw what)))
    (hok : ∀ specs, ((s.vacated j).raised env j).seed.orch.startAll = some specs →
      R (((s.vacated j).raised env j).rebuilt env j specs)) :
    R ((rebuild env j).run id s) := by
  unfold rebuild
  simp only [run_andThen, run_lift, stopAll_run]
  cases (if j.enabledOld then s.stopController else s).orch.stopOrder with
  | none => exact hstop _
  | some _ => exact restartAll_cases hradio hstart hok

theorem rebuild_effective :
    ((rebuild env j).run id s).effective = s.effective := by
  refine rebuild_cases (R := fun t => t.effective = s.effective) (fun _ => ?_)
    (fun _ _ => vacated_effective j s) (fun _ => ?_) (fun specs _ => ?_)
  · cases j.enabledOld <;> rfl
  · exact (raised_effective env j _).trans (vacated_effective j s)
  · rw [rebuilt_effective, raised_effective, vacated_effective]

/-! ## Third part of an apply -/

def restateActs (s : Sys) : List Act :=
  [s.fecAct, s.radioAct] ++ (if s.radioTuneScript ≠ "" then [.tune .txpower s.radioEnv] else []) ++
    [.encSet [.bitrate s.effective.video.bitrate, .roiQp s.effective.video.roi.qp]]

def outcomes (s : Sys) (env : Env) (as : List Act) : List SysEv :=
  as.zipIdx.map fun p => s.ev p.1 (env.out (s.log.length + p.2)).ok

theorem restateStaticLink_eq :
    s.restateStaticLink env = s.grow (s.outcomes env s.restateActs) := by
  unfold restateStaticLink restateActs outcomes
  by_cases h : s.radioTuneScript = "" <;>
    simp [h, act, fecAct, radioAct, radioEnv, List.zipIdx_cons]

theorem setDlConfig_eq :
    s.setDlConfig = { s with mailbox := if s.dl.isSome then some s.dlSnapshot else s.mailbox } := by
  unfold setDlConfig
  split_ifs <;> rfl

theorem route_cases {env : Env} {j : Job} {s : Sys}
    (hon : j.enabledOld = false → j.enabledNew = true → R (s.addProbeStream.startController env))
    (hoff : j.enabledOld = true → j.enabledNew = false →
      R (s.stopController.removeProbeStream.restateStaticLink env))
    (hconfig : j.enabledOld = true → j.enabledNew = true → R (s.toggleProbe j).setDlConfig)
    (hnone : j.enabledOld = j.enabledNew → R s) : R (s.route env j) := by
  unfold route
  cases ho : j.enabledOld <;> cases hn : j.enabledNew
  case true.true =>
    rw [if_neg (by simp), if_neg (by simp)]
    split_ifs
    · exact hconfig ho hn
    · exact hnone (ho.trans hn.symm)
  case true.false => exact hoff ho hn
  case false.true => exact hon ho hn
  case false.false => exact hnone (ho.trans hn.symm)

theorem toggleProbe_cases {j : Job} {s : Sys} (hadd : R s.addProbeStream)
    (hremove : R s.removeProbeStream) (hnone : R s) : R (s.toggleProbe j) := by
  unfold toggleProbe
  split_ifs
  · exact hadd
  · exact hremove
  · exact hnone

theorem route_keeps {α : Type} (f : Sys → α) (env : Env) (j : Job) (s : Sys)
    (hf : ∀ s o d m l, f { s with orch := o, dl := d, mailbox := m, log := l } = f s) :
    f (s.route env j) = f s := by
  have hadd : f s.addProbeStream = f s := by
    rw [addProbeStream_eq]
    exact hf s _ s.dl s.mailbox _
  refine route_cases (R := fun r => f r = f s) (fun _ _ => ?_) (fun _ _ => ?_) (fun _ _ => ?_)
    (fun _ => rfl)
  · exact (hf s.addProbeStream s.addProbeStream.orch _ _ s.addProbeStream.log).trans hadd
  · rw [restateStaticLink_eq]
    exact hf s _ _ _ _
  · have htoggle : f (s.toggleProbe j) = f s :=
      toggleProbe_cases (R := fun r => f r = f s) hadd (hf s _ s.dl s.mailbox s.log) rfl
    rw [setDlConfig_eq, ← htoggle]
    exact hf (s.toggleProbe j) (s.toggleProbe j).orch (s.toggleProbe j).dl _ (s.toggleProbe j).log

@[simp] theorem route_effective :
    (s.route env j).effective = s.effective :=
  route_keeps Sys.effective env j s fun _ _ _ _ _ => rfl

@[simp] theorem route_radio : (s.route env j).radio = s.radio :=
  route_keeps Sys.radio env j s fun _ _ _ _ _ => rfl

@[simp] theorem route_workers :
    (s.route env j).workers = s.workers :=
  route_keeps Sys.workers env j s fun _ _ _ _ _ => rfl

theorem route_spec? (hn : n ∉ ["probe-tx", "probe-feed"]) :
    (s.route env j).orch.spec? n = s.orch.spec? n := by
  refine route_cases (R := fun r => r.orch.spec? n = s.orch.spec? n) (fun _ _ => ?_) (fun _ _ => ?_)
    (fun _ _ => ?_) (fun _ => rfl)
  · exact addProbeStream_spec? hn s
  · rw [restateStaticLink_eq]
    exact removeProbeStream_spec? hn s.stopController
  · rw [setDlConfig_eq]
    exact toggleProbe_cases (R := fun r => r.orch.spec? n = s.orch.spec? n)
      (addProbeStream_spec? hn s) (removeProbeStream_spec? hn s) rfl

theorem route_dl :
    (j.enabledOld = j.enabledNew ∧ (s.route env j).dl = s.dl) ∨
      (j.enabledNew = true ∧ j.enabledOld = false) ∨
      (j.enabledNew = false ∧ (s.route env j).dl = none) := by
  refine route_cases (R := fun r => (j.enabledOld = j.enabledNew ∧ r.dl = s.dl) ∨
      (j.enabledNew = true ∧ j.enabledOld = false) ∨ (j.enabledNew = false ∧ r.dl = none))
    (fun ho hn => .inr (.inl ⟨hn, ho⟩)) (fun _ hn => .inr (.inr ⟨hn, ?_⟩))
    (fun ho hn => .inl ⟨ho.trans hn.symm, ?_⟩) (fun h => .inl ⟨h, rfl⟩)
  · rw [restateStaticLink_eq]
    rfl
  · rw [setDlConfig_eq]
    refine toggleProbe_cases (R := fun r => r.dl = s.dl) ?_ rfl rfl
    rw [addProbeStream_eq]
    rfl

def due (j : Job) (s : Sys) : List Act :=
  (if j.link.nicTxpower then [.tune .txpower s.radioEnv] else []) ++
  (if j.link.nicMtu then [.tune .mtu s.radioEnv] else []) ++
  (if j.link.videoFec && !j.enabledNew then [s.fecAct] else []) ++
  (if j.link.videoRadiotap && !j.link.nicWidth && !j.enabledNew then [s.radioAct] else [])

@[simp] theorem route_due : (s.route env j).due j = s.due j :=
  route_keeps (due j) env j s fun _ _ _ _ _ => rfl

def Pushed (env : Env) (r : Sys) (l : List Act) (s : Sys) : Prop :=
  s = r.grow (r.evs l) ∧ ∀ i < l.length, (env.out (r.log.length + i)).ok = true

def PushFailed (j : Job) (r : Sys) (as : List Act) (s : Sys) : Prop :=
  ∃ l a last err, l ++ [a] <+: as ∧
    s = (r.grow (r.evs l ++ [r.ev a false])).retFail j.restarted last err

theorem hotPush_spec {env : Env} {j : Job} {r : Sys} {as l : List Act} {b : Bool} {a : Sys → Act}
    {label : String} (ha : ∀ l, a (r.grow l) = a r)
    (hpre : l ++ (if b then [a r] else []) <+: as) :
    Spec (Pushed env r l) (hotPush env j b a label)
      (Pushed env r (l ++ if b then [a r] else [])) (PushFailed j r as) := by
  unfold hotPush
  refine Spec.when ?_ ?_
  · rintro rfl s ⟨rfl, hl⟩
    simp only [if_true] at hpre ⊢
    have hlen : (r.grow (r.evs l)).log.length = r.log.length + l.length := by simp [evs]
    unfold attempt act
    dsimp only
    rw [ha, ev_grow, grow_grow, hlen]
    cases ho : (env.out (r.log.length + l.length)).ok with
    | true =>
      refine ⟨by simp [evs], fun i hi => ?_⟩
      rcases Nat.lt_or_eq_of_le (Nat.le_of_lt_succ (by simpa using hi)) with hi | rfl
      · exact hl i hi
      · exact ho
    | false => exact ⟨l, a r, _, _, hpre, rfl⟩
  · rintro rfl s hs
    simpa using hs

theorem conclude_eq :
    s.conclude j =
      { s with workers := s.workers ++ if j.link.nicChannel then [j.link.nicWidth] else [] }.retOk
        j.restarted := by
  unfold conclude
  split_ifs <;> simp

/-- **How the third part can end**: after routing the control thread, the due pushes are made in turn
up to the first that fails. -/
theorem finish_cases {env : Env} {j : Job} {s : Sys}
    (hok : ∀ r, r = s.route env j →
      (∀ i < (r.due j).length, (env.out (r.log.length + i)).ok = true) →
      R (((r.grow (r.evs (r.due j))).reconcileBeamforming j.subs.radio).conclude j))
    (hfail : ∀ r, r = s.route env j → ∀ l a last err, l ++ [a] <+: r.due j →
      R ((r.grow (r.evs l ++ [r.ev a false])).retFail j.restarted last err)) :
    R ((finish env j).run id s) := by
  obtain ⟨r, hr⟩ : ∃ r, r = s.route env j := ⟨_, rfl⟩
  -- the pushes made before each of the four
  let l₁ : List Act := if j.link.nicTxpower then [.tune .txpower r.radioEnv] else []
  let l₂ : List Act := l₁ ++ if j.link.nicMtu then [.tune .mtu r.radioEnv] else []
  let l₃ : List Act := l₂ ++ if j.link.videoFec && !j.enabledNew then [r.fecAct] else []
  have h₃ : l₃ <+: r.due j := List.prefix_append _ _
  have h₂ : l₂ <+: r.due j := (List.prefix_append _ _).trans h₃
  have h₁ : l₁ <+: r.due j := (List.prefix_append _ _).trans h₂
  have htx : Spec (Pushed env r []) (pushTxpower env j) (Pushed env r l₁) (PushFailed j r (r.due j)) :=
    hotPush_spec (l := []) (fun _ => rfl) h₁
  have hmtu : Spec (Pushed env r l₁) (pushMtu env j) (Pushed env r l₂) (PushFailed j r (r.due j)) :=
    hotPush_spec (fun _ => rfl) h₂
  have hfec : Spec (Pushed env r l₂) (pushFec env j) (Pushed env r l₃) (PushFailed j r (r.due j)) :=
    hotPush_spec (fun _ => rfl) h₃
  have hradio : Spec (Pushed env r l₃) (pushRadio env j) (Pushed env r (r.due j))
      (PushFailed j r (r.due j)) :=
    hotPush_spec (fun _ => rfl) List.prefix_rfl
  have hrun := (htx.andThen (hmtu.andThen (hfec.andThen hradio))).run
    (T := R) (k := fun s => (s.reconcileBeamforming j.subs.radio).conclude j) (s := r)
    (by rintro _ ⟨rfl, hl⟩; exact hok r hr hl)
    (by rintro _ ⟨l, a, last, err, hpre, rfl⟩; exact hfail r hr l a last err hpre)
    ⟨by simp [evs], by simp⟩
  unfold finish
  simp only [run_andThen, run_lift, ← hr] at hrun ⊢
  exact hrun

/-! ## Deferred worker -/

theorem worker_cases {env : Env} {i : ℕ} {s : Sys} (hnone : R s)
    (hfail : ∀ w o, w = { s with workers := s.workers.eraseIdx i } →
      R (workerFail "channel" o (w.grow [w.ev (.tune .channel w.radioEnv) false])))
    (hok : ∀ w, w = { s with workers := s.workers.eraseIdx i } →
      R (w.grow [w.ev (.tune .channel w.radioEnv) true]))
    (hwidth : ∀ w ok o, w = { s with workers := s.workers.eraseIdx i } →
      s.workers[i]? = some true → (env.out s.log.length).ok = true →
      R ((bif ok then id else workerFail "radio" o)
        (w.grow [w.ev (.tune .channel w.radioEnv) true, w.ev w.radioAct ok]))) :
    R (s.worker env i) := by
  unfold worker
  cases hw : s.workers[i]? with
  | none => exact hnone
  | some pushWidth =>
    dsimp only
    rw [run_andThen, attempt_run]
    split_ifs with hc
    · rw [run_when]
      cases pushWidth with
      | false => exact hok _ rfl
      | true =>
        simp only [if_pos, attempt_run, grow_grow, ev_grow, List.cons_append, List.nil_append]
        split_ifs with hr
        · exact hwidth _ true {ok := true} rfl hw hc
        · exact hwidth _ false _ rfl hw hc
    · exact hfail _ _ rfl

/-! ## Steps -/

/-- **What a step can be.**  Operations and workers run only while no apply is under way. -/
theorem step_cases {s₀ s : Sys} {i : Step} (hs₀ : s₀ = { s with returned := none }) (hidle : R s₀)
    (hpatch : ∀ body, i = .patch body → s.job = none →
      R { s₀ with pending := (patchPending body s.pending).2 })
    (hbegin : ∀ reallyRestart env, i = .apply reallyRestart env → s.job = none →
      R (s₀.begin reallyRestart env))
    (hcommit : ∀ env j, i = .advance env → s.job = some (.commit, j) →
      R ((commit env j).run id s₀))
    (hfinish : ∀ env j, i = .advance env → s.job = some (.finish, j) →
      R ((finish env j).run id s₀)) (hreset : i = .reset → s.job = none → R s₀.reset)
    (hworker : ∀ k env, i = .worker k env → s.job = none → R (s₀.worker env k))
    (hround : ∀ ack wake r, i = .round ack wake r → R (s₀.dlRound ack wake r)) :
    R (s.step i) := by
  subst hs₀
  have hlock : ∀ {t : Sys}, (s.job = none → R t) →
      R (if s.job.isSome then { s with returned := none } else t) := by
    intro t ht
    split_ifs with hj
    · exact hidle
    · exact ht (by simpa using hj)
  cases i with
  | patch body => exact hlock (hpatch body rfl)
  | apply reallyRestart env => exact hlock (hbegin reallyRestart env rfl)
  | reset => exact hlock (hreset rfl)
  | worker k env => exact hlock (hworker k env rfl)
  | round ack wake r => exact hround ack wake r rfl
  | advance env =>
    show R (advance env { s with returned := none })
    unfold advance
    split
    · exact hidle
    · exact hcommit env _ rfl ‹_›
    · exact hfinish env _ rfl ‹_›

def booted (radioTuneScript : String) (c : Config) : Sys :=
  let s : Sys := { radioTuneScript := radioTuneScript, effective := c, pending := c }
  s.grow [s.ev (.writeWaybeam (toWaybeamJson c)) true]

theorem bootstrap_ok {env : Env} {s : Sys} (hb : bootstrap radioTuneScript c env = .ok s) :
    validate c = [] ∧ (booted radioTuneScript c).startProcesses env = .ok s := by
  unfold bootstrap at hb
  dsimp only at hb
  split_ifs at hb with hv h0
  refine ⟨not_not.mp hv, ?_⟩
  have h0' : (env.out 0).ok = true := by simpa using h0
  rw [← hb]
  unfold booted act
  simp [h0']

theorem startProcesses_cases {env : Env} {b s : Sys} (hb : b.startProcesses env = .ok s)
    (hradio : (env.out b.log.length).ok = false → ∀ lastApply,
      R { b.grow [b.ev (.radioUp b.bringUpEnv) false] with lastApply := lastApply })
    (hok : ∀ r radio specs, r = { b.grow [b.ev (.radioUp b.bringUpEnv) true] with radio := radio } →
      r.seed.orch.startAll = some specs →
      ∀ u, u = (r.seed.grow (r.evs (specs.map .launch))).reconcileBeamforming true →
      R (if b.effective.dynamicLink.enabled then u.startController env else u)) : R s := by
  unfold startProcesses at hb
  dsimp only at hb
  cases ho : (env.out b.log.length).ok with
  | false =>
    rw [ho] at hb
    obtain rfl := Except.ok.inj hb
    unfold act
    rw [ho]
    exact hradio ho _
  | true =>
    rw [ho] at hb
    unfold act at hb
    rw [ho] at hb
    simp only [Bool.not_true, Bool.false_eq_true, if_false, startAll_eq] at hb
    split at hb
    · cases hb
    · rename_i u hu
      obtain rfl := Except.ok.inj hb
      split at hu
      · cases hu
      · rename_i specs hspecs
        obtain rfl := Except.ok.inj hu
        exact hok _ _ specs rfl hspecs _ rfl

/-! ## Jobs -/

def committing (s : Sys) : Option Job :=
  match s.job with
  | some (.commit, j) => some j
  | _ => none

def finishing (s : Sys) : Option Job :=
  match s.job with
  | some (.finish, j) => some j
  | _ => none

inductive Moved (s : Sys) (i : Step) (t : Sys) : Prop where
  | stays (hjob : t.job = s.job) (heff : t.effective = s.effective) (hpend : t.pending = s.pending)
  | idles (hjob : t.job = none) (heff : t.effective = s.effective)
  | begins (reallyRestart : Bool) (env : Env) (hi : i = .apply reallyRestart env)
    (hvalid : validate s.pending = [])
    (hjob : t.job = some (.commit, Job.of reallyRestart s.effective s.pending))
    (heff : t.effective = s.effective) (hpend : t.pending = s.pending)
  | returns (j : Job) (hs : s.job = some (.commit, j)) (hjob : t.job = none)
    (heff : t.effective = s.effective ∨ t.effective = s.pending)
  | goesOn (j : Job) (hs : s.job = some (.commit, j)) (hreally : j.reallyRestart = true)
    (hhot : j.needsRebuild = false) (hjob : t.job = some (.finish, j))
    (heff : t.effective = s.pending)

theorem moved_commit {env : Env} {j : Job} {s s₀ : Sys} {i : Step} (hs : s.job = some (.commit, j))
    (hs₀ : s₀ = { s with returned := none }) : Moved s i ((commit env j).run id s₀) := by
  subst hs₀
  refine commit_cases (fun _ => .returns j hs rfl (.inl rfl)) (fun _ => .returns j hs rfl (.inr rfl))
    (fun _ => .returns j hs rfl (.inr rfl)) (fun _ _ => .returns j hs ?_ (.inr ?_)) (fun hr hn => ?_)
  · exact rebuild_cases (R := fun t => t.job = none) (fun _ => rfl) (fun _ _ => rfl) (fun _ => rfl)
      (fun _ _ => rfl)
  · exact rebuild_effective env j _
  · exact .goesOn j hs hr hn rfl (encoderRestart_effective j _)

theorem moved_step (i : Step) : Moved s i (s.step i) := by
  refine step_cases rfl (.stays rfl rfl rfl) (fun _ _ hn => .idles hn rfl) ?_
    (fun env j _ hj => moved_commit hj rfl) (fun env j _ _ => ?_) (fun _ hn => .idles hn rfl)
    (fun _ _ _ hn => ?_) (fun _ _ _ _ => ?_)
  · rintro reallyRestart env rfl hn
    refine begin_cases (fun _ _ => .idles rfl rfl) (fun _ _ _ _ _ => .idles rfl rfl) ?_
    rintro hv j rfl
    exact .begins reallyRestart env rfl hv rfl rfl rfl
  · refine finish_cases ?_ ?_
    · rintro r rfl -
      refine .idles rfl ?_
      rw [conclude_eq]
      exact route_effective env j _
    · rintro r rfl l a last err -
      exact .idles rfl (route_effective env j _)
  · refine worker_cases (.idles hn rfl) ?_ ?_ ?_
    · rintro w o rfl
      exact .idles hn rfl
    · rintro w rfl
      exact .idles hn rfl
    · rintro w ok o rfl - -
      cases ok <;> exact .idles hn rfl
  · unfold dlRound
    split <;> exact .stays rfl rfl rfl

/-- The effective configuration is valid, and the local variables of the apply under way are those of
the configurations it started from. -/
structure WellFormed (s : Sys) : Prop where
  valid : validate s.effective = []
  commit : ∀ j, s.job = some (.commit, j) →
    j = Job.of j.reallyRestart s.effective s.pending ∧ validate s.pending = []
  finish : ∀ j, s.job = some (.finish, j) → j.reallyRestart = true ∧ j.needsRebuild = false ∧
    ∃ old, j = Job.of true old s.effective

theorem WellFormed.of_idle {s : Sys} (hjob : s.job = none) (hvalid : validate s.effective = []) :
    WellFormed s :=
  ⟨hvalid, fun _ hj => by simp [hjob] at hj, fun _ hj => by simp [hjob] at hj⟩

theorem wellFormed_step (i : Step) (h : WellFormed s) : WellFormed (s.step i) := by
  cases moved_step s i with
  | stays hjob heff hpend =>
    refine ⟨heff ▸ h.valid, fun j hj => ?_, fun j hj => ?_⟩
    · rw [heff, hpend]
      exact h.commit j (hjob ▸ hj)
    · rw [heff]
      exact h.finish j (hjob ▸ hj)
  | idles hjob heff => exact .of_idle hjob (heff ▸ h.valid)
  | begins reallyRestart env hi hvalid hjob heff hpend =>
    refine ⟨heff ▸ h.valid, fun j hj => ?_, fun j hj => ?_⟩
    · obtain rfl : Job.of reallyRestart s.effective s.pending = j := by simpa [hjob] using hj
      rw [heff, hpend]
      exact ⟨rfl, hvalid⟩
    · simp [hjob] at hj
  | returns j hs hjob heff =>
    refine .of_idle hjob ?_
    rcases heff with heff | heff
    · exact heff ▸ h.valid
    · exact heff ▸ (h.commit j hs).2
  | goesOn j hs hreally hhot hjob heff =>
    obtain ⟨hof, hvalid⟩ := h.commit j hs
    refine ⟨heff ▸ hvalid, fun j' hj' => ?_, fun j' hj' => ?_⟩
    · simp [hjob] at hj'
    · obtain rfl : j = j' := by simpa [hjob] using hj'
      exact ⟨hreally, hhot, s.effective, by rw [heff, ← hreally]; exact hof⟩

theorem bootstrap_idle {env : Env} {s : Sys} (hb : bootstrap radioTuneScript c env = .ok s) :
    s.job = none ∧ s.returned = none ∧ s.effective = c := by
  refine startProcesses_cases (R := fun s => s.job = none ∧ s.returned = none ∧ s.effective = c)
    (bootstrap_ok hb).2 (fun _ _ => ⟨rfl, rfl, rfl⟩) ?_
  rintro r radio specs rfl - u rfl
  split_ifs <;> exact ⟨rfl, rfl, rfl⟩

theorem wellFormed_bootstrap {env : Env} {s : Sys} (hb : bootstrap radioTuneScript c env = .ok s) :
    WellFormed s := by
  obtain ⟨hjob, -, heff⟩ := bootstrap_idle hb
  exact .of_idle hjob (heff ▸ (bootstrap_ok hb).1)

end Sys

def Env.allOk : Env := { out := fun _ => { ok := true, iface := "wlan0" } }

theorem bootstrap_get {radioTuneScript : String} {c : Config} {env : Env}
    (h : (bootstrap radioTuneScript c env).toOption.isSome) :
    bootstrap radioTuneScript c env = .ok ((bootstrap radioTuneScript c env).toOption.get h) := by
  generalize bootstrap radioTuneScript c env = x at h
  cases x with
  | error e => simp [Except.toOption] at h
  | ok s => rfl

def parked : Sys :=
  (bootstrap "/usr/bin/radio-tune.sh" {} .allOk).toOption.get (by decide +kernel)

def flying : Sys :=
  ((bootstrap "/usr/bin/radio-tune.sh" { dynamicLink := { enabled := true } } .allOk).toOption.get
    (by decide +kernel))

/-! ## Returns -/

def returnedOk (s : Sys) : Bool :=
  match s.returned with
  | some (.result r) => r.ok
  | _ => false

def failed (s : Sys) : Bool := s.returned.isSome && !returnedOk s

end Fpvd
