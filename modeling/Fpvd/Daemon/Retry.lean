import Fpvd.Daemon.Frame

/-!
# Fpvd.Daemon.Retry — what a successful apply leaves in place

An apply commits the configuration before the steps that can fail, and a later apply acts on the
difference to the committed configuration only.  So what a failed step left undone stays undone unless
it is part of a later difference.
-/

namespace Fpvd

open Run Sys DynLink

/-! ## In place -/

/-- Processes, power, MTU, FEC and radiotap are those of the effective configuration. -/
@[mk_iff] structure InPlace (s : Sys) : Prop where
  names : s.orch.names = (seedOrchestrator s.effective s.iface).names
  power : (devices s.log).power = some s.effective.link.txPowerDbm.nic
  mtu : (devices s.log).mtu = some s.effective.link.mtu
  fec : (devices s.log).fec = some (staticFec s.effective)
  radio : (devices s.log).radio = some (staticRadio s.effective)

def keptProcs (s : Sys) (j : Job) : Orchestrator :=
  if j.enabledOld then (s.orch.remove "probe-feed").remove "probe-tx" else s.orch

/-- Before the third part of an apply that leaves dynamic link off: whatever it does not set is in
place.  When dynamic link is being turned off, FEC, radiotap and power are restated, in this order. -/
@[mk_iff] structure Completes (s : Sys) (env : Env) (j : Job) : Prop where
  names : (keptProcs s j).names = (seedOrchestrator s.effective s.iface).names
  power : j.link.nicTxpower ∨
    (j.enabledOld ∧ s.radioTuneScript ≠ "" ∧ (env.out (s.log.length + 2)).ok) ∨
    (devices s.log).power = some s.effective.link.txPowerDbm.nic
  mtu : j.link.nicMtu ∨ (devices s.log).mtu = some s.effective.link.mtu
  fec : j.link.videoFec ∨ (j.enabledOld ∧ (env.out s.log.length).ok) ∨
    (devices s.log).fec = some (staticFec s.effective)
  radio : (j.link.videoRadiotap && !j.link.nicWidth) ∨
    (j.enabledOld ∧ (env.out (s.log.length + 1)).ok) ∨
    (devices s.log).radio = some (staticRadio s.effective)

/-- Before a rebuild: power and MTU are set by the radio script or are in place, and the program
launched as the video TX bakes in the configured values. -/
@[mk_iff] structure RebuildCompletes (s : Sys) (j : Job) : Prop where
  radio : j.subs.radio ∨ ((devices s.log).power = some s.pending.link.txPowerDbm.nic ∧
    (devices s.log).mtu = some s.pending.link.mtu)
  videoTx : ∀ sv ∈ enabledService s.pending "wfb_video_tx",
    ((videoTxOfArgv (sv.exec :: sv.args)).map Prod.fst).or (devices s.log).fec =
        some (staticFec s.pending) ∧
      ((videoTxOfArgv (sv.exec :: sv.args)).map Prod.snd).or (devices s.log).radio =
        some (staticRadio s.pending)

variable {s : Sys} {env : Env} {j : Job}

instance : Decidable (Completes s env j) := decidable_of_iff _ (completes_iff s env j).symm

instance : Decidable (RebuildCompletes s j) := decidable_of_iff _ (rebuildCompletes_iff s j).symm

/-! ## Third part -/

variable {specs : List SupervisedSpec} {β : Type}

theorem lastObs_evs (f : Act → Option β) (g : Ev → Option β) (as : List Act) :
    lastObs (SysEv.obs f g) (s.evs as) = lastObs f as := by
  rw [evs, lastObs_map]
  rfl

def restated {β : Type} (s : Sys) (env : Env) (j : Job) (f : Act → Option β) : Option β :=
  if j.enabledOld then
    lastObs (fun p : Act × ℕ => if (env.out (s.log.length + p.2)).ok then f p.1 else none)
      s.restateActs.zipIdx
  else none

theorem lastObs_outcomes (f : Act → Option β) (g : Ev → Option β) (as : List Act) :
    lastObs (SysEv.obs f g) (s.outcomes env as) =
      lastObs (fun p : Act × ℕ => if (env.out (s.log.length + p.2)).ok then f p.1 else none)
        as.zipIdx := by
  have hev : (SysEv.obs f g ∘ fun p : Act × ℕ => s.ev p.1 (env.out (s.log.length + p.2)).ok) =
      fun p => if (env.out (s.log.length + p.2)).ok then f p.1 else none := by
    funext p
    simp only [Function.comp_apply, ev]
    cases (env.out (s.log.length + p.2)).ok <;> rfl
  rw [outcomes, lastObs_map, hev]

theorem route_off (hnew : j.enabledNew = false) :
    (s.route env j).orch = keptProcs s j ∧
      ∀ {β : Type} {p : Devices → Option β} {f : Act → Option β} {g : Ev → Option β}, Shown p f g →
        p (devices (s.route env j).log) = (restated s env j f).or (p (devices s.log)) := by
  unfold route keptProcs restated
  cases ho : j.enabledOld with
  | false => simp [hnew]
  | true =>
    simp only [hnew, Bool.not_true, Bool.false_and, Bool.not_false, Bool.true_and, if_true,
      Bool.false_eq_true, if_false, restateStaticLink_eq]
    refine ⟨rfl, fun hp => ?_⟩
    rw [grow_log, hp.append, lastObs_outcomes]
    rfl

variable (env) in
theorem finish_shown {p : Devices → Option β} {f : Act → Option β} {g : Ev → Option β}
    (hp : Shown p f g) (hbf : ∀ a b c, f (.beamforming a b c) = none) (hnew : j.enabledNew = false)
    (force : Bool) :
    p (devices (((s.route env j).grow ((s.route env j).evs (s.due j))).reconcileBeamforming
      force).log) = (lastObs f (s.due j)).or ((restated s env j f).or (p (devices s.log))) := by
  have hbf' : ∀ r : Sys, p (devices (r.reconcileBeamforming force).log) = p (devices r.log) := by
    intro r
    unfold reconcileBeamforming note
    rw [grow_log, hp.append]
    simp [lastObs, ev, SysEv.obs, hbf]
  rw [hbf', grow_log, hp.append, lastObs_evs, (route_off hnew).2 hp]

theorem due_shows (hnew : j.enabledNew = false) :
    lastObs Act.power? (s.due j) =
        (if j.link.nicTxpower then some s.effective.link.txPowerDbm.nic else none) ∧
      lastObs Act.mtu? (s.due j) = (if j.link.nicMtu then some s.effective.link.mtu else none) ∧
      lastObs Act.fec? (s.due j) = (if j.link.videoFec then some (staticFec s.effective) else none) ∧
      lastObs Act.radio? (s.due j) = (if j.link.videoRadiotap && !j.link.nicWidth then
        some (staticRadio s.effective) else none) := by
  unfold due
  rw [hnew]
  cases j.link.nicTxpower <;> cases j.link.nicMtu <;> cases j.link.videoFec <;>
    cases j.link.videoRadiotap <;> cases j.link.nicWidth <;> exact ⟨rfl, rfl, rfl, rfl⟩

variable (env) in
theorem restated_shows :
    restated s env j Act.power? =
        (if j.enabledOld ∧ s.radioTuneScript ≠ "" ∧ (env.out (s.log.length + 2)).ok then
          some s.effective.link.txPowerDbm.nic else none) ∧
      restated s env j Act.mtu? = none ∧
      restated s env j Act.fec? = (if j.enabledOld ∧ (env.out s.log.length).ok then
          some (staticFec s.effective) else none) ∧
      restated s env j Act.radio? = (if j.enabledOld ∧ (env.out (s.log.length + 1)).ok then
          some (staticRadio s.effective) else none) := by
  unfold restated restateActs
  cases j.enabledOld with
  | false => simp
  | true =>
    by_cases hs : s.radioTuneScript = "" <;>
      simp [hs, lastObs, List.zipIdx_cons, Act.power?, Act.mtu?, Act.fec?, Act.radio?, fecAct,
        radioAct, radioEnv]

theorem ite_or_eq {c : Prop} [Decidable c] {v : β} {x : Option β} :
    (if c then some v else none).or x = some v ↔ c ∨ x = some v := by
  by_cases hc : c <;> simp [hc]

/-- **A successful third part leaves everything in place iff it completes.** -/
theorem inPlace_finish_iff (hnew : j.enabledNew = false) :
    InPlace ((((s.route env j).grow ((s.route env j).evs (s.due j))).reconcileBeamforming
      j.subs.radio).conclude j) ↔ Completes s env j := by
  obtain ⟨hdp, hdm, hdf, hdr⟩ := due_shows (s := s) hnew
  obtain ⟨hrp, hrm, hrf, hrr⟩ := restated_shows (s := s) env (j := j)
  -- what each device holds afterwards
  have hpower := finish_shown (s := s) env shown_power (fun _ _ _ => rfl) hnew j.subs.radio
  have hmtu := finish_shown (s := s) env shown_mtu (fun _ _ _ => rfl) hnew j.subs.radio
  have hfec := finish_shown (s := s) env shown_fec (fun _ _ _ => rfl) hnew j.subs.radio
  have hradio := finish_shown (s := s) env shown_radio (fun _ _ _ => rfl) hnew j.subs.radio
  rw [hdp, hrp] at hpower
  rw [hdm, hrm, Option.none_or] at hmtu
  rw [hdf, hrf] at hfec
  rw [hdr, hrr] at hradio
  obtain ⟨t, ht⟩ : ∃ t, t = ((s.route env j).grow ((s.route env j).evs
    (s.due j))).reconcileBeamforming j.subs.radio := ⟨_, rfl⟩
  have heff : t.effective = s.effective := by rw [ht]; exact route_effective env j s
  have hiface : t.iface = s.iface := by 
    rw [ht]
    exact congrArg (fun r => ifaceOr r.iface) (route_radio env j s)
  have horch : t.orch = keptProcs s j := by rw [ht]; exact (route_off hnew).1
  rw [← ht] at hpower hmtu hfec hradio ⊢
  have hin : InPlace (t.conclude j) ↔ InPlace t := by
    rw [conclude_eq]
    exact ⟨fun h => ⟨h.names, h.power, h.mtu, h.fec, h.radio⟩,
      fun h => ⟨h.names, h.power, h.mtu, h.fec, h.radio⟩⟩
  rw [hin]
  constructor
  · rintro ⟨h1, h2, h3, h4, h5⟩
    rw [horch, heff, hiface] at h1
    rw [hpower, heff, ite_or_eq, ite_or_eq] at h2
    rw [hmtu, heff, ite_or_eq] at h3
    rw [hfec, heff, ite_or_eq, ite_or_eq] at h4
    rw [hradio, heff, ite_or_eq, ite_or_eq] at h5
    exact ⟨h1, h2, h3, h4, h5⟩
  · rintro ⟨h1, h2, h3, h4, h5⟩
    refine ⟨?_, ?_, ?_, ?_, ?_⟩
    · rw [horch, heff, hiface]
      exact h1
    · rw [hpower, heff, ite_or_eq, ite_or_eq]
      exact h2
    · rw [hmtu, heff, ite_or_eq]
      exact h3
    · rw [hfec, heff, ite_or_eq, ite_or_eq]
      exact h4
    · rw [hradio, heff, ite_or_eq, ite_or_eq]
      exact h5

/-! ## Rebuild -/

theorem launched_shows {f : Act → Option β} {c : Config} {iface : String}
    (hspecs : (seedOrchestrator c iface).startAll = some specs) {b : (ℕ × ℕ) × RadioWord → β}
    (hf : ∀ spec, f (.launch spec) = (bakedVideoTx spec).map b) :
    lastObs f (specs.map .launch) = (videoTxOfArgv
      (((enabledService c "wfb_video_tx").map fun sv => sv.exec :: sv.args).getD
        (wfbArgs c .videoTx iface droneKey))).map b := by
  obtain ⟨spec, hspec, hargs⟩ := Option.map_eq_some_iff.mp (seed_argv_videoTx c iface)
  have hname : spec.name = "wfb_video_tx" := seed_spec?_name hspec
  have hshow : f (.launch spec) = (videoTxOfArgv spec.argv).map b := by
    rw [hf, bakedVideoTx, if_pos hname]
  have hother : ∀ e ∈ specs.map Act.launch, f e = none ∨ f e = f (.launch spec) := by
    intro e he
    obtain ⟨sp, hsp, rfl⟩ := List.mem_map.mp he
    obtain ⟨n, hn⟩ := (Orchestrator.mem_startAll hspecs sp).mp hsp
    by_cases hv : sp.name = "wfb_video_tx"
    · rw [← seed_spec?_name hn, hv] at hn
      rw [Option.some.inj (hn.symm.trans hspec)]
      exact .inr rfl
    · left
      rw [hf, bakedVideoTx, if_neg hv, Option.map_none]
  have hmem : Act.launch spec ∈ specs.map Act.launch :=
    List.mem_map_of_mem ((Orchestrator.mem_startAll hspecs spec).mpr ⟨_, hspec⟩)
  rw [← hargs, ← hshow]
  cases hv : f (.launch spec) with
  | none =>
    rw [hv] at hother
    simpa using lastObs_append_of_none f (t := []) fun e he => (or_self_iff.mp (hother e he))
  | some v =>
    rw [hv] at hother
    exact lastObs_eq_some f hother ⟨_, hmem, hv⟩

variable (env) in
theorem rebuild_shown {p : Devices → Option β} {f : Act → Option β} {g : Ev → Option β}
    (hp : Shown p f g) (hcfg : ∀ c, f (.writeConfig c) = none) (hdoc : ∀ d, f (.writeWaybeam d) = none)
    (hbf : ∀ a b c, f (.beamforming a b c) = none) (specs : List SupervisedSpec) :
    p (devices (((s.committed.vacated j).raised env j).rebuilt env j specs).log) =
      (lastObs f (specs.map .launch)).or
        ((if j.subs.radio then f (.radioUp (s.committed.vacated j).bringUpEnv) else none).or
          (p (devices s.log))) := by
  have hcommitted : p (devices s.committed.log) = p (devices s.log) := by
    unfold committed adopted
    simp only [grow_log]
    rw [hp.append, hp.append]
    simp [lastObs, ev, SysEv.obs, hcfg, hdoc]
  have hraised : p (devices ((s.committed.vacated j).raised env j).log) =
      (if j.subs.radio then f (.radioUp (s.committed.vacated j).bringUpEnv) else none).or
        (p (devices s.log)) := by
    have hv : (s.committed.vacated j).log = s.committed.log := by
      unfold vacated
      split_ifs <;> rfl
    unfold raised
    dsimp only
    split_ifs
    · rw [grow_log, hp.append, hv, hcommitted, lastObs_singleton]
      rfl
    · rw [hv, hcommitted, Option.none_or]
  obtain ⟨a, b, c, hlog⟩ := rebuilt_log env j specs ((s.committed.vacated j).raised env j)
  rw [hlog, hp.append, hp.append, lastObs_singleton, lastObs_evs, hraised]
  simp [ev, SysEv.obs, hbf]

variable (env) in
theorem rebuild_nic_iff {p : Devices → Option β} {f : Act → Option β} {g : Ev → Option β}
    (hp : Shown p f g) (hcfg : ∀ c, f (.writeConfig c) = none) (hdoc : ∀ d, f (.writeWaybeam d) = none)
    (hbf : ∀ a b c, f (.beamforming a b c) = none) (hlaunch : ∀ spec, f (.launch spec) = none) {v : β}
    (hup : f (.radioUp (s.committed.vacated j).bringUpEnv) = some v) (specs : List SupervisedSpec) :
    p (devices (((s.committed.vacated j).raised env j).rebuilt env j specs).log) = some v ↔
      j.subs.radio ∨ p (devices s.log) = some v := by
  have hnone : lastObs f (specs.map .launch) = none := by
    rw [lastObs_map]
    exact lastObs_append_of_none (t := []) _ fun spec _ => hlaunch spec
  rw [rebuild_shown env hp hcfg hdoc hbf, hnone, Option.none_or, hup, ite_or_eq]

theorem rebuild_video_iff
    (hspecs : ((s.committed.vacated j).raised env j).seed.orch.startAll = some specs) :
    (devices (((s.committed.vacated j).raised env j).rebuilt env j specs).log).fec =
        some (staticFec s.pending) ∧
      (devices (((s.committed.vacated j).raised env j).rebuilt env j specs).log).radio =
        some (staticRadio s.pending) ↔
      ∀ sv ∈ enabledService s.pending "wfb_video_tx",
        ((videoTxOfArgv (sv.exec :: sv.args)).map Prod.fst).or (devices s.log).fec =
            some (staticFec s.pending) ∧
          ((videoTxOfArgv (sv.exec :: sv.args)).map Prod.snd).or (devices s.log).radio =
            some (staticRadio s.pending) := by
  have heff : ((s.committed.vacated j).raised env j).effective = s.pending := by
    rw [raised_effective, vacated_effective]
    rfl
  rw [rebuild_shown env shown_fec (fun _ => rfl) (fun _ => rfl) (fun _ _ _ => rfl),
    rebuild_shown env shown_radio (fun _ => rfl) (fun _ => rfl) (fun _ _ _ => rfl),
    launched_shows hspecs (b := Prod.fst) fun _ => rfl,
    launched_shows hspecs (b := Prod.snd) fun _ => rfl, heff]
  cases enabledService s.pending "wfb_video_tx" <;>
    simp [videoTxOfArgv_wfbArgs, Act.fec?, Act.radio?]

theorem inPlace_rebuild_iff
    (hspecs : ((s.committed.vacated j).raised env j).seed.orch.startAll = some specs) :
    InPlace (((s.committed.vacated j).raised env j).rebuilt env j specs) ↔ RebuildCompletes s j := by
  have heff : (((s.committed.vacated j).raised env j).rebuilt env j specs).effective = s.pending := by
    rw [rebuilt_effective, raised_effective, vacated_effective]
    rfl
  have henv : (s.committed.vacated j).bringUpEnv.txPowerDbm = s.pending.link.txPowerDbm ∧
      (s.committed.vacated j).bringUpEnv.mtu = s.pending.link.mtu := by
    unfold bringUpEnv
    rw [vacated_effective]
    exact ⟨rfl, rfl⟩
  have hnames : (((s.committed.vacated j).raised env j).rebuilt env j specs).orch.names =
      (seedOrchestrator s.pending
        (((s.committed.vacated j).raised env j).rebuilt env j specs).iface).names := by
    rw [rebuilt_orch, ← heff, rebuilt_effective, iface, iface, rebuilt_radio]
  have hpower := rebuild_nic_iff (s := s) env (j := j) shown_power (fun _ => rfl)
    (fun _ => rfl) (fun _ _ _ => rfl) (fun _ => rfl) (by rw [Act.power?, henv.1]) specs
  have hmtu := rebuild_nic_iff (s := s) env (j := j) shown_mtu (fun _ => rfl)
    (fun _ => rfl) (fun _ _ _ => rfl) (fun _ => rfl) (by rw [Act.mtu?, henv.2]) specs
  rw [inPlace_iff, heff, hpower, hmtu, rebuild_video_iff hspecs, rebuildCompletes_iff, or_and_left,
    and_assoc]
  exact and_iff_right hnames

/-! ## Runs -/

/-- The next part of the apply under way completes it, dynamic link being off and no worker left. -/
def CompletesNow (s : Sys) (env : Env) : Prop :=
  (∀ j ∈ s.committing, !s.pending.dynamicLink.enabled → s.workers = [] → RebuildCompletes s j) ∧
    ∀ j ∈ s.finishing, !s.effective.dynamicLink.enabled → s.workers = [] → !j.link.nicChannel →
      Completes s env j

/-- Only `apply(true)` is called, and an apply that is about to return success completes. -/
def CompletesEach (s : Sys) : Step → Prop
  | .apply reallyRestart _ => reallyRestart
  | .advance env => returnedOk (s.step (.advance env)) → CompletesNow s env
  | _ => True

instance : Decidable (CompletesNow s env) := inferInstanceAs (Decidable (_ ∧ _))

instance (s : Sys) : ∀ i, Decidable (CompletesEach s i)
  | .apply reallyRestart _ => inferInstanceAs (Decidable (reallyRestart = true))
  | .advance env => inferInstanceAs (Decidable (_ → CompletesNow s env))
  | .patch _ | .reset | .worker _ _ | .round _ _ _ => inferInstanceAs (Decidable True)

/-- After a successful apply everything is in place, dynamic link being off and no worker left. -/
def Settled (s : Sys) : Prop :=
  returnedOk s → s.effective.dynamicLink.enabled = false → s.workers = [] → InPlace s

theorem settled_of_not_ok (h : returnedOk s = false) : Settled s := fun hok => by simp [h] at hok

theorem settled_commit (hreally : j.reallyRestart = true) (hret : s.returned = none)
    (hc : returnedOk ((commit env j).run id s) → s.pending.dynamicLink.enabled = false →
      s.workers = [] → RebuildCompletes s j) : Settled ((commit env j).run id s) := by
  revert hc
  refine commit_cases (R := fun t => (returnedOk t → _ → _ → _) → Settled t)
    (fun _ _ => settled_of_not_ok rfl) (fun _ _ => settled_of_not_ok rfl) (fun hr => ?_)
    (fun _ _ => ?_) (fun _ _ _ => ?_)
  · simp [hreally] at hr
  · refine rebuild_cases (R := fun t => (returnedOk t → _ → _ → _) → Settled t)
      (fun _ _ => settled_of_not_ok rfl) (fun _ _ _ => settled_of_not_ok rfl)
      (fun _ _ => settled_of_not_ok rfl) (fun specs hspecs hc hok hoff hwork => ?_)
    rw [rebuilt_effective, raised_effective, vacated_effective] at hoff
    rw [rebuilt_workers, raised_workers, vacated_workers] at hwork
    exact (inPlace_rebuild_iff hspecs).mpr (hc hok hoff hwork)
  · refine settled_of_not_ok ?_
    have hnone : (s.committed.encoderRestart j).returned = none := by
      rw [encoderRestart_eq]
      split_ifs <;> exact hret
    rw [returnedOk, hnone]

theorem settled_finish (hnew : j.enabledNew = s.effective.dynamicLink.enabled)
    (hc : returnedOk ((finish env j).run id s) → s.effective.dynamicLink.enabled = false →
      s.workers = [] → j.link.nicChannel = false → Completes s env j) :
    Settled ((finish env j).run id s) := by
  revert hc
  refine finish_cases (R := fun t => (returnedOk t → _ → _ → _ → _) → Settled t) ?_
    (fun _ _ _ _ _ _ _ _ => settled_of_not_ok rfl)
  rintro r rfl - hc hok hoff hwork
  rw [route_due] at hc hok hoff hwork ⊢
  have hoff' : s.effective.dynamicLink.enabled = false := by
    rw [conclude_eq] at hoff
    exact (congrArg (·.dynamicLink.enabled) (route_effective env j s)).symm.trans hoff
  have hwork' : s.workers ++ (if j.link.nicChannel then [j.link.nicWidth] else []) = [] := by
    rw [conclude_eq] at hwork
    exact (congrArg (· ++ _) (route_workers env j s)).symm.trans hwork
  rw [List.append_eq_nil_iff] at hwork'
  have hchannel : j.link.nicChannel = false := by
    by_contra hne
    simp [hne] at hwork'
  exact (inPlace_finish_iff (hnew.trans hoff')).mpr (hc hok hoff' hwork'.1 hchannel)

/-- Every apply under way is an `apply(true)`. -/
def ReallyRestarts (s : Sys) : Prop := ∀ p j, s.job = some (p, j) → j.reallyRestart = true

theorem reallyRestarts_step (i : Step) (h : ReallyRestarts s) (hc : CompletesEach s i) :
    ReallyRestarts (s.step i) := by
  intro p j hj
  cases moved_step s i with
  | stays hjob => exact h p j (hjob ▸ hj)
  | idles hjob => simp [hjob] at hj
  | begins reallyRestart env hi _ hjob =>
    subst hi
    obtain ⟨-, rfl⟩ : Point.commit = p ∧ Job.of reallyRestart s.effective s.pending = j := by
      simpa [hjob] using hj
    exact hc
  | returns _ _ hjob => simp [hjob] at hj
  | goesOn j' _ hreally _ hjob =>
    obtain ⟨-, rfl⟩ : Point.finish = p ∧ j' = j := by simpa [hjob] using hj
    exact hreally

theorem settled_step (i : Step) (hw : WellFormed s) (hr : ReallyRestarts s)
    (hc : CompletesEach s i) : Settled (s.step i) := by
  -- the condition, as one on the state that the step leaves
  have hc' : ∀ env, i = .advance env → returnedOk (s.step i) → CompletesNow s env := by
    rintro env rfl
    exact hc
  revert hc'
  refine step_cases
    (R := fun t => (∀ env, i = .advance env → returnedOk t → CompletesNow s env) → Settled t) rfl
    (fun _ => settled_of_not_ok rfl) (fun _ _ _ _ => settled_of_not_ok rfl) (fun _ _ _ _ _ => ?_)
    ?_ ?_ (fun _ _ _ => settled_of_not_ok rfl) (fun _ _ _ _ _ => ?_) (fun _ _ _ _ _ => ?_)
  · exact begin_cases (fun _ _ => settled_of_not_ok rfl) (fun _ _ _ _ _ => settled_of_not_ok rfl)
      (fun _ _ _ => settled_of_not_ok rfl)
  · rintro env j hi hj hc'
    refine settled_commit (hr _ j hj) rfl fun hok hoff hwork => ?_
    have h := (hc' env hi hok).1 j (by simp [committing, hj]) (by simpa using hoff) hwork
    exact ⟨h.radio, h.videoTx⟩
  · rintro env j hi hj hc'
    obtain ⟨-, -, old, hof⟩ := hw.finish j hj
    refine settled_finish (by rw [hof]; rfl) fun hok hoff hwork hchannel => ?_
    have h := (hc' env hi hok).2 j (by simp [finishing, hj]) (by simpa using hoff) hwork
      (by simpa using hchannel)
    exact ⟨h.names, h.power, h.mtu, h.fec, h.radio⟩
  · refine worker_cases (settled_of_not_ok rfl) ?_ ?_ ?_
    · rintro w o rfl
      exact settled_of_not_ok rfl
    · rintro w rfl
      exact settled_of_not_ok rfl
    · rintro w ok o rfl - -
      cases ok <;> exact settled_of_not_ok rfl
  · unfold dlRound
    split <;> exact settled_of_not_ok rfl

def Env.failAt (n : ℕ) : Env := { out := fun i => { ok := i ≠ n, iface := "wlan0" } }

def powerChangedAgain : List Step :=
  [.patch (.obj [("link", .obj [("txPowerDbm", .int 10)])]), .apply true .allOk, .advance .allOk,
   .advance (.failAt 13), .patch (.obj [("link", .obj [("txPowerDbm", .int 11)])]),
   .apply true .allOk, .advance .allOk, .advance .allOk]

def powerRetried : List Step :=
  [.patch (.obj [("link", .obj [("txPowerDbm", .int 10)])]), .apply true .allOk, .advance .allOk,
   .advance (.failAt 13), .apply true .allOk, .advance .allOk, .advance .allOk]

end Fpvd
