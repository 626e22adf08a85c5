import Fpvd.Daemon.Frame

/-!
# Fpvd.Daemon.Respawn — the command lines that a respawn uses

A supervisor relaunches a crashed process with the spec it was registered with
(`drone/src/supervise/supervisor.cpp`).  Seeding registers every process from the effective
configuration, an encoder restart registers `msposd` anew, and a hot apply registers nothing.
-/

namespace Fpvd

open Run Sys Orchestrator

/-! ## Registered command lines -/

def Sys.respawnArgv (name : String) (s : Sys) : Option (List String) :=
  (s.orch.spec? name).map SupervisedSpec.argv

/-- The registered command lines are those of the effective configuration. -/
structure Respawns (s : Sys) : Prop where
  videoTx : s.respawnArgv "wfb_video_tx" = some (wfbArgs s.effective .videoTx s.iface droneKey)
  msposd : s.effective.telemetry.router = "msposd" →
    s.respawnArgv "msposd" = some (telemetryArgs s.effective)

/-- Nothing was registered: the radio did not come up when the daemon started. -/
structure Unstarted (s : Sys) : Prop where
  videoTx : s.respawnArgv "wfb_video_tx" = none
  msposd : s.respawnArgv "msposd" = none

/-- No service takes the name of the video TX or of the telemetry router `msposd` with a command line
of its own. -/
@[mk_iff] structure Unshadowed (c : Config) (iface : String) : Prop where
  videoTx : Agrees c "wfb_video_tx" (wfbArgs c .videoTx iface droneKey)
  msposd : c.telemetry.router = "msposd" → Agrees c "msposd" (telemetryArgs c)

/-- The interface that a rebuild seeds the processes for.  The radio script runs after both files are
written. -/
def Sys.seedIface (env : Env) (j : Job) (s : Sys) : String :=
  if j.reallyRestart && j.subs.radio then ifaceOr (env.out (s.log.length + 2)).iface else s.iface

/-- A commit that seeds the processes meets no shadowing service, and a hot one leaves the command line
of a registered video TX as it is. -/
def KeepsLines (s : Sys) : Step → Prop
  | .advance env => ∀ j ∈ s.committing,
    if j.reallyRestart && !j.needsRebuild then
      (s.respawnArgv "wfb_video_tx").isSome →
        wfbArgs s.pending .videoTx s.iface droneKey = wfbArgs s.effective .videoTx s.iface droneKey
    else Unshadowed s.pending (s.seedIface env j)
  | _ => True

def KeepsLinesOk (s : Sys) (i : Step) : Prop := KeepsLines s i ∧ failed (s.step i) = false

instance (c : Config) (iface : String) : Decidable (Unshadowed c iface) :=
  decidable_of_iff _ (unshadowed_iff c iface).symm

instance (s : Sys) : ∀ i, Decidable (KeepsLines s i)
  | .advance _ => inferInstanceAs (Decidable (∀ j ∈ s.committing, _))
  | .patch _ | .apply _ _ | .reset | .worker _ _ | .round _ _ _ => inferInstanceAs (Decidable True)

instance (s : Sys) (i : Step) : Decidable (KeepsLinesOk s i) := inferInstanceAs (Decidable (_ ∧ _))

/-! ## Steps that register nothing -/

section Steps

variable {s t : Sys} {env : Env} {j : Job}

/-- Configuration, interface and the two registered command lines are as before. -/
structure SameLines (s t : Sys) : Prop where
  effective : t.effective = s.effective
  iface : t.iface = s.iface
  videoTx : t.respawnArgv "wfb_video_tx" = s.respawnArgv "wfb_video_tx"
  msposd : t.respawnArgv "msposd" = s.respawnArgv "msposd"

def Follows (s t : Sys) : Prop := (Unstarted s → Unstarted t ∨ Respawns t) ∧ (Respawns s → Respawns t)

theorem SameLines.follows (h : SameLines s t) : Follows s t := by
  refine ⟨fun hs => .inl ⟨h.videoTx.trans hs.videoTx, h.msposd.trans hs.msposd⟩, fun hs => ⟨?_, ?_⟩⟩
  · rw [h.videoTx, h.effective, h.iface]
    exact hs.videoTx
  · rw [h.msposd, h.effective]
    exact hs.msposd

theorem Follows.trans {u : Sys} (h : Follows s t) (h' : Follows t u) : Follows s u :=
  ⟨fun hs => (h.1 hs).elim h'.1 fun ht => .inr (h'.2 ht), fun hs => h'.2 (h.2 hs)⟩

theorem Follows.of_respawns (h : Respawns t) : Follows s t := ⟨fun _ => .inr h, fun _ => h⟩

theorem sameLines_route (env : Env) (j : Job) (s : Sys) : SameLines s (s.route env j) where
  effective := route_effective env j s
  iface := congrArg (fun r : RadioInfo => ifaceOr r.iface) (route_radio env j s)
  videoTx := congrArg (Option.map _) (route_spec? env j s (by decide))
  msposd := congrArg (Option.map _) (route_spec? env j s (by decide))

theorem sameLines_finish : SameLines s ((finish env j).run id s) := by
  have hroute := sameLines_route env j s
  refine finish_cases ?_ ?_
  · rintro r rfl -
    rw [conclude_eq]
    exact ⟨hroute.effective, hroute.iface, hroute.videoTx, hroute.msposd⟩
  · rintro r rfl l a last err -
    exact ⟨hroute.effective, hroute.iface, hroute.videoTx, hroute.msposd⟩

/-! ## Seeding -/

theorem respawns_of_seed (h : Unshadowed t.effective t.iface)
    (ho : t.orch = seedOrchestrator t.effective t.iface) : Respawns t := by
  constructor
  · rw [respawnArgv, ho, seed_argv_videoTx, h.videoTx.getD]
  · intro hr
    rw [respawnArgv, ho, seed_argv_msposd _ hr, (h.msposd hr).getD]

/-! ## Hot commits -/

theorem encoderRestart_respawnArgv (j : Job) (s : Sys) (n : String) :
    (s.encoderRestart j).respawnArgv n =
      if j.encRestart ∧ n = "msposd" ∧ s.effective.telemetry.router = "msposd" ∧
          s.orch.spec? "msposd" ≠ none then
        some (telemetryArgs s.effective)
      else s.respawnArgv n := by
  unfold respawnArgv
  rw [encoderRestart_spec?]
  split_ifs <;> rfl

theorem telemetry_hot {a b : Config} (hn : (Job.of true a b).needsRebuild = false) :
    a.telemetry = b.telemetry := by
  unfold Job.needsRebuild at hn
  simp only [Bool.or_eq_false_iff] at hn
  have hsubs : (diffSubsystems a b).telemetry = false := hn.1.1
  exact Telemetry.toJson_inj.mp (by simpa [diffSubsystems] using hsubs)

theorem telemetryArgs_hot {a b : Config} (hn : (Job.of true a b).needsRebuild = false)
    (he : (Job.of true a b).encRestart = false) : telemetryArgs b = telemetryArgs a := by
  have hres : a.video.resolution = b.video.resolution := by
    by_contra hne
    simp [Job.encRestart, Job.of, waybeamConfigDiff, restartDiff, fieldIf, hne] at he
  unfold telemetryArgs
  rw [telemetry_hot hn, hres]

theorem follows_hot (hj : j = Job.of true s.effective s.pending) (hn : j.needsRebuild = false)
    (hline : (s.respawnArgv "wfb_video_tx").isSome →
      wfbArgs s.pending .videoTx s.iface droneKey = wfbArgs s.effective .videoTx s.iface droneKey) :
    Follows s (s.committed.encoderRestart j) := by
  have hvideo : (s.committed.encoderRestart j).respawnArgv "wfb_video_tx" =
      s.respawnArgv "wfb_video_tx" := by
    rw [encoderRestart_respawnArgv, if_neg (by simp)]
    rfl
  have heff : (s.committed.encoderRestart j).effective = s.pending := encoderRestart_effective j _
  have hiface : (s.committed.encoderRestart j).iface = s.iface := encoderRestart_iface j _
  constructor
  · rintro ⟨hv, hm⟩
    refine .inl ⟨hvideo.trans hv, ?_⟩
    rw [encoderRestart_respawnArgv, if_neg fun h => h.2.2.2 (Option.map_eq_none_iff.mp hm)]
    exact hm
  · rintro ⟨hv, hm⟩
    refine ⟨?_, fun hr => ?_⟩
    · rw [hvideo, heff, hiface, hline (by simp [hv])]
      exact hv
    · rw [heff] at hr ⊢
      -- the router was `msposd` before, so the process is registered
      have hm := hm (by rw [telemetry_hot (hj ▸ hn)]; exact hr)
      rw [encoderRestart_respawnArgv]
      cases he : j.encRestart with
      | true =>
        refine if_pos ⟨rfl, rfl, hr, fun hnone => ?_⟩
        rw [respawnArgv, show s.orch.spec? "msposd" = none from hnone] at hm
        cases hm
      | false =>
        rw [if_neg (by simp), telemetryArgs_hot (hj ▸ hn) (hj ▸ he)]
        exact hm

/-! ## Steps -/

theorem raised_iface (env : Env) (j : Job) (s : Sys) :
    (s.raised env j).iface =
      if j.subs.radio then ifaceOr (env.out s.log.length).iface else s.iface := by
  unfold raised
  dsimp only
  split_ifs <;> rfl

theorem raised_seedIface (hreally : j.reallyRestart = true) :
    ((s.committed.vacated j).raised env j).iface = s.seedIface env j := by
  have hlog : (s.committed.vacated j).log.length = s.log.length + 2 := by
    simp [committed, adopted]
  have hradio : (s.committed.vacated j).iface = s.iface := by
    unfold vacated
    split_ifs <;> rfl
  rw [raised_iface, hlog, hradio, seedIface, hreally, Bool.true_and]

theorem raised_pending : ((s.committed.vacated j).raised env j).effective = s.pending := by
  rw [raised_effective, vacated_effective]
  rfl

theorem rebuilt_iface (env : Env) (j : Job) (specs : List SupervisedSpec) (s : Sys) :
    (s.rebuilt env j specs).iface = s.iface :=
  congrArg (fun r : RadioInfo => ifaceOr r.iface) (rebuilt_radio env j specs s)

theorem follows_rebuild (hreally : j.reallyRestart = true)
    (hu : Unshadowed s.pending (s.seedIface env j)) :
    failed ((rebuild env j).run id s.committed) = false →
      Follows s ((rebuild env j).run id s.committed) := by
  refine rebuild_cases (R := fun t => failed t = false → Follows s t) (fun _ h => by cases h)
    (fun _ _ h => by cases h) (fun _ h => by cases h) (fun specs _ _ => .of_respawns ?_)
  refine respawns_of_seed ?_ ?_
  · rw [rebuilt_effective, rebuilt_iface, raised_pending, raised_seedIface hreally]
    exact hu
  · rw [rebuilt_orch, rebuilt_effective, rebuilt_iface]

theorem follows_commit (hw : WellFormed s) (hjob : s.job = some (.commit, j))
    (hk : KeepsLines s (.advance env)) (hok : failed ((commit env j).run id s) = false) :
    Follows s ((commit env j).run id s) := by
  have hof := (hw.commit j hjob).1
  have hk := hk j (by rw [committing, hjob]; rfl)
  revert hok
  refine commit_cases (R := fun t => failed t = false → Follows s t) (fun _ h => by cases h)
    (fun _ h => by cases h) (fun hr _ => ?_) (fun hr hn => ?_) (fun hr hn _ => ?_)
  · simp only [hr, Bool.false_and, Bool.false_eq_true, if_false] at hk
    refine .of_respawns (respawns_of_seed ?_ rfl)
    rw [seedIface, hr] at hk
    exact hk
  · simp only [hr, hn, Bool.not_true, Bool.and_false, Bool.false_eq_true, if_false] at hk
    exact follows_rebuild hr hk
  · simp only [hr, hn, Bool.not_false, Bool.and_self, if_true] at hk
    exact follows_hot (hr ▸ hof) hn hk

theorem follows_step (i : Step) (hw : WellFormed s) (hk : KeepsLinesOk s i) :
    Follows s (s.step i) := by
  obtain ⟨hk, hok⟩ := hk
  have hidle : SameLines s { s with returned := none } := ⟨rfl, rfl, rfl, rfl⟩
  revert hok
  refine step_cases (R := fun t => failed t = false → Follows s t) rfl (fun _ => hidle.follows)
    (fun _ _ _ _ => SameLines.follows ⟨rfl, rfl, rfl, rfl⟩) (fun reallyRestart env _ _ _ => ?_)
    (fun env j hi hj hok => ?_) (fun env j _ _ _ => ?_)
    (fun _ _ _ => SameLines.follows ⟨rfl, rfl, rfl, rfl⟩) (fun k env _ _ _ => ?_) (fun _ _ _ _ _ => ?_)
  · refine SameLines.follows (begin_cases (fun _ _ => ⟨rfl, rfl, rfl, rfl⟩)
      (fun _ _ _ _ _ => ⟨rfl, rfl, rfl, rfl⟩) (fun _ _ _ => ⟨rfl, rfl, rfl, rfl⟩))
  · subst hi
    exact hidle.follows.trans (follows_commit ⟨hw.valid, hw.commit, hw.finish⟩ hj hk hok)
  · exact hidle.follows.trans sameLines_finish.follows
  · refine SameLines.follows (worker_cases ⟨rfl, rfl, rfl, rfl⟩ ?_ ?_ ?_)
    · rintro w o rfl
      exact ⟨rfl, rfl, rfl, rfl⟩
    · rintro w rfl
      exact ⟨rfl, rfl, rfl, rfl⟩
    · rintro w ok o rfl - -
      cases ok <;> exact ⟨rfl, rfl, rfl, rfl⟩
  · unfold dlRound
    split <;> exact SameLines.follows ⟨rfl, rfl, rfl, rfl⟩

end Steps

/-! ## Runs -/

section Runs

variable {radioTuneScript : String} {c : Config} {env : Env} {s₀ : Sys}

theorem respawns_bootstrap (hboot : bootstrap radioTuneScript c env = .ok s₀)
    (hc : Unshadowed c s₀.iface) : Unstarted s₀ ∨ Respawns s₀ := by
  revert hc
  refine startProcesses_cases (R := fun s => Unshadowed c s.iface → Unstarted s ∨ Respawns s)
    (bootstrap_ok hboot).2 (fun _ _ _ => .inl ⟨rfl, rfl⟩) ?_
  rintro r radio specs rfl - u rfl hc
  refine .inr ?_
  split_ifs at hc ⊢ <;> exact respawns_of_seed hc rfl

/-- **A respawn comes back with the committed settings**: in a run in which no apply fails, whose hot
commits leave the video TX command line and whose seeds are not shadowed by a service, the registered
command lines are those of the effective configuration, or nothing was ever registered. -/
theorem respawn_current (hboot : bootstrap radioTuneScript c env = .ok s₀)
    (hc : Unshadowed c s₀.iface) (is : List Step) (hk : Meets Sys.step KeepsLinesOk s₀ is) :
    (Unstarted s₀ ∧ Unstarted (is.foldl Sys.step s₀)) ∨ Respawns (is.foldl Sys.step s₀) := by
  have hinv := Meets.invariant
    (I := fun s => WellFormed s ∧ (Unstarted s₀ ∧ Unstarted s ∨ Respawns s))
    (fun s i hs hi => ⟨wellFormed_step s i hs.1, ?_⟩) is s₀
    ⟨wellFormed_bootstrap hboot, (respawns_bootstrap hboot hc).imp_left fun h => ⟨h, h⟩⟩ hk
  · exact hinv.2
  · obtain ⟨hbare, hlined⟩ := follows_step i hs.1 hi
    rcases hs.2 with ⟨h₀, hs⟩ | hs
    · exact (hbare hs).imp_left fun h => ⟨h₀, h⟩
    · exact .inr (hlined hs)

end Runs

def osdResized : List Step :=
  [.patch (.obj [("link", .obj [("linkId", .int 7)])]), .apply true .allOk, .advance .allOk,
   .patch (.obj [("video", .obj [("resolution", .str "1280x720")])]), .apply true .allOk,
   .advance .allOk, .advance .allOk]

theorem respawn_current_osdResized : Meets Sys.step KeepsLinesOk parked osdResized ∧
    Respawns (osdResized.foldl Sys.step parked) := by
  have hmeets : Meets Sys.step KeepsLinesOk parked osdResized := by decide +kernel
  have hstarted : parked.respawnArgv "wfb_video_tx" ≠ none := by decide +kernel
  have h := respawn_current (bootstrap_get _) (by decide +kernel) osdResized hmeets
  exact ⟨hmeets, h.resolve_left fun h => hstarted h.1.videoTx⟩

def mcsChanged : List Step :=
  [.patch (.obj [("link", .obj [("mcs", .int 3)])]), .apply true .allOk, .advance .allOk,
   .advance .allOk]

/-- The apply succeeds, and the video TX would still come back with the MCS of before. -/
theorem respawn_stale : returnedOk (mcsChanged.foldl Sys.step parked) = true ∧
    (mcsChanged.foldl Sys.step parked).effective.link.mcs = 3 ∧
    (mcsChanged.foldl Sys.step parked).respawnArgv "wfb_video_tx" =
      some (wfbArgs {} .videoTx "wlan0" droneKey) ∧
    ¬ Respawns (mcsChanged.foldl Sys.step parked) := by
  refine ⟨by decide +kernel, by decide +kernel, by decide +kernel, fun h => ?_⟩
  exact absurd h.videoTx (by decide +kernel)

end Fpvd
