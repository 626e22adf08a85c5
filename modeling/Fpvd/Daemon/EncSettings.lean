import Fpvd.Daemon.Frame

/-!
# Fpvd.Daemon.EncSettings — the encoder's settings while dynamic link is off

While dynamic link is enabled, changes of the fields that the control thread owns are committed without a
push, and turning dynamic link off restates bitrate and ROI QP only.
-/

namespace Fpvd

open Run Sys DynLink

/-! ## Fields of the encoder -/

def EncState.restartPart (e : EncState) : EncState :=
  { e with
    bitrate := 0, fps := 0, qpDelta := 0, gopSize := 0
    roiEnabled := false, roiQp := 0, roiSteps := 0, roiCenter := 0 }

/-- The live fields that turning dynamic link off does not restate. -/
structure EncState.SameUnstated (e e' : EncState) : Prop where
  fps : e.fps = e'.fps
  qpDelta : e.qpDelta = e'.qpDelta
  gopSize : e.gopSize = e'.gopSize
  roiEnabled : e.roiEnabled = e'.roiEnabled
  roiSteps : e.roiSteps = e'.roiSteps
  roiCenter : e.roiCenter = e'.roiCenter

instance (e e' : EncState) : Decidable (e.SameUnstated e') :=
  decidable_of_iff (e.fps = e'.fps ∧ e.qpDelta = e'.qpDelta ∧ e.gopSize = e'.gopSize ∧
      e.roiEnabled = e'.roiEnabled ∧ e.roiSteps = e'.roiSteps ∧ e.roiCenter = e'.roiCenter)
    ⟨fun ⟨h₁, h₂, h₃, h₄, h₅, h₆⟩ => ⟨h₁, h₂, h₃, h₄, h₅, h₆⟩,
      fun h => ⟨h.fps, h.qpDelta, h.gopSize, h.roiEnabled, h.roiSteps, h.roiCenter⟩⟩

/-- A live push from `a` to `b` writes its numbers exactly. -/
structure ExactPush (a b : Config) : Prop where
  gopSize : a.video.gopSize ≠ b.video.gopSize → fmtDouble b.video.gopSize = b.video.gopSize
  roiCenter : a.video.roi.center ≠ b.video.roi.center →
    fmtDouble b.video.roi.center = b.video.roi.center

instance (a b : Config) : Decidable (ExactPush a b) :=
  decidable_of_iff
    ((a.video.gopSize ≠ b.video.gopSize → fmtDouble b.video.gopSize = b.video.gopSize) ∧
      (a.video.roi.center ≠ b.video.roi.center →
        fmtDouble b.video.roi.center = b.video.roi.center))
    ⟨fun h => ⟨h.1, h.2⟩, fun h => ⟨h.gopSize, h.roiCenter⟩⟩

theorem restartPart_live (a b : Config) (dl : Bool) (e : EncState) :
    (e.setAll (waybeamConfigDiff a b dl).live).restartPart = e.restartPart := by
  rw [setAll_live]
  rfl

theorem fieldIf_eq_nil {changed : Bool} {f : EncField} : fieldIf changed f = [] ↔ changed = false := by
  cases changed <;> simp [fieldIf]

theorem restartPart_of_restartDiff {a b : Config} (h : restartDiff a b = []) :
    (EncState.ofConfig a).restartPart = (EncState.ofConfig b).restartPart := by
  simp only [restartDiff, List.append_eq_nil_iff, fieldIf_eq_nil, decide_eq_false_iff_not,
    not_not, and_assoc] at h
  simp [EncState.restartPart, EncState.ofConfig, h]

theorem setAll_live_ofConfig {a b : Config} (hr : restartDiff a b = []) (hx : ExactPush a b) :
    (EncState.ofConfig a).setAll (waybeamConfigDiff a b false).live = EncState.ofConfig b := by
  have hpart := restartPart_of_restartDiff hr
  -- a pushed value is the new one, and a value that is not pushed did not change
  have hset : ∀ {α : Type} [DecidableEq α] {x y : α}, (if x ≠ y then y else x) = y := by
    intro α _ x y
    by_cases h : x = y <;> simp [h]
  have hgop : (if a.video.gopSize ≠ b.video.gopSize then fmtDouble b.video.gopSize
      else a.video.gopSize) = b.video.gopSize := by
    split_ifs with h
    · exact hx.gopSize h
    · exact not_not.mp h
  have hcenter : (if a.video.roi.center ≠ b.video.roi.center then fmtDouble b.video.roi.center
      else a.video.roi.center) = b.video.roi.center := by
    split_ifs with h
    · exact hx.roiCenter h
    · exact not_not.mp h
  rw [setAll_live]
  simp only [EncState.restartPart, EncState.ofConfig, EncState.mk.injEq, true_and] at hpart ⊢
  simp only [Bool.not_false, Bool.true_and, decide_eq_true_eq, hset, hgop, hcenter, hpart, and_self]

theorem EncState.eq_of_parts {e e' : EncState} (hb : e.bitrate = e'.bitrate) (hq : e.roiQp = e'.roiQp)
    (hu : e.SameUnstated e') (hr : e.restartPart = e'.restartPart) : e = e' := by
  obtain ⟨hfps, hqp, hgop, hre, hsteps, hcenter⟩ := hu
  cases e
  cases e'
  simp only [EncState.restartPart, EncState.mk.injEq, true_and] at *
  exact ⟨hb, hfps, hqp, hgop, hre, hq, hsteps, hcenter, hr⟩

/-! ## Acts and the encoder -/

def SupervisedSpec.isEncoder (spec : SupervisedSpec) : Bool :=
  spec.name = "waybeam" ∧ spec.argv = waybeamArgv

def Act.sparesEnc : Act → Bool
  | .encSet _ => false
  | .launch spec => !spec.isEncoder
  | _ => true

def Sys.encoder (s : Sys) : Option EncState := (devices s.log).enc

theorem exec_spared (s : Sys) {a : Act} (ha : a.sparesEnc = true) (ok : Bool) (d : Devices) :
    (d.exec (s.ev a ok)).enc = d.enc := by
  cases ok with
  | false => rfl
  | true =>
    cases a
    case tune a _ => cases a <;> rfl
    case launch spec =>
      refine if_neg fun h => ?_
      simp [Act.sparesEnc, SupervisedSpec.isEncoder, h] at ha
    case encSet => cases ha
    all_goals rfl

theorem encoder_grow_spared (s t : Sys) {a : Act} (ha : a.sparesEnc = true) (ok : Bool) :
    (t.grow [s.ev a ok]).encoder = t.encoder := by
  rw [Sys.encoder, grow_log, devices_concat, exec_spared s ha]
  rfl

theorem enc_evs_spared (s : Sys) {as : List Act} (h : ∀ a ∈ as, a.sparesEnc = true)
    (log : List SysEv) : (devices (log ++ s.evs as)).enc = (devices log).enc := by
  induction as using List.reverseRecOn with
  | nil => rw [evs, List.map_nil, List.append_nil]
  | append_singleton as a ih =>
    have hevs : s.evs (as ++ [a]) = s.evs as ++ [s.ev a true] := List.map_append
    rw [hevs, ← List.append_assoc, devices_concat, exec_spared s (h a (by simp))]
    exact ih fun a' ha' => h a' (List.mem_append_left _ ha')

theorem enc_launches {c : Config} (specs : List SupervisedSpec) (s : Sys) {log : List SysEv}
    (hfile : (devices log).waybeamFile = toWaybeamJson c) :
    (devices (log ++ s.evs (specs.map .launch))).waybeamFile = toWaybeamJson c ∧
    (devices (log ++ s.evs (specs.map .launch))).enc =
      if specs.any SupervisedSpec.isEncoder then some (.ofConfig c) else (devices log).enc := by
  induction specs using List.reverseRecOn with
  | nil => simpa [evs] using hfile
  | append_singleton specs spec ih =>
    obtain ⟨ihfile, ihenc⟩ := ih
    have hlog : log ++ s.evs ((specs ++ [spec]).map .launch) =
        log ++ s.evs (specs.map .launch) ++ [s.ev (.launch spec) true] := by simp [evs]
    rw [hlog, devices_concat]
    refine ⟨ihfile, ?_⟩
    show (if spec.name = "waybeam" ∧ spec.argv = waybeamArgv then
      (EncState.load (devices (log ++ s.evs (specs.map .launch))).waybeamFile).toOption else _) = _
    rw [ihfile, load_toWaybeamJson, ihenc, List.any_append]
    by_cases hspec : spec.name = "waybeam" ∧ spec.argv = waybeamArgv
    · simp [hspec, SupervisedSpec.isEncoder, Except.toOption]
    · have hnot : spec.isEncoder = false := by simpa [SupervisedSpec.isEncoder] using hspec
      simp [hspec, hnot]

theorem restartPart_dl (log : List SysEv) (t : List Ev) :
    ∀ e ∈ (devices (log ++ t.map SysEv.dl)).enc, ∃ e₀ ∈ (devices log).enc,
      e.restartPart = e₀.restartPart := by
  induction t using List.reverseRecOn with
  | nil => simpa using fun e he => ⟨e, he, rfl⟩
  | append_singleton t ev ih =>
    intro e he
    rw [List.map_append, ← List.append_assoc, List.map_singleton, devices_concat, exec_dl_enc] at he
    cases hev : ev.enc? with
    | none =>
      rw [hev] at he
      exact ih e he
    | some f =>
      rw [hev] at he
      obtain ⟨e₁, he₁, rfl⟩ := Option.map_eq_some_iff.mp he
      exact ih e₁ he₁

/-! ## The conditions of a run -/

/-- Applies are `apply(true)`, none fails, and every push of one succeeds. -/
def AllSucceed (s : Sys) (i : Step) : Prop :=
  failed (s.step i) = false ∧
    match i with
    | .apply reallyRestart _ => reallyRestart = true
    | .advance env => ∀ n, (env.out n).ok = true
    | _ => True

/-- The apply under way goes from off to off without a restart of the encoder. -/
def Job.pushesOnly (j : Job) : Bool :=
  !j.enabledOld && !j.enabledNew && !j.needsRebuild && !j.encRestart

/-- With dynamic link off a live push is exact; a rebuild starts the encoder under its own name; and when
dynamic link is turned off, the encoder has the live fields that are not restated. -/
def KeepsSettings (s : Sys) : Step → Prop
  | .apply _ _ => s.job = none → (Job.of true s.effective s.pending).pushesOnly = true →
    ExactPush s.effective s.pending
  | .advance _ =>
    (∀ j ∈ s.committing, j.needsRebuild = true → Agrees s.pending "waybeam" waybeamArgv) ∧
    ∀ j ∈ s.finishing, j.enabledOld = true → j.enabledNew = false →
      ∀ e ∈ s.encoder, e.SameUnstated (.ofConfig s.effective)
  | _ => True

instance (s : Sys) : ∀ i, Decidable (KeepsSettings s i)
  | .apply _ _ => inferInstanceAs (Decidable (s.job = none → _ = true → ExactPush _ _))
  | .advance _ => inferInstanceAs (Decidable ((∀ j ∈ s.committing, _ → Agrees _ _ _) ∧
      ∀ j ∈ s.finishing, _ → _ → ∀ e ∈ s.encoder, EncState.SameUnstated _ _))
  | .patch _ | .reset | .worker _ _ | .round _ _ _ => inferInstanceAs (Decidable True)

/-! ## Invariant -/

def Sys.settled (s : Sys) : Option EncState :=
  match s.job with
  | none => if s.effective.dynamicLink.enabled then none else some (.ofConfig s.effective)
  | some (.commit, j) => if j.pushesOnly then some (.ofConfig s.pending) else none
  | some (.finish, j) =>
    if j.enabledOld || j.enabledNew then none else some (.ofConfig s.effective)

/-- May the control thread be running?  Until the third part of an apply the old setting counts. -/
def Sys.mayRun (s : Sys) : Bool :=
  match s.job with
  | some (.finish, j) => j.enabledOld
  | _ => s.effective.dynamicLink.enabled

structure Settings (s : Sys) : Prop where
  really : ∀ p j, s.job = some (p, j) → j.reallyRestart = true
  registered : s.encoder.isSome → ∃ spec, s.orch.spec? "waybeam" = some spec ∧ spec.isEncoder = true
  restart : ∀ e ∈ s.encoder, e.restartPart = (EncState.ofConfig s.effective).restartPart
  settled : ∀ v ∈ s.settled, ∀ e ∈ s.encoder, e = v
  running : s.dl.isSome → s.mayRun = true

section Steps

variable {s t : Sys} {env : Env} {j : Job}

theorem Settings.frame (h : Settings s) (henc : t.encoder = s.encoder) (hjob : t.job = s.job)
    (heff : t.effective = s.effective) (hset : t.settled = s.settled)
    (horch : t.orch.spec? "waybeam" = s.orch.spec? "waybeam") (hdl : t.dl.isSome → s.dl.isSome) :
    Settings t where
  really := by rw [hjob]; exact h.really
  registered := by rw [henc, horch]; exact h.registered
  restart := by rw [henc, heff]; exact h.restart
  settled := by rw [hset, henc]; exact h.settled
  running hr := by
    rw [Sys.mayRun, hjob, heff]
    exact h.running (hdl hr)

theorem Settings.of_idle (hjob : t.job = none)
    (hreg : t.encoder.isSome → ∃ spec, t.orch.spec? "waybeam" = some spec ∧ spec.isEncoder = true)
    (hpart : ∀ e ∈ t.encoder, e.restartPart = (EncState.ofConfig t.effective).restartPart)
    (hoff : t.effective.dynamicLink.enabled = false → ∀ e ∈ t.encoder, e = .ofConfig t.effective)
    (hrun : t.dl.isSome → t.effective.dynamicLink.enabled = true) : Settings t where
  really p j hj := by simp [hjob] at hj
  registered := hreg
  restart := hpart
  settled v hv := by
    simp only [Sys.settled, hjob] at hv
    split_ifs at hv with hon
    · cases hv
    · rw [← Option.some.inj hv]
      exact hoff (by simpa using hon)
  running hr := by
    rw [Sys.mayRun, hjob]
    exact hrun hr

theorem settled_of_mayRun (hw : WellFormed s) (hr : s.mayRun = true) : s.settled = none := by
  cases hj : s.job with
  | none =>
    simp only [Sys.mayRun, hj] at hr
    simp [Sys.settled, hj, hr]
  | some pj =>
    obtain ⟨p, j⟩ := pj
    cases p with
    | commit =>
      have hold : j.enabledOld = s.effective.dynamicLink.enabled :=
        congrArg Job.enabledOld (hw.commit j hj).1
      simp only [Sys.mayRun, hj] at hr
      simp [Sys.settled, hj, Job.pushesOnly, hold, hr]
    | finish =>
      simp only [Sys.mayRun, hj] at hr
      simp [Sys.settled, hj, hr]

theorem settings_round {ack : ℕ → Bool} {wake : Bool} {r : Round} (hw : WellFormed s) (h : Settings s) :
    Settings (s.dlRound ack wake r) := by
  unfold dlRound
  split
  · exact h
  · rename_i l hl
    have hnone := settled_of_mayRun hw (h.running (by rw [hl]; rfl))
    refine ⟨h.really, fun hsome => h.registered ?_, fun e he => ?_, fun v hv => ?_, fun _ => ?_⟩
    · obtain ⟨e, he⟩ := Option.isSome_iff_exists.mp hsome
      obtain ⟨e₀, he₀, -⟩ := restartPart_dl s.log _ e he
      exact Option.isSome_iff_exists.mpr ⟨e₀, he₀⟩
    · obtain ⟨e₀, he₀, hpart⟩ := restartPart_dl s.log _ e he
      exact hpart.trans (h.restart e₀ he₀)
    · have hv' : v ∈ s.settled := hv
      rw [hnone] at hv'
      cases hv'
    · exact h.running (by rw [hl]; rfl)

/-! ### First part -/

theorem encoder_livePush (j : Job) (s : Sys) :
    (s.grow (s.evs (liveActs j))).encoder =
      s.encoder.map (EncState.setAll
        (if j.reallyRestart && !j.needsRebuild && j.encLive then j.wbDiff.live else [])) := by
  unfold Sys.encoder liveActs
  split_ifs
  · simp only [evs, List.map_singleton, grow_log, devices_concat]
    rfl
  · have hid : EncState.setAll [] = id := rfl
    simp [evs, hid]

theorem restartDiff_of_encRestart {r : Bool} {a b : Config} (h : (Job.of r a b).encRestart = false) :
    restartDiff a b = [] := by
  unfold Job.encRestart at h
  rw [Bool.not_eq_false'] at h
  exact List.isEmpty_iff.mp h

theorem livePush_settles {a b : Config} (hj : j = Job.of true a b) (hp : j.pushesOnly = true)
    (hx : ExactPush a b) :
    (EncState.ofConfig a).setAll
      (if j.reallyRestart && !j.needsRebuild && j.encLive then j.wbDiff.live else []) = .ofConfig b := by
  simp only [Job.pushesOnly, Bool.and_eq_true, Bool.not_eq_true'] at hp
  obtain ⟨⟨⟨-, hnew⟩, hrebuild⟩, hrestart⟩ := hp
  have hfields : (if j.reallyRestart && !j.needsRebuild && j.encLive then j.wbDiff.live else []) =
      (waybeamConfigDiff a b false).live := by
    have hdiff : j.wbDiff = waybeamConfigDiff a b false := by
      rw [← hnew, hj]
      rfl
    have hreally : j.reallyRestart = true := by rw [hj]; rfl
    rw [hreally, hrebuild, Job.encLive, hrestart, hdiff]
    cases (waybeamConfigDiff a b false).live <;> rfl
  rw [hfields]
  exact setAll_live_ofConfig (restartDiff_of_encRestart (hj ▸ hrestart)) hx

theorem settings_begin (h : Settings s) (hjob : s.job = none)
    (hj : j = Job.of true s.effective s.pending)
    (hx : j.pushesOnly = true → ExactPush s.effective s.pending) :
    Settings { s.grow (s.evs (liveActs j)) with job := some (.commit, j) } := by
  have henc : Sys.encoder { s.grow (s.evs (liveActs j)) with job := some (.commit, j) } = _ :=
    encoder_livePush j s
  have hlive : j.wbDiff.live = (waybeamConfigDiff s.effective s.pending j.enabledNew).live := by rw [hj]; rfl
  refine ⟨?_, ?_, ?_, ?_, ?_⟩
  · rintro p j' hj'
    cases hj'
    rw [hj]
    rfl
  · rw [henc, Option.isSome_map]
    exact h.registered
  · rw [henc]
    intro e he
    obtain ⟨e₀, he₀, rfl⟩ := Option.map_eq_some_iff.mp he
    refine Eq.trans ?_ (h.restart e₀ he₀)
    split_ifs
    · rw [hlive, restartPart_live]
    · rfl
  · rw [henc]
    intro v hv e he
    obtain ⟨e₀, he₀, rfl⟩ := Option.map_eq_some_iff.mp he
    obtain ⟨hp, rfl⟩ : j.pushesOnly = true ∧ EncState.ofConfig s.pending = v := by
      simpa [Sys.settled] using hv
    have hoff : s.effective.dynamicLink.enabled = false := by
      have hold : j.enabledOld = s.effective.dynamicLink.enabled := by rw [hj]; rfl
      simp only [Job.pushesOnly, Bool.and_eq_true, Bool.not_eq_true'] at hp
      rw [← hold]
      exact hp.1.1.1
    obtain rfl : e₀ = .ofConfig s.effective :=
      h.settled _ (by simp [Sys.settled, hjob, hoff]) e₀ he₀
    exact livePush_settles hj hp (hx hp)
  · intro hr
    have hrun := h.running hr
    simpa [Sys.mayRun, hjob] using hrun

/-! ### Second part -/

theorem devices_committed (s : Sys) :
    (devices s.committed.log).waybeamFile = toWaybeamJson s.pending ∧
      (devices s.committed.log).enc = (devices s.log).enc := by
  have hlog : s.committed.log = s.log ++ [s.ev (.writeConfig s.pending) true] ++
      [s.adopted.ev (.writeWaybeam (toWaybeamJson s.pending)) true] := rfl
  rw [hlog, devices_concat, devices_concat]
  exact ⟨rfl, rfl⟩

theorem seed_encoder {c : Config} (ha : Agrees c "waybeam" waybeamArgv) (iface : String) :
    ∃ spec, (seedOrchestrator c iface).spec? "waybeam" = some spec ∧ spec.isEncoder = true := by
  have hmem : wfbSpec "waybeam" waybeamArgv ["wfb_video_tx"] ∈ builtins c iface := by simp [builtins]
  have hline : ((seedOrchestrator c iface).spec? "waybeam").map SupervisedSpec.argv =
      some waybeamArgv := (seed_argv hmem).trans (congrArg some ha.getD)
  obtain ⟨spec, hspec, hspecArgv⟩ := Option.map_eq_some_iff.mp hline
  refine ⟨spec, hspec, ?_⟩
  simp [SupervisedSpec.isEncoder, seed_spec?_name hspec, hspecArgv]

theorem enc_startAll {specs : List SupervisedSpec} (ha : Agrees s.effective "waybeam" waybeamArgv)
    (hfile : (devices s.log).waybeamFile = toWaybeamJson s.effective)
    (hspecs : s.seed.orch.startAll = some specs) :
    (devices (s.log ++ s.evs (specs.map .launch))).enc = some (.ofConfig s.effective) := by
  obtain ⟨spec, hspec, hencoder⟩ := seed_encoder ha s.iface
  have hany : specs.any SupervisedSpec.isEncoder = true :=
    List.any_eq_true.mpr ⟨spec, (Orchestrator.mem_startAll hspecs spec).mpr ⟨_, hspec⟩, hencoder⟩
  rw [(enc_launches specs s hfile).2, if_pos hany]

theorem Settings.of_started {iface : String} (hjob : t.job = none)
    (ha : Agrees t.effective "waybeam" waybeamArgv)
    (horch : t.orch = seedOrchestrator t.effective iface)
    (henc : t.encoder = some (.ofConfig t.effective))
    (hrun : t.dl.isSome → t.effective.dynamicLink.enabled = true) : Settings t := by
  have hall : ∀ e ∈ t.encoder, e = .ofConfig t.effective := by
    rw [henc]
    exact fun e he => (Option.some.inj he).symm
  refine .of_idle hjob (fun _ => ?_) (fun e he => ?_) (fun _ => hall) hrun
  · rw [horch]
    exact seed_encoder ha _
  · rw [hall e he]

theorem settings_rebuild (hw : WellFormed s) (h : Settings s) (hjob : s.job = some (.commit, j))
    (ha : Agrees s.pending "waybeam" waybeamArgv) :
    failed ((rebuild env j).run id s.committed) = false →
      Settings ((rebuild env j).run id s.committed) := by
  refine rebuild_cases (R := fun t => failed t = false → Settings t) (fun _ h => by cases h)
    (fun _ _ h => by cases h) (fun _ h => by cases h) (fun specs hspecs _ => ?_)
  have hof := (hw.commit j hjob).1
  have hold : j.enabledOld = s.effective.dynamicLink.enabled := congrArg Job.enabledOld hof
  have hnew : j.enabledNew = s.pending.dynamicLink.enabled := congrArg Job.enabledNew hof
  set u := (s.committed.vacated j).raised env j with hu
  have heff : u.effective = s.pending := by
    rw [hu, raised_effective, vacated_effective]
    rfl
  have hfile : (devices u.log).waybeamFile = toWaybeamJson u.effective := by
    rw [heff, hu, raised_log, vacated_log]
    split_ifs
    · rw [devices_concat]
      exact (devices_committed s).1
    · rw [List.append_nil]
      exact (devices_committed s).1
  have henc : (u.rebuilt env j specs).encoder = some (.ofConfig u.effective) := by
    obtain ⟨a, b, c, hlog⟩ := rebuilt_log env j specs u
    rw [Sys.encoder, hlog, devices_concat, exec_spared u rfl, enc_startAll (heff ▸ ha) hfile hspecs]
  have hseed : (u.rebuilt env j specs).orch =
      seedOrchestrator (u.rebuilt env j specs).effective u.iface := by
    rw [rebuilt_orch, rebuilt_effective]
  refine .of_started rfl ?_ hseed ?_ fun hr => ?_
  · rwa [rebuilt_effective, heff]
  · rw [henc, rebuilt_effective]
  · rw [rebuilt_effective, heff, ← hnew]
    by_contra hoff
    rw [rebuilt_dl, if_neg hoff, hu, raised_dl, vacated_dl] at hr
    split_ifs at hr with hon
    · cases hr
    · have hrun := h.running hr
      simp only [Sys.mayRun, hjob] at hrun
      exact hon (hold.trans hrun)

theorem encoder_encoderRestart (he : j.encRestart = true)
    (hfile : (devices s.log).waybeamFile = toWaybeamJson s.effective) :
    (s.encoderRestart j).encoder =
      if (s.orch.spec? "waybeam").any SupervisedSpec.isEncoder then some (.ofConfig s.effective)
      else s.encoder := by
  have hosd : s.osdSpec.toList.any SupervisedSpec.isEncoder = false := by
    unfold osdSpec
    split_ifs <;> simp [SupervisedSpec.isEncoder, wfbSpec]
  rw [encoderRestart_eq, if_pos he, Sys.encoder]
  refine (enc_launches _ s hfile).2.trans ?_
  rw [List.any_append, hosd, Bool.or_false]
  cases s.orch.spec? "waybeam" <;> simp [Sys.encoder]

theorem encoderRestart_dl (j : Job) (s : Sys) : (s.encoderRestart j).dl = s.dl := by
  rw [encoderRestart_eq]
  split_ifs <;> rfl

/-- An encoder that the second part restarts has the new settings; one that is not started anew here was
never started. -/
theorem encoder_restarted (h : Settings s) (he : j.encRestart = true) :
    ∀ e ∈ (s.committed.encoderRestart j).encoder, e = .ofConfig s.pending ∧
      ∃ spec, s.orch.spec? "waybeam" = some spec ∧ spec.isEncoder = true := by
  obtain ⟨hfile, hcom⟩ := devices_committed s
  intro e hme
  rw [encoder_encoderRestart (s := s.committed) he hfile] at hme
  split_ifs at hme with hany
  · exact ⟨(Option.some.inj hme).symm, (Option.any_eq_true _ _).mp hany⟩
  · have hsome : s.encoder.isSome := by
      rw [Sys.encoder, ← hcom]
      exact Option.isSome_iff_exists.mpr ⟨e, hme⟩
    exact absurd ((Option.any_eq_true _ _).mpr (h.registered hsome)) hany

theorem Settings.of_hot (hw : WellFormed s) (h : Settings s) (hjob : s.job = some (.commit, j))
    (hreg : (s.committed.encoderRestart j).encoder.isSome →
      ∃ spec, s.orch.spec? "waybeam" = some spec ∧ spec.isEncoder = true)
    (hpart : ∀ e ∈ (s.committed.encoderRestart j).encoder,
      e.restartPart = (EncState.ofConfig s.pending).restartPart)
    (hoff : (j.enabledOld || j.enabledNew) = false →
      ∀ e ∈ (s.committed.encoderRestart j).encoder, e = .ofConfig s.pending) :
    Settings (s.committed.encoderRestart j) := by
  have hold : j.enabledOld = s.effective.dynamicLink.enabled :=
    congrArg Job.enabledOld (hw.commit j hjob).1
  have heff : (s.committed.encoderRestart j).effective = s.pending := encoderRestart_effective j _
  refine ⟨?_, ?_, ?_, ?_, ?_⟩
  · rintro p j' hj'
    cases hj'
    exact h.really _ _ hjob
  · rw [encoderRestart_spec?, if_neg (by simp)]
    exact hreg
  · rw [heff]
    exact hpart
  · intro v hv
    have hv' : v ∈ if j.enabledOld || j.enabledNew then none
        else some (EncState.ofConfig (s.committed.encoderRestart j).effective) := hv
    rw [heff] at hv'
    split_ifs at hv' with hon
    · cases hv'
    · rw [← Option.some.inj hv']
      exact hoff (Bool.eq_false_iff.mpr hon)
  · intro hr
    rw [encoderRestart_dl] at hr
    have hrun := h.running hr
    simp only [Sys.mayRun, hjob] at hrun
    exact hold.trans hrun

theorem settings_hot (hw : WellFormed s) (h : Settings s) (hjob : s.job = some (.commit, j))
    (hn : j.needsRebuild = false) : Settings (s.committed.encoderRestart j) := by
  cases he : j.encRestart with
  | true =>
    have hall := encoder_restarted h he
    refine .of_hot hw h hjob (fun hsome => ?_) (fun e hme => ?_) (fun _ e hme => (hall e hme).1)
    · obtain ⟨e, hme⟩ := Option.isSome_iff_exists.mp hsome
      exact (hall e hme).2
    · rw [(hall e hme).1]
  | false =>
    have henc : (s.committed.encoderRestart j).encoder = s.encoder := by
      rw [encoderRestart_eq, if_neg (by simp [he])]
      exact (devices_committed s).2
    refine .of_hot hw h hjob ?_ (fun e hme => ?_) (fun hoff => ?_)
    · rw [henc]
      exact h.registered
    · rw [henc] at hme
      rw [(hw.commit j hjob).1] at he
      exact (h.restart e hme).trans (restartPart_of_restartDiff (restartDiff_of_encRestart he))
    · rw [henc]
      rw [Bool.or_eq_false_iff] at hoff
      exact h.settled _ (by simp [Sys.settled, hjob, Job.pushesOnly, hoff, hn, he])

/-! ### Third part -/

theorem encoder_addProbeStream (s : Sys) : s.addProbeStream.encoder = s.encoder := by
  rw [addProbeStream_eq]
  refine enc_evs_spared s (fun a ha => ?_) s.log
  obtain ⟨spec, hspec, rfl⟩ := List.mem_map.mp ha
  have hname : spec.name ∈ ["probe-tx", "probe-feed"] := by
    unfold probePair at hspec
    split_ifs at hspec
    · exact probeSpecs_name hspec
    · simp at hspec
  have hne : ∀ n ∈ ["probe-tx", "probe-feed"], n ≠ "waybeam" := by decide
  simp [Act.sparesEnc, SupervisedSpec.isEncoder, hne _ hname]

theorem outcomes_ok (hok : ∀ n, (env.out n).ok = true) (s : Sys) (as : List Act) :
    s.outcomes env as = s.evs as := by
  unfold outcomes evs
  simp only [hok]
  exact (List.map_map (f := Prod.fst) (g := fun a => s.ev a true)).symm.trans
    (congrArg _ (List.zipIdx_map_fst 0 as))

theorem encoder_restateStaticLink (hok : ∀ n, (env.out n).ok = true) (s : Sys) :
    (s.restateStaticLink env).encoder = s.encoder.map fun e =>
      { e with bitrate := s.effective.video.bitrate, roiQp := s.effective.video.roi.qp } := by
  rw [restateStaticLink_eq, outcomes_ok hok]
  have hlast : ∃ as : List Act, (∀ a ∈ as, a.sparesEnc = true) ∧ s.restateActs =
      as ++ [.encSet [.bitrate s.effective.video.bitrate, .roiQp s.effective.video.roi.qp]] := by
    refine ⟨_, ?_, rfl⟩
    intro a ha
    unfold fecAct radioAct at ha
    split_ifs at ha <;> simp at ha <;> rcases ha with rfl | rfl | rfl <;> rfl
  obtain ⟨as, has, hacts⟩ := hlast
  have hevs : s.evs s.restateActs = s.evs as ++ [s.ev
      (.encSet [.bitrate s.effective.video.bitrate, .roiQp s.effective.video.roi.qp]) true] := by
    simp [evs, hacts]
  rw [Sys.encoder, grow_log, hevs, ← List.append_assoc, devices_concat]
  exact congrArg (Option.map _) (enc_evs_spared s has s.log)

theorem encoder_route (hok : ∀ n, (env.out n).ok = true) :
    (s.route env j).encoder =
      if j.enabledOld && !j.enabledNew then
        s.encoder.map fun e =>
          { e with bitrate := s.effective.video.bitrate, roiQp := s.effective.video.roi.qp }
      else s.encoder := by
  refine route_cases (R := fun r => r.encoder = _) (fun ho hn => ?_) (fun ho hn => ?_)
    (fun ho hn => ?_) (fun h => ?_)
  · rw [ho, hn]
    exact encoder_addProbeStream s
  · rw [ho, hn]
    exact encoder_restateStaticLink hok s.stopController.removeProbeStream
  · rw [ho, hn, setDlConfig_eq]
    exact toggleProbe_cases (R := fun r => r.encoder = s.encoder) (encoder_addProbeStream s) rfl rfl
  · rw [h]
    cases j.enabledNew <;> rfl

theorem due_spares (j : Job) (s : Sys) : ∀ a ∈ s.due j, a.sparesEnc = true := by
  intro a ha
  unfold due fecAct radioAct at ha
  simp only [List.mem_append] at ha
  rcases ha with ((ha | ha) | ha) | ha <;> split_ifs at ha <;> simp at ha <;> subst ha <;> rfl

theorem route_restartPart (h : Settings s) (hok : ∀ n, (env.out n).ok = true) :
    ∀ e ∈ (s.route env j).encoder, e.restartPart = (EncState.ofConfig s.effective).restartPart := by
  intro e he
  rw [encoder_route hok] at he
  split_ifs at he
  · obtain ⟨e₀, he₀, rfl⟩ := Option.map_eq_some_iff.mp he
    exact h.restart e₀ he₀
  · exact h.restart e he

theorem route_exact (h : Settings s) (hjob : s.job = some (.finish, j))
    (hok : ∀ n, (env.out n).ok = true) (hoff : j.enabledNew = false)
    (hu : j.enabledOld = true → ∀ e ∈ s.encoder, e.SameUnstated (.ofConfig s.effective)) :
    ∀ e ∈ (s.route env j).encoder, e = .ofConfig s.effective := by
  intro e he
  have hpart := route_restartPart h hok e he
  rw [encoder_route hok, hoff, Bool.not_false, Bool.and_true] at he
  cases hold : j.enabledOld with
  | true =>
    rw [hold, if_pos rfl] at he
    obtain ⟨e₀, he₀, rfl⟩ := Option.map_eq_some_iff.mp he
    have hrest := hu hold e₀ he₀
    exact EncState.eq_of_parts rfl rfl ⟨hrest.fps, hrest.qpDelta, hrest.gopSize,
      hrest.roiEnabled, hrest.roiSteps, hrest.roiCenter⟩ hpart
  | false =>
    rw [hold, if_neg (by decide)] at he
    exact h.settled _ (by simp [Sys.settled, hjob, hold, hoff]) e he

theorem route_running (h : Settings s) (hjob : s.job = some (.finish, j))
    (hsome : (s.route env j).dl.isSome) : j.enabledNew = true := by
  rcases route_dl env j s with ⟨hsame, hdl⟩ | ⟨hon, -⟩ | ⟨-, hdl⟩
  · rw [hdl] at hsome
    have hrun := h.running hsome
    simp only [Sys.mayRun, hjob] at hrun
    exact hsame ▸ hrun
  · exact hon
  · rw [hdl] at hsome
    cases hsome

theorem route_registered (h : Settings s) (hok : ∀ n, (env.out n).ok = true)
    (hsome : (s.route env j).encoder.isSome) :
    ∃ spec, (s.route env j).orch.spec? "waybeam" = some spec ∧ spec.isEncoder = true := by
  rw [route_spec? env j s (by decide)]
  refine h.registered ?_
  rw [encoder_route hok] at hsome
  split_ifs at hsome
  · rwa [Option.isSome_map] at hsome
  · exact hsome

theorem settings_finish (hw : WellFormed s) (h : Settings s) (hjob : s.job = some (.finish, j))
    (hok : ∀ n, (env.out n).ok = true)
    (hu : j.enabledOld = true → j.enabledNew = false →
      ∀ e ∈ s.encoder, e.SameUnstated (.ofConfig s.effective)) :
    failed ((finish env j).run id s) = false → Settings ((finish env j).run id s) := by
  obtain ⟨-, -, old, hof⟩ := hw.finish j hjob
  have hnew : j.enabledNew = s.effective.dynamicLink.enabled := congrArg Job.enabledNew hof
  refine finish_cases (R := fun t => failed t = false → Settings t) ?_ ?_
  · rintro r rfl - -
    set r := s.route env j with hr
    have heff : r.effective = s.effective := route_effective env j s
    have henc : (((r.grow (r.evs (r.due j))).reconcileBeamforming j.subs.radio).conclude j).encoder =
        r.encoder := by
      rw [conclude_eq]
      show (devices (r.log ++ r.evs (r.due j) ++ [r.ev _ true])).enc = _
      rw [devices_concat, exec_spared r rfl]
      exact enc_evs_spared r (due_spares j r) r.log
    rw [conclude_eq] at henc ⊢
    refine .of_idle rfl ?_ ?_ (fun hoff => ?_) (fun hsome => ?_)
    · rw [henc]
      exact route_registered h hok
    · rw [henc]
      exact heff ▸ route_restartPart h hok
    · have hoff' : j.enabledNew = false := hnew.trans (heff ▸ hoff)
      rw [henc]
      exact heff ▸ route_exact h hjob hok hoff' fun hold => hu hold hoff'
    · exact heff ▸ hnew ▸ route_running h hjob hsome
  · rintro r rfl l a last err - hfail
    cases hfail

/-! ### Runs -/

theorem settings_worker {k : ℕ} (h : Settings s) : Settings (s.worker env k) := by
  refine worker_cases (R := Settings) h ?_ ?_ ?_
  · rintro w o rfl
    exact h.frame (encoder_grow_spared _ _ rfl false) rfl rfl rfl rfl id
  · rintro w rfl
    exact h.frame (encoder_grow_spared _ _ rfl true) rfl rfl rfl rfl id
  · rintro w ok o hw - -
    have henc : (w.grow [w.ev (.tune .channel w.radioEnv) true, w.ev w.radioAct ok]).encoder =
        s.encoder := by
      have hgrow : w.grow [w.ev (.tune .channel w.radioEnv) true, w.ev w.radioAct ok] =
          (w.grow [w.ev (.tune .channel w.radioEnv) true]).grow [w.ev w.radioAct ok] := by
        rw [grow_grow]
        rfl
      rw [hgrow, encoder_grow_spared w _ rfl, encoder_grow_spared w w rfl, hw]
      rfl
    subst hw
    cases ok
    · exact h.frame henc rfl rfl rfl rfl id
    · exact h.frame henc rfl rfl rfl rfl id

theorem settings_step (i : Step) (hw : WellFormed s) (h : Settings s) (hok : AllSucceed s i)
    (hk : KeepsSettings s i) : Settings (s.step i) := by
  obtain ⟨hfail, hok⟩ := hok
  have hs₀ : Settings { s with returned := none } := h.frame rfl rfl rfl rfl rfl id
  have hw₀ : WellFormed { s with returned := none } := ⟨hw.valid, hw.commit, hw.finish⟩
  revert hfail
  refine step_cases (R := fun t => failed t = false → Settings t) rfl (fun _ => hs₀)
    (fun body _ hj _ => ?_) (fun reallyRestart env hi hj => ?_) (fun env j hi hj => ?_)
    (fun env j hi hj => ?_) (fun _ hj _ => ?_) (fun k env _ _ _ => settings_worker hs₀)
    (fun ack wake r _ _ => settings_round hw₀ hs₀)
  · exact h.frame rfl rfl rfl (by simp [Sys.settled, hj]) rfl id
  · subst hi
    obtain rfl : reallyRestart = true := hok
    refine begin_cases (R := fun t => failed t = false → Settings t) (fun _ _ hfail => by cases hfail)
      (fun _ _ _ _ _ hfail => by cases hfail) ?_
    rintro - j rfl -
    exact settings_begin hs₀ hj rfl (hk hj)
  · subst hi
    refine commit_cases (R := fun t => failed t = false → Settings t) (fun _ hfail => by cases hfail)
      (fun _ hfail => by cases hfail) (fun hdry => ?_) (fun _ hr => ?_) (fun _ hn _ => ?_)
    · rw [h.really _ _ hj] at hdry
      cases hdry
    · exact settings_rebuild hw₀ hs₀ hj (hk.1 j (by simp [committing, hj]) hr)
    · exact settings_hot hw₀ hs₀ hj hn
  · subst hi
    exact settings_finish hw₀ hs₀ hj hok (hk.2 j (by simp [finishing, hj]))
  · refine h.frame (encoder_grow_spared s s rfl true) rfl rfl ?_ rfl id
    simp [Sys.settled, Sys.reset, note, hj]

theorem settings_bootstrap {radioTuneScript : String} {c : Config} {s₀ : Sys}
    (hboot : bootstrap radioTuneScript c env = .ok s₀) (ha : Agrees c "waybeam" waybeamArgv) :
    Settings s₀ := by
  obtain ⟨-, hstart⟩ := bootstrap_ok hboot
  refine startProcesses_cases (R := Settings) hstart (fun _ _ => ?_) ?_
  · -- the radio did not come up: nothing is started
    have hnone : (devices ((booted radioTuneScript c).log ++
        [(booted radioTuneScript c).ev (.radioUp (booted radioTuneScript c).bringUpEnv) false])).enc =
        none := rfl
    refine .of_idle rfl (fun hsome => ?_) (fun e he => ?_) (fun _ e he => ?_) (fun hr => by cases hr)
    · rw [Sys.encoder, grow_log, hnone] at hsome
      cases hsome
    · rw [Sys.encoder, grow_log, hnone] at he
      cases he
    · rw [Sys.encoder, grow_log, hnone] at he
      cases he
  · rintro r radio specs hr hspecs u hu
    have hrc : r.effective = c := by rw [hr]; rfl
    have hfile : (devices r.log).waybeamFile = toWaybeamJson r.effective := by rw [hr]; rfl
    have henc : u.encoder = some (.ofConfig c) := by
      rw [hu]
      show (devices (r.log ++ r.evs (specs.map .launch) ++ [r.ev _ true])).enc = _
      rw [devices_concat, exec_spared r rfl, enc_startAll (hrc ▸ ha) hfile hspecs, hrc]
    have heff : u.effective = c := by rw [hu]; exact hrc
    have horch : u.orch = seedOrchestrator u.effective u.iface := by rw [hu]; rfl
    split_ifs with hon
    · exact .of_started (by rw [hu, hr]; rfl) (heff ▸ ha) horch (heff ▸ henc) (fun _ => heff ▸ hon)
    · refine .of_started (by rw [hu, hr]; rfl) (heff ▸ ha) horch (heff ▸ henc) (fun hsome => ?_)
      rw [hu, hr] at hsome
      cases hsome

end Steps

/-- **No setting of the encoder is lost**: in every run whose steps meet the conditions, whenever no
apply is under way and dynamic link is off, the encoder has the settings of the effective
configuration. -/
theorem settings_kept {radioTuneScript : String} {c : Config} {env : Env} {s₀ : Sys}
    (hboot : bootstrap radioTuneScript c env = .ok s₀) (ha : Agrees c "waybeam" waybeamArgv)
    (is : List Step) (hk : Meets Sys.step (fun s i => AllSucceed s i ∧ KeepsSettings s i) s₀ is)
    (hjob : (is.foldl Sys.step s₀).job = none)
    (hoff : (is.foldl Sys.step s₀).effective.dynamicLink.enabled = false) :
    ∀ e ∈ (is.foldl Sys.step s₀).encoder, e = .ofConfig (is.foldl Sys.step s₀).effective := by
  have hinv := Meets.invariant (I := fun s => WellFormed s ∧ Settings s)
    (fun s i hs hi => ⟨wellFormed_step s i hs.1, settings_step i hs.1 hs.2 hi.1 hi.2⟩) is s₀
    ⟨wellFormed_bootstrap hboot, settings_bootstrap hboot ha⟩ hk
  exact hinv.2.settled _ (by simp [Sys.settled, hjob, hoff])

def fpsThenToggle : List Step :=
  [.patch (.obj [("video", .obj [("fps", .int 90)])]), .apply true .allOk, .advance .allOk,
   .advance .allOk, .patch (.obj [("dynamicLink", .obj [("enabled", .bool true)])]),
   .apply true .allOk, .advance .allOk, .advance .allOk,
   .patch (.obj [("dynamicLink", .obj [("enabled", .bool false)])]), .apply true .allOk,
   .advance .allOk, .advance .allOk]

theorem settings_kept_fpsThenToggle :
    (fpsThenToggle.foldl Sys.step parked).encoder =
      some (.ofConfig (fpsThenToggle.foldl Sys.step parked).effective) := by
  have hok : Meets Sys.step (fun s i => failed (s.step i) = false ∧ KeepsSettings s i) parked
      fpsThenToggle := by decide +kernel
  obtain ⟨h₁, h₂, h₃, h₄, h₅, h₆, h₇, h₈, h₉, h₁₀, h₁₁, h₁₂, -⟩ := hok
  have hall : ∀ n, (Env.allOk.out n).ok = true := fun _ => rfl
  have hsome : (fpsThenToggle.foldl Sys.step parked).encoder.isSome := by decide +kernel
  obtain ⟨e, he⟩ := Option.isSome_iff_exists.mp hsome
  have hkept := settings_kept (bootstrap_get _) (by decide +kernel) fpsThenToggle
    ⟨⟨⟨h₁.1, trivial⟩, h₁.2⟩, ⟨⟨h₂.1, rfl⟩, h₂.2⟩, ⟨⟨h₃.1, hall⟩, h₃.2⟩, ⟨⟨h₄.1, hall⟩, h₄.2⟩,
      ⟨⟨h₅.1, trivial⟩, h₅.2⟩, ⟨⟨h₆.1, rfl⟩, h₆.2⟩, ⟨⟨h₇.1, hall⟩, h₇.2⟩, ⟨⟨h₈.1, hall⟩, h₈.2⟩,
      ⟨⟨h₉.1, trivial⟩, h₉.2⟩, ⟨⟨h₁₀.1, rfl⟩, h₁₀.2⟩, ⟨⟨h₁₁.1, hall⟩, h₁₁.2⟩,
      ⟨⟨h₁₂.1, hall⟩, h₁₂.2⟩, trivial⟩
    (by decide +kernel) (by decide +kernel) e he
  exact he.trans (congrArg some hkept)

def fpsThenOff : List Step :=
  [.patch (.obj [("video", .obj [("fps", .int 90)])]), .apply true .allOk, .advance .allOk,
   .advance .allOk, .patch (.obj [("dynamicLink", .obj [("enabled", .bool false)])]),
   .apply true .allOk, .advance .allOk, .advance .allOk]

/-- Both applies succeed, and the encoder keeps the frame rate of before. -/
theorem fps_lost :
    Meets Sys.step (fun s i => failed (s.step i) = false) flying fpsThenOff ∧
    returnedOk (fpsThenOff.foldl Sys.step flying) = true ∧
    (fpsThenOff.foldl Sys.step flying).effective.dynamicLink.enabled = false ∧
    (fpsThenOff.foldl Sys.step flying).effective.video.fps = 90 ∧
    (fpsThenOff.foldl Sys.step flying).encoder.map EncState.fps = some 60 := by decide +kernel

end Fpvd
