import Fpvd.Daemon.Frame

/-!
# Fpvd.Daemon.SoleWriter — who writes what the control thread owns

While dynamic link is enabled and the control thread runs, video FEC, video radiotap, transmit power,
encoder bitrate and ROI QP are the thread's.  The daemon intrudes when it writes one of them then.
-/

namespace Fpvd

open Run Sys

/-! ## Intrusions -/

def EncField.owned : EncField → Bool
  | .bitrate _ | .roiQp _ => true
  | _ => false

/-- An act on a value that belongs to a running control thread. -/
def Act.owned : Act → Bool
  | .setFec _ _ | .setRadio _ | .tune .txpower _ => true
  | .encSet fields => fields.any EncField.owned
  | _ => false

def SysEv.intrudes : SysEv → Bool
  | .act a _ enabled running => a.owned && enabled && running
  | .dl _ => false

/-- The step does not take a way in which the daemon intrudes. -/
def KeepsOut (s : Sys) : Step → Prop
  | .apply reallyRestart _ =>
    let j := Job.of reallyRestart s.effective s.pending
    s.job.isNone → validate s.pending = [] → reallyRestart → !j.needsRebuild → !j.encRestart →
      s.effective.dynamicLink.enabled → s.dl.isSome →
      s.pending.dynamicLink.enabled ∨ (s.effective.video.bitrate = s.pending.video.bitrate ∧
        s.effective.video.roi.qp = s.pending.video.roi.qp)
  | .advance _ =>
    ∀ j ∈ s.finishing, j.link.nicTxpower → j.enabledNew → j.enabledOld ∧ s.dl.isNone
  | .worker k env =>
    s.job.isNone → s.workers[k]? = some true → s.effective.dynamicLink.enabled → s.dl.isSome →
      !(env.out s.log.length).ok
  | _ => True

instance (s : Sys) : ∀ i, Decidable (KeepsOut s i)
  | .apply _ _ => inferInstanceAs (Decidable (_ → _))
  | .advance _ => inferInstanceAs (Decidable (∀ j ∈ s.finishing, _))
  | .worker _ _ => inferInstanceAs (Decidable (_ → _))
  | .patch _ | .reset | .round _ _ _ => inferInstanceAs (Decidable True)

def Clean (s : Sys) : Prop := ∀ e ∈ s.log, e.intrudes = false

variable {s t : Sys}

theorem Clean.append {l : List SysEv} (h : Clean s) (ht : t.log = s.log ++ l)
    (hl : ∀ e ∈ l, e.intrudes = false) : Clean t := by
  intro e he
  rw [ht, List.mem_append] at he
  exact he.elim (h e) (hl e)

theorem ev_intrudes {a : Act} (h : a.owned = false) (ok : Bool) : (s.ev a ok).intrudes = false := by
  simp [ev, SysEv.intrudes, h]

theorem Clean.concat {a : Act} {ok : Bool} (h : Clean s) (ht : t.log = s.log ++ [s.ev a ok])
    (ha : a.owned = false) : Clean t :=
  h.append ht (List.forall_mem_singleton.mpr (ev_intrudes ha ok))

theorem Clean.launch {u : Sys} {specs : List SupervisedSpec} (h : Clean s)
    (ht : t.log = s.log ++ u.evs (specs.map .launch)) : Clean t := by
  refine h.append ht fun e he => ?_
  simp only [evs, List.map_map, List.mem_map] at he
  obtain ⟨spec, -, rfl⟩ := he
  exact ev_intrudes rfl true

theorem ev_intrudes_of_off (h : s.effective.dynamicLink.enabled = false ∨ s.dl = none) (a : Act)
    (ok : Bool) : (s.ev a ok).intrudes = false := by
  rcases h with h | h <;> simp [ev, SysEv.intrudes, h]

/-! ## First part of an apply -/

theorem live_owned_iff (a b : Config) (dl : Bool) :
    (waybeamConfigDiff a b dl).live.any EncField.owned = true ↔
      dl = false ∧ (a.video.bitrate ≠ b.video.bitrate ∨ a.video.roi.qp ≠ b.video.roi.qp) := by
  have hf : ∀ p f, (fieldIf p f).any EncField.owned = (p && f.owned) := by
    intro p f
    cases p <;> simp [fieldIf]
  cases dl <;> simp [waybeamConfigDiff, ownedDiff, hf, EncField.owned]

variable {env : Env} {j : Job}

theorem clean_begin {reallyRestart : Bool} (h : Clean s) (hidle : s.job = none)
    (hk : KeepsOut s (.apply reallyRestart env)) : Clean (s.begin reallyRestart env) := by
  have hlive : validate s.pending = [] →
      ∀ a ∈ liveActs (Job.of reallyRestart s.effective s.pending), ∀ ok,
        (s.ev a ok).intrudes = false := by
    intro hv a ha ok
    unfold liveActs at ha
    split_ifs at ha with hdue
    · obtain rfl := List.mem_singleton.mp ha
      simp only [Job.encLive, Bool.and_eq_true] at hdue
      obtain ⟨⟨hreally, hrebuild⟩, hrestart, -⟩ := hdue
      by_cases hown : (Act.encSet (Job.of reallyRestart s.effective s.pending).wbDiff.live).owned
      · -- an owned field is pushed, so dynamic link is being turned off; it must not be running
        refine ev_intrudes_of_off ?_ _ ok
        by_contra hon
        simp only [not_or, Bool.not_eq_false, ← Option.isSome_iff_ne_none] at hon
        obtain ⟨hoff, hne⟩ := (live_owned_iff _ _ _).mp hown
        rcases hk (by simp [hidle]) hv hreally hrebuild hrestart hon.1 hon.2 with hon' | ⟨h1, h2⟩
        · exact absurd hon' (by simp [hoff])
        · exact hne.elim (absurd h1) (absurd h2)
      · exact ev_intrudes (by simpa using hown) ok
    · simp at ha
  refine begin_cases (fun _ _ => h) ?_ ?_
  · intro hv a last err ha
    exact h.append rfl (List.forall_mem_singleton.mpr (hlive hv a ha false))
  · rintro hv j rfl
    refine h.append rfl fun e he => ?_
    obtain ⟨a, ha, rfl⟩ := List.mem_map.mp he
    exact hlive hv a ha true

/-! ## Second part -/

theorem clean_rebuild (h : Clean s) : Clean ((rebuild env j).run id s) := by
  have hv : Clean (s.vacated j) := by
    unfold vacated
    split_ifs <;> exact h
  have hr : Clean ((s.vacated j).raised env j) := by
    unfold raised
    dsimp only
    split_ifs
    · exact hv.concat (a := .radioUp _) rfl rfl
    · exact hv
  refine rebuild_cases (fun _ => ?_) (fun _ _ => ?_) (fun _ => hr) (fun specs _ => ?_)
  · split_ifs <;> exact h
  · exact hv.concat (a := .radioUp _) rfl rfl
  · have hs : Clean (((s.vacated j).raised env j).seed.grow
        (((s.vacated j).raised env j).evs (specs.map .launch))) := hr.launch rfl
    have hb := hs.concat (t := Sys.reconcileBeamforming true _) (a := .beamforming _ _ _) rfl rfl
    unfold rebuilt
    dsimp only
    split_ifs <;> exact hb

theorem clean_commit (h : Clean s) : Clean ((commit env j).run id s) := by
  have ha : Clean s.adopted := h.concat (a := .writeConfig _) rfl rfl
  have hc : Clean s.committed := ha.concat (a := .writeWaybeam _) rfl rfl
  refine commit_cases (fun _ => ?_) (fun _ => ?_) (fun _ => hc) (fun _ _ => clean_rebuild hc)
    (fun _ _ => ?_)
  · exact h.concat (a := .writeConfig _) rfl rfl
  · exact ha.concat (a := .writeWaybeam _) rfl rfl
  · rw [encoderRestart_eq]
    split_ifs
    · exact hc.launch rfl
    · exact hc

/-! ## Third part -/

theorem clean_addProbeStream (h : Clean s) : Clean s.addProbeStream := by
  rw [addProbeStream_eq]
  exact h.launch rfl

theorem clean_restateStaticLink (h : Clean s) (hoff : s.dl = none) :
    Clean (s.restateStaticLink env) := by
  rw [restateStaticLink_eq]
  refine h.append rfl fun e he => ?_
  obtain ⟨p, -, rfl⟩ := List.mem_map.mp he
  exact ev_intrudes_of_off (.inr hoff) _ _

theorem clean_route (h : Clean s) : Clean (s.route env j) := by
  refine route_cases (fun _ _ => clean_addProbeStream h) (fun _ _ => ?_) (fun _ _ => ?_)
    (fun _ => h)
  · exact clean_restateStaticLink (s := s.stopController.removeProbeStream) h rfl
  · rw [setDlConfig_eq]
    exact toggleProbe_cases (R := Clean) (clean_addProbeStream h) h h

theorem clean_finish (h : Clean s) (hnew : j.enabledNew = s.effective.dynamicLink.enabled)
    (hk : j.link.nicTxpower → j.enabledNew → j.enabledOld ∧ s.dl.isNone) :
    Clean ((finish env j).run id s) := by
  have hr : Clean (s.route env j) := clean_route h
  have hoff : j.enabledNew = false → (s.route env j).effective.dynamicLink.enabled = false := by
    rw [route_effective, ← hnew]
    exact id
  have hdue : ∀ a ∈ (s.route env j).due j, ∀ ok, ((s.route env j).ev a ok).intrudes = false := by
    intro a ha ok
    unfold due at ha
    simp only [List.mem_append, List.mem_ite_nil_right, List.mem_singleton, Bool.and_eq_true,
      Bool.not_eq_true'] at ha
    rcases ha with ((⟨hp, rfl⟩ | ⟨-, rfl⟩) | ⟨⟨-, hn⟩, rfl⟩) | ⟨⟨-, hn⟩, rfl⟩
    · -- the power push: under dynamic link the thread must be down
      refine ev_intrudes_of_off ?_ _ ok
      cases hn : j.enabledNew with
      | false => exact .inl (hoff hn)
      | true =>
        obtain ⟨ho, hdl⟩ := hk hp hn
        rcases route_dl env j s with ⟨-, h'⟩ | ⟨-, h'⟩ | ⟨h', -⟩
        · exact .inr (h'.trans (Option.isNone_iff_eq_none.mp hdl))
        · simp [ho] at h'
        · simp [hn] at h'
    · exact ev_intrudes rfl ok
    · exact ev_intrudes_of_off (.inl (hoff hn)) _ ok
    · exact ev_intrudes_of_off (.inl (hoff hn)) _ ok
  refine finish_cases ?_ ?_
  · rintro r rfl -
    have hp : Clean (Sys.grow _ (evs _ _)) := hr.append rfl fun e he => by
      obtain ⟨a, ha, rfl⟩ := List.mem_map.mp he
      exact hdue a ha true
    have hb := hp.concat (t := Sys.reconcileBeamforming j.subs.radio _) (a := .beamforming _ _ _)
      rfl rfl
    unfold conclude
    split_ifs <;> exact hb
  · rintro r rfl l a last err hpre
    refine hr.append rfl fun e he => ?_
    rcases List.mem_append.mp he with he | he
    · obtain ⟨b, hb, rfl⟩ := List.mem_map.mp he
      exact hdue b (hpre.subset (List.mem_append_left _ hb)) true
    · obtain rfl := List.mem_singleton.mp he
      exact hdue a (hpre.subset (by simp)) false

/-! ## Runs -/

theorem clean_worker {k : ℕ} (h : Clean s) (hidle : s.job = none) (hk : KeepsOut s (.worker k env)) :
    Clean (s.worker env k) := by
  refine worker_cases h ?_ ?_ ?_
  · rintro w o rfl
    exact h.concat (a := .tune .channel _) rfl rfl
  · rintro w rfl
    exact h.concat (a := .tune .channel _) rfl rfl
  · rintro w ok o hweq hw hc
    have hoff : w.effective.dynamicLink.enabled = false ∨ w.dl = none := by
      rw [hweq]
      by_contra hon
      simp only [not_or, Bool.not_eq_false, ← Option.isSome_iff_ne_none] at hon
      have hfail := hk (by simp [hidle]) hw hon.1 hon.2
      simp [hc] at hfail
    have hlog : w.log = s.log := by rw [hweq]
    have hl : Clean (w.grow [w.ev (.tune .channel w.radioEnv) true, w.ev w.radioAct ok]) :=
      h.append (congrArg (· ++ _) hlog) fun e he => by
        rcases List.mem_pair.mp he with rfl | rfl
        · exact ev_intrudes rfl true
        · exact ev_intrudes_of_off hoff _ ok
    cases ok <;> exact hl

theorem clean_round {ack : ℕ → Bool} {wake : Bool} {r : DynLink.Round} (h : Clean s) :
    Clean (s.dlRound ack wake r) := by
  unfold dlRound
  split
  · exact h
  · refine h.append rfl fun e he => ?_
    obtain ⟨e, -, rfl⟩ := List.mem_map.mp he
    rfl

theorem clean_step (i : Step) (hw : WellFormed s) (h : Clean s) (hk : KeepsOut s i) :
    Clean (s.step i) := by
  refine step_cases rfl h (fun _ _ _ => h) ?_ (fun _ _ _ _ => clean_commit h) ?_ ?_ ?_
    (fun _ _ _ _ => clean_round h)
  · rintro reallyRestart env rfl hn
    exact clean_begin h hn hk
  · rintro env j rfl hj
    obtain ⟨-, -, old, hof⟩ := hw.finish j hj
    exact clean_finish h (by rw [hof]; rfl) (hk j (by simp [finishing, hj]))
  · rintro - -
    exact h.concat (a := .removeConfig) rfl rfl
  · rintro k env rfl hn
    exact clean_worker h hn hk

theorem clean_bootstrap {radioTuneScript : String} {c : Config}
    (hb : bootstrap radioTuneScript c env = .ok s) : Clean s := by
  have hbooted : Clean (booted radioTuneScript c) :=
    List.forall_mem_singleton.mpr (ev_intrudes (a := .writeWaybeam _) rfl true)
  refine startProcesses_cases (R := Clean) (bootstrap_ok hb).2 ?_ ?_
  · exact fun _ _ => hbooted.concat (a := .radioUp _) rfl rfl
  · rintro r radio specs hr - u hu
    have hrc : Clean r := by
      rw [hr]
      exact hbooted.concat (a := .radioUp _) rfl rfl
    have huc : Clean u := by
      rw [hu]
      exact (hrc.launch (t := r.seed.grow (r.evs (specs.map .launch))) rfl).concat
        (a := .beamforming _ _ _) rfl rfl
    split_ifs <;> exact huc

/-- **No intrusion**: in a run whose steps all keep out, the daemon never writes what a running control
thread owns. -/
theorem no_intrusion {radioTuneScript : String} {c : Config} {env : Env} {s₀ : Sys}
    (hboot : bootstrap radioTuneScript c env = .ok s₀) (is : List Step)
    (hk : Meets Sys.step KeepsOut s₀ is) :
    ∀ e ∈ (is.foldl Sys.step s₀).log, e.intrudes = false := by
  have hinv : Clean (is.foldl Sys.step s₀) ∧ WellFormed (is.foldl Sys.step s₀) :=
    Meets.invariant (I := fun s => Clean s ∧ WellFormed s)
      (fun s i hs hi => ⟨clean_step i hs.2 hs.1 hi, wellFormed_step s i hs.2⟩) is s₀
      ⟨clean_bootstrap hboot, wellFormed_bootstrap hboot⟩ hk
  exact hinv.1

def powerAfterOff : List Step :=
  [.patch (.obj [("dynamicLink", .obj [("enabled", .bool false)])]), .apply true .allOk,
   .advance .allOk, .advance .allOk, .patch (.obj [("link", .obj [("txPowerDbm", .int 10)])]),
   .apply true .allOk, .advance .allOk, .advance .allOk]

theorem no_intrusion_powerAfterOff : Meets Sys.step KeepsOut flying powerAfterOff ∧
    ∀ e ∈ (powerAfterOff.foldl Sys.step flying).log, e.intrudes = false :=
  ⟨by decide +kernel, no_intrusion (bootstrap_get _) _ (by decide +kernel)⟩

def powerWhileOn : List Step :=
  [.patch (.obj [("dynamicLink", .obj [("enabled", .bool false)]),
    ("link", .obj [("txPowerDbm", .int 10)])]),
   .patch (.obj [("dynamicLink", .obj [("enabled", .bool true)])]),
   .apply true .allOk, .advance .allOk, .advance .allOk]

/-- The daemon runs the power script beside the running control thread. -/
theorem power_push_intrudes :
    ∃ e ∈ (powerWhileOn.foldl Sys.step flying).log, e.intrudes = true := by
  decide +kernel

end Fpvd
