import Fpvd.DynLink.EncCache
import Fpvd.Daemon.Frame

/-!
# Fpvd.Daemon.EncFollow — the encoder follows the decisions

Daemon and control thread both write to the encoder.  The control thread suppresses a push of the values
it pushed last, and its cache survives a restart of the encoder, which loads the configured bitrate.
-/

namespace Fpvd

open Run Sys DynLink

/-! ## Completed decisions -/

def encBitrate (log : List SysEv) : Option ℤ := (devices log).enc.map EncState.bitrate

def SysEv.done? : SysEv → Option Decision
  | .dl (.done d) => some d
  | _ => none

/-- If the log ends in a completed decision, the encoder has the decision's bitrate. -/
def LastDone (log : List SysEv) : Prop :=
  ∀ d ∈ log.getLast?.bind SysEv.done?, ∀ b ∈ encBitrate log, b = d.bitrateKbps

def branch (p : Loop × List SysEv) (i : Input) : Loop × List SysEv :=
  (p.1.input allOk i, p.2 ++ ((p.1.input allOk i).trace.drop p.1.trace.length).map SysEv.dl)

/-- The encoder has the bitrate that the control thread pushed last. -/
def Fresh (p : Loop × List SysEv) : Prop := ∀ r ∈ p.1.enc.cached, ∀ b ∈ encBitrate p.2, b = r

/-- A branch that completes a decision without a push finds the cached bitrate in the encoder. -/
def FreshIfQuiet (p : Loop × List SysEv) (i : Input) : Prop := p.1.quiet i = true → Fresh p

/-- Every command of a round succeeds, and its quiet branches find the cached bitrate in the encoder. -/
def KeepsPace (s : Sys) : Step → Prop
  | .round ack wake r => ack = allOk ∧ ∀ l ∈ s.dl, Meets branch FreshIfQuiet (l, s.log)
      (roundInputs allOk l { r with event := if wake then s.mailbox.map Loop.Wake.config else none })
  | _ => True

instance (log : List SysEv) : Decidable (LastDone log) :=
  inferInstanceAs (Decidable (∀ d ∈ log.getLast?.bind SysEv.done?, ∀ b ∈ encBitrate log, _))

instance (p : Loop × List SysEv) (i : Input) : Decidable (FreshIfQuiet p i) :=
  inferInstanceAs (Decidable (_ → ∀ r ∈ p.1.enc.cached, ∀ b ∈ encBitrate p.2, b = r))

/-! ## Pushes of the control thread -/

section Branch

variable {log : List SysEv} {l l' : Loop} {t : List Ev}

theorem encBitrate_dl (log : List SysEv) (t : List Ev) :
    encBitrate (log ++ t.map SysEv.dl) =
      (encBitrate log).map fun b => ((pushedBitrate t).map Nat.cast).getD b := by
  induction t using List.reverseRecOn with
  | nil => simp [pushedBitrate, pushedEnc]
  | append_singleton t e ih =>
    rw [List.map_append, ← List.append_assoc, List.map_singleton, encBitrate, devices_concat,
      exec_dl_enc, pushedBitrate_append]
    cases he : e.enc? with
    | none =>
      have hnone : pushedBitrate [e] = none := by simp [pushedBitrate, pushedEnc, he]
      rw [hnone, Option.none_or, ← ih]
      rfl
    | some f =>
      have hsome : pushedBitrate [e] = some f.bitrate := by simp [pushedBitrate, pushedEnc, he]
      rw [hsome, Option.some_or, Option.elim_some, Option.map_map]
      unfold encBitrate at ih ⊢
      cases h : (devices log).enc with
      | none =>
        rw [h, Option.map_none, Option.map_none, Option.map_eq_none_iff] at ih
        rw [ih]
        rfl
      | some e₀ =>
        rw [h, Option.map_some, Option.map_some] at ih
        obtain ⟨e₁, he₁, -⟩ := Option.map_eq_some_iff.mp ih
        rw [he₁]
        rfl

theorem lastDone_branch {q : Bool} (ht : Tracked q t l l') (hlog : Throughout LastDone log)
    (hq : q = true → Fresh (l, log)) : Throughout LastDone (log ++ t.map SysEv.dl) := by
  intro p hp
  rcases List.prefix_or_prefix_of_prefix hp (List.prefix_append log _) with hp' | ⟨v, rfl⟩
  · exact hlog p hp'
  -- a new point of the log ends a prefix of the branch's events
  obtain ⟨u, hu, rfl⟩ : ∃ u, u <+: t ∧ v = u.map SysEv.dl := by
    obtain ⟨w, hw⟩ := (List.prefix_append_right_inj log).mp hp
    obtain ⟨u, u', rfl, rfl, -⟩ := List.map_eq_append_iff.mp hw.symm
    exact ⟨u, List.prefix_append u u', rfl⟩
  rcases List.eq_nil_or_concat' u with rfl | ⟨u, e, rfl⟩
  · simpa using hlog.last
  · intro d hd b hb
    obtain rfl : e = .done d := by
      have hlast : SysEv.done? (.dl e) = some d := by simpa using hd
      cases e <;> cases hlast
      rfl
    obtain ⟨v, rfl⟩ := hu
    -- a decision is completed by the last event of the branch
    obtain ⟨rfl, hcached, hquiet⟩ := ht.done u d v (by simp)
    rw [List.append_nil] at hquiet ht
    rw [encBitrate_dl] at hb
    obtain ⟨b₀, hb₀, rfl⟩ := Option.map_eq_some_iff.mp hb
    have hc := ht.cached.symm.trans hcached
    cases hpush : pushedBitrate (u ++ [.done d]) with
    | some r =>
      rw [hpush, Option.some_or] at hc
      obtain rfl := Option.some.inj hc
      rfl
    | none =>
      rw [hpush, Option.none_or] at hc
      exact hq (hquiet hpush) _ hc _ hb₀

theorem lastDone_branches : ∀ (is : List Input) (l : Loop) (log : List SysEv), EncReady l →
    (∀ i ∈ is, i.Rated) → Meets branch FreshIfQuiet (l, log) is → Throughout LastDone log →
    EncReady (is.foldl (Loop.input allOk) l) ∧ ∃ t,
      (is.foldl (Loop.input allOk) l).trace = l.trace ++ t ∧
      Throughout LastDone (log ++ t.map SysEv.dl)
  | [], l, log, hready, _, _, hlog => ⟨hready, [], by simp, by simpa using hlog⟩
  | i :: is, l, log, hready, hrated, hm, hlog => by
    obtain ⟨hready', t, ht⟩ := input_tracked hready i (hrated i (by simp))
    have hbranch : branch (l, log) i = (l.input allOk i, log ++ t.map SysEv.dl) := by
      rw [branch, ht.trace, List.drop_left]
    rw [meets_cons, hbranch] at hm
    obtain ⟨hready'', u, hu, hall⟩ := lastDone_branches is (l.input allOk i) _ hready'
      (fun i hi => hrated i (by simp [hi])) hm.2 (lastDone_branch ht hlog hm.1)
    refine ⟨hready'', t ++ u, ?_, ?_⟩
    · rw [List.foldl_cons, hu, ht.trace, List.append_assoc]
    · rw [List.map_append, ← List.append_assoc]
      exact hall

theorem roundInputs_rated {r : Round} (hr : (Input.event r.event).Rated) :
    ∀ i ∈ roundInputs allOk l r, i.Rated := by
  unfold roundInputs
  split_ifs
  · simp
  · simpa [Input.Rated] using hr
  · simpa [Input.Rated] using hr

end Branch

/-! ## Steps of the daemon -/

def IsAct (e : SysEv) : Prop := ∃ a ok enabled running, e = .act a ok enabled running

/-- The step adds acts of the daemon to the log; a control thread and a posted snapshot are those of
before, or belong to the effective configuration. -/
structure ActsOnly (s t : Sys) : Prop where
  log : Grows IsAct s.log t.log
  dl : ∀ l ∈ t.dl, l ∈ s.dl ∨ ∃ iface gapFd, l = Loop.start (buildDlSnapshot t.effective iface) gapFd
  mailbox : ∀ m ∈ t.mailbox, m ∈ s.mailbox ∨ ∃ iface, m = buildDlSnapshot t.effective iface

section Daemon

variable {s t : Sys} {env : Env} {j : Job}

theorem ActsOnly.of_eq {l : List SysEv} (hlog : t.log = s.log ++ l) (hl : ∀ e ∈ l, IsAct e)
    (hdl : t.dl = s.dl) (hmail : t.mailbox = s.mailbox) : ActsOnly s t :=
  ⟨⟨l, hlog, hl⟩, fun _ h => .inl (hdl ▸ h), fun _ h => .inl (hmail ▸ h)⟩

theorem ActsOnly.same (hlog : t.log = s.log) (hdl : t.dl = s.dl) (hmail : t.mailbox = s.mailbox) :
    ActsOnly s t :=
  .of_eq (l := []) (by rw [hlog, List.append_nil]) (by simp) hdl hmail

theorem ActsOnly.stopped (hlog : Grows IsAct s.log t.log) (hdl : t.dl = none)
    (hmail : t.mailbox = none) : ActsOnly s t :=
  ⟨hlog, fun l h => by simp [hdl] at h, fun m h => by simp [hmail] at h⟩

theorem ActsOnly.trans {u : Sys} (h : ActsOnly s t) (h' : ActsOnly t u)
    (heff : u.effective = t.effective) : ActsOnly s u where
  log := h.log.trans h'.log
  dl l hl := (h'.dl l hl).elim (fun ht => heff.symm ▸ h.dl l ht) .inr
  mailbox m hm := (h'.mailbox m hm).elim (fun ht => heff.symm ▸ h.mailbox m ht) .inr

theorem isAct_evs (s : Sys) (as : List Act) : ∀ e ∈ s.evs as, IsAct e := by
  intro e he
  obtain ⟨a, -, rfl⟩ := List.mem_map.mp he
  exact ⟨a, true, _, _, rfl⟩

theorem ActsOnly.act {u : Sys} {a : Act} {ok : Bool} (hlog : t.log = s.log ++ [u.ev a ok])
    (hdl : t.dl = s.dl) (hmail : t.mailbox = s.mailbox) : ActsOnly s t :=
  .of_eq hlog (by simpa using ⟨a, ok, _, _, rfl⟩) hdl hmail

theorem actsOnly_adopted (s : Sys) : ActsOnly s s.adopted := .act rfl rfl rfl

theorem actsOnly_committed (s : Sys) : ActsOnly s s.committed :=
  (actsOnly_adopted s).trans (.act rfl rfl rfl) rfl

theorem actsOnly_stop (s : Sys) : ActsOnly s s.stopController := .stopped (.refl _) rfl rfl

theorem actsOnly_start (env : Env) (s : Sys) : ActsOnly s (s.startController env) where
  log := .refl _
  dl l hl := .inr ⟨_, _, (Option.some.inj hl).symm⟩
  mailbox m hm := by cases hm

theorem actsOnly_vacated (j : Job) (s : Sys) : ActsOnly s (s.vacated j) := by
  have h : ActsOnly s (if j.enabledOld then s.stopController else s) := by
    split_ifs
    · exact actsOnly_stop s
    · exact .same rfl rfl rfl
  exact ⟨h.log, h.dl, h.mailbox⟩

theorem actsOnly_raised (env : Env) (j : Job) (s : Sys) : ActsOnly s (s.raised env j) := by
  unfold raised
  dsimp only
  split_ifs
  · exact .act rfl rfl rfl
  · exact .same rfl rfl rfl

theorem actsOnly_launched (specs : List SupervisedSpec) (s : Sys) :
    ActsOnly s ((s.seed.grow (s.evs (specs.map .launch))).reconcileBeamforming true) := by
  have hseed : ActsOnly s (s.seed.grow (s.evs (specs.map .launch))) :=
    .of_eq rfl (isAct_evs s _) rfl rfl
  exact hseed.trans (.act rfl rfl rfl) rfl

theorem actsOnly_rebuilt (env : Env) (j : Job) (specs : List SupervisedSpec) (s : Sys) :
    ActsOnly s (s.rebuilt env j specs) := by
  have hup := actsOnly_launched specs s
  unfold rebuilt
  dsimp only
  split_ifs
  · have h := hup.trans (actsOnly_start env _) rfl
    exact ⟨h.log, h.dl, h.mailbox⟩
  · exact ⟨hup.log, hup.dl, hup.mailbox⟩

theorem actsOnly_rebuild (env : Env) (j : Job) (s : Sys) :
    ActsOnly s ((rebuild env j).run id s) := by
  have hvac := actsOnly_vacated j s
  have hup := hvac.trans (actsOnly_raised env j _) (raised_effective env j _)
  refine rebuild_cases (fun _ => ?_) (fun _ _ => ?_) (fun _ => ?_) (fun specs _ => ?_)
  · exact ⟨hvac.log, hvac.dl, hvac.mailbox⟩
  · exact hvac.trans (.act rfl rfl rfl) rfl
  · exact ⟨hup.log, hup.dl, hup.mailbox⟩
  · exact hup.trans (actsOnly_rebuilt env j specs _) (rebuilt_effective env j specs _)

theorem actsOnly_encoderRestart (j : Job) (s : Sys) : ActsOnly s (s.encoderRestart j) := by
  rw [encoderRestart_eq]
  split_ifs
  · exact .of_eq rfl (isAct_evs s _) rfl rfl
  · exact .same rfl rfl rfl

theorem actsOnly_commit (env : Env) (j : Job) (s : Sys) : ActsOnly s ((commit env j).run id s) := by
  have hcom := actsOnly_committed s
  refine commit_cases (fun _ => .act rfl rfl rfl) (fun _ => ?_)
    (fun _ => ⟨hcom.log, hcom.dl, hcom.mailbox⟩) (fun _ _ => ?_) (fun _ _ => ?_)
  · exact (actsOnly_adopted s).trans (.act rfl rfl rfl) rfl
  · exact hcom.trans (actsOnly_rebuild env j _) (rebuild_effective env j _)
  · exact hcom.trans (actsOnly_encoderRestart j _) (encoderRestart_effective j _)

theorem actsOnly_addProbeStream (s : Sys) : ActsOnly s s.addProbeStream := by
  rw [addProbeStream_eq]
  exact .of_eq rfl (isAct_evs s _) rfl rfl

theorem actsOnly_setDlConfig (s : Sys) : ActsOnly s s.setDlConfig := by
  unfold setDlConfig
  split_ifs
  · exact ⟨.refl _, fun _ h => .inl h, fun _ h => .inr ⟨_, (Option.some.inj h).symm⟩⟩
  · exact .same rfl rfl rfl

theorem actsOnly_restateStaticLink (env : Env) (s : Sys) : ActsOnly s (s.restateStaticLink env) := by
  rw [restateStaticLink_eq]
  refine .of_eq rfl (fun e he => ?_) rfl rfl
  obtain ⟨p, -, rfl⟩ := List.mem_map.mp he
  exact ⟨_, _, _, _, rfl⟩

theorem actsOnly_route (env : Env) (j : Job) (s : Sys) : ActsOnly s (s.route env j) := by
  have hadd := actsOnly_addProbeStream s
  refine route_cases (fun _ _ => ?_) (fun _ _ => ?_) (fun _ _ => ?_) (fun _ => .same rfl rfl rfl)
  · exact hadd.trans (actsOnly_start env _) rfl
  · have hstop := (actsOnly_stop s).trans (u := s.stopController.removeProbeStream) (.same rfl rfl rfl) rfl
    exact hstop.trans (actsOnly_restateStaticLink env _) (by rw [restateStaticLink_eq]; rfl)
  · have htoggle : ActsOnly s (s.toggleProbe j) :=
      toggleProbe_cases hadd (.same rfl rfl rfl) (.same rfl rfl rfl)
    exact htoggle.trans (actsOnly_setDlConfig _) (by rw [setDlConfig_eq])

theorem actsOnly_finish (env : Env) (j : Job) (s : Sys) : ActsOnly s ((finish env j).run id s) := by
  have hroute := actsOnly_route env j s
  refine finish_cases ?_ ?_
  · rintro r rfl -
    have hpush := hroute.trans (u := (s.route env j).grow ((s.route env j).evs ((s.route env j).due j)))
      (.of_eq rfl (isAct_evs _ _) rfl rfl) rfl
    rw [conclude_eq]
    exact hpush.trans (.act rfl rfl rfl) rfl
  · rintro r rfl l a last err -
    have hpush := hroute.trans (u := (s.route env j).grow ((s.route env j).evs l))
      (.of_eq rfl (isAct_evs _ _) rfl rfl) rfl
    rw [← grow_grow]
    exact hpush.trans (.act rfl rfl rfl) rfl

theorem actsOnly_worker (env : Env) (k : ℕ) (s : Sys) : ActsOnly s (s.worker env k) := by
  refine worker_cases (.same rfl rfl rfl) ?_ ?_ ?_
  · rintro w o rfl
    exact .act rfl rfl rfl
  · rintro w rfl
    exact .act rfl rfl rfl
  · rintro w ok o rfl - -
    cases ok <;> exact .of_eq rfl (by simpa using ⟨⟨_, _, _, _, rfl⟩, ⟨_, _, _, _, rfl⟩⟩) rfl rfl

theorem actsOnly_begin (reallyRestart : Bool) (env : Env) (s : Sys) :
    ActsOnly s (s.begin reallyRestart env) :=
  begin_cases (fun _ _ => .same rfl rfl rfl) (fun _ _ _ _ _ => .act rfl rfl rfl)
    (fun _ _ _ => .of_eq rfl (isAct_evs s _) rfl rfl)

/-! ## Runs -/

structure Paced (s : Sys) : Prop where
  ready : ∀ l ∈ s.dl, EncReady l
  mailbox : ∀ m ∈ s.mailbox, Rated m
  log : Throughout LastDone s.log

theorem rated_snapshot {c : Config} (hv : validate c = []) (iface : String) :
    Rated (buildDlSnapshot c iface) := by
  obtain ⟨hmin, hmax, -⟩ := validateDynamicLink_compute (validate_dynamicLink hv)
  exact ⟨hmin, hmax⟩

theorem lastDone_acts {log log' : List SysEv} (h : Throughout LastDone log) (hg : Grows IsAct log log') :
    Throughout LastDone log' := by
  refine h.grows hg ?_
  rintro p ⟨u, rfl, hu⟩
  rcases List.eq_nil_or_concat' u with rfl | ⟨u, e, rfl⟩
  · simpa using h.last
  · obtain ⟨a, ok, enabled, running, rfl⟩ := hu e (by simp)
    intro d hd
    simp [SysEv.done?] at hd

theorem ActsOnly.paced (h : ActsOnly s t) (hs : Paced s) (hv : validate t.effective = []) : Paced t where
  ready l hl := by
    rcases h.dl l hl with hl | ⟨iface, gapFd, rfl⟩
    · exact hs.ready l hl
    · exact .of_idle (rated_snapshot hv iface) rfl
  mailbox m hm := by
    rcases h.mailbox m hm with hm | ⟨iface, rfl⟩
    · exact hs.mailbox m hm
    · exact rated_snapshot hv iface
  log := lastDone_acts hs.log h.log

theorem paced_round {wake : Bool} {r : Round} (hs : Paced s)
    (hm : ∀ l ∈ s.dl, Meets branch FreshIfQuiet (l, s.log) (roundInputs allOk l
      { r with event := if wake then s.mailbox.map Loop.Wake.config else none })) :
    Paced (s.dlRound allOk wake r) := by
  have hrated : (Input.event (if wake then s.mailbox.map Loop.Wake.config else none)).Rated := by
    cases wake with
    | false => trivial
    | true =>
      cases hmail : s.mailbox with
      | none => trivial
      | some m => exact hs.mailbox m hmail
  unfold dlRound
  split
  · exact hs
  · rename_i l hl
    obtain ⟨hready, t, ht, hall⟩ := lastDone_branches _ l s.log (hs.ready l hl)
      (roundInputs_rated hrated) (hm l hl) hs.log
    rw [← round_eq_inputs] at hready ht
    dsimp only
    rw [ht, List.drop_left]
    refine ⟨fun l' h => Option.some.inj h ▸ hready, fun m h => ?_, hall⟩
    cases wake with
    | false => exact hs.mailbox m h
    | true => cases h

theorem paced_step (i : Step) (hw : WellFormed s) (hs : Paced s) (hk : KeepsPace s i) :
    Paced (s.step i) := by
  have hv := (wellFormed_step s i hw).valid
  have hs₀ : Paced { s with returned := none } := ⟨hs.ready, hs.mailbox, hs.log⟩
  revert hv
  refine step_cases (R := fun t => validate t.effective = [] → Paced t) rfl (fun _ => hs₀)
    (fun _ _ _ _ => ⟨hs.ready, hs.mailbox, hs.log⟩) (fun reallyRestart env _ _ => ?_)
    (fun env j _ _ => ?_) (fun env j _ _ => ?_) (fun _ _ => ?_) (fun k env _ _ => ?_)
    (fun ack wake r hi _ => ?_)
  · exact (actsOnly_begin reallyRestart env _).paced hs₀
  · exact (actsOnly_commit env j _).paced hs₀
  · exact (actsOnly_finish env j _).paced hs₀
  · exact ActsOnly.paced (.act rfl rfl rfl) hs₀
  · exact (actsOnly_worker env k _).paced hs₀
  · subst hi
    obtain ⟨rfl, hm⟩ := hk
    exact paced_round hs₀ hm

theorem paced_bootstrap {radioTuneScript : String} {c : Config} {s₀ : Sys}
    (hboot : bootstrap radioTuneScript c env = .ok s₀) : Paced s₀ := by
  obtain ⟨hv, hstart⟩ := bootstrap_ok hboot
  have hbare : Paced { radioTuneScript := radioTuneScript, effective := c, pending := c } := by
    refine ⟨fun l h => ?_, fun m h => ?_, throughout_nil.mpr fun d h => ?_⟩
    · simp at h
    · simp at h
    · simp at h
  have hbooted : Paced (booted radioTuneScript c) := ActsOnly.paced (.act rfl rfl rfl) hbare hv
  refine startProcesses_cases (R := Paced) hstart (fun _ _ => ?_) ?_
  · exact ActsOnly.paced (.act rfl rfl rfl) hbooted hv
  · rintro r radio specs hr - u rfl
    have hradio : Paced r := by
      rw [hr]
      exact ActsOnly.paced (.act rfl rfl rfl) hbooted hv
    have hvr : validate r.effective = [] := by
      rw [hr]
      exact hv
    have hup := actsOnly_launched specs r
    split_ifs
    · exact (hup.trans (actsOnly_start env _) rfl).paced hradio hvr
    · exact hup.paced hradio hvr

end Daemon

def restartThenOther : List Step :=
  [.round allOk false (.frame 1 3 10), .patch (.obj [("image", .obj [("mirror", .bool true)])]),
   .apply true .allOk, .advance .allOk, .advance .allOk, .round allOk false (.frame 2 1 20)]

def restartThenSame : List Step :=
  [.round allOk false (.frame 1 3 10), .patch (.obj [("image", .obj [("mirror", .bool true)])]),
   .apply true .allOk, .advance .allOk, .advance .allOk, .round allOk false (.frame 2 3 20)]

end Fpvd
