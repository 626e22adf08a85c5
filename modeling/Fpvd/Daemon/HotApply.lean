import Fpvd.Daemon.Respawn
import Fpvd.Daemon.Retry

/-!
# Fpvd.Daemon.HotApply — a hot link apply against a respawn

`classifyLinkChange` sorts a link change into pushes to the running processes, so that the link need
not be restarted.  Here the video TX has a state of its own: `VideoTx.ofArgv` is what a command line
starts it with, and `CMD_SET_FEC` and `CMD_SET_RADIO` change it.
-/

namespace Fpvd

open Run Sys Orchestrator Stage

open DynLink hiding pushTxpower pushFec pushRadio

/-! ## The video TX -/

structure VideoTx where
  /-- Key file of an encrypted link. -/
  key : Option String
  mcs : ℤ
  bandwidth : ℤ
  swfec : Bool
  /-- For `swfec` the overhead. -/
  fecK : ℤ
  /-- For `swfec` the deadline. -/
  fecN : ℤ
  stbc : ℤ
  ldpc : Bool
  linkId : ℤ
  iface : String
  deriving DecidableEq, Repr

namespace VideoTx

def ofArgv (argv : List String) : Option VideoTx := do
  let opts := options argv.tail.dropLast
  let mcs ← intOption "-M" opts
  let bandwidth ← intOption "-B" opts
  let fecK ← intOption "-k" opts
  let fecN ← intOption "-n" opts
  let stbc ← intOption "-S" opts
  let ldpc ← intOption "-L" opts
  let linkId ← intOption "-i" opts
  let iface ← argv.getLast?
  return {
    key := AssocMap.find? "-K" opts, mcs, bandwidth, swfec := (AssocMap.find? "-z" opts).isSome
    fecK, fecN, stbc, ldpc := ldpc ≠ 0, linkId, iface }

def setFec (k n : ℕ) (t : VideoTx) : VideoTx := { t with fecK := k, fecN := n }

def setRadio (w : RadioWord) (t : VideoTx) : VideoTx :=
  { t with stbc := w.stbc, ldpc := w.ldpc, bandwidth := w.bandwidth, mcs := w.mcs }

def act (t : Option VideoTx) : Act → Option VideoTx
  | .launch spec => if spec.name = "wfb_video_tx" then ofArgv spec.argv else t
  | .setFec k n => t.map (setFec k n)
  | .setRadio w => t.map (setRadio w)
  | _ => t

def cmd (t : Option VideoTx) : Cmd → Option VideoTx
  | .setFec k n => t.map (setFec k n)
  | .setRadio w => t.map (setRadio w)
  | _ => t

def exec (t : Option VideoTx) : SysEv → Option VideoTx
  | .act a true _ _ => act t a
  | .dl (.cmd _ c true) => cmd t c
  | _ => t

def configured (c : Config) (iface : String) : VideoTx where
  key := if c.link.videoEncryption then some droneKey else none
  mcs := c.link.mcs
  bandwidth := modulationWidth c.link.width
  swfec := c.link.fec.mode = "swfec"
  fecK := if c.link.fec.mode = "swfec" then c.link.fec.overheadPct else c.link.fec.k
  fecN := if c.link.fec.mode = "swfec" then c.link.fec.deadlineMs else c.link.fec.n
  stbc := if c.link.stbc then 1 else 0
  ldpc := c.link.ldpc
  linkId := c.link.linkId
  iface := iface

theorem ofArgv_wfbArgs (c : Config) (iface : String) :
    ofArgv (wfbArgs c .videoTx iface droneKey) = some (configured c iface) := by
  have hflag : ∀ b, atoi (flag01 b) = if b then 1 else 0 := by decide +kernel
  unfold ofArgv wfbArgs commonTx fecArgs configured
  by_cases hf : c.link.fec.mode = "swfec" <;> cases c.link.videoEncryption <;>
    simp [hf, options, intOption, AssocMap.find?, atoi_repr, hflag]

end VideoTx

def videoTx (log : List SysEv) : Option VideoTx := log.foldl VideoTx.exec none

def tunTlm : List (String × WfbRole) :=
  [("wfb_tun_rx", .tunRx), ("wfb_tun_tx", .tunTx), ("wfb_tlm_rx", .tlmRx), ("wfb_tlm_tx", .tlmTx)]

/-- Processes and NIC are as if they had just been brought up for the effective configuration. -/
structure Mirrors (s : Sys) : Prop where
  videoTx : Fpvd.videoTx s.log = VideoTx.ofArgv (wfbArgs s.effective .videoTx s.iface droneKey)
  roles : ∀ p ∈ tunTlm, s.respawnArgv p.1 = some (wfbArgs s.effective p.2 s.iface droneKey)
  channel : (devices s.log).channel = some (s.effective.link.channel, s.effective.link.width)
  power : (devices s.log).power = some s.effective.link.txPowerDbm.nic
  mtu : (devices s.log).mtu = some s.effective.link.mtu

/-! ## Conditions -/

def Step.Succeeds : Step → Prop
  | .apply _ env | .advance env | .worker _ env => ∀ n, (env.out n).ok = true
  | .patch _ | .reset | .round _ _ _ => True

/-- Only `apply(true)` is called, and only with dynamic link off. -/
def StaysOff (s : Sys) : Step → Prop
  | .apply reallyRestart _ => reallyRestart = true ∧ s.pending.dynamicLink.enabled = false
  | _ => True

/-- A service that takes the name of a `wfb` process is this process. -/
@[mk_iff] structure OwnRoles (c : Config) (iface : String) : Prop where
  videoTx : ∀ svc ∈ enabledService c "wfb_video_tx",
    VideoTx.ofArgv (svc.exec :: svc.args) = VideoTx.ofArgv (wfbArgs c .videoTx iface droneKey)
  roles : ∀ p ∈ tunTlm, Agrees c p.1 (wfbArgs c p.2 iface droneKey)

/-- A rebuild can stop the processes and start those of the new configuration, which run the `wfb`
processes under their names. -/
def KeepsRoles (s : Sys) : Step → Prop
  | .advance env => ∀ j ∈ s.committing, j.needsRebuild = true → s.orch.stopOrder.isSome = true ∧
      (seedOrchestrator s.pending (s.seedIface env j)).startAll.isSome = true ∧
      OwnRoles s.pending (s.seedIface env j)
  | _ => True

instance (s : Sys) : ∀ i, Decidable (StaysOff s i)
  | .apply _ _ => inferInstanceAs (Decidable (_ ∧ _))
  | .patch _ | .advance _ | .reset | .worker _ _ | .round _ _ _ => inferInstanceAs (Decidable True)

instance (c : Config) (iface : String) : Decidable (OwnRoles c iface) :=
  decidable_of_iff _ (ownRoles_iff c iface).symm

instance (s : Sys) : ∀ i, Decidable (KeepsRoles s i)
  | .advance _ => inferInstanceAs (Decidable (∀ j ∈ s.committing, _))
  | .patch _ | .apply _ _ | .reset | .worker _ _ | .round _ _ _ => inferInstanceAs (Decidable True)

/-! ## Hot changes -/

namespace VideoTx

section Hot

variable {a b : Config} {iface : String} {w : RadioWord}

theorem validate_bytes {c : Config} (hv : validate c = []) :
    (u8 c.link.mcs : ℤ) = c.link.mcs ∧
    (u8 (modulationWidth c.link.width) : ℤ) = modulationWidth c.link.width ∧
    (u8 c.link.fec.k : ℤ) = c.link.fec.k ∧ (u8 c.link.fec.n : ℤ) = c.link.fec.n ∧
    (u8 c.link.fec.overheadPct : ℤ) = c.link.fec.overheadPct ∧
    (u8 c.link.fec.deadlineMs : ℤ) = c.link.fec.deadlineMs := by
  have h := validate_link hv
  simp only [validateLink, List.append_eq_nil_iff, errIf_eq_nil, Bool.or_eq_false_iff,
    Bool.and_eq_false_iff, decide_eq_false_iff_not, not_lt, not_not] at h
  obtain ⟨⟨⟨⟨⟨⟨⟨⟨hw, -⟩, hmcs⟩, -⟩, hkn⟩, -⟩, hover⟩, hdead⟩, -⟩ := h
  refine ⟨u8_of_lt (by omega) (by omega), u8_of_lt ?_ ?_, u8_of_lt (by omega) (by omega),
    u8_of_lt (by omega) (by omega), u8_of_lt (by omega) (by omega), u8_of_lt (by omega) (by omega)⟩
  all_goals
    unfold modulationWidth
    split_ifs <;> omega

theorem setRadio_configured (hv : validate b = []) :
    (configured b iface).setRadio (staticRadio b) = configured b iface := by
  obtain ⟨hmcs, hbw, -⟩ := validate_bytes hv
  unfold setRadio staticRadio configured
  simp [hmcs, hbw]

theorem hot_link (hn : (classifyLinkChange a b).fullRestart = false) :
    a.link.linkId = b.link.linkId ∧ a.link.fec.mode = b.link.fec.mode ∧
      a.link.videoEncryption = b.link.videoEncryption := by
  simp only [classifyLinkChange, Bool.or_eq_false_iff, decide_eq_false_iff_not, not_not] at hn
  exact ⟨hn.1.1.1, hn.1.2, hn.2⟩

theorem setRadio_hot (hn : (classifyLinkChange a b).fullRestart = false)
    (hfec : (classifyLinkChange a b).videoFec = false) :
    (configured a iface).setRadio w = (configured b iface).setRadio w := by
  obtain ⟨hid, hmode, henc⟩ := hot_link hn
  unfold setRadio configured
  by_cases hs : b.link.fec.mode = "swfec" <;>
    (simp only [classifyLinkChange, hmode, hs] at hfec
     simp_all)

theorem setFec_hot (hn : (classifyLinkChange a b).fullRestart = false) (hv : validate b = []) :
    ((configured a iface).setRadio w).setFec (staticFec b).1 (staticFec b).2 =
      (configured b iface).setRadio w := by
  obtain ⟨hid, hmode, henc⟩ := hot_link hn
  obtain ⟨-, -, hk, hn, hover, hdead⟩ := validate_bytes hv
  unfold setFec setRadio configured staticFec
  by_cases hs : b.link.fec.mode = "swfec" <;> simp [hs, hid, hmode, henc, hk, hn, hover, hdead]

theorem staticRadio_hot (h : (classifyLinkChange a b).videoRadiotap = false) :
    staticRadio a = staticRadio b := by
  simp only [classifyLinkChange, Bool.or_eq_false_iff, decide_eq_false_iff_not, not_not] at h
  unfold staticRadio
  rw [h.1.1.1, h.1.1.2, h.1.2, h.2]

end Hot

end VideoTx

theorem wfbArgs_tunTlm {a b : Config} (h : a.link.linkId = b.link.linkId) (iface key : String) :
    ∀ p ∈ tunTlm, wfbArgs a p.2 iface key = wfbArgs b p.2 iface key := by
  simp [tunTlm, wfbArgs, tunTlmTx, h]

theorem nic_eq_of_same {a b : TxPower} (h : a.same b = true) : a.nic = b.nic := by
  unfold TxPower.same at h
  unfold TxPower.nic
  cases ha : a.automatic <;> cases hb : b.automatic <;> simp_all

/-! ## Logs -/

theorem videoTx_append (log l : List SysEv) :
    videoTx (log ++ l) = l.foldl VideoTx.exec (videoTx log) := List.foldl_append

theorem foldl_evs {β : Type} {f : β → SysEv → β} {g : β → Act → β}
    (hfg : ∀ b a e r, f b (.act a true e r) = g b a) (s : Sys) (as : List Act) (b : β) :
    (s.evs as).foldl f b = as.foldl g b := by
  unfold evs ev
  simp only [List.foldl_map, hfg]

theorem videoTx_evs (s : Sys) (log : List SysEv) (as : List Act) :
    videoTx (log ++ s.evs as) = as.foldl VideoTx.act (videoTx log) := by
  rw [videoTx_append, foldl_evs (g := VideoTx.act) (fun _ _ _ _ => rfl)]

theorem devices_evs (s : Sys) (log : List SysEv) (as : List Act) :
    devices (log ++ s.evs as) = as.foldl Devices.act (devices log) := by
  rw [devices, List.foldl_append, foldl_evs (g := Devices.act) (fun _ _ _ _ => rfl)]
  rfl

def Devices.nic (d : Devices) : Option (ℤ × ℤ) × Option NicPower × Option ℤ :=
  (d.channel, d.power, d.mtu)

structure Neutral (e : SysEv) : Prop where
  videoTx : ∀ t, VideoTx.exec t e = t
  nic : ∀ d : Devices, (d.exec e).nic = d.nic

theorem videoTx_neutral {log l : List SysEv} (hl : ∀ e ∈ l, Neutral e) :
    videoTx (log ++ l) = videoTx log := by
  rw [videoTx_append]
  exact List.foldlRecOn l VideoTx.exec (motive := (· = videoTx log)) rfl
    fun t ht e he => ((hl e he).videoTx t).trans ht

theorem nic_unchanged {log l : List SysEv} (hl : ∀ e ∈ l, ∀ d : Devices, (d.exec e).nic = d.nic) :
    (devices (log ++ l)).nic = (devices log).nic := by
  rw [devices, List.foldl_append]
  exact List.foldlRecOn l Devices.exec (motive := fun d => d.nic = (devices log).nic) rfl
    fun d hd e he => (hl e he d).trans hd

theorem neutral_failed (s : Sys) (a : Act) : Neutral (s.ev a false) := ⟨fun _ => rfl, fun _ => rfl⟩

theorem neutral_launch (s : Sys) {spec : SupervisedSpec} (h : spec.name ≠ "wfb_video_tx") :
    Neutral (s.ev (.launch spec) true) :=
  ⟨fun _ => if_neg h, fun _ => rfl⟩

/-! ## Tracking -/

/-- Processes and NIC are those of the configuration `c`, but for what the workers have still to do. -/
structure Tracks (c : Config) (s : Sys) : Prop where
  videoTx : ∃ w, Fpvd.videoTx s.log = some ((VideoTx.configured c s.iface).setRadio w) ∧
    (w = staticRadio c ∨ true ∈ s.workers)
  roles : ∀ p ∈ tunTlm, s.respawnArgv p.1 = some (wfbArgs c p.2 s.iface droneKey)
  /-- An encoder restart does not launch the video TX. -/
  waybeam : ∀ spec ∈ s.orch.spec? "waybeam", spec.name = "waybeam"
  channel : (devices s.log).channel = some (c.link.channel, c.link.width) ∨ s.workers ≠ []
  power : (devices s.log).power = some c.link.txPowerDbm.nic
  mtu : (devices s.log).mtu = some c.link.mtu

section Steps

variable {c : Config} {s t : Sys} {env : Env} {j : Job}

theorem Tracks.mirrors (h : Tracks s.effective s) (hv : validate s.effective = [])
    (hwork : s.workers = []) : Mirrors s := by
  obtain ⟨w, htx, hw⟩ := h.videoTx
  have hw : w = staticRadio s.effective := hw.resolve_right (by simp [hwork])
  rw [hw, VideoTx.setRadio_configured hv, ← VideoTx.ofArgv_wfbArgs] at htx
  exact ⟨htx, h.roles, h.channel.resolve_right (by simp [hwork]), h.power, h.mtu⟩

theorem Tracks.keep {l : List SysEv} (h : Tracks c s) (hlog : t.log = s.log ++ l)
    (hl : ∀ e ∈ l, Neutral e) (hiface : t.iface = s.iface) (hwork : t.workers = s.workers)
    (horch : ∀ n, n ≠ "msposd" → t.orch.spec? n = s.orch.spec? n) : Tracks c t := by
  have hnic : (devices t.log).nic = (devices s.log).nic := by
    rw [hlog]
    exact nic_unchanged fun e he => (hl e he).nic
  have hchannel : (devices t.log).channel = (devices s.log).channel := congrArg (·.1) hnic
  have hpower : (devices t.log).power = (devices s.log).power := congrArg (·.2.1) hnic
  have hmtu : (devices t.log).mtu = (devices s.log).mtu := congrArg (·.2.2) hnic
  have hmsposd : ∀ p ∈ tunTlm, p.1 ≠ "msposd" := by decide
  refine ⟨?_, fun p hp => ?_, ?_, ?_, hpower.trans h.power, hmtu.trans h.mtu⟩
  · rw [hlog, videoTx_neutral hl, hiface, hwork]
    exact h.videoTx
  · rw [respawnArgv, horch p.1 (hmsposd p hp), hiface]
    exact h.roles p hp
  · rw [horch _ (by decide)]
    exact h.waybeam
  · rw [hchannel, hwork]
    exact h.channel

theorem Tracks.congr (h : Tracks c s) (hlog : t.log = s.log) (hradio : t.radio = s.radio)
    (hwork : t.workers = s.workers) (horch : t.orch = s.orch) : Tracks c t :=
  h.keep (l := []) (by rw [hlog, List.append_nil]) (by simp)
    (congrArg (fun r : RadioInfo => ifaceOr r.iface) hradio) hwork fun n _ => by rw [horch]

theorem tracks_committed (h : Tracks c s) : Tracks c s.committed := by
  refine h.keep (l := [s.ev (.writeConfig s.pending) true,
    s.adopted.ev (.writeWaybeam (toWaybeamJson s.pending)) true]) ?_ ?_ rfl rfl fun _ _ => rfl
  · simp [committed, adopted]
  · simp only [List.mem_cons, List.not_mem_nil, or_false]
    rintro e (rfl | rfl) <;> exact ⟨fun _ => rfl, fun _ => rfl⟩

theorem tracks_encoderRestart (h : Tracks c s) (j : Job) : Tracks c (s.encoderRestart j) := by
  have horch : ∀ n, n ≠ "msposd" → (s.encoderRestart j).orch.spec? n = s.orch.spec? n := by
    intro n hn
    rw [encoderRestart_spec?, if_neg fun h => hn h.2.1]
  have hiface := encoderRestart_iface j s
  revert horch hiface
  rw [encoderRestart_eq]
  split_ifs with he
  · intro horch hiface
    refine h.keep rfl ?_ hiface rfl horch
    simp only [evs, List.map_map, List.mem_map, List.mem_append, Option.mem_toList]
    rintro e ⟨spec, hspec, rfl⟩
    refine neutral_launch s ?_
    rcases hspec with hspec | hspec
    · rw [h.waybeam spec hspec]
      decide
    · unfold osdSpec at hspec
      split_ifs at hspec
      obtain rfl := Option.some.inj hspec
      exact (by decide : "msposd" ≠ "wfb_video_tx")
  · exact fun _ _ => h.congr rfl rfl rfl rfl

/-! ## Hot path -/

theorem attempt_succeeds (henv : ∀ n, (env.out n).ok = true) (a : Sys → Act)
    (onFail : Outcome → Sys → Sys) (k : Sys → Sys) (s : Sys) :
    (attempt env a onFail).run k s = k (s.grow (s.evs [a s])) := by
  rw [attempt_run, if_pos (henv _)]
  rfl

theorem hotPush_succeeds (henv : ∀ n, (env.out n).ok = true) (j : Job) (due : Bool) (a : Sys → Act)
    (label : String) (k : Sys → Sys) (s : Sys) :
    (hotPush env j due a label).run k s = k (s.grow (s.evs (if due then [a s] else []))) := by
  unfold hotPush
  rw [run_when, attempt_succeeds henv]
  cases due
  · simp [evs]
  · rfl

theorem finish_succeeds (henv : ∀ n, (env.out n).ok = true) (hold : j.enabledOld = false)
    (hnew : j.enabledNew = false) :
    (finish env j).run id s =
      ((s.grow (s.evs (s.due j))).reconcileBeamforming j.subs.radio).conclude j := by
  have hroute : s.route env j = s := by
    unfold route
    simp [hold, hnew]
  unfold finish pushTxpower pushMtu pushFec pushRadio due
  simp only [run_andThen, run_lift, hotPush_succeeds henv, hroute, grow_grow, id]
  simp only [evs, List.map_append]
  rfl

theorem due_nic (d : Devices) (hnew : j.enabledNew = false) :
    ((s.due j).foldl Devices.act d).nic =
      (d.channel, if j.link.nicTxpower then some s.effective.link.txPowerDbm.nic else d.power,
        if j.link.nicMtu then some s.effective.link.mtu else d.mtu) := by
  unfold due
  rw [hnew]
  cases j.link.nicTxpower <;> cases j.link.nicMtu <;> cases j.link.videoFec <;>
    cases j.link.videoRadiotap <;> cases j.link.nicWidth <;> rfl

theorem due_videoTx (t : VideoTx) (hnew : j.enabledNew = false) :
    (s.due j).foldl VideoTx.act (some t) =
      let u := if j.link.videoFec then
        t.setFec (staticFec s.effective).1 (staticFec s.effective).2 else t
      some (if j.link.videoRadiotap && !j.link.nicWidth then u.setRadio (staticRadio s.effective)
        else u) := by
  unfold due
  rw [hnew]
  cases j.link.nicTxpower <;> cases j.link.nicMtu <;> cases j.link.videoFec <;>
    cases j.link.videoRadiotap <;> cases j.link.nicWidth <;> rfl

theorem channel_hot {a b : Config} (h : (classifyLinkChange a b).nicChannel = false) :
    a.link.channel = b.link.channel ∧ a.link.width = b.link.width := by
  simpa [classifyLinkChange] using h

theorem nicChannel_of_width {a b : Config} (h : (classifyLinkChange a b).nicWidth = true) :
    (classifyLinkChange a b).nicChannel = true := by
  simp only [classifyLinkChange] at h ⊢
  rw [h, Bool.or_true]

section Pushes

variable {old : Config} (hlink : j.link = classifyLinkChange old s.effective)
  (hnew : j.enabledNew = false)

include hlink hnew

theorem pushed_nic (h : Tracks old s) :
    (devices (s.log ++ s.evs (s.due j))).nic = ((devices s.log).channel,
      some s.effective.link.txPowerDbm.nic, some s.effective.link.mtu) := by
  have hpower : (classifyLinkChange old s.effective).nicTxpower = false →
      (devices s.log).power = some s.effective.link.txPowerDbm.nic := by
    intro hn
    rw [h.power, nic_eq_of_same (by simpa [classifyLinkChange] using hn)]
  have hmtu : (classifyLinkChange old s.effective).nicMtu = false →
      (devices s.log).mtu = some s.effective.link.mtu := by
    intro hn
    have heq : old.link.mtu = s.effective.link.mtu := by simpa [classifyLinkChange] using hn
    rw [h.mtu, heq]
  rw [devices_evs, due_nic _ hnew, hlink]
  split_ifs <;> simp_all

theorem pushed_videoTx (hfull : (classifyLinkChange old s.effective).fullRestart = false)
    (hv : validate s.effective = []) (h : Tracks old s) :
    ∃ w, videoTx (s.log ++ s.evs (s.due j)) =
        some ((VideoTx.configured s.effective s.iface).setRadio w) ∧
      (w = staticRadio s.effective ∨
        true ∈ s.workers ++ if j.link.nicChannel then [j.link.nicWidth] else []) := by
  obtain ⟨w, htx, hw⟩ := h.videoTx
  have hfec : (if j.link.videoFec then ((VideoTx.configured old s.iface).setRadio w).setFec
        (staticFec s.effective).1 (staticFec s.effective).2
      else (VideoTx.configured old s.iface).setRadio w) =
      (VideoTx.configured s.effective s.iface).setRadio w := by
    rw [hlink]
    split_ifs with hf
    · exact VideoTx.setFec_hot hfull hv
    · exact VideoTx.setRadio_hot hfull (by simpa using hf)
  rw [videoTx_evs, htx, due_videoTx _ hnew, hfec]
  dsimp only
  by_cases hpush : (j.link.videoRadiotap && !j.link.nicWidth) = true
  · rw [if_pos hpush]
    exact ⟨staticRadio s.effective, rfl, .inl rfl⟩
  · rw [if_neg hpush]
    refine ⟨w, rfl, ?_⟩
    cases hwidth : j.link.nicWidth with
    | true =>
      have hc : j.link.nicChannel = true := hlink ▸ nicChannel_of_width (hlink ▸ hwidth)
      simp [hc]
    | false =>
      have htap : j.link.videoRadiotap = false := by simpa [hwidth] using hpush
      rw [← VideoTx.staticRadio_hot (hlink ▸ htap)]
      exact hw.imp_right fun hw => List.mem_append_left _ hw

end Pushes

/-- **The hot path covers every field**: what tracked the old configuration tracks the new one. -/
theorem tracks_finish {old : Config} (henv : ∀ n, (env.out n).ok = true)
    (hof : j = Job.of true old s.effective) (hn : j.needsRebuild = false)
    (hold : old.dynamicLink.enabled = false) (hoff : s.effective.dynamicLink.enabled = false)
    (hv : validate s.effective = []) (h : Tracks old s) :
    Tracks s.effective ((finish env j).run id s) := by
  have hlink : j.link = classifyLinkChange old s.effective := by rw [hof]; rfl
  have hnew : j.enabledNew = false := by rw [hof]; exact hoff
  have hfull : (classifyLinkChange old s.effective).fullRestart = false := by
    unfold Job.needsRebuild at hn
    rw [hlink, Bool.or_eq_false_iff] at hn
    exact hn.2
  have hnic := pushed_nic hlink hnew h
  have hu : Tracks s.effective { s.grow (s.evs (s.due j)) with
      workers := s.workers ++ if j.link.nicChannel then [j.link.nicWidth] else [] } := by
    refine ⟨pushed_videoTx hlink hnew hfull hv h, fun p hp => ?_, h.waybeam, ?_,
      congrArg (·.2.1) hnic, congrArg (·.2.2) hnic⟩
    · rw [← wfbArgs_tunTlm (VideoTx.hot_link hfull).1 _ _ p hp]
      exact h.roles p hp
    · have hchannel : (devices (s.log ++ s.evs (s.due j))).channel = (devices s.log).channel :=
        congrArg (·.1) hnic
      show (devices (s.log ++ s.evs (s.due j))).channel = some _ ∨ _
      rw [hchannel]
      cases hc : j.link.nicChannel with
      | true => exact .inr (by simp)
      | false =>
        obtain ⟨hch, hwd⟩ := channel_hot (hlink ▸ hc)
        rw [← hch, ← hwd]
        simpa using h.channel
  rw [finish_succeeds henv (by rw [hof]; exact hold) hnew, conclude_eq]
  refine hu.keep rfl ?_ rfl rfl fun _ _ => rfl
  simp only [List.mem_singleton]
  rintro e rfl
  exact ⟨fun _ => rfl, fun _ => rfl⟩

/-! ## Deferred worker -/

theorem worker_succeeds (henv : ∀ n, (env.out n).ok = true) {i : ℕ} {pushWidth : Bool}
    (hi : s.workers[i]? = some pushWidth) :
    s.worker env i =
      { s with workers := s.workers.eraseIdx i }.grow
        (s.evs (Act.tune .channel s.radioEnv :: if pushWidth then [s.radioAct] else [])) := by
  unfold worker
  rw [hi]
  dsimp only
  rw [run_andThen, attempt_succeeds henv, run_when, attempt_succeeds henv]
  cases pushWidth
  · rfl
  · rw [if_pos rfl, grow_grow]
    rfl

/-- **A worker does what it was left**, on the configuration that is effective when it runs. -/
theorem tracks_worker (henv : ∀ n, (env.out n).ok = true) (i : ℕ) (h : Tracks s.effective s) :
    Tracks s.effective (s.worker env i) := by
  cases hi : s.workers[i]? with
  | none =>
    unfold worker
    rw [hi]
    exact h
  | some pushWidth =>
    rw [worker_succeeds henv hi]
    obtain ⟨w, htx, hw⟩ := h.videoTx
    refine ⟨?_, h.roles, h.waybeam, ?_, ?_, ?_⟩
    · show ∃ w, videoTx (s.log ++ s.evs _) = _ ∧ (_ ∨ true ∈ s.workers.eraseIdx i)
      rw [videoTx_evs, htx]
      cases pushWidth with
      | true => exact ⟨staticRadio s.effective, rfl, .inl rfl⟩
      | false =>
        -- another worker is left to push the radiotap
        refine ⟨w, rfl, hw.imp_right fun hmem => ?_⟩
        obtain ⟨k, hk⟩ := List.mem_iff_getElem?.mp hmem
        refine List.mem_eraseIdx_iff_getElem?.mpr ⟨k, fun hki => ?_, hk⟩
        rw [hki, hi] at hk
        cases hk
    · show (devices (s.log ++ s.evs _)).channel = _ ∨ _
      rw [devices_evs]
      cases pushWidth <;> exact .inl rfl
    · show (devices (s.log ++ s.evs _)).power = _
      rw [devices_evs]
      cases pushWidth <;> exact h.power
    · show (devices (s.log ++ s.evs _)).mtu = _
      rw [devices_evs]
      cases pushWidth <;> exact h.mtu

/-! ## Rebuild -/

variable {specs : List SupervisedSpec}

theorem launched_videoTx {iface : String} (hown : OwnRoles c iface)
    (hspecs : (seedOrchestrator c iface).startAll = some specs) (t : Option VideoTx) :
    (specs.map Act.launch).foldl VideoTx.act t = some (VideoTx.configured c iface) := by
  obtain ⟨spec, hspec, hargs⟩ := Option.map_eq_some_iff.mp (seed_argv_videoTx c iface)
  have hline : VideoTx.ofArgv spec.argv = some (VideoTx.configured c iface) := by
    rw [hargs, ← VideoTx.ofArgv_wfbArgs]
    cases hs : enabledService c "wfb_video_tx" with
    | none => rfl
    | some svc => exact hown.videoTx svc hs
  have hset : ∀ t, VideoTx.act t (.launch spec) = some (VideoTx.configured c iface) := by
    intro t
    rw [VideoTx.act, if_pos (seed_spec?_name hspec), hline]
  refine foldl_eq_of_set _ t (fun a ha => ?_) ⟨.launch spec, ?_, hset⟩
  · obtain ⟨sp, hsp, rfl⟩ := List.mem_map.mp ha
    obtain ⟨n, hn⟩ := (mem_startAll hspecs sp).mp hsp
    by_cases hv : sp.name = "wfb_video_tx"
    · rw [← seed_spec?_name hn, hv] at hn
      rw [Option.some.inj (hn.symm.trans hspec)]
      exact .inr hset
    · exact .inl fun t => if_neg hv
  · exact List.mem_map_of_mem ((mem_startAll hspecs spec).mpr ⟨_, hspec⟩)

theorem tracks_started {r : Sys} {e : SysEv} (hv : validate c = []) (hown : OwnRoles c r.iface)
    (hspecs : (seedOrchestrator c r.iface).startAll = some specs)
    (hlog : t.log = r.log ++ r.evs (specs.map .launch) ++ [e]) (he : Neutral e)
    (hiface : t.iface = r.iface) (horch : t.orch = seedOrchestrator c r.iface)
    (hchannel : (devices r.log).channel = some (c.link.channel, c.link.width) ∨ t.workers ≠ [])
    (hpower : (devices r.log).power = some c.link.txPowerDbm.nic)
    (hmtu : (devices r.log).mtu = some c.link.mtu) : Tracks c t := by
  have hnic : (devices t.log).nic = (devices r.log).nic := by
    rw [hlog, nic_unchanged (by simpa using he.nic), nic_unchanged]
    simp only [evs, List.map_map, List.mem_map]
    rintro _ ⟨spec, -, rfl⟩ d
    rfl
  have hchannel' : (devices t.log).channel = (devices r.log).channel := congrArg (·.1) hnic
  have hpower' : (devices t.log).power = (devices r.log).power := congrArg (·.2.1) hnic
  have hmtu' : (devices t.log).mtu = (devices r.log).mtu := congrArg (·.2.2) hnic
  refine ⟨⟨staticRadio c, ?_, .inl rfl⟩, ?_, ?_, ?_, hpower'.trans hpower, hmtu'.trans hmtu⟩
  · rw [hlog, videoTx_neutral (by simpa using he), videoTx_evs, launched_videoTx hown hspecs, hiface,
      VideoTx.setRadio_configured hv]
  · intro p hp
    have hmem : ∀ p ∈ tunTlm, wfbSpec p.1 (wfbArgs c p.2 r.iface droneKey) [] ∈ builtins c r.iface := by
      simp [tunTlm, builtins]
    have hargv := seed_argv (hmem p hp)
    rw [respawnArgv, horch, hiface]
    exact hargv.trans (congrArg some (hown.roles p hp).getD)
  · rw [horch]
    exact fun spec hspec => seed_spec?_name hspec
  · rw [hchannel']
    exact hchannel

theorem restartAll_succeeds (henv : ∀ n, (env.out n).ok = true)
    (hspecs : (s.raised env j).seed.orch.startAll = some specs) :
    (restartAll env j).run id s = (s.raised env j).rebuilt env j specs := by
  have hgo : startAll.run (fun s =>
      (if j.enabledNew then (s.reconcileBeamforming true).startController env
        else s.reconcileBeamforming true).retOk j.restarted) (s.raised env j).seed =
      (s.raised env j).rebuilt env j specs := by
    rw [startAll_run, hspecs]
    rfl
  rw [← hgo]
  unfold restartAll raised
  simp only [run_andThen, run_when, bringUpRadio_run, run_lift, id, henv, if_true]
  cases j.subs.radio <;> rfl

theorem rebuild_succeeds (henv : ∀ n, (env.out n).ok = true) (hold : j.enabledOld = false)
    (hstop : s.orch.stopOrder.isSome = true)
    (hspecs : ((s.vacated j).raised env j).seed.orch.startAll = some specs) :
    (rebuild env j).run id s = ((s.vacated j).raised env j).rebuilt env j specs := by
  obtain ⟨order, horder⟩ := Option.isSome_iff_exists.mp hstop
  rw [← restartAll_succeeds henv hspecs]
  unfold rebuild vacated
  simp only [run_andThen, run_lift, stopAll_run, hold, Bool.false_eq_true, if_false, horder]

theorem commit_succeeds (henv : ∀ n, (env.out n).ok = true) (hreally : j.reallyRestart = true) :
    (commit env j).run id s =
      if j.needsRebuild then (rebuild env j).run id s.committed else s.committed.encoderRestart j := by
  unfold commit commitConfig
  simp only [run_andThen, attempt_succeeds henv, run_lift, hreally, Bool.not_true, Bool.false_eq_true,
    if_false]
  split_ifs <;> rfl

theorem raised_nic (env : Env) (hof : j = Job.of true s.effective s.pending) (h : Tracks s.effective s) :
    let r := (s.committed.vacated j).raised env j
    ((devices r.log).channel = some (s.pending.link.channel, s.pending.link.width) ∨ s.workers ≠ []) ∧
      (devices r.log).power = some s.pending.link.txPowerDbm.nic ∧
      (devices r.log).mtu = some s.pending.link.mtu := by
  intro r
  have hc := tracks_committed h
  have hlog : r.log = _ := raised_log env j (s.committed.vacated j)
  rw [vacated_log] at hlog
  rw [hlog]
  cases hr : j.subs.radio with
  | true =>
    have heff : (s.committed.vacated j).effective = s.pending := vacated_effective j _
    simp only [if_true, devices_concat]
    rw [← heff]
    exact ⟨.inl rfl, rfl, rfl⟩
  | false =>
    -- the link blocks agree, but for the unused field of an automatic power
    have hsame : s.effective.link.toJson = s.pending.link.toJson := by
      rw [hof] at hr
      simpa [Job.of, diffSubsystems] using hr
    obtain ⟨hpow, hlink⟩ := Link.toJson_inj.mp hsame
    have hch : s.effective.link.channel = s.pending.link.channel := by rw [hlink]
    have hwd : s.effective.link.width = s.pending.link.width := by rw [hlink]
    have hmtu : s.effective.link.mtu = s.pending.link.mtu := by rw [hlink]
    simp only [Bool.false_eq_true, if_false, List.append_nil]
    rw [← hch, ← hwd, ← hmtu, ← nic_eq_of_same hpow]
    exact ⟨hc.channel, hc.power, hc.mtu⟩

theorem tracks_rebuild (henv : ∀ n, (env.out n).ok = true)
    (hof : j = Job.of true s.effective s.pending) (hoff : s.effective.dynamicLink.enabled = false)
    (hv : validate s.pending = []) (hstop : s.orch.stopOrder.isSome = true)
    (hstart : (seedOrchestrator s.pending (s.seedIface env j)).startAll.isSome = true)
    (hown : OwnRoles s.pending (s.seedIface env j)) (h : Tracks s.effective s) :
    ∃ specs, (rebuild env j).run id s.committed =
        ((s.committed.vacated j).raised env j).rebuilt env j specs ∧
      Tracks s.pending (((s.committed.vacated j).raised env j).rebuilt env j specs) := by
  obtain ⟨specs, hspecs⟩ := Option.isSome_iff_exists.mp hstart
  have hreally : j.reallyRestart = true := by rw [hof]; rfl
  obtain ⟨r, hr⟩ : ∃ r, r = (s.committed.vacated j).raised env j := ⟨_, rfl⟩
  have hiface : r.iface = s.seedIface env j := by rw [hr, raised_seedIface hreally]
  have heff : r.effective = s.pending := by rw [hr, raised_pending]
  have hwork : r.workers = s.workers := by
    rw [hr, raised_workers, vacated_workers]
    rfl
  obtain ⟨hchannel, hpower, hmtu⟩ := raised_nic env hof h
  obtain ⟨a, b, d, hlog⟩ := rebuilt_log env j specs r
  rw [← hr] at hchannel hpower hmtu ⊢
  have hseed : r.seed.orch.startAll = some specs := by
    rw [← hspecs, ← hiface, ← heff]
    rfl
  refine ⟨specs, ?_, ?_⟩
  · have hold : j.enabledOld = false := by rw [hof]; exact hoff
    rw [hr] at hseed ⊢
    exact rebuild_succeeds (s := s.committed) henv hold hstop hseed
  · refine tracks_started hv (hiface ▸ hown) (hiface ▸ hspecs) hlog ⟨fun _ => rfl, fun _ => rfl⟩
      (rebuilt_iface env j specs r) (by rw [rebuilt_orch, heff]) ?_ hpower hmtu
    rw [rebuilt_workers, hwork]
    exact hchannel

/-! ## Steps -/

/-- Dynamic link is off; processes and NIC track the effective configuration or, before the third part
of an apply, the one that was effective before. -/
structure Synced (s : Sys) : Prop where
  off : s.effective.dynamicLink.enabled = false
  stopped : s.dl = none
  commit : ∀ j, s.job = some (.commit, j) →
    j.reallyRestart = true ∧ s.pending.dynamicLink.enabled = false
  finish : ∀ j, s.job = some (.finish, j) → ∃ old, j = Job.of true old s.effective ∧
    old.dynamicLink.enabled = false ∧ Tracks old s
  tracks : (∀ j, s.job ≠ some (.finish, j)) → Tracks s.effective s

theorem Synced.of_idle (hjob : s.job = none) (hoff : s.effective.dynamicLink.enabled = false)
    (hdl : s.dl = none) (h : Tracks s.effective s) : Synced s :=
  ⟨hoff, hdl, fun j hj => by simp [hjob] at hj, fun j hj => by simp [hjob] at hj, fun _ => h⟩

theorem synced_begin {reallyRestart : Bool} (hoff : s.effective.dynamicLink.enabled = false)
    (hdl : s.dl = none) (hstays : StaysOff s (.apply reallyRestart env)) (h : Tracks s.effective s) :
    Synced (s.begin reallyRestart env) := by
  refine begin_cases (fun _ _ => ?_) (fun _ a _ _ _ => ?_) ?_
  · exact .of_idle rfl hoff hdl (h.congr rfl rfl rfl rfl)
  · refine .of_idle rfl hoff hdl (h.keep rfl ?_ rfl rfl fun _ _ => rfl)
    simpa using neutral_failed s a
  · rintro - j rfl
    refine ⟨hoff, hdl, ?_, fun j hj => by simp at hj, fun _ => h.keep rfl ?_ rfl rfl fun _ _ => rfl⟩
    · rintro j hj
      obtain rfl : Job.of reallyRestart s.effective s.pending = j := by simpa using hj
      exact hstays
    · -- the live push goes to the encoder
      simp only [evs, liveActs, List.mem_map]
      rintro _ ⟨a, ha, rfl⟩
      split_ifs at ha
      · rw [List.mem_singleton.mp ha]
        exact ⟨fun _ => rfl, fun _ => rfl⟩
      · simp at ha

theorem synced_commit (hw : WellFormed s) (hs : Synced s) (hjob : s.job = some (.commit, j))
    (henv : ∀ n, (env.out n).ok = true) (hkeeps : KeepsRoles s (.advance env)) :
    Synced ((commit env j).run id s) := by
  obtain ⟨hreally, hpend⟩ := hs.commit j hjob
  obtain ⟨hof, hv⟩ := hw.commit j hjob
  rw [hreally] at hof
  have htracks : Tracks s.effective s := hs.tracks fun j' hj' => by simp [hjob] at hj'
  rw [commit_succeeds henv hreally]
  cases hn : j.needsRebuild with
  | true =>
    obtain ⟨hstop, hstart, hown⟩ := hkeeps j (by rw [committing, hjob]; rfl) hn
    obtain ⟨specs, hrun, ht⟩ := tracks_rebuild henv hof hs.off hv hstop hstart hown htracks
    have hnew : j.enabledNew = false := by rw [hof]; exact hpend
    have heff : (((s.committed.vacated j).raised env j).rebuilt env j specs).effective = s.pending := by
      rw [rebuilt_effective, raised_pending]
    rw [if_pos rfl, hrun]
    refine .of_idle rfl (heff ▸ hpend) ?_ (heff ▸ ht)
    rw [rebuilt_dl, hnew, if_neg (by simp), raised_dl, vacated_dl]
    split_ifs
    · rfl
    · exact hs.stopped
  | false =>
    have heff : (s.committed.encoderRestart j).effective = s.pending := encoderRestart_effective j _
    have hjob' : (s.committed.encoderRestart j).job = some (.finish, j) := rfl
    have hdl : (s.committed.encoderRestart j).dl = none := by
      rw [encoderRestart_eq]
      split_ifs <;> exact hs.stopped
    rw [if_neg (by simp)]
    refine ⟨heff ▸ hpend, hdl, fun j' hj' => ?_, fun j' hj' => ?_, fun hne => absurd hjob' (hne j)⟩
    · simp [hjob'] at hj'
    · obtain rfl : j = j' := by simpa [hjob'] using hj'
      exact ⟨s.effective, by rw [heff]; exact hof, hs.off,
        tracks_encoderRestart (tracks_committed htracks) j⟩

theorem synced_finish (hw : WellFormed s) (hs : Synced s) (hjob : s.job = some (.finish, j))
    (henv : ∀ n, (env.out n).ok = true) : Synced ((finish env j).run id s) := by
  obtain ⟨old, hof, hold, htracks⟩ := hs.finish j hjob
  have ht := tracks_finish henv hof (hw.finish j hjob).2.1 hold hs.off hw.valid htracks
  have hold' : j.enabledOld = false := by rw [hof]; exact hold
  have hnew : j.enabledNew = false := by rw [hof]; exact hs.off
  rw [finish_succeeds henv hold' hnew, conclude_eq] at ht ⊢
  exact .of_idle rfl hs.off hs.stopped ht

theorem synced_worker (hs : Synced s) (hjob : s.job = none) (henv : ∀ n, (env.out n).ok = true)
    (i : ℕ) : Synced (s.worker env i) := by
  have ht := tracks_worker henv i (hs.tracks (by simp [hjob]))
  revert ht
  refine worker_cases (R := fun t => Tracks s.effective t → Synced t) (fun _ => hs) ?_ ?_ ?_
  · rintro w o rfl ht
    exact .of_idle hjob hs.off hs.stopped ht
  · rintro w rfl ht
    exact .of_idle hjob hs.off hs.stopped ht
  · rintro w ok o rfl - - ht
    cases ok <;> exact .of_idle hjob hs.off hs.stopped ht

theorem synced_step (i : Step) (hw : WellFormed s) (hs : Synced s) (hstays : StaysOff s i)
    (hkeeps : KeepsRoles s i) (hi : i.Succeeds) : Synced (s.step i) := by
  have hidle : s.job = none → Tracks s.effective s := fun hjob => hs.tracks (by simp [hjob])
  have hs₀ : Synced { s with returned := none } := by
    refine ⟨hs.off, hs.stopped, hs.commit, fun j hj => ?_, fun hne => ?_⟩
    · obtain ⟨old, hof, hold, ht⟩ := hs.finish j hj
      exact ⟨old, hof, hold, ht.congr rfl rfl rfl rfl⟩
    · exact (hs.tracks hne).congr rfl rfl rfl rfl
  refine step_cases rfl hs₀ ?_ ?_ ?_ ?_ ?_ ?_ ?_
  · rintro body rfl hjob
    exact .of_idle hjob hs.off hs.stopped ((hidle hjob).congr rfl rfl rfl rfl)
  · rintro reallyRestart env rfl hjob
    exact synced_begin hs.off hs.stopped hstays ((hidle hjob).congr rfl rfl rfl rfl)
  · rintro env j rfl hjob
    exact synced_commit ⟨hw.valid, hw.commit, hw.finish⟩ hs₀ hjob hi hkeeps
  · rintro env j rfl hjob
    exact synced_finish ⟨hw.valid, hw.commit, hw.finish⟩ hs₀ hjob hi
  · rintro rfl hjob
    refine .of_idle hjob hs.off hs.stopped ((hidle hjob).keep rfl ?_ rfl rfl fun _ _ => rfl)
    simp only [List.mem_singleton]
    rintro e rfl
    exact ⟨fun _ => rfl, fun _ => rfl⟩
  · rintro k env rfl hjob
    exact synced_worker hs₀ hjob hi k
  · rintro ack wake r rfl
    unfold dlRound
    split
    · exact hs₀
    · rename_i l hl
      rw [hs₀.stopped] at hl
      cases hl

end Steps

/-! ## Runs -/

section Runs

variable {radioTuneScript : String} {c : Config} {env : Env} {s₀ : Sys}

theorem synced_bootstrap (hboot : bootstrap radioTuneScript c env = .ok s₀)
    (henv : ∀ n, (env.out n).ok = true) (hoff : c.dynamicLink.enabled = false)
    (hown : OwnRoles c s₀.iface) : Synced s₀ := by
  obtain ⟨hv, hstart⟩ := bootstrap_ok hboot
  revert hown
  refine startProcesses_cases (R := fun s => OwnRoles c s.iface → Synced s) hstart
    (fun hfail => by rw [henv] at hfail; cases hfail) ?_
  rintro r radio specs hr hspecs u hu hown
  have hc : (booted radioTuneScript c).effective = c := rfl
  rw [hc, hoff, if_neg (by simp)] at hown ⊢
  have heff : r.effective = c := by rw [hr]; rfl
  have hiface : u.iface = r.iface := by rw [hu]; rfl
  have horch : u.orch = seedOrchestrator c r.iface := by rw [hu, ← heff]; rfl
  have hlog : ∃ e, u.log = r.log ++ r.evs (specs.map .launch) ++ [e] ∧ Neutral e := by
    rw [hu]
    exact ⟨_, rfl, fun _ => rfl, fun _ => rfl⟩
  obtain ⟨e, hlog, he⟩ := hlog
  rw [seed, heff] at hspecs
  have ht : Tracks c u := by
    refine tracks_started hv (hiface ▸ hown) hspecs hlog he hiface horch (.inl ?_) ?_ ?_
    all_goals
      rw [hr]
      rfl
  subst hu hr
  exact .of_idle rfl hoff rfl ht

/-- **A hot apply is as good as a respawn**: dynamic link stays off and nothing outside fails; the
rebuilds of the run can stop and start the processes, and no service stands in for one of the `wfb`
processes.  Once no apply and no worker is left, the video TX is in the state of one freshly launched
for the effective configuration, tunnel and telemetry have its command lines, and the NIC its values. -/
theorem hot_apply_mirrors (hboot : bootstrap radioTuneScript c env = .ok s₀)
    (henv : ∀ n, (env.out n).ok = true) (hoff : c.dynamicLink.enabled = false)
    (hown : OwnRoles c s₀.iface) (is : List Step) (hsucceeds : ∀ i ∈ is, i.Succeeds)
    (hstays : Meets Sys.step StaysOff s₀ is) (hkeeps : Meets Sys.step KeepsRoles s₀ is)
    (hjob : (is.foldl Sys.step s₀).job = none) (hwork : (is.foldl Sys.step s₀).workers = []) :
    Mirrors (is.foldl Sys.step s₀) := by
  have hinv := Meets.invariant (I := fun s => WellFormed s ∧ Synced s)
    (fun s i hs hi => ⟨wellFormed_step s i hs.1, synced_step i hs.1 hs.2 hi.1.1 hi.1.2 hi.2⟩) is s₀
    ⟨wellFormed_bootstrap hboot, synced_bootstrap hboot henv hoff hown⟩
    ((hstays.and is s₀ hkeeps).and_mem is s₀ hsucceeds)
  obtain ⟨hw, hs⟩ := hinv
  exact (hs.tracks (by simp [hjob])).mirrors hw.valid hwork

end Runs

def retuned : List Step :=
  [.patch (.obj [("link", .obj [("width", .int 40), ("mcs", .int 3)])]), .apply true .allOk,
   .advance .allOk, .advance .allOk,
   .patch (.obj [("link", .obj [("channel", .int 149), ("fec", .obj [("k", .int 4)]),
     ("txPowerDbm", .int 10)])]), .apply true .allOk, .advance .allOk, .advance .allOk,
   .worker 1 .allOk, .patch (.obj [("link", .obj [("linkId", .int 7)])]), .apply true .allOk,
   .advance .allOk, .worker 0 .allOk]

theorem hot_apply_mirrors_retuned : Mirrors (retuned.foldl Sys.step parked) :=
  hot_apply_mirrors (bootstrap_get _) (fun _ => rfl) rfl (by decide +kernel) retuned
    (by simp [retuned, Step.Succeeds, Env.allOk]) (by decide +kernel) (by decide +kernel)
    (by decide +kernel) (by decide +kernel)

def tunReplaced : List Step :=
  [.patch (.obj [("services", .obj [("wfb_tun_tx", .obj [("args", .arr []), ("enabled", .bool true),
    ("env", .obj []), ("exec", .str "/bin/true"), ("restart", .str "never"),
    ("startAfter", .arr [])])])]), .apply true .allOk, .advance .allOk]

/-- The configuration is accepted and applied, nothing outside fails, and the tunnel's transmitter is
not registered with the command line of its role. -/
theorem tun_service_diverges : (∀ i ∈ tunReplaced, i.Succeeds) ∧
    Meets Sys.step StaysOff parked tunReplaced ∧
    validate (tunReplaced.foldl Sys.step parked).effective = [] ∧
    returnedOk (tunReplaced.foldl Sys.step parked) = true ∧
    (tunReplaced.foldl Sys.step parked).job = none ∧
    (tunReplaced.foldl Sys.step parked).workers = [] ∧
    (tunReplaced.foldl Sys.step parked).respawnArgv "wfb_tun_tx" = some ["/bin/true"] ∧
    ¬ Mirrors (tunReplaced.foldl Sys.step parked) := by
  refine ⟨by simp [tunReplaced, Step.Succeeds, Env.allOk], by decide +kernel, by decide +kernel,
    by decide +kernel, by decide +kernel, by decide +kernel, by decide +kernel, fun h => ?_⟩
  exact absurd (h.roles ("wfb_tun_tx", .tunTx) (by decide)) (by decide +kernel)

end Fpvd
