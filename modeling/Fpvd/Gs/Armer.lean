import Fpvd.Lib.WriteLog
import Fpvd.Gs.Effective

/-!
# Fpvd.Gs.Armer — the beamformee of the ground station

`BeamformingController` of `gs/fpvdgs/beamforming.py` arms the `bf_monitor_conf` node of one card for
the MAC of the drone.  `BeamformingArmer.tick` (`gs/fpvdgs/beamforming_armer.py`) reconciles it with the
configuration every few seconds, and is its only caller.
-/

namespace Fpvd.Gs

open WriteLog

/-! ## The controller -/

inductive BfState where
  | disabled
  | unsupported
  | active
  | error
  deriving DecidableEq, Repr

structure BeamformingController where
  armed : Bool := false
  iface : String := ""
  peer : String := ""
  state : BfState := .disabled
  reason : String := ""
  /-- the writes to `bf_monitor_conf` so far, by interface -/
  writes : List (Write String String) := []
  deriving DecidableEq, Repr

def armConf (peerMac : String) : String := "1 " ++ peerMac ++ " 0 0"

def disarmConf : String := "0 00:00:00:00:00:00 0 0"

structure TickEnv where
  /-- `store.effective()` -/
  cfg : Dict
  /-- the local cards; `none` if the resolver raises -/
  wlans : Option (List String)
  /-- the cards with a `bf_monitor_conf` node -/
  nodes : List String
  healthz : Bool
  /-- `localMac` of the drone's status; `none` if the request fails -/
  localMac : Option String
  /-- the outcome of the write, if there is one -/
  writeOk : Bool

namespace TickEnv

def supported (env : TickEnv) (iface : String) : Bool := iface ∈ env.nodes

def primary? (env : TickEnv) : Option String :=
  (env.wlans.bind List.head?).filter (· ≠ "")

end TickEnv

namespace BeamformingController

def writeConf (env : TickEnv) (iface text : String) (b : BeamformingController) :
    BeamformingController :=
  { b with writes := b.writes ++ [⟨iface, text, env.writeOk⟩] }

def arm (env : TickEnv) (iface peerMac : String) (b : BeamformingController) :
    BeamformingController :=
  if ¬ env.supported iface then
    { b with
      armed := false, iface := iface, peer := peerMac, state := .unsupported
      reason := "no bf_monitor_conf node on " ++ iface }
  else if b.armed ∧ b.iface = iface ∧ b.peer = peerMac then b
  else
    let b := b.writeConf env iface (armConf peerMac)
    if env.writeOk then
      { b with armed := true, iface := iface, peer := peerMac, state := .active, reason := "" }
    else
      { b with
        armed := false, iface := iface, peer := peerMac, state := .error
        reason := "bf_monitor_conf write failed" }

def disarm (env : TickEnv) (iface : String) (b : BeamformingController) : BeamformingController :=
  let writes := b.armed ∧ env.supported b.iface
  let b' := if writes then b.writeConf env b.iface disarmConf else b
  if writes ∧ ¬ env.writeOk then
    { b' with armed := false, state := .error, reason := "bf_monitor_conf reset failed" }
  else { b' with armed := false, iface := iface, peer := "", state := .disabled, reason := "" }

def reconcile (enabled : Bool) (env : TickEnv) (iface peerMac : String) (b : BeamformingController) :
    BeamformingController :=
  if !enabled then b.disarm env iface else b.arm env iface peerMac

end BeamformingController

/-! ## The armer -/

/-- `d.get(key, {}) or {}`; `none` if it is no object, and the next `.get` raises. -/
def blockOrEmpty (d : Dict) (key : String) : Option Dict :=
  let v := d.getOr key (.obj [])
  if !v.truthy then some []
  else match v with
    | .obj ms => some ms
    | _ => none

def wanted (cfg : Dict) : Option Bool := do
  let link ← blockOrEmpty cfg "link"
  let bf ← blockOrEmpty link "beamforming"
  return (bf.getOr "enabled" .null).truthy

namespace BeamformingController

/-- `BeamformingArmer.tick`.  A tick that raises changes nothing: the loop goes on with the next. -/
def tick (b : BeamformingController) (env : TickEnv) : BeamformingController :=
  match wanted env.cfg with
  | none => b
  | some false =>
    if b.state = .active then
      match env.primary? with
      | none => b
      | some primary => b.reconcile false env primary ""
    else b
  | some true =>
    if b.state = .active then b
    else match env.primary? with
      | none => b
      | some primary =>
        if ¬ env.supported primary ∨ ¬ env.healthz then b
        else match env.localMac with
          | none => b
          | some mac => if mac ≠ "" then b.reconcile true env primary mac else b

/-! ## What a tick does to the conf nodes -/

section Tick

variable {b : BeamformingController} {env : TickEnv} {i m primary : String}

def conf (i : String) (b : BeamformingController) : Option String := content i b.writes

def Armed (b : BeamformingController) (i : String) : Prop := ∃ mac, b.conf i = some (armConf mac)

/-- The drone is reachable with MAC `m`, and the primary card supports beamforming. -/
structure Ready (env : TickEnv) (primary m : String) : Prop where
  first : env.primary? = some primary
  supported : env.supported primary = true
  healthz : env.healthz = true
  localMac : env.localMac = some m
  mac : m ≠ ""

/-- What holds in every run: the controller is active iff it is armed, and where it is active the conf
node reads so. -/
structure Consistent (b : BeamformingController) : Prop where
  armed : b.armed = true ↔ b.state = .active
  active : b.state = .active → b.conf b.iface = some (armConf b.peer)

theorem armConf_ne_disarmConf (mac : String) : armConf mac ≠ disarmConf := by
  intro h
  have hchars := congrArg String.toList h
  simp [armConf, disarmConf] at hchars

theorem armConf_injective {mac mac' : String} (h : armConf mac = armConf mac') : mac = mac' := by
  have hchars := congrArg String.toList h
  exact String.toList_inj.mp (by simpa [armConf] using hchars)

theorem conf_writeConf (iface text : String) : (b.writeConf env iface text).conf i =
    if env.writeOk ∧ iface = i then some text else b.conf i := by
  unfold conf writeConf
  rw [content_concat]

theorem tick_off (hw : wanted env.cfg = some false) (hactive : b.state = .active)
    (hp : env.primary? = some primary) : b.tick env = b.disarm env primary := by
  simp [tick, hw, hactive, hp, reconcile]

theorem tick_on (hw : wanted env.cfg = some true) (hactive : b.state ≠ .active)
    (hr : Ready env primary m) : b.tick env = b.arm env primary m := by
  simp [tick, hw, hactive, hr.first, hr.supported, hr.healthz, hr.localMac, hr.mac, reconcile]

theorem tick_cases (b : BeamformingController) (env : TickEnv) :
    b.tick env = b ∨
      (wanted env.cfg = some false ∧ b.state = .active ∧ ∃ p, env.primary? = some p ∧
        b.tick env = b.disarm env p) ∨
      (wanted env.cfg = some true ∧ b.state ≠ .active ∧ ∃ p m, Ready env p m ∧
        b.tick env = b.arm env p m) := by
  unfold tick
  cases hw : wanted env.cfg with
  | none => exact .inl rfl
  | some want =>
    cases want with
    | false =>
      by_cases hactive : b.state = .active
      · cases hp : env.primary? with
        | none => exact .inl (by simp)
        | some p => exact .inr (.inl ⟨rfl, hactive, p, rfl, by simp [hactive, reconcile]⟩)
      · exact .inl (by simp [hactive])
    | true =>
      by_cases hactive : b.state = .active
      · exact .inl (by simp [hactive])
      · cases hp : env.primary? with
        | none => exact .inl (by simp)
        | some p =>
          by_cases hsup : env.supported p = true ∧ env.healthz = true
          · cases hm : env.localMac with
            | none => exact .inl (by simp)
            | some m =>
              by_cases hmac : m = ""
              · exact .inl (by simp [hmac])
              · refine .inr (.inr ⟨rfl, hactive, p, m, ⟨hp, hsup.1, hsup.2, hm, hmac⟩, ?_⟩)
                simp [hactive, hsup, hmac, reconcile]
          · refine .inl ?_
            have hskip : ¬ env.supported p = true ∨ ¬ env.healthz = true := not_and_or.mp hsup
            dsimp only
            rw [if_neg hactive, if_pos hskip]

theorem arm_spec (hb : b.armed = false) (hsup : env.supported primary = true) :
    (b.arm env primary m).conf i =
        (if env.writeOk ∧ primary = i then some (armConf m) else b.conf i) ∧
      ((b.arm env primary m).armed = true ↔ env.writeOk = true) ∧
      ((b.arm env primary m).state = .active ↔ env.writeOk = true) ∧
      (b.arm env primary m).iface = primary ∧ (b.arm env primary m).peer = m := by
  have hconf := @conf_writeConf b env i primary (armConf m)
  unfold arm
  cases hok : env.writeOk with
  | false =>
    rw [hok] at hconf
    simp only [hsup, hb, Bool.false_eq_true, not_true, false_and, if_false]
    exact ⟨by simpa [conf] using hconf, by simp, by simp, by simp, by simp⟩
  | true =>
    rw [hok] at hconf
    simp only [hsup, hb, Bool.false_eq_true, not_true, false_and, if_false, if_true]
    exact ⟨by simpa [conf] using hconf, by simp, by simp, by simp, by simp⟩

theorem disarm_spec (hb : b.armed = true) :
    (b.disarm env primary).conf i =
        (if env.supported b.iface ∧ env.writeOk ∧ b.iface = i then some disarmConf else b.conf i) ∧
      (b.disarm env primary).armed = false ∧ (b.disarm env primary).state ≠ .active := by
  have hconf := @conf_writeConf b env i b.iface disarmConf
  unfold disarm
  cases hsup : env.supported b.iface with
  | false => simp [hb, conf]
  | true =>
    cases hok : env.writeOk with
    | false =>
      rw [hok] at hconf
      simpa [hb, conf] using hconf
    | true =>
      rw [hok] at hconf
      simpa [hb, conf] using hconf

theorem disarm_writes (hb : b.armed = true) :
    (b.disarm env primary).writes.drop b.writes.length =
      if env.supported b.iface then [⟨b.iface, disarmConf, env.writeOk⟩] else [] := by
  unfold disarm
  cases hsup : env.supported b.iface <;> cases hok : env.writeOk <;> simp [hb, hok, writeConf]

theorem arm_writes (hb : b.armed = false) (hsup : env.supported primary = true) :
    (b.arm env primary m).writes.drop b.writes.length = [⟨primary, armConf m, env.writeOk⟩] := by
  unfold arm
  cases hok : env.writeOk <;> simp [hb, hsup, hok, writeConf]

/-! ## Runs -/

theorem Consistent.idle (hc : b.Consistent) (h : b.state ≠ .active) : b.armed = false := by
  rw [← Bool.not_eq_true, hc.armed]
  exact h

theorem tick_consistent (hc : b.Consistent) (env : TickEnv) : (b.tick env).Consistent := by
  rcases tick_cases b env with h | ⟨-, hactive, p, -, h⟩ | ⟨-, hactive, p, m, hr, h⟩
  · rwa [h]
  · rw [h]
    obtain ⟨-, harmed, hstate⟩ := @disarm_spec b env "" p (hc.armed.mpr hactive)
    exact ⟨by simp [harmed, hstate], fun hs => absurd hs hstate⟩
  · rw [h]
    obtain ⟨-, harmed, hstate, hiface, hpeer⟩ := @arm_spec b env "" m p (hc.idle hactive) hr.supported
    refine ⟨harmed.trans hstate.symm, fun hs => ?_⟩
    rw [hiface, hpeer, (arm_spec (hc.idle hactive) hr.supported).1, if_pos ⟨hstate.mp hs, rfl⟩]

/-- No card reads armed but the one that the controller is active on. -/
def Kept (b : BeamformingController) : Prop :=
  ∀ i, b.Armed i → b.state = .active ∧ b.iface = i

/-- **The ticks that strand a card**: beamforming is no longer wanted, and the conf node of the armed
card is gone or its reset fails. -/
def strands (b : BeamformingController) (env : TickEnv) : Bool :=
  decide (wanted env.cfg = some false) && decide (b.state = .active) && env.primary?.isSome &&
    !(env.supported b.iface && env.writeOk)

/-- The card and the drone are still those that the controller was armed for, and the armed card can be
reset when beamforming is no longer wanted. -/
def Faithful (b : BeamformingController) (env : TickEnv) (primary m : String) : Prop :=
  b.state = .active →
    (wanted env.cfg = some true → b.iface = primary ∧ b.peer = m) ∧
    (wanted env.cfg = some false → env.supported b.iface = true)

/-- What a tick is for: the cards are as the configuration wants them. -/
def Sound (b : BeamformingController) (env : TickEnv) (primary m : String) : Prop :=
  (wanted env.cfg = some true →
    b.conf primary = some (armConf m) ∧ ∀ i, i ≠ primary → ¬ b.Armed i) ∧
  (wanted env.cfg = some false → ∀ i, ¬ b.Armed i)

/-- **One tick**: from a state in which no card is stranded, one is stranded after the tick iff the
tick strands one. -/
theorem tick_kept (hc : b.Consistent) (hk : b.Kept) (env : TickEnv) :
    (b.tick env).Kept ↔ b.strands env = false := by
  by_cases hoff : wanted env.cfg = some false ∧ b.state = .active ∧ env.primary?.isSome
  · obtain ⟨hw, hactive, hsome⟩ := hoff
    obtain ⟨p, hp⟩ := Option.isSome_iff_exists.mp hsome
    have hstrands : b.strands env = !(env.supported b.iface && env.writeOk) := by
      simp [strands, hw, hactive, hp]
    have hspec := fun i => @disarm_spec b env i p (hc.armed.mpr hactive)
    rw [tick_off hw hactive hp, hstrands]
    by_cases hok : env.supported b.iface ∧ env.writeOk
    · refine iff_of_true (fun i ⟨mac, hi⟩ => ?_) (by simp [hok])
      rw [(hspec i).1] at hi
      by_cases hiface : b.iface = i
      · rw [if_pos ⟨hok.1, hok.2, hiface⟩] at hi
        exact absurd (Option.some.inj hi).symm (armConf_ne_disarmConf mac)
      · rw [if_neg fun h => hiface h.2.2] at hi
        exact absurd (hk i ⟨mac, hi⟩).2 hiface
    · refine iff_of_false (fun hkept => ?_) (by simpa using hok)
      have harmed : (b.disarm env p).Armed b.iface :=
        ⟨b.peer, by rw [(hspec b.iface).1, if_neg fun h => hok ⟨h.1, h.2.1⟩]; exact hc.active hactive⟩
      exact (hspec b.iface).2.2 (hkept b.iface harmed).1
  · have hstrands : b.strands env = false := by
      rw [← Bool.not_eq_true]
      intro h
      simp only [strands, Bool.and_eq_true, decide_eq_true_eq] at h
      exact hoff ⟨h.1.1.1, h.1.1.2, h.1.2⟩
    refine iff_of_true ?_ hstrands
    rcases tick_cases b env with h | ⟨hw, hactive, p, hp, -⟩ | ⟨-, hactive, p, m, hr, h⟩
    · rwa [h]
    · exact absurd ⟨hw, hactive, by rw [hp]; rfl⟩ hoff
    · rw [h]
      obtain ⟨-, -, hstate, hiface, -⟩ := @arm_spec b env "" m p (hc.idle hactive) hr.supported
      intro i ⟨mac, hi⟩
      rw [(arm_spec (hc.idle hactive) hr.supported).1] at hi
      by_cases hw : env.writeOk ∧ p = i
      · exact ⟨hstate.mpr hw.1, hiface.trans hw.2⟩
      · rw [if_neg hw] at hi
        exact absurd (hk i ⟨mac, hi⟩).1 hactive

def WritesOk (b : BeamformingController) (env : TickEnv) : Prop :=
  ∀ w ∈ (b.tick env).writes.drop b.writes.length, w.ok = true

theorem sound_active (hc : b.Consistent) (hk : b.Kept) (hw : wanted env.cfg = some true)
    (hactive : b.state = .active) :
    (b.tick env).Sound env primary m ↔ b.iface = primary ∧ b.peer = m := by
  have htick : b.tick env = b := by simp [tick, hw, hactive]
  rw [htick]
  constructor
  · rintro ⟨hon, -⟩
    obtain ⟨hconf, -⟩ := hon hw
    have hiface := (hk primary ⟨m, hconf⟩).2
    have hpeer := hc.active hactive
    rw [hiface, hconf] at hpeer
    exact ⟨hiface, (armConf_injective (Option.some.inj hpeer)).symm⟩
  · rintro ⟨rfl, rfl⟩
    refine ⟨fun _ => ⟨hc.active hactive, fun i hi harmed => ?_⟩, fun hoff => ?_⟩
    · exact hi (hk i harmed).2.symm
    · rw [hw] at hoff
      simp at hoff

theorem Kept.none_armed (hk : b.Kept) (h : b.state ≠ .active) (i : String) : ¬ b.Armed i :=
  fun harmed => h (hk i harmed).1

theorem sound_disarm (hc : b.Consistent) (hk : b.Kept) (hw : wanted env.cfg = some false)
    (hactive : b.state = .active) (hp : env.primary? = some primary) (hok : b.WritesOk env) :
    (b.tick env).Sound env primary m ↔ env.supported b.iface = true := by
  have harmed := hc.armed.mpr hactive
  have hspec := @disarm_spec b env b.iface primary harmed
  unfold WritesOk at hok
  rw [tick_off hw hactive hp, disarm_writes harmed] at hok
  constructor
  · rintro ⟨-, hoff⟩
    by_contra hsup
    refine hoff hw b.iface ⟨b.peer, ?_⟩
    rw [tick_off hw hactive hp, hspec.1, if_neg fun h => hsup h.1]
    exact hc.active hactive
  · intro hsup
    rw [if_pos hsup] at hok
    have hwrite : env.writeOk = true := hok _ (List.mem_singleton_self _)
    have hkept : (b.tick env).Kept := (tick_kept hc hk env).mpr (by simp [strands, hsup, hwrite])
    refine ⟨fun hon => ?_, fun _ => hkept.none_armed ?_⟩
    · rw [hw] at hon
      simp at hon
    · rw [tick_off hw hactive hp]
      exact hspec.2.2

theorem sound_idle (hc : b.Consistent) (hk : b.Kept) (hactive : b.state ≠ .active)
    (hr : Ready env primary m) (hok : b.WritesOk env) : (b.tick env).Sound env primary m := by
  constructor
  · intro hw
    have hspec := fun i => @arm_spec b env i m primary (hc.idle hactive) hr.supported
    unfold WritesOk at hok
    rw [tick_on hw hactive hr, arm_writes (hc.idle hactive) hr.supported] at hok
    have hwrite : env.writeOk = true := hok _ (List.mem_singleton_self _)
    rw [tick_on hw hactive hr]
    refine ⟨by rw [(hspec primary).1, if_pos ⟨hwrite, rfl⟩], fun i hi => ?_⟩
    rintro ⟨mac, hconf⟩
    rw [(hspec i).1, if_neg fun h => hi h.2.symm] at hconf
    exact hk.none_armed hactive i ⟨mac, hconf⟩
  · intro hw
    have htick : b.tick env = b := by simp [tick, hw, hactive]
    rw [htick]
    exact hk.none_armed hactive

theorem sound_iff_faithful (hc : b.Consistent) (hk : b.Kept) (hr : Ready env primary m)
    (hok : b.WritesOk env) : (b.tick env).Sound env primary m ↔ b.Faithful env primary m := by
  by_cases hactive : b.state = .active
  · cases hw : wanted env.cfg with
    | none => simp [Sound, Faithful, hw]
    | some want =>
      cases want with
      | true =>
        rw [sound_active hc hk hw hactive]
        simp [Faithful, hactive, hw]
      | false =>
        rw [sound_disarm hc hk hw hactive hr.first hok]
        simp [Faithful, hactive, hw]
  · exact iff_of_true (sound_idle hc hk hactive hr hok) fun h => absurd h hactive

def offEnv (armed m : String) : TickEnv where
  cfg := [("link", .obj [("beamforming", .obj [("enabled", .bool false)])])]
  wlans := some ["wlan1"]
  nodes := [armed, "wlan1"]
  healthz := true
  localMac := some m
  writeOk := true

theorem wanted_offEnv (armed m : String) : wanted (offEnv armed m).cfg = some false := rfl

theorem offEnv_ready (armed : String) {m : String} (hm : m ≠ "") :
    Ready (offEnv armed m) "wlan1" m :=
  ⟨by simp [TickEnv.primary?, offEnv], by simp [TickEnv.supported, offEnv], rfl, rfl, hm⟩

theorem kept_iff_sound (hc : b.Consistent) : b.Kept ↔ ∀ env primary m, Ready env primary m →
    b.WritesOk env → ((b.tick env).Sound env primary m ↔ b.Faithful env primary m) := by
  refine ⟨fun hk env primary m hr hok => sound_iff_faithful hc hk hr hok, fun h i harmed => ?_⟩
  have hw := wanted_offEnv b.iface "m"
  have hr : Ready (offEnv b.iface "m") "wlan1" "m" := offEnv_ready b.iface (by decide)
  have hsup : (offEnv b.iface "m").supported b.iface = true := by simp [TickEnv.supported, offEnv]
  by_contra hlost
  -- the tick issues no write but the reset of the armed card, which succeeds
  have hok : b.WritesOk (offEnv b.iface "m") := by
    unfold WritesOk
    by_cases hactive : b.state = .active
    · rw [tick_off hw hactive hr.first, disarm_writes (hc.armed.mpr hactive), if_pos hsup]
      simp [offEnv]
    · simp [tick, hw, hactive]
  have hsound := (h _ "wlan1" "m" hr hok).mpr fun _ => ⟨fun hon => by simp [hw] at hon, fun _ => hsup⟩
  obtain ⟨mac, hconf⟩ := harmed
  refine hsound.2 hw i ⟨mac, ?_⟩
  by_cases hactive : b.state = .active
  · have hother : b.iface ≠ i := fun hi => hlost ⟨hactive, hi⟩
    rw [tick_off hw hactive hr.first, (disarm_spec (hc.armed.mpr hactive)).1,
      if_neg fun hi => hother hi.2.2]
    exact hconf
  · have htick : b.tick (offEnv b.iface "m") = b := by simp [tick, hw, hactive]
    rwa [htick]

theorem boot_consistent : ({} : BeamformingController).Consistent :=
  ⟨by simp, fun h => by cases h⟩

/-- **The armer is sound iff it strands no card.**  At every point of a run, for every next tick that
finds the primary card able, the drone reachable and its own writes successful: the conf nodes are as
the configuration wants them iff the card and the drone are still those the controller is armed for.
This holds throughout a run iff no tick of the run strands a card. -/
theorem armer_sound_iff (ticks : List TickEnv) :
    (∀ before, before <+: ticks → ∀ env primary m,
      Ready env primary m → (before.foldl tick {}).WritesOk env →
        (((before.foldl tick {}).tick env).Sound env primary m ↔
          (before.foldl tick {}).Faithful env primary m)) ↔
      Run.Meets tick (fun b env => b.strands env = false) {} ticks := by
  have hinv : ∀ before : List TickEnv, (before.foldl tick {}).Consistent := fun before =>
    List.foldlRecOn before tick boot_consistent fun b hb env _ => tick_consistent hb env
  rw [Run.meets_iff_throughout boot_consistent (fun _ env hb => tick_consistent hb env)
    (fun i ⟨mac, hmac⟩ => by cases hmac) (fun _ env hb hk => tick_kept hb hk env)]
  exact forall₂_congr fun before _ => (kept_iff_sound (hinv before)).symm

def onEnv (m : String) : TickEnv where
  cfg := [("link", .obj [("beamforming", .obj [("enabled", .bool true)])])]
  wlans := some ["wlan1"]
  nodes := ["wlan1"]
  healthz := true
  localMac := some m
  writeOk := true

/-- The drone changes its MAC: the controller is active, the tick returns at once, and the card goes on
answering the old peer. -/
theorem peer_change_missed :
    let b := tick {} (onEnv "02:00:00:00:00:01")
    let env := onEnv "02:00:00:00:00:02"
    Ready env "wlan1" "02:00:00:00:00:02" ∧ b.WritesOk env ∧ wanted env.cfg = some true ∧
      b.tick env = b ∧ (b.tick env).conf "wlan1" = some (armConf "02:00:00:00:00:01") ∧
      (b.tick env).conf "wlan1" ≠ some (armConf "02:00:00:00:00:02") := by
  refine ⟨⟨by decide, by decide, rfl, rfl, by decide⟩, ?_, by decide, by decide, by decide, by decide⟩
  unfold WritesOk
  decide

end Tick

end BeamformingController

end Fpvd.Gs
