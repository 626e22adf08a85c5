import Fpvd.Lib.WriteLog
import Fpvd.Daemon.World

/-!
# Fpvd.Supervise.Beamforming — the beamformer of the drone (`drone/src/supervise/beamforming.cpp`)

`reconcile` arms the driver's `bf_monitor_conf` node and starts a sounding thread, or stops both.  Any
node write may fail.

The daemon's calls are the `beamforming` acts of its log, with the same `BfParams`.  The writes so far
are kept with the controller.  `resolveLocalMac` and `supported` read the file
system, and their answers are inputs.
-/

namespace Fpvd

open WriteLog

/-! ## The controller -/

inductive BfState where
  | disabled
  | unsupported
  | active
  | error
  deriving DecidableEq, Repr

structure BfStatus where
  requested : Bool := false
  state : BfState := .disabled
  reason : String := ""
  localMac : String := ""
  remoteMac : String := ""
  bw : ℤ := 0
  soundingCount : ℤ := 0
  cbrRssi : ℤ := 0
  cbrFresh : Bool := false
  lastCbr : Option String := none
  deriving DecidableEq, Repr

inductive BfNode where
  | bfMonitorConf
  | ackTimeout
  | bfMonitorTrig
  | bfMonitorEn
  deriving DecidableEq, Repr

structure SoundingLoop where
  params : BfParams
  token : ℤ := 0
  lastCbrToken : ℤ := -1
  cbrStaleTicks : ℤ := 0
  /-- the trigger was written, so `bf_monitor_en` follows after the pause -/
  enDue : Bool := false
  deriving DecidableEq, Repr

structure BeamformingController where
  status : BfStatus := {}
  params : BfParams := ⟨"", "", "", 20, 255, 100⟩
  running : Bool := false
  thr : Option SoundingLoop := none
  writes : List (Write (String × BfNode) String) := []
  deriving DecidableEq, Repr

def kCbrStaleTicks : ℤ := 10

def rfinfoFields (rfinfo : String) : List (List Char) := rfinfo.toList.splitOn ':'

def parseCbrToken (rfinfo : String) : ℤ := (stoi ((rfinfoFields rfinfo).headD [])).getD (-1)

def parseCbrRssi (rfinfo : String) : ℤ := ((rfinfoFields rfinfo)[3]?.bind stoi).getD 0

def armText (remoteMac : String) : String := "1 " ++ remoteMac ++ " 0 0"

def disarmText : String := "0 00:00:00:00:00:00 0 0"

/-- What a `reconcile` meets: the answers of the file system, and the outcomes of the four writes that
it may make. -/
structure ReconcileEnv where
  supported : Bool := true
  localMac : String := ""
  disarmOk : Bool := true
  restoreOk : Bool := true
  armOk : Bool := true
  ackOk : Bool := true
  deriving DecidableEq, Repr

structure SoundEnv where
  trigOk : Bool := true
  localMac : String := ""
  cbr : String := ""
  rfinfo : String := ""
  deriving DecidableEq, Repr

namespace BeamformingController

def writeNode (iface : String) (node : BfNode) (content : String) (ok : Bool)
    (b : BeamformingController) : BeamformingController :=
  { b with writes := b.writes ++ [⟨(iface, node), content, ok⟩] }

def stop (env : ReconcileEnv) (b : BeamformingController) : BeamformingController :=
  let b := { b with thr := none }
  let b :=
    if b.running ∧ b.params.iface ≠ "" then
      (b.writeNode b.params.iface .bfMonitorConf disarmText env.disarmOk).writeNode b.params.iface
        .ackTimeout "33" env.restoreOk
    else b
  { b with
    running := false
    status := if b.status.state = .active then { b.status with state := .disabled, requested := false }
      else b.status }

def upToDate (p : BfParams) (force : Bool) (b : BeamformingController) : Bool :=
  !force && b.running && decide (b.params = p) && decide (b.status.state = .active)

def arm (p : BfParams) (env : ReconcileEnv) (b : BeamformingController) : BeamformingController :=
  let s : BfStatus :=
    { requested := true, remoteMac := p.remoteMac, bw := modulationWidth p.width,
      localMac := env.localMac }
  if ¬ env.supported then
    let reason := "no bf_monitor proc node on " ++ p.iface ++ " (driver " ++ p.driver ++ ")"
    { b with
      status := { s with state := .unsupported, reason := reason }, params := p, running := false }
  else
    let b := b.writeNode p.iface .bfMonitorConf (armText p.remoteMac) env.armOk
    let b := b.writeNode p.iface .ackTimeout (toString p.ackTimeout) env.ackOk
    if ¬ (env.armOk ∧ env.ackOk) then
      { b with
        status := { s with state := .error, reason := "failed to write bf_monitor init nodes" }
        params := p
        running := false }
    else
      { b with
        status := { s with state := .active }, params := p, running := true,
        thr := some { params := p } }

def reconcile (enabled : Bool) (p : BfParams) (force : Bool) (env : ReconcileEnv)
    (b : BeamformingController) : BeamformingController :=
  if !enabled then { b.stop env with status := {}, running := false }
  else if b.upToDate p force then b
  else (b.stop env).arm p env

def sound (env : SoundEnv) (b : BeamformingController) : BeamformingController :=
  match b.thr with
  | none => b
  | some t =>
    let trig := env.localMac ++ " " ++ t.params.remoteMac ++ " 0 0 " ++ toString t.token ++ " " ++
      toString (modulationWidth t.params.width)
    let b := b.writeNode t.params.iface .bfMonitorTrig trig env.trigOk
    if ¬ env.trigOk then
      { b with
        status := { b.status with state := .error, reason := "bf_monitor_trig write failed" }
        thr := some { t with enDue := false } }
    else
      let cbrTok := parseCbrToken env.rfinfo
      let staleTicks :=
        if cbrTok ≠ t.lastCbrToken then 0
        else if t.cbrStaleTicks < kCbrStaleTicks then t.cbrStaleTicks + 1 else t.cbrStaleTicks
      let recovered := decide (b.status.state = .error)
      { b with
        status := { b.status with
          soundingCount := b.status.soundingCount + 1
          cbrRssi := parseCbrRssi env.rfinfo
          cbrFresh := cbrTok ≥ 0 ∧ staleTicks < kCbrStaleTicks
          lastCbr := if env.cbr = "" then none else some env.cbr
          state := if recovered then .active else b.status.state
          reason := if recovered then "" else b.status.reason }
        thr := some { t with
          token := (t.token + 1) % 64, lastCbrToken := cbrTok, cbrStaleTicks := staleTicks,
          enDue := true } }

def enable (ok : Bool) (b : BeamformingController) : BeamformingController :=
  match b.thr with
  | none => b
  | some t =>
    if t.enDue then
      { b.writeNode t.params.iface .bfMonitorEn "1" ok with thr := some { t with enDue := false } }
    else b

inductive BfCall where
  | reconcile (enabled : Bool) (p : BfParams) (force : Bool) (env : ReconcileEnv)
  | sound (env : SoundEnv)
  | enable (ok : Bool)
  deriving DecidableEq, Repr

def step (b : BeamformingController) : BfCall → BeamformingController
  | .reconcile enabled p force env => b.reconcile enabled p force env
  | .sound env => b.sound env
  | .enable ok => b.enable ok

/-! ## What a call does to the conf nodes -/

section Conf

variable {b : BeamformingController} {env : ReconcileEnv} {p : BfParams} {i : String}

def conf (i : String) (b : BeamformingController) : Option String :=
  content (i, BfNode.bfMonitorConf) b.writes

theorem conf_writeNode (iface : String) (node : BfNode) (text : String) (ok : Bool)
    (b : BeamformingController) : (b.writeNode iface node text ok).conf i =
      if ok ∧ iface = i ∧ node = .bfMonitorConf then some text else b.conf i := by
  unfold conf writeNode
  rw [content_concat]
  simp only [Prod.mk.injEq]

/-- The controller is running on the interface, and will disarm it. -/
def Holds (b : BeamformingController) (i : String) : Prop :=
  b.running = true ∧ b.params.iface = i ∧ i ≠ ""

instance (b : BeamformingController) (i : String) : Decidable (b.Holds i) :=
  inferInstanceAs (Decidable (_ ∧ _))

@[simp] theorem stop_running : (b.stop env).running = false := rfl

theorem stop_conf : (b.stop env).conf i =
    if b.Holds i ∧ env.disarmOk then some disarmText else b.conf i := by
  have hlast : ∀ c : BeamformingController, (b.stop env).writes = c.writes →
      (b.stop env).conf i = c.conf i := fun c hc => by rw [conf, conf, hc]
  by_cases h : b.running = true ∧ b.params.iface ≠ ""
  · rw [hlast ((b.writeNode b.params.iface .bfMonitorConf disarmText env.disarmOk).writeNode
      b.params.iface .ackTimeout "33" env.restoreOk) (by simp [stop, h, writeNode]),
      conf_writeNode, conf_writeNode]
    by_cases hi : b.params.iface = i
    · subst hi
      simp [Holds, h]
    · simp [Holds, hi]
  · rw [hlast b (by simp [stop, h]), if_neg]
    rintro ⟨⟨hrun, hi, hne⟩, -⟩
    exact h ⟨hrun, hi ▸ hne⟩

theorem arm_conf : (b.arm p env).conf i =
    if env.supported ∧ env.armOk ∧ p.iface = i then some (armText p.remoteMac) else b.conf i := by
  have hlast : ∀ c : BeamformingController, (b.arm p env).writes = c.writes →
      (b.arm p env).conf i = c.conf i := fun c hc => by rw [conf, conf, hc]
  by_cases hs : env.supported = true
  · rw [hlast ((b.writeNode p.iface .bfMonitorConf (armText p.remoteMac) env.armOk).writeNode
      p.iface .ackTimeout (toString p.ackTimeout) env.ackOk) ?_, conf_writeNode, conf_writeNode]
    · simp [hs]
    · unfold arm
      by_cases hok : env.armOk = true ∧ env.ackOk = true <;> simp [hs, hok]
  · rw [hlast b (by simp [arm, hs]), if_neg fun h => hs h.1]

theorem arm_params : (b.arm p env).params = p := by
  unfold arm
  split_ifs <;> rfl

theorem arm_running :
    (b.arm p env).running = (env.supported && (env.armOk && env.ackOk)) := by
  unfold arm
  cases hs : env.supported with
  | false => simp
  | true =>
    by_cases hok : env.armOk = true ∧ env.ackOk = true
    · simp [hok]
    · have hok' : (env.armOk && env.ackOk) = false := by simpa [Bool.and_eq_true] using hok
      simp [hok, hok']

theorem sound_frame (env : SoundEnv) (b : BeamformingController) (i : String) :
    (b.sound env).conf i = b.conf i ∧ (b.sound env).running = b.running ∧
      (b.sound env).params = b.params := by
  unfold sound
  cases b.thr with
  | none => exact ⟨rfl, rfl, rfl⟩
  | some t =>
    have hconf : ∀ text ok, (b.writeNode t.params.iface .bfMonitorTrig text ok).conf i = b.conf i :=
      fun text ok => by rw [conf_writeNode, if_neg (by simp)]
    dsimp only
    split_ifs <;> exact ⟨hconf _ _, rfl, rfl⟩

theorem enable_frame (ok : Bool) (b : BeamformingController) (i : String) :
    (b.enable ok).conf i = b.conf i ∧ (b.enable ok).running = b.running ∧
      (b.enable ok).params = b.params := by
  unfold enable
  cases b.thr with
  | none => exact ⟨rfl, rfl, rfl⟩
  | some t =>
    have hconf : (b.writeNode t.params.iface .bfMonitorEn "1" ok).conf i = b.conf i := by
      rw [conf_writeNode, if_neg (by simp)]
    dsimp only
    split_ifs <;> first | exact ⟨hconf, rfl, rfl⟩ | exact ⟨rfl, rfl, rfl⟩

end Conf

/-! ## Stranded interfaces -/

section Stranded

variable {b : BeamformingController} {env : ReconcileEnv} {p : BfParams} {i : String}

theorem armText_ne_disarmText (mac : String) : armText mac ≠ disarmText := by
  intro h
  have hchars := congrArg String.toList h
  simp [armText, disarmText] at hchars

def Armed (b : BeamformingController) (i : String) : Prop := ∃ mac, b.conf i = some (armText mac)

/-- What holds in every run: a conf node reads armed or disarmed, and armed where the controller runs. -/
structure Sound (b : BeamformingController) : Prop where
  text : ∀ i, b.conf i = none ∨ b.conf i = some disarmText ∨ b.Armed i
  run : b.running = true → b.Armed b.params.iface

/-- No interface reads armed but the one that the controller would disarm. -/
def Kept (b : BeamformingController) : Prop := ∀ i, b.Armed i → b.Holds i

/-- **The calls that strand an interface**: a reset that fails, unless the same interface is armed
again at once; and an arming of which only the conf write succeeds, or of an interface without a
name. -/
def strands (b : BeamformingController) : BfCall → Bool
  | .reconcile enabled p force env =>
    let arms := enabled && !b.upToDate p force && env.supported && env.armOk
    let resets := !(enabled && b.upToDate p force) && b.running && decide (b.params.iface ≠ "")
    (arms && (!env.ackOk || decide (p.iface = ""))) ||
      (resets && !env.disarmOk && !(arms && decide (p.iface = b.params.iface)))
  | _ => false

theorem strands_arming {force : Bool} (hup : b.upToDate p force = false) :
    b.strands (.reconcile true p force env) = true ↔
      (env.supported = true ∧ env.armOk = true ∧ (env.ackOk = false ∨ p.iface = "")) ∨
      ((b.running = true ∧ b.params.iface ≠ "") ∧ env.disarmOk = false ∧
        ¬ (env.supported = true ∧ env.armOk = true ∧ p.iface = b.params.iface)) := by
  simp [strands, hup, and_assoc, or_assoc, imp_iff_not_or]

theorem not_armed_disarm (h : b.conf i = some disarmText) : ¬ b.Armed i := by
  rintro ⟨mac, hmac⟩
  exact armText_ne_disarmText mac (Option.some.inj (hmac.symm.trans h))

theorem stop_armed : (b.stop env).Armed i ↔ b.Armed i ∧ ¬ (b.Holds i ∧ env.disarmOk = true) := by
  by_cases h : b.Holds i ∧ env.disarmOk = true
  · have hconf : (b.stop env).conf i = some disarmText := by rw [stop_conf, if_pos h]
    exact iff_of_false (not_armed_disarm hconf) fun hb => hb.2 h
  · unfold Armed
    rw [stop_conf, if_neg h]
    exact (and_iff_left h).symm

theorem stop_text (hs : b.Sound) (i : String) :
    (b.stop env).conf i = none ∨ (b.stop env).conf i = some disarmText ∨ (b.stop env).Armed i := by
  by_cases h : b.Holds i ∧ env.disarmOk = true
  · exact .inr (.inl (by rw [stop_conf, if_pos h]))
  · have hconf : (b.stop env).conf i = b.conf i := by rw [stop_conf, if_neg h]
    unfold Armed
    rw [hconf]
    exact hs.text i

theorem arm_armed : (b.arm p env).Armed i ↔
    env.supported = true ∧ env.armOk = true ∧ p.iface = i ∨ b.Armed i := by
  by_cases h : env.supported = true ∧ env.armOk = true ∧ p.iface = i
  · exact iff_of_true ⟨p.remoteMac, by rw [arm_conf, if_pos h]⟩ (.inl h)
  · unfold Armed
    rw [arm_conf, if_neg h]
    exact (or_iff_right h).symm

theorem arm_holds : (b.arm p env).Holds i ↔
    (env.supported = true ∧ env.armOk = true ∧ env.ackOk = true) ∧ p.iface = i ∧ i ≠ "" := by
  unfold Holds
  rw [arm_running, arm_params, Bool.and_eq_true, Bool.and_eq_true]

theorem arm_sound (htext : ∀ i, b.conf i = none ∨ b.conf i = some disarmText ∨ b.Armed i) :
    (b.arm p env).Sound := by
  refine ⟨fun i => ?_, fun hrun => ?_⟩
  · by_cases h : env.supported = true ∧ env.armOk = true ∧ p.iface = i
    · exact .inr (.inr (arm_armed.mpr (.inl h)))
    · unfold Armed
      rw [arm_conf, if_neg h]
      exact htext i
  · rw [arm_running, Bool.and_eq_true, Bool.and_eq_true] at hrun
    rw [arm_params, arm_armed]
    exact .inl ⟨hrun.1, hrun.2.1, rfl⟩

/-- The conf nodes and the fields that `Sound` and `Kept` read are the same. -/
structure SameConf (b b' : BeamformingController) : Prop where
  conf : ∀ i, b'.conf i = b.conf i
  running : b'.running = b.running
  params : b'.params = b.params

variable {b' : BeamformingController}

theorem SameConf.armed (h : SameConf b b') (i : String) :
    b'.Armed i ↔ b.Armed i := by
  unfold Armed
  rw [h.conf]

theorem SameConf.sound (h : SameConf b b') (hs : b.Sound) :
    b'.Sound := by
  refine ⟨fun i => ?_, fun hrun => ?_⟩
  · rw [h.conf, h.armed]
    exact hs.text i
  · rw [h.params, h.armed]
    exact hs.run (h.running ▸ hrun)

theorem SameConf.kept (h : SameConf b b') : b'.Kept ↔ b.Kept := by
  unfold Kept Holds
  simp only [h.armed, h.running, h.params]

theorem step_sound (hs : b.Sound) (c : BfCall) : (b.step c).Sound := by
  cases c with
  | sound env =>
    exact SameConf.sound ⟨fun i => (sound_frame env b i).1, (sound_frame env b "").2.1,
      (sound_frame env b "").2.2⟩ hs
  | enable ok =>
    exact SameConf.sound ⟨fun i => (enable_frame ok b i).1, (enable_frame ok b "").2.1,
      (enable_frame ok b "").2.2⟩ hs
  | reconcile enabled p force env =>
    show (b.reconcile enabled p force env).Sound
    unfold reconcile
    cases enabled with
    | false => exact ⟨stop_text hs, fun hrun => by cases hrun⟩
    | true =>
      by_cases hup : b.upToDate p force = true
      · simpa [hup] using hs
      · simpa [hup] using arm_sound (stop_text hs)

theorem reconcile_off_armed (p : BfParams) (force : Bool) :
    (b.reconcile false p force env).Armed i ↔ (b.stop env).Armed i := Iff.rfl

theorem step_kept (hs : b.Sound) (hk : b.Kept) (c : BfCall) :
    (b.step c).Kept ↔ b.strands c = false := by
  cases c with
  | sound env =>
    have hsame : SameConf b (b.sound env) := ⟨fun i => (sound_frame env b i).1,
      (sound_frame env b "").2.1, (sound_frame env b "").2.2⟩
    exact iff_of_true (hsame.kept.mpr hk) rfl
  | enable ok =>
    have hsame : SameConf b (b.enable ok) := ⟨fun i => (enable_frame ok b i).1,
      (enable_frame ok b "").2.1, (enable_frame ok b "").2.2⟩
    exact iff_of_true (hsame.kept.mpr hk) rfl
  | reconcile enabled p force env =>
    show (b.reconcile enabled p force env).Kept ↔ _
    have hstop : ∀ i, (b.stop env).Armed i ↔ b.Holds i ∧ env.disarmOk = false := by
      intro i
      rw [stop_armed]
      constructor
      · rintro ⟨ha, hnot⟩
        exact ⟨hk i ha, by simpa using fun hd => hnot ⟨hk i ha, hd⟩⟩
      · rintro ⟨hh, hd⟩
        exact ⟨hh.2.1 ▸ hs.run hh.1, fun h => by simp [hd] at h⟩
    unfold reconcile
    cases enabled with
    | false =>
      unfold strands
      constructor
      · intro hkept
        by_contra hstr
        simp at hstr
        have ha := (hstop b.params.iface).mpr ⟨⟨hstr.1, rfl, hstr.2.1⟩, hstr.2.2⟩
        have hrun := (hkept b.params.iface ha).1
        cases hrun
      · intro hstr i ha
        obtain ⟨⟨hrun, rfl, hne⟩, hd⟩ := (hstop i).mp ha
        simp [hrun, hne, hd] at hstr
    | true =>
      by_cases hup : b.upToDate p force = true
      · simpa [strands, hup] using hk
      · have hup' : b.upToDate p force = false := by simpa using hup
        rw [← Bool.not_eq_true, strands_arming hup']
        simp only [Bool.not_true, Bool.false_eq_true, if_false, hup']
        unfold Kept
        simp only [arm_armed, arm_holds, hstop]
        constructor
        · rintro hkept (⟨hsup, harm, hbad⟩ | ⟨⟨hrun, hne⟩, hd, hnot⟩)
          · obtain ⟨⟨-, -, hack⟩, -, hname⟩ := hkept p.iface (.inl ⟨hsup, harm, rfl⟩)
            exact hbad.elim (fun h => by simp [hack] at h) hname
          · obtain ⟨⟨hsup, harm, -⟩, hsame, -⟩ :=
              hkept b.params.iface (.inr ⟨⟨hrun, rfl, hne⟩, hd⟩)
            exact hnot ⟨hsup, harm, hsame⟩
        · intro hno
          -- whatever reads armed now, this call has armed it
          have harmed : ∀ i, (env.supported = true ∧ env.armOk = true ∧ p.iface = i ∨
              b.Holds i ∧ env.disarmOk = false) →
              env.supported = true ∧ env.armOk = true ∧ p.iface = i := by
            rintro i (h | ⟨⟨hrun, rfl, hne⟩, hd⟩)
            · exact h
            · exact by_contra fun h => hno (.inr ⟨⟨hrun, hne⟩, hd, h⟩)
          intro i ha
          obtain ⟨hsup, harm, rfl⟩ := harmed i ha
          refine ⟨⟨hsup, harm, ?_⟩, rfl, fun hname => hno (.inl ⟨hsup, harm, .inr hname⟩)⟩
          rw [← Bool.not_eq_false]
          exact fun hack => hno (.inl ⟨hsup, harm, .inl hack⟩)

/-! ## Disarming -/

/-- The interface was armed by some write. -/
def EverArmed (i : String) (log : List (Write (String × BfNode) String)) : Prop :=
  ∃ mac, ⟨(i, .bfMonitorConf), armText mac, true⟩ ∈ log

theorem disarmed_of_not_armed (hs : b.Sound) :
    (∀ i, ¬ b.Armed i) ↔ ∀ i, EverArmed i b.writes → b.conf i = some disarmText := by
  constructor
  · rintro hnone i ⟨mac, hmem⟩
    rcases hs.text i with h | h | h
    · have hsome := content_isSome.mpr ⟨_, hmem, rfl, rfl⟩
      unfold conf at h
      rw [h] at hsome
      cases hsome
    · exact h
    · exact absurd h (hnone i)
  · rintro hall i ⟨mac, hmac⟩
    obtain ⟨w, hmem, hok, hkey, hval⟩ := mem_of_content hmac
    have hw : w = ⟨(i, .bfMonitorConf), armText mac, true⟩ := by
      obtain ⟨key, value, ok⟩ := w
      simp_all
    exact not_armed_disarm (hall i ⟨mac, hw ▸ hmem⟩) ⟨mac, hmac⟩

theorem reconcile_off_writes (p : BfParams) (force : Bool) :
    (b.reconcile false p force env).writes.drop b.writes.length =
      if b.running ∧ b.params.iface ≠ "" then
        [⟨(b.params.iface, .bfMonitorConf), disarmText, env.disarmOk⟩,
          ⟨(b.params.iface, .ackTimeout), "33", env.restoreOk⟩]
      else [] := by
  show (b.stop env).writes.drop b.writes.length = _
  unfold stop
  by_cases h : b.running = true ∧ b.params.iface ≠ ""
  · simp [h, writeNode]
  · simp [h]

/-- **Nothing is stranded iff a disabling reconcile disarms everything**, provided its own writes
succeed. -/
theorem kept_iff_disarms (hs : b.Sound) : b.Kept ↔ ∀ p force env,
    let b' := b.reconcile false p force env
    (∀ w ∈ b'.writes.drop b.writes.length, w.ok = true) →
      ∀ i, EverArmed i b'.writes → b'.conf i = some disarmText := by
  constructor
  · intro hk p force env b' hok
    refine (disarmed_of_not_armed (step_sound hs (.reconcile false p force env))).mp fun i ha => ?_
    obtain ⟨harmed, hnot⟩ := stop_armed.mp ((reconcile_off_armed p force).mp ha)
    have hholds := hk i harmed
    refine hnot ⟨hholds, hok ⟨(b.params.iface, .bfMonitorConf), disarmText, env.disarmOk⟩ ?_⟩
    have hne : b.params.iface ≠ "" := hholds.2.1 ▸ hholds.2.2
    rw [reconcile_off_writes, if_pos ⟨hholds.1, hne⟩]
    exact List.mem_cons_self
  · intro hall i ha
    by_contra hnot
    have hwrites : ∀ w ∈ (b.reconcile false b.params false {}).writes.drop b.writes.length,
        w.ok = true := by
      rw [reconcile_off_writes]
      split_ifs <;> simp
    have hsound := step_sound hs (.reconcile false b.params false {})
    refine (disarmed_of_not_armed hsound).mpr (hall b.params false {} hwrites) i ?_
    exact (reconcile_off_armed b.params false).mpr (stop_armed.mpr ⟨ha, fun h => hnot h.1⟩)

theorem boot_sound : (BeamformingController.mk {} ⟨"", "", "", 20, 255, 100⟩ false none []).Sound :=
  ⟨fun _ => .inl rfl, fun h => by cases h⟩

/-- **Disarming.**  In a run of any calls, with any outcomes of the node writes: at every point a
disabling reconcile whose own writes succeed leaves every interface that was ever armed disarmed, iff
no call of the run strands an interface. -/
theorem disarmed_iff (calls : List BfCall) :
    (∀ before, before <+: calls → ∀ p force env,
      let b := before.foldl step {}
      let b' := b.reconcile false p force env
      (∀ w ∈ b'.writes.drop b.writes.length, w.ok = true) →
        ∀ i, EverArmed i b'.writes →
          content (i, BfNode.bfMonitorConf) b'.writes = some disarmText) ↔
      Run.Meets step (fun b c => b.strands c = false) {} calls := by
  have hsound : ∀ before : List BfCall, (before.foldl step {}).Sound := fun before =>
    List.foldlRecOn before step boot_sound fun b hb c _ => step_sound hb c
  rw [Run.meets_iff_throughout boot_sound (fun _ c hb => step_sound hb c)
    (fun i ⟨mac, hmac⟩ => by cases hmac) (fun _ c hb hk => step_kept hb hk c)]
  exact forall₂_congr fun before _ => (kept_iff_disarms (hsound before)).symm

def armedParams : BfParams := ⟨"wlan0", "rtl88x2eu", "aa:bb:cc:dd:ee:ff", 20, 255, 100⟩

/-- The conf write of an arming succeeds and the other one does not: the disabling reconcile then
issues no write at all, and the card stays armed. -/
theorem arming_strands :
    let b := step {} (.reconcile true armedParams false { ackOk := false })
    let b' := b.reconcile false armedParams false {}
    b'.writes = b.writes ∧ EverArmed "wlan0" b'.writes ∧
      content ("wlan0", BfNode.bfMonitorConf) b'.writes = some (armText "aa:bb:cc:dd:ee:ff") ∧
      content ("wlan0", BfNode.bfMonitorConf) b'.writes ≠ some disarmText := by
  refine ⟨by decide, ⟨"aa:bb:cc:dd:ee:ff", by decide⟩, by decide, by decide⟩

end Stranded

end BeamformingController

end Fpvd
