import Mathlib.Data.List.TakeWhile
import Fpvd.DynLink.Backend
import Fpvd.Supervise.Seed
import Fpvd.Translate.Waybeam

/-!
# Fpvd.Daemon.World — what the daemon and its controller do to the outside

The daemon acts on files, on the radio scripts, on the control port of the video TX, on the encoder and
on its child processes.  Every act is an event of one log, with its outcome and with two facts about
the moment it was issued: whether dynamic link was enabled in the effective configuration, and whether
the controller was running.  The commands of the controller (`DynLink.Ev`) are in the same log.

* `Devices` is what the outside holds: the encoder's document and settings, FEC and radiotap of the
  video TX, power, MTU and channel of the NIC.  `devices log` folds the log; only successful acts count.
* A launch bakes values in: `videoTxOfArgv` reads the command line as `wfb_tx` does, and `waybeam` loads
  its document.
-/

namespace Fpvd

open DynLink Run

/-! ## Acts and events -/

structure RadioEnv where
  channel : ℤ
  width : ℤ
  txPowerDbm : TxPower
  mtu : ℤ
  wlanAdapter : Option String := none
  iface : String := ""
  driver : String := ""
  deriving DecidableEq, Repr

inductive TuneAction where
  | channel
  | txpower
  | mtu
  deriving DecidableEq, Repr

structure BfParams where
  iface : String
  driver : String
  remoteMac : String
  width : ℤ
  ackTimeout : ℤ
  intervalMs : ℤ
  deriving DecidableEq, Repr

inductive Act where
  /-- `radio-up.sh`. -/
  | radioUp (e : RadioEnv)
  /-- `radio-tune.sh`. -/
  | tune (a : TuneAction) (e : RadioEnv)
  /-- `CMD_SET_FEC` to the video control port. -/
  | setFec (k n : ℕ)
  /-- `CMD_SET_RADIO` to the video control port. -/
  | setRadio (w : RadioWord)
  /-- `/api/v1/set` of the encoder. -/
  | encSet (fields : List EncField)
  | writeConfig (c : Config)
  | removeConfig
  | writeWaybeam (doc : Json)
  | launch (spec : SupervisedSpec)
  | beamforming (enabled : Bool) (p : BfParams) (force : Bool)
  deriving DecidableEq, Repr

inductive SysEv where
  | act (a : Act) (ok enabled running : Bool)
  | dl (e : Ev)
  deriving DecidableEq, Repr

/-! ## Configured values -/

inductive NicPower where
  | auto
  | fixed (mBm : ℤ)
  deriving DecidableEq, Repr

def TxPower.nic (t : TxPower) : NicPower := if t.automatic then .auto else .fixed (t.dbm * 100)

/-- The arguments of `CMD_SET_FEC` for a configuration; `swfec` rides the same command. -/
def staticFec (c : Config) : ℕ × ℕ :=
  if c.link.fec.mode = "swfec" then (u8 c.link.fec.overheadPct, u8 c.link.fec.deadlineMs)
  else (u8 c.link.fec.k, u8 c.link.fec.n)

def staticRadio (c : Config) : RadioWord where
  stbc := if c.link.stbc then 1 else 0
  ldpc := c.link.ldpc
  shortGi := false
  bandwidth := u8 (modulationWidth c.link.width)
  mcs := u8 c.link.mcs
  vhtMode := false
  vhtNss := 1

/-! ## The video TX command line -/

/-- Options as `getopt` reads them: `-z` stands alone, the others take an argument. -/
def options : List String → List (String × String)
  | "-z" :: rest => ("-z", "") :: options rest
  | o :: v :: rest => (o, v) :: options rest
  | _ => []

def atoi (s : String) : ℤ :=
  match s.toList with
  | '-' :: ds => -(digitsValue (leadingDigits ds) : ℤ)
  | ds => (digitsValue (leadingDigits ds) : ℤ)

def intOption (o : String) (opts : List (String × String)) : Option ℤ :=
  (AssocMap.find? o opts).map atoi

def videoTxOfArgv (argv : List String) : Option ((ℕ × ℕ) × RadioWord) := do
  let opts := options argv.tail
  let k ← intOption "-k" opts
  let n ← intOption "-n" opts
  let mcs ← intOption "-M" opts
  let bw ← intOption "-B" opts
  let stbc ← intOption "-S" opts
  let ldpc ← intOption "-L" opts
  return ((u8 k, u8 n),
    { stbc := u8 stbc, ldpc := ldpc ≠ 0, shortGi := false, bandwidth := u8 bw, mcs := u8 mcs
      vhtMode := false, vhtNss := 1 })

def bakedVideoTx (spec : SupervisedSpec) : Option ((ℕ × ℕ) × RadioWord) :=
  if spec.name = "wfb_video_tx" then videoTxOfArgv spec.argv else none

/-! ## Devices -/

structure Devices where
  waybeamFile : Json := .null
  enc : Option EncState := none
  fec : Option (ℕ × ℕ) := none
  radio : Option RadioWord := none
  power : Option NicPower := none
  mtu : Option ℤ := none
  /-- Channel and width. -/
  channel : Option (ℤ × ℤ) := none
  deriving DecidableEq, Repr

namespace Devices

/-- A process comes up.  Another program under the name of the encoder loads nothing. -/
def launch (spec : SupervisedSpec) (d : Devices) : Devices :=
  { d with
    fec := ((bakedVideoTx spec).map Prod.fst).or d.fec
    radio := ((bakedVideoTx spec).map Prod.snd).or d.radio
    enc := if spec.name = "waybeam" ∧ spec.argv = waybeamArgv then
      (EncState.load d.waybeamFile).toOption else d.enc }

def act (d : Devices) : Act → Devices
  | .radioUp e =>
    { d with power := some e.txPowerDbm.nic, mtu := some e.mtu, channel := some (e.channel, e.width) }
  | .tune .channel e => { d with channel := some (e.channel, e.width) }
  | .tune .txpower e => { d with power := some e.txPowerDbm.nic }
  | .tune .mtu e => { d with mtu := some e.mtu }
  | .setFec k n => { d with fec := some (k, n) }
  | .setRadio w => { d with radio := some w }
  | .encSet fields => { d with enc := d.enc.map (EncState.setAll fields) }
  | .writeWaybeam doc => { d with waybeamFile := doc }
  | .launch spec => d.launch spec
  | .writeConfig _ | .removeConfig | .beamforming _ _ _ => d

def pushEnc (f : EncFields) (e : EncState) : EncState :=
  { e with bitrate := f.bitrate, roiQp := f.roiQp, fps := (f.fps.map fun v => (v : ℤ)).getD e.fps }

def cmd (d : Devices) : Cmd → Devices
  | .setFec k n => { d with fec := some (k, n) }
  | .setRadio w => { d with radio := some w }
  | .probeRadio _ => d
  | .iwFixed _ mBm => { d with power := some (.fixed mBm) }
  | .iwAuto _ => { d with power := some .auto }
  | .encSet f => { d with enc := d.enc.map (pushEnc f) }

def exec (d : Devices) : SysEv → Devices
  | .act a true _ _ => d.act a
  | .dl (.cmd _ c true) => d.cmd c
  | _ => d

end Devices

def devices (log : List SysEv) : Devices := log.foldl Devices.exec {}

@[simp] theorem devices_concat (log : List SysEv) (e : SysEv) :
    devices (log ++ [e]) = (devices log).exec e := by
  simp [devices, List.foldl_append]

theorem digitsValue_toDigits (n : ℕ) : digitsValue (leadingDigits (Nat.toDigits 10 n)) = n := by
  have hall : leadingDigits (Nat.toDigits 10 n) = Nat.toDigits 10 n :=
    List.takeWhile_eq_self_iff.mpr fun c hc =>
      Nat.isDigit_of_mem_toDigits (by decide) (by decide) hc
  rw [hall, digitsValue, ← Nat.ofDigitChars_eq_foldl, Nat.ofDigitChars_ten_toDigits]

theorem atoi_repr (z : ℤ) : atoi z.repr = z := by
  cases z with
  | ofNat n =>
    show atoi n.repr = n
    unfold atoi
    rw [Nat.toList_repr]
    split
    · rename_i ds h
      -- a digit is no minus sign
      have hminus : '-' ∈ Nat.toDigits 10 n := h ▸ List.mem_cons_self
      exact absurd (Nat.isDigit_of_mem_toDigits (by decide) (by decide) hminus) (by decide)
    · rw [digitsValue_toDigits]
  | negSucc n =>
    show atoi ("-" ++ (n + 1).repr) = _
    unfold atoi
    rw [String.toList_append, Nat.toList_repr]
    show -(digitsValue (leadingDigits (Nat.toDigits 10 (n + 1))) : ℤ) = _
    rw [digitsValue_toDigits]
    rfl

theorem videoTxOfArgv_wfbArgs (c : Config) (iface key : String) :
    videoTxOfArgv (wfbArgs c .videoTx iface key) = some (staticFec c, staticRadio c) := by
  have hflag : ∀ b, atoi (flag01 b) = if b then 1 else 0 := by decide +kernel
  have hu8 : ∀ b : Bool, u8 (if b then 1 else 0) = if b then 1 else 0 := by decide
  unfold videoTxOfArgv wfbArgs commonTx fecArgs staticFec staticRadio
  by_cases hf : c.link.fec.mode = "swfec" <;> cases c.link.videoEncryption <;>
    simp [hf, options, intOption, AssocMap.find?, atoi_repr, hflag, hu8]

/-! ## Observations

FEC, radiotap, power and MTU are what the log shows last. -/

def Act.fec? : Act → Option (ℕ × ℕ)
  | .setFec k n => some (k, n)
  | .launch spec => (bakedVideoTx spec).map Prod.fst
  | _ => none

def Act.radio? : Act → Option RadioWord
  | .setRadio w => some w
  | .launch spec => (bakedVideoTx spec).map Prod.snd
  | _ => none

def Act.power? : Act → Option NicPower
  | .radioUp e | .tune .txpower e => some e.txPowerDbm.nic
  | _ => none

def Act.mtu? : Act → Option ℤ
  | .radioUp e | .tune .mtu e => some e.mtu
  | _ => none

def powerCmd? : Ev → Option NicPower
  | .cmd _ (.iwFixed _ mBm) true => some (.fixed mBm)
  | .cmd _ (.iwAuto _) true => some .auto
  | _ => none

def SysEv.obs {β : Type} (f : Act → Option β) (g : Ev → Option β) : SysEv → Option β
  | .act a true _ _ => f a
  | .act _ false _ _ => none
  | .dl e => g e

/-- The component `p` of the devices is what the log shows last through `f` and `g`. -/
def Shown {β : Type} (p : Devices → Option β) (f : Act → Option β) (g : Ev → Option β) : Prop :=
  ∀ d e, p (Devices.exec d e) = (SysEv.obs f g e).or (p d)

theorem exec_shown (d : Devices) (e : SysEv) :
    (d.exec e).fec = (SysEv.obs Act.fec? Ev.fec? e).or d.fec ∧
    (d.exec e).radio = (SysEv.obs Act.radio? Ev.radio? e).or d.radio ∧
    (d.exec e).power = (SysEv.obs Act.power? powerCmd? e).or d.power ∧
    (d.exec e).mtu = (SysEv.obs Act.mtu? (fun _ => none) e).or d.mtu := by
  rcases e with ⟨a, ok, _, _⟩ | e
  · cases ok
    · exact ⟨rfl, rfl, rfl, rfl⟩
    · cases a
      case tune a _ => cases a <;> exact ⟨rfl, rfl, rfl, rfl⟩
      all_goals exact ⟨rfl, rfl, rfl, rfl⟩
  · cases e
    case cmd b c ok => cases c <;> cases ok <;> exact ⟨rfl, rfl, rfl, rfl⟩
    all_goals exact ⟨rfl, rfl, rfl, rfl⟩

theorem exec_dl_enc (d : Devices) (e : Ev) :
    (d.exec (.dl e)).enc = e.enc?.elim d.enc fun f => d.enc.map (Devices.pushEnc f) := by
  cases e
  case cmd b c ok => cases c <;> cases ok <;> rfl
  all_goals rfl

theorem shown_fec : Shown Devices.fec Act.fec? Ev.fec? := fun d e => (exec_shown d e).1

theorem shown_radio : Shown Devices.radio Act.radio? Ev.radio? := fun d e => (exec_shown d e).2.1

theorem shown_power : Shown Devices.power Act.power? powerCmd? := fun d e => (exec_shown d e).2.2.1

theorem shown_mtu : Shown Devices.mtu Act.mtu? fun _ => none := fun d e => (exec_shown d e).2.2.2

theorem Shown.append {β : Type} {p : Devices → Option β} {f : Act → Option β} {g : Ev → Option β}
    (h : Shown p f g) (log l : List SysEv) :
    p (devices (log ++ l)) = (lastObs (SysEv.obs f g) l).or (p (devices log)) := by
  induction l using List.reverseRecOn with
  | nil => simp
  | append_singleton l e ih =>
    rw [← List.append_assoc, devices_concat, h, ih, lastObs_concat, Option.or_assoc]

end Fpvd
