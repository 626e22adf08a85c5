import Mathlib.Data.Rat.Defs
import Mathlib.Data.String.Basic
import Fpvd.Lib.AssocMap

/-!
# Fpvd.Config.Schema — the drone configuration (`drone/src/config/schema.hpp`)

One structure per C++ struct, with its member initialisers as field defaults.

* `int` and `long` are `ℤ`, `double` is an exact rational.
* `std::map<std::string, T>` is `OrdMap String T`: its entries are in key order.
* `std::optional` is `Option`.
-/

namespace Fpvd

/-- `link.fec`: block geometry of the `rs` mode and repair budget of the `swfec` mode. -/
structure Fec where
  mode : String := "swfec"
  k : ℤ := 8
  n : ℤ := 12
  overheadPct : ℤ := 50
  deadlineMs : ℤ := 30
  deriving DecidableEq, Repr

structure Beamforming where
  enabled : Bool := false
  remoteMac : String := ""
  ackTimeout : ℤ := 255
  intervalMs : ℤ := 100
  deriving DecidableEq, Repr

/-- `link.txPowerDbm`: a fixed dBm value, or `auto` (the driver's own per-rate table). -/
structure TxPower where
  automatic : Bool := false
  dbm : ℤ := 20
  deriving DecidableEq, Repr

/-- `operator==` on `TxPower`: the `dbm` of an automatic value is meaningless. -/
def TxPower.same (a b : TxPower) : Bool :=
  a.automatic == b.automatic && (a.automatic || a.dbm == b.dbm)

structure Link where
  channel : ℤ := 132
  width : ℤ := 20
  txPowerDbm : TxPower := {}
  mcs : ℤ := 2
  fec : Fec := {}
  stbc : Bool := true
  ldpc : Bool := true
  linkId : ℤ := 7669206
  mtu : ℤ := 1500
  wlanAdapter : Option String := none
  beamforming : Beamforming := {}
  videoEncryption : Bool := true
  deriving DecidableEq, Repr

structure Roi where
  enabled : Bool := true
  qp : ℤ := 0
  center : ℚ := 2 / 5
  steps : ℤ := 2
  deriving DecidableEq, Repr

structure Video where
  codec : String := "h265"
  resolution : String := "1920x1080"
  fps : ℤ := 60
  bitrate : ℤ := 8192
  rcMode : String := "cbr"
  gopSize : ℚ := 1
  resilience : String := "off"
  qpDelta : ℤ := -4
  sensorBin : String := ""
  roi : Roi := {}
  deriving DecidableEq, Repr

structure Image where
  mirror : Bool := false
  flip : Bool := false
  rotate : ℤ := 0
  deriving DecidableEq, Repr

structure Telemetry where
  router : String := "msposd"
  serial : String := "ttyS2"
  osdFps : ℤ := 20
  baud : ℤ := 115200
  deriving DecidableEq, Repr

structure Recording where
  enabled : Bool := false
  format : String := "ts"
  mode : String := "mirror"
  maxSeconds : ℤ := 300
  maxMB : ℤ := 500
  deriving DecidableEq, Repr

structure DynamicLinkRoiQp where
  thresholdKbps : ℤ := 6000
  lowAnchorKbps : ℤ := 2000
  floor : ℤ := -24
  step : ℤ := 3
  deriving DecidableEq, Repr

structure DynamicLinkCompute where
  minBitrateKbps : ℤ := 1000
  maxBitrateKbps : ℤ := 24000
  baseRedundancyRatio : ℚ := 1 / 2
  blocksPerFrame : ℚ := 2
  kMin : ℤ := 2
  kMax : ℤ := 50
  deriving DecidableEq, Repr

structure DynamicLinkProbe where
  enabled : Bool := false
  deriving DecidableEq, Repr

structure DynamicLink where
  enabled : Bool := false
  txPowerControl : Bool := true
  healthTimeoutMs : ℤ := 10000
  applyStaggerMs : ℤ := 50
  applySubPaceMs : ℤ := 5
  roiQp : DynamicLinkRoiQp := {}
  compute : DynamicLinkCompute := {}
  probe : DynamicLinkProbe := {}
  deriving DecidableEq, Repr

structure Osd where
  enabled : Bool := true
  deriving DecidableEq, Repr

/-- A user-defined process of the `services` map. -/
structure Service where
  enabled : Bool := true
  exec : String := ""
  args : List String := []
  env : OrdMap String String := ∅
  startAfter : List String := []
  restart : String := "always"
  deriving DecidableEq, Repr

structure Config where
  link : Link := {}
  video : Video := {}
  image : Image := {}
  telemetry : Telemetry := {}
  recording : Recording := {}
  osd : Osd := {}
  dynamicLink : DynamicLink := {}
  services : OrdMap String Service := ∅
  deriving DecidableEq, Repr

end Fpvd
