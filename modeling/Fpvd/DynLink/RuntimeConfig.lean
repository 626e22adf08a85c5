import Mathlib.Tactic
import Fpvd.Config.Schema

/-!
# Fpvd.DynLink.RuntimeConfig — the control loop's configuration snapshot

`drone/src/dynlink/runtime_config.hpp`, `runtime_config.cpp`, `drone/src/link_width.hpp` and
`drone/src/probe/probe_constants.hpp`.  `buildDlSnapshot` narrows the operator configuration to the
fixed-width fields of the loop; `u8`, `u16`, `u32` and `i8` are the `static_cast`s it uses.
-/

namespace Fpvd

/-- A 5 or 10 MHz channel keeps the 20 MHz modulation (the baseband is underclocked). -/
def modulationWidth (linkWidth : ℤ) : ℤ := if linkWidth = 5 ∨ linkWidth = 10 then 20 else linkWidth

def kProbeRadioPort : ℤ := 50
def kProbeControlPort : ℤ := 8001
def kProbeFeedPort : ℤ := 6700
def kProbePps : ℤ := 25
def kProbePacketBytes : ℤ := 1400
def kProbeMcsCeiling : ℤ := 7

def u8 (x : ℤ) : ℕ := (x % 2 ^ 8).toNat

def u16 (x : ℤ) : ℕ := (x % 2 ^ 16).toNat

def u32 (x : ℤ) : ℕ := (x % 2 ^ 32).toNat

def i8 (x : ℤ) : ℤ := (x + 2 ^ 7) % 2 ^ 8 - 2 ^ 7

theorem u8_of_lt {x : ℤ} (h0 : 0 ≤ x) (h : x < 2 ^ 8) : (u8 x : ℤ) = x := by
  unfold u8
  omega

theorem u16_of_lt {x : ℤ} (h0 : 0 ≤ x) (h : x < 2 ^ 16) : (u16 x : ℤ) = x := by
  unfold u16
  omega

namespace DynLink

structure RoiCurve where
  thresholdKbps : ℕ
  lowAnchorKbps : ℕ
  floor : ℤ
  step : ℕ
  deriving DecidableEq, Repr

structure BitrateEngineConfig where
  baseRedundancyRatio : ℚ := 1 / 2
  blocksPerFrame : ℚ := 2
  kMin : ℤ := 2
  kMax : ℤ := 50
  minBitrateKbps : ℤ := 1000
  maxBitrateKbps : ℤ := 24000
  mtuBytes : ℤ := 1500
  fps : ℤ := 60
  deriving DecidableEq, Repr

structure DlRuntimeConfig where
  healthTimeoutMs : ℕ
  applyStaggerMs : ℕ
  applySubPaceMs : ℕ
  swfec : Bool := false
  swfecOverheadPct : ℕ := 50
  swfecDeadlineMs : ℕ := 30
  roiQp : RoiCurve
  bitrate : BitrateEngineConfig
  stbc : Bool
  ldpc : Bool
  linkWidthMhz : ℕ := 20
  probeEnabled : Bool := false
  probeCtlPort : ℕ := 0
  probeMcsCeiling : ℤ := 7
  txPowerControl : Bool := true
  iface : String
  deriving DecidableEq, Repr

def buildDlSnapshot (c : Config) (iface : String) : DlRuntimeConfig where
  healthTimeoutMs := u32 c.dynamicLink.healthTimeoutMs
  applyStaggerMs := u32 c.dynamicLink.applyStaggerMs
  applySubPaceMs := u32 c.dynamicLink.applySubPaceMs
  roiQp :=
    { thresholdKbps := u16 c.dynamicLink.roiQp.thresholdKbps
      lowAnchorKbps := u16 c.dynamicLink.roiQp.lowAnchorKbps
      floor := i8 c.dynamicLink.roiQp.floor
      step := u8 c.dynamicLink.roiQp.step }
  swfec := c.link.fec.mode = "swfec"
  swfecOverheadPct := u8 c.link.fec.overheadPct
  swfecDeadlineMs := u8 c.link.fec.deadlineMs
  bitrate :=
    { baseRedundancyRatio := c.dynamicLink.compute.baseRedundancyRatio
      blocksPerFrame := c.dynamicLink.compute.blocksPerFrame
      kMin := c.dynamicLink.compute.kMin
      kMax := c.dynamicLink.compute.kMax
      minBitrateKbps := c.dynamicLink.compute.minBitrateKbps
      maxBitrateKbps := c.dynamicLink.compute.maxBitrateKbps
      mtuBytes := c.link.mtu
      fps := c.video.fps }
  stbc := c.link.stbc
  ldpc := c.link.ldpc
  linkWidthMhz := u8 c.link.width
  probeEnabled := c.dynamicLink.probe.enabled
  probeCtlPort := if c.dynamicLink.probe.enabled then u16 kProbeControlPort else 0
  probeMcsCeiling := kProbeMcsCeiling
  txPowerControl := c.dynamicLink.txPowerControl
  iface := iface

end DynLink

end Fpvd
