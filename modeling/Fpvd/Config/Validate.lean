import Fpvd.Config.Schema
import Fpvd.Lib.Digraph

/-!
# Fpvd.Config.Validate — `validate` (`drone/src/config/validate.cpp`)

`validate c` lists the errors of `c` in the order of the source, each with its field path and its
text.  `validate c = []` is the acceptance test of `bootstrap`, `patchPending` and `apply`.
-/

namespace Fpvd

structure ValidationError where
  path : String
  message : String
  deriving DecidableEq, Repr

def isxdigit (c : Char) : Bool :=
  ('0' ≤ c && c ≤ '9') || ('a' ≤ c && c ≤ 'f') || ('A' ≤ c && c ≤ 'F')

def isValidMac (s : String) : Bool :=
  s.toList.length == 17 &&
    s.toList.zipIdx.all (fun (c, i) => if i % 3 = 2 then c == ':' else isxdigit c)

def isspace (c : Char) : Bool :=
  c == ' ' || ('\t' ≤ c && c ≤ '\r')

def leadingDigits (cs : List Char) : List Char := cs.takeWhile Char.isDigit

def digitsValue (cs : List Char) : ℕ :=
  cs.foldl (fun acc c => 10 * acc + (c.toNat - '0'.toNat)) 0

/-- `std::stoi`: white space, an optional sign, digits, any rest.  `none` where it throws (no
digits, or a value outside `int`). -/
def stoi (cs : List Char) : Option ℤ :=
  let body := cs.dropWhile isspace
  let (sign, digits) : ℤ × List Char := match body with
    | '-' :: r => (-1, r)
    | '+' :: r => (1, r)
    | r => (1, r)
  let ds := leadingDigits digits
  if ds = [] then none
  else
    let v := sign * (digitsValue ds : ℤ)
    if -2147483648 ≤ v ∧ v ≤ 2147483647 then some v else none

/-- `WxH` with both numbers positive: cut at the first `x`. -/
def parseResolution (s : String) : Bool :=
  match s.toList.span (· ≠ 'x') with
  | (_, []) => false
  | (w, _ :: h) =>
    match stoi w, stoi h with
    | some w, some h => decide (w > 0 ∧ h > 0)
    | _, _ => false

def serviceDeps (svcs : OrdMap String Service) (n : String) : Option (List String) :=
  (svcs.find? n).map Service.startAfter

def hasCycle (svcs : OrdMap String Service) : Bool :=
  Digraph.hasCycle (serviceDeps svcs) svcs.keys

def errIf (bad : Bool) (path message : String) : List ValidationError :=
  if bad then [⟨path, message⟩] else []

def resiliencePresets : List String :=
  ["off", "rescue", "quality", "sprint", "racing", "endurance", "patrol", "rally", "range", "fpv"]

def rots : List ℤ := [0, 90, 180, 270]

def restartModes : List String := ["always", "on-failure", "never"]

def validateLink (c : Config) : List ValidationError :=
  errIf (c.link.width ≠ 5 && c.link.width ≠ 10 && c.link.width ≠ 20 && c.link.width ≠ 40)
    "link.width" "must be 5, 10, 20, or 40" ++
  errIf (c.dynamicLink.enabled && (c.link.width = 5 || c.link.width = 40))
    "link.width" "5/40 MHz requires dynamicLink.enabled=false" ++
  errIf (c.link.mcs < 0 || c.link.mcs > 7) "link.mcs" "must be 0..7" ++
  errIf (!c.link.txPowerDbm.automatic && (c.link.txPowerDbm.dbm < -10 || c.link.txPowerDbm.dbm > 30))
    "link.txPowerDbm" "must be -10..30 or \"auto\"" ++
  errIf (c.link.fec.k < 1 || c.link.fec.k > 32 || c.link.fec.n < 1 || c.link.fec.n > 32 ||
      c.link.fec.k ≥ c.link.fec.n) "link.fec" "require 1<=k<n<=32" ++
  errIf (c.link.fec.mode ≠ "rs" && c.link.fec.mode ≠ "swfec")
    "link.fec.mode" "must be \"rs\" or \"swfec\"" ++
  errIf (c.link.fec.overheadPct < 0 || c.link.fec.overheadPct > 255)
    "link.fec.overheadPct" "must be 0..255" ++
  errIf (c.link.fec.deadlineMs < 1 || c.link.fec.deadlineMs > 255)
    "link.fec.deadlineMs" "must be 1..255 (uint8 on the control wire)" ++
  errIf (c.link.channel < 1 || c.link.channel > 200) "link.channel" "out of range"

/-- The beamforming block is read only when it is enabled. -/
def validateBeamforming (c : Config) : List ValidationError :=
  if c.link.beamforming.enabled then
    errIf c.link.stbc "link.beamforming" "requires link.stbc=false" ++
    errIf (!isValidMac c.link.beamforming.remoteMac)
      "link.beamforming.remoteMac" "must be a valid MAC (aa:bb:cc:dd:ee:ff)" ++
    errIf (c.link.beamforming.ackTimeout < 33 || c.link.beamforming.ackTimeout > 255)
      "link.beamforming.ackTimeout" "must be 33..255" ++
    errIf (c.link.beamforming.intervalMs < 1) "link.beamforming.intervalMs" "must be >= 1"
  else []

def validateVideo (c : Config) : List ValidationError :=
  errIf (c.video.codec ≠ "h265") "video.codec" "must be h265 (hardware is H.265-only)" ++
  errIf (!parseResolution c.video.resolution) "video.resolution" "must be WxH" ++
  errIf (c.video.fps ≤ 0 || c.video.fps > 120) "video.fps" "must be in (0,120]" ++
  errIf (c.video.bitrate ≤ 0) "video.bitrate" "must be > 0" ++
  errIf (c.video.rcMode ≠ "cbr" && c.video.rcMode ≠ "vbr") "video.rcMode" "must be cbr or vbr" ++
  errIf (!resiliencePresets.contains c.video.resilience) "video.resilience"
    "must be one of off|rescue|quality|sprint|racing|endurance|patrol|rally|range|fpv"

def validateService (name : String) (s : Service) : List ValidationError :=
  errIf (!restartModes.contains s.restart) ("services." ++ name ++ ".restart")
    "must be always|on-failure|never" ++
  errIf (s.exec == "") ("services." ++ name ++ ".exec") "must not be empty"

def validateDynamicLink (dl : DynamicLink) : List ValidationError :=
  errIf (dl.healthTimeoutMs < 1000) "dynamicLink.healthTimeoutMs" "must be >= 1000" ++
  errIf (dl.applyStaggerMs < 0 || dl.applyStaggerMs > 500)
    "dynamicLink.applyStaggerMs" "must be 0..500" ++
  errIf (dl.applySubPaceMs < 0 || dl.applySubPaceMs > 50)
    "dynamicLink.applySubPaceMs" "must be 0..50" ++
  errIf (dl.roiQp.thresholdKbps ≤ 0 || dl.roiQp.lowAnchorKbps ≤ 0 ||
      dl.roiQp.thresholdKbps ≤ dl.roiQp.lowAnchorKbps)
    "dynamicLink.roiQp" "require thresholdKbps > lowAnchorKbps > 0" ++
  errIf (dl.roiQp.floor > 0) "dynamicLink.roiQp.floor" "must be <= 0" ++
  errIf (dl.roiQp.step < 1) "dynamicLink.roiQp.step" "must be >= 1" ++
  errIf (dl.compute.minBitrateKbps ≤ 0 || dl.compute.maxBitrateKbps ≤ dl.compute.minBitrateKbps)
    "dynamicLink.compute" "require 0 < minBitrateKbps < maxBitrateKbps" ++
  errIf (dl.compute.baseRedundancyRatio ≤ 0)
    "dynamicLink.compute.baseRedundancyRatio" "must be > 0" ++
  errIf (dl.compute.blocksPerFrame ≤ 0) "dynamicLink.compute.blocksPerFrame" "must be > 0" ++
  errIf (dl.compute.kMin < 1 || dl.compute.kMax < dl.compute.kMin)
    "dynamicLink.compute.k" "require 1 <= kMin <= kMax"

def validate (c : Config) : List ValidationError :=
  validateLink c ++ validateBeamforming c ++ validateVideo c ++
  errIf (!rots.contains c.image.rotate) "image.rotate" "must be 0/90/180/270" ++
  errIf (c.telemetry.router ≠ "msposd" && c.telemetry.router ≠ "mavfwd" &&
      c.telemetry.router ≠ "none") "telemetry.router" "must be msposd|mavfwd|none" ++
  c.services.entries.flatMap (fun (name, s) => validateService name s) ++
  errIf (hasCycle c.services) "services" "startAfter has a cycle" ++
  validateDynamicLink c.dynamicLink

@[simp] theorem errIf_eq_nil {bad : Bool} {path message : String} :
    errIf bad path message = [] ↔ bad = false := by
  unfold errIf
  cases bad <;> simp

theorem validateDynamicLink_compute {dl : DynamicLink} (h : validateDynamicLink dl = []) :
    0 < dl.compute.minBitrateKbps ∧ dl.compute.minBitrateKbps < dl.compute.maxBitrateKbps ∧
      0 < dl.compute.baseRedundancyRatio ∧ 0 < dl.compute.blocksPerFrame ∧
      1 ≤ dl.compute.kMin ∧ dl.compute.kMin ≤ dl.compute.kMax := by
  simp only [validateDynamicLink, List.append_eq_nil_iff, errIf_eq_nil, Bool.or_eq_false_iff,
    decide_eq_false_iff_not, not_le, not_lt] at h
  obtain ⟨⟨⟨⟨-, h1, h2⟩, h3⟩, h4⟩, h5, h6⟩ := h
  exact ⟨h1, h2, h3, h4, h5, h6⟩

theorem validateDynamicLink_stagger {dl : DynamicLink} (h : validateDynamicLink dl = []) :
    0 ≤ dl.applyStaggerMs ∧ dl.applyStaggerMs ≤ 500 := by
  simp only [validateDynamicLink, List.append_eq_nil_iff, errIf_eq_nil, Bool.or_eq_false_iff,
    decide_eq_false_iff_not, not_le, not_lt] at h
  exact h.1.1.1.1.1.1.1.1.2

theorem validate_dynamicLink {c : Config} (h : validate c = []) :
    validateDynamicLink c.dynamicLink = [] :=
  (List.append_eq_nil_iff.mp h).2

theorem validate_hasCycle {c : Config} (h : validate c = []) : hasCycle c.services = false :=
  errIf_eq_nil.mp (List.append_eq_nil_iff.mp (List.append_eq_nil_iff.mp h).1).2

theorem validate_video {c : Config} (h : validate c = []) : validateVideo c = [] := by
  simp only [validate, List.append_eq_nil_iff] at h
  exact h.1.1.1.1.1.2

theorem validate_link {c : Config} (h : validate c = []) : validateLink c = [] := by
  simp only [validate, List.append_eq_nil_iff] at h
  exact h.1.1.1.1.1.1.1

/-- The code defaults are accepted. -/
example : validate {} = [] := by decide +kernel

end Fpvd
