import Fpvd.Config.Schema
import Fpvd.Lib.Json

/-!
# Fpvd.Config.Codec — the configuration as JSON

The conversions that `drone/src/config/schema.hpp` declares, and `deepMergeJson` of
`drone/src/config/store.cpp`.

A struct declared `WITH_DEFAULT` reads each member with `value` (an absent member takes the code
default), the others with `at` (an absent member is an exception).  Members are read in the order of
the declaration, which decides the exception reported, and written in key order.
-/

namespace Fpvd

open Json

def Fec.toJson (f : Fec) : Json :=
  .obj [("deadlineMs", .int f.deadlineMs), ("k", .int f.k), ("mode", .str f.mode), ("n", .int f.n),
    ("overheadPct", .int f.overheadPct)]

def Fec.fromJson (j : Json) : Conv Fec := do
  let d : Fec := {}
  return {
    mode := ← j.value "mode" getStr d.mode
    k := ← j.value "k" getInt d.k
    n := ← j.value "n" getInt d.n
    overheadPct := ← j.value "overheadPct" getInt d.overheadPct
    deadlineMs := ← j.value "deadlineMs" getInt d.deadlineMs }

def Beamforming.toJson (b : Beamforming) : Json :=
  .obj [("ackTimeout", .int b.ackTimeout), ("enabled", .bool b.enabled),
    ("intervalMs", .int b.intervalMs), ("remoteMac", .str b.remoteMac)]

def Beamforming.fromJson (j : Json) : Conv Beamforming := do
  let d : Beamforming := {}
  return {
    enabled := ← j.value "enabled" getBool d.enabled
    remoteMac := ← j.value "remoteMac" getStr d.remoteMac
    ackTimeout := ← j.value "ackTimeout" getInt d.ackTimeout
    intervalMs := ← j.value "intervalMs" getInt d.intervalMs }

def TxPower.toJson (t : TxPower) : Json := if t.automatic then .str "auto" else .int t.dbm

/-- A text other than `auto` raises a `std::runtime_error`, not an exception of the JSON library. -/
def TxPower.fromJson : Json → Conv TxPower
  | .str s =>
    if s ≠ "auto" then .error (.runtime "link.txPowerDbm string must be \"auto\"")
    else .ok { automatic := true, dbm := 20 }
  | j => do return { automatic := false, dbm := ← getInt j }

def Link.toJson (l : Link) : Json :=
  .obj [("beamforming", l.beamforming.toJson), ("channel", .int l.channel), ("fec", l.fec.toJson),
    ("ldpc", .bool l.ldpc), ("linkId", .int l.linkId), ("mcs", .int l.mcs), ("mtu", .int l.mtu),
    ("stbc", .bool l.stbc), ("txPowerDbm", l.txPowerDbm.toJson),
    ("videoEncryption", .bool l.videoEncryption), ("width", .int l.width),
    ("wlanAdapter", (l.wlanAdapter.map Json.str).getD .null)]

def Link.fromJson (j : Json) : Conv Link := do
  let d : Link := {}
  return {
    channel := ← j.value "channel" getInt d.channel
    width := ← j.value "width" getInt d.width
    txPowerDbm := ← j.value "txPowerDbm" TxPower.fromJson d.txPowerDbm
    mcs := ← j.value "mcs" getInt d.mcs
    fec := ← j.value "fec" Fec.fromJson d.fec
    stbc := ← j.value "stbc" getBool d.stbc
    ldpc := ← j.value "ldpc" getBool d.ldpc
    linkId := ← j.value "linkId" getLong d.linkId
    mtu := ← j.value "mtu" getInt d.mtu
    wlanAdapter := ← j.value "wlanAdapter" (getOption getStr) d.wlanAdapter
    beamforming := ← j.value "beamforming" Beamforming.fromJson d.beamforming
    videoEncryption := ← j.value "videoEncryption" getBool d.videoEncryption }

def Roi.toJson (r : Roi) : Json :=
  .obj [("center", .real r.center), ("enabled", .bool r.enabled), ("qp", .int r.qp),
    ("steps", .int r.steps)]

def Roi.fromJson (j : Json) : Conv Roi := do
  return {
    enabled := ← j.atKey "enabled" getBool
    qp := ← j.atKey "qp" getInt
    center := ← j.atKey "center" getReal
    steps := ← j.atKey "steps" getInt }

def Video.toJson (v : Video) : Json :=
  .obj [("bitrate", .int v.bitrate), ("codec", .str v.codec), ("fps", .int v.fps),
    ("gopSize", .real v.gopSize), ("qpDelta", .int v.qpDelta), ("rcMode", .str v.rcMode),
    ("resilience", .str v.resilience), ("resolution", .str v.resolution), ("roi", v.roi.toJson),
    ("sensorBin", .str v.sensorBin)]

def Video.fromJson (j : Json) : Conv Video := do
  return {
    codec := ← j.atKey "codec" getStr
    resolution := ← j.atKey "resolution" getStr
    fps := ← j.atKey "fps" getInt
    bitrate := ← j.atKey "bitrate" getInt
    rcMode := ← j.atKey "rcMode" getStr
    gopSize := ← j.atKey "gopSize" getReal
    resilience := ← j.atKey "resilience" getStr
    qpDelta := ← j.atKey "qpDelta" getInt
    sensorBin := ← j.atKey "sensorBin" getStr
    roi := ← j.atKey "roi" Roi.fromJson }

def Image.toJson (i : Image) : Json :=
  .obj [("flip", .bool i.flip), ("mirror", .bool i.mirror), ("rotate", .int i.rotate)]

def Image.fromJson (j : Json) : Conv Image := do
  return {
    mirror := ← j.atKey "mirror" getBool
    flip := ← j.atKey "flip" getBool
    rotate := ← j.atKey "rotate" getInt }

def Telemetry.toJson (t : Telemetry) : Json :=
  .obj [("baud", .int t.baud), ("osdFps", .int t.osdFps), ("router", .str t.router),
    ("serial", .str t.serial)]

def Telemetry.fromJson (j : Json) : Conv Telemetry := do
  return {
    router := ← j.atKey "router" getStr
    serial := ← j.atKey "serial" getStr
    osdFps := ← j.atKey "osdFps" getInt
    baud := ← j.atKey "baud" getInt }

def Recording.toJson (r : Recording) : Json :=
  .obj [("enabled", .bool r.enabled), ("format", .str r.format), ("maxMB", .int r.maxMB),
    ("maxSeconds", .int r.maxSeconds), ("mode", .str r.mode)]

def Recording.fromJson (j : Json) : Conv Recording := do
  return {
    enabled := ← j.atKey "enabled" getBool
    format := ← j.atKey "format" getStr
    mode := ← j.atKey "mode" getStr
    maxSeconds := ← j.atKey "maxSeconds" getInt
    maxMB := ← j.atKey "maxMB" getInt }

def DynamicLinkRoiQp.toJson (r : DynamicLinkRoiQp) : Json :=
  .obj [("floor", .int r.floor), ("lowAnchorKbps", .int r.lowAnchorKbps), ("step", .int r.step),
    ("thresholdKbps", .int r.thresholdKbps)]

def DynamicLinkRoiQp.fromJson (j : Json) : Conv DynamicLinkRoiQp := do
  let d : DynamicLinkRoiQp := {}
  return {
    thresholdKbps := ← j.value "thresholdKbps" getInt d.thresholdKbps
    lowAnchorKbps := ← j.value "lowAnchorKbps" getInt d.lowAnchorKbps
    floor := ← j.value "floor" getInt d.floor
    step := ← j.value "step" getInt d.step }

def DynamicLinkCompute.toJson (m : DynamicLinkCompute) : Json :=
  .obj [("baseRedundancyRatio", .real m.baseRedundancyRatio),
    ("blocksPerFrame", .real m.blocksPerFrame), ("kMax", .int m.kMax), ("kMin", .int m.kMin),
    ("maxBitrateKbps", .int m.maxBitrateKbps), ("minBitrateKbps", .int m.minBitrateKbps)]

def DynamicLinkCompute.fromJson (j : Json) : Conv DynamicLinkCompute := do
  let d : DynamicLinkCompute := {}
  return {
    minBitrateKbps := ← j.value "minBitrateKbps" getInt d.minBitrateKbps
    maxBitrateKbps := ← j.value "maxBitrateKbps" getInt d.maxBitrateKbps
    baseRedundancyRatio := ← j.value "baseRedundancyRatio" getReal d.baseRedundancyRatio
    blocksPerFrame := ← j.value "blocksPerFrame" getReal d.blocksPerFrame
    kMin := ← j.value "kMin" getInt d.kMin
    kMax := ← j.value "kMax" getInt d.kMax }

def DynamicLinkProbe.toJson (p : DynamicLinkProbe) : Json := .obj [("enabled", .bool p.enabled)]

def DynamicLinkProbe.fromJson (j : Json) : Conv DynamicLinkProbe := do
  let d : DynamicLinkProbe := {}
  return {
    enabled := ← j.value "enabled" getBool d.enabled }

def DynamicLink.toJson (d : DynamicLink) : Json :=
  .obj [("applyStaggerMs", .int d.applyStaggerMs), ("applySubPaceMs", .int d.applySubPaceMs),
    ("compute", d.compute.toJson), ("enabled", .bool d.enabled),
    ("healthTimeoutMs", .int d.healthTimeoutMs), ("probe", d.probe.toJson),
    ("roiQp", d.roiQp.toJson), ("txPowerControl", .bool d.txPowerControl)]

def DynamicLink.fromJson (j : Json) : Conv DynamicLink := do
  let d : DynamicLink := {}
  return {
    enabled := ← j.value "enabled" getBool d.enabled
    txPowerControl := ← j.value "txPowerControl" getBool d.txPowerControl
    healthTimeoutMs := ← j.value "healthTimeoutMs" getInt d.healthTimeoutMs
    applyStaggerMs := ← j.value "applyStaggerMs" getInt d.applyStaggerMs
    applySubPaceMs := ← j.value "applySubPaceMs" getInt d.applySubPaceMs
    roiQp := ← j.value "roiQp" DynamicLinkRoiQp.fromJson d.roiQp
    compute := ← j.value "compute" DynamicLinkCompute.fromJson d.compute
    probe := ← j.value "probe" DynamicLinkProbe.fromJson d.probe }

def Osd.toJson (o : Osd) : Json := .obj [("enabled", .bool o.enabled)]

def Osd.fromJson (j : Json) : Conv Osd := do
  let d : Osd := {}
  return {
    enabled := ← j.value "enabled" getBool d.enabled }

def Service.toJson (s : Service) : Json :=
  .obj [("args", .arr (s.args.map Json.str)), ("enabled", .bool s.enabled),
    ("env", ofMap Json.str s.env), ("exec", .str s.exec), ("restart", .str s.restart),
    ("startAfter", .arr (s.startAfter.map Json.str))]

def Service.fromJson (j : Json) : Conv Service := do
  return {
    enabled := ← j.atKey "enabled" getBool
    exec := ← j.atKey "exec" getStr
    args := ← j.atKey "args" (getList getStr)
    env := ← j.atKey "env" (getMap getStr)
    startAfter := ← j.atKey "startAfter" (getList getStr)
    restart := ← j.atKey "restart" getStr }

def Config.toJson (c : Config) : Json :=
  .obj [("dynamicLink", c.dynamicLink.toJson), ("image", c.image.toJson), ("link", c.link.toJson),
    ("osd", c.osd.toJson), ("recording", c.recording.toJson),
    ("services", ofMap Service.toJson c.services), ("telemetry", c.telemetry.toJson),
    ("video", c.video.toJson)]

def Config.fromJson (j : Json) : Conv Config := do
  let d : Config := {}
  return {
    link := ← j.value "link" Link.fromJson d.link
    video := ← j.value "video" Video.fromJson d.video
    image := ← j.value "image" Image.fromJson d.image
    telemetry := ← j.value "telemetry" Telemetry.fromJson d.telemetry
    recording := ← j.value "recording" Recording.fromJson d.recording
    osd := ← j.value "osd" Osd.fromJson d.osd
    dynamicLink := ← j.value "dynamicLink" DynamicLink.fromJson d.dynamicLink
    services := ← j.value "services" (getMap Service.fromJson) d.services }

mutual

def deepMergeJson : (base overlay : Json) → Json
  | .obj bs, .obj os => .obj (mergeMembers bs os)
  | _, overlay => overlay

def mergeMembers : (out overlay : List (String × Json)) → List (String × Json)
  | out, [] => out
  | out, (k, v) :: os =>
    let w := match AssocMap.find? k out with
      | some b => if b.isObject && v.isObject then deepMergeJson b v else v
      | none => v
    mergeMembers (AssocMap.insert k w out) os

end

end Fpvd
