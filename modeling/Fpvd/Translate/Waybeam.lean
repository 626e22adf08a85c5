import Mathlib.Data.Int.Log
import Fpvd.Config.Codec

/-!
# Fpvd.Translate.Waybeam — the encoder's settings (`drone/src/translate/waybeam.cpp`)

* `waybeamConfigDiff a b dl`: the fields that differ, split into those pushed live and those that need
  a restart.
* `setAll_live`: what a live push leaves in the encoder.
-/

namespace Fpvd

open Json

/-! ## The document -/

def toWaybeamJson (c : Config) : Json :=
  .obj [
    ("audio", .obj [("channels", .int 1), ("codec", .str "opus"), ("enabled", .bool false),
      ("mute", .bool false), ("sampleRate", .int 48000), ("volume", .int 80)]),
    ("debug", .obj [("showOsd", .bool false)]),
    ("fpv", .obj [("noiseLevel", .int 0), ("roiCenter", .real c.video.roi.center),
      ("roiEnabled", .bool c.video.roi.enabled), ("roiQp", .int c.video.roi.qp),
      ("roiSteps", .int c.video.roi.steps)]),
    ("image", .obj [("flip", .bool c.image.flip), ("mirror", .bool c.image.mirror),
      ("rotate", .int c.image.rotate)]),
    ("imu", .obj [("calFile", .str "/etc/imu.cal"), ("calSamples", .int 400),
      ("enabled", .bool false), ("gyroRangeDps", .int 1000), ("i2cAddr", .str "0x68"),
      ("i2cDevice", .str "/dev/i2c-1"), ("sampleRateHz", .int 200)]),
    ("isp", .obj [("aeFps", .int 15), ("aeMode", .str "native"), ("awbCt", .int 5500),
      ("awbMode", .str "auto"), ("gainMax", .int 0), ("keepAspect", .bool true),
      ("legacyAe", .bool true), ("sensorBin", .str c.video.sensorBin)]),
    ("outgoing", .obj [("audioPort", .int 5601), ("connectedUdp", .bool true),
      ("enabled", .bool true), ("maxPayloadSize", .int 1400), ("server", .str "unix://venc_wfb"),
      ("sidecarPort", .int 5602), ("streamMode", .str "rtp")]),
    ("record", .obj [("bitrate", .int 0), ("enabled", .bool c.recording.enabled),
      ("format", .str c.recording.format), ("fps", .int 0), ("gopSize", .real 0),
      ("maxMB", .int c.recording.maxMB), ("maxSeconds", .int c.recording.maxSeconds),
      ("mode", .str c.recording.mode), ("server", .str "")]),
    ("sensor", .obj [("index", .int (-1)), ("mode", .int (-1)), ("unlockCmd", .int 35),
      ("unlockDir", .int 0), ("unlockEnabled", .bool true), ("unlockReg", .int 12298),
      ("unlockValue", .int 128)]),
    ("system", .obj [("overclockLevel", .int 1), ("verbose", .bool false), ("webPort", .int 80)]),
    ("video0", .obj [("bitrate", .int c.video.bitrate), ("fps", .int c.video.fps),
      ("frameLost", .bool true), ("gopSize", .real c.video.gopSize),
      ("intraRefreshLines", .int 0), ("intraRefreshMode", .str "off"), ("intraRefreshQp", .int 0),
      ("qpDelta", .int c.video.qpDelta), ("rcMode", .str c.video.rcMode),
      ("resilience", .str c.video.resilience), ("sceneHoldoff", .int 2),
      ("sceneThreshold", .int 0), ("size", .str c.video.resolution), ("zoomPct", .real 0),
      ("zoomX", .real (1 / 2)), ("zoomY", .real (1 / 2))])]

/-! ## Field differences -/

inductive EncField where
  | bitrate (v : ℤ)
  | fps (v : ℤ)
  | qpDelta (v : ℤ)
  /-- The text that `%g` writes is kept as the number it denotes. -/
  | gopSize (v : ℚ)
  | roiEnabled (v : Bool)
  | roiQp (v : ℤ)
  | roiSteps (v : ℤ)
  | roiCenter (v : ℚ)
  | size (v : String)
  | rcMode (v : String)
  | sensorBin (v : String)
  | resilience (v : String)
  | mirror (v : Bool)
  | flip (v : Bool)
  | rotate (v : ℤ)
  | recEnabled (v : Bool)
  | recFormat (v : String)
  | recMode (v : String)
  | recMaxSeconds (v : ℤ)
  | recMaxMB (v : ℤ)
  deriving DecidableEq, Repr

def EncField.name : EncField → String
  | .bitrate _ => "video0.bitrate"
  | .fps _ => "video0.fps"
  | .qpDelta _ => "video0.qp_delta"
  | .gopSize _ => "video0.gop_size"
  | .roiEnabled _ => "fpv.roi_enabled"
  | .roiQp _ => "fpv.roi_qp"
  | .roiSteps _ => "fpv.roi_steps"
  | .roiCenter _ => "fpv.roi_center"
  | .size _ => "video0.size"
  | .rcMode _ => "video0.rc_mode"
  | .sensorBin _ => "isp.sensor_bin"
  | .resilience _ => "video0.resilience"
  | .mirror _ => "image.mirror"
  | .flip _ => "image.flip"
  | .rotate _ => "image.rotate"
  | .recEnabled _ => "record.enabled"
  | .recFormat _ => "record.format"
  | .recMode _ => "record.mode"
  | .recMaxSeconds _ => "record.max_seconds"
  | .recMaxMB _ => "record.max_mb"

/-- The number that `snprintf("%g", d)` writes: `d` to six significant decimal digits. -/
def fmtDouble (d : ℚ) : ℚ :=
  if d = 0 then 0
  else
    let unit : ℚ := 10 ^ (Int.log 10 |d| - 5)
    roundHalfEven (d / unit) * unit

/-- `std::map`s of field names; the model keeps the entries in the order of the assignments. -/
structure WaybeamFieldDiff where
  live : List EncField
  restart : List EncField
  deriving DecidableEq, Repr

def fieldIf (changed : Bool) (f : EncField) : List EncField := if changed then [f] else []

/-- Live fields that the dynamic-link controller owns while it is enabled. -/
def ownedDiff (va vb : Video) : List EncField :=
  fieldIf (va.bitrate ≠ vb.bitrate) (.bitrate vb.bitrate) ++
  fieldIf (va.fps ≠ vb.fps) (.fps vb.fps) ++
  fieldIf (va.qpDelta ≠ vb.qpDelta) (.qpDelta vb.qpDelta) ++
  fieldIf (va.roi.enabled ≠ vb.roi.enabled) (.roiEnabled vb.roi.enabled) ++
  fieldIf (va.roi.qp ≠ vb.roi.qp) (.roiQp vb.roi.qp) ++
  fieldIf (va.roi.steps ≠ vb.roi.steps) (.roiSteps vb.roi.steps) ++
  fieldIf (va.roi.center ≠ vb.roi.center) (.roiCenter (fmtDouble vb.roi.center))

def restartDiff (a b : Config) : List EncField :=
  fieldIf (a.video.resolution ≠ b.video.resolution) (.size b.video.resolution) ++
  fieldIf (a.video.rcMode ≠ b.video.rcMode) (.rcMode b.video.rcMode) ++
  fieldIf (a.video.sensorBin ≠ b.video.sensorBin) (.sensorBin b.video.sensorBin) ++
  fieldIf (a.video.resilience ≠ b.video.resilience) (.resilience b.video.resilience) ++
  fieldIf (a.image.mirror ≠ b.image.mirror) (.mirror b.image.mirror) ++
  fieldIf (a.image.flip ≠ b.image.flip) (.flip b.image.flip) ++
  fieldIf (a.image.rotate ≠ b.image.rotate) (.rotate b.image.rotate) ++
  fieldIf (a.recording.enabled ≠ b.recording.enabled) (.recEnabled b.recording.enabled) ++
  fieldIf (a.recording.format ≠ b.recording.format) (.recFormat b.recording.format) ++
  fieldIf (a.recording.mode ≠ b.recording.mode) (.recMode b.recording.mode) ++
  fieldIf (a.recording.maxSeconds ≠ b.recording.maxSeconds)
    (.recMaxSeconds b.recording.maxSeconds) ++
  fieldIf (a.recording.maxMB ≠ b.recording.maxMB) (.recMaxMB b.recording.maxMB)

def waybeamConfigDiff (a b : Config) (dlEnabled : Bool) : WaybeamFieldDiff where
  live := (if !dlEnabled then ownedDiff a.video b.video else []) ++
    fieldIf (a.video.gopSize ≠ b.video.gopSize) (.gopSize (fmtDouble b.video.gopSize))
  restart := restartDiff a b

/-! ## The encoder -/

structure EncState where
  bitrate : ℤ
  fps : ℤ
  qpDelta : ℤ
  gopSize : ℚ
  roiEnabled : Bool
  roiQp : ℤ
  roiSteps : ℤ
  roiCenter : ℚ
  size : String
  rcMode : String
  sensorBin : String
  resilience : String
  mirror : Bool
  flip : Bool
  rotate : ℤ
  recEnabled : Bool
  recFormat : String
  recMode : String
  recMaxSeconds : ℤ
  recMaxMB : ℤ
  deriving DecidableEq, Repr

attribute [ext] EncState

def EncState.ofConfig (c : Config) : EncState where
  bitrate := c.video.bitrate
  fps := c.video.fps
  qpDelta := c.video.qpDelta
  gopSize := c.video.gopSize
  roiEnabled := c.video.roi.enabled
  roiQp := c.video.roi.qp
  roiSteps := c.video.roi.steps
  roiCenter := c.video.roi.center
  size := c.video.resolution
  rcMode := c.video.rcMode
  sensorBin := c.video.sensorBin
  resilience := c.video.resilience
  mirror := c.image.mirror
  flip := c.image.flip
  rotate := c.image.rotate
  recEnabled := c.recording.enabled
  recFormat := c.recording.format
  recMode := c.recording.mode
  recMaxSeconds := c.recording.maxSeconds
  recMaxMB := c.recording.maxMB

def docInt : Json → Conv ℤ
  | .int i => .ok i
  | j => .error (typeError "number" j)

def EncState.load (doc : Json) : Conv EncState := do
  return {
    bitrate := ← doc.atKey "video0" (atKey "bitrate" docInt)
    fps := ← doc.atKey "video0" (atKey "fps" docInt)
    qpDelta := ← doc.atKey "video0" (atKey "qpDelta" docInt)
    gopSize := ← doc.atKey "video0" (atKey "gopSize" getReal)
    roiEnabled := ← doc.atKey "fpv" (atKey "roiEnabled" getBool)
    roiQp := ← doc.atKey "fpv" (atKey "roiQp" docInt)
    roiSteps := ← doc.atKey "fpv" (atKey "roiSteps" docInt)
    roiCenter := ← doc.atKey "fpv" (atKey "roiCenter" getReal)
    size := ← doc.atKey "video0" (atKey "size" getStr)
    rcMode := ← doc.atKey "video0" (atKey "rcMode" getStr)
    sensorBin := ← doc.atKey "isp" (atKey "sensorBin" getStr)
    resilience := ← doc.atKey "video0" (atKey "resilience" getStr)
    mirror := ← doc.atKey "image" (atKey "mirror" getBool)
    flip := ← doc.atKey "image" (atKey "flip" getBool)
    rotate := ← doc.atKey "image" (atKey "rotate" docInt)
    recEnabled := ← doc.atKey "record" (atKey "enabled" getBool)
    recFormat := ← doc.atKey "record" (atKey "format" getStr)
    recMode := ← doc.atKey "record" (atKey "mode" getStr)
    recMaxSeconds := ← doc.atKey "record" (atKey "maxSeconds" docInt)
    recMaxMB := ← doc.atKey "record" (atKey "maxMB" docInt) }

theorem load_toWaybeamJson (c : Config) :
    EncState.load (toWaybeamJson c) = .ok (EncState.ofConfig c) := by
  simp [EncState.load, toWaybeamJson, atKey, AssocMap.find?, docInt, getReal, getBool, getStr,
    EncState.ofConfig, bind, Except.bind, pure, Except.pure]

def EncState.set (e : EncState) : EncField → EncState
  | .bitrate v => { e with bitrate := v }
  | .fps v => { e with fps := v }
  | .qpDelta v => { e with qpDelta := v }
  | .gopSize v => { e with gopSize := v }
  | .roiEnabled v => { e with roiEnabled := v }
  | .roiQp v => { e with roiQp := v }
  | .roiSteps v => { e with roiSteps := v }
  | .roiCenter v => { e with roiCenter := v }
  | .size v => { e with size := v }
  | .rcMode v => { e with rcMode := v }
  | .sensorBin v => { e with sensorBin := v }
  | .resilience v => { e with resilience := v }
  | .mirror v => { e with mirror := v }
  | .flip v => { e with flip := v }
  | .rotate v => { e with rotate := v }
  | .recEnabled v => { e with recEnabled := v }
  | .recFormat v => { e with recFormat := v }
  | .recMode v => { e with recMode := v }
  | .recMaxSeconds v => { e with recMaxSeconds := v }
  | .recMaxMB v => { e with recMaxMB := v }

def EncState.setAll (fields : List EncField) (e : EncState) : EncState := fields.foldl EncState.set e

variable (p : Bool) (v : ℤ) (e : EncState)

@[simp] theorem setAll_nil : e.setAll [] = e := rfl

theorem setAll_append (l l' : List EncField) (e : EncState) :
    e.setAll (l ++ l') = (e.setAll l).setAll l' := List.foldl_append

@[simp] theorem setAll_bitrate :
    e.setAll (fieldIf p (.bitrate v)) = { e with bitrate := if p then v else e.bitrate } := by
  cases p <;> rfl

@[simp] theorem setAll_fps :
    e.setAll (fieldIf p (.fps v)) = { e with fps := if p then v else e.fps } := by
  cases p <;> rfl

@[simp] theorem setAll_qpDelta :
    e.setAll (fieldIf p (.qpDelta v)) = { e with qpDelta := if p then v else e.qpDelta } := by
  cases p <;> rfl

@[simp] theorem setAll_gopSize (v : ℚ) (e : EncState) :
    e.setAll (fieldIf p (.gopSize v)) = { e with gopSize := if p then v else e.gopSize } := by
  cases p <;> rfl

@[simp] theorem setAll_roiEnabled (v : Bool) (e : EncState) :
    e.setAll (fieldIf p (.roiEnabled v)) = { e with roiEnabled := if p then v else e.roiEnabled } := by
  cases p <;> rfl

@[simp] theorem setAll_roiQp :
    e.setAll (fieldIf p (.roiQp v)) = { e with roiQp := if p then v else e.roiQp } := by
  cases p <;> rfl

@[simp] theorem setAll_roiSteps :
    e.setAll (fieldIf p (.roiSteps v)) = { e with roiSteps := if p then v else e.roiSteps } := by
  cases p <;> rfl

@[simp] theorem setAll_roiCenter (v : ℚ) (e : EncState) :
    e.setAll (fieldIf p (.roiCenter v)) = { e with roiCenter := if p then v else e.roiCenter } := by
  cases p <;> rfl

theorem setAll_live (a b : Config) (dl : Bool) (e : EncState) :
    e.setAll (waybeamConfigDiff a b dl).live =
      { e with
        bitrate := if !dl && a.video.bitrate ≠ b.video.bitrate then b.video.bitrate else e.bitrate
        fps := if !dl && a.video.fps ≠ b.video.fps then b.video.fps else e.fps
        qpDelta := if !dl && a.video.qpDelta ≠ b.video.qpDelta then b.video.qpDelta else e.qpDelta
        roiEnabled := if !dl && a.video.roi.enabled ≠ b.video.roi.enabled then b.video.roi.enabled
          else e.roiEnabled
        roiQp := if !dl && a.video.roi.qp ≠ b.video.roi.qp then b.video.roi.qp else e.roiQp
        roiSteps := if !dl && a.video.roi.steps ≠ b.video.roi.steps then b.video.roi.steps
          else e.roiSteps
        roiCenter := if !dl && a.video.roi.center ≠ b.video.roi.center then
          fmtDouble b.video.roi.center else e.roiCenter
        gopSize := if a.video.gopSize ≠ b.video.gopSize then fmtDouble b.video.gopSize
          else e.gopSize } := by
  cases dl <;> simp [waybeamConfigDiff, ownedDiff, setAll_append]

end Fpvd
