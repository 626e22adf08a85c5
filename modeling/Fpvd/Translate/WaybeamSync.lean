import Mathlib.Algebra.Order.Group.Multiset
import Mathlib.Tactic.Abel
import Fpvd.Lib.JsonPath
import Fpvd.Translate.Waybeam

/-!
# Fpvd.Translate.WaybeamSync — the encoder document and the field differences name the same fields

`toWaybeamJson` and `waybeamConfigDiff` (`drone/src/translate/waybeam.cpp`) each list the fields that
fpvd manages.
-/

namespace Fpvd

open Json

/-! ## Names -/

def snakeFrom : (afterUpper : Bool) → List Char → List Char
  | _, [] => []
  | afterUpper, c :: cs =>
    (if c.isUpper then (if afterUpper then [c.toLower] else ['_', c.toLower]) else [c]) ++
      snakeFrom c.isUpper cs

def snakeCase (s : String) : String := String.ofList (snakeFrom false s.toList)

def fieldName (path : List String) : String := ".".intercalate (path.map snakeCase)

def ownedLeaves : List (List String) :=
  [["video0", "bitrate"], ["video0", "fps"], ["video0", "qpDelta"], ["fpv", "roiEnabled"],
    ["fpv", "roiQp"], ["fpv", "roiSteps"], ["fpv", "roiCenter"]]

/-- The document, as far as the configuration decides it. -/
def encoderDoc (dlEnabled : Bool) (c : Config) : Json :=
  if dlEnabled then (toWaybeamJson c).without ownedLeaves else toWaybeamJson c

variable (dlEnabled : Bool) (c : Config)

theorem encoderDoc_dl : encoderDoc true c =
  .obj [
    ("audio", .obj [("channels", .int 1), ("codec", .str "opus"), ("enabled", .bool false),
      ("mute", .bool false), ("sampleRate", .int 48000), ("volume", .int 80)]),
    ("debug", .obj [("showOsd", .bool false)]),
    ("fpv", .obj [("noiseLevel", .int 0)]),
    ("image", .obj [("flip", .bool c.image.flip), ("mirror", .bool c.image.mirror),
      ("rotate", .int c.image.rotate)]),
    ("imu", .obj [("calFile", .str "/etc/imu.cal"), ("calSamples", .int 400),
      ("enabled", .bool false), ("gyroRangeDps", .int 1000), ("i2cAddr", .str "0x68"),
      ("i2cDevice", .str "/dev/i2c-1"), ("sampleRateHz", .int 200)]),
    ("isp", .obj [("aeFps", .int 15), ("aeMode", .str "native"), ("awbCt", .int 5500),
      ("awbMode", .str "auto"), ("gainMax", .int 0), ("keepAspect", .bool true),
      ("legacyAe", .bool true), ("sensorBin", .str c.video.sensorBin)]),
    ("outgoing", .obj [("audioPort", .int 5601), ("connectedUdp", .bool true),
      ("enabled", .bool true), ("maxPayloadSize", .int 1400), ("server", .str "unix://venc_wfb"),
      ("sidecarPort", .int 5602), ("streamMode", .str "rtp")]),
    ("record", .obj [("bitrate", .int 0), ("enabled", .bool c.recording.enabled),
      ("format", .str c.recording.format), ("fps", .int 0), ("gopSize", .real 0),
      ("maxMB", .int c.recording.maxMB), ("maxSeconds", .int c.recording.maxSeconds),
      ("mode", .str c.recording.mode), ("server", .str "")]),
    ("sensor", .obj [("index", .int (-1)), ("mode", .int (-1)), ("unlockCmd", .int 35),
      ("unlockDir", .int 0), ("unlockEnabled", .bool true), ("unlockReg", .int 12298),
      ("unlockValue", .int 128)]),
    ("system", .obj [("overclockLevel", .int 1), ("verbose", .bool false), ("webPort", .int 80)]),
    ("video0", .obj [("frameLost", .bool true), ("gopSize", .real c.video.gopSize),
      ("intraRefreshLines", .int 0), ("intraRefreshMode", .str "off"), ("intraRefreshQp", .int 0),
      ("rcMode", .str c.video.rcMode), ("resilience", .str c.video.resilience),
      ("sceneHoldoff", .int 2), ("sceneThreshold", .int 0), ("size", .str c.video.resolution),
      ("zoomPct", .real 0), ("zoomX", .real (1 / 2)), ("zoomY", .real (1 / 2))])] := by
  simp only [encoderDoc, without, ownedLeaves, List.foldl_cons, List.foldl_nil, erasePath,
    AssocMap.erase, List.filter_cons, List.filter_nil, List.map_cons, List.map_nil, String.reduceEq,
    ne_eq, not_true, not_false_eq_true, decide_true, decide_false, Bool.false_eq_true, if_false,
    if_true, toWaybeamJson]

/-! ## Leaves -/

theorem encoderDoc_leaves :
    (encoderDoc dlEnabled c).leaves = (encoderDoc dlEnabled {}).leaves := by
  cases dlEnabled with
  | false => rfl
  | true =>
    rw [encoderDoc_dl, encoderDoc_dl]
    rfl

theorem encoderDoc_same (a b : Config) :
    (encoderDoc dlEnabled a).leaves = (encoderDoc dlEnabled b).leaves := by
  rw [encoderDoc_leaves, encoderDoc_leaves _ b]

theorem encoderDoc_nodup : (encoderDoc dlEnabled c).leaves.Nodup := by
  rw [encoderDoc_leaves]
  cases dlEnabled <;> decide +kernel

theorem encoderDoc_distinct :
    (encoderDoc dlEnabled c).distinct = true := by
  have hdef : (encoderDoc dlEnabled {}).distinct = true := by cases dlEnabled <;> decide +kernel
  rw [← hdef]
  cases dlEnabled with
  | false => rfl
  | true =>
    rw [encoderDoc_dl, encoderDoc_dl]
    rfl

def nameIf (changed : Bool) (name : String) : List String := if changed then [name] else []

section NameIf

variable {α : Type} [DecidableEq α]

theorem nameIf_self (x : α) (name : String) : nameIf (decide (x ≠ x)) name = [] := by
  simp [nameIf]

theorem nameIf_self_append (x : α) (name : String) (l : List String) :
    nameIf (decide (x ≠ x)) name ++ l = l := by
  rw [nameIf_self, List.nil_append]

end NameIf

def entryName (e : (List String × Json) × (List String × Json)) : List String :=
  nameIf (e.1.2 ≠ e.2.2) (fieldName e.1.1)

section EntryName

variable (p q : List String)

theorem entryName_int (x y : ℤ) :
    entryName ((p, .int x), (q, .int y)) = nameIf (x ≠ y) (fieldName p) := by
  simp [entryName]

theorem entryName_real (x y : ℚ) :
    entryName ((p, .real x), (q, .real y)) = nameIf (x ≠ y) (fieldName p) := by
  simp [entryName]

theorem entryName_bool (x y : Bool) :
    entryName ((p, .bool x), (q, .bool y)) = nameIf (x ≠ y) (fieldName p) := by
  simp [entryName]

theorem entryName_str (x y : String) :
    entryName ((p, .str x), (q, .str y)) = nameIf (x ≠ y) (fieldName p) := by
  simp [entryName]

end EntryName

theorem changes_names (a b : Config) :
    (changes (encoderDoc dlEnabled a) (encoderDoc dlEnabled b)).map fieldName =
      ((encoderDoc dlEnabled a).leafList.zip (encoderDoc dlEnabled b).leafList).flatMap entryName := by
  rw [changes_eq_zip (encoderDoc_distinct _ a) (encoderDoc_distinct _ b) (encoderDoc_same _ a b)
    (encoderDoc_nodup _ a)]
  induction (encoderDoc dlEnabled a).leafList.zip (encoderDoc dlEnabled b).leafList with
  | nil => rfl
  | cons e l ih =>
    rw [List.flatMap_cons, ← ih, List.filter_cons]
    by_cases h : e.1.2 = e.2.2
    · simp [h, entryName, nameIf]
    · simp [h, entryName, nameIf]

/-! ## Fields -/

def EncField.path : EncField → List String
  | .bitrate _ => ["video0", "bitrate"]
  | .fps _ => ["video0", "fps"]
  | .qpDelta _ => ["video0", "qpDelta"]
  | .gopSize _ => ["video0", "gopSize"]
  | .roiEnabled _ => ["fpv", "roiEnabled"]
  | .roiQp _ => ["fpv", "roiQp"]
  | .roiSteps _ => ["fpv", "roiSteps"]
  | .roiCenter _ => ["fpv", "roiCenter"]
  | .size _ => ["video0", "size"]
  | .rcMode _ => ["video0", "rcMode"]
  | .sensorBin _ => ["isp", "sensorBin"]
  | .resilience _ => ["video0", "resilience"]
  | .mirror _ => ["image", "mirror"]
  | .flip _ => ["image", "flip"]
  | .rotate _ => ["image", "rotate"]
  | .recEnabled _ => ["record", "enabled"]
  | .recFormat _ => ["record", "format"]
  | .recMode _ => ["record", "mode"]
  | .recMaxSeconds _ => ["record", "maxSeconds"]
  | .recMaxMB _ => ["record", "maxMB"]

theorem fieldName_path (f : EncField) : fieldName f.path = f.name := by
  cases f <;> simp only [EncField.path, EncField.name] <;> decide +kernel

theorem map_fieldIf (changed : Bool) (f : EncField) :
    (fieldIf changed f).map EncField.name = nameIf changed f.name := by
  cases changed <;> rfl

def WaybeamFieldDiff.names (d : WaybeamFieldDiff) : List String :=
  d.live.map EncField.name ++ d.restart.map EncField.name

theorem names_perm (a b : Config) (dlEnabled : Bool) :
    (waybeamConfigDiff a b dlEnabled).names.Perm
      ((changes (encoderDoc dlEnabled a) (encoderDoc dlEnabled b)).map fieldName) := by
  rw [changes_names, ← Multiset.coe_eq_coe]
  cases dlEnabled with
  | false =>
    simp only [encoderDoc, toWaybeamJson, leafList, memberLeafList, Bool.false_eq_true, if_false,
      List.map_cons, List.map_nil, List.append_nil, List.cons_append, List.nil_append,
      List.zip_cons_cons, List.zip_nil_left, List.flatMap_cons, List.flatMap_nil, entryName_int,
      entryName_real, entryName_bool, entryName_str, nameIf_self_append]
    simp only [WaybeamFieldDiff.names, waybeamConfigDiff, ownedDiff, restartDiff, Bool.not_false,
      if_true, List.map_append, map_fieldIf, ← fieldName_path, EncField.path, nameIf_self,
      List.append_nil, ← Multiset.coe_add]
    abel
  | true =>
    simp only [encoderDoc_dl, leafList, memberLeafList, List.map_cons, List.map_nil, List.append_nil,
      List.cons_append, List.nil_append, List.zip_cons_cons, List.zip_nil_left, List.flatMap_cons,
      List.flatMap_nil, entryName_int, entryName_real, entryName_bool, entryName_str,
      nameIf_self_append]
    simp only [WaybeamFieldDiff.names, waybeamConfigDiff, restartDiff, Bool.not_true,
      Bool.false_eq_true, if_false, List.nil_append, List.map_append, map_fieldIf, ← fieldName_path,
      EncField.path, nameIf_self, List.append_nil, ← Multiset.coe_add]
    abel

def managedNames : List String :=
  ["video0.bitrate", "video0.fps", "video0.qp_delta", "fpv.roi_enabled", "fpv.roi_qp",
    "fpv.roi_steps", "fpv.roi_center", "video0.gop_size", "video0.size", "video0.rc_mode",
    "isp.sensor_bin", "video0.resilience", "image.mirror", "image.flip", "image.rotate",
    "record.enabled", "record.format", "record.mode", "record.max_seconds", "record.max_mb"]

theorem nameIf_append_sublist {changed : Bool} {name : String} {l l' : List String}
    (h : l.Sublist l') : (nameIf changed name ++ l).Sublist (name :: l') := by
  cases changed with
  | false => exact h.cons name
  | true => exact h.cons_cons name

theorem names_nodup (a b : Config) (dlEnabled : Bool) :
    (waybeamConfigDiff a b dlEnabled).names.Nodup := by
  have hsub : (waybeamConfigDiff a b dlEnabled).names.Sublist managedNames := by
    rw [← List.append_nil (waybeamConfigDiff a b dlEnabled).names]
    cases dlEnabled with
    | false =>
      simp only [WaybeamFieldDiff.names, waybeamConfigDiff, ownedDiff, restartDiff, Bool.not_false,
        if_true, List.map_append, map_fieldIf, EncField.name, List.append_assoc, managedNames]
      repeat refine nameIf_append_sublist ?_
      exact List.Sublist.refl []
    | true =>
      refine List.Sublist.trans ?_ (List.drop_sublist 7 managedNames)
      simp only [WaybeamFieldDiff.names, waybeamConfigDiff, restartDiff, Bool.not_true,
        Bool.false_eq_true, if_false, List.nil_append, List.map_append, map_fieldIf, EncField.name,
        List.append_assoc, managedNames, List.drop_succ_cons, List.drop_zero]
      repeat refine nameIf_append_sublist ?_
      exact List.Sublist.refl []
  have hnd : managedNames.Nodup := by decide +kernel
  exact hnd.sublist hsub

/-! ## In sync -/

theorem names_eq_nil {a b : Config} {dlEnabled : Bool} :
    (waybeamConfigDiff a b dlEnabled).names = [] ↔
      (dlEnabled = false → a.video.bitrate = b.video.bitrate ∧ a.video.fps = b.video.fps ∧
        a.video.qpDelta = b.video.qpDelta ∧ a.video.roi.enabled = b.video.roi.enabled ∧
        a.video.roi.qp = b.video.roi.qp ∧ a.video.roi.steps = b.video.roi.steps ∧
        a.video.roi.center = b.video.roi.center) ∧
      a.video.gopSize = b.video.gopSize ∧ a.video.resolution = b.video.resolution ∧
      a.video.rcMode = b.video.rcMode ∧ a.video.sensorBin = b.video.sensorBin ∧
      a.video.resilience = b.video.resilience ∧ a.image.mirror = b.image.mirror ∧
      a.image.flip = b.image.flip ∧ a.image.rotate = b.image.rotate ∧
      a.recording.enabled = b.recording.enabled ∧ a.recording.format = b.recording.format ∧
      a.recording.mode = b.recording.mode ∧ a.recording.maxSeconds = b.recording.maxSeconds ∧
      a.recording.maxMB = b.recording.maxMB := by
  have hif : ∀ (changed : Bool) f, fieldIf changed f = [] ↔ changed = false := by
    intro changed f
    cases changed <;> simp [fieldIf]
  cases dlEnabled <;>
    simp [WaybeamFieldDiff.names, waybeamConfigDiff, ownedDiff, restartDiff, hif, and_assoc]

theorem encoderDoc_congr {a b : Config} {dlEnabled : Bool}
    (h : (waybeamConfigDiff a b dlEnabled).names = []) :
    encoderDoc dlEnabled a = encoderDoc dlEnabled b := by
  obtain ⟨howned, h1, h2, h3, h4, h5, h6, h7, h8, h9, h10, h11, h12, h13⟩ := names_eq_nil.mp h
  cases dlEnabled with
  | false =>
    obtain ⟨o1, o2, o3, o4, o5, o6, o7⟩ := howned rfl
    simp only [encoderDoc, toWaybeamJson, h1, h2, h3, h4, h5, h6, h7, h8, h9, h10, h11, h12, h13,
      o1, o2, o3, o4, o5, o6, o7]
  | true =>
    simp only [encoderDoc_dl, h1, h2, h3, h4, h5, h6, h7, h8, h9, h10, h11, h12, h13]

/-- **The two encoder translations are in sync.**  For any two configurations the names reported are
those of the leaves at which the documents differ, no name is reported twice, live or for a restart,
and none is reported iff the documents are equal; while the dynamic-link controller is enabled this
is so for the documents without the leaves that it owns. -/
theorem waybeam_in_sync (a b : Config) (dlEnabled : Bool) :
    let d := waybeamConfigDiff a b dlEnabled
    let doc := fun c => if dlEnabled then (toWaybeamJson c).without ownedLeaves else toWaybeamJson c
    (d.live.map EncField.name ++ d.restart.map EncField.name).Perm
        ((changes (doc a) (doc b)).map fieldName) ∧
      (d.live.map EncField.name ++ d.restart.map EncField.name).Nodup ∧
      (d.live = [] ∧ d.restart = [] ↔ doc a = doc b) := by
  have hperm := names_perm a b dlEnabled
  refine ⟨hperm, names_nodup a b dlEnabled, ?_⟩
  have hnil : (waybeamConfigDiff a b dlEnabled).names = [] ↔
      (waybeamConfigDiff a b dlEnabled).live = [] ∧ (waybeamConfigDiff a b dlEnabled).restart = [] := by
    rw [WaybeamFieldDiff.names, List.append_eq_nil_iff, List.map_eq_nil_iff, List.map_eq_nil_iff]
  rw [← hnil]
  refine ⟨encoderDoc_congr, fun heq => ?_⟩
  have hdoc : encoderDoc dlEnabled a = encoderDoc dlEnabled b := heq
  rw [hdoc, changes_self] at hperm
  exact hperm.eq_nil

end Fpvd
