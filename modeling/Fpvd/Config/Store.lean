import Fpvd.Config.Codec
import Fpvd.Lib.JsonMerge

/-!
# Fpvd.Config.Store — loading the configuration file (`drone/src/config/store.cpp`)

* `unknownConfigKeys`, `loadEffective`: the file is parsed, merged over the code defaults and converted.
* `Config.layout`: where the schema has its values, and of which type; `Config.carries`: a configuration
  that is read from a document and written back has the document's values, as far as their types keep
  them.
-/

namespace Fpvd

open Json AssocMap

/-! ## The file -/

mutual

/-- `collectUnknown`: the dotted paths of the keys that the reference has not.  The `services` of the top
level are free. -/
def collectUnknown : (cfg ref : Json) → (above : String) → List String
  | .obj ms, .obj refs, above => collectUnknownMembers ms refs above
  | _, _, _ => []

def collectUnknownMembers : (ms refs : List (String × Json)) → (above : String) → List String
  | [], _, _ => []
  | (k, v) :: ms, refs, above =>
    let path := if above = "" then k else above ++ "." ++ k
    let here :=
      if above = "" ∧ k = "services" then []
      else match find? k refs with
        | none => [path]
        | some r => if v.isObject && r.isObject then collectUnknown v r path else []
    here ++ collectUnknownMembers ms refs above

end

def unknownConfigKeys (cfg : Json) : List String := collectUnknown cfg (Config.toJson {}) ""

inductive LoadError where
  /-- `StoreError` -/
  | store (what : String)
  /-- any other `std::runtime_error` -/
  | runtime (what : String)
  deriving DecidableEq, Repr

/-- `loadEffective`: the lines on the error output, and the result.  `parse` is the parser of the JSON
library, which returns a document or throws an exception of its own; a file that is not there is
`none`. -/
def loadEffective (parse : String → Except String Document) :
    Option String → List String × Except LoadError Config
  | none => ([], .ok {})
  | some text =>
    match parse text with
    | .error what => ([], .error (.store ("config parse error: " ++ what)))
    | .ok fileJ =>
      ((unknownConfigKeys fileJ.json).map fun k =>
          "fpvd: warning: unknown config key '" ++ k ++ "' (ignored)",
        match Config.fromJson (deepMergeJson (Config.toJson {}) fileJ.json) with
        | .ok c => .ok c
        | .error (.json what) => .error (.store ("config schema: " ++ what))
        | .error (.runtime what) => .error (.runtime what))

/-! ## The layout of the schema -/

def Fec.layout : Layout :=
  .block [("deadlineMs", .int 32), ("k", .int 32), ("mode", .plain), ("n", .int 32),
    ("overheadPct", .int 32)]

def Beamforming.layout : Layout :=
  .block [("ackTimeout", .int 32), ("enabled", .plain), ("intervalMs", .int 32),
    ("remoteMac", .plain)]

def Link.layout : Layout :=
  .block [("beamforming", Beamforming.layout), ("channel", .int 32), ("fec", Fec.layout),
    ("ldpc", .plain), ("linkId", .int 64), ("mcs", .int 32), ("mtu", .int 32), ("stbc", .plain),
    ("txPowerDbm", .int 32), ("videoEncryption", .plain), ("width", .int 32),
    ("wlanAdapter", .plain)]

def Roi.layout : Layout :=
  .block [("center", .plain), ("enabled", .plain), ("qp", .int 32), ("steps", .int 32)]

def Video.layout : Layout :=
  .block [("bitrate", .int 32), ("codec", .plain), ("fps", .int 32), ("gopSize", .plain),
    ("qpDelta", .int 32), ("rcMode", .plain), ("resilience", .plain), ("resolution", .plain),
    ("roi", Roi.layout), ("sensorBin", .plain)]

def Image.layout : Layout := .block [("flip", .plain), ("mirror", .plain), ("rotate", .int 32)]

def Telemetry.layout : Layout :=
  .block [("baud", .int 32), ("osdFps", .int 32), ("router", .plain), ("serial", .plain)]

def Recording.layout : Layout :=
  .block [("enabled", .plain), ("format", .plain), ("maxMB", .int 32), ("maxSeconds", .int 32),
    ("mode", .plain)]

def DynamicLinkRoiQp.layout : Layout :=
  .block [("floor", .int 32), ("lowAnchorKbps", .int 32), ("step", .int 32),
    ("thresholdKbps", .int 32)]

def DynamicLinkCompute.layout : Layout :=
  .block [("baseRedundancyRatio", .plain), ("blocksPerFrame", .plain), ("kMax", .int 32),
    ("kMin", .int 32), ("maxBitrateKbps", .int 32), ("minBitrateKbps", .int 32)]

def DynamicLinkProbe.layout : Layout := .block [("enabled", .plain)]

def DynamicLink.layout : Layout :=
  .block [("applyStaggerMs", .int 32), ("applySubPaceMs", .int 32),
    ("compute", DynamicLinkCompute.layout), ("enabled", .plain), ("healthTimeoutMs", .int 32),
    ("probe", DynamicLinkProbe.layout), ("roiQp", DynamicLinkRoiQp.layout),
    ("txPowerControl", .plain)]

def Osd.layout : Layout := .block [("enabled", .plain)]

def Service.layout : Layout :=
  .block [("args", .plain), ("enabled", .plain), ("env", .map .plain), ("exec", .plain),
    ("restart", .plain), ("startAfter", .plain)]

def Config.layout : Layout :=
  .block [("dynamicLink", DynamicLink.layout), ("image", Image.layout), ("link", Link.layout),
    ("osd", Osd.layout), ("recording", Recording.layout), ("services", .map Service.layout),
    ("telemetry", Telemetry.layout), ("video", Video.layout)]

/-! ## Reading and writing back -/

section Ordered

theorem Fec.ordered_toJson (f : Fec) : f.toJson.ordered = true :=
  ordered_block Fec.layout rfl (by decide) rfl

theorem Beamforming.ordered_toJson (b : Beamforming) : b.toJson.ordered = true :=
  ordered_block Beamforming.layout rfl (by decide) rfl

theorem TxPower.ordered_toJson (t : TxPower) : t.toJson.ordered = true := by
  unfold TxPower.toJson
  split_ifs <;> rfl

theorem Link.ordered_toJson (l : Link) : l.toJson.ordered = true := by
  have hwlan : ((l.wlanAdapter.map Json.str).getD .null).ordered = true := by
    cases l.wlanAdapter <;> rfl
  refine ordered_block Link.layout rfl (by decide) ?_
  simp [orderedObj, ordered, hwlan, Beamforming.ordered_toJson, Fec.ordered_toJson,
    TxPower.ordered_toJson]

theorem Roi.ordered_toJson (r : Roi) : r.toJson.ordered = true :=
  ordered_block Roi.layout rfl (by decide) rfl

theorem Video.ordered_toJson (v : Video) : v.toJson.ordered = true := by
  refine ordered_block Video.layout rfl (by decide) ?_
  simp [orderedObj, ordered, Roi.ordered_toJson]

theorem Image.ordered_toJson (i : Image) : i.toJson.ordered = true :=
  ordered_block Image.layout rfl (by decide) rfl

theorem Telemetry.ordered_toJson (t : Telemetry) : t.toJson.ordered = true :=
  ordered_block Telemetry.layout rfl (by decide) rfl

theorem Recording.ordered_toJson (r : Recording) : r.toJson.ordered = true :=
  ordered_block Recording.layout rfl (by decide) rfl

theorem DynamicLinkRoiQp.ordered_toJson (r : DynamicLinkRoiQp) : r.toJson.ordered = true :=
  ordered_block DynamicLinkRoiQp.layout rfl (by decide) rfl

theorem DynamicLinkCompute.ordered_toJson (m : DynamicLinkCompute) : m.toJson.ordered = true :=
  ordered_block DynamicLinkCompute.layout rfl (by decide) rfl

theorem DynamicLink.ordered_toJson (d : DynamicLink) : d.toJson.ordered = true := by
  have hprobe : d.probe.toJson.ordered = true := ordered_block DynamicLinkProbe.layout rfl (by decide) rfl
  refine ordered_block DynamicLink.layout rfl (by decide) ?_
  simp [orderedObj, ordered, hprobe, DynamicLinkCompute.ordered_toJson,
    DynamicLinkRoiQp.ordered_toJson]

theorem Service.ordered_toJson (s : Service) : s.toJson.ordered = true := by
  have henv : (ofMap Json.str s.env).ordered = true := ordered_ofMap (fun _ => rfl) s.env
  refine ordered_block Service.layout rfl (by decide) ?_
  rw [orderedObj, orderedObj, orderedObj, orderedObj, orderedObj, orderedObj, ordered_texts,
    ordered_texts, henv]
  rfl

theorem Config.ordered_toJson (c : Config) : c.toJson.ordered = true := by
  have hosd : c.osd.toJson.ordered = true := ordered_block Osd.layout rfl (by decide) rfl
  refine ordered_block Config.layout rfl (by decide) ?_
  simp [orderedObj, hosd, DynamicLink.ordered_toJson, Image.ordered_toJson, Link.ordered_toJson,
    Recording.ordered_toJson, ordered_ofMap Service.ordered_toJson, Telemetry.ordered_toJson,
    Video.ordered_toJson]

end Ordered

section Carries

variable {j : Json}

theorem Fec.carries {f : Fec} (h : Fec.fromJson j = .ok f) : Carries Fec.layout j f.toJson := by
  simp only [Fec.fromJson, bind_eq_ok, pure_eq_ok] at h
  obtain ⟨_, hmode, _, hk, _, hn, _, hoverhead, _, hdeadline, rfl⟩ := h
  obtain ⟨ms, rfl⟩ := value_isObject hmode
  exact .block <|
    .value getInt_carries hdeadline <|
    .value getInt_carries hk <|
    .value getStr_carries hmode <|
    .value getInt_carries hn <|
    .value getInt_carries hoverhead .nil

theorem Beamforming.carries {b : Beamforming} (h : Beamforming.fromJson j = .ok b) :
    Carries Beamforming.layout j b.toJson := by
  simp only [Beamforming.fromJson, bind_eq_ok, pure_eq_ok] at h
  obtain ⟨_, henabled, _, hmac, _, hack, _, hinterval, rfl⟩ := h
  obtain ⟨ms, rfl⟩ := value_isObject henabled
  exact .block <|
    .value getInt_carries hack <|
    .value getBool_carries henabled <|
    .value getInt_carries hinterval <|
    .value getStr_carries hmac .nil

theorem TxPower.carries {t : TxPower} (h : TxPower.fromJson j = .ok t) :
    Carries (.int 32) j t.toJson := by
  cases j with
  | str s =>
    rw [TxPower.fromJson] at h
    split_ifs at h with hauto
    obtain rfl := Except.ok.inj h
    rw [not_not.mp hauto]
    exact .int (iff_of_true (same_refl _) rfl)
  | null | bool | int | real | arr | obj =>
    obtain ⟨dbm, hdbm, hpure⟩ := bind_eq_ok.mp h
    obtain rfl := pure_eq_ok.mp hpure
    exact getInt_carries hdbm

theorem Link.carries {l : Link} (h : Link.fromJson j = .ok l) : Carries Link.layout j l.toJson := by
  simp only [Link.fromJson, bind_eq_ok, pure_eq_ok] at h
  obtain ⟨_, hchannel, _, hwidth, _, hpower, _, hmcs, _, hfec, _, hstbc, _, hldpc, _, hid, _, hmtu, _,
    hwlan, _, hbf, _, henc, rfl⟩ := h
  obtain ⟨ms, rfl⟩ := value_isObject hchannel
  exact .block <|
    .value Beamforming.carries hbf <|
    .value getInt_carries hchannel <|
    .value Fec.carries hfec <|
    .value getBool_carries hldpc <|
    .value getLong_carries hid <|
    .value getInt_carries hmcs <|
    .value getInt_carries hmtu <|
    .value getBool_carries hstbc <|
    .value TxPower.carries hpower <|
    .value getBool_carries henc <|
    .value getInt_carries hwidth <|
    .value getOption_carries hwlan .nil

theorem Roi.carries {r : Roi} (h : Roi.fromJson j = .ok r) : Carries Roi.layout j r.toJson := by
  simp only [Roi.fromJson, bind_eq_ok, pure_eq_ok] at h
  obtain ⟨_, henabled, _, hqp, _, hcenter, _, hsteps, rfl⟩ := h
  obtain ⟨ms, rfl⟩ := atKey_isObject henabled
  exact .block <|
    .atKey getReal_carries hcenter <|
    .atKey getBool_carries henabled <|
    .atKey getInt_carries hqp <|
    .atKey getInt_carries hsteps .nil

theorem Video.carries {v : Video} (h : Video.fromJson j = .ok v) :
    Carries Video.layout j v.toJson := by
  simp only [Video.fromJson, bind_eq_ok, pure_eq_ok] at h
  obtain ⟨_, hcodec, _, hres, _, hfps, _, hbitrate, _, hrc, _, hgop, _, hresil, _, hdelta, _, hbin, _,
    hroi, rfl⟩ := h
  obtain ⟨ms, rfl⟩ := atKey_isObject hcodec
  exact .block <|
    .atKey getInt_carries hbitrate <|
    .atKey getStr_carries hcodec <|
    .atKey getInt_carries hfps <|
    .atKey getReal_carries hgop <|
    .atKey getInt_carries hdelta <|
    .atKey getStr_carries hrc <|
    .atKey getStr_carries hresil <|
    .atKey getStr_carries hres <|
    .atKey Roi.carries hroi <|
    .atKey getStr_carries hbin .nil

theorem Image.carries {i : Image} (h : Image.fromJson j = .ok i) :
    Carries Image.layout j i.toJson := by
  simp only [Image.fromJson, bind_eq_ok, pure_eq_ok] at h
  obtain ⟨_, hmirror, _, hflip, _, hrotate, rfl⟩ := h
  obtain ⟨ms, rfl⟩ := atKey_isObject hmirror
  exact .block <|
    .atKey getBool_carries hflip <|
    .atKey getBool_carries hmirror <|
    .atKey getInt_carries hrotate .nil

theorem Telemetry.carries {t : Telemetry} (h : Telemetry.fromJson j = .ok t) :
    Carries Telemetry.layout j t.toJson := by
  simp only [Telemetry.fromJson, bind_eq_ok, pure_eq_ok] at h
  obtain ⟨_, hrouter, _, hserial, _, hfps, _, hbaud, rfl⟩ := h
  obtain ⟨ms, rfl⟩ := atKey_isObject hrouter
  exact .block <|
    .atKey getInt_carries hbaud <|
    .atKey getInt_carries hfps <|
    .atKey getStr_carries hrouter <|
    .atKey getStr_carries hserial .nil

theorem Recording.carries {r : Recording} (h : Recording.fromJson j = .ok r) :
    Carries Recording.layout j r.toJson := by
  simp only [Recording.fromJson, bind_eq_ok, pure_eq_ok] at h
  obtain ⟨_, henabled, _, hformat, _, hmode, _, hseconds, _, hmb, rfl⟩ := h
  obtain ⟨ms, rfl⟩ := atKey_isObject henabled
  exact .block <|
    .atKey getBool_carries henabled <|
    .atKey getStr_carries hformat <|
    .atKey getInt_carries hmb <|
    .atKey getInt_carries hseconds <|
    .atKey getStr_carries hmode .nil

theorem DynamicLinkRoiQp.carries {r : DynamicLinkRoiQp} (h : DynamicLinkRoiQp.fromJson j = .ok r) :
    Carries DynamicLinkRoiQp.layout j r.toJson := by
  simp only [DynamicLinkRoiQp.fromJson, bind_eq_ok, pure_eq_ok] at h
  obtain ⟨_, hthreshold, _, hlow, _, hfloor, _, hstep, rfl⟩ := h
  obtain ⟨ms, rfl⟩ := value_isObject hthreshold
  exact .block <|
    .value getInt_carries hfloor <|
    .value getInt_carries hlow <|
    .value getInt_carries hstep <|
    .value getInt_carries hthreshold .nil

theorem DynamicLinkCompute.carries {m : DynamicLinkCompute}
    (h : DynamicLinkCompute.fromJson j = .ok m) :
    Carries DynamicLinkCompute.layout j m.toJson := by
  simp only [DynamicLinkCompute.fromJson, bind_eq_ok, pure_eq_ok] at h
  obtain ⟨_, hmin, _, hmax, _, hratio, _, hblocks, _, hkMin, _, hkMax, rfl⟩ := h
  obtain ⟨ms, rfl⟩ := value_isObject hmin
  exact .block <|
    .value getReal_carries hratio <|
    .value getReal_carries hblocks <|
    .value getInt_carries hkMax <|
    .value getInt_carries hkMin <|
    .value getInt_carries hmax <|
    .value getInt_carries hmin .nil

theorem DynamicLinkProbe.carries {p : DynamicLinkProbe} (h : DynamicLinkProbe.fromJson j = .ok p) :
    Carries DynamicLinkProbe.layout j p.toJson := by
  simp only [DynamicLinkProbe.fromJson, bind_eq_ok, pure_eq_ok] at h
  obtain ⟨_, henabled, rfl⟩ := h
  obtain ⟨ms, rfl⟩ := value_isObject henabled
  exact .block <| .value getBool_carries henabled .nil

theorem DynamicLink.carries {d : DynamicLink} (h : DynamicLink.fromJson j = .ok d) :
    Carries DynamicLink.layout j d.toJson := by
  simp only [DynamicLink.fromJson, bind_eq_ok, pure_eq_ok] at h
  obtain ⟨_, henabled, _, hpower, _, hhealth, _, hstagger, _, hpace, _, hroi, _, hcompute, _, hprobe,
    rfl⟩ := h
  obtain ⟨ms, rfl⟩ := value_isObject henabled
  exact .block <|
    .value getInt_carries hstagger <|
    .value getInt_carries hpace <|
    .value DynamicLinkCompute.carries hcompute <|
    .value getBool_carries henabled <|
    .value getInt_carries hhealth <|
    .value DynamicLinkProbe.carries hprobe <|
    .value DynamicLinkRoiQp.carries hroi <|
    .value getBool_carries hpower .nil

theorem Osd.carries {o : Osd} (h : Osd.fromJson j = .ok o) : Carries Osd.layout j o.toJson := by
  simp only [Osd.fromJson, bind_eq_ok, pure_eq_ok] at h
  obtain ⟨_, henabled, rfl⟩ := h
  obtain ⟨ms, rfl⟩ := value_isObject henabled
  exact .block <| .value getBool_carries henabled .nil

theorem Service.carries {s : Service} (hj : j.ordered = true) (h : Service.fromJson j = .ok s) :
    Carries Service.layout j s.toJson := by
  simp only [Service.fromJson, bind_eq_ok, pure_eq_ok] at h
  obtain ⟨_, henabled, _, hexec, _, hargs, _, henv, _, hafter, _, hrestart, rfl⟩ := h
  obtain ⟨ms, rfl⟩ := atKey_isObject henabled
  have hall := (ordered_obj.mp hj).2
  exact .block <|
    .atKey getList_carries hargs <|
    .atKey getBool_carries henabled <|
    .cons (fun _ hv => getMap_carries (hall _ (mem_of_find? hv))
      (fun _ _ _ h => getStr_carries h) (atKey_read henv hv)) <|
    .atKey getStr_carries hexec <|
    .atKey getStr_carries hrestart <|
    .atKey getList_carries hafter .nil

/-- **A configuration has the values of the document that it was read from**, as far as their types keep
them. -/
theorem Config.carries {c : Config} (hj : j.ordered = true) (h : Config.fromJson j = .ok c) :
    Carries Config.layout j c.toJson := by
  simp only [Config.fromJson, bind_eq_ok, pure_eq_ok] at h
  obtain ⟨_, hlink, _, hvideo, _, himage, _, htelemetry, _, hrecording, _, hosd, _, hdl, _, hservices,
    rfl⟩ := h
  obtain ⟨ms, rfl⟩ := value_isObject hlink
  have hall := (ordered_obj.mp hj).2
  exact .block <|
    .value DynamicLink.carries hdl <|
    .value Image.carries himage <|
    .value Link.carries hlink <|
    .value Osd.carries hosd <|
    .value Recording.carries hrecording <|
    .cons (fun _ hv => getMap_carries (hall _ (mem_of_find? hv))
      (fun _ _ hv' h => Service.carries hv' h) (value_read hservices hv)) <|
    .value Telemetry.carries htelemetry <|
    .value Video.carries hvideo .nil

end Carries

/-! ## Merges -/

section Merge

mutual

theorem deepMergeJson_eq : ∀ base overlay : Json, deepMergeJson base overlay = onto (some base) overlay
  | .obj bs, .obj os => by rw [deepMergeJson, onto, mergeMembers_eq]
  | .null, _ | .bool _, _ | .int _, _ | .real _, _ | .str _, _ | .arr _, _ | .obj _, .null
  | .obj _, .bool _ | .obj _, .int _ | .obj _, .real _ | .obj _, .str _ | .obj _, .arr _ => by
    simp [deepMergeJson, onto]

theorem mergeMembers_eq : ∀ out os : List (String × Json), mergeMembers out os = mergeInto out os
  | out, [] => by rw [mergeMembers, mergeInto]
  | out, (k, v) :: os => by
    rw [mergeMembers, mergeInto, mergeMembers_eq]
    cases find? k out with
    | none => rw [onto_none]
    | some b =>
      rcases onto_cases (some b) v with h | ⟨bs, vs, hb, rfl, -⟩
      · simp [deepMergeJson_eq b v, h]
      · cases hb
        simp [deepMergeJson_eq (.obj bs) (.obj vs), isObject]

end

theorem deepMerge_leaf (base : Json) {overlay : Json} (h : overlay.isObject = false) :
    deepMergeJson base overlay = overlay := by
  rw [deepMergeJson_eq, onto_leaf _ h]

theorem at?_deepMerge {p : List String} {overlay v : Json} (base : Json)
    (hoverlay : overlay.ordered = true) (h : overlay.at? p = some v) (hleaf : v.isObject = false) :
    (deepMergeJson base overlay).at? p = some v := by
  rw [deepMergeJson_eq]
  exact at?_onto _ hoverlay ⟨h, .inl hleaf⟩

theorem ordered_deepMerge (overlay base : Json) (hb : base.ordered = true)
    (ho : overlay.ordered = true) : (deepMergeJson base overlay).ordered = true := by
  rw [deepMergeJson_eq]
  exact ordered_onto _ _ (by rintro _ ⟨⟩; exact hb) ho

end Merge

/-! ## Exceptions -/

section Refuse

variable {α β : Type} {x : Conv α} {j : Json}

/-- The conversion throws no exception but the JSON library's. -/
def Quiet (x : Conv α) : Prop := ∀ what, x ≠ .error (.runtime what)

theorem bind_eq_error {f : α → Conv β} {e : ConvError} :
    x >>= f = .error e ↔ x = .error e ∨ ∃ a, x = .ok a ∧ f a = .error e := by
  cases x with
  | error e' => simp [bind, Except.bind]
  | ok a => simp [bind, Except.bind]

theorem Quiet.pure (a : α) : Quiet (pure a : Conv α) := nofun

theorem Quiet.bind {f : α → Conv β} (hx : Quiet x) (hf : ∀ a, Quiet (f a)) : Quiet (x >>= f) := by
  intro what h
  rcases bind_eq_error.mp h with h | ⟨a, -, h⟩
  · exact hx what h
  · exact hf a what h

theorem Quiet.value {key : String} {get : Json → Conv α} {dflt : α} (hget : ∀ v, Quiet (get v)) :
    Quiet (j.value key get dflt) := by
  cases j with
  | obj ms =>
    rw [Json.value]
    cases find? key ms with
    | none =>
      rintro what ⟨⟩
    | some v => exact hget v
  | null | bool | int | real | str | arr => rintro what ⟨⟩

theorem Quiet.atKey {key : String} {get : Json → Conv α} (hget : ∀ v, Quiet (get v)) :
    Quiet (j.atKey key get) := by
  cases j with
  | obj ms =>
    rw [Json.atKey]
    cases find? key ms with
    | none =>
      rintro what ⟨⟩
    | some v => exact hget v
  | null | bool | int | real | str | arr => rintro what ⟨⟩

theorem Quiet.mapM {γ : Type} {f : γ → Conv α} {xs : List γ} (hf : ∀ v, Quiet (f v)) :
    Quiet (xs.mapM f) := by
  intro what h
  obtain ⟨-, v, -, -, -, hv⟩ := mapM_eq_error.mp h
  exact hf v what hv

variable (j)

theorem getInt_quiet : Quiet (getInt j) := by cases j <;> nofun

theorem getLong_quiet : Quiet (getLong j) := by cases j <;> nofun

theorem getReal_quiet : Quiet (getReal j) := by cases j <;> nofun

theorem getBool_quiet : Quiet (getBool j) := by cases j <;> nofun

theorem getStr_quiet : Quiet (getStr j) := by cases j <;> nofun

theorem getOption_quiet : Quiet (getOption getStr j) := by
  cases j with
  | null => nofun
  | bool | int | real | str | arr | obj => exact .bind (getStr_quiet _) fun _ => .pure _

theorem getList_quiet : Quiet (getList getStr j) := by
  cases j with
  | arr xs => exact .mapM getStr_quiet
  | null | bool | int | real | str | obj => nofun

theorem getMap_quiet {get : Json → Conv α} (hget : ∀ v, Quiet (get v)) (j : Json) :
    Quiet (getMap get j) := by
  cases j with
  | obj ms =>
    exact .bind (.mapM fun e => .bind (hget e.2) fun _ => .pure _) fun _ => .pure _
  | null | bool | int | real | str | arr => nofun

theorem Fec.quiet : Quiet (Fec.fromJson j) :=
  .bind (.value getStr_quiet) fun _ => .bind (.value getInt_quiet) fun _ =>
    .bind (.value getInt_quiet) fun _ => .bind (.value getInt_quiet) fun _ =>
      .bind (.value getInt_quiet) fun _ => .pure _

theorem Beamforming.quiet : Quiet (Beamforming.fromJson j) :=
  .bind (.value getBool_quiet) fun _ => .bind (.value getStr_quiet) fun _ =>
    .bind (.value getInt_quiet) fun _ => .bind (.value getInt_quiet) fun _ => .pure _

theorem Roi.quiet : Quiet (Roi.fromJson j) :=
  .bind (.atKey getBool_quiet) fun _ => .bind (.atKey getInt_quiet) fun _ =>
    .bind (.atKey getReal_quiet) fun _ => .bind (.atKey getInt_quiet) fun _ => .pure _

theorem Video.quiet (j : Json) : Quiet (Video.fromJson j) :=
  .bind (.atKey getStr_quiet) fun _ => .bind (.atKey getStr_quiet) fun _ =>
    .bind (.atKey getInt_quiet) fun _ => .bind (.atKey getInt_quiet) fun _ =>
      .bind (.atKey getStr_quiet) fun _ => .bind (.atKey getReal_quiet) fun _ =>
        .bind (.atKey getStr_quiet) fun _ => .bind (.atKey getInt_quiet) fun _ =>
          .bind (.atKey getStr_quiet) fun _ => .bind (.atKey Roi.quiet) fun _ => .pure _

theorem Image.quiet : Quiet (Image.fromJson j) :=
  .bind (.atKey getBool_quiet) fun _ => .bind (.atKey getBool_quiet) fun _ =>
    .bind (.atKey getInt_quiet) fun _ => .pure _

theorem Telemetry.quiet : Quiet (Telemetry.fromJson j) :=
  .bind (.atKey getStr_quiet) fun _ => .bind (.atKey getStr_quiet) fun _ =>
    .bind (.atKey getInt_quiet) fun _ => .bind (.atKey getInt_quiet) fun _ => .pure _

theorem Recording.quiet : Quiet (Recording.fromJson j) :=
  .bind (.atKey getBool_quiet) fun _ => .bind (.atKey getStr_quiet) fun _ =>
    .bind (.atKey getStr_quiet) fun _ => .bind (.atKey getInt_quiet) fun _ =>
      .bind (.atKey getInt_quiet) fun _ => .pure _

theorem DynamicLinkRoiQp.quiet : Quiet (DynamicLinkRoiQp.fromJson j) :=
  .bind (.value getInt_quiet) fun _ => .bind (.value getInt_quiet) fun _ =>
    .bind (.value getInt_quiet) fun _ => .bind (.value getInt_quiet) fun _ => .pure _

theorem DynamicLinkCompute.quiet : Quiet (DynamicLinkCompute.fromJson j) :=
  .bind (.value getInt_quiet) fun _ => .bind (.value getInt_quiet) fun _ =>
    .bind (.value getReal_quiet) fun _ => .bind (.value getReal_quiet) fun _ =>
      .bind (.value getInt_quiet) fun _ => .bind (.value getInt_quiet) fun _ => .pure _

theorem DynamicLinkProbe.quiet : Quiet (DynamicLinkProbe.fromJson j) :=
  .bind (.value getBool_quiet) fun _ => .pure _

theorem DynamicLink.quiet (j : Json) : Quiet (DynamicLink.fromJson j) :=
  .bind (.value getBool_quiet) fun _ => .bind (.value getBool_quiet) fun _ =>
    .bind (.value getInt_quiet) fun _ => .bind (.value getInt_quiet) fun _ =>
      .bind (.value getInt_quiet) fun _ => .bind (.value DynamicLinkRoiQp.quiet) fun _ =>
        .bind (.value DynamicLinkCompute.quiet) fun _ =>
          .bind (.value DynamicLinkProbe.quiet) fun _ => .pure _

theorem Osd.quiet : Quiet (Osd.fromJson j) :=
  .bind (.value getBool_quiet) fun _ => .pure _

theorem Service.quiet : Quiet (Service.fromJson j) :=
  .bind (.atKey getBool_quiet) fun _ => .bind (.atKey getStr_quiet) fun _ =>
    .bind (.atKey getList_quiet) fun _ => .bind (.atKey (getMap_quiet getStr_quiet)) fun _ =>
      .bind (.atKey getList_quiet) fun _ => .bind (.atKey getStr_quiet) fun _ => .pure _

variable {j}

theorem Quiet.bind_eq_error {f : α → Conv β} {what : String} (hx : Quiet x) :
    x >>= f = .error (.runtime what) ↔ ∃ a, x = .ok a ∧ f a = .error (.runtime what) := by
  rw [Fpvd.bind_eq_error, or_iff_right (hx what)]

/-- **A link is refused with a `std::runtime_error`** by its power only, which is read third. -/
theorem Link.throws_iff {what : String} : Link.fromJson j = .error (.runtime what) ↔
    (∃ c, j.value "channel" getInt 132 = .ok c) ∧ (∃ w, j.value "width" getInt 20 = .ok w) ∧
      j.value "txPowerDbm" TxPower.fromJson {} = .error (.runtime what) := by
  have hrest : ∀ f : TxPower → Conv Link, (∀ t, Quiet (f t)) →
      (j.value "txPowerDbm" TxPower.fromJson {} >>= f = .error (.runtime what) ↔
        j.value "txPowerDbm" TxPower.fromJson {} = .error (.runtime what)) := by
    intro f hf
    rw [Fpvd.bind_eq_error, or_iff_left]
    rintro ⟨t, -, ht⟩
    exact hf t what ht
  unfold Link.fromJson
  rw [(Quiet.value getInt_quiet).bind_eq_error]
  simp only [(Quiet.value getInt_quiet).bind_eq_error]
  constructor
  · rintro ⟨c, hc, w, hw, h⟩
    refine ⟨⟨c, hc⟩, ⟨w, hw⟩, (hrest _ fun t => ?_).mp h⟩
    exact .bind (.value getInt_quiet) fun _ => .bind (.value Fec.quiet) fun _ =>
      .bind (.value getBool_quiet) fun _ => .bind (.value getBool_quiet) fun _ =>
        .bind (.value getLong_quiet) fun _ => .bind (.value getInt_quiet) fun _ =>
          .bind (.value getOption_quiet) fun _ => .bind (.value Beamforming.quiet) fun _ =>
            .bind (.value getBool_quiet) fun _ => .pure _
  · rintro ⟨⟨c, hc⟩, ⟨w, hw⟩, h⟩
    exact ⟨c, hc, w, hw, bind_eq_error.mpr (.inl h)⟩

theorem Config.throws_iff {what : String} : Config.fromJson j = .error (.runtime what) ↔
    j.value "link" Link.fromJson {} = .error (.runtime what) := by
  unfold Config.fromJson
  rw [bind_eq_error, or_iff_left]
  rintro ⟨l, -, h⟩
  refine absurd h (Quiet.bind (.value Video.quiet) (fun _ => ?_) what)
  exact .bind (.value Image.quiet) fun _ => .bind (.value Telemetry.quiet) fun _ =>
    .bind (.value Recording.quiet) fun _ => .bind (.value Osd.quiet) fun _ =>
      .bind (.value DynamicLink.quiet) fun _ =>
        .bind (.value (getMap_quiet Service.quiet)) fun _ => .pure _

def isNumeric : Json → Bool
  | .int _ | .real _ | .bool _ => true
  | _ => false

theorem isNumeric_iff : isNumeric j = true ↔ ∃ i, getInt j = .ok i := by
  cases j <;> simp [isNumeric, getInt]

def isOtherText : Json → Bool
  | .str s => s ≠ "auto"
  | _ => false

theorem isOtherText_iff : isOtherText j = true ↔
    ∃ what, TxPower.fromJson j = .error (.runtime what) := by
  cases j with
  | str s =>
    by_cases hs : s = "auto"
    · simp [isOtherText, TxPower.fromJson, hs]
    · simp [isOtherText, TxPower.fromJson, hs]
  | null | bool | int | real | arr | obj =>
    have hquiet : ∀ v, Quiet (do return ({ automatic := false, dbm := ← getInt v } : TxPower)) :=
      fun v => .bind (getInt_quiet v) fun _ => .pure _
    refine iff_of_false Bool.false_ne_true ?_
    rintro ⟨what, h⟩
    exact hquiet _ what h

/-- The power of the document is a text other than `auto`, and nothing is refused before it. -/
def refusesPower (j : Json) : Bool :=
  (j.at? ["link", "txPowerDbm"]).any isOtherText && (j.at? ["link", "channel"]).all isNumeric &&
    (j.at? ["link", "width"]).all isNumeric

section Members

variable {ms : List (String × Json)} {key : String} {get : Json → Conv α} {dflt : α}

theorem value_returns : (∃ a, (Json.obj ms).value key get dflt = .ok a) ↔
    ∀ v ∈ find? key ms, ∃ a, get v = .ok a := by
  rw [Json.value]
  cases find? key ms <;> simp

theorem value_throws {e : ConvError} : (Json.obj ms).value key get dflt = .error e ↔
    ∃ v, find? key ms = some v ∧ get v = .error e := by
  rw [Json.value]
  cases find? key ms <;> simp

end Members

theorem throws_iff_refusesPower :
    (∃ what, Config.fromJson j = .error (.runtime what)) ↔ refusesPower j = true := by
  simp only [Config.throws_iff]
  cases j with
  | null | bool | int | real | str | arr => exact iff_of_false nofun nofun
  | obj ms =>
    simp only [value_throws, Link.throws_iff]
    cases hlink : find? "link" ms with
    | none =>
      refine iff_of_false ?_ ?_
      · rintro ⟨what, v, hv, -⟩
        cases hv
      · simp [refusesPower, at?, hlink]
    | some l =>
      cases l with
      | null | bool | int | real | str | arr =>
        refine iff_of_false ?_ ?_
        · rintro ⟨what, v, hv, ⟨c, hc⟩, -⟩
          obtain rfl := Option.some.inj hv
          cases hc
        · simp [refusesPower, at?, hlink]
      | obj ls =>
        have hat : ∀ k, (Json.obj ms).at? ["link", k] = find? k ls := by
          intro k
          rw [at?, hlink, Option.bind_some, at?]
          cases find? k ls <;> rfl
        have hpower : (find? "txPowerDbm" ls).any isOtherText = true ↔
            ∃ what, (Json.obj ls).value "txPowerDbm" TxPower.fromJson {} =
              .error (.runtime what) := by
          simp only [value_throws]
          cases find? "txPowerDbm" ls with
          | none => simp
          | some v => simpa using isOtherText_iff
        have hint : ∀ k dflt, (find? k ls).all isNumeric = true ↔
            ∃ i, (Json.obj ls).value k getInt dflt = .ok i := by
          intro k dflt
          rw [value_returns]
          cases find? k ls with
          | none => simp
          | some v => simp [isNumeric_iff]
        rw [refusesPower, hat, hat, hat, Bool.and_eq_true, Bool.and_eq_true, hpower, hint _ 132,
          hint _ 20]
        constructor
        · rintro ⟨what, v, hv, hchannel, hwidth, hrefused⟩
          obtain rfl := Option.some.inj hv
          exact ⟨⟨⟨what, hrefused⟩, hchannel⟩, hwidth⟩
        · rintro ⟨⟨⟨what, hrefused⟩, hchannel⟩, hwidth⟩
          exact ⟨what, .obj ls, rfl, hchannel, hwidth, hrefused⟩

theorem at?_link_deepMerge (c : Config) {os us : List (String × Json)} (hos : Sorted os)
    (hus : Sorted us) (hlink : find? "link" os = some (.obj us)) {k : String}
    {b : Json} (hb : c.link.toJson.at? [k] = some b) (hleaf : b.isObject = false) :
    (deepMergeJson c.toJson (.obj os)).at? ["link", k] = some ((find? k us).getD b) := by
  obtain ⟨b', hb', heq⟩ := Option.bind_eq_some_iff.mp hb
  obtain rfl : b' = b := Option.some.inj heq
  rw [Config.toJson, deepMergeJson, at?, mergeMembers_eq, find?_mergeInto hos.nodup, hlink]
  show at? [k] (onto (some c.link.toJson) (.obj us)) = _
  rw [Link.toJson, onto, at?, find?_mergeInto hus.nodup, hb']
  cases find? k us with
  | none => rfl
  | some v =>
    rcases onto_cases (some b') v with h | ⟨_, _, hb', -, -⟩
    · exact congrArg some h
    · cases hb'
      cases hleaf

theorem refusesPower_deepMerge (c : Config) {overlay : Json} (ho : overlay.ordered = true) :
    refusesPower (deepMergeJson c.toJson overlay) = refusesPower overlay := by
  have hpower : isOtherText c.link.txPowerDbm.toJson = false ∧
      c.link.txPowerDbm.toJson.isObject = false := by
    unfold TxPower.toJson
    split_ifs <;> exact ⟨rfl, rfl⟩
  cases overlay with
  | null | bool | int | real | str | arr => rw [deepMerge_leaf _ rfl]
  | obj os =>
    obtain ⟨hos, hall⟩ := ordered_obj.mp ho
    cases hlink : find? "link" os with
    | none =>
      have hmerged : (deepMergeJson c.toJson (.obj os)).at? ["link", "txPowerDbm"] =
          some c.link.txPowerDbm.toJson := by
        rw [Config.toJson, deepMergeJson, at?, mergeMembers_eq, find?_mergeInto hos.nodup, hlink]
        rfl
      rw [refusesPower, hmerged, Option.any_some, hpower.1]
      simp [refusesPower, at?, hlink]
    | some u =>
      cases u with
      | obj us =>
        have hus := (ordered_obj.mp (hall ("link", .obj us) (mem_of_find? hlink))).1
        have hat : ∀ k, (Json.obj os).at? ["link", k] = find? k us := by
          intro k
          rw [at?, hlink, Option.bind_some, at?]
          cases find? k us <;> rfl
        rw [refusesPower, refusesPower, hat, hat, hat,
          at?_link_deepMerge c hos hus hlink (b := c.link.txPowerDbm.toJson) rfl hpower.2,
          at?_link_deepMerge c hos hus hlink (b := .int c.link.channel) rfl rfl,
          at?_link_deepMerge c hos hus hlink (b := .int c.link.width) rfl rfl]
        cases find? "txPowerDbm" us with
        | none => simp [hpower.1]
        | some v => cases find? "channel" us <;> cases find? "width" us <;> rfl
      | null | bool | int | real | str | arr =>
        have hat : ∀ k, (deepMergeJson c.toJson (.obj os)).at? ["link", k] =
            (Json.obj os).at? ["link", k] := by
          intro k
          rw [Config.toJson, deepMergeJson, at?, at?, mergeMembers_eq, find?_mergeInto hos.nodup, hlink]
          rfl
        rw [refusesPower, refusesPower, hat, hat, hat]

end Refuse

end Fpvd
