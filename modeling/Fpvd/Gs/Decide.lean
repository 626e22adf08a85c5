import Fpvd.Gs.Effective

/-!
# Fpvd.Gs.Decide — where the check of a configuration decides (`gs/fpvdgs/schema.py`)

`validate_effective` is meant to return or to raise a `SchemaError`.  It takes some types for granted
while it looks at others; where one of those is wrong it raises what Python raises there.
-/

namespace Fpvd.Gs

open AssocMap

/-! ## The check decides -/

def Raised.isSchema : Raised → Bool
  | .py (.schemaError _) => true
  | _ => false

def Decides (r : Except Raised Unit) : Prop :=
  r = .ok () ∨ ∃ text, r = .error (.py (.schemaError text))

section Decides

variable {c : Option Raised} {a b : List (Option Raised)}

theorem decides_iff {r : Except Raised Unit} :
    Decides r ↔ ∀ e, r = .error e → e.isSchema = true := by
  unfold Decides
  cases r with
  | ok u => simp
  | error e =>
    rcases e with (_ | _ | _ | _) | _ | _ <;> simp [Raised.isSchema]

theorem raiseFirst_append (a b : List (Option Raised)) :
    raiseFirst (a ++ b) = raiseFirst a >>= fun _ => raiseFirst b := by
  unfold raiseFirst
  rw [List.findSome?_append]
  cases a.findSome? id <;> rfl

theorem decides_append :
    Decides (raiseFirst (a ++ b)) ↔ Decides (raiseFirst a) ∧ (Passes a → Decides (raiseFirst b)) := by
  have hpass : Passes a ↔ raiseFirst a = .ok () := raiseFirst_ok.symm
  simp only [raiseFirst_append, hpass, decides_iff]
  cases h : raiseFirst a with
  | ok u => simp [bind, Except.bind]
  | error e => simp [bind, Except.bind]

theorem decides_single : Decides (raiseFirst [c]) ↔ ∀ e, c = some e → e.isSchema = true := by
  rw [decides_iff]
  cases c <;> simp [raiseFirst]

theorem decides_schemaErrorIf {bad : Bool} {text : String} :
    Decides (raiseFirst [schemaErrorIf bad text]) := by
  rw [decides_single]
  cases bad <;> simp [schemaErrorIf, raiseIf, Raised.isSchema]

theorem decides_hasGet {v : Json} : Decides (raiseFirst [hasGet v]) ↔ v.isObject = true := by
  rw [decides_single, hasGet]
  cases v.isObject <;> simp [Raised.isSchema]

def SchemaCheck (c : Option PyError) : Prop := ∀ e, c = some e → ∃ text, e = .schemaError text

def SchemaChecks (checks : List (Option PyError)) : Prop := ∀ c ∈ checks, SchemaCheck c

@[simp] theorem schemaCheck_raiseIf (bad : Bool) (text : String) : SchemaCheck (raiseIf bad text) := by
  cases bad <;> simp [SchemaCheck, raiseIf]

@[simp] theorem schemaCheck_unknownKeys (name : String) (known : List String) (blk : Dict) :
    SchemaCheck (unknownKeys name known blk) := schemaCheck_raiseIf _ _

@[simp] theorem schemaCheck_validateValue (ok : Json → Bool) (what name : String) (v : Option Json) :
    SchemaCheck (validateValue ok what name v) := by
  cases v with
  | none => nofun
  | some v => exact schemaCheck_raiseIf _ _

@[simp] theorem schemaChecks_nil : SchemaChecks [] := nofun

@[simp] theorem schemaChecks_cons {c : Option PyError} {checks : List (Option PyError)} :
    SchemaChecks (c :: checks) ↔ SchemaCheck c ∧ SchemaChecks checks := List.forall_mem_cons

@[simp] theorem schemaChecks_append {a b : List (Option PyError)} :
    SchemaChecks (a ++ b) ↔ SchemaChecks a ∧ SchemaChecks b := List.forall_mem_append

theorem schemaChecks_forBlock {check : Json → List (Option PyError)} {v : Option Json}
    (h : ∀ j, SchemaChecks (check j)) : SchemaChecks (forBlock check v) := by
  cases v with
  | none => exact schemaChecks_nil
  | some j => exact h j

theorem decides_liftChecks {checks : List (Option PyError)} (h : SchemaChecks checks) :
    Decides (raiseFirst (liftChecks checks)) := by
  induction checks with
  | nil => exact .inl rfl
  | cons c checks ih =>
    rw [schemaChecks_cons] at h
    show Decides (raiseFirst ([c.map .py] ++ liftChecks checks))
    rw [decides_append]
    refine ⟨decides_single.mpr fun e he => ?_, fun _ => ih h.2⟩
    obtain ⟨e', hc, rfl⟩ := Option.map_eq_some_iff.mp he
    obtain ⟨text, rfl⟩ := h.1 e' hc
    rfl

end Decides

section Blocks

theorem validateTap_schema (tap : Json) : SchemaChecks (validateTap tap) := by simp [validateTap]

theorem validateProbe_schema (probe : Json) : SchemaChecks (validateProbe probe) := by
  simp [validateProbe]

theorem validateSmoothing_schema (sm : Json) : SchemaChecks (validateSmoothing sm) := by
  simp [validateSmoothing, validateBlockKeys, forKeys, validateAlpha, validateNonNegNum]

theorem validateLearnedPrior_schema (lp : Json) : SchemaChecks (validateLearnedPrior lp) := by
  simp [validateLearnedPrior, validateBlockKeys, forKeys, validateAlpha, validateNonNegNum,
    validatePosInt, validateProb]

theorem validateFlightlog_schema (fl : Json) : SchemaChecks (validateFlightlog fl) := by
  simp [validateFlightlog, validateBlockKeys]

theorem validateBeamforming_schema (bf : Json) : SchemaChecks (validateBeamforming bf) := by
  simp [validateBeamforming, validateBlockKeys]

theorem validateCards_schema (cards : Json) : SchemaChecks (validateCards cards) := by
  cases cards with
  | arr cards =>
    intro c hc
    obtain ⟨card, -, hc⟩ := List.mem_flatMap.mp hc
    have hcard : SchemaChecks (validateCard card) := by
      cases card <;> simp [validateCard, validateCardBlock]
    exact hcard c hc
  | _ => simp [validateCards]

theorem validateDrone_schema (dr : Json) : SchemaChecks (validateDrone dr) := by simp [validateDrone]

theorem validateMavlinkPeer_schema (isDigit : String → Bool) (name : String) (v : Option Json) :
    SchemaChecks (validateMavlinkPeer isDigit name v) := by
  unfold validateMavlinkPeer
  split <;> simp

theorem validateWfb_schema (isDigit : String → Bool) (wfb : Json) :
    SchemaChecks (validateWfb isDigit wfb) := by
  unfold validateWfb
  rw [schemaChecks_append, schemaChecks_append]
  refine ⟨⟨by simp, schemaChecks_forBlock fun j => ?_⟩, schemaChecks_forBlock fun j => ?_⟩
  · simp [validateBlockKeys, validateNonNegNum, validateProb]
  · exact schemaChecks_cons.mpr ⟨schemaCheck_raiseIf _ _, validateMavlinkPeer_schema _ _ _⟩

end Blocks

/-! ## What the check takes for granted -/

def takesInt : Json → Bool
  | .null | .arr _ | .obj _ => false
  | _ => true

def cardEntries (link : Dict) : List Json :=
  match link.got "cards", link.got "wlans" with
  | some (.arr entries), _ => entries
  | _, some (.arr entries) => entries
  | _, _ => []

/-- Up to the first entry that is no card, every `sshPort` is one that `int` takes. -/
def PortsTyped (py : PyNumbers) (entries : List Json) : Prop :=
  ∀ (before : List Json) (d : Dict) (after : List Json), entries = before ++ .obj d :: after →
    (∀ x ∈ before, ∃ c, Wfb.parseEntry py x = .ok c) → (find? "iface" d).isSome = true →
    takesInt (d.getOr "sshPort" (.int 22)) = true

/-- A `dynamicLink` that is an object, or whose elements are reported as unknown keys. -/
def keysForm : Json → Bool
  | .obj _ => true
  | .str s => s ≠ ""
  | .arr xs =>
    let unknown := xs.filter fun v => !dynamicLinkKeys.any (v = .str ·)
    xs.all isHashable && !unknown.isEmpty && sortable unknown
  | _ => false

def isNarrow (w : Json) : Bool := (number? w).any (· ∈ [5, 40])

def linkHead (cfg : Dict) : List (Option Raised) :=
  let blk := dictOf (cfg.getOr "link" (.obj []))
  validateWidth cfg (blk.got "width") ++
  [schemaErrorIf (¬ (blk.getOr "region" .null).truthy) "link.region is required",
    schemaErrorIf (¬ (blk.getOr "channel" .null).truthy) "link.channel is required"] ++
  liftChecks (forBlock validateBeamforming (blk.got "beamforming")) ++
  liftChecks (forBlock (fun cards => if cards = .str "auto" then [] else validateCards cards)
    (blk.got "cards"))

def linkTail (py : PyNumbers) (cfg : Dict) : List (Option Raised) :=
  let blk := dictOf (cfg.getOr "link" (.obj []))
  [validateSingleRemoteHost py blk,
    (validateValue isStr " must be a string or null" "link.serverAddress"
      (blk.got "serverAddress")).map .py]

def dynamicLinkHead (dl : Dict) : List (Option PyError) :=
  [unknownKeys "dynamicLink" dynamicLinkKeys dl,
    raiseIf (¬ isIntIn 0 7 (dl.getOr "maxMcs" (.int 5))) "dynamicLink.maxMcs must be an int in 0..7",
    raiseIf (¬ isIntIn 1 65535 (dl.getOr "dronePort" (.int 9999)))
      "dynamicLink.dronePort must be an int in 1..65535"] ++
  forBlock validateTap (dl.got "tap") ++
  forBlock validateProbe (dl.got "probe") ++
  [raiseIf (¬ isBool (dl.getOr "enabled" (.bool false))) "dynamicLink.enabled must be a bool"]

def selectorHead (sel : Json) : List (Option PyError) := (validateSelector sel).dropLast

def monitorHead (cm : Json) : List (Option PyError) := (validateConnectionMonitor cm).dropLast

def dynamicLinkPart (cfg : Dict) : List (Option Raised) :=
  match cfg.got "dynamicLink" with
  | none => []
  | some dl => [dynamicLinkForm dl] ++ liftChecks (dynamicLinkChecks (dictOf dl))

def pixelpilotPart (cfg : Dict) : List (Option Raised) :=
  match cfg.got "pixelpilot" with
  | none => []
  | some pp => validatePixelpilot pp

def idrForwardPart (cfg : Dict) : List (Option Raised) :=
  match cfg.got "idrForward" with
  | none => []
  | some idr => validateIdrForward idr

/-- **The types that `validate_effective` takes for granted**, each where the checks before it have
passed. -/
structure Typed (pl : Platform) (cfg : Dict) : Prop where
  link : (cfg.getOr "link" (.obj [])).isObject = true
  width : ∀ w, (dictOf (cfg.getOr "link" (.obj []))).got "width" = some w → isHashable w = true
  /-- with a width of 5 or 40 MHz `dynamicLink` is asked for `enabled` -/
  narrow : ∀ w, (dictOf (cfg.getOr "link" (.obj []))).got "width" = some w →
    isNarrow w = true → (cfg.getOr "dynamicLink" .null).truthy = true →
    (cfg.getOr "dynamicLink" .null).isObject = true
  ports : Passes (linkHead cfg) → PortsTyped pl.py (cardEntries (dictOf (cfg.getOr "link" (.obj []))))
  /-- the driver, where it is asked, answers -/
  driver : Passes (linkHead cfg) → Passes (linkTail pl.py cfg) →
    ∀ bf, (dictOf (cfg.getOr "link" (.obj []))).got "beamforming" = some bf →
      ((dictOf bf).getOr "enabled" .null).truthy = true →
      ∀ e, pl.bfCapable cfg = .error e → e.isSchema = true
  dynamicLink : Passes (linkChecks pl cfg) → ∀ dl, cfg.got "dynamicLink" = some dl → keysForm dl = true
  margins : Passes (linkChecks pl cfg) → ∀ dl : Dict, cfg.got "dynamicLink" = some (.obj dl) →
    Passes (dynamicLinkHead dl) → ∀ sel, dl.got "selector" = some sel → Passes (selectorHead sel) →
    ∀ k ∈ ["snrPromoteMarginDb", "snrDemoteMarginDb"], find? k (dictOf sel) ≠ some .null
  pixelpilot : Passes (linkChecks pl cfg) → Passes (dynamicLinkPart cfg) →
    ∀ pp, cfg.got "pixelpilot" = some pp → pp.isObject = true
  idrForward : Passes (linkChecks pl cfg) → Passes (dynamicLinkPart cfg) →
    Passes (pixelpilotPart cfg) → ∀ idr, cfg.got "idrForward" = some idr → idr.isObject = true
  periods : Passes (linkChecks pl cfg) → Passes (dynamicLinkPart cfg) →
    Passes (pixelpilotPart cfg) → Passes (idrForwardPart cfg) →
    ∀ cm, cfg.got "connectionMonitor" = some cm → Passes (monitorHead cm) →
    ∀ k ∈ ["tunnelStaleS", "httpPollS"], find? k (dictOf cm) ≠ some .null

section Segments

variable {pl : Platform} {py : PyNumbers} {cfg blk : Dict}

theorem effectiveChecks_eq (pl : Platform) (cfg : Dict) :
    effectiveChecks pl cfg = [hasGet (cfg.getOr "link" (.obj []))] ++ (linkChecks pl cfg ++
      (dynamicLinkPart cfg ++ (pixelpilotPart cfg ++ (idrForwardPart cfg ++
        (liftChecks (forBlock validateConnectionMonitor (cfg.got "connectionMonitor")) ++
          liftChecks (forBlock validateDrone (cfg.got "drone") ++
            forBlock (validateWfb pl.isDigit) (cfg.got "wfb"))))))) := by
  simp only [effectiveChecks, List.append_assoc, liftChecks, List.map_append]
  rfl

theorem linkChecks_eq (pl : Platform) (cfg : Dict) :
    linkChecks pl cfg = linkHead cfg ++ (linkTail pl.py cfg ++
      [validateBfCapable pl cfg ((dictOf (cfg.getOr "link" (.obj []))).got "beamforming")]) := by
  simp only [linkChecks, linkHead, List.append_assoc]
  rfl

theorem dynamicLinkChecks_eq (dl : Dict) :
    dynamicLinkChecks dl = dynamicLinkHead dl ++ (forBlock validateSelector (dl.got "selector") ++
      (forBlock validateSmoothing (dl.got "smoothing") ++
        (forBlock validateLearnedPrior (dl.got "learnedPrior") ++
          forBlock validateFlightlog (dl.got "flightlog")))) := by
  simp only [dynamicLinkChecks, dynamicLinkHead, List.append_assoc]

theorem selectorHead_schema (sel : Json) : SchemaChecks (selectorHead sel) := by
  simp [selectorHead, validateSelector, validateBlockKeys, forKeys, validateProb, validatePosInt,
    validateNonNegNum]

theorem monitorHead_schema (cm : Json) : SchemaChecks (monitorHead cm) := by
  simp [monitorHead, validateConnectionMonitor, forKeys, validatePosInt]

theorem liftChecks_append (a b : List (Option PyError)) :
    liftChecks (a ++ b) = liftChecks a ++ liftChecks b := List.map_append

/-! ### The `link` block -/

theorem isNarrow_valid {v : Json} (h : isNarrow v = true) :
    (number? v).any (· ∈ validWidths) = true := by
  unfold isNarrow at h
  cases hx : number? v with
  | none =>
    rw [hx] at h
    cases h
  | some x =>
    rw [hx] at h
    have hmem : x ∈ ([5, 40] : List ℚ) := of_decide_eq_true h
    simp only [List.mem_cons, List.not_mem_nil, or_false] at hmem
    rcases hmem with rfl | rfl <;> rfl

theorem decides_width {w : Option Json} :
    Decides (raiseFirst (validateWidth cfg w)) ↔ ∀ v, w = some v → isHashable v = true ∧
      (isNarrow v = true → (cfg.getOr "dynamicLink" .null).truthy = true →
        (cfg.getOr "dynamicLink" .null).isObject = true) := by
  cases w with
  | none => exact ⟨fun _ v h => (by cases h), fun _ => .inl rfl⟩
  | some v =>
    have hhash : Decides (raiseFirst [if isHashable v then none else some (.py .typeError)]) ↔
        isHashable v = true := by
      rw [decides_single]
      cases isHashable v <;> simp [Raised.isSchema]
    have hdl : ∀ dl : Json, Decides (raiseFirst [if dl.truthy then hasGet dl else none]) ↔
        (dl.truthy = true → dl.isObject = true) := by
      intro dl
      cases htruthy : dl.truthy with
      | false => simp [raiseFirst, Decides]
      | true => simp [decides_hasGet]
    have hlist : validateWidth cfg (some v) = [if isHashable v then none else some (.py .typeError)] ++
        ([schemaErrorIf (¬ (number? v).any (· ∈ validWidths)) "link.width must be one of [5, 10, 20, 40]"]
          ++ if isNarrow v then
            [if (cfg.getOr "dynamicLink" .null).truthy then hasGet (cfg.getOr "dynamicLink" .null)
              else none] ++
            [schemaErrorIf ((dictOf (cfg.getOr "dynamicLink" .null)).getOr "enabled" (.bool false)).truthy
              "link.width 5/40 MHz requires dynamicLink.enabled=false"]
          else []) := rfl
    have hpass : Passes [if isHashable v then none else some (Raised.py .typeError)] ↔
        isHashable v = true := by
      cases isHashable v <;> simp
    rw [hlist, decides_append, decides_append, hhash, hpass]
    simp only [Option.some.injEq, forall_eq']
    by_cases hnarrow : isNarrow v = true
    · rw [if_pos hnarrow, decides_append, hdl]
      refine ⟨fun h => ⟨h.1, fun _ => ((h.2 h.1).2 ?_).1⟩, fun h => ⟨h.1, fun _ =>
        ⟨decides_schemaErrorIf, fun _ => ⟨h.2 hnarrow, fun _ => decides_schemaErrorIf⟩⟩⟩⟩
      simp [isNarrow_valid hnarrow, schemaErrorIf, raiseIf]
    · rw [if_neg hnarrow]
      exact ⟨fun h => ⟨h.1, fun hn => absurd hn hnarrow⟩, fun h => ⟨h.1, fun _ =>
        ⟨decides_schemaErrorIf, fun _ => .inl rfl⟩⟩⟩

theorem linkHead_decides : Decides (raiseFirst (linkHead cfg)) ↔
    Decides (raiseFirst (validateWidth cfg ((dictOf (cfg.getOr "link" (.obj []))).got "width"))) := by
  unfold linkHead
  dsimp only
  rw [decides_append, decides_append, decides_append]
  constructor
  · exact fun h => h.1.1.1
  · intro h
    refine ⟨⟨⟨h, fun _ => ?_⟩, fun _ => decides_liftChecks ?_⟩, fun _ => decides_liftChecks ?_⟩
    · exact decides_append.mpr ⟨decides_schemaErrorIf, fun _ => decides_schemaErrorIf⟩
    · exact schemaChecks_forBlock validateBeamforming_schema
    · refine schemaChecks_forBlock fun cards => ?_
      split_ifs
      · exact schemaChecks_nil
      · exact validateCards_schema cards

theorem toInt_foreign (py : PyNumbers) (v : Json) :
    (∃ e, py.toInt v = .error e ∧ e ≠ .valueError) ↔ takesInt v = false := by
  cases v with
  | str s => cases h : py.int s <;> simp [PyNumbers.toInt, takesInt, h]
  | _ => simp [PyNumbers.toInt, takesInt]

theorem int_eq_toInt (py : PyNumbers) (blk : Dict) (key : String) (i : ℤ) :
    Dict.int py blk key i = py.toInt (blk.getOr key (.int i)) := by
  unfold Dict.int Dict.read Dict.getOr
  cases find? key blk <;> rfl

theorem parseEntry_foreign {x : Json} :
    (∃ e, Wfb.parseEntry py x = .error e ∧ e.valueError? = none) ↔
      ∃ d : Dict, x = .obj d ∧ (find? "iface" d).isSome = true ∧
        takesInt (d.getOr "sshPort" (.int 22)) = false := by
  cases x with
  | obj d =>
    have hport := toInt_foreign py (Dict.getOr d "sshPort" (.int 22))
    simp only [Wfb.parseEntry, Wfb.cardFromDict, int_eq_toInt, Json.obj.injEq, exists_eq_left',
      ← hport]
    cases find? "iface" d with
    | none => simp [Wfb.CardError.valueError?]
    | some iface =>
      cases py.toInt (Dict.getOr d "sshPort" (.int 22)) with
      | ok port => simp
      | error e => cases e <;> simp [Wfb.CardError.valueError?]
  | str s => simp [Wfb.parseEntry]
  | _ => simp [Wfb.parseEntry, Wfb.CardError.valueError?]

theorem parseEntries_foreign {entries : List Json} :
    (∃ e, Wfb.parseEntries py entries = .error e ∧ e.valueError? = none) ↔ ¬ PortsTyped py entries := by
  unfold Wfb.parseEntries PortsTyped
  simp only [Json.mapM_eq_error]
  push Not
  constructor
  · rintro ⟨e, ⟨before, x, after, rfl, hbefore, hx⟩, he⟩
    obtain ⟨d, rfl, hiface, hport⟩ := parseEntry_foreign.mp ⟨e, hx, he⟩
    exact ⟨before, d, after, rfl, hbefore, hiface, by simp [hport]⟩
  · rintro ⟨before, d, after, rfl, hbefore, hiface, hport⟩
    obtain ⟨e, hx, he⟩ := parseEntry_foreign.mpr ⟨d, rfl, hiface, by simpa using hport⟩
    exact ⟨e, ⟨before, .obj d, after, rfl, hbefore, hx⟩, he⟩

theorem localEntries_foreign {entries : List Json} :
    (∃ e, (do
      let cards ← Wfb.parseEntries py entries
      if cards.any (fun c => !c.isLocal) then .error .remoteInWlans else .ok (some cards)) =
        Except.error e ∧ e.valueError? = none) ↔
      ∃ e, Wfb.parseEntries py entries = .error e ∧ e.valueError? = none := by
  cases Wfb.parseEntries py entries with
  | error e => simp [bind, Except.bind]
  | ok cards =>
    simp only [bind, Except.bind]
    split_ifs <;> simp [Wfb.CardError.valueError?]

theorem parseCards_foreign :
    (∃ e, Wfb.parseCards py blk = .error e ∧ e.valueError? = none) ↔
      ¬ PortsTyped py (cardEntries blk) := by
  rw [← parseEntries_foreign]
  unfold Wfb.parseCards cardEntries
  generalize blk.got "cards" = cards
  generalize blk.got "wlans" = wlans
  -- without a list under either key there are no entries
  have hnone : (∃ e : Wfb.CardError, Except.ok (none : Option (List Wfb.Card)) = .error e ∧
      e.valueError? = none) ↔ ∃ e, Wfb.parseEntries py [] = .error e ∧ e.valueError? = none := by
    simp [Wfb.parseEntries, pure, Except.pure]
  have hcards : ∀ entries, (∃ e, some <$> Wfb.parseEntries py entries = .error e ∧
      e.valueError? = none) ↔ ∃ e, Wfb.parseEntries py entries = .error e ∧ e.valueError? = none := by
    intro entries
    cases Wfb.parseEntries py entries <;> simp [Functor.map, Except.map]
  rcases cards with _ | _ | _ | _ | _ | _ | entries | _
  case some.arr => exact hcards entries
  all_goals
    rcases wlans with _ | _ | _ | _ | _ | _ | entries | _
    case some.arr => exact localEntries_foreign
    all_goals exact hnone

theorem decides_singleRemoteHost :
    Decides (raiseFirst [validateSingleRemoteHost py blk]) ↔ PortsTyped py (cardEntries blk) := by
  rw [← not_iff_not, ← parseCards_foreign, decides_single]
  unfold validateSingleRemoteHost
  cases hparse : Wfb.parseCards py blk with
  | error e => cases hv : e.valueError? <;> simp [Raised.isSchema, hv]
  | ok parsed =>
    cases parsed with
    | none => simp
    | some cards => simpa using decides_single.mp decides_schemaErrorIf

theorem linkTail_decides : Decides (raiseFirst (linkTail py cfg)) ↔
    PortsTyped py (cardEntries (dictOf (cfg.getOr "link" (.obj [])))) := by
  show Decides (raiseFirst ([_] ++ liftChecks [_])) ↔ _
  rw [decides_append, decides_singleRemoteHost, and_iff_left_iff_imp]
  exact fun _ _ => decides_liftChecks (by simp)

theorem decides_bfCapable {bf : Option Json} : Decides (raiseFirst [validateBfCapable pl cfg bf]) ↔
    ∀ v, bf = some v → ((dictOf v).getOr "enabled" .null).truthy = true →
      ∀ e, pl.bfCapable cfg = .error e → e.isSchema = true := by
  rw [decides_single]
  cases bf with
  | none => simp [validateBfCapable]
  | some v =>
    simp only [validateBfCapable, Option.some.injEq, forall_eq']
    cases htruthy : ((dictOf v).getOr "enabled" .null).truthy with
    | false => simp
    | true =>
      cases hcap : pl.bfCapable cfg with
      | error e => simp
      | ok capable => simpa using decides_single.mp decides_schemaErrorIf

theorem linkChecks_decides : Decides (raiseFirst (linkChecks pl cfg)) ↔
    Decides (raiseFirst (validateWidth cfg ((dictOf (cfg.getOr "link" (.obj []))).got "width"))) ∧
    (Passes (linkHead cfg) →
      PortsTyped pl.py (cardEntries (dictOf (cfg.getOr "link" (.obj [])))) ∧
      (Passes (linkTail pl.py cfg) →
        ∀ v, (dictOf (cfg.getOr "link" (.obj []))).got "beamforming" = some v →
          ((dictOf v).getOr "enabled" .null).truthy = true →
          ∀ e, pl.bfCapable cfg = .error e → e.isSchema = true)) := by
  rw [linkChecks_eq, decides_append, decides_append, linkHead_decides, linkTail_decides,
    decides_bfCapable]

/-! ### The other blocks -/

theorem dynamicLinkForm_decides {dl : Json} :
    Decides (raiseFirst [dynamicLinkForm dl]) ↔ keysForm dl = true := by
  rw [decides_single]
  cases dl with
  | obj d => simp [dynamicLinkForm, keysForm]
  | str s =>
    unfold dynamicLinkForm keysForm
    by_cases hs : s = "" <;> simp [hs, Raised.isSchema]
  | arr xs =>
    simp only [dynamicLinkForm, keysForm]
    cases xs.all isHashable with
    | false => simp [Raised.isSchema]
    | true =>
      split_ifs <;> simp_all [Raised.isSchema]
  | _ => simp [dynamicLinkForm, keysForm, Raised.isSchema]

theorem passes_dynamicLinkForm {dl : Json} : Passes [dynamicLinkForm dl] ↔ ∃ d, dl = .obj d := by
  cases dl with
  | obj d => simp [dynamicLinkForm]
  | str s =>
    unfold dynamicLinkForm
    by_cases hs : s = "" <;> simp [hs]
  | arr xs =>
    simp only [dynamicLinkForm]
    split_ifs <;> simp
  | _ => simp [dynamicLinkForm]

theorem decides_lift_single {c : Option PyError} :
    Decides (raiseFirst (liftChecks [c])) ↔ SchemaCheck c := by
  show Decides (raiseFirst [c.map Raised.py]) ↔ _
  rw [decides_single]
  cases c with
  | none => simp [SchemaCheck]
  | some e => cases e <;> simp [SchemaCheck, Raised.isSchema]

theorem isSome_number_iff {ok : Json → Bool} {what name key : String} (d : ℚ)
    (hcheck : validateValue ok what name (blk.got key) = none)
    (hok : ∀ v, ok v = true → (number? v).isSome = true) :
    (number? (blk.getOr key (.real d))).isSome = true ↔ find? key blk ≠ some .null := by
  unfold Dict.got at hcheck
  unfold Dict.getOr
  cases hfind : find? key blk with
  | none => simp [number?]
  | some v =>
    cases v with
    | null => simp [number?]
    | _ =>
      rw [hfind] at hcheck
      have hv := hok _ (by simpa [validateValue] using hcheck)
      simpa using hv

theorem schemaCheck_margins : SchemaCheck (validateMargins blk) ↔
    (number? (blk.getOr "snrPromoteMarginDb" (.real 1))).isSome = true ∧
      (number? (blk.getOr "snrDemoteMarginDb" (.real (3 / 2)))).isSome = true := by
  unfold validateMargins
  cases number? (blk.getOr "snrPromoteMarginDb" (.real 1)) with
  | none => simp [SchemaCheck]
  | some pm => cases number? (blk.getOr "snrDemoteMarginDb" (.real (3 / 2))) <;> simp [SchemaCheck, raiseIf]

theorem schemaCheck_stale : SchemaCheck (validateStale blk) ↔
    (number? (blk.getOr "tunnelStaleS" (.real 4))).isSome = true ∧
      (number? (blk.getOr "httpPollS" (.real (3 / 2)))).isSome = true := by
  unfold validateStale
  cases number? (blk.getOr "tunnelStaleS" (.real 4)) with
  | none => simp [SchemaCheck]
  | some stale => cases number? (blk.getOr "httpPollS" (.real (3 / 2))) <;> simp [SchemaCheck, raiseIf]

theorem isSome_of_any {p : ℚ → Bool} {v : Json} (h : (number? v).any p = true) :
    (number? v).isSome = true := by
  cases hx : number? v with
  | none =>
    rw [hx] at h
    cases h
  | some x => rfl

theorem selector_decides {sel : Json} (hhead : Passes (selectorHead sel)) :
    SchemaCheck (validateMargins (dictOf sel)) ↔ ∀ k ∈ ["snrPromoteMarginDb", "snrDemoteMarginDb"],
      find? k (dictOf sel) ≠ some .null := by
  have hmargin : ∀ k ∈ ["snrPromoteMarginDb", "snrDemoteMarginDb"],
      validateNonNegNum ("dynamicLink.selector" ++ "." ++ k) ((dictOf sel).got k) = none := by
    intro k hk
    refine hhead _ ?_
    simp only [List.mem_cons, List.not_mem_nil, or_false] at hk
    rcases hk with rfl | rfl <;> simp [selectorHead, validateSelector, forKeys]
  rw [schemaCheck_margins, isSome_number_iff _ (hmargin _ (by simp)) (fun _ => isSome_of_any),
    isSome_number_iff _ (hmargin _ (by simp)) (fun _ => isSome_of_any)]
  simp

theorem monitor_decides {cm : Json} (hhead : Passes (monitorHead cm)) :
    SchemaCheck (validateStale (dictOf cm)) ↔ ∀ k ∈ ["tunnelStaleS", "httpPollS"],
      find? k (dictOf cm) ≠ some .null := by
  have hperiod : ∀ k ∈ ["tunnelStaleS", "httpPollS"],
      validateValue (fun v => (number? v).any fun x => 0 < x) " must be a positive number"
        ("connectionMonitor" ++ "." ++ k) ((dictOf cm).got k) = none := by
    intro k hk
    refine hhead _ ?_
    simp only [List.mem_cons, List.not_mem_nil, or_false] at hk
    rcases hk with rfl | rfl <;> simp [monitorHead, validateConnectionMonitor, forKeys]
  rw [schemaCheck_stale, isSome_number_iff _ (hperiod _ (by simp)) (fun _ => isSome_of_any),
    isSome_number_iff _ (hperiod _ (by simp)) (fun _ => isSome_of_any)]
  simp

theorem decides_comparison {head : List (Option PyError)} {c : Option PyError} {P : Prop}
    (hhead : SchemaChecks head) (h : Passes head → (SchemaCheck c ↔ P)) :
    Decides (raiseFirst (liftChecks (head ++ [c]))) ↔ (Passes head → P) := by
  rw [liftChecks_append, decides_append, passes_liftChecks, decides_lift_single,
    and_iff_right (decides_liftChecks hhead)]
  exact imp_congr_right h

theorem dynamicLinkChecks_decides {dl : Dict} :
    Decides (raiseFirst (liftChecks (dynamicLinkChecks dl))) ↔ (Passes (dynamicLinkHead dl) →
      ∀ sel, dl.got "selector" = some sel → Passes (selectorHead sel) →
        ∀ k ∈ ["snrPromoteMarginDb", "snrDemoteMarginDb"],
          find? k (dictOf sel) ≠ some .null) := by
  have hhead : SchemaChecks (dynamicLinkHead dl) := by
    unfold dynamicLinkHead
    rw [schemaChecks_append, schemaChecks_append, schemaChecks_append]
    exact ⟨⟨⟨by simp, schemaChecks_forBlock validateTap_schema⟩,
      schemaChecks_forBlock validateProbe_schema⟩, by simp⟩
  have hrest : SchemaChecks (forBlock validateSmoothing (dl.got "smoothing") ++
      (forBlock validateLearnedPrior (dl.got "learnedPrior") ++
        forBlock validateFlightlog (dl.got "flightlog"))) := by
    rw [schemaChecks_append, schemaChecks_append]
    exact ⟨schemaChecks_forBlock validateSmoothing_schema,
      schemaChecks_forBlock validateLearnedPrior_schema, schemaChecks_forBlock validateFlightlog_schema⟩
  rw [dynamicLinkChecks_eq, liftChecks_append, liftChecks_append, decides_append, decides_append,
    passes_liftChecks, and_iff_right (decides_liftChecks hhead),
    and_iff_left (fun _ => decides_liftChecks hrest)]
  refine imp_congr_right fun _ => ?_
  cases dl.got "selector" with
  | none => simp [forBlock, liftChecks, raiseFirst, Decides]
  | some sel =>
    simp only [Option.some.injEq, forall_eq']
    exact decides_comparison (selectorHead_schema sel) selector_decides

theorem dynamicLinkPart_decides : Decides (raiseFirst (dynamicLinkPart cfg)) ↔
    (∀ dl, cfg.got "dynamicLink" = some dl → keysForm dl = true) ∧
    ∀ dl : Dict, cfg.got "dynamicLink" = some (.obj dl) → Passes (dynamicLinkHead dl) →
      ∀ sel, dl.got "selector" = some sel → Passes (selectorHead sel) →
        ∀ k ∈ ["snrPromoteMarginDb", "snrDemoteMarginDb"],
          find? k (dictOf sel) ≠ some .null := by
  unfold dynamicLinkPart
  cases cfg.got "dynamicLink" with
  | none => simp [raiseFirst, Decides]
  | some dl =>
    dsimp only
    rw [decides_append, dynamicLinkForm_decides, passes_dynamicLinkForm]
    simp only [Option.some.injEq, forall_eq']
    refine and_congr_right fun _ => ⟨?_, ?_⟩
    · rintro h d rfl
      exact dynamicLinkChecks_decides.mp (h ⟨d, rfl⟩)
    · rintro h ⟨d, rfl⟩
      exact dynamicLinkChecks_decides.mpr (h d rfl)

theorem pixelpilotPart_decides : Decides (raiseFirst (pixelpilotPart cfg)) ↔
    ∀ pp, cfg.got "pixelpilot" = some pp → pp.isObject = true := by
  unfold pixelpilotPart
  cases cfg.got "pixelpilot" with
  | none => simp [raiseFirst, Decides]
  | some pp =>
    simp only [Option.some.injEq, forall_eq', validatePixelpilot]
    rw [decides_append, decides_hasGet, and_iff_left_iff_imp]
    exact fun _ _ => decides_liftChecks (by simp [forKeys])

theorem idrForwardPart_decides : Decides (raiseFirst (idrForwardPart cfg)) ↔
    ∀ idr, cfg.got "idrForward" = some idr → idr.isObject = true := by
  unfold idrForwardPart
  cases cfg.got "idrForward" with
  | none => simp [raiseFirst, Decides]
  | some idr =>
    simp only [Option.some.injEq, forall_eq']
    show Decides (raiseFirst ([_] ++ ([_] ++ [_]))) ↔ _
    rw [decides_append, decides_append, decides_hasGet, and_iff_left_iff_imp]
    exact fun _ _ => ⟨decides_schemaErrorIf, fun _ => decides_schemaErrorIf⟩

theorem monitorPart_decides {v : Option Json} :
    Decides (raiseFirst (liftChecks (forBlock validateConnectionMonitor v))) ↔
      ∀ cm, v = some cm → Passes (monitorHead cm) → ∀ k ∈ ["tunnelStaleS", "httpPollS"],
        find? k (dictOf cm) ≠ some .null := by
  cases v with
  | none => simp [forBlock, liftChecks, raiseFirst, Decides]
  | some cm =>
    simp only [Option.some.injEq, forall_eq']
    exact decides_comparison (monitorHead_schema cm) monitor_decides

theorem decides_iff_typed : Decides (validateEffective pl cfg) ↔ Typed pl cfg := by
  have hlast : Decides (raiseFirst (liftChecks (forBlock validateDrone (cfg.got "drone") ++
      forBlock (validateWfb pl.isDigit) (cfg.got "wfb")))) :=
    decides_liftChecks (schemaChecks_append.mpr ⟨schemaChecks_forBlock validateDrone_schema,
      schemaChecks_forBlock (validateWfb_schema pl.isDigit)⟩)
  rw [validateEffective, effectiveChecks_eq, decides_append, decides_append, decides_append,
    decides_append, decides_append, decides_append, decides_hasGet, linkChecks_decides, decides_width,
    dynamicLinkPart_decides, pixelpilotPart_decides, idrForwardPart_decides, monitorPart_decides]
  constructor
  · rintro ⟨hlink, h⟩
    obtain ⟨⟨hwidth, hcards⟩, h⟩ := h (by simp [hasGet, hlink])
    exact {
      link := hlink
      width := fun w hw => (hwidth w hw).1
      narrow := fun w hw => (hwidth w hw).2
      ports := fun h1 => (hcards h1).1
      driver := fun h1 h2 => (hcards h1).2 h2
      dynamicLink := fun h1 => (h h1).1.1
      margins := fun h1 => (h h1).1.2
      pixelpilot := fun h1 h2 => ((h h1).2 h2).1
      idrForward := fun h1 h2 h3 => (((h h1).2 h2).2 h3).1
      periods := fun h1 h2 h3 h4 => ((((h h1).2 h2).2 h3).2 h4).1 }
  · intro t
    exact ⟨t.link, fun _ => ⟨⟨fun w hw => ⟨t.width w hw, t.narrow w hw⟩,
      fun h1 => ⟨t.ports h1, t.driver h1⟩⟩, fun h1 => ⟨⟨t.dynamicLink h1, t.margins h1⟩,
      fun h2 => ⟨t.pixelpilot h1 h2, fun h3 => ⟨t.idrForward h1 h2 h3,
        fun h4 => ⟨t.periods h1 h2 h3 h4, fun _ => hlast⟩⟩⟩⟩⟩⟩

end Segments

end Fpvd.Gs
