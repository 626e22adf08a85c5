import Fpvd.Gs.Policy

/-!
# Fpvd.Gs.Schema — the `dynamicLink` block and the policy built from it

`validateDynamicLink` is `_validate_dynamic_link` (`gs/fpvdgs/schema.py`), `buildPolicyConfig` is
`build_policy_config` (`gs/fpvdgs/dynlink/config_build.py`).  An absent key and a `null` are the same
to most checks, but the builder reads a `null` as a value and raises.
-/

namespace Fpvd.Gs

inductive PyError where
  | schemaError (message : String)
  | typeError
  | valueError
  | overflowError
  deriving DecidableEq, Repr

abbrev Dict := List (String × Json)

namespace Dict

/-- `blk.get(key)`; `none` is Python's `None`, for an absent key and for a `null`. -/
def got (blk : Dict) (key : String) : Option Json :=
  match AssocMap.find? key blk with
  | some .null => none
  | v => v

def getOr (blk : Dict) (key : String) (default : Json) : Json := (AssocMap.find? key blk).getD default

end Dict

def dictOf : Json → Dict
  | .obj members => members
  | _ => []

def number? : Json → Option ℚ
  | .int i => some i
  | .real q => some q
  | _ => none

def isBool : Json → Bool
  | .bool _ => true
  | _ => false

def isIntIn (lo hi : ℤ) : Json → Bool
  | .int i => lo ≤ i ∧ i ≤ hi
  | _ => false

/-! ## `schema.py` -/

section Validate

def dynamicLinkKeys : List String :=
  ["enabled", "maxMcs", "dronePort", "selector", "smoothing", "flightlog", "learnedPrior", "tap",
    "probe"]

def selectorKeys : List String :=
  ["videoDemotePer", "emergencyFecPressure", "holdModesDownMs", "minBetweenChangesMs",
    "starvationWindows", "snrPromoteMarginDb", "snrDemoteMarginDb", "flapBaseBackoffMs",
    "flapBackoffMult", "flapBackoffCapMs", "flapResetCleanDwellTicks", "trialWindowMs",
    "promoteDwellTicks", "promoteSlopeMin", "collapseDeltaDb", "snapbackRecoverMarginDb",
    "confirmTtlMs", "flapSnrReleaseDb", "flapDecayMs"]

def smoothingKeys : List String :=
  ["ewmaAlphaRssi", "ewmaAlphaFec", "ewmaAlphaBurst", "starvationThresholdPps"]

def learnedPriorKeys : List String :=
  ["settleTicks", "viableLoss", "alphaTighten", "alphaRelax", "minSamples", "recencyDecay"]

def tapKeys : List String := ["enabled", "port", "staleMs", "captureRaw"]

def probeKeys : List String := ["enabled"]

def raiseIf (bad : Bool) (message : String) : Option PyError :=
  if bad then some (.schemaError message) else none

def pyList (xs : List String) : String :=
  "[" ++ ", ".intercalate (xs.map fun x => "'" ++ x ++ "'") ++ "]"

def unknownKeys (name : String) (known : List String) (blk : Dict) : Option PyError :=
  let unknown := (AssocMap.keys blk).filter (· ∉ known)
  raiseIf (unknown ≠ []) ("unknown " ++ name ++ " keys: " ++ pyList (unknown.insertionSort (· ≤ ·)))

def validateBlockKeys (name : String) (known : List String) (blk : Json) : List (Option PyError) :=
  [raiseIf (¬ blk.isObject) (name ++ " must be an object"), unknownKeys name known (dictOf blk)]

def validateValue (ok : Json → Bool) (what name : String) : Option Json → Option PyError
  | none => none
  | some v => raiseIf (¬ ok v) (name ++ what)

def validateProb : String → Option Json → Option PyError :=
  validateValue (fun v => (number? v).any fun x => 0 ≤ x ∧ x ≤ 1) " must be a number in 0..1"

def validateAlpha : String → Option Json → Option PyError :=
  validateValue (fun v => (number? v).any fun x => 0 < x ∧ x ≤ 1) " must be a number in (0,1]"

def isPosInt : Json → Bool
  | .int i => 0 < i
  | _ => false

def validatePosInt : String → Option Json → Option PyError :=
  validateValue isPosInt " must be a positive int"

def validateNonNegNum : String → Option Json → Option PyError :=
  validateValue (fun v => (number? v).any fun x => 0 ≤ x) " must be a non-negative number"

def forKeys (check : String → Option Json → Option PyError) (name : String) (blk : Dict)
    (keys : List String) : List (Option PyError) :=
  keys.map fun k => check (name ++ "." ++ k) (blk.got k)

def validateTap (tap : Json) : List (Option PyError) :=
  let blk := dictOf tap
  [raiseIf (¬ tap.isObject) "dynamicLink.tap must be an object",
    unknownKeys "dynamicLink.tap" tapKeys blk,
    raiseIf (¬ isBool (blk.getOr "enabled" (.bool true))) "dynamicLink.tap.enabled must be a bool",
    raiseIf (¬ isBool (blk.getOr "captureRaw" (.bool false)))
      "dynamicLink.tap.captureRaw must be a bool",
    raiseIf (¬ isIntIn 1024 65535 (blk.getOr "port" (.int 8110)))
      "dynamicLink.tap.port must be an int in 1024..65535",
    raiseIf (¬ (number? (blk.getOr "staleMs" (.int 500))).any fun x => 0 < x)
      "dynamicLink.tap.staleMs must be > 0"]

def validateProbe (probe : Json) : List (Option PyError) :=
  let blk := dictOf probe
  [raiseIf (¬ probe.isObject) "dynamicLink.probe must be an object",
    unknownKeys "dynamicLink.probe" probeKeys blk,
    raiseIf (¬ isBool (blk.getOr "enabled" (.bool true))) "dynamicLink.probe.enabled must be a bool"]

/-- The dead band: the demote margin exceeds the promote margin.  A `null` cannot be compared. -/
def validateMargins (blk : Dict) : Option PyError :=
  match number? (blk.getOr "snrPromoteMarginDb" (.real 1)),
      number? (blk.getOr "snrDemoteMarginDb" (.real (3 / 2))) with
  | some pm, some dm =>
    raiseIf (dm ≤ pm)
      "dynamicLink.selector.snrDemoteMarginDb must be > snrPromoteMarginDb (hysteresis dead-band)"
  | _, _ => some .typeError

def validateSelector (sel : Json) : List (Option PyError) :=
  let blk := dictOf sel
  let name := "dynamicLink.selector"
  validateBlockKeys name selectorKeys sel ++
  forKeys validateProb name blk ["videoDemotePer", "emergencyFecPressure"] ++
  forKeys validatePosInt name blk ["starvationWindows", "promoteDwellTicks"] ++
  forKeys validateNonNegNum name blk
    ["holdModesDownMs", "minBetweenChangesMs", "snrPromoteMarginDb", "snrDemoteMarginDb",
      "trialWindowMs", "collapseDeltaDb", "snapbackRecoverMarginDb", "confirmTtlMs",
      "flapSnrReleaseDb", "flapDecayMs"] ++
  [validateValue (fun v => (number? v).isSome) " must be a number" (name ++ ".promoteSlopeMin")
    (blk.got "promoteSlopeMin"), validateMargins blk]

def validateSmoothing (sm : Json) : List (Option PyError) :=
  let blk := dictOf sm
  let name := "dynamicLink.smoothing"
  validateBlockKeys name smoothingKeys sm ++
  forKeys validateAlpha name blk ["ewmaAlphaRssi", "ewmaAlphaFec", "ewmaAlphaBurst"] ++
  forKeys validateNonNegNum name blk ["starvationThresholdPps"]

def validateLearnedPrior (lp : Json) : List (Option PyError) :=
  let blk := dictOf lp
  let name := "dynamicLink.learnedPrior"
  validateBlockKeys name learnedPriorKeys lp ++
  forKeys validatePosInt name blk ["settleTicks"] ++
  forKeys validateNonNegNum name blk ["minSamples"] ++
  forKeys validateProb name blk ["viableLoss"] ++
  forKeys validateAlpha name blk ["alphaTighten", "alphaRelax", "recencyDecay"]

def validateFlightlog (fl : Json) : List (Option PyError) :=
  validateBlockKeys "dynamicLink.flightlog" ["enabled"] fl ++
  [raiseIf (¬ isBool ((dictOf fl).getOr "enabled" (.bool true)))
    "dynamicLink.flightlog.enabled must be a bool"]

def forBlock (check : Json → List (Option PyError)) : Option Json → List (Option PyError)
  | none => []
  | some blk => check blk

def dynamicLinkChecks (dl : Dict) : List (Option PyError) :=
  [unknownKeys "dynamicLink" dynamicLinkKeys dl,
    raiseIf (¬ isIntIn 0 7 (dl.getOr "maxMcs" (.int 5))) "dynamicLink.maxMcs must be an int in 0..7",
    raiseIf (¬ isIntIn 1 65535 (dl.getOr "dronePort" (.int 9999)))
      "dynamicLink.dronePort must be an int in 1..65535"] ++
  forBlock validateTap (dl.got "tap") ++
  forBlock validateProbe (dl.got "probe") ++
  [raiseIf (¬ isBool (dl.getOr "enabled" (.bool false))) "dynamicLink.enabled must be a bool"] ++
  forBlock validateSelector (dl.got "selector") ++
  forBlock validateSmoothing (dl.got "smoothing") ++
  forBlock validateLearnedPrior (dl.got "learnedPrior") ++
  forBlock validateFlightlog (dl.got "flightlog")

def validateDynamicLink (dl : Dict) : Except PyError Unit :=
  match (dynamicLinkChecks dl).findSome? id with
  | some e => .error e
  | none => .ok ()

end Validate

/-! ## `config_build.py` -/

section Build

def overflows (x : ℚ) : Bool := 2 ^ 1024 - 2 ^ 970 ≤ |x|

/-- What `float` and `int` read from a text; `none` where they raise. -/
structure PyNumbers where
  float : String → Option ℚ
  int : String → Option ℤ

variable (py : PyNumbers)

def PyNumbers.toFloat : Json → Except PyError ℚ
  | .int i => if overflows i then .error .overflowError else .ok i
  | .real q => .ok q
  | .bool b => .ok (if b then 1 else 0)
  | .str s => match py.float s with
    | some q => .ok q
    | none => .error .valueError
  | _ => .error .typeError

def PyNumbers.toInt : Json → Except PyError ℤ
  | .int i => .ok i
  | .real q => .ok (Json.trunc q)
  | .bool b => .ok (if b then 1 else 0)
  | .str s => match py.int s with
    | some i => .ok i
    | none => .error .valueError
  | _ => .error .typeError

def Dict.read {α : Type} (conv : Json → Except PyError α) (blk : Dict) (key : String) (default : α) :
    Except PyError α :=
  match AssocMap.find? key blk with
  | none => .ok default
  | some v => conv v

def Dict.float : Dict → String → ℚ → Except PyError ℚ := Dict.read py.toFloat

def Dict.int : Dict → String → ℤ → Except PyError ℤ := Dict.read py.toInt

def buildSelector (block sel : Dict) : Except PyError SelectorConfig := do
  let d : SelectorConfig := {}
  let videoDemotePer ← Dict.float py sel "videoDemotePer" d.videoDemotePer
  let emergencyFecPressure ← Dict.float py sel "emergencyFecPressure" d.emergencyFecPressure
  let maxMcs ← Dict.int py block "maxMcs" d.maxMcs
  let holdModesDownMs ← Dict.int py sel "holdModesDownMs" d.holdModesDownMs
  let minBetweenChangesMs ← Dict.int py sel "minBetweenChangesMs" d.minBetweenChangesMs
  let starvationWindows ← Dict.int py sel "starvationWindows" d.starvationWindows
  let snrPromoteMarginDb ← Dict.float py sel "snrPromoteMarginDb" d.snrPromoteMarginDb
  let snrDemoteMarginDb ← Dict.float py sel "snrDemoteMarginDb" d.snrDemoteMarginDb
  let demoteCooldownWindows ← Dict.int py sel "demoteCooldownWindows" d.demoteCooldownWindows
  let flapBaseBackoffMs ← Dict.int py sel "flapBaseBackoffMs" d.flapBaseBackoffMs
  let flapBackoffMult ← Dict.float py sel "flapBackoffMult" d.flapBackoffMult
  let flapBackoffCapMs ← Dict.int py sel "flapBackoffCapMs" d.flapBackoffCapMs
  let flapResetCleanDwellTicks ← Dict.int py sel "flapResetCleanDwellTicks" d.flapResetCleanDwellTicks
  let trialWindowMs ← Dict.int py sel "trialWindowMs" d.trialWindowMs
  let promoteDwellTicks ← Dict.int py sel "promoteDwellTicks" d.promoteDwellTicks
  let promoteSlopeMin ← Dict.float py sel "promoteSlopeMin" d.promoteSlopeMin
  let collapseDeltaDb ← Dict.float py sel "collapseDeltaDb" d.collapseDeltaDb
  let snapbackRecoverMarginDb ← Dict.float py sel "snapbackRecoverMarginDb" d.snapbackRecoverMarginDb
  let confirmTtlMs ← Dict.int py sel "confirmTtlMs" d.confirmTtlMs
  let flapSnrReleaseDb ← Dict.float py sel "flapSnrReleaseDb" d.flapSnrReleaseDb
  let flapDecayMs ← Dict.int py sel "flapDecayMs" d.flapDecayMs
  return {
    videoDemotePer, emergencyFecPressure, maxMcs, holdModesDownMs, minBetweenChangesMs,
    starvationWindows, snrPromoteMarginDb, snrDemoteMarginDb, demoteCooldownWindows,
    flapBaseBackoffMs, flapBackoffMult, flapBackoffCapMs, flapResetCleanDwellTicks, trialWindowMs,
    promoteDwellTicks, promoteSlopeMin, collapseDeltaDb, snapbackRecoverMarginDb, confirmTtlMs,
    flapSnrReleaseDb, flapDecayMs }

def buildLearnedPrior (lp : Dict) : Except PyError LearnedPriorConfig := do
  let d : LearnedPriorConfig := {}
  let settleTicks ← Dict.int py lp "settleTicks" d.settleTicks
  let viableLoss ← Dict.float py lp "viableLoss" d.viableLoss
  let alphaTighten ← Dict.float py lp "alphaTighten" d.alphaTighten
  let alphaRelax ← Dict.float py lp "alphaRelax" d.alphaRelax
  let minSamples ← Dict.float py lp "minSamples" d.minSamples
  let recencyDecay ← Dict.float py lp "recencyDecay" d.recencyDecay
  return { settleTicks, viableLoss, alphaTighten, alphaRelax, minSamples, recencyDecay }

def Dict.sub (block : Dict) (key : String) : Dict := ((block.got key).map dictOf).getD []

def buildPolicyConfig (block : Dict) : Except PyError PolicyConfig := do
  let selector ← buildSelector py block (block.sub "selector")
  let learnedPrior ← buildLearnedPrior py (block.sub "learnedPrior")
  return { selector, learnedPrior }

end Build

/-! ## What an accepted block builds -/

structure SchemaValid (cfg : PolicyConfig) : Prop where
  maxMcs : 0 ≤ cfg.selector.maxMcs ∧ cfg.selector.maxMcs ≤ maxMcs
  starvationWindows : 0 < cfg.selector.starvationWindows
  promoteMargin : 0 ≤ cfg.selector.snrPromoteMarginDb
  deadBand : cfg.selector.snrPromoteMarginDb < cfg.selector.snrDemoteMarginDb
  settleTicks : 0 < cfg.learnedPrior.settleTicks
  minSamples : 0 ≤ cfg.learnedPrior.minSamples
  alphaRelax : 0 < cfg.learnedPrior.alphaRelax
  recencyDecay : 0 < cfg.learnedPrior.recencyDecay
  minDrop : 0 < cfg.learnedPrior.predictiveMinDropDb

section Accepted

variable {py : PyNumbers} {dl blk : Dict} {key name : String}

@[simp] theorem raiseIf_eq_none {bad : Bool} {message : String} :
    raiseIf bad message = none ↔ bad = false := by
  cases bad <;> simp [raiseIf]

theorem read_of_check {α : Type} {conv : Json → Except PyError α} {ok : Json → Bool} {what : String}
    {P : α → Prop} {d a : α} (hcheck : validateValue ok what name (blk.got key) = none)
    (hread : blk.read conv key d = .ok a) (hnull : conv .null ≠ .ok a) (hd : P d)
    (hok : ∀ v, ok v = true → conv v = .ok a → P a) : P a := by
  unfold Dict.read at hread
  unfold Dict.got at hcheck
  cases hfind : AssocMap.find? key blk with
  | none =>
    rw [hfind] at hread
    cases hread
    exact hd
  | some v =>
    rw [hfind] at hread hcheck
    cases v with
    | null => exact absurd hread hnull
    | _ =>
      refine hok _ ?_ hread
      simpa [validateValue] using hcheck

theorem toFloat_of_number {v : Json} {x q : ℚ} (hx : number? v = some x) (hq : py.toFloat v = .ok q) :
    x = q := by
  cases v with
  | int i =>
    simp only [PyNumbers.toFloat] at hq
    split_ifs at hq
    exact (Option.some.inj hx).symm.trans (Except.ok.inj hq)
  | real r => exact (Option.some.inj hx).symm.trans (Except.ok.inj hq)
  | _ => cases hx

theorem posInt_read {d i : ℤ} (hcheck : validatePosInt name (blk.got key) = none)
    (hread : Dict.int py blk key d = .ok i) (hd : 0 < d) : 0 < i := by
  refine read_of_check hcheck hread nofun hd fun v hv hi => ?_
  cases v with
  | int j =>
    obtain rfl := Except.ok.inj hi
    exact of_decide_eq_true hv
  | _ => cases hv

theorem float_read {P : ℚ → Prop} [DecidablePred P] {what : String} {d q : ℚ}
    (hcheck : validateValue (fun v => (number? v).any fun x => P x) what name (blk.got key) = none)
    (hread : Dict.float py blk key d = .ok q) (hd : P d) : P q := by
  refine read_of_check hcheck hread nofun hd fun v hv hq => ?_
  cases hx : number? v with
  | none =>
    rw [hx] at hv
    cases hv
  | some x =>
    rw [hx] at hv
    obtain rfl := toFloat_of_number hx hq
    exact of_decide_eq_true hv

theorem checks_pass (h : validateDynamicLink dl = .ok ()) : ∀ c ∈ dynamicLinkChecks dl, c = none := by
  unfold validateDynamicLink at h
  cases hfind : (dynamicLinkChecks dl).findSome? id with
  | some e =>
    rw [hfind] at h
    cases h
  | none => exact List.findSome?_eq_none_iff.mp hfind

theorem sub_check {check : Json → List (Option PyError)} {c : Dict → Option PyError}
    (h : ∀ x ∈ forBlock check (dl.got key), x = none) (hmem : ∀ j, c (dictOf j) ∈ check j)
    (hnil : c [] = none) : c (dl.sub key) = none := by
  unfold Dict.sub
  cases hgot : dl.got key with
  | none => exact hnil
  | some j =>
    rw [hgot] at h
    exact h _ (hmem j)

theorem margins_read {pm dm : ℚ} (hcheck : validateMargins blk = none)
    (hpm : Dict.float py blk "snrPromoteMarginDb" 1 = .ok pm)
    (hdm : Dict.float py blk "snrDemoteMarginDb" (3 / 2) = .ok dm) : pm < dm := by
  have hread : ∀ {key d x q}, number? (blk.getOr key (.real d)) = some x →
      Dict.float py blk key d = .ok q → x = q := by
    intro key d x q hx hq
    unfold Dict.getOr at hx
    unfold Dict.float Dict.read at hq
    cases hfind : AssocMap.find? key blk with
    | none =>
      rw [hfind] at hx hq
      exact (Option.some.inj hx).symm.trans (Except.ok.inj hq)
    | some v =>
      rw [hfind] at hx hq
      exact toFloat_of_number hx hq
  unfold validateMargins at hcheck
  split at hcheck
  case h_1 x y hx hy =>
    obtain rfl := hread hx hpm
    obtain rfl := hread hy hdm
    simpa using hcheck
  case h_2 => cases hcheck

theorem maxMcs_read {m : ℤ} (hcheck : isIntIn 0 7 (dl.getOr "maxMcs" (.int 5)) = true)
    (hread : Dict.int py dl "maxMcs" 7 = .ok m) : 0 ≤ m ∧ m ≤ 7 := by
  unfold Dict.getOr at hcheck
  unfold Dict.int Dict.read at hread
  cases hfind : AssocMap.find? "maxMcs" dl with
  | none =>
    rw [hfind] at hread
    obtain rfl := Except.ok.inj hread
    decide
  | some v =>
    rw [hfind] at hread hcheck
    cases v with
    | int i =>
      obtain rfl := Except.ok.inj hread
      exact of_decide_eq_true hcheck
    | _ => cases hcheck

theorem valid_parts (h : validateDynamicLink dl = .ok ()) :
    isIntIn 0 7 (dl.getOr "maxMcs" (.int 5)) = true ∧
      (∀ c ∈ forBlock validateSelector (dl.got "selector"), c = none) ∧
      ∀ c ∈ forBlock validateLearnedPrior (dl.got "learnedPrior"), c = none := by
  have hall := checks_pass h
  refine ⟨?_, fun c hc => hall c ?_, fun c hc => hall c ?_⟩
  · have hmax := hall (raiseIf (¬ isIntIn 0 7 (dl.getOr "maxMcs" (.int 5)))
      "dynamicLink.maxMcs must be an int in 0..7") (by simp [dynamicLinkChecks])
    simpa using hmax
  · simp only [dynamicLinkChecks, List.mem_append]
    tauto
  · simp only [dynamicLinkChecks, List.mem_append]
    tauto

theorem selector_valid {sel : SelectorConfig} (h : validateDynamicLink dl = .ok ())
    (hb : buildSelector py dl (dl.sub "selector") = .ok sel) :
    (0 ≤ sel.maxMcs ∧ sel.maxMcs ≤ 7) ∧ 0 < sel.starvationWindows ∧ 0 ≤ sel.snrPromoteMarginDb ∧
      sel.snrPromoteMarginDb < sel.snrDemoteMarginDb := by
  obtain ⟨hmax, hsel, -⟩ := valid_parts h
  simp only [buildSelector, Json.bind_eq_ok, Json.pure_eq_ok] at hb
  obtain ⟨-, -, -, -, m, hm, -, -, -, -, w, hw, pm, hpm, dm, hdm, -, -, -, -, -, -, -, -, -, -, -, -,
    -, -, -, -, -, -, -, -, -, -, -, -, -, -, rfl⟩ := hb
  refine ⟨maxMcs_read hmax hm, ?_, ?_, ?_⟩
  · refine posInt_read (sub_check (c := fun blk => validatePosInt
      ("dynamicLink.selector" ++ "." ++ "starvationWindows") (blk.got "starvationWindows"))
      hsel (fun j => ?_) rfl) hw (by decide)
    simp [validateSelector, forKeys]
  · refine float_read (sub_check (c := fun blk => validateNonNegNum
      ("dynamicLink.selector" ++ "." ++ "snrPromoteMarginDb") (blk.got "snrPromoteMarginDb"))
      hsel (fun j => ?_) rfl) hpm (by decide)
    simp [validateSelector, forKeys]
  · refine margins_read (sub_check hsel (fun j => ?_) (by decide +kernel)) hpm hdm
    simp [validateSelector]

theorem learnedPrior_valid {lp : LearnedPriorConfig} (h : validateDynamicLink dl = .ok ())
    (hb : buildLearnedPrior py (dl.sub "learnedPrior") = .ok lp) :
    0 < lp.settleTicks ∧ 0 ≤ lp.minSamples ∧ 0 < lp.alphaRelax ∧ 0 < lp.recencyDecay ∧
      lp.predictiveMinDropDb = 1 := by
  obtain ⟨-, -, hlp⟩ := valid_parts h
  simp only [buildLearnedPrior, Json.bind_eq_ok, Json.pure_eq_ok] at hb
  obtain ⟨t, ht, -, -, -, -, a, ha, m, hm, r, hr, rfl⟩ := hb
  refine ⟨?_, ?_, ?_, ?_, rfl⟩
  · refine posInt_read (sub_check (c := fun blk => validatePosInt
      ("dynamicLink.learnedPrior" ++ "." ++ "settleTicks") (blk.got "settleTicks"))
      hlp (fun j => ?_) rfl) ht (by decide)
    simp [validateLearnedPrior, forKeys]
  · refine float_read (sub_check (c := fun blk => validateNonNegNum
      ("dynamicLink.learnedPrior" ++ "." ++ "minSamples") (blk.got "minSamples"))
      hlp (fun j => ?_) rfl) hm (by decide)
    simp [validateLearnedPrior, forKeys]
  · refine (float_read (sub_check (c := fun blk => validateAlpha
      ("dynamicLink.learnedPrior" ++ "." ++ "alphaRelax") (blk.got "alphaRelax"))
      hlp (fun j => ?_) rfl) ha (by decide +kernel)).1
    simp [validateLearnedPrior, forKeys]
  · refine (float_read (sub_check (c := fun blk => validateAlpha
      ("dynamicLink.learnedPrior" ++ "." ++ "recencyDecay") (blk.got "recencyDecay"))
      hlp (fun j => ?_) rfl) hr (by decide +kernel)).1
    simp [validateLearnedPrior, forKeys]

theorem schemaValid_of_build {cfg : PolicyConfig} (h : validateDynamicLink dl = .ok ())
    (hb : buildPolicyConfig py dl = .ok cfg) : SchemaValid cfg := by
  simp only [buildPolicyConfig, Json.bind_eq_ok, Json.pure_eq_ok] at hb
  obtain ⟨sel, hsel, lp, hlp, rfl⟩ := hb
  obtain ⟨hmax, hstarve, hpm, hband⟩ := selector_valid h hsel
  obtain ⟨hsettle, hmin, hrelax, hdecay, hdrop⟩ := learnedPrior_valid h hlp
  exact ⟨hmax, hstarve, hpm, hband, hsettle, hmin, hrelax, hdecay, by rw [hdrop]; decide⟩

end Accepted

end Fpvd.Gs
