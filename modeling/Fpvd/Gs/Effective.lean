import Fpvd.Wfb.Cards

/-!
# Fpvd.Gs.Effective — the checks of a ground-station configuration (`gs/fpvdgs/schema.py`)

`validateConfigPatch` is the check of a `PATCH /gs/config`, `validateEffective` the one before a
configuration is applied.  Both raise the first check of a list that fails, in the order of the
source; a check that would call `.get` on something that is not an object fails with the
`AttributeError` of that call.
-/

namespace Fpvd.Gs

inductive Raised where
  | py (e : PyError)
  | attributeError
  | osError
  | keyError
  deriving DecidableEq, Repr

/-- What the checks ask of their surroundings: Python's readers of texts, and the driver. -/
structure Platform where
  py : PyNumbers
  /-- `str.isdigit` -/
  isDigit : String → Bool
  /-- `_bf_capable(cfg)` -/
  bfCapable : Dict → Except Raised Bool

def plainPlatform : Platform where
  py := ⟨fun _ => none, fun _ => none⟩
  isDigit s := s ≠ "" && s.toList.all Char.isDigit
  bfCapable _ := .ok true

def liftChecks (checks : List (Option PyError)) : List (Option Raised) :=
  checks.map (Option.map Raised.py)

def schemaErrorIf (bad : Bool) (message : String) : Option Raised := (raiseIf bad message).map .py

def hasGet (v : Json) : Option Raised := if v.isObject then none else some .attributeError

def raiseFirst (checks : List (Option Raised)) : Except Raised Unit :=
  match checks.findSome? id with
  | some e => .error e
  | none => .ok ()

theorem raiseFirst_ok {checks : List (Option Raised)} :
    raiseFirst checks = .ok () ↔ ∀ c ∈ checks, c = none := by
  have hnone : checks.findSome? id = none ↔ ∀ c ∈ checks, c = none := List.findSome?_eq_none_iff
  rw [← hnone, raiseFirst]
  cases checks.findSome? id <;> simp

theorem exists_ok {α : Type} {x : Except Raised α} {P : α → Prop} [DecidablePred P]
    (h : (match x with | .ok a => decide (P a) | .error _ => false) = true) :
    ∃ a, x = .ok a ∧ P a := by
  cases x with
  | ok a => exact ⟨a, rfl, of_decide_eq_true h⟩
  | error e => cases h

def Passes {ε : Type} (checks : List (Option ε)) : Prop := ∀ c ∈ checks, c = none

instance {ε : Type} (checks : List (Option ε)) : Decidable (Passes checks) :=
  inferInstanceAs (Decidable (∀ c ∈ checks, c = none))

section Passes

variable {ε : Type} {c : Option ε} {a b : List (Option ε)}

@[simp] theorem passes_nil : Passes ([] : List (Option ε)) := nofun

@[simp] theorem passes_cons : Passes (c :: a) ↔ c = none ∧ Passes a := List.forall_mem_cons

@[simp] theorem passes_append : Passes (a ++ b) ↔ Passes a ∧ Passes b := List.forall_mem_append

theorem unknownKeys_eq_none {name : String} {known : List String} {blk : Dict} :
    unknownKeys name known blk = none ↔ ∀ k ∈ AssocMap.keys blk, k ∈ known := by
  simp [unknownKeys, List.filter_eq_nil_iff]

@[simp] theorem passes_liftChecks {checks : List (Option PyError)} :
    Passes (liftChecks checks) ↔ Passes checks := by
  unfold Passes liftChecks
  simp

end Passes

/-! ## `validate_config_patch` -/

def linkKeys : List String :=
  ["channel", "width", "txPowerDbm", "region", "linkId", "beamforming", "cards", "serverAddress",
    "wlans", "videoEncryption"]

def configTopKeys : List String :=
  ["link", "wfb", "drone", "dynamicLink", "pixelpilot", "idrForward", "connectionMonitor"]

def droneKeys : List String := ["host", "apiPort"]

def validateConfigPatch (sparse : Dict) : Except Raised Unit :=
  raiseFirst (liftChecks (
    [unknownKeys "config" configTopKeys sparse] ++
    forBlock (validateBlockKeys "link" linkKeys) (sparse.got "link") ++
    forBlock (validateBlockKeys "dynamicLink" dynamicLinkKeys) (sparse.got "dynamicLink") ++
    forBlock (validateBlockKeys "drone" droneKeys) (sparse.got "drone")))

/-! ## The blocks of `validate_effective` -/

def isStr : Json → Bool
  | .str _ => true
  | _ => false

def isNonEmptyStr : Json → Bool
  | .str s => s ≠ ""
  | _ => false

def isStrList : Json → Bool
  | .arr xs => xs.all isStr
  | _ => false

def isStrMap : Json → Bool
  | .obj ms => ms.all fun e => isStr e.2
  | _ => false

def validateDrone (dr : Json) : List (Option PyError) :=
  let blk := dictOf dr
  [raiseIf (¬ dr.isObject) "drone must be an object",
    raiseIf (¬ isNonEmptyStr (blk.getOr "host" (.str "10.5.0.10")))
      "drone.host must be a non-empty string",
    raiseIf (¬ isIntIn 1 65535 (blk.getOr "apiPort" (.int 8080)))
      "drone.apiPort must be an int in 1..65535"]

def partition (sep : List Char) : List Char → Option (List Char × List Char)
  | [] => if sep = [] then some ([], []) else none
  | c :: cs =>
    if sep.isPrefixOf (c :: cs) then some ([], (c :: cs).drop sep.length)
    else (partition sep cs).map fun (before, after) => (c :: before, after)

def rpartition (sep : Char) (cs : List Char) : Option (List Char × List Char) :=
  (partition [sep] cs.reverse).map fun (after, before) => (before.reverse, after.reverse)

def txSelectorKeys : List String := ["rssiDeltaDb", "counterRelDelta", "counterAbsDelta"]

def isPeer (isDigit : String → Bool) (s : String) : Bool :=
  match partition "://".toList s.toList with
  | none => false
  | some (scheme, rest) =>
    match rpartition ':' rest with
    | none => false
    | some (host, port) =>
      String.ofList scheme ∈ ["connect", "listen"] && host ≠ [] && isDigit (String.ofList port)

def validateMavlinkPeer (isDigit : String → Bool) (name : String) : Option Json → List (Option PyError)
  | some (.str s) =>
    [raiseIf (s = "") (name ++ " must be a non-empty string"),
      raiseIf (¬ isPeer isDigit s) (name ++ " must match connect://host:port or listen://host:port")]
  | _ => [raiseIf true (name ++ " must be a non-empty string")]

def validateWfb (isDigit : String → Bool) (wfb : Json) : List (Option PyError) :=
  let txSelector := fun (txsel : Json) =>
    let blk := dictOf txsel
    validateBlockKeys "wfb.txSelector" txSelectorKeys txsel ++
    [validateNonNegNum "wfb.txSelector.rssiDeltaDb" (blk.got "rssiDeltaDb"),
      validateProb "wfb.txSelector.counterRelDelta" (blk.got "counterRelDelta"),
      validateValue (fun v => match v with | .int i => 0 ≤ i | _ => false)
        " must be a non-negative int" "wfb.txSelector.counterAbsDelta" (blk.got "counterAbsDelta")]
  let mavlink := fun (mav : Json) =>
    raiseIf (¬ mav.isObject) "wfb.mavlink must be an object" ::
      validateMavlinkPeer isDigit "wfb.mavlink.peer" ((dictOf mav).got "peer")
  [raiseIf (¬ wfb.isObject) "wfb must be an object"] ++
  forBlock txSelector ((dictOf wfb).got "txSelector") ++
  forBlock mavlink ((dictOf wfb).got "mavlink")

def validateBeamforming (bf : Json) : List (Option PyError) :=
  validateBlockKeys "link.beamforming" ["enabled"] bf ++
  [raiseIf (¬ isBool ((dictOf bf).getOr "enabled" (.bool false)))
    "link.beamforming.enabled must be a bool"]

def cardKeys : List String :=
  ["host", "iface", "sshUser", "sshPort", "sshKey", "txPowerDbm", "initScript"]

def validateCardBlock (c : Dict) : List (Option PyError) :=
  [raiseIf ((AssocMap.find? "iface" c).isNone) "link.cards object entries require 'iface'",
    unknownKeys "link.cards" cardKeys c,
    raiseIf (¬ isNonEmptyStr (c.getOr "host" (.str "local")))
      "link.cards.host must be a non-empty string",
    raiseIf (¬ isIntIn 1 65535 (c.getOr "sshPort" (.int 22)))
      "link.cards.sshPort must be an int in 1..65535",
    raiseIf (¬ isNonEmptyStr (c.getOr "sshUser" (.str "root")))
      "link.cards.sshUser must be a non-empty string",
    validateValue isStr " must be a string or absent" "link.cards.sshKey" (c.got "sshKey"),
    validateValue (fun v => v = .str "off" ∨ (number? v).isSome) " must be a number, 'off', or null"
      "link.cards.txPowerDbm" (c.got "txPowerDbm"),
    validateValue isStr " must be a string or null" "link.cards.initScript" (c.got "initScript")]

def validateCard : Json → List (Option PyError)
  | .str _ => []
  | .obj c => validateCardBlock c
  | _ => [raiseIf true "link.cards entries must be a string or an object"]

def validateCards : Json → List (Option PyError)
  | .arr cards => cards.flatMap validateCard
  | _ => [raiseIf true "link.cards must be a list or 'auto'"]

def validateSingleRemoteHost (py : PyNumbers) (link : Dict) : Option Raised :=
  match Wfb.parseCards py link with
  | .error e =>
    match e.valueError? with
    | some text => some (.py (.schemaError text))
    | none => some (.py .typeError)
  | .ok none => none
  | .ok (some cards) =>
    schemaErrorIf (1 < (cards.filterMap Wfb.Card.host).dedup.length)
      ("multiple remote-card hosts not yet supported (per-node server " ++
        "address pending); use at most one remote host")

def validateIdrForward (idr : Json) : List (Option Raised) :=
  let blk := dictOf idr
  [hasGet idr,
    schemaErrorIf (¬ isBool (blk.getOr "enabled" (.bool true))) "idrForward.enabled must be a bool",
    schemaErrorIf (¬ isIntIn 1 65535 (blk.getOr "port" (.int 11223)))
      "idrForward.port must be an int in 1..65535"]

/-- The heartbeat keeps the tunnel fresh: it is polled faster than the tunnel goes stale.  A `null`
cannot be compared. -/
def validateStale (blk : Dict) : Option PyError :=
  match number? (blk.getOr "tunnelStaleS" (.real 4)), number? (blk.getOr "httpPollS" (.real (3 / 2))) with
  | some stale, some poll =>
    raiseIf (stale ≤ poll) "connectionMonitor.tunnelStaleS must be > httpPollS"
  | _, _ => some .typeError

def validateConnectionMonitor (cm : Json) : List (Option PyError) :=
  let blk := dictOf cm
  [raiseIf (¬ cm.isObject) "connectionMonitor must be an object",
    raiseIf (¬ isBool (blk.getOr "enabled" (.bool true))) "connectionMonitor.enabled must be a bool"] ++
  forKeys (validateValue (fun v => (number? v).any fun x => 0 < x) " must be a positive number")
    "connectionMonitor" blk
    ["tunnelStaleS", "httpPollS", "httpTimeoutS", "evalIntervalS", "disconnectGraceS"] ++
  [validatePosInt "connectionMonitor.httpFailCount" (blk.got "httpFailCount"), validateStale blk]

def validatePixelpilot (pp : Json) : List (Option Raised) :=
  let blk := dictOf pp
  let dvr := blk.getOr "dvr" (.obj [])
  let text := validateValue isNonEmptyStr " must be a non-empty string"
  let flag := fun k => raiseIf (¬ isBool ((dictOf dvr).getOr k (.bool true)))
    ("pixelpilot.dvr." ++ k ++ " must be a bool")
  [hasGet pp] ++ liftChecks (
    [raiseIf (¬ isBool (blk.getOr "enabled" (.bool true))) "pixelpilot.enabled must be a bool",
      raiseIf (¬ isIntIn 1 65535 (blk.getOr "rtpPort" (.int 5600)))
        "pixelpilot.rtpPort must be an int in 1..65535"] ++
    forKeys text "pixelpilot" blk ["screenMode", "bin", "configPath", "osdConfigPath", "codec"] ++
    [raiseIf (¬ dvr.isObject) "pixelpilot.dvr must be an object"] ++
    forKeys text "pixelpilot.dvr" (dictOf dvr) ["dir", "template"] ++
    [flag "fmp4", flag "sequencedFiles",
      raiseIf (¬ isStrMap (blk.getOr "env" (.obj []))) "pixelpilot.env must be a map of string to string",
      raiseIf (¬ isStrList (blk.getOr "extraArgs" (.arr [])))
        "pixelpilot.extraArgs must be a list of strings"])

/-! ## `validate_effective` -/

/-- A list or an object cannot be looked up in a `set`. -/
def isHashable : Json → Bool
  | .arr _ | .obj _ => false
  | _ => true

def validWidths : List ℚ := [5, 10, 20, 40]

/-- The width; 5 and 40 MHz are for a link without the dynamic one. -/
def validateWidth (cfg : Dict) : Option Json → List (Option Raised)
  | none => []
  | some width =>
    let dl := cfg.getOr "dynamicLink" .null
    [if isHashable width then none else some (.py .typeError),
      schemaErrorIf (¬ (number? width).any (· ∈ validWidths))
        "link.width must be one of [5, 10, 20, 40]"] ++
    if (number? width).any (· ∈ [5, 40]) then
      [if dl.truthy then hasGet dl else none,
        schemaErrorIf ((dictOf dl).getOr "enabled" (.bool false)).truthy
          "link.width 5/40 MHz requires dynamicLink.enabled=false"]
    else []

def validateBfCapable (pl : Platform) (cfg : Dict) : Option Json → Option Raised
  | none => none
  | some bf =>
    if ((dictOf bf).getOr "enabled" .null).truthy then
      match pl.bfCapable cfg with
      | .error e => some e
      | .ok capable => schemaErrorIf (¬ capable) ("beamforming requires a card with a bf_monitor_conf " ++
          "node (GS driver lacks CONFIG_BEAMFORMING_MONITOR)")
    else none

def linkChecks (pl : Platform) (cfg : Dict) : List (Option Raised) :=
  let blk := dictOf (cfg.getOr "link" (.obj []))
  validateWidth cfg (blk.got "width") ++
  [schemaErrorIf (¬ (blk.getOr "region" .null).truthy) "link.region is required",
    schemaErrorIf (¬ (blk.getOr "channel" .null).truthy) "link.channel is required"] ++
  liftChecks (forBlock validateBeamforming (blk.got "beamforming")) ++
  liftChecks (forBlock (fun cards => if cards = .str "auto" then [] else validateCards cards)
    (blk.got "cards")) ++
  [validateSingleRemoteHost pl.py blk,
    (validateValue isStr " must be a string or null" "link.serverAddress"
      (blk.got "serverAddress")).map .py,
    validateBfCapable pl cfg (blk.got "beamforming")]

/-- Whether `sorted` gets through the elements of a set; values of different kinds do not compare. -/
def sortable (xs : List Json) : Bool :=
  xs.all isStr || xs.all (fun v => isBool v || (number? v).isSome) || xs.all (· = .null)

/-- The first lines of `_validate_dynamic_link`, on what is not an object: its elements are taken for
keys, and where all of them are known it still has no `.get`.  The text for a list is without its
elements. -/
def dynamicLinkForm : Json → Option Raised
  | .obj _ => none
  | .str s =>
    if s = "" then some .attributeError
    else some (.py (.schemaError ("unknown dynamicLink keys: " ++
      pyList ((s.toList.map String.singleton).dedup.insertionSort (· ≤ ·)))))
  | .arr xs =>
    let unknown := xs.filter fun v => !dynamicLinkKeys.any (v = .str ·)
    if !xs.all isHashable then some (.py .typeError)
    else if unknown.isEmpty then some .attributeError
    else if sortable unknown then some (.py (.schemaError "unknown dynamicLink keys: "))
    else some (.py .typeError)
  | _ => some (.py .typeError)

def effectiveChecks (pl : Platform) (cfg : Dict) : List (Option Raised) :=
  [hasGet (cfg.getOr "link" (.obj []))] ++ linkChecks pl cfg ++
  (match cfg.got "dynamicLink" with
    | none => []
    | some dl => [dynamicLinkForm dl] ++ liftChecks (dynamicLinkChecks (dictOf dl))) ++
  (match cfg.got "pixelpilot" with
    | none => []
    | some pp => validatePixelpilot pp) ++
  (match cfg.got "idrForward" with
    | none => []
    | some idr => validateIdrForward idr) ++
  liftChecks (forBlock validateConnectionMonitor (cfg.got "connectionMonitor") ++
    forBlock validateDrone (cfg.got "drone") ++
    forBlock (validateWfb pl.isDigit) (cfg.got "wfb"))

def validateEffective (pl : Platform) (cfg : Dict) : Except Raised Unit :=
  raiseFirst (effectiveChecks pl cfg)

theorem validateEffective_ok {pl : Platform} {cfg : Dict} :
    validateEffective pl cfg = .ok () ↔ Passes (effectiveChecks pl cfg) := raiseFirst_ok

theorem effective_check {pl : Platform} {cfg : Dict} (h : validateEffective pl cfg = .ok ())
    {c : Option Raised} (hc : c ∈ effectiveChecks pl cfg) : c = none :=
  raiseFirst_ok.mp h c hc

end Fpvd.Gs
