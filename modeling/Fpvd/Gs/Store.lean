import Fpvd.Gs.Effective

/-!
# Fpvd.Gs.Store — the configuration store of the ground station (`gs/fpvdgs/config.py`)

The store holds the effective configuration, the pending one and what the file holds; every method
runs under one lock.  `defaultConfig` is `config_defaults.default_config`.
-/

namespace Fpvd.Gs

/-! ## `config_defaults.py` -/

def dynamicLinkDefaults : Dict :=
  let sel : SelectorConfig := {}
  let lp : LearnedPriorConfig := {}
  [("dronePort", .int 9999),
    ("enabled", .bool false),
    ("flightlog", .obj [("enabled", .bool true)]),
    ("learnedPrior", .obj [
      ("alphaRelax", .real lp.alphaRelax), ("alphaTighten", .real lp.alphaTighten),
      ("minSamples", .real lp.minSamples), ("recencyDecay", .real lp.recencyDecay),
      ("settleTicks", .int lp.settleTicks), ("viableLoss", .real lp.viableLoss)]),
    ("maxMcs", .int 5),
    ("probe", .obj [("enabled", .bool false)]),
    ("selector", .obj [
      ("collapseDeltaDb", .real sel.collapseDeltaDb), ("confirmTtlMs", .int sel.confirmTtlMs),
      ("emergencyFecPressure", .real sel.emergencyFecPressure),
      ("flapBackoffCapMs", .int sel.flapBackoffCapMs),
      ("flapBackoffMult", .real sel.flapBackoffMult),
      ("flapBaseBackoffMs", .int sel.flapBaseBackoffMs), ("flapDecayMs", .int sel.flapDecayMs),
      ("flapResetCleanDwellTicks", .int sel.flapResetCleanDwellTicks),
      ("flapSnrReleaseDb", .real sel.flapSnrReleaseDb),
      ("holdModesDownMs", .int sel.holdModesDownMs),
      ("minBetweenChangesMs", .int sel.minBetweenChangesMs),
      ("promoteDwellTicks", .int sel.promoteDwellTicks),
      ("promoteSlopeMin", .real sel.promoteSlopeMin),
      ("snapbackRecoverMarginDb", .real sel.snapbackRecoverMarginDb),
      ("starvationWindows", .int sel.starvationWindows), ("trialWindowMs", .int sel.trialWindowMs),
      ("videoDemotePer", .real sel.videoDemotePer)]),
    ("smoothing", .obj [
      ("ewmaAlphaBurst", .real (1 / 10)), ("ewmaAlphaFec", .real (2 / 10)),
      ("ewmaAlphaRssi", .real (2 / 10)), ("starvationThresholdPps", .real 50)]),
    ("tap", .obj [
      ("captureRaw", .bool false), ("enabled", .bool true), ("port", .int 8110),
      ("staleMs", .int 500)])]

def connectionMonitorDefaults : Dict :=
  [("disconnectGraceS", .real 6), ("enabled", .bool true), ("evalIntervalS", .real (1 / 2)),
    ("httpFailCount", .int 2), ("httpPollS", .real (3 / 2)), ("httpTimeoutS", .real 3),
    ("tunnelStaleS", .real 4)]

def defaultConfig : Dict :=
  [("connectionMonitor", .obj connectionMonitorDefaults),
    ("drone", .obj [("apiPort", .int 8080), ("host", .str "10.5.0.10")]),
    ("dynamicLink", .obj dynamicLinkDefaults),
    ("idrForward", .obj [("enabled", .bool true), ("port", .int 11223)]),
    ("link", .obj [
      ("beamforming", .obj [("enabled", .bool false)]), ("cards", .str "auto"),
      ("channel", .int 132), ("linkId", .int 7669206), ("region", .str "US"),
      ("serverAddress", .null), ("txPowerDbm", .null), ("videoEncryption", .bool true),
      ("width", .int 20)]),
    ("pixelpilot", .obj [
      ("bin", .str "/usr/bin/pixelpilot"), ("codec", .str "h265"),
      ("configPath", .str "/etc/pixelpilot.yaml"),
      ("dvr", .obj [
        ("dir", .str "/media/dvr"), ("fmp4", .bool true), ("sequencedFiles", .bool true),
        ("template", .str "record_%Y-%m-%d_%H-%M-%S.mp4")]),
      ("enabled", .bool true),
      ("env", .obj []), ("extraArgs", .arr []), ("osdConfigPath", .str "/etc/pixelpilot/osd.json"),
      ("rtpPort", .int 5600), ("screenMode", .str "1920x1080@60")]),
    ("wfb", .obj [
      ("mavlink", .obj [("peer", .str "connect://127.0.0.1:14550")]),
      ("profile", .str "gs"),
      ("raw", .obj []),
      ("txSelector", .obj [("counterAbsDelta", .int 3), ("counterRelDelta", .real (1 / 10)),
        ("rssiDeltaDb", .int 3)])])]

/-! ## `config.py` -/

mutual

def mergeValue : Option Json → Json → Json
  | some (.obj base), .obj overlay => .obj (deepMerge base overlay)
  | _, v => v

def deepMerge : Dict → List (String × Json) → Dict
  | out, [] => out
  | out, (k, v) :: overlay =>
    deepMerge (AssocMap.insert k (mergeValue (AssocMap.find? k out) v) out) overlay

end

def prune (known : List String) : Json → Json
  | .obj blk => .obj (blk.filter fun e => e.1 ∈ known)
  | v => v

def adjust (key : String) (f : Json → Json) : Json → Json
  | .obj blk => .obj (blk.map fun e => if e.1 = key then (e.1, f e.2) else e)
  | v => v

def warnUnknown (loaded defaults : Dict) : Dict :=
  let dynamicLink := fun dl =>
    adjust "selector" (prune selectorKeys) (adjust "smoothing" (prune smoothingKeys)
      (adjust "learnedPrior" (prune learnedPriorKeys) (adjust "tap" (prune tapKeys)
        (prune dynamicLinkKeys dl))))
  dictOf (adjust "dynamicLink" dynamicLink (adjust "drone" (prune droneKeys)
    (adjust "wfb" (adjust "txSelector" (prune txSelectorKeys))
      (prune (AssocMap.keys defaults) (.obj loaded)))))

structure ConfigStore where
  defaults : Dict
  config : Dict
  pending : Dict
  /-- what the file holds; `none` while nothing has been written -/
  persisted : Option Dict := none
  deriving DecidableEq

namespace ConfigStore

def load (loaded : Dict) : ConfigStore :=
  let config := deepMerge defaultConfig (warnUnknown loaded defaultConfig)
  { defaults := defaultConfig, config, pending := config }

def patch (s : ConfigStore) (sparse : Dict) : ConfigStore :=
  { s with pending := deepMerge s.pending sparse }

def persist (s : ConfigStore) (written : Bool) : ConfigStore :=
  if written then { s with persisted := some s.config } else s

def commit (s : ConfigStore) (written : Bool) : ConfigStore :=
  { s with config := s.pending }.persist written

def reset (s : ConfigStore) (written : Bool) : ConfigStore :=
  { s with config := s.defaults, pending := s.defaults }.persist written

end ConfigStore

end Fpvd.Gs
