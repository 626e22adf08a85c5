import Fpvd.Gs.Store

/-!
# Fpvd.Gs.Services — the services a configuration drives (`gs/fpvdgs/supervisor.py`)

The native runner, the dynamic-link controller, the PixelPilot child and the IDR relay, each with the
state that a configuration decides, the values rendered for them (`make_dl_snapshot`,
`render_pixelpilot_argv`, `render_pixelpilot_env`), and `boot`: `build_app` followed by `App.start`.

What runs inside a service is not here, except that the dynamic-link thread builds its objects first:
if that raises, the thread is gone (`controllerBuilds`).  The IDR relay's socket is taken to bind, and
PixelPilot to stay up once it is spawned.
-/

namespace Fpvd.Gs

def asDict : Json → Except Raised Dict
  | .obj d => .ok d
  | _ => .error .attributeError

def toDict : Json → Except Raised Dict
  | .obj d => .ok d
  | _ => .error (.py .typeError)

def toList : Json → Except Raised (List Json)
  | .arr xs => .ok xs
  | _ => .error (.py .typeError)

def orEmpty (v : Json) : Except Raised Dict := if v.truthy then asDict v else .ok []

def liftPy {α : Type} : Except PyError α → Except Raised α
  | .ok a => .ok a
  | .error e => .error (.py e)

/-! ## The dynamic-link controller -/

def droneHost (cfg : Dict) : Except Raised Json := do
  let drone ← asDict (cfg.getOr "drone" (.obj []))
  return drone.getOr "host" (.str "10.5.0.10")

def linkWidth (py : PyNumbers) (cfg : Dict) : Except Raised ℤ := do
  let link ← asDict (cfg.getOr "link" (.obj []))
  liftPy (py.toInt (link.getOr "width" (.int 20)))

def dronePort (py : PyNumbers) (block : Dict) : Except Raised ℤ :=
  let v := block.getOr "dronePort" .null
  liftPy (py.toInt (if v.truthy then v else .int 9999))

def makeDlSnapshot (py : PyNumbers) (cfg : Dict) : Except Raised Dict := do
  let block ← toDict (cfg.getOr "dynamicLink" (.obj []))
  let droneAddr ← droneHost cfg
  let dronePort ← dronePort py block
  let linkWidth ← linkWidth py cfg
  return AssocMap.insert "linkWidth" (.int linkWidth)
    (AssocMap.insert "dronePort" (.int dronePort) (AssocMap.insert "droneAddr" droneAddr block))

def buildAggregator (py : PyNumbers) (block : Dict) : Except PyError (ℚ × ℚ × ℚ × ℚ) := do
  let s := block.sub "smoothing"
  let ewmaAlphaRssi ← Dict.float py s "ewmaAlphaRssi" (2 / 10)
  let ewmaAlphaFec ← Dict.float py s "ewmaAlphaFec" (2 / 10)
  let ewmaAlphaBurst ← Dict.float py s "ewmaAlphaBurst" (1 / 10)
  let starvationThresholdPps ← Dict.float py s "starvationThresholdPps" 50
  return (ewmaAlphaRssi, ewmaAlphaFec, ewmaAlphaBurst, starvationThresholdPps)

/-- What the thread builds before its loop raises nothing: the policy (whose selector refuses a cap
below zero), the aggregator, and the numbers of the tap. -/
def controllerBuilds (py : PyNumbers) (snapshot : Dict) : Bool :=
  let built := do
    let policy ← buildPolicyConfig py snapshot
    let _ ← buildAggregator py snapshot
    let _ ← Dict.int py (snapshot.sub "tap") "port" 8110
    let _ ← Dict.float py (snapshot.sub "tap") "staleMs" 500
    return policy.selector.maxMcs
  match built with
  | .ok maxMcs => 0 ≤ maxMcs
  | .error _ => false

structure Controller where
  running : Bool
  snapshot : Dict
  deriving DecidableEq

namespace Controller

variable (py : PyNumbers)

def start (c : Controller) : Controller :=
  if c.running then c else { c with running := controllerBuilds py c.snapshot }

def stop (c : Controller) : Controller := { c with running := false }

def setConfig (c : Controller) (snapshot : Dict) : Controller :=
  if c.running then ({ c.stop with snapshot }).start py else { c with snapshot }

end Controller

/-! ## PixelPilot -/

def pathJoin : Json → Json → Except Raised Json
  | .str dir, .str name => .ok (.str (
    if name.startsWith "/" then name
    else if dir = "" ∨ dir.endsWith "/" then dir ++ name
    else dir ++ "/" ++ name))
  | _, _ => .error (.py .typeError)

def portText : Json → String
  | .int i => toString i
  | _ => ""

def renderPixelpilotArgv (cfg : Dict) : Except Raised (List Json) := do
  let pp ← asDict (cfg.getOr "pixelpilot" (.obj []))
  let dvr ← asDict (pp.getOr "dvr" (.obj []))
  let file ← pathJoin (dvr.getOr "dir" (.str "/media/dvr"))
    (dvr.getOr "template" (.str "record_%Y-%m-%d_%H-%M-%S.mp4"))
  let extraArgs ← toList (pp.getOr "extraArgs" (.arr []))
  return [pp.getOr "bin" (.str "/usr/bin/pixelpilot"),
      .str "--config", pp.getOr "configPath" (.str "/etc/pixelpilot.yaml"),
      .str "--osd", .str "--osd-custom-message",
      .str "--osd-config", pp.getOr "osdConfigPath" (.str "/etc/pixelpilot/osd.json"),
      .str "--codec", pp.getOr "codec" (.str "h265"),
      .str "--screen-mode", pp.getOr "screenMode" (.str "1920x1080@60")] ++
    (if (dvr.getOr "fmp4" (.bool true)).truthy then [.str "--dvr-fmp4"] else []) ++
    (if (dvr.getOr "sequencedFiles" (.bool true)).truthy then [.str "--dvr-sequenced-files"] else []) ++
    [.str "--dvr-template", file, .str "-p", .str (portText (pp.getOr "rtpPort" (.int 5600)))] ++
    extraArgs

/-- `render_pixelpilot_env`; the checks let only texts pass. -/
def renderPixelpilotEnv (cfg : Dict) : Except Raised Dict := do
  let pp ← asDict (cfg.getOr "pixelpilot" (.obj []))
  asDict (pp.getOr "env" (.obj []))

structure Child where
  running : Bool
  argv : List Json
  env : Dict
  deriving DecidableEq

def hasNul (s : String) : Bool := s.toList.contains (Char.ofNat 0)

/-- What `Popen` raises for an argument that is not a text, a NUL, or an illegal variable name; that
is no `OSError`, so `_spawn_and_wait` lets it pass. -/
def popenRaises (argv : List Json) (env : Dict) : Option Raised :=
  if argv.any (fun v => !isStr v) then some (.py .typeError)
  else if argv.any (fun v => match v with | .str s => hasNul s | _ => false) ||
      env.any (fun e => hasNul e.1 || e.1.toList.contains '=' ||
        match e.2 with | .str s => hasNul s | _ => false)
    then some (.py .valueError)
  else none

namespace Child

def start (c : Child) : Child × Option Raised :=
  match popenRaises c.argv c.env with
  | some e => (c, some e)
  | none => ({ c with running := true }, none)

def stop (c : Child) : Child := { c with running := false }

def restart (c : Child) : Child × Option Raised := c.stop.start

def startIf (on : Bool) (c : Child) : Except Raised Child :=
  if on then
    match c.start with
    | (c, none) => .ok c
    | (_, some e) => .error e
  else .ok c

end Child

/-! ## The IDR relay and the runner -/

structure Relay where
  running : Bool
  host : Json
  port : ℤ
  deriving DecidableEq

structure Runner where
  given : Dict
  deriving DecidableEq

def Runner.retuned (r : Runner) (link : Dict) : Runner := ⟨AssocMap.insert "link" (.obj link) r.given⟩

structure Sys where
  store : ConfigStore
  runner : Runner
  dynlink : Controller
  pixelpilot : Child
  idrRelay : Relay
  deriving DecidableEq

/-! ## The switches, as the routes and `App.start` read them -/

def dlEnabled (dl : Dict) : Bool := (dl.getOr "enabled" .null).truthy

def onByDefault (blk : Dict) : Bool := (blk.getOr "enabled" (.bool true)).truthy

def idrPort (py : PyNumbers) (cfg : Dict) : Except Raised ℤ := do
  let idr ← asDict (cfg.getOr "idrForward" (.obj []))
  liftPy (py.toInt (idr.getOr "port" (.int 11223)))

def boot (pl : Platform) (loaded : Dict) : Except Raised Sys := do
  let store := ConfigStore.load loaded
  let eff := store.config
  -- the driver is not asked yet
  validateEffective { pl with bfCapable := fun _ => .ok true } eff
  let host ← droneHost eff
  let port ← idrPort pl.py eff
  let snapshot ← makeDlSnapshot pl.py eff
  let argv ← renderPixelpilotArgv eff
  let env ← renderPixelpilotEnv eff
  -- `App.start`
  let pp ← asDict (eff.getOr "pixelpilot" (.obj []))
  let pixelpilot ← Child.startIf (onByDefault pp) { running := false, argv, env }
  let idr ← asDict (eff.getOr "idrForward" (.obj []))
  let dl ← asDict (eff.getOr "dynamicLink" (.obj []))
  let dynlink : Controller := { running := false, snapshot }
  return {
    store
    runner := ⟨eff⟩
    dynlink := if dlEnabled dl then dynlink.start pl.py else dynlink
    pixelpilot
    idrRelay := { running := onByDefault idr, host, port } }

end Fpvd.Gs
