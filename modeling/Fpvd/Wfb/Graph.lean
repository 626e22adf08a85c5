import Fpvd.Wfb.Cluster

/-!
# Fpvd.Wfb.Graph — the processes of a configuration (`gs/fpvdgs/wfb/graph.py`, `cluster.py`)

`buildGraph` renders the argument lists of the wfb processes for local cards.  With a remote card,
`buildGraphRemote` renders an aggregator or distributor for each service, the forwarders and injectors of
the local node, and for each other node the script that is pushed to it (`renderNodeScript`).

An argument is a JSON value, since the name of an interface is not checked.  `PyText` is what Python's
`str`, `sorted`, `strip` and `splitlines` do.
-/

namespace Fpvd.Wfb

open Gs

structure PyText where
  /-- `str(v)`, and `v` in an f-string -/
  str : Json → String
  /-- whether `sorted` gets through the list -/
  sorts : List Json → Bool
  strip : String → String
  splitlines : String → List String

def wfbBinDir : String := "/usr/bin"
def gsKey : String := "/etc/gs.key"
def logInterval : ℕ := 100
def bufR : ℕ := 2097152
def bufS : ℕ := 2097152
def videoUdpPort : ℕ := 5600
def probeRadioPort : ℕ := 50
def probeSinkPort : ℕ := 7000

/-- `link_id()`: the first three bytes of the SHA-1 of `"default"`. -/
def linkId : ℕ := 7669206

inductive Direction where
  | rx
  | tx
  deriving DecidableEq, Repr

inductive StatsParser where
  | rx
  | tx
  | probe
  deriving DecidableEq, Repr

structure ServiceSpec where
  name : String
  kind : Direction
  argv : List Json
  parser : Option StatsParser
  unixPath : Option String
  deriving DecidableEq, Repr

structure TunnelConfig where
  ifname : String := "gs-wfb"
  ifaddr : String := "10.5.0.1/24"
  mtu : ℕ := 1445
  aggTimeout : ℚ := 5 / 1000
  deriving DecidableEq, Repr

structure GsGraph where
  videoRx : ServiceSpec
  mavlinkRx : ServiceSpec
  mavlinkTx : ServiceSpec
  tunnelRx : ServiceSpec
  tunnelTx : ServiceSpec
  mavRxSock : String
  /-- `MavlinkConfig.peer` -/
  mavPeer : Json
  tunRxSock : String
  tunCfg : TunnelConfig := {}
  localForwarders : List ServiceSpec := []
  localInjectors : List ServiceSpec := []
  nodeScripts : List (String × String) := []
  probeRx : Option ServiceSpec := none
  deriving DecidableEq, Repr

/-! ## Argument lists -/

def args (texts : List String) : List Json := texts.map Json.str

def rxArgv (head key : List String) (tail : List Json) (extra clusterFlag : List String) : List Json :=
  args ([wfbBinDir ++ "/wfb_rx"] ++ clusterFlag ++ head ++ key ++
    ["-R", toString bufR, "-s", toString bufS, "-l", toString logInterval, "-i", toString linkId] ++
    extra) ++ tail

def txArgv (port : ℕ) (unixPath bandwidth : String) (key : List String) (tail : List Json)
    (clusterFlag : List String) : List Json :=
  args ([wfbBinDir ++ "/wfb_tx"] ++ clusterFlag ++
    ["-f", "data", "-p", toString port, "-U", unixPath] ++ key ++
    ["-B", bandwidth, "-G", "long", "-S", "1", "-L", "1", "-M", "1", "-k", "1", "-n", "2", "-T", "0",
      "-F", "0", "-i", toString linkId, "-R", toString bufR, "-s", toString bufS,
      "-l", toString logInterval, "-C", "0"]) ++ tail

/-! ## What both builders read -/

def ordinal? : Json → Option ℚ
  | .bool b => some (if b then 1 else 0)
  | v => number? v

def uplinkBandwidth (width : Json) : Except Raised Json :=
  match ordinal? width with
  | none => .error (.py .typeError)
  | some w => .ok (if w < 10 then .int 10 else if 20 < w then .int 20 else width)

section Build

variable (t : PyText)

def warnRaw (raw : Json) : Except Raised Unit :=
  if raw.truthy then
    match raw with
    | .obj _ | .str _ => .ok ()
    | .arr xs => if t.sorts xs then .ok () else .error (.py .typeError)
    | _ => .error (.py .typeError)
  else .ok ()

/-- The first lines of both builders: the bandwidth of the uplink, the key of the video leg and its tap. -/
structure Front where
  link : Dict
  wfb : Dict
  bandwidth : String
  videoKey : List String
  tapFlag : List String
  deriving DecidableEq, Repr

def keyFlag : List String := ["-K", gsKey]

def graphFront (cfg : Dict) : Except Raised Front := do
  let link ← orEmpty (cfg.getOr "link" (.obj []))
  let wfb ← orEmpty (cfg.getOr "wfb" (.obj []))
  let dl ← orEmpty (cfg.getOr "dynamicLink" (.obj []))
  let tap ← orEmpty (dl.getOr "tap" (.obj []))
  let _ ← warnRaw t (wfb.getOr "raw" .null)
  let bandwidth ← uplinkBandwidth (link.getOr "width" (.int 20))
  return {
    link
    wfb
    bandwidth := t.str bandwidth
    videoKey := if (link.getOr "videoEncryption" (.bool true)).truthy then keyFlag else []
    tapFlag := if onByDefault tap then ["-D", t.str (tap.getOr "port" (.int 8110))] else [] }

def mavPeerUrl (wfb : Dict) : Except Raised Json := do
  let mavlink ← orEmpty (wfb.getOr "mavlink" (.obj []))
  let peer := mavlink.getOr "peer" .null
  if peer.truthy then return peer else .error (.py .valueError)

/-- What is spliced into the legs: for a cluster, an aggregator takes its packets at a port and a
distributor has peers in the place of cards. -/
structure Splice where
  videoFlag : List String := []
  mavlinkFlag : List String := []
  tunnelFlag : List String := []
  probeFlag : List String := []
  txFlag : List String := []
  rxTail : List Json
  mavlinkTail : List Json
  tunnelTail : List Json

def legsOf (front : Front) (peer : Json) (probe : Bool) (sp : Splice) (suffix : ℕ → String) : GsGraph :=
  let mavRx := "mavlink-rx-" ++ suffix 0
  let mavTx := "mavlink-tx-" ++ suffix 1
  let tunRx := "tunnel-rx-" ++ suffix 2
  let tunTx := "tunnel-tx-" ++ suffix 3
  { videoRx := {
      name := "video_rx"
      kind := .rx
      argv := rxArgv ["-p", "0", "-c", "127.0.0.1", "-u", toString videoUdpPort] front.videoKey
        sp.rxTail front.tapFlag sp.videoFlag
      parser := some .rx
      unixPath := none }
    mavlinkRx := {
      name := "mavlink_rx"
      kind := .rx
      argv := rxArgv ["-p", "16", "-U", mavRx] keyFlag sp.rxTail [] sp.mavlinkFlag
      parser := some .rx
      unixPath := some mavRx }
    mavlinkTx := {
      name := "mavlink_tx"
      kind := .tx
      argv := txArgv 144 mavTx front.bandwidth keyFlag sp.mavlinkTail sp.txFlag
      parser := some .tx
      unixPath := some mavTx }
    tunnelRx := {
      name := "tunnel_rx"
      kind := .rx
      argv := rxArgv ["-p", "32", "-U", tunRx] keyFlag sp.rxTail [] sp.tunnelFlag
      parser := some .rx
      unixPath := some tunRx }
    tunnelTx := {
      name := "tunnel_tx"
      kind := .tx
      argv := txArgv 160 tunTx front.bandwidth keyFlag sp.tunnelTail sp.txFlag
      parser := some .tx
      unixPath := some tunTx }
    mavRxSock := mavRx
    mavPeer := peer
    tunRxSock := tunRx
    probeRx := if probe then some {
        name := "probe_rx"
        kind := .rx
        argv := rxArgv ["-p", toString probeRadioPort, "-c", "127.0.0.1", "-u", toString probeSinkPort]
          keyFlag sp.rxTail [] sp.probeFlag
        parser := some .probe
        unixPath := none }
      else none }

def buildGraph (cfg : Dict) (wlans : List Json) (suffix : ℕ → String) : Except Raised GsGraph := do
  let front ← graphFront t cfg
  let peer ← mavPeerUrl front.wfb
  let probe ← probeEnabled cfg
  return legsOf front peer probe { rxTail := wlans, mavlinkTail := wlans, tunnelTail := wlans } suffix

/-! ## `render_node_script` -/

structure Streams where
  service : String
  rx : Option ℕ
  tx : Option ℕ
  deriving DecidableEq, Repr

def streamsFor (withProbe : Bool) : List Streams :=
  [⟨"video", some 0, none⟩, ⟨"mavlink", some 16, some 144⟩, ⟨"tunnel", some 32, some 160⟩] ++
    if withProbe then [⟨"probe", some 50, none⟩] else []

def lookup {κ α : Type} [DecidableEq κ] (k : κ) (m : List (κ × α)) : Except Raised α :=
  match AssocMap.find? k m with
  | some v => .ok v
  | none => .error .keyError

def asText : Json → Except Raised String
  | .str s => .ok s
  | _ => .error (.py .typeError)

def htmode (width : Json) : String :=
  if ordinal? width = some 5 then "5MHz"
  else if ordinal? width = some 10 then "10MHz"
  else if ordinal? width = some 40 then "HT40+"
  else "HT20"

def iwArgs (wlan : String) (channel width : Json) : Except Raised (List String) :=
  match ordinal? channel with
  | none => .error (.py .typeError)
  | some c =>
    .ok ["iw", "dev", wlan, "set", if 2000 < c then "freq" else "channel", t.str channel, htmode width]

def initText (c : Card) : Except Raised String :=
  match c.initScript with
  | none => .ok (t.strip "")
  | some (.str s) => .ok (t.strip s)
  | some v => if v.truthy then .error .attributeError else .ok (t.strip "")

def initLines (scripts : List String) : List String :=
  ((scripts.filter (· ≠ "")).reverse.dedup.reverse).flatMap fun s =>
    "# custom init (per link.cards initScript)" :: t.splitlines s ++ [""]

def txpowerMbm (py : PyNumbers) (v : Json) : Except Raised ℤ := do
  let dbm ← liftPy (py.toFloat v)
  if overflows (dbm * 100) then .error (.py .overflowError) else return roundHalfEven (dbm * 100)

def tuneLines (wlan : String) (link : Dict) : Except Raised (List String) :=
  match link.got "channel" with
  | none => .ok []
  | some channel => do
    let iw ← iwArgs t wlan channel (link.getOr "width" (.int 20))
    return [" ".intercalate iw]

def powerLines (py : PyNumbers) (wlan : String) (txpowerDbm : Option Json) :
    Except Raised (List String) :=
  match txpowerDbm with
  | none => .ok []
  | some v =>
    if v = .str "off" then .ok []
    else do
      let mbm ← txpowerMbm py v
      return ["iw dev " ++ wlan ++ " set txpower fixed " ++ toString mbm]

def cardLines (py : PyNumbers) (link : Dict) (c : Card) : Except Raised (List String) := do
  let wlan ← asText c.iface
  let tune ← tuneLines t wlan link
  let power ← powerLines py wlan c.txpowerDbm
  return ["# init " ++ wlan,
    "if which nmcli > /dev/null && ! nmcli device show " ++ wlan ++ " | grep -q '(unmanaged)'",
    "then",
    "  nmcli device set " ++ wlan ++ " managed no",
    "  sleep 1",
    "fi",
    "",
    "ip link set " ++ wlan ++ " down",
    "iw dev " ++ wlan ++ " set monitor otherbss",
    "ip link set " ++ wlan ++ " up"] ++ tune ++ power ++ [""]

def rxLines (wlans serverAddress : String) (plan : ClusterPlan) (s : Streams) :
    Except Raised (List String) :=
  match s.rx with
  | none => .ok []
  | some rxId => do
    let port ← lookup s.service plan.serverPort
    return ["wfb_rx -f -c " ++ serverAddress ++ " -u " ++ toString port ++ " -p " ++ toString rxId ++
      " -i " ++ toString linkId ++ " -R 2097152 " ++ wlans ++ " & PIDS=\"$PIDS $!\""]

def txLines (node wlans : String) (plan : ClusterPlan) (s : Streams) : Except Raised (List String) :=
  match s.tx with
  | none => .ok []
  | some _ => do
    let injector ← lookup (node, s.service) plan.injectorBase
    return ["wfb_tx -I " ++ toString injector ++ " -R 2097152 " ++ wlans ++ " & PIDS=\"$PIDS $!\""]

def serviceLines (node wlans serverAddress : String) (plan : ClusterPlan) (s : Streams) :
    Except Raised (List String) := do
  let rx ← rxLines wlans serverAddress plan s
  let tx ← txLines node wlans plan s
  return if s.rx.isNone && s.tx.isNone then [] else ["# " ++ s.service] ++ rx ++ tx ++ [""]

def scriptHead : List String :=
  ["#!/bin/sh", "set -em", "", "export LC_ALL=C", "", "exec 3<&0", "", "PIDS=\"\"", "", "_cleanup()",
    "\x7b", "  [ -n \"$PIDS\" ] && kill -TERM $PIDS 2>/dev/null", "  exit 1", "\x7d", "",
    "trap _cleanup EXIT HUP INT TERM", "",
    "for _p in $(ps | grep -E 'wfb_(rx|tx)' | grep -v grep | awk '\x7bprint $1\x7d'); do",
    "  kill -9 $_p 2>/dev/null || true", "done", ""]

def scriptTail : List String :=
  ["# Will fail in case of connection loss (reads fd 3 = the",
    "# saved SSH stdin; see the `exec 3<&0` note above).",
    "(sleep 1; exec cat <&3 > /dev/null) & PIDS=\"$PIDS $!\"", "", "echo \"WFB-ng init done\"", "",
    "while :; do", "  for p in $PIDS; do", "    kill -0 $p 2>/dev/null || exit 1", "  done", "  sleep 1",
    "done", ""]

def renderNodeScript (py : PyNumbers) (node : String) (cards : List Card) (plan : ClusterPlan)
    (link : Dict) (serverAddress : String) (streams : List Streams) : Except Raised String := do
  let wlans ← cards.mapM fun c => asText c.iface
  let scripts ← cards.mapM (initText t)
  let tuned ← cards.mapM (cardLines t py link)
  let services ← streams.mapM (serviceLines node (" ".intercalate wlans) serverAddress plan)
  return "\n".intercalate (scriptHead ++ initLines t scripts ++
    ["iw reg set " ++ t.str (link.getOr "region" .null), ""] ++ tuned.flatten ++ services.flatten ++
    scriptTail)

/-! ## `build_graph_remote` -/

def localIfaces (cards : List Card) : List Json := (cards.filter Card.isLocal).map Card.iface

def forwarder (plan : ClusterPlan) (ifaces : List Json) (s : Streams) :
    Except Raised (Option ServiceSpec) :=
  match s.rx with
  | none => pure none
  | some rxId => do
    let port ← lookup s.service plan.serverPort
    return some {
      name := s.service ++ " fwd"
      kind := .rx
      argv := args [wfbBinDir ++ "/wfb_rx", "-f", "-c", "127.0.0.1", "-u", toString port,
        "-p", toString rxId, "-i", toString linkId, "-R", toString bufR] ++ ifaces
      parser := none
      unixPath := none }

def injector (plan : ClusterPlan) (ifaces : List Json) (s : Streams) :
    Except Raised (Option ServiceSpec) :=
  match s.tx with
  | none => pure none
  | some _ => do
    let base ← lookup (localNode, s.service) plan.injectorBase
    return some {
      name := s.service ++ " inj"
      kind := .tx
      argv := args [wfbBinDir ++ "/wfb_tx", "-I", toString base, "-R", toString bufR] ++ ifaces
      parser := none
      unixPath := none }

def localLegs (cards : List Card) (plan : ClusterPlan) (probe : Bool) :
    Except Raised (List ServiceSpec × List ServiceSpec) :=
  if (AssocMap.find? localNode plan.nodes).getD [] = [] then pure ([], [])
  else do
    let legs ← (streamsFor probe).mapM fun s => do
      let fwd ← forwarder plan (localIfaces cards) s
      let inj ← injector plan (localIfaces cards) s
      return (fwd, inj)
    return (legs.filterMap Prod.fst, legs.filterMap Prod.snd)

def probeFlag (plan : ClusterPlan) (probe : Bool) : Except Raised (List String) :=
  if probe then do
    let port ← lookup "probe" plan.serverPort
    return ["-a", toString port]
  else .ok []

def buildGraphRemote (py : PyNumbers) (cfg : Dict) (cards : List Card) (plan : ClusterPlan)
    (serverAddress : String) (suffix : ℕ → String) : Except Raised GsGraph := do
  let front ← graphFront t cfg
  let probe ← probeEnabled cfg
  let videoPort ← lookup "video" plan.serverPort
  let mavPort ← lookup "mavlink" plan.serverPort
  let tunPort ← lookup "tunnel" plan.serverPort
  let mavPeers ← lookup "mavlink" plan.peers
  let tunPeers ← lookup "tunnel" plan.peers
  let peer ← mavPeerUrl front.wfb
  let probeFlag ← probeFlag plan probe
  let legs ← localLegs cards plan probe
  let remote := (plan.nodes.insertionSort fun a b => a.1 ≤ b.1).filter fun n => n.1 ≠ localNode
  let scripts ← remote.mapM fun n =>
    renderNodeScript t py n.1 n.2 plan front.link serverAddress (streamsFor probe)
  let splice : Splice := {
    videoFlag := ["-a", toString videoPort]
    mavlinkFlag := ["-a", toString mavPort]
    tunnelFlag := ["-a", toString tunPort]
    probeFlag
    txFlag := ["-d"]
    rxTail := []
    mavlinkTail := args mavPeers
    tunnelTail := args tunPeers }
  return { legsOf front peer probe splice suffix with
    localForwarders := legs.1
    localInjectors := legs.2
    nodeScripts := (remote.map Prod.fst).zip scripts }

end Build

/-! ## The pattern of the MAVLink service -/

def isHostPort (cs : List Char) : Bool :=
  match cs.span fun c => c ≠ ':' && c ≠ '/' with
  | (addr, ':' :: port) => addr ≠ [] && port ≠ [] && port.all Char.isDigit
  | _ => false

def isPeerAddress (cs : List Char) : Bool :=
  ["connect://", "listen://"].any fun scheme =>
    scheme.toList.isPrefixOf cs && isHostPort (cs.drop scheme.toList.length)

/-- `_PEER_RE.match`: the `$` of the pattern also matches before a final newline. -/
def peerMatches : Json → Bool
  | .str s => isPeerAddress s.toList ||
      s.toList.getLast? = some '\n' && isPeerAddress s.toList.dropLast
  | _ => false

end Fpvd.Wfb
