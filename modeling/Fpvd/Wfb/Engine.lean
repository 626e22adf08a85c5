import Fpvd.Wfb.Hub
import Fpvd.Wfb.Uplink

/-!
# Fpvd.Wfb.Engine — the event loop of the data plane (`gs/fpvdgs/wfb/engine.py`, `children.py`)

An `Engine` is one incarnation of the data plane on its event loop, from the start of its children to the
end of its teardown.  A step is what the loop runs between two awaits: a line of a child, a respawn, a
round of the 100 ms ticker, a timer of the tunnel, a piece of `_setup` or of `_teardown`.

* A tx child has a new parser at every spawn.  The code tells two parsers apart by object identity; here
  a parser has the number of its spawn, and `committed` holds the number that the ticker wired last.
* A wfb_tx of either leg listens on one socket per card.  `TxLine.listenUnix` announces one of them.
-/

namespace Fpvd.Wfb

/-! ## Children -/

inductive TxLeg where
  | mavlinkTx
  | tunnelTx
  deriving DecidableEq, Repr

instance {P : TxLeg → Prop} [DecidablePred P] : Decidable (∀ leg, P leg) :=
  decidable_of_iff (P .mavlinkTx ∧ P .tunnelTx)
    ⟨fun h leg => match leg with | .mavlinkTx => h.1 | .tunnelTx => h.2, fun h => ⟨h _, h _⟩⟩

inductive RxLeg where
  | videoRx
  | mavlinkRx
  | tunnelRx
  deriving DecidableEq, Repr

inductive ChildId where
  | rx (leg : RxLeg)
  | tx (leg : TxLeg)
  | extraRx (name : String)
  | extraTx (name : String)
  deriving DecidableEq, Repr

/-- Where the crash watch of a tx child waits (`WfbChild._watch`). -/
inductive Watch where
  /-- anywhere a cancel ends it -/
  | armed
  /-- for the handshake of a respawned process -/
  | handshake
  /-- with the handshake there, for the exit task it has cancelled; a cancel is suppressed -/
  | settling
  /-- a cancel was suppressed: it goes on until the process exits -/
  | deaf
  deriving DecidableEq, Repr

/-- A tx child; `incarnation` counts its spawns. -/
structure TxChild (N : Type) where
  incarnation : ℕ := 0
  parser : TxLineParser N := {}
  watch : Watch := .armed
  deriving DecidableEq, Repr

variable {N : Type}

def TxChild.socketFor (c : TxChild N) (wlanId : Option ℤ) : Option N :=
  match c.parser.unixSockets with
  | [] => none
  | (w, first) :: rest =>
    match wlanId.bind fun id => AssocMap.find? id ((w, first) :: rest) with
    | some sock => some sock
    | none => some first

theorem TxChild.socketFor_mem {c : TxChild N} {wlanId : Option ℤ} {n : N}
    (h : c.socketFor wlanId = some n) : n ∈ c.parser.names := by
  unfold TxChild.socketFor at h
  unfold TxLineParser.names
  split at h
  · cases h
  · next w first rest hsocks =>
    rw [hsocks]
    split at h
    · next sock hfind =>
      obtain ⟨id, -, hid⟩ := Option.bind_eq_some_iff.mp hfind
      rw [← Option.some.inj h]
      exact List.mem_map.mpr ⟨(id, sock), AssocMap.mem_of_find? hid, rfl⟩
    · rw [← Option.some.inj h]
      exact List.mem_cons_self

/-- The watch runs on: from the handshake it goes to wait for the exit task it cancels, unless the
process is gone. -/
def TxChild.resumeWatch (running : Bool) (c : TxChild N) : TxChild N :=
  match c.watch with
  | .handshake =>
    if !running then { c with watch := .armed }
    else if c.parser.handshakeDone then { c with watch := .settling }
    else c
  | .settling => { c with watch := .armed }
  | _ => c

theorem TxChild.resumeWatch_parts (c : TxChild N) (running : Bool) :
    (c.resumeWatch running).incarnation = c.incarnation ∧ (c.resumeWatch running).parser = c.parser := by
  unfold TxChild.resumeWatch
  split
  · split_ifs <;> exact ⟨rfl, rfl⟩
  · exact ⟨rfl, rfl⟩
  · exact ⟨rfl, rfl⟩

def TxChild.cancelWatch (c : TxChild N) : TxChild N :=
  { c with watch := if c.watch = .settling then .deaf else .armed }

/-! ## The engine -/

/-- What `_setup` takes from the configuration: the settings of the selector and the ids it must not
select, the remote nodes, and the further children. -/
structure Setup where
  txSelector : TxSelectorConfig := {}
  rxOnlyWlanIds : List ℤ := []
  nodes : List String := []
  extraRx : List String := []
  extraTx : List String := []
  deriving DecidableEq, Repr

def Setup.children (p : Setup) : List ChildId :=
  [.rx .videoRx, .rx .mavlinkRx, .rx .tunnelRx, .tx .mavlinkTx, .tx .tunnelTx] ++
    p.extraRx.map .extraRx ++ p.extraTx.map .extraTx

def Setup.stopOrder (p : Setup) : List ChildId :=
  [.tx .mavlinkTx, .tx .tunnelTx] ++ p.extraTx.map .extraTx ++
    [.rx .videoRx, .rx .mavlinkRx, .rx .tunnelRx] ++ p.extraRx.map .extraRx

theorem Setup.mem_stopOrder (p : Setup) (c : ChildId) : c ∈ p.stopOrder ↔ c ∈ p.children := by
  simp only [stopOrder, children, List.mem_append, List.mem_cons, List.not_mem_nil, or_false]
  tauto

theorem Setup.length_stopOrder (p : Setup) : p.stopOrder.length = p.children.length := by
  simp only [stopOrder, children, List.length_append, List.length_cons, List.length_nil, List.length_map]
  omega

inductive Ticker where
  | off
  | running
  | failed (e : PyExc)
  | cancelled
  deriving DecidableEq, Repr

inductive Stage where
  | setup
  /-- the services are wired, the stats server and the node sessions start -/
  | wired
  | up
  /-- `session.stop()` of the first of these nodes -/
  | sessions (left : List String)
  /-- the cancelled ticker -/
  | ticker
  /-- `_stats_server.stop()` -/
  | statsServer
  /-- `child.stop()` of the first of these children -/
  | children (left : List ChildId)
  | done
  /-- an exception has left `_teardown` -/
  | failed (e : PyExc)
  deriving DecidableEq, Repr

structure Engine (N : Type) where
  plan : Setup
  rx : RxLeg → RxLineParser
  tx : TxLeg → TxChild N
  /-- a process of the child exists -/
  running : ChildId → Bool
  /-- `stop()` of the child has not been called -/
  supervised : ChildId → Bool
  /-- `_tx_parser_ids` -/
  committed : TxLeg → Option ℕ
  selector : TxSelector
  hub : Option (StatsHub RxLeg)
  mavService : Option (MavlinkTx N)
  tunnel : Option (TunnelTx N)
  statsServer : Bool
  ticker : Ticker
  stage : Stage

namespace Engine

def start (p : Setup) : Engine N where
  plan := p
  rx _ := {}
  tx _ := {}
  running _ := true
  supervised _ := true
  committed _ := none
  selector := ⟨p.txSelector, p.rxOnlyWlanIds, none⟩
  hub := some {}
  mavService := none
  tunnel := none
  statsServer := false
  ticker := .off
  stage := .setup

def windows (e : Engine N) : List (RxLeg × RxWindow) := (e.hub.map StatsHub.cur).getD []

section Tick

variable [DecidableEq N] (dial : TxLeg → Dial N)

/-- `_apply_tx_selection`: the MAVLink service first; a service that is gone raises. -/
def applyTxSelection (e : Engine N) (wlanId : Option ℤ) : Engine N × Option PyExc :=
  match e.mavService with
  | none => (e, some .attributeError)
  | some mav =>
    let child := e.tx .mavlinkTx
    let mav := mav.setTxSocket (dial .mavlinkTx) child.incarnation (child.socketFor wlanId)
    match e.tunnel with
    | none => ({ e with mavService := some mav }, some .attributeError)
    | some tun =>
      let child := e.tx .tunnelTx
      let tun := tun.setTxSocket (dial .tunnelTx) child.incarnation (child.socketFor wlanId)
      ({ e with mavService := some mav, tunnel := some tun }, none)

def respawned (e : Engine N) (leg : TxLeg) : Bool :=
  (e.tx leg).parser.unixSockets ≠ [] && e.committed leg ≠ some (e.tx leg).incarnation

def commit (e : Engine N) : Engine N :=
  { e with committed := fun leg =>
      if e.respawned leg then some (e.tx leg).incarnation else e.committed leg }

def broadcastTo (e : Engine N) (t : TunnelTx N) : TunnelTx N :=
  t.setAllTxSockets (dial .tunnelTx) (e.tx .tunnelTx).incarnation (e.tx .tunnelTx).parser.names

def checkTxRespawns (e : Engine N) : Engine N × Option PyExc :=
  if e.respawned .mavlinkTx || e.respawned .tunnelTx then
    match e.commit.applyTxSelection dial e.selector.current with
    | (e, some x) => (e, some x)
    | (e, none) => ({ e with tunnel := e.tunnel.map (e.broadcastTo dial) }, none)
  else (e, none)

/-- `self.hub.aggregate_window()`: the windows are taken first; a new selection goes to
`_apply_tx_selection`, whose exceptions the hub logs. -/
def aggregate (e : Engine N) : Engine N :=
  match e.hub with
  | none => { e with ticker := .failed .attributeError }
  | some hub =>
    match aggregateWindow e.selector hub.cur with
    | .error x => { e with hub := some {}, ticker := .failed x }
    | .ok (sel, agg) =>
      let e := { e with hub := some {}, selector := sel }
      match agg.txSel with
      | none => e
      | some w => (e.applyTxSelection dial (some w)).1

def tick (e : Engine N) : Engine N :=
  if e.ticker = .running then
    match e.checkTxRespawns dial with
    | (e, some x) => { e with ticker := .failed x }
    | (e, none) => e.aggregate dial
  else e

/-- `_setup`, from the start of the services to the registration of the callback, which is called once
with the current selection. -/
def wire (e : Engine N) : Engine N :=
  match e.stage with
  | .setup =>
    let e := { e with
      mavService := some {}
      tunnel := some (e.broadcastTo dial {})
      committed := fun leg => some (e.tx leg).incarnation
      stage := .wired }
    (e.applyTxSelection dial e.selector.current).1
  | _ => e

def ready (e : Engine N) : Engine N :=
  match e.stage with
  | .wired => { e with statsServer := true, ticker := .running, stage := .up }
  | _ => e

end Tick

/-! ## Teardown -/

def callStop (e : Engine N) (c : ChildId) : Engine N :=
  { e with
    supervised := Function.update e.supervised c false
    tx := match c with
      | .tx leg => Function.update e.tx leg (e.tx leg).cancelWatch
      | _ => e.tx }

def nextChild (e : Engine N) : List ChildId → Engine N
  | [] => { e with stage := .done }
  | c :: cs => { e.callStop c with stage := .children (c :: cs) }

def cancelTicker (e : Engine N) : Engine N :=
  match e.ticker with
  | .failed x => { e with hub := none, stage := .failed x }
  | _ => { e with hub := none, ticker := .cancelled, stage := .ticker }

def nextSession (e : Engine N) : List String → Engine N
  | [] => e.cancelTicker
  | n :: ns => { e with stage := .sessions (n :: ns) }

/-- The stop of the child waits for a watch that has missed its cancel. -/
def stuck (e : Engine N) : ChildId → Bool
  | .tx leg => (e.tx leg).watch = .deaf && e.running (.tx leg)
  | _ => false

/-- `_stop_event` is set and `_teardown` runs to its first await.  The tunnel's `stop()` has none. -/
def stop (e : Engine N) : Engine N :=
  match e.stage with
  | .up => { e with tunnel := none }.nextSession e.plan.nodes
  | _ => e

/-- What the teardown awaits has ended, and it runs to its next await.  The MAVLink service's `stop()`
has none. -/
def resume (e : Engine N) : Engine N :=
  match e.stage with
  | .sessions left => e.nextSession left.tail
  | .ticker => { e with stage := .statsServer }
  | .statsServer => { e with statsServer := false, mavService := none }.nextChild e.plan.stopOrder
  | .children (c :: cs) =>
    if e.stuck c then e else { e with running := Function.update e.running c false }.nextChild cs
  | _ => e

/-! ## Steps -/

end Engine

inductive Event (N : Type) where
  /-- the process of a child exits -/
  | exits (c : ChildId)
  /-- the watch of a child spawns a new process -/
  | spawns (c : ChildId)
  | watch (leg : TxLeg)
  | txLine (leg : TxLeg) (line : TxLine N)
  | rxLine (leg : RxLeg) (line : RxLine)
  | wire
  | ready
  | tick
  | stop
  | resume
  /-- the keepalive timer of the tunnel -/
  | keepalive
  /-- a batch from the radio -/
  | rxBatch
  /-- a packet from the tun device -/
  | tunReadable
  /-- the tunnel's queue hands over a batch -/
  | tunSend
  /-- the MAVLink service's queue hands over a batch -/
  | mavSend
  deriving DecidableEq, Repr

def handshake (leg : TxLeg) (socks : List (N × ℤ)) : List (Event N) :=
  socks.map (fun s => .txLine leg (.listenUnix s.1 s.2)) ++ [.txLine leg .listenUnixEnd]

namespace Engine

def spawn (e : Engine N) (c : ChildId) : Engine N :=
  if e.supervised c && !e.running c then
    let running := Function.update e.running c true
    match c with
    | .tx leg =>
      if (e.tx leg).watch = .armed then
        { e with
          running
          tx := Function.update e.tx leg ⟨(e.tx leg).incarnation + 1, {}, .handshake⟩ }
      else e
    | .rx leg => { e with running, rx := Function.update e.rx leg {} }
    | _ => { e with running }
  else e

def feedTx (e : Engine N) (leg : TxLeg) (line : TxLine N) : Engine N :=
  let child := { e.tx leg with parser := (e.tx leg).parser.feed line }
  { e with tx := Function.update e.tx leg child }

def resumeWatch (e : Engine N) (leg : TxLeg) : Engine N :=
  let child := (e.tx leg).resumeWatch (e.running (.tx leg))
  { e with tx := Function.update e.tx leg child }

def feedRx (e : Engine N) (leg : RxLeg) (line : RxLine) : Engine N :=
  let r := (e.rx leg).feed line
  let e := { e with rx := Function.update e.rx leg r.1 }
  match r.2 with
  | some (.window w) => { e with hub := e.hub.map fun h => h.updateRxStats leg w }
  | _ => e

def step [DecidableEq N] (dial : TxLeg → Dial N) (e : Engine N) : Event N → Engine N
  | .exits c => { e with running := Function.update e.running c false }
  | .spawns c => e.spawn c
  | .watch leg => e.resumeWatch leg
  | .txLine leg line => e.feedTx leg line
  | .rxLine leg line => e.feedRx leg line
  | .wire => e.wire dial
  | .ready => e.ready
  | .tick => e.tick dial
  | .stop => e.stop
  | .resume => e.resume
  | .keepalive => { e with tunnel := e.tunnel.map TunnelTx.keepaliveTick }
  | .rxBatch => { e with tunnel := e.tunnel.map TunnelTx.onRxBatch }
  | .tunReadable => { e with tunnel := e.tunnel.map TunnelTx.onTunReadable }
  | .tunSend => e
  | .mavSend => e

/-- The sockets that a step sends to.  The flush of a queue by `stop()` is a hand-over right before
it. -/
def sends (e : Engine N) : Event N → List (Sock N)
  | .keepalive => (e.tunnel.map TunnelTx.keepaliveTo).getD []
  | .tunSend => (e.tunnel.bind TunnelTx.txSock).toList
  | .mavSend => (e.mavService.bind MavlinkTx.txSock).toList
  | _ => []

/-! ## What a step can change -/

section Shape

variable {e : Engine N}

theorem spawn_shape (c : ChildId) :
    ∃ rx tx run, e.spawn c = { e with rx := rx, tx := tx, running := run } := by
  unfold spawn
  split_ifs
  · cases c with
    | tx leg =>
      simp only
      split_ifs
      · exact ⟨e.rx, _, _, rfl⟩
      · exact ⟨e.rx, e.tx, e.running, rfl⟩
    | rx leg => exact ⟨_, e.tx, _, rfl⟩
    | extraRx name => exact ⟨e.rx, e.tx, _, rfl⟩
    | extraTx name => exact ⟨e.rx, e.tx, _, rfl⟩
  · exact ⟨e.rx, e.tx, e.running, rfl⟩

theorem feedRx_shape (leg : RxLeg) (line : RxLine) : ∃ rx hub,
    e.feedRx leg line = { e with rx := rx, hub := hub } ∧ hub.isSome = e.hub.isSome := by
  simp only [feedRx]
  split
  · exact ⟨_, _, rfl, Option.isSome_map⟩
  · exact ⟨_, e.hub, rfl, rfl⟩

variable [DecidableEq N] {dial : TxLeg → Dial N}

theorem applyTxSelection_some {mav : MavlinkTx N} {tun : TunnelTx N} (hmav : e.mavService = some mav)
    (htun : e.tunnel = some tun) (wlanId : Option ℤ) :
    e.applyTxSelection dial wlanId =
      ({ e with
        mavService := some (mav.setTxSocket (dial .mavlinkTx) (e.tx .mavlinkTx).incarnation
          ((e.tx .mavlinkTx).socketFor wlanId))
        tunnel := some (tun.setTxSocket (dial .tunnelTx) (e.tx .tunnelTx).incarnation
          ((e.tx .tunnelTx).socketFor wlanId)) }, none) := by
  simp only [applyTxSelection, hmav, htun]

theorem applyTxSelection_shape (dial : TxLeg → Dial N) (wlanId : Option ℤ) : ∃ mav tun,
    (e.applyTxSelection dial wlanId).1 = { e with mavService := mav, tunnel := tun } ∧
      mav.isSome = e.mavService.isSome ∧ tun.isSome = e.tunnel.isSome := by
  unfold applyTxSelection
  cases hmav : e.mavService with
  | none => exact ⟨e.mavService, e.tunnel, rfl, by rw [hmav], rfl⟩
  | some mav =>
    cases htun : e.tunnel with
    | none => exact ⟨_, none, rfl, rfl, rfl⟩
    | some tun => exact ⟨_, _, rfl, rfl, rfl⟩

theorem checkTxRespawns_none (h : ∀ leg, e.respawned leg = false) :
    e.checkTxRespawns dial = (e, none) := by
  simp [checkTxRespawns, h]

theorem checkTxRespawns_shape (dial : TxLeg → Dial N) : ∃ mav tun com,
    (e.checkTxRespawns dial).1 = { e with mavService := mav, tunnel := tun, committed := com } ∧
      mav.isSome = e.mavService.isSome ∧ tun.isSome = e.tunnel.isSome := by
  unfold checkTxRespawns
  split_ifs
  · obtain ⟨mav, tun, happly, hmav, htun⟩ :=
      applyTxSelection_shape dial (e := e.commit) e.selector.current
    split
    · next e' x heq =>
      rw [heq] at happly
      exact ⟨mav, tun, e.commit.committed, happly, hmav, htun⟩
    · next e' heq =>
      rw [heq] at happly
      subst happly
      exact ⟨mav, _, e.commit.committed, rfl, hmav, Option.isSome_map.trans htun⟩
  · exact ⟨_, _, _, rfl, rfl, rfl⟩

theorem aggregate_shape (dial : TxLeg → Dial N) : ∃ mav tun hub sel tic,
    e.aggregate dial =
      { e with mavService := mav, tunnel := tun, hub := hub, selector := sel, ticker := tic } ∧
      mav.isSome = e.mavService.isSome ∧ tun.isSome = e.tunnel.isSome ∧ hub.isSome = e.hub.isSome := by
  unfold aggregate
  cases hhub : e.hub with
  | none => exact ⟨_, _, none, e.selector, _, rfl, rfl, rfl, rfl⟩
  | some hub =>
    simp only
    split
    · exact ⟨_, _, _, e.selector, _, rfl, rfl, rfl, rfl⟩
    · next sel agg _ =>
      cases agg.txSel with
      | none => exact ⟨_, _, _, _, e.ticker, rfl, rfl, rfl, rfl⟩
      | some w =>
        obtain ⟨mav, tun, happly, hmav, htun⟩ := applyTxSelection_shape dial
          (e := { e with hub := some {}, selector := sel }) (some w)
        exact ⟨mav, tun, _, _, e.ticker, happly, hmav, htun, rfl⟩

/-- **A round of the ticker** touches the two services, the hub, the selector, the wired parsers and the
ticker itself; what is there stays there. -/
theorem tick_shape (dial : TxLeg → Dial N) : ∃ mav tun hub sel com tic,
    e.tick dial = { e with
      mavService := mav, tunnel := tun, hub := hub, selector := sel, committed := com, ticker := tic } ∧
      mav.isSome = e.mavService.isSome ∧ tun.isSome = e.tunnel.isSome ∧ hub.isSome = e.hub.isSome := by
  unfold tick
  split_ifs
  · obtain ⟨mav, tun, com, hcheck, hmav, htun⟩ := checkTxRespawns_shape dial (e := e)
    split
    · next e' x heq =>
      rw [heq] at hcheck
      subst hcheck
      exact ⟨mav, tun, e.hub, e.selector, com, _, rfl, hmav, htun, rfl⟩
    · next e' heq =>
      rw [heq] at hcheck
      subst hcheck
      obtain ⟨mav', tun', hub, sel, tic, hagg, hmav', htun', hhub⟩ := aggregate_shape dial
        (e := { e with mavService := mav, tunnel := tun, committed := com })
      exact ⟨mav', tun', hub, sel, com, tic, hagg, hmav'.trans hmav, htun'.trans htun, hhub⟩
  · exact ⟨_, _, _, _, _, e.ticker, rfl, rfl, rfl, rfl⟩

end Shape

end Engine

end Fpvd.Wfb
