import Fpvd.Gs.Services
import Fpvd.Wfb.Engine

/-!
# Fpvd.Wfb.Cluster — cards, nodes and wlan ids (`gs/fpvdgs/wfb/cluster.py`, `engine.py`)

A link with a remote card is a cluster: the cards are grouped by node, and a card's wlan id is the IPv4
address of its node with the card's place on it.  Without one, the wlan id is the place in the list.
-/

namespace Fpvd.Wfb

open Gs

/-! ## `plan_cluster` -/

def nodeKey (c : Card) : Json :=
  match c.host with
  | some host => if host.truthy then host else .str "127.0.0.1"
  | none => .str "127.0.0.1"

def addToNode (nodes : List (Json × List Card)) (c : Card) : List (Json × List Card) :=
  AssocMap.put (nodeKey c) ((AssocMap.find? (nodeKey c) nodes).getD [] ++ [c]) nodes

def groupByNode (cards : List Card) : List (Json × List Card) := cards.foldl addToNode []

def clusterWlanId (ipv4 wlanIdx : ℕ) : ℤ := ((ipv4 <<< 24 ||| wlanIdx : ℕ) : ℤ)

def serviceOrder (withProbe : Bool) : List String :=
  ["video", "mavlink", "tunnel"] ++ if withProbe then ["probe"] else []

structure ClusterPlan where
  nodes : List (String × List Card)
  serverPort : List (String × ℕ)
  injectorBase : List ((String × String) × ℕ)
  peers : List (String × List String)
  rxOnlyWlanIds : List ℤ
  deriving DecidableEq, Repr

/-- The ports handed out so far: the next one of each node, the injector bases, and the peers of the
service at hand. -/
structure PortAlloc where
  next : List (String × ℕ) := []
  injectorBase : List ((String × String) × ℕ) := []
  peers : List String := []
  deriving DecidableEq, Repr

def PortAlloc.addNode (basePortNode : ℕ) (service : String) (a : PortAlloc)
    (node : String × List Card) : PortAlloc :=
  let base := (AssocMap.find? node.1 a.next).getD basePortNode
  let ports := List.range' base node.2.length
  { next := AssocMap.put node.1 (base + node.2.length) a.next
    injectorBase := AssocMap.put (node.1, service) base a.injectorBase
    peers := a.peers ++ [node.1 ++ ":" ++ ",".intercalate (ports.map toString)] }

def addService (basePortNode : ℕ) (nodes : List (String × List Card))
    (acc : PortAlloc × List (String × List String)) (service : String) :
    PortAlloc × List (String × List String) :=
  let a := nodes.foldl (PortAlloc.addNode basePortNode service) { acc.1 with peers := [] }
  (a, acc.2 ++ [(service, a.peers)])

section Plan

variable (inetAton : String → Option ℕ)

/-- The key of a node as a text; the check of the configuration lets no other host through. -/
def nodeText (node : Json × List Card) : Except Raised (String × List Card) :=
  match node.1 with
  | .str s => .ok (s, node.2)
  | _ => .error (.py .typeError)

def rxOnlyOf (node : String × List Card) : List (String × ℕ) :=
  node.2.zipIdx.filterMap fun ci => if ci.1.isRxOnly then some (node.1, ci.2) else none

def wlanIdAt (place : String × ℕ) : Except Raised ℤ :=
  match inetAton place.1 with
  | some ipv4 => .ok (clusterWlanId ipv4 place.2)
  | none => .error .osError

def planCluster (cards : List Card) (basePortServer basePortNode : ℕ) (withProbe : Bool) :
    Except Raised ClusterPlan := do
  let nodes ← (groupByNode cards).mapM nodeText
  let services := serviceOrder withProbe
  let sorted := nodes.insertionSort fun a b => a.1 ≤ b.1
  let ports := services.foldl (addService basePortNode sorted) ({}, [])
  let rxOnlyWlanIds ← (nodes.flatMap rxOnlyOf).mapM (wlanIdAt inetAton)
  return {
    nodes
    serverPort := services.zipIdx.map fun si => (si.1, basePortServer + si.2)
    injectorBase := ports.1.injectorBase
    peers := ports.2
    rxOnlyWlanIds }

/-! ## `_setup` -/

def localNode : String := "127.0.0.1"

def txSelectorConfig (cfg : Dict) : Except Raised TxSelectorConfig := do
  let wfb ← orEmpty (cfg.getOr "wfb" (.obj []))
  let txsel ← orEmpty (wfb.getOr "txSelector" (.obj []))
  return {
    rssiDeltaDb := txsel.getOr "rssiDeltaDb" (.int 3)
    counterRelDelta := txsel.getOr "counterRelDelta" (.real (1 / 10))
    counterAbsDelta := txsel.getOr "counterAbsDelta" (.int 3) }

def probeEnabled (cfg : Dict) : Except Raised Bool := do
  let dl ← orEmpty (cfg.getOr "dynamicLink" .null)
  if dlEnabled dl then
    let probe ← orEmpty (dl.getOr "probe" .null)
    return dlEnabled probe
  else return false

def setupFor (cards : List Card) (txSelector : TxSelectorConfig) (probe : Bool) :
    Except Raised Setup := do
  let probeLeg := if probe then ["probe_rx"] else []
  if hasRemote cards then
    let plan ← planCluster inetAton cards 10000 11000 probe
    let nodes := plan.nodes.map Prod.fst
    let atHome := nodes.contains localNode
    return {
      txSelector
      rxOnlyWlanIds := plan.rxOnlyWlanIds
      nodes := (nodes.filter (· ≠ localNode)).insertionSort (· ≤ ·)
      extraRx := (if atHome then (serviceOrder probe).map (· ++ " fwd") else []) ++ probeLeg
      extraTx := if atHome then ["mavlink inj", "tunnel inj"] else [] }
  else return { txSelector, extraRx := probeLeg }

def engineCards (py : PyNumbers) (cfg : Dict) : Except Raised (List Card) := do
  let link ← orEmpty (cfg.getOr "link" (.obj []))
  match parseCards py link with
  | .ok parsed => return parsed.getD []
  | .error (.sshPort e) => .error (.py e)
  | .error _ => .error (.py .valueError)

def engineSetup (py : PyNumbers) (cfg : Dict) : Except Raised Setup := do
  let cards ← engineCards py cfg
  let probe ← probeEnabled cfg
  let txSelector ← txSelectorConfig cfg
  setupFor inetAton cards txSelector probe

/-! ## The id of a card -/

/-- The wlan id that the wfb_tx processes have for each card. -/
def cardIds (cards : List Card) : List (Option ℤ × Card) :=
  if hasRemote cards then
    (groupByNode cards).flatMap fun node => node.2.zipIdx.map fun ci =>
      (match node.1 with
        | .str s => (inetAton s).map (clusterWlanId · ci.2)
        | _ => none, ci.1)
  else cards.zipIdx.map fun ci => (some (ci.2 : ℤ), ci.1)

/-- The id belongs to a card whose `txPowerDbm` is `"off"`. -/
def RxOnlyId (cards : List Card) (wlanId : ℤ) : Prop :=
  ∃ e ∈ cardIds inetAton cards, e.1 = some wlanId ∧ e.2.isRxOnly = true

instance (cards : List Card) (wlanId : ℤ) : Decidable (RxOnlyId inetAton cards wlanId) :=
  inferInstanceAs (Decidable (∃ e ∈ cardIds inetAton cards, _))

variable {inetAton}

theorem nodeText_ok {a : Json × List Card} {b : String × List Card} :
    nodeText a = .ok b ↔ a = (.str b.1, b.2) := by
  obtain ⟨key, cs⟩ := a
  obtain ⟨s, cs'⟩ := b
  cases key <;> simp [nodeText]

theorem mem_rxOnlyOf {node : String × List Card} {s : String} {idx : ℕ} :
    (s, idx) ∈ rxOnlyOf node ↔ s = node.1 ∧ ∃ c, (c, idx) ∈ node.2.zipIdx ∧ c.isRxOnly = true := by
  simp only [rxOnlyOf, List.mem_filterMap, Prod.exists]
  constructor
  · rintro ⟨c, i, hc, h⟩
    split_ifs at h with hrx
    obtain ⟨rfl, rfl⟩ := Prod.mk.inj (Option.some.inj h)
    exact ⟨rfl, c, hc, hrx⟩
  · rintro ⟨rfl, c, hc, hrx⟩
    exact ⟨c, idx, hc, if_pos hrx⟩

theorem wlanIdAt_ok {place : String × ℕ} {w : ℤ} :
    wlanIdAt inetAton place = .ok w ↔ (inetAton place.1).map (clusterWlanId · place.2) = some w := by
  unfold wlanIdAt
  cases inetAton place.1 <;> simp

/-- **The plan excludes** the ids of the RX-only cards, and no other. -/
theorem mem_rxOnlyWlanIds {cards : List Card} {server node : ℕ} {probe : Bool} {plan : ClusterPlan}
    (hremote : hasRemote cards = true) (h : planCluster inetAton cards server node probe = .ok plan)
    {w : ℤ} : w ∈ plan.rxOnlyWlanIds ↔ RxOnlyId inetAton cards w := by
  obtain ⟨nodes, hnodes, h⟩ := Json.bind_eq_ok.mp h
  obtain ⟨ids, hids, h⟩ := Json.bind_eq_ok.mp h
  obtain rfl := Json.pure_eq_ok.mp h
  rw [Json.mem_mapM_ok hids, RxOnlyId, cardIds, if_pos hremote]
  constructor
  · rintro ⟨⟨s, idx⟩, hplace, hid⟩
    obtain ⟨⟨s', cs⟩, hnode, hplace⟩ := List.mem_flatMap.mp hplace
    obtain ⟨rfl, c, hc, hrx⟩ := mem_rxOnlyOf.mp hplace
    obtain ⟨group, hgroup, htext⟩ := (Json.mem_mapM_ok hnodes).mp hnode
    obtain rfl := nodeText_ok.mp htext
    exact ⟨_, List.mem_flatMap.mpr ⟨_, hgroup, List.mem_map.mpr ⟨_, hc, rfl⟩⟩, wlanIdAt_ok.mp hid, hrx⟩
  · rintro ⟨⟨_, _⟩, hcard, hid, hrx⟩
    obtain ⟨⟨key, cs⟩, hgroup, hcard⟩ := List.mem_flatMap.mp hcard
    obtain ⟨⟨c, idx⟩, hc, hpair⟩ := List.mem_map.mp hcard
    obtain ⟨rfl, rfl⟩ := Prod.mk.inj hpair
    -- a card with an id is on a node with a text for a key
    cases key with
    | str s =>
      have hnode : (s, cs) ∈ nodes := (Json.mem_mapM_ok hnodes).mpr ⟨_, hgroup, rfl⟩
      exact ⟨(s, idx), List.mem_flatMap.mpr ⟨_, hnode, mem_rxOnlyOf.mpr ⟨rfl, c, hc, hrx⟩⟩,
        wlanIdAt_ok.mpr hid⟩
    | _ => cases hid

theorem rxOnlyId_excluded {py : PyNumbers} {cfg : Dict} {cards : List Card} {p : Setup}
    (hcards : engineCards py cfg = .ok cards) (h : engineSetup inetAton py cfg = .ok p)
    (hremote : hasRemote cards = true) {w : ℤ} (hw : RxOnlyId inetAton cards w) :
    w ∈ p.rxOnlyWlanIds := by
  obtain ⟨cards', hcards', h⟩ := Json.bind_eq_ok.mp h
  obtain rfl : cards = cards' := Except.ok.inj (hcards.symm.trans hcards')
  obtain ⟨probe, -, h⟩ := Json.bind_eq_ok.mp h
  obtain ⟨txSelector, -, h⟩ := Json.bind_eq_ok.mp h
  simp only [setupFor, if_pos hremote] at h
  obtain ⟨plan, hplan, h⟩ := Json.bind_eq_ok.mp h
  rw [← Json.pure_eq_ok.mp h]
  exact (mem_rxOnlyWlanIds hremote hplan).mpr hw

end Plan

end Fpvd.Wfb
