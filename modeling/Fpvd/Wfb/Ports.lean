import Fpvd.Lib.GroupFold
import Fpvd.Wfb.Wiring

/-!
# Fpvd.Wfb.Ports — the ports of a cluster, and the cards behind them (`gs/fpvdgs/wfb/cluster.py`, `graph.py`)

A distributor sends to the ports of its peer arguments.  The injector of a node listens from its base port
on, one port for each wlan that it is given.  The plan counts the cards of a node by their address; the
command line of the local injector lists the cards without a host.
-/

namespace Fpvd.Wfb

open AssocMap

/-! ## The cards of a node -/

section Nodes

variable {cards : List Card}

theorem groupByNode_eq (cards : List Card) : groupByNode cards =
    GroupFold.collect (fun c => [c]) (fun c cs => cs ++ [c]) (cards.map fun c => (nodeKey c, c)) := by
  induction cards using List.reverseRecOn with
  | nil => rfl
  | append_singleton cards c ih =>
    rw [groupByNode_concat, List.map_append, List.map_singleton, GroupFold.collect_concat, ← ih,
      GroupFold.insertRow_eq, addToNode]
    cases find? (nodeKey c) (groupByNode cards) <;> rfl

theorem nodup_groupByNode (cards : List Card) : (keys (groupByNode cards)).Nodup := by
  rw [groupByNode_eq]
  exact GroupFold.nodup_keys_collect _

theorem total_cards {out : List Card} (cs : List Card)
    (h : GroupFold.total (fun c => [c]) (fun c cs => cs ++ [c]) cs = some out) : out = cs := by
  induction cs using List.reverseRecOn generalizing out with
  | nil => cases h
  | append_singleton cs c ih =>
    rw [GroupFold.total_concat] at h
    rw [← Option.some.inj h]
    cases htotal : GroupFold.total (fun c => [c]) (fun c cs => cs ++ [c]) cs with
    | none => rw [GroupFold.total_eq_none.mp htotal]; rfl
    | some out' => rw [ih htotal]; rfl

theorem cards_of_node {k : Json} {cs : List Card} (h : (k, cs) ∈ groupByNode cards) :
    cs = cards.filter (nodeKey · = k) := by
  have hfind := find?_of_mem (nodup_groupByNode cards) h
  rw [groupByNode_eq, GroupFold.find?_collect] at hfind
  rw [total_cards _ hfind, GroupFold.rowsOf, List.filter_map, List.map_map]
  exact List.map_id _

end Nodes

/-! ## Handing out the ports -/

section Alloc

variable {base : ℕ} {service : String} {nodes : List (String × List Card)}

def PortAlloc.nextPort (base : ℕ) (a : PortAlloc) (n : String) : ℕ := (find? n a.next).getD base

def peerArg (first : ℕ) (node : String × List Card) : String :=
  node.1 ++ ":" ++ ",".intercalate ((List.range' first node.2.length).map toString)

/-- **The round of a service** from `a` to `a'`: every node gets as many ports as it has cards, from its
next one on. -/
structure Round (base : ℕ) (service : String) (nodes : List (String × List Card)) (a a' : PortAlloc) :
    Prop where
  peers : a'.peers = a.peers ++ nodes.map fun n => peerArg (a.nextPort base n.1) n
  next : ∀ n ∈ nodes, a'.nextPort base n.1 = a.nextPort base n.1 + n.2.length
  first : ∀ n ∈ nodes, find? (n.1, service) a'.injectorBase = some (a.nextPort base n.1)
  nodes : ∀ k ∉ keys nodes, a'.nextPort base k = a.nextPort base k ∧
    find? (k, service) a'.injectorBase = find? (k, service) a.injectorBase
  services : ∀ k s, s ≠ service → find? (k, s) a'.injectorBase = find? (k, s) a.injectorBase

theorem addNode_other {a : PortAlloc} {m : String × List Card} {k : String} (hk : k ≠ m.1) :
    (a.addNode base service m).nextPort base k = a.nextPort base k ∧
      find? (k, service) (a.addNode base service m).injectorBase = find? (k, service) a.injectorBase := by
  rw [PortAlloc.nextPort, PortAlloc.addNode, find?_put, find?_put, if_neg hk,
    if_neg fun h => hk (Prod.mk.inj h).1]
  exact ⟨rfl, rfl⟩

theorem addNodes_round (hnodup : (keys nodes).Nodup) (a : PortAlloc) :
    Round base service nodes a (nodes.foldl (PortAlloc.addNode base service) a) := by
  induction nodes generalizing a with
  | nil => exact ⟨(List.append_nil _).symm, by simp, by simp, fun _ _ => ⟨rfl, rfl⟩, fun _ _ _ => rfl⟩
  | cons m nodes ih =>
    obtain ⟨hm, hnodup⟩ := List.nodup_cons.mp hnodup
    have hround := ih hnodup (a.addNode base service m)
    have hother : ∀ n ∈ nodes, (a.addNode base service m).nextPort base n.1 = a.nextPort base n.1 := by
      intro n hn
      exact (addNode_other fun h => hm (h ▸ List.mem_map_of_mem hn)).1
    obtain ⟨hnext, hfirst⟩ := hround.nodes m.1 hm
    rw [List.foldl_cons]
    refine ⟨?_, List.forall_mem_cons.mpr ⟨?_, fun n hn => ?_⟩,
      List.forall_mem_cons.mpr ⟨?_, fun n hn => ?_⟩, fun k hk => ?_, fun k s hs => ?_⟩
    · rw [hround.peers, List.map_cons, List.append_cons]
      exact congrArg _ (List.map_congr_left fun n hn => by rw [hother n hn])
    · rw [hnext, PortAlloc.nextPort, PortAlloc.addNode, find?_put, if_pos rfl]
      rfl
    · rw [hround.next n hn, hother n hn]
    · rw [hfirst, PortAlloc.addNode, find?_put, if_pos rfl]
      rfl
    · rw [hround.first n hn, hother n hn]
    · obtain ⟨hne, hk⟩ := not_or.mp fun h => hk (List.mem_cons.mpr h)
      obtain ⟨hnext, hfirst⟩ := hround.nodes k hk
      rw [hnext, hfirst]
      exact addNode_other hne
    · rw [hround.services k s hs, PortAlloc.addNode, find?_put, if_neg fun h => hs (Prod.mk.inj h).2]

theorem addServices_spec (base : ℕ) (hnodup : (keys nodes).Nodup) {services : List String} (hserv : services.Nodup) :
    (∀ n ∈ nodes, (services.foldl (addService base nodes) ({}, [])).1.nextPort base n.1 =
      base + services.length * n.2.length) ∧
    ∀ i s, services[i]? = some s →
      (s, nodes.map fun n => peerArg (base + i * n.2.length) n) ∈
        (services.foldl (addService base nodes) ({}, [])).2 ∧
      ∀ n ∈ nodes, find? (n.1, s) (services.foldl (addService base nodes) ({}, [])).1.injectorBase =
        some (base + i * n.2.length) := by
  induction services using List.reverseRecOn with
  | nil => exact ⟨fun n _ => by simp [PortAlloc.nextPort], fun i s h => by simp at h⟩
  | append_singleton services service ih =>
    obtain ⟨hserv, -, hnew⟩ := List.nodup_append.mp hserv
    obtain ⟨hnext, hports⟩ := ih hserv
    rw [List.foldl_concat]
    generalize services.foldl (addService base nodes) ({}, []) = acc at hnext hports ⊢
    have hround : Round base service nodes { acc.1 with peers := [] }
      (addService base nodes acc service).1 := addNodes_round hnodup _
    have hstart : ∀ n ∈ nodes, PortAlloc.nextPort base { acc.1 with peers := [] } n.1 =
      base + services.length * n.2.length := hnext
    refine ⟨fun n hn => ?_, fun i s hs => ?_⟩
    · rw [hround.next n hn, hstart n hn, List.length_append, List.length_singleton]
      ring
    · rw [List.getElem?_append] at hs
      split_ifs at hs with hi
      · obtain ⟨hpeers, hbase⟩ := hports i s hs
        refine ⟨List.mem_append_left _ hpeers, fun n hn => ?_⟩
        rw [hround.services n.1 s fun h => hnew s (List.mem_of_getElem? hs) service (by simp) h]
        exact hbase n hn
      · obtain ⟨hlast, hs⟩ := List.getElem?_eq_some_iff.mp hs
        obtain rfl : i = services.length := by
          rw [List.length_singleton] at hlast
          omega
        obtain rfl : service = s := by simpa using hs
        refine ⟨List.mem_append_right _ (List.mem_singleton.mpr ?_), fun n hn => ?_⟩
        · refine congrArg _ (.trans ?_ hround.peers.symm)
          exact List.map_congr_left fun n hn => by rw [hstart n hn]
        · rw [hround.first n hn, hstart n hn]

end Alloc

/-! ## The plan -/

section Plan

variable {inetAton : String → Option ℕ} {cards : List Card} {server base : ℕ} {probe : Bool}
  {plan : ClusterPlan}

/-- The wlans at the end of an injector's command line. -/
def injectorWlans (cards : List Card) (node : String × List Card) : List Json :=
  if node.1 = localNode then localIfaces cards else node.2.map Card.iface

theorem localIfaces_eq_iff : localIfaces cards = (cards.filter (nodeKey · = .str localNode)).map Card.iface ↔
    ∀ c ∈ cards, nodeKey c = .str localNode → c.isLocal = true := by
  have hlocal : ∀ c : Card, c.isLocal = true → nodeKey c = .str localNode := by
    intro c hc
    rw [nodeKey, Option.isNone_iff_eq_none.mp hc]
    rfl
  constructor
  · intro h c hc hkey
    have hsub : (cards.filter Card.isLocal).Sublist (cards.filter (nodeKey · = .str localNode)) :=
      List.monotone_filter_right cards fun c hc => decide_eq_true (hlocal c hc)
    have hlen : (cards.filter Card.isLocal).length = (cards.filter (nodeKey · = .str localNode)).length := by
      simpa [localIfaces] using congrArg List.length h
    have hmem : c ∈ cards.filter (nodeKey · = .str localNode) :=
      List.mem_filter.mpr ⟨hc, decide_eq_true hkey⟩
    rw [← hsub.eq_of_length hlen] at hmem
    exact (List.mem_filter.mp hmem).2
  · intro h
    refine congrArg (List.map Card.iface) (List.filter_congr fun c hc => Bool.eq_iff_iff.mpr ?_)
    exact ⟨fun hl => decide_eq_true (hlocal c hl), fun hk => h c hc (of_decide_eq_true hk)⟩

theorem nodup_nodes {groups : List (Json × List Card)} {nodes : List (String × List Card)}
    (h : groups.mapM nodeText = .ok nodes) (hnodup : (keys groups).Nodup) : (keys nodes).Nodup := by
  have hkeys : keys groups = (keys nodes).map Json.str := by
    rw [Json.mapM_eq_ok] at h
    induction h with
    | nil => rfl
    | cons hx _ ih => simp_all [keys, nodeText_ok.mp hx]
  exact (hkeys ▸ hnodup).of_map

/-- **Ports and cards.**  A node has the cards of its address, in order.  The `i`-th service has the ports
`base + i * n` up to `base + (i + 1) * n` of a node with `n` cards, in its peer argument as for its injector;
so ranges are disjoint, and the probe, which comes last, moves none.  And every injector is given the cards
behind its ports, one for one, exactly if every card at the local address is one without a host. -/
theorem cluster_ports (h : planCluster inetAton cards server base probe = .ok plan) :
    (∀ n ∈ plan.nodes, n.2 = cards.filter (nodeKey · = .str n.1)) ∧
    (∀ i s, (serviceOrder probe)[i]? = some s →
      find? s plan.peers = some ((plan.nodes.insertionSort fun a b => a.1 ≤ b.1).map fun n =>
        peerArg (base + i * n.2.length) n) ∧
      ∀ n ∈ plan.nodes, find? (n.1, s) plan.injectorBase = some (base + i * n.2.length)) ∧
    ((∀ n ∈ plan.nodes, injectorWlans cards n = n.2.map Card.iface) ↔
      ∀ c ∈ cards, nodeKey c = .str localNode → c.isLocal = true) := by
  obtain ⟨nodes, hnodes, h⟩ := Json.bind_eq_ok.mp h
  obtain ⟨ids, -, h⟩ := Json.bind_eq_ok.mp h
  obtain rfl := Json.pure_eq_ok.mp h
  have hcards : ∀ n ∈ nodes, n.2 = cards.filter (nodeKey · = .str n.1) := by
    rintro ⟨s, cs⟩ hn
    exact cards_of_node ((mem_nodes hnodes).mp hn)
  refine ⟨hcards, fun i s hs => ?_, ?_⟩
  · have hperm := List.perm_insertionSort (fun a b : String × List Card => a.1 ≤ b.1) nodes
    have hnodup := ((hperm.map Prod.fst).nodup_iff).mpr (nodup_nodes hnodes (nodup_groupByNode cards))
    have hserv : (serviceOrder probe).Nodup := by cases probe <;> decide
    obtain ⟨hpeers, hbase⟩ := (addServices_spec base hnodup hserv).2 i s hs
    refine ⟨find?_of_mem ?_ hpeers, fun n hn => hbase n (hperm.mem_iff.mpr hn)⟩
    rw [keys_addServices]
    exact hserv
  · constructor
    · intro hall c hc hkey
      obtain ⟨cs, hfind, -⟩ := groupByNode_find hc
      rw [hkey] at hfind
      have hn : (localNode, cs) ∈ nodes := (mem_nodes hnodes).mpr (mem_of_find? hfind)
      have hwlans := hall _ hn
      rw [injectorWlans, if_pos rfl, hcards _ hn] at hwlans
      exact localIfaces_eq_iff.mp hwlans c hc hkey
    · intro hlocal n hn
      unfold injectorWlans
      split_ifs with hname
      · rw [localIfaces_eq_iff.mpr hlocal, hcards n hn, hname]
      · rfl

def namedLocalCards : List Card :=
  [{ host := none, iface := .str "wlan0" }, { host := some (.str "127.0.0.1"), iface := .str "wlan1" },
    { host := some (.str "10.0.0.2"), iface := .str "wlan2" }]

/-- They are planned, and the local injector is given one wlan for its two ports. -/
theorem cluster_ports_namedLocal : ∃ plan,
    planCluster (fun _ => none) namedLocalCards 10000 11000 false = .ok plan ∧
      ¬ ∀ n ∈ plan.nodes, injectorWlans namedLocalCards n = n.2.map Card.iface := by
  have hok : (planCluster (fun _ => none) namedLocalCards 10000 11000 false).isOk = true := by
    decide +kernel
  cases hplan : planCluster (fun _ => none) namedLocalCards 10000 11000 false with
  | error e =>
    rw [hplan] at hok
    cases hok
  | ok plan =>
    refine ⟨plan, rfl, fun h => ?_⟩
    have hlocal := (cluster_ports hplan).2.2.mp h
    revert hlocal
    decide +kernel

end Plan

end Fpvd.Wfb
