import Mathlib.Tactic
import Fpvd.Lib.AssocMap

/-!
# Fpvd.Wfb.Uplink — the sockets towards wfb_tx (`gs/fpvdgs/wfb/tunnel.py`, `gs/fpvdgs/wfb/mavproxy.py`)

Both services send through connected sockets.  The MAVLink service has one; the tunnel has a registry by
name, one of it selected, and sends its keepalive to the whole registry while nothing comes in.

A connected socket stays with the process that listened when it connected: `Sock.peer` is the incarnation
of that wfb_tx.  A name that a respawned wfb_tx announces again needs a new socket.
-/

namespace Fpvd.Wfb

open AssocMap

variable {N : Type}

structure Sock (N : Type) where
  id : ℕ
  name : N
  peer : ℕ
  deriving DecidableEq, Repr

/-- Whether the connect of the `n`-th socket of a service succeeds. -/
abbrev Dial (N : Type) := ℕ → N → Bool

/-- The sockets a service has created so far, numbered, and those of them it has closed. -/
structure Sockets where
  created : ℕ := 0
  closed : List ℕ := []
  deriving DecidableEq, Repr

def Sockets.close (ss : Sockets) (socks : List (Sock N)) : Sockets :=
  { ss with closed := socks.map Sock.id ++ ss.closed }

def Sockets.connect (dial : Dial N) (peer : ℕ) (name : N) (ss : Sockets) : Sockets × Option (Sock N) :=
  if dial ss.created name then ({ ss with created := ss.created + 1 }, some ⟨ss.created, name, peer⟩)
  else (⟨ss.created + 1, ss.created :: ss.closed⟩, none)

theorem Sockets.connect_some {dial : Dial N} {peer : ℕ} {name : N} {ss ss' : Sockets} {sock : Sock N}
    (h : ss.connect dial peer name = (ss', some sock)) : sock.name = name ∧ sock.peer = peer := by
  unfold connect at h
  split_ifs at h
  · obtain ⟨-, rfl⟩ := by simpa using h
    exact ⟨rfl, rfl⟩
  · simp at h

theorem Sockets.connect_of_dial {dial : Dial N} (hdial : ∀ i n, dial i n = true) (peer : ℕ) (name : N)
    (ss : Sockets) : ss.connect dial peer name =
      ({ ss with created := ss.created + 1 }, some ⟨ss.created, name, peer⟩) := if_pos (hdial _ _)

/-! ## The MAVLink service -/

structure MavlinkTx (N : Type) where
  sockets : Sockets := {}
  txSock : Option (Sock N) := none
  deriving DecidableEq, Repr

namespace MavlinkTx

variable {dial : Dial N} {peer : ℕ} {m : MavlinkTx N}

def setTxSocket (dial : Dial N) (peer : ℕ) (m : MavlinkTx N) : Option N → MavlinkTx N
  | none => ⟨m.sockets.close m.txSock.toList, none⟩
  | some name =>
    let (sockets, sock) := (m.sockets.close m.txSock.toList).connect dial peer name
    ⟨sockets, sock⟩

theorem setTxSocket_txSock {name : Option N} {sock : Sock N}
    (h : (m.setTxSocket dial peer name).txSock = some sock) :
    name = some sock.name ∧ sock.peer = peer := by
  cases name with
  | none => simp [setTxSocket] at h
  | some n =>
    obtain ⟨rfl, hpeer⟩ := Sockets.connect_some (Prod.ext rfl h)
    exact ⟨rfl, hpeer⟩

theorem setTxSocket_of_dial (hdial : ∀ i n, dial i n = true) (name : N) :
    ∃ sock, (m.setTxSocket dial peer (some name)).txSock = some sock ∧ sock.name = name ∧
      sock.peer = peer := by
  simp only [setTxSocket, Sockets.connect_of_dial hdial]
  exact ⟨_, rfl, rfl, rfl⟩

end MavlinkTx

/-! ## The tunnel -/

structure TunnelTx (N : Type) where
  sockets : Sockets := {}
  txSocks : List (N × Sock N) := []
  txSock : Option (Sock N) := none
  txSockName : Option N := none
  pktInSem : ℕ := 0
  pktOutSem : ℕ := 0
  deriving DecidableEq, Repr

namespace TunnelTx

/-- `_keepalive_tick`: what it sends to.  To all while nothing came in for two rounds, to the selected
one while nothing went out. -/
def keepaliveTo (t : TunnelTx N) : List (Sock N) :=
  if t.pktInSem = 0 then t.txSocks.map Prod.snd
  else if t.pktOutSem = 0 then t.txSock.toList
  else []

def keepaliveTick (t : TunnelTx N) : TunnelTx N :=
  { t with pktInSem := t.pktInSem - 1, pktOutSem := t.pktOutSem - 1 }

def onRxBatch (t : TunnelTx N) : TunnelTx N := { t with pktInSem := 2 }

def onTunReadable (t : TunnelTx N) : TunnelTx N := { t with pktOutSem := 1 }

variable [DecidableEq N]

def setTxSocket (dial : Dial N) (peer : ℕ) (t : TunnelTx N) : Option N → TunnelTx N
  | none => { t with txSockName := none, txSock := none }
  | some name =>
    let old := (find? name t.txSocks).toList
    let txSocks := erase name t.txSocks
    match (t.sockets.close old).connect dial peer name with
    | (sockets, none) => { t with sockets, txSocks }
    | (sockets, some sock) =>
      { t with
        sockets
        txSocks := put name sock txSocks
        txSockName := some name
        txSock := some sock }

/-- The loop of `set_all_tx_sockets`: each name leaves `old` and, connected, enters `new`. -/
def connectAll (dial : Dial N) (peer : ℕ) : List N → List (N × Sock N) → List (N × Sock N) → Sockets →
    Sockets × List (N × Sock N) × List (N × Sock N)
  | [], old, new, ss => (ss, old, new)
  | name :: names, old, new, ss =>
    match (ss.close (find? name old).toList).connect dial peer name with
    | (ss, none) => connectAll dial peer names (erase name old) new ss
    | (ss, some sock) =>
      connectAll dial peer names (erase name old) (put name sock new) ss

def setAllTxSockets (dial : Dial N) (peer : ℕ) (t : TunnelTx N) (names : List N) : TunnelTx N :=
  let (ss, old, new) := connectAll dial peer names t.txSocks [] t.sockets
  let txSock := match t.txSockName with
    | none => t.txSock
    | some name => find? name new
  { t with
    sockets := ss.close (old.map Prod.snd)
    txSocks := new
    txSock
    txSockName := match t.txSockName with
      | none => none
      | some name => if txSock.isSome then some name else none }

variable {dial : Dial N} {peer : ℕ} {t : TunnelTx N}

variable {names : List N} {n : N} {e : N × Sock N}

theorem connectAll_mem {old new : List (N × Sock N)} {ss : Sockets}
    (h : e ∈ (connectAll dial peer names old new ss).2.2) :
    e ∈ new ∨ (e.1 ∈ names ∧ e.2.name = e.1 ∧ e.2.peer = peer) := by
  induction names generalizing old new ss with
  | nil => exact .inl h
  | cons name names ih =>
    unfold connectAll at h
    split at h
    · exact (ih h).imp_right fun ⟨hm, hs⟩ => ⟨List.mem_cons_of_mem _ hm, hs⟩
    · next sock hsock =>
      rcases ih h with hnew | ⟨hm, hs⟩
      · rcases mem_put hnew with rfl | hnew
        · exact .inr ⟨List.mem_cons_self, Sockets.connect_some hsock⟩
        · exact .inl hnew
      · exact .inr ⟨List.mem_cons_of_mem _ hm, hs⟩

theorem connectAll_keys (hdial : ∀ i n, dial i n = true) {old new : List (N × Sock N)} {ss : Sockets} :
    n ∈ keys (connectAll dial peer names old new ss).2.2 ↔
      n ∈ names ∨ n ∈ keys new := by
  induction names generalizing old new ss with
  | nil => simp [connectAll]
  | cons name names ih =>
    unfold connectAll
    rw [Sockets.connect_of_dial hdial]
    simp only [ih, mem_keys_put, List.mem_cons]
    tauto

theorem setAllTxSockets_mem (h : e ∈ (t.setAllTxSockets dial peer names).txSocks) :
    e.1 ∈ names ∧ e.2.name = e.1 ∧ e.2.peer = peer :=
  (connectAll_mem h).resolve_left (List.not_mem_nil)

theorem setAllTxSockets_keys (hdial : ∀ i n, dial i n = true) :
    n ∈ keys (t.setAllTxSockets dial peer names).txSocks ↔ n ∈ names := by
  refine (connectAll_keys hdial).trans ?_
  simp [keys]

theorem setTxSocket_mem {name : Option N} (h : e ∈ (t.setTxSocket dial peer name).txSocks) :
    e ∈ t.txSocks ∨ (name = some e.1 ∧ e.2.name = e.1 ∧ e.2.peer = peer) := by
  cases name with
  | none => exact .inl h
  | some n =>
    unfold setTxSocket at h
    simp only at h
    split at h
    · exact .inl (List.mem_filter.mp h).1
    · next sock hsock =>
      rcases mem_put h with rfl | h
      · exact .inr ⟨rfl, Sockets.connect_some hsock⟩
      · exact .inl (List.mem_filter.mp h).1

theorem setTxSocket_keys (hdial : ∀ i n, dial i n = true) {name : N} :
    n ∈ keys (t.setTxSocket dial peer (some name)).txSocks ↔
      n = name ∨ n ∈ keys t.txSocks := by
  simp only [setTxSocket, Sockets.connect_of_dial hdial, mem_keys_put]
  refine or_congr_right' fun hne => ?_
  rw [← find?_isSome_iff, find?_erase_ne hne, find?_isSome_iff]

theorem setTxSocket_selected (dial : Dial N) (peer : ℕ) (t : TunnelTx N) (name : Option N) :
    ((t.setTxSocket dial peer name).txSock = none ∧ (t.setTxSocket dial peer name).txSockName = none) ∨
      ((t.setTxSocket dial peer name).txSock = t.txSock ∧
        (t.setTxSocket dial peer name).txSockName = t.txSockName) ∨
      ∃ sock, (t.setTxSocket dial peer name).txSock = some sock ∧ name = some sock.name ∧
        sock.peer = peer ∧ (t.setTxSocket dial peer name).txSockName = name := by
  cases name with
  | none => exact .inl ⟨rfl, rfl⟩
  | some n =>
    unfold setTxSocket
    simp only
    split
    · exact .inr (.inl ⟨rfl, rfl⟩)
    · next sock hsock =>
      obtain ⟨rfl, hpeer⟩ := Sockets.connect_some hsock
      exact .inr (.inr ⟨sock, rfl, rfl, hpeer, rfl⟩)

theorem setTxSocket_of_dial (hdial : ∀ i n, dial i n = true) (name : N) :
    ∃ sock, (t.setTxSocket dial peer (some name)).txSock = some sock ∧ sock.name = name ∧
      sock.peer = peer ∧ (t.setTxSocket dial peer (some name)).txSockName = some name := by
  simp only [setTxSocket, Sockets.connect_of_dial hdial]
  exact ⟨_, rfl, rfl, rfl, trivial⟩

theorem setAllTxSockets_selected (dial : Dial N) (peer : ℕ) (t : TunnelTx N) (names : List N) :
    (t.txSockName = none ∧ (t.setAllTxSockets dial peer names).txSock = t.txSock ∧
        (t.setAllTxSockets dial peer names).txSockName = none) ∨
      ((t.setAllTxSockets dial peer names).txSock = none ∧
        (t.setAllTxSockets dial peer names).txSockName = none) ∨
      ∃ sock, (t.setAllTxSockets dial peer names).txSock = some sock ∧ sock.peer = peer ∧
        t.txSockName = some sock.name ∧
        (t.setAllTxSockets dial peer names).txSockName = some sock.name := by
  cases hname : t.txSockName with
  | none => exact .inl ⟨rfl, by simp [setAllTxSockets, hname], by simp [setAllTxSockets, hname]⟩
  | some n =>
    cases hsock : find? n (connectAll dial peer names t.txSocks [] t.sockets).2.2 with
    | none => exact .inr (.inl ⟨by simp [setAllTxSockets, hname, hsock],
        by simp [setAllTxSockets, hname, hsock]⟩)
    | some sock =>
      obtain ⟨-, hn : sock.name = n, hpeer⟩ :=
        (connectAll_mem (mem_of_find? hsock)).resolve_left List.not_mem_nil
      subst hn
      exact .inr (.inr ⟨sock, by simp [setAllTxSockets, hname, hsock], hpeer, rfl,
        by simp [setAllTxSockets, hname, hsock]⟩)

theorem setAllTxSockets_of_dial (hdial : ∀ i n, dial i n = true) (hname : t.txSockName = some n)
    (hn : n ∈ names) :
    ∃ sock, (t.setAllTxSockets dial peer names).txSock = some sock ∧ sock.name = n ∧ sock.peer = peer ∧
      (t.setAllTxSockets dial peer names).txSockName = some n := by
  have hkeys : n ∈ keys (connectAll dial peer names t.txSocks [] t.sockets).2.2 :=
    (connectAll_keys hdial).mpr (.inl hn)
  rw [← find?_isSome_iff, Option.isSome_iff_exists] at hkeys
  obtain ⟨sock, hsock⟩ := hkeys
  obtain ⟨-, hn', hpeer⟩ := (connectAll_mem (mem_of_find? hsock)).resolve_left List.not_mem_nil
  exact ⟨sock, by simp [setAllTxSockets, hname, hsock], hn', hpeer,
    by simp [setAllTxSockets, hname, hsock]⟩

end TunnelTx

end Fpvd.Wfb
