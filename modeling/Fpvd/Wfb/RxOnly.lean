import Fpvd.Gs.Api
import Fpvd.Wfb.Cluster
import Fpvd.Wfb.Rewire

/-!
# Fpvd.Wfb.RxOnly — cards that must not transmit

A card with `txPowerDbm: "off"` is RX-only.  The selector of a cluster never takes one.  A socket of
wfb_tx is also chosen in three other ways: as the first one of a process, where the selected card has
none or none is selected yet; by the keepalive to all; and in a link of local cards, where the selector
is told of no RX-only card at all.
-/

namespace Fpvd.Wfb

namespace Engine

variable {N : Type} (owner : N → ℤ) (bad : ℤ → Prop)

def Announced : Event N → Prop
  | .txLine _ (.listenUnix sock wlanId) => owner sock = wlanId
  | _ => True

instance : (i : Event N) → Decidable (Announced owner i)
  | .txLine _ (.listenUnix sock wlanId) => inferInstanceAs (Decidable (owner sock = wlanId))
  | .txLine _ .listenUnixEnd | .txLine _ .listenUdpEnd | .txLine _ .other | .exits _ | .spawns _
  | .watch _ | .rxLine _ _ | .wire | .ready | .tick | .stop | .resume | .keepalive | .rxBatch
  | .tunReadable | .tunSend | .mavSend => .isTrue trivial

/-- The first socket of the process is not of an RX-only card. -/
def FirstTransmits (c : TxChild N) : Prop := ∀ s ∈ c.parser.unixSockets.head?, ¬ bad s.1

def Serves (c : TxChild N) (wlanId : Option ℤ) : Prop :=
  ∃ w ∈ wlanId, w ∈ AssocMap.keys c.parser.unixSockets

/-- A round of the ticker that rewires finds a socket for the selected card, and a card that it may
select has one. -/
def ServesRound (e : Engine N) (c : TxChild N) : Prop :=
  ((∃ leg, e.respawned leg = true) → Serves c e.selector.current) ∧
    ∀ w ∈ heard e.windows, w ∉ e.selector.rxOnlyWlanIds → Serves c (some w)

/-- The condition on a step; `clustered` says that the link has a remote card. -/
def Careful (clustered : Bool) (e : Engine N) : Event N → Prop
  | .wire => e.stage = .setup → ∀ leg, FirstTransmits bad (e.tx leg)
  | .tick => e.ticker = .running →
      (∀ leg, FirstTransmits bad (e.tx leg) ∨ ServesRound e (e.tx leg)) ∧
        (clustered = false → ∀ w ∈ heard e.windows, ¬ bad w)
  | .keepalive => ∀ t ∈ e.tunnel, t.pktInSem = 0 → ∀ s ∈ t.txSocks, ¬ bad (owner s.2.name)
  | _ => True

section Decide

variable [DecidablePred bad]

instance (c : TxChild N) : Decidable (FirstTransmits bad c) :=
  inferInstanceAs (Decidable (∀ s ∈ c.parser.unixSockets.head?, _))

instance (c : TxChild N) (wlanId : Option ℤ) : Decidable (Serves c wlanId) :=
  inferInstanceAs (Decidable (∃ w ∈ wlanId, _))

instance (e : Engine N) (c : TxChild N) : Decidable (ServesRound e c) :=
  letI : Decidable (∃ leg, e.respawned leg = true) :=
    decidable_of_iff (¬ ∀ leg, e.respawned leg = false) (by simp)
  inferInstanceAs (Decidable (_ ∧ _))

instance (clustered : Bool) (e : Engine N) : (i : Event N) → Decidable (Careful owner bad clustered e i)
  | .wire => inferInstanceAs (Decidable (e.stage = .setup → _))
  | .tick => inferInstanceAs (Decidable (e.ticker = .running → _))
  | .keepalive => inferInstanceAs (Decidable (∀ t ∈ e.tunnel, _))
  | .txLine _ _ | .exits _ | .spawns _ | .watch _ | .rxLine _ _ | .ready | .stop | .resume | .rxBatch
  | .tunReadable | .tunSend | .mavSend => .isTrue trivial

end Decide

/-! ## The invariant -/

/-- What the tunnel has selected is not of an RX-only card. -/
structure TunnelQuiet (t : TunnelTx N) : Prop where
  sock : ∀ s ∈ t.txSock, ¬ bad (owner s.name)
  name : ∀ n ∈ t.txSockName, ¬ bad (owner n)

structure Quiet (clustered : Bool) (e : Engine N) : Prop where
  excluded : clustered = true → ∀ w, bad w → w ∈ e.selector.rxOnlyWlanIds
  current : ∀ w ∈ e.selector.current, ¬ bad w
  announced : ∀ leg, ∀ s ∈ (e.tx leg).parser.unixSockets, owner s.2 = s.1
  mavlink : ∀ m ∈ e.mavService, ∀ s ∈ m.txSock, ¬ bad (owner s.name)
  tunnel : ∀ t ∈ e.tunnel, TunnelQuiet owner bad t

variable {owner bad} {clustered : Bool} {e e' : Engine N} {c : TxChild N}

theorem socketFor_transmits {wlanId : Option ℤ} {n : N}
    (hann : ∀ s ∈ c.parser.unixSockets, owner s.2 = s.1) (hid : ∀ w ∈ wlanId, ¬ bad w)
    (hc : FirstTransmits bad c ∨ Serves c wlanId) (h : c.socketFor wlanId = some n) :
    ¬ bad (owner n) := by
  unfold TxChild.socketFor at h
  split at h
  · cases h
  · next w first rest hsocks =>
    split at h
    · next sock hfind =>
      obtain ⟨id, hsel, hsock⟩ := Option.bind_eq_some_iff.mp hfind
      rw [← hsocks] at hsock
      have hown : owner sock = id := hann _ (AssocMap.mem_of_find? hsock)
      rw [← Option.some.inj h, hown]
      exact hid id hsel
    · next hfind =>
      -- the first socket: the selected card has none
      have hfirst : FirstTransmits bad c := by
        refine hc.resolve_right ?_
        rintro ⟨id, rfl, hmem⟩
        rw [hsocks, ← AssocMap.find?_isSome_iff] at hmem
        simp only [Option.bind_some] at hfind
        simp [hfind] at hmem
      have hown : owner first = w := hann (w, first) (by rw [hsocks]; exact List.mem_cons_self)
      rw [← Option.some.inj h, hown]
      exact hfirst (w, first) (by rw [hsocks]; rfl)

theorem Quiet.congr (h : Quiet owner bad clustered e) (hsel : e'.selector = e.selector)
    (htx : ∀ leg, (e'.tx leg).parser.unixSockets = (e.tx leg).parser.unixSockets)
    (hmav : ∀ m ∈ e'.mavService, m ∈ e.mavService) (htun : ∀ t ∈ e'.tunnel, t ∈ e.tunnel) :
    Quiet owner bad clustered e' where
  excluded := by rw [hsel]; exact h.excluded
  current := by rw [hsel]; exact h.current
  announced leg := by rw [htx]; exact h.announced leg
  mavlink m hm := h.mavlink m (hmav m hm)
  tunnel t ht := h.tunnel t (htun t ht)

theorem Quiet.same (h : Quiet owner bad clustered e) (hsel : e'.selector = e.selector)
    (htx : e'.tx = e.tx) (hmav : e'.mavService = e.mavService) (htun : e'.tunnel = e.tunnel) :
    Quiet owner bad clustered e' :=
  h.congr hsel (fun _ => by rw [htx]) (fun _ hm => hmav ▸ hm) fun _ ht => htun ▸ ht

theorem Quiet.update_tx (h : Quiet owner bad clustered e) (leg : TxLeg)
    (hc : ∀ s ∈ c.parser.unixSockets, owner s.2 = s.1) :
    Quiet owner bad clustered { e with tx := Function.update e.tx leg c } where
  excluded := h.excluded
  current := h.current
  announced leg' s hs := by
    replace hs : s ∈ (Function.update e.tx leg c leg').parser.unixSockets := hs
    rcases eq_or_ne leg' leg with rfl | hne
    · rw [Function.update_self] at hs
      exact hc s hs
    · rw [Function.update_of_ne hne] at hs
      exact h.announced leg' s hs
  mavlink := h.mavlink
  tunnel := h.tunnel

theorem Quiet.map_tunnel (h : Quiet owner bad clustered e) {f : TunnelTx N → TunnelTx N}
    (hf : ∀ t, TunnelQuiet owner bad t → TunnelQuiet owner bad (f t)) :
    Quiet owner bad clustered { e with tunnel := e.tunnel.map f } where
  excluded := h.excluded
  current := h.current
  announced := h.announced
  mavlink := h.mavlink
  tunnel t ht := by
    obtain ⟨t', ht', rfl⟩ := Option.map_eq_some_iff.mp ht
    exact hf t' (h.tunnel t' ht')

theorem feedTx_quiet (h : Quiet owner bad clustered e) {leg : TxLeg} {line : TxLine N}
    (hann : Announced owner (.txLine leg line)) : Quiet owner bad clustered (e.feedTx leg line) := by
  refine h.update_tx leg fun s hs => ?_
  cases line with
  | listenUnix sock wlanId =>
    rcases AssocMap.mem_put hs with rfl | hs
    · exact hann
    · exact h.announced leg s hs
  | _ => exact h.announced leg s hs

theorem spawn_quiet (h : Quiet owner bad clustered e) (c : ChildId) :
    Quiet owner bad clustered (e.spawn c) := by
  unfold spawn
  split_ifs
  · cases c with
    | tx leg =>
      simp only
      split_ifs
      · have hnew := h.update_tx leg (c := ⟨(e.tx leg).incarnation + 1, {}, .handshake⟩)
          fun s hs => absurd hs List.not_mem_nil
        exact hnew.same rfl rfl rfl rfl
      · exact h
    | _ => exact h.same rfl rfl rfl rfl
  · exact h

/-! ## The operations -/

section Operations

variable [DecidableEq N] {dial : TxLeg → Dial N}

theorem TunnelQuiet.setTxSocket {t : TunnelTx N} (h : TunnelQuiet owner bad t) (leg : TxLeg) (peer : ℕ)
    {name : Option N} (hname : ∀ n ∈ name, ¬ bad (owner n)) :
    TunnelQuiet owner bad (t.setTxSocket (dial leg) peer name) := by
  rcases TunnelTx.setTxSocket_selected (dial leg) peer t name with
    ⟨hs, hn⟩ | ⟨hs, hn⟩ | ⟨sock, hs, hsock, -, hn⟩
  · exact ⟨by simp [hs], by simp [hn]⟩
  · exact ⟨by rw [hs]; exact h.sock, by rw [hn]; exact h.name⟩
  · refine ⟨fun s hs' => ?_, by rw [hn]; exact hname⟩
    obtain rfl : sock = s := Option.some.inj (hs.symm.trans hs')
    exact hname _ hsock

theorem TunnelQuiet.setAllTxSockets {t : TunnelTx N} (h : TunnelQuiet owner bad t) (leg : TxLeg)
    (peer : ℕ) (names : List N) :
    TunnelQuiet owner bad (t.setAllTxSockets (dial leg) peer names) := by
  rcases TunnelTx.setAllTxSockets_selected (dial leg) peer t names with
    ⟨-, hs, hn⟩ | ⟨hs, hn⟩ | ⟨sock, hs, -, hsel, hn⟩
  · exact ⟨by rw [hs]; exact h.sock, by simp [hn]⟩
  · exact ⟨by simp [hs], by simp [hn]⟩
  · have hsock : ¬ bad (owner sock.name) := h.name _ hsel
    exact ⟨by simpa [hs] using hsock, by simpa [hn] using hsock⟩

theorem Quiet.apply (h : Quiet owner bad clustered e) (dial : TxLeg → Dial N) {wlanId : Option ℤ}
    (hsock : ∀ leg n, (e.tx leg).socketFor wlanId = some n → ¬ bad (owner n)) :
    Quiet owner bad clustered (e.applyTxSelection dial wlanId).1 := by
  have hmav : ∀ m : MavlinkTx N, ∀ s ∈ (m.setTxSocket (dial .mavlinkTx) (e.tx .mavlinkTx).incarnation
      ((e.tx .mavlinkTx).socketFor wlanId)).txSock, ¬ bad (owner s.name) :=
    fun m s hs => hsock _ _ (MavlinkTx.setTxSocket_txSock hs).1
  unfold applyTxSelection
  cases hm : e.mavService with
  | none => exact h
  | some mav =>
    cases ht : e.tunnel with
    | none =>
      exact ⟨h.excluded, h.current, h.announced, fun _ hm => Option.some.inj hm ▸ hmav mav, nofun⟩
    | some tun =>
      exact ⟨h.excluded, h.current, h.announced, fun _ hm => Option.some.inj hm ▸ hmav mav,
        fun _ ht' => Option.some.inj ht' ▸ (h.tunnel tun ht).setTxSocket _ _ (hsock _)⟩

theorem Quiet.check (h : Quiet owner bad clustered e) (dial : TxLeg → Dial N)
    (hserve : (∃ leg, e.respawned leg = true) → ∀ leg, FirstTransmits bad (e.tx leg) ∨
      Serves (e.tx leg) e.selector.current) :
    Quiet owner bad clustered (e.checkTxRespawns dial).1 := by
  unfold checkTxRespawns
  split_ifs with hre
  · have hleg : ∃ leg, e.respawned leg = true :=
      (Bool.or_eq_true _ _ ▸ hre).elim (fun hr => ⟨_, hr⟩) fun hr => ⟨_, hr⟩
    have hcommit : Quiet owner bad clustered e.commit :=
      h.same rfl rfl rfl rfl
    have happly : Quiet owner bad clustered (e.commit.applyTxSelection dial e.selector.current).1 :=
      hcommit.apply dial fun leg n hn =>
        socketFor_transmits (h.announced leg) h.current (hserve hleg leg) hn
    split
    · next heq => simpa [heq] using happly
    · next heq =>
      rw [heq] at happly
      exact happly.map_tunnel fun t ht => ht.setAllTxSockets _ _ _
  · exact h

theorem Quiet.aggregate (h : Quiet owner bad clustered e)
    (hserve : ∀ w ∈ heard e.windows, w ∉ e.selector.rxOnlyWlanIds → ∀ leg,
      FirstTransmits bad (e.tx leg) ∨ Serves (e.tx leg) (some w))
    (hlocal : clustered = false → ∀ w ∈ heard e.windows, ¬ bad w) :
    Quiet owner bad clustered (e.aggregate dial) := by
  unfold Engine.aggregate
  cases hhub : e.hub with
  | none => exact h.same rfl rfl rfl rfl
  | some hub =>
    have hwin : e.windows = hub.cur := by rw [windows, hhub]; rfl
    simp only
    split
    · exact h.same rfl rfl rfl rfl
    · next sel agg hagg =>
      rcases aggregateWindow_select hagg with ⟨rfl, hnone⟩ | ⟨w, ⟨hrx, hheard⟩, rfl, hsome⟩
      · rw [hnone]
        exact h.same rfl rfl rfl rfl
      · rw [hsome]
        rw [← hwin] at hheard
        -- the plan keeps the selector off the RX-only cards of a cluster
        have hw : ¬ bad w := by
          cases hcl : clustered with
          | true => exact fun hbad => hrx (h.excluded hcl w hbad)
          | false => exact hlocal hcl w hheard
        have hid : ∀ w' ∈ some w, ¬ bad w' := fun _ hw' => Option.some.inj hw' ▸ hw
        have hsel : Quiet owner bad clustered
            { e with hub := some {}, selector := { e.selector with current := some w } } :=
          ⟨h.excluded, hid, h.announced, h.mavlink, h.tunnel⟩
        exact hsel.apply dial fun leg n hn =>
          socketFor_transmits (h.announced leg) hid (hserve w hheard hrx leg) hn

theorem tick_quiet (h : Quiet owner bad clustered e) (hcare : Careful owner bad clustered e .tick) :
    Quiet owner bad clustered (e.tick dial) := by
  unfold Engine.tick
  split_ifs with hrun
  · obtain ⟨hlegs, hlocal⟩ := hcare hrun
    have hcheck := h.check dial fun hre leg => (hlegs leg).imp_right fun hr => hr.1 hre
    obtain ⟨mav, tun, com, hshape, -⟩ := checkTxRespawns_shape dial (e := e)
    split
    · next heq =>
      rw [heq] at hcheck
      exact hcheck.same rfl rfl rfl rfl
    · next heq =>
      rw [heq] at hcheck hshape
      subst hshape
      exact hcheck.aggregate (fun w hw hrx leg => (hlegs leg).imp_right fun hr => hr.2 w hw hrx) hlocal
  · exact h

theorem wire_quiet (h : Quiet owner bad clustered e) (hcare : Careful owner bad clustered e .wire) :
    Quiet owner bad clustered (e.wire dial) := by
  unfold wire
  split
  · next hstage =>
    have hnew : TunnelQuiet owner bad (e.broadcastTo dial {}) :=
      TunnelQuiet.setAllTxSockets ⟨nofun, nofun⟩ _ _ _
    have hwired : Quiet owner bad clustered { e with
        mavService := some {}
        tunnel := some (e.broadcastTo dial {})
        committed := fun leg => some (e.tx leg).incarnation
        stage := .wired } :=
      ⟨h.excluded, h.current, h.announced, fun _ hm => Option.some.inj hm ▸ nofun,
        fun _ ht => Option.some.inj ht ▸ hnew⟩
    exact hwired.apply dial fun leg n hn =>
      socketFor_transmits (h.announced leg) h.current (.inl (hcare hstage leg)) hn
  · exact h

end Operations

/-! ## Teardown -/

theorem callStop_sockets (c : ChildId) (leg : TxLeg) :
    ((e.callStop c).tx leg).parser.unixSockets = (e.tx leg).parser.unixSockets := by
  cases c with
  | tx leg' =>
    show (Function.update e.tx leg' (e.tx leg').cancelWatch leg).parser.unixSockets = _
    rcases eq_or_ne leg leg' with rfl | hne
    · rw [Function.update_self]
      rfl
    · rw [Function.update_of_ne hne]
  | _ => rfl

theorem Quiet.nextChild (h : Quiet owner bad clustered e) (left : List ChildId) :
    Quiet owner bad clustered (e.nextChild left) := by
  cases left with
  | nil => exact h.same rfl rfl rfl rfl
  | cons c cs => exact h.congr rfl (callStop_sockets c) (fun _ hm => hm) fun _ ht => ht

theorem Quiet.nextSession (h : Quiet owner bad clustered e) (left : List String) :
    Quiet owner bad clustered (e.nextSession left) := by
  cases left with
  | nil =>
    simp only [Engine.nextSession, cancelTicker]
    split <;> exact h.same rfl rfl rfl rfl
  | cons n ns => exact h.same rfl rfl rfl rfl

theorem Quiet.stop (h : Quiet owner bad clustered e) : Quiet owner bad clustered e.stop := by
  unfold Engine.stop
  split
  · have hdrop : Quiet owner bad clustered { e with tunnel := none } :=
      h.congr rfl (fun _ => rfl) (fun _ hm => hm) fun _ ht => nomatch ht
    exact hdrop.nextSession _
  · exact h

theorem Quiet.resume (h : Quiet owner bad clustered e) : Quiet owner bad clustered e.resume := by
  unfold Engine.resume
  split
  · exact h.nextSession _
  · exact h.same rfl rfl rfl rfl
  · have hdrop : Quiet owner bad clustered { e with statsServer := false, mavService := none } :=
      h.congr rfl (fun _ => rfl) (fun _ hm => nomatch hm) fun _ ht => ht
    exact hdrop.nextChild _
  · split_ifs
    · exact h
    · next c cs _ _ =>
      have hgone : Quiet owner bad clustered { e with running := Function.update e.running c false } :=
        h.same rfl rfl rfl rfl
      exact hgone.nextChild cs
  · exact h

/-! ## Steps and runs -/

section Runs

variable {i : Event N}

theorem quiet_sends (h : Quiet owner bad clustered e) (hcare : Careful owner bad clustered e i) :
    ∀ s ∈ e.sends i, ¬ bad (owner s.name) := by
  intro s hs
  cases i with
  | keepalive =>
    cases ht : e.tunnel with
    | none => simp [sends, ht] at hs
    | some t =>
      replace hs : s ∈ t.keepaliveTo := by simpa [sends, ht] using hs
      unfold TunnelTx.keepaliveTo at hs
      split_ifs at hs with hin
      · obtain ⟨entry, hentry, rfl⟩ := List.mem_map.mp hs
        exact hcare t ht hin entry hentry
      · exact (h.tunnel t ht).sock s (Option.mem_toList.mp hs)
      · cases hs
  | tunSend =>
    obtain ⟨t, ht, hsock⟩ := Option.bind_eq_some_iff.mp (Option.mem_toList.mp hs)
    exact (h.tunnel t ht).sock s hsock
  | mavSend =>
    obtain ⟨m, hm, hsock⟩ := Option.bind_eq_some_iff.mp (Option.mem_toList.mp hs)
    exact h.mavlink m hm s hsock
  | _ => cases hs

variable [DecidableEq N] {dial : TxLeg → Dial N}

theorem quiet_step (h : Quiet owner bad clustered e) (hcare : Careful owner bad clustered e i)
    (hann : Announced owner i) : Quiet owner bad clustered (step dial e i) := by
  cases i with
  | spawns c => exact spawn_quiet h c
  | watch leg => exact h.update_tx leg (by rw [(TxChild.resumeWatch_parts _ _).2]; exact h.announced leg)
  | txLine leg line => exact feedTx_quiet h hann
  | rxLine leg line =>
    obtain ⟨rx, hub, hshape, -⟩ := feedRx_shape (e := e) leg line
    rw [step, hshape]
    exact h.same rfl rfl rfl rfl
  | wire => exact wire_quiet h hcare
  | ready =>
    simp only [step, ready]
    split
    · exact h.same rfl rfl rfl rfl
    · exact h
  | tick => exact tick_quiet h hcare
  | stop => exact h.stop
  | resume => exact h.resume
  | keepalive => exact h.map_tunnel fun t ht => ⟨ht.sock, ht.name⟩
  | rxBatch => exact h.map_tunnel fun t ht => ⟨ht.sock, ht.name⟩
  | tunReadable => exact h.map_tunnel fun t ht => ⟨ht.sock, ht.name⟩
  | _ => exact h.same rfl rfl rfl rfl

/-- **RX-only cards do not transmit** in a careful run: whatever the statistics, the respawns and the
connects, no datagram and no keepalive goes to a socket of a card whose `txPowerDbm` is `"off"`. -/
theorem rxOnly_never_sent (inetAton : String → Option ℕ) (py : Gs.PyNumbers) (cfg : Gs.Dict)
    (cards : List Card) (p : Setup) (hcards : engineCards py cfg = .ok cards)
    (hsetup : engineSetup inetAton py cfg = .ok p) (owner : N → ℤ) (dial : TxLeg → Dial N)
    (is : List (Event N)) (hann : ∀ i ∈ is, Announced owner i)
    (hcare : Run.Meets (step dial) (Careful owner (RxOnlyId inetAton cards) (hasRemote cards))
      (start p) is) :
    ∀ s ∈ Run.shown (step dial) sends (start p) is, ¬ RxOnlyId inetAton cards (owner s.name) := by
  have hstart : Quiet owner (RxOnlyId inetAton cards) (hasRemote cards) (start p) :=
    ⟨fun hremote _ hw => rxOnlyId_excluded hcards hsetup hremote hw, nofun,
      fun _ s hs => absurd hs List.not_mem_nil, nofun, nofun⟩
  exact (hcare.and_mem _ _ hann).shown_forall (fun _ _ h hc => quiet_step h hc.1 hc.2)
    (fun _ _ h hc => quiet_sends h hc.1) _ _ hstart

end Runs

/-! ## A remote and a local card -/

def withCards (cards : List Json) : Gs.Dict :=
  Gs.deepMerge Gs.defaultConfig [("link", .obj [("cards", .arr cards)])]

def twoNodes (host : String) : Option ℕ :=
  if host = "10.0.0.2" then some 167772162 else if host = "127.0.0.1" then some 2130706433 else none

def remoteId : ℤ := clusterWlanId 167772162 0

def localId : ℤ := clusterWlanId 2130706433 0

/-- The two wfb_tx announce these cards, and the uplink is wired; a socket is the name of its process
with the id of its card. -/
def cardsUp (ids : List ℤ) : List (Event (String × ℤ)) :=
  handshake .mavlinkTx (ids.map fun w => (("mavlink-tx", w), w)) ++
    handshake .tunnelTx (ids.map fun w => (("tunnel-tx", w), w)) ++ [.wire, .ready]

def hears (w rssi : ℤ) : List (Event (String × ℤ)) :=
  [.rxLine .videoRx
      (.rxAnt ((5805, 1, 20), w <<< (8 : ℕ)) ⟨100, rssi, rssi, rssi, 20, 20, 20, -1, -1, -1⟩),
    .rxLine .videoRx (.pkt {})]

def twoNodesSetup (rxOnlyId : ℤ) : Setup where
  rxOnlyWlanIds := [rxOnlyId]
  nodes := ["10.0.0.2"]
  extraRx := ["video fwd", "mavlink fwd", "tunnel fwd"]
  extraTx := ["mavlink inj", "tunnel inj"]

def offLocalConfig : Gs.Dict :=
  withCards [.obj [("host", .str "10.0.0.2"), ("iface", .str "wlan0")],
    .obj [("iface", .str "wlan1"), ("txPowerDbm", .str "off")]]

def offLocalCards : List Card :=
  [{ host := some (.str "10.0.0.2"), iface := .str "wlan0" },
    { host := none, iface := .str "wlan1", txpowerDbm := some (.str "off") }]

def offLocal : List (Event (String × ℤ)) :=
  cardsUp [remoteId, localId] ++ [.rxBatch, .keepalive] ++ hears localId (-30) ++
    [.tick] ++ hears remoteId (-70) ++ [.tick, .mavSend, .tunSend]

theorem rxOnly_never_sent_offLocal :
    Gs.validateEffective Gs.plainPlatform offLocalConfig = .ok () ∧
      (Run.shown (step allConnect) sends (start (twoNodesSetup localId)) offLocal).length = 3 ∧
      ∀ s ∈ Run.shown (step allConnect) sends (start (twoNodesSetup localId)) offLocal,
        ¬ RxOnlyId twoNodes offLocalCards s.name.2 :=
  ⟨by decide +kernel, by decide +kernel,
    rxOnly_never_sent twoNodes Gs.plainPlatform.py offLocalConfig offLocalCards (twoNodesSetup localId)
      (by decide +kernel) (by decide +kernel) Prod.snd allConnect offLocal (by decide +kernel)
      (by decide +kernel)⟩

def offRemoteConfig : Gs.Dict :=
  withCards [.obj [("host", .str "10.0.0.2"), ("iface", .str "wlan0"), ("txPowerDbm", .str "off")],
    .str "wlan1"]

def offRemoteCards : List Card :=
  [{ host := some (.str "10.0.0.2"), iface := .str "wlan0", txpowerDbm := some (.str "off") },
    { host := none, iface := .str "wlan1" }]

def offRemote : List (Event (String × ℤ)) := cardsUp [remoteId, localId] ++ [.mavSend, .keepalive]

/-- **An RX-only card transmits.**  The configuration is accepted and the plan excludes the card.  Before
the first selection the first socket is taken, which is its own: a MAVLink datagram goes there.  Nothing
has come in yet, so the keepalive goes to all, and to this card too. -/
theorem rxOnly_transmits :
    Gs.validateEffective Gs.plainPlatform offRemoteConfig = .ok () ∧
      engineCards Gs.plainPlatform.py offRemoteConfig = .ok offRemoteCards ∧
      engineSetup twoNodes Gs.plainPlatform.py offRemoteConfig = .ok (twoNodesSetup remoteId) ∧
      (∀ i ∈ offRemote, Announced Prod.snd i) ∧
      (Run.shown (step allConnect) sends (start (twoNodesSetup remoteId)) offRemote).map Sock.name =
        [("mavlink-tx", remoteId), ("tunnel-tx", localId), ("tunnel-tx", remoteId)] ∧
      RxOnlyId twoNodes offRemoteCards remoteId := by
  decide +kernel

def allLocalConfig : Gs.Dict :=
  withCards [.str "wlan0", .obj [("iface", .str "wlan1"), ("txPowerDbm", .str "off")]]

def allLocalCards : List Card :=
  [{ host := none, iface := .str "wlan0" },
    { host := none, iface := .str "wlan1", txpowerDbm := some (.str "off") }]

theorem rxOnly_selected_allLocal :
    Gs.validateEffective Gs.plainPlatform allLocalConfig = .ok () ∧
      engineCards Gs.plainPlatform.py allLocalConfig = .ok allLocalCards ∧
      engineSetup twoNodes Gs.plainPlatform.py allLocalConfig = .ok {} ∧
      (Run.shown (step allConnect) sends (start {})
        (cardsUp [0, 1] ++ hears 1 (-30) ++ [.tick, .mavSend])).map Sock.name = [("mavlink-tx", 1)] ∧
      RxOnlyId twoNodes allLocalCards 1 := by
  decide +kernel

end Engine

end Fpvd.Wfb
