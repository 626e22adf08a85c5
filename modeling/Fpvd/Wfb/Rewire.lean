import Fpvd.Wfb.Engine

/-!
# Fpvd.Wfb.Rewire — the uplink after a respawn of a wfb_tx

A respawned wfb_tx has new sockets under the old names.  The ticker notices a new parser and connects
again, once for each parser: it takes the parser for wired as soon as it has one socket.
-/

namespace Fpvd.Wfb

namespace Engine

variable {N : Type}

def allConnect : TxLeg → Dial N := fun _ _ _ => true

theorem allConnect_dial (leg : TxLeg) (i : ℕ) (n : N) : allConnect leg i n = true := rfl

/-- The socket is connected to the child's current process, under the name for the selected card. -/
def Selected (c : TxChild N) (wlanId : Option ℤ) (sock : Option (Sock N)) : Prop :=
  sock.map Sock.name = c.socketFor wlanId ∧ ∀ s, sock = some s → s.peer = c.incarnation

/-- The registry holds a connection to the child's current process for each of its sockets, and nothing
else. -/
structure Broadcasts (c : TxChild N) (socks : List (N × Sock N)) : Prop where
  names : ∀ n, n ∈ AssocMap.keys socks ↔ n ∈ c.parser.names
  sock : ∀ s ∈ socks, s.2.name = s.1 ∧ s.2.peer = c.incarnation

/-- The uplink is wired to the current processes. -/
structure Rewired (e : Engine N) : Prop where
  mavlink : ∃ m, e.mavService = some m ∧ Selected (e.tx .mavlinkTx) e.selector.current m.txSock
  tunnel : ∃ t, e.tunnel = some t ∧ Selected (e.tx .tunnelTx) e.selector.current t.txSock ∧
    Broadcasts (e.tx .tunnelTx) t.txSocks

/-- The current parser of the leg is the one wired last. -/
def Current (e : Engine N) (leg : TxLeg) : Prop := e.committed leg = some (e.tx leg).incarnation

def Clean (e : Engine N) : Event N → Prop
  | .txLine leg (.listenUnix sock wlanId) =>
    e.Current leg → AssocMap.find? wlanId (e.tx leg).parser.unixSockets = some sock
  | .tick => e.ticker = .running → ∀ leg, (e.tx leg).parser.handshakeDone = true →
      (e.tx leg).parser.unixSockets = [] → e.Current leg
  | _ => True

instance (e : Engine N) (leg : TxLeg) : Decidable (e.Current leg) :=
  inferInstanceAs (Decidable (e.committed leg = _))

instance [DecidableEq N] (e : Engine N) : (i : Event N) → Decidable (Clean e i)
  | .txLine leg (.listenUnix _ _) => inferInstanceAs (Decidable (e.Current leg → _))
  | .tick => inferInstanceAs (Decidable (e.ticker = .running → _))
  | .txLine _ .listenUnixEnd | .txLine _ .listenUdpEnd | .txLine _ .other | .exits _ | .spawns _
  | .watch _ | .rxLine _ _ | .wire | .ready | .stop | .resume | .keepalive | .rxBatch | .tunReadable
  | .tunSend | .mavSend => .isTrue trivial

/-! ## The invariant -/

/-- What a leg whose parser is wired has. -/
structure WiringInv (e : Engine N) : Prop where
  ids : ∀ leg k, e.committed leg = some k → k ≤ (e.tx leg).incarnation
  mavlink : ∃ m, e.mavService = some m ∧
    (e.Current .mavlinkTx → Selected (e.tx .mavlinkTx) e.selector.current m.txSock)
  tunnel : ∃ t, e.tunnel = some t ∧
    (e.Current .tunnelTx → Selected (e.tx .tunnelTx) e.selector.current t.txSock ∧
      Broadcasts (e.tx .tunnelTx) t.txSocks)

/-- Before the teardown: nothing is wired yet, or the invariant holds. -/
def Inv (e : Engine N) : Prop :=
  (e.stage = .setup ∧ e.ticker = .off ∧ ∀ leg, e.committed leg = none) ∨
    ((e.stage = .wired ∨ e.stage = .up) ∧ WiringInv e)

variable {e e' : Engine N}

theorem WiringInv.rewired (h : WiringInv e) (hcur : ∀ leg, e.Current leg) : Rewired e := by
  obtain ⟨m, hm, hmav⟩ := h.mavlink
  obtain ⟨t, ht, htun⟩ := h.tunnel
  exact ⟨⟨m, hm, hmav (hcur _)⟩, ⟨t, ht, htun (hcur _)⟩⟩

theorem WiringInv.congr (h : WiringInv e) (htx : e'.tx = e.tx) (hcom : e'.committed = e.committed)
    (hsel : e'.selector = e.selector) (hmav : e'.mavService = e.mavService)
    (htun : e'.tunnel = e.tunnel) : WiringInv e' := by
  refine ⟨?_, ?_, ?_⟩
  · rw [hcom, htx]
    exact h.ids
  · rw [Current, hcom, htx, hsel, hmav]
    exact h.mavlink
  · rw [Current, hcom, htx, hsel, htun]
    exact h.tunnel

theorem WiringInv.update_tx (h : WiringInv e) {leg : TxLeg} {c : TxChild N}
    (hinc : (e.tx leg).incarnation ≤ c.incarnation)
    (hsame : e.committed leg = some c.incarnation → c.incarnation = (e.tx leg).incarnation ∧
      c.parser.unixSockets = (e.tx leg).parser.unixSockets) :
    WiringInv { e with tx := Function.update e.tx leg c } := by
  have hids : ∀ leg' k, e.committed leg' = some k → k ≤ (Function.update e.tx leg c leg').incarnation := by
    intro leg' k hk
    rcases eq_or_ne leg' leg with rfl | hne
    · rw [Function.update_self]
      exact (h.ids _ k hk).trans hinc
    · rw [Function.update_of_ne hne]
      exact h.ids leg' k hk
  -- a leg that is wired now was wired before, with the same sockets
  have hcur : ∀ leg', Current { e with tx := Function.update e.tx leg c } leg' → e.Current leg' ∧
      (Function.update e.tx leg c leg').incarnation = (e.tx leg').incarnation ∧
      (Function.update e.tx leg c leg').parser.unixSockets = (e.tx leg').parser.unixSockets := by
    intro leg' hc
    replace hc : e.committed leg' = some (Function.update e.tx leg c leg').incarnation := hc
    rcases eq_or_ne leg' leg with rfl | hne
    · rw [Function.update_self] at hc ⊢
      obtain ⟨hi, hs⟩ := hsame hc
      exact ⟨by rw [Current, ← hi]; exact hc, hi, hs⟩
    · rw [Function.update_of_ne hne] at hc ⊢
      exact ⟨hc, rfl, rfl⟩
  have hsel : ∀ {c₁ c₂ : TxChild N} {w : Option ℤ} {s : Option (Sock N)},
      c₁.incarnation = c₂.incarnation → c₁.parser.unixSockets = c₂.parser.unixSockets →
      Selected c₂ w s → Selected c₁ w s := by
    intro c₁ c₂ w s hi hs hsel
    rwa [Selected, TxChild.socketFor, hi, hs]
  obtain ⟨m, hm, hmav⟩ := h.mavlink
  obtain ⟨t, ht, htun⟩ := h.tunnel
  refine ⟨hids, ⟨m, hm, fun hc => ?_⟩, ⟨t, ht, fun hc => ?_⟩⟩
  · obtain ⟨hc, hi, hs⟩ := hcur _ hc
    exact hsel hi hs (hmav hc)
  · obtain ⟨hc, hi, hs⟩ := hcur _ hc
    obtain ⟨h1, h2⟩ := htun hc
    refine ⟨hsel hi hs h1, ⟨fun n => ?_, fun s hs' => ?_⟩⟩
    · rw [h2.names, TxLineParser.names, TxLineParser.names, hs]
    · rw [hi]
      exact h2.sock s hs'

theorem WiringInv.map_tunnel (h : WiringInv e) {f : TunnelTx N → TunnelTx N}
    (hf : ∀ t, (f t).txSock = t.txSock ∧ (f t).txSocks = t.txSocks) :
    WiringInv { e with tunnel := e.tunnel.map f } := by
  obtain ⟨t, ht, htun⟩ := h.tunnel
  refine ⟨h.ids, h.mavlink, ⟨f t, by simp [ht], fun hc => ?_⟩⟩
  rw [(hf t).1, (hf t).2]
  exact htun hc

theorem feedTx_wiring (h : WiringInv e) {leg : TxLeg} {line : TxLine N}
    (hclean : Clean e (.txLine leg line)) : WiringInv (e.feedTx leg line) := by
  refine h.update_tx le_rfl fun hc => ⟨rfl, ?_⟩
  cases line with
  | listenUnix sock wlanId => exact AssocMap.put_self (hclean hc)
  | _ => rfl

theorem resumeWatch_wiring (h : WiringInv e) (leg : TxLeg) : WiringInv (e.resumeWatch leg) := by
  have hparts := TxChild.resumeWatch_parts (e.tx leg) (e.running (.tx leg))
  exact h.update_tx hparts.1.ge fun _ => ⟨hparts.1, by rw [hparts.2]⟩

theorem spawn_wiring (h : WiringInv e) (c : ChildId) : WiringInv (e.spawn c) := by
  unfold spawn
  split_ifs
  · cases c with
    | tx leg =>
      simp only
      split_ifs
      · have hnew := h.update_tx (c := ⟨(e.tx leg).incarnation + 1, {}, .handshake⟩)
          (Nat.le_succ (e.tx leg).incarnation) fun hc => absurd (h.ids leg _ hc) (Nat.lt_irrefl _)
        exact hnew.congr rfl rfl rfl rfl rfl
      · exact h
    | _ => exact h.congr rfl rfl rfl rfl rfl
  · exact h

theorem Inv.of_frame (h : Inv e) (hstage : e'.stage = e.stage) (htic : e'.ticker = e.ticker)
    (hcom : e'.committed = e.committed) (hw : WiringInv e → WiringInv e') : Inv e' := by
  rw [Inv, hstage, htic, hcom]
  exact h.imp_right fun ⟨hs, hinv⟩ => ⟨hs, hw hinv⟩

/-! ## The operations with every connect succeeding -/

section Operations

variable {c : TxChild N} {wlanId : Option ℤ} {m : MavlinkTx N} {t : TunnelTx N}

theorem selected_of_some {s : Sock N} {n : N} (h : c.socketFor wlanId = some n) (hname : s.name = n)
    (hpeer : s.peer = c.incarnation) : Selected c wlanId (some s) :=
  ⟨by rw [h, ← hname]; rfl, fun _ hs => Option.some.inj hs ▸ hpeer⟩

theorem selected_none (h : c.socketFor wlanId = none) : Selected c wlanId none := ⟨h.symm, nofun⟩

theorem selected_mavlink (leg : TxLeg) :
    Selected c wlanId (m.setTxSocket (allConnect leg) c.incarnation (c.socketFor wlanId)).txSock := by
  cases h : c.socketFor wlanId with
  | none => exact selected_none h
  | some n =>
    obtain ⟨s, hs, hname, hpeer⟩ := MavlinkTx.setTxSocket_of_dial (m := m) (allConnect_dial leg) n
    rw [hs]
    exact selected_of_some h hname hpeer

variable [DecidableEq N]

theorem selected_tunnel (leg : TxLeg) (wlanId : Option ℤ) :
    Selected c wlanId (t.setTxSocket (allConnect leg) c.incarnation (c.socketFor wlanId)).txSock ∧
      (t.setTxSocket (allConnect leg) c.incarnation (c.socketFor wlanId)).txSockName =
        c.socketFor wlanId := by
  cases h : c.socketFor wlanId with
  | none => exact ⟨selected_none h, rfl⟩
  | some n =>
    obtain ⟨s, hs, hname, hpeer, hsel⟩ := TunnelTx.setTxSocket_of_dial (t := t) (allConnect_dial leg) n
    rw [hs]
    exact ⟨selected_of_some h hname hpeer, hsel⟩

theorem selected_renewed (leg : TxLeg) (hsel : Selected c wlanId t.txSock)
    (hname : t.txSockName = c.socketFor wlanId) :
    Selected c wlanId (t.setAllTxSockets (allConnect leg) c.incarnation c.parser.names).txSock := by
  cases h : c.socketFor wlanId with
  | none =>
    rw [h] at hname
    simpa [TunnelTx.setAllTxSockets, hname] using hsel
  | some n =>
    obtain ⟨s, hs, hn, hpeer, -⟩ := TunnelTx.setAllTxSockets_of_dial (allConnect_dial leg)
      (hname.trans h) (TxChild.socketFor_mem h)
    rw [hs]
    exact selected_of_some h hn hpeer

theorem broadcasts_renewed (leg : TxLeg) :
    Broadcasts c (t.setAllTxSockets (allConnect leg) c.incarnation c.parser.names).txSocks where
  names _ := TunnelTx.setAllTxSockets_keys (allConnect_dial leg)
  sock _ hs := (TunnelTx.setAllTxSockets_mem hs).2

theorem Broadcasts.setTxSocket (leg : TxLeg) (h : Broadcasts c t.txSocks) :
    Broadcasts c (t.setTxSocket (allConnect leg) c.incarnation (c.socketFor wlanId)).txSocks where
  names n := by
    cases hname : c.socketFor wlanId with
    | none => exact h.names n
    | some n' =>
      rw [TunnelTx.setTxSocket_keys (allConnect_dial leg), h.names]
      exact ⟨fun hn => hn.elim (fun hn => hn ▸ TxChild.socketFor_mem hname) id, .inr⟩
  sock s hs := (TunnelTx.setTxSocket_mem hs).elim (h.sock s) fun hnew => hnew.2

end Operations

section Ticks

variable [DecidableEq N]

theorem WiringInv.apply (h : WiringInv e) {w : Option ℤ} {sel : TxSelector}
    (hsel : sel.current = w) :
    WiringInv ({ e with hub := some {}, selector := sel }.applyTxSelection allConnect w).1 := by
  obtain ⟨m, hm, -⟩ := h.mavlink
  obtain ⟨t, ht, htun⟩ := h.tunnel
  rw [applyTxSelection_some (e := { e with hub := some {}, selector := sel }) hm ht]
  subst hsel
  exact ⟨h.ids, ⟨_, rfl, fun _ => selected_mavlink _⟩,
    ⟨_, rfl, fun hc => ⟨(selected_tunnel _ _).1, (htun hc).2.setTxSocket _⟩⟩⟩

/-- `_check_tx_respawns` commits every parser with a socket and keeps the invariant. -/
theorem WiringInv.check (h : WiringInv e) : ∃ e', e.checkTxRespawns allConnect = (e', none) ∧
    WiringInv e' ∧ e'.tx = e.tx ∧ e'.committed = e.commit.committed := by
  unfold checkTxRespawns
  split_ifs with hre
  · obtain ⟨m, hm, -⟩ := h.mavlink
    obtain ⟨t, ht, -⟩ := h.tunnel
    have hids : ∀ leg k, e.commit.committed leg = some k → k ≤ (e.tx leg).incarnation := by
      intro leg k hk
      simp only [commit] at hk
      split_ifs at hk
      · exact (Option.some.inj hk).symm.le
      · exact h.ids leg k hk
    rw [applyTxSelection_some (e := e.commit) hm ht]
    obtain ⟨hsel, hname⟩ := selected_tunnel (c := e.tx .tunnelTx) (t := t) .tunnelTx e.selector.current
    refine ⟨_, rfl, ⟨hids, ⟨_, rfl, fun _ => selected_mavlink _⟩,
      ⟨_, rfl, fun _ => ⟨selected_renewed _ hsel hname, broadcasts_renewed _⟩⟩⟩, rfl, rfl⟩
  · refine ⟨e, rfl, h, rfl, ?_⟩
    funext leg
    have : e.respawned leg = false := by
      cases leg <;> simp_all
    simp [commit, this]

theorem WiringInv.aggregate (h : WiringInv e) : WiringInv (e.aggregate allConnect) := by
  unfold Engine.aggregate
  split
  · exact h.congr rfl rfl rfl rfl rfl
  · split
    · exact h.congr rfl rfl rfl rfl rfl
    · next sel agg hagg =>
      rcases aggregateWindow_select hagg with ⟨rfl, hnone⟩ | ⟨w, -, rfl, hsome⟩
      · rw [hnone]
        exact h.congr rfl rfl rfl rfl rfl
      · rw [hsome]
        exact h.apply rfl

theorem WiringInv.tick (h : WiringInv e) (hrun : e.ticker = .running) :
    WiringInv (e.tick allConnect) ∧ ∀ leg, (e.respawned leg = true ∨ e.Current leg) →
      (e.tick allConnect).Current leg := by
  obtain ⟨e', hcheck, hinv, htx, hcom⟩ := h.check
  have htick : e.tick allConnect = e'.aggregate allConnect := by
    simp only [Engine.tick, if_pos hrun, hcheck]
  obtain ⟨mav, tun, hub, sel, tic, hshape, -⟩ := aggregate_shape allConnect (e := e')
  refine ⟨htick ▸ hinv.aggregate, fun leg hleg => ?_⟩
  have hfields : (e.tick allConnect).Current leg ↔ e.commit.Current leg := by
    rw [htick, hshape, Current, Current]
    simp only [htx, hcom]
    rfl
  rw [hfields, Current]
  simp only [commit]
  split_ifs with hre
  · rfl
  · exact hleg.resolve_left hre

/-! ## Steps and runs -/

theorem wire_wiring (hstage : e.stage = .setup) :
    WiringInv (e.wire allConnect) ∧ (e.wire allConnect).stage = .wired := by
  unfold wire
  simp only [hstage]
  rw [applyTxSelection_some rfl rfl]
  refine ⟨⟨fun leg k hk => (Option.some.inj hk).symm.le, ⟨_, rfl, fun _ => selected_mavlink _⟩,
    ⟨_, rfl, fun _ => ⟨(selected_tunnel _ _).1, (broadcasts_renewed _).setTxSocket _⟩⟩⟩, rfl⟩

theorem inv_step {i : Event N} (h : Inv e) (hclean : Clean e i) (hi : i ≠ .stop) :
    Inv (step allConnect e i) := by
  cases i with
  | exits c => exact h.of_frame rfl rfl rfl fun hw => hw.congr rfl rfl rfl rfl rfl
  | spawns c =>
    obtain ⟨rx, tx, run, hshape⟩ := spawn_shape (e := e) c
    exact h.of_frame (by rw [step, hshape]) (by rw [step, hshape]) (by rw [step, hshape])
      fun hw => spawn_wiring hw c
  | watch leg => exact h.of_frame rfl rfl rfl fun hw => resumeWatch_wiring hw leg
  | txLine leg line => exact h.of_frame rfl rfl rfl fun hw => feedTx_wiring hw hclean
  | rxLine leg line =>
    obtain ⟨rx, hub, hshape, -⟩ := feedRx_shape (e := e) leg line
    rw [step, hshape]
    exact h.of_frame rfl rfl rfl fun hw => hw.congr rfl rfl rfl rfl rfl
  | wire =>
    rcases h with ⟨hstage, -⟩ | ⟨hstage, hw⟩
    · exact .inr ⟨.inl (wire_wiring hstage).2, (wire_wiring hstage).1⟩
    · have : e.wire allConnect = e := by rcases hstage with hs | hs <;> simp [wire, hs]
      rw [step, this]
      exact .inr ⟨hstage, hw⟩
  | ready =>
    rcases h with ⟨hstage, hrest⟩ | ⟨hstage | hstage, hw⟩
    · have : e.ready = e := by simp [ready, hstage]
      rw [step, this]
      exact .inl ⟨hstage, hrest⟩
    · have : e.ready = { e with statsServer := true, ticker := .running, stage := .up } := by
        simp [ready, hstage]
      rw [step, this]
      exact .inr ⟨.inr rfl, hw.congr rfl rfl rfl rfl rfl⟩
    · have : e.ready = e := by simp [ready, hstage]
      rw [step, this]
      exact .inr ⟨.inr hstage, hw⟩
  | tick =>
    by_cases hrun : e.ticker = .running
    · rcases h with ⟨-, hoff, -⟩ | ⟨hstage, hw⟩
      · rw [hoff] at hrun
        cases hrun
      · obtain ⟨mav, tun, hub, sel, com, tic, hshape, -⟩ := tick_shape allConnect (e := e)
        exact .inr ⟨by rw [step, hshape]; exact hstage, (hw.tick hrun).1⟩
    · have : e.tick allConnect = e := if_neg hrun
      rw [step, this]
      exact h
  | stop => exact absurd rfl hi
  | resume =>
    have : e.resume = e := by
      rcases h with ⟨hs, -⟩ | ⟨hs | hs, -⟩ <;> simp [resume, hs]
    rw [step, this]
    exact h
  | keepalive => exact h.of_frame rfl rfl rfl fun hw => hw.map_tunnel fun t => ⟨rfl, rfl⟩
  | rxBatch => exact h.of_frame rfl rfl rfl fun hw => hw.map_tunnel fun t => ⟨rfl, rfl⟩
  | tunReadable => exact h.of_frame rfl rfl rfl fun hw => hw.map_tunnel fun t => ⟨rfl, rfl⟩
  | tunSend => exact h
  | mavSend => exact h

def IsRespawn : Event N → Prop
  | .spawns (.tx _) => True
  | _ => False

instance : (i : Event N) → Decidable (IsRespawn i)
  | .spawns (.tx _) => .isTrue trivial
  | .spawns (.rx _) | .spawns (.extraRx _) | .spawns (.extraTx _) | .exits _ | .watch _ | .txLine _ _
  | .rxLine _ _ | .wire | .ready | .tick | .stop | .resume | .keepalive | .rxBatch | .tunReadable
  | .tunSend | .mavSend => .isFalse id

theorem current_step {i : Event N} {leg : TxLeg} (h : Inv e) (hcur : e.Current leg) (hi : i ≠ .stop)
    (hre : ¬ IsRespawn i) : (step allConnect e i).Current leg := by
  -- the steps that change a tx child keep its number
  have hset : ∀ leg' (c : TxChild N), c.incarnation = (e.tx leg').incarnation →
      Current { e with tx := Function.update e.tx leg' c } leg := by
    intro leg' c hinc
    show e.committed leg = some (Function.update e.tx leg' c leg).incarnation
    rcases eq_or_ne leg leg' with rfl | hne
    · rw [Function.update_self, hinc]
      exact hcur
    · rw [Function.update_of_ne hne]
      exact hcur
  cases i with
  | spawns c =>
    cases c with
    | tx leg' => exact absurd trivial hre
    | _ =>
      simp only [step, spawn]
      split_ifs <;> exact hcur
  | watch leg' => exact hset leg' _ (TxChild.resumeWatch_parts _ _).1
  | txLine leg' line => exact hset leg' _ rfl
  | rxLine leg' line =>
    obtain ⟨rx, hub, hshape, -⟩ := feedRx_shape (e := e) leg' line
    rw [step, hshape]
    exact hcur
  | wire =>
    rcases h with ⟨hstage, -⟩ | ⟨hstage, -⟩
    · simp only [step, wire, hstage]
      rw [applyTxSelection_some rfl rfl]
      rfl
    · have : e.wire allConnect = e := by rcases hstage with hs | hs <;> simp [wire, hs]
      rw [step, this]
      exact hcur
  | ready =>
    simp only [step, ready]
    split <;> exact hcur
  | tick =>
    by_cases hrun : e.ticker = .running
    · rcases h with ⟨-, hoff, -⟩ | ⟨-, hw⟩
      · rw [hoff] at hrun
        cases hrun
      · exact (hw.tick hrun).2 leg (.inr hcur)
    · have : e.tick allConnect = e := if_neg hrun
      rw [step, this]
      exact hcur
  | stop => exact absurd rfl hi
  | resume =>
    have : e.resume = e := by
      rcases h with ⟨hs, -⟩ | ⟨hs | hs, -⟩ <;> simp [resume, hs]
    rw [step, this]
    exact hcur
  | _ => exact hcur

/-- **The uplink after a respawn.**  Every connect succeeds and the teardown has not begun; the run is
clean.  After a round of the ticker with both handshakes complete, and until the next respawn, both
services send to the current processes, to the socket of the selected card or the first one, and the
tunnel's registry is the list of the current tunnel_tx. -/
theorem uplink_rewired (p : Setup) (before after : List (Event N))
    (hclean : Run.Meets (step allConnect) Clean (start p) (before ++ .tick :: after))
    (hstop : ∀ i ∈ before ++ after, i ≠ .stop)
    (hrun : (before.foldl (step allConnect) (start p)).ticker = .running)
    (hdone : ∀ leg, ((before.foldl (step allConnect) (start p)).tx leg).parser.handshakeDone = true)
    (hrespawn : ∀ i ∈ after, ¬ IsRespawn i) :
    Rewired ((before ++ .tick :: after).foldl (step allConnect) (start p)) := by
  rw [Run.meets_append, Run.meets_cons] at hclean
  obtain ⟨hbefore, htick, hafter⟩ := hclean
  rw [List.foldl_append, List.foldl_cons]
  set s := before.foldl (step allConnect) (start p) with hs
  have hinv : Inv s := (hbefore.and_mem _ _ fun i hi => hstop i (List.mem_append_left _ hi)).invariant
    (fun _ _ h hc => inv_step h hc.1 hc.2) _ _ (.inl ⟨rfl, rfl, fun _ => rfl⟩)
  -- the round wires both parsers: a complete handshake has a socket, or was wired before
  have hcur : ∀ leg, (step allConnect s .tick).Current leg := by
    rcases hinv with ⟨-, hoff, -⟩ | ⟨-, hw⟩
    · rw [hoff] at hrun
      cases hrun
    · intro leg
      refine (hw.tick hrun).2 leg ?_
      by_cases hc : s.Current leg
      · exact .inr hc
      · have hsocks : (s.tx leg).parser.unixSockets ≠ [] := fun h0 => hc (htick hrun leg (hdone leg) h0)
        refine .inl ?_
        simp only [respawned, Bool.and_eq_true, decide_eq_true_eq]
        exact ⟨hsocks, hc⟩
  have hend := ((hafter.and_mem _ _ fun i hi => hstop i (List.mem_append_right _ hi)).and_mem _ _
    hrespawn).invariant (I := fun e => Inv e ∧ ∀ leg, e.Current leg)
    (fun _ _ h hc => ⟨inv_step h.1 hc.1.1 hc.1.2,
      fun leg => current_step h.1 (h.2 leg) hc.1.2 hc.2⟩) _ _
    ⟨inv_step hinv htick (by simp), hcur⟩
  obtain ⟨⟨-, -, hnone⟩ | ⟨-, hw⟩, hcur⟩ := hend
  · exact absurd ((hnone .mavlinkTx).symm.trans (hcur .mavlinkTx)) (by simp)
  · exact hw.rewired hcur

end Ticks

/-! ## Two cards -/

def twoCards : List (Event String) :=
  handshake .mavlinkTx [("mavlink-tx.0", 0), ("mavlink-tx.1", 1)] ++
    handshake .tunnelTx [("tunnel-tx.0", 0), ("tunnel-tx.1", 1)] ++
    [.wire, .ready, .exits (.tx .tunnelTx), .spawns (.tx .tunnelTx)]

def handshakeBetween : List (Event String) :=
  twoCards ++ [.tick] ++ handshake .tunnelTx [("tunnel-tx.0", 0), ("tunnel-tx.1", 1)]

def handshakeCut : List (Event String) :=
  twoCards ++ [.txLine .tunnelTx (.listenUnix "tunnel-tx.0" 0), .tick,
    .txLine .tunnelTx (.listenUnix "tunnel-tx.1" 1), .txLine .tunnelTx .listenUnixEnd]

theorem uplink_rewired_between :
    Rewired ((handshakeBetween ++ Event.tick :: [Event.keepalive, Event.tick]).foldl (step allConnect)
      (start {})) :=
  uplink_rewired {} handshakeBetween [.keepalive, .tick] (by decide +kernel) (by decide +kernel)
    (by decide +kernel) (by decide +kernel) (by decide)

/-- **A round inside the handshake** finds one socket and takes the parser for wired.  The handshake ends,
another round runs, and the second card is not in the tunnel's registry. -/
theorem uplink_half_rewired :
    let s := handshakeCut.foldl (step allConnect) (start {})
    (∀ i ∈ handshakeCut, i ≠ .stop) ∧ s.ticker = .running ∧
      (∀ leg, (s.tx leg).parser.handshakeDone = true) ∧ ¬ Rewired (step allConnect s .tick) := by
  refine ⟨by decide +kernel, by decide +kernel, by decide +kernel, fun h => ?_⟩
  obtain ⟨t, ht, -, hbroad⟩ := h.tunnel
  have hkeys : (some t).map (fun t => AssocMap.keys t.txSocks) = some ["tunnel-tx.0"] := by
    rw [← ht]
    decide +kernel
  have hmem : "tunnel-tx.1" ∈ ["tunnel-tx.0"] :=
    Option.some.inj hkeys ▸ (hbroad.names "tunnel-tx.1").mpr (by decide +kernel)
  exact absurd hmem (by decide)

end Engine

end Fpvd.Wfb
