import Fpvd.Wfb.Engine

/-!
# Fpvd.Wfb.Teardown — the end of an incarnation

`_teardown` drops the tunnel, stops the node sessions one after the other, cancels the ticker and awaits
it, and only then stops the stats server, the MAVLink service and the children.  While it waits for a
node session the ticker runs on, without a tunnel.

* `Calm`: what a step must not meet.  A round of the ticker raises when an antenna of its window has no
  packets, when a setting of the selector is not a number, when a packet count is too great for a float,
  and when it finds a respawned wfb_tx after the tunnel is gone; the stop of a tx child hangs when it falls
  into the last await of a respawn.
-/

namespace Fpvd.Wfb

variable {N : Type}

def Event.isStage : Event N → Bool
  | .wire | .ready | .stop | .resume => true
  | _ => false

def Event.isResume : Event N → Bool
  | .resume => true
  | _ => false

namespace Engine

variable {e e' : Engine N}

def stopsNext (e : Engine N) : Option ChildId :=
  match e.stage with
  | .statsServer => e.plan.stopOrder.head?
  | .children (_ :: cs) => cs.head?
  | _ => none

def Calm (e : Engine N) : Event N → Prop
  | .tick => e.ticker = .running →
      CountsPackets e.windows ∧ (weightedAgg e.windows = [] ∨ e.selector.cfg.numeric = true) ∧
        Converts e.selector e.windows ∧ (e.tunnel.isSome = false → ∀ leg, e.respawned leg = false)
  | .resume => ∀ leg, e.stopsNext = some (.tx leg) → (e.tx leg).watch ≠ .settling
  | _ => True

instance (e : Engine N) : (i : Event N) → Decidable (Calm e i)
  | .tick => inferInstanceAs (Decidable (e.ticker = .running → _))
  | .resume => inferInstanceAs (Decidable (∀ _ : TxLeg, _ → _))
  | .txLine _ _ | .exits _ | .spawns _ | .watch _ | .rxLine _ _ | .wire | .ready | .stop | .keepalive
  | .rxBatch | .tunReadable | .tunSend | .mavSend => .isTrue trivial

/-- The child was told to stop and has no process. -/
def Stopped (e : Engine N) (c : ChildId) : Prop := e.supervised c = false ∧ e.running c = false

/-- The incarnation has left nothing behind. -/
structure TornDown (e : Engine N) : Prop where
  stage : e.stage = .done
  tunnel : e.tunnel.isSome = false
  mavService : e.mavService.isSome = false
  statsServer : e.statsServer = false
  children : ∀ c ∈ e.plan.children, Stopped e c

/-! ## The invariant -/

/-- What holds at each stage. -/
def StageInv (e : Engine N) : Prop :=
  match e.stage with
  | .setup => e.ticker = .off ∧ e.hub.isSome = true
  | .wired => e.ticker = .off ∧ e.hub.isSome = true ∧ e.mavService.isSome = true ∧ e.tunnel.isSome = true
  | .up => e.ticker = .running ∧ e.hub.isSome = true ∧ e.mavService.isSome = true ∧
      e.tunnel.isSome = true
  | .sessions left => left ≠ [] ∧ e.ticker = .running ∧ e.hub.isSome = true ∧
      e.mavService.isSome = true ∧ e.tunnel.isSome = false
  | .ticker | .statsServer => e.ticker = .cancelled ∧ e.tunnel.isSome = false
  | .children left => e.ticker = .cancelled ∧ e.tunnel.isSome = false ∧ e.mavService.isSome = false ∧
      e.statsServer = false ∧ ∃ stopped c cs, left = c :: cs ∧ e.plan.stopOrder = stopped ++ left ∧
        (∀ d ∈ stopped, Stopped e d) ∧ e.supervised c = false
  | .done => e.ticker = .cancelled ∧ e.tunnel.isSome = false ∧ e.mavService.isSome = false ∧
      e.statsServer = false ∧ ∀ c ∈ e.plan.stopOrder, Stopped e c
  | .failed _ => False

/-- The invariant: no watch has missed a cancel. -/
structure Alive (e : Engine N) : Prop where
  watch : ∀ leg, (e.tx leg).watch ≠ .deaf
  stage : StageInv e

/-- What the steps do that are not part of the setup or the teardown. -/
structure Keeps (e e' : Engine N) : Prop where
  plan : e'.plan = e.plan
  stage : e'.stage = e.stage
  statsServer : e'.statsServer = e.statsServer
  supervised : e'.supervised = e.supervised
  hub : e'.hub.isSome = e.hub.isSome
  mavService : e'.mavService.isSome = e.mavService.isSome
  tunnel : e'.tunnel.isSome = e.tunnel.isSome
  running : ∀ c, Stopped e c → e'.running c = false
  watch : ∀ leg, (e.tx leg).watch ≠ .deaf → (e'.tx leg).watch ≠ .deaf

theorem Keeps.stopped (h : Keeps e e') {c : ChildId} (hc : Stopped e c) : Stopped e' c :=
  ⟨by rw [h.supervised]; exact hc.1, h.running c hc⟩

theorem Alive.keeps (h : Alive e) (hk : Keeps e e') (htic : e'.ticker = e.ticker) : Alive e' := by
  refine ⟨fun leg => hk.watch leg (h.watch leg), ?_⟩
  have hinv := h.stage
  unfold StageInv at hinv ⊢
  rw [hk.stage, htic, hk.hub, hk.mavService, hk.tunnel, hk.statsServer, hk.plan, hk.supervised]
  cases hs : e.stage with
  | children left =>
    rw [hs] at hinv
    obtain ⟨h1, h2, h3, h4, stopped, c, cs, hleft, horder, hstopped, hsup⟩ := hinv
    exact ⟨h1, h2, h3, h4, stopped, c, cs, hleft, horder, fun d hd => hk.stopped (hstopped d hd), hsup⟩
  | done =>
    rw [hs] at hinv
    obtain ⟨h1, h2, h3, h4, hstopped⟩ := hinv
    exact ⟨h1, h2, h3, h4, fun c hc => hk.stopped (hstopped c hc)⟩
  | _ =>
    rw [hs] at hinv
    exact hinv

theorem keeps_same (hplan : e'.plan = e.plan) (hstage : e'.stage = e.stage)
    (hstats : e'.statsServer = e.statsServer) (hsup : e'.supervised = e.supervised)
    (hhub : e'.hub.isSome = e.hub.isSome) (hmav : e'.mavService.isSome = e.mavService.isSome)
    (htun : e'.tunnel.isSome = e.tunnel.isSome) (hrun : e'.running = e.running) (htx : e'.tx = e.tx) :
    Keeps e e' :=
  ⟨hplan, hstage, hstats, hsup, hhub, hmav, htun, fun c hc => by rw [hrun]; exact hc.2,
    fun leg hleg => by rw [htx]; exact hleg⟩

theorem keeps_update_tx (leg : TxLeg) {c : TxChild N}
    (hc : (e.tx leg).watch ≠ .deaf → c.watch ≠ .deaf) :
    Keeps e { e with tx := Function.update e.tx leg c } := by
  refine ⟨rfl, rfl, rfl, rfl, rfl, rfl, rfl, fun c hc => hc.2, fun leg' hleg' => ?_⟩
  show (Function.update e.tx leg c leg').watch ≠ .deaf
  rcases eq_or_ne leg' leg with rfl | hne
  · rw [Function.update_self]
    exact hc hleg'
  · rw [Function.update_of_ne hne]
    exact hleg'

theorem spawn_keeps (c : ChildId) : Keeps e (e.spawn c) := by
  unfold spawn
  split_ifs with hguard
  · have hrun : ∀ d, Stopped e d → Function.update e.running c true d = false := by
      intro d hd
      have hne : d ≠ c := by
        rintro rfl
        simp [hd.1] at hguard
      rw [Function.update_of_ne hne]
      exact hd.2
    cases c with
    | tx leg =>
      simp only
      split_ifs
      · have hk := keeps_update_tx (e := e) leg (c := ⟨(e.tx leg).incarnation + 1, {}, .handshake⟩)
          fun _ => by simp
        exact ⟨rfl, rfl, rfl, rfl, rfl, rfl, rfl, hrun, hk.watch⟩
      · exact keeps_same rfl rfl rfl rfl rfl rfl rfl rfl rfl
    | _ => exact ⟨rfl, rfl, rfl, rfl, rfl, rfl, rfl, hrun, fun _ h => h⟩
  · exact keeps_same rfl rfl rfl rfl rfl rfl rfl rfl rfl

theorem exits_keeps (c : ChildId) : Keeps e { e with running := Function.update e.running c false } := by
  refine ⟨rfl, rfl, rfl, rfl, rfl, rfl, rfl, fun d hd => ?_, fun _ h => h⟩
  show Function.update e.running c false d = false
  rcases eq_or_ne d c with rfl | hne
  · rw [Function.update_self]
  · rw [Function.update_of_ne hne]
    exact hd.2

theorem resumeWatch_keeps (leg : TxLeg) : Keeps e (e.resumeWatch leg) := by
  refine keeps_update_tx leg fun h => ?_
  unfold TxChild.resumeWatch
  split
  · split_ifs
    · simp
    · simp
    · exact h
  · simp
  · exact h

section Ticker

variable [DecidableEq N] {dial : TxLeg → Dial N}

theorem checkTxRespawns_ok (dial : TxLeg → Dial N) (hmav : e.mavService.isSome = true)
    (hre : e.tunnel.isSome = false → ∀ leg, e.respawned leg = false) :
    (e.checkTxRespawns dial).2 = none := by
  cases htun : e.tunnel.isSome with
  | false => rw [checkTxRespawns_none (hre htun)]
  | true =>
    obtain ⟨mav, hmav⟩ := Option.isSome_iff_exists.mp hmav
    obtain ⟨tun, htun⟩ := Option.isSome_iff_exists.mp htun
    unfold checkTxRespawns
    split_ifs
    · rw [applyTxSelection_some (e := e.commit) hmav htun]
    · rfl

theorem aggregate_ticker {hub : StatsHub RxLeg} {r : TxSelector × Aggregate} (hhub : e.hub = some hub)
    (hagg : aggregateWindow e.selector hub.cur = .ok r) : (e.aggregate dial).ticker = e.ticker := by
  simp only [aggregate, hhub, hagg]
  split
  · rfl
  · next w _ =>
    obtain ⟨mav, tun, happly, -⟩ := applyTxSelection_shape dial
      (e := { e with hub := some {}, selector := r.1 }) (some w)
    rw [happly]

theorem tick_ticker (h : Alive e) (hcalm : Calm e .tick) : (e.tick dial).ticker = e.ticker := by
  by_cases hrun : e.ticker = .running
  · obtain ⟨hcount, hcfg, hconv, hre⟩ := hcalm hrun
    have hparts : e.hub.isSome = true ∧ e.mavService.isSome = true := by
      have hinv := h.stage
      unfold StageInv at hinv
      split at hinv <;> simp_all
    obtain ⟨hub, hhub⟩ := Option.isSome_iff_exists.mp hparts.1
    have hwindows : e.windows = hub.cur := by rw [windows, hhub]; rfl
    rw [hwindows] at hcount hcfg hconv
    obtain ⟨r, hr⟩ := aggregateWindow_ok hcount hcfg hconv
    -- the check returns, and the pass sees the same windows and selector
    obtain ⟨mav, tun, com, hcheck, -⟩ := checkTxRespawns_shape dial (e := e)
    have hok := checkTxRespawns_ok dial hparts.2 hre
    have htick : e.tick dial =
        { e with mavService := mav, tunnel := tun, committed := com }.aggregate dial := by
      unfold tick
      rw [if_pos hrun, ← hcheck]
      split
      · next e' x heq => simp [heq] at hok
      · next e' heq => rw [heq]
    rw [htick]
    exact aggregate_ticker (e := { e with mavService := mav, tunnel := tun, committed := com }) hhub hr
  · have : e.tick dial = e := if_neg hrun
    rw [this]

end Ticker

/-! ## The teardown -/

def awaits (e : Engine N) : ℕ :=
  match e.stage with
  | .sessions left => left.length + 2 + e.plan.stopOrder.length
  | .ticker => 2 + e.plan.stopOrder.length
  | .statsServer => 1 + e.plan.stopOrder.length
  | .children left => left.length
  | _ => 0

def Begun (e : Engine N) : Prop :=
  match e.stage with
  | .setup | .wired | .up => False
  | _ => True

theorem Keeps.begun (hk : Keeps e e') (h : Begun e) : Begun e' := by
  unfold Begun at h ⊢
  rwa [hk.stage]

theorem Keeps.awaits (hk : Keeps e e') : e'.awaits = e.awaits := by
  unfold Engine.awaits
  rw [hk.stage, hk.plan]

theorem Alive.tornDown (h : Alive e) (hbegun : Begun e) (hawaits : e.awaits = 0) : TornDown e := by
  have hinv := h.stage
  unfold StageInv at hinv
  unfold Engine.awaits at hawaits
  unfold Begun at hbegun
  cases hs : e.stage with
  | done =>
    rw [hs] at hinv
    obtain ⟨-, h2, h3, h4, hstopped⟩ := hinv
    exact ⟨hs, h2, h3, h4, fun c hc => hstopped c ((e.plan.mem_stopOrder c).mpr hc)⟩
  | children left =>
    rw [hs] at hinv hawaits
    obtain ⟨-, -, -, -, stopped, c, cs, hleft, -⟩ := hinv
    simp [hleft] at hawaits
  | failed x =>
    rw [hs] at hinv
    exact hinv.elim
  | _ => simp_all

theorem nextChild_alive (stopped left : List ChildId) (hwatch : ∀ leg, (e.tx leg).watch ≠ .deaf)
    (htic : e.ticker = .cancelled) (htun : e.tunnel.isSome = false) (hmav : e.mavService.isSome = false)
    (hstats : e.statsServer = false) (horder : e.plan.stopOrder = stopped ++ left)
    (hstopped : ∀ d ∈ stopped, Stopped e d)
    (hcalm : ∀ leg, left.head? = some (.tx leg) → (e.tx leg).watch ≠ .settling) :
    Alive (e.nextChild left) ∧ Begun (e.nextChild left) ∧ (e.nextChild left).awaits = left.length := by
  cases left with
  | nil =>
    rw [List.append_nil] at horder
    exact ⟨⟨hwatch, htic, htun, hmav, hstats, fun c hc => hstopped c (horder ▸ hc)⟩, trivial, rfl⟩
  | cons c cs =>
    have hwatch' : ∀ leg, ((e.nextChild (c :: cs)).tx leg).watch ≠ .deaf := by
      intro leg
      simp only [nextChild, callStop]
      cases c with
      | tx leg' =>
        rcases eq_or_ne leg leg' with rfl | hne
        · simp [TxChild.cancelWatch, hcalm leg rfl]
        · simpa [Function.update_of_ne hne] using hwatch leg
      | _ => exact hwatch leg
    have hstopped' : ∀ d ∈ stopped, Stopped (e.nextChild (c :: cs)) d := by
      intro d hd
      refine ⟨?_, (hstopped d hd).2⟩
      show Function.update e.supervised c false d = false
      rcases eq_or_ne d c with rfl | hne
      · rw [Function.update_self]
      · rw [Function.update_of_ne hne]
        exact (hstopped d hd).1
    exact ⟨⟨hwatch', htic, htun, hmav, hstats, stopped, c, cs, rfl, horder, hstopped',
      Function.update_self ..⟩, trivial, rfl⟩

theorem nextSession_alive (left : List String) (hwatch : ∀ leg, (e.tx leg).watch ≠ .deaf)
    (htic : e.ticker = .running) (hhub : e.hub.isSome = true) (hmav : e.mavService.isSome = true)
    (htun : e.tunnel.isSome = false) :
    Alive (e.nextSession left) ∧ Begun (e.nextSession left) ∧
      (e.nextSession left).awaits = left.length + 2 + e.plan.stopOrder.length := by
  cases left with
  | nil =>
    have : e.nextSession [] = { e with hub := none, ticker := .cancelled, stage := .ticker } := by
      simp [nextSession, cancelTicker, htic]
    rw [this]
    exact ⟨⟨hwatch, rfl, htun⟩, trivial, by simp [Engine.awaits]⟩
  | cons n ns =>
    exact ⟨⟨hwatch, List.cons_ne_nil n ns, htic, hhub, hmav, htun⟩, trivial, rfl⟩

theorem resume_alive (h : Alive e) (hcalm : Calm e .resume) : Alive e.resume ∧
    (Begun e → Begun e.resume) ∧ e.resume.awaits = e.awaits - 1 := by
  have hinv := h.stage
  unfold StageInv at hinv
  cases hs : e.stage with
  | sessions left =>
    rw [hs] at hinv
    obtain ⟨hne, htic, hhub, hmav, htun⟩ := hinv
    have hres : e.resume = e.nextSession left.tail := by simp only [resume, hs]
    obtain ⟨h1, h2, h3⟩ := nextSession_alive left.tail h.watch htic hhub hmav htun
    refine ⟨hres ▸ h1, fun _ => hres ▸ h2, ?_⟩
    rw [hres, h3, Engine.awaits, hs, List.length_tail]
    have := List.length_pos_of_ne_nil hne
    simp only
    omega
  | ticker =>
    rw [hs] at hinv
    have hres : e.resume = { e with stage := .statsServer } := by simp only [resume, hs]
    rw [hres]
    refine ⟨⟨h.watch, hinv⟩, fun _ => trivial, ?_⟩
    simp only [Engine.awaits, hs]
    omega
  | statsServer =>
    rw [hs] at hinv
    have hres : e.resume =
        { e with statsServer := false, mavService := none }.nextChild e.plan.stopOrder := by
      simp only [resume, hs]
    obtain ⟨h1, h2, h3⟩ := nextChild_alive (e := { e with statsServer := false, mavService := none }) []
      e.plan.stopOrder h.watch hinv.1 hinv.2 rfl rfl rfl nofun fun leg hleg =>
        hcalm leg (by rw [stopsNext, hs]; exact hleg)
    refine ⟨hres ▸ h1, fun _ => hres ▸ h2, ?_⟩
    rw [hres, h3]
    simp only [Engine.awaits, hs]
    omega
  | children left =>
    rw [hs] at hinv
    obtain ⟨htic, htun, hmav, hstats, stopped, c, cs, rfl, horder, hstopped, hsup⟩ := hinv
    have hstuck : e.stuck c = false := by
      cases c with
      | tx leg => simp [stuck, h.watch leg]
      | _ => rfl
    have hres : e.resume = { e with running := Function.update e.running c false }.nextChild cs := by
      simp only [resume, hs, hstuck]
      rfl
    have hstopped' : ∀ d ∈ stopped ++ [c],
        Stopped { e with running := Function.update e.running c false } d := by
      intro d hd
      have hk := exits_keeps (e := e) c
      rcases List.mem_append.mp hd with hd | hd
      · exact hk.stopped (hstopped d hd)
      · rw [List.mem_singleton.mp hd]
        exact ⟨hsup, Function.update_self ..⟩
    obtain ⟨h1, h2, h3⟩ := nextChild_alive (e := { e with running := Function.update e.running c false })
      (stopped ++ [c]) cs h.watch htic htun hmav hstats
      (by rw [horder, List.append_assoc]; rfl) hstopped'
      fun leg hleg => hcalm leg (by rw [stopsNext, hs]; exact hleg)
    refine ⟨hres ▸ h1, fun _ => hres ▸ h2, ?_⟩
    rw [hres, h3]
    simp only [Engine.awaits, hs, List.length_cons]
    omega
  | _ =>
    have hres : e.resume = e := by simp only [resume, hs]
    rw [hres]
    exact ⟨h, id, by simp only [Engine.awaits, hs]⟩

theorem stop_alive (h : Alive e) (hup : e.stage = .up) : Alive e.stop ∧ Begun e.stop ∧
    e.stop.awaits = e.plan.nodes.length + 2 + e.plan.stopOrder.length := by
  have hinv := h.stage
  unfold StageInv at hinv
  rw [hup] at hinv
  obtain ⟨htic, hhub, hmav, -⟩ := hinv
  have hstop : e.stop = { e with tunnel := none }.nextSession e.plan.nodes := by simp only [stop, hup]
  rw [hstop]
  exact nextSession_alive (e := { e with tunnel := none }) _ h.watch htic hhub hmav rfl

/-! ## Steps and runs -/

theorem alive_start (p : Setup) : Alive (start p : Engine N) := ⟨nofun, rfl, rfl⟩

theorem ready_alive (h : Alive e) : Alive e.ready := by
  cases hs : e.stage with
  | wired =>
    have hinv := h.stage
    unfold StageInv at hinv
    rw [hs] at hinv
    simp only [ready, hs]
    exact ⟨h.watch, rfl, hinv.2⟩
  | _ =>
    have : e.ready = e := by simp only [ready, hs]
    rwa [this]

section Runs

variable [DecidableEq N] {dial : TxLeg → Dial N} {i : Event N}

theorem step_keeps (dial : TxLeg → Dial N) (hi : i.isStage = false) : Keeps e (step dial e i) := by
  cases i with
  | exits c => exact exits_keeps c
  | spawns c => exact spawn_keeps c
  | watch leg => exact resumeWatch_keeps leg
  | txLine leg line => exact keeps_update_tx leg id
  | rxLine leg line =>
    obtain ⟨rx, hub, hshape, hhub⟩ := feedRx_shape (e := e) leg line
    rw [step, hshape]
    exact keeps_same rfl rfl rfl rfl hhub rfl rfl rfl rfl
  | tick =>
    obtain ⟨mav, tun, hub, sel, com, tic, hshape, hmav, htun, hhub⟩ := tick_shape dial (e := e)
    rw [step, hshape]
    exact keeps_same rfl rfl rfl rfl hhub hmav htun rfl rfl
  | wire => cases hi
  | ready => cases hi
  | stop => cases hi
  | resume => cases hi
  | tunSend => exact keeps_same rfl rfl rfl rfl rfl rfl rfl rfl rfl
  | mavSend => exact keeps_same rfl rfl rfl rfl rfl rfl rfl rfl rfl
  | _ => exact keeps_same rfl rfl rfl rfl rfl rfl Option.isSome_map rfl rfl

theorem step_ticker (h : Alive e) (hcalm : Calm e i) (hi : i.isStage = false) :
    (step dial e i).ticker = e.ticker := by
  cases i with
  | spawns c =>
    obtain ⟨rx, tx, run, hshape⟩ := spawn_shape (e := e) c
    rw [step, hshape]
  | rxLine leg line =>
    obtain ⟨rx, hub, hshape, -⟩ := feedRx_shape (e := e) leg line
    rw [step, hshape]
  | tick => exact tick_ticker h hcalm
  | wire => cases hi
  | ready => cases hi
  | stop => cases hi
  | resume => cases hi
  | _ => rfl

theorem wire_alive (h : Alive e) : Alive (e.wire dial) := by
  cases hs : e.stage with
  | setup =>
    have hinv := h.stage
    unfold StageInv at hinv
    rw [hs] at hinv
    simp only [wire, hs]
    rw [applyTxSelection_some rfl rfl]
    exact ⟨h.watch, hinv.1, hinv.2, rfl, rfl⟩
  | _ =>
    have : e.wire dial = e := by simp only [wire, hs]
    rwa [this]

theorem alive_step (h : Alive e) (hcalm : Calm e i) : Alive (step dial e i) := by
  cases hi : i.isStage with
  | false => exact h.keeps (step_keeps dial hi) (step_ticker h hcalm hi)
  | true =>
    cases i with
    | wire => exact wire_alive h
    | ready => exact ready_alive h
    | stop =>
      by_cases hup : e.stage = .up
      · exact (stop_alive h hup).1
      · have : e.stop = e := by
          unfold stop
          split
          · next hs => exact absurd hs hup
          · rfl
        rw [step, this]
        exact h
    | resume => exact (resume_alive h hcalm).1
    | _ => cases hi

theorem awaits_step (dial : TxLeg → Dial N) (h : Alive e) (hbegun : Begun e) (hcalm : Calm e i) :
    Begun (step dial e i) ∧ (step dial e i).awaits = e.awaits - (if i.isResume then 1 else 0) := by
  cases hi : i.isStage with
  | false =>
    have hk := step_keeps (e := e) dial hi
    have hres : i.isResume = false := by
      cases i <;> first | rfl | cases hi
    exact ⟨hk.begun hbegun, by rw [hk.awaits, hres]; rfl⟩
  | true =>
    -- the setup is over, and the stop event has been seen
    have hstage : e.stage ≠ .setup ∧ e.stage ≠ .wired ∧ e.stage ≠ .up := by
      unfold Begun at hbegun
      refine ⟨?_, ?_, ?_⟩ <;> rintro hs <;> rw [hs] at hbegun <;> exact hbegun
    cases i with
    | resume =>
      obtain ⟨-, hb, ha⟩ := resume_alive h hcalm
      exact ⟨hb hbegun, ha⟩
    | wire =>
      have : e.wire dial = e := by
        unfold wire
        split
        · next hs => exact absurd hs hstage.1
        · rfl
      rw [step, this]
      exact ⟨hbegun, rfl⟩
    | ready =>
      have : e.ready = e := by
        unfold ready
        split
        · next hs => exact absurd hs hstage.2.1
        · rfl
      rw [step, this]
      exact ⟨hbegun, rfl⟩
    | stop =>
      have : e.stop = e := by
        unfold stop
        split
        · next hs => exact absurd hs hstage.2.2
        · rfl
      rw [step, this]
      exact ⟨hbegun, rfl⟩
    | _ => cases hi

theorem awaits_run (is : List (Event N)) : ∀ e : Engine N, Alive e → Begun e →
    Run.Meets (step dial) Calm e is →
    Alive (is.foldl (step dial) e) ∧ Begun (is.foldl (step dial) e) ∧
      (is.foldl (step dial) e).awaits = e.awaits - is.countP Event.isResume := by
  induction is with
  | nil => exact fun e h hb _ => ⟨h, hb, rfl⟩
  | cons i is ih =>
    intro e h hb hm
    obtain ⟨hb', ha'⟩ := awaits_step dial h hb hm.1
    obtain ⟨h1, h2, h3⟩ := ih _ (alive_step h hm.1) hb' hm.2
    refine ⟨h1, h2, ?_⟩
    rw [List.foldl_cons, h3, ha', List.countP_cons]
    omega

theorem plan_step (s : Engine N) (i : Event N) : (step dial s i).plan = s.plan := by
  have hsession : ∀ (e : Engine N) left, (e.nextSession left).plan = e.plan := by
    intro e left
    cases left with
    | nil =>
      simp only [nextSession, cancelTicker]
      split <;> rfl
    | cons n ns => rfl
  have hchild : ∀ (e : Engine N) left, (e.nextChild left).plan = e.plan := by
    intro e left
    cases left <;> rfl
  cases hi : i.isStage with
  | false => exact (step_keeps dial hi).plan
  | true =>
    cases i with
    | wire =>
      simp only [step, wire]
      split
      · rw [applyTxSelection_some rfl rfl]
      · rfl
    | ready =>
      simp only [step, ready]
      split <;> rfl
    | stop =>
      simp only [step, stop]
      split
      · exact hsession _ _
      · rfl
    | resume =>
      simp only [step, resume]
      split
      · exact hsession _ _
      · rfl
      · exact hchild _ _
      · split_ifs
        · rfl
        · exact hchild _ _
      · rfl
    | _ => cases hi

/-- **The teardown ends.**  In a calm run the teardown does not fail, whatever else happens on the loop,
and after as many awaits as there are node sessions and children, and two more, it is done: the two
services and the stats server are stopped, and every child was told to stop and has no process. -/
theorem teardown_completes (dial : TxLeg → Dial N) (p : Setup) (before after : List (Event N))
    (hup : (before.foldl (step dial) (start p)).stage = .up)
    (hcalm : Run.Meets (step dial) Calm (start p) (before ++ .stop :: after)) :
    (∀ x, ((before ++ .stop :: after).foldl (step dial) (start p)).stage ≠ .failed x) ∧
      (p.nodes.length + p.children.length + 2 ≤ after.countP Event.isResume →
        TornDown ((before ++ .stop :: after).foldl (step dial) (start p))) := by
  rw [Run.meets_append, Run.meets_cons] at hcalm
  obtain ⟨hbefore, -, hafter⟩ := hcalm
  rw [List.foldl_append, List.foldl_cons]
  obtain ⟨halive, hplan⟩ := hbefore.invariant (I := fun e => Alive e ∧ e.plan = p)
    (fun s i h hc => ⟨alive_step h.1 hc, (plan_step s i).trans h.2⟩) _ _ ⟨alive_start p, rfl⟩
  set s := before.foldl (step dial) (start p)
  obtain ⟨hstop, hbegun, hawaits⟩ : Alive (step dial s .stop) ∧ Begun (step dial s .stop) ∧
      (step dial s .stop).awaits = s.plan.nodes.length + 2 + s.plan.stopOrder.length :=
    stop_alive halive hup
  obtain ⟨hend, hbegun, hleft⟩ := awaits_run after _ hstop hbegun hafter
  refine ⟨fun x hx => ?_, fun hn => hend.tornDown hbegun ?_⟩
  · have hinv := hend.stage
    unfold StageInv at hinv
    rw [hx] at hinv
    exact hinv
  · rw [hleft, hawaits, hplan, Setup.length_stopOrder]
    omega

theorem failed_step {x : PyExc} (dial : TxLeg → Dial N) (i : Event N)
    (hx : e.stage = .failed x) : (step dial e i).stage = .failed x ∧
    (step dial e i).supervised = e.supervised := by
  cases hi : i.isStage with
  | false => exact ⟨(step_keeps dial hi).stage.trans hx, (step_keeps dial hi).supervised⟩
  | true =>
    have hsame : step dial e i = e := by
      cases i with
      | wire => simp only [step, wire, hx]
      | ready => simp only [step, ready, hx]
      | stop => simp only [step, stop, hx]
      | resume => simp only [step, resume, hx]
      | _ => cases hi
    rw [hsame]
    exact ⟨hx, rfl⟩

theorem failed_run {x : PyExc} (is : List (Event N)) : ∀ e : Engine N, e.stage = .failed x →
    (is.foldl (step dial) e).stage = .failed x ∧ (is.foldl (step dial) e).supervised = e.supervised := by
  induction is with
  | nil => exact fun e hx => ⟨hx, rfl⟩
  | cons i is ih =>
    intro e hx
    obtain ⟨hx', hsup⟩ := failed_step dial i hx
    obtain ⟨h1, h2⟩ := ih _ hx'
    exact ⟨h1, h2.trans hsup⟩

end Runs

/-! ## A remote node -/

/-- A link with one remote node comes up and is used; then the stop event is set. -/
def remoteUp : List (Event String) :=
  handshake .mavlinkTx [("mavlink-tx.0", 0)] ++ handshake .tunnelTx [("tunnel-tx.0", 0)] ++
    [.wire, .ready, .rxLine .videoRx (.rxAnt ((5180, 1, 20), 0) ⟨90, -60, -55, -50, 20, 25, 30, -1, -1, -1⟩),
      .rxLine .videoRx (.pkt {}), .tick]

/-- Two rounds of the ticker run while the session of the node is stopped. -/
def quietStop : List (Event String) := [.tick, .tick] ++ List.replicate 8 .resume

theorem teardown_completes_remote :
    TornDown ((remoteUp ++ .stop :: quietStop).foldl (step fun _ _ _ => true)
      (start { nodes := ["10.0.0.2"] })) :=
  (teardown_completes (fun _ _ _ => true) { nodes := ["10.0.0.2"] } remoteUp quietStop
    (by decide +kernel) (by decide +kernel)).2 (by decide)

/-- The tunnel_tx dies before the stop and is back while the session of the node is stopped. -/
def respawnInTeardown : List (Event String) :=
  remoteUp ++ [.exits (.tx .tunnelTx), .stop, .spawns (.tx .tunnelTx),
    .txLine .tunnelTx (.listenUnix "tunnel-tx.0" 0), .tick, .resume]

/-- **An abandoned teardown.**  The round of the ticker that finds the new wfb_tx calls a method of the
tunnel that is gone, and the await of the ticker raises the exception again: `_teardown` is left, and
whatever follows, no child is ever told to stop. -/
theorem teardown_abandoned :
    let s := respawnInTeardown.foldl (step fun _ _ _ => true) (start { nodes := ["10.0.0.2"] })
    s.stage = .failed .attributeError ∧ s.statsServer = true ∧ s.mavService.isSome = true ∧
      (∀ c ∈ s.plan.children, s.running c = true) ∧
      ∀ after : List (Event String), (after.foldl (step fun _ _ _ => true) s).stage =
          .failed .attributeError ∧
        ∀ c ∈ s.plan.children, (after.foldl (step fun _ _ _ => true) s).supervised c = true := by
  have hfailed : (respawnInTeardown.foldl (step fun _ _ _ => true)
      (start { nodes := ["10.0.0.2"] })).stage = .failed .attributeError := by decide +kernel
  refine ⟨hfailed, by decide +kernel, by decide +kernel, by decide +kernel, fun after => ?_⟩
  obtain ⟨hstage, hsup⟩ := failed_run after _ hfailed
  refine ⟨hstage, ?_⟩
  rw [hsup]
  decide +kernel

end Engine

end Fpvd.Wfb
