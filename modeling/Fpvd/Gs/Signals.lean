import Fpvd.Gs.StatsClient

/-!
# Fpvd.Gs.Signals — the signal aggregator (`gs/fpvdgs/dynlink/signals.py`)

Folds the windows of the receiver into the signals that the policy reads: from the 100 ms records of
the `:8103` feed (`consume`), or from the 10 ms records of the tap (`consumeMicro`, `consumeLoss`),
over a rolling window of ten of them.  The tenth root in `micro_alpha` is the platform's (`root`).
-/

namespace Fpvd.Gs

def windowS : ℚ := 1 / 10

def microsPerWindow : ℕ := 10

def microAlpha (root : ℚ → ℚ) (alpha : ℚ) : ℚ := 1 - root (1 - alpha)

def ewma {K : Type} [Ring K] (prev : Option K) (new alpha : K) : K :=
  match prev with
  | none => new
  | some prev => alpha * new + (1 - alpha) * prev

structure WindowSignals extends Signals where
  rssiMinW : Option ℚ := none
  rssiAvgW : Option ℚ := none
  rssiMaxW : Option ℚ := none
  mcsW : Option ℤ := none
  evmW : Option ℚ := none
  evmLoW : Option ℚ := none
  evmMinW : Option ℚ := none
  fecWorkRateW : ℚ := 0
  packetRateW : ℚ := 0
  burstRateW : ℚ := 0
  holdoffRateW : ℚ := 0
  lateRateW : ℚ := 0
  tapActive : Bool := false
  rssiRaw : Option ℚ := none
  burstRate : ℚ := 0
  holdoffRate : ℚ := 0
  lateRate : ℚ := 0
  session : Option SessionInfo := none
  windowsSeen : ℕ := 0
  antCount : ℕ := 0
  deriving DecidableEq

structure TapMicro where
  pktAll : ℤ := 0
  pktData : ℤ := 0
  pktFecRec : ℤ := 0
  pktLost : ℤ := 0
  pktOut : ℤ := 0
  rxAntStats : List RxAnt := []
  deriving DecidableEq, Repr

structure Counters where
  data : ℤ := 0
  fecRec : ℤ := 0
  lost : ℤ := 0
  out : ℤ := 0
  deriving DecidableEq, Repr

def TapMicro.counters (rec : TapMicro) : Counters :=
  ⟨rec.pktData, rec.pktFecRec, rec.pktLost, rec.pktOut⟩

def RxEvent.counter (ev : RxEvent) (key : String) : ℤ := (AssocMap.find? key ev.packetsWindow).getD 0

def RxEvent.counters (ev : RxEvent) : Counters :=
  ⟨ev.counter "data", ev.counter "fec_rec", ev.counter "lost", ev.counter "out"⟩

def Counters.sum (cs : List Counters) : Counters :=
  ⟨(cs.map data).sum, (cs.map fecRec).sum, (cs.map lost).sum, (cs.map out).sum⟩

structure Smoothing where
  ewmaAlphaRssi : ℚ := 2 / 10
  ewmaAlphaFec : ℚ := 2 / 10
  ewmaAlphaBurst : ℚ := 1 / 10
  starvationThresholdPps : ℚ := 50
  deriving DecidableEq, Repr

structure SignalAggregator where
  signals : WindowSignals := {}
  /-- the last windows of the tap, at most `microsPerWindow` -/
  micro : List Counters := []
  pendingLost : ℤ := 0
  deriving DecidableEq

namespace SignalAggregator

def updateSession (session : SessionInfo) (a : SignalAggregator) : SignalAggregator :=
  { a with signals := { a.signals with session := some session } }

def resetSmoothed (a : SignalAggregator) : SignalAggregator :=
  { a with signals := { a.signals with rssiRaw := none, snr := none } }

def resetMicroWindow (a : SignalAggregator) : SignalAggregator :=
  { a with micro := [], pendingLost := 0 }

/-! ## The antennas -/

def bestAnt (a : RxAnt) (ants : List RxAnt) : RxAnt :=
  ants.foldl (fun best a => if best.snrAvg < a.snrAvg then a else best) a

def dongle (a : RxAnt) : ℤ := a.ant >>> (8 : ℕ)

def evmBy (pick : ℤ → ℤ → ℤ) (field : RxAnt → ℤ) (ants : List RxAnt) : List (ℤ × ℤ) :=
  (ants.filter fun a => 0 < a.evmAvg).foldl (fun d a =>
    AssocMap.put (dongle a) (pick ((AssocMap.find? (dongle a) d).getD (field a)) (field a)) d) []

def foldAnts (a : RxAnt) (ants : List RxAnt) (s : WindowSignals) : WindowSignals :=
  let all := a :: ants
  let best := bestAnt a ants
  let s := { s with
    rssiMinW := some ((ants.map RxAnt.rssiMin).foldl min a.rssiMin : ℤ)
    rssiAvgW := some ((all.map RxAnt.rssiAvg).sum / all.length)
    rssiMaxW := some ((ants.map RxAnt.rssiAvg).foldl max a.rssiAvg : ℤ)
    mcsW := some best.mcs
    antCount := all.length
    snrW := some best.snrAvg }
  match (evmBy max RxAnt.evmAvg all).map Prod.snd, (evmBy min RxAnt.evmMin all).map Prod.snd with
  | e :: es, m :: ms => { s with
      evmW := some (es.foldl max e : ℤ)
      evmLoW := some (es.foldl min e : ℤ)
      evmMinW := some (ms.foldl min m : ℤ) }
  | _, _ => s

def withAnts (ants : List RxAnt) (s : WindowSignals) : WindowSignals :=
  match ants with
  | [] => s
  | a :: ants => foldAnts a ants s

/-! ## The window -/

def windowFields (cfg : Smoothing) (c : Counters) (s : WindowSignals) : WindowSignals :=
  let txPrimaries := c.out + c.lost
  let packetRateW := c.data / windowS
  { s with
    residualLossW := if txPrimaries > 0 then c.lost / txPrimaries else 0
    fecWorkRateW := if txPrimaries > 0 then c.fecRec / txPrimaries else 0
    packetRateW := packetRateW
    linkStarvedW := s.session.isSome && packetRateW < cfg.starvationThresholdPps }

def smoothRadio (alpha : ℚ) (s : WindowSignals) : WindowSignals :=
  match s.rssiMaxW with
  | none => s
  | some rssi => { s with
      rssiRaw := some (ewma s.rssiRaw rssi alpha)
      snr := match s.snrW with
        | some snr => some (ewma s.snr snr alpha)
        | none => s.snr }

variable (cfg : Smoothing)

def consume (ev : RxEvent) (a : SignalAggregator) : SignalAggregator :=
  let s := { a.signals with
    timestamp := ev.timestamp
    windowsSeen := a.signals.windowsSeen + 1
    session := ev.session.or a.signals.session
    burstRateW := ev.counter "bursts_rec" / windowS
    holdoffRateW := ev.counter "holdoff" / windowS
    lateRateW := ev.counter "late_deadline" / windowS }
  -- the antennas do not touch what the counters give
  let s := withAnts ev.rxAntStats (windowFields cfg (ev.counters) s)
  let s := smoothRadio cfg.ewmaAlphaRssi s
  { a with signals := { s with
      fecWork := ewma (some s.fecWork) s.fecWorkRateW cfg.ewmaAlphaFec
      burstRate := ewma (some s.burstRate) s.burstRateW cfg.ewmaAlphaBurst
      holdoffRate := ewma (some s.holdoffRate) s.holdoffRateW cfg.ewmaAlphaBurst
      lateRate := ewma (some s.lateRate) s.lateRateW cfg.ewmaAlphaBurst } }

def recomputeMicroWindow (a : SignalAggregator) : SignalAggregator :=
  let c := Counters.sum a.micro
  { a with signals := windowFields cfg { c with lost := c.lost + a.pendingLost } a.signals }

def consumeMicro (root : ℚ → ℚ) (rec : TapMicro) (now : ℚ) (a : SignalAggregator) :
    SignalAggregator :=
  let a := recomputeMicroWindow cfg { a with
    signals := { a.signals with timestamp := now }
    micro := (a.micro ++ [rec.counters]).rtake microsPerWindow
    pendingLost := 0 }
  let s := smoothRadio (microAlpha root cfg.ewmaAlphaRssi) (withAnts rec.rxAntStats a.signals)
  { a with signals := { s with
      fecWork := ewma (some s.fecWork) s.fecWorkRateW (microAlpha root cfg.ewmaAlphaFec) } }

def consumeLoss (lostCount : ℤ) (now : ℚ) (a : SignalAggregator) : SignalAggregator :=
  recomputeMicroWindow cfg { a with
    signals := { a.signals with timestamp := now }
    pendingLost := a.pendingLost + lostCount }

end SignalAggregator

/-! ## What the antennas and the smoothing leave alone -/

structure Window where
  residualLossW : ℚ
  fecWorkRateW : ℚ
  packetRateW : ℚ
  linkStarvedW : Bool
  deriving DecidableEq, Repr

def WindowSignals.window (s : WindowSignals) : Window :=
  ⟨s.residualLossW, s.fecWorkRateW, s.packetRateW, s.linkStarvedW⟩

def Window.of (cfg : Smoothing) (session : Option SessionInfo) (c : Counters) : Window :=
  (SignalAggregator.windowFields cfg c { session := session }).window

namespace SignalAggregator

theorem windowFields_window (cfg : Smoothing) (c : Counters) (s : WindowSignals) :
    (windowFields cfg c s).window = .of cfg s.session c := rfl

theorem withAnts_window (ants : List RxAnt) (s : WindowSignals) :
    (withAnts ants s).window = s.window ∧ (withAnts ants s).session = s.session := by
  cases ants with
  | nil => exact ⟨rfl, rfl⟩
  | cons a ants =>
    unfold withAnts foldAnts
    dsimp only
    split <;> exact ⟨rfl, rfl⟩

theorem smoothRadio_window (alpha : ℚ) (s : WindowSignals) :
    (smoothRadio alpha s).window = s.window ∧ (smoothRadio alpha s).session = s.session := by
  unfold smoothRadio
  split <;> exact ⟨rfl, rfl⟩

theorem consume_window (cfg : Smoothing) (ev : RxEvent) (a : SignalAggregator) :
    (a.consume cfg ev).signals.window =
      .of cfg (ev.session.or a.signals.session) (ev.counters) := by
  show (smoothRadio _ (withAnts _ _)).window = _
  rw [(smoothRadio_window _ _).1, (withAnts_window _ _).1, windowFields_window]

theorem consumeMicro_window (cfg : Smoothing) (root : ℚ → ℚ) (rec : TapMicro) (now : ℚ)
    (a : SignalAggregator) :
    (a.consumeMicro cfg root rec now).signals.window = .of cfg a.signals.session
      (Counters.sum ((a.micro ++ [rec.counters]).rtake microsPerWindow)) := by
  show (smoothRadio _ (withAnts _ _)).window = _
  rw [(smoothRadio_window _ _).1, (withAnts_window _ _).1]
  unfold recomputeMicroWindow
  rw [windowFields_window]
  simp only [add_zero]

theorem consumeMicro_frame (cfg : Smoothing) (root : ℚ → ℚ) (rec : TapMicro) (now : ℚ)
    (a : SignalAggregator) :
    (a.consumeMicro cfg root rec now).micro =
        (a.micro ++ [rec.counters]).rtake microsPerWindow ∧
      (a.consumeMicro cfg root rec now).signals.session = a.signals.session := by
  refine ⟨rfl, ?_⟩
  show (smoothRadio _ (withAnts _ _)).session = _
  rw [(smoothRadio_window _ _).2, (withAnts_window _ _).2]
  rfl

end SignalAggregator

/-! ## The smoothing -/

section Smooth

variable {K : Type} [CommRing K]

def smoothed (x alpha : K) (prev : Option K) : Option K := some (ewma prev x alpha)

theorem smoothed_iterate (x alpha p : K) (n : ℕ) :
    (smoothed x alpha)^[n] (some p) = some (x + (1 - alpha) ^ n * (p - x)) := by
  induction n with
  | zero => simp
  | succ n ih =>
    rw [Function.iterate_succ_apply', ih, smoothed, ewma, Option.some_inj]
    ring

/-- **Ten folds at the micro cadence are one at the window cadence**, for `a'` with
`(1 - a') ^ 10 = 1 - a`. -/
theorem smoothed_micro {a a' : K} (h : (1 - a') ^ microsPerWindow = 1 - a) (x : K) (prev : Option K) :
    (smoothed x a')^[microsPerWindow] prev = smoothed x a prev := by
  cases prev with
  | some p =>
    rw [smoothed_iterate, h, smoothed, ewma, Option.some_inj]
    ring
  | none =>
    -- the first fold takes the value itself, the others keep it
    show (smoothed x a')^[9] (some x) = some x
    rw [smoothed_iterate]
    simp

end Smooth

end Fpvd.Gs
