import Fpvd.Gs.Release
import Fpvd.Lib.GroupFold
import Fpvd.Wfb.StatsRun

/-!
# Fpvd.Gs.Probe — the probe and its veto (`gs/fpvdgs/probe/parser.py`, `feed.py`)

The drone sends a trickle of probe packets one rung above the video.  The lines of their wfb_rx give a loss
rate for each rung, and a promote into a rung is vetoed while that is high and fresh.  Ten windows in a row
without a packet are a blackout, which pins the rate to 1; a window with packets is fresh for half a second.
Floats are exact rationals.
-/

namespace Fpvd.Gs

open GroupFold Wfb

def probeFreshS : ℚ := 1 / 2

def probeEwmaAlpha : ℚ := 1 / 4

def probeBlackoutWindows : ℕ := 10

/-! ## The feed -/

inductive ProbeLine where
  | rxAnt (mcs rssi snr : ℤ)
  | pkt (data fecRec lost : ℤ)

def parseLine (rd : LineReader) (line : String) : Option ProbeLine :=
  match splitText '\t' (String.ofList (line.toList.rdropWhile (· = '\n'))) with
  | _ :: "RX_ANT" :: key :: _ :: vals :: _ =>
    match rd.ints key, rd.ints vals with
    | some [_, mcs, _], some (_ :: _ :: rssi :: _ :: _ :: snr :: _ :: _) => some (.rxAnt mcs rssi snr)
    | _, _ => none
  | _ :: "PKT" :: counters :: _ =>
    match rd.ints counters with
    | some (_ :: _ :: _ :: _ :: data :: _ :: fecRec :: lost :: _) => some (.pkt data fecRec lost)
    | _ => none
  | _ => none

structure Meter where
  per : Option ℚ := none
  windows : ℕ := 0
  empty : ℕ := 0

structure Slot extends Meter where
  rssi : Option ℤ := none
  snr : Option ℤ := none

/-- `on_pkt`, on the slot. -/
def Meter.onPkt (alpha : ℚ) (blackoutWindows : ℕ) (data lost : ℤ) (s : Meter) : Meter :=
  if data + lost ≤ 0 then
    { s with
      empty := s.empty + 1
      per := if s.empty + 1 ≥ blackoutWindows then some 1 else s.per }
  else
    let winPer : ℚ := lost / (data + lost : ℤ)
    { empty := 0
      windows := s.windows + 1
      per := some (s.per.elim winPer fun per => alpha * winPer + (1 - alpha) * per) }

structure McsAggregator where
  alpha : ℚ := 1 / 4
  blackoutWindows : ℕ := 10
  m : OrdMap ℤ Slot := ∅

namespace McsAggregator

variable (agg : McsAggregator) (mcs : ℤ)

def slot : Slot := (agg.m.find? mcs).getD {}

def onRxAnt (rssi snr : ℤ) : McsAggregator :=
  { agg with m := agg.m.insert mcs { agg.slot mcs with rssi := rssi, snr := snr } }

def onPkt (data lost : ℤ) : McsAggregator :=
  { agg with m := agg.m.insert mcs { agg.slot mcs with
      toMeter := (agg.slot mcs).onPkt agg.alpha agg.blackoutWindows data lost } }

end McsAggregator

structure ProbeFeed where
  agg : McsAggregator := { alpha := probeEwmaAlpha, blackoutWindows := probeBlackoutWindows }
  lastMcs : Option ℤ := none
  updated : OrdMap ℤ ℚ := ∅

namespace ProbeFeed

section Model

variable (rd : LineReader)

/-- `feed_line`, with the clock. -/
def feedLine (s : ProbeFeed) (line : ℚ × String) : ProbeFeed :=
  match parseLine rd line.2, s.lastMcs with
  | some (.rxAnt mcs rssi snr), _ => { s with lastMcs := some mcs, agg := s.agg.onRxAnt mcs rssi snr }
  | some (.pkt data _ lost), some mcs =>
    { s with
      agg := s.agg.onPkt mcs data lost
      updated := if data + lost > 0 then s.updated.insert mcs line.1 else s.updated }
  | _, _ => s

def fresh (s : ProbeFeed) (now : ℚ) (mcs : ℤ) : Bool :=
  (s.updated.find? mcs).any fun t => now - t ≤ probeFreshS

def snapshotFresh (s : ProbeFeed) (now : ℚ) : OrdMap ℤ ProbeReading :=
  s.agg.m.filterMap fun mcs slot => slot.per.map fun per => ⟨some per, s.fresh now mcs⟩

/-! ## Its windows -/

structure Window where
  time : ℚ
  data : ℤ
  lost : ℤ
  deriving DecidableEq

def Window.carries (w : Window) : Bool := w.data + w.lost > 0

/-- The window that a line closes, with the rung of the last `RX_ANT` line. -/
def window (s : ProbeFeed) (line : ℚ × String) : List (ℤ × Window) :=
  match parseLine rd line.2, s.lastMcs with
  | some (.pkt data _ lost), some mcs => [(mcs, ⟨line.1, data, lost⟩)]
  | _, _ => []

def windows (lines : List (ℚ × String)) (r : ℤ) : List Window :=
  rowsOf r (Run.shown (feedLine rd) (window rd) {} lines)

def measure (ws : List Window) : Meter :=
  ws.foldl (fun s w => s.onPkt probeEwmaAlpha probeBlackoutWindows w.data w.lost) {}

end Model

/-- The feed has the measure of the windows of each rung, and the time of the last one with packets. -/
structure Tracks (s : ProbeFeed) (ws : List (ℤ × Window)) : Prop where
  alpha : s.agg.alpha = probeEwmaAlpha
  blackout : s.agg.blackoutWindows = probeBlackoutWindows
  meter : ∀ r, (s.agg.slot r).toMeter = measure (rowsOf r ws)
  updated : ∀ r, s.updated.find? r = ((rowsOf r ws).reverse.find? Window.carries).map Window.time

section Tracks

variable {rd : LineReader} {s : ProbeFeed} {ws : List (ℤ × Window)}

theorem rowsOf_concat (r mcs : ℤ) (w : Window) :
    rowsOf r (ws ++ [(mcs, w)]) = if r = mcs then rowsOf r ws ++ [w] else rowsOf r ws := by
  by_cases h : r = mcs
  · simp [rowsOf, h]
  · simp [rowsOf, h, Ne.symm h]

theorem Tracks.rxAnt (h : Tracks s ws) (mcs rssi snr : ℤ) :
    Tracks { s with lastMcs := some mcs, agg := s.agg.onRxAnt mcs rssi snr } ws where
  alpha := h.alpha
  blackout := h.blackout
  meter r := by
    rw [← h.meter r]
    unfold McsAggregator.slot McsAggregator.onRxAnt
    dsimp only
    rw [OrdMap.find?_insert]
    split_ifs with hr
    · rw [hr]
      rfl
    · rfl
  updated := h.updated

theorem Tracks.pkt (h : Tracks s ws) (mcs : ℤ) (w : Window) (last : Option ℤ) :
    Tracks ⟨s.agg.onPkt mcs w.data w.lost, last,
      if w.data + w.lost > 0 then s.updated.insert mcs w.time else s.updated⟩ (ws ++ [(mcs, w)]) where
  alpha := h.alpha
  blackout := h.blackout
  meter r := by
    have hm := h.meter r
    rw [rowsOf_concat]
    unfold McsAggregator.slot McsAggregator.onPkt
    dsimp only
    rw [OrdMap.find?_insert, h.alpha, h.blackout]
    split_ifs with hr
    · rw [measure, List.foldl_concat, ← measure, ← hm, hr]
      rfl
    · exact hm
  updated r := by
    have hu := h.updated r
    rw [rowsOf_concat]
    by_cases hr : r = mcs
    · subst hr
      by_cases hw : w.data + w.lost > 0 <;> simp [hw, Window.carries, OrdMap.find?_insert, hu]
    · by_cases hw : w.data + w.lost > 0 <;> simp [hw, hr, OrdMap.find?_insert, hu]

theorem Tracks.feedLine (h : Tracks s ws) (line : ℚ × String) :
    Tracks (s.feedLine rd line) (ws ++ window rd s line) := by
  unfold ProbeFeed.feedLine window
  rcases parseLine rd line.2 with _ | ⟨mcs, rssi, snr⟩ | ⟨data, fecRec, lost⟩
  · rwa [List.append_nil]
  · rw [List.append_nil]
    exact h.rxAnt mcs rssi snr
  · cases s.lastMcs with
    | none => rwa [List.append_nil]
    | some mcs => exact h.pkt mcs ⟨line.1, data, lost⟩ (some mcs)

/-- **What a snapshot reads**, from the windows of the rung. -/
theorem find?_snapshotFresh (rd : LineReader) (lines : List (ℚ × String)) (now : ℚ) (r : ℤ) :
    ((lines.foldl (ProbeFeed.feedLine rd) {}).snapshotFresh now).find? r =
      (measure (windows rd lines r)).per.map fun per => ⟨some per,
        ((windows rd lines r).reverse.find? Window.carries).any fun w => now - w.time ≤ probeFreshS⟩ := by
  have h : Tracks (lines.foldl (ProbeFeed.feedLine rd) {})
      (Run.shown (ProbeFeed.feedLine rd) (window rd) {} lines) := by
    induction lines using List.reverseRecOn with
    | nil => exact ⟨rfl, rfl, fun _ => rfl, fun _ => rfl⟩
    | append_singleton lines line h =>
      rw [List.foldl_concat, Run.shown_concat]
      exact h.feedLine line
  rw [windows, ← h.meter r, snapshotFresh, OrdMap.find?_filterMap, fresh, h.updated r, Option.any_map,
    McsAggregator.slot]
  cases (lines.foldl (ProbeFeed.feedLine rd) {}).agg.m.find? r <;> rfl

end Tracks

/-! ## Blackouts -/

section Blackout

variable {before gap : List Window} {w : Window}

def Blackout (gap : List Window) : Prop := probeBlackoutWindows ≤ gap.length ∧ ∀ w ∈ gap, w.carries = false

theorem measure_empty (hw : w.carries = false) (ws : List Window) : measure (ws ++ [w]) =
    { measure ws with
      empty := (measure ws).empty + 1
      per := if (measure ws).empty + 1 ≥ probeBlackoutWindows then some 1 else (measure ws).per } := by
  rw [measure, List.foldl_concat, ← measure, Meter.onPkt, if_pos (not_lt.mp (of_decide_eq_false hw))]

theorem measure_gap (hgap : ∀ w ∈ gap, w.carries = false) :
    (measure (before ++ gap)).empty = (measure before).empty + gap.length := by
  induction gap using List.reverseRecOn with
  | nil => rw [List.append_nil, List.length_nil, Nat.add_zero]
  | append_singleton gap w ih =>
    rw [← List.append_assoc, measure_empty (hgap w (by simp)), ih fun v hv => hgap v (by simp [hv]),
      List.length_append, List.length_singleton, Nat.add_assoc]

theorem Blackout.per (hgap : Blackout gap) (before : List Window) :
    (measure (before ++ gap)).per = some 1 := by
  obtain ⟨hlen, hempty⟩ := hgap
  rcases List.eq_nil_or_concat' gap with rfl | ⟨init, w, rfl⟩
  · exact absurd hlen (by decide)
  · rw [← List.append_assoc, measure_empty (hempty w (by simp)),
      measure_gap fun v hv => hempty v (by simp [hv])]
    rw [List.length_append, List.length_singleton] at hlen
    exact if_pos (by omega)

/-- A window with packets takes at most a quarter of the rate away. -/
theorem le_per_after (hbefore : (measure before).per = some 1) (rest : List Window)
    (hlost : ∀ w ∈ rest, 0 ≤ w.lost) : ∃ per, (measure (before ++ rest)).per = some per ∧
      (1 - probeEwmaAlpha) ^ rest.countP Window.carries ≤ per := by
  induction rest using List.reverseRecOn with
  | nil => exact ⟨1, by rw [List.append_nil, hbefore], le_of_eq (pow_zero _)⟩
  | append_singleton rest w ih =>
    obtain ⟨per, hper, hle⟩ := ih fun v hv => hlost v (by simp [hv])
    rw [← List.append_assoc, List.countP_append, List.countP_singleton]
    by_cases hc : w.carries
    · have hpos := of_decide_eq_true hc
      have hloss : (0 : ℚ) ≤ w.lost / (w.data + w.lost : ℤ) :=
        div_nonneg (by exact_mod_cast hlost w (by simp)) (by exact_mod_cast hpos.le)
      rw [measure, List.foldl_concat, ← measure, Meter.onPkt, if_neg (not_le.mpr hpos), hper, if_pos hc]
      refine ⟨_, rfl, ?_⟩
      rw [pow_succ]
      dsimp only [Option.elim_some, probeEwmaAlpha] at hle ⊢
      linarith
    · rw [measure_empty (by simpa using hc), hper, if_neg hc, Nat.add_zero]
      split_ifs
      · exact ⟨1, rfl, pow_le_one₀ (by norm_num [probeEwmaAlpha]) (by norm_num [probeEwmaAlpha])⟩
      · exact ⟨per, rfl, hle⟩

theorem lt_of_spaced {d : ℚ} (h : (w :: gap).Pairwise (·.time + d < ·.time)) (hne : gap ≠ []) :
    ∃ v ∈ gap, w.time + gap.length * d < v.time := by
  induction gap generalizing w with
  | nil => exact absurd rfl hne
  | cons v gap ih =>
    have hwv : w.time + d < v.time := List.rel_of_pairwise_cons h List.mem_cons_self
    cases gap with
    | nil => exact ⟨v, List.mem_cons_self, by simpa using hwv⟩
    | cons u gap =>
      obtain ⟨x, hx, hlt⟩ := ih h.of_cons (List.cons_ne_nil u gap)
      refine ⟨x, List.mem_cons_of_mem v hx, ?_⟩
      rw [List.length_cons, Nat.cast_succ]
      linarith

theorem Blackout.stale {now : ℚ} (hgap : Blackout gap) (hnow : ∀ w ∈ gap, w.time ≤ now)
    (hspaced : (before ++ gap).Pairwise (·.time + 1 / 20 < ·.time)) :
    ((before ++ gap).reverse.find? Window.carries).any (fun w => now - w.time ≤ probeFreshS) = false := by
  obtain ⟨hlen, hempty⟩ := hgap
  rw [Option.any_eq_false]
  intro w hw
  have hcarries := List.find?_some hw
  have hmem := List.mem_append.mp (List.mem_reverse.mp (List.mem_of_find?_eq_some hw))
  have hbefore := hmem.resolve_right fun hg => Bool.false_ne_true ((hempty w hg).symm.trans hcarries)
  obtain ⟨-, hg, hbg⟩ := List.pairwise_append.mp hspaced
  have hne : gap ≠ [] := List.ne_nil_of_length_pos (lt_of_lt_of_le (by decide) hlen)
  obtain ⟨v, hv, hlt⟩ := lt_of_spaced (List.pairwise_cons.mpr ⟨hbg w hbefore, hg⟩) hne
  have hten : (10 : ℚ) ≤ gap.length := by exact_mod_cast hlen
  have := hnow v hv
  rw [decide_eq_false_iff_not, not_le, probeFreshS]
  linarith

end Blackout

theorem probe_blackout (rd : LineReader) (lines : List (ℚ × String)) (now : ℚ) (r : ℤ)
    (hlines : ∀ w ∈ windows rd lines r, w.time ≤ now ∧ 0 ≤ w.lost) (cfg : PolicyConfig)
    (prior : KneeModel) (p₀ : Policy) (hnew : Policy.new cfg prior = .ok p₀) (calls : List Policy.Call)
    (sig : Signals) (hsig : sig.probe = (lines.foldl (feedLine rd) {}).snapshotFresh now) :
    (∀ before gap, windows rd lines r = before ++ gap → Blackout gap →
      (before ++ gap).Pairwise (·.time + 1 / 20 < ·.time) →
      ((sig.probe.find? r).getD {}).fresh = false) ∧
    ∀ before gap rest, windows rd lines r = before ++ gap ++ rest → Blackout gap →
      rest.countP Window.carries ≤ 8 → ((sig.probe.find? r).getD {}).fresh = true →
      ¬ Policy.Promotes cfg r (calls.foldl (Policy.call cfg) p₀) sig := by
  have hread := find?_snapshotFresh rd lines now r
  rw [← hsig] at hread
  refine ⟨fun before gap hws hgap hspaced => ?_, fun before gap rest hws hgap hlen hfresh hprom => ?_⟩
  · rw [hread, hws, hgap.stale (fun w hw => (hlines w (by simp [hws, hw])).1) hspaced]
    cases (measure (before ++ gap)).per <;> rfl
  · obtain ⟨hmax, rfl⟩ := Policy.of_new hnew
    obtain ⟨rfl, hveto, -⟩ := Policy.promotes_open (Policy.run_inRange hmax prior calls) hprom
    obtain ⟨per, hper, hle⟩ := le_per_after (hgap.per before) rest
      fun w hw => (hlines w (by simp [hws, hw])).2
    have hdirty : probeDirtyPer ≤ per :=
      calc probeDirtyPer ≤ (1 - probeEwmaAlpha) ^ 8 := by norm_num [probeDirtyPer, probeEwmaAlpha]
        _ ≤ (1 - probeEwmaAlpha) ^ rest.countP Window.carries :=
          pow_le_pow_of_le_one (by norm_num [probeEwmaAlpha]) (by norm_num [probeEwmaAlpha]) hlen
        _ ≤ per := hle
    rw [hws, hper, Option.map_some] at hread
    rw [hread] at hfresh
    unfold Policy.probeVeto Policy.probeAt at hveto
    rw [hread] at hveto
    exact of_decide_eq_false hveto ⟨hfresh, decide_eq_true hdirty⟩

def blackoutLines : List (ℚ × String) :=
  (0, "0\tRX_ANT\t0:1:0\t0\t1:0:0:0:0:0:0") :: (List.range 12).map fun n => ((n : ℚ) / 10,
    if n = 0 ∨ n = 11 then "0\tPKT\t1:0:0:0:1:1:0:0\n" else "0\tPKT\t0:0:0:0:0:0:0:0\n")

def blackoutSignals : Signals where
  probe := (blackoutLines.foldl (feedLine LineRun.digitReader) {}).snapshotFresh (6 / 5)

theorem probe_blackout_lines : blackoutSignals.probe.find? 1 = some ⟨some (3 / 4), true⟩ ∧
    ¬ Policy.Promotes {} 1 (Policy.boot {} {}) blackoutSignals := by
  have hread : blackoutSignals.probe.find? 1 = some ⟨some (3 / 4), true⟩ := by decide +kernel
  have hws : windows LineRun.digitReader blackoutLines 1 = [⟨0, 1, 0⟩] ++
      ((List.range' 1 10).map fun n => ⟨n / 10, 0, 0⟩) ++ [⟨11 / 10, 1, 0⟩] := by decide +kernel
  have hlines : ∀ w ∈ windows LineRun.digitReader blackoutLines 1, w.time ≤ 6 / 5 ∧ 0 ≤ w.lost := by
    rw [hws]
    decide +kernel
  exact ⟨hread, (probe_blackout LineRun.digitReader blackoutLines (6 / 5) 1 hlines {} {} _
    (Policy.new_ok (by decide) {}) [] blackoutSignals rfl).2 _ _ _ hws ⟨by decide, by decide +kernel⟩
    (by decide +kernel) (by rw [hread]; rfl)⟩

end ProbeFeed

end Fpvd.Gs
