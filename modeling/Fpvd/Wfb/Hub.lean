import Fpvd.Wfb.TxSel

/-!
# Fpvd.Wfb.Hub — from windows to a selection (`gs/fpvdgs/wfb/aggregator.py`)

The hub keeps the last window of each rx child since the last pass.  A pass (`aggregate_window`) merges
the antenna rows of all children by antenna, weighted by packets, lets the selector choose, and computes
what the autopilot is told about the link.
-/

namespace Fpvd.Wfb

variable {ι : Type}

structure StatsHub (ι : Type) where
  cur : List (ι × RxWindow) := []
  deriving DecidableEq, Repr

def StatsHub.updateRxStats [DecidableEq ι] (hub : StatsHub ι) (child : ι) (w : RxWindow) : StatsHub ι :=
  ⟨AssocMap.put child w hub.cur⟩

/-! ## The merge -/

def AntStats.ofRow (v : RxAnt) : AntStats :=
  ⟨v.pktS, v.rssiMin, v.rssiAvg * v.pktS, v.rssiMax, v.snrMin, v.snrAvg * v.pktS, v.snrMax⟩

def AntStats.addRow (v : RxAnt) (tmp : AntStats) : AntStats :=
  ⟨v.pktS + tmp.pktS, min v.rssiMin tmp.rssiMin, v.rssiAvg * v.pktS + tmp.rssiAvg,
    max v.rssiMax tmp.rssiMax, min v.snrMin tmp.snrMin, v.snrAvg * v.pktS + tmp.snrAvg,
    max v.snrMax tmp.snrMax⟩

def mergeRow (agg : List (ℤ × AntStats)) (row : AntKey × RxAnt) : List (ℤ × AntStats) :=
  match AssocMap.find? row.1.2 agg with
  | none => AssocMap.put row.1.2 (.ofRow row.2) agg
  | some tmp => AssocMap.put row.1.2 (tmp.addRow row.2) agg

def weightedAgg (cur : List (ι × RxWindow)) : List (ℤ × AntStats) :=
  (cur.flatMap fun e => e.2.ant).foldl mergeRow []

def heard (cur : List (ι × RxWindow)) : List ℤ := (weightedAgg cur).map fun e => TxSelector.wlanOf e.1

def AntStats.averaged (s : AntStats) : AntStats :=
  { s with rssiAvg := s.rssiAvg.fdiv s.pktS, snrAvg := s.snrAvg.fdiv s.pktS }

def AntStats.average (s : AntStats) : Except PyExc AntStats :=
  if s.pktS = 0 then .error .zeroDivisionError else .ok s.averaged

def statsAgg (cur : List (ι × RxWindow)) : Except PyExc (List (ℤ × AntStats)) :=
  (weightedAgg cur).mapM fun e => (e.1, ·) <$> e.2.average

/-! ## The pass -/

/-- What the autopilot is told: `(rssi, noise, rx_errors, rx_fec, flags)`. -/
structure LinkReport where
  rssi : ℤ
  noise : ℤ
  rxErrors : ℤ
  rxFec : ℤ
  flags : ℕ
  deriving DecidableEq, Repr

def linkLost : ℕ := 1

def linkJammed : ℕ := 2

def linkReport (stats : List (ℤ × AntStats)) (packets : List RxPackets) : LinkReport :=
  let badPackets := (packets.map fun p => p.decErr + p.bad).sum
  let rxErrors := min (packets.map fun p => p.decErr + p.bad + p.lost).sum 65535
  let rxFec := min (packets.map RxPackets.fecRec).sum 65535
  match stats.map fun e => (e.2.rssiAvg, e.2.rssiAvg - e.2.snrAvg) with
  | [] => ⟨-128, -128, rxErrors, rxFec, linkLost⟩
  | c :: cs =>
    let best := cs.foldl TxSelector.better c
    ⟨best.1, best.2, rxErrors, rxFec, if 0 < badPackets then linkJammed else 0⟩

structure Aggregate where
  stats : List (ℤ × AntStats)
  rssi : LinkReport
  txSel : Option ℤ
  deriving DecidableEq, Repr

def selection (sel : TxSelector) (stats : List (ℤ × AntStats)) : Except PyExc (TxSelector × Option ℤ) :=
  if stats = [] then .ok (sel, none) else sel.select stats

/-- `aggregate_window` on the windows it takes, without the callbacks: they run after the selection and
cannot make it raise. -/
def aggregateWindow (sel : TxSelector) (cur : List (ι × RxWindow)) :
    Except PyExc (TxSelector × Aggregate) := do
  let stats ← statsAgg cur
  let chosen ← selection sel stats
  return (chosen.1, ⟨stats, linkReport stats (cur.map fun e => e.2.packets), chosen.2⟩)

/-- Every antenna has packets. -/
def CountsPackets (cur : List (ι × RxWindow)) : Prop := ∀ e ∈ weightedAgg cur, e.2.pktS ≠ 0

instance (cur : List (ι × RxWindow)) : Decidable (CountsPackets cur) :=
  inferInstanceAs (Decidable (∀ e ∈ weightedAgg cur, e.2.pktS ≠ 0))

/-- The selector can compute its threshold from the merged table. -/
def Converts (sel : TxSelector) (cur : List (ι × RxWindow)) : Prop :=
  match statsAgg cur with
  | .ok stats => sel.converts stats = true
  | .error _ => True

instance (sel : TxSelector) (cur : List (ι × RxWindow)) : Decidable (Converts sel cur) := by
  unfold Converts
  cases statsAgg cur with
  | ok stats => exact inferInstanceAs (Decidable (sel.converts stats = true))
  | error x => exact .isTrue trivial

section Pass

variable {sel sel' : TxSelector} {cur : List (ι × RxWindow)} {agg : Aggregate}

theorem average_eq_ok {s s' : AntStats} : s.average = .ok s' ↔ s.pktS ≠ 0 ∧ s' = s.averaged := by
  unfold AntStats.average
  split_ifs with h
  · exact iff_of_false nofun fun h' => h'.1 h
  · rw [Except.ok.injEq, eq_comm]
    exact (and_iff_right h).symm

theorem averageRow_eq_ok {e row : ℤ × AntStats} : (e.1, ·) <$> e.2.average = Except.ok row ↔
    e.2.pktS ≠ 0 ∧ row = (e.1, e.2.averaged) := by
  cases hs : e.2.average with
  | error x =>
    refine iff_of_false nofun fun h => ?_
    cases hs.symm.trans (average_eq_ok.mpr ⟨h.1, rfl⟩)
  | ok s =>
    obtain ⟨hpkts, rfl⟩ := average_eq_ok.mp hs
    show Except.ok (e.1, e.2.averaged) = Except.ok row ↔ _
    rw [Except.ok.injEq, and_iff_right hpkts, eq_comm]

theorem statsAgg_eq_ok {stats : List (ℤ × AntStats)} : statsAgg cur = .ok stats ↔
    CountsPackets cur ∧ stats = (weightedAgg cur).map fun e => (e.1, e.2.averaged) := by
  unfold statsAgg CountsPackets
  simp only [Json.mapM_eq_ok, averageRow_eq_ok, List.forall₂_and_left]
  refine and_congr_right fun _ => ?_
  rw [eq_comm (a := stats), ← List.forall₂_eq_eq_eq, List.forall₂_map_left_iff]
  simp only [eq_comm]

theorem selection_ok_iff (hcfg : sel.cfg.numeric = true) (stats : List (ℤ × AntStats)) :
    (∃ r, selection sel stats = .ok r) ↔ sel.converts stats = true := by
  unfold selection
  split_ifs with hempty
  · subst hempty
    exact iff_of_true ⟨_, rfl⟩ rfl
  · exact TxSelector.select_ok_iff hcfg stats

theorem aggregateWindow_eq_ok {r : TxSelector × Aggregate} : aggregateWindow sel cur = .ok r ↔
    ∃ stats chosen, statsAgg cur = .ok stats ∧ selection sel stats = .ok chosen ∧
      r = (chosen.1, ⟨stats, linkReport stats (cur.map fun e => e.2.packets), chosen.2⟩) := by
  simp only [aggregateWindow, Json.bind_eq_ok, Json.pure_eq_ok, exists_and_left]
  simp only [eq_comm (b := r)]

theorem aggregateWindow_ok_iff (hcfg : sel.cfg.numeric = true) :
    (∃ r, aggregateWindow sel cur = .ok r) ↔ CountsPackets cur ∧ Converts sel cur := by
  constructor
  · rintro ⟨r, hr⟩
    obtain ⟨stats, chosen, hstats, hsel, -⟩ := aggregateWindow_eq_ok.mp hr
    rw [Converts, hstats]
    exact ⟨(statsAgg_eq_ok.mp hstats).1, (selection_ok_iff hcfg stats).mp ⟨chosen, hsel⟩⟩
  · rintro ⟨hcur, hconv⟩
    have hstats := statsAgg_eq_ok.mpr ⟨hcur, rfl⟩
    rw [Converts, hstats] at hconv
    obtain ⟨chosen, hsel⟩ := (selection_ok_iff hcfg _).mpr hconv
    exact ⟨_, aggregateWindow_eq_ok.mpr ⟨_, chosen, hstats, hsel, rfl⟩⟩

theorem aggregateWindow_ok (hcur : CountsPackets cur)
    (hcfg : weightedAgg cur = [] ∨ sel.cfg.numeric = true) (hconv : Converts sel cur) :
    ∃ r, aggregateWindow sel cur = .ok r := by
  rcases hcfg with hnil | hcfg
  · have hstats : statsAgg cur = .ok [] := statsAgg_eq_ok.mpr ⟨hcur, by rw [hnil, List.map_nil]⟩
    exact ⟨_, aggregateWindow_eq_ok.mpr ⟨[], (sel, none), hstats, rfl, rfl⟩⟩
  · exact (aggregateWindow_ok_iff hcfg).mpr ⟨hcur, hconv⟩

theorem statsAgg_heard {stats : List (ℤ × AntStats)} (h : statsAgg cur = .ok stats) :
    (stats.map fun row => TxSelector.wlanOf row.1) = heard cur := by
  rw [(statsAgg_eq_ok.mp h).2, List.map_map]
  rfl

/-- **The selector after a pass**: as before, or on a card that is heard and may transmit, which the
callbacks are told. -/
theorem aggregateWindow_select (h : aggregateWindow sel cur = .ok (sel', agg)) :
    (sel' = sel ∧ agg.txSel = none) ∨
      ∃ w, (w ∉ sel.rxOnlyWlanIds ∧ w ∈ heard cur) ∧ sel' = { sel with current := some w } ∧
        agg.txSel = some w := by
  obtain ⟨stats, ⟨s, out⟩, hstats, hsel, hr⟩ := aggregateWindow_eq_ok.mp h
  obtain ⟨rfl, rfl⟩ := Prod.mk.inj hr
  unfold selection at hsel
  split_ifs at hsel
  · exact .inl (by simpa [eq_comm] using hsel)
  · rw [← statsAgg_heard hstats]
    exact TxSelector.select_cases hsel

end Pass

end Fpvd.Wfb
