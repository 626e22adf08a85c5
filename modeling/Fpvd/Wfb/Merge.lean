import Mathlib.Order.Bounds.Basic
import Fpvd.Lib.GroupFold
import Fpvd.Wfb.Hub

/-!
# Fpvd.Wfb.Merge — what the merged antenna table says (`_stats_agg_by_freq_and_rxid`)

The code adds up averages times counts in the order of its dictionaries and divides at the end.
-/

namespace Fpvd.Wfb

open AssocMap hiding insert

variable {ι : Type}

def antennaRows (cur : List (ι × RxWindow)) : List (ℤ × RxAnt) :=
  (cur.flatMap fun e => e.2.ant).map fun row => (row.1.2, row.2)

/-! ## The merge of some rows -/

def valuesOf (f : RxAnt → ℤ) (vs : List RxAnt) : Set ℤ := {x | ∃ v ∈ vs, f v = x}

def weightedMean (f : RxAnt → ℤ) (vs : List RxAnt) : ℚ :=
  ((vs.map fun v => f v * v.pktS).sum : ℤ) / ((vs.map RxAnt.pktS).sum : ℤ)

/-- The least of the minima, the weighted mean of the averages and the greatest of the maxima. -/
structure IsSpan (lo mid hi : RxAnt → ℤ) (vs : List RxAnt) (least mean greatest : ℤ) : Prop where
  least : IsLeast (valuesOf lo vs) least
  mean : mean = ⌊weightedMean mid vs⌋
  greatest : IsGreatest (valuesOf hi vs) greatest

/-- What the rows of an antenna say together. -/
structure IsMerge (vs : List RxAnt) (s : AntStats) : Prop where
  pktS : s.pktS = (vs.map RxAnt.pktS).sum
  rssi : IsSpan RxAnt.rssiMin RxAnt.rssiAvg RxAnt.rssiMax vs s.rssiMin s.rssiAvg s.rssiMax
  snr : IsSpan RxAnt.snrMin RxAnt.snrAvg RxAnt.snrMax vs s.snrMin s.snrAvg s.snrMax

/-- A row split in two: the counts add up, the averages are the same, and the extremes are reached. -/
structure Splits (v v₁ v₂ : RxAnt) : Prop where
  pos₁ : 0 < v₁.pktS
  pos₂ : 0 < v₂.pktS
  pktS : v₁.pktS + v₂.pktS = v.pktS
  rssiMin : min v₁.rssiMin v₂.rssiMin = v.rssiMin
  rssiAvg : v₁.rssiAvg = v.rssiAvg ∧ v₂.rssiAvg = v.rssiAvg
  rssiMax : max v₁.rssiMax v₂.rssiMax = v.rssiMax
  snrMin : min v₁.snrMin v₂.snrMin = v.snrMin
  snrAvg : v₁.snrAvg = v.snrAvg ∧ v₂.snrAvg = v.snrAvg
  snrMax : max v₁.snrMax v₂.snrMax = v.snrMax

/-- The same rows in another order, or with one of them split. -/
inductive Regrouped (rows rows' : List (ℤ × RxAnt)) : Prop
  | order (h : rows'.Perm rows)
  | split (antId : ℤ) (v v₁ v₂ : RxAnt) (rest : List (ℤ × RxAnt)) (h : Splits v v₁ v₂)
      (hrows : rows.Perm ((antId, v) :: rest))
      (hrows' : rows'.Perm ((antId, v₁) :: (antId, v₂) :: rest))

section Span

variable {lo mid hi : RxAnt → ℤ} {vs vs' : List RxAnt} {v v₁ v₂ : RxAnt} {a b c a' b' c' : ℤ} {s s' : AntStats}

variable (f : RxAnt → ℤ)

theorem valuesOf_cons (v : RxAnt) (vs : List RxAnt) :
    valuesOf f (v :: vs) = insert (f v) (valuesOf f vs) := by
  ext x
  simp [valuesOf, eq_comm]

theorem valuesOf_perm (h : vs.Perm vs') : valuesOf f vs = valuesOf f vs' := by
  ext x
  simp [valuesOf, h.mem_iff]

theorem weightedMean_perm (h : vs.Perm vs') : weightedMean f vs = weightedMean f vs' := by
  rw [weightedMean, weightedMean, (h.map _).sum_eq, (h.map RxAnt.pktS).sum_eq]

theorem IsSpan.perm (h : IsSpan lo mid hi vs a b c) (hp : vs.Perm vs') : IsSpan lo mid hi vs' a b c :=
  ⟨valuesOf_perm lo hp ▸ h.least, weightedMean_perm mid hp ▸ h.mean, valuesOf_perm hi hp ▸ h.greatest⟩

theorem IsSpan.unique (h : IsSpan lo mid hi vs a b c) (h' : IsSpan lo mid hi vs a' b' c') :
    a = a' ∧ b = b' ∧ c = c' :=
  ⟨h.least.unique h'.least, h.mean.trans h'.mean.symm, h.greatest.unique h'.greatest⟩

theorem weightedMean_split (hp : v₁.pktS + v₂.pktS = v.pktS) (h₁ : f v₁ = f v) (h₂ : f v₂ = f v) :
    weightedMean f (v₁ :: v₂ :: vs) = weightedMean f (v :: vs) := by
  have hsum : f v₁ * v₁.pktS + (f v₂ * v₂.pktS + (vs.map fun v => f v * v.pktS).sum) =
      f v * v.pktS + (vs.map fun v => f v * v.pktS).sum := by
    rw [h₁, h₂, ← hp]
    ring
  simp only [weightedMean, List.map_cons, List.sum_cons, hsum, ← add_assoc, hp]

theorem isLeast_split {f : RxAnt → ℤ} (h : IsLeast (valuesOf f (v :: vs)) a)
    (hmin : min (f v₁) (f v₂) = f v) : IsLeast (valuesOf f (v₁ :: v₂ :: vs)) a := by
  simp only [valuesOf_cons] at *
  constructor
  · rcases h.1 with rfl | hmem
    · rcases min_choice (f v₁) (f v₂) with h₁ | h₂
      · exact .inl (hmin.symm.trans h₁)
      · exact .inr (.inl (hmin.symm.trans h₂))
    · exact .inr (.inr hmem)
  · have hle : a ≤ min (f v₁) (f v₂) := hmin ▸ h.2 (.inl rfl)
    rintro x (rfl | rfl | hx)
    · exact hle.trans (min_le_left _ _)
    · exact hle.trans (min_le_right _ _)
    · exact h.2 (.inr hx)

theorem isGreatest_split {f : RxAnt → ℤ} (h : IsGreatest (valuesOf f (v :: vs)) a)
    (hmax : max (f v₁) (f v₂) = f v) : IsGreatest (valuesOf f (v₁ :: v₂ :: vs)) a := by
  simp only [valuesOf_cons] at *
  constructor
  · rcases h.1 with rfl | hmem
    · rcases max_choice (f v₁) (f v₂) with h₁ | h₂
      · exact .inl (hmax.symm.trans h₁)
      · exact .inr (.inl (hmax.symm.trans h₂))
    · exact .inr (.inr hmem)
  · have hle : max (f v₁) (f v₂) ≤ a := hmax ▸ h.2 (.inl rfl)
    rintro x (rfl | rfl | hx)
    · exact (le_max_left _ _).trans hle
    · exact (le_max_right _ _).trans hle
    · exact h.2 (.inr hx)

theorem IsMerge.perm (h : IsMerge vs s) (hp : vs.Perm vs') : IsMerge vs' s :=
  ⟨h.pktS.trans (hp.map RxAnt.pktS).sum_eq, h.rssi.perm hp, h.snr.perm hp⟩

theorem IsMerge.unique (h : IsMerge vs s) (h' : IsMerge vs s') : s = s' := by
  obtain ⟨p, r₁, r₂, r₃, n₁, n₂, n₃⟩ := s
  obtain ⟨p', r₁', r₂', r₃', n₁', n₂', n₃'⟩ := s'
  have hp : p = p' := h.pktS.trans h'.pktS.symm
  obtain ⟨h₁, h₂, h₃⟩ := h.rssi.unique h'.rssi
  obtain ⟨h₄, h₅, h₆⟩ := h.snr.unique h'.snr
  dsimp only at h₁ h₂ h₃ h₄ h₅ h₆
  rw [hp, h₁, h₂, h₃, h₄, h₅, h₆]

theorem IsMerge.split (h : IsMerge (v :: vs) s) (hs : Splits v v₁ v₂) : IsMerge (v₁ :: v₂ :: vs) s := by
  refine ⟨?_, ⟨isLeast_split h.rssi.least hs.rssiMin, ?_, isGreatest_split h.rssi.greatest hs.rssiMax⟩,
    ⟨isLeast_split h.snr.least hs.snrMin, ?_, isGreatest_split h.snr.greatest hs.snrMax⟩⟩
  · rw [h.pktS, List.map_cons, List.sum_cons, ← hs.pktS, List.map_cons, List.map_cons, List.sum_cons,
      List.sum_cons, add_assoc]
  · rw [weightedMean_split _ hs.pktS hs.rssiAvg.1 hs.rssiAvg.2]
    exact h.rssi.mean
  · rw [weightedMean_split _ hs.pktS hs.snrAvg.1 hs.snrAvg.2]
    exact h.snr.mean

/-! ### Bounds -/

theorem sum_pktS_pos (hne : vs ≠ []) (hpos : ∀ v ∈ vs, 0 < v.pktS) : 0 < (vs.map RxAnt.pktS).sum := by
  refine List.sum_pos _ (List.forall_mem_map.mpr hpos) ?_
  rwa [Ne, List.map_eq_nil_iff]

theorem IsSpan.bounds (h : IsSpan lo mid hi vs a b c) (hpos : ∀ v ∈ vs, 0 < v.pktS)
    (hord : ∀ v ∈ vs, lo v ≤ mid v ∧ mid v ≤ hi v) : a ≤ b ∧ b ≤ c := by
  have hne : vs ≠ [] := by
    rintro rfl
    obtain ⟨v, hv, -⟩ := h.least.1
    cases hv
  have hsum : (0 : ℚ) < ((vs.map RxAnt.pktS).sum : ℤ) := by exact_mod_cast sum_pktS_pos hne hpos
  rw [h.mean]
  constructor
  · rw [Int.le_floor, weightedMean, le_div_iff₀ hsum]
    norm_cast
    rw [← List.sum_map_mul_left]
    refine List.sum_le_sum fun v hv => ?_
    have hv' : a ≤ mid v := (h.least.2 ⟨v, hv, rfl⟩).trans (hord v hv).1
    exact mul_le_mul_of_nonneg_right hv' (hpos v hv).le
  · have hmean : weightedMean mid vs ≤ c := by
      rw [weightedMean, div_le_iff₀ hsum]
      norm_cast
      rw [← List.sum_map_mul_left]
      refine List.sum_le_sum fun v hv => ?_
      have hv' : mid v ≤ c := (hord v hv).2.trans (h.greatest.2 ⟨v, hv, rfl⟩)
      exact mul_le_mul_of_nonneg_right hv' (hpos v hv).le
    exact_mod_cast (Int.floor_le _).trans hmean

end Span

/-! ## The table -/

section Table

variable {cur : List (ι × RxWindow)} {vs : List RxAnt} {s : AntStats}

theorem weightedAgg_eq (cur : List (ι × RxWindow)) :
    weightedAgg cur = GroupFold.collect AntStats.ofRow AntStats.addRow (antennaRows cur) := by
  have hrow : mergeRow = fun agg row =>
      GroupFold.insertRow AntStats.ofRow AntStats.addRow agg (row.1.2, row.2) := by
    funext agg row
    unfold mergeRow GroupFold.insertRow
    cases find? row.1.2 agg <;> rfl
  rw [weightedAgg, hrow, GroupFold.collect, antennaRows, List.foldl_map]

/-- The entry of an antenna before the division. -/
structure IsTotal (vs : List RxAnt) (s : AntStats) : Prop where
  pktS : s.pktS = (vs.map RxAnt.pktS).sum
  rssiMin : IsLeast (valuesOf RxAnt.rssiMin vs) s.rssiMin
  rssiSum : s.rssiAvg = (vs.map fun v => v.rssiAvg * v.pktS).sum
  rssiMax : IsGreatest (valuesOf RxAnt.rssiMax vs) s.rssiMax
  snrMin : IsLeast (valuesOf RxAnt.snrMin vs) s.snrMin
  snrSum : s.snrAvg = (vs.map fun v => v.snrAvg * v.pktS).sum
  snrMax : IsGreatest (valuesOf RxAnt.snrMax vs) s.snrMax

theorem isTotal_ofRow (v : RxAnt) : IsTotal [v] (.ofRow v) := by
  have hvalues : ∀ f : RxAnt → ℤ, valuesOf f [v] = {f v} := fun f => by
    rw [valuesOf_cons]
    simp [valuesOf]
  constructor
  all_goals simp [AntStats.ofRow, hvalues]

theorem IsTotal.addRow (h : IsTotal vs s) (v : RxAnt) : IsTotal (v :: vs) (s.addRow v) := by
  constructor
  · rw [List.map_cons, List.sum_cons, ← h.pktS]
    rfl
  · rw [valuesOf_cons]
    exact h.rssiMin.insert _
  · rw [List.map_cons, List.sum_cons, ← h.rssiSum]
    rfl
  · rw [valuesOf_cons]
    exact h.rssiMax.insert _
  · rw [valuesOf_cons]
    exact h.snrMin.insert _
  · rw [List.map_cons, List.sum_cons, ← h.snrSum]
    rfl
  · rw [valuesOf_cons]
    exact h.snrMax.insert _

theorem IsTotal.perm {vs' : List RxAnt} (h : IsTotal vs s) (hp : vs.Perm vs') : IsTotal vs' s :=
  ⟨h.pktS.trans (hp.map _).sum_eq, valuesOf_perm _ hp ▸ h.rssiMin, h.rssiSum.trans (hp.map _).sum_eq,
    valuesOf_perm _ hp ▸ h.rssiMax, valuesOf_perm _ hp ▸ h.snrMin, h.snrSum.trans (hp.map _).sum_eq,
    valuesOf_perm _ hp ▸ h.snrMax⟩

theorem isTotal_of_total (h : GroupFold.total AntStats.ofRow AntStats.addRow vs = some s) : IsTotal vs s := by
  induction vs using List.reverseRecOn generalizing s with
  | nil => cases h
  | append_singleton vs v ih =>
    rw [GroupFold.total_concat] at h
    cases htotal : GroupFold.total AntStats.ofRow AntStats.addRow vs with
    | none =>
      rw [htotal] at h
      obtain rfl := GroupFold.total_eq_none.mp htotal
      obtain rfl := Option.some.inj h
      exact isTotal_ofRow v
    | some s' =>
      rw [htotal] at h
      obtain rfl := Option.some.inj h
      exact ((ih htotal).addRow v).perm (List.perm_append_singleton v vs).symm

theorem fdiv_eq_floor (x : ℤ) {y : ℤ} (hy : 0 < y) : x.fdiv y = ⌊(x : ℚ) / (y : ℚ)⌋ := by
  lift y to ℕ using hy.le
  rw [Int.fdiv_eq_ediv_of_nonneg _ (Int.natCast_nonneg y)]
  exact (Rat.floor_intCast_div_natCast x y).symm

theorem IsTotal.averaged (h : IsTotal vs s) (hpos : 0 < s.pktS) : IsMerge vs s.averaged := by
  refine ⟨h.pktS, ⟨h.rssiMin, ?_, h.rssiMax⟩, ⟨h.snrMin, ?_, h.snrMax⟩⟩
  · show s.rssiAvg.fdiv s.pktS = _
    rw [fdiv_eq_floor _ hpos, weightedMean, h.rssiSum, h.pktS]
  · show s.snrAvg.fdiv s.pktS = _
    rw [fdiv_eq_floor _ hpos, weightedMean, h.snrSum, h.pktS]

variable (hpos : ∀ row ∈ antennaRows cur, 0 < row.2.pktS)

include hpos

theorem pktS_rowsOf_pos (a : ℤ) : ∀ v ∈ GroupFold.rowsOf a (antennaRows cur), 0 < v.pktS :=
  fun _ hv => hpos _ (GroupFold.mem_rowsOf.mp hv)

theorem pktS_total_pos {a : ℤ} (h : GroupFold.total AntStats.ofRow AntStats.addRow
    (GroupFold.rowsOf a (antennaRows cur)) = some s) : 0 < s.pktS := by
  have hne : GroupFold.rowsOf a (antennaRows cur) ≠ [] := by
    intro hnil
    rw [hnil] at h
    cases h
  rw [(isTotal_of_total h).pktS]
  exact sum_pktS_pos hne (pktS_rowsOf_pos hpos a)

theorem countsPackets_of_pos : CountsPackets cur := by
  intro e he
  rw [weightedAgg_eq] at he
  have hfind := find?_of_mem (GroupFold.nodup_keys_collect _) he
  rw [GroupFold.find?_collect] at hfind
  exact (pktS_total_pos hpos hfind).ne'

variable {stats : List (ℤ × AntStats)}

omit hpos in
theorem find?_statsAgg (h : statsAgg cur = .ok stats) (a : ℤ) :
    find? a stats = (GroupFold.total AntStats.ofRow AntStats.addRow
      (GroupFold.rowsOf a (antennaRows cur))).map AntStats.averaged := by
  rw [(statsAgg_eq_ok.mp h).2, find?_map, weightedAgg_eq, GroupFold.find?_collect]

theorem isMerge_of_find? (h : statsAgg cur = .ok stats) {a : ℤ} (hs : find? a stats = some s) :
    IsMerge (GroupFold.rowsOf a (antennaRows cur)) s := by
  rw [find?_statsAgg h] at hs
  obtain ⟨s', htotal, rfl⟩ := Option.map_eq_some_iff.mp hs
  exact (isTotal_of_total htotal).averaged (pktS_total_pos hpos htotal)

omit hpos in
theorem find?_eq_none (h : statsAgg cur = .ok stats) (a : ℤ) :
    find? a stats = none ↔ GroupFold.rowsOf a (antennaRows cur) = [] := by
  rw [find?_statsAgg h, Option.map_eq_none_iff, GroupFold.total_eq_none]

theorem find?_congr {κ : Type} {cur' : List (κ × RxWindow)} {stats' : List (ℤ × AntStats)}
    (h : statsAgg cur = .ok stats) (h' : statsAgg cur' = .ok stats')
    (hpos' : ∀ row ∈ antennaRows cur', 0 < row.2.pktS) (a : ℤ)
    (hnil : GroupFold.rowsOf a (antennaRows cur) = [] ↔ GroupFold.rowsOf a (antennaRows cur') = [])
    (hmerge : ∀ s, IsMerge (GroupFold.rowsOf a (antennaRows cur)) s →
      IsMerge (GroupFold.rowsOf a (antennaRows cur')) s) :
    find? a stats' = find? a stats := by
  rw [← find?_eq_none h, ← find?_eq_none h'] at hnil
  cases hs : find? a stats with
  | none => exact hnil.mp hs
  | some s =>
    cases hs' : find? a stats' with
    | none => cases hs.symm.trans (hnil.mpr hs')
    | some s' =>
      have hsame := hmerge s (isMerge_of_find? hpos h hs)
      rw [hsame.unique (isMerge_of_find? hpos' h' hs')]

end Table

section Regroup

variable {rows rows' : List (ℤ × RxAnt)} {a : ℤ} {v v₁ v₂ : RxAnt} {rest : List (ℤ × RxAnt)}

theorem rowsOf_perm (h : rows.Perm rows') (a : ℤ) :
    (GroupFold.rowsOf a rows).Perm (GroupFold.rowsOf a rows') := (h.filter _).map _

theorem rowsOf_cons_self : GroupFold.rowsOf a ((a, v) :: rest) = v :: GroupFold.rowsOf a rest := by
  simp [GroupFold.rowsOf]

theorem rowsOf_cons_ne {b : ℤ} (h : b ≠ a) : GroupFold.rowsOf a ((b, v) :: rest) = GroupFold.rowsOf a rest := by
  simp [GroupFold.rowsOf, h]

theorem Regrouped.pos (h : Regrouped rows rows') (hpos : ∀ row ∈ rows, 0 < row.2.pktS) :
    ∀ row ∈ rows', 0 < row.2.pktS := by
  intro row hrow
  cases h with
  | order hp => exact hpos row (hp.mem_iff.mp hrow)
  | split antId v v₁ v₂ rest hs hrows hrows' =>
    rcases List.mem_cons.mp (hrows'.mem_iff.mp hrow) with rfl | hrow
    · exact hs.pos₁
    rcases List.mem_cons.mp hrow with rfl | hrow
    · exact hs.pos₂
    · exact hpos row (hrows.mem_iff.mpr (List.mem_cons_of_mem _ hrow))

theorem Regrouped.isMerge (h : Regrouped rows rows') (a : ℤ) :
    (GroupFold.rowsOf a rows = [] ↔ GroupFold.rowsOf a rows' = []) ∧
    ∀ s, IsMerge (GroupFold.rowsOf a rows) s → IsMerge (GroupFold.rowsOf a rows') s := by
  cases h with
  | order hp =>
    have hrows := rowsOf_perm hp.symm a
    refine ⟨?_, fun s hs => hs.perm hrows⟩
    rw [← List.length_eq_zero_iff, hrows.length_eq, List.length_eq_zero_iff]
  | split antId v v₁ v₂ rest hs hrows hrows' =>
    have hwhole := rowsOf_perm hrows a
    have hparts := rowsOf_perm hrows' a
    by_cases ha : antId = a
    · subst ha
      rw [rowsOf_cons_self] at hwhole
      rw [rowsOf_cons_self, rowsOf_cons_self] at hparts
      refine ⟨iff_of_false ?_ ?_, fun s hmerge => ?_⟩
      · intro hnil
        rw [hnil] at hwhole
        cases hwhole.nil_eq
      · intro hnil
        rw [hnil] at hparts
        cases hparts.nil_eq
      · exact ((hmerge.perm hwhole).split hs).perm hparts.symm
    · rw [rowsOf_cons_ne ha] at hwhole
      rw [rowsOf_cons_ne ha, rowsOf_cons_ne ha] at hparts
      have hrows := hwhole.trans hparts.symm
      refine ⟨?_, fun s hmerge => hmerge.perm hrows⟩
      rw [← List.length_eq_zero_iff, hrows.length_eq, List.length_eq_zero_iff]

end Regroup

/-- In a row the averages lie between the extremes. -/
structure RxAnt.Ordered (v : RxAnt) : Prop where
  rssi : v.rssiMin ≤ v.rssiAvg ∧ v.rssiAvg ≤ v.rssiMax
  snr : v.snrMin ≤ v.snrAvg ∧ v.snrAvg ≤ v.snrMax

instance (v : RxAnt) : Decidable v.Ordered :=
  decidable_of_iff ((v.rssiMin ≤ v.rssiAvg ∧ v.rssiAvg ≤ v.rssiMax) ∧ v.snrMin ≤ v.snrAvg ∧ v.snrAvg ≤ v.snrMax)
    ⟨fun h => ⟨h.1, h.2⟩, fun h => ⟨h.rssi, h.snr⟩⟩

/-- **The merge.**  It returns a table with an entry for each antenna that has a row.  An entry has the sum of
the counts, the least minimum, the greatest maximum and the floor of the weighted mean, and that lies between
them.  Neither the order of children and rows nor the splitting of a row matters. -/
theorem merge_laws (cur : List (ι × RxWindow)) (hpos : ∀ row ∈ antennaRows cur, 0 < row.2.pktS)
    (hord : ∀ row ∈ antennaRows cur, row.2.Ordered) :
    ∃ stats, statsAgg cur = .ok stats ∧ (keys stats).Nodup ∧
      (∀ a, find? a stats = none ↔ GroupFold.rowsOf a (antennaRows cur) = []) ∧
      (∀ a s, find? a stats = some s → IsMerge (GroupFold.rowsOf a (antennaRows cur)) s ∧
        (s.rssiMin ≤ s.rssiAvg ∧ s.rssiAvg ≤ s.rssiMax) ∧ s.snrMin ≤ s.snrAvg ∧ s.snrAvg ≤ s.snrMax) ∧
      ∀ (κ : Type) (cur' : List (κ × RxWindow)), Regrouped (antennaRows cur) (antennaRows cur') →
        ∃ stats', statsAgg cur' = .ok stats' ∧ ∀ a, find? a stats' = find? a stats := by
  have hstats := statsAgg_eq_ok.mpr ⟨countsPackets_of_pos hpos, rfl⟩
  refine ⟨_, hstats, ?_, find?_eq_none hstats, fun a s hs => ?_, fun κ cur' hre => ?_⟩
  · rw [keys_map, weightedAgg_eq]
    exact GroupFold.nodup_keys_collect _
  · have hmerge := isMerge_of_find? hpos hstats hs
    have hrow : ∀ v ∈ GroupFold.rowsOf a (antennaRows cur), v.Ordered :=
      fun v hv => hord _ (GroupFold.mem_rowsOf.mp hv)
    exact ⟨hmerge, hmerge.rssi.bounds (pktS_rowsOf_pos hpos a) fun v hv => (hrow v hv).rssi,
      hmerge.snr.bounds (pktS_rowsOf_pos hpos a) fun v hv => (hrow v hv).snr⟩
  · have hpos' := hre.pos hpos
    have hstats' := statsAgg_eq_ok.mpr ⟨countsPackets_of_pos hpos', rfl⟩
    refine ⟨_, hstats', fun a => ?_⟩
    obtain ⟨hnil, hmerge⟩ := hre.isMerge a
    exact find?_congr hpos hstats hstats' hpos' a hnil hmerge

def twoChildren : List (String × RxWindow) :=
  [("video rx", ⟨{}, {}, [(((5805, 1, 20), 0), ⟨3, -61, -55, -50, 10, 12, 14, -1, -1, -1⟩)], none⟩),
    ("tunnel rx", ⟨{}, {}, [(((5805, 1, 20), 0), ⟨1, -60, -56, -52, 11, 11, 12, -1, -1, -1⟩)], none⟩)]

theorem merge_laws_twoChildren : ∃ stats, statsAgg twoChildren = .ok stats ∧
    find? 0 stats = some ⟨4, -61, -56, -50, 10, 11, 14⟩ ∧ (keys stats).Nodup := by
  obtain ⟨stats, hstats, hnodup, -⟩ := merge_laws twoChildren (by decide +kernel) (by decide +kernel)
  refine ⟨stats, hstats, ?_, hnodup⟩
  obtain rfl : stats = [(0, ⟨4, -61, -56, -50, 10, 11, 14⟩)] :=
    Except.ok.inj (hstats.symm.trans (by decide +kernel))
  rfl

end Fpvd.Wfb
