import Fpvd.Gs.Schema
import Fpvd.Wfb.LineProto

/-!
# Fpvd.Wfb.TxSel — which card transmits (`gs/fpvdgs/wfb/txsel.py`)

The cards are ranked by their packets; among those near the best the one with the highest RSSI
transmits, and a change has to gain `rssiDeltaDb`.  The settings come from the configuration as JSON
values: a `null` there passes the check of the configuration and is compared here.
-/

namespace Fpvd.Wfb

inductive PyExc where
  | typeError
  | zeroDivisionError
  | overflowError
  | attributeError
  deriving DecidableEq, Repr

structure AntStats where
  pktS : ℤ
  rssiMin : ℤ
  rssiAvg : ℤ
  rssiMax : ℤ
  snrMin : ℤ
  snrAvg : ℤ
  snrMax : ℤ
  deriving DecidableEq, Repr

/-- A value as Python's arithmetic and comparison of numbers takes it. -/
def operand : Json → Option ℚ
  | .int i => some i
  | .real q => some q
  | .bool b => some (if b then 1 else 0)
  | _ => none

def isFloat : Json → Bool
  | .real _ => true
  | _ => false

structure TxSelectorConfig where
  rssiDeltaDb : Json := .int 3
  counterRelDelta : Json := .real (1 / 10)
  counterAbsDelta : Json := .int 3
  deriving DecidableEq, Repr

def TxSelectorConfig.numeric (cfg : TxSelectorConfig) : Bool :=
  (operand cfg.rssiDeltaDb).isSome && (operand cfg.counterRelDelta).isSome &&
    (operand cfg.counterAbsDelta).isSome

/-- `max_pkts - max(counter_abs_delta, max_pkts * counter_rel_delta)`; the count is converted where it meets
a float. -/
def TxSelectorConfig.threshold (cfg : TxSelectorConfig) (maxPkts : ℤ) : Except PyExc ℚ :=
  match operand cfg.counterRelDelta with
  | none => .error .typeError
  | some rel =>
    if isFloat cfg.counterRelDelta && Gs.overflows maxPkts then .error .overflowError
    else match operand cfg.counterAbsDelta with
      | none => .error .typeError
      | some abs =>
        if abs < maxPkts * rel then .ok (maxPkts - maxPkts * rel)
        else if isFloat cfg.counterAbsDelta && Gs.overflows maxPkts then .error .overflowError
        else .ok (maxPkts - abs)

/-- The count fits a float, or meets none. -/
def TxSelectorConfig.converts (cfg : TxSelectorConfig) (maxPkts : ℤ) : Bool :=
  !Gs.overflows maxPkts || !isFloat cfg.counterRelDelta &&
    (!isFloat cfg.counterAbsDelta || (match operand cfg.counterAbsDelta, operand cfg.counterRelDelta with
      | some abs, some rel => abs < maxPkts * rel
      | _, _ => false))

structure TxSelector where
  cfg : TxSelectorConfig
  rxOnlyWlanIds : List ℤ := []
  current : Option ℤ := none
  deriving DecidableEq, Repr

namespace TxSelector

variable {sel sel' : TxSelector} {stats : List (ℤ × AntStats)}

def wlanOf (antId : ℤ) : ℤ := antId >>> (8 : ℕ)

def addRow (sel : TxSelector) (cards : OrdMap ℤ (ℤ × ℤ)) (row : ℤ × AntStats) : OrdMap ℤ (ℤ × ℤ) :=
  let wlan := wlanOf row.1
  if wlan ∈ sel.rxOnlyWlanIds then cards
  else match cards.find? wlan with
    | none => cards.insert wlan (row.2.rssiAvg, row.2.pktS)
    | some (rssi, pkts) => cards.insert wlan (max rssi row.2.rssiAvg, max pkts row.2.pktS)

/-- `wlan_rssi_and_pkts`: the cards that may transmit, in the order of their ids. -/
def cards (sel : TxSelector) (stats : List (ℤ × AntStats)) : OrdMap ℤ (ℤ × ℤ) :=
  stats.foldl sel.addRow ∅

def better (a b : ℤ × ℤ) : ℤ × ℤ := if a.1 < b.1 ∨ (a.1 = b.1 ∧ a.2 < b.2) then b else a

def switchTo (sel : TxSelector) (curNear : Bool) (curRssi newRssi newWlan : ℤ) :
    Except PyExc (TxSelector × Option ℤ) :=
  if sel.current = some newWlan then .ok (sel, none)
  else if curNear then
    match operand sel.cfg.rssiDeltaDb with
    | none => .error .typeError
    | some delta =>
      if ((newRssi - curRssi : ℤ) : ℚ) < delta then .ok (sel, none)
      else .ok ({ sel with current := some newWlan }, some newWlan)
  else .ok ({ sel with current := some newWlan }, some newWlan)

def select (sel : TxSelector) (stats : List (ℤ × AntStats)) : Except PyExc (TxSelector × Option ℤ) :=
  let table := sel.cards stats
  let maxPkts := table.entries.foldl (fun m e => max e.2.2 m) 0
  if table.entries = [] then .ok (sel, none)
  else match sel.cfg.threshold maxPkts with
    | .error x => .error x
    | .ok thr =>
      let nearMax := table.entries.filter fun e => thr ≤ e.2.2
      match nearMax.map fun e => (e.2.1, e.1) with
      | [] => .ok (sel, none)
      | c :: cs =>
        let best := cs.foldl better c
        let curRssi := ((sel.current.bind table.find?).map Prod.fst).getD (-1000)
        sel.switchTo (nearMax.any fun e => sel.current = some e.1) curRssi best.1 best.2

def maxPkts (sel : TxSelector) (stats : List (ℤ × AntStats)) : ℤ :=
  (sel.cards stats).entries.foldl (fun m e => max e.2.2 m) 0

/-- The threshold can be computed, or is not. -/
def converts (sel : TxSelector) (stats : List (ℤ × AntStats)) : Bool :=
  (sel.cards stats).entries = [] || sel.cfg.converts (sel.maxPkts stats)

/-! ## What a pass can do -/

theorem foldl_better_mem (c : ℤ × ℤ) (cs : List (ℤ × ℤ)) : cs.foldl better c ∈ c :: cs := by
  induction cs generalizing c with
  | nil => simp
  | cons d cs ih =>
    rw [List.foldl_cons]
    rcases List.mem_cons.mp (ih (better c d)) with h | h
    · rw [h, better]
      split_ifs <;> simp
    · exact List.mem_cons_of_mem _ (List.mem_cons_of_mem _ h)

def card (sel : TxSelector) (stats : List (ℤ × AntStats)) (w : ℤ) : Option (ℤ × ℤ) :=
  if w ∈ sel.rxOnlyWlanIds then none
  else do
    let grp := (stats.filter fun row => wlanOf row.1 = w).map Prod.snd
    return (← (grp.map AntStats.rssiAvg).max?, ← (grp.map AntStats.pktS).max?)

theorem max?_concat (xs : List ℤ) (y : ℤ) :
    (xs ++ [y]).max? = some ((xs.max?.map (max · y)).getD y) := by
  cases xs with
  | nil => rfl
  | cons x xs =>
    rw [List.cons_append, List.max?_cons', List.max?_cons', List.foldl_append]
    rfl

theorem find?_cards (w : ℤ) : (sel.cards stats).find? w = sel.card stats w := by
  unfold cards card
  induction stats using List.reverseRecOn with
  | nil => simp
  | append_singleton rows row ih =>
    rw [List.foldl_append, List.foldl_cons, List.foldl_nil, addRow]
    dsimp only at ih ⊢
    by_cases hw : wlanOf row.1 = w
    · subst hw
      split_ifs at ih ⊢ with hrx
      · exact ih
      · rw [ih, List.filter_append, List.map_append, List.map_append, List.map_append]
        simp only [decide_true, List.filter_cons_of_pos, List.filter_nil, List.map_cons, List.map_nil,
          max?_concat]
        -- a card has an RSSI just when it has a packet count
        cases (rows.filter fun r => wlanOf r.1 = wlanOf row.1) with
        | nil => simp [OrdMap.find?_insert]
        | cons r rs => simp [OrdMap.find?_insert]
    · have hrows : (rows ++ [row]).filter (fun r => wlanOf r.1 = w) = rows.filter fun r => wlanOf r.1 = w := by
        simp [hw]
      rw [hrows, ← ih]
      split_ifs
      · rfl
      · split <;> rw [OrdMap.find?_insert, if_neg (Ne.symm hw)]

theorem cards_keys {w : ℤ} (hw : w ∈ (sel.cards stats).keys) :
    w ∉ sel.rxOnlyWlanIds ∧ w ∈ stats.map fun row => wlanOf row.1 := by
  rw [OrdMap.mem_keys, find?_cards, card] at hw
  split_ifs at hw with hrx
  · cases hw
  · refine ⟨hrx, by_contra fun hno => ?_⟩
    have hnil : stats.filter (fun row => wlanOf row.1 = w) = [] := by
      simpa [List.filter_eq_nil_iff] using hno
    simp [hnil] at hw

/-- The end of a pass changes nothing, or makes the best card the current one; a current card near the
maximum is left only for a gain. -/
theorem switchTo_cases {curNear : Bool} {curRssi newRssi newWlan : ℤ} {out : Option ℤ}
    (h : sel.switchTo curNear curRssi newRssi newWlan = .ok (sel', out)) :
    (sel' = sel ∧ out = none ∧ (sel.current = some newWlan ∨ curNear = true ∧
        ∀ delta ∈ operand sel.cfg.rssiDeltaDb, ((newRssi - curRssi : ℤ) : ℚ) < delta)) ∨
      (sel' = { sel with current := some newWlan } ∧ out = some newWlan ∧ (curNear = true →
        ∀ delta ∈ operand sel.cfg.rssiDeltaDb, delta ≤ ((newRssi - curRssi : ℤ) : ℚ))) := by
  unfold switchTo at h
  split_ifs at h with hcur hnear
  · obtain ⟨rfl, rfl⟩ := Prod.mk.inj (Except.ok.inj h)
    exact .inl ⟨rfl, rfl, .inl hcur⟩
  · split at h
    case h_1 => cases h
    case h_2 delta hdelta =>
      rw [hdelta]
      split_ifs at h with hlt <;> obtain ⟨rfl, rfl⟩ := Prod.mk.inj (Except.ok.inj h)
      · exact .inl ⟨rfl, rfl, .inr ⟨hnear, by simpa using hlt⟩⟩
      · exact .inr ⟨rfl, rfl, fun _ => by simpa using hlt⟩
  · obtain ⟨rfl, rfl⟩ := Prod.mk.inj (Except.ok.inj h)
    exact .inr ⟨rfl, rfl, fun h => absurd h hnear⟩

theorem select_cases {out : Option ℤ} (h : sel.select stats = .ok (sel', out)) :
    (sel' = sel ∧ out = none) ∨
      ∃ w, (w ∉ sel.rxOnlyWlanIds ∧ w ∈ stats.map fun row => wlanOf row.1) ∧
        sel' = { sel with current := some w } ∧ out = some w := by
  unfold select at h
  simp only at h
  split_ifs at h with hnil
  · exact .inl (by simpa [eq_comm] using h)
  · split at h
    · cases h
    · next thr _ =>
      split at h
      · exact .inl (by simpa [eq_comm] using h)
      · next c cs hnear =>
        refine (switchTo_cases h).imp (fun hsw => ⟨hsw.1, hsw.2.1⟩) fun hsw => ⟨_, ?_, hsw.1, hsw.2.1⟩
        -- the best pair comes from an entry of the table
        have hmem := foldl_better_mem c cs
        rw [← hnear, List.mem_map] at hmem
        obtain ⟨e, he, hbest⟩ := hmem
        rw [← hbest]
        exact cards_keys (List.mem_map.mpr ⟨e, (List.mem_filter.mp he).1, rfl⟩)

theorem switchTo_ok {delta : ℚ} (hdelta : operand sel.cfg.rssiDeltaDb = some delta) (curNear : Bool)
    (curRssi newRssi newWlan : ℤ) : ∃ r, sel.switchTo curNear curRssi newRssi newWlan = .ok r := by
  unfold switchTo
  rw [hdelta]
  simp only
  split_ifs <;> exact ⟨_, rfl⟩

theorem threshold_ok_iff {cfg : TxSelectorConfig} (hcfg : cfg.numeric = true) (m : ℤ) :
    (∃ thr, cfg.threshold m = .ok thr) ↔ cfg.converts m = true := by
  simp only [TxSelectorConfig.numeric, Bool.and_eq_true, Option.isSome_iff_exists] at hcfg
  obtain ⟨⟨-, ⟨rel, hrel⟩⟩, ⟨abs, habs⟩⟩ := hcfg
  simp only [TxSelectorConfig.threshold, TxSelectorConfig.converts, hrel, habs]
  by_cases hover : Gs.overflows m = true <;> by_cases hr : isFloat cfg.counterRelDelta = true <;>
    by_cases ha : isFloat cfg.counterAbsDelta = true <;> by_cases hlt : abs < m * rel <;>
    simp [hover, hr, ha, hlt]

theorem select_ok_iff (hcfg : sel.cfg.numeric = true) (stats : List (ℤ × AntStats)) :
    (∃ r, sel.select stats = .ok r) ↔ sel.converts stats = true := by
  have hthr := threshold_ok_iff hcfg (sel.maxPkts stats)
  rw [converts, Bool.or_eq_true, decide_eq_true_iff, ← hthr]
  unfold select
  simp only
  split_ifs with hnil
  · exact iff_of_true ⟨_, rfl⟩ (.inl hnil)
  · rw [or_iff_right hnil, maxPkts]
    cases sel.cfg.threshold ((sel.cards stats).entries.foldl (fun m e => max e.2.2 m) 0) with
    | error x => simp
    | ok thr =>
      refine iff_of_true ?_ ⟨thr, rfl⟩
      simp only [TxSelectorConfig.numeric, Bool.and_eq_true, Option.isSome_iff_exists] at hcfg
      obtain ⟨⟨⟨delta, hdelta⟩, -⟩, -⟩ := hcfg
      dsimp only
      split
      · exact ⟨_, rfl⟩
      · exact switchTo_ok hdelta _ _ _ _

/-! ## The card that a pass leaves -/

section Laws

def selectAll (sel : TxSelector) :
    List (List (ℤ × AntStats)) → Except PyExc (TxSelector × List (Option ℤ))
  | [] => .ok (sel, [])
  | stats :: windows => do
    let (sel, out) ← sel.select stats
    let (sel, outs) ← sel.selectAll windows
    return (sel, out :: outs)

/-- The card `w` is within the deltas of the best packet count of the window; its RSSI is `rssi`. -/
def Near (sel : TxSelector) (stats : List (ℤ × AntStats)) (abs rel : ℚ) (w rssi : ℤ) : Prop :=
  ∃ pkts best, sel.card stats w = some (rssi, pkts) ∧
    IsGreatest {p | ∃ w r, sel.card stats w = some (r, p)} best ∧ best - max abs (best * rel) ≤ (pkts : ℚ)

variable {delta rel abs : ℚ} {thr : ℚ} {w rssi pkts : ℤ}

theorem card_perm {stats' : List (ℤ × AntStats)} (h : stats.Perm stats') : sel.card stats = sel.card stats' := by
  funext w
  have hmax : ∀ f : AntStats → ℤ,
      (((stats.filter fun row => wlanOf row.1 = w).map Prod.snd).map f).max? =
        (((stats'.filter fun row => wlanOf row.1 = w).map Prod.snd).map f).max? := by
    intro f
    ext x
    simp only [List.max?_eq_some_iff, List.mem_map, List.mem_filter, h.mem_iff]
  unfold card
  dsimp only
  rw [hmax, hmax]

theorem threshold_eq {cfg : TxSelectorConfig} (hrel : operand cfg.counterRelDelta = some rel)
    (habs : operand cfg.counterAbsDelta = some abs) {m : ℤ} (h : cfg.threshold m = .ok thr) :
    thr = m - max abs (m * rel) := by
  simp only [TxSelectorConfig.threshold, hrel, habs] at h
  split_ifs at h with _ hlt
  · rw [max_eq_right hlt.le, Except.ok.inj h]
  · rw [max_eq_left (not_lt.mp hlt), Except.ok.inj h]

theorem foldl_better_le {d : ℤ × ℤ} (c : ℤ × ℤ) (cs : List (ℤ × ℤ)) (hd : d ∈ c :: cs) :
    d.1 ≤ (cs.foldl better c).1 := by
  induction cs generalizing c d with
  | nil => rw [List.mem_singleton.mp hd, List.foldl_nil]
  | cons e cs ih =>
    rw [List.foldl_cons]
    have hce : c.1 ≤ (better c e).1 ∧ e.1 ≤ (better c e).1 := by
      unfold better
      split_ifs <;> omega
    have hfold := ih (better c e) List.mem_cons_self
    rcases List.mem_cons.mp hd with rfl | hd
    · exact hce.1.trans hfold
    · rcases List.mem_cons.mp hd with rfl | hd
      · exact hce.2.trans hfold
      · exact ih _ (List.mem_cons_of_mem _ hd)

theorem isGreatest_maxPkts (hcounts : ∀ row ∈ stats, 0 ≤ row.2.pktS)
    (hcard : sel.card stats w = some (rssi, pkts)) :
    IsGreatest {p | ∃ w r, sel.card stats w = some (r, p)} (sel.maxPkts stats) := by
  have hmax : (0 :: (sel.cards stats).entries.map fun e => e.2.2).max? = some (sel.maxPkts stats) := by
    rw [List.max?_cons', List.foldl_map, maxPkts]
    simp only [max_comm]
  have hmem : ∀ {w r p}, sel.card stats w = some (r, p) ↔ (w, r, p) ∈ (sel.cards stats).entries := by
    intro w r p
    rw [OrdMap.mem_entries, find?_cards]
  have hpos : 0 ≤ pkts := by
    unfold card at hcard
    split_ifs at hcard
    simp only [Option.bind_eq_bind, Option.bind_eq_some_iff, Option.pure_def, Option.some.injEq,
      Prod.mk.injEq] at hcard
    obtain ⟨_, -, p, hp, -, rfl⟩ := hcard
    obtain ⟨a, ha, rfl⟩ := List.mem_map.mp (List.max?_mem hp)
    obtain ⟨row, hrow, rfl⟩ := List.mem_map.mp ha
    exact hcounts row (List.mem_filter.mp hrow).1
  obtain ⟨hone, hle⟩ := List.max?_eq_some_iff.mp hmax
  have hle' : ∀ {w r p}, sel.card stats w = some (r, p) → p ≤ sel.maxPkts stats :=
    fun h => hle _ (List.mem_cons_of_mem _ (List.mem_map_of_mem (f := fun e => e.2.2) (hmem.mp h)))
  refine ⟨?_, fun p ⟨w, r, hp⟩ => hle' hp⟩
  rcases List.mem_cons.mp hone with hzero | hone
  · exact ⟨w, rssi, by rwa [le_antisymm (hzero ▸ hpos) (hle' hcard)]⟩
  · obtain ⟨e, he, heq⟩ := List.mem_map.mp hone
    exact ⟨e.1, e.2.1, hmem.mpr (heq ▸ he)⟩

theorem select_eq (hthr : sel.cfg.threshold (sel.maxPkts stats) = .ok thr)
    (hcard : sel.card stats w = some (rssi, pkts)) (hpkts : thr ≤ pkts) :
    ∃ best r p, sel.card stats best = some (r, p) ∧ thr ≤ p ∧
      (∀ w' r' p', sel.card stats w' = some (r', p') → thr ≤ p' → r' ≤ r) ∧
      ∀ cur, { sel with current := cur }.select stats = { sel with current := cur }.switchTo
        (cur.any fun c => (sel.card stats c).any fun e : ℤ × ℤ => thr ≤ e.2)
        (((cur.bind (sel.card stats)).map Prod.fst).getD (-1000)) r best := by
  have hmem : ∀ {w r p}, (w, r, p) ∈ (sel.cards stats).entries.filter (fun e => thr ≤ e.2.2) ↔
      sel.card stats w = some (r, p) ∧ thr ≤ p := by
    intro w r p
    rw [List.mem_filter, OrdMap.mem_entries, find?_cards, decide_eq_true_iff]
  have hpair : ∀ {w r p}, sel.card stats w = some (r, p) → thr ≤ p → (r, w) ∈
      ((sel.cards stats).entries.filter fun e => thr ≤ e.2.2).map fun e => (e.2.1, e.1) :=
    fun h hp => List.mem_map.mpr ⟨_, hmem.mpr ⟨h, hp⟩, rfl⟩
  cases hlist : ((sel.cards stats).entries.filter fun e => thr ≤ e.2.2).map fun e => (e.2.1, e.1) with
  | nil =>
    have h := hpair hcard hpkts
    rw [hlist] at h
    cases h
  | cons c cs =>
    have hbest := foldl_better_mem c cs
    rw [← hlist, List.mem_map] at hbest
    obtain ⟨⟨best, r, p⟩, he, hpairEq⟩ := hbest
    obtain ⟨hfind, hp⟩ := hmem.mp he
    refine ⟨best, r, p, hfind, hp, fun w' r' p' h hp' => ?_, fun cur => ?_⟩
    · have hle := foldl_better_le c cs (hlist ▸ hpair h hp')
      rwa [← hpairEq] at hle
    · have hne : (sel.cards stats).entries ≠ [] := by
        intro hnil
        rw [hnil] at hlist
        cases hlist
      have hnear : (((sel.cards stats).entries.filter fun e => thr ≤ e.2.2).any fun e => cur = some e.1) =
          cur.any fun c => (sel.card stats c).any fun e => thr ≤ e.2 := by
        rw [Bool.eq_iff_iff]
        simp only [List.any_eq_true, decide_eq_true_eq, Option.any_eq_true]
        constructor
        · rintro ⟨⟨w, e⟩, he, rfl⟩
          exact ⟨w, rfl, e, hmem.mp he⟩
        · rintro ⟨w, rfl, e, he⟩
          exact ⟨(w, e), hmem.mpr he, rfl⟩
      have htable : { sel with current := cur }.cards stats = sel.cards stats := rfl
      have hfun : (sel.cards stats).find? = sel.card stats := funext find?_cards
      unfold maxPkts at hthr
      unfold select
      dsimp only
      rw [htable, if_neg hne, hthr]
      dsimp only
      rw [hlist]
      dsimp only
      rw [hnear, hfun, ← hpairEq]

/-- What a pass does in a window with packet counts: `best` is near the best count and has the best RSSI
there. -/
structure Passes (sel : TxSelector) (stats : List (ℤ × AntStats)) (delta abs rel : ℚ) (best r : ℤ) :
    Prop where
  near : sel.Near stats abs rel best r
  top : ∀ w' r', sel.Near stats abs rel w' r' → r' ≤ r
  keeps : { sel with current := some best }.select stats = .ok ({ sel with current := some best }, none)
  cases : ∀ cur sel' out, { sel with current := cur }.select stats = .ok (sel', out) →
    (sel' = { sel with current := cur } ∧ out = none ∧ (cur = some best ∨ ∃ c rc, cur = some c ∧
      sel.Near stats abs rel c rc ∧ ((r - rc : ℤ) : ℚ) < delta)) ∨
    (sel' = { sel with current := some best } ∧ out = some best ∧ ∀ c rc, cur = some c →
      sel.Near stats abs rel c rc → delta ≤ ((r - rc : ℤ) : ℚ))

theorem exists_passes (sel : TxSelector) (hdelta : operand sel.cfg.rssiDeltaDb = some delta)
    (hrel : operand sel.cfg.counterRelDelta = some rel) (habs : operand sel.cfg.counterAbsDelta = some abs)
    (h0 : 0 ≤ abs) (hcounts : ∀ row ∈ stats, 0 ≤ row.2.pktS)
    (hcard : sel.card stats w = some (rssi, pkts)) {out : TxSelector × Option ℤ}
    (h : sel.select stats = .ok out) : ∃ best r, sel.Passes stats delta abs rel best r := by
  obtain ⟨⟨w₀, r₀, hmax⟩, hgreatest⟩ := isGreatest_maxPkts hcounts hcard
  cases hthr : sel.cfg.threshold (sel.maxPkts stats) with
  | error x =>
    have hne : (sel.cards stats).entries ≠ [] := by
      intro hnil
      rw [← find?_cards, OrdMap.find?, hnil] at hcard
      cases hcard
    unfold select at h
    unfold maxPkts at hthr
    simp only [if_neg hne, hthr] at h
    cases h
  | ok thr =>
    have heq := threshold_eq hrel habs hthr
    have hnear : ∀ {w r}, sel.Near stats abs rel w r ↔ ∃ p : ℤ, sel.card stats w = some (r, p) ∧ thr ≤ p := by
      intro w r
      constructor
      · rintro ⟨p, m, hp, hm, hle⟩
        rw [hm.unique ⟨⟨w₀, r₀, hmax⟩, hgreatest⟩, ← heq] at hle
        exact ⟨p, hp, hle⟩
      · rintro ⟨p, hp, hle⟩
        exact ⟨p, _, hp, ⟨⟨w₀, r₀, hmax⟩, hgreatest⟩, heq ▸ hle⟩
    have hthrMax : thr ≤ sel.maxPkts stats := by
      rw [heq]
      linarith [le_max_left abs (sel.maxPkts stats * rel)]
    obtain ⟨best, r, p, hbest, hp, hle, hsel⟩ := select_eq hthr hmax hthrMax
    refine ⟨best, r, hnear.mpr ⟨p, hbest, hp⟩, fun w' r' h' => ?_, ?_, fun cur sel' out hout => ?_⟩
    · obtain ⟨p', hcard', hp'⟩ := hnear.mp h'
      exact hle w' r' p' hcard' hp'
    · rw [hsel, switchTo, if_pos rfl]
    · rw [hsel] at hout
      have hcur : ∀ {c rc}, cur = some c → (sel.Near stats abs rel c rc ↔
          (cur.any fun c => (sel.card stats c).any fun e : ℤ × ℤ => thr ≤ e.2) = true ∧
            ((cur.bind (sel.card stats)).map Prod.fst).getD (-1000) = rc) := by
        rintro c rc rfl
        rw [hnear, Option.any_some, Option.bind_some]
        cases sel.card stats c with
        | none => simp
        | some e =>
          simp only [Option.some.injEq, Prod.ext_iff, Option.any_some, decide_eq_true_iff, Option.map_some,
            Option.getD_some]
          exact ⟨fun ⟨p, ⟨hr, hp⟩, hle⟩ => ⟨hp ▸ hle, hr⟩, fun ⟨hle, hr⟩ => ⟨e.2, ⟨hr, rfl⟩, hle⟩⟩
      rcases switchTo_cases hout with ⟨h1, h2, h3⟩ | ⟨h1, h2, h3⟩
      · refine .inl ⟨h1, h2, h3.imp_right fun ⟨hn, hlt⟩ => ?_⟩
        cases cur with
        | none => cases hn
        | some c => exact ⟨c, _, rfl, (hcur rfl).mpr ⟨hn, rfl⟩, hlt delta hdelta⟩
      · refine .inr ⟨h1, h2, fun c rc hc hn => ?_⟩
        obtain ⟨hany, hrc⟩ := (hcur hc).mp hn
        rw [← hrc]
        exact h3 hany delta hdelta

theorem selectAll_quiet {windows : List (List (ℤ × AntStats))} {last : List (ℤ × AntStats)} {x : Option ℤ}
    (h : sel.selectAll (windows ++ [last]) = .ok (sel', List.replicate windows.length none ++ [x])) :
    sel.select last = .ok (sel', x) := by
  induction windows with
  | nil =>
    obtain ⟨⟨s, out⟩, hs, hrest⟩ := Json.bind_eq_ok.mp h
    cases hrest
    exact hs
  | cons stats windows ih =>
    obtain ⟨⟨s, out⟩, hs, hrest⟩ := Json.bind_eq_ok.mp h
    obtain ⟨⟨s', outs⟩, hs', hpure⟩ := Json.bind_eq_ok.mp hrest
    obtain ⟨rfl, houts⟩ := Prod.mk.inj (Json.pure_eq_ok.mp hpure)
    obtain ⟨rfl, rfl⟩ := List.cons.inj houts
    rcases select_cases hs with ⟨rfl, -⟩ | ⟨w, -, -, hw⟩
    · exact ih hs'
    · cases hw

def twoCards (r₀ r₁ : ℤ) : List (ℤ × AntStats) :=
  [(0, ⟨10, r₀, r₀, r₀, 0, 0, 0⟩), (256, ⟨10, r₁, r₁, r₁, 0, 0, 0⟩)]

end Laws

end TxSelector

end Fpvd.Wfb
