import Fpvd.Wfb.Hub

/-!
# Fpvd.Wfb.StatsRun — the hub between its children and its ticker (`gs/fpvdgs/wfb/aggregator.py`)

The children deliver windows (`update_rx_stats`) and the ticker takes them (`aggregate_window`), in any
order.  Beside the hub a run keeps what was delivered, the passes that returned, and the exception of one
that did not.
-/

namespace Fpvd.Wfb

variable {ι : Type}

/-- A pass that returned: the windows it took, and its result. -/
structure Pass (ι : Type) where
  windows : List (ι × RxWindow)
  result : Aggregate
  deriving DecidableEq, Repr

structure HubRun (ι : Type) where
  selector : TxSelector
  hub : StatsHub ι := {}
  delivered : List (ι × RxWindow) := []
  passes : List (Pass ι) := []
  raised : Option PyExc := none
  deriving DecidableEq, Repr

inductive HubInput (ι : Type)
  | update (child : ι) (w : RxWindow)
  | aggregate
  deriving DecidableEq, Repr

namespace HubRun

def aggregate (s : HubRun ι) : HubRun ι :=
  match aggregateWindow s.selector s.hub.cur with
  | .error x => { s with hub := {}, raised := some x }
  | .ok (selector, result) =>
    { s with selector, hub := {}, passes := s.passes ++ [⟨s.hub.cur, result⟩] }

def Returns (s : HubRun ι) : Prop := CountsPackets s.hub.cur ∧ Converts s.selector s.hub.cur

instance (s : HubRun ι) : Decidable s.Returns := inferInstanceAs (Decidable (_ ∧ _))

variable {s : HubRun ι}

theorem returns_iff (hcfg : s.selector.cfg.numeric = true) :
    s.Returns ↔ ∃ r, aggregateWindow s.selector s.hub.cur = .ok r :=
  (aggregateWindow_ok_iff hcfg).symm

theorem aggregate_ok {r : TxSelector × Aggregate} (h : aggregateWindow s.selector s.hub.cur = .ok r) :
    s.aggregate = { s with selector := r.1, hub := {}, passes := s.passes ++ [⟨s.hub.cur, r.2⟩] } := by
  rw [aggregate, h]

theorem aggregate_error {x : PyExc} (h : aggregateWindow s.selector s.hub.cur = .error x) :
    s.aggregate = { s with hub := {}, raised := some x } := by
  rw [aggregate, h]

theorem aggregate_cfg (s : HubRun ι) : s.aggregate.selector.cfg = s.selector.cfg := by
  cases h : aggregateWindow s.selector s.hub.cur with
  | error x => rw [aggregate_error h]
  | ok r =>
    rw [aggregate_ok h]
    show r.1.cfg = s.selector.cfg
    rcases aggregateWindow_select h with ⟨hsel, -⟩ | ⟨w, -, hsel, -⟩
    · rw [hsel]
    · rw [hsel]

theorem raised_aggregate (hcfg : s.selector.cfg.numeric = true) (hs : s.raised = none) :
    s.aggregate.raised = none ↔ s.Returns := by
  rw [returns_iff hcfg]
  cases h : aggregateWindow s.selector s.hub.cur with
  | error x =>
    rw [aggregate_error h]
    exact iff_of_false nofun nofun
  | ok r =>
    rw [aggregate_ok h]
    exact iff_of_true hs ⟨r, rfl⟩

variable [DecidableEq ι]

def update (s : HubRun ι) (child : ι) (w : RxWindow) : HubRun ι :=
  { s with hub := s.hub.updateRxStats child w, delivered := s.delivered ++ [(child, w)] }

def step (s : HubRun ι) : HubInput ι → HubRun ι
  | .update child w => s.update child w
  | .aggregate => s.aggregate

end HubRun

/-! ## Text lines -/

/-- The parsers of the children, before the hub. -/
structure LineRun (ι : Type) where
  run : HubRun ι
  parsers : ι → RxLineParser := fun _ => {}

/-- A line of a child, or a round of the ticker. -/
inductive LineInput (ι : Type)
  | line (child : ι) (text : String)
  | aggregate
  deriving DecidableEq, Repr

namespace LineRun

variable [DecidableEq ι] (rd : LineReader)

def step (s : LineRun ι) : LineInput ι → LineRun ι
  | .line child text =>
    let (parser, report) := (s.parsers child).feed (.ofText rd text)
    let parsers := Function.update s.parsers child parser
    match report with
    | some (.window w) => ⟨s.run.update child w, parsers⟩
    | _ => ⟨s.run, parsers⟩
  | .aggregate => ⟨s.run.aggregate, s.parsers⟩

def Safe (s : LineRun ι) : LineInput ι → Prop
  | .line _ _ => True
  | .aggregate => s.run.Returns

instance (s : LineRun ι) : (i : LineInput ι) → Decidable (s.Safe i)
  | .line _ _ => .isTrue trivial
  | .aggregate => inferInstanceAs (Decidable s.run.Returns)

variable {rd} {s : LineRun ι}

theorem step_line (child : ι) (text : String) :
    (s.step rd (.line child text)).run = s.run ∨
      ∃ w, (s.step rd (.line child text)).run = s.run.update child w := by
  simp only [step]
  split
  · exact .inr ⟨_, rfl⟩
  · exact .inl rfl

theorem step_cfg (i : LineInput ι) :
    (s.step rd i).run.selector.cfg = s.run.selector.cfg := by
  cases i with
  | line child text =>
    rcases step_line child text with h | ⟨w, h⟩
    · rw [h]
    · rw [h]
      rfl
  | aggregate => exact s.run.aggregate_cfg

theorem raised_step (hcfg : s.run.selector.cfg.numeric = true) (hs : s.run.raised = none)
    (i : LineInput ι) : (s.step rd i).run.raised = none ↔ s.Safe i := by
  cases i with
  | line child text =>
    refine iff_of_true ?_ trivial
    rcases step_line child text with h | ⟨w, h⟩
    · rw [h, hs]
    · rw [h]
      exact hs
  | aggregate => exact HubRun.raised_aggregate hcfg hs

variable (rd) in
/-- **No pass of a run of text lines raises** just when each one finds packets on every antenna and a count
that its threshold can be computed from. -/
theorem never_raises_iff (selector : TxSelector) (hcfg : selector.cfg.numeric = true)
    (inputs : List (LineInput ι)) :
    Run.Meets (step rd) Safe ⟨{ selector }, fun _ => {}⟩ inputs ↔
      ∀ before, before <+: inputs →
        (before.foldl (step rd) ⟨{ selector }, fun _ => {}⟩).run.raised = none := by
  refine Run.meets_iff_throughout (I := fun s : LineRun ι => s.run.selector.cfg.numeric = true)
    (K := fun s => s.run.raised = none) hcfg (fun s i hs => ?_) rfl
    (fun s i hs hraised => raised_step hs hraised i) inputs
  rw [step_cfg]
  exact hs

def digitReader : LineReader where
  strip := id
  int := digit
  hex := digit
where
  digit (s : String) : Option ℤ :=
    match s.toList with
    | [c] => if c.isDigit then some (c.toNat - '0'.toNat) else none
    | _ => none

/-- A window with an antenna that counts seven packets. -/
theorem never_raises_digits :
    ([LineInput.line "video rx" "1\tRX_ANT\t5:1:2\t0\t7:1:2:3:4:5:6",
      .line "video rx" "2\tPKT\t7:7:0:0:7:7:0:0:0:7:7", .aggregate].foldl (step digitReader)
        ⟨{ selector := ⟨{}, [], none⟩ }, fun _ => {}⟩).run.raised = none :=
  (never_raises_iff digitReader ⟨{}, [], none⟩ (by decide) _).mp (by decide +kernel) _
    (List.prefix_refl _)

/-- **A row that counts no packets** ends the pass with an exception, **and so does a count that is too great
for a float.** -/
theorem zero_count_raises :
    ([LineInput.line "video rx" "1\tRX_ANT\t5:1:2\t0\t0:1:2:3:4:5:6",
      .line "video rx" "2\tPKT\t7:7:0:0:7:7:0:0:0:7:7", .aggregate].foldl (step digitReader)
        ⟨{ selector := ⟨{}, [], none⟩ }, fun _ => {}⟩).run.raised = some .zeroDivisionError ∧
    aggregateWindow ⟨{}, [], none⟩
      [("video rx", (⟨{}, {}, [(((5, 1, 2), 0), ⟨2 ^ 1024, 1, 2, 3, 4, 5, 6, -1, -1, -1⟩)], none⟩ : RxWindow))] =
        .error .overflowError := by
  decide +kernel

end LineRun

/-! ## Windows -/

def errorsOf (ws : List (ι × RxWindow)) : ℤ :=
  (ws.map fun e => e.2.packets.decErr + e.2.packets.bad + e.2.packets.lost).sum

def fecOf (ws : List (ι × RxWindow)) : ℤ := (ws.map fun e => e.2.packets.fecRec).sum

def HubRun.taken (s : HubRun ι) : List (ι × RxWindow) := s.passes.flatMap Pass.windows

/-- Every delivered window went into one result, or waits. -/
structure CountedOnce (s : HubRun ι) : Prop where
  computed : ∀ p ∈ s.passes, ∃ sel sel', aggregateWindow sel p.windows = .ok (sel', p.result)
  windows : (s.taken ++ s.hub.cur).Perm s.delivered
  rxErrors : (∀ p ∈ s.passes, errorsOf p.windows ≤ 65535) →
    (s.passes.map fun p => p.result.rssi.rxErrors).sum + errorsOf s.hub.cur = errorsOf s.delivered
  rxFec : (∀ p ∈ s.passes, fecOf p.windows ≤ 65535) →
    (s.passes.map fun p => p.result.rssi.rxFec).sum + fecOf s.hub.cur = fecOf s.delivered

/-- A child has no window waiting when it delivers one, and a pass does not raise. -/
def HubRun.Keeps (s : HubRun ι) : HubInput ι → Prop
  | .update child _ => child ∉ AssocMap.keys s.hub.cur
  | .aggregate => s.Returns

instance [DecidableEq ι] (s : HubRun ι) : (i : HubInput ι) → Decidable (s.Keeps i)
  | .update child _ => inferInstanceAs (Decidable (child ∉ AssocMap.keys s.hub.cur))
  | .aggregate => inferInstanceAs (Decidable s.Returns)

section Counted

variable {sel sel' : TxSelector} {cur : List (ι × RxWindow)} {result : Aggregate}

theorem linkReport_sums (stats : List (ℤ × AntStats)) (cur : List (ι × RxWindow)) :
    (linkReport stats (cur.map fun e => e.2.packets)).rxErrors = min (errorsOf cur) 65535 ∧
    (linkReport stats (cur.map fun e => e.2.packets)).rxFec = min (fecOf cur) 65535 := by
  unfold linkReport errorsOf fecOf
  simp only [List.map_map]
  split <;> exact ⟨rfl, rfl⟩

theorem aggregateWindow_sums (h : aggregateWindow sel cur = .ok (sel', result)) :
    result.rssi.rxErrors = min (errorsOf cur) 65535 ∧ result.rssi.rxFec = min (fecOf cur) 65535 := by
  obtain ⟨stats, chosen, -, -, hr⟩ := aggregateWindow_eq_ok.mp h
  obtain ⟨-, rfl⟩ := Prod.mk.inj hr
  exact linkReport_sums stats cur

theorem sum_passes (f : RxWindow → ℤ) (g : Aggregate → ℤ) {passes : List (Pass ι)}
    (hg : ∀ p ∈ passes, g p.result = min ((p.windows.map fun e => f e.2).sum) 65535)
    (hcap : ∀ p ∈ passes, (p.windows.map fun e => f e.2).sum ≤ 65535) :
    (passes.map fun p => g p.result).sum = ((passes.flatMap Pass.windows).map fun e => f e.2).sum := by
  rw [List.map_flatMap, List.flatMap_def, List.sum_flatten, List.map_map]
  refine congrArg List.sum (List.map_congr_left fun p hp => ?_)
  rw [hg p hp, min_eq_left (hcap p hp)]
  rfl

variable {s : HubRun ι}

theorem CountedOnce.of_windows
    (hcomp : ∀ p ∈ s.passes, ∃ sel sel', aggregateWindow sel p.windows = .ok (sel', p.result))
    (hperm : (s.taken ++ s.hub.cur).Perm s.delivered) : CountedOnce s := by
  have hsums : ∀ p ∈ s.passes, p.result.rssi.rxErrors = min (errorsOf p.windows) 65535 ∧
      p.result.rssi.rxFec = min (fecOf p.windows) 65535 := by
    intro p hp
    obtain ⟨sel, sel', h⟩ := hcomp p hp
    exact aggregateWindow_sums h
  refine ⟨hcomp, hperm, fun hcap => ?_, fun hcap => ?_⟩
  · rw [sum_passes (fun w => w.packets.decErr + w.packets.bad + w.packets.lost) (fun a => a.rssi.rxErrors)
      (fun p hp => (hsums p hp).1) hcap, errorsOf, ← List.sum_append, ← List.map_append]
    exact (hperm.map _).sum_eq
  · rw [sum_passes (fun w => w.packets.fecRec) (fun a => a.rssi.rxFec)
      (fun p hp => (hsums p hp).2) hcap, fecOf, ← List.sum_append, ← List.map_append]
    exact (hperm.map _).sum_eq

/-- What holds in every state. -/
structure HubRun.Sane (s : HubRun ι) : Prop where
  numeric : s.selector.cfg.numeric = true
  computed : ∀ p ∈ s.passes, ∃ sel sel', aggregateWindow sel p.windows = .ok (sel', p.result)

theorem HubRun.Sane.countedOnce_iff_perm (h : s.Sane) :
    CountedOnce s ↔ (s.taken ++ s.hub.cur).Perm s.delivered :=
  ⟨CountedOnce.windows, .of_windows h.computed⟩

theorem HubRun.Sane.aggregate (h : s.Sane) : s.aggregate.Sane := by
  refine ⟨by rw [s.aggregate_cfg]; exact h.numeric, ?_⟩
  cases hagg : aggregateWindow s.selector s.hub.cur with
  | error x =>
    rw [aggregate_error hagg]
    exact h.computed
  | ok r =>
    rw [aggregate_ok hagg]
    intro p hp
    rcases List.mem_append.mp hp with hp | hp
    · exact h.computed p hp
    · obtain rfl := List.mem_singleton.mp hp
      exact ⟨s.selector, r.1, hagg⟩

theorem returns_of_nil (h : s.hub.cur = []) : s.Returns := by
  rw [HubRun.Returns, h]
  exact ⟨nofun, rfl⟩

theorem HubRun.Sane.countedOnce_aggregate (h : s.Sane) (hs : CountedOnce s) :
    CountedOnce s.aggregate ↔ s.Returns := by
  rw [h.aggregate.countedOnce_iff_perm]
  cases hagg : aggregateWindow s.selector s.hub.cur with
  | error x =>
    have hraise : ¬ s.Returns := by
      rw [returns_iff h.numeric, hagg]
      exact nofun
    refine iff_of_false (fun hperm => ?_) hraise
    -- what was waiting is in no result, so nothing was waiting
    rw [aggregate_error hagg] at hperm
    have hlen := hperm.length_eq.trans hs.windows.length_eq.symm
    rw [List.length_append, List.length_append] at hlen
    exact hraise (returns_of_nil (List.length_eq_zero_iff.mp (Nat.add_left_cancel hlen).symm))
  | ok r =>
    refine iff_of_true ?_ ((returns_iff h.numeric).mpr ⟨r, hagg⟩)
    rw [aggregate_ok hagg]
    show ((s.passes ++ [(⟨s.hub.cur, r.2⟩ : Pass ι)]).flatMap Pass.windows ++ []).Perm s.delivered
    rw [List.append_nil, List.flatMap_append, List.flatMap_singleton]
    exact hs.windows

variable [DecidableEq ι]

theorem HubRun.Sane.countedOnce_update (h : s.Sane) (hs : CountedOnce s) (child : ι) (w : RxWindow) :
    CountedOnce (s.update child w) ↔ child ∉ AssocMap.keys s.hub.cur := by
  have hsane : (s.update child w).Sane := ⟨h.numeric, h.computed⟩
  rw [hsane.countedOnce_iff_perm]
  show (s.taken ++ AssocMap.put child w s.hub.cur).Perm (s.delivered ++ [(child, w)]) ↔ _
  by_cases hmem : child ∈ AssocMap.keys s.hub.cur
  · -- one more was delivered, and none more is there
    refine iff_of_false (fun hperm => ?_) (not_not.mpr hmem)
    have hlen := hperm.length_eq
    have hlen' := hs.windows.length_eq
    rw [List.length_append, AssocMap.length_put_of_mem hmem, List.length_append] at hlen
    rw [List.length_append] at hlen'
    simp only [List.length_singleton] at hlen
    omega
  · refine iff_of_true ?_ hmem
    rw [AssocMap.put_of_not_mem hmem, ← List.append_assoc]
    exact hs.windows.append_right _

/-- **Every delivered window goes into one result**, in every state of a run, just when no child delivers a
window while its last one waits and no pass raises.  The reported sums are then those of the windows. -/
theorem countedOnce_iff (selector : TxSelector) (hcfg : selector.cfg.numeric = true)
    (inputs : List (HubInput ι)) :
    Run.Meets HubRun.step HubRun.Keeps { selector } inputs ↔
      ∀ before, before <+: inputs → CountedOnce (before.foldl HubRun.step { selector }) := by
  have hnone : ∀ p ∈ ([] : List (Pass ι)),
      ∃ sel sel', aggregateWindow sel p.windows = .ok (sel', p.result) :=
    fun p hp => absurd hp List.not_mem_nil
  refine Run.meets_iff_throughout (I := HubRun.Sane) ⟨hcfg, hnone⟩ (fun s i h => ?_)
    (.of_windows hnone (List.Perm.refl [])) (fun s i h hs => ?_) inputs
  · cases i with
    | update child w => exact ⟨h.numeric, h.computed⟩
    | aggregate => exact h.aggregate
  · cases i with
    | update child w => exact h.countedOnce_update hs child w
    | aggregate => exact h.countedOnce_aggregate hs

def lossWindow (lost : ℤ) : RxWindow := ⟨{ lost }, { lost }, [], none⟩

/-- Two children, and a pass between two windows of one of them. -/
theorem countedOnce_two :
    CountedOnce ([HubInput.update "video rx" (lossWindow 3), .update "tunnel rx" (lossWindow 1), .aggregate,
      .update "video rx" (lossWindow 2)].foldl HubRun.step { selector := ⟨{}, [], none⟩ }) :=
  (countedOnce_iff ⟨{}, [], none⟩ (by decide) _).mp (by decide +kernel) _ (List.prefix_refl _)

/-- **Two windows of a child before a pass**: the first is lost. -/
theorem second_window_replaces :
    let s := [HubInput.update "video rx" (lossWindow 3), .update "video rx" (lossWindow 2),
      .aggregate].foldl HubRun.step { selector := ⟨{}, [], none⟩ }
    s.passes.map (fun p => p.result.rssi.rxErrors) = [2] ∧ s.hub.cur = [] ∧ errorsOf s.delivered = 5 := by
  decide +kernel

end Counted

end Fpvd.Wfb
