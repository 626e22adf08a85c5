import Fpvd.DynLink.Gap

/-!
# Fpvd.DynLink.Flags — hot changes of the radiotap flags

`stbc` and `ldpc` come from the configuration and are restated with every `CMD_SET_RADIO`.  A
reconcile that changes them restates the radio itself when there is a baseline and nothing is
pending; otherwise it relies on the next decision, whose dispatch sends the radio only when `mcs` or
`bandwidth` differ from the baseline.
-/

namespace Fpvd.DynLink

open Run

def RadioWord.HasFlags (w : RadioWord) (stbc ldpc : Bool) : Prop :=
  w.stbc = (if stbc then 1 else 0) ∧ w.ldpc = ldpc

instance (w : RadioWord) (stbc ldpc : Bool) : Decidable (w.HasFlags stbc ldpc) :=
  inferInstanceAs (Decidable (_ ∧ _))

/-- If `t` ends in a stretch that starts with a flag-changing reconcile, has no further one and has
a decision accepted and done, the last radio word carries the new flags. -/
def FlagsCarried (t : List Ev) : Prop :=
  ∀ t₁ t₂ stbc ldpc, t = t₁ ++ .reconciled true stbc ldpc :: t₂ →
    (∀ c s l, .reconciled c s l ∉ t₂) →
    (∃ u v d, t₂ = u ++ .accepted d :: v ∧ .done d ∈ v) →
    ∃ w, pushedRadio t = some w ∧ w.HasFlags stbc ldpc

/-! ## What the last reconcile still asks for -/

/-- Since the last reconcile: did it change the flags, has a decision been accepted, and has one
accepted since been completely applied? -/
structure Owed where
  changed : Bool := false
  accepted : Bool := false
  applied : Bool := false

def owedStep (o : Owed) : Ev → Owed
  | .reconciled c _ _ => { changed := c }
  | .accepted _ => { o with accepted := true }
  | .done _ => { o with applied := o.applied || o.accepted }
  | _ => o

def owed (t : List Ev) : Owed := t.foldl owedStep {}

def Ev.flags? : Ev → Option (Bool × Bool)
  | .reconciled _ s l => some (s, l)
  | _ => none

def taken (t : List Ev) : Option (Bool × Bool) := lastObs Ev.flags? t

@[simp] theorem owed_concat (t : List Ev) (e : Ev) : owed (t ++ [e]) = owedStep (owed t) e := by
  simp [owed, List.foldl_append]

@[simp] theorem taken_concat (t : List Ev) (e : Ev) :
    taken (t ++ [e]) = e.flags?.or (taken t) := lastObs_concat _ _ _

/-- The last radio word carries the flags of the last reconcile. -/
def Carries (t : List Ev) : Prop :=
  ∃ w s l, pushedRadio t = some w ∧ taken t = some (s, l) ∧ w.HasFlags s l

def Kept (t : List Ev) : Prop :=
  (owed t).changed = true → (owed t).applied = true → Carries t

section Link

variable {o : Owed} {u : List Ev}

theorem owedFold_changed (hu : ∀ c s l, .reconciled c s l ∉ u) :
    (u.foldl owedStep o).changed = o.changed := by
  induction u generalizing o with
  | nil => rfl
  | cons e u ih =>
    rw [List.foldl_cons, ih fun c s l h => hu c s l (List.mem_cons_of_mem _ h)]
    cases e with
    | reconciled c s l => exact absurd List.mem_cons_self (hu c s l)
    | _ => rfl

theorem owedFold_accepted (hu : ∀ c s l, .reconciled c s l ∉ u) (ho : o.accepted = true) :
    (u.foldl owedStep o).accepted = true := by
  induction u generalizing o with
  | nil => exact ho
  | cons e u ih =>
    refine ih (fun c s l h => hu c s l (List.mem_cons_of_mem _ h)) ?_
    cases e with
    | reconciled c s l => exact absurd List.mem_cons_self (hu c s l)
    | accepted => rfl
    | _ => exact ho

theorem owedFold_applied (hu : ∀ c s l, .reconciled c s l ∉ u)
    (ho : o.applied = true ∨ (o.accepted = true ∧ ∃ d, .done d ∈ u)) :
    (u.foldl owedStep o).applied = true := by
  induction u generalizing o with
  | nil =>
    rcases ho with ho | ⟨-, d, hd⟩
    · exact ho
    · cases hd
  | cons e u ih =>
    refine ih (fun c s l h => hu c s l (List.mem_cons_of_mem _ h)) ?_
    rcases ho with ho | ⟨ha, d, hd⟩
    · left
      cases e with
      | reconciled c s l => exact absurd List.mem_cons_self (hu c s l)
      | done => simp [owedStep, ho]
      | _ => exact ho
    · rcases List.mem_cons.mp hd with rfl | hd
      · left
        simp [owedStep, ha]
      · refine .inr ⟨?_, d, hd⟩
        exact owedFold_accepted (u := [e])
          (fun c s l h => hu c s l (List.mem_singleton.mp h ▸ List.mem_cons_self)) ha

theorem Kept.flagsCarried {t : List Ev} (h : Kept t) : FlagsCarried t := by
  rintro t₁ t₂ stbc ldpc rfl hno ⟨u, v, d, rfl, hd⟩
  have howed : owed (t₁ ++ .reconciled true stbc ldpc :: (u ++ .accepted d :: v)) =
      v.foldl owedStep (owedStep (u.foldl owedStep { changed := true }) (.accepted d)) := by
    simp [owed, owedStep, List.foldl_append]
  have hu : ∀ c s l, Ev.reconciled c s l ∉ u := fun c s l hm =>
    hno c s l (List.mem_append_left _ hm)
  have hv : ∀ c s l, Ev.reconciled c s l ∉ v := fun c s l hm =>
    hno c s l (List.mem_append_right _ (List.mem_cons_of_mem _ hm))
  have htaken : taken (t₁ ++ .reconciled true stbc ldpc :: (u ++ .accepted d :: v)) =
      some (stbc, ldpc) := by
    have hsplit : t₁ ++ .reconciled true stbc ldpc :: (u ++ .accepted d :: v) =
        (t₁ ++ [.reconciled true stbc ldpc]) ++ (u ++ .accepted d :: v) := by simp
    rw [hsplit, taken, lastObs_append_of_none, lastObs_concat]
    · rfl
    · intro e he
      cases e with
      | reconciled c s l => exact absurd he (hno c s l)
      | _ => rfl
  obtain ⟨w, s, l, hw, ht, hf⟩ := h
    (by rw [howed, owedFold_changed hv]; exact owedFold_changed hu)
    (by rw [howed]; exact owedFold_applied hv (.inr ⟨rfl, d, hd⟩))
  rw [htaken, Option.some.injEq, Prod.mk.injEq] at ht
  obtain ⟨rfl, rfl⟩ := ht
  exact ⟨w, hw, hf⟩

end Link

/-! ## Commands carry the flags in force -/

/-- Neither a reconcile nor a decision being accepted or done; and if a radio word, then with the
flags of `cfg`. -/
def Plain (cfg : DlRuntimeConfig) : Ev → Prop
  | .reconciled _ _ _ | .accepted _ | .done _ => False
  | .cmd _ (.setRadio w) _ => w.HasFlags cfg.stbc cfg.ldpc
  | _ => True

section Plain

variable {cfg : DlRuntimeConfig} {t p : List Ev}

theorem radioWord_hasFlags (cfg : DlRuntimeConfig) (bw mcs : ℕ) :
    (radioWord cfg bw mcs).HasFlags cfg.stbc cfg.ldpc := ⟨rfl, rfl⟩

theorem IsTxCmd.plain {b : Branch} {d : Decision} : ∀ e, IsTxCmd b cfg d e → Plain cfg e
  | .cmd _ (.setRadio _) _, h => by rw [h.2]; exact radioWord_hasFlags cfg _ _
  | .cmd _ (.setFec _ _) _, _ | .cmd _ (.probeRadio _) _, _ | .cmd _ (.iwFixed _ _) _, _
  | .cmd _ (.iwAuto _) _, _ => trivial

theorem IsEncCmd.plain {b : Branch} {r : ℕ} : ∀ e, IsEncCmd b r e → Plain cfg e
  | .cmd _ (.encSet _) _, _ => trivial

theorem Plain.radio? {w : RadioWord} :
    ∀ e, Plain cfg e → e.radio? = some w → w.HasFlags cfg.stbc cfg.ldpc
  | .cmd _ (.setRadio _) true, h, rfl => h

theorem Plain.flags? : ∀ e, Plain cfg e → e.flags? = none
  | .cmd _ (.setRadio _) _, _ | .cmd _ (.setFec _ _) _, _ | .cmd _ (.probeRadio _) _, _
  | .cmd _ (.iwFixed _ _) _, _ | .cmd _ (.iwAuto _) _, _ | .cmd _ (.encSet _) _, _
  | .armed _, _ | .disarmed, _ | .expired, _ | .phase2 _, _ | .tripped, _ => rfl

theorem owed_plain (h : Grows (Plain cfg) t p) : owed p = owed t := by
  obtain ⟨u, rfl, hu⟩ := h
  induction u using List.reverseRecOn with
  | nil => rw [List.append_nil]
  | append_singleton u e ih =>
    rw [← List.append_assoc, owed_concat, ih fun e' he' => hu e' (List.mem_append_left _ he')]
    have he : Plain cfg e := hu e (by simp)
    cases e with
    | reconciled | accepted | done => exact False.elim he
    | _ => rfl

theorem taken_plain (h : Grows (Plain cfg) t p) : taken p = taken t :=
  h.lastObs_eq Plain.flags?

theorem pushedRadio_plain (h : Grows (Plain cfg) t p) :
    pushedRadio p = pushedRadio t ∨
      ∃ w : RadioWord, w.HasFlags cfg.stbc cfg.ldpc ∧ pushedRadio p = some w :=
  h.lastObs_cases fun e _ => Plain.radio? e

theorem pushedRadio_isSome (h : Grows (Plain cfg) t p) (ht : (pushedRadio t).isSome) :
    (pushedRadio p).isSome := by
  rcases pushedRadio_plain h with hp | ⟨w, -, hp⟩
  · rwa [hp]
  · rw [hp]; rfl

theorem carries_plain (h : Grows (Plain cfg) t p) (htk : taken t = some (cfg.stbc, cfg.ldpc))
    (hc : Carries t) : Carries p := by
  obtain ⟨w, s, l, hw, hs, hf⟩ := hc
  rcases pushedRadio_plain h with hp | ⟨w', hf', hp⟩
  · exact ⟨w, s, l, hp.trans hw, (taken_plain h).trans hs, hf⟩
  · exact ⟨w', _, _, hp, (taken_plain h).trans htk, hf'⟩

end Plain

/-! ## The invariant -/

structure FlagInv (s : Loop) : Prop where
  points : Throughout Kept s.trace
  taken : (owed s.trace).changed = true → taken s.trace = some (s.cfg.stbc, s.cfg.ldpc)
  base : s.tx.lastTx.magic = kWireMagic → (pushedRadio s.trace).isSome
  up : s.applyState = .upGap → (pushedRadio s.trace).isSome

/-- The radio word pushed last does not carry the flags in force. -/
def Stale (s : Loop) : Prop :=
  ∃ w, pushedRadio s.trace = some w ∧ ¬ w.HasFlags s.cfg.stbc s.cfg.ldpc

instance (s : Loop) : Decidable (Stale s) :=
  inferInstanceAs (Decidable (∃ w ∈ pushedRadio s.trace, ¬ w.HasFlags s.cfg.stbc s.cfg.ldpc))

section Invariant

variable {s s' : Loop}

theorem FlagInv.plain (h : FlagInv s) (hcfg : s'.cfg = s.cfg)
    (hg : Grows (Plain s.cfg) s.trace s'.trace)
    (hbase : s'.tx.lastTx.magic = kWireMagic → (pushedRadio s'.trace).isSome)
    (hup : s'.applyState = .upGap → (pushedRadio s'.trace).isSome) : FlagInv s' where
  points := h.points.grows hg fun q hq hch hap => by
    rw [owed_plain hq] at hch hap
    exact carries_plain hq (h.taken hch) (h.points.last hch hap)
  taken hch := by
    rw [owed_plain hg] at hch
    rw [taken_plain hg, hcfg]
    exact h.taken hch
  base := hbase
  up := hup

theorem FlagInv.same (h : FlagInv s) (hcfg : s'.cfg = s.cfg)
    (hg : Grows (Plain s.cfg) s.trace s'.trace) (htx : s'.tx.lastTx = s.tx.lastTx)
    (hst : s'.applyState = s.applyState ∨ s'.applyState ≠ .upGap) : FlagInv s' := by
  refine h.plain hcfg hg (fun hm => pushedRadio_isSome hg (h.base (htx ▸ hm))) fun hu => ?_
  rcases hst with hst | hst
  · exact pushedRadio_isSome hg (h.up (hst ▸ hu))
  · exact absurd hu hst

theorem carries_of_not_stale (h : FlagInv s) (hch : (owed s.trace).changed = true)
    (hr : (pushedRadio s.trace).isSome) (hns : ¬ Stale s) : Carries s.trace := by
  obtain ⟨w, hw⟩ := Option.isSome_iff_exists.mp hr
  have hf : w.HasFlags s.cfg.stbc s.cfg.ldpc := by
    by_contra hf
    exact hns ⟨w, hw, hf⟩
  exact ⟨w, _, _, hw, h.taken hch, hf⟩

theorem FlagInv.done (h : FlagInv s) (d : Decision)
    (hc : (owed s.trace).changed = true → (owed s.trace).accepted = true → Carries s.trace) :
    FlagInv (s.emit (.done d)) := by
  have hkeep : Carries s.trace → Carries (s.trace ++ [.done d]) := by
    rintro ⟨w, s', l, hw, ht, hf⟩
    exact ⟨w, s', l, (lastObs_concat _ _ _).trans hw, (taken_concat _ _).trans ht, hf⟩
  have hrad : pushedRadio (s.trace ++ [.done d]) = pushedRadio s.trace := lastObs_concat _ _ _
  refine ⟨(throughout_concat _ _).mpr ⟨h.points, fun hch hap => hkeep ?_⟩, fun hch => ?_,
    fun hm => ?_, fun hu => ?_⟩
  · rw [owed_concat] at hch hap
    rcases Bool.or_eq_true _ _ ▸ hap with hap | hacc
    · exact h.points.last hch hap
    · exact hc hch hacc
  · exact (taken_concat _ _).trans (h.taken (by simpa [Loop.emit, owedStep] using hch))
  · exact hrad ▸ h.base hm
  · exact hrad ▸ h.up hu

theorem FlagInv.accepted (h : FlagInv s) (d : Decision) : FlagInv (s.emit (.accepted d)) := by
  have hrad : pushedRadio (s.trace ++ [.accepted d]) = pushedRadio s.trace := lastObs_concat _ _ _
  have htk : DynLink.taken (s.trace ++ [.accepted d]) = DynLink.taken s.trace := taken_concat _ _
  refine ⟨(throughout_concat _ _).mpr ⟨h.points, fun hch hap => ?_⟩, fun hch => ?_,
    fun hm => hrad ▸ h.base hm, fun hu => hrad ▸ h.up hu⟩
  · rw [owed_concat] at hch hap
    obtain ⟨w, s', l, hw, ht, hf⟩ := h.points.last hch hap
    exact ⟨w, s', l, hrad.trans hw, htk.trans ht, hf⟩
  · exact htk.trans (h.taken (by simpa [Loop.emit, owedStep] using hch))

end Invariant

/-! ## Branches -/

/-- The step completes a decision accepted after a flag change, over a stale radio word and without
sending a new one: a single shot or phase 2 of a downward decision whose diff skips the radio, or
phase 2 of an upward decision. -/
def Drops (s : Loop) : Input → Prop
  | .listen (some (bytes, _)) => ∃ w, s.accepts bytes = some w ∧ ¬ Staggers s.cfg s w ∧
      (owed s.trace).changed = true ∧ Stale s ∧ ¬ s.tx.wantsRadio (Loop.derive s.cfg w) = true
  | .gap true => (owed s.trace).changed = true ∧ (owed s.trace).accepted = true ∧ Stale s ∧
      (s.applyState = .upGap ∨
        (s.applyState = .downGap ∧ ¬ s.tx.wantsRadio s.applyPending = true))
  | _ => False

instance (s : Loop) : ∀ i, Decidable (Drops s i)
  | .listen (some (bytes, _)) => inferInstanceAs (Decidable (∃ w ∈ s.accepts bytes,
      ¬ Staggers s.cfg s w ∧ (owed s.trace).changed = true ∧ Stale s ∧
        ¬ s.tx.wantsRadio (Loop.derive s.cfg w) = true))
  | .gap true => inferInstanceAs (Decidable (_ ∧ _ ∧ _ ∧ (_ ∨ (_ ∧ _))))
  | .gap false | .listen none | .expire _ | .event _ | .tick _ => .isFalse id

section Branches

variable {s : Loop}

theorem FlagInv.expire (h : FlagInv s) (now : Bool) : FlagInv (s.expire now) := by
  unfold Loop.expire
  split_ifs
  · exact h.same rfl (Grows.concat trivial) rfl (.inl rfl)
  · exact h

theorem FlagInv.dropPending (h : FlagInv s) : FlagInv s.dropPending := by
  unfold Loop.dropPending
  split_ifs
  · exact h
  · exact h.same rfl (Grows.concat trivial) rfl (.inr (by simp))
  · exact h.same rfl (Grows.refl _) rfl (.inr (by simp))

theorem FlagInv.reconcile (h : FlagInv s) (snap : DlRuntimeConfig) :
    FlagInv (s.reconcile allOk snap) := by
  set c : Bool := decide (snap.stbc ≠ s.cfg.stbc) || decide (snap.ldpc ≠ s.cfg.ldpc)
  set s₁ : Loop := Loop.emit (.reconciled c snap.stbc snap.ldpc)
    { s with
      watchdog := s.watchdog.setTimeout snap.healthTimeoutMs
      tickMs := computeTickMs s.osdUpdateIntervalMs snap
      enc := { s.enc with roi := snap.roiQp }
      cfg := snap } with hs₁
  have hrad : pushedRadio s₁.trace = pushedRadio s.trace := lastObs_concat _ _ _
  have h₁ : FlagInv s₁ := by
    refine ⟨(throughout_concat _ _).mpr ⟨h.points, fun _ hap => ?_⟩, fun _ => ?_,
      fun hm => hrad ▸ h.base hm, fun hu => hrad ▸ h.up hu⟩
    · rw [owed_concat] at hap
      cases hap
    · exact taken_concat _ _
  show FlagInv (if (c && decide (s.tx.lastTx.magic = kWireMagic) &&
    decide (s.applyState = .idle)) = true then _ else s₁)
  split_ifs
  · exact h₁.same rfl (Grows.concat (radioWord_hasFlags snap _ _)) rfl (.inl rfl)
  · exact h₁

theorem FlagInv.eventBranch (h : FlagInv s) : ∀ w, FlagInv (s.eventBranch allOk w)
  | none => h
  | some .stop => ⟨h.points, h.taken, h.base, h.up⟩
  | some (.config snap) => h.reconcile snap

/-- The TX is brought to `d`: afterwards there is a radio word, and if it is stale it was so before
and the diff skipped it. -/
theorem FlagInv.dispatch (h : FlagInv s) (b : Branch) (d : Decision) :
    FlagInv (s.onTx (dispatchTxApply allOk b s.cfg d)) ∧
      (pushedRadio (s.onTx (dispatchTxApply allOk b s.cfg d)).trace).isSome ∧
      (Stale (s.onTx (dispatchTxApply allOk b s.cfg d)) →
        Stale s ∧ ¬ s.tx.wantsRadio d = true) := by
  have hg := (dispatchTxApply_grows allOk b s.cfg d ⟨s.tx, s.trace⟩).mono
    fun e he => (IsTxCmd.plain e he : Plain s.cfg e)
  have hr := pushedRadio_dispatchTxApply b s.cfg d ⟨s.tx, s.trace⟩
  have hsome : (pushedRadio (s.onTx (dispatchTxApply allOk b s.cfg d)).trace).isSome := by
    by_cases hw : s.tx.wantsRadio d = true
    · rw [if_pos hw] at hr
      exact hr ▸ rfl
    · exact pushedRadio_isSome hg (h.base (wantsRadio_eq_false hw).1)
  refine ⟨h.plain rfl hg (fun _ => hsome) fun _ => hsome, hsome, ?_⟩
  rintro ⟨w, hw, hf⟩
  by_cases hwant : s.tx.wantsRadio d = true
  · rw [if_pos hwant] at hr
    have hword : w = radioWord s.cfg d.bandwidth d.mcs := Option.some.inj (hw.symm.trans hr)
    exact absurd (hword ▸ radioWord_hasFlags s.cfg _ _) hf
  · rw [if_neg hwant] at hr
    exact ⟨⟨w, hr.symm.trans hw, hf⟩, hwant⟩

theorem FlagInv.encode (h : FlagInv s) (b : Branch) (r fps : ℕ) :
    FlagInv (s.onEnc (EncoderClient.apply allOk b r fps)) :=
  h.same rfl ((encApply_grows allOk b r fps _).mono IsEncCmd.plain) rfl (.inl rfl)

theorem FlagInv.frame (h : FlagInv s) (w : Watchdog) (f : Dedup) (ms : ℕ) (st : DlStatus)
    (e p : Decision) (g : GapTimer) :
    FlagInv { s with
      watchdog := w, dedup := f, lastDecisionMs := ms, status := st, lastEnc := e,
      applyPending := p, timer := g } :=
  ⟨h.points, h.taken, h.base, h.up⟩

theorem FlagInv.singleShot (h : FlagInv s) (d : Decision)
    (hno : ¬ ((owed s.trace).changed = true ∧ Stale s ∧ ¬ s.tx.wantsRadio d = true)) :
    FlagInv (s.singleShot allOk d) := by
  obtain ⟨h₁, hsome, hstale⟩ := h.dispatch .decision d
  set s₁ := s.onTx (dispatchTxApply allOk .decision s.cfg d)
  have h₂ := h₁.encode .decision d.bitrateKbps d.fps
  have hg : Grows (Plain s.cfg) s.trace s₁.trace :=
    (dispatchTxApply_grows allOk .decision s.cfg d ⟨s.tx, s.trace⟩).mono IsTxCmd.plain
  have hge : Grows (Plain s₁.cfg) s₁.trace
      (s₁.onEnc (EncoderClient.apply allOk .decision d.bitrateKbps d.fps)).trace :=
    (encApply_grows allOk .decision d.bitrateKbps d.fps ⟨s₁.enc, s₁.trace⟩).mono IsEncCmd.plain
  refine (h₂.frame _ _ _ _ d _ _).done d fun hch _ => ?_
  have hch₁ : (owed s₁.trace).changed = true := owed_plain hge ▸ hch
  refine carries_plain hge (h₁.taken hch₁) (carries_of_not_stale h₁ hch₁ hsome fun hst => ?_)
  exact hno ⟨owed_plain hg ▸ hch₁, hstale hst⟩

theorem FlagInv.raiseTx (h : FlagInv s) (d : Decision) : FlagInv (s.raiseTx allOk d) := by
  obtain ⟨h₁, hsome, -⟩ := h.dispatch .decision d
  have hg : Grows (Plain s.cfg) (s.onTx (dispatchTxApply allOk .decision s.cfg d)).trace
      (s.raiseTx allOk d).trace := Grows.concat trivial
  have hsome' := pushedRadio_isSome hg hsome
  exact h₁.plain rfl hg (fun _ => hsome') fun _ => hsome'

theorem FlagInv.throttleEnc (h : FlagInv s) (d : Decision) : FlagInv (s.throttleEnc allOk d) :=
  (h.encode .decision d.bitrateKbps d.fps).same rfl (Grows.concat trivial) rfl (.inr (by
    simp [Loop.throttleEnc, Loop.armGap]))

theorem FlagInv.applyDecision (h : FlagInv s) (d : Decision)
    (hno : ¬ (s.canStagger = true ∧ s.direction d ≠ .equal) →
      ¬ ((owed s.trace).changed = true ∧ Stale s ∧ ¬ s.tx.wantsRadio d = true)) :
    FlagInv (s.applyDecision allOk d) := by
  unfold Loop.applyDecision
  split_ifs with hcan
  · split
    · next hd => exact h.singleShot d (hno fun hh => hh.2 hd)
    · exact h.raiseTx d
    · exact h.throttleEnc d
  · exact h.singleShot d (hno fun hh => hcan hh.1)

theorem dropPending_tx (s : Loop) :
    s.dropPending.tx = s.tx ∧ pushedRadio s.dropPending.trace = pushedRadio s.trace ∧
      owed s.dropPending.trace = owed s.trace := by
  unfold Loop.dropPending
  split_ifs
  · exact ⟨rfl, rfl, rfl⟩
  · exact ⟨rfl, lastObs_concat _ _ _, owed_concat _ _⟩
  · exact ⟨rfl, rfl, rfl⟩

theorem FlagInv.listenBranch (h : FlagInv s) :
    ∀ msg, ¬ Drops s (.listen msg) → FlagInv (s.listenBranch allOk msg)
  | none, _ => h
  | some (bytes, now), hno => by
    unfold Loop.listenBranch
    dsimp only
    split
    · exact h
    · next w ha =>
      set s₀ : Loop := { s with dedup := s.dedup.check w.sequence }
      obtain ⟨-, hcfg, hfd, henc, -⟩ := Loop.dropPending_frame s₀
      obtain ⟨htx, hrad, howed⟩ := dropPending_tx s₀
      set d := Loop.derive s₀.dropPending.cfg w with hd
      have hrad' : pushedRadio (s₀.dropPending.emit (.accepted d)).trace = pushedRadio s.trace :=
        (lastObs_concat _ _ _).trans hrad
      have h₀ : FlagInv s₀ := h.frame _ _ _ _ _ _ _
      have h₂ := h₀.dropPending.accepted d
      refine (h₂.applyDecision d fun hns => ?_).frame _ _ _ _ _ _ _
      rintro ⟨hch, ⟨v, hv, hf⟩, hwant⟩
      refine hno ⟨w, ha, fun hst => hns ?_, ?_, ⟨v, hrad'.symm.trans hv, ?_⟩, ?_⟩
      · obtain ⟨h1, h2, h3⟩ := hst
        refine ⟨?_, ?_⟩
        · simp only [Loop.canStagger, Loop.emit, Bool.and_eq_true]
          exact ⟨hcfg ▸ decide_eq_true h1, hfd ▸ h2⟩
        · show applyDirection s₀.dropPending.lastEnc.bitrateKbps d.bitrateKbps
            (s₀.dropPending.lastEnc.magic ≠ kWireMagic) ≠ .equal
          rw [henc, hd, hcfg]
          exact h3
      · rw [← howed]
        simpa [Loop.emit, owedStep] using hch
      · exact hcfg ▸ hf
      · rw [← hcfg, ← htx]
        exact hwant

theorem FlagInv.trip (h : FlagInv s) : FlagInv (s.trip allOk) := by
  have h₁ := h.dropPending
  set s₁ := s.dropPending with hs₁
  have hidle : s₁.applyState = .idle := (Loop.dropPending_frame s).1
  have g₁ := (dispatchTxSafe_grows allOk .tick s₁.cfg ⟨s₁.tx, s₁.trace⟩).mono
    fun e he => (IsTxCmd.plain e he : Plain s₁.cfg e)
  have g₂ := (encApplySafe_grows allOk .tick (safeDecision s₁.cfg).bitrateKbps
    ⟨s₁.enc, (dispatchTxSafe allOk .tick s₁.cfg ⟨s₁.tx, s₁.trace⟩).trace⟩).mono
    fun e he => (IsEncCmd.plain e he : Plain s₁.cfg e)
  have g₃ : Plain s₁.cfg .tripped := trivial
  refine h₁.plain rfl ((g₁.trans g₂).trans (Grows.concat g₃)) (fun hm => ?_) fun hu => ?_
  · exact absurd hm magic_default
  · exact absurd (hidle.symm.trans hu) (by decide)

theorem FlagInv.tickBranch (h : FlagInv s) : ∀ tick, FlagInv (s.tickBranch allOk tick)
  | none => h
  | some now => by
    have h₁ : FlagInv { s with watchdog := s.watchdog.tick now } := h.frame _ _ _ _ _ _ _
    unfold Loop.tickBranch
    dsimp only
    by_cases hf : s.watchdog.fires now = true
    · rw [if_pos hf]
      split_ifs
      · exact h₁.trip.frame _ _ _ _ _ _ _
      · exact h₁.trip
    · rw [if_neg hf]
      split_ifs
      · exact h₁.frame _ _ _ _ _ _ _
      · exact h₁

theorem FlagInv.gapBranch (h : FlagInv s) (ready : Bool) (hno : ¬ Drops s (.gap ready)) :
    FlagInv (s.gapBranch allOk ready) := by
  unfold Loop.gapBranch
  split_ifs with hr
  · subst hr
    have h₁ : FlagInv (Loop.emit (.phase2 s.applyPending)
        { s with timer := { s.timer with expired := false } }) :=
      h.same rfl (Grows.concat trivial) rfl (.inl rfl)
    have hrad : pushedRadio (s.trace ++ [.phase2 s.applyPending]) = pushedRadio s.trace :=
      lastObs_concat _ _ _
    set s₁ := Loop.emit (.phase2 s.applyPending)
      { s with timer := { s.timer with expired := false } } with hs₁
    have howed : owed s₁.trace = owed s.trace := owed_concat _ _
    have hstale : Stale s₁ → Stale s := fun ⟨w, hw, hf⟩ => ⟨w, hrad.symm.trans hw, hf⟩
    dsimp only
    split
    · exact h.frame _ _ _ _ _ _ _
    · next hs =>
      -- phase 2 upward sends no radio word
      have hge : Grows (Plain s₁.cfg) s₁.trace (s₁.onEnc (EncoderClient.apply allOk .gap
          s.applyPending.bitrateKbps s.applyPending.fps)).trace :=
        (encApply_grows allOk .gap _ _ ⟨s₁.enc, s₁.trace⟩).mono IsEncCmd.plain
      have h₂ := h₁.encode .gap s.applyPending.bitrateKbps s.applyPending.fps
      have h₃ : FlagInv { s₁.onEnc (EncoderClient.apply allOk .gap
          s.applyPending.bitrateKbps s.applyPending.fps) with
            lastEnc := s.applyPending, applyState := .idle } :=
        h₂.same rfl (Grows.refl _) rfl (.inr (by simp))
      refine h₃.done s.applyPending fun hch hacc => ?_
      have hch₁ : (owed s₁.trace).changed = true := owed_plain hge ▸ hch
      refine carries_plain hge (h₁.taken hch₁)
        (carries_of_not_stale h₁ hch₁ (h₁.up hs) fun hst => ?_)
      refine hno ⟨howed ▸ hch₁, ?_, hstale hst, .inl hs⟩
      rw [← howed, ← owed_plain hge]
      exact hacc
    · next hs =>
      obtain ⟨h₂, hsome, hst₂⟩ := h₁.dispatch .gap s.applyPending
      have hg : Grows (Plain s₁.cfg) s₁.trace
          (s₁.onTx (dispatchTxApply allOk .gap s₁.cfg s.applyPending)).trace :=
        (dispatchTxApply_grows allOk .gap s₁.cfg _ ⟨s₁.tx, s₁.trace⟩).mono IsTxCmd.plain
      have h₃ : FlagInv { s₁.onTx (dispatchTxApply allOk .gap s₁.cfg s.applyPending) with
          applyState := .idle } :=
        h₂.same rfl (Grows.refl _) rfl (.inr (by simp))
      refine h₃.done s.applyPending fun hch hacc => ?_
      suffices hns : ¬ Stale (s₁.onTx (dispatchTxApply allOk .gap s₁.cfg s.applyPending)) from
        carries_of_not_stale (s := s₁.onTx (dispatchTxApply allOk .gap s₁.cfg s.applyPending))
          h₂ hch hsome hns
      intro hst
      obtain ⟨hst₁, hwant⟩ := hst₂ hst
      refine hno ⟨?_, ?_, hstale hst₁, .inr ⟨hs, hwant⟩⟩
      · rw [← howed, ← owed_plain hg]
        exact hch
      · rw [← howed, ← owed_plain hg]
        exact hacc
  · exact h

theorem FlagInv.input (h : FlagInv s) : ∀ i, ¬ Drops s i → FlagInv (s.input allOk i)
  | .expire now, _ => h.expire now
  | .event w, _ => h.eventBranch w
  | .listen msg, hno => h.listenBranch msg hno
  | .tick now, _ => h.tickBranch now
  | .gap ready, hno => h.gapBranch ready hno

end Branches

theorem FlagInv.start (snap : DlRuntimeConfig) (gapFd : Bool) : FlagInv (Loop.start snap gapFd) where
  points := throughout_nil.mpr nofun
  taken := nofun
  base hm := absurd hm magic_default
  up := nofun

/-- **Flag changes reach the radio** in every run, with all commands succeeding, none of whose branch
steps completes a decision over a stale radio word without restating it. -/
theorem flags_carried_of_no_drop (snap : DlRuntimeConfig) (gapFd : Bool) (rs : List Round)
    (h : Meets (Loop.input allOk) (fun s i => ¬ Drops s i) (Loop.start snap gapFd)
      (runInputs allOk (Loop.start snap gapFd) rs)) :
    Throughout FlagsCarried (run allOk (Loop.start snap gapFd) rs).trace := by
  rw [run_eq_inputs]
  have hinv := h.invariant (fun _ i hs hi => hs.input i hi) _ _ (FlagInv.start snap gapFd)
  exact fun p hp => (hinv.points p hp).flagsCarried

def noLdpc : DlRuntimeConfig := buildDlSnapshot { link := { ldpc := false } } "wlan0"

def idleFlip : List Round :=
  [Round.frame 1 2 1000, { event := some (.config noLdpc) }, Round.frame 2 2 1300]

theorem flags_carried_of_no_drop_sample :
    (owed (run allOk (Loop.start (buildDlSnapshot {} "wlan0") true) idleFlip).trace).applied =
        true ∧
      Throughout FlagsCarried
        (run allOk (Loop.start (buildDlSnapshot {} "wlan0") true) idleFlip).trace :=
  ⟨by decide +kernel, flags_carried_of_no_drop _ true idleFlip (by decide +kernel)⟩

def gapFlip : List Round :=
  [Round.frame 1 2 1000, Round.frame 2 4 1100, { event := some (.config noLdpc) },
    { expirePoll := true }, Round.frame 3 4 1300]

def gapFlipTrace : List Ev := (run allOk (Loop.start (buildDlSnapshot {} "wlan0") true) gapFlip).trace

/-- **A flag change in the gap is lost.**  The decision after it is completely applied, and the last
`CMD_SET_RADIO` still carries the old `ldpc`. -/
theorem flags_lost_in_gap : ¬ Throughout FlagsCarried gapFlipTrace := by
  intro h
  have hsplit : gapFlipTrace =
      gapFlipTrace.take 10 ++ .reconciled true true false :: gapFlipTrace.drop 11 := by
    decide +kernel
  have hno : ∀ c s l, Ev.reconciled c s l ∉ gapFlipTrace.drop 11 := by decide +kernel
  have hdone : gapFlipTrace.drop 11 = (gapFlipTrace.drop 11).take 4 ++
      .accepted (Loop.derive noLdpc { magic := kWireMagic, version := 3, sequence := 3, mcs := 4 }) ::
      [.done (Loop.derive noLdpc { magic := kWireMagic, version := 3, sequence := 3, mcs := 4 })] := by
    decide +kernel
  obtain ⟨w, hw, hf⟩ := h.last _ _ _ _ hsplit hno ⟨_, _, _, hdone, List.mem_singleton.mpr rfl⟩
  have hlast : (pushedRadio gapFlipTrace).map (·.ldpc) = some true := by decide +kernel
  rw [hw] at hlast
  exact absurd ((Option.some.inj hlast).symm.trans hf.2) (by decide)

end Fpvd.DynLink
