import Fpvd.Gs.Steady

/-!
# Fpvd.Gs.Explore — exploration as one-shot tuition

A cold rung may be explored; its first failure plants the knee, after which the rung should be open to
a snap-back or over its knee only.  The knee is planted and stays, but one failure is one sample: until
the knee has `min_samples` of them the rung still counts as cold, and is explored again
(`explores_again`).
-/

namespace Fpvd.Gs

namespace Policy

/-- A policy, the rungs it has explored, and those of them that failed later. -/
structure Watch where
  policy : Policy
  explored : List ℤ := []
  failed : List ℤ := []
  deriving DecidableEq

def explores (cfg : PolicyConfig) (p : Policy) : Call → Option ℤ
  | .tick sig =>
    if .explorePromote ∈ (p.tick cfg sig).2.reasons then some (p.tick cfg sig).2.mcs else none
  | _ => none

/-- The rung that a call teaches a failure of: a loss demote classified as fade or flap. -/
def teaches (cfg : PolicyConfig) (p : Policy) : Call → Option ℤ
  | .tick sig => (p.tick cfg sig).1.leading.lastFail.map Failure.rung
  | .lossEvent sig =>
    match p.lossEvent cfg sig with
    | (p', some _) => p'.leading.lastFail.map Failure.rung
    | (_, none) => none
  | .resetForNewSession => none

namespace Watch

def step (cfg : PolicyConfig) (w : Watch) (c : Call) : Watch where
  policy := w.policy.call cfg c
  explored := (explores cfg w.policy c).toList ++ w.explored
  failed := ((teaches cfg w.policy c).filter (· ∈ w.explored)).toList ++ w.failed

/-- The dwell below a failed rung completes, and its knee has too few samples to count. -/
def reopens (cfg : PolicyConfig) (w : Watch) : Call → Bool
  | .tick _ =>
    w.policy.rung + 1 ∈ w.failed ∧
      cfg.selector.promoteDwellTicks ≤ w.policy.leading.cleanDwell + 1 ∧
      w.policy.learnedPrior.countAt (w.policy.rung + 1).toNat < cfg.learnedPrior.minSamples
  | _ => false

end Watch

/-- A promote over a confident knee, with the promote margin to spare. -/
def OverKnee (cfg : PolicyConfig) (p : Policy) (sig : Signals) (r : ℤ) : Prop :=
  ∃ snr k, sig.snr = some snr ∧
    (p.learnedPrior.effKnees cfg.learnedPrior).getD r.toNat none = some k ∧
    k + cfg.selector.snrPromoteMarginDb ≤ snr

section Run

variable {cfg : PolicyConfig} {sig : Signals} {p : Policy} {w : Watch}

def Planted (rs : List ℤ) (p : Policy) : Prop :=
  ∀ r ∈ rs, (p.learnedPrior.kneeAt r.toNat).isSome = true

theorem ingest_kneeAt (hcfg : SchemaValid cfg) {K : ℕ}
    (h : (p.learnedPrior.kneeAt K).isSome = true) :
    ((ingest cfg sig p).learnedPrior.kneeAt K).isSome = true := by
  rcases ingest_prior sig hcfg.settleTicks p with heq | ⟨snr, -, -, -, -, heq⟩
  · rwa [heq]
  · rw [heq]
    exact KneeModel.observe_isSome K h

theorem teach_kneeAt {K : ℕ} (h : (p.learnedPrior.kneeAt K).isSome = true) :
    ((teach cfg p).learnedPrior.kneeAt K).isSome = true := by
  unfold teach
  split
  · exact h
  · exact KneeModel.observe_isSome K h

theorem teach_plants {f : Failure} (hf : p.leading.lastFail = some f) (h0 : 0 ≤ f.rung)
    (h7 : f.rung ≤ maxMcs) : ((teach cfg p).learnedPrior.kneeAt f.rung.toNat).isSome = true := by
  unfold teach
  rw [hf]
  exact KneeModel.observe_plants h0 h7

theorem select_lastFail {s : LeadingSelector} {c : SelectorConfig} {i : SelectInput} {f : Failure}
    (h : (s.select c i).lastFail = some f) : f.rung = s.currentMcs := by
  cases LeadingSelector.select_outcome c i s with
  | held mcs fail why =>
    rw [fail] at h
    cases h
  | demoted w why reactive hem hcan mcs fail => exact fail f h
  | promoted snr w why route hem hsnr mcs hcap rate fail =>
    rw [fail] at h
    cases h

theorem call_kneeAt (hcfg : SchemaValid cfg) {K : ℕ} (c : Call)
    (h : (p.learnedPrior.kneeAt K).isSome = true) :
    ((p.call cfg c).learnedPrior.kneeAt K).isSome = true := by
  cases c with
  | tick sig =>
    show ((p.tick cfg sig).1.learnedPrior.kneeAt K).isSome = true
    rw [tick_fst]
    refine ingest_kneeAt hcfg (teach_kneeAt ?_)
    rwa [(selected_books cfg sig p).1]
  | lossEvent sig =>
    show ((p.lossEvent cfg sig).1.learnedPrior.kneeAt K).isSome = true
    rcases lossEvent_cases cfg sig p with he | ⟨-, p', rfl, ⟨-, he⟩ | ⟨-, he⟩⟩
    · rwa [he]
    · rwa [he]
    · rw [he]
      exact teach_kneeAt h
  | resetForNewSession => exact h

theorem teaches_plants (hcfg : SchemaValid cfg) (hp : InRange cfg p) {c : Call} {r : ℤ}
    (h : teaches cfg p c = some r) : ((p.call cfg c).learnedPrior.kneeAt r.toNat).isSome = true := by
  have hmax := hcfg.maxMcs.2
  cases c with
  | tick sig =>
    obtain ⟨f, hf, rfl⟩ := Option.map_eq_some_iff.mp h
    obtain ⟨⟨h0, hm⟩, -⟩ := beforeSelect_step hp sig
    have hrung : f.rung = (beforeSelect cfg sig p).rung := by
      rw [tick_leading] at hf
      exact select_lastFail hf
    show ((p.tick cfg sig).1.learnedPrior.kneeAt f.rung.toNat).isSome = true
    rw [tick_fst]
    rw [← selected_leading] at hf
    exact ingest_kneeAt hcfg (teach_plants hf (by omega) (by omega))
  | lossEvent sig =>
    show ((p.lossEvent cfg sig).1.learnedPrior.kneeAt r.toNat).isSome = true
    dsimp only [teaches] at h
    rcases lossEvent_cases cfg sig p with he | ⟨-, p', hp', ⟨-, he⟩ | ⟨-, he⟩⟩
    · rw [he] at h
      cases h
    · rw [he] at h
      cases h
    · rw [he] at h ⊢
      dsimp only at h
      rw [teach_leading] at h
      obtain ⟨f, hf, rfl⟩ := Option.map_eq_some_iff.mp h
      have hrung : f.rung = p.rung := by
        rw [hp'] at hf
        exact select_lastFail hf
      obtain ⟨h0, hm⟩ := hp
      exact teach_plants hf (by omega) (by omega)
  | resetForNewSession => cases h

structure Taught (cfg : PolicyConfig) (w : Watch) : Prop where
  range : InRange cfg w.policy
  planted : Planted w.failed w.policy

theorem Taught.step (hcfg : SchemaValid cfg) (h : Taught cfg w) (c : Call) :
    Taught cfg (w.step cfg c) := by
  refine ⟨call_inRange hcfg.maxMcs.1 c h.range, fun r hr => ?_⟩
  rcases List.mem_append.mp hr with hnew | hold
  · have hteach := (Option.filter_eq_some_iff.mp (Option.mem_toList.mp hnew)).1
    exact teaches_plants hcfg h.range hteach
  · exact call_kneeAt hcfg c (h.planted r hold)

theorem Taught.promotes (hcfg : SchemaValid cfg) (h : Taught cfg w)
    (hclosed : w.reopens cfg (.tick sig) = false) {r : ℤ} (hr : r ∈ w.failed)
    (hinto : (w.policy.tick cfg sig).2.mcs = r) (hrise : w.policy.rung < r) :
    (∃ tgt, (w.policy.tick cfg sig).2.reasons = [.snapbackPromote tgt]) ∨
      (w.policy.tick cfg sig).2.reasons = [.kneePromote] ∧ OverKnee cfg w.policy sig r := by
  have hmcs : (w.policy.tick cfg sig).1.rung = r := by rw [← hinto, tick_decision]
  obtain ⟨hl, hup, -, -, snr, why, hsnr, hwhy, route⟩ := tick_rises h.range (hmcs ▸ hrise)
  have htarget : w.policy.rung + 1 = r := by omega
  have hprior : (beforeSelect cfg sig w.policy).learnedPrior = w.policy.learnedPrior :=
    (beforeSelect_cases cfg sig w.policy).1.learnedPrior
  have hrung : (beforeSelect cfg sig w.policy).rung + 1 = r :=
    (congrArg (fun s => LeadingSelector.currentMcs s + 1) hl).trans htarget
  rw [hwhy]
  cases route with
  | snapback tgt open_ => exact .inl ⟨tgt, rfl⟩
  | knee dwelt sure open_ =>
    refine .inr ⟨rfl, ?_⟩
    unfold tickInput at sure open_
    rw [hprior, hrung] at sure open_
    rw [hsnr] at open_
    obtain ⟨k, hk, hle⟩ := KneeModel.knee_le_of_viable sure open_
    exact ⟨snr, k, hsnr, hk, by linarith⟩
  | explore dwelt cold =>
    -- the knee is there and has its samples: the rung is not cold
    unfold tickInput at cold
    rw [hprior, hrung] at cold
    have hcount : cfg.learnedPrior.minSamples ≤ w.policy.learnedPrior.countAt r.toNat := by
      by_contra hshort
      have hopen : w.reopens cfg (.tick sig) = true := by
        unfold Watch.reopens
        rw [htarget]
        exact decide_eq_true ⟨hr, dwelt, not_le.mp hshort⟩
      rw [hclosed] at hopen
      cases hopen
    have hconf : w.policy.learnedPrior.rungConfident cfg.learnedPrior r = true := by
      have hmax := hcfg.maxMcs.2
      obtain ⟨h0, -⟩ := h.range
      have hcap := (tick_inRange h.range sig).2
      exact (KneeModel.rungConfident_iff _ r).mpr ⟨by omega, by omega, h.planted r hr, hcount⟩
    rw [hconf] at cold
    cases cold

/-- **Explore is one-shot where its failure counts.**  Under a configuration built from a schema-valid
block, in any run of calls from a state that has explored nothing yet, if no tick reopens a failed
rung: a tick that promotes into a rung which was explored and then failed does so by snap-back, or over
its knee with the promote margin to spare. -/
theorem explore_once (py : PyNumbers) (dl : Dict) (cfg : PolicyConfig)
    (hvalid : validateDynamicLink dl = .ok ()) (hbuild : buildPolicyConfig py dl = .ok cfg)
    (p : Policy) (hp : InRange cfg p) (calls : List Call) (sig : Signals)
    (hmeets : Run.Meets (Watch.step cfg) (fun w c => w.reopens cfg c = false) ⟨p, [], []⟩
      (calls ++ [.tick sig])) :
    let w := calls.foldl (Watch.step cfg) ⟨p, [], []⟩
    ∀ r ∈ w.failed, (w.policy.tick cfg sig).2.mcs = r → w.policy.rung < r →
      (∃ tgt, (w.policy.tick cfg sig).2.reasons = [.snapbackPromote tgt]) ∨
        (w.policy.tick cfg sig).2.reasons = [.kneePromote] ∧ OverKnee cfg w.policy sig r := by
  intro w r hr hinto hrise
  have hcfg := schemaValid_of_build hvalid hbuild
  obtain ⟨hrun, hlast⟩ := (Run.meets_append _ calls [.tick sig]).mp hmeets
  have htaught : Taught cfg w :=
    hrun.invariant (I := Taught cfg) (fun w c h _ => h.step hcfg c) calls _ ⟨hp, nofun⟩
  exact htaught.promotes hcfg hlast.1 hr hinto hrise

end Run

/-! ## A rung explored twice -/

def lossyAt20 : Signals := { at20 30 with residualLossW := 1 }

def climbAndFail (snr : ℚ) : List Call :=
  (List.range 30).map (fun n => .tick (at20 n)) ++ [.tick lossyAt20] ++
    (List.range' 31 29).map fun n => .tick { at20 n with snr := some snr, snrW := some snr }

def eagerBlock : Dict := [("learnedPrior", .obj [("minSamples", .real (1 / 2))])]

def eager : PolicyConfig := { learnedPrior := { minSamples := 1 / 2 } }

/-- Where one failure counts, rung 2 is entered again over its knee. -/
theorem explore_once_eager :
    let w := (climbAndFail 24).foldl (Watch.step eager) ⟨boot eager {}, [], []⟩
    let sig := { at20 60 with snr := some 24, snrW := some 24 }
    2 ∈ w.failed ∧ w.policy.rung < 2 ∧ (w.policy.tick eager sig).2.mcs = 2 ∧
      ((∃ tgt, (w.policy.tick eager sig).2.reasons = [.snapbackPromote tgt]) ∨
        (w.policy.tick eager sig).2.reasons = [.kneePromote] ∧ OverKnee eager w.policy sig 2) := by
  intro w sig
  have hfailed : 2 ∈ w.failed := by decide +kernel
  have hbelow : w.policy.rung < 2 := by decide +kernel
  have hinto : (w.policy.tick eager sig).2.mcs = 2 := by decide +kernel
  exact ⟨hfailed, hbelow, hinto, explore_once ⟨fun _ => none, fun _ => none⟩ eagerBlock eager
    (by decide +kernel) rfl (boot eager {}) (by decide +kernel) (climbAndFail 24) sig
    (by decide +kernel) 2 hfailed hinto hbelow⟩

/-- **Explore is not one-shot.**  Under the default block and over an empty prior, rung 2 is explored,
fails in its trial, and is explored again thirty clean windows later: its knee has one sample of
eight. -/
theorem explores_again :
    ¬ ∀ (py : PyNumbers) (dl : Dict) (cfg : PolicyConfig) (p : Policy) (calls : List Call)
      (sig : Signals), validateDynamicLink dl = .ok () → buildPolicyConfig py dl = .ok cfg →
      InRange cfg p →
      let w := calls.foldl (Watch.step cfg) ⟨p, [], []⟩
      ∀ r ∈ w.failed, (w.policy.tick cfg sig).2.mcs = r → w.policy.rung < r →
        (∃ tgt, (w.policy.tick cfg sig).2.reasons = [.snapbackPromote tgt]) ∨
          (w.policy.tick cfg sig).2.reasons = [.kneePromote] ∧ OverKnee cfg w.policy sig r := by
  intro h
  have hwhy : (((climbAndFail 20).foldl (Watch.step {}) ⟨boot {} {}, [], []⟩).policy.tick {}
      (at20 60)).2.reasons = [.explorePromote] := by decide +kernel
  rcases h ⟨fun _ => none, fun _ => none⟩ [] {} (boot {} {}) (climbAndFail 20) (at20 60) rfl rfl
    (by decide +kernel) 2 (by decide +kernel) (by decide +kernel) (by decide +kernel) with
    ⟨tgt, hsnap⟩ | ⟨hknee, -⟩
  · rw [hwhy] at hsnap
    cases hsnap
  · rw [hwhy] at hknee
    cases hknee

end Policy

end Fpvd.Gs
