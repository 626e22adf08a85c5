import Fpvd.Supervise.Seed

/-!
# Fpvd.Supervise.Startable — which accepted configurations can be started

`validate` rejects a `startAfter` cycle inside the services map.  The orchestrator merges the services
into the name space of the built-in processes, which have `startAfter` lists of their own.
-/

namespace Fpvd

open Relation Digraph Orchestrator

def Startable (c : Config) (iface : String) : Prop :=
  (seedOrchestrator c iface).startOrder.isSome ∧
    ∀ p ∈ builtins c iface,
      ((seedOrchestrator c iface).spec? p.name).map SupervisedSpec.argv = some p.argv

def WaitsFor (c : Config) : String → String → Prop := Dep (after c)

/-- The process registered under the name, if any, is not a service. -/
def CodeOwned (c : Config) (n : String) : Prop :=
  enabledService c n = none ∨ (probeAfter c n).isSome

/-- An enabled service with the name of a built-in process has that process's command line. -/
def Restates (c : Config) (iface : String) : Prop :=
  ∀ p ∈ builtins c iface, ∀ s, enabledService c p.name = some s → s.exec :: s.args = p.argv

/-- No process that the code registers waits for one that, directly or not, waits for it. -/
def NoLoop (c : Config) : Prop :=
  ∀ x b, CodeOwned c b → WaitsFor c x b → ¬ TransGen (WaitsFor c) b x

variable {c : Config} {iface : String}

theorem restates_iff : Restates c iface ↔ ∀ p ∈ builtins c iface,
    ((seedOrchestrator c iface).spec? p.name).map SupervisedSpec.argv = some p.argv := by
  refine forall₂_congr fun p hp => ?_
  rw [seed_argv hp]
  cases enabledService c p.name <;> simp

/-! ## Cycles -/

variable {ds : List String} {n : String}

theorem after_of_codeOwned (h : CodeOwned c n) :
    after c n = (probeAfter c n).or (builtinAfter c n) := by
  unfold after
  rcases h with h | h
  · rw [h, Option.map_none, Option.none_or]
  · obtain ⟨ds, hds⟩ := Option.isSome_iff_exists.mp h
    rw [hds, Option.some_or, Option.some_or]

theorem probeAfter_leaves (h : probeAfter c n = some ds) :
    (∀ x ∈ ds, x ∈ leaves) ∧ (n ∈ leaves → ds = []) := by
  unfold probeAfter at h
  split_ifs at h with h1 h2 <;> simp only [Option.some.injEq] at h <;> subst h
  · exact ⟨by simp, fun _ => rfl⟩
  · exact ⟨by simp [leaves], fun hl => absurd hl (by rw [h2.2]; decide)⟩

theorem builtinAfter_leaves (h : builtinAfter c n = some ds) :
    (∀ x ∈ ds, x ∈ leaves) ∧ (n ∈ leaves → ds = []) := by
  have ht : telemetryName c ∉ leaves := by
    rcases telemetrySpecs_cases c with ⟨hn, -⟩ | ⟨hn, -⟩
    · rw [hn]; decide
    · simp only [List.mem_cons, List.not_mem_nil, or_false] at hn
      rcases hn with hn | hn <;> rw [hn] <;> decide
  unfold builtinAfter at h
  split_ifs at h with h1 h2 h3 h4 <;> simp only [Option.some.injEq] at h <;> subst h
  · exact ⟨by simp, fun _ => rfl⟩
  · exact ⟨by simp [leaves], fun hl => absurd hl (by rw [h2]; decide)⟩
  · exact ⟨by simp [leaves], fun hl => absurd hl (by rw [h3]; decide)⟩
  · exact ⟨by simp [leaves], fun hl => absurd hl (by rw [h4.2]; exact ht)⟩

theorem after_leaves (h : CodeOwned c n) (hds : after c n = some ds) :
    (∀ x ∈ ds, x ∈ leaves) ∧ (n ∈ leaves → ds = []) := by
  rw [after_of_codeOwned h, Option.or_eq_some_iff] at hds
  rcases hds with hds | ⟨-, hds⟩
  · exact probeAfter_leaves hds
  · exact builtinAfter_leaves hds

theorem after_of_service (h : ¬ CodeOwned c n) :
    ∃ s, c.services.find? n = some s ∧ after c n = some s.startAfter := by
  unfold CodeOwned at h
  rw [not_or] at h
  obtain ⟨s, hs⟩ := Option.ne_none_iff_exists'.mp h.1
  refine ⟨s, (enabledService_eq_some.mp hs).1, ?_⟩
  unfold after
  rw [Option.not_isSome_iff_eq_none.mp h.2, Option.none_or, hs, Option.map_some, Option.some_or]

/-- A chain of waits passes through a process that the code registers, or it runs inside the
services map (but perhaps for its start). -/
theorem waits_cases {a b : String} (h : TransGen (WaitsFor c) a b) :
    (∃ x y, CodeOwned c y ∧ WaitsFor c x y ∧ ReflTransGen (WaitsFor c) a x ∧
      ReflTransGen (WaitsFor c) y b) ∨
    (¬ CodeOwned c b ∧ (TransGen (Dep (serviceDeps c.services)) a b ∨ CodeOwned c a)) := by
  -- one wait between two services is one of the services map
  have hsvc : ∀ x y, ¬ CodeOwned c x → ¬ CodeOwned c y → WaitsFor c x y →
      Dep (serviceDeps c.services) x y := by
    intro x y hx hy hw
    obtain ⟨s, hs, -⟩ := after_of_service hx
    obtain ⟨t, ht, hat⟩ := after_of_service hy
    obtain ⟨⟨ds, hds, hmem⟩, -⟩ := hw
    rw [hat, Option.some.injEq] at hds
    subst hds
    exact ⟨⟨t.startAfter, by simp [serviceDeps, ht], hmem⟩, by simp [serviceDeps, hs]⟩
  induction h with
  | @single b hab =>
    by_cases hb : CodeOwned c b
    · exact .inl ⟨a, b, hb, hab, .refl, .refl⟩
    · by_cases ha : CodeOwned c a
      · exact .inr ⟨hb, .inr ha⟩
      · exact .inr ⟨hb, .inl (.single (hsvc a b ha hb hab))⟩
  | @tail b d hab hbd ih =>
    rcases ih with ⟨x, y, hy, hxy, hax, hyb⟩ | ⟨hb, ih⟩
    · exact .inl ⟨x, y, hy, hxy, hax, hyb.tail hbd⟩
    · by_cases hd : CodeOwned c d
      · exact .inl ⟨b, d, hd, hbd, hab.to_reflTransGen, .refl⟩
      · exact .inr ⟨hd, ih.imp_left fun h => h.tail (hsvc b d hb hd hbd)⟩

theorem services_cyclic_iff (svcs : OrdMap String Service) :
    hasCycle svcs = true ↔ ∃ n, TransGen (Dep (serviceDeps svcs)) n n := by
  refine hasCycle_iff fun n => ?_
  rw [OrdMap.mem_keys, serviceDeps, Option.isSome_map]

theorem acyclic_of_noLoop (hv : validate c = []) (hl : NoLoop c) (n : String) :
    ¬ TransGen (WaitsFor c) n n := by
  intro hn
  rcases waits_cases hn with ⟨x, y, hy, hxy, hnx, hyn⟩ | ⟨hn', hs | ho⟩
  · -- the code's process `y` waits for `x`, and around the cycle `x` waits for `y`
    have hyx := hyn.trans hnx
    rcases reflTransGen_iff_eq_or_transGen.mp hyx with rfl | hyx
    · obtain ⟨⟨ds, hds, hmem⟩, -⟩ := hxy
      obtain ⟨h1, h2⟩ := after_leaves hy hds
      rw [h2 (h1 x hmem)] at hmem
      exact absurd hmem (by simp)
    · exact hl x y hy hxy hyx
  · exact absurd (validate_hasCycle hv) (by simp [(services_cyclic_iff c.services).mpr ⟨n, hs⟩])
  · exact hn' ho

/-- **Which accepted configurations can be started.** -/
theorem startable_iff (c : Config) (iface : String) (hv : validate c = []) :
    Startable c iface ↔ Restates c iface ∧ NoLoop c := by
  have hord := startOrder_isSome_iff (seedOrchestrator c iface)
  rw [seed_deps] at hord
  rw [Startable, hord, restates_iff, and_comm]
  refine and_congr_right fun _ => ⟨fun h x b _ hxb hbx => ?_, acyclic_of_noLoop hv⟩
  exact h x (TransGen.head hxb hbx)

instance (c : Config) (iface : String) : Decidable (Startable c iface) :=
  inferInstanceAs (Decidable (_ ∧ _))

def loggerConfig : Config where
  services := .ofList [("logger", { exec := "/usr/bin/logger", startAfter := ["waybeam"] })]

theorem startable_logger : validate loggerConfig = [] ∧ Startable loggerConfig "wlan0" ∧
    Restates loggerConfig "wlan0" ∧ NoLoop loggerConfig := by
  have hv : validate loggerConfig = [] := by decide +kernel
  have hs : Startable loggerConfig "wlan0" := by decide +kernel
  exact ⟨hv, hs, (startable_iff loggerConfig "wlan0" hv).mp hs⟩

def shadowConfig : Config where
  services := .ofList [("wfb_video_tx", { exec := "/usr/bin/my_tx", startAfter := ["waybeam"] })]

/-- `validate` accepts the configuration, but it has no start order and its video TX is another
program. -/
theorem shadow_not_startable : validate shadowConfig = [] ∧
    (seedOrchestrator shadowConfig "wlan0").startOrder = none ∧
    ((seedOrchestrator shadowConfig "wlan0").spec? "wfb_video_tx").map SupervisedSpec.argv ≠
      some (wfbArgs shadowConfig .videoTx "wlan0" droneKey) := by
  decide +kernel

/-! ## The cycle check and the start order -/

/-- **The cycle check and the start order agree.**  Over the same `startAfter` lists the search of
`validate` answers `true` iff a name waits for itself, directly or not, iff there is no start order;
a start order lists every name once and after all it waits for, and the stop order is its reverse. -/
theorem cycle_check_agrees (svcs : OrdMap String Service) (o : Orchestrator)
    (hsame : o.deps = serviceDeps svcs) :
    (hasCycle svcs = true ↔ ∃ n, TransGen (Dep (serviceDeps svcs)) n n) ∧
      ((∃ n, TransGen (Dep (serviceDeps svcs)) n n) ↔ o.startOrder = none) ∧
      ∀ order, o.startOrder = some order →
        (order.Nodup ∧ ∀ n, n ∈ order ↔ n ∈ o.names) ∧
        (∀ l₁ n l₂, order = l₁ ++ n :: l₂ → ∀ d, Dep o.deps d n → d ∈ l₁) ∧
        o.stopOrder = some order.reverse := by
  refine ⟨services_cyclic_iff svcs, ?_, fun order horder => ?_⟩
  · rw [← hsame, ← Option.not_isSome_iff_eq_none, startOrder_isSome_iff]
    push Not
    rfl
  · obtain ⟨hperm, hbefore⟩ := startOrder_spec horder
    refine ⟨⟨hperm.nodup_iff.mpr o.names_nodup, fun n => hperm.mem_iff⟩, hbefore, ?_⟩
    rw [stopOrder, horder, Option.map_some]

def pairServices : OrdMap String Service :=
  .ofList [("cam", { exec := "cam", startAfter := ["gps", "ghost", "gps"] }), ("gps", { exec := "gps" })]

def pairOrchestrator : Orchestrator :=
  (Orchestrator.add ⟨"cam", ["cam"], ∅, .always, ["gps", "ghost", "gps"]⟩ {}).add
    ⟨"gps", ["gps"], ∅, .always, []⟩

theorem pair_deps : pairOrchestrator.deps = serviceDeps pairServices := by
  funext n
  unfold pairOrchestrator Orchestrator.deps serviceDeps
  rw [spec?_add, spec?_add]
  by_cases hg : n = "gps"
  · subst hg
    decide +kernel
  by_cases hc : n = "cam"
  · subst hc
    decide +kernel
  have hnone : pairServices.find? n = none := by
    rw [← Option.not_isSome_iff_eq_none, ← OrdMap.mem_keys]
    have hkeys : pairServices.keys = ["cam", "gps"] := by decide +kernel
    simp [hkeys, hg, hc]
  rw [if_neg hg, if_neg hc, hnone]
  rfl

theorem cycle_check_pair : hasCycle pairServices = false ∧
    pairOrchestrator.startOrder = some ["gps", "cam"] ∧
    pairOrchestrator.stopOrder = some ["cam", "gps"] := by
  have horder : pairOrchestrator.startOrder = some ["gps", "cam"] := by decide +kernel
  obtain ⟨hcheck, hstart, hspec⟩ := cycle_check_agrees pairServices pairOrchestrator pair_deps
  refine ⟨?_, horder, (hspec _ horder).2.2⟩
  rw [← Bool.not_eq_true, hcheck, hstart, horder]
  exact Option.some_ne_none _

end Fpvd
