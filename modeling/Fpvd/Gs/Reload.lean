import Fpvd.Gs.Stale

/-!
# Fpvd.Gs.Reload — loading what `commit` wrote (`gs/fpvdgs/config.py`, `gs/fpvdgs/schema.py`)

`load` prunes a file and merges it onto the defaults.  So it gives back the configuration that was
written just when that has, in each of its objects that stands where the defaults have one, every key of
the defaults.  A patch merges onto the pending configuration, which keeps that, except where it puts an
object in the place of something else.
-/

namespace Fpvd.Gs

open AssocMap

/-! ## Merging onto the defaults -/

mutual

/-- Wherever both values have an object, the second has every key of the first. -/
def full : Json → Json → Bool
  | .obj ds, .obj vs => fullOn ds vs
  | _, _ => true

def fullOn : Dict → Dict → Bool
  | [], _ => true
  | (k, d) :: ds, vs => (match find? k vs with
    | none => false
    | some v => full d v) && fullOn ds vs

end

theorem fullOn_iff {ds vs : Dict} : fullOn ds vs = true ↔
    ∀ e ∈ ds, ∃ v, find? e.1 vs = some v ∧ full e.2 v = true := by
  induction ds with
  | nil => simp [fullOn]
  | cons e ds ih =>
    obtain ⟨k, d⟩ := e
    rw [fullOn, Bool.and_eq_true, ih, List.forall_mem_cons]
    cases find? k vs <;> simp

section Merge

open Json (ordered ordered_obj)

theorem ordered_deepMerge (out ov : Dict) (hout : ordered (.obj out) = true)
    (hov : ordered (.obj ov) = true) : ordered (.obj (deepMerge out ov)) = true := by
  rw [deepMerge_eq]
  exact Json.ordered_mergeInto out ov hout hov

theorem deepMerge_eq_iff {ds vs : Dict} (hds : ordered (.obj ds) = true) (hvs : ordered (.obj vs) = true) :
    deepMerge ds vs = vs ↔ ∀ e ∈ ds, ∃ v, find? e.1 vs = some v ∧ mergeValue (some e.2) v = v := by
  have hsorted := (ordered_obj.mp hvs).1
  have hsorted' := (ordered_obj.mp hds).1
  constructor
  · intro h e he
    have hfind := find?_deepMerge hsorted.nodup ds e.1
    rw [h, find?_of_mem hsorted'.nodup he] at hfind
    cases hv : find? e.1 vs with
    | none =>
      rw [hv] at hfind
      cases hfind
    | some v =>
      rw [hv] at hfind
      exact ⟨v, rfl, (Option.some.inj hfind).symm⟩
  · intro h
    refine (ordered_obj.mp (ordered_deepMerge ds vs hds hvs)).1.ext_find? hsorted fun k => ?_
    rw [find?_deepMerge hsorted.nodup]
    cases hd : find? k ds with
    | none =>
      cases find? k vs with
      | none => rfl
      | some v => exact congrArg some (by rw [mergeValue.eq_def])
    | some d =>
      obtain ⟨v, hv, hmerge⟩ := h _ (mem_of_find? hd)
      rw [hv]
      exact congrArg some hmerge

mutual

/-- **A merge onto `d` changes nothing**, just when the value is full. -/
theorem mergeValue_eq_iff : ∀ (d v : Json), ordered d = true → ordered v = true →
    (mergeValue (some d) v = v ↔ full d v = true)
  | .obj ds, .obj vs, hd, hv => by
    have hmembers := members_eq_iff ds fun e he => (ordered_obj.mp hd).2 e he
    have hmerge : mergeValue (some (.obj ds)) (.obj vs) = .obj (deepMerge ds vs) := by rw [mergeValue]
    rw [hmerge, Json.obj.injEq, deepMerge_eq_iff hd hv, full, fullOn_iff]
    refine forall₂_congr fun e he => exists_congr fun v => and_congr_right fun hfind => ?_
    exact hmembers e he v ((ordered_obj.mp hv).2 _ (mem_of_find? hfind))
  | .obj ds, .null, _, _ | .obj ds, .bool _, _, _ | .obj ds, .int _, _, _ | .obj ds, .real _, _, _
  | .obj ds, .str _, _, _ | .obj ds, .arr _, _, _ => by simp [mergeValue, full]
  | .null, v, _, _ | .bool _, v, _, _ | .int _, v, _, _ | .real _, v, _, _ | .str _, v, _, _
  | .arr _, v, _, _ => by simp [mergeValue, full]

theorem members_eq_iff : ∀ ds : Dict, (∀ e ∈ ds, ordered e.2 = true) → ∀ e ∈ ds, ∀ v : Json,
    ordered v = true → (mergeValue (some e.2) v = v ↔ full e.2 v = true)
  | [], _, _, he, _, _ => by cases he
  | (k, d) :: ds, hds, e, he, v, hv => by
    rcases List.mem_cons.mp he with rfl | he
    · exact mergeValue_eq_iff d v (hds _ List.mem_cons_self) hv
    · exact members_eq_iff ds (fun e he => hds e (List.mem_cons_of_mem _ he)) e he v hv

end

end Merge

/-! ## What the loader prunes -/

section Prune

variable {known : List String} {key : String} {f : Json → Json} {v : Json} {blk dl : Dict}

theorem prune_eq_self (h : ∀ k ∈ keys (dictOf v), k ∈ known) : prune known v = v := by
  cases v with
  | obj blk =>
    refine congrArg Json.obj (List.filter_eq_self.mpr fun e he => decide_eq_true ?_)
    exact h e.1 (List.mem_map_of_mem he)
  | null | bool | int | real | str | arr => rfl

theorem adjust_eq_self (hnodup : (keys (dictOf v)).Nodup)
    (h : ∀ w, find? key (dictOf v) = some w → f w = w) : adjust key f v = v := by
  cases v with
  | obj blk =>
    refine congrArg Json.obj ((List.map_congr_left fun e he => ?_).trans (List.map_id blk))
    by_cases hk : e.1 = key
    · rw [if_pos hk, h e.2 (hk ▸ find?_of_mem hnodup he)]
      rfl
    · rw [if_neg hk]
      rfl
  | null | bool | int | real | str | arr => rfl

theorem prune_strict (name : String) {checks : Json → List (Option PyError)}
    (hkeys : ∀ v, unknownKeys name known (dictOf v) ∈ checks v)
    (h : Passes (forBlock checks (Dict.got blk key))) (w : Json) (hw : find? key blk = some w) :
    prune known w = w := by
  rw [Dict.got, hw] at h
  cases w with
  | obj ms => exact prune_eq_self (unknownKeys_eq_none.mp (h _ (hkeys _)))
  | null | bool | int | real | str | arr => rfl

theorem warnDynamicLink_eq_self (hnodup : (keys dl).Nodup) (h : Passes (dynamicLinkChecks dl)) :
    warnDynamicLink (.obj dl) = .obj dl := by
  simp only [dynamicLinkChecks, passes_append, passes_cons] at h
  obtain ⟨⟨⟨⟨⟨⟨⟨⟨hkeys, -⟩, htap⟩, -⟩, -⟩, hsel⟩, hsm⟩, hlp⟩, -⟩ := h
  unfold warnDynamicLink
  rw [prune_eq_self (v := .obj dl) (unknownKeys_eq_none.mp hkeys),
    adjust_eq_self (v := .obj dl) hnodup (prune_strict "dynamicLink.tap" (fun v => by simp [validateTap]) htap),
    adjust_eq_self (v := .obj dl) hnodup
      (prune_strict "dynamicLink.learnedPrior" (fun v => by simp [validateLearnedPrior, validateBlockKeys]) hlp),
    adjust_eq_self (v := .obj dl) hnodup
      (prune_strict "dynamicLink.smoothing" (fun v => by simp [validateSmoothing, validateBlockKeys]) hsm),
    adjust_eq_self (v := .obj dl) hnodup
      (prune_strict "dynamicLink.selector" (fun v => by simp [validateSelector, validateBlockKeys]) hsel)]

/-- What `validate_config_patch` sees to, for a configuration made by patches. -/
structure KnownKeys (cfg : Dict) : Prop where
  top : ∀ k ∈ keys cfg, k ∈ keys defaultConfig
  drone : ∀ d, find? "drone" cfg = some (.obj d) → ∀ k ∈ keys d, k ∈ droneKeys

theorem warnUnknown_eq_self {pl : Platform} {cfg : Dict} (hcfg : Json.ordered (.obj cfg) = true)
    (hknown : KnownKeys cfg) (h : validateEffective pl cfg = .ok ()) :
    warnUnknown cfg defaultConfig = cfg := by
  rw [validateEffective_ok, effectiveChecks_eq] at h
  simp only [passes_append, passes_cons, passes_liftChecks] at h
  obtain ⟨-, -, hdl, -, -, -, -, hwfb⟩ := h
  have hnodup := (Json.ordered_obj.mp hcfg).1.nodup
  refine Json.obj.inj ((warnUnknown_eq cfg).trans ?_)
  unfold warnConfig
  rw [prune_eq_self (v := .obj cfg) hknown.top, adjust_eq_self (v := .obj cfg) hnodup ?wfb,
    adjust_eq_self (v := .obj cfg) hnodup ?drone, adjust_eq_self (v := .obj cfg) hnodup ?dynamicLink]
  case wfb =>
    intro w hw
    have hw : find? "wfb" cfg = some w := hw
    rw [Dict.got, hw] at hwfb
    cases w with
    | obj wfb =>
      have hordered := (Json.ordered_obj.mp hcfg).2 _ (mem_of_find? hw)
      refine adjust_eq_self (Json.ordered_obj.mp hordered).1.nodup ?_
      simp only [forBlock, validateWfb, passes_append] at hwfb
      exact prune_strict "wfb.txSelector" (fun v => by simp [validateBlockKeys]) hwfb.1.2
    | null | bool | int | real | str | arr => rfl
  case drone =>
    intro w hw
    cases w with
    | obj d => exact prune_eq_self (hknown.drone d hw)
    | null | bool | int | real | str | arr => rfl
  case dynamicLink =>
    intro w hw
    have hw : find? "dynamicLink" cfg = some w := hw
    rw [dynamicLinkPart, Dict.got, hw] at hdl
    cases w with
    | obj dl =>
      have hordered := (Json.ordered_obj.mp hcfg).2 _ (mem_of_find? hw)
      simp only [passes_append, passes_liftChecks] at hdl
      exact warnDynamicLink_eq_self (Json.ordered_obj.mp hordered).1.nodup hdl.2
    | null | bool | int | real | str | arr => rfl

end Prune

/-! ## Runs of the store -/

structure SparsePatch where
  members : Dict
  ordered : Json.ordered (.obj members) = true

inductive StoreCall where
  | patch (p : SparsePatch)
  | apply (pl : Platform)

def ConfigStore.serve (s : ConfigStore) : StoreCall → ConfigStore
  | .patch p => if validateConfigPatch p.members = .ok () then s.patch p.members else s
  | .apply pl => if validateEffective pl s.pending = .ok () then s.commit true else s

def ConfigStore.fresh : ConfigStore := .load []

/-- What the file holds loads as the effective configuration, with the same pending one. -/
def Reloads (s : ConfigStore) : Prop :=
  ∀ file, s.persisted = some file →
    (ConfigStore.load file).config = s.config ∧ (ConfigStore.load file).pending = s.config

/-- An accepted apply finds every key of the defaults in each object that stands in the place of one of
theirs. -/
def KeepsBlocks (s : ConfigStore) : StoreCall → Prop
  | .patch _ => True
  | .apply pl => validateEffective pl s.pending = .ok () → fullOn defaultConfig s.pending = true

structure Patched (s : ConfigStore) : Prop where
  ordered : Json.ordered (.obj s.pending) = true
  known : KnownKeys s.pending

section Serve

variable {s : ConfigStore}

theorem ordered_defaultConfig : Json.ordered (.obj defaultConfig) = true := by decide +kernel

theorem patch_known {sparse : Dict} (h : validateConfigPatch sparse = .ok ()) : KnownKeys sparse := by
  rw [validateConfigPatch, raiseFirst_ok] at h
  have h : Passes (liftChecks _) := h
  simp only [passes_liftChecks, passes_append, passes_cons] at h
  obtain ⟨⟨⟨⟨htop, -⟩, -⟩, -⟩, hdrone⟩ := h
  constructor
  · intro k hk
    have htop : k ∈ configTopKeys := unknownKeys_eq_none.mp htop k hk
    have hsub : ∀ k ∈ configTopKeys, k ∈ keys defaultConfig := by decide
    exact hsub k htop
  · intro d hd
    rw [Dict.got, hd] at hdrone
    have hdrone : Passes (validateBlockKeys "drone" droneKeys (.obj d)) := hdrone
    simp only [validateBlockKeys, passes_cons] at hdrone
    exact unknownKeys_eq_none.mp hdrone.2.1

theorem KnownKeys.deepMerge {cfg sparse : Dict} (hcfg : KnownKeys cfg)
    (hsparse : KnownKeys sparse) (hnodup : (keys sparse).Nodup) : KnownKeys (deepMerge cfg sparse) := by
  constructor
  · intro k hk
    rcases (mem_keys_deepMerge cfg k).mp hk with hk | hk
    · exact hcfg.top k hk
    · exact hsparse.top k hk
  · intro d hd
    rw [find?_deepMerge hnodup] at hd
    cases hs : find? "drone" sparse with
    | none =>
      rw [hs] at hd
      exact hcfg.drone d hd
    | some v =>
      rw [hs] at hd
      dsimp only at hd
      rcases mergeValue_cases (find? "drone" cfg) v with hv | ⟨out, ov, hout, rfl, hv⟩
      · rw [hv] at hd
        exact hsparse.drone d (hs.trans hd)
      · rw [hv] at hd
        obtain rfl := Json.obj.inj (Option.some.inj hd)
        intro k hk
        rcases (mem_keys_deepMerge out k).mp hk with hk | hk
        · exact hcfg.drone out hout k hk
        · exact hsparse.drone ov hs k hk

theorem Patched.serve (h : Patched s) (c : StoreCall) : Patched (s.serve c) := by
  cases c with
  | patch p =>
    unfold ConfigStore.serve
    dsimp only
    by_cases hok : validateConfigPatch p.members = .ok ()
    · rw [if_pos hok]
      exact ⟨ordered_deepMerge _ _ h.ordered p.ordered,
        h.known.deepMerge (patch_known hok) (Json.ordered_obj.mp p.ordered).1.nodup⟩
    · rw [if_neg hok]
      exact h
  | apply pl =>
    unfold ConfigStore.serve
    dsimp only
    by_cases hok : validateEffective pl s.pending = .ok ()
    · rw [if_pos hok]
      exact ⟨h.ordered, h.known⟩
    · rw [if_neg hok]
      exact h

theorem load_eq_iff {pl : Platform} {cfg : Dict} (hcfg : Json.ordered (.obj cfg) = true)
    (hknown : KnownKeys cfg) (h : validateEffective pl cfg = .ok ()) :
    (ConfigStore.load cfg).config = cfg ↔ fullOn defaultConfig cfg = true := by
  have hload : (ConfigStore.load cfg).config = deepMerge defaultConfig cfg := by
    show deepMerge defaultConfig (warnUnknown cfg defaultConfig) = _
    rw [warnUnknown_eq_self hcfg hknown h]
  have hmerge := mergeValue_eq_iff (.obj defaultConfig) (.obj cfg) ordered_defaultConfig hcfg
  rw [mergeValue, full, Json.obj.injEq] at hmerge
  rw [hload, hmerge]

theorem reloads_serve (hs : Patched s) (h : Reloads s) (c : StoreCall) :
    Reloads (s.serve c) ↔ KeepsBlocks s c := by
  cases c with
  | patch p =>
    refine iff_of_true ?_ trivial
    unfold ConfigStore.serve
    dsimp only
    by_cases hok : validateConfigPatch p.members = .ok ()
    · rw [if_pos hok]
      exact h
    · rwa [if_neg hok]
  | apply pl =>
    unfold ConfigStore.serve KeepsBlocks
    dsimp only
    by_cases hok : validateEffective pl s.pending = .ok ()
    · rw [if_pos hok, forall_prop_of_true hok, ← load_eq_iff hs.ordered hs.known hok]
      constructor
      · intro hreload
        exact (hreload s.pending rfl).1
      · rintro hload file ⟨⟩
        exact ⟨hload, hload⟩
    · rw [if_neg hok]
      exact iff_of_true h fun hacc => absurd hacc hok

end Serve

theorem patched_fresh : Patched .fresh := by
  constructor
  · decide +kernel
  · constructor
    · decide +kernel
    · intro d hd
      have hdrone : find? "drone" ConfigStore.fresh.pending =
          some (.obj [("apiPort", .int 8080), ("host", .str "10.5.0.10")]) := by decide +kernel
      obtain rfl := Json.obj.inj (Option.some.inj (hdrone.symm.trans hd))
      decide

/-- **What is written is what is loaded.**  In a run of patches and applies from the defaults, every file
that was written loads as the effective configuration at every point, just when every accepted apply
finds, in each object of the pending configuration that stands where the defaults have one, all of their
keys. -/
theorem reload_iff (calls : List StoreCall) :
    Run.Meets ConfigStore.serve KeepsBlocks .fresh calls ↔
      ∀ before, before <+: calls → Reloads (before.foldl ConfigStore.serve .fresh) :=
  Run.meets_iff_throughout patched_fresh (fun _ c h => h.serve c) (fun _ h => nomatch h)
    (fun _ c hs h => reloads_serve hs h c) calls

def nullBlock : SparsePatch := ⟨[("dynamicLink", .null)], by decide⟩

def partBlock : SparsePatch := ⟨[("dynamicLink", .obj [("maxMcs", .int 3)])], by decide⟩

/-- **A block that was set to `null` and then patched** is accepted, and comes back with the keys of the
defaults. -/
theorem nulled_block_reloads_otherwise :
    let s := [StoreCall.patch nullBlock, .patch partBlock, .apply plainPlatform].foldl
      ConfigStore.serve .fresh
    s.persisted = some s.config ∧
      find? "dynamicLink" s.config = some (.obj [("maxMcs", .int 3)]) ∧
      (ConfigStore.load s.config).config ≠ s.config ∧
      find? "dynamicLink" (ConfigStore.load s.config).config =
        some (.obj (insert "maxMcs" (.int 3) dynamicLinkDefaults)) := by
  decide +kernel

end Fpvd.Gs
