import Fpvd.Lib.JsonMerge
import Fpvd.Gs.Store

/-!
# Fpvd.Gs.Known — unknown keys of the configuration file and the loader (`gs/fpvdgs/config.py`)

The loader drops keys that it does not know, so that an old file does not stop the ground station from
starting.  What it drops and where `validate_effective` is strict are two lists.
-/

namespace Fpvd.Gs

open Json AssocMap

/-! ## The keys that the schema knows -/

def leaf (keys : List String) : List (String × Shape) := keys.map fun k => (k, .value)

def linkFields : List (String × Shape) :=
  leaf ["channel", "width", "txPowerDbm", "region", "linkId", "serverAddress", "videoEncryption"] ++
    [("beamforming", .block true (leaf ["enabled"])),
      ("cards", .list (.block true (leaf cardKeys))),
      ("wlans", .list (.block false (leaf cardKeys)))]

def dynamicLinkFields (pruned : Bool) : List (String × Shape) :=
  leaf ["enabled", "maxMcs", "dronePort"] ++
    [("selector", .block pruned (leaf selectorKeys)),
      ("smoothing", .block pruned (leaf smoothingKeys)),
      ("flightlog", .block true (leaf ["enabled"])),
      ("learnedPrior", .block pruned (leaf learnedPriorKeys)),
      ("tap", .block pruned (leaf tapKeys)),
      ("probe", .block true (leaf probeKeys))]

def dynamicLinkShape (pruned : Bool) : Shape := .block pruned (dynamicLinkFields pruned)

def wfbShape (pruned : Bool) : Shape :=
  .block false [("profile", .value), ("raw", .block false []),
    ("txSelector", .block pruned (leaf txSelectorKeys)), ("mavlink", .block false (leaf ["peer"]))]

def pixelpilotShape : Shape :=
  .block false (leaf ["enabled", "rtpPort", "screenMode", "bin", "configPath", "osdConfigPath", "codec",
      "env", "extraArgs"] ++
    [("dvr", .block false (leaf ["dir", "template", "fmp4", "sequencedFiles"]))])

def monitorKeys : List String :=
  ["enabled", "tunnelStaleS", "httpPollS", "httpTimeoutS", "evalIntervalS", "disconnectGraceS",
    "httpFailCount"]

def configFields (pruned : Bool) : List (String × Shape) :=
  [("link", .block false linkFields), ("wfb", wfbShape pruned), ("drone", .block false (leaf droneKeys)),
    ("dynamicLink", dynamicLinkShape pruned), ("pixelpilot", pixelpilotShape),
    ("idrForward", .block false (leaf ["enabled", "port"])),
    ("connectionMonitor", .block false (leaf monitorKeys))]

def configShape (pruned : Bool) : Shape := .block false (configFields pruned)

/-- A configuration file as `json.load` returns it: no object has a key twice. -/
structure ConfigFile where
  members : Dict
  distinct : Json.distinct (.obj members) = true

/-! ## Merging -/

section Merge

variable {m : Dict}

mutual

theorem mergeValue_eq : ∀ (base : Option Json) (v : Json), mergeValue base v = onto base v
  | some (.obj base), .obj ov => by rw [mergeValue, onto, deepMerge_eq]
  | none, _ | some .null, _ | some (.bool _), _ | some (.int _), _ | some (.real _), _ | some (.str _), _
  | some (.arr _), _ | some (.obj _), .null | some (.obj _), .bool _ | some (.obj _), .int _
  | some (.obj _), .real _ | some (.obj _), .str _ | some (.obj _), .arr _ => by simp [mergeValue, onto]

theorem deepMerge_eq : ∀ out ov : Dict, deepMerge out ov = mergeInto out ov
  | out, [] => by rw [deepMerge, mergeInto]
  | out, (k, v) :: ov => by rw [deepMerge, mergeInto, mergeValue_eq, deepMerge_eq]

end

theorem mergeValue_cases (base : Option Json) (v : Json) : mergeValue base v = v ∨
    ∃ out ov, base = some (.obj out) ∧ v = .obj ov ∧ mergeValue base v = .obj (deepMerge out ov) := by
  simpa only [mergeValue_eq, deepMerge_eq] using onto_cases base v

theorem find?_deepMerge {ov : Dict} (hov : (keys ov).Nodup) (out : Dict) (k : String) :
    find? k (deepMerge out ov) = match find? k ov with
      | none => find? k out
      | some v => some (mergeValue (find? k out) v) := by
  rw [deepMerge_eq, find?_mergeInto hov]
  cases find? k ov <;> simp only [mergeValue_eq]

theorem mem_keys_deepMerge {ov : Dict} (out : Dict) (k : String) :
    k ∈ keys (deepMerge out ov) ↔ k ∈ keys out ∨ k ∈ keys ov := by
  rw [deepMerge_eq, mem_keys_mergeInto]

theorem distinct_member (h : Json.distinct (.obj m) = true) {k : String} {v : Json}
    (hv : find? k m = some v) : v.distinct = true :=
  (distinct_obj.mp h).2 _ (mem_of_find? hv)

mutual

theorem agrees_mergeValue : ∀ (s : Shape) (base : Option Json) (a b : Json), a.distinct = true →
    b.distinct = true → agrees s a b = true →
    agrees s (mergeValue base a) (mergeValue base b) = true
  | .value, base, a, b, _, _, h => by
    rw [agrees_value h]
    exact agrees_refl _ _
  | .list s, base, a, b, _, _, h => by
    rcases eq_of_agrees h with rfl | ⟨_, _, _, _, hs, -⟩ | ⟨_, xs, ys, -, rfl, rfl, -⟩
    · exact agrees_refl _ _
    · cases hs
    · rcases mergeValue_cases base (.arr xs) with hx | ⟨_, _, _, hx, -⟩
      · rcases mergeValue_cases base (.arr ys) with hy | ⟨_, _, _, hy, -⟩
        · rwa [hx, hy]
        · cases hy
      · cases hx
  | .block strict fields, base, a, b, ha, hb, h => by
    rcases eq_of_agrees h with rfl | ⟨_, _, m, n, hs, rfl, rfl, hon⟩ | ⟨_, _, _, hs, -⟩
    · exact agrees_refl _ _
    · obtain ⟨rfl, rfl⟩ := Shape.block.inj hs
      cases base with
      | none => exact h
      | some j =>
        cases j with
        | obj out =>
          rw [mergeValue, mergeValue, agrees]
          exact agreesOn_deepMerge fields out m n ha hb hon
        | _ => exact h
    · cases hs

theorem agreesOn_deepMerge : ∀ (fields : List (String × Shape)) (out m n : Dict),
    Json.distinct (.obj m) = true → Json.distinct (.obj n) = true → agreesOn fields m n = true →
    agreesOn fields (deepMerge out m) (deepMerge out n) = true
  | [], out, m, n, _, _, _ => by rw [agreesOn]
  | (k, s) :: fields, out, m, n, hm, hn, h => by
    rw [agreesOn, Bool.and_eq_true]
    refine ⟨?_, agreesOn_deepMerge fields out m n hm hn (by
      rw [agreesOn, Bool.and_eq_true] at h
      exact h.2)⟩
    rw [find?_deepMerge (distinct_obj.mp hm).1, find?_deepMerge (distinct_obj.mp hn).1]
    have hk := agreesOn_iff.mp h (k, s) List.mem_cons_self
    rcases agreesAt_cases hk with ⟨ha, hb⟩ | ⟨a, b, ha, hb, hab⟩
    · rw [ha, hb]
      exact agreesAt_refl s (find? k out)
    · rw [ha, hb]
      exact agrees_mergeValue s _ a b (distinct_member hm ha) (distinct_member hn hb) hab

end

mutual

theorem clean_mergeValue : ∀ (s : Shape) (base : Option Json) (v : Json),
    (∀ j, base = some j → clean s j = true) → v.distinct = true → clean s v = true →
    clean s (mergeValue base v) = true
  | .value, base, v, _, _, _ => by
    unfold clean
    rfl
  | .list s, base, v, _, _, h => by
    rcases mergeValue_cases base v with hv | ⟨out, ov, -, -, hv⟩
    · rwa [hv]
    · rw [hv]
      rfl
  | .block strict fields, base, v, hbase, hdistinct, h => by
    rcases mergeValue_cases base v with hv | ⟨out, ov, hout, rfl, hv⟩
    · rwa [hv]
    · obtain ⟨hkeys, hfields⟩ := clean_block_iff.mp (hbase _ hout)
      obtain ⟨hkeys', hfields'⟩ := clean_block_iff.mp h
      rw [hv, clean_block_iff]
      refine ⟨fun hstrict k hk => ?_, cleanOn_iff.mp (cleanOn_deepMerge fields out ov hdistinct
        (cleanOn_iff.mpr hfields) (cleanOn_iff.mpr hfields'))⟩
      rcases (mem_keys_deepMerge out k).mp hk with hk | hk
      · exact hkeys hstrict k hk
      · exact hkeys' hstrict k hk

theorem cleanOn_deepMerge : ∀ (fields : List (String × Shape)) (out m : Dict),
    Json.distinct (.obj m) = true → cleanOn fields out = true → cleanOn fields m = true →
    cleanOn fields (deepMerge out m) = true
  | [], out, m, _, _, _ => by rw [cleanOn]
  | (k, s) :: fields, out, m, hm, hout, h => by
    rw [cleanOn, Bool.and_eq_true]
    refine ⟨?_, cleanOn_deepMerge fields out m hm (by
      rw [cleanOn, Bool.and_eq_true] at hout
      exact hout.2) (by
      rw [cleanOn, Bool.and_eq_true] at h
      exact h.2)⟩
    have hbase := cleanOn_iff.mp hout (k, s) List.mem_cons_self
    have hmember := cleanOn_iff.mp h (k, s) List.mem_cons_self
    rw [find?_deepMerge (distinct_obj.mp hm).1]
    cases hv : find? k m with
    | none =>
      cases hb : find? k out with
      | none => rfl
      | some j => exact hbase j hb
    | some v => exact clean_mergeValue s _ v hbase (distinct_member hm hv) (hmember v hv)

end

mutual

theorem clean_of_mergeValue : ∀ (s : Shape) (base : Option Json) (v : Json), v.distinct = true →
    clean s (mergeValue base v) = true → clean s v = true
  | .value, _, _, _, _ => by
    unfold clean
    rfl
  | .list s, base, v, _, h => by
    rcases mergeValue_cases base v with hv | ⟨out, ov, -, rfl, -⟩
    · rwa [hv] at h
    · rfl
  | .block strict fields, base, v, hdistinct, h => by
    rcases mergeValue_cases base v with hv | ⟨out, ov, -, rfl, hv⟩
    · rwa [hv] at h
    · rw [hv] at h
      obtain ⟨hkeys, hfields⟩ := clean_block_iff.mp h
      rw [clean_block_iff]
      refine ⟨fun hstrict k hk => hkeys hstrict k ((mem_keys_deepMerge out k).mpr (.inr hk)), ?_⟩
      exact cleanOn_iff.mp (cleanOn_of_deepMerge fields out ov hdistinct (cleanOn_iff.mpr hfields))

theorem cleanOn_of_deepMerge : ∀ (fields : List (String × Shape)) (out m : Dict),
    Json.distinct (.obj m) = true → cleanOn fields (deepMerge out m) = true → cleanOn fields m = true
  | [], out, m, _, _ => by rw [cleanOn]
  | (k, s) :: fields, out, m, hm, h => by
    rw [cleanOn, Bool.and_eq_true]
    refine ⟨?_, cleanOn_of_deepMerge fields out m hm (by
      rw [cleanOn, Bool.and_eq_true] at h
      exact h.2)⟩
    have hmember := cleanOn_iff.mp h (k, s) List.mem_cons_self
    cases hv : find? k m with
    | none => rfl
    | some v =>
      refine clean_of_mergeValue s (find? k out) v (distinct_member hm hv) (hmember _ ?_)
      rw [find?_deepMerge (distinct_obj.mp hm).1, hv]

end

end Merge

/-! ## Pruning -/

section Prune

variable {strict : Bool} {fields : List (String × Shape)} {known : List String} {f : Json → Json}
  {a b v : Json}

theorem agrees_block {F : Json → Json} {g : String → Json → Json}
    (hobj : ∀ m : Dict, ∃ n : Dict, F (.obj m) = .obj n ∧
      ∀ e ∈ fields, find? e.1 n = (find? e.1 m).map (g e.1))
    (hg : ∀ e ∈ fields, ∀ a b, agrees e.2 a b = true → agrees e.2 (g e.1 a) (g e.1 b) = true)
    (h : agrees (.block strict fields) a b = true) : agrees (.block strict fields) (F a) (F b) = true := by
  rcases eq_of_agrees h with rfl | ⟨_, _, m, n, hs, rfl, rfl, hon⟩ | ⟨_, _, _, hs, -⟩
  · exact agrees_refl _ _
  · obtain ⟨rfl, rfl⟩ := Shape.block.inj hs
    obtain ⟨m', hm, hmfind⟩ := hobj m
    obtain ⟨n', hn, hnfind⟩ := hobj n
    rw [hm, hn, agrees, agreesOn_iff]
    intro e he
    rw [hmfind e he, hnfind e he]
    rcases agreesAt_cases (agreesOn_iff.mp hon e he) with ⟨ha, hb⟩ | ⟨x, y, hx, hy, hxy⟩
    · rw [ha, hb]
      rfl
    · rw [hx, hy]
      exact hg e he x y hxy
  · cases hs

theorem agrees_prune (hknown : ∀ e ∈ fields, e.1 ∈ known)
    (h : agrees (.block strict fields) a b = true) :
    agrees (.block strict fields) (prune known a) (prune known b) = true := by
  refine agrees_block (g := fun _ => id) (fun m => ⟨_, rfl, fun e he => ?_⟩) (fun _ _ _ _ => id) h
  rw [find?_filter_keys, if_pos (hknown e he), Option.map_id_fun, id]

variable {s : Shape} {key : String}

theorem field_eq {e : String × Shape} (hnodup : (keys fields).Nodup)
    (hs : find? key fields = some s) (he : e ∈ fields) (hk : e.1 = key) : e.2 = s := by
  have hfind : find? e.1 fields = some e.2 := find?_of_mem hnodup he
  rw [hk, hs] at hfind
  exact (Option.some.inj hfind).symm

theorem agrees_adjust (hnodup : (keys fields).Nodup) (hs : find? key fields = some s)
    (hf : ∀ a b, agrees s a b = true → agrees s (f a) (f b) = true)
    (h : agrees (.block strict fields) a b = true) :
    agrees (.block strict fields) (adjust key f a) (adjust key f b) = true := by
  refine agrees_block (g := fun k => if k = key then f else id) (fun m => ⟨_, rfl, fun e _ => ?_⟩)
    (fun e he x y hxy => ?_) h
  · rw [find?_map_at]
    split_ifs <;> simp
  · split_ifs with hk
    · obtain rfl := field_eq hnodup hs he hk
      exact hf x y hxy
    · exact hxy

theorem clean_prune (hknown : ∀ k ∈ known, k ∈ fields.map Prod.fst)
    (h : clean (.block strict fields) v = true) : clean (.block true fields) (prune known v) = true := by
  cases v with
  | obj m =>
    rw [prune, clean_block_iff]
    refine ⟨fun _ k hk => ?_, fun e he v hv => ?_⟩
    · obtain ⟨e, he, rfl⟩ := List.mem_map.mp hk
      exact hknown _ (of_decide_eq_true (List.mem_filter.mp he).2)
    · rw [find?_filter_keys] at hv
      split_ifs at hv
      exact (clean_block_iff.mp h).2 e he v hv
  | _ => rfl

theorem clean_loosen (h : clean (.block true fields) v = true) :
    clean (.block false fields) v = true := by
  cases v with
  | obj m => exact clean_block_iff.mpr ⟨nofun, (clean_block_iff.mp h).2⟩
  | _ => rfl

def setField (key : String) (s : Shape) (fields : List (String × Shape)) : List (String × Shape) :=
  fields.map fun e => if e.1 = key then (e.1, s) else e

theorem clean_adjust {t : Shape} (key : String) (hnodup : (keys fields).Nodup)
    (hs : find? key fields = some s) (hf : ∀ x, clean s x = true → clean t (f x) = true)
    (h : clean (.block strict fields) v = true) :
    clean (.block strict (setField key t fields)) (adjust key f v) = true := by
  cases v with
  | obj m =>
    obtain ⟨hkeys, hfields⟩ := clean_block_iff.mp h
    have hnames : (setField key t fields).map Prod.fst = fields.map Prod.fst :=
      keys_map_at key (fun _ => t) fields
    rw [adjust, clean_block_iff]
    refine ⟨fun hstrict k hk => ?_, fun e he v hv => ?_⟩
    · rw [keys_map_at] at hk
      exact hnames.symm ▸ hkeys hstrict k hk
    · obtain ⟨d, hd, rfl⟩ := List.mem_map.mp he
      by_cases hk : d.1 = key
      · rw [if_pos hk] at hv ⊢
        rw [find?_map_at, if_pos hk, Option.map_eq_some_iff] at hv
        obtain ⟨x, hx, rfl⟩ := hv
        exact hf x (field_eq hnodup hs hd hk ▸ hfields d hd x hx)
      · rw [if_neg hk] at hv ⊢
        rw [find?_map_at, if_neg hk] at hv
        exact hfields d hd v hv
  | _ => rfl

theorem clean_of_prune (hknown : ∀ e ∈ fields, e.1 ∈ known)
    (h : clean (.block strict fields) (prune known v) = true) : clean (.block false fields) v = true := by
  cases v with
  | obj m =>
    refine clean_block_iff.mpr ⟨nofun, fun e he v hv => (clean_block_iff.mp h).2 e he v ?_⟩
    rw [find?_filter_keys, if_pos (hknown e he), hv]
  | _ => rfl

theorem clean_of_adjust (hnodup : (keys fields).Nodup)
    (hs : find? key fields = some s) (hf : ∀ x, clean s (f x) = true → clean s x = true)
    (h : clean (.block false fields) (adjust key f v) = true) :
    clean (.block false fields) v = true := by
  cases v with
  | obj m =>
    refine clean_block_iff.mpr ⟨nofun, fun e he v hv => ?_⟩
    have hmember := (clean_block_iff.mp h).2 e he
    rw [find?_map_at, hv] at hmember
    split_ifs at hmember with hk
    · obtain rfl := field_eq hnodup hs he hk
      exact hf v (hmember _ rfl)
    · exact hmember v rfl
  | _ => rfl

theorem distinct_prune (h : v.distinct = true) : (prune known v).distinct = true := by
  cases v with
  | obj m =>
    obtain ⟨hnodup, hmembers⟩ := distinct_obj.mp h
    rw [prune, distinct_obj]
    refine ⟨?_, fun e he => hmembers e (List.mem_of_mem_filter he)⟩
    exact hnodup.sublist (List.filter_sublist.map _)
  | _ => exact h

theorem distinct_adjust (hf : ∀ x, x.distinct = true → (f x).distinct = true) (h : v.distinct = true) :
    (adjust key f v).distinct = true := by
  cases v with
  | obj m =>
    obtain ⟨hnodup, hmembers⟩ := distinct_obj.mp h
    rw [adjust, distinct_obj, keys_map_at]
    refine ⟨hnodup, fun e he => ?_⟩
    obtain ⟨d, hd, rfl⟩ := List.mem_map.mp he
    split_ifs
    · exact hf _ (hmembers d hd)
    · exact hmembers d hd
  | _ => exact h

end Prune

/-! ## Loading -/

section Load

variable {a b : Json} {v : Json}

def warnDynamicLink (dl : Json) : Json :=
  adjust "selector" (prune selectorKeys) (adjust "smoothing" (prune smoothingKeys)
    (adjust "learnedPrior" (prune learnedPriorKeys) (adjust "tap" (prune tapKeys)
      (prune dynamicLinkKeys dl))))

def warnConfig (file : Json) : Json :=
  adjust "dynamicLink" warnDynamicLink (adjust "drone" (prune droneKeys)
    (adjust "wfb" (adjust "txSelector" (prune txSelectorKeys))
      (prune (keys defaultConfig) file)))

theorem warnUnknown_eq (file : Dict) :
    .obj (warnUnknown file defaultConfig) = warnConfig (.obj file) := rfl

theorem mem_leaf {keys : List String} {e : String × Shape} (he : e ∈ leaf keys) :
    e.1 ∈ keys ∧ e.2 = .value := by
  obtain ⟨k, hk, rfl⟩ := List.mem_map.mp he
  exact ⟨hk, rfl⟩

theorem agrees_prune_leaf {strict : Bool} {known : List String}
    (h : agrees (.block strict (leaf known)) a b = true) :
    agrees (.block strict (leaf known)) (prune known a) (prune known b) = true :=
  agrees_prune (fun _ he => (mem_leaf he).1) h

theorem warnDynamicLink_agrees (h : agrees (dynamicLinkShape true) a b = true) :
    agrees (dynamicLinkShape true) (warnDynamicLink a) (warnDynamicLink b) = true := by
  have hnodup : (keys (dynamicLinkFields true)).Nodup := by decide
  have hprune : ∀ known a b, agrees (.block true (leaf known)) a b = true →
    agrees (.block true (leaf known)) (prune known a) (prune known b) = true :=
      fun _ _ _ => agrees_prune_leaf
  exact agrees_adjust hnodup rfl (hprune _) (agrees_adjust hnodup rfl (hprune _)
    (agrees_adjust hnodup rfl (hprune _) (agrees_adjust hnodup rfl (hprune _)
      (agrees_prune (by decide) h))))

theorem warnConfig_agrees (h : agrees (configShape true) a b = true) :
    agrees (configShape true) (warnConfig a) (warnConfig b) = true := by
  have hnodup : (keys (configFields true)).Nodup := by decide
  refine agrees_adjust hnodup rfl (fun _ _ => warnDynamicLink_agrees) (agrees_adjust hnodup rfl
    (fun _ _ => agrees_prune_leaf) (agrees_adjust hnodup rfl (fun x y hxy => ?_)
      (agrees_prune (by decide) h)))
  exact agrees_adjust (by decide) rfl (fun _ _ => agrees_prune_leaf) hxy

theorem clean_prune_leaf {strict : Bool} (known : List String)
    (h : clean (.block strict (leaf known)) v = true) :
    clean (.block true (leaf known)) (prune known v) = true := by
  refine clean_prune (fun k hk => ?_) h
  simpa [leaf, Function.comp_def] using hk

theorem clean_adjust_leaf {strict : Bool} {fields : List (String × Shape)} (key : String)
    (known : List String) (hnodup : (keys fields).Nodup)
    (hs : find? key fields = some (.block false (leaf known)))
    (h : clean (.block strict fields) v = true) :
    clean (.block strict (setField key (.block true (leaf known)) fields))
      (adjust key (prune known) v) = true :=
  clean_adjust key hnodup hs (fun _ => clean_prune_leaf known) h

theorem warnDynamicLink_clean (h : clean (dynamicLinkShape false) v = true) :
    clean (dynamicLinkShape true) (warnDynamicLink v) = true := by
  have hpruned : clean (.block true (dynamicLinkFields false)) (prune dynamicLinkKeys v) = true :=
    clean_prune (by decide) h
  have htap := clean_adjust_leaf "tap" tapKeys (by decide) rfl hpruned
  have hprior := clean_adjust_leaf "learnedPrior" learnedPriorKeys (by decide) rfl htap
  have hsmooth := clean_adjust_leaf "smoothing" smoothingKeys (by decide) rfl hprior
  exact clean_adjust_leaf "selector" selectorKeys (by decide) rfl hsmooth

theorem warnWfb_clean (h : clean (wfbShape false) v = true) :
    clean (wfbShape true) (adjust "txSelector" (prune txSelectorKeys) v) = true :=
  clean_adjust_leaf "txSelector" txSelectorKeys (by decide) rfl h

theorem warnConfig_clean (h : clean (configShape false) v = true) :
    clean (configShape true) (warnConfig v) = true := by
  have hpruned : clean (configShape false) (prune (keys defaultConfig) v) = true :=
    clean_loosen (clean_prune (by decide) h)
  have hwfb : clean (.block false (setField "wfb" (wfbShape true) (configFields false)))
      (adjust "wfb" (adjust "txSelector" (prune txSelectorKeys))
        (prune (keys defaultConfig) v)) = true :=
    clean_adjust "wfb" (by decide) rfl (fun _ => warnWfb_clean) hpruned
  have hdrone : clean (.block false (setField "drone" (.block false (leaf droneKeys))
      (setField "wfb" (wfbShape true) (configFields false))))
      (adjust "drone" (prune droneKeys) (adjust "wfb" (adjust "txSelector" (prune txSelectorKeys))
        (prune (keys defaultConfig) v))) = true :=
    clean_adjust "drone" (by decide) rfl (fun _ hx => clean_loosen (clean_prune_leaf droneKeys hx)) hwfb
  exact clean_adjust "dynamicLink" (by decide) rfl (fun _ => warnDynamicLink_clean) hdrone

theorem clean_of_warnConfig (h : clean (configShape false) (warnConfig v) = true) :
    clean (configShape false) v = true := by
  have hnodup : (keys (configFields false)).Nodup := by decide
  have hdl : (keys (dynamicLinkFields false)).Nodup := by decide
  have hprune : ∀ known x, clean (.block false (leaf known)) (prune known x) = true →
      clean (.block false (leaf known)) x = true :=
    fun _ _ => clean_of_prune fun _ he => (mem_leaf he).1
  refine clean_of_prune (by decide) (clean_of_adjust hnodup rfl (fun x hx => ?_)
    (clean_of_adjust hnodup rfl (hprune _) (clean_of_adjust hnodup rfl (fun x hx => ?_) h)))
  · exact clean_of_adjust (by decide) rfl (hprune _) hx
  · exact clean_of_prune (by decide) (clean_of_adjust hdl rfl (hprune _) (clean_of_adjust hdl rfl
      (hprune _) (clean_of_adjust hdl rfl (hprune _) (clean_of_adjust hdl rfl (hprune _) hx))))

theorem warnConfig_distinct (h : v.distinct = true) : (warnConfig v).distinct = true := by
  have hprune : ∀ known x, Json.distinct x = true → (prune known x).distinct = true :=
    fun _ _ => distinct_prune
  have hdl : ∀ x, Json.distinct x = true → (warnDynamicLink x).distinct = true := fun x hx =>
    distinct_adjust (hprune _) (distinct_adjust (hprune _) (distinct_adjust (hprune _)
      (distinct_adjust (hprune _) (hprune _ x hx))))
  exact distinct_adjust hdl (distinct_adjust (hprune _) (distinct_adjust
    (fun x hx => distinct_adjust (hprune _) hx) (hprune _ v h)))

theorem load_config (file : Dict) :
    .obj (ConfigStore.load file).config =
      mergeValue (some (.obj defaultConfig)) (warnConfig (.obj file)) := rfl

theorem load_agrees (f g : ConfigFile)
    (h : agrees (configShape true) (.obj f.members) (.obj g.members) = true) :
    agrees (configShape true) (.obj (ConfigStore.load f.members).config)
      (.obj (ConfigStore.load g.members).config) = true := by
  rw [load_config, load_config]
  exact agrees_mergeValue _ _ _ _ (warnConfig_distinct f.distinct) (warnConfig_distinct g.distinct)
    (warnConfig_agrees h)

theorem defaultConfig_clean : clean (configShape true) (.obj defaultConfig) = true := by
  decide +kernel

/-- **What the loader leaves in the strict blocks**: nothing unknown, if the blocks that it does not
prune had nothing. -/
theorem load_clean (f : ConfigFile) (h : clean (configShape false) (.obj f.members) = true) :
    clean (configShape true) (.obj (ConfigStore.load f.members).config) = true := by
  rw [load_config]
  refine clean_mergeValue _ _ _ (fun j hj => ?_) (warnConfig_distinct f.distinct) (warnConfig_clean h)
  obtain rfl := Option.some.inj hj
  exact defaultConfig_clean

theorem clean_of_load (f : ConfigFile)
    (h : clean (configShape false) (.obj (ConfigStore.load f.members).config) = true) :
    clean (configShape false) (.obj f.members) = true := by
  rw [load_config] at h
  exact clean_of_warnConfig (clean_of_mergeValue _ _ _ (warnConfig_distinct f.distinct) h)

end Load

end Fpvd.Gs
