import Fpvd.Gs.Known
import Fpvd.Gs.Decide

/-!
# Fpvd.Gs.Stale — keys of an older build and the check of a configuration (`gs/fpvdgs/schema.py`)
-/

namespace Fpvd.Gs

open Json AssocMap

/-! ## Checking -/

/-- The checks read the value through its known keys, apart from the keys of its strict blocks. -/
def Respects {ε : Type} (s : Shape) (checks : Json → List (Option ε)) : Prop :=
  ∀ a b, agrees s a b = true → clean s b = true → Passes (checks a) → Passes (checks b)

section Respects

variable {ε : Type} {s : Shape} {strict : Bool} {fields : List (String × Shape)} {m n : Dict}

variable {checks : Json → List (Option ε)} {k : String}

theorem respects_block
    (h : ∀ m n : Dict, agreesOn fields m n = true → clean (.block strict fields) (.obj n) = true →
      Passes (checks (.obj m)) → Passes (checks (.obj n))) : Respects (.block strict fields) checks := by
  intro a b hab hclean ha
  rcases eq_of_agrees hab with rfl | ⟨_, _, m, n, hs, rfl, rfl, hon⟩ | ⟨_, _, _, hs, -⟩
  · exact ha
  · obtain ⟨rfl, rfl⟩ := Shape.block.inj hs
    exact h m n hon hclean ha
  · cases hs

theorem agrees_obj {b : Json} (h : agrees (.block strict fields) (.obj m) b = true) :
    ∃ n, b = .obj n ∧ agreesOn fields m n = true := by
  rcases eq_of_agrees h with rfl | ⟨_, _, _, n, hs, hm, rfl, hon⟩ | ⟨_, _, _, hs, -⟩
  · exact ⟨m, rfl, agreesOn_refl fields m⟩
  · obtain ⟨rfl, rfl⟩ := Shape.block.inj hs
    obtain rfl := Json.obj.inj hm
    exact ⟨n, rfl, hon⟩
  · cases hs

theorem find?_eq (h : agreesOn fields m n = true) (hk : find? k fields = some .value) :
    find? k m = find? k n := by
  rcases agreesAt_cases (agreesAt_field h hk) with ⟨ha, hb⟩ | ⟨a, b, ha, hb, hab⟩
  · rw [ha, hb]
  · rw [ha, hb, agrees_value hab]

theorem got_eq (h : agreesOn fields m n = true) (hk : find? k fields = some .value) :
    Dict.got m k = Dict.got n k := by
  rw [Dict.got, find?_eq h hk]
  rfl

theorem getOr_eq (h : agreesOn fields m n = true) (hk : find? k fields = some .value)
    (d : Json) : Dict.getOr m k d = Dict.getOr n k d := by
  rw [Dict.getOr, Dict.getOr, find?_eq h hk]

theorem getOr_agrees (h : agreesOn fields m n = true) (hk : find? k fields = some s) (d : Json) :
    agrees s (Dict.getOr m k d) (Dict.getOr n k d) = true := by
  rw [Dict.getOr, Dict.getOr]
  rcases agreesAt_cases (agreesAt_field h hk) with ⟨ha, hb⟩ | ⟨a, b, ha, hb, hab⟩
  · rw [ha, hb]
    exact agrees_refl s d
  · rw [ha, hb]
    exact hab

theorem got_agrees (h : agreesOn fields m n = true) (hk : find? k fields = some s) :
    agreesAt s (Dict.got m k) (Dict.got n k) = true := by
  rw [Dict.got, Dict.got]
  rcases agreesAt_cases (agreesAt_field h hk) with ⟨ha, hb⟩ | ⟨a, b, ha, hb, hab⟩
  · rw [ha, hb]
    rfl
  · rw [ha, hb]
    rcases eq_of_agrees hab with rfl | ⟨_, _, _, _, -, rfl, rfl, -⟩ | ⟨_, _, _, -, rfl, rfl, -⟩
    · exact agreesAt_refl _ _
    · exact hab
    · exact hab

theorem getOr_clean {d : Json} (h : clean (.block strict fields) (.obj n) = true)
    (hk : find? k fields = some s) (hd : clean s d = true) :
    clean s (Dict.getOr n k d) = true := by
  rw [Dict.getOr]
  cases hv : find? k n with
  | none => exact hd
  | some v => exact (clean_block_iff.mp h).2 (k, s) (mem_of_find? hk) v hv

theorem got_clean {v : Json} (h : clean (.block strict fields) (.obj n) = true)
    (hk : find? k fields = some s) (hv : Dict.got n k = some v) : clean s v = true := by
  refine (clean_block_iff.mp h).2 (k, s) (mem_of_find? hk) v ?_
  rw [Dict.got] at hv
  split at hv
  · cases hv
  · exact hv

theorem elim_passes (hchecks : Respects s checks) (h : agreesOn fields m n = true)
    (hclean : clean (.block strict fields) (.obj n) = true) (hk : find? k fields = some s)
    (hm : Passes ((Dict.got m k).elim [] checks)) :
    Passes ((Dict.got n k).elim [] checks) := by
  rcases agreesAt_cases (got_agrees h hk) with ⟨-, hb⟩ | ⟨a, b, ha, hb, hab⟩
  · rw [hb]
    exact passes_nil
  · rw [ha] at hm
    rw [hb]
    exact hchecks a b hab (got_clean hclean hk hb) hm

theorem forBlock_passes {checks : Json → List (Option PyError)} (hchecks : Respects s checks)
    (h : agreesOn fields m n = true) (hclean : clean (.block strict fields) (.obj n) = true)
    (hk : find? k fields = some s) (hm : Passes (forBlock checks (Dict.got m k))) :
    Passes (forBlock checks (Dict.got n k)) := by
  have heq : ∀ v, forBlock checks v = v.elim [] checks := fun v => by cases v <;> rfl
  rw [heq] at hm ⊢
  exact elim_passes hchecks h hclean hk hm

theorem respects_strict {known : List String}
    (h : ∀ m n, agreesOn (leaf known) m n = true → (∀ k ∈ keys n, k ∈ known) →
      Passes (checks (.obj m)) → Passes (checks (.obj n))) :
    Respects (.block true (leaf known)) checks := by
  refine respects_block fun m n hmn hclean => h m n hmn fun k hk => ?_
  simpa [leaf, Function.comp_def] using (clean_block_iff.mp hclean).1 rfl k hk

end Respects

section Blocks

variable {known : List String} {m n : Dict} {k : String}

theorem find?_leaf (hk : k ∈ known) : find? k (leaf known) = some .value := by
  induction known with
  | nil => cases hk
  | cons j known ih =>
    rw [leaf, List.map_cons, find?_cons]
    split_ifs with hj
    · rfl
    · exact ih ((List.mem_cons.mp hk).resolve_left hj)

theorem got_leaf (h : agreesOn (leaf known) m n = true) (hk : k ∈ known) : Dict.got m k = Dict.got n k :=
  got_eq h (find?_leaf hk)

theorem getOr_leaf (h : agreesOn (leaf known) m n = true) (hk : k ∈ known) (d : Json) :
    Dict.getOr m k d = Dict.getOr n k d :=
  getOr_eq h (find?_leaf hk) d

theorem forKeys_leaf (h : agreesOn (leaf known) m n = true) {keys : List String}
    (hkeys : ∀ k ∈ keys, k ∈ known) (check : String → Option Json → Option PyError) (name : String) :
    forKeys check name m keys = forKeys check name n keys :=
  List.map_congr_left fun k hk => by rw [got_leaf h (hkeys k hk)]

theorem validateTap_respects : Respects (.block true (leaf tapKeys)) validateTap := by
  refine respects_strict fun m n h hkeys hm => ?_
  simp only [validateTap, passes_cons, raiseIf_eq_none, decide_eq_false_iff_not, not_not] at hm ⊢
  simp (disch := decide) only [dictOf, unknownKeys_eq_none, getOr_leaf h] at hm ⊢
  exact ⟨rfl, hkeys, hm.2.2⟩

theorem validateProbe_respects : Respects (.block true (leaf probeKeys)) validateProbe := by
  refine respects_strict fun m n h hkeys hm => ?_
  simp only [validateProbe, passes_cons, raiseIf_eq_none, decide_eq_false_iff_not, not_not] at hm ⊢
  simp (disch := decide) only [dictOf, unknownKeys_eq_none, getOr_leaf h] at hm ⊢
  exact ⟨rfl, hkeys, hm.2.2⟩

theorem validateFlightlog_respects :
    Respects (.block true (leaf ["enabled"])) validateFlightlog := by
  refine respects_strict fun m n h hkeys hm => ?_
  simp only [validateFlightlog, validateBlockKeys, passes_append, passes_cons, raiseIf_eq_none,
    decide_eq_false_iff_not, not_not] at hm ⊢
  simp (disch := decide) only [dictOf, unknownKeys_eq_none, getOr_leaf h] at hm ⊢
  exact ⟨⟨rfl, hkeys, passes_nil⟩, hm.2⟩

theorem validateBeamforming_respects :
    Respects (.block true (leaf ["enabled"])) validateBeamforming := by
  refine respects_strict fun m n h hkeys hm => ?_
  simp only [validateBeamforming, validateBlockKeys, passes_append, passes_cons, raiseIf_eq_none,
    decide_eq_false_iff_not, not_not] at hm ⊢
  simp (disch := decide) only [dictOf, unknownKeys_eq_none, getOr_leaf h] at hm ⊢
  exact ⟨⟨rfl, hkeys, passes_nil⟩, hm.2⟩

theorem validateSelector_respects : Respects (.block true (leaf selectorKeys)) validateSelector := by
  refine respects_strict fun m n h hkeys hm => ?_
  simp (disch := decide) only [validateSelector, dictOf, passes_cons, passes_append, forKeys_leaf h,
    validateBlockKeys, got_leaf h, unknownKeys_eq_none, validateMargins, getOr_leaf h, and_assoc] at hm ⊢
  exact ⟨rfl, hkeys, hm.2.2⟩

theorem validateSmoothing_respects : Respects (.block true (leaf smoothingKeys)) validateSmoothing := by
  refine respects_strict fun m n h hkeys hm => ?_
  simp (disch := decide) only [validateSmoothing, dictOf, passes_cons, passes_append, forKeys_leaf h,
    validateBlockKeys, unknownKeys_eq_none, and_assoc] at hm ⊢
  exact ⟨rfl, hkeys, hm.2.2⟩

theorem validateLearnedPrior_respects :
    Respects (.block true (leaf learnedPriorKeys)) validateLearnedPrior := by
  refine respects_strict fun m n h hkeys hm => ?_
  simp (disch := decide) only [validateLearnedPrior, dictOf, passes_cons, passes_append,
    forKeys_leaf h, validateBlockKeys, unknownKeys_eq_none, and_assoc] at hm ⊢
  exact ⟨rfl, hkeys, hm.2.2⟩

theorem dynamicLinkChecks_passes (h : agreesOn (dynamicLinkFields true) m n = true)
    (hclean : clean (dynamicLinkShape true) (.obj n) = true) (hm : Passes (dynamicLinkChecks m)) :
    Passes (dynamicLinkChecks n) := by
  have hkeys : ∀ k ∈ keys n, k ∈ dynamicLinkKeys := by
    have hfields : ∀ k ∈ (dynamicLinkFields true).map Prod.fst, k ∈ dynamicLinkKeys := by decide
    exact fun k hk => hfields k ((clean_block_iff.mp hclean).1 rfl k hk)
  simp only [dynamicLinkChecks, passes_append, passes_cons, unknownKeys_eq_none, raiseIf_eq_none,
    decide_eq_false_iff_not, not_not] at hm ⊢
  rw [getOr_eq h rfl, getOr_eq h rfl, getOr_eq h rfl] at hm
  obtain ⟨⟨⟨⟨⟨⟨⟨⟨-, hvalues⟩, htap⟩, hprobe⟩, henabled⟩, hsel⟩, hsmooth⟩, hprior⟩, hlog⟩ := hm
  refine ⟨⟨⟨⟨⟨⟨⟨⟨hkeys, hvalues⟩, ?_⟩, ?_⟩, henabled⟩, ?_⟩, ?_⟩, ?_⟩, ?_⟩
  · exact forBlock_passes validateTap_respects h hclean rfl htap
  · exact forBlock_passes validateProbe_respects h hclean rfl hprobe
  · exact forBlock_passes validateSelector_respects h hclean rfl hsel
  · exact forBlock_passes validateSmoothing_respects h hclean rfl hsmooth
  · exact forBlock_passes validateLearnedPrior_respects h hclean rfl hprior
  · exact forBlock_passes validateFlightlog_respects h hclean rfl hlog

theorem validateWfb_respects (isDigit : String → Bool) :
    Respects (wfbShape true) (validateWfb isDigit) := by
  refine respects_block fun m n h hclean hm => ?_
  simp only [validateWfb, dictOf, passes_append, passes_cons] at hm ⊢
  obtain ⟨⟨-, htxsel⟩, hmav⟩ := hm
  refine ⟨⟨⟨rfl, passes_nil⟩, forBlock_passes ?_ h hclean rfl htxsel⟩,
    forBlock_passes ?_ h hclean rfl hmav⟩
  · refine respects_strict fun m n h hkeys hm => ?_
    simp (disch := decide) only [validateBlockKeys, passes_append, passes_cons, dictOf,
      unknownKeys_eq_none, got_leaf h] at hm ⊢
    exact ⟨⟨rfl, hkeys, passes_nil⟩, hm.2⟩
  · refine respects_block fun m n h _ hm => ?_
    simp (disch := decide) only [passes_cons, got_leaf h] at hm ⊢
    exact ⟨rfl, hm.2⟩

theorem validateDrone_respects : Respects (.block false (leaf droneKeys)) validateDrone := by
  refine respects_block fun m n h _ hm => ?_
  simp only [validateDrone, passes_cons, raiseIf_eq_none, decide_eq_false_iff_not, not_not] at hm ⊢
  simp (disch := decide) only [dictOf, getOr_leaf h] at hm ⊢
  exact ⟨rfl, hm.2⟩

theorem validateConnectionMonitor_respects :
    Respects (.block false (leaf monitorKeys)) validateConnectionMonitor := by
  refine respects_block fun m n h _ hm => ?_
  simp only [validateConnectionMonitor, passes_append, passes_cons, raiseIf_eq_none,
    decide_eq_false_iff_not, not_not] at hm ⊢
  simp (disch := decide) only [dictOf, getOr_leaf h, got_leaf h, forKeys_leaf h, validateStale] at hm ⊢
  exact ⟨⟨⟨rfl, hm.1.1.2⟩, hm.1.2⟩, hm.2⟩

theorem validateIdrForward_respects :
    Respects (.block false (leaf ["enabled", "port"])) validateIdrForward := by
  refine respects_block fun m n h _ hm => ?_
  simp only [validateIdrForward, schemaErrorIf, Option.map_eq_none_iff, passes_cons, raiseIf_eq_none,
    decide_eq_false_iff_not, not_not] at hm ⊢
  simp (disch := decide) only [dictOf, getOr_leaf h] at hm ⊢
  exact ⟨rfl, hm.2⟩

theorem validateCard_respects : Respects (.block true (leaf cardKeys)) validateCard := by
  refine respects_strict fun m n h hkeys hm => ?_
  simp only [validateCard, validateCardBlock, passes_cons, raiseIf_eq_none,
    decide_eq_false_iff_not, not_not] at hm ⊢
  simp (disch := decide) only [getOr_leaf h, got_leaf h, find?_eq h (find?_leaf _), unknownKeys_eq_none]
    at hm ⊢
  exact ⟨hm.1, hkeys, hm.2.2⟩

theorem validateCards_respects : Respects (.list (.block true (leaf cardKeys)))
    (fun cards => if cards = .str "auto" then [] else validateCards cards) := by
  intro a b hab hclean ha
  rcases eq_of_agrees hab with rfl | ⟨_, _, _, _, hs, -⟩ | ⟨_, xs, ys, hs, rfl, rfl, hxy⟩
  · exact ha
  · cases hs
  · obtain rfl := Shape.list.inj hs
    simp only [reduceCtorEq, if_false, validateCards] at ha ⊢
    rw [clean] at hclean
    clear hab hs
    induction hxy with
    | nil => exact passes_nil
    | cons hxy _ ih =>
      rw [List.flatMap_cons, passes_append] at ha ⊢
      rw [List.all_cons, Bool.and_eq_true] at hclean
      exact ⟨validateCard_respects _ _ hxy hclean.1 ha.1, ih hclean.2 ha.2⟩

theorem validatePixelpilot_respects : Respects pixelpilotShape validatePixelpilot := by
  refine respects_block fun m n h _ hm => ?_
  have hdvr := getOr_agrees h (k := "dvr") rfl (.obj [])
  have hplain := (agreesOn_append.mp h).1
  simp only [validatePixelpilot, passes_append, passes_cons, passes_liftChecks, raiseIf_eq_none,
    decide_eq_false_iff_not, not_not] at hm ⊢
  simp (disch := decide) only [dictOf, getOr_leaf hplain, forKeys_leaf hplain] at hm ⊢
  obtain ⟨-, ⟨⟨hvalues, hobj, -⟩, htexts⟩, hfmp4, hseq, hrest⟩ := hm
  cases hd : Dict.getOr m "dvr" (.obj []) with
  | obj d =>
    rw [hd] at hdvr htexts hfmp4 hseq
    obtain ⟨d', hd', hon⟩ := agrees_obj hdvr
    simp (disch := decide) only [forKeys_leaf hon, getOr_leaf hon] at htexts hfmp4 hseq
    rw [hd']
    exact ⟨⟨rfl, passes_nil⟩, ⟨⟨hvalues, rfl, passes_nil⟩, htexts⟩, hfmp4, hseq, hrest⟩
  | _ =>
    rw [hd] at hobj
    cases hobj

section Cards

variable {py : PyNumbers} {strict : Bool} {x y : Json} {xs ys : List Json}

theorem parseEntry_congr (h : agrees (.block strict (leaf cardKeys)) x y = true) :
    Wfb.parseEntry py x = Wfb.parseEntry py y := by
  rcases eq_of_agrees h with rfl | ⟨_, _, m, n, hs, rfl, rfl, hon⟩ | ⟨_, _, _, hs, -⟩
  · rfl
  · obtain ⟨rfl, rfl⟩ := Shape.block.inj hs
    simp (disch := decide) only [Wfb.parseEntry, Wfb.cardFromDict, find?_eq hon (find?_leaf _),
      Dict.int, Dict.read, got_leaf hon, getOr_leaf hon]
  · cases hs

theorem parseEntries_congr
    (h : List.Forall₂ (fun x y => agrees (.block strict (leaf cardKeys)) x y = true) xs ys) :
    Wfb.parseEntries py xs = Wfb.parseEntries py ys := by
  unfold Wfb.parseEntries
  induction h with
  | nil => rfl
  | cons hxy _ ih => rw [List.mapM_cons, List.mapM_cons, parseEntry_congr hxy, ih]

theorem cards_cases (py : PyNumbers) {a b : Option Json}
    (h : agreesAt (.list (.block strict (leaf cardKeys))) a b = true) : a = b ∨
      ∃ xs ys, a = some (.arr xs) ∧ b = some (.arr ys) ∧
        Wfb.parseEntries py xs = Wfb.parseEntries py ys := by
  rcases agreesAt_cases h with ⟨rfl, rfl⟩ | ⟨a, b, rfl, rfl, hab⟩
  · exact .inl rfl
  · rcases eq_of_agrees hab with rfl | ⟨_, _, _, _, hs, -⟩ | ⟨_, xs, ys, hs, rfl, rfl, hxy⟩
    · exact .inl rfl
    · cases hs
    · obtain rfl := Shape.list.inj hs
      exact .inr ⟨xs, ys, rfl, rfl, parseEntries_congr hxy⟩

theorem parseCards_congr {m n : Dict} (h : agreesOn linkFields m n = true) :
    Wfb.parseCards py m = Wfb.parseCards py n := by
  have hcards := cards_cases py (got_agrees h (k := "cards") rfl)
  have hwlans := cards_cases py (got_agrees h (k := "wlans") rfl)
  unfold Wfb.parseCards
  rcases hcards with hcards | ⟨xs, ys, hx, hy, hxy⟩
  · rw [hcards]
    rcases hwlans with hwlans | ⟨xs, ys, hx, hy, hxy⟩
    · rw [hwlans]
    · rw [hx, hy]
      split <;> simp_all
  · rw [hx, hy]
    simp only [hxy]

end Cards

end Blocks

/-! ## The configuration as a whole -/

/-- The driver hook looks at the cards of a configuration only, as the one of `build_app` does. -/
def Platform.ReadsCards (pl : Platform) : Prop :=
  ∀ a b : Dict, Wfb.parseCards pl.py (dictOf (a.getOr "link" (.obj []))) =
    Wfb.parseCards pl.py (dictOf (b.getOr "link" (.obj []))) → pl.bfCapable a = pl.bfCapable b

section Whole

variable {pl : Platform} {a b : Dict}

theorem validateWidth_congr (h : agreesOn (configFields true) a b = true) (w : Option Json) :
    validateWidth a w = validateWidth b w := by
  cases w with
  | none => rfl
  | some w =>
    have hdl := getOr_agrees h (k := "dynamicLink") rfl .null
    unfold validateWidth
    rcases eq_of_agrees hdl with heq | ⟨_, _, m, n, hs, hm, hn, hon⟩ | ⟨_, _, _, hs, -⟩
    · rw [heq]
    · obtain ⟨rfl, rfl⟩ := Shape.block.inj hs
      rw [hm, hn]
      simp only [hasGet, Json.isObject, if_true, ite_self, dictOf]
      rw [getOr_eq hon rfl]
    · cases hs

theorem validateBfCapable_congr {x y : Option Json} (hcap : pl.bfCapable a = pl.bfCapable b)
    (h : agreesAt (.block true (leaf ["enabled"])) x y = true) :
    validateBfCapable pl a x = validateBfCapable pl b y := by
  rcases agreesAt_cases h with ⟨rfl, rfl⟩ | ⟨v, w, rfl, rfl, hvw⟩
  · rfl
  · simp only [validateBfCapable, hcap]
    rcases eq_of_agrees hvw with rfl | ⟨_, _, m, n, hs, rfl, rfl, hon⟩ | ⟨_, _, _, hs, -⟩
    · rfl
    · obtain ⟨rfl, rfl⟩ := Shape.block.inj hs
      rw [dictOf, dictOf, getOr_leaf hon (by decide)]
    · cases hs

theorem linkChecks_passes (hhook : pl.ReadsCards) (h : agreesOn (configFields true) a b = true)
    (hclean : clean (configShape true) (.obj b) = true)
    (hform : hasGet (a.getOr "link" (.obj [])) = none) (ha : Passes (linkChecks pl a)) :
    hasGet (b.getOr "link" (.obj [])) = none ∧ Passes (linkChecks pl b) := by
  have hlink := getOr_agrees h (k := "link") rfl (.obj [])
  have hlinkClean := getOr_clean hclean (k := "link") rfl (d := .obj []) rfl
  cases hm : Dict.getOr a "link" (.obj []) with
  | obj m =>
    rw [hm] at hlink
    obtain ⟨n, hn, hon⟩ := agrees_obj hlink
    rw [hn] at hlinkClean
    have hcards : Wfb.parseCards pl.py m = Wfb.parseCards pl.py n := parseCards_congr hon
    have hcap : pl.bfCapable a = pl.bfCapable b := hhook a b (by rw [hm, hn]; exact hcards)
    rw [hn]
    refine ⟨rfl, ?_⟩
    simp only [linkChecks, hm, hn, dictOf, passes_append, passes_cons, passes_liftChecks,
      validateSingleRemoteHost, hcards] at ha ⊢
    rw [validateWidth_congr h, got_eq hon rfl, validateBfCapable_congr hcap (got_agrees hon rfl),
      got_eq hon (k := "serverAddress") rfl] at ha
    obtain ⟨⟨⟨⟨hwidth, hneeded⟩, hbf⟩, hlist⟩, hrest⟩ := ha
    refine ⟨⟨⟨⟨hwidth, ?_⟩, ?_⟩, ?_⟩, hrest⟩
    · rwa [getOr_eq hon rfl, getOr_eq hon (k := "channel") rfl] at hneeded
    · exact forBlock_passes validateBeamforming_respects hon hlinkClean rfl hbf
    · exact forBlock_passes validateCards_respects hon hlinkClean rfl hlist
  | _ =>
    rw [hm] at hform
    cases hform

theorem dynamicLinkPart_passes (h : agreesOn (configFields true) a b = true)
    (hclean : clean (configShape true) (.obj b) = true) (ha : Passes (dynamicLinkPart a)) :
    Passes (dynamicLinkPart b) := by
  have heq : ∀ cfg : Dict, dynamicLinkPart cfg = (cfg.got "dynamicLink").elim [] fun dl =>
      [dynamicLinkForm dl] ++ liftChecks (dynamicLinkChecks (dictOf dl)) := by
    intro cfg
    unfold dynamicLinkPart
    cases cfg.got "dynamicLink" <;> rfl
  rw [heq] at ha ⊢
  refine elim_passes (respects_block fun m n h hclean hm => ?_) h hclean rfl ha
  simp only [passes_append, passes_cons, passes_liftChecks, dictOf] at hm ⊢
  exact ⟨⟨rfl, passes_nil⟩, dynamicLinkChecks_passes h hclean hm.2⟩

theorem pixelpilotPart_passes (h : agreesOn (configFields true) a b = true)
    (hclean : clean (configShape true) (.obj b) = true) (ha : Passes (pixelpilotPart a)) :
    Passes (pixelpilotPart b) := by
  have heq : ∀ cfg : Dict, pixelpilotPart cfg = (cfg.got "pixelpilot").elim [] validatePixelpilot := by
    intro cfg
    unfold pixelpilotPart
    cases cfg.got "pixelpilot" <;> rfl
  rw [heq] at ha ⊢
  exact elim_passes validatePixelpilot_respects h hclean rfl ha

theorem idrForwardPart_passes (h : agreesOn (configFields true) a b = true)
    (hclean : clean (configShape true) (.obj b) = true) (ha : Passes (idrForwardPart a)) :
    Passes (idrForwardPart b) := by
  have heq : ∀ cfg : Dict, idrForwardPart cfg = (cfg.got "idrForward").elim [] validateIdrForward := by
    intro cfg
    unfold idrForwardPart
    cases cfg.got "idrForward" <;> rfl
  rw [heq] at ha ⊢
  exact elim_passes validateIdrForward_respects h hclean rfl ha

theorem effective_congr (hhook : pl.ReadsCards)
    (h : agrees (configShape true) (.obj a) (.obj b) = true)
    (hclean : clean (configShape true) (.obj b) = true) (ha : validateEffective pl a = .ok ()) :
    validateEffective pl b = .ok () := by
  rw [configShape, agrees] at h
  rw [validateEffective_ok, effectiveChecks_eq] at ha ⊢
  simp only [passes_append, passes_cons, passes_liftChecks] at ha ⊢
  obtain ⟨⟨hform, -⟩, hlink, hdl, hpp, hidr, hcm, hdrone, hwfb⟩ := ha
  obtain ⟨hform, hlink⟩ := linkChecks_passes hhook h hclean hform hlink
  refine ⟨⟨hform, passes_nil⟩, hlink, ?_, ?_, ?_, ?_, ?_, ?_⟩
  · exact dynamicLinkPart_passes h hclean hdl
  · exact pixelpilotPart_passes h hclean hpp
  · exact idrForwardPart_passes h hclean hidr
  · exact forBlock_passes validateConnectionMonitor_respects h hclean rfl hcm
  · exact forBlock_passes validateDrone_respects h hclean rfl hdrone
  · exact forBlock_passes (validateWfb_respects _) h hclean rfl hwfb

/-! ## What is accepted is clean -/

/-- What passes the checks has no unknown key in a strict block. -/
def Cleans {ε : Type} (s : Shape) (checks : Json → List (Option ε)) : Prop :=
  ∀ v, Passes (checks v) → clean s v = true

theorem clean_loose {fields : List (String × Shape)} {v : Json}
    (h : ∀ e ∈ fields, ∀ x, clean e.2 x = true) : clean (.block false fields) v = true := by
  cases v with
  | obj m => exact clean_block_iff.mpr ⟨nofun, fun e he x _ => h e he x⟩
  | _ => rfl

theorem clean_value (v : Json) : clean .value v = true := by
  unfold clean
  rfl

theorem clean_leaf {keys : List String} {v : Json} : clean (.block false (leaf keys)) v = true := by
  refine clean_loose fun e he x => ?_
  rw [(mem_leaf he).2]
  exact clean_value x

theorem cleans_strict {ε : Type} {known : List String} {checks : Json → List (Option ε)}
    (h : ∀ m, Passes (checks (.obj m)) → ∀ k ∈ keys m, k ∈ known) :
    Cleans (.block true (leaf known)) checks := by
  intro v hv
  cases v with
  | obj m =>
    refine clean_block_iff.mpr ⟨fun _ k hk => ?_, fun e he x _ => ?_⟩
    · simpa [leaf, Function.comp_def] using h m hv k hk
    · rw [(mem_leaf he).2]
      exact clean_value x
  | _ => rfl

theorem clean_of_forBlock {s : Shape} {checks : Json → List (Option PyError)} {m : Dict} {k : String}
    {v : Json} (hchecks : Cleans s checks) (h : Passes (forBlock checks (m.got k)))
    (hv : find? k m = some v) : clean s v = true := by
  cases v with
  | null => cases s <;> rfl
  | _ =>
    refine hchecks _ ?_
    rwa [Dict.got, hv] at h

theorem validateProbe_cleans : Cleans (.block true (leaf probeKeys)) validateProbe := by
  refine cleans_strict fun m hm => ?_
  simp only [validateProbe, passes_cons, unknownKeys_eq_none] at hm
  exact hm.2.1

theorem validateFlightlog_cleans : Cleans (.block true (leaf ["enabled"])) validateFlightlog := by
  refine cleans_strict fun m hm => ?_
  simp only [validateFlightlog, validateBlockKeys, passes_append, passes_cons, unknownKeys_eq_none] at hm
  exact hm.1.2.1

theorem validateBeamforming_cleans : Cleans (.block true (leaf ["enabled"])) validateBeamforming := by
  refine cleans_strict fun m hm => ?_
  simp only [validateBeamforming, validateBlockKeys, passes_append, passes_cons, unknownKeys_eq_none] at hm
  exact hm.1.2.1

theorem validateCards_cleans : Cleans (.list (.block true (leaf cardKeys)))
    (fun cards => if cards = .str "auto" then [] else validateCards cards) := by
  intro v hv
  cases v with
  | arr xs =>
    simp only [reduceCtorEq, if_false, validateCards] at hv
    have hcard : Cleans (.block true (leaf cardKeys)) validateCard := by
      refine cleans_strict fun m hm => ?_
      simp only [validateCard, validateCardBlock, passes_cons, unknownKeys_eq_none] at hm
      exact hm.2.1
    rw [clean, List.all_eq_true]
    exact fun x hx => hcard x fun c hc => hv c (List.mem_flatMap.mpr ⟨x, hx, hc⟩)
  | _ => rfl

theorem clean_dynamicLink {dl : Dict} (h : Passes (dynamicLinkChecks dl)) :
    clean (dynamicLinkShape false) (.obj dl) = true := by
  simp only [dynamicLinkChecks, passes_append] at h
  obtain ⟨⟨⟨⟨⟨⟨-, hprobe⟩, -⟩, -⟩, -⟩, -⟩, hlog⟩ := h
  refine clean_block_iff.mpr ⟨fun h => absurd h Bool.false_ne_true, ?_⟩
  simp only [dynamicLinkFields, leaf, List.map_cons, List.map_nil, List.cons_append, List.nil_append,
    List.forall_mem_cons]
  refine ⟨fun v _ => clean_value v, fun v _ => clean_value v, fun v _ => clean_value v,
    fun _ _ => clean_leaf, fun _ _ => clean_leaf,
    fun v hv => clean_of_forBlock validateFlightlog_cleans hlog hv, fun _ _ => clean_leaf,
    fun _ _ => clean_leaf, fun v hv => clean_of_forBlock validateProbe_cleans hprobe hv, List.forall_mem_nil _⟩

theorem clean_link {link : Dict} (hbf : Passes (forBlock validateBeamforming (link.got "beamforming")))
    (hcards : Passes (forBlock
      (fun cards => if cards = .str "auto" then [] else validateCards cards) (link.got "cards"))) :
    clean (.block false linkFields) (.obj link) = true := by
  refine clean_block_iff.mpr ⟨nofun, ?_⟩
  rw [linkFields, List.forall_mem_append]
  refine ⟨fun e he v _ => (mem_leaf he).2 ▸ clean_value v, ?_⟩
  simp only [List.forall_mem_cons]
  refine ⟨fun v hv => clean_of_forBlock validateBeamforming_cleans hbf hv,
    fun v hv => clean_of_forBlock validateCards_cleans hcards hv, fun v _ => ?_, nofun⟩
  cases v with
  | arr xs =>
    rw [clean, List.all_eq_true]
    exact fun _ _ => clean_leaf
  | _ => rfl

theorem effective_clean (h : validateEffective pl a = .ok ()) :
    clean (configShape false) (.obj a) = true := by
  rw [validateEffective_ok, effectiveChecks_eq] at h
  simp only [passes_append, passes_cons, linkChecks, passes_liftChecks] at h
  obtain ⟨-, ⟨⟨⟨-, hbf⟩, hcards⟩, -⟩, hdl, -⟩ := h
  refine clean_block_iff.mpr ⟨fun h => absurd h Bool.false_ne_true, ?_⟩
  simp only [configFields, List.forall_mem_cons]
  refine ⟨fun v hv => ?_, fun v _ => ?_, fun _ _ => clean_leaf, fun v hv => ?_, fun v _ => ?_,
    fun _ _ => clean_leaf, fun _ _ => clean_leaf, List.forall_mem_nil _⟩
  · cases v with
    | obj link =>
      rw [Dict.getOr, hv] at hbf hcards
      exact clean_link hbf hcards
    | _ => rfl
  · refine clean_loose ?_
    simp only [List.forall_mem_cons]
    exact ⟨clean_value, fun _ => clean_loose (List.forall_mem_nil _), fun _ => clean_leaf, fun _ => clean_leaf, List.forall_mem_nil _⟩
  · cases v with
    | obj dl =>
      rw [dynamicLinkPart, Dict.got, hv] at hdl
      simp only [passes_append, passes_liftChecks] at hdl
      exact clean_dynamicLink hdl.2
    | _ => rfl
  · refine clean_loose ?_
    rw [List.forall_mem_append]
    refine ⟨fun e he v => (mem_leaf he).2 ▸ clean_value v, ?_⟩
    simp only [List.forall_mem_cons]
    exact ⟨fun _ => clean_leaf, List.forall_mem_nil _⟩

/-- **When unknown keys stop a start.**  Two files differ in unknown keys only, and the first is
accepted.  What is loaded from them agrees, and the second is accepted exactly if it has no unknown key
in a strict block that the loader does not prune: `dynamicLink.probe`, `dynamicLink.flightlog`,
`link.beamforming` and the entries of `link.cards`. -/
theorem stale_keys_iff (hhook : pl.ReadsCards) (file file' : ConfigFile)
    (hsame : agrees (configShape true) (.obj file.members) (.obj file'.members) = true)
    (hok : validateEffective pl (ConfigStore.load file.members).config = .ok ()) :
    agrees (configShape true) (.obj (ConfigStore.load file.members).config)
        (.obj (ConfigStore.load file'.members).config) = true ∧
      (validateEffective pl (ConfigStore.load file'.members).config = .ok () ↔
        clean (configShape false) (.obj file'.members) = true) := by
  have hload := load_agrees file file' hsame
  refine ⟨hload, fun h => clean_of_load file' (effective_clean h), fun hclean => ?_⟩
  exact effective_congr hhook hload (load_clean file' hclean) hok

end Whole

def plainFile : ConfigFile where
  members := [("dynamicLink", .obj [("probe", .obj []), ("selector", .obj [("promoteDwellTicks", .int 3)])])]
  distinct := by decide

def staleFile : ConfigFile where
  members := [("dynamicLink", .obj [("probe", .obj []),
    ("selector", .obj [("emergencyLossRate", .real (1 / 10)), ("promoteDwellTicks", .int 3)])])]
  distinct := by decide

def staleProbe : ConfigFile where
  members := [("dynamicLink", .obj [("probe", .obj [("rateHz", .int 10)]),
    ("selector", .obj [("promoteDwellTicks", .int 3)])])]
  distinct := by decide

theorem plainPlatform_readsCards : plainPlatform.ReadsCards := fun _ _ _ => rfl

theorem stale_keys_selector :
    agrees (configShape true) (.obj (ConfigStore.load plainFile.members).config)
        (.obj (ConfigStore.load staleFile.members).config) = true ∧
      (validateEffective plainPlatform (ConfigStore.load staleFile.members).config = .ok () ↔
        clean (configShape false) (.obj staleFile.members) = true) :=
  stale_keys_iff plainPlatform_readsCards plainFile staleFile (by decide +kernel) (by decide +kernel)

/-- **An unknown key in `dynamicLink.probe` stops the start.** -/
theorem stale_probe_bricks :
    agrees (configShape true) (.obj plainFile.members) (.obj staleProbe.members) = true ∧
      validateEffective plainPlatform (ConfigStore.load plainFile.members).config = .ok () ∧
      validateEffective plainPlatform (ConfigStore.load staleProbe.members).config =
        .error (.py (.schemaError "unknown dynamicLink.probe keys: ['rateHz']")) := by
  decide +kernel

end Fpvd.Gs
