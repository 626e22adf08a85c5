import Fpvd.Gs.Decide
import Fpvd.Gs.Services

/-!
# Fpvd.Gs.Guard — what the check of a configuration guards (`gs/fpvdgs/dynlink/config_build.py`)

`validate_effective` stands before the builders of the dynamic link and the ticks of its policy.
-/

namespace Fpvd.Gs

open AssocMap

/-! ## What the builders take for granted -/

def dlBlock (cfg : Dict) : Dict := dictOf (cfg.getOr "dynamicLink" (.obj []))

def unboundedFloats : List (String × String) :=
  (["snrPromoteMarginDb", "snrDemoteMarginDb", "promoteSlopeMin", "collapseDeltaDb",
      "snapbackRecoverMarginDb", "flapSnrReleaseDb"].map fun k => ("selector", k)) ++
    [("smoothing", "starvationThresholdPps"), ("learnedPrior", "minSamples")]

/-- **What the builders take for granted** about an accepted configuration. -/
structure Buildable (py : PyNumbers) (cfg : Dict) : Prop where
  dynamicLink : find? "dynamicLink" cfg ≠ some .null
  drone : find? "drone" cfg ≠ some .null
  width : find? "width" (dictOf (cfg.getOr "link" (.obj []))) ≠ some .null
  knobs : ∀ b ∈ ["selector", "smoothing", "learnedPrior"], ∀ k,
    find? k ((dlBlock cfg).sub b) ≠ some .null
  floats : ∀ e ∈ unboundedFloats, ∀ i : ℤ,
    find? e.2 ((dlBlock cfg).sub e.1) = some (.int i) → overflows i = false
  /-- the knobs of the damper, which the check does not look at -/
  damperInts : ∀ k ∈ ["flapBaseBackoffMs", "flapBackoffCapMs", "flapResetCleanDwellTicks"], ∀ v,
    find? k ((dlBlock cfg).sub "selector") = some v → ∃ i, py.toInt v = .ok i
  damperMult : ∀ v, find? "flapBackoffMult" ((dlBlock cfg).sub "selector") = some v →
    ∃ q, py.toFloat v = .ok q

section Build

variable {py : PyNumbers} {pl : Platform} {cfg blk : Dict} {key name what : String}

theorem exists_bind {ε α β : Type} {x : Except ε α} {f : α → Except ε β} (hx : ∃ a, x = .ok a)
    (hf : ∀ a, ∃ b, f a = .ok b) : ∃ b, x >>= f = .ok b := by
  obtain ⟨a, rfl⟩ := hx
  exact hf a

variable {v : Json} {ok : Json → Bool}

theorem find?_of_check (hcheck : validateValue ok what name (blk.got key) = none)
    (hnull : find? key blk ≠ some .null) (hv : find? key blk = some v) :
    ok v = true := by
  have hgot : blk.got key = some v := by
    unfold Dict.got
    rw [hv]
    cases v with
    | null => exact absurd hv hnull
    | _ => rfl
  rw [hgot] at hcheck
  simpa [validateValue] using hcheck

theorem read_ok {α : Type} {conv : Json → Except PyError α} (d : α)
    (h : ∀ v, find? key blk = some v → ∃ a, conv v = .ok a) :
    ∃ a, blk.read conv key d = .ok a := by
  unfold Dict.read
  cases hfind : find? key blk with
  | none => exact ⟨d, rfl⟩
  | some v => exact h v hfind

theorem toInt_of_number (h : (number? v).isSome = true) : ∃ i, py.toInt v = .ok i := by
  cases v with
  | int i => exact ⟨i, rfl⟩
  | real q => exact ⟨_, rfl⟩
  | _ => cases h

theorem toFloat_ok_of_number (h : (number? v).isSome = true)
    (hint : ∀ i : ℤ, v = .int i → overflows i = false) : ∃ q, py.toFloat v = .ok q := by
  cases v with
  | int i =>
    refine ⟨i, ?_⟩
    simp only [PyNumbers.toFloat, hint i rfl]
    rfl
  | real q => exact ⟨q, rfl⟩
  | _ => cases h

theorem overflows_of_le_one {x : ℚ} (h : |x| ≤ 1) : overflows x = false := by
  refine decide_eq_false (not_le.mpr (lt_of_le_of_lt h ?_))
  have hone : (1 : ℚ) ≤ 2 ^ 970 := one_le_pow₀ (by norm_num)
  have hpow : (2 : ℚ) ^ 1024 = 2 ^ 54 * 2 ^ 970 := by rw [← pow_add]
  rw [hpow]
  generalize (2 : ℚ) ^ 970 = y at hone
  linarith

theorem isPosInt_number (h : isPosInt v = true) : (number? v).isSome = true := by
  cases v with
  | int i => rfl
  | _ => cases h

theorem unit_ok {p : ℚ → Bool} (d : ℚ) (hp : ∀ x, p x = true → 0 ≤ x ∧ x ≤ 1)
    (hcheck : validateValue (fun v => (number? v).any p) what name (blk.got key) = none)
    (hnull : find? key blk ≠ some .null) : ∃ q, Dict.float py blk key d = .ok q := by
  refine read_ok d fun v hv => ?_
  have hok := find?_of_check hcheck hnull hv
  refine toFloat_ok_of_number (isSome_of_any hok) ?_
  rintro i rfl
  obtain ⟨h0, h1⟩ := hp i hok
  exact overflows_of_le_one (abs_le.mpr ⟨by linarith, h1⟩)

theorem number_ok (d : ℚ) (hnum : ∀ v, ok v = true → (number? v).isSome = true)
    (hcheck : validateValue ok what name (blk.got key) = none)
    (hnull : find? key blk ≠ some .null)
    (hint : ∀ i : ℤ, find? key blk = some (.int i) → overflows i = false) :
    ∃ q, Dict.float py blk key d = .ok q := by
  refine read_ok d fun v hv => ?_
  refine toFloat_ok_of_number (hnum v (find?_of_check hcheck hnull hv)) ?_
  rintro i rfl
  exact hint i hv

theorem int_ok (d : ℤ) (hnum : ∀ v, ok v = true → (number? v).isSome = true)
    (hcheck : validateValue ok what name (blk.got key) = none)
    (hnull : find? key blk ≠ some .null) : ∃ i, Dict.int py blk key d = .ok i :=
  read_ok d fun v hv => toInt_of_number (hnum v (find?_of_check hcheck hnull hv))

theorem passes_forKeys {check : String → Option Json → Option PyError} {keys : List String} :
    Passes (forKeys check name blk keys) ↔ ∀ k ∈ keys, check (name ++ "." ++ k) (blk.got k) = none :=
  List.forall_mem_map

section Knobs

variable {keys : List String} (py : PyNumbers) (hnull : ∀ k, find? k blk ≠ some .null)

include hnull

theorem prob_ok (h : Passes (forKeys validateProb name blk keys)) :
    ∀ k ∈ keys, ∀ d, ∃ q, Dict.float py blk k d = .ok q :=
  fun k hk d => unit_ok d (fun _ hx => of_decide_eq_true hx) (passes_forKeys.mp h k hk) (hnull k)

theorem alpha_ok (h : Passes (forKeys validateAlpha name blk keys)) :
    ∀ k ∈ keys, ∀ d, ∃ q, Dict.float py blk k d = .ok q :=
  fun k hk d => unit_ok d (fun _ hx => ⟨(of_decide_eq_true hx).1.le, (of_decide_eq_true hx).2⟩)
    (passes_forKeys.mp h k hk) (hnull k)

theorem posInt_ok (h : Passes (forKeys validatePosInt name blk keys)) :
    ∀ k ∈ keys, ∀ d, ∃ i, Dict.int py blk k d = .ok i :=
  fun k hk d => int_ok d (fun _ => isPosInt_number) (passes_forKeys.mp h k hk) (hnull k)

theorem nonNeg_int_ok (h : Passes (forKeys validateNonNegNum name blk keys)) :
    ∀ k ∈ keys, ∀ d, ∃ i, Dict.int py blk k d = .ok i :=
  fun k hk d => int_ok d (fun _ => isSome_of_any) (passes_forKeys.mp h k hk) (hnull k)

theorem nonNeg_float_ok (h : Passes (forKeys validateNonNegNum name blk keys)) : ∀ k ∈ keys,
    (∀ i : ℤ, find? k blk = some (.int i) → overflows i = false) → ∀ d,
      ∃ q, Dict.float py blk k d = .ok q :=
  fun k hk hint d => number_ok d (fun _ => isSome_of_any) (passes_forKeys.mp h k hk) (hnull k) hint

end Knobs

theorem buildSelector_ok (py : PyNumbers) {block : Dict} {sel : Json}
    (hmax : ∃ m, Dict.int py block "maxMcs" 7 = .ok m)
    (hsel : Passes (validateSelector sel)) (hnull : ∀ k, find? k (dictOf sel) ≠ some .null)
    (hfloat : ∀ k ∈ ["snrPromoteMarginDb", "snrDemoteMarginDb", "promoteSlopeMin", "collapseDeltaDb",
      "snapbackRecoverMarginDb", "flapSnrReleaseDb"], ∀ i : ℤ,
        find? k (dictOf sel) = some (.int i) → overflows i = false)
    (hdamper : ∀ k ∈ ["flapBaseBackoffMs", "flapBackoffCapMs", "flapResetCleanDwellTicks"], ∀ v,
      find? k (dictOf sel) = some v → ∃ i, py.toInt v = .ok i)
    (hmult : ∀ v, find? "flapBackoffMult" (dictOf sel) = some v → ∃ q, py.toFloat v = .ok q) :
    ∃ cfg, buildSelector py block (dictOf sel) = .ok cfg := by
  simp only [validateSelector, validateBlockKeys, passes_append, passes_cons] at hsel
  obtain ⟨⟨⟨⟨⟨-, hknown, -⟩, hprob⟩, hpos⟩, hnonneg⟩, hslope, -⟩ := hsel
  have hprob := prob_ok py hnull hprob
  have hpos := posInt_ok py hnull hpos
  have hms := nonNeg_int_ok py hnull hnonneg
  have hdb : ∀ k ∈ ["snrPromoteMarginDb", "snrDemoteMarginDb", "collapseDeltaDb",
      "snapbackRecoverMarginDb", "flapSnrReleaseDb"], ∀ d,
      ∃ q, Dict.float py (dictOf sel) k d = .ok q := by
    intro k hk
    refine nonNeg_float_ok py hnull hnonneg k ?_ (hfloat k ?_)
    all_goals
      revert k
      decide
  have hcooldown : ∀ d, ∃ i, Dict.int py (dictOf sel) "demoteCooldownWindows" d = .ok i := by
    intro d
    refine read_ok d fun v hv => ?_
    have hkey := unknownKeys_eq_none.mp hknown "demoteCooldownWindows"
      ((find?_isSome_iff _ _).mp (by rw [hv]; rfl))
    exact absurd hkey (by decide)
  have hflap : ∀ k ∈ ["flapBaseBackoffMs", "flapBackoffCapMs", "flapResetCleanDwellTicks"], ∀ d,
      ∃ i, Dict.int py (dictOf sel) k d = .ok i := fun k hk d => read_ok d (hdamper k hk)
  unfold buildSelector
  refine exists_bind (hprob _ (by simp) _) fun _ => exists_bind (hprob _ (by simp) _) fun _ => ?_
  refine exists_bind hmax fun _ => ?_
  refine exists_bind (hms _ (by simp) _) fun _ => exists_bind (hms _ (by simp) _) fun _ => ?_
  refine exists_bind (hpos _ (by simp) _) fun _ => ?_
  refine exists_bind (hdb _ (by simp) _) fun _ => exists_bind (hdb _ (by simp) _) fun _ => ?_
  refine exists_bind (hcooldown _) fun _ => exists_bind (hflap _ (by simp) _) fun _ => ?_
  refine exists_bind (read_ok _ hmult) fun _ => exists_bind (hflap _ (by simp) _) fun _ => ?_
  refine exists_bind (hflap _ (by simp) _) fun _ => exists_bind (hms _ (by simp) _) fun _ => ?_
  refine exists_bind (hpos _ (by simp) _) fun _ => exists_bind (number_ok _ (fun _ h => h) hslope
    (hnull _) (hfloat _ (by decide))) fun _ => ?_
  refine exists_bind (hdb _ (by simp) _) fun _ => exists_bind (hdb _ (by simp) _) fun _ => ?_
  refine exists_bind (hms _ (by simp) _) fun _ => exists_bind (hdb _ (by simp) _) fun _ => ?_
  exact exists_bind (hms _ (by simp) _) fun _ => ⟨_, rfl⟩

theorem buildLearnedPrior_ok (py : PyNumbers) {lp : Json} (hlp : Passes (validateLearnedPrior lp))
    (hnull : ∀ k, find? k (dictOf lp) ≠ some .null)
    (hsamples : ∀ i : ℤ, find? "minSamples" (dictOf lp) = some (.int i) →
      overflows i = false) : ∃ cfg, buildLearnedPrior py (dictOf lp) = .ok cfg := by
  simp only [validateLearnedPrior, passes_append] at hlp
  obtain ⟨⟨⟨⟨-, hsettle⟩, hmin⟩, hviable⟩, halpha⟩ := hlp
  have halpha := alpha_ok py hnull halpha
  unfold buildLearnedPrior
  refine exists_bind (posInt_ok py hnull hsettle _ (by simp) _) fun _ => ?_
  refine exists_bind (prob_ok py hnull hviable _ (by simp) _) fun _ => ?_
  refine exists_bind (halpha _ (by simp) _) fun _ => exists_bind (halpha _ (by simp) _) fun _ => ?_
  exact exists_bind (nonNeg_float_ok py hnull hmin _ (by simp) hsamples _) fun _ =>
    exists_bind (halpha _ (by simp) _) fun _ => ⟨_, rfl⟩

theorem buildSmoothing_ok (py : PyNumbers) {sm : Json} (hsm : Passes (validateSmoothing sm))
    (hnull : ∀ k, find? k (dictOf sm) ≠ some .null)
    (hpps : ∀ i : ℤ, find? "starvationThresholdPps" (dictOf sm) = some (.int i) →
      overflows i = false) :
    (∀ k ∈ ["ewmaAlphaRssi", "ewmaAlphaFec", "ewmaAlphaBurst"], ∀ d,
      ∃ q, Dict.float py (dictOf sm) k d = .ok q) ∧
    ∀ d, ∃ q, Dict.float py (dictOf sm) "starvationThresholdPps" d = .ok q := by
  simp only [validateSmoothing, passes_append] at hsm
  exact ⟨alpha_ok py hnull hsm.1.2, nonNeg_float_ok py hnull hsm.2 _ (by simp) hpps⟩

theorem sub_passes {check : Json → List (Option PyError)} {dl : Dict}
    (h : Passes (forBlock check (dl.got key))) (hnil : Passes (check (.obj []))) :
    ∃ j, dl.sub key = dictOf j ∧ Passes (check j) := by
  unfold Dict.sub
  cases hgot : dl.got key with
  | none => exact ⟨.obj [], rfl, hnil⟩
  | some j =>
    rw [hgot] at h
    exact ⟨j, rfl, h⟩

theorem sub_insert {k : String} (h : key ≠ k) (v : Json) (d : Dict) :
    Dict.sub (insert k v d) key = d.sub key := by
  unfold Dict.sub Dict.got
  rw [find?_insert, if_neg h]

theorem accepted_blocks (h : validateEffective pl cfg = .ok ()) :
    (cfg.getOr "link" (.obj [])).isObject = true ∧
    Passes (validateWidth cfg ((dictOf (cfg.getOr "link" (.obj []))).got "width")) ∧
    Passes (dynamicLinkPart cfg) ∧ Passes (forBlock validateDrone (cfg.got "drone")) := by
  rw [validateEffective_ok, effectiveChecks_eq] at h
  simp only [passes_append, passes_cons, passes_liftChecks, passes_nil, and_true] at h
  obtain ⟨hlink, hchecks, hdl, -, -, -, hdrone, -⟩ := h
  refine ⟨?_, ?_, hdl, hdrone⟩
  · unfold hasGet at hlink
    by_contra hobj
    rw [if_neg hobj] at hlink
    cases hlink
  · rw [linkChecks_eq, passes_append] at hchecks
    unfold linkHead at hchecks
    simp only [passes_append] at hchecks
    exact hchecks.1.1.1.1

theorem dlBlock_checks (h : Passes (dynamicLinkPart cfg))
    (hnull : find? "dynamicLink" cfg ≠ some .null) :
    cfg.getOr "dynamicLink" (.obj []) = .obj (dlBlock cfg) ∧ Passes (dynamicLinkChecks (dlBlock cfg)) := by
  unfold dlBlock Dict.getOr
  unfold dynamicLinkPart Dict.got at h
  cases hfind : find? "dynamicLink" cfg with
  | none => exact ⟨rfl, by decide +kernel⟩
  | some v =>
    rw [hfind] at h
    cases v with
    | null => exact absurd hfind hnull
    | obj d =>
      simp only [passes_append, passes_liftChecks] at h
      exact ⟨rfl, h.2⟩
    | _ =>
      simp only [passes_append, passes_dynamicLinkForm] at h
      obtain ⟨⟨d, hd⟩, -⟩ := h
      cases hd

theorem droneHost_ok (h : Passes (forBlock validateDrone (cfg.got "drone")))
    (hnull : find? "drone" cfg ≠ some .null) : ∃ host, droneHost cfg = .ok host := by
  unfold droneHost Dict.getOr
  unfold Dict.got at h
  cases hfind : find? "drone" cfg with
  | none => exact ⟨_, rfl⟩
  | some v =>
    rw [hfind] at h
    cases v with
    | null => exact absurd hfind hnull
    | obj d => exact ⟨_, rfl⟩
    | _ =>
      simp only [forBlock, validateDrone, passes_cons, raiseIf_eq_none] at h
      cases h.1

theorem dronePort_ok (py : PyNumbers) (dl : Dict)
    (h : isIntIn 1 65535 (dl.getOr "dronePort" (.int 9999)) = true) :
    ∃ port, dronePort py dl = .ok port := by
  unfold dronePort Dict.getOr
  unfold Dict.getOr at h
  cases hfind : find? "dronePort" dl with
  | none => exact ⟨9999, rfl⟩
  | some v =>
    rw [hfind] at h
    cases v with
    | int i =>
      dsimp only
      split_ifs
      · exact ⟨i, rfl⟩
      · exact ⟨9999, rfl⟩
    | _ => cases h

theorem linkWidth_ok (py : PyNumbers) (hlink : (cfg.getOr "link" (.obj [])).isObject = true)
    (h : Passes (validateWidth cfg ((dictOf (cfg.getOr "link" (.obj []))).got "width")))
    (hnull : find? "width" (dictOf (cfg.getOr "link" (.obj []))) ≠ some .null) :
    ∃ width, linkWidth py cfg = .ok width := by
  cases hobj : cfg.getOr "link" (.obj []) with
  | obj link =>
    rw [hobj] at h hnull
    have hconv : ∃ i, py.toInt (Dict.getOr link "width" (.int 20)) = .ok i := by
      unfold Dict.getOr
      cases hfind : find? "width" link with
      | none => exact ⟨20, rfl⟩
      | some w =>
        have hgot : Dict.got link "width" = some w := by
          unfold Dict.got
          rw [hfind]
          cases w with
          | null => exact absurd hfind hnull
          | _ => rfl
        rw [dictOf, hgot] at h
        have hvalid := h (schemaErrorIf (¬ (number? w).any (· ∈ validWidths))
          "link.width must be one of [5, 10, 20, 40]") (by simp [validateWidth])
        exact toInt_of_number (isSome_of_any (by simpa [schemaErrorIf] using hvalid))
    obtain ⟨i, hi⟩ := hconv
    exact ⟨i, by simp [linkWidth, hobj, asDict, hi, liftPy, bind, Except.bind]⟩
  | _ =>
    rw [hobj] at hlink
    cases hlink

theorem buildSelector_maxMcs {block sel : Dict} {s : SelectorConfig}
    (h : buildSelector py block sel = .ok s) : Dict.int py block "maxMcs" 7 = .ok s.maxMcs := by
  simp only [buildSelector, Json.bind_eq_ok, Json.pure_eq_ok] at h
  obtain ⟨-, -, -, -, m, hm, -, -, -, -, -, -, -, -, -, -, -, -, -, -, -, -, -, -, -, -, -, -,
    -, -, -, -, -, -, -, -, -, -, -, -, -, -, rfl⟩ := h
  exact hm

theorem builders_ok (h : validateEffective pl cfg = .ok ()) (hb : Buildable pl.py cfg) :
    ∃ snap policy smoothing, makeDlSnapshot pl.py cfg = .ok snap ∧
      buildPolicyConfig pl.py snap = .ok policy ∧ buildAggregator pl.py snap = .ok smoothing ∧
      0 ≤ policy.selector.maxMcs := by
  obtain ⟨hlink, hwidth, hdl, hdrone⟩ := accepted_blocks h
  obtain ⟨hblock, hchecks⟩ := dlBlock_checks hdl hb.dynamicLink
  obtain ⟨host, hhost⟩ := droneHost_ok hdrone hb.drone
  obtain ⟨width, hwidth⟩ := linkWidth_ok pl.py hlink hwidth hb.width
  obtain ⟨port, hport⟩ := dronePort_ok pl.py (dlBlock cfg) (by
    have hcheck := hchecks (raiseIf (¬ isIntIn 1 65535 ((dlBlock cfg).getOr "dronePort" (.int 9999)))
      "dynamicLink.dronePort must be an int in 1..65535") (by simp [dynamicLinkChecks])
    simpa using hcheck)
  have hmaxMcs : isIntIn 0 7 ((dlBlock cfg).getOr "maxMcs" (.int 5)) = true := by
    have hcheck := hchecks (raiseIf (¬ isIntIn 0 7 ((dlBlock cfg).getOr "maxMcs" (.int 5)))
      "dynamicLink.maxMcs must be an int in 0..7") (by simp [dynamicLinkChecks])
    simpa using hcheck
  rw [dynamicLinkChecks_eq] at hchecks
  simp only [passes_append] at hchecks
  obtain ⟨-, hsel, hsm, hlp, -⟩ := hchecks
  obtain ⟨sel, hselEq, hsel⟩ := sub_passes hsel (by decide +kernel)
  obtain ⟨sm, hsmEq, hsm⟩ := sub_passes hsm (by decide +kernel)
  obtain ⟨lp, hlpEq, hlp⟩ := sub_passes hlp (by decide +kernel)
  set snap := insert "linkWidth" (.int width) (insert "dronePort" (.int port)
    (insert "droneAddr" host (dlBlock cfg))) with hsnap
  have hsub : ∀ b ∈ ["selector", "smoothing", "learnedPrior"], Dict.sub snap b = (dlBlock cfg).sub b := by
    intro b hmem
    simp only [List.mem_cons, List.not_mem_nil, or_false] at hmem
    rcases hmem with rfl | rfl | rfl <;> rw [hsnap] <;> simp [sub_insert]
  have hfindMax : find? "maxMcs" snap = find? "maxMcs" (dlBlock cfg) := by
    rw [hsnap]
    simp [find?_insert]
  have hmax : ∃ m, Dict.int pl.py snap "maxMcs" 7 = .ok m := by
    refine read_ok 7 fun v hv => ?_
    rw [hfindMax] at hv
    unfold Dict.getOr at hmaxMcs
    rw [hv] at hmaxMcs
    cases v with
    | int i => exact ⟨i, rfl⟩
    | _ => cases hmaxMcs
  obtain ⟨selector, hselector⟩ := buildSelector_ok pl.py hmax hsel
    (fun k => hselEq ▸ hb.knobs "selector" (by simp) k)
    (fun k hk i hi => hb.floats ("selector", k) (List.mem_append_left _ (List.mem_map_of_mem hk)) i
      (by rw [hselEq]; exact hi))
    (fun k hk v hv => hb.damperInts k hk v (by rw [hselEq]; exact hv))
    (fun v hv => hb.damperMult v (by rw [hselEq]; exact hv))
  obtain ⟨learnedPrior, hlearned⟩ := buildLearnedPrior_ok pl.py hlp
    (fun k => hlpEq ▸ hb.knobs "learnedPrior" (by simp) k)
    (fun i hi => hb.floats ("learnedPrior", "minSamples") (by decide) i (by rw [hlpEq]; exact hi))
  obtain ⟨halpha, hpps⟩ := buildSmoothing_ok pl.py hsm
    (fun k => hsmEq ▸ hb.knobs "smoothing" (by simp) k)
    (fun i hi => hb.floats ("smoothing", "starvationThresholdPps") (by decide) i
      (by rw [hsmEq]; exact hi))
  have hagg : ∃ smoothing, buildAggregator pl.py snap = .ok smoothing := by
    unfold buildAggregator
    rw [hsub "smoothing" (by simp), hsmEq]
    refine exists_bind (halpha _ (by simp) _) fun _ => exists_bind (halpha _ (by simp) _) fun _ => ?_
    exact exists_bind (halpha _ (by simp) _) fun _ => exists_bind (hpps _) fun _ => ⟨_, rfl⟩
  obtain ⟨smoothing, hsmoothing⟩ := hagg
  refine ⟨snap, ⟨selector, learnedPrior⟩, smoothing, ?_, ?_, hsmoothing, ?_⟩
  · simp [makeDlSnapshot, hblock, toDict, hhost, hport, hwidth, hsnap, bind, Except.bind, pure,
      Except.pure]
  · simp [buildPolicyConfig, hsub, hselEq, hlpEq, hselector, hlearned, bind, Except.bind, pure,
      Except.pure]
  · refine (maxMcs_read ?_ (buildSelector_maxMcs hselector)).1
    unfold Dict.getOr
    rw [hfindMax]
    exact hmaxMcs

end Build

/-! ## Where a tick leaves the floats -/

namespace LeadingSelector

variable (cfg : SelectorConfig)

/-- A backoff with the power `k` of the multiplier: the power, the base as a float, their product and
the backoff as a float. -/
def backoffOverflows (k : ℕ) : Bool :=
  overflows (cfg.flapBackoffMult ^ k) || overflows cfg.flapBaseBackoffMs ||
    overflows (cfg.flapBaseBackoffMs * cfg.flapBackoffMult ^ k) ||
    overflows (min (Json.trunc (cfg.flapBaseBackoffMs * cfg.flapBackoffMult ^ k)) cfg.flapBackoffCapMs : ℤ)

/-- `_charge_flap` raises: in the quotient of `_effective_flap_level`, or in the backoff. -/
def chargeRaises (rung : ℤ) (tsMs : ℚ) (s : LeadingSelector) : Bool :=
  ((s.damper.find? rung).any (fun d => d.flapLevel ≠ 0 ∧ cfg.flapDecayMs > 0) &&
    overflows cfg.flapDecayMs) ||
  backoffOverflows cfg (min (effectiveFlapLevel cfg rung tsMs s + 1 - 1) 40).toNat

/-- `select` raises: it charges the damper, confirms the rung, or starts a trial. -/
def selectRaises (i : SelectInput) (s : LeadingSelector) : Bool :=
  let s := enter i s
  if inEmergency cfg i then
    i.canDemote && i.lossDemote && (clampMcs cfg (s.currentMcs - 1) ≠ s.currentMcs : Bool) &&
      s.onTrial s.currentMcs i.tsMs && chargeRaises cfg s.currentMcs i.tsMs s
  else
    let s := cleanTick cfg i s
    (i.snrEwma.isSome && (s.cleanDwell ≥ cfg.promoteDwellTicks : Bool) &&
      overflows cfg.confirmTtlMs) ||
    ((promote cfg i s).currentMcs > s.currentMcs : Bool) && overflows cfg.trialWindowMs

end LeadingSelector

def Policy.tickRaises (cfg : PolicyConfig) (sig : Signals) (p : Policy) : Bool :=
  let q := p.beforeSelect cfg sig
  q.leading.selectRaises cfg.selector (q.tickInput cfg sig p.rung)

/-- The selector computes with numbers that are floats.  What belongs to a promote counts only where
there is a rung to promote to. -/
structure Bounded (sel : SelectorConfig) : Prop where
  confirmTtl : overflows sel.confirmTtlMs = false
  trialWindow : 0 < sel.maxMcs → overflows sel.trialWindowMs = false
  flapDecay : 0 < sel.maxMcs → 0 < sel.flapDecayMs → overflows sel.flapDecayMs = false
  backoff : 0 < sel.maxMcs → ∀ k ≤ 40, LeadingSelector.backoffOverflows sel k = false

section Ticks

variable {cfg : PolicyConfig} {p : Policy}

theorem chargeRaises_eq_false {sel : SelectorConfig} (hb : Bounded sel) (hpos : 0 < sel.maxMcs)
    (rung : ℤ) (tsMs : ℚ) (s : LeadingSelector) : s.chargeRaises sel rung tsMs = false := by
  unfold LeadingSelector.chargeRaises
  rw [Bool.or_eq_false_iff]
  refine ⟨?_, hb.backoff hpos _ (by omega)⟩
  by_cases hdecay : 0 < sel.flapDecayMs
  · rw [hb.flapDecay hpos hdecay, Bool.and_false]
  · cases s.damper.find? rung <;> simp [hdecay]

theorem promote_within {sel : SelectorConfig} {i : SelectInput} {s : LeadingSelector}
    (h : s.currentMcs < (s.promote sel i).currentMcs) : s.currentMcs + 1 ≤ sel.maxMcs := by
  by_contra hcap
  unfold LeadingSelector.promote at h
  cases hsnr : i.snrEwma with
  | none => simp [hsnr] at h
  | some snr =>
    simp only [hsnr] at h
    rw [if_pos (by omega)] at h
    exact absurd h (lt_irrefl _)

theorem selectRaises_eq_false {sel : SelectorConfig} (hb : Bounded sel) (i : SelectInput)
    {s : LeadingSelector} (h0 : 0 ≤ s.currentMcs) (hm : s.currentMcs ≤ sel.maxMcs) :
    s.selectRaises sel i = false := by
  unfold LeadingSelector.selectRaises
  dsimp only
  by_cases hem : LeadingSelector.inEmergency sel i = true
  · rw [if_pos hem]
    by_cases hpos : 0 < sel.maxMcs
    · rw [chargeRaises_eq_false hb hpos, Bool.and_false]
    · -- at a cap of zero there is no rung below
      have hstay : LeadingSelector.clampMcs sel ((s.enter i).currentMcs - 1) =
          (s.enter i).currentMcs := by
        show max 0 (min (s.currentMcs - 1) sel.maxMcs) = s.currentMcs
        omega
      simp [hstay]
  · rw [if_neg hem, hb.confirmTtl, Bool.and_false, Bool.false_or, Bool.and_eq_false_iff]
    by_cases hup : ((s.enter i).cleanTick sel i).currentMcs <
        (((s.enter i).cleanTick sel i).promote sel i).currentMcs
    · have hcap := promote_within hup
      rw [(LeadingSelector.cleanTick_frame sel i (s.enter i)).1] at hcap
      have hcur : (s.enter i).currentMcs = s.currentMcs := rfl
      exact .inr (hb.trialWindow (by omega))
    · exact .inl (decide_eq_false hup)

theorem tickRaises_eq_false (hb : Bounded cfg.selector) (hp : Policy.InRange cfg p) (sig : Signals) :
    p.tickRaises cfg sig = false := by
  obtain ⟨⟨h0, hm⟩, -⟩ := Policy.beforeSelect_step hp sig
  exact selectRaises_eq_false hb _ h0 hm

end Ticks

/-! ## The check as a guard -/

/-- **The configurations that the check guards.**  What is said about the controller is said about an
accepted configuration. -/
structure Guarded (pl : Platform) (cfg : Dict) : Prop where
  typed : Typed pl cfg
  buildable : validateEffective pl cfg = .ok () → Buildable pl.py cfg
  bounded : validateEffective pl cfg = .ok () → ∀ snap policy, makeDlSnapshot pl.py cfg = .ok snap →
    buildPolicyConfig pl.py snap = .ok policy → Bounded policy.selector

instance (sel : SelectorConfig) : Decidable (Bounded sel) :=
  decidable_of_iff (overflows sel.confirmTtlMs = false ∧
    (0 < sel.maxMcs → overflows sel.trialWindowMs = false) ∧
    (0 < sel.maxMcs → 0 < sel.flapDecayMs → overflows sel.flapDecayMs = false) ∧
    (0 < sel.maxMcs → ∀ k ≤ 40, LeadingSelector.backoffOverflows sel k = false))
    ⟨fun ⟨h1, h2, h3, h4⟩ => ⟨h1, h2, h3, h4⟩, fun h => ⟨h.1, h.2, h.3, h.4⟩⟩

theorem of_built {py : PyNumbers} {cfg : Dict} {P : PolicyConfig → Prop} [DecidablePred P]
    (h : (match makeDlSnapshot py cfg >>= fun snap => liftPy (buildPolicyConfig py snap) with
      | .ok policy => decide (P policy)
      | .error _ => false) = true) (snap : Dict) (policy : PolicyConfig)
    (hsnap : makeDlSnapshot py cfg = .ok snap) (hpolicy : buildPolicyConfig py snap = .ok policy) :
    P policy := by
  rw [hsnap] at h
  simp only [bind, Except.bind, hpolicy, liftPy] at h
  exact of_decide_eq_true h

def intFits : Json → Bool
  | .int i => !overflows i
  | _ => true

def nullLink : Dict := insert "link" .null defaultConfig

def soonBackoff : Dict :=
  deepMerge defaultConfig [("dynamicLink", .obj [("selector", .obj [
    ("flapBaseBackoffMs", .str "soon")])])]

end Fpvd.Gs
