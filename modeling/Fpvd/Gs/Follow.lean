import Fpvd.Gs.Api

/-!
# Fpvd.Gs.Follow — the services and the effective configuration

Each service is routed by its own comparison of the old with the new block, while its inputs come from
several blocks.  Equality of configurations is Python's (`Json.pyEq`).
-/

namespace Fpvd.Gs

open Json (normObj)

/-! ## Reading blocks that are equal to Python -/

section Congruence

variable {py : PyNumbers} {d e : Dict} {eff pend : Dict}

theorem getOr_norm (d : Dict) (k : String) (v : Json) :
    (d.getOr k v).norm = (Dict.getOr (normObj d) k v.norm) := by
  unfold Dict.getOr
  rw [Json.find?_normObj]
  cases AssocMap.find? k d <;> rfl

theorem getOr_congr (h : normObj d = normObj e) (k : String) (v : Json) :
    (d.getOr k v).norm = (e.getOr k v).norm := by rw [getOr_norm, getOr_norm, h]

variable {cfg : Dict} {v w : Json} {key : String}

theorem truthy_congr (h : v.norm = w.norm) : v.truthy = w.truthy := by
  rw [← Json.truthy_norm, h, Json.truthy_norm]

theorem toInt_norm (v : Json) : py.toInt v.norm = py.toInt v := by
  cases v with
  | real q =>
    rw [Json.norm]
    split_ifs with h
    · simp [PyNumbers.toInt, Json.trunc, h]
    · rfl
  | _ => rfl

theorem toInt_congr (h : v.norm = w.norm) : py.toInt v = py.toInt w := by
  rw [← toInt_norm, h, toInt_norm]

theorem onByDefault_congr (h : normObj d = normObj e) : onByDefault d = onByDefault e :=
  truthy_congr (getOr_congr h _ _)

theorem dronePort_congr (h : normObj d = normObj e) : dronePort py d = dronePort py e := by
  have hv := getOr_congr h "dronePort" .null
  unfold dronePort
  simp only
  rw [truthy_congr hv]
  split_ifs
  · rw [toInt_congr hv]
  · rfl

def block (cfg : Dict) (key : String) : Dict := dictOf (cfg.getOr key (.obj []))

def HasBlock (cfg : Dict) (key : String) : Prop := cfg.getOr key (.obj []) = .obj (block cfg key)

theorem hasBlock_iff :
    HasBlock cfg key ↔ asDict (cfg.getOr key (.obj [])) = .ok (block cfg key) := by
  unfold HasBlock block
  cases cfg.getOr key (.obj []) <;> simp [asDict, dictOf]

theorem hasBlock_of_asDict {blk : Dict} (h : asDict (cfg.getOr key (.obj [])) = .ok blk) :
    HasBlock cfg key ∧ block cfg key = blk := by
  unfold HasBlock block
  cases hv : cfg.getOr key (.obj []) with
  | obj d =>
    rw [hv] at h
    exact ⟨rfl, Except.ok.inj h⟩
  | _ =>
    rw [hv] at h
    cases h

theorem block_congr (hold : HasBlock eff key)
    (h : Json.pyEq (eff.getOr key (.obj [])) (pend.getOr key (.obj [])) = true) :
    HasBlock pend key ∧ normObj (block eff key) = normObj (block pend key) := by
  rw [Json.pyEq_iff, hold] at h
  obtain ⟨ns, hns, hnorm⟩ := Json.eq_obj_of_norm h.symm
  have hblock : block pend key = ns := by rw [block, hns, dictOf]
  exact ⟨by rw [HasBlock, hns, hblock], by rw [hblock, hnorm]⟩

theorem makeDlSnapshot_eq_ok {snap : Dict} : makeDlSnapshot py cfg = .ok snap ↔
    HasBlock cfg "dynamicLink" ∧ ∃ host port width, droneHost cfg = .ok host ∧
      dronePort py (block cfg "dynamicLink") = .ok port ∧ linkWidth py cfg = .ok width ∧
      AssocMap.insert "linkWidth" (.int width) (AssocMap.insert "dronePort" (.int port)
        (AssocMap.insert "droneAddr" host (block cfg "dynamicLink"))) = snap := by
  have hblock : ∀ blk, toDict (cfg.getOr "dynamicLink" (.obj [])) = .ok blk ↔
      HasBlock cfg "dynamicLink" ∧ block cfg "dynamicLink" = blk := by
    intro blk
    unfold HasBlock block
    cases cfg.getOr "dynamicLink" (.obj []) <;> simp [toDict, dictOf]
  unfold makeDlSnapshot
  simp only [Json.bind_eq_ok, Json.pure_eq_ok, hblock]
  constructor
  · rintro ⟨blk, ⟨hb, rfl⟩, host, hhost, port, hport, width, hwidth, rfl⟩
    exact ⟨hb, host, port, width, hhost, hport, hwidth, rfl⟩
  · rintro ⟨hb, host, port, width, hhost, hport, hwidth, rfl⟩
    exact ⟨_, ⟨hb, rfl⟩, host, hhost, port, hport, width, hwidth, rfl⟩

theorem makeDlSnapshot_congr {snap : Dict} (hnew : HasBlock pend "dynamicLink")
    (hdl : normObj (block eff "dynamicLink") = normObj (block pend "dynamicLink"))
    (hhost : droneHost pend = droneHost eff) (hwidth : linkWidth py pend = linkWidth py eff)
    (h : makeDlSnapshot py eff = .ok snap) :
    ∃ snap', makeDlSnapshot py pend = .ok snap' ∧ normObj snap = normObj snap' := by
  obtain ⟨-, host, port, width, h1, h2, h3, rfl⟩ := makeDlSnapshot_eq_ok.mp h
  refine ⟨_, makeDlSnapshot_eq_ok.mpr ⟨hnew, host, port, width, hhost.trans h1,
    (dronePort_congr hdl).symm.trans h2, hwidth.trans h3, rfl⟩, ?_⟩
  simp only [Json.normObj_insert, hdl]

theorem pathJoin_congr {v' w' file : Json} (hv : v.norm = v'.norm) (hw : w.norm = w'.norm)
    (h : pathJoin v w = .ok file) : pathJoin v' w' = .ok file := by
  cases v with
  | str dir =>
    cases w with
    | str name =>
      rw [Json.eq_str_of_norm hv.symm, Json.eq_str_of_norm hw.symm]
      exact h
    | _ => cases h
  | _ => cases h

theorem portText_congr (h : v.norm = w.norm) (hv : isIntIn 1 65535 v = true)
    (hw : isIntIn 1 65535 w = true) : portText v = portText w := by
  cases v with
  | int i =>
    cases w with
    | int j =>
      simp only [Json.norm, Json.int.injEq] at h
      rw [h]
    | _ => cases hw
  | _ => cases hv

def PortChecked (cfg : Dict) : Prop :=
  isIntIn 1 65535 ((block cfg "pixelpilot").getOr "rtpPort" (.int 5600)) = true

theorem asDict_congr {blk : Dict} (h : v.norm = w.norm) (hv : asDict v = .ok blk) :
    ∃ blk', asDict w = .ok blk' ∧ normObj blk = normObj blk' := by
  cases v with
  | obj d =>
    cases hv
    obtain ⟨ns, rfl, hns⟩ := Json.eq_obj_of_norm h.symm
    exact ⟨ns, rfl, hns.symm⟩
  | _ => cases hv

theorem toList_congr {xs : List Json} (h : v.norm = w.norm) (hv : toList v = .ok xs) :
    ∃ ys, toList w = .ok ys ∧ xs.map Json.norm = ys.map Json.norm := by
  cases v with
  | arr zs =>
    cases hv
    obtain ⟨ns, rfl, hns⟩ := Json.eq_arr_of_norm h.symm
    exact ⟨ns, rfl, by rw [← Json.normArr_eq_map, ← Json.normArr_eq_map, hns]⟩
  | _ => cases hv

theorem renderPixelpilotEnv_congr {env : Dict} (hold : HasBlock eff "pixelpilot")
    (hnew : HasBlock pend "pixelpilot")
    (hpp : normObj (block eff "pixelpilot") = normObj (block pend "pixelpilot"))
    (h : renderPixelpilotEnv eff = .ok env) :
    ∃ env', renderPixelpilotEnv pend = .ok env' ∧ normObj env = normObj env' := by
  unfold renderPixelpilotEnv at h ⊢
  rw [hasBlock_iff.mp hold] at h
  rw [hasBlock_iff.mp hnew]
  exact asDict_congr (getOr_congr hpp "env" (.obj [])) h

theorem renderPixelpilotArgv_congr {argv : List Json} (hold : HasBlock eff "pixelpilot")
    (hnew : HasBlock pend "pixelpilot") (hport : PortChecked eff) (hport' : PortChecked pend)
    (hpp : normObj (block eff "pixelpilot") = normObj (block pend "pixelpilot"))
    (h : renderPixelpilotArgv eff = .ok argv) :
    ∃ argv', renderPixelpilotArgv pend = .ok argv' ∧ argv.map Json.norm = argv'.map Json.norm := by
  unfold renderPixelpilotArgv at h ⊢
  rw [hasBlock_iff.mp hold] at h
  rw [hasBlock_iff.mp hnew]
  simp only [Json.bind_eq_ok, Json.pure_eq_ok] at h
  obtain ⟨pp, hpp', dvr, hdvr, file, hfile, extra, hextra, rfl⟩ := h
  cases hpp'
  obtain ⟨dvr', hdvr', hd⟩ := asDict_congr (getOr_congr hpp "dvr" (.obj [])) hdvr
  have hfile' := pathJoin_congr (getOr_congr hd "dir" _) (getOr_congr hd "template" _) hfile
  obtain ⟨extra', hextra', he⟩ := toList_congr (getOr_congr hpp "extraArgs" (.arr [])) hextra
  have htext := portText_congr (getOr_congr hpp "rtpPort" (.int 5600)) hport hport'
  simp only [Json.bind_eq_ok, Json.pure_eq_ok]
  refine ⟨_, ⟨_, rfl, dvr', hdvr', file, hfile', extra', hextra', rfl⟩, ?_⟩
  simp only [List.map_append, List.map_cons, List.map_nil, getOr_congr hpp, he, htext,
    truthy_congr (getOr_congr hd "fmp4" (.bool true)),
    truthy_congr (getOr_congr hd "sequencedFiles" (.bool true))]

end Congruence

/-! ## What each route does -/

section Routes

variable {pl : Platform} {py : PyNumbers} {eff pend : Dict}

def Rendered (c : Child) (cfg : Dict) : Prop :=
  ∃ argv env, renderPixelpilotArgv cfg = .ok argv ∧ renderPixelpilotEnv cfg = .ok env ∧
    c.argv.map Json.norm = argv.map Json.norm ∧ normObj c.env = normObj env

theorem Rendered.congr {c : Child} (hold : HasBlock eff "pixelpilot") (hnew : HasBlock pend "pixelpilot")
    (hport : PortChecked eff) (hport' : PortChecked pend)
    (hpp : normObj (block eff "pixelpilot") = normObj (block pend "pixelpilot"))
    (h : Rendered c eff) : Rendered c pend := by
  obtain ⟨argv, env, hargv, henv, hc, hc'⟩ := h
  obtain ⟨argv', hargv', ha⟩ := renderPixelpilotArgv_congr hold hnew hport hport' hpp hargv
  obtain ⟨env', henv', he⟩ := renderPixelpilotEnv_congr hold hnew hpp henv
  exact ⟨argv', env', hargv', henv', hc.trans ha, hc'.trans he⟩

theorem start_of_none {c : Child} (h : c.start.2 = none) : c.start.1 = { c with running := true } := by
  unfold Child.start at h ⊢
  cases hraised : popenRaises c.argv c.env with
  | none => rfl
  | some e =>
    rw [hraised] at h
    cases h

theorem pixelpilot_routed {c : Child} {a : PpAction} (hold : HasBlock eff "pixelpilot")
    (hport : PortChecked eff) (hport' : HasBlock pend "pixelpilot" → PortChecked pend)
    (hruns : c.running = onByDefault (block eff "pixelpilot"))
    (hgiven : onByDefault (block eff "pixelpilot") = true → Rendered c eff)
    (ha : routePixelpilot eff pend = .ok a) (hnone : (c.perform a).2 = none) :
    HasBlock pend "pixelpilot" ∧
      (c.perform a).1.running = onByDefault (block pend "pixelpilot") ∧
      (onByDefault (block pend "pixelpilot") = true → Rendered (c.perform a).1 pend) := by
  unfold routePixelpilot at ha
  simp only at ha
  split_ifs at ha with heq
  · cases ha
    obtain ⟨hnew, hnorm⟩ := block_congr hold heq
    have hon := onByDefault_congr hnorm
    exact ⟨hnew, hruns.trans hon, fun h =>
      (hgiven (hon.trans h)).congr hold hnew hport (hport' hnew) hnorm⟩
  · rw [hasBlock_iff.mp hold, Json.bind_eq_ok] at ha
    obtain ⟨oldBlk, hold', ha⟩ := ha
    cases hold'
    obtain ⟨newBlk, hnewBlk, ha⟩ := Json.bind_eq_ok.mp ha
    obtain ⟨hnew, rfl⟩ := hasBlock_of_asDict hnewBlk
    refine ⟨hnew, ?_⟩
    cases hnow : onByDefault (block pend "pixelpilot") with
    | true =>
      rw [if_pos hnow] at ha
      obtain ⟨argv, hargv, ha⟩ := Json.bind_eq_ok.mp ha
      obtain ⟨env, henv, ha⟩ := Json.bind_eq_ok.mp ha
      rw [Json.pure_eq_ok] at ha
      have hstart : (c.perform a).1 = { running := true, argv, env } := by
        subst ha
        split_ifs at hnone ⊢
        · exact start_of_none hnone
        · exact start_of_none hnone
      rw [hstart]
      exact ⟨rfl, fun _ => ⟨argv, env, hargv, henv, rfl, rfl⟩⟩
    | false =>
      rw [if_neg (by rw [hnow]; nofun), Json.pure_eq_ok] at ha
      refine ⟨?_, nofun⟩
      subst ha
      split_ifs with hwas
      · rfl
      · rw [Child.perform, hruns]
        simpa using hwas

theorem idrForward_routed {r : Relay} {a : IdrAction} (hold : HasBlock eff "idrForward")
    (hruns : r.running = onByDefault (block eff "idrForward"))
    (ha : routeIdrForward eff pend = .ok a) :
    HasBlock pend "idrForward" ∧
      r.perform a = { r with running := onByDefault (block pend "idrForward") } := by
  unfold routeIdrForward at ha
  simp only at ha
  split_ifs at ha with heq
  · cases ha
    obtain ⟨hnew, hnorm⟩ := block_congr hold heq
    exact ⟨hnew, by rw [← onByDefault_congr hnorm, ← hruns, Relay.perform]⟩
  · rw [hasBlock_iff.mp hold, Json.bind_eq_ok] at ha
    obtain ⟨oldBlk, hold', ha⟩ := ha
    cases hold'
    obtain ⟨newBlk, hnewBlk, ha⟩ := Json.bind_eq_ok.mp ha
    obtain ⟨hnew, rfl⟩ := hasBlock_of_asDict hnewBlk
    refine ⟨hnew, ?_⟩
    rw [Json.pure_eq_ok] at ha
    subst ha
    cases hwas : onByDefault (block eff "idrForward") <;>
      cases hnow : onByDefault (block pend "idrForward") <;>
      simp only [Bool.not_true, Bool.not_false, Bool.and_true, Bool.and_false, Bool.true_and,
        Bool.false_and, if_true, if_false, Bool.false_eq_true]
    · rw [Relay.perform, ← hwas, ← hruns]
    · rfl
    · rfl
    · split_ifs
      · rfl
      · rw [Relay.perform, ← hwas, ← hruns]

inductive DlRouted (py : PyNumbers) (eff pend : Dict) : DlAction → Prop
  | off (was : dlEnabled (block eff "dynamicLink") = false)
      (now : dlEnabled (block pend "dynamicLink") = false) : DlRouted py eff pend .keep
  | stop (was : dlEnabled (block eff "dynamicLink") = true)
      (now : dlEnabled (block pend "dynamicLink") = false) : DlRouted py eff pend .stop
  | start (was : dlEnabled (block eff "dynamicLink") = false)
      (now : dlEnabled (block pend "dynamicLink") = true) {snap : Dict}
      (made : makeDlSnapshot py pend = .ok snap) : DlRouted py eff pend (.start snap)
  | reconfigure (was : dlEnabled (block eff "dynamicLink") = true)
      (now : dlEnabled (block pend "dynamicLink") = true) {snap : Dict}
      (made : makeDlSnapshot py pend = .ok snap) : DlRouted py eff pend (.reconfigure snap)
  | same (was : dlEnabled (block eff "dynamicLink") = true)
      (now : dlEnabled (block pend "dynamicLink") = true)
      (equal : normObj (block eff "dynamicLink") = normObj (block pend "dynamicLink")) :
      DlRouted py eff pend .keep

theorem dynamicLink_routed {a : DlAction} (ha : routeDynamicLink py eff pend = .ok a) :
    HasBlock pend "dynamicLink" ∧ DlRouted py eff pend a := by
  unfold routeDynamicLink at ha
  obtain ⟨width, -, ha⟩ := Json.bind_eq_ok.mp ha
  obtain ⟨oldBlk, holdBlk, ha⟩ := Json.bind_eq_ok.mp ha
  obtain ⟨-, rfl⟩ := hasBlock_of_asDict holdBlk
  obtain ⟨newBlk, hnewBlk, ha⟩ := Json.bind_eq_ok.mp ha
  obtain ⟨hnew, rfl⟩ := hasBlock_of_asDict hnewBlk
  refine ⟨hnew, ?_⟩
  simp only at ha
  cases hwas : dlEnabled (block eff "dynamicLink") <;>
    cases hnow : dlEnabled (block pend "dynamicLink") <;>
    simp only [hwas, hnow, Bool.not_true, Bool.not_false, Bool.and_true, Bool.and_false, Bool.true_and,
      Bool.false_and, if_true, if_false, Bool.false_eq_true, Json.bind_eq_ok, Json.pure_eq_ok] at ha
  · exact ha ▸ .off hwas hnow
  · obtain ⟨snap, hsnap, rfl⟩ := ha
    exact .start hwas hnow hsnap
  · exact ha ▸ .stop hwas hnow
  · split_ifs at ha with hchanged
    · obtain ⟨snap, hsnap, ha⟩ := Json.bind_eq_ok.mp ha
      exact Json.pure_eq_ok.mp ha ▸ .reconfigure hwas hnow hsnap
    · rw [Bool.or_eq_true, not_or] at hchanged
      refine Json.pure_eq_ok.mp ha ▸ .same hwas hnow ?_
      have heq : Json.pyEq (.obj (block eff "dynamicLink")) (.obj (block pend "dynamicLink")) = true := by
        simpa using hchanged.1
      rw [Json.pyEq_iff, Json.norm, Json.norm] at heq
      exact Json.obj.inj heq

theorem portChecked_of_valid (h : validateEffective pl pend = .ok ()) (hpp : HasBlock pend "pixelpilot") :
    PortChecked pend := by
  unfold HasBlock block at hpp
  unfold PortChecked block
  cases hfind : AssocMap.find? "pixelpilot" pend with
  | none =>
    have hget : pend.getOr "pixelpilot" (.obj []) = .obj [] := by rw [Dict.getOr, hfind, Option.getD_none]
    rw [hget]
    decide
  | some v =>
    have hget : pend.getOr "pixelpilot" (.obj []) = v := by rw [Dict.getOr, hfind, Option.getD_some]
    rw [hget] at hpp ⊢
    have hgot : pend.got "pixelpilot" = some v := by
      rw [Dict.got, hfind]
      cases v with
      | null => cases hpp
      | _ => rfl
    have hcheck := effective_check h (c := (raiseIf (¬ isIntIn 1 65535
      ((dictOf v).getOr "rtpPort" (.int 5600))) "pixelpilot.rtpPort must be an int in 1..65535").map .py)
      (by simp [effectiveChecks, hgot, validatePixelpilot, liftChecks])
    simpa using hcheck

end Routes

/-! ## Runs of requests -/

inductive Request where
  | patch (sparse : Dict)
  | apply (o : Outcomes)

def handle (pl : Platform) (s : Sys) : Request → Reply
  | .patch sparse => patchConfig sparse s
  | .apply o => applyGs pl o s

def serve (pl : Platform) (s : Sys) (q : Request) : Sys := (handle pl s q).sys

structure Settled (s : Sys) : Prop where
  defaults : s.store.defaults = defaultConfig
  hasDl : HasBlock s.store.config "dynamicLink"
  hasPp : HasBlock s.store.config "pixelpilot"
  hasIdr : HasBlock s.store.config "idrForward"
  port : PortChecked s.store.config
  dlOff : dlEnabled (block s.store.config "dynamicLink") = false → s.dynlink.running = false
  child : s.pixelpilot.running = onByDefault (block s.store.config "pixelpilot")
  rendered : onByDefault (block s.store.config "pixelpilot") = true →
    Rendered s.pixelpilot s.store.config
  relay : s.idrRelay.running = onByDefault (block s.store.config "idrForward")

section Runs

variable {pl : Platform} {s s' : Sys} {loaded : Dict}

theorem patch_sys (sparse : Dict) (s : Sys) :
    ∃ pending, (patchConfig sparse s).sys = { s with store := { s.store with pending } } := by
  unfold patchConfig
  cases hcheck : validateConfigPatch sparse with
  | ok _ => exact ⟨_, rfl⟩
  | error e => exact ⟨_, rfl⟩

theorem startIf_ok {on : Bool} {c c' : Child} (hoff : c.running = false) (h : c.startIf on = .ok c') :
    c' = { c with running := on } := by
  unfold Child.startIf at h
  split_ifs at h with hon
  · split at h
    · next d hd =>
      cases h
      have hstart := start_of_none (c := c) (by rw [hd])
      rwa [hd, ← hon] at hstart
    · cases h
  · cases h
    simp only [Bool.not_eq_true] at hon
    rw [hon, ← hoff]

theorem boot_ok (h : boot pl loaded = .ok s) :
    s.store = ConfigStore.load loaded ∧ Settled s ∧
      idrPort pl.py s.store.config = .ok s.idrRelay.port ∧
      droneHost s.store.config = .ok s.idrRelay.host ∧
      ∃ snap, makeDlSnapshot pl.py s.store.config = .ok snap ∧ s.dynlink.snapshot = snap ∧
        s.dynlink.running = (dlEnabled (block s.store.config "dynamicLink") &&
          controllerBuilds pl.py snap) := by
  unfold boot at h
  simp only [Json.bind_eq_ok, Json.pure_eq_ok] at h
  obtain ⟨_, hvalid, host, hhost, port, hport, snap, hsnap, argv, hargv, env, henv, pp, hpp, child,
    hchild, idr, hidr, dl, hdl, rfl⟩ := h
  obtain ⟨hhasPp, rfl⟩ := hasBlock_of_asDict hpp
  obtain ⟨hhasIdr, rfl⟩ := hasBlock_of_asDict hidr
  obtain ⟨hhasDl, rfl⟩ := hasBlock_of_asDict hdl
  obtain rfl := startIf_ok rfl hchild
  have hdyn : (if dlEnabled (block (ConfigStore.load loaded).config "dynamicLink") then
      Controller.start pl.py { running := false, snapshot := snap } else
      { running := false, snapshot := snap }) =
      { running := dlEnabled (block (ConfigStore.load loaded).config "dynamicLink") &&
          controllerBuilds pl.py snap, snapshot := snap } := by
    cases dlEnabled (block (ConfigStore.load loaded).config "dynamicLink") <;> rfl
  simp only [hdyn]
  refine ⟨trivial, ?_, hport, hhost, snap, hsnap, rfl, rfl⟩
  exact {
    defaults := rfl
    hasDl := hhasDl
    hasPp := hhasPp
    hasIdr := hhasIdr
    port := portChecked_of_valid hvalid hhasPp
    dlOff := fun h => by
      simp only at h ⊢
      rw [h, Bool.false_and]
    child := rfl
    rendered := fun _ => ⟨argv, env, hargv, henv, rfl, rfl⟩
    relay := rfl }

theorem settled_serve {q : Request} (h : Settled s) (hcode : (handle pl s q).answer.code = 200) :
    Settled (serve pl s q) := by
  cases q with
  | patch sparse =>
    obtain ⟨pending, hsys⟩ := patch_sys sparse s
    rw [serve, handle, hsys]
    exact { h with }
  | apply o =>
    obtain ⟨s', hdep, -, hsys⟩ := apply_ok hcode
    obtain ⟨a, ha, hdl⟩ := hdep.dynlink
    obtain ⟨b, hb, hnone, hpp⟩ := hdep.pixelpilot
    obtain ⟨c, hc, hidr⟩ := hdep.idrRelay
    obtain ⟨hhasDl, hrouted⟩ := dynamicLink_routed ha
    obtain ⟨hhasPp, hchild, hrendered⟩ := pixelpilot_routed h.hasPp h.port
      (portChecked_of_valid hdep.valid) h.child h.rendered hb hnone
    obtain ⟨hhasIdr, hrelay⟩ := idrForward_routed h.hasIdr h.relay hc
    have hstore : (s'.store.commit true).config = s.store.pending := by
      rw [hdep.store]
      rfl
    rw [serve, handle, hsys]
    refine ⟨?_, ?_, ?_, ?_, ?_, ?_, ?_, ?_, ?_⟩ <;> simp only [hstore]
    · rw [hdep.store]
      exact h.defaults
    · exact hhasDl
    · exact hhasPp
    · exact hhasIdr
    · exact portChecked_of_valid hdep.valid hhasPp
    · intro hoff
      rw [hdl]
      cases hrouted with
      | off was now => exact h.dlOff was
      | stop was now => rfl
      | start was now made => rw [hoff] at now; cases now
      | reconfigure was now made => rw [hoff] at now; cases now
      | same was now equal => rw [hoff] at now; cases now
    · rw [hpp]
      exact hchild
    · rw [hpp]
      exact hrendered
    · rw [hidr, hrelay]

/-! ## The services follow -/

def builds (py : PyNumbers) (cfg : Dict) : Bool :=
  match makeDlSnapshot py cfg with
  | .ok snap => controllerBuilds py snap
  | .error _ => true

theorem builds_of_made {py : PyNumbers} {cfg snap : Dict} (h : makeDlSnapshot py cfg = .ok snap) :
    builds py cfg = controllerBuilds py snap := by rw [builds, h]

/-- No input of a service moves in this apply without the service being routed, and the dynamic link
comes up where it is enabled. -/
structure Rerouted (pl : Platform) (s : Sys) : Prop where
  builds : dlEnabled (block s.store.pending "dynamicLink") = true →
    builds pl.py s.store.pending = true
  dynlink : dlEnabled (block s.store.pending "dynamicLink") = true →
    routeDynamicLink pl.py s.store.config s.store.pending = .ok .keep →
      droneHost s.store.pending = droneHost s.store.config ∧
        linkWidth pl.py s.store.pending = linkWidth pl.py s.store.config
  idrRelay : onByDefault (block s.store.pending "idrForward") = true →
    droneHost s.store.pending = .ok s.idrRelay.host ∧
      idrPort pl.py s.store.pending = .ok s.idrRelay.port

structure Follows (py : PyNumbers) (s : Sys) : Prop where
  dynlink : s.dynlink.running = dlEnabled (block s.store.config "dynamicLink")
  snapshot : s.dynlink.running = true → ∃ snap, makeDlSnapshot py s.store.config = .ok snap ∧
    Json.pyEq (.obj s.dynlink.snapshot) (.obj snap) = true
  idrRelay : s.idrRelay.running = onByDefault (block s.store.config "idrForward")
  forwards : s.idrRelay.running = true → idrPort py s.store.config = .ok s.idrRelay.port ∧
    droneHost s.store.config = .ok s.idrRelay.host
  pixelpilot : onByDefault (block s.store.config "pixelpilot") = true →
    Rendered s.pixelpilot s.store.config

theorem pyEq_obj {d e : Dict} : Json.pyEq (.obj d) (.obj e) = true ↔ normObj d = normObj e := by
  rw [Json.pyEq_iff, Json.norm, Json.norm, Json.obj.injEq]

theorem follows_boot (h : boot pl loaded = .ok s)
    (hbuilds : dlEnabled (block s.store.config "dynamicLink") = true →
      builds pl.py s.store.config = true) : Follows pl.py s := by
  obtain ⟨-, hset, hport, hhost, snap, hsnap, hsnapshot, hruns⟩ := boot_ok h
  refine ⟨?_, fun _ => ⟨snap, hsnap, by rw [hsnapshot, pyEq_obj]⟩, hset.relay, fun _ => ⟨hport, hhost⟩,
    hset.rendered⟩
  cases hon : dlEnabled (block s.store.config "dynamicLink") with
  | false => rw [hruns, hon, Bool.false_and]
  | true =>
    have hb := hbuilds hon
    rw [builds_of_made hsnap] at hb
    rw [hruns, hon, hb, Bool.true_and]

theorem dynlink_follows {py : PyNumbers} {c : Controller} {eff pend : Dict} {a : DlAction}
    (hnew : HasBlock pend "dynamicLink") (hrouted : DlRouted py eff pend a)
    (hruns : c.running = dlEnabled (block eff "dynamicLink"))
    (hsnap : c.running = true → ∃ snap, makeDlSnapshot py eff = .ok snap ∧
      Json.pyEq (.obj c.snapshot) (.obj snap) = true)
    (hbuilds : dlEnabled (block pend "dynamicLink") = true → builds py pend = true)
    (hkeep : dlEnabled (block pend "dynamicLink") = true → a = .keep →
      droneHost pend = droneHost eff ∧ linkWidth py pend = linkWidth py eff) :
    (c.perform py a).running = dlEnabled (block pend "dynamicLink") ∧
      ((c.perform py a).running = true → ∃ snap, makeDlSnapshot py pend = .ok snap ∧
        Json.pyEq (.obj (c.perform py a).snapshot) (.obj snap) = true) := by
  cases hrouted with
  | off was now =>
    rw [was] at hruns
    rw [Controller.perform, hruns, now]
    exact ⟨rfl, nofun⟩
  | stop was now =>
    rw [Controller.perform, Controller.stop, now]
    exact ⟨rfl, nofun⟩
  | start was now made =>
    next snap =>
    have hb := hbuilds now
    rw [builds_of_made made] at hb
    rw [was] at hruns
    have hc : c.perform py (.start snap) = { running := true, snapshot := snap } := by
      simp [Controller.perform, Controller.setConfig, Controller.start, hruns, hb]
    rw [hc, now]
    exact ⟨rfl, fun _ => ⟨snap, made, by rw [pyEq_obj]⟩⟩
  | reconfigure was now made =>
    next snap =>
    have hb := hbuilds now
    rw [builds_of_made made] at hb
    rw [was] at hruns
    have hc : c.perform py (.reconfigure snap) = { running := true, snapshot := snap } := by
      simp [Controller.perform, Controller.setConfig, Controller.stop, Controller.start, hruns, hb]
    rw [hc, now]
    exact ⟨rfl, fun _ => ⟨snap, made, by rw [pyEq_obj]⟩⟩
  | same was now equal =>
    obtain ⟨hhost, hwidth⟩ := hkeep now rfl
    refine ⟨by rw [Controller.perform, hruns, was, now], fun hr => ?_⟩
    obtain ⟨snap, hmade, hold⟩ := hsnap hr
    obtain ⟨snap', hmade', hnorm⟩ := makeDlSnapshot_congr hnew equal hhost hwidth hmade
    rw [pyEq_obj] at hold
    exact ⟨snap', hmade', by rw [pyEq_obj, Controller.perform, hold, hnorm]⟩

theorem follows_serve {q : Request} (hset : Settled s) (h : Follows pl.py s)
    (hcode : (handle pl s q).answer.code = 200) (hroute : ∀ o, q = .apply o → Rerouted pl s) :
    Follows pl.py (serve pl s q) := by
  have hset' := settled_serve hset hcode
  cases q with
  | patch sparse =>
    obtain ⟨pending, hsys⟩ := patch_sys sparse s
    rw [serve, handle, hsys]
    exact { h with }
  | apply o =>
    have hre := hroute o rfl
    obtain ⟨s', hdep, -, hsys⟩ := apply_ok hcode
    obtain ⟨a, ha, hdl⟩ := hdep.dynlink
    obtain ⟨c, hc, hidr⟩ := hdep.idrRelay
    obtain ⟨hhasDl, hrouted⟩ := dynamicLink_routed ha
    obtain ⟨-, hrelay⟩ := idrForward_routed hset.hasIdr hset.relay hc
    obtain ⟨hruns, hsnap⟩ := dynlink_follows hhasDl hrouted h.dynlink h.snapshot hre.builds
      fun hon hkeep => hre.dynlink hon (hkeep ▸ ha)
    have hstore : (serve pl s (.apply o)).store.config = s.store.pending := by
      rw [serve, handle, hsys, hdep.store]
      rfl
    have hdyn : (serve pl s (.apply o)).dynlink = s.dynlink.perform pl.py a := by
      rw [serve, handle, hsys, hdl]
    have hrel : (serve pl s (.apply o)).idrRelay =
        { s.idrRelay with running := onByDefault (block s.store.pending "idrForward") } := by
      rw [serve, handle, hsys, hidr, hrelay]
    refine ⟨by rw [hdyn, hstore, hruns], ?_, hset'.relay, ?_, hset'.rendered⟩
    · rw [hdyn, hstore]
      exact hsnap
    · rw [hrel, hstore]
      intro hon
      exact (hre.idrRelay hon).symm

def Routed (pl : Platform) (s : Sys) : Request → Prop
  | .patch _ => True
  | .apply _ => Rerouted pl s

/-- **The services follow the effective configuration**, in every run of accepted requests in which no
input of a service moves without the service being routed. -/
theorem services_follow (pl : Platform) (loaded : Dict) (s : Sys) (hboot : boot pl loaded = .ok s)
    (hbuilds : dlEnabled (block s.store.config "dynamicLink") = true →
      builds pl.py s.store.config = true) (qs : List Request)
    (hrun : Run.Meets (serve pl)
      (fun s q => (handle pl s q).answer.code = 200 ∧ Routed pl s q) s qs) :
    Follows pl.py (qs.foldl (serve pl) s) := by
  refine (Run.Meets.invariant (I := fun s => Settled s ∧ Follows pl.py s) ?_ qs s
    ⟨(boot_ok hboot).2.1, follows_boot hboot hbuilds⟩ hrun).2
  rintro s q ⟨hset, hfollows⟩ ⟨hcode, hroute⟩
  refine ⟨settled_serve hset hcode, follows_serve hset hfollows hcode ?_⟩
  rintro o rfl
  exact hroute

instance (pl : Platform) (s : Sys) : (q : Request) → Decidable (Routed pl s q)
  | .patch _ => .isTrue trivial
  | .apply _ => decidable_of_iff (_ ∧ _ ∧ _)
      ⟨fun ⟨h1, h2, h3⟩ => ⟨h1, h2, h3⟩, fun ⟨h1, h2, h3⟩ => ⟨h1, h2, h3⟩⟩

/-- The dynamic link switched on. -/
theorem services_follow_enabled : ∃ s, boot plainPlatform [] = .ok s ∧
    let s' := [.patch [("dynamicLink", .obj [("enabled", .bool true)])], .apply {}].foldl
      (serve plainPlatform) s
    s'.dynlink.running = true ∧ Follows plainPlatform.py s' := by
  let qs : List Request := [.patch [("dynamicLink", .obj [("enabled", .bool true)])], .apply {}]
  obtain ⟨s, hboot, hoff, hrun, hruns⟩ := exists_ok (x := boot plainPlatform [])
    (P := fun s => dlEnabled (block s.store.config "dynamicLink") = false ∧
      Run.Meets (serve plainPlatform)
        (fun s q => (handle plainPlatform s q).answer.code = 200 ∧ Routed plainPlatform s q) s qs ∧
      (qs.foldl (serve plainPlatform) s).dynlink.running = true) (by decide +kernel)
  refine ⟨s, hboot, hruns, services_follow plainPlatform [] s hboot ?_ qs hrun⟩
  rw [hoff]
  nofun

/-- The drone moves to another address: the dynamic link and the relay stay with the old one. -/
theorem services_lag : ∃ s,
    boot plainPlatform [("dynamicLink", .obj [("enabled", .bool true)])] = .ok s ∧
    let qs := [.patch [("drone", .obj [("host", .str "10.5.0.11")])], .apply {}]
    let s' := qs.foldl (serve plainPlatform) s
    Run.Meets (serve plainPlatform) (fun s q => (handle plainPlatform s q).answer.code = 200) s qs ∧
      droneHost s'.store.config = .ok (.str "10.5.0.11") ∧
      s'.dynlink.running = true ∧ s'.dynlink.snapshot.getOr "droneAddr" .null = .str "10.5.0.10" ∧
      s'.idrRelay.running = true ∧ s'.idrRelay.host = .str "10.5.0.10" ∧
      ¬ Follows plainPlatform.py s' := by
  let qs : List Request := [.patch [("drone", .obj [("host", .str "10.5.0.11")])], .apply {}]
  obtain ⟨s, hboot, hrun, hhost, hdl, haddr, hidr, hrelay⟩ := exists_ok
    (x := boot plainPlatform [("dynamicLink", .obj [("enabled", .bool true)])])
    (P := fun s =>
      Run.Meets (serve plainPlatform) (fun s q => (handle plainPlatform s q).answer.code = 200) s qs ∧
      let s' := qs.foldl (serve plainPlatform) s
      droneHost s'.store.config = .ok (.str "10.5.0.11") ∧
        s'.dynlink.running = true ∧ s'.dynlink.snapshot.getOr "droneAddr" .null = .str "10.5.0.10" ∧
        s'.idrRelay.running = true ∧ s'.idrRelay.host = .str "10.5.0.10") (by decide +kernel)
  refine ⟨s, hboot, hrun, hhost, hdl, haddr, hidr, hrelay, fun hfollows => ?_⟩
  have hforwards := (hfollows.forwards hidr).2
  rw [hhost, hrelay] at hforwards
  exact absurd hforwards (by decide)

end Runs

end Fpvd.Gs
