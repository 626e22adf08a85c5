import Fpvd.Lib.Stage
import Fpvd.Gs.Services

/-!
# Fpvd.Gs.Api — `PATCH /gs/config`, `POST /gs/apply`, `POST /gs/reset` (`gs/fpvdgs/api.py`)

An apply is a sequence of stages that can return early: the check, the link, the three routes, the
commit and the armer.  What the runner and the operating system answer is the `Outcomes` of a request.
-/

namespace Fpvd.Gs

inductive Outcome where
  | returned (ok : Bool)
  | raised (e : Raised)
  deriving DecidableEq

structure Outcomes where
  retune : Outcome := .returned true
  restart : Outcome := .returned true
  /-- the restart that takes the runner back -/
  rollback : Outcome := .returned true
  /-- `_persist` writes the file -/
  written : Bool := true
  /-- what `armer_tick` raises -/
  armer : Option Raised := none
  deriving DecidableEq

inductive Answer where
  | ok
  | rolledBack
  | raised (e : Raised)
  deriving DecidableEq

def Answer.code : Answer → ℕ
  | .ok => 200
  | .rolledBack => 500
  | .raised (.py (.schemaError _)) => 400
  | .raised _ => 500

structure Reply where
  sys : Sys
  answer : Answer := .ok
  deriving DecidableEq

def onSys (f : Sys → Sys) : Stage Reply := .lift fun r => { r with sys := f r.sys }

def raise (e : Raised) : Stage Reply := fun r => .error { r with answer := .raised e }

def attempt {α : Type} (x : Except Raised α) (k : α → Stage Reply) : Stage Reply :=
  match x with
  | .ok a => k a
  | .error e => raise e

/-! ## What has changed -/

def without (cfg : Dict) (keys : List String) : Dict := cfg.filter fun e => e.1 ∉ keys

def tapRenderView (py : PyNumbers) (cfg : Dict) : Except Raised (Bool × ℤ) := do
  let dl ← orEmpty (cfg.getOr "dynamicLink" .null)
  let tap ← orEmpty (dl.getOr "tap" .null)
  let port ← liftPy (py.toInt (tap.getOr "port" (.int 8110)))
  return ((tap.getOr "enabled" (.bool true)).truthy, port)

def probeRenderView (cfg : Dict) : Except Raised Bool := do
  let dl ← orEmpty (cfg.getOr "dynamicLink" .null)
  let probe ← orEmpty (dl.getOr "probe" .null)
  return (dl.getOr "enabled" (.bool false)).truthy && (probe.getOr "enabled" (.bool false)).truthy

def linkChanged (eff pend : Dict) : Bool := !Json.pyEq (pend.getOr "link" .null) (eff.getOr "link" .null)

def wfbChanged (py : PyNumbers) (eff pend : Dict) : Except Raised Bool := do
  let routed := ["dynamicLink", "pixelpilot", "idrForward", "link"]
  if !Json.pyEq (.obj (without pend routed)) (.obj (without eff routed)) then return true
  if (← tapRenderView py pend) ≠ (← tapRenderView py eff) then return true
  return (← probeRenderView pend) ≠ (← probeRenderView eff)

/-! ## The link -/

def changedKeys (old new : Dict) : List String :=
  (AssocMap.keys old ++ AssocMap.keys new).filter fun k =>
    k ≠ "beamforming" && !Json.pyEq (old.getOr k .null) (new.getOr k .null)

def bwClass (width : Json) : ℕ := if Json.pyEq width (.int 40) then 40 else 20

def canRetuneLive (old new : Dict) : Bool :=
  ((changedKeys old new).all fun k => k ∈ ["channel", "width", "txPowerDbm", "region"]) &&
    bwClass (old.getOr "width" .null) = bwClass (new.getOr "width" .null)

def restartRunner (cfg : Dict) (out : Outcome) (k : Bool → Stage Reply) : Stage Reply :=
  (onSys fun s => { s with runner := ⟨cfg⟩ }).andThen
    (match out with
      | .returned ok => k ok
      | .raised e => raise e)

def retuneRunner (link : Dict) (out : Outcome) (k : Bool → Stage Reply) : Stage Reply :=
  (onSys fun s => { s with runner := s.runner.retuned link }).andThen
    (match out with
      | .returned ok => k ok
      | .raised e => raise e)

def rolledBack : Stage Reply := fun r => .error { r with answer := .rolledBack }

def bounce (o : Outcomes) (eff pend : Dict) : Stage Reply :=
  restartRunner pend o.restart fun ok =>
    if ok then .skip else restartRunner eff o.rollback fun _ => rolledBack

def applyLinkLocal (o : Outcomes) (eff pend old new : Dict) (forceBounce : Bool) : Stage Reply :=
  if !forceBounce && changedKeys old new ≠ [] && canRetuneLive old new then
    retuneRunner new o.retune fun ok => if ok then .skip else bounce o eff pend
  else bounce o eff pend

def linkStage (py : PyNumbers) (o : Outcomes) (eff pend : Dict) : Stage Reply :=
  attempt (wfbChanged py eff pend) fun wfb =>
    .when (linkChanged eff pend || wfb)
      (attempt (asDict (eff.getOr "link" (.obj []))) fun old =>
        attempt (asDict (pend.getOr "link" (.obj []))) fun new =>
          applyLinkLocal o eff pend old new wfb)

/-! ## The routes -/

inductive DlAction where
  | keep
  | stop
  | start (snapshot : Dict)
  | reconfigure (snapshot : Dict)
  deriving DecidableEq

def widthChanged (eff pend : Dict) : Except Raised Bool := do
  let old ← orEmpty (eff.getOr "link" .null)
  let new ← orEmpty (pend.getOr "link" .null)
  return !Json.pyEq (old.getOr "width" .null) (new.getOr "width" .null)

def routeDynamicLink (py : PyNumbers) (eff pend : Dict) : Except Raised DlAction := do
  let widthChanged ← widthChanged eff pend
  let old ← asDict (eff.getOr "dynamicLink" (.obj []))
  let new ← asDict (pend.getOr "dynamicLink" (.obj []))
  let was := dlEnabled old
  let now := dlEnabled new
  if !was && now then return .start (← makeDlSnapshot py pend)
  else if was && !now then return .stop
  else if was && now && (!Json.pyEq (.obj old) (.obj new) || widthChanged) then
    return .reconfigure (← makeDlSnapshot py pend)
  else return .keep

def Controller.perform (py : PyNumbers) (c : Controller) : DlAction → Controller
  | .keep => c
  | .stop => c.stop
  | .start snapshot => (c.setConfig py snapshot).start py
  | .reconfigure snapshot => c.setConfig py snapshot

inductive PpAction where
  | keep
  | stop
  | start (argv : List Json) (env : Dict)
  | restart (argv : List Json) (env : Dict)
  deriving DecidableEq

def routePixelpilot (eff pend : Dict) : Except Raised PpAction :=
  let old := eff.getOr "pixelpilot" (.obj [])
  let new := pend.getOr "pixelpilot" (.obj [])
  if Json.pyEq old new then .ok .keep
  else do
    let was := onByDefault (← asDict old)
    let now := onByDefault (← asDict new)
    if now then
      let argv ← renderPixelpilotArgv pend
      let env ← renderPixelpilotEnv pend
      return if was then .restart argv env else .start argv env
    else return if was then .stop else .keep

def Child.perform (c : Child) : PpAction → Child × Option Raised
  | .keep => (c, none)
  | .stop => (c.stop, none)
  | .start argv env => ({ c with argv, env }).start
  | .restart argv env => ({ c with argv, env }).restart

inductive IdrAction where
  | keep
  | start
  | stop
  | bounce
  deriving DecidableEq

def routeIdrForward (eff pend : Dict) : Except Raised IdrAction :=
  let old := eff.getOr "idrForward" (.obj [])
  let new := pend.getOr "idrForward" (.obj [])
  if Json.pyEq old new then .ok .keep
  else do
    let oldBlk ← asDict old
    let newBlk ← asDict new
    let was := onByDefault oldBlk
    let now := onByDefault newBlk
    return if now && !was then .start
      else if was && !now then .stop
      else if now && was && !Json.pyEq (oldBlk.getOr "port" .null) (newBlk.getOr "port" .null) then .bounce
      else .keep

def Relay.perform (r : Relay) : IdrAction → Relay
  | .keep => r
  | .start | .bounce => { r with running := true }
  | .stop => { r with running := false }

/-! ## The requests -/

def pixelpilotStage (a : PpAction) : Stage Reply := fun r =>
  let (child, raised) := r.sys.pixelpilot.perform a
  let r' := { r with sys := { r.sys with pixelpilot := child } }
  match raised with
  | none => .ok r'
  | some e => raise e r'

def deploy (pl : Platform) (o : Outcomes) (eff pend : Dict) : Stage Reply :=
  (attempt (validateEffective pl pend) fun _ => .skip).andThen <|
  (linkStage pl.py o eff pend).andThen <|
  (attempt (routeDynamicLink pl.py eff pend) fun a =>
    onSys fun s => { s with dynlink := s.dynlink.perform pl.py a }).andThen <|
  (attempt (routePixelpilot eff pend) pixelpilotStage).andThen <|
  attempt (routeIdrForward eff pend) fun a => onSys fun s => { s with idrRelay := s.idrRelay.perform a }

def finish (o : Outcomes) : Stage Reply :=
  (onSys fun s => { s with store := s.store.commit o.written }).andThen <|
  (Stage.when (!o.written) (raise .osError)).andThen <|
  match o.armer with
  | some e => raise e
  | none => .skip

def applyGs (pl : Platform) (o : Outcomes) (s : Sys) : Reply :=
  ((deploy pl o s.store.config s.store.pending).andThen (finish o)).run id { sys := s }

def patchConfig (sparse : Dict) (s : Sys) : Reply :=
  (attempt (validateConfigPatch sparse) fun _ => onSys fun s => { s with store := s.store.patch sparse }).run
    id { sys := s }

/-- `POST /gs/reset`: the runner reads the configuration from the store, and its answer is ignored. -/
def resetGs (o : Outcomes) (s : Sys) : Reply :=
  ((onSys fun s => { s with store := s.store.reset o.written }).andThen <|
    (Stage.when (!o.written) (raise .osError)).andThen fun r =>
      restartRunner r.sys.store.config o.restart (fun _ => .skip) r).run id { sys := s }

/-! ## What the stages do -/

section Stages

variable {pl : Platform} {py : PyNumbers} {o : Outcomes} {s : Sys} {eff pend : Dict} {r r' : Reply}

theorem attempt_eq_ok {α : Type} {x : Except Raised α} {k : α → Stage Reply} :
    attempt x k r = .ok r' ↔ ∃ a, x = .ok a ∧ k a r = .ok r' := by
  cases x <;> simp [attempt, raise]

theorem attempt_eq_error {α : Type} {x : Except Raised α} {k : α → Stage Reply} :
    attempt x k r = .error r' ↔
      (∃ e, x = .error e ∧ r' = { r with answer := .raised e }) ∨
        ∃ a, x = .ok a ∧ k a r = .error r' := by
  cases x <;> simp [attempt, raise, eq_comm]

def switchesRunner (py : PyNumbers) (eff pend : Dict) : Bool :=
  match wfbChanged py eff pend with
  | .ok wfb => linkChanged eff pend || wfb
  | .error _ => false

def Outcome.Returns (out : Outcome) : Prop := ∃ ok, out = .returned ok

theorem restartRunner_eq_ok {cfg : Dict} {out : Outcome} {k : Bool → Stage Reply} :
    restartRunner cfg out k r = .ok r' ↔
      ∃ ok, out = .returned ok ∧ k ok { r with sys := { r.sys with runner := ⟨cfg⟩ } } = .ok r' := by
  cases out <;> simp [restartRunner, Stage.andThen_eq_ok, onSys, Stage.lift, raise]

theorem bounce_ok (h : bounce o eff pend r = .ok r') :
    r' = { r with sys := { r.sys with runner := ⟨pend⟩ } } := by
  obtain ⟨ok, -, h⟩ := restartRunner_eq_ok.mp h
  cases ok with
  | true => exact (Except.ok.inj h).symm
  | false =>
    obtain ⟨_, -, h⟩ := restartRunner_eq_ok.mp h
    cases h

instance (out : Outcome) : Decidable out.Returns :=
  match out with
  | .returned ok => .isTrue ⟨ok, rfl⟩
  | .raised _ => .isFalse nofun

theorem bounce_error (hret : o.restart.Returns) (h : bounce o eff pend r = .error r') :
    r'.sys = { r.sys with runner := ⟨eff⟩ } := by
  obtain ⟨ok, hok⟩ := hret
  unfold bounce restartRunner at h
  rw [hok] at h
  cases ok with
  | true => cases h
  | false =>
    cases hback : o.rollback with
    | returned ok =>
      rw [hback] at h
      cases h
      rfl
    | raised e =>
      rw [hback] at h
      cases h
      rfl

theorem applyLinkLocal_ok {old new : Dict} {wfb : Bool}
    (h : applyLinkLocal o eff pend old new wfb r = .ok r') :
    ∃ runner, r' = { r with sys := { r.sys with runner } } ∧
      (runner = ⟨pend⟩ ∨ runner = r.sys.runner.retuned new) := by
  unfold applyLinkLocal retuneRunner at h
  split_ifs at h
  · obtain ⟨m, hm, h⟩ := Stage.andThen_eq_ok.mp h
    cases hm
    cases hout : o.retune with
    | raised e =>
      rw [hout] at h
      cases h
    | returned ok =>
      rw [hout] at h
      cases ok with
      | true => exact ⟨_, (Except.ok.inj h).symm, .inr rfl⟩
      | false => exact ⟨_, bounce_ok h, .inl rfl⟩
  · exact ⟨_, bounce_ok h, .inl rfl⟩

theorem applyLinkLocal_error {old new : Dict} {wfb : Bool} (hrestart : o.restart.Returns)
    (hretune : o.retune.Returns) (h : applyLinkLocal o eff pend old new wfb r = .error r') :
    r'.sys = { r.sys with runner := ⟨eff⟩ } := by
  unfold applyLinkLocal retuneRunner at h
  split_ifs at h
  · obtain ⟨ok, hok⟩ := hretune
    rw [hok] at h
    cases ok with
    | true => cases h
    | false => exact bounce_error hrestart h
  · exact bounce_error hrestart h

/-- The runner has been given the pending configuration, or its `link` block, or nothing. -/
def RunnerGiven (pend : Dict) (runner runner' : Runner) : Prop :=
  runner' = runner ∨ runner' = ⟨pend⟩ ∨
    ∃ link, asDict (pend.getOr "link" (.obj [])) = .ok link ∧ runner' = runner.retuned link

theorem linkStage_ok (h : linkStage py o eff pend r = .ok r') :
    ∃ runner, r' = { r with sys := { r.sys with runner } } ∧ RunnerGiven pend r.sys.runner runner ∧
      (switchesRunner py eff pend = false → runner = r.sys.runner) := by
  obtain ⟨wfb, hwfb, h⟩ := attempt_eq_ok.mp h
  have hswitch : switchesRunner py eff pend = (linkChanged eff pend || wfb) := by
    rw [switchesRunner, hwfb]
  rw [hswitch]
  unfold Stage.when at h
  split_ifs at h with hchanged
  · obtain ⟨old, -, h⟩ := attempt_eq_ok.mp h
    obtain ⟨new, hnew, h⟩ := attempt_eq_ok.mp h
    obtain ⟨runner, hr, hgiven⟩ := applyLinkLocal_ok h
    refine ⟨runner, hr, .inr ?_, fun hno => absurd (hchanged.symm.trans hno) nofun⟩
    exact hgiven.imp_right fun hretuned => ⟨new, hnew, hretuned⟩
  · exact ⟨r.sys.runner, (Except.ok.inj h).symm, .inl rfl, fun _ => rfl⟩

theorem linkStage_error (hrestart : o.restart.Returns) (hretune : o.retune.Returns)
    (h : linkStage py o eff pend r = .error r') :
    r'.sys = r.sys ∨ r'.sys = { r.sys with runner := ⟨eff⟩ } := by
  rcases attempt_eq_error.mp h with ⟨e, -, rfl⟩ | ⟨wfb, -, h⟩
  · exact .inl rfl
  · unfold Stage.when at h
    split_ifs at h
    · rcases attempt_eq_error.mp h with ⟨e, -, rfl⟩ | ⟨old, -, h⟩
      · exact .inl rfl
      · rcases attempt_eq_error.mp h with ⟨e, -, rfl⟩ | ⟨new, -, h⟩
        · exact .inl rfl
        · exact .inr (applyLinkLocal_error hrestart hretune h)
    · cases h

theorem pixelpilotStage_ok {a : PpAction} (h : pixelpilotStage a r = .ok r') :
    (r.sys.pixelpilot.perform a).2 = none ∧
      r' = { r with sys := { r.sys with pixelpilot := (r.sys.pixelpilot.perform a).1 } } := by
  unfold pixelpilotStage at h
  cases hraised : (r.sys.pixelpilot.perform a).2 with
  | none =>
    simp only [hraised] at h
    exact ⟨rfl, (Except.ok.inj h).symm⟩
  | some e =>
    simp only [hraised] at h
    cases h

structure Deployed (pl : Platform) (eff pend : Dict) (s s' : Sys) : Prop where
  valid : validateEffective pl pend = .ok ()
  store : s'.store = s.store
  runner : RunnerGiven pend s.runner s'.runner
  dynlink : ∃ a, routeDynamicLink pl.py eff pend = .ok a ∧ s'.dynlink = s.dynlink.perform pl.py a
  pixelpilot : ∃ a, routePixelpilot eff pend = .ok a ∧ (s.pixelpilot.perform a).2 = none ∧
    s'.pixelpilot = (s.pixelpilot.perform a).1
  idrRelay : ∃ a, routeIdrForward eff pend = .ok a ∧ s'.idrRelay = s.idrRelay.perform a

theorem deploy_ok (h : deploy pl o eff pend r = .ok r') :
    Deployed pl eff pend r.sys r'.sys ∧ r'.answer = r.answer := by
  obtain ⟨r₁, hr₁, h⟩ := Stage.andThen_eq_ok.mp h
  obtain ⟨_, hvalid, hr₁⟩ := attempt_eq_ok.mp hr₁
  cases hr₁
  obtain ⟨r₂, hlink, h⟩ := Stage.andThen_eq_ok.mp h
  obtain ⟨runner, rfl, hrunner, -⟩ := linkStage_ok hlink
  obtain ⟨r₃, hdl, h⟩ := Stage.andThen_eq_ok.mp h
  obtain ⟨a, ha, hr₃⟩ := attempt_eq_ok.mp hdl
  cases hr₃
  obtain ⟨r₄, hpp, h⟩ := Stage.andThen_eq_ok.mp h
  obtain ⟨b, hb, hr₄⟩ := attempt_eq_ok.mp hpp
  obtain ⟨hraised, rfl⟩ := pixelpilotStage_ok hr₄
  obtain ⟨c, hc, hr₅⟩ := attempt_eq_ok.mp h
  cases hr₅
  exact ⟨⟨hvalid, rfl, hrunner, ⟨a, ha, rfl⟩, ⟨b, hb, hraised, rfl⟩, ⟨c, hc, rfl⟩⟩, rfl⟩

theorem finish_ok (h : finish o r = .ok r') :
    o.written = true ∧ r' = { r with sys := { r.sys with store := r.sys.store.commit true } } := by
  obtain ⟨r₁, hr₁, h⟩ := Stage.andThen_eq_ok.mp h
  cases hr₁
  obtain ⟨r₂, hr₂, h⟩ := Stage.andThen_eq_ok.mp h
  cases hw : o.written with
  | false =>
    rw [hw] at hr₂
    cases hr₂
  | true =>
    rw [hw] at hr₂
    cases hr₂
    cases harmer : o.armer with
    | some e =>
      rw [harmer] at h
      cases h
    | none =>
      rw [harmer] at h
      exact ⟨rfl, (Except.ok.inj h).symm⟩

/-- The stage keeps `Q` of the store, and returns early only with an answer that is not 200. -/
def Within (Q : ConfigStore → Prop) (c : Stage Reply) : Prop :=
  Stage.Spec (fun r => Q r.sys.store) c (fun r => Q r.sys.store)
    (fun r => Q r.sys.store ∧ r.answer ≠ .ok)

section Within

variable {Q : ConfigStore → Prop} {c d : Stage Reply}

theorem within_onSys (f : Sys → Sys) (hf : ∀ s, Q s.store → Q (f s).store) : Within Q (onSys f) :=
  fun r hr => hf r.sys hr

theorem within_skip : Within Q .skip := fun _ hr => hr

theorem within_raise (e : Raised) : Within Q (raise e) := fun _ hr => ⟨hr, nofun⟩

theorem Within.andThen (hc : Within Q c) (hd : Within Q d) : Within Q (c.andThen d) :=
  Stage.Spec.andThen hc hd

theorem Within.when {b : Bool} (hc : Within Q c) : Within Q (.when b c) :=
  Stage.Spec.when (fun _ => hc) fun _ _ hr => hr

theorem Within.attempt {α : Type} {x : Except Raised α} {k : α → Stage Reply}
    (hk : ∀ a, Within Q (k a)) : Within Q (attempt x k) := by
  cases x with
  | ok a => exact hk a
  | error e => exact within_raise e

theorem Within.restartRunner {cfg : Dict} {out : Outcome} {k : Bool → Stage Reply}
    (hk : ∀ ok, Within Q (k ok)) : Within Q (restartRunner cfg out k) := by
  refine Within.andThen (within_onSys _ fun _ hs => hs) ?_
  cases out with
  | returned ok => exact hk ok
  | raised e => exact within_raise e

theorem within_bounce : Within Q (bounce o eff pend) := by
  refine Within.restartRunner fun ok => ?_
  cases ok with
  | true => exact within_skip
  | false => exact Within.restartRunner fun _ _ hr => ⟨hr, nofun⟩

theorem within_linkStage : Within Q (linkStage py o eff pend) := by
  refine Within.attempt fun wfb => .when (.attempt fun old => .attempt fun new => ?_)
  unfold applyLinkLocal
  split_ifs
  · refine Within.andThen (within_onSys _ fun _ hs => hs) ?_
    cases o.retune with
    | raised e => exact within_raise e
    | returned ok =>
      cases ok with
      | true => exact within_skip
      | false => exact within_bounce
  · exact within_bounce

theorem within_pixelpilotStage (a : PpAction) : Within Q (pixelpilotStage a) := by
  intro r hr
  unfold pixelpilotStage
  cases hraised : (r.sys.pixelpilot.perform a).2 with
  | none =>
    simp only [hraised]
    exact hr
  | some e =>
    simp only [hraised]
    exact ⟨hr, nofun⟩

theorem within_deploy : Within Q (deploy pl o eff pend) := by
  refine Within.andThen (.attempt fun _ => within_skip) (within_linkStage.andThen ?_)
  refine Within.andThen (.attempt fun _ => within_onSys _ fun _ hs => hs) ?_
  refine Within.andThen (.attempt within_pixelpilotStage) ?_
  exact .attempt fun _ => within_onSys _ fun _ hs => hs

theorem within_finish : Within (fun _ => True) (finish o) := by
  refine Within.andThen (within_onSys _ fun _ hs => hs) ((within_raise _).when.andThen ?_)
  cases o.armer with
  | some e => exact within_raise e
  | none => exact within_skip

end Within

theorem Within.refuses {c : Stage Reply} (hc : Within (fun _ => True) c) (h : c r = .error r') :
    r'.answer ≠ .ok := by
  have hr := hc r trivial
  rw [h] at hr
  exact hr.2

theorem code_ok {a : Answer} : a.code = 200 ↔ a = .ok := by
  unfold Answer.code
  split <;> simp

theorem apply_ok (h : (applyGs pl o s).answer.code = 200) :
    ∃ s', Deployed pl s.store.config s.store.pending s s' ∧ o.written = true ∧
      (applyGs pl o s).sys = { s' with store := s'.store.commit true } := by
  rw [code_ok] at h
  unfold applyGs at h ⊢
  cases hstages : (deploy pl o s.store.config s.store.pending).andThen (finish o) { sys := s } with
  | error r =>
    rw [Stage.run_of_error hstages] at h
    exact absurd h ((within_deploy.andThen within_finish).refuses hstages)
  | ok r =>
    rw [Stage.run_of_ok hstages]
    obtain ⟨m, hdeploy, hfinish⟩ := Stage.andThen_eq_ok.mp hstages
    obtain ⟨hwritten, hr⟩ := finish_ok hfinish
    exact ⟨m.sys, (deploy_ok hdeploy).1, hwritten, by rw [id, hr]⟩

end Stages

/-! ## All or nothing -/

def switchesDynlink (py : PyNumbers) (eff pend : Dict) : Bool :=
  match routeDynamicLink py eff pend with
  | .ok a => a ≠ .keep
  | .error _ => false

def switchesPixelpilot (eff pend : Dict) : Bool :=
  match routePixelpilot eff pend with
  | .ok a => a ≠ .keep
  | .error _ => false

def spawnRaises (eff pend : Dict) : Bool :=
  match routePixelpilot eff pend with
  | .ok (.start argv env) | .ok (.restart argv env) => (popenRaises argv env).isSome
  | _ => false

/-- Nothing raises in the request once a service has been switched. -/
structure NoLateRaise (pl : Platform) (o : Outcomes) (eff pend : Dict) : Prop where
  restart : o.restart.Returns
  retune : o.retune.Returns
  dynlink : switchesRunner pl.py eff pend = true → (routeDynamicLink pl.py eff pend).isOk = true
  pixelpilot : (switchesRunner pl.py eff pend || switchesDynlink pl.py eff pend) = true →
    (routePixelpilot eff pend).isOk = true
  spawn : spawnRaises eff pend = false
  idrForward : (switchesRunner pl.py eff pend || switchesDynlink pl.py eff pend ||
    switchesPixelpilot eff pend) = true → (routeIdrForward eff pend).isOk = true
  written : o.written = true
  armer : o.armer = none

/-- The effective configuration is as before, and each service has the configuration it had; the
runner may have been given the effective one anew. -/
structure Untouched (s s' : Sys) : Prop where
  config : s'.store.config = s.store.config
  runner : s'.runner = s.runner ∨ s'.runner.given = s.store.config
  dynlink : s'.dynlink = s.dynlink
  pixelpilot : s'.pixelpilot = s.pixelpilot

instance (pl : Platform) (o : Outcomes) (eff pend : Dict) : Decidable (NoLateRaise pl o eff pend) :=
  decidable_of_iff (_ ∧ _ ∧ _ ∧ _ ∧ _ ∧ _ ∧ _ ∧ _)
    ⟨fun ⟨h1, h2, h3, h4, h5, h6, h7, h8⟩ => ⟨h1, h2, h3, h4, h5, h6, h7, h8⟩,
      fun ⟨h1, h2, h3, h4, h5, h6, h7, h8⟩ => ⟨h1, h2, h3, h4, h5, h6, h7, h8⟩⟩

instance (s s' : Sys) : Decidable (Untouched s s') :=
  decidable_of_iff (_ ∧ _ ∧ _ ∧ _)
    ⟨fun ⟨h1, h2, h3, h4⟩ => ⟨h1, h2, h3, h4⟩, fun ⟨h1, h2, h3, h4⟩ => ⟨h1, h2, h3, h4⟩⟩

theorem Untouched.refl (s : Sys) : Untouched s s := ⟨rfl, .inl rfl, rfl, rfl⟩

section AllOrNothing

variable {pl : Platform} {o : Outcomes} {s : Sys} {eff pend : Dict} {r r' : Reply}

theorem perform_raises {c : Child} {a : PpAction} {eff pend : Dict} (ha : routePixelpilot eff pend = .ok a)
    (h : spawnRaises eff pend = false) : (c.perform a).2 = none := by
  unfold spawnRaises at h
  rw [ha] at h
  cases a with
  | keep => rfl
  | stop => rfl
  | start argv env =>
    have hnone : popenRaises argv env = none := by simpa using h
    simp [Child.perform, Child.start, hnone]
  | restart argv env =>
    have hnone : popenRaises argv env = none := by simpa using h
    simp [Child.perform, Child.restart, Child.stop, Child.start, hnone]

theorem pixelpilotStage_error {a : PpAction} (h : pixelpilotStage a r = .error r') :
    (r.sys.pixelpilot.perform a).2 ≠ none := by
  intro hnone
  unfold pixelpilotStage at h
  simp only [hnone] at h
  cases h

theorem unswitched {α : Type} {x : Except Raised α} {e : Raised} {switched : Bool}
    (h : switched = true → x.isOk = true) (he : x = .error e) : switched = false := by
  cases switched with
  | false => rfl
  | true =>
    rw [he] at h
    cases h rfl

theorem deploy_error (hsafe : NoLateRaise pl o eff pend) (hstart : eff = r.sys.store.config)
    (h : deploy pl o eff pend r = .error r') : Untouched r.sys r'.sys := by
  rcases Stage.andThen_eq_error.mp h with h | ⟨r₁, hr₁, h⟩
  · rcases attempt_eq_error.mp h with ⟨e, -, rfl⟩ | ⟨_, -, h⟩
    · exact .refl _
    · cases h
  obtain ⟨_, -, hr₁⟩ := attempt_eq_ok.mp hr₁
  cases hr₁
  rcases Stage.andThen_eq_error.mp h with h | ⟨r₂, hr₂, h⟩
  · rcases linkStage_error hsafe.restart hsafe.retune h with hsys | hsys
    · rw [hsys]
      exact .refl _
    · rw [hsys]
      exact ⟨rfl, .inr hstart, rfl, rfl⟩
  obtain ⟨runner, rfl, -, hrunner⟩ := linkStage_ok hr₂
  -- from here on a stage raises only if nothing has been switched
  rcases Stage.andThen_eq_error.mp h with h | ⟨r₃, hr₃, h⟩
  · rcases attempt_eq_error.mp h with ⟨e, he, rfl⟩ | ⟨_, -, h⟩
    · exact ⟨rfl, .inl (hrunner (unswitched hsafe.dynlink he)), rfl, rfl⟩
    · cases h
  obtain ⟨a, ha, hr₃⟩ := attempt_eq_ok.mp hr₃
  cases hr₃
  have hdl : switchesDynlink pl.py eff pend = decide (a ≠ .keep) := by rw [switchesDynlink, ha]
  rcases Stage.andThen_eq_error.mp h with h | ⟨r₄, hr₄, h⟩
  · rcases attempt_eq_error.mp h with ⟨e, he, rfl⟩ | ⟨b, hb, h⟩
    · have hno := unswitched hsafe.pixelpilot he
      rw [hdl, Bool.or_eq_false_iff] at hno
      obtain rfl : a = .keep := by simpa using hno.2
      exact ⟨rfl, .inl (hrunner hno.1), rfl, rfl⟩
    · exact absurd (perform_raises hb hsafe.spawn) (pixelpilotStage_error h)
  obtain ⟨b, hb, hr₄⟩ := attempt_eq_ok.mp hr₄
  obtain ⟨-, rfl⟩ := pixelpilotStage_ok hr₄
  have hpp : switchesPixelpilot eff pend = decide (b ≠ .keep) := by rw [switchesPixelpilot, hb]
  rcases attempt_eq_error.mp h with ⟨e, he, rfl⟩ | ⟨_, -, h⟩
  · have hno := unswitched hsafe.idrForward he
    rw [hdl, hpp, Bool.or_eq_false_iff, Bool.or_eq_false_iff] at hno
    obtain rfl : a = .keep := by simpa using hno.1.2
    obtain rfl : b = .keep := by simpa using hno.2
    exact ⟨rfl, .inl (hrunner hno.1.1), rfl, rfl⟩
  · cases h

end AllOrNothing

end Fpvd.Gs
