import Mathlib.Logic.Function.Basic
import Fpvd.Gs.Api

/-!
# Fpvd.Gs.Race — concurrent requests (`ThreadingHTTPServer` over `Api.handle`)

Each request runs in a thread of its own; the threads meet in the store, whose methods are atomic.  An
event is one store call of one request with what the request does up to its next one: a PATCH has one
call that writes; an apply has `pending()`, `effective()` and `commit()`, with the deployment between
the last two.
-/

namespace Fpvd.Gs

inductive Phase where
  | waiting
  /-- it has called `pending()` -/
  | pended (pending : Dict)
  /-- it has called `effective()` -/
  | read (pending effective : Dict)
  /-- the check has accepted `pending` and the services were given it: the system before and after -/
  | deployed (pending effective : Dict) (before after : Sys)
  /-- it has called `commit()`; `store` is the store as the call left it -/
  | answered (pending effective : Dict) (before after : Sys) (store : ConfigStore) (answer : Answer)
  /-- it has answered without a commit -/
  | refused (answer : Answer)

/-- The configuration that an apply between its `pending()` and its `commit()` has in hand. -/
def Phase.inHand : Phase → Option Dict
  | .pended pending | .read pending _ | .deployed pending _ _ _ => some pending
  | _ => none

structure Race where
  sys : Sys
  phase : ℕ → Phase

inductive RaceEvent where
  | patch (sparse : Dict)
  | next (i : ℕ) (o : Outcomes)

namespace Race

def setPhase (w : Race) (i : ℕ) (p : Phase) : Race := { w with phase := Function.update w.phase i p }

def next (pl : Platform) (w : Race) (i : ℕ) (o : Outcomes) : Race :=
  match w.phase i with
  | .waiting => w.setPhase i (.pended w.sys.store.pending)
  | .pended pending => w.setPhase i (.read pending w.sys.store.config)
  | .read pending effective =>
    match deploy pl o effective pending { sys := w.sys } with
    | .ok r => { w with sys := r.sys }.setPhase i (.deployed pending effective w.sys r.sys)
    | .error r => { w with sys := r.sys }.setPhase i (.refused r.answer)
  | .deployed pending effective before after =>
    let r := (finish o).run id { sys := w.sys }
    { w with sys := r.sys }.setPhase i (.answered pending effective before after r.sys.store r.answer)
  | .answered .. | .refused _ => w

def step (pl : Platform) (w : Race) : RaceEvent → Race
  | .patch sparse => { w with sys := (patchConfig sparse w.sys).sys }
  | .next i o => w.next pl i o

def start (s : Sys) : Race := ⟨s, fun _ => .waiting⟩

/-- A PATCH comes when no apply is between its `pending()` and its `commit()`, or changes nothing. -/
def Undisturbed (w : Race) : RaceEvent → Prop
  | .patch sparse => (∀ i, (w.phase i).inHand = none) ∨
      (patchConfig sparse w.sys).sys.store.pending = w.sys.store.pending
  | .next _ _ => True

/-- An apply that answered 200 committed what it had checked and given to the services. -/
structure CommittedDeployed (pl : Platform) (pending effective : Dict) (before after : Sys)
    (store : ConfigStore) : Prop where
  valid : validateEffective pl pending = .ok ()
  given : Deployed pl effective pending before after
  config : store.config = pending
  persisted : store.persisted = some pending

def PhaseInv (pl : Platform) (store : ConfigStore) : Phase → Prop
  | .pended pending | .read pending _ => pending = store.pending
  | .deployed pending effective before after =>
    pending = store.pending ∧ Deployed pl effective pending before after
  | .answered pending effective before after store answer =>
    answer.code = 200 → CommittedDeployed pl pending effective before after store
  | .waiting | .refused _ => True

variable {pl : Platform} {w : Race} {e : RaceEvent}

variable {store store' : ConfigStore} {p : Phase}

theorem PhaseInv.congr (hp : PhaseInv pl store p) (h : store'.pending = store.pending) :
    PhaseInv pl store' p := by
  cases p with
  | pended => exact Eq.trans hp h.symm
  | read => exact Eq.trans hp h.symm
  | deployed => exact ⟨hp.1.trans h.symm, hp.2⟩
  | _ => exact hp

theorem PhaseInv.of_inHand (hp : PhaseInv pl store p) (h : p.inHand = none) : PhaseInv pl store' p := by
  cases p with
  | pended => cases h
  | read => cases h
  | deployed => cases h
  | _ => exact hp

theorem phaseInv_update {phase : ℕ → Phase} {i : ℕ} (h : ∀ j, PhaseInv pl store (phase j))
    (hstore : store'.pending = store.pending) (hp : PhaseInv pl store' p) :
    ∀ j, PhaseInv pl store' (Function.update phase i p j) := by
  intro j
  by_cases hj : j = i
  · rw [hj, Function.update_self]
    exact hp
  · rw [Function.update_of_ne hj]
    exact (h j).congr hstore

theorem finish_pending (o : Outcomes) (r : Reply) :
    ((finish o).run id r).sys.store.pending = r.sys.store.pending := by
  unfold finish
  cases o.written <;> cases o.armer <;> rfl

theorem finish_committed {o : Outcomes} {r : Reply} (h : ((finish o).run id r).answer.code = 200) :
    ((finish o).run id r).sys.store = r.sys.store.commit true := by
  cases hfinish : finish o r with
  | error r' =>
    rw [Stage.run_of_error hfinish] at h
    exact absurd (code_ok.mp h) (within_finish.refuses hfinish)
  | ok r' => rw [Stage.run_of_ok hfinish, id, (finish_ok hfinish).2]

theorem phaseInv_step (h : ∀ i, PhaseInv pl w.sys.store (w.phase i)) (he : Undisturbed w e) :
    ∀ i, PhaseInv pl (w.step pl e).sys.store ((w.step pl e).phase i) := by
  cases e with
  | patch sparse =>
    intro i
    rcases he with hnone | hsame
    · exact (h i).of_inHand (hnone i)
    · exact (h i).congr hsame
  | next i o =>
    have hi := h i
    rw [step]
    cases hphase : w.phase i with
    | waiting =>
      rw [next, hphase]
      exact phaseInv_update (p := .pended w.sys.store.pending) h rfl rfl
    | pended pending =>
      rw [hphase] at hi
      rw [next, hphase]
      exact phaseInv_update (p := .read pending w.sys.store.config) h rfl hi
    | read pending effective =>
      rw [hphase] at hi
      have hwithin : Within (· = w.sys.store) (deploy pl o effective pending) := within_deploy
      have hkept := hwithin { sys := w.sys } rfl
      cases hdeploy : deploy pl o effective pending { sys := w.sys } with
      | ok r =>
        rw [hdeploy] at hkept
        have hpending : r.sys.store.pending = w.sys.store.pending := congrArg _ hkept
        simp only [next, hphase, hdeploy]
        exact phaseInv_update (p := .deployed pending effective w.sys r.sys) h hpending
          ⟨Eq.trans hi hpending.symm, (deploy_ok hdeploy).1⟩
      | error r =>
        rw [hdeploy] at hkept
        simp only [next, hphase, hdeploy]
        exact phaseInv_update (p := .refused r.answer) h (congrArg _ hkept.1) trivial
    | deployed pending effective before after =>
      rw [hphase] at hi
      simp only [next, hphase]
      refine phaseInv_update (p := .answered pending effective before after _ _) h (finish_pending o _)
        fun hcode => ?_
      have hstore := finish_committed hcode
      refine ⟨hi.2.valid, hi.2, ?_, ?_⟩
      · rw [hstore, hi.1]
        rfl
      · rw [hstore, hi.1]
        rfl
    | answered =>
      rw [next, hphase]
      exact h
    | refused =>
      rw [next, hphase]
      exact h

/-- **An apply that answers 200 has committed what it checked and gave to the services**, in every
interleaving in which no PATCH changes the pending configuration while an apply is between its
`pending()` and its `commit()`. -/
theorem commit_is_deployed (pl : Platform) (s : Sys) (es : List RaceEvent)
    (hrun : Run.Meets (step pl) Undisturbed (start s) es) (i : ℕ) (pending effective : Dict)
    (before after : Sys) (store : ConfigStore) (answer : Answer)
    (hanswered : (es.foldl (step pl) (start s)).phase i =
      .answered pending effective before after store answer) (hcode : answer.code = 200) :
    CommittedDeployed pl pending effective before after store := by
  have hinv := Run.Meets.invariant (I := fun w => ∀ i, PhaseInv pl w.sys.store (w.phase i))
    (fun _ _ h he => phaseInv_step h he) es (start s) (fun _ => by simp [start, PhaseInv]) hrun i
  rw [hanswered] at hinv
  exact hinv hcode

/-- A test of what an apply has answered and committed. -/
def answers (w : Race) (i : ℕ) (test : Dict → ConfigStore → Answer → Bool) : Bool :=
  match w.phase i with
  | .answered pending _ _ _ store answer => test pending store answer
  | _ => false

theorem exists_of_answers {i : ℕ} {test : Dict → ConfigStore → Answer → Bool}
    (h : w.answers i test = true) : ∃ pending effective before after store answer,
      w.phase i = .answered pending effective before after store answer ∧
        test pending store answer = true := by
  unfold answers at h
  split at h
  · next hphase => exact ⟨_, _, _, _, _, _, hphase, h⟩
  · cases h

/-- A new channel, applied with nobody else there. -/
theorem commit_is_deployed_alone : ∃ s, boot plainPlatform [] = .ok s ∧
    ∃ pending effective before after store,
      ([.patch [("link", .obj [("channel", .int 149)])], .next 0 {}, .next 0 {}, .next 0 {},
        .next 0 {}].foldl (step plainPlatform) (start s)).phase 0 =
          .answered pending effective before after store .ok ∧
        CommittedDeployed plainPlatform pending effective before after store := by
  let es : List RaceEvent := [.patch [("link", .obj [("channel", .int 149)])], .next 0 {}, .next 0 {},
    .next 0 {}, .next 0 {}]
  obtain ⟨s, hboot, h⟩ := exists_ok (x := boot plainPlatform []) (P := fun s =>
    (es.foldl (step plainPlatform) (start s)).answers 0 (fun _ _ answer => answer = .ok) = true)
    (by decide +kernel)
  obtain ⟨pending, effective, before, after, store, answer, hphase, hanswer⟩ := exists_of_answers h
  obtain rfl := of_decide_eq_true hanswer
  refine ⟨s, hboot, pending, effective, before, after, store, hphase,
    commit_is_deployed plainPlatform s es ?_ 0 pending effective before after store .ok hphase rfl⟩
  exact ⟨.inl fun _ => rfl, trivial, trivial, trivial, trivial, trivial⟩

/-- A PATCH between the deployment and the commit of an apply: the apply answers 200 and has committed
a configuration that the check refuses and no service was given. -/
theorem commit_overtaken : ∃ s, boot plainPlatform [] = .ok s ∧
    ∃ pending effective before after store,
      ([.next 0 {}, .next 0 {}, .next 0 {}, .patch [("link", .obj [("width", .int 7)])],
        .next 0 {}].foldl (step plainPlatform) (start s)).phase 0 =
          .answered pending effective before after store .ok ∧
        store.config ≠ pending ∧ store.persisted = some store.config ∧
        validateEffective plainPlatform store.config =
          .error (.py (.schemaError "link.width must be one of [5, 10, 20, 40]")) := by
  let es : List RaceEvent := [.next 0 {}, .next 0 {}, .next 0 {},
    .patch [("link", .obj [("width", .int 7)])], .next 0 {}]
  obtain ⟨s, hboot, h⟩ := exists_ok (x := boot plainPlatform []) (P := fun s =>
    (es.foldl (step plainPlatform) (start s)).answers 0 (fun pending store answer =>
      answer = .ok ∧ store.config ≠ pending ∧ store.persisted = some store.config ∧
        validateEffective plainPlatform store.config =
          .error (.py (.schemaError "link.width must be one of [5, 10, 20, 40]"))) = true)
    (by decide +kernel)
  obtain ⟨pending, effective, before, after, store, answer, hphase, htest⟩ := exists_of_answers h
  obtain ⟨rfl, hne, hpersisted, hrefused⟩ := of_decide_eq_true htest
  exact ⟨s, hboot, pending, effective, before, after, store, hphase, hne, hpersisted, hrefused⟩

end Race

end Fpvd.Gs
