import Mathlib.Logic.Basic
import Mathlib.Tactic.Basic

/-!
# Fpvd.Lib.Stage — straight-line code with early returns

A stage is a piece of code over a state: it continues (`.ok`) or returns early (`.error`), in both
cases with the state it leaves.

* `Stage.lift`, `Stage.skip`, `Stage.when`, `Stage.andThen` build stages; `Stage.run c k` runs `c` and
  then `k` if `c` continues; `andThen_eq_ok` and `andThen_eq_error` take a sequence apart.
-/

namespace Fpvd

variable {σ : Type}

def Stage (σ : Type) : Type := σ → Except σ σ

namespace Stage

def lift (f : σ → σ) : Stage σ := fun s => .ok (f s)

def skip : Stage σ := lift id

def when (b : Bool) (c : Stage σ) : Stage σ := if b then c else skip

def andThen (c d : Stage σ) : Stage σ := fun s =>
  match c s with
  | .ok s' => d s'
  | .error s' => .error s'

def run (c : Stage σ) (k : σ → σ) (s : σ) : σ :=
  match c s with
  | .ok s' => k s'
  | .error s' => s'

@[simp] theorem run_lift (f k : σ → σ) : (lift f).run k = fun s => k (f s) := rfl

theorem run_andThen (c d : Stage σ) (k : σ → σ) : (c.andThen d).run k = c.run (d.run k) := by
  funext s
  unfold run andThen
  cases c s <;> rfl

theorem run_when (b : Bool) (c : Stage σ) (k : σ → σ) (s : σ) :
    (when b c).run k s = if b then c.run k s else k s := by
  cases b <;> rfl

variable {c : Stage σ} {s s' : σ}

theorem run_of_ok {k : σ → σ} (h : c s = .ok s') : c.run k s = k s' := by
  rw [run, h]

theorem run_of_error {k : σ → σ} (h : c s = .error s') : c.run k s = s' := by
  rw [run, h]

theorem andThen_eq_ok {d : Stage σ} :
    (c.andThen d) s = .ok s' ↔ ∃ m, c s = .ok m ∧ d m = .ok s' := by
  unfold andThen
  cases c s <;> simp

theorem andThen_eq_error {d : Stage σ} :
    (c.andThen d) s = .error s' ↔ c s = .error s' ∨ ∃ m, c s = .ok m ∧ d m = .error s' := by
  unfold andThen
  cases c s <;> simp

/-- From a state in `P` the stage continues in `Q` or returns in `R`. -/
def Spec (P : σ → Prop) (c : Stage σ) (Q R : σ → Prop) : Prop :=
  ∀ s, P s → match c s with
    | .ok s' => Q s'
    | .error s' => R s'

variable {P Q Q' R : σ → Prop} {c d : Stage σ} {b : Bool}

theorem Spec.when (ht : b = true → Spec P c Q R) (hf : b = false → ∀ s, P s → Q s) :
    Spec P (when b c) Q R := by
  cases b with
  | true => exact ht rfl
  | false => exact hf rfl

theorem Spec.andThen (hc : Spec P c Q R) (hd : Spec Q d Q' R) : Spec P (c.andThen d) Q' R := by
  intro s hs
  have h := hc s hs
  unfold Stage.andThen
  cases hcs : c s with
  | ok s' =>
    rw [hcs] at h
    exact hd s' h
  | error s' =>
    rw [hcs] at h
    exact h

theorem Spec.run {T : σ → Prop} {k : σ → σ} (h : Spec P c Q R) (hk : ∀ s, Q s → T (k s))
    (hR : ∀ s, R s → T s) {s : σ} (hs : P s) : T (c.run k s) := by
  have h' := h s hs
  unfold Stage.run
  cases hcs : c s with
  | ok s' =>
    rw [hcs] at h'
    exact hk s' h'
  | error s' =>
    rw [hcs] at h'
    exact hR s' h'

end Stage

end Fpvd
