import Mathlib.Logic.Function.Basic
import Mathlib.Tactic

/-!
# Fpvd.Lib.Ledger — handles that are created, closed and held

Handles are numbered as they are created.  `closed` lists those that were closed, and `held i` is the
handle in slot `i`.

* One lemma on each for closing what some slots hold (`release`), for a handle that is created and closed
  at once (`discard`) and for one that is created into a slot (`acquire`).  Only the last can leak.
-/

namespace Fpvd

variable {ι κ : Type}

/-- Every held handle is open, and in one slot. -/
structure Accounts (created : ℕ) (closed : List ℕ) (held : ι → Option ℕ) : Prop where
  closed_lt : ∀ n ∈ closed, n < created
  held_lt : ∀ i n, held i = some n → n < created
  isOpen : ∀ i n, held i = some n → n ∉ closed
  inj : ∀ i j n, held i = some n → held j = some n → i = j

/-- Every open handle is held. -/
def NoLeak (created : ℕ) (closed : List ℕ) (held : ι → Option ℕ) : Prop :=
  ∀ n < created, n ∉ closed → ∃ i, held i = some n

variable {created : ℕ} {closed ns : List ℕ} {held : ι → Option ℕ}

section Release

variable {P : ι → Prop} [DecidablePred P]

theorem held_of_released {i : ι} {n : ℕ} (h : (if P i then none else held i) = some n) :
    ¬ P i ∧ held i = some n := by
  split_ifs at h with hP
  exact ⟨hP, h⟩

theorem Accounts.release (h : Accounts created closed held)
    (hns : ∀ n, n ∈ ns ↔ ∃ i, P i ∧ held i = some n) :
    Accounts created (ns ++ closed) fun i => if P i then none else held i := by
  constructor
  · intro n hn
    rcases List.mem_append.mp hn with hn | hn
    · obtain ⟨i, -, hi⟩ := (hns n).mp hn
      exact h.held_lt i n hi
    · exact h.closed_lt n hn
  · intro i n hi
    exact h.held_lt i n (held_of_released hi).2
  · intro i n hi hn
    obtain ⟨hP, hi⟩ := held_of_released hi
    rcases List.mem_append.mp hn with hn | hn
    · obtain ⟨j, hj, hheld⟩ := (hns n).mp hn
      exact hP (h.inj j i n hheld hi ▸ hj)
    · exact h.isOpen i n hi hn
  · intro i j n hi hj
    exact h.inj i j n (held_of_released hi).2 (held_of_released hj).2

theorem noLeak_release (hns : ∀ n, n ∈ ns ↔ ∃ i, P i ∧ held i = some n) :
    NoLeak created (ns ++ closed) (fun i => if P i then none else held i) ↔
      NoLeak created closed held := by
  constructor
  · intro hleak n hn hopen
    by_cases hmem : n ∈ ns
    · obtain ⟨i, -, hi⟩ := (hns n).mp hmem
      exact ⟨i, hi⟩
    · obtain ⟨i, hi⟩ := hleak n hn (List.not_mem_append hmem hopen)
      exact ⟨i, (held_of_released hi).2⟩
  · intro hleak n hn hopen
    rw [List.mem_append, not_or] at hopen
    obtain ⟨i, hi⟩ := hleak n hn hopen.2
    have hP : ¬ P i := fun hP => hopen.1 ((hns n).mpr ⟨i, hP, hi⟩)
    exact ⟨i, (if_neg hP).trans hi⟩

end Release

theorem Accounts.discard (h : Accounts created closed held) :
    Accounts (created + 1) (created :: closed) held := by
  constructor
  · intro n hn
    rcases List.mem_cons.mp hn with rfl | hn
    · exact Nat.lt_succ_self n
    · exact Nat.lt_succ_of_lt (h.closed_lt n hn)
  · intro i n hi
    exact Nat.lt_succ_of_lt (h.held_lt i n hi)
  · intro i n hi hn
    rcases List.mem_cons.mp hn with rfl | hn
    · exact absurd (h.held_lt i n hi) (lt_irrefl n)
    · exact h.isOpen i n hi hn
  · exact h.inj

theorem noLeak_discard : NoLeak (created + 1) (created :: closed) held ↔ NoLeak created closed held := by
  constructor
  · intro hleak n hn hopen
    exact hleak n (Nat.lt_succ_of_lt hn) (List.not_mem_cons_of_ne_of_not_mem hn.ne hopen)
  · intro hleak n hn hopen
    rw [List.mem_cons, not_or] at hopen
    exact hleak n (lt_of_le_of_ne (Nat.lt_succ_iff.mp hn) hopen.1) hopen.2

section Acquire

variable [DecidableEq ι]

theorem Accounts.acquire (h : Accounts created closed held) (i : ι) :
    Accounts (created + 1) closed (Function.update held i (some created)) := by
  have hcases : ∀ j n, Function.update held i (some created) j = some n →
      (j = i ∧ n = created) ∨ (j ≠ i ∧ held j = some n) := by
    intro j n hj
    by_cases hji : j = i
    · subst hji
      rw [Function.update_self] at hj
      exact .inl ⟨rfl, (Option.some.inj hj).symm⟩
    · rw [Function.update_of_ne hji] at hj
      exact .inr ⟨hji, hj⟩
  constructor
  · intro n hn
    exact Nat.lt_succ_of_lt (h.closed_lt n hn)
  · intro j n hj
    rcases hcases j n hj with ⟨-, rfl⟩ | ⟨-, hj⟩
    · exact Nat.lt_succ_self n
    · exact Nat.lt_succ_of_lt (h.held_lt j n hj)
  · intro j n hj hn
    rcases hcases j n hj with ⟨-, rfl⟩ | ⟨-, hj⟩
    · exact absurd (h.closed_lt n hn) (lt_irrefl n)
    · exact h.isOpen j n hj hn
  · intro j k n hj hk
    rcases hcases j n hj with ⟨hji, hn⟩ | ⟨-, hj⟩ <;> rcases hcases k n hk with ⟨hki, hn'⟩ | ⟨-, hk⟩
    · exact hji.trans hki.symm
    · exact absurd hn (h.held_lt k n hk).ne
    · exact absurd hn' (h.held_lt j n hj).ne
    · exact h.inj j k n hj hk

/-- **A handle is leaked just when its slot is taken over.** -/
theorem noLeak_acquire (h : Accounts created closed held) (i : ι) :
    NoLeak (created + 1) closed (Function.update held i (some created)) ↔
      NoLeak created closed held ∧ held i = none := by
  constructor
  · intro hleak
    have hold : ∀ n < created, n ∉ closed → ∃ j, j ≠ i ∧ held j = some n := by
      intro n hn hopen
      obtain ⟨j, hj⟩ := hleak n (Nat.lt_succ_of_lt hn) hopen
      by_cases hji : j = i
      · subst hji
        rw [Function.update_self] at hj
        exact absurd (Option.some.inj hj) hn.ne'
      · rw [Function.update_of_ne hji] at hj
        exact ⟨j, hji, hj⟩
    refine ⟨fun n hn hopen => (hold n hn hopen).imp fun j hj => hj.2, ?_⟩
    cases hi : held i with
    | none => rfl
    | some n =>
      obtain ⟨j, hji, hj⟩ := hold n (h.held_lt i n hi) (h.isOpen i n hi)
      exact absurd (h.inj j i n hj hi) hji
  · rintro ⟨hleak, hfree⟩ n hn hopen
    rcases Nat.lt_succ_iff_lt_or_eq.mp hn with hn | rfl
    · obtain ⟨j, hj⟩ := hleak n hn hopen
      have hji : j ≠ i := by
        rintro rfl
        cases hfree.symm.trans hj
      exact ⟨j, by rw [Function.update_of_ne hji, hj]⟩
    · exact ⟨i, Function.update_self _ _ _⟩

end Acquire

theorem Accounts.comp_equiv (h : Accounts created closed held) (e : κ ≃ ι) :
    Accounts created closed (held ∘ e) :=
  ⟨h.closed_lt, fun i => h.held_lt (e i), fun i => h.isOpen (e i),
    fun i j n hi hj => e.injective (h.inj (e i) (e j) n hi hj)⟩

theorem noLeak_comp_equiv (e : κ ≃ ι) :
    NoLeak created closed (held ∘ e) ↔ NoLeak created closed held := by
  refine forall₃_congr fun n _ _ => ?_
  exact (e.surjective.exists (p := fun i => held i = some n)).symm

end Fpvd
