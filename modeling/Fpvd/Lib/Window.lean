import Mathlib.Algebra.Order.Group.Defs
import Mathlib.Data.List.Basic
import Fpvd.Lib.Run

/-!
# Fpvd.Lib.Window — a budget over a sliding window of time

Before each entry a log is pruned to the entries of the last `W`.  What is left counts the same as the whole
history, and a budget on it bounds the entries in every interval of length `W`.
-/

namespace Fpvd.Window

variable {α : Type} [AddCommGroup α] [LinearOrder α] [IsOrderedAddMonoid α]
variable {W now t : α} {n : ℕ} {log full : List α}

/-- The entries less than `W` before `now`. -/
def fresh (W now : α) (log : List α) : List α := log.filter (now - · < W)

/-- From `t` on, the pruned log and the full one have the same fresh entries. -/
def Tracks (W t : α) (log full : List α) : Prop :=
  ∀ now, t ≤ now → fresh W now log = fresh W now full

theorem fresh_fresh {now' : α} (h : now ≤ now') : fresh W now' (fresh W now log) = fresh W now' log := by
  rw [fresh, fresh, List.filter_filter]
  refine List.filter_congr fun x _ => ?_
  rw [Bool.and_eq_left_iff_imp, decide_eq_true_eq, decide_eq_true_eq]
  exact (sub_le_sub_right h x).trans_lt

theorem Tracks.concat (h : Tracks W t log full) (ht : t ≤ now) :
    Tracks W now (fresh W now log ++ [now]) (full ++ [now]) := by
  intro now' hnow
  calc fresh W now' (fresh W now log ++ [now])
      = fresh W now' (fresh W now log) ++ fresh W now' [now] := List.filter_append ..
    _ = fresh W now' full ++ fresh W now' [now] := by rw [fresh_fresh hnow, h now' (ht.trans hnow)]
    _ = fresh W now' (full ++ [now]) := (List.filter_append ..).symm

/-- Every half-open interval of length `W` has at most `n` entries. -/
def Sparse (n : ℕ) (W : α) (full : List α) : Prop :=
  ∀ t, (full.filter fun x => t ≤ x ∧ x < t + W).length ≤ n

/-- **The budget**: an entry is made only if fewer than `n` are fresh. -/
theorem Sparse.concat (h : Sparse n W full) (hn : (fresh W now full).length < n) :
    Sparse n W (full ++ [now]) := by
  intro t
  rw [List.filter_append, List.length_append]
  by_cases hin : t ≤ now ∧ now < t + W
  · have hsub : (full.filter fun x => t ≤ x ∧ x < t + W).length ≤ (fresh W now full).length := by
      refine (List.monotone_filter_right full fun x hx => ?_).length_le
      rw [decide_eq_true_eq] at hx ⊢
      exact sub_lt_iff_lt_add'.mpr (hin.2.trans_le (add_le_add_left hx.1 W))
    simp only [List.filter_cons, hin, List.filter_nil]
    exact (Nat.add_le_add_right hsub 1).trans hn
  · simp only [List.filter_cons, hin, List.filter_nil]
    exact h t

/-! ## Along a run -/

section Run

variable {σ ι : Type} {step : σ → ι → σ} {entries : σ → ι → List α} {time : ι → Option α}
variable {log : σ → List α} {spent I : σ → Prop}

/-- What a step may do: it makes no entry and keeps the log, or the log is spent; or it makes an entry at
its time, within the budget. -/
def Spends (n : ℕ) (W : α) (step : σ → ι → σ) (entries : σ → ι → List α) (time : ι → Option α)
    (log : σ → List α) (spent : σ → Prop) (s : σ) (i : ι) : Prop :=
  entries s i = [] ∧ (spent (step s i) ∨ ¬ spent s ∧ log (step s i) = log s) ∨
  ∃ now, time i = some now ∧ ¬ spent s ∧ (fresh W now (log s)).length < n ∧ entries s i = [now] ∧
    log (step s i) = fresh W now (log s) ++ [now]

/-- **Budget rule**: if every step keeps to the budget and the clock never goes back, the entries of a run
are sparse, and until the log is spent it stands for all of them. -/
theorem sparse_run {is : List ι} (hstep : ∀ s, I s → ∀ i ∈ is, I (step s i))
    (hspends : ∀ s, I s → ∀ i ∈ is, Spends n W step entries time log spent s i) {s : σ} (hs : I s)
    (hlog : log s = []) (hclock : (is.filterMap time).Pairwise (· ≤ ·)) :
    Sparse n W (Run.shown step entries s is) ∧ (¬ spent (is.foldl step s) →
      ∀ t, (∀ x ∈ is.filterMap time, x ≤ t) →
        Tracks W t (log (is.foldl step s)) (Run.shown step entries s is)) := by
  induction is using List.reverseRecOn with
  | nil =>
    refine ⟨fun t => Nat.zero_le _, fun _ t _ => ?_⟩
    rw [List.foldl_nil, hlog]
    exact fun _ _ => rfl
  | append_singleton is i ih =>
    rw [List.filterMap_append, List.pairwise_append] at hclock
    obtain ⟨hbefore, -, hlast⟩ := hclock
    have hpre : ∀ j ∈ is, j ∈ is ++ [i] := fun j => List.mem_append_left [i]
    obtain ⟨hsparse, htracks⟩ := ih (fun s hs j hj => hstep s hs j (hpre j hj))
      (fun s hs j hj => hspends s hs j (hpre j hj)) hbefore
    simp only [Run.shown_concat, List.foldl_concat, List.filterMap_append, List.forall_mem_append]
    have hI : I (is.foldl step s) :=
      List.foldlRecOn is step hs fun s hs j hj => hstep s hs j (hpre j hj)
    rcases hspends _ hI i (by simp) with ⟨hnone, hkept⟩ | ⟨now, htime, hspent, hlen, hentry, hnext⟩
    · rw [hnone, List.append_nil]
      refine ⟨hsparse, fun hspent t ht => ?_⟩
      obtain ⟨hbefore, hsame⟩ := hkept.resolve_left hspent
      exact hsame ▸ htracks hbefore t ht.1
    · have hmem : now ∈ [i].filterMap time := by simp [htime]
      have hnow := htracks hspent now fun x hx => hlast x hx now hmem
      rw [hentry, hnext]
      refine ⟨hsparse.concat (hnow now le_rfl ▸ hlen), fun _ t ht now' hle => ?_⟩
      exact hnow.concat le_rfl now' ((ht.2 now hmem).trans hle)

end Run

end Fpvd.Window
