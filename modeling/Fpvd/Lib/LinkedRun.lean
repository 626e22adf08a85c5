import Mathlib.Data.List.Chain

/-!
# Fpvd.Lib.LinkedRun — the run of linked entries that ends a log

An entry of a log is linked to the one before it by a relation `R`.  The latest run is the longest end of
the log whose entries are linked.

* `LatestRun.extend`: a linked entry joins the run.
* `LatestRun.restart`: any other one starts a run of its own.
-/

namespace Fpvd

variable {β : Type} {R : β → β → Prop}

/-- `run` is the longest linked end of `log`, which is not empty. -/
structure LatestRun (R : β → β → Prop) (log run : List β) : Prop where
  ne_nil : run ≠ []
  linked : run.IsChain R
  cut : ∃ earlier, log = earlier ++ run ∧ ∀ a ∈ earlier.getLast?, ∀ b ∈ run.head?, ¬ R a b

namespace LatestRun

variable {log run : List β} {x : β}

theorem extend (h : LatestRun R log run) (hx : ∀ a ∈ run.getLast?, R a x) :
    LatestRun R (log ++ [x]) (run ++ [x]) := by
  obtain ⟨earlier, hlog, hcut⟩ := h.cut
  refine ⟨by simp, ?_, earlier, by rw [hlog, List.append_assoc], fun a ha b hb => hcut a ha b ?_⟩
  · refine List.isChain_append.mpr ⟨h.linked, List.isChain_singleton x, fun a ha b hb => ?_⟩
    rw [List.head?_cons, Option.mem_some_iff] at hb
    exact hb ▸ hx a ha
  · rwa [List.head?_append_of_ne_nil _ h.ne_nil] at hb

theorem restart (hx : ∀ a ∈ log.getLast?, ¬ R a x) : LatestRun R (log ++ [x]) [x] := by
  refine ⟨by simp, List.isChain_singleton x, log, rfl, fun a ha b hb => ?_⟩
  rw [List.head?_cons, Option.mem_some_iff] at hb
  exact hb ▸ hx a ha

theorem getLast?_eq (h : LatestRun R log run) : log.getLast? = run.getLast? := by
  obtain ⟨earlier, hlog, -⟩ := h.cut
  rw [hlog, List.getLast?_append_of_ne_nil _ h.ne_nil]

end LatestRun

end Fpvd
