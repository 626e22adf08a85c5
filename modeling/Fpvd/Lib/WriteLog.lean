import Mathlib.Data.List.Basic
import Mathlib.Data.List.Induction

/-!
# Fpvd.Lib.WriteLog — registers behind writes that may fail

A log of writes to named registers, each with its outcome.  A failed write changes nothing.
-/

namespace Fpvd.WriteLog

structure Write (κ α : Type) where
  key : κ
  value : α
  ok : Bool
  deriving DecidableEq, Repr

variable {κ α : Type} [DecidableEq κ]

def content (k : κ) (log : List (Write κ α)) : Option α :=
  log.foldl (fun v w => if w.ok ∧ w.key = k then some w.value else v) none

@[simp] theorem content_nil (k : κ) : content k ([] : List (Write κ α)) = none := rfl

@[simp] theorem content_concat (k : κ) (log : List (Write κ α)) (w : Write κ α) :
    content k (log ++ [w]) = if w.ok ∧ w.key = k then some w.value else content k log := by
  simp [content]

theorem content_isSome {k : κ} {log : List (Write κ α)} :
    (content k log).isSome ↔ ∃ w ∈ log, w.ok = true ∧ w.key = k := by
  induction log using List.reverseRecOn with
  | nil => simp
  | append_singleton log w ih =>
    rw [content_concat]
    by_cases hw : w.ok = true ∧ w.key = k
    · rw [if_pos hw]
      exact iff_of_true rfl ⟨w, by simp, hw⟩
    · rw [if_neg hw, ih]
      constructor
      · rintro ⟨w', hmem, h⟩
        exact ⟨w', List.mem_append_left _ hmem, h⟩
      · rintro ⟨w', hmem, h⟩
        rcases List.mem_append.mp hmem with hmem | hmem
        · exact ⟨w', hmem, h⟩
        · rw [List.mem_singleton.mp hmem] at h
          exact absurd h hw

theorem mem_of_content {k : κ} {log : List (Write κ α)} {v : α} (h : content k log = some v) :
    ∃ w ∈ log, w.ok = true ∧ w.key = k ∧ w.value = v := by
  induction log using List.reverseRecOn with
  | nil => simp at h
  | append_singleton log w ih =>
    rw [content_concat] at h
    by_cases hw : w.ok = true ∧ w.key = k
    · rw [if_pos hw] at h
      exact ⟨w, by simp, hw.1, hw.2, Option.some.inj h⟩
    · rw [if_neg hw] at h
      obtain ⟨w', hmem, h'⟩ := ih h
      exact ⟨w', List.mem_append_left _ hmem, h'⟩

end Fpvd.WriteLog
