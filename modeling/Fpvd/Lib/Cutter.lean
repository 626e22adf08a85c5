import Mathlib.Data.List.Basic
import Mathlib.Tactic

/-!
# Fpvd.Lib.Cutter — cutting a stream into pieces, at once or as it arrives

A cutter looks at the front of a buffer and says how long the first piece is, or that it needs more.
What it has said stays true when more arrives.
-/

namespace Fpvd

/-- The length of the first piece of a buffer. -/
structure Cutter (β : Type) where
  next : List β → Option ℕ
  pos : ∀ {buf n}, next buf = some n → 0 < n
  le : ∀ {buf n}, next buf = some n → n ≤ buf.length
  stable : ∀ {buf n} (more : List β), next buf = some n → next (buf ++ more) = some n

namespace Cutter

variable {β : Type} (c : Cutter β)

def cut (buf : List β) : List (List β) × List β :=
  match _h : c.next buf with
  | none => ([], buf)
  | some n => (buf.take n :: (cut (buf.drop n)).1, (cut (buf.drop n)).2)
termination_by buf.length
decreasing_by
  all_goals
    have hpos := c.pos _h
    have hle := c.le _h
    rw [List.length_drop]
    omega

def Whole (p : List β) : Prop := c.next p = some p.length

variable {c} {buf : List β}

theorem cut_none (h : c.next buf = none) : c.cut buf = ([], buf) := by
  rw [cut]
  split
  · rfl
  · next n hn => cases h.symm.trans hn

theorem cut_some {n : ℕ} (h : c.next buf = some n) :
    c.cut buf = (buf.take n :: (c.cut (buf.drop n)).1, (c.cut (buf.drop n)).2) := by
  rw [cut]
  split
  · next hn => cases h.symm.trans hn
  · next m hm =>
    obtain rfl := Option.some.inj (h.symm.trans hm)
    rfl

variable (c) in
theorem cut_induction {P : List β → Prop} (stop : ∀ buf, c.next buf = none → P buf)
    (piece : ∀ buf n, c.next buf = some n → P (buf.drop n) → P buf) (buf : List β) : P buf := by
  induction hlen : buf.length using Nat.strong_induction_on generalizing buf with
  | _ len ih =>
    cases h : c.next buf with
    | none => exact stop buf h
    | some n =>
      have hpos := c.pos h
      have hle := c.le h
      refine piece buf n h (ih _ ?_ _ rfl)
      rw [List.length_drop]
      omega

theorem cut_flatten (buf : List β) : (c.cut buf).1.flatten ++ (c.cut buf).2 = buf := by
  induction buf using c.cut_induction with
  | stop buf h => rw [cut_none h, List.flatten_nil, List.nil_append]
  | piece buf n h ih =>
    rw [cut_some h, List.flatten_cons, List.append_assoc, ih, List.take_append_drop]

theorem next_rest (buf : List β) : c.next (c.cut buf).2 = none := by
  induction buf using c.cut_induction with
  | stop buf h => rwa [cut_none h]
  | piece buf n h ih => rwa [cut_some h]

theorem exists_of_mem_cut {p : List β} (buf : List β) (hp : p ∈ (c.cut buf).1) :
    ∃ front n, c.next front = some n ∧ p = front.take n := by
  induction buf using c.cut_induction with
  | stop buf h =>
    rw [cut_none h] at hp
    cases hp
  | piece buf n h ih =>
    rw [cut_some h] at hp
    rcases List.mem_cons.mp hp with rfl | hp
    · exact ⟨buf, n, h, rfl⟩
    · exact ih hp

/-- **Two parts**: the rest of the first is cut together with the second. -/
theorem cut_append (buf more : List β) : c.cut (buf ++ more) =
    ((c.cut buf).1 ++ (c.cut ((c.cut buf).2 ++ more)).1, (c.cut ((c.cut buf).2 ++ more)).2) := by
  induction buf using c.cut_induction with
  | stop buf h =>
    rw [cut_none h]
    rfl
  | piece buf n h ih =>
    have hle := c.le h
    rw [cut_some (c.stable more h), cut_some h, List.take_append_of_le_length hle,
      List.drop_append_of_le_length hle, ih]
    rfl

/-! ## Whole pieces -/

theorem cut_whole {p : List β} (h : c.Whole p) (more : List β) :
    c.cut (p ++ more) = (p :: (c.cut more).1, (c.cut more).2) := by
  rw [cut_some (c.stable more h), List.take_left, List.drop_left]

theorem pieces_of_whole {ps : List (List β)} (h : ∀ p ∈ ps, c.Whole p) (more : List β) :
    c.cut (ps.flatten ++ more) = (ps ++ (c.cut more).1, (c.cut more).2) := by
  induction ps with
  | nil => rfl
  | cons p ps ih =>
    rw [List.flatten_cons, List.append_assoc, cut_whole (h p List.mem_cons_self),
      ih fun q hq => h q (List.mem_cons_of_mem p hq)]
    rfl

end Cutter

end Fpvd
