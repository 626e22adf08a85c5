import Mathlib.Data.List.Basic
import Mathlib.Data.List.DropRight
import Mathlib.Data.List.Induction

/-!
# Fpvd.Lib.Run — runs of a deterministic machine and properties of their traces

A machine is a step function `step : σ → ι → σ`; a run is `List.foldl step s is`.
-/

namespace Fpvd.Run

section Machine

variable {σ ι : Type} (step : σ → ι → σ)

/-- Every step of the run meets `C` in the state it starts from. -/
def Meets (C : σ → ι → Prop) : σ → List ι → Prop
  | _, [] => True
  | s, i :: is => C s i ∧ Meets C (step s i) is

variable {step} {C : σ → ι → Prop} {I : σ → Prop}

@[simp] theorem meets_nil (s : σ) : Meets step C s [] := trivial

@[simp] theorem meets_cons (s : σ) (i : ι) (is : List ι) :
    Meets step C s (i :: is) ↔ C s i ∧ Meets step C (step s i) is := Iff.rfl

theorem meets_append (s : σ) (is js : List ι) :
    Meets step C s (is ++ js) ↔ Meets step C s is ∧ Meets step C (is.foldl step s) js := by
  induction is generalizing s with
  | nil => simp
  | cons i is ih => simp [ih, and_assoc]

instance Meets.decidable [∀ s i, Decidable (C s i)] :
    ∀ (is : List ι) (s : σ), Decidable (Meets step C s is)
  | [], _ => .isTrue trivial
  | i :: is, s => @instDecidableAnd _ _ inferInstance (Meets.decidable is (step s i))

/-- **Invariant rule**: what every conforming step preserves holds at the end of a conforming
run. -/
theorem Meets.invariant (hstep : ∀ s i, I s → C s i → I (step s i)) :
    ∀ (is : List ι) (s : σ), I s → Meets step C s is → I (is.foldl step s)
  | [], _, hs, _ => hs
  | i :: is, s, hs, hm => Meets.invariant hstep is (step s i) (hstep s i hs hm.1) hm.2

theorem Meets.and {D : σ → ι → Prop} : ∀ (is : List ι) (s : σ), Meets step C s is → Meets step D s is →
    Meets step (fun s i => C s i ∧ D s i) s is
  | [], _, _, _ => trivial
  | i :: is, s, hC, hD => ⟨⟨hC.1, hD.1⟩, Meets.and is (step s i) hC.2 hD.2⟩

theorem Meets.and_mem {Q : ι → Prop} : ∀ (is : List ι) (s : σ), Meets step C s is → (∀ i ∈ is, Q i) →
    Meets step (fun s i => C s i ∧ Q i) s is
  | [], _, _, _ => trivial
  | i :: is, s, hm, hQ => ⟨⟨hm.1, hQ i List.mem_cons_self⟩,
      Meets.and_mem is (step s i) hm.2 fun j hj => hQ j (List.mem_cons_of_mem i hj)⟩

theorem Meets.forall_mem {Q : ι → Prop} :
    ∀ (is : List ι) (s : σ), Meets step (fun _ i => Q i) s is → ∀ i ∈ is, Q i
  | [], _, _, i, hi => by simp at hi
  | j :: is, s, hm, i, hi => by
    rcases List.mem_cons.mp hi with rfl | hi
    · exact hm.1
    · exact Meets.forall_mem is (step s j) hm.2 i hi

theorem meets_iff_before (is : List ι) : ∀ s : σ,
    Meets step C s is ↔ ∀ before i, before ++ [i] <+: is → C (before.foldl step s) i := by
  induction is with
  | nil => simp
  | cons j is ih =>
    intro s
    rw [meets_cons, ih]
    constructor
    · rintro ⟨hj, hrest⟩ before i hpre
      cases before with
      | nil =>
        obtain rfl : i = j := (List.cons_prefix_cons.mp hpre).1
        exact hj
      | cons k before =>
        obtain ⟨rfl, hpre'⟩ := List.cons_prefix_cons.mp hpre
        exact hrest before i hpre'
    · intro h
      exact ⟨h [] j (by simp), fun before i hpre =>
        h (j :: before) i (List.cons_prefix_cons.mpr ⟨rfl, hpre⟩)⟩

/-- **Exact condition**: where, under an invariant `I` of every run, a step from a state with `K` keeps
`K` iff it meets `C`, the runs with `K` in every state are those that meet `C`. -/
theorem meets_iff_throughout {K : σ → Prop} {s : σ} (hI : I s) (hstep : ∀ s i, I s → I (step s i))
    (hK : K s) (hkeep : ∀ s i, I s → K s → (K (step s i) ↔ C s i)) (is : List ι) :
    Meets step C s is ↔ ∀ before, before <+: is → K (before.foldl step s) := by
  have hinv : ∀ before : List ι, I (before.foldl step s) := fun before =>
    List.foldlRecOn before step hI fun s hs i _ => hstep s i hs
  rw [meets_iff_before]
  constructor
  · intro hmeets before hpre
    induction before using List.reverseRecOn with
    | nil => exact hK
    | append_singleton before i ih =>
      rw [List.foldl_append]
      have hbefore := ih ((List.prefix_append before [i]).trans hpre)
      exact (hkeep _ i (hinv before) hbefore).mpr (hmeets before i hpre)
  · intro hall before i hpre
    have hafter := hall _ hpre
    rw [List.foldl_append] at hafter
    exact (hkeep _ i (hinv before) (hall before ((List.prefix_append before [i]).trans hpre))).mp hafter

/-! ### What a state remembers -/

variable (step) in
/-- Some step of the run met `Q`, and every later one `R`. -/
def Since (Q R : σ → ι → Prop) (s : σ) (is : List ι) : Prop :=
  ∃ before i after, is = before ++ i :: after ∧ Q (before.foldl step s) i ∧
    Meets step R (step (before.foldl step s) i) after

/-- **A state that remembers an event**: `P` did not hold at first, so it was set up by a step that
met `Q`, and every step since has kept it under `R`. -/
theorem Since.of_remembers {P : σ → Prop} {Q R : σ → ι → Prop} {s : σ} (hs : ¬ P s)
    (hstep : ∀ s i, P (step s i) → Q s i ∨ P s ∧ R s i) (is : List ι)
    (h : P (is.foldl step s)) : Since step Q R s is := by
  induction is using List.reverseRecOn with
  | nil => exact absurd h hs
  | append_singleton is i ih =>
    rw [List.foldl_append] at h
    rcases hstep _ i h with hQ | ⟨hP, hR⟩
    · exact ⟨is, i, [], rfl, hQ, trivial⟩
    · obtain ⟨before, j, after, rfl, hQ, hm⟩ := ih hP
      refine ⟨before, j, after ++ [i], by simp, hQ, ?_⟩
      rw [List.foldl_append, List.foldl_cons] at hR
      exact (meets_append _ after [i]).mpr ⟨hm, hR, trivial⟩

theorem foldl_eq_of_set {v : σ} (is : List ι) : ∀ s : σ,
    (∀ i ∈ is, (∀ s, step s i = s) ∨ ∀ s, step s i = v) → (∃ i ∈ is, ∀ s, step s i = v) →
      is.foldl step s = v := by
  induction is using List.reverseRecOn with
  | nil => simp
  | append_singleton is i ih =>
    rintro s hall ⟨k, hk, hset⟩
    rw [List.foldl_append, List.foldl_cons, List.foldl_nil]
    rcases List.mem_append.mp hk with hin | hlast
    · have hbefore : is.foldl step s = v :=
        ih s (fun i hi => hall i (List.mem_append_left _ hi)) ⟨k, hin, hset⟩
      rw [hbefore]
      exact (hall i (by simp)).elim (fun hkeep => hkeep v) fun hset => hset v
    · rw [← List.mem_singleton.mp hlast]
      exact hset _

end Machine

section Shown

variable {σ ι β : Type} (step : σ → ι → σ) (f : σ → ι → List β)

/-- What the steps of a run show, in order. -/
def shown : σ → List ι → List β
  | _, [] => []
  | s, i :: is => f s i ++ shown (step s i) is

@[simp] theorem shown_nil (s : σ) : shown step f s [] = [] := rfl

theorem shown_append (s : σ) (is js : List ι) :
    shown step f s (is ++ js) = shown step f s is ++ shown step f (is.foldl step s) js := by
  induction is generalizing s with
  | nil => rfl
  | cons i is ih => simp [shown, ih]

theorem shown_concat (s : σ) (is : List ι) (i : ι) :
    shown step f s (is ++ [i]) = shown step f s is ++ f (is.foldl step s) i := by
  rw [shown_append]
  simp [shown]

variable {step f} {C : σ → ι → Prop} {I : σ → Prop}

/-- **Invariant rule** for what a run shows: conforming steps keep `I`, and show only what meets `P`. -/
theorem Meets.shown_forall {P : β → Prop} (hstep : ∀ s i, I s → C s i → I (step s i))
    (hshow : ∀ s i, I s → C s i → ∀ x ∈ f s i, P x) :
    ∀ (is : List ι) (s : σ), I s → Meets step C s is → ∀ x ∈ shown step f s is, P x
  | [], _, _, _, _, hx => absurd hx List.not_mem_nil
  | i :: is, s, hs, hm, x, hx => (List.mem_append.mp hx).elim (hshow s i hs hm.1 x)
      (Meets.shown_forall hstep hshow is (step s i) (hstep s i hs hm.1) hm.2 x)

/-- The last `n` entries are there and all meet `P`. -/
def Recent (n : ℕ) (P : β → Prop) (l : List β) : Prop := n ≤ l.length ∧ ∀ x ∈ l.rtake n, P x

instance (n : ℕ) (P : β → Prop) [DecidablePred P] (l : List β) : Decidable (Recent n P l) :=
  inferInstanceAs (Decidable (_ ∧ _))

variable {n : ℕ} {P : β → Prop} {l m : List β}

theorem recent_of_forall (hn : n ≤ l.length) (h : ∀ x ∈ l, P x) : Recent n P l :=
  ⟨hn, fun x hx => h x (List.mem_of_mem_drop hx)⟩

theorem recent_append_iff (l : List β) (hn : n ≤ m.length) : Recent n P (l ++ m) ↔ Recent n P m := by
  have hlen : (l ++ m).length - n = l.length + (m.length - n) := by
    rw [List.length_append, Nat.add_sub_assoc hn]
  have htake : (l ++ m).rtake n = m.rtake n := by
    rw [List.rtake, hlen, ← List.drop_drop, List.drop_left, List.rtake]
  unfold Recent
  rw [htake, List.length_append]
  exact and_congr_left fun _ => ⟨fun _ => hn, fun h => h.trans (Nat.le_add_left _ _)⟩

theorem recent_map {γ : Type} (f : γ → β) (l : List γ) :
    Recent n P (l.map f) ↔ Recent n (fun x => P (f x)) l := by
  simp [Recent, List.rtake, ← List.map_drop]

theorem recent_of_rtake (hn : (l.rtake n).length = n) (h : ∀ x ∈ l.rtake n, P x) : Recent n P l := by
  refine ⟨?_, h⟩
  rw [List.rtake, List.length_drop] at hn
  omega

/-! ### The last entries of a list that grows -/

theorem length_rtake_le (n : ℕ) (l : List β) : (l.rtake n).length ≤ n := by
  rw [List.rtake, List.length_drop]
  omega

theorem rtake_append_rtake (n : ℕ) (l m : List β) :
    (l.rtake n ++ m).rtake n = (l ++ m).rtake n := by
  simp only [List.rtake, List.length_append, List.length_drop, List.drop_append, List.drop_drop]
  congr 2 <;> omega

theorem mem_rtake {n : ℕ} (l : List β) (x : β) {m : List β} (hm : m.length < n) :
    x ∈ (l ++ x :: m).rtake n := by
  rw [List.rtake, List.length_append, List.length_cons, List.drop_append]
  refine List.mem_append_right _ ?_
  rw [show l.length + (m.length + 1) - n - l.length = 0 by omega, List.drop_zero]
  exact List.mem_cons_self

end Shown

section Trace

variable {ε : Type} {P Q : List ε → Prop}

/-- `P` holds at every point of the trace. -/
def Throughout (P : List ε → Prop) (t : List ε) : Prop := ∀ p, p <+: t → P p

theorem throughout_nil : Throughout P [] ↔ P [] :=
  ⟨fun h => h [] List.prefix_rfl, fun h p hp => by rwa [List.prefix_nil.mp hp]⟩

theorem throughout_concat (t : List ε) (e : ε) :
    Throughout P (t ++ [e]) ↔ Throughout P t ∧ P (t ++ [e]) := by
  constructor
  · intro h
    exact ⟨fun p hp => h p (hp.trans (List.prefix_append t [e])), h _ List.prefix_rfl⟩
  · rintro ⟨h1, h2⟩ p hp
    rcases List.prefix_concat_iff.mp hp with rfl | hp
    · exact h2
    · exact h1 p hp

theorem Throughout.last {t : List ε} (h : Throughout P t) : P t := h t List.prefix_rfl

section Observation

variable {β : Type} (f : ε → Option β)

/-- The last value that `f` shows along the trace. -/
def lastObs (t : List ε) : Option β := t.foldl (fun acc e => (f e).or acc) none

@[simp] theorem lastObs_nil : lastObs f [] = none := rfl

@[simp] theorem lastObs_concat (t : List ε) (e : ε) :
    lastObs f (t ++ [e]) = (f e).or (lastObs f t) := by
  simp [lastObs, List.foldl_append]

@[simp] theorem lastObs_singleton (e : ε) : lastObs f [e] = f e := by
  simpa using lastObs_concat f [] e

theorem lastObs_append (t u : List ε) : lastObs f (t ++ u) = (lastObs f u).or (lastObs f t) := by
  induction u using List.reverseRecOn with
  | nil => simp
  | append_singleton u e ih =>
    rw [← List.append_assoc, lastObs_concat, lastObs_concat, ih, Option.or_assoc]

theorem lastObs_map {α : Type} (g : α → ε) (t : List α) :
    lastObs f (t.map g) = lastObs (f ∘ g) t := by
  simp [lastObs, List.foldl_map]

theorem lastObs_append_of_none {t u : List ε} (h : ∀ e ∈ u, f e = none) :
    lastObs f (t ++ u) = lastObs f t := by
  induction u using List.reverseRecOn with
  | nil => simp
  | append_singleton u e ih =>
    rw [← List.append_assoc, lastObs_concat, h e (by simp), Option.none_or]
    exact ih fun e' he' => h e' (List.mem_append_left _ he')

theorem lastObs_eq_some {t : List ε} {v : β} (h : ∀ e ∈ t, f e = none ∨ f e = some v)
    (hex : ∃ e ∈ t, f e = some v) : lastObs f t = some v := by
  induction t using List.reverseRecOn with
  | nil => simp at hex
  | append_singleton t e ih =>
    rw [lastObs_concat]
    rcases h e (by simp) with he | he
    · rw [he, Option.none_or]
      refine ih (fun e' he' => h e' (List.mem_append_left _ he')) ?_
      obtain ⟨e', he', hv⟩ := hex
      rcases List.mem_append.mp he' with he' | he'
      · exact ⟨e', he', hv⟩
      · rw [List.mem_singleton.mp he', he] at hv
        cases hv
    · rw [he, Option.some_or]

end Observation

section Growth

variable {Q Q' : ε → Prop} {t t' t'' : List ε}

/-- The trace is extended by events that all meet `Q`. -/
def Grows (Q : ε → Prop) (t t' : List ε) : Prop := ∃ u, t' = t ++ u ∧ ∀ e ∈ u, Q e

theorem Grows.refl (t : List ε) : Grows Q t t := ⟨[], by simp⟩

theorem Grows.of_eq (h : t' = t) : Grows Q t t' := ⟨[], by simp [h]⟩

theorem Grows.concat {e : ε} (he : Q e) : Grows Q t (t ++ [e]) := ⟨[e], rfl, by simpa using he⟩

theorem Grows.trans (h : Grows Q t t') (h' : Grows Q t' t'') : Grows Q t t'' := by
  obtain ⟨u, rfl, hu⟩ := h
  obtain ⟨v, rfl, hv⟩ := h'
  refine ⟨u ++ v, List.append_assoc _ _ _, fun e he => ?_⟩
  rcases List.mem_append.mp he with he | he
  · exact hu e he
  · exact hv e he

theorem Grows.mono (h : Grows Q t t') (hQ : ∀ e, Q e → Q' e) : Grows Q' t t' := by
  obtain ⟨u, rfl, hu⟩ := h
  exact ⟨u, rfl, fun e he => hQ e (hu e he)⟩

theorem Grows.tail {Q₁ Q₂ : ε → Prop} (h : Grows Q t t'') (h₁ : Grows Q₁ t t')
    (h₂ : Grows Q₂ t' t'') : Grows Q t' t'' := by
  obtain ⟨u, rfl, -⟩ := h₁
  obtain ⟨v, rfl, -⟩ := h₂
  obtain ⟨w, hw, hQ⟩ := h
  rw [List.append_assoc, List.append_cancel_left_eq] at hw
  exact ⟨v, rfl, fun e he => hQ e (hw ▸ List.mem_append_right u he)⟩

theorem Grows.head {e : ε} (h : Grows Q t t') (h' : Grows Q' (t ++ [e]) t') : Q e := by
  obtain ⟨u, rfl, -⟩ := h'
  obtain ⟨w, hw, hQ⟩ := h
  rw [List.append_assoc, List.append_cancel_left_eq] at hw
  exact hQ e (hw ▸ by simp)

theorem Grows.lastObs_eq {β : Type} {f : ε → Option β} (h : Grows Q t t')
    (hf : ∀ e, Q e → f e = none) : lastObs f t' = lastObs f t := by
  obtain ⟨u, rfl, hu⟩ := h
  exact lastObs_append_of_none f fun e he => hf e (hu e he)

theorem Grows.lastObs_cases {β : Type} {f : ε → Option β} {R : β → Prop} (h : Grows Q t t')
    (hf : ∀ e v, Q e → f e = some v → R v) :
    lastObs f t' = lastObs f t ∨ ∃ v, R v ∧ lastObs f t' = some v := by
  obtain ⟨u, rfl, hu⟩ := h
  induction u using List.reverseRecOn with
  | nil => exact .inl (by rw [List.append_nil])
  | append_singleton u e ih =>
    rw [← List.append_assoc, lastObs_concat]
    cases hfe : f e with
    | none => exact ih fun e' he' => hu e' (List.mem_append_left _ he')
    | some v => exact .inr ⟨v, hf e v (hu e (by simp)) hfe, rfl⟩

theorem Throughout.grows (ht : Throughout P t) (h : Grows Q t t')
    (hP : ∀ p, Grows Q t p → P p) : Throughout P t' := by
  obtain ⟨u, rfl, hu⟩ := h
  intro p hp
  rcases List.prefix_or_prefix_of_prefix hp (List.prefix_append t u) with hpt | ⟨v, rfl⟩
  · exact ht p hpt
  · have hv : v <+: u := (List.prefix_append_right_inj t).mp hp
    exact hP _ ⟨v, rfl, fun e he => hu e (hv.subset he)⟩

end Growth

end Trace

end Fpvd.Run
