import Mathlib.Tactic
import Mathlib.Data.List.Count
import Mathlib.Data.List.Nodup

/-!
# Fpvd.Lib.Digraph — dependency graphs: three-colour search and Kahn's order

A graph is a map `deps : κ → Option (List κ)`: `none` for a name that is not present, the list of
dependencies (in any order, repeats and absent names allowed) for one that is.

* `Dep deps m n`: `m` is a present dependency of `n`.  `n` is on no cycle and below none iff it is
  accessible (`Acc (Dep deps) n`); `acc_iff_acyclic` says so for all names of a finite graph.
-/

namespace Fpvd.Digraph

variable {κ : Type} [DecidableEq κ]

def Dep (deps : κ → Option (List κ)) (m n : κ) : Prop :=
  (∃ ds, deps n = some ds ∧ m ∈ ds) ∧ (deps m).isSome

section Acyclic

omit [DecidableEq κ]

variable {deps : κ → Option (List κ)} {names : List κ}

theorem not_transGen_of_acc {n : κ} (h : Acc (Dep deps) n) :
    ¬ Relation.TransGen (Dep deps) n n := by
  replace h := h.transGen
  induction h with
  | intro n _ ih => exact fun hc => ih n hc hc

theorem acc_iff_acyclic (hnames : ∀ n, n ∈ names ↔ (deps n).isSome) :
    (∀ n ∈ names, Acc (Dep deps) n) ↔ ∀ n, ¬ Relation.TransGen (Dep deps) n n := by
  constructor
  · intro h n hc
    -- a name on a cycle is a dependency, so it is present
    obtain ⟨m, hm, -⟩ := Relation.TransGen.head'_iff.mp hc
    exact not_transGen_of_acc (h n ((hnames n).mpr hm.2)) hc
  · intro h n hn
    let r : {n // n ∈ names} → {n // n ∈ names} → Prop :=
      fun a b => Relation.TransGen (Dep deps) a b
    have : Finite {n // n ∈ names} := List.finite_toSet names
    have : IsTrans _ r := ⟨fun _ _ _ => Relation.TransGen.trans⟩
    have : Std.Irrefl r := ⟨fun a => h a⟩
    suffices hacc : ∀ x : {n // n ∈ names}, Acc (Dep deps) x from hacc ⟨n, hn⟩
    intro x
    induction x using (Finite.wellFounded_of_trans_of_irrefl r).induction with
    | _ x ih =>
      exact Acc.intro x.1 fun m hm => ih ⟨m, (hnames m).mpr hm.2⟩ (Relation.TransGen.single hm)

end Acyclic

/-! ## Depth-first search -/

section Search

inductive Color where
  | white
  | grey
  | black
  deriving DecidableEq, Repr

/-- The `for` loop over names with its early return: the first call that answers `true` ends it. -/
def visitAll (f : κ → (κ → Color) → Bool × (κ → Color)) :
    List κ → (κ → Color) → Bool × (κ → Color)
  | [], col => (false, col)
  | d :: ds, col =>
    let r := f d col
    if r.1 then (true, r.2) else visitAll f ds r.2

/-- The search from one name.  A search that runs out of fuel answers `true`; a fuel above the
number of names never runs out, since every nested call has coloured one more name grey. -/
def dfs (deps : κ → Option (List κ)) : ℕ → κ → (κ → Color) → Bool × (κ → Color)
  | 0, _, col => (true, col)
  | fuel + 1, n, col =>
    if col n = .grey then (true, col)
    else if col n = .black then (false, col)
    else match deps n with
      | none => (false, col)
      | some ds =>
        let r := visitAll (fun d c => if (deps d).isSome then dfs deps fuel d c else (false, c)) ds
          (Function.update col n .grey)
        if r.1 then (true, r.2) else (false, Function.update r.2 n .black)

def hasCycle (deps : κ → Option (List κ)) (names : List κ) : Bool :=
  (visitAll (fun n c => if c n = .white then dfs deps (names.length + 1) n c else (false, c)) names
    (fun _ => .white)).1

variable {deps : κ → Option (List κ)}

/-- Colours of the search: a black name is accessible. -/
def BlackAcc (deps : κ → Option (List κ)) (col : κ → Color) : Prop :=
  ∀ n, col n = .black → Acc (Dep deps) n

/-- What a call that answers `false` establishes about the names in `ns`: black names stay black,
no name is left grey, and the present names of `ns` end black. -/
structure Cleared (deps : κ → Option (List κ)) (ns : List κ) (col col' : κ → Color) : Prop where
  acc : BlackAcc deps col'
  mono : ∀ n, col n = .black → col' n = .black
  grey : ∀ n, col' n = .grey → col n = .grey
  black : ∀ n ∈ ns, (deps n).isSome → col' n = .black

variable {names : List κ} {n : κ} {col : κ → Color}

omit [DecidableEq κ] in
theorem Cleared.refl (h : BlackAcc deps col) : Cleared deps [] col col :=
  ⟨h, fun _ hk => hk, fun _ hk => hk, by simp⟩

omit [DecidableEq κ] in
theorem Cleared.cons {ns : List κ} {c1 c2 c3 : κ → Color} (h1 : Cleared deps [n] c1 c2)
    (h2 : Cleared deps ns c2 c3) : Cleared deps (n :: ns) c1 c3 := by
  refine ⟨h2.acc, fun k hk => h2.mono k (h1.mono k hk), fun k hk => h1.grey k (h2.grey k hk), ?_⟩
  intro k hk hp
  rcases List.mem_cons.mp hk with rfl | hk
  · exact h2.mono k (h1.black k (by simp) hp)
  · exact h2.black k hk hp

/-- The same names are grey: between two calls these are the names on the stack. -/
def SameGrey (col col' : κ → Color) : Prop := ∀ k, col' k = .grey ↔ col k = .grey

omit [DecidableEq κ] in
/-- A loop over a body that clears its name and keeps `J` whenever it answers `false`: the loop
clears every name, or its body answers `true` at one of them. -/
theorem visitAll_spec {f : κ → (κ → Color) → Bool × (κ → Color)} (J : (κ → Color) → Prop)
    (hf : ∀ n col, J col → BlackAcc deps col → (f n col).1 = false →
      Cleared deps [n] col (f n col).2 ∧ J (f n col).2) :
    ∀ (ns : List κ) (col : κ → Color), J col → BlackAcc deps col →
      ((visitAll f ns col).1 = false →
        Cleared deps ns col (visitAll f ns col).2 ∧ J (visitAll f ns col).2) ∧
      ((visitAll f ns col).1 = true →
        ∃ n ∈ ns, ∃ c, J c ∧ BlackAcc deps c ∧ (f n c).1 = true)
  | [], _, hJ, hacc => ⟨fun _ => ⟨Cleared.refl hacc, hJ⟩, by simp [visitAll]⟩
  | n :: ns, col, hJ, hacc => by
    unfold visitAll
    cases hr : (f n col).1 with
    | true => exact ⟨by simp [hr], fun _ => ⟨n, List.mem_cons_self, col, hJ, hacc, hr⟩⟩
    | false =>
      simp only [hr, Bool.false_eq_true, if_false]
      obtain ⟨hc, hJ'⟩ := hf n col hJ hacc hr
      obtain ⟨hno, hyes⟩ := visitAll_spec J hf ns _ hJ' hc.acc
      refine ⟨fun h => ⟨hc.cons (hno h).1, (hno h).2⟩, fun h => ?_⟩
      obtain ⟨m, hm, hc⟩ := hyes h
      exact ⟨m, List.mem_cons_of_mem n hm, hc⟩

omit [DecidableEq κ] in
theorem Cleared.guarded {f : (κ → Color) → Bool × (κ → Color)} (hf : ∀ c, BlackAcc deps c →
      (f c).1 = false → Cleared deps [n] c (f c).2 ∧ SameGrey c (f c).2)
    (c : κ → Color) (hc : SameGrey col c) (hacc : BlackAcc deps c)
    (h : (if (deps n).isSome then f c else (false, c)).1 = false) :
    Cleared deps [n] c (if (deps n).isSome then f c else (false, c)).2 ∧
      SameGrey col (if (deps n).isSome then f c else (false, c)).2 := by
  by_cases hp : (deps n).isSome = true
  · rw [if_pos hp] at h ⊢
    obtain ⟨hd, hg⟩ := hf c hacc h
    exact ⟨hd, fun k => (hg k).trans (hc k)⟩
  · rw [if_neg hp]
    exact ⟨⟨hacc, fun _ hk => hk, fun _ hk => hk, by simp [hp]⟩, hc⟩

omit [DecidableEq κ] in
theorem acc_of_deps_black {ds : List κ} (hn : deps n = some ds) (hacc : BlackAcc deps col)
    (hb : ∀ d ∈ ds, (deps d).isSome → col d = .black) :
    Acc (Dep deps) n := by
  refine Acc.intro n fun m hm => ?_
  obtain ⟨⟨ds', hds', hm'⟩, hp⟩ := hm
  rw [hn] at hds'
  cases hds'
  exact hacc m (hb m hm' hp)

theorem Cleared.enclose {ds : List κ} {col' : κ → Color} (hn : deps n = some ds)
    (h : Cleared deps ds (Function.update col n .grey) col') :
    Cleared deps [n] col (Function.update col' n .black) := by
  refine ⟨fun k hk => ?_, fun k hk => ?_, fun k hk => ?_, fun k hk _ => ?_⟩ <;> by_cases hkn : k = n
  · subst hkn
    exact acc_of_deps_black hn h.acc h.black
  · rw [Function.update_of_ne hkn] at hk
    exact h.acc k hk
  · subst hkn; simp
  · rw [Function.update_of_ne hkn]
    exact h.mono k (by rwa [Function.update_of_ne hkn])
  · subst hkn; simp at hk
  · rw [Function.update_of_ne hkn] at hk
    have := h.grey k hk
    rwa [Function.update_of_ne hkn] at this
  · subst hkn; simp
  · exact absurd (List.mem_singleton.mp hk) hkn

theorem BlackAcc.setGrey (h : BlackAcc deps col) (n : κ) :
    BlackAcc deps (Function.update col n .grey) := by
  intro k hk
  by_cases hkn : k = n
  · subst hkn; simp at hk
  · rw [Function.update_of_ne hkn] at hk; exact h k hk

theorem dfs_cleared : ∀ (fuel : ℕ) (n : κ) (col : κ → Color), BlackAcc deps col →
    (dfs deps fuel n col).1 = false →
    Cleared deps [n] col (dfs deps fuel n col).2 ∧ SameGrey col (dfs deps fuel n col).2
  | 0, n, col, _, h => by simp [dfs] at h
  | fuel + 1, n, col, hacc, h => by
    unfold dfs at h ⊢
    by_cases hg : col n = .grey
    · simp [hg] at h
    by_cases hb : col n = .black
    · simp only [hb, reduceCtorEq, if_false, if_true]
      exact ⟨⟨hacc, fun _ hk => hk, fun _ hk => hk, by simp [hb]⟩, fun _ => Iff.rfl⟩
    cases hd : deps n with
    | none =>
      simp only [hg, hb, if_false]
      exact ⟨⟨hacc, fun _ hk => hk, fun _ hk => hk, by simp [hd]⟩, fun _ => Iff.rfl⟩
    | some ds =>
      simp only [hg, hb, hd, if_false] at h ⊢
      cases hr : (visitAll (fun d c => if (deps d).isSome then dfs deps fuel d c else (false, c)) ds
        (Function.update col n .grey)).1 with
      | true => simp [hr] at h
      | false =>
        simp only [Bool.false_eq_true, if_false]
        obtain ⟨hc, hloop⟩ := (visitAll_spec _ (fun d => Cleared.guarded (dfs_cleared fuel d)) ds _
          (fun _ => Iff.rfl) (hacc.setGrey n)).1 hr
        refine ⟨hc.enclose hd, fun k => ?_⟩
        by_cases hk : k = n
        · subst hk
          simp [hg]
        · rw [Function.update_of_ne hk, hloop k, Function.update_of_ne hk]

theorem search_cleared (fuel : ℕ) (n : κ) (c : κ → Color) (hJ : ∀ k, c k ≠ .grey)
    (hacc : BlackAcc deps c) (h : (if c n = .white then dfs deps fuel n c else (false, c)).1 = false) :
    Cleared deps [n] c (if c n = .white then dfs deps fuel n c else (false, c)).2 ∧
      ∀ k, (if c n = .white then dfs deps fuel n c else (false, c)).2 k ≠ .grey := by
  by_cases hw : c n = .white
  · rw [if_pos hw] at h ⊢
    obtain ⟨hd, -⟩ := dfs_cleared fuel n c hacc h
    exact ⟨hd, fun k hk => hJ k (hd.grey k hk)⟩
  · rw [if_neg hw]
    refine ⟨⟨hacc, fun _ hk => hk, fun _ hk => hk, fun k hk _ => ?_⟩, hJ⟩
    rw [List.mem_singleton.mp hk]
    cases hcol : c n with
    | white => exact absurd hcol hw
    | grey => exact absurd hcol (hJ n)
    | black => exact hcol

/-- The names off the stack, which bound the depth of the search. -/
def offStack (names : List κ) (col : κ → Color) : List κ := names.filter (col · ≠ .grey)

omit [DecidableEq κ] in
theorem SameGrey.offStack {col col' : κ → Color} (h : SameGrey col col') (names : List κ) :
    offStack names col' = offStack names col := by
  unfold Digraph.offStack
  exact List.filter_congr fun k _ => by simp [h k]

theorem offStack_update_lt (hn : n ∈ names) (hg : col n ≠ .grey) :
    (offStack names (Function.update col n .grey)).length < (offStack names col).length := by
  unfold offStack
  have hsub : (names.filter (Function.update col n .grey · ≠ .grey)).Sublist
      (names.filter (col · ≠ .grey)) := by
    refine List.monotone_filter_right names fun k hk => ?_
    by_cases hkn : k = n
    · simp [hkn] at hk
    · simpa [Function.update_of_ne hkn] using hk
  refine lt_of_le_of_ne hsub.length_le fun hlen => ?_
  have hmem : n ∈ names.filter (col · ≠ .grey) := List.mem_filter.mpr ⟨hn, by simpa using hg⟩
  rw [← hsub.eq_of_length hlen] at hmem
  simp at hmem

/-- A search that answers `true`, from a name that every name on the stack depends on and with fuel
for the names off the stack, has met a cycle. -/
theorem dfs_cycle {names : List κ} (hnames : ∀ n, n ∈ names ↔ (deps n).isSome) :
    ∀ (fuel : ℕ) (n : κ) (col : κ → Color), BlackAcc deps col →
      (∀ g, col g = .grey → Relation.TransGen (Dep deps) n g) →
      (offStack names col).length < fuel → (dfs deps fuel n col).1 = true →
      ∃ c, Relation.TransGen (Dep deps) c c
  | 0, _, _, _, _, hfuel, _ => absurd hfuel (Nat.not_lt_zero _)
  | fuel + 1, n, col, hacc, hstack, hfuel, h => by
    unfold dfs at h
    by_cases hg : col n = .grey
    · exact ⟨n, hstack n hg⟩
    by_cases hb : col n = .black
    · simp [hb] at h
    cases hd : deps n with
    | none => simp [hg, hb, hd] at h
    | some ds =>
      simp only [hg, hb, hd, if_false] at h
      have hlt := offStack_update_lt ((hnames n).mpr (by simp [hd])) hg
      cases hr : (visitAll (fun d c => if (deps d).isSome then dfs deps fuel d c else (false, c)) ds
        (Function.update col n .grey)).1 with
      | false => simp [hr] at h
      | true =>
        obtain ⟨d, hds, c, hc, hcacc, htrue⟩ := (visitAll_spec _
          (fun d => Cleared.guarded (dfs_cleared fuel d)) ds _ (fun _ => Iff.rfl)
          (hacc.setGrey n)).2 hr
        by_cases hp : (deps d).isSome = true
        · rw [if_pos hp] at htrue
          have hdep : Dep deps d n := ⟨⟨ds, hd, hds⟩, hp⟩
          refine dfs_cycle hnames fuel d c hcacc (fun g hgrey => ?_) ?_ htrue
          · by_cases hgn : g = n
            · exact hgn ▸ .single hdep
            · have hcol := (hc g).mp hgrey
              rw [Function.update_of_ne hgn] at hcol
              exact .head hdep (hstack g hcol)
          · rw [hc.offStack]
            omega
        · simp [hp] at htrue

theorem hasCycle_iff (hnames : ∀ n, n ∈ names ↔ (deps n).isSome) :
    hasCycle deps names = true ↔ ∃ c, Relation.TransGen (Dep deps) c c := by
  have hwhite : BlackAcc deps (fun _ => .white) := fun n hn => by simp at hn
  obtain ⟨hno, hyes⟩ := visitAll_spec (fun c => ∀ k, c k ≠ .grey) (search_cleared (names.length + 1))
    names (fun _ => .white) (by simp) hwhite
  constructor
  · intro h
    obtain ⟨n, -, c, hc, hacc, htrue⟩ := hyes h
    by_cases hw : c n = .white
    · rw [if_pos hw] at htrue
      refine dfs_cycle hnames _ n c hacc (fun g hg => absurd hg (hc g)) ?_ htrue
      exact Nat.lt_succ_of_le (List.length_filter_le _ _)
    · simp [hw] at htrue
  · rintro ⟨c, hc⟩
    by_contra h
    -- a search that reports no cycle has blackened every name
    obtain ⟨hcl, -⟩ := hno (Bool.not_eq_true _ ▸ h)
    exact (acc_iff_acyclic hnames).mp
      (fun n hn => hcl.acc n (hcl.black n hn ((hnames n).mp hn))) c hc

end Search

/-! ## Kahn's algorithm -/

section Kahn

/-- The dependencies of a name, absent names left out. -/
def present (deps : κ → Option (List κ)) (n : κ) : List κ :=
  ((deps n).getD []).filter (fun d => (deps d).isSome)

/-- `revDeps[d]`: the dependents of `d`, one entry per edge. -/
def revDeps (deps : κ → Option (List κ)) (names : List κ) (d : κ) : List κ :=
  names.flatMap (fun n => List.replicate ((present deps n).count d) n)

/-- `if (--indeg[m] == 0) queue.push_back(m)` for every `m` of the list. -/
def relax : List κ → (κ → ℤ) × List κ → (κ → ℤ) × List κ
  | [], st => st
  | m :: ms, (indeg, queue) =>
    let indeg' := Function.update indeg m (indeg m - 1)
    relax ms (indeg', if indeg' m = 0 then queue ++ [m] else queue)

/-- The queue loop.  One name leaves the queue per round and none enters twice, so a fuel of the
number of names is enough. -/
def kahnLoop (deps : κ → Option (List κ)) (names : List κ) :
    ℕ → (κ → ℤ) → List κ → List κ → List κ
  | 0, _, _, out => out
  | _ + 1, _, [], out => out
  | fuel + 1, indeg, n :: queue, out =>
    let st := relax (revDeps deps names n) (indeg, queue)
    kahnLoop deps names fuel st.1 st.2 (out ++ [n])

/-- The emitted names, in order.  `names` is in key order, so the initial queue is sorted. -/
def kahn (deps : κ → Option (List κ)) (names : List κ) : List κ :=
  let indeg : κ → ℤ := fun n => ((present deps n).length : ℤ)
  kahnLoop deps names names.length indeg (names.filter (fun n => indeg n = 0)) []

variable {deps : κ → Option (List κ)} {names : List κ}

variable {queue out : List κ} {d n : κ} {indeg : κ → ℤ}

omit [DecidableEq κ] in
theorem mem_present : d ∈ present deps n ↔ Dep deps d n := by
  unfold present Dep
  cases h : deps n with
  | none => simp
  | some ds => simp [List.mem_filter]

theorem count_revDeps (deps : κ → Option (List κ)) (hnd : names.Nodup) (hn : n ∈ names) (d : κ) :
    (revDeps deps names d).count n = (present deps n).count d := by
  unfold revDeps
  induction names with
  | nil => simp at hn
  | cons m ms ih =>
    rw [List.flatMap_cons, List.count_append, List.count_replicate]
    obtain ⟨hm, hms⟩ := List.nodup_cons.mp hnd
    by_cases hmn : m = n
    · subst hmn
      have hz : (ms.flatMap (fun n => List.replicate ((present deps n).count d) n)).count m = 0 := by
        rw [List.count_eq_zero]
        intro hmem
        obtain ⟨k, hk, hkm⟩ := List.mem_flatMap.mp hmem
        rw [List.eq_of_mem_replicate hkm] at hm
        exact hm hk
      simp [hz]
    · have hn' : n ∈ ms := (List.mem_cons.mp hn).resolve_left (Ne.symm hmn)
      simp [hmn, ih hms hn']

theorem mem_revDeps {m : κ} (h : m ∈ revDeps deps names d) : m ∈ names := by
  obtain ⟨k, hk, hkm⟩ := List.mem_flatMap.mp h
  rwa [List.eq_of_mem_replicate hkm]

/-- What the inner loop does, when no counter falls below zero: each counter drops by the number of
its occurrences, and the names whose counter reaches zero join the queue once. -/
theorem relax_spec : ∀ (ms : List κ) (indeg : κ → ℤ) (queue : List κ),
    (∀ m ∈ ms, (ms.count m : ℤ) ≤ indeg m) →
    (∀ m, (relax ms (indeg, queue)).1 m = indeg m - ms.count m) ∧
    ∃ new, (relax ms (indeg, queue)).2 = queue ++ new ∧ new.Nodup ∧
      ∀ m, m ∈ new ↔ m ∈ ms ∧ indeg m = ms.count m
  | [], indeg, queue, _ => ⟨by simp [relax], [], by simp [relax]⟩
  | m :: ms, indeg, queue, h => by
    set indeg' := Function.update indeg m (indeg m - 1) with hi
    have h' : ∀ k ∈ ms, (ms.count k : ℤ) ≤ indeg' k := by
      intro k hk
      have := h k (List.mem_cons_of_mem _ hk)
      by_cases hkm : k = m
      · subst hkm
        rw [List.count_cons_self] at this
        rw [hi, Function.update_self]
        push_cast at this
        omega
      · rw [List.count_cons_of_ne (Ne.symm hkm)] at this
        rwa [hi, Function.update_of_ne hkm]
    have hm1 : indeg' m = indeg m - 1 := by rw [hi, Function.update_self]
    have hne : ∀ k, k ≠ m → indeg' k = indeg k := fun k hk => by rw [hi, Function.update_of_ne hk]
    obtain ⟨hdeg, new, hq, hnd, hmem⟩ := relax_spec ms indeg'
      (if indeg' m = 0 then queue ++ [m] else queue) h'
    refine ⟨fun k => ?_, ?_⟩
    · show (relax ms (indeg', _)).1 k = _
      rw [hdeg k]
      by_cases hkm : k = m
      · subst hkm
        rw [hm1, List.count_cons_self]
        push_cast
        omega
      · rw [hne k hkm, List.count_cons_of_ne (Ne.symm hkm)]
    · show ∃ new, (relax ms (indeg', _)).2 = _ ∧ _
      by_cases hz : indeg' m = 0
      · -- the counter of `m` is spent: `m` does not occur in the rest
        have hmms : m ∉ ms := fun hm => by
          have hle := h' m hm
          have hpos : 0 < ms.count m := List.count_pos_iff.mpr hm
          omega
        have hcm : ms.count m = 0 := List.count_eq_zero.mpr hmms
        refine ⟨m :: new, ?_, ?_, fun k => ?_⟩
        · rw [hq, if_pos hz]; simp
        · exact List.nodup_cons.mpr ⟨fun hmn => hmms ((hmem m).mp hmn).1, hnd⟩
        · rw [List.mem_cons, hmem, List.mem_cons]
          by_cases hkm : k = m
          · subst hkm
            rw [List.count_cons_self, hcm]
            simp
            omega
          · rw [hne k hkm, List.count_cons_of_ne (Ne.symm hkm)]
            simp [hkm]
      · refine ⟨new, by rw [hq, if_neg hz], hnd, fun k => ?_⟩
        rw [hmem, List.mem_cons]
        by_cases hkm : k = m
        · subst hkm
          rw [hm1, List.count_cons_self]
          constructor
          · rintro ⟨h1, h2⟩
            exact ⟨Or.inl rfl, by push_cast; omega⟩
          · rintro ⟨-, h2⟩
            have hc : ms.count k ≠ 0 := by
              intro hc
              rw [hc] at h2
              exact hz (by rw [hm1]; push_cast at h2; omega)
            exact ⟨List.count_pos_iff.mp (Nat.pos_of_ne_zero hc), by push_cast at h2; omega⟩
        · rw [hne k hkm, List.count_cons_of_ne (Ne.symm hkm)]
          simp [hkm]

structure KahnInv (deps : κ → Option (List κ)) (names : List κ) (indeg : κ → ℤ)
    (queue out : List κ) : Prop where
  nodup : (out ++ queue).Nodup
  sub : ∀ n ∈ out ++ queue, n ∈ names
  deg : ∀ n ∈ names, indeg n = (((present deps n).filter (fun d => d ∉ out)).length : ℤ)
  zero : ∀ n ∈ names, indeg n = 0 ↔ n ∈ out ++ queue
  before : ∀ l₁ n l₂, out = l₁ ++ n :: l₂ → ∀ d, Dep deps d n → d ∈ l₁

theorem filter_not_mem_concat (l out : List κ) (hn : n ∉ out) :
    (l.filter (fun d => d ∉ out)).length =
      (l.filter (fun d => d ∉ out ++ [n])).length + l.count n := by
  induction l with
  | nil => simp
  | cons a l ih =>
    by_cases ha : a = n
    · subst ha
      rw [List.filter_cons_of_pos (by simpa using hn), List.filter_cons_of_neg (by simp),
        List.count_cons_self, List.length_cons, ih]
      omega
    · rw [List.count_cons_of_ne ha]
      by_cases ho : a ∈ out
      · rw [List.filter_cons_of_neg (by simpa using ho), List.filter_cons_of_neg (by simp [ho]), ih]
      · rw [List.filter_cons_of_pos (by simpa using ho),
          List.filter_cons_of_pos (by simp [ho, ha]), List.length_cons, List.length_cons, ih]
        omega

theorem KahnInv.init (hnd : names.Nodup) :
    KahnInv deps names (fun n => ((present deps n).length : ℤ))
      (names.filter (fun n => ((present deps n).length : ℤ) = 0)) [] := by
  refine ⟨?_, ?_, ?_, ?_, ?_⟩
  · simpa using hnd.filter _
  · intro n hn
    rw [List.nil_append] at hn
    exact List.mem_of_mem_filter hn
  · intro n _
    simp
  · intro n hn
    simp [hn]
  · intro l₁ n l₂ h
    simp at h

theorem KahnInv.met (h : KahnInv deps names indeg (n :: queue) out) (hd : Dep deps d n) : d ∈ out := by
  have hn : n ∈ names := h.sub n (by simp)
  have h0 : indeg n = 0 := (h.zero n hn).mpr (by simp)
  rw [h.deg n hn] at h0
  have hnil : (present deps n).filter (fun d => d ∉ out) = [] := by
    rw [← List.length_eq_zero_iff]
    exact_mod_cast h0
  by_contra hdo
  have hmem : d ∈ (present deps n).filter (fun d => d ∉ out) :=
    List.mem_filter.mpr ⟨mem_present.mpr hd, by simpa using hdo⟩
  rw [hnil] at hmem
  simp at hmem

/-- What the counter of `m` owes to the head of the queue. -/
theorem KahnInv.indeg_split {m : κ} (h : KahnInv deps names indeg (n :: queue) out) (hm : m ∈ names) :
    indeg m = (((present deps m).filter (fun d => d ∉ out ++ [n])).length : ℤ) +
      ((present deps m).count n : ℤ) := by
  have hout : n ∉ out := fun ho =>
    (List.nodup_append.mp h.nodup).2.2 n ho n List.mem_cons_self rfl
  rw [h.deg m hm, filter_not_mem_concat _ _ hout]
  push_cast
  rfl

theorem KahnInv.step (hnd : names.Nodup) (h : KahnInv deps names indeg (n :: queue) out) :
    KahnInv deps names (relax (revDeps deps names n) (indeg, queue)).1
      (relax (revDeps deps names n) (indeg, queue)).2 (out ++ [n]) := by
  have hge : ∀ m ∈ revDeps deps names n, ((revDeps deps names n).count m : ℤ) ≤ indeg m := by
    intro m hm
    rw [count_revDeps deps hnd (mem_revDeps hm), h.indeg_split (mem_revDeps hm)]
    omega
  obtain ⟨hdeg, new, hq, hnewnd, hnew⟩ := relax_spec _ indeg queue hge
  -- a name that joins the queue still had an unmet dependency
  have hfresh : ∀ m ∈ new, m ∉ out ++ n :: queue := by
    intro m hm hold
    obtain ⟨hrev, hcnt⟩ := (hnew m).mp hm
    rw [(h.zero m (mem_revDeps hrev)).mpr hold] at hcnt
    have : 0 < (revDeps deps names n).count m := List.count_pos_iff.mpr hrev
    omega
  have hlist : (out ++ [n]) ++ (queue ++ new) = (out ++ n :: queue) ++ new := by simp
  rw [hq]
  refine ⟨?_, ?_, ?_, ?_, ?_⟩
  · rw [hlist]
    refine List.nodup_append.mpr ⟨h.nodup, hnewnd, ?_⟩
    rintro a ha b hb rfl
    exact hfresh a hb ha
  · rw [hlist]
    intro m hm
    rcases List.mem_append.mp hm with hm | hm
    · exact h.sub m hm
    · exact mem_revDeps ((hnew m).mp hm).1
  · intro m hm
    rw [hdeg m, count_revDeps deps hnd hm, h.indeg_split hm]
    omega
  · intro m hm
    rw [hdeg m, hlist, List.mem_append, hnew, ← h.zero m hm]
    have hcnt := count_revDeps deps hnd hm n
    have hle := h.indeg_split hm
    constructor
    · intro h0
      by_cases hc : (revDeps deps names n).count m = 0
      · left
        rw [hc] at h0
        simpa using h0
      · exact Or.inr ⟨List.count_pos_iff.mp (Nat.pos_of_ne_zero hc), by omega⟩
    · rintro (h0 | ⟨-, h0⟩)
      · rw [h0] at hle
        omega
      · omega
  · intro l₁ m l₂ hl d hd
    rcases List.eq_nil_or_concat l₂ with rfl | ⟨l₂', z, rfl⟩
    · obtain ⟨rfl, hmn⟩ := List.append_inj' hl rfl
      cases hmn
      exact h.met hd
    · have hl' : out ++ [n] = (l₁ ++ m :: l₂') ++ [z] := by simpa using hl
      obtain ⟨hl', -⟩ := List.append_inj' hl' rfl
      exact h.before l₁ m l₂' hl' d hd

theorem kahnLoop_inv (hnd : names.Nodup) : ∀ (fuel : ℕ) (indeg : κ → ℤ) (queue out : List κ),
    KahnInv deps names indeg queue out → names.length ≤ fuel + out.length →
    ∃ indeg', KahnInv deps names indeg' [] (kahnLoop deps names fuel indeg queue out)
  | 0, indeg, queue, out, h, hf => by
    have hlen := (List.subperm_of_subset h.nodup h.sub).length_le
    rw [List.length_append] at hlen
    have hq : queue = [] := List.length_eq_zero_iff.mp (by omega)
    subst hq
    exact ⟨indeg, h⟩
  | _ + 1, indeg, [], out, h, _ => ⟨indeg, h⟩
  | fuel + 1, indeg, n :: queue, out, h, hf => by
    refine kahnLoop_inv hnd fuel _ _ _ (h.step hnd) ?_
    rw [List.length_append, List.length_singleton]
    omega

theorem kahn_inv (deps : κ → Option (List κ)) (hnd : names.Nodup) :
    ∃ indeg, KahnInv deps names indeg [] (kahn deps names) :=
  kahnLoop_inv hnd _ _ _ _ (KahnInv.init hnd) (by simp)

theorem kahn_nodup (deps : κ → Option (List κ)) (hnd : names.Nodup) : (kahn deps names).Nodup := by
  obtain ⟨_, h⟩ := kahn_inv deps hnd
  simpa using h.nodup

theorem kahn_subset (deps : κ → Option (List κ)) (hnd : names.Nodup) :
    kahn deps names ⊆ names := by
  obtain ⟨_, h⟩ := kahn_inv deps hnd
  intro n hn
  exact h.sub n (by simpa using hn)

theorem kahn_before (hnd : names.Nodup) {l₁ l₂ : List κ} (h : kahn deps names = l₁ ++ n :: l₂)
    (hd : Dep deps d n) : d ∈ l₁ := by
  obtain ⟨_, hi⟩ := kahn_inv deps hnd
  exact hi.before l₁ n l₂ h d hd

theorem acc_of_mem_kahn (hnd : names.Nodup) : ∀ (k : ℕ) (l₁ l₂ : List κ) (n : κ),
    kahn deps names = l₁ ++ n :: l₂ → l₁.length ≤ k → Acc (Dep deps) n
  | k, l₁, l₂, n, h, hk => by
    refine Acc.intro n fun d hd => ?_
    obtain ⟨a, b, hab⟩ := List.append_of_mem (kahn_before hnd h hd)
    cases k with
    | zero =>
      rw [List.length_eq_zero_iff.mp (Nat.le_zero.mp hk)] at hab
      simp at hab
    | succ k =>
      refine acc_of_mem_kahn hnd k a (b ++ n :: l₂) d (by rw [h, hab]; simp) ?_
      rw [hab, List.length_append, List.length_cons] at hk
      omega

theorem mem_kahn_of_deps (hnd : names.Nodup) (hn : n ∈ names)
    (h : ∀ d, Dep deps d n → d ∈ kahn deps names) : n ∈ kahn deps names := by
  obtain ⟨indeg, hi⟩ := kahn_inv deps hnd
  have hz : indeg n = 0 := by
    rw [hi.deg n hn, Int.natCast_eq_zero, List.length_eq_zero_iff, List.filter_eq_nil_iff]
    intro d hd
    simpa using h d (mem_present.mp hd)
  simpa using (hi.zero n hn).mp hz

/-- **Kahn's algorithm emits every name iff no name is on or above a cycle.** -/
theorem kahn_length_iff (hnd : names.Nodup) (hnames : ∀ n, n ∈ names ↔ (deps n).isSome) :
    (kahn deps names).length = names.length ↔ ∀ n ∈ names, Acc (Dep deps) n := by
  have hsp := List.subperm_of_subset (kahn_nodup deps hnd) (kahn_subset deps hnd)
  constructor
  · intro hlen n hn
    have hperm := hsp.perm_of_length_le hlen.ge
    obtain ⟨l₁, l₂, hl⟩ := List.append_of_mem (hperm.mem_iff.mpr hn)
    exact acc_of_mem_kahn hnd _ l₁ l₂ n hl le_rfl
  · intro hacc
    have hall : ∀ n, Acc (Dep deps) n → n ∈ names → n ∈ kahn deps names := by
      intro n ha
      induction ha with
      | intro n _ ih =>
        intro hn
        exact mem_kahn_of_deps hnd hn fun d hd => ih d hd ((hnames d).mpr hd.2)
    have hle := (List.subperm_of_subset hnd fun n hn => hall n (hacc n hn) hn).length_le
    exact le_antisymm hsp.length_le hle

end Kahn

end Fpvd.Digraph
