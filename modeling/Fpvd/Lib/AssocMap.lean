import Mathlib.Data.List.Basic
import Mathlib.Data.List.Nodup
import Mathlib.Data.List.Induction
import Mathlib.Order.Lattice

/-!
# Fpvd.Lib.AssocMap — finite maps as key-ordered association lists

* On lists: `insert` puts a key at its place in the order and replaces an earlier binding, `erase`
  removes the binding, `find?` reads it.  The lookup laws hold for every list, ordered or not.
* `OrdMap κ α`: a list whose keys increase, so that a key has one binding and a map one
  representation (`OrdMap.ext_find?`: maps with the same lookups are equal).
-/

namespace Fpvd

namespace AssocMap

variable {κ α : Type} [DecidableEq κ]

def find? (k : κ) : List (κ × α) → Option α
  | [] => none
  | (j, v) :: m => if k = j then some v else find? k m

def keys (m : List (κ × α)) : List κ := m.map Prod.fst

def erase (k : κ) (m : List (κ × α)) : List (κ × α) := m.filter (fun e => e.1 ≠ k)

@[simp] theorem find?_nil (k : κ) : find? k ([] : List (κ × α)) = none := rfl

theorem find?_cons (k j : κ) (v : α) (m : List (κ × α)) :
    find? k ((j, v) :: m) = if k = j then some v else find? k m := rfl

theorem find?_isSome_iff (k : κ) (m : List (κ × α)) : (find? k m).isSome ↔ k ∈ keys m := by
  induction m with
  | nil => simp [keys]
  | cons e m ih =>
    obtain ⟨j, v⟩ := e
    rw [find?_cons]
    by_cases h : k = j
    · simp [keys, h]
    · rw [if_neg h, ih]
      simp [keys, h]

theorem find?_eq_none_iff (k : κ) (m : List (κ × α)) : find? k m = none ↔ k ∉ keys m := by
  rw [← find?_isSome_iff]
  cases find? k m <;> simp

variable {v : α} {k : κ}

theorem mem_of_find? {m : List (κ × α)} (h : find? k m = some v) : (k, v) ∈ m := by
  induction m with
  | nil => simp at h
  | cons e m ih =>
    obtain ⟨j, w⟩ := e
    rw [find?_cons] at h
    by_cases hj : k = j
    · rw [if_pos hj] at h
      simp only [Option.some.injEq] at h
      subst hj h
      exact List.mem_cons_self
    · rw [if_neg hj] at h
      exact List.mem_cons_of_mem _ (ih h)

theorem find?_of_mem {m : List (κ × α)} (hm : (keys m).Nodup) (h : (k, v) ∈ m) :
    find? k m = some v := by
  induction m with
  | nil => simp at h
  | cons e m ih =>
    obtain ⟨j, w⟩ := e
    simp only [keys, List.map_cons, List.nodup_cons] at hm
    rw [find?_cons]
    rcases List.mem_cons.mp h with h | h
    · simp only [Prod.mk.injEq] at h
      rw [if_pos h.1, h.2]
    · have hk : k ∈ keys m := List.mem_map.mpr ⟨(k, v), h, rfl⟩
      have hkj : k ≠ j := fun hkj => hm.1 (hkj ▸ hk)
      rw [if_neg hkj]
      exact ih hm.2 h

theorem find?_erase_self (k : κ) (m : List (κ × α)) : find? k (erase k m) = none := by
  rw [find?_eq_none_iff]
  simp [keys, erase]

theorem find?_erase_ne {j : κ} (h : j ≠ k) (m : List (κ × α)) :
    find? j (erase k m) = find? j m := by
  induction m with
  | nil => rfl
  | cons e m ih =>
    obtain ⟨i, v⟩ := e
    unfold erase at ih ⊢
    by_cases hi : i = k
    · subst hi
      rw [List.filter_cons_of_neg (by simp), ih, find?_cons, if_neg h]
    · rw [List.filter_cons_of_pos (by simpa using hi), find?_cons, find?_cons, ih]

theorem find?_filter_keys (k : κ) (known : List κ) (m : List (κ × α)) :
    find? k (m.filter fun e => e.1 ∈ known) = if k ∈ known then find? k m else none := by
  induction m with
  | nil => simp
  | cons e m ih =>
    obtain ⟨j, v⟩ := e
    by_cases hj : j ∈ known
    · rw [List.filter_cons_of_pos (by simpa using hj), find?_cons, ih, find?_cons]
      by_cases hk : k = j
      · rw [if_pos hk, if_pos (hk ▸ hj), if_pos hk]
      · rw [if_neg hk, if_neg hk]
    · rw [List.filter_cons_of_neg (by simpa using hj), ih, find?_cons]
      by_cases hk : k = j
      · rw [if_neg (hk ▸ hj), if_neg (hk ▸ hj)]
      · rw [if_neg hk]

theorem find?_map {γ : Type} (k : κ) (f : α → γ) (m : List (κ × α)) :
    find? k (m.map fun e => (e.1, f e.2)) = (find? k m).map f := by
  induction m with
  | nil => rfl
  | cons e m ih =>
    obtain ⟨j, v⟩ := e
    rw [List.map_cons, find?_cons, find?_cons, ih]
    split_ifs <;> rfl

omit [DecidableEq κ] in
theorem keys_map {γ : Type} (f : α → γ) (m : List (κ × α)) :
    keys (m.map fun e => (e.1, f e.2)) = keys m := by
  rw [keys, List.map_map]
  rfl

theorem find?_map_at (k key : κ) (f : α → α) (m : List (κ × α)) :
    find? k (m.map fun e => if e.1 = key then (e.1, f e.2) else e) =
      if k = key then (find? k m).map f else find? k m := by
  induction m with
  | nil => simp
  | cons e m ih =>
    obtain ⟨j, v⟩ := e
    rw [List.map_cons]
    by_cases hj : j = key
    · rw [if_pos hj, find?_cons, find?_cons, ih]
      by_cases hk : k = j
      · rw [if_pos hk, if_pos hk, if_pos (hk.trans hj)]
        rfl
      · rw [if_neg hk, if_neg hk]
    · rw [if_neg hj, find?_cons, find?_cons, ih]
      by_cases hk : k = j
      · rw [if_pos hk, if_pos hk, if_neg (hk ▸ hj)]
      · rw [if_neg hk, if_neg hk]

theorem keys_map_at (key : κ) (f : α → α) (m : List (κ × α)) :
    keys (m.map fun e => if e.1 = key then (e.1, f e.2) else e) = keys m := by
  unfold keys
  rw [List.map_map]
  refine List.map_congr_left fun e _ => ?_
  simp only [Function.comp]
  split_ifs <;> rfl

/-- `m[k] = v` on a map in insertion order: an earlier binding keeps its place. -/
def put (k : κ) (v : α) : List (κ × α) → List (κ × α)
  | [] => [(k, v)]
  | (j, w) :: m => if k = j then (k, v) :: m else (j, w) :: put k v m

theorem find?_put (j k : κ) (v : α) (m : List (κ × α)) :
    find? j (put k v m) = if j = k then some v else find? j m := by
  induction m with
  | nil => rw [put, find?_cons]
  | cons e m ih =>
    obtain ⟨i, w⟩ := e
    unfold put
    split_ifs with h1 h2 h2
    · rw [find?_cons, if_pos h2]
    · rw [find?_cons, find?_cons, if_neg h2, if_neg (h1 ▸ h2)]
    · rw [find?_cons, ih, if_pos h2, if_neg (h2 ▸ h1)]
    · rw [find?_cons, ih, if_neg h2, find?_cons]

theorem mem_keys_put {j : κ} {m : List (κ × α)} :
    j ∈ keys (put k v m) ↔ j = k ∨ j ∈ keys m := by
  rw [← find?_isSome_iff, find?_put, ← find?_isSome_iff]
  split_ifs with h <;> simp [h]

theorem put_of_not_mem {m : List (κ × α)} (h : k ∉ keys m) : put k v m = m ++ [(k, v)] := by
  induction m with
  | nil => rfl
  | cons e m ih =>
    obtain ⟨j, w⟩ := e
    obtain ⟨hj, hm⟩ := not_or.mp (mt List.mem_cons.mpr h)
    rw [put, if_neg hj, ih hm]
    rfl

theorem length_put_of_mem {m : List (κ × α)} (h : k ∈ keys m) :
    (put k v m).length = m.length := by
  induction m with
  | nil => cases h
  | cons e m ih =>
    obtain ⟨j, w⟩ := e
    unfold put
    split_ifs with hk
    · rfl
    · have hm : k ∈ keys m := (List.mem_cons.mp h).resolve_left hk
      rw [List.length_cons, ih hm, List.length_cons]

theorem nodup_keys_put {m : List (κ × α)} (hm : (keys m).Nodup) :
    (keys (put k v m)).Nodup := by
  induction m with
  | nil => exact List.nodup_singleton k
  | cons e m ih =>
    obtain ⟨j, w⟩ := e
    obtain ⟨hj, htail⟩ := List.nodup_cons.mp hm
    unfold put
    split_ifs with hk
    · subst hk
      exact hm
    · refine List.nodup_cons.mpr ⟨fun hmem => ?_, ih htail⟩
      exact (mem_keys_put.mp hmem).elim (Ne.symm hk) hj

theorem nodup_keys_erase {m : List (κ × α)} (hm : (keys m).Nodup) : (keys (erase k m)).Nodup :=
  hm.sublist (List.filter_sublist.map Prod.fst)

theorem put_self {m : List (κ × α)} (h : find? k m = some v) : put k v m = m := by
  induction m with
  | nil => simp at h
  | cons e m ih =>
    obtain ⟨i, w⟩ := e
    rw [find?_cons] at h
    unfold put
    split_ifs at h ⊢ with hk
    · rw [Option.some.inj h, hk]
    · rw [ih h]

theorem mem_put {e : κ × α} {m : List (κ × α)} (h : e ∈ put k v m) :
    e = (k, v) ∨ e ∈ m := by
  induction m with
  | nil => exact .inl (by simpa [put] using h)
  | cons e' m ih =>
    unfold put at h
    split_ifs at h with hk
    · exact (List.mem_cons.mp h).imp_right (List.mem_cons_of_mem _)
    · rcases List.mem_cons.mp h with h | h
      · exact .inr (h ▸ List.mem_cons_self)
      · exact (ih h).imp_right (List.mem_cons_of_mem _)

section Ordered

variable [LT κ] [DecidableLT κ]

/-- `m[k] = v` on a map kept in key order. -/
def insert (k : κ) (v : α) : List (κ × α) → List (κ × α)
  | [] => [(k, v)]
  | (j, w) :: m =>
    if k = j then (k, v) :: m
    else if k < j then (k, v) :: (j, w) :: m
    else (j, w) :: insert k v m

theorem find?_insert (j k : κ) (v : α) (m : List (κ × α)) :
    find? j (insert k v m) = if j = k then some v else find? j m := by
  induction m with
  | nil => rw [insert, find?_cons]
  | cons e m ih =>
    obtain ⟨i, w⟩ := e
    unfold insert
    split_ifs with h1 h2 h3 h3 h3
    · rw [find?_cons, if_pos h2]
    · rw [find?_cons, find?_cons, if_neg h2, if_neg (h1 ▸ h2)]
    · rw [find?_cons, if_pos h3]
    · rw [find?_cons, if_neg h3]
    · rw [find?_cons, ih, if_pos h3, if_neg (h3 ▸ h1)]
    · rw [find?_cons, ih, if_neg h3, find?_cons]

theorem mem_keys_insert {j k : κ} {v : α} {m : List (κ × α)} :
    j ∈ keys (insert k v m) ↔ j = k ∨ j ∈ keys m := by
  rw [← find?_isSome_iff, find?_insert, ← find?_isSome_iff]
  split_ifs with h <;> simp [h]

end Ordered

def Sorted [LT κ] (m : List (κ × α)) : Prop := (keys m).Pairwise (· < ·)

section Sorted

variable {κ : Type} [LinearOrder κ] {m : List (κ × α)}

theorem Sorted.nodup (hm : Sorted m) : (keys m).Nodup := hm.imp ne_of_lt

theorem Sorted.insert (hm : Sorted m) (k : κ) (v : α) : Sorted (insert k v m) := by
  induction m with
  | nil => exact List.pairwise_singleton _ _
  | cons e m ih =>
    obtain ⟨j, w⟩ := e
    obtain ⟨hj, hm'⟩ := List.pairwise_cons.mp hm
    unfold AssocMap.insert
    split_ifs with h1 h2
    · subst h1
      exact hm
    · refine List.pairwise_cons.mpr ⟨fun i hi => ?_, hm⟩
      rcases List.mem_cons.mp hi with rfl | hi
      · exact h2
      · exact lt_trans h2 (hj i hi)
    · refine List.pairwise_cons.mpr ⟨fun i hi => ?_, ih hm'⟩
      rcases mem_keys_insert.mp hi with rfl | hi
      · exact lt_of_le_of_ne (not_lt.mp h2) (Ne.symm h1)
      · exact hj i hi

theorem Sorted.erase (hm : Sorted m) (k : κ) : Sorted (erase k m) :=
  List.Pairwise.sublist (List.Sublist.map _ List.filter_sublist) hm

theorem Sorted.filterMap {β : Type} (hm : Sorted m) (f : κ → α → Option β) :
    Sorted (m.filterMap fun e => (f e.1 e.2).map fun b => (e.1, b)) := by
  unfold Sorted keys at *
  rw [List.pairwise_map] at hm ⊢
  refine List.Pairwise.filterMap _ (fun d e hde b hb c hc => ?_) hm
  obtain ⟨-, -, rfl⟩ := Option.map_eq_some_iff.mp hb
  obtain ⟨-, -, rfl⟩ := Option.map_eq_some_iff.mp hc
  exact hde

theorem Sorted.find?_filterMap {β : Type} (hm : Sorted m) (f : κ → α → Option β) (k : κ) :
    find? k (m.filterMap fun e => (f e.1 e.2).map fun b => (e.1, b)) = (find? k m).bind (f k) := by
  induction m with
  | nil => rfl
  | cons e m ih =>
    obtain ⟨j, v⟩ := e
    have ih := ih hm.of_cons
    have hj : j ∉ keys m := (List.nodup_cons.mp hm.nodup).1
    by_cases hk : k = j
    · subst hk
      rw [(find?_eq_none_iff k m).mpr hj] at ih
      cases hf : f k v <;> simp [find?_cons, hf, ih]
    · cases hf : f j v <;> simp [find?_cons, hf, hk, ih]

theorem Sorted.find?_tail {j : κ} {v : α} (hm : Sorted ((j, v) :: m)) {k : κ} (hk : k ≤ j) :
    find? k m = none := by
  rw [find?_eq_none_iff]
  intro hmem
  exact absurd ((List.pairwise_cons.mp hm).1 k hmem) (not_lt.mpr hk)

theorem Sorted.ext_find? : ∀ {m n : List (κ × α)}, Sorted m → Sorted n →
    (∀ k, find? k m = find? k n) → m = n
  | [], [], _, _, _ => rfl
  | [], (i, w) :: n, _, _, h => by simpa [find?_cons] using h i
  | (j, v) :: m, [], _, _, h => by simpa [find?_cons] using h j
  | (j, v) :: m, (i, w) :: n, hm, hn, h => by
    -- the heads are the least keys of the two lists
    have hij : i = j := by
      rcases lt_trichotomy i j with hlt | heq | hlt
      · have := h i
        rw [find?_cons, find?_cons, if_neg hlt.ne, if_pos rfl, hm.find?_tail hlt.le] at this
        simp at this
      · exact heq
      · have := h j
        rw [find?_cons, find?_cons, if_neg hlt.ne, if_pos rfl, hn.find?_tail hlt.le] at this
        simp at this
    subst hij
    have hv := h i
    rw [find?_cons, find?_cons, if_pos rfl, if_pos rfl, Option.some.injEq] at hv
    have htail : m = n := by
      refine Sorted.ext_find? (List.pairwise_cons.mp hm).2 (List.pairwise_cons.mp hn).2 fun k => ?_
      by_cases hk : k = i
      · rw [hk, hm.find?_tail le_rfl, hn.find?_tail le_rfl]
      · have := h k
        rwa [find?_cons, find?_cons, if_neg hk, if_neg hk] at this
    rw [hv, htail]

end Sorted

end AssocMap

/-! ## Maps -/

structure OrdMap (κ α : Type) [LinearOrder κ] where
  entries : List (κ × α)
  sorted : AssocMap.Sorted entries
  deriving DecidableEq

namespace OrdMap

variable {κ α : Type} [LinearOrder κ]

instance [Repr κ] [Repr α] : Repr (OrdMap κ α) := ⟨fun m n => reprPrec m.entries n⟩

def empty : OrdMap κ α := ⟨[], List.Pairwise.nil⟩

instance : EmptyCollection (OrdMap κ α) := ⟨empty⟩

def find? (k : κ) (m : OrdMap κ α) : Option α := AssocMap.find? k m.entries

def keys (m : OrdMap κ α) : List κ := AssocMap.keys m.entries

def insert (k : κ) (v : α) (m : OrdMap κ α) : OrdMap κ α :=
  ⟨AssocMap.insert k v m.entries, m.sorted.insert k v⟩

def erase (k : κ) (m : OrdMap κ α) : OrdMap κ α := ⟨AssocMap.erase k m.entries, m.sorted.erase k⟩

def filterMap {β : Type} (f : κ → α → Option β) (m : OrdMap κ α) : OrdMap κ β := ⟨_, m.sorted.filterMap f⟩

def ofList (l : List (κ × α)) : OrdMap κ α := l.foldl (fun m e => m.insert e.1 e.2) ∅

@[simp] theorem find?_empty (k : κ) : find? k (∅ : OrdMap κ α) = none := rfl

theorem find?_insert (j k : κ) (v : α) (m : OrdMap κ α) :
    (m.insert k v).find? j = if j = k then some v else m.find? j :=
  AssocMap.find?_insert j k v m.entries

theorem find?_erase (j k : κ) (m : OrdMap κ α) :
    (m.erase k).find? j = if j = k then none else m.find? j := by
  split_ifs with h
  · rw [h]
    exact AssocMap.find?_erase_self k m.entries
  · exact AssocMap.find?_erase_ne h m.entries

theorem find?_filterMap {β : Type} (f : κ → α → Option β) (k : κ) (m : OrdMap κ α) :
    (m.filterMap f).find? k = (m.find? k).bind (f k) := m.sorted.find?_filterMap f k

theorem mem_keys {k : κ} {m : OrdMap κ α} : k ∈ m.keys ↔ (m.find? k).isSome :=
  (AssocMap.find?_isSome_iff k m.entries).symm

theorem keys_nodup (m : OrdMap κ α) : m.keys.Nodup := m.sorted.nodup

theorem mem_entries {k : κ} {v : α} {m : OrdMap κ α} : (k, v) ∈ m.entries ↔ m.find? k = some v :=
  ⟨AssocMap.find?_of_mem m.keys_nodup, AssocMap.mem_of_find?⟩

theorem find?_ofList {k : κ} {v : α} {l : List (κ × α)} (hl : (AssocMap.keys l).Nodup)
    (h : (k, v) ∈ l) : (ofList l).find? k = some v := by
  unfold ofList
  induction l using List.reverseRecOn with
  | nil => cases h
  | append_singleton l e ih =>
    rw [List.foldl_append, List.foldl_cons, List.foldl_nil, find?_insert]
    simp only [AssocMap.keys, List.map_append, List.map_cons, List.map_nil] at hl
    obtain ⟨hl, -, hdisj⟩ := List.nodup_append'.mp hl
    rcases List.mem_append.mp h with h | h
    · have hne : k ≠ e.1 := fun hk =>
        hdisj (List.mem_map.mpr ⟨(k, v), h, rfl⟩) (List.mem_singleton.mpr hk)
      rw [if_neg hne]
      exact ih hl h
    · rw [← List.mem_singleton.mp h, if_pos rfl]

theorem ext_find? {m n : OrdMap κ α} (h : ∀ k, m.find? k = n.find? k) : m = n := by
  obtain ⟨es, hes⟩ := m
  obtain ⟨fs, hfs⟩ := n
  have : es = fs := hes.ext_find? hfs h
  subst this
  rfl

end OrdMap

end Fpvd
