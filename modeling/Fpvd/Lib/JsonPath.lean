import Mathlib.Data.List.Dedup
import Fpvd.Lib.Shape

/-!
# Fpvd.Lib.JsonPath — the values of a document by their paths

A path is a list of object keys.  A leaf is a value that is not an object; an empty object has none.
-/

namespace Fpvd.Json

def at? : List String → Json → Option Json
  | [], j => some j
  | k :: p, .obj ms => (AssocMap.find? k ms).bind (at? p)
  | _ :: _, _ => none

mutual

def leafList : Json → List (List String × Json)
  | .obj ms => memberLeafList ms
  | j => [([], j)]

def memberLeafList : List (String × Json) → List (List String × Json)
  | [] => []
  | (k, v) :: ms => (leafList v).map (fun e => (k :: e.1, e.2)) ++ memberLeafList ms

end

def leaves (j : Json) : List (List String) := j.leafList.map Prod.fst

/-- The leaves of either document at which the two differ. -/
def changes (a b : Json) : List (List String) :=
  (a.leaves ++ b.leaves).dedup.filter fun p => at? p a ≠ at? p b

def erasePath : List String → Json → Json
  | [k], .obj ms => .obj (AssocMap.erase k ms)
  | k :: p, .obj ms => .obj (ms.map fun (k', v) => (k', if k' = k then erasePath p v else v))
  | _, j => j

def without (paths : List (List String)) (j : Json) : Json :=
  paths.foldl (fun j p => erasePath p j) j

/-! ## Leaves and lookups -/

theorem mem_memberLeafList {ms : List (String × Json)} {p : List String} {w : Json} :
    (p, w) ∈ memberLeafList ms ↔ ∃ k v q, (k, v) ∈ ms ∧ (q, w) ∈ leafList v ∧ p = k :: q := by
  induction ms with
  | nil => simp [memberLeafList]
  | cons e ms ih =>
    obtain ⟨k, v⟩ := e
    rw [memberLeafList, List.mem_append, List.mem_map, ih]
    constructor
    · rintro (⟨⟨q, w'⟩, hq, heq⟩ | ⟨k', v', q, hmem, hq, rfl⟩)
      · obtain ⟨rfl, rfl⟩ := Prod.mk.inj heq
        exact ⟨k, v, q, List.mem_cons_self, hq, rfl⟩
      · exact ⟨k', v', q, List.mem_cons_of_mem _ hmem, hq, rfl⟩
    · rintro ⟨k', v', q, hmem, hq, rfl⟩
      rcases List.mem_cons.mp hmem with heq | hmem
      · obtain ⟨rfl, rfl⟩ := Prod.mk.inj heq
        exact .inl ⟨(q, w), hq, rfl⟩
      · exact .inr ⟨k', v', q, hmem, hq, rfl⟩

theorem at?_of_mem_leafList : ∀ {p : List String} {j w : Json}, distinct j = true →
    (p, w) ∈ leafList j → at? p j = some w
  | p, .obj ms, w, hd, h => by
    rw [leafList, mem_memberLeafList] at h
    obtain ⟨k, v, q, hmem, hq, rfl⟩ := h
    obtain ⟨hnd, hall⟩ := distinct_obj.mp hd
    rw [at?, AssocMap.find?_of_mem hnd hmem, Option.bind_some]
    exact at?_of_mem_leafList (hall (k, v) hmem) hq
  | p, .null, w, _, h | p, .bool _, w, _, h | p, .int _, w, _, h | p, .real _, w, _, h
  | p, .str _, w, _, h | p, .arr _, w, _, h => by
    obtain ⟨rfl, rfl⟩ := Prod.mk.inj (List.mem_singleton.mp h)
    rfl

theorem filter_fst_eq_zip {f g : List String → Option Json} : ∀ {l m : List (List String × Json)},
    l.map Prod.fst = m.map Prod.fst → (∀ e ∈ l, f e.1 = some e.2) → (∀ e ∈ m, g e.1 = some e.2) →
    (l.map Prod.fst).filter (fun p => f p ≠ g p) =
      ((l.zip m).filter fun e => e.1.2 ≠ e.2.2).map fun e => e.1.1
  | [], [], _, _, _ => rfl
  | (p, v) :: l, (p', w) :: m, heq, hf, hg => by
    obtain ⟨rfl, hrest⟩ := List.cons.inj heq
    have hv : f p = some v := hf (p, v) List.mem_cons_self
    have hw : g p = some w := hg (p, w) List.mem_cons_self
    have ih := filter_fst_eq_zip hrest (fun e he => hf e (List.mem_cons_of_mem _ he))
      fun e he => hg e (List.mem_cons_of_mem _ he)
    rw [List.map_cons, List.zip_cons_cons, List.filter_cons, List.filter_cons, ih]
    by_cases hvw : v = w
    · simp [hv, hw, hvw]
    · simp [hv, hw, hvw]

theorem dedup_leaves {a b : Json} (hsame : a.leaves = b.leaves) (hnd : a.leaves.Nodup) :
    (a.leaves ++ b.leaves).dedup = a.leaves := by
  rw [← hsame, List.dedup_append, hnd.dedup]
  exact List.Subset.union_eq_right (List.Subset.refl _)

theorem changes_self (a : Json) : changes a a = [] := by
  simp [changes]

theorem changes_eq_zip {a b : Json} (ha : distinct a = true) (hb : distinct b = true)
    (hsame : a.leaves = b.leaves) (hnd : a.leaves.Nodup) :
    changes a b = ((a.leafList.zip b.leafList).filter fun e => e.1.2 ≠ e.2.2).map fun e => e.1.1 := by
  rw [changes, dedup_leaves hsame hnd]
  exact filter_fst_eq_zip hsame (fun e he => at?_of_mem_leafList ha he)
    fun e he => at?_of_mem_leafList hb he

end Fpvd.Json
