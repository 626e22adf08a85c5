import Fpvd.Config.Store
import Fpvd.Gs.Known

/-!
# Fpvd.Config.Merges — the merge of the drone and the merge of the ground station

`deepMergeJson` (`drone/src/config/store.cpp`) and `deep_merge` (`gs/fpvdgs/config.py`) merge a patch into a
configuration, the one on each side of the link.
-/

namespace Fpvd

open Json

theorem deepMergeJson_obj (bs os : Gs.Dict) :
    deepMergeJson (.obj bs) (.obj os) = .obj (Gs.deepMerge bs os) := by
  rw [deepMergeJson, mergeMembers_eq, Gs.deepMerge_eq]

/-- **The two merges are one operation.**  For objects in key order the two give the same result; to merge
once more changes nothing; what stands at a path of the base stays unless the overlay writes at the path,
above it or below it; and what the overlay writes is there. -/
theorem merges_agree {bs os : Gs.Dict} (hbs : ordered (.obj bs) = true) (hos : ordered (.obj os) = true) :
    deepMergeJson (.obj bs) (.obj os) = .obj (Gs.deepMerge bs os) ∧
    Gs.deepMerge (Gs.deepMerge bs os) os = Gs.deepMerge bs os ∧
    (∀ q v, Spared (some (.obj bs)) (.obj os) q → (Json.obj bs).at? q = some v →
      (Json.obj (Gs.deepMerge bs os)).at? q = some v) ∧
    ∀ p v, Writes (some (.obj bs)) (.obj os) p v → (Json.obj (Gs.deepMerge bs os)).at? p = some v := by
  have honto : onto (some (.obj bs)) (.obj os) = .obj (mergeInto bs os) := by rw [onto]
  refine ⟨deepMergeJson_obj bs os, ?_, fun q v hs hv => ?_, fun p v hw => ?_⟩
  · have hidem := onto_idem (some (.obj bs)) hos (by rintro _ ⟨⟩; exact hbs)
    rw [honto, onto] at hidem
    rw [Gs.deepMerge_eq, Gs.deepMerge_eq]
    exact Json.obj.inj hidem
  · rw [Gs.deepMerge_eq, ← honto]
    exact at?_onto_of_spared hos hbs hs hv
  · rw [Gs.deepMerge_eq, ← honto]
    exact at?_onto _ hos hw

/-- A patch that adds an empty object and replaces a number, beside a value it spares. -/
theorem merges_agree_patch :
    Gs.deepMerge [("a", .int 1), ("b", .obj [("c", .int 2), ("d", .null)])]
      [("a", .obj []), ("b", .obj [("c", .int 3)])] =
        [("a", .obj []), ("b", .obj [("c", .int 3), ("d", .null)])] ∧
    (Json.obj (Gs.deepMerge [("a", .int 1), ("b", .obj [("c", .int 2), ("d", .null)])]
      [("a", .obj []), ("b", .obj [("c", .int 3)])])).at? ["b", "c"] = some (.int 3) :=
  ⟨by decide +kernel, (merges_agree (by decide +kernel) (by decide +kernel)).2.2.2 _ _
    ⟨by decide +kernel, .inl rfl⟩⟩

end Fpvd
