import Mathlib.Data.Rat.Lemmas
import Fpvd.Lib.Json

/-!
# Fpvd.Lib.PyJson — JSON values as Python sees them

Python compares numbers by value across `bool`, `int` and `float`, and everything else by structure.
-/

namespace Fpvd.Json

mutual

def norm : Json → Json
  | .null => .null
  | .bool b => .int (if b then 1 else 0)
  | .int i => .int i
  | .real q => if q.den = 1 then .int q.num else .real q
  | .str s => .str s
  | .arr xs => .arr (normArr xs)
  | .obj ms => .obj (normObj ms)

def normArr : List Json → List Json
  | [] => []
  | x :: xs => norm x :: normArr xs

def normObj : List (String × Json) → List (String × Json)
  | [] => []
  | (k, v) :: ms => (k, norm v) :: normObj ms

end

def pyEq (a b : Json) : Bool := a.norm = b.norm

def truthy : Json → Bool
  | .null => false
  | .bool b => b
  | .int i => i ≠ 0
  | .real q => q ≠ 0
  | .str s => s ≠ ""
  | .arr xs => !xs.isEmpty
  | .obj ms => !ms.isEmpty

theorem pyEq_iff {a b : Json} : pyEq a b = true ↔ a.norm = b.norm := by simp [pyEq]

theorem find?_normObj (k : String) (ms : List (String × Json)) :
    AssocMap.find? k (normObj ms) = (AssocMap.find? k ms).map norm := by
  induction ms with
  | nil => rfl
  | cons e ms ih =>
    obtain ⟨j, v⟩ := e
    rw [normObj, AssocMap.find?_cons, AssocMap.find?_cons, ih]
    split_ifs <;> rfl

theorem normObj_insert (k : String) (v : Json) (ms : List (String × Json)) :
    normObj (AssocMap.insert k v ms) = AssocMap.insert k v.norm (normObj ms) := by
  induction ms with
  | nil => rfl
  | cons e ms ih =>
    obtain ⟨j, w⟩ := e
    rw [AssocMap.insert, normObj, AssocMap.insert]
    split_ifs
    · rw [normObj]
    · rw [normObj, normObj]
    · rw [normObj, ih]

theorem truthy_norm (v : Json) : v.norm.truthy = v.truthy := by
  cases v with
  | bool b => cases b <;> rfl
  | real q =>
    rw [norm]
    split_ifs with h
    · simp [truthy]
    · rfl
  | arr xs => cases xs <;> rfl
  | obj ms => cases ms <;> rfl
  | _ => rfl

theorem eq_str_of_norm {v : Json} {s : String} (h : v.norm = .str s) : v = .str s := by
  cases v with
  | str t => exact h
  | real q =>
    rw [norm] at h
    split_ifs at h
  | _ => cases h

theorem eq_obj_of_norm {v : Json} {ms : List (String × Json)} (h : v.norm = (Json.obj ms).norm) :
    ∃ ns, v = .obj ns ∧ normObj ns = normObj ms := by
  cases v with
  | obj ns => exact ⟨ns, rfl, by simpa [norm] using h⟩
  | real q =>
    rw [norm, norm] at h
    split_ifs at h
  | _ => cases h

theorem eq_arr_of_norm {v : Json} {xs : List Json} (h : v.norm = (Json.arr xs).norm) :
    ∃ ys, v = .arr ys ∧ normArr ys = normArr xs := by
  cases v with
  | arr ys => exact ⟨ys, rfl, by simpa [norm] using h⟩
  | real q =>
    rw [norm, norm] at h
    split_ifs at h
  | _ => cases h

theorem normArr_eq_map (xs : List Json) : normArr xs = xs.map norm := by
  induction xs with
  | nil => rfl
  | cons x xs ih => rw [normArr, ih, List.map_cons]

end Fpvd.Json
