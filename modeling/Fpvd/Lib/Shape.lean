import Mathlib.Tactic.Common
import Fpvd.Lib.Json

/-!
# Fpvd.Lib.Shape — JSON values and the keys that a schema knows

* `Shape`: which keys of an object are known, and the shapes of what stands there.  A block is strict
  where no other key is allowed.
* `agrees s a b`: the two values are equal apart from members that the shape does not know.
* `clean s v`: the strict blocks of the value hold known keys only.
* `distinct v`: no object of the value has a key twice.
-/

namespace Fpvd

inductive Shape where
  /-- a value, taken as a whole -/
  | value
  /-- an object with its known keys -/
  | block (strict : Bool) (fields : List (String × Shape))
  /-- a list of values of one shape -/
  | list (entry : Shape)

namespace Json

mutual

def agrees : Shape → Json → Json → Bool
  | .block _ fields, .obj m, .obj n => agreesOn fields m n
  | .list s, .arr xs, .arr ys => List.all₂ (agrees s) xs ys
  | _, a, b => a = b

def agreesOn : List (String × Shape) → List (String × Json) → List (String × Json) → Bool
  | [], _, _ => true
  | (k, s) :: fields, m, n =>
    (match AssocMap.find? k m, AssocMap.find? k n with
      | none, none => true
      | some a, some b => agrees s a b
      | _, _ => false) && agreesOn fields m n

end

mutual

def clean : Shape → Json → Bool
  | .block strict fields, .obj m =>
    (!strict || (AssocMap.keys m).all fun k => k ∈ fields.map Prod.fst) && cleanOn fields m
  | .list s, .arr xs => xs.all (clean s)
  | _, _ => true

def cleanOn : List (String × Shape) → List (String × Json) → Bool
  | [], _ => true
  | (k, s) :: fields, m =>
    (match AssocMap.find? k m with
      | none => true
      | some v => clean s v) && cleanOn fields m

end

mutual

def distinct : Json → Bool
  | .arr xs => distinctArr xs
  | .obj ms => decide (AssocMap.keys ms).Nodup && distinctObj ms
  | _ => true

def distinctArr : List Json → Bool
  | [] => true
  | x :: xs => distinct x && distinctArr xs

def distinctObj : List (String × Json) → Bool
  | [] => true
  | (_, v) :: ms => distinct v && distinctObj ms

end

/-! ## Reading them -/

section Read

variable {s : Shape} {a b : Json} {m n : List (String × Json)} {fields : List (String × Shape)}
  {strict : Bool}

def agreesAt (s : Shape) : Option Json → Option Json → Bool
  | none, none => true
  | some a, some b => agrees s a b
  | _, _ => false

theorem agreesOn_iff : agreesOn fields m n = true ↔
    ∀ e ∈ fields, agreesAt e.2 (AssocMap.find? e.1 m) (AssocMap.find? e.1 n) = true := by
  induction fields with
  | nil => simp [agreesOn]
  | cons e fields ih =>
    obtain ⟨k, s⟩ := e
    rw [agreesOn, Bool.and_eq_true, ih, List.forall_mem_cons]
    refine and_congr_left fun _ => ?_
    cases AssocMap.find? k m <;> cases AssocMap.find? k n <;> rfl

theorem agreesOn_append {others : List (String × Shape)} : agreesOn (fields ++ others) m n = true ↔
    agreesOn fields m n = true ∧ agreesOn others m n = true := by
  simp only [agreesOn_iff, List.forall_mem_append]

theorem cleanOn_iff : cleanOn fields m = true ↔
    ∀ e ∈ fields, ∀ v, AssocMap.find? e.1 m = some v → clean e.2 v = true := by
  induction fields with
  | nil => simp [cleanOn]
  | cons e fields ih =>
    obtain ⟨k, s⟩ := e
    rw [cleanOn, Bool.and_eq_true, ih, List.forall_mem_cons]
    refine and_congr_left fun _ => ?_
    cases AssocMap.find? k m <;> simp

theorem clean_block_iff : clean (.block strict fields) (.obj m) = true ↔
    (strict = true → ∀ k ∈ AssocMap.keys m, k ∈ fields.map Prod.fst) ∧
      ∀ e ∈ fields, ∀ v, AssocMap.find? e.1 m = some v → clean e.2 v = true := by
  rw [clean, Bool.and_eq_true, cleanOn_iff]
  refine and_congr_left fun _ => ?_
  cases strict <;> simp

theorem eq_of_agrees (h : agrees s a b = true) :
    a = b ∨ (∃ strict fields m n, s = .block strict fields ∧ a = .obj m ∧ b = .obj n ∧
      agreesOn fields m n = true) ∨
      ∃ t xs ys, s = .list t ∧ a = .arr xs ∧ b = .arr ys ∧
        List.Forall₂ (fun x y => agrees t x y = true) xs ys := by
  unfold agrees at h
  split at h
  case h_1 strict fields m n => exact .inr (.inl ⟨strict, fields, m, n, rfl, rfl, rfl, h⟩)
  case h_2 t xs ys => exact .inr (.inr ⟨t, xs, ys, rfl, rfl, rfl, (List.all₂_eq_true xs ys).mp h⟩)
  case h_3 => exact .inl (of_decide_eq_true h)

theorem agrees_value (h : agrees .value a b = true) : a = b := by
  rcases eq_of_agrees h with h | ⟨_, _, _, _, hs, -⟩ | ⟨_, _, _, hs, -⟩
  · exact h
  · cases hs
  · cases hs

mutual

theorem agrees_refl : ∀ (s : Shape) (a : Json), agrees s a a = true
  | .value, a => by
    unfold agrees
    simp
  | .block strict fields, a => by
    cases a with
    | obj m =>
      rw [agrees]
      exact agreesOn_refl fields m
    | _ => simp [agrees]
  | .list s, a => by
    cases a with
    | arr xs =>
      rw [agrees, List.all₂_eq_true, List.forall₂_same]
      exact fun x _ => agrees_refl s x
    | _ => simp [agrees]

theorem agreesOn_refl : ∀ (fields : List (String × Shape)) (m : List (String × Json)),
    agreesOn fields m m = true
  | [], m => by rw [agreesOn]
  | (k, s) :: fields, m => by
    rw [agreesOn, Bool.and_eq_true]
    refine ⟨?_, agreesOn_refl fields m⟩
    cases AssocMap.find? k m with
    | none => rfl
    | some v => exact agrees_refl s v

end

theorem agreesAt_refl (s : Shape) (x : Option Json) : agreesAt s x x = true := by
  cases x with
  | none => rfl
  | some v => exact agrees_refl s v

theorem agreesAt_cases {x y : Option Json} (h : agreesAt s x y = true) :
    (x = none ∧ y = none) ∨ ∃ a b, x = some a ∧ y = some b ∧ agrees s a b = true := by
  cases x with
  | none =>
    cases y with
    | none => exact .inl ⟨rfl, rfl⟩
    | some b => cases h
  | some a =>
    cases y with
    | none => cases h
    | some b => exact .inr ⟨a, b, rfl, rfl, h⟩

theorem agreesAt_field {k : String} (h : agreesOn fields m n = true)
    (hk : AssocMap.find? k fields = some s) :
    agreesAt s (AssocMap.find? k m) (AssocMap.find? k n) = true :=
  agreesOn_iff.mp h (k, s) (AssocMap.mem_of_find? hk)

theorem distinctObj_iff : distinctObj m = true ↔ ∀ e ∈ m, distinct e.2 = true := by
  induction m with
  | nil => simp [distinctObj]
  | cons e m ih => rw [distinctObj, Bool.and_eq_true, ih, List.forall_mem_cons]

theorem distinct_obj : distinct (.obj m) = true ↔
    (AssocMap.keys m).Nodup ∧ ∀ e ∈ m, distinct e.2 = true := by
  rw [distinct, Bool.and_eq_true, decide_eq_true_eq, distinctObj_iff]

end Read

end Json

end Fpvd
