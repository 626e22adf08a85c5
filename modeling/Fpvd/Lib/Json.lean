import Mathlib.Data.Rat.Floor
import Mathlib.Data.String.Basic
import Fpvd.Lib.AssocMap

/-!
# Fpvd.Lib.Json — JSON values and their typed conversions

* `Json` with decidable equality.  An object is its list of members, in key order.
* `Conv α`: the result of converting a value, or the exception.  The conversions (`getInt`, `getStr`,
  …), member access with and without a default (`value`, `atKey`) and the texts of their exceptions
  are those of nlohmann-json 3.11.
-/

namespace Fpvd

inductive Json where
  | null
  | bool (b : Bool)
  | int (i : ℤ)
  | real (q : ℚ)
  | str (s : String)
  | arr (xs : List Json)
  | obj (members : List (String × Json))
  deriving Repr

def roundHalfEven (q : ℚ) : ℤ :=
  let f := ⌊q⌋
  let r := q - f
  if r < 1 / 2 then f
  else if 1 / 2 < r then f + 1
  else if f % 2 = 0 then f else f + 1

namespace Json

mutual

def decEq : (a b : Json) → Decidable (a = b)
  | .null, .null => .isTrue rfl
  | .bool a, .bool b => decidable_of_iff (a = b) (by simp)
  | .int a, .int b => decidable_of_iff (a = b) (by simp)
  | .real a, .real b => decidable_of_iff (a = b) (by simp)
  | .str a, .str b => decidable_of_iff (a = b) (by simp)
  | .arr a, .arr b => @decidable_of_iff _ (a = b) (by simp) (decEqArr a b)
  | .obj a, .obj b => @decidable_of_iff _ (a = b) (by simp) (decEqObj a b)
  | .null, .bool _ | .null, .int _ | .null, .real _ | .null, .str _ | .null, .arr _ | .null, .obj _
  | .bool _, .null | .bool _, .int _ | .bool _, .real _ | .bool _, .str _ | .bool _, .arr _
  | .bool _, .obj _ | .int _, .null | .int _, .bool _ | .int _, .real _ | .int _, .str _
  | .int _, .arr _ | .int _, .obj _ | .real _, .null | .real _, .bool _ | .real _, .int _
  | .real _, .str _ | .real _, .arr _ | .real _, .obj _ | .str _, .null | .str _, .bool _
  | .str _, .int _ | .str _, .real _ | .str _, .arr _ | .str _, .obj _ | .arr _, .null
  | .arr _, .bool _ | .arr _, .int _ | .arr _, .real _ | .arr _, .str _ | .arr _, .obj _
  | .obj _, .null | .obj _, .bool _ | .obj _, .int _ | .obj _, .real _ | .obj _, .str _
  | .obj _, .arr _ => .isFalse (by simp)

def decEqArr : (a b : List Json) → Decidable (a = b)
  | [], [] => .isTrue rfl
  | x :: xs, y :: ys =>
    @decidable_of_iff _ (x = y ∧ xs = ys) (by simp)
      (@instDecidableAnd _ _ (decEq x y) (decEqArr xs ys))
  | [], _ :: _ | _ :: _, [] => .isFalse (by simp)

def decEqObj : (a b : List (String × Json)) → Decidable (a = b)
  | [], [] => .isTrue rfl
  | (j, x) :: xs, (k, y) :: ys =>
    @decidable_of_iff _ (j = k ∧ x = y ∧ xs = ys) (by simp [and_assoc])
      (@instDecidableAnd _ _ inferInstance (@instDecidableAnd _ _ (decEq x y) (decEqObj xs ys)))
  | [], _ :: _ | _ :: _, [] => .isFalse (by simp)

end

instance : DecidableEq Json := decEq

def typeName : Json → String
  | .null => "null"
  | .bool _ => "boolean"
  | .int _ | .real _ => "number"
  | .str _ => "string"
  | .arr _ => "array"
  | .obj _ => "object"

def isObject : Json → Bool
  | .obj _ => true
  | _ => false

/-- The exception of a conversion: one of the JSON library, or a `std::runtime_error`. -/
inductive ConvError where
  | json (what : String)
  | runtime (what : String)
  deriving DecidableEq, Repr

abbrev Conv (α : Type) := Except ConvError α

variable {ε α β : Type}

theorem bind_eq_ok {x : Except ε α} {f : α → Except ε β} {b : β} :
    x >>= f = .ok b ↔ ∃ a, x = .ok a ∧ f a = .ok b := by
  cases x with
  | error e => simp [bind, Except.bind]
  | ok a => simp [bind, Except.bind]

theorem pure_eq_ok {a b : α} : (pure a : Except ε α) = .ok b ↔ a = b := by
  simp [pure, Except.pure]

theorem mapM_eq_ok {f : α → Except ε β} {xs : List α} {ys : List β} :
    xs.mapM f = .ok ys ↔ List.Forall₂ (fun x y => f x = .ok y) xs ys := by
  constructor
  · intro h
    induction xs generalizing ys with
    | nil =>
      rw [List.mapM_nil, pure_eq_ok] at h
      rw [← h]
      exact .nil
    | cons x xs ih =>
      rw [List.mapM_cons] at h
      obtain ⟨y, hy, h⟩ := bind_eq_ok.mp h
      obtain ⟨zs, hzs, h⟩ := bind_eq_ok.mp h
      rw [← pure_eq_ok.mp h]
      exact .cons hy (ih hzs)
  · intro h
    induction h with
    | nil => rfl
    | cons hx _ ih =>
      rw [List.mapM_cons]
      exact bind_eq_ok.mpr ⟨_, hx, bind_eq_ok.mpr ⟨_, ih, rfl⟩⟩

theorem mem_mapM_ok {f : α → Except ε β} {xs : List α} {ys : List β} (h : xs.mapM f = .ok ys) {y : β} :
    y ∈ ys ↔ ∃ x ∈ xs, f x = .ok y := by
  induction xs generalizing ys with
  | nil =>
    rw [List.mapM_nil, pure_eq_ok] at h
    simp [← h]
  | cons x xs ih =>
    rw [List.mapM_cons] at h
    obtain ⟨z, hz, h⟩ := bind_eq_ok.mp h
    obtain ⟨zs, hzs, h⟩ := bind_eq_ok.mp h
    rw [← pure_eq_ok.mp h, List.mem_cons, ih hzs]
    simp [hz, eq_comm]

theorem mapM_eq_error {f : α → Except ε β} {xs : List α} {e : ε} :
    xs.mapM f = .error e ↔ ∃ before x after, xs = before ++ x :: after ∧
      (∀ y ∈ before, ∃ z, f y = .ok z) ∧ f x = .error e := by
  induction xs with
  | nil => simp [pure, Except.pure]
  | cons x xs ih =>
    rw [List.mapM_cons]
    cases hx : f x with
    | error e' =>
      show Except.error e' = Except.error e ↔ _
      constructor
      · intro h
        exact ⟨[], x, xs, rfl, by simp, by rw [hx, Except.error.inj h]⟩
      · rintro ⟨before, y, after, hxs, hbefore, hy⟩
        cases before with
        | nil =>
          obtain ⟨rfl, -⟩ := List.cons.inj hxs
          rw [Except.error.inj (hx.symm.trans hy)]
        | cons z before =>
          obtain ⟨rfl, -⟩ := List.cons.inj hxs
          obtain ⟨w, hw⟩ := hbefore x List.mem_cons_self
          cases hx.symm.trans hw
    | ok z =>
      have hmap : (Except.ok z >>= fun r => xs.mapM f >>= fun rs => pure (r :: rs)) = .error e ↔
          xs.mapM f = .error e := by
        show (xs.mapM f >>= fun rs => pure (z :: rs)) = .error e ↔ _
        cases xs.mapM f <;> simp [bind, Except.bind, pure, Except.pure]
      rw [hmap, ih]
      constructor
      · rintro ⟨before, y, after, rfl, hbefore, hy⟩
        refine ⟨x :: before, y, after, rfl, fun w hw => ?_, hy⟩
        rcases List.mem_cons.mp hw with rfl | hw
        · exact ⟨z, hx⟩
        · exact hbefore w hw
      · rintro ⟨before, y, after, hxs, hbefore, hy⟩
        cases before with
        | nil =>
          obtain ⟨rfl, -⟩ := List.cons.inj hxs
          cases hx.symm.trans hy
        | cons w before =>
          obtain ⟨-, rfl⟩ := List.cons.inj hxs
          exact ⟨before, y, after, rfl, fun v hv => hbefore v (List.mem_cons_of_mem _ hv), hy⟩

def typeError (wanted : String) (j : Json) : ConvError :=
  .json ("[json.exception.type_error.302] type must be " ++ wanted ++ ", but is " ++ j.typeName)

def int32 (x : ℤ) : ℤ := (x + 2 ^ 31) % 2 ^ 32 - 2 ^ 31

def int64 (x : ℤ) : ℤ := (x + 2 ^ 63) % 2 ^ 64 - 2 ^ 63

def trunc (q : ℚ) : ℤ := q.num.tdiv q.den

def getInt : Json → Conv ℤ
  | .int i => .ok (int32 i)
  | .real q => .ok (int32 (trunc q))
  | .bool b => .ok (if b then 1 else 0)
  | j => .error (typeError "number" j)

def getLong : Json → Conv ℤ
  | .int i => .ok (int64 i)
  | .real q => .ok (int64 (trunc q))
  | j => .error (typeError "number" j)

def getReal : Json → Conv ℚ
  | .int i => .ok i
  | .real q => .ok q
  | j => .error (typeError "number" j)

def getBool : Json → Conv Bool
  | .bool b => .ok b
  | j => .error (typeError "boolean" j)

def getStr : Json → Conv String
  | .str s => .ok s
  | j => .error (typeError "string" j)

def getList {α : Type} (get : Json → Conv α) : Json → Conv (List α)
  | .arr xs => xs.mapM get
  | j => .error (typeError "array" j)

def getMap {α : Type} (get : Json → Conv α) : Json → Conv (OrdMap String α)
  | .obj ms => do
    let es ← ms.mapM fun (k, v) => do return (k, ← get v)
    return OrdMap.ofList es
  | j => .error (typeError "object" j)

def getOption {α : Type} (get : Json → Conv α) : Json → Conv (Option α)
  | .null => .ok none
  | j => do return some (← get j)

def value {α : Type} (key : String) (get : Json → Conv α) (dflt : α) : Json → Conv α
  | .obj ms =>
    match AssocMap.find? key ms with
    | some v => get v
    | none => .ok dflt
  | j => .error (.json ("[json.exception.type_error.306] cannot use value() with " ++ j.typeName))

def atKey {α : Type} (key : String) (get : Json → Conv α) : Json → Conv α
  | .obj ms =>
    match AssocMap.find? key ms with
    | some v => get v
    | none => .error (.json ("[json.exception.out_of_range.403] key '" ++ key ++ "' not found"))
  | j => .error (.json ("[json.exception.type_error.304] cannot use at() with " ++ j.typeName))

def ofMap {α : Type} (f : α → Json) (m : OrdMap String α) : Json :=
  .obj (m.entries.map fun e => (e.1, f e.2))

end Json

end Fpvd
