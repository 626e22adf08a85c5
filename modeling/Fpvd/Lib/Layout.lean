import Mathlib.Tactic
import Fpvd.Lib.JsonPath

/-!
# Fpvd.Lib.Layout — typed documents and what survives a read

A program reads a document into its own types and writes those back.  A layout says where the types have
single values, and which of those are integers of a fixed width.
-/

namespace Fpvd

namespace Json

mutual

def ordered : Json → Bool
  | .arr xs => orderedArr xs
  | .obj ms => decide ((AssocMap.keys ms).Pairwise (· < ·)) && orderedObj ms
  | _ => true

def orderedArr : List Json → Bool
  | [] => true
  | x :: xs => ordered x && orderedArr xs

def orderedObj : List (String × Json) → Bool
  | [] => true
  | (_, v) :: ms => ordered v && orderedObj ms

end

variable {ms : List (String × Json)}

theorem orderedObj_iff :
    orderedObj ms = true ↔ ∀ e ∈ ms, ordered e.2 = true := by
  induction ms with
  | nil => simp [orderedObj]
  | cons e ms ih => rw [orderedObj, Bool.and_eq_true, ih, List.forall_mem_cons]

theorem ordered_obj :
    ordered (.obj ms) = true ↔ AssocMap.Sorted ms ∧ ∀ e ∈ ms, ordered e.2 = true := by
  rw [ordered, Bool.and_eq_true, decide_eq_true_iff, orderedObj_iff, AssocMap.Sorted]

theorem ordered_ofMap {α : Type} {put : α → Json} (hput : ∀ a, (put a).ordered = true)
    (m : OrdMap String α) : (ofMap put m).ordered = true := by
  refine ordered_obj.mpr ⟨?_, fun e he => ?_⟩
  · have hkeys : AssocMap.keys (m.entries.map fun e => (e.1, put e.2)) = m.keys := by
      simp [AssocMap.keys, OrdMap.keys]
    rw [AssocMap.Sorted, hkeys]
    exact m.sorted
  · obtain ⟨e, -, rfl⟩ := List.mem_map.mp he
    exact hput e.2

theorem ordered_texts (xs : List String) : (Json.arr (xs.map Json.str)).ordered = true := by
  rw [ordered]
  induction xs with
  | nil => rfl
  | cons x xs ih =>
    rw [List.map_cons, orderedArr, ih]
    rfl

def same : Json → Json → Bool
  | .int i, .real q => (i : ℚ) = q
  | .real q, .int i => q = i
  | a, b => a = b

theorem same_refl (j : Json) : j.same j = true := by cases j <;> simp [same]

end Json

/-- A value whose objects have their keys in order. -/
structure Document where
  json : Json
  ordered : json.ordered = true

/-- What a typed document holds at a path. -/
inductive Layout where
  /-- an integer of some bits; what stands there may also be no number at all -/
  | int (bits : ℕ)
  /-- any other single value -/
  | plain
  | block (fields : List (String × Layout))
  | map (entry : Layout)

namespace Layout

def at? : List String → Layout → Option Layout
  | [], l => some l
  | k :: p, .block fields => (AssocMap.find? k fields).bind (at? p)
  | _ :: p, .map entry => entry.at? p
  | _ :: _, _ => none

def keys : Layout → List String
  | .block fields => AssocMap.keys fields
  | _ => []

def InRange (bits : ℕ) (i : ℤ) : Prop := -2 ^ (bits - 1) ≤ i ∧ i < 2 ^ (bits - 1)

instance (bits : ℕ) (i : ℤ) : Decidable (InRange bits i) := inferInstanceAs (Decidable (_ ∧ _))

/-- The type keeps the value: at an integer there is no fraction, no number out of range and no
Boolean. -/
def fits : Layout → Json → Bool
  | .int bits, .int i => InRange bits i
  | .int bits, .real q => q.den = 1 ∧ InRange bits q.num
  | .int _, .bool _ => false
  | _, _ => true

end Layout

theorem Json.ordered_block {ms : List (String × Json)} (l : Layout) (hkeys : AssocMap.keys ms = l.keys)
    (hsorted : l.keys.Pairwise (· < ·)) (hmembers : orderedObj ms = true) :
    ordered (.obj ms) = true := by
  refine ordered_obj.mpr ⟨?_, orderedObj_iff.mp hmembers⟩
  rwa [AssocMap.Sorted, hkeys]

/-- What was read from `j` is written back as `out`. -/
def Carries (l : Layout) (j out : Json) : Prop :=
  ∀ p v t, j.at? p = some v → v.isObject = false → l.at? p = some t →
    ∃ w, out.at? p = some w ∧ (v.same w = true ↔ t.fits v = true)

/-- The members of `ms` are written back under the same keys. -/
inductive CarriesAll (ms : List (String × Json)) :
    List (String × Layout) → List (String × Json) → Prop
  | nil : CarriesAll ms [] []
  | cons {k : String} {l : Layout} {o : Json} {fields : List (String × Layout)}
      {os : List (String × Json)} (head : ∀ v, AssocMap.find? k ms = some v → Carries l v o)
      (tail : CarriesAll ms fields os) : CarriesAll ms ((k, l) :: fields) ((k, o) :: os)

section Carries

variable {l : Layout} {j out : Json} {ms os : List (String × Json)} {fields : List (String × Layout)}

theorem Carries.leaf (hl : ∀ k p, l.at? (k :: p) = none)
    (h : j.same out = true ↔ l.fits j = true) : Carries l j out := by
  intro p v t hv _ ht
  cases p with
  | nil =>
    obtain rfl : j = v := Option.some.inj hv
    obtain rfl : l = t := Option.some.inj ht
    exact ⟨out, rfl, h⟩
  | cons k p =>
    rw [hl] at ht
    cases ht

theorem Carries.int {bits : ℕ} (h : j.same out = true ↔ (Layout.int bits).fits j = true) :
    Carries (.int bits) j out := .leaf (fun _ _ => rfl) h

theorem Carries.plain (h : j.same out = true) : Carries .plain j out :=
  .leaf (fun _ _ => rfl) (iff_of_true h rfl)

theorem CarriesAll.find? (h : CarriesAll ms fields os) {k : String}
    (hk : AssocMap.find? k fields = some l) :
    ∃ o, AssocMap.find? k os = some o ∧ ∀ v, AssocMap.find? k ms = some v → Carries l v o := by
  induction h with
  | nil => cases hk
  | @cons k' l' o fields os head tail ih =>
    rw [AssocMap.find?_cons] at hk ⊢
    by_cases heq : k = k'
    · rw [if_pos heq] at hk ⊢
      obtain rfl : l' = l := Option.some.inj hk
      exact ⟨o, rfl, heq ▸ head⟩
    · rw [if_neg heq] at hk ⊢
      exact ih hk

theorem Carries.obj (h : ∀ k v t p, AssocMap.find? k ms = some v → l.at? (k :: p) = some t →
      ∃ o s, AssocMap.find? k os = some o ∧ s.at? p = some t ∧ Carries s v o) :
    Carries l (.obj ms) (.obj os) := by
  intro p v t hv hleaf ht
  cases p with
  | nil =>
    obtain rfl : Json.obj ms = v := Option.some.inj hv
    cases hleaf
  | cons k p =>
    obtain ⟨u, hu, hv⟩ := Option.bind_eq_some_iff.mp hv
    obtain ⟨o, s, ho, hs, hcarries⟩ := h k u t p hu ht
    obtain ⟨w, hw, hsame⟩ := hcarries p v t hv hleaf hs
    exact ⟨w, by rw [Json.at?, ho, Option.bind_some, hw], hsame⟩

theorem Carries.block (h : CarriesAll ms fields os) : Carries (.block fields) (.obj ms) (.obj os) := by
  refine .obj fun k v t p hv ht => ?_
  obtain ⟨s, hs, ht⟩ := Option.bind_eq_some_iff.mp ht
  obtain ⟨o, ho, hcarries⟩ := h.find? hs
  exact ⟨o, s, ho, ht, hcarries v hv⟩

theorem Carries.map (h : ∀ k v, AssocMap.find? k ms = some v →
      ∃ o, AssocMap.find? k os = some o ∧ Carries l v o) : Carries (.map l) (.obj ms) (.obj os) := by
  refine .obj fun k v t p hv ht => ?_
  obtain ⟨o, ho, hcarries⟩ := h k v hv
  exact ⟨o, l, ho, ht, hcarries⟩

end Carries

/-! ## The typed reads -/

namespace Json

variable {j : Json} {ms : List (String × Json)}

theorem int32_eq_iff (i : ℤ) : int32 i = i ↔ Layout.InRange 32 i := by
  unfold int32 Layout.InRange
  omega

theorem int64_eq_iff (i : ℤ) : int64 i = i ↔ Layout.InRange 64 i := by
  unfold int64 Layout.InRange
  omega

theorem real_eq_cast {cast : ℤ → ℤ} {q : ℚ} :
    q = (cast (trunc q) : ℚ) ↔ q.den = 1 ∧ cast q.num = q.num := by
  constructor
  · intro h
    have hden : q.den = 1 := by rw [h, Rat.den_intCast]
    have htrunc : trunc q = q.num := by simp [trunc, hden]
    rw [htrunc] at h
    refine ⟨hden, ?_⟩
    have hnum : q.num = cast q.num := by
      conv_lhs => rw [h]
      exact Rat.num_intCast _
    exact hnum.symm
  · rintro ⟨hden, hnum⟩
    have htrunc : trunc q = q.num := by simp [trunc, hden]
    rw [htrunc, hnum]
    exact (Rat.coe_int_num_of_den_eq_one hden).symm

theorem getInt_carries {a : ℤ} (h : getInt j = .ok a) : Carries (.int 32) j (.int a) := by
  refine .int ?_
  cases j with
  | int i =>
    obtain rfl := Except.ok.inj h
    simpa [same, Layout.fits, eq_comm] using int32_eq_iff i
  | real q =>
    obtain rfl := Except.ok.inj h
    simp [same, Layout.fits, real_eq_cast, int32_eq_iff]
  | bool b => simp [same, Layout.fits]
  | null | str | arr | obj => cases h

theorem getLong_carries {a : ℤ} (h : getLong j = .ok a) : Carries (.int 64) j (.int a) := by
  refine .int ?_
  cases j with
  | int i =>
    obtain rfl := Except.ok.inj h
    simpa [same, Layout.fits, eq_comm] using int64_eq_iff i
  | real q =>
    obtain rfl := Except.ok.inj h
    simp [same, Layout.fits, real_eq_cast, int64_eq_iff]
  | null | bool | str | arr | obj => cases h

theorem getReal_carries {a : ℚ} (h : getReal j = .ok a) : Carries .plain j (.real a) := by
  refine .plain ?_
  cases j with
  | int i | real q =>
    obtain rfl := Except.ok.inj h
    simp [same]
  | null | bool | str | arr | obj => cases h

theorem getBool_carries {a : Bool} (h : getBool j = .ok a) : Carries .plain j (.bool a) := by
  refine .plain ?_
  cases j with
  | bool b =>
    obtain rfl := Except.ok.inj h
    exact same_refl _
  | null | int | real | str | arr | obj => cases h

theorem getStr_ok {s : String} : getStr j = .ok s ↔ j = .str s := by
  cases j <;> simp [getStr]

theorem getStr_carries {a : String} (h : getStr j = .ok a) : Carries .plain j (.str a) := by
  rw [getStr_ok.mp h]
  exact .plain (same_refl _)

theorem getOption_carries {a : Option String} (h : getOption getStr j = .ok a) :
    Carries .plain j ((a.map Json.str).getD .null) := by
  refine .plain ?_
  cases j with
  | null =>
    obtain rfl := Except.ok.inj h
    rfl
  | bool | int | real | str | arr | obj =>
    obtain ⟨s, hs, hpure⟩ := bind_eq_ok.mp h
    rw [getStr_ok.mp hs, ← pure_eq_ok.mp hpure]
    exact same_refl _

theorem mapM_getStr {xs : List Json} {ys : List String} (h : xs.mapM getStr = .ok ys) :
    xs = ys.map Json.str := by
  rw [← List.forall₂_eq_eq_eq, List.forall₂_map_right_iff]
  exact (mapM_eq_ok.mp h).imp fun _ _ => getStr_ok.mp

theorem getList_carries {a : List String} (h : getList getStr j = .ok a) :
    Carries .plain j (.arr (a.map Json.str)) := by
  refine .plain ?_
  cases j with
  | arr xs =>
    rw [mapM_getStr h]
    exact same_refl _
  | null | bool | int | real | str | obj => cases h

section Member

variable {α : Type} {key : String} {get : Json → Conv α} {put : α → Json} {dflt a : α} {l : Layout}

theorem value_isObject (h : j.value key get dflt = .ok a) : ∃ ms, j = .obj ms := by
  cases j with
  | obj ms => exact ⟨ms, rfl⟩
  | null | bool | int | real | str | arr => cases h

theorem atKey_isObject (h : j.atKey key get = .ok a) : ∃ ms, j = .obj ms := by
  cases j with
  | obj ms => exact ⟨ms, rfl⟩
  | null | bool | int | real | str | arr => cases h

theorem value_read (h : (Json.obj ms).value key get dflt = .ok a) {v : Json}
    (hv : AssocMap.find? key ms = some v) : get v = .ok a := by
  rwa [value, hv] at h

theorem atKey_read (h : (Json.obj ms).atKey key get = .ok a) {v : Json}
    (hv : AssocMap.find? key ms = some v) : get v = .ok a := by
  rwa [atKey, hv] at h

theorem find?_ofMap (k : String) (m : OrdMap String α) :
    AssocMap.find? k (m.entries.map fun e => (e.1, put e.2)) = (m.find? k).map put := by
  unfold OrdMap.find?
  induction m.entries with
  | nil => rfl
  | cons e es ih =>
    rw [List.map_cons, AssocMap.find?_cons, ih, AssocMap.find?_cons]
    split_ifs <;> rfl

theorem getMap_read {m : OrdMap String α} (h : getMap get (.obj ms) = .ok m)
    (hnodup : (AssocMap.keys ms).Nodup) {k : String} {v : Json} (hv : AssocMap.find? k ms = some v) :
    ∃ a, get v = .ok a ∧ m.find? k = some a := by
  obtain ⟨es, hes, hm⟩ := bind_eq_ok.mp h
  have hentry : ∀ {e : String × Json} {e' : String × α},
      (do return (e.1, ← get e.2) : Conv (String × α)) = .ok e' → e.1 = e'.1 ∧ get e.2 = .ok e'.2 := by
    intro e e' he
    obtain ⟨a, ha, hpure⟩ := bind_eq_ok.mp he
    rw [← pure_eq_ok.mp hpure]
    exact ⟨rfl, ha⟩
  have hkeys : AssocMap.keys ms = AssocMap.keys es := by
    unfold AssocMap.keys
    rw [← List.forall₂_eq_eq_eq, List.forall₂_map_left_iff, List.forall₂_map_right_iff]
    exact (mapM_eq_ok.mp hes).imp fun _ _ he => (hentry he).1
  -- the key has an entry, and that was read from the one value it has
  have hk : k ∈ AssocMap.keys es := by
    rw [← hkeys, ← AssocMap.find?_isSome_iff, hv]
    rfl
  obtain ⟨⟨k', a⟩, hmem, rfl⟩ := List.mem_map.mp hk
  obtain ⟨⟨k, v'⟩, he, hread⟩ := (mem_mapM_ok hes).mp hmem
  obtain ⟨hfst, hget⟩ := hentry (e := (k, v')) hread
  obtain rfl : k = k' := hfst
  obtain rfl : v' = v := Option.some.inj ((AssocMap.find?_of_mem hnodup he).symm.trans hv)
  refine ⟨a, hget, ?_⟩
  rw [← pure_eq_ok.mp hm]
  exact OrdMap.find?_ofList (hkeys ▸ hnodup) hmem

theorem getMap_carries {m : OrdMap String α} (hj : j.ordered = true)
    (hget : ∀ v a, v.ordered = true → get v = .ok a → Carries l v (put a))
    (h : getMap get j = .ok m) : Carries (.map l) j (ofMap put m) := by
  cases j with
  | obj ms =>
    obtain ⟨hsorted, hall⟩ := ordered_obj.mp hj
    refine .map fun k v hv => ?_
    obtain ⟨a, ha, hfind⟩ := getMap_read h hsorted.nodup hv
    refine ⟨put a, ?_, hget v a (hall (k, v) (AssocMap.mem_of_find? hv)) ha⟩
    rw [find?_ofMap, hfind, Option.map_some]
  | null | bool | int | real | str | arr => cases h

end Member

end Json

section Fields

variable {ms os : List (String × Json)} {fields : List (String × Layout)} {α : Type} {key : String}
  {get : Json → Json.Conv α} {dflt a : α} {l : Layout} {o : Json}

theorem CarriesAll.value (hget : ∀ {v}, get v = .ok a → Carries l v o)
    (h : (Json.obj ms).value key get dflt = .ok a) (tail : CarriesAll ms fields os) :
    CarriesAll ms ((key, l) :: fields) ((key, o) :: os) :=
  .cons (fun _ hv => hget (Json.value_read h hv)) tail

theorem CarriesAll.atKey (hget : ∀ {v}, get v = .ok a → Carries l v o)
    (h : (Json.obj ms).atKey key get = .ok a) (tail : CarriesAll ms fields os) :
    CarriesAll ms ((key, l) :: fields) ((key, o) :: os) :=
  .cons (fun _ hv => hget (Json.atKey_read h hv)) tail

end Fields

end Fpvd
