import Fpvd.Lib.Layout

/-!
# Fpvd.Lib.JsonMerge — one document merged over another

Objects are merged member by member, everything else is replaced.
-/

namespace Fpvd.Json

open AssocMap hiding insert

mutual

def onto : Option Json → Json → Json
  | some (.obj base), .obj overlay => .obj (mergeInto base overlay)
  | _, v => v

def mergeInto : List (String × Json) → List (String × Json) → List (String × Json)
  | out, [] => out
  | out, (k, v) :: overlay => mergeInto (AssocMap.insert k (onto (find? k out) v) out) overlay

end

theorem members_induction {P : Json → Prop}
    (h : ∀ v, (∀ ms, v = .obj ms → ∀ e ∈ ms, P e.2) → P v) (v : Json) : P v :=
  h v fun ms hv e he => by
    have hlt := List.sizeOf_lt_of_mem he
    obtain ⟨k, u⟩ := e
    simp only [Prod.mk.sizeOf_spec] at hlt
    have hsize : sizeOf u < sizeOf v := by
      rw [hv, Json.obj.sizeOf_spec]
      omega
    exact members_induction h u
termination_by sizeOf v

variable {old : Option Json} {v : Json} {out ov : List (String × Json)}

theorem onto_cases (old : Option Json) (v : Json) : onto old v = v ∨
    ∃ out ov, old = some (.obj out) ∧ v = .obj ov ∧ onto old v = .obj (mergeInto out ov) := by
  unfold onto
  split
  case h_1 out ov => exact .inr ⟨out, ov, rfl, rfl, rfl⟩
  case h_2 => exact .inl rfl

theorem onto_none (v : Json) : onto none v = v :=
  (onto_cases none v).resolve_right fun ⟨_, _, h, _⟩ => nomatch h

theorem onto_leaf (old : Option Json) (h : v.isObject = false) : onto old v = v := by
  rcases onto_cases old v with hv | ⟨_, _, -, rfl, -⟩
  · exact hv
  · cases h

theorem find?_mergeInto (hov : (keys ov).Nodup) (out : List (String × Json)) (k : String) :
    find? k (mergeInto out ov) = match find? k ov with
      | none => find? k out
      | some v => some (onto (find? k out) v) := by
  induction ov generalizing out with
  | nil => rw [mergeInto, find?_nil]
  | cons e ov ih =>
    obtain ⟨j, v⟩ := e
    obtain ⟨hj, hov⟩ := List.nodup_cons.mp hov
    rw [mergeInto, ih hov, find?_cons, find?_insert]
    by_cases hk : k = j
    · subst hk
      rw [if_pos rfl, if_pos rfl, (find?_eq_none_iff k ov).mpr hj]
    · rw [if_neg hk, if_neg hk]

theorem mem_keys_mergeInto (out : List (String × Json)) (k : String) :
    k ∈ keys (mergeInto out ov) ↔ k ∈ keys out ∨ k ∈ keys ov := by
  induction ov generalizing out with
  | nil => simp [mergeInto, keys]
  | cons e ov ih =>
    obtain ⟨j, v⟩ := e
    rw [mergeInto, ih, mem_keys_insert]
    simp only [keys, List.map_cons, List.mem_cons]
    tauto

mutual

theorem ordered_onto : ∀ (old : Option Json) (v : Json),
    (∀ j, old = some j → ordered j = true) → ordered v = true → ordered (onto old v) = true
  | old, .obj ov, hold, hv => by
    rcases onto_cases old (.obj ov) with h | ⟨out, ov', rfl, hov, h⟩
    · rwa [h]
    · obtain rfl := Json.obj.inj hov
      rw [h]
      exact ordered_mergeInto out ov (hold _ rfl) hv
  | _, .null, _, hv | _, .bool _, _, hv | _, .int _, _, hv | _, .real _, _, hv | _, .str _, _, hv
  | _, .arr _, _, hv => by rwa [onto_leaf _ rfl]

theorem ordered_mergeInto : ∀ (out ov : List (String × Json)), ordered (.obj out) = true →
    ordered (.obj ov) = true → ordered (.obj (mergeInto out ov)) = true
  | out, [], hout, _ => by rwa [mergeInto]
  | out, (k, v) :: ov, hout, hov => by
    obtain ⟨hsorted, hmembers⟩ := ordered_obj.mp hout
    obtain ⟨hsorted', hmembers'⟩ := ordered_obj.mp hov
    rw [mergeInto]
    refine ordered_mergeInto _ ov (ordered_obj.mpr ⟨hsorted.insert k _, fun e he => ?_⟩)
      (ordered_obj.mpr ⟨(List.pairwise_cons.mp hsorted').2,
        fun e he => hmembers' e (List.mem_cons_of_mem _ he)⟩)
    have hfind := find?_of_mem (hsorted.insert k _).nodup he
    rw [find?_insert] at hfind
    split_ifs at hfind with hk
    · rw [← Option.some.inj hfind]
      refine ordered_onto _ v (fun j hj => ?_) (hmembers' _ List.mem_cons_self)
      exact hmembers _ (mem_of_find? hj)
    · exact hmembers _ (mem_of_find? hfind)

end

theorem mergeInto_eq_self (hout : ordered (.obj out) = true) (hov : ordered (.obj ov) = true)
    (h : ∀ k v, find? k ov = some v → ∃ w, find? k out = some w ∧ onto (some w) v = w) :
    mergeInto out ov = out := by
  refine (ordered_obj.mp (ordered_mergeInto out ov hout hov)).1.ext_find? (ordered_obj.mp hout).1
    fun k => ?_
  rw [find?_mergeInto (ordered_obj.mp hov).1.nodup]
  cases hk : find? k ov with
  | none => rfl
  | some v =>
    obtain ⟨w, hw, honto⟩ := h k v hk
    rw [hw]
    exact congrArg some honto

theorem onto_idem (old : Option Json) (hv : ordered v = true)
    (hold : ∀ j, old = some j → ordered j = true) : onto (some (onto old v)) v = onto old v := by
  induction v using members_induction generalizing old with
  | _ v ih =>
    rcases onto_cases old v with h | ⟨out, ov, rfl, rfl, h⟩
    · rw [h]
      rcases onto_cases (some v) v with h | ⟨_, ov, -, rfl, -⟩
      · exact h
      · rw [onto]
        refine congrArg Json.obj (mergeInto_eq_self hv hv fun k u hk => ⟨u, hk, ?_⟩)
        have hu := ih ov rfl _ (mem_of_find? hk) none
          ((ordered_obj.mp hv).2 _ (mem_of_find? hk)) nofun
        rwa [onto_none] at hu
    · have hout := hold _ rfl
      rw [h, onto]
      refine congrArg Json.obj (mergeInto_eq_self (ordered_mergeInto out ov hout hv) hv
        fun k u hk => ⟨onto (find? k out) u, ?_, ?_⟩)
      · rw [find?_mergeInto (ordered_obj.mp hv).1.nodup, hk]
      · exact ih ov rfl _ (mem_of_find? hk) _ ((ordered_obj.mp hv).2 _ (mem_of_find? hk))
          fun j hj => (ordered_obj.mp hout).2 _ (mem_of_find? hj)

/-- The overlay writes at a path: it has a leaf there, or an empty object where no object is. -/
def Writes (old : Option Json) (overlay : Json) (p : List String) (v : Json) : Prop :=
  overlay.at? p = some v ∧
    (v.isObject = false ∨ v = .obj [] ∧ ∀ b, old.bind (at? p) = some b → b.isObject = false)

variable {k : String} {p : List String} {bs os : List (String × Json)} {u : Json}

theorem Writes.cons (h : Writes (find? k bs) u p v) (hk : find? k os = some u) :
    Writes (some (.obj bs)) (.obj os) (k :: p) v :=
  ⟨by rw [at?, hk]; exact h.1, h.2⟩

theorem at?_onto {overlay : Json} (old : Option Json) (hoverlay : overlay.ordered = true)
    (h : Writes old overlay p v) : (onto old overlay).at? p = some v := by
  obtain ⟨h, hleaf⟩ := h
  induction p generalizing overlay old with
  | nil =>
    obtain rfl : overlay = v := Option.some.inj h
    rcases hleaf with hleaf | ⟨rfl, hold⟩
    · rw [onto_leaf old hleaf, at?]
    · rcases onto_cases old (.obj []) with hv | ⟨out, _, rfl, -, -⟩
      · rw [hv, at?]
      · cases hold (.obj out) rfl
  | cons k p ih =>
    cases overlay with
    | null | bool | int | real | str | arr => cases h
    | obj os =>
      obtain ⟨u, hu, hv⟩ := Option.bind_eq_some_iff.mp h
      obtain ⟨hsorted, hall⟩ := ordered_obj.mp hoverlay
      rcases onto_cases old (.obj os) with hov | ⟨out, os', rfl, hos, hov⟩
      · rw [hov, h]
      · obtain rfl := Json.obj.inj hos
        rw [hov, at?, find?_mergeInto hsorted.nodup, hu]
        exact ih (find? k out) (hall (k, u) (mem_of_find? hu)) hv hleaf

theorem exists_writes : ∀ (u : Json) (old : Option Json), (∀ b, old = some b → b.isObject = false) →
    ∃ p v, Writes old u p v
  | .obj [], _, hold => ⟨[], .obj [], rfl, .inr ⟨rfl, fun b hb => hold b (by simpa [at?] using hb)⟩⟩
  | .obj ((k, u) :: os), old, hold => by
    obtain ⟨p, v, h, hleaf⟩ := exists_writes u none fun b h => by cases h
    refine ⟨k :: p, v, by rw [at?, find?_cons, if_pos rfl]; exact h, hleaf.imp_right fun h => ⟨h.1, ?_⟩⟩
    intro b hb
    obtain ⟨c, hc, hcb⟩ := Option.bind_eq_some_iff.mp hb
    cases c with
    | obj cs => cases hold _ hc
    | null | bool | int | real | str | arr => cases hcb
  | .null, _, _ | .bool _, _, _ | .int _, _, _ | .real _, _, _ | .str _, _, _ | .arr _, _, _ =>
    ⟨[], _, rfl, .inl rfl⟩

/-- Nothing is written at the path, above it or below it. -/
def Spared (old : Option Json) (overlay : Json) (q : List String) : Prop :=
  ∀ p v, Writes old overlay p v → ¬ p <+: q ∧ ¬ q <+: p

theorem Spared.member (h : Spared (some (.obj bs)) (.obj os) (k :: q)) (hk : find? k os = some u) :
    Spared (find? k bs) u q := by
  intro p v hw
  obtain ⟨h1, h2⟩ := h (k :: p) v (hw.cons hk)
  exact ⟨fun hp => h1 (List.cons_prefix_cons.mpr ⟨rfl, hp⟩),
    fun hq => h2 (List.cons_prefix_cons.mpr ⟨rfl, hq⟩)⟩

theorem at?_onto_of_spared {b : Json} (hu : ordered u = true) (hb : ordered b = true)
    (hs : Spared (some b) u q) (hv : b.at? q = some v) : (onto (some b) u).at? q = some v := by
  induction u using members_induction generalizing b q v with
  | _ u ih =>
    cases u with
    | null | bool | int | real | str | arr => exact absurd List.nil_prefix (hs [] _ ⟨rfl, .inl rfl⟩).1
    | obj os =>
      obtain ⟨hsorted, hos⟩ := ordered_obj.mp hu
      cases b with
      | null | bool | int | real | str | arr =>
        cases q with
        | nil =>
          have hno : ¬ ∃ p w, Writes _ _ p w := fun ⟨p, w, hw⟩ => (hs p w hw).2 List.nil_prefix
          exact absurd (exists_writes _ _ (by rintro _ ⟨⟩; rfl)) hno
        | cons k q => cases hv
      | obj bs =>
        have hbs := (ordered_obj.mp hb).2
        rw [onto]
        cases q with
        | nil =>
          -- nothing at all is written, so every member is there already
          obtain rfl := Option.some.inj hv
          refine congrArg some (congrArg Json.obj (mergeInto_eq_self hb hu fun k u hk => ?_))
          have hnone : ∀ p v, ¬ Writes (find? k bs) u p v :=
            fun p v hw => (hs (k :: p) v (hw.cons hk)).2 List.nil_prefix
          cases hbk : find? k bs with
          | none =>
            obtain ⟨p, v, hw⟩ := exists_writes u none nofun
            exact absurd (hbk ▸ hw) (hnone p v)
          | some b =>
            refine ⟨b, rfl, Option.some.inj (ih os rfl _ (mem_of_find? hk) (hos _ (mem_of_find? hk))
              (hbs _ (mem_of_find? hbk)) (q := []) (fun p v hw => ?_) rfl)⟩
            exact absurd (hbk ▸ hw) (hnone p v)
        | cons k q =>
          obtain ⟨b, hbk, hv⟩ := Option.bind_eq_some_iff.mp hv
          rw [at?, find?_mergeInto hsorted.nodup]
          cases hk : find? k os with
          | none =>
            rw [hbk]
            exact hv
          | some u =>
            rw [hbk]
            exact ih os rfl _ (mem_of_find? hk) (hos _ (mem_of_find? hk)) (hbs _ (mem_of_find? hbk))
              (hbk ▸ hs.member hk) hv

end Fpvd.Json
