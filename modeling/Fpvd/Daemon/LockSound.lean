import Fpvd.Daemon.Apply

/-!
# Fpvd.Daemon.LockSound — what a patch can change while dynamic link is enabled

The lock looks at the paths that a patch writes; the change itself is made by `deepMergeJson` and a typed
parse.
-/

namespace Fpvd

open Json

/-! ## Paths -/

def Json.get? : List String → Json → Option Json
  | [], j => some j
  | k :: path, .obj ms => (AssocMap.find? k ms).bind (Json.get? path)
  | _ :: _, _ => none

variable {c : Config} {j v : Json} {path : List String} {k : String}

theorem get?_cons_some (h : j.get? (k :: path) = some v) :
    ∃ ms w, j = .obj ms ∧ AssocMap.find? k ms = some w ∧ w.get? path = some v := by
  cases j with
  | obj ms =>
    obtain ⟨w, hw, hv⟩ := Option.bind_eq_some_iff.mp h
    exact ⟨ms, w, rfl, hw, hv⟩
  | null | bool | int | real | str | arr => cases h

def Comparable (p q : List String) : Prop := p <+: q ∨ q <+: p

theorem comparable_cons {p q : List String} (h : Comparable p q) :
    Comparable (k :: p) (k :: q) :=
  h.imp (List.cons_prefix_cons.mpr ⟨rfl, ·⟩) (List.cons_prefix_cons.mpr ⟨rfl, ·⟩)

/-! ## Written paths -/

mutual

theorem collectWrittenPaths_eq : ∀ (body : Json) (path : List String),
    collectWrittenPaths body path = (collectWrittenPaths body []).map (path ++ ·)
  | .obj [], path => by simp [collectWrittenPaths]
  | .obj (m :: ms), path => by
    rw [collectWrittenPaths, collectWrittenPaths]
    exact collectMembers_eq (m :: ms) path
  | .null, path | .bool _, path | .int _, path | .real _, path | .str _, path | .arr _, path => by
    simp [collectWrittenPaths]

theorem collectMembers_eq : ∀ (ms : List (String × Json)) (path : List String),
    collectMembers ms path = (collectMembers ms []).map (path ++ ·)
  | [], path => by simp [collectMembers]
  | (k, v) :: ms, path => by
    rw [collectMembers, collectMembers, collectWrittenPaths_eq v (path ++ [k]),
      collectWrittenPaths_eq v ([] ++ [k]), collectMembers_eq ms path]
    simp [Function.comp_def]

end

theorem mem_collectMembers {ms : List (String × Json)} (hm : (k, v) ∈ ms) {w : List String}
    (hw : w ∈ collectWrittenPaths v []) : k :: w ∈ collectMembers ms [] := by
  induction ms with
  | nil => cases hm
  | cons e ms ih =>
    obtain ⟨k', v'⟩ := e
    rw [collectMembers, List.mem_append]
    rcases List.mem_cons.mp hm with he | hm
    · cases he
      left
      rw [collectWrittenPaths_eq]
      exact List.mem_map.mpr ⟨w, hw, rfl⟩
    · exact .inr (ih hm)

mutual

theorem exists_written : ∀ body : Json, ∃ w, w ∈ collectWrittenPaths body []
  | .obj [] => ⟨[], by simp [collectWrittenPaths]⟩
  | .obj (m :: ms) => by
    rw [collectWrittenPaths]
    exact exists_member_written m ms
  | .null | .bool _ | .int _ | .real _ | .str _ | .arr _ => ⟨[], by simp [collectWrittenPaths]⟩

theorem exists_member_written : ∀ (m : String × Json) (ms : List (String × Json)),
    ∃ w, w ∈ collectMembers (m :: ms) []
  | (k, v), ms => by
    obtain ⟨w, hw⟩ := exists_written v
    exact ⟨k :: w, mem_collectMembers List.mem_cons_self hw⟩

end

theorem nil_written {body : Json} (h : body.isObject = false) : [] ∈ collectWrittenPaths body [] := by
  cases body with
  | obj ms => cases h
  | null | bool | int | real | str | arr => simp [collectWrittenPaths]

/-! ## Merge -/

/-- The overlay writes nothing on the path's branch. -/
def Spares (overlay : Json) (path : List String) : Prop :=
  ∀ w ∈ collectWrittenPaths overlay [], ¬ Comparable w path

theorem Spares.isObject {overlay : Json} {path : List String} (h : Spares overlay path) :
    overlay.isObject = true := by
  by_contra hne
  exact h [] (nil_written (by simpa using hne)) (.inl List.nil_prefix)

theorem Spares.ne_nil {overlay : Json} (h : Spares overlay path) : path ≠ [] := by
  rintro rfl
  obtain ⟨w, hw⟩ := exists_written overlay
  exact h w hw (.inr List.nil_prefix)

theorem Spares.member {ms : List (String × Json)} (h : Spares (.obj ms) (k :: path)) (hm : (k, v) ∈ ms) :
    Spares v path := by
  intro w hw hcomp
  refine h (k :: w) ?_ (comparable_cons hcomp)
  cases ms with
  | nil => cases hm
  | cons m ms => exact mem_collectMembers hm hw

mutual

theorem get?_deepMerge : ∀ (overlay base : Json) (path : List String) (v : Json),
    Spares overlay path → base.get? path = some v → (deepMergeJson base overlay).get? path = some v
  | .obj os, base, path, v, hs, hv => by
    cases path with
    | nil => exact absurd rfl hs.ne_nil
    | cons k path =>
      obtain ⟨bs, w, rfl, hw, hv⟩ := get?_cons_some hv
      rw [deepMergeJson]
      obtain ⟨w', hw', hv'⟩ := find?_mergeMembers os bs k path v w (fun _ hm => hs.member hm) hw hv
      rw [Json.get?, hw']
      exact hv'
  | .null, _, _, _, hs, _ | .bool _, _, _, _, hs, _ | .int _, _, _, _, hs, _
  | .real _, _, _, _, hs, _ | .str _, _, _, _, hs, _ | .arr _, _, _, _, hs, _ => nomatch hs.isObject

theorem find?_mergeMembers : ∀ (os out : List (String × Json)) (k : String) (path : List String)
    (v w : Json), (∀ o, (k, o) ∈ os → Spares o path) → AssocMap.find? k out = some w →
    w.get? path = some v →
    ∃ w', AssocMap.find? k (mergeMembers out os) = some w' ∧ w'.get? path = some v
  | [], out, k, path, v, w, _, hw, hv => ⟨w, by rw [mergeMembers]; exact hw, hv⟩
  | (k', o) :: os, out, k, path, v, w, hs, hw, hv => by
    rw [mergeMembers]
    have hs' : ∀ o', (k, o') ∈ os → Spares o' path := fun o' hm => hs o' (List.mem_cons_of_mem _ hm)
    by_cases hk : k = k'
    · subst hk
      have ho := hs o List.mem_cons_self
      have hobj : w.isObject = true := by
        cases path with
        | nil => exact absurd rfl ho.ne_nil
        | cons k₁ path =>
          obtain ⟨ms, -, rfl, -⟩ := get?_cons_some hv
          rfl
      simp only [hw, hobj, ho.isObject, Bool.and_self, if_true]
      exact find?_mergeMembers os _ k path v (deepMergeJson w o) hs'
        (by rw [AssocMap.find?_insert, if_pos rfl]) (get?_deepMerge o w path v ho hv)
    · exact find?_mergeMembers os _ k path v w hs'
        (by rw [AssocMap.find?_insert, if_neg hk]; exact hw) hv

end

/-! ## Typed parse -/

theorem value_of_get? {α : Type} {key : String} {get : Json → Conv α} {dflt : α}
    (h : j.get? [key] = some v) : j.value key get dflt = get v := by
  obtain ⟨ms, w, rfl, hw, hv⟩ := get?_cons_some h
  cases hv
  simp [value, hw]

theorem atKey_of_get? {α : Type} {key : String} {get : Json → Conv α} (h : j.get? [key] = some v) :
    j.atKey key get = get v := by
  obtain ⟨ms, w, rfl, hw, hv⟩ := get?_cons_some h
  cases hv
  simp [atKey, hw]

theorem get?_cons_get? (h : j.get? (k :: path) = some v) : ∃ w, j.get? [k] = some w := by
  obtain ⟨ms, w, rfl, hw, -⟩ := get?_cons_some h
  exact ⟨w, by simp [Json.get?, hw]⟩

theorem get?_under {w : Json} (h : j.get? [k] = some w) (path : List String) :
    j.get? (k :: path) = w.get? path := by
  obtain ⟨ms, w', rfl, hw, hv⟩ := get?_cons_some h
  cases hv
  simp [Json.get?, hw]

theorem Link.fromJson_ok {l : Link} (h : Link.fromJson j = .ok l) :
    j.value "txPowerDbm" TxPower.fromJson {} = .ok l.txPowerDbm ∧
      j.value "mcs" getInt 2 = .ok l.mcs ∧ j.value "fec" Fec.fromJson {} = .ok l.fec := by
  simp only [Link.fromJson, bind_eq_ok, pure_eq_ok] at h
  obtain ⟨_, -, _, -, _, htx, _, hmcs, _, hfec, _, -, _, -, _, -, _, -, _, -, _, -, _, -, rfl⟩ := h
  exact ⟨htx, hmcs, hfec⟩

theorem Fec.fromJson_ok {f : Fec} (h : Fec.fromJson j = .ok f) :
    j.value "k" getInt 8 = .ok f.k ∧ j.value "n" getInt 12 = .ok f.n := by
  simp only [Fec.fromJson, bind_eq_ok, pure_eq_ok] at h
  obtain ⟨_, -, _, hk, _, hn, _, -, _, -, rfl⟩ := h
  exact ⟨hk, hn⟩

theorem Video.fromJson_ok {v : Video} (h : Video.fromJson j = .ok v) :
    j.atKey "bitrate" getInt = .ok v.bitrate ∧ j.atKey "qpDelta" getInt = .ok v.qpDelta ∧
      j.atKey "roi" Roi.fromJson = .ok v.roi := by
  simp only [Video.fromJson, bind_eq_ok, pure_eq_ok] at h
  obtain ⟨_, -, _, -, _, -, _, hb, _, -, _, -, _, -, _, hq, _, -, _, hr, rfl⟩ := h
  exact ⟨hb, hq, hr⟩

theorem Roi.fromJson_ok {r : Roi} (h : Roi.fromJson j = .ok r) :
    j.atKey "enabled" getBool = .ok r.enabled ∧ j.atKey "qp" getInt = .ok r.qp ∧
      j.atKey "center" getReal = .ok r.center ∧ j.atKey "steps" getInt = .ok r.steps := by
  simp only [Roi.fromJson, bind_eq_ok, pure_eq_ok] at h
  obtain ⟨_, he, _, hq, _, hc, _, hs, rfl⟩ := h
  exact ⟨he, hq, hc, hs⟩

theorem Config.fromJson_ok (h : Config.fromJson j = .ok c) :
    j.value "link" Link.fromJson {} = .ok c.link ∧ j.value "video" Video.fromJson {} = .ok c.video := by
  simp only [Config.fromJson, bind_eq_ok, pure_eq_ok] at h
  obtain ⟨_, hl, _, hv, _, -, _, -, _, -, _, -, _, -, _, -, rfl⟩ := h
  exact ⟨hl, hv⟩

/-! ## The lock -/

def IsInt (x : ℤ) : Prop := -2 ^ 31 ≤ x ∧ x < 2 ^ 31

theorem int32_of_isInt {x : ℤ} (h : IsInt x) : int32 x = x := by
  obtain ⟨h1, h2⟩ := h
  unfold int32
  rw [Int.emod_eq_of_lt (by omega) (by omega)]
  omega

/-- The locked settings of a configuration are `int`s, as their types say. -/
structure LockedInts (c : Config) : Prop where
  mcs : IsInt c.link.mcs
  k : IsInt c.link.fec.k
  n : IsInt c.link.fec.n
  dbm : IsInt c.link.txPowerDbm.dbm
  bitrate : IsInt c.video.bitrate
  qpDelta : IsInt c.video.qpDelta
  qp : IsInt c.video.roi.qp
  steps : IsInt c.video.roi.steps

/-- The locked settings are the same; powers are compared as the source compares them. -/
structure SameLocked (a b : Config) : Prop where
  mcs : a.link.mcs = b.link.mcs
  k : a.link.fec.k = b.link.fec.k
  n : a.link.fec.n = b.link.fec.n
  txPowerDbm : a.link.txPowerDbm.same b.link.txPowerDbm = true
  bitrate : a.video.bitrate = b.video.bitrate
  qpDelta : a.video.qpDelta = b.video.qpDelta
  roi : a.video.roi = b.video.roi

def PatchReturn.ok : PatchReturn → Bool
  | .result r => r.ok
  | .threw _ => false

theorem TxPower.same_of_parse {t t' : TxPower} (hint : IsInt t.dbm)
    (h : TxPower.fromJson t.toJson = .ok t') : t.same t' = true := by
  obtain ⟨auto, dbm⟩ := t
  cases auto with
  | true =>
    obtain rfl : { automatic := true, dbm := 20 } = t' := by simpa [toJson, fromJson] using h
    rfl
  | false =>
    simp only [toJson, fromJson, getInt, Bool.false_eq_true, if_false, int32_of_isInt hint,
      bind_eq_ok, pure_eq_ok, Except.ok.injEq, exists_eq_left'] at h
    subst h
    simp [TxPower.same]

theorem Roi.eq_of_parse {r r' : Roi} (hqp : IsInt r.qp) (hsteps : IsInt r.steps)
    (h : Roi.fromJson r.toJson = .ok r') : r = r' := by
  obtain ⟨he, hq, hc, hs⟩ := Roi.fromJson_ok h
  rw [atKey_of_get? (v := .bool r.enabled) rfl] at he
  rw [atKey_of_get? (v := .int r.qp) rfl, getInt, int32_of_isInt hqp] at hq
  rw [atKey_of_get? (v := .real r.center) rfl] at hc
  rw [atKey_of_get? (v := .int r.steps) rfl, getInt, int32_of_isInt hsteps] at hs
  cases r
  cases r'
  cases he
  cases hq
  cases hc
  cases hs
  rfl

theorem Link.same_of_parse {l l' : Link} {j : Json} (hmcs : IsInt l.mcs) (hk : IsInt l.fec.k)
    (hn : IsInt l.fec.n) (hdbm : IsInt l.txPowerDbm.dbm)
    (hget : ∀ p ∈ [["mcs"], ["fec", "k"], ["fec", "n"], ["txPowerDbm"]], j.get? p = l.toJson.get? p)
    (h : Link.fromJson j = .ok l') :
    l.mcs = l'.mcs ∧ l.fec.k = l'.fec.k ∧ l.fec.n = l'.fec.n ∧
      l.txPowerDbm.same l'.txPowerDbm = true := by
  have gk : j.get? ["fec", "k"] = some (.int l.fec.k) := hget _ (by decide)
  have gn : j.get? ["fec", "n"] = some (.int l.fec.n) := hget _ (by decide)
  obtain ⟨fj, hfj⟩ := get?_cons_get? gk
  rw [get?_under hfj] at gk gn
  obtain ⟨htx, hm, hfec⟩ := Link.fromJson_ok h
  rw [value_of_get? (hget ["txPowerDbm"] (by decide))] at htx
  rw [value_of_get? (v := .int l.mcs) (hget ["mcs"] (by decide)), getInt, int32_of_isInt hmcs] at hm
  rw [value_of_get? hfj] at hfec
  obtain ⟨hk', hn'⟩ := Fec.fromJson_ok hfec
  rw [value_of_get? gk, getInt, int32_of_isInt hk] at hk'
  rw [value_of_get? gn, getInt, int32_of_isInt hn] at hn'
  exact ⟨Except.ok.inj hm, Except.ok.inj hk', Except.ok.inj hn', TxPower.same_of_parse hdbm htx⟩

theorem Video.same_of_parse {v v' : Video} (hbitrate : IsInt v.bitrate) (hdelta : IsInt v.qpDelta)
    (hqp : IsInt v.roi.qp) (hsteps : IsInt v.roi.steps)
    (hget : ∀ p ∈ [["bitrate"], ["qpDelta"], ["roi"]], j.get? p = v.toJson.get? p)
    (h : Video.fromJson j = .ok v') :
    v.bitrate = v'.bitrate ∧ v.qpDelta = v'.qpDelta ∧ v.roi = v'.roi := by
  obtain ⟨hb, hq, hr⟩ := Video.fromJson_ok h
  rw [atKey_of_get? (v := .int v.bitrate) (hget ["bitrate"] (by decide)), getInt,
    int32_of_isInt hbitrate] at hb
  rw [atKey_of_get? (v := .int v.qpDelta) (hget ["qpDelta"] (by decide)), getInt,
    int32_of_isInt hdelta] at hq
  rw [atKey_of_get? (hget ["roi"] (by decide))] at hr
  exact ⟨Except.ok.inj hb, Except.ok.inj hq, Roi.eq_of_parse hqp hsteps hr⟩

theorem sameLocked_of_get? {c' : Config} (hint : LockedInts c)
    (hget : ∀ p ∈ kLockedPaths, j.get? p = c.toJson.get? p) (hparse : Config.fromJson j = .ok c') :
    SameLocked c c' := by
  obtain ⟨hlink, hvideo⟩ := Config.fromJson_ok hparse
  obtain ⟨lj, hlj⟩ := get?_cons_get?
    (show j.get? ["link", "mcs"] = some (.int c.link.mcs) from hget _ (by decide))
  obtain ⟨vj, hvj⟩ := get?_cons_get?
    (show j.get? ["video", "bitrate"] = some (.int c.video.bitrate) from hget _ (by decide))
  rw [value_of_get? hlj] at hlink
  rw [value_of_get? hvj] at hvideo
  obtain ⟨hmcs, hk, hn, htx⟩ := Link.same_of_parse hint.mcs hint.k hint.n hint.dbm (j := lj)
    (fun p hp => by
      rw [← get?_under hlj]
      exact hget ("link" :: p) (by revert p; decide)) hlink
  obtain ⟨hb, hq, hr⟩ := Video.same_of_parse hint.bitrate hint.qpDelta hint.qp hint.steps (j := vj)
    (fun p hp => by
      rw [← get?_under hvj]
      exact hget ("video" :: p) (by revert p; decide)) hvideo
  exact ⟨hmcs, hk, hn, htx, hb, hq, hr⟩

theorem get?_of_unlocked {patch : Json} {candidate : Config} (hobj : patch.isObject = true)
    (hon : candidate.dynamicLink.enabled = true)
    (hlock : (checkDynamicLinkLock patch candidate).ok = true) :
    ∀ p ∈ kLockedPaths, (deepMergeJson c.toJson patch).get? p = c.toJson.get? p := by
  intro p hp
  obtain ⟨v, hv⟩ : ∃ v, c.toJson.get? p = some v := by
    revert p
    simp only [kLockedPaths, List.forall_mem_cons]
    refine ⟨⟨_, rfl⟩, ⟨_, rfl⟩, ⟨_, rfl⟩, ⟨_, rfl⟩, ⟨_, rfl⟩, ⟨_, rfl⟩, ⟨_, rfl⟩, ?_⟩
    rintro p ⟨⟩
  rw [hv]
  by_cases hempty : patch = .obj []
  · subst hempty
    simpa [Config.toJson, deepMergeJson, mergeMembers] using hv
  · refine get?_deepMerge patch _ p v (fun w hw hcomp => ?_) hv
    simp only [checkDynamicLinkLock, hon, hobj, hempty, Bool.not_true, Bool.false_eq_true, if_false,
      List.isEmpty_iff, List.map_eq_nil_iff, List.filter_eq_nil_iff, List.any_eq_true, not_exists,
      not_and] at hlock
    refine hlock w hw p hp ?_
    simpa [Comparable, isUnderPrefix, isAncestorOf, or_comm] using hcomp

theorem patchPending_ok {patch : Json} {pending : Config}
    (h : (patchPending patch pending).1.ok = true) :
    ∃ candidate, Config.fromJson (deepMergeJson pending.toJson patch) = .ok candidate ∧
      (checkDynamicLinkLock patch candidate).ok = true ∧
      (patchPending patch pending).2 = candidate := by
  unfold patchPending at h ⊢
  cases hparse : Config.fromJson (deepMergeJson pending.toJson patch) with
  | error e => cases e <;> simp [hparse, PatchReturn.ok] at h
  | ok candidate =>
    simp only [hparse] at h ⊢
    cases hlock : (checkDynamicLinkLock patch candidate).ok with
    | false => simp [hlock, PatchReturn.ok] at h
    | true =>
      simp only [hlock, Bool.not_true, Bool.false_eq_true, if_false] at h ⊢
      by_cases hvalid : validate candidate ≠ []
      · simp [hvalid, PatchReturn.ok] at h
      · exact ⟨candidate, rfl, hlock, by rw [if_neg hvalid]⟩

theorem isObject_of_parse (h : Config.fromJson j = .ok c) :
    j.isObject = true := by
  have hlink := (Config.fromJson_ok h).1
  cases j with
  | obj ms => rfl
  | null | bool | int | real | str | arr => cases hlink

/-- **The dynamic-link lock is sound**: an accepted patch that leaves dynamic link enabled changes no
locked setting. -/
theorem lock_sound (patch : Json) (pending : Config) (hint : LockedInts pending)
    (hok : (patchPending patch pending).1.ok = true)
    (hon : (patchPending patch pending).2.dynamicLink.enabled = true) :
    SameLocked pending (patchPending patch pending).2 := by
  obtain ⟨candidate, hparse, hlock, hres⟩ := patchPending_ok hok
  rw [hres] at hon ⊢
  have hobj : patch.isObject = true := by
    by_contra hne
    -- a patch that is no object replaces the whole document
    have hmerge : deepMergeJson pending.toJson patch = patch := by
      cases patch <;> first | rfl | exact absurd rfl hne
    rw [hmerge] at hparse
    exact hne (isObject_of_parse hparse)
  exact sameLocked_of_get? hint (get?_of_unlocked hobj hon hlock) hparse

/-- Dynamic link is turned on, and the channel changed with it. -/
theorem lock_sound_enable :
    SameLocked {} (patchPending (.obj [("dynamicLink", .obj [("enabled", .bool true)]),
      ("link", .obj [("channel", .int 100)])]) {}).2 :=
  lock_sound _ {} (by constructor <;> exact ⟨by decide, by decide⟩) (by decide +kernel)
    (by decide +kernel)

/-! ## Parsed settings are `int`s -/

theorem isInt_getInt {x : ℤ} (h : getInt j = .ok x) : IsInt x := by
  have hint32 : ∀ y, IsInt (int32 y) := fun y => by
    unfold int32
    constructor <;> omega
  cases j with
  | int i => cases h; exact hint32 i
  | real q => cases h; exact hint32 _
  | bool b => cases h; cases b <;> exact ⟨by decide, by decide⟩
  | null | str | arr | obj => cases h

section Parsed

variable {α : Type} {P : α → Prop} {get : Json → Conv α} {key : String} {j : Json} {a : α}

theorem value_ok {dflt : α} (hget : ∀ v a, get v = .ok a → P a) (hdflt : P dflt)
    (h : j.value key get dflt = .ok a) : P a := by
  cases j with
  | obj ms =>
    rw [value] at h
    split at h
    · exact hget _ a h
    · cases h
      exact hdflt
  | null | bool | int | real | str | arr => cases h

theorem atKey_ok (hget : ∀ v a, get v = .ok a → P a) (h : j.atKey key get = .ok a) : P a := by
  cases j with
  | obj ms =>
    rw [atKey] at h
    split at h
    · exact hget _ a h
    · cases h
  | null | bool | int | real | str | arr => cases h

end Parsed

theorem isInt_txPower {t : TxPower} (h : TxPower.fromJson j = .ok t) : IsInt t.dbm := by
  cases j with
  | str s =>
    rw [TxPower.fromJson] at h
    split_ifs at h
    cases h
    exact ⟨by decide, by decide⟩
  | null | bool | int | real | arr | obj =>
    obtain ⟨x, hx, ht⟩ := bind_eq_ok.mp h
    cases ht
    exact isInt_getInt hx

theorem lockedInts_parsed (h : Config.fromJson j = .ok c) : LockedInts c := by
  have hsmall : ∀ x : ℤ, -100 ≤ x → x ≤ 10000 → IsInt x := fun x h1 h2 => ⟨by omega, by omega⟩
  obtain ⟨hlink, hvideo⟩ := Config.fromJson_ok h
  have hfec : ∀ v f, Fec.fromJson v = .ok f → IsInt f.k ∧ IsInt f.n := fun v f hf => by
    obtain ⟨hk, hn⟩ := Fec.fromJson_ok hf
    exact ⟨value_ok (fun _ _ => isInt_getInt) (hsmall 8 (by decide) (by decide)) hk,
      value_ok (fun _ _ => isInt_getInt) (hsmall 12 (by decide) (by decide)) hn⟩
  obtain ⟨hmcs, hk, hn, hdbm⟩ : IsInt c.link.mcs ∧ IsInt c.link.fec.k ∧ IsInt c.link.fec.n ∧
      IsInt c.link.txPowerDbm.dbm := by
    refine value_ok (P := fun l : Link => IsInt l.mcs ∧ IsInt l.fec.k ∧ IsInt l.fec.n ∧
      IsInt l.txPowerDbm.dbm) (fun v l hl => ?_) ?_ hlink
    · obtain ⟨htx, hm, hf⟩ := Link.fromJson_ok hl
      obtain ⟨hk, hn⟩ := value_ok hfec ⟨hsmall 8 (by decide) (by decide),
        hsmall 12 (by decide) (by decide)⟩ hf
      exact ⟨value_ok (fun _ _ => isInt_getInt) (hsmall 2 (by decide) (by decide)) hm, hk, hn,
        value_ok (P := fun t : TxPower => IsInt t.dbm) (fun _ _ => isInt_txPower)
          (hsmall 20 (by decide) (by decide)) htx⟩
    · exact ⟨hsmall _ (by decide) (by decide), hsmall _ (by decide) (by decide),
        hsmall _ (by decide) (by decide), hsmall _ (by decide) (by decide)⟩
  obtain ⟨hb, hq, hqp, hs⟩ : IsInt c.video.bitrate ∧ IsInt c.video.qpDelta ∧
      IsInt c.video.roi.qp ∧ IsInt c.video.roi.steps := by
    refine value_ok (P := fun v : Video => IsInt v.bitrate ∧ IsInt v.qpDelta ∧ IsInt v.roi.qp ∧
      IsInt v.roi.steps) (fun w v hv => ?_) ?_ hvideo
    · obtain ⟨hb, hq, hr⟩ := Video.fromJson_ok hv
      obtain ⟨hqp, hs⟩ := atKey_ok (P := fun r : Roi => IsInt r.qp ∧ IsInt r.steps) (fun v r hr => by
        obtain ⟨-, hqp, -, hs⟩ := Roi.fromJson_ok hr
        exact ⟨atKey_ok (fun _ _ => isInt_getInt) hqp, atKey_ok (fun _ _ => isInt_getInt) hs⟩) hr
      exact ⟨atKey_ok (fun _ _ => isInt_getInt) hb, atKey_ok (fun _ _ => isInt_getInt) hq, hqp, hs⟩
    · exact ⟨hsmall _ (by decide) (by decide), hsmall _ (by decide) (by decide),
        hsmall _ (by decide) (by decide), hsmall _ (by decide) (by decide)⟩
  exact ⟨hmcs, hk, hn, hdbm, hb, hq, hqp, hs⟩

end Fpvd
