import Fpvd.Config.Store
import Fpvd.Daemon.LockSound

/-!
# Fpvd.Daemon.Ingest — the error contract of configuration ingestion

A patch and a configuration file are merged over a configuration and converted.  Both callers catch the
exceptions of the JSON library, and no others.
-/

namespace Fpvd

open Json

/-- What a call of `patchPending` promises: it returns; a refused patch leaves the pending configuration
alone; after an accepted one that is valid, and has the patch's values at every path that the schema
knows. -/
structure PatchContract (pending : Config) (patch : Json) : Prop where
  returns : ∃ r, (patchPending patch pending).1 = .result r
  kept : (patchPending patch pending).1.ok = false → (patchPending patch pending).2 = pending
  valid : (patchPending patch pending).1.ok = true → validate (patchPending patch pending).2 = []
  agrees : (patchPending patch pending).1.ok = true → ∀ p v, patch.at? p = some v →
    v.isObject = false → (Config.layout.at? p).isSome = true →
      ∃ w, (patchPending patch pending).2.toJson.at? p = some w ∧ v.same w = true

/-- What a call of `loadEffective` promises: a configuration, or a `StoreError`. -/
def LoadContract (parse : String → Except String Document) (file : Option String) : Prop :=
  (∃ c, (loadEffective parse file).2 = .ok c) ∨
    ∃ what, (loadEffective parse file).2 = .error (.store what)

/-- Every single value of the patch at a known path is one that its type keeps. -/
def NumbersFit (patch : Json) : Prop :=
  ∀ p v t, patch.at? p = some v → v.isObject = false → Config.layout.at? p = some t →
    t.fits v = true

section Patch

variable {pending : Config} {patch : Json}

theorem patchPending_cases (pending : Config) (patch : Json) :
    (∃ what, Config.fromJson (deepMergeJson pending.toJson patch) = .error (.runtime what) ∧
        patchPending patch pending = (.threw what, pending)) ∨
      (∃ r, r.ok = false ∧ patchPending patch pending = (.result r, pending)) ∨
      ∃ candidate, Config.fromJson (deepMergeJson pending.toJson patch) = .ok candidate ∧
        validate candidate = [] ∧ patchPending patch pending = (.result {}, candidate) := by
  unfold patchPending
  cases hparse : Config.fromJson (deepMergeJson pending.toJson patch) with
  | error e =>
    cases e with
    | json what => exact .inr (.inl ⟨_, rfl, rfl⟩)
    | runtime what => exact .inl ⟨what, rfl, rfl⟩
  | ok candidate =>
    dsimp only
    split_ifs with hlock hvalid
    · exact .inr (.inl ⟨_, rfl, rfl⟩)
    · exact .inr (.inl ⟨_, rfl, rfl⟩)
    · exact .inr (.inr ⟨candidate, rfl, not_not.mp hvalid, rfl⟩)

theorem accepted_carries (hpatch : patch.ordered = true) {candidate : Config}
    (hparse : Config.fromJson (deepMergeJson pending.toJson patch) = .ok candidate) :
    Carries Config.layout patch candidate.toJson := by
  intro p v t hv hleaf ht
  have hmerged := ordered_deepMerge patch pending.toJson pending.ordered_toJson hpatch
  exact Config.carries hmerged hparse p v t (at?_deepMerge _ hpatch hv hleaf) hleaf ht

theorem throws_iff (pending : Config) (hpatch : patch.ordered = true) :
    (∃ what, Config.fromJson (deepMergeJson pending.toJson patch) = .error (.runtime what)) ↔
      refusesPower patch = true := by
  rw [throws_iff_refusesPower, refusesPower_deepMerge pending hpatch]

theorem patchContract_iff (hpatch : patch.ordered = true) : PatchContract pending patch ↔
    refusesPower patch = false ∧ ((patchPending patch pending).1.ok = true → NumbersFit patch) := by
  rw [← Bool.not_eq_true, ← throws_iff pending hpatch]
  rcases patchPending_cases pending patch with ⟨what, hparse, h⟩ | ⟨r, hr, h⟩ |
    ⟨candidate, hparse, hvalid, h⟩
  · refine iff_of_false (fun hc => ?_) fun hc => hc.1 ⟨what, hparse⟩
    obtain ⟨r, hr⟩ := hc.returns
    rw [h] at hr
    cases hr
  · have hnot : (patchPending patch pending).1.ok ≠ true := by
      rw [h]
      simp [PatchReturn.ok, hr]
    refine iff_of_true ⟨⟨r, by rw [h]⟩, fun _ => by rw [h], fun hok => absurd hok hnot,
      fun hok => absurd hok hnot⟩ ⟨?_, fun hok => absurd hok hnot⟩
    rintro ⟨what, hparse⟩
    unfold patchPending at h
    rw [hparse] at h
    cases h
  · have hok : (patchPending patch pending).1.ok = true := by rw [h]; rfl
    have hcarries := accepted_carries hpatch hparse
    constructor
    · intro hc
      refine ⟨?_, fun _ p v t hv hleaf ht => ?_⟩
      · rintro ⟨what, hthrew⟩
        cases hparse.symm.trans hthrew
      · obtain ⟨w, hw, hsame⟩ := hcarries p v t hv hleaf ht
        obtain ⟨w', hw', hagrees⟩ := hc.agrees hok p v hv hleaf (by rw [ht]; rfl)
        rw [h] at hw'
        rw [Option.some.inj (hw.symm.trans hw')] at hsame
        exact hsame.mp hagrees
    · rintro ⟨-, hfit⟩
      refine ⟨⟨{}, by rw [h]⟩, fun hno => ?_, fun _ => by rw [h]; exact hvalid, ?_⟩
      · rw [hok] at hno
        cases hno
      · intro _ p v hv hleaf hknown
        obtain ⟨t, ht⟩ := Option.isSome_iff_exists.mp hknown
        obtain ⟨w, hw, hsame⟩ := hcarries p v t hv hleaf ht
        exact ⟨w, by rw [h]; exact hw, hsame.mpr (hfit hok p v t hv hleaf ht)⟩

end Patch

section Load

variable {parse : String → Except String Document} {text : String}

theorem loadContract_unparsed {what : String} (hparse : parse text = .error what) :
    LoadContract parse (some text) := by
  refine .inr ⟨"config parse error: " ++ what, ?_⟩
  rw [loadEffective, hparse]

theorem loadContract_parsed {doc : Document} (hparse : parse text = .ok doc) :
    LoadContract parse (some text) ↔ refusesPower doc.json = false := by
  rw [← Bool.not_eq_true, ← throws_iff {} doc.ordered]
  unfold LoadContract
  rw [loadEffective, hparse]
  dsimp only
  cases Config.fromJson (deepMergeJson (Config.toJson {}) doc.json) with
  | ok c => exact iff_of_true (.inl ⟨c, rfl⟩) nofun
  | error e =>
    cases e with
    | json what => exact iff_of_true (.inr ⟨_, rfl⟩) nofun
    | runtime what =>
      refine iff_of_false ?_ (not_not_intro ⟨what, rfl⟩)
      rintro (⟨c, h⟩ | ⟨what', h⟩)
      · cases h
      · cases h

theorem loadContract_iff (parse : String → Except String Document) (file : Option String) :
    LoadContract parse file ↔
      ∀ text doc, file = some text → parse text = .ok doc → refusesPower doc.json = false := by
  cases file with
  | none => exact iff_of_true (.inl ⟨{}, rfl⟩) nofun
  | some text =>
    constructor
    · rintro h text' doc ⟨⟩ hdoc
      exact (loadContract_parsed hdoc).mp h
    · intro h
      cases hparse : parse text with
      | error what => exact loadContract_unparsed hparse
      | ok doc => exact (loadContract_parsed hparse).mpr (h text doc rfl hparse)

end Load

def highPower : Document where
  json := .obj [("link", .obj [("txPowerDbm", .str "high")])]
  ordered := by decide

def halfFrame : Document where
  json := .obj [("video", .obj [("fps", .real (61 / 2))])]
  ordered := by decide

end Fpvd
