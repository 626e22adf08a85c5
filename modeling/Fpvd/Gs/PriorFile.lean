import Mathlib.Data.List.Forall2
import Fpvd.Lib.PyJson
import Fpvd.Gs.Schema

/-!
# Fpvd.Gs.PriorFile — the file of a learned prior (`gs/fpvdgs/dynlink/learned_prior.py`)

A prior is kept in one JSON file for each adapter id, written by `flush` and read by the constructor.
The bytes are read by an arbitrary parser; floats are exact rationals.
-/

namespace Fpvd.Gs

inductive PriorError where
  | py (e : PyError)
  | attributeError
  | recursionError
  deriving DecidableEq, Repr

/-- What `json.load` makes of bytes; text that is nested too deep is a `RecursionError`, all else that it
does not take a `ValueError`. -/
inductive Parsed where
  | doc (v : Json)
  | valueError
  | recursionError
  deriving DecidableEq, Repr

inductive FileState where
  | missing
  | unreadable
  | content (bytes : List UInt8)
  deriving DecidableEq, Repr

def unboundKey : String := "unbound"

def schemaVersion : ℤ := 3

def isSafeChar (c : Char) : Bool :=
  ('A' ≤ c ∧ c ≤ 'Z') ∨ ('a' ≤ c ∧ c ≤ 'z') ∨ ('0' ≤ c ∧ c ≤ '9') ∨ c = '.' ∨ c = '_' ∨ c = '-'

def priorPath (persistDir key : String) : String :=
  persistDir ++ "/" ++ String.ofList (key.toList.map fun c => if isSafeChar c then c else '_') ++ ".json"

namespace KneeModel

def withKnees (m : KneeModel) (knee : List (Option ℚ)) : KneeModel :=
  if h : knee.length = maxMcs + 1 then { m with knee, knee_length := h } else m

def withCounts (m : KneeModel) (count : List ℚ) : KneeModel :=
  if h : count.length = maxMcs + 1 then { m with count, count_length := h } else m

def toDict (m : KneeModel) : Json :=
  .obj [("schema", .int schemaVersion),
    ("knees", .arr (m.knee.map fun k => match k with
      | none => .null
      | some k => .real k)),
    ("counts", .arr (m.count.map .real))]

section Load

variable (py : PyNumbers)

def kneeOf : Json → Except PyError (Option ℚ)
  | .null => .ok none
  | v => some <$> py.toFloat v

def assign (knees counts : List Json) (m : KneeModel) : Except PyError Bool × KneeModel :=
  match knees.mapM (kneeOf py) with
  | .error e => (.error e, m)
  | .ok ks =>
    match counts.mapM py.toFloat with
    | .error e => (.error e, m.withKnees ks)
    | .ok cs => (.ok true, (m.withKnees ks).withCounts cs)

def loadDict (doc : Json) (m : KneeModel) : Except PyError Bool × KneeModel :=
  match doc with
  | .obj d =>
    if ¬ (Dict.getOr d "schema" .null).pyEq (.int schemaVersion) then (.ok false, m)
    else match Dict.getOr d "knees" .null, Dict.getOr d "counts" .null with
      | .arr knees, .arr counts =>
        if knees.length = maxMcs + 1 ∧ counts.length = maxMcs + 1 then assign py knees counts m
        else (.ok false, m)
      | _, _ => (.ok false, m)
  | _ => (.ok false, m)

end Load

end KneeModel

structure LearnedPrior where
  key : String
  snrModel : KneeModel := {}
  deriving DecidableEq

namespace LearnedPrior

def ephemeral (p : LearnedPrior) : Bool := p.key = unboundKey

section File

variable (py : PyNumbers) (parse : List UInt8 → Parsed) (dump : Json → List UInt8)
  (persistDir : String)

def loadDoc (doc : Json) (p : LearnedPrior) : Except PriorError Unit × LearnedPrior :=
  match doc with
  | .obj d =>
    match Dict.got d "snr" with
    | none => (.ok (), p)
    | some snr =>
      match p.snrModel.loadDict py snr with
      | (.error e, m) => (.error (.py e), { p with snrModel := m })
      | (.ok _, m) => (.ok (), { p with snrModel := m })
  | _ => (.error .attributeError, p)

def load (files : String → FileState) (p : LearnedPrior) : Except PriorError Unit × LearnedPrior :=
  if p.ephemeral then (.ok (), p)
  else match files (priorPath persistDir p.key) with
    | .missing | .unreadable => (.ok (), p)
    | .content bytes =>
      match parse bytes with
      | .valueError => (.ok (), p)
      | .recursionError => (.error .recursionError, p)
      | .doc doc => loadDoc py doc p

def init (files : String → FileState) (key : String) : Except PriorError LearnedPrior :=
  match load py parse persistDir files { key } with
  | (.ok (), p) => .ok p
  | (.error e, _) => .error e

def toDoc (p : LearnedPrior) : Json := .obj [("key", .str p.key), ("snr", p.snrModel.toDict)]

def flush (ok : Bool) (files : String → FileState) (p : LearnedPrior) : String → FileState :=
  if p.ephemeral then files
  else if ok then Function.update files (priorPath persistDir p.key) (.content (dump p.toDoc))
  else files

end File

end LearnedPrior

/-! ## The contract -/

def IsKnee (v : Json) (k : Option ℚ) : Prop :=
  (v = .null ∧ k = none) ∨ ∃ q, number? v = some q ∧ k = some q

/-- A well-formed document of the current schema, and the model that it describes. -/
structure Describes (snr : Json) (m : KneeModel) : Prop where
  schema : (Dict.getOr (dictOf snr) "schema" .null).pyEq (.int schemaVersion) = true
  knees : ∃ knees, Dict.getOr (dictOf snr) "knees" .null = .arr knees ∧ List.Forall₂ IsKnee knees m.knee
  counts : ∃ counts, Dict.getOr (dictOf snr) "counts" .null = .arr counts ∧
    List.Forall₂ (fun v c => number? v = some c) counts m.count

/-- The constructor returns, with the model of a well-formed document or with a cold one. -/
def PriorContract (py : PyNumbers) (parse : List UInt8 → Parsed) (persistDir : String)
    (files : String → FileState) (key : String) : Prop :=
  ∃ p, LearnedPrior.init py parse persistDir files key = .ok p ∧
    (p.snrModel = {} ∨
      ∃ bytes d snr, files (priorPath persistDir key) = .content bytes ∧ parse bytes = .doc (.obj d) ∧
        Dict.got d "snr" = some snr ∧ Describes snr p.snrModel)

def fitsFloat : Json → Bool
  | .int i => !overflows i
  | .real _ => true
  | _ => false

/-- The document passes the checks of `load_dict`, with these entries. -/
structure Shaped (snr : Json) (knees counts : List Json) : Prop where
  schema : (Dict.getOr (dictOf snr) "schema" .null).pyEq (.int schemaVersion) = true
  knees_eq : Dict.getOr (dictOf snr) "knees" .null = .arr knees
  counts_eq : Dict.getOr (dictOf snr) "counts" .null = .arr counts
  knees_length : knees.length = maxMcs + 1
  counts_length : counts.length = maxMcs + 1

/-- The entries are numbers, and `null` for a knee, or they read as those of a cold model. -/
def ReadsWhole (py : PyNumbers) (knees counts : List Json) : Prop :=
  ((∀ v ∈ knees, v = .null ∨ fitsFloat v = true) ∧ ∀ v ∈ counts, fitsFloat v = true) ∨
    (∀ v ∈ knees, v = .null) ∧ ∀ v ∈ counts, py.toFloat v = .ok 0

/-- What the parser must make of a content: nothing, or an object whose `snr`, if it has the shape, has
the entries. -/
def SafeContent (py : PyNumbers) : Parsed → Prop
  | .valueError => True
  | .recursionError => False
  | .doc doc => doc.isObject = true ∧ ∀ snr knees counts, Dict.got (dictOf doc) "snr" = some snr →
      Shaped snr knees counts → ReadsWhole py knees counts

section Entries

variable {py : PyNumbers} {v : Json} {knees counts : List Json} {snr : Json} {m : KneeModel}

theorem toFloat_of_fits (h : fitsFloat v = true) : py.toFloat v = .ok ((number? v).getD 0) := by
  cases v with
  | int i =>
    have hfit : overflows i = false := by simpa [fitsFloat] using h
    simp [PyNumbers.toFloat, hfit, number?]
  | real q => rfl
  | null | bool | str | arr | obj => cases h

theorem number?_of_fits (h : fitsFloat v = true) : number? v = some ((number? v).getD 0) := by
  cases v with
  | int | real => rfl
  | null | bool | str | arr | obj => cases h

theorem fits_of_number? {q r : ℚ} (hq : number? v = some q) (hr : py.toFloat v = .ok r) :
    fitsFloat v = true := by
  cases v with
  | int i =>
    rw [PyNumbers.toFloat] at hr
    split_ifs at hr with hover
    simpa [fitsFloat] using hover
  | real q => rfl
  | null | bool | str | arr | obj => cases hq

theorem kneeOf_of_fits (py : PyNumbers) (h : v = .null ∨ fitsFloat v = true) :
    KneeModel.kneeOf py v = .ok (number? v) ∧ IsKnee v (number? v) := by
  rcases h with rfl | hfit
  · exact ⟨rfl, .inl ⟨rfl, rfl⟩⟩
  · have hnum := number?_of_fits hfit
    refine ⟨?_, .inr ⟨_, hnum, hnum⟩⟩
    have hne : KneeModel.kneeOf py v = some <$> py.toFloat v := by
      cases v with
      | null => cases hfit
      | bool | int | real | str | arr | obj => rfl
    rw [hne, toFloat_of_fits hfit]
    exact congrArg Except.ok hnum.symm

theorem fits_of_isKnee {k k' : Option ℚ} (h : KneeModel.kneeOf py v = .ok k) (hk : IsKnee v k') :
    v = .null ∨ fitsFloat v = true := by
  rcases hk with ⟨rfl, -⟩ | ⟨q, hq, -⟩
  · exact .inl rfl
  · right
    cases v with
    | int i =>
      obtain ⟨r, hr, -⟩ : ∃ r, py.toFloat (.int i) = .ok r ∧ some r = k := by
        have h : some <$> py.toFloat (.int i) = .ok k := h
        cases hf : py.toFloat (.int i) with
        | error e =>
          rw [hf] at h
          cases h
        | ok r =>
          rw [hf] at h
          exact ⟨r, rfl, Except.ok.inj h⟩
      exact fits_of_number? hq hr
    | real q => rfl
    | null | bool | str | arr | obj => cases hq

theorem kneeOf_eq_none : KneeModel.kneeOf py v = .ok none ↔ v = .null := by
  constructor
  · intro h
    cases v with
    | null => rfl
    | bool | int | real | str | arr | obj =>
      unfold KneeModel.kneeOf at h
      dsimp only at h
      cases hf : py.toFloat _ <;> rw [hf] at h <;> cases h
  · rintro rfl
    rfl

end Entries

/-! ## `load_dict` -/

section LoadDict

variable {py : PyNumbers} {knees counts : List Json} {snr : Json} {m : KneeModel}
  {ks : List (Option ℚ)} {cs : List ℚ}

theorem KneeModel.eq_iff {m' : KneeModel} : m = m' ↔ m.knee = m'.knee ∧ m.count = m'.count := by
  constructor
  · rintro rfl
    exact ⟨rfl, rfl⟩
  · obtain ⟨knee, count, _, _⟩ := m
    obtain ⟨knee', count', _, _⟩ := m'
    rintro ⟨rfl, rfl⟩
    rfl

theorem KneeModel.with_fields (hks : ks.length = maxMcs + 1) (hcs : cs.length = maxMcs + 1) :
    ((m.withKnees ks).withCounts cs).knee = ks ∧ ((m.withKnees ks).withCounts cs).count = cs := by
  rw [withCounts, dif_pos hcs, withKnees, dif_pos hks]
  exact ⟨rfl, rfl⟩

theorem KneeModel.assign_ok (h : List.Forall₂ (fun v k => kneeOf py v = .ok k) knees ks)
    (h' : List.Forall₂ (fun v c => py.toFloat v = .ok c) counts cs) :
    assign py knees counts m = (.ok true, (m.withKnees ks).withCounts cs) := by
  rw [assign, Json.mapM_eq_ok.mpr h, Json.mapM_eq_ok.mpr h']

theorem KneeModel.assign_cases (py : PyNumbers) (knees counts : List Json) (m : KneeModel) :
    (∃ e m', assign py knees counts m = (.error e, m')) ∨
      ∃ ks cs, List.Forall₂ (fun v k => kneeOf py v = .ok k) knees ks ∧
        List.Forall₂ (fun v c => py.toFloat v = .ok c) counts cs := by
  unfold assign
  cases hks : knees.mapM (kneeOf py) with
  | error e => exact .inl ⟨e, m, rfl⟩
  | ok ks =>
    cases hcs : counts.mapM py.toFloat with
    | error e => exact .inl ⟨e, _, rfl⟩
    | ok cs => exact .inr ⟨ks, cs, Json.mapM_eq_ok.mp hks, Json.mapM_eq_ok.mp hcs⟩

theorem Shaped.loadDict (h : Shaped snr knees counts) :
    m.loadDict py snr = m.assign py knees counts := by
  have hobj : ∃ d, snr = .obj d := by
    cases snr with
    | obj d => exact ⟨d, rfl⟩
    | null | bool | int | real | str | arr =>
      have hnull : Json.null.pyEq (.int schemaVersion) = true := h.schema
      exact absurd hnull (by decide)
  obtain ⟨d, rfl⟩ := hobj
  have hschema : (Dict.getOr d "schema" .null).pyEq (.int schemaVersion) = true := h.schema
  have hknees : Dict.getOr d "knees" .null = .arr knees := h.knees_eq
  have hcounts : Dict.getOr d "counts" .null = .arr counts := h.counts_eq
  rw [KneeModel.loadDict, if_neg (not_not.mpr hschema), hknees, hcounts]
  exact if_pos ⟨h.knees_length, h.counts_length⟩

theorem loadDict_unshaped (h : ∀ knees counts, ¬ Shaped snr knees counts) :
    m.loadDict py snr = (.ok false, m) := by
  cases snr with
  | obj d =>
    rw [KneeModel.loadDict]
    by_cases hschema : (Dict.getOr d "schema" .null).pyEq (.int schemaVersion) = true
    · rw [if_neg (not_not.mpr hschema)]
      cases hknees : Dict.getOr d "knees" .null with
      | arr knees =>
        cases hcounts : Dict.getOr d "counts" .null with
        | arr counts =>
          exact if_neg fun hlen => h knees counts ⟨hschema, hknees, hcounts, hlen.1, hlen.2⟩
        | null | bool | int | real | str | obj => rfl
      | null | bool | int | real | str | obj => rfl
    · exact if_pos hschema
  | null | bool | int | real | str | arr => rfl

theorem Shaped.describes_iff (h : Shaped snr knees counts) : Describes snr m ↔
    List.Forall₂ IsKnee knees m.knee ∧ List.Forall₂ (fun v c => number? v = some c) counts m.count := by
  constructor
  · rintro ⟨-, ⟨ks, hks, hknees⟩, cs, hcs, hcounts⟩
    obtain rfl := Json.arr.inj (h.knees_eq.symm.trans hks)
    obtain rfl := Json.arr.inj (h.counts_eq.symm.trans hcs)
    exact ⟨hknees, hcounts⟩
  · rintro ⟨hknees, hcounts⟩
    exact ⟨h.schema, ⟨knees, h.knees_eq, hknees⟩, counts, h.counts_eq, hcounts⟩

theorem Shaped.assign_iff (h : Shaped snr knees counts) :
    (∃ m, KneeModel.assign py knees counts {} = (.ok true, m) ∧ (m = {} ∨ Describes snr m)) ↔
      ReadsWhole py knees counts := by
  constructor
  · rintro ⟨m, hm, hresult⟩
    rcases KneeModel.assign_cases py knees counts {} with ⟨e, m', he⟩ | ⟨ks, cs, hks, hcs⟩
    · cases hm.symm.trans he
    have hlen := hks.length_eq.symm.trans h.knees_length
    have hlen' := hcs.length_eq.symm.trans h.counts_length
    obtain rfl : m = (KneeModel.withKnees {} ks).withCounts cs :=
      (Prod.mk.inj (hm.symm.trans (KneeModel.assign_ok hks hcs))).2
    obtain ⟨hknee, hcount⟩ := KneeModel.with_fields (m := {}) hlen hlen'
    rcases hresult with hcold | hdesc
    · have hnone : ks = knees.map fun _ => none := by
        rw [← hknee, hcold, List.map_const', h.knees_length]
      have hzero : cs = counts.map fun _ => 0 := by
        rw [← hcount, hcold, List.map_const', h.counts_length]
      rw [hnone, List.forall₂_map_right_iff, List.forall₂_same] at hks
      rw [hzero, List.forall₂_map_right_iff, List.forall₂_same] at hcs
      exact .inr ⟨fun v hv => kneeOf_eq_none.mp (hks v hv), hcs⟩
    · obtain ⟨hdesc, hdesc'⟩ := h.describes_iff.mp hdesc
      rw [hknee] at hdesc
      rw [hcount] at hdesc'
      have hknees : List.Forall₂ (fun v k => (v = .null ∨ fitsFloat v = true) ∧ IsKnee v k) knees ks :=
        List.Forall₂.mp (fun v k hv hk => ⟨fits_of_isKnee hv hk, hk⟩) hks hdesc
      have hcounts : List.Forall₂ (fun v c => fitsFloat v = true ∧ number? v = some c) counts cs :=
        List.Forall₂.mp (fun v c hv hc => ⟨fits_of_number? hc hv, hc⟩) hcs hdesc'
      exact .inl ⟨((List.forall₂_and_left _ _).mp hknees).1, ((List.forall₂_and_left _ _).mp hcounts).1⟩
  · rintro (⟨hknees, hcounts⟩ | ⟨hknees, hcounts⟩)
    · have hks : List.Forall₂ (fun v k => KneeModel.kneeOf py v = .ok k) knees (knees.map number?) :=
        List.forall₂_map_right_iff.mpr
          (List.forall₂_same.mpr fun v hv => (kneeOf_of_fits py (hknees v hv)).1)
      have hcs : List.Forall₂ (fun v c => py.toFloat v = .ok c) counts
          (counts.map fun v => (number? v).getD 0) :=
        List.forall₂_map_right_iff.mpr (List.forall₂_same.mpr fun v hv => toFloat_of_fits (hcounts v hv))
      refine ⟨_, KneeModel.assign_ok hks hcs, .inr (h.describes_iff.mpr ?_)⟩
      obtain ⟨hknee, hcount⟩ := KneeModel.with_fields (m := {})
        (hks.length_eq.symm.trans h.knees_length) (hcs.length_eq.symm.trans h.counts_length)
      rw [hknee, hcount]
      exact ⟨List.forall₂_map_right_iff.mpr
          (List.forall₂_same.mpr fun v hv => (kneeOf_of_fits py (hknees v hv)).2),
        List.forall₂_map_right_iff.mpr
          (List.forall₂_same.mpr fun v hv => number?_of_fits (hcounts v hv))⟩
    · have hks : List.Forall₂ (fun v k => KneeModel.kneeOf py v = .ok k) knees (knees.map fun _ => none) :=
        List.forall₂_map_right_iff.mpr
          (List.forall₂_same.mpr fun v hv => kneeOf_eq_none.mpr (hknees v hv))
      have hcs : List.Forall₂ (fun v c => py.toFloat v = .ok c) counts (counts.map fun _ => 0) :=
        List.forall₂_map_right_iff.mpr (List.forall₂_same.mpr hcounts)
      refine ⟨_, KneeModel.assign_ok hks hcs, .inl (KneeModel.eq_iff.mpr ?_)⟩
      obtain ⟨hknee, hcount⟩ := KneeModel.with_fields (m := {})
        (hks.length_eq.symm.trans h.knees_length) (hcs.length_eq.symm.trans h.counts_length)
      rw [hknee, hcount, List.map_const', List.map_const', h.knees_length, h.counts_length]
      exact ⟨rfl, rfl⟩

end LoadDict

/-! ## The constructor -/

section Init

variable {py : PyNumbers} {parse : List UInt8 → Parsed} {dump : Json → List UInt8}
  {persistDir key : String} {files : String → FileState} {bytes : List UInt8}

theorem init_unbound : LearnedPrior.init py parse persistDir files unboundKey =
    .ok { key := unboundKey } := rfl

theorem init_content (hkey : key ≠ unboundKey) (hfile : files (priorPath persistDir key) = .content bytes) :
    LearnedPrior.init py parse persistDir files key =
      match parse bytes with
      | .valueError => .ok { key }
      | .recursionError => .error .recursionError
      | .doc doc => match LearnedPrior.loadDoc py doc { key } with
        | (.ok (), p) => .ok p
        | (.error e, _) => .error e := by
  have hbound : LearnedPrior.ephemeral { key } = false := decide_eq_false hkey
  rw [LearnedPrior.init, LearnedPrior.load, if_neg (by rw [hbound]; exact Bool.false_ne_true)]
  dsimp only
  rw [hfile]
  dsimp only
  cases parse bytes <;> rfl

theorem init_absent (hfile : ∀ bytes, files (priorPath persistDir key) ≠ .content bytes) :
    LearnedPrior.init py parse persistDir files key = .ok { key } := by
  rw [LearnedPrior.init, LearnedPrior.load]
  by_cases hkey : LearnedPrior.ephemeral { key } = true
  · rw [if_pos hkey]
  · rw [if_neg hkey]
    dsimp only
    cases hf : files (priorPath persistDir key) with
    | missing | unreadable => rfl
    | content bytes => exact absurd hf (hfile bytes)

theorem loadDoc_iff (key : String) (doc : Json) :
    (∃ p, (match LearnedPrior.loadDoc py doc { key } with
        | (.ok (), p) => Except.ok p
        | (.error e, _) => .error e) = .ok p ∧
      (p.snrModel = {} ∨ ∃ d snr, doc = .obj d ∧ Dict.got d "snr" = some snr ∧
        Describes snr p.snrModel)) ↔ SafeContent py (.doc doc) := by
  cases doc with
  | obj d =>
    cases hsnr : Dict.got d "snr" with
    | none =>
      have hload : LearnedPrior.loadDoc py (.obj d) { key } = (.ok (), { key }) := by
        rw [LearnedPrior.loadDoc, hsnr]
      rw [hload]
      refine iff_of_true ⟨_, rfl, .inl rfl⟩ ⟨rfl, fun snr knees counts h => ?_⟩
      cases hsnr.symm.trans h
    | some snr =>
      have hsafe : SafeContent py (.doc (.obj d)) ↔
          ∀ knees counts, Shaped snr knees counts → ReadsWhole py knees counts := by
        constructor
        · rintro ⟨-, h⟩ knees counts
          exact h snr knees counts hsnr
        · intro h
          refine ⟨rfl, fun snr' knees counts hsnr' => ?_⟩
          obtain rfl := Option.some.inj (hsnr.symm.trans hsnr')
          exact h knees counts
      rw [hsafe, LearnedPrior.loadDoc, hsnr]
      dsimp only
      by_cases hshape : ∃ knees counts, Shaped snr knees counts
      · obtain ⟨knees, counts, hshape⟩ := hshape
        have hall : (∀ knees counts, Shaped snr knees counts → ReadsWhole py knees counts) ↔
            ReadsWhole py knees counts := by
          constructor
          · intro h
            exact h knees counts hshape
          · intro h ks cs hshape'
            obtain rfl := Json.arr.inj (hshape.knees_eq.symm.trans hshape'.knees_eq)
            obtain rfl := Json.arr.inj (hshape.counts_eq.symm.trans hshape'.counts_eq)
            exact h
        rw [hall, ← hshape.assign_iff, hshape.loadDict]
        rcases KneeModel.assign_cases py knees counts {} with ⟨e, m, he⟩ | ⟨ks, cs, hks, hcs⟩
        · rw [he]
          constructor
          · rintro ⟨p, hp, -⟩
            cases hp
          · rintro ⟨m', hm', -⟩
            cases hm'
        · rw [KneeModel.assign_ok hks hcs]
          constructor
          · rintro ⟨p, ⟨⟩, hp⟩
            refine ⟨_, rfl, hp.imp_right ?_⟩
            rintro ⟨d', snr', hd, hsnr', hdesc⟩
            obtain rfl := Json.obj.inj hd
            obtain rfl := Option.some.inj (hsnr.symm.trans hsnr')
            exact hdesc
          · rintro ⟨m, ⟨⟩, hm⟩
            exact ⟨_, rfl, hm.imp_right fun hdesc => ⟨d, snr, rfl, hsnr, hdesc⟩⟩
      · rw [loadDict_unshaped fun ks cs h => hshape ⟨ks, cs, h⟩]
        exact iff_of_true ⟨_, rfl, .inl rfl⟩ fun ks cs h => absurd ⟨ks, cs, h⟩ hshape
  | null | bool | int | real | str | arr =>
    refine iff_of_false ?_ fun h => Bool.false_ne_true h.1
    rintro ⟨p, hp, -⟩
    cases hp

theorem priorContract_iff : PriorContract py parse persistDir files key ↔
    key = unboundKey ∨ ∀ bytes, files (priorPath persistDir key) = .content bytes →
      SafeContent py (parse bytes) := by
  by_cases hkey : key = unboundKey
  · subst hkey
    exact iff_of_true ⟨_, init_unbound, .inl rfl⟩ (.inl rfl)
  rw [or_iff_right hkey]
  unfold PriorContract
  cases hf : files (priorPath persistDir key) with
  | missing | unreadable =>
    refine iff_of_true ⟨_, init_absent fun bytes h => ?_, .inl rfl⟩ nofun
    cases hf.symm.trans h
  | content bytes =>
    have hone : (∀ b, FileState.content bytes = .content b → SafeContent py (parse b)) ↔
        SafeContent py (parse bytes) := by
      constructor
      · intro h
        exact h bytes rfl
      · rintro h b ⟨⟩
        exact h
    rw [hone, init_content hkey hf]
    cases hparse : parse bytes with
    | valueError => exact iff_of_true ⟨_, rfl, .inl rfl⟩ trivial
    | recursionError =>
      refine iff_of_false ?_ id
      rintro ⟨p, hp, -⟩
      cases hp
    | doc doc =>
      rw [← loadDoc_iff key doc]
      refine exists_congr fun p => and_congr_right fun _ => or_congr_right ?_
      constructor
      · rintro ⟨b, d, snr, hb, hd, hrest⟩
        obtain rfl := FileState.content.inj hb
        exact ⟨d, snr, Parsed.doc.inj (hparse.symm.trans hd), hrest⟩
      · rintro ⟨d, snr, rfl, hrest⟩
        exact ⟨bytes, d, snr, rfl, hparse, hrest⟩

end Init

/-! ## `flush` -/

section Flush

variable {py : PyNumbers} {parse : List UInt8 → Parsed} {dump : Json → List UInt8}

theorem shaped_toDict (m : KneeModel) : Shaped m.toDict
    (m.knee.map fun k => match k with
      | none => .null
      | some k => .real k)
    (m.count.map .real) where
  schema := rfl
  knees_eq := rfl
  counts_eq := rfl
  knees_length := by rw [List.length_map, m.knee_length]
  counts_length := by rw [List.length_map, m.count_length]

theorem loadDict_toDict (m m' : KneeModel) : m'.loadDict py m.toDict = (.ok true, m) := by
  have hks : List.Forall₂ (fun v k => KneeModel.kneeOf py v = .ok k)
      (m.knee.map fun k => match k with
        | none => .null
        | some k => .real k) m.knee := by
    rw [List.forall₂_map_left_iff, List.forall₂_same]
    intro k _
    cases k <;> rfl
  have hcs : List.Forall₂ (fun v c => py.toFloat v = .ok c) (m.count.map .real) m.count := by
    rw [List.forall₂_map_left_iff, List.forall₂_same]
    exact fun c _ => rfl
  rw [(shaped_toDict m).loadDict, KneeModel.assign_ok hks hcs]
  exact congrArg (Prod.mk _) (KneeModel.eq_iff.mpr (KneeModel.with_fields m.knee_length m.count_length))

theorem init_flush {persistDir : String} {files : String → FileState} {p : LearnedPrior}
    (hkey : p.key ≠ unboundKey) (hjson : parse (dump p.toDoc) = .doc p.toDoc) :
    LearnedPrior.init py parse persistDir (p.flush dump persistDir true files) p.key = .ok p := by
  have hbound : p.ephemeral = false := decide_eq_false hkey
  have hfile : p.flush dump persistDir true files (priorPath persistDir p.key) =
      .content (dump p.toDoc) := by
    rw [LearnedPrior.flush, hbound]
    exact Function.update_self _ _ _
  have hgot : Dict.got [("key", .str p.key), ("snr", p.snrModel.toDict)] "snr" =
      some p.snrModel.toDict := rfl
  have hload : LearnedPrior.loadDoc py p.toDoc { key := p.key } = (.ok (), p) := by
    rw [LearnedPrior.toDoc, LearnedPrior.loadDoc, hgot]
    dsimp only
    rw [loadDict_toDict]
  rw [init_content hkey hfile, hjson]
  dsimp only
  rw [hload]

def listBytes : List UInt8 := [0x5b, 0x5d]

def readsList (bytes : List UInt8) : Parsed := if bytes = listBytes then .doc (.arr []) else .valueError

def listKnee : Json :=
  .obj [("snr", .obj [("schema", .int 3), ("knees", .arr (.arr [] :: List.replicate maxMcs .null)),
    ("counts", .arr (List.replicate (maxMcs + 1) (.int 0)))])]

def noNumbers : PyNumbers := ⟨fun _ => none, fun _ => none⟩

def oneKnee : KneeModel := KneeModel.observe {} 3 12 false {}

end Flush

end Fpvd.Gs
