import Fpvd.Gs.Decide
import Fpvd.Wfb.Graph

/-!
# Fpvd.Wfb.Wiring — which accepted configurations can be wired (`gs/fpvdgs/wfb/graph.py`)

`validate_effective` and the builders of the graph read a configuration on their own.
-/

namespace Fpvd.Wfb

open Gs AssocMap

/-! ## The MAVLink peer -/

section Peer

variable {cs before after host port : List Char} {s : String}

theorem partition_append {sep : List Char} (h : partition sep cs = some (before, after)) :
    cs = before ++ (sep ++ after) := by
  induction cs generalizing before with
  | nil =>
    rw [partition] at h
    split_ifs at h with hsep
    obtain ⟨rfl, rfl⟩ := Prod.mk.inj (Option.some.inj h)
    rw [hsep]
    rfl
  | cons c cs ih =>
    rw [partition] at h
    split_ifs at h with hpre
    · obtain ⟨rfl, rfl⟩ := Prod.mk.inj (Option.some.inj h)
      obtain ⟨rest, hrest⟩ := List.isPrefixOf_iff_prefix.mp hpre
      rw [← hrest, List.drop_left, List.nil_append]
    · obtain ⟨⟨b, a⟩, hrec, heq⟩ := Option.map_eq_some_iff.mp h
      obtain ⟨rfl, rfl⟩ := Prod.mk.inj heq
      rw [List.cons_append, ← ih hrec]

theorem partition_notMem {c : Char} (h : partition [c] cs = some (before, after)) : c ∉ before := by
  induction cs generalizing before with
  | nil => cases h
  | cons d cs ih =>
    rw [partition] at h
    split_ifs at h with hpre
    · obtain ⟨rfl, -⟩ := Prod.mk.inj (Option.some.inj h)
      exact List.not_mem_nil
    · obtain ⟨⟨b, a⟩, hrec, heq⟩ := Option.map_eq_some_iff.mp h
      obtain ⟨rfl, rfl⟩ := Prod.mk.inj heq
      have hd : c ≠ d := by
        rintro rfl
        simp at hpre
      exact List.not_mem_cons_of_ne_of_not_mem hd (ih hrec)

theorem rpartition_spec {c : Char} (h : rpartition c cs = some (before, after)) :
    cs = before ++ c :: after ∧ c ∉ after := by
  obtain ⟨⟨x, y⟩, hpart, heq⟩ := Option.map_eq_some_iff.mp h
  obtain ⟨rfl, rfl⟩ := Prod.mk.inj heq
  refine ⟨?_, fun hmem => partition_notMem hpart (List.mem_reverse.mp hmem)⟩
  have hrev := congrArg List.reverse (partition_append hpart)
  simpa using hrev

def peerParts (s : String) : Option (List Char × List Char) :=
  (partition "://".toList s.toList).bind fun (_, rest) => rpartition ':' rest

/-- The host and the port of a peer are what the pattern of the service takes. -/
def PlainPeer (s : String) : Prop :=
  ∀ host port, peerParts s = some (host, port) →
    ':' ∉ host ∧ '/' ∉ host ∧ ∀ c ∈ port, c.isDigit = true

theorem isHostPort_iff (hport : ':' ∉ port) : isHostPort (host ++ ':' :: port) = true ↔
    host ≠ [] ∧ port ≠ [] ∧ ':' ∉ host ∧ '/' ∉ host ∧ ∀ c ∈ port, c.isDigit = true := by
  unfold isHostPort
  rw [List.span_eq_takeWhile_dropWhile]
  constructor
  · intro h
    split at h
    case h_1 addr port' heq =>
      obtain ⟨haddr, hrest⟩ := Prod.mk.inj heq
      simp only [Bool.and_eq_true, decide_eq_true_eq, List.all_eq_true] at h
      obtain ⟨⟨hne, hport'⟩, hdigit⟩ := h
      -- the colon where the address stops is the last one, since digits follow it
      have hsplit : addr ++ ':' :: port' = host ++ ':' :: port := by
        rw [← haddr, ← hrest, List.takeWhile_append_dropWhile]
      have hplain : ∀ c ∈ addr, c ≠ ':' ∧ c ≠ '/' := by
        intro c hc
        rw [← haddr] at hc
        simpa using List.mem_takeWhile_imp hc
      have hcolon : ':' ∉ addr := fun hmem => (hplain _ hmem).1 rfl
      have hcolon' : ':' ∉ port' := fun hmem => absurd (hdigit _ hmem) (by decide)
      obtain ⟨rfl, -, rfl⟩ := (List.append_cons_inj_of_notMem hcolon hcolon').mp hsplit
      exact ⟨hne, hport', hcolon, fun hmem => (hplain _ hmem).2 rfl, hdigit⟩
    case h_2 => cases h
  · rintro ⟨hne, hne', hcolon, hslash, hdigit⟩
    have hplain : ∀ c ∈ host, (c ≠ ':' && c ≠ '/') = true := by
      intro c hc
      have h1 : c ≠ ':' := fun h => hcolon (h ▸ hc)
      have h2 : c ≠ '/' := fun h => hslash (h ▸ hc)
      simp [h1, h2]
    rw [List.takeWhile_append_of_pos hplain, List.dropWhile_append_of_pos hplain]
    simpa [hne, hne'] using hdigit

theorem isPeerAddress_connect (rest : List Char) :
    isPeerAddress ("connect".toList ++ ("://".toList ++ rest)) = isHostPort rest := by
  simp [isPeerAddress, List.isPrefixOf]

theorem isPeerAddress_listen (rest : List Char) :
    isPeerAddress ("listen".toList ++ ("://".toList ++ rest)) = isHostPort rest := by
  simp [isPeerAddress, List.isPrefixOf]

/-- **The check of the peer and the pattern of the service.**  The check does not look into the host,
and its digits are those of `str.isdigit`. -/
theorem peerMatches_iff {isDigit : String → Bool}
    (hdigit : ∀ s, isDigit s = true → s ≠ "" ∧ '\n' ∉ s.toList) (h : isPeer isDigit s = true) :
    peerMatches (.str s) = true ↔ PlainPeer s := by
  unfold isPeer at h
  split at h
  case h_1 => cases h
  case h_2 scheme rest hscheme =>
    split at h
    case h_1 => cases h
    case h_2 host port hrest =>
      simp only [Bool.and_eq_true, decide_eq_true_eq] at h
      obtain ⟨⟨hmem, hhost⟩, hdig⟩ := h
      obtain ⟨hempty, hnewline⟩ := hdigit _ hdig
      obtain ⟨hcut, hcolon⟩ := rpartition_spec hrest
      have hs := partition_append hscheme
      have hparts : peerParts s = some (host, port) := by
        rw [peerParts, hscheme]
        exact hrest
      have hport : port ≠ [] := fun hnil => hempty (by rw [hnil])
      have haddress : isPeerAddress s.toList = isHostPort rest := by
        rw [hs]
        simp only [List.mem_cons, List.not_mem_nil, or_false] at hmem
        rcases hmem with hconnect | hlisten
        · rw [← String.toList_ofList (l := scheme), hconnect]
          exact isPeerAddress_connect rest
        · rw [← String.toList_ofList (l := scheme), hlisten]
          exact isPeerAddress_listen rest
      -- the port has no newline, so the address does not end with one
      have hlast : s.toList.getLast? ≠ some '\n' := by
        obtain ⟨front, last, rfl⟩ := List.eq_nil_or_concat port |>.resolve_left hport
        rw [hs, hcut]
        simp only [List.getLast?_append, List.getLast?_cons, List.concat_eq_append, Option.some_or,
          Option.getD_some, ne_eq, Option.some.injEq]
        rintro rfl
        exact hnewline (by simp)
      rw [peerMatches, haddress, hcut, decide_eq_false hlast, Bool.false_and, Bool.or_false,
        isHostPort_iff hcolon]
      constructor
      · rintro ⟨-, -, hplain⟩ host' port' hparts'
        obtain ⟨rfl, rfl⟩ := Prod.mk.inj (Option.some.inj (hparts.symm.trans hparts'))
        exact hplain
      · exact fun hplain => ⟨hhost, hport, hplain host port hparts⟩

end Peer

/-! ## What returns -/

section Returns

variable {ε α β : Type}

def Returns (x : Except ε α) : Prop := ∃ a, x = .ok a

@[simp] theorem returns_ok (a : α) : Returns (.ok a : Except ε α) := ⟨a, rfl⟩

@[simp] theorem returns_pure (a : α) : Returns (pure a : Except ε α) := ⟨a, rfl⟩

@[simp] theorem returns_error (e : ε) : ¬ Returns (.error e : Except ε α) := nofun

variable {x : Except ε α} {f : α → Except ε β}

theorem returns_bind :
    Returns (x >>= f) ↔ ∃ a, x = .ok a ∧ Returns (f a) := by
  cases x with
  | error e => exact ⟨nofun, nofun⟩
  | ok a => exact ⟨fun h => ⟨a, rfl, h⟩, by rintro ⟨_, ⟨⟩, h⟩; exact h⟩

theorem returns_bind_const {P : Prop} (hf : ∀ a, x = .ok a → (Returns (f a) ↔ P)) :
    Returns (x >>= f) ↔ Returns x ∧ P := by
  rw [returns_bind]
  constructor
  · rintro ⟨a, hx, h⟩
    exact ⟨⟨a, hx⟩, (hf a hx).mp h⟩
  · rintro ⟨⟨a, hx⟩, h⟩
    exact ⟨a, hx, (hf a hx).mpr h⟩

theorem returns_bind_pure {g : α → β} :
    Returns (x >>= fun a => pure (g a)) ↔ Returns x := by
  rw [returns_bind_const (P := True) fun _ _ => by simp, and_true]

theorem returns_mapM {xs : List α} :
    Returns (xs.mapM f) ↔ ∀ x ∈ xs, Returns (f x) := by
  induction xs with
  | nil => simp
  | cons x xs ih =>
    rw [List.mapM_cons, List.forall_mem_cons, ← ih]
    exact returns_bind_const fun y _ => returns_bind_pure

end Returns

/-! ## The blocks of an accepted configuration -/

def linkBlock (cfg : Dict) : Dict := dictOf (cfg.getOr "link" (.obj []))

def wfbBlock (cfg : Dict) : Dict := dictOf (cfg.getOr "wfb" (.obj []))

section Accepted

variable {pl : Platform} {cfg : Dict} {t : PyText}

theorem orEmpty_eq {v : Json} (h : v = .null ∨ v.isObject = true) : orEmpty v = .ok (dictOf v) := by
  rcases h with rfl | h
  · rfl
  · cases v with
    | obj d =>
      cases d with
      | nil => rfl
      | cons e d => rfl
    | _ => cases h

theorem find?_of_got {m : Dict} {k : String} {v : Json} (h : m.got k = some v) :
    find? k m = some v := by
  unfold Dict.got at h
  split at h
  · cases h
  · exact h

theorem getOr_block {m : Dict} {k : String} {d : Json} (hd : d = .null ∨ d.isObject = true)
    (h : ∀ v, m.got k = some v → v.isObject = true) :
    m.getOr k d = .null ∨ (m.getOr k d).isObject = true := by
  unfold Dict.getOr
  unfold Dict.got at h
  cases hv : find? k m with
  | none => exact hd
  | some v =>
    rw [hv] at h
    cases v with
    | null => exact .inl rfl
    | _ => exact .inr (h _ rfl)

/-- **What the check says about the blocks that the builders read.** -/
structure Accepted (pl : Platform) (cfg : Dict) : Prop where
  link : cfg.getOr "link" (.obj []) = .obj (linkBlock cfg)
  width : ∀ w, (linkBlock cfg).got "width" = some w → (number? w).isSome = true
  channel : ((linkBlock cfg).getOr "channel" .null).truthy = true
  cards : Passes (forBlock (fun cards => if cards = .str "auto" then [] else validateCards cards)
    ((linkBlock cfg).got "cards"))
  parsed : Returns (parseCards pl.py (linkBlock cfg))
  dynamicLink : ∀ dl, cfg.got "dynamicLink" = some dl → dl.isObject = true
  tap : ∀ tap, (dictOf (cfg.getOr "dynamicLink" (.obj []))).got "tap" = some tap → tap.isObject = true
  probe : ∀ probe, (dictOf (cfg.getOr "dynamicLink" (.obj []))).got "probe" = some probe →
    probe.isObject = true
  wfb : ∀ wfb, cfg.got "wfb" = some wfb → wfb.isObject = true
  mavlink : ∀ mav, (wfbBlock cfg).got "mavlink" = some mav → ∃ (d : Dict) (s : String), mav = .obj d ∧
    d.got "peer" = some (.str s) ∧ s ≠ "" ∧ isPeer pl.isDigit s = true

theorem isObject_of_block {checks : Json → List (Option PyError)} {v : Option Json} (text : String)
    (hhead : ∀ v, raiseIf (¬ v.isObject) text ∈ checks v) (h : Passes (forBlock checks v)) (w : Json)
    (hw : v = some w) : w.isObject = true := by
  rw [hw] at h
  simpa using h _ (hhead w)

theorem dlBlock_passes (h : Passes (dynamicLinkPart cfg)) :
    Passes (dynamicLinkChecks (dictOf (cfg.getOr "dynamicLink" (.obj [])))) := by
  unfold dynamicLinkPart at h
  unfold Dict.got at h
  unfold Dict.getOr
  cases hv : find? "dynamicLink" cfg with
  | none => decide +kernel
  | some v =>
    rw [hv] at h
    cases v with
    | null => decide +kernel
    | _ =>
      rw [passes_append, passes_liftChecks] at h
      exact h.2

theorem accepted_mavlink {wfb : Dict} (h : Passes (validateWfb pl.isDigit (.obj wfb))) {mav : Json}
    (hmav : wfb.got "mavlink" = some mav) : ∃ (d : Dict) (s : String), mav = .obj d ∧
      d.got "peer" = some (.str s) ∧ s ≠ "" ∧ isPeer pl.isDigit s = true := by
  simp only [validateWfb, dictOf, passes_append] at h
  have hcheck := h.2
  rw [hmav] at hcheck
  simp only [forBlock, passes_cons] at hcheck
  obtain ⟨hobj, hpeer⟩ := hcheck
  cases mav with
  | obj d =>
    refine ⟨d, ?_⟩
    unfold validateMavlinkPeer at hpeer
    split at hpeer
    case h_1 s hs =>
      refine ⟨s, rfl, hs, ?_⟩
      simpa [Passes] using hpeer
    case h_2 => simp at hpeer
  | _ => simp [Json.isObject] at hobj

theorem accepted_of_valid (h : validateEffective pl cfg = .ok ()) : Accepted pl cfg := by
  rw [validateEffective_ok, effectiveChecks_eq] at h
  simp only [passes_append, passes_cons, passes_liftChecks, linkChecks] at h
  obtain ⟨⟨hform, -⟩, ⟨⟨⟨⟨hwidth, -, hchannel, -⟩, -⟩, hcards⟩, hsingle, -⟩, hdl, -, -, -, -, hwfb⟩ := h
  have hlink : cfg.getOr "link" (.obj []) = .obj (linkBlock cfg) := by
    unfold linkBlock
    cases hv : cfg.getOr "link" (.obj []) with
    | obj d => rfl
    | _ =>
      rw [hv] at hform
      cases hform
  have hdlChecks := dlBlock_passes hdl
  simp only [dynamicLinkChecks, passes_append] at hdlChecks
  obtain ⟨⟨⟨⟨⟨⟨⟨-, htap⟩, hprobe⟩, -⟩, -⟩, -⟩, -⟩, -⟩ := hdlChecks
  refine ⟨hlink, fun w hw => ?_, ?_, hcards, ?_, fun dl hv => ?_,
    isObject_of_block "dynamicLink.tap must be an object" (fun v => List.mem_cons_self) htap,
    isObject_of_block "dynamicLink.probe must be an object" (fun v => List.mem_cons_self) hprobe,
    isObject_of_block "wfb must be an object" (fun v => List.mem_cons_self) hwfb, fun mav hmav => ?_⟩
  · unfold linkBlock at hw
    rw [hw] at hwidth
    simp only [validateWidth, passes_append, passes_cons] at hwidth
    have hany := hwidth.1.2.1
    simp only [schemaErrorIf, Option.map_eq_none_iff, raiseIf_eq_none, decide_eq_false_iff_not,
      not_not] at hany
    exact isSome_of_any hany
  · simpa [schemaErrorIf, linkBlock] using hchannel
  · unfold validateSingleRemoteHost at hsingle
    unfold linkBlock
    cases hparse : parseCards pl.py (dictOf (cfg.getOr "link" (.obj []))) with
    | ok parsed => exact returns_ok parsed
    | error e =>
      rw [hparse] at hsingle
      cases hv : e.valueError? <;> simp [hv] at hsingle
  · rw [dynamicLinkPart, hv] at hdl
    obtain ⟨d, rfl⟩ := passes_dynamicLinkForm.mp (passes_append.mp hdl).1
    rfl
  · unfold wfbBlock Dict.getOr at hmav
    unfold Dict.got at hwfb
    cases hv : find? "wfb" cfg with
    | none =>
      rw [hv] at hmav
      cases hmav
    | some v =>
      rw [hv] at hmav hwfb
      cases v with
      | obj wfb => exact accepted_mavlink hwfb hmav
      | _ => cases hmav

end Accepted

/-! ## The local graph -/

section Front

variable {pl : Platform} {cfg : Dict} {t : PyText}

def rawSorts (t : PyText) (raw : Json) : Bool :=
  !raw.truthy || match raw with
    | .obj _ | .str _ => true
    | .arr xs => t.sorts xs
    | _ => false

theorem warnRaw_returns (raw : Json) : Returns (warnRaw t raw) ↔ rawSorts t raw = true := by
  unfold rawSorts warnRaw
  cases htruthy : raw.truthy with
  | false => simp
  | true =>
    cases raw with
    | arr xs => cases hs : t.sorts xs <;> simp [hs]
    | _ => simp

theorem uplinkBandwidth_returns {width : Json} :
    Returns (uplinkBandwidth width) ↔ (ordinal? width).isSome = true := by
  unfold uplinkBandwidth
  cases ordinal? width <;> simp

theorem ordinal_of_number {v : Json} (h : (number? v).isSome = true) : (ordinal? v).isSome = true := by
  cases v with
  | int i => rfl
  | real q => rfl
  | _ => cases h

theorem width_ordinal (h : Accepted pl cfg) :
    (ordinal? ((linkBlock cfg).getOr "width" (.int 20))).isSome = true ↔
      find? "width" (linkBlock cfg) ≠ some .null := by
  have hwidth := h.width
  unfold Dict.got at hwidth
  unfold Dict.getOr
  cases hv : find? "width" (linkBlock cfg) with
  | none => simp [ordinal?, number?]
  | some v =>
    rw [hv] at hwidth
    cases v with
    | null => simp [ordinal?, number?]
    | _ => simpa using ordinal_of_number (hwidth _ rfl)

theorem graphFront_eq (h : Accepted pl cfg) : ∃ tap : Dict, graphFront t cfg = (do
    let _ ← warnRaw t ((wfbBlock cfg).getOr "raw" .null)
    let bandwidth ← uplinkBandwidth ((linkBlock cfg).getOr "width" (.int 20))
    return {
      link := linkBlock cfg
      wfb := wfbBlock cfg
      bandwidth := t.str bandwidth
      videoKey := if ((linkBlock cfg).getOr "videoEncryption" (.bool true)).truthy then keyFlag else []
      tapFlag := if onByDefault tap then ["-D", t.str (tap.getOr "port" (.int 8110))] else [] }) := by
  refine ⟨dictOf ((dictOf (cfg.getOr "dynamicLink" (.obj []))).getOr "tap" (.obj [])), ?_⟩
  unfold graphFront
  rw [orEmpty_eq (v := cfg.getOr "link" (.obj [])) (.inr (by rw [h.link]; rfl)),
    orEmpty_eq (getOr_block (.inr rfl) h.wfb), orEmpty_eq (getOr_block (.inr rfl) h.dynamicLink)]
  show orEmpty _ >>= _ = _
  rw [orEmpty_eq (getOr_block (.inr rfl) h.tap)]
  rfl

theorem graphFront_returns (h : Accepted pl cfg) : Returns (graphFront t cfg) ↔
    rawSorts t ((wfbBlock cfg).getOr "raw" .null) = true ∧
      find? "width" (linkBlock cfg) ≠ some .null := by
  obtain ⟨tap, heq⟩ := graphFront_eq (t := t) h
  rw [heq, ← warnRaw_returns, ← width_ordinal h, ← uplinkBandwidth_returns]
  exact returns_bind_const fun _ _ => returns_bind_pure

theorem graphFront_blocks (h : Accepted pl cfg) {f : Front} (hf : graphFront t cfg = .ok f) :
    f.link = linkBlock cfg ∧ f.wfb = wfbBlock cfg := by
  obtain ⟨tap, heq⟩ := graphFront_eq (t := t) h
  rw [heq] at hf
  obtain ⟨-, -, hf⟩ := Json.bind_eq_ok.mp hf
  obtain ⟨bw, -, hf⟩ := Json.bind_eq_ok.mp hf
  obtain rfl := Json.pure_eq_ok.mp hf
  exact ⟨rfl, rfl⟩

theorem dictOf_getOr_null (m : Dict) (k : String) :
    dictOf (m.getOr k .null) = dictOf (m.getOr k (.obj [])) := by
  unfold Dict.getOr
  cases find? k m <;> rfl

theorem probeEnabled_returns (h : Accepted pl cfg) : Returns (probeEnabled cfg) := by
  have hprobe := h.probe
  rw [← dictOf_getOr_null] at hprobe
  unfold probeEnabled
  rw [orEmpty_eq (getOr_block (.inl rfl) h.dynamicLink)]
  show Returns (if _ then orEmpty _ >>= _ else _)
  split_ifs
  · rw [orEmpty_eq (getOr_block (.inl rfl) hprobe)]
    exact returns_pure _
  · exact returns_pure false

def PeerWires (cfg : Dict) : Prop :=
  ∃ (mav : Dict) (s : String), (wfbBlock cfg).got "mavlink" = some (.obj mav) ∧
    mav.got "peer" = some (.str s) ∧ PlainPeer s

theorem mavPeerUrl_none {wfb : Dict} (h : wfb.got "mavlink" = none) :
    mavPeerUrl wfb = .error (.py .valueError) := by
  have hempty : wfb.getOr "mavlink" (.obj []) = .null ∨ wfb.getOr "mavlink" (.obj []) = .obj [] := by
    unfold Dict.getOr
    unfold Dict.got at h
    cases hv : find? "mavlink" wfb with
    | none => exact .inr rfl
    | some v =>
      rw [hv] at h
      cases v with
      | null => exact .inl rfl
      | _ => cases h
  unfold mavPeerUrl
  rcases hempty with hv | hv
  · rw [hv]
    rfl
  · rw [hv]
    rfl

theorem mavPeerUrl_some {wfb mav : Dict} {s : String} (h : wfb.got "mavlink" = some (.obj mav))
    (hs : mav.got "peer" = some (.str s)) (hne : s ≠ "") : mavPeerUrl wfb = .ok (.str s) := by
  have hblock : wfb.getOr "mavlink" (.obj []) = .obj mav := by
    rw [Dict.getOr, find?_of_got h]
    rfl
  have hpeer : mav.getOr "peer" .null = .str s := by
    rw [Dict.getOr, find?_of_got hs]
    rfl
  unfold mavPeerUrl
  rw [hblock, orEmpty_eq (.inr rfl)]
  show (if (mav.getOr "peer" .null).truthy = true then pure (mav.getOr "peer" .null) else _) = _
  rw [hpeer, if_pos (by simpa [Json.truthy] using hne)]
  rfl

theorem mavPeerUrl_iff (hdigit : ∀ s, pl.isDigit s = true → s ≠ "" ∧ '\n' ∉ s.toList)
    (h : Accepted pl cfg) :
    (∃ p, mavPeerUrl (wfbBlock cfg) = .ok p ∧ peerMatches p = true) ↔ PeerWires cfg := by
  unfold PeerWires
  cases hmav : (wfbBlock cfg).got "mavlink" with
  | none =>
    rw [mavPeerUrl_none hmav]
    simp
  | some mav =>
    obtain ⟨d, s, rfl, hs, hne, hpeer⟩ := h.mavlink mav hmav
    rw [mavPeerUrl_some hmav hs hne]
    have hiff := peerMatches_iff hdigit hpeer
    constructor
    · rintro ⟨p, hp, hmatch⟩
      obtain rfl := Except.ok.inj hp
      exact ⟨d, s, rfl, hs, hiff.mp hmatch⟩
    · rintro ⟨d', s', hd, hs', hplain⟩
      obtain rfl := Json.obj.inj (Option.some.inj hd)
      obtain rfl := Json.str.inj (Option.some.inj (hs.symm.trans hs'))
      exact ⟨_, rfl, hiff.mpr hplain⟩

theorem buildGraph_iff (hdigit : ∀ s, pl.isDigit s = true → s ≠ "" ∧ '\n' ∉ s.toList)
    (h : Accepted pl cfg) (wlans : List Json) (suffix : ℕ → String) :
    (∃ g, buildGraph t cfg wlans suffix = .ok g ∧ peerMatches g.mavPeer = true) ↔
      Returns (graphFront t cfg) ∧ PeerWires cfg := by
  rw [← mavPeerUrl_iff hdigit h]
  constructor
  · rintro ⟨g, hg, hmatch⟩
    obtain ⟨front, hfront, hg⟩ := Json.bind_eq_ok.mp hg
    obtain ⟨peer, hpeer, hg⟩ := Json.bind_eq_ok.mp hg
    obtain ⟨probe, -, hg⟩ := Json.bind_eq_ok.mp hg
    obtain rfl := Json.pure_eq_ok.mp hg
    rw [(graphFront_blocks h hfront).2] at hpeer
    exact ⟨⟨front, hfront⟩, peer, hpeer, hmatch⟩
  · rintro ⟨⟨front, hfront⟩, peer, hpeer, hmatch⟩
    obtain ⟨probe, hprobe⟩ := probeEnabled_returns h
    rw [← (graphFront_blocks h hfront).2] at hpeer
    refine ⟨_, Json.bind_eq_ok.mpr ⟨front, hfront, Json.bind_eq_ok.mpr ⟨peer, hpeer,
      Json.bind_eq_ok.mpr ⟨probe, hprobe, Json.pure_eq_ok.mpr rfl⟩⟩⟩, hmatch⟩

end Front

/-! ## The cards of a cluster -/

section Cards

variable {pl : Platform} {cfg : Dict} {cards : List Card}

/-- What the check says about a card of `link.cards`. -/
structure CardChecked (c : Card) : Prop where
  host : c.host = none ∨ ∃ s, s ≠ "" ∧ c.host = some (.str s)
  txpower : ∀ v, c.txpowerDbm = some v → v = .str "off" ∨ (number? v).isSome = true
  initScript : ∀ v, c.initScript = some v → ∃ s, v = .str s

theorem validateValue_ok {ok : Json → Bool} {what name : String} {v : Option Json}
    (h : validateValue ok what name v = none) {w : Json} (hw : v = some w) : ok w = true := by
  rw [hw] at h
  simpa [validateValue] using h

theorem isStr_iff {v : Json} : isStr v = true ↔ ∃ s, v = .str s := by
  cases v <;> simp [isStr]

theorem cardFromDict_checked {py : PyNumbers} {d : Dict} {c : Card}
    (hcheck : Passes (validateCardBlock d)) (hc : cardFromDict py d = .ok c) : CardChecked c := by
  simp only [validateCardBlock, passes_cons] at hcheck
  obtain ⟨-, -, hhost, -, -, -, hpower, hinit, -⟩ := hcheck
  unfold cardFromDict at hc
  split at hc
  case h_1 => cases hc
  case h_2 iface hiface =>
    split at hc
    case h_1 => cases hc
    case h_2 sshPort hport =>
      obtain rfl := Except.ok.inj hc
      refine ⟨?_, fun v hv => ?_, fun v hv => isStr_iff.mp (validateValue_ok hinit hv)⟩
      · simp only [raiseIf_eq_none, decide_eq_false_iff_not, not_not] at hhost
        unfold Dict.getOr at hhost
        show d.got "host" = none ∨ ∃ s, s ≠ "" ∧ d.got "host" = some (.str s)
        unfold Dict.got
        cases hv : find? "host" d with
        | none => exact .inl rfl
        | some v =>
          rw [hv] at hhost
          cases v with
          | str s => exact .inr ⟨s, of_decide_eq_true hhost, rfl⟩
          | _ => cases hhost
      · simpa using validateValue_ok hpower hv

theorem parseEntry_checked {py : PyNumbers} {x : Json} {c : Card} (hcheck : Passes (validateCard x))
    (hc : parseEntry py x = .ok c) : CardChecked c := by
  cases x with
  | str iface =>
    obtain rfl := Except.ok.inj hc
    exact ⟨.inl rfl, nofun, nofun⟩
  | obj d => exact cardFromDict_checked hcheck hc
  | _ => cases hc

theorem cards_checked (h : Accepted pl cfg)
    (hparse : parseCards pl.py (linkBlock cfg) = .ok (some cards)) (hremote : hasRemote cards = true) :
    ∀ c ∈ cards, CardChecked c := by
  unfold parseCards at hparse
  split at hparse
  case h_1 entries hentries =>
    have hchecks := h.cards
    rw [hentries] at hchecks
    simp only [forBlock, reduceCtorEq, if_false, validateCards] at hchecks
    cases hp : parseEntries pl.py entries with
    | error e =>
      rw [hp] at hparse
      cases hparse
    | ok parsed =>
      rw [hp] at hparse
      obtain rfl := Option.some.inj (Except.ok.inj hparse)
      intro c hc
      obtain ⟨x, hx, hxc⟩ := (Json.mem_mapM_ok hp).mp hc
      exact parseEntry_checked (fun e he => hchecks e (List.mem_flatMap.mpr ⟨x, hx, he⟩)) hxc
  case h_2 entries _ _ =>
    -- the legacy key takes no remote card
    obtain ⟨parsed, -, hparse⟩ := Json.bind_eq_ok.mp hparse
    split_ifs at hparse with hany
    obtain rfl := Option.some.inj (Except.ok.inj hparse)
    exact absurd hremote hany
  case h_3 => cases hparse

theorem nodeKey_text {c : Card} (h : CardChecked c) : ∃ s, nodeKey c = .str s := by
  unfold nodeKey
  rcases h.host with hnone | ⟨s, hs, hsome⟩
  · exact ⟨"127.0.0.1", by rw [hnone]⟩
  · refine ⟨s, ?_⟩
    rw [hsome]
    exact if_pos (by simpa [Json.truthy] using hs)

theorem groupByNode_concat (cards : List Card) (c : Card) :
    groupByNode (cards ++ [c]) = addToNode (groupByNode cards) c := by
  rw [groupByNode, List.foldl_append]
  rfl

theorem mem_groupByNode {k : Json} {cs : List Card} (h : (k, cs) ∈ groupByNode cards) :
    cs ≠ [] ∧ ∀ c ∈ cs, c ∈ cards ∧ nodeKey c = k := by
  induction cards using List.reverseRecOn generalizing k cs with
  | nil => cases h
  | append_singleton cards d ih =>
    rw [groupByNode_concat, addToNode] at h
    rcases mem_put h with heq | hold
    · obtain ⟨rfl, rfl⟩ := Prod.mk.inj heq
      refine ⟨by simp, fun c hc => ?_⟩
      rcases List.mem_append.mp hc with hc | hc
      · cases hfind : find? (nodeKey d) (groupByNode cards) with
        | none =>
          rw [hfind] at hc
          cases hc
        | some old =>
          rw [hfind] at hc
          obtain ⟨hmem, hkey⟩ := (ih (mem_of_find? hfind)).2 c hc
          exact ⟨List.mem_append_left _ hmem, hkey⟩
      · obtain rfl := List.mem_singleton.mp hc
        exact ⟨List.mem_append_right _ List.mem_cons_self, rfl⟩
    · obtain ⟨hne, hcs⟩ := ih hold
      exact ⟨hne, fun c hc => ⟨List.mem_append_left _ (hcs c hc).1, (hcs c hc).2⟩⟩

theorem groupByNode_find {c : Card} (h : c ∈ cards) :
    ∃ cs, find? (nodeKey c) (groupByNode cards) = some cs ∧ c ∈ cs := by
  induction cards using List.reverseRecOn with
  | nil => cases h
  | append_singleton cards d ih =>
    rw [groupByNode_concat, addToNode, find?_put]
    rcases List.mem_append.mp h with hc | hc
    · obtain ⟨cs, hfind, hmem⟩ := ih hc
      split_ifs with hkey
      · refine ⟨_, rfl, List.mem_append_left _ ?_⟩
        rw [← hkey, hfind]
        exact hmem
      · exact ⟨cs, hfind, hmem⟩
    · obtain rfl := List.mem_singleton.mp hc
      rw [if_pos rfl]
      exact ⟨_, rfl, List.mem_append_right _ List.mem_cons_self⟩

end Cards

/-! ## The plan -/

section Plan

variable {inetAton : String → Option ℕ} {cards : List Card} {server node : ℕ} {probe : Bool}
  {plan : ClusterPlan}

theorem lookup_returns {κ α : Type} [DecidableEq κ] {k : κ} {m : List (κ × α)} :
    Returns (lookup k m) ↔ k ∈ keys m := by
  rw [← find?_isSome_iff]
  unfold lookup
  cases find? k m <;> simp

theorem nodeText_returns (hcards : ∀ c ∈ cards, CardChecked c) :
    ∃ nodes, (groupByNode cards).mapM nodeText = .ok nodes := by
  refine returns_mapM.mpr ?_
  rintro ⟨k, cs⟩ hmem
  obtain ⟨hne, hcs⟩ := mem_groupByNode hmem
  obtain ⟨c, hc⟩ := List.exists_mem_of_ne_nil cs hne
  obtain ⟨hcard, rfl⟩ := hcs c hc
  obtain ⟨s, hs⟩ := nodeKey_text (hcards c hcard)
  rw [nodeText, hs]
  exact returns_ok _

def AddressesRead (inetAton : String → Option ℕ) (cards : List Card) : Prop :=
  ∀ c ∈ cards, c.isRxOnly = true → ∃ s, nodeKey c = .str s ∧ (inetAton s).isSome = true

variable {nodes : List (String × List Card)} {k : String × String}

theorem mem_nodes (h : (groupByNode cards).mapM nodeText = .ok nodes) {s : String} {cs : List Card} :
    (s, cs) ∈ nodes ↔ (.str s, cs) ∈ groupByNode cards := by
  rw [Json.mem_mapM_ok h]
  constructor
  · rintro ⟨group, hgroup, htext⟩
    rwa [nodeText_ok.mp htext] at hgroup
  · exact fun hgroup => ⟨_, hgroup, rfl⟩

theorem planCluster_returns (server node : ℕ) (probe : Bool) (hcards : ∀ c ∈ cards, CardChecked c) :
    Returns (planCluster inetAton cards server node probe) ↔ AddressesRead inetAton cards := by
  obtain ⟨nodes, hnodes⟩ := nodeText_returns hcards
  unfold planCluster
  rw [hnodes]
  show Returns ((nodes.flatMap rxOnlyOf).mapM (wlanIdAt inetAton) >>= _) ↔ _
  rw [returns_bind_pure, returns_mapM]
  constructor
  · intro h c hc hrx
    obtain ⟨s, hs⟩ := nodeKey_text (hcards c hc)
    obtain ⟨cs, hfind, hmem⟩ := groupByNode_find hc
    rw [hs] at hfind
    obtain ⟨idx, hidx⟩ := List.mem_iff_getElem?.mp hmem
    have hplace : (s, idx) ∈ nodes.flatMap rxOnlyOf :=
      List.mem_flatMap.mpr ⟨(s, cs), (mem_nodes hnodes).mpr (mem_of_find? hfind),
        mem_rxOnlyOf.mpr ⟨rfl, c, List.mk_mem_zipIdx_iff_getElem?.mpr hidx, hrx⟩⟩
    obtain ⟨w, hw⟩ := h _ hplace
    refine ⟨s, hs, ?_⟩
    cases hip : inetAton s with
    | none =>
      rw [wlanIdAt, hip] at hw
      cases hw
    | some ip => rfl
  · rintro h ⟨s, idx⟩ hplace
    obtain ⟨⟨s', cs⟩, hnode, hplace⟩ := List.mem_flatMap.mp hplace
    obtain ⟨rfl, c, hc, hrx⟩ := mem_rxOnlyOf.mp hplace
    have hmem : c ∈ cs := List.mem_of_getElem? (List.mk_mem_zipIdx_iff_getElem?.mp hc)
    obtain ⟨hcard, hkey⟩ := (mem_groupByNode ((mem_nodes hnodes).mp hnode)).2 c hmem
    obtain ⟨s, hs, hip⟩ := h c hcard hrx
    obtain rfl := Json.str.inj (hkey.symm.trans hs)
    obtain ⟨ip, hip⟩ := Option.isSome_iff_exists.mp hip
    rw [wlanIdAt, hip]
    exact returns_ok _

/-- The ports of every service, and the injectors of every node. -/
structure PlanComplete (probe : Bool) (plan : ClusterPlan) : Prop where
  serverPort : ∀ s ∈ serviceOrder probe, s ∈ keys plan.serverPort
  peers : ∀ s ∈ serviceOrder probe, s ∈ keys plan.peers
  injectorBase : ∀ n ∈ plan.nodes, ∀ s ∈ serviceOrder probe,
    (n.1, s) ∈ keys plan.injectorBase

theorem mem_keys_addNode {a : PortAlloc} {service : String} {n : String × List Card} :
    k ∈ keys (a.addNode node service n).injectorBase ↔
      k = (n.1, service) ∨ k ∈ keys a.injectorBase := mem_keys_put

theorem mem_keys_addNodes {service : String} {a : PortAlloc} :
    k ∈ keys (nodes.foldl (PortAlloc.addNode node service) a).injectorBase ↔
      (∃ n ∈ nodes, k = (n.1, service)) ∨ k ∈ keys a.injectorBase := by
  induction nodes generalizing a with
  | nil => simp
  | cons n nodes ih =>
    rw [List.foldl_cons, ih, mem_keys_addNode, List.exists_mem_cons_iff, or_assoc]
    exact or_left_comm

theorem mem_keys_addServices {services : List String} {acc : PortAlloc × List (String × List String)} :
    k ∈ keys (services.foldl (addService node nodes) acc).1.injectorBase ↔
      (∃ n ∈ nodes, ∃ s ∈ services, k = (n.1, s)) ∨ k ∈ keys acc.1.injectorBase := by
  induction services generalizing acc with
  | nil => simp
  | cons s services ih =>
    rw [List.foldl_cons, ih, addService, mem_keys_addNodes, ← or_assoc]
    refine or_congr_left ?_
    constructor
    · rintro (⟨n, hn, s', hs', rfl⟩ | ⟨n, hn, rfl⟩)
      · exact ⟨n, hn, s', List.mem_cons_of_mem _ hs', rfl⟩
      · exact ⟨n, hn, s, List.mem_cons_self, rfl⟩
    · rintro ⟨n, hn, s', hs', rfl⟩
      rcases List.mem_cons.mp hs' with rfl | hs'
      · exact .inr ⟨n, hn, rfl⟩
      · exact .inl ⟨n, hn, s', hs', rfl⟩

theorem keys_addServices {services : List String} {acc : PortAlloc × List (String × List String)} :
    keys (services.foldl (addService node nodes) acc).2 = keys acc.2 ++ services := by
  induction services generalizing acc with
  | nil => simp
  | cons s services ih =>
    rw [List.foldl_cons, ih]
    simp [addService, keys]

theorem mem_plan_nodes (h : planCluster inetAton cards server node probe = .ok plan) {s : String}
    {cs : List Card} : (s, cs) ∈ plan.nodes ↔ (.str s, cs) ∈ groupByNode cards := by
  obtain ⟨nodes, hnodes, h⟩ := Json.bind_eq_ok.mp h
  obtain ⟨ids, -, h⟩ := Json.bind_eq_ok.mp h
  obtain rfl := Json.pure_eq_ok.mp h
  exact mem_nodes hnodes

theorem planComplete (h : planCluster inetAton cards server node probe = .ok plan) :
    PlanComplete probe plan := by
  obtain ⟨nodes, hnodes, h⟩ := Json.bind_eq_ok.mp h
  obtain ⟨ids, hids, h⟩ := Json.bind_eq_ok.mp h
  obtain rfl := Json.pure_eq_ok.mp h
  refine ⟨fun s hs => ?_, fun s hs => ?_, fun n hn s hs => ?_⟩
  · obtain ⟨i, hi⟩ := List.mem_iff_getElem?.mp hs
    refine List.mem_map.mpr ⟨(s, server + i), List.mem_map.mpr ⟨(s, i), ?_, rfl⟩, rfl⟩
    exact List.mk_mem_zipIdx_iff_getElem?.mpr hi
  · show s ∈ keys (List.foldl (addService node _) _ _).2
    rw [keys_addServices]
    exact List.mem_append_right _ hs
  · show _ ∈ keys (List.foldl (addService node _) _ _).1.injectorBase
    rw [mem_keys_addServices]
    exact .inl ⟨n, (List.mem_insertionSort _).mpr hn, s, hs, rfl⟩

end Plan

/-! ## The graph of a cluster -/

section Remote

variable {t : PyText} {py : PyNumbers} {probe : Bool} {plan : ClusterPlan} {link : Dict} {c : Card}
  {cards : List Card}

variable {cs : List Card} {s : Streams}

theorem streamsFor_service (h : s ∈ streamsFor probe) : s.service ∈ serviceOrder probe := by
  revert s
  cases probe <;> decide

theorem forwarder_returns (hplan : PlanComplete probe plan) (ifaces : List Json)
    (hs : s ∈ streamsFor probe) : Returns (forwarder plan ifaces s) := by
  unfold forwarder
  cases s.rx with
  | none => exact returns_pure none
  | some rxId =>
    exact returns_bind_pure.mpr (lookup_returns.mpr (hplan.serverPort _ (streamsFor_service hs)))

theorem injector_returns (hplan : PlanComplete probe plan) (ifaces : List Json)
    (hlocal : (localNode, cs) ∈ plan.nodes) (hs : s ∈ streamsFor probe) :
    Returns (injector plan ifaces s) := by
  unfold injector
  cases s.tx with
  | none => exact returns_pure none
  | some txId =>
    exact returns_bind_pure.mpr
      (lookup_returns.mpr (hplan.injectorBase _ hlocal _ (streamsFor_service hs)))

theorem localLegs_returns (cards : List Card) (hplan : PlanComplete probe plan) : Returns (localLegs cards plan probe) := by
  unfold localLegs
  split_ifs with hempty
  · exact returns_pure _
  · have hlocal : ∃ cs, (localNode, cs) ∈ plan.nodes := by
      cases hfind : find? localNode plan.nodes with
      | none =>
        rw [hfind] at hempty
        exact absurd rfl hempty
      | some cs => exact ⟨cs, mem_of_find? hfind⟩
    obtain ⟨cs, hcs⟩ := hlocal
    rw [returns_bind_pure, returns_mapM]
    intro s hs
    obtain ⟨fwd, hfwd⟩ := forwarder_returns hplan (localIfaces cards) hs
    exact returns_bind.mpr ⟨fwd, hfwd, returns_bind_pure.mpr
      (injector_returns hplan (localIfaces cards) hcs hs)⟩

/-- What the script of a node takes for granted about a card: a text for its interface, a channel that
compares with a number, and a power that is a float in mBm. -/
structure CardWires (link : Dict) (c : Card) : Prop where
  iface : isStr c.iface = true
  channel : (ordinal? (link.getOr "channel" .null)).isSome = true
  power : ∀ v x, c.txpowerDbm = some v → number? v = some x → overflows (x * 100) = false

theorem asText_returns {v : Json} : Returns (asText v) ↔ isStr v = true := by
  cases v <;> simp [asText, isStr]

theorem got_of_truthy {m : Dict} {k : String} (h : (m.getOr k .null).truthy = true) :
    m.got k = some (m.getOr k .null) := by
  unfold Dict.getOr at h ⊢
  unfold Dict.got
  cases hv : find? k m with
  | none =>
    rw [hv] at h
    cases h
  | some v =>
    rw [hv] at h
    cases v with
    | null => cases h
    | _ => rfl

theorem tuneLines_returns (hchannel : (link.getOr "channel" .null).truthy = true) (wlan : String) :
    Returns (tuneLines t wlan link) ↔ (ordinal? (link.getOr "channel" .null)).isSome = true := by
  rw [tuneLines, got_of_truthy hchannel]
  refine returns_bind_pure.trans ?_
  unfold iwArgs
  cases ordinal? (link.getOr "channel" .null) <;> simp

theorem overflows_mul {x : ℚ} (h : overflows x = true) : overflows (x * 100) = true := by
  have hx : (2 : ℚ) ^ 1024 - 2 ^ 970 ≤ |x| := of_decide_eq_true h
  refine decide_eq_true (hx.trans ?_)
  have h100 : |(100 : ℚ)| = 100 := by norm_num
  rw [abs_mul, h100]
  have h0 := abs_nonneg x
  generalize |x| = y at h0
  linarith

theorem txpowerMbm_returns {v : Json} {x : ℚ} (hx : number? v = some x) :
    Returns (txpowerMbm py v) ↔ overflows (x * 100) = false := by
  have hround : ∀ q : ℚ, Returns (if overflows (q * 100) then .error (.py .overflowError)
      else pure (roundHalfEven (q * 100)) : Except Raised ℤ) ↔ overflows (q * 100) = false := by
    intro q
    cases overflows (q * 100) <;> simp
  cases v with
  | int i =>
    obtain rfl := Option.some.inj hx
    have hfloat : py.toFloat (.int i) = if overflows i then .error .overflowError else .ok (i : ℚ) := rfl
    rw [txpowerMbm, hfloat]
    cases hi : overflows (i : ℚ) with
    | true =>
      rw [overflows_mul hi]
      exact ⟨nofun, nofun⟩
    | false => exact hround i
  | real q =>
    obtain rfl := Option.some.inj hx
    exact hround q
  | _ => cases hx

theorem powerLines_returns (py : PyNumbers) (hc : CardChecked c) (wlan : String) :
    Returns (powerLines py wlan c.txpowerDbm) ↔
      ∀ v x, c.txpowerDbm = some v → number? v = some x → overflows (x * 100) = false := by
  unfold powerLines
  cases hv : c.txpowerDbm with
  | none => simp
  | some v =>
    rcases hc.txpower v hv with rfl | hnum
    · refine iff_of_true (by simp) fun v x hv' hx => ?_
      obtain rfl := Option.some.inj hv'
      cases hx
    · obtain ⟨x, hx⟩ := Option.isSome_iff_exists.mp hnum
      have hoff : v ≠ .str "off" := by
        rintro rfl
        cases hx
      simp only [if_neg hoff]
      rw [returns_bind_pure, txpowerMbm_returns hx]
      constructor
      · rintro h v' x' hv' hx'
        obtain rfl := Option.some.inj hv'
        obtain rfl := Option.some.inj (hx.symm.trans hx')
        exact h
      · exact fun h => h v x rfl hx

theorem cardLines_returns (hc : CardChecked c)
    (hchannel : (link.getOr "channel" .null).truthy = true) :
    Returns (cardLines t py link c) ↔ CardWires link c := by
  have hsteps : Returns (cardLines t py link c) ↔ Returns (asText c.iface) ∧
      (ordinal? (link.getOr "channel" .null)).isSome = true ∧
      ∀ v x, c.txpowerDbm = some v → number? v = some x → overflows (x * 100) = false := by
    refine returns_bind_const fun wlan _ => ?_
    rw [← tuneLines_returns (t := t) hchannel wlan, ← powerLines_returns py hc wlan]
    exact returns_bind_const fun _ _ => returns_bind_pure
  rw [hsteps, asText_returns]
  exact ⟨fun ⟨h1, h2, h3⟩ => ⟨h1, h2, h3⟩, fun h => ⟨h.iface, h.channel, h.power⟩⟩

theorem initText_returns (hc : CardChecked c) : Returns (initText t c) := by
  unfold initText
  cases hv : c.initScript with
  | none => exact returns_ok _
  | some v =>
    obtain ⟨s, rfl⟩ := hc.initScript v hv
    exact returns_ok _

theorem serviceLines_returns (hplan : PlanComplete probe plan) {node : String}
    (hnode : (node, cs) ∈ plan.nodes) (wlans serverAddress : String) (hs : s ∈ streamsFor probe) :
    Returns (serviceLines node wlans serverAddress plan s) := by
  have hrx : Returns (rxLines wlans serverAddress plan s) := by
    unfold rxLines
    cases s.rx with
    | none => exact returns_ok []
    | some rxId =>
      exact returns_bind_pure.mpr (lookup_returns.mpr (hplan.serverPort _ (streamsFor_service hs)))
  have htx : Returns (txLines node wlans plan s) := by
    unfold txLines
    cases s.tx with
    | none => exact returns_ok []
    | some txId =>
      exact returns_bind_pure.mpr
        (lookup_returns.mpr (hplan.injectorBase _ hnode _ (streamsFor_service hs)))
  obtain ⟨rx, hrx⟩ := hrx
  exact returns_bind.mpr ⟨rx, hrx, returns_bind_pure.mpr htx⟩

theorem renderNodeScript_returns (hplan : PlanComplete probe plan) {node : String}
    (hnode : (node, cs) ∈ plan.nodes) (hcs : ∀ c ∈ cs, CardChecked c)
    (hchannel : (link.getOr "channel" .null).truthy = true) (serverAddress : String) :
    Returns (renderNodeScript t py node cs plan link serverAddress (streamsFor probe)) ↔
      ∀ c ∈ cs, CardWires link c := by
  have hinit : Returns (cs.mapM (initText t)) := returns_mapM.mpr fun c hc => initText_returns (hcs c hc)
  have hcards : Returns (cs.mapM (cardLines t py link)) ↔ ∀ c ∈ cs, CardWires link c := by
    rw [returns_mapM]
    exact forall₂_congr fun c hc => cardLines_returns (hcs c hc) hchannel
  have hrest : Returns (renderNodeScript t py node cs plan link serverAddress (streamsFor probe)) ↔
      Returns (cs.mapM fun c => asText c.iface) ∧ Returns (cs.mapM (initText t)) ∧
        Returns (cs.mapM (cardLines t py link)) ∧ True := by
    refine returns_bind_const fun wlans _ => returns_bind_const fun _ _ =>
      returns_bind_const fun _ _ => ?_
    rw [returns_bind_pure, iff_true, returns_mapM]
    exact fun s hs => serviceLines_returns hplan hnode _ serverAddress hs
  rw [hrest, hcards, and_true]
  refine ⟨fun h => h.2.2, fun h => ⟨?_, hinit, h⟩⟩
  exact returns_mapM.mpr fun c hc => asText_returns.mpr (h c hc).iface

end Remote

/-! ## Wiring a configuration -/

section Wires

variable (t : PyText) (inetAton : String → Option ℕ) (py : PyNumbers) (cfg : Dict)

/-- The cards are parsed, and the graph is built for any interfaces; with a remote card the cluster is
planned and its graph is built.  The MAVLink service takes the peer of either. -/
structure Wires : Prop where
  parse : Returns (parseCards py (linkBlock cfg))
  allLocal : ∀ wlans suffix, ∃ g, buildGraph t cfg wlans suffix = .ok g ∧ peerMatches g.mavPeer = true
  remote : ∀ cards, parseCards py (linkBlock cfg) = .ok (some cards) → hasRemote cards = true →
    ∃ probe plan, probeEnabled cfg = .ok probe ∧
      planCluster inetAton cards 10000 11000 probe = .ok plan ∧
      ∀ serverAddress suffix, ∃ g, buildGraphRemote t py cfg cards plan serverAddress suffix = .ok g ∧
        peerMatches g.mavPeer = true

/-- **What the planner and the builders take for granted** about an accepted configuration. -/
structure Wirable : Prop where
  width : find? "width" (linkBlock cfg) ≠ some .null
  raw : rawSorts t ((wfbBlock cfg).getOr "raw" .null) = true
  peer : PeerWires cfg
  addresses : ∀ cards, parseCards py (linkBlock cfg) = .ok (some cards) → hasRemote cards = true →
    AddressesRead inetAton cards
  /-- the cards that another node runs -/
  nodeCards : ∀ cards, parseCards py (linkBlock cfg) = .ok (some cards) → hasRemote cards = true →
    ∀ c ∈ cards, nodeKey c ≠ .str localNode → CardWires (linkBlock cfg) c

variable {t inetAton cfg} {pl : Platform} {cards : List Card} {probe : Bool} {plan : ClusterPlan}

theorem scripts_return (h : Accepted pl cfg) (hcards : ∀ c ∈ cards, CardChecked c)
    (hplan : planCluster inetAton cards 10000 11000 probe = .ok plan) (serverAddress : String) :
    Returns (((plan.nodes.insertionSort fun a b => a.1 ≤ b.1).filter fun n => n.1 ≠ localNode).mapM
        fun n => renderNodeScript t pl.py n.1 n.2 plan (linkBlock cfg) serverAddress (streamsFor probe)) ↔
      ∀ c ∈ cards, nodeKey c ≠ .str localNode → CardWires (linkBlock cfg) c := by
  have hrender : ∀ n ∈ plan.nodes, Returns (renderNodeScript t pl.py n.1 n.2 plan (linkBlock cfg)
      serverAddress (streamsFor probe)) ↔ ∀ c ∈ n.2, CardWires (linkBlock cfg) c := by
    rintro ⟨s, cs⟩ hn
    refine renderNodeScript_returns (planComplete hplan) hn (fun c hc => hcards c ?_) h.channel _
    exact ((mem_groupByNode ((mem_plan_nodes hplan).mp hn)).2 c hc).1
  rw [returns_mapM]
  simp only [List.mem_filter, List.mem_insertionSort, decide_eq_true_eq]
  constructor
  · intro hall c hc hkey
    obtain ⟨s, hs⟩ := nodeKey_text (hcards c hc)
    obtain ⟨cs, hfind, hmem⟩ := groupByNode_find hc
    rw [hs] at hfind hkey
    have hn : (s, cs) ∈ plan.nodes := (mem_plan_nodes hplan).mpr (mem_of_find? hfind)
    exact (hrender _ hn).mp (hall _ ⟨hn, fun heq => hkey (congrArg Json.str heq)⟩) c hmem
  · rintro hall ⟨s, cs⟩ ⟨hn, hne⟩
    refine (hrender _ hn).mpr fun c hc => ?_
    obtain ⟨hcard, hkey⟩ := (mem_groupByNode ((mem_plan_nodes hplan).mp hn)).2 c hc
    refine hall c hcard ?_
    rw [hkey]
    exact fun heq => hne (Json.str.inj heq)

theorem probeFlag_returns (h : PlanComplete probe plan) : Returns (probeFlag plan probe) := by
  unfold probeFlag
  split_ifs with hprobe
  · subst hprobe
    exact returns_bind_pure.mpr (lookup_returns.mpr (h.serverPort _ (by decide)))
  · exact returns_ok []

theorem buildGraphRemote_iff (hdigit : ∀ s, pl.isDigit s = true → s ≠ "" ∧ '\n' ∉ s.toList)
    (h : Accepted pl cfg) (hcards : ∀ c ∈ cards, CardChecked c) (hprobe : probeEnabled cfg = .ok probe)
    (hplan : planCluster inetAton cards 10000 11000 probe = .ok plan) (serverAddress : String)
    (suffix : ℕ → String) :
    (∃ g, buildGraphRemote t pl.py cfg cards plan serverAddress suffix = .ok g ∧
        peerMatches g.mavPeer = true) ↔
      Returns (graphFront t cfg) ∧ PeerWires cfg ∧
        ∀ c ∈ cards, nodeKey c ≠ .str localNode → CardWires (linkBlock cfg) c := by
  rw [← mavPeerUrl_iff hdigit h, ← scripts_return h hcards hplan serverAddress]
  simp only [buildGraphRemote, Json.bind_eq_ok, Json.pure_eq_ok]
  constructor
  · rintro ⟨g, ⟨front, hfront, probe', hprobe', _, _, _, _, _, _, _, _, _, _, peer, hpeer, _, _, _, _,
      scripts, hscripts, rfl⟩, hmatch⟩
    obtain rfl := Except.ok.inj (hprobe.symm.trans hprobe')
    obtain ⟨hlink, hwfb⟩ := graphFront_blocks h hfront
    rw [hwfb] at hpeer
    rw [hlink] at hscripts
    exact ⟨⟨front, hfront⟩, ⟨peer, hpeer, hmatch⟩, scripts, hscripts⟩
  · rintro ⟨⟨front, hfront⟩, ⟨peer, hpeer, hmatch⟩, scripts, hscripts⟩
    obtain ⟨hlink, hwfb⟩ := graphFront_blocks h hfront
    have hcomplete := planComplete hplan
    have hbase : ∀ s ∈ ["video", "mavlink", "tunnel"], s ∈ serviceOrder probe :=
      fun s hs => List.mem_append_left _ hs
    have hport : ∀ s ∈ ["video", "mavlink", "tunnel"], Returns (lookup s plan.serverPort) :=
      fun s hs => lookup_returns.mpr (hcomplete.serverPort s (hbase s hs))
    have hpeers : ∀ s ∈ ["video", "mavlink", "tunnel"], Returns (lookup s plan.peers) :=
      fun s hs => lookup_returns.mpr (hcomplete.peers s (hbase s hs))
    obtain ⟨video, hvideo⟩ := hport "video" (by decide)
    obtain ⟨mav, hmav⟩ := hport "mavlink" (by decide)
    obtain ⟨tun, htun⟩ := hport "tunnel" (by decide)
    obtain ⟨mavPeers, hmavPeers⟩ := hpeers "mavlink" (by decide)
    obtain ⟨tunPeers, htunPeers⟩ := hpeers "tunnel" (by decide)
    obtain ⟨flag, hflag⟩ := probeFlag_returns hcomplete
    obtain ⟨legs, hlegs⟩ := localLegs_returns cards hcomplete
    rw [← hwfb] at hpeer
    rw [← hlink] at hscripts
    exact ⟨_, ⟨front, hfront, probe, hprobe, video, hvideo, mav, hmav, tun, htun, mavPeers, hmavPeers,
      tunPeers, htunPeers, peer, hpeer, flag, hflag, legs, hlegs, scripts, hscripts, rfl⟩, hmatch⟩

/-- **Which accepted configurations can be planned and wired.** -/
theorem wires_iff (hdigit : ∀ s, pl.isDigit s = true → s ≠ "" ∧ '\n' ∉ s.toList)
    (hok : validateEffective pl cfg = .ok ()) :
    Wires t inetAton pl.py cfg ↔ Wirable t inetAton pl.py cfg := by
  have h := accepted_of_valid hok
  obtain ⟨probe, hprobe⟩ := probeEnabled_returns h
  constructor
  · intro hw
    obtain ⟨hfront, hpeer⟩ := (buildGraph_iff hdigit h [] fun _ => "").mp (hw.allLocal [] fun _ => "")
    obtain ⟨hraw, hwidth⟩ := (graphFront_returns h).mp hfront
    refine ⟨hwidth, hraw, hpeer, fun cards hparse hremote => ?_, fun cards hparse hremote => ?_⟩
    · obtain ⟨_, plan, -, hplan, -⟩ := hw.remote cards hparse hremote
      exact (planCluster_returns _ _ _ (cards_checked h hparse hremote)).mp ⟨plan, hplan⟩
    · obtain ⟨probe', plan, hprobe', hplan, hg⟩ := hw.remote cards hparse hremote
      exact ((buildGraphRemote_iff hdigit h (cards_checked h hparse hremote) hprobe' hplan ""
        fun _ => "").mp (hg "" fun _ => "")).2.2
  · intro hw
    have hfront : Returns (graphFront t cfg) := (graphFront_returns h).mpr ⟨hw.raw, hw.width⟩
    refine ⟨h.parsed, fun wlans suffix => (buildGraph_iff hdigit h wlans suffix).mpr ⟨hfront, hw.peer⟩,
      fun cards hparse hremote => ?_⟩
    have hcards := cards_checked h hparse hremote
    obtain ⟨plan, hplan⟩ := (planCluster_returns 10000 11000 probe hcards).mpr
      (hw.addresses cards hparse hremote)
    refine ⟨probe, plan, hprobe, hplan, fun serverAddress suffix => ?_⟩
    exact (buildGraphRemote_iff hdigit h hcards hprobe hplan serverAddress suffix).mpr
      ⟨hfront, hw.peer, hw.nodeCards cards hparse hremote⟩

end Wires

def remoteConfig : Dict :=
  deepMerge defaultConfig [("link", .obj [("cards", .arr [.str "wlan0",
    .obj [("host", .str "10.0.0.2"), ("iface", .str "wlan1"), ("txPowerDbm", .str "off")]])])]

def plainText : PyText where
  str _ := ""
  sorts _ := false
  strip s := s
  splitlines s := [s]

def oneAddress (s : String) : Option ℕ := if s = "10.0.0.2" then some 167772162 else none

theorem plainPlatform_digits (s : String) (h : plainPlatform.isDigit s = true) :
    s ≠ "" ∧ '\n' ∉ s.toList := by
  simp only [plainPlatform, Bool.and_eq_true, decide_eq_true_eq, List.all_eq_true] at h
  exact ⟨h.1, fun hmem => absurd (h.2 _ hmem) (by decide)⟩

theorem wires_remote : validateEffective plainPlatform remoteConfig = .ok () ∧
    Wires plainText oneAddress plainPlatform.py remoteConfig := by
  have hok : validateEffective plainPlatform remoteConfig = .ok () := by decide +kernel
  have hparse : ∀ cards, parseCards plainPlatform.py (linkBlock remoteConfig) = .ok (some cards) →
      cards = [{ host := none, iface := .str "wlan0" },
        { host := some (.str "10.0.0.2"), iface := .str "wlan1", txpowerDbm := some (.str "off") }] := by
    intro cards h
    have heq : parseCards plainPlatform.py (linkBlock remoteConfig) =
        .ok (some [{ host := none, iface := .str "wlan0" },
          { host := some (.str "10.0.0.2"), iface := .str "wlan1",
            txpowerDbm := some (.str "off") }]) := by decide +kernel
    exact (Option.some.inj (Except.ok.inj (heq.symm.trans h))).symm
  refine ⟨hok, (wires_iff plainPlatform_digits hok).mpr
    ⟨by decide +kernel, by decide +kernel, ?_, fun cards h _ => ?_, fun cards h _ => ?_⟩⟩
  · refine ⟨[("peer", .str "connect://127.0.0.1:14550")], "connect://127.0.0.1:14550",
      by decide +kernel, by decide +kernel, fun host port hparts => ?_⟩
    have hcut : peerParts "connect://127.0.0.1:14550" =
        some ("127.0.0.1".toList, "14550".toList) := by decide +kernel
    obtain ⟨rfl, rfl⟩ := Prod.mk.inj (Option.some.inj (hcut.symm.trans hparts))
    exact ⟨by decide +kernel, by decide +kernel, List.all_eq_true.mp (by decide +kernel)⟩
  · rw [hparse cards h]
    intro c hc hrx
    simp only [List.mem_cons, List.not_mem_nil, or_false] at hc
    rcases hc with rfl | rfl
    · cases hrx
    · exact ⟨"10.0.0.2", rfl, by decide⟩
  · rw [hparse cards h]
    intro c hc hkey
    simp only [List.mem_cons, List.not_mem_nil, or_false] at hc
    rcases hc with rfl | rfl
    · exact absurd rfl hkey
    · refine ⟨rfl, by decide +kernel, fun v x hv hx => ?_⟩
      obtain rfl := Option.some.inj hv
      cases hx

def noMavlink : Dict := deepMerge defaultConfig [("wfb", .obj [("mavlink", .null)])]

def colonPeer : Dict :=
  deepMerge defaultConfig [("wfb", .obj [("mavlink", .obj [("peer", .str "connect://::1:14550")])])]

/-- **The check accepts what cannot be wired**: without a MAVLink block the graph is not built, and an
IPv6 peer is not one that the service takes. -/
theorem accepted_not_wired :
    validateEffective plainPlatform noMavlink = .ok () ∧
    buildGraph plainText noMavlink [] (fun _ => "") = .error (.py .valueError) ∧
    validateEffective plainPlatform colonPeer = .ok () ∧
    ∃ g, buildGraph plainText colonPeer [] (fun _ => "") = .ok g ∧ peerMatches g.mavPeer = false := by
  refine ⟨by decide +kernel, by decide +kernel, by decide +kernel, ?_⟩
  exact exists_ok (by decide +kernel)

end Fpvd.Wfb
