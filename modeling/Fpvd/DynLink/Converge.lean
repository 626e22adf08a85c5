import Fpvd.DynLink.Controller

/-!
# Fpvd.DynLink.Converge — does the video TX end up where the decision says?

The baseline `lastTx` of the TX diff moves to the dispatched decision whatever the outcome of the
commands, while the probe's rung is latched only on success.
-/

namespace Fpvd.DynLink

open Run

/-! ## Commands with their outcomes -/

def Ev.sentFec? : Ev → Option ((ℕ × ℕ) × Bool)
  | .cmd _ (.setFec k n) ok => some ((k, n), ok)
  | _ => none

def Ev.sentRadio? : Ev → Option (RadioWord × Bool)
  | .cmd _ (.setRadio w) ok => some (w, ok)
  | _ => none

def sentFec (t : List Ev) : Option ((ℕ × ℕ) × Bool) := lastObs Ev.sentFec? t
def sentRadio (t : List Ev) : Option (RadioWord × Bool) := lastObs Ev.sentRadio? t

theorem pushed_of_sent {β : Type} {f : Ev → Option (β × Bool)} {g : Ev → Option β}
    (hfg : ∀ e, g e = (f e).bind fun p => if p.2 then some p.1 else none) {v : β} {t : List Ev}
    (h : lastObs f t = some (v, true)) : lastObs g t = some v := by
  induction t using List.reverseRecOn with
  | nil => cases h
  | append_singleton t e ih =>
    rw [lastObs_concat] at h ⊢
    rw [hfg e]
    cases hfe : f e with
    | none => rw [hfe] at h; exact ih h
    | some p => rw [hfe] at h; cases h; rfl

theorem Ev.fec?_eq : ∀ e : Ev, e.fec? = e.sentFec?.bind fun p => if p.2 then some p.1 else none
  | .cmd _ (.setFec _ _) true | .cmd _ (.setFec _ _) false => rfl
  | .cmd _ (.setRadio _) _ | .cmd _ (.probeRadio _) _ | .cmd _ (.iwFixed _ _) _
  | .cmd _ (.iwAuto _) _ | .cmd _ (.encSet _) _ => rfl
  | .accepted _ | .done _ | .armed _ | .disarmed | .expired | .phase2 _ | .tripped
  | .reconciled _ _ _ => rfl

theorem Ev.radio?_eq :
    ∀ e : Ev, e.radio? = e.sentRadio?.bind fun p => if p.2 then some p.1 else none
  | .cmd _ (.setRadio _) true | .cmd _ (.setRadio _) false => rfl
  | .cmd _ (.setFec _ _) _ | .cmd _ (.probeRadio _) _ | .cmd _ (.iwFixed _ _) _
  | .cmd _ (.iwAuto _) _ | .cmd _ (.encSet _) _ => rfl
  | .accepted _ | .done _ | .armed _ | .disarmed | .expired | .phase2 _ | .tripped
  | .reconciled _ _ _ => rfl

theorem IsSideCmd.sentFec? {b : Branch} : ∀ e, IsSideCmd b e → e.sentFec? = none
  | .cmd _ (.probeRadio _) _, _ | .cmd _ (.iwFixed _ _) _, _ | .cmd _ (.iwAuto _) _, _ => rfl

theorem IsSideCmd.sentRadio? {b : Branch} : ∀ e, IsSideCmd b e → e.sentRadio? = none
  | .cmd _ (.probeRadio _) _, _ | .cmd _ (.iwFixed _ _) _, _ | .cmd _ (.iwAuto _) _, _ => rfl

/-! ## Histories -/

/-- The calls of the loop that concern the video TX.  `safe` includes the baseline reset that follows
`dispatchTxSafe`. -/
inductive TxOp where
  | apply (cfg : DlRuntimeConfig) (d : Decision)
  | safe (cfg : DlRuntimeConfig)

def txStep (ack : ℕ → Bool) (x : Io TxClients) : TxOp → Io TxClients
  | .apply cfg d => dispatchTxApply ack .decision cfg d x
  | .safe cfg =>
    let y := dispatchTxSafe ack .tick cfg x
    { y with st := { y.st with lastTx := {}, radio := y.st.radio.setIface cfg.iface } }

def txStart (iface : String) : Io TxClients := ⟨{ radio := { iface := iface } }, []⟩

/-- A valid baseline repeats the values sent last, whatever became of them. -/
structure Baseline (x : Io TxClients) : Prop where
  fec : x.st.lastTx.magic = kWireMagic →
    ∃ ok, sentFec x.trace = some ((x.st.lastTx.k, x.st.lastTx.n), ok)
  radio : x.st.lastTx.magic = kWireMagic → ∃ w ok, sentRadio x.trace = some (w, ok) ∧
    w.mcs = x.st.lastTx.mcs ∧ w.bandwidth = x.st.lastTx.bandwidth

theorem Baseline.dispatch {x : Io TxClients} (h : Baseline x) (ack : ℕ → Bool) (b : Branch)
    (cfg : DlRuntimeConfig) (d : Decision) : Baseline (dispatchTxApply ack b cfg d x) := by
  constructor
  · intro _
    rw [dispatchTxApply_lastTx, sentFec, lastObs_dispatch_fec ack b cfg d x Ev.sentFec?
      IsSideCmd.sentFec? fun _ _ => rfl]
    split_ifs with hw
    · exact ⟨_, rfl⟩
    · obtain ⟨hm, hk, hn⟩ := wantsFec_eq_false hw
      rw [← hk, ← hn]
      exact h.fec hm
  · intro _
    rw [dispatchTxApply_lastTx, sentRadio, lastObs_dispatch_radio ack b cfg d x Ev.sentRadio?
      IsSideCmd.sentRadio? fun _ _ _ => rfl]
    split_ifs with hw
    · exact ⟨_, _, rfl, rfl, rfl⟩
    · obtain ⟨hm, hmcs, hbw⟩ := wantsRadio_eq_false hw
      rw [← hmcs, ← hbw]
      exact h.radio hm

theorem Baseline.txStep {x : Io TxClients} (h : Baseline x) (ack : ℕ → Bool) :
    ∀ op, Baseline (txStep ack x op)
  | .apply cfg d => h.dispatch ack .decision cfg d
  | .safe _ => ⟨fun hm => absurd hm magic_default, fun hm => absurd hm magic_default⟩

theorem Baseline.history (ack : ℕ → Bool) : ∀ (ops : List TxOp) (x : Io TxClients), Baseline x →
    Baseline (ops.foldl (DynLink.txStep ack) x)
  | [], _, h => h
  | op :: ops, _, h => Baseline.history ack ops _ (h.txStep ack op)

/-! ## The video TX -/

structure VideoTx where
  k : ℕ
  n : ℕ
  mcs : ℕ
  bandwidth : ℕ

def heldFec (tx : VideoTx) (t : List Ev) : ℕ × ℕ := (pushedFec t).getD (tx.k, tx.n)

def heldRadio (tx : VideoTx) (t : List Ev) : ℕ × ℕ :=
  ((pushedRadio t).map fun w => (w.mcs, w.bandwidth)).getD (tx.mcs, tx.bandwidth)

def Converged (tx : VideoTx) (t : List Ev) (d : Decision) : Prop :=
  heldFec tx t = (d.k, d.n) ∧ heldRadio tx t = (d.mcs, d.bandwidth)

def VideoOk : Ev → Prop
  | .cmd _ (.setFec _ _) ok | .cmd _ (.setRadio _) ok => ok = true
  | _ => True

section Converged

variable {ack : ℕ → Bool} {b : Branch} {cfg : DlRuntimeConfig} {d : Decision} {x : Io TxClients}
  (tx : VideoTx)

theorem ack_fec (hok : Grows VideoOk x.trace (dispatchTxApply ack b cfg d x).trace)
    (hw : x.st.wantsFec d = true) : ack x.trace.length = true := by
  have hrest := (pushRadio_grows ack b cfg d (pushFec ack b d (reconciled cfg x))).trans
    ((dispatchTxApply_side ack b cfg d x).mono IsSideCmd.isTxCmd)
  rw [pushFec, wantsFec_congr d (reconciled_lastTx cfg x), if_pos hw] at hrest
  exact hok.head hrest

theorem ack_radio (hok : Grows VideoOk x.trace (dispatchTxApply ack b cfg d x).trace)
    (hw : x.st.wantsRadio d = true) :
    ack (pushFec ack b d (reconciled cfg x)).trace.length = true := by
  have hfec := pushFec_grows ack b cfg d (reconciled cfg x)
  have hrad := pushRadio_grows ack b cfg d (pushFec ack b d (reconciled cfg x))
  have hside := dispatchTxApply_side ack b cfg d x
  have hok' := hok.tail hfec (hrad.trans (hside.mono IsSideCmd.isTxCmd))
  have hw' : (pushFec ack b d (reconciled cfg x)).st.wantsRadio d = true :=
    (wantsRadio_congr d (by simp)).trans hw
  rw [pushRadio, if_pos hw'] at hside
  exact hok'.head hside

theorem heldFec_dispatch (hok : Grows VideoOk x.trace (dispatchTxApply ack b cfg d x).trace) :
    heldFec tx (dispatchTxApply ack b cfg d x).trace =
      if x.st.wantsFec d then (d.k, d.n) else heldFec tx x.trace := by
  rw [heldFec, pushedFec, lastObs_dispatch_fec ack b cfg d x Ev.fec? IsSideCmd.fec? fun _ _ => rfl]
  split_ifs with hw
  · rw [ack_fec hok hw]; rfl
  · rfl

theorem heldRadio_dispatch (hok : Grows VideoOk x.trace (dispatchTxApply ack b cfg d x).trace) :
    heldRadio tx (dispatchTxApply ack b cfg d x).trace =
      if x.st.wantsRadio d then (d.mcs, d.bandwidth) else heldRadio tx x.trace := by
  rw [heldRadio, pushedRadio,
    lastObs_dispatch_radio ack b cfg d x Ev.radio? IsSideCmd.radio? fun _ _ _ => rfl]
  split_ifs with hw
  · rw [ack_radio hok hw]; rfl
  · rfl

theorem heldFec_of_sent (h : Baseline x) (hw : ¬ x.st.wantsFec d = true) {v : ℕ × ℕ}
    (hs : sentFec x.trace = some (v, true)) : heldFec tx x.trace = (d.k, d.n) := by
  obtain ⟨hm, hk, hn⟩ := wantsFec_eq_false hw
  obtain ⟨ok, hb⟩ := h.fec hm
  rw [hs] at hb
  cases hb
  rw [heldFec, pushedFec, pushed_of_sent Ev.fec?_eq hs, hk, hn]
  rfl

theorem heldRadio_of_sent (h : Baseline x) (hw : ¬ x.st.wantsRadio d = true) {w : RadioWord}
    (hs : sentRadio x.trace = some (w, true)) : heldRadio tx x.trace = (d.mcs, d.bandwidth) := by
  obtain ⟨hm, hmcs, hbw⟩ := wantsRadio_eq_false hw
  obtain ⟨w', ok, hb, h1, h2⟩ := h.radio hm
  rw [hs] at hb
  cases hb
  rw [heldRadio, pushedRadio, pushed_of_sent Ev.radio?_eq hs, ← hmcs, ← hbw, ← h1, ← h2]
  rfl

end Converged

/-- **Convergence of the video TX.**  After any history of dispatches, with any pattern of outcomes,
and a dispatch of `d` none of whose video commands failed, the TX holds `d` exactly when, for FEC and
for the radio, the command was sent again, or the last one sent had succeeded, or the TX happens to
hold the values already. -/
theorem converged_iff (ack : ℕ → Bool) (iface : String) (ops : List TxOp) (tx : VideoTx)
    (cfg : DlRuntimeConfig) (d : Decision) (x : Io TxClients)
    (hx : x = ops.foldl (txStep ack) (txStart iface))
    (hok : Grows VideoOk x.trace (dispatchTxApply ack .decision cfg d x).trace) :
    Converged tx (dispatchTxApply ack .decision cfg d x).trace d ↔
      (x.st.wantsFec d = true ∨ (∃ v, sentFec x.trace = some (v, true)) ∨
        heldFec tx x.trace = (d.k, d.n)) ∧
      (x.st.wantsRadio d = true ∨ (∃ w, sentRadio x.trace = some (w, true)) ∨
        heldRadio tx x.trace = (d.mcs, d.bandwidth)) := by
  have hbase : Baseline x := by
    rw [hx]
    refine Baseline.history ack ops _ ⟨fun hm => ?_, fun hm => ?_⟩
    · exact absurd hm magic_default
    · exact absurd hm magic_default
  rw [Converged, heldFec_dispatch tx hok, heldRadio_dispatch tx hok]
  refine and_congr ?_ ?_
  · split_ifs with hw
    · simp [hw]
    · constructor
      · exact fun h => .inr (.inr h)
      · rintro (h | ⟨v, hv⟩ | h)
        · exact absurd h hw
        · exact heldFec_of_sent tx hbase hw hv
        · exact h
  · split_ifs with hw
    · simp [hw]
    · constructor
      · exact fun h => .inr (.inr h)
      · rintro (h | ⟨w, hv⟩ | h)
        · exact absurd h hw
        · exact heldRadio_of_sent tx hbase hw hv
        · exact h

def rsConfig : Config := { link := { fec := { mode := "rs" } } }

def rsDecision : Decision :=
  Loop.derive (buildDlSnapshot rsConfig "wlan0") { magic := kWireMagic, mcs := 4 }

def rsTx : VideoTx where
  k := rsConfig.link.fec.k.toNat
  n := rsConfig.link.fec.n.toNat
  mcs := rsConfig.link.mcs.toNat
  bandwidth := 20

def rsDispatched (ack : ℕ → Bool) : Io TxClients :=
  [TxOp.apply (buildDlSnapshot rsConfig "wlan0") rsDecision].foldl (txStep ack) (txStart "wlan0")

def rsRepeated (ack : ℕ → Bool) : Io TxClients :=
  dispatchTxApply ack .decision (buildDlSnapshot rsConfig "wlan0") rsDecision (rsDispatched ack)

theorem converged_iff_sample : Converged rsTx (rsRepeated allOk).trace rsDecision :=
  (converged_iff allOk "wlan0" [.apply (buildDlSnapshot rsConfig "wlan0") rsDecision] rsTx
      (buildDlSnapshot rsConfig "wlan0") rsDecision (rsDispatched allOk) rfl
      (Grows.of_eq (by decide +kernel))).mpr
    ⟨.inr (.inl ⟨(rsDecision.k, rsDecision.n), by decide +kernel⟩),
      .inr (.inl ⟨radioWord (buildDlSnapshot rsConfig "wlan0") rsDecision.bandwidth rsDecision.mcs,
        by decide +kernel⟩)⟩

def firstFails : ℕ → Bool := fun i => i ≠ 0

/-- **A failed command is not retried.**  The first `CMD_SET_FEC` fails; the same decision is
dispatched again, no command of that dispatch fails, and the TX keeps the FEC it was launched
with. -/
theorem failed_fec_not_retried :
    validate rsConfig = [] ∧
      Grows VideoOk (rsDispatched firstFails).trace (rsRepeated firstFails).trace ∧
      ¬ Converged rsTx (rsRepeated firstFails).trace rsDecision := by
  have hfec : heldFec rsTx (rsRepeated firstFails).trace ≠ (rsDecision.k, rsDecision.n) := by
    decide +kernel
  exact ⟨by decide +kernel, Grows.of_eq (by decide +kernel), fun hc => hfec hc.1⟩

end Fpvd.DynLink
