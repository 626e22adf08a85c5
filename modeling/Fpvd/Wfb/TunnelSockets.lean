import Fpvd.Lib.Ledger
import Fpvd.Lib.Run
import Fpvd.Wfb.Uplink

/-!
# Fpvd.Wfb.TunnelSockets — which sockets of the tunnel are open (`gs/fpvdgs/wfb/tunnel.py`)

Runs of `set_tx_socket` and `set_all_tx_sockets`, with any outcome of each connect.

* `Usable`: the selected socket is open and registered under the selected name, the registered sockets are
  open, and no other socket is.
* The sockets are handles in slots, one for each name of the registry and, during `set_all_tx_sockets`, one
  for each name of the registry that is being built.
-/

namespace Fpvd.Wfb

open AssocMap

variable {N : Type}

inductive TxCall (N : Type)
  | select (peer : ℕ) (name : Option N)
  | all (peer : ℕ) (names : List N)
  deriving DecidableEq, Repr

def connected (dial : Dial N) : ℕ → List N → List N
  | _, [] => []
  | i, name :: names =>
    if dial i name then name :: connected dial (i + 1) names else connected dial (i + 1) names

variable [DecidableEq N]

namespace TunnelTx

def serve (dial : Dial N) (t : TunnelTx N) : TxCall N → TunnelTx N
  | .select peer name => t.setTxSocket dial peer name
  | .all peer names => t.setAllTxSockets dial peer names

def Selected (t : TunnelTx N) : Prop :=
  ∀ sock, t.txSock = some sock →
    ∃ name, t.txSockName = some name ∧ find? name t.txSocks = some sock

structure Usable (t : TunnelTx N) : Prop where
  selected : t.Selected
  selected_isOpen : ∀ sock, t.txSock = some sock → sock.id ∉ t.sockets.closed
  registry_isOpen : ∀ e ∈ t.txSocks, e.2.id ∉ t.sockets.closed
  kept : ∀ i < t.sockets.created, i ∉ t.sockets.closed → ∃ e ∈ t.txSocks, e.2.id = i

/-- A selection reconnects if it is of the name selected now, and no name connects twice. -/
def Keeps (dial : Dial N) (t : TunnelTx N) : TxCall N → Prop
  | .select _ none => True
  | .select _ (some name) => t.txSockName = some name → dial t.sockets.created name = true
  | .all _ names => (connected dial t.sockets.created names).Nodup

end TunnelTx

/-! ## The slots -/

def slots (old new : List (N × Sock N)) : N ⊕ N → Option ℕ :=
  Sum.elim (fun n => (find? n old).map Sock.id) (fun n => (find? n new).map Sock.id)

section Slots

variable {old new : List (N × Sock N)} {name : N} {sock : Sock N}

theorem slots_erase : slots (erase name old) new =
    fun i => if i = .inl name then none else slots old new i := by
  funext i
  rcases i with n | n
  · by_cases hn : n = name
    · simp [slots, hn, find?_erase_self]
    · simp [slots, hn, find?_erase_ne hn]
  · simp [slots]

theorem slots_put_old : slots (put name sock old) new =
    Function.update (slots old new) (.inl name) (some sock.id) := by
  funext i
  rcases i with n | n
  · by_cases hn : n = name <;> simp [slots, hn, find?_put, Function.update]
  · simp [slots, Function.update]

theorem slots_put_new : slots old (put name sock new) =
    Function.update (slots old new) (.inr name) (some sock.id) := by
  funext i
  rcases i with n | n
  · simp [slots, Function.update]
  · by_cases hn : n = name <;> simp [slots, hn, find?_put, Function.update]

theorem slots_nil_old (old : List (N × Sock N)) :
    slots [] new = fun i => if i.isLeft then none else slots old new i := by
  funext i
  rcases i with n | n <;> simp [slots]

theorem slots_swap : slots new old = slots old new ∘ Equiv.sumComm N N := by
  funext i
  rcases i with n | n <;> rfl

theorem slots_old_eq_none : slots old new (.inl name) = none ↔ name ∉ keys old := by
  simp [slots, find?_eq_none_iff]

theorem slots_new_eq_none : slots old new (.inr name) = none ↔ name ∉ keys new := by
  simp [slots, find?_eq_none_iff]

end Slots

/-! ## Closing and connecting -/

def Sockets.Sound (ss : Sockets) (old new : List (N × Sock N)) : Prop :=
  Accounts ss.created ss.closed (slots old new)

def Sockets.Tight (ss : Sockets) (old new : List (N × Sock N)) : Prop :=
  NoLeak ss.created ss.closed (slots old new)

section Step

variable {ss : Sockets} {old new : List (N × Sock N)} {name : N} {peer : ℕ} {dial : Dial N}

theorem mem_popped (n : ℕ) : n ∈ (find? name old).toList.map Sock.id ↔
    ∃ i, i = .inl name ∧ slots old new i = some n := by
  simp [slots]

theorem Sockets.Sound.pop (h : Sockets.Sound ss old new) (name : N) :
    Sockets.Sound (ss.close (find? name old).toList) (erase name old) new := by
  unfold Sockets.Sound
  rw [slots_erase]
  exact Accounts.release h mem_popped

theorem tight_pop (name : N) :
    Sockets.Tight (ss.close (find? name old).toList) (erase name old) new ↔
      Sockets.Tight ss old new := by
  unfold Sockets.Tight
  rw [slots_erase]
  exact noLeak_release mem_popped

theorem mem_leftovers (hold : (keys old).Nodup) (n : ℕ) :
    n ∈ (old.map Prod.snd).map Sock.id ↔ ∃ i, i.isLeft = true ∧ slots old new i = some n := by
  simp only [List.map_map, List.mem_map, Function.comp]
  constructor
  · rintro ⟨⟨k, sock⟩, hmem, rfl⟩
    exact ⟨.inl k, rfl, by simp [slots, find?_of_mem hold hmem]⟩
  · rintro ⟨i, hleft, hi⟩
    obtain ⟨k, rfl⟩ := Sum.isLeft_iff.mp hleft
    obtain ⟨sock, hsock, rfl⟩ := Option.map_eq_some_iff.mp hi
    exact ⟨(k, sock), mem_of_find? hsock, rfl⟩

theorem Sockets.Sound.drop (h : Sockets.Sound ss old new) (hold : (keys old).Nodup) :
    Sockets.Sound (ss.close (old.map Prod.snd)) new [] := by
  have hnew : Sockets.Sound (ss.close (old.map Prod.snd)) [] new := by
    unfold Sockets.Sound
    rw [slots_nil_old old]
    exact Accounts.release h (mem_leftovers hold)
  unfold Sockets.Sound
  rw [slots_swap]
  exact hnew.comp_equiv _

theorem tight_drop (hold : (keys old).Nodup) :
    Sockets.Tight (ss.close (old.map Prod.snd)) new [] ↔ Sockets.Tight ss old new := by
  unfold Sockets.Tight
  rw [slots_swap, noLeak_comp_equiv, slots_nil_old old]
  exact noLeak_release (mem_leftovers hold)

theorem Sockets.Sound.fail (h : Sockets.Sound ss old new) : Sockets.Sound ⟨ss.created + 1, ss.created :: ss.closed⟩ old new :=
  Accounts.discard h

theorem tight_fail : Sockets.Tight ⟨ss.created + 1, ss.created :: ss.closed⟩ old new ↔ Sockets.Tight ss old new :=
  noLeak_discard

theorem Sockets.Sound.connectOld (h : Sockets.Sound ss old new) (name : N) (peer : ℕ) :
    Sockets.Sound { ss with created := ss.created + 1 } (put name ⟨ss.created, name, peer⟩ old) new := by
  unfold Sockets.Sound
  rw [slots_put_old]
  exact Accounts.acquire h _

theorem tight_connectOld (h : Sockets.Sound ss old new) (name : N) (peer : ℕ) :
    Sockets.Tight { ss with created := ss.created + 1 } (put name ⟨ss.created, name, peer⟩ old) new ↔
      Sockets.Tight ss old new ∧ name ∉ keys old := by
  unfold Sockets.Tight
  rw [slots_put_old, ← slots_old_eq_none]
  exact noLeak_acquire h _

theorem Sockets.Sound.connectNew (h : Sockets.Sound ss old new) (name : N) (peer : ℕ) :
    Sockets.Sound { ss with created := ss.created + 1 } old (put name ⟨ss.created, name, peer⟩ new) := by
  unfold Sockets.Sound
  rw [slots_put_new]
  exact Accounts.acquire h _

theorem tight_connectNew (h : Sockets.Sound ss old new) (name : N) (peer : ℕ) :
    Sockets.Tight { ss with created := ss.created + 1 } old (put name ⟨ss.created, name, peer⟩ new) ↔
      Sockets.Tight ss old new ∧ name ∉ keys new := by
  unfold Sockets.Tight
  rw [slots_put_new, ← slots_new_eq_none]
  exact noLeak_acquire h _

theorem connectAll_cons (names : List N) :
    TunnelTx.connectAll dial peer (name :: names) old new ss =
      if dial ss.created name then
        TunnelTx.connectAll dial peer names (erase name old)
          (put name ⟨ss.created, name, peer⟩ new)
          { ss.close (find? name old).toList with created := ss.created + 1 }
      else
        TunnelTx.connectAll dial peer names (erase name old) new
          ⟨ss.created + 1, ss.created :: (ss.close (find? name old).toList).closed⟩ := by
  rw [TunnelTx.connectAll, Sockets.connect]
  by_cases hdial : dial ss.created name = true
  · rw [if_pos hdial, if_pos (show dial (ss.close _).created name = true from hdial)]
    rfl
  · rw [if_neg hdial, if_neg (show ¬ dial (ss.close _).created name = true from hdial)]
    rfl

end Step

/-! ## The loop of `set_all_tx_sockets` -/

section Loop

variable {dial : Dial N} {peer : ℕ}

variable (dial peer) in
theorem connectAll_nodup (names : List N) : ∀ (old new : List (N × Sock N)) (ss : Sockets),
    (keys old).Nodup → (keys new).Nodup →
      (keys (TunnelTx.connectAll dial peer names old new ss).2.1).Nodup ∧
      (keys (TunnelTx.connectAll dial peer names old new ss).2.2).Nodup := by
  induction names with
  | nil => exact fun _ _ _ hold hnew => ⟨hold, hnew⟩
  | cons name names ih =>
    intro old new ss hold hnew
    rw [connectAll_cons]
    split_ifs
    · exact ih _ _ _ (nodup_keys_erase hold) (nodup_keys_put hnew)
    · exact ih _ _ _ (nodup_keys_erase hold) hnew

theorem connectAll_sound (names : List N) : ∀ {old new : List (N × Sock N)} {ss : Sockets},
    Sockets.Sound ss old new →
      let r := TunnelTx.connectAll dial peer names old new ss
      Sockets.Sound r.1 r.2.1 r.2.2 ∧
      (Sockets.Tight r.1 r.2.1 r.2.2 ↔ Sockets.Tight ss old new ∧
        (∀ n ∈ connected dial ss.created names, n ∉ keys new) ∧
        (connected dial ss.created names).Nodup) := by
  induction names with
  | nil => exact fun h => ⟨h, by simp [TunnelTx.connectAll, connected]⟩
  | cons name names ih =>
    intro old new ss h
    have hpop := h.pop name
    rw [connectAll_cons, connected]
    by_cases hdial : dial ss.created name = true
    · rw [if_pos hdial, if_pos hdial]
      obtain ⟨hsound, htight⟩ := ih (hpop.connectNew name peer)
      refine ⟨hsound, htight.trans ?_⟩
      rw [tight_connectNew hpop, tight_pop]
      simp only [mem_keys_put, List.mem_cons, List.nodup_cons]
      constructor
      · rintro ⟨⟨hss, hname⟩, hnew, hnodup⟩
        refine ⟨hss, ?_, fun hmem => hnew name hmem (.inl rfl), hnodup⟩
        rintro n (rfl | hn)
        · exact hname
        · exact fun hmem => hnew n hn (.inr hmem)
      · rintro ⟨hss, hnew, hname, hnodup⟩
        refine ⟨⟨hss, hnew name (.inl rfl)⟩, fun n hn => ?_, hnodup⟩
        rintro (rfl | hmem)
        · exact hname hn
        · exact hnew n (.inr hn) hmem
    · rw [if_neg hdial, if_neg hdial]
      obtain ⟨hsound, htight⟩ := ih hpop.fail
      refine ⟨hsound, htight.trans ?_⟩
      exact and_congr_left' (tight_fail.trans (tight_pop name))

end Loop

/-! ## The calls -/

namespace TunnelTx

/-- What holds in every state: the registry has open sockets, and a selection has a name. -/
structure Registry (t : TunnelTx N) : Prop where
  nodup : (keys t.txSocks).Nodup
  sound : Sockets.Sound t.sockets t.txSocks []
  named : t.txSock.isSome = t.txSockName.isSome

variable {dial : Dial N} {t : TunnelTx N}

theorem Registry.find?_isOpen (h : t.Registry) {name : N} {sock : Sock N}
    (hsock : find? name t.txSocks = some sock) : sock.id ∉ t.sockets.closed :=
  h.sound.isOpen (.inl name) _ (by simp [slots, hsock])

theorem Registry.usable_iff_tight (h : t.Registry) :
    t.Usable ↔ t.Selected ∧ Sockets.Tight t.sockets t.txSocks [] := by
  constructor
  · intro hu
    refine ⟨hu.selected, fun i hi hopen => ?_⟩
    obtain ⟨⟨name, sock⟩, hmem, rfl⟩ := hu.kept i hi hopen
    exact ⟨.inl name, by simp [slots, find?_of_mem h.nodup hmem]⟩
  · rintro ⟨hsel, htight⟩
    refine ⟨hsel, fun sock hsock => ?_, fun e he => ?_, fun i hi hopen => ?_⟩
    · obtain ⟨name, -, hfind⟩ := hsel sock hsock
      exact h.find?_isOpen hfind
    · exact h.find?_isOpen (find?_of_mem h.nodup he)
    · obtain ⟨name | name, hname⟩ := htight i hi hopen
      · obtain ⟨sock, hsock, rfl⟩ := Option.map_eq_some_iff.mp hname
        exact ⟨(name, sock), mem_of_find? hsock, rfl⟩
      · cases hname

theorem setTxSocket_some (dial : Dial N) (peer : ℕ) (t : TunnelTx N) (name : N) :
    t.setTxSocket dial peer (some name) =
      if dial t.sockets.created name then
        { t with
          sockets := { t.sockets.close (find? name t.txSocks).toList with
            created := t.sockets.created + 1 }
          txSocks := put name ⟨t.sockets.created, name, peer⟩ (erase name t.txSocks)
          txSockName := some name
          txSock := some ⟨t.sockets.created, name, peer⟩ }
      else
        { t with
          sockets := ⟨t.sockets.created + 1,
            t.sockets.created :: (t.sockets.close (find? name t.txSocks).toList).closed⟩
          txSocks := erase name t.txSocks } := by
  rw [setTxSocket, Sockets.connect]
  by_cases hdial : dial t.sockets.created name = true
  · rw [if_pos hdial, if_pos (show dial (t.sockets.close _).created name = true from hdial)]
    rfl
  · rw [if_neg hdial, if_neg (show ¬ dial (t.sockets.close _).created name = true from hdial)]
    rfl

theorem Registry.setTxSocket (h : t.Registry) (peer : ℕ) (name : Option N) :
    (t.setTxSocket dial peer name).Registry := by
  cases name with
  | none => exact ⟨h.nodup, h.sound, rfl⟩
  | some name =>
    rw [setTxSocket_some]
    split_ifs
    · refine ⟨nodup_keys_put (nodup_keys_erase h.nodup), ?_, rfl⟩
      exact (h.sound.pop name).connectOld name peer
    · exact ⟨nodup_keys_erase h.nodup, (h.sound.pop name).fail, h.named⟩

theorem Registry.usable_setTxSocket (h : t.Registry) (hu : t.Usable) (peer : ℕ) (name : N) :
    (t.setTxSocket dial peer (some name)).Usable ↔
      (t.txSockName = some name → dial t.sockets.created name = true) := by
  obtain ⟨hsel, htight⟩ := h.usable_iff_tight.mp hu
  have htight := (tight_pop name).mpr htight
  rw [(h.setTxSocket peer (some name)).usable_iff_tight, setTxSocket_some]
  by_cases hdial : dial t.sockets.created name = true
  · rw [if_pos hdial]
    refine iff_of_true ⟨?_, ?_⟩ fun _ => hdial
    · rintro sock ⟨rfl⟩
      exact ⟨name, rfl, by simp [find?_put]⟩
    · refine (tight_connectOld (h.sound.pop name) name peer).mpr ⟨htight, ?_⟩
      rw [← find?_eq_none_iff, find?_erase_self]
  · rw [if_neg hdial]
    constructor
    · -- the name selected now has lost its socket
      rintro ⟨hsel', -⟩ hname
      have hsome : t.txSock.isSome := by rw [h.named, hname]; rfl
      obtain ⟨sock, hsock⟩ := Option.isSome_iff_exists.mp hsome
      obtain ⟨name', hname', hfind⟩ := hsel' sock hsock
      obtain rfl : name = name' := Option.some.inj (hname.symm.trans hname')
      cases (find?_erase_self _ _).symm.trans hfind
    · intro hother
      refine ⟨fun sock hsock => ?_, tight_fail.mpr htight⟩
      obtain ⟨name', hname', hfind⟩ := hsel sock hsock
      have hne : name' ≠ name := by
        rintro rfl
        exact hdial (hother hname')
      exact ⟨name', hname', (find?_erase_ne hne _).trans hfind⟩

theorem Registry.setAllTxSockets (h : t.Registry) (peer : ℕ) (names : List N) :
    (t.setAllTxSockets dial peer names).Registry := by
  obtain ⟨hold, hnew⟩ := connectAll_nodup dial peer names t.txSocks [] t.sockets h.nodup List.nodup_nil
  refine ⟨hnew, (connectAll_sound names h.sound).1.drop hold, ?_⟩
  have hnamed := h.named
  cases hname : t.txSockName with
  | none => simpa [TunnelTx.setAllTxSockets, hname] using hnamed
  | some name =>
    simp only [TunnelTx.setAllTxSockets, hname]
    split_ifs with hsome
    · exact hsome
    · simpa using hsome

theorem Registry.selected_setAllTxSockets (h : t.Registry) (peer : ℕ) (names : List N) :
    (t.setAllTxSockets dial peer names).Selected := by
  have hnamed := h.named
  intro sock hsock
  cases hname : t.txSockName with
  | none =>
    rw [hname] at hnamed
    simp only [TunnelTx.setAllTxSockets, hname] at hsock
    rw [hsock] at hnamed
    cases hnamed
  | some name =>
    simp only [TunnelTx.setAllTxSockets, hname] at hsock ⊢
    exact ⟨name, by simp [hsock], hsock⟩

theorem Registry.usable_setAllTxSockets (h : t.Registry) (hu : t.Usable) (peer : ℕ) (names : List N) :
    (t.setAllTxSockets dial peer names).Usable ↔ (connected dial t.sockets.created names).Nodup := by
  obtain ⟨-, htight⟩ := h.usable_iff_tight.mp hu
  obtain ⟨hold, -⟩ := connectAll_nodup dial peer names t.txSocks [] t.sockets h.nodup List.nodup_nil
  rw [(h.setAllTxSockets peer names).usable_iff_tight]
  refine (and_iff_right (h.selected_setAllTxSockets peer names)).trans ?_
  refine (tight_drop hold).trans ((connectAll_sound names h.sound).2.trans ?_)
  refine (and_iff_right htight).trans (and_iff_right fun n _ => ?_)
  exact List.not_mem_nil

theorem Registry.serve (h : t.Registry) (call : TxCall N) : (t.serve dial call).Registry := by
  cases call with
  | select peer name => exact h.setTxSocket peer name
  | all peer names => exact h.setAllTxSockets peer names

theorem Registry.usable_serve (h : t.Registry) (hu : t.Usable) (call : TxCall N) :
    (t.serve dial call).Usable ↔ t.Keeps dial call := by
  cases call with
  | select peer name =>
    cases name with
    | none =>
      refine iff_of_true ?_ trivial
      exact ⟨nofun, nofun, hu.registry_isOpen, hu.kept⟩
    | some name => exact h.usable_setTxSocket hu peer name
  | all peer names => exact h.usable_setAllTxSockets hu peer names

/-- **The tunnel is usable in every state of a run** just when no reconnect to the selected name fails and
no name of a list connects twice. -/
theorem usable_iff (dial : Dial N) (calls : List (TxCall N)) :
    Run.Meets (serve dial) (Keeps dial) {} calls ↔
      ∀ before, before <+: calls → (before.foldl (serve dial) {}).Usable := by
  have hstart : Registry ({} : TunnelTx N) := by
    refine ⟨List.nodup_nil, ⟨nofun, ?_, ?_, ?_⟩, rfl⟩
    all_goals rintro (n | n) <;> intros <;> contradiction
  have hu : Usable ({} : TunnelTx N) := ⟨nofun, nofun, nofun, fun i hi => absurd hi (Nat.not_lt_zero i)⟩
  exact Run.meets_iff_throughout hstart (fun _ call h => h.serve call) hu
    (fun _ call h hu => h.usable_serve hu call) calls

/-- **A failed reconnect to the selected name** closes the selected socket, **and a name given twice**
leaves its first socket open and unregistered. -/
theorem closed_socket_stays_selected :
    (let t := [TxCall.select 0 (some "tunnel_tx"), .select 0 (some "tunnel_tx")].foldl
      (serve fun i _ => i = 0) {}
    t.txSock = some ⟨0, "tunnel_tx", 0⟩ ∧ 0 ∈ t.sockets.closed ∧ t.txSocks = []) ∧
    (let t := [TxCall.all 0 ["tunnel_tx", "tunnel_tx"]].foldl (serve fun _ _ => true) {}
    t.sockets = ⟨2, []⟩ ∧ t.txSocks = [("tunnel_tx", ⟨1, "tunnel_tx", 0⟩)]) := by
  decide +kernel

end TunnelTx

end Fpvd.Wfb
