import Fpvd.Gs.Wire
import Fpvd.DynLink.Failsafe

/-!
# Fpvd.Gs.Stream — decisions on their way from the ground station to the drone

The encoder of `gs/fpvdgs/dynlink/wire.py`, the loop of `gs/fpvdgs/dynlink/controller.py` that owns
it, and the dedup filter of the drone.
-/

namespace Fpvd.Gs

open DynLink Run

section Emission

variable (binasciiCrc32 : List UInt8 → ℕ)

def Encoder.after (e : Encoder) (mcs : ℕ → ℤ) : ℕ → Encoder
  | 0 => e
  | i + 1 => ((e.after mcs i).encode binasciiCrc32 (mcs i)).2

def emission (e : Encoder) (mcs : ℕ → ℤ) (i : ℕ) : Option (List UInt8) :=
  ((e.after binasciiCrc32 mcs i).encode binasciiCrc32 (mcs i)).1

variable {binasciiCrc32}

theorem packField_some {size : ℕ} {v : ℤ} {bs : List UInt8} (h : packField size v = some bs) :
    ∃ n : ℕ, v = n ∧ n < 256 ^ size := by
  unfold packField at h
  split_ifs at h with hv
  refine ⟨v.toNat, (Int.toNat_of_nonneg hv.1).symm, ?_⟩
  have hlt := hv.2
  rw [← Int.toNat_of_nonneg hv.1] at hlt
  exact_mod_cast hlt

theorem encodeRaw_some (hcrc : ∀ bs, Crc.IsIeee bs (BitVec.ofNat 32 (binasciiCrc32 bs)))
    {f s m : ℤ} {bytes : List UInt8} (h : encodeRaw binasciiCrc32 version f s m = some bytes) :
    ∃ d : Decision, d.Sized ∧ bytes = encodeDecision d ∧ (d.sequence : ℤ) = s := by
  obtain ⟨payload, hpay, -⟩ := Option.bind_eq_some_iff.mp h
  simp only [packPayload, Option.bind_eq_bind, Option.bind_eq_some_iff] at hpay
  obtain ⟨_, -, _, -, _, hpf, _, hps, _, hpm, -⟩ := hpay
  obtain ⟨f, rfl, hf⟩ := packField_some hpf
  obtain ⟨s, rfl, hs⟩ := packField_some hps
  obtain ⟨m, rfl, hm⟩ := packField_some hpm
  have hd : Decision.Sized { flags := f, sequence := s, mcs := m } := ⟨hf, hs, hm⟩
  rw [encodeRaw_eq hcrc hd] at h
  exact ⟨_, hd, (Option.some.inj h).symm, rfl⟩

theorem after_seq (binasciiCrc32 : List UInt8 → ℕ) (e : Encoder) (mcs : ℕ → ℤ) (i : ℕ) :
    (e.after binasciiCrc32 mcs i).seq % 2 ^ 32 = (e.seq + i) % 2 ^ 32 := by
  induction i with
  | zero => simp [Encoder.after]
  | succ i ih =>
    show ((e.after binasciiCrc32 mcs i).seq + 1) % 2 ^ 32 % 2 ^ 32 = _
    push_cast
    omega

theorem emission_some (hcrc : ∀ bs, Crc.IsIeee bs (BitVec.ofNat 32 (binasciiCrc32 bs)))
    {e : Encoder} {mcs : ℕ → ℤ} {i : ℕ} {bytes : List UInt8}
    (h : emission binasciiCrc32 e mcs i = some bytes) :
    ∃ d : Decision, decodeDecision bytes = .ok d ∧ (d.sequence : ℤ) = (e.seq + i) % 2 ^ 32 := by
  obtain ⟨d, hd, rfl, hs⟩ := encodeRaw_some hcrc h
  have hdec := decode_encode hd []
  rw [List.append_nil] at hdec
  refine ⟨_, hdec, ?_⟩
  show (d.sequence : ℤ) = _
  have hlt := hd.sequence
  rw [← after_seq binasciiCrc32 e mcs i, ← hs]
  omega

end Emission

/-! ## One encoder, any network -/

/-- The drone's filter, and the emissions it has let through. -/
structure Receiver where
  dedup : Dedup
  accepted : List ℕ := []

def Receiver.deliver (emitted : ℕ → Option (List UInt8)) (r : Receiver) (i : ℕ) : Receiver :=
  match (emitted i).map decodeDecision with
  | some (.ok d) =>
    if r.dedup.drops d.sequence then r
    else { dedup := r.dedup.check d.sequence, accepted := r.accepted ++ [i] }
  | _ => r

/-- The signed 32-bit difference of two numbers modulo `2 ^ 32` that are less than half the range
apart is their difference. -/
theorem i32_sub_emod {x y : ℤ} (h₁ : x - y < 2 ^ 31) (h₂ : -2 ^ 31 ≤ x - y) :
    i32 (x % 2 ^ 32 - y % 2 ^ 32) = x - y := by
  unfold i32
  omega

/-- The filter after the emissions `is` were delivered: it holds the number of the newest. -/
inductive Tracks (start : ℤ) : List ℕ → Receiver → Prop where
  | unseen {r : Receiver} (hever : r.dedup.ever = false) (hacc : r.accepted = []) : Tracks start [] r
  | newest {is : List ℕ} {r : Receiver} (m : ℕ) (hm : m ∈ is) (hmax : ∀ i ∈ is, i ≤ m)
      (hever : r.dedup.ever = true) (hlast : (r.dedup.lastSeq : ℤ) = (start + m) % 2 ^ 32)
      (hacc : r.accepted.Pairwise (· < ·)) (hle : ∀ a ∈ r.accepted, a ≤ m) : Tracks start is r

section Stream

variable {start : ℤ} {is : List ℕ} {r : Receiver}

theorem Tracks.pairwise (h : Tracks start is r) : r.accepted.Pairwise (· < ·) := by
  cases h with
  | unseen hever hacc =>
    rw [hacc]
    exact List.Pairwise.nil
  | newest m hm hmax hever hlast hacc hle => exact hacc

theorem Tracks.drops_iff (h : Tracks start is r) {i seq : ℕ}
    (hseq : (seq : ℤ) = (start + i) % 2 ^ 32)
    (hnear : ∀ j ∈ is, i ≤ j + (2 ^ 31 - 1) ∧ j ≤ i + (2 ^ 31 - 1)) :
    r.dedup.drops seq = true ↔ ∃ j ∈ is, i ≤ j := by
  cases h with
  | unseen hever hacc => simp [Dedup.drops, hever]
  | newest m hm hmax hever hlast hacc hle =>
    obtain ⟨h₁, h₂⟩ := hnear m hm
    have hdiff : i32 ((seq : ℤ) - r.dedup.lastSeq) = i - m := by
      rw [hseq, hlast, i32_sub_emod (by omega) (by omega)]
      omega
    simp only [Dedup.drops, hever, hdiff, Bool.true_and, decide_eq_true_eq]
    constructor
    · intro hle'
      exact ⟨m, hm, by omega⟩
    · rintro ⟨j, hj, hij⟩
      have := hmax j hj
      omega

theorem Tracks.deliver (h : Tracks start is r) {emitted : ℕ → Option (List UInt8)} {i : ℕ}
    {bytes : List UInt8} {d : Decision} (hemit : emitted i = some bytes)
    (hdec : decodeDecision bytes = .ok d) (hseq : (d.sequence : ℤ) = (start + i) % 2 ^ 32)
    (hnear : ∀ j ∈ is, i ≤ j + (2 ^ 31 - 1) ∧ j ≤ i + (2 ^ 31 - 1)) :
    Tracks start (is ++ [i]) (r.deliver emitted i) ∧
      ((∀ j ∈ is, j < i) → (r.deliver emitted i).accepted = r.accepted ++ [i]) := by
  have hiff := h.drops_iff hseq hnear
  have hstep : r.deliver emitted i = if r.dedup.drops d.sequence then r
      else { dedup := r.dedup.check d.sequence, accepted := r.accepted ++ [i] } := by
    simp [Receiver.deliver, hemit, hdec]
  rw [hstep]
  by_cases hd : r.dedup.drops d.sequence = true
  · rw [if_pos hd]
    obtain ⟨j, hj, hij⟩ := hiff.mp hd
    refine ⟨?_, fun hnew => absurd (hnew j hj) (by omega)⟩
    cases h with
    | unseen hever hacc => cases hj
    | newest m hm hmax hever hlast hacc hle =>
      have hjm := hmax j hj
      refine .newest m (List.mem_append_left _ hm) (fun a ha => ?_) hever hlast hacc hle
      rcases List.mem_append.mp ha with ha | ha
      · exact hmax a ha
      · rw [List.mem_singleton.mp ha]
        omega
  · rw [if_neg hd]
    -- everything delivered before is older
    have hold : ∀ j ∈ is, j < i := by
      intro j hj
      by_contra hge
      exact hd (hiff.mpr ⟨j, hj, by omega⟩)
    have haccepted : ∀ a ∈ r.accepted, a < i := by
      cases h with
      | unseen hever hacc =>
        rw [hacc]
        exact nofun
      | newest m hm hmax hever hlast hacc hle =>
        exact fun a ha => lt_of_le_of_lt (hle a ha) (hold m hm)
    have hcheck : r.dedup.check d.sequence = { lastSeq := d.sequence, ever := true } := if_neg hd
    refine ⟨.newest i (by simp) (fun a ha => ?_) (by rw [hcheck]) (by rw [hcheck]; exact hseq)
      ?_ (fun a ha => ?_), fun _ => rfl⟩
    · rcases List.mem_append.mp ha with ha | ha
      · exact (hold a ha).le
      · rw [List.mem_singleton.mp ha]
    · refine List.pairwise_append.mpr ⟨h.pairwise, List.pairwise_singleton _ _, ?_⟩
      intro a ha b hb
      rw [List.mem_singleton.mp hb]
      exact haccepted a ha
    · rcases List.mem_append.mp ha with ha | ha
      · exact (haccepted a ha).le
      · rw [List.mem_singleton.mp ha]

/-- **The decision stream is ordered.**  The copies delivered are any list of emissions that lie
within `2 ^ 31 - 1` of each other, and the filter starts in its never-seen state. -/
theorem stream_ordered (binasciiCrc32 : List UInt8 → ℕ)
    (hcrc : ∀ bs, Crc.IsIeee bs (BitVec.ofNat 32 (binasciiCrc32 bs))) (e : Encoder) (mcs : ℕ → ℤ)
    (lastSeq : ℕ) (is : List ℕ) (hsent : ∀ i ∈ is, (emission binasciiCrc32 e mcs i).isSome = true)
    (hnear : ∀ i ∈ is, ∀ j ∈ is, i ≤ j + (2 ^ 31 - 1)) :
    let receive := List.foldl (Receiver.deliver (emission binasciiCrc32 e mcs))
      { dedup := { lastSeq := lastSeq, ever := false } }
    (receive is).accepted.Pairwise (· < ·) ∧ (receive is).accepted.Nodup ∧
      ∀ p i, p ++ [i] <+: is → (∀ j ∈ p, j < i) →
        (receive (p ++ [i])).accepted = (receive p).accepted ++ [i] := by
  intro receive
  have hstep : ∀ p i, p ++ [i] <+: is → Tracks e.seq p (receive p) →
      Tracks e.seq (p ++ [i]) (receive (p ++ [i])) ∧
        ((∀ j ∈ p, j < i) → (receive (p ++ [i])).accepted = (receive p).accepted ++ [i]) := by
    intro p i hp htr
    have hi : i ∈ is := hp.subset (by simp)
    obtain ⟨bytes, hbytes⟩ := Option.isSome_iff_exists.mp (hsent i hi)
    obtain ⟨d, hdec, hseq⟩ := emission_some hcrc hbytes
    have hrec : receive (p ++ [i]) =
        (receive p).deliver (emission binasciiCrc32 e mcs) i := by
      simp only [receive, List.foldl_append, List.foldl_cons, List.foldl_nil]
    rw [hrec]
    refine htr.deliver hbytes hdec hseq fun j hj => ?_
    have hj' : j ∈ is := hp.subset (List.mem_append_left _ hj)
    exact ⟨hnear i hi j hj', hnear j hj' i hi⟩
  have htracks : ∀ p, p <+: is → Tracks e.seq p (receive p) := by
    intro p
    induction p using List.reverseRecOn with
    | nil => exact fun _ => .unseen rfl rfl
    | append_singleton p i ih =>
      exact fun hp => (hstep p i hp (ih ((List.prefix_append p [i]).trans hp))).1
  have hpair := (htracks is List.prefix_rfl).pairwise
  refine ⟨hpair, hpair.imp fun h => h.ne, fun p i hp hnew => ?_⟩
  exact (hstep p i hp (htracks p ((List.prefix_append p [i]).trans hp))).2 hnew

end Stream

/-- The counter wraps between the second and the third emission; they arrive out of order, and one
twice. -/
theorem stream_ordered_wrap :
    (List.foldl (Receiver.deliver
      (emission (fun bs => (DynLink.crc32 bs).toNat) { seq := 2 ^ 32 - 2 } fun _ => 3))
      { dedup := { lastSeq := 7, ever := false } } [1, 0, 2, 2, 3]).accepted.Pairwise (· < ·) :=
  (stream_ordered _ crc32_isIeee_ofNat _ _ 7 [1, 0, 2, 2, 3] (by decide +kernel) (by decide)).1

/-! ## A ground station that is rebuilt -/

/-- The encoder of the running loop, the datagrams under way, the drone's loop, and the datagrams
that it has dropped. -/
structure Link where
  encoder : Encoder := {}
  wire : List (List UInt8) := []
  drone : Loop
  dropped : List (List UInt8) := []

inductive Act where
  /-- `_emit` of a decision with this `mcs`. -/
  | emit (mcs : UInt8)
  /-- `set_config` while running: `_run` starts anew. -/
  | rebuild
  /-- The oldest datagram under way reaches the drone. -/
  | deliver (now : ℕ)
  /-- Any other branch of the drone's loop. -/
  | expire
  | config (snap : DlRuntimeConfig)
  | tick (now : ℕ)
  | gap (ready : Bool)

section Link

variable (binasciiCrc32 : List UInt8 → ℕ) (ack : ℕ → Bool)

def Link.step (s : Link) : Act → Link
  | .emit mcs =>
    match s.encoder.encode binasciiCrc32 mcs.toNat with
    | (some bytes, e) => { s with encoder := e, wire := s.wire ++ [bytes] }
    | (none, e) => { s with encoder := e }
  | .rebuild => { s with encoder := {} }
  | .deliver now =>
    match s.wire with
    | [] => s
    | bytes :: wire =>
      { s with
        wire := wire
        drone := s.drone.input ack (.listen (some (bytes, now)))
        dropped := if (s.drone.accepts bytes).isNone then s.dropped ++ [bytes] else s.dropped }
  | .expire => { s with drone := s.drone.input ack (.expire true) }
  | .config snap => { s with drone := s.drone.input ack (.event (some (.config snap))) }
  | .tick now => { s with drone := s.drone.input ack (.tick (some now)) }
  | .gap ready => { s with drone := s.drone.input ack (.gap ready) }

def Act.emits : Act → Bool
  | .emit _ => true
  | _ => false

/-- The first frame of a loop is delivered to a drone that remembers a decision.  Every loop numbers
its frames from 1. -/
def clash (s : Link) : Act → Bool
  | .deliver _ => s.drone.dedup.ever && s.wire.head?.any fun bytes => getU32 bytes 6 = 1
  | _ => false

/-- Within a loop the numbers are consecutive, and the next loop starts at 1 again. -/
def Next (a b : ℕ) : Prop := b = a + 1 ∨ b = 1

/-- The invariant after `n` emissions.  `ds` are the decisions under way and `k` is the encoder's next
number. -/
structure Flows (s : Link) (n : ℕ) (ds : List Decision) (k : ℕ) : Prop where
  wire : s.wire = ds.map encodeDecision
  sized : ∀ d ∈ ds, d.Sized
  seq : s.encoder.seq = k
  bound : k ≤ n + 1
  chain : List.IsChain Next (ds.map Decision.sequence ++ [k])
  ever : s.drone.dedup.ever = true →
    List.IsChain Next (s.drone.dedup.lastSeq :: (ds.map Decision.sequence ++ [k]))
  dropped : s.dropped = []

variable {binasciiCrc32} {ack} {s : Link} {n k : ℕ} {ds : List Decision}

theorem isChain_restart {l : List ℕ} (h : List.IsChain Next (l ++ [k])) :
    List.IsChain Next (l ++ [1]) := by
  rw [List.isChain_append] at h ⊢
  exact ⟨h.1, List.isChain_singleton _, fun a _ b hb => by simp_all [Next]⟩

theorem isChain_succ {l : List ℕ} (h : List.IsChain Next (l ++ [k])) :
    List.IsChain Next (l ++ [k] ++ [k + 1]) := by
  rw [List.isChain_append]
  exact ⟨h, List.isChain_singleton _, fun a ha b hb => by simp_all [Next]⟩

theorem Flows.emit (hcrc : ∀ bs, Crc.IsIeee bs (BitVec.ofNat 32 (binasciiCrc32 bs)))
    (h : Flows s n ds k) (hn : n < 2 ^ 31) (mcs : UInt8) :
    ∃ ds k, Flows (s.step binasciiCrc32 ack (.emit mcs)) (n + 1) ds k := by
  set d : Decision := { flags := 0, sequence := k, mcs := mcs.toNat } with hd
  have hk := h.bound
  have hsized : d.Sized := ⟨Nat.two_pow_pos 8, by show k < 2 ^ 32; omega, UInt8.toNat_lt mcs⟩
  have hraw := encodeRaw_eq hcrc hsized
  simp only [hd, Nat.cast_zero] at hraw
  have henc : s.encoder.encode binasciiCrc32 mcs.toNat =
      (some (encodeDecision d), { seq := (k : ℤ) + 1 }) := by
    rw [Encoder.encode, h.seq, hraw, Int.emod_eq_of_lt (by omega) (by omega)]
  have hstep : s.step binasciiCrc32 ack (.emit mcs) =
      { s with encoder := { seq := (k : ℤ) + 1 }, wire := s.wire ++ [encodeDecision d] } := by
    rw [Link.step, henc]
  rw [hstep]
  refine ⟨ds ++ [d], k + 1, ?_, ?_, by push_cast; rfl, by omega, ?_, fun he => ?_, h.dropped⟩
  · rw [List.map_append, ← h.wire]
    rfl
  · intro d' hd'
    rcases List.mem_append.mp hd' with hd' | hd'
    · exact h.sized d' hd'
    · rw [List.mem_singleton.mp hd']
      exact hsized
  · rw [List.map_append]
    exact isChain_succ h.chain
  · rw [List.map_append]
    exact isChain_succ (l := s.drone.dedup.lastSeq :: ds.map Decision.sequence) (h.ever he)

theorem Flows.rebuild (h : Flows s n ds k) :
    Flows (s.step binasciiCrc32 ack .rebuild) n ds 1 where
  wire := h.wire
  sized := h.sized
  seq := rfl
  bound := by omega
  chain := isChain_restart h.chain
  ever := fun he => isChain_restart (l := s.drone.dedup.lastSeq :: _) (h.ever he)
  dropped := h.dropped

theorem dedup_input (ack : ℕ → Bool) (t : Loop) {i : Input} (hi : ∀ m, i ≠ .listen m) :
    (t.input ack i).dedup = t.dedup ∨ (t.input ack i).dedup.ever = false := by
  cases hears_input ack t i with
  | quiet hmarks hdedup hwatch hforce hunset => exact .inl hdedup
  | accepted bytes now d h => exact absurd h (hi _)
  | tripped now hfires hmarks hdedup hwatch hcfg hunset =>
    rw [hdedup]
    exact .inr rfl

theorem Flows.input (h : Flows s n ds k) {i : Input} (hi : ∀ m, i ≠ .listen m) :
    Flows { s with drone := s.drone.input ack i } n ds k where
  wire := h.wire
  sized := h.sized
  seq := h.seq
  bound := h.bound
  chain := h.chain
  ever := fun he => by
    rcases dedup_input ack s.drone hi with heq | hno
    · show List.IsChain Next ((s.drone.input ack i).dedup.lastSeq :: _)
      rw [heq]
      exact h.ever (heq ▸ he)
    · exact absurd (hno.symm.trans he) (by decide)
  dropped := h.dropped

theorem Flows.deliver (h : Flows s n ds k) (now : ℕ)
    (hno : clash s (.deliver now) = false) :
    ∃ ds k, Flows (s.step binasciiCrc32 ack (.deliver now)) n ds k := by
  cases ds with
  | nil =>
    have hstep : s.step binasciiCrc32 ack (.deliver now) = s := by simp [Link.step, h.wire]
    rw [hstep]
    exact ⟨[], k, h⟩
  | cons d ds =>
    have hwire : s.wire = encodeDecision d :: ds.map encodeDecision := h.wire
    have hsized := h.sized d (by simp)
    obtain ⟨w, hdec, hseq⟩ : ∃ w, decodeDecision ((encodeDecision d).take 256) = .ok w ∧
        w.sequence = d.sequence := by
      have hdec := decode_encode hsized []
      rw [List.append_nil, ← take_encodeDecision] at hdec
      exact ⟨_, hdec, rfl⟩
    have hkeep : s.drone.dedup.drops w.sequence = false := by
      cases hever : s.drone.dedup.ever with
      | false => rw [Dedup.drops, hever, Bool.false_and]
      | true =>
        have hnext : Next s.drone.dedup.lastSeq d.sequence :=
          (List.isChain_cons_cons.mp (h.ever hever)).1
        rcases hnext with hsucc | hone
        · rw [Dedup.drops, hseq, hsucc, hever]
          simp [i32]
        · have hfirst := getU32_sequence d []
          rw [List.append_nil, hone] at hfirst
          simp [clash, hwire, hfirst, hever] at hno
    have hacc : s.drone.accepts (encodeDecision d) = some w := by
      rw [accepts_eq hdec, hkeep]
      rfl
    have hdedup : (s.drone.input ack (.listen (some (encodeDecision d, now)))).dedup =
        { lastSeq := d.sequence, ever := true } := by
      show (s.drone.listenBranch ack (some (encodeDecision d, now))).dedup = _
      rw [listenBranch_accepted ack hacc, (acceptDecision_heard ack _ now w).1]
      show Dedup.check w.sequence s.drone.dedup = _
      rw [Dedup.check, hkeep, hseq]
      rfl
    have hstep : s.step binasciiCrc32 ack (.deliver now) =
        { s with
          wire := ds.map encodeDecision
          drone := s.drone.input ack (.listen (some (encodeDecision d, now))) } := by
      simp [Link.step, hwire, hacc]
    rw [hstep]
    refine ⟨ds, k, rfl, fun d' hd' => h.sized d' (List.mem_cons_of_mem _ hd'), h.seq, h.bound,
      h.chain.tail, fun _ => ?_, h.dropped⟩
    show List.IsChain Next ((s.drone.input ack _).dedup.lastSeq :: _)
    rw [hdedup]
    exact h.chain

theorem Flows.step (ack : ℕ → Bool) (hcrc : ∀ bs, Crc.IsIeee bs (BitVec.ofNat 32 (binasciiCrc32 bs)))
    (h : Flows s n ds k) {a : Act} (hn : n + [a].countP Act.emits ≤ 2 ^ 31) (hno : clash s a = false) :
    ∃ ds k, Flows (s.step binasciiCrc32 ack a) (n + [a].countP Act.emits) ds k := by
  cases a with
  | emit mcs => exact h.emit hcrc (by simpa [Act.emits] using hn) mcs
  | rebuild => exact ⟨ds, 1, h.rebuild⟩
  | deliver now => exact h.deliver now hno
  | expire => exact ⟨ds, k, h.input nofun⟩
  | config snap => exact ⟨ds, k, h.input nofun⟩
  | tick now => exact ⟨ds, k, h.input nofun⟩
  | gap ready => exact ⟨ds, k, h.input nofun⟩

/-- **A rebuild of the ground station's loop drops no decision**, in every run of fewer than `2 ^ 31`
emissions in which no first frame of a loop meets a drone that remembers a decision. -/
theorem nothing_dropped (binasciiCrc32 : List UInt8 → ℕ)
    (hcrc : ∀ bs, Crc.IsIeee bs (BitVec.ofNat 32 (binasciiCrc32 bs))) (ack : ℕ → Bool)
    (snap : DlRuntimeConfig) (gapFd : Bool) (as : List Act) (htotal : as.countP Act.emits < 2 ^ 31)
    (hmeets : Meets (Link.step binasciiCrc32 ack) (fun s a => clash s a = false)
      { drone := Loop.start snap gapFd } as) :
    (as.foldl (Link.step binasciiCrc32 ack) { drone := Loop.start snap gapFd }).dropped = [] := by
  have hrun : ∀ (as : List Act) (s : Link) (n k : ℕ) (ds : List Decision), Flows s n ds k →
      n + as.countP Act.emits ≤ 2 ^ 31 →
      Meets (Link.step binasciiCrc32 ack) (fun s a => clash s a = false) s as →
      (as.foldl (Link.step binasciiCrc32 ack) s).dropped = [] := by
    intro as
    induction as with
    | nil => exact fun s n k ds h _ _ => h.dropped
    | cons a as ih =>
      intro s n k ds h hn hm
      have hcount : (a :: as).countP Act.emits = [a].countP Act.emits + as.countP Act.emits := by
        rw [← List.countP_append]
        rfl
      obtain ⟨ds', k', h'⟩ := h.step ack hcrc (a := a) (by omega) hm.1
      exact ih _ _ k' ds' h' (by omega) hm.2
  refine hrun as _ 0 1 [] ⟨rfl, nofun, rfl, by omega, ?_, nofun, rfl⟩ (by omega) hmeets
  exact List.isChain_singleton 1

end Link

def ieee : List UInt8 → ℕ := fun bs => (DynLink.crc32 bs).toNat

/-- The loop is rebuilt, and the drone has tripped its watchdog before the new loop is heard. -/
theorem nothing_dropped_after_trip :
    ([.emit 1, .emit 2, .deliver 100, .deliver 200, .rebuild, .tick 20000, .emit 3,
      .deliver 20100].foldl (Link.step ieee allOk)
        { drone := Loop.start (buildDlSnapshot {} "wlan0") true }).dropped = [] := by
  exact nothing_dropped ieee crc32_isIeee_ofNat allOk _ true _ (by decide) (by decide +kernel)

/-- The loop is rebuilt while the drone remembers the second decision of the old one. -/
theorem rebuild_drops :
    ¬ ∀ (snap : DlRuntimeConfig) (as : List Act), as.countP Act.emits < 2 ^ 31 →
      (as.foldl (Link.step ieee allOk) { drone := Loop.start snap true }).dropped = [] := by
  intro h
  have hdrop := h (buildDlSnapshot {} "wlan0")
    [.emit 1, .emit 2, .deliver 100, .deliver 200, .rebuild, .emit 3, .deliver 300] (by decide)
  revert hdrop
  decide +kernel

end Fpvd.Gs
