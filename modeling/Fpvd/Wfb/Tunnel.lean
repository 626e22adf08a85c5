import Mathlib.Data.List.GetD
import Fpvd.Lib.Cutter
import Fpvd.Wfb.AggQueue

/-!
# Fpvd.Wfb.Tunnel — the IP tunnel's batches (`gs/fpvdgs/wfb/tunnel.py`)

A packet read from the tun device is put behind its length, big-endian in two bytes; the aggregation
queue joins such records into batches, and `unpack_batch` takes them apart.
-/

namespace Fpvd.Wfb

def be16 (hi lo : UInt8) : ℕ := hi.toNat * 256 + lo.toNat

def record (data : List UInt8) : List UInt8 :=
  UInt8.ofNat (data.length / 256) :: UInt8.ofNat (data.length % 256) :: data

def packTun (data : List UInt8) : Option (List UInt8) :=
  if data.length < 65536 then some (record data) else none

def unpackFrom (msg : List UInt8) (i : ℕ) : List (List UInt8) :=
  if i < msg.length then
    if msg.length - i < 2 then []
    else
      let pktSize := be16 (msg.getD i 0) (msg.getD (i + 1) 0)
      if msg.length - (i + 2) < pktSize then []
      else (msg.drop (i + 2)).take pktSize :: unpackFrom msg (i + 2 + pktSize)
  else []
termination_by msg.length - i

def unpackBatch (msg : List UInt8) : List (List UInt8) := unpackFrom msg 0

/-- A packet that was read, or what the event loop does. -/
inductive TunInput where
  | read (data : List UInt8)
  | expire (id : ℕ)
  | flush
  | wait (d : ℚ≥0)

def TunInput.packet? : TunInput → Option (List UInt8)
  | .read data => some data
  | _ => none

def AggQueue.onTunReadable (c : AggConfig) (data : List UInt8) (q : AggQueue) : AggQueue :=
  if data = [] then q
  else match packTun data with
    | none => q
    | some rec => q.put c rec

def AggQueue.tunStep (c : AggConfig) (q : AggQueue) : TunInput → AggQueue
  | .read data => q.onTunReadable c data
  | .expire id => q.expire id
  | .flush => q.flush
  | .wait d => { q with now := q.now + d }

/-! ## Records -/

section Records

variable {msg data : List UInt8} {n : ℕ}

def recordLength (msg : List UInt8) : Option ℕ :=
  if msg.length < 2 then none
  else
    let pktSize := be16 (msg.getD 0 0) (msg.getD 1 0)
    if msg.length - 2 < pktSize then none else some (2 + pktSize)

theorem recordLength_eq_some : recordLength msg = some n ↔
    2 ≤ msg.length ∧ n = 2 + be16 (msg.getD 0 0) (msg.getD 1 0) ∧ n ≤ msg.length := by
  unfold recordLength
  dsimp only
  split_ifs with h1 h2
  · exact iff_of_false nofun (by omega)
  · exact iff_of_false nofun (by omega)
  · rw [Option.some.injEq]
    omega

def records : Cutter UInt8 where
  next := recordLength
  pos h := by
    have := recordLength_eq_some.mp h
    omega
  le h := (recordLength_eq_some.mp h).2.2
  stable {buf n} more h := by
    obtain ⟨h2, hn, hle⟩ := recordLength_eq_some.mp h
    rw [recordLength_eq_some, List.getD_append _ _ _ _ (by omega), List.getD_append _ _ _ _ (by omega),
      List.length_append]
    exact ⟨by omega, hn, by omega⟩

theorem getD_drop (msg : List UInt8) (i j : ℕ) : (msg.drop i).getD j 0 = msg.getD (i + j) 0 := by
  simp only [List.getD_eq_getElem?_getD, List.getElem?_drop]

theorem unpackFrom_eq (msg : List UInt8) (i : ℕ) :
    unpackFrom msg i = (records.cut (msg.drop i)).1.map (List.drop 2) := by
  have hstop : ∀ {i : ℕ}, recordLength (msg.drop i) = none →
      [] = (records.cut (msg.drop i)).1.map (List.drop 2) := by
    intro i h
    rw [Cutter.cut_none h, List.map_nil]
  fun_induction unpackFrom msg i with
  | case1 i hi hshort =>
    refine hstop (if_pos ?_)
    rwa [List.length_drop]
  | case2 i hi hlong pktSize htrunc =>
    refine hstop ?_
    rw [recordLength, List.length_drop, if_neg hlong, getD_drop, getD_drop]
    refine if_pos ?_
    show msg.length - i - 2 < pktSize
    omega
  | case3 i hi hlong pktSize hfits ih =>
    have hnext : recordLength (msg.drop i) = some (2 + pktSize) := by
      rw [recordLength_eq_some, List.length_drop, getD_drop, getD_drop]
      exact ⟨by omega, rfl, by omega⟩
    rw [Cutter.cut_some hnext, List.map_cons, List.drop_drop, List.drop_take, List.drop_drop, ih,
      Nat.add_sub_cancel_left, ← Nat.add_assoc]
  | case4 i hi =>
    refine hstop (if_pos ?_)
    rw [List.length_drop]
    omega

theorem unpackBatch_eq (msg : List UInt8) :
    unpackBatch msg = (records.cut msg).1.map (List.drop 2) := unpackFrom_eq msg 0

theorem record_length (data : List UInt8) : (record data).length = 2 + data.length := by
  rw [record, List.length_cons, List.length_cons]
  omega

theorem whole_record (h : data.length < 65536) : records.Whole (record data) := by
  show recordLength (record data) = some (record data).length
  refine recordLength_eq_some.mpr ⟨?_, ?_, le_rfl⟩
  · rw [record_length]
    omega
  · have hhi : (UInt8.ofNat (data.length / 256)).toNat = data.length / 256 :=
      UInt8.toNat_ofNat_of_lt (show data.length / 256 < 256 by omega)
    have hlo : (UInt8.ofNat (data.length % 256)).toNat = data.length % 256 :=
      UInt8.toNat_ofNat_of_lt (show data.length % 256 < 256 by omega)
    rw [record_length]
    show 2 + data.length = 2 + ((UInt8.ofNat (data.length / 256)).toNat * 256 +
      (UInt8.ofNat (data.length % 256)).toNat)
    rw [hhi, hlo]
    omega

theorem record_of_piece (h : recordLength msg = some n) :
    record ((msg.take n).drop 2) = msg.take n ∧ ((msg.take n).drop 2).length < 65536 := by
  obtain ⟨h2, hn, hle⟩ := recordLength_eq_some.mp h
  obtain ⟨hi, lo, rest, rfl⟩ : ∃ hi lo rest, msg = hi :: lo :: rest := by
    cases msg with
    | nil => cases h2
    | cons hi msg =>
      cases msg with
      | nil => exact absurd h2 (by simp)
      | cons lo rest => exact ⟨hi, lo, rest, rfl⟩
  have hsize : n = 2 + (hi.toNat * 256 + lo.toNat) := hn
  have hlo := lo.toNat_lt
  have hhi := hi.toNat_lt
  obtain ⟨m, rfl⟩ : ∃ m, n = m + 2 := ⟨n - 2, by omega⟩
  have hlen : (rest.take m).length = hi.toNat * 256 + lo.toNat := by
    rw [List.length_take]
    simp only [List.length_cons] at hle
    omega
  have hdiv : (hi.toNat * 256 + lo.toNat) / 256 = hi.toNat := by omega
  have hmod : (hi.toNat * 256 + lo.toNat) % 256 = lo.toNat := by omega
  rw [List.take_succ_cons, List.take_succ_cons, List.drop_succ_cons, List.drop_succ_cons, List.drop_zero,
    record, hlen, hdiv, hmod, UInt8.ofNat_toNat, UInt8.ofNat_toNat]
  exact ⟨rfl, by omega⟩

def packed (packets : List (List UInt8)) : List UInt8 := (packets.map record).flatten

def Packable (packets : List (List UInt8)) : Prop := ∀ p ∈ packets, p.length < 65536

theorem mapM_packTun {packets : List (List UInt8)} {rs : List (List UInt8)} :
    packets.mapM packTun = some rs ↔ Packable packets ∧ rs = packets.map record := by
  induction packets generalizing rs with
  | nil => simp [Packable, eq_comm]
  | cons p packets ih =>
    rw [List.mapM_cons]
    by_cases hp : p.length < 65536
    · have hpack : packTun p = some (record p) := if_pos hp
      simp only [hpack, Option.bind_eq_bind, Option.bind_some, Option.bind_eq_some_iff, ih, Packable,
        List.forall_mem_cons, hp, true_and, List.map_cons, Option.pure_def, Option.some.injEq]
      constructor
      · rintro ⟨rs', ⟨hall, rfl⟩, rfl⟩
        exact ⟨hall, rfl⟩
      · rintro ⟨hall, rfl⟩
        exact ⟨_, ⟨hall, rfl⟩, rfl⟩
    · have hpack : packTun p = none := if_neg hp
      simp [hpack, Packable, hp]

theorem unpackBatch_packed {packets : List (List UInt8)} (h : Packable packets) (more : List UInt8) :
    unpackBatch (packed packets ++ more) = packets ++ unpackBatch more := by
  have hwhole : ∀ r ∈ packets.map record, records.Whole r := by
    intro r hr
    obtain ⟨p, hp, rfl⟩ := List.mem_map.mp hr
    exact whole_record (h p hp)
  have hdrop : packets.map (List.drop 2 ∘ record) = packets := List.map_id' packets
  rw [unpackBatch_eq, packed, Cutter.pieces_of_whole hwhole, List.map_append, List.map_map, hdrop,
    ← unpackBatch_eq]

/-- **`unpack_batch` on arbitrary bytes**: its packets can be packed again, that is how the bytes begin,
and no other packets get further. -/
theorem unpackBatch_records (msg : List UInt8) :
    Packable (unpackBatch msg) ∧ packed (unpackBatch msg) <+: msg ∧
      ∀ packets, Packable packets → packed packets <+: msg → packets <+: unpackBatch msg := by
  have hpiece : ∀ r ∈ (records.cut msg).1, record (r.drop 2) = r ∧ (r.drop 2).length < 65536 := by
    intro r hr
    obtain ⟨front, n, hn, rfl⟩ := Cutter.exists_of_mem_cut msg hr
    exact record_of_piece hn
  refine ⟨fun p hp => ?_, ?_, fun packets hpackets hmsg => ?_⟩
  · rw [unpackBatch_eq] at hp
    obtain ⟨r, hr, rfl⟩ := List.mem_map.mp hp
    exact (hpiece r hr).2
  · have hmap : ((records.cut msg).1.map (List.drop 2)).map record = (records.cut msg).1 := by
      rw [List.map_map]
      exact (List.map_congr_left fun r hr => (hpiece r hr).1).trans (List.map_id _)
    rw [unpackBatch_eq, packed, hmap]
    exact ⟨_, Cutter.cut_flatten msg⟩
  · obtain ⟨more, rfl⟩ := hmsg
    rw [unpackBatch_packed hpackets]
    exact List.prefix_append _ _

end Records

/-! ## From the tun device to the batches -/

/-- A batch of some packets that is not too big. -/
structure Batch (mtu : ℕ) (batch : List UInt8) (packets : List (List UInt8)) : Prop where
  eq : batch = packed packets
  packable : Packable packets
  length : batch.length ≤ mtu

/-- What was sent and what is queued are batches of the packets read. -/
structure Lossless (c : AggConfig) (mtu : ℕ) (q : AggQueue) (read : List (List UInt8)) : Prop where
  size : q.queueSize = q.joined.length
  passthrough : c.aggregates = none → q.queue = []
  batches : ∃ batches waiting, List.Forall₂ (Batch mtu) q.sent batches ∧ Batch mtu q.joined waiting ∧
    read = batches.flatten ++ waiting

section Lossless

open AggQueue

variable {c : AggConfig} {mtu : ℕ} {q : AggQueue} {read : List (List UInt8)} {data : List UInt8}

theorem packed_eq_nil {packets : List (List UInt8)} (h : packed packets = []) : packets = [] := by
  cases packets with
  | nil => rfl
  | cons p packets => cases h

theorem Lossless.sendQueue (h : Lossless c mtu q read) : Lossless c mtu q.cancelTimer.sendQueue read := by
  obtain ⟨batches, waiting, hsent, hjoined, rfl⟩ := h.batches
  refine ⟨rfl, fun _ => rfl, batches ++ [waiting], [], ?_, ?_, by simp⟩
  · exact List.rel_append hsent (.cons hjoined .nil)
  · exact ⟨rfl, nofun, Nat.zero_le _⟩

theorem Lossless.flush (h : Lossless c mtu q read) : Lossless c mtu q.flush read := by
  unfold AggQueue.flush
  split_ifs
  · exact h.sendQueue
  · exact h

theorem Lossless.timers {q' : AggQueue} (h : Lossless c mtu q read) (hqueue : q'.queue = q.queue)
    (hsize : q'.queueSize = q.queueSize) (hsent : q'.sent = q.sent) : Lossless c mtu q' read := by
  have hjoined : q'.joined = q.joined := by rw [joined, hqueue, joined]
  refine ⟨by rw [hsize, hjoined, h.size], fun hc => by rw [hqueue, h.passthrough hc], ?_⟩
  rw [hsent, hjoined]
  exact h.batches

theorem Lossless.enqueue (h : Lossless c mtu q read) (timeout : ℚ) (hagg : c.aggregates ≠ none)
    (hdata : data.length < 65536) (hfit : q.queueSize + (record data).length ≤ mtu) :
    Lossless c mtu (q.enqueue timeout (record data)) (read ++ [data]) := by
  obtain ⟨batches, waiting, hsent, hjoined, rfl⟩ := h.batches
  have hqueued : Lossless c mtu
      { q with
        queue := q.queue ++ [⟨q.now, record data⟩]
        queueSize := q.queueSize + (record data).length }
      (batches.flatten ++ waiting ++ [data]) := by
    refine ⟨?_, fun hc => absurd hc hagg, batches, waiting ++ [data], hsent, ⟨?_, ?_, ?_⟩, ?_⟩
    · rw [joined_concat rfl, List.length_append, ← h.size]
    · rw [joined_concat rfl, hjoined.eq]
      simp [packed]
    · exact List.forall_mem_append.mpr ⟨hjoined.packable, List.forall_mem_singleton.mpr hdata⟩
    · rw [joined_concat rfl, List.length_append, ← h.size]
      exact hfit
    · rw [List.append_assoc]
  unfold AggQueue.enqueue
  dsimp only
  split_ifs
  · exact hqueued.timers rfl rfl rfl
  · exact hqueued

theorem Lossless.onTunReadable {timeout : Option ℚ} (h : Lossless ⟨some mtu, timeout⟩ mtu q read)
    (hmtu : mtu ≤ 65537) (hpos : 1 ≤ data.length) (hle : data.length ≤ mtu - 2) :
    Lossless ⟨some mtu, timeout⟩ mtu (q.onTunReadable ⟨some mtu, timeout⟩ data) (read ++ [data]) := by
  have hlen : data.length < 65536 := by omega
  have hrec := record_length data
  have hne : data ≠ [] := by
    rintro rfl
    cases hpos
  rw [AggQueue.onTunReadable, if_neg hne, packTun, if_pos hlen]
  dsimp only
  unfold AggQueue.put
  cases hagg : AggConfig.aggregates ⟨some mtu, timeout⟩ with
  | none =>
    obtain ⟨batches, waiting, hsent, hjoined, rfl⟩ := h.batches
    have hqueue := h.passthrough hagg
    have hwaiting : waiting = [] := by
      refine packed_eq_nil (hjoined.eq.symm.trans ?_)
      rw [joined, hqueue]
      rfl
    subst hwaiting
    refine ⟨h.size, fun _ => hqueue, batches ++ [[data]], [], ?_, hjoined, by simp⟩
    refine List.rel_append hsent (.cons ⟨by simp [packed], ?_, by omega⟩ .nil)
    exact List.forall_mem_singleton.mpr hlen
  | some mode =>
    obtain ⟨maxSize, t⟩ := mode
    obtain rfl : mtu = maxSize := by
      cases timeout with
      | none => cases hagg
      | some timeout =>
        unfold AggConfig.aggregates at hagg
        dsimp only at hagg
        split_ifs at hagg
        exact (Prod.mk.inj (Option.some.inj hagg)).1
    have hmode : AggConfig.aggregates ⟨some mtu, timeout⟩ ≠ none := by
      rw [hagg]
      exact Option.some_ne_none _
    dsimp only
    rw [if_neg (by omega), makeRoom]
    split_ifs with hfull hqueue
    · -- an empty queue has room for every packet
      have hsize : q.queueSize = 0 := by
        rw [h.size, joined, hqueue]
        rfl
      omega
    · refine h.sendQueue.enqueue t hmode hlen ?_
      show 0 + (record data).length ≤ mtu
      omega
    · exact h.enqueue t hmode hlen (by omega)

theorem Lossless.tunStep {timeout : Option ℚ} (h : Lossless ⟨some mtu, timeout⟩ mtu q read)
    (hmtu : mtu ≤ 65537) (i : TunInput)
    (hi : ∀ data, i.packet? = some data → 1 ≤ data.length ∧ data.length ≤ mtu - 2) :
    Lossless ⟨some mtu, timeout⟩ mtu (q.tunStep ⟨some mtu, timeout⟩ i) (read ++ i.packet?.toList) := by
  cases i with
  | read data => exact h.onTunReadable hmtu (hi data rfl).1 (hi data rfl).2
  | expire id =>
    show Lossless _ _ (q.expire id) (read ++ [])
    rw [List.append_nil]
    unfold AggQueue.expire
    split_ifs
    · refine Lossless.flush ?_
      exact h.timers rfl rfl rfl
    · exact h
  | flush =>
    show Lossless _ _ q.flush (read ++ [])
    rw [List.append_nil]
    exact h.flush
  | wait d =>
    show Lossless _ _ { q with now := q.now + d } (read ++ [])
    rw [List.append_nil]
    exact h.timers rfl rfl rfl

theorem lossless_run (timeout : Option ℚ) (hmtu : mtu ≤ 65537) (inputs : List TunInput)
    (hread : ∀ i ∈ inputs, ∀ data, i.packet? = some data → 1 ≤ data.length ∧ data.length ≤ mtu - 2) :
    Lossless ⟨some mtu, timeout⟩ mtu (inputs.foldl (AggQueue.tunStep ⟨some mtu, timeout⟩) {})
      (inputs.filterMap TunInput.packet?) := by
  induction inputs using List.reverseRecOn with
  | nil => exact ⟨rfl, fun _ => rfl, [], [], .nil, ⟨rfl, nofun, Nat.zero_le _⟩, rfl⟩
  | append_singleton inputs i ih =>
    rw [List.foldl_append, List.filterMap_append]
    have hlast : [i].filterMap TunInput.packet? = i.packet?.toList := by
      cases h : i.packet? <;> simp [h]
    rw [hlast]
    exact (ih fun j hj => hread j (List.mem_append_left _ hj)).tunStep hmtu i
      (hread i (List.mem_append_right _ (List.mem_singleton_self i)))

theorem unpackBatch_batch {batch : List UInt8} {packets : List (List UInt8)} (h : Batch mtu batch packets) :
    unpackBatch batch = packets := by
  have hround := unpackBatch_packed h.packable []
  rw [List.append_nil, ← h.eq] at hround
  rw [hround, unpackBatch, unpackFrom]
  simp

theorem flatMap_unpackBatch {sent : List (List UInt8)} {batches : List (List (List UInt8))}
    (h : List.Forall₂ (Batch mtu) sent batches) : sent.flatMap unpackBatch = batches.flatten := by
  induction h with
  | nil => rfl
  | cons hb _ ih => rw [List.flatMap_cons, List.flatten_cons, unpackBatch_batch hb, ih]

end Lossless

/-- **The tunnel loses nothing.**  For every size of the radio's batches up to 65537, every timeout, every
sequence of packets that the tun device can give and every placement of timers and flushes: no batch is
too big, and the batches and then what is queued unpack to the packets read.  And for every byte string
`unpack_batch` gives the packets that make up the longest run of whole records at its front. -/
theorem tunnel_lossless (mtu : ℕ) (hmtu : mtu ≤ 65537) (timeout : Option ℚ) (inputs : List TunInput)
    (hread : ∀ i ∈ inputs, ∀ data, i.packet? = some data → 1 ≤ data.length ∧ data.length ≤ mtu - 2)
    (msg : List UInt8) :
    let q := inputs.foldl (AggQueue.tunStep ⟨some mtu, timeout⟩) {}
    (∀ batch ∈ q.sent, batch.length ≤ mtu) ∧
      q.sent.flatMap unpackBatch ++ unpackBatch q.joined = inputs.filterMap TunInput.packet? ∧
      ∃ rs, (unpackBatch msg).mapM packTun = some rs ∧ rs.flatten <+: msg ∧
        ∀ packets rs', packets.mapM packTun = some rs' → rs'.flatten <+: msg →
          packets <+: unpackBatch msg ∧ rs'.flatten <+: rs.flatten := by
  intro q
  obtain ⟨batches, waiting, hsent, hjoined, hall⟩ := (lossless_run timeout hmtu inputs hread).batches
  obtain ⟨hpack, hfront, hmost⟩ := unpackBatch_records msg
  refine ⟨fun batch hbatch => ?_, ?_, _, mapM_packTun.mpr ⟨hpack, rfl⟩, hfront,
    fun packets rs' hpackets hmsg => ?_⟩
  · have hsmall : List.Forall₂ (fun b ps => b.length ≤ mtu ∧ Batch mtu b ps) q.sent batches :=
      hsent.imp fun _ _ hb => ⟨hb.length, hb⟩
    exact ((List.forall₂_and_left _ _).mp hsmall).1 batch hbatch
  · rw [flatMap_unpackBatch hsent, unpackBatch_batch hjoined, hall]
  · obtain ⟨hpackable, rfl⟩ := mapM_packTun.mp hpackets
    have hshorter := hmost packets hpackable hmsg
    exact ⟨hshorter, (hshorter.map record).flatten⟩

/-- Two packets, a timer that fires between them, and a batch that ends in the middle of a record. -/
theorem tunnel_lossless_two :
    let q := [TunInput.read [1], .expire 0, .read [2, 3]].foldl
      (AggQueue.tunStep ⟨some 1445, some (1 / 200)⟩) {}
    (∀ batch ∈ q.sent, batch.length ≤ 1445) ∧
      q.sent.flatMap unpackBatch ++ unpackBatch q.joined = [[1], [2, 3]] ∧
      ∃ rs, (unpackBatch [0, 1, 7, 0, 2, 8]).mapM packTun = some rs ∧ rs.flatten <+: [0, 1, 7, 0, 2, 8] ∧
        ∀ packets rs', packets.mapM packTun = some rs' → rs'.flatten <+: [0, 1, 7, 0, 2, 8] →
          packets <+: unpackBatch [0, 1, 7, 0, 2, 8] ∧ rs'.flatten <+: rs.flatten :=
  tunnel_lossless 1445 (by decide) (some (1 / 200)) [.read [1], .expire 0, .read [2, 3]]
    (by simp [TunInput.packet?]) [0, 1, 7, 0, 2, 8]

end Fpvd.Wfb
