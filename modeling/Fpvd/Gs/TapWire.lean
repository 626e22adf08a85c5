import Fpvd.Lib.Struct
import Fpvd.Gs.Signals

/-!
# Fpvd.Gs.TapWire — the datagrams of the tap (`gs/fpvdgs/dynlink/tap_wire.py`)

A record of the tap is one little-endian packed datagram: a window of 10 ms with its antennas, or a notice
of loss.
-/

namespace Fpvd.Gs.TapWire

open Struct

def tapTypeMicro : UInt8 := 1

def tapTypeLoss : UInt8 := 2

def tapVersion : UInt8 := 1

-- The codes B, H, I, Q, b and h of a format.
def u8 : Field := { size := 1 }
def u16 : Field := { size := 2 }
def u32 : Field := { size := 4 }
def u64 : Field := { size := 8 }
def i8 : Field := { size := 1, signed := true }
def i16 : Field := { size := 2, signed := true }

def tapHdr : List Field := [u8, u8, u16, u64, u32, u32, u32, u32, u32, u8]

def tapBucket : List Field := [u16, u8, u8, u64, u32, i8, i8, i8, i8, i8, i8, i16, i16, i16]

def tapLoss : List Field := [u8, u8, u16, u64, u32, u32, u32]

/-- `TapMicro`, with what only the wire has. -/
structure Micro extends TapMicro where
  seq : ℤ
  timestampMs : ℤ
  deriving DecidableEq, Repr

structure Loss where
  seq : ℤ
  timestampMs : ℤ
  lostCount : ℤ
  lastSeq : ℤ
  newSeq : ℤ
  deriving DecidableEq, Repr

inductive TapRecord where
  | micro (rec : Micro)
  | loss (rec : Loss)
  deriving DecidableEq, Repr

inductive TapExc where
  | tapDecodeError (msg : String)
  /-- `struct.error`: the buffer is too short, or not of the size -/
  | structError
  /-- a tuple of another length -/
  | valueError
  deriving DecidableEq, Repr

def unpackFrom (fmt : List Field) (data : List UInt8) (off : ℕ) : Except TapExc (List ℤ) :=
  if data.length < off + size fmt then .error .structError
  else .ok (unpack fmt ((data.drop off).take (size fmt)))

def unpackAll (fmt : List Field) (data : List UInt8) : Except TapExc (List ℤ) :=
  if data.length ≠ size fmt then .error .structError else .ok (unpack fmt data)

def readBucket (data : List UInt8) (off : ℕ) : Except TapExc RxAnt := do
  match ← unpackFrom tapBucket data off with
  | [freq, mcs, bw, ant, recv, rmin, ravg, rmax, smin, savg, smax, emin, eavg, emax] =>
    .ok ⟨ant, freq, mcs, bw, recv, rmin, ravg, rmax, smin, savg, smax, emin, eavg, emax⟩
  | _ => .error .valueError

def readBuckets (data : List UInt8) : ℕ → ℕ → Except TapExc (List RxAnt)
  | 0, _ => .ok []
  | n + 1, off => do
    let ant ← readBucket data off
    .ok (ant :: (← readBuckets data n (off + size tapBucket)))

def decodeLoss (data : List UInt8) : Except TapExc TapRecord := do
  if data.length ≠ size tapLoss then
    .error (.tapDecodeError s!"LOSS: {data.length} bytes, want {size tapLoss}")
  else match ← unpackAll tapLoss data with
    | [_, _, seq, ts, lost, last, new] => .ok (.loss ⟨seq, ts, lost, last, new⟩)
    | _ => .error .valueError

def decodeMicro (data : List UInt8) : Except TapExc TapRecord := do
  if data.length < size tapHdr then
    .error (.tapDecodeError s!"MICRO: {data.length} bytes, want >= {size tapHdr}")
  else match ← unpackFrom tapHdr data 0 with
    | [_, _, seq, ts, pAll, pData, pFec, pLost, pOut, n] =>
      if (data.length : ℤ) ≠ size tapHdr + n * size tapBucket then
        .error (.tapDecodeError s!"MICRO: {data.length} bytes for {n} buckets")
      else do
        let ants ← readBuckets data n.toNat (size tapHdr)
        .ok (.micro ⟨⟨pAll, pData, pFec, pLost, pOut, ants⟩, seq, ts⟩)
    | _ => .error .valueError

def decode : List UInt8 → Except TapExc (Option TapRecord)
  | rtype :: version :: rest =>
    if version ≠ tapVersion ∨ rtype ∉ [tapTypeMicro, tapTypeLoss] then .ok none
    else if rtype = tapTypeLoss then some <$> decodeLoss (rtype :: version :: rest)
    else some <$> decodeMicro (rtype :: version :: rest)
  | data => .error (.tapDecodeError s!"short datagram ({data.length} bytes)")

def antValues (a : RxAnt) : List ℤ :=
  [a.freq, a.mcs, a.bw, a.ant, a.pktRecv, a.rssiMin, a.rssiAvg, a.rssiMax, a.snrMin, a.snrAvg,
    a.snrMax, a.evmMin, a.evmAvg, a.evmMax]

def AntFits (a : RxAnt) : Prop := List.Forall₂ Field.Fits tapBucket (antValues a)

def antBytes (a : RxAnt) : List UInt8 := pack tapBucket (antValues a)

def Micro.values (rec : Micro) : List ℤ :=
  [1, 1, rec.seq, rec.timestampMs, rec.pktAll, rec.pktData, rec.pktFecRec, rec.pktLost, rec.pktOut,
    rec.rxAntStats.length]

def Loss.values (rec : Loss) : List ℤ :=
  [2, 1, rec.seq, rec.timestampMs, rec.lostCount, rec.lastSeq, rec.newSeq]

def TapRecord.Fits : TapRecord → Prop
  | .micro rec => List.Forall₂ Field.Fits tapHdr rec.values ∧ ∀ a ∈ rec.rxAntStats, AntFits a
  | .loss rec => List.Forall₂ Field.Fits tapLoss rec.values

def TapRecord.encode : TapRecord → List UInt8
  | .micro rec => pack tapHdr rec.values ++ rec.rxAntStats.flatMap antBytes
  | .loss rec => pack tapLoss rec.values

def TapRecord.size : TapRecord → ℕ
  | .micro rec => 33 + 28 * rec.rxAntStats.length
  | .loss _ => 24

/-- What an answer to a datagram has to say of it. -/
def Means (data : List UInt8) : Except TapExc (Option TapRecord) → Prop
  | .error e => ∃ msg, e = .tapDecodeError msg
  | .ok none => ∃ rtype version rest, data = rtype :: version :: rest ∧
      (version ≠ 1 ∨ rtype ≠ 1 ∧ rtype ≠ 2)
  | .ok (some r) => r.Fits ∧ data = r.encode

section Reads

variable {data rest : List UInt8} {off n : ℕ}

theorem exists_antValues (bs : List UInt8) : ∃ a, unpack tapBucket bs = antValues a :=
  ⟨⟨_, _, _, _, _, _, _, _, _, _, _, _, _, _⟩, rfl⟩

theorem readBucket_spec (h : off + size tapBucket ≤ data.length) :
    ∃ a, readBucket data off = .ok a ∧ AntFits a ∧ antBytes a = (data.drop off).take (size tapBucket) := by
  have hlen : ((data.drop off).take (size tapBucket)).length = size tapBucket := by
    rw [List.length_take, List.length_drop]
    omega
  obtain ⟨a, ha⟩ := exists_antValues ((data.drop off).take (size tapBucket))
  refine ⟨a, ?_, (unpack_eq_iff hlen).mp ha⟩
  rw [readBucket, unpackFrom, if_neg (by omega), ha]
  rfl

theorem readBuckets_spec (h : data.length = off + n * size tapBucket) :
    ∃ ants, readBuckets data n off = .ok ants ∧ ants.length = n ∧ (∀ a ∈ ants, AntFits a) ∧
      ants.flatMap antBytes = data.drop off := by
  induction n generalizing off with
  | zero => exact ⟨[], rfl, rfl, by simp, by simp [h]⟩
  | succ n ih =>
    rw [Nat.succ_mul] at h
    obtain ⟨a, ha, hfits, hpack⟩ := readBucket_spec (by omega : off + size tapBucket ≤ data.length)
    obtain ⟨ants, hants, hlen, hall, hflat⟩ := ih (by omega : _ = off + size tapBucket + _)
    refine ⟨a :: ants, ?_, ?_, List.forall_mem_cons.mpr ⟨hfits, hall⟩, ?_⟩
    · rw [readBuckets, ha, hants]
      rfl
    · rw [List.length_cons, hlen]
    · rw [List.flatMap_cons, hpack, hflat, ← List.drop_drop, List.take_append_drop]

theorem decodeLoss_eq {rec : Loss} (hlen : data.length = size tapLoss)
    (hrec : unpack tapLoss data = rec.values) : decodeLoss data = .ok (.loss rec) := by
  rw [decodeLoss, if_neg (not_not.mpr hlen), unpackAll, if_neg (not_not.mpr hlen), hrec]
  rfl

theorem decodeMicro_eq (rec : Micro)
    (hlen : data.length = size tapHdr + rec.rxAntStats.length * size tapBucket)
    (hrec : unpack tapHdr (data.take (size tapHdr)) = rec.values)
    (hants : readBuckets data rec.rxAntStats.length (size tapHdr) = .ok rec.rxAntStats) :
    decodeMicro data = .ok (.micro rec) := by
  rw [decodeMicro, if_neg (by omega), unpackFrom, if_neg (by omega), List.drop_zero, hrec]
  simp only [bind, Except.bind, Micro.values, Int.toNat_natCast, hants]
  rw [if_neg (not_not.mpr (by exact_mod_cast hlen))]

theorem decodeLoss_spec (hdata : data = 2 :: 1 :: rest) : Means data (some <$> decodeLoss data) := by
  by_cases hlen : data.length = size tapLoss
  · obtain ⟨rec, hrec⟩ : ∃ rec : Loss, unpack tapLoss data = rec.values := by
      subst hdata
      exact ⟨⟨_, _, _, _, _⟩, rfl⟩
    obtain ⟨hfits, hpack⟩ := (unpack_eq_iff hlen).mp hrec
    rw [decodeLoss_eq hlen hrec]
    exact ⟨hfits, hpack.symm⟩
  · rw [decodeLoss, if_pos hlen]
    exact ⟨_, rfl⟩

theorem exists_hdrValues (bs : List UInt8) : ∃ (seq ts pAll pData pFec pLost pOut : ℤ) (n : ℕ),
    unpack tapHdr (1 :: 1 :: bs) = [1, 1, seq, ts, pAll, pData, pFec, pLost, pOut, (n : ℤ)] :=
  ⟨_, _, _, _, _, _, _, _, rfl⟩

theorem decodeMicro_spec (hdata : data = 1 :: 1 :: rest) : Means data (some <$> decodeMicro data) := by
  by_cases hshort : data.length < size tapHdr
  · rw [decodeMicro, if_pos hshort]
    exact ⟨_, rfl⟩
  have hlen : (data.take (size tapHdr)).length = size tapHdr := by
    rw [List.length_take]
    omega
  have htake : data.take (size tapHdr) = 1 :: 1 :: rest.take 31 := by
    rw [hdata]
    rfl
  obtain ⟨seq, ts, pAll, pData, pFec, pLost, pOut, n, hhdr⟩ := exists_hdrValues (rest.take 31)
  rw [← htake] at hhdr
  by_cases hsize : data.length = size tapHdr + n * size tapBucket
  · obtain ⟨ants, hants, rfl, hall, hflat⟩ := readBuckets_spec hsize
    obtain ⟨hfits, hpack⟩ := (unpack_eq_iff hlen).mp hhdr
    rw [decodeMicro_eq ⟨⟨pAll, pData, pFec, pLost, pOut, ants⟩, seq, ts⟩ hsize hhdr hants]
    refine ⟨⟨hfits, hall⟩, ?_⟩
    rw [TapRecord.encode, hflat, Micro.values, hpack, List.take_append_drop]
  · rw [decodeMicro, if_neg hshort, unpackFrom, if_neg (by omega), List.drop_zero, hhdr]
    simp only [bind, Except.bind]
    rw [if_pos (by exact_mod_cast hsize)]
    exact ⟨_, rfl⟩

end Reads

section Exact

variable {data : List UInt8} {ants : List RxAnt} {r : TapRecord}

theorem length_flatMap_antBytes (h : ∀ a ∈ ants, AntFits a) :
    (ants.flatMap antBytes).length = ants.length * size tapBucket := by
  induction ants with
  | nil => rfl
  | cons a ants ih =>
    obtain ⟨ha, hants⟩ := List.forall_mem_cons.mp h
    have hlen : (antBytes a).length = size tapBucket := length_pack ha
    rw [List.flatMap_cons, List.length_append, hlen, ih hants, List.length_cons, Nat.succ_mul, add_comm]

theorem readBuckets_flatMap (pre : List UInt8) (h : ∀ a ∈ ants, AntFits a) :
    readBuckets (pre ++ ants.flatMap antBytes) ants.length pre.length = .ok ants := by
  induction ants generalizing pre with
  | nil => rfl
  | cons a ants ih =>
    obtain ⟨ha, hants⟩ := List.forall_mem_cons.mp h
    have hlen : (antBytes a).length = size tapBucket := length_pack ha
    have hvals : unpack tapBucket (antBytes a) = antValues a := unpack_pack ha
    have hrest := ih (pre ++ antBytes a) hants
    rw [List.append_assoc, List.length_append, hlen] at hrest
    rw [List.flatMap_cons, List.length_cons, readBuckets, hrest, readBucket, unpackFrom,
      if_neg (by simp only [List.length_append]; omega), List.drop_left, List.take_left' hlen, hvals]
    rfl

theorem length_encode (h : r.Fits) : r.encode.length = r.size := by
  cases r with
  | loss rec => exact length_pack h
  | micro rec =>
    rw [TapRecord.encode, List.length_append, length_pack h.1, length_flatMap_antBytes h.2, mul_comm]
    rfl

theorem decode_encode (h : r.Fits) : decode r.encode = .ok (some r) := by
  cases r with
  | loss rec =>
    change some <$> decodeLoss (pack tapLoss rec.values) = _
    rw [decodeLoss_eq (length_pack h) (unpack_pack h)]
    rfl
  | micro rec =>
    have hhdr := length_pack h.1
    have hants := readBuckets_flatMap (pack tapHdr rec.values) h.2
    rw [hhdr] at hants
    change some <$> decodeMicro (pack tapHdr rec.values ++ _) = _
    rw [decodeMicro_eq rec ?_ ?_ hants]
    · rfl
    · rw [List.length_append, hhdr, length_flatMap_antBytes h.2]
    · rw [List.take_left' hhdr, unpack_pack h.1]

theorem decode_unknown {rtype version : UInt8} {rest : List UInt8}
    (h : version ≠ 1 ∨ rtype ≠ 1 ∧ rtype ≠ 2) : decode (rtype :: version :: rest) = .ok none := by
  rw [decode, if_pos]
  simpa [tapVersion, tapTypeMicro, tapTypeLoss] using h

theorem decode_spec (data : List UInt8) : Means data (decode data) := by
  match data with
  | [] | [_] => exact ⟨_, rfl⟩
  | rtype :: version :: rest =>
    by_cases hunknown : version ≠ 1 ∨ rtype ≠ 1 ∧ rtype ≠ 2
    · rw [decode_unknown hunknown]
      exact ⟨rtype, version, rest, rfl, hunknown⟩
    · obtain ⟨rfl, rfl | rfl⟩ : version = 1 ∧ (rtype = 1 ∨ rtype = 2) := by tauto
      · exact decodeMicro_spec rfl
      · exact decodeLoss_spec rfl

/-- **The decoder is exact.**  Nothing but `TapDecodeError` is raised; there is no record iff the type or the
version is unknown; and a record comes of its own encoding alone, whose length is that of its layout. -/
theorem decode_exact (data : List UInt8) :
    (∀ e, decode data = .error e → ∃ msg, e = .tapDecodeError msg) ∧
      (decode data = .ok none ↔ ∃ rtype version rest, data = rtype :: version :: rest ∧
        (version ≠ 1 ∨ rtype ≠ 1 ∧ rtype ≠ 2)) ∧
      (∀ r, decode data = .ok (some r) ↔ r.Fits ∧ data = r.encode) ∧
      ∀ r, r.Fits → r.encode.length = r.size ∧ decode r.encode = .ok (some r) ∧
        (decode data = .ok (some r) → ∀ data', decode data' = .ok (some r) → data' = data) := by
  have hmeans : ∀ data x, decode data = x → Means data x := by
    rintro data _ rfl
    exact decode_spec data
  refine ⟨fun e => hmeans data _, ⟨hmeans data _, ?_⟩, fun r => ⟨hmeans data _, ?_⟩, fun r hr =>
    ⟨length_encode hr, decode_encode hr, fun hdata data' hdata' => ?_⟩⟩
  · rintro ⟨rtype, version, rest, rfl, hunknown⟩
    exact decode_unknown hunknown
  · rintro ⟨hr, rfl⟩
    exact decode_encode hr
  · rw [(hmeans data _ hdata).2, (hmeans data' _ hdata').2]

end Exact

end Fpvd.Gs.TapWire
