import Fpvd.DynLink.Wire
import Fpvd.Lib.Crc

/-!
# Fpvd.DynLink.WireCodec — what `encodeDecision` and `decodeDecision` do to each other
-/

namespace Fpvd.DynLink

/-! ## The checksum -/

/-- The mask trick: all ones when the low bit is set. -/
theorem crcBit_toBitVec (c : UInt32) : (crcBit c).toBitVec = Crc.shift c.toBitVec := by
  have hmask : c.toBitVec &&& 1#32 = (BitVec.ofBool (c.toBitVec.getLsbD 0)).setWidth 32 :=
    BitVec.and_one_eq_setWidth_ofBool_getLsbD
  simp only [crcBit, Crc.shift, UInt32.toBitVec_xor, UInt32.toBitVec_and, UInt32.toBitVec_sub,
    UInt32.toBitVec_shiftRight, UInt32.toBitVec_ofNat]
  rw [hmask]
  cases c.toBitVec.getLsbD 0 with
  | true => simp [Crc.feedback]
  | false => simp

theorem crcByte_toBitVec (c : UInt32) (b : UInt8) :
    (crcByte c b).toBitVec = Crc.shiftByte c.toBitVec b := by
  simp only [crcByte, crcBit_toBitVec, Crc.shiftByte, UInt32.toBitVec_xor,
    UInt8.toBitVec_toUInt32]
  rfl

theorem crc32_isIeee (bs : List UInt8) : Crc.IsIeee bs (crc32 bs).toBitVec := by
  have hrun : ∀ (c : UInt32),
      (bs.foldl crcByte c).toBitVec = bs.foldl Crc.shiftByte c.toBitVec := by
    induction bs with
    | nil => exact fun c => rfl
    | cons b bs ih => exact fun c => by rw [List.foldl_cons, ih, crcByte_toBitVec, List.foldl_cons]
  have hreg : (crc32 bs).toBitVec = Crc.register bs := by
    rw [crc32, UInt32.toBitVec_xor, hrun, Crc.register]
    exact BitVec.xor_allOnes
  rw [hreg]
  exact Crc.register_isIeee bs

/-! ## Words in a buffer -/

theorem toUInt8_and (x : UInt32) : (x &&& 0xFF).toUInt8 = x.toUInt8 := by
  rw [UInt32.toUInt8_and]
  exact UInt8.and_neg_one

theorem getU32_putU32 (v : UInt32) (rest : List UInt8) : getU32 (putU32 v ++ rest) 0 = v := by
  simp only [getU32, putU32, toUInt8_and, List.cons_append, List.nil_append, List.getD_cons_zero,
    List.getD_cons_succ]
  refine UInt32.toBitVec_inj.mp (BitVec.eq_of_getLsbD_eq fun i hi => ?_)
  simp only [UInt32.toBitVec_or, UInt32.toBitVec_shiftLeft, UInt8.toBitVec_toUInt32,
    UInt32.toBitVec_toUInt8, UInt32.toBitVec_shiftRight]
  simp
  grind

theorem getU32_drop (buf : List UInt8) (i : ℕ) : getU32 buf i = getU32 (buf.drop i) 0 := by
  simp [getU32, List.getD_eq_getElem?_getD]

theorem getU32_append (p rest : List UInt8) (v : UInt32) :
    getU32 (p ++ (putU32 v ++ rest)) p.length = v := by
  rw [getU32_drop, List.drop_left, getU32_putU32]

variable {d : Decision} {b : List UInt8} {i : ℕ}

theorem putU32_getU32 {buf : List UInt8} (h : i + 4 ≤ buf.length) :
    putU32 (getU32 buf i) = (buf.drop i).take 4 := by
  obtain ⟨a, b, c, d, rest, hrest⟩ : ∃ a b c d rest, buf.drop i = a :: b :: c :: d :: rest := by
    have hlen : 4 ≤ (buf.drop i).length := by
      rw [List.length_drop]
      omega
    match buf.drop i, hlen with
    | a :: b :: c :: d :: rest, _ => exact ⟨a, b, c, d, rest, rfl⟩
  rw [getU32_drop, hrest]
  simp only [getU32, putU32, toUInt8_and, List.getD_cons_zero, List.getD_cons_succ,
    List.take_succ_cons, List.take_zero, List.cons.injEq, and_true]
  refine ⟨?_, ?_, ?_, ?_⟩
  all_goals
    refine UInt8.toBitVec_inj.mp (BitVec.eq_of_getLsbD_eq fun i hi => ?_)
    simp
  · grind
  · grind
  · grind

theorem singleton_getD {buf : List UInt8} (h : i < buf.length) :
    [buf.getD i 0] = (buf.drop i).take 1 := by
  rw [List.drop_eq_getElem_cons h, List.getD_eq_getElem?_getD, List.getElem?_eq_getElem h]
  rfl

/-! ## Frames -/

structure Decision.Sized (d : Decision) : Prop where
  flags : d.flags < 2 ^ 8
  sequence : d.sequence < 2 ^ 32
  mcs : d.mcs < 2 ^ 8

/-- The fields that the wire does not carry have their defaults. -/
def Decision.AbsentDefault (d : Decision) : Prop :=
  d = { magic := d.magic, version := d.version, flags := d.flags, sequence := d.sequence,
        mcs := d.mcs }

theorem getU32_sequence (d : Decision) (rest : List UInt8) :
    getU32 (encodeDecision d ++ rest) 6 = UInt32.ofNat d.sequence := by
  generalize hc : crc32 (encodePayload d) = c
  rw [encodeDecision, hc, encodePayload, List.append_assoc, List.append_assoc, List.append_assoc]
  exact getU32_append _ _ _

/-- **A frame decodes to its wire fields**, whatever follows it in the buffer. -/
theorem decode_encode (hd : d.Sized) (rest : List UInt8) :
    decodeDecision (encodeDecision d ++ rest) = .ok
      { magic := kWireMagic, version := kWireVersion, flags := d.flags, sequence := d.sequence,
        mcs := d.mcs } := by
  have hpay : (encodePayload d).length = kWirePayloadSize := rfl
  have hmagic : getU32 (encodeDecision d ++ rest) 0 = UInt32.ofNat kWireMagic := by
    rw [encodeDecision, encodePayload, List.append_assoc, List.append_assoc, List.append_assoc,
      List.append_assoc, getU32_putU32]
  have hseq := getU32_sequence d rest
  have hcrc : getU32 (encodeDecision d ++ rest) kWirePayloadSize = crc32 (encodePayload d) := by
    rw [encodeDecision, List.append_assoc, ← hpay, getU32_append]
  have htake : (encodeDecision d ++ rest).take kWirePayloadSize = encodePayload d := by
    rw [encodeDecision, List.append_assoc, ← hpay, List.take_left]
  have hlen : ¬ (encodeDecision d ++ rest).length < kWireOnWire := by
    have : (encodeDecision d).length = kWireOnWire := rfl
    rw [List.length_append]
    omega
  have h4 : (encodeDecision d ++ rest).getD 4 0 = UInt8.ofNat kWireVersion := rfl
  have h5 : (encodeDecision d ++ rest).getD 5 0 = UInt8.ofNat d.flags := rfl
  have h10 : (encodeDecision d ++ rest).getD 10 0 = UInt8.ofNat d.mcs := rfl
  unfold decodeDecision
  rw [hmagic, hseq, hcrc, htake, h4, h5, h10, if_neg hlen, UInt32.toNat_ofNat_of_lt' hd.sequence,
    UInt8.toNat_ofNat_of_lt' hd.flags, UInt8.toNat_ofNat_of_lt' hd.mcs]
  simp [kWireMagic, kWireVersion]

theorem decodeDecision_ok (h : decodeDecision b = .ok d) :
    kWireOnWire ≤ b.length ∧ (getU32 b 0).toNat = kWireMagic ∧
      (b.getD 4 0).toNat = kWireVersion ∧
      getU32 b kWirePayloadSize = crc32 (b.take kWirePayloadSize) ∧
      d = { magic := kWireMagic, version := kWireVersion, flags := (b.getD 5 0).toNat,
            sequence := (getU32 b 6).toNat, mcs := (b.getD 10 0).toNat } := by
  unfold decodeDecision at h
  split_ifs at h with hlen hmagic hversion hcrc
  rw [not_not] at hmagic hversion hcrc
  refine ⟨by omega, hmagic, hversion, hcrc, ?_⟩
  injection h with h
  rw [← h, hmagic, hversion]

theorem encodePayload_of_ok (h : decodeDecision b = .ok d) :
    encodePayload d = b.take kWirePayloadSize := by
  obtain ⟨hlen, hmagic, hversion, -, rfl⟩ := decodeDecision_ok h
  have hb : 15 ≤ b.length := hlen
  have hcut : b.take kWirePayloadSize = b.take 4 ++ (b.drop 4).take 1 ++ (b.drop 5).take 1 ++
      (b.drop 6).take 4 ++ (b.drop 10).take 1 := by
    simp only [← List.take_add]
    rfl
  rw [encodePayload, ← hmagic, ← hversion, UInt32.ofNat_toNat, UInt8.ofNat_toNat, UInt8.ofNat_toNat,
    UInt32.ofNat_toNat, UInt8.ofNat_toNat, putU32_getU32 (by omega), putU32_getU32 (by omega), hcut,
    ← singleton_getD (by omega), ← singleton_getD (by omega), ← singleton_getD (by omega)]
  simp

theorem decodeDecision_ok_iff (b : List UInt8) (d : Decision) :
    decodeDecision b = .ok d ↔
      kWireOnWire ≤ b.length ∧ b.take kWireOnWire = encodeDecision d ∧ d.AbsentDefault ∧
        d.Sized ∧ d.magic = kWireMagic ∧ d.version = kWireVersion := by
  constructor
  · intro h
    have hpay := encodePayload_of_ok h
    obtain ⟨hlen, -, -, hcrc, hd⟩ := decodeDecision_ok h
    have hframe : b.take kWireOnWire = encodeDecision d := by
      have hb : kWirePayloadSize + 4 ≤ b.length := hlen
      rw [encodeDecision, hpay, ← hcrc, putU32_getU32 hb, ← List.take_add]
      rfl
    refine ⟨hlen, hframe, ?_, ?_, ?_, ?_⟩
    · rw [hd, Decision.AbsentDefault]
    · rw [hd]
      exact ⟨UInt8.toNat_lt _, UInt32.toNat_lt _, UInt8.toNat_lt _⟩
    · rw [hd]
    · rw [hd]
  · rintro ⟨-, hframe, habsent, hsized, hmagic, hversion⟩
    have hdec := decode_encode hsized (b.drop kWireOnWire)
    rw [← hframe, List.take_append_drop] at hdec
    rw [hdec, habsent, hmagic, hversion]

/-! ## Bursts -/

/-- The same bytes outside the window of four that starts at `i`. -/
def SameOutside (i : ℕ) (a b : List UInt8) : Prop :=
  a.take i = b.take i ∧ a.drop (i + 4) = b.drop (i + 4)

theorem crc32_ne {a : List UInt8} (hlen : a.length = b.length) (hne : a ≠ b) (h : SameOutside i a b) :
    crc32 a ≠ crc32 b := by
  intro hcrc
  obtain ⟨hbefore, hafter⟩ := h
  have hsplit : ∀ l : List UInt8, l = l.take i ++ ((l.drop i).take 4 ++ l.drop (i + 4)) := fun l => by
    rw [← List.drop_drop, List.take_append_drop, List.take_append_drop]
  have ha : Crc.IsIeee (a.take i ++ ((a.drop i).take 4 ++ a.drop (i + 4))) (crc32 b).toBitVec := by
    rw [← hsplit a, ← hcrc]
    exact crc32_isIeee a
  have hb : Crc.IsIeee (a.take i ++ ((b.drop i).take 4 ++ a.drop (i + 4))) (crc32 b).toBitVec := by
    rw [hbefore, hafter, ← hsplit b]
    exact crc32_isIeee b
  have hwindow : (a.drop i).take 4 = (b.drop i).take 4 := by
    refine Crc.IsIeee.burst ?_ (List.length_take_le _ _) ha hb
    rw [List.length_take, List.length_take, List.length_drop, List.length_drop, hlen]
  exact hne (by rw [hsplit a, hsplit b, hbefore, hwindow, hafter])

/-- **Bursts in a decision frame.**  Distinct payloads that differ only inside a window of four bytes have
different checksums; so a frame whose payload is corrupted inside such a window, with its checksum intact,
is not accepted. -/
theorem burst_detected (i : ℕ) :
    (∀ a b : List UInt8, a.length = kWirePayloadSize → b.length = kWirePayloadSize → a ≠ b →
      SameOutside i a b → crc32 a ≠ crc32 b) ∧
    ∀ (frame frame' : List UInt8) (d : Decision), frame.length = kWireOnWire →
      frame'.length = kWireOnWire → decodeDecision frame = .ok d →
      frame'.drop kWirePayloadSize = frame.drop kWirePayloadSize →
      frame'.take kWirePayloadSize ≠ frame.take kWirePayloadSize →
      SameOutside i (frame'.take kWirePayloadSize) (frame.take kWirePayloadSize) →
      ∀ d', decodeDecision frame' ≠ .ok d' := by
  refine ⟨fun a b ha hb hne h => crc32_ne (ha.trans hb.symm) hne h, ?_⟩
  intro frame frame' d hlen hlen' hok hcrc hne hsame d' hok'
  obtain ⟨-, -, -, hsum, -⟩ := decodeDecision_ok hok
  obtain ⟨-, -, -, hsum', -⟩ := decodeDecision_ok hok'
  have hpay : (frame'.take kWirePayloadSize).length = (frame.take kWirePayloadSize).length := by
    rw [List.length_take, List.length_take, hlen, hlen']
  refine crc32_ne hpay hne hsame ?_
  rw [← hsum, ← hsum', getU32_drop frame', hcrc, ← getU32_drop]

end Fpvd.DynLink
