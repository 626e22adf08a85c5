import Fpvd.DynLink.WireCodec

/-!
# Fpvd.Gs.Wire — the ground station's encoder (`gs/fpvdgs/dynlink/wire.py`)

Python integers are `ℤ`.  `struct.pack` raises on a value that does not fit its field: `none`.
`binascii.crc32` is a parameter.
-/

namespace Fpvd.Gs

open DynLink

def magic : ℤ := 0x444C4B31

def version : ℤ := 3

def bigEndian : ℕ → ℕ → List UInt8
  | 0, _ => []
  | size + 1, v => bigEndian size (v / 256) ++ [UInt8.ofNat v]

def packField (size : ℕ) (v : ℤ) : Option (List UInt8) :=
  if 0 ≤ v ∧ v < 256 ^ size then some (bigEndian size v.toNat) else none

def packPayload (version flags sequence mcs : ℤ) : Option (List UInt8) := do
  let m ← packField 4 magic
  let v ← packField 1 version
  let f ← packField 1 flags
  let s ← packField 4 sequence
  let c ← packField 1 mcs
  return m ++ v ++ f ++ s ++ c

section
variable (binasciiCrc32 : List UInt8 → ℕ)

def crc32 (data : List UInt8) : ℤ := ((binasciiCrc32 data % 2 ^ 32 : ℕ) : ℤ)

def encodeRaw (version flags sequence mcs : ℤ) : Option (List UInt8) :=
  (packPayload version flags sequence mcs).bind fun payload =>
    (packField 4 (crc32 binasciiCrc32 payload)).map (payload ++ ·)

structure Encoder where
  seq : ℤ := 1
  deriving DecidableEq, Repr

/-- `Encoder.encode` of a decision's `mcs`.  The counter moves before the bytes are packed. -/
def Encoder.encode (e : Encoder) (mcs : ℤ) : Option (List UInt8) × Encoder :=
  (encodeRaw binasciiCrc32 version 0 e.seq mcs, { seq := (e.seq + 1) % 2 ^ 32 })

end

/-! ## Bytes -/

theorem bigEndian_one {v : ℕ} : bigEndian 1 v = [UInt8.ofNat v] := rfl

theorem bigEndian_four {v : ℕ} (hv : v < 2 ^ 32) : bigEndian 4 v = putU32 (UInt32.ofNat v) := by
  have hbyte : ∀ k < 4, UInt8.ofNat (v / 2 ^ (8 * k)) =
      (UInt32.ofNat v >>> UInt32.ofNat (8 * k)).toUInt8 := by
    intro k hk
    apply UInt8.toNat_inj.mp
    have hshift : (UInt32.ofNat (8 * k)).toNat % 32 = 8 * k := by
      rw [UInt32.toNat_ofNat_of_lt' (Nat.lt_trans (show 8 * k < 32 by omega) (by decide))]
      omega
    rw [UInt8.toNat_ofNat', UInt32.toNat_toUInt8, UInt32.toNat_shiftRight, hshift,
      UInt32.toNat_ofNat_of_lt' hv, Nat.shiftRight_eq_div_pow]
  have h1 := hbyte 1 (by omega)
  have h2 := hbyte 2 (by omega)
  have h3 := hbyte 3 (by omega)
  simp only [bigEndian, putU32, toUInt8_and, List.nil_append, List.cons_append, Nat.div_div_eq_div_mul]
  rw [show 256 * 256 * 256 = 2 ^ (8 * 3) by rfl, show 256 * 256 = 2 ^ (8 * 2) by rfl,
    show 256 = 2 ^ (8 * 1) by rfl, h1, h2, h3, UInt32.toUInt8_ofNat']
  rfl

theorem packField_one {v : ℕ} (hv : v < 2 ^ 8) : packField 1 v = some [UInt8.ofNat v] := by
  rw [packField, if_pos (by omega), Int.toNat_natCast, bigEndian_one]

theorem packField_four {v : ℕ} (hv : v < 2 ^ 32) :
    packField 4 v = some (putU32 (UInt32.ofNat v)) := by
  rw [packField, if_pos (by omega), Int.toNat_natCast, bigEndian_four hv]

theorem packField_word (c : UInt32) : packField 4 (c.toNat : ℤ) = some (putU32 c) := by
  rw [packField_four (UInt32.toNat_lt c), UInt32.ofNat_toNat]

/-! ## Agreement with the drone -/

theorem packPayload_eq {d : Decision} (hd : d.Sized) :
    packPayload version d.flags d.sequence d.mcs = some (encodePayload d) := by
  have hmagic : packField 4 magic = some (putU32 (UInt32.ofNat kWireMagic)) := by
    rw [← packField_four (by norm_num [kWireMagic]), magic, kWireMagic]
    norm_num
  have hversion : packField 1 version = some [UInt8.ofNat kWireVersion] :=
    packField_one (v := kWireVersion) (by decide)
  rw [packPayload, hmagic, hversion, packField_one hd.flags, packField_four hd.sequence,
    packField_one hd.mcs]
  simp [encodePayload]

theorem crc32_eq {binasciiCrc32 : List UInt8 → ℕ}
    (hcrc : ∀ bs, Crc.IsIeee bs (BitVec.ofNat 32 (binasciiCrc32 bs))) (bs : List UInt8) :
    crc32 binasciiCrc32 bs = ((DynLink.crc32 bs).toNat : ℤ) := by
  have hsame := (hcrc bs).unique (crc32_isIeee bs)
  have hnat := congrArg BitVec.toNat hsame
  rw [BitVec.toNat_ofNat, UInt32.toNat_toBitVec] at hnat
  rw [crc32, hnat]

theorem encodeRaw_eq {binasciiCrc32 : List UInt8 → ℕ}
    (hcrc : ∀ bs, Crc.IsIeee bs (BitVec.ofNat 32 (binasciiCrc32 bs))) {d : Decision}
    (hd : d.Sized) :
    encodeRaw binasciiCrc32 version d.flags d.sequence d.mcs = some (encodeDecision d) := by
  have hsum : packField 4 (crc32 binasciiCrc32 (encodePayload d)) =
      some (putU32 (DynLink.crc32 (encodePayload d))) := by
    rw [crc32_eq hcrc, packField_word]
  rw [encodeRaw, packPayload_eq hd, Option.bind_some, hsum, Option.map_some, encodeDecision]

/-- **Frame agreement.**  The ground station packs, for every value that fits, the bytes of the
drone's encoder; the drone reads the same values back whatever follows; it accepts exactly the
buffers that start with a frame of the decision it returns; its checksum is the standard's. -/
theorem frame_agreement (binasciiCrc32 : List UInt8 → ℕ)
    (hcrc : ∀ bs, Crc.IsIeee bs (BitVec.ofNat 32 (binasciiCrc32 bs))) :
    (∀ flags sequence mcs : ℕ, flags < 256 → sequence < 2 ^ 32 → mcs < 256 →
      ∃ bytes, encodeRaw binasciiCrc32 3 flags sequence mcs = some bytes ∧
        bytes = encodeDecision { flags := flags, sequence := sequence, mcs := mcs } ∧
        ∀ suffix, ∃ d, decodeDecision (bytes ++ suffix) = .ok d ∧
          d.flags = flags ∧ d.sequence = sequence ∧ d.mcs = mcs) ∧
    (∀ b d, decodeDecision b = .ok d ↔
      15 ≤ b.length ∧ b.take 15 = encodeDecision d ∧ d.AbsentDefault ∧ d.Sized ∧
        d.magic = kWireMagic ∧ d.version = kWireVersion) ∧
    ∀ bs, Crc.IsIeee bs (DynLink.crc32 bs).toBitVec := by
  refine ⟨fun flags sequence mcs hflags hseq hmcs => ?_, decodeDecision_ok_iff, crc32_isIeee⟩
  have hd : Decision.Sized { flags := flags, sequence := sequence, mcs := mcs } :=
    ⟨hflags, hseq, hmcs⟩
  have hraw := encodeRaw_eq hcrc hd
  simp only [version] at hraw
  refine ⟨_, hraw, rfl, fun suffix => ?_⟩
  exact ⟨_, decode_encode hd suffix, rfl, rfl, rfl⟩

theorem crc32_isIeee_ofNat (bs : List UInt8) :
    Crc.IsIeee bs (BitVec.ofNat 32 (DynLink.crc32 bs).toNat) := by
  rw [← UInt32.toNat_toBitVec, BitVec.ofNat_toNat, BitVec.setWidth_eq]
  exact crc32_isIeee bs

/-- The drone's own checksum is one the ground station may use. -/
theorem frame_agreement_crc32 :
    (∀ bs, Crc.IsIeee bs (BitVec.ofNat 32 (DynLink.crc32 bs).toNat)) ∧
      ∃ bytes, encodeRaw (fun bs => (DynLink.crc32 bs).toNat) 3 0 7 5 = some bytes ∧
        decodeDecision bytes = .ok
          { magic := kWireMagic, version := kWireVersion, sequence := 7, mcs := 5 } := by
  obtain ⟨hround, hiff, -⟩ := frame_agreement (fun bs => (DynLink.crc32 bs).toNat) crc32_isIeee_ofNat
  obtain ⟨bytes, hbytes, rfl, -⟩ := hround 0 7 5 (by decide) (by decide) (by decide)
  exact ⟨crc32_isIeee_ofNat, _, hbytes, (hiff _ _).mpr ⟨by decide, rfl, rfl, ⟨by decide, by decide, by decide⟩,
    rfl, rfl⟩⟩

/-- `encodeDecision` does not read `magic` and `version`: a decision with other values there has the
same frame, and is not what the frame decodes to. -/
theorem frame_of_default_decision :
    ¬ ∀ b d, decodeDecision b = .ok d ↔
      15 ≤ b.length ∧ b.take 15 = encodeDecision d ∧ d.AbsentDefault ∧ d.Sized := by
  intro h
  have hok := (h (encodeDecision {}) {}).mpr ⟨by decide, rfl, rfl, by decide, by decide, by decide⟩
  exact magic_default (decodeDecision_magic hok)

end Fpvd.Gs
