import Mathlib.Tactic

/-!
# Fpvd.DynLink.Wire — the decision frame (`drone/src/dynlink/wire.hpp`, `wire.cpp`)

Layout (big-endian, 15 bytes = 11 payload + 4 CRC):

    off  size  field
     0    4    magic       = kWireMagic
     4    1    version     = kWireVersion
     5    1    flags
     6    4    sequence
    10    1    mcs
    11    4    crc32(bytes[0..10])

Machine words of the wire are `UInt8` / `UInt32`; the fields of a decoded `Decision` are numbers.
-/

namespace Fpvd.DynLink

def kWireMagic : ℕ := 0x444C4B31

def kWireVersion : ℕ := 3

def kWirePayloadSize : ℕ := 11

def kWireOnWire : ℕ := 15

/-- A decision as the control loop handles it: the wire fields, and the values that the drone
derives itself (`bandwidth`, `k`, `n`, `bitrateKbps`, `fps`, `txPowerDbm`). -/
structure Decision where
  magic : ℕ := 0
  version : ℕ := 0
  flags : ℕ := 0
  sequence : ℕ := 0
  timestampMs : ℕ := 0
  mcs : ℕ := 0
  bandwidth : ℕ := 0
  txPowerDbm : ℤ := 0
  k : ℕ := 0
  n : ℕ := 0
  bitrateKbps : ℕ := 0
  fps : ℕ := 0
  deriving DecidableEq, Repr

def putU32 (v : UInt32) : List UInt8 :=
  [(v >>> 24).toUInt8, ((v >>> 16) &&& 0xFF).toUInt8, ((v >>> 8) &&& 0xFF).toUInt8,
    (v &&& 0xFF).toUInt8]

def getU32 (buf : List UInt8) (i : ℕ) : UInt32 :=
  ((buf.getD i 0).toUInt32 <<< 24) ||| ((buf.getD (i + 1) 0).toUInt32 <<< 16) |||
    ((buf.getD (i + 2) 0).toUInt32 <<< 8) ||| (buf.getD (i + 3) 0).toUInt32

def crcBit (crc : UInt32) : UInt32 :=
  let mask : UInt32 := 0 - (crc &&& 1)
  (crc >>> 1) ^^^ (0xEDB88320 &&& mask)

def crcByte (crc : UInt32) (b : UInt8) : UInt32 :=
  crcBit (crcBit (crcBit (crcBit (crcBit (crcBit (crcBit (crcBit (crc ^^^ b.toUInt32))))))))

def crc32 (buf : List UInt8) : UInt32 := buf.foldl crcByte 0xFFFFFFFF ^^^ 0xFFFFFFFF

inductive PacketKind where
  | unknown
  | decision
  deriving DecidableEq, Repr

def peekKind (buf : List UInt8) : PacketKind :=
  if buf.length < 4 then .unknown
  else if (getU32 buf 0).toNat = kWireMagic then .decision else .unknown

def encodePayload (d : Decision) : List UInt8 :=
  putU32 (UInt32.ofNat kWireMagic) ++ [UInt8.ofNat kWireVersion, UInt8.ofNat d.flags] ++
    putU32 (UInt32.ofNat d.sequence) ++ [UInt8.ofNat d.mcs]

def encodeDecision (d : Decision) : List UInt8 :=
  encodePayload d ++ putU32 (crc32 (encodePayload d))

inductive DecodeResult where
  | ok (d : Decision)
  | short
  | badMagic
  | badVersion
  | badCrc
  deriving DecidableEq, Repr

/-- The checks in the order of the source; fields absent from the wire keep their defaults. -/
def decodeDecision (buf : List UInt8) : DecodeResult :=
  if buf.length < kWireOnWire then .short
  else if (getU32 buf 0).toNat ≠ kWireMagic then .badMagic
  else if (buf.getD 4 0).toNat ≠ kWireVersion then .badVersion
  else if getU32 buf kWirePayloadSize ≠ crc32 (buf.take kWirePayloadSize) then .badCrc
  else .ok
    { magic := (getU32 buf 0).toNat
      version := (buf.getD 4 0).toNat
      flags := (buf.getD 5 0).toNat
      sequence := (getU32 buf 6).toNat
      mcs := (buf.getD 10 0).toNat }

theorem decodeDecision_magic {buf : List UInt8} {d : Decision} (h : decodeDecision buf = .ok d) :
    d.magic = kWireMagic := by
  unfold decodeDecision at h
  split_ifs at h with h1 h2
  cases h
  exact not_not.mp h2

theorem magic_default : ({} : Decision).magic ≠ kWireMagic := by decide

end Fpvd.DynLink
