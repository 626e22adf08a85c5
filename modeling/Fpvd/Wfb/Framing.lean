import Fpvd.Lib.Crc
import Fpvd.Lib.Cutter

/-!
# Fpvd.Wfb.Framing — the MAVLink framer (`mavlink_parser_gen` of `gs/fpvdgs/wfb/mavproxy.py`)

The generator keeps a buffer and an offset into it.  It looks for a start byte, drops the bytes before it one
by one, and returns the frames that are complete; the consumed front of the buffer goes when it is long.
-/

namespace Fpvd.Wfb

inductive FramingWarning
  | unsupportedFlags (flags : UInt8)
  | skipped (bad : ℕ)
  deriving DecidableEq, Repr

/-- The length of a frame from its first bytes, with what is logged; `none` without a start byte. -/
def frameHeader : List UInt8 → Option (ℕ × List FramingWarning)
  | version :: mlen :: flags :: _ =>
    if version = 0xFE then some (8 + mlen.toNat, [])
    else if version = 0xFD then
      some (mlen.toNat + (if flags &&& 0x01 ≠ 0 then 25 else 12),
        if flags &&& ~~~0x01 ≠ 0 then [.unsupportedFlags flags] else [])
    else none
  | _ => none

structure MavlinkParser where
  buffer : List UInt8 := []
  mlist : List (List UInt8) := []
  skip : ℕ := 0
  bad : ℕ := 0
  log : List FramingWarning := []
  skip_le : skip ≤ buffer.length := by simp

theorem frameHeader_le {buf : List UInt8} {mlen : ℕ} {warned : List FramingWarning}
    (h : frameHeader buf = some (mlen, warned)) : 8 ≤ mlen := by
  unfold frameHeader at h
  split at h
  · split_ifs at h <;> simp only [Option.some.injEq, Prod.mk.injEq] at h <;> omega
  · cases h

namespace MavlinkParser

def gcThreshold : ℕ := 4096

def rest (g : MavlinkParser) : List UInt8 := g.buffer.drop g.skip

def sync (g : MavlinkParser) (warned : List FramingWarning) : MavlinkParser :=
  { g with log := g.log ++ warned ++ (if g.bad = 0 then [] else [.skipped g.bad]), bad := 0 }

def scan (g : MavlinkParser) : MavlinkParser :=
  if hlong : g.buffer.length - g.skip ≥ 8 then
    match hhead : frameHeader g.rest with
    | none => scan { g with skip := g.skip + 1, bad := g.bad + 1, skip_le := by omega }
    | some (mlen, warned) =>
      if hshort : g.buffer.length - g.skip < mlen then g.sync warned
      else
        scan { g.sync warned with
          mlist := g.mlist ++ [g.rest.take mlen]
          skip := g.skip + mlen
          skip_le := by
            have := frameHeader_le hhead
            show g.skip + mlen ≤ g.buffer.length
            omega }
  else g
termination_by g.buffer.length - g.skip
decreasing_by
  · show g.buffer.length - (g.skip + 1) < _
    omega
  · have := frameHeader_le hhead
    show g.buffer.length - (g.skip + mlen) < _
    omega

def gc (g : MavlinkParser) : MavlinkParser :=
  if g.skip > gcThreshold then { g with buffer := g.rest, skip := 0, skip_le := Nat.zero_le _ } else g

def send (g : MavlinkParser) (data : List UInt8) : MavlinkParser :=
  if data = [] then gc { g with mlist := [] }
  else gc (scan { g with
    buffer := g.buffer ++ data
    mlist := []
    skip_le := by
      have := g.skip_le
      simp only [List.length_append]
      omega })

def parse (chunks : List (List UInt8)) : MavlinkParser × List (List UInt8) :=
  chunks.foldl (fun s chunk => (s.1.send chunk, s.2 ++ (s.1.send chunk).mlist)) ({}, [])

end MavlinkParser

def splitFrames (data : List UInt8) : List (List UInt8) := (({} : MavlinkParser).send data).mlist

/-! ## Frames and garbage -/

section Pieces

variable {buf : List UInt8} {n : ℕ}

theorem frameHeader_append (more : List UInt8) (h : 3 ≤ buf.length) :
    frameHeader (buf ++ more) = frameHeader buf := by
  match buf, h with
  | _ :: _ :: _ :: _, _ => rfl

theorem frameHeader_take (h : 3 ≤ n) (hn : n ≤ buf.length) :
    frameHeader (buf.take n) = frameHeader buf := by
  have hlen : 3 ≤ (buf.take n).length := by
    rw [List.length_take]
    omega
  rw [← frameHeader_append (buf.drop n) hlen, List.take_append_drop]

/-- The next piece: a frame if it is complete, or one byte that starts none. -/
def pieceLength (buf : List UInt8) : Option ℕ :=
  if buf.length ≥ 8 then
    match frameHeader buf with
    | none => some 1
    | some (mlen, _) => if buf.length < mlen then none else some mlen
  else none

theorem pieceLength_eq_some : pieceLength buf = some n ↔ 8 ≤ buf.length ∧
    (frameHeader buf = none ∧ n = 1 ∨ (∃ warned, frameHeader buf = some (n, warned)) ∧ n ≤ buf.length) := by
  unfold pieceLength
  split_ifs with hlong
  · cases hhead : frameHeader buf with
    | none => simp [hlong, eq_comm]
    | some e =>
      obtain ⟨mlen, warned⟩ := e
      dsimp only
      split_ifs with hshort
      · refine iff_of_false nofun ?_
        rintro ⟨-, ⟨hnone, -⟩ | ⟨⟨warned', hsome⟩, hn⟩⟩
        · cases hnone
        · cases hsome
          omega
      · constructor
        · rintro ⟨rfl⟩
          exact ⟨hlong, .inr ⟨⟨warned, rfl⟩, not_lt.mp hshort⟩⟩
        · rintro ⟨-, ⟨hnone, -⟩ | ⟨⟨warned', hsome⟩, -⟩⟩
          · cases hnone
          · cases hsome
            rfl
  · exact iff_of_false nofun fun h => hlong h.1

def mavlinkPieces : Cutter UInt8 where
  next := pieceLength
  pos h := by
    obtain ⟨-, ⟨-, rfl⟩ | ⟨⟨warned, hhead⟩, -⟩⟩ := pieceLength_eq_some.mp h
    · exact Nat.one_pos
    · exact lt_of_lt_of_le (by omega) (frameHeader_le hhead)
  le h := by
    obtain ⟨hlong, ⟨-, rfl⟩ | ⟨-, hn⟩⟩ := pieceLength_eq_some.mp h
    · omega
    · exact hn
  stable {buf n} more h := by
    obtain ⟨hlong, hpiece⟩ := pieceLength_eq_some.mp h
    rw [pieceLength_eq_some, frameHeader_append more (by omega), List.length_append]
    exact ⟨by omega, hpiece.imp_right fun hn => ⟨hn.1, by omega⟩⟩

def isFrame (p : List UInt8) : Bool := (frameHeader p).isSome

theorem piece_cases {p : List UInt8} (hp : p ∈ (mavlinkPieces.cut buf).1) :
    (∃ warned, frameHeader p = some (p.length, warned)) ∨ ∃ b, p = [b] ∧ b ≠ 0xFE ∧ b ≠ 0xFD := by
  obtain ⟨front, n, hnext, rfl⟩ := Cutter.exists_of_mem_cut buf hp
  obtain ⟨hlong, ⟨hnone, rfl⟩ | ⟨⟨warned, hhead⟩, hn⟩⟩ := pieceLength_eq_some.mp hnext
  · right
    match front, hlong, hnone with
    | b :: b₁ :: b₂ :: _, _, hnone =>
      refine ⟨b, rfl, ?_, ?_⟩
      · rintro rfl
        cases hnone
      · rintro rfl
        cases hnone
  · left
    have h8 := frameHeader_le hhead
    rw [frameHeader_take (by omega) hn, List.length_take, min_eq_left hn]
    exact ⟨warned, hhead⟩

end Pieces

/-! ## The generator -/

namespace MavlinkParser

variable {g : MavlinkParser}

theorem length_rest (g : MavlinkParser) : g.rest.length = g.buffer.length - g.skip := List.length_drop

theorem scan_spec (g : MavlinkParser) :
    g.scan.rest = (mavlinkPieces.cut g.rest).2 ∧
    g.scan.mlist = g.mlist ++ (mavlinkPieces.cut g.rest).1.filter isFrame := by
  fun_induction scan g with
  | case1 g hlong hhead ih =>
    have hnext : mavlinkPieces.next g.rest = some 1 :=
      pieceLength_eq_some.mpr ⟨g.length_rest.symm ▸ hlong, .inl ⟨hhead, rfl⟩⟩
    have hgarbage : isFrame (g.rest.take 1) = false := by
      match g.rest with
      | [] => rfl
      | _ :: _ => rfl
    rw [Cutter.cut_some hnext, List.filter_cons_of_neg (by simp [hgarbage])]
    simpa only [rest, List.drop_drop] using ih
  | case2 g hlong mlen warned hhead hshort =>
    have hnext : mavlinkPieces.next g.rest = none := by
      show pieceLength g.rest = none
      rw [pieceLength, if_pos (g.length_rest.symm ▸ hlong), hhead]
      exact if_pos (g.length_rest.symm ▸ hshort)
    rw [Cutter.cut_none hnext, List.filter_nil, List.append_nil]
    exact ⟨rfl, rfl⟩
  | case3 g hlong mlen warned hhead hfits ih =>
    have h8 := frameHeader_le hhead
    have hle : mlen ≤ g.rest.length := by
      rw [length_rest]
      omega
    have hnext : mavlinkPieces.next g.rest = some mlen :=
      pieceLength_eq_some.mpr ⟨g.length_rest.symm ▸ hlong, .inr ⟨⟨warned, hhead⟩, hle⟩⟩
    have hframe : isFrame (g.rest.take mlen) = true := by
      rw [isFrame, frameHeader_take (by omega) hle, hhead]
      rfl
    rw [Cutter.cut_some hnext, List.filter_cons_of_pos hframe]
    simpa [rest, sync] using ih
  | case4 g hshort =>
    have hnext : mavlinkPieces.next g.rest = none := if_neg (g.length_rest.symm ▸ hshort)
    rw [Cutter.cut_none hnext, List.filter_nil, List.append_nil]
    exact ⟨rfl, rfl⟩

theorem gc_rest (g : MavlinkParser) : g.gc.rest = g.rest := by
  unfold gc
  split_ifs <;> rfl

theorem gc_mlist (g : MavlinkParser) : g.gc.mlist = g.mlist := by
  unfold gc
  split_ifs <;> rfl

theorem send_spec (hwait : mavlinkPieces.next g.rest = none) (data : List UInt8) :
    (g.send data).rest = (mavlinkPieces.cut (g.rest ++ data)).2 ∧
    (g.send data).mlist = (mavlinkPieces.cut (g.rest ++ data)).1.filter isFrame := by
  unfold send
  split_ifs with hdata
  · rw [gc_rest, gc_mlist, hdata, List.append_nil, Cutter.cut_none hwait]
    exact ⟨rfl, rfl⟩
  · rw [gc_rest, gc_mlist]
    have hspec := scan_spec { g with
      buffer := g.buffer ++ data
      mlist := []
      skip_le := by
        have := g.skip_le
        simp only [List.length_append]
        omega }
    simpa only [rest, List.drop_append_of_le_length g.skip_le, List.nil_append] using hspec

theorem parse_spec (chunks : List (List UInt8)) :
    (parse chunks).1.rest = (mavlinkPieces.cut chunks.flatten).2 ∧
    (parse chunks).2 = (mavlinkPieces.cut chunks.flatten).1.filter isFrame := by
  induction chunks using List.reverseRecOn with
  | nil =>
    rw [List.flatten_nil, Cutter.cut_none rfl]
    exact ⟨rfl, rfl⟩
  | append_singleton chunks chunk ih =>
    have hconcat : parse (chunks ++ [chunk]) = ((parse chunks).1.send chunk,
        (parse chunks).2 ++ ((parse chunks).1.send chunk).mlist) := by
      simp [parse]
    have hwait : mavlinkPieces.next (parse chunks).1.rest = none := by
      rw [ih.1]
      exact Cutter.next_rest _
    obtain ⟨hrest, hmlist⟩ := send_spec hwait chunk
    rw [hconcat, List.flatten_append, List.flatten_singleton, Cutter.cut_append, ← ih.1,
      List.filter_append, ← ih.2]
    exact ⟨hrest, congrArg _ hmlist⟩

end MavlinkParser

theorem splitFrames_eq (data : List UInt8) :
    splitFrames data = (mavlinkPieces.cut data).1.filter isFrame :=
  (MavlinkParser.send_spec rfl data).2

/-! ## Well-formed frames -/

structure FrameV1 where
  seq : UInt8
  sysId : UInt8
  compId : UInt8
  msgId : UInt8
  payload : List UInt8
  crc : UInt8 × UInt8
  payload_lt : payload.length < 256

/-- The fields of a MAVLink 2 frame; a signature is there if its flag is. -/
structure FrameV2 where
  flags : UInt8
  compatFlags : UInt8
  seq : UInt8
  sysId : UInt8
  compId : UInt8
  msgId : UInt8 × UInt8 × UInt8
  payload : List UInt8
  crc : UInt8 × UInt8
  signature : List UInt8
  payload_lt : payload.length < 256
  signature_length : signature.length = if flags &&& 0x01 ≠ 0 then 13 else 0

inductive MavlinkFrame
  | v1 (f : FrameV1)
  | v2 (f : FrameV2)

def MavlinkFrame.bytes : MavlinkFrame → List UInt8
  | .v1 f =>
    0xFE :: UInt8.ofNat f.payload.length :: f.seq :: f.sysId :: f.compId :: f.msgId ::
      (f.payload ++ [f.crc.1, f.crc.2])
  | .v2 f =>
    0xFD :: UInt8.ofNat f.payload.length :: f.flags :: f.compatFlags :: f.seq :: f.sysId :: f.compId ::
      f.msgId.1 :: f.msgId.2.1 :: f.msgId.2.2 :: (f.payload ++ [f.crc.1, f.crc.2] ++ f.signature)

theorem MavlinkFrame.frameHeader_bytes (f : MavlinkFrame) :
    ∃ warned, frameHeader f.bytes = some (f.bytes.length, warned) := by
  cases f with
  | v1 f =>
    have hlen : (UInt8.ofNat f.payload.length).toNat = f.payload.length :=
      UInt8.toNat_ofNat_of_lt f.payload_lt
    refine ⟨[], ?_⟩
    simp only [bytes, frameHeader, if_true, hlen, List.length_cons, List.length_append, List.length_nil]
    congr 2
    omega
  | v2 f =>
    have hlen : (UInt8.ofNat f.payload.length).toNat = f.payload.length :=
      UInt8.toNat_ofNat_of_lt f.payload_lt
    have hsig := f.signature_length
    refine ⟨if f.flags &&& ~~~0x01 ≠ 0 then [.unsupportedFlags f.flags] else [], ?_⟩
    have hversion : (0xFD : UInt8) ≠ 0xFE := by decide
    simp only [bytes, frameHeader, if_neg hversion, if_true, hlen, List.length_cons, List.length_append,
      List.length_nil, hsig]
    congr 2
    split_ifs <;> omega

theorem MavlinkFrame.whole (f : MavlinkFrame) : mavlinkPieces.Whole f.bytes := by
  obtain ⟨warned, hhead⟩ := f.frameHeader_bytes
  exact pieceLength_eq_some.mpr ⟨frameHeader_le hhead, .inr ⟨⟨warned, hhead⟩, le_rfl⟩⟩

theorem MavlinkFrame.isFrame_bytes (f : MavlinkFrame) : isFrame f.bytes = true := by
  obtain ⟨warned, hhead⟩ := f.frameHeader_bytes
  rw [isFrame, hhead]
  rfl

/-- **The framer.**  The frames do not depend on how the stream is cut into chunks; frames, garbage bytes and
the tail that waits for more make up the stream; well-formed frames are found again. -/
theorem framing_laws (chunks : List (List UInt8)) (frames : List MavlinkFrame) :
    (MavlinkParser.parse chunks).2 = splitFrames chunks.flatten ∧
    (∃ pieces : List (List UInt8),
      pieces.flatten ++ (MavlinkParser.parse chunks).1.rest = chunks.flatten ∧
      (MavlinkParser.parse chunks).2 = pieces.filter isFrame ∧
      (∀ p ∈ pieces, (∃ warned, frameHeader p = some (p.length, warned)) ∨
        ∃ b, p = [b] ∧ b ≠ 0xFE ∧ b ≠ 0xFD) ∧
      pieceLength (MavlinkParser.parse chunks).1.rest = none) ∧
    splitFrames (frames.map MavlinkFrame.bytes).flatten = frames.map MavlinkFrame.bytes := by
  obtain ⟨hrest, hframes⟩ := MavlinkParser.parse_spec chunks
  refine ⟨?_, ⟨(mavlinkPieces.cut chunks.flatten).1, ?_, hframes, fun p hp => piece_cases hp, ?_⟩, ?_⟩
  · rw [hframes, splitFrames_eq]
  · rw [hrest, Cutter.cut_flatten]
  · rw [hrest]
    exact Cutter.next_rest (c := mavlinkPieces) _
  · have hwhole : ∀ p ∈ frames.map MavlinkFrame.bytes, mavlinkPieces.Whole p :=
      List.forall_mem_map.mpr fun f _ => f.whole
    have hnil : mavlinkPieces.cut [] = ([], []) := Cutter.cut_none rfl
    have hcut := Cutter.pieces_of_whole hwhole []
    rw [List.append_nil, hnil, List.append_nil] at hcut
    rw [splitFrames_eq, hcut, List.filter_eq_self]
    exact List.forall_mem_map.mpr fun f _ => f.isFrame_bytes

/-! ## The checksum -/

def x25Byte (crc : ℕ) (b : UInt8) : ℕ :=
  let tmp := (b.toNat ^^^ (crc &&& 0xFF)) &&& 0xFF
  let tmp := (tmp ^^^ (tmp <<< 4)) &&& 0xFF
  ((crc >>> 8) ^^^ (tmp <<< 8) ^^^ (tmp <<< 3) ^^^ (tmp >>> 4)) &&& 0xFFFF

def x25crc (data : List UInt8) (crc : ℕ := 0xFFFF) : ℕ := data.foldl x25Byte crc

def crc16Byte (c : BitVec 16) (b : UInt8) : BitVec 16 :=
  (Crc.step 0x8408#16)^[8] (c ^^^ b.toBitVec.setWidth 16)

/-- What leaves the register comes back folded by nibbles. -/
def nibbleFold (e : ℕ) : ℕ :=
  let tmp := (e ^^^ (e <<< 4)) &&& 0xFF
  ((tmp <<< 8) ^^^ (tmp <<< 3) ^^^ (tmp >>> 4)) &&& 0xFFFF

theorem nibbleFold_eq (e : BitVec 8) :
    nibbleFold e.toNat = ((Crc.step 0x8408#16)^[8] (e.setWidth 16)).toNat := by
  revert e
  decide +kernel

theorem x25Byte_eq (c : BitVec 16) (b : UInt8) :
    x25Byte c.toNat b = (c.toNat >>> 8) ^^^ nibbleFold (c.setWidth 8 ^^^ b.toBitVec).toNat := by
  have hlow : (b.toNat ^^^ (c.toNat &&& 0xFF)) &&& 0xFF = (c.setWidth 8 ^^^ b.toBitVec).toNat := by
    have hmask : ∀ x : ℕ, x &&& 0xFF = x % 2 ^ 8 := fun x => Nat.and_two_pow_sub_one_eq_mod x 8
    rw [hmask, hmask, BitVec.toNat_xor, BitVec.toNat_setWidth, Nat.xor_comm]
    exact Nat.mod_eq_of_lt (Nat.xor_lt_two_pow (Nat.mod_lt _ (by decide)) b.toNat_lt)
  have hhigh : (c.toNat >>> 8) &&& 0xFFFF = c.toNat >>> 8 := by
    rw [show (0xFFFF : ℕ) = 2 ^ 16 - 1 by rfl, Nat.and_two_pow_sub_one_eq_mod]
    exact Nat.mod_eq_of_lt ((Nat.shiftRight_le _ _).trans_lt c.isLt)
  simp only [x25Byte, hlow, nibbleFold]
  rw [Nat.xor_assoc, Nat.xor_assoc, Nat.and_xor_distrib_right, hhigh, Nat.xor_assoc]

theorem x25Byte_eq_crc16Byte (c : BitVec 16) (b : UInt8) :
    x25Byte c.toNat b = (crc16Byte c b).toNat := by
  have hlow : (c ^^^ b.toBitVec.setWidth 16) &&& BitVec.ofNat 16 (2 ^ 8 - 1) =
      (c.setWidth 8 ^^^ b.toBitVec).setWidth 16 := by
    refine BitVec.eq_of_getLsbD_eq fun i hi => ?_
    have hmask : (BitVec.ofNat 16 (2 ^ 8 - 1)).getLsbD i = decide (i < 8) := by
      rw [BitVec.getLsbD_ofNat, Nat.testBit_two_pow_sub_one, decide_eq_true hi, Bool.true_and]
    rw [BitVec.getLsbD_and, hmask, BitVec.getLsbD_xor, BitVec.getLsbD_setWidth, BitVec.getLsbD_setWidth,
      BitVec.getLsbD_xor, BitVec.getLsbD_setWidth]
    by_cases h : i < 8
    · simp [h, hi]
    · simp [h, BitVec.getLsbD_of_ge b.toBitVec i (by omega)]
  have hhigh : (c ^^^ b.toBitVec.setWidth 16) >>> 8 = c >>> 8 := by
    refine BitVec.eq_of_getLsbD_eq fun i hi => ?_
    simp
  rw [x25Byte_eq, crc16Byte, Crc.step_iterate_split, hlow, hhigh, nibbleFold_eq, BitVec.toNat_xor,
    BitVec.toNat_ushiftRight]

/-- **The MAVLink checksum** is the reflected CRC-16 without a final complement, for every message and
every initial value, and goes on from the checksum of a first part. -/
theorem x25crc_laws :
    (∀ (data : List UInt8) (c : BitVec 16), x25crc data c.toNat = (data.foldl crc16Byte c).toNat) ∧
    ∀ (a b : List UInt8) (crc : ℕ), x25crc (a ++ b) crc = x25crc b (x25crc a crc) := by
  refine ⟨fun data => ?_, fun a b crc => List.foldl_append⟩
  induction data with
  | nil => exact fun c => rfl
  | cons b data ih =>
    intro c
    rw [x25crc, List.foldl_cons, x25Byte_eq_crc16Byte]
    exact ih (crc16Byte c b)

example : x25crc "123456789".toUTF8.toList = 0x6F91 := by decide +kernel

end Fpvd.Wfb
