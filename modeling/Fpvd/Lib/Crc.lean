import Mathlib

/-!
# Fpvd.Lib.Crc — CRC-32 as a remainder of polynomials over GF(2)

Bits go over the line least significant first, so the first bit of a word is the coefficient of the
highest power.
-/

namespace Fpvd.Crc

open Polynomial

/-! ## Words as polynomials -/

def bit (b : Bool) : ZMod 2 := if b then 1 else 0

theorem bit_xor (a b : Bool) : bit (a ^^ b) = bit a + bit b := by
  cases a <;> cases b <;> decide

noncomputable def linePoly {w : ℕ} (v : BitVec w) : (ZMod 2)[X] :=
  ∑ j ∈ Finset.range w, monomial j (bit (v.getMsbD j))

variable {w : ℕ} (bs : List UInt8) (c : BitVec 32)

theorem linePoly_coeff (v : BitVec w) (j : ℕ) :
    (linePoly v).coeff j = if j < w then bit (v.getMsbD j) else 0 := by
  simp [linePoly, coeff_monomial]

theorem linePoly_degree_lt (v : BitVec w) : (linePoly v).degree < w := by
  refine (degree_lt_iff_coeff_zero _ w).mpr fun j hj => ?_
  rw [linePoly_coeff, if_neg (by omega)]

theorem linePoly_xor (a b : BitVec w) : linePoly (a ^^^ b) = linePoly a + linePoly b := by
  ext j
  rw [coeff_add, linePoly_coeff, linePoly_coeff, linePoly_coeff]
  by_cases hj : j < w
  · simp [hj, bit_xor]
  · simp [hj]

theorem linePoly_injective : Function.Injective (linePoly (w := w)) := by
  intro a b h
  refine BitVec.eq_of_getMsbD_eq fun j hj => ?_
  have hcoeff := congrArg (coeff · j) h
  simp only [linePoly_coeff, if_pos hj] at hcoeff
  cases ha : a.getMsbD j <;> cases hb : b.getMsbD j <;> simp_all [bit]

theorem linePoly_setWidth (b : BitVec 8) : linePoly (b.setWidth 32) = linePoly b * X ^ 24 := by
  ext j
  rw [coeff_mul_X_pow', linePoly_coeff, linePoly_coeff]
  by_cases h : 24 ≤ j
  · by_cases hj : j < 32
    · have h8 : j - 24 < 8 := by omega
      rw [if_pos hj, if_pos h, if_pos h8, BitVec.getMsbD_setWidth]
      congr 1
      simp [show 32 - 8 ≤ j by omega]
    · rw [if_neg hj, if_pos h, if_neg (by omega)]
  · rw [if_neg h, if_pos (by omega), BitVec.getMsbD_setWidth]
    simp [bit, show ¬ 32 - 8 ≤ j by omega]

theorem linePoly_ushiftRight :
    linePoly c * X = linePoly (c >>> 1) + monomial 32 (bit (c.getLsbD 0)) := by
  ext j
  cases j with
  | zero => simp [linePoly_coeff, coeff_monomial, bit]
  | succ j =>
    rw [coeff_mul_X, coeff_add, coeff_monomial, linePoly_coeff, linePoly_coeff,
      BitVec.getMsbD_ushiftRight]
    rcases Nat.lt_trichotomy j 31 with h | rfl | h
    · simp [show j < 32 by omega, show j + 1 < 32 by omega, show ¬ 32 = j + 1 by omega]
    · simp [BitVec.getMsbD_eq_getLsbD]
    · simp [show ¬ j < 32 by omega, show ¬ j + 1 < 32 by omega, show ¬ 32 = j + 1 by omega]

/-! ## The CRC -/

noncomputable def generator : (ZMod 2)[X] :=
  X ^ 32 + X ^ 26 + X ^ 23 + X ^ 22 + X ^ 16 + X ^ 12 + X ^ 11 + X ^ 10 + X ^ 8 + X ^ 7 + X ^ 5 +
    X ^ 4 + X ^ 2 + X + 1

noncomputable def messagePoly (bs : List UInt8) : (ZMod 2)[X] :=
  bs.foldl (fun p b => p * X ^ 8 + linePoly b.toBitVec) 0

/-- The message followed by 32 zero bits, its first 32 bits complemented. -/
noncomputable def dividend (bs : List UInt8) : (ZMod 2)[X] :=
  messagePoly bs * X ^ 32 + linePoly (BitVec.allOnes 32) * X ^ (8 * bs.length)

/-- **`c` is the CRC-32 of IEEE 802.3**: the remainder, its bits complemented. -/
def IsIeee (bs : List UInt8) (c : BitVec 32) : Prop := linePoly (~~~ c) = dividend bs %ₘ generator

theorem IsIeee.unique {bs : List UInt8} {c c' : BitVec 32} (h : IsIeee bs c) (h' : IsIeee bs c') :
    c = c' := by
  simpa using linePoly_injective (h.trans h'.symm)

theorem generator_monic : generator.Monic := by
  unfold generator
  monicity!

theorem generator_degree : generator.degree = 32 := by
  unfold generator
  compute_degree!

/-! ## The shift register -/

/-- The generator without its leading term, as a register. -/
def feedback : BitVec 32 := 0xEDB88320#32

theorem linePoly_feedback : linePoly feedback + X ^ 32 = generator := by
  have hX : ∀ j, monomial j (1 : ZMod 2) = X ^ j := fun j => monomial_one_right_eq_X_pow j
  simp [linePoly, generator, feedback, bit, Finset.sum_range_succ, hX]
  ring

/-- One step: the bit that leaves the register feeds back. -/
def shift (c : BitVec 32) : BitVec 32 := if c.getLsbD 0 then c >>> 1 ^^^ feedback else c >>> 1

def shiftByte (c : BitVec 32) (b : UInt8) : BitVec 32 := shift^[8] (c ^^^ b.toBitVec.setWidth 32)

def register (bs : List UInt8) : BitVec 32 := ~~~ bs.foldl shiftByte (BitVec.allOnes 32)

noncomputable def residue (c : BitVec 32) : AdjoinRoot generator := AdjoinRoot.mk generator (linePoly c)

theorem residue_shift : residue (shift c) = residue c * AdjoinRoot.root generator := by
  have hzero : AdjoinRoot.mk generator (linePoly feedback) = AdjoinRoot.mk generator (X ^ 32) := by
    rw [AdjoinRoot.mk_eq_mk, CharTwo.sub_eq_add, linePoly_feedback]
  have hX : residue c * AdjoinRoot.root generator = AdjoinRoot.mk generator (linePoly c * X) := by
    rw [map_mul, AdjoinRoot.mk_X, residue]
  rw [hX, linePoly_ushiftRight]
  unfold shift residue
  cases c.getLsbD 0 with
  | true => simp [linePoly_xor, hzero, bit, monomial_one_right_eq_X_pow]
  | false => simp [bit]

theorem residue_iterate (n : ℕ) (c : BitVec 32) :
    residue (shift^[n] c) = residue c * AdjoinRoot.root generator ^ n := by
  induction n with
  | zero => simp
  | succ n ih => rw [Function.iterate_succ_apply', residue_shift, ih, pow_succ, mul_assoc]

theorem residue_shiftByte (b : UInt8) :
    residue (shiftByte c b) = AdjoinRoot.mk generator (linePoly c * X ^ 8 + linePoly b.toBitVec * X ^ 32) := by
  rw [shiftByte, residue_iterate, residue, linePoly_xor, linePoly_setWidth]
  simp only [map_add, map_mul, map_pow, AdjoinRoot.mk_X]
  ring

/-- The invariant of the register: its polynomial is the dividend so far, up to the generator. -/
theorem residue_foldl :
    residue (bs.foldl shiftByte (BitVec.allOnes 32)) = AdjoinRoot.mk generator (dividend bs) := by
  induction bs using List.reverseRecOn with
  | nil => simp [dividend, messagePoly, residue]
  | append_singleton bs b ih =>
    rw [List.foldl_append, List.foldl_cons, List.foldl_nil, residue_shiftByte, map_add, map_mul]
    rw [← residue, ih]
    simp only [dividend, messagePoly, List.foldl_append, List.foldl_cons, List.foldl_nil,
      List.length_append, List.length_singleton, map_add, map_mul, map_pow, AdjoinRoot.mk_X]
    ring

theorem register_isIeee : IsIeee bs (register bs) := by
  have hdvd : generator ∣ linePoly (bs.foldl shiftByte (BitVec.allOnes 32)) - dividend bs :=
    AdjoinRoot.mk_eq_mk.mp (residue_foldl bs)
  have hdeg : (linePoly (bs.foldl shiftByte (BitVec.allOnes 32))).degree < generator.degree := by
    rw [generator_degree]
    exact linePoly_degree_lt _
  rw [IsIeee, register, BitVec.not_not, ← modByMonic_eq_of_dvd_sub generator_monic hdvd,
    (modByMonic_eq_self_iff generator_monic).mpr hdeg]

/-! ## Bursts -/

theorem messagePoly_concat (b : UInt8) :
    messagePoly (bs ++ [b]) = messagePoly bs * X ^ 8 + linePoly b.toBitVec := by
  simp [messagePoly]

theorem messagePoly_append (a b : List UInt8) :
    messagePoly (a ++ b) = messagePoly a * X ^ (8 * b.length) + messagePoly b := by
  induction b using List.reverseRecOn with
  | nil => simp [messagePoly]
  | append_singleton b c ih =>
    rw [← List.append_assoc, messagePoly_concat, ih, messagePoly_concat, List.length_append,
      List.length_singleton, mul_add, pow_add]
    ring

theorem messagePoly_degree_lt : (messagePoly bs).degree < (8 * bs.length : ℕ) := by
  rw [degree_lt_iff_coeff_zero]
  induction bs using List.reverseRecOn with
  | nil => simp [messagePoly]
  | append_singleton bs b ih =>
    intro j hj
    rw [List.length_append, List.length_singleton] at hj
    rw [messagePoly_concat, coeff_add, coeff_mul_X_pow', linePoly_coeff, if_pos (by omega),
      if_neg (by omega), ih (j - 8) (by omega), add_zero]

theorem messagePoly_injOn {a b : List UInt8} (hlen : a.length = b.length)
    (h : messagePoly a = messagePoly b) : a = b := by
  induction a using List.reverseRecOn generalizing b with
  | nil => exact (List.length_eq_zero_iff.mp hlen.symm).symm
  | append_singleton a x ih =>
    obtain rfl | ⟨b, y, rfl⟩ := List.eq_nil_or_concat b
    · simp at hlen
    rw [List.concat_eq_append, messagePoly_concat, messagePoly_concat] at h
    have hcoeff := fun j => congrArg (coeff · j) h
    simp only [coeff_add, coeff_mul_X_pow', linePoly_coeff] at hcoeff
    have hlast : linePoly x.toBitVec = linePoly y.toBitVec := by
      ext j
      rw [linePoly_coeff, linePoly_coeff]
      by_cases hj : j < 8
      · simpa [hj, show ¬ 8 ≤ j by omega] using hcoeff j
      · rw [if_neg hj, if_neg hj]
    have hinit : messagePoly a = messagePoly b := by
      ext j
      simpa using hcoeff (j + 8)
    rw [ih (by simpa using hlen) hinit, UInt8.toBitVec_inj.mp (linePoly_injective hlast),
      List.concat_eq_append]

theorem generator_coprime_X : IsCoprime generator X := by
  refine ⟨1, -(X ^ 31 + X ^ 25 + X ^ 22 + X ^ 21 + X ^ 15 + X ^ 11 + X ^ 10 + X ^ 9 + X ^ 7 + X ^ 6 +
    X ^ 4 + X ^ 3 + X + 1), ?_⟩
  unfold generator
  ring

theorem IsIeee.burst {before w w' after : List UInt8} {c : BitVec 32} (hlen : w.length = w'.length)
    (hw : w.length ≤ 4) (h : IsIeee (before ++ (w ++ after)) c)
    (h' : IsIeee (before ++ (w' ++ after)) c) : w = w' := by
  have hdvd : generator ∣ dividend (before ++ (w ++ after)) - dividend (before ++ (w' ++ after)) :=
    modByMonic_eq_zero_iff_dvd generator_monic |>.mp <| by
      rw [sub_modByMonic, ← h, ← h', sub_self]
  -- what is outside the window cancels
  have hdiff : dividend (before ++ (w ++ after)) - dividend (before ++ (w' ++ after)) =
      (messagePoly w - messagePoly w') * X ^ (8 * after.length + 32) := by
    simp only [dividend, messagePoly_append, List.length_append, hlen]
    ring
  rw [hdiff] at hdvd
  have hburst := (generator_coprime_X.pow_right).dvd_of_dvd_mul_right hdvd
  have hdeg : (messagePoly w - messagePoly w').degree < generator.degree := by
    rw [generator_degree]
    have hbound : ∀ v : List UInt8, v.length ≤ 4 → (messagePoly v).degree < (32 : ℕ) := fun v hv =>
      (messagePoly_degree_lt v).trans_le (by exact_mod_cast (by omega : 8 * v.length ≤ 32))
    exact (degree_sub_le _ _).trans_lt (max_lt (hbound w hw) (hbound w' (hlen ▸ hw)))
  exact messagePoly_injOn hlen (sub_eq_zero.mp (eq_zero_of_dvd_of_degree_lt hburst hdeg))

/-! ## Reflected registers -/

section Reflected

variable {w : ℕ} (poly : BitVec w)

def step (c : BitVec w) : BitVec w := if c.getLsbD 0 then c >>> 1 ^^^ poly else c >>> 1

theorem step_xor (a b : BitVec w) : step poly (a ^^^ b) = step poly a ^^^ step poly b := by
  unfold step
  rw [BitVec.getLsbD_xor, BitVec.ushiftRight_xor_distrib]
  cases a.getLsbD 0 <;> cases b.getLsbD 0
  · rfl
  · simp [BitVec.xor_assoc]
  · simp only [Bool.xor_false, if_true, Bool.false_eq_true, if_false]
    rw [BitVec.xor_assoc, BitVec.xor_comm (b >>> 1), ← BitVec.xor_assoc]
  · simp only [Bool.xor_self, Bool.false_eq_true, if_false, if_true]
    rw [BitVec.xor_comm (b >>> 1) poly, ← BitVec.xor_assoc, BitVec.xor_assoc (a >>> 1),
      BitVec.xor_self, BitVec.xor_zero]

theorem step_iterate_xor (n : ℕ) (a b : BitVec w) :
    (step poly)^[n] (a ^^^ b) = (step poly)^[n] a ^^^ (step poly)^[n] b := by
  induction n generalizing a b with
  | zero => rfl
  | succ n ih => rw [Function.iterate_succ_apply, step_xor, ih]; rfl

theorem step_iterate_of_low {c : BitVec w} (n : ℕ) (h : ∀ i < n, c.getLsbD i = false) :
    (step poly)^[n] c = c >>> n := by
  induction n with
  | zero => simp
  | succ n ih =>
    have hlow : (c >>> n).getLsbD 0 = false := by simpa using h n (Nat.lt_succ_self n)
    rw [Function.iterate_succ_apply', ih fun i hi => h i (by omega), step, hlow, BitVec.shiftRight_add]
    rfl

theorem step_iterate_split (n : ℕ) (c : BitVec w) :
    (step poly)^[n] c = c >>> n ^^^ (step poly)^[n] (c &&& BitVec.ofNat w (2 ^ n - 1)) := by
  have hsplit : c = (c &&& ~~~ BitVec.ofNat w (2 ^ n - 1)) ^^^ (c &&& BitVec.ofNat w (2 ^ n - 1)) := by
    refine BitVec.eq_of_getLsbD_eq fun i hi => ?_
    simp only [BitVec.getLsbD_xor, BitVec.getLsbD_and, BitVec.getLsbD_not]
    cases c.getLsbD i <;> cases (BitVec.ofNat w (2 ^ n - 1)).getLsbD i <;> simp [hi]
  conv_lhs => rw [hsplit]
  rw [step_iterate_xor, step_iterate_of_low]
  · congr 1
    refine BitVec.eq_of_getLsbD_eq fun i hi => ?_
    simp [BitVec.getLsbD_ofNat, Nat.testBit_two_pow_sub_one]
    intro hc
    exact BitVec.lt_of_getLsbD hc
  · intro i hi
    simp [BitVec.getLsbD_ofNat, Nat.testBit_two_pow_sub_one, hi]

end Reflected

end Fpvd.Crc
