import Mathlib.Tactic

/-!
# Fpvd.Lib.Struct — packed records of little-endian integers

A format is a list of fields, each a number of bytes, signed in two's complement or not.
-/

namespace Fpvd.Struct

structure Field where
  size : ℕ
  signed : Bool := false
  pos : 0 < size := by decide

def Field.card (f : Field) : ℕ := 256 ^ f.size

def Field.Fits (f : Field) (v : ℤ) : Prop :=
  if f.signed then -(f.card : ℤ) ≤ 2 * v ∧ 2 * v < f.card else 0 ≤ v ∧ v < f.card

instance (f : Field) (v : ℤ) : Decidable (f.Fits v) :=
  inferInstanceAs (Decidable (if f.signed then _ else _))

def bytes : ℕ → ℕ → List UInt8
  | 0, _ => []
  | n + 1, v => UInt8.ofNat v :: bytes n (v / 256)

def number : List UInt8 → ℕ
  | [] => 0
  | b :: bs => b.toNat + 256 * number bs

def Field.unpack (f : Field) (bs : List UInt8) : ℤ :=
  if f.signed ∧ f.card ≤ 2 * number bs then number bs - f.card else number bs

def Field.pack (f : Field) (v : ℤ) : List UInt8 := bytes f.size (v % f.card).toNat

def size (fmt : List Field) : ℕ := (fmt.map Field.size).sum

def unpack : List Field → List UInt8 → List ℤ
  | [], _ => []
  | f :: fmt, bs => f.unpack (bs.take f.size) :: unpack fmt (bs.drop f.size)

def pack : List Field → List ℤ → List UInt8
  | f :: fmt, v :: vs => f.pack v ++ pack fmt vs
  | _, _ => []

variable {f : Field} {fmt : List Field} {bs : List UInt8} {v : ℤ} {vs : List ℤ}

theorem length_bytes (n v : ℕ) : (bytes n v).length = n := by
  induction n generalizing v with
  | zero => rfl
  | succ n ih => rw [bytes, List.length_cons, ih]

theorem number_bytes (n v : ℕ) : number (bytes n v) = v % 256 ^ n := by
  induction n generalizing v with
  | zero => rw [pow_zero, Nat.mod_one]; rfl
  | succ n ih =>
    have hpow : 256 ^ (n + 1) = 256 * 256 ^ n := pow_succ' 256 n
    rw [bytes, number, ih, UInt8.toNat_ofNat', hpow, Nat.mod_mul]

theorem bytes_number (bs : List UInt8) : bytes bs.length (number bs) = bs := by
  induction bs with
  | nil => rfl
  | cons b bs ih =>
    have hb := b.toNat_lt
    rw [number, List.length_cons, bytes, Nat.add_mul_div_left _ _ (by decide), Nat.div_eq_of_lt hb, zero_add, ih]
    congr 1
    apply UInt8.toNat_inj.mp
    rw [UInt8.toNat_ofNat']
    omega

theorem number_lt (bs : List UInt8) : number bs < 256 ^ bs.length := by
  induction bs with
  | nil => decide
  | cons b bs ih =>
    have hb := b.toNat_lt
    rw [number, List.length_cons, pow_succ']
    omega

theorem Field.even_card (f : Field) : ∃ h, f.card = 2 * h ∧ 0 < h := by
  refine ⟨128 * 256 ^ (f.size - 1), ?_, by positivity⟩
  have hpow := pow_succ' 256 (f.size - 1)
  rw [Nat.sub_add_cancel f.pos] at hpow
  rw [card, hpow]
  ring

theorem Field.pack_eq_iff (h : bs.length = f.size) : f.pack v = bs ↔ v % f.card = number bs := by
  have hpos : (0 : ℤ) < f.card := by
    obtain ⟨half, hcard, hpos⟩ := f.even_card
    omega
  have h0 := Int.emod_nonneg v hpos.ne'
  have hlt := Int.emod_lt_of_pos v hpos
  constructor
  · rintro rfl
    rw [pack, number_bytes, Nat.mod_eq_of_lt]
    · omega
    · exact (by omega : (v % f.card).toNat < f.card)
  · intro hv
    rw [pack, hv, Int.toNat_natCast, ← h, bytes_number]

theorem Field.unpack_eq_iff (h : bs.length = f.size) : f.unpack bs = v ↔ f.Fits v ∧ f.pack v = bs := by
  have hlt : number bs < f.card := by
    rw [card, ← h]
    exact number_lt bs
  obtain ⟨half, hcard, hpos⟩ := f.even_card
  rw [pack_eq_iff h]
  unfold unpack Fits
  cases f.signed with
  | false =>
    simp only [Bool.false_eq_true, false_and, if_false]
    constructor
    · rintro rfl
      exact ⟨by omega, Int.emod_eq_of_lt (by omega) (by omega)⟩
    · rintro ⟨⟨h0, h1⟩, hv⟩
      rw [← hv, Int.emod_eq_of_lt h0 h1]
  | true =>
    simp only [true_and, if_true]
    constructor
    · intro hv
      split_ifs at hv with hneg
      · subst hv
        refine ⟨by omega, ?_⟩
        rw [Int.sub_emod_right, Int.emod_eq_of_lt (by omega) (by omega)]
      · subst hv
        exact ⟨by omega, Int.emod_eq_of_lt (by omega) (by omega)⟩
    · rintro ⟨⟨h0, h1⟩, hv⟩
      rcases lt_or_ge v 0 with hneg | hneg
      · rw [← Int.add_emod_right, Int.emod_eq_of_lt (by omega) (by omega)] at hv
        rw [if_pos (by omega)]
        omega
      · rw [Int.emod_eq_of_lt hneg (by omega)] at hv
        rw [if_neg (by omega)]
        omega

theorem unpack_eq_iff (h : bs.length = size fmt) :
    unpack fmt bs = vs ↔ List.Forall₂ Field.Fits fmt vs ∧ pack fmt vs = bs := by
  induction fmt generalizing bs vs with
  | nil =>
    obtain rfl : bs = [] := List.length_eq_zero_iff.mp h
    cases vs <;> simp [unpack, pack]
  | cons f fmt ih =>
    have hsize : bs.length = f.size + size fmt := h
    cases vs with
    | nil => simp [unpack]
    | cons v vs =>
      have htake : (bs.take f.size).length = f.size := by simp; omega
      have hdrop : (bs.drop f.size).length = size fmt := by simp; omega
      rw [unpack, List.cons.injEq, Field.unpack_eq_iff htake, ih hdrop, List.forall₂_cons, pack]
      constructor
      · rintro ⟨⟨hv, hp⟩, hvs, hps⟩
        exact ⟨⟨hv, hvs⟩, by rw [hp, hps, List.take_append_drop]⟩
      · rintro ⟨⟨hv, hvs⟩, rfl⟩
        have hlen : (f.pack v).length = f.size := length_bytes _ _
        exact ⟨⟨hv, by rw [← hlen, List.take_left]⟩, hvs, by rw [← hlen, List.drop_left]⟩

theorem length_pack (h : List.Forall₂ Field.Fits fmt vs) : (pack fmt vs).length = size fmt := by
  induction h with
  | nil => rfl
  | cons _ _ ih => rw [pack, List.length_append, ih]; exact congrArg (· + _) (length_bytes _ _)

theorem unpack_pack (h : List.Forall₂ Field.Fits fmt vs) : unpack fmt (pack fmt vs) = vs :=
  (unpack_eq_iff (length_pack h)).mpr ⟨h, rfl⟩

end Fpvd.Struct
