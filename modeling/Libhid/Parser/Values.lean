import Mathlib.Tactic.Ring
import Libhid.Parser.HidParse

/-!
# The values of items

What the item fetch makes of the data bytes of an item: the number they encode, on every platform
but a big-endian one with a `long` of 64 bits.  There the bytes end up in the upper half of `Value`,
and every `uchar` taken from it is 0.
-/

namespace Libhid

lemma leNat_lt : ∀ bytes : List UInt8, leNat bytes < 256 ^ bytes.length
  | [] => Nat.one_pos
  | b :: bs => by
      have hb := b.toNat_lt
      have hbs := leNat_lt bs
      rw [leNat, List.length_cons, Nat.pow_succ]
      omega

lemma leNat_eq_zero : ∀ {bytes : List UInt8}, leNat bytes = 0 ↔ ∀ b ∈ bytes, b = 0
  | [] => by simp [leNat]
  | b :: bs => by
      have hb : b = 0 ↔ b.toNat = 0 := UInt8.toNat_inj.symm
      rw [leNat, List.forall_mem_cons, hb, ← leNat_eq_zero]
      omega

namespace Abi

variable {abi : Abi}

/-- The byte loop of `WORDS_BIGENDIAN` puts the number encoded above the lower bits of a `long`. -/
lemma loadBig_eq : ∀ {i : ℕ} {bytes : List UInt8}, i + bytes.length ≤ 4 →
    abi.loadBig i bytes = (2 ^ (abi.longWidth.bits - 32 + 8 * i) * leNat bytes : ℕ)
  | i, [], _ => by simp [loadBig, leNat]
  | i, b :: bs, h => by
      have hi : i < 4 := by
        simp at h
        omega
      have hbits : abi.longWidth.bits - 8 = (abi.longWidth.bits - 32 + 8 * i) + (3 - i) * 8 := by
        have hwidth : 32 ≤ abi.longWidth.bits := by cases abi.longWidth <;> decide
        omega
      have hshift : (b.toNat * 2 ^ (abi.longWidth.bits - 8)) >>> ((3 - i) * 8) =
          b.toNat * 2 ^ (abi.longWidth.bits - 32 + 8 * i) := by
        rw [Nat.shiftRight_eq_div_pow, hbits, Nat.pow_add, ← Nat.mul_assoc]
        exact Nat.mul_div_cancel _ (Nat.two_pow_pos _)
      rw [loadBig, loadBig_eq (by simp at h; omega), hshift, leNat, ← Int.natCast_add]
      rw [show 8 * (i + 1) = 8 * i + 8 by omega, ← Nat.add_assoc, Nat.pow_add _ _ 8]
      congr 1
      ring

/-- A `long` holds a number that leaves its sign bit alone. -/
lemma toLong_natCast {n : ℕ} (h : n < 2 ^ (abi.longWidth.bits - 1)) : abi.toLong n = n := by
  unfold toLong
  cases hw : abi.longWidth <;> rw [hw] at h <;>
    exact Int.bmod_eq_of_le (by simp only [LongWidth.bits, Nat.reducePow]; omega)
      (by simp only [LongWidth.bits, Nat.reducePow] at *; omega)

/-- The platform loads the number that the data bytes of an item encode. -/
def LoadsItems (abi : Abi) : Prop := abi.wordsBigEndian = false ∨ abi.longWidth = .w32

lemma load_eq (h : abi.LoadsItems) {bytes : List UInt8} (hlen : bytes.length ≤ 4) :
    abi.load bytes = abi.toLong (leNat bytes) := by
  unfold load
  cases hbig : abi.wordsBigEndian with
  | false => rfl
  | true =>
      have hw : abi.longWidth = .w32 := h.resolve_left (by simp [hbig])
      rw [if_pos rfl, loadBig_eq (by omega), hw]
      simp [LongWidth.bits]

end Abi

/-- A conversion to `long` keeps the lower bits. -/
lemma toLong_emod (abi : Abi) (n : ℕ) {m : ℤ} (hm : m ∣ (2 ^ abi.longWidth.bits : ℕ)) :
    abi.toLong n % m = n % m := by
  rw [Abi.toLong, ← Int.emod_emod_of_dvd _ hm, Int.bmod_emod, Int.emod_emod_of_dvd _ hm]

lemma ushort_natCast (n : ℕ) : ushort (n : ℤ) = UInt16.ofNat n := by
  rw [ushort, show ((n : ℤ) % 65536).toNat = n % 65536 by omega, ← UInt16.toNat_inj]
  simp

/-- The lower half of an item's value. -/
lemma ushort_toLong (abi : Abi) (n : ℕ) : ushort (abi.toLong n) = UInt16.ofNat n := by
  have hdvd : (65536 : ℤ) ∣ (2 ^ abi.longWidth.bits : ℕ) := by
    cases abi.longWidth <;> decide
  rw [ushort, toLong_emod abi n hdvd, ← ushort, ushort_natCast]

lemma ushort_toLong_emod (abi : Abi) (n : ℕ) {m : ℕ} (hm : m ∣ 2 ^ abi.longWidth.bits) :
    ushort (abi.toLong n % m) = UInt16.ofNat (n % m) := by
  rw [toLong_emod abi n (Int.natCast_dvd_natCast.mpr hm), ← Int.natCast_emod, ushort_natCast]

/-- The upper half of an item's value. -/
lemma ushort_toLong_div (abi : Abi) (n : ℕ) :
    ushort (abi.toLong n / 65536) = UInt16.ofNat (n / 65536) := by
  have hmod : abi.toLong n / 65536 % 65536 = ((n / 65536 : ℕ) : ℤ) % 65536 := by
    unfold Abi.toLong
    cases abi.longWidth <;>
      simp only [LongWidth.bits, Int.bmod, Nat.reducePow, Nat.cast_ofNat] <;> split_ifs <;> omega
  rw [ushort, hmod, ← ushort, ushort_natCast]

lemma uchar_natCast (n : ℕ) : uchar (n : ℤ) = UInt8.ofNat n := by
  rw [uchar, show ((n : ℤ) % 256).toNat = n % 256 by omega, ← UInt8.toNat_inj]
  simp

lemma uchar_toLong (abi : Abi) (n : ℕ) : uchar (abi.toLong n) = UInt8.ofNat n := by
  have hdvd : (256 : ℤ) ∣ (2 ^ abi.longWidth.bits : ℕ) := by
    cases abi.longWidth <;> decide
  rw [uchar, toLong_emod abi n hdvd, ← uchar, uchar_natCast]

lemma uchar_load {abi : Abi} (h : abi.LoadsItems) {bytes : List UInt8} (hlen : bytes.length ≤ 4) :
    (uchar (abi.load bytes)).toNat = leNat bytes % 256 := by
  rw [abi.load_eq h hlen, uchar_toLong]
  simp

lemma ushort_load {abi : Abi} (h : abi.LoadsItems) {bytes : List UInt8} (hlen : bytes.length ≤ 4) :
    ushort (abi.load bytes) = UInt16.ofNat (leNat bytes) := by
  rw [abi.load_eq h hlen, ushort_toLong]

/-! ## The platforms left over -/

/-- The bytes of an item are above the lower half of `Value`. -/
lemma load_shifted {abi : Abi} (h : ¬ abi.LoadsItems) {bytes : List UInt8}
    (hlen : bytes.length ≤ 4) : (2 ^ 32 : ℤ) ∣ abi.load bytes := by
  simp only [Abi.LoadsItems, not_or, Bool.not_eq_false] at h
  have hw : abi.longWidth.bits = 64 := by
    cases hlong : abi.longWidth with
    | w32 => exact absurd hlong h.2
    | w64 => rfl
  have hdvd : (2 ^ 32 : ℤ) ∣ (2 ^ abi.longWidth.bits : ℕ) := by
    rw [hw]
    decide
  rw [Abi.load, if_pos h.1, Abi.loadBig_eq (by omega), hw]
  apply Int.dvd_of_emod_eq_zero
  rw [toLong_emod abi _ hdvd]
  simp only [Nat.mul_zero, Nat.add_zero, Nat.reduceSub]
  omega

lemma uchar_shifted {v : ℤ} (h : (2 ^ 32 : ℤ) ∣ v) : uchar v = 0 := by
  rw [uchar, show v % 256 = 0 by omega]
  rfl

lemma ushort_shifted {v : ℤ} (h : (2 ^ 32 : ℤ) ∣ v) : ushort v = 0 := by
  rw [ushort, show v % 65536 = 0 by omega]
  rfl

lemma ushort_div_shifted {v : ℤ} (h : (2 ^ 32 : ℤ) ∣ v) : ushort (v / 65536) = 0 := by
  rw [ushort, show v / 65536 % 65536 = 0 by omega]
  rfl

/-- Every `uchar` of an item is 0. -/
lemma uchar_load_zero {abi : Abi} (h : ¬ abi.LoadsItems) {bytes : List UInt8}
    (hlen : bytes.length ≤ 4) : uchar (abi.load bytes) = 0 :=
  uchar_shifted (load_shifted h hlen)

end Libhid
