import Mathlib.Algebra.BigOperators.Ring.Finset
import Mathlib.Data.Int.Bitwise
import Libhid.Device.Fields
import Libhid.Device.ItemValue

/-!
# What `GetValue` makes of the bits of a field

Up to `LogMax`, the value is the number the bits of the field stand for (`rawValue`), whatever is
around them (`getValue_raw`).  Above it, the complement of `LogMax` is or-ed to that number, which
is the sign extension of a negative value only where `LogMax` has all the bits that the value has
not (`negativeRead_iff`).
-/

namespace Libhid

open Framework

/-! ## The bits of a field as a number -/

/-- The number that `size` bits of a report stand for, the first one being the lowest. -/
def rawValue (buf : ℕ → UInt8) (bit size : ℕ) : ℕ :=
  ∑ i ∈ Finset.range size, 2 ^ i * (reportBit buf (bit + i)).toNat

section Raw

variable {buf : ℕ → UInt8} {bit size : ℕ}

lemma rawValue_succ (buf : ℕ → UInt8) (bit size : ℕ) :
    rawValue buf bit (size + 1) =
      2 ^ size * (reportBit buf (bit + size)).toNat + rawValue buf bit size := by
  rw [rawValue, Finset.sum_range_succ, Nat.add_comm]
  rfl

lemma rawValue_lt (buf : ℕ → UInt8) (bit size : ℕ) : rawValue buf bit size < 2 ^ size := by
  induction size with
  | zero => exact Nat.one_pos
  | succ size ih =>
      have hpow : 2 ^ (size + 1) = 2 ^ size + 2 ^ size := by rw [Nat.pow_succ, Nat.mul_two]
      rw [rawValue_succ]
      cases reportBit buf (bit + size) with
      | false =>
          rw [Bool.toNat_false, Nat.mul_zero]
          omega
      | true =>
          rw [Bool.toNat_true, Nat.mul_one]
          omega

lemma rawValue_testBit (buf : ℕ → UInt8) (bit size w : ℕ) :
    (rawValue buf bit size).testBit w = (decide (w < size) && reportBit buf (bit + w)) := by
  induction size with
  | zero => simp [rawValue]
  | succ size ih =>
      have hlt := rawValue_lt buf bit size
      rw [rawValue_succ, Nat.testBit_two_pow_mul_add _ hlt, ih]
      rcases Nat.lt_trichotomy w size with h | rfl | h
      · simp [h, Nat.lt_succ_of_lt h]
      · cases reportBit buf (bit + w) <;> simp
      · have hout : ¬ w < size + 1 := by omega
        have hplace : (reportBit buf (bit + size)).toNat < 2 ^ (w - size) :=
          Nat.lt_of_le_of_lt (Bool.toNat_le _) (Nat.one_lt_two_pow (by omega))
        rw [if_neg (Nat.lt_asymm h), decide_eq_false hout, Bool.false_and]
        exact Nat.testBit_lt_two_pow hplace

/-- The loop of `GetValue` computes it. -/
lemma getBits_eq (abi : Abi) (hsize : size ≤ 31) :
    abi.getBits buf size bit 0 0 = rawValue buf bit size := by
  obtain ⟨r, hr, -, hbits⟩ := getBits_testBit abi buf bit (by omega : 0 + size ≤ 31)
    (by decide : 0 < 2 ^ 0)
  rw [show abi.getBits buf size bit 0 0 = r from hr]
  congr 1
  apply Nat.eq_of_testBit_eq
  intro w
  rw [hbits, rawValue_testBit, if_neg (Nat.not_lt_zero w), Nat.zero_add, Nat.sub_zero]

end Raw

/-! ## Values up to `LogMax` -/

/-- The first bit of a field: the report ID is before it. -/
def HIDData.firstBit (data : HIDData) : ℕ := data.offset.toNat + 8

/-- **A field is decoded to the number its bits stand for**, and to nothing that depends on other
bits. -/
theorem getValue_raw (abi : Abi) (buf : ℕ → UInt8) (data : HIDData)
    (hsize : data.size.toNat ≤ 31)
    (hmax : (rawValue buf data.firstBit data.size.toNat : ℤ) ≤ data.logMax) :
    abi.getValue buf data =
        ∑ i ∈ Finset.range data.size.toNat,
          (2 : ℤ) ^ i * (reportBit buf (data.offset.toNat + 8 + i)).toNat ∧
      ∀ buf', (∀ i < data.size.toNat, reportBit buf' (data.offset.toNat + 8 + i) =
        reportBit buf (data.offset.toNat + 8 + i)) →
        abi.getValue buf' data = abi.getValue buf data := by
  refine ⟨?_, fun buf' hsame => ?_⟩
  · have hraw : (rawValue buf data.firstBit data.size.toNat : ℤ) = ∑ i ∈ Finset.range
        data.size.toNat, (2 : ℤ) ^ i * (reportBit buf (data.offset.toNat + 8 + i)).toNat := by
      rw [rawValue, Nat.cast_sum]
      refine Finset.sum_congr rfl fun i _ => ?_
      rw [Nat.cast_mul, Nat.cast_pow]
      rfl
    rw [← hraw, Abi.getValue, getBits_eq abi hsize]
    exact if_neg (Int.not_lt.mpr hmax)
  · refine getValue_congr fun bit hbit => ?_
    obtain ⟨i, hi, rfl⟩ := List.mem_map.mp hbit
    exact hsame i (List.mem_range.mp hi)

/-- `getValue_raw` for a field that crosses from the upper half of one byte into the next one. -/
theorem getValue_raw_bench :
    (Abi.little .w64 true).getValue (fun i => if i = 1 then 0xA5 else 0xC3)
        { HIDData.zero with offset := 4, size := 8, logMax := 255 } =
      ∑ i ∈ Finset.range 8,
        (2 : ℤ) ^ i * (reportBit (fun i => if i = 1 then 0xA5 else 0xC3) (4 + 8 + i)).toNat :=
  (getValue_raw (.little .w64 true) (fun i => if i = 1 then 0xA5 else 0xC3)
    { HIDData.zero with offset := 4, size := 8, logMax := 255 } (by decide) (by decide)).1

/-! ## Values above `LogMax` -/

/-- The field holds the value in two's complement. -/
def Stores (buf : ℕ → UInt8) (data : HIDData) (v : ℤ) : Prop :=
  ∀ w < data.size.toNat, reportBit buf (data.firstBit + w) = v.testBit w

section Negative

variable {abi : Abi} {buf : ℕ → UInt8} {data : HIDData} {n m r s : ℕ}

/-- The bits of a value that is not negative are those of the number. -/
lemma Stores.raw (h : Stores buf data n) (hn : n < 2 ^ data.size.toNat) :
    rawValue buf data.firstBit data.size.toNat = n := by
  apply Nat.eq_of_testBit_eq
  intro w
  rw [rawValue_testBit]
  by_cases hw : w < data.size.toNat
  · rw [decide_eq_true hw, Bool.true_and, h w hw]
    rfl
  · have hout : n < 2 ^ w := Nat.lt_of_lt_of_le hn
      (Nat.pow_le_pow_right (by decide) (Nat.not_lt.mp hw))
    rw [decide_eq_false hw, Bool.false_and, Nat.testBit_lt_two_pow hout]

/-- The bits of a negative value are the complement of a number. -/
lemma Stores.raw_neg (h : Stores buf data (Int.negSucc n)) (hn : n < 2 ^ data.size.toNat) :
    rawValue buf data.firstBit data.size.toNat = 2 ^ data.size.toNat - (n + 1) := by
  apply Nat.eq_of_testBit_eq
  intro w
  rw [rawValue_testBit, Nat.testBit_two_pow_sub_succ hn]
  by_cases hw : w < data.size.toNat
  · rw [h w hw]
    rfl
  · rw [decide_eq_false hw, Bool.false_and, Bool.false_and]

/-- A word of the width of `long` with its sign bit set. -/
lemma toLong_sign (abi : Abi) {x : ℕ} (hlow : 2 ^ (abi.longWidth.bits - 1) ≤ x)
    (hhigh : x < 2 ^ abi.longWidth.bits) : abi.toLong x = x - 2 ^ abi.longWidth.bits := by
  unfold Abi.toLong
  cases hw : abi.longWidth <;> rw [hw] at hlow hhigh <;>
    simp only [LongWidth.bits, Nat.reducePow, Nat.add_one_sub_one] at hlow hhigh ⊢ <;>
    rw [Int.bmod_def] <;> split_ifs <;> omega

lemma toULong_natCast (abi : Abi) (hn : n < 2 ^ 31) : abi.toULong n = n := by
  apply Int.emod_eq_of_lt (Int.natCast_nonneg n)
  cases abi.longWidth <;> simp only [LongWidth.bits] <;> omega

lemma toULong_not (abi : Abi) (hm : m < 2 ^ 31) :
    (abi.toULong (-m - 1)).toNat = 2 ^ abi.longWidth.bits - (m + 1) := by
  unfold Abi.toULong
  cases abi.longWidth <;> simp only [LongWidth.bits, Nat.reducePow] <;> omega

/-- Or-ing the complement of a `LogMax` that is not negative makes a number negative. -/
lemma orNot_eq_iff (abi : Abi) (hr : r < 2 ^ 31) (hm : m < 2 ^ 31) :
    abi.orNot r m = Int.negSucc n ↔
      r ||| (2 ^ abi.longWidth.bits - (m + 1)) = 2 ^ abi.longWidth.bits - (n + 1) := by
  have hsign : 2 ^ abi.longWidth.bits = 2 * 2 ^ (abi.longWidth.bits - 1) ∧
      2 ^ 31 ≤ 2 ^ (abi.longWidth.bits - 1) := by
    cases abi.longWidth <;> decide
  have hlow : 2 ^ (abi.longWidth.bits - 1) ≤ r ||| (2 ^ abi.longWidth.bits - (m + 1)) :=
    Nat.le_trans (by omega) Nat.right_le_or
  have hhigh : r ||| (2 ^ abi.longWidth.bits - (m + 1)) < 2 ^ abi.longWidth.bits :=
    Nat.or_lt_two_pow (by omega) (by omega)
  rw [Abi.orNot, toULong_natCast abi hr, Int.toNat_natCast, toULong_not abi hm,
    toLong_sign abi hlow hhigh, Int.negSucc_eq]
  have hcast : ((2 : ℤ) ^ abi.longWidth.bits) = ((2 ^ abi.longWidth.bits : ℕ) : ℤ) :=
    (Int.natCast_pow 2 _).symm
  rw [hcast]
  omega

/-- A negative `LogMax` has a complement that is not negative, and the value stays so. -/
lemma orNot_nonneg (abi : Abi) (hr : r < 2 ^ 31) (hm : m < 2 ^ 31) :
    0 ≤ abi.orNot r (Int.negSucc m) := by
  have hnot : -Int.negSucc m - 1 = (m : ℤ) := by
    rw [Int.negSucc_eq]
    omega
  rw [Abi.orNot, hnot, toULong_natCast abi hr, toULong_natCast abi hm, Int.toNat_natCast,
    Int.toNat_natCast, toLong_natCast abi (Nat.or_lt_two_pow hr hm)]
  exact Int.natCast_nonneg _

/-- The sign is extended over the bits of `LogMax` only. -/
lemma or_complement_iff {l : ℕ} (hsl : s ≤ l) (hm : m < 2 ^ s) (hn : n < 2 ^ s) :
    (2 ^ s - (n + 1)) ||| (2 ^ l - (m + 1)) = 2 ^ l - (n + 1) ↔
      ∀ w, n.testBit w = true → m.testBit w = true := by
  have hpow : 2 ^ s ≤ 2 ^ l := Nat.pow_le_pow_right (by decide) hsl
  have hbit : ∀ w, ((2 ^ s - (n + 1)) ||| (2 ^ l - (m + 1))).testBit w =
      (decide (w < s) && !n.testBit w || decide (w < l) && !m.testBit w) := by
    intro w
    rw [Nat.testBit_or, Nat.testBit_two_pow_sub_succ hn, Nat.testBit_two_pow_sub_succ (by omega)]
  have hzero : ∀ {x w : ℕ}, x < 2 ^ s → s ≤ w → x.testBit w = false := fun hx hw =>
    Nat.testBit_lt_two_pow (Nat.lt_of_lt_of_le hx (Nat.pow_le_pow_right (by decide) hw))
  constructor
  · intro h w hw
    have hlt : w < s := by
      by_contra hge
      rw [hzero hn (Nat.not_lt.mp hge)] at hw
      cases hw
    have hsame := congrArg (Nat.testBit · w) h
    rw [hbit, Nat.testBit_two_pow_sub_succ (by omega), hw] at hsame
    simpa [Nat.lt_of_lt_of_le hlt hsl] using hsame
  · intro h
    apply Nat.eq_of_testBit_eq
    intro w
    rw [hbit, Nat.testBit_two_pow_sub_succ (by omega)]
    by_cases hlt : w < s
    · have hwl := Nat.lt_of_lt_of_le hlt hsl
      cases hw : n.testBit w with
      | false => simp [hlt, hwl]
      | true => simp [h w hw]
    · have hge := Nat.not_lt.mp hlt
      simp [hlt, hzero hn hge, hzero hm hge]

/-- A value that is not negative is read, if it is not above `LogMax`. -/
lemma Stores.getValue (h : Stores buf data n) (hsize : data.size.toNat ≤ 31)
    (hn : n < 2 ^ data.size.toNat) (hmax : (n : ℤ) ≤ data.logMax) : abi.getValue buf data = n := by
  rw [Abi.getValue, show data.offset.toNat + 8 = data.firstBit from rfl, getBits_eq abi hsize,
    h.raw hn]
  exact if_neg (Int.not_lt.mpr hmax)

/-- To the bits of a negative value the complement of `LogMax` is or-ed. -/
lemma Stores.getValue_neg (h : Stores buf data (Int.negSucc n)) (hsize : data.size.toNat ≤ 31)
    (hn : n < 2 ^ data.size.toNat)
    (hmax : data.logMax < (2 ^ data.size.toNat - (n + 1) : ℕ)) :
    abi.getValue buf data = abi.orNot (2 ^ data.size.toNat - (n + 1) : ℕ) data.logMax := by
  rw [Abi.getValue, show data.offset.toNat + 8 = data.firstBit from rfl, getBits_eq abi hsize,
    h.raw_neg hn]
  exact if_pos hmax

/-- The complement of `LogMax` extends the sign if and only if `LogMax` is not negative and has
every bit that the value has not. -/
lemma orNot_negSucc_iff (abi : Abi) {k : ℕ} {logMax : ℤ} (hk : k + 1 ≤ 31) (hn : n < 2 ^ k)
    (hlogMax : logMax < (2 ^ k : ℕ)) (hle : Int.negSucc n ≤ logMax) :
    abi.orNot (2 ^ (k + 1) - (n + 1) : ℕ) logMax = Int.negSucc n ↔
      0 ≤ logMax ∧ ∀ w, (Int.negSucc n).testBit w = true ∨ logMax.testBit w = true := by
  have hpow : 2 ^ (k + 1) ≤ 2 ^ 31 := Nat.pow_le_pow_right (by decide) hk
  have hhalf : 2 ^ (k + 1) = 2 ^ k + 2 ^ k := by rw [Nat.pow_succ, Nat.mul_two]
  cases logMax with
  | negSucc m =>
      have hm : m ≤ n := by
        rw [Int.negSucc_eq, Int.negSucc_eq] at hle
        omega
      have hsum := orNot_nonneg abi (r := 2 ^ (k + 1) - (n + 1)) (m := m) (by omega) (by omega)
      refine iff_of_false (fun he => ?_) fun h => ?_
      · exact absurd (he ▸ hsum) (Int.not_le.mpr (Int.negSucc_lt_zero n))
      · exact absurd h.1 (Int.not_le.mpr (Int.negSucc_lt_zero m))
  | ofNat m =>
      have hm : m < 2 ^ k := by
        rw [Int.ofNat_eq_natCast] at hlogMax
        omega
      have hwidth : k + 1 ≤ abi.longWidth.bits := by
        cases abi.longWidth <;> simp only [LongWidth.bits] <;> omega
      rw [Int.ofNat_eq_natCast, orNot_eq_iff abi (by omega) (by omega),
        or_complement_iff hwidth (by omega) (by omega)]
      refine ⟨fun h => ⟨Int.natCast_nonneg m, fun w => ?_⟩, fun h w hw => ?_⟩
      · cases hbit : n.testBit w with
        | false => exact .inl (by rw [Int.testBit, hbit]; rfl)
        | true => exact .inr (h w hbit)
      · rcases h.2 w with hclear | hset
        · rw [Int.testBit, hw] at hclear
          cases hclear
        · exact hset

end Negative

/-- **A value of a field with negative values is read if and only if it is not negative, or `LogMax`
is not and has every bit that the value has not.** -/
theorem negativeRead_iff (abi : Abi) (buf : ℕ → UInt8) (data : HIDData) (v : ℤ)
    (h1 : 1 ≤ data.size.toNat) (hsize : data.size.toNat ≤ 31)
    (hlogMin : -2 ^ (data.size.toNat - 1) ≤ data.logMin)
    (hlogMax : data.logMax < 2 ^ (data.size.toNat - 1))
    (hv : data.logMin ≤ v ∧ v ≤ data.logMax) (hst : Stores buf data v) :
    abi.getValue buf data = v ↔ 0 ≤ v ∨ (0 ≤ data.logMax ∧
      ∀ w, v.testBit w = true ∨ data.logMax.testBit w = true) := by
  obtain ⟨k, hk⟩ : ∃ k, data.size.toNat = k + 1 := ⟨data.size.toNat - 1, by omega⟩
  have hhalf : 2 ^ (k + 1) = 2 ^ k + 2 ^ k := by rw [Nat.pow_succ, Nat.mul_two]
  have hcast : (2 : ℤ) ^ k = ((2 ^ k : ℕ) : ℤ) := (Int.natCast_pow 2 k).symm
  rw [hk, Nat.add_sub_cancel, hcast] at hlogMin hlogMax
  cases v with
  | ofNat n =>
      rw [Int.ofNat_eq_natCast] at hv hst ⊢
      have hn : n < 2 ^ data.size.toNat := by
        rw [hk]
        omega
      exact iff_of_true (hst.getValue hsize hn hv.2) (.inl (Int.natCast_nonneg n))
  | negSucc n =>
      have hn : n < 2 ^ k := by
        have hlow := Int.le_trans hlogMin hv.1
        rw [Int.negSucc_eq] at hlow
        omega
      have hneg : ¬ 0 ≤ Int.negSucc n := Int.not_le.mpr (Int.negSucc_lt_zero n)
      rw [hst.getValue_neg hsize (by rw [hk]; omega) (by rw [hk]; omega), hk, or_iff_right hneg]
      exact orNot_negSucc_iff abi (by omega) hn hlogMax hv.2

/-- `negativeRead_iff` for a field of eight bits with the values -128 to 127. -/
theorem negativeRead_iff_bench :
    (Abi.little .w64 true).getValue (fun _ => 0xFE) { HIDData.zero with
      size := 8, logMin := -128, logMax := 127 } = -2 :=
  (negativeRead_iff (.little .w64 true) (fun _ => 0xFE)
    { HIDData.zero with size := 8, logMin := -128, logMax := 127 } (-2) (by decide) (by decide)
    (by decide) (by decide) (by decide) (by unfold Stores; decide)).mpr (.inr ⟨by decide, by
      intro w
      by_cases hw : w < 7
      · right
        revert w
        decide
      · left
        show (!Nat.testBit 1 w) = true
        rw [Nat.testBit_lt_two_pow (Nat.one_lt_two_pow (by omega))]
        rfl⟩)

/-- Not every negative value is read: with the values -128 to 1 the lowest one is read as -2. -/
theorem negativeRead_fails : ¬ ∀ (abi : Abi) (buf : ℕ → UInt8) (data : HIDData) (v : ℤ),
    1 ≤ data.size.toNat → data.size.toNat ≤ 31 → data.logMin < 0 → data.logMin ≤ data.logMax →
    -2 ^ (data.size.toNat - 1) ≤ data.logMin → data.logMax < 2 ^ (data.size.toNat - 1) →
    data.logMin ≤ v → v ≤ data.logMax → Stores buf data v → abi.getValue buf data = v := by
  intro hall
  have hread := hall (.little .w64 true) (fun _ => 0x80)
    { HIDData.zero with size := 8, logMin := -128, logMax := 1 } (-128) (by decide) (by decide)
    (by decide) (by decide) (by decide) (by decide) (by decide) (by decide)
    (by unfold Stores; decide)
  revert hread
  decide

end Libhid
