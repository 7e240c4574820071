import Libhid.Device.Parsing

/-!
# Fields of a report (`SetValue` and `GetValue`)

`SetValue` puts the bit of weight `w` into the byte its position is in, but at the place `w % 8`
of that byte, while `GetValue` looks for it at the place its position has; and it clears a byte only
when it comes to the first bit of it.  Both agree on fields that begin at a byte.  For the others
`fieldReadBack_iff` says which values are read back: the byte the field begins in has to come out
right together with what it held before, and in the bytes after it the value must not change when
its bits are moved to where `SetValue` puts them.
-/

namespace Libhid

open Framework

namespace Abi

/-- The turn of the loop of `SetValue` for the bit of one weight. -/
def putBit (abi : Abi) (value : ℤ) (bit weight : ℕ) (buf : ℕ → UInt8) : ℕ → UInt8 :=
  let state := (abi.toULong value).toNat.testBit (weight % 32)
  let buf := if bit % 8 = 0 then Function.update buf (bit / 8) 0 else buf
  if state then
    Function.update buf (bit / 8) (buf (bit / 8) + UInt8.ofNat (2 ^ (weight % 8)))
  else buf

/-- The loop of `SetValue` with `k` bits left. -/
def putBits (abi : Abi) (value : ℤ) : ℕ → ℕ → ℕ → (ℕ → UInt8) → ℕ → UInt8
  | 0, _, _, buf => buf
  | k + 1, bit, weight, buf =>
      putBits abi value k (bit + 1) (weight + 1) (abi.putBit value bit weight buf)

/-- `SetValue`: the new buffer. -/
def setValue (abi : Abi) (data : HIDData) (buf : ℕ → UInt8) : ℕ → UInt8 :=
  abi.putBits data.value data.size.toNat (data.offset.toNat + 8) 0 buf

end Abi

/-! ## Bytes and their bits -/

/-- Setting a bit that is clear by an addition. -/
lemma testBit_add_two_pow {x : UInt8} {i : ℕ} (hi : i < 8) (hx : x.toNat.testBit i = false)
    (p : ℕ) :
    (x + UInt8.ofNat (2 ^ i)).toNat.testBit p = (x.toNat.testBit p || decide (p = i)) := by
  have hpow : (UInt8.ofNat (2 ^ i)).toNat = 2 ^ i := by
    apply UInt8.toNat_ofNat_of_lt
    exact Nat.pow_lt_pow_right (by decide) hi
  have hand : x.toBitVec &&& (UInt8.ofNat (2 ^ i)).toBitVec = 0#8 := by
    apply BitVec.eq_of_toNat_eq
    rw [BitVec.toNat_and]
    show x.toNat &&& (UInt8.ofNat (2 ^ i)).toNat = 0
    rw [hpow]
    apply Nat.eq_of_testBit_eq
    intro j
    rw [Nat.testBit_and, Nat.testBit_two_pow, Nat.zero_testBit]
    by_cases hij : i = j
    · rw [← hij, hx, Bool.false_and]
    · simp [hij]
  have hor : (x + UInt8.ofNat (2 ^ i)).toNat = x.toNat ||| 2 ^ i := by
    have h := congrArg BitVec.toNat (BitVec.add_eq_or_of_and_eq_zero _ _ hand)
    rw [BitVec.toNat_or] at h
    change (x + UInt8.ofNat (2 ^ i)).toNat = x.toNat ||| (UInt8.ofNat (2 ^ i)).toNat at h
    rw [h, hpow]
  rw [hor, Nat.testBit_or, Nat.testBit_two_pow]
  simp only [eq_comm]

/-! ## What is written -/

section Write

variable {abi : Abi} {v : ℕ} {bit : ℕ} {buf : ℕ → UInt8}

/-- The last turn of the loop. -/
lemma putBits_succ (abi : Abi) (value : ℤ) (k bit weight : ℕ) (buf : ℕ → UInt8) :
    abi.putBits value (k + 1) bit weight buf =
      abi.putBit value (bit + k) (weight + k) (abi.putBits value k bit weight buf) := by
  induction k generalizing bit weight buf with
  | zero => rfl
  | succ k ih =>
      rw [Abi.putBits, ih, Abi.putBits]
      congr 1 <;> omega

/-- The bit `SetValue` tests. -/
lemma toULong_testBit (hv : v < 2 ^ 31) {w : ℕ} (hw : w < 31) :
    (abi.toULong v).toNat.testBit (w % 32) = v.testBit w := by
  have hlt : (v : ℤ) < 2 ^ abi.longWidth.bits := by
    cases abi.longWidth <;> simp [LongWidth.bits] <;> omega
  rw [Abi.toULong, Int.emod_eq_of_lt (Int.natCast_nonneg v) hlt, Int.toNat_natCast,
    Nat.mod_eq_of_lt (by omega)]

/-- The effect of a turn on a byte. -/
lemma putBit_apply (hv : v < 2 ^ 31) {n : ℕ} (hn : n < 31) (old : ℕ → UInt8) (q : ℕ) :
    abi.putBit v (bit + n) n old q =
      if q = (bit + n) / 8 then
        (if (bit + n) % 8 = 0 then 0 else old q) +
          (if v.testBit n then UInt8.ofNat (2 ^ (n % 8)) else 0)
      else old q := by
  unfold Abi.putBit
  rw [toULong_testBit hv hn]
  by_cases hq : q = (bit + n) / 8
  · subst hq
    rw [if_pos rfl]
    split_ifs <;> simp
  · rw [if_neg hq]
    split_ifs <;> simp [hq]

/-- The bytes of the buffer that the first `n` bits do not come to stay as they are. -/
lemma putBits_of_ne (hv : v < 2 ^ 31) {m n q : ℕ} (hn : n ≤ 31) (hmn : m ≤ n)
    (hq : ∀ w, m ≤ w → w < n → q ≠ (bit + w) / 8) :
    abi.putBits v n bit 0 buf q = abi.putBits v m bit 0 buf q := by
  induction n, hmn using Nat.le_induction with
  | base => rfl
  | succ n hmn ih =>
      rw [putBits_succ, Nat.zero_add, putBit_apply hv (by omega), if_neg (hq n hmn (by omega))]
      exact ih (by omega) fun w hw hw' => hq w hw (by omega)

/-- **The byte the field begins in, behind the first bit of it**: the low bits of the value are
added to what it held. -/
lemma putBits_first (hv : v < 2 ^ 31) (hbit : bit % 8 ≠ 0) {n : ℕ} (hn : n ≤ 8 - bit % 8) :
    abi.putBits v n bit 0 buf (bit / 8) = buf (bit / 8) + UInt8.ofNat (v % 2 ^ n) := by
  induction n with
  | zero => simp [Abi.putBits, Nat.mod_one]
  | succ n ih =>
      have hq : bit / 8 = (bit + n) / 8 := by omega
      have hmod : (bit + n) % 8 ≠ 0 := by omega
      rw [putBits_succ, Nat.zero_add, putBit_apply hv (by omega), if_pos hq, if_neg hmod,
        ih (by omega), Nat.mod_pow_succ, UInt8.ofNat_add, UInt8.add_assoc,
        Nat.mod_eq_of_lt (by omega : n < 8), ← Nat.toNat_testBit]
      cases v.testBit n <;> simp

/-- The byte into which `t` bits of the value were put, from the weight `w` on. -/
def packed (v w : ℕ) : ℕ → UInt8
  | 0 => 0
  | t + 1 => packed v w t + (if v.testBit (w + t) then UInt8.ofNat (2 ^ ((w + t) % 8)) else 0)

/-- A byte that begins in the field, at the weight `w`. -/
lemma putBits_packed (hv : v < 2 ^ 31) {q w t : ℕ} (hq : 8 * q = bit + w) (ht : t < 8)
    (hn : w + t < 31) : abi.putBits v (w + (t + 1)) bit 0 buf q = packed v w (t + 1) := by
  induction t with
  | zero =>
      rw [← Nat.add_assoc, putBits_succ, Nat.zero_add, putBit_apply hv (by omega),
        if_pos (by omega), if_pos (by omega)]
      rfl
  | succ t ih =>
      rw [← Nat.add_assoc, putBits_succ, Nat.zero_add, putBit_apply hv (by omega),
        if_pos (by omega), if_neg (by omega), ih (by omega) (by omega)]
      rfl

/-- The place of a byte holds the bit whose weight has the place as its remainder. -/
lemma packed_testBit (v w : ℕ) {t p : ℕ} (ht : t ≤ 8) (hp : p < 8) :
    (packed v w t).toNat.testBit p =
      (decide ((p + 8 - w % 8) % 8 < t) && v.testBit (w + (p + 8 - w % 8) % 8)) := by
  induction t generalizing p with
  | zero => simp [packed]
  | succ t ih =>
      have hp' : (w + t) % 8 < 8 := Nat.mod_lt _ (by decide)
      have hclear : (packed v w t).toNat.testBit ((w + t) % 8) = false := by
        have hu : ((w + t) % 8 + 8 - w % 8) % 8 = t := by omega
        rw [ih (by omega) hp', hu]
        simp
      have hput : (packed v w (t + 1)).toNat.testBit p =
          ((packed v w t).toNat.testBit p || v.testBit (w + t) && decide (p = (w + t) % 8)) := by
        rw [packed]
        cases v.testBit (w + t) with
        | true => rw [if_pos rfl, testBit_add_two_pow hp' hclear, Bool.true_and]
        | false => simp
      rw [hput, ih (by omega) hp]
      by_cases hplace : p = (w + t) % 8
      · have hu : (p + 8 - w % 8) % 8 = t := by omega
        rw [hu, decide_eq_true hplace]
        simp
      · have hlt : (p + 8 - w % 8) % 8 < t + 1 ↔ (p + 8 - w % 8) % 8 < t := by omega
        simp [hplace, hlt]

end Write

/-! ## What is read -/

/-- The weight of the value whose bit `SetValue` leaves where `GetValue` looks for the weight `w`,
in a field that begins at the place `a` of a byte. -/
def swapped (a w : ℕ) : ℕ := w - (a + w) % 8 + ((a + w) % 8 + a) % 8

section Read

variable {abi : Abi} {v s bit : ℕ} {buf : ℕ → UInt8}

/-- `SetValue` on a field, before `GetValue` looks at the bit of the weight `w`: behind the byte the
field begins in. -/
lemma read_later (hs : s ≤ 31) (hv : v < 2 ^ s) {w : ℕ} (hw : w < s)
    (hlater : bit % 8 = 0 ∨ 8 - bit % 8 ≤ w) :
    reportBit (abi.putBits v s bit 0 buf) (bit + w) = v.testBit (swapped (bit % 8) w) := by
  have hv31 : v < 2 ^ 31 := Nat.lt_of_lt_of_le hv (Nat.pow_le_pow_right (by decide) hs)
  -- the byte begins in the field, at the weight `w₀`
  obtain ⟨w₀, hw₀, hle⟩ : ∃ w₀, 8 * ((bit + w) / 8) = bit + w₀ ∧ w₀ ≤ w :=
    ⟨8 * ((bit + w) / 8) - bit, by omega, by omega⟩
  obtain ⟨t, ht⟩ : ∃ t, min (s - w₀) 8 = t + 1 := ⟨min (s - w₀) 8 - 1, by omega⟩
  have hbyte : abi.putBits v s bit 0 buf ((bit + w) / 8) = packed v w₀ (t + 1) := by
    rw [putBits_of_ne (m := w₀ + (t + 1)) hv31 hs (by omega) (by omega)]
    exact putBits_packed hv31 hw₀ (by omega) (by omega)
  rw [reportBit, hbyte, packed_testBit v w₀ (by omega) (Nat.mod_lt _ (by decide))]
  have hplace : w₀ + ((bit + w) % 8 + 8 - w₀ % 8) % 8 = swapped (bit % 8) w := by
    unfold swapped
    omega
  rw [hplace]
  by_cases hin : ((bit + w) % 8 + 8 - w₀ % 8) % 8 < t + 1
  · simp [hin]
  · -- the weight is not one of the field
    have hout : s ≤ swapped (bit % 8) w := by omega
    have hfalse : v.testBit (swapped (bit % 8) w) = false :=
      Nat.testBit_lt_two_pow (Nat.lt_of_lt_of_le hv (Nat.pow_le_pow_right (by decide) hout))
    rw [hfalse, Bool.and_false]

/-- In the byte the field begins in. -/
lemma read_first (hs : s ≤ 31) (hv : v < 2 ^ s) {w : ℕ} (hw : w < s) (hbit : bit % 8 ≠ 0)
    (hfirst : w < 8 - bit % 8) :
    reportBit (abi.putBits v s bit 0 buf) (bit + w) =
      ((buf (bit / 8)).toNat + v % 2 ^ min s (8 - bit % 8)).testBit (bit % 8 + w) := by
  have hv31 : v < 2 ^ 31 := Nat.lt_of_lt_of_le hv (Nat.pow_le_pow_right (by decide) hs)
  have hq : (bit + w) / 8 = bit / 8 := by omega
  have hp : (bit + w) % 8 = bit % 8 + w := by omega
  rw [reportBit, hq, hp, putBits_of_ne (m := min s (8 - bit % 8)) hv31 hs (by omega) (by omega),
    putBits_first hv31 hbit (by omega), UInt8.toNat_add, UInt8.toNat_ofNat', Nat.add_mod_mod,
    Nat.testBit_mod_two_pow]
  simp
  omega

/-- A number of 31 bits is a `long`. -/
lemma toLong_natCast (abi : Abi) {n : ℕ} (hn : n < 2147483648) : abi.toLong n = n := by
  unfold Abi.toLong
  apply Int.bmod_eq_of_le <;> cases abi.longWidth <;> simp [LongWidth.bits] <;> omega

lemma bmod_natCast {n : ℕ} (hn : n < 2147483648) : (n : ℤ).bmod (2 ^ 32) = n := by
  apply Int.bmod_eq_of_le <;> omega

lemma shiftOne_eq {weight : ℕ} (hw : weight < 31) : Abi.shiftOne weight = (2 ^ weight : ℕ) := by
  have hpow : (2 : ℕ) ^ weight < 2 ^ 31 := Nat.pow_lt_pow_right (by decide) hw
  have hmod : weight % 32 = weight := Nat.mod_eq_of_lt (by omega)
  have hcast : (2 : ℤ) ^ (weight % 32) = (2 ^ weight : ℕ) := by
    rw [hmod, Int.natCast_pow]
    rfl
  exact (congrArg (Int.bmod · (2 ^ 32)) hcast).trans (bmod_natCast hpow)

/-- A turn of the loop of `GetValue` adds a bit above the value so far. -/
lemma addBit (abi : Abi) {weight : ℕ} (hw : weight < 31) (hv : v < 2 ^ weight) (b : Bool) :
    ∃ r : ℕ, (if b then abi.toLong (v + Abi.shiftOne weight) else (v : ℤ)) = r ∧
      r < 2 ^ (weight + 1) ∧
      ∀ w, r.testBit w = if w = weight then b else v.testBit w := by
  have hpow : (2 : ℕ) ^ (weight + 1) ≤ 2147483648 := Nat.pow_le_pow_right (by decide) hw
  have hsucc : (2 : ℕ) ^ (weight + 1) = 2 ^ weight + 2 ^ weight := by
    rw [Nat.pow_succ, Nat.mul_two]
  have hclear : v.testBit weight = false := Nat.testBit_lt_two_pow hv
  cases b with
  | false =>
      refine ⟨v, rfl, by omega, fun w => ?_⟩
      split_ifs with h
      · rw [h, hclear]
      · rfl
  | true =>
      refine ⟨2 ^ weight + v, ?_, by omega, fun w => ?_⟩
      · rw [if_pos rfl, shiftOne_eq hw, ← Int.natCast_add, Nat.add_comm,
          toLong_natCast abi (by omega)]
      · have hor := Nat.two_pow_add_eq_or_of_lt hv 1
        rw [Nat.mul_one] at hor
        rw [hor, Nat.testBit_or, Nat.testBit_two_pow]
        by_cases h : w = weight
        · simp [h]
        · simp [h, Ne.symm h]

/-- `GetValue` puts the bits of the field together. -/
lemma getBits_testBit (abi : Abi) (buf : ℕ → UInt8) (bit : ℕ) {k weight v : ℕ}
    (hk : weight + k ≤ 31)
    (hv : v < 2 ^ weight) :
    ∃ r : ℕ, abi.getBits buf k bit weight v = r ∧ r < 2 ^ (weight + k) ∧
      ∀ w, r.testBit w = if w < weight then v.testBit w
        else (decide (w < weight + k) && reportBit buf (bit + (w - weight))) := by
  induction k generalizing bit weight v with
  | zero =>
      refine ⟨v, rfl, hv, fun w => ?_⟩
      split_ifs with h
      · rfl
      · rw [Nat.testBit_lt_two_pow (Nat.lt_of_lt_of_le hv
          (Nat.pow_le_pow_right (by decide) (Nat.not_lt.mp h)))]
        simp [h]
  | succ k ih =>
      obtain ⟨v', hv', hlt, hbits⟩ := addBit abi (by omega) hv (reportBit buf bit)
      rw [Abi.getBits, hv']
      obtain ⟨r, hr, hrlt, hrbits⟩ := @ih (bit + 1) (weight + 1) v' (by omega) hlt
      refine ⟨r, hr, by rwa [show weight + (k + 1) = weight + 1 + k by omega], fun w => ?_⟩
      rw [hrbits, hbits]
      rcases Nat.lt_trichotomy w weight with h | rfl | h
      · rw [if_pos (by omega), if_neg (by omega), if_pos h]
      · simp
      · rw [if_neg (by omega), if_neg (by omega),
          show bit + 1 + (w - (weight + 1)) = bit + (w - weight) by omega,
          show weight + 1 + k = weight + (k + 1) by omega]

/-- A value that is above `LogMax` becomes negative. -/
lemma orNot_neg (abi : Abi) (a : ℤ) {b : ℤ} (h0 : 0 ≤ b) (hlt : b < 2147483648) :
    abi.orNot a b < 0 := by
  obtain ⟨k, hk, hbits⟩ : ∃ k, 31 ≤ k ∧ abi.longWidth.bits = k + 1 := by
    cases abi.longWidth with
    | w32 => exact ⟨31, le_refl 31, rfl⟩
    | w64 => exact ⟨63, by decide, rfl⟩
  have hpow : 2147483648 ≤ 2 ^ k := Nat.pow_le_pow_right (n := 2) (by decide) hk
  have hsucc : 2 ^ (k + 1) = 2 ^ k + 2 ^ k := by rw [Nat.pow_succ, Nat.mul_two]
  have hcast : (2 : ℤ) ^ (k + 1) = ((2 ^ (k + 1) : ℕ) : ℤ) := (Int.natCast_pow 2 (k + 1)).symm
  have hword : ∀ x : ℤ, (abi.toULong x).toNat < 2 ^ (k + 1) := by
    intro x
    rw [Abi.toULong, hbits, hcast]
    have h := Int.emod_lt_of_pos x (Int.natCast_pos.mpr (Nat.two_pow_pos (k + 1)))
    omega
  -- the bit of the sign is one of `~b`
  have hsign : 2 ^ k ≤ (abi.toULong (-b - 1)).toNat := by
    have h := Int.add_mul_emod_self_left (-b - 1) ((2 ^ (k + 1) : ℕ) : ℤ) 1
    rw [Int.mul_one, Int.emod_eq_of_lt (by omega) (by omega)] at h
    rw [Abi.toULong, hbits, hcast, ← h]
    omega
  have hle := Nat.le_trans hsign (Nat.right_le_or (n := (abi.toULong a).toNat))
  have hlt := Nat.or_lt_two_pow (hword a) (hword (-b - 1))
  rw [Abi.orNot, Abi.toLong, hbits, Int.bmod_def]
  generalize (abi.toULong a).toNat ||| (abi.toULong (-b - 1)).toNat = n at hle hlt ⊢
  rw [← Int.natCast_emod, Nat.mod_eq_of_lt hlt]
  split_ifs <;> omega

/-- `GetValue` yields a value of the field if and only if the bits are those of the value. -/
lemma getValue_eq_iff {data : HIDData} (hsize : data.size.toNat ≤ 31) (hv : v < 2 ^ data.size.toNat)
    (hmax : (v : ℤ) ≤ data.logMax) (hlogMax : data.logMax < (2 ^ data.size.toNat : ℕ)) :
    abi.getValue buf data = v ↔
      ∀ w < data.size.toNat, reportBit buf (data.offset.toNat + 8 + w) = v.testBit w := by
  have hpow : 2 ^ data.size.toNat ≤ 2147483648 := Nat.pow_le_pow_right (n := 2) (by decide) hsize
  obtain ⟨r, hr, hrlt, hbits⟩ := getBits_testBit abi buf (data.offset.toNat + 8)
    (by omega : 0 + data.size.toNat ≤ 31) (by decide : 0 < 2 ^ 0)
  rw [Nat.zero_add] at hrlt
  have hvalue : abi.getValue buf data = v ↔ r = v := by
    unfold Abi.getValue
    rw [show abi.getBits buf data.size.toNat (data.offset.toNat + 8) 0 0 = r from hr]
    by_cases hgt : (r : ℤ) > data.logMax
    · have hneg := orNot_neg abi r (by omega : 0 ≤ data.logMax) (by omega)
      rw [if_pos hgt]
      omega
    · rw [if_neg hgt]
      omega
  rw [hvalue]
  constructor
  · rintro rfl w hw
    rw [hbits, if_neg (by omega), Nat.zero_add, Nat.sub_zero, decide_eq_true hw, Bool.true_and]
  · intro h
    apply Nat.eq_of_testBit_eq
    intro w
    rw [hbits, if_neg (by omega), Nat.zero_add, Nat.sub_zero]
    by_cases hw : w < data.size.toNat
    · rw [decide_eq_true hw, Bool.true_and, h w hw]
    · rw [decide_eq_false hw, Bool.false_and, Nat.testBit_lt_two_pow]
      exact Nat.lt_of_lt_of_le hv (Nat.pow_le_pow_right (by decide) (Nat.not_lt.mp hw))

end Read

/-! ## Writing and reading back -/

/-- The value of the field survives being written over `buf` and read back. -/
def RoundTrips (data : HIDData) (buf : ℕ → UInt8) : Prop :=
  let a := data.offset.toNat % 8
  let v := data.value.toNat
  let m := min data.size.toNat (8 - a)
  a = 0 ∨
    (((buf ((data.offset.toNat + 8) / 8)).toNat + v % 2 ^ m) / 2 ^ a % 2 ^ m = v % 2 ^ m ∧
      ∀ w < data.size.toNat, 8 - a ≤ w → v.testBit (swapped a w) = v.testBit w)

/-- The low bits of a number at a place. -/
lemma div_mod_two_pow_eq_iff {x v a m : ℕ} :
    x / 2 ^ a % 2 ^ m = v % 2 ^ m ↔ ∀ w < m, x.testBit (a + w) = v.testBit w := by
  constructor
  · intro h w hw
    have hw' := congrArg (Nat.testBit · w) h
    simpa [Nat.testBit_mod_two_pow, Nat.testBit_div_two_pow, hw, Nat.add_comm] using hw'
  · intro h
    apply Nat.eq_of_testBit_eq
    intro w
    by_cases hw : w < m
    · simpa [Nat.testBit_mod_two_pow, Nat.testBit_div_two_pow, hw, Nat.add_comm] using h w hw
    · simp [Nat.testBit_mod_two_pow, hw]

/-- **A value written to a field is read back if and only if it survives**: always where the field
begins at a byte. -/
theorem fieldReadBack_iff (abi : Abi) (buf : ℕ → UInt8) (data : HIDData)
    (hsize : data.size.toNat ≤ 31) (h0 : 0 ≤ data.value) (hmax : data.value ≤ data.logMax)
    (hlogMax : data.logMax < 2 ^ data.size.toNat) :
    abi.getValue (abi.setValue data buf) data = data.value ↔ RoundTrips data buf := by
  obtain ⟨v, hvalue⟩ := Int.eq_ofNat_of_zero_le h0
  have hcast : (2 : ℤ) ^ data.size.toNat = (2 ^ data.size.toNat : ℕ) :=
    (Int.natCast_pow 2 _).symm
  rw [hcast] at hlogMax
  have hv : v < 2 ^ data.size.toNat := by omega
  have ha : (data.offset.toNat + 8) % 8 = data.offset.toNat % 8 := Nat.add_mod_right _ 8
  have hlt : data.offset.toNat % 8 < 8 := Nat.mod_lt _ (by decide)
  have hlater : ∀ w < data.size.toNat,
      data.offset.toNat % 8 = 0 ∨ 8 - data.offset.toNat % 8 ≤ w →
      reportBit (abi.setValue data buf) (data.offset.toNat + 8 + w) =
        v.testBit (swapped (data.offset.toNat % 8) w) := by
    intro w hw hfrom
    rw [Abi.setValue, hvalue, read_later hsize hv hw (by rwa [ha]), ha]
  rw [hvalue, getValue_eq_iff hsize hv (by omega) hlogMax, RoundTrips, hvalue, Int.toNat_natCast]
  by_cases hbyte : data.offset.toNat % 8 = 0
  · refine iff_of_true (fun w hw => ?_) (.inl hbyte)
    rw [hlater w hw (.inl hbyte), hbyte, swapped]
    congr 1
    omega
  · have hfirst : ∀ w < min data.size.toNat (8 - data.offset.toNat % 8),
        reportBit (abi.setValue data buf) (data.offset.toNat + 8 + w) =
          ((buf ((data.offset.toNat + 8) / 8)).toNat +
            v % 2 ^ min data.size.toNat (8 - data.offset.toNat % 8)).testBit
              (data.offset.toNat % 8 + w) := by
      intro w hw
      rw [Abi.setValue, hvalue, read_first hsize hv (by omega) (by omega) (by omega), ha]
    rw [or_iff_right hbyte, div_mod_two_pow_eq_iff]
    constructor
    · intro h
      refine ⟨fun w hw => ?_, fun w hw hfrom => ?_⟩
      · rw [← hfirst w hw, h w (by omega)]
      · rw [← hlater w hw (.inr hfrom), h w hw]
    · rintro ⟨hlow, hhigh⟩ w hw
      by_cases hfrom : 8 - data.offset.toNat % 8 ≤ w
      · rw [hlater w hw (.inr hfrom), hhigh w hw hfrom]
      · rw [hfirst w (by omega), hlow w (by omega)]

/-- A field of four bits, with its greatest value 15. -/
def fourBits (offset : UInt8) (value : ℤ) : HIDData :=
  { HIDData.zero with offset := offset, size := 4, value := value, logMax := 15 }

/-- `fieldReadBack_iff` for a field that begins at a byte: what the buffer held is gone. -/
theorem fieldReadBack_iff_bench :
    (Abi.little .w64 true).getValue ((Abi.little .w64 true).setValue (fourBits 0 5) fun _ => 0xFF)
      (fourBits 0 5) = 5 :=
  (fieldReadBack_iff (.little .w64 true) (fun _ => 0xFF) (fourBits 0 5) (by decide) (by decide)
    (by decide)
    (by decide)).mpr (.inl rfl)

/-- Not every value is read back: in the upper half of a byte `SetValue` sets the lower bits. -/
theorem fieldReadBack_fails : ¬ ∀ (abi : Abi) (buf : ℕ → UInt8) (data : HIDData),
    1 ≤ data.size.toNat → data.size.toNat ≤ 31 → 0 ≤ data.value → data.value ≤ data.logMax →
    data.logMax < 2 ^ data.size.toNat →
    abi.getValue (abi.setValue data buf) data = data.value := by
  intro hall
  have hread := hall (.little .w64 true) (fun _ => 0) (fourBits 4 1) (by decide) (by decide)
    (by decide) (by decide) (by decide)
  revert hread
  decide

end Libhid
