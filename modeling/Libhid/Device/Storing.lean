import Mathlib.Data.Nat.ModEq
import Mathlib.Tactic.IntervalCases
import Libhid.Device.Decoding

/-!
# What `SetValue` leaves alone

`SetValue` adds the low bits of the value to the byte the field begins in, and clears every byte it
comes to the first bit of.  `StaysInside` says when neither is seen outside the field: what is added
begins at the first bit of the field and is not carried out of it, and the byte the field ends in
has behind the field what `SetValue` puts there.  Fields that are stored so can be stored in any
order (`storedApart_iff`).
-/

namespace Libhid

open Framework

/-! ## Values of any sign -/

/-- The lower 31 bits of `Value`, all that a field of up to 31 bits takes of it. -/
def HIDData.word (data : HIDData) (abi : Abi) : ℕ := (abi.toULong data.value).toNat % 2 ^ 31

section Word

variable {abi : Abi} {data : HIDData}

lemma word_lt (abi : Abi) (data : HIDData) : data.word abi < 2 ^ 31 :=
  Nat.mod_lt _ (by decide)

/-- The loop of `SetValue` tests the lower bits of a value only. -/
lemma putBits_congr {v v' : ℤ} (h : ∀ w < 31,
    (abi.toULong v).toNat.testBit w = (abi.toULong v').toNat.testBit w) :
    ∀ {k bit weight : ℕ} {buf : ℕ → UInt8}, weight + k ≤ 31 →
      abi.putBits v k bit weight buf = abi.putBits v' k bit weight buf
  | 0, _, _, _, _ => rfl
  | k + 1, bit, weight, buf, hle => by
      have hput : abi.putBit v bit weight buf = abi.putBit v' bit weight buf := by
        rw [Abi.putBit, Abi.putBit, Nat.mod_eq_of_lt (by omega : weight < 32),
          h weight (by omega)]
      rw [Abi.putBits, Abi.putBits, hput, putBits_congr h (by omega)]

/-- `SetValue` as the loop over a value that is not negative. -/
lemma setValue_word (abi : Abi) (hsize : data.size.toNat ≤ 31) (buf : ℕ → UInt8) :
    abi.setValue data buf = abi.putBits (data.word abi) data.size.toNat data.firstBit 0 buf := by
  refine putBits_congr (fun w hw => ?_) (by omega)
  have hword : (abi.toULong (data.word abi)).toNat.testBit (w % 32) = (data.word abi).testBit w :=
    toULong_testBit (word_lt abi data) hw
  rw [Nat.mod_eq_of_lt (by omega : w < 32)] at hword
  rw [hword, HIDData.word, Nat.testBit_mod_two_pow, decide_eq_true hw, Bool.true_and]

end Word

/-! ## The bytes of a field -/

section Bytes

variable {abi : Abi} {v s bit q w : ℕ} {buf : ℕ → UInt8}

/-- A byte the field does not come to. -/
lemma storedByte_outside (hv : v < 2 ^ 31) (hs : s ≤ 31) (hq : ∀ w < s, q ≠ (bit + w) / 8) :
    abi.putBits v s bit 0 buf q = buf q :=
  putBits_of_ne (m := 0) hv hs (Nat.zero_le s) fun w _ hw => hq w hw

/-- The byte the field begins in, behind its first bit. -/
lemma storedByte_first (hv : v < 2 ^ 31) (hs : s ≤ 31) (hbit : bit % 8 ≠ 0) :
    (abi.putBits v s bit 0 buf (bit / 8)).toNat =
      ((buf (bit / 8)).toNat + v % 2 ^ min s (8 - bit % 8)) % 2 ^ 8 := by
  rw [putBits_of_ne (m := min s (8 - bit % 8)) hv hs (by omega) (by omega),
    putBits_first hv hbit (by omega), UInt8.toNat_add, UInt8.toNat_ofNat', Nat.add_mod_mod]

/-- A byte that begins in the field. -/
lemma storedByte_later (hv : v < 2 ^ 31) (hs : s ≤ 31) (hq : 8 * q = bit + w) (hw : w < s) :
    abi.putBits v s bit 0 buf q = packed v w (min (s - w) 8) := by
  obtain ⟨t, ht⟩ : ∃ t, min (s - w) 8 = t + 1 := ⟨min (s - w) 8 - 1, by omega⟩
  rw [putBits_of_ne (m := w + (t + 1)) hv hs (by omega) (by omega), ht]
  exact putBits_packed hv hq (by omega) (by omega)

end Bytes

/-! ## Additions that are not seen -/

/-- The bits below a place stay if and only if what is added begins there. -/
lemma add_low_iff {x y a : ℕ} :
    (∀ p < a, (x + y).testBit p = x.testBit p) ↔ 2 ^ a ∣ y := by
  have hmod : (∀ p < a, (x + y).testBit p = x.testBit p) ↔ (x + y) % 2 ^ a = x % 2 ^ a := by
    have h := div_mod_two_pow_eq_iff (x := x + y) (v := x) (a := 0) (m := a)
    simpa using h.symm
  rw [hmod]
  constructor
  · intro h
    exact Nat.add_modEq_left_iff.mp h
  · rintro ⟨k, rfl⟩
    exact Nat.add_mul_mod_self_left x _ k

/-- The bits of a byte from a place on. -/
lemma byte_div_iff {m n e : ℕ} (hm : m < 2 ^ 8) (hn : n < 2 ^ 8) :
    (∀ p, e ≤ p → p < 8 → m.testBit p = n.testBit p) ↔ m / 2 ^ e = n / 2 ^ e := by
  constructor
  · intro h
    apply Nat.eq_of_testBit_eq
    intro w
    rw [Nat.testBit_div_two_pow, Nat.testBit_div_two_pow]
    by_cases hw : w + e < 8
    · exact h (w + e) (Nat.le_add_left e w) hw
    · have hpow : 2 ^ 8 ≤ 2 ^ (w + e) := Nat.pow_le_pow_right (by decide) (by omega)
      rw [Nat.testBit_lt_two_pow (by omega), Nat.testBit_lt_two_pow (by omega)]
  · intro h p hp _
    have hp' := congrArg (Nat.testBit · (p - e)) h
    simpa [Nat.testBit_div_two_pow, Nat.sub_add_cancel hp] using hp'

/-- The bits from a place on stay if and only if nothing is carried there. -/
lemma add_high_iff {x y e : ℕ} (hx : x < 2 ^ 8) (he : e < 8) (hy : y < 2 ^ e) :
    (∀ p, e ≤ p → p < 8 → ((x + y) % 2 ^ 8).testBit p = x.testBit p) ↔ x % 2 ^ e + y < 2 ^ e := by
  rw [byte_div_iff (Nat.mod_lt _ (by decide)) hx]
  interval_cases e <;> omega

/-- Where what is added begins at a place, the bits from it on are those of a sum. -/
lemma add_testBit {x y a p : ℕ} (hy : 2 ^ a ∣ y) (hap : a ≤ p) (hp : p < 8) :
    ((x + y) % 2 ^ 8).testBit p = (x / 2 ^ a + y / 2 ^ a).testBit (p - a) := by
  rw [Nat.testBit_mod_two_pow, decide_eq_true hp, Bool.true_and, ← Nat.add_div_of_dvd_left hy,
    Nat.testBit_div_two_pow, Nat.sub_add_cancel hap]

/-! ## What is outside the field -/

/-- The bits of the report that the field is made of. -/
def HIDData.Covers (data : HIDData) (bit : ℕ) : Prop :=
  data.firstBit ≤ bit ∧ bit < data.firstBit + data.size.toNat

/-- Storing the value changes no bit outside the field. -/
def Frames (abi : Abi) (data : HIDData) (buf : ℕ → UInt8) : Prop :=
  ∀ bit, ¬ data.Covers bit → reportBit (abi.setValue data buf) bit = reportBit buf bit

/-- Nothing that `SetValue` does to the two bytes a field shares with others is seen there. -/
structure StaysInside (abi : Abi) (data : HIDData) (buf : ℕ → UInt8) : Prop where
  /-- The byte the field begins in, behind the first bit of it: what is added to the byte has only
  bits of the field, and is not carried behind it. -/
  first : data.firstBit % 8 ≠ 0 →
    2 ^ (data.firstBit % 8) ∣
        data.word abi % 2 ^ min data.size.toNat (8 - data.firstBit % 8) ∧
      (data.firstBit % 8 + data.size.toNat < 8 →
        (buf (data.firstBit / 8)).toNat % 2 ^ (data.firstBit % 8 + data.size.toNat) +
            data.word abi % 2 ^ data.size.toNat <
          2 ^ (data.firstBit % 8 + data.size.toNat))
  /-- The byte the field ends in, if it begins in the field: behind the field it holds the bits of
  the value that `SetValue` puts there, and 0 at the other places. -/
  last : ∀ q w t, 8 * q = data.firstBit + w → w + t = data.size.toNat → 0 < t → t < 8 →
    ∀ p, t ≤ p → p < 8 → (buf q).toNat.testBit p =
      (decide ((p + 8 - w % 8) % 8 < t) && (data.word abi).testBit (w + (p + 8 - w % 8) % 8))

section Frame

variable {abi : Abi} {data : HIDData} {buf buf' : ℕ → UInt8} {bit : ℕ}

/-- A bit of a byte by its place. -/
lemma reportBit_place (buf : ℕ → UInt8) {q p : ℕ} (hp : p < 8) :
    reportBit buf (8 * q + p) = (buf q).toNat.testBit p := by
  rw [reportBit, show (8 * q + p) / 8 = q by omega, show (8 * q + p) % 8 = p by omega]

/-- Buffers with the same bits are the same. -/
lemma buffer_ext (h : ∀ bit, reportBit buf bit = reportBit buf' bit) : buf = buf' := by
  funext q
  rw [← UInt8.toNat_inj]
  apply Nat.eq_of_testBit_eq
  intro p
  by_cases hp : p < 8
  · rw [← reportBit_place buf hp, ← reportBit_place buf' hp, h]
  · have hpow : 2 ^ 8 ≤ 2 ^ p := Nat.pow_le_pow_right (by decide) (by omega)
    have hlt := (buf q).toNat_lt
    have hlt' := (buf' q).toNat_lt
    rw [Nat.testBit_lt_two_pow (by omega), Nat.testBit_lt_two_pow (by omega)]

/-- The byte the field begins in, seen from outside the field. -/
lemma first_iff (hsize : data.size.toNat ≤ 31) (hbit : data.firstBit % 8 ≠ 0) :
    (∀ p < 8, ¬ data.Covers (8 * (data.firstBit / 8) + p) →
      (abi.setValue data buf (data.firstBit / 8)).toNat.testBit p =
        (buf (data.firstBit / 8)).toNat.testBit p) ↔
      2 ^ (data.firstBit % 8) ∣
          data.word abi % 2 ^ min data.size.toNat (8 - data.firstBit % 8) ∧
        (data.firstBit % 8 + data.size.toNat < 8 →
          (buf (data.firstBit / 8)).toNat % 2 ^ (data.firstBit % 8 + data.size.toNat) +
              data.word abi % 2 ^ data.size.toNat <
            2 ^ (data.firstBit % 8 + data.size.toNat)) := by
  have hlt := (buf (data.firstBit / 8)).toNat_lt
  rw [setValue_word abi hsize, storedByte_first (word_lt abi data) hsize hbit,
    ← add_low_iff (x := (buf (data.firstBit / 8)).toNat)]
  generalize (buf (data.firstBit / 8)).toNat = x at hlt ⊢
  have hcovers : ∀ p, data.Covers (8 * (data.firstBit / 8) + p) ↔
      data.firstBit % 8 ≤ p ∧ p < data.firstBit % 8 + data.size.toNat := by
    intro p
    unfold HIDData.Covers
    omega
  have hlow : ∀ p < data.firstBit % 8, ∀ y, ((x + y) % 2 ^ 8).testBit p = (x + y).testBit p := by
    intro p hp y
    rw [Nat.testBit_mod_two_pow, decide_eq_true (by omega : p < 8), Bool.true_and]
  have hhigh : ∀ {y}, data.firstBit % 8 + data.size.toNat < 8 → y < 2 ^ data.size.toNat →
      ((∀ p, data.firstBit % 8 + data.size.toNat ≤ p → p < 8 →
        ((x + y) % 2 ^ 8).testBit p = x.testBit p) ↔
      x % 2 ^ (data.firstBit % 8 + data.size.toNat) + y <
        2 ^ (data.firstBit % 8 + data.size.toNat)) := fun he hy =>
    add_high_iff hlt he (Nat.lt_of_lt_of_le hy
      (Nat.pow_le_pow_right (by decide) (Nat.le_add_left _ _)))
  constructor
  · intro h
    refine ⟨fun p hp => ?_, fun hend => ?_⟩
    · rw [← hlow p hp]
      exact h p (by omega) (by rw [hcovers]; omega)
    · refine (hhigh hend (Nat.mod_lt _ (Nat.two_pow_pos _))).mp fun p hp hp8 => ?_
      have hp' := h p hp8 (by rw [hcovers]; omega)
      rwa [Nat.min_eq_left (by omega)] at hp'
  · rintro ⟨hbelow, habove⟩ p hp hout
    rw [hcovers] at hout
    by_cases hpa : p < data.firstBit % 8
    · rw [hlow p hpa]
      exact hbelow p hpa
    · have hend : data.firstBit % 8 + data.size.toNat < 8 := by omega
      rw [Nat.min_eq_left (by omega)]
      exact (hhigh hend (Nat.mod_lt _ (Nat.two_pow_pos _))).mpr (habove hend) p (by omega) hp

/-- The bits of a byte that begins in the field are made of the value alone. -/
lemma laterBit (hsize : data.size.toNat ≤ 31) {q w p : ℕ} (hq : 8 * q = data.firstBit + w)
    (hw : w < data.size.toNat) (hp : p < 8) :
    reportBit (abi.setValue data buf) (8 * q + p) =
      (decide ((p + 8 - w % 8) % 8 < min (data.size.toNat - w) 8) &&
        (data.word abi).testBit (w + (p + 8 - w % 8) % 8)) := by
  rw [reportBit_place _ hp, setValue_word abi hsize,
    storedByte_later (word_lt abi data) hsize hq hw, packed_testBit _ _ (Nat.min_le_right _ _) hp]

/-- **A field is stored without a trace outside of it if and only if it stays inside.** -/
lemma frames_iff (hsize : data.size.toNat ≤ 31) :
    Frames abi data buf ↔ StaysInside abi data buf := by
  constructor
  · intro h
    refine ⟨fun hbit => (first_iff hsize hbit).mp fun p hp hout => ?_,
      fun q w t hq hwt ht0 ht8 p hp hp8 => ?_⟩
    · rw [← reportBit_place _ hp, ← reportBit_place _ hp]
      exact h _ hout
    · have hout : ¬ data.Covers (8 * q + p) := by
        unfold HIDData.Covers
        omega
      have hsame := h _ hout
      rw [laterBit hsize hq (by omega) hp8, reportBit_place _ hp8,
        show min (data.size.toNat - w) 8 = t by omega] at hsame
      exact hsame.symm
  · intro h bit hout
    have hplace : bit = 8 * (bit / 8) + bit % 8 := (Nat.div_add_mod bit 8).symm
    have hp8 : bit % 8 < 8 := Nat.mod_lt _ (by decide)
    by_cases hreached : ∃ w < data.size.toNat, bit / 8 = (data.firstBit + w) / 8
    · obtain ⟨w, hw, hq⟩ := hreached
      by_cases hfirst : bit / 8 = data.firstBit / 8 ∧ data.firstBit % 8 ≠ 0
      · rw [hplace, reportBit_place _ hp8, reportBit_place _ hp8, hfirst.1]
        refine (first_iff hsize hfirst.2).mpr (h.first hfirst.2) _ hp8 ?_
        rwa [← hfirst.1, ← hplace]
      · -- the byte begins in the field, and the bit is behind the field
        obtain ⟨w₀, hw₀, hle⟩ : ∃ w₀, 8 * (bit / 8) = data.firstBit + w₀ ∧ w₀ ≤ w :=
          ⟨8 * (bit / 8) - data.firstBit, by omega, by omega⟩
        have hbehind : data.firstBit + data.size.toNat ≤ bit := by
          unfold HIDData.Covers at hout
          omega
        rw [hplace, laterBit hsize hw₀ (by omega) hp8, reportBit_place _ hp8]
        exact (h.last _ w₀ (min (data.size.toNat - w₀) 8) hw₀ (by omega) (by omega) (by omega) _
          (by omega) hp8).symm
    · have hkept : abi.putBits (data.word abi) data.size.toNat data.firstBit 0 buf (bit / 8) =
          buf (bit / 8) :=
        storedByte_outside (word_lt abi data) hsize fun w hw he => hreached ⟨w, hw, he⟩
      rw [reportBit, setValue_word abi hsize, hkept]
      rfl

/-- The bits of the field are what they are made of the bits of the field before. -/
lemma StaysInside.written (h : StaysInside abi data buf) (hsize : data.size.toNat ≤ 31)
    (hsame : ∀ bit, data.Covers bit → reportBit buf bit = reportBit buf' bit) (bit : ℕ)
    (hin : data.Covers bit) :
    reportBit (abi.setValue data buf) bit = reportBit (abi.setValue data buf') bit := by
  have hword := word_lt abi data
  have hplace : bit = 8 * (bit / 8) + bit % 8 := (Nat.div_add_mod bit 8).symm
  have hp8 : bit % 8 < 8 := Nat.mod_lt _ (by decide)
  have hcovers : data.firstBit ≤ bit ∧ bit < data.firstBit + data.size.toNat := hin
  rw [hplace]
  by_cases hfirst : bit / 8 = data.firstBit / 8 ∧ data.firstBit % 8 ≠ 0
  · obtain ⟨hq, hbit⟩ := hfirst
    obtain ⟨hdvd, -⟩ := h.first hbit
    -- the byte above the place the field begins at
    have hbelow : (buf (data.firstBit / 8)).toNat / 2 ^ (data.firstBit % 8) %
        2 ^ min data.size.toNat (8 - data.firstBit % 8) =
        (buf' (data.firstBit / 8)).toNat / 2 ^ (data.firstBit % 8) %
        2 ^ min data.size.toNat (8 - data.firstBit % 8) := by
      rw [div_mod_two_pow_eq_iff]
      intro w hw
      rw [Nat.testBit_div_two_pow, Nat.add_comm w]
      have hb := hsame (8 * (data.firstBit / 8) + (data.firstBit % 8 + w))
        (by unfold HIDData.Covers; omega)
      rwa [reportBit_place _ (by omega), reportBit_place _ (by omega)] at hb
    rw [reportBit_place _ hp8, reportBit_place _ hp8, setValue_word abi hsize,
      setValue_word abi hsize, hq, storedByte_first hword hsize hbit,
      storedByte_first hword hsize hbit, add_testBit hdvd (by omega) hp8,
      add_testBit hdvd (by omega) hp8]
    have hlow : bit % 8 - data.firstBit % 8 < min data.size.toNat (8 - data.firstBit % 8) := by
      omega
    have hadd := congrArg (Nat.testBit · (bit % 8 - data.firstBit % 8))
      (Nat.ModEq.add_right (data.word abi % 2 ^ min data.size.toNat (8 - data.firstBit % 8) /
        2 ^ (data.firstBit % 8)) hbelow)
    simpa only [Nat.testBit_mod_two_pow, hlow, decide_true, Bool.true_and] using hadd
  · -- the byte begins in the field, and is made of the value alone
    obtain ⟨w, hw, hlt⟩ : ∃ w, 8 * (bit / 8) = data.firstBit + w ∧ w < data.size.toNat :=
      ⟨8 * (bit / 8) - data.firstBit, by omega, by omega⟩
    rw [laterBit hsize hw hlt hp8, laterBit hsize hw hlt hp8]

end Frame

/-! ## Two fields of a report -/

/-- The fields share no bit. -/
def Apart (data data' : HIDData) : Prop := ∀ bit, ¬ (data.Covers bit ∧ data'.Covers bit)

/-- Whichever of the two fields is stored first, no store changes a bit outside its field, and the
buffer is the same in the end. -/
structure StoredApart (abi : Abi) (data data' : HIDData) (buf : ℕ → UInt8) : Prop where
  first : Frames abi data buf
  second : Frames abi data' (abi.setValue data buf)
  first' : Frames abi data' buf
  second' : Frames abi data (abi.setValue data' buf)
  same : abi.setValue data' (abi.setValue data buf) = abi.setValue data (abi.setValue data' buf)

/-- **Storing a field leaves the rest of the report alone, and fields can be stored in any order, if
and only if each store stays inside its field.** -/
theorem storedApart_iff (abi : Abi) (data data' : HIDData) (buf : ℕ → UInt8)
    (hsize : data.size.toNat ≤ 31) (hsize' : data'.size.toNat ≤ 31) :
    (Frames abi data buf ↔ StaysInside abi data buf) ∧
      (Apart data data' → (StoredApart abi data data' buf ↔
        (StaysInside abi data buf ∧ StaysInside abi data' (abi.setValue data buf)) ∧
          StaysInside abi data' buf ∧ StaysInside abi data (abi.setValue data' buf))) := by
  refine ⟨frames_iff hsize, fun hapart => ⟨fun h => ?_, ?_⟩⟩
  · exact ⟨⟨(frames_iff hsize).mp h.first, (frames_iff hsize').mp h.second⟩,
      (frames_iff hsize').mp h.first', (frames_iff hsize).mp h.second'⟩
  · rintro ⟨⟨hfirst, hsecond⟩, hfirst', hsecond'⟩
    have hframe := (frames_iff hsize).mpr hfirst
    have hframe' := (frames_iff hsize').mpr hfirst'
    refine ⟨hframe, (frames_iff hsize').mpr hsecond, hframe', (frames_iff hsize).mpr hsecond', ?_⟩
    apply buffer_ext
    intro bit
    by_cases hin : data.Covers bit
    · rw [(frames_iff hsize').mpr hsecond bit fun hin' => hapart bit ⟨hin, hin'⟩]
      exact hfirst.written hsize
        (fun b hb => (hframe' b fun hb' => hapart b ⟨hb, hb'⟩).symm) bit hin
    · rw [(frames_iff hsize).mpr hsecond' bit hin]
      by_cases hin' : data'.Covers bit
      · exact (hfirst'.written hsize'
          (fun b hb' => (hframe b fun hb => hapart b ⟨hb, hb'⟩).symm) bit hin').symm
      · rw [(frames_iff hsize').mpr hsecond bit hin', hframe bit hin, hframe' bit hin']

/-- A field of eight bits. -/
def byteField (offset : UInt8) (value : ℤ) : HIDData :=
  { HIDData.zero with offset := offset, size := 8, value := value }

/-- A field that is made of whole bytes stays inside. -/
lemma byteField_staysInside (abi : Abi) {offset : UInt8} (h : offset.toNat % 8 = 0) (value : ℤ)
    (buf : ℕ → UInt8) : StaysInside abi (byteField offset value) buf := by
  have hsize : (byteField offset value).size.toNat = 8 := rfl
  have hfirst : (byteField offset value).firstBit = offset.toNat + 8 := rfl
  refine ⟨fun hbit => ?_, fun q w t hq hwt ht0 ht8 => ?_⟩ <;> omega

/-- `storedApart_iff` for two neighbouring bytes. -/
theorem storedApart_iff_bench :
    StoredApart (.little .w64 true) (byteField 0 5) (byteField 8 7) fun _ => 0xFF := by
  have hapart : Apart (byteField 0 5) (byteField 8 7) := by
    rintro bit ⟨⟨-, hlt⟩, ⟨hle, -⟩⟩
    exact absurd (Nat.lt_of_lt_of_le hlt hle) (Nat.lt_irrefl _)
  exact ((storedApart_iff (.little .w64 true) (byteField 0 5) (byteField 8 7) (fun _ => 0xFF)
    (by decide) (by decide)).2 hapart).mpr
    ⟨⟨byteField_staysInside _ rfl _ _, byteField_staysInside _ rfl _ _⟩,
      byteField_staysInside _ rfl _ _, byteField_staysInside _ rfl _ _⟩

/-- Not every store leaves the rest of the report alone, and the order matters: of two fields in
one byte, storing the lower one clears the upper one. -/
theorem storedApart_fails :
    (¬ ∀ (abi : Abi) (data : HIDData) (buf : ℕ → UInt8), 1 ≤ data.size.toNat →
      data.size.toNat ≤ 31 → Frames abi data buf) ∧
    ¬ ∀ (abi : Abi) (data data' : HIDData) (buf : ℕ → UInt8), 1 ≤ data.size.toNat →
      data.size.toNat ≤ 31 → 1 ≤ data'.size.toNat → data'.size.toNat ≤ 31 → Apart data data' →
      abi.setValue data' (abi.setValue data buf) = abi.setValue data (abi.setValue data' buf) := by
  constructor
  · intro hall
    have hframe := hall (.little .w64 true) (fourBits 0 5) (fun _ => 0xFF) (by decide) (by decide)
      15 (by unfold HIDData.Covers; decide)
    revert hframe
    decide
  · intro hall
    have hapart : Apart (fourBits 0 5) (fourBits 4 3) := by
      rintro bit ⟨⟨-, hlt⟩, ⟨hle, -⟩⟩
      exact absurd (Nat.lt_of_lt_of_le hlt hle) (Nat.lt_irrefl _)
    have hsame := congrFun (hall (.little .w64 true) (fourBits 0 5) (fourBits 4 3) (fun _ => 0)
      (by decide) (by decide) (by decide) (by decide) hapart) 1
    revert hsame
    decide

end Libhid
