import Libhid.Parser.Offsets
import Libhid.Device.Storing

/-!
# How far `GetValue` and `SetValue` shift

Both loops shift an `int` by the weight of a bit, and the weights go up to the size of the field,
which is any byte a descriptor says.  `shiftsFit_iff` says which objects are within the 31 bits that
an `int` has besides its sign.
-/

namespace Libhid

open Framework

/-! ## The shifts of the loops -/

/-- The distances by which the loop of `GetValue` shifts 1, with `k` bits left: the place of a bit
in its byte and, if the bit is set, its weight. -/
def getShifts (buf : ℕ → UInt8) : ℕ → ℕ → ℕ → List ℕ
  | 0, _, _ => []
  | k + 1, bit, weight =>
      bit % 8 :: (if reportBit buf bit then [weight] else []) ++
        getShifts buf k (bit + 1) (weight + 1)

/-- The distances by which the loop of `SetValue` shifts 1, with `k` bits left: the weight of a bit
and, if the bit is set, the place that is taken for it. -/
def setShifts (abi : Abi) (value : ℤ) : ℕ → ℕ → List ℕ
  | 0, _ => []
  | k + 1, weight =>
      weight :: (if (abi.toULong value).toNat.testBit (weight % 32) then [weight % 8] else []) ++
        setShifts abi value k (weight + 1)

/-- Decoding and encoding an object shifts 1 by at most 30 positions, and what is decoded from up to
32 bits is the number they stand for. -/
structure ShiftsFit (abi : Abi) (o : HIDData) : Prop where
  decoding : ∀ buf, ∀ d ∈ getShifts buf o.size.toNat o.firstBit 0, d ≤ 30
  encoding : ∀ value, ∀ d ∈ setShifts abi value o.size.toNat 0, d ≤ 30
  content : o.size.toNat ≤ 32 → ∀ buf,
    abi.getBits buf o.size.toNat o.firstBit 0 0 = rawValue buf o.firstBit o.size.toNat

section Shifts

variable {abi : Abi} {p : HIDParser} {o : HIDData} {n d : ℕ}

/-- The shifts of one turn, and those of the rest of the loop. -/
lemma mem_turn {b : Prop} [Decidable b] {d₀ d₁ : ℕ} {rest : List ℕ}
    (h : d ∈ d₀ :: (if b then [d₁] else []) ++ rest) : d = d₀ ∨ d = d₁ ∨ d ∈ rest := by
  rw [List.cons_append, List.mem_cons, List.mem_append] at h
  rcases h with h | h | h
  · exact .inl h
  · split_ifs at h with hb
    · exact .inr (.inl (List.mem_singleton.mp h))
    · exact absurd h List.not_mem_nil
  · exact .inr (.inr h)

/-- The shifts of `GetValue` are by a place or by a weight of the field. -/
lemma getShifts_lt {buf : ℕ → UInt8} {k bit weight : ℕ} (h : d ∈ getShifts buf k bit weight) :
    d < 8 ∨ d < weight + k := by
  induction k generalizing bit weight with
  | zero => exact absurd h List.not_mem_nil
  | succ k ih =>
      rcases mem_turn h with rfl | rfl | h
      · exact .inl (Nat.mod_lt _ (by decide))
      · omega
      · have hrest := ih h
        omega

lemma setShifts_lt {value : ℤ} {k weight : ℕ} (h : d ∈ setShifts abi value k weight) :
    d < 8 ∨ d < weight + k := by
  induction k generalizing weight with
  | zero => exact absurd h List.not_mem_nil
  | succ k ih =>
      rcases mem_turn h with rfl | rfl | h
      · omega
      · exact .inl (Nat.mod_lt _ (by decide))
      · have hrest := ih h
        omega

/-- `SetValue` shifts by every weight of the field, whatever the value is. -/
lemma mem_setShifts (abi : Abi) (value : ℤ) {k weight : ℕ} (hle : weight ≤ d)
    (hlt : d < weight + k) : d ∈ setShifts abi value k weight := by
  induction k generalizing weight with
  | zero => omega
  | succ k ih =>
      rw [setShifts, List.cons_append, List.mem_cons, List.mem_append]
      rcases Nat.eq_or_lt_of_le hle with rfl | hlt'
      · exact .inl rfl
      · exact .inr (.inr (ih hlt' (by omega)))

lemma shiftsFit_iff_size : ShiftsFit abi o ↔ o.size.toNat ≤ 31 := by
  constructor
  · intro h
    by_contra hlong
    have hmem : 31 ∈ setShifts abi 0 o.size.toNat 0 :=
      mem_setShifts abi 0 (Nat.zero_le _) (by omega)
    exact absurd (h.encoding 0 31 hmem) (by decide)
  · intro hsize
    refine ⟨fun buf d hd => ?_, fun value d hd => ?_, fun _ buf => getBits_eq abi hsize⟩
    · have hlt := getShifts_lt hd
      omega
    · have hlt := setShifts_lt hd
      omega

/-- **An object is decoded and encoded within the bits of an `int` if and only if the last Report
Size item leaves at most 31 in a byte.** -/
theorem shiftsFit_iff (h : (o, n) ∈ sizedObjects abi p) :
    ShiftsFit abi o ↔ ¬ abi.LoadsItems ∨ n % 256 ≤ 31 := by
  obtain ⟨pre, post, heq⟩ := List.append_of_mem h
  rw [shiftsFit_iff_size]
  by_cases hload : abi.LoadsItems
  · rw [(sizedObjects_loaded hload heq).1]
    simp [hload]
  · rw [(sizedObjects_shifted hload heq).2]
    simp [hload]

end Shifts

/-- `shiftsFit_iff` for the objects of 8 and 16 bits of two reports. -/
theorem shiftsFit_iff_bench : ∃ o n, (o, n) ∈ sizedObjects (.little .w64 true)
    (.holding interleaved) ∧ ShiftsFit (.little .w64 true) o := by
  obtain ⟨a, b, c, heq⟩ : ∃ a b c, sizedObjects (.little .w64 true) (.holding interleaved) =
      [a, b, c] := List.length_eq_three.mp (by decide +kernel)
  have hmem : (b.1, b.2) ∈ sizedObjects (.little .w64 true) (.holding interleaved) := by
    rw [heq]
    simp
  have hsizes : ((sizedObjects (.little .w64 true) (.holding interleaved)).all fun x =>
      decide (x.2 % 256 ≤ 31)) = true := by
    decide +kernel
  exact ⟨b.1, b.2, hmem, (shiftsFit_iff hmem).mpr
    (.inr (of_decide_eq_true (List.all_eq_true.mp hsizes _ hmem)))⟩

/-- A descriptor with one feature field of 32 bits. -/
def wideField : List UInt8 :=
  [0x05, 0x01, 0x09, 0x01, 0xA1, 0x01, 0x85, 0x01, 0x75, 0x20, 0x95, 0x01, 0x09, 0x02, 0xB1, 0x02,
    0xC0]

/-- Not every object is: a field of 32 bits takes a shift by 31. -/
theorem shiftsFit_fails : ¬ ∀ (abi : Abi) (p : HIDParser) (o : HIDData),
    o ∈ (enumerate abi (resetParser p)).1 → ShiftsFit abi o := by
  intro hall
  have hwide : ((enumerate (.little .w64 true) (resetParser (.holding wideField))).1.any fun o =>
      o.size == 32) = true := by
    decide +kernel
  obtain ⟨o, hmem, hsize⟩ := List.any_eq_true.mp hwide
  have hfit := shiftsFit_iff_size.mp (hall _ _ o hmem)
  rw [eq_of_beq hsize] at hfit
  exact absurd hfit (by decide)

end Libhid
