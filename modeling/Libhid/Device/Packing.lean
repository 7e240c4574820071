import Libhid.Framework.Stores
import Libhid.Parser.Offsets
import Libhid.Device.Storing

/-!
# Whole reports

A report is written field by field, with one call of `SetValue` for each of its objects, and read
the same way.  Where the fields of a report consist of whole bytes and the report fits the counters
of the parser, the order of the calls is no matter, every field holds the value it was given, and
nothing else in the buffer is changed (`report_written`).
-/

namespace Libhid

open Framework

/-! ## One field -/

/-- A field that consists of whole bytes. -/
structure WholeBytes (o : HIDData) : Prop where
  offset : o.offset.toNat % 8 = 0
  size : o.size.toNat = 8 ∨ o.size.toNat = 16 ∨ o.size.toNat = 24

/-- The calls of `SetValue` for some objects of a report. -/
def writeFields (abi : Abi) (value : HIDData → ℤ) (order : List HIDData) (buf : ℕ → UInt8) :
    ℕ → UInt8 :=
  order.foldl (fun buf o => abi.setValue { o with value := value o } buf) buf

section Field

variable {abi : Abi} {o : HIDData} {value : HIDData → ℤ}

/-- The lower bits of the word are those of the value, in two's complement. -/
lemma word_testBit (abi : Abi) (data : HIDData) {w : ℕ} (hw : w < 31) :
    (data.word abi).testBit w = data.value.testBit w := by
  have hbits : 31 < abi.longWidth.bits := by cases abi.longWidth <;> decide
  rw [HIDData.word, Nat.testBit_mod_two_pow, decide_eq_true hw, Bool.true_and, Abi.toULong]
  have hcast : (2 : ℤ) ^ abi.longWidth.bits = (2 ^ abi.longWidth.bits : ℕ) :=
    (Int.natCast_pow 2 _).symm
  rw [hcast]
  cases data.value with
  | ofNat n =>
      rw [Int.ofNat_eq_natCast, ← Int.natCast_emod, Int.toNat_natCast, Nat.testBit_mod_two_pow,
        decide_eq_true (by omega), Bool.true_and]
      rfl
  | negSucc n =>
      have hpos : 0 < 2 ^ abi.longWidth.bits := Nat.two_pow_pos _
      have hmod := Nat.mod_lt n hpos
      have hnat : (Int.negSucc n % (2 ^ abi.longWidth.bits : ℕ)).toNat =
          2 ^ abi.longWidth.bits - (n % 2 ^ abi.longWidth.bits + 1) := by
        rw [Int.negSucc_emod _ (by exact_mod_cast hpos)]
        omega
      rw [hnat, Nat.testBit_two_pow_sub_succ hmod, Nat.testBit_mod_two_pow,
        decide_eq_true (show w < abi.longWidth.bits by omega)]
      simp [Int.testBit]

/-- **A field of whole bytes is stored over what its bytes held, and nothing else.** -/
lemma WholeBytes.overwrites (h : WholeBytes o) (abi : Abi) (value : HIDData → ℤ) :
    Overwrites (fun o buf => abi.setValue { o with value := value o } buf) reportBit
      HIDData.Covers (fun o bit => (value o).testBit (bit - o.firstBit)) o := by
  have hsize := h.size
  have hoffset := h.offset
  have hfirst : o.firstBit = o.offset.toNat + 8 := rfl
  have hle : o.size.toNat ≤ 31 := by omega
  constructor
  · rintro buf bit ⟨hfrom, hto⟩
    have hplace : bit = 8 * (bit / 8) + bit % 8 := (Nat.div_add_mod bit 8).symm
    obtain ⟨w, hw⟩ : ∃ w, 8 * (bit / 8) = o.firstBit + w := ⟨8 * (bit / 8) - o.firstBit, by omega⟩
    have hlater := @laterBit abi { o with value := value o } buf hle _ _ _ hw
      (by show w < o.size.toNat; omega) (Nat.mod_lt bit (by decide : 0 < 8))
    have hbit : (bit % 8 + 8 - w % 8) % 8 = bit % 8 := by omega
    have hmin : min (o.size.toNat - w) 8 = 8 := by omega
    rw [← hplace, hbit] at hlater
    rw [hlater]
    show (decide (bit % 8 < min (o.size.toNat - w) 8) && _) = _
    rw [hmin, decide_eq_true (Nat.mod_lt _ (by decide)), Bool.true_and,
      word_testBit _ _ (by omega)]
    congr 1
    omega
  · intro buf bit hout
    refine (@frames_iff abi { o with value := value o } buf hle).mpr ⟨fun hbit => ?_,
      fun q w t hq hwt ht0 ht8 => ?_⟩ bit hout
    · have hbit' : o.firstBit % 8 ≠ 0 := hbit
      omega
    · have hq' : 8 * q = o.firstBit + w := hq
      have hwt' : w + t = o.size.toNat := hwt
      omega

end Field

/-! ## The fields of a report -/

/-- The objects of a report. -/
def fieldsOf (k : UInt8 × UInt8) (objects : List HIDData) : List HIDData :=
  objects.filter fun o => o.report = k

/-- The items of the descriptor give every field of the report whole bytes. -/
def InBytes (k : UInt8 × UInt8) (objects : List (HIDData × ℕ)) : Prop :=
  ∀ x ∈ objects, x.1.report = k → x.2 = 8 ∨ x.2 = 16 ∨ x.2 = 24

instance (k : UInt8 × UInt8) (objects : List (HIDData × ℕ)) : Decidable (InBytes k objects) :=
  inferInstanceAs (Decidable (∀ x ∈ objects, _))

section Fields

variable {k : UInt8 × UInt8} {objects pre post : List (HIDData × ℕ)} {abi : Abi} {p : HIDParser}

lemma bitsOf_dvd (h : InBytes k objects) : 8 ∣ bitsOf k objects := by
  induction objects with
  | nil => exact Nat.dvd_zero 8
  | cons x objects ih =>
      obtain ⟨hx, hrest⟩ := List.forall_mem_cons.mp h
      rw [bitsOf]
      split_ifs with hk
      · have := hx hk
        have := ih hrest
        omega
      · rw [Nat.zero_add]
        exact ih hrest

/-- Objects that follow one another in their report end before the next one begins. -/
lemma pairwise_of_offsets {base : ℕ}
    (h : ∀ pre x post, objects = pre ++ x :: post → x.1.report = k →
      x.1.offset.toNat = base + bitsOf k pre) :
    (∀ x ∈ objects.filter fun x => x.1.report = k, base ≤ x.1.offset.toNat) ∧
    (objects.filter fun x => x.1.report = k).Pairwise fun x y =>
      x.1.offset.toNat + x.2 ≤ y.1.offset.toNat := by
  induction objects generalizing base with
  | nil => exact ⟨by simp, .nil⟩
  | cons x objects ih =>
      obtain ⟨hbase, hpairs⟩ := @ih (base + if x.1.report = k then x.2 else 0)
        fun pre y post heq hy => by
          rw [h (x :: pre) y post (by rw [heq]; rfl) hy, bitsOf, Nat.add_assoc]
      by_cases hx : x.1.report = k
      · have hoffset := h [] x objects rfl hx
        rw [bitsOf, Nat.add_zero] at hoffset
        rw [if_pos hx] at hbase
        rw [List.filter_cons_of_pos (by simpa using hx)]
        refine ⟨List.forall_mem_cons.mpr ⟨hoffset.ge, fun y hy => ?_⟩,
          List.pairwise_cons.mpr ⟨fun y hy => ?_, hpairs⟩⟩
        · exact Nat.le_trans (Nat.le_add_right _ _) (hbase y hy)
        · rw [hoffset]
          exact hbase y hy
      · rw [if_neg hx, Nat.add_zero] at hbase
        rw [List.filter_cons_of_neg (by simpa using hx)]
        exact ⟨hbase, hpairs⟩

/-- The objects of a numbered report that fits the counter have the sizes of the items and follow
one another. -/
lemma sizedObjects_report (hk : k.1 ≠ 0) (hfit : bitsOf k (sizedObjects abi p) ≤ 255)
    (hbytes : InBytes k (sizedObjects abi p)) {o : HIDData} {size : ℕ}
    (h : sizedObjects abi p = pre ++ (o, size) :: post) (ho : o.report = k) :
    o.size.toNat = size ∧ o.offset.toNat = bitsOf k pre := by
  have hid : o.reportID ≠ 0 := by
    rw [show o.reportID = k.1 from congrArg Prod.fst ho]
    exact hk
  have hload : abi.LoadsItems := by
    by_contra hload
    exact hid (sizedObjects_shifted hload h).1
  obtain ⟨hsize, hoffset⟩ := sizedObjects_loaded hload h
  have hoffset := hoffset hid
  have hmem : (o, size) ∈ sizedObjects abi p := by
    rw [h]
    simp
  have hwhole := hbytes _ hmem ho
  rw [h, bitsOf_append] at hfit
  rw [ho] at hoffset
  dsimp only at hwhole
  omega

/-- The fields of the report, in the order of the descriptor. -/
lemma fieldsOf_wholeBytes (hk : k.1 ≠ 0) (hfit : bitsOf k (sizedObjects abi p) ≤ 255)
    (hbytes : InBytes k (sizedObjects abi p)) :
    (∀ o ∈ fieldsOf k (enumerate abi (resetParser p)).1, WholeBytes o) ∧
    (fieldsOf k (enumerate abi (resetParser p)).1).Pairwise Apart := by
  have hfields : fieldsOf k (enumerate abi (resetParser p)).1 =
      ((sizedObjects abi p).filter fun x => x.1.report = k).map Prod.fst := by
    rw [fieldsOf, ← sizedObjects_map, List.filter_map]
    rfl
  have hsizes : ∀ x ∈ (sizedObjects abi p).filter fun x => x.1.report = k,
      x.1.size.toNat = x.2 ∧ WholeBytes x.1 := by
    intro x hx
    obtain ⟨hmem, hreport⟩ := List.mem_filter.mp hx
    have hreport : x.1.report = k := by simpa using hreport
    obtain ⟨pre, post, heq⟩ := List.append_of_mem hmem
    obtain ⟨hsize, hoffset⟩ := sizedObjects_report hk hfit hbytes heq hreport
    have hdvd : 8 ∣ bitsOf k pre := bitsOf_dvd fun y hy =>
      hbytes y (by rw [heq]; exact List.mem_append_left _ hy)
    exact ⟨hsize, by omega, hsize ▸ hbytes x hmem hreport⟩
  obtain ⟨-, hpairs⟩ := @pairwise_of_offsets k (sizedObjects abi p) 0
    fun pre x post heq hx => by
      rw [(sizedObjects_report hk hfit hbytes heq hx).2, Nat.zero_add]
  rw [hfields]
  refine ⟨List.forall_mem_map.mpr fun x hx => (hsizes x hx).2, List.pairwise_map.mpr ?_⟩
  refine hpairs.imp_of_mem fun {x y} hx hy hle bit hbit => ?_
  have hx' : x.1.firstBit ≤ bit ∧ bit < x.1.firstBit + x.1.size.toNat := hbit.1
  have hy' : y.1.firstBit ≤ bit := hbit.2.1
  have hfirst : x.1.firstBit = x.1.offset.toNat + 8 := rfl
  have hfirst' : y.1.firstBit = y.1.offset.toNat + 8 := rfl
  rw [(hsizes x hx).1] at hx'
  omega

end Fields

/-! ## The report -/

/-- The fields hold their values, and the rest of the buffer is as before. -/
structure HoldsReport (abi : Abi) (value : HIDData → ℤ) (fields : List HIDData)
    (buf out : ℕ → UInt8) : Prop where
  stores : ∀ o ∈ fields, Stores out o (value o)
  read : ∀ o ∈ fields, 0 ≤ value o → value o ≤ o.logMax → value o < 2 ^ o.size.toNat →
    abi.getValue out o = value o
  frame : ∀ bit, (∀ o ∈ fields, ¬ o.Covers bit) → reportBit out bit = reportBit buf bit

/-- **A report is written field by field, in any order.**  Where a descriptor gives a numbered
report at most 255 bits, and each of its fields one, two or three bytes, the calls of `SetValue` for
its objects leave the same buffer in whatever order they are made: every field holds its value in
two's complement, `GetValue` yields it if it is in the range of the field, and no bit outside of the
fields is changed. -/
theorem report_written {abi : Abi} {p : HIDParser} {k : UInt8 × UInt8} (hk : k.1 ≠ 0)
    (hfit : bitsOf k (sizedObjects abi p) ≤ 255) (hbytes : InBytes k (sizedObjects abi p))
    (value : HIDData → ℤ) (buf : ℕ → UInt8) {order : List HIDData}
    (hperm : order.Perm (fieldsOf k (enumerate abi (resetParser p)).1)) :
    HoldsReport abi value (fieldsOf k (enumerate abi (resetParser p)).1) buf
        (writeFields abi value order buf) ∧
      writeFields abi value order buf =
        writeFields abi value (fieldsOf k (enumerate abi (resetParser p)).1) buf := by
  obtain ⟨hwhole, hapart⟩ := fieldsOf_wholeBytes hk hfit hbytes
  have hput : ∀ o ∈ order, Overwrites (fun o buf => abi.setValue { o with value := value o } buf)
      reportBit HIDData.Covers (fun o bit => (value o).testBit (bit - o.firstBit)) o :=
    fun o ho => (hwhole o (hperm.mem_iff.mp ho)).overwrites abi value
  have hapart' : order.Pairwise Apart :=
    hperm.symm.pairwise hapart fun hxy bit hbit => hxy bit ⟨hbit.2, hbit.1⟩
  have hstores : ∀ o ∈ fieldsOf k (enumerate abi (resetParser p)).1,
      Stores (writeFields abi value order buf) o (value o) := by
    intro o ho w hw
    have hcovers : o.Covers (o.firstBit + w) :=
      ⟨Nat.le_add_right _ _, Nat.add_lt_add_left hw _⟩
    have hin := Overwrites.foldl_inside hput hapart' (s := buf) (hperm.mem_iff.mpr ho) hcovers
    rwa [Nat.add_sub_cancel_left] at hin
  refine ⟨⟨hstores, fun o ho h0 hmax hlt => ?_, fun bit hout => ?_⟩, ?_⟩
  · obtain ⟨n, hn⟩ := Int.eq_ofNat_of_zero_le h0
    have hst := hstores o ho
    rw [hn] at hst hmax hlt ⊢
    have hsize := (hwhole o ho).size
    exact hst.getValue (by omega) (by exact_mod_cast hlt) hmax
  · exact Overwrites.foldl_outside hput fun o ho => hout o (hperm.mem_iff.mp ho)
  · exact Overwrites.foldl_perm (fun _ _ => buffer_ext) hput hapart' hperm

/-- `report_written` for the first report of `interleaved`, written from its last field on. -/
theorem report_written_bench :
    HoldsReport (.little .w64 true) (fun o => o.offset.toNat + 1)
      (fieldsOf (1, 0xB0) (enumerate (.little .w64 true) (resetParser (.holding interleaved))).1)
      (fun _ => 0xFF)
      (writeFields (.little .w64 true) (fun o => o.offset.toNat + 1)
        (fieldsOf (1, 0xB0)
          (enumerate (.little .w64 true) (resetParser (.holding interleaved))).1).reverse
        fun _ => 0xFF) := by
  have hfit : bitsOf (1, 0xB0) (sizedObjects (.little .w64 true) (.holding interleaved)) ≤ 255 := by
    decide +kernel
  have hbytes : InBytes (1, 0xB0) (sizedObjects (.little .w64 true) (.holding interleaved)) := by
    decide +kernel
  exact (report_written (by decide) hfit hbytes _ _ (List.reverse_perm _)).1

end Libhid
