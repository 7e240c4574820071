import Libhid.Parser.Reading

/-!
# Machines of both byte orders

`HIDParse` has two ways of getting the data bytes of an item into `Value`: a `memcpy`, and under
`WORDS_BIGENDIAN` a loop whose shifts are those of a `long` of 32 bits.  `sameValue_iff` says for
which items a machine of either byte order gets the same `Value`, and what becomes of the objects
of a descriptor.
-/

namespace Libhid

open Framework

/-- A big-endian platform. -/
abbrev Abi.big (w : LongWidth) (charSigned : Bool) : Abi := ⟨w, charSigned, true⟩

section ByteOrder

variable (w : LongWidth) (charSigned : Bool)

/-- Both machines get the same `Value` from the data bytes. -/
def SameValue (data : List UInt8) : Prop :=
  (Abi.big w charSigned).load data = (Abi.little w charSigned).load data

/-- The shifts leave the data where a `long` has them. -/
def InPlace (data : List UInt8) : Prop := w = .w32 ∨ ∀ b ∈ data, b = 0

/-- Both machines deliver the same objects of the descriptor. -/
def SameObjects (p : HIDParser) : Prop :=
  (enumerate (.big w charSigned) (resetParser p)).1 =
    (enumerate (.little w charSigned) (resetParser p)).1

end ByteOrder

/-! ## Values -/

section Values

variable {w : LongWidth} {charSigned : Bool} {data : List UInt8}

/-- Above 32 bits of a `long` nothing is left of the value but 0. -/
lemma sameValue_w64 (hlen : data.length ≤ 4) :
    SameValue .w64 charSigned data ↔ ∀ b ∈ data, b = 0 := by
  have hlt : leNat data < 2 ^ 32 :=
    Nat.lt_of_lt_of_le (leNat_lt data) (Nat.pow_le_pow_right (by decide) hlen)
  have hlittle : (Abi.little .w64 charSigned).load data = leNat data := by
    rw [Abi.load_eq (.inl rfl) hlen]
    exact Abi.toLong_natCast (Nat.lt_trans hlt (show 2 ^ 32 < 2 ^ 63 by decide))
  have hbig : (2 ^ 32 : ℤ) ∣ (Abi.big .w64 charSigned).load data :=
    load_shifted (by simp [Abi.LoadsItems]) hlen
  rw [SameValue, ← leNat_eq_zero, hlittle]
  constructor
  · intro hsame
    rw [hsame] at hbig
    omega
  · intro hzero
    rw [Abi.load, if_pos rfl, Abi.loadBig_eq (by omega), hzero, Nat.mul_zero]
    exact Abi.toLong_natCast (show 0 < 2 ^ 63 by decide)

lemma sameValue_iff_inPlace (hlen : data.length ≤ 4) :
    SameValue w charSigned data ↔ InPlace w data := by
  cases w with
  | w32 =>
      refine iff_of_true ?_ (.inl rfl)
      rw [SameValue, Abi.load_eq (.inr rfl) hlen, Abi.load_eq (.inl rfl) hlen]
      rfl
  | w64 =>
      rw [sameValue_w64 hlen, InPlace, or_iff_right (by decide)]

end Values

/-! ## Objects -/

section Objects

variable {w : LongWidth} {charSigned : Bool} {p s : HIDParser}

/-- A turn is the same on both machines, if the `Value` of the item it fetches is. -/
lemma parseTurn_big (h : ∀ i, s.nextRaw = some i → SameValue w charSigned i.data) :
    parseTurn (.big w charSigned) s = parseTurn (.little w charSigned) s := by
  have hnext : nextItem (.big w charSigned) s = nextItem (.little w charSigned) s := by
    by_cases hc : s.count = 0
    · cases hi : s.nextRaw with
      | none => rw [nextItem_stop hc hi, nextItem_stop hc hi]
      | some i =>
          have hvalue : i.value (.big w charSigned) = i.value (.little w charSigned) := h i hi
          rw [nextItem_taking hi, nextItem_taking hi, HIDParser.taking, HIDParser.taking, hvalue]
    · rw [nextItem, nextItem, if_neg hc, if_neg hc]
  unfold parseTurn
  rw [hnext]
  -- the cases of the switch do not look at the byte order
  rfl

/-- Where every item gets the same `Value`, the runs are the same. -/
lemma enumerate_big (h : ∀ s i, Visits (.little w charSigned) p s → s.live = true →
      s.nextRaw = some i → SameValue w charSigned i.data) :
    enumerate (.big w charSigned) (resetParser p) =
      enumerate (.little w charSigned) (resetParser p) := by
  have hready := resetParser_ready p
  refine ((parser_bounded (.little w charSigned)).all_congr (parser_bounded (.big w charSigned))
    hready hready (fun _ => rfl) fun s hs hl => ?_).symm
  exact (parseTurn_big fun i hi => h s i hs hl hi).symm

/-- The attribute of a Feature item is lost above 32 bits. -/
lemma not_sameObjects : ¬ SameObjects .w64 charSigned (.holding [0xB1, 0x02]) := by
  intro hsame
  have hattrib := congrArg (List.map HIDData.attrib) hsame
  revert hattrib
  cases charSigned <;> decide +kernel

end Objects

/-- **A big-endian machine gets the same `Value` from an item as a little-endian one if and only if
a `long` has 32 bits or the data bytes are all 0.** A descriptor all of whose items are so is read
alike, and the objects of every descriptor are the same exactly where a `long` has 32 bits. -/
theorem sameValue_iff (w : LongWidth) (charSigned : Bool) :
    (∀ (item : UInt8) (data : List UInt8), data.length = itemSize item →
      (SameValue w charSigned data ↔ InPlace w data)) ∧
    (∀ p, (∀ s i, Visits (.little w charSigned) p s → s.live = true → s.nextRaw = some i →
      InPlace w i.data) → enumerate (.big w charSigned) (resetParser p) =
        enumerate (.little w charSigned) (resetParser p)) ∧
    ((∀ p, SameObjects w charSigned p) ↔ w = .w32) := by
  have hrun : ∀ p, (∀ s i, Visits (.little w charSigned) p s → s.live = true →
      s.nextRaw = some i → InPlace w i.data) → enumerate (.big w charSigned) (resetParser p) =
        enumerate (.little w charSigned) (resetParser p) := by
    intro p h
    exact enumerate_big fun s i hs hl hi =>
      (sameValue_iff_inPlace (data_length_le hi)).mpr (h s i hs hl hi)
  refine ⟨fun item data hlen => ?_, hrun, fun hall => ?_, fun hw p => ?_⟩
  · apply sameValue_iff_inPlace
    rw [hlen]
    exact itemSize_le item
  · cases w with
    | w32 => rfl
    | w64 => exact absurd (hall _) not_sameObjects
  · exact congrArg Prod.fst (hrun p fun _ _ _ _ _ => .inl hw)

/-- `sameValue_iff` for a Usage Page item of one byte. -/
theorem sameValue_iff_bench : SameValue .w32 true [0x84] :=
  ((sameValue_iff .w32 true).1 0x05 [0x84] (by decide)).mpr (.inl rfl)

/-- Not every item gets the same `Value`: with a `long` of 64 bits its bytes stay above 32 bits. -/
theorem sameValue_fails : ¬ ∀ (w : LongWidth) (charSigned : Bool) (item : UInt8)
    (data : List UInt8), data.length = itemSize item → SameValue w charSigned data := by
  intro hall
  have hsame := hall .w64 true 0x05 [0x84] (by decide)
  rw [sameValue_w64 (by decide)] at hsame
  exact absurd (hsame 0x84 (by simp)) (by decide)

end Libhid
