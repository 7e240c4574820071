import Libhid.Parser.Fetching

/-!
# Parsers that hold a descriptor

`HIDParser.Holds` says which bytes a parser was given.  No turn writes to them, and an item fetch
takes the next of them (`fetchItem_holds`).
-/

namespace Libhid

open Framework

/-- The parser holds the descriptor. -/
structure HIDParser.Holds (p : HIDParser) (bytes : List UInt8) : Prop where
  size : p.reportDescSize.toNat = bytes.length
  desc : p.reportDesc.toList.take bytes.length = bytes

/-- What is left of a descriptor from the position on. -/
def HIDParser.remaining (p : HIDParser) (bytes : List UInt8) : List UInt8 :=
  bytes.drop p.pos.toNat

section Holding

variable {abi : Abi} {bytes : List UInt8} {p q : HIDParser}

lemma HIDParser.Holds.length_le (h : p.Holds bytes) : bytes.length ≤ reportDscSize := by
  have hlen := congrArg List.length h.desc
  rw [List.length_take, Vector.length_toList] at hlen
  omega

lemma HIDParser.Holds.getElem (h : p.Holds bytes) {i : ℕ} (hi : i < bytes.length)
    (hi' : i < reportDscSize) : p.reportDesc[i] = bytes[i] := by
  have hget : (p.reportDesc.toList.take bytes.length)[i]? = some p.reportDesc[i] := by
    rw [List.getElem?_take_of_lt hi]
    simp
  rw [h.desc, List.getElem?_eq_getElem hi] at hget
  exact (Option.some.inj hget).symm

lemma HIDParser.Holds.bytesAt (h : p.Holds bytes) {pos n : ℕ} (hle : pos + n ≤ bytes.length) :
    p.bytesAt pos n = (bytes.drop pos).take n := by
  have hdrop := List.drop_take (i := pos) (j := bytes.length) (l := p.reportDesc.toList)
  rw [h.desc] at hdrop
  rw [HIDParser.bytesAt, hdrop, List.take_take, Nat.min_eq_left (by omega)]

lemma holding_holds (h : bytes.length ≤ reportDscSize) :
    (HIDParser.holding bytes).Holds bytes := by
  have hdsc : reportDscSize = 6144 := rfl
  have hlen : (UInt16.ofNat bytes.length).toNat = bytes.length :=
    UInt16.toNat_ofNat_of_lt (by simp [UInt16.size]; omega)
  refine ⟨hlen, ?_⟩
  show (bytes.take reportDscSize ++ List.replicate _ 0).take bytes.length = bytes
  rw [List.take_of_length_le h, List.take_left]

/-! ## The item fetch -/

/-- The parser after an item with the prefix byte `b` was fetched. -/
def HIDParser.fetched (p : HIDParser) (abi : Abi) (b : UInt8) : HIDParser :=
  { p with
    item := b
    value := abi.load (p.bytesAt (p.pos.toNat + 1) (itemSize b))
    pos := p.pos + 1 + UInt16.ofNat (itemSize b) }

lemma fetched_pos {b : UInt8} (h : p.pos.toNat + 1 + itemSize b ≤ reportDscSize) :
    (p.fetched abi b).pos.toNat = p.pos.toNat + 1 + itemSize b := behindItem_toNat h

/-- The item fetch of a parser that holds a descriptor. -/
lemma fetchItem_holds (h : p.Holds bytes) {b : UInt8} {rest : List UInt8}
    (hrem : p.remaining bytes = b :: rest) : fetchItem abi p =
      if p.pos.toNat + 1 + itemSize b ≤ reportDscSize then .ok (p.fetched abi b)
      else .error .reportDesc := by
  have hlt : p.pos.toNat < bytes.length := by
    by_contra hge
    rw [HIDParser.remaining, List.drop_eq_nil_of_le (Nat.not_lt.mp hge)] at hrem
    cases hrem
  have hlt' := Nat.lt_of_lt_of_le hlt h.length_le
  have hb : p.reportDesc[p.pos.toNat] = b := by
    rw [HIDParser.remaining, List.drop_eq_getElem_cons hlt] at hrem
    rw [h.getElem hlt hlt']
    exact (List.cons.inj hrem).1
  rw [fetchItem, dif_pos hlt']
  dsimp only
  rw [hb]
  rfl

/-- The item fetch of a complete item takes its bytes. -/
lemma fetched_complete (abi : Abi) (h : p.Holds bytes) {b : UInt8} {data rest : List UInt8}
    (hrem : p.remaining bytes = b :: (data ++ rest)) (hlen : data.length = itemSize b) :
    p.pos.toNat + 1 + itemSize b ≤ bytes.length ∧
      p.bytesAt (p.pos.toNat + 1) (itemSize b) = data ∧
      (p.fetched abi b).remaining bytes = rest := by
  have hdrop : bytes.drop p.pos.toNat = b :: (data ++ rest) := hrem
  have hrest : bytes.drop (p.pos.toNat + 1) = data ++ rest := by
    rw [← List.drop_drop, hdrop, List.drop_one, List.tail_cons]
  have hfit : p.pos.toNat + 1 + itemSize b ≤ bytes.length := by
    have hlens := congrArg List.length hdrop
    rw [List.length_drop, List.length_cons, List.length_append] at hlens
    omega
  refine ⟨hfit, ?_, ?_⟩
  · rw [h.bytesAt hfit, hrest, ← hlen, List.take_left]
  · rw [HIDParser.remaining, fetched_pos (Nat.le_trans hfit h.length_le), ← List.drop_drop, hrest,
      ← hlen, List.drop_left]

lemma live_of_remaining (h : p.Holds bytes) (hne : p.remaining bytes ≠ []) : p.live = true := by
  have hlt : p.pos.toNat < bytes.length := by
    by_contra hge
    exact hne (List.drop_eq_nil_of_le (Nat.not_lt.mp hge))
  rw [HIDParser.live, decide_eq_true_iff, UInt16.lt_iff_toNat_lt, h.size]
  exact hlt

/-- Past the end of the descriptor the loop is over. -/
lemma HIDParser.Holds.ended (h : p.Holds bytes) (hge : bytes.length ≤ p.pos.toNat) :
    p.live = false := by
  rw [HIDParser.live, decide_eq_false_iff_not, UInt16.lt_iff_toNat_lt, h.size]
  exact Nat.not_lt.mpr hge

lemma not_live_of_remaining (h : p.Holds bytes) (hnil : p.remaining bytes = []) :
    p.live = false := h.ended (List.drop_eq_nil_iff.mp hnil)

/-! ## Nothing is written -/

lemma DispatchFrame.holds (hf : DispatchFrame p q) (hp : p.Holds bytes) : q.Holds bytes := by
  refine ⟨?_, ?_⟩
  · rw [hf.reportDescSize]
    exact hp.size
  · rw [hf.reportDesc]
    exact hp.desc

lemma parseTurn_holds {o : Option HIDData} (hp : p.Holds bytes)
    (h : parseTurn abi p = .ok (q, o)) : q.Holds bytes := by
  obtain ⟨hdesc, hsize⟩ := parseTurn_desc h
  refine ⟨?_, ?_⟩
  · rw [hsize]
    exact hp.size
  · rw [hdesc]
    exact hp.desc

lemma parser_bounded_holds (abi : Abi) (bytes : List UInt8) :
    (parser abi).Bounded fun p => p.Ready ∧ p.Holds bytes := by
  refine ⟨fun hp hl h => ?_⟩
  obtain ⟨hready, hlt⟩ := parseTurn_bounded hp.1 hl h
  exact ⟨⟨hready, parseTurn_holds hp.2 h⟩, hlt⟩

/-- A search leaves a parser that holds the same descriptor. -/
lemma findObject_holds {query : HIDData} {o : Option HIDData} (hp : p.Holds bytes)
    (h : findObject abi p query = .ok (q, o)) : q.Holds bytes :=
  ((parser_bounded_holds abi bytes).find_inv ⟨resetParser_ready p, hp.size, hp.desc⟩ h).2

end Holding

end Libhid
