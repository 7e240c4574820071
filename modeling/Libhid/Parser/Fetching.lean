import Libhid.Parser.Turns

/-!
# Items as they are fetched

A turn goes on with the pending data item, or fetches the next item (`Finds`): its first byte and as
many bytes of the buffer as that byte says, whether or not they are part of the descriptor
(`RawItem`).
-/

namespace Libhid

open Framework

/-- An item as the parser fetches it: its first byte and its data bytes, those from behind the
descriptor included. -/
structure RawItem where
  head : UInt8
  data : List UInt8
  deriving DecidableEq, Repr

namespace RawItem

/-- The case of the switch. -/
def tag (i : RawItem) : Tag := Tag.ofItem i.head

/-- `Value` after the fetch. -/
def value (abi : Abi) (i : RawItem) : ℤ := abi.load i.data

end RawItem

/-- The item the next turn fetches, if it fetches one. -/
def HIDParser.nextRaw (p : HIDParser) : Option RawItem :=
  if h : p.pos.toNat < reportDscSize then
    let item := p.reportDesc[p.pos.toNat]
    if p.count = 0 ∧ p.pos.toNat + 1 + itemSize item ≤ reportDscSize then
      some ⟨item, p.bytesAt (p.pos.toNat + 1) (itemSize item)⟩
    else none
  else none

/-- The parser after the fetch of an item. -/
def HIDParser.taking (p : HIDParser) (abi : Abi) (i : RawItem) : HIDParser :=
  { p with
    item := i.head
    value := i.value abi
    pos := p.pos + 1 + UInt16.ofNat (itemSize i.head) }

/-- What a turn finds after its item fetch. -/
inductive Finds (abi : Abi) (p : HIDParser) : HIDParser → Prop
  | pending (hc : p.count ≠ 0) : Finds abi p p
  | item {i : RawItem} (hc : p.count = 0) (hi : p.nextRaw = some i) : Finds abi p (p.taking abi i)

section Fetch

variable {abi : Abi} {p r : HIDParser} {i : RawItem}

lemma nextRaw_pending (hc : p.count ≠ 0) : p.nextRaw = none := by
  unfold HIDParser.nextRaw
  split_ifs with h
  · exact if_neg fun hroom => hc hroom.1
  · rfl

lemma nextRaw_eq_some (h : p.nextRaw = some i) : p.count = 0 ∧
    ∃ _ : p.pos.toNat < reportDscSize, i.head = p.reportDesc[p.pos.toNat] ∧
      p.pos.toNat + 1 + itemSize i.head ≤ reportDscSize ∧
      i.data = p.bytesAt (p.pos.toNat + 1) (itemSize i.head) := by
  unfold HIDParser.nextRaw at h
  split_ifs at h with hpos
  dsimp only at h
  split_ifs at h with hroom
  cases h
  exact ⟨hroom.1, hpos, rfl, hroom.2, rfl⟩

/-- The item fetch, where it succeeds. -/
lemma fetchItem_eq_ok (hc : p.count = 0) (h : fetchItem abi p = .ok r) :
    ∃ i, p.nextRaw = some i ∧ r = p.taking abi i := by
  obtain ⟨hpos, item, rfl, hroom, rfl⟩ := fetchItem_ok h
  refine ⟨⟨p.reportDesc[p.pos.toNat], p.bytesAt (p.pos.toNat + 1) (itemSize _)⟩, ?_, rfl⟩
  rw [HIDParser.nextRaw, dif_pos hpos]
  exact if_pos ⟨hc, hroom⟩

lemma nextItem_cases (h : nextItem abi p = .ok r) : Finds abi p r := by
  unfold nextItem at h
  split_ifs at h with hc
  · obtain ⟨i, hi, rfl⟩ := fetchItem_eq_ok hc h
    exact .item hc hi
  · cases h
    exact .pending hc

lemma data_length_le (h : p.nextRaw = some i) : i.data.length ≤ 4 := by
  obtain ⟨-, -, -, -, hdata⟩ := nextRaw_eq_some h
  have hsize := itemSize_le i.head
  rw [hdata, HIDParser.bytesAt, List.length_take]
  omega

lemma nextItem_taking (h : p.nextRaw = some i) : nextItem abi p = .ok (p.taking abi i) := by
  obtain ⟨hc, hpos, hhead, hroom, hdata⟩ := nextRaw_eq_some h
  rw [nextItem, if_pos hc, fetchItem, dif_pos hpos]
  dsimp only
  rw [← hhead, if_pos hroom, ← hdata]
  rfl

/-- Without a complete item in the buffer the fetch fails. -/
lemma nextItem_stop (hc : p.count = 0) (h : p.nextRaw = none) :
    nextItem abi p = .error .reportDesc := by
  unfold HIDParser.nextRaw at h
  rw [nextItem, if_pos hc, fetchItem]
  split_ifs at h ⊢ with hpos
  · dsimp only at h ⊢
    split_ifs at h with hroom
    exact if_neg fun hle => hroom ⟨hc, hle⟩
  · rfl

/-- A turn that fetches an item. -/
lemma parseTurn_taking (abi : Abi) (h : p.nextRaw = some i) :
    parseTurn abi p = dispatch abi (p.taking abi i) := by
  rw [parseTurn, nextItem_taking h, except_ok_bind]

/-- A turn that goes on with the pending item. -/
lemma parseTurn_pending (abi : Abi) (hc : p.count ≠ 0) : parseTurn abi p = dispatch abi p := by
  rw [parseTurn, nextItem, if_neg hc, except_ok_bind]

lemma parseTurn_finds {q : HIDParser} {o : Option HIDData} (h : parseTurn abi p = .ok (q, o)) :
    ∃ r, Finds abi p r ∧ dispatch abi r = .ok (q, o) := by
  simp only [parseTurn, except_bind_ok] at h
  obtain ⟨r, hr, hd⟩ := h
  exact ⟨r, nextItem_cases hr, hd⟩

/-- A turn from a pending data item delivers an object of it. -/
lemma pending_turn {q : HIDParser} {o : Option HIDData} (hready : p.Ready) (hc : p.count ≠ 0)
    (hd : dispatch abi p = .ok (q, o)) :
    ∃ object, o = some object ∧ Nonempty (ObjectTurn p q object) := by
  rw [dispatch_data (hready.resolve_left hc), except_map_ok] at hd
  obtain ⟨⟨q', object⟩, hobject, hsame⟩ := hd
  cases hsame
  exact ⟨object, rfl, dataItem_ok hobject⟩

/-- A turn does not write to the descriptor. -/
lemma parseTurn_desc {q : HIDParser} {o : Option HIDData} (h : parseTurn abi p = .ok (q, o)) :
    q.reportDesc = p.reportDesc ∧ q.reportDescSize = p.reportDescSize := by
  obtain ⟨r, hr, hd⟩ := parseTurn_finds h
  have hf := dispatch_frame hd
  cases hr with
  | pending hc => exact ⟨hf.reportDesc, hf.reportDescSize⟩
  | item hc hi => exact ⟨hf.reportDesc, hf.reportDescSize⟩

end Fetch

end Libhid
