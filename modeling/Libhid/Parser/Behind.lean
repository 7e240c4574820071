import Libhid.Parser.Counting

/-!
# Bytes behind the descriptor

The loop condition of `HIDParse` compares the position of an item with the size of the descriptor,
and the item fetch then copies as many data bytes as the first byte of the item says.  Two parsers
with the same descriptor and different bytes behind it go on alike as long as items are complete; an
item cut off is the last one (`beside_untilLast`).  `unaffected_iff` says when that last item gives
the bytes behind the descriptor away.
-/

namespace Libhid

open Framework

/-! ## Two buffers -/

/-- The parser with another buffer. -/
abbrev HIDParser.withDesc (p : HIDParser) (desc : Vector UInt8 reportDscSize) : HIDParser :=
  { p with reportDesc := desc }

/-- A buffer with the same descriptor: it differs at most from the size of the descriptor on. -/
def HIDParser.Agrees (p : HIDParser) (desc : Vector UInt8 reportDscSize) : Prop :=
  ∀ i (_ : i < reportDscSize), i < p.reportDescSize.toNat → desc[i] = p.reportDesc[i]

/-- The bytes behind the descriptor do not change the objects delivered. -/
def Unaffected (abi : Abi) (p : HIDParser) : Prop :=
  ∀ desc, p.Agrees desc → (enumerate abi (p.withDesc desc)).1 = (enumerate abi p).1

/-- The next item is a data item with data bytes, the first of which is the byte behind the
descriptor, and the tables have room for its object. -/
structure LooksBehind (abi : Abi) (s : HIDParser) (i : RawItem) : Prop where
  live : s.live = true
  next : s.nextRaw = some i
  data : i.tag.isData = true
  bytes : itemSize i.head ≠ 0
  last : s.pos.toNat + 1 = s.reportDescSize.toNat
  loads : abi.LoadsItems
  room : (s.taking abi i).HasRoom

/-! ## Items in both buffers -/

section Items

variable {abi : Abi} {s q : HIDParser} {i : RawItem} {desc : Vector UInt8 reportDscSize}
  {o : Option HIDData}

lemma live_iff : s.live = true ↔ s.pos.toNat < s.reportDescSize.toNat := by
  rw [HIDParser.live, decide_eq_true_iff, UInt16.lt_iff_toNat_lt]

/-- The item as the parser with the other buffer fetches it. -/
def RawItem.inDesc (i : RawItem) (s : HIDParser) (desc : Vector UInt8 reportDscSize) : RawItem :=
  ⟨i.head, (s.withDesc desc).bytesAt (s.pos.toNat + 1) (itemSize i.head)⟩

/-- The first byte of the next item is part of the descriptor. -/
lemma nextRaw_withDesc (h : s.Agrees desc) (hl : s.live = true) :
    (s.withDesc desc).nextRaw = s.nextRaw.map fun i => i.inDesc s desc := by
  unfold HIDParser.nextRaw
  by_cases hpos : s.pos.toNat < reportDscSize
  · have hhead : (s.withDesc desc).reportDesc[s.pos.toNat] = s.reportDesc[s.pos.toNat] :=
      h _ hpos (live_iff.mp hl)
    rw [dif_pos hpos, dif_pos hpos]
    dsimp only at hhead ⊢
    rw [hhead]
    split_ifs <;> rfl
  · rw [dif_neg hpos, dif_neg hpos]
    rfl

/-- Bytes inside the descriptor are the same. -/
lemma bytesAt_withDesc (h : s.Agrees desc) {pos n : ℕ}
    (hle : pos + n ≤ s.reportDescSize.toNat) :
    (s.withDesc desc).bytesAt pos n = s.bytesAt pos n := by
  apply List.ext_getElem
  · simp [HIDParser.bytesAt]
  · intro j hj hj'
    simp only [HIDParser.bytesAt, List.length_take, List.length_drop, Vector.length_toList,
      Nat.lt_min] at hj
    simp only [HIDParser.bytesAt, List.getElem_take, List.getElem_drop, Vector.getElem_toList]
    exact h (pos + j) (by omega) (by omega)

/-- A complete item is the same. -/
lemma inDesc_complete (h : s.Agrees desc) (hi : s.nextRaw = some i)
    (hfit : s.pos.toNat + 1 + itemSize i.head ≤ s.reportDescSize.toNat) : i.inDesc s desc = i := by
  obtain ⟨-, -, -, -, hdata⟩ := nextRaw_eq_some hi
  rw [RawItem.inDesc, bytesAt_withDesc h hfit, ← hdata]

lemma HIDParser.Agrees.turn (h : s.Agrees desc) (hb : parseTurn abi s = .ok (q, o)) :
    q.Agrees desc := by
  obtain ⟨hdesc, hsize⟩ := parseTurn_desc hb
  intro j hj hlt
  rw [hsize] at hlt
  rw [hdesc]
  exact h j hj hlt

/-- The cases of the switch do not look at the buffer. -/
lemma dispatch_withDesc : OutcomeRel (fun x y => y = (x.1.withDesc desc, x.2)) (dispatch abi s)
    (dispatch abi (s.withDesc desc)) := by
  refine (dispatch_moved abi s desc s.reportDescSize s.pos).imp ?_
  rintro ⟨q, o⟩ y hq hy ⟨pos, rfl⟩
  have hf := dispatch_frame hq
  have hpos : pos = q.pos := (dispatch_frame hy).pos.trans hf.pos.symm
  rw [hpos, ← hf.reportDescSize]

/-- An item cut off is the last one. -/
lemma last_of_cut (hi : s.nextRaw = some i)
    (hcut : s.reportDescSize.toNat < s.pos.toNat + 1 + itemSize i.head) : (parser abi).Last s := by
  intro q o hb
  obtain ⟨-, -, -, hroom, -⟩ := nextRaw_eq_some hi
  have hpos : (s.taking abi i).pos.toNat = s.pos.toNat + 1 + itemSize i.head :=
    behindItem_toNat hroom
  have hd : dispatch abi (s.taking abi i) = .ok (q, o) := (parseTurn_taking abi hi).symm.trans hb
  exact (dispatch_frame hd).ended (by rw [hpos]; exact Nat.le_of_lt hcut)
    (by rw [hpos]; exact hroom)

/-- A turn fetches an item that is cut off, or does the same in both parsers. -/
lemma parseTurn_withDesc (abi : Abi) (h : s.Agrees desc) (hl : s.live = true) :
    OutcomeRel (fun x y => y = (x.1.withDesc desc, x.2)) (parseTurn abi s)
        (parseTurn abi (s.withDesc desc)) ∨
      ∃ i, s.nextRaw = some i ∧ s.reportDescSize.toNat < s.pos.toNat + 1 + itemSize i.head := by
  by_cases hc : s.count = 0
  · have hi' := nextRaw_withDesc h hl
    cases hi : s.nextRaw with
    | none =>
        left
        rw [hi, Option.map_none] at hi'
        rw [parseTurn, parseTurn, nextItem_stop hc hi, nextItem_stop (p := s.withDesc desc) hc hi']
        exact .error _
    | some i =>
        rw [hi, Option.map_some] at hi'
        rcases Nat.lt_or_ge s.reportDescSize.toNat (s.pos.toNat + 1 + itemSize i.head) with
          hcut | hfit
        · exact .inr ⟨i, rfl, hcut⟩
        · left
          rw [inDesc_complete h hi hfit] at hi'
          rw [parseTurn_taking abi hi, parseTurn_taking abi hi']
          exact dispatch_withDesc
  · left
    rw [parseTurn_pending abi hc, parseTurn_pending (p := s.withDesc desc) abi hc]
    exact dispatch_withDesc

/-- **Parsers with the same descriptor go on alike until their last turn.** -/
lemma beside_untilLast (abi : Abi) (desc : Vector UInt8 reportDscSize) :
    Generator.UntilLast (parser abi) (parser abi) fun s t =>
      s.Agrees desc ∧ t = s.withDesc desc := by
  refine ⟨?_, ?_⟩
  · rintro s t ⟨-, rfl⟩
    rfl
  · rintro s t ⟨hs, rfl⟩ hl
    rcases parseTurn_withDesc abi hs hl with hrel | ⟨i, hi, hcut⟩
    · left
      refine hrel.imp ?_
      rintro ⟨q, o⟩ y hq - rfl
      exact ⟨⟨hs.turn hq, rfl⟩, rfl⟩
    · have hi' := nextRaw_withDesc hs hl
      rw [hi, Option.map_some] at hi'
      exact .inr ⟨last_of_cut hi hcut, last_of_cut hi' hcut⟩

/-! ## What an item cut off delivers -/

lemma leNat_emod (bytes : List UInt8) : leNat bytes % 256 = (bytes.headD 0).toNat := by
  cases bytes with
  | nil => rfl
  | cons b bs =>
      have hlt := b.toNat_lt
      rw [leNat, List.headD_cons]
      omega

/-- The attribute of an object is the first data byte of its item. -/
lemma uchar_bytesAt (hload : abi.LoadsItems) {pos n : ℕ} (hn : n ≠ 0) (hle : n ≤ 4)
    (hpos : pos < reportDscSize) : uchar (abi.load (s.bytesAt pos n)) = s.reportDesc[pos] := by
  have hlen : (s.bytesAt pos n).length ≤ 4 := by
    rw [HIDParser.bytesAt, List.length_take]
    omega
  have hhead : (s.bytesAt pos n).headD 0 = s.reportDesc[pos] := by
    obtain ⟨m, rfl⟩ := Nat.exists_eq_succ_of_ne_zero hn
    have hlt : pos < s.reportDesc.toList.length := by simpa using hpos
    rw [HIDParser.bytesAt, List.drop_eq_getElem_cons hlt, List.take_succ_cons, List.headD_cons,
      Vector.getElem_toList]
  rw [← UInt8.toNat_inj, uchar_load hload hlen, leNat_emod, hhead]

lemma uchar_value (hload : abi.LoadsItems) (hi : s.nextRaw = some i) (hn : itemSize i.head ≠ 0)
    (hlt : s.pos.toNat + 1 < reportDscSize) :
    uchar (i.value abi) = s.reportDesc[s.pos.toNat + 1] := by
  obtain ⟨-, -, -, -, hdata⟩ := nextRaw_eq_some hi
  rw [RawItem.value, hdata]
  exact uchar_bytesAt hload hn (itemSize_le i.head) hlt

/-- Of the value of its item, an object has the attribute only. -/
lemma dataItem_attrib (v : ℤ) (desc : Vector UInt8 reportDscSize) :
    OutcomeRel (fun x y => y.2 = { x.2 with attrib := uchar v }) (dataItem s)
      (dataItem { s with value := v, reportDesc := desc }) := by
  simp only [dataItem, HIDParser.firstUsage]
  apply OutcomeRel.bind_same
  intro path
  apply OutcomeRel.bind_same
  rintro ⟨tab, n⟩
  apply OutcomeRel.bind_same
  rintro ⟨pos, rows, k⟩
  apply OutcomeRel.bind_same
  rintro ⟨pos', rows', k'⟩
  exact .ok rfl

lemma parseTurn_taking_data (hi : s.nextRaw = some i) (hdata : i.tag.isData = true) :
    parseTurn abi s = (dataItem (s.taking abi i)).map fun (p, object) => (p, some object) :=
  (parseTurn_taking abi hi).trans (dispatch_data hdata)

/-- An item that is not a data item delivers nothing. -/
lemma delivered_of_not_data (hi : s.nextRaw = some i) (hdata : i.tag.isData = false) :
    Generator.delivered (parseTurn abi s) = [] := by
  rcases hb : parseTurn abi s with e | ⟨q, _ | o⟩
  · rfl
  · rfl
  · rw [parseTurn_taking abi hi] at hb
    have htag : i.tag.isData = true := (dispatch_object hb).1
    rw [hdata] at htag
    cases htag

/-- Items with the same first byte deliver the same if they have no room, or the same attribute. -/
lemma delivered_eq_iff {j : RawItem} (hi : s.nextRaw = some i)
    (hj : (s.withDesc desc).nextRaw = some j) (hhead : j.head = i.head)
    (hdata : i.tag.isData = true) :
    Generator.delivered (parseTurn abi s) = Generator.delivered (parseTurn abi (s.withDesc desc)) ↔
      ((s.taking abi i).HasRoom → uchar (i.value abi) = uchar (j.value abi)) := by
  have hdata' : j.tag.isData = true := by
    rw [RawItem.tag, hhead]
    exact hdata
  have hsame : (s.withDesc desc).taking abi j =
      { s.taking abi i with value := j.value abi, reportDesc := desc } := by
    rw [HIDParser.taking, hhead]
    rfl
  have hrel := dataItem_attrib (s := s.taking abi i) (j.value abi) desc
  rw [parseTurn_taking_data hi hdata, parseTurn_taking_data hj hdata', hsame]
  generalize hy : dataItem { s.taking abi i with value := j.value abi, reportDesc := desc } = y
    at hrel
  cases hx : dataItem (s.taking abi i) with
  | error e =>
      rw [hx] at hrel
      cases hrel
      refine ⟨fun _ hroom => ?_, fun _ => rfl⟩
      obtain ⟨q, o, hd, -⟩ := hroom.turn abi hdata
      have htag : (Tag.ofItem (s.taking abi i).item).isData = true := hdata
      rw [dispatch_data htag, hx] at hd
      cases hd
  | ok x =>
      obtain ⟨q, o⟩ := x
      obtain ⟨t⟩ := dataItem_ok hx
      have hattrib : o.attrib = uchar (i.value abi) :=
        (congrArg HIDData.attrib t.object_eq).trans rfl
      rw [hx] at hrel
      cases hrel with
      | @ok _ y hobject =>
          obtain ⟨q', o'⟩ := y
          dsimp only at hobject
          subst hobject
          constructor
          · intro heq _
            have hobjects : o = { o with attrib := uchar (j.value abi) } :=
              List.head_eq_of_cons_eq heq
            rw [← hattrib]
            exact congrArg HIDData.attrib hobjects
          · intro h
            rw [← h t.hasRoom, ← hattrib]
            rfl

/-- The bytes behind the descriptor do not change what a turn delivers, unless it looks at them. -/
lemma delivered_withDesc (h : s.Agrees desc) (hl : s.live = true)
    (hno : ∀ i, ¬ LooksBehind abi s i) : Generator.delivered (parseTurn abi s) =
      Generator.delivered (parseTurn abi (s.withDesc desc)) := by
  rcases parseTurn_withDesc abi h hl with hrel | ⟨i, hi, hcut⟩
  · exact Generator.delivered_eq hrel fun _ _ hxy => by rw [hxy]
  have hj := nextRaw_withDesc h hl
  rw [hi, Option.map_some] at hj
  cases hdata : i.tag.isData with
  | false => rw [delivered_of_not_data hi hdata, delivered_of_not_data hj hdata]
  | true =>
      refine (delivered_eq_iff hi hj rfl hdata).mpr fun hroom => ?_
      obtain ⟨-, -, -, hfit, -⟩ := nextRaw_eq_some hi
      have hlive := live_iff.mp hl
      by_cases hload : abi.LoadsItems
      · -- the first data byte is part of the descriptor
        have hlast : s.pos.toNat + 1 ≠ s.reportDescSize.toNat := fun hlast =>
          hno i ⟨hl, hi, hdata, by omega, hlast, hload, hroom⟩
        have hn : itemSize i.head ≠ 0 := by omega
        have hlt : s.pos.toNat + 1 < reportDscSize := by omega
        calc uchar (i.value abi)
            = s.reportDesc[s.pos.toNat + 1] := uchar_value hload hi hn hlt
          _ = desc[s.pos.toNat + 1] := (h _ hlt (by omega)).symm
          _ = uchar ((i.inDesc s desc).value abi) :=
              (uchar_value (s := s.withDesc desc) hload hj hn hlt).symm
      · calc uchar (i.value abi)
            = 0 := uchar_load_zero hload (data_length_le hi)
          _ = uchar ((i.inDesc s desc).value abi) :=
              (uchar_load_zero hload (data_length_le hj)).symm

/-- What a turn delivers that looks behind the descriptor depends on the byte there. -/
lemma LooksBehind.differs (h : LooksBehind abi s i) : ∃ desc, s.Agrees desc ∧
    Generator.delivered (parseTurn abi s) ≠
      Generator.delivered (parseTurn abi (s.withDesc desc)) := by
  obtain ⟨hl, hi, hdata, hbytes, hlast, hload, hroom⟩ := h
  obtain ⟨-, -, -, hfit, -⟩ := nextRaw_eq_some hi
  have hlt : s.pos.toNat + 1 < reportDscSize := by omega
  have hagrees : s.Agrees (s.reportDesc.set (s.pos.toNat + 1)
      (s.reportDesc[s.pos.toNat + 1] + 1)) := by
    intro j hj hlt'
    rw [Vector.getElem_set_ne _ _ (by omega)]
  refine ⟨_, hagrees, fun heq => ?_⟩
  have hj := nextRaw_withDesc hagrees hl
  rw [hi, Option.map_some] at hj
  have hsame := (delivered_eq_iff hi hj rfl hdata).mp heq hroom
  rw [uchar_value hload hi hbytes hlt, uchar_value (s := s.withDesc _) hload hj hbytes hlt,
    Vector.getElem_set_self] at hsame
  simp at hsame

/-! ## Whole enumerations -/

/-- A count pending with an item that is no data item stays, and nothing is delivered. -/
lemma turn_of_not_ready (h : ¬ s.Ready) (hb : parseTurn abi s = .ok (q, o)) :
    ¬ q.Ready ∧ o = none := by
  obtain ⟨hc, hdata⟩ : s.count ≠ 0 ∧ ¬ (Tag.ofItem s.item).isData = true := not_or.mp h
  rw [parseTurn_pending abi hc] at hb
  have hf := dispatch_frame hb
  constructor
  · rintro (h0 | hdata')
    · exact hc ((hf.count.resolve_right hdata).symm.trans h0)
    · rw [hf.item] at hdata'
      exact hdata hdata'
  · cases o with
    | none => rfl
    | some object => exact absurd (dispatch_object hb).1 hdata

lemma enumerate_of_not_ready {p : HIDParser} (h : ¬ p.Ready) : (enumerate abi p).1 = [] := by
  have hturn : ∀ s q o, ¬ s.Ready → (parser abi).live s = true →
      (parser abi).body s = .ok (q, o) → ¬ q.Ready ∧ o = none :=
    fun _ _ _ hs _ hb => turn_of_not_ready hs hb
  exact Generator.all_silent hturn h

/-- An enumeration does not write to the descriptor. -/
lemma reaches_desc {p : HIDParser} (h : (parser abi).Reaches p s) :
    s.reportDesc = p.reportDesc ∧ s.reportDescSize = p.reportDescSize := by
  refine h.invariant (fun s => s.reportDesc = p.reportDesc ∧ s.reportDescSize = p.reportDescSize)
    ⟨rfl, rfl⟩ ?_
  intro u u' o _ hu _ hb
  obtain ⟨hdesc, hsize⟩ := parseTurn_desc hb
  exact ⟨hdesc.trans hu.1, hsize.trans hu.2⟩

end Items

/-- **The bytes behind the descriptor do not change the objects delivered if and only if no data
item is met of which only the first byte is part of the descriptor.** -/
theorem unaffected_iff (abi : Abi) (p : HIDParser) : Unaffected abi p ↔
    ∀ s i, (parser abi).Reaches p s → ¬ LooksBehind abi s i := by
  by_cases hready : p.Ready
  · have hiff : ∀ desc, p.Agrees desc → ((enumerate abi p).1 = (enumerate abi (p.withDesc desc)).1 ↔
        ∀ xs u v, (parser abi).Steps p xs u → (parser abi).Steps (p.withDesc desc) xs v →
          (u.Agrees desc ∧ v = u.withDesc desc) → u.live = true →
          Generator.delivered (parseTurn abi u) = Generator.delivered (parseTurn abi v)) :=
      fun desc h => (beside_untilLast abi desc).all_iff (parser_bounded abi) (parser_bounded abi)
        ⟨h, rfl⟩ hready hready
    constructor
    · rintro h s i ⟨xs, hs⟩ hlooks
      obtain ⟨desc, hs', hdiff⟩ := hlooks.differs
      have hagrees : p.Agrees desc := by
        obtain ⟨hdesc, hsize⟩ := reaches_desc ⟨xs, hs⟩
        intro j hj hlt
        rw [← hdesc]
        exact hs' j hj (by rw [hsize]; exact hlt)
      obtain ⟨v, hv, huv⟩ := (beside_untilLast abi desc).steps hs ⟨hagrees, rfl⟩ hlooks.live
      have hsame := (hiff desc hagrees).mp (h desc hagrees).symm xs s v hs hv huv hlooks.live
      rw [huv.2] at hsame
      exact hdiff hsame
    · intro h desc hagrees
      refine ((hiff desc hagrees).mpr ?_).symm
      rintro xs u v hu - ⟨hu', rfl⟩ hl
      exact delivered_withDesc hu' hl fun i => h u i ⟨xs, hu⟩
  · -- the pending item is processed again and again, and no item is fetched
    constructor
    · intro _ s i hs hlooks
      have hnot : ¬ s.Ready :=
        hs.invariant (fun s => ¬ s.Ready) hready fun _ _ _ _ hu _ hb => (turn_of_not_ready hu hb).1
      exact hnot (.inl (nextRaw_eq_some hlooks.next).1)
    · intro _ desc _
      rw [enumerate_of_not_ready hready, enumerate_of_not_ready (p := p.withDesc desc) hready]

/-- A descriptor that ends with the first byte of a Feature item of one data byte. -/
def cutFeature : List UInt8 :=
  [0x05, 0x01, 0x09, 0x01, 0xA1, 0x01, 0x75, 0x08, 0x95, 0x01, 0x09, 0x02, 0xB1]

/-- The bytes behind a descriptor do change the objects: the one behind `cutFeature` is the
attribute of its object. -/
theorem unaffected_fails : ¬ ∀ (abi : Abi) (p : HIDParser), Unaffected abi p := by
  intro hall
  have hbytes : ∀ j : Fin 13, (descBuffer (cutFeature ++ [0x02]))[j] =
      (HIDParser.holding cutFeature).reportDesc[j] := by
    decide +kernel
  have hsame := hall (.little .w64 true) (.holding cutFeature) (descBuffer (cutFeature ++ [0x02]))
    fun j _ hlt => hbytes ⟨j, hlt⟩
  have hdiff : ((enumerate (.little .w64 true) ((HIDParser.holding cutFeature).withDesc
      (descBuffer (cutFeature ++ [0x02])))).1.map HIDData.attrib !=
        (enumerate (.little .w64 true) (.holding cutFeature)).1.map HIDData.attrib) = true := by
    decide +kernel
  rw [hsame] at hdiff
  simp at hdiff

end Libhid
