import Libhid.Parser.Complete
import Libhid.Parser.Reading

/-!
# Logical and physical extents

The minimum and maximum items give signed numbers in 1, 2 or 4 bytes.  `HIDParse` copies the bytes
into a `long` and has `FormatValue` extend their sign, which it does for 1 and 2 bytes only.
`extents_iff` says for the objects of every descriptor of complete items which of their extents are
the numbers encoded, and for two descriptors that encode the same numbers in other widths which
extents are equal.
-/

namespace Libhid

open Framework

/-! ## Extents -/

/-- The fields that `FormatValue` is used for. -/
inductive Extent
  | logMin | logMax | phyMin | phyMax
  deriving DecidableEq

/-- The items that set the field. -/
def Extent.tag : Extent → Tag
  | .logMin => .logMin
  | .logMax => .logMax
  | .phyMin => .phyMin
  | .phyMax => .phyMax

/-- The field of an object. -/
def HIDData.extent (o : HIDData) : Extent → ℤ
  | .logMin => o.logMin
  | .logMax => o.logMax
  | .phyMin => o.phyMin
  | .phyMax => o.phyMax

/-- The two's complement number of the data bytes. -/
def signedValue (data : List UInt8) : ℤ := (leNat data : ℤ).bmod (256 ^ data.length)

/-- The data of the latest item of an extent, no bytes if there was none; the last item comes
first. -/
def latestData (e : Extent) : List RawItem → List UInt8
  | [] => []
  | i :: items => if i.tag = e.tag then i.data else latestData e items

/-- A negative number of 4 bytes keeps its sign bit as a number bit in a wider `long`. -/
def Unextended (w : LongWidth) (data : List UInt8) : Prop :=
  w = .w64 ∧ data.length = 4 ∧ 2 ^ 31 ≤ leNat data

instance (w : LongWidth) (data : List UInt8) : Decidable (Unextended w data) :=
  inferInstanceAs (Decidable (_ ∧ _ ∧ _))

/-- What the parser makes of the data bytes. -/
def formattedValue (abi : Abi) (data : List UInt8) : ℤ :=
  formatValue abi (abi.load data) data.length

/-- No bytes are 0. -/
lemma formattedValue_nil (abi : Abi) : formattedValue abi [] = 0 := by
  obtain ⟨w, charSigned, big⟩ := abi
  cases w <;> cases charSigned <;> cases big <;> decide

/-- Of at most 2 bytes the sign is extended. -/
lemma formattedValue_short (w : LongWidth) {data : List UInt8} (hlen : data.length ≤ 2) :
    formattedValue (.little w true) data = signedValue data := by
  have hlt : leNat data < 2 ^ 16 :=
    Nat.lt_of_lt_of_le (leNat_lt data) (Nat.pow_le_pow_right (by decide : 0 < 256) hlen)
  have hlong : (Abi.little w true).load data = leNat data := by
    rw [Abi.load_eq (.inl rfl) (by omega)]
    refine Abi.toLong_natCast (Nat.lt_trans hlt ?_)
    cases w <;> simp [LongWidth.bits]
  rw [formattedValue, hlong]
  obtain h | h | h : data.length = 0 ∨ data.length = 1 ∨ data.length = 2 := by omega
  · rw [List.length_eq_zero_iff.mp h]
    rfl
  · rw [h, formatValue, if_pos rfl, signedValue, h, Abi.toChar, if_pos rfl, Nat.pow_one]
  · rw [h, formatValue, if_neg (by decide), if_pos rfl, signedValue, h, short]
    simp only [Nat.reducePow]

/-- Of 4 bytes it is extended by the conversion to `long`, if that has 32 bits. -/
lemma formattedValue_four (w : LongWidth) {data : List UInt8} (hlen : data.length = 4) :
    formattedValue (.little w true) data =
      signedValue data + if Unextended w data then 2 ^ 32 else 0 := by
  have hlt : leNat data < 2 ^ 32 := by
    have hbound := leNat_lt data
    rwa [hlen] at hbound
  rw [formattedValue, Abi.load_eq (.inl rfl) (by omega), hlen, formatValue, if_neg (by decide),
    if_neg (by decide), signedValue, hlen]
  cases w with
  | w32 =>
      have hextended : ¬ Unextended .w32 data := fun h => absurd h.1 (by decide)
      rw [if_neg hextended, add_zero, Abi.toLong]
      simp only [LongWidth.bits, Nat.reducePow]
  | w64 =>
      have hlong : (Abi.little .w64 true).toLong (leNat data) = leNat data :=
        Abi.toLong_natCast (Nat.lt_trans hlt (show 2 ^ 32 < 2 ^ 63 by decide))
      have hextended : Unextended .w64 data ↔ 2 ^ 31 ≤ leNat data :=
        ⟨fun h => h.2.2, fun h => ⟨rfl, hlen, h⟩⟩
      simp only [hlong, hextended, Int.bmod_def, Nat.reducePow]
      split_ifs <;> omega

/-- The value of an extent: the number encoded, unless its sign is not extended. -/
lemma formattedValue_eq (w : LongWidth) {data : List UInt8}
    (hsize : data.length ∈ [0, 1, 2, 4]) : formattedValue (.little w true) data =
      signedValue data + if Unextended w data then 2 ^ 32 else 0 := by
  by_cases hlen : data.length = 4
  · exact formattedValue_four w hlen
  · simp only [List.mem_cons, List.not_mem_nil, or_false] at hsize
    rw [formattedValue_short w (by omega), if_neg fun h => hlen h.2.1, add_zero]

/-! ## The objects and the items before them -/

/-- The objects delivered, each with the items read until then, the last one first. -/
def objectsRead (abi : Abi) (p : HIDParser) : List (HIDData × List RawItem) :=
  (((parser abi).withHistory recordItem).all (resetParser p, [])).1

lemma objectsRead_fst (abi : Abi) (p : HIDParser) :
    (objectsRead abi p).map Prod.fst = (enumerate abi (resetParser p)).1 :=
  Generator.withHistory_all (parser_bounded abi) [] (resetParser_ready p)

section Turn

variable {abi : Abi} {p q s : HIDParser} {i : RawItem} {items : List RawItem} {o : HIDData}

/-- The extents after a case of the switch. -/
lemma dispatch_extent {out : Option HIDData} (h : dispatch abi p = .ok (q, out)) (e : Extent) :
    q.data.extent e = if Tag.ofItem p.item = e.tag
      then formatValue abi p.value (itemSize p.item) else p.data.extent e := by
  unfold dispatch at h
  cases htag : Tag.ofItem p.item <;>
    simp only [htag, except_map_ok, Except.ok.injEq, Prod.mk.injEq, Prod.exists] at h
  case feature | input | output =>
    obtain ⟨r, object, hd, rfl, -⟩ := h
    obtain ⟨t⟩ := dataItem_ok hd
    rw [t.data, t.object_eq]
    cases e <;> rfl
  case usage =>
    obtain ⟨r, hd, rfl, -⟩ := h
    obtain ⟨-, rfl⟩ := pushUsage_ok hd
    cases e <;> rfl
  case collection =>
    obtain ⟨r, hd, rfl, -⟩ := h
    obtain ⟨-, -, path, -, -, -, rfl⟩ := openCollection_ok hd
    cases e <;> rfl
  case endCollection =>
    obtain ⟨r, hd, rfl, -⟩ := h
    obtain ⟨-, rfl⟩ := closeCollection_ok hd
    cases e <;> rfl
  all_goals
    obtain ⟨rfl, -⟩ := h
    cases e <;> rfl

/-- An object has the extents of the parser. -/
lemma ObjectTurn.extent (t : ObjectTurn p q o) (e : Extent) : o.extent e = q.data.extent e := by
  rw [t.data]
  cases e <;> rfl

lemma data_length (h : s.nextRaw = some i) : i.data.length = itemSize i.head := by
  obtain ⟨-, -, -, hroom, hdata⟩ := nextRaw_eq_some h
  rw [hdata, HIDParser.bytesAt, List.length_take, List.length_drop, Vector.length_toList]
  omega

/-- The parser has the extents of the items read, whose data have the sizes of their heads. -/
structure Ranges (abi : Abi) (s : HIDParser) (items : List RawItem) : Prop where
  ready : s.Ready
  extent : ∀ e, s.data.extent e = formattedValue abi (latestData e items)
  size : ∀ i ∈ items, i.data.length = itemSize i.head

/-- **A turn keeps the ranges.** -/
lemma Ranges.turn {out : Option HIDData} (h : Ranges abi s items) (hl : s.live = true)
    (hb : parseTurn abi s = .ok (q, out)) : Ranges abi q (recordItem items s) := by
  obtain ⟨hready, -⟩ := parseTurn_bounded h.ready hl hb
  obtain ⟨r, hr, hd⟩ := parseTurn_finds hb
  have hextent := dispatch_extent hd
  cases hr with
  | pending hc =>
      rw [recordItem_pending hc]
      refine ⟨hready, fun e => ?_, h.size⟩
      have htag : Tag.ofItem s.item ≠ e.tag := h.ready.tag_ne hc (by cases e <;> rfl)
      rw [hextent, if_neg htag, h.extent]
  | @item i hc hi =>
      rw [recordItem_item hi]
      refine ⟨hready, fun e => ?_, List.forall_mem_cons.mpr ⟨data_length hi, h.size⟩⟩
      have hitem : Tag.ofItem (s.taking abi i).item = i.tag := rfl
      rw [hextent, hitem, latestData]
      split_ifs with htag
      · rw [formattedValue, data_length hi]
        rfl
      · exact h.extent e

/-- **In every state an enumeration comes to.** -/
theorem reads_ranges (h : Reads abi p s items) : Ranges abi s items := by
  refine h.invariant _ ⟨resetParser_ready p, fun e => ?_, fun _ h => absurd h List.not_mem_nil⟩ ?_
  · rw [latestData, formattedValue_nil]
    cases e <;> rfl
  · intro s items q o _ hs hl hb
    exact hs.turn hl hb

/-- An object has the ranges of the items read until then. -/
lemma mem_objectsRead {x : HIDData × List RawItem} (h : x ∈ objectsRead abi p) :
    ∃ s, Ranges abi s x.2 ∧ ∀ e, x.1.extent e = s.data.extent e := by
  have hemits : ((parser abi).withHistory recordItem).Emits (resetParser p, []) (objectsRead abi p)
      (((parser abi).withHistory recordItem).all (resetParser p, [])).2 :=
    (Generator.withHistory_bounded (parser_bounded abi)).emits_all (resetParser_ready p)
  obtain ⟨⟨s, items⟩, ⟨q, items'⟩, hreads, hl, hb⟩ := hemits.mem h
  obtain ⟨rfl, o, hb', ho⟩ := Generator.withHistory_body_ok hb
  cases o with
  | none => cases ho
  | some o =>
      cases ho
      have hb' : parseTurn abi s = .ok (q, some o) := hb'
      obtain ⟨r, -, hd⟩ := parseTurn_finds hb'
      obtain ⟨-, ⟨t⟩⟩ := dispatch_object hd
      exact ⟨q, (reads_ranges hreads).turn hl hb', t.extent⟩

end Turn

/-! ## The items of the descriptor -/

/-- The items taken, the last one first. -/
def recordTaken (items : List RawItem) (s : HIDParser × List RawItem) : List RawItem :=
  if s.1.count = 0 then s.2.head?.toList ++ items else items

section Whole

variable {abi : Abi} {p : HIDParser} {items : List WholeItem}

/-- The parser fed with the items of its descriptor takes those it reads. -/
lemma Feeds.recordTaken {bytes : List UInt8} {s : HIDParser × List RawItem}
    (h : Feeds abi bytes p s) (hl : p.live = true) (read : List RawItem) :
    recordItem read p = Libhid.recordTaken read s := by
  obtain ⟨c, left⟩ := s
  obtain ⟨items, hitems, hrem, -⟩ := h.items
  obtain rfl : c = p.bare := h.bare
  obtain rfl : left = items.map WholeItem.toRawItem := hitems
  by_cases hc : p.count = 0
  · rw [Libhid.recordTaken, if_pos (show p.bare.count = 0 from hc)]
    cases items with
    | nil =>
        rw [not_live_of_remaining h.holds hrem] at hl
        cases hl
    | cons i items =>
        rw [recordItem_item (nextRaw_whole h.holds hc hrem)]
        rfl
  · rw [recordItem_pending hc, Libhid.recordTaken, if_neg (show p.bare.count ≠ 0 from hc)]

lemma objectsRead_whole (hp : p.Holds (wholeBytes items)) (hskips : ∀ i ∈ items, i.Skips abi) :
    objectsRead abi p = (((itemParser abi).withHistory recordTaken).all
      (((resetParser p).bare, items.map WholeItem.toRawItem), [])).1 :=
  (((feeds_lockstep abi (wholeBytes items)).withHistory fun read h hl => h.recordTaken hl read).all
    (Generator.withHistory_bounded (parser_bounded abi))
    (Generator.withHistory_bounded (itemParser_bounded abi)) ⟨feeds_resetParser hp hskips, rfl⟩
    (resetParser_ready p) (resetParser_ready p).bare).1

/-- A turn takes the items in order. -/
lemma itemTurn_left {s t : HIDParser × List RawItem} {o : Option HIDData}
    (h : itemTurn abi s = .ok (t, o)) (read : List RawItem) :
    (recordTaken read s).reverse ++ t.2 = read.reverse ++ s.2 := by
  obtain ⟨c, left⟩ := s
  by_cases hc : c.count = 0
  · rw [recordTaken, if_pos hc]
    cases left with
    | nil =>
        rw [itemTurn, if_pos hc] at h
        cases h
    | cons i left =>
        rw [itemTurn_handed abi hc, except_map_ok] at h
        obtain ⟨⟨q, o⟩, -, hsame⟩ := h
        cases hsame
        simp
  · rw [recordTaken, if_neg hc]
    rw [itemTurn_pending abi hc, except_map_ok] at h
    obtain ⟨⟨q, o⟩, -, hsame⟩ := h
    cases hsame
    rfl

/-- **The items read until an object are the first ones of the descriptor.** -/
lemma objectsRead_isPrefix (hp : p.Holds (wholeBytes items)) (hskips : ∀ i ∈ items, i.Skips abi)
    {x : HIDData × List RawItem} (hx : x ∈ objectsRead abi p) :
    x.2.reverse <+: items.map WholeItem.toRawItem := by
  rw [objectsRead_whole hp hskips] at hx
  obtain ⟨⟨s, read⟩, ⟨t, read'⟩, hreach, -, hb⟩ :=
    ((Generator.withHistory_bounded (itemParser_bounded abi)).emits_all
      (resetParser_ready p).bare).mem hx
  have hleft : read.reverse ++ s.2 = items.map WholeItem.toRawItem := by
    refine hreach.invariant (fun s => s.2.reverse ++ s.1.2 = items.map WholeItem.toRawItem) rfl ?_
    rintro ⟨s, read⟩ ⟨t, read'⟩ o - hs - hb
    obtain ⟨rfl, o', hb', -⟩ := Generator.withHistory_body_ok hb
    exact (itemTurn_left hb' read).trans hs
  obtain ⟨rfl, o, hb', ho⟩ := Generator.withHistory_body_ok hb
  cases o with
  | none => cases ho
  | some o =>
      cases ho
      exact ⟨t.2, (itemTurn_left hb' read).trans hleft⟩

end Whole

/-! ## Numbers in other widths -/

/-- The object without its extents. -/
abbrev HIDData.blank (o : HIDData) : HIDData :=
  { o with logMin := 0, logMax := 0, phyMin := 0, phyMax := 0 }

/-- The parser without the extents of its object. -/
abbrev HIDParser.blank (p : HIDParser) : HIDParser := { p with data := p.data.blank }

/-- The outcome of a turn without extents. -/
def blanked (x : HIDParser × Option HIDData) : HIDParser × Option HIDData :=
  (x.1.blank, x.2.map HIDData.blank)

/-- The same item, or one that gives an extent by the same number. -/
def Recoded (i j : RawItem) : Prop :=
  i = j ∨ ∃ e : Extent, i.tag = e.tag ∧ j.tag = e.tag ∧ signedValue i.data = signedValue j.data

section Blank

variable {abi : Abi} {p q c : HIDParser} {i j : RawItem}

lemma dataItem_blank (p : HIDParser) :
    OutcomeRel (fun x y => y = (x.1.blank, x.2.blank)) (dataItem p) (dataItem p.blank) := by
  simp only [dataItem, HIDParser.firstUsage]
  apply OutcomeRel.bind_same
  intro path
  apply OutcomeRel.bind_same
  rintro ⟨tab, n⟩
  apply OutcomeRel.bind_same
  rintro ⟨row, rows, k⟩
  apply OutcomeRel.bind_same
  rintro ⟨row', rows', k'⟩
  apply OutcomeRel.ok
  dsimp only
  split_ifs <;> rfl

lemma openCollection_blank (p : HIDParser) :
    OutcomeRel (fun x y => y = x.blank) (openCollection p) (openCollection p.blank) := by
  simp only [openCollection, HIDParser.firstUsage]
  apply OutcomeRel.bind_same
  intro path
  apply OutcomeRel.bind_same
  rintro ⟨tab, n⟩
  apply OutcomeRel.bind_same
  intro path'
  exact .ok rfl

lemma closeCollection_blank (p : HIDParser) :
    OutcomeRel (fun x y => y = x.blank) (closeCollection p) (closeCollection p.blank) := by
  unfold closeCollection
  dsimp only
  split_ifs
  · exact .ok rfl
  · exact .ok rfl
  · exact .error _

lemma pushUsage_blank (p : HIDParser) :
    OutcomeRel (fun x y => y = x.blank) (pushUsage p) (pushUsage p.blank) := by
  unfold pushUsage
  dsimp only
  split_ifs
  · exact .ok rfl
  · exact .error _

/-- The cases of the switch do not look at the extents. -/
lemma dispatch_blank (abi : Abi) (p : HIDParser) :
    OutcomeRel (fun x y => blanked x = blanked y) (dispatch abi p) (dispatch abi p.blank) := by
  have hitem : p.blank.item = p.item := rfl
  unfold dispatch
  rw [hitem]
  cases htag : Tag.ofItem p.item
  case feature | input | output =>
    apply (dataItem_blank p).map
    rintro ⟨q, o⟩ y rfl
    rfl
  case usage =>
    apply (pushUsage_blank p).map
    rintro q y rfl
    rfl
  case collection =>
    apply (openCollection_blank p).map
    rintro q y rfl
    rfl
  case endCollection =>
    apply (closeCollection_blank p).map
    rintro q y rfl
    rfl
  all_goals exact .ok rfl

/-- Parsers that are the same but for the extents have the same objects pending. -/
lemma count_eq (h : p.blank = q.blank) : p.count = q.count := by
  have hcount := congrArg HIDParser.count h
  exact hcount

lemma dispatch_alike (h : p.blank = q.blank) :
    OutcomeRel (fun x y => blanked x = blanked y) (dispatch abi p) (dispatch abi q) := by
  apply OutcomeRel.of_map_eq
  rw [(dispatch_blank abi p).map_eq fun _ _ h => h, (dispatch_blank abi q).map_eq fun _ _ h => h, h]

/-- An extent item changes nothing else. -/
lemma dispatch_ranged (abi : Abi) (p : HIDParser) {e : Extent} (h : Tag.ofItem p.item = e.tag) :
    ∃ d : HIDData, dispatch abi p = .ok ({ p with data := d }, none) ∧ d.blank = p.data.blank := by
  cases e <;>
    · simp only [dispatch, h, Extent.tag]
      exact ⟨_, rfl, rfl⟩

/-- Between two items nothing of it is left. -/
lemma ranged_bare {d : HIDData} (hc : c.count = 0) (hd : d.blank = c.data.blank) :
    ({ c.handed abi i with data := d } : HIDParser).bare.blank = c.bare.blank := by
  have hleft : ({ c.handed abi i with data := d } : HIDParser).bare.blank =
      { c.bare with data := d.blank } := by
    unfold HIDParser.bare HIDParser.handed
    dsimp only
    simp only [if_pos hc]
  rw [hleft, hd]
  rfl

/-- **A turn on an item that gives the same number has the same outcome but for the extents.** -/
lemma itemTurn_recoded {s t : HIDParser × List RawItem} (hparser : s.1.blank = t.1.blank)
    (hleft : List.Forall₂ Recoded s.2 t.2) :
    OutcomeRel (fun x y => (x.1.1.blank = y.1.1.blank ∧ List.Forall₂ Recoded x.1.2 y.1.2) ∧
      x.2.map HIDData.blank = y.2.map HIDData.blank) (itemTurn abi s) (itemTurn abi t) := by
  obtain ⟨c, left⟩ := s
  obtain ⟨c', left'⟩ := t
  have hcount : c.count = c'.count := count_eq hparser
  have hbare : ∀ {q q' : HIDParser}, q.blank = q'.blank → q.bare.blank = q'.bare.blank :=
    fun h => congrArg HIDParser.bare h
  by_cases hc : c.count = 0
  · have hc' : c'.count = 0 := hcount.symm.trans hc
    cases hleft with
    | nil =>
        rw [itemTurn, if_pos hc, itemTurn, if_pos hc']
        exact .error _
    | @cons i j _ _ hij hrest =>
        rw [itemTurn_handed abi hc, itemTurn_handed abi hc']
        rcases hij with rfl | ⟨e, hi, hj, -⟩
        · have hhanded : (c.handed abi i).blank = (c'.handed abi i).blank :=
            congrArg (fun p => p.handed abi i) hparser
          refine (dispatch_alike hhanded).map fun x y hxy => ?_
          exact ⟨⟨hbare (congrArg Prod.fst hxy), hrest⟩, congrArg Prod.snd hxy⟩
        · obtain ⟨d, hd, hblank⟩ := dispatch_ranged abi (c.handed abi i) hi
          obtain ⟨d', hd', hblank'⟩ := dispatch_ranged abi (c'.handed abi j) hj
          rw [hd, hd']
          refine .ok ⟨⟨?_, hrest⟩, rfl⟩
          exact (ranged_bare hc hblank).trans ((hbare hparser).trans (ranged_bare hc' hblank').symm)
  · rw [itemTurn_pending abi hc, itemTurn_pending abi (hcount ▸ hc)]
    refine (dispatch_alike hparser).map fun x y hxy => ?_
    exact ⟨⟨hbare (congrArg Prod.fst hxy), hleft⟩, congrArg Prod.snd hxy⟩

end Blank

/-- Two runs on items that give the same numbers: the parsers are the same but for the extents. -/
structure Recodes (s t : (HIDParser × List RawItem) × List RawItem) : Prop where
  parser : s.1.1.blank = t.1.1.blank
  left : List.Forall₂ Recoded s.1.2 t.1.2
  read : List.Forall₂ Recoded s.2 t.2

/-- The same object but for its extents, after items that give the same numbers. -/
def SameRest (x y : HIDData × List RawItem) : Prop :=
  x.1.blank = y.1.blank ∧ List.Forall₂ Recoded x.2 y.2

section Recodes

variable {s t : (HIDParser × List RawItem) × List RawItem}

lemma Recodes.recordTaken (h : Recodes s t) :
    List.Forall₂ Recoded (recordTaken s.2 s.1) (recordTaken t.2 t.1) := by
  obtain ⟨⟨c, left⟩, read⟩ := s
  obtain ⟨⟨c', left'⟩, read'⟩ := t
  obtain ⟨hparser, hleft, hread⟩ := h
  unfold Libhid.recordTaken
  rw [count_eq hparser]
  split_ifs
  · cases hleft with
    | nil => exact hread
    | cons hij _ => exact .cons hij hread
  · exact hread

lemma Recodes.live (h : Recodes s t) (abi : Abi) :
    (itemParser abi).live s.1 = (itemParser abi).live t.1 := by
  obtain ⟨⟨c, left⟩, read⟩ := s
  obtain ⟨⟨c', left'⟩, read'⟩ := t
  cases h.left <;> rfl

/-- **The runs go on side by side.** -/
lemma recodes_alongside (abi : Abi) : Generator.Alongside ((itemParser abi).withHistory recordTaken)
    ((itemParser abi).withHistory recordTaken) Recodes SameRest := by
  refine ⟨fun h => h.live abi, fun {s t} h hl => ?_⟩
  refine (itemTurn_recoded h.parser h.left).map ?_
  rintro ⟨s', o⟩ ⟨t', o'⟩ ⟨⟨hparser, hleft⟩, ho⟩
  refine ⟨⟨hparser, hleft, h.recordTaken⟩, ?_⟩
  cases o with
  | none =>
      cases o' with
      | none => exact .none
      | some o' => cases ho
  | some o =>
      cases o' with
      | none => cases ho
      | some o' => exact .some ⟨Option.some.inj ho, h.recordTaken⟩

end Recodes

/-! ## Sizes and numbers of what was read -/

lemma itemSize_mem (item : UInt8) : itemSize item ∈ [0, 1, 2, 4] := by
  unfold itemSize
  split <;> decide

lemma latestData_length {e : Extent} : ∀ {items : List RawItem},
    (∀ i ∈ items, i.data.length = itemSize i.head) → (latestData e items).length ∈ [0, 1, 2, 4]
  | [], _ => by simp [latestData]
  | i :: items, h => by
      rw [latestData]
      split_ifs
      · rw [h i List.mem_cons_self]
        exact itemSize_mem i.head
      · exact latestData_length fun j hj => h j (List.mem_cons_of_mem i hj)

/-- Items that give the same numbers give them last. -/
lemma latestData_recoded {e : Extent} {items items' : List RawItem}
    (h : List.Forall₂ Recoded items items') :
    signedValue (latestData e items) = signedValue (latestData e items') := by
  induction h with
  | nil => rfl
  | @cons i j items items' hij _ ih =>
      rw [latestData, latestData]
      rcases hij with rfl | ⟨e', hi, hj, hsame⟩
      · split_ifs
        · rfl
        · exact ih
      · rw [hi, hj]
        split_ifs
        · exact hsame
        · exact ih

/-! ## Objects and numbers -/

section Objects

variable {w : LongWidth} {p q : HIDParser} {items items' : List WholeItem}

/-- The extent of an object is the latest number, unless its sign is not extended. -/
lemma extent_objectsRead {x : HIDData × List RawItem} (hx : x ∈ objectsRead (.little w true) p)
    (e : Extent) : x.1.extent e = signedValue (latestData e x.2) +
      if Unextended w (latestData e x.2) then 2 ^ 32 else 0 := by
  obtain ⟨s, hs, hextent⟩ := mem_objectsRead hx
  rw [hextent, hs.extent, formattedValue_eq w (latestData_length hs.size)]

/-- From items that give the same numbers come the same objects but for the extents. -/
lemma objectsRead_recoded {abi : Abi} (hp : p.Holds (wholeBytes items))
    (hq : q.Holds (wholeBytes items')) (hskips : ∀ i ∈ items, i.Skips abi)
    (hskips' : ∀ i ∈ items', i.Skips abi) (hstart : SameStart p q)
    (hsame : List.Forall₂ Recoded (items.map WholeItem.toRawItem)
      (items'.map WholeItem.toRawItem)) :
    List.Forall₂ SameRest (objectsRead abi p) (objectsRead abi q) := by
  rw [objectsRead_whole hp hskips, objectsRead_whole hq hskips']
  exact (recodes_alongside abi).all (Generator.withHistory_bounded (itemParser_bounded abi))
    (Generator.withHistory_bounded (itemParser_bounded abi))
    ⟨congrArg HIDParser.blank hstart, hsame, .nil⟩ (resetParser_ready p).bare
    (resetParser_ready q).bare

end Objects

/-- **An extent of an object is the number that the latest of its items encodes if and only if**
that is not a negative one of 4 bytes, read into a `long` of 64 bits.  From two descriptors that
encode the same numbers come the same objects, with the extents equal where both numbers are read
alike. -/
theorem extents_iff (w : LongWidth) {p : HIDParser} {items : List WholeItem}
    (hp : p.Holds (wholeBytes items)) (hcomplete : ∀ i ∈ items, i.Complete) :
    ((objectsRead (.little w true) p).map Prod.fst =
        (enumerate (.little w true) (resetParser p)).1 ∧
      ∀ x ∈ objectsRead (.little w true) p, x.2.reverse <+: items.map WholeItem.toRawItem ∧
        ∀ e, x.1.extent e = signedValue (latestData e x.2) ↔
          ¬ Unextended w (latestData e x.2)) ∧
    ∀ (q : HIDParser) (items' : List WholeItem), q.Holds (wholeBytes items') →
      (∀ i ∈ items', i.Complete) → SameStart p q → List.Forall₂ Recoded
        (items.map WholeItem.toRawItem) (items'.map WholeItem.toRawItem) →
      List.Forall₂ (fun x y => x.1.blank = y.1.blank ∧ ∀ e, x.1.extent e = y.1.extent e ↔
          (Unextended w (latestData e x.2) ↔ Unextended w (latestData e y.2)))
        (objectsRead (.little w true) p) (objectsRead (.little w true) q) := by
  have hload : (Abi.little w true).LoadsItems := .inl rfl
  have hskips : ∀ i ∈ items, i.Skips (.little w true) := fun i hi => (hcomplete i hi).skips hload
  refine ⟨⟨objectsRead_fst _ p, fun x hx => ⟨objectsRead_isPrefix hp hskips hx, fun e => ?_⟩⟩,
    fun q items' hq hcomplete' hstart hsame => ?_⟩
  · rw [extent_objectsRead hx]
    split_ifs with h
    · exact iff_of_false (by omega) (fun hnot => hnot h)
    · exact iff_of_true (by omega) h
  · obtain ⟨hlen, hpairs⟩ := List.forall₂_iff_zip.mp (objectsRead_recoded hp hq hskips
      (fun i hi => (hcomplete' i hi).skips hload) hstart hsame)
    refine List.forall₂_iff_zip.mpr ⟨hlen, fun {x y} hxy => ?_⟩
    obtain ⟨hx, hy⟩ := List.of_mem_zip hxy
    obtain ⟨hblank, hread⟩ := hpairs hxy
    refine ⟨hblank, fun e => ?_⟩
    rw [extent_objectsRead hx, extent_objectsRead hy, latestData_recoded hread]
    split_ifs with h h' h' <;> simp [h, h']

/-- A Logical Minimum of -1 in 4 bytes, and a Feature item. -/
def lowField : List WholeItem := [.plain 0x17 [0xFF, 0xFF, 0xFF, 0xFF], .plain 0xB1 [0x02]]

/-- `extents_iff` for a Logical Minimum of 4 bytes and a `long` of 32 bits. -/
theorem extents_iff_lowField : ∃ x ∈ objectsRead (.little .w32 true)
    (.holding (wholeBytes lowField)), x.1.logMin = signedValue (latestData .logMin x.2) := by
  have hsome : (objectsRead (.little .w32 true) (.holding (wholeBytes lowField))).isEmpty =
      false := by
    decide +kernel
  obtain ⟨x, hx⟩ := List.exists_mem_of_ne_nil _ (List.isEmpty_eq_false_iff.mp hsome)
  have hread := (extents_iff .w32 (holding_holds (by decide)) (by decide)).1.2 x hx
  exact ⟨x, hx, (hread.2 .logMin).mpr fun h => absurd h.1 (by decide)⟩

/-- Not every extent is the number encoded: with a `long` of 64 bits, -1 in 4 bytes becomes
`0xFFFFFFFF`. -/
theorem extents_fails : ¬ ∀ (w : LongWidth) (p : HIDParser) (items : List WholeItem),
    p.Holds (wholeBytes items) → (∀ i ∈ items, i.Complete) →
      ∀ x ∈ objectsRead (.little w true) p, ∀ e, x.1.extent e = signedValue (latestData e x.2) := by
  intro hall
  have hread : (objectsRead (.little .w64 true) (.holding (wholeBytes lowField))).all (fun x =>
      x.1.extent .logMin == signedValue (latestData .logMin x.2)) = false := by
    decide +kernel
  have hsame := hall .w64 (.holding (wholeBytes lowField)) lowField (holding_holds (by decide))
    (by decide)
  rw [List.all_eq_true.mpr fun x hx => by simpa using hsame x hx .logMin] at hread
  cases hread

end Libhid
