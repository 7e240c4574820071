import Libhid.Parser.Counting

/-!
# Descriptors of complete items

Where a descriptor consists of complete items, the parser may as well be fed with items:
`itemParser` runs the cases of the switch on a list of them, without a descriptor and a position in
it.  It goes in lockstep with the parser (`feeds_lockstep`), so that two descriptors can be compared
item by item (`enumerate_whole`).
-/

namespace Libhid

open Framework

/-! ## Complete items -/

/-- An item with all its data bytes, and the bytes that are skipped behind it. -/
structure WholeItem extends RawItem where
  skipped : List UInt8
  size : data.length = itemSize head

namespace WholeItem

/-- The bytes of an item. -/
def bytes (i : WholeItem) : List UInt8 := i.head :: (i.data ++ i.skipped)

/-- Behind a long item come as many bytes as its first data byte says. -/
def Complete (i : WholeItem) : Prop :=
  i.skipped.length = if i.tag = .long then leNat i.data % 256 else 0

instance (i : WholeItem) : Decidable i.Complete := inferInstanceAs (Decidable (_ = _))

/-- The parser skips these bytes. -/
def Skips (abi : Abi) (i : WholeItem) : Prop := i.skipped.length = longSkip abi i.head i.data

lemma data_length_le (i : WholeItem) : i.data.length ≤ 4 := by
  rw [i.size]
  exact itemSize_le i.head

/-- Where items are loaded, what is behind a complete item is skipped. -/
lemma Complete.skips {abi : Abi} {i : WholeItem} (h : i.Complete) (hload : abi.LoadsItems) :
    i.Skips abi := by
  rw [Skips, h, longSkip, uchar_load hload i.data_length_le]
  rfl

end WholeItem

/-- An item with nothing behind it. -/
def WholeItem.plain (head : UInt8) (data : List UInt8)
    (size : data.length = itemSize head := by decide) : WholeItem := ⟨⟨head, data⟩, [], size⟩

/-- The bytes of a descriptor. -/
def wholeBytes (items : List WholeItem) : List UInt8 := items.flatMap WholeItem.bytes

/-! ## The parser on items -/

/-- The parser without its descriptor, and between two items without the last one. -/
def HIDParser.bare (p : HIDParser) : HIDParser :=
  { p with
    reportDesc := Vector.replicate reportDscSize 0
    reportDescSize := 0
    pos := 0
    item := if p.count = 0 then 0 else p.item
    value := if p.count = 0 then 0 else p.value }

/-- The parser with an item. -/
def HIDParser.handed (p : HIDParser) (abi : Abi) (i : RawItem) : HIDParser :=
  { p with item := i.head, value := i.value abi }

/-- A turn of the loop on the items left: an item is taken unless a data item is pending. -/
def itemTurn (abi : Abi) (s : HIDParser × List RawItem) :
    Except Stop ((HIDParser × List RawItem) × Option HIDData) :=
  if s.1.count = 0 then
    match s.2 with
    | [] => .error .reportDesc
    | i :: items => (dispatch abi (s.1.handed abi i)).map fun x => ((x.1.bare, items), x.2)
  else (dispatch abi s.1).map fun x => ((x.1.bare, s.2), x.2)

/-- The loop of `HIDParse` on items.  It is over with the last one, pending or not. -/
def itemParser (abi : Abi) : Generator (HIDParser × List RawItem) HIDData Stop where
  live s := !s.2.isEmpty
  body := itemTurn abi
  μ s := 256 * s.2.length + s.1.count.toNat
  spent := .loops

section Turn

variable {abi : Abi} {p q : HIDParser} {i : RawItem} {items : List RawItem}

lemma itemTurn_handed (abi : Abi) (hc : p.count = 0) (i : RawItem) (items : List RawItem) :
    itemTurn abi (p, i :: items) =
      (dispatch abi (p.handed abi i)).map fun x => ((x.1.bare, items), x.2) := if_pos hc

lemma itemTurn_pending (abi : Abi) (hc : p.count ≠ 0) (items : List RawItem) :
    itemTurn abi (p, items) = (dispatch abi p).map fun x => ((x.1.bare, items), x.2) := if_neg hc

lemma HIDParser.Ready.bare (h : p.Ready) : p.bare.Ready := by
  rcases h with hc | hdata
  · exact .inl hc
  · by_cases hc : p.count = 0
    · exact .inl hc
    · refine .inr ?_
      show (Tag.ofItem (if p.count = 0 then 0 else p.item)).isData = true
      rwa [if_neg hc]

/-- **Every turn takes an item or a pending object.** -/
theorem itemParser_bounded (abi : Abi) : (itemParser abi).Bounded fun s => s.1.Ready := by
  refine ⟨?_⟩
  rintro ⟨p, items⟩ ⟨q, rest⟩ o hp hl hb
  have hb : itemTurn abi (p, items) = .ok ((q, rest), o) := hb
  show q.Ready ∧ 256 * rest.length + q.count.toNat < 256 * items.length + p.count.toNat
  by_cases hc : p.count = 0
  · cases items with
    | nil => cases hl
    | cons i items =>
        rw [itemTurn_handed abi hc, except_map_ok] at hb
        obtain ⟨⟨q, o⟩, hd, hsame⟩ := hb
        cases hsame
        have hlt := q.count.toNat_lt
        refine ⟨((dispatch_frame hd).ready (.inl hc)).bare, ?_⟩
        show 256 * rest.length + q.count.toNat < 256 * (rest.length + 1) + p.count.toNat
        omega
  · rw [itemTurn_pending abi hc, except_map_ok] at hb
    obtain ⟨⟨q, o⟩, hd, hsame⟩ := hb
    cases hsame
    obtain ⟨object, -, ⟨t⟩⟩ := pending_turn hp hc hd
    obtain ⟨-, -, -, -, -, -, -, hcount⟩ := t.frame
    rw [if_neg hc] at hcount
    have hpositive := toNat_ne_zero8.mp hc
    refine ⟨((dispatch_frame hd).ready hp).bare, ?_⟩
    show 256 * items.length + q.count.toNat < _
    rw [hcount, toNat_sub_one8 hpositive]
    omega

end Turn

/-! ## Single items -/

/-- The parser with another usage page. -/
def HIDParser.onPage (p : HIDParser) (u : UInt16) : HIDParser := { p with uPage := u }

lemma onPage_bare (p : HIDParser) (u : UInt16) : (p.onPage u).bare = p.bare.onPage u := rfl

/-- The parser with one more usage. -/
def HIDParser.stack (p : HIDParser) (node : HIDNode) (h : p.usageSize.toNat < usageTabSize) :
    HIDParser :=
  { p with usageTab := p.usageTab.set p.usageSize.toNat node h, usageSize := p.usageSize + 1 }

lemma stack_bare {p : HIDParser} (hbare : p.bare = p) (node : HIDNode)
    (h : p.usageSize.toNat < usageTabSize) : (p.stack node h).bare = p.stack node h :=
  congrArg (fun q : HIDParser => { q with
    usageTab := p.usageTab.set p.usageSize.toNat node h
    usageSize := p.usageSize + 1 }) hbare

section Single

variable {abi : Abi} {c : HIDParser} {i : RawItem} {items : List RawItem}

lemma bare_bare (p : HIDParser) : p.bare.bare = p.bare := by
  unfold HIDParser.bare
  dsimp only
  split_ifs <;> rfl

/-- The item between two items is no matter. -/
lemma handed_of_bare (abi : Abi) (hbare : c.bare = c) (hc : c.count = 0) (i : RawItem) :
    (c.handed abi i).bare = c := by
  have hsame : (c.handed abi i).bare = c.bare := by
    unfold HIDParser.handed HIDParser.bare
    dsimp only
    rw [if_pos hc, if_pos hc, if_pos hc, if_pos hc]
  rw [hsame, hbare]

/-- A long item, or one that is none of the parser's, changes nothing. -/
lemma itemTurn_ignored (hbare : c.bare = c) (hc : c.count = 0)
    (htag : i.tag = .long ∨ i.tag = .other) :
    itemTurn abi (c, i :: items) = .ok ((c, items), none) := by
  have hitem : Tag.ofItem (c.handed abi i).item = i.tag := rfl
  rw [itemTurn_handed abi hc, dispatch, hitem]
  rcases htag with htag | htag <;> rw [htag] <;>
    exact congrArg (fun q => Except.ok ((q, items), none)) (handed_of_bare abi hbare hc i)

/-- A Usage Page item sets the usage page. -/
lemma itemTurn_page (hbare : c.bare = c) (hc : c.count = 0) (htag : i.tag = .uPage) :
    itemTurn abi (c, i :: items) = .ok ((c.onPage (ushort (i.value abi)), items), none) := by
  have hitem : Tag.ofItem (c.handed abi i).item = i.tag := rfl
  have hsame := handed_of_bare abi hbare hc i
  rw [itemTurn_handed abi hc, dispatch, hitem, htag]
  exact congrArg (fun q : HIDParser =>
    Except.ok ((q.onPage (ushort (i.value abi)), items), none)) hsame

/-- A Usage item stacks a usage, if the table has room. -/
lemma itemTurn_usage (hbare : c.bare = c) (hc : c.count = 0) (htag : i.tag = .usage) :
    itemTurn abi (c, i :: items) = if h : c.usageSize.toNat < usageTabSize then
      .ok ((c.stack (usageNode (c.handed abi i)) h, items), none) else .error .usageTab := by
  have hsame := handed_of_bare abi hbare hc i
  rw [itemTurn_handed abi hc, dispatch_usage (p := c.handed abi i) htag, pushUsage]
  by_cases hroom : c.usageSize.toNat < usageTabSize
  · rw [dif_pos (show (c.handed abi i).usageSize.toNat < usageTabSize from hroom), dif_pos hroom]
    exact congrArg (fun q : HIDParser => Except.ok (({ q with
      usageTab := c.usageTab.set c.usageSize.toNat (usageNode (c.handed abi i)) hroom
      usageSize := c.usageSize + 1 }, items), none)) hsame
  · rw [dif_neg (show ¬ (c.handed abi i).usageSize.toNat < usageTabSize from hroom), dif_neg hroom]
    rfl

end Single

/-! ## The parser is fed with the items of its descriptor -/

/-- The parser on items is where the parser is, and has the items left of the descriptor. -/
structure Feeds (abi : Abi) (bytes : List UInt8) (p : HIDParser) (s : HIDParser × List RawItem) :
    Prop where
  holds : p.Holds bytes
  ready : p.Ready
  bare : s.1 = p.bare
  items : ∃ items : List WholeItem, s.2 = items.map WholeItem.toRawItem ∧
    p.remaining bytes = wholeBytes items ∧ ∀ i ∈ items, i.Skips abi

section Feeds

variable {abi : Abi} {bytes rest : List UInt8} {p q : HIDParser} {s : HIDParser × List RawItem}

lemma Feeds.live (h : Feeds abi bytes p s) : p.live = (itemParser abi).live s := by
  obtain ⟨items, hitems, hrem, -⟩ := h.items
  show p.live = !s.2.isEmpty
  rw [hitems]
  cases items with
  | nil => exact not_live_of_remaining h.holds hrem
  | cons i items =>
      apply live_of_remaining h.holds
      rw [hrem]
      simp [wholeBytes, WholeItem.bytes]

/-- The next item of a descriptor of complete items. -/
lemma nextRaw_whole (h : p.Holds bytes) (hc : p.count = 0) {i : WholeItem}
    (hrem : p.remaining bytes = i.bytes ++ rest) : p.nextRaw = some i.toRawItem := by
  have hcons : p.remaining bytes = i.head :: (i.data ++ (i.skipped ++ rest)) := by
    rw [hrem, WholeItem.bytes, List.cons_append, List.append_assoc]
  obtain ⟨hfit, hbytes, -⟩ := fetched_complete (.little .w64 true) h hcons i.size
  have hfetch : fetchItem (.little .w64 true) p = _ := fetchItem_holds h hcons
  rw [if_pos (Nat.le_trans hfit h.length_le)] at hfetch
  obtain ⟨⟨head, data⟩, hj, hsame⟩ := fetchItem_eq_ok hc hfetch
  obtain rfl : head = i.head := (congrArg HIDParser.item hsame).symm
  obtain ⟨-, -, -, -, hdata⟩ := nextRaw_eq_some hj
  rw [show data = i.data from hdata.trans hbytes] at hj
  exact hj

/-- The cases of the switch do the same without a descriptor. -/
lemma dispatch_bare (abi : Abi) (r : HIDParser) :
    OutcomeRel (fun x y => y.1.bare = x.1.bare ∧ x.2 = y.2) (dispatch abi r)
      (dispatch abi
        (r.elsewhere r.uPage r.reportCount (Vector.replicate reportDscSize 0) 0 0)) := by
  refine (dispatch_moved abi r _ 0 0).imp ?_
  rintro ⟨q, o⟩ y - - ⟨pos, rfl⟩
  exact ⟨rfl, rfl⟩

/-- What is left of a descriptor after a turn. -/
lemma remaining_advance (hready : p.Ready) {o : Option HIDData}
    (hb : parseTurn abi p = .ok (q, o)) :
    q.remaining bytes = (p.remaining bytes).drop (p.advance abi) := by
  rw [HIDParser.remaining, HIDParser.remaining, List.drop_drop, parseTurn_pos hready hb]

/-- The rest of a descriptor behind a complete item. -/
lemma drop_advance {i : WholeItem} (hi : p.nextRaw = some i.toRawItem) (hskip : i.Skips abi) :
    (i.bytes ++ rest).drop (p.advance abi) = rest := by
  have hlen : i.bytes.length = p.advance abi := by
    rw [HIDParser.advance, hi, WholeItem.bytes, List.length_cons, List.length_append, i.size, hskip]
    show _ = 1 + itemSize i.head + longSkip abi i.head i.data
    omega
  rw [← hlen, List.drop_left]

/-- **A turn of the parser is a turn on its items.** -/
lemma Feeds.turn (h : Feeds abi bytes p s) (hl : p.live = true) :
    OutcomeRel (fun x y => Feeds abi bytes x.1 y.1 ∧ x.2 = y.2) (parseTurn abi p)
      (itemTurn abi s) := by
  obtain ⟨p', raw⟩ := s
  obtain ⟨items, hitems, hrem, hskips⟩ := h.items
  obtain rfl : p' = p.bare := h.bare
  obtain rfl : raw = items.map WholeItem.toRawItem := hitems
  by_cases hc : p.count = 0
  · cases items with
    | nil =>
        rw [not_live_of_remaining h.holds hrem] at hl
        cases hl
    | cons i items =>
        have hi : p.nextRaw = some i.toRawItem := nextRaw_whole h.holds hc hrem
        rw [parseTurn_taking abi hi, List.map_cons,
          itemTurn_handed abi (show p.bare.count = 0 from hc)]
        refine (dispatch_bare abi (p.taking abi i.toRawItem)).imp_map ?_
        rintro ⟨q, o⟩ ⟨q', o'⟩ hq - ⟨hbare, rfl⟩
        have hb := (parseTurn_taking abi hi).trans hq
        refine ⟨⟨parseTurn_holds h.holds hb, (parseTurn_bounded h.ready hl hb).1, hbare, items, rfl,
          ?_, fun j hj => hskips j (List.mem_cons_of_mem _ hj)⟩, rfl⟩
        rw [remaining_advance h.ready hb, hrem]
        exact drop_advance hi (hskips i List.mem_cons_self)
  · have hsame : p.bare =
        p.elsewhere p.uPage p.reportCount (Vector.replicate reportDscSize 0) 0 0 := by
      rw [HIDParser.bare, if_neg hc, if_neg hc]
    rw [parseTurn_pending abi hc, itemTurn_pending abi (show p.bare.count ≠ 0 from hc), hsame]
    refine (dispatch_bare abi p).imp_map ?_
    rintro ⟨q, o⟩ ⟨q', o'⟩ hq - ⟨hbare, rfl⟩
    have hb := (parseTurn_pending abi hc).trans hq
    refine ⟨⟨parseTurn_holds h.holds hb, (parseTurn_bounded h.ready hl hb).1, hbare, items, rfl,
      ?_, hskips⟩, rfl⟩
    rw [remaining_advance h.ready hb, HIDParser.advance, nextRaw_pending hc]
    exact hrem

lemma feeds_lockstep (abi : Abi) (bytes : List UInt8) :
    Generator.Lockstep (parser abi) (itemParser abi) (Feeds abi bytes) :=
  ⟨fun h => h.live, fun h hl => h.turn hl⟩

lemma feeds_resetParser {items : List WholeItem} (hp : p.Holds (wholeBytes items))
    (hskips : ∀ i ∈ items, i.Skips abi) : Feeds abi (wholeBytes items) (resetParser p)
      ((resetParser p).bare, items.map WholeItem.toRawItem) :=
  ⟨⟨hp.size, hp.desc⟩, resetParser_ready p, rfl, items, rfl, rfl, hskips⟩

/-- **What the parser delivers of a descriptor is what it delivers fed with the items.** -/
theorem enumerate_whole {items : List WholeItem} (hp : p.Holds (wholeBytes items))
    (hskips : ∀ i ∈ items, i.Skips abi) : (enumerate abi (resetParser p)).1 =
      ((itemParser abi).all ((resetParser p).bare, items.map WholeItem.toRawItem)).1 :=
  ((feeds_lockstep abi _).all (parser_bounded abi) (itemParser_bounded abi)
    (feeds_resetParser hp hskips) (resetParser_ready p) (resetParser_ready p).bare).1

end Feeds

/-! ## Two descriptors -/

/-- After `ResetParser`, the parsers differ in their descriptors only. -/
def SameStart (p s : HIDParser) : Prop := (resetParser p).bare = (resetParser s).bare

/-- The parser with another descriptor. -/
def HIDParser.given (s : HIDParser) (bytes : List UInt8) : HIDParser :=
  { s with
    reportDesc := (HIDParser.holding bytes).reportDesc
    reportDescSize := (HIDParser.holding bytes).reportDescSize }

lemma given_holds (s : HIDParser) {bytes : List UInt8} (h : bytes.length ≤ reportDscSize) :
    (s.given bytes).Holds bytes :=
  ⟨(holding_holds h).size, (holding_holds h).desc⟩

lemma given_sameStart (s : HIDParser) (bytes : List UInt8) : SameStart (s.given bytes) s := rfl

/-- **A simulation on the items of two descriptors makes their objects the same.** -/
theorem objects_eq {abi : Abi} {p q s : HIDParser} {whole whole' : List WholeItem}
    {R : HIDParser × List RawItem → HIDParser × List RawItem → Prop}
    (hst : Generator.Stutters (itemParser abi) (itemParser abi) R)
    (hp : p.Holds (wholeBytes whole)) (hq : q.Holds (wholeBytes whole')) (hsp : SameStart p s)
    (hsq : SameStart q s) (hskips : ∀ i ∈ whole, i.Skips abi)
    (hskips' : ∀ i ∈ whole', i.Skips abi)
    (hR : R ((resetParser s).bare, whole.map WholeItem.toRawItem)
      ((resetParser s).bare, whole'.map WholeItem.toRawItem)) :
    (enumerate abi (resetParser p)).1 = (enumerate abi (resetParser q)).1 := by
  have hready : (resetParser s).bare.Ready := (resetParser_ready s).bare
  have hall := (hst.all (itemParser_bounded abi) (itemParser_bounded abi) hR hready hready).1
  rw [enumerate_whole hp hskips, enumerate_whole hq hskips', hsp, hsq, hall]

end Libhid
