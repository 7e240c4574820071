import Libhid.Parser.Holding

/-!
# Enumerating a descriptor again

`ResetParser` leaves the usage page, the report count, the current item and the buffer behind the
descriptor as they are.  `Settled` says of a descriptor that it reads none of them before it sets
it; two parsers that hold such a descriptor then run in lockstep (`alike_lockstep`), whatever was
parsed with them before.
-/

namespace Libhid

open Framework

/-! ## Settled descriptors -/

/-- An object as its users see it: the nodes of its path, and its other fields. -/
def HIDData.visible (o : HIDData) : List HIDNode × HIDData :=
  (o.path.nodes, { o with path := ⟨o.path.size, HIDData.zero.path.node⟩ })

/-- Every two parsers that hold the descriptor deliver the same objects and answer a query alike,
and asking one parser again gives the same answer. -/
structure Repeatable (abi : Abi) (bytes : List UInt8) : Prop where
  objects : ∀ p p' : HIDParser, p.Holds bytes → p'.Holds bytes →
    (enumerate abi (resetParser p)).1.map HIDData.visible =
      (enumerate abi (resetParser p')).1.map HIDData.visible
  answers : ∀ (p p' : HIDParser) (query : HIDData), p.Holds bytes → p'.Holds bytes →
    Generator.answer (findObject abi p query) = Generator.answer (findObject abi p' query)
  again : ∀ (p q : HIDParser) (query : HIDData) (o : Option HIDData), p.Holds bytes →
    findObject abi p query = .ok (q, o) → Generator.answer (findObject abi q query) = .ok o

/-- The number of bytes a long item skips behind its data. -/
def longSkip (abi : Abi) (b : UInt8) (data : List UInt8) : ℕ :=
  if Tag.ofItem b = .long then (uchar (abi.load data)).toNat else 0

/-- The items of a descriptor read the usage page and the report count only after they were set,
`page` and `count` telling what was set before, and no item that counts is cut off. -/
inductive Settled (abi : Abi) : Bool → Bool → List UInt8 → Prop
  | nil {page count : Bool} : Settled abi page count []
  | cut {page count : Bool} {b : UInt8} {rest : List UInt8} (hlen : rest.length < itemSize b)
      (htag : (Tag.ofItem b).isData = false ∧ Tag.ofItem b ≠ .collection) :
      Settled abi page count (b :: rest)
  | item {page count : Bool} {b : UInt8} {rest : List UInt8} (data : List UInt8)
      (hlen : data.length = itemSize b)
      (husage : Tag.ofItem b = .usage → itemSize b < 4 → page = true)
      (hdata : (Tag.ofItem b).isData = true → count = true)
      (next : Settled abi (page || Tag.ofItem b == .uPage) (count || Tag.ofItem b == .repCount)
        (rest.drop (longSkip abi b data))) :
      Settled abi page count (b :: (data ++ rest))

/-! ## What the cases of the switch read -/

/-- The parser with the fields `ResetParser` leaves behind replaced, but for the item. -/
abbrev HIDParser.leftover (p : HIDParser) (uPage : UInt16) (reportCount : UInt8)
    (desc : Vector UInt8 reportDscSize) : HIDParser :=
  { p with uPage := uPage, reportCount := reportCount, reportDesc := desc }

/-- The parser with everything replaced that the cases of the switch read for certain items only, or
not at all. -/
abbrev HIDParser.elsewhere (p : HIDParser) (uPage : UInt16) (reportCount : UInt8)
    (desc : Vector UInt8 reportDscSize) (size pos : UInt16) : HIDParser :=
  { p.leftover uPage reportCount desc with reportDescSize := size, pos := pos }

section Reads

variable {abi : Abi} {p : HIDParser} {u : UInt16} {c : UInt8} {desc : Vector UInt8 reportDscSize}
  {size pos : UInt16}

lemma dataItem_elsewhere (hc : p.count = 0 → c = p.reportCount) :
    OutcomeRel (fun x y => y = (x.1.elsewhere u c desc size pos, x.2)) (dataItem p)
      (dataItem (p.elsewhere u c desc size pos)) := by
  simp only [dataItem, HIDParser.firstUsage]
  apply OutcomeRel.bind_same
  intro path
  apply OutcomeRel.bind_same
  rintro ⟨tab, n⟩
  apply OutcomeRel.bind_same
  rintro ⟨row, rows, k⟩
  apply OutcomeRel.bind_same
  rintro ⟨row', rows', k'⟩
  apply OutcomeRel.ok
  dsimp only
  by_cases h0 : p.count = 0
  · obtain rfl := hc h0
    simp only [if_pos h0]
    split_ifs <;> rfl
  · simp only [if_neg h0]
    split_ifs <;> rfl

lemma itemSize_lt {item : UInt8} (h : ¬ item &&& sizeMask > 2) : itemSize item < 4 := by
  have hle : (item &&& sizeMask).toNat ≤ 2 := by
    simpa [UInt8.lt_iff_toNat_lt] using h
  unfold itemSize
  generalize (item &&& sizeMask).toNat = n at hle
  match n, hle with
  | 0, _ | 1, _ | 2, _ => decide

lemma pushUsage_elsewhere (hu : itemSize p.item < 4 → u = p.uPage) :
    OutcomeRel (fun x y => y = x.elsewhere u c desc size pos) (pushUsage p)
      (pushUsage (p.elsewhere u c desc size pos)) := by
  have hnode : usageNode (p.elsewhere u c desc size pos) = usageNode p := by
    unfold usageNode HIDParser.elsewhere HIDParser.leftover
    dsimp only
    split_ifs with hsize
    · rfl
    · rw [hu (itemSize_lt hsize)]
  unfold pushUsage
  rw [hnode]
  dsimp only [HIDParser.elsewhere, HIDParser.leftover]
  split_ifs
  · exact .ok rfl
  · exact .error _

lemma openCollection_elsewhere :
    OutcomeRel (fun x y => y = x.elsewhere u c desc size pos) (openCollection p)
      (openCollection (p.elsewhere u c desc size pos)) := by
  simp only [openCollection, HIDParser.elsewhere, HIDParser.firstUsage]
  apply OutcomeRel.bind_same
  intro path
  apply OutcomeRel.bind_same
  rintro ⟨tab, n⟩
  apply OutcomeRel.bind_same
  intro path'
  exact .ok rfl

lemma closeCollection_elsewhere :
    OutcomeRel (fun x y => y = x.elsewhere u c desc size pos) (closeCollection p)
      (closeCollection (p.elsewhere u c desc size pos)) := by
  unfold closeCollection
  dsimp only [HIDParser.elsewhere, HIDParser.leftover]
  split_ifs
  · exact .ok rfl
  · exact .ok rfl
  · exact .error _

/-- A case of the switch reads the usage page for a short usage only, the report count for the first
object of a data item only, and the descriptor not at all. -/
lemma dispatch_elsewhere (hu : Tag.ofItem p.item = .usage → itemSize p.item < 4 → u = p.uPage)
    (hc : (Tag.ofItem p.item).isData = true → p.count = 0 → c = p.reportCount) :
    OutcomeRel (fun x y => y.2 = x.2 ∧ ∃ u' c' pos', y.1 = x.1.elsewhere u' c' desc size pos')
      (dispatch abi p) (dispatch abi (p.elsewhere u c desc size pos)) := by
  unfold dispatch
  rw [show (p.elsewhere u c desc size pos).item = p.item from rfl]
  cases htag : Tag.ofItem p.item <;> rw [htag] at hu hc
  case feature | input | output =>
    apply (dataItem_elsewhere (hc rfl)).map
    intro x y hxy
    subst hxy
    exact ⟨rfl, u, c, pos, rfl⟩
  case usage =>
    apply (pushUsage_elsewhere (hu rfl)).map
    intro x y hxy
    subst hxy
    exact ⟨rfl, u, c, pos, rfl⟩
  case collection =>
    apply openCollection_elsewhere.map
    intro x y hxy
    subst hxy
    exact ⟨rfl, u, c, pos, rfl⟩
  case endCollection =>
    apply closeCollection_elsewhere.map
    intro x y hxy
    subst hxy
    exact ⟨rfl, u, c, pos, rfl⟩
  case uPage => exact .ok ⟨rfl, ushort p.value, c, pos, rfl⟩
  case repCount => exact .ok ⟨rfl, u, uchar p.value, pos, rfl⟩
  case long => exact .ok ⟨rfl, u, c, pos + (uchar p.value).toUInt16, rfl⟩
  all_goals exact .ok ⟨rfl, u, c, pos, rfl⟩

/-- At the same place the parsers stay at the same place. -/
lemma dispatch_leftover (hu : Tag.ofItem p.item = .usage → itemSize p.item < 4 → u = p.uPage)
    (hc : (Tag.ofItem p.item).isData = true → p.count = 0 → c = p.reportCount) :
    OutcomeRel (fun x y => y.2 = x.2 ∧ ∃ u' c', y.1 = x.1.leftover u' c' desc) (dispatch abi p)
      (dispatch abi (p.leftover u c desc)) := by
  have hrel : OutcomeRel
      (fun x y => y.2 = x.2 ∧ ∃ u' c' pos', y.1 = x.1.elsewhere u' c' desc p.reportDescSize pos')
      (dispatch abi p) (dispatch abi (p.elsewhere u c desc p.reportDescSize p.pos)) :=
    dispatch_elsewhere hu hc
  refine hrel.imp ?_
  rintro ⟨q, o⟩ ⟨q', o'⟩ hq hq' ⟨ho, u', c', pos', hmoved⟩
  have hf := dispatch_frame hq
  have hf' := dispatch_frame hq'
  have hpos : pos' = q.pos := by
    have hsame := hf'.pos
    rw [show q'.pos = pos' from congrArg HIDParser.pos hmoved] at hsame
    exact hsame.trans hf.pos.symm
  refine ⟨ho, u', c', hmoved.trans ?_⟩
  rw [hpos, ← hf.reportDescSize]

/-- A case of the switch does not depend on the descriptor, nor on where in it the parser is. -/
lemma dispatch_moved (abi : Abi) (p : HIDParser) (desc : Vector UInt8 reportDscSize)
    (size pos : UInt16) :
    OutcomeRel (fun x y =>
        ∃ pos', y = (x.1.elsewhere x.1.uPage x.1.reportCount desc size pos', x.2))
      (dispatch abi p) (dispatch abi (p.elsewhere p.uPage p.reportCount desc size pos)) := by
  refine (dispatch_elsewhere (fun _ _ => rfl) fun _ _ => rfl).imp ?_
  rintro ⟨q, o⟩ ⟨q', o'⟩ hq hq' ⟨ho, u, c, pos', hmoved⟩
  dsimp only at ho hmoved
  subst ho hmoved
  -- both parsers begin with the same page and the same count
  have hf := dispatch_frame hq
  have hf' := dispatch_frame hq'
  have hpage : u = q.uPage := hf'.uPage.trans hf.uPage.symm
  have hcount : c = q.reportCount := hf'.reportCount.trans hf.reportCount.symm
  refine ⟨pos', ?_⟩
  rw [hpage, hcount]

/-- A case of the switch that neither delivers an object nor opens a collection fails or not
whatever the value of its item is. -/
lemma dispatch_valueless (p : HIDParser) (u : UInt16) (c : UInt8)
    (desc : Vector UInt8 reportDscSize) {v : ℤ} (hdata : (Tag.ofItem p.item).isData = false)
    (hcoll : Tag.ofItem p.item ≠ .collection) :
    OutcomeRel (fun x y => x.2 = y.2) (dispatch abi p)
      (dispatch abi { p.leftover u c desc with value := v }) := by
  unfold dispatch
  rw [show ({ p.leftover u c desc with value := v } : HIDParser).item = p.item from rfl]
  cases htag : Tag.ofItem p.item <;> rw [htag] at hdata hcoll
  case feature | input | output => cases hdata
  case collection => exact absurd rfl hcoll
  case usage =>
    unfold pushUsage
    dsimp only
    split_ifs
    · exact .ok rfl
    · exact .error _
  case endCollection =>
    unfold closeCollection
    dsimp only
    split_ifs
    · exact .ok rfl
    · exact .ok rfl
    · exact .error _
  all_goals exact .ok rfl

end Reads

/-! ## Runs side by side -/

/-- Two parsers that hold a descriptor and differ at most in what `ResetParser` leaves behind, the
rest of the descriptor being settled. -/
structure Aligned (abi : Abi) (bytes : List UInt8) (page count : Bool) (p p' : HIDParser) :
    Prop where
  holds : p.Holds bytes
  holds' : p'.Holds bytes
  same : p' = { p with
    item := p'.item
    value := p'.value
    uPage := p'.uPage
    reportCount := p'.reportCount
    reportDesc := p'.reportDesc }
  pending : p.count ≠ 0 → p'.item = p.item ∧ p'.value = p.value
  ready : p.Ready
  uPage : page = true → p'.uPage = p.uPage
  reportCount : count = true → p'.reportCount = p.reportCount
  settled : Settled abi page count (p.remaining bytes)

/-- Both parsers are at the end, or they are aligned. -/
def Alike (abi : Abi) (bytes : List UInt8) (p p' : HIDParser) : Prop :=
  (p.live = false ∧ p'.live = false) ∨ ∃ page count, Aligned abi bytes page count p p'

section Runs

variable {abi : Abi} {bytes : List UInt8} {p p' q : HIDParser}

/-- The number of bytes the current item skips. -/
def HIDParser.skip (p : HIDParser) : ℕ :=
  if Tag.ofItem p.item = .long then (uchar p.value).toNat else 0

/-- The cases of the switch keep parsers aligned that have fetched the same item. -/
lemma aligned_dispatch {page count : Bool} {u : UInt16} {c : UInt8}
    {desc : Vector UInt8 reportDscSize} (hp : p.Holds bytes)
    (hp' : (p.leftover u c desc).Holds bytes)
    (hpos : p.pos.toNat ≤ reportDscSize) (hready : p.Ready) (hu : page = true → u = p.uPage)
    (hc : count = true → c = p.reportCount)
    (husage : Tag.ofItem p.item = .usage → itemSize p.item < 4 → page = true)
    (hdata : (Tag.ofItem p.item).isData = true → p.count = 0 → count = true)
    (hset : Settled abi (page || Tag.ofItem p.item == .uPage)
      (count || Tag.ofItem p.item == .repCount) (bytes.drop (p.pos.toNat + p.skip))) :
    OutcomeRel (fun x y => Alike abi bytes x.1 y.1 ∧ x.2 = y.2) (dispatch abi p)
      (dispatch abi (p.leftover u c desc)) := by
  refine (dispatch_leftover (fun ht hs => hu (husage ht hs))
    (fun ht h0 => hc (hdata ht h0))).imp ?_
  rintro ⟨q, o⟩ ⟨q', o'⟩ hq hq' ⟨ho, u', c', hleft⟩
  dsimp only at ho hleft
  subst ho hleft
  have hf := dispatch_frame hq
  have hf' := dispatch_frame hq'
  refine ⟨.inr ⟨page || Tag.ofItem p.item == .uPage, count || Tag.ofItem p.item == .repCount,
    hf.holds hp, hf'.holds hp', rfl, fun _ => ⟨rfl, rfl⟩, hf.ready hready, fun ht => ?_,
    fun ht => ?_, ?_⟩, rfl⟩
  · rw [hf'.uPage, hf.uPage]
    dsimp only
    split_ifs with htag
    · rfl
    · apply hu
      simpa [htag] using ht
  · rw [hf'.reportCount, hf.reportCount]
    dsimp only
    split_ifs with htag
    · rfl
    · apply hc
      simpa [htag] using ht
  · have hq : q.pos.toNat = p.pos.toNat + p.skip := by
      rw [hf.pos, HIDParser.skip]
      split_ifs
      · have hlen := uchar_toUInt16_toNat_lt p.value
        have hroom : reportDscSize = 6144 := rfl
        rw [toNat_add16 (by omega)]
        simp
      · rfl
    rw [HIDParser.remaining, hq]
    exact hset

/-- **One turn keeps the parsers alike, and delivers the same object.** -/
lemma Aligned.turn {page count : Bool} (h : Aligned abi bytes page count p p')
    (hl : p.live = true) : OutcomeRel (fun x y => Alike abi bytes x.1 y.1 ∧ x.2 = y.2)
      (parseTurn abi p) (parseTurn abi p') := by
  obtain ⟨hp, hp', hsame, hpend, hready, hu, hc, hset⟩ := h
  obtain ⟨i, v, u, c, d, rfl⟩ : ∃ i v u c d, p' = { p with
      item := i
      value := v
      uPage := u
      reportCount := c
      reportDesc := d } := ⟨_, _, _, _, _, hsame⟩
  have hlt : p.pos.toNat < bytes.length := by
    rw [← hp.size]
    simpa [HIDParser.live, UInt16.lt_iff_toNat_lt] using hl
  have hle := hp.length_le
  unfold parseTurn nextItem
  by_cases hcount : p.count = 0
  · rw [if_pos hcount, if_pos hcount]
    generalize hrem : p.remaining bytes = rem at hset
    have hdrop : bytes.drop p.pos.toNat = rem := hrem
    have hlen : rem.length = bytes.length - p.pos.toNat := by rw [← hdrop, List.length_drop]
    cases hset with
    | nil =>
        simp at hlen
        omega
    | @cut _ _ b rest hcut htag =>
        rw [fetchItem_holds hp hrem, fetchItem_holds hp' hrem]
        split_ifs with hroom
        · rw [except_ok_bind, except_ok_bind]
          apply (dispatch_valueless (p.fetched abi b) u c d htag.1 htag.2).imp
          rintro ⟨q, o⟩ ⟨q', o'⟩ hq hq' rfl
          -- the item went past the end of the descriptor
          have hpast : p.reportDescSize.toNat ≤ (p.fetched abi b).pos.toNat := by
            rw [fetched_pos hroom, hp.size]
            rw [List.length_cons] at hlen
            omega
          have hpos : (p.fetched abi b).pos.toNat ≤ reportDscSize := by
            rw [fetched_pos hroom]
            exact hroom
          exact ⟨.inl ⟨(dispatch_frame hq).ended hpast hpos,
            (dispatch_frame hq').ended hpast hpos⟩, rfl⟩
        · exact .error _
    | @item _ _ b rest data hdl husage hdata next =>
        rw [fetchItem_holds hp hrem, fetchItem_holds hp' hrem]
        split_ifs with hroom
        · rw [except_ok_bind, except_ok_bind]
          -- the data bytes are inside the descriptor, and the same in both parsers
          obtain ⟨-, hbytes, hnext⟩ := fetched_complete abi hp hrem hdl
          obtain ⟨-, hbytes', -⟩ := fetched_complete abi hp' hrem hdl
          have hsame : HIDParser.fetched { p with
              item := i
              value := v
              uPage := u
              reportCount := c
              reportDesc := d } abi b = (p.fetched abi b).leftover u c d := by
            simp only [HIDParser.fetched, hbytes, hbytes']
          rw [hsame]
          refine aligned_dispatch ⟨hp.size, hp.desc⟩ ⟨hp'.size, hp'.desc⟩
            (by rw [fetched_pos hroom]; exact hroom) (.inl hcount) hu hc husage
            (fun hd _ => hdata hd) ?_
          have hvalue : (p.fetched abi b).value = abi.load data := by
            rw [HIDParser.fetched, hbytes]
          have hrest : bytes.drop (p.fetched abi b).pos.toNat = rest := hnext
          rw [← List.drop_drop, hrest, HIDParser.skip, hvalue]
          exact next
        · exact .error _
  · rw [if_neg hcount, if_neg hcount, except_ok_bind, except_ok_bind]
    obtain ⟨rfl, rfl⟩ := hpend hcount
    -- a pending item is a data item
    have hne : ∀ t : Tag, t.isData = false → Tag.ofItem p.item ≠ t :=
      fun _ ht => hready.tag_ne hcount ht
    refine aligned_dispatch hp hp' (by omega) hready hu hc (fun ht => absurd ht (hne .usage rfl))
      (fun _ h0 => absurd h0 hcount) ?_
    rw [HIDParser.skip, if_neg (hne .long rfl), beq_false_of_ne (hne .uPage rfl),
      beq_false_of_ne (hne .repCount rfl), Bool.or_false, Bool.or_false]
    exact hset

lemma Alike.live (h : Alike abi bytes p p') : p.live = p'.live := by
  rcases h with ⟨h, h'⟩ | ⟨page, count, h⟩
  · rw [h, h']
  · exact (congrArg HIDParser.live h.same).symm

/-- Parsers that are alike run in lockstep. -/
lemma alike_lockstep (abi : Abi) (bytes : List UInt8) :
    Generator.Lockstep (parser abi) (parser abi) (Alike abi bytes) := by
  refine ⟨fun h => h.live, fun h hl => ?_⟩
  rcases h with ⟨h, -⟩ | ⟨page, count, h⟩
  · rw [show (parser abi).live _ = HIDParser.live _ from rfl, h] at hl
    cases hl
  · exact h.turn hl

/-- After `ResetParser` all parsers that hold a settled descriptor are alike. -/
lemma alike_resetParser (hset : Settled abi false false bytes) (hp : p.Holds bytes)
    (hp' : p'.Holds bytes) : Alike abi bytes (resetParser p) (resetParser p') := by
  have hsize : p'.reportDescSize = p.reportDescSize :=
    UInt16.toNat_inj.mp (hp'.size.trans hp.size.symm)
  refine .inr ⟨false, false, ⟨hp.size, hp.desc⟩, ⟨hp'.size, hp'.desc⟩, ?_, fun h => absurd rfl h,
    resetParser_ready p, (fun h => nomatch h), (fun h => nomatch h), hset⟩
  simp [resetParser, hsize]

/-- **A descriptor that sets what it reads is enumerated and searched alike by every parser that
holds it.** -/
theorem repeatable_of_settled (h : Settled abi false false bytes) : Repeatable abi bytes := by
  have hanswer : ∀ (p p' : HIDParser) (query : HIDData), p.Holds bytes → p'.Holds bytes →
      Generator.answer (findObject abi p query) = Generator.answer (findObject abi p' query) := by
    intro p p' query hp hp'
    exact (alike_lockstep abi bytes).find (parser_bounded abi) (parser_bounded abi)
      (matchesQuery query) (alike_resetParser h hp hp') (resetParser_ready p) (resetParser_ready p')
  refine ⟨fun p p' hp hp' => ?_, hanswer, fun p q query o hp hq => ?_⟩
  · have hall := (alike_lockstep abi bytes).all (parser_bounded abi) (parser_bounded abi)
      (alike_resetParser h hp hp') (resetParser_ready p) (resetParser_ready p')
    exact congrArg (List.map HIDData.visible) hall.1
  · rw [← hanswer p q query hp (findObject_holds hp hq), hq]
    rfl

end Runs

/-- A descriptor whose one field follows Usage Page and Report Count. -/
theorem repeatable_of_settled_field : Repeatable (.little .w64 true)
    [0x05, 0x01, 0x09, 0x01, 0xA1, 0x01, 0x75, 0x08, 0x95, 0x01, 0x09, 0x02, 0xB1, 0x02, 0xC0] :=
  repeatable_of_settled <|
    .item [0x01] rfl (by decide) (by decide) <| .item [0x01] rfl (by decide) (by decide) <|
    .item [0x01] rfl (by decide) (by decide) <| .item [0x08] rfl (by decide) (by decide) <|
    .item [0x01] rfl (by decide) (by decide) <| .item [0x02] rfl (by decide) (by decide) <|
    .item [0x02] rfl (by decide) (by decide) <| .item [] rfl (by decide) (by decide) .nil

/-- A descriptor that sets its usage page after the usage of its collection. -/
def latePage : List UInt8 :=
  [0x09, 0x01, 0xA1, 0x01, 0x05, 0x0C, 0x75, 0x08, 0x95, 0x01, 0x09, 0x02, 0xB1, 0x02, 0xC0]

/-- Not every descriptor is enumerated alike again: the second time, the usage page that the first
enumeration ended with is the one of the collection. -/
theorem repeatable_fails : ¬ ∀ (abi : Abi) (bytes : List UInt8), Repeatable abi bytes := by
  intro hall
  have hp : HIDParser.Holds (.holding latePage) latePage := holding_holds (by decide)
  have hp' : HIDParser.Holds { HIDParser.holding latePage with uPage := 0x0C } latePage :=
    ⟨hp.size, hp.desc⟩
  have hsame := (hall (.little .w64 true) latePage).objects _ _ hp hp'
  have hpaths := congrArg (List.map Prod.fst) hsame
  simp only [List.map_map] at hpaths
  have hdiff : ((enumerate (.little .w64 true) (resetParser (.holding latePage))).1.map
      (Prod.fst ∘ HIDData.visible) != (enumerate (.little .w64 true) (resetParser
        { HIDParser.holding latePage with uPage := 0x0C })).1.map
      (Prod.fst ∘ HIDData.visible)) = true := by
    decide +kernel
  rw [bne_iff_ne] at hdiff
  exact hdiff hpaths

end Libhid
