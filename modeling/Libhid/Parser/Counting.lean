import Libhid.Parser.Reading
import Libhid.Parser.Repeat

/-!
# How many objects an enumeration delivers

Every turn of `HIDParse` pays for the object it delivers: with one of the pending count, or with a
data item of the descriptor, which is worth 256 (`enumeration_pays`).  So an enumeration ends
(`enumeration_ends`).  How many objects an item gives is settled by `deliversExactly_iff`: the count
is a byte, 0 counts as 256, and the item the descriptor ends with gives one.
-/

namespace Libhid

open Framework

/-! ## Data items of a descriptor -/

/-- The number of Input, Output and Feature items among the bytes, read item by item, the first
`skip` bytes being left of an item before them. -/
def dataItemsFrom (abi : Abi) : ℕ → List UInt8 → ℕ
  | _, [] => 0
  | skip + 1, _ :: rest => dataItemsFrom abi skip rest
  | 0, b :: rest =>
      (if (Tag.ofItem b).isData then 1 else 0) +
        dataItemsFrom abi (itemSize b + longSkip abi b (rest.take (itemSize b))) rest

/-- The number of Input, Output and Feature items of a descriptor. -/
def dataItems (abi : Abi) (bytes : List UInt8) : ℕ := dataItemsFrom abi 0 bytes

lemma dataItemsFrom_eq (abi : Abi) (skip : ℕ) (bytes : List UInt8) :
    dataItemsFrom abi skip bytes = dataItems abi (bytes.drop skip) := by
  induction bytes generalizing skip with
  | nil => cases skip <;> rfl
  | cons b rest ih =>
      cases skip with
      | zero => rfl
      | succ skip =>
          rw [dataItemsFrom, ih]
          rfl

lemma dataItems_cons (abi : Abi) (b : UInt8) (rest : List UInt8) :
    dataItems abi (b :: rest) = (if (Tag.ofItem b).isData then 1 else 0) +
      dataItems abi (rest.drop (itemSize b + longSkip abi b (rest.take (itemSize b)))) := by
  rw [dataItems, dataItemsFrom, dataItemsFrom_eq]

/-! ## One turn -/

/-- The number of bytes by which the next turn moves the position. -/
def HIDParser.advance (p : HIDParser) (abi : Abi) : ℕ :=
  match p.nextRaw with
  | none => 0
  | some i => 1 + itemSize i.head + longSkip abi i.head i.data

section Turn

variable {abi : Abi} {bytes : List UInt8} {p s q : HIDParser} {i : RawItem} {o : Option HIDData}

/-- **The position does not wrap.** -/
lemma parseTurn_pos (hready : s.Ready) (hb : parseTurn abi s = .ok (q, o)) :
    q.pos.toNat = s.pos.toNat + s.advance abi := by
  obtain ⟨r, hr, hd⟩ := parseTurn_finds hb
  have hframe := dispatch_frame hd
  cases hr with
  | pending hc =>
      rw [hframe.pos, if_neg (hready.tag_ne hc rfl), HIDParser.advance, nextRaw_pending hc]
      rfl
  | @item i hc hi =>
      obtain ⟨-, hpos, -, hroom, -⟩ := nextRaw_eq_some hi
      have hdsc : reportDscSize = 6144 := rfl
      have htaking : (s.taking abi i).pos.toNat = s.pos.toNat + 1 + itemSize i.head :=
        behindItem_toNat hroom
      rw [hframe.pos, HIDParser.advance, hi]
      dsimp only
      rw [longSkip]
      show (if Tag.ofItem i.head = .long then _ else _ : UInt16).toNat = _
      split_ifs
      · have hlen := uchar_toUInt16_toNat_lt (s.taking abi i).value
        rw [toNat_add16 (by omega), htaking]
        simp [HIDParser.taking, RawItem.value]
        omega
      · rw [htaking]
        omega

/-- What is left of the descriptor after an item, as far as its data items go. -/
lemma dataItems_remaining (hs : s.Holds bytes) (hl : s.live = true) (hi : s.nextRaw = some i)
    (hpos : q.pos.toNat = s.pos.toNat + s.advance abi) :
    dataItems abi (s.remaining bytes) =
      (if i.tag.isData then 1 else 0) + dataItems abi (q.remaining bytes) := by
  rw [remaining_cons hs hl hi, dataItems_cons, HIDParser.remaining, hpos, HIDParser.advance, hi]
  dsimp only
  congr 2
  by_cases hfit : s.pos.toNat + 1 + itemSize i.head ≤ bytes.length
  · rw [data_eq_take hs hi hfit, List.drop_drop]
    congr 1
    omega
  · -- a cut item is the last one
    rw [List.drop_drop, List.drop_eq_nil_of_le (by omega), List.drop_eq_nil_of_le (by omega)]

/-- What the objects left to deliver are paid with. -/
def HIDParser.owed (s : HIDParser) (abi : Abi) (bytes : List UInt8) : ℕ :=
  256 * dataItems abi (s.remaining bytes) + s.count.toNat

/-- **Every turn pays for the object it delivers.** -/
lemma parseTurn_pays (hready : s.Ready) (hs : s.Holds bytes) (hl : s.live = true)
    (hb : parseTurn abi s = .ok (q, o)) :
    q.owed abi bytes + o.toList.length ≤ s.owed abi bytes := by
  have hpos := parseTurn_pos hready hb
  obtain ⟨r, hr, hd⟩ := parseTurn_finds hb
  have hframe := dispatch_frame hd
  unfold HIDParser.owed
  cases hr with
  | pending hc =>
      obtain ⟨object, rfl, ⟨t⟩⟩ := pending_turn hready hc hd
      have hsame : q.remaining bytes = s.remaining bytes := by
        rw [HIDParser.remaining, HIDParser.remaining, hframe.pos, if_neg (hready.tag_ne hc rfl)]
      obtain ⟨-, -, -, -, -, -, -, hcount⟩ := t.frame
      rw [if_neg hc] at hcount
      have hpositive := toNat_ne_zero8.mp hc
      rw [hsame, hcount, toNat_sub_one8 hpositive, Option.toList_some, List.length_singleton]
      omega
  | @item i hc hi =>
      rw [dataItems_remaining hs hl hi hpos]
      have hlt := q.count.toNat_lt
      have hone : o.toList.length ≤ 1 := by cases o <;> simp
      by_cases hdata : i.tag.isData = true
      · rw [if_pos hdata]
        omega
      · -- only a data item delivers an object, or leaves a count
        have hcount : q.count = s.count := hframe.count.resolve_right hdata
        have hnone : o = none := by
          cases dispatch_cases hd with
          | object hdata' t => exact absurd hdata' hdata
          | _ => rfl
        rw [hnone, hcount, if_neg hdata]
        simp

end Turn

/-! ## Enumerations end -/

lemma enumeration_pays (abi : Abi) (bytes : List UInt8) :
    (parser abi).Pays (fun s => s.Ready ∧ s.Holds bytes) fun s => s.owed abi bytes := by
  refine ⟨fun hs hl hb => ?_⟩
  obtain ⟨hinv, -⟩ := (parser_bounded_holds abi bytes).turn hs hl hb
  exact ⟨hinv, parseTurn_pays hs.1 hs.2 hl hb⟩

/-- What a state of the enumeration of a descriptor has before it: a call that returns, or leaves a
table; a turn that moves the position without wrapping it; and calls that come to an end, after at
most 256 objects for each data item of the descriptor. -/
structure Ends (abi : Abi) (bytes : List UInt8) (s : HIDParser) : Prop where
  call : Generator.Call (parser abi) s (hidParse abi s)
  returns : hidParse abi s ≠ .error .loops
  pos : ∀ q o, s.live = true → parseTurn abi s = .ok (q, o) →
    q.pos.toNat = s.pos.toNat + s.advance abi
  calls : (parser abi).Emits s (enumerate abi s).1 (enumerate abi s).2
  stops : (enumerate abi s).2 ≠ .error .loops
  objects : (enumerate abi s).1.length ≤ 256 * dataItems abi bytes
  search : ∀ query, findObject abi s query ≠ .error .loops

section Ends

variable {abi : Abi} {bytes : List UInt8} {p s : HIDParser}

/-- The loop never fails for want of turns. -/
lemma emits_ne_loops {xs : List HIDData} {r : Except Stop HIDParser}
    (h : (parser abi).Emits s xs r) : r ≠ .error .loops := by
  intro hr
  obtain ⟨t, -, -, hb⟩ := h.reaches_fail hr
  have hmem := parseTurn_error hb
  revert hmem
  decide

lemma matchesQuery_error {query found : HIDData} {e : Stop}
    (h : matchesQuery query found = .error e) : e = .node := by
  unfold matchesQuery at h
  split_ifs at h
  · rw [except_bind_error] at h
    obtain h | ⟨byPath, -, h⟩ := h
    · unfold comparePath at h
      split_ifs at h
      cases h
      rfl
    · cases h
  · cases h

lemma findObject_ne_loops (query : HIDData) : findObject abi s query ≠ .error .loops := by
  intro h
  rcases (parser_bounded abi).find_error (resetParser_ready s) h with ⟨a, ha⟩ | hall
  · cases matchesQuery_error ha
  · exact emits_ne_loops ((parser_bounded abi).emits_all (resetParser_ready s)) hall

lemma visits_inv (hp : p.Holds bytes) (hs : Visits abi p s) : s.Ready ∧ s.Holds bytes := by
  obtain ⟨xs, hsteps⟩ := hs
  exact ((parser_bounded_holds abi bytes).steps hsteps
    ⟨resetParser_ready p, hp.size, hp.desc⟩).1

/-- **Every enumeration of a descriptor ends**, from every state it comes to. -/
theorem enumeration_ends (hp : p.Holds bytes) (hs : Visits abi p s) : Ends abi bytes s := by
  obtain ⟨hready, hholds⟩ := visits_inv hp hs
  have hcall : Generator.Call (parser abi) s (hidParse abi s) :=
    (parser_bounded abi).call_next hready
  have hemits : (parser abi).Emits s (enumerate abi s).1 (enumerate abi s).2 :=
    (parser_bounded abi).emits_all hready
  refine ⟨hcall, ?_, fun q o _ hb => parseTurn_pos hready hb, hemits, emits_ne_loops hemits, ?_,
    findObject_ne_loops⟩
  · intro hloops
    rw [hloops] at hcall
    cases hcall with
    | fail h => exact emits_ne_loops h rfl
  · -- what is owed from here on is no more than after `ResetParser`
    obtain ⟨xs, hsteps⟩ := hs
    have hbefore := (enumeration_pays abi bytes).steps hsteps
      ⟨resetParser_ready p, hp.size, hp.desc⟩
    have hafter := (enumeration_pays abi bytes).emits hemits ⟨hready, hholds⟩
    have hstart : (resetParser p).owed abi bytes = 256 * dataItems abi bytes := rfl
    rw [hstart] at hbefore
    omega

end Ends

/-- `enumeration_ends` for a descriptor whose one data item has the count 0: 256 objects. -/
theorem enumeration_ends_bench : Ends (.little .w64 true)
    [0x09, 0x01, 0xA1, 0x01, 0x75, 0x01, 0x95, 0x00, 0x09, 0x02, 0xB1, 0x02, 0xC0]
    (resetParser (.holding
      [0x09, 0x01, 0xA1, 0x01, 0x75, 0x01, 0x95, 0x00, 0x09, 0x02, 0xB1, 0x02, 0xC0])) :=
  enumeration_ends (holding_holds (by decide)) (.refl _ _)

/-! ## The objects of one item -/

/-- The number the last Report Count item encodes. -/
def latestCount : List RawItem → Option ℕ
  | [] => none
  | i :: items => if i.tag = .repCount then some (leNat i.data) else latestCount items

/-- From the state before the item, calls deliver exactly `n` objects and come to a state right
behind the item from which no further call resumes it. -/
def DeliversExactly (abi : Abi) (s : HIDParser) (i : RawItem) (n : ℕ) : Prop :=
  ∃ xs t, (parser abi).Steps s xs t ∧ xs.length = n ∧ t.pos = (s.taking abi i).pos ∧
    (t.live = true → t.count = 0)

/-- A data item finds room for its node, an entry above the usage stack, and a row. -/
structure HIDParser.HasRoom (p : HIDParser) : Prop where
  node : p.data.path.size.toNat < pathSize
  usages : p.usageSize.toNat ≤ 49
  row : (probe ReportRow.free ReportRow.key p.offsetTab p.reportKey).isSome = true

/-- A data item is met in an enumeration, `n` being the number of the last Report Count item. -/
structure MeetsData (abi : Abi) (p s : HIDParser) (items : List RawItem) (i : RawItem) (n : ℕ) :
    Prop where
  reads : Reads abi p s items
  live : s.live = true
  next : s.nextRaw = some i
  data : i.tag.isData = true
  count : latestCount items = some n

section Objects

variable {abi : Abi} {p q s t : HIDParser} {items : List RawItem} {i : RawItem} {n : ℕ}
  {o : HIDData}

/-- The number of objects a report count stands for. -/
def countOf (c : UInt8) : ℕ := if c = 0 then 256 else c.toNat

/-- The count is decremented after the first object. -/
lemma countOf_eq (c : UInt8) : countOf c = (c - 1).toNat + 1 := by
  unfold countOf
  split_ifs with hc
  · subst hc
    rfl
  · have hpos := toNat_ne_zero8.mp hc
    rw [toNat_sub_one8 hpos]
    omega

lemma ObjectTurn.hasRoom (t : ObjectTurn p q o) : p.HasRoom := by
  refine ⟨t.room, (unstackUsage_ok t.unstacked).1, ?_⟩
  rw [t.found]
  rfl

/-- There is room for the next object if there was for this one. -/
lemma ObjectTurn.keepsRoom (t : ObjectTurn p q o) : q.HasRoom := by
  obtain ⟨hle, hsize⟩ := unstackUsage_ok t.unstacked
  have hdata := t.data
  have hkey : q.reportKey = p.reportKey := by
    rw [HIDParser.reportKey, t.frame.2.2.1, hdata, HIDParser.reportKey, t.object_eq]
  refine ⟨?_, ?_, ?_⟩
  · rw [hdata]
    exact t.room
  · have hq := congrArg HIDParser.usageSize t.next_eq
    dsimp only at hq
    split_ifs at hq
    · rw [hq]
      exact Nat.zero_le _
    · rw [hq]
      show t.usageSize.toNat ≤ 49
      omega
  · rw [hkey, t.offsetTab, probe_set t.found (key_keyRow _ _)]
    rfl

/-- An object is delivered where there is room. -/
lemma HIDParser.HasRoom.turn (abi : Abi) (h : p.HasRoom)
    (hdata : (Tag.ofItem p.item).isData = true) :
    ∃ q o, dispatch abi p = .ok (q, some o) ∧ Nonempty (ObjectTurn p q o) := by
  obtain ⟨stack, hun⟩ := unstackUsage_total p.usageTab h.usages
  obtain ⟨pos, hpos⟩ := Option.isSome_iff_exists.mp h.row
  obtain ⟨q, o, hd⟩ := dataItem_total (dif_pos h.node) hun hpos
  refine ⟨q, o, ?_, dataItem_ok hd⟩
  rw [dispatch_data hdata, hd]
  rfl

/-- The rest of a data item: one object for each one due. -/
lemma pending_steps (abi : Abi) {k : ℕ} (hk : q.count.toNat = k)
    (hdata : (Tag.ofItem q.item).isData = true) (hroom : q.HasRoom) (hl : q.live = true) :
    ∃ xs t, (parser abi).Steps q xs t ∧ xs.length = k ∧ t.pos = q.pos ∧ t.count = 0 := by
  induction k generalizing q with
  | zero => exact ⟨[], q, .refl q, rfl, rfl, UInt8.toNat_inj.mp hk⟩
  | succ k ih =>
      have hc : q.count ≠ 0 := by
        rintro h0
        rw [h0] at hk
        cases hk
      obtain ⟨q', o, hd, ⟨t⟩⟩ := hroom.turn abi hdata
      obtain ⟨-, hsize, hitem, -, hpos, -, -, hcount⟩ := t.frame
      rw [if_neg hc] at hcount
      have hb : parseTurn abi q = .ok (q', some o) := by
        rw [parseTurn_pending abi hc, hd]
      have hl' : q'.live = true := by
        rw [HIDParser.live, hpos, hsize]
        exact hl
      obtain ⟨xs, t', hsteps, hlen, hpos', hcount'⟩ := ih
        (by rw [hcount, toNat_sub_one8 (toNat_ne_zero8.mp hc), hk]; rfl)
        (by rw [hitem]; exact hdata) t.keepsRoom hl'
      exact ⟨o :: xs, t', .emit hl hb hsteps, by rw [List.length_cons, hlen],
        hpos'.trans hpos, hcount'⟩

/-- The position never goes back. -/
lemma steps_pos_le {xs : List HIDData} (h : (parser abi).Steps q xs t) (hready : q.Ready) :
    q.pos.toNat ≤ t.pos.toNat := by
  have hturn : ∀ {u u' : HIDParser} {o}, u.Ready → u.live = true → parseTurn abi u = .ok (u', o) →
      u'.Ready ∧ u.pos.toNat ≤ u'.pos.toNat := by
    intro u u' o hu hl hb
    refine ⟨(parseTurn_bounded hu hl hb).1, ?_⟩
    rw [parseTurn_pos hu hb]
    exact Nat.le_add_right _ _
  induction h with
  | refl q => exact Nat.le_refl _
  | silent hl hb _ ih =>
      obtain ⟨hready', hle⟩ := hturn hready hl hb
      exact Nat.le_trans hle (ih hready')
  | emit hl hb _ ih =>
      obtain ⟨hready', hle⟩ := hturn hready hl hb
      exact Nat.le_trans hle (ih hready')

/-- A turn that stays behind its item is one of a pending data item. -/
lemma count_ne_zero_of_pos {o : Option HIDData} (hready : q.Ready)
    (hb : parseTurn abi q = .ok (s, o)) (hpos : s.pos.toNat ≤ q.pos.toNat) : q.count ≠ 0 := by
  intro hc
  have hmoved := parseTurn_pos hready hb
  obtain ⟨r, hr, -⟩ := parseTurn_finds hb
  cases hr with
  | pending hc' => exact hc' hc
  | item _ hi =>
      rw [HIDParser.advance, hi] at hmoved
      dsimp only at hmoved
      omega

/-- The next turn of a run that stays behind its item delivers an object of it. -/
lemma turn_of_pos {out : Option HIDData} {xs : List HIDData} (hready : q.Ready)
    (hb : parseTurn abi q = .ok (s, out)) (hrest : (parser abi).Steps s xs t)
    (hs : s.Ready) (hpos : t.pos = q.pos) :
    q.count ≠ 0 ∧ ∃ object, out = some object ∧ Nonempty (ObjectTurn q s object) := by
  have hle := steps_pos_le hrest hs
  rw [hpos] at hle
  have hc := count_ne_zero_of_pos hready hb hle
  rw [parseTurn_pending abi hc] at hb
  exact ⟨hc, pending_turn hready hc hb⟩

/-- No other number of objects. -/
lemma pending_unique {xs : List HIDData} (h : (parser abi).Steps q xs t) (hready : q.Ready)
    (hpos : t.pos = q.pos) (hend : t.live = true → t.count = 0) :
    xs.length = if q.live then q.count.toNat else 0 := by
  induction h with
  | refl q =>
      split_ifs with hl
      · rw [hend hl]
        rfl
      · rfl
  | @silent q q' t xs hl hb rest ih =>
      obtain ⟨hready', -⟩ := parseTurn_bounded hready hl hb
      obtain ⟨-, object, ho, -⟩ := turn_of_pos hready hb rest hready' hpos
      cases ho
  | @emit q q' t a xs hl hb rest ih =>
      obtain ⟨hready', -⟩ := parseTurn_bounded hready hl hb
      obtain ⟨hc, object, -, ⟨t'⟩⟩ := turn_of_pos hready hb rest hready' hpos
      obtain ⟨-, hsize, -, -, hpos', -, -, hcount⟩ := t'.frame
      rw [if_neg hc] at hcount
      have hl' : q'.live = true := by
        rw [HIDParser.live, hpos', hsize]
        exact hl
      have hrest := ih hready' (hpos.trans hpos'.symm) hend
      have hpositive := toNat_ne_zero8.mp hc
      rw [if_pos hl', hcount, toNat_sub_one8 hpositive] at hrest
      have hlive : q.live = true := hl
      rw [List.length_cons, hrest, if_pos hlive]
      omega

/-- The turn that fetches a data item delivers the first object of it. -/
lemma first_object {out : Option HIDData} (hi : s.nextRaw = some i) (hdata : i.tag.isData = true)
    (hb : parseTurn abi s = .ok (q, out)) :
    ∃ object, out = some object ∧ Nonempty (ObjectTurn (s.taking abi i) q object) := by
  have hitem : (Tag.ofItem (s.taking abi i).item).isData = true := hdata
  rw [parseTurn_taking abi hi, dispatch_data hitem, except_map_ok] at hb
  obtain ⟨⟨q', object⟩, hobject, hsame⟩ := hb
  cases hsame
  exact ⟨object, rfl, dataItem_ok hobject⟩

/-- After the first object. -/
lemma ObjectTurn.first (t : ObjectTurn (s.taking abi i) q o) (hi : s.nextRaw = some i) :
    q.count = s.reportCount - 1 ∧ q.pos = (s.taking abi i).pos ∧
      q.live = (s.taking abi i).live := by
  obtain ⟨-, hsize, -, -, hpos, -, -, hcount⟩ := t.frame
  have hc : (s.taking abi i).count = 0 := (nextRaw_eq_some hi).1
  rw [if_pos hc] at hcount
  refine ⟨hcount, hpos, ?_⟩
  rw [HIDParser.live, HIDParser.live, hpos, hsize]

/-- **The objects of an item**: as many as the count says, or one if the descriptor ends with it. -/
lemma deliversExactly_iff_count (hready : s.Ready) (hl : s.live = true) (hi : s.nextRaw = some i)
    (hdata : i.tag.isData = true) : DeliversExactly abi s i n ↔ (s.taking abi i).HasRoom ∧
      n = if (s.taking abi i).live then countOf s.reportCount else 1 := by
  constructor
  · rintro ⟨xs, t, hsteps, rfl, hpos, hend⟩
    cases hsteps with
    | refl =>
        have hmoved : (s.taking abi i).pos.toNat = s.pos.toNat + 1 + itemSize i.head :=
          behindItem_toNat (nextRaw_eq_some hi).2.2.2.1
        rw [← hpos] at hmoved
        omega
    | silent _ hb rest =>
        obtain ⟨object, ho, -⟩ := first_object hi hdata hb
        cases ho
    | @emit _ q _ a xs _ hb rest =>
        obtain ⟨object, -, ⟨t'⟩⟩ := first_object hi hdata hb
        obtain ⟨hcount, hpos', hlive⟩ := t'.first hi
        have hrest := pending_unique rest (parseTurn_bounded hready hl hb).1
          (hpos.trans hpos'.symm) hend
        refine ⟨t'.hasRoom, ?_⟩
        rw [List.length_cons, hrest, hlive, hcount, countOf_eq]
        split_ifs <;> rfl
  · rintro ⟨hroom, rfl⟩
    have hitem : (Tag.ofItem (s.taking abi i).item).isData = true := hdata
    obtain ⟨q, o, hd, ⟨t⟩⟩ := hroom.turn abi hitem
    obtain ⟨hcount, hpos, hlive⟩ := t.first hi
    have hb : parseTurn abi s = .ok (q, some o) := by
      rw [parseTurn_taking abi hi, hd]
    by_cases hend : (s.taking abi i).live = true
    · obtain ⟨xs, t', hsteps, hlen, hpos', hcount'⟩ := pending_steps abi rfl
        (by rw [t.frame.2.2.1]; exact hitem) t.keepsRoom (hlive.trans hend)
      refine ⟨o :: xs, t', .emit hl hb hsteps, ?_, hpos'.trans hpos, fun _ => hcount'⟩
      rw [List.length_cons, hlen, hcount, if_pos hend, countOf_eq]
    · refine ⟨[o], q, .emit hl hb (.refl q), ?_, hpos, fun hl' => ?_⟩
      · rw [if_neg hend]
        rfl
      · exact absurd (hlive.symm.trans hl') hend

/-- The report count is what the last Report Count item left in a byte. -/
lemma reads_reportCount (h : Reads abi p s items) (hn : latestCount items = some n) :
    ∃ data, data.length ≤ 4 ∧ leNat data = n ∧ s.reportCount = uchar (abi.load data) := by
  revert n
  refine h.invariant (fun s items => ∀ {n}, latestCount items = some n → ∃ data,
    data.length ≤ 4 ∧ leNat data = n ∧ s.reportCount = uchar (abi.load data)) ?_ ?_
  · intro n hn
    cases hn
  · intro s items q o hreads hs _ hb n hn
    obtain ⟨r, hr, hd⟩ := parseTurn_finds hb
    have hframe := dispatch_frame hd
    cases hr with
    | pending hc =>
        rw [recordItem_pending hc] at hn
        rw [hframe.reportCount, if_neg ((reads_tracks hreads).ready.tag_ne hc rfl)]
        exact hs hn
    | @item i hc hi =>
        rw [recordItem_item hi, latestCount] at hn
        rw [hframe.reportCount]
        show ∃ data, _ ∧ _ ∧ (if i.tag = .repCount then _ else _ : UInt8) = _
        split_ifs at hn ⊢
        · cases hn
          exact ⟨i.data, data_length_le hi, rfl, rfl⟩
        · exact hs hn

/-- The count is the number the item encodes, or the descriptor ends with the item. -/
def CountFits (abi : Abi) (last : Bool) (n : ℕ) : Prop :=
  if last then n = 1 else (abi.LoadsItems ∧ 1 ≤ n ∧ n ≤ 256) ∨ (¬ abi.LoadsItems ∧ n = 256)

/-- **A data item gives as many objects as Report Count says if and only if the tables have room for
it and the count fits.** -/
theorem deliversExactly_iff (h : MeetsData abi p s items i n) :
    DeliversExactly abi s i n ↔
      (s.taking abi i).HasRoom ∧ CountFits abi (!(s.taking abi i).live) n := by
  obtain ⟨data, hlen, hnumber, hcount⟩ := reads_reportCount h.reads h.count
  rw [deliversExactly_iff_count (reads_tracks h.reads).ready h.live h.next h.data, CountFits,
    hcount]
  apply and_congr_right
  rintro -
  cases (s.taking abi i).live with
  | false => simp
  | true =>
      simp only [if_true, Bool.not_true, Bool.false_eq_true, if_false]
      by_cases hload : abi.LoadsItems
      · have hbyte := uchar_load hload hlen
        rw [hnumber] at hbyte
        simp only [hload, true_and, not_true_eq_false, false_and, or_false, countOf]
        split_ifs with hzero
        · rw [hzero] at hbyte
          have hmod : n % 256 = 0 := hbyte.symm
          omega
        · have hne := toNat_ne_zero8.mp hzero
          omega
      · rw [uchar_load_zero hload hlen]
        simp [hload, countOf]

end Objects

instance HIDParser.decidableHasRoom (p : HIDParser) : Decidable p.HasRoom :=
  decidable_of_iff (p.data.path.size.toNat < pathSize ∧ p.usageSize.toNat ≤ 49 ∧
    (probe ReportRow.free ReportRow.key p.offsetTab p.reportKey).isSome = true)
    ⟨fun h => ⟨h.1, h.2.1, h.2.2⟩, fun h => ⟨h.node, h.usages, h.row⟩⟩

/-- A Report Count item, a data item and an End Collection. -/
def counted (count : List UInt8) : List UInt8 := count ++ [0xB1, 0x02, 0xC0]

/-- The state in which the data item of `counted` is met, after `k` turns. -/
lemma counted_meets (count : List UInt8) (n k : ℕ) (usages : List HIDNode)
    (hrun : (((parser (.little .w64 true)).withHistory recordItem).after k
      (resetParser (.holding (counted count)), [])).any (fun x =>
        x.1.live && x.1.nextRaw == some ⟨0xB1, [0x02]⟩ && latestCount x.2 == some n &&
          usagesOf (.little .w64 true) 0 x.2 == usages &&
          (x.1.taking (.little .w64 true) ⟨0xB1, [0x02]⟩).live &&
          decide (x.1.taking (.little .w64 true) ⟨0xB1, [0x02]⟩).HasRoom) = true) :
    ∃ s items, MeetsData (.little .w64 true) (.holding (counted count)) s items ⟨0xB1, [0x02]⟩ n ∧
      usagesOf (.little .w64 true) 0 items = usages ∧
      (s.taking (.little .w64 true) ⟨0xB1, [0x02]⟩).live = true ∧
      (s.taking (.little .w64 true) ⟨0xB1, [0x02]⟩).HasRoom := by
  obtain ⟨⟨s, items⟩, hafter, htest⟩ := (Option.any_eq_true _ _).mp hrun
  simp only [Bool.and_eq_true, beq_iff_eq, decide_eq_true_eq] at htest
  obtain ⟨⟨⟨⟨⟨hl, hi⟩, hn⟩, husages⟩, hlive⟩, hroom⟩ := htest
  exact ⟨s, items, ⟨Generator.reaches_after hafter, hl, hi, rfl, hn⟩, husages, hlive, hroom⟩

/-- `deliversExactly_iff` for a data item with the count 2. -/
theorem deliversExactly_iff_bench :
    ∃ s, DeliversExactly (.little .w64 true) s ⟨0xB1, [0x02]⟩ 2 := by
  obtain ⟨s, items, hmeets, -, hlive, hroom⟩ :=
    counted_meets [0x95, 0x02] 2 1 [] (by decide +kernel)
  refine ⟨s, (deliversExactly_iff hmeets).mpr ⟨hroom, ?_⟩⟩
  rw [hlive]
  exact .inl ⟨.inl rfl, by decide, by decide⟩

/-- Not every data item gives as many objects as Report Count says: of 257 one is left. -/
theorem deliversExactly_fails : ¬ ∀ (abi : Abi) (p s : HIDParser) (items : List RawItem)
    (i : RawItem) (n : ℕ), MeetsData abi p s items i n → DeliversExactly abi s i n := by
  intro hall
  obtain ⟨s, items, hmeets, -, hlive, -⟩ :=
    counted_meets [0x96, 0x01, 0x01] 257 1 [] (by decide +kernel)
  have hexactly := hall _ _ s items _ _ hmeets
  rw [deliversExactly_iff_count (reads_tracks hmeets.reads).ready hmeets.live hmeets.next
    hmeets.data, hlive, if_pos rfl] at hexactly
  have hlt := s.reportCount.toNat_lt
  have hcount := hexactly.2
  unfold countOf at hcount
  split_ifs at hcount <;> omega

end Libhid
