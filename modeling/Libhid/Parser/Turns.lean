import Libhid.Framework.Outcomes
import Libhid.Parser.HidParse

/-!
# What one turn of the parser does

One lemma for each part of a turn, saying everything it changes: the node pushed, the usage
unstacked, the row of the report table counted up (`dataItem_ok`).  From them come the frame of a
turn (`dispatch_frame`) and termination: a pending count belongs to a data item (`Ready`), so every
turn uses up a byte of the descriptor or one of the pending objects (`parser_bounded`).
-/

namespace Libhid

open Framework

/-! ## Kinds of items -/

lemma isMain_of_isData {t : Tag} (h : t.isData = true) : t.isMain = true := by
  cases t <;> first | rfl | cases h

lemma ne_of_isData {t t' : Tag} (h : t.isData = true) (h' : t'.isData = false) : t ≠ t' := by
  rintro rfl
  rw [h] at h'
  cases h'

lemma ne_of_not_isMain {t t' : Tag} (h : t.isMain = false) (h' : t'.isMain = true) : t ≠ t' := by
  rintro rfl
  rw [h] at h'
  cases h'

/-! ## The parts of a turn -/

lemma fetchItem_ok {abi : Abi} {p q : HIDParser} (h : fetchItem abi p = .ok q) :
    ∃ (_ : p.pos.toNat < reportDscSize), ∃ item, item = p.reportDesc[p.pos.toNat] ∧
      p.pos.toNat + 1 + itemSize item ≤ reportDscSize ∧
      q = { p with
        item := item
        value := abi.load (p.bytesAt (p.pos.toNat + 1) (itemSize item))
        pos := p.pos + 1 + UInt16.ofNat (itemSize item) } := by
  unfold fetchItem at h
  split_ifs at h with hpos
  dsimp only at h
  split_ifs at h with hroom
  cases h
  exact ⟨hpos, _, rfl, hroom, rfl⟩

lemma pushNode_ok {path path' : HIDPath} {node : HIDNode} (h : pushNode path node = .ok path') :
    ∃ hroom : path.size.toNat < pathSize,
      path' = ⟨path.size + 1, path.node.set path.size.toNat node hroom⟩ := by
  unfold pushNode at h
  split_ifs at h with hroom
  cases h
  exact ⟨hroom, rfl⟩

lemma pushUsage_ok {p q : HIDParser} (h : pushUsage p = .ok q) :
    ∃ (_ : p.usageSize.toNat < usageTabSize), q = { p with
      usageTab := p.usageTab.set p.usageSize.toNat (usageNode p)
      usageSize := p.usageSize + 1 } := by
  unfold pushUsage at h
  split_ifs at h with hsize
  cases h
  exact ⟨hsize, rfl⟩

/-- With at most 49 usages stacked, one can be unstacked. -/
lemma unstackUsage_total (tab : Vector HIDNode usageTabSize) {size : UInt8}
    (hle : size.toNat ≤ 49) : ∃ stack, unstackUsage tab size = .ok stack := by
  have hsize : usageTabSize = 50 := rfl
  unfold unstackUsage
  split_ifs
  · obtain ⟨tab', hshift, -⟩ := shiftDown_eq_some tab (by omega : 0 + size.toNat < 50)
    rw [hshift]
    exact ⟨_, rfl⟩
  · exact ⟨_, rfl⟩

/-- An entry is left above the stack where a usage was unstacked. -/
lemma unstackUsage_ok {tab tab' : Vector HIDNode usageTabSize} {size size' : UInt8}
    (h : unstackUsage tab size = .ok (tab', size')) :
    size.toNat ≤ 49 ∧ size'.toNat = size.toNat - 1 := by
  have hsize : usageTabSize = 50 := rfl
  unfold unstackUsage at h
  split_ifs at h with hpos
  · rw [gt_iff_lt, UInt8.lt_iff_toNat_lt] at hpos
    cases hshift : shiftDown tab 0 size.toNat with
    | none =>
        rw [hshift] at h
        cases h
    | some tab'' =>
        have hlt := shiftDown_lt hshift hpos
        rw [hshift] at h
        cases h
        exact ⟨by omega, toNat_sub_one8 hpos⟩
  · cases h
    rw [gt_iff_lt, UInt8.lt_iff_toNat_lt] at hpos
    have hzero : size.toNat = 0 := Nat.eq_zero_of_not_pos hpos
    omega

/-! ## Counting in the report table -/

/-- What `GetReportOffset` makes of the row it ends at: the bits counted there, 0 for a free one. -/
def rowBits (r : ReportRow) : UInt8 := if r.id ≠ 0 then r.offset else 0

/-- The row of a key, counted up to `bits`. -/
def keyRow (k : UInt8 × UInt8) (bits : UInt8) : ReportRow := ⟨k.1, k.2, bits⟩

@[simp] lemma key_keyRow (k : UInt8 × UInt8) (bits : UInt8) : (keyRow k bits).key = k := rfl

@[simp] lemma free_keyRow (k : UInt8 × UInt8) (bits : UInt8) :
    (keyRow k bits).free = (k.1 == 0) := rfl

/-- A row in use that the search for a key ends at is the row of that key. -/
lemma row_of_probe {tab : Vector ReportRow maxReport} {k : UInt8 × UInt8} {pos : Fin maxReport}
    (h : probe ReportRow.free ReportRow.key tab k = some pos) (hid : (tab.get pos).id ≠ 0) :
    tab.get pos = keyRow k (rowBits (tab.get pos)) := by
  have hkey : ReportRow.key (tab.get pos) = k := by
    rcases probe_some h with hfree | hkey
    · exact absurd (by simpa [ReportRow.free] using hfree) hid
    · exact hkey
  have hbits : rowBits (tab.get pos) = (tab.get pos).offset := by rw [rowBits, if_pos hid]
  rw [hbits, ← hkey]
  rfl

/-- Whatever row the search ends at, afterwards it is the row of the key. -/
lemma getReportOffset_eq_some {tab : Vector ReportRow maxReport} {n id type : UInt8}
    {pos : Fin maxReport} (h : probe ReportRow.free ReportRow.key tab (id, type) = some pos) :
    getReportOffset tab n id type =
      some (pos, tab.set pos (keyRow (id, type) (rowBits (tab.get pos))) pos.isLt,
        if (tab.get pos).id ≠ 0 then n else n + 1) := by
  simp only [getReportOffset, h]
  by_cases hid : (tab.get pos).id ≠ 0
  · rw [if_pos hid, if_pos hid, ← row_of_probe h hid]
    simp [get_eq_getElem]
  · rw [if_neg hid, if_neg hid, rowBits, if_neg hid]
    rfl

@[simp] lemma derefOffset_some {α : Type} (a : α) : derefOffset (some a) = .ok a := rfl

lemma derefOffset_eq_ok {α : Type} {x : Option α} {a : α} (h : derefOffset x = .ok a) :
    x = some a := by
  cases x with
  | none => cases h
  | some b =>
      cases h
      rfl

lemma derefOffset_ok {tab tab' : Vector ReportRow maxReport} {n n' id type : UInt8}
    {pos : Fin maxReport}
    (h : derefOffset (getReportOffset tab n id type) = .ok (pos, tab', n')) :
    probe ReportRow.free ReportRow.key tab (id, type) = some pos ∧
      tab' = tab.set pos (keyRow (id, type) (rowBits (tab.get pos))) pos.isLt := by
  cases hp : probe ReportRow.free ReportRow.key tab (id, type) with
  | none => simp [getReportOffset, hp, derefOffset] at h
  | some pos' =>
      simp only [getReportOffset_eq_some hp, derefOffset, Except.ok.injEq, Prod.mk.injEq] at h
      obtain ⟨rfl, rfl, rfl⟩ := h
      exact ⟨rfl, rfl⟩

lemma rowBits_keyRow (k : UInt8 × UInt8) (bits : UInt8) :
    rowBits (keyRow k bits) = if k.1 ≠ 0 then bits else 0 := rfl

/-- The bits from which the second search of an object counts on: report ID 0 has no row. -/
def bitsBefore (k : UInt8 × UInt8) (r : ReportRow) : UInt8 := if k.1 ≠ 0 then rowBits r else 0

/-! ## Data items -/

/-- The key under which the object of the current item is counted. -/
def HIDParser.reportKey (p : HIDParser) : UInt8 × UInt8 := (p.data.reportID, p.item &&& itemMask)

/-- The parser after an object, before the local state is reset. -/
def HIDParser.afterObject (p : HIDParser) (object : HIDData) (pos : Fin maxReport) (nReport : UInt8)
    (usageTab : Vector HIDNode usageTabSize) (usageSize : UInt8) : HIDParser :=
  { p with
    nObject := p.nObject + 1
    count := (if p.count = 0 then p.reportCount else p.count) - 1
    data := { object with path := ⟨p.data.path.size, object.path.node⟩ }
    offsetTab := p.offsetTab.set pos
      (keyRow p.reportKey (bitsBefore p.reportKey (p.offsetTab.get pos) + p.data.size)) pos.isLt
    nReport := nReport
    usageTab := usageTab
    usageSize := usageSize }

/-- Everything the turn of a data item changes. -/
structure ObjectTurn (p q : HIDParser) (object : HIDData) where
  /-- The row the object is counted in. -/
  pos : Fin maxReport
  /-- The new number of reports. -/
  nReport : UInt8
  /-- The usage stack after one entry was taken. -/
  usageTab : Vector HIDNode usageTabSize
  /-- Its size. -/
  usageSize : UInt8
  room : p.data.path.size.toNat < pathSize
  unstacked : unstackUsage p.usageTab p.usageSize = .ok (usageTab, usageSize)
  found : probe ReportRow.free ReportRow.key p.offsetTab p.reportKey = some pos
  object_eq : object = { p.data with
    path := ⟨p.data.path.size + 1, p.data.path.node.set p.data.path.size.toNat p.firstUsage⟩
    type := p.item &&& itemMask
    attrib := uchar p.value
    offset := rowBits (p.offsetTab.get pos) }
  next_eq : q =
    let q' := p.afterObject object pos nReport usageTab usageSize
    if q'.count = 0 then resetLocalState q' else q'

namespace ObjectTurn

variable {p q : HIDParser} {object : HIDData}

lemma key (t : ObjectTurn p q object) : (object.reportID, object.type) = p.reportKey :=
  (congrArg (fun o : HIDData => (o.reportID, o.type)) t.object_eq).trans rfl

lemma size (t : ObjectTurn p q object) : object.size = p.data.size :=
  (congrArg HIDData.size t.object_eq).trans rfl

lemma offset (t : ObjectTurn p q object) : object.offset = rowBits (p.offsetTab.get t.pos) :=
  (congrArg HIDData.offset t.object_eq).trans rfl

lemma offsetTab (t : ObjectTurn p q object) : q.offsetTab = p.offsetTab.set t.pos
    (keyRow p.reportKey (bitsBefore p.reportKey (p.offsetTab.get t.pos) + p.data.size))
      t.pos.isLt := by
  apply (congrArg HIDParser.offsetTab t.next_eq).trans
  dsimp only
  split_ifs <;> rfl

lemma data (t : ObjectTurn p q object) :
    q.data = { object with path := ⟨p.data.path.size, object.path.node⟩ } := by
  apply (congrArg HIDParser.data t.next_eq).trans
  dsimp only
  split_ifs <;> rfl

end ObjectTurn

lemma dataItem_ok {p q : HIDParser} {object : HIDData} (h : dataItem p = .ok (q, object)) :
    Nonempty (ObjectTurn p q object) := by
  simp only [dataItem, except_bind_ok] at h
  obtain ⟨path, h₁, ⟨tab, n⟩, h₂, ⟨pos, rows, k⟩, h₃, ⟨pos', rows', k'⟩, h₄, h₅⟩ := h
  obtain ⟨hroom, rfl⟩ := pushNode_ok h₁
  obtain ⟨hprobe, rfl⟩ := derefOffset_ok h₃
  obtain ⟨hprobe', rfl⟩ := derefOffset_ok h₄
  simp only [Except.ok.injEq, Prod.mk.injEq] at h₅
  obtain ⟨hq, rfl⟩ := h₅
  -- the second search ends at the row the first one filled
  have hpos : pos = pos' := by
    rw [probe_set hprobe rfl] at hprobe'
    exact Option.some.inj hprobe'
  subst hpos
  refine ⟨⟨pos, k', tab, n, hroom, h₂, hprobe, ?_, ?_⟩⟩
  · simp [get_eq_getElem, keyRow]
  · rw [← hq]
    simp [get_eq_getElem, HIDParser.afterObject, bitsBefore, HIDParser.reportKey, keyRow, rowBits]

/-- A data item that finds room for its node, a usage to take and a row for its report succeeds. -/
lemma dataItem_total {p : HIDParser} {path : HIDPath}
    {stack : Vector HIDNode usageTabSize × UInt8} {pos : Fin maxReport}
    (hpush : pushNode p.data.path p.firstUsage = .ok path)
    (hun : unstackUsage p.usageTab p.usageSize = .ok stack)
    (hprobe : probe ReportRow.free ReportRow.key p.offsetTab p.reportKey = some pos) :
    ∃ q object, dataItem p = .ok (q, object) := by
  have hfirst : probe ReportRow.free ReportRow.key p.offsetTab
      (p.data.reportID, p.item &&& itemMask) = some pos := hprobe
  have hsecond := probe_set hfirst (key_keyRow _ (rowBits (p.offsetTab.get pos)))
  simp only [dataItem, hpush, hun, getReportOffset_eq_some hfirst, getReportOffset_eq_some hsecond,
    derefOffset_some, except_ok_bind]
  exact ⟨_, _, rfl⟩

/-! ## The frame of a turn -/

/-- What a turn does to the fields that only items of one kind touch. -/
structure DispatchFrame (p q : HIDParser) : Prop where
  reportDesc : q.reportDesc = p.reportDesc
  reportDescSize : q.reportDescSize = p.reportDescSize
  item : q.item = p.item
  value : q.value = p.value
  pos : q.pos = if Tag.ofItem p.item = .long then p.pos + (uchar p.value).toUInt16 else p.pos
  uPage : q.uPage = if Tag.ofItem p.item = .uPage then ushort p.value else p.uPage
  reportCount : q.reportCount =
    if Tag.ofItem p.item = .repCount then uchar p.value else p.reportCount
  count : q.count = p.count ∨ (Tag.ofItem p.item).isData = true

lemma openCollection_ok {p q : HIDParser} (h : openCollection p = .ok q) :
    ∃ path stack path', pushNode p.data.path p.firstUsage = .ok path ∧
      unstackUsage p.usageTab p.usageSize = .ok stack ∧ pushIndex path p.value = .ok path' ∧
      q = resetLocalState { p with data := { p.data with path := path' } } := by
  simp only [openCollection, except_bind_ok] at h
  obtain ⟨path, h₁, ⟨tab, n⟩, h₂, path', h₃, h'⟩ := h
  simp only [Except.ok.injEq] at h'
  refine ⟨path, (tab, n), path', h₁, h₂, h₃, ?_⟩
  rw [← h']
  rfl

lemma closeCollection_ok {p q : HIDParser} (h : closeCollection p = .ok q) :
    ∃ (hlt : (p.data.path.size - 1).toNat < pathSize), q = resetLocalState { p with
      data := { p.data with path :=
        ⟨if p.data.path.node[(p.data.path.size - 1).toNat].uPage = 0xFF
          then p.data.path.size - 1 - 1 else p.data.path.size - 1, p.data.path.node⟩ } } := by
  unfold closeCollection at h
  dsimp only at h
  by_cases hlt : (p.data.path.size - 1).toNat < pathSize
  · rw [dif_pos hlt] at h
    cases h
    exact ⟨hlt, rfl⟩
  · rw [dif_neg hlt] at h
    cases h

lemma uchar_toUInt16_toNat_lt (v : ℤ) : (uchar v).toUInt16.toNat < 256 := by
  simpa using (uchar v).toNat_lt

lemma ObjectTurn.frame {p q : HIDParser} {object : HIDData} (t : ObjectTurn p q object) :
    q.reportDesc = p.reportDesc ∧ q.reportDescSize = p.reportDescSize ∧ q.item = p.item ∧
      q.value = p.value ∧ q.pos = p.pos ∧ q.uPage = p.uPage ∧ q.reportCount = p.reportCount ∧
      q.count = (if p.count = 0 then p.reportCount else p.count) - 1 := by
  rw [t.next_eq]
  dsimp only
  by_cases hc : (p.afterObject object t.pos t.nReport t.usageTab t.usageSize).count = 0
  · rw [if_pos hc]
    exact ⟨rfl, rfl, rfl, rfl, rfl, rfl, rfl, rfl⟩
  · rw [if_neg hc]
    exact ⟨rfl, rfl, rfl, rfl, rfl, rfl, rfl, rfl⟩

section Cases

variable {abi : Abi} {p : HIDParser}

lemma dispatch_usage (h : Tag.ofItem p.item = .usage) :
    dispatch abi p = (pushUsage p).map (·, none) := by
  simp only [dispatch, h]

lemma dispatch_collection (h : Tag.ofItem p.item = .collection) :
    dispatch abi p = (openCollection p).map (·, none) := by
  simp only [dispatch, h]

lemma dispatch_endCollection (h : Tag.ofItem p.item = .endCollection) :
    dispatch abi p = (closeCollection p).map (·, none) := by
  simp only [dispatch, h]

lemma dispatch_data (h : (Tag.ofItem p.item).isData = true) :
    dispatch abi p = (dataItem p).map fun (p, object) => (p, some object) := by
  cases htag : Tag.ofItem p.item <;> rw [htag] at h
  case feature | input | output => simp only [dispatch, htag]
  all_goals cases h

end Cases

lemma dispatch_frame {abi : Abi} {p q : HIDParser} {o : Option HIDData}
    (h : dispatch abi p = .ok (q, o)) : DispatchFrame p q := by
  unfold dispatch at h
  cases htag : Tag.ofItem p.item <;>
    simp only [htag, except_map_ok, Except.ok.injEq, Prod.mk.injEq, Prod.exists] at h
  case feature | input | output =>
    obtain ⟨r, object, hd, rfl, -⟩ := h
    obtain ⟨t⟩ := dataItem_ok hd
    obtain ⟨h₁, h₂, h₃, h₄, h₅, h₆, h₇, -⟩ := t.frame
    constructor <;> simp [Tag.isData, *]
  case usage =>
    obtain ⟨r, hd, rfl, -⟩ := h
    obtain ⟨-, rfl⟩ := pushUsage_ok hd
    constructor <;> simp [htag]
  case collection =>
    obtain ⟨r, hd, rfl, -⟩ := h
    obtain ⟨-, -, path, -, -, -, rfl⟩ := openCollection_ok hd
    constructor <;> simp [htag, resetLocalState]
  case endCollection =>
    obtain ⟨r, hd, rfl, -⟩ := h
    obtain ⟨-, rfl⟩ := closeCollection_ok hd
    constructor <;> simp [htag, resetLocalState]
  all_goals
    obtain ⟨rfl, -⟩ := h
    constructor <;> simp [htag]

/-- What a case of the switch does to the usage stack, the path and the report table, everything
about the items that touch one of them included. -/
inductive Dispatched (p q : HIDParser) : Option HIDData → Prop
  | usage (htag : Tag.ofItem p.item = .usage) (h : pushUsage p = .ok q) : Dispatched p q none
  | collection (htag : Tag.ofItem p.item = .collection) (h : openCollection p = .ok q) :
      Dispatched p q none
  | endCollection (htag : Tag.ofItem p.item = .endCollection) (h : closeCollection p = .ok q) :
      Dispatched p q none
  | object {o : HIDData} (hdata : (Tag.ofItem p.item).isData = true) (t : ObjectTurn p q o) :
      Dispatched p q (some o)
  | global (hmain : (Tag.ofItem p.item).isMain = false) (husage : Tag.ofItem p.item ≠ .usage)
      (usageTab : q.usageTab = p.usageTab) (usageSize : q.usageSize = p.usageSize)
      (path : q.data.path = p.data.path) (offsetTab : q.offsetTab = p.offsetTab)
      (nReport : q.nReport = p.nReport) : Dispatched p q none

lemma dispatch_cases {abi : Abi} {p q : HIDParser} {o : Option HIDData}
    (h : dispatch abi p = .ok (q, o)) : Dispatched p q o := by
  unfold dispatch at h
  cases htag : Tag.ofItem p.item <;>
    simp only [htag, except_map_ok, Except.ok.injEq, Prod.mk.injEq, Prod.exists] at h
  case feature | input | output =>
    obtain ⟨r, object, hd, rfl, rfl⟩ := h
    obtain ⟨t⟩ := dataItem_ok hd
    exact .object (by rw [htag]; rfl) t
  case usage =>
    obtain ⟨r, hd, rfl, rfl⟩ := h
    exact .usage htag hd
  case collection =>
    obtain ⟨r, hd, rfl, rfl⟩ := h
    exact .collection htag hd
  case endCollection =>
    obtain ⟨r, hd, rfl, rfl⟩ := h
    exact .endCollection htag hd
  all_goals
    obtain ⟨rfl, rfl⟩ := h
    exact .global (by rw [htag]; rfl) (by rw [htag]; decide) rfl rfl rfl rfl rfl

/-- Only a data item produces an object. -/
lemma dispatch_object {abi : Abi} {p q : HIDParser} {o : HIDData}
    (h : dispatch abi p = .ok (q, some o)) :
    (Tag.ofItem p.item).isData = true ∧ Nonempty (ObjectTurn p q o) := by
  cases dispatch_cases h with
  | object hdata t => exact ⟨hdata, ⟨t⟩⟩

/-- The position never goes back. -/
lemma DispatchFrame.pos_le {p q : HIDParser} (h : DispatchFrame p q)
    (hp : p.pos.toNat ≤ reportDscSize) : p.pos.toNat ≤ q.pos.toNat := by
  rw [h.pos]
  split_ifs
  · have hlen := uchar_toUInt16_toNat_lt p.value
    have hroom : reportDscSize = 6144 := rfl
    rw [toNat_add16 (by omega)]
    exact Nat.le_add_right _ _
  · exact Nat.le_refl _

/-- Past the end of the descriptor the loop is over. -/
lemma DispatchFrame.ended {p q : HIDParser} (h : DispatchFrame p q)
    (hpast : p.reportDescSize.toNat ≤ p.pos.toNat) (hp : p.pos.toNat ≤ reportDscSize) :
    q.live = false := by
  rw [HIDParser.live, decide_eq_false_iff_not, UInt16.lt_iff_toNat_lt, h.reportDescSize]
  exact Nat.not_lt.mpr (Nat.le_trans hpast (h.pos_le hp))

/-! ## Where a turn stops -/

lemma nextItem_error {p : HIDParser} {e : Stop} (h : nextItem abi p = .error e) :
    e = .reportDesc := by
  unfold nextItem fetchItem at h
  split_ifs at h
  · dsimp only at h
    split_ifs at h
    cases h
    rfl
  · cases h
    rfl

lemma derefOffset_error {α : Type} {x : Option α} {e : Stop} (h : derefOffset x = .error e) :
    e = .offsetTab := by
  cases x with
  | none =>
      cases h
      rfl
  | some a => cases h

lemma pushNode_error {path : HIDPath} {node : HIDNode} {e : Stop}
    (h : pushNode path node = .error e) : e = .node := by
  unfold pushNode at h
  split_ifs at h
  cases h
  rfl

lemma pushIndex_error {path : HIDPath} {v : ℤ} {e : Stop} (h : pushIndex path v = .error e) :
    e = .node := by
  unfold pushIndex at h
  split_ifs at h
  exact pushNode_error h

lemma unstackUsage_error {tab : Vector HIDNode usageTabSize} {size : UInt8} {e : Stop}
    (h : unstackUsage tab size = .error e) : e = .usageTab := by
  unfold unstackUsage at h
  split_ifs at h
  cases hshift : shiftDown tab 0 size.toNat with
  | none =>
      rw [hshift] at h
      cases h
      rfl
  | some tab' =>
      rw [hshift] at h
      cases h

lemma openCollection_error {p : HIDParser} {e : Stop} (h : openCollection p = .error e) :
    e = .node ∨ e = .usageTab := by
  rw [openCollection, except_bind_error] at h
  obtain h | ⟨path, -, h⟩ := h
  · exact .inl (pushNode_error h)
  rw [except_bind_error] at h
  obtain h | ⟨⟨tab, n⟩, -, h⟩ := h
  · exact .inr (unstackUsage_error h)
  dsimp only at h
  rw [except_bind_error] at h
  obtain h | ⟨path', -, h⟩ := h
  · exact .inl (pushIndex_error h)
  · cases h

lemma dataItem_error {p : HIDParser} {e : Stop} (h : dataItem p = .error e) :
    e = .node ∨ e = .usageTab ∨ e = .offsetTab := by
  rw [dataItem, except_bind_error] at h
  obtain h | ⟨path, -, h⟩ := h
  · exact .inl (pushNode_error h)
  rw [except_bind_error] at h
  obtain h | ⟨⟨tab, n⟩, -, h⟩ := h
  · exact .inr (.inl (unstackUsage_error h))
  dsimp only at h
  rw [except_bind_error] at h
  obtain h | ⟨row, -, h⟩ := h
  · exact .inr (.inr (derefOffset_error h))
  rw [except_bind_error] at h
  obtain h | ⟨row', -, h⟩ := h
  · exact .inr (.inr (derefOffset_error h))
  · cases h

/-- A turn stops at one of the parser's tables. -/
lemma parseTurn_error {abi : Abi} {p : HIDParser} {e : Stop} (h : parseTurn abi p = .error e) :
    e ∈ [.reportDesc, .node, .usageTab, .offsetTab] := by
  rcases except_bind_error.mp h with h | ⟨r, -, h⟩
  · rw [nextItem_error h]
    decide
  unfold dispatch at h
  cases htag : Tag.ofItem r.item <;> simp only [htag, except_map_error] at h
  case feature | input | output =>
    rcases dataItem_error h with rfl | rfl | rfl <;> decide
  case usage =>
    unfold pushUsage at h
    split_ifs at h
    cases h
    decide
  case collection => rcases openCollection_error h with rfl | rfl <;> decide
  case endCollection =>
    unfold closeCollection at h
    dsimp only at h
    split_ifs at h
    cases h
    decide
  all_goals cases h

/-! ## Termination -/

/-- A pending count belongs to a data item. -/
def HIDParser.Ready (p : HIDParser) : Prop := p.count = 0 ∨ (Tag.ofItem p.item).isData = true

/-- An item that is pending is a data item. -/
lemma HIDParser.Ready.tag_ne {p : HIDParser} {t : Tag} (h : p.Ready) (hc : p.count ≠ 0)
    (ht : t.isData = false) : Tag.ofItem p.item ≠ t :=
  ne_of_isData (h.resolve_left hc) ht

lemma resetParser_ready (p : HIDParser) : (resetParser p).Ready := .inl rfl

lemma DispatchFrame.ready {p q : HIDParser} (h : DispatchFrame p q) (hp : p.Ready) : q.Ready := by
  unfold HIDParser.Ready at hp ⊢
  rw [h.item]
  rcases h.count with hc | hdata
  · rwa [hc]
  · exact .inr hdata

lemma itemSize_le (item : UInt8) : itemSize item ≤ 4 := by
  unfold itemSize
  split <;> omega

/-- Inside the buffer, the position behind an item does not wrap. -/
lemma behindItem_toNat {pos : UInt16} {item : UInt8}
    (h : pos.toNat + 1 + itemSize item ≤ reportDscSize) :
    (pos + 1 + UInt16.ofNat (itemSize item)).toNat = pos.toNat + 1 + itemSize item := by
  have hsize := itemSize_le item
  have hdsc : reportDscSize = 6144 := rfl
  have hof : (UInt16.ofNat (itemSize item)).toNat = itemSize item :=
    UInt16.toNat_ofNat_of_lt (by simp [UInt16.size]; omega)
  have h1 : (pos + 1).toNat = pos.toNat + 1 := toNat_add16 (by simp; omega)
  rw [toNat_add16 (by rw [h1, hof]; omega), h1, hof]

/-- The item fetch moves on by at least one byte and stays inside the buffer. -/
lemma fetchItem_pos {abi : Abi} {p q : HIDParser} (h : fetchItem abi p = .ok q) :
    p.pos.toNat < q.pos.toNat ∧ q.pos.toNat ≤ reportDscSize := by
  obtain ⟨hpos, item, -, hroom, rfl⟩ := fetchItem_ok h
  have hnext := behindItem_toNat hroom
  dsimp only
  omega

/-- A turn fetches an item, or continues the pending one. -/
lemma parseTurn_ok {abi : Abi} {p q : HIDParser} {o : Option HIDData}
    (h : parseTurn abi p = .ok (q, o)) :
    (p.count = 0 ∧ ∃ r, fetchItem abi p = .ok r ∧ dispatch abi r = .ok (q, o)) ∨
      (p.count ≠ 0 ∧ dispatch abi p = .ok (q, o)) := by
  simp only [parseTurn, nextItem, except_bind_ok] at h
  obtain ⟨r, hr, hd⟩ := h
  split_ifs at hr with hcount
  · exact .inl ⟨hcount, r, hr, hd⟩
  · cases hr
    exact .inr ⟨hcount, hd⟩

/-- **Every turn uses up a byte of the descriptor or a pending object.** -/
lemma parseTurn_bounded {abi : Abi} {p q : HIDParser} {o : Option HIDData} (hp : p.Ready)
    (hl : p.live = true) (h : parseTurn abi p = .ok (q, o)) : q.Ready ∧ q.budget < p.budget := by
  have hlt : p.pos.toNat < p.reportDescSize.toNat := by
    simpa [HIDParser.live, UInt16.lt_iff_toNat_lt] using hl
  have hcount_le := q.count.toNat_lt
  rcases parseTurn_ok h with ⟨hcount, r, hr, hd⟩ | ⟨hcount, hd⟩
  · -- an item was fetched: whatever the new count, a byte is worth 256 turns
    obtain ⟨hlt', hle⟩ := fetchItem_pos hr
    obtain ⟨-, item, -, -, hr'⟩ := fetchItem_ok hr
    have hframe := dispatch_frame hd
    have hsize : q.reportDescSize = p.reportDescSize := by rw [hframe.reportDescSize, hr']
    have hpos := hframe.pos_le hle
    refine ⟨hframe.ready (.inl (by rw [hr']; exact hcount)), ?_⟩
    rw [HIDParser.budget, HIDParser.budget, hsize]
    omega
  · -- the pending data item: one object less is due
    have hdata : (Tag.ofItem p.item).isData = true := hp.resolve_left hcount
    rw [dispatch_data hdata, except_map_ok] at hd
    obtain ⟨⟨q', object⟩, hobject, hsame⟩ := hd
    cases hsame
    obtain ⟨t⟩ := dataItem_ok hobject
    obtain ⟨-, hsize, hitem, -, hpos, -, -, hc⟩ := t.frame
    rw [if_neg hcount] at hc
    refine ⟨.inr (by rw [hitem]; exact hdata), ?_⟩
    have hpred := toNat_sub_one8 (toNat_ne_zero8.mp hcount)
    have hpos' := toNat_ne_zero8.mp hcount
    rw [HIDParser.budget, HIDParser.budget, hsize, hpos, hc]
    omega

/-- `HIDParse` always returns, and so do the loops around it. -/
theorem parser_bounded (abi : Abi) : (parser abi).Bounded HIDParser.Ready :=
  ⟨fun hp hl h => parseTurn_bounded hp hl h⟩

end Libhid
