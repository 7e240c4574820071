import Libhid.Framework.Generator
import Libhid.Framework.Tables
import Libhid.Parser.Types

/-!
# The parser (`hidparser/hidparser.c`)

`resetParser`, `getReportOffset`, `hidParse` and `findObject` as the source computes them.  A call
of `HIDParse` is a loop that stops at the first object; its body, `parseTurn`, fetches an item
unless a data item is still being expanded, and then runs the case of the `switch` the item
selects, one definition for each case that does more than set a field.  The loop and the loop of
`FindObject` around it are the generator `parser`, and its fuel, `budget`, is shown to be enough in
`Libhid.Parser.Turns`.
-/

namespace Libhid

open Framework

/-! ## Report counters -/

/-- `GetReportOffset` takes a row with report ID `0` for the end of the table. -/
def ReportRow.free (r : ReportRow) : Bool := r.id == 0

/-- What `GetReportOffset` compares. -/
def ReportRow.key (r : ReportRow) : UInt8 × UInt8 := (r.id, r.type)

/-- `GetReportOffset` on the table and the count of its rows: the row whose third byte the returned
pointer designates, `none` for `NULL`.  A key that is not found takes the first free row. -/
def getReportOffset (offsetTab : Vector ReportRow maxReport) (nReport reportID reportType : UInt8) :
    Option (Fin maxReport × Vector ReportRow maxReport × UInt8) :=
  match probe ReportRow.free ReportRow.key offsetTab (reportID, reportType) with
  | none => none
  | some pos =>
      if (offsetTab.get pos).id ≠ 0 then some (pos, offsetTab, nReport)
      else some (pos, offsetTab.set pos ⟨reportID, reportType, 0⟩ pos.isLt, nReport + 1)

/-- The pointer `GetReportOffset` returned is used without a test. -/
def derefOffset {α : Type} : Option α → Except Stop α
  | none => .error .offsetTab
  | some a => .ok a

/-! ## Resetting -/

/-- `ResetParser`. -/
def resetParser (p : HIDParser) : HIDParser :=
  { p with
    pos := 0
    count := 0
    nObject := 0
    nReport := 0
    usageSize := 0
    usageTab := Vector.replicate usageTabSize .zero
    offsetTab := Vector.replicate maxReport .zero
    data := .zero }

/-- `ResetLocalState`. -/
def resetLocalState (p : HIDParser) : HIDParser :=
  { p with
    usageSize := 0
    usageTab := Vector.replicate usageTabSize .zero }

/-! ## Fetching an item -/

/-- The number a little-endian byte string encodes. -/
def leNat : List UInt8 → ℕ
  | [] => 0
  | b :: bs => b.toNat + 256 * leNat bs

namespace Abi

/-- The `WORDS_BIGENDIAN` loop, from the `i`-th data byte on: each byte is copied to the first
byte of an `unsigned long`, its most significant one, and shifted down by `(3-i)*8`. -/
def loadBig (abi : Abi) : ℕ → List UInt8 → ℤ
  | _, [] => 0
  | i, b :: bs =>
      ((b.toNat * 2 ^ (abi.longWidth.bits - 8)) >>> ((3 - i) * 8) : ℕ) + loadBig abi (i + 1) bs

/-- `Value` after the data bytes of an item were copied into it. -/
def load (abi : Abi) (bytes : List UInt8) : ℤ :=
  if abi.wordsBigEndian then abi.toLong (abi.loadBig 0 bytes) else abi.toLong (leNat bytes)

end Abi

/-- The `n` bytes of the descriptor from `pos` on. -/
def HIDParser.bytesAt (p : HIDParser) (pos n : ℕ) : List UInt8 :=
  (p.reportDesc.toList.drop pos).take n

/-- The item fetch: prefix byte, data bytes, position of the next item. -/
def fetchItem (abi : Abi) (p : HIDParser) : Except Stop HIDParser :=
  if h : p.pos.toNat < reportDscSize then
    let item := p.reportDesc[p.pos.toNat]
    if p.pos.toNat + 1 + itemSize item ≤ reportDscSize then
      .ok { p with
        item := item
        value := abi.load (p.bytesAt (p.pos.toNat + 1) (itemSize item))
        pos := p.pos + 1 + UInt16.ofNat (itemSize item) }
    else .error .reportDesc
  else .error .reportDesc

/-! ## The cases of the switch -/

/-- `FormatValue`. -/
def formatValue (abi : Abi) (value : ℤ) (size : ℕ) : ℤ :=
  if size = 1 then abi.toChar value
  else if size = 2 then short value
  else value

/-- `ITEM_UNIT_EXP`: a value above 7 becomes negative. -/
def unitExponent (abi : Abi) (value : ℤ) : ℤ :=
  let unitExp := abi.toChar value
  if unitExp > 7 then abi.toChar (unitExp.toNat ||| 0xF0 : ℕ) else unitExp

/-- The node a usage item stands for, with its own page if the item has four data bytes. -/
def usageNode (p : HIDParser) : HIDNode where
  uPage := if p.item &&& sizeMask > 2 then ushort (p.value / 65536) else p.uPage
  usage := ushort (p.value % 65536)

/-- `ITEM_USAGE`: stack a usage. -/
def pushUsage (p : HIDParser) : Except Stop HIDParser :=
  if h : p.usageSize.toNat < usageTabSize then
    .ok { p with
      usageTab := p.usageTab.set p.usageSize.toNat (usageNode p)
      usageSize := p.usageSize + 1 }
  else .error .usageTab

/-- Store a node behind the path and lengthen the path by it. -/
def pushNode (path : HIDPath) (node : HIDNode) : Except Stop HIDPath :=
  if h : path.size.toNat < pathSize then
    .ok ⟨path.size + 1, path.node.set path.size.toNat node⟩
  else .error .node

/-- `UsageTab[0]`, the usage of the next node even if no usage is stacked. -/
def HIDParser.firstUsage (p : HIDParser) : HIDNode := p.usageTab[0]

/-- Unstack a usage: every entry moves one place down, the last one from above the stack. -/
def unstackUsage (usageTab : Vector HIDNode usageTabSize) (usageSize : UInt8) :
    Except Stop (Vector HIDNode usageTabSize × UInt8) :=
  if usageSize > 0 then
    match shiftDown usageTab 0 usageSize.toNat with
    | none => .error .usageTab
    | some usageTab => .ok (usageTab, usageSize - 1)
  else .ok (usageTab, usageSize)

/-- "Get Index if any": a collection value from `0x80` on gives an index node. -/
def pushIndex (path : HIDPath) (value : ℤ) : Except Stop HIDPath :=
  if value ≥ 0x80 then pushNode path ⟨0xFF, ushort (value % 0x80)⟩ else .ok path

/-- `ITEM_COLLECTION`: one node for its usage and one for its index. -/
def openCollection (p : HIDParser) : Except Stop HIDParser := do
  let path ← pushNode p.data.path p.firstUsage
  let (usageTab, usageSize) ← unstackUsage p.usageTab p.usageSize
  let path ← pushIndex path p.value
  .ok (resetLocalState { p with
    data := { p.data with path := path }
    usageTab := usageTab
    usageSize := usageSize })

/-- `ITEM_END_COLLECTION`: drop a node, and one more if the dropped one is an index node. -/
def closeCollection (p : HIDParser) : Except Stop HIDParser :=
  let size := p.data.path.size - 1
  if h : size.toNat < pathSize then
    let size := if p.data.path.node[size.toNat].uPage = 0xFF then size - 1 else size
    .ok (resetLocalState { p with
      data := { p.data with path := ⟨size, p.data.path.node⟩ } })
  else .error .node

/-- `ITEM_FEATURE`, `ITEM_INPUT` and `ITEM_OUTPUT`: the next object of the item. -/
def dataItem (p : HIDParser) : Except Stop (HIDParser × HIDData) := do
  let count := if p.count = 0 then p.reportCount else p.count
  let path ← pushNode p.data.path p.firstUsage
  let (usageTab, usageSize) ← unstackUsage p.usageTab p.usageSize
  let type := p.item &&& itemMask
  let (pos, offsetTab, nReport) ←
    derefOffset (getReportOffset p.offsetTab p.nReport p.data.reportID type)
  let object := { p.data with
    path := path
    type := type
    attrib := uchar p.value
    offset := (offsetTab.get pos).offset }
  let (pos, offsetTab, nReport) ←
    derefOffset (getReportOffset offsetTab nReport p.data.reportID type)
  let row := offsetTab.get pos
  let offsetTab := offsetTab.set pos { row with offset := row.offset + p.data.size } pos.isLt
  let p := { p with
    nObject := p.nObject + 1
    count := count - 1
    data := { object with path := ⟨path.size - 1, path.node⟩ }
    offsetTab := offsetTab
    nReport := nReport
    usageTab := usageTab
    usageSize := usageSize }
  .ok (if count - 1 = 0 then resetLocalState p else p, object)

/-- `switch(pParser->Item & ITEM_MASK)`. -/
def dispatch (abi : Abi) (p : HIDParser) : Except Stop (HIDParser × Option HIDData) :=
  match Tag.ofItem p.item with
  | .uPage => .ok ({ p with uPage := ushort p.value }, none)
  | .usage => (pushUsage p).map (·, none)
  | .collection => (openCollection p).map (·, none)
  | .endCollection => (closeCollection p).map (·, none)
  | .feature | .input | .output => (dataItem p).map fun (p, object) => (p, some object)
  | .repId => .ok ({ p with data := { p.data with reportID := uchar p.value } }, none)
  | .repSize => .ok ({ p with data := { p.data with size := uchar p.value } }, none)
  | .repCount => .ok ({ p with reportCount := uchar p.value }, none)
  | .unitExp => .ok ({ p with data := { p.data with unitExp := unitExponent abi p.value } }, none)
  | .unit => .ok ({ p with data := { p.data with unit := abi.toULong p.value } }, none)
  | .logMin => .ok ({ p with
      data := { p.data with logMin := formatValue abi p.value (itemSize p.item) } }, none)
  | .logMax => .ok ({ p with
      data := { p.data with logMax := formatValue abi p.value (itemSize p.item) } }, none)
  | .phyMin => .ok ({ p with
      data := { p.data with phyMin := formatValue abi p.value (itemSize p.item) } }, none)
  | .phyMax => .ok ({ p with
      data := { p.data with phyMax := formatValue abi p.value (itemSize p.item) } }, none)
  -- a long item is skipped by its length byte
  | .long => .ok ({ p with pos := p.pos + (uchar p.value).toUInt16 }, none)
  | .other => .ok (p, none)

/-! ## The parser -/

/-- "Get new Item if current Count is empty". -/
def nextItem (abi : Abi) (p : HIDParser) : Except Stop HIDParser :=
  if p.count = 0 then fetchItem abi p else .ok p

/-- One turn of the loop in `HIDParse`. -/
def parseTurn (abi : Abi) (p : HIDParser) : Except Stop (HIDParser × Option HIDData) := do
  let p ← nextItem abi p
  dispatch abi p

/-- The loop condition `Pos<ReportDescSize`. -/
def HIDParser.live (p : HIDParser) : Bool := p.pos < p.reportDescSize

/-- A bound on the turns left: 256 for each byte left, and the objects due of the current item. -/
def HIDParser.budget (p : HIDParser) : ℕ :=
  256 * (p.reportDescSize.toNat - p.pos.toNat) + p.count.toNat

/-- The loop of `HIDParse`, resumed by every call. -/
def parser (abi : Abi) : Generator HIDParser HIDData Stop where
  live := HIDParser.live
  body := parseTurn abi
  μ := HIDParser.budget
  spent := .loops

/-- `HIDParse`: the object found, if any, is what it stores in `*pData`. -/
def hidParse (abi : Abi) (p : HIDParser) : Except Stop (HIDParser × Option HIDData) :=
  (parser abi).next p

/-- The objects successive calls of `HIDParse` deliver until one returns 0, and how they end. -/
def enumerate (abi : Abi) (p : HIDParser) : List HIDData × Except Stop HIDParser :=
  (parser abi).all p

/-! ## Searching -/

/-- `memcmp` of the first nodes of the object and of the query, as many as the query's path has;
past the arrays it leaves them. -/
def comparePath (found query : HIDData) : Except Stop Bool :=
  if query.path.size.toNat ≤ pathSize then
    .ok (found.path.node.toList.take query.path.size.toNat == query.path.nodes)
  else .error .node

/-- The two rules `FindObject` tries on an object, the second one only if the first one fails. -/
def matchesQuery (query found : HIDData) : Except Stop Bool := do
  let byPath ← if query.path.size > 0 && found.type == query.type
    then comparePath found query else .ok false
  .ok (byPath || found.reportID == query.reportID && found.type == query.type &&
    found.offset == query.offset)

/-- `FindObject`: the object found is copied to `*pData`; `none` for a return value of 0. -/
def findObject (abi : Abi) (p : HIDParser) (query : HIDData) :
    Except Stop (HIDParser × Option HIDData) :=
  (parser abi).find (matchesQuery query) (resetParser p)

end Libhid
