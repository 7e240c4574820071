import Mathlib.Algebra.Group.Int.Defs
import Mathlib.Algebra.Group.Nat.Defs
import Mathlib.Data.Int.Basic
import Mathlib.Data.List.Basic
import Mathlib.Order.Basic
import Mathlib.Tactic.Common

/-!
# The parser's data types (`hidparser/hidtypes.h`)

The records of `hidtypes.h` with the widths they have there: `uchar` is `UInt8`, `ushort` is
`UInt16`, tables are vectors of the declared sizes.  A `long`, an `ulong` and a `char` depend on the
platform; `Abi` carries what the code depends on, and a value of one of these types is the integer
it denotes, with the conversions of C written out (`Abi.toLong`, `Abi.toULong`, `Abi.toChar`).

An access outside a table is undefined in C, and a run that makes one stops there: `Stop` names
the table.
-/

namespace Libhid

/-! ## Constants -/

/-- `PATH_SIZE`, the maximum depth of a path. -/
abbrev pathSize : ℕ := 10

/-- `USAGE_TAB_SIZE`, the size of the usage stack. -/
abbrev usageTabSize : ℕ := 50

/-- `MAX_REPORT`, the rows of the report table. -/
abbrev maxReport : ℕ := 300

/-- `REPORT_DSC_SIZE`, the room for the report descriptor. -/
abbrev reportDscSize : ℕ := 6144

/-- `SIZE_MASK`, the size bits of an item's prefix byte. -/
abbrev sizeMask : UInt8 := 0x03

/-- `ITEM_MASK`, the type and tag bits of an item's prefix byte. -/
abbrev itemMask : UInt8 := 0xFC

/-! ## The platform -/

/-- The two widths of `long`. -/
inductive LongWidth
  | w32
  | w64
  deriving DecidableEq, Repr

/-- The number of bits. -/
def LongWidth.bits : LongWidth → ℕ
  | .w32 => 32
  | .w64 => 64

/-- What the code takes from its platform: the width of `long`, the signedness of `char` and the
byte order, which `configure` tests for `WORDS_BIGENDIAN`. -/
structure Abi where
  longWidth : LongWidth
  charSigned : Bool
  wordsBigEndian : Bool
  deriving DecidableEq, Repr

namespace Abi

/-- A little-endian platform. -/
abbrev little (w : LongWidth) (charSigned : Bool) : Abi := ⟨w, charSigned, false⟩

/-- Conversion to `long`. -/
def toLong (abi : Abi) (v : ℤ) : ℤ := v.bmod (2 ^ abi.longWidth.bits)

/-- Conversion to `unsigned long`. -/
def toULong (abi : Abi) (v : ℤ) : ℤ := v % 2 ^ abi.longWidth.bits

/-- Conversion to `char`. -/
def toChar (abi : Abi) (v : ℤ) : ℤ := if abi.charSigned then v.bmod 256 else v % 256

end Abi

/-- Conversion to `uchar`. -/
def uchar (v : ℤ) : UInt8 := UInt8.ofNat (v % 256).toNat

/-- Conversion to `ushort`. -/
def ushort (v : ℤ) : UInt16 := UInt16.ofNat (v % 65536).toNat

/-- Conversion to `short`. -/
def short (v : ℤ) : ℤ := v.bmod 65536

/-! ## Records -/

/-- `HIDNode`, a point of a path. -/
structure HIDNode where
  uPage : UInt16
  usage : UInt16
  deriving DecidableEq, Repr

instance : Inhabited HIDNode := ⟨⟨0, 0⟩⟩

/-- `HIDPath`: the first `size` of the nodes are the path. -/
structure HIDPath where
  size : UInt8
  node : Vector HIDNode pathSize
  deriving DecidableEq

/-- The nodes of the path proper. -/
def HIDPath.nodes (path : HIDPath) : List HIDNode := path.node.toList.take path.size.toNat

/-- `HIDData`, an object with its location in a report. -/
structure HIDData where
  value : ℤ
  path : HIDPath
  reportID : UInt8
  offset : UInt8
  size : UInt8
  type : UInt8
  attrib : UInt8
  unit : ℤ
  unitExp : ℤ
  logMin : ℤ
  logMax : ℤ
  phyMin : ℤ
  phyMax : ℤ
  deriving DecidableEq

/-- A row of `OffsetTab`: report ID, report type and the bits counted so far. -/
structure ReportRow where
  id : UInt8
  type : UInt8
  offset : UInt8
  deriving DecidableEq, Repr

/-- `HIDParser`. -/
structure HIDParser where
  reportDesc : Vector UInt8 reportDscSize
  reportDescSize : UInt16
  pos : UInt16
  item : UInt8
  value : ℤ
  data : HIDData
  offsetTab : Vector ReportRow maxReport
  reportCount : UInt8
  count : UInt8
  uPage : UInt16
  usageTab : Vector HIDNode usageTabSize
  usageSize : UInt8
  nObject : UInt8
  nReport : UInt8

/-- An all-zero `HIDNode`, as `memset` leaves it. -/
def HIDNode.zero : HIDNode := ⟨0, 0⟩

/-- An all-zero `HIDData`, as `memset` leaves it. -/
def HIDData.zero : HIDData where
  value := 0
  path := ⟨0, Vector.replicate pathSize .zero⟩
  reportID := 0
  offset := 0
  size := 0
  type := 0
  attrib := 0
  unit := 0
  unitExp := 0
  logMin := 0
  logMax := 0
  phyMin := 0
  phyMax := 0

/-- An all-zero row of the report table. -/
def ReportRow.zero : ReportRow := ⟨0, 0, 0⟩

/-- A `HIDParser` whose bytes are all zero. -/
def HIDParser.zero : HIDParser where
  reportDesc := Vector.replicate reportDscSize 0
  reportDescSize := 0
  pos := 0
  item := 0
  value := 0
  data := .zero
  offsetTab := Vector.replicate maxReport .zero
  reportCount := 0
  count := 0
  uPage := 0
  usageTab := Vector.replicate usageTabSize .zero
  usageSize := 0
  nObject := 0
  nReport := 0

/-- The buffer of a descriptor, padded with zeros and cut off at its size. -/
def descBuffer (bytes : List UInt8) : Vector UInt8 reportDscSize :=
  ⟨⟨bytes.take reportDscSize ++ List.replicate (reportDscSize - bytes.length) 0⟩, by simp; omega⟩

/-- A fresh parser that holds a descriptor. -/
def HIDParser.holding (bytes : List UInt8) : HIDParser :=
  { HIDParser.zero with
    reportDesc := descBuffer bytes
    reportDescSize := UInt16.ofNat bytes.length }

/-! ## Where a run stops -/

/-- The table an access left, or a loop that does not end. -/
inductive Stop
  /-- `ReportDesc`. -/
  | reportDesc
  /-- `Data.Path.Node`. -/
  | node
  /-- `UsageTab`. -/
  | usageTab
  /-- `OffsetTab`: the pointer `GetReportOffset` returned is `NULL`. -/
  | offsetTab
  /-- `open_hid_device_list.hidif`. -/
  | openList
  /-- The block that `hid_find_object` formats its warning in. -/
  | warning
  /-- The buffer that a value is read from. -/
  | itemBuffer
  /-- A `NULL` pointer that is not checked. -/
  | null
  /-- The loop never ends. -/
  | loops
  deriving DecidableEq, Repr

/-! ## Items -/

/-- The cases of the parser's `switch`. -/
inductive Tag
  | uPage | usage | collection | endCollection
  | feature | input | output
  | repId | repSize | repCount | unitExp | unit
  | logMin | logMax | phyMin | phyMax
  | long | other
  deriving DecidableEq, Repr

/-- The constants `ITEM_…` of the cases. -/
def Tag.code : Tag → UInt8
  | .uPage => 0x04
  | .usage => 0x08
  | .collection => 0xA0
  | .endCollection => 0xC0
  | .feature => 0xB0
  | .input => 0x80
  | .output => 0x90
  | .repId => 0x84
  | .repSize => 0x74
  | .repCount => 0x94
  | .unitExp => 0x54
  | .unit => 0x64
  | .logMin => 0x14
  | .logMax => 0x24
  | .phyMin => 0x34
  | .phyMax => 0x44
  | .long => 0xFC
  | .other => 0x00

/-- The case the `switch` takes on a prefix byte. -/
def Tag.ofItem (item : UInt8) : Tag :=
  ([.uPage, .usage, .collection, .endCollection, .feature, .input, .output, .repId, .repSize,
    .repCount, .unitExp, .unit, .logMin, .logMax, .phyMin, .phyMax, .long].find?
      fun t => t.code == item &&& itemMask).getD .other

/-- Input, Output and Feature items, the ones that produce objects. -/
def Tag.isData : Tag → Bool
  | .feature | .input | .output => true
  | _ => false

/-- Items after which the local state starts anew. -/
def Tag.isMain : Tag → Bool
  | .collection | .endCollection | .feature | .input | .output => true
  | _ => false

/-- `ItemSize`, the number of data bytes of a short item. -/
def itemSize (item : UInt8) : ℕ :=
  match (item &&& sizeMask).toNat with
  | 0 => 0
  | 1 => 1
  | 2 => 2
  | _ => 4

end Libhid
