import Mathlib.Data.Finset.Insert
import Mathlib.Data.Finset.Card
import Libhid.Parser.Values

/-!
# Descriptors item by item

What a report descriptor means, read in one pass over its items: `Context.step` says what an item
changes and which fields it declares, `interpret` runs it over a descriptor.  Nothing here is
suspended, counted down or kept in tables; `WellFormed` collects what the parser's tables and bytes
have room for.
-/

namespace Libhid

/-! ## Items and their bytes -/

/-- A short item: its tag, and 0, 1, 2 or 4 data bytes. -/
structure Item where
  tag : Tag
  data : List UInt8
  short : tag ≠ .long ∧ tag ≠ .other
  size : data.length ∈ [0, 1, 2, 4]

/-- The item of a tag and its data. -/
def Item.of (tag : Tag) (data : List UInt8) (short : tag ≠ .long ∧ tag ≠ .other := by decide)
    (size : data.length ∈ [0, 1, 2, 4] := by decide) : Item := ⟨tag, data, short, size⟩

/-- The size bits for a number of data bytes. -/
def sizeBits : ℕ → UInt8
  | 0 => 0
  | 1 => 1
  | 2 => 2
  | _ => 3

namespace Item

variable (i : Item)

/-- The first byte of an item. -/
def head : UInt8 := i.tag.code ||| sizeBits i.data.length

/-- The bytes of an item. -/
def encode : List UInt8 := i.head :: i.data

/-- The number the data bytes encode. -/
def number : ℕ := leNat i.data

/-- The number as a `long` holds it. -/
def value (abi : Abi) : ℤ := abi.toLong i.number

lemma head_bits : Tag.ofItem i.head = i.tag ∧ itemSize i.head = i.data.length ∧
    i.head &&& itemMask = i.tag.code ∧ (i.head &&& sizeMask > 2 ↔ i.data.length = 4) := by
  obtain ⟨tag, data, ⟨hlong, hother⟩, hsize⟩ := i
  unfold head
  dsimp only at *
  generalize data.length = n at *
  simp only [List.mem_cons, List.not_mem_nil, or_false] at hsize
  cases tag <;> first
    | exact absurd rfl hlong
    | exact absurd rfl hother
    | (rcases hsize with rfl | rfl | rfl | rfl <;> decide)

@[simp] lemma head_tag : Tag.ofItem i.head = i.tag := i.head_bits.1

@[simp] lemma head_size : itemSize i.head = i.data.length := i.head_bits.2.1

@[simp] lemma head_mask : i.head &&& itemMask = i.tag.code := i.head_bits.2.2.1

lemma head_four : i.head &&& sizeMask > 2 ↔ i.data.length = 4 := i.head_bits.2.2.2

lemma data_length_le : i.data.length ≤ 4 := by
  have h := i.size
  simp only [List.mem_cons, List.not_mem_nil, or_false] at h
  omega

end Item

/-- The bytes of a descriptor. -/
def encodeItems (items : List Item) : List UInt8 := items.flatMap Item.encode

/-! ## One pass over the items -/

/-- A field a data item declares. -/
structure Field where
  path : List HIDNode
  reportID : UInt8
  offset : ℕ
  size : ℕ
  type : UInt8
  attrib : UInt8
  unit : ℤ
  unitExp : ℤ
  logMin : ℤ
  logMax : ℤ
  phyMin : ℤ
  phyMax : ℤ
  deriving DecidableEq

/-- What is in force between two items. -/
structure Context where
  /-- The usage page, once it is set. -/
  uPage : Option UInt16
  /-- The usages since the last main item. -/
  usages : List HIDNode
  /-- The open collections, each with its index if it has one, the innermost last. -/
  opened : List (HIDNode × Option UInt16)
  reportID : Option UInt8
  reportSize : Option ℕ
  reportCount : Option ℕ
  /-- The reports declared so far, and the bits of each. -/
  reports : Finset (UInt8 × UInt8)
  bits : UInt8 × UInt8 → ℕ
  unit : ℤ
  unitExp : ℤ
  logMin : ℤ
  logMax : ℤ
  phyMin : ℤ
  phyMax : ℤ

namespace Context

/-- Nothing set, nothing open, nothing declared. -/
def initial : Context where
  uPage := none
  usages := []
  opened := []
  reportID := none
  reportSize := none
  reportCount := none
  reports := ∅
  bits _ := 0
  unit := 0
  unitExp := 0
  logMin := 0
  logMax := 0
  phyMin := 0
  phyMax := 0

/-- The nodes of one collection. -/
def nodes (collection : HIDNode × Option UInt16) : List HIDNode :=
  collection.1 :: collection.2.toList.map fun index => ⟨0xFF, index⟩

variable (abi : Abi) (c : Context) (i : Item)

/-- The nodes of the open collections. -/
def path : List HIDNode := c.opened.flatMap nodes

/-- The node of a usage item: it has its own page if it has four bytes. -/
def usage : HIDNode where
  uPage := if i.data.length = 4 then UInt16.ofNat (i.number / 65536) else c.uPage.getD 0
  usage := UInt16.ofNat (i.number % 65536)

/-- The collection an item opens, with an index for a value from `0x80` on. -/
def collection : HIDNode × Option UInt16 :=
  (c.usages.headD .zero, if i.value abi ≥ 0x80 then some (UInt16.ofNat (i.number % 0x80)) else none)

/-- The report a data item belongs to. -/
def report : UInt8 × UInt8 := (c.reportID.getD 0, i.tag.code)

/-- The `k`-th field of a data item. -/
def field (k : ℕ) : Field where
  path := c.path ++ [c.usages.getD k .zero]
  reportID := c.reportID.getD 0
  offset := c.bits (c.report i) + k * c.reportSize.getD 0
  size := c.reportSize.getD 0
  type := i.tag.code
  attrib := UInt8.ofNat i.number
  unit := c.unit
  unitExp := c.unitExp
  logMin := c.logMin
  logMax := c.logMax
  phyMin := c.phyMin
  phyMax := c.phyMax

/-- After `k` fields of a data item. -/
def advance (k : ℕ) : Context :=
  { c with
    usages := c.usages.drop k
    reports := insert (c.report i) c.reports
    bits := Function.update c.bits (c.report i) (c.bits (c.report i) + k * c.reportSize.getD 0) }

/-- After an item. -/
def step : Context :=
  match i.tag with
  | .uPage => { c with uPage := some (UInt16.ofNat i.number) }
  | .usage => { c with usages := c.usages ++ [c.usage i] }
  | .collection => { c with opened := c.opened ++ [c.collection abi i], usages := [] }
  | .endCollection => { c with opened := c.opened.dropLast, usages := [] }
  | .feature | .input | .output => { c.advance i (c.reportCount.getD 0) with usages := [] }
  | .repId => { c with reportID := some (UInt8.ofNat i.number) }
  | .repSize => { c with reportSize := some i.number }
  | .repCount => { c with reportCount := some i.number }
  | .unitExp => { c with unitExp := unitExponent abi (i.value abi) }
  | .unit => { c with unit := abi.toULong (i.value abi) }
  | .logMin => { c with logMin := formatValue abi (i.value abi) i.data.length }
  | .logMax => { c with logMax := formatValue abi (i.value abi) i.data.length }
  | .phyMin => { c with phyMin := formatValue abi (i.value abi) i.data.length }
  | .phyMax => { c with phyMax := formatValue abi (i.value abi) i.data.length }
  | .long | .other => c

/-- The fields an item declares. -/
def fields : List Field :=
  if i.tag.isData then (List.range (c.reportCount.getD 0)).map (c.field i) else []

/-- What an item needs of its context. -/
def Admits : Prop :=
  match i.tag with
  | .usage => i.data.length < 4 → c.uPage.isSome = true
  | .collection => c.usages.length ≤ 49 ∧ (c.usages.headD .zero).uPage ≠ 0xFF ∧
      (c.step abi i).path.length ≤ 9
  | .endCollection => c.usages.length ≤ 49 ∧ c.opened ≠ []
  | .feature | .input | .output => c.usages.length ≤ 49 ∧ c.opened ≠ [] ∧
      c.reportID.isSome = true ∧ c.reportSize.isSome = true ∧ c.reportCount.isSome = true ∧
      c.reportCount.getD 0 ≤ c.usages.length ∧ (c.step abi i).reports.card ≤ maxReport ∧
      (c.step abi i).bits (c.report i) ≤ 255
  | .repId | .repSize | .repCount => 1 ≤ i.number ∧ i.number ≤ 255
  | _ => True

instance : Decidable (c.Admits abi i) :=
  match htag : i.tag with
  | .usage => decidable_of_iff (i.data.length < 4 → c.uPage.isSome = true)
      (by simp only [Admits, htag])
  | .collection => decidable_of_iff (c.usages.length ≤ 49 ∧
      (c.usages.headD .zero).uPage ≠ 0xFF ∧ (c.step abi i).path.length ≤ 9)
      (by simp only [Admits, htag])
  | .endCollection => decidable_of_iff (c.usages.length ≤ 49 ∧ c.opened ≠ [])
      (by simp only [Admits, htag])
  | .feature | .input | .output => decidable_of_iff (c.usages.length ≤ 49 ∧ c.opened ≠ [] ∧
      c.reportID.isSome = true ∧ c.reportSize.isSome = true ∧ c.reportCount.isSome = true ∧
      c.reportCount.getD 0 ≤ c.usages.length ∧ (c.step abi i).reports.card ≤ maxReport ∧
      (c.step abi i).bits (c.report i) ≤ 255) (by simp only [Admits, htag])
  | .repId | .repSize | .repCount => decidable_of_iff (1 ≤ i.number ∧ i.number ≤ 255)
      (by simp only [Admits, htag])
  | .uPage | .unitExp | .unit | .logMin | .logMax | .phyMin | .phyMax | .long | .other =>
      .isTrue (by simp only [Admits, htag])

end Context

/-- The fields of a descriptor, in order. -/
def interpret (abi : Abi) : Context → List Item → List Field
  | _, [] => []
  | c, i :: items => c.fields i ++ interpret abi (c.step abi i) items

/-- Every item is admitted, and every collection closed. -/
def WellFormed (abi : Abi) : Context → List Item → Prop
  | c, [] => c.opened = []
  | c, i :: items => c.Admits abi i ∧ WellFormed abi (c.step abi i) items

instance (abi : Abi) : (c : Context) → (items : List Item) → Decidable (WellFormed abi c items)
  | c, [] => inferInstanceAs (Decidable (c.opened = []))
  | c, i :: items =>
      have : Decidable (WellFormed abi (c.step abi i) items) := instDecidableWellFormed abi _ items
      inferInstanceAs (Decidable (c.Admits abi i ∧ WellFormed abi (c.step abi i) items))

/-- The number of usages after the last main item, `n` of them pending before the items. -/
def usagesAtEnd : ℕ → List Item → ℕ
  | n, [] => n
  | n, i :: items =>
      usagesAtEnd (if i.tag.isMain then 0 else if i.tag = .usage then n + 1 else n) items

end Libhid
