import Libhid.Device.Interface

/-!
# Lookup and decoding (`src/hid_parsing.c`, `GetValue`)

The functions between the exchange functions and the parser.  A path is the list of the `depth`
integers its pointer designates.  A lookup that finds nothing stops if `hid_format_path` leaves the
block that is allocated for the warning.
-/

namespace Libhid

open Framework

/-! ## Paths -/

/-- The node for an element of a path. -/
def pathNode (element : ℤ) : HIDNode := ⟨ushort (element / 65536), ushort (element % 65536)⟩

/-- The loop of `hid_prepare_parse_path`, from the `i`-th node on. -/
def writePath (node : Vector HIDNode pathSize) : ℕ → List ℤ → Except Stop (Vector HIDNode pathSize)
  | _, [] => .ok node
  | i, element :: path =>
      if h : i < pathSize then writePath (node.set i (pathNode element)) (i + 1) path
      else .error .node

/-- `hid_prepare_parse_path` on `hid_data`. -/
def hidPrepareParsePath (data : HIDData) (path : List ℤ) : Except Stop HIDData := do
  let node ← writePath data.path.node 0 path
  .ok { data with path := ⟨uchar path.length, node⟩ }

/-! ## Formatting a path -/

/-- A digit of `%x`. -/
def hexDigit (n : ℕ) : UInt8 := UInt8.ofNat (if n < 10 then 0x30 + n else 0x57 + n)

/-- The last `k` digits of a number, the first one first. -/
def hexDigits : ℕ → ℕ → List UInt8
  | 0, _ => []
  | k + 1, n => hexDigits k (n / 16) ++ [hexDigit (n % 16)]

/-- `0x%08x` with an element of a path, which is read as an `unsigned int`. -/
def elementText (element : ℤ) : List UInt8 :=
  [0x30, 0x78] ++ hexDigits 8 (element % 2 ^ 32).toNat

/-- `ITEMSIZE`, `sizeof("0xdeadbeef")`. -/
abbrev pathItemSize : UInt32 := 11

/-- The stores of `snprintf` into `size` bytes from `start` on. -/
def snprintf (start : ℕ) (size : UInt32) (text : List UInt8) : List (UInt8 × ℕ) :=
  if size = 0 then [] else (text.take (size.toNat - 1) ++ [0]).zipIdx start

/-- The loop of `hid_format_path` from the `i`-th element on: its stores, and the number of elements
unless it runs out of space. -/
def formatElements (i length : UInt32) : List ℤ → List (UInt8 × ℕ) × Option UInt32
  | [] => ([], some i)
  | element :: path =>
      if length < pathItemSize then ([], none) else
      let rest := formatElements (i + 1) (length - pathItemSize) path
      (snprintf (i * pathItemSize).toNat (pathItemSize + 1) (elementText element ++ [0x2E]) ++
        rest.1, rest.2)

/-- `hid_format_path`, with what it stores in the buffer. -/
def hidFormatPath (hasBuffer : Bool) (length : UInt32) (path : List ℤ) :
    HidReturn × List (UInt8 × ℕ) :=
  if !hasBuffer then (.invalidParameter, []) else
  match formatElements 0 length path with
  | (stores, none) => (.outOfSpace, stores)
  | (stores, some i) => (.success, stores ++ [(0, (i * pathItemSize - 1).toNat)])

/-- The length of the buffer that `hid_find_object` allocates. -/
def warningLength (path : List ℤ) : UInt32 := UInt32.ofNat path.length * pathItemSize

/-! ## Decoding -/

/-- The bit of a report at a position. -/
def reportBit (buf : ℕ → UInt8) (bit : ℕ) : Bool := (buf (bit / 8)).toNat.testBit (bit % 8)

namespace Abi

/-- `1<<Weight` for an `int` of 32 bits, shifting by the low five bits of the weight. -/
def shiftOne (weight : ℕ) : ℤ := ((2 : ℤ) ^ (weight % 32)).bmod (2 ^ 32)

/-- The loop of `GetValue` with `k` bits left. -/
def getBits (abi : Abi) (buf : ℕ → UInt8) : ℕ → ℕ → ℕ → ℤ → ℤ
  | 0, _, _, value => value
  | k + 1, bit, weight, value =>
      getBits abi buf k (bit + 1) (weight + 1)
        (if reportBit buf bit then abi.toLong (value + shiftOne weight) else value)

/-- `a | ~b` for values of type `long`. -/
def orNot (abi : Abi) (a b : ℤ) : ℤ :=
  abi.toLong ((abi.toULong a).toNat ||| (abi.toULong (-b - 1)).toNat : ℕ)

/-- `GetValue`: the new `Value`. -/
def getValue (abi : Abi) (buf : ℕ → UInt8) (data : HIDData) : ℤ :=
  let value := abi.getBits buf data.size.toNat (data.offset.toNat + 8) 0 0
  if value > data.logMax then abi.orNot value data.logMax else value

end Abi

/-- How many bytes of a buffer `GetValue` reaches. -/
def bytesReached (data : HIDData) : ℕ :=
  if data.size = 0 then 0 else (data.offset.toNat + data.size.toNat + 7) / 8 + 1

/-! ## The functions on an interface -/

section Interface

variable (env : Env)

/-- `hid_init_parser`. -/
def hidInitParser (ref : Ref) : Hid HidReturn := do
  let hidif ← deref ref
  if !hidif.isOpened then pure .deviceNotOpened else
  let hidData ← malloc env env.freshData
  assign ref { hidif with hidData := hidData }
  if hidData.isNone then pure .failAlloc else
  let hidParser ← malloc env env.freshParser
  assign ref { hidif with hidData := hidData, hidParser := hidParser }
  if hidParser.isNone then pure .failAlloc else pure .success

/-- `hid_reset_parser`. -/
def hidResetParser (ref : Ref) : Hid Unit := do
  let hidif ← deref ref
  if !hidif.isOpened then pure () else
  let p ← nonNull hidif.hidParser
  assign ref { hidif with hidParser := some { p with val := resetParser p.val } }

/-- `HIDParse` writes `*pData` only when it finds an object. -/
def storeObject (ref : Ref) (hidif : HIDInterface) : Option HIDData → Hid Unit
  | none => assign ref hidif
  | some object => do
      let d ← nonNull hidif.hidData
      assign ref { hidif with hidData := some { d with val := object } }

/-- `hid_prepare_parser`: reset the parser and parse up to the first object. -/
def hidPrepareParser (ref : Ref) : Hid HidReturn := do
  let hidif ← deref ref
  if !hidif.isOpened then pure .deviceNotOpened else
  hidResetParser ref
  let hidif ← deref ref
  let p ← nonNull hidif.hidParser
  let (parser, object) ← lift (hidParse env.abi p.val)
  storeObject ref { hidif with hidParser := some { p with val := parser } } object
  pure .success

/-- `hid_format_path` stays in the block for the warning, if there is one. -/
def Env.WarningFits (hasBuffer : Bool) (path : List ℤ) : Prop :=
  ∀ s ∈ (hidFormatPath hasBuffer (warningLength path) path).2,
    s.2 < env.mallocSize (warningLength path).toNat

instance (hasBuffer : Bool) (path : List ℤ) : Decidable (env.WarningFits hasBuffer path) :=
  inferInstanceAs (Decidable (∀ s ∈ _, _))

/-- `hid_find_object`. -/
def hidFindObject (ref : Ref) (path : List ℤ) : Hid HidReturn := do
  let hidif ← deref ref
  if !hidif.isOpened then pure .deviceNotOpened else
  let d ← nonNull hidif.hidData
  let query ← lift (hidPrepareParsePath d.val path)
  let p ← nonNull hidif.hidParser
  let (parser, object) ← lift (findObject env.abi p.val query)
  assign ref { hidif with
    hidParser := some { p with val := parser }
    hidData := some { d with val := object.getD query } }
  if object.isSome then pure .success else
  let buffer ← malloc env fun _ => ()
  if ¬ env.WarningFits buffer.isSome path then stop .warning else
  free buffer
  pure .notFound

/-- `hid_extract_value` on a buffer of which `room` bytes can be read, with what it stores in
`*value`; a `NULL` buffer and a `NULL` value are told apart. -/
def hidExtractValue (ref : Ref) (buffer : Option (ℕ → UInt8)) (room : ℕ) (hasValue : Bool) :
    Hid (HidReturn × Option ℤ) := do
  let hidif ← deref ref
  if !hidif.isOpened then pure (.deviceNotOpened, none) else
  match buffer with
  | none => pure (.invalidParameter, none)
  | some buf =>
      if !hasValue then pure (.invalidParameter, none) else
      let d ← nonNull hidif.hidData
      if room < bytesReached d.val then stop .itemBuffer else
      let value := env.abi.getValue buf d.val
      assign ref { hidif with hidData := some { d with val := { d.val with value := value } } }
      pure (.success, some value)

/-- `hid_get_report_size`, into a size that is not `NULL`. -/
def hidGetReportSize (ref : Ref) (reportID reportType : UInt8) :
    Hid (HidReturn × Option UInt8) := do
  let hidif ← deref ref
  if !hidif.isOpened then pure (.deviceNotOpened, none) else
  let p ← nonNull hidif.hidParser
  match getReportOffset p.val.offsetTab p.val.nReport reportID reportType with
  | none => stop .null
  | some (pos, offsetTab, nReport) => do
      assign ref { hidif with
        hidParser := some { p with
          val := { p.val with offsetTab := offsetTab, nReport := nReport } } }
      pure (.success, some (offsetTab.get pos).offset)

end Interface

end Libhid
