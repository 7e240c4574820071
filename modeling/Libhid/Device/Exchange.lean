import Libhid.Device.Lookup

/-!
# Reports and item values (`src/hid_exchange.c`)

`hid_get_input_report`, `hid_set_output_report`, `hid_get_feature_report` and
`hid_set_feature_report` differ in the type they look up, in the request and in the error they
return; `transferReport` is what they share.  `hid_get_item_value` looks a feature up, asks the
parser for the size of its report, and decodes the field from a local buffer.  The interrupt
functions and `hid_set_idle` make one transfer each.
-/

namespace Libhid

open Framework

/-! ## Requests -/

/-- `USB_ENDPOINT_IN + USB_TYPE_CLASS + USB_RECIP_INTERFACE`. -/
abbrev classIn : ℕ := 0x80 + 0x20 + 0x01

/-- `USB_ENDPOINT_OUT + USB_TYPE_CLASS + USB_RECIP_INTERFACE`. -/
abbrev classOut : ℕ := 0x00 + 0x20 + 0x01

/-- `HID_REPORT_GET`. -/
abbrev hidReportGet : ℕ := 0x01

/-- `HID_REPORT_SET`. -/
abbrev hidReportSet : ℕ := 0x09

/-- `HID_SET_IDLE`. -/
abbrev hidSetIdleRequest : ℕ := 0x0A

/-- `HID_RT_INPUT`. -/
abbrev hidRtInput : ℕ := 0x01

/-- `HID_RT_OUTPUT`. -/
abbrev hidRtOutput : ℕ := 0x02

/-- `HID_RT_FEATURE`. -/
abbrev hidRtFeature : ℕ := 0x03

/-- What the four report functions differ in. -/
structure ReportKind where
  /-- The type looked up. -/
  type : UInt8
  requesttype : ℕ
  request : ℕ
  /-- The high byte of the request's value. -/
  reportType : ℕ
  /-- What is returned when the transfer fails. -/
  failure : HidReturn

/-- The request for the report of an interface. -/
def ReportKind.message (kind : ReportKind) (hidif : HIDInterface) (reportID : UInt8) (size : ℕ) :
    ControlMsg where
  dev := hidif.devHandle
  requesttype := kind.requesttype
  request := kind.request
  value := reportID.toNat + kind.reportType * 256
  index := hidif.interface
  size := size

/-- `hid_get_input_report`. -/
def inputReport : ReportKind := ⟨Tag.input.code, classIn, hidReportGet, hidRtInput, .failGetReport⟩

/-- `hid_set_output_report`. -/
def outputReport : ReportKind :=
  ⟨Tag.output.code, classOut, hidReportSet, hidRtOutput, .failSetReport⟩

/-- `hid_get_feature_report`, and the request of `hid_get_item_value`. -/
def featureReport : ReportKind :=
  ⟨Tag.feature.code, classIn, hidReportGet, hidRtFeature, .failGetReport⟩

/-- `hid_set_feature_report`. -/
def setFeatureReport : ReportKind :=
  ⟨Tag.feature.code, classOut, hidReportSet, hidRtFeature, .failSetReport⟩

section Functions

variable (env : Env)

/-- The lookup of all exchange functions, whose result none of them looks at. -/
def lookUp (type : UInt8) (ref : Ref) (path : List ℤ) : Hid Unit := do
  let hidif ← deref ref
  let d ← nonNull hidif.hidData
  assign ref { hidif with
    hidData := some { d with val := { d.val with type := type, reportID := 0 } } }
  let _ ← hidFindObject env ref path
  pure ()

/-- What the four report functions share: the return value, the length the transfer returned and
the bytes it delivered. -/
def transferReport (kind : ReportKind) (ref : Ref) (path : List ℤ) (size : UInt32) :
    Hid (HidReturn × ℤ × (ℕ → UInt8)) := do
  lookUp env kind.type ref path
  let hidif ← deref ref
  let d ← nonNull hidif.hidData
  let (len, bytes) ← usbControlMsg env (kind.message hidif d.val.reportID size.toNat)
  if len < 0 then pure (kind.failure, len, bytes)
  else if len ≠ (size.toNat : ℤ).bmod (2 ^ 32) then pure (kind.failure, len, bytes)
  else pure (.success, len, bytes)

/-- A report function that reads, with the buffer after the call. -/
def getReport (kind : ReportKind) (ref : Ref) (path : List ℤ) (buffer : Option (ℕ → UInt8))
    (size : UInt32) : Hid (HidReturn × Option (ℕ → UInt8)) :=
  match buffer with
  | none => pure (.invalidParameter, none)
  | some buf => do
      let hidif ← deref ref
      if !hidif.isOpened then pure (.deviceNotOpened, some buf) else
      let (ret, len, bytes) ← transferReport env kind ref path size
      pure (ret, some (received buf len size.toNat bytes))

/-- A report function that writes. -/
def setReport (kind : ReportKind) (ref : Ref) (path : List ℤ) (buffer : Option (ℕ → UInt8))
    (size : UInt32) : Hid HidReturn :=
  match buffer with
  | none => pure .invalidParameter
  | some _ => do
      let hidif ← deref ref
      if !hidif.isOpened then pure .deviceNotOpened else
      let (ret, _, _) ← transferReport env kind ref path size
      pure ret

/-- `hid_get_input_report`. -/
def hidGetInputReport := getReport env inputReport

/-- `hid_set_output_report`. -/
def hidSetOutputReport := setReport env outputReport

/-- `hid_get_feature_report`. -/
def hidGetFeatureReport := getReport env featureReport

/-- `hid_set_feature_report`. -/
def hidSetFeatureReport := setReport env setFeatureReport

/-- How many bytes of the local buffer of `hid_get_item_value` can be written and read, which has
32. -/
def Env.itemRoom : ℕ := 32 + env.stackSlack

/-- `hid_get_item_value`, with what it stores in `*value`. -/
def hidGetItemValue (ref : Ref) (path : List ℤ) (hasValue : Bool) :
    Hid (HidReturn × Option ℤ) := do
  let hidif ← deref ref
  if !hidif.isOpened then pure (.deviceNotOpened, none) else
  lookUp env Tag.feature.code ref path
  let hidif ← deref ref
  let d ← nonNull hidif.hidData
  let (_, size) ← hidGetReportSize ref d.val.reportID d.val.type
  -- the interface is open, so a size was stored
  let size ← nonNull size
  let t ← now
  let hidif ← deref ref
  let (len, bytes) ← usbControlMsg env (featureReport.message hidif d.val.reportID size.toNat)
  if env.itemRoom < min len.toNat size.toNat then stop .itemBuffer
  else if len < 0 then pure (.failGetReport, none)
  else if len % 2 ^ 32 ≠ size.toNat then pure (.failGetReport, none)
  else
    let buffer := received (env.freshBuffer t) len size.toNat bytes
    let (ret, value) ← hidExtractValue env ref (some buffer) env.itemRoom hasValue
    if ret ≠ .success then pure (.failGetReport, none) else pure (.success, value)

/-- What the interrupt functions make of the length a transfer returned. -/
def interruptReturn (len : ℤ) (size : UInt32) : HidReturn :=
  if len = -env.os.etimedout then .timeout
  else if len < 0 then .failIntRead
  else if len ≠ (size.toNat : ℤ).bmod (2 ^ 32) then .failIntRead
  else .success

/-- `hid_interrupt_read`, with the buffer after the call. -/
def hidInterruptRead (ref : Ref) (ep : UInt32) (bytes : Option (ℕ → UInt8))
    (size timeout : UInt32) : Hid (HidReturn × Option (ℕ → UInt8)) :=
  match bytes with
  | none => pure (.invalidParameter, none)
  | some buf => do
      let hidif ← deref ref
      if !hidif.isOpened then pure (.deviceNotOpened, some buf) else
      let (len, bytes) ← usbInterruptRead env hidif.devHandle ep size timeout
      pure (interruptReturn env len size, some (received buf len size.toNat bytes))

/-- `hid_interrupt_write`. -/
def hidInterruptWrite (ref : Ref) (ep : UInt32) (bytes : Option (ℕ → UInt8))
    (size timeout : UInt32) : Hid HidReturn :=
  match bytes with
  | none => pure .invalidParameter
  | some _ => do
      let hidif ← deref ref
      if !hidif.isOpened then pure .deviceNotOpened else
      let len ← usbInterruptWrite env hidif.devHandle ep size timeout
      pure (interruptReturn env len size)

/-- The request of `hid_set_idle`. -/
def setIdleMessage (hidif : HIDInterface) (duration reportId : UInt32) : ControlMsg where
  dev := hidif.devHandle
  requesttype := classOut
  request := hidSetIdleRequest
  value := reportId.toNat + (duration &&& 0xFF).toNat * 256
  index := hidif.interface
  size := 0

/-- `hid_set_idle`, which does not ask whether the interface is open. -/
def hidSetIdle (ref : Ref) (duration reportId : UInt32) : Hid HidReturn := do
  if duration > 255 then pure .invalidParameter
  else if reportId > 255 then pure .invalidParameter else
  let hidif ← deref ref
  let (len, _) ← usbControlMsg env (setIdleMessage hidif duration reportId)
  pure (if len ≠ 0 then .failGetReport else .success)

end Functions

end Libhid
