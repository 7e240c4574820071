import Libhid.Framework.Runs
import Libhid.Device.Parsing

/-!
# Opening and closing (`src/hid_opening.c`, `src/hid_preparation.c`, `src/linux.c`, …)

The list of open devices, `hid_close`, the preparation of an interface, the search for a device and
`hid_open` and `hid_force_open`, which differ in how they claim the interface.  `Call` and
`runCalls` are the runs of the three public functions.
-/

namespace Libhid

open Framework

/-! ## The list of open devices -/

namespace OpenHidDeviceList

/-- The entries in use. -/
def entries (l : OpenHidDeviceList) : List (Option Ref) := l.hidif.toList.take l.nDevices

/-- `add_open_device`: a full list is left as it is, and no caller looks at the result. -/
def addOpenDevice (l : OpenHidDeviceList) (ref : Ref) : OpenHidDeviceList :=
  if h : l.nDevices < maxOpenDevices then ⟨l.nDevices + 1, l.hidif.set l.nDevices (some ref)⟩
  else l

/-- `remove_open_device`: the entries after the first one with the interface move down. -/
def removeOpenDevice (l : OpenHidDeviceList) (ref : Ref) : Except Stop OpenHidDeviceList :=
  match scanFrom l.hidif (· == some ref) l.nDevices 0 with
  | none => if l.nDevices ≤ maxOpenDevices then .ok l else .error .openList
  | some i =>
      match shiftDown l.hidif i (l.nDevices - (i + 1)) with
      | none => .error .openList
      | some hidif => .ok ⟨l.nDevices - 1, hidif⟩

end OpenHidDeviceList

/-- Add an interface to the list. -/
def addOpenDevice (ref : Ref) : Hid Unit := fun w =>
  .ok ((), { w with openHidDeviceList := w.openHidDeviceList.addOpenDevice ref })

/-- Remove an interface from the list. -/
def removeOpenDevice (ref : Ref) : Hid Unit := fun w =>
  (w.openHidDeviceList.removeOpenDevice ref).map fun l => ((), { w with openHidDeviceList := l })

/-- The comparison `hid_previously_matched` makes with an entry. -/
def HIDInterface.holds (hidif : HIDInterface) (dev : UsbDevice) (interface : ℤ) : Bool :=
  interface == hidif.interface && hidif.device.map UsbDevice.addr == some dev.addr

/-- The loop of `hid_previously_matched` over the entries. -/
def heldBy (hidifs : Ref → HIDInterface) (dev : UsbDevice) (interface : ℤ) :
    List (Option Ref) → Except Stop Bool
  | [] => .ok false
  | none :: _ => .error .null
  | some ref :: rest =>
      if (hidifs ref).holds dev interface then .ok true else heldBy hidifs dev interface rest

/-- `hid_previously_matched`. -/
def hidPreviouslyMatched (env : Env) (dev_h : UsbHandle) (interface : ℤ) : Hid Bool := fun w =>
  (heldBy w.hidifs (env.usbDevice dev_h) interface w.openHidDeviceList.entries).map (·, w)

section Functions

variable (env : Env)

/-! ## Closing -/

/-- Close the handle, if there is one; `-1` stands for an unopened interface. -/
def closeHandle : Option UsbHandle → Hid ℤ
  | none => pure (-1)
  | some dev => usbClose env dev

/-- Reset the parser, if there is one. -/
def resetIfParser (ref : Ref) (hidif : HIDInterface) : Hid Unit :=
  if hidif.hidParser.isSome then hidResetParser ref else pure ()

/-- `hid_close`. -/
def hidClose (ref : Ref) : Hid HidReturn := do
  let hidif ← deref ref
  let ret ← closeHandle env hidif.devHandle
  removeOpenDevice ref
  resetIfParser ref hidif
  let hidif ← deref ref
  free hidif.hidParser
  free hidif.hidData
  assign ref (hidResetHIDInterface hidif)
  pure (if ret < 0 then .failCloseDevice else .success)

/-! ## Preparing an interface -/

/-- `USB_ENDPOINT_IN+1`, the request type of both descriptor requests. -/
abbrev endpointIn1 : ℕ := 0x81

/-- `USB_REQ_GET_DESCRIPTOR`. -/
abbrev usbReqGetDescriptor : ℕ := 0x06

/-- `USB_DT_HID`. -/
abbrev usbDtHid : ℕ := 0x21

/-- `USB_DT_REPORT`. -/
abbrev usbDtReport : ℕ := 0x22

/-- The request for a descriptor. -/
def descriptorRequest (hidif : HIDInterface) (kind size : ℕ) : ControlMsg where
  dev := hidif.devHandle
  requesttype := endpointIn1
  request := usbReqGetDescriptor
  value := kind * 256
  index := hidif.interface
  size := size

/-- `hid_prepare_hid_descriptor`: the report descriptor's length is in the bytes 7 and 8. -/
def hidPrepareHidDescriptor (ref : Ref) : Hid HidReturn := do
  let hidif ← deref ref
  let (len, buffer) ← usbControlMsg env (descriptorRequest hidif usbDtHid 9)
  if len < 0 then pure .notHidDevice
  else if len < 9 then pure .hidDescShort else
  let p ← nonNull hidif.hidParser
  let size := (buffer 7).toUInt16 ||| (buffer 8).toUInt16 <<< 8
  assign ref { hidif with
    hidParser := some { p with val := { p.val with reportDescSize := size } } }
  pure .success

/-- The buffer `ReportDesc` after a transfer into it. -/
def receivedDesc (old : Vector UInt8 reportDscSize) (len : ℤ) (size : ℕ) (bytes : ℕ → UInt8) :
    Vector UInt8 reportDscSize :=
  Vector.ofFn fun i => received (fun j => old.toList.getD j 0) len size bytes i

/-- `hid_prepare_report_descriptor`. -/
def hidPrepareReportDescriptor (ref : Ref) : Hid HidReturn := do
  let hidif ← deref ref
  let p ← nonNull hidif.hidParser
  let size := p.val.reportDescSize.toNat
  if size > reportDscSize then pure .reportDescLong else
  let (len, bytes) ← usbControlMsg env (descriptorRequest hidif usbDtReport size)
  let desc := receivedDesc p.val.reportDesc len size bytes
  assign ref { hidif with hidParser := some { p with val := { p.val with reportDesc := desc } } }
  if len < 0 then pure .failGetReport
  else if len < size then pure .reportDescShort
  else pure .success

/-- A step of `hid_prepare_interface`: the interface is closed if it fails. -/
def orClose (ref : Ref) (step next : Hid HidReturn) : Hid HidReturn := do
  let ret ← step
  if ret = .success then next else do
    let _ ← hidClose env ref
    pure ret

/-- `hid_prepare_interface`. -/
def hidPrepareInterface (ref : Ref) : Hid HidReturn := do
  let hidif ← deref ref
  if !hidif.isOpened then pure .deviceNotOpened else
  orClose env ref (hidInitParser env ref) <|
  orClose env ref (hidPrepareHidDescriptor env ref) <|
  orClose env ref (hidPrepareReportDescriptor env ref) <|
  orClose env ref (hidPrepareParser env ref) (pure .success)

/-! ## Searching the busses -/

/-- `USB_MATCH_VENDOR`. -/
abbrev usbMatchVendor : ℕ := 0x1

/-- `USB_MATCH_PRODUCT`. -/
abbrev usbMatchProduct : ℕ := 0x2

/-- `USB_MATCH_CUSTOM`. -/
abbrev usbMatchCustom : ℕ := 0x4

/-- `USB_MATCH_ALL`. -/
abbrev usbMatchAll : ℕ := usbMatchVendor ||| usbMatchProduct ||| usbMatchCustom

/-- The custom part of the comparison; without a custom function it is passed. -/
def customMatch (dev_h : UsbHandle) : Option (ℕ → UsbHandle → Bool) → Hid Bool
  | none => pure true
  | some fn => callOut (fun t => fn t dev_h) fun _ => .matcherFn dev_h

/-- The flags `hid_compare_usb_device` puts together. -/
def matchFlags (dev_h : UsbHandle) (m : HIDInterfaceMatcher) (custom : Bool) : ℕ :=
  let dev := env.usbDevice dev_h
  (if dev.idVendor > 0 ∧ dev.idVendor &&& m.vendorId = m.vendorId then usbMatchVendor else 0) |||
  (if dev.idProduct &&& m.productId = m.productId then usbMatchProduct else 0) |||
  (if custom then usbMatchCustom else 0)

/-- `hid_compare_usb_device`. -/
def hidCompareUsbDevice (dev_h : UsbHandle) (m : HIDInterfaceMatcher) : Hid ℕ := do
  let custom ← customMatch dev_h m.matcherFn
  pure (matchFlags env dev_h m custom)

/-- What `snprintf` of `%s/%s[%d]` leaves in `id`. -/
def deviceId (bus : UsbBus) (dev : UsbDevice) (interface : ℤ) : String :=
  String.ofList
    ((bus.dirname ++ "/" ++ dev.filename ++ "[" ++ toString interface ++ "]").toList.take idSize)

/-- The body of the loop of `hid_find_usb_device` over the devices of a bus; `none` when the loop
goes on to the next device. -/
def inspectDevice (ref : Ref) (m : HIDInterfaceMatcher) (bus : UsbBus) (usbdev : UsbDevice) :
    Hid (Option HidReturn) := do
  let hidif ← deref ref
  assign ref { hidif with id := deviceId bus usbdev hidif.interface }
  match ← usbOpen env usbdev with
  | none => pure (some .failOpenDevice)
  | some usbdev_h => do
      let _ ← usbClaimInterface env usbdev_h hidif.interface
      -- `continue`, with the handle open
      if ← hidPreviouslyMatched env usbdev_h hidif.interface then pure none else
      let flags ← hidCompareUsbDevice env usbdev_h m
      if flags = usbMatchAll then
        let hidif ← deref ref
        assign ref { hidif with
          devHandle := some usbdev_h
          device := some (env.usbDevice usbdev_h) }
        pure (some .success)
      else
        let _ ← usbClose env usbdev_h
        pure none

/-- The loop of `hid_find_usb_device` over the devices of a bus. -/
def findOnBus (ref : Ref) (m : HIDInterfaceMatcher) (bus : UsbBus) :
    List UsbDevice → Hid (Option HidReturn)
  | [] => pure none
  | usbdev :: rest => do
      match ← inspectDevice env ref m bus usbdev with
      | some ret => pure (some ret)
      | none => findOnBus ref m bus rest

/-- The loop of `hid_find_usb_device` over the busses. -/
def findOnBusses (ref : Ref) (m : HIDInterfaceMatcher) : List UsbBus → Hid HidReturn
  | [] => pure .deviceNotFound
  | bus :: rest => do
      match ← findOnBus env ref m bus bus.devices with
      | some ret => pure ret
      | none => findOnBusses ref m rest

/-- `hid_find_usb_device`. -/
def hidFindUsbDevice (ref : Ref) (m : HIDInterfaceMatcher) : Hid HidReturn := fun w =>
  findOnBusses env ref m (env.usbGetBusses w.log.length) w

/-- `hid_get_usb_handle`. -/
def hidGetUsbHandle (ref : Ref) (m : HIDInterfaceMatcher) : Hid HidReturn := do
  let ret ← hidFindUsbDevice env ref m
  if ret = .success then pure .success else do
    let hidif ← deref ref
    assign ref { hidif with devHandle := none, device := none }
    pure ret

/-! ## Claiming -/

/-- The loop of the Linux `hid_os_force_claim`. -/
def forceClaimLoop (dev : Option UsbHandle) (interface : ℤ) : ℕ → Hid HidReturn
  | 0 => do
      let ret ← usbClaimInterface env dev interface
      pure (if ret = 0 then .success else .failClaimIface)
  | retries + 1 => do
      let ret ← usbClaimInterface env dev interface
      if ret = 0 then pure .success else
      let detached ← usbDetachKernelDriver env dev interface
      if detached < 0 then pure .failDetachDriver else
      forceClaimLoop dev interface retries

/-- The three versions of `hid_os_force_claim`, on an interface and a matcher that are not
`NULL`. -/
def hidOsForceClaim (ref : Ref) (interface : ℤ) (retries : UInt16) : Hid HidReturn := do
  let hidif ← deref ref
  if !hidif.isOpened then pure .deviceAlreadyOpened else
  match env.os with
  | .linux => forceClaimLoop env hidif.devHandle interface retries.toNat
  | .darwin => do
      let _ ← usbClaimInterface env hidif.devHandle interface
      pure .success
  | .bsd => do
      let ret ← usbClaimInterface env hidif.devHandle interface
      pure (if ret < 0 then .failClaimIface else .success)

/-- How `hid_open` claims. -/
def claimOnce (ref : Ref) (interface : ℤ) : Hid HidReturn := do
  let hidif ← deref ref
  let ret ← usbClaimInterface env hidif.devHandle interface
  pure (if ret < 0 then .failClaimIface else .success)

/-! ## Opening -/

/-- The part of `hid_open` and `hid_force_open` after their checks. -/
def openWith (claim : Hid HidReturn) (ref : Ref) (interface : ℤ) (m : HIDInterfaceMatcher) :
    Hid HidReturn := do
  let hidif ← deref ref
  assign ref { hidif with interface := interface }
  let ret ← hidGetUsbHandle env ref m
  if ret ≠ .success then pure ret else
  let ret ← claim
  if ret ≠ .success then do
    let _ ← hidClose env ref
    pure ret
  else
  let ret ← hidPrepareInterface env ref
  if ret ≠ .success then pure ret else
  addOpenDevice ref
  pure .success

/-- The checks of `hid_open` and `hid_force_open` before `openWith`. -/
def openChecked (claim : Ref → Hid HidReturn) (hidif : Option Ref) (interface : ℤ)
    (matcher : Option HIDInterfaceMatcher) : Hid HidReturn := do
  if !(← hidIsInitialised) then pure .notInitialised else
  match hidif with
  | none => pure .invalidParameter
  | some ref => do
      let hidif ← deref ref
      if hidif.isOpened then pure .deviceAlreadyOpened else
      match matcher with
      | none => pure .invalidParameter
      | some m => openWith env (claim ref) ref interface m

/-- `hid_open`. -/
def hidOpen (hidif : Option Ref) (interface : ℤ) (matcher : Option HIDInterfaceMatcher) :
    Hid HidReturn :=
  openChecked env (claimOnce env · interface) hidif interface matcher

/-- `hid_force_open`. -/
def hidForceOpen (hidif : Option Ref) (interface : ℤ) (matcher : Option HIDInterfaceMatcher)
    (retries : UInt16) : Hid HidReturn :=
  openChecked env (hidOsForceClaim env · interface retries) hidif interface matcher

/-! ## Runs -/

/-- A call of one of the three functions. -/
inductive Call
  | hidOpen (hidif : Option Ref) (interface : ℤ) (matcher : Option HIDInterfaceMatcher)
  | hidForceOpen (hidif : Option Ref) (interface : ℤ) (matcher : Option HIDInterfaceMatcher)
      (retries : UInt16)
  | hidClose (hidif : Ref)

/-- The call made. -/
def Call.run : Call → Hid HidReturn
  | .hidOpen hidif interface matcher => Libhid.hidOpen env hidif interface matcher
  | .hidForceOpen hidif interface matcher retries =>
      Libhid.hidForceOpen env hidif interface matcher retries
  | .hidClose hidif => Libhid.hidClose env hidif

/-- One call after the other, with their return values. -/
def runCalls (calls : List Call) (w : World) : Except Stop (List HidReturn × World) :=
  runAll (fun call => call.run env) calls w

end Functions

end Libhid
