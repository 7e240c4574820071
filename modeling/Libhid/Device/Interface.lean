import Libhid.Framework.Outcomes
import Libhid.Parser.HidParse

/-!
# Interfaces, the USB library and the state of libhid

What the calls of `src/*.c` work on: the `HIDInterface`s, the list of open devices, and libusb.
libusb and the allocator are not part of the repository.  `Env` gives the outcome of every call to
them as a function of the number of calls made before, so a statement for every `Env` covers any
sequence of outcomes; `World.log` records the calls.  Of libusb the model uses that every
successful `usb_open` returns a new handle.

A function of the library is a computation in `Hid`, which changes the `World` or stops at an
access outside a table, a block or a buffer, or through a `NULL` pointer.
-/

namespace Libhid

open Framework

/-! ## libusb -/

/-- A `struct usb_device`, designated by its address. -/
structure UsbDevice where
  addr : ℕ
  filename : String
  idVendor : UInt16
  idProduct : UInt16
  deriving DecidableEq, Repr

/-- A `struct usb_bus`. -/
structure UsbBus where
  dirname : String
  devices : List UsbDevice
  deriving DecidableEq, Repr

/-- A `usb_dev_handle` and the device it was opened from. -/
structure UsbHandle where
  id : ℕ
  dev : UsbDevice
  deriving DecidableEq, Repr

/-- The arguments of `usb_control_msg`, without the buffer. -/
structure ControlMsg where
  dev : Option UsbHandle
  requesttype : ℕ
  request : ℕ
  value : ℕ
  index : ℤ
  size : ℕ
  deriving DecidableEq, Repr

/-- A call out of the library, with its outcome where it names a resource or a length. -/
inductive Event
  | usbOpen (dev : UsbDevice) (handle : Option UsbHandle)
  | usbClose (dev : UsbHandle)
  | usbClaimInterface (dev : Option UsbHandle) (interface : ℤ)
  | usbDetachKernelDriver (dev : Option UsbHandle) (interface : ℤ)
  | usbControlMsg (msg : ControlMsg) (len : ℤ)
  | usbInterruptRead (dev : Option UsbHandle) (ep size timeout : ℕ) (len : ℤ)
  | usbInterruptWrite (dev : Option UsbHandle) (ep size timeout : ℕ) (len : ℤ)
  | matcherFn (dev : UsbHandle)
  | malloc (block : Option ℕ)
  | free (block : ℕ)
  deriving DecidableEq, Repr

/-- The system file with `hid_os_force_claim`: `linux.c`, `darwin.c` or `bsd.c`. -/
inductive Os
  | linux
  | darwin
  | bsd
  deriving DecidableEq, Repr

/-- `ETIMEDOUT`. -/
def Os.etimedout : Os → ℤ
  | .linux => 110
  | .darwin | .bsd => 60

/-- The platform, libusb and the allocator.  The first argument of an outcome is the number of
calls made before. -/
structure Env where
  abi : Abi
  os : Os
  usbGetBusses : ℕ → List UsbBus
  /-- Whether `usb_open` returns a handle. -/
  usbOpen : ℕ → Bool
  usbClose : ℕ → ℤ
  usbDevice : UsbHandle → UsbDevice
  usbClaimInterface : ℕ → ℤ
  usbDetachKernelDriver : ℕ → ℤ
  /-- The length `usb_control_msg` returns and the bytes it delivers. -/
  usbControlMsg : ℕ → ℤ × (ℕ → UInt8)
  /-- The length `usb_interrupt_read` returns and the bytes it delivers. -/
  usbInterruptRead : ℕ → ℤ × (ℕ → UInt8)
  usbInterruptWrite : ℕ → ℤ
  /-- Whether `malloc` returns a block. -/
  malloc : ℕ → Bool
  /-- How many bytes of a block can be written that was allocated with a size: that many in C, and
  on a machine those that the allocator rounds it up to. -/
  mallocSize : ℕ → ℕ
  /-- How many bytes behind a local array can be written and read: none in C. -/
  stackSlack : ℕ
  /-- What a fresh block for a `HIDData` holds. -/
  freshData : ℕ → HIDData
  /-- What a fresh block for a `HIDParser` holds. -/
  freshParser : ℕ → HIDParser
  /-- What a local array of bytes, and what is behind it, holds before it is written. -/
  freshBuffer : ℕ → ℕ → UInt8

/-! ## Interfaces -/

/-- `hid_return`. -/
inductive HidReturn
  | success
  | invalidParameter
  | notInitialised
  | alreadyInitialised
  | failFindBusses
  | failFindDevices
  | failOpenDevice
  | deviceNotFound
  | deviceNotOpened
  | deviceAlreadyOpened
  | failCloseDevice
  | failClaimIface
  | failDetachDriver
  | notHidDevice
  | hidDescShort
  | reportDescShort
  | reportDescLong
  | failAlloc
  | outOfSpace
  | failSetReport
  | failGetReport
  | failIntRead
  | notFound
  | timeout
  deriving DecidableEq, Repr

/-- An allocated block: its address and its contents. -/
structure Block (α : Type) where
  addr : ℕ
  val : α

/-- The room for `id`, without the terminating zero. -/
abbrev idSize : ℕ := 31

/-- `HIDInterface`. -/
structure HIDInterface where
  devHandle : Option UsbHandle
  device : Option UsbDevice
  interface : ℤ
  id : String
  hidData : Option (Block HIDData)
  hidParser : Option (Block HIDParser)

/-- `HIDInterfaceMatcher`; the custom function may answer differently each time it is called. -/
structure HIDInterfaceMatcher where
  vendorId : UInt16
  productId : UInt16
  matcherFn : Option (ℕ → UsbHandle → Bool)

/-- `hid_reset_HIDInterface`. -/
def hidResetHIDInterface (_hidif : HIDInterface) : HIDInterface where
  devHandle := none
  device := none
  interface := -1
  id := ""
  hidData := none
  hidParser := none

/-- A pointer to a `HIDInterface`. -/
abbrev Ref := ℕ

/-- `MAX_OPEN_DEVICES`. -/
abbrev maxOpenDevices : ℕ := 20

/-- `open_hid_device_list`. -/
structure OpenHidDeviceList where
  nDevices : ℕ
  hidif : Vector (Option Ref) maxOpenDevices

/-! ## The state -/

/-- The static variables of the library, the interfaces, and the calls made so far, the latest
first. -/
structure World where
  initialised : Bool
  openHidDeviceList : OpenHidDeviceList
  hidifs : Ref → HIDInterface
  log : List Event

/-- The functions of the library. -/
abbrev Hid := StateT World (Except Stop)

/-- Before the first call: the interfaces are as `hid_new_HIDInterface` returns them. -/
def World.start (initialised : Bool) (garbage : Ref → HIDInterface) : World where
  initialised := initialised
  openHidDeviceList := ⟨0, Vector.replicate maxOpenDevices none⟩
  hidifs ref := hidResetHIDInterface (garbage ref)
  log := []

namespace World

/-- Write the interface a pointer designates. -/
def write (w : World) (ref : Ref) (hidif : HIDInterface) : World :=
  { w with hidifs := Function.update w.hidifs ref hidif }

/-- Record a call out of the library. -/
def record (w : World) (e : Event) : World := { w with log := e :: w.log }

variable (w : World) (ref : Ref) (hidif : HIDInterface) (e : Event)

@[simp] lemma write_log : (w.write ref hidif).log = w.log := rfl
@[simp] lemma write_list : (w.write ref hidif).openHidDeviceList = w.openHidDeviceList := rfl
@[simp] lemma write_initialised : (w.write ref hidif).initialised = w.initialised := rfl
@[simp] lemma write_same : (w.write ref hidif).hidifs ref = hidif := Function.update_self ..
@[simp] lemma write_write (hidif' : HIDInterface) :
    (w.write ref hidif).write ref hidif' = w.write ref hidif' := by
  simp [write]
lemma write_other {r : Ref} (h : r ≠ ref) : (w.write ref hidif).hidifs r = w.hidifs r :=
  Function.update_of_ne h ..
@[simp] lemma record_log : (w.record e).log = e :: w.log := rfl
@[simp] lemma record_list : (w.record e).openHidDeviceList = w.openHidDeviceList := rfl
@[simp] lemma record_initialised : (w.record e).initialised = w.initialised := rfl
@[simp] lemma record_hidifs : (w.record e).hidifs = w.hidifs := rfl
@[simp] lemma record_write : (w.record e).write ref hidif = (w.write ref hidif).record e := rfl

end World

/-- The interface a pointer designates. -/
def deref (ref : Ref) : Hid HIDInterface := fun w => .ok (w.hidifs ref, w)

/-- Write the interface a pointer designates. -/
def assign (ref : Ref) (hidif : HIDInterface) : Hid Unit := fun w => .ok ((), w.write ref hidif)

/-- A call out of the library. -/
def callOut {α : Type} (outcome : ℕ → α) (event : α → Event) : Hid α := fun w =>
  .ok (outcome w.log.length, w.record (event (outcome w.log.length)))

/-- The number of calls out of the library made so far. -/
def now : Hid ℕ := fun w => .ok (w.log.length, w)

/-- Stop the run. -/
def stop {α : Type} (s : Stop) : Hid α := fun _ => .error s

/-- A computation that does not look at the state. -/
def lift {α : Type} (x : Except Stop α) : Hid α := fun w => x.map (·, w)

/-- A pointer used without a test. -/
def nonNull {α : Type} : Option α → Hid α
  | none => stop .null
  | some a => pure a

section Rules

variable {α β : Type} {w : World}

@[simp] lemma pure_run (a : α) : (pure a : Hid α) w = .ok (a, w) := rfl
@[simp] lemma stop_run (s : Stop) : (stop s : Hid α) w = .error s := rfl
@[simp] lemma stop_bind (s : Stop) (f : α → Hid β) : (stop s >>= f) w = .error s := rfl
@[simp] lemma assign_run (ref : Ref) (hidif : HIDInterface) :
    assign ref hidif w = .ok ((), w.write ref hidif) := rfl
@[simp] lemma deref_bind (ref : Ref) (f : HIDInterface → Hid β) :
    (deref ref >>= f) w = f (w.hidifs ref) w := rfl
@[simp] lemma assign_bind (ref : Ref) (hidif : HIDInterface) (f : Unit → Hid β) :
    (assign ref hidif >>= f) w = f () (w.write ref hidif) := rfl
@[simp] lemma callOut_bind (outcome : ℕ → α) (event : α → Event) (f : α → Hid β) :
    (callOut outcome event >>= f) w =
      f (outcome w.log.length) (w.record (event (outcome w.log.length))) := rfl
@[simp] lemma now_bind (f : ℕ → Hid β) : (now >>= f) w = f w.log.length w := rfl
@[simp] lemma nonNull_some (a : α) : nonNull (some a) = pure a := rfl
@[simp] lemma nonNull_none : (nonNull none : Hid α) = stop .null := rfl
@[simp] lemma lift_ok_bind (a : α) (f : α → Hid β) : (lift (.ok a) >>= f) w = f a w := rfl
@[simp] lemma lift_error_bind (s : Stop) (f : α → Hid β) :
    (lift (.error s) >>= f) w = .error s := rfl

end Rules

/-! ## Calls out of the library -/

section Calls

variable (env : Env)

/-- `usb_open`: the handle is the number of the call, with the device. -/
def usbOpen (dev : UsbDevice) : Hid (Option UsbHandle) :=
  callOut (fun t => if env.usbOpen t then some ⟨t, dev⟩ else none) (.usbOpen dev)

def usbClose (dev : UsbHandle) : Hid ℤ := callOut env.usbClose fun _ => .usbClose dev

def usbClaimInterface (dev : Option UsbHandle) (interface : ℤ) : Hid ℤ :=
  callOut env.usbClaimInterface fun _ => .usbClaimInterface dev interface

def usbDetachKernelDriver (dev : Option UsbHandle) (interface : ℤ) : Hid ℤ :=
  callOut env.usbDetachKernelDriver fun _ => .usbDetachKernelDriver dev interface

def usbControlMsg (msg : ControlMsg) : Hid (ℤ × (ℕ → UInt8)) :=
  callOut env.usbControlMsg fun r => .usbControlMsg msg r.1

def usbInterruptRead (dev : Option UsbHandle) (ep size timeout : UInt32) :
    Hid (ℤ × (ℕ → UInt8)) :=
  callOut env.usbInterruptRead fun r =>
    .usbInterruptRead dev ep.toNat size.toNat timeout.toNat r.1

def usbInterruptWrite (dev : Option UsbHandle) (ep size timeout : UInt32) : Hid ℤ :=
  callOut env.usbInterruptWrite fun len =>
    .usbInterruptWrite dev ep.toNat size.toNat timeout.toNat len

/-- `malloc`, with what the block holds. -/
def malloc {α : Type} (fresh : ℕ → α) : Hid (Option (Block α)) :=
  callOut (fun t => if env.malloc t then some ⟨t, fresh t⟩ else none)
    fun b => .malloc (b.map Block.addr)

/-- `free` of a pointer that may be `NULL`. -/
def free {α : Type} : Option (Block α) → Hid Unit
  | none => pure ()
  | some b => callOut (fun _ => ()) fun _ => .free b.addr

end Calls

/-- What a transfer of `size` bytes that returned `len` leaves in a buffer. -/
def received (old : ℕ → UInt8) (len : ℤ) (size : ℕ) (bytes : ℕ → UInt8) : ℕ → UInt8 := fun i =>
  if i < size ∧ (i : ℤ) < len then bytes i else old i

/-! ## Queries -/

/-- `hid_is_initialised`. -/
def hidIsInitialised : Hid Bool := fun w => .ok (w.initialised, w)

@[simp] lemma hidIsInitialised_bind {β : Type} (f : Bool → Hid β) (w : World) :
    (hidIsInitialised >>= f) w = f w.initialised w := rfl

/-- `hid_is_opened` of an interface that is not `NULL`. -/
def HIDInterface.isOpened (hidif : HIDInterface) : Bool := hidif.devHandle.isSome

/-! ## A bench -/

/-- A Linux machine with one bus, on which every call succeeds and the descriptors are empty.  Its
allocator is the one of glibc. -/
def bench (devices : List UsbDevice) : Env where
  abi := .little .w64 true
  os := .linux
  usbGetBusses _ := [⟨"001", devices⟩]
  usbOpen _ := true
  usbClose _ := 0
  usbDevice := UsbHandle.dev
  usbClaimInterface _ := 0
  usbDetachKernelDriver _ := 0
  usbControlMsg _ := (9, fun _ => 0)
  usbInterruptRead _ := (8, fun _ => 0)
  usbInterruptWrite _ := 8
  malloc _ := true
  mallocSize size := max 24 ((size + 23) / 16 * 16 - 8)
  stackSlack := 0
  freshData _ := .zero
  freshParser _ := .zero
  freshBuffer _ _ := 0

/-- A device on the bench, and its number. -/
def benchDevice (addr : ℕ) : UsbDevice := ⟨addr, toString addr, 0x051d, 0x0002⟩

/-- The run did not leave a table, and its end passes the test. -/
def endsWith {α : Type} (p : α → World → Bool) : Except Stop (α × World) → Bool
  | .ok (a, w) => p a w
  | .error _ => false

lemma exists_of_endsWith {α : Type} {p : α → World → Bool} {out : Except Stop (α × World)}
    (h : endsWith p out = true) : ∃ a w, out = .ok (a, w) ∧ p a w = true := by
  cases out with
  | error e => cases h
  | ok x => exact ⟨x.1, x.2, rfl, h⟩

end Libhid
