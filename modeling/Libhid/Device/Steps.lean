import Libhid.Device.Works

/-!
# What the steps of opening and closing do

One lemma for each step of `hid_open`, `hid_force_open` and `hid_close`, saying what it changes.
Most steps are `Quiet`: they may allocate, claim, transfer and write into the blocks of their own
interface, and change neither handles nor the list.  `hid_close` is `Closed`, an inspected device
is `Inspected`, and `openWith_ok` puts them together for an open that succeeds (`Opens`) or fails
(`FailsToOpen`).
-/

namespace Libhid

open Framework

/-! ## Handles in the log -/

/-- `usb_open` acquires a handle, `usb_close` releases it. -/
def handles : Accounts Event UsbHandle where
  acquired
    | .usbOpen _ h => h
    | _ => none
  released
    | .usbClose h => some h
    | _ => none
  exclusive e := by cases e <;> simp

/-! ## Quiet steps -/

/-- From `w` to `u` the steps of an operation on `ref` changed no handle and not the list. -/
structure Quiet (ref : Ref) (w u : World) : Prop where
  initialised : u.initialised = w.initialised
  list : u.openHidDeviceList = w.openHidDeviceList
  others : ∀ r, r ≠ ref → u.hidifs r = w.hidifs r
  devHandle : (u.hidifs ref).devHandle = (w.hidifs ref).devHandle
  device : (u.hidifs ref).device = (w.hidifs ref).device
  interface : (u.hidifs ref).interface = (w.hidifs ref).interface
  log : ∃ es, u.log = es ++ w.log ∧ ∀ e ∈ es, handles.Neutral e

namespace Quiet

variable {ref : Ref} {w u v : World}

lemma trans (h : Quiet ref w u) (h' : Quiet ref u v) : Quiet ref w v := by
  obtain ⟨es, hes, hn⟩ := h.log
  obtain ⟨es', hes', hn'⟩ := h'.log
  refine ⟨h'.initialised.trans h.initialised, h'.list.trans h.list,
    fun r hr => (h'.others r hr).trans (h.others r hr), h'.devHandle.trans h.devHandle,
    h'.device.trans h.device, h'.interface.trans h.interface, es' ++ es, ?_, ?_⟩
  · rw [hes', hes, List.append_assoc]
  · intro e he
    rcases List.mem_append.mp he with he | he
    · exact hn' e he
    · exact hn e he

lemma write {hidif : HIDInterface} (h₁ : hidif.devHandle = (w.hidifs ref).devHandle)
    (h₂ : hidif.device = (w.hidifs ref).device)
    (h₃ : hidif.interface = (w.hidifs ref).interface) : Quiet ref w (w.write ref hidif) :=
  ⟨rfl, rfl, fun _ hr => World.write_other _ _ _ hr, by simpa using h₁, by simpa using h₂,
    by simpa using h₃, [], rfl, fun _ h => absurd h List.not_mem_nil⟩

lemma record {e : Event} (he : handles.Neutral e) : Quiet ref w (w.record e) :=
  ⟨rfl, rfl, fun _ _ => rfl, rfl, rfl, rfl, [e], rfl, by simpa using he⟩

end Quiet

/-- A quiet step after which the interface has no block less. -/
structure Keeps (ref : Ref) (w u : World) : Prop extends Quiet ref w u where
  hidData : (w.hidifs ref).hidData.isSome → (u.hidifs ref).hidData.isSome
  hidParser : (w.hidifs ref).hidParser.isSome → (u.hidifs ref).hidParser.isSome

lemma neutral_malloc (b : Option ℕ) : handles.Neutral (.malloc b) := ⟨rfl, rfl⟩
lemma neutral_free (b : ℕ) : handles.Neutral (.free b) := ⟨rfl, rfl⟩
lemma neutral_claim (dev : Option UsbHandle) (i : ℤ) : handles.Neutral (.usbClaimInterface dev i) :=
  ⟨rfl, rfl⟩
lemma neutral_detach (dev : Option UsbHandle) (i : ℤ) :
    handles.Neutral (.usbDetachKernelDriver dev i) := ⟨rfl, rfl⟩
lemma neutral_controlMsg (msg : ControlMsg) (len : ℤ) :
    handles.Neutral (.usbControlMsg msg len) := ⟨rfl, rfl⟩
lemma neutral_matcherFn (dev : UsbHandle) : handles.Neutral (.matcherFn dev) := ⟨rfl, rfl⟩

lemma neutral_through {dev : Option UsbHandle} {e : Event} (he : e.Through dev) :
    handles.Neutral e := by
  cases e with
  | usbClaimInterface => exact neutral_claim _ _
  | usbDetachKernelDriver => exact neutral_detach _ _
  | usbControlMsg => exact neutral_controlMsg _ _
  | _ => cases he

section Steps

variable {env : Env} {ref : Ref} {w u : World} {ret : HidReturn}

lemma Works.keeps {dev : Option UsbHandle} (h : Works (Event.Through dev) ref w u) :
    Keeps ref w u := by
  obtain ⟨es, hlog, hes⟩ := h.log
  obtain ⟨hd, hp⟩ := h.isSome
  exact ⟨⟨h.initialised, h.list, h.others, h.devHandle, h.device, h.interface, es, hlog,
    fun e he => neutral_through (hes e he)⟩, fun hs => hd.trans hs, fun hs => hp.trans hs⟩

/-! ## Allocating and closing -/

lemma Mallocs.quiet {part : Part} (h : Mallocs ref part w u) : Quiet ref w u := by
  obtain ⟨b, -, hlog, -⟩ := h.block
  exact ⟨h.initialised, h.list, h.others, h.devHandle, h.device, h.interface, [.malloc b], hlog,
    by simpa using neutral_malloc b⟩

lemma hidInitParser_ok (hopen : (w.hidifs ref).isOpened = true)
    (h : hidInitParser env ref w = .ok (ret, u)) :
    Quiet ref w u ∧ (ret = .success →
      (u.hidifs ref).hidData.isSome ∧ (u.hidifs ref).hidParser.isSome) := by
  obtain ⟨v, hv, ⟨hne, rfl⟩ | ⟨hu, -, hblocks⟩⟩ := hidInitParser_mallocs hopen h
  · exact ⟨hv.quiet, fun hs => absurd hs hne⟩
  · exact ⟨hv.quiet.trans hu.quiet, hblocks⟩

/-- What `hid_close` does. -/
structure Closed (ref : Ref) (w u : World) : Prop where
  initialised : u.initialised = w.initialised
  list : w.openHidDeviceList.removeOpenDevice ref = .ok u.openHidDeviceList
  hidifs : u.hidifs = Function.update w.hidifs ref closedInterface
  log : ∃ es, u.log = es ++ (closeEvents (w.hidifs ref).devHandle ++ w.log) ∧
    ∀ e ∈ es, handles.Neutral e

lemma neutral_freeEvents {a : Option ℕ} {e : Event} (he : e ∈ freeEvents a) :
    handles.Neutral e := by
  cases a with
  | none => cases he
  | some a =>
      rw [List.mem_singleton.mp he]
      exact neutral_free a

lemma hidClose_ok (h : hidClose env ref w = .ok (ret, u)) : Closed ref w u := by
  obtain ⟨hinit, hlist, hhidifs, hlog⟩ := hidClose_steps h
  refine ⟨hinit, hlist, hhidifs, freeEvents ((w.hidifs ref).block .data) ++
    freeEvents ((w.hidifs ref).block .parser), ?_, ?_⟩
  · rw [hlog, closingEvents]
    simp only [List.append_assoc]
  · intro e he
    rcases List.mem_append.mp he with he | he
    · exact neutral_freeEvents he
    · exact neutral_freeEvents he

/-! ## Preparing an interface, and claiming it -/

/-- A step that failed, after which the interface was closed. -/
def ClosedAfter (ref : Ref) (w u : World) : Prop := ∃ v, Quiet ref w v ∧ Closed ref v u

lemma hidPrepareInterface_ok (hopen : (w.hidifs ref).isOpened = true)
    (h : hidPrepareInterface env ref w = .ok (ret, u)) :
    (ret = .success ∧ Quiet ref w u ∧
      (u.hidifs ref).hidData.isSome ∧ (u.hidifs ref).hidParser.isSome) ∨
    (ret ≠ .success ∧ ClosedAfter ref w u) := by
  obtain ⟨r, v, x, hi, hw, h⟩ := hidPrepareInterface_steps hopen h
  obtain ⟨hq, hblocks⟩ := hidInitParser_ok hopen hi
  have hk := hw.keeps
  rcases h with ⟨rfl, rfl, rfl⟩ | ⟨hne, c, hc⟩
  · obtain ⟨hd, hp⟩ := hblocks rfl
    exact .inl ⟨rfl, hq.trans hk.toQuiet, hk.hidData hd, hk.hidParser hp⟩
  · exact .inr ⟨hne, x, hq.trans hk.toQuiet, hidClose_ok hc⟩

/-! ## The search -/

/-- What the custom function answers at a time. -/
def customAnswer (dev_h : UsbHandle) (m : HIDInterfaceMatcher) (t : ℕ) : Bool :=
  match m.matcherFn with
  | none => true
  | some fn => fn t dev_h

/-- The state after the custom function was asked. -/
def World.afterCustom (w : World) (dev_h : UsbHandle) (m : HIDInterfaceMatcher) : World :=
  match m.matcherFn with
  | none => w
  | some _ => w.record (.matcherFn dev_h)

lemma hidCompareUsbDevice_run (dev_h : UsbHandle) (m : HIDInterfaceMatcher) (w : World) :
    hidCompareUsbDevice env dev_h m w =
      .ok (matchFlags env dev_h m (customAnswer dev_h m w.log.length), w.afterCustom dev_h m) := by
  unfold hidCompareUsbDevice customAnswer World.afterCustom
  cases m.matcherFn with
  | none => rfl
  | some fn => rfl

/-- Whether an interface in the list holds the device and the interface number. -/
def World.held (w : World) (dev : UsbDevice) (interface : ℤ) : Except Stop Bool :=
  heldBy w.hidifs dev interface w.openHidDeviceList.entries

/-- The state after `usb_open` was called for a device, with the given outcome. -/
def World.atDevice (w : World) (ref : Ref) (bus : UsbBus) (dev : UsbDevice) (e : Event) : World :=
  (w.write ref { w.hidifs ref with id := deviceId bus dev (w.hidifs ref).interface }).record e

/-- The state after a device was opened and its interface claimed. -/
def World.afterOpen (w : World) (ref : Ref) (bus : UsbBus) (dev : UsbDevice) : World :=
  let handle : UsbHandle := ⟨w.log.length, dev⟩
  (w.atDevice ref bus dev (.usbOpen dev (some handle))).record
    (.usbClaimInterface (some handle) (w.hidifs ref).interface)

lemma Quiet.atDevice {bus : UsbBus} {dev : UsbDevice} {e : Event} (he : handles.Neutral e) :
    Quiet ref w (w.atDevice ref bus dev e) := by
  have hw : Quiet ref w (w.write ref
      { w.hidifs ref with id := deviceId bus dev (w.hidifs ref).interface }) := .write rfl rfl rfl
  exact hw.trans (.record he)

/-- The four ways the inspection of a device ends. -/
inductive Inspected (env : Env) (ref : Ref) (m : HIDInterfaceMatcher) (bus : UsbBus)
    (dev : UsbDevice) (w : World) : Option HidReturn → World → Prop
  | failed (hf : env.usbOpen w.log.length = false) :
      Inspected env ref m bus dev w (some .failOpenDevice)
        (w.atDevice ref bus dev (.usbOpen dev none))
  | skipped (ho : env.usbOpen w.log.length = true)
      (hh : (w.afterOpen ref bus dev).held (env.usbDevice ⟨w.log.length, dev⟩)
        (w.hidifs ref).interface = .ok true) :
      Inspected env ref m bus dev w none (w.afterOpen ref bus dev)
  | found {v : World} (ho : env.usbOpen w.log.length = true)
      (hh : (w.afterOpen ref bus dev).held (env.usbDevice ⟨w.log.length, dev⟩)
        (w.hidifs ref).interface = .ok false)
      (hm : matchFlags env ⟨w.log.length, dev⟩ m
        (customAnswer ⟨w.log.length, dev⟩ m (w.log.length + 2)) = usbMatchAll)
      (hv : v = (w.afterOpen ref bus dev).afterCustom ⟨w.log.length, dev⟩ m) :
      Inspected env ref m bus dev w (some .success) (v.write ref { v.hidifs ref with
        devHandle := some ⟨w.log.length, dev⟩
        device := some (env.usbDevice ⟨w.log.length, dev⟩) })
  | passed {v : World} (ho : env.usbOpen w.log.length = true)
      (hh : (w.afterOpen ref bus dev).held (env.usbDevice ⟨w.log.length, dev⟩)
        (w.hidifs ref).interface = .ok false)
      (hm : matchFlags env ⟨w.log.length, dev⟩ m
        (customAnswer ⟨w.log.length, dev⟩ m (w.log.length + 2)) ≠ usbMatchAll)
      (hv : v = (w.afterOpen ref bus dev).afterCustom ⟨w.log.length, dev⟩ m) :
      Inspected env ref m bus dev w none (v.record (.usbClose ⟨w.log.length, dev⟩))

lemma inspectDevice_ok {m : HIDInterfaceMatcher} {bus : UsbBus} {dev : UsbDevice}
    {o : Option HidReturn} (h : inspectDevice env ref m bus dev w = .ok (o, u)) :
    Inspected env ref m bus dev w o u := by
  simp only [inspectDevice, deref_bind, assign_bind, usbOpen, callOut_bind, World.write_log] at h
  by_cases ho : env.usbOpen w.log.length = true
  · simp only [ho, if_true, usbClaimInterface, callOut_bind] at h
    change (hidPreviouslyMatched env ⟨w.log.length, dev⟩ (w.hidifs ref).interface >>= _)
      (w.afterOpen ref bus dev) = .ok (o, u) at h
    obtain ⟨b, v, hp, h⟩ := state_bind_ok.mp h
    simp only [hidPreviouslyMatched, except_map_ok, Prod.mk.injEq] at hp
    obtain ⟨b', hb, rfl, rfl⟩ := hp
    cases b' with
    | true =>
        cases h
        exact .skipped ho hb
    | false =>
        simp only [Bool.false_eq_true, if_false] at h
        rw [state_bind_eq (hidCompareUsbDevice_run _ m _)] at h
        split_ifs at h with hm
        · cases h
          exact .found ho hb hm rfl
        · cases h
          exact .passed ho hb hm rfl
  · simp only [ho, Bool.false_eq_true, if_false] at h
    cases h
    exact .failed (by simpa using ho)

/-! ### The loops of the search -/

/-- The devices of the busses, in the order of the search. -/
def inOrder (busses : List UsbBus) : List (UsbBus × UsbDevice) :=
  busses.flatMap fun bus => bus.devices.map fun dev => (bus, dev)

lemma inOrder_devices (busses : List UsbBus) :
    (inOrder busses).map Prod.snd = busses.flatMap UsbBus.devices := by
  simp [inOrder, List.map_flatMap, List.map_map, Function.comp_def]

/-- The rule for the search: `I` holds before each inspection, of the devices left with their
busses, and `J` of how the search ends. -/
theorem find_rule {m : HIDInterfaceMatcher} {I : List (UsbBus × UsbDevice) → World → Prop}
    {J : HidReturn → World → Prop}
    (hgo : ∀ {bus dev rest w u}, I ((bus, dev) :: rest) w → Inspected env ref m bus dev w none u →
      I rest u)
    (hstop : ∀ {bus dev rest w u r}, I ((bus, dev) :: rest) w →
      Inspected env ref m bus dev w (some r) u → J r u)
    (hend : ∀ {w}, I [] w → J .deviceNotFound w)
    (hw : I (inOrder (env.usbGetBusses w.log.length)) w)
    (h : hidFindUsbDevice env ref m w = .ok (ret, u)) : J ret u := by
  have hbus : ∀ (bus : UsbBus) (devs : List UsbDevice) (more : List (UsbBus × UsbDevice))
      (w u : World) (o : Option HidReturn), I (devs.map (fun dev => (bus, dev)) ++ more) w →
      findOnBus env ref m bus devs w = .ok (o, u) →
      (o = none ∧ I more u) ∨ ∃ r, o = some r ∧ J r u := by
    intro bus devs
    induction devs with
    | nil =>
        intro more w u o hI h
        cases h
        exact .inl ⟨rfl, hI⟩
    | cons dev rest ih =>
        intro more w u o hI h
        obtain ⟨o', v, hi, h⟩ := state_bind_ok.mp h
        have hins := inspectDevice_ok hi
        cases o' with
        | none => exact ih more v u o (hgo hI hins) h
        | some r =>
            cases h
            exact .inr ⟨r, rfl, hstop hI hins⟩
  have hbusses : ∀ (busses : List UsbBus) (w : World), I (inOrder busses) w →
      findOnBusses env ref m busses w = .ok (ret, u) → J ret u := by
    intro busses
    induction busses with
    | nil =>
        intro w hI h
        cases h
        exact hend hI
    | cons bus rest ih =>
        intro w hI h
        obtain ⟨o, v, hf, h⟩ := state_bind_ok.mp h
        rw [inOrder, List.flatMap_cons] at hI
        rcases hbus bus bus.devices _ w v o hI hf with ⟨rfl, hI'⟩ | ⟨r, rfl, hJ⟩
        · exact ih v hI' h
        · cases h
          exact hJ
  exact hbusses _ w hw h

/-- The rule for the search, without the busses. -/
theorem search_rule {m : HIDInterfaceMatcher} {I : List UsbDevice → World → Prop}
    {J : HidReturn → World → Prop}
    (hgo : ∀ {bus dev rest w u}, I (dev :: rest) w → Inspected env ref m bus dev w none u →
      I rest u)
    (hstop : ∀ {bus dev rest w u r}, I (dev :: rest) w → Inspected env ref m bus dev w (some r) u →
      J r u)
    (hend : ∀ {w}, I [] w → J .deviceNotFound w)
    (hw : I ((env.usbGetBusses w.log.length).flatMap UsbBus.devices) w)
    (h : hidFindUsbDevice env ref m w = .ok (ret, u)) : J ret u := by
  refine find_rule (I := fun rest v => I (rest.map Prod.snd) v) hgo hstop hend ?_ h
  rw [inOrder_devices]
  exact hw

/-- The calls the search makes. -/
def Event.OfSearch : Event → Prop
  | .usbClaimInterface dev _ => dev.isSome = true
  | .usbOpen _ _ | .matcherFn _ | .usbClose _ => True
  | _ => False

/-- From `w` to `u` only calls of the search were made, and no block was moved. -/
structure Browses (w u : World) : Prop where
  block : u.block = w.block
  log : Logs Event.OfSearch w u

namespace Browses

variable {v : World}

lemma refl (w : World) : Browses w w := ⟨rfl, .of_eq _ rfl⟩

lemma trans (h : Browses w u) (h' : Browses u v) : Browses w v :=
  ⟨h'.block.trans h.block, h.log.trans h'.log⟩

lemma record {e : Event} (he : e.OfSearch) : Browses w (w.record e) := ⟨rfl, .of_cons rfl he⟩

lemma write {hidif : HIDInterface} (h : hidif.block = (w.hidifs ref).block) :
    Browses w (w.write ref hidif) := by
  refine ⟨?_, .of_eq _ rfl⟩
  funext slot
  rw [write_block]
  split_ifs with hslot
  · rw [h, World.block, hslot]
  · rfl

lemma atDevice (w : World) (ref : Ref) (bus : UsbBus) (dev : UsbDevice)
    (h : Option UsbHandle) : Browses w (w.atDevice ref bus dev (.usbOpen dev h)) := by
  have hw : Browses w (w.write ref
      { w.hidifs ref with id := deviceId bus dev (w.hidifs ref).interface }) := .write rfl
  exact hw.trans (.record trivial)

lemma afterOpen (w : World) (ref : Ref) (bus : UsbBus) (dev : UsbDevice) :
    Browses w (w.afterOpen ref bus dev) :=
  (atDevice w ref bus dev _).trans (.record rfl)

lemma afterCustom (w : World) (dev_h : UsbHandle) (m : HIDInterfaceMatcher) :
    Browses w (w.afterCustom dev_h m) := by
  unfold World.afterCustom
  cases m.matcherFn with
  | none => exact .refl w
  | some fn => exact .record trivial

end Browses

lemma Inspected.browses {m : HIDInterfaceMatcher} {bus : UsbBus} {dev : UsbDevice}
    {o : Option HidReturn} (hi : Inspected env ref m bus dev w o u) : Browses w u := by
  have hopen := Browses.afterOpen w ref bus dev
  cases hi with
  | failed => exact .atDevice w ref bus dev none
  | skipped => exact hopen
  | found _ _ _ hv =>
      subst hv
      exact (hopen.trans (.afterCustom _ _ m)).trans (.write rfl)
  | passed _ _ _ hv =>
      subst hv
      exact (hopen.trans (.afterCustom _ _ m)).trans (.record trivial)

lemma hidFindUsbDevice_browses {m : HIDInterfaceMatcher}
    (h : hidFindUsbDevice env ref m w = .ok (ret, u)) : Browses w u := by
  refine search_rule (I := fun _ v => Browses w v) (J := fun _ v => Browses w v)
    ?_ ?_ ?_ (.refl w) h
  · intro bus dev rest v v' hv hi
    exact hv.trans hi.browses
  · intro bus dev rest v v' r hv hi
    exact hv.trans hi.browses
  · intro v hv
    exact hv

/-- An interface with another `id`. -/
def HIDInterface.withId (hidif : HIDInterface) (id : String) : HIDInterface :=
  { hidif with id := id }

/-- Between two inspections only `id` has changed, and the log. -/
structure Searching (ref : Ref) (w u : World) : Prop where
  initialised : u.initialised = w.initialised
  list : u.openHidDeviceList = w.openHidDeviceList
  hidifs : ∃ id, u.hidifs = Function.update w.hidifs ref ((w.hidifs ref).withId id)
  log : w.log <:+ u.log

namespace Searching

variable {v : World}

lemma refl (ref : Ref) (w : World) : Searching ref w w :=
  ⟨rfl, rfl, ⟨(w.hidifs ref).id, by simp [HIDInterface.withId]⟩, List.suffix_refl _⟩

lemma trans (h : Searching ref w u) (h' : Searching ref u v) : Searching ref w v := by
  obtain ⟨id, hid⟩ := h.hidifs
  obtain ⟨id', hid'⟩ := h'.hidifs
  refine ⟨h'.initialised.trans h.initialised, h'.list.trans h.list, ⟨id', ?_⟩, h.log.trans h'.log⟩
  rw [hid', hid]
  simp [HIDInterface.withId]

lemma record (h : Searching ref w u) (e : Event) : Searching ref w (u.record e) :=
  ⟨h.initialised, h.list, h.hidifs, h.log.trans (List.suffix_cons e u.log)⟩

lemma atDevice (ref : Ref) (w : World) (bus : UsbBus) (dev : UsbDevice) (e : Event) :
    Searching ref w (w.atDevice ref bus dev e) :=
  ⟨rfl, rfl, ⟨deviceId bus dev (w.hidifs ref).interface, rfl⟩, List.suffix_cons e w.log⟩

lemma afterOpen (ref : Ref) (w : World) (bus : UsbBus) (dev : UsbDevice) :
    Searching ref w (w.afterOpen ref bus dev) :=
  (atDevice ref w bus dev _).record _

lemma afterCustom (h : Searching ref w u) (dev_h : UsbHandle) (m : HIDInterfaceMatcher) :
    Searching ref w (u.afterCustom dev_h m) := by
  unfold World.afterCustom
  cases m.matcherFn with
  | none => exact h
  | some fn => exact h.record _

lemma holds (h : Searching ref w u) (r : Ref) (dev : UsbDevice) (i : ℤ) :
    (u.hidifs r).holds dev i = (w.hidifs r).holds dev i := by
  obtain ⟨id, hid⟩ := h.hidifs
  rw [hid]
  by_cases hr : r = ref
  · subst hr
    simp [HIDInterface.holds, HIDInterface.withId]
  · rw [Function.update_of_ne hr]

lemma held (h : Searching ref w u) (dev : UsbDevice) (i : ℤ) : u.held dev i = w.held dev i := by
  unfold World.held
  rw [h.list]
  generalize w.openHidDeviceList.entries = entries
  induction entries with
  | nil => rfl
  | cons e rest ih =>
      cases e with
      | none => rfl
      | some r =>
          rw [heldBy, heldBy, h.holds, ih]

lemma interface (h : Searching ref w u) : (u.hidifs ref).interface = (w.hidifs ref).interface := by
  obtain ⟨id, hid⟩ := h.hidifs
  simp [hid, HIDInterface.withId]

end Searching

/-- The search succeeded: in a state it came to, it stored a handle whose device passes the
comparison and is not held. -/
structure Found (env : Env) (ref : Ref) (m : HIDInterfaceMatcher) (w u : World) where
  /-- The handle stored. -/
  handle : UsbHandle
  /-- The state before it was stored. -/
  before : World
  searching : Searching ref w before
  eq : u = before.write ref { before.hidifs ref with
    devHandle := some handle
    device := some (env.usbDevice handle) }
  notHeld : w.held (env.usbDevice handle) (w.hidifs ref).interface = .ok false
  passes : ∃ custom, matchFlags env handle m custom = usbMatchAll

namespace Found

variable {m : HIDInterfaceMatcher}

lemma stored (f : Found env ref m w u) : u.hidifs ref = { f.before.hidifs ref with
    devHandle := some f.handle
    device := some (env.usbDevice f.handle) } := by
  have h := congrArg (fun v : World => v.hidifs ref) f.eq
  simpa using h

lemma list (f : Found env ref m w u) : u.openHidDeviceList = w.openHidDeviceList :=
  (congrArg World.openHidDeviceList f.eq).trans f.searching.list

lemma initialised (f : Found env ref m w u) : u.initialised = w.initialised :=
  (congrArg World.initialised f.eq).trans f.searching.initialised

lemma others (f : Found env ref m w u) {r : Ref} (hr : r ≠ ref) : u.hidifs r = w.hidifs r := by
  obtain ⟨id, hid⟩ := f.searching.hidifs
  have h := congrArg (fun v : World => v.hidifs r) f.eq
  dsimp only at h
  rw [h, World.write_other _ _ _ hr, hid, Function.update_of_ne hr]

end Found

lemma hidFindUsbDevice_ok {m : HIDInterfaceMatcher}
    (h : hidFindUsbDevice env ref m w = .ok (ret, u)) :
    (ret = .success ∧ Nonempty (Found env ref m w u)) ∨ (ret ≠ .success ∧ Searching ref w u) := by
  refine search_rule (I := fun _ v => Searching ref w v) (J := fun r v =>
    (r = .success ∧ Nonempty (Found env ref m w v)) ∨ (r ≠ .success ∧ Searching ref w v))
    ?_ ?_ ?_ (.refl ref w) h
  · intro bus dev rest v u hv hi
    cases hi with
    | skipped => exact hv.trans (.afterOpen ref v bus dev)
    | passed _ _ _ hu =>
        subst hu
        exact (hv.trans ((Searching.afterOpen ref v bus dev).afterCustom _ m)).record _
  · intro bus dev rest v u r hv hi
    cases hi with
    | failed => exact .inr ⟨by simp, hv.trans (.atDevice ref v bus dev _)⟩
    | @found u ho hh hm hu =>
        have hb := hv.trans (.afterOpen ref v bus dev)
        rw [hb.held, hv.interface] at hh
        subst hu
        exact .inl ⟨rfl, ⟨_, _, hb.afterCustom _ m, rfl, hh, _, hm⟩⟩
  · intro v hv
    exact .inr ⟨by simp, hv⟩

/-! ## Opening -/

/-- A way to claim the interface that changes nothing but the log. -/
def Claims (claim : Hid HidReturn) (ref : Ref) : Prop :=
  ∀ {w u : World} {ret : HidReturn}, claim w = .ok (ret, u) → Keeps ref w u

/-- The same, with the calls a claim may make. -/
def ClaimsThrough (claim : Hid HidReturn) (ref : Ref) : Prop :=
  ∀ {w u : World} {ret : HidReturn}, claim w = .ok (ret, u) →
    Works (Event.Through (w.hidifs ref).devHandle) ref w u

lemma ClaimsThrough.claims {claim : Hid HidReturn} (h : ClaimsThrough claim ref) :
    Claims claim ref := fun hc => (h hc).keeps

/-- The state in which the search starts. -/
def World.atInterface (w : World) (ref : Ref) (interface : ℤ) : World :=
  w.write ref { w.hidifs ref with interface := interface }

/-- The handle a search that succeeds stores. -/
lemma hidFindUsbDevice_devHandle {m : HIDInterfaceMatcher}
    (h : hidFindUsbDevice env ref m w = .ok (.success, u)) :
    ∃ x, (u.hidifs ref).devHandle = some x := by
  rcases hidFindUsbDevice_ok h with ⟨-, ⟨hf⟩⟩ | ⟨hne, -⟩
  · exact ⟨hf.handle, congrArg HIDInterface.devHandle hf.stored⟩
  · exact absurd rfl hne

/-- An open, cut at its calls: the search, the claim, and the close or the preparation after it. -/
lemma openWith_split {claim : Hid HidReturn} {i : ℤ} {m : HIDInterfaceMatcher}
    (h : openWith env claim ref i m w = .ok (ret, u)) :
    ∃ r w₂, hidFindUsbDevice env ref m (w.atInterface ref i) = .ok (r, w₂) ∧
      ((r ≠ .success ∧ ret = r ∧
          u = w₂.write ref { w₂.hidifs ref with devHandle := none, device := none }) ∨
        (r = .success ∧ ∃ c w₃, claim w₂ = .ok (c, w₃) ∧
          ((c ≠ .success ∧ ret = c ∧ ∃ x, hidClose env ref w₃ = .ok (x, u)) ∨
            ∃ w₄, hidPrepareInterface env ref w₃ = .ok (ret, w₄) ∧
              u = if ret = .success then
                { w₄ with openHidDeviceList := w₄.openHidDeviceList.addOpenDevice ref }
              else w₄))) := by
  simp only [openWith, deref_bind, assign_bind] at h
  obtain ⟨r, w₂', hget, h⟩ := state_bind_ok.mp h
  obtain ⟨r', w₂, hfind, hget⟩ := state_bind_ok.mp hget
  refine ⟨r', w₂, hfind, ?_⟩
  by_cases hr' : r' = .success
  · right
    subst hr'
    rw [if_pos rfl] at hget
    cases hget
    rw [if_neg (by simp)] at h
    obtain ⟨c, w₃, hc, h⟩ := state_bind_ok.mp h
    refine ⟨rfl, c, w₃, hc, ?_⟩
    split_ifs at h with hne
    · obtain ⟨x, w₄, hcl, h⟩ := state_bind_ok.mp h
      cases h
      exact .inl ⟨hne, rfl, x, hcl⟩
    · obtain ⟨p, w₄, hp, h⟩ := state_bind_ok.mp h
      right
      split_ifs at h with hne'
      · cases h
        exact ⟨_, hp, (if_neg hne').symm⟩
      · cases h
        rw [not_not.mp hne'] at hp
        exact ⟨w₄, hp, rfl⟩
  · left
    rw [if_neg hr'] at hget
    cases hget
    rw [if_pos hr'] at h
    cases h
    exact ⟨hr', rfl, rfl⟩

/-- How an open goes on after the search `w₂` ends it. -/
lemma openWith_cases {claim : Hid HidReturn} (hclaim : Claims claim ref) {i : ℤ}
    {m : HIDInterfaceMatcher} (h : openWith env claim ref i m w = .ok (ret, u)) :
    ∃ r w₂, hidFindUsbDevice env ref m (w.atInterface ref i) = .ok (r, w₂) ∧
      ((r ≠ .success ∧ ret = r ∧
          u = w₂.write ref { w₂.hidifs ref with devHandle := none, device := none }) ∨
        (r = .success ∧ ∃ w₃, Quiet ref w₂ w₃ ∧
          ((ret ≠ .success ∧ Closed ref w₃ u) ∨
            (ret = .success ∧ (w₃.hidifs ref).hidData.isSome ∧ (w₃.hidifs ref).hidParser.isSome ∧
              u = { w₃ with openHidDeviceList := w₃.openHidDeviceList.addOpenDevice ref })))) := by
  obtain ⟨r, w₂, hfind, h⟩ := openWith_split h
  refine ⟨r, w₂, hfind, ?_⟩
  rcases h with h | ⟨rfl, c, w₃, hc, h⟩
  · exact .inl h
  · have hw₃ := hclaim hc
    refine .inr ⟨rfl, ?_⟩
    rcases h with ⟨hne, rfl, x, hcl⟩ | ⟨w₄, hp, rfl⟩
    · exact ⟨w₃, hw₃.toQuiet, .inl ⟨hne, hidClose_ok hcl⟩⟩
    · obtain ⟨x, hx⟩ := hidFindUsbDevice_devHandle hfind
      have hopen : (w₃.hidifs ref).isOpened = true := by
        rw [HIDInterface.isOpened, hw₃.devHandle, hx]
        rfl
      rcases hidPrepareInterface_ok hopen hp with ⟨rfl, hq, hd, hp'⟩ | ⟨hne', v, hq, hcl⟩
      · exact ⟨w₄, hw₃.toQuiet.trans hq, .inr ⟨rfl, hd, hp', if_pos rfl⟩⟩
      · rw [if_neg hne']
        exact ⟨v, hw₃.toQuiet.trans hq, .inl ⟨hne', hcl⟩⟩

/-- A failed open leaves no device in the interface. -/
lemma openWith_device {claim : Hid HidReturn} {i : ℤ} {m : HIDInterfaceMatcher}
    (hclaim : Claims claim ref) (ho : openWith env claim ref i m w = .ok (ret, u))
    (hret : ret ≠ .success) : (u.hidifs ref).device = none := by
  obtain ⟨r, w₂, hfind, ⟨-, -, rfl⟩ | ⟨-, w₃, -, ⟨-, hc⟩ | ⟨hr, -⟩⟩⟩ := openWith_cases hclaim ho
  · rw [World.write_same]
  · rw [hc.hidifs, Function.update_self]
    rfl
  · exact absurd hr hret

/-- An open that succeeds keeps the device its search stored. -/
lemma openWith_stored {claim : Hid HidReturn} {i : ℤ} {m : HIDInterfaceMatcher}
    (hclaim : Claims claim ref) (ho : openWith env claim ref i m w = .ok (.success, u)) :
    ∃ v, hidFindUsbDevice env ref m (w.atInterface ref i) = .ok (.success, v) ∧
      (u.hidifs ref).device = (v.hidifs ref).device := by
  obtain ⟨r, w₂, hfind, ⟨hr, rfl, -⟩ | ⟨rfl, w₃, hq, ⟨hr, -⟩ | ⟨-, -, -, rfl⟩⟩⟩ :=
    openWith_cases hclaim ho
  · exact absurd rfl hr
  · exact absurd rfl hr
  · exact ⟨w₂, hfind, hq.device⟩

/-- What an open that succeeds does. -/
structure Opens (env : Env) (ref : Ref) (interface : ℤ) (m : HIDInterfaceMatcher) (w u : World) :
    Prop where
  initialised : u.initialised = w.initialised
  list : u.openHidDeviceList = w.openHidDeviceList.addOpenDevice ref
  others : ∀ r, r ≠ ref → u.hidifs r = w.hidifs r
  handle : ∃ h custom, (u.hidifs ref).devHandle = some h ∧
    (u.hidifs ref).device = some (env.usbDevice h) ∧
    matchFlags env h m custom = usbMatchAll ∧
    (w.atInterface ref interface).held (env.usbDevice h) interface = .ok false
  interface : (u.hidifs ref).interface = interface
  hidData : (u.hidifs ref).hidData.isSome
  hidParser : (u.hidifs ref).hidParser.isSome

/-- What an open that fails does: if it got as far as a handle, the interface was closed. -/
structure FailsToOpen (ref : Ref) (w u : World) : Prop where
  initialised : u.initialised = w.initialised
  others : ∀ r, r ≠ ref → u.hidifs r = w.hidifs r
  outcome :
    (u.openHidDeviceList = w.openHidDeviceList ∧ (u.hidifs ref).devHandle = none ∧
      (u.hidifs ref).hidData = (w.hidifs ref).hidData ∧
      (u.hidifs ref).hidParser = (w.hidifs ref).hidParser) ∨
    (w.openHidDeviceList.removeOpenDevice ref = .ok u.openHidDeviceList ∧
      u.hidifs ref = closedInterface)

lemma FailsToOpen.of_closed {v : World} (hinit : v.initialised = w.initialised)
    (hlist : v.openHidDeviceList = w.openHidDeviceList)
    (hothers : ∀ r, r ≠ ref → v.hidifs r = w.hidifs r) (h : Closed ref v u) :
    FailsToOpen ref w u := by
  refine ⟨h.initialised.trans hinit, fun r hr => ?_, .inr ⟨hlist ▸ h.list, ?_⟩⟩
  · rw [h.hidifs, Function.update_of_ne hr, hothers r hr]
  · rw [h.hidifs, Function.update_self]

@[simp] lemma atInterface_interface (w : World) (ref : Ref) (i : ℤ) :
    ((w.atInterface ref i).hidifs ref).interface = i := by
  simp [World.atInterface]

lemma atInterface_other (w : World) {r ref : Ref} (i : ℤ) (h : r ≠ ref) :
    (w.atInterface ref i).hidifs r = w.hidifs r := World.write_other _ _ _ h

/-- **What opening does.** -/
theorem openWith_ok {claim : Hid HidReturn} (hclaim : Claims claim ref) {i : ℤ}
    {m : HIDInterfaceMatcher} (h : openWith env claim ref i m w = .ok (ret, u)) :
    (ret = .success ∧ Opens env ref i m w u) ∨ (ret ≠ .success ∧ FailsToOpen ref w u) := by
  obtain ⟨r, w₂, hfind, h⟩ := openWith_cases hclaim h
  rcases hidFindUsbDevice_ok hfind with ⟨rfl, ⟨hf⟩⟩ | ⟨hr, hs⟩
  · -- a device was found
    obtain ⟨hne, -⟩ | ⟨-, w₃, hq, h⟩ := h
    · exact absurd rfl hne
    · have hothers : ∀ r, r ≠ ref → w₃.hidifs r = w.hidifs r := fun r hr =>
        ((hq.others r hr).trans (hf.others hr)).trans (atInterface_other w i hr)
      have hlist : w₃.openHidDeviceList = w.openHidDeviceList := hq.list.trans hf.list
      have hinit : w₃.initialised = w.initialised := hq.initialised.trans hf.initialised
      rcases h with ⟨hne, hc⟩ | ⟨rfl, hd, hp, rfl⟩
      · exact .inr ⟨hne, .of_closed hinit hlist hothers hc⟩
      · obtain ⟨custom, hm⟩ := hf.passes
        have hheld := hf.notHeld
        rw [atInterface_interface] at hheld
        have hinterface : (w₂.hidifs ref).interface = i := by
          rw [hf.stored]
          exact hf.searching.interface.trans (atInterface_interface w ref i)
        refine .inl ⟨rfl, hinit, by rw [← hlist], hothers,
          ⟨hf.handle, custom, ?_, ?_, hm, hheld⟩, hq.interface.trans hinterface, hd, hp⟩
        · exact hq.devHandle.trans (congrArg HIDInterface.devHandle hf.stored)
        · exact hq.device.trans (congrArg HIDInterface.device hf.stored)
  · -- no device was found
    obtain ⟨-, rfl, rfl⟩ | ⟨h, -⟩ := h
    · obtain ⟨id, hid⟩ := hs.hidifs
      refine .inr ⟨hr, hs.initialised, fun r hr' => ?_, .inl ⟨hs.list, ?_, ?_, ?_⟩⟩
      · rw [World.write_other _ _ _ hr', hid, Function.update_of_ne hr', atInterface_other w i hr']
      · rw [World.write_same]
      · rw [World.write_same, hid]
        simp [HIDInterface.withId, World.atInterface]
      · rw [World.write_same, hid]
        simp [HIDInterface.withId, World.atInterface]
    · exact absurd h hr

/-! ## The three calls -/

/-- What a call of `hid_open` or `hid_force_open` does: it is turned down, or it opens. -/
lemma openChecked_ok {claim : Ref → Hid HidReturn} {hidif : Option Ref} {i : ℤ}
    {matcher : Option HIDInterfaceMatcher}
    (h : openChecked env claim hidif i matcher w = .ok (ret, u)) :
    (ret ≠ .success ∧ u = w) ∨ ∃ ref m, hidif = some ref ∧ matcher = some m ∧
      w.initialised = true ∧ (w.hidifs ref).devHandle = none ∧
      openWith env (claim ref) ref i m w = .ok (ret, u) := by
  simp only [openChecked, hidIsInitialised_bind] at h
  split_ifs at h with hinit
  · cases h
    exact .inl ⟨by simp, rfl⟩
  · cases hidif with
    | none =>
        cases h
        exact .inl ⟨by simp, rfl⟩
    | some ref =>
        simp only [deref_bind] at h
        split_ifs at h with hopen
        · cases h
          exact .inl ⟨by simp, rfl⟩
        · cases matcher with
          | none =>
              cases h
              exact .inl ⟨by simp, rfl⟩
          | some m =>
              refine .inr ⟨ref, m, rfl, rfl, by simpa using hinit, ?_, h⟩
              simpa [HIDInterface.isOpened] using hopen

/-- The interface an opening call is made on, the interface number and the matcher. -/
def Call.opening : Call → Option (Ref × ℤ × HIDInterfaceMatcher)
  | .hidOpen (some ref) i (some m) | .hidForceOpen (some ref) i (some m) _ => some (ref, i, m)
  | _ => none

/-- **What a call does**: it is turned down, opens, or closes. -/
inductive Made (env : Env) (w : World) : Call → HidReturn → World → Prop
  | declined {call : Call} {ret : HidReturn} (hr : ret ≠ .success)
      (hc : ∀ ref, call ≠ .hidClose ref) : Made env w call ret w
  | opened {call : Call} {ret : HidReturn} {u : World} {ref : Ref} {i : ℤ} {m : HIDInterfaceMatcher}
      {claim : Hid HidReturn} (hc : call.opening = some (ref, i, m)) (hinit : w.initialised = true)
      (hclosed : (w.hidifs ref).devHandle = none) (hclaim : Claims claim ref)
      (h : openWith env claim ref i m w = .ok (ret, u)) : Made env w call ret u
  | closed {ref : Ref} {ret : HidReturn} {u : World} (h : Closed ref w u) :
      Made env w (.hidClose ref) ret u

/-- What a call does, in terms of the functions it calls. -/
lemma run_cases {call : Call} (h : call.run env w = .ok (ret, u)) :
    (∃ ref, call = .hidClose ref ∧ hidClose env ref w = .ok (ret, u)) ∨
    (∀ ref, call ≠ .hidClose ref) ∧ ((ret ≠ .success ∧ u = w) ∨
      ∃ ref i m claim, call.opening = some (ref, i, m) ∧ w.initialised = true ∧
        (w.hidifs ref).devHandle = none ∧ ClaimsThrough claim ref ∧
        openWith env claim ref i m w = .ok (ret, u)) := by
  cases call with
  | hidOpen hidif i matcher =>
      refine .inr ⟨by simp, ?_⟩
      rcases openChecked_ok h with hd | ⟨ref, m, rfl, rfl, hinit, hclosed, h⟩
      · exact .inl hd
      · exact .inr ⟨ref, i, m, _, rfl, hinit, hclosed, fun hc => claimOnce_works hc, h⟩
  | hidForceOpen hidif i matcher retries =>
      refine .inr ⟨by simp, ?_⟩
      rcases openChecked_ok h with hd | ⟨ref, m, rfl, rfl, hinit, hclosed, h⟩
      · exact .inl hd
      · exact .inr ⟨ref, i, m, _, rfl, hinit, hclosed, fun hc => hidOsForceClaim_works hc, h⟩
  | hidClose ref => exact .inl ⟨ref, rfl, h⟩

/-- An opening call that passes its checks opens. -/
lemma run_opening {call : Call} {ref : Ref} {i : ℤ} {m : HIDInterfaceMatcher}
    (hc : call.opening = some (ref, i, m)) (hinit : w.initialised = true)
    (hn : (w.hidifs ref).devHandle = none) :
    ∃ claim, ClaimsThrough claim ref ∧ call.run env w = openWith env claim ref i m w := by
  have hopen : (w.hidifs ref).isOpened = false := by
    rw [HIDInterface.isOpened, hn]
    rfl
  have hrun : ∀ claim : Ref → Hid HidReturn,
      openChecked env claim (some ref) i (some m) w = openWith env (claim ref) ref i m w := by
    intro claim
    simp only [openChecked, hidIsInitialised_bind, hinit, deref_bind, hopen, Bool.not_true,
      Bool.false_eq_true, if_false]
  unfold Call.opening at hc
  split at hc
  · cases hc
    exact ⟨claimOnce env ref i, fun h => claimOnce_works h, hrun (claimOnce env · i)⟩
  · next retries =>
      cases hc
      exact ⟨hidOsForceClaim env ref i retries, fun h => hidOsForceClaim_works h,
        hrun (hidOsForceClaim env · i retries)⟩
  · cases hc

theorem run_ok {call : Call} (h : call.run env w = .ok (ret, u)) : Made env w call ret u := by
  rcases run_cases h with ⟨ref, rfl, hc⟩ | ⟨hne, ⟨hr, rfl⟩ | hopen⟩
  · exact .closed (hidClose_ok hc)
  · exact .declined hr hne
  · obtain ⟨ref, i, m, claim, hc, hinit, hclosed, hclaim, h⟩ := hopen
    exact .opened hc hinit hclosed hclaim.claims h

end Steps

end Libhid
