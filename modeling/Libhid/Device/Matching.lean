import Libhid.Device.Handles

/-!
# Which device is taken

The comparison of a device with a matcher asks for the bits of the IDs: `HID_ID_MATCH_ANY`, 0, asks
for none, and any other ID is taken for every ID with more bits.  `takes` is the search of the
busses with nothing but its result; a device stored has the IDs asked for exactly when the one taken
has no more bits than they (`storedMatches_iff`).  On busses where every device can be opened the
search stores the first device that suits, and finds one if there is one (`findsFirstSuiting`).
-/

namespace Libhid

open Framework

/-! ## IDs -/

/-- `HID_ID_MATCH_ANY`. -/
abbrev hidIdMatchAny : UInt16 := 0x0000

namespace HIDInterfaceMatcher

/-- The device has the IDs that are asked for. -/
structure Matches (m : HIDInterfaceMatcher) (dev : UsbDevice) : Prop where
  vendor : m.vendorId = hidIdMatchAny ∨ dev.idVendor = m.vendorId
  product : m.productId = hidIdMatchAny ∨ dev.idProduct = m.productId

/-- The IDs of the device have no bits but those of the IDs that are asked for. -/
structure NoMoreBits (m : HIDInterfaceMatcher) (dev : UsbDevice) : Prop where
  vendor : m.vendorId = hidIdMatchAny ∨ dev.idVendor &&& ~~~m.vendorId = 0
  product : m.productId = hidIdMatchAny ∨ dev.idProduct &&& ~~~m.productId = 0

end HIDInterfaceMatcher

/-- An ID with the bits of a mask is the mask if it has no others. -/
lemma and_not_eq_zero_iff {id mask : UInt16} (h : id &&& mask = mask) :
    id &&& ~~~mask = 0 ↔ id = mask := by
  constructor
  · intro hrest
    have hsplit : id &&& (mask ||| ~~~mask) = (id &&& mask) ||| (id &&& ~~~mask) := by
      simp only [← UInt16.toBitVec_inj, UInt16.toBitVec_and, UInt16.toBitVec_or]
      exact BitVec.and_or_distrib_left
    calc id = id &&& (mask ||| ~~~mask) := by rw [UInt16.or_not_self, UInt16.and_neg_one]
      _ = mask ||| 0 := by rw [hsplit, h, hrest]
      _ = mask := UInt16.or_zero
  · rintro rfl
    exact UInt16.and_not_self

section Flags

variable {env : Env} {dev_h : UsbHandle} {m : HIDInterfaceMatcher} {custom : Bool}

/-- All flags are set only together. -/
lemma flags_all {p q r : Prop} [Decidable p] [Decidable q] [Decidable r] :
    ((if p then usbMatchVendor else 0) ||| (if q then usbMatchProduct else 0) |||
      (if r then usbMatchCustom else 0)) = usbMatchAll ↔ p ∧ q ∧ r := by
  by_cases hp : p <;> by_cases hq : q <;> by_cases hr : r <;> simp only [hp, hq, hr] <;> decide

lemma matchFlags_all : matchFlags env dev_h m custom = usbMatchAll ↔
    (env.usbDevice dev_h).idVendor > 0 ∧
      (env.usbDevice dev_h).idVendor &&& m.vendorId = m.vendorId ∧
      (env.usbDevice dev_h).idProduct &&& m.productId = m.productId ∧ custom = true := by
  rw [matchFlags, flags_all, and_assoc]

/-- **A device that passes the comparison has the IDs asked for if and only if it has no more bits
than they.** -/
lemma matches_iff (h : matchFlags env dev_h m custom = usbMatchAll) :
    m.Matches (env.usbDevice dev_h) ↔ m.NoMoreBits (env.usbDevice dev_h) := by
  obtain ⟨-, hv, hp, -⟩ := matchFlags_all.mp h
  constructor
  · rintro ⟨hvendor, hproduct⟩
    exact ⟨hvendor.imp_right (and_not_eq_zero_iff hv).mpr,
      hproduct.imp_right (and_not_eq_zero_iff hp).mpr⟩
  · rintro ⟨hvendor, hproduct⟩
    exact ⟨hvendor.imp_right (and_not_eq_zero_iff hv).mp,
      hproduct.imp_right (and_not_eq_zero_iff hp).mp⟩

end Flags

/-! ## The device taken -/

/-- What the search takes, from the `t`-th call on: a handle of the first device that is not held
and passes the comparison, unless a device before it cannot be opened. -/
def takes (env : Env) (held : UsbDevice → Bool) (m : HIDInterfaceMatcher) :
    ℕ → List UsbDevice → Option UsbHandle
  | _, [] => none
  | t, dev :: rest =>
      if env.usbOpen t then
        if held (env.usbDevice ⟨t, dev⟩) then takes env held m (t + 2) rest
        else if matchFlags env ⟨t, dev⟩ m (customAnswer ⟨t, dev⟩ m (t + 2)) = usbMatchAll then
          some ⟨t, dev⟩
        else takes env held m (t + 3 + if m.matcherFn.isSome then 1 else 0) rest
      else none

/-- What the search of an interface takes. -/
def World.takes (w : World) (env : Env) (ref : Ref) (m : HIDInterfaceMatcher) : Option UsbHandle :=
  Libhid.takes env (w.holds (w.hidifs ref).interface) m w.log.length
    ((env.usbGetBusses w.log.length).flatMap UsbBus.devices)

section Search

variable {env : Env} {ref : Ref} {m : HIDInterfaceMatcher} {w u v : World} {bus : UsbBus}
  {dev : UsbDevice} {rest : List UsbDevice} {ret : HidReturn}

lemma Inspected.searching (hi : Inspected env ref m bus dev w none u) : Searching ref w u := by
  cases hi with
  | skipped => exact .afterOpen ref w bus dev
  | passed _ _ _ hv =>
      subst hv
      exact ((Searching.afterOpen ref w bus dev).afterCustom _ m).record _

/-- What the state `v` of a search that began in `w` has of the devices left. -/
structure Taking (env : Env) (ref : Ref) (m : HIDInterfaceMatcher) (w : World)
    (rest : List UsbDevice) (v : World) : Prop where
  searching : Searching ref w v
  takes : w.takes env ref m =
    Libhid.takes env (w.holds (w.hidifs ref).interface) m v.log.length rest

lemma Taking.held (h : Taking env ref m w (dev :: rest) v) {b : Bool} {d : UsbDevice}
    (hh : (v.afterOpen ref bus dev).held d (v.hidifs ref).interface = .ok b) :
    w.holds (w.hidifs ref).interface d = b := by
  rw [(Searching.afterOpen ref v bus dev).held, h.searching.held, h.searching.interface] at hh
  rw [World.holds, hh]

lemma Taking.step (h : Taking env ref m w (dev :: rest) v)
    (hi : Inspected env ref m bus dev v none u) : Taking env ref m w rest u := by
  refine ⟨h.searching.trans hi.searching, h.takes.trans ?_⟩
  cases hi with
  | skipped ho hh =>
      rw [Libhid.takes, if_pos ho, if_pos (h.held hh)]
      rfl
  | @passed v' ho hh hm hv =>
      change v' = v.compared ref m bus dev at hv
      rw [Libhid.takes, if_pos ho, h.held hh, if_neg (by simp), if_neg hm, hv, World.record_log,
        List.length_cons, compared_length]
      congr 1
      omega

/-- **The search stores what it takes.** -/
lemma hidFindUsbDevice_takes (h : hidFindUsbDevice env ref m w = .ok (.success, u)) :
    ∃ x custom, w.takes env ref m = some x ∧ (u.hidifs ref).device = some (env.usbDevice x) ∧
      matchFlags env x m custom = usbMatchAll := by
  refine search_rule (I := Taking env ref m w) (J := fun r v => r = .success →
    ∃ x custom, w.takes env ref m = some x ∧ (v.hidifs ref).device = some (env.usbDevice x) ∧
      matchFlags env x m custom = usbMatchAll) ?_ ?_ ?_ ⟨.refl ref w, rfl⟩ h rfl
  · intro bus dev rest v v' hv hi
    exact hv.step hi
  · intro bus dev rest v v' r hv hi hr
    subst hr
    cases hi with
    | found ho hh hm =>
        refine ⟨_, _, ?_, by rw [World.write_same], hm⟩
        rw [hv.takes, Libhid.takes, if_pos ho, hv.held hh, if_neg (by simp), if_pos hm]
  · intro v _ hr
    cases hr

/-- **A device stored by `hid_open` and `hid_force_open` has the IDs asked for if and only if the
one taken has no more bits than they.** A call that fails stores none. -/
theorem storedMatches_iff {call : Call} {i : ℤ} (hc : call.opening = some (ref, i, m))
    (h : call.run env w = .ok (ret, u)) :
    (ret ≠ .success ∧ (u = w ∨ (u.hidifs ref).device = none)) ∨ (ret = .success ∧
      ((∀ dev, (u.hidifs ref).device = some dev → m.Matches dev) ↔
        ∀ x, (w.atInterface ref i).takes env ref m = some x →
          m.NoMoreBits (env.usbDevice x))) := by
  rcases run_cases h with ⟨r, rfl, -⟩ | ⟨-, ⟨hr, rfl⟩ | ⟨r, j, m', claim, hc', -, -, hclaim, ho⟩⟩
  · cases hc
  · exact .inl ⟨hr, .inl rfl⟩
  · rw [hc] at hc'
    cases hc'
    by_cases hr : ret = .success
    · subst hr
      obtain ⟨v, hfind, hdev⟩ := openWith_stored hclaim.claims ho
      obtain ⟨x, custom, htakes, hstored, hm⟩ := hidFindUsbDevice_takes hfind
      refine .inr ⟨rfl, ?_⟩
      rw [hdev, hstored, htakes]
      simpa using matches_iff hm
    · exact .inl ⟨hr, .inr (openWith_device hclaim.claims ho hr)⟩

end Search

/-- `storedMatches_iff` for the device of the bench. -/
theorem storedMatches_iff_bench : ∃ u, (benchOpen 0 0).run (bench [benchDevice 4]) benchStart =
    .ok (.success, u) ∧ ∀ dev, (u.hidifs 0).device = some dev → benchMatcher.Matches dev := by
  have hrun : endsWith (fun ret _ => ret == .success)
      ((benchOpen 0 0).run (bench [benchDevice 4]) benchStart) = true := by
    decide +kernel
  obtain ⟨ret, u, h, hp⟩ := exists_of_endsWith hrun
  obtain rfl := eq_of_beq hp
  have htakes : (benchStart.atInterface 0 0).takes (bench [benchDevice 4]) 0 benchMatcher =
      some ⟨0, benchDevice 4⟩ := by
    decide +kernel
  rcases storedMatches_iff rfl h with ⟨hne, -⟩ | ⟨-, hiff⟩
  · exact absurd rfl hne
  · refine ⟨u, h, hiff.mpr fun x hx => ?_⟩
    rw [htakes, Option.some.injEq] at hx
    subst hx
    exact ⟨.inr (by decide), .inl rfl⟩

/-- Not every device stored has the IDs asked for: the vendor ID 051f has the bits of 051d. -/
theorem storedMatches_fails : ¬ ∀ (env : Env) (w u : World) (call : Call) (ref : Ref) (i : ℤ)
    (m : HIDInterfaceMatcher) (dev : UsbDevice), call.opening = some (ref, i, m) →
    call.run env w = .ok (.success, u) → (u.hidifs ref).device = some dev → m.Matches dev := by
  intro hall
  have hrun : endsWith (fun ret w => ret == .success &&
      (w.hidifs 0).device == some ⟨4, "4", 0x051f, 0x0002⟩)
      ((benchOpen 0 0).run (bench [⟨4, "4", 0x051f, 0x0002⟩]) benchStart) = true := by
    decide +kernel
  obtain ⟨ret, u, h, hp⟩ := exists_of_endsWith hrun
  simp only [Bool.and_eq_true, beq_iff_eq] at hp
  obtain ⟨rfl, hdev⟩ := hp
  rcases (hall _ _ _ _ _ _ _ _ rfl h hdev).vendor with hany | hsame
  · exact absurd hany (by decide)
  · exact absurd hsame (by decide)

/-! ## Busses on which every device can be opened -/

/-- The custom function answers by the device. -/
def HIDInterfaceMatcher.Deterministic (m : HIDInterfaceMatcher) : Prop :=
  ∀ fn, m.matcherFn = some fn → ∀ t t' h h', h.dev = h'.dev → fn t h = fn t' h'

/-- A device passes `hid_compare_usb_device` with all flags, whatever handle it is opened with. -/
def Passes (env : Env) (m : HIDInterfaceMatcher) (dev : UsbDevice) : Prop :=
  ∀ id w, ∃ u, hidCompareUsbDevice env ⟨id, dev⟩ m w = .ok (usbMatchAll, u)

/-- An interface in the list holds the device with the interface number. -/
def World.HeldInList (w : World) (dev : UsbDevice) (interface : ℤ) : Prop :=
  ∃ r, some r ∈ w.openHidDeviceList.entries ∧ (w.hidifs r).interface = interface ∧
    (w.hidifs r).device.map UsbDevice.addr = some dev.addr

/-- A device that an open of an interface may take. -/
structure Suits (env : Env) (m : HIDInterfaceMatcher) (w : World) (interface : ℤ)
    (dev : UsbDevice) : Prop where
  passes : Passes env m dev
  free : ¬ w.HeldInList dev interface

/-- The handle, the device and the `id` of an interface are those of one device of a bus. -/
structure HIDInterface.Describes (hidif : HIDInterface) (env : Env) (bus : UsbBus)
    (dev : UsbDevice) : Prop where
  devHandle : ∃ h, hidif.devHandle = some h ∧ env.usbDevice h = dev
  device : hidif.device = some dev
  id : hidif.id = deviceId bus dev hidif.interface

/-- The search stored the first device that suits. -/
structure TakesFirst (env : Env) (ref : Ref) (m : HIDInterfaceMatcher) (w u : World) : Prop where
  interface : (u.hidifs ref).interface = (w.hidifs ref).interface
  first : ∃ pre bus dev post, inOrder (env.usbGetBusses w.log.length) = pre ++ (bus, dev) :: post ∧
    (∀ x ∈ pre, ¬ Suits env m w (w.hidifs ref).interface x.2) ∧
    Suits env m w (w.hidifs ref).interface dev ∧ (u.hidifs ref).Describes env bus dev

section Suiting

variable {env : Env} {ref : Ref} {m : HIDInterfaceMatcher} {w u v : World} {bus : UsbBus}
  {dev : UsbDevice} {ret : HidReturn}

lemma matchFlags_dev (hdev : ∀ h, env.usbDevice h = h.dev) {h h' : UsbHandle}
    (hh : h.dev = h'.dev) (custom : Bool) :
    matchFlags env h m custom = matchFlags env h' m custom := by
  rw [matchFlags, matchFlags, hdev, hdev, hh]

lemma HIDInterfaceMatcher.Deterministic.customAnswer (hm : m.Deterministic) {h h' : UsbHandle}
    (hh : h.dev = h'.dev) (t t' : ℕ) : customAnswer h m t = customAnswer h' m t' := by
  unfold Libhid.customAnswer
  cases hfn : m.matcherFn with
  | none => rfl
  | some fn => exact hm fn hfn t t' h h' hh

/-- One comparison tells whether a device passes. -/
lemma passes_iff (hdev : ∀ h, env.usbDevice h = h.dev) (hm : m.Deterministic) (h : UsbHandle)
    (t : ℕ) : Passes env m h.dev ↔ matchFlags env h m (customAnswer h m t) = usbMatchAll := by
  have hsame : ∀ id t', matchFlags env ⟨id, h.dev⟩ m (customAnswer ⟨id, h.dev⟩ m t') =
      matchFlags env h m (customAnswer h m t) := fun id t' => by
    rw [matchFlags_dev hdev (show (⟨id, h.dev⟩ : UsbHandle).dev = h.dev from rfl),
      hm.customAnswer (show (⟨id, h.dev⟩ : UsbHandle).dev = h.dev from rfl) t' t]
  constructor
  · intro hp
    obtain ⟨u, hu⟩ := hp h.id (World.start true fun _ => closedInterface)
    rw [hidCompareUsbDevice_run] at hu
    rw [← hsame h.id 0]
    exact congrArg Prod.fst (Except.ok.inj hu)
  · intro hall id w
    refine ⟨w.afterCustom ⟨id, h.dev⟩ m, ?_⟩
    rw [hidCompareUsbDevice_run, hsame, hall]

lemma holds_iff {hidif : HIDInterface} {i : ℤ} : hidif.holds dev i = true ↔
    hidif.interface = i ∧ hidif.device.map UsbDevice.addr = some dev.addr := by
  rw [HIDInterface.holds, Bool.and_eq_true, beq_iff_eq, beq_iff_eq, eq_comm]

/-- The loop of `hid_previously_matched` over a list without `NULL`. -/
lemma heldBy_eq {hidifs : Ref → HIDInterface} {i : ℤ} : ∀ {entries : List (Option Ref)},
    none ∉ entries → ∃ b, heldBy hidifs dev i entries = .ok b ∧
      (b = true ↔ ∃ r, some r ∈ entries ∧ (hidifs r).holds dev i = true)
  | [], _ => ⟨false, rfl, by simp⟩
  | none :: _, h => absurd List.mem_cons_self h
  | some r :: rest, h => by
      by_cases hr : (hidifs r).holds dev i = true
      · exact ⟨true, if_pos hr, iff_of_true rfl ⟨r, List.mem_cons_self, hr⟩⟩
      · obtain ⟨b, hb, hiff⟩ := heldBy_eq fun hn => h (List.mem_cons_of_mem _ hn)
        refine ⟨b, (if_neg hr).trans hb, hiff.trans ?_⟩
        constructor
        · rintro ⟨r', hr', hh⟩
          exact ⟨r', List.mem_cons_of_mem _ hr', hh⟩
        · rintro ⟨r', hr', hh⟩
          rcases List.mem_cons.mp hr' with heq | hr'
          · cases heq
            exact absurd hh hr
          · exact ⟨r', hr', hh⟩

lemma held_eq (hlist : none ∉ w.openHidDeviceList.entries) (dev : UsbDevice) (i : ℤ) :
    ∃ b, w.held dev i = .ok b ∧ (b = true ↔ w.HeldInList dev i) := by
  obtain ⟨b, hb, hiff⟩ := @heldBy_eq dev w.hidifs i _ hlist
  exact ⟨b, hb, hiff.trans (by simp only [holds_iff, World.HeldInList])⟩

/-- An inspection comes to an end. -/
lemma inspectDevice_total (hlist : none ∉ w.openHidDeviceList.entries) (env : Env) (ref : Ref)
    (m : HIDInterfaceMatcher) (bus : UsbBus) (dev : UsbDevice) :
    ∃ o u, inspectDevice env ref m bus dev w = .ok (o, u) := by
  simp only [inspectDevice, deref_bind, assign_bind, usbOpen, callOut_bind, World.write_log]
  by_cases ho : env.usbOpen w.log.length = true
  · simp only [ho, if_true, usbClaimInterface, callOut_bind]
    obtain ⟨b, hb, -⟩ := held_eq (w := w.afterOpen ref bus dev) hlist
      (env.usbDevice ⟨w.log.length, dev⟩) (w.hidifs ref).interface
    have hmatched : hidPreviouslyMatched env ⟨w.log.length, dev⟩ (w.hidifs ref).interface
        (w.afterOpen ref bus dev) = .ok (b, w.afterOpen ref bus dev) := by
      rw [hidPreviouslyMatched]
      exact congrArg (fun x => x.map (·, w.afterOpen ref bus dev)) hb
    change ∃ o u, (hidPreviouslyMatched env ⟨w.log.length, dev⟩ (w.hidifs ref).interface >>= _)
      (w.afterOpen ref bus dev) = .ok (o, u)
    rw [state_bind_eq hmatched]
    cases b with
    | true => exact ⟨_, _, rfl⟩
    | false =>
        rw [if_neg (by simp), state_bind_eq (hidCompareUsbDevice_run _ m _)]
        split_ifs
        · exact ⟨_, _, rfl⟩
        · exact ⟨_, _, rfl⟩
  · simp only [ho, Bool.false_eq_true, if_false]
    exact ⟨_, _, rfl⟩

/-- A search comes to an end. -/
lemma hidFindUsbDevice_total (hlist : none ∉ w.openHidDeviceList.entries) (env : Env) (ref : Ref)
    (m : HIDInterfaceMatcher) : ∃ ret u, hidFindUsbDevice env ref m w = .ok (ret, u) := by
  have hbus : ∀ (bus : UsbBus) (devs : List UsbDevice) (v : World), Searching ref w v →
      ∃ o u, findOnBus env ref m bus devs v = .ok (o, u) ∧ (o = none → Searching ref w u) := by
    intro bus devs
    induction devs with
    | nil => exact fun v hv => ⟨none, v, rfl, fun _ => hv⟩
    | cons dev rest ih =>
        intro v hv
        obtain ⟨o, u, hi⟩ := inspectDevice_total (hv.list ▸ hlist) env ref m bus dev
        rw [findOnBus, state_bind_eq hi]
        cases o with
        | some r => exact ⟨some r, u, rfl, fun h => by cases h⟩
        | none => exact ih u (hv.trans (inspectDevice_ok hi).searching)
  have hbusses : ∀ (busses : List UsbBus) (v : World), Searching ref w v →
      ∃ ret u, findOnBusses env ref m busses v = .ok (ret, u) := by
    intro busses
    induction busses with
    | nil => exact fun v _ => ⟨.deviceNotFound, v, rfl⟩
    | cons bus rest ih =>
        intro v hv
        obtain ⟨o, u, hb, hu⟩ := hbus bus bus.devices v hv
        rw [findOnBusses, state_bind_eq hb]
        cases o with
        | some r => exact ⟨r, u, rfl⟩
        | none => exact ih u (hu rfl)
  exact hbusses _ w (.refl ref w)

/-- What the state `v` of a search that began in `w` has of the devices left, when every device can
be opened: none of those before suits. -/
structure Passing (env : Env) (ref : Ref) (m : HIDInterfaceMatcher) (w : World)
    (rest : List (UsbBus × UsbDevice)) (v : World) : Prop where
  searching : Searching ref w v
  before : ∃ pre, inOrder (env.usbGetBusses w.log.length) = pre ++ rest ∧
    ∀ x ∈ pre, ¬ Suits env m w (w.hidifs ref).interface x.2

lemma Passing.refl (env : Env) (ref : Ref) (m : HIDInterfaceMatcher) (w : World) :
    Passing env ref m w (inOrder (env.usbGetBusses w.log.length)) w :=
  ⟨.refl ref w, [], rfl, fun _ hx => absurd hx List.not_mem_nil⟩

section Inspection

variable {rest : List (UsbBus × UsbDevice)}

lemma Passing.skip (h : Passing env ref m w ((bus, dev) :: rest) v) (hu : Searching ref w u)
    (hnot : ¬ Suits env m w (w.hidifs ref).interface dev) : Passing env ref m w rest u := by
  obtain ⟨pre, heq, hpre⟩ := h.before
  refine ⟨hu, pre ++ [(bus, dev)], by rw [heq, List.append_assoc]; rfl, fun x hx => ?_⟩
  rcases List.mem_append.mp hx with hx | hx
  · exact hpre x hx
  · rw [List.mem_singleton.mp hx]
    exact hnot

/-- Whether the device inspected is held is what the list of `w` says. -/
lemma Passing.held (h : Passing env ref m w ((bus, dev) :: rest) v)
    (hlist : none ∉ w.openHidDeviceList.entries) {b : Bool} {d : UsbDevice}
    (hh : (v.afterOpen ref bus dev).held d (v.hidifs ref).interface = .ok b) :
    b = true ↔ w.HeldInList d (w.hidifs ref).interface := by
  rw [(Searching.afterOpen ref v bus dev).held, h.searching.held, h.searching.interface] at hh
  obtain ⟨b', hb', hiff⟩ := held_eq hlist d (w.hidifs ref).interface
  rw [hh] at hb'
  cases hb'
  exact hiff

/-- **A device is gone past only if it does not suit.** -/
lemma Passing.step (hdev : ∀ h, env.usbDevice h = h.dev) (hm : m.Deterministic)
    (hlist : none ∉ w.openHidDeviceList.entries) (h : Passing env ref m w ((bus, dev) :: rest) v)
    (hi : Inspected env ref m bus dev v none u) : Passing env ref m w rest u := by
  refine h.skip (h.searching.trans hi.searching) fun hs => ?_
  cases hi with
  | skipped _ hh =>
      rw [hdev] at hh
      exact hs.free ((h.held hlist hh).mp rfl)
  | passed _ _ hflags _ => exact hflags ((passes_iff hdev hm ⟨_, dev⟩ _).mp hs.passes)

/-- After the comparison the interface has the `id` of the device inspected. -/
lemma compared_ref (v : World) (ref : Ref) (m : HIDInterfaceMatcher) (bus : UsbBus)
    (dev : UsbDevice) : (v.compared ref m bus dev).hidifs ref =
      (v.hidifs ref).withId (deviceId bus dev (v.hidifs ref).interface) := by
  have hsame : (v.compared ref m bus dev).hidifs = (v.afterOpen ref bus dev).hidifs := by
    unfold World.compared World.afterCustom
    cases m.matcherFn <;> rfl
  rw [hsame]
  exact World.write_same ..

/-- **A device is stored only if it suits.** -/
lemma Passing.found (hdev : ∀ h, env.usbDevice h = h.dev) (hm : m.Deterministic)
    (hopen : ∀ t, env.usbOpen t = true) (hlist : none ∉ w.openHidDeviceList.entries)
    (h : Passing env ref m w ((bus, dev) :: rest) v)
    (hi : Inspected env ref m bus dev v (some ret) u) :
    ret = .success ∧ TakesFirst env ref m w u := by
  cases hi with
  | failed hf =>
      rw [hopen] at hf
      cases hf
  | @found x ho hh hflags hx =>
      refine ⟨rfl, ?_⟩
      obtain ⟨pre, heq, hpre⟩ := h.before
      have hsuits : Suits env m w (w.hidifs ref).interface dev := by
        rw [hdev] at hh
        refine ⟨(passes_iff hdev hm ⟨_, dev⟩ _).mpr hflags, fun hheld => ?_⟩
        cases (h.held hlist hh).mpr hheld
      change x = v.compared ref m bus dev at hx
      have hinterface := h.searching.interface
      subst hx
      refine ⟨?_, pre, bus, dev, rest, heq, hpre, hsuits, ⟨⟨v.log.length, dev⟩, ?_, hdev _⟩, ?_, ?_⟩
      · rw [World.write_same, compared_ref]
        exact hinterface
      · rw [World.write_same]
      · rw [World.write_same, hdev]
      · rw [World.write_same, compared_ref]
        rfl

end Inspection

/-- **The search finds a device if and only if one suits, and stores the first one.** -/
theorem findsFirstSuiting (hdev : ∀ h, env.usbDevice h = h.dev)
    (hopen : ∀ t, env.usbOpen t = true) (hm : m.Deterministic)
    (hlist : none ∉ w.openHidDeviceList.entries) (ref : Ref) :
    ∃ ret u, hidFindUsbDevice env ref m w = .ok (ret, u) ∧
      (ret = .success ↔ ∃ x ∈ inOrder (env.usbGetBusses w.log.length),
        Suits env m w (w.hidifs ref).interface x.2) ∧
      (ret = .success → TakesFirst env ref m w u) ∧ (ret ≠ .success → ret = .deviceNotFound) := by
  obtain ⟨ret, u, hrun⟩ := hidFindUsbDevice_total hlist env ref m
  refine ⟨ret, u, hrun, ?_⟩
  have hends : (ret = .success ∧ TakesFirst env ref m w u) ∨ (ret = .deviceNotFound ∧
      ∀ x ∈ inOrder (env.usbGetBusses w.log.length),
        ¬ Suits env m w (w.hidifs ref).interface x.2) := by
    refine find_rule (I := Passing env ref m w) (J := fun r v =>
      (r = .success ∧ TakesFirst env ref m w v) ∨ (r = .deviceNotFound ∧
        ∀ x ∈ inOrder (env.usbGetBusses w.log.length),
          ¬ Suits env m w (w.hidifs ref).interface x.2)) ?_ ?_ ?_ (.refl env ref m w) hrun
    · intro bus dev rest v v' hv hi
      exact hv.step hdev hm hlist hi
    · intro bus dev rest v v' r hv hi
      exact .inl (hv.found hdev hm hopen hlist hi)
    · intro v hv
      obtain ⟨pre, heq, hpre⟩ := hv.before
      rw [List.append_nil] at heq
      exact .inr ⟨rfl, heq ▸ hpre⟩
  rcases hends with ⟨rfl, hfirst⟩ | ⟨rfl, hnone⟩
  · obtain ⟨pre, bus, dev, post, heq, -, hsuits, -⟩ := hfirst.first
    refine ⟨iff_of_true rfl ⟨(bus, dev), ?_, hsuits⟩, fun _ => hfirst, fun h => absurd rfl h⟩
    rw [heq]
    exact List.mem_append_right _ List.mem_cons_self
  · refine ⟨iff_of_false (by simp) ?_, fun h => absurd h (by simp), fun _ => rfl⟩
    rintro ⟨x, hx, hsuits⟩
    exact hnone x hx hsuits

end Suiting

/-- `findsFirstSuiting` for two devices, of which the custom function takes the second. -/
theorem findsFirstSuiting_bench :
    let env := bench [benchDevice 4, benchDevice 5]
    let m := { benchMatcher with matcherFn := some fun _ h => h.dev.addr == 5 }
    ∃ ret u, hidFindUsbDevice env 0 m benchStart = .ok (ret, u) ∧
      (ret = .success → TakesFirst env 0 m benchStart u) ∧
      (ret ≠ .success → ret = .deviceNotFound) := by
  intro env m
  have hm : m.Deterministic := by
    intro fn hfn t t' h h' hh
    cases hfn
    show (h.dev.addr == 5) = (h'.dev.addr == 5)
    rw [hh]
  obtain ⟨ret, u, hrun, -, hends⟩ :=
    @findsFirstSuiting env m benchStart (fun _ => rfl) (fun _ => rfl) hm (by decide) 0
  exact ⟨ret, u, hrun, hends⟩

end Libhid
