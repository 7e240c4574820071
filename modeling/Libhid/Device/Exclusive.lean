import Libhid.Device.Matching

/-!
# One interface for each device and interface number

`hid_previously_matched` keeps two interfaces from being open on the same device and interface
number, as long as every open interface is in the list.  The list has room for 20, and
`add_open_device` leaves a full one as it is, which no caller notices: from then on an interface
may be open and not listed.
-/

namespace Libhid

open Framework

/-- Two interfaces are on the same device and interface number. -/
def HIDInterface.Shares (a b : HIDInterface) : Prop :=
  a.device.map UsbDevice.addr = b.device.map UsbDevice.addr ∧ a.interface = b.interface

/-- No two open interfaces are on the same device and interface number. -/
def Exclusive (w : World) : Prop :=
  ∀ r r' : Ref, r ≠ r' → (w.hidifs r).isOpened = true → (w.hidifs r').isOpened = true →
    ¬ (w.hidifs r).Shares (w.hidifs r')

/-- An opening call is made while the list has room, unless it is refused or finds nothing to
take. -/
def HasRoom (env : Env) (call : Call) (w : World) : Prop :=
  match call.opening with
  | none => True
  | some (ref, i, m) => w.initialised = true → (w.hidifs ref).devHandle = none →
      ((w.atInterface ref i).takes env ref m).isSome = true →
      w.openHidDeviceList.nDevices < maxOpenDevices

instance (env : Env) (call : Call) (w : World) : Decidable (HasRoom env call w) :=
  match h : call.opening with
  | none => .isTrue (by rw [HasRoom, h]; trivial)
  | some (ref, i, m) =>
      decidable_of_iff (w.initialised = true → (w.hidifs ref).devHandle = none →
        ((w.atInterface ref i).takes env ref m).isSome = true →
        w.openHidDeviceList.nDevices < maxOpenDevices) (by rw [HasRoom, h])

/-- What the search checks of an entry. -/
lemma holds_of_shares {a b : HIDInterface} {dev : UsbDevice} (hdev : a.device = some dev)
    (h : a.Shares b) : b.holds dev a.interface = true := by
  obtain ⟨haddr, hint⟩ := h
  rw [hdev] at haddr
  simp [HIDInterface.holds, hint, ← haddr]

lemma not_holds_of_heldBy {hidifs : Ref → HIDInterface} {dev : UsbDevice} {i : ℤ} :
    ∀ {rs : List Ref}, heldBy hidifs dev i (rs.map some) = .ok false →
    ∀ r ∈ rs, (hidifs r).holds dev i = false
  | [], _, _, hr => absurd hr List.not_mem_nil
  | r' :: rs, h, r, hr => by
      rw [List.map_cons, heldBy] at h
      split_ifs at h with hheld
      · cases h
      · rcases List.mem_cons.mp hr with rfl | hr
        · simpa using hheld
        · exact not_holds_of_heldBy h r hr

lemma Exclusive.symm_shares {a b : HIDInterface} (h : a.Shares b) : b.Shares a :=
  ⟨h.1.symm, h.2.symm⟩

/-- The invariant while the list has room: it holds exactly the open interfaces. -/
structure AllListed (opened : List Ref) (w : World) : Prop where
  lifecycle : Lifecycle opened w
  listed : w.openHidDeviceList.Holds opened
  exclusive : Exclusive w

namespace AllListed

variable {env : Env} {opened : List Ref} {w u : World} {ref : Ref} {ret : HidReturn}

lemma start (initialised : Bool) (garbage : Ref → HIDInterface) :
    AllListed [] (World.start initialised garbage) :=
  ⟨.start initialised garbage, ⟨rfl, Nat.zero_le _, rfl⟩, fun _ _ _ h => by
    simp [World.start, HIDInterface.isOpened] at h⟩

/-- A step after which fewer interfaces are open keeps exclusiveness. -/
lemma exclusive_of_less (h : Exclusive w)
    (hopen : ∀ r, (u.hidifs r).isOpened = true → u.hidifs r = w.hidifs r) : Exclusive u := by
  intro r r' hne hr hr' hshares
  have hr₁ := hopen r hr
  have hr₂ := hopen r' hr'
  rw [hr₁] at hr hshares
  rw [hr₂] at hr' hshares
  exact h r r' hne hr hr' hshares

lemma exclusive_opens {i : ℤ} {m : HIDInterfaceMatcher} (h : AllListed opened w)
    (hn : (w.hidifs ref).devHandle = none) (ho : Opens env ref i m w u) : Exclusive u := by
  obtain ⟨hd, _, hdev, hdevice, -, hheld⟩ := ho.handle
  have hnot := h.lifecycle.not_mem hn
  unfold World.held at hheld
  rw [show (w.atInterface ref i).openHidDeviceList = w.openHidDeviceList from rfl,
    h.listed.entries] at hheld
  -- no other open interface is on the device and the interface number
  have hfree : ∀ r, r ≠ ref → (u.hidifs r).isOpened = true →
      ¬ (u.hidifs ref).Shares (u.hidifs r) := by
    intro r hr hopen hshares
    rw [ho.others r hr] at hopen hshares
    have hmem : r ∈ opened := (h.lifecycle.isOpen r).mpr hopen
    have hno := not_holds_of_heldBy hheld r hmem
    rw [atInterface_other w i hr] at hno
    have hyes := holds_of_shares hdevice hshares
    rw [ho.interface, hno] at hyes
    cases hyes
  intro r r' hne hr hr'
  by_cases hr₁ : r = ref
  · subst hr₁
    exact hfree r' (Ne.symm hne) hr'
  · by_cases hr₂ : r' = ref
    · subst hr₂
      exact fun hs => hfree r hr₁ hr (Exclusive.symm_shares hs)
    · rw [ho.others r hr₁] at hr ⊢
      rw [ho.others r' hr₂] at hr' ⊢
      exact h.exclusive r r' hne hr hr'

lemma opens {i : ℤ} {m : HIDInterfaceMatcher} (h : AllListed opened w)
    (hroom : w.openHidDeviceList.nDevices < maxOpenDevices)
    (hn : (w.hidifs ref).devHandle = none) (ho : Opens env ref i m w u) :
    AllListed (opened ++ [ref]) u := by
  refine ⟨h.lifecycle.opens hn ho, ?_, h.exclusive_opens hn ho⟩
  rw [ho.list]
  rcases h.listed.add ref with ⟨-, hadd⟩ | ⟨hfull, -⟩
  · exact hadd
  · omega

lemma fails (h : AllListed opened w) (hn : (w.hidifs ref).devHandle = none)
    (hf : FailsToOpen ref w u) : AllListed opened u := by
  have hlife := h.lifecycle.fails hn hf
  refine ⟨hlife, ?_, exclusive_of_less h.exclusive fun r hopen => ?_⟩
  · rcases hf.outcome with ⟨hlist, -⟩ | ⟨hrem, -⟩
    · rw [hlist]
      exact h.listed
    · have hl := h.listed.remove hrem
      rwa [List.erase_of_not_mem (h.lifecycle.not_mem hn)] at hl
  · apply hf.others r
    intro hr
    subst hr
    exact h.lifecycle.not_mem hn ((hlife.isOpen r).mpr hopen)

lemma closes (h : AllListed opened w) (hc : Closed ref w u) :
    AllListed (opened.erase ref) u := by
  refine ⟨h.lifecycle.closes hc, h.listed.remove hc.list,
    exclusive_of_less h.exclusive fun r hopen => ?_⟩
  rw [hc.hidifs, Function.update_apply] at hopen ⊢
  split_ifs at hopen ⊢
  · cases hopen
  · rfl

lemma step {call : Call} (h : AllListed opened w) (hroom : HasRoom env call w)
    (hrun : call.run env w = .ok (ret, u)) : AllListed (openingOrder opened call ret) u := by
  cases run_ok hrun with
  | declined hr hc =>
      rw [openingOrder_declined hr hc]
      exact h
  | @opened _ _ _ ref i m claim hc hinit hn hclaim hopen =>
      rw [openingOrder_opening hc]
      rcases openWith_ok hclaim hopen with ⟨rfl, ho⟩ | ⟨hr, hf⟩
      · obtain ⟨v, hfind, -⟩ := openWith_stored hclaim hopen
        obtain ⟨x, -, htakes, -⟩ := hidFindUsbDevice_takes hfind
        rw [HasRoom, hc] at hroom
        rw [if_pos rfl]
        exact h.opens (hroom hinit hn (Option.isSome_of_eq_some htakes)) hn ho
      · rw [if_neg hr]
        exact h.fails hn hf
  | closed hc => exact h.closes hc

end AllListed

/-- **While every opening call that takes a device finds room in the list, no two interfaces are
ever open on the same device and interface number.** -/
theorem exclusive_of_room {env : Env} {calls : List Call} {initialised : Bool}
    {garbage : Ref → HIDInterface} {rets : List HidReturn} {w : World}
    (hroom : Along (fun call => call.run env) (HasRoom env) calls
      (World.start initialised garbage))
    (h : runCalls env calls (World.start initialised garbage) = .ok (rets, w)) : Exclusive w := by
  unfold runCalls at h
  have hinv : AllListed (history openingOrder [] (calls.zip rets)) w := by
    refine invariant_runAll (I := AllListed) (P := HasRoom env) ?_ (.start initialised garbage)
      hroom h
    intro opened s t call ret hs hr hrun
    exact hs.step hr hrun
  exact hinv.exclusive

/-- `exclusive_of_room` for two interfaces that are opened on one device and interface number: the
second open fails. -/
theorem exclusive_of_room_bench : ∃ rets w,
    runCalls (bench [benchDevice 4]) [benchOpen 0 0, benchOpen 1 0] benchStart = .ok (rets, w) ∧
    rets = [.success, .deviceNotFound] ∧ Exclusive w := by
  have hrun : endsWith (fun rets _ => rets == [.success, .deviceNotFound])
      (runCalls (bench [benchDevice 4]) [benchOpen 0 0, benchOpen 1 0] benchStart) = true := by
    decide +kernel
  obtain ⟨rets, w, h, hp⟩ := exists_of_endsWith hrun
  exact ⟨rets, w, h, by simpa using hp, exclusive_of_room (by decide +kernel) h⟩

/-- Open 20 interfaces with the interface numbers from 0 on, and then two more, both on number
20. -/
def overfull : List Call :=
  (List.range 20).map (fun n => benchOpen n n) ++ [benchOpen 20 20, benchOpen 21 20]

/-- The list of open devices does not keep two interfaces apart in every run. -/
theorem exclusive_fails : ¬ ∀ (env : Env) (calls : List Call) (initialised : Bool)
    (garbage : Ref → HIDInterface) (rets : List HidReturn) (w : World),
    runCalls env calls (World.start initialised garbage) = .ok (rets, w) → Exclusive w := by
  intro hall
  have hrun : endsWith (fun _ w => (w.hidifs 20).isOpened && (w.hidifs 21).isOpened &&
      (w.hidifs 20).device.map UsbDevice.addr == (w.hidifs 21).device.map UsbDevice.addr &&
      (w.hidifs 20).interface == (w.hidifs 21).interface)
      (runCalls (bench [benchDevice 4]) overfull benchStart) = true := by
    decide +kernel
  obtain ⟨rets, w, h, hp⟩ := exists_of_endsWith hrun
  simp only [Bool.and_eq_true, beq_iff_eq] at hp
  obtain ⟨⟨⟨h₂₀, h₂₁⟩, hdev⟩, hint⟩ := hp
  exact hall _ _ _ _ _ _ h 20 21 (by decide) h₂₀ h₂₁ ⟨hdev, hint⟩

end Libhid
