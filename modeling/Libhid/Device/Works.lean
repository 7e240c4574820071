import Libhid.Framework.Ledger
import Libhid.Device.Opening

/-!
# Steps that work on one interface

Between the search for a device and the end of an open, the steps claim the interface, read
descriptors and fill the two blocks.  All of them but `hid_init_parser` have one description,
`Works`: the calls they make go through the handle of the interface, and of the interfaces only
the contents of its blocks change.  `hid_init_parser` allocates the blocks (`Mallocs`), and
`hid_close` frees them (`hidClose_log`).
-/

namespace Libhid

open Framework

/-! ## The blocks of an interface -/

/-- The two blocks of an interface. -/
inductive Part
  | data
  | parser
  deriving DecidableEq, Repr

/-- The address of a block of an interface. -/
def HIDInterface.block (hidif : HIDInterface) : Part → Option ℕ
  | .data => hidif.hidData.map Block.addr
  | .parser => hidif.hidParser.map Block.addr

/-- The addresses of the blocks of all interfaces. -/
def World.block (w : World) (slot : Ref × Part) : Option ℕ := (w.hidifs slot.1).block slot.2

lemma write_block (w : World) (ref : Ref) (hidif : HIDInterface) (slot : Ref × Part) :
    (w.write ref hidif).block slot =
      if slot.1 = ref then hidif.block slot.2 else w.block slot := by
  unfold World.block
  split_ifs with h
  · rw [h, World.write_same]
  · rw [World.write_other _ _ _ h]

/-! ## Calls through a handle -/

/-- The calls that use the handle `dev`. -/
def Event.Through (dev : Option UsbHandle) : Event → Prop
  | .usbClaimInterface d _ => d = dev
  | .usbDetachKernelDriver d _ => d = dev
  | .usbControlMsg msg _ => msg.dev = dev
  | _ => False

/-- Between `w` and `u` only calls with the property `P` were made. -/
def Logs (P : Event → Prop) (w u : World) : Prop := ∃ es, u.log = es ++ w.log ∧ ∀ e ∈ es, P e

namespace Logs

variable {P : Event → Prop} {w u v : World}

lemma of_eq (P : Event → Prop) (h : u.log = w.log) : Logs P w u :=
  ⟨[], h, fun _ he => absurd he List.not_mem_nil⟩

lemma of_cons {e : Event} (h : u.log = e :: w.log) (he : P e) : Logs P w u :=
  ⟨[e], h, by simpa using he⟩

lemma trans (h : Logs P w u) (h' : Logs P u v) : Logs P w v := by
  obtain ⟨es, hes, hn⟩ := h
  obtain ⟨es', hes', hn'⟩ := h'
  refine ⟨es' ++ es, by rw [hes', hes, List.append_assoc], fun e he => ?_⟩
  rcases List.mem_append.mp he with he | he
  · exact hn' e he
  · exact hn e he

lemma mono {Q : Event → Prop} (h : Logs P w u) (hPQ : ∀ e, P e → Q e) : Logs Q w u := by
  obtain ⟨es, hes, hn⟩ := h
  exact ⟨es, hes, fun e he => hPQ e (hn e he)⟩

lemma and {Q : Event → Prop} (h : Logs P w u) (h' : Logs Q w u) :
    Logs (fun e => P e ∧ Q e) w u := by
  obtain ⟨es, hes, hn⟩ := h
  obtain ⟨es', hes', hn'⟩ := h'
  obtain rfl : es = es' := List.append_cancel_right (hes.symm.trans hes')
  exact ⟨es, hes, fun e he => ⟨hn e he, hn' e he⟩⟩

/-- What holds of every call so far and of every new one. -/
lemma forall_mem (h : Logs P w u) (hw : ∀ e ∈ w.log, P e) : ∀ e ∈ u.log, P e := by
  obtain ⟨es, hes, hn⟩ := h
  rw [hes]
  exact fun e he => (List.mem_append.mp he).elim (hn e) (hw e)

end Logs

/-- From `w` to `u` the steps of an operation on `ref` made calls with the property `P`, and of
the interfaces changed only the contents of the blocks of this one. -/
structure Works (P : Event → Prop) (ref : Ref) (w u : World) : Prop where
  initialised : u.initialised = w.initialised
  list : u.openHidDeviceList = w.openHidDeviceList
  others : ∀ r, r ≠ ref → u.hidifs r = w.hidifs r
  devHandle : (u.hidifs ref).devHandle = (w.hidifs ref).devHandle
  device : (u.hidifs ref).device = (w.hidifs ref).device
  interface : (u.hidifs ref).interface = (w.hidifs ref).interface
  block : u.block = w.block
  log : Logs P w u

namespace Works

variable {P : Event → Prop} {ref : Ref} {w u v : World}

lemma refl (P : Event → Prop) (ref : Ref) (w : World) : Works P ref w w :=
  ⟨rfl, rfl, fun _ _ => rfl, rfl, rfl, rfl, rfl, .of_eq P rfl⟩

lemma trans (h : Works P ref w u) (h' : Works P ref u v) : Works P ref w v :=
  ⟨h'.initialised.trans h.initialised, h'.list.trans h.list,
    fun r hr => (h'.others r hr).trans (h.others r hr), h'.devHandle.trans h.devHandle,
    h'.device.trans h.device, h'.interface.trans h.interface, h'.block.trans h.block,
    h.log.trans h'.log⟩

lemma write {hidif : HIDInterface} (h₁ : hidif.devHandle = (w.hidifs ref).devHandle)
    (h₂ : hidif.device = (w.hidifs ref).device)
    (h₃ : hidif.interface = (w.hidifs ref).interface)
    (h₄ : hidif.block = (w.hidifs ref).block) : Works P ref w (w.write ref hidif) := by
  refine ⟨rfl, rfl, fun _ hr => World.write_other _ _ _ hr, by simpa using h₁, by simpa using h₂,
    by simpa using h₃, ?_, .of_eq P rfl⟩
  funext slot
  rw [write_block]
  split_ifs with hslot
  · rw [h₄, World.block, hslot]
  · rfl

lemma record {e : Event} (he : P e) : Works P ref w (w.record e) :=
  ⟨rfl, rfl, fun _ _ => rfl, rfl, rfl, rfl, rfl, .of_cons rfl he⟩

/-- The blocks an interface has, it keeps. -/
lemma isSome (h : Works P ref w u) :
    ((u.hidifs ref).hidData.isSome = (w.hidifs ref).hidData.isSome) ∧
      ((u.hidifs ref).hidParser.isSome = (w.hidifs ref).hidParser.isSome) := by
  have hd := congrArg Option.isSome (congrFun h.block (ref, .data))
  have hp := congrArg Option.isSome (congrFun h.block (ref, .parser))
  simp only [World.block, HIDInterface.block, Option.isSome_map] at hd hp
  exact ⟨hd, hp⟩

end Works

section Steps

variable {env : Env} {ref : Ref} {w u : World} {ret : HidReturn} {P : Event → Prop}

/-! ## Pointers and outcomes -/

lemma lift_ok {α : Type} {x : Except Stop α} {a : α} (h : lift x w = .ok (a, u)) :
    x = .ok a ∧ w = u := by
  cases x with
  | error e => cases h
  | ok b =>
      cases h
      exact ⟨rfl, rfl⟩

lemma nonNull_ok {α : Type} {x : Option α} {a : α} (h : nonNull x w = .ok (a, u)) :
    x = some a ∧ w = u := by
  cases x with
  | none => cases h
  | some b =>
      cases h
      exact ⟨rfl, rfl⟩

/-! ## Preparing -/

/-- The parser of an interface with other contents. -/
lemma Works.storeParser {p : Block HIDParser} (hp : (w.hidifs ref).hidParser = some p)
    (parser : HIDParser) : Works P ref w (w.write ref { w.hidifs ref with
      hidParser := some { p with val := parser } }) := by
  refine .write rfl rfl rfl ?_
  funext part
  cases part with
  | data => rfl
  | parser => simp [HIDInterface.block, hp]

lemma hidResetParser_works {x : Unit} (h : hidResetParser ref w = .ok (x, u)) :
    Works P ref w u ∧ u.log = w.log := by
  simp only [hidResetParser, deref_bind] at h
  split_ifs at h
  · cases h
    exact ⟨.refl P ref w, rfl⟩
  · obtain ⟨p, w₁, hp, h⟩ := state_bind_ok.mp h
    obtain ⟨hsome, rfl⟩ := nonNull_ok hp
    cases h
    exact ⟨.storeParser hsome _, rfl⟩

lemma hidPrepareHidDescriptor_works (h : hidPrepareHidDescriptor env ref w = .ok (ret, u)) :
    Works (Event.Through (w.hidifs ref).devHandle) ref w u := by
  simp only [hidPrepareHidDescriptor, deref_bind, usbControlMsg, callOut_bind] at h
  have hw : Works (Event.Through (w.hidifs ref).devHandle) ref w (w.record (.usbControlMsg
      (descriptorRequest (w.hidifs ref) usbDtHid 9) (env.usbControlMsg w.log.length).1)) :=
    .record rfl
  split_ifs at h
  · cases h
    exact hw
  · cases h
    exact hw
  · obtain ⟨p, w₁, hp, h⟩ := state_bind_ok.mp h
    obtain ⟨hsome, rfl⟩ := nonNull_ok hp
    cases h
    exact hw.trans (.storeParser (w := w.record _) hsome _)

lemma hidPrepareReportDescriptor_works (h : hidPrepareReportDescriptor env ref w = .ok (ret, u)) :
    Works (Event.Through (w.hidifs ref).devHandle) ref w u := by
  simp only [hidPrepareReportDescriptor, deref_bind] at h
  obtain ⟨p, w₁, hp, h⟩ := state_bind_ok.mp h
  obtain ⟨hsome, rfl⟩ := nonNull_ok hp
  split_ifs at h
  · cases h
    exact .refl _ ref w
  · simp only [usbControlMsg, callOut_bind, assign_bind] at h
    have hw : Works (Event.Through (w.hidifs ref).devHandle) ref w (w.record (.usbControlMsg
        (descriptorRequest (w.hidifs ref) usbDtReport p.val.reportDescSize.toNat)
        (env.usbControlMsg w.log.length).1)) := .record rfl
    split_ifs at h <;> cases h <;> exact hw.trans (.storeParser (w := w.record _) hsome _)

lemma storeObject_works {hidif : HIDInterface} {o : Option HIDData} {x : Unit}
    (hw : Works P ref w (w.write ref hidif)) (h : storeObject ref hidif o w = .ok (x, u)) :
    Works P ref w u := by
  cases o with
  | none =>
      cases h
      exact hw
  | some object =>
      obtain ⟨d, w₁, hd, ha⟩ := state_bind_ok.mp h
      obtain ⟨hsome, rfl⟩ := nonNull_ok hd
      cases ha
      have hv : Works P ref (w.write ref hidif) ((w.write ref hidif).write ref
          { hidif with hidData := some { d with val := object } }) := by
        refine .write (by simp) (by simp) (by simp) ?_
        rw [World.write_same]
        funext part
        cases part with
        | data => simp [HIDInterface.block, hsome]
        | parser => rfl
      rw [World.write_write] at hv
      exact hw.trans hv

lemma hidPrepareParser_works (h : hidPrepareParser env ref w = .ok (ret, u)) : Works P ref w u := by
  simp only [hidPrepareParser, deref_bind] at h
  split_ifs at h
  · cases h
    exact .refl P ref w
  · obtain ⟨_, w₁, hr, h⟩ := state_bind_ok.mp h
    have hw₁ : Works P ref w w₁ := (hidResetParser_works hr).1
    rw [deref_bind] at h
    obtain ⟨p, w₂, hp, h⟩ := state_bind_ok.mp h
    obtain ⟨hsome, rfl⟩ := nonNull_ok hp
    obtain ⟨⟨parser, object⟩, w₃, hl, h⟩ := state_bind_ok.mp h
    obtain ⟨-, rfl⟩ := lift_ok hl
    obtain ⟨_, w₄, hs, h⟩ := state_bind_ok.mp h
    cases h
    exact hw₁.trans (storeObject_works (.storeParser hsome parser) hs)

/-! ## Claiming -/

lemma forceClaimLoop_works {i : ℤ} {k : ℕ} {dev : Option UsbHandle}
    (h : forceClaimLoop env dev i k w = .ok (ret, u)) : Works (Event.Through dev) ref w u := by
  induction k generalizing w with
  | zero =>
      cases h
      exact .record rfl
  | succ k ih =>
      simp only [forceClaimLoop, usbClaimInterface, callOut_bind] at h
      have hw : Works (Event.Through dev) ref w (w.record (.usbClaimInterface dev i)) :=
        .record rfl
      split_ifs at h
      · cases h
        exact hw
      · simp only [usbDetachKernelDriver, callOut_bind] at h
        have hw' := hw.trans (.record (e := .usbDetachKernelDriver dev i) rfl)
        split_ifs at h
        · cases h
          exact hw'
        · exact hw'.trans (ih h)

lemma hidOsForceClaim_works {i : ℤ} {retries : UInt16}
    (h : hidOsForceClaim env ref i retries w = .ok (ret, u)) :
    Works (Event.Through (w.hidifs ref).devHandle) ref w u := by
  simp only [hidOsForceClaim, deref_bind] at h
  split_ifs at h
  · cases h
    exact .refl _ ref w
  · cases hos : env.os <;> simp only [hos] at h
    · exact forceClaimLoop_works h
    · cases h
      exact .record rfl
    · cases h
      exact .record rfl

lemma claimOnce_works {i : ℤ} (h : claimOnce env ref i w = .ok (ret, u)) :
    Works (Event.Through (w.hidifs ref).devHandle) ref w u := by
  cases h
  exact .record rfl

/-! ## Allocating -/

/-- A block was asked for, and stored in its place in the interface. -/
structure Mallocs (ref : Ref) (part : Part) (w u : World) : Prop where
  initialised : u.initialised = w.initialised
  list : u.openHidDeviceList = w.openHidDeviceList
  others : ∀ r, r ≠ ref → u.hidifs r = w.hidifs r
  devHandle : (u.hidifs ref).devHandle = (w.hidifs ref).devHandle
  device : (u.hidifs ref).device = (w.hidifs ref).device
  interface : (u.hidifs ref).interface = (w.hidifs ref).interface
  block : ∃ b, u.block = Function.update w.block (ref, part) b ∧ u.log = .malloc b :: w.log ∧
    ∀ a, b = some a → a = w.log.length

lemma Mallocs.write {part : Part} {b : Option ℕ} {hidif : HIDInterface}
    (h₁ : hidif.devHandle = (w.hidifs ref).devHandle)
    (h₂ : hidif.device = (w.hidifs ref).device)
    (h₃ : hidif.interface = (w.hidifs ref).interface)
    (h₄ : hidif.block = Function.update (w.hidifs ref).block part b)
    (hb : ∀ a, b = some a → a = w.log.length) :
    Mallocs ref part w ((w.record (.malloc b)).write ref hidif) := by
  refine ⟨rfl, rfl, fun _ hr => World.write_other _ _ _ hr, by simpa using h₁, by simpa using h₂,
    by simpa using h₃, b, ?_, rfl, hb⟩
  funext slot
  obtain ⟨r, part'⟩ := slot
  rw [write_block, h₄, Function.update_apply, Function.update_apply]
  by_cases hr : r = ref
  · subst hr
    simp [World.block]
  · simp [hr, World.block]

lemma malloc_ok {α : Type} {fresh : ℕ → α} {b : Option (Block α)}
    (h : malloc env fresh w = .ok (b, u)) :
    u = w.record (.malloc (b.map Block.addr)) ∧
      ∀ a, b.map Block.addr = some a → a = w.log.length := by
  cases h
  refine ⟨rfl, fun a ha => ?_⟩
  dsimp only at ha
  split_ifs at ha
  · exact (Option.some.inj ha).symm
  · cases ha

/-- `hid_init_parser` allocates one block after the other, and stops at the first failure. -/
lemma hidInitParser_mallocs (hopen : (w.hidifs ref).isOpened = true)
    (h : hidInitParser env ref w = .ok (ret, u)) :
    ∃ v, Mallocs ref .data w v ∧
      ((ret ≠ .success ∧ u = v) ∨ (Mallocs ref .parser v u ∧ (v.hidifs ref).hidData.isSome ∧
        (ret = .success → (u.hidifs ref).hidData.isSome ∧ (u.hidifs ref).hidParser.isSome))) := by
  simp only [hidInitParser, deref_bind, hopen, Bool.not_true, Bool.false_eq_true, if_false] at h
  obtain ⟨hidData, w₁, hm, h⟩ := state_bind_ok.mp h
  obtain ⟨rfl, hfresh⟩ := malloc_ok hm
  rw [assign_bind] at h
  have hv : Mallocs ref .data w ((w.record (.malloc (hidData.map Block.addr))).write ref
      { w.hidifs ref with hidData := hidData }) := by
    refine .write rfl rfl rfl ?_ hfresh
    funext part
    cases part <;> rfl
  refine ⟨_, hv, ?_⟩
  split_ifs at h with hdata
  · cases h
    exact .inl ⟨by simp, rfl⟩
  · right
    have hdata' : hidData.isSome = true := by simpa [Option.isSome_iff_ne_none] using hdata
    obtain ⟨hidParser, w₂, hm', h⟩ := state_bind_ok.mp h
    obtain ⟨rfl, hfresh'⟩ := malloc_ok hm'
    rw [assign_bind] at h
    have hu : Mallocs ref .parser ((w.record (.malloc (hidData.map Block.addr))).write ref
        { w.hidifs ref with hidData := hidData })
        ((((w.record (.malloc (hidData.map Block.addr))).write ref
          { w.hidifs ref with hidData := hidData }).record
            (.malloc (hidParser.map Block.addr))).write ref
          { w.hidifs ref with hidData := hidData, hidParser := hidParser }) := by
      refine .write (by simp) (by simp) (by simp) ?_ hfresh'
      rw [World.write_same]
      funext part
      cases part <;> rfl
    split_ifs at h with hparser
    · cases h
      exact ⟨hu, by simpa using hdata', fun h => absurd h (by simp)⟩
    · cases h
      have hparser' : hidParser.isSome = true := by
        simpa [Option.isSome_iff_ne_none] using hparser
      exact ⟨hu, by simpa using hdata', fun _ => by simp [hdata', hparser']⟩

/-! ## Closing -/

/-- The call that closes a handle, if there is one. -/
def closeEvents : Option UsbHandle → List Event
  | none => []
  | some h => [.usbClose h]

/-- The call that frees a block, if there is one. -/
def freeEvents : Option ℕ → List Event
  | none => []
  | some a => [.free a]

/-- What `hid_reset_HIDInterface` makes of every interface. -/
def closedInterface : HIDInterface := ⟨none, none, -1, "", none, none⟩

@[simp] lemma hidResetHIDInterface_eq (hidif : HIDInterface) :
    hidResetHIDInterface hidif = closedInterface := rfl

@[simp] lemma closedInterface_devHandle : closedInterface.devHandle = none := rfl
@[simp] lemma closedInterface_hidData : closedInterface.hidData = none := rfl
@[simp] lemma closedInterface_hidParser : closedInterface.hidParser = none := rfl

lemma closeHandle_ok {h : Option UsbHandle} {x : ℤ} (hc : closeHandle env h w = .ok (x, u)) :
    u = { w with log := closeEvents h ++ w.log } := by
  cases h <;> cases hc <;> rfl

lemma removeOpenDevice_ok {x : Unit} (h : removeOpenDevice ref w = .ok (x, u)) :
    ∃ l, w.openHidDeviceList.removeOpenDevice ref = .ok l ∧
      u = { w with openHidDeviceList := l } := by
  simp only [removeOpenDevice, except_map_ok, Prod.mk.injEq] at h
  obtain ⟨l, hl, -, rfl⟩ := h
  exact ⟨l, hl, rfl⟩

lemma resetIfParser_works {hidif : HIDInterface} {x : Unit}
    (h : resetIfParser ref hidif w = .ok (x, u)) : Works P ref w u ∧ u.log = w.log := by
  unfold resetIfParser at h
  split_ifs at h
  · exact hidResetParser_works h
  · cases h
    exact ⟨.refl P ref w, rfl⟩

lemma free_ok {α : Type} {b : Option (Block α)} {x : Unit} (h : free b w = .ok (x, u)) :
    u = { w with log := freeEvents (b.map Block.addr) ++ w.log } := by
  cases b <;> cases h <;> rfl

/-- The calls `hid_close` makes, the latest first: whatever `usb_close` returns, the blocks of the
interface are freed. -/
def closingEvents (hidif : HIDInterface) : List Event :=
  freeEvents (hidif.block .data) ++ (freeEvents (hidif.block .parser) ++
    closeEvents hidif.devHandle)

/-- **What `hid_close` does.** -/
lemma hidClose_steps (h : hidClose env ref w = .ok (ret, u)) :
    u.initialised = w.initialised ∧
    w.openHidDeviceList.removeOpenDevice ref = .ok u.openHidDeviceList ∧
    u.hidifs = Function.update w.hidifs ref closedInterface ∧
    u.log = closingEvents (w.hidifs ref) ++ w.log := by
  simp only [hidClose, deref_bind] at h
  obtain ⟨x, w₁, hc, h⟩ := state_bind_ok.mp h
  have hw₁ := closeHandle_ok hc
  obtain ⟨_, w₂, hr, h⟩ := state_bind_ok.mp h
  obtain ⟨l, hl, hw₂⟩ := removeOpenDevice_ok hr
  obtain ⟨_, w₃, hp, h⟩ := state_bind_ok.mp h
  obtain ⟨hw₃, hlog⟩ : Works (fun _ => True) ref w₂ w₃ ∧ w₃.log = w₂.log := resetIfParser_works hp
  rw [deref_bind] at h
  obtain ⟨_, w₄, hf, h⟩ := state_bind_ok.mp h
  obtain rfl := free_ok hf
  obtain ⟨_, w₅, hf', h⟩ := state_bind_ok.mp h
  obtain rfl := free_ok hf'
  simp only [hidResetHIDInterface_eq, assign_bind, pure_run, Except.ok.injEq, Prod.mk.injEq] at h
  obtain ⟨-, rfl⟩ := h
  subst hw₂ hw₁
  have hblock := hw₃.block
  refine ⟨hw₃.initialised, ?_, ?_, ?_⟩
  · rw [World.write_list, hw₃.list]
    exact hl
  · funext r
    by_cases hr' : r = ref
    · subst hr'
      simp
    · rw [World.write_other _ _ _ hr', hw₃.others r hr', Function.update_of_ne hr']
  · have hd : (w₃.hidifs ref).block .data = (w.hidifs ref).block .data :=
      congrFun hblock (ref, .data)
    have hp' : (w₃.hidifs ref).block .parser = (w.hidifs ref).block .parser :=
      congrFun hblock (ref, .parser)
    show freeEvents ((w₃.hidifs ref).block .data) ++
      (freeEvents ((w₃.hidifs ref).block .parser) ++ w₃.log) = _
    rw [hd, hp', hlog, closingEvents, List.append_assoc, List.append_assoc]

/-! ## Preparing an interface -/

lemma orClose_cases {step next : Hid HidReturn} (h : orClose env ref step next w = .ok (ret, u)) :
    ∃ r v, step w = .ok (r, v) ∧ ((r = .success ∧ next v = .ok (ret, u)) ∨
      (r ≠ .success ∧ ret = r ∧ ∃ c, hidClose env ref v = .ok (c, u))) := by
  obtain ⟨r, v, hs, h⟩ := state_bind_ok.mp h
  refine ⟨r, v, hs, ?_⟩
  split_ifs at h with hr
  · exact .inl ⟨hr, h⟩
  · obtain ⟨c, v', hc, h⟩ := state_bind_ok.mp h
    cases h
    exact .inr ⟨hr, rfl, c, hc⟩

/-- After the blocks were allocated, the interface is worked on and closed if a step fails. -/
lemma hidPrepareInterface_steps (hopen : (w.hidifs ref).isOpened = true)
    (h : hidPrepareInterface env ref w = .ok (ret, u)) :
    ∃ r v x, hidInitParser env ref w = .ok (r, v) ∧
      Works (Event.Through (v.hidifs ref).devHandle) ref v x ∧
      ((ret = .success ∧ r = .success ∧ u = x) ∨
        (ret ≠ .success ∧ ∃ c, hidClose env ref x = .ok (c, u))) := by
  simp only [hidPrepareInterface, deref_bind, hopen, Bool.not_true, Bool.false_eq_true,
    if_false] at h
  obtain ⟨r₁, v₁, h₁, h⟩ := orClose_cases h
  refine ⟨r₁, v₁, ?_⟩
  rcases h with ⟨rfl, h⟩ | ⟨hr, rfl, hc⟩
  · obtain ⟨r₂, v₂, h₂, h⟩ := orClose_cases h
    have hw₂ := hidPrepareHidDescriptor_works h₂
    rcases h with ⟨rfl, h⟩ | ⟨hr, rfl, hc⟩
    · obtain ⟨r₃, v₃, h₃, h⟩ := orClose_cases h
      have hw₃ := hidPrepareReportDescriptor_works h₃
      rw [hw₂.devHandle] at hw₃
      rcases h with ⟨rfl, h⟩ | ⟨hr, rfl, hc⟩
      · obtain ⟨r₄, v₄, h₄, h⟩ := orClose_cases h
        have hw₄ := (hw₂.trans hw₃).trans (hidPrepareParser_works h₄)
        rcases h with ⟨rfl, h⟩ | ⟨hr, rfl, hc⟩
        · cases h
          exact ⟨_, h₁, hw₄, .inl ⟨rfl, rfl, rfl⟩⟩
        · exact ⟨v₄, h₁, hw₄, .inr ⟨hr, hc⟩⟩
      · exact ⟨v₃, h₁, hw₂.trans hw₃, .inr ⟨hr, hc⟩⟩
    · exact ⟨v₂, h₁, hw₂, .inr ⟨hr, hc⟩⟩
  · exact ⟨v₁, h₁, .refl _ ref v₁, .inr ⟨hr, hc⟩⟩

end Steps

end Libhid
