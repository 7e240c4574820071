import Libhid.Device.Contract

/-!
# The Python module (`src/swig/hidwrap.py`)

`hidwrap` raises an exception for every error of the library, and puts every interface into an
`Interface` object, which opens it when it is constructed and closes it when it is collected.  It
keeps its own variable for whether the library is initialised, and cleans up at exit.

The proofs look at the library through its sessions only.  Whatever calls are made in whatever
order, the variable is right, the interfaces that are open are those of the objects alive, and at
exit nothing is raised and the library is cleaned up (`hidwrap_run`).  But `close` leaves `is_open`
set: an object that was closed raises an exception when it is collected (`closed_raises`).
-/

namespace Libhid

open Framework

/-! ## Exceptions -/

/-- `hid_strerror`. -/
def hidStrerror : HidReturn → String
  | .success => "libhid: success"
  | .invalidParameter => "libhid: invalid parameter"
  | .notInitialised => "libhid: not initialized; call hid_init() first"
  | .alreadyInitialised => "libhid: hid_init() already called"
  | .failFindBusses => "libhid: failed to find any USB busses"
  | .failFindDevices => "libhid: failed to find any USB devices"
  | .failOpenDevice => "libhid: failed to open device"
  | .deviceNotFound => "libhid: device not found"
  | .deviceNotOpened => "libhid: device not yet opened"
  | .deviceAlreadyOpened => "libhid: device already opened"
  | .failCloseDevice => "libhid: could not close device"
  | .failClaimIface => "libhid: failed to claim interface; is another driver using it?"
  | .failDetachDriver => "libhid: failed to detach kernel driver"
  | .notHidDevice => "libhid: not recognized as a HID device"
  | .hidDescShort => "libhid: HID interface descriptor too short"
  | .reportDescShort => "libhid: HID report descriptor too short"
  | .reportDescLong => "libhid: HID report descriptor too long"
  | .failAlloc => "libhid: failed to allocate memory"
  | .outOfSpace => "libhid: no space left in buffer"
  | .failSetReport => "libhid: failed to set report"
  | .failGetReport => "libhid: failed to get report"
  | .failIntRead => "libhid: interrupt read failed"
  | .notFound => "libhid: not found"
  | .timeout => "libhid: timeout"

/-- `HIDError`. -/
structure HIDError where
  code : HidReturn
  description : String
  deriving DecidableEq

/-- `_hid_raise`, on what a function of the library returns. -/
def hidRaise (op : String) : LibraryReturn → Except HIDError Unit
  | .status ret =>
      if ret ≠ .success then .error ⟨ret, op ++ ": " ++ hidStrerror ret⟩ else .ok ()
  | .pointer _ | .done => .ok ()

/-! ## The module -/

/-- An `Interface`. -/
structure Interface where
  /-- What `hid_new_HIDInterface` returned. -/
  interface : Option Ref
  isOpen : Bool

/-- The module, with the library behind it. -/
structure Hidwrap where
  library : Library
  /-- `IS_INITIALIZED[0]`. -/
  isInitialized : Bool
  /-- How often `_finalize_hid` is registered to be called at exit. -/
  registered : ℕ
  /-- The objects alive, by the numbers in which they were constructed. -/
  objects : ℕ → Option Interface
  /-- The number of objects constructed. -/
  constructed : ℕ

/-- The functions of the module: an exception leaves the changes made before it. -/
abbrev Wrapped := ExceptT HIDError (StateT Hidwrap (Except Stop))

namespace Hidwrap

/-- When the module is imported. -/
def start (garbage : Ref → HIDInterface) : Hidwrap := ⟨.start garbage, false, 0, fun _ => none, 0⟩

/-- The state of the module. -/
def get : Wrapped Hidwrap := fun s => .ok (.ok s, s)

/-- Change the state of the module. -/
def set (f : Hidwrap → Hidwrap) : Wrapped Unit := fun s => .ok (.ok (), f s)

/-- The object with a number. -/
def object (i : ℕ) : Wrapped Interface := fun s =>
  match s.objects i with
  | none => .error .null
  | some self => .ok (.ok self, s)

section Functions

variable (env : Env)

/-- Call a function of the library, and raise an exception if it returns an error. -/
def attempt (op : String) (call : LibraryCall) : Wrapped Unit := fun s =>
  (call.step env s.library).map fun r => (hidRaise op r.1, { s with library := r.2 })

/-- Call `hid_new_HIDInterface`. -/
def newInterface : Wrapped (Option Ref) := fun s =>
  (LibraryCall.hidNewHIDInterface.step env s.library).map fun r =>
    (.ok (match r.1 with | .pointer hidif => hidif | _ => none), { s with library := r.2 })

/-- `init`, given what the functions of libusb return that search the busses. -/
def init (usbFindBusses usbFindDevices : ℤ) : Wrapped Unit := do
  attempt env "init" (.hidInit usbFindBusses usbFindDevices)
  set fun s => { s with isInitialized := true, registered := s.registered + 1 }

/-- `cleanup`. -/
def cleanup : Wrapped Unit := do
  attempt env "cleanup" .hidCleanup
  set fun s => { s with isInitialized := false }

/-- `_finalize_hid`. -/
def finalizeHid : Wrapped Unit := do
  if (← get).isInitialized then cleanup env else pure ()

/-- The arguments of `Interface`. -/
structure Arguments where
  vendorId : UInt16
  productId : UInt16
  interfaceNumber : ℤ
  force : Bool
  retries : UInt16

/-- The call that opens the interface of an object: without force the interface number is not
used. -/
def Arguments.opens (args : Arguments) (interface : Option Ref) : String × Call :=
  let matcher : HIDInterfaceMatcher := ⟨args.vendorId, args.productId, none⟩
  if args.force then
    ("force_open", .hidForceOpen interface args.interfaceNumber (some matcher) args.retries)
  else ("open", .hidOpen interface 0 (some matcher))

/-- How `Interface.__init__` begins. -/
def initIfNeeded (usbFindBusses usbFindDevices : ℤ) : Wrapped Unit := do
  if (← get).isInitialized then pure () else init env usbFindBusses usbFindDevices

/-- `Interface.__init__`: the number of the object.  If an exception is raised, the object is
collected with `is_open` not set, and `__del__` does nothing. -/
def construct (usbFindBusses usbFindDevices : ℤ) (args : Arguments) : Wrapped ℕ := do
  initIfNeeded env usbFindBusses usbFindDevices
  let interface ← newInterface env
  attempt env (args.opens interface).1 (.onInterface (.lifecycle (args.opens interface).2))
  let number := (← get).constructed
  set fun s => { s with
    objects := Function.update s.objects number (some ⟨interface, true⟩)
    constructed := number + 1 }
  pure number

/-- The pointer in an object; the functions of the library are not called without one. -/
def pointer (self : Interface) : Wrapped Ref := fun s =>
  match self.interface with
  | none => .error .null
  | some ref => .ok (.ok ref, s)

/-- `Interface.close`. -/
def close (self : Interface) : Wrapped Unit := do
  let ref ← pointer self
  attempt env "close" (.onInterface (.lifecycle (.hidClose ref)))

/-- An object is collected: `Interface.__del__` is called, and the object is gone, also if an
exception is raised, which the interpreter reports and ignores. -/
def collect (i : ℕ) : Wrapped Unit := do
  let self ← object i
  set fun s => { s with objects := Function.update s.objects i none }
  if self.isOpen then close env self else pure ()

/-- The other methods of an `Interface`. -/
inductive Method
  | dumpTree (stream : Bool)
  | exchange (call : Exchange) (path : List ℤ)
  | interruptRead (endpoint : UInt32) (bytes : Option (ℕ → UInt8)) (size timeout : UInt32)
  | interruptWrite (endpoint : UInt32) (bytes : Option (ℕ → UInt8)) (size timeout : UInt32)
  | setIdle (duration reportId : UInt32)

/-- The name of a method and the function of the library it calls. -/
def Method.call (ref : Ref) : Method → String × PublicCall
  | .dumpTree stream => ("dump_tree", .hidDumpTree stream ref)
  | .exchange call path =>
      (match call with
        | .getInputReport _ _ => "get_input_report"
        | .setOutputReport _ _ => "set_output_report"
        | .getFeatureReport _ _ => "get_feature_report"
        | .setFeatureReport _ _ => "set_feature_report"
        | .getItemValue _ => "get_item_value", .exchange call ref path)
  | .interruptRead endpoint bytes size timeout =>
      ("interrupt_read", .hidInterruptRead ref endpoint bytes size timeout)
  | .interruptWrite endpoint bytes size timeout =>
      ("interrupt_write", .hidInterruptWrite ref endpoint bytes size timeout)
  | .setIdle duration reportId => ("set_idle", .hidSetIdle ref duration reportId)

/-- A method of an object. -/
def invoke (self : Interface) (method : Method) : Wrapped Unit := do
  let ref ← pointer self
  attempt env (method.call ref).1 (.onInterface (method.call ref).2)

/-! ## Runs -/

/-- What a program does with the module. -/
inductive Action
  | init (usbFindBusses usbFindDevices : ℤ)
  | cleanup
  | construct (usbFindBusses usbFindDevices : ℤ) (args : Arguments)
  | close (i : ℕ)
  | collect (i : ℕ)
  | invoke (i : ℕ) (method : Method)

/-- The number of the object it constructs, if it is one that constructs an object. -/
def Action.run : Action → Wrapped (Option ℕ)
  | .init busses devices => do Hidwrap.init env busses devices; pure none
  | .cleanup => do Hidwrap.cleanup env; pure none
  | .construct busses devices args => do
      let number ← Hidwrap.construct env busses devices args
      pure (some number)
  | .close i => do
      let self ← object i
      Hidwrap.close env self
      pure none
  | .collect i => do Hidwrap.collect env i; pure none
  | .invoke i method => do
      let self ← object i
      Hidwrap.invoke env self method
      pure none

/-- One action after the other, with their results and exceptions. -/
def runActions (actions : List Action) (s : Hidwrap) :
    Except Stop (List (Except HIDError (Option ℕ)) × Hidwrap) :=
  runAll (fun action => action.run env) actions s

/-- What is registered is called at exit, whatever is raised. -/
def atExit (s : Hidwrap) : Except Stop (List (Except HIDError Unit) × Hidwrap) :=
  runAll (fun (_ : Unit) => finalizeHid env) (List.replicate s.registered ()) s

end Functions

/-- The interface of an object alive. -/
def interfaceOf (s : Hidwrap) (i : ℕ) : Option Ref := (s.objects i).bind Interface.interface

/-- What is kept by every action. -/
structure Sound (s : Hidwrap) : Prop where
  tidy : s.library.Tidy
  disciplined : Disciplined s.library.world
  isInitialized : s.isInitialized = s.library.session.initialised
  registered : s.isInitialized = true → 0 < s.registered
  alive : ∀ i self, s.objects i = some self → i < s.constructed ∧ self.isOpen = true ∧
    ∃ ref ∈ s.library.session.allocated, self.interface = some ref
  apart : ∀ i j ref, s.interfaceOf i = some ref → s.interfaceOf j = some ref → i = j
  /-- An open interface belongs to an object. -/
  owned : ∀ ref x, s.library.session.handle ref = some x → ∃ i, s.interfaceOf i = some ref

/-- No object has opened its interface since it was constructed. -/
structure Later (s t : Hidwrap) : Prop where
  constructed : s.constructed ≤ t.constructed
  interface : ∀ i < s.constructed, ∀ ref, t.interfaceOf i = some ref → s.interfaceOf i = some ref
  handle : ∀ i < s.constructed, ∀ ref x, t.interfaceOf i = some ref →
    t.library.session.handle ref = some x → s.library.session.handle ref = some x

/-- The objects and the handles are left alone. -/
structure Leaves (s t : Hidwrap) : Prop where
  objects : t.objects = s.objects
  constructed : t.constructed = s.constructed
  handle : t.library.session.handle = s.library.session.handle

end Hidwrap

/-! ## What is used of the sessions -/

namespace Session.Move

variable {s s' : Session} {ret : LibraryReturn}

lemma hidInit_cases {busses devices : ℤ} (h : s.Move (.hidInit busses devices) ret s') :
    (ret = .status .success ∧ s' = { s with initialised := true }) ∨
      ∃ r, r ≠ .success ∧ ret = .status r ∧ s' = s := by
  simp only [Session.Move] at h
  split_ifs at h
  · exact .inr ⟨_, by decide, h⟩
  · exact .inr ⟨_, by decide, h⟩
  · exact .inr ⟨_, by decide, h⟩
  · exact .inl h

lemma hidCleanup_cases (h : s.Move .hidCleanup ret s') :
    (s.initialised = true ∧ ret = .status .success ∧ s' = { s with initialised := false }) ∨
      ∃ r, r ≠ .success ∧ ret = .status r ∧ s' = s := by
  simp only [Session.Move] at h
  split_ifs at h with hinit
  · exact .inl ⟨hinit, h⟩
  · exact .inr ⟨_, by decide, h⟩

/-- A call that opens an interface, given its errors. -/
lemma opening_cases {errors : List HidReturn} (herrors : .success ∉ errors) {hidif : Option Ref}
    {matcher : Option HIDInterfaceMatcher} {r : HidReturn}
    (h : s.Opening errors hidif matcher r s') :
    (r = .success ∧ ∃ ref x, hidif = some ref ∧ s.handle ref = none ∧ s' = s.put ref (some x)) ∨
      (r ≠ .success ∧ s' = s) := by
  cases h with
  | notInitialised | noInterface | alreadyOpened | noMatcher => exact .inr ⟨by decide, rfl⟩
  | opened hinit hclosed => exact .inl ⟨rfl, _, _, rfl, hclosed, rfl⟩
  | failed hinit hclosed hret =>
      refine .inr ⟨?_, rfl⟩
      rintro rfl
      rcases List.mem_append.mp hret with h | h
      · revert h
        decide
      · exact herrors h

end Session.Move

namespace Hidwrap

section Steps

variable {env : Env} {s t : Hidwrap} {out : Except HIDError Unit} {op : String}
  {call : LibraryCall}

lemma Leaves.refl (s : Hidwrap) : Leaves s s := ⟨rfl, rfl, rfl⟩

lemma hidRaise_status (op : String) {ret : HidReturn} (h : ret ≠ .success) :
    hidRaise op (.status ret) = .error ⟨ret, op ++ ": " ++ hidStrerror ret⟩ := if_pos h

lemma attempt_ok (h : attempt env op call s = .ok (out, t)) :
    ∃ ret l, call.step env s.library = .ok (ret, l) ∧ out = hidRaise op ret ∧
      t = { s with library := l } := by
  obtain ⟨⟨ret, l⟩, hstep, h⟩ := except_map_ok.mp h
  cases h
  exact ⟨ret, l, hstep, rfl, rfl⟩

/-- A call of the library that opens no interface, frees none, and leaves the library as initialised
as it was. -/
lemma Sound.replace {ret : LibraryReturn} {l : Library} (h : s.Sound)
    (hdrops : call.drops = none) (hstep : call.step env s.library = .ok (ret, l))
    (hinit : l.session.initialised = s.library.session.initialised)
    (halloc : s.library.session.allocated ⊆ l.session.allocated)
    (hdev : ∀ ref x, l.session.handle ref = some x → s.library.session.handle ref = some x) :
    Sound { s with library := l } where
  tidy := h.tidy.step (.of_none hdrops) hstep
  disciplined := h.disciplined.step hstep
  isInitialized := h.isInitialized.trans hinit.symm
  registered := h.registered
  alive i self hself := by
    obtain ⟨hlt, hopen, ref, href, hinterface⟩ := h.alive i self hself
    exact ⟨hlt, hopen, ref, halloc href, hinterface⟩
  apart := h.apart
  owned ref x hx := h.owned ref x (hdev ref x hx)

lemma Sound.same {ret : LibraryReturn} {l : Library} (h : s.Sound) (hdrops : call.drops = none)
    (hstep : call.step env s.library = .ok (ret, l)) (hsame : l.session = s.library.session) :
    Sound { s with library := l } ∧ Leaves s { s with library := l } := by
  refine ⟨h.replace hdrops hstep (by rw [hsame]) ?_ fun ref x hx => ?_, rfl, rfl, ?_⟩
  · rw [hsame]
    exact fun _ hmem => hmem
  · rwa [hsame] at hx
  · show l.session.handle = s.library.session.handle
    rw [hsame]

/-- The library is initialised or cleaned up, and the variable of the module is set. -/
lemma Sound.setInitialized {ret : LibraryReturn} {l : Library} {b : Bool} {n : ℕ} (h : s.Sound)
    (hdrops : call.drops = none) (hstep : call.step env s.library = .ok (ret, l))
    (hs : l.session = { s.library.session with initialised := b }) (hn : b = true → 0 < n) :
    Sound { s with library := l, isInitialized := b, registered := n } ∧
      Leaves s { s with library := l, isInitialized := b, registered := n } := by
  have hhandle : l.session.handle = s.library.session.handle := by rw [hs]
  have halloc : l.session.allocated = s.library.session.allocated := by rw [hs]
  refine ⟨⟨h.tidy.step (.of_none hdrops) hstep, h.disciplined.step hstep, by rw [hs], hn,
    fun i self hself => ?_, h.apart, fun ref x hx => ?_⟩, rfl, rfl, hhandle⟩
  · rw [halloc]
    exact h.alive i self hself
  · rw [hhandle] at hx
    exact h.owned ref x hx

lemma init_ok {busses devices : ℤ} (h : s.Sound)
    (hrun : init env busses devices s = .ok (out, t)) : t.Sound ∧ Leaves s t := by
  rcases raise_bind_ok.mp hrun with ⟨_, u, hattempt, hset⟩ | ⟨e, hattempt, -⟩
  · obtain ⟨ret, l, hstep, hret, rfl⟩ := attempt_ok hattempt
    rcases (step_moves h.tidy.orderly h.disciplined hstep).hidInit_cases with
      ⟨rfl, hs⟩ | ⟨r, hr, rfl, -⟩
    · cases hset
      exact h.setInitialized rfl hstep hs fun _ => Nat.succ_pos s.registered
    · rw [hidRaise_status _ hr] at hret
      cases hret
  · obtain ⟨ret, l, hstep, hret, rfl⟩ := attempt_ok hattempt
    rcases (step_moves h.tidy.orderly h.disciplined hstep).hidInit_cases with
      ⟨rfl, -⟩ | ⟨r, hr, rfl, hs⟩
    · cases hret
    · exact h.same rfl hstep hs

lemma cleanup_ok (h : s.Sound) (hrun : cleanup env s = .ok (out, t)) :
    t.Sound ∧ Leaves s t ∧ (s.isInitialized = true → out = .ok () ∧ t.isInitialized = false) := by
  rcases raise_bind_ok.mp hrun with ⟨_, u, hattempt, hset⟩ | ⟨e, hattempt, rfl⟩
  · obtain ⟨ret, l, hstep, hret, rfl⟩ := attempt_ok hattempt
    rcases (step_moves h.tidy.orderly h.disciplined hstep).hidCleanup_cases with
      ⟨-, rfl, hs⟩ | ⟨r, hr, rfl, -⟩
    · cases hset
      obtain ⟨hsound, hleaves⟩ := h.setInitialized (n := s.registered) rfl hstep hs (by simp)
      exact ⟨hsound, hleaves, fun _ => ⟨rfl, rfl⟩⟩
    · rw [hidRaise_status _ hr] at hret
      cases hret
  · obtain ⟨ret, l, hstep, hret, rfl⟩ := attempt_ok hattempt
    have hmove := step_moves h.tidy.orderly h.disciplined hstep
    rcases hmove.hidCleanup_cases with ⟨-, rfl, -⟩ | ⟨r, hr, rfl, hs⟩
    · cases hret
    · refine ⟨(h.same rfl hstep hs).1, (h.same rfl hstep hs).2, fun hinit => ?_⟩
      -- an initialised library can be cleaned up
      rw [h.isInitialized] at hinit
      simp only [Session.Move, hinit, if_true] at hmove
      exact absurd (LibraryReturn.status.inj hmove.1) hr

/-- The interface of an object that is being constructed is new, and closed. -/
lemma newInterface_ok {interface : Except HIDError (Option Ref)} (h : s.Sound)
    (hrun : newInterface env s = .ok (interface, t)) : t.Sound ∧ Leaves s t ∧
      ∃ p, interface = .ok p ∧ ∀ ref ∈ p, ref ∈ t.library.session.allocated ∧
        ∀ i, s.interfaceOf i ≠ some ref := by
  obtain ⟨⟨ret, l⟩, hstep, hnew⟩ := except_map_ok.mp hrun
  cases hnew
  rcases step_moves h.tidy.orderly h.disciplined hstep with ⟨rfl, hs⟩ | ⟨ref, rfl, hnew, -, hs⟩
  · obtain ⟨hsound, hleaves⟩ := h.same rfl hstep hs
    exact ⟨hsound, hleaves, none, rfl, by simp⟩
  · have hhandle : l.session.handle = s.library.session.handle := by rw [hs]
    have halloc : l.session.allocated = ref :: s.library.session.allocated := by rw [hs]
    refine ⟨h.replace rfl hstep (by rw [hs]) ?_ fun r x hx => ?_, ⟨rfl, rfl, hhandle⟩, some ref,
      rfl, ?_⟩
    · rw [halloc]
      exact List.subset_cons_self ref _
    · rwa [hhandle] at hx
    · rintro r ⟨⟩
      refine ⟨?_, fun i hi => ?_⟩
      · show ref ∈ l.session.allocated
        rw [halloc]
        exact List.mem_cons_self
      · -- every object has an interface that was allocated before
        obtain ⟨self, hself, hinterface⟩ := Option.bind_eq_some_iff.mp hi
        obtain ⟨-, -, r, hr, hinterface'⟩ := h.alive i self hself
        rw [hinterface] at hinterface'
        cases hinterface'
        exact hnew hr

/-- The interface of an object is opened, or an exception is raised. -/
lemma opens_ok {args : Arguments} {interface : Option Ref} (h : s.Sound)
    (hrun : attempt env (args.opens interface).1
      (.onInterface (.lifecycle (args.opens interface).2)) s = .ok (out, t)) :
    (∃ ref x l, interface = some ref ∧ out = .ok () ∧ t = { s with library := l } ∧
      l.Tidy ∧ Disciplined l.world ∧ l.session = s.library.session.put ref (some x)) ∨
    (∃ e, out = .error e) ∧ t.Sound ∧ Leaves s t := by
  obtain ⟨ret, l, hstep, rfl, rfl⟩ := attempt_ok hrun
  obtain ⟨-, r, rfl, hmove⟩ := step_moves h.tidy.orderly h.disciplined hstep
  have hcases : (r = .success ∧ ∃ ref x, interface = some ref ∧
      s.library.session.handle ref = none ∧ l.session = s.library.session.put ref (some x)) ∨
      (r ≠ .success ∧ l.session = s.library.session) := by
    unfold Arguments.opens at hmove
    split_ifs at hmove
    · exact Session.Move.opening_cases (by decide) hmove
    · exact Session.Move.opening_cases (by decide) hmove
  rcases hcases with ⟨rfl, ref, x, hinterface, -, hs⟩ | ⟨hr, hs⟩
  · exact .inl ⟨ref, x, l, hinterface, rfl, rfl, h.tidy.step (.of_none rfl) hstep,
      h.disciplined.step hstep, hs⟩
  · refine .inr ⟨⟨_, hidRaise_status _ hr⟩, h.same rfl hstep hs⟩

lemma get_bind {α : Type} (f : Hidwrap → Wrapped α) (s : Hidwrap) : (get >>= f) s = f s s := rfl

lemma Leaves.later (h : Leaves s t) : Later s t := by
  have hinterface : t.interfaceOf = s.interfaceOf := by
    funext i
    rw [interfaceOf, h.objects]
    rfl
  refine ⟨h.constructed.ge, fun i _ ref hi => ?_, fun i _ ref x _ hx => ?_⟩
  · rwa [hinterface] at hi
  · rwa [h.handle] at hx

lemma Later.trans {u : Hidwrap} (h : Later s t) (h' : Later t u) : Later s u := by
  refine ⟨h.constructed.trans h'.constructed, fun i hi ref hu => ?_, fun i hi ref x hu hx => ?_⟩
  · exact h.interface i hi ref (h'.interface i (hi.trans_le h.constructed) ref hu)
  · have hi' := hi.trans_le h.constructed
    exact h.handle i hi ref x (h'.interface i hi' ref hu) (h'.handle i hi' ref x hu hx)

lemma initIfNeeded_ok {busses devices : ℤ} (h : s.Sound)
    (hrun : initIfNeeded env busses devices s = .ok (out, t)) : t.Sound ∧ Leaves s t := by
  rw [initIfNeeded, get_bind] at hrun
  split_ifs at hrun
  · cases hrun
    exact ⟨h, .refl s⟩
  · exact init_ok h hrun

/-- The state in which an object has been constructed. -/
def withObject (s : Hidwrap) (ref : Ref) (l : Library) : Hidwrap :=
  { s with
    library := l
    objects := Function.update s.objects s.constructed (some ⟨some ref, true⟩)
    constructed := s.constructed + 1 }

lemma withObject_interfaceOf (s : Hidwrap) (ref : Ref) (l : Library) (i : ℕ) :
    (s.withObject ref l).interfaceOf i =
      if i = s.constructed then some ref else s.interfaceOf i := by
  show ((Function.update s.objects s.constructed (some ⟨some ref, true⟩)) i).bind _ = _
  rw [Function.update_apply]
  split_ifs <;> rfl

/-- An object gets an interface that no other object has, and that is open. -/
lemma Sound.withObject {ref : Ref} {x : UsbHandle} {l : Library} (h : s.Sound)
    (halloc : ref ∈ s.library.session.allocated) (hnew : ∀ i, s.interfaceOf i ≠ some ref)
    (hl : l.Tidy) (hd : Disciplined l.world)
    (hs : l.session = s.library.session.put ref (some x)) : (s.withObject ref l).Sound where
  tidy := hl
  disciplined := hd
  isInitialized := by
    show s.isInitialized = l.session.initialised
    rw [hs]
    exact h.isInitialized
  registered := h.registered
  alive i self hself := by
    show _ ∧ _ ∧ ∃ r ∈ l.session.allocated, _
    change Function.update s.objects _ _ _ = _ at hself
    rw [hs]
    by_cases hi : i = s.constructed
    · subst hi
      rw [Function.update_self] at hself
      cases hself
      exact ⟨Nat.lt_succ_self _, rfl, ref, halloc, rfl⟩
    · rw [Function.update_of_ne hi] at hself
      obtain ⟨hlt, hrest⟩ := h.alive i self hself
      exact ⟨Nat.lt_succ_of_lt hlt, hrest⟩
  apart i j r hi hj := by
    rw [withObject_interfaceOf] at hi hj
    split_ifs at hi hj with h₁ h₂ h₂
    · rw [h₁, h₂]
    · cases hi
      exact absurd hj (hnew j)
    · cases hj
      exact absurd hi (hnew i)
    · exact h.apart i j r hi hj
  owned r y hy := by
    change l.session.handle r = some y at hy
    rw [hs] at hy
    by_cases hr : r = ref
    · refine ⟨s.constructed, ?_⟩
      rw [withObject_interfaceOf, if_pos rfl, hr]
    · have hy' : s.library.session.handle r = some y := (Function.update_of_ne hr ..).symm.trans hy
      obtain ⟨i, hi⟩ := h.owned r y hy'
      obtain ⟨self, hself, -⟩ := Option.bind_eq_some_iff.mp hi
      refine ⟨i, ?_⟩
      rw [withObject_interfaceOf, if_neg (h.alive i self hself).1.ne]
      exact hi

lemma later_withObject {ref : Ref} {x : UsbHandle} {l : Library}
    (hnew : ∀ i, s.interfaceOf i ≠ some ref)
    (hs : l.session = s.library.session.put ref (some x)) : Later s (s.withObject ref l) := by
  refine ⟨Nat.le_succ _, fun i hi r hr => ?_, fun i hi r y hr hy => ?_⟩
  · rwa [withObject_interfaceOf, if_neg hi.ne] at hr
  · rw [withObject_interfaceOf, if_neg hi.ne] at hr
    have hne : r ≠ ref := by
      rintro rfl
      exact hnew i hr
    change l.session.handle r = some y at hy
    rw [hs] at hy
    exact (Function.update_of_ne hne ..).symm.trans hy

lemma construct_ok {busses devices : ℤ} {args : Arguments} {number : Except HIDError ℕ}
    (h : s.Sound) (hrun : construct env busses devices args s = .ok (number, t)) :
    t.Sound ∧ Later s t := by
  rcases raise_bind_ok.mp hrun with ⟨_, s₁, hinit, hrun⟩ | ⟨e, hinit, -⟩
  · obtain ⟨h₁, hleaves₁⟩ := initIfNeeded_ok h hinit
    rcases raise_bind_ok.mp hrun with ⟨interface, s₂, hnew, hrun⟩ | ⟨e, hnew, -⟩
    · obtain ⟨h₂, hleaves₂, p, hp, hfresh⟩ := newInterface_ok h₁ hnew
      cases hp
      have hlater₂ := hleaves₁.later.trans hleaves₂.later
      rcases raise_bind_ok.mp hrun with ⟨_, s₃, hopen, hrun⟩ | ⟨e, hopen, -⟩
      · obtain ⟨ref, x, l, rfl, -, rfl, hl, hd, hs⟩ | ⟨⟨e, he⟩, -⟩ := opens_ok h₂ hopen
        · cases hrun
          obtain ⟨halloc, hunused⟩ := hfresh ref rfl
          have hnew₂ : ∀ i, s₂.interfaceOf i ≠ some ref := by
            intro i hi
            rw [interfaceOf, hleaves₂.objects] at hi
            exact hunused i hi
          exact ⟨h₂.withObject halloc hnew₂ hl hd hs, hlater₂.trans (later_withObject hnew₂ hs)⟩
        · cases he
      · obtain ⟨ref, x, l, -, hout, -⟩ | ⟨-, h₃, hleaves₃⟩ := opens_ok h₂ hopen
        · cases hout
        · exact ⟨h₃, hlater₂.trans hleaves₃.later⟩
    · obtain ⟨h₂, hleaves₂, -⟩ := newInterface_ok h₁ hnew
      exact ⟨h₂, hleaves₁.later.trans hleaves₂.later⟩
  · obtain ⟨h₁, hleaves₁⟩ := initIfNeeded_ok h hinit
    exact ⟨h₁, hleaves₁.later⟩

/-! ### Objects -/

lemma object_ok {i : ℕ} {self : Except HIDError Interface} (hrun : object i s = .ok (self, t)) :
    ∃ o, s.objects i = some o ∧ self = .ok o ∧ t = s := by
  unfold object at hrun
  split at hrun
  · cases hrun
  · next o ho =>
      cases hrun
      exact ⟨o, ho, rfl, rfl⟩

lemma pointer_ok {self : Interface} {p : Except HIDError Ref} (hrun : pointer self s = .ok (p, t)) :
    ∃ ref, self.interface = some ref ∧ p = .ok ref ∧ t = s := by
  unfold pointer at hrun
  split at hrun
  · cases hrun
  · next ref href =>
      cases hrun
      exact ⟨ref, href, rfl, rfl⟩

/-- `close` closes the interface of its object, and raises an exception if it was not open. -/
lemma close_ok {self : Interface} (hrun : close env self s = .ok (out, t)) :
    ∃ ref ret l, self.interface = some ref ∧
      (LibraryCall.onInterface (.lifecycle (.hidClose ref))).step env s.library = .ok (ret, l) ∧
      out = hidRaise "close" ret ∧ t = { s with library := l } := by
  rcases raise_bind_ok.mp hrun with ⟨ref, u, hp, hattempt⟩ | ⟨e, hp, -⟩
  · obtain ⟨r, href, hr, rfl⟩ := pointer_ok hp
    cases hr
    obtain ⟨ret, l, hstep, hout, ht⟩ := attempt_ok hattempt
    exact ⟨ref, ret, l, href, hstep, hout, ht⟩
  · obtain ⟨r, -, hr, -⟩ := pointer_ok hp
    cases hr

/-- What `hid_close` does to the session. -/
lemma closes_ok {ref : Ref} {ret : LibraryReturn} {l : Library} (h : s.Sound)
    (hstep : (LibraryCall.onInterface (.lifecycle (.hidClose ref))).step env s.library =
      .ok (ret, l)) : ∃ r, ret = .status r ∧ l.session = s.library.session.put ref none ∧
      (r = .failCloseDevice ∨ r = .success ∧ (s.library.session.handle ref).isSome) := by
  obtain ⟨-, r, rfl, hr, hs⟩ := step_moves h.tidy.orderly h.disciplined hstep
  exact ⟨r, rfl, hs, hr⟩

/-- The interface of an object is closed, and the object may be gone. -/
lemma Sound.shut {ref : Ref} {l : Library} {objects : ℕ → Option Interface} (h : s.Sound)
    (hl : l.Tidy) (hd : Disciplined l.world)
    (hs : l.session = s.library.session.put ref none)
    (hobjects : ∀ j self, objects j = some self → s.objects j = some self)
    (hkept : ∀ j, s.interfaceOf j ≠ some ref → objects j = s.objects j) :
    Sound { s with library := l, objects := objects } ∧
      Later s { s with library := l, objects := objects } := by
  have hinterface : ∀ j r, (objects j).bind Interface.interface = some r →
      s.interfaceOf j = some r := by
    intro j r hj
    obtain ⟨self, hself, hr⟩ := Option.bind_eq_some_iff.mp hj
    exact Option.bind_eq_some_iff.mpr ⟨self, hobjects j self hself, hr⟩
  have hclosed : ∀ r x, l.session.handle r = some x →
      r ≠ ref ∧ s.library.session.handle r = some x := by
    intro r x hx
    rw [hs] at hx
    have hne : r ≠ ref := by
      rintro rfl
      rw [show (s.library.session.put r none).handle r = none from Function.update_self ..] at hx
      cases hx
    exact ⟨hne, (Function.update_of_ne hne ..).symm.trans hx⟩
  refine ⟨⟨hl, hd, ?_, h.registered, fun j self hself => ?_, fun j k r hj hk => ?_,
    fun r x hx => ?_⟩, ⟨Nat.le_refl _, fun j _ r hr => hinterface j r hr,
      fun j _ r x _ hx => (hclosed r x hx).2⟩⟩
  · show s.isInitialized = l.session.initialised
    rw [hs]
    exact h.isInitialized
  · show _ ∧ _ ∧ ∃ r ∈ l.session.allocated, _
    rw [hs]
    exact h.alive j self (hobjects j self hself)
  · exact h.apart j k r (hinterface j r hj) (hinterface k r hk)
  · obtain ⟨hne, hx⟩ := hclosed r x hx
    obtain ⟨j, hj⟩ := h.owned r x hx
    refine ⟨j, ?_⟩
    show (objects j).bind Interface.interface = some r
    rw [hkept j (by rw [hj]; exact fun heq => hne (Option.some.inj heq))]
    exact hj

/-- The exception of an interface that is closed again. -/
def closeError : HIDError := ⟨.failCloseDevice, "close: libhid: could not close device"⟩

/-- An object whose interface is not open. -/
def Shut (i : ℕ) (s : Hidwrap) : Prop :=
  i < s.constructed ∧ ∀ ref, s.interfaceOf i = some ref → s.library.session.handle ref = none

lemma Shut.later {i : ℕ} (h : Shut i s) (hlater : Later s t) : Shut i t := by
  refine ⟨h.1.trans_le hlater.constructed, fun ref href => ?_⟩
  rw [Option.eq_none_iff_forall_ne_some]
  intro x hx
  have hnone := h.2 ref (hlater.interface i h.1 ref href)
  rw [hlater.handle i h.1 ref x href hx] at hnone
  cases hnone

/-- `close` and `__del__`, given which objects are left. -/
lemma closes_object {i : ℕ} {self : Interface} {objects : ℕ → Option Interface} (h : s.Sound)
    (hself : s.objects i = some self)
    (hobjects : ∀ j o, objects j = some o → s.objects j = some o)
    (hkept : ∀ j, j ≠ i → objects j = s.objects j)
    (hrun : close env self { s with objects := objects } = .ok (out, t)) :
    t.Sound ∧ Later s t ∧ Shut i t ∧ (Shut i s → out = .error closeError) := by
  obtain ⟨ref, ret, l, hinterface, hstep, rfl, rfl⟩ := close_ok hrun
  obtain ⟨r, rfl, hs, hr⟩ := closes_ok h hstep
  have hof : s.interfaceOf i = some ref := by
    rw [interfaceOf, hself]
    exact hinterface
  obtain ⟨hsound, hlater⟩ := h.shut (h.tidy.step (.of_none rfl) hstep)
    (h.disciplined.step hstep) hs hobjects fun j hj => hkept j fun hji => hj (hji ▸ hof)
  refine ⟨hsound, hlater, ⟨(h.alive i self hself).1, fun r' hr' => ?_⟩, fun hshut => ?_⟩
  · have hr' := hlater.interface i (h.alive i self hself).1 r' hr'
    rw [hof] at hr'
    cases hr'
    show l.session.handle ref = none
    rw [hs]
    exact Function.update_self ..
  · rw [hshut.2 ref hof] at hr
    rcases hr with rfl | ⟨-, hr⟩
    · rfl
    · cases hr

lemma invoke_ok {self : Interface} {method : Method} (h : s.Sound)
    (hrun : invoke env self method s = .ok (out, t)) : t.Sound ∧ Leaves s t := by
  rcases raise_bind_ok.mp hrun with ⟨ref, u, hp, hattempt⟩ | ⟨e, hp, -⟩
  · obtain ⟨r, -, hr, rfl⟩ := pointer_ok hp
    cases hr
    obtain ⟨ret, l, hstep, -, rfl⟩ := attempt_ok hattempt
    obtain ⟨-, r, rfl, hmove⟩ := step_moves h.tidy.orderly h.disciplined hstep
    refine h.same rfl hstep ?_
    have huses : (method.call ref).2.uses = some ref := by
      cases method <;> rfl
    unfold Session.OnInterface at hmove
    rw [huses] at hmove
    exact hmove.2
  · obtain ⟨r, -, hr, -⟩ := pointer_ok hp
    cases hr

/-- An action on an object, which does something if the object is alive. -/
lemma onObject_ok {α : Type} {i : ℕ} {f : Interface → Wrapped α} {result : Except HIDError α}
    (hrun : (object i >>= f) s = .ok (result, t)) :
    ∃ self, s.objects i = some self ∧ f self s = .ok (result, t) := by
  rcases raise_bind_ok.mp hrun with ⟨self, u, ho, hf⟩ | ⟨e, ho, -⟩
  · obtain ⟨o, hself, heq, rfl⟩ := object_ok ho
    cases heq
    exact ⟨self, hself, hf⟩
  · obtain ⟨o, -, heq, -⟩ := object_ok ho
    cases heq

/-- What an action does whose result is dropped. -/
lemma dropped_ok {α β : Type} {x : Wrapped α} {b : β} {result : Except HIDError β}
    (hrun : (x >>= fun _ => pure b) s = .ok (result, t)) : ∃ r, x s = .ok (r, t) ∧
      ∀ e, r = .error e → result = .error e := by
  rcases raise_bind_ok.mp hrun with ⟨a, u, hx, hpure⟩ | ⟨e, hx, rfl⟩
  · cases hpure
    exact ⟨.ok a, hx, fun e he => by cases he⟩
  · exact ⟨.error e, hx, fun e' he => by cases he; rfl⟩

/-- An object is closed or collected. -/
def Action.Closes (i : ℕ) (action : Action) : Prop := action = .close i ∨ action = .collect i

lemma close_action {i : ℕ} {result : Except HIDError (Option ℕ)} (h : s.Sound)
    (hrun : (Action.close i).run env s = .ok (result, t)) :
    t.Sound ∧ Later s t ∧ Shut i t ∧ (Shut i s → result = .error closeError) := by
  obtain ⟨self, hself, hrun⟩ := onObject_ok hrun
  obtain ⟨r, hclose, hresult⟩ := dropped_ok hrun
  obtain ⟨hsound, hlater, hshut, hraise⟩ := @closes_object env s t r i self s.objects h hself
    (fun _ _ ho => ho) (fun _ _ => rfl) hclose
  exact ⟨hsound, hlater, hshut, fun hs => hresult _ (hraise hs)⟩

lemma collect_action {i : ℕ} {result : Except HIDError (Option ℕ)} (h : s.Sound)
    (hrun : (Action.collect i).run env s = .ok (result, t)) :
    t.Sound ∧ Later s t ∧ (Shut i s → result = .error closeError) := by
  obtain ⟨r, hcollect, hresult⟩ := dropped_ok hrun
  obtain ⟨self, hself, hcollect⟩ := onObject_ok hcollect
  change (if self.isOpen then close env self else pure ())
    { s with objects := Function.update s.objects i none } = .ok (r, t) at hcollect
  rw [if_pos (h.alive i self hself).2.1] at hcollect
  have hobjects : ∀ j o, Function.update s.objects i none j = some o → s.objects j = some o := by
    intro j o ho
    by_cases hj : j = i
    · rw [hj, Function.update_self] at ho
      cases ho
    · rwa [Function.update_of_ne hj] at ho
  obtain ⟨hsound, hlater, -, hraise⟩ := closes_object h hself hobjects
    (fun j hj => Function.update_of_ne hj ..) hcollect
  exact ⟨hsound, hlater, fun hs => hresult _ (hraise hs)⟩

/-- **Every action keeps what is kept, and opens no interface of an object that was there.** -/
lemma action_ok {action : Action} {result : Except HIDError (Option ℕ)} (h : s.Sound)
    (hrun : action.run env s = .ok (result, t)) : t.Sound ∧ Later s t := by
  cases action with
  | init busses devices =>
      obtain ⟨r, hinit, -⟩ := dropped_ok hrun
      obtain ⟨hsound, hleaves⟩ := init_ok h hinit
      exact ⟨hsound, hleaves.later⟩
  | cleanup =>
      obtain ⟨r, hcleanup, -⟩ := dropped_ok hrun
      obtain ⟨hsound, hleaves, -⟩ := cleanup_ok h hcleanup
      exact ⟨hsound, hleaves.later⟩
  | construct busses devices args =>
      rcases raise_bind_ok.mp hrun with ⟨n, u, hconstruct, hpure⟩ | ⟨e, hconstruct, -⟩
      · cases hpure
        exact construct_ok h hconstruct
      · exact construct_ok h hconstruct
  | close i =>
      obtain ⟨hsound, hlater, -⟩ := close_action h hrun
      exact ⟨hsound, hlater⟩
  | collect i =>
      obtain ⟨hsound, hlater, -⟩ := collect_action h hrun
      exact ⟨hsound, hlater⟩
  | invoke i method =>
      obtain ⟨self, -, hrun⟩ := onObject_ok hrun
      obtain ⟨r, hinvoke, -⟩ := dropped_ok hrun
      obtain ⟨hsound, hleaves⟩ := invoke_ok h hinvoke
      exact ⟨hsound, hleaves.later⟩

/-! ### At exit -/

/-- `hid_cleanup` can be called. -/
lemma hidCleanup_returns (env : Env) (l : Library) :
    ∃ ret l', LibraryCall.hidCleanup.step env l = .ok (ret, l') := by
  have hdes : ∀ ref ∈ LibraryCall.hidCleanup.designates, ref ∈ l.allocated := fun ref href => by
    cases href
  rw [LibraryCall.step, if_pos hdes]
  have hrun : Returns (LibraryCall.hidCleanup.run env) l.world :=
    .map (.bind (.of_ok rfl) fun _ _ _ => .ite (fun _ => .pure _ _) fun _ =>
      .bind (.of_ok rfl) fun _ _ _ => .pure _ _) _
  obtain ⟨ret, u, h⟩ := hrun
  exact ⟨ret, ⟨u, stillAllocated l.allocated .hidCleanup ret⟩, by rw [h]; rfl⟩

lemma finalizeHid_run (env : Env) (h : s.Sound) : ∃ t, finalizeHid env s = .ok (.ok (), t) ∧
    t.Sound ∧ t.isInitialized = false := by
  rw [finalizeHid, get_bind]
  split_ifs with hinit
  · obtain ⟨ret, l, hstep⟩ := hidCleanup_returns env s.library
    have hattempt : attempt env "cleanup" .hidCleanup s =
        .ok (hidRaise "cleanup" ret, { s with library := l }) := by
      rw [attempt, hstep]
      rfl
    obtain ⟨out, t, hrun⟩ : ∃ out t, cleanup env s = .ok (out, t) := by
      cases hret : hidRaise "cleanup" ret with
      | ok a =>
          rw [hret] at hattempt
          exact ⟨_, _, raise_bind_ok.mpr (.inl ⟨a, _, hattempt, rfl⟩)⟩
      | error e =>
          rw [hret] at hattempt
          exact ⟨_, _, raise_bind_ok.mpr (.inr ⟨e, hattempt, rfl⟩)⟩
    obtain ⟨hsound, -, hclean⟩ := cleanup_ok h hrun
    obtain ⟨rfl, hfalse⟩ := hclean hinit
    exact ⟨t, hrun, hsound, hfalse⟩
  · exact ⟨s, rfl, h, by simpa using hinit⟩

/-- What is called at exit, the number of times it is registered. -/
lemma finalize_all (env : Env) : ∀ (n : ℕ) {s : Hidwrap}, s.Sound →
    (s.isInitialized = true → 0 < n) → ∃ raised t,
      runAll (fun (_ : Unit) => finalizeHid env) (List.replicate n ()) s = .ok (raised, t) ∧
      (∀ r ∈ raised, r = .ok ()) ∧ t.Sound ∧ t.isInitialized = false
  | 0, s, h, hpos => by
      refine ⟨[], s, rfl, by simp, h, ?_⟩
      rw [← Bool.not_eq_true]
      exact fun hinit => Nat.lt_irrefl 0 (hpos hinit)
  | n + 1, s, h, _ => by
      obtain ⟨u, hfinal, hu, hfalse⟩ := finalizeHid_run env h
      obtain ⟨raised, t, hrun, hall, ht⟩ := finalize_all env n hu fun hinit => by
        rw [hfalse] at hinit
        cases hinit
      refine ⟨.ok () :: raised, t, ?_, ?_, ht⟩
      · simp only [List.replicate_succ, runAll, hfinal, hrun]
      · simpa using hall

end Steps

/-! ## What holds of programs -/

section Runs

variable {env : Env} {garbage : Ref → HIDInterface} {actions before after : List Action}
  {outs outs' : List (Except HIDError (Option ℕ))} {s s' t : Hidwrap}

lemma Sound.start (garbage : Ref → HIDInterface) : (start garbage).Sound :=
  ⟨.start garbage, .start false garbage, rfl, fun h => (by cases h), fun i self h => (by cases h),
    fun i j ref h => (by cases h), fun ref x h => (by cases h)⟩

lemma sound_run (h : runActions env actions (start garbage) = .ok (outs, s)) : s.Sound := by
  refine state_invariant_runAll (I := Sound) (P := fun _ _ => True) ?_ (.start garbage)
    (Along.of_forall (fun _ _ => trivial) actions _) h
  intro s t action result hs _ hrun
  exact (action_ok hs hrun).1

/-- **Whatever a program does with the module, in whatever order**: the variable of the module says
whether the library is initialised, every open interface is that of one object alive, every block
that is not free is an interface or belongs to one, and at exit no exception is raised, and the
library is cleaned up. -/
theorem hidwrap_run (h : runActions env actions (start garbage) = .ok (outs, s)) :
    s.isInitialized = s.library.world.initialised ∧
    (∀ ref, (s.library.world.hidifs ref).devHandle.isSome → ∃! i, s.interfaceOf i = some ref) ∧
    BlocksAccounted s.library ∧
    ∃ raised t, s.atExit env = .ok (raised, t) ∧ (∀ r ∈ raised, r = .ok ()) ∧
      t.library.world.initialised = false := by
  have hs := sound_run h
  have howned : ∀ ref, (s.library.world.hidifs ref).devHandle.isSome →
      ∃ i, s.interfaceOf i = some ref := by
    intro ref hopen
    obtain ⟨x, hx⟩ := Option.isSome_iff_exists.mp hopen
    exact hs.owned ref x hx
  refine ⟨hs.isInitialized, fun ref hopen => ?_, hs.tidy.orderly.accounted_iff.mpr rfl, ?_⟩
  · obtain ⟨i, hi⟩ := howned ref hopen
    exact ⟨i, hi, fun j hj => hs.apart j i ref hj hi⟩
  · obtain ⟨raised, t, hrun, hall, ht, hfalse⟩ := finalize_all env s.registered hs hs.registered
    exact ⟨raised, t, hrun, hall, ht.isInitialized.symm.trans hfalse⟩

/-- The first device of the bench. -/
def benchArguments : Arguments := ⟨0x051d, 0, 1, true, 3⟩

/-- `hidwrap_run` for a program that constructs two objects on the bench, of which the second one
finds the interface taken, and uses the first one. -/
theorem hidwrap_run_bench : ∃ outs s, runActions (bench [benchDevice 4])
      [.construct 1 1 benchArguments, .construct 1 1 benchArguments,
        .invoke 0 (.dumpTree true)] (start fun _ => closedInterface) = .ok (outs, s) ∧
    s.isInitialized = true ∧ s.library.world.initialised = true ∧ BlocksAccounted s.library := by
  have hrun : (runActions (bench [benchDevice 4]) [.construct 1 1 benchArguments,
      .construct 1 1 benchArguments, .invoke 0 (.dumpTree true)]
      (start fun _ => closedInterface)).toOption.map (fun r =>
        (r.1.map fun out => out.toOption, r.2.isInitialized)) =
          some ([some (some 0), none, some none], true) := by
    decide +kernel
  obtain ⟨⟨outs, s⟩, h, hp⟩ := Option.map_eq_some_iff.mp hrun
  have h := except_toOption_eq_some.mp h
  have hinit : s.isInitialized = true := congrArg Prod.snd hp
  obtain ⟨hsame, -, hblocks, -⟩ := hidwrap_run h
  exact ⟨outs, s, h, hinit, hsame.symm.trans hinit, hblocks⟩

/-- **An object that was closed raises an exception whenever it is closed again, and when it is
collected**, since `close` leaves `is_open` set. -/
theorem closed_raises {i : ℕ} {result : Except HIDError (Option ℕ)}
    (hbefore : runActions env before (start garbage) = .ok (outs, s))
    (hclose : (Action.close i).run env s = .ok (result, s'))
    (hafter : runActions env after s' = .ok (outs', t)) :
    List.Forall₂ (fun action out => action.Closes i → out = .error closeError) after outs' := by
  obtain ⟨hsound, -, hshut, -⟩ := close_action (sound_run hbefore) hclose
  have hmoves := refines_runAll (I := fun _ => True) (f := fun s => s)
    (fun _ _ _ _ _ hrun => (⟨trivial, hrun⟩ : True ∧ _)) trivial hafter
  refine (MoveRun.always (I := fun s => s.Sound ∧ Shut i s) (P := fun _ => True) ?_ hmoves
    ⟨hsound, hshut⟩ fun _ _ => trivial).2
  rintro s t action out ⟨hs, hshut⟩ - hrun
  obtain ⟨ht, hlater⟩ := action_ok hs hrun
  refine ⟨⟨ht, hshut.later hlater⟩, ?_⟩
  rintro (rfl | rfl)
  · exact (close_action hs hrun).2.2.2 hshut
  · exact (collect_action hs hrun).2.2 hshut

/-- `closed_raises` for an object on the bench that is closed and collected. -/
theorem closed_raises_bench : ∃ outs s result s' outs' t,
    runActions (bench [benchDevice 4]) [.construct 1 1 benchArguments]
      (start fun _ => closedInterface) = .ok (outs, s) ∧
    (Action.close 0).run (bench [benchDevice 4]) s = .ok (result, s') ∧
    runActions (bench [benchDevice 4]) [.collect 0] s' = .ok (outs', t) ∧
    outs' = [.error closeError] := by
  have hrun : (runActions (bench [benchDevice 4]) [.construct 1 1 benchArguments]
      (start fun _ => closedInterface) >>= fun r => (Action.close 0).run (bench [benchDevice 4]) r.2
        >>= fun r => runActions (bench [benchDevice 4]) [.collect 0] r.2).toOption.isSome =
          true := by
    decide +kernel
  obtain ⟨⟨outs', t⟩, h⟩ := Option.isSome_iff_exists.mp hrun
  obtain ⟨⟨outs, s⟩, hbefore, h⟩ := except_bind_ok.mp (except_toOption_eq_some.mp h)
  obtain ⟨⟨result, s'⟩, hclose, hafter⟩ := except_bind_ok.mp h
  refine ⟨outs, s, result, s', outs', t, hbefore, hclose, hafter, ?_⟩
  have hall := closed_raises hbefore hclose hafter
  obtain ⟨out, rest, hout, hrest, rfl⟩ := List.forall₂_cons_left_iff.mp hall
  cases hrest
  rw [hout (.inr rfl)]

end Runs

end Hidwrap

end Libhid
