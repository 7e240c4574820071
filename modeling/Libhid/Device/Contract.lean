import Libhid.Device.Discipline

/-!
# What the library promises to its callers

A `Session` is what a caller of the library has to keep in mind: whether the library is initialised,
which interfaces were handed out, and which of them are open, on which handle.  `Session.Move` says
for every call what it may return in such a state, and which state it leads to.  The busses, the
list of open devices, the blocks and the parsers are not part of it.

Every run of the library is a run of the sessions, with the same calls and the same answers
(`library_refines`).  What holds of the runs of sessions holds of the library: an interface that is
open keeps its handle and answers no call with `HID_RET_DEVICE_NOT_OPENED` until it is closed,
deleted or reset (`open_until_closed`).
-/

namespace Libhid

open Framework

/-! ## Sessions -/

/-- What a caller of the library knows. -/
structure Session where
  initialised : Bool
  /-- The interfaces handed out and not deleted. -/
  allocated : List Ref
  /-- The handle of an interface, if it is open. -/
  handle : Ref → Option UsbHandle

namespace Session

/-- Before the first call. -/
def start : Session := ⟨false, [], fun _ => none⟩

/-- An interface that is opened or closed. -/
def put (s : Session) (ref : Ref) (handle : Option UsbHandle) : Session :=
  { s with handle := Function.update s.handle ref handle }

/-- What keeps an opening call from a device, or a device from being opened. -/
def openErrors : List HidReturn :=
  [.deviceNotFound, .failOpenDevice, .failClaimIface, .failAlloc, .notHidDevice, .hidDescShort,
    .reportDescLong, .failGetReport, .reportDescShort]

/-- `hid_open` and `hid_force_open`, with what their ways to claim an interface add to the errors:
an open that succeeds stores a handle that no other interface has. -/
inductive Opening (s : Session) (errors : List HidReturn) :
    Option Ref → Option HIDInterfaceMatcher → HidReturn → Session → Prop
  | notInitialised {hidif : Option Ref} {matcher : Option HIDInterfaceMatcher}
      (hinit : s.initialised = false) : Opening s errors hidif matcher .notInitialised s
  | noInterface {matcher : Option HIDInterfaceMatcher} (hinit : s.initialised = true) :
      Opening s errors none matcher .invalidParameter s
  | alreadyOpened {ref : Ref} {matcher : Option HIDInterfaceMatcher} (hinit : s.initialised = true)
      (hopen : (s.handle ref).isSome) : Opening s errors (some ref) matcher .deviceAlreadyOpened s
  | noMatcher {ref : Ref} (hinit : s.initialised = true) (hclosed : s.handle ref = none) :
      Opening s errors (some ref) none .invalidParameter s
  | opened {ref : Ref} {m : HIDInterfaceMatcher} {x : UsbHandle} (hinit : s.initialised = true)
      (hclosed : s.handle ref = none) (hx : ∀ r, s.handle r ≠ some x) :
      Opening s errors (some ref) (some m) .success (s.put ref (some x))
  | failed {ref : Ref} {m : HIDInterfaceMatcher} {ret : HidReturn} (hinit : s.initialised = true)
      (hclosed : s.handle ref = none) (hret : ret ∈ openErrors ++ errors) :
      Opening s errors (some ref) (some m) ret s

/-- `hid_open`, `hid_force_open` and `hid_close`. -/
def Lifecycle (s : Session) : Call → HidReturn → Session → Prop
  | .hidOpen hidif _ matcher, ret, s' => s.Opening [] hidif matcher ret s'
  | .hidForceOpen hidif _ matcher _, ret, s' =>
      s.Opening [.failDetachDriver] hidif matcher ret s'
  | .hidClose ref, ret, s' =>
      (ret = .failCloseDevice ∨ ret = .success ∧ (s.handle ref).isSome) ∧ s' = s.put ref none

end Session

/-- What an exchange function may return. -/
def Exchange.answers (opened : Bool) : Exchange → List HidReturn
  | .getInputReport buffer _ | .getFeatureReport buffer _ =>
      if buffer.isNone then [.invalidParameter]
      else if opened then [.success, .failGetReport] else [.deviceNotOpened]
  | .setOutputReport buffer _ | .setFeatureReport buffer _ =>
      if buffer.isNone then [.invalidParameter]
      else if opened then [.success, .failSetReport] else [.deviceNotOpened]
  | .getItemValue _ => if opened then [.success, .failGetReport] else [.deviceNotOpened]

/-- What a function on an interface may return that is open or not, apart from those that open and
close it. -/
def PublicCall.answers (opened : Bool) : PublicCall → List HidReturn
  | .lifecycle _ => []
  | .exchange call _ _ => call.answers opened
  | .hidInterruptRead _ _ bytes _ _ | .hidInterruptWrite _ _ bytes _ _ =>
      if bytes.isNone then [.invalidParameter]
      else if opened then [.success, .timeout, .failIntRead] else [.deviceNotOpened]
  | .hidSetIdle _ duration reportId =>
      if duration > 255 ∨ reportId > 255 then [.invalidParameter] else [.success, .failGetReport]
  | .hidDumpTree out _ =>
      if opened then (if !out then [.invalidParameter] else [.success]) else [.deviceNotOpened]

namespace Session

/-- A call on an interface. -/
def OnInterface (s : Session) (call : PublicCall) (ret : HidReturn) (s' : Session) : Prop :=
  match call.uses, call with
  | some ref, call => ret ∈ call.answers (s.handle ref).isSome ∧ s' = s
  | none, .lifecycle call => s.Lifecycle call ret s'
  | none, _ => False

/-- What a call may return, and the state it leads to. -/
def Move (s : Session) : LibraryCall → LibraryReturn → Session → Prop
  | .hidInit usbFindBusses usbFindDevices, ret, s' =>
      if s.initialised then ret = .status .alreadyInitialised ∧ s' = s
      else if usbFindBusses < 0 then ret = .status .failFindBusses ∧ s' = s
      else if usbFindDevices < 0 then ret = .status .failFindDevices ∧ s' = s
      else ret = .status .success ∧ s' = { s with initialised := true }
  | .hidCleanup, ret, s' =>
      if s.initialised then ret = .status .success ∧ s' = { s with initialised := false }
      else ret = .status .notInitialised ∧ s' = s
  | .hidNewHIDInterface, ret, s' =>
      (ret = .pointer none ∧ s' = s) ∨ ∃ ref, ret = .pointer (some ref) ∧ ref ∉ s.allocated ∧
        s.handle ref = none ∧ s' = { s with allocated := ref :: s.allocated }
  | .hidDeleteHIDInterface hidif, ret, s' =>
      (∀ ref ∈ hidif, ref ∈ s.allocated) ∧ ret = .done ∧
        s' = hidif.elim s fun ref => { s.put ref none with allocated := s.allocated.erase ref }
  | .hidResetHIDInterface hidif, ret, s' =>
      (∀ ref ∈ hidif, ref ∈ s.allocated) ∧ ret = .done ∧ s' = hidif.elim s (s.put · none)
  | .onInterface call, ret, s' =>
      (∀ ref ∈ call.designates, ref ∈ s.allocated) ∧
        ∃ r, ret = .status r ∧ s.OnInterface call r s'

end Session

/-- The session of callers that were handed the interfaces. -/
def World.session (w : World) (allocated : List Ref) : Session :=
  ⟨w.initialised, allocated, fun ref => (w.hidifs ref).devHandle⟩

/-- The session of the callers of a library. -/
def Library.session (l : Library) : Session := l.world.session l.allocated

/-! ## What the functions return -/

section Functions

variable {env : Env} {ref : Ref} {w u : World} {ret : HidReturn} {path : List ℤ}

/-- A function that asks first whether its interface is open. -/
lemma guarded_yields {α : Type} (status : α → HidReturn) {statuses : List HidReturn} {refused : α}
    {f : HIDInterface → Hid α} (hrefused : status refused = .deviceNotOpened)
    (hf : Yields (fun a => status a ∈ statuses) (f (w.hidifs ref)) w) :
    Yields (fun a => status a ∈ if (w.hidifs ref).isOpened then statuses else [.deviceNotOpened])
      (do let hidif ← deref ref; if !hidif.isOpened then pure refused else f hidif) w := by
  intro a t h
  rw [deref_bind] at h
  split_ifs at h with hopen
  · cases h
    rw [if_neg (by simpa using hopen), hrefused]
    exact List.mem_singleton.mpr rfl
  · rw [if_pos (by simpa using hopen)]
    exact hf a t h

/-! ### Exchanges -/

lemma transferReport_yields {kind : ReportKind} {size : UInt32} :
    Yields (fun out => out.1 = .success ∨ out.1 = kind.failure)
      (transferReport env kind ref path size) w := by
  refine .bind fun _ _ _ => .bind fun hidif _ _ => .bind fun d _ _ => .bind fun answer _ _ => ?_
  exact .ite (fun _ => .pure (.inr rfl) _) fun _ =>
    .ite (fun _ => .pure (.inr rfl) _) fun _ => .pure (.inl rfl) _

lemma getReport_yields {kind : ReportKind} (buf : ℕ → UInt8) {size : UInt32} :
    Yields (fun out => out.1 ∈ if (w.hidifs ref).isOpened then [.success, kind.failure]
      else [.deviceNotOpened]) (getReport env kind ref path (some buf) size) w :=
  guarded_yields Prod.fst rfl (.bind fun out _ hout =>
    .pure (by simpa using transferReport_yields out _ hout) _)

lemma setReport_yields {kind : ReportKind} (buf : ℕ → UInt8) {size : UInt32} :
    Yields (· ∈ if (w.hidifs ref).isOpened then [.success, kind.failure] else [.deviceNotOpened])
      (setReport env kind ref path (some buf) size) w :=
  guarded_yields (fun ret => ret) rfl (.bind fun out _ hout =>
    .pure (by simpa using transferReport_yields out _ hout) _)

lemma hidGetItemValue_yields {hasValue : Bool} :
    Yields (fun out => out.1 ∈ if (w.hidifs ref).isOpened then [.success, .failGetReport]
      else [.deviceNotOpened]) (hidGetItemValue env ref path hasValue) w := by
  refine guarded_yields Prod.fst rfl ?_
  refine .bind fun _ _ _ => .bind fun hidif _ _ => .bind fun d _ _ => .bind fun row _ _ => ?_
  refine .bind fun size _ _ => .bind fun t _ _ => .bind fun hidif _ _ => .bind fun answer _ _ => ?_
  refine .ite (fun _ => .stops rfl) fun _ => .ite (fun _ => .pure (by simp) _) fun _ => ?_
  refine .ite (fun _ => .pure (by simp) _) fun _ => .bind fun out _ _ => ?_
  exact .ite (fun _ => .pure (by simp) _) fun _ => .pure (by simp) _

lemma exchange_yields {call : Exchange} :
    Yields (· ∈ call.answers (w.hidifs ref).isOpened) (call.run env ref path) w := by
  cases call with
  | getInputReport buffer size | getFeatureReport buffer size =>
      cases buffer with
      | none =>
          rintro _ _ ⟨⟩
          exact List.mem_singleton.mpr rfl
      | some buf => exact (getReport_yields buf).map fun out hout => hout
  | setOutputReport buffer size | setFeatureReport buffer size =>
      cases buffer with
      | none => exact .pure (List.mem_singleton.mpr rfl) w
      | some buf => exact setReport_yields buf
  | getItemValue hasValue => exact hidGetItemValue_yields.map fun out hout => hout

/-! ### The other functions -/

lemma interruptReturn_mem (len : ℤ) (size : UInt32) :
    interruptReturn env len size ∈ [HidReturn.success, .timeout, .failIntRead] := by
  unfold interruptReturn
  split_ifs <;> simp

lemma hidInterruptRead_yields {ep size timeout : UInt32} (buf : ℕ → UInt8) :
    Yields (fun out => out.1 ∈ if (w.hidifs ref).isOpened then [.success, .timeout, .failIntRead]
      else [.deviceNotOpened]) (hidInterruptRead env ref ep (some buf) size timeout) w :=
  guarded_yields Prod.fst rfl (.bind fun answer _ _ => by
    obtain ⟨len, bytes⟩ := answer
    refine .pure ?_ _
    exact interruptReturn_mem len size)

lemma hidInterruptWrite_yields {ep size timeout : UInt32} (buf : ℕ → UInt8) :
    Yields (· ∈ if (w.hidifs ref).isOpened then [.success, .timeout, .failIntRead]
      else [.deviceNotOpened]) (hidInterruptWrite env ref ep (some buf) size timeout) w :=
  guarded_yields (fun ret => ret) rfl (.bind fun len _ _ =>
    .pure (interruptReturn_mem len size) _)

lemma hidSetIdle_yields {duration reportId : UInt32} :
    Yields (· ∈ if duration > 255 ∨ reportId > 255 then [.invalidParameter]
      else [.success, .failGetReport]) (hidSetIdle env ref duration reportId) w := by
  refine .ite (fun hd => .pure (by simp [hd]) w) fun hd => ?_
  refine .ite (fun hr => .pure (by simp [hr]) w) fun hr => ?_
  rw [if_neg (not_or.mpr ⟨hd, hr⟩)]
  refine .bind fun hidif _ _ => .bind fun answer _ _ => .pure ?_ _
  split_ifs <;> simp

lemma hidDumpTree_yields {out : Bool} :
    Yields (fun x => x.1 ∈ if (w.hidifs ref).isOpened then
      (if !out then [.invalidParameter] else [.success]) else [.deviceNotOpened])
      (hidDumpTree env out ref) w := by
  refine guarded_yields Prod.fst rfl ?_
  refine .ite (fun hout => .pure (by simp [hout]) _) fun hout => ?_
  refine .bind fun _ _ _ => .bind fun hidif _ _ => .bind fun p _ _ => ?_
  exact .bind fun parser _ _ => .bind fun _ _ _ => .bind fun _ _ _ => .pure (by simp [hout]) _

/-- **What a function returns depends on its arguments and on whether its interface is open.** -/
lemma uses_yields {call : PublicCall} (huses : call.uses = some ref) :
    Yields (· ∈ call.answers (w.hidifs ref).isOpened) (call.run env) w := by
  cases call with
  | lifecycle call => cases huses
  | exchange call hidif path =>
      cases huses
      exact exchange_yields
  | hidInterruptRead hidif ep bytes size timeout =>
      cases huses
      cases bytes with
      | none =>
          rintro _ _ ⟨⟩
          exact List.mem_singleton.mpr rfl
      | some buf => exact (hidInterruptRead_yields buf).map fun out hout => hout
  | hidInterruptWrite hidif ep bytes size timeout =>
      cases huses
      cases bytes with
      | none => exact .pure (List.mem_singleton.mpr rfl) w
      | some buf => exact hidInterruptWrite_yields buf
  | hidSetIdle hidif duration reportId => exact hidSetIdle_yields
  | hidDumpTree out hidif =>
      cases huses
      exact hidDumpTree_yields.map fun x hx => hx

/-! ### Opening -/

/-- What an opening call returns that passes its checks. -/
abbrev openAnswers (errors : List HidReturn) : List HidReturn :=
  .success :: (Session.openErrors ++ errors)

lemma hidFindUsbDevice_yields {m : HIDInterfaceMatcher} :
    Yields (· ∈ [HidReturn.success, .deviceNotFound, .failOpenDevice])
      (hidFindUsbDevice env ref m) w := by
  intro r u h
  refine search_rule (I := fun _ _ => True)
    (J := fun r _ => r ∈ [HidReturn.success, .deviceNotFound, .failOpenDevice]) ?_ ?_ ?_ trivial h
  · intros
    trivial
  · intro bus dev rest v v' r _ hi
    cases hi <;> simp
  · intros
    simp

lemma claimOnce_yields {i : ℤ} :
    Yields (· ∈ [HidReturn.success, .failClaimIface]) (claimOnce env ref i) w := by
  refine .bind fun hidif _ _ => .bind fun claimed _ _ => .pure ?_ _
  split_ifs <;> simp

lemma forceClaimLoop_yields {dev : Option UsbHandle} {i : ℤ} : ∀ {k : ℕ} {w : World},
    Yields (· ∈ [HidReturn.success, .failClaimIface, .failDetachDriver])
      (forceClaimLoop env dev i k) w
  | 0, _ => by
      refine .bind fun claimed _ _ => .pure ?_ _
      split_ifs <;> simp
  | _ + 1, _ => .bind fun _ _ _ => .ite (fun _ => .pure (by simp) _) fun _ =>
      .bind fun _ _ _ => .ite (fun _ => .pure (by simp) _) fun _ => forceClaimLoop_yields

lemma hidOsForceClaim_yields {i : ℤ} {retries : UInt16} (hopen : (w.hidifs ref).isOpened = true) :
    Yields (· ∈ [HidReturn.success, .failClaimIface, .failDetachDriver])
      (hidOsForceClaim env ref i retries) w := by
  intro r u h
  simp only [hidOsForceClaim, deref_bind, hopen, Bool.not_true, Bool.false_eq_true, if_false] at h
  cases hos : env.os with
  | linux =>
      rw [hos] at h
      exact forceClaimLoop_yields r u h
  | darwin =>
      rw [hos] at h
      exact (Yields.bind fun _ _ _ => .pure (by simp) _) r u h
  | bsd =>
      rw [hos] at h
      refine (Yields.bind fun claimed _ _ => .pure ?_ _) r u h
      split_ifs <;> simp

/-- A step of the preparation, and those after it. -/
lemma orClose_yields {P : HidReturn → Prop} {step next : Hid HidReturn} (hstep : Yields P step w)
    (hnext : ∀ v, step w = .ok (.success, v) → Yields P next v) :
    Yields P (orClose env ref step next) w := by
  intro r u h
  obtain ⟨r', v, hs, ⟨rfl, h⟩ | ⟨-, rfl, -⟩⟩ := orClose_cases h
  · exact hnext v hs r u h
  · exact hstep r v hs

lemma hidInitParser_yields (hopen : (w.hidifs ref).isOpened = true) :
    Yields (· ∈ [HidReturn.success, .failAlloc]) (hidInitParser env ref) w := by
  intro r u h
  simp only [hidInitParser, deref_bind, hopen, Bool.not_true, Bool.false_eq_true, if_false] at h
  exact (Yields.bind fun _ _ _ => .bind fun _ _ _ => .ite (fun _ => .pure (by simp) _) fun _ =>
    .bind fun hidParser _ _ => .bind fun _ _ _ => .ite (fun _ => .pure (by simp) _) fun _ =>
      .pure (by simp) _) r u h

lemma hidPrepareHidDescriptor_yields :
    Yields (· ∈ [HidReturn.success, .notHidDevice, .hidDescShort])
      (hidPrepareHidDescriptor env ref) w := by
  refine .bind fun _ _ _ => .bind ?_
  rintro ⟨_, _⟩ _ _
  exact .ite (fun _ => .pure (by simp) _) fun _ =>
    .ite (fun _ => .pure (by simp) _) fun _ => .bind fun _ _ _ => .bind fun _ _ _ =>
      .pure (by simp) _

lemma hidPrepareReportDescriptor_yields :
    Yields (· ∈ [HidReturn.success, .reportDescLong, .failGetReport, .reportDescShort])
      (hidPrepareReportDescriptor env ref) w := by
  refine .bind fun _ _ _ => .bind fun _ _ _ => .ite (fun _ => .pure (by simp) _) fun _ => .bind ?_
  rintro ⟨_, _⟩ _ _
  exact .bind fun _ _ _ => .ite (fun _ => .pure (by simp) _) fun _ =>
      .ite (fun _ => .pure (by simp) _) fun _ => .pure (by simp) _

lemma hidPrepareParser_yields (hopen : (w.hidifs ref).isOpened = true) :
    Yields (· ∈ [HidReturn.success]) (hidPrepareParser env ref) w := by
  intro r u h
  simp only [hidPrepareParser, deref_bind, hopen, Bool.not_true, Bool.false_eq_true, if_false] at h
  revert r u
  refine Yields.bind fun _ _ _ => .bind fun _ _ _ => .bind fun _ _ _ => .bind ?_
  rintro ⟨_, _⟩ _ _
  exact .bind fun _ _ _ => .pure (by simp) _

/-- The answers of a step are among those of an opening call. -/
lemma yields_openAnswers {f : Hid HidReturn} {statuses errors : List HidReturn}
    (hf : Yields (· ∈ statuses) f w) (hsub : statuses ⊆ .success :: Session.openErrors) :
    Yields (· ∈ openAnswers errors) f w :=
  hf.mono fun _ hmem => List.cons_subset_cons _ (List.subset_append_left _ _) (hsub hmem)

lemma hidPrepareInterface_yields {errors : List HidReturn}
    (hopen : (w.hidifs ref).isOpened = true) :
    Yields (· ∈ openAnswers errors) (hidPrepareInterface env ref) w := by
  intro r u h
  rw [hidPrepareInterface, deref_bind, hopen] at h
  refine orClose_yields (yields_openAnswers (hidInitParser_yields hopen) (by decide))
    (fun v₁ h₁ => ?_) r u h
  refine orClose_yields (yields_openAnswers hidPrepareHidDescriptor_yields (by decide))
    fun v₂ h₂ => ?_
  refine orClose_yields (yields_openAnswers hidPrepareReportDescriptor_yields (by decide))
    fun v₃ h₃ => ?_
  -- none of the steps so far has touched the handle
  have hopen₃ : (v₃.hidifs ref).isOpened = true := by
    rw [HIDInterface.isOpened, (hidPrepareReportDescriptor_works h₃).devHandle,
      (hidPrepareHidDescriptor_works h₂).devHandle, (hidInitParser_ok hopen h₁).1.devHandle]
    exact hopen
  exact orClose_yields (yields_openAnswers (hidPrepareParser_yields hopen₃) (by decide))
    fun v₄ _ => .pure List.mem_cons_self v₄

/-- An opening call that passes its checks, given the answers of its way to claim the interface. -/
lemma openWith_yields {claim : Hid HidReturn} {errors : List HidReturn} {i : ℤ}
    {m : HIDInterfaceMatcher} (hclaims : Claims claim ref)
    (hclaim : ∀ {w}, (w.hidifs ref).isOpened = true → Yields (· ∈ openAnswers errors) claim w) :
    Yields (· ∈ openAnswers errors) (openWith env claim ref i m) w := by
  intro r u h
  obtain ⟨r', w₂, hfind, ⟨-, rfl, -⟩ | ⟨rfl, c, w₃, hc, hrest⟩⟩ := openWith_split h
  · exact yields_openAnswers hidFindUsbDevice_yields (by decide) r w₂ hfind
  · obtain ⟨x, hx⟩ := hidFindUsbDevice_devHandle hfind
    have hopen₂ : (w₂.hidifs ref).isOpened = true := by
      rw [HIDInterface.isOpened, hx]
      rfl
    rcases hrest with ⟨-, rfl, -⟩ | ⟨w₄, hp, -⟩
    · exact hclaim hopen₂ r w₃ hc
    · have hopen₃ : (w₃.hidifs ref).isOpened = true := by
        rw [HIDInterface.isOpened, (hclaims hc).devHandle]
        exact hopen₂
      exact hidPrepareInterface_yields hopen₃ r w₄ hp

lemma hidClose_yields :
    Yields (fun ret => ret = .failCloseDevice ∨ ret = .success ∧ (w.hidifs ref).devHandle.isSome)
      (hidClose env ref) w := by
  intro ret u h
  rw [hidClose, deref_bind] at h
  refine (Yields.bind fun x v hx => .bind fun _ _ _ => .bind fun _ _ _ => .bind fun _ _ _ =>
    .bind fun _ _ _ => .bind fun _ _ _ => .bind fun _ _ _ => .pure ?_ _ : Yields (fun ret =>
      ret = .failCloseDevice ∨ ret = .success ∧ (w.hidifs ref).devHandle.isSome) _ w) ret u h
  cases hdev : (w.hidifs ref).devHandle with
  | none =>
      rw [hdev] at hx
      cases hx
      exact .inl rfl
  | some dev =>
      split_ifs
      · exact .inl rfl
      · exact .inr ⟨rfl, rfl⟩

end Functions

/-! ## What the functions leave of the session -/

section Sessions

variable {env : Env} {ref : Ref} {w u : World} {ret : HidReturn} {allocated : List Ref}

lemma session_eq (hinit : u.initialised = w.initialised)
    (hdev : ∀ r, (u.hidifs r).devHandle = (w.hidifs r).devHandle) :
    u.session allocated = w.session allocated := by
  rw [World.session, hinit, funext hdev]
  rfl

lemma session_put {x : Option UsbHandle} (hinit : u.initialised = w.initialised)
    (href : (u.hidifs ref).devHandle = x) (hothers : ∀ r, r ≠ ref → u.hidifs r = w.hidifs r) :
    u.session allocated = (w.session allocated).put ref x := by
  have hdev : (fun r => (u.hidifs r).devHandle) =
      Function.update (fun r => (w.hidifs r).devHandle) ref x := by
    funext r
    by_cases hr : r = ref
    · rw [hr, href, Function.update_self]
    · rw [hothers r hr, Function.update_of_ne hr]
  rw [World.session, hinit, hdev]
  rfl

/-- An open that fails leaves the interface closed, as it was. -/
lemma session_fails (hn : (w.hidifs ref).devHandle = none) (hf : FailsToOpen ref w u) :
    u.session allocated = w.session allocated := by
  refine session_eq hf.initialised fun r => ?_
  by_cases hr : r = ref
  · subst hr
    rw [hn]
    rcases hf.outcome with ⟨-, hdev, -⟩ | ⟨-, hc⟩
    · exact hdev
    · rw [hc, closedInterface_devHandle]
  · rw [hf.others r hr]

/-- **Opening**, with a way to claim that adds its errors. -/
lemma openChecked_moves {claim : Ref → Hid HidReturn} {errors : List HidReturn}
    {hidif : Option Ref} {i : ℤ} {matcher : Option HIDInterfaceMatcher}
    (hclaims : ∀ ref, Claims (claim ref) ref)
    (hclaim : ∀ {ref w}, (w.hidifs ref).isOpened = true →
      Yields (· ∈ openAnswers errors) (claim ref) w)
    (hu : Disciplined u) (h : openChecked env claim hidif i matcher w = .ok (ret, u)) :
    (w.session allocated).Opening errors hidif matcher ret (u.session allocated) := by
  simp only [openChecked, hidIsInitialised_bind] at h
  split_ifs at h with hinit
  · cases h
    have hinit : w.initialised = false := by simpa using hinit
    exact .notInitialised hinit
  · have hinit : w.initialised = true := by simpa using hinit
    cases hidif with
    | none =>
        cases h
        exact .noInterface hinit
    | some ref =>
        simp only [deref_bind] at h
        split_ifs at h with hopen
        · cases h
          exact .alreadyOpened hinit hopen
        · have hn : (w.hidifs ref).devHandle = none := by
            simpa [HIDInterface.isOpened] using hopen
          cases matcher with
          | none =>
              cases h
              exact .noMatcher hinit hn
          | some m =>
              have hret := openWith_yields (hclaims ref) hclaim ret u h
              rcases openWith_ok (hclaims ref) h with ⟨rfl, ho⟩ | ⟨hne, hf⟩
              · obtain ⟨x, custom, hx, -⟩ := ho.handle
                rw [session_put ho.initialised hx ho.others]
                refine .opened hinit hn fun r hr => ?_
                -- another interface with the handle would have it after the call as well
                have hne : r ≠ ref := by
                  rintro rfl
                  change (w.hidifs r).devHandle = some x at hr
                  rw [hn] at hr
                  cases hr
                obtain ⟨held, hh⟩ := hu.handled
                exact hne (hh.once r ref x (by rw [ho.others r hne]; exact hr) hx)
              · rw [session_fails hn hf]
                exact .failed hinit hn ((List.mem_cons.mp hret).resolve_left hne)

/-- An interface that is cleared. -/
lemma clear_moves (w : World) (ref : Ref) :
    (w.write ref closedInterface).session allocated = (w.session allocated).put ref none := by
  refine session_put rfl ?_ fun r hr => ?_
  · rw [World.write_same]
    rfl
  · rw [World.write_other _ _ _ hr]

lemma hidClose_moves (h : hidClose env ref w = .ok (ret, u)) :
    u.session allocated = (w.session allocated).put ref none := by
  have hc := hidClose_ok h
  refine session_put hc.initialised ?_ fun r hr => ?_
  · rw [hc.hidifs, Function.update_self]
    rfl
  · rw [hc.hidifs, Function.update_of_ne hr]

lemma lifecycle_moves {call : Call} (hu : Disciplined u) (h : call.run env w = .ok (ret, u)) :
    (w.session allocated).Lifecycle call ret (u.session allocated) := by
  cases call with
  | hidOpen hidif i matcher =>
      refine openChecked_moves (fun ref => ClaimsThrough.claims fun hc => claimOnce_works hc)
        ?_ hu h
      intro ref v _
      exact yields_openAnswers claimOnce_yields (by decide)
  | hidForceOpen hidif i matcher retries =>
      refine openChecked_moves (fun ref => ClaimsThrough.claims fun hc => hidOsForceClaim_works hc)
        ?_ hu h
      intro ref v hopen
      refine (hidOsForceClaim_yields hopen).mono fun r hr => ?_
      have hsub : [HidReturn.success, .failClaimIface, .failDetachDriver] ⊆
          openAnswers [.failDetachDriver] := by decide
      exact hsub hr
  | hidClose ref => exact ⟨hidClose_yields ret u h, hidClose_moves h⟩

/-- A call on an interface. -/
lemma onInterface_moves {call : PublicCall} (hu : Disciplined u)
    (h : call.run env w = .ok (ret, u)) :
    (w.session allocated).OnInterface call ret (u.session allocated) := by
  unfold Session.OnInterface
  cases huses : call.uses with
  | some ref =>
      have hw := (uses_operates huses h).works
      refine ⟨uses_yields huses ret u h, session_eq hw.initialised fun r => ?_⟩
      by_cases hr : r = ref
      · rw [hr, hw.devHandle]
      · rw [hw.others r hr]
  | none =>
      cases call with
      | lifecycle call => exact lifecycle_moves hu h
      | _ => cases huses

end Sessions

/-! ## Runs -/

section Runs

variable {env : Env} {l l' : Library} {call : LibraryCall} {ret : LibraryReturn}

/-- **Every call is a move of the session.** -/
theorem step_moves {lost : List ℕ} (hl : l.Orderly lost) (hd : Disciplined l.world)
    (h : call.step env l = .ok (ret, l')) : l.session.Move call ret l'.session := by
  have hd' := hd.step h
  obtain ⟨hrun, halloc⟩ := step_run h
  have hdes : ∀ ref ∈ call.designates, ref ∈ l.allocated := by
    unfold LibraryCall.step at h
    split_ifs at h with hdes
    exact hdes
  obtain ⟨u, allocated'⟩ := l'
  dsimp only at hrun halloc hd'
  subst halloc
  cases call with
  | hidInit busses devices =>
      obtain ⟨r, hr, rfl⟩ := map_ok hrun
      simp only [hidInit, hidIsInitialised_bind] at hr
      unfold Session.Move
      change if l.world.initialised then _ else _
      split_ifs at hr ⊢ <;> cases hr <;> exact ⟨rfl, rfl⟩
  | hidCleanup =>
      obtain ⟨r, hr, rfl⟩ := map_ok hrun
      simp only [hidCleanup, hidIsInitialised_bind] at hr
      unfold Session.Move
      change if l.world.initialised then _ else _
      cases hinit : l.world.initialised with
      | false =>
          rw [hinit] at hr
          cases hr
          exact ⟨rfl, rfl⟩
      | true =>
          rw [hinit] at hr
          cases hr
          exact ⟨rfl, rfl⟩
  | hidNewHIDInterface =>
      obtain ⟨r, hr, rfl⟩ := map_ok hrun
      rw [hidNewHIDInterface_run] at hr
      split_ifs at hr <;> cases hr
      · have hnone := hl.unused _ (Nat.le_refl _)
        refine .inr ⟨_, rfl, fun hmem => Nat.lt_irrefl _ (hl.allocated_lt hmem), hnone, ?_⟩
        refine session_eq (w := l.world) rfl fun r => ?_
        by_cases hr : r = l.world.log.length
        · rw [hr, World.write_same, hnone]
          rfl
        · rw [World.write_other _ _ _ hr]
          rfl
      · exact .inl ⟨rfl, rfl⟩
  | hidDeleteHIDInterface hidif =>
      obtain ⟨r, hr, rfl⟩ := map_ok hrun
      refine ⟨hdes, rfl, ?_⟩
      cases hidif with
      | none =>
          cases hr
          rfl
      | some ref =>
          cases hr
          exact congrArg (fun s : Session => { s with allocated := l.allocated.erase ref })
            (clear_moves l.world ref)
  | hidResetHIDInterface hidif =>
      obtain ⟨r, hr, rfl⟩ := map_ok hrun
      refine ⟨hdes, rfl, ?_⟩
      cases hidif with
      | none =>
          cases hr
          rfl
      | some ref =>
          cases hr
          exact clear_moves l.world ref
  | onInterface call =>
      obtain ⟨r, hr, rfl⟩ := map_ok hrun
      exact ⟨hdes, r, rfl, onInterface_moves hd' hr⟩

/-- Every run from a state in order is a run of sessions. -/
lemma moveRun_of_run {calls : List LibraryCall} {rets : List LibraryReturn}
    (hl : ∃ lost, l.Orderly lost) (hd : Disciplined l.world)
    (h : runLibrary env calls l = .ok (rets, l')) :
    MoveRun Session.Move l.session calls rets l'.session := by
  refine refines_runAll (I := fun l : Library => (∃ lost, l.Orderly lost) ∧ Disciplined l.world)
    (f := Library.session) ?_ ⟨hl, hd⟩ h
  rintro s t call ret ⟨⟨lost, hs⟩, hd⟩ hstep
  obtain ⟨lost', ht, -⟩ := hs.step hstep
  exact ⟨⟨⟨lost', ht⟩, hd.step hstep⟩, step_moves hs hd hstep⟩

/-- **The library refines its sessions**: every run, of any calls in any order, is a run of moves
from the first session, with the same calls and the same answers. -/
theorem library_refines {calls : List LibraryCall} {garbage : Ref → HIDInterface}
    {rets : List LibraryReturn} (h : runLibrary env calls (Library.start garbage) = .ok (rets, l)) :
    MoveRun Session.Move Session.start calls rets l.session :=
  moveRun_of_run ⟨[], .start garbage⟩ (.start false garbage) h

/-- `library_refines` for the client of the bench, which then asks the interface it closed. -/
theorem library_refines_bench : ∃ rets l,
    runLibrary (bench [benchDevice 4])
      (benchClient ++ [.onInterface (.hidDumpTree true 0), .onInterface (.lifecycle (.hidClose 0))])
      (Library.start fun _ => closedInterface) = .ok (rets, l) ∧
    rets = [.status .success, .pointer (some 0), .pointer (some 1), .status .success,
      .status .success, .status .success, .status .deviceNotOpened, .status .failCloseDevice] ∧
    MoveRun Session.Move Session.start
      (benchClient ++ [.onInterface (.hidDumpTree true 0), .onInterface (.lifecycle (.hidClose 0))])
      rets l.session := by
  have hrun : (runLibrary (bench [benchDevice 4])
      (benchClient ++ [.onInterface (.hidDumpTree true 0), .onInterface (.lifecycle (.hidClose 0))])
      (Library.start fun _ => closedInterface)).toOption.map Prod.fst =
        some [.status .success, .pointer (some 0), .pointer (some 1), .status .success,
          .status .success, .status .success, .status .deviceNotOpened,
          .status .failCloseDevice] := by
    decide +kernel
  obtain ⟨⟨rets, l⟩, h, hrets⟩ := Option.map_eq_some_iff.mp hrun
  have h := except_toOption_eq_some.mp h
  exact ⟨rets, l, h, hrets, library_refines h⟩

/-- What a call may return while an interface is open. -/
def AnswersOpen (ref : Ref) (call : LibraryCall) (ret : LibraryReturn) : Prop :=
  (∀ c, call = .onInterface c → c.uses = some ref → ret ≠ .status .deviceNotOpened) ∧
  ∀ c, call = .onInterface (.lifecycle c) → c.target = some ref →
    ret = .status .notInitialised ∨ ret = .status .deviceAlreadyOpened

lemma answers_open (call : PublicCall) : .deviceNotOpened ∉ call.answers true := by
  cases call with
  | lifecycle call => simp [PublicCall.answers]
  | exchange call hidif path =>
      cases call <;> simp only [PublicCall.answers, Exchange.answers] <;> split_ifs <;> simp
  | hidInterruptRead | hidInterruptWrite | hidSetIdle | hidDumpTree =>
      simp only [PublicCall.answers]
      split_ifs <;> simp

/-- An open interface stays open when this or another one is opened. -/
lemma Session.Opening.whileOpen {s s' : Session} {ref : Ref} {x : UsbHandle}
    {errors : List HidReturn} {hidif : Option Ref} {matcher : Option HIDInterfaceMatcher}
    {r : HidReturn} (hopen : s.handle ref = some x) (h : s.Opening errors hidif matcher r s') :
    s'.handle ref = some x ∧
      (hidif = some ref → r = .notInitialised ∨ r = .deviceAlreadyOpened) := by
  have hne : ∀ {r : Ref}, s.handle r = none → r ≠ ref := by
    rintro r hclosed rfl
    rw [hclosed] at hopen
    cases hopen
  cases h with
  | notInitialised => exact ⟨hopen, fun _ => .inl rfl⟩
  | noInterface => exact ⟨hopen, fun href => by cases href⟩
  | alreadyOpened => exact ⟨hopen, fun _ => .inr rfl⟩
  | noMatcher _ hclosed => exact ⟨hopen, fun href => absurd (Option.some.inj href) (hne hclosed)⟩
  | failed _ hclosed => exact ⟨hopen, fun href => absurd (Option.some.inj href) (hne hclosed)⟩
  | opened _ hclosed =>
      refine ⟨?_, fun href => absurd (Option.some.inj href) (hne hclosed)⟩
      exact (Function.update_of_ne (hne hclosed).symm ..).trans hopen

/-- A call through an interface, or on its life, that does not close the open one. -/
lemma Session.OnInterface.whileOpen {s s' : Session} {ref : Ref} {x : UsbHandle}
    {call : PublicCall} {r : HidReturn} (hopen : s.handle ref = some x)
    (hc : call ≠ .lifecycle (.hidClose ref)) (h : s.OnInterface call r s') :
    s'.handle ref = some x ∧ AnswersOpen ref (.onInterface call) (.status r) := by
  unfold Session.OnInterface at h
  cases huses : call.uses with
  | some ref' =>
      rw [huses] at h
      obtain ⟨hmem, rfl⟩ := h
      refine ⟨hopen, ?_, ?_⟩
      · rintro c ⟨⟩ href hr
        rw [huses] at href
        cases href
        cases hr
        rw [hopen] at hmem
        exact answers_open call hmem
      · rintro c ⟨⟩
        cases huses
  | none =>
      cases call with
      | lifecycle call =>
          cases call with
          | hidOpen hidif i matcher | hidForceOpen hidif i matcher retries =>
              obtain ⟨hopen', hret⟩ := Session.Opening.whileOpen hopen h
              refine ⟨hopen', ?_, ?_⟩
              · rintro c ⟨⟩ href
                cases href
              · rintro c ⟨⟩ href
                exact (hret href).imp (congrArg _) (congrArg _)
          | hidClose ref' =>
              have hne : ref ≠ ref' := by
                rintro rfl
                exact hc rfl
              obtain ⟨-, rfl⟩ := h
              refine ⟨(Function.update_of_ne hne ..).trans hopen, ?_, ?_⟩
              · rintro c ⟨⟩ href
                cases href
              · rintro c ⟨⟩ href
                exact absurd (Option.some.inj href).symm hne
      | _ => cases huses

/-- A call that neither closes, deletes nor resets the interface. -/
def LeavesOpen (ref : Ref) (call : LibraryCall) : Prop :=
  call ≠ .onInterface (.lifecycle (.hidClose ref)) ∧ call.drops ≠ some ref

/-- A move that leaves an open interface alone leaves it open. -/
lemma Session.Move.whileOpen {s s' : Session} {ref : Ref} {x : UsbHandle}
    (hopen : s.handle ref = some x) (hc : LeavesOpen ref call) (h : s.Move call ret s') :
    s'.handle ref = some x ∧ AnswersOpen ref call ret := by
  have hquiet : ∀ {call : LibraryCall}, (∀ c, call ≠ .onInterface c) →
      AnswersOpen ref call ret :=
    fun hne => ⟨fun c hc => absurd hc (hne c), fun c hc => absurd hc (hne _)⟩
  cases call with
  | hidInit busses devices =>
      refine ⟨?_, hquiet (by simp)⟩
      simp only [Session.Move] at h
      split_ifs at h <;> rw [h.2] <;> exact hopen
  | hidCleanup =>
      refine ⟨?_, hquiet (by simp)⟩
      unfold Session.Move at h
      split_ifs at h <;> rw [h.2] <;> exact hopen
  | hidNewHIDInterface =>
      refine ⟨?_, hquiet (by simp)⟩
      rcases h with ⟨-, rfl⟩ | ⟨r, -, -, -, rfl⟩ <;> exact hopen
  | hidDeleteHIDInterface hidif | hidResetHIDInterface hidif =>
      refine ⟨?_, hquiet (by simp)⟩
      obtain ⟨-, -, rfl⟩ := h
      cases hidif with
      | none => exact hopen
      | some r =>
          have hne : ref ≠ r := fun heq => hc.2 (congrArg some heq.symm)
          exact (Function.update_of_ne hne ..).trans hopen
  | onInterface call =>
      obtain ⟨-, r, rfl, h⟩ := h
      exact h.whileOpen hopen fun heq => hc.1 (congrArg _ heq)

/-- **An interface stays open on its handle until it is closed, deleted or reset**: whatever else is
called, no call through it is answered `HID_RET_DEVICE_NOT_OPENED`, and it is not opened again. -/
theorem open_until_closed {before after : List LibraryCall} {garbage : Ref → HIDInterface}
    {rets rets' : List LibraryReturn} {ref : Ref} {x : UsbHandle}
    (hbefore : runLibrary env before (Library.start garbage) = .ok (rets, l))
    (hopen : (l.world.hidifs ref).devHandle = some x)
    (hafter : runLibrary env after l = .ok (rets', l'))
    (hc : ∀ call ∈ after, LeavesOpen ref call) :
    (l'.world.hidifs ref).devHandle = some x ∧ List.Forall₂ (AnswersOpen ref) after rets' := by
  have hmoves := moveRun_of_run (orderly_run hbefore) (disciplined_run hbefore) hafter
  refine MoveRun.always (I := fun s => s.handle ref = some x) (P := LeavesOpen ref) ?_ hmoves
    hopen hc
  intro s s' call ret hs hcall hmove
  exact hmove.whileOpen hs hcall

/-- Calls that leave the second interface of the bench open. -/
def benchMeanwhile : List LibraryCall :=
  [.onInterface (.hidDumpTree true 1), .onInterface (.lifecycle (benchOpen 1 0)),
    .onInterface (.lifecycle (.hidClose 0)), .hidDeleteHIDInterface (some 0)]

/-- `open_until_closed` for the second interface of the bench. -/
theorem open_until_closed_bench : ∃ rets l rets' l' x,
    runLibrary (bench [benchDevice 4]) benchClient (Library.start fun _ => closedInterface) =
      .ok (rets, l) ∧
    (l.world.hidifs 1).devHandle = some x ∧
    runLibrary (bench [benchDevice 4]) benchMeanwhile l = .ok (rets', l') ∧
    (l'.world.hidifs 1).devHandle = some x ∧
    List.Forall₂ (AnswersOpen 1) benchMeanwhile rets' := by
  have hrun : libraryEndsWith (fun l => (l.world.hidifs 1).devHandle.isSome &&
      libraryEndsWith (fun _ => true) (runLibrary (bench [benchDevice 4]) benchMeanwhile l))
      (runLibrary (bench [benchDevice 4]) benchClient (Library.start fun _ => closedInterface)) =
        true := by
    decide +kernel
  obtain ⟨rets, l, h, hp⟩ := exists_of_libraryEndsWith hrun
  obtain ⟨hsome, hmeanwhile⟩ := Bool.and_eq_true_iff.mp hp
  obtain ⟨x, hx⟩ := Option.isSome_iff_exists.mp hsome
  obtain ⟨rets', l', h', -⟩ := exists_of_libraryEndsWith hmeanwhile
  have hstays := open_until_closed h hx h'
    (by simp [benchMeanwhile, benchOpen, LeavesOpen, LibraryCall.drops])
  exact ⟨rets, l, rets', l', x, h, hx, h', hstays⟩

end Runs

end Libhid
