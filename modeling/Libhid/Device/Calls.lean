import Libhid.Device.Refusal
import Libhid.Device.Cleanup

/-!
# The calls of the library, in any order

`hid_dump_tree`, and the runs of all calls on interfaces.  Every function that makes a transfer
asks first whether its interface is open, except `hid_set_idle`: no transfer goes through a `NULL`
handle exactly when each `hid_set_idle` that gets past its range checks is made on an open interface
(`transfersGuarded_iff`).
-/

namespace Libhid

open Framework

/-! ## `hid_dump_tree` (`src/hid_presentation.c`) -/

/-- `hid_dump_tree`, with the objects whose paths and types it writes to `out`, which may be
`NULL`. -/
def hidDumpTree (env : Env) (out : Bool) (ref : Ref) : Hid (HidReturn × List HIDData) := do
  let hidif ← deref ref
  if !hidif.isOpened then pure (.deviceNotOpened, []) else
  if !out then pure (.invalidParameter, []) else
  hidResetParser ref
  let hidif ← deref ref
  let p ← nonNull hidif.hidParser
  let (objects, finish) := enumerate env.abi p.val
  let parser ← lift finish
  storeObject ref { hidif with hidParser := some { p with val := parser } } objects.getLast?
  hidResetParser ref
  pure (.success, objects)

/-! ## Calls -/

/-- A call on an interface. -/
inductive PublicCall
  /-- `hid_open`, `hid_force_open` and `hid_close`. -/
  | lifecycle (call : Call)
  /-- The report functions and `hid_get_item_value`. -/
  | exchange (call : Exchange) (hidif : Ref) (path : List ℤ)
  | hidInterruptRead (hidif : Ref) (ep : UInt32) (bytes : Option (ℕ → UInt8))
      (size timeout : UInt32)
  | hidInterruptWrite (hidif : Ref) (ep : UInt32) (bytes : Option (ℕ → UInt8))
      (size timeout : UInt32)
  | hidSetIdle (hidif : Ref) (duration reportId : UInt32)
  | hidDumpTree (out : Bool) (hidif : Ref)

/-- The value the call returns. -/
def PublicCall.run (env : Env) : PublicCall → Hid HidReturn
  | .lifecycle call => call.run env
  | .exchange call hidif path => call.run env hidif path
  | .hidInterruptRead hidif ep bytes size timeout =>
      Prod.fst <$> Libhid.hidInterruptRead env hidif ep bytes size timeout
  | .hidInterruptWrite hidif ep bytes size timeout =>
      Libhid.hidInterruptWrite env hidif ep bytes size timeout
  | .hidSetIdle hidif duration reportId => Libhid.hidSetIdle env hidif duration reportId
  | .hidDumpTree out hidif => Prod.fst <$> Libhid.hidDumpTree env out hidif

/-- One call after the other, with their return values. -/
def runPublic (env : Env) (calls : List PublicCall) (w : World) :
    Except Stop (List HidReturn × World) :=
  runAll (fun call => call.run env) calls w

/-- The interface that has to be open for the call. -/
def PublicCall.uses : PublicCall → Option Ref
  | .lifecycle _ => none
  | .exchange _ hidif _ | .hidInterruptRead hidif _ _ _ _ | .hidInterruptWrite hidif _ _ _ _
  | .hidSetIdle hidif _ _ | .hidDumpTree _ hidif => some hidif

/-- The transfers through a `NULL` handle. -/
def Event.onNull : Event → Bool
  | .usbControlMsg msg _ => msg.dev.isNone
  | .usbInterruptRead dev _ _ _ _ | .usbInterruptWrite dev _ _ _ _ => dev.isNone
  | _ => false

/-- No call so far was a transfer through a `NULL` handle. -/
def NoNullTransfer (w : World) : Prop := ∀ e ∈ w.log, e.onNull = false

/-- The call returns an error if the interface it needs is not open. -/
def RefusesClosed (env : Env) (call : PublicCall) (w : World) : Prop :=
  ∀ ref, call.uses = some ref → (w.hidifs ref).isOpened = false →
    ∀ ret u, call.run env w = .ok (ret, u) → ret ≠ .success

/-- A `hid_set_idle` that gets past its range checks is made on an open interface. -/
def SetIdleOpen : PublicCall → World → Prop
  | .hidSetIdle ref duration reportId, w =>
      duration ≤ 255 → reportId ≤ 255 → (w.hidifs ref).isOpened = true
  | _, _ => True

/-! ## Functions on an open interface -/

section Functions

variable {env : Env} {ref : Ref} {w u : World} {ret : HidReturn} {path : List ℤ}

/-- The calls a function on an open interface may make. -/
abbrev Event.NotNull (e : Event) : Prop := e.onNull = false

/-- The calls that do not go through a `NULL` handle. -/
def Event.HasHandle : Event → Prop
  | .usbClaimInterface dev _ | .usbDetachKernelDriver dev _ => dev.isSome = true
  | e => e.NotNull

lemma Event.HasHandle.notNull {e : Event} (h : e.HasHandle) : e.NotNull := by
  cases e with
  | usbClaimInterface | usbDetachKernelDriver => rfl
  | _ => exact h

lemma Works.isOpened {P : Event → Prop} (h : Works P ref w u) :
    (u.hidifs ref).isOpened = (w.hidifs ref).isOpened := by
  rw [HIDInterface.isOpened, h.devHandle]
  rfl

/-- The data of an interface with other contents. -/
lemma Works.storeData {P : Event → Prop} {d : Block HIDData}
    (hd : (w.hidifs ref).hidData = some d) (data : HIDData) : Works P ref w
      (w.write ref { w.hidifs ref with hidData := some { d with val := data } }) := by
  refine .write rfl rfl rfl ?_
  funext part
  cases part with
  | data => simp [HIDInterface.block, hd]
  | parser => rfl

lemma hidFindObject_works (h : hidFindObject env ref path w = .ok (ret, u)) :
    Works Event.NotNull ref w u := by
  simp only [hidFindObject, deref_bind] at h
  split_ifs at h
  · cases h
    exact .refl _ ref w
  · obtain ⟨d, w₁, hd, h⟩ := state_bind_ok.mp h
    obtain ⟨hdata, rfl⟩ := nonNull_ok hd
    obtain ⟨query, w₂, hl, h⟩ := state_bind_ok.mp h
    obtain ⟨-, rfl⟩ := lift_ok hl
    obtain ⟨p, w₃, hp, h⟩ := state_bind_ok.mp h
    obtain ⟨hparser, rfl⟩ := nonNull_ok hp
    obtain ⟨⟨parser, object⟩, w₄, hf, h⟩ := state_bind_ok.mp h
    obtain ⟨-, rfl⟩ := lift_ok hf
    rw [assign_bind] at h
    have hw : Works Event.NotNull ref w (w.write ref { w.hidifs ref with
        hidParser := some { p with val := parser }
        hidData := some { d with val := object.getD query } }) := by
      refine .write rfl rfl rfl ?_
      funext part
      cases part with
      | data => simp [HIDInterface.block, hdata]
      | parser => simp [HIDInterface.block, hparser]
    split_ifs at h
    · cases h
      exact hw
    · obtain ⟨buffer, w₅, hm, h⟩ := state_bind_ok.mp h
      obtain ⟨rfl, -⟩ := malloc_ok hm
      split_ifs at h
      swap
      · cases h
      obtain ⟨_, w₆, hfree, h⟩ := state_bind_ok.mp h
      cases h
      have hw' := hw.trans (.record (e := .malloc (buffer.map Block.addr)) rfl)
      cases buffer with
      | none =>
          cases hfree
          exact hw'
      | some b =>
          cases hfree
          exact hw'.trans (.record (e := .free b.addr) rfl)

lemma lookUp_works {type : UInt8} {x : Unit} (h : lookUp env type ref path w = .ok (x, u)) :
    Works Event.NotNull ref w u := by
  simp only [lookUp, deref_bind] at h
  obtain ⟨d, w₁, hd, h⟩ := state_bind_ok.mp h
  obtain ⟨hdata, rfl⟩ := nonNull_ok hd
  rw [assign_bind] at h
  obtain ⟨r, w₂, hf, h⟩ := state_bind_ok.mp h
  cases h
  exact (Works.storeData hdata _).trans (hidFindObject_works hf)

/-- A transfer through the handle of an open interface. -/
lemma notNull_of_open (hopen : (w.hidifs ref).isOpened = true) :
    (w.hidifs ref).devHandle.isNone = false := by
  rw [HIDInterface.isOpened] at hopen
  rw [← Option.not_isSome, hopen]
  rfl

lemma transferReport_works {kind : ReportKind} {size : UInt32} {x : HidReturn × ℤ × (ℕ → UInt8)}
    (hopen : (w.hidifs ref).isOpened = true)
    (h : transferReport env kind ref path size w = .ok (x, u)) : Works Event.NotNull ref w u := by
  obtain ⟨_, w₁, hl, h⟩ := state_bind_ok.mp h
  have hw₁ := lookUp_works hl
  rw [deref_bind] at h
  obtain ⟨d, w₂, hd, h⟩ := state_bind_ok.mp h
  obtain ⟨-, rfl⟩ := nonNull_ok hd
  simp only [usbControlMsg, callOut_bind] at h
  have hopen₁ : (w₁.hidifs ref).isOpened = true := hw₁.isOpened.trans hopen
  split_ifs at h <;> cases h <;> exact hw₁.trans (.record (notNull_of_open hopen₁))

lemma map_fst_ok {α β : Type} {m : Hid (α × β)} {a : α} (h : (Prod.fst <$> m) w = .ok (a, u)) :
    ∃ b, m w = .ok ((a, b), u) := by
  change (m >>= fun x => pure x.1) w = .ok (a, u) at h
  obtain ⟨⟨a', b⟩, v, hm, h⟩ := state_bind_ok.mp h
  cases h
  exact ⟨b, hm⟩

lemma hidGetReportSize_works {id type : UInt8} {x : HidReturn × Option UInt8}
    (h : hidGetReportSize ref id type w = .ok (x, u)) : Works Event.NotNull ref w u := by
  simp only [hidGetReportSize, deref_bind] at h
  split_ifs at h
  · cases h
    exact .refl _ ref w
  · obtain ⟨p, w₁, hp, h⟩ := state_bind_ok.mp h
    obtain ⟨hparser, rfl⟩ := nonNull_ok hp
    rcases hg : getReportOffset p.val.offsetTab p.val.nReport id type with _ | ⟨pos, tab, n⟩
    · rw [hg] at h
      cases h
    · rw [hg] at h
      cases h
      exact .storeParser hparser _

lemma hidExtractValue_works {buffer : Option (ℕ → UInt8)} {room : ℕ} {hasValue : Bool}
    {x : HidReturn × Option ℤ}
    (h : hidExtractValue env ref buffer room hasValue w = .ok (x, u)) :
    Works Event.NotNull ref w u := by
  unfold hidExtractValue at h
  cases buffer with
  | none =>
      simp only [deref_bind] at h
      split_ifs at h <;> cases h <;> exact .refl _ ref w
  | some buf =>
      simp only [deref_bind] at h
      split_ifs at h
      · cases h
        exact .refl _ ref w
      · cases h
        exact .refl _ ref w
      · obtain ⟨d, w₁, hd, h⟩ := state_bind_ok.mp h
        obtain ⟨hdata, rfl⟩ := nonNull_ok hd
        split_ifs at h
        · cases h
        · cases h
          exact .storeData hdata _

lemma hidGetItemValue_works {hasValue : Bool} {x : HidReturn × Option ℤ}
    (hopen : (w.hidifs ref).isOpened = true)
    (h : hidGetItemValue env ref path hasValue w = .ok (x, u)) : Works Event.NotNull ref w u := by
  simp only [hidGetItemValue, deref_bind, hopen, Bool.not_true, Bool.false_eq_true, if_false] at h
  obtain ⟨_, w₁, hl, h⟩ := state_bind_ok.mp h
  have hw₁ := lookUp_works hl
  rw [deref_bind] at h
  obtain ⟨d, w₂, hd, h⟩ := state_bind_ok.mp h
  obtain ⟨-, rfl⟩ := nonNull_ok hd
  obtain ⟨⟨r, size⟩, w₂, hs, h⟩ := state_bind_ok.mp h
  have hw₂ := hw₁.trans (hidGetReportSize_works hs)
  obtain ⟨n, w₃, hn, h⟩ := state_bind_ok.mp h
  obtain ⟨-, rfl⟩ := nonNull_ok hn
  simp only [now_bind, deref_bind, usbControlMsg, callOut_bind] at h
  have hopen₂ : (w₂.hidifs ref).isOpened = true := hw₂.isOpened.trans hopen
  have hw₃ : Works Event.NotNull ref w (w₂.record (.usbControlMsg
      (featureReport.message (w₂.hidifs ref) d.val.reportID n.toNat)
      (env.usbControlMsg w₂.log.length).1)) :=
    hw₂.trans (.record (notNull_of_open hopen₂))
  split_ifs at h
  · cases h
  · cases h
    exact hw₃
  · cases h
    exact hw₃
  · obtain ⟨⟨r', value⟩, w₄, he, h⟩ := state_bind_ok.mp h
    have hw₄ := hw₃.trans (hidExtractValue_works he)
    split_ifs at h <;> cases h <;> exact hw₄

lemma hidDumpTree_works {out : Bool} {x : HidReturn × List HIDData}
    (h : hidDumpTree env out ref w = .ok (x, u)) : Works Event.NotNull ref w u := by
  simp only [hidDumpTree, deref_bind] at h
  split_ifs at h
  · cases h
    exact .refl _ ref w
  · cases h
    exact .refl _ ref w
  · obtain ⟨_, w₁, hr, h⟩ := state_bind_ok.mp h
    have hw₁ : Works Event.NotNull ref w w₁ := (hidResetParser_works hr).1
    rw [deref_bind] at h
    obtain ⟨p, w₂, hp, h⟩ := state_bind_ok.mp h
    obtain ⟨hparser, rfl⟩ := nonNull_ok hp
    obtain ⟨parser, w₃, hl, h⟩ := state_bind_ok.mp h
    obtain ⟨-, rfl⟩ := lift_ok hl
    obtain ⟨_, w₄, hs, h⟩ := state_bind_ok.mp h
    obtain ⟨_, w₅, hr', h⟩ := state_bind_ok.mp h
    cases h
    exact (hw₁.trans (storeObject_works (.storeParser hparser parser) hs)).trans
      (hidResetParser_works hr').1

/-! ## Guarded functions -/

/-- What a function does that asks first whether its interface is open. -/
structure Guards (ref : Ref) (w : World) (ret : HidReturn) (u : World) : Prop where
  works : Works Event.NotNull ref w u
  refuses : (w.hidifs ref).isOpened = false → ret ≠ .success

lemma Guards.refused (ref : Ref) (w : World) (hret : ret ≠ .success) : Guards ref w ret w :=
  ⟨.refl _ ref w, fun _ => hret⟩

lemma Guards.opened (hopen : (w.hidifs ref).isOpened = true) (hw : Works Event.NotNull ref w u) :
    Guards ref w ret u := by
  refine ⟨hw, fun hclosed => ?_⟩
  rw [hopen] at hclosed
  cases hclosed

/-- A function that asks first whether its interface is open is turned down, or goes on. -/
lemma guards_of_ok {α : Type} (status : α → HidReturn) {refused x : α} {f : HIDInterface → Hid α}
    (h : (do let hidif ← deref ref; if !hidif.isOpened then pure refused else f hidif) w =
      .ok (x, u)) (hrefused : status refused ≠ .success)
    (hopened : (w.hidifs ref).isOpened = true → f (w.hidifs ref) w = .ok (x, u) →
      Works Event.NotNull ref w u) : Guards ref w (status x) u := by
  rw [deref_bind] at h
  split_ifs at h with hopen
  · cases h
    exact .refused ref w hrefused
  · have hopen : (w.hidifs ref).isOpened = true := by simpa using hopen
    exact .opened hopen (hopened hopen h)

lemma getReport_guards {kind : ReportKind} {buffer : Option (ℕ → UInt8)} {size : UInt32}
    {x : HidReturn × Option (ℕ → UInt8)}
    (h : getReport env kind ref path buffer size w = .ok (x, u)) : Guards ref w x.1 u := by
  unfold getReport at h
  cases buffer with
  | none =>
      cases h
      exact .refused ref w (by decide)
  | some buf =>
      refine guards_of_ok Prod.fst h (by simp) fun hopen h => ?_
      obtain ⟨out, v, ht, h⟩ := state_bind_ok.mp h
      cases h
      exact transferReport_works hopen ht

lemma setReport_guards {kind : ReportKind} {buffer : Option (ℕ → UInt8)} {size : UInt32}
    (h : setReport env kind ref path buffer size w = .ok (ret, u)) : Guards ref w ret u := by
  unfold setReport at h
  cases buffer with
  | none =>
      cases h
      exact .refused ref w (by decide)
  | some buf =>
      refine guards_of_ok id h (by simp) fun hopen h => ?_
      obtain ⟨out, v, ht, h⟩ := state_bind_ok.mp h
      cases h
      exact transferReport_works hopen ht

lemma hidGetItemValue_guards {hasValue : Bool} {x : HidReturn × Option ℤ}
    (h : hidGetItemValue env ref path hasValue w = .ok (x, u)) : Guards ref w x.1 u := by
  exact guards_of_ok Prod.fst h (by simp) fun hopen _ => hidGetItemValue_works hopen h

lemma exchange_guards {call : Exchange} (h : call.run env ref path w = .ok (ret, u)) :
    Guards ref w ret u := by
  cases call with
  | getInputReport buffer size | getFeatureReport buffer size =>
      obtain ⟨b, hb⟩ := map_fst_ok h
      exact getReport_guards hb
  | setOutputReport buffer size | setFeatureReport buffer size => exact setReport_guards h
  | getItemValue hasValue =>
      obtain ⟨b, hb⟩ := map_fst_ok h
      exact hidGetItemValue_guards hb

lemma hidInterruptRead_guards {ep size timeout : UInt32} {bytes : Option (ℕ → UInt8)}
    {x : HidReturn × Option (ℕ → UInt8)}
    (h : hidInterruptRead env ref ep bytes size timeout w = .ok (x, u)) : Guards ref w x.1 u := by
  unfold hidInterruptRead at h
  cases bytes with
  | none =>
      cases h
      exact .refused ref w (by decide)
  | some buf =>
      refine guards_of_ok Prod.fst h (by simp) fun hopen h => ?_
      cases h
      exact .record (notNull_of_open hopen)

lemma hidInterruptWrite_guards {ep size timeout : UInt32} {bytes : Option (ℕ → UInt8)}
    (h : hidInterruptWrite env ref ep bytes size timeout w = .ok (ret, u)) :
    Guards ref w ret u := by
  unfold hidInterruptWrite at h
  cases bytes with
  | none =>
      cases h
      exact .refused ref w (by decide)
  | some buf =>
      refine guards_of_ok id h (by simp) fun hopen h => ?_
      cases h
      exact .record (notNull_of_open hopen)

lemma hidDumpTree_guards {out : Bool} {x : HidReturn × List HIDData}
    (h : hidDumpTree env out ref w = .ok (x, u)) : Guards ref w x.1 u := by
  exact guards_of_ok Prod.fst h (by simp) fun _ _ => hidDumpTree_works h

/-! ## Opening and closing -/

lemma hasHandle_through {h : UsbHandle} {e : Event} (he : e.Through (some h)) : e.HasHandle := by
  cases e with
  | usbControlMsg msg len =>
      have hdev : msg.dev = some h := he
      show msg.dev.isNone = false
      rw [hdev]
      rfl
  | usbClaimInterface dev i | usbDetachKernelDriver dev i =>
      have hdev : dev = some h := he
      rw [hdev]
      rfl
  | _ => cases he

lemma hasHandle_ofSearch {e : Event} (he : e.OfSearch) : e.HasHandle := by
  cases e with
  | usbClaimInterface => exact he
  | usbOpen | matcherFn | usbClose => rfl
  | _ => cases he

lemma hasHandle_freeEvents {a : Option ℕ} {e : Event} (he : e ∈ freeEvents a) : e.HasHandle := by
  cases a with
  | none => cases he
  | some a =>
      rw [List.mem_singleton.mp he]
      rfl

lemma hidClose_hasHandle (h : hidClose env ref w = .ok (ret, u)) : Logs Event.HasHandle w u := by
  obtain ⟨-, -, -, hlog⟩ := hidClose_steps h
  refine ⟨_, hlog, fun e he => ?_⟩
  rcases List.mem_append.mp he with he | he
  · exact hasHandle_freeEvents he
  rcases List.mem_append.mp he with he | he
  · exact hasHandle_freeEvents he
  · cases hx : (w.hidifs ref).devHandle with
    | none =>
        rw [hx] at he
        cases he
    | some x =>
        rw [hx] at he
        rw [List.mem_singleton.mp he]
        rfl

lemma Mallocs.hasHandle {part : Part} (h : Mallocs ref part w u) : Logs Event.HasHandle w u := by
  obtain ⟨b, -, hlog, -⟩ := h.block
  exact .of_cons hlog rfl

lemma hidPrepareInterface_hasHandle {x : UsbHandle} (hx : (w.hidifs ref).devHandle = some x)
    (h : hidPrepareInterface env ref w = .ok (ret, u)) : Logs Event.HasHandle w u := by
  have hopen : (w.hidifs ref).isOpened = true := by
    rw [HIDInterface.isOpened, hx]
    rfl
  obtain ⟨r, v, y, hi, hw, hrest⟩ := hidPrepareInterface_steps hopen h
  have hv : Logs Event.HasHandle w v ∧ (v.hidifs ref).devHandle = some x := by
    obtain ⟨v', hm, ⟨-, rfl⟩ | ⟨hm', -⟩⟩ := hidInitParser_mallocs hopen hi
    · exact ⟨hm.hasHandle, hm.devHandle.trans hx⟩
    · exact ⟨hm.hasHandle.trans hm'.hasHandle, hm'.devHandle.trans (hm.devHandle.trans hx)⟩
  rw [hv.2] at hw
  have hy := hv.1.trans (hw.log.mono fun _ => hasHandle_through)
  rcases hrest with ⟨-, -, rfl⟩ | ⟨-, c, hc⟩
  · exact hy
  · exact hy.trans (hidClose_hasHandle hc)

/-- The calls of an open go through the handle of the device found. -/
lemma openWith_hasHandle {claim : Hid HidReturn} {i : ℤ} {m : HIDInterfaceMatcher}
    (hclaim : ClaimsThrough claim ref) (ho : openWith env claim ref i m w = .ok (ret, u)) :
    Logs Event.HasHandle w u := by
  obtain ⟨r, w₂, hfind, hrest⟩ := openWith_split ho
  have hw₂ : Logs Event.HasHandle w w₂ :=
    ((Browses.atInterface w ref i).trans (hidFindUsbDevice_browses hfind)).log.mono
      fun _ => hasHandle_ofSearch
  rcases hrest with ⟨-, -, rfl⟩ | ⟨rfl, c, w₃, hc, hrest⟩
  · exact hw₂.trans (.of_eq _ rfl)
  · obtain ⟨x, hx⟩ := hidFindUsbDevice_devHandle hfind
    have hworks := hclaim hc
    rw [hx] at hworks
    have hw₃ := hw₂.trans (hworks.log.mono fun _ => hasHandle_through)
    rcases hrest with ⟨-, -, y, hy⟩ | ⟨w₄, hp, rfl⟩
    · exact hw₃.trans (hidClose_hasHandle hy)
    · have hw₄ := hw₃.trans (hidPrepareInterface_hasHandle (hworks.devHandle.trans hx) hp)
      split_ifs
      · exact hw₄.trans (.of_eq _ rfl)
      · exact hw₄

lemma call_hasHandle {call : Call} (h : call.run env w = .ok (ret, u)) :
    Logs Event.HasHandle w u := by
  rcases run_cases h with ⟨ref, rfl, hc⟩ | ⟨-, ⟨-, rfl⟩ | hopen⟩
  · exact hidClose_hasHandle hc
  · exact .of_eq _ rfl
  · obtain ⟨ref, i, m, claim, -, -, -, hclaim, ho⟩ := hopen
    exact openWith_hasHandle hclaim ho

/-! ## `hid_set_idle` -/

/-- Within its ranges `hid_set_idle` makes its transfer whatever the state of the interface. -/
lemma hidSetIdle_run (env : Env) (ref : Ref) (w : World) {duration reportId : UInt32}
    (hd : duration ≤ 255) (hr : reportId ≤ 255) :
    ∃ ret len, hidSetIdle env ref duration reportId w = .ok (ret, w.record
      (.usbControlMsg (setIdleMessage (w.hidifs ref) duration reportId) len)) := by
  unfold hidSetIdle
  rw [if_neg (UInt32.not_lt.mpr hd), if_neg (UInt32.not_lt.mpr hr)]
  exact ⟨_, _, rfl⟩

lemma hidSetIdle_range {duration reportId : UInt32} (hrange : ¬ (duration ≤ 255 ∧ reportId ≤ 255))
    (h : hidSetIdle env ref duration reportId w = .ok (ret, u)) :
    ret = .invalidParameter ∧ u = w := by
  unfold hidSetIdle at h
  split_ifs at h with hd hr
  · cases h
    exact ⟨rfl, rfl⟩
  · cases h
    exact ⟨rfl, rfl⟩
  · exact absurd ⟨UInt32.not_lt.mp hd, UInt32.not_lt.mp hr⟩ hrange

/-! ## Runs -/

/-- What a call does that is not a `hid_set_idle` on a closed interface. -/
lemma run_guards {call : PublicCall} (hok : SetIdleOpen call w)
    (h : call.run env w = .ok (ret, u)) :
    Logs Event.NotNull w u ∧ ∀ ref, call.uses = some ref →
      (w.hidifs ref).isOpened = false → ret ≠ .success := by
  have hguards : ∀ ref, call.uses = some ref → Guards ref w ret u →
      Logs Event.NotNull w u ∧ ∀ ref, call.uses = some ref →
        (w.hidifs ref).isOpened = false → ret ≠ .success := by
    intro ref href hg
    refine ⟨hg.works.log, fun ref' href' => ?_⟩
    rw [href] at href'
    cases href'
    exact hg.refuses
  cases call with
  | lifecycle call =>
      exact ⟨(call_hasHandle h).mono fun _ => Event.HasHandle.notNull, fun _ href => by cases href⟩
  | exchange call ref path => exact hguards ref rfl (exchange_guards h)
  | hidInterruptRead ref ep bytes size timeout =>
      obtain ⟨b, hb⟩ := map_fst_ok h
      exact hguards ref rfl (hidInterruptRead_guards hb)
  | hidInterruptWrite ref ep bytes size timeout =>
      exact hguards ref rfl (hidInterruptWrite_guards h)
  | hidDumpTree out ref =>
      obtain ⟨b, hb⟩ := map_fst_ok h
      exact hguards ref rfl (hidDumpTree_guards hb)
  | hidSetIdle ref duration reportId =>
      refine hguards ref rfl ?_
      by_cases hrange : duration ≤ 255 ∧ reportId ≤ 255
      · have hopen : (w.hidifs ref).isOpened = true := hok hrange.1 hrange.2
        obtain ⟨r, len, hrun⟩ := hidSetIdle_run env ref w hrange.1 hrange.2
        rw [show PublicCall.run env (.hidSetIdle ref duration reportId) w = _ from hrun] at h
        cases h
        exact .opened hopen (.record (notNull_of_open hopen))
      · obtain ⟨rfl, rfl⟩ := hidSetIdle_range hrange h
        exact .refused ref u (by decide)

/-- The request that `hid_set_idle` makes. -/
def Event.IsSetIdle (e : Event) : Prop :=
  ∃ hidif duration reportId len, e = .usbControlMsg (setIdleMessage hidif duration reportId) len

/-- A `hid_set_idle` on a closed interface makes a transfer through `NULL`. -/
lemma setIdle_onNull {call : PublicCall} (hbad : ¬ SetIdleOpen call w)
    (h : call.run env w = .ok (ret, u)) :
    ∃ e, u = w.record e ∧ e.onNull = true ∧ e.IsSetIdle := by
  cases call with
  | hidSetIdle ref duration reportId =>
      obtain ⟨hd, hbad⟩ := Classical.not_imp.mp hbad
      obtain ⟨hr, hclosed⟩ := Classical.not_imp.mp hbad
      obtain ⟨r, len, hrun⟩ := hidSetIdle_run env ref w hd hr
      rw [show PublicCall.run env (.hidSetIdle ref duration reportId) w = _ from hrun] at h
      cases h
      refine ⟨_, rfl, ?_, _, _, _, _, rfl⟩
      have hnone : (w.hidifs ref).devHandle.isSome = false := by
        simpa [HIDInterface.isOpened] using hclosed
      simpa [Event.onNull, setIdleMessage] using hnone
  | _ => exact absurd trivial hbad

end Functions

/-- **No transfer goes through a `NULL` handle, and calls on closed interfaces return errors,
exactly when every `hid_set_idle` within its ranges is made on an open interface.** -/
theorem transfersGuarded_iff {env : Env} {calls : List PublicCall} {initialised : Bool}
    {garbage : Ref → HIDInterface} {rets : List HidReturn} {w : World}
    (h : runPublic env calls (World.start initialised garbage) = .ok (rets, w)) :
    (NoNullTransfer w ∧ Along (fun call => call.run env) (RefusesClosed env) calls
      (World.start initialised garbage)) ↔
    Along (fun call => call.run env) SetIdleOpen calls (World.start initialised garbage) := by
  unfold runPublic at h
  have hback : ∀ ⦃s t : World⦄ ⦃c : PublicCall⦄ ⦃r : HidReturn⦄, c.run env s = .ok (r, t) →
      NoNullTransfer t → NoNullTransfer s := by
    intro s t c r hc ht e he
    by_cases hok : SetIdleOpen c s
    · obtain ⟨es, hes, -⟩ := (run_guards hok hc).1
      exact ht e (hes ▸ List.mem_append_right es he)
    · obtain ⟨e', rfl, -, -⟩ := setIdle_onNull hok hc
      exact ht e (List.mem_cons_of_mem e' he)
  have hiff := invariant_iff_along (I := NoNullTransfer) (P := SetIdleOpen) ?_ hback
    (fun _ he => absurd he List.not_mem_nil) h
  · constructor
    · exact fun hboth => hiff.mp hboth.1
    · intro halong
      refine ⟨hiff.mpr halong, halong.imp fun c s hok => ?_⟩
      intro ref href hclosed ret u hrun
      exact (run_guards hok hrun).2 ref href hclosed
  · -- a call keeps the log free of such transfers exactly when it meets the condition
    intro s t c r hc hs
    constructor
    · intro ht
      by_contra hbad
      obtain ⟨e, rfl, he, -⟩ := setIdle_onNull hbad hc
      have hfalse := ht e List.mem_cons_self
      rw [he] at hfalse
      cases hfalse
    · exact fun hok => (run_guards hok hc).1.forall_mem hs

instance : (call : PublicCall) → (w : World) → Decidable (SetIdleOpen call w)
  | .hidSetIdle _ _ _, _ => inferInstanceAs (Decidable (_ → _ → _))
  | .lifecycle _, _ | .exchange _ _ _, _ | .hidInterruptRead _ _ _ _ _, _
  | .hidInterruptWrite _ _ _ _ _, _ | .hidDumpTree _ _, _ => .isTrue trivial

/-- `transfersGuarded_iff` for a run that opens an interface, sets its idle rate, closes it and
then asks for a report. -/
theorem transfersGuarded_iff_bench : ∃ rets w,
    runPublic (bench [benchDevice 4]) [.lifecycle (benchOpen 0 0), .hidSetIdle 0 0 0,
      .lifecycle (.hidClose 0), .exchange (.getItemValue true) 0 [0x00010001]] benchStart =
      .ok (rets, w) ∧ rets = [.success, .failGetReport, .success, .deviceNotOpened] ∧
    NoNullTransfer w := by
  have hrun : endsWith (fun rets _ =>
      rets == [.success, .failGetReport, .success, .deviceNotOpened])
      (runPublic (bench [benchDevice 4]) [.lifecycle (benchOpen 0 0), .hidSetIdle 0 0 0,
        .lifecycle (.hidClose 0), .exchange (.getItemValue true) 0 [0x00010001]] benchStart) =
      true := by
    decide +kernel
  obtain ⟨rets, w, h, hp⟩ := exists_of_endsWith hrun
  exact ⟨rets, w, h, by simpa using hp, ((transfersGuarded_iff h).mpr (by decide +kernel)).1⟩

/-- Not every run is free of transfers through `NULL`: `hid_set_idle` makes one on an interface
that was never opened. -/
theorem transfersGuarded_fails : ¬ ∀ (env : Env) (calls : List PublicCall) (initialised : Bool)
    (garbage : Ref → HIDInterface) (rets : List HidReturn) (w : World),
    runPublic env calls (World.start initialised garbage) = .ok (rets, w) →
    NoNullTransfer w ∧ Along (fun call => call.run env) (RefusesClosed env) calls
      (World.start initialised garbage) := by
  intro hall
  have hrun : endsWith (fun _ w => w.log.any Event.onNull)
      (runPublic (bench []) [.hidSetIdle 0 0 0] benchStart) = true := by
    decide +kernel
  obtain ⟨rets, w, h, hp⟩ := exists_of_endsWith hrun
  obtain ⟨e, he, hnull⟩ := List.any_eq_true.mp hp
  have hno := (hall _ _ _ _ _ _ h).1 e he
  rw [hnull] at hno
  cases hno

end Libhid
