import Libhid.Device.RawDump
import Libhid.Device.Matching
import Libhid.Device.Safety

/-!
# A client of the library (`src/libhid-detach-device.c`)

`libhid-detach-device` takes the IDs of a device from its argument, opens the device by force, so
that its kernel driver is detached, and closes it again.  The IDs are copied to arrays without a
zero behind them: whether the program has a defined behaviour at all depends on what the stack held
before (`detachMain_returns_iff`).  Whenever it has, it ends with every interface closed, and keeps
no block but the interface it could not go on with (`detachMain_leaves`).
-/

namespace Libhid

open Framework

/-! ## The arguments -/

/-- Where the program has no defined behaviour. -/
inductive Undefined
  /-- `strtol` reads behind the end of an array. -/
  | array
  /-- A call of the library stops. -/
  | library (stop : Stop)

/-- `strtol` behind the prefix `0x`, with the number read so far. -/
def strtolHex : ℕ → List UInt8 → Except Undefined ℕ
  | _, [] => .error .array
  | n, c :: text =>
      match hexDigitValue c with
      | some d => strtolHex (16 * n + d) text
      | none => .ok n

/-- An ID: `strncpy` copies its characters to an array and does not write the last byte of it. -/
def idOf (chars : List UInt8) (behind : UInt8) : Except Undefined UInt16 := do
  let n ← strtolHex 0 (chars ++ [behind])
  .ok (UInt16.ofNat n)

/-! ## `main` -/

/-- A call of the library; if it does not succeed, `main` returns 1. -/
def orExit (env : Env) (call : LibraryCall) (next : Library → Except Stop (ℕ × Library))
    (l : Library) : Except Stop (ℕ × Library) := do
  let (ret, l) ← call.step env l
  if ret = .status .success then next l else .ok (1, l)

section Main

variable (env : Env)

/-- `main` on the interface it was given. -/
def detachInterface (m : HIDInterfaceMatcher) (hid : Ref) : Library → Except Stop (ℕ × Library) :=
  orExit env (.onInterface (.lifecycle (.hidForceOpen (some hid) 0 (some m) 3))) <|
  orExit env (.onInterface (.lifecycle (.hidClose hid))) fun l => do
    let (_, l) ← (LibraryCall.hidDeleteHIDInterface (some hid)).step env l
    orExit env .hidCleanup (fun l => .ok (0, l)) l

/-- `main` with the IDs, given what `usb_find_busses` and `usb_find_devices` return. -/
def detachDevice (m : HIDInterfaceMatcher) (usbFindBusses usbFindDevices : ℤ) :
    Library → Except Stop (ℕ × Library) :=
  orExit env (.hidInit usbFindBusses usbFindDevices) fun l => do
    let (ret, l) ← LibraryCall.hidNewHIDInterface.step env l
    match ret with
    | .pointer (some hid) => detachInterface env m hid l
    | _ => .ok (1, l)

/-- `main`, with the exit code; `behind` is what the last bytes of the two arrays held before. -/
def detachMain (argp : List (List UInt8)) (behind : UInt8 × UInt8)
    (usbFindBusses usbFindDevices : ℤ) (l : Library) : Except Undefined (ℕ × Library) :=
  match argp with
  | [_, arg] =>
      if arg.length = 9 then do
        let vendorId ← idOf (arg.take 4) behind.1
        let productId ← idOf (arg.drop 5) behind.2
        (detachDevice env ⟨vendorId, productId, none⟩ usbFindBusses usbFindDevices l).mapError
          .library
      else .ok (255, l)
  | _ => .ok (255, l)

end Main

/-! ## The IDs -/

/-- The characters are digits, and so is the byte behind them: nothing ends the number. -/
def Unterminated (chars : List UInt8) (behind : UInt8) : Prop :=
  ∀ c ∈ chars ++ [behind], (hexDigitValue c).isSome

instance (chars : List UInt8) (behind : UInt8) : Decidable (Unterminated chars behind) :=
  List.decidableBAll _ _

section Ids

variable {chars : List UInt8} {behind : UInt8}

lemma strtolHex_error {n : ℕ} {text : List UInt8} :
    (∃ m, strtolHex n text = .ok m) ↔ ¬ ∀ c ∈ text, (hexDigitValue c).isSome := by
  induction text generalizing n with
  | nil => simp [strtolHex]
  | cons c text ih =>
      rw [strtolHex, List.forall_mem_cons]
      cases hexDigitValue c with
      | none => simp
      | some d => simpa using ih

/-- An ID is read if something ends it. -/
lemma idOf_ok_iff : (∃ id, idOf chars behind = .ok id) ↔ ¬ Unterminated chars behind := by
  rw [Unterminated, ← strtolHex_error (n := 0), idOf]
  cases strtolHex 0 (chars ++ [behind]) with
  | error e => simp [bind, Except.bind]
  | ok n => simp [bind, Except.bind]

/-- Four digits that are ended are read as their number. -/
lemma strtolHex_append {n v : ℕ} (h : hexValue n chars = some v) (text : List UInt8) :
    strtolHex n (chars ++ text) = strtolHex v text := by
  induction chars generalizing n with
  | nil =>
      cases h
      rfl
  | cons c chars ih =>
      rw [hexValue] at h
      rw [List.cons_append, strtolHex]
      cases hc : hexDigitValue c with
      | none =>
          rw [hc] at h
          cases h
      | some d =>
          rw [hc] at h
          exact ih h

lemma idOf_digits {v : ℕ} {id : UInt16} (h : hexValue 0 chars = some v)
    (hid : idOf chars behind = .ok id) : id = UInt16.ofNat v := by
  rw [idOf, strtolHex_append h, strtolHex] at hid
  cases hb : hexDigitValue behind with
  | none =>
      rw [hb] at hid
      cases hid
      rfl
  | some d =>
      rw [hb] at hid
      cases hid

end Ids

/-! ## Runs of `main` -/

section Runs

variable {env : Env} {l l' : Library} {call : LibraryCall} {ret : LibraryReturn} {code : ℕ}
  {next : Library → Except Stop (ℕ × Library)} {m : HIDInterfaceMatcher} {hid : Ref}
  {busses devices : ℤ}

/-- A call either succeeds, and `main` goes on, or ends it. -/
lemma orExit_ok (h : orExit env call next l = .ok (code, l')) : ∃ ret k,
    call.step env l = .ok (ret, k) ∧
      ((ret = .status .success ∧ next k = .ok (code, l')) ∨
        (ret ≠ .status .success ∧ code = 1 ∧ l' = k)) := by
  unfold orExit at h
  rcases hstep : call.step env l with e | ⟨ret, k⟩ <;> rw [hstep] at h
  · cases h
  · refine ⟨ret, k, rfl, ?_⟩
    by_cases hr : ret = .status .success
    · exact .inl ⟨hr, (if_pos hr).symm.trans h⟩
    · have h := (if_neg hr).symm.trans h
      cases h
      exact .inr ⟨hr, rfl, rfl⟩

/-- `main` goes on to its end if every call can be made. -/
lemma orExit_returns (hcall : ∃ ret k, call.step env l = .ok (ret, k))
    (hnext : ∀ k, call.step env l = .ok (.status .success, k) → ∃ out, next k = .ok out) :
    ∃ out, orExit env call next l = .ok out := by
  obtain ⟨ret, k, hstep⟩ := hcall
  by_cases hr : ret = .status .success
  · subst hr
    obtain ⟨out, hout⟩ := hnext k hstep
    exact ⟨out, by rw [orExit, hstep]; exact hout⟩
  · exact ⟨(1, k), by rw [orExit, hstep]; exact if_neg hr⟩

/-! ### Every call can be made -/

/-- The interface is closed, whatever `usb_close` returns. -/
lemma hidClose_closes
    (hstep : (LibraryCall.onInterface (.lifecycle (.hidClose hid))).step env l = .ok (ret, l')) :
    (l'.world.hidifs hid).devHandle = none ∧
    (∀ ref, ref ≠ hid → l'.world.hidifs ref = l.world.hidifs ref) ∧ ∃ es,
      l'.world.log = es ++ (closeEvents (l.world.hidifs hid).devHandle ++ l.world.log) := by
  obtain ⟨r, hr, rfl⟩ := map_ok (step_run hstep).1
  have hc := hidClose_ok (show hidClose env hid l.world = .ok (r, l'.world) from hr)
  obtain ⟨es, hes, -⟩ := hc.log
  refine ⟨?_, fun ref hne => ?_, es, hes⟩
  · rw [hc.hidifs, Function.update_self]
    rfl
  · rw [hc.hidifs, Function.update_of_ne hne]

/-- The program calls the library properly: with the interface that it was given, and deletes it
when it is closed. -/
lemma detachInterface_returns (hsafe : env.DescriptorsSafe) (h : l.Usable env)
    (hhid : hid ∈ l.allocated) : ∃ out, detachInterface env m hid l = .ok out := by
  have hproper : ∀ {l : Library} {call : Call}, hid ∈ l.allocated → call.target = some hid →
      (LibraryCall.onInterface (.lifecycle call)).Proper env l := by
    intro l call hmem htarget
    refine ⟨fun ref href => ?_, .of_none rfl, fun c hc => by cases hc; trivial⟩
    rw [show (LibraryCall.onInterface (.lifecycle call)).designates = call.target from rfl,
      htarget] at href
    cases href
    exact hmem
  refine orExit_returns (h.returns hsafe (hproper hhid rfl)) fun l₁ h₁ => ?_
  have hu₁ := h.step hsafe (.of_none rfl) h₁
  have hmem₁ : hid ∈ l₁.allocated := by rwa [(step_run h₁).2]
  refine orExit_returns (hu₁.returns hsafe (hproper hmem₁ rfl)) fun l₂ h₂ => ?_
  have hu₂ := hu₁.step hsafe (.of_none rfl) h₂
  have hmem₂ : hid ∈ l₂.allocated := by rwa [(step_run h₂).2]
  have hclosed : DropsClosed (.hidDeleteHIDInterface (some hid)) l₂ := by
    rintro _ ⟨⟩
    exact (hidClose_closes h₂).1
  have hdelete : (LibraryCall.hidDeleteHIDInterface (some hid)).Proper env l₂ :=
    ⟨fun ref href => by cases href; exact hmem₂, hclosed, fun _ hc => by cases hc⟩
  obtain ⟨ret, l₃, h₃⟩ := hu₂.returns hsafe hdelete
  have hcleanup : LibraryCall.hidCleanup.Proper env l₃ :=
    ⟨fun ref href => (by cases href), .of_none rfl, fun c hc => (by cases hc)⟩
  obtain ⟨out, hout⟩ : ∃ out, orExit env .hidCleanup (fun l => .ok (0, l)) l₃ = .ok out :=
    orExit_returns ((hu₂.step hsafe hclosed h₃).returns hsafe hcleanup) fun k _ => ⟨(0, k), rfl⟩
  refine ⟨out, ?_⟩
  rw [h₃]
  exact hout

lemma detachDevice_returns (hsafe : env.DescriptorsSafe) (h : l.Usable env) :
    ∃ out, detachDevice env m busses devices l = .ok out := by
  have hproper : ∀ {l : Library} {call : LibraryCall}, call.designates = none →
      (∀ c, call ≠ .onInterface c) → call.Proper env l := by
    intro l call hnone hne
    refine ⟨fun ref href => ?_, .of_designates hnone, fun c hc => absurd hc (hne c)⟩
    rw [hnone] at href
    cases href
  refine orExit_returns (h.returns hsafe (hproper rfl (by simp))) fun l₁ h₁ => ?_
  have hu₁ := h.step hsafe (.of_none rfl) h₁
  have hnew : LibraryCall.hidNewHIDInterface.Proper env l₁ := hproper rfl (by simp)
  obtain ⟨ret, l₂, h₂⟩ := hu₁.returns hsafe hnew
  rw [h₂]
  have halloc := (step_run h₂).2
  match ret, halloc with
  | .pointer (some hid), halloc =>
      exact detachInterface_returns hsafe (hu₁.step hsafe (.of_none rfl) h₂)
        (by rw [halloc]; exact List.mem_cons_self)
  | .pointer none, _ => exact ⟨(1, l₂), rfl⟩
  | .status _, _ => exact ⟨(1, l₂), rfl⟩
  | .done, _ => exact ⟨(1, l₂), rfl⟩

/-! ### What is left behind -/

/-- A library in order, with the interfaces that may be open and those that are allocated. -/
structure Library.Holding (l : Library) (opened allocated : List Ref) : Prop where
  tidy : l.Tidy
  opened : ∀ ref, (l.world.hidifs ref).devHandle.isSome → ref ∈ opened
  allocated : l.allocated = allocated

namespace Library.Holding

variable {opened allocated : List Ref} {r : HidReturn}

lemma start (garbage : Ref → HIDInterface) : (Library.start garbage).Holding [] [] :=
  ⟨.start garbage, fun _ h => (by cases h), rfl⟩

lemma closed (h : l.Holding [] allocated) (ref : Ref) :
    (l.world.hidifs ref).devHandle = none := by
  by_contra hopen
  cases h.opened ref (Option.isSome_iff_ne_none.mpr hopen)

/-- A call that designates no interface opens none. -/
lemma quietStep (h : l.Holding opened allocated) (hnone : call.designates = none)
    (hstep : call.step env l = .ok (ret, l')) :
    l'.Holding opened (stillAllocated allocated call ret) := by
  refine ⟨h.tidy.step (.of_designates hnone) hstep, fun ref hopen => ?_,
    by rw [(step_run hstep).2, h.allocated]⟩
  cases step_made hstep with
  | initialised | outOfMemory => exact h.opened ref hopen
  | created =>
      by_cases hr : ref = l.world.log.length
      · rw [hr, World.write_same] at hopen
        cases hopen
      · rw [World.write_other _ _ _ hr] at hopen
        exact h.opened ref hopen
  | deleted | reset => cases hnone
  | @onInterface c r u hdes hrun =>
      by_cases hd : c.designates = some ref
      · rw [show c.designates = none from hnone] at hd
        cases hd
      · change (u.hidifs ref).devHandle.isSome = true at hopen
        rw [PublicCall.others hd hrun] at hopen
        exact h.opened ref hopen

/-- The interface is opened, with a device that has the bits of the IDs, or stays closed. -/
lemma openStep (h : l.Holding [] allocated) {i : ℤ} {retries : UInt16}
    (hstep : (LibraryCall.onInterface (.lifecycle (.hidForceOpen (some hid) i (some m)
      retries))).step env l = .ok (ret, l')) :
    (ret = .status .success ∧ l'.Holding [hid] allocated ∧ ∃ x custom,
      (l'.world.hidifs hid).devHandle = some x ∧ matchFlags env x m custom = usbMatchAll) ∨
    (ret ≠ .status .success ∧ l'.Holding [] allocated) := by
  obtain ⟨hrun, halloc⟩ := step_run hstep
  obtain ⟨r, hr, rfl⟩ := map_ok hrun
  have hkept : ∀ ref, ref ≠ hid → (l'.world.hidifs ref).devHandle = none := by
    intro ref hne
    have hd : (PublicCall.lifecycle (.hidForceOpen (some hid) i (some m) retries)).designates ≠
        some ref := fun hd => hne (Option.some.inj hd).symm
    rw [@PublicCall.others env ref _ _ _ (.lifecycle _) hd hr, h.closed]
  have hholding : ∀ opened, (hid ∈ opened ∨ (l'.world.hidifs hid).devHandle = none) →
      l'.Holding opened allocated := by
    intro opened hhid
    refine ⟨h.tidy.step (.of_none rfl) hstep, fun ref hopen => ?_, halloc.trans h.allocated⟩
    by_cases hr : ref = hid
    · subst hr
      rcases hhid with hmem | hnone
      · exact hmem
      · rw [hnone] at hopen
        cases hopen
    · rw [hkept ref hr] at hopen
      cases hopen
  rcases @run_cases env _ _ _ (.hidForceOpen (some hid) i (some m) retries) hr with
    ⟨_, hclose, -⟩ | ⟨-, ⟨hne, hworld⟩ | ⟨_, _, _, _, hc, -, -, hclaim, ho⟩⟩
  · cases hclose
  · refine .inr ⟨fun hs => hne (LibraryReturn.status.inj hs), hholding _ (.inr ?_)⟩
    rw [hworld, h.closed]
  · cases hc
    rcases openWith_ok hclaim.claims ho with ⟨rfl, hopens⟩ | ⟨hne, hf⟩
    · obtain ⟨x, custom, hx, -, hm, -⟩ := hopens.handle
      exact .inl ⟨rfl, hholding _ (.inl List.mem_cons_self), x, custom, hx, hm⟩
    · refine .inr ⟨fun hs => hne (LibraryReturn.status.inj hs), hholding _ (.inr ?_)⟩
      rcases hf.outcome with ⟨-, hdev, -⟩ | ⟨-, hclosed⟩
      · exact hdev
      · rw [hclosed]
        rfl

/-- No interface is open any more. -/
lemma closeStep (h : l.Holding [hid] allocated)
    (hstep : (LibraryCall.onInterface (.lifecycle (.hidClose hid))).step env l = .ok (ret, l')) :
    l'.Holding [] allocated ∧ ∃ es,
      l'.world.log = es ++ (closeEvents (l.world.hidifs hid).devHandle ++ l.world.log) := by
  obtain ⟨-, halloc⟩ := step_run hstep
  obtain ⟨r, -, rfl⟩ := map_ok (step_run hstep).1
  obtain ⟨hclosed, hothers, hlog⟩ := hidClose_closes hstep
  refine ⟨⟨h.tidy.step (.of_none rfl) hstep, fun ref hopen => ?_, halloc.trans h.allocated⟩, hlog⟩
  by_cases hr : ref = hid
  · rw [hr, hclosed] at hopen
    cases hopen
  · rw [hothers ref hr] at hopen
    exact absurd (List.mem_singleton.mp (h.opened ref hopen)) hr

/-- The block of the interface is freed. -/
lemma deleteStep (h : l.Holding [] [hid])
    (hstep : (LibraryCall.hidDeleteHIDInterface (some hid)).step env l = .ok (ret, l')) :
    l'.Holding [] [] ∧ l'.world.log = .free hid :: l.world.log := by
  have hclosed : DropsClosed (.hidDeleteHIDInterface (some hid)) l := fun ref _ => h.closed ref
  have heq : l'.world = (l.world.record (.free hid)).forget hid := by
    cases step_made hstep with
    | initialised hnone => cases hnone
    | deleted => rfl
  refine ⟨⟨h.tidy.step hclosed hstep, fun ref hopen => ?_, ?_⟩, by rw [heq]; rfl⟩
  · rw [heq] at hopen
    change ((l.world.write hid closedInterface).hidifs ref).devHandle.isSome = true at hopen
    rw [write_closed_devHandle, h.closed, ite_self] at hopen
    cases hopen
  · rw [(step_run hstep).2, h.allocated]
    simp [stillAllocated]

/-- With no interface open, the list is empty and every block is that of an interface. -/
lemma ended (h : l.Holding [] allocated) : (∀ ref, (l.world.hidifs ref).devHandle = none) ∧
    l.world.openHidDeviceList.nDevices = 0 ∧
    ∀ a, (a ∈ blocks.acquisitions l.world.log ∧ a ∉ blocks.releases l.world.log) ↔
      a ∈ allocated := by
  refine ⟨h.closed, ?_, fun a => ?_⟩
  · obtain ⟨opened, hlife⟩ := h.tidy.lifecycle
    obtain ⟨rs, hrs, hsub⟩ := hlife.listed
    rw [hrs.nDevices, List.length_eq_zero_iff, List.eq_nil_iff_forall_not_mem]
    intro ref href
    exact hlife.not_mem (h.closed ref) (hsub.subset href)
  · rw [h.tidy.orderly.accounted_iff.mpr rfl a, h.allocated]
    refine or_iff_left ?_
    rintro ⟨ref, -, part, hpart⟩
    rw [h.tidy.orderly.whole.no_blocks (h.closed ref)] at hpart
    cases hpart

end Library.Holding

/-- What a run of `main` on the library leaves. -/
structure Leaves (env : Env) (m : HIDInterfaceMatcher) (code : ℕ) (l : Library) : Prop where
  holding : ∃ allocated, l.Holding [] allocated ∧ allocated.length ≤ 1
  detached : code = 0 → l.allocated = [] ∧ l.world.initialised = false ∧
    ∃ x custom, .usbClose x ∈ l.world.log ∧ matchFlags env x m custom = usbMatchAll

lemma hidCleanup_success {w u : World} (h : hidCleanup w = .ok (.success, u)) :
    u = { w with initialised := false } := by
  simp only [hidCleanup, hidIsInitialised_bind] at h
  split_ifs at h
  · cases h
  · cases h
    rfl

lemma detachInterface_leaves (h : l.Holding [] [hid])
    (hrun : detachInterface env m hid l = .ok (code, l')) : Leaves env m code l' := by
  obtain ⟨ret, k₁, h₁, hrest⟩ := orExit_ok hrun
  rcases h.openStep h₁ with ⟨rfl, hk₁, x, custom, hx, hm⟩ | ⟨hne, hk₁⟩
  swap
  · rcases hrest with ⟨hr, -⟩ | ⟨-, rfl, rfl⟩
    · exact absurd hr hne
    · exact ⟨⟨_, hk₁, Nat.le_refl 1⟩, fun hc => by cases hc⟩
  rcases hrest with ⟨-, hrest⟩ | ⟨hne, -⟩
  swap
  · exact absurd rfl hne
  obtain ⟨ret, k₂, h₂, hrest⟩ := orExit_ok hrest
  obtain ⟨hk₂, es, hes⟩ := hk₁.closeStep h₂
  rcases hrest with ⟨rfl, hrest⟩ | ⟨-, rfl, rfl⟩
  swap
  · exact ⟨⟨_, hk₂, Nat.le_refl 1⟩, fun hc => by cases hc⟩
  rcases h₃ : (LibraryCall.hidDeleteHIDInterface (some hid)).step env k₂ with e | ⟨ret, k₃⟩ <;>
    rw [h₃] at hrest
  · cases hrest
  obtain ⟨hk₃, hlog⟩ := hk₂.deleteStep h₃
  change orExit env .hidCleanup (fun l => .ok (0, l)) k₃ = _ at hrest
  obtain ⟨ret', k₄, h₄, hrest⟩ := orExit_ok hrest
  have hk₄ := hk₃.quietStep rfl h₄
  have hclosed : .usbClose x ∈ k₂.world.log := by
    rw [hes, hx]
    exact List.mem_append_right _ List.mem_cons_self
  rcases hrest with ⟨rfl, hrest⟩ | ⟨-, rfl, rfl⟩
  · cases hrest
    obtain ⟨r, hr, hret⟩ := map_ok (step_run h₄).1
    cases hret
    have hworld := hidCleanup_success hr
    refine ⟨⟨_, hk₄, Nat.zero_le 1⟩, fun _ => ⟨hk₄.allocated, by rw [hworld], x, custom, ?_, hm⟩⟩
    rw [hworld]
    show .usbClose x ∈ k₃.world.log
    rw [hlog]
    exact List.mem_cons_of_mem _ hclosed
  · refine ⟨⟨_, hk₄, ?_⟩, fun hc => by cases hc⟩
    obtain ⟨r, -, rfl⟩ := map_ok (step_run h₄).1
    exact Nat.zero_le 1

lemma detachDevice_leaves {garbage : Ref → HIDInterface}
    (hrun : detachDevice env m busses devices (Library.start garbage) = .ok (code, l)) :
    Leaves env m code l := by
  obtain ⟨ret, k₁, h₁, hrest⟩ := orExit_ok hrun
  have hk₁ := (Library.Holding.start garbage).quietStep rfl h₁
  obtain ⟨r, -, rfl⟩ := map_ok (step_run h₁).1
  rcases hrest with ⟨-, hrest⟩ | ⟨-, rfl, rfl⟩
  swap
  · exact ⟨⟨_, hk₁, Nat.zero_le 1⟩, fun hc => by cases hc⟩
  rcases h₂ : LibraryCall.hidNewHIDInterface.step env k₁ with e | ⟨ret, k₂⟩ <;> rw [h₂] at hrest
  · cases hrest
  have hk₂ := hk₁.quietStep rfl h₂
  obtain ⟨hid, -, rfl⟩ := map_ok (step_run h₂).1
  cases hid with
  | none =>
      cases hrest
      exact ⟨⟨_, hk₂, Nat.zero_le 1⟩, fun hc => by cases hc⟩
  | some hid => exact detachInterface_leaves hk₂ hrest

end Runs

/-! ## The program -/

section Program

variable {env : Env} {argp : List (List UInt8)} {behind : UInt8 × UInt8} {busses devices : ℤ}
  {garbage : Ref → HIDInterface}

/-- `main` with an argument of the right length reads two IDs from it. -/
lemma detachMain_ok_iff {name arg : List UInt8} {l : Library} {out : ℕ × Library}
    (hlen : arg.length = 9) : detachMain env [name, arg] behind busses devices l = .ok out ↔
      ∃ vendorId productId, idOf (arg.take 4) behind.1 = .ok vendorId ∧
        idOf (arg.drop 5) behind.2 = .ok productId ∧
        detachDevice env ⟨vendorId, productId, none⟩ busses devices l = .ok out := by
  have hmain : detachMain env [name, arg] behind busses devices l =
      (idOf (arg.take 4) behind.1).bind fun vendorId =>
      (idOf (arg.drop 5) behind.2).bind fun productId =>
      (detachDevice env ⟨vendorId, productId, none⟩ busses devices l).mapError
        Undefined.library := if_pos hlen
  rw [hmain]
  cases idOf (arg.take 4) behind.1 with
  | error e => simp [Except.bind]
  | ok vendorId =>
      cases idOf (arg.drop 5) behind.2 with
      | error e => simp [Except.bind]
      | ok productId =>
          cases hdetach : detachDevice env ⟨vendorId, productId, none⟩ busses devices l with
          | error e => simp [Except.bind, Except.mapError, hdetach]
          | ok out' => simp [Except.bind, Except.mapError, hdetach]

/-- `main` without an argument of the right length. -/
lemma detachMain_usage (h : ∀ name arg, argp = [name, arg] → arg.length ≠ 9) (l : Library) :
    detachMain env argp behind busses devices l = .ok (255, l) := by
  unfold detachMain
  split
  · next name arg => exact if_neg (h name arg rfl)
  · rfl

/-- **The program has a defined behaviour if and only if something ends its numbers**, where the
descriptors are safe to parse: with four digits in an ID, that is the byte behind them, which is
never written.  And then it asks the library for the numbers in its argument. -/
theorem detachMain_returns_iff (hsafe : env.DescriptorsSafe) :
    ((∃ out, detachMain env argp behind busses devices (Library.start garbage) = .ok out) ↔
      ∀ name arg, argp = [name, arg] → arg.length = 9 →
        ¬ Unterminated (arg.take 4) behind.1 ∧ ¬ Unterminated (arg.drop 5) behind.2) ∧
    ∀ name arg v p out, argp = [name, arg] → hexValue 0 (arg.take 4) = some v →
      hexValue 0 (arg.drop 5) = some p → arg.length = 9 →
      detachMain env argp behind busses devices (Library.start garbage) = .ok out →
      detachDevice env ⟨UInt16.ofNat v, UInt16.ofNat p, none⟩ busses devices
        (Library.start garbage) = .ok out := by
  have hstart : (Library.start garbage).Usable env := ⟨.start garbage, fun _ => .closed rfl⟩
  constructor
  · by_cases harg : ∃ name arg, argp = [name, arg] ∧ arg.length = 9
    · obtain ⟨name, arg, rfl, hlen⟩ := harg
      constructor
      · rintro ⟨out, hout⟩ name' arg' heq -
        cases heq
        obtain ⟨vendorId, productId, hv, hp, -⟩ := (detachMain_ok_iff hlen).mp hout
        exact ⟨idOf_ok_iff.mp ⟨vendorId, hv⟩, idOf_ok_iff.mp ⟨productId, hp⟩⟩
      · intro h
        obtain ⟨hvendor, hproduct⟩ := h name arg rfl hlen
        obtain ⟨vendorId, hv⟩ := idOf_ok_iff.mpr hvendor
        obtain ⟨productId, hp⟩ := idOf_ok_iff.mpr hproduct
        obtain ⟨out, hout⟩ := detachDevice_returns (m := ⟨vendorId, productId, none⟩)
          (l := Library.start garbage) hsafe hstart
        exact ⟨out, (detachMain_ok_iff hlen).mpr ⟨vendorId, productId, hv, hp, hout⟩⟩
    · have hne : ∀ name arg, argp = [name, arg] → arg.length ≠ 9 := fun name arg heq hlen =>
        harg ⟨name, arg, heq, hlen⟩
      exact iff_of_true ⟨_, detachMain_usage hne _⟩ fun name arg heq hlen =>
        absurd hlen (hne name arg heq)
  · rintro name arg v p out rfl hv hp hlen hout
    obtain ⟨vendorId, productId, hvendor, hproduct, hrun⟩ := (detachMain_ok_iff hlen).mp hout
    rwa [← idOf_digits hv hvendor, ← idOf_digits hp hproduct]

/-- The argument `051d:0002`, with zeros behind the digits, and with a digit behind the first
four. -/
theorem detachMain_returns_iff_bench :
    (∃ out, detachMain (bench [benchDevice 4]) [ascii "detach", ascii "051d:0002"] (0, 0) 1 1
      (Library.start fun _ => closedInterface) = .ok out) ∧
    ¬ ∃ out, detachMain (bench [benchDevice 4]) [ascii "detach", ascii "051d:0002"] (0x30, 0) 1 1
      (Library.start fun _ => closedInterface) = .ok out := by
  constructor
  · refine (detachMain_returns_iff (bench_descriptorsSafe _)).1.mpr ?_
    rintro name arg heq -
    cases heq
    decide
  · rw [(detachMain_returns_iff (bench_descriptorsSafe _)).1]
    intro h
    exact (h _ _ rfl (by decide)).1 (by decide)

/-- **However it ends, the program leaves no interface open and no device in the list**, and no
block but that of the interface it was handed.  Where its exit code is 0 it has cleaned up, has
freed every block, and has closed the handle of a device whose IDs have the bits of those in its
argument. -/
theorem detachMain_leaves {code : ℕ} {l : Library}
    (h : detachMain env argp behind busses devices (Library.start garbage) = .ok (code, l)) :
    (∀ ref, (l.world.hidifs ref).devHandle = none) ∧
    l.world.openHidDeviceList.nDevices = 0 ∧
    (l.allocated.length ≤ 1 ∧ ∀ a ∈ blocks.acquisitions l.world.log,
      a ∉ blocks.releases l.world.log → a ∈ l.allocated) ∧
    (code = 0 → l.world.initialised = false ∧
      (∀ a ∈ blocks.acquisitions l.world.log, a ∈ blocks.releases l.world.log) ∧
      ∃ name arg vendorId productId x, argp = [name, arg] ∧
        idOf (arg.take 4) behind.1 = .ok vendorId ∧ idOf (arg.drop 5) behind.2 = .ok productId ∧
        .usbClose x ∈ l.world.log ∧ (env.usbDevice x).idVendor &&& vendorId = vendorId ∧
        (env.usbDevice x).idProduct &&& productId = productId) := by
  have hends : ∀ allocated, l.Holding [] allocated → allocated.length ≤ 1 →
      (∀ ref, (l.world.hidifs ref).devHandle = none) ∧
      l.world.openHidDeviceList.nDevices = 0 ∧
      l.allocated.length ≤ 1 ∧ ∀ a ∈ blocks.acquisitions l.world.log,
        a ∉ blocks.releases l.world.log → a ∈ l.allocated := by
    intro allocated hholding hone
    obtain ⟨hclosed, hlist, hheld⟩ := hholding.ended
    rw [hholding.allocated]
    exact ⟨hclosed, hlist, hone, fun a ha hna => (hheld a).mp ⟨ha, hna⟩⟩
  by_cases harg : ∃ name arg, argp = [name, arg] ∧ arg.length = 9
  · obtain ⟨name, arg, rfl, hlen⟩ := harg
    obtain ⟨vendorId, productId, hv, hp, hrun⟩ := (detachMain_ok_iff hlen).mp h
    obtain ⟨⟨allocated, hholding, hone⟩, hdetached⟩ := detachDevice_leaves hrun
    obtain ⟨hclosed, hlist, hblocks⟩ := hends allocated hholding hone
    refine ⟨hclosed, hlist, hblocks, fun hcode => ?_⟩
    obtain ⟨hnone, hinit, x, custom, hlog, hm⟩ := hdetached hcode
    obtain ⟨-, hvendor, hproduct, -⟩ := matchFlags_all.mp hm
    refine ⟨hinit, fun a ha => ?_, name, arg, vendorId, productId, x, rfl, hv, hp, hlog, hvendor,
      hproduct⟩
    by_contra hna
    have hmem := (hholding.ended.2.2 a).mp ⟨ha, hna⟩
    rw [← hholding.allocated, hnone] at hmem
    cases hmem
  · rw [detachMain_usage fun name arg heq hlen => harg ⟨name, arg, heq, hlen⟩] at h
    cases h
    obtain ⟨hclosed, hlist, hblocks⟩ := hends [] (.start garbage) (Nat.zero_le 1)
    exact ⟨hclosed, hlist, hblocks, fun hcode => by cases hcode⟩

/-- `detachMain_leaves` for a run on the bench that ends with exit code 0. -/
theorem detachMain_leaves_bench : ∃ l,
    detachMain (bench [benchDevice 4]) [ascii "detach", ascii "051d:0002"] (0, 0) 1 1
      (Library.start fun _ => closedInterface) = .ok (0, l) ∧
    ∀ a ∈ blocks.acquisitions l.world.log, a ∈ blocks.releases l.world.log := by
  have hrun : (match detachMain (bench [benchDevice 4]) [ascii "detach", ascii "051d:0002"] (0, 0)
      1 1 (Library.start fun _ => closedInterface) with
      | .ok (code, _) => code == 0
      | .error _ => false) = true := by
    decide +kernel
  cases hmain : detachMain (bench [benchDevice 4]) [ascii "detach", ascii "051d:0002"] (0, 0) 1 1
    (Library.start fun _ => closedInterface) with
  | error e =>
      rw [hmain] at hrun
      cases hrun
  | ok out =>
      obtain ⟨code, l⟩ := out
      rw [hmain] at hrun
      obtain rfl : code = 0 := by simpa using hrun
      exact ⟨l, rfl, ((detachMain_leaves hmain).2.2.2 rfl).2.1⟩

end Program

end Libhid
