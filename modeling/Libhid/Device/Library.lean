import Libhid.Device.Independence
import Libhid.Device.Operations

/-!
# The library and its interfaces (`src/hid_initialisation.c`)

`hid_init` and `hid_cleanup`, and the functions that allocate and free interfaces.  A `Library` is a
state with the interfaces its callers were handed and have not deleted; a call through any other
pointer is undefined in C, and stops the run.

`hid_delete_HIDInterface` frees an interface as it is, and `hid_reset_HIDInterface` clears it.  The
blocks of an open one stay allocated without an owner, and the entry of a deleted one in the list of
open devices dangles: every block has an owner in exactly the runs that delete and reset closed
interfaces only (`blocksAccounted_iff`), and in these the list has no dangling entry
(`listed_allocated`).
-/

namespace Libhid

open Framework

/-! ## Initialising -/

/-- Set the static variable `initialised`. -/
def setInitialised (initialised : Bool) : Hid Unit := fun w =>
  .ok ((), { w with initialised := initialised })

/-- `hid_init`, given what `usb_find_busses` and `usb_find_devices` return. -/
def hidInit (usbFindBusses usbFindDevices : ℤ) : Hid HidReturn := do
  if ← hidIsInitialised then pure .alreadyInitialised
  else if usbFindBusses < 0 then pure .failFindBusses
  else if usbFindDevices < 0 then pure .failFindDevices else
  setInitialised true
  pure .success

/-- `hid_cleanup`. -/
def hidCleanup : Hid HidReturn := do
  if !(← hidIsInitialised) then pure .notInitialised else
  setInitialised false
  pure .success

/-! ## Allocating interfaces -/

/-- `hid_new_HIDInterface`: an interface is designated by the address of its block. -/
def hidNewHIDInterface (env : Env) : Hid (Option Ref) := do
  match ← malloc env fun _ => () with
  | none => pure none
  | some block => do
      let hidif ← deref block.addr
      assign block.addr (hidResetHIDInterface hidif)
      pure (some block.addr)

/-- `hid_reset_HIDInterface`, on a pointer that may be `NULL`. -/
def resetHIDInterface : Option Ref → Hid Unit
  | none => pure ()
  | some ref => do
      let hidif ← deref ref
      assign ref (hidResetHIDInterface hidif)

/-- The list when an interface is freed: the entries that point to it dangle, and cannot be followed
any more than a `NULL` pointer. -/
def OpenHidDeviceList.dangle (l : OpenHidDeviceList) (ref : Ref) : OpenHidDeviceList :=
  { l with hidif := l.hidif.map fun entry => if entry = some ref then none else entry }

/-- The state when an interface is freed: what it held is gone. -/
def World.forget (w : World) (ref : Ref) : World :=
  { w.write ref closedInterface with openHidDeviceList := w.openHidDeviceList.dangle ref }

/-- `hid_delete_HIDInterface`, on a pointer that may be `NULL`. -/
def hidDeleteHIDInterface : Option Ref → Hid Unit
  | none => pure ()
  | some ref => do
      free (some (⟨ref, ()⟩ : Block Unit))
      fun w => .ok ((), w.forget ref)

/-! ## Runs -/

/-- A call of the library. -/
inductive LibraryCall
  | hidInit (usbFindBusses usbFindDevices : ℤ)
  | hidCleanup
  | hidNewHIDInterface
  | hidDeleteHIDInterface (hidif : Option Ref)
  | hidResetHIDInterface (hidif : Option Ref)
  | onInterface (call : PublicCall)

/-- What a call of the library returns. -/
inductive LibraryReturn
  | status (ret : HidReturn)
  | pointer (hidif : Option Ref)
  | done
  deriving DecidableEq

/-- The call made. -/
def LibraryCall.run (env : Env) : LibraryCall → Hid LibraryReturn
  | .hidInit usbFindBusses usbFindDevices =>
      .status <$> Libhid.hidInit usbFindBusses usbFindDevices
  | .hidCleanup => .status <$> Libhid.hidCleanup
  | .hidNewHIDInterface => .pointer <$> Libhid.hidNewHIDInterface env
  | .hidDeleteHIDInterface hidif => (fun _ => .done) <$> Libhid.hidDeleteHIDInterface hidif
  | .hidResetHIDInterface hidif => (fun _ => .done) <$> resetHIDInterface hidif
  | .onInterface call => .status <$> call.run env

/-- The interface a call designates. -/
def PublicCall.designates : PublicCall → Option Ref
  | .lifecycle call => call.target
  | call => call.uses

/-- The interface a call deletes or resets. -/
def LibraryCall.drops : LibraryCall → Option Ref
  | .hidDeleteHIDInterface hidif | .hidResetHIDInterface hidif => hidif
  | _ => none

/-- The interface a call designates. -/
def LibraryCall.designates : LibraryCall → Option Ref
  | .onInterface call => call.designates
  | call => call.drops

/-- The interfaces allocated and not freed, after one more call. -/
def stillAllocated (allocated : List Ref) (call : LibraryCall) (ret : LibraryReturn) : List Ref :=
  match call, ret with
  | .hidDeleteHIDInterface (some ref), _ => allocated.erase ref
  | _, .pointer (some ref) => ref :: allocated
  | _, _ => allocated

/-- A state, and the interfaces the callers were handed and have not deleted. -/
structure Library where
  world : World
  allocated : List Ref

/-- Before the first call. -/
def Library.start (garbage : Ref → HIDInterface) : Library := ⟨.start false garbage, []⟩

/-- One call; it stops if it is made through a pointer its caller does not have. -/
def LibraryCall.step (env : Env) (call : LibraryCall) (l : Library) :
    Except Stop (LibraryReturn × Library) :=
  if ∀ ref ∈ call.designates, ref ∈ l.allocated then
    (call.run env l.world).map fun r => (r.1, ⟨r.2, stillAllocated l.allocated call r.1⟩)
  else .error .null

/-- One call after the other. -/
def runLibrary (env : Env) (calls : List LibraryCall) (l : Library) :
    Except Stop (List LibraryReturn × Library) :=
  runAll (fun call => call.step env) calls l

/-- Every block allocated and not freed is an interface or belongs to one that its caller has. -/
def BlocksAccounted (l : Library) : Prop :=
  ∀ a, (a ∈ blocks.acquisitions l.world.log ∧ a ∉ blocks.releases l.world.log) ↔
    a ∈ l.allocated ∨ ∃ ref ∈ l.allocated, ∃ part, l.world.block (ref, part) = some a

/-- An interface that is deleted or reset is closed. -/
def DropsClosed (call : LibraryCall) (l : Library) : Prop :=
  ∀ ref ∈ call.drops, (l.world.hidifs ref).devHandle = none

instance (call : LibraryCall) (l : Library) : Decidable (DropsClosed call l) :=
  inferInstanceAs (Decidable (∀ ref ∈ call.drops, _))

/-! ## What a call leaves alone -/

section Calls

variable {env : Env} {ref : Ref} {w u : World} {ret : HidReturn}

/-- The interfaces a call does not designate, it leaves as they are. -/
lemma PublicCall.others {call : PublicCall} (hne : call.designates ≠ some ref)
    (h : call.run env w = .ok (ret, u)) : u.hidifs ref = w.hidifs ref := by
  rw [call.run_eq_reply] at h
  change (call.reply env >>= fun r => pure r.ret) w = .ok (ret, u) at h
  obtain ⟨r, v, hr, h⟩ := state_bind_ok.mp h
  cases h
  refine reply_others ?_ ?_ hr
  · cases call with
    | lifecycle => exact fun h => by cases h
    | _ => exact hne
  · rintro call rfl
    exact hne

/-- The calls out of the library are recorded in their order. -/
lemma PublicCall.log {call : PublicCall} (h : call.run env w = .ok (ret, u)) :
    ∃ es, u.log = es ++ w.log := by
  cases huses : call.uses with
  | some r =>
      obtain ⟨es, hes, -⟩ := (uses_operates huses h).works.log
      exact ⟨es, hes⟩
  | none =>
      cases call with
      | lifecycle call =>
          cases run_ok h with
          | declined => exact ⟨[], rfl⟩
          | opened _ _ _ hclaim ho => exact openWith_log hclaim ho
          | closed hc =>
              obtain ⟨es, hes, -⟩ := hc.log
              exact ⟨es ++ closeEvents _, by rw [hes, List.append_assoc]⟩
      | _ => cases huses

/-- **Every call keeps the books of the blocks**, if a closed interface has none. -/
theorem publicCall_kept {call : PublicCall}
    (hnone : ∀ ref, (w.hidifs ref).devHandle = none → ∀ part, w.block (ref, part) = none)
    (h : call.run env w = .ok (ret, u)) : BlocksKept w u := by
  cases huses : call.uses with
  | some r => exact (uses_operates huses h).books
  | none =>
      cases call with
      | lifecycle call => exact call_kept hnone h
      | _ => cases huses

variable {opened : List Ref}

/-- The life cycle depends on the pointers of the interfaces and the list only. -/
lemma Lifecycle.same (h : Lifecycle opened w) (hlist : u.openHidDeviceList = w.openHidDeviceList)
    (hdev : ∀ r, (u.hidifs r).devHandle.isSome = (w.hidifs r).devHandle.isSome)
    (hwhole : u.Whole) : Lifecycle opened u := by
  refine ⟨hwhole, h.nodup, fun r => ?_, ?_⟩
  · rw [h.isOpen, hdev]
  · rw [hlist]
    exact h.listed

lemma World.Whole.works {P : Event → Prop} (h : w.Whole) (hw : Works P ref w u) : u.Whole := by
  refine h.other hw.others ?_
  obtain ⟨hdata, hparser⟩ := hw.isSome
  rcases h ref with ⟨h₁, h₂, h₃⟩ | ⟨h₁, h₂, h₃⟩
  · exact .inl ⟨by rw [hw.devHandle, h₁], by rw [hdata, h₂], by rw [hparser, h₃]⟩
  · rw [h₂] at hdata
    rw [h₃] at hparser
    exact .inr ⟨hw.devHandle.trans h₁, by simpa using hdata, by simpa using hparser⟩

lemma World.Whole.publicStep {call : PublicCall} (h : w.Whole)
    (hrun : call.run env w = .ok (ret, u)) : u.Whole := by
  cases huses : call.uses with
  | some r => exact h.works (uses_operates huses hrun).works
  | none =>
      cases call with
      | lifecycle call => exact h.step hrun
      | _ => cases huses

lemma World.Whole.no_blocks (h : w.Whole) (hn : (w.hidifs ref).devHandle = none) (part : Part) :
    w.block (ref, part) = none :=
  (HIDInterface.AllNull.of_whole (h ref) hn).block part

lemma Lifecycle.works {P : Event → Prop} (h : Lifecycle opened w) (hw : Works P ref w u) :
    Lifecycle opened u := by
  refine h.same hw.list (fun r => ?_) (h.whole.works hw)
  by_cases hr : r = ref
  · rw [hr, hw.devHandle]
  · rw [hw.others r hr]

/-- Every call keeps the life cycle. -/
lemma Lifecycle.publicStep {call : PublicCall} (h : Lifecycle opened w)
    (hrun : call.run env w = .ok (ret, u)) : ∃ opened', Lifecycle opened' u := by
  cases huses : call.uses with
  | some r => exact ⟨opened, h.works (uses_operates huses hrun).works⟩
  | none =>
      cases call with
      | lifecycle call => exact ⟨_, h.step hrun⟩
      | _ => cases huses

end Calls

/-! ## The invariant -/

/-- The places of blocks that are their own: those of the interfaces, and those without an owner. -/
def ownBlock (allocated : List ℕ) (a : ℕ) : Option ℕ := if a ∈ allocated then some a else none

/-- The invariant of every run: the interfaces and the blocks are in order, `lost` being the blocks
that are not free and belong to no interface. -/
structure Library.Orderly (l : Library) (lost : List ℕ) : Prop where
  whole : l.world.Whole
  unused : ∀ ref, l.world.log.length ≤ ref → (l.world.hidifs ref).devHandle = none
  openAllocated : ∀ ref, (l.world.hidifs ref).devHandle.isSome → ref ∈ l.allocated
  nodup : l.allocated.Nodup
  stamped : Stamped blocks id l.world.log
  owned : Owned blocks l.world.log
    (Sum.elim l.world.block (Sum.elim (ownBlock l.allocated) (ownBlock lost)))

/-- The invariant while only closed interfaces are deleted and reset: no block is lost, and the list
holds open interfaces. -/
structure Library.Tidy (l : Library) : Prop where
  orderly : l.Orderly []
  lifecycle : ∃ opened, Lifecycle opened l.world

lemma ownBlock_mem {allocated : List ℕ} {a : ℕ} (h : a ∈ allocated) :
    ownBlock allocated a = some a := if_pos h

lemma ownBlock_not_mem {allocated : List ℕ} {a : ℕ} (h : a ∉ allocated) :
    ownBlock allocated a = none := if_neg h

lemma ownBlock_cons {allocated : List ℕ} (a : ℕ) :
    ownBlock (a :: allocated) = Function.update (ownBlock allocated) a (some a) := by
  funext r
  by_cases hr : r = a
  · rw [hr, Function.update_self, ownBlock, if_pos List.mem_cons_self]
  · rw [Function.update_of_ne hr]
    simp [ownBlock, hr]

lemma ownBlock_erase {allocated : List ℕ} (h : allocated.Nodup) (a : ℕ) :
    ownBlock (allocated.erase a) = Function.update (ownBlock allocated) a none := by
  funext r
  by_cases hr : r = a
  · rw [hr, Function.update_self, ownBlock, if_neg]
    rw [h.mem_erase_iff]
    exact fun hmem => hmem.1 rfl
  · rw [Function.update_of_ne hr]
    simp [ownBlock, hr, h.mem_erase_iff]

/-- An interface that is cleared has no handle. -/
lemma write_closed_devHandle (w : World) (ref r : Ref) :
    ((w.write ref closedInterface).hidifs r).devHandle =
      if r = ref then none else (w.hidifs r).devHandle := by
  split_ifs with hr
  · rw [hr, World.write_same]
    rfl
  · rw [World.write_other _ _ _ hr]

/-- An interface that is cleared has no blocks. -/
lemma write_closed_block (w : World) (ref : Ref) : (w.write ref closedInterface).block =
    Function.update (Function.update w.block (ref, .data) none) (ref, .parser) none := by
  funext slot
  obtain ⟨r, part⟩ := slot
  rw [write_block, Function.update_apply, Function.update_apply]
  cases part <;> by_cases hr : r = ref <;> simp [hr, closedInterface_allNull.block]

/-- A closed interface that is cleared had no blocks before. -/
lemma World.Whole.write_closed_block {w : World} {ref : Ref} (h : w.Whole)
    (hn : (w.hidifs ref).devHandle = none) : (w.write ref closedInterface).block = w.block := by
  funext slot
  rw [write_block]
  split_ifs with hslot
  · obtain ⟨r, part⟩ := slot
    dsimp only at hslot
    rw [hslot, closedInterface_allNull.block, h.no_blocks hn]
  · rfl

namespace Library.Orderly

variable {env : Env} {l l' : Library} {lost : List ℕ} {ref : Ref} {ret : HidReturn}

lemma start (garbage : Ref → HIDInterface) : Orderly (.start garbage) [] := by
  refine ⟨fun _ => .inr closedInterface_allNull, fun _ _ => rfl, ?_, List.nodup_nil,
    stamped_nil _ _, ?_⟩
  · intro _ h
    cases h
  have hnone : Sum.elim (Library.start garbage).world.block
      (Sum.elim (ownBlock (Library.start garbage).allocated) (ownBlock [])) = fun _ => none := by
    funext slot
    match slot with
    | .inl (r, .data) | .inl (r, .parser) | .inr (.inl r) | .inr (.inr r) => rfl
  rw [hnone]
  exact .empty blocks

/-- The block of an allocated interface was allocated, and is not free. -/
lemma own_held (h : l.Orderly lost) (href : ref ∈ l.allocated) :
    ref ∈ blocks.acquisitions l.world.log ∧ ref ∉ blocks.releases l.world.log :=
  (h.owned.ledger.held_iff ref).mp ⟨.inr (.inl ref), ownBlock_mem href⟩

lemma allocated_lt (h : l.Orderly lost) (href : ref ∈ l.allocated) : ref < l.world.log.length :=
  h.stamped ref (h.own_held href).1

/-- The block of an interface is not among the lost ones. -/
lemma not_lost (h : l.Orderly lost) {slot : Ref × Part} {a : ℕ} (ha : l.world.block slot = some a) :
    a ∉ lost := by
  intro hmem
  cases h.owned.once (.inl slot) (.inr (.inr a)) a ha (ownBlock_mem hmem)

/-- Initialising and cleaning up change nothing but `initialised`. -/
lemma initialise (h : l.Orderly lost) (initialised : Bool) :
    Orderly ⟨{ l.world with initialised := initialised }, l.allocated⟩ lost :=
  ⟨h.whole, h.unused, h.openAllocated, h.nodup, h.stamped, h.owned⟩

/-- A call on an allocated interface. -/
lemma onInterface (h : l.Orderly lost) {call : PublicCall} {u : World}
    (hdes : ∀ ref ∈ call.designates, ref ∈ l.allocated)
    (hrun : call.run env l.world = .ok (ret, u)) : Orderly ⟨u, l.allocated⟩ lost := by
  obtain ⟨es, hes⟩ := PublicCall.log hrun
  obtain ⟨hstamped, howned⟩ := (publicCall_kept (fun _ hn => h.whole.no_blocks hn) hrun).keeps
    (Sum.elim (ownBlock l.allocated) (ownBlock lost)) h.stamped h.owned
  refine ⟨h.whole.publicStep hrun, fun ref hle => ?_, fun ref hopen => ?_, h.nodup, hstamped,
    howned⟩
  · have hle' : l.world.log.length ≤ ref := by
      have hlen : u.log.length = es.length + l.world.log.length := by rw [hes, List.length_append]
      change u.log.length ≤ ref at hle
      omega
    -- the interface is too new to be allocated, so the call is on another one
    have hne : call.designates ≠ some ref := fun hd =>
      absurd (h.allocated_lt (hdes ref hd)) (Nat.not_lt.mpr hle')
    rw [PublicCall.others hne hrun]
    exact h.unused ref hle'
  · by_cases hd : call.designates = some ref
    · exact hdes ref hd
    · change (u.hidifs ref).devHandle.isSome = true at hopen
      rw [PublicCall.others hd hrun] at hopen
      exact h.openAllocated ref hopen

/-- `hid_new_HIDInterface` without memory. -/
lemma newFails (h : l.Orderly lost) :
    Orderly ⟨l.world.record (.malloc none), l.allocated⟩ lost := by
  refine ⟨h.whole, fun ref hle => h.unused ref (Nat.le_of_succ_le hle), h.openAllocated, h.nodup,
    h.stamped.skip rfl, ?_⟩
  have hes : ∀ e ∈ [Event.malloc none], blocks.Neutral e := by
    intro e he
    rw [List.mem_singleton.mp he]
    exact ⟨rfl, rfl⟩
  exact h.owned.skip_all hes

/-- `hid_new_HIDInterface` allocates an interface that no caller has. -/
lemma new (h : l.Orderly lost) :
    Orderly ⟨(l.world.record (.malloc (some l.world.log.length))).write l.world.log.length
      closedInterface, l.world.log.length :: l.allocated⟩ lost := by
  have hnone := h.unused _ (Nat.le_refl _)
  have hnew : l.world.log.length ∉ l.allocated := fun hmem =>
    Nat.lt_irrefl _ (h.allocated_lt hmem)
  have hdev : ∀ r, ((l.world.write l.world.log.length closedInterface).hidifs r).devHandle =
      (l.world.hidifs r).devHandle := by
    intro r
    rw [write_closed_devHandle]
    split_ifs with hr
    · rw [hr, hnone]
    · rfl
  have hblock := h.whole.write_closed_block hnone
  refine ⟨h.whole.write (.inr closedInterface_allNull),
    fun ref hle => (hdev ref).trans (h.unused ref (Nat.le_of_succ_le hle)), fun ref hopen => ?_,
    List.nodup_cons.mpr ⟨hnew, h.nodup⟩, h.stamped.acquire rfl rfl, ?_⟩
  · change ((l.world.write _ closedInterface).hidifs ref).devHandle.isSome = true at hopen
    rw [hdev] at hopen
    exact List.mem_cons_of_mem _ (h.openAllocated ref hopen)
  · have hempty : Sum.elim l.world.block (Sum.elim (ownBlock l.allocated) (ownBlock lost))
        (.inr (.inl l.world.log.length)) = none := ownBlock_not_mem hnew
    have hacq := h.owned.acquire (e := .malloc (some l.world.log.length)) rfl
      (fun hmem => Nat.lt_irrefl _ (h.stamped _ hmem)) hempty
    rw [Sum.update_elim_inr, Sum.update_elim_inl, ← ownBlock_cons] at hacq
    show Owned blocks _ (Sum.elim (l.world.write _ closedInterface).block _)
    rw [hblock]
    exact hacq

/-- The block of an interface that is not free becomes one without an owner. -/
lemma lose (h : l.Orderly lost) {slot : Ref × Part} {a : ℕ} (ha : l.world.block slot = some a) :
    Owned blocks l.world.log (Sum.elim (Function.update l.world.block slot none)
      (Sum.elim (ownBlock l.allocated) (ownBlock (a :: lost)))) := by
  have hslot : Sum.elim l.world.block (Sum.elim (ownBlock l.allocated) (ownBlock lost))
      (.inl slot) = some a := ha
  have hempty : Sum.elim l.world.block (Sum.elim (ownBlock l.allocated) (ownBlock lost))
      (.inr (.inr a)) = none := ownBlock_not_mem (h.not_lost ha)
  have hmove := h.owned.move hslot hempty
  rwa [Sum.update_elim_inl, Sum.update_elim_inr, Sum.update_elim_inr, ← ownBlock_cons] at hmove

/-- An interface is cleared: what an open one had is lost. -/
lemma reset (h : l.Orderly lost) (ref : Ref) : ∃ lost',
    Orderly ⟨l.world.write ref closedInterface, l.allocated⟩ lost' ∧
      (lost' = [] ↔ lost = [] ∧ (l.world.hidifs ref).devHandle = none) := by
  have hclear : ∀ {lost' : List ℕ}, Owned blocks l.world.log (Sum.elim
      (l.world.write ref closedInterface).block
      (Sum.elim (ownBlock l.allocated) (ownBlock lost'))) →
      Orderly ⟨l.world.write ref closedInterface, l.allocated⟩ lost' := by
    intro lost' howned
    refine ⟨h.whole.write (.inr closedInterface_allNull), fun r hle => ?_, fun r hopen => ?_,
      h.nodup, h.stamped, howned⟩
    · rw [write_closed_devHandle, h.unused r hle, ite_self]
    · rw [write_closed_devHandle] at hopen
      split_ifs at hopen
      · cases hopen
      · exact h.openAllocated r hopen
  rcases h.whole ref with ⟨hopen, hdata, hparser⟩ | hnull
  · obtain ⟨d, hd⟩ := Option.isSome_iff_exists.mp hdata
    obtain ⟨p, hp⟩ := Option.isSome_iff_exists.mp hparser
    have hdblock : l.world.block (ref, .data) = some d.addr := by
      rw [World.block, HIDInterface.block, hd]
      rfl
    have hpblock : l.world.block (ref, .parser) = some p.addr := by
      rw [World.block, HIDInterface.block, hp]
      rfl
    have hne : p.addr ≠ d.addr := fun heq => by
      cases h.owned.once (.inl (ref, .parser)) (.inl (ref, .data)) p.addr hpblock (heq ▸ hdblock)
    have hslot : Sum.elim (Function.update l.world.block (ref, .data) none)
        (Sum.elim (ownBlock l.allocated) (ownBlock (d.addr :: lost))) (.inl (ref, .parser)) =
          some p.addr := (Function.update_of_ne (by simp) ..).trans hpblock
    have hnot : p.addr ∉ d.addr :: lost := by
      rw [List.mem_cons, not_or]
      exact ⟨hne, h.not_lost hpblock⟩
    have hempty : Sum.elim (Function.update l.world.block (ref, .data) none)
        (Sum.elim (ownBlock l.allocated) (ownBlock (d.addr :: lost))) (.inr (.inr p.addr)) =
          none := ownBlock_not_mem hnot
    have hmove := (h.lose hdblock).move hslot hempty
    rw [Sum.update_elim_inl, Sum.update_elim_inr, Sum.update_elim_inr, ← ownBlock_cons,
      ← write_closed_block] at hmove
    refine ⟨_, hclear hmove, iff_of_false (by simp) fun hnone => ?_⟩
    rw [hnone.2] at hopen
    cases hopen
  · refine ⟨lost, hclear ?_, by simp [hnull.1]⟩
    rw [h.whole.write_closed_block hnull.1]
    exact h.owned

/-- The block of an interface is freed, which its caller has. -/
lemma delete (h : l.Orderly lost) (href : ref ∈ l.allocated) : ∃ lost',
    Orderly ⟨(l.world.record (.free ref)).forget ref, l.allocated.erase ref⟩ lost' ∧
      (lost' = [] ↔ lost = [] ∧ (l.world.hidifs ref).devHandle = none) := by
  obtain ⟨lost', hreset, hlost⟩ := h.reset ref
  refine ⟨lost', ⟨hreset.whole, fun r hle => hreset.unused r (Nat.le_of_succ_le hle),
    fun r hopen => ?_, h.nodup.erase ref, h.stamped.skip rfl, ?_⟩, hlost⟩
  · refine h.nodup.mem_erase_iff.mpr ⟨?_, hreset.openAllocated r hopen⟩
    rintro rfl
    change ((l.world.write r closedInterface).hidifs r).devHandle.isSome = true at hopen
    rw [World.write_same] at hopen
    cases hopen
  · have hslot : Sum.elim (l.world.write ref closedInterface).block
        (Sum.elim (ownBlock l.allocated) (ownBlock lost')) (.inr (.inl ref)) = some ref :=
      ownBlock_mem href
    have hrel := hreset.owned.release (e := .free ref) rfl hslot
    rw [Sum.update_elim_inr, Sum.update_elim_inl, ← ownBlock_erase h.nodup] at hrel
    exact hrel

end Library.Orderly

/-! ## One call -/

/-- What a call of the library does. -/
inductive LibraryMade (env : Env) (l : Library) : LibraryCall → Library → Prop
  | initialised {call : LibraryCall} (hc : call.designates = none) (initialised : Bool) :
      LibraryMade env l call ⟨{ l.world with initialised := initialised }, l.allocated⟩
  | outOfMemory :
      LibraryMade env l .hidNewHIDInterface ⟨l.world.record (.malloc none), l.allocated⟩
  | created : LibraryMade env l .hidNewHIDInterface
      ⟨(l.world.record (.malloc (some l.world.log.length))).write l.world.log.length
        closedInterface, l.world.log.length :: l.allocated⟩
  | deleted {ref : Ref} (href : ref ∈ l.allocated) :
      LibraryMade env l (.hidDeleteHIDInterface (some ref))
        ⟨(l.world.record (.free ref)).forget ref, l.allocated.erase ref⟩
  | reset {ref : Ref} (href : ref ∈ l.allocated) :
      LibraryMade env l (.hidResetHIDInterface (some ref))
        ⟨l.world.write ref closedInterface, l.allocated⟩
  | onInterface {call : PublicCall} {ret : HidReturn} {u : World}
      (hdes : ∀ ref ∈ call.designates, ref ∈ l.allocated)
      (hrun : call.run env l.world = .ok (ret, u)) :
      LibraryMade env l (.onInterface call) ⟨u, l.allocated⟩

section Steps

variable {env : Env} {l l' : Library} {lost : List ℕ} {call : LibraryCall} {ret : LibraryReturn}

lemma map_ok {α β : Type} {m : Hid α} {f : α → β} {w u : World} {b : β}
    (h : (f <$> m) w = .ok (b, u)) : ∃ a, m w = .ok (a, u) ∧ f a = b := by
  change (m >>= fun a => pure (f a)) w = .ok (b, u) at h
  obtain ⟨a, v, hm, h⟩ := state_bind_ok.mp h
  cases h
  exact ⟨a, hm, rfl⟩

lemma hidInit_ok {busses devices : ℤ} {r : HidReturn} {w u : World}
    (h : hidInit busses devices w = .ok (r, u)) : ∃ b, u = { w with initialised := b } := by
  simp only [hidInit, hidIsInitialised_bind] at h
  split_ifs at h <;> cases h <;> exact ⟨_, rfl⟩

lemma hidCleanup_ok {r : HidReturn} {w u : World} (h : hidCleanup w = .ok (r, u)) :
    ∃ b, u = { w with initialised := b } := by
  simp only [hidCleanup, hidIsInitialised_bind] at h
  split_ifs at h <;> cases h <;> exact ⟨_, rfl⟩

lemma hidNewHIDInterface_run (w : World) : hidNewHIDInterface env w =
    if env.malloc w.log.length then .ok (some w.log.length,
      (w.record (.malloc (some w.log.length))).write w.log.length closedInterface)
    else .ok (none, w.record (.malloc none)) := by
  simp only [hidNewHIDInterface, malloc, callOut_bind]
  split_ifs <;> rfl

/-- What a step is made of. -/
lemma step_run (h : call.step env l = .ok (ret, l')) :
    call.run env l.world = .ok (ret, l'.world) ∧
      l'.allocated = stillAllocated l.allocated call ret := by
  unfold LibraryCall.step at h
  split_ifs at h
  rcases hrun : call.run env l.world with e | ⟨r, u⟩ <;> rw [hrun] at h <;> cases h
  exact ⟨rfl, rfl⟩

lemma step_made (h : call.step env l = .ok (ret, l')) : LibraryMade env l call l' := by
  unfold LibraryCall.step at h
  split_ifs at h with hdes
  rcases hrun : call.run env l.world with e | ⟨r, u⟩ <;> rw [hrun] at h
  · cases h
  cases h
  cases call with
  | hidInit busses devices =>
      obtain ⟨r, hr, rfl⟩ := map_ok hrun
      obtain ⟨b, rfl⟩ := hidInit_ok hr
      exact .initialised rfl b
  | hidCleanup =>
      obtain ⟨r, hr, rfl⟩ := map_ok hrun
      obtain ⟨b, rfl⟩ := hidCleanup_ok hr
      exact .initialised rfl b
  | hidNewHIDInterface =>
      obtain ⟨r, hr, rfl⟩ := map_ok hrun
      rw [hidNewHIDInterface_run] at hr
      split_ifs at hr <;> cases hr
      · exact .created
      · exact .outOfMemory
  | hidDeleteHIDInterface hidif =>
      obtain ⟨r, hr, rfl⟩ := map_ok hrun
      cases hidif with
      | none =>
          cases hr
          exact .initialised rfl l.world.initialised
      | some ref =>
          cases hr
          exact .deleted (hdes ref rfl)
  | hidResetHIDInterface hidif =>
      obtain ⟨r, hr, rfl⟩ := map_ok hrun
      cases hidif with
      | none =>
          cases hr
          exact .initialised rfl l.world.initialised
      | some ref =>
          cases hr
          exact .reset (hdes ref rfl)
  | onInterface call =>
      obtain ⟨r, hr, rfl⟩ := map_ok hrun
      exact .onInterface hdes hr

lemma DropsClosed.of_none (h : call.drops = none) : DropsClosed call l := by
  intro ref href
  rw [h] at href
  cases href

/-- A call that designates no interface drops none. -/
lemma DropsClosed.of_designates (h : call.designates = none) : DropsClosed call l := by
  refine .of_none ?_
  cases call with
  | onInterface call => rfl
  | _ => exact h

/-- **Every call keeps the invariant**, and loses blocks only by dropping an open interface. -/
lemma Library.Orderly.step (h : l.Orderly lost) (hstep : call.step env l = .ok (ret, l')) :
    ∃ lost', l'.Orderly lost' ∧ (lost' = [] ↔ lost = [] ∧ DropsClosed call l) := by
  have hkept : ∀ {l' : Library}, call.drops = none → l'.Orderly lost →
      ∃ lost', l'.Orderly lost' ∧ (lost' = [] ↔ lost = [] ∧ DropsClosed call l) :=
    fun hnone h' => ⟨lost, h', (and_iff_left (.of_none hnone)).symm⟩
  have hdropped : ∀ {l' : Library} {ref : Ref}, call.drops = some ref →
      (∃ lost', l'.Orderly lost' ∧
        (lost' = [] ↔ lost = [] ∧ (l.world.hidifs ref).devHandle = none)) →
      ∃ lost', l'.Orderly lost' ∧ (lost' = [] ↔ lost = [] ∧ DropsClosed call l) := by
    rintro l' ref hsome ⟨lost', h', hlost⟩
    refine ⟨lost', h', hlost.trans (and_congr_right fun _ => ?_)⟩
    simp [DropsClosed, hsome]
  cases step_made hstep with
  | initialised hc b =>
      exact ⟨lost, h.initialise b, (and_iff_left (.of_designates hc)).symm⟩
  | outOfMemory => exact hkept rfl h.newFails
  | created => exact hkept rfl h.new
  | deleted href => exact hdropped rfl (h.delete href)
  | reset => exact hdropped rfl (h.reset _)
  | onInterface hdes hrun => exact hkept rfl (h.onInterface hdes hrun)

/-- The invariant holds after every run. -/
lemma orderly_run {calls : List LibraryCall} {garbage : Ref → HIDInterface}
    {rets : List LibraryReturn} (h : runLibrary env calls (Library.start garbage) = .ok (rets, l)) :
    ∃ lost, l.Orderly lost := by
  unfold runLibrary at h
  refine state_invariant_runAll (I := fun l : Library => ∃ lost, l.Orderly lost)
    (P := fun _ _ => True) ?_ ⟨[], .start garbage⟩
    (Along.of_forall (fun _ _ => trivial) calls _) h
  rintro s t call ret ⟨lost, hs⟩ - hstep
  obtain ⟨lost', ht, -⟩ := hs.step hstep
  exact ⟨lost', ht⟩

/-! ## Deleting and resetting -/

/-- An entry that is not that of the interface does not dangle. -/
lemma OpenHidDeviceList.Holds.dangle {list : OpenHidDeviceList} {rs : List Ref} {ref : Ref}
    (h : list.Holds rs) (href : ref ∉ rs) : (list.dangle ref).Holds rs := by
  refine ⟨h.nDevices, h.le, ?_⟩
  have hmap : (list.dangle ref).entries =
      list.entries.map fun entry => if entry = some ref then none else entry := by
    simp [OpenHidDeviceList.dangle, OpenHidDeviceList.entries, List.map_take, Vector.toList_map]
  rw [hmap, h.entries, List.map_map]
  refine List.map_congr_left fun r hr => if_neg fun heq => href ?_
  rwa [← Option.some.inj heq]

/-- Clearing a closed interface keeps the life cycle. -/
lemma Lifecycle.clear {opened : List Ref} {w : World} {ref : Ref} (h : Lifecycle opened w)
    (hn : (w.hidifs ref).devHandle = none) : Lifecycle opened (w.write ref closedInterface) := by
  refine h.same rfl (fun r => ?_) (h.whole.write (.inr closedInterface_allNull))
  rw [write_closed_devHandle]
  split_ifs with hr
  · rw [hr, hn]
  · rfl

namespace Library.Tidy

lemma start (garbage : Ref → HIDInterface) : Tidy (.start garbage) :=
  ⟨.start garbage, [], .start false garbage⟩

/-- While only closed interfaces are dropped, every call keeps the library tidy. -/
lemma step (h : l.Tidy) (hclosed : DropsClosed call l) (hstep : call.step env l = .ok (ret, l')) :
    l'.Tidy := by
  obtain ⟨lost, horderly, hlost⟩ := h.orderly.step hstep
  obtain rfl := hlost.mpr ⟨rfl, hclosed⟩
  refine ⟨horderly, ?_⟩
  obtain ⟨opened, hlife⟩ := h.lifecycle
  cases step_made hstep with
  | initialised | outOfMemory => exact ⟨opened, hlife.same rfl (fun _ => rfl) hlife.whole⟩
  | created =>
      have hcleared := hlife.clear (h.orderly.unused _ (Nat.le_refl _))
      exact ⟨opened, hcleared.same rfl (fun _ => rfl) hcleared.whole⟩
  | @deleted ref =>
      have hn := hclosed ref rfl
      have hcleared := hlife.clear hn
      obtain ⟨rs, hrs, hsub⟩ := hlife.listed
      exact ⟨opened, hcleared.whole, hcleared.nodup, hcleared.isOpen, rs,
        hrs.dangle fun hmem => hlife.not_mem hn (hsub.subset hmem), hsub⟩
  | @reset ref => exact ⟨opened, hlife.clear (hclosed ref rfl)⟩
  | onInterface hdes hrun => exact hlife.publicStep hrun

end Library.Tidy

lemma tidy_run {calls : List LibraryCall} {garbage : Ref → HIDInterface}
    {rets : List LibraryReturn}
    (hclosed : Along (fun call => call.step env) DropsClosed calls (Library.start garbage))
    (h : runLibrary env calls (Library.start garbage) = .ok (rets, l)) : l.Tidy := by
  unfold runLibrary at h
  refine state_invariant_runAll (I := Library.Tidy) (P := DropsClosed) ?_ (.start garbage) hclosed h
  intro s t call ret hs hc hstep
  exact hs.step hc hstep

/-- In an orderly state every block has an owner if none is lost. -/
lemma Library.Orderly.accounted_iff (h : l.Orderly lost) : BlocksAccounted l ↔ lost = [] := by
  have hheld : ∀ a, (a ∈ blocks.acquisitions l.world.log ∧ a ∉ blocks.releases l.world.log) ↔
      ∃ slot, Sum.elim l.world.block (Sum.elim (ownBlock l.allocated) (ownBlock lost)) slot =
        some a := fun a => (h.owned.ledger.held_iff a).symm
  constructor
  · intro hacc
    refine List.eq_nil_iff_forall_not_mem.mpr fun a ha => ?_
    rcases (hacc a).mp ((hheld a).mpr ⟨.inr (.inr a), ownBlock_mem ha⟩) with
      hown | ⟨ref, -, part, hpart⟩
    · cases h.owned.once (.inr (.inl a)) (.inr (.inr a)) a (ownBlock_mem hown) (ownBlock_mem ha)
    · exact h.not_lost hpart ha
  · rintro rfl a
    rw [hheld]
    constructor
    · rintro ⟨⟨ref, part⟩ | r | r, hslot⟩
      · refine .inr ⟨ref, h.openAllocated ref ?_, part, hslot⟩
        by_contra hclosed
        have hnone : (l.world.hidifs ref).devHandle = none := by simpa using hclosed
        have hblock := h.whole.no_blocks hnone part
        rw [show l.world.block (ref, part) = some a from hslot] at hblock
        cases hblock
      · change ownBlock l.allocated r = some a at hslot
        unfold ownBlock at hslot
        split_ifs at hslot with hr
        cases hslot
        exact .inl hr
      · cases hslot
    · rintro (hown | ⟨ref, -, part, hpart⟩)
      · exact ⟨.inr (.inl a), ownBlock_mem hown⟩
      · exact ⟨.inl (ref, part), hpart⟩

/-- Whether a block loses its owner is decided by the call. -/
lemma accounted_step (h : ∃ lost, l.Orderly lost) (hstep : call.step env l = .ok (ret, l')) :
    BlocksAccounted l' ↔ BlocksAccounted l ∧ DropsClosed call l := by
  obtain ⟨lost, hl⟩ := h
  obtain ⟨lost', hl', hlost⟩ := hl.step hstep
  rw [hl.accounted_iff, hl'.accounted_iff, hlost]

/-- **After every run of the library no block was freed twice or before it was allocated, and every
block that is not free has an owner exactly when only closed interfaces were deleted and reset.** -/
theorem blocksAccounted_iff {calls : List LibraryCall} {garbage : Ref → HIDInterface}
    {rets : List LibraryReturn} (h : runLibrary env calls (Library.start garbage) = .ok (rets, l)) :
    (blocks.releases l.world.log).Nodup ∧
    (∀ a ∈ blocks.releases l.world.log, a ∈ blocks.acquisitions l.world.log) ∧
    (∀ after a before, l.world.log = after ++ .free a :: before →
      .malloc (some a) ∈ before ∧ .free a ∉ before) ∧
    (BlocksAccounted l ↔
      Along (fun call => call.step env) DropsClosed calls (Library.start garbage)) := by
  obtain ⟨lost, hl⟩ := orderly_run h
  refine ⟨hl.owned.ledger.released_once, hl.owned.ledger.released_sub, ?_, ?_⟩
  · intro after a before hlog
    obtain ⟨hacq, hrel⟩ := hl.owned.ledger.released_held after _ before hlog a rfl
    constructor
    · obtain ⟨e, he, heq⟩ := List.mem_filterMap.mp hacq
      cases e with
      | malloc b =>
          cases heq
          exact he
      | _ => cases heq
    · exact fun hmem => hrel (List.mem_filterMap.mpr ⟨_, hmem, rfl⟩)
  · refine invariant_iff_along_under (J := fun l : Library => ∃ lost, l.Orderly lost) ?_ ?_ ?_
      ⟨[], .start garbage⟩ ((Library.Orderly.start garbage).accounted_iff.mpr rfl) h
    · rintro s t call ret hstep ⟨lost, hs⟩
      obtain ⟨lost', ht, -⟩ := hs.step hstep
      exact ⟨lost', ht⟩
    · intro s t call ret hstep hs hacc
      rw [accounted_step hs hstep, and_iff_right hacc]
    · intro s t call ret hstep hs hacc
      exact ((accounted_step hs hstep).mp hacc).1

/-- A client on the bench that allocates two interfaces, opens both, and closes the first one. -/
def benchClient : List LibraryCall :=
  [.hidInit 1 1, .hidNewHIDInterface, .hidNewHIDInterface,
    .onInterface (.lifecycle (benchOpen 0 0)), .onInterface (.lifecycle (benchOpen 1 1)),
    .onInterface (.lifecycle (.hidClose 0))]

/-- The library stops on no call, and its end passes the test. -/
def libraryEndsWith (p : Library → Bool) : Except Stop (List LibraryReturn × Library) → Bool
  | .ok (_, l) => p l
  | .error _ => false

lemma exists_of_libraryEndsWith {p : Library → Bool}
    {out : Except Stop (List LibraryReturn × Library)} (h : libraryEndsWith p out = true) :
    ∃ rets l, out = .ok (rets, l) ∧ p l = true := by
  cases out with
  | error e => cases h
  | ok x => exact ⟨x.1, x.2, rfl, h⟩

/-- `blocksAccounted_iff` for a client that deletes the interface it closed, and for one that
deletes the interface it left open. -/
theorem blocksAccounted_iff_bench :
    (∃ rets l, runLibrary (bench [benchDevice 4])
      (benchClient ++ [.hidDeleteHIDInterface (some 0)]) (Library.start fun _ => closedInterface) =
        .ok (rets, l) ∧ BlocksAccounted l) ∧
    ∃ rets l, runLibrary (bench [benchDevice 4])
      (benchClient ++ [.hidDeleteHIDInterface (some 1)]) (Library.start fun _ => closedInterface) =
        .ok (rets, l) ∧ ¬ BlocksAccounted l := by
  have hrun : ∀ ref ∈ [0, 1], libraryEndsWith (fun _ => true) (runLibrary (bench [benchDevice 4])
      (benchClient ++ [.hidDeleteHIDInterface (some ref)])
      (Library.start fun _ => closedInterface)) = true := by
    decide +kernel
  obtain ⟨rets₀, l₀, h₀, -⟩ := exists_of_libraryEndsWith (hrun 0 (by simp))
  obtain ⟨rets₁, l₁, h₁, -⟩ := exists_of_libraryEndsWith (hrun 1 (by simp))
  obtain ⟨-, -, -, hiff₀⟩ := blocksAccounted_iff h₀
  obtain ⟨-, -, -, hiff₁⟩ := blocksAccounted_iff h₁
  refine ⟨⟨rets₀, l₀, h₀, hiff₀.mpr (by decide +kernel)⟩, rets₁, l₁, h₁, ?_⟩
  rw [hiff₁]
  decide +kernel

/-- **While only closed interfaces are deleted and reset, the list of open devices has no dangling
entry**: every interface in it is allocated and open. -/
theorem listed_allocated {calls : List LibraryCall} {garbage : Ref → HIDInterface}
    {rets : List LibraryReturn}
    (hclosed : Along (fun call => call.step env) DropsClosed calls (Library.start garbage))
    (h : runLibrary env calls (Library.start garbage) = .ok (rets, l)) :
    ∃ rs : List Ref, l.world.openHidDeviceList.Holds rs ∧ rs.Nodup ∧
      ∀ ref ∈ rs, ref ∈ l.allocated ∧ (l.world.hidifs ref).AllSet := by
  obtain ⟨hl, opened, hlife⟩ := tidy_run hclosed h
  obtain ⟨rs, hrs, hsub⟩ := hlife.listed
  refine ⟨rs, hrs, hsub.nodup hlife.nodup, fun ref href => ?_⟩
  have hisOpen := (hlife.isOpen ref).mp (hsub.subset href)
  refine ⟨hl.openAllocated ref hisOpen, ?_⟩
  rcases hlife.whole ref with hset | hnull
  · exact hset
  · rw [hnull.1] at hisOpen
    cases hisOpen

/-- `listed_allocated` for the client that has one interface open, and deletes the other. -/
theorem listed_allocated_bench : ∃ rets l, runLibrary (bench [benchDevice 4])
    (benchClient ++ [.hidDeleteHIDInterface (some 0)]) (Library.start fun _ => closedInterface) =
      .ok (rets, l) ∧ l.allocated = [1] ∧
    ∃ rs : List Ref, l.world.openHidDeviceList.Holds rs ∧ rs.length = 1 ∧
      ∀ ref ∈ rs, ref ∈ l.allocated := by
  have hrun : libraryEndsWith
      (fun l => l.allocated == [1] && l.world.openHidDeviceList.nDevices == 1)
      (runLibrary (bench [benchDevice 4]) (benchClient ++ [.hidDeleteHIDInterface (some 0)])
        (Library.start fun _ => closedInterface)) = true := by
    decide +kernel
  obtain ⟨rets, l, h, hp⟩ := exists_of_libraryEndsWith hrun
  simp only [Bool.and_eq_true, beq_iff_eq] at hp
  obtain ⟨rs, hrs, -, hall⟩ := listed_allocated (by decide +kernel) h
  exact ⟨rets, l, h, hp.1, rs, hrs, hrs.nDevices ▸ hp.2, fun ref href => (hall ref href).1⟩

end Steps

end Libhid
