import Libhid.Device.Handles

/-!
# An open that fails

`hid_open` and `hid_force_open` fail in more than ten places, and some of them clean up in the
function that failed, some in its caller.  Whatever the place, the interface is closed again, the
handle stored in it was closed once and the blocks allocated for it were freed once
(`failedOpen_cleansUp`).  The invariant behind it is `Sound`: the blocks allocated and not freed are
those of the interfaces, each in one place (`Allocated`), and no handle is closed twice (`Handled`).
-/

namespace Libhid

open Framework

/-! ## Blocks in the log -/

/-- `malloc` acquires a block, `free` releases it. -/
def blocks : Accounts Event ℕ where
  acquired
    | .malloc b => b
    | _ => none
  released
    | .free a => some a
    | _ => none
  exclusive e := by cases e <;> simp

/-- The blocks allocated and not freed are those of the interfaces, each in one place. -/
structure Allocated (w : World) : Prop where
  fresh : ∀ a ∈ blocks.acquisitions w.log, a < w.log.length
  owned : Owned blocks w.log w.block

/-- From `w` to `u` no block was allocated, freed or moved. -/
structure SameBlocks (w u : World) : Prop where
  block : u.block = w.block
  log : Logs blocks.Neutral w u

lemma SameBlocks.trans {w u v : World} (h : SameBlocks w u) (h' : SameBlocks u v) :
    SameBlocks w v := ⟨h'.block.trans h.block, h.log.trans h'.log⟩

lemma blocks_through {dev : Option UsbHandle} {e : Event} (he : e.Through dev) :
    blocks.Neutral e := by
  cases e with
  | usbClaimInterface | usbDetachKernelDriver | usbControlMsg => exact ⟨rfl, rfl⟩
  | _ => cases he

section Steps

variable {env : Env} {ref : Ref} {m : HIDInterfaceMatcher} {w u : World} {ret : HidReturn}

lemma Works.sameBlocks {dev : Option UsbHandle} (h : Works (Event.Through dev) ref w u) :
    SameBlocks w u := ⟨h.block, h.log.mono fun _ => blocks_through⟩

lemma Browses.sameBlocks (h : Browses w u) : SameBlocks w u := by
  refine ⟨h.block, h.log.mono fun e he => ?_⟩
  cases e with
  | usbOpen | usbClaimInterface | matcherFn | usbClose => exact ⟨rfl, rfl⟩
  | _ => cases he

lemma Browses.atInterface (w : World) (ref : Ref) (i : ℤ) : Browses w (w.atInterface ref i) :=
  .write rfl

/-! ## The books of the blocks -/

namespace Allocated

lemma start (initialised : Bool) (garbage : Ref → HIDInterface) :
    Allocated (World.start initialised garbage) := by
  refine ⟨fun a ha => absurd ha List.not_mem_nil, ?_⟩
  have hnone : (World.start initialised garbage).block = fun _ => none := by
    funext slot
    obtain ⟨r, part⟩ := slot
    cases part <;> rfl
  rw [hnone]
  exact .empty blocks

lemma same (h : Allocated w) (hs : SameBlocks w u) : Allocated u := by
  obtain ⟨es, hlog, hn⟩ := hs.log
  refine ⟨fun a ha => ?_, ?_⟩
  · have hacq : blocks.acquisitions u.log = blocks.acquisitions w.log := by
      rw [hlog, Accounts.acquisitions, List.filterMap_append,
        List.filterMap_eq_nil_iff.mpr fun e he => (hn e he).1]
      rfl
    rw [hacq] at ha
    have := h.fresh a ha
    rw [hlog, List.length_append]
    omega
  · rw [hlog, hs.block]
    exact h.owned.skip_all hn

/-- `malloc` into a place of an interface that is empty. -/
lemma mallocs {part : Part} (h : Allocated w) (hm : Mallocs ref part w u)
    (hnone : w.block (ref, part) = none) : Allocated u := by
  obtain ⟨b, hblock, hlog, hb⟩ := hm.block
  cases b with
  | none =>
      have hsame : u.block = w.block := by
        rw [hblock, ← hnone, Function.update_eq_self]
      exact h.same ⟨hsame, [.malloc none], hlog, by simp [blocks, Accounts.Neutral]⟩
  | some a =>
      obtain rfl := hb a rfl
      have hnew : w.log.length ∉ blocks.acquisitions w.log := fun ha =>
        Nat.lt_irrefl _ (h.fresh _ ha)
      refine ⟨fun x hx => ?_, ?_⟩
      · rw [hlog] at hx ⊢
        rcases List.mem_cons.mp hx with rfl | hx
        · exact Nat.lt_succ_self _
        · exact Nat.lt_succ_of_lt (h.fresh x hx)
      · rw [hlog, hblock]
        exact h.owned.acquire rfl hnew hnone

lemma frees {log : List Event} {block : Ref × Part → Option ℕ} (h : Owned blocks log block)
    (slot : Ref × Part) :
    Owned blocks (freeEvents (block slot) ++ log) (Function.update block slot none) := by
  cases hb : block slot with
  | none =>
      rw [← hb, Function.update_eq_self, hb]
      exact h
  | some a => exact h.release rfl hb

/-- `hid_close` frees the blocks of its interface. -/
lemma close (h : Allocated w) (hc : hidClose env ref w = .ok (ret, u)) : Allocated u := by
  obtain ⟨-, -, hhidifs, hlog⟩ := hidClose_steps hc
  have hblock : u.block =
      Function.update (Function.update w.block (ref, .parser) none) (ref, .data) none := by
    funext slot
    obtain ⟨r, part⟩ := slot
    simp only [World.block, hhidifs, Function.update_apply, Prod.mk.injEq]
    by_cases hr : r = ref
    · cases part <;> simp [hr, HIDInterface.block]
    · simp [hr]
  have hclose : Owned blocks (closeEvents (w.hidifs ref).devHandle ++ w.log) w.block := by
    apply h.owned.skip_all
    intro e he
    cases hh : (w.hidifs ref).devHandle with
    | none =>
        rw [hh] at he
        cases he
    | some x =>
        rw [hh] at he
        rw [List.mem_singleton.mp he]
        exact ⟨rfl, rfl⟩
  have hfree := frees (frees hclose (ref, .parser)) (ref, .data)
  rw [Function.update_of_ne (by simp)] at hfree
  have hlog' : u.log = freeEvents (w.block (ref, .data)) ++ (freeEvents (w.block (ref, .parser)) ++
      (closeEvents (w.hidifs ref).devHandle ++ w.log)) := by
    rw [hlog, closingEvents, List.append_assoc, List.append_assoc]
    rfl
  have hacq : blocks.acquisitions u.log = blocks.acquisitions w.log := by
    rw [hlog']
    cases w.block (ref, .data) <;> cases w.block (ref, .parser) <;>
      cases (w.hidifs ref).devHandle <;> rfl
  refine ⟨fun a ha => ?_, ?_⟩
  · rw [hacq] at ha
    have := h.fresh a ha
    rw [hlog, List.length_append]
    omega
  · rw [hlog', hblock]
    exact hfree

/-- `hid_prepare_interface` allocates the two blocks, and frees them if it fails. -/
lemma prepare (h : Allocated w) (hnone : ∀ part, w.block (ref, part) = none)
    (hopen : (w.hidifs ref).isOpened = true)
    (hp : hidPrepareInterface env ref w = .ok (ret, u)) : Allocated u := by
  obtain ⟨r, v, x, hi, hw, hrest⟩ := hidPrepareInterface_steps hopen hp
  have hv : Allocated v := by
    obtain ⟨v', hm, ⟨-, rfl⟩ | ⟨hm', -⟩⟩ := hidInitParser_mallocs hopen hi
    · exact h.mallocs hm (hnone .data)
    · refine (h.mallocs hm (hnone .data)).mallocs hm' ?_
      obtain ⟨b, hblock, -⟩ := hm.block
      rw [hblock, Function.update_of_ne (by simp), hnone .parser]
  have hx := hv.same hw.sameBlocks
  rcases hrest with ⟨-, -, rfl⟩ | ⟨-, c, hc⟩
  · exact hx
  · exact hx.close hc

lemma openWith {claim : Hid HidReturn} {i : ℤ} (h : Allocated w)
    (hnone : ∀ part, w.block (ref, part) = none) (hclaim : ClaimsThrough claim ref)
    (ho : Libhid.openWith env claim ref i m w = .ok (ret, u)) : Allocated u := by
  obtain ⟨r, w₂, hfind, hrest⟩ := openWith_split ho
  have hb := (Browses.atInterface w ref i).trans (hidFindUsbDevice_browses hfind)
  have hs := hb.sameBlocks
  rcases hrest with ⟨-, -, rfl⟩ | ⟨rfl, c, w₃, hc, hrest⟩
  · have hw : Browses w₂ (w₂.write ref { w₂.hidifs ref with devHandle := none, device := none }) :=
      .write rfl
    exact h.same (hb.trans hw).sameBlocks
  · have hs₃ := hs.trans (hclaim hc).sameBlocks
    rcases hrest with ⟨-, -, x, hx⟩ | ⟨w₄, hp, rfl⟩
    · exact (h.same hs₃).close hx
    · obtain ⟨y, hy⟩ := hidFindUsbDevice_devHandle hfind
      have hopen : (w₃.hidifs ref).isOpened = true := by
        rw [HIDInterface.isOpened, (hclaim hc).devHandle, hy]
        rfl
      have hw₄ := (h.same hs₃).prepare (fun part => by rw [hs₃.block, hnone]) hopen hp
      split_ifs
      · exact ⟨hw₄.fresh, hw₄.owned⟩
      · exact hw₄

end Allocated

/-! ## The books of the handles -/

/-- The books are in order, for some handles held. -/
def SomeHandled (w : World) : Prop := ∃ held, Handled held w

lemma SomeHandled.inspected {bus : UsbBus} {dev : UsbDevice} {o : Option HidReturn}
    (h : SomeHandled w) (hi : Inspected env ref m bus dev w o u) : SomeHandled u := by
  obtain ⟨held, hh⟩ := h
  cases hi with
  | failed =>
      have hq : Quiet ref w (w.atDevice ref bus dev (.usbOpen dev none)) := .atDevice ⟨rfl, rfl⟩
      exact ⟨held, hh.quiet hq⟩
  | skipped =>
      have hc := (hh.compared ref ⟨0, 0, none⟩ bus dev).2
      exact ⟨_, hc⟩
  | @found v _ _ _ hv =>
      change v = w.compared ref m bus dev at hv
      subst hv
      exact ⟨_, hh.found rfl⟩
  | @passed v _ _ _ hv =>
      change v = w.compared ref m bus dev at hv
      subst hv
      exact ⟨held, hh.passed ref m bus dev⟩

lemma SomeHandled.search (h : SomeHandled w) (hf : hidFindUsbDevice env ref m w = .ok (ret, u)) :
    SomeHandled u := by
  refine search_rule (I := fun _ v => SomeHandled v) (J := fun _ v => SomeHandled v)
    ?_ ?_ ?_ h hf
  · intro bus dev rest v v' hv hi
    exact hv.inspected hi
  · intro bus dev rest v v' r hv hi
    exact hv.inspected hi
  · intro v hv
    exact hv

lemma SomeHandled.same (h : SomeHandled w) (hlog : u.log = w.log)
    (hsame : ∀ r, (u.hidifs r).devHandle = (w.hidifs r).devHandle) : SomeHandled u := by
  obtain ⟨held, hh⟩ := h
  exact ⟨held, hh.of_neutral [] hlog (fun _ he => absurd he List.not_mem_nil) hsame⟩

lemma SomeHandled.atInterface (h : SomeHandled w) (ref : Ref) (i : ℤ) :
    SomeHandled (w.atInterface ref i) := .same h rfl (atInterface_devHandle w ref i)

/-- The search does not touch a handle unless it succeeds. -/
lemma search_devHandle (hf : hidFindUsbDevice env ref m w = .ok (ret, u)) (hret : ret ≠ .success) :
    (u.hidifs ref).devHandle = (w.hidifs ref).devHandle := by
  rcases hidFindUsbDevice_ok hf with ⟨hr, -⟩ | ⟨-, hs⟩
  · exact absurd hr hret
  · obtain ⟨id, hid⟩ := hs.hidifs
    rw [hid, Function.update_self]
    rfl

lemma SomeHandled.openWith {claim : Hid HidReturn} {i : ℤ} (h : SomeHandled w)
    (hnone : (w.hidifs ref).devHandle = none) (hclaim : Claims claim ref)
    (ho : Libhid.openWith env claim ref i m w = .ok (ret, u)) : SomeHandled u := by
  obtain ⟨r, w₂, hfind, hrest⟩ := openWith_cases hclaim ho
  have hw₂ := (h.atInterface ref i).search hfind
  rcases hrest with ⟨hr, -, rfl⟩ | ⟨-, w₃, hq, hrest⟩
  · refine hw₂.same rfl fun r' => ?_
    by_cases hr' : r' = ref
    · rw [hr', World.write_same, search_devHandle hfind hr, atInterface_devHandle, hnone]
    · rw [World.write_other _ _ _ hr']
  · obtain ⟨held, hh⟩ := hw₂
    have hw₃ := hh.quiet hq
    rcases hrest with ⟨-, hc⟩ | ⟨-, -, -, rfl⟩
    · exact ⟨_, hw₃.close hc⟩
    · exact SomeHandled.same ⟨held, hw₃⟩ rfl fun _ => rfl

/-- Every call keeps books of the handles. -/
lemma SomeHandled.step {call : Call} (h : SomeHandled w) (hrun : call.run env w = .ok (ret, u)) :
    SomeHandled u := by
  cases run_ok hrun with
  | declined => exact h
  | opened _ _ hn hclaim ho => exact h.openWith hn hclaim ho
  | closed hc =>
      obtain ⟨held, hh⟩ := h
      exact ⟨_, hh.close hc⟩

/-! ## The invariant -/

/-- The invariant of a run: the life cycle, the books of both kinds, and no device without a
handle. -/
structure Sound (opened : List Ref) (w : World) : Prop where
  lifecycle : Lifecycle opened w
  allocated : Allocated w
  handled : SomeHandled w
  device : ∀ r, (w.hidifs r).devHandle = none → (w.hidifs r).device = none

lemma HIDInterface.AllNull.block {hidif : HIDInterface} (h : hidif.AllNull) (part : Part) :
    hidif.block part = none := by
  obtain ⟨-, hd, hp⟩ := h
  cases part with
  | data => rw [HIDInterface.block, hd]; rfl
  | parser => rw [HIDInterface.block, hp]; rfl

namespace Sound

variable {opened : List Ref}

lemma start (initialised : Bool) (garbage : Ref → HIDInterface) :
    Sound [] (World.start initialised garbage) :=
  ⟨.start initialised garbage, .start initialised garbage,
    ⟨_, (Books.start initialised garbage).handled⟩, fun _ _ => rfl⟩

lemma allNull (h : Sound opened w) (hn : (w.hidifs ref).devHandle = none) :
    (w.hidifs ref).AllNull := .of_whole (h.lifecycle.whole ref) hn

/-- Every call keeps the invariant. -/
lemma step {call : Call} (h : Sound opened w) (hrun : call.run env w = .ok (ret, u)) :
    Sound (openingOrder opened call ret) u := by
  refine ⟨h.lifecycle.step hrun, ?_, h.handled.step hrun, ?_⟩
  · rcases run_cases hrun with ⟨ref, rfl, hc⟩ | ⟨-, ⟨-, rfl⟩ | hopen⟩
    · exact h.allocated.close hc
    · exact h.allocated
    · obtain ⟨ref, i, m, claim, -, -, hn, hclaim, ho⟩ := hopen
      exact h.allocated.openWith (fun part => (h.allNull hn).block part) hclaim ho
  · intro r hr
    rcases run_cases hrun with ⟨ref, rfl, hc⟩ | ⟨-, ⟨-, rfl⟩ | hopen⟩
    · rw [(hidClose_ok hc).hidifs, Function.update_apply] at hr ⊢
      split_ifs at hr ⊢
      · rfl
      · exact h.device r hr
    · exact h.device r hr
    · obtain ⟨ref, i, m, claim, -, -, -, hclaim, ho⟩ := hopen
      rcases openWith_ok hclaim.claims ho with ⟨-, hopens⟩ | ⟨hne, hf⟩
      · by_cases hr' : r = ref
        · obtain ⟨x, _, hx, -⟩ := hopens.handle
          rw [hr', hx] at hr
          cases hr
        · rw [hopens.others r hr'] at hr ⊢
          exact h.device r hr
      · by_cases hr' : r = ref
        · rw [hr']
          exact openWith_device hclaim.claims ho hne
        · rw [hf.others r hr'] at hr ⊢
          exact h.device r hr

end Sound

/-- The invariant holds after every run. -/
lemma sound_run {calls : List Call} {initialised : Bool} {garbage : Ref → HIDInterface}
    {rets : List HidReturn} (h : runCalls env calls (World.start initialised garbage) =
      .ok (rets, w)) : ∃ opened, Sound opened w := by
  unfold runCalls at h
  refine ⟨_, invariant_runAll (I := Sound) (P := fun _ _ => True) (f := openingOrder) ?_
    (.start initialised garbage) (Along.of_forall (fun _ _ => trivial) calls _) h⟩
  intro opened s t call ret hs _ hrun
  exact hs.step hrun

end Steps

/-! ## Failing -/

/-- The interface `hid_open` or `hid_force_open` is called for. -/
def Call.opens : Call → Option Ref
  | .hidOpen hidif _ _ | .hidForceOpen hidif _ _ _ => hidif
  | .hidClose _ => none

/-- The handle that the search of an opening call stores in its interface, if the call gets as far
as that. -/
def handleStored (env : Env) (call : Call) (w : World) : Option UsbHandle :=
  match call.opening with
  | none => none
  | some (ref, i, m) =>
      if w.initialised then
        match hidFindUsbDevice env ref m (w.atInterface ref i) with
        | .error _ => none
        | .ok (_, v) => (v.hidifs ref).devHandle
      else none

/-- What a call that failed to open `ref` leaves behind: nothing. -/
structure CleanedUp (env : Env) (call : Call) (ref : Ref) (w u : World) : Prop where
  devHandle : (u.hidifs ref).devHandle = none
  device : (u.hidifs ref).device = none
  hidData : (u.hidifs ref).hidData = none
  hidParser : (u.hidifs ref).hidParser = none
  handle : ∀ h, handleStored env call w = some h → u.log.count (.usbClose h) = 1
  blocks : ∃ es, u.log = es ++ w.log ∧
    ∀ a, .malloc (some a) ∈ es → u.log.count (.free a) = 1
  initialised : u.initialised = w.initialised
  list : u.openHidDeviceList = w.openHidDeviceList
  others : ∀ r, r ≠ ref → u.hidifs r = w.hidifs r

section Failing

variable {env : Env} {ref : Ref} {w u : World} {ret : HidReturn} {opened : List Ref} {call : Call}

lemma opens_of_opening {r : Ref} {i : ℤ} {m : HIDInterfaceMatcher}
    (h : call.opening = some (r, i, m)) : call.opens = some r := by
  unfold Call.opening at h
  split at h
  · cases h
    rfl
  · cases h
    rfl
  · cases h

lemma count_usbClose (log : List Event) (h : UsbHandle) :
    log.count (.usbClose h) = (handles.releases log).count h := by
  rw [Accounts.releases, List.count_filterMap, List.count_eq_countP]
  refine List.countP_congr fun e _ => ?_
  cases e <;> simp [handles]

lemma count_free (log : List Event) (a : ℕ) :
    log.count (.free a) = (blocks.releases log).count a := by
  rw [Accounts.releases, List.count_filterMap, List.count_eq_countP]
  refine List.countP_congr fun e _ => ?_
  cases e <;> simp [blocks]

/-- Blocks that a call allocated and no interface has were freed once. -/
lemma Allocated.freed (hw : Allocated w) (h : Allocated u) {es : List Event}
    (hlog : u.log = es ++ w.log) (hblock : ∀ slot a, u.block slot = some a → w.block slot = some a)
    {a : ℕ} (ha : .malloc (some a) ∈ es) : u.log.count (.free a) = 1 := by
  have hmem : a ∈ blocks.acquisitions es := List.mem_filterMap.mpr ⟨_, ha, rfl⟩
  have hacq : blocks.acquisitions u.log = blocks.acquisitions es ++ blocks.acquisitions w.log := by
    rw [hlog, Accounts.acquisitions, List.filterMap_append]
    rfl
  rw [count_free]
  refine h.owned.ledger.count_releases (hacq ▸ List.mem_append_left _ hmem) ?_
  rintro ⟨slot, hslot⟩
  have hold := (hw.owned.ledger.held_iff a).mp ⟨slot, hblock slot a hslot⟩
  have hnodup := h.owned.ledger.acquired_once
  rw [hacq] at hnodup
  exact (List.nodup_append.mp hnodup).2.2 a hmem a hold.1 rfl

/-- A handle that was held when it was closed was closed once. -/
lemma Handled.closed_once {held : UsbHandle → Prop} (h : Handled held w) (hc : Closed ref w u)
    {x : UsbHandle} (hx : (w.hidifs ref).devHandle = some x) : u.log.count (.usbClose x) = 1 := by
  have hu := h.close hc
  have hacq := ((h.ledger.held_iff x).mp (h.stored x ⟨ref, hx⟩)).1
  obtain ⟨es, hlog, hn⟩ := hc.log
  rw [count_usbClose]
  refine hu.ledger.count_releases ?_ fun hheld => hheld.1 hx
  rw [hlog, acquisitions_neutral hn, hx]
  exact hacq

/-- The calls of an opening come after those made before it. -/
lemma openWith_log {claim : Hid HidReturn} {i : ℤ} {m : HIDInterfaceMatcher}
    (hclaim : Claims claim ref) (ho : openWith env claim ref i m w = .ok (ret, u)) :
    ∃ es, u.log = es ++ w.log := by
  obtain ⟨r, w₂, hfind, hrest⟩ := openWith_cases hclaim ho
  obtain ⟨es, hes, -⟩ := (hidFindUsbDevice_browses hfind).log
  rcases hrest with ⟨-, -, rfl⟩ | ⟨-, w₃, hq, hrest⟩
  · exact ⟨es, hes⟩
  · obtain ⟨es', hes', -⟩ := hq.log
    rcases hrest with ⟨-, hc⟩ | ⟨-, -, -, rfl⟩
    · obtain ⟨es₃, hes₃, -⟩ := hc.log
      refine ⟨es₃ ++ (closeEvents (w₃.hidifs ref).devHandle ++ (es' ++ es)), ?_⟩
      rw [hes₃, hes', hes]
      simp only [List.append_assoc]
      rfl
    · exact ⟨es' ++ es, by rw [List.append_assoc, ← show w₂.log = es ++ w.log from hes]; exact hes'⟩

/-- The handle stored by the search is closed once by an open that fails. -/
lemma Sound.handle_closed {i : ℤ} {m : HIDInterfaceMatcher} {claim : Hid HidReturn}
    (h : Sound opened w) (hnone : (w.hidifs ref).devHandle = none) (hclaim : Claims claim ref)
    (ho : openWith env claim ref i m w = .ok (ret, u)) (hret : ret ≠ .success) {r : HidReturn}
    {v : World} (hfind : hidFindUsbDevice env ref m (w.atInterface ref i) = .ok (r, v))
    {x : UsbHandle} (hx : (v.hidifs ref).devHandle = some x) :
    u.log.count (.usbClose x) = 1 := by
  obtain ⟨r', w₂, hfind', hrest⟩ := openWith_cases hclaim ho
  rw [hfind] at hfind'
  cases hfind'
  rcases hrest with ⟨hr, -⟩ | ⟨-, w₃, hq, ⟨-, hc⟩ | ⟨hs, -⟩⟩
  · rw [search_devHandle hfind hr, atInterface_devHandle, hnone] at hx
    cases hx
  · obtain ⟨held, hh⟩ := (h.handled.atInterface ref i).search hfind
    exact (hh.quiet hq).closed_once hc (hq.devHandle.trans hx)
  · exact absurd hs hret

lemma Sound.openWith_cleansUp {i : ℤ} {m : HIDInterfaceMatcher} {claim : Hid HidReturn}
    (h : Sound opened w) (hopening : call.opening = some (ref, i, m))
    (hinit : w.initialised = true) (hn : (w.hidifs ref).devHandle = none)
    (hclaim : ClaimsThrough claim ref) (ho : openWith env claim ref i m w = .ok (ret, u))
    (hret : ret ≠ .success) : CleanedUp env call ref w u := by
  obtain ⟨hs, -⟩ | ⟨-, hf⟩ := openWith_ok hclaim.claims ho
  · exact absurd hs hret
  have hnull : (u.hidifs ref).AllNull := by
    rcases hf.outcome with ⟨-, hdev, hdata, hparser⟩ | ⟨-, hc⟩
    · obtain ⟨-, hd, hp⟩ := h.allNull hn
      exact ⟨hdev, hdata.trans hd, hparser.trans hp⟩
    · rw [hc]
      exact closedInterface_allNull
  obtain ⟨es, hes⟩ := openWith_log hclaim.claims ho
  refine ⟨hnull.1, openWith_device hclaim.claims ho hret, hnull.2.1, hnull.2.2, ?_,
    ⟨es, hes, ?_⟩, hf.initialised, ?_, hf.others⟩
  · intro x hx
    rw [handleStored, hopening] at hx
    dsimp only at hx
    rw [if_pos hinit] at hx
    cases hfind : hidFindUsbDevice env ref m (w.atInterface ref i) with
    | error e =>
        rw [hfind] at hx
        cases hx
    | ok out =>
        rw [hfind] at hx
        exact h.handle_closed hn hclaim.claims ho hret hfind hx
  · -- no interface has a block that it did not have before
    intro a ha
    have hu := h.allocated.openWith (fun part => (h.allNull hn).block part) hclaim ho
    refine h.allocated.freed hu hes ?_ ha
    rintro ⟨r, part⟩ b hb
    by_cases hr : r = ref
    · subst hr
      rw [World.block, hnull.block] at hb
      cases hb
    · rw [World.block, hf.others r hr] at hb
      exact hb
  · rcases hf.outcome with ⟨hlist, -⟩ | ⟨hlist, -⟩
    · exact hlist
    · obtain ⟨rs, hrs, hsub⟩ := h.lifecycle.listed
      have hnot : ref ∉ rs := fun hmem => h.lifecycle.not_mem hn (hsub.subset hmem)
      rw [hrs.remove_of_not_mem hnot] at hlist
      exact (Except.ok.inj hlist).symm

/-- A call that was turned down changed nothing. -/
lemma Sound.declined_cleansUp (h : Sound opened w) (hn : (w.hidifs ref).devHandle = none)
    (hs : handleStored env call w = none) : CleanedUp env call ref w w := by
  obtain ⟨hdev, hd, hp⟩ := h.allNull hn
  refine ⟨hdev, h.device ref hn, hd, hp, fun x hx => ?_, ⟨[], rfl, fun a ha => ?_⟩, rfl, rfl,
    fun _ _ => rfl⟩
  · rw [hs] at hx
    cases hx
  · cases ha

/-- **An open that fails leaves nothing behind**: the interface is closed again, its handle was
closed once, its blocks were freed once, and the list and the other interfaces are as before. -/
theorem failedOpen_cleansUp {calls : List Call} {initialised : Bool} {garbage : Ref → HIDInterface}
    {rets : List HidReturn} (hrun : runCalls env calls (World.start initialised garbage) =
      .ok (rets, w)) (hcall : call.opens = some ref) (hclosed : (w.hidifs ref).isOpened = false)
    (h : call.run env w = .ok (ret, u)) (hret : ret ≠ .success) :
    CleanedUp env call ref w u := by
  obtain ⟨opened, hw⟩ := sound_run hrun
  have hn : (w.hidifs ref).devHandle = none := by simpa [HIDInterface.isOpened] using hclosed
  by_cases hgo : w.initialised = true ∧ call.opening.isSome
  · obtain ⟨hinit, hsome⟩ := hgo
    obtain ⟨⟨r, i, m⟩, hopening⟩ := Option.isSome_iff_exists.mp hsome
    rw [opens_of_opening hopening] at hcall
    cases hcall
    obtain ⟨claim, hclaim, heq⟩ := run_opening hopening hinit hn
    rw [heq] at h
    exact hw.openWith_cleansUp hopening hinit hn hclaim h hret
  · have hs : handleStored env call w = none := by
      unfold handleStored
      cases hopening : call.opening with
      | none => rfl
      | some x => exact if_neg fun hinit => hgo ⟨hinit, by rw [hopening]; rfl⟩
    rcases run_cases h with ⟨r, rfl, -⟩ | ⟨-, ⟨-, rfl⟩ | ⟨r, i, m, _, hopening, hinit, -⟩⟩
    · cases hcall
    · exact hw.declined_cleansUp hn hs
    · exact absurd ⟨hinit, by rw [hopening]; rfl⟩ hgo

/-- `failedOpen_cleansUp` for a device whose descriptor cannot be read, after both blocks were
allocated. -/
theorem failedOpen_cleansUp_bench : ∃ u,
    (benchOpen 0 0).run { bench [benchDevice 4] with usbControlMsg := fun _ => (-1, fun _ => 0) }
      benchStart = .ok (.notHidDevice, u) ∧
    CleanedUp { bench [benchDevice 4] with usbControlMsg := fun _ => (-1, fun _ => 0) }
      (benchOpen 0 0) 0 benchStart u := by
  have hrun : endsWith (fun ret _ => ret == .notHidDevice)
      ((benchOpen 0 0).run
        { bench [benchDevice 4] with usbControlMsg := fun _ => (-1, fun _ => 0) } benchStart) =
      true := by
    decide +kernel
  obtain ⟨ret, u, h, hp⟩ := exists_of_endsWith hrun
  obtain rfl : ret = .notHidDevice := by simpa using hp
  have hnil : runCalls { bench [benchDevice 4] with usbControlMsg := fun _ => (-1, fun _ => 0) } []
      benchStart = .ok ([], benchStart) := rfl
  exact ⟨u, h, failedOpen_cleansUp hnil rfl rfl h (by decide)⟩

end Failing

end Libhid
