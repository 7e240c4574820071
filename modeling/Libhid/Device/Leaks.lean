import Libhid.Device.Cleanup

/-!
# Handles left open

A handle is astray if `usb_open` returned it, and it is neither closed nor in an interface.  A
search leaves one astray exactly when it comes across a device that `hid_previously_matched` turns
down, and no call picks up a handle that is astray.  So the handles balance after exactly the runs
whose searches are clean (`handlesBalanced_iff`).
-/

namespace Libhid

open Framework

/-- The handle was opened, and is neither closed nor in an interface. -/
def World.Astray (w : World) (x : UsbHandle) : Prop :=
  x ∈ handles.acquisitions w.log ∧ x ∉ handles.releases w.log ∧ ¬ w.stored x

section Astray

variable {env : Env} {held : UsbHandle → Prop} {w u v : World} {ref : Ref} {x : UsbHandle}
  {m : HIDInterfaceMatcher} {bus : UsbBus} {dev : UsbDevice} {ret : HidReturn}

lemma Handled.astray_iff (h : Handled held w) : w.Astray x ↔ held x ∧ ¬ w.stored x := by
  rw [World.Astray, ← and_assoc, ← h.ledger.held_iff]

/-- A handle that is astray stays so while no interface gets a handle and none is closed. -/
lemma World.Astray.fewer (hx : w.Astray x) (h : SomeHandled w) (es : List Event)
    (hlog : u.log = es ++ w.log) (hn : ∀ e ∈ es, handles.Neutral e)
    (hsub : ∀ r y, (u.hidifs r).devHandle = some y → (w.hidifs r).devHandle = some y) :
    u.Astray x := by
  obtain ⟨held, hh⟩ := h
  obtain ⟨hheld, hnot⟩ := hh.astray_iff.mp hx
  refine (hh.fewer es hlog hn hsub).astray_iff.mpr ⟨hheld, ?_⟩
  rintro ⟨r, hr⟩
  exact hnot ⟨r, hsub r x hr⟩

lemma World.Astray.quiet (hx : w.Astray x) (h : SomeHandled w) (hq : Quiet ref w u) :
    u.Astray x := by
  obtain ⟨es, hlog, hn⟩ := hq.log
  exact hx.fewer h es hlog hn fun r y hr => (quiet_devHandle hq r).symm.trans hr

/-- `hid_close` closes the handle of an interface, and none that is astray. -/
lemma World.Astray.close (hx : w.Astray x) (h : SomeHandled w) (hc : Closed ref w u) :
    u.Astray x := by
  obtain ⟨held, hh⟩ := h
  obtain ⟨hheld, hnot⟩ := hh.astray_iff.mp hx
  refine (hh.close hc).astray_iff.mpr ⟨⟨fun hdev => hnot ⟨ref, hdev⟩, hheld⟩, ?_⟩
  rintro ⟨r, hr⟩
  rw [closed_devHandle hc] at hr
  split_ifs at hr
  exact hnot ⟨r, hr⟩

/-! ## The search -/

lemma compared_stored (w : World) (ref : Ref) (m : HIDInterfaceMatcher) (bus : UsbBus)
    (dev : UsbDevice) (x : UsbHandle) : (w.compared ref m bus dev).stored x ↔ w.stored x :=
  exists_congr fun r => by rw [compared_devHandle]

/-- A device that is turned down leaves its handle astray. -/
lemma SomeHandled.skipped (h : SomeHandled w) (ref : Ref) (bus : UsbBus) (dev : UsbDevice) :
    (w.afterOpen ref bus dev).Astray ⟨w.log.length, dev⟩ := by
  obtain ⟨held, hh⟩ := h
  obtain ⟨hnew, hc⟩ := hh.compared ref ⟨0, 0, none⟩ bus dev
  refine hc.astray_iff.mpr ⟨.inl rfl, fun hs => ?_⟩
  exact hnew (hh.stored _ ((compared_stored w ref ⟨0, 0, none⟩ bus dev _).mp hs))

/-- An inspection stores or closes the handle that it opens, and no other. -/
lemma World.Astray.inspected {o : Option HidReturn} (hx : w.Astray x) (h : SomeHandled w)
    (hi : Inspected env ref m bus dev w o u) : u.Astray x := by
  obtain ⟨held, hh⟩ := h
  obtain ⟨hheld, hnot⟩ := hh.astray_iff.mp hx
  cases hi with
  | failed =>
      have hq : Quiet ref w (w.atDevice ref bus dev (.usbOpen dev none)) := .atDevice ⟨rfl, rfl⟩
      exact hx.quiet ⟨held, hh⟩ hq
  | skipped =>
      refine (hh.compared ref ⟨0, 0, none⟩ bus dev).2.astray_iff.mpr ⟨.inr hheld, fun hs => ?_⟩
      exact hnot ((compared_stored w ref ⟨0, 0, none⟩ bus dev x).mp hs)
  | @found v _ _ _ hv =>
      change v = w.compared ref m bus dev at hv
      subst hv
      refine (hh.found rfl).astray_iff.mpr ⟨.inr hheld, ?_⟩
      rintro ⟨r, hr⟩
      by_cases href : r = ref
      · rw [href, World.write_same] at hr
        cases hr
        exact (hh.compared ref m bus dev).1 hheld
      · rw [World.write_other _ _ _ href, compared_devHandle] at hr
        exact hnot ⟨r, hr⟩
  | @passed v _ _ _ hv =>
      change v = w.compared ref m bus dev at hv
      subst hv
      refine (hh.passed ref m bus dev).astray_iff.mpr ⟨hheld, fun hs => ?_⟩
      exact hnot ((compared_stored w ref m bus dev x).mp hs)

lemma World.Astray.search (hx : w.Astray x) (h : SomeHandled w)
    (hf : hidFindUsbDevice env ref m w = .ok (ret, u)) : u.Astray x := by
  refine search_rule (I := fun _ v => SomeHandled v ∧ v.Astray x) (J := fun _ v => v.Astray x)
    ?_ ?_ ?_ ⟨h, hx⟩ hf
  · rintro bus dev rest v v' ⟨hv, hxv⟩ hi
    exact ⟨hv.inspected hi, hxv.inspected hv hi⟩
  · rintro bus dev rest v v' r ⟨hv, hxv⟩ hi
    exact hxv.inspected hv hi
  · rintro v ⟨-, hxv⟩
    exact hxv

/-- What holds between two inspections of a search that comes across a held device: it has left a
handle astray, or will. -/
structure LeakySearch (env : Env) (ref : Ref) (m : HIDInterfaceMatcher) (w : World)
    (rest : List UsbDevice) (v : World) : Prop where
  handled : SomeHandled v
  searching : Searching ref w v
  meets : (∃ x, v.Astray x) ∨
    meetsHeld env (w.holds (w.hidifs ref).interface) m v.log.length rest = true

/-- An inspection leaves a handle astray, or the search goes on to where it does. -/
lemma LeakySearch.inspected {rest : List UsbDevice} {o : Option HidReturn}
    (h : LeakySearch env ref m w (dev :: rest) v) (hi : Inspected env ref m bus dev v o u) :
    (∃ x, u.Astray x) ∨
      o = none ∧ meetsHeld env (w.holds (w.hidifs ref).interface) m u.log.length rest = true := by
  rcases h.meets with ⟨x, hx⟩ | hmeets
  · exact .inl ⟨x, hx.inspected h.handled hi⟩
  cases hi with
  | failed hf =>
      rw [meetsHeld, if_neg (by simp [hf])] at hmeets
      cases hmeets
  | skipped => exact .inl ⟨_, h.handled.skipped ref bus dev⟩
  | found ho hh hm hv =>
      -- the search would end before it meets the device
      rw [meetsHeld, if_pos ho, h.searching.holds_of_held hh, if_neg Bool.false_ne_true,
        if_pos hm] at hmeets
      cases hmeets
  | passed ho hh hm hv =>
      refine .inr ⟨rfl, ?_⟩
      rw [meetsHeld_passed h.searching ho hh hm hv]
      exact hmeets

/-- A search that comes across a held device leaves a handle astray. -/
lemma SomeHandled.leak (h : SomeHandled w)
    (hmeets : meetsHeld env (w.holds (w.hidifs ref).interface) m w.log.length
      ((env.usbGetBusses w.log.length).flatMap UsbBus.devices) = true)
    (hf : hidFindUsbDevice env ref m w = .ok (ret, u)) : ∃ x, u.Astray x := by
  refine search_rule (I := LeakySearch env ref m w) (J := fun _ v => ∃ x, v.Astray x)
    ?_ ?_ ?_ ⟨h, .refl ref w, .inr hmeets⟩ hf
  · intro bus dev rest v v' hv hi
    exact ⟨hv.handled.inspected hi, hv.searching.inspected hi,
      (hv.inspected hi).imp_right And.right⟩
  · intro bus dev rest v v' r hv hi
    exact (hv.inspected hi).resolve_right fun hnone => by cases hnone.1
  · intro v hv
    exact hv.meets.resolve_right Bool.false_ne_true

/-! ## Calls -/

/-- The rest of an open, behind its search, keeps what is astray. -/
lemma SomeHandled.openWith_astray {claim : Hid HidReturn} {i : ℤ} (h : SomeHandled w)
    (hclaim : Claims claim ref)
    (ho : Libhid.openWith env claim ref i m w = .ok (ret, u)) :
    ∃ r w₂, hidFindUsbDevice env ref m (w.atInterface ref i) = .ok (r, w₂) ∧
      ∀ x, w₂.Astray x → u.Astray x := by
  obtain ⟨r, w₂, hfind, hrest⟩ := openWith_cases hclaim ho
  refine ⟨r, w₂, hfind, fun x hx => ?_⟩
  have hw₂ := (h.atInterface ref i).search hfind
  rcases hrest with ⟨hr, -, rfl⟩ | ⟨-, w₃, hq, hrest⟩
  · refine hx.fewer hw₂ [] rfl (by simp) fun r' y hr' => ?_
    by_cases href : r' = ref
    · rw [href, World.write_same] at hr'
      cases hr'
    · rwa [World.write_other _ _ _ href] at hr'
  · have hw₃ : SomeHandled w₃ := hw₂.imp fun _ hh => hh.quiet hq
    have hx₃ := hx.quiet hw₂ hq
    rcases hrest with ⟨-, hc⟩ | ⟨-, -, -, rfl⟩
    · exact hx₃.close hw₃ hc
    · exact hx₃.fewer hw₃ [] rfl (by simp) fun _ _ hr => hr

/-- No call picks up a handle that is astray. -/
lemma World.Astray.step {call : Call} (hx : w.Astray x) (h : SomeHandled w)
    (hrun : call.run env w = .ok (ret, u)) : u.Astray x := by
  cases run_ok hrun with
  | declined => exact hx
  | @opened _ _ _ ref i m claim _ _ _ hclaim ho =>
      obtain ⟨r, w₂, hfind, hkeep⟩ := h.openWith_astray hclaim ho
      have hi : (w.atInterface ref i).Astray x :=
        hx.fewer h [] rfl (by simp) fun r y hr => (atInterface_devHandle w ref i r).symm.trans hr
      exact hkeep x (hi.search (h.atInterface ref i) hfind)
  | closed hc => exact hx.close h hc

/-- A call whose search is not clean leaves a handle astray. -/
lemma SomeHandled.step_leak {call : Call} (h : SomeHandled w) (hclean : ¬ SearchClean env call w)
    (hrun : call.run env w = .ok (ret, u)) : ∃ x, u.Astray x := by
  cases hc : call.opening with
  | none =>
      rw [SearchClean, hc] at hclean
      exact absurd trivial hclean
  | some opening =>
      obtain ⟨ref, i, m⟩ := opening
      rw [SearchClean, hc] at hclean
      simp only [Classical.not_imp, Bool.not_eq_false] at hclean
      obtain ⟨hinit, hn, hmeets⟩ := hclean
      obtain ⟨claim, hclaim, heq⟩ := run_opening hc hinit hn
      rw [heq] at hrun
      obtain ⟨r, w₂, hfind, hkeep⟩ := h.openWith_astray hclaim.claims hrun
      obtain ⟨x, hx⟩ := (h.atInterface ref i).leak
        (by rw [atInterface_interface]; exact hmeets) hfind
      exact ⟨x, hkeep x hx⟩

end Astray

/-! ## Runs -/

/-- The handles opened and not closed are those of the open interfaces, each once, and no handle
is closed twice. -/
def HandlesBalanced (w : World) : Prop :=
  (∀ h, (h ∈ handles.acquisitions w.log ∧ h ∉ handles.releases w.log) ↔ w.stored h) ∧
  (∀ r r' h, (w.hidifs r).devHandle = some h → (w.hidifs r').devHandle = some h → r = r') ∧
  (handles.releases w.log).Nodup ∧
  ∀ h ∈ handles.releases w.log, h ∈ handles.acquisitions w.log

lemma Books.balanced {w : World} (h : Books w) : HandlesBalanced w :=
  ⟨fun x => (h.ledger.held_iff x).symm, h.once, h.ledger.released_once, h.ledger.released_sub⟩

/-- The handles balance if and only if none is astray. -/
lemma SomeHandled.balanced_iff {w : World} (h : SomeHandled w) :
    HandlesBalanced w ↔ ∀ x, ¬ w.Astray x := by
  constructor
  · rintro ⟨hiff, -⟩ x ⟨hacq, hrel, hnot⟩
    exact hnot ((hiff x).mp ⟨hacq, hrel⟩)
  · intro hnone
    obtain ⟨held, hh⟩ := h
    refine (hh.books fun x hx => ?_).balanced
    by_contra hnot
    exact hnone x (hh.astray_iff.mpr ⟨hx, hnot⟩)

/-- **No handle is leaked and none is closed twice if and only if no search of the run comes across
a device that is already matched.** -/
theorem handlesBalanced_iff {env : Env} {calls : List Call} {initialised : Bool}
    {garbage : Ref → HIDInterface} {rets : List HidReturn} {w : World}
    (h : runCalls env calls (World.start initialised garbage) = .ok (rets, w)) :
    HandlesBalanced w ↔ Along (fun call => call.run env) (SearchClean env) calls
      (World.start initialised garbage) := by
  unfold runCalls at h
  have hstart := Books.start initialised garbage
  refine invariant_iff_along_under (I := HandlesBalanced) (J := SomeHandled) ?_ ?_ ?_
    ⟨_, hstart.handled⟩ hstart.balanced h
  · intro s t call ret hrun hs
    exact hs.step hrun
  · intro s t call ret hrun hs hbal
    constructor
    · intro ht
      by_contra hclean
      obtain ⟨x, hx⟩ := hs.step_leak hclean hrun
      exact (hs.step hrun).balanced_iff.mp ht x hx
    · intro hclean
      have hbooks : Books s := by
        obtain ⟨held, hh⟩ := hs
        exact hh.books fun x hx => (hbal.1 x).mp ((hh.ledger.held_iff x).mp hx)
      exact (hbooks.step hclean hrun).balanced
  · intro s t call ret hrun hs ht
    refine hs.balanced_iff.mpr fun x hx => ?_
    exact (hs.step hrun).balanced_iff.mp ht x (hx.step hs hrun)

/-- `handlesBalanced_iff` for a run that opens an interface of each of two devices, in the
reverse order of the bus, and closes one of them. -/
theorem handlesBalanced_iff_bench : ∃ rets w,
    runCalls (bench [benchDevice 1, benchDevice 2])
      [benchOpen 0 0, benchOpen 1 1, .hidClose 0] benchStart = .ok (rets, w) ∧
    rets = [.success, .success, .success] ∧ HandlesBalanced w := by
  have hrun : endsWith (fun rets _ => rets == [.success, .success, .success])
      (runCalls (bench [benchDevice 1, benchDevice 2])
        [benchOpen 0 0, benchOpen 1 1, .hidClose 0] benchStart) = true := by
    decide +kernel
  obtain ⟨rets, w, h, hp⟩ := exists_of_endsWith hrun
  exact ⟨rets, w, h, by simpa using hp, (handlesBalanced_iff h).mpr (by decide +kernel)⟩

/-- The books are not in order after every run: opening the second of two devices leaves a handle
of the first one open, which an interface already holds. -/
theorem handlesBalanced_fails : ¬ ∀ (env : Env) (calls : List Call) (initialised : Bool)
    (garbage : Ref → HIDInterface) (rets : List HidReturn) (w : World),
    runCalls env calls (World.start initialised garbage) = .ok (rets, w) → HandlesBalanced w := by
  intro hall
  have hrun : endsWith (fun rets w => rets == [.success, .success] &&
      (handles.acquisitions w.log).map UsbHandle.id == [9, 7, 0] &&
      handles.releases w.log == [] &&
      (w.hidifs 0).devHandle.map UsbHandle.id == some 0 &&
      (w.hidifs 1).devHandle.map UsbHandle.id == some 9)
      (runCalls (bench [benchDevice 1, benchDevice 2]) [benchOpen 0 0, benchOpen 1 0]
        benchStart) = true := by
    decide +kernel
  obtain ⟨rets, w, h, hp⟩ := exists_of_endsWith hrun
  simp only [Bool.and_eq_true, beq_iff_eq] at hp
  obtain ⟨⟨⟨⟨rfl, hacq⟩, hrel⟩, h₀⟩, h₁⟩ := hp
  -- the handle that the search for interface 1 left open
  have hmem : 7 ∈ (handles.acquisitions w.log).map UsbHandle.id := by
    rw [hacq]
    decide
  obtain ⟨x, hx, hid⟩ := List.mem_map.mp hmem
  obtain ⟨r, hr⟩ := ((hall _ _ _ _ _ _ h).1 x).mp ⟨hx, by simp [hrel]⟩
  have hopen : r ∈ [0, 1] := ((lifecycle_run h).isOpen r).mpr (by simp [hr])
  have hcases : r = 0 ∨ r = 1 := by simpa using hopen
  rcases hcases with rfl | rfl
  · rw [hr] at h₀
    simp [hid] at h₀
  · rw [hr] at h₁
    simp [hid] at h₁

end Libhid
