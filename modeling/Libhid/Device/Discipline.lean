import Libhid.Device.Library

/-!
# Handles are used while they are open

Transfers, claims, detachments, the custom function and `usb_close` get a handle.  In every run of
the library, in any order of calls, each of them gets a handle that `usb_open` returned and that was
not closed before, but for the request that `hid_set_idle` makes of an interface that is not open,
through `NULL` (`handles_live`).  This holds also where a search leaves a handle open.
-/

namespace Libhid

open Framework

/-- The handle a call out of the library gets. -/
def Event.handle : Event → Option UsbHandle
  | .usbClaimInterface dev _ | .usbDetachKernelDriver dev _ => dev
  | .usbInterruptRead dev _ _ _ _ | .usbInterruptWrite dev _ _ _ _ => dev
  | .usbControlMsg msg _ => msg.dev
  | .usbClose dev | .matcherFn dev => some dev
  | .usbOpen _ _ | .malloc _ | .free _ => none

/-- The books of the handles are in order, and every handle was used while it was open. -/
structure Disciplined (w : World) : Prop where
  handled : SomeHandled w
  used : UsedHeld handles Event.handle w.log

namespace Disciplined

variable {env : Env} {ref : Ref} {m : HIDInterfaceMatcher} {w u : World} {ret : HidReturn}

lemma start (initialised : Bool) (garbage : Ref → HIDInterface) :
    Disciplined (World.start initialised garbage) :=
  ⟨⟨_, (Books.start initialised garbage).handled⟩, .nil _ _⟩

/-- The handle of an interface was opened and is not closed. -/
lemma live (h : Disciplined w) {x : UsbHandle} (hx : (w.hidifs ref).devHandle = some x) :
    x ∈ handles.acquisitions w.log ∧ x ∉ handles.releases w.log := by
  obtain ⟨held, hh⟩ := h.handled
  exact (hh.ledger.held_iff x).mp (hh.stored x ⟨ref, hx⟩)

/-- Steps that get only handles in the interfaces, which keep theirs or lose them. -/
lemma fewer (h : Disciplined w) (es : List Event) (hlog : u.log = es ++ w.log)
    (hn : ∀ e ∈ es, handles.Neutral e)
    (hes : ∀ e ∈ es, ∀ x, e.handle = some x → w.stored x)
    (hsub : ∀ r x, (u.hidifs r).devHandle = some x → (w.hidifs r).devHandle = some x) :
    Disciplined u := by
  obtain ⟨held, hh⟩ := h.handled
  refine ⟨⟨held, hh.fewer es hlog hn hsub⟩, ?_⟩
  rw [hlog]
  refine h.used.append hn fun e he x hx => ?_
  obtain ⟨r, hr⟩ := hes e he x hx
  exact h.live hr

lemma of_neutral (h : Disciplined w) (es : List Event) (hlog : u.log = es ++ w.log)
    (hn : ∀ e ∈ es, handles.Neutral e)
    (hes : ∀ e ∈ es, ∀ x, e.handle = some x → w.stored x)
    (hsame : ∀ r, (u.hidifs r).devHandle = (w.hidifs r).devHandle) : Disciplined u :=
  h.fewer es hlog hn hes fun r _ hr => (hsame r).symm.trans hr

lemma works {P : Event → Prop} (h : Disciplined w) (hw : Works P ref w u)
    (hP : ∀ e, P e → handles.Neutral e ∧ ∀ x, e.handle = some x →
      (w.hidifs ref).devHandle = some x) : Disciplined u := by
  obtain ⟨es, hlog, hes⟩ := hw.log
  refine h.of_neutral es hlog (fun e he => (hP e (hes e he)).1)
    (fun e he x hx => ⟨ref, (hP e (hes e he)).2 x hx⟩) fun r => ?_
  by_cases hr : r = ref
  · rw [hr, hw.devHandle]
  · rw [hw.others r hr]

lemma through (h : Disciplined w)
    (hw : Works (Event.Through (w.hidifs ref).devHandle) ref w u) : Disciplined u := by
  refine h.works hw fun e he => ⟨neutral_through he, fun x hx => ?_⟩
  cases e with
  | usbClaimInterface | usbDetachKernelDriver | usbControlMsg => exact he.symm.trans hx
  | _ => cases he

lemma operates (h : Disciplined w) (hw : Operates ref w u) : Disciplined u := by
  refine h.works hw.works fun e he => ?_
  cases e with
  | usbControlMsg | usbInterruptRead | usbInterruptWrite =>
      exact ⟨⟨rfl, rfl⟩, fun x hx => he.symm.trans hx⟩
  | malloc b => exact ⟨neutral_malloc b, fun x hx => by cases hx⟩
  | free a => exact ⟨neutral_free a, fun x hx => by cases hx⟩
  | _ => cases he

lemma mallocs {part : Part} (h : Disciplined w) (hm : Mallocs ref part w u) : Disciplined u := by
  obtain ⟨b, -, hlog, -⟩ := hm.block
  refine h.of_neutral [.malloc b] hlog ?_ ?_ fun r => ?_
  · intro e he
    rw [List.mem_singleton.mp he]
    exact neutral_malloc b
  · intro e he x hx
    rw [List.mem_singleton.mp he] at hx
    cases hx
  · by_cases hr : r = ref
    · rw [hr, hm.devHandle]
    · rw [hm.others r hr]

/-- `hid_close` closes the handle of its interface, and then frees its blocks. -/
lemma close (h : Disciplined w) (hc : hidClose env ref w = .ok (ret, u)) : Disciplined u := by
  obtain ⟨held, hh⟩ := h.handled
  refine ⟨⟨_, hh.close (hidClose_ok hc)⟩, ?_⟩
  obtain ⟨-, -, -, hlog⟩ := hidClose_steps hc
  have hclosed : UsedHeld handles Event.handle
      (closeEvents (w.hidifs ref).devHandle ++ w.log) := by
    cases hx : (w.hidifs ref).devHandle with
    | none => exact h.used
    | some x =>
        refine h.used.cons fun y hy => ?_
        cases hy
        exact h.live hx
  have hfreed : ∀ {log : List Event} (a : Option ℕ), UsedHeld handles Event.handle log →
      UsedHeld handles Event.handle (freeEvents a ++ log) := by
    intro log a hlog
    refine hlog.append (fun e he => neutral_freeEvents he) fun e he x hx => ?_
    cases a with
    | none => cases he
    | some a =>
        rw [List.mem_singleton.mp he] at hx
        cases hx
  rw [hlog, closingEvents, List.append_assoc, List.append_assoc]
  exact hfreed _ (hfreed _ hclosed)

lemma prepare (h : Disciplined w) (hopen : (w.hidifs ref).isOpened = true)
    (hp : hidPrepareInterface env ref w = .ok (ret, u)) : Disciplined u := by
  obtain ⟨r, v, x, hi, hw, hrest⟩ := hidPrepareInterface_steps hopen hp
  have hv : Disciplined v := by
    obtain ⟨v', hm, ⟨-, rfl⟩ | ⟨hm', -⟩⟩ := hidInitParser_mallocs hopen hi
    · exact h.mallocs hm
    · exact (h.mallocs hm).mallocs hm'
  have hx := hv.through hw
  rcases hrest with ⟨-, -, rfl⟩ | ⟨-, c, hc⟩
  · exact hx
  · exact hx.close hc

/-! ## The search -/

/-- The device is opened, claimed and compared. -/
lemma compared (h : Disciplined w) (ref : Ref) (m : HIDInterfaceMatcher) (bus : UsbBus)
    (dev : UsbDevice) :
    UsedHeld handles Event.handle (w.compared ref m bus dev).log ∧
      ⟨w.log.length, dev⟩ ∈ handles.acquisitions (w.compared ref m bus dev).log ∧
      ⟨w.log.length, dev⟩ ∉ handles.releases (w.compared ref m bus dev).log := by
  obtain ⟨held, hh⟩ := h.handled
  have hcompared := (hh.compared ref m bus dev).2
  have hnew : (⟨w.log.length, dev⟩ : UsbHandle) ∉ handles.acquisitions w.log := fun hmem =>
    Nat.lt_irrefl _ (hh.fresh _ hmem)
  have hledger := hh.ledger.acquire (e := .usbOpen dev (some ⟨w.log.length, dev⟩)) rfl hnew
  refine ⟨?_, (hcompared.ledger.held_iff _).mp (.inl rfl)⟩
  rw [compared_log]
  have hopened : UsedHeld handles Event.handle
      (.usbOpen dev (some ⟨w.log.length, dev⟩) :: w.log) := h.used.cons fun x hx => by cases hx
  refine hopened.append (inspectLog_neutral m _ _) fun e he x hx => ?_
  have hx' : x = ⟨w.log.length, dev⟩ := by
    unfold inspectLog at he
    split_ifs at he <;> simp at he
    · rcases he with rfl | rfl <;> cases hx <;> rfl
    · subst he
      cases hx
      rfl
  rw [hx']
  exact (hledger.held_iff _).mp (.inl rfl)

lemma inspected {bus : UsbBus} {dev : UsbDevice} {o : Option HidReturn} (h : Disciplined w)
    (hi : Inspected env ref m bus dev w o u) : Disciplined u := by
  refine ⟨h.handled.inspected hi, ?_⟩
  cases hi with
  | failed => exact h.used.cons fun x hx => by cases hx
  | skipped => exact (h.compared ref ⟨0, 0, none⟩ bus dev).1
  | @found v _ _ _ hv =>
      change v = w.compared ref m bus dev at hv
      subst hv
      exact (h.compared ref m bus dev).1
  | @passed v _ _ _ hv =>
      change v = w.compared ref m bus dev at hv
      subst hv
      obtain ⟨hused, hlive⟩ := h.compared ref m bus dev
      refine hused.cons fun x hx => ?_
      cases hx
      exact hlive

lemma search (h : Disciplined w) (hf : hidFindUsbDevice env ref m w = .ok (ret, u)) :
    Disciplined u := by
  refine search_rule (I := fun _ v => Disciplined v) (J := fun _ v => Disciplined v)
    ?_ ?_ ?_ h hf
  · intro bus dev rest v v' hv hi
    exact hv.inspected hi
  · intro bus dev rest v v' r hv hi
    exact hv.inspected hi
  · intro v hv
    exact hv

/-! ## Calls -/

lemma openWith {claim : Hid HidReturn} {i : ℤ} (h : Disciplined w)
    (hnone : (w.hidifs ref).devHandle = none) (hclaim : ClaimsThrough claim ref)
    (ho : Libhid.openWith env claim ref i m w = .ok (ret, u)) : Disciplined u := by
  refine ⟨h.handled.openWith hnone hclaim.claims ho, ?_⟩
  obtain ⟨r, w₂, hfind, hrest⟩ := openWith_split ho
  have hi : Disciplined (w.atInterface ref i) :=
    h.of_neutral [] rfl (by simp) (by simp) (atInterface_devHandle w ref i)
  have hw₂ := hi.search hfind
  rcases hrest with ⟨-, -, rfl⟩ | ⟨rfl, c, w₃, hc, hrest⟩
  · exact hw₂.used
  · have hw₃ := hw₂.through (hclaim hc)
    rcases hrest with ⟨-, -, x, hx⟩ | ⟨w₄, hp, rfl⟩
    · exact (hw₃.close hx).used
    · obtain ⟨y, hy⟩ := hidFindUsbDevice_devHandle hfind
      have hopen : (w₃.hidifs ref).isOpened = true := by
        rw [HIDInterface.isOpened, (hclaim hc).devHandle, hy]
        rfl
      have hw₄ := (hw₃.prepare hopen hp).used
      split_ifs
      · exact hw₄
      · exact hw₄

/-- Every call on an interface keeps the discipline. -/
lemma publicCall {call : PublicCall} (h : Disciplined w)
    (hrun : call.run env w = .ok (ret, u)) : Disciplined u := by
  cases huses : call.uses with
  | some r => exact h.operates (uses_operates huses hrun)
  | none =>
      cases call with
      | lifecycle call =>
          rcases run_cases hrun with ⟨ref, rfl, hc⟩ | ⟨-, ⟨-, rfl⟩ | hopen⟩
          · exact h.close hc
          · exact h
          · obtain ⟨ref, i, m, claim, -, -, hn, hclaim, ho⟩ := hopen
            exact h.openWith hn hclaim ho
      | _ => cases huses

/-- Clearing an interface takes no handle from another one. -/
lemma cleared (w : World) (ref r : Ref) (x : UsbHandle)
    (hx : ((w.write ref closedInterface).hidifs r).devHandle = some x) :
    (w.hidifs r).devHandle = some x := by
  rw [write_closed_devHandle] at hx
  split_ifs at hx
  exact hx

/-- Every call of the library keeps the discipline. -/
lemma step {l l' : Library} {call : LibraryCall} {r : LibraryReturn} (h : Disciplined l.world)
    (hstep : call.step env l = .ok (r, l')) : Disciplined l'.world := by
  have hblock : ∀ {e : Event} {v : World}, handles.Neutral e → e.handle = none →
      v.log = e :: l.world.log → (∀ r x, (v.hidifs r).devHandle = some x →
        (l.world.hidifs r).devHandle = some x) → Disciplined v := by
    intro e v hn hnone hlog hsub
    refine h.fewer [e] hlog ?_ ?_ hsub
    · intro e' he'
      rw [List.mem_singleton.mp he']
      exact hn
    · intro e' he' x hx
      rw [List.mem_singleton.mp he', hnone] at hx
      cases hx
  cases step_made hstep with
  | initialised => exact h.of_neutral [] rfl (by simp) (by simp) fun _ => rfl
  | outOfMemory => exact hblock (neutral_malloc none) rfl rfl fun _ _ hx => hx
  | created => exact hblock (neutral_malloc _) rfl rfl (cleared l.world _)
  | @deleted ref => exact hblock (neutral_free ref) rfl rfl (cleared l.world ref)
  | @reset ref => exact h.fewer [] rfl (by simp) (by simp) (cleared l.world ref)
  | onInterface hdes hrun => exact h.publicCall hrun

end Disciplined

/-! ## `NULL` handles -/

section Addressed

variable {env : Env} {w u : World} {ret : HidReturn}

/-- The call does not go through `NULL`, or it is the request of `hid_set_idle`. -/
def Event.Addressed (e : Event) : Prop := e.HasHandle ∨ e.IsSetIdle

/-- A function on an interface makes transfers only, so that none through `NULL` is enough. -/
lemma Event.Uses.hasHandle {dev : Option UsbHandle} {e : Event} (he : e.Uses dev)
    (hn : e.NotNull) : e.HasHandle := by
  cases e with
  | usbClaimInterface | usbDetachKernelDriver => cases he
  | _ => exact hn

lemma publicCall_addressed {call : PublicCall} (h : call.run env w = .ok (ret, u)) :
    Logs Event.Addressed w u := by
  by_cases hok : SetIdleOpen call w
  · cases huses : call.uses with
    | some r =>
        have hboth := (uses_operates huses h).works.log.and (run_guards hok h).1
        exact hboth.mono fun e he => .inl (he.1.hasHandle he.2)
    | none =>
        cases call with
        | lifecycle call => exact (call_hasHandle h).mono fun _ => .inl
        | _ => cases huses
  · obtain ⟨e, rfl, -, he⟩ := setIdle_onNull hok h
    exact .of_cons rfl (.inr he)

lemma addressed_step {l l' : Library} {call : LibraryCall} {r : LibraryReturn}
    (hstep : call.step env l = .ok (r, l')) : Logs Event.Addressed l.world l'.world := by
  cases step_made hstep with
  | initialised | reset => exact .of_eq _ rfl
  | outOfMemory | created | deleted => exact .of_cons rfl (.inl rfl)
  | onInterface _ hrun => exact publicCall_addressed hrun

end Addressed

/-! ## Runs -/

section Runs

variable {env : Env} {calls : List LibraryCall} {garbage : Ref → HIDInterface}
  {rets : List LibraryReturn} {l : Library}

lemma disciplined_run (h : runLibrary env calls (Library.start garbage) = .ok (rets, l)) :
    Disciplined l.world := by
  unfold runLibrary at h
  refine state_invariant_runAll (I := fun l : Library => Disciplined l.world)
    (P := fun _ _ => True) ?_ (.start false garbage)
    (Along.of_forall (fun _ _ => trivial) calls _) h
  intro s t call ret hs _ hstep
  exact hs.step hstep

lemma addressed_run (h : runLibrary env calls (Library.start garbage) = .ok (rets, l)) :
    ∀ e ∈ l.world.log, e.Addressed := by
  unfold runLibrary at h
  refine state_invariant_runAll (I := fun l : Library => ∀ e ∈ l.world.log, e.Addressed)
    (P := fun _ _ => True) ?_ (fun _ he => absurd he List.not_mem_nil)
    (Along.of_forall (fun _ _ => trivial) calls _) h
  intro s t call ret hs _ hstep
  exact (addressed_step hstep).forall_mem hs

/-- **No handle is used before it is opened or after it is closed, and none is closed twice**, in
any run of the library, and only `hid_set_idle` uses `NULL` for one. -/
theorem handles_live (h : runLibrary env calls (Library.start garbage) = .ok (rets, l))
    {after before : List Event} {e : Event} (hlog : l.world.log = after ++ e :: before) :
    (∀ x, e.handle = some x →
      (∃ dev, .usbOpen dev (some x) ∈ before) ∧ .usbClose x ∉ before) ∧
    (e.HasHandle ∨ e.IsSetIdle) := by
  refine ⟨fun x hx => ?_, addressed_run h e (by simp [hlog])⟩
  obtain ⟨hacq, hrel⟩ := (disciplined_run h).used after e before hlog x hx
  constructor
  · obtain ⟨e', he', heq⟩ := List.mem_filterMap.mp hacq
    cases e' with
    | usbOpen dev y =>
        cases heq
        exact ⟨dev, he'⟩
    | _ => cases heq
  · exact fun hmem => hrel (List.mem_filterMap.mpr ⟨_, hmem, rfl⟩)

/-- `handles_live` for the handle that the client of the bench closes. -/
theorem handles_live_bench : ∃ rets l after before x,
    runLibrary (bench [benchDevice 4]) benchClient (Library.start fun _ => closedInterface) =
      .ok (rets, l) ∧
    l.world.log = after ++ .usbClose x :: before ∧
    (∃ dev, .usbOpen dev (some x) ∈ before) ∧ .usbClose x ∉ before := by
  have hrun : libraryEndsWith (fun l => (l.world.log.drop 2).head? ==
      some (.usbClose ⟨2, benchDevice 4⟩)) (runLibrary (bench [benchDevice 4]) benchClient
        (Library.start fun _ => closedInterface)) = true := by
    decide +kernel
  obtain ⟨rets, l, h, hp⟩ := exists_of_libraryEndsWith hrun
  obtain ⟨before, hbefore⟩ := List.head?_eq_some_iff.mp (beq_iff_eq.mp hp)
  have hlog : l.world.log =
      l.world.log.take 2 ++ .usbClose ⟨2, benchDevice 4⟩ :: before := by
    rw [← hbefore, List.take_append_drop]
  exact ⟨rets, l, _, before, _, h, hlog, (handles_live h hlog).1 _ rfl⟩

end Runs

end Libhid
