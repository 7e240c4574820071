import Libhid.Device.Lifecycle

/-!
# Handles

Every handle that `usb_open` returns is passed to `usb_close` once or kept in the interface it was
stored in, with one exception: the search leaves the handle of a device open that
`hid_previously_matched` turns down.  `Books` is the invariant; it is kept by every call whose
search does not come across such a device (`SearchClean`).
-/

namespace Libhid

open Framework

/-- The handles in the interfaces. -/
def World.stored (w : World) (h : UsbHandle) : Prop := ∃ r, (w.hidifs r).devHandle = some h

/-- The invariant: the handles opened and not closed are the ones stored, each stored once. -/
structure Books (w : World) : Prop where
  fresh : ∀ h ∈ handles.acquisitions w.log, h.id < w.log.length
  ledger : Ledger handles w.log w.stored
  once : ∀ r r' h, (w.hidifs r).devHandle = some h → (w.hidifs r').devHandle = some h → r = r'

/-- The same with `held` for the handles opened and not closed, of which not all need to be
stored. -/
structure Handled (held : UsbHandle → Prop) (w : World) : Prop where
  fresh : ∀ h ∈ handles.acquisitions w.log, h.id < w.log.length
  ledger : Ledger handles w.log held
  stored : ∀ h, w.stored h → held h
  once : ∀ r r' h, (w.hidifs r).devHandle = some h → (w.hidifs r').devHandle = some h → r = r'

section Log

variable {held : UsbHandle → Prop} {w u : World} {ref : Ref}

lemma Books.handled (h : Books w) : Handled w.stored w :=
  ⟨h.fresh, h.ledger, fun _ hs => hs, h.once⟩

lemma Handled.books (h : Handled held w) (hs : ∀ x, held x → w.stored x) : Books w :=
  ⟨h.fresh, h.ledger.congr fun x => ⟨h.stored x, hs x⟩, h.once⟩

lemma acquisitions_neutral {log : List Event} : ∀ {es : List Event},
    (∀ e ∈ es, handles.Neutral e) → handles.acquisitions (es ++ log) = handles.acquisitions log
  | [], _ => rfl
  | e :: es, h => by
      have he := (h e List.mem_cons_self).1
      have hes : handles.acquisitions (es ++ log) = handles.acquisitions log :=
        acquisitions_neutral fun e' he' => h e' (List.mem_cons_of_mem e he')
      simp only [Accounts.acquisitions] at hes ⊢
      rw [List.cons_append, List.filterMap_cons_none he, hes]

/-- Steps that touch no handle keep the books, also where an interface loses its handle. -/
lemma Handled.fewer (h : Handled held w) (es : List Event) (hlog : u.log = es ++ w.log)
    (hn : ∀ e ∈ es, handles.Neutral e)
    (hsub : ∀ r x, (u.hidifs r).devHandle = some x → (w.hidifs r).devHandle = some x) :
    Handled held u := by
  refine ⟨?_, ?_, ?_, ?_⟩
  · intro x hx
    rw [hlog, acquisitions_neutral hn] at hx
    have := h.fresh x hx
    rw [hlog, List.length_append]
    omega
  · rw [hlog]
    exact h.ledger.skip_all hn
  · rintro x ⟨r, hr⟩
    exact h.stored x ⟨r, hsub r x hr⟩
  · intro r r' x hr hr'
    exact h.once r r' x (hsub r x hr) (hsub r' x hr')

lemma Handled.of_neutral (h : Handled held w) (es : List Event) (hlog : u.log = es ++ w.log)
    (hn : ∀ e ∈ es, handles.Neutral e)
    (hsame : ∀ r, (u.hidifs r).devHandle = (w.hidifs r).devHandle) : Handled held u :=
  h.fewer es hlog hn fun r _ hr => (hsame r).symm.trans hr

lemma quiet_devHandle (hq : Quiet ref w u) (r : Ref) :
    (u.hidifs r).devHandle = (w.hidifs r).devHandle := by
  by_cases hr : r = ref
  · rw [hr, hq.devHandle]
  · rw [hq.others r hr]

lemma Handled.quiet (h : Handled held w) (hq : Quiet ref w u) : Handled held u := by
  obtain ⟨es, hlog, hn⟩ := hq.log
  exact h.of_neutral es hlog hn (quiet_devHandle hq)

lemma Books.of_neutral (h : Books w) (es : List Event) (hlog : u.log = es ++ w.log)
    (hn : ∀ e ∈ es, handles.Neutral e)
    (hsame : ∀ r, (u.hidifs r).devHandle = (w.hidifs r).devHandle) : Books u := by
  refine (h.handled.of_neutral es hlog hn hsame).books ?_
  rintro x ⟨r, hr⟩
  exact ⟨r, (hsame r).trans hr⟩

lemma Books.quiet (h : Books w) (hq : Quiet ref w u) : Books u := by
  refine (h.handled.quiet hq).books ?_
  rintro x ⟨r, hr⟩
  exact ⟨r, (quiet_devHandle hq r).trans hr⟩

lemma closed_devHandle (hc : Closed ref w u) (r : Ref) :
    (u.hidifs r).devHandle = if r = ref then none else (w.hidifs r).devHandle := by
  rw [hc.hidifs, Function.update_apply]
  split_ifs <;> rfl

/-- `hid_close` gives back the handle of its interface. -/
lemma Handled.close (h : Handled held w) (hc : Closed ref w u) :
    Handled (fun x => (w.hidifs ref).devHandle ≠ some x ∧ held x) u := by
  obtain ⟨es, hlog, hn⟩ := hc.log
  have hdev := closed_devHandle hc
  have hstored : ∀ x, u.stored x → (w.hidifs ref).devHandle ≠ some x ∧ held x := by
    rintro x ⟨r, hr⟩
    rw [hdev] at hr
    split_ifs at hr with href
    exact ⟨fun hx => href (h.once r ref x hr hx), h.stored x ⟨r, hr⟩⟩
  have honce : ∀ r r' x, (u.hidifs r).devHandle = some x → (u.hidifs r').devHandle = some x →
      r = r' := by
    intro r r' x hr hr'
    rw [hdev] at hr hr'
    split_ifs at hr hr'
    exact h.once r r' x hr hr'
  have hacq : handles.acquisitions u.log = handles.acquisitions w.log := by
    rw [hlog, acquisitions_neutral hn]
    cases (w.hidifs ref).devHandle <;> rfl
  have hfresh : ∀ x ∈ handles.acquisitions u.log, x.id < u.log.length := by
    intro x hx
    rw [hacq] at hx
    have := h.fresh x hx
    rw [hlog, List.length_append, List.length_append]
    omega
  refine ⟨hfresh, ?_, hstored, honce⟩
  rw [hlog]
  apply Ledger.skip_all _ hn
  cases hh : (w.hidifs ref).devHandle with
  | none => exact h.ledger.congr fun x => by simp
  | some x =>
      refine (h.ledger.release (e := .usbClose x) rfl (h.stored x ⟨ref, hh⟩)).congr fun y => ?_
      rw [Ne, Option.some.injEq, eq_comm]

lemma Books.close (h : Books w) (hc : Closed ref w u) : Books u := by
  refine (h.handled.close hc).books ?_
  rintro x ⟨hne, r, hr⟩
  refine ⟨r, ?_⟩
  rw [closed_devHandle hc, if_neg, hr]
  rintro rfl
  exact hne hr

end Log

/-! ## The search -/

section Search

variable {env : Env} {held : UsbHandle → Prop} {w u : World} {ref : Ref}
  {m : HIDInterfaceMatcher} {bus : UsbBus} {dev : UsbDevice}

/-- Whether the search, from the `t`-th call on, comes across a device it takes to be held. -/
def meetsHeld (env : Env) (held : UsbDevice → Bool) (m : HIDInterfaceMatcher) :
    ℕ → List UsbDevice → Bool
  | _, [] => false
  | t, dev :: rest =>
      if env.usbOpen t then
        if held (env.usbDevice ⟨t, dev⟩) then true
        else if matchFlags env ⟨t, dev⟩ m (customAnswer ⟨t, dev⟩ m (t + 2)) = usbMatchAll then
          false
        else meetsHeld env held m (t + 3 + if m.matcherFn.isSome then 1 else 0) rest
      else false

/-- Whether an interface in the list holds the device and the interface number. -/
def World.holds (w : World) (interface : ℤ) (dev : UsbDevice) : Bool :=
  match w.held dev interface with
  | .ok b => b
  | .error _ => false

/-- The calls of an inspection up to the comparison. -/
def inspectLog (m : HIDInterfaceMatcher) (h : UsbHandle) (i : ℤ) : List Event :=
  (if m.matcherFn.isSome then [.matcherFn h] else []) ++ [.usbClaimInterface (some h) i]

lemma inspectLog_neutral (m : HIDInterfaceMatcher) (h : UsbHandle) (i : ℤ) :
    ∀ e ∈ inspectLog m h i, handles.Neutral e := by
  intro e he
  unfold inspectLog at he
  split_ifs at he <;> simp at he
  · rcases he with rfl | rfl
    · exact neutral_matcherFn h
    · exact neutral_claim _ _
  · subst he
    exact neutral_claim _ _

/-- The state in which an inspected device has passed or failed the comparison. -/
def World.compared (w : World) (ref : Ref) (m : HIDInterfaceMatcher) (bus : UsbBus)
    (dev : UsbDevice) : World :=
  (w.afterOpen ref bus dev).afterCustom ⟨w.log.length, dev⟩ m

lemma compared_log (w : World) (ref : Ref) (m : HIDInterfaceMatcher) (bus : UsbBus)
    (dev : UsbDevice) : (w.compared ref m bus dev).log =
      inspectLog m ⟨w.log.length, dev⟩ (w.hidifs ref).interface ++
        .usbOpen dev (some ⟨w.log.length, dev⟩) :: w.log := by
  unfold World.compared World.afterCustom inspectLog
  cases m.matcherFn <;> rfl

lemma compared_length (w : World) (ref : Ref) (m : HIDInterfaceMatcher) (bus : UsbBus)
    (dev : UsbDevice) : (w.compared ref m bus dev).log.length =
      w.log.length + 2 + if m.matcherFn.isSome then 1 else 0 := by
  rw [compared_log, inspectLog]
  split_ifs <;> simp

lemma compared_devHandle (w : World) (ref : Ref) (m : HIDInterfaceMatcher) (bus : UsbBus)
    (dev : UsbDevice) (r : Ref) :
    ((w.compared ref m bus dev).hidifs r).devHandle = (w.hidifs r).devHandle := by
  obtain ⟨id, hid⟩ := ((Searching.afterOpen ref w bus dev).afterCustom ⟨w.log.length, dev⟩ m).hidifs
  unfold World.compared
  rw [hid, Function.update_apply]
  split_ifs with hr
  · rw [hr]
    rfl
  · rfl

/-- After the comparison the handle of the device is held beside the others. -/
lemma Handled.compared (h : Handled held w) (ref : Ref) (m : HIDInterfaceMatcher) (bus : UsbBus)
    (dev : UsbDevice) :
    ¬ held ⟨w.log.length, dev⟩ ∧
      Handled (fun x => x = ⟨w.log.length, dev⟩ ∨ held x) (w.compared ref m bus dev) := by
  have hnew : (⟨w.log.length, dev⟩ : UsbHandle) ∉ handles.acquisitions w.log := by
    intro hmem
    exact Nat.lt_irrefl _ (h.fresh _ hmem)
  have hn := inspectLog_neutral m ⟨w.log.length, dev⟩ (w.hidifs ref).interface
  have hacq : handles.acquisitions (.usbOpen dev (some ⟨w.log.length, dev⟩) :: w.log) =
      ⟨w.log.length, dev⟩ :: handles.acquisitions w.log := rfl
  have hdev := compared_devHandle w ref m bus dev
  refine ⟨?_, ?_, ?_, ?_, ?_⟩
  · intro hs
    exact hnew ((h.ledger.held_iff _).mp hs).1
  · intro x hx
    rw [compared_log, acquisitions_neutral hn, hacq, List.mem_cons] at hx
    rw [compared_log, List.length_append, List.length_cons]
    rcases hx with rfl | hx
    · dsimp only
      omega
    · have := h.fresh x hx
      omega
  · rw [compared_log]
    exact (h.ledger.acquire rfl hnew).skip_all hn
  · rintro x ⟨r, hr⟩
    exact .inr (h.stored x ⟨r, (hdev r).symm.trans hr⟩)
  · intro r r' x hr hr'
    exact h.once r r' x ((hdev r).symm.trans hr) ((hdev r').symm.trans hr')

/-- Storing the new handle, and only it, keeps the books. -/
lemma Handled.found (h : Handled held w) {hidif : HIDInterface}
    (hh : hidif.devHandle = some ⟨w.log.length, dev⟩) :
    Handled (fun x => x = ⟨w.log.length, dev⟩ ∨ held x)
      ((w.compared ref m bus dev).write ref hidif) := by
  obtain ⟨hnew, hc⟩ := h.compared ref m bus dev
  have hset : ∀ r, (((w.compared ref m bus dev).write ref hidif).hidifs r).devHandle =
      if r = ref then some ⟨w.log.length, dev⟩ else (w.hidifs r).devHandle := by
    intro r
    split_ifs with hr
    · rw [hr, World.write_same, hh]
    · rw [World.write_other _ _ _ hr, compared_devHandle]
  refine ⟨hc.fresh, hc.ledger, ?_, ?_⟩
  · rintro x ⟨r, hr⟩
    rw [hset] at hr
    split_ifs at hr
    · exact .inl (Option.some.inj hr).symm
    · exact .inr (h.stored x ⟨r, hr⟩)
  · -- the new handle is stored nowhere else
    intro r r' x hr hr'
    rw [hset] at hr hr'
    split_ifs at hr hr' with h₁ h₂ h₂
    · rw [h₁, h₂]
    · rw [← Option.some.inj hr] at hr'
      exact absurd (h.stored _ ⟨r', hr'⟩) hnew
    · rw [← Option.some.inj hr'] at hr
      exact absurd (h.stored _ ⟨r, hr⟩) hnew
    · exact h.once r r' x hr hr'

lemma Books.found (h : Books w) (hnone : (w.hidifs ref).devHandle = none) {hidif : HIDInterface}
    (hh : hidif.devHandle = some ⟨w.log.length, dev⟩) :
    Books ((w.compared ref m bus dev).write ref hidif) := by
  refine (h.handled.found hh).books ?_
  rintro x (rfl | ⟨r, hr⟩)
  · exact ⟨ref, by rw [World.write_same, hh]⟩
  · have hr' : r ≠ ref := by
      rintro rfl
      rw [hnone] at hr
      cases hr
    exact ⟨r, by rw [World.write_other _ _ _ hr', compared_devHandle, hr]⟩

/-- Closing the new handle keeps the books. -/
lemma Handled.passed (h : Handled held w) (ref : Ref) (m : HIDInterfaceMatcher) (bus : UsbBus)
    (dev : UsbDevice) :
    Handled held ((w.compared ref m bus dev).record (.usbClose ⟨w.log.length, dev⟩)) := by
  obtain ⟨hnew, hc⟩ := h.compared ref m bus dev
  have hdev := compared_devHandle w ref m bus dev
  refine ⟨?_, ?_, ?_, hc.once⟩
  · intro x hx
    exact Nat.lt_succ_of_lt (hc.fresh x hx)
  · refine (hc.ledger.release (e := .usbClose ⟨w.log.length, dev⟩) rfl (.inl rfl)).congr
      fun x => ⟨?_, ?_⟩
    · intro hx
      refine ⟨?_, .inr hx⟩
      rintro rfl
      exact hnew hx
    · rintro ⟨hne, rfl | hx⟩
      · exact absurd rfl hne
      · exact hx
  · rintro x ⟨r, hr⟩
    exact h.stored x ⟨r, (hdev r).symm.trans hr⟩

lemma Books.passed (h : Books w) (ref : Ref) (m : HIDInterfaceMatcher) (bus : UsbBus)
    (dev : UsbDevice) :
    Books ((w.compared ref m bus dev).record (.usbClose ⟨w.log.length, dev⟩)) := by
  refine (h.handled.passed ref m bus dev).books ?_
  rintro x ⟨r, hr⟩
  exact ⟨r, (compared_devHandle w ref m bus dev r).trans hr⟩

/-- An inspection that does not come across a held device keeps the books. -/
lemma Books.inspected {o : Option HidReturn} (h : Books w)
    (hnone : (w.hidifs ref).devHandle = none)
    (hheld : env.usbOpen w.log.length = true →
      w.holds (w.hidifs ref).interface (env.usbDevice ⟨w.log.length, dev⟩) = false)
    (hi : Inspected env ref m bus dev w o u) :
    Books u ∧ (o ≠ some .success → (u.hidifs ref).devHandle = none) := by
  cases hi with
  | failed hf =>
      have hq : Quiet ref w (w.atDevice ref bus dev (.usbOpen dev none)) := .atDevice ⟨rfl, rfl⟩
      exact ⟨h.quiet hq, fun _ => hq.devHandle.trans hnone⟩
  | skipped ho hh =>
      rw [(Searching.afterOpen ref w bus dev).held] at hh
      have hfalse := hheld ho
      rw [World.holds, hh] at hfalse
      cases hfalse
  | @found v ho hh hm hv =>
      change v = w.compared ref m bus dev at hv
      subst hv
      exact ⟨h.found hnone rfl, fun hne => absurd rfl hne⟩
  | @passed v ho hh hm hv =>
      change v = w.compared ref m bus dev at hv
      subst hv
      exact ⟨h.passed ref m bus dev, fun _ => (compared_devHandle w ref m bus dev ref).trans hnone⟩

/-- What holds between two inspections of a search that comes across no held device. -/
structure CleanSearch (env : Env) (ref : Ref) (m : HIDInterfaceMatcher) (w : World)
    (rest : List UsbDevice) (v : World) : Prop where
  books : Books v
  searching : Searching ref w v
  devHandle : (v.hidifs ref).devHandle = none
  clean : meetsHeld env (w.holds (w.hidifs ref).interface) m v.log.length rest = false

lemma Searching.holds_eq (h : Searching ref w u) (i : ℤ) (dev : UsbDevice) :
    u.holds i dev = w.holds i dev := by
  rw [World.holds, World.holds, h.held]

/-- The next device to be inspected is not held, unless it cannot be opened. -/
lemma CleanSearch.not_held {rest : List UsbDevice} {v : World}
    (h : CleanSearch env ref m w (dev :: rest) v) (ho : env.usbOpen v.log.length = true) :
    v.holds (v.hidifs ref).interface (env.usbDevice ⟨v.log.length, dev⟩) = false := by
  have hclean := h.clean
  rw [meetsHeld, if_pos ho] at hclean
  rw [h.searching.interface, h.searching.holds_eq]
  split_ifs at hclean with hheld <;> simpa using hheld

/-- An inspection after which the search goes on changes nothing else. -/
lemma Searching.inspected {v : World} (h : Searching ref w v)
    (hi : Inspected env ref m bus dev v none u) : Searching ref w u := by
  cases hi with
  | skipped => exact h.trans (.afterOpen ref v bus dev)
  | passed _ _ _ hv =>
      subst hv
      exact (h.trans ((Searching.afterOpen ref v bus dev).afterCustom _ m)).record _

/-- Whether a search takes a device to be held is decided by the list it began with. -/
lemma Searching.holds_of_held {v : World} (h : Searching ref w v) {d : UsbDevice} {b : Bool}
    (hh : (v.afterOpen ref bus dev).held d (v.hidifs ref).interface = .ok b) :
    w.holds (w.hidifs ref).interface d = b := by
  rw [(Searching.afterOpen ref v bus dev).held, h.interface, h.held] at hh
  rw [World.holds, hh]

/-- A search that comes across a device it takes to be held. -/
lemma meetsHeld_skipped {rest : List UsbDevice} {v : World} (h : Searching ref w v)
    (ho : env.usbOpen v.log.length = true)
    (hh : (v.afterOpen ref bus dev).held (env.usbDevice ⟨v.log.length, dev⟩)
      (v.hidifs ref).interface = .ok true) :
    meetsHeld env (w.holds (w.hidifs ref).interface) m v.log.length (dev :: rest) = true := by
  rw [meetsHeld, if_pos ho, h.holds_of_held hh, if_pos rfl]

/-- What lies ahead of a search, behind a device that it passes. -/
lemma meetsHeld_passed {rest : List UsbDevice} {v v' : World} (h : Searching ref w v)
    (ho : env.usbOpen v.log.length = true)
    (hh : (v.afterOpen ref bus dev).held (env.usbDevice ⟨v.log.length, dev⟩)
      (v.hidifs ref).interface = .ok false)
    (hm : matchFlags env ⟨v.log.length, dev⟩ m
      (customAnswer ⟨v.log.length, dev⟩ m (v.log.length + 2)) ≠ usbMatchAll)
    (hv : v' = v.compared ref m bus dev) :
    meetsHeld env (w.holds (w.hidifs ref).interface) m
        (v'.record (.usbClose ⟨v.log.length, dev⟩)).log.length rest =
      meetsHeld env (w.holds (w.hidifs ref).interface) m v.log.length (dev :: rest) := by
  have hlen : (v'.record (.usbClose ⟨v.log.length, dev⟩)).log.length =
      v.log.length + 3 + if m.matcherFn.isSome then 1 else 0 := by
    rw [hv, World.record_log, List.length_cons, compared_length]
    omega
  rw [hlen, meetsHeld, if_pos ho, h.holds_of_held hh, if_neg Bool.false_ne_true, if_neg hm]

lemma CleanSearch.step {rest : List UsbDevice} {v : World}
    (h : CleanSearch env ref m w (dev :: rest) v) (hi : Inspected env ref m bus dev v none u) :
    CleanSearch env ref m w rest u := by
  obtain ⟨hbooks, hdev⟩ := h.books.inspected h.devHandle h.not_held hi
  refine ⟨hbooks, h.searching.inspected hi, hdev (by simp), ?_⟩
  cases hi with
  | skipped ho hh =>
      have hclean := h.clean
      rw [meetsHeld_skipped h.searching ho hh] at hclean
      cases hclean
  | passed ho hh hm hv =>
      rw [meetsHeld_passed h.searching ho hh hm hv]
      exact h.clean

/-- A search that comes across no held device keeps the books. -/
lemma Books.search (h : Books w) (hnone : (w.hidifs ref).devHandle = none)
    (hclean : meetsHeld env (w.holds (w.hidifs ref).interface) m w.log.length
      ((env.usbGetBusses w.log.length).flatMap UsbBus.devices) = false) {ret : HidReturn}
    (hs : hidFindUsbDevice env ref m w = .ok (ret, u)) :
    Books u ∧ (ret ≠ .success → (u.hidifs ref).devHandle = none) := by
  refine search_rule (I := CleanSearch env ref m w)
    (J := fun r v => Books v ∧ (r ≠ .success → (v.hidifs ref).devHandle = none)) ?_ ?_ ?_
    ⟨h, .refl ref w, hnone, hclean⟩ hs
  · intro bus dev rest v v' hv hi
    exact hv.step hi
  · intro bus dev rest v v' r hv hi
    obtain ⟨hb, hd⟩ := hv.books.inspected hv.devHandle hv.not_held hi
    exact ⟨hb, fun hr => hd (by simpa using hr)⟩
  · intro v hv
    exact ⟨hv.books, fun _ => hv.devHandle⟩

end Search

/-! ## Runs -/

/-- The search of an opening call, if it gets as far as that, comes across no held device before
it ends. -/
def SearchClean (env : Env) (call : Call) (w : World) : Prop :=
  match call.opening with
  | none => True
  | some (ref, i, m) => w.initialised = true → (w.hidifs ref).devHandle = none →
      meetsHeld env ((w.atInterface ref i).holds i) m w.log.length
        ((env.usbGetBusses w.log.length).flatMap UsbBus.devices) = false

instance (env : Env) (call : Call) (w : World) : Decidable (SearchClean env call w) :=
  match h : call.opening with
  | none => .isTrue (by rw [SearchClean, h]; trivial)
  | some (ref, i, m) =>
      decidable_of_iff (w.initialised = true → (w.hidifs ref).devHandle = none →
        meetsHeld env ((w.atInterface ref i).holds i) m w.log.length
          ((env.usbGetBusses w.log.length).flatMap UsbBus.devices) = false)
        (by rw [SearchClean, h])

section Runs

variable {env : Env} {w u : World} {ret : HidReturn}

lemma Books.start (initialised : Bool) (garbage : Ref → HIDInterface) :
    Books (World.start initialised garbage) := by
  have hnone : ∀ r h, ((World.start initialised garbage).hidifs r).devHandle ≠ some h := by
    intro r h hr
    cases hr
  refine ⟨fun h hh => absurd hh List.not_mem_nil, (Ledger.nil handles).congr fun h => ?_, ?_⟩
  · exact iff_of_false (fun ⟨r, hr⟩ => hnone r h hr) id
  · exact fun r r' h hr => absurd hr (hnone r h)

/-- The handle of an interface does not depend on its number. -/
lemma atInterface_devHandle (w : World) (ref : Ref) (i : ℤ) (r : Ref) :
    ((w.atInterface ref i).hidifs r).devHandle = (w.hidifs r).devHandle := by
  by_cases hr : r = ref
  · rw [hr, World.atInterface, World.write_same]
  · rw [atInterface_other w i hr]

lemma Books.atInterface {ref : Ref} (h : Books w) (i : ℤ) : Books (w.atInterface ref i) :=
  h.of_neutral [] rfl (fun _ he => absurd he List.not_mem_nil) (atInterface_devHandle w ref i)

/-- Opening keeps the books if the search is clean. -/
lemma Books.open_ {ref : Ref} {i : ℤ} {m : HIDInterfaceMatcher} {claim : Hid HidReturn}
    (h : Books w) (hclaim : Claims claim ref) (hnone : (w.hidifs ref).devHandle = none)
    (hclean : meetsHeld env ((w.atInterface ref i).holds i) m w.log.length
      ((env.usbGetBusses w.log.length).flatMap UsbBus.devices) = false)
    (ho : openWith env claim ref i m w = .ok (ret, u)) : Books u := by
  obtain ⟨r, w₂, hfind, hrest⟩ := openWith_cases hclaim ho
  have hnone' : ((w.atInterface ref i).hidifs ref).devHandle = none := by
    rw [World.atInterface, World.write_same]
    exact hnone
  obtain ⟨hbooks, hdev⟩ := (h.atInterface i).search hnone'
    (by rw [atInterface_interface]; exact hclean) hfind
  rcases hrest with ⟨hr, -, rfl⟩ | ⟨-, w₃, hq, ⟨-, hc⟩ | ⟨-, -, -, rfl⟩⟩
  · refine hbooks.of_neutral [] rfl (fun _ he => absurd he List.not_mem_nil) fun r' => ?_
    by_cases hr' : r' = ref
    · rw [hr', World.write_same, hdev hr]
    · rw [World.write_other _ _ _ hr']
  · exact (hbooks.quiet hq).close hc
  · exact (hbooks.quiet hq).of_neutral [] rfl (fun _ he => absurd he List.not_mem_nil)
      fun _ => rfl

lemma Books.step {call : Call} (h : Books w) (hclean : SearchClean env call w)
    (hrun : call.run env w = .ok (ret, u)) : Books u := by
  cases run_ok hrun with
  | declined => exact h
  | opened hc hinit hnone hclaim ho =>
      rw [SearchClean, hc] at hclean
      exact h.open_ hclaim hnone (hclean hinit hnone) ho
  | closed hc => exact h.close hc

end Runs

end Libhid
