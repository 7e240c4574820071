import Libhid.Device.Steps

/-!
# The life cycle of interfaces

`Lifecycle` is the invariant of the runs of `hid_open`, `hid_force_open` and `hid_close`: every
interface is whole, the list of open devices holds a sublist of the interfaces in the order in
which they were opened, and these are the ones that are open.  It is kept by every call
(`Lifecycle.step`), so it holds after every run (`lifecycle_run`).
-/

namespace Libhid

open Framework

/-! ## The list of open devices -/

namespace OpenHidDeviceList
/-- The list holds the interfaces `rs`. -/
structure Holds (l : OpenHidDeviceList) (rs : List Ref) : Prop where
  nDevices : l.nDevices = rs.length
  le : l.nDevices ≤ maxOpenDevices
  entries : l.entries = rs.map some

variable {l l' : OpenHidDeviceList} {rs : List Ref} {ref : Ref}

lemma Holds.get (h : l.Holds rs) {j : ℕ} (hj : j < rs.length) (hj' : j < maxOpenDevices) :
    l.hidif[j] = some rs[j] := by
  have hentry : l.entries[j]? = some (some rs[j]) := by
    rw [h.entries]
    simp [hj]
  have hn := h.nDevices
  simpa [OpenHidDeviceList.entries, List.getElem?_take, hn, hj, hj'] using hentry

lemma Holds.add (h : l.Holds rs) (ref : Ref) :
    (l.nDevices < maxOpenDevices ∧ (l.addOpenDevice ref).Holds (rs ++ [ref])) ∨
      (l.nDevices = maxOpenDevices ∧ l.addOpenDevice ref = l) := by
  unfold OpenHidDeviceList.addOpenDevice
  split_ifs with hlt
  · refine .inl ⟨hlt, by simp [h.nDevices], hlt, ?_⟩
    have hsplit : (l.hidif.set l.nDevices (some ref)).toList.take (l.nDevices + 1) =
        l.entries ++ [some ref] := by
      refine List.ext_getElem ?_ fun j hj hj' => ?_
      · simp [OpenHidDeviceList.entries]
        omega
      · have hj'' : j < l.nDevices + 1 := by
          simp at hj
          omega
        rw [List.getElem_append]
        split_ifs with hle
        · have hne : l.nDevices ≠ j := by
            simp [OpenHidDeviceList.entries] at hle
            omega
          simp [OpenHidDeviceList.entries, Vector.getElem_set_ne _ _ hne]
        · have heq : j = l.nDevices := by
            simp [OpenHidDeviceList.entries] at hle
            omega
          subst heq
          simp
    rw [OpenHidDeviceList.entries, hsplit, h.entries]
    simp
  · exact .inr ⟨Nat.le_antisymm h.le (by omega), rfl⟩

lemma Holds.remove (h : l.Holds rs) (hl : l.removeOpenDevice ref = .ok l') :
    l'.Holds (rs.erase ref) := by
  have hn := h.nDevices
  have hle := h.le
  unfold OpenHidDeviceList.removeOpenDevice at hl
  rcases hs : scanFrom l.hidif (· == some ref) l.nDevices 0 with _ | i <;> rw [hs] at hl
  · dsimp only at hl
    rw [if_pos hle] at hl
    cases hl
    have hnot : ref ∉ rs := by
      intro hmem
      obtain ⟨j, hj, hjr⟩ := List.mem_iff_getElem.mp hmem
      have hfalse := scanFrom_none hs (j := j) (by omega) (Nat.zero_le _) (by omega)
      rw [h.get hj (by omega), hjr] at hfalse
      simp at hfalse
    rw [List.erase_of_not_mem hnot]
    exact h
  · obtain ⟨hi, hbefore⟩ := scanFrom_some hs
    have hilt : i.val < rs.length := by
      have := scanFrom_lt hs
      omega
    -- the entry found is the first one with the interface
    have hidx : rs.idxOf ref = i.val := by
      refine (List.findIdx_eq hilt).mpr ⟨?_, fun j hj => ?_⟩
      · have hget := h.get hilt i.isLt
        rw [get_eq_getElem, hget] at hi
        simpa using hi
      · have hget := h.get (j := j) (by omega) (by omega)
        have hj' := hbefore j hj (Nat.zero_le _)
        rw [hget] at hj'
        simpa using hj'
    obtain ⟨tab, htab, htake⟩ := take_shiftDown l.hidif (by omega : i.val < l.nDevices) hle
    simp only [htab, Except.ok.injEq] at hl
    subst hl
    have hpos : 0 < l.nDevices := by omega
    refine ⟨?_, by show l.nDevices - 1 ≤ _; omega, ?_⟩
    · rw [List.length_erase_of_mem (List.idxOf_lt_length_iff.mp (by omega))]
      show l.nDevices - 1 = _
      omega
    · show tab.toList.take (l.nDevices - 1) = _
      rw [htake, List.erase_eq_eraseIdx_of_idxOf hidx, ← List.eraseIdx_map, ← h.entries]
      rfl

/-- Removing an interface that is not in the list changes nothing. -/
lemma Holds.remove_of_not_mem (h : l.Holds rs) (hnot : ref ∉ rs) :
    l.removeOpenDevice ref = .ok l := by
  unfold OpenHidDeviceList.removeOpenDevice
  rcases hs : scanFrom l.hidif (· == some ref) l.nDevices 0 with _ | i
  · exact if_pos h.le
  · have hlt := scanFrom_lt hs
    rw [h.nDevices, Nat.zero_add] at hlt
    have hget := h.get hlt i.isLt
    have hi := (scanFrom_some hs).1
    rw [get_eq_getElem, hget] at hi
    have href : rs[i.val] = ref := by simpa using hi
    exact absurd (href ▸ List.getElem_mem hlt) hnot

end OpenHidDeviceList

/-! ## The invariant -/

namespace HIDInterface

/-- `dev_handle`, `hid_data` and `hid_parser` are all set. -/
def AllSet (hidif : HIDInterface) : Prop :=
  hidif.devHandle.isSome ∧ hidif.hidData.isSome ∧ hidif.hidParser.isSome

/-- `dev_handle`, `hid_data` and `hid_parser` are all `NULL`. -/
def AllNull (hidif : HIDInterface) : Prop :=
  hidif.devHandle = none ∧ hidif.hidData = none ∧ hidif.hidParser = none

lemma AllNull.of_whole {hidif : HIDInterface} (h : hidif.AllSet ∨ hidif.AllNull)
    (hn : hidif.devHandle = none) : hidif.AllNull := by
  rcases h with h | h
  · have hset := h.1
    rw [hn] at hset
    cases hset
  · exact h

end HIDInterface

lemma closedInterface_allNull : closedInterface.AllNull := ⟨rfl, rfl, rfl⟩

/-- Every interface is all set or all `NULL`. -/
def World.Whole (w : World) : Prop := ∀ r, (w.hidifs r).AllSet ∨ (w.hidifs r).AllNull

namespace World.Whole

variable {env : Env} {w u : World} {ref : Ref} {ret : HidReturn}

/-- Only one interface changes. -/
lemma other (h : w.Whole) (hothers : ∀ r, r ≠ ref → u.hidifs r = w.hidifs r)
    (href : (u.hidifs ref).AllSet ∨ (u.hidifs ref).AllNull) : u.Whole := by
  intro r
  by_cases hr : r = ref
  · rw [hr]
    exact href
  · rw [hothers r hr]
    exact h r

lemma opens {i : ℤ} {m : HIDInterfaceMatcher} (h : w.Whole) (ho : Opens env ref i m w u) :
    u.Whole := by
  obtain ⟨hd, _, hdev, -⟩ := ho.handle
  exact h.other ho.others (.inl ⟨by simp [hdev], ho.hidData, ho.hidParser⟩)

/-- An open that fails leaves `NULL` pointers. -/
lemma failed (h : w.Whole) (hn : (w.hidifs ref).devHandle = none) (hf : FailsToOpen ref w u) :
    (u.hidifs ref).AllNull := by
  rcases hf.outcome with ⟨-, hdev, hdata, hparser⟩ | ⟨-, hc⟩
  · obtain ⟨-, hd, hp⟩ := HIDInterface.AllNull.of_whole (h ref) hn
    exact ⟨hdev, hdata.trans hd, hparser.trans hp⟩
  · rw [hc]
    exact closedInterface_allNull

lemma fails (h : w.Whole) (hn : (w.hidifs ref).devHandle = none) (hf : FailsToOpen ref w u) :
    u.Whole := h.other hf.others (.inr (h.failed hn hf))

lemma write (h : w.Whole) {hidif : HIDInterface} (hh : hidif.AllSet ∨ hidif.AllNull) :
    (w.write ref hidif).Whole := by
  refine h.other (fun r hr => World.write_other _ _ _ hr) ?_
  rwa [World.write_same]

lemma closes (h : w.Whole) (hc : Closed ref w u) : u.Whole := by
  refine h.other (fun r hr => by rw [hc.hidifs, Function.update_of_ne hr]) ?_
  rw [hc.hidifs, Function.update_self]
  exact .inr closedInterface_allNull

lemma step {call : Call} (h : w.Whole) (hrun : call.run env w = .ok (ret, u)) : u.Whole := by
  cases run_ok hrun with
  | declined => exact h
  | opened _ _ hn hclaim hopen =>
      rcases openWith_ok hclaim hopen with ⟨-, ho⟩ | ⟨-, hf⟩
      · exact h.opens ho
      · exact h.fails hn hf
  | closed hc => exact h.closes hc

end World.Whole

/-- The interfaces in the order in which they were opened, after one more call. -/
def openingOrder (opened : List Ref) (call : Call) (ret : HidReturn) : List Ref :=
  match call, call.opening with
  | .hidClose ref, _ => opened.erase ref
  | _, some (ref, _, _) => if ret = .success then opened ++ [ref] else opened
  | _, none => opened

lemma openingOrder_declined {opened : List Ref} {call : Call} {ret : HidReturn}
    (hr : ret ≠ .success) (hc : ∀ ref, call ≠ .hidClose ref) :
    openingOrder opened call ret = opened := by
  unfold openingOrder
  split
  · exact absurd rfl (hc _)
  · rw [if_neg hr]
  · rfl

lemma openingOrder_opening {opened : List Ref} {call : Call} {ret : HidReturn} {ref : Ref} {i : ℤ}
    {m : HIDInterfaceMatcher} (hc : call.opening = some (ref, i, m)) :
    openingOrder opened call ret = if ret = .success then opened ++ [ref] else opened := by
  cases call <;> simp_all [openingOrder, Call.opening]

/-- The invariant, of a state and the interfaces opened so far and not closed since. -/
structure Lifecycle (opened : List Ref) (w : World) : Prop where
  whole : w.Whole
  nodup : opened.Nodup
  isOpen : ∀ r, r ∈ opened ↔ (w.hidifs r).devHandle.isSome
  listed : ∃ rs, w.openHidDeviceList.Holds rs ∧ rs.Sublist opened

namespace Lifecycle

variable {env : Env} {opened : List Ref} {w u : World} {ref : Ref} {ret : HidReturn}

lemma start (initialised : Bool) (garbage : Ref → HIDInterface) :
    Lifecycle [] (World.start initialised garbage) :=
  ⟨fun _ => .inr closedInterface_allNull, List.nodup_nil, fun r => by simp [World.start],
    [], ⟨rfl, Nat.zero_le _, rfl⟩, List.Sublist.refl []⟩

lemma not_mem (h : Lifecycle opened w) (hn : (w.hidifs ref).devHandle = none) : ref ∉ opened := by
  rw [h.isOpen, hn]
  simp

lemma opens {i : ℤ} {m : HIDInterfaceMatcher} (h : Lifecycle opened w)
    (hn : (w.hidifs ref).devHandle = none) (ho : Opens env ref i m w u) :
    Lifecycle (opened ++ [ref]) u := by
  obtain ⟨hd, _, hdev, -⟩ := ho.handle
  have hnot := h.not_mem hn
  refine ⟨h.whole.opens ho, ?_, fun r => ?_, ?_⟩
  · simpa using h.nodup.concat hnot
  · by_cases hr : r = ref
    · subst hr
      simp [hdev]
    · rw [ho.others r hr, ← h.isOpen]
      simp [hr]
  · obtain ⟨rs, hrs, hsub⟩ := h.listed
    rw [ho.list]
    rcases hrs.add ref with ⟨-, hadd⟩ | ⟨-, hfull⟩
    · exact ⟨rs ++ [ref], hadd, hsub.append (List.Sublist.refl [ref])⟩
    · rw [hfull]
      exact ⟨rs, hrs, hsub.trans (List.sublist_append_left opened [ref])⟩

lemma fails (h : Lifecycle opened w) (hn : (w.hidifs ref).devHandle = none)
    (hf : FailsToOpen ref w u) : Lifecycle opened u := by
  have hnot := h.not_mem hn
  refine ⟨h.whole.fails hn hf, h.nodup, fun r => ?_, ?_⟩
  · by_cases hr : r = ref
    · subst hr
      simp [hnot, (h.whole.failed hn hf).1]
    · rw [hf.others r hr]
      exact h.isOpen r
  · obtain ⟨rs, hrs, hsub⟩ := h.listed
    rcases hf.outcome with ⟨hlist, -⟩ | ⟨hrem, -⟩
    · rw [hlist]
      exact ⟨rs, hrs, hsub⟩
    · -- the interface was not in the list, so nothing was removed
      have hrs' := hrs.remove hrem
      rw [List.erase_of_not_mem fun hmem => hnot (hsub.subset hmem)] at hrs'
      exact ⟨rs, hrs', hsub⟩

lemma closes (h : Lifecycle opened w) (hc : Closed ref w u) : Lifecycle (opened.erase ref) u := by
  refine ⟨h.whole.closes hc, h.nodup.erase ref, fun r => ?_, ?_⟩
  · rw [hc.hidifs, Function.update_apply, h.nodup.mem_erase_iff]
    split_ifs with hr
    · simp [hr]
    · simp [hr, h.isOpen]
  · obtain ⟨rs, hrs, hsub⟩ := h.listed
    exact ⟨rs.erase ref, hrs.remove hc.list, hsub.erase ref⟩

/-- Every call keeps the invariant. -/
lemma step {call : Call} (h : Lifecycle opened w) (hrun : call.run env w = .ok (ret, u)) :
    Lifecycle (openingOrder opened call ret) u := by
  cases run_ok hrun with
  | declined hr hc =>
      rw [openingOrder_declined hr hc]
      exact h
  | @opened _ _ _ ref i m claim hc hinit hn hclaim hopen =>
      rw [openingOrder_opening hc]
      rcases openWith_ok hclaim hopen with ⟨rfl, ho⟩ | ⟨hr, hf⟩
      · rw [if_pos rfl]
        exact h.opens hn ho
      · rw [if_neg hr]
        exact h.fails hn hf
  | closed hc => exact h.closes hc

end Lifecycle

/-- **The invariant holds after every run.** -/
theorem lifecycle_run {env : Env} {calls : List Call} {initialised : Bool}
    {garbage : Ref → HIDInterface} {rets : List HidReturn} {w : World}
    (h : runCalls env calls (World.start initialised garbage) = .ok (rets, w)) :
    Lifecycle (history openingOrder [] (calls.zip rets)) w := by
  unfold runCalls at h
  refine invariant_runAll (I := Lifecycle) (P := fun _ _ => True) ?_ (.start initialised garbage)
    (Along.of_forall (fun _ _ => trivial) calls _) h
  intro opened s t call ret hs _ hrun
  exact hs.step hrun

/-- **After every run of opening and closing, interfaces are all set or all `NULL`, and the list of
open devices has at most 20 entries, all different, all open, in the order of opening.** -/
theorem openDevices_listed {env : Env} {calls : List Call} {initialised : Bool}
    {garbage : Ref → HIDInterface} {rets : List HidReturn} {w : World}
    (h : runCalls env calls (World.start initialised garbage) = .ok (rets, w)) :
    (∀ r, (w.hidifs r).AllSet ∨ (w.hidifs r).AllNull) ∧
    w.openHidDeviceList.nDevices ≤ maxOpenDevices ∧
    ∃ rs : List Ref, w.openHidDeviceList.entries = rs.map some ∧
      w.openHidDeviceList.nDevices = rs.length ∧ rs.Nodup ∧
      (∀ r ∈ rs, (w.hidifs r).isOpened = true) ∧
      rs.Sublist (history openingOrder [] (calls.zip rets)) := by
  have hinv := lifecycle_run h
  obtain ⟨rs, hrs, hsub⟩ := hinv.listed
  refine ⟨hinv.whole, hrs.le, rs, hrs.entries, hrs.nDevices, hsub.nodup hinv.nodup, ?_, hsub⟩
  intro r hr
  exact (hinv.isOpen r).mp (hsub.subset hr)

/-! ## A bench -/

/-- The matcher of the bench takes every product of the vendor. -/
def benchMatcher : HIDInterfaceMatcher := ⟨0x051d, 0, none⟩

/-- The state before the first call on the bench. -/
def benchStart : World := World.start true fun _ => closedInterface

/-- Open an interface on the bench. -/
def benchOpen (ref : Ref) (interface : ℤ) : Call :=
  .hidOpen (some ref) interface (some benchMatcher)

/-- `openDevices_listed` for a run that opens two interfaces, fails to open the second one again,
and closes the first one. -/
theorem openDevices_listed_bench : ∃ rets w,
    runCalls (bench [benchDevice 4]) [benchOpen 0 0, benchOpen 1 1, benchOpen 1 2, .hidClose 0]
      benchStart = .ok (rets, w) ∧
    w.openHidDeviceList.nDevices = 1 ∧
    ∃ rs : List Ref, w.openHidDeviceList.entries = rs.map some ∧
      (∀ r ∈ rs, (w.hidifs r).isOpened = true) ∧ rs.Sublist [1] := by
  have hrun : endsWith (fun rets w => w.openHidDeviceList.nDevices == 1 &&
      rets == [.success, .success, .deviceAlreadyOpened, .success])
      (runCalls (bench [benchDevice 4])
        [benchOpen 0 0, benchOpen 1 1, benchOpen 1 2, .hidClose 0] benchStart) = true := by
    decide +kernel
  obtain ⟨rets, w, h, hp⟩ := exists_of_endsWith hrun
  simp only [Bool.and_eq_true, beq_iff_eq] at hp
  obtain ⟨hn, rfl⟩ := hp
  obtain ⟨-, -, rs, hentries, -, -, hopen, hsub⟩ := openDevices_listed h
  exact ⟨_, w, h, hn, rs, hentries, hopen, hsub⟩

end Libhid
