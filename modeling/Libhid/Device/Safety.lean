import Libhid.Device.Discipline
import Libhid.Parser.Inside

/-!
# Runs that leave no table

A call stops in the model where the code would leave a table of the parser, the list of open
devices, the block of a warning or the buffer of a value, or use a pointer that is `NULL` or
dangles.  If every report descriptor that the devices deliver is safe to parse, no call of a run
stops, whatever the other outcomes of libusb and the allocator are (`library_returns`): its callers
use the interfaces they have, delete and reset closed ones only, and look up paths of at most ten
elements that lead to an object, and for a value to one that fits the buffer.
-/

namespace Libhid

open Framework

/-! ## Descriptors -/

/-- The size of the report descriptor, in the HID descriptor that call `t` delivers. -/
def Env.descriptorSize (env : Env) (t : ℕ) : UInt16 :=
  ((env.usbControlMsg t).2 7).toUInt16 ||| ((env.usbControlMsg t).2 8).toUInt16 <<< 8

/-- The report descriptor that the call after `t` delivers. -/
def Env.descriptorAt (env : Env) (t : ℕ) : List UInt8 :=
  (List.range (env.descriptorSize t).toNat).map (env.usbControlMsg (t + 1)).2

/-- Every report descriptor that is not turned down for its size is safe to parse. -/
def Env.DescriptorsSafe (env : Env) : Prop :=
  ∀ t, (env.descriptorSize t).toNat ≤ reportDscSize →
    SafeDescriptor env.abi (env.descriptorAt t)

/-! ## Calls that fit -/

/-- The warning of a lookup that selects nothing fits its block, which call `t` allocates. -/
def Selection.WarningFits (env : Env) (t : ℕ) (path : List ℤ) : Selection → Prop
  | .nothing _ => env.WarningFits (env.malloc t) path
  | _ => True

/-- Every bit of a value is in the local buffer of `hid_get_item_value`. -/
def Env.Covers (env : Env) (data : HIDData) : Prop := ∀ bit ∈ bitsRead data, bit / 8 < env.itemRoom

/-- The local buffer of `hid_get_item_value` holds the report it asks for, and the field it reads;
where nothing is selected, the field is the one left over in `hid_data`. -/
def Selection.ItemFits (env : Env) (data : HIDData) : Selection → Prop
  | .stops => True
  | .object o => (sizeAfter o).toNat ≤ env.itemRoom ∧ env.Covers o
  | .nothing _ => env.Covers data

namespace World

/-- A path that is looked up has at most ten elements, and selects an object unless the warning
fits its block. -/
def LookupFits (env : Env) (w : World) (ref : Ref) (type : UInt8) (path : List ℤ) : Prop :=
  path.length ≤ pathSize ∧ ∀ d ∈ (w.hidifs ref).hidData, ∀ p ∈ (w.hidifs ref).hidParser,
    (selectPath env.abi p.val d.val type path).WarningFits env w.log.length path

/-- A value that is asked for fits the local buffer. -/
def ItemFits (env : Env) (w : World) (ref : Ref) (path : List ℤ) : Prop :=
  ∀ d ∈ (w.hidifs ref).hidData, ∀ p ∈ (w.hidifs ref).hidParser,
    (selectPath env.abi p.val d.val Tag.feature.code path).ItemFits env d.val

end World

/-- A call fits: nothing it does after its lookup leaves a block or the local buffer. -/
def PublicCall.Fits (env : Env) (w : World) : PublicCall → Prop
  | .exchange (.getItemValue _) ref path =>
      w.LookupFits env ref Tag.feature.code path ∧ w.ItemFits env ref path
  | .exchange call ref path => w.LookupFits env ref call.type path
  | _ => True

/-! ## Functions on an open interface -/

/-- The interface has its blocks, and its parser a descriptor that is safe to parse. -/
structure Prepared (abi : Abi) (w : World) (ref : Ref) : Prop where
  hidData : (w.hidifs ref).hidData.isSome
  parses : ∃ bytes, SafeDescriptor abi bytes ∧ w.Parses ref bytes

/-- If the interface is open, it can be used. -/
def World.Guards (w : World) (env : Env) (ref : Ref) : Prop :=
  (w.hidifs ref).isOpened = true → Prepared env.abi w ref

section Functions

variable {env : Env} {ref : Ref} {w u : World} {ret : HidReturn} {path : List ℤ}

namespace Prepared

lemma operates (h : Prepared env.abi w ref) (hw : Operates ref w u) : Prepared env.abi u ref := by
  obtain ⟨bytes, hsafe, hp⟩ := h.parses
  exact ⟨hw.works.isSome.1.trans h.hidData, bytes, hsafe, hw.parses bytes hp⟩

lemma parser (h : Prepared env.abi w ref) : ∃ p bytes, (w.hidifs ref).hidParser = some p ∧
    SafeDescriptor env.abi bytes ∧ p.val.Holds bytes := by
  obtain ⟨bytes, hsafe, p, hp, hholds⟩ := h.parses
  exact ⟨p, bytes, hp, hsafe, hholds⟩

/-- The handle and the blocks of an interface that is open as well. -/
lemma attached (h : Prepared env.abi w ref) (hopen : (w.hidifs ref).isOpened = true) :
    ∃ x d p bytes, Attached w ref x d p ∧ SafeDescriptor env.abi bytes ∧ p.val.Holds bytes := by
  obtain ⟨p, bytes, hp, hsafe, hholds⟩ := h.parser
  obtain ⟨x, hx⟩ := Option.isSome_iff_exists.mp hopen
  obtain ⟨d, hd⟩ := Option.isSome_iff_exists.mp h.hidData
  exact ⟨x, d, p, bytes, ⟨hx, hd, hp⟩, hsafe, hholds⟩

end Prepared

/-- A function that asks first whether its interface is open. -/
lemma guarded_returns {α : Type} {refused : α} {f : HIDInterface → Hid α}
    (hf : (w.hidifs ref).isOpened = true → Returns (f (w.hidifs ref)) w) :
    Returns (do let hidif ← deref ref; if !hidif.isOpened then pure refused else f hidif) w := by
  simp only [Returns, deref_bind]
  split_ifs with hopen
  · exact ⟨refused, w, rfl⟩
  · exact hf (by simpa using hopen)

lemma hidResetParser_returns (h : Prepared env.abi w ref) : Returns (hidResetParser ref) w := by
  obtain ⟨p, -, hp, -⟩ := h.parser
  refine guarded_returns fun _ => ?_
  rw [hp]
  exact ⟨_, _, rfl⟩

lemma hidPrepareParsePath_total (data : HIDData) (hle : path.length ≤ pathSize) :
    ∃ query, hidPrepareParsePath data path = .ok query ∧ query.path.size.toNat ≤ pathSize := by
  obtain ⟨node, hw, -⟩ := writePath_ok path data.path.node 0 (by omega)
  refine ⟨{ data with path := ⟨uchar path.length, node⟩ }, ?_, ?_⟩
  · rw [hidPrepareParsePath, hw]
    rfl
  · exact (uchar_depth hle).trans_le hle

/-- In a safe descriptor a lookup selects an object, or ends where every report has a row. -/
lemma selectPath_safe {p : HIDParser} {bytes : List UInt8} (hsafe : SafeDescriptor env.abi bytes)
    (hp : p.Holds bytes) (data : HIDData) (type : UInt8) (hle : path.length ≤ pathSize) :
    selectPath env.abi p data type path ≠ .stops ∧
      ∀ last, selectPath env.abi p data type path = .nothing last → last.HasRow := by
  obtain ⟨query, hquery, hsize⟩ := hidPrepareParsePath_total (data.asking type) hle
  obtain ⟨q, o, hfind⟩ := hsafe.find hp hsize
  have hselect := findObject_select env.abi p query
  rw [show selectPath env.abi p data type path = select env.abi p query by rw [selectPath, hquery]]
  refine ⟨fun hstops => ?_, fun last hlast => ?_⟩
  · rw [hstops] at hselect
    obtain ⟨e, he⟩ := hselect
    rw [hfind] at he
    cases he
  · rw [hlast] at hselect
    exact (hsafe p hp).2 last (findObject_visits hselect)

lemma lookUp_total {type : UInt8} {x : UsbHandle} {d : Block HIDData} {p : Block HIDParser}
    {bytes : List UInt8} (ha : Attached w ref x d p) (hsafe : SafeDescriptor env.abi bytes)
    (hp : p.val.Holds bytes) (hfits : w.LookupFits env ref type path) :
    ∃ u d' p', lookUp env type ref path w = .ok ((), u) ∧ Attached u ref x d' p' := by
  have hrun := lookUp_run env ha type path
  have hwarning := hfits.2 d ha.hidData p ha.hidParser
  obtain ⟨hstops, -⟩ := selectPath_safe hsafe hp d.val type hfits.1
  cases hselect : selectPath env.abi p.val d.val type path with
  | stops => exact absurd hselect hstops
  | object o =>
      rw [hselect] at hrun
      obtain ⟨-, u, q, hl, -, hlooked, -⟩ := hrun
      exact ⟨u, _, _, hl, hlooked.attached⟩
  | nothing last =>
      rw [hselect] at hrun hwarning
      dsimp only [Selection.WarningFits] at hrun hwarning
      rw [if_pos hwarning] at hrun
      obtain ⟨u, query, hl, -, hlooked, -⟩ := hrun
      exact ⟨u, _, _, hl, hlooked.attached⟩

/-! ## Reports and item values -/

lemma transferReport_returns {kind : ReportKind} {size : UInt32} (h : Prepared env.abi w ref)
    (hopen : (w.hidifs ref).isOpened = true) (hfits : w.LookupFits env ref kind.type path) :
    Returns (transferReport env kind ref path size) w := by
  obtain ⟨x, d, p, bytes, ha, hsafe, hp⟩ := h.attached hopen
  obtain ⟨u, d', p', hl, hu⟩ := lookUp_total ha hsafe hp hfits
  refine Returns.bind (.of_ok hl) fun _ v hv => ?_
  rw [hl] at hv
  cases hv
  simp only [Returns, deref_bind, hu.hidData, nonNull_some, pure_bind, usbControlMsg, callOut_bind]
  split_ifs <;> exact ⟨_, _, rfl⟩

lemma getReport_returns {kind : ReportKind} {buffer : Option (ℕ → UInt8)} {size : UInt32}
    (h : w.Guards env ref) (hfits : w.LookupFits env ref kind.type path) :
    Returns (getReport env kind ref path buffer size) w := by
  cases buffer with
  | none => exact .pure _ _
  | some buf =>
      refine guarded_returns fun hopen => ?_
      exact (transferReport_returns (h hopen) hopen hfits).bind fun _ _ _ => .pure _ _

lemma setReport_returns {kind : ReportKind} {buffer : Option (ℕ → UInt8)} {size : UInt32}
    (h : w.Guards env ref) (hfits : w.LookupFits env ref kind.type path) :
    Returns (setReport env kind ref path buffer size) w := by
  cases buffer with
  | none => exact .pure _ _
  | some buf =>
      refine guarded_returns fun hopen => ?_
      exact (transferReport_returns (h hopen) hopen hfits).bind fun _ _ _ => .pure _ _

/-- What `hid_get_item_value` asks for fits its buffer. -/
lemma Selection.ItemFits.asked {s : Selection} {data : HIDData} (h : s.ItemFits env data)
    (hstops : s ≠ .stops) (hrow : ∀ last, s = .nothing last → last.HasRow) :
    ∃ n, s.asked = some n ∧ n ≤ env.itemRoom := by
  cases s with
  | stops => exact absurd rfl hstops
  | object o => exact ⟨_, rfl, h.1⟩
  | nothing last =>
      obtain ⟨pos, hpos⟩ := hrow last rfl (0, Tag.feature.code)
      rcases getReportOffset_zero last.offsetTab last.nReport Tag.feature.code with
        ⟨hnone, -⟩ | ⟨-, pos', tab, k, hg, hzero⟩
      · rw [getReportOffset_eq_some hpos] at hnone
        cases hnone
      · refine ⟨0, ?_, Nat.zero_le _⟩
        rw [Selection.asked, hg]
        exact congrArg some (congrArg UInt8.toNat hzero)

lemma hidGetItemValue_returns {hasValue : Bool} (h : w.Guards env ref)
    (hfits : w.LookupFits env ref Tag.feature.code path) (hitem : w.ItemFits env ref path) :
    Returns (hidGetItemValue env ref path hasValue) w := by
  by_cases hopen : (w.hidifs ref).isOpened = true
  swap
  · exact guarded_returns fun h => absurd h hopen
  obtain ⟨x, d, p, bytes, ha, hsafe, hp⟩ := (h hopen).attached hopen
  have hwarning := hfits.2 d ha.hidData p ha.hidParser
  have hbuffer := hitem d ha.hidData p ha.hidParser
  have hrun := asked_run env ha path hasValue fun last hlast => by
    rw [hlast] at hwarning
    exact hwarning
  obtain ⟨hstops, hrow⟩ := selectPath_safe hsafe hp d.val Tag.feature.code hfits.1
  obtain ⟨n, hn, hroom⟩ := hbuffer.asked hstops hrow
  rw [hn] at hrun
  obtain ⟨w', d', p', pos, tab, k, r, hl, hlooked, hg, hsize, -, -, hdata⟩ := hrun
  have hreach : bytesReached d'.val ≤ env.itemRoom := by
    cases hselect : selectPath env.abi p.val d.val Tag.feature.code path with
    | stops => exact absurd hselect hstops
    | object o =>
        rw [hselect] at hdata hbuffer
        obtain ⟨-, rfl, -⟩ := hdata
        exact bytesReached_le_iff.mpr hbuffer.2
    | nothing last =>
        rw [hselect] at hdata hbuffer
        exact hdata.trans_le (bytesReached_le_iff.mpr hbuffer)
  have hreceives : min (env.usbControlMsg w'.log.length).1.toNat (tab.get pos).offset.toNat ≤
      env.itemRoom := (Nat.min_le_right _ _).trans (hsize.trans_le hroom)
  rw [Returns, hidGetItemValue_run env ha hl hlooked.attached hasValue, hg]
  dsimp only
  rw [if_neg (Nat.not_lt.mpr hreceives), if_neg (Nat.not_lt.mpr hreach)]
  split_ifs <;> exact ⟨_, _, rfl⟩

lemma exchange_returns {call : Exchange} (h : w.Guards env ref)
    (hfits : (PublicCall.exchange call ref path).Fits env w) :
    Returns (call.run env ref path) w := by
  cases call with
  | getInputReport buffer size | getFeatureReport buffer size =>
      refine Returns.map (getReport_returns h ?_) _
      exact hfits
  | setOutputReport buffer size | setFeatureReport buffer size =>
      refine setReport_returns h ?_
      exact hfits
  | getItemValue hasValue => exact (hidGetItemValue_returns h hfits.1 hfits.2).map _

/-! ## The other functions -/

lemma storeObject_returns {hidif : HIDInterface} {o : Option HIDData}
    (hd : hidif.hidData.isSome) : Returns (storeObject ref hidif o) w := by
  cases o with
  | none => exact ⟨_, _, rfl⟩
  | some object =>
      obtain ⟨d, hd⟩ := Option.isSome_iff_exists.mp hd
      simp only [storeObject, hd, nonNull_some, pure_bind]
      exact ⟨_, _, rfl⟩

lemma Attached.storeParser {x : UsbHandle} {d : Block HIDData} {p : Block HIDParser}
    (ha : Attached w ref x d p) (parser : HIDParser) :
    Attached (w.write ref { w.hidifs ref with hidParser := some { p with val := parser } }) ref x d
      { p with val := parser } := by
  refine ⟨?_, ?_, ?_⟩ <;> rw [World.write_same]
  · exact ha.devHandle
  · exact ha.hidData

/-- What `hid_reset_parser` leaves. -/
lemma hidResetParser_total {x : UsbHandle} {d : Block HIDData} {p : Block HIDParser}
    (ha : Attached w ref x d p) : ∃ u, hidResetParser ref w = .ok ((), u) ∧
      Attached u ref x d { p with val := resetParser p.val } := by
  simp only [hidResetParser, deref_bind, ha.isOpened, ha.hidParser, Bool.not_true,
    Bool.false_eq_true, if_false, nonNull_some, pure_bind]
  exact ⟨_, rfl, ha.storeParser _⟩

lemma hidDumpTree_returns {out : Bool} (h : w.Guards env ref) :
    Returns (hidDumpTree env out ref) w := by
  refine guarded_returns fun hopen => ?_
  refine Returns.ite (fun _ => .pure _ _) fun _ => ?_
  obtain ⟨x, d, p, bytes, ha, hsafe, hp⟩ := (h hopen).attached hopen
  obtain ⟨q, hq⟩ := (hsafe p.val hp).1
  obtain ⟨u, hreset, hu⟩ := hidResetParser_total ha
  refine Returns.bind (.of_ok hreset) fun _ v hv => ?_
  rw [hreset] at hv
  cases hv
  have hprepared := (h hopen).operates (hidResetParser_operates hreset)
  simp only [Returns, deref_bind, hu.hidParser, nonNull_some, pure_bind, hq, lift_ok_bind]
  refine Returns.bind (storeObject_returns (by rw [hu.hidData]; rfl)) fun _ v hv => ?_
  have hstored := hprepared.operates
    (storeObject_operates hu.hidParser (fun bytes hb => enumerate_holds hq hb) hv)
  exact (hidResetParser_returns hstored).bind fun _ _ _ => .pure _ _

/-- Every function on an interface that can be used if it is open returns. -/
lemma uses_returns {call : PublicCall} (huses : call.uses = some ref)
    (h : w.Guards env ref) (hfits : call.Fits env w) : Returns (call.run env) w := by
  cases call with
  | lifecycle call => cases huses
  | exchange call hidif path =>
      cases huses
      exact exchange_returns h hfits
  | hidInterruptRead hidif ep bytes size timeout =>
      cases huses
      cases bytes with
      | none => exact (Returns.pure _ w).map Prod.fst
      | some buf =>
          refine Returns.map (guarded_returns fun _ => ?_) Prod.fst
          exact ⟨_, _, rfl⟩
  | hidInterruptWrite hidif ep bytes size timeout =>
      cases huses
      cases bytes with
      | none => exact .pure _ w
      | some buf => exact guarded_returns fun _ => ⟨_, _, rfl⟩
  | hidSetIdle hidif duration reportId =>
      cases huses
      simp only [PublicCall.run, hidSetIdle, Returns]
      split_ifs <;> exact ⟨_, _, rfl⟩
  | hidDumpTree out hidif =>
      cases huses
      exact (hidDumpTree_returns h).map _

end Functions

/-! ## Closing -/

section Opening

variable {env : Env} {ref : Ref} {w u : World} {ret : HidReturn} {rs : List Ref}

lemma OpenHidDeviceList.Holds.removes {l : OpenHidDeviceList} (h : l.Holds rs) (ref : Ref) :
    ∃ l', l.removeOpenDevice ref = .ok l' := by
  unfold OpenHidDeviceList.removeOpenDevice
  rcases hs : scanFrom l.hidif (· == some ref) l.nDevices 0 with _ | i
  · exact ⟨l, if_pos h.le⟩
  · have hlt := scanFrom_lt hs
    obtain ⟨tab, htab, -⟩ := take_shiftDown l.hidif (by omega : i.val < l.nDevices) h.le
    dsimp only
    rw [htab]
    exact ⟨_, rfl⟩

lemma resetIfParser_returns (hidif : HIDInterface) (hsame : hidif.hidParser.isSome →
    (w.hidifs ref).hidParser.isSome) : Returns (resetIfParser ref hidif) w := by
  refine Returns.ite (fun hp => ?_) fun _ => .pure _ _
  obtain ⟨p, hp⟩ := Option.isSome_iff_exists.mp (hsame hp)
  refine guarded_returns fun _ => ?_
  rw [hp]
  exact ⟨_, _, rfl⟩

lemma free_returns {α : Type} (b : Option (Block α)) : Returns (free b) w := by
  cases b <;> exact ⟨_, _, rfl⟩

/-- `hid_close` returns if the list of open devices is in order. -/
lemma hidClose_returns (h : w.openHidDeviceList.Holds rs) : Returns (hidClose env ref) w := by
  have hclose : Returns (closeHandle env (w.hidifs ref).devHandle) w := by
    cases (w.hidifs ref).devHandle <;> exact ⟨_, _, rfl⟩
  simp only [hidClose, Returns, deref_bind]
  refine hclose.bind fun x v hv => ?_
  obtain rfl := closeHandle_ok hv
  obtain ⟨l, hl⟩ := h.removes ref
  have hremove : Returns (removeOpenDevice ref)
      { w with log := closeEvents (w.hidifs ref).devHandle ++ w.log } :=
    ⟨(), _, by rw [removeOpenDevice, hl]; rfl⟩
  refine hremove.bind fun _ v hv => ?_
  obtain ⟨_, -, rfl⟩ := removeOpenDevice_ok hv
  refine Returns.bind (resetIfParser_returns _ fun hp => hp) fun _ v _ => ?_
  simp only [Returns, deref_bind]
  exact (free_returns _).bind fun _ v _ => (free_returns _).bind fun _ v _ => ⟨_, _, rfl⟩

/-! ## The search and the claims -/

/-- The comparison with the open devices meets no empty entry. -/
lemma heldBy_total (rs : List Ref) (hidifs : Ref → HIDInterface) (dev : UsbDevice)
    (interface : ℤ) :
    ∃ held, heldBy hidifs dev interface (rs.map some) = .ok held := by
  induction rs with
  | nil => exact ⟨false, rfl⟩
  | cons r rest ih =>
      rw [List.map_cons, heldBy]
      split_ifs
      · exact ⟨true, rfl⟩
      · exact ih

lemma afterCustom_list (dev_h : UsbHandle) (m : HIDInterfaceMatcher) :
    (w.afterCustom dev_h m).openHidDeviceList = w.openHidDeviceList := by
  unfold World.afterCustom
  cases m.matcherFn <;> rfl

lemma Inspected.list {m : HIDInterfaceMatcher} {bus : UsbBus} {dev : UsbDevice}
    {o : Option HidReturn} (h : Inspected env ref m bus dev w o u) :
    u.openHidDeviceList = w.openHidDeviceList := by
  cases h with
  | failed => rfl
  | skipped => rfl
  | found _ _ _ hv =>
      subst hv
      exact afterCustom_list _ m
  | passed _ _ _ hv =>
      subst hv
      exact afterCustom_list _ m

lemma inspectDevice_returns {m : HIDInterfaceMatcher} {bus : UsbBus} {dev : UsbDevice}
    (h : w.openHidDeviceList.Holds rs) : Returns (inspectDevice env ref m bus dev) w := by
  obtain ⟨held, hheld⟩ := heldBy_total rs (w.afterOpen ref bus dev).hidifs
    (env.usbDevice ⟨w.log.length, dev⟩) (w.hidifs ref).interface
  have hmatched : hidPreviouslyMatched env ⟨w.log.length, dev⟩ (w.hidifs ref).interface
      (w.afterOpen ref bus dev) = .ok (held, w.afterOpen ref bus dev) := by
    rw [← h.entries] at hheld
    exact congrArg (Except.map (·, w.afterOpen ref bus dev)) hheld
  simp only [Returns, inspectDevice, deref_bind, assign_bind, usbOpen, callOut_bind,
    World.write_log]
  by_cases ho : env.usbOpen w.log.length = true
  · simp only [ho, if_true, usbClaimInterface, callOut_bind]
    change Returns (hidPreviouslyMatched env ⟨w.log.length, dev⟩ (w.hidifs ref).interface >>= _)
      (w.afterOpen ref bus dev)
    refine Returns.bind (.of_ok hmatched) fun held v _ => ?_
    refine Returns.ite (fun _ => .pure _ _) fun _ => ?_
    refine Returns.bind (.of_ok (hidCompareUsbDevice_run _ m v)) fun flags v _ => ?_
    exact Returns.ite (fun _ => ⟨_, _, rfl⟩) fun _ => ⟨_, _, rfl⟩
  · simp only [ho, Bool.false_eq_true, if_false]
    exact ⟨_, _, rfl⟩

/-- The search returns, and ends with the list of open devices it started with. -/
lemma hidFindUsbDevice_returns {m : HIDInterfaceMatcher} (h : w.openHidDeviceList.Holds rs) :
    Returns (hidFindUsbDevice env ref m) w := by
  have hbus : ∀ (bus : UsbBus) (devs : List UsbDevice) (w : World), w.openHidDeviceList.Holds rs →
      ∃ o u, findOnBus env ref m bus devs w = .ok (o, u) ∧ u.openHidDeviceList.Holds rs := by
    intro bus devs
    induction devs with
    | nil => exact fun w hw => ⟨none, w, rfl, hw⟩
    | cons dev rest ih =>
        intro w hw
        obtain ⟨o, v, hi⟩ : Returns (inspectDevice env ref m bus dev) w := inspectDevice_returns hw
        have hv : v.openHidDeviceList.Holds rs := (inspectDevice_ok hi).list ▸ hw
        rw [findOnBus, state_bind_eq hi]
        cases o with
        | none => exact ih v hv
        | some r => exact ⟨some r, v, rfl, hv⟩
  have hbusses : ∀ (busses : List UsbBus) (w : World), w.openHidDeviceList.Holds rs →
      Returns (findOnBusses env ref m busses) w := by
    intro busses
    induction busses with
    | nil => exact fun w _ => .pure _ w
    | cons bus rest ih =>
        intro w hw
        obtain ⟨o, v, hf, hv⟩ := hbus bus bus.devices w hw
        rw [findOnBusses]
        simp only [Returns, state_bind_eq hf]
        cases o with
        | none => exact ih v hv
        | some r => exact ⟨r, v, rfl⟩
  exact hbusses _ w h

lemma forceClaimLoop_returns {dev : Option UsbHandle} {i : ℤ} (retries : ℕ) (w : World) :
    Returns (forceClaimLoop env dev i retries) w := by
  induction retries generalizing w with
  | zero => exact ⟨_, _, rfl⟩
  | succ retries ih =>
      refine Returns.bind ⟨_, _, rfl⟩ fun ret v _ => Returns.ite (fun _ => .pure _ v) fun _ => ?_
      refine Returns.bind ⟨_, _, rfl⟩ fun detached v _ => ?_
      exact Returns.ite (fun _ => .pure _ v) fun _ => ih v

lemma hidOsForceClaim_returns {i : ℤ} {retries : UInt16} :
    Returns (hidOsForceClaim env ref i retries) w := by
  refine guarded_returns fun _ => ?_
  cases env.os with
  | linux => exact forceClaimLoop_returns _ _
  | darwin => exact ⟨_, _, rfl⟩
  | bsd => exact ⟨_, _, rfl⟩

/-! ## Preparing an interface -/

lemma hidInitParser_returns : Returns (hidInitParser env ref) w := by
  refine guarded_returns fun _ => Returns.bind ⟨_, _, rfl⟩ fun hidData v _ => ?_
  simp only [Returns, assign_bind]
  refine Returns.ite (fun _ => .pure _ _) fun _ => Returns.bind ⟨_, _, rfl⟩ fun hidParser v _ => ?_
  simp only [Returns, assign_bind]
  exact Returns.ite (fun _ => .pure _ _) fun _ => .pure _ _

lemma hidPrepareHidDescriptor_returns {p : Block HIDParser}
    (hp : (w.hidifs ref).hidParser = some p) : Returns (hidPrepareHidDescriptor env ref) w := by
  simp only [Returns, hidPrepareHidDescriptor, deref_bind, usbControlMsg, callOut_bind, hp,
    nonNull_some, pure_bind]
  split_ifs <;> exact ⟨_, _, rfl⟩

/-- The size of the report descriptor is in the parser. -/
lemma hidPrepareHidDescriptor_success (h : hidPrepareHidDescriptor env ref w = .ok (.success, u)) :
    u.log.length = w.log.length + 1 ∧ ∃ p, (u.hidifs ref).hidParser = some p ∧
      p.val.reportDescSize = env.descriptorSize w.log.length := by
  simp only [hidPrepareHidDescriptor, deref_bind, usbControlMsg, callOut_bind] at h
  split_ifs at h
  · cases h
  · cases h
  · obtain ⟨p, w₁, hp, h⟩ := state_bind_ok.mp h
    obtain ⟨-, rfl⟩ := nonNull_ok hp
    cases h
    exact ⟨rfl, _, by rw [World.write_same], rfl⟩

lemma hidPrepareReportDescriptor_returns {p : Block HIDParser}
    (hp : (w.hidifs ref).hidParser = some p) : Returns (hidPrepareReportDescriptor env ref) w := by
  simp only [Returns, hidPrepareReportDescriptor, deref_bind, usbControlMsg, hp, nonNull_some,
    pure_bind]
  split_ifs
  · exact ⟨_, _, rfl⟩
  · simp only [callOut_bind, assign_bind]
    split_ifs <;> exact ⟨_, _, rfl⟩

/-- The bytes of a complete transfer are in the buffer. -/
lemma receivedDesc_take {old : Vector UInt8 reportDscSize} {len : ℤ} {size : ℕ}
    {bytes : ℕ → UInt8} (hsize : size ≤ reportDscSize) (hlen : ¬ len < size) :
    (receivedDesc old len size bytes).toList.take size = (List.range size).map bytes := by
  refine List.ext_getElem ?_ fun i hi hi' => ?_
  · simpa using hsize
  · have hlt : i < size := by simpa using hi'
    have hreceived : (i : ℤ) < len := by omega
    simp [receivedDesc, received, hlt, hreceived]

/-- A parser with another buffer. -/
lemma HIDParser.Holds.of_desc {p : HIDParser} {desc : Vector UInt8 reportDscSize}
    {bytes : List UInt8} (hsize : p.reportDescSize.toNat = bytes.length)
    (hdesc : desc.toList.take bytes.length = bytes) :
    HIDParser.Holds { p with reportDesc := desc } bytes :=
  ⟨hsize, hdesc⟩

lemma hidPrepareReportDescriptor_success {p : Block HIDParser}
    (hp : (w.hidifs ref).hidParser = some p)
    (h : hidPrepareReportDescriptor env ref w = .ok (.success, u)) :
    p.val.reportDescSize.toNat ≤ reportDscSize ∧ u.Parses ref
      ((List.range p.val.reportDescSize.toNat).map (env.usbControlMsg w.log.length).2) := by
  simp only [hidPrepareReportDescriptor, deref_bind, usbControlMsg, hp, nonNull_some,
    pure_bind] at h
  split_ifs at h with hlong
  · cases h
  · simp only [callOut_bind, assign_bind] at h
    have hle := Nat.le_of_not_lt hlong
    split_ifs at h with hneg hshort
    · cases h
    · cases h
    · cases h
      refine ⟨hle, .write rfl (.of_desc ?_ ?_)⟩
      · rw [List.length_map, List.length_range]
      · rw [List.length_map, List.length_range]
        exact receivedDesc_take hle hshort

/-- Both descriptors were delivered. -/
lemma descriptors_prepared (hsafe : env.DescriptorsSafe) (hdata : (w.hidifs ref).hidData.isSome)
    {v : World} (hhid : hidPrepareHidDescriptor env ref w = .ok (.success, v))
    (hreport : hidPrepareReportDescriptor env ref v = .ok (.success, u)) :
    Prepared env.abi u ref := by
  obtain ⟨hlog, p, hp, hsize⟩ := hidPrepareHidDescriptor_success hhid
  obtain ⟨hle, hparses⟩ := hidPrepareReportDescriptor_success hp hreport
  have hworks := hidPrepareReportDescriptor_works hreport
  refine ⟨hworks.isSome.1.trans ((hidPrepareHidDescriptor_works hhid).isSome.1.trans hdata),
    env.descriptorAt w.log.length, hsafe _ (hsize ▸ hle), ?_⟩
  rw [hsize, hlog] at hparses
  exact hparses

/-- A call of `HIDParse` leaves the descriptor. -/
lemma hidParse_holds {abi : Abi} {p q : HIDParser} {o : Option HIDData} {bytes : List UInt8}
    (h : hidParse abi p = .ok (q, o)) (hp : p.Holds bytes) : q.Holds bytes :=
  Generator.nextFuel_inv (g := parser abi) (fun hs hturn => parseTurn_holds hs hturn) hp h

lemma hidPrepareParser_total (h : Prepared env.abi w ref)
    (hopen : (w.hidifs ref).isOpened = true) :
    ∃ u, hidPrepareParser env ref w = .ok (.success, u) ∧ Operates ref w u := by
  obtain ⟨x, d, p, bytes, ha, hsafe, hp⟩ := h.attached hopen
  obtain ⟨⟨q, o⟩, hq⟩ := hsafe.next hp
  obtain ⟨v, hreset, hv⟩ := hidResetParser_total ha
  have hstore : Returns (storeObject ref { v.hidifs ref with
      hidParser := some { p with val := q } } o) v :=
    storeObject_returns (by rw [hv.hidData]; rfl)
  obtain ⟨_, u, hu⟩ := hstore
  refine ⟨u, ?_, (hidResetParser_operates hreset).trans (storeObject_operates hv.hidParser
    (fun bytes hb => hidParse_holds hq hb) hu)⟩
  simp only [hidPrepareParser, deref_bind, ha.isOpened, Bool.not_true, Bool.false_eq_true,
    if_false, state_bind_eq hreset, hv.hidParser, nonNull_some, pure_bind, hq, lift_ok_bind,
    state_bind_eq hu]
  rfl

lemma orClose_returns {step next : Hid HidReturn} (hstep : Returns step w)
    (hlist : ∀ r v, step w = .ok (r, v) → v.openHidDeviceList = w.openHidDeviceList)
    (h : w.openHidDeviceList.Holds rs)
    (hnext : ∀ v, step w = .ok (.success, v) → Returns next v) :
    Returns (orClose env ref step next) w := by
  refine hstep.bind fun r v hv => Returns.ite (fun hr => ?_) fun _ => ?_
  · subst hr
    exact hnext v hv
  · have hv' : v.openHidDeviceList.Holds rs := hlist r v hv ▸ h
    exact (hidClose_returns hv').bind fun _ _ _ => .pure _ _

lemma hidPrepareInterface_returns (hsafe : env.DescriptorsSafe)
    (h : w.openHidDeviceList.Holds rs) : Returns (hidPrepareInterface env ref) w := by
  refine guarded_returns fun hopen => ?_
  refine orClose_returns hidInitParser_returns
    (fun r v hv => (hidInitParser_ok hopen hv).1.list) h fun w₁ h₁ => ?_
  obtain ⟨hq₁, hblocks⟩ := hidInitParser_ok hopen h₁
  obtain ⟨hdata, hparser⟩ := hblocks rfl
  obtain ⟨p, hp⟩ := Option.isSome_iff_exists.mp hparser
  have hlist₁ : w₁.openHidDeviceList.Holds rs := hq₁.list ▸ h
  refine orClose_returns (hidPrepareHidDescriptor_returns hp)
    (fun r v hv => (hidPrepareHidDescriptor_works hv).list) hlist₁ fun w₂ h₂ => ?_
  have hw₂ := hidPrepareHidDescriptor_works h₂
  have hlist₂ : w₂.openHidDeviceList.Holds rs := hw₂.list ▸ hlist₁
  obtain ⟨-, p₂, hp₂, -⟩ := hidPrepareHidDescriptor_success h₂
  refine orClose_returns (hidPrepareReportDescriptor_returns hp₂)
    (fun r v hv => (hidPrepareReportDescriptor_works hv).list) hlist₂ fun w₃ h₃ => ?_
  have hw₃ := hidPrepareReportDescriptor_works h₃
  have hlist₃ : w₃.openHidDeviceList.Holds rs := hw₃.list ▸ hlist₂
  have hopen₃ : (w₃.hidifs ref).isOpened = true := by
    rw [HIDInterface.isOpened, hw₃.devHandle, hw₂.devHandle, hq₁.devHandle]
    exact hopen
  obtain ⟨w₄, h₄, hw₄⟩ := hidPrepareParser_total (descriptors_prepared hsafe hdata h₂ h₃) hopen₃
  refine orClose_returns (.of_ok h₄) (fun r v hv => ?_) hlist₃ fun _ _ => .pure _ _
  rw [h₄] at hv
  cases hv
  exact hw₄.works.list

/-- An interface that was prepared can be used. -/
lemma hidPrepareInterface_prepared (hsafe : env.DescriptorsSafe)
    (hopen : (w.hidifs ref).isOpened = true)
    (h : hidPrepareInterface env ref w = .ok (.success, u)) : Prepared env.abi u ref := by
  simp only [hidPrepareInterface, deref_bind, hopen, Bool.not_true, Bool.false_eq_true,
    if_false] at h
  obtain ⟨r₁, w₁, h₁, ⟨rfl, h⟩ | ⟨hr, rfl, -⟩⟩ := orClose_cases h
  swap
  · exact absurd rfl hr
  obtain ⟨r₂, w₂, h₂, ⟨rfl, h⟩ | ⟨hr, rfl, -⟩⟩ := orClose_cases h
  swap
  · exact absurd rfl hr
  obtain ⟨r₃, w₃, h₃, ⟨rfl, h⟩ | ⟨hr, rfl, -⟩⟩ := orClose_cases h
  swap
  · exact absurd rfl hr
  obtain ⟨r₄, w₄, h₄, ⟨rfl, h⟩ | ⟨hr, rfl, -⟩⟩ := orClose_cases h
  swap
  · exact absurd rfl hr
  cases h
  obtain ⟨hq₁, hblocks⟩ := hidInitParser_ok hopen h₁
  have hopen₃ : (w₃.hidifs ref).isOpened = true := by
    rw [HIDInterface.isOpened, (hidPrepareReportDescriptor_works h₃).devHandle,
      (hidPrepareHidDescriptor_works h₂).devHandle, hq₁.devHandle]
    exact hopen
  have hprepared := descriptors_prepared hsafe (hblocks rfl).1 h₂ h₃
  obtain ⟨v, hv, hoperates⟩ := hidPrepareParser_total hprepared hopen₃
  rw [hv] at h₄
  cases h₄
  exact hprepared.operates hoperates

/-! ## Opening -/

lemma hidGetUsbHandle_returns {m : HIDInterfaceMatcher} (h : w.openHidDeviceList.Holds rs) :
    Returns (hidGetUsbHandle env ref m) w :=
  (hidFindUsbDevice_returns h).bind fun _ _ _ =>
    Returns.ite (fun _ => .pure _ _) fun _ => ⟨_, _, rfl⟩

lemma hidGetUsbHandle_list {m : HIDInterfaceMatcher}
    (h : hidGetUsbHandle env ref m w = .ok (ret, u)) :
    u.openHidDeviceList = w.openHidDeviceList := by
  obtain ⟨r, v, hfind, h⟩ := state_bind_ok.mp h
  have hv : v.openHidDeviceList = w.openHidDeviceList := by
    rcases hidFindUsbDevice_ok hfind with ⟨-, ⟨hf⟩⟩ | ⟨-, hs⟩
    · exact hf.list
    · exact hs.list
  split_ifs at h <;> cases h <;> exact hv

lemma openWith_returns {claim : Hid HidReturn} {i : ℤ} {m : HIDInterfaceMatcher}
    (hsafe : env.DescriptorsSafe) (hclaim : Claims claim ref) (hreturns : ∀ w, Returns claim w)
    (h : w.openHidDeviceList.Holds rs) : Returns (openWith env claim ref i m) w := by
  simp only [Returns, openWith, deref_bind, assign_bind]
  have hsearch : (w.atInterface ref i).openHidDeviceList.Holds rs := h
  refine (hidGetUsbHandle_returns hsearch).bind fun r w₂ hget => ?_
  have hlist₂ : w₂.openHidDeviceList.Holds rs := hidGetUsbHandle_list hget ▸ h
  refine Returns.ite (fun _ => .pure _ _) fun _ => (hreturns w₂).bind fun c w₃ hc => ?_
  have hlist₃ : w₃.openHidDeviceList.Holds rs := (hclaim hc).list ▸ hlist₂
  refine Returns.ite (fun _ => (hidClose_returns hlist₃).bind fun _ _ _ => .pure _ _) fun _ => ?_
  refine (hidPrepareInterface_returns hsafe hlist₃).bind fun r _ _ => ?_
  exact Returns.ite (fun _ => .pure _ _) fun _ => ⟨_, _, rfl⟩

/-- An interface that was opened can be used. -/
lemma openWith_prepared {claim : Hid HidReturn} {i : ℤ} {m : HIDInterfaceMatcher}
    (hsafe : env.DescriptorsSafe) (hclaim : Claims claim ref)
    (h : openWith env claim ref i m w = .ok (.success, u)) : Prepared env.abi u ref := by
  obtain ⟨r, w₂, hfind, ⟨hr, rfl, -⟩ | ⟨rfl, c, w₃, hc, ⟨hr, rfl, -⟩ | ⟨w₄, hp, rfl⟩⟩⟩ :=
    openWith_split h
  · exact absurd rfl hr
  · exact absurd rfl hr
  · obtain ⟨x, hx⟩ := hidFindUsbDevice_devHandle hfind
    have hopen : (w₃.hidifs ref).isOpened = true := by
      rw [HIDInterface.isOpened, (hclaim hc).devHandle, hx]
      rfl
    obtain ⟨hdata, hparses⟩ := hidPrepareInterface_prepared hsafe hopen hp
    exact ⟨hdata, hparses⟩

lemma openChecked_returns {claim : Ref → Hid HidReturn} {hidif : Option Ref} {i : ℤ}
    {matcher : Option HIDInterfaceMatcher} (hsafe : env.DescriptorsSafe)
    (hclaim : ∀ ref, Claims (claim ref) ref) (hreturns : ∀ ref w, Returns (claim ref) w)
    (h : w.openHidDeviceList.Holds rs) : Returns (openChecked env claim hidif i matcher) w := by
  simp only [Returns, openChecked, hidIsInitialised_bind]
  refine Returns.ite (fun _ => .pure _ _) fun _ => ?_
  cases hidif with
  | none => exact .pure _ _
  | some ref =>
      simp only [Returns, deref_bind]
      refine Returns.ite (fun _ => .pure _ _) fun _ => ?_
      cases matcher with
      | none => exact .pure _ _
      | some m => exact openWith_returns hsafe (hclaim ref) (hreturns ref) h

lemma lifecycle_returns {call : Call} (hsafe : env.DescriptorsSafe)
    (h : w.openHidDeviceList.Holds rs) : Returns (call.run env) w := by
  cases call with
  | hidOpen hidif i matcher =>
      exact openChecked_returns hsafe (fun ref _ _ _ hc => (claimOnce_works hc).keeps)
        (fun _ _ => ⟨_, _, rfl⟩) h
  | hidForceOpen hidif i matcher retries =>
      exact openChecked_returns hsafe (fun ref _ _ _ hc => (hidOsForceClaim_works hc).keeps)
        (fun _ _ => hidOsForceClaim_returns) h
  | hidClose ref => exact hidClose_returns h

/-! ## Runs -/

lemma World.Guards.same (h : w.Guards env ref) (hsame : u.hidifs ref = w.hidifs ref) :
    u.Guards env ref := by
  intro hopen
  rw [hsame] at hopen
  obtain ⟨hdata, bytes, hsafe, p, hp, hholds⟩ := h hopen
  exact ⟨hsame ▸ hdata, bytes, hsafe, p, hsame ▸ hp, hholds⟩

lemma World.Guards.closed (h : (w.hidifs ref).devHandle = none) : w.Guards env ref := by
  intro hopen
  rw [HIDInterface.isOpened, h] at hopen
  cases hopen

/-- A call returns while the list is in order and the open interfaces can be used. -/
lemma PublicCall.returns {call : PublicCall} (hsafe : env.DescriptorsSafe)
    (hrs : w.openHidDeviceList.Holds rs) (h : ∀ ref, w.Guards env ref)
    (hfits : call.Fits env w) : Returns (call.run env) w := by
  cases huses : call.uses with
  | some ref => exact uses_returns huses (h ref) hfits
  | none =>
      cases call with
      | lifecycle call => exact lifecycle_returns hsafe hrs
      | _ => cases huses

lemma PublicCall.guards {call : PublicCall} (hsafe : env.DescriptorsSafe)
    (h : ∀ ref, w.Guards env ref) (hrun : call.run env w = .ok (ret, u)) (r : Ref) :
    u.Guards env r := by
  by_cases hd : call.designates = some r
  swap
  · exact (h r).same (PublicCall.others hd hrun)
  cases huses : call.uses with
  | some ref =>
      have hoperates := uses_operates huses hrun
      have hr : ref = r := by
        cases call with
        | lifecycle => cases huses
        | _ => exact Option.some.inj (huses.symm.trans hd)
      subst hr
      intro hopen
      rw [HIDInterface.isOpened, hoperates.works.devHandle] at hopen
      exact (h ref hopen).operates hoperates
  | none =>
      cases call with
      | lifecycle call =>
          cases run_ok hrun with
          | declined => exact h r
          | @opened _ _ _ ref i m claim hc _ _ hclaim hopen =>
              by_cases hr : r = ref
              · subst hr
                rcases openWith_ok hclaim hopen with ⟨rfl, -⟩ | ⟨-, hf⟩
                · exact fun _ => openWith_prepared hsafe hclaim hopen
                · refine .closed ?_
                  rcases hf.outcome with ⟨-, hdev, -⟩ | ⟨-, hclosed⟩
                  · exact hdev
                  · rw [hclosed]
                    rfl
              · refine (h r).same ?_
                rcases openWith_ok hclaim hopen with ⟨-, ho⟩ | ⟨-, hf⟩
                · exact ho.others r hr
                · exact hf.others r hr
          | @closed ref _ _ hc =>
              by_cases hr : r = ref
              · subst hr
                refine .closed ?_
                rw [hc.hidifs, Function.update_self]
                rfl
              · exact (h r).same (by rw [hc.hidifs, Function.update_of_ne hr])
      | _ => cases huses

end Opening

/-- A call is made through pointers its caller has, and fits, and deletes and resets closed
interfaces only. -/
def LibraryCall.Proper (env : Env) (call : LibraryCall) (l : Library) : Prop :=
  (∀ ref ∈ call.designates, ref ∈ l.allocated) ∧ DropsClosed call l ∧
    ∀ c, call = .onInterface c → c.Fits env l.world

section Library

variable {env : Env} {l l' : Library} {call : LibraryCall} {ret : LibraryReturn}

/-- The invariant: the library is tidy, and every open interface can be used. -/
structure Library.Usable (env : Env) (l : Library) : Prop where
  tidy : l.Tidy
  guards : ∀ ref, l.world.Guards env ref

lemma Library.Usable.step (h : l.Usable env) (hsafe : env.DescriptorsSafe)
    (hclosed : DropsClosed call l) (hstep : call.step env l = .ok (ret, l')) : l'.Usable env := by
  refine ⟨h.tidy.step hclosed hstep, fun r => ?_⟩
  have hcleared : ∀ ref, (l.world.write ref closedInterface).Guards env r := by
    intro ref
    by_cases hr : r = ref
    · refine .closed ?_
      rw [hr, World.write_same]
      rfl
    · exact (h.guards r).same (World.write_other _ _ _ hr)
  cases step_made hstep with
  | initialised | outOfMemory => exact (h.guards r).same rfl
  | created | deleted | reset => exact (hcleared _).same rfl
  | onInterface hdes hrun => exact PublicCall.guards hsafe h.guards hrun r

lemma hidInit_returns {busses devices : ℤ} {w : World} : Returns (hidInit busses devices) w := by
  simp only [Returns, hidInit, hidIsInitialised_bind]
  split_ifs <;> exact ⟨_, _, rfl⟩

lemma hidCleanup_returns {w : World} : Returns hidCleanup w := by
  simp only [Returns, hidCleanup, hidIsInitialised_bind]
  split_ifs <;> exact ⟨_, _, rfl⟩

lemma hidNewHIDInterface_returns {w : World} : Returns (hidNewHIDInterface env) w := by
  refine Returns.bind ⟨_, _, rfl⟩ fun block v _ => ?_
  cases block with
  | none => exact .pure _ _
  | some block => exact ⟨_, _, rfl⟩

/-- A proper call returns. -/
lemma Library.Usable.returns (h : l.Usable env) (hsafe : env.DescriptorsSafe)
    (hproper : call.Proper env l) : ∃ ret l', call.step env l = .ok (ret, l') := by
  have hrun : Returns (call.run env) l.world := by
    cases call with
    | hidInit busses devices => exact hidInit_returns.map _
    | hidCleanup => exact hidCleanup_returns.map _
    | hidNewHIDInterface => exact hidNewHIDInterface_returns.map _
    | hidDeleteHIDInterface hidif | hidResetHIDInterface hidif =>
        cases hidif <;> exact ⟨_, _, rfl⟩
    | onInterface call =>
        obtain ⟨opened, hlife⟩ := h.tidy.lifecycle
        obtain ⟨rs, hrs, -⟩ := hlife.listed
        exact (PublicCall.returns hsafe hrs h.guards (hproper.2.2 call rfl)).map _
  obtain ⟨r, u, hru⟩ := hrun
  refine ⟨r, ⟨u, stillAllocated l.allocated call r⟩, ?_⟩
  rw [LibraryCall.step, if_pos hproper.1, hru]
  rfl

instance (env : Env) (t : ℕ) (path : List ℤ) : (s : Selection) →
    Decidable (s.WarningFits env t path)
  | .nothing _ => inferInstanceAs (Decidable (env.WarningFits (env.malloc t) path))
  | .stops | .object _ => .isTrue trivial

instance (env : Env) (data : HIDData) : Decidable (env.Covers data) := List.decidableBAll _ _

instance (env : Env) (data : HIDData) : (s : Selection) → Decidable (s.ItemFits env data)
  | .stops => .isTrue trivial
  | .object o => inferInstanceAs (Decidable (_ ∧ env.Covers o))
  | .nothing _ => inferInstanceAs (Decidable (env.Covers data))

instance (env : Env) (w : World) : (call : PublicCall) → Decidable (call.Fits env w)
  | .exchange (.getItemValue _) ref path =>
      inferInstanceAs (Decidable ((path.length ≤ pathSize ∧ ∀ d ∈ (w.hidifs ref).hidData,
        ∀ p ∈ (w.hidifs ref).hidParser, _) ∧ ∀ d ∈ (w.hidifs ref).hidData,
          ∀ p ∈ (w.hidifs ref).hidParser, _))
  | .exchange (.getInputReport ..) ref path | .exchange (.setOutputReport ..) ref path
  | .exchange (.getFeatureReport ..) ref path | .exchange (.setFeatureReport ..) ref path =>
      inferInstanceAs (Decidable (path.length ≤ pathSize ∧ ∀ d ∈ (w.hidifs ref).hidData,
        ∀ p ∈ (w.hidifs ref).hidParser, _))
  | .lifecycle _ | .hidInterruptRead .. | .hidInterruptWrite .. | .hidSetIdle ..
  | .hidDumpTree .. => .isTrue trivial

instance (env : Env) (call : LibraryCall) (l : Library) : Decidable (call.Proper env l) :=
  match call with
  | .onInterface c =>
      decidable_of_iff ((∀ ref ∈ c.designates, ref ∈ l.allocated) ∧ c.Fits env l.world)
        ⟨fun h => ⟨h.1, .of_none rfl, fun c' hc => by cases hc; exact h.2⟩,
          fun h => ⟨h.1, h.2.2 c rfl⟩⟩
  | .hidDeleteHIDInterface hidif =>
      decidable_of_iff ((∀ ref ∈ hidif, ref ∈ l.allocated) ∧
          DropsClosed (.hidDeleteHIDInterface hidif) l)
        ⟨fun h => ⟨h.1, h.2, fun c hc => by cases hc⟩, fun h => ⟨h.1, h.2.1⟩⟩
  | .hidResetHIDInterface hidif =>
      decidable_of_iff ((∀ ref ∈ hidif, ref ∈ l.allocated) ∧
          DropsClosed (.hidResetHIDInterface hidif) l)
        ⟨fun h => ⟨h.1, h.2, fun c hc => by cases hc⟩, fun h => ⟨h.1, h.2.1⟩⟩
  | .hidInit .. | .hidCleanup | .hidNewHIDInterface =>
      .isTrue ⟨fun _ h => (by cases h), .of_none rfl, fun _ h => (by cases h)⟩

/-- An empty descriptor is safe. -/
lemma emptyDescriptor_safe {t : ℕ} (habi : env.abi = .little .w64 true)
    (hsize : env.descriptorSize t = 0) : SafeDescriptor env.abi (env.descriptorAt t) := by
  have hempty : env.descriptorAt t = encodeItems [] := by
    rw [Env.descriptorAt, hsize]
    rfl
  rw [hempty, habi]
  exact .of_wellFormed (.inl rfl) (by decide) (by decide) (by decide +kernel)

/-- The descriptors of the bench are empty. -/
lemma bench_descriptorsSafe (devices : List UsbDevice) : (bench devices).DescriptorsSafe := by
  intro t _
  exact emptyDescriptor_safe rfl
    (show (0 : UInt8).toUInt16 ||| (0 : UInt8).toUInt16 <<< 8 = 0 by decide)

end Library

end Libhid
