import Libhid.Device.Exchange

/-!
# The transfer after a lookup

None of the exchange functions looks at the result of its lookup.  `lookUp_run` says in which state
it leaves them: with the object selected, or with the query and report ID 0.  From there
`hidGetItemValue_run` gives the transfer of `hid_get_item_value`, its length and what is decoded.
-/

namespace Libhid

open Framework

/-! ## The state after a lookup -/

/-- `hid_data` as the exchange functions set it before a lookup. -/
def HIDData.asking (data : HIDData) (type : UInt8) : HIDData :=
  { data with type := type, reportID := 0 }

/-- What the lookup of a path comes to. -/
def selectPath (abi : Abi) (p : HIDParser) (data : HIDData) (type : UInt8) (path : List ℤ) :
    Selection :=
  match hidPrepareParsePath (data.asking type) path with
  | .error _ => .stops
  | .ok query => select abi p query

/-- The state in which an exchange function calls `hid_find_object`. -/
def World.asking (w : World) (ref : Ref) (d : Block HIDData) (type : UInt8) : World :=
  w.write ref { w.hidifs ref with hidData := some { d with val := d.val.asking type } }

/-- The transfers among the calls out of the library. -/
def Event.isTransfer : Event → Bool
  | .usbControlMsg _ _ | .usbInterruptRead .. | .usbInterruptWrite .. => true
  | _ => false

/-- From `w` to `w'` no transfer was made, and the blocks of the interface are `d` and `p`. -/
structure Looked (w w' : World) (ref : Ref) (h : UsbHandle) (d : Block HIDData)
    (p : Block HIDParser) : Prop where
  attached : Attached w' ref h d p
  log : ∃ es, w'.log = es ++ w.log ∧ ∀ e ∈ es, e.isTransfer = false

section Lookup

variable {env : Env} {w : World} {ref : Ref} {h : UsbHandle} {d : Block HIDData}
  {p : Block HIDParser} {path : List ℤ} {type : UInt8}

lemma Attached.asking (ha : Attached w ref h d p) (type : UInt8) :
    Attached (w.asking ref d type) ref h { d with val := d.val.asking type } p := by
  refine ⟨?_, ?_, ?_⟩ <;> rw [World.asking, World.write_same]
  · exact ha.devHandle
  · exact ha.hidParser

lemma afterWarning_spec (env : Env) (w : World) : (w.afterWarning env).hidifs = w.hidifs ∧
    ∃ es, (w.afterWarning env).log = es ++ w.log ∧ ∀ e ∈ es, e.isTransfer = false := by
  unfold World.afterWarning
  cases env.malloc w.log.length with
  | true => exact ⟨rfl, [.free _, .malloc _], rfl, by simp [Event.isTransfer]⟩
  | false => exact ⟨rfl, [.malloc none], rfl, by simp [Event.isTransfer]⟩

lemma hidPrepareParsePath_keeps {data query : HIDData}
    (hq : hidPrepareParsePath data path = .ok query) :
    query.reportID = data.reportID ∧ query.type = data.type ∧
      bytesReached query = bytesReached data := by
  simp only [hidPrepareParsePath, except_bind_ok, Except.ok.injEq] at hq
  obtain ⟨node, -, rfl⟩ := hq
  exact ⟨rfl, rfl, rfl⟩

/-- A lookup is `hid_find_object` with the type set. -/
lemma lookUp_eq (env : Env) (ha : Attached w ref h d p) (type : UInt8) (path : List ℤ) :
    lookUp env type ref path w =
      (hidFindObject env ref path >>= fun _ => pure ()) (w.asking ref d type) := by
  simp only [lookUp, deref_bind, ha.hidData, nonNull_some, pure_bind, assign_bind]
  rfl

/-- **In which state a lookup leaves its caller.** -/
theorem lookUp_run (env : Env) (ha : Attached w ref h d p) (type : UInt8) (path : List ℤ) :
    match selectPath env.abi p.val d.val type path with
    | .stops => ∃ e, lookUp env type ref path w = .error e
    | .object o => o.type = type ∧ ∃ w' q, lookUp env type ref path w = .ok ((), w') ∧
        hidFindObject env ref path (w.asking ref d type) = .ok (.success, w') ∧
        Looked w w' ref h { d with val := o } { p with val := q } ∧
        ∀ n, ∃ pos tab k, getReportOffset q.offsetTab n o.reportID o.type = some (pos, tab, k) ∧
          (tab.get pos).offset = sizeAfter o
    | .nothing last =>
        if env.WarningFits (env.malloc w.log.length) path then
          ∃ w' query, lookUp env type ref path w = .ok ((), w') ∧
            hidFindObject env ref path (w.asking ref d type) = .ok (.notFound, w') ∧
            Looked w w' ref h { d with val := query } { p with val := last } ∧
            query.reportID = 0 ∧ query.type = type ∧ bytesReached query = bytesReached d.val
        else lookUp env type ref path w = .error .warning := by
  have hask := ha.asking type
  have hlook := lookUp_eq env ha type path
  unfold selectPath
  cases hq : hidPrepareParsePath (d.val.asking type) path with
  | error e =>
      refine ⟨e, ?_⟩
      rw [hlook]
      exact state_bind_error (hidFindObject_error hask hq)
  | ok query =>
      obtain ⟨hqid, hqtype, hqreach⟩ := hidPrepareParsePath_keeps hq
      have hfind := hidFindObject_eq env hask hq
      have hsel := findObject_select env.abi p.val query
      dsimp only
      cases hs : select env.abi p.val query with
      | stops =>
          rw [hs] at hsel
          obtain ⟨e, he⟩ := hsel
          rw [he] at hfind
          refine ⟨e, ?_⟩
          rw [hlook]
          exact state_bind_error hfind
      | object o =>
          rw [hs] at hsel
          obtain ⟨htype, q, hf, hsize⟩ := hsel
          rw [hf] at hfind
          refine ⟨htype.trans hqtype, _, q, ?_, hfind, ⟨hask.store o q, [], rfl, by simp⟩, hsize⟩
          rw [hlook, state_bind_eq hfind]
          rfl
      | nothing last =>
          rw [hs] at hsel
          rw [show findObject env.abi p.val query = .ok (last, none) from hsel] at hfind
          dsimp only at hfind ⊢
          rw [show (w.asking ref d type).log = w.log from rfl] at hfind
          split_ifs at hfind ⊢ with hfits
          swap
          · rw [hlook]
            exact state_bind_error hfind
          obtain ⟨hsame, hes⟩ := afterWarning_spec env
            ((w.asking ref d type).store ref { d with val := d.val.asking type } p query last)
          have hst := hask.store query last
          refine ⟨_, query, ?_, hfind, ⟨⟨?_, ?_, ?_⟩, hes⟩, hqid, hqtype, hqreach⟩
          · rw [hlook, state_bind_eq hfind]
            rfl
          · rw [hsame]
            exact hst.devHandle
          · rw [hsame]
            exact hst.hidData
          · rw [hsame]
            exact hst.hidParser

end Lookup

/-! ## The transfer after it -/

section Transfer

variable {env : Env} {w w' : World} {ref : Ref} {h h' : UsbHandle} {d d' : Block HIDData}
  {p p' : Block HIDParser} {path : List ℤ}

/-- The state after the size of a report was asked for. -/
def World.sized (w : World) (ref : Ref) (p : Block HIDParser)
    (tab : Vector ReportRow maxReport) (n : UInt8) : World :=
  w.write ref { w.hidifs ref with
    hidParser := some { p with val := { p.val with offsetTab := tab, nReport := n } } }

lemma hidGetReportSize_run (ha : Attached w ref h d p) (reportID reportType : UInt8) :
    hidGetReportSize ref reportID reportType w =
      match getReportOffset p.val.offsetTab p.val.nReport reportID reportType with
      | none => .error .null
      | some (pos, tab, n) => .ok ((.success, some (tab.get pos).offset), w.sized ref p tab n) := by
  simp only [hidGetReportSize, deref_bind, ha.isOpened, ha.hidParser, Bool.not_true,
    Bool.false_eq_true, if_false, nonNull_some, pure_bind]
  rcases getReportOffset p.val.offsetTab p.val.nReport reportID reportType with
    _ | ⟨pos, tab, n⟩
  · rfl
  · rfl

lemma Attached.sized (ha : Attached w ref h d p) (tab : Vector ReportRow maxReport) (n : UInt8) :
    Attached (w.sized ref p tab n) ref h d
      { p with val := { p.val with offsetTab := tab, nReport := n } } := by
  refine ⟨?_, ?_, ?_⟩ <;> rw [World.sized, World.write_same]
  · exact ha.devHandle
  · exact ha.hidData

lemma Attached.record (ha : Attached w ref h d p) (e : Event) :
    Attached (w.record e) ref h d p := ⟨ha.devHandle, ha.hidData, ha.hidParser⟩

lemma hidExtractValue_run (env : Env) (ha : Attached w ref h d p) (buf : ℕ → UInt8) (room : ℕ)
    (hasValue : Bool) :
    hidExtractValue env ref (some buf) room hasValue w =
      if hasValue then
        if room < bytesReached d.val then .error .itemBuffer else
        .ok ((.success, some (env.abi.getValue buf d.val)), w.write ref { w.hidifs ref with
          hidData := some { d with val := { d.val with value := env.abi.getValue buf d.val } } })
      else .ok ((.invalidParameter, none), w) := by
  simp only [hidExtractValue, deref_bind, ha.isOpened, ha.hidData, Bool.not_true,
    Bool.false_eq_true, if_false, nonNull_some, pure_bind]
  cases hasValue with
  | false => rfl
  | true =>
      simp only [Bool.not_true, Bool.false_eq_true, if_false, if_true]
      split_ifs <;> rfl

/-- What `hid_get_item_value` does after its lookup. -/
lemma hidGetItemValue_run (env : Env) (ha : Attached w ref h d p)
    (hl : lookUp env Tag.feature.code ref path w = .ok ((), w'))
    (ha' : Attached w' ref h' d' p') (hasValue : Bool) :
    hidGetItemValue env ref path hasValue w =
      match getReportOffset p'.val.offsetTab p'.val.nReport d'.val.reportID d'.val.type with
      | none => .error .null
      | some (pos, tab, n) =>
          let v := w'.sized ref p' tab n
          let msg := featureReport.message (v.hidifs ref) d'.val.reportID (tab.get pos).offset.toNat
          let len := (env.usbControlMsg w'.log.length).1
          let v' := v.record (.usbControlMsg msg len)
          if env.itemRoom < min len.toNat (tab.get pos).offset.toNat then .error .itemBuffer
          else if len < 0 then .ok ((.failGetReport, none), v')
          else if len % 2 ^ 32 ≠ (tab.get pos).offset.toNat then .ok ((.failGetReport, none), v')
          else if hasValue then
            if env.itemRoom < bytesReached d'.val then .error .itemBuffer else
            let value := env.abi.getValue (received (env.freshBuffer w'.log.length) len
              (tab.get pos).offset.toNat (env.usbControlMsg w'.log.length).2) d'.val
            .ok ((.success, some value), v'.write ref { v'.hidifs ref with
              hidData := some { d' with val := { d'.val with value := value } } })
          else .ok ((.failGetReport, none), v') := by
  simp only [hidGetItemValue, deref_bind, ha.isOpened, Bool.not_true, Bool.false_eq_true,
    if_false]
  rw [state_bind_eq hl]
  simp only [deref_bind, ha'.hidData, nonNull_some, pure_bind]
  have hsize := hidGetReportSize_run ha' d'.val.reportID d'.val.type
  rcases hg : getReportOffset p'.val.offsetTab p'.val.nReport d'.val.reportID d'.val.type with
    _ | ⟨pos, tab, n⟩
  · rw [hg] at hsize
    exact state_bind_error hsize
  · rw [hg] at hsize
    rw [state_bind_eq hsize]
    simp only [nonNull_some, pure_bind, now_bind, deref_bind, usbControlMsg, callOut_bind]
    have hlog : (w'.sized ref p' tab n).log = w'.log := rfl
    rw [hlog]
    have hat := (ha'.sized tab n).record (.usbControlMsg (featureReport.message
      ((w'.sized ref p' tab n).hidifs ref) d'.val.reportID (tab.get pos).offset.toNat)
      (env.usbControlMsg w'.log.length).1)
    split_ifs with hover hneg hlen hvalue hreach
    · rfl
    · rfl
    · rfl
    · refine state_bind_error ((hidExtractValue_run env hat _ _ hasValue).trans ?_)
      rw [if_pos hvalue, if_pos hreach]
    · have hrun := (hidExtractValue_run env hat (received (env.freshBuffer w'.log.length)
        (env.usbControlMsg w'.log.length).1 (tab.get pos).offset.toNat
        (env.usbControlMsg w'.log.length).2) env.itemRoom hasValue).trans (if_pos hvalue)
      rw [if_neg hreach] at hrun
      rw [state_bind_eq hrun]
      rfl
    · rw [state_bind_eq ((hidExtractValue_run env hat _ _ hasValue).trans (if_neg hvalue))]
      rfl

/-- A lookup that stops is the end of `hid_get_item_value`. -/
lemma hidGetItemValue_error {e : Stop} (ha : Attached w ref h d p)
    (he : lookUp env Tag.feature.code ref path w = .error e) (hasValue : Bool) :
    hidGetItemValue env ref path hasValue w = .error e := by
  simp only [hidGetItemValue, deref_bind, ha.isOpened, Bool.not_true, Bool.false_eq_true, if_false]
  exact state_bind_error he

end Transfer

end Libhid
