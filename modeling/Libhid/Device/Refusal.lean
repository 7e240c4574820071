import Libhid.Device.ItemValue

/-!
# Refused calls

Which calls of the exchange functions return an error without a transfer: a lookup that finds
nothing is not among the reasons.
-/

namespace Libhid

open Framework

/-! ## Calls -/

/-- A call of one of the exchange functions, with what its caller hands over besides the path. -/
inductive Exchange
  /-- `hid_get_input_report`. -/
  | getInputReport (buffer : Option (ℕ → UInt8)) (size : UInt32)
  /-- `hid_set_output_report`. -/
  | setOutputReport (buffer : Option (ℕ → UInt8)) (size : UInt32)
  /-- `hid_get_feature_report`. -/
  | getFeatureReport (buffer : Option (ℕ → UInt8)) (size : UInt32)
  /-- `hid_set_feature_report`. -/
  | setFeatureReport (buffer : Option (ℕ → UInt8)) (size : UInt32)
  /-- `hid_get_item_value`. -/
  | getItemValue (hasValue : Bool)

/-- The value the call returns. -/
def Exchange.run (env : Env) (ref : Ref) (path : List ℤ) : Exchange → Hid HidReturn
  | .getInputReport buffer size => Prod.fst <$> hidGetInputReport env ref path buffer size
  | .setOutputReport buffer size => hidSetOutputReport env ref path buffer size
  | .getFeatureReport buffer size => Prod.fst <$> hidGetFeatureReport env ref path buffer size
  | .setFeatureReport buffer size => hidSetFeatureReport env ref path buffer size
  | .getItemValue hasValue => Prod.fst <$> hidGetItemValue env ref path hasValue

/-- The type of object the call looks up. -/
def Exchange.type : Exchange → UInt8
  | .getInputReport _ _ => Tag.input.code
  | .setOutputReport _ _ => Tag.output.code
  | .getFeatureReport _ _ | .setFeatureReport _ _ | .getItemValue _ => Tag.feature.code

/-- A report function was handed `NULL` for its buffer. -/
def Exchange.NullBuffer : Exchange → Prop
  | .getInputReport buffer _ | .setOutputReport buffer _ | .getFeatureReport buffer _
  | .setFeatureReport buffer _ => buffer = none
  | .getItemValue _ => False

/-- The call returns an error and makes no transfer. -/
def Refuses (env : Env) (call : Exchange) (ref : Ref) (path : List ℤ) (w : World) : Prop :=
  ∃ ret w' es, call.run env ref path w = .ok (ret, w') ∧ ret ≠ .success ∧ w'.log = es ++ w.log ∧
    ∀ e ∈ es, e.isTransfer = false

/-! ## Every other call makes a transfer -/

section Exchange

variable {env : Env} {w w' : World} {ref : Ref} {h : UsbHandle} {d : Block HIDData}
  {p : Block HIDParser} {path : List ℤ}

/-- A lookup stops, or hands over to the transfer. -/
lemma lookUp_cases (env : Env) (ha : Attached w ref h d p) (type : UInt8) (path : List ℤ) :
    (∃ e, lookUp env type ref path w = .error e) ∨
      ∃ w' d' p', lookUp env type ref path w = .ok ((), w') ∧ Looked w w' ref h d' p' := by
  have hrun := lookUp_run env ha type path
  cases hsel : selectPath env.abi p.val d.val type path with
  | stops =>
      rw [hsel] at hrun
      exact .inl hrun
  | object o =>
      rw [hsel] at hrun
      obtain ⟨-, w', q, hl, -, hlooked, -⟩ := hrun
      exact .inr ⟨w', _, _, hl, hlooked⟩
  | nothing last =>
      rw [hsel] at hrun
      dsimp only at hrun
      split_ifs at hrun
      · obtain ⟨w', query, hl, -, hlooked, -⟩ := hrun
        exact .inr ⟨w', _, _, hl, hlooked⟩
      · exact .inl ⟨_, hrun⟩

/-- The run stops, or makes a transfer. -/
def Transfers {α : Type} (w : World) : Except Stop (α × World) → Prop
  | .error _ => True
  | .ok (_, w') => ∃ msg len es, w'.log = .usbControlMsg msg len :: es ++ w.log

lemma Transfers.map {α β : Type} {f : α → β} {m : Hid α} (hm : Transfers w (m w)) :
    Transfers w ((f <$> m) w) := by
  rw [show (f <$> m) w = (m >>= fun a => pure (f a)) w from rfl]
  rcases hr : m w with e | ⟨a, w'⟩
  · rw [state_bind_error hr]
    trivial
  · rw [hr] at hm
    rw [state_bind_eq hr]
    exact hm

lemma transferReport_transfers (env : Env) (kind : ReportKind) (ha : Attached w ref h d p)
    (path : List ℤ) (size : UInt32) :
    Transfers w (transferReport env kind ref path size w) := by
  unfold transferReport
  rcases lookUp_cases env ha kind.type path with ⟨e, he⟩ | ⟨w', d', p', hl, hlooked⟩
  · rw [state_bind_error he]
    trivial
  · obtain ⟨es, hes, -⟩ := hlooked.log
    rw [state_bind_eq hl]
    simp only [deref_bind, hlooked.attached.hidData, nonNull_some, pure_bind, usbControlMsg,
      callOut_bind]
    split_ifs <;> exact ⟨_, _, es, congrArg (List.cons _) hes⟩

lemma getReport_transfers (env : Env) (kind : ReportKind) (ha : Attached w ref h d p)
    (path : List ℤ) (buf : ℕ → UInt8) (size : UInt32) :
    Transfers w (getReport env kind ref path (some buf) size w) := by
  have ht := transferReport_transfers env kind ha path size
  simp only [getReport, deref_bind, ha.isOpened, Bool.not_true, Bool.false_eq_true, if_false]
  exact ht.map (f := fun out => (out.1, some (received buf out.2.1 size.toNat out.2.2)))

lemma setReport_transfers (env : Env) (kind : ReportKind) (ha : Attached w ref h d p)
    (path : List ℤ) (buf : ℕ → UInt8) (size : UInt32) :
    Transfers w (setReport env kind ref path (some buf) size w) := by
  have ht := transferReport_transfers env kind ha path size
  simp only [setReport, deref_bind, ha.isOpened, Bool.not_true, Bool.false_eq_true, if_false]
  exact ht.map

lemma hidGetItemValue_transfers (env : Env) (ha : Attached w ref h d p) (path : List ℤ)
    (hasValue : Bool) : Transfers w (hidGetItemValue env ref path hasValue w) := by
  rcases lookUp_cases env ha Tag.feature.code path with ⟨e, he⟩ | ⟨w', d', p', hl, hlooked⟩
  · rw [hidGetItemValue_error ha he hasValue]
    trivial
  · obtain ⟨es, hes, -⟩ := hlooked.log
    rcases hs : hidGetItemValue env ref path hasValue w with e | ⟨out, w''⟩
    · trivial
    · rcases hg : getReportOffset p'.val.offsetTab p'.val.nReport d'.val.reportID d'.val.type with
        _ | ⟨pos, tab, n⟩
      · rw [hidGetItemValue_run env ha hl hlooked.attached hasValue, hg] at hs
        cases hs
      · obtain ⟨msg, len, hlog, -⟩ := hidGetItemValue_log ha hl hlooked.attached hg hs
        exact ⟨msg, len, es, by rw [hlog, hes]; rfl⟩

lemma Transfers.not_refuses {call : Exchange} (ht : Transfers w (call.run env ref path w)) :
    ¬ Refuses env call ref path w := by
  rintro ⟨ret, w', es, hrun, -, hes, hquiet⟩
  rw [hrun] at ht
  obtain ⟨msg, len, es', hes'⟩ := ht
  have hmem : Event.usbControlMsg msg len ∈ es := by
    rw [List.append_cancel_right (hes.symm.trans hes')]
    exact List.mem_cons_self
  cases hquiet _ hmem

lemma refuses_of_run {call : Exchange} {ret : HidReturn}
    (hrun : call.run env ref path w = .ok (ret, w)) (hret : ret ≠ .success) :
    Refuses env call ref path w := ⟨ret, w, [], hrun, hret, rfl, by simp⟩

/-- **An exchange function refuses a call only for a missing buffer**, whatever its path matches. -/
theorem refuses_iff (env : Env) (ha : Attached w ref h d p) (call : Exchange) (path : List ℤ) :
    Refuses env call ref path w ↔ call.NullBuffer := by
  cases call with
  | getInputReport buffer size =>
      cases buffer with
      | none => exact iff_of_true (refuses_of_run rfl (by decide)) rfl
      | some buf =>
          have ht := (getReport_transfers env inputReport ha path buf size).map (f := Prod.fst)
          exact iff_of_false (Transfers.not_refuses ht) (by simp [Exchange.NullBuffer])
  | setOutputReport buffer size =>
      cases buffer with
      | none => exact iff_of_true (refuses_of_run rfl (by decide)) rfl
      | some buf =>
          have ht := setReport_transfers env outputReport ha path buf size
          exact iff_of_false (Transfers.not_refuses ht) (by simp [Exchange.NullBuffer])
  | getFeatureReport buffer size =>
      cases buffer with
      | none => exact iff_of_true (refuses_of_run rfl (by decide)) rfl
      | some buf =>
          have ht := (getReport_transfers env featureReport ha path buf size).map (f := Prod.fst)
          exact iff_of_false (Transfers.not_refuses ht) (by simp [Exchange.NullBuffer])
  | setFeatureReport buffer size =>
      cases buffer with
      | none => exact iff_of_true (refuses_of_run rfl (by decide)) rfl
      | some buf =>
          have ht := setReport_transfers env setFeatureReport ha path buf size
          exact iff_of_false (Transfers.not_refuses ht) (by simp [Exchange.NullBuffer])
  | getItemValue hasValue =>
      have ht := (hidGetItemValue_transfers env ha path hasValue).map (f := Prod.fst)
      exact iff_of_false (Transfers.not_refuses ht) id

end Exchange

/-- `refuses_iff` for a call without a buffer. -/
theorem refuses_iff_bench : Refuses (bench []) (.getInputReport none 8) 0 [0x00010005]
    (attached .zero (.holding oneReport)) :=
  (refuses_iff (bench []) (attached_attached .zero (.holding oneReport) 0) _ _).mpr rfl

/-- Not every call whose path matches nothing is refused: the feature report is asked for with
report ID 0 and no bytes, and a value is returned. -/
theorem refuses_fails : ¬ ∀ (env : Env) (w : World) (ref : Ref) (h : UsbHandle)
    (d : Block HIDData) (p : Block HIDParser) (call : Exchange) (path : List ℤ),
    Attached w ref h d p → path ≠ [] → path.length ≤ pathSize →
    (∀ o ∈ (enumerate env.abi (resetParser p.val)).1,
      Begins call.type (path.map pathNode) o = false) →
    Refuses env call ref path w := by
  intro hall
  have hnone : ((enumerate (.little .w64 true) (resetParser (.holding oneReport))).1.all fun o =>
      !Begins Tag.feature.code ([0x00010005].map pathNode) o) = true := by
    decide +kernel
  have hno : ∀ o ∈ (enumerate (.little .w64 true) (resetParser (.holding oneReport))).1,
      Begins Tag.feature.code ([0x00010005].map pathNode) o = false := by
    intro o ho
    simpa using List.all_eq_true.mp hnone o ho
  have hrun : endsWith (fun ret _ => ret == .success)
      ((Exchange.getItemValue true).run (answering (.little .w64 true) 0) 0 [0x00010005]
        (attached .zero (.holding oneReport))) = true := by
    decide +kernel
  obtain ⟨ret, w', es, hret, hne, -⟩ := hall (answering (.little .w64 true) 0) _ 0 _ _ _
    (.getItemValue true) [0x00010005] (attached_attached .zero (.holding oneReport) 0) (by decide)
    (by decide) hno
  rw [hret] at hrun
  exact hne (beq_iff_eq.mp hrun)

end Libhid
