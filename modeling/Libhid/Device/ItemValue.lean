import Libhid.Device.Transfers

/-!
# The value of an item

`hid_get_item_value` asks for as many bytes as the parser has counted bits up to the object found,
and decodes the field from a buffer of 32 bytes.  `readsReturned_iff` says when it decodes nothing
but what it was sent, `fitsBuffer_iff` when the transfer fits the buffer.
-/

namespace Libhid

open Framework

/-! ## The bytes a value is made of -/

/-- The positions of the report bits that `GetValue` combines. -/
def bitsRead (data : HIDData) : List ℕ :=
  (List.range data.size.toNat).map fun i => data.offset.toNat + 8 + i

lemma getBits_congr {abi : Abi} {buf buf' : ℕ → UInt8} : ∀ {k bit weight : ℕ} {value : ℤ},
    (∀ i < k, reportBit buf (bit + i) = reportBit buf' (bit + i)) →
    abi.getBits buf k bit weight value = abi.getBits buf' k bit weight value
  | 0, _, _, _, _ => rfl
  | k + 1, bit, weight, value, h => by
      have hfirst : reportBit buf bit = reportBit buf' bit := h 0 (Nat.succ_pos k)
      rw [Abi.getBits, Abi.getBits, hfirst]
      apply getBits_congr
      intro i hi
      have hnext := h (i + 1) (by omega)
      rwa [show bit + (i + 1) = bit + 1 + i by omega] at hnext

/-- `GetValue` depends on the bits it combines only. -/
theorem getValue_congr {abi : Abi} {buf buf' : ℕ → UInt8} {data : HIDData}
    (h : ∀ bit ∈ bitsRead data, reportBit buf bit = reportBit buf' bit) :
    abi.getValue buf data = abi.getValue buf' data := by
  have hbits : abi.getBits buf data.size.toNat (data.offset.toNat + 8) 0 0 =
      abi.getBits buf' data.size.toNat (data.offset.toNat + 8) 0 0 := by
    refine getBits_congr fun i hi => h _ ?_
    exact List.mem_map.mpr ⟨i, List.mem_range.mpr hi, rfl⟩
  rw [Abi.getValue, Abi.getValue, hbits]

lemma forall_bitsRead_iff {data : HIDData} {n : ℕ} :
    (∀ bit ∈ bitsRead data, bit / 8 < n) ↔
      data.size = 0 ∨ (data.offset.toNat + data.size.toNat + 7) / 8 < n := by
  constructor
  · intro h
    by_cases hsize : data.size = 0
    · exact .inl hsize
    · right
      have hpos := toNat_ne_zero8.mp hsize
      have hlast := h (data.offset.toNat + 8 + (data.size.toNat - 1))
        (List.mem_map.mpr ⟨_, List.mem_range.mpr (by omega), rfl⟩)
      rwa [show data.offset.toNat + 8 + (data.size.toNat - 1) =
        data.offset.toNat + data.size.toNat + 7 by omega] at hlast
  · rintro (hsize | hlast) bit hbit
    · simp [bitsRead, hsize] at hbit
    · obtain ⟨i, hi, rfl⟩ := List.mem_map.mp hbit
      have hlt := List.mem_range.mp hi
      exact Nat.lt_of_le_of_lt (Nat.div_le_div_right (by omega)) hlast

/-- What `GetValue` reaches are the bytes of the bits it combines. -/
lemma bytesReached_le_iff {data : HIDData} {n : ℕ} :
    bytesReached data ≤ n ↔ ∀ bit ∈ bitsRead data, bit / 8 < n := by
  rw [forall_bitsRead_iff, bytesReached]
  split_ifs with hsize
  · simp [hsize]
  · simp only [hsize, false_or]
    exact Nat.succ_le_iff

/-- When `hid_get_item_value` succeeds, the lookup it made found a feature, and every bit of the
value is in a byte that the transfer it made returned. -/
def ReadsReturned (env : Env) (w : World) (ref : Ref) (d : Block HIDData) (path : List ℤ) : Prop :=
  ∀ hasValue value w', hidGetItemValue env ref path hasValue w = .ok ((.success, value), w') →
    ∃ w₁ b msg len rest,
      hidFindObject env ref path (w.asking ref d Tag.feature.code) = .ok (.success, w₁) ∧
      (w₁.hidifs ref).hidData = some b ∧ b.val.type = Tag.feature.code ∧
      w'.log = .usbControlMsg msg len :: rest ∧
      ∀ bit ∈ bitsRead b.val, ((bit / 8 : ℕ) : ℤ) < len

/-- The length `hid_get_item_value` asks for covers the field it decodes. -/
def Covered : Selection → Prop
  | .stops => True
  | .object o => o.size = 0 ∨
      o.reportID ≠ 0 ∧ (o.offset.toNat + o.size.toNat + 7) / 8 < (o.offset + o.size).toNat
  | .nothing last => ∀ i (_ : i < maxReport), last.offsetTab[i].id ≠ 0

lemma covered_object_iff {o : HIDData} :
    Covered (.object o) ↔ ∀ bit ∈ bitsRead o, bit / 8 < (sizeAfter o).toNat := by
  rw [forall_bitsRead_iff, Covered, sizeAfter]
  split_ifs with hid
  · simp [hid]
  · simp [hid]

/-- Report ID 0 has a row exactly while the report table has a free one, and no bits in it. -/
lemma getReportOffset_zero (tab : Vector ReportRow maxReport) (n type : UInt8) :
    (getReportOffset tab n 0 type = none ∧ ∀ i (_ : i < maxReport), tab[i].id ≠ 0) ∨
    (¬ (∀ i (_ : i < maxReport), tab[i].id ≠ 0) ∧
      ∃ pos tab' k, getReportOffset tab n 0 type = some (pos, tab', k) ∧
        (tab'.get pos).offset = 0) := by
  cases hp : probe ReportRow.free ReportRow.key tab (0, type) with
  | none =>
      left
      refine ⟨by simp [getReportOffset, hp], fun i hi hid => ?_⟩
      have hno := scanFrom_none hp hi (Nat.zero_le _) (by omega)
      simp [ReportRow.free, hid] at hno
  | some pos =>
      right
      have hid : (tab.get pos).id = 0 := by
        rcases probe_some hp with hfree | hkey
        · simpa [ReportRow.free] using hfree
        · exact congrArg Prod.fst hkey
      refine ⟨fun hall => hall pos pos.isLt hid, pos, _, _, getReportOffset_eq_some hp, ?_⟩
      rw [get_set_self]
      show rowBits (tab.get pos) = 0
      rw [rowBits, if_neg (by simpa using hid)]

/-- libusb on the bench, answering every transfer with a length.  There are no blocks left, and as
many bytes behind a local array as a report counts bits. -/
def answering (abi : Abi) (len : ℤ) : Env :=
  { bench [] with
    abi := abi
    usbControlMsg := fun _ => (len, fun _ => 0)
    malloc := fun _ => false
    stackSlack := 256 }

/-- The length a transfer asked for and the length it returned. -/
def Event.lengths : Event → Option (ℕ × ℤ)
  | .usbControlMsg msg len => some (msg.size, len)
  | _ => none

section ItemValue

variable {w : World} {ref : Ref} {h : UsbHandle} {d : Block HIDData} {p : Block HIDParser}
  {path : List ℤ}

/-- A success of `hid_get_item_value` ends with a transfer of the size asked for. -/
lemma hidGetItemValue_success {env : Env} {w' w'' : World} {h' : UsbHandle} {d' : Block HIDData}
    {p' : Block HIDParser} {hasValue : Bool} {value : Option ℤ} {pos : Fin maxReport}
    {tab : Vector ReportRow maxReport} {n : UInt8} (ha : Attached w ref h d p)
    (hl : lookUp env Tag.feature.code ref path w = .ok ((), w')) (ha' : Attached w' ref h' d' p')
    (hg : getReportOffset p'.val.offsetTab p'.val.nReport d'.val.reportID d'.val.type =
      some (pos, tab, n))
    (hs : hidGetItemValue env ref path hasValue w = .ok ((.success, value), w'')) :
    ∃ msg len, w''.log = .usbControlMsg msg len :: w'.log ∧
      ((tab.get pos).offset.toNat : ℤ) ≤ len := by
  rw [hidGetItemValue_run env ha hl ha' hasValue, hg] at hs
  dsimp only at hs
  split_ifs at hs with hover hneg hlen hvalue hreach
  · cases hs
  · cases hs
  · cases hs
    refine ⟨_, _, rfl, ?_⟩
    have hmod := Int.emod_add_mul_ediv (env.usbControlMsg w'.log.length).1 (2 ^ 32)
    have hdiv := Int.ediv_nonneg (Int.not_lt.mp hneg) (by decide : (0 : ℤ) ≤ 2 ^ 32)
    omega
  · cases hs

/-- With the length asked for, `hid_get_item_value` succeeds. -/
lemma hidGetItemValue_answering {abi : Abi} {w' : World} {h' : UsbHandle} {d' : Block HIDData}
    {p' : Block HIDParser} {pos : Fin maxReport} {tab : Vector ReportRow maxReport} {n : UInt8}
    {len : ℕ} (ha : Attached w ref h d p)
    (hl : lookUp (answering abi len) Tag.feature.code ref path w = .ok ((), w'))
    (ha' : Attached w' ref h' d' p')
    (hg : getReportOffset p'.val.offsetTab p'.val.nReport d'.val.reportID d'.val.type =
      some (pos, tab, n)) (hlen : (tab.get pos).offset.toNat = len) :
    ∃ value w'', hidGetItemValue (answering abi len) ref path true w =
        .ok ((.success, value), w'') ∧
      ∃ msg, w''.log = .usbControlMsg msg len :: w'.log ∧ msg.size = len := by
  have hlt := (tab.get pos).offset.toNat_lt
  rw [hidGetItemValue_run (answering abi len) ha hl ha' true, hg]
  dsimp only
  have hneg : ¬ ((answering abi len).usbControlMsg w'.log.length).1 < 0 :=
    Int.not_lt.mpr (Int.natCast_nonneg len)
  have hmod : ¬ ((answering abi len).usbControlMsg w'.log.length).1 % 2 ^ 32 ≠
      (tab.get pos).offset.toNat := by
    show ¬ (len : ℤ) % 2 ^ 32 ≠ _
    omega
  have hroom : ¬ (answering abi len).itemRoom < min
      ((answering abi len).usbControlMsg w'.log.length).1.toNat (tab.get pos).offset.toNat := by
    show ¬ 32 + 256 < _
    omega
  have hreach : ¬ (answering abi len).itemRoom < bytesReached d'.val := by
    have hsize := d'.val.size.toNat_lt
    have hoffset := d'.val.offset.toNat_lt
    rw [bytesReached]
    show ¬ 32 + 256 < _
    split_ifs <;> omega
  rw [if_neg hroom, if_neg hneg, if_neg hmod, if_pos rfl, if_neg hreach]
  exact ⟨_, _, rfl, _, rfl, hlen⟩

/-- The number of bytes `hid_get_item_value` asks for after a lookup, none if it stops before. -/
def Selection.asked : Selection → Option ℕ
  | .stops => none
  | .object o => some (sizeAfter o).toNat
  | .nothing last => (getReportOffset last.offsetTab last.nReport 0 Tag.feature.code).map
      fun row => (row.2.1.get row.1).offset.toNat

/-- **How `hid_get_item_value` comes to its transfer**, if the warning of a lookup that finds
nothing fits its block. -/
lemma asked_run (env : Env) (ha : Attached w ref h d p) (path : List ℤ) (hasValue : Bool)
    (hfits : ∀ last, selectPath env.abi p.val d.val Tag.feature.code path = .nothing last →
      env.WarningFits (env.malloc w.log.length) path) :
    match (selectPath env.abi p.val d.val Tag.feature.code path).asked with
    | none => ∃ e, hidGetItemValue env ref path hasValue w = .error e
    | some n => ∃ w' d' p' pos tab k r, lookUp env Tag.feature.code ref path w = .ok ((), w') ∧
        Looked w w' ref h d' p' ∧
        getReportOffset p'.val.offsetTab p'.val.nReport d'.val.reportID d'.val.type =
          some (pos, tab, k) ∧ (tab.get pos).offset.toNat = n ∧
        hidFindObject env ref path (w.asking ref d Tag.feature.code) = .ok (r, w') ∧
        (r = .success → ∃ o, selectPath env.abi p.val d.val Tag.feature.code path = .object o) ∧
        match selectPath env.abi p.val d.val Tag.feature.code path with
        | .object o => r = .success ∧ d'.val = o ∧ o.type = Tag.feature.code
        | _ => bytesReached d'.val = bytesReached d.val := by
  have hrun := lookUp_run env ha Tag.feature.code path
  cases hsel : selectPath env.abi p.val d.val Tag.feature.code path with
  | stops =>
      rw [hsel] at hrun
      obtain ⟨e, he⟩ := hrun
      exact ⟨e, hidGetItemValue_error ha he hasValue⟩
  | object o =>
      rw [hsel] at hrun
      obtain ⟨htype, w', q, hl, hf, hlooked, hsize⟩ := hrun
      obtain ⟨pos, tab, k, hg, hoff⟩ := hsize q.nReport
      exact ⟨w', _, _, pos, tab, k, .success, hl, hlooked, hg, congrArg UInt8.toNat hoff, hf,
        fun _ => ⟨o, rfl⟩, rfl, rfl, htype⟩
  | nothing last =>
      rw [hsel] at hrun
      dsimp only at hrun
      rw [if_pos (hfits last hsel)] at hrun
      obtain ⟨w', query, hl, hf, hlooked, hid, htype, hreach⟩ := hrun
      have hkey : getReportOffset last.offsetTab last.nReport query.reportID query.type =
          getReportOffset last.offsetTab last.nReport 0 Tag.feature.code := by
        rw [hid, htype]
      rw [Selection.asked]
      rcases hg : getReportOffset last.offsetTab last.nReport 0 Tag.feature.code with
        _ | ⟨pos, tab, k⟩
      · refine ⟨.null, ?_⟩
        rw [hidGetItemValue_run env ha hl hlooked.attached hasValue, hkey, hg]
      · refine ⟨w', _, _, pos, tab, k, .notFound, hl, hlooked, hkey.trans hg, rfl, hf, ?_, hreach⟩
        rintro ⟨⟩

/-- Where `hid_get_item_value` returns, its lookup has found something or its warning fits. -/
lemma fits_of_ok {env : Env} {w' : World} {path : List ℤ} {hasValue : Bool}
    {out : HidReturn × Option ℤ} (ha : Attached w ref h d p)
    (hs : hidGetItemValue env ref path hasValue w = .ok (out, w')) (last : HIDParser)
    (hsel : selectPath env.abi p.val d.val Tag.feature.code path = .nothing last) :
    env.WarningFits (env.malloc w.log.length) path := by
  have hrun := lookUp_run env ha Tag.feature.code path
  rw [hsel] at hrun
  dsimp only at hrun
  by_contra hfits
  rw [if_neg hfits] at hrun
  rw [hidGetItemValue_error ha hrun hasValue] at hs
  cases hs

/-- Where `hid_get_item_value` returns, it has asked for a number of bytes. -/
lemma asked_of_ok {env : Env} {w' : World} {path : List ℤ} {hasValue : Bool}
    {out : HidReturn × Option ℤ} (ha : Attached w ref h d p)
    (hs : hidGetItemValue env ref path hasValue w = .ok (out, w')) :
    ∃ n, (selectPath env.abi p.val d.val Tag.feature.code path).asked = some n := by
  have hrun := asked_run env ha path hasValue (fits_of_ok ha hs)
  cases hn : (selectPath env.abi p.val d.val Tag.feature.code path).asked with
  | none =>
      rw [hn] at hrun
      obtain ⟨e, he⟩ := hrun
      rw [he] at hs
      cases hs
  | some n => exact ⟨n, rfl⟩

lemma covered_iff {s : Selection} :
    Covered s ↔ ∀ n, s.asked = some n → ∃ o, s = .object o ∧ ∀ bit ∈ bitsRead o, bit / 8 < n := by
  cases s with
  | stops =>
      refine iff_of_true trivial ?_
      rintro n ⟨⟩
  | object o =>
      rw [covered_object_iff]
      constructor
      · rintro hall n ⟨⟩
        exact ⟨o, rfl, hall⟩
      · intro hall
        obtain ⟨o', ho', hbits⟩ := hall _ rfl
        cases ho'
        exact hbits
  | nothing last =>
      rw [Selection.asked]
      rcases getReportOffset_zero last.offsetTab last.nReport Tag.feature.code with
        ⟨hg, hfull⟩ | ⟨hfree, pos, tab, k, hg, -⟩
      · rw [hg]
        refine iff_of_true hfull ?_
        rintro n ⟨⟩
      · rw [hg]
        refine iff_of_false hfree fun hall => ?_
        obtain ⟨o, ho, -⟩ := hall _ rfl
        cases ho

/-- **`hid_get_item_value` decodes bytes it was sent, of a feature it found, exactly when the
length it asks for covers the field.** -/
theorem readsReturned_iff (ha : Attached w ref h d p) (abi : Abi) (path : List ℤ) :
    (∀ env : Env, env.abi = abi → ReadsReturned env w ref d path) ↔
      Covered (selectPath abi p.val d.val Tag.feature.code path) := by
  rw [covered_iff]
  constructor
  · intro hall n hn
    -- let the device answer with the length asked for
    have hrun := asked_run (answering abi n) ha path true fun _ _ => warningFits_none _ path
    rw [show (selectPath (answering abi n).abi _ _ _ path).asked = some n from hn] at hrun
    obtain ⟨w', d', p', pos, tab, k, r, hl, hlooked, hg, hoff, hf, hfound, hobject⟩ := hrun
    obtain ⟨value, w'', hs, msg, hlog, -⟩ :=
      hidGetItemValue_answering ha hl hlooked.attached hg hoff
    obtain ⟨w₁, b, msg', len, rest, hf', hb, -, hlog', hbits⟩ := hall _ rfl true value w'' hs
    rw [hf] at hf'
    cases hf'
    rw [hlooked.attached.hidData] at hb
    cases hb
    rw [hlog] at hlog'
    cases hlog'
    obtain ⟨o, ho⟩ := hfound rfl
    rw [show selectPath (answering abi n).abi _ _ _ path = .object o from ho] at hobject
    obtain ⟨-, rfl, -⟩ := hobject
    refine ⟨d'.val, ho, fun bit hbit => ?_⟩
    exact_mod_cast hbits bit hbit
  · intro hcov env henv hasValue value w'' hs
    subst henv
    obtain ⟨n, hn⟩ := asked_of_ok ha hs
    have hrun := asked_run env ha path hasValue (fits_of_ok ha hs)
    rw [hn] at hrun
    obtain ⟨w', d', p', pos, tab, k, r, hl, hlooked, hg, hoff, hf, -, hobject⟩ := hrun
    obtain ⟨msg, len, hlog, hle⟩ := hidGetItemValue_success ha hl hlooked.attached hg hs
    obtain ⟨o, ho, hbits⟩ := hcov n hn
    rw [ho] at hobject
    obtain ⟨rfl, rfl, htype⟩ := hobject
    refine ⟨w', d', msg, len, _, hf, hlooked.attached.hidData, htype, hlog, fun bit hbit => ?_⟩
    have hlt := hbits bit hbit
    omega

instance : (s : Selection) → Decidable (Covered s)
  | .stops => .isTrue trivial
  | .object _ => inferInstanceAs (Decidable (_ ∨ _ ∧ _))
  | .nothing last => Nat.decidableBallLT maxReport fun i _ => last.offsetTab[i].id ≠ 0

/-- A descriptor with one feature field of 8 bits in report 1, on the path `00010001.00010002`. -/
def oneReport : List UInt8 :=
  [0x05, 0x01, 0x09, 0x01, 0xA1, 0x01, 0x85, 0x01, 0x75, 0x08, 0x95, 0x01, 0x09, 0x02, 0xB1, 0x02,
    0xC0]

/-- `readsReturned_iff` for a field that the length covers, and a device that returns as much. -/
theorem readsReturned_iff_bench : ReadsReturned (answering (.little .w64 true) 8)
    (attached .zero (.holding oneReport)) 0 ⟨1, .zero⟩ [0x00010001, 0x00010002] :=
  (readsReturned_iff (attached_attached .zero (.holding oneReport) 0) (.little .w64 true) _).mpr
    (by decide +kernel) _ rfl

/-- Not every value is made of bytes the device sent: for a field without a report ID the length
asked for is 0, and the value is read from a byte that no transfer wrote. -/
theorem readsReturned_fails : ¬ ∀ (env : Env) (w : World) (ref : Ref) (h : UsbHandle)
    (d : Block HIDData) (p : Block HIDParser) (path : List ℤ), Attached w ref h d p →
    ReadsReturned env w ref d path := by
  intro hall
  have hreads := hall (answering (.little .w64 true) 0) _ 0 _ _ _ [0x00010001, 0x00010002]
    (attached_attached .zero (.holding oneField) 0)
  have hrun : endsWith (fun out w' => out.1 == .success &&
      w'.log.head?.bind Event.lengths == some (0, 0))
      (hidGetItemValue (answering (.little .w64 true) 0) 0 [0x00010001, 0x00010002] true
        (attached .zero (.holding oneField))) = true := by
    decide +kernel
  have hfield : endsWith (fun _ w₁ => (w₁.hidifs 0).hidData.all fun b => 8 ∈ bitsRead b.val)
      (hidFindObject (answering (.little .w64 true) 0) 0 [0x00010001, 0x00010002]
        ((attached .zero (.holding oneField)).asking 0 ⟨1, .zero⟩ Tag.feature.code)) = true := by
    decide +kernel
  obtain ⟨⟨ret, value⟩, w', hg, hend⟩ := exists_of_endsWith hrun
  simp only [Bool.and_eq_true, beq_iff_eq] at hend
  obtain ⟨rfl, hlen⟩ := hend
  obtain ⟨w₁, b, msg, len, rest, hf, hb, -, hlog, hbits⟩ := hreads true value w' hg
  obtain ⟨out, w₂, hf', hbit⟩ := exists_of_endsWith hfield
  rw [hf] at hf'
  cases hf'
  simp only [hb, Option.all_some, decide_eq_true_eq] at hbit
  simp only [hlog, List.head?_cons, Option.bind_some, Event.lengths, Option.some.injEq,
    Prod.mk.injEq] at hlen
  have hlt := hbits 8 hbit
  omega

/-! ## The buffer -/

/-- No transfer of `hid_get_item_value` is longer than its buffer of 32 bytes. -/
def FitsBuffer (env : Env) (w : World) (ref : Ref) (path : List ℤ) : Prop :=
  ∀ hasValue out w' es, hidGetItemValue env ref path hasValue w = .ok (out, w') →
    w'.log = es ++ w.log → ∀ msg len, Event.usbControlMsg msg len ∈ es → msg.size ≤ 32

/-- The object selected is in a report without ID, or the report up to it has at most 32 bits. -/
def Within32 : Selection → Prop
  | .object o => o.reportID = 0 ∨ (o.offset + o.size).toNat ≤ 32
  | _ => True

lemma within32_iff {s : Selection} : Within32 s ↔ ∀ n, s.asked = some n → n ≤ 32 := by
  cases s with
  | stops =>
      refine iff_of_true trivial ?_
      rintro n ⟨⟩
  | object o =>
      have hsize : Within32 (.object o) ↔ (sizeAfter o).toNat ≤ 32 := by
        rw [Within32, sizeAfter]
        split_ifs with hid
        · simp [hid]
        · exact iff_of_true (.inl (by simpa using hid)) (Nat.zero_le 32)
      rw [hsize]
      constructor
      · rintro hle n ⟨⟩
        exact hle
      · intro hall
        exact hall _ rfl
  | nothing last =>
      refine iff_of_true trivial ?_
      rw [Selection.asked]
      rcases getReportOffset_zero last.offsetTab last.nReport Tag.feature.code with
        ⟨hg, -⟩ | ⟨-, pos, tab, k, hg, hoff⟩
      · rw [hg]
        rintro n ⟨⟩
      · rw [hg]
        rintro n ⟨⟩
        show (tab.get pos).offset.toNat ≤ 32
        rw [hoff]
        exact Nat.zero_le 32

/-- Whatever `hid_get_item_value` returns, it made one transfer, of the size asked for. -/
lemma hidGetItemValue_log {env : Env} {w' w'' : World} {h' : UsbHandle} {d' : Block HIDData}
    {p' : Block HIDParser} {hasValue : Bool} {out : HidReturn × Option ℤ} {pos : Fin maxReport}
    {tab : Vector ReportRow maxReport} {n : UInt8} (ha : Attached w ref h d p)
    (hl : lookUp env Tag.feature.code ref path w = .ok ((), w')) (ha' : Attached w' ref h' d' p')
    (hg : getReportOffset p'.val.offsetTab p'.val.nReport d'.val.reportID d'.val.type =
      some (pos, tab, n))
    (hs : hidGetItemValue env ref path hasValue w = .ok (out, w'')) :
    ∃ msg len, w''.log = .usbControlMsg msg len :: w'.log ∧
      msg.size = (tab.get pos).offset.toNat := by
  rw [hidGetItemValue_run env ha hl ha' hasValue, hg] at hs
  dsimp only at hs
  split_ifs at hs <;> cases hs <;> exact ⟨_, _, rfl, rfl⟩

/-- **The transfer of `hid_get_item_value` fits its buffer exactly when the report counted up to
the object has at most 32 bits.** -/
theorem fitsBuffer_iff (ha : Attached w ref h d p) (abi : Abi) (path : List ℤ) :
    (∀ env : Env, env.abi = abi → FitsBuffer env w ref path) ↔
      Within32 (selectPath abi p.val d.val Tag.feature.code path) := by
  rw [within32_iff]
  constructor
  · intro hall n hn
    have hrun := asked_run (answering abi n) ha path true fun _ _ => warningFits_none _ path
    rw [show (selectPath (answering abi n).abi _ _ _ path).asked = some n from hn] at hrun
    obtain ⟨w', d', p', pos, tab, k, r, hl, ⟨hat, es, hes, -⟩, hg, hoff, -⟩ := hrun
    obtain ⟨value, w'', hs, msg, hlog, hmsg⟩ := hidGetItemValue_answering ha hl hat hg hoff
    rw [← hmsg]
    exact hall _ rfl true _ w'' (.usbControlMsg msg _ :: es) hs (by rw [hlog, hes]; rfl) msg _
      List.mem_cons_self
  · intro hle env henv hasValue out w'' es hs hes msg len hmem
    subst henv
    obtain ⟨n, hn⟩ := asked_of_ok ha hs
    have hrun := asked_run env ha path hasValue (fits_of_ok ha hs)
    rw [hn] at hrun
    obtain ⟨w', d', p', pos, tab, k, r, hl, hlooked, hg, hoff, -⟩ := hrun
    obtain ⟨msg', len', hlog, hmsg⟩ := hidGetItemValue_log ha hl hlooked.attached hg hs
    obtain ⟨es', hes', hquiet⟩ := hlooked.log
    have hboth : es ++ w.log = (.usbControlMsg msg' len' :: es') ++ w.log := by
      rw [← hes, hlog, hes']
      rfl
    rw [List.append_cancel_right hboth] at hmem
    -- the only transfer among the calls is the last one
    rcases List.mem_cons.mp hmem with heq | hin
    · cases heq
      rw [hmsg, hoff]
      exact hle n hn
    · cases hquiet _ hin

end ItemValue

instance : (s : Selection) → Decidable (Within32 s)
  | .object _ => inferInstanceAs (Decidable (_ ∨ _))
  | .stops => .isTrue trivial
  | .nothing _ => .isTrue trivial

/-- `fitsBuffer_iff` for a report of 8 bits, and a device that returns 8 bytes. -/
theorem fitsBuffer_iff_bench : FitsBuffer (answering (.little .w64 true) 8)
    (attached .zero (.holding oneReport)) 0 [0x00010001, 0x00010002] :=
  (fitsBuffer_iff (attached_attached .zero (.holding oneReport) 0) (.little .w64 true) _).mpr
    (by decide +kernel) _ rfl

/-- `oneReport` with a field of 40 bits. -/
def wideReport : List UInt8 :=
  [0x05, 0x01, 0x09, 0x01, 0xA1, 0x01, 0x85, 0x01, 0x75, 0x28, 0x95, 0x01, 0x09, 0x02, 0xB1, 0x02,
    0xC0]

/-- Not every transfer fits: five bytes of a report are counted as 40, and asked for. -/
theorem fitsBuffer_fails : ¬ ∀ (env : Env) (w : World) (ref : Ref) (h : UsbHandle)
    (d : Block HIDData) (p : Block HIDParser) (path : List ℤ), Attached w ref h d p →
    FitsBuffer env w ref path := by
  intro hall
  have hfits := hall (answering (.little .w64 true) 40) _ 0 _ _ _ [0x00010001, 0x00010002]
    (attached_attached .zero (.holding wideReport) 0)
  have hrun : endsWith (fun _ w' => w'.log.any fun e => e.lengths == some (40, 40))
      (hidGetItemValue (answering (.little .w64 true) 40) 0 [0x00010001, 0x00010002] true
        (attached .zero (.holding wideReport))) = true := by
    decide +kernel
  obtain ⟨out, w', hg, hend⟩ := exists_of_endsWith hrun
  obtain ⟨event, hmem, hevent⟩ := List.any_eq_true.mp hend
  have hall := hfits true out w' w'.log hg (List.append_nil _).symm
  cases event with
  | usbControlMsg msg len =>
      have hle := hall msg len hmem
      have hsize : msg.size = 40 ∧ len = 40 := by simpa [Event.lengths] using hevent
      omega
  | _ => cases hevent

end Libhid
