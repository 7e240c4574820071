import Libhid.Device.Refusal

/-!
# How deep a path may be

The depth of a path is any `unsigned int`: `hid_prepare_parse_path` writes that many nodes and
stores its lower 8 bits as `Path.Size`, by which `FindObject` compares.  `searchesInside_iff` says
for which depths the three agree and stay within the `PATH_SIZE` nodes of a `HIDPath`.
-/

namespace Libhid

open Framework

/-! ## Writing the nodes -/

/-- A path that does not fit is written past the nodes. -/
lemma writePath_error : ∀ {path : List ℤ} {node : Vector HIDNode pathSize} {i : ℕ}, i ≤ pathSize →
    pathSize < i + path.length → writePath node i path = .error .node
  | [], _, _, hi, h => absurd h (Nat.not_lt.mpr hi)
  | element :: path, node, i, hi, h => by
      rw [List.length_cons] at h
      rw [writePath]
      split_ifs with hlt
      · exact writePath_error hlt (by omega)
      · rfl

lemma hidPrepareParsePath_error {data : HIDData} {path : List ℤ} (h : pathSize < path.length) :
    hidPrepareParsePath data path = .error .node := by
  rw [hidPrepareParsePath, writePath_error (Nat.zero_le _) (by omega)]
  rfl

/-! ## The lookup of a path -/

/-- The lookup of a call prepares a query with the depth of its path as `Path.Size`, which any
object can be compared with, so that it stops only where the parser does, or where its warning
leaves its block. -/
structure SearchesInside (env : Env) (call : Exchange) (ref : Ref) (path : List ℤ) (w : World)
    (d : Block HIDData) (p : Block HIDParser) : Prop where
  query : ∃ query, hidPrepareParsePath (d.val.asking call.type) path = .ok query ∧
    query.path.size.toNat = path.length ∧ ∀ found, ∃ b, comparePath found query = .ok b
  stops : ∀ e, lookUp env call.type ref path w = .error e →
    (enumerate env.abi (resetParser p.val)).2 = .error e ∨ e = .warning

/-- A call changes nothing, or looks its path up within the nodes. -/
def CallInside (env : Env) (call : Exchange) (ref : Ref) (path : List ℤ) (w : World)
    (d : Block HIDData) (p : Block HIDParser) : Prop :=
  (∃ ret, call.run env ref path w = .ok (ret, w)) ∨ SearchesInside env call ref path w d p

section Calls

variable {env : Env} {w : World} {ref : Ref} {h : UsbHandle} {d : Block HIDData}
  {p : Block HIDParser} {path : List ℤ} {query : HIDData} {e : Stop}

/-- Where paths can be compared, objects can be tried. -/
lemma matchesQuery_total (hq : ∀ found, ∃ b, comparePath found query = .ok b) (found : HIDData) :
    ∃ b, matchesQuery query found = .ok b := by
  obtain ⟨b, hb⟩ := hq found
  unfold matchesQuery
  split_ifs
  · exact ⟨_, by rw [hb]; rfl⟩
  · exact ⟨_, rfl⟩

/-- A search that stops does so with the parser, if no comparison does. -/
lemma findObject_error {abi : Abi} {s : HIDParser}
    (hq : ∀ found, ∃ b, comparePath found query = .ok b) (h : findObject abi s query = .error e) :
    (enumerate abi (resetParser s)).2 = .error e := by
  rcases (parser_bounded abi).find_error (resetParser_ready s) h with ⟨found, hf⟩ | hend
  · obtain ⟨b, hb⟩ := matchesQuery_total hq found
    rw [hb] at hf
    cases hf
  · exact hend

/-- A lookup that stops does so with its search, or with its warning. -/
lemma lookUp_error (ha : Attached w ref h d p) {type : UInt8}
    (hq : hidPrepareParsePath (d.val.asking type) path = .ok query)
    (he : lookUp env type ref path w = .error e) :
    findObject env.abi p.val query = .error e ∨ e = .warning := by
  have hfind := hidFindObject_eq env (ha.asking type) hq
  rw [lookUp_eq env ha] at he
  rcases hf : findObject env.abi p.val query with e' | ⟨parser, _ | o⟩ <;> rw [hf] at hfind
  · rw [state_bind_error hfind] at he
    cases he
    exact .inl rfl
  · dsimp only at hfind
    split_ifs at hfind
    · rw [state_bind_eq hfind] at he
      cases he
    · rw [state_bind_error hfind] at he
      cases he
      exact .inr rfl
  · rw [state_bind_eq hfind] at he
    cases he

lemma transferReport_error {kind : ReportKind} {size : UInt32}
    (he : lookUp env kind.type ref path w = .error e) :
    transferReport env kind ref path size w = .error e := state_bind_error he

lemma map_error {α β : Type} {f : α → β} {m : Hid α} (hm : m w = .error e) :
    (f <$> m) w = .error e := state_bind_error (f := fun a => pure (f a)) hm

/-- A lookup that stops is the end of the call. -/
lemma Exchange.run_error (ha : Attached w ref h d p) {call : Exchange} (hbuf : ¬ call.NullBuffer)
    (he : lookUp env call.type ref path w = .error e) : call.run env ref path w = .error e := by
  have hget : ∀ (kind : ReportKind) (buf : ℕ → UInt8) (size : UInt32),
      lookUp env kind.type ref path w = .error e →
      getReport env kind ref path (some buf) size w = .error e := by
    intro kind buf size he
    simp only [getReport, deref_bind, ha.isOpened, Bool.not_true, Bool.false_eq_true, if_false]
    exact state_bind_error (transferReport_error he)
  have hset : ∀ (kind : ReportKind) (buf : ℕ → UInt8) (size : UInt32),
      lookUp env kind.type ref path w = .error e →
      setReport env kind ref path (some buf) size w = .error e := by
    intro kind buf size he
    simp only [setReport, deref_bind, ha.isOpened, Bool.not_true, Bool.false_eq_true, if_false]
    exact state_bind_error (transferReport_error he)
  cases call with
  | getInputReport buffer size =>
      cases buffer with
      | none => exact absurd rfl hbuf
      | some buf => exact map_error (hget _ buf size he)
  | setOutputReport buffer size =>
      cases buffer with
      | none => exact absurd rfl hbuf
      | some buf => exact hset _ buf size he
  | getFeatureReport buffer size =>
      cases buffer with
      | none => exact absurd rfl hbuf
      | some buf => exact map_error (hget _ buf size he)
  | setFeatureReport buffer size =>
      cases buffer with
      | none => exact absurd rfl hbuf
      | some buf => exact hset _ buf size he
  | getItemValue hasValue => exact map_error (hidGetItemValue_error ha he hasValue)

/-- A call without a buffer returns at once. -/
lemma Exchange.NullBuffer.run {call : Exchange} (hbuf : call.NullBuffer) :
    call.run env ref path w = .ok (.invalidParameter, w) := by
  cases call with
  | getInputReport buffer size | setOutputReport buffer size | getFeatureReport buffer size
  | setFeatureReport buffer size =>
      cases (show buffer = none from hbuf)
      rfl
  | getItemValue hasValue => cases hbuf

/-- A path that fits is looked up within the nodes. -/
lemma searchesInside_of_le (ha : Attached w ref h d p) (call : Exchange)
    (hle : path.length ≤ pathSize) : SearchesInside env call ref path w d p := by
  obtain ⟨node, hw, -⟩ := writePath_ok path (d.val.asking call.type).path.node 0 (by omega)
  have hq : hidPrepareParsePath (d.val.asking call.type) path =
      .ok { d.val.asking call.type with path := ⟨uchar path.length, node⟩ } := by
    rw [hidPrepareParsePath, hw]
    rfl
  have hsize := uchar_depth hle
  have hcompare : ∀ found, ∃ b, comparePath found
      { d.val.asking call.type with path := ⟨uchar path.length, node⟩ } = .ok b :=
    fun found => ⟨_, if_pos (by rw [hsize]; exact hle)⟩
  exact ⟨⟨_, hq, hsize, hcompare⟩,
    fun e he => (lookUp_error ha hq he).imp_left (findObject_error hcompare)⟩

/-- A path that is looked up within the nodes fits. -/
lemma SearchesInside.le {call : Exchange} (hinside : SearchesInside env call ref path w d p) :
    path.length ≤ pathSize := by
  by_contra hlong
  obtain ⟨query, hq, -⟩ := hinside.query
  rw [hidPrepareParsePath_error (Nat.not_le.mp hlong)] at hq
  cases hq

/-- A call with a buffer, and a path that does not fit, leaves the nodes. -/
lemma Exchange.run_long (ha : Attached w ref h d p) {call : Exchange} (hbuf : ¬ call.NullBuffer)
    (hlong : pathSize < path.length) : call.run env ref path w = .error .node := by
  refine Exchange.run_error ha hbuf ?_
  rw [lookUp_eq env ha]
  exact state_bind_error (hidFindObject_error (ha.asking call.type)
    (hidPrepareParsePath_error hlong))

/-- **A call looks its path up within the nodes, by all of it, if and only if the depth is at most
`PATH_SIZE`**, so a call stays inside if and only if its depth is, or it has no buffer and looks
nothing up.  Otherwise the call leaves the table. -/
theorem searchesInside_iff (env : Env) (ha : Attached w ref h d p) (call : Exchange)
    (path : List ℤ) :
    (SearchesInside env call ref path w d p ↔ path.length ≤ pathSize) ∧
      (CallInside env call ref path w d p ↔ path.length ≤ pathSize ∨ call.NullBuffer) ∧
      (¬ call.NullBuffer → pathSize < path.length →
        call.run env ref path w = .error .node) := by
  refine ⟨⟨SearchesInside.le, searchesInside_of_le ha call⟩, ⟨?_, ?_⟩, Exchange.run_long ha⟩
  · rintro (⟨ret, hrun⟩ | hinside)
    · by_contra hneither
      obtain ⟨hlong, hbuf⟩ := not_or.mp hneither
      rw [Exchange.run_long ha hbuf (Nat.not_le.mp hlong)] at hrun
      cases hrun
    · exact .inl hinside.le
  · rintro (hle | hbuf)
    · exact .inr (searchesInside_of_le ha call hle)
    · exact .inl ⟨_, hbuf.run⟩

end Calls

/-- `searchesInside_iff` for a path of two nodes. -/
theorem searchesInside_iff_bench : SearchesInside (bench []) (.getItemValue true) 0
    [0x00010001, 0x00010002] (attached featureQuery (.holding oneField)) ⟨1, featureQuery⟩
    ⟨2, .holding oneField⟩ :=
  (searchesInside_iff (bench []) (attached_attached featureQuery (.holding oneField) 0) _ _).1.mpr
    (by decide)

/-- Not every depth is within the nodes: the eleventh node is written past them. -/
theorem searchesInside_fails : ¬ ∀ (env : Env) (w : World) (ref : Ref) (h : UsbHandle)
    (d : Block HIDData) (p : Block HIDParser) (call : Exchange) (path : List ℤ),
    Attached w ref h d p → SearchesInside env call ref path w d p := by
  intro hall
  obtain ⟨query, hq, -⟩ := (hall (bench []) _ 0 _ _ _ (.getItemValue true) (List.replicate 11 0)
    (attached_attached featureQuery (.holding oneField) 0)).query
  rw [hidPrepareParsePath_error (by decide)] at hq
  cases hq

end Libhid
