import Libhid.Parser.Fetching

/-!
# What a search by path finds

`FindObject` looks for a path by comparing node arrays, whose tails keep the nodes of earlier,
deeper paths, and takes a second rule from the same query.  `Begins` is what a search by path is
for, `accident` what its two rules let through besides.
-/

namespace Libhid

open Framework

/-- The object is of the type, and its path begins with the nodes. -/
def Begins (type : UInt8) (nodes : List HIDNode) (o : HIDData) : Bool :=
  o.type == type && nodes.isPrefixOf o.path.nodes

/-- The object is of the type and passes one of the two rules, but its path does not begin with the
nodes: the nodes are found behind the end of its path, or it has report ID 0 and the offset left
over in the query. -/
def Accident (type : UInt8) (nodes : List HIDNode) (offset : UInt8) (o : HIDData) : Bool :=
  o.type == type && !nodes.isPrefixOf o.path.nodes &&
    (o.path.node.toList.take nodes.length == nodes || o.reportID == 0 && o.offset == offset)

/-- A query for a path as the exchange functions make it. -/
structure PathQuery (query : HIDData) (nodes : List HIDNode) : Prop where
  size : query.path.size.toNat = nodes.length
  ne : nodes ≠ []
  le : nodes.length ≤ pathSize
  nodes : query.path.nodes = nodes
  reportID : query.reportID = 0

section Rules

variable {query : HIDData} {nodes : List HIDNode}

lemma prefix_take {o : HIDData}
    (h : nodes.isPrefixOf o.path.nodes = true) :
    o.path.node.toList.take nodes.length = nodes := by
  have hpre : nodes <+: o.path.node.toList :=
    (List.isPrefixOf_iff_prefix.mp h).trans (List.take_prefix _ _)
  exact (List.prefix_iff_eq_take.mp hpre).symm

/-- The two rules, for a query by path. -/
lemma PathQuery.matches (h : PathQuery query nodes) (o : HIDData) :
    matchesQuery query o =
      .ok (Begins query.type nodes o || Accident query.type nodes query.offset o) := by
  have hpos : 0 < query.path.size.toNat := by
    rw [h.size]
    exact List.length_pos_iff.mpr h.ne
  have hsize : (query.path.size > 0) = True := by
    simpa [UInt8.lt_iff_toNat_lt] using hpos
  have hcmp : comparePath o query = .ok (o.path.node.toList.take nodes.length == nodes) := by
    unfold comparePath
    rw [if_pos (by rw [h.size]; exact h.le), h.nodes, h.size]
  simp only [matchesQuery, hsize, decide_true, Bool.true_and]
  cases ht : o.type == query.type with
  | false =>
      simp [Begins, Accident, ht]
  | true =>
      rw [if_pos rfl, hcmp, except_ok_bind, h.reportID]
      cases hp : nodes.isPrefixOf o.path.nodes with
      | true =>
          have htake := prefix_take hp
          simp [Begins, ht, hp, htake]
      | false =>
          simp [Begins, Accident, ht, hp]

/-- **What a search by path answers**: the first object that passes one of the two rules. -/
theorem PathQuery.answer (h : PathQuery query nodes) (abi : Abi) (p : HIDParser) :
    Generator.answer (findObject abi p query) =
      match (enumerate abi (resetParser p)).1.find? fun o =>
        Begins query.type nodes o || Accident query.type nodes query.offset o with
      | some o => .ok (some o)
      | none => (enumerate abi (resetParser p)).2.map fun _ => none := by
  unfold findObject enumerate
  rw [(parser_bounded abi).answer_find _ (resetParser_ready p),
    Generator.firstHit_total h.matches]
  cases List.find? _ _ <;> rfl

/-- No object passes a rule by accident before the first one whose path begins with the nodes. -/
def NoAccident (type : UInt8) (nodes : List HIDNode) (offset : UInt8) (objects : List HIDData) :
    Prop :=
  ∀ pre o post, objects = pre ++ o :: post → Accident type nodes offset o = true →
    ∃ b ∈ pre, Begins type nodes b = true

lemma not_begins_of_accident {type : UInt8} {nodes : List HIDNode} {offset : UInt8} {o : HIDData}
    (h : Accident type nodes offset o = true) : Begins type nodes o = false := by
  simp only [Accident, Bool.and_eq_true, Bool.not_eq_true'] at h
  simp [Begins, h.1.2]

/-- The first object that passes a rule is the first one whose path begins with the nodes if and
only if there is no accident before it. -/
lemma find_eq_find_iff {type : UInt8} {nodes : List HIDNode} {offset : UInt8} :
    ∀ objects : List HIDData,
    (objects.find? (fun o => Begins type nodes o || Accident type nodes offset o) =
      objects.find? (Begins type nodes)) ↔ NoAccident type nodes offset objects
  | [] => by
      refine ⟨fun _ pre o post h => ?_, fun _ => rfl⟩
      simp at h
  | o :: rest => by
      cases hb : Begins type nodes o with
      | true =>
          simp only [List.find?_cons, hb, Bool.true_or]
          refine ⟨fun _ pre x post h hacc => ?_, fun _ => trivial⟩
          cases pre with
          | nil =>
              cases h
              rw [not_begins_of_accident hacc] at hb
              cases hb
          | cons y pre =>
              cases h
              exact ⟨o, List.mem_cons_self, hb⟩
      | false =>
          cases hacc : Accident type nodes offset o with
          | true =>
              simp only [List.find?_cons, hb, hacc, Bool.or_true]
              refine iff_of_false (fun h => ?_) fun h => ?_
              · have hsome := List.find?_some h.symm
                rw [hb] at hsome
                cases hsome
              · obtain ⟨b, hmem, -⟩ := h [] o rest rfl hacc
                exact absurd hmem List.not_mem_nil
          | false =>
              simp only [List.find?_cons, hb, hacc, Bool.or_false]
              rw [find_eq_find_iff rest]
              constructor
              · intro h pre x post heq hx
                cases pre with
                | nil =>
                    cases heq
                    rw [hx] at hacc
                    cases hacc
                | cons y pre =>
                    cases heq
                    obtain ⟨b, hmem, hbb⟩ := h pre x post rfl hx
                    exact ⟨b, List.mem_cons_of_mem o hmem, hbb⟩
              · intro h pre x post heq hx
                obtain ⟨b, hmem, hbb⟩ := h (o :: pre) x post (by rw [heq]; rfl) hx
                rcases List.mem_cons.mp hmem with rfl | hmem
                · rw [hb] at hbb
                  cases hbb
                · exact ⟨b, hmem, hbb⟩

end Rules

/-! ## Any search -/

/-- What a search comes to, read off the enumeration of the descriptor. -/
inductive Selection
  /-- The parser leaves a table, or the comparison does, before an object passes. -/
  | stops
  /-- The first object that passes one of the two rules. -/
  | object (o : HIDData)
  /-- No object passes; the parser at the end of the descriptor. -/
  | nothing (last : HIDParser)

/-- The first object of the enumeration that `matchesQuery` lets through. -/
def select (abi : Abi) (p : HIDParser) (query : HIDData) : Selection :=
  match Generator.firstHit (matchesQuery query) (enumerate abi (resetParser p)).1,
    (enumerate abi (resetParser p)).2 with
  | .error _, _ => .stops
  | .ok (some o), _ => .object o
  | .ok none, .error _ => .stops
  | .ok none, .ok last => .nothing last

/-- After an object with a report ID its report is as long as the object's last bit; a report
without one has no length. -/
def sizeAfter (o : HIDData) : UInt8 := if o.reportID ≠ 0 then o.offset + o.size else 0

lemma matchesQuery_type {query o : HIDData} (h : matchesQuery query o = .ok true) :
    o.type = query.type := by
  by_contra hne
  have hfalse : (o.type == query.type) = false := by simpa using hne
  simp [matchesQuery, hfalse] at h

lemma firstHit_some {α ε : Type} {hit : α → Except ε Bool} {a : α} :
    ∀ {xs : List α}, Generator.firstHit hit xs = .ok (some a) → hit a = .ok true
  | [], h => by cases h
  | x :: xs, h => by
      rw [Generator.firstHit] at h
      rcases hx : hit x with e | _ | _ <;> rw [hx] at h
      · cases h
      · exact firstHit_some h
      · cases h
        exact hx

/-- What `GetReportOffset` returns for the report of the object that was just delivered. -/
lemma parseTurn_size {abi : Abi} {p q : HIDParser} {o : HIDData}
    (h : parseTurn abi p = .ok (q, some o)) (n : UInt8) :
    ∃ pos tab k, getReportOffset q.offsetTab n o.reportID o.type = some (pos, tab, k) ∧
      (tab.get pos).offset = sizeAfter o := by
  obtain ⟨r, -, hd⟩ := parseTurn_finds h
  obtain ⟨-, ⟨t⟩⟩ := dispatch_object hd
  have hprobe : probe ReportRow.free ReportRow.key q.offsetTab (o.reportID, o.type) =
      some t.pos := by
    rw [t.offsetTab, t.key]
    exact probe_set t.found rfl
  refine ⟨t.pos, _, _, getReportOffset_eq_some hprobe, ?_⟩
  have hid : o.reportID = r.reportKey.1 := congrArg Prod.fst t.key
  have hrow : q.offsetTab.get t.pos =
      keyRow r.reportKey (bitsBefore r.reportKey (r.offsetTab.get t.pos) + r.data.size) := by
    simp [t.offsetTab]
  rw [get_set_self, hrow, sizeAfter, hid, t.size, t.offset]
  show rowBits (keyRow _ _) = _
  rw [rowBits_keyRow, bitsBefore]
  split_ifs <;> rfl

/-- **A search comes to what `select` says.** -/
theorem findObject_select (abi : Abi) (p : HIDParser) (query : HIDData) :
    match select abi p query with
    | .stops => ∃ e, findObject abi p query = .error e
    | .object o => o.type = query.type ∧ ∃ q, findObject abi p query = .ok (q, some o) ∧
        ∀ n, ∃ pos tab k, getReportOffset q.offsetTab n o.reportID o.type = some (pos, tab, k) ∧
          (tab.get pos).offset = sizeAfter o
    | .nothing last => findObject abi p query = .ok (last, none) := by
  have hfinds := (parser_bounded abi).finds_find (matchesQuery query) (resetParser_ready p)
  unfold Generator.Finds at hfinds
  unfold select
  rw [show (parser abi).find (matchesQuery query) (resetParser p) = findObject abi p query from rfl,
    show (parser abi).all (resetParser p) = enumerate abi (resetParser p) from rfl] at hfinds
  rcases hhit : Generator.firstHit (matchesQuery query) (enumerate abi (resetParser p)).1 with
    e | _ | o <;> rw [hhit] at hfinds
  · exact ⟨e, hfinds⟩
  · cases hend : (enumerate abi (resetParser p)).2 with
    | error e => exact ⟨e, by rw [hfinds, hend]; rfl⟩
    | ok last =>
        show findObject abi p query = .ok (last, none)
        rw [hfinds, hend]
        rfl
  · obtain ⟨q, u, ys, hf, -, -, hb⟩ := hfinds
    exact ⟨matchesQuery_type (firstHit_some hhit), q, hf, parseTurn_size hb⟩

end Libhid
