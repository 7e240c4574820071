import Libhid.Parser.Bounds
import Libhid.Parser.Counting
import Libhid.Parser.Delivery
import Libhid.Parser.Reports

/-!
# Enumerations that stay inside the tables

A descriptor may come from any device.  The parser enumerates it to its end, and leaves none of
its tables, if its items lie in the buffer, its nodes and usages fit and it has fewer data items
than the report table has rows (`enumerate_inside`).  Then the table has a free row in every state,
also for a report that no item declares.
-/

namespace Libhid

open Framework

/-! ## One turn -/

/-- The places of the tables that the case of the switch uses are inside. -/
structure CaseInside (r : HIDParser) : Prop where
  usages : ∀ i ∈ usageIndices r, i < usageTabSize
  nodes : ∀ i ∈ nodeIndices r, i < pathSize
  row : (Tag.ofItem r.item).isData = true →
    ∃ pos, probe ReportRow.free ReportRow.key r.offsetTab r.reportKey = some pos

section Cases

variable {abi : Abi} {r : HIDParser}

lemma pushNode_total {path : HIDPath} (node : HIDNode) (h : path.size.toNat < pathSize) :
    pushNode path node =
      .ok ⟨path.size + 1, path.node.set path.size.toNat node⟩ := dif_pos h

lemma CaseInside.openCollection (h : CaseInside r) (htag : Tag.ofItem r.item = .collection) :
    ∃ q, Libhid.openCollection r = .ok q := by
  have hnodes := h.nodes
  unfold nodeIndices at hnodes
  rw [htag] at hnodes
  dsimp only at hnodes
  have husages := usageIndices_inside_iff.mp h.usages (.inr (.inl htag))
  obtain ⟨stack, hun⟩ := unstackUsage_total r.usageTab husages
  have hfirst := pushNode_total r.firstUsage (hnodes _ List.mem_cons_self)
  rw [Libhid.openCollection, hfirst, except_ok_bind, hun, except_ok_bind]
  unfold pushIndex
  split_ifs with hindex
  · -- the index node comes behind the one of the usage
    have hsecond := hnodes (r.data.path.size + 1).toNat (by simp [hindex])
    rw [pushNode_total _ hsecond]
    exact ⟨_, rfl⟩
  · exact ⟨_, rfl⟩

lemma CaseInside.dataItem (h : CaseInside r) (hdata : (Tag.ofItem r.item).isData = true) :
    ∃ q object, Libhid.dataItem r = .ok (q, object) := by
  have hroom : r.data.path.size.toNat < pathSize := by
    have hnodes := h.nodes
    unfold nodeIndices at hnodes
    cases htag : Tag.ofItem r.item <;> rw [htag] at hdata hnodes
    case feature | input | output => exact hnodes _ (by simp)
    all_goals cases hdata
  obtain ⟨stack, hun⟩ := unstackUsage_total r.usageTab
    (usageIndices_inside_iff.mp h.usages (.inr (.inr hdata)))
  obtain ⟨pos, hpos⟩ := h.row hdata
  exact dataItem_total (pushNode_total _ hroom) hun hpos

/-- A case that stays inside does not stop. -/
lemma CaseInside.dispatch (h : CaseInside r) : ∃ out, Libhid.dispatch abi r = .ok out := by
  by_cases hdata : (Tag.ofItem r.item).isData = true
  · obtain ⟨q, object, hd⟩ := h.dataItem hdata
    exact ⟨(q, some object), by rw [dispatch_data hdata, hd]; rfl⟩
  cases htag : Tag.ofItem r.item
  case feature | input | output => exact absurd (by rw [htag]; rfl) hdata
  case usage =>
    have hlt : r.usageSize.toNat < usageTabSize :=
      Nat.lt_succ_of_le (usageIndices_inside_iff.mp h.usages (.inl htag))
    rw [dispatch_usage htag, pushUsage, dif_pos hlt]
    exact ⟨_, rfl⟩
  case collection =>
    obtain ⟨q, hq⟩ := h.openCollection htag
    exact ⟨(q, none), by rw [dispatch_collection htag, hq]; rfl⟩
  case endCollection =>
    have hlt : (r.data.path.size - 1).toNat < pathSize := by
      have hnodes := h.nodes
      unfold nodeIndices at hnodes
      rw [htag] at hnodes
      exact hnodes _ List.mem_cons_self
    rw [dispatch_endCollection htag, closeCollection]
    dsimp only
    rw [dif_pos hlt]
    exact ⟨_, rfl⟩
  all_goals
    unfold Libhid.dispatch
    rw [htag]
    exact ⟨_, rfl⟩

end Cases

/-! ## The report table -/

/-- The number of data items. -/
def dataCount (items : List RawItem) : ℕ := items.countP fun i => i.tag.isData

/-- The rows in use are those of the reports of the items read, and of the pending one. -/
structure Counted (s : HIDParser) (items : List RawItem) (keys : Finset (UInt8 × UInt8)) :
    Prop where
  indexed : Indexed ReportRow.free ReportRow.key s.offsetTab keys
  card : keys.card ≤ dataCount items
  pending : s.count ≠ 0 → s.reportKey.1 ≠ 0 → s.reportKey ∈ keys

/-- A free row, whatever report is looked up. -/
def HIDParser.HasRow (p : HIDParser) : Prop :=
  ∀ k, ∃ pos, probe ReportRow.free ReportRow.key p.offsetTab k = some pos

section Rows

variable {abi : Abi} {p s r q : HIDParser} {items : List RawItem}
  {keys : Finset (UInt8 × UInt8)} {o : HIDData} {out : Option HIDData}

lemma Indexed.hasRow (h : Indexed ReportRow.free ReportRow.key p.offsetTab keys)
    (hcard : keys.card < maxReport) : p.HasRow := by
  intro k
  cases hp : probe ReportRow.free ReportRow.key p.offsetTab k with
  | some pos => exact ⟨pos, rfl⟩
  | none =>
      have hlt := h.probe_eq_none_iff.mp hp
      have hle := Finset.card_insert_le k keys
      omega

/-- An object is counted in the row of its report, or in a free one if its report ID is 0. -/
lemma ObjectTurn.indexed (t : ObjectTurn r q o)
    (h : Indexed ReportRow.free ReportRow.key r.offsetTab keys) :
    Indexed ReportRow.free ReportRow.key q.offsetTab
      (if r.reportKey.1 = 0 then keys else insert r.reportKey keys) := by
  rw [t.offsetTab]
  split_ifs with hid
  · refine h.set_free ?_ (by simpa using hid)
    rcases h.probe_cases t.found with ⟨hmem, hlt, hkey⟩ | ⟨-, heq⟩
    · have hused := h.keyed.used t.pos t.pos.isLt hlt
      have hrowid : (r.offsetTab.get t.pos).id = 0 := (congrArg Prod.fst hkey).trans hid
      rw [get_eq_getElem] at hrowid
      simp [ReportRow.free, hrowid] at hused
    · exact Nat.le_of_eq heq.symm
  · exact h.set t.found (by simpa using hid) (key_keyRow _ _)

lemma ObjectTurn.reportKey (t : ObjectTurn r q o) : q.reportKey = r.reportKey := by
  have hitem : q.item = r.item := t.frame.2.2.1
  have hdata : q.data.reportID = r.data.reportID := by
    rw [t.data, t.object_eq]
  rw [HIDParser.reportKey, hdata, hitem]
  rfl

/-- A case that counts no object leaves the table. -/
lemma dispatched_offsetTab (hdata : (Tag.ofItem r.item).isData ≠ true)
    (hd : dispatch abi r = .ok (q, out)) : q.offsetTab = r.offsetTab := by
  cases dispatch_cases hd with
  | usage htag hpush =>
      obtain ⟨-, rfl⟩ := pushUsage_ok hpush
      rfl
  | collection htag hopen =>
      obtain ⟨path, stack, path', -, -, -, rfl⟩ := openCollection_ok hopen
      rfl
  | endCollection htag hclose =>
      obtain ⟨-, rfl⟩ := closeCollection_ok hclose
      rfl
  | object hdata' t => exact absurd hdata' hdata
  | global hmain husage htab' hsize hpath hrows hcount => exact hrows

lemma Counted.turn (h : Counted s items keys) (hready : s.Ready)
    (hb : parseTurn abi s = .ok (q, out)) : ∃ keys', Counted q (recordItem items s) keys' := by
  obtain ⟨r, hr, hd⟩ := parseTurn_finds hb
  cases hr with
  | pending hc =>
      obtain ⟨o, rfl, ⟨t⟩⟩ := pending_turn hready hc hd
      rw [recordItem_pending hc]
      have hkeys : (if s.reportKey.1 = 0 then keys else insert s.reportKey keys) = keys := by
        split_ifs with hid
        · rfl
        · exact Finset.insert_eq_of_mem (h.pending hc hid)
      have hindexed := t.indexed h.indexed
      rw [hkeys] at hindexed
      refine ⟨keys, hindexed, h.card, fun _ hid => ?_⟩
      rw [t.reportKey] at hid ⊢
      exact h.pending hc hid
  | @item i hc hi =>
      rw [recordItem_item hi]
      by_cases hdata : i.tag.isData = true
      · have htaken : (Tag.ofItem (s.taking abi i).item).isData = true := hdata
        rw [dispatch_data htaken, except_map_ok] at hd
        obtain ⟨⟨q', o⟩, hobject, hsame⟩ := hd
        cases hsame
        obtain ⟨t⟩ := dataItem_ok hobject
        have hcount : dataCount (i :: items) = dataCount items + 1 := by
          simp [dataCount, hdata]
        have hindexed := t.indexed h.indexed
        refine ⟨_, hindexed, ?_, fun _ hid => ?_⟩
        · rw [hcount]
          split_ifs
          · exact Nat.le_succ_of_le h.card
          · exact Nat.le_trans (Finset.card_insert_le _ _) (Nat.succ_le_succ h.card)
        · rw [t.reportKey] at hid ⊢
          rw [if_neg hid]
          exact Finset.mem_insert_self _ _
      · have htab : q.offsetTab = s.offsetTab :=
          dispatched_offsetTab (r := s.taking abi i) hdata hd
        have hcount : dataCount (i :: items) = dataCount items := by simp [dataCount, hdata]
        refine ⟨keys, ?_, hcount ▸ h.card, fun hq => ?_⟩
        · rw [htab]
          exact h.indexed
        · -- no object is due after an item that is not a data item
          rcases (dispatch_frame hd).count with hsame | hdata'
          · exact absurd (hsame.trans hc) hq
          · exact absurd hdata' hdata

lemma reads_counted (h : Reads abi p s items) : ∃ keys, Counted s items keys := by
  refine h.invariant (fun s items => ∃ keys, Counted s items keys) ?_ ?_
  · exact ⟨∅, Indexed.replicate rfl, Nat.zero_le _, fun hc => absurd rfl hc⟩
  · rintro s items q out hreads ⟨keys, hk⟩ - hb
    exact hk.turn (reads_tracks hreads).ready hb

end Rows

/-! ## The enumeration -/

section Enumeration

variable {abi : Abi} {bytes : List UInt8} {p s r : HIDParser} {items : List RawItem}

/-- The data items read are those of the descriptor that are not left. -/
lemma reads_dataCount (hp : p.Holds bytes) (h : Reads abi p s items) :
    dataCount items + dataItems abi (s.remaining bytes) = dataItems abi bytes := by
  refine h.invariant (fun s items => dataCount items + dataItems abi (s.remaining bytes) =
    dataItems abi bytes) ?_ ?_
  · rw [dataCount, List.countP_nil, Nat.zero_add]
    rfl
  · intro s items q out hreads hs hl hb
    obtain ⟨hready, hholds⟩ := visits_inv hp (visits_iff.mpr ⟨items, hreads⟩)
    have hpos := parseTurn_pos hready hb
    cases hi : s.nextRaw with
    | none =>
        have hrec : recordItem items s = items := by
          rw [recordItem, hi]
          rfl
        have hsame : q.remaining bytes = s.remaining bytes := by
          rw [HIDParser.remaining, HIDParser.remaining, hpos, HIDParser.advance, hi]
          rfl
        rw [hrec, hsame]
        exact hs
    | some i =>
        rw [recordItem_item hi, ← hs, dataItems_remaining hholds hl hi hpos, dataCount,
          List.countP_cons]
        exact Nat.add_assoc _ _ _ |>.trans rfl

/-- With fewer data items than reports, there is always a free row. -/
lemma hasRow_of_few (hp : p.Holds bytes) (hfew : dataItems abi bytes < maxReport)
    (hs : Visits abi p s) : s.HasRow := by
  obtain ⟨items, hreads⟩ := visits_iff.mp hs
  obtain ⟨keys, hk⟩ := reads_counted hreads
  have hread := reads_dataCount hp hreads
  have hcard := hk.card
  exact Indexed.hasRow hk.indexed (by omega)

/-- An item of a descriptor that ends four bytes before the buffer lies in the buffer. -/
lemma nextItem_inside (hp : p.Holds bytes) (hlen : bytes.length + 4 ≤ reportDscSize)
    (hs : Visits abi p s) (hl : s.live = true) : ∃ r, nextItem abi s = .ok r := by
  obtain ⟨-, hholds⟩ := visits_inv hp hs
  have hlt := pos_lt_of_live hholds hl
  by_cases hc : s.count = 0
  · rw [nextItem, if_pos hc, fetchItem, dif_pos (by omega)]
    dsimp only
    have hsize := itemSize_le s.reportDesc[s.pos.toNat]
    rw [if_pos (by omega)]
    exact ⟨_, rfl⟩
  · exact ⟨s, by rw [nextItem, if_neg hc]⟩

/-- **A descriptor is enumerated to its end** if it ends four bytes before the buffer, its nodes and
usages fit, and it has fewer data items than the report table has rows. -/
theorem enumerate_inside (hp : p.Holds bytes) (hlen : bytes.length + 4 ≤ reportDscSize)
    (hnodes : NodesFit abi p) (husages : FewUsages abi p)
    (hfew : dataItems abi bytes < maxReport) :
    ∃ q, (enumerate abi (resetParser p)).2 = .ok q := by
  rcases hend : (enumerate abi (resetParser p)).2 with e | q
  · -- the turn that stops is inside the tables
    have hemits := (parser_bounded abi).emits_all (resetParser_ready p)
    obtain ⟨s, hs, hl, hb⟩ := hemits.reaches_fail hend
    obtain ⟨r, hr⟩ := nextItem_inside hp hlen hs hl
    obtain ⟨items, hreads⟩ := visits_iff.mp hs
    have htracks := reads_tracks hreads
    have hplaced := reads_placed hreads fun s items hreads hl _ i hi =>
      hnodes s items i hreads hl hi
    have hcase : CaseInside r := by
      refine ⟨htracks.inside_iff.mpr (fun i hi => husages s items i hreads hl hi) r hr,
        ((hplaced.inside_iff htracks).mpr (fun i hi => hnodes s items i hreads hl hi) r hr).2,
        fun _ => ?_⟩
      rw [(nextItem_tab hr).1]
      exact hasRow_of_few hp hfew hs _
    obtain ⟨out, hout⟩ : ∃ out, dispatch abi r = .ok out := hcase.dispatch
    have hb : parseTurn abi s = .error e := hb
    rw [parseTurn, hr, except_ok_bind, hout] at hb
    cases hb
  · exact ⟨q, rfl⟩

end Enumeration

instance (abi : Abi) (u : UInt16) (items : List RawItem) (i : RawItem) :
    Decidable (Fits abi u items i) :=
  match htag : i.tag with
  | .collection =>
      decidable_of_iff
        ((nodesOf abi u items ++ Context.nodes (collectionOf abi u i items)).length ≤ pathSize)
        (by rw [Fits, htag])
  | .endCollection =>
      decidable_of_iff (nodesClosed (nodesOf abi u items) ≤ (nodesOf abi u items).length)
        (by rw [Fits, htag])
  | .feature | .input | .output =>
      decidable_of_iff ((nodesOf abi u items).length < pathSize) (by rw [Fits, htag])
  | .uPage | .usage | .repId | .repSize | .repCount | .unitExp | .unit | .logMin | .logMax
  | .phyMin | .phyMax | .long | .other => .isTrue (by rw [Fits, htag]; trivial)

/-- Whether the next item fits, after the items read. -/
def nextFits (abi : Abi) (u : UInt16) (s : HIDParser × List RawItem) : Bool :=
  s.1.nextRaw.all fun i => decide (Fits abi u s.2 i) && decide (usagesSince s.2 ≤ 49)

/-- A run on which every item fits. -/
lemma fits_of_run {abi : Abi} {p : HIDParser} {k : ℕ}
    (h : ((parser abi).withHistory recordItem).holdsAlong (nextFits abi p.uPage) k
      (resetParser p, []) = true) : NodesFit abi p ∧ FewUsages abi p := by
  have hnext : ∀ s items i, Reads abi p s items → s.nextRaw = some i →
      Fits abi p.uPage items i ∧ usagesSince items ≤ 49 := by
    intro s items i hreads hi
    have htest := Generator.Reaches.of_holdsAlong hreads h
    simp only [nextFits, hi, Option.all_some, Bool.and_eq_true, decide_eq_true_eq] at htest
    exact htest
  exact ⟨fun s items i hreads _ hi => (hnext s items i hreads hi).1,
    fun s items i hreads _ hi _ => (hnext s items i hreads hi).2⟩

/-- `enumerate_inside` for a descriptor with a collection and two fields. -/
theorem enumerate_inside_bench : ∃ q, (enumerate (.little .w64 true)
    (resetParser (.holding (encodeItems twoFields)))).2 = .ok q := by
  obtain ⟨hnodes, husages⟩ := fits_of_run (p := .holding (encodeItems twoFields)) (k := 20)
    (show ((parser (.little .w64 true)).withHistory recordItem).holdsAlong _ _ _ = true by
      decide +kernel)
  exact enumerate_inside (holding_holds (by decide +kernel)) (by decide +kernel) hnodes husages
    (by decide +kernel)

/-! ## Descriptors that are safe to parse -/

/-- Every parser that holds the descriptor enumerates it to its end, whatever its other fields are,
and has a row for every report on the way. -/
def SafeDescriptor (abi : Abi) (bytes : List UInt8) : Prop :=
  ∀ p : HIDParser, p.Holds bytes →
    (∃ q, (enumerate abi (resetParser p)).2 = .ok q) ∧ ∀ s, Visits abi p s → s.HasRow

section Safe

variable {abi : Abi} {bytes : List UInt8} {p : HIDParser}

/-- A well-formed descriptor is safe, unless too many usages come after the last main item or there
are too many data items. -/
lemma SafeDescriptor.of_wellFormed {items : List Item} (hload : abi.LoadsItems)
    (hwf : WellFormed abi .initial items) (husages : usagesAtEnd 0 items ≤ usageTabSize)
    (hfew : dataItems abi (encodeItems items) < maxReport) :
    SafeDescriptor abi (encodeItems items) := by
  refine fun p hp => ⟨?_, fun _ hs => hasRow_of_few hp hfew hs⟩
  obtain ⟨objects, q, heq, -⟩ := (delivers_loaded hload hp hwf).mpr husages
  exact ⟨q, by rw [heq]⟩

/-- The state a search leaves is one of the enumeration. -/
lemma findObject_visits {query : HIDData} {q : HIDParser} {o : Option HIDData}
    (h : findObject abi p query = .ok (q, o)) : Visits abi p q := by
  have hbounded : (parser abi).Bounded fun s => s.Ready ∧ Visits abi p s := by
    refine ⟨fun hs hl hb => ?_⟩
    obtain ⟨hready, hlt⟩ := parseTurn_bounded hs.1 hl hb
    exact ⟨⟨hready, hs.2.turn hl hb⟩, hlt⟩
  exact (hbounded.find_inv ⟨resetParser_ready p, .refl _ _⟩ h).2

/-- The search for a query with a path of at most ten nodes returns. -/
lemma SafeDescriptor.find (h : SafeDescriptor abi bytes) (hp : p.Holds bytes) {query : HIDData}
    (hsize : query.path.size.toNat ≤ pathSize) : ∃ q o, findObject abi p query = .ok (q, o) := by
  rcases hfind : findObject abi p query with e | ⟨q, o⟩
  · rcases (parser_bounded abi).find_error (resetParser_ready p) hfind with ⟨a, ha⟩ | hall
    · unfold matchesQuery comparePath at ha
      rw [if_pos hsize] at ha
      split_ifs at ha <;> cases ha
    · obtain ⟨q, hq⟩ := (h p hp).1
      rw [show ((parser abi).all (resetParser p)).2 = .ok q from hq] at hall
      cases hall
  · exact ⟨q, o, rfl⟩

/-- The call of `HIDParse` after a reset returns. -/
lemma SafeDescriptor.next (h : SafeDescriptor abi bytes) (hp : p.Holds bytes) :
    ∃ out, hidParse abi (resetParser p) = .ok out := by
  have hcall := (parser_bounded abi).call_next (resetParser_ready p)
  rcases hnext : (parser abi).next (resetParser p) with e | out
  · rw [hnext] at hcall
    cases hcall with
    | fail he =>
        obtain ⟨q, hq⟩ := (h p hp).1
        obtain ⟨-, hsame⟩ := he.unique ((parser_bounded abi).emits_all (resetParser_ready p))
        rw [show ((parser abi).all (resetParser p)).2 = .ok q from hq] at hsame
        cases hsame
  · exact ⟨out, hnext⟩

end Safe

end Libhid
