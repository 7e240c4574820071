import Libhid.Parser.Holding
import Libhid.Parser.Items
import Libhid.Parser.Offsets

/-!
# The parser and the one-pass reading side by side

`Follows` ties the parser between two items to the context of the one-pass reading.  It has a part
for each of the parser's tables, with the lemmas of what the parser does to it: the usage table
holds the usages pending (`Stacked`), the path the nodes of the open collections (`Located`), the
report table the bits of each report (`Tallied`).
-/

namespace Libhid

open Framework

/-! ## The usage table -/

/-- The usage table holds the usages pending. -/
structure Stacked (usages : List HIDNode) (tab : Vector HIDNode usageTabSize) (size : UInt8) :
    Prop where
  queue : IsQueue tab .zero usages
  size : size.toNat = usages.length

section Stacked

variable {usages : List HIDNode} {tab : Vector HIDNode usageTabSize} {size : UInt8}

lemma Stacked.nil : Stacked [] (Vector.replicate usageTabSize .zero) 0 :=
  ⟨IsQueue.replicate _, rfl⟩

lemma Stacked.first (h : Stacked usages tab size) : tab[0] = usages.headD .zero := by
  rw [h.queue.get 0 (by decide)]
  cases usages <;> rfl

lemma Stacked.push (h : Stacked usages tab size) (hlt : size.toNat < usageTabSize)
    (node : HIDNode) : Stacked (usages ++ [node]) (tab.set size.toNat node) (size + 1) := by
  have hlen := h.size
  refine ⟨?_, ?_⟩
  · have hpush := h.queue.push (x := node) (by omega)
    simpa only [← hlen] using hpush
  · have hsize : usageTabSize = 50 := rfl
    rw [toNat_add_one8 (by omega), List.length_append, hlen]
    rfl

/-- A full table takes no more usages. -/
lemma Stacked.pushUsage_full {p : HIDParser} (h : Stacked usages p.usageTab p.usageSize)
    (hfull : ¬ usages.length < usageTabSize) : pushUsage p = .error .usageTab := by
  apply dif_neg
  rwa [h.size]

/-- With at most 49 usages pending one can be unstacked. -/
lemma Stacked.unstack (h : Stacked usages tab size) (hle : usages.length ≤ 49) :
    ∃ tab' size', unstackUsage tab size = .ok (tab', size') ∧ Stacked usages.tail tab' size' := by
  have hsize : usageTabSize = 50 := rfl
  obtain ⟨tab', hshift, hqueue⟩ := h.queue.shiftDown (by omega)
  unfold unstackUsage
  cases usages with
  | nil =>
      have hzero : ¬ size > 0 := by
        rw [gt_iff_lt, UInt8.lt_iff_toNat_lt, h.size]
        exact Nat.lt_irrefl 0
      rw [if_neg hzero]
      exact ⟨tab, size, rfl, h⟩
  | cons node rest =>
      have hpos : 0 < size.toNat := by
        rw [h.size]
        exact Nat.succ_pos _
      rw [if_pos (by rw [gt_iff_lt, UInt8.lt_iff_toNat_lt]; exact hpos), h.size, hshift]
      refine ⟨tab', size - 1, rfl, hqueue, ?_⟩
      rw [toNat_sub_one8 hpos, h.size]
      rfl

end Stacked

/-! ## The path -/

/-- The path of the parser is a list of nodes. -/
structure Located (nodes : List HIDNode) (path : HIDPath) : Prop where
  size : path.size.toNat = nodes.length
  nodes : path.node.toList.take nodes.length = nodes

section Located

variable {nodes : List HIDNode} {path : HIDPath}

lemma Located.length_le (h : Located nodes path) : nodes.length ≤ pathSize := by
  have hlen := congrArg List.length h.nodes
  rw [List.length_take, Vector.length_toList] at hlen
  omega

lemma Located.eq_nodes (h : Located nodes path) : path.nodes = nodes := by
  rw [HIDPath.nodes, h.size, h.nodes]

/-- A path that is not too long is at its nodes. -/
lemma HIDPath.located (hle : path.size.toNat ≤ pathSize) : Located path.nodes path := by
  have hlen : path.nodes.length = path.size.toNat := by
    rw [HIDPath.nodes, List.length_take, Vector.length_toList, Nat.min_eq_left hle]
  exact ⟨hlen.symm, by rw [hlen]; rfl⟩

/-- A shorter path in the same nodes. -/
lemma Located.shorten {rest : List HIDNode} {size : UInt8} (h : Located (nodes ++ rest) path)
    (hsize : size.toNat = nodes.length) : Located nodes ⟨size, path.node⟩ := by
  refine ⟨hsize, ?_⟩
  have htake := congrArg (List.take nodes.length) h.nodes
  rw [List.take_take, List.take_left, Nat.min_eq_left (by simp)] at htake
  exact htake

lemma Located.push (h : Located nodes path) (hle : nodes.length ≤ 9) (node : HIDNode) :
    ∃ path', pushNode path node = .ok path' ∧ Located (nodes ++ [node]) path' ∧
      path'.size - 1 = path.size := by
  have hroom : path.size.toNat < pathSize := by
    have hps : pathSize = 10 := rfl
    have hsize := h.size
    omega
  refine ⟨_, dif_pos hroom, ⟨?_, ?_⟩, ?_⟩
  · have hsize := h.size
    rw [toNat_add_one8 (by omega), hsize, List.length_append]
    rfl
  · show (path.node.set path.size.toNat node).toList.take _ = _
    simp only [h.size]
    rw [List.length_append, List.length_singleton, Vector.toList_set,
      List.take_succ_eq_append_getElem (by simpa [h.size] using hroom),
      List.take_set_of_le (Nat.le_refl _), List.getElem_set_self, h.nodes]
  · exact add_one_sub_one8 _

/-- A path of ten nodes takes no more. -/
lemma Located.full (h : Located nodes path) (hge : pathSize ≤ nodes.length) (node : HIDNode) :
    pushNode path node = .error .node := by
  apply dif_neg
  rw [h.size]
  exact Nat.not_lt.mpr hge

/-- The node at a place of the path. -/
lemma Located.node_eq (h : Located nodes path) {i : ℕ} (hi : i < pathSize) {node : HIDNode}
    (hnode : nodes[i]? = some node) : path.node[i] = node := by
  have hlt : i < nodes.length := by
    by_contra hge
    rw [List.getElem?_eq_none (Nat.not_lt.mp hge)] at hnode
    cases hnode
  have hget : (path.node.toList.take nodes.length)[i]? = some path.node[i] := by
    rw [List.getElem?_take_of_lt hlt]
    simp
  rw [h.nodes, hnode] at hget
  exact (Option.some.inj hget).symm

/-- The collection that the parser opens at a collection item. -/
def HIDParser.collection (p : HIDParser) : HIDNode × Option UInt16 :=
  (p.firstUsage, if p.value ≥ 0x80 then some (ushort (p.value % 0x80)) else none)

section Opening

variable {usages : List HIDNode} {p : HIDParser}

/-- A collection is opened behind the path, if its nodes fit. -/
lemma Located.open_ (h : Located nodes p.data.path) (hu : Stacked usages p.usageTab p.usageSize)
    (hle : usages.length ≤ 49)
    (hfit : (nodes ++ Context.nodes p.collection).length ≤ pathSize) : ∃ path, openCollection p =
      .ok (resetLocalState { p with data := { p.data with path := path } }) ∧
        Located (nodes ++ Context.nodes p.collection) path := by
  have hps : pathSize = 10 := rfl
  unfold HIDParser.collection Context.nodes at *
  dsimp only at *
  obtain ⟨tab, size, hun, -⟩ := hu.unstack hle
  rw [List.length_append, List.length_cons] at hfit
  obtain ⟨path₁, hpush₁, hloc₁, -⟩ := h.push (by omega) p.firstUsage
  obtain ⟨path₂, hpush₂, hloc₂⟩ : ∃ path₂, pushIndex path₁ p.value = .ok path₂ ∧
      Located (nodes ++ p.firstUsage :: List.map (fun index => ⟨0xFF, index⟩) (Option.toList
        (if p.value ≥ 0x80 then some (ushort (p.value % 0x80)) else none))) path₂ := by
    rw [pushIndex]
    split_ifs at * with hindex
    · obtain ⟨path₂, hpush₂, hloc₂, -⟩ := hloc₁.push (by
        rw [List.length_append, List.length_singleton]
        simp at hfit
        omega) ⟨0xFF, ushort (p.value % 0x80)⟩
      rw [List.append_assoc] at hloc₂
      exact ⟨path₂, hpush₂, hloc₂⟩
    · exact ⟨path₁, rfl, hloc₁⟩
  refine ⟨path₂, ?_, hloc₂⟩
  simp only [openCollection, hpush₁, hun, hpush₂, except_ok_bind]
  rfl

/-- Where they do not, the parser leaves the path. -/
lemma Located.open_full (h : Located nodes p.data.path)
    (hu : Stacked usages p.usageTab p.usageSize) (hle : usages.length ≤ 49)
    (hfull : pathSize < (nodes ++ Context.nodes p.collection).length) :
    openCollection p = .error .node := by
  have hps : pathSize = 10 := rfl
  unfold HIDParser.collection Context.nodes at *
  dsimp only at *
  obtain ⟨tab, size, hun, -⟩ := hu.unstack hle
  rw [List.length_append, List.length_cons] at hfull
  by_cases hroom : nodes.length ≤ 9
  · -- the node of the usage fits, the one of the index does not
    obtain ⟨path₁, hpush₁, hloc₁, -⟩ := h.push hroom p.firstUsage
    have hindex : p.value ≥ 0x80 := by
      by_contra hlow
      rw [if_neg hlow] at hfull
      simp at hfull
      omega
    rw [if_pos hindex] at hfull
    have hpush₂ : pushIndex path₁ p.value = .error .node := by
      rw [pushIndex, if_pos hindex]
      refine hloc₁.full ?_ _
      rw [List.length_append, List.length_singleton]
      simp at hfull
      omega
    simp only [openCollection, hpush₁, hun, hpush₂, except_ok_bind]
    rfl
  · rw [openCollection, h.full (by omega)]
    rfl

end Opening

/-- The last collection of the path is closed, whether it has an index or not. -/
lemma Located.close {p : HIDParser} {collection : HIDNode × Option UInt16}
    (h : Located (nodes ++ Context.nodes collection) p.data.path)
    (hpage : collection.1.uPage ≠ 0xFF) : ∃ path, closeCollection p =
      .ok (resetLocalState { p with data := { p.data with path := path } }) ∧
        Located nodes path := by
  obtain ⟨node, index⟩ := collection
  have hle := h.length_le
  have hsize := h.size
  have hps : pathSize = 10 := rfl
  rw [List.length_append] at hle hsize
  unfold closeCollection
  dsimp only
  cases index with
  | none =>
      simp only [Context.nodes, Option.toList_none, List.map_nil,
        List.length_singleton] at hle hsize
      have hlast : (p.data.path.size - 1).toNat = nodes.length := by
        rw [toNat_sub_one8 (by omega), hsize]
        rfl
      have hlt : (p.data.path.size - 1).toNat < pathSize := by omega
      have hnode : p.data.path.node[(p.data.path.size - 1).toNat] = node :=
        h.node_eq hlt (by rw [hlast]; simp [Context.nodes])
      rw [dif_pos hlt, hnode, if_neg hpage]
      exact ⟨_, rfl, h.shorten hlast⟩
  | some index =>
      simp only [Context.nodes, Option.toList_some, List.map_cons, List.map_nil, List.length_cons,
        List.length_nil] at hle hsize
      have hlast : (p.data.path.size - 1).toNat = nodes.length + 1 := by
        rw [toNat_sub_one8 (by omega), hsize]
        rfl
      have hlt : (p.data.path.size - 1).toNat < pathSize := by omega
      have hnode : p.data.path.node[(p.data.path.size - 1).toNat] = ⟨0xFF, index⟩ :=
        h.node_eq hlt (by rw [hlast]; simp [Context.nodes])
      have hboth : (p.data.path.size - 1 - 1).toNat = nodes.length := by
        rw [toNat_sub_one8 (by omega), hlast]
        rfl
      rw [dif_pos hlt, hnode, if_pos rfl]
      exact ⟨_, rfl, h.shorten hboth⟩

end Located

/-! ## The report table -/

/-- The report table counts the bits of every report, and has rows for the reports only. -/
structure Tallied (reports : Finset (UInt8 × UInt8)) (bits : UInt8 × UInt8 → ℕ)
    (tab : Vector ReportRow maxReport) : Prop where
  keyed : ∃ m, Keyed ReportRow.free ReportRow.key tab m
  mem : ∀ k, (lookup ReportRow.free ReportRow.key tab k).isSome = true → k ∈ reports
  counted : ∀ k, (countedBits tab k).toNat = bits k

section Tallied

variable {reports : Finset (UInt8 × UInt8)} {bits : UInt8 × UInt8 → ℕ}
  {tab : Vector ReportRow maxReport} {k : UInt8 × UInt8}

lemma Tallied.nil : Tallied ∅ (fun _ => 0) (Vector.replicate maxReport .zero) := by
  refine ⟨⟨0, Keyed.replicate rfl⟩, fun k h => ?_, fun k => ?_⟩
  · rw [Keyed.lookup_replicate rfl] at h
    cases h
  · rw [countedBits, Keyed.lookup_replicate rfl]
    rfl

/-- As long as the reports fit the table, a row is found. -/
lemma Tallied.probe (h : Tallied reports bits tab) (hcard : (insert k reports).card ≤ maxReport) :
    ∃ pos, probe ReportRow.free ReportRow.key tab k = some pos ∧
      (rowBits (tab.get pos)).toNat = bits k := by
  obtain ⟨m, hm⟩ := h.keyed
  have hmem : ∀ j (_ : j < maxReport), j < m → ReportRow.key tab[j] ∈ insert k reports := by
    intro j hj hjm
    refine Finset.mem_insert_of_mem (h.mem _ ?_)
    rw [hm.lookup_of_mem hj hjm]
    rfl
  obtain ⟨pos, hpos⟩ := hm.probe_isSome hmem (Finset.mem_insert_self k reports) hcard
  refine ⟨pos, hpos, ?_⟩
  rw [rowBits_of_probe hpos, h.counted]

/-- Counting a field in the row of its report. -/
lemma Tallied.count (h : Tallied reports bits tab) {pos : Fin maxReport} (size : UInt8)
    (hpos : Framework.probe ReportRow.free ReportRow.key tab k = some pos) (hk : k.1 ≠ 0)
    (hfits : bits k + size.toNat ≤ 255) :
    Tallied (insert k reports) (Function.update bits k (bits k + size.toNat))
      (tab.set pos (keyRow k (bitsBefore k (tab.get pos) + size)) pos.isLt) := by
  obtain ⟨m, hm⟩ := h.keyed
  have hfree : ReportRow.free (keyRow k (bitsBefore k (tab.get pos) + size)) = false := by
    simpa using hk
  obtain ⟨m', hm', hlookup⟩ := hm.lookup_set hpos hfree (key_keyRow _ _)
  have hrow : (rowBits (tab.get pos)).toNat = bits k := by
    rw [rowBits_of_probe hpos, h.counted]
  refine ⟨⟨m', hm'⟩, fun k' h' => ?_, fun k' => ?_⟩
  · rw [hlookup] at h'
    split_ifs at h' with he
    · rw [he]
      exact Finset.mem_insert_self _ _
    · exact Finset.mem_insert_of_mem (h.mem k' h')
  · rw [countedBits, hlookup]
    split_ifs with he
    · subst he
      rw [Function.update_self]
      show (bitsBefore k' (tab.get pos) + size).toNat = _
      rw [bitsBefore, if_pos hk, UInt8.toNat_add, hrow]
      exact Nat.mod_eq_of_lt (by omega)
    · rw [Function.update_of_ne he]
      exact h.counted k'

end Tallied

/-! ## The item fetch -/

/-- The turn that fetches an item of the descriptor. -/
lemma HIDParser.Holds.fetch_item {bytes rest : List UInt8} {p : HIDParser} (h : p.Holds bytes)
    (abi : Abi) {i : Item} (hrem : p.remaining bytes = i.encode ++ rest) (hidle : p.count = 0) :
    p.live = true ∧ parseTurn abi p = dispatch abi (p.fetched abi i.head) ∧
      (p.fetched abi i.head).value = abi.load i.data ∧
      (p.fetched abi i.head).remaining bytes = rest := by
  have hcons : p.remaining bytes = i.head :: (i.data ++ rest) := hrem
  obtain ⟨hfit, hbytes, hnext⟩ := fetched_complete abi h hcons i.head_size.symm
  refine ⟨live_of_remaining h (by rw [hcons]; simp), ?_, ?_, hnext⟩
  · unfold parseTurn nextItem
    rw [if_pos hidle, fetchItem_holds h hcons, if_pos (Nat.le_trans hfit h.length_le),
      except_ok_bind]
  · rw [HIDParser.fetched, hbytes]

/-! ## The relation -/

/-- What is set in the context is set in the parser. -/
structure Globals (c : Context) (p : HIDParser) : Prop where
  uPage : ∀ u, c.uPage = some u → p.uPage = u
  reportID : ∀ id, c.reportID = some id → p.data.reportID = id
  reportSize : ∀ n, c.reportSize = some n → p.data.size.toNat = n
  reportCount : ∀ n, c.reportCount = some n → p.reportCount.toNat = n
  unit : p.data.unit = c.unit
  unitExp : p.data.unitExp = c.unitExp
  logMin : p.data.logMin = c.logMin
  logMax : p.data.logMax = c.logMax
  phyMin : p.data.phyMin = c.phyMin
  phyMax : p.data.phyMax = c.phyMax

/-- The parser is where the one-pass reading is. -/
structure Follows (c : Context) (p : HIDParser) : Prop where
  globals : Globals c p
  usages : Stacked c.usages p.usageTab p.usageSize
  path : Located c.path p.data.path
  reports : Tallied c.reports c.bits p.offsetTab

/-- What well-formedness keeps true of a context. -/
structure Context.Valid (c : Context) : Prop where
  opened : ∀ collection ∈ c.opened, collection.1.uPage ≠ 0xFF
  path : c.path.length ≤ 9
  reportID : ∀ id, c.reportID = some id → id ≠ 0
  reportCount : ∀ n, c.reportCount = some n → n ≠ 0

/-- The object as the one-pass reading describes it. -/
def HIDData.field (o : HIDData) : Field where
  path := o.path.nodes
  reportID := o.reportID
  offset := o.offset.toNat
  size := o.size.toNat
  type := o.type
  attrib := o.attrib
  unit := o.unit
  unitExp := o.unitExp
  logMin := o.logMin
  logMax := o.logMax
  phyMin := o.phyMin
  phyMax := o.phyMax

/-- Between two items, with the bytes of the items left. -/
structure Reached (bytes rest : List UInt8) (c : Context) (p : HIDParser) : Prop where
  holds : p.Holds bytes
  remaining : p.remaining bytes = rest
  idle : p.count = 0
  follows : Follows c p

lemma reached_resetParser {bytes : List UInt8} {p : HIDParser} (hp : p.Holds bytes) :
    Reached bytes bytes .initial (resetParser p) := by
  refine ⟨⟨hp.size, hp.desc⟩, rfl, rfl, ?_, .nil, ⟨rfl, rfl⟩, .nil⟩
  constructor <;> first | (intro x hx; cases hx) | rfl

end Libhid
