import Libhid.Parser.Reading

/-!
# The tables an enumeration indexes

Which places of `UsageTab` and of `Path.Node` a turn uses, and how many nodes it takes off the path.
The code tests none of them.  `usagesInside_iff` and `pathInside_iff` say what a descriptor must be
like for every place used to be one of the table: the first counts the usages before an item, the
second the nodes of the open collections, both read off the items alone.
-/

namespace Libhid

open Framework

/-- Where a run stopped, if it did. -/
def stopOf {α : Type} : Except Stop α → Option Stop
  | .error e => some e
  | .ok _ => none

lemma stopOf_eq_some {α : Type} {x : Except Stop α} {e : Stop} :
    stopOf x = some e ↔ x = .error e := by
  cases x <;> simp [stopOf]

/-! ## The usage table -/

/-- The places of `UsageTab` the case of the switch uses: where a usage is stored; the first usage,
and the entries moved down with those they are moved to. -/
def usageIndices (p : HIDParser) : List ℕ :=
  match Tag.ofItem p.item with
  | .usage => [p.usageSize.toNat]
  | .collection | .feature | .input | .output =>
      0 :: (List.range p.usageSize.toNat).flatMap fun ii => [ii, ii + 1]
  | _ => []

/-- Every place of `UsageTab` used in the enumeration is one of the table. -/
def UsagesInside (abi : Abi) (p : HIDParser) : Prop :=
  ∀ s r, Visits abi p s → s.live = true → nextItem abi s = .ok r →
    ∀ i ∈ usageIndices r, i < usageTabSize

/-- The number of Usage items since the last main item. -/
def usagesSince : List RawItem → ℕ
  | [] => 0
  | i :: items =>
      if i.tag.isMain then 0
      else if i.tag = .usage then usagesSince items + 1
      else usagesSince items

/-- Every usage, and every main item that takes one, comes after at most 49 Usage items. -/
def FewUsages (abi : Abi) (p : HIDParser) : Prop :=
  ∀ s items i, Reads abi p s items → s.live = true → s.nextRaw = some i →
    i.tag = .usage ∨ i.tag = .collection ∨ i.tag.isData = true → usagesSince items ≤ 49

section Usages

variable {abi : Abi} {u : UInt16} {p s r : HIDParser} {items : List RawItem}

lemma length_usagesOf (abi : Abi) (u : UInt16) (items : List RawItem) :
    (usagesOf abi u items).length = usagesSince items := by
  induction items with
  | nil => rfl
  | cons i items ih =>
      rw [usagesOf, usagesSince]
      split_ifs
      · rfl
      · rw [List.length_append, ih]
        rfl
      · exact ih

/-- The shift loop stays inside the table if and only if an entry is left above the stack. -/
lemma shifted_inside_iff {n : ℕ} :
    (∀ i ∈ 0 :: (List.range n).flatMap fun ii => [ii, ii + 1], i < usageTabSize) ↔ n ≤ 49 := by
  have hsize : usageTabSize = 50 := rfl
  constructor
  · intro h
    by_contra hgt
    have hmem : n ∈ (List.range n).flatMap fun ii => [ii, ii + 1] :=
      List.mem_flatMap.mpr ⟨n - 1, List.mem_range.mpr (by omega), by simp; omega⟩
    have hlt := h n (List.mem_cons_of_mem 0 hmem)
    omega
  · intro hle i hi
    rcases List.mem_cons.mp hi with rfl | hi
    · decide
    · obtain ⟨ii, hii, hmem⟩ := List.mem_flatMap.mp hi
      have hlt := List.mem_range.mp hii
      simp only [List.mem_cons, List.not_mem_nil, or_false] at hmem
      omega

/-- The places a case uses are inside the table if and only if at most 49 usages are stacked. -/
lemma usageIndices_inside_iff : (∀ i ∈ usageIndices r, i < usageTabSize) ↔
    (Tag.ofItem r.item = .usage ∨ Tag.ofItem r.item = .collection ∨
      (Tag.ofItem r.item).isData = true → r.usageSize.toNat ≤ 49) := by
  have hsize : usageTabSize = 50 := rfl
  unfold usageIndices
  cases htag : Tag.ofItem r.item
  case usage =>
    simp
    omega
  case collection | feature | input | output =>
    dsimp only
    rw [shifted_inside_iff]
    simp [Tag.isData]
  all_goals simp [Tag.isData]

/-- A case that stops at the usage table uses a place outside it. -/
lemma dispatch_usageTab (h : dispatch abi r = .error .usageTab) :
    ¬ ∀ i ∈ usageIndices r, i < usageTabSize := by
  intro hinside
  rw [usageIndices_inside_iff] at hinside
  unfold dispatch at h
  cases htag : Tag.ofItem r.item <;> rw [htag] at h hinside <;>
    simp only [except_map_error] at h
  case usage =>
    have hlt : r.usageSize.toNat < usageTabSize := Nat.lt_succ_of_le (hinside (.inl rfl))
    rw [pushUsage, dif_pos hlt] at h
    cases h
  case collection =>
    obtain ⟨stack, hun⟩ := unstackUsage_total r.usageTab (hinside (.inr (.inl rfl)))
    rw [openCollection, except_bind_error] at h
    obtain h | ⟨path, -, h⟩ := h
    · cases pushNode_error h
    rw [hun, except_ok_bind, except_bind_error] at h
    obtain h | ⟨path', -, h⟩ := h
    · cases pushIndex_error h
    · cases h
  case endCollection =>
    unfold closeCollection at h
    dsimp only at h
    split_ifs at h
    cases h
  case feature | input | output =>
    obtain ⟨stack, hun⟩ := unstackUsage_total r.usageTab (hinside (.inr (.inr rfl)))
    rw [dataItem, except_bind_error] at h
    obtain h | ⟨path, -, h⟩ := h
    · cases pushNode_error h
    rw [hun, except_ok_bind, except_bind_error] at h
    obtain h | ⟨row, -, h⟩ := h
    · cases derefOffset_error h
    dsimp only at h
    rw [except_bind_error] at h
    obtain h | ⟨row', -, h⟩ := h
    · cases derefOffset_error h
    · cases h
  all_goals cases h

/-- In a state of the enumeration, by the items read. -/
lemma Tracks.inside_iff (h : Tracks abi u s items) :
    (∀ r, nextItem abi s = .ok r → ∀ i ∈ usageIndices r, i < usageTabSize) ↔
      ∀ i, s.nextRaw = some i → i.tag = .usage ∨ i.tag = .collection ∨ i.tag.isData = true →
        usagesSince items ≤ 49 := by
  constructor
  · intro hall i hi htag
    have hidle := (h.idle (nextRaw_eq_some hi).1).size
    have hle := usageIndices_inside_iff.mp (hall _ (nextItem_taking hi)) htag
    rw [← length_usagesOf abi u, ← hidle]
    exact hle
  · intro hall r hr
    rw [usageIndices_inside_iff]
    intro htag
    cases nextItem_cases hr with
    | pending hc =>
        obtain ⟨-, usages, hle, hstack⟩ := h.pending hc
        rw [hstack.size]
        exact hle
    | @item i hc hi =>
        have hle := hall i hi htag
        rw [← length_usagesOf abi u] at hle
        exact (h.idle hc).size ▸ hle

/-- **The usage table is not left if and only if every Usage, Collection and data item comes after
at most 49 Usage items.** -/
theorem usagesInside_iff (abi : Abi) (p : HIDParser) : UsagesInside abi p ↔ FewUsages abi p := by
  constructor
  · intro h s items i hreads hl hi htag
    refine (reads_tracks hreads).inside_iff.mp (fun r hr => ?_) i hi htag
    exact h s r (visits_iff.mpr ⟨items, hreads⟩) hl hr
  · intro h s r hvisit hl hr
    obtain ⟨items, hreads⟩ := visits_iff.mp hvisit
    exact (reads_tracks hreads).inside_iff.mpr (fun i hi => h s items i hreads hl hi) r hr

/-- An enumeration that stops at the usage table uses a place outside it. -/
lemma not_usagesInside (h : (enumerate abi (resetParser p)).2 = .error .usageTab) :
    ¬ UsagesInside abi p := by
  intro hinside
  have he := (parser_bounded abi).emits_all (resetParser_ready p)
  obtain ⟨t, hvisit, hl, hb⟩ := he.reaches_fail h
  rcases except_bind_error.mp hb with hb | ⟨r, hr, hd⟩
  · cases nextItem_error hb
  · exact dispatch_usageTab hd (hinside t r hvisit hl hr)

end Usages

/-- A descriptor of 51 Usage items. -/
def manyUsages : List UInt8 := (List.replicate 51 [0x09, 0x01]).flatten

/-- Not every enumeration stays inside the usage table: the 51st usage is stored behind it. -/
theorem usagesInside_fails : ¬ ∀ (abi : Abi) (p : HIDParser) (bytes : List UInt8),
    p.Holds bytes → UsagesInside abi p := by
  intro hall
  have hholds : HIDParser.Holds (.holding manyUsages) manyUsages := holding_holds (by decide)
  refine not_usagesInside ?_ (hall (.little .w64 true) _ _ hholds)
  have hstop : stopOf (enumerate (.little .w64 true) (resetParser (.holding manyUsages))).2 =
      some .usageTab := by
    decide +kernel
  exact stopOf_eq_some.mp hstop

/-! ## The path -/

/-- The places of `Path.Node` the case of the switch uses. -/
def nodeIndices (p : HIDParser) : List ℕ :=
  match Tag.ofItem p.item with
  | .collection =>
      p.data.path.size.toNat ::
        if p.value ≥ 0x80 then [(p.data.path.size + 1).toNat] else []
  | .endCollection => [(p.data.path.size - 1).toNat]
  | .feature | .input | .output => [p.data.path.size.toNat]
  | _ => []

/-- The number of times the case of the switch decrements `Path.Size` without having incremented
it. -/
def nodesPopped (p : HIDParser) : ℕ :=
  match Tag.ofItem p.item with
  | .endCollection =>
      if h : (p.data.path.size - 1).toNat < pathSize then
        if p.data.path.node[(p.data.path.size - 1).toNat].uPage = 0xFF then 2 else 1
      else 1
  | _ => 0

/-- Every place of `Path.Node` used in the enumeration is one of the array, and `Path.Size` does not
underflow. -/
def PathInside (abi : Abi) (p : HIDParser) : Prop :=
  ∀ s r, Visits abi p s → s.live = true → nextItem abi s = .ok r →
    nodesPopped r ≤ r.data.path.size.toNat ∧ ∀ i ∈ nodeIndices r, i < pathSize

/-- The number of nodes an End Collection takes off a path: two if the last one has the page of the
index nodes, and one otherwise. -/
def nodesClosed (nodes : List HIDNode) : ℕ :=
  if nodes.getLast?.map HIDNode.uPage = some 0xFF then 2 else 1

section Items

variable (abi : Abi) (u : UInt16)

/-- The collection an item opens: its usage is the first one since the last main item. -/
def collectionOf (i : RawItem) (items : List RawItem) : HIDNode × Option UInt16 :=
  ((usagesOf abi u items).headD .zero,
    if i.value abi ≥ 0x80 then some (ushort (i.value abi % 0x80)) else none)

/-- The nodes of the collections that the items leave open. -/
def nodesOf : List RawItem → List HIDNode
  | [] => []
  | i :: items =>
      match i.tag with
      | .collection => nodesOf items ++ Context.nodes (collectionOf abi u i items)
      | .endCollection =>
          (nodesOf items).take ((nodesOf items).length - nodesClosed (nodesOf items))
      | _ => nodesOf items

/-- An item finds the nodes it takes away and room for those it adds: a collection for its own and
its index, a data item for the one of its object. -/
def Fits (items : List RawItem) (i : RawItem) : Prop :=
  match i.tag with
  | .collection =>
      (nodesOf abi u items ++ Context.nodes (collectionOf abi u i items)).length ≤ pathSize
  | .endCollection => nodesClosed (nodesOf abi u items) ≤ (nodesOf abi u items).length
  | .feature | .input | .output => (nodesOf abi u items).length < pathSize
  | _ => True

end Items

/-- Every item of the enumeration fits. -/
def NodesFit (abi : Abi) (p : HIDParser) : Prop :=
  ∀ s items i, Reads abi p s items → s.live = true → s.nextRaw = some i →
    Fits abi p.uPage items i

/-- The parser's path is the one the items say; and there is room for an object while a data item is
expanded. -/
structure Placed (abi : Abi) (u : UInt16) (s : HIDParser) (items : List RawItem) : Prop where
  located : Located (nodesOf abi u items) s.data.path
  pending : s.count ≠ 0 → (nodesOf abi u items).length < pathSize

section Path

variable {abi : Abi} {u : UInt16} {p s r q : HIDParser} {items : List RawItem} {i : RawItem}
  {nodes : List HIDNode}

/-- The node an End Collection looks at is the last one of the path. -/
lemma Located.nodesPopped_eq (h : Located nodes r.data.path)
    (htag : Tag.ofItem r.item = .endCollection)
    (hne : nodes ≠ []) : nodesPopped r = nodesClosed nodes := by
  have hpos := List.length_pos_iff.mpr hne
  have hle := h.length_le
  have hlast : (r.data.path.size - 1).toNat = nodes.length - 1 := by
    rw [toNat_sub_one8 (by rw [h.size]; exact hpos), h.size]
  have hlt : (r.data.path.size - 1).toNat < pathSize := by omega
  have hget : nodes[(r.data.path.size - 1).toNat]? = some (nodes.getLast hne) := by
    rw [hlast, ← List.getLast?_eq_getElem?, List.getLast?_eq_some_getLast hne]
  have hnode := h.node_eq hlt hget
  unfold nodesPopped
  rw [htag]
  dsimp only
  rw [dif_pos hlt, hnode, nodesClosed, List.getLast?_eq_some_getLast hne]
  simp

/-- In a state with the path the items say, an item fits if and only if it stays inside. -/
lemma Located.fits_iff (h : Located (nodesOf abi u items) r.data.path)
    (hitem : r.item = i.head) (hvalue : r.value = i.value abi) :
    (nodesPopped r ≤ r.data.path.size.toNat ∧ ∀ i ∈ nodeIndices r, i < pathSize) ↔
      Fits abi u items i := by
  have hle := h.length_le
  have hsize := h.size
  have hps : pathSize = 10 := rfl
  have htag : Tag.ofItem r.item = i.tag := by
    rw [hitem]
    rfl
  unfold Fits nodeIndices
  cases hcase : i.tag <;> rw [hcase] at htag <;> rw [htag]
  case collection =>
    have htaken : nodesPopped r = 0 := by simp [nodesPopped, htag]
    dsimp only
    rw [htaken, hvalue, List.length_append, Context.nodes, collectionOf]
    dsimp only
    split_ifs
    · have hnext : r.data.path.size.toNat < pathSize →
          (r.data.path.size + 1).toNat = r.data.path.size.toNat + 1 := fun hlt =>
        toNat_add_one8 (by omega)
      simp
      omega
    · simp
      omega
  case endCollection =>
    by_cases hne : nodesOf abi u items = []
    · have hzero : r.data.path.size = 0 := by
        rw [← UInt8.toNat_inj, hsize, hne]
        rfl
      have hout : ¬ (r.data.path.size - 1).toNat < pathSize := by
        rw [hzero]
        decide
      have htaken : nodesPopped r = 1 := by
        unfold nodesPopped
        rw [htag]
        exact dif_neg hout
      rw [htaken, hzero, hne]
      simp [nodesClosed]
    · have hpos := List.length_pos_iff.mpr hne
      have hlast : (r.data.path.size - 1).toNat < pathSize := by
        rw [toNat_sub_one8 (by omega)]
        omega
      rw [h.nodesPopped_eq htag hne, hsize]
      simpa using fun _ => hlast
  case feature | input | output =>
    have htaken : nodesPopped r = 0 := by simp [nodesPopped, htag]
    rw [htaken, ← hsize]
    simp
  all_goals simp [nodesPopped, htag]

/-- Where a turn is in a state with the path the items say, what it does is inside if and only if
the item it fetches fits. -/
lemma Placed.inside_iff (h : Placed abi u s items) (ht : Tracks abi u s items) :
    (∀ r, nextItem abi s = .ok r →
      nodesPopped r ≤ r.data.path.size.toNat ∧ ∀ i ∈ nodeIndices r, i < pathSize) ↔
      ∀ i, s.nextRaw = some i → Fits abi u items i := by
  constructor
  · intro hall i hi
    have hlocated : Located (nodesOf abi u items) (s.taking abi i).data.path := h.located
    exact (hlocated.fits_iff rfl rfl).mp (hall _ (nextItem_taking hi))
  · intro hall r hr
    cases nextItem_cases hr with
    | pending hc =>
        have hroom := h.pending hc
        rw [← h.located.size] at hroom
        obtain ⟨t, htag, hdata⟩ : ∃ t, Tag.ofItem s.item = t ∧ t.isData = true :=
          ⟨_, rfl, ht.ready.resolve_left hc⟩
        unfold nodesPopped nodeIndices
        rw [htag]
        cases t
        case feature | input | output => simpa using hroom
        all_goals cases hdata
    | @item i hc hi =>
        have hlocated : Located (nodesOf abi u items) (s.taking abi i).data.path := h.located
        exact (hlocated.fits_iff rfl rfl).mpr (hall i hi)

lemma nodesOf_of_ne (h : i.tag ≠ .collection) (h' : i.tag ≠ .endCollection) :
    nodesOf abi u (i :: items) = nodesOf abi u items := by
  rw [nodesOf]
  split
  · next htag => exact absurd htag h
  · next htag => exact absurd htag h'
  · rfl

/-- An object leaves the path. -/
lemma ObjectTurn.located {o : HIDData} (t : ObjectTurn r q o) (h : Located nodes r.data.path) :
    Located nodes q.data.path := by
  have hroom := t.room
  have hpath : q.data.path = ⟨r.data.path.size, r.data.path.node.set r.data.path.size.toNat
      r.firstUsage hroom⟩ := by
    rw [t.data, t.object_eq]
  rw [hpath]
  refine ⟨h.size, ?_⟩
  show (r.data.path.node.set r.data.path.size.toNat r.firstUsage hroom).toList.take _ = _
  rw [Vector.toList_set, List.take_set_of_le (by rw [h.size]), h.nodes]

/-- The end of a collection. -/
lemma Located.closed (h : Located nodes r.data.path) (htag : Tag.ofItem r.item = .endCollection)
    (hfit : nodesClosed nodes ≤ nodes.length) (hclose : closeCollection r = .ok q) :
    Located (nodes.take (nodes.length - nodesClosed nodes)) q.data.path := by
  have hpos : 1 ≤ nodesClosed nodes := by
    unfold nodesClosed
    split_ifs <;> decide
  have hsize := h.size
  have htaken := h.nodesPopped_eq htag (List.length_pos_iff.mp (by omega))
  obtain ⟨hlt, rfl⟩ := closeCollection_ok hclose
  rw [← List.take_append_drop (nodes.length - nodesClosed nodes) nodes] at h
  refine h.shorten ?_
  rw [List.length_take, Nat.min_eq_left (Nat.sub_le _ _)]
  unfold nodesPopped at htaken
  rw [htag] at htaken
  dsimp only at htaken
  rw [dif_pos hlt] at htaken
  have hone : (r.data.path.size - 1).toNat = nodes.length - 1 := by
    rw [toNat_sub_one8 (by omega), hsize]
  split_ifs at htaken ⊢
  · rw [toNat_sub_one8 (by omega), hone]
    omega
  · rw [hone]
    omega

lemma Located.push_ok {path path' : HIDPath} {node : HIDNode} (h : Located nodes path)
    (hpush : pushNode path node = .ok path') : Located (nodes ++ [node]) path' := by
  have hps : pathSize = 10 := rfl
  have hsize := h.size
  obtain ⟨hroom, -⟩ := pushNode_ok hpush
  obtain ⟨path₁, heq, hloc, -⟩ := h.push (by omega) node
  rw [hpush] at heq
  cases heq
  exact hloc

/-- The beginning of a collection. -/
lemma Located.opened (h : Located nodes r.data.path) (hopen : openCollection r = .ok q) :
    Located (nodes ++ Context.nodes r.collection) q.data.path := by
  obtain ⟨path, stack, path', hpush, -, hindex, rfl⟩ := openCollection_ok hopen
  have hfirst := h.push_ok hpush
  unfold pushIndex at hindex
  unfold HIDParser.collection
  split_ifs at hindex ⊢
  · have hboth := hfirst.push_ok hindex
    rw [List.append_assoc] at hboth
    exact hboth
  · cases hindex
    exact hfirst

/-- **A turn whose item fits keeps the path in place.** -/
lemma Placed.turn {o : Option HIDData} (h : Placed abi u s items) (ht : Tracks abi u s items)
    (hfit : ∀ i, s.nextRaw = some i → Fits abi u items i) (hb : parseTurn abi s = .ok (q, o)) :
    Placed abi u q (recordItem items s) := by
  obtain ⟨r, hr, hd⟩ := parseTurn_finds hb
  have hframe := dispatch_frame hd
  cases hr with
  | pending hc =>
      obtain ⟨object, -, ⟨t⟩⟩ := pending_turn ht.ready hc hd
      rw [recordItem_pending hc]
      exact ⟨t.located h.located, fun _ => h.pending hc⟩
  | @item i hc hi =>
      have hlocated : Located (nodesOf abi u items) (s.taking abi i).data.path := h.located
      have hcount : (Tag.ofItem i.head).isData = false → q.count = 0 := by
        intro hno
        exact (hframe.count.resolve_right fun hdata => ne_of_isData hdata hno rfl).trans hc
      rw [recordItem_item hi]
      cases dispatch_cases hd with
      | usage htag hpush =>
          have htag : i.tag = .usage := htag
          have hidle := hcount (by rw [show Tag.ofItem i.head = .usage from htag]; rfl)
          obtain ⟨hlt, rfl⟩ := pushUsage_ok hpush
          refine ⟨?_, fun h0 => absurd hidle h0⟩
          rw [nodesOf_of_ne (by rw [htag]; decide) (by rw [htag]; decide)]
          exact h.located
      | collection htag hopen =>
          have htag : i.tag = .collection := htag
          have hidle := hcount (by rw [show Tag.ofItem i.head = .collection from htag]; rfl)
          have hstack : Stacked (usagesOf abi u items) (s.taking abi i).usageTab
              (s.taking abi i).usageSize := ht.idle hc
          have hcollection : (s.taking abi i).collection = collectionOf abi u i items := by
            unfold HIDParser.collection collectionOf
            rw [← hstack.first]
            rfl
          refine ⟨?_, fun h0 => absurd hidle h0⟩
          rw [nodesOf, htag]
          exact hcollection ▸ hlocated.opened hopen
      | endCollection htag hclose =>
          have hlast := htag
          have htag : i.tag = .endCollection := htag
          have hidle := hcount (by rw [show Tag.ofItem i.head = .endCollection from htag]; rfl)
          have hroom := hfit i hi
          rw [Fits, htag] at hroom
          refine ⟨?_, fun h0 => absurd hidle h0⟩
          rw [nodesOf, htag]
          exact hlocated.closed hlast hroom hclose
      | object hdata t =>
          have hdata : i.tag.isData = true := hdata
          have hnodes : nodesOf abi u (i :: items) = nodesOf abi u items :=
            nodesOf_of_ne (by rintro he; rw [he] at hdata; cases hdata)
              (by rintro he; rw [he] at hdata; cases hdata)
          refine ⟨?_, fun _ => ?_⟩
          · rw [hnodes]
            exact t.located hlocated
          · rw [hnodes, ← hlocated.size]
            exact t.room
      | global hmain husage htab hsize hpath =>
          have hmain : i.tag.isMain = false := hmain
          have hidle := hcount (by
            by_contra hdata
            have hdata := isMain_of_isData (Bool.eq_true_of_not_eq_false hdata)
            rw [show Tag.ofItem i.head = i.tag from rfl, hmain] at hdata
            cases hdata)
          refine ⟨?_, fun h0 => absurd hidle h0⟩
          rw [hpath, nodesOf_of_ne (by rintro he; rw [he] at hmain; cases hmain)
            (by rintro he; rw [he] at hmain; cases hmain)]
          exact hlocated

/-- Where every item fits, as long as the path is in place, it is in every state. -/
lemma reads_placed (h : Reads abi p s items)
    (hfit : ∀ s items, Reads abi p s items → s.live = true → Placed abi p.uPage s items →
      ∀ i, s.nextRaw = some i → Fits abi p.uPage items i) : Placed abi p.uPage s items := by
  refine h.invariant _ ⟨⟨rfl, rfl⟩, fun h0 => absurd rfl h0⟩ ?_
  intro s items q o hreads hs hl hb
  exact hs.turn (reads_tracks hreads) (hfit s items hreads hl hs) hb

/-- **The path stays inside its array and does not underflow if and only if every item fits.** -/
theorem pathInside_iff (abi : Abi) (p : HIDParser) : PathInside abi p ↔ NodesFit abi p := by
  constructor
  · intro h
    have hfit : ∀ s items, Reads abi p s items → s.live = true → Placed abi p.uPage s items →
        ∀ i, s.nextRaw = some i → Fits abi p.uPage items i := by
      intro s items hreads hl hs
      exact (hs.inside_iff (reads_tracks hreads)).mp
        (fun r hr => h s r (visits_iff.mpr ⟨items, hreads⟩) hl hr)
    intro s items i hreads hl hi
    exact hfit s items hreads hl (reads_placed hreads hfit) i hi
  · intro h s r hvisit hl hr
    obtain ⟨items, hreads⟩ := visits_iff.mp hvisit
    have hs := reads_placed hreads fun s items hreads hl _ i hi => h s items i hreads hl hi
    exact (hs.inside_iff (reads_tracks hreads)).mpr (fun i hi => h s items i hreads hl hi) r hr

end Path

/-- Not every enumeration stays inside the path: an End Collection may come first. -/
theorem pathInside_fails : ¬ ∀ (abi : Abi) (p : HIDParser) (bytes : List UInt8),
    p.Holds bytes → PathInside abi p := by
  intro hall
  have hholds : HIDParser.Holds (.holding [0xC0]) [0xC0] := holding_holds (by decide)
  have hinside := hall (.little .w64 true) _ _ hholds
  have hnext : nextItem (.little .w64 true) (resetParser (.holding [0xC0])) =
      .ok ((resetParser (.holding [0xC0])).taking (.little .w64 true) ⟨0xC0, []⟩) :=
    nextItem_taking rfl
  obtain ⟨htaken, -⟩ := hinside _ _ (.refl _ _) (by decide) hnext
  revert htaken
  decide

end Libhid
