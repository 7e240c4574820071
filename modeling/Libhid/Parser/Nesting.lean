import Libhid.Parser.Bounds

/-!
# Collections and the path

`ITEM_COLLECTION` puts one or two nodes on the path, and `ITEM_END_COLLECTION` decides by the page
of the last node how many to take off.  Next to the parser runs the stack of the open collections,
each with the path as it was before it (`recordOpening`); `restores_iff` says which collections are
closed as they were opened.
-/

namespace Libhid

open Framework

/-! ## Open collections -/

/-- A collection that was opened: the path before it, its usage and its index. -/
structure Opening where
  path : HIDPath
  collection : HIDNode × Option UInt16

/-- The collections open, the innermost first. -/
def recordOpening (abi : Abi) (opened : List Opening) (p : HIDParser) : List Opening :=
  match p.nextRaw with
  | none => opened
  | some i =>
      match i.tag with
      | .collection => ⟨p.data.path, (p.taking abi i).collection⟩ :: opened
      | .endCollection => opened.tail
      | _ => opened

/-- The enumeration comes to a state with these collections open. -/
def Encloses (abi : Abi) (p s : HIDParser) (opened : List Opening) : Prop :=
  ((parser abi).withHistory (recordOpening abi)).Reaches (resetParser p, []) (s, opened)

/-- The turn from `s` closes the collection `o`. -/
structure Closes (abi : Abi) (p s : HIDParser) (o : Opening) (opened : List Opening)
    (i : RawItem) : Prop where
  encloses : Encloses abi p s (o :: opened)
  live : s.live = true
  next : s.nextRaw = some i
  tag : i.tag = .endCollection

/-- Every End Collection gives the path back as it was before the collection it closes. -/
def Restores (abi : Abi) (p : HIDParser) : Prop :=
  ∀ s o opened i q out, Closes abi p s o opened i → parseTurn abi s = .ok (q, out) →
    q.data.path.size = o.path.size ∧ q.data.path.nodes = o.path.nodes

/-- A collection whose last node tells whether it has an index. -/
def Opening.Apart (o : Opening) : Prop :=
  o.collection.2.isSome = true ∨ o.collection.1.uPage ≠ 0xFF

/-- Every collection closed has an index, or a usage that is not on the page of the index nodes. -/
def PagesApart (abi : Abi) (p : HIDParser) : Prop :=
  ∀ s o opened i, Closes abi p s o opened i → o.Apart

/-! ## The path of the open collections -/

/-- The path consists of the nodes of the open collections, each behind the path before it. -/
def Enclosed : List Opening → HIDPath → Prop
  | [], path => Located [] path
  | o :: opened, path => Enclosed opened o.path ∧
      ∃ nodes, Located nodes o.path ∧ Located (nodes ++ Context.nodes o.collection) path

section Enclosed

variable {abi : Abi} {p s q r : HIDParser} {o : Opening} {opened : List Opening} {i : RawItem}
  {nodes : List HIDNode} {path path' : HIDPath}

lemma located_iff : Located nodes path ↔ path.size.toNat = nodes.length ∧ path.nodes = nodes := by
  constructor
  · intro h
    exact ⟨h.size, h.eq_nodes⟩
  · rintro ⟨hsize, hnodes⟩
    refine ⟨hsize, ?_⟩
    rw [← hsize]
    exact hnodes

/-- Only the path proper counts. -/
lemma Enclosed.congr (h : Enclosed opened path) (hsize : path'.size = path.size)
    (hnodes : path'.nodes = path.nodes) : Enclosed opened path' := by
  have hlocated : ∀ {nodes}, Located nodes path → Located nodes path' := by
    intro nodes hloc
    rw [located_iff] at hloc ⊢
    rw [hsize, hnodes]
    exact hloc
  cases opened with
  | nil => exact hlocated h
  | cons o opened =>
      obtain ⟨hrest, nodes, hbefore, hloc⟩ := h
      exact ⟨hrest, nodes, hbefore, hlocated hloc⟩

/-- The nodes of the path. -/
lemma Enclosed.located (h : Enclosed opened path) : ∃ nodes, Located nodes path := by
  cases opened with
  | nil => exact ⟨[], h⟩
  | cons o opened =>
      obtain ⟨-, nodes, -, hloc⟩ := h
      exact ⟨_, hloc⟩

lemma Located.congr (h : Located nodes path) (h' : Located nodes path') :
    path'.size = path.size ∧ path'.nodes = path.nodes := by
  rw [located_iff] at h h'
  refine ⟨UInt8.toNat_inj.mp (h'.1.trans h.1.symm), h'.2.trans h.2.symm⟩

/-- The number of nodes taken off for a collection that tells whether it has an index. -/
lemma nodesClosed_apart (h : o.Apart) :
    nodesClosed (nodes ++ Context.nodes o.collection) = (Context.nodes o.collection).length := by
  obtain ⟨path, node, index⟩ := o
  unfold nodesClosed Context.nodes
  cases index with
  | none =>
      have hpage : node.uPage ≠ 0xFF := h.resolve_left (by simp)
      simp [hpage]
  | some index => simp

/-- **The end of a collection gives the path back if and only if the collection tells whether it has
an index.** -/
lemma Enclosed.closed (h : Enclosed (o :: opened) r.data.path)
    (htag : Tag.ofItem r.item = .endCollection) (hclose : closeCollection r = .ok q) :
    (q.data.path.size = o.path.size ∧ q.data.path.nodes = o.path.nodes) ↔ o.Apart := by
  obtain ⟨-, nodes, hbefore, hloc⟩ := h
  constructor
  · intro hrestored
    by_contra hapart
    -- two nodes were taken off, and only one had been put on
    obtain ⟨path, node, index⟩ := o
    simp only [Opening.Apart, not_or, Bool.not_eq_true, Option.isSome_eq_false_iff,
      Option.isNone_iff_eq_none, not_not] at hapart
    obtain ⟨rfl, hpage⟩ := hapart
    have hsize := hloc.size
    have hle := hloc.length_le
    have hps : pathSize = 10 := rfl
    simp only [Context.nodes, Option.toList_none, List.map_nil, List.length_append,
      List.length_singleton] at hsize hle
    have hlast : (r.data.path.size - 1).toNat = nodes.length := by
      rw [toNat_sub_one8 (by omega), hsize]
      rfl
    obtain ⟨hlt, rfl⟩ := closeCollection_ok hclose
    have hnode : r.data.path.node[(r.data.path.size - 1).toNat] = node :=
      hloc.node_eq hlt (by rw [hlast]; simp [Context.nodes])
    have hboth : r.data.path.size - 1 - 1 = path.size := by
      have hfirst := hrestored.1
      dsimp only [resetLocalState] at hfirst
      rwa [hnode, if_pos hpage] at hfirst
    have hback := congrArg UInt8.toNat hboth
    have hbefore : path.size.toNat = nodes.length := hbefore.size
    rw [UInt8.toNat_sub, hlast, hbefore] at hback
    simp at hback
    omega
  · intro hapart
    have hfit : nodesClosed (nodes ++ Context.nodes o.collection) ≤
        (nodes ++ Context.nodes o.collection).length := by
      rw [nodesClosed_apart hapart, List.length_append]
      exact Nat.le_add_left _ _
    have hback := hloc.closed htag hfit hclose
    rw [nodesClosed_apart hapart, List.length_append, Nat.add_sub_cancel, List.take_left] at hback
    exact hbefore.congr hback

lemma recordOpening_of_ne (hi : s.nextRaw = some i) (h : i.tag ≠ .collection)
    (h' : i.tag ≠ .endCollection) : recordOpening abi opened s = opened := by
  unfold recordOpening
  rw [hi]
  dsimp only
  split
  · next htag => exact absurd htag h
  · next htag => exact absurd htag h'
  · rfl

/-- An object leaves the path proper. -/
lemma Enclosed.object {object : HIDData} (h : Enclosed opened r.data.path)
    (t : ObjectTurn r q object) : Enclosed opened q.data.path := by
  obtain ⟨nodes, hloc⟩ := h.located
  obtain ⟨hsize, hnodes⟩ := hloc.congr (t.located hloc)
  exact h.congr hsize hnodes

/-- With no collection open there is nothing to close. -/
lemma Enclosed.closeCollection_nil (h : Enclosed [] r.data.path) :
    closeCollection r ≠ .ok q := by
  intro hclose
  have hzero : r.data.path.size = 0 := UInt8.toNat_inj.mp (Located.size h)
  obtain ⟨hlt, -⟩ := closeCollection_ok hclose
  rw [hzero] at hlt
  revert hlt
  decide

/-- A collection that is open can be closed. -/
lemma Enclosed.closeCollection_cons (h : Enclosed (o :: opened) r.data.path) :
    ∃ q, closeCollection r = .ok q := by
  obtain ⟨-, nodes, -, hloc⟩ := h
  have hle := hloc.length_le
  have hsize := hloc.size
  rw [List.length_append, Context.nodes, List.length_cons] at hle hsize
  have hlt : (r.data.path.size - 1).toNat < pathSize := by
    rw [toNat_sub_one8 (by omega)]
    omega
  exact ⟨_, dif_pos hlt⟩

/-- A turn of the enumeration keeps the path enclosed, if the collection it may close is given
back. -/
lemma Enclosed.turn {out : Option HIDData} (h : Enclosed opened s.data.path) (hready : s.Ready)
    (hback : ∀ o rest i, opened = o :: rest → s.nextRaw = some i → i.tag = .endCollection →
      o.Apart) (hb : parseTurn abi s = .ok (q, out)) :
    Enclosed (recordOpening abi opened s) q.data.path := by
  obtain ⟨r, hr, hd⟩ := parseTurn_finds hb
  cases hr with
  | pending hc =>
      obtain ⟨object, -, ⟨t⟩⟩ := pending_turn hready hc hd
      rw [recordOpening, nextRaw_pending hc]
      exact h.object t
  | @item i hc hi =>
      have hsame : Enclosed opened (s.taking abi i).data.path := h
      cases dispatch_cases hd with
      | usage htag hpush =>
          have htag : i.tag = .usage := htag
          obtain ⟨hlt, rfl⟩ := pushUsage_ok hpush
          rw [recordOpening_of_ne hi (by rw [htag]; decide) (by rw [htag]; decide)]
          exact h
      | collection htag hopen =>
          have htag : i.tag = .collection := htag
          obtain ⟨nodes, hloc⟩ := h.located
          have hloc : Located nodes (s.taking abi i).data.path := hloc
          rw [recordOpening, hi]
          dsimp only
          rw [htag]
          exact ⟨h, nodes, hloc, hloc.opened hopen⟩
      | endCollection htag hclose =>
          have hlast := htag
          have htag : i.tag = .endCollection := htag
          rw [recordOpening, hi]
          dsimp only
          rw [htag]
          cases opened with
          | nil => exact absurd hclose hsame.closeCollection_nil
          | cons o rest =>
              obtain ⟨hsize, hnodes⟩ := (hsame.closed hlast hclose).mpr (hback o rest i rfl hi htag)
              exact h.1.congr hsize hnodes
      | object hdata t =>
          rw [recordOpening_of_ne hi (ne_of_isData hdata rfl) (ne_of_isData hdata rfl)]
          exact hsame.object t
      | global hmain husage htab hsize hpath =>
          rw [recordOpening_of_ne hi (ne_of_not_isMain hmain rfl) (ne_of_not_isMain hmain rfl),
            hpath]
          exact h

lemma Encloses.visits (h : Encloses abi p s opened) : Visits abi p s :=
  (Generator.withHistory_reaches []).mpr ⟨opened, h⟩

/-- Where the collections closed tell whether they have an index, as long as the path is enclosed,
it is in every state. -/
lemma Encloses.enclosed (h : Encloses abi p s opened)
    (hback : ∀ s o opened i, Closes abi p s o opened i → Enclosed (o :: opened) s.data.path →
      o.Apart) : Enclosed opened s.data.path := by
  have hstart : Enclosed [] (resetParser p).data.path := ⟨rfl, rfl⟩
  refine Generator.Reaches.invariant (fun x => Enclosed x.2 x.1.data.path) h hstart ?_
  rintro ⟨u, c⟩ ⟨u', c'⟩ out hr hu hl hb
  have hencloses : Encloses abi p u c := hr
  obtain ⟨items, hreads⟩ := visits_iff.mp hencloses.visits
  obtain ⟨rfl, out', hb', -⟩ := Generator.withHistory_body_ok hb
  refine Enclosed.turn hu (reads_tracks hreads).ready ?_ hb'
  rintro o rest i rfl hi htag
  exact hback u o rest i ⟨hencloses, hl, hi, htag⟩ hu

/-- The turn of an End Collection, where a collection is open. -/
lemma Closes.restored_iff (h : Closes abi p s o opened i)
    (hs : Enclosed (o :: opened) s.data.path) :
    (∀ q out, parseTurn abi s = .ok (q, out) →
      q.data.path.size = o.path.size ∧ q.data.path.nodes = o.path.nodes) ↔ o.Apart := by
  have htag : Tag.ofItem (s.taking abi i).item = .endCollection := h.tag
  have hturn : parseTurn abi s = (closeCollection (s.taking abi i)).map (·, none) := by
    rw [parseTurn_taking abi h.next, dispatch_endCollection htag]
  have hsame : Enclosed (o :: opened) (s.taking abi i).data.path := hs
  constructor
  · intro hall
    obtain ⟨q, hclose⟩ := hsame.closeCollection_cons
    refine (hsame.closed htag hclose).mp (hall q none ?_)
    rw [hturn, hclose]
    rfl
  · intro hapart q out hb
    rw [hturn, except_map_ok] at hb
    obtain ⟨q', hclose, heq⟩ := hb
    cases heq
    exact (hsame.closed htag hclose).mpr hapart

/-- **Every End Collection gives the path back if and only if no collection that is closed has its
usage on the page of the index nodes and no index.** -/
theorem restores_iff (abi : Abi) (p : HIDParser) : Restores abi p ↔ PagesApart abi p := by
  constructor
  · intro h
    have hback : ∀ s o opened i, Closes abi p s o opened i → Enclosed (o :: opened) s.data.path →
        o.Apart := by
      intro s o opened i hcloses hs
      exact (hcloses.restored_iff hs).mp fun q out hb => h s o opened i q out hcloses hb
    intro s o opened i hcloses
    exact hback s o opened i hcloses (hcloses.encloses.enclosed hback)
  · intro h s o opened i q out hcloses hb
    have hs := hcloses.encloses.enclosed fun s o opened i hcloses _ => h s o opened i hcloses
    exact (hcloses.restored_iff hs).mpr (h s o opened i hcloses) q out hb

end Enclosed

/-- Two collections, the inner one without an index and with its usage on page 0xFF. -/
def onIndexPage : List UInt8 :=
  [0x05, 0x01, 0x09, 0x01, 0xA1, 0x01, 0x05, 0xFF, 0x09, 0x02, 0xA1, 0x00, 0xC0, 0xC0]

/-- Not every End Collection gives the path back: with the inner collection, the outer one goes. -/
theorem restores_fails : ¬ Restores (.little .w64 true) (.holding onIndexPage) := by
  intro hrestores
  have hrun : (((parser (.little .w64 true)).withHistory (recordOpening (.little .w64 true))).after
      6 (resetParser (.holding onIndexPage), [])).any (fun x =>
        x.1.live && x.1.nextRaw == some ⟨0xC0, []⟩ && x.2.map (·.path.size) == [1, 0] &&
          (parseTurn (.little .w64 true) x.1).toOption.any (·.1.data.path.size == 0)) = true := by
    decide +kernel
  obtain ⟨⟨s, opened⟩, hafter, htest⟩ := (Option.any_eq_true _ _).mp hrun
  simp only [Bool.and_eq_true, beq_iff_eq] at htest
  obtain ⟨⟨⟨hl, hi⟩, hopened⟩, hturn⟩ := htest
  obtain ⟨o, rest, rfl, ho, -⟩ := List.map_eq_cons_iff.mp hopened
  obtain ⟨⟨q, out⟩, hb, hsize⟩ := (Option.any_eq_true _ _).mp hturn
  have hback := hrestores s o rest _ q out ⟨Generator.reaches_after hafter, hl, hi, rfl⟩
    (except_toOption_eq_some.mp hb)
  rw [beq_iff_eq.mp hsize, ho] at hback
  exact absurd hback.1 (by decide)

end Libhid
