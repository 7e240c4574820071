import Libhid.Parser.Complete

/-!
# Descriptors that mean the same

A global item sets a field that holds until the next item of its kind, so a descriptor can be
rewritten without changing its objects: global items can change places, one that is overwritten at
once or repeats what is in force can be left out, and so can an item that the parser does not know.
`Rewrite` is such a step on the items, and descriptors that are joined by steps in either direction
have the same objects (`rewrites_objects`).

An item at the end of a descriptor is not left out.  While there is an item behind a data item, all
the objects of that are delivered.
-/

namespace Libhid

open Framework

/-! ## Global items -/

/-- The items that set a field which holds until the next item of their kind. -/
def Tag.isGlobal : Tag → Bool
  | .uPage | .repId | .repSize | .repCount | .unitExp | .unit | .logMin | .logMax | .phyMin
  | .phyMax => true
  | _ => false

/-- The fields that global items set. -/
structure GlobalState where
  uPage : UInt16
  reportID : UInt8
  size : UInt8
  reportCount : UInt8
  unitExp : ℤ
  unit : ℤ
  logMin : ℤ
  logMax : ℤ
  phyMin : ℤ
  phyMax : ℤ

namespace GlobalState

variable {abi : Abi} {g : GlobalState} {t t' : Tag} {n n' : ℕ} {v v' : ℤ}

/-- The fields after an item with `n` data bytes that encode a value. -/
def set (g : GlobalState) (abi : Abi) (tag : Tag) (n : ℕ) (value : ℤ) : GlobalState :=
  match tag with
  | .uPage => { g with uPage := ushort value }
  | .repId => { g with reportID := uchar value }
  | .repSize => { g with size := uchar value }
  | .repCount => { g with reportCount := uchar value }
  | .unitExp => { g with unitExp := unitExponent abi value }
  | .unit => { g with unit := abi.toULong value }
  | .logMin => { g with logMin := formatValue abi value n }
  | .logMax => { g with logMax := formatValue abi value n }
  | .phyMin => { g with phyMin := formatValue abi value n }
  | .phyMax => { g with phyMax := formatValue abi value n }
  | _ => g

/-- Items of two kinds set two fields. -/
lemma set_comm (hne : t ≠ t') :
    (g.set abi t n v).set abi t' n' v' = (g.set abi t' n' v').set abi t n v := by
  cases t <;> cases t' <;> first | rfl | exact absurd rfl hne

/-- Of two items of a kind, the second one counts. -/
lemma set_set : (g.set abi t n v).set abi t n' v' = g.set abi t n' v' := by
  cases t <;> rfl

lemma set_uPage (h : t ≠ .uPage) : (g.set abi t n v).uPage = g.uPage := by
  cases t <;> first | rfl | exact absurd rfl h

lemma set_data (h : t.isData = true) : g.set abi t n v = g := by
  cases t <;> first | rfl | cases h

/-- The fields after an item. -/
def after (g : GlobalState) (abi : Abi) (i : RawItem) : GlobalState :=
  g.set abi i.tag (itemSize i.head) (i.value abi)

end GlobalState

namespace HIDParser

/-- The fields that global items set. -/
def globals (p : HIDParser) : GlobalState where
  uPage := p.uPage
  reportID := p.data.reportID
  size := p.data.size
  reportCount := p.reportCount
  unitExp := p.data.unitExp
  unit := p.data.unit
  logMin := p.data.logMin
  logMax := p.data.logMax
  phyMin := p.data.phyMin
  phyMax := p.data.phyMax

/-- The parser with these fields. -/
def withGlobals (p : HIDParser) (g : GlobalState) : HIDParser :=
  { p with
    uPage := g.uPage
    reportCount := g.reportCount
    data := { p.data with
      reportID := g.reportID
      size := g.size
      unitExp := g.unitExp
      unit := g.unit
      logMin := g.logMin
      logMax := g.logMax
      phyMin := g.phyMin
      phyMax := g.phyMax } }

variable (p : HIDParser) (g g' : GlobalState)

@[simp] lemma globals_withGlobals : (p.withGlobals g).globals = g := rfl
@[simp] lemma withGlobals_withGlobals : (p.withGlobals g).withGlobals g' = p.withGlobals g' := rfl
@[simp] lemma withGlobals_self : p.withGlobals p.globals = p := rfl
@[simp] lemma withGlobals_count : (p.withGlobals g).count = p.count := rfl
lemma withGlobals_bare : (p.withGlobals g).bare = p.bare.withGlobals g := rfl

end HIDParser

section Dispatch

variable {abi : Abi} {p q c : HIDParser} {o : Option HIDData} {i j : RawItem}
  {items : List RawItem}

/-- **No case of the switch but that of a global item changes what it sets.** -/
lemma dispatch_globals (h : dispatch abi p = .ok (q, o)) :
    q.globals = p.globals.set abi (Tag.ofItem p.item) (itemSize p.item) p.value := by
  unfold dispatch at h
  cases htag : Tag.ofItem p.item <;>
    simp only [htag, except_map_ok, Except.ok.injEq, Prod.mk.injEq, Prod.exists] at h
  case feature | input | output =>
    obtain ⟨r, object, hd, rfl, -⟩ := h
    obtain ⟨t⟩ := dataItem_ok hd
    obtain ⟨-, -, -, -, -, huPage, hreportCount, -⟩ := t.frame
    have hdata := t.data
    rw [t.object_eq] at hdata
    rw [HIDParser.globals, huPage, hreportCount, hdata]
    rfl
  case usage =>
    obtain ⟨r, hd, rfl, -⟩ := h
    obtain ⟨-, rfl⟩ := pushUsage_ok hd
    rfl
  case collection =>
    obtain ⟨r, hd, rfl, -⟩ := h
    obtain ⟨-, -, path, -, -, -, rfl⟩ := openCollection_ok hd
    rfl
  case endCollection =>
    obtain ⟨r, hd, rfl, -⟩ := h
    obtain ⟨-, rfl⟩ := closeCollection_ok hd
    rfl
  all_goals
    obtain ⟨rfl, -⟩ := h
    rfl

/-- A global item sets its field, and does nothing else. -/
lemma dispatch_global (hi : (Tag.ofItem p.item).isGlobal = true) : dispatch abi p =
    .ok (p.withGlobals (p.globals.set abi (Tag.ofItem p.item) (itemSize p.item) p.value),
      none) := by
  unfold dispatch
  cases htag : Tag.ofItem p.item <;> first | rfl | (rw [htag] at hi; cases hi)

lemma itemTurn_global (hbare : c.bare = c) (hc : c.count = 0) (hi : i.tag.isGlobal = true) :
    itemTurn abi (c, i :: items) =
      .ok ((c.withGlobals (c.globals.after abi i), items), none) := by
  rw [itemTurn_handed abi hc, dispatch_global (p := c.handed abi i) hi]
  show Except.ok (((((c.handed abi i).withGlobals (c.globals.after abi i)).bare, items), none)) = _
  rw [HIDParser.withGlobals_bare, handed_of_bare abi hbare hc]

end Dispatch

/-! ## Results of items -/

/-- The objects of the items, for a parser between two items or with a data item pending. -/
def objectsOf (abi : Abi) (c : HIDParser) (items : List RawItem) : List HIDData :=
  ((itemParser abi).all (c, items)).1

section Objects

variable {abi : Abi} {c : HIDParser} {i j : RawItem} {items pre a b : List RawItem}

/-- An item that is not a data item leads to the objects of the items behind it. -/
lemma objectsOf_silent {q : HIDParser} (hc : c.count = 0)
    (hb : itemTurn abi (c, i :: items) = .ok ((q, items), none)) :
    objectsOf abi c (i :: items) = objectsOf abi q items :=
  congrArg Prod.fst ((itemParser_bounded abi).all_silent (.inl hc) rfl hb)

lemma objectsOf_fail {e : Stop} (hc : c.count = 0)
    (hb : itemTurn abi (c, i :: items) = .error e) : objectsOf abi c (i :: items) = [] :=
  congrArg Prod.fst ((itemParser_bounded abi).all_fail (.inl hc) rfl hb)

lemma objectsOf_global (hbare : c.bare = c) (hc : c.count = 0) (hi : i.tag.isGlobal = true) :
    objectsOf abi c (i :: items) = objectsOf abi (c.withGlobals (c.globals.after abi i)) items :=
  objectsOf_silent hc (itemTurn_global hbare hc hi)

/-- Where two lists of items have the same objects whatever fields that meet `P` are in force, they
have them behind items that keep `P`. -/
lemma objectsOf_congr {P : GlobalState → Prop} (hempty : a = [] ↔ b = [])
    (hbase : ∀ c : HIDParser, c.bare = c → c.count = 0 → P c.globals →
      objectsOf abi c a = objectsOf abi c b)
    (hpre : ∀ i ∈ pre, ∀ g, P g → P (g.after abi i)) (hbare : c.bare = c) (hready : c.Ready)
    (hP : P c.globals) : objectsOf abi c (pre ++ a) = objectsOf abi c (pre ++ b) := by
  refine (itemParser_bounded abi).results_eq (itemParser_bounded abi)
    (R := fun s t => ∃ c pre, s = (c, pre ++ a) ∧ t = (c, pre ++ b) ∧ c.bare = c ∧ P c.globals ∧
      ∀ i ∈ pre, ∀ g, P g → P (g.after abi i)) ?_ ⟨c, pre, rfl, rfl, hbare, hP, hpre⟩ hready hready
  rintro s t ⟨c, pre, rfl, rfl, hbare, hP, hpre⟩ hready -
  -- the same case of the switch is run in front of both lists
  have hturn : ∀ (r : HIDParser) (rest : List RawItem),
      (∀ q o, dispatch abi r = .ok (q, o) → P q.globals) →
      (∀ i ∈ rest, ∀ g, P g → P (g.after abi i)) →
      OutcomeRel (fun x y => (∃ c pre, x.1 = (c, pre ++ a) ∧ y.1 = (c, pre ++ b) ∧ c.bare = c ∧
          P c.globals ∧ ∀ i ∈ pre, ∀ g, P g → P (g.after abi i)) ∧ x.2 = y.2)
        ((dispatch abi r).map fun x => ((x.1.bare, rest ++ a), x.2))
        ((dispatch abi r).map fun x => ((x.1.bare, rest ++ b), x.2)) := by
    intro r rest hr hrest
    rcases hd : dispatch abi r with e | ⟨q, o⟩
    · exact .error e
    · exact .ok ⟨⟨q.bare, rest, rfl, rfl, bare_bare q, hr q o hd, hrest⟩, rfl⟩
  by_cases hc : c.count = 0
  · cases pre with
    | nil => exact .inl (hbase c hbare hc hP)
    | cons i pre =>
        refine .inr ⟨rfl, fun _ => ?_⟩
        obtain ⟨hi, hrest⟩ := List.forall_mem_cons.mp hpre
        show OutcomeRel _ (itemTurn abi (c, i :: (pre ++ a))) (itemTurn abi (c, i :: (pre ++ b)))
        rw [itemTurn_handed abi hc, itemTurn_handed abi hc]
        refine hturn _ pre (fun q o hd => ?_) hrest
        rw [dispatch_globals hd]
        exact hi _ hP
  · refine .inr ⟨?_, fun _ => ?_⟩
    · show (!(pre ++ a).isEmpty) = !(pre ++ b).isEmpty
      rw [Bool.eq_iff_iff]
      simp [hempty]
    · show OutcomeRel _ (itemTurn abi (c, pre ++ a)) (itemTurn abi (c, pre ++ b))
      rw [itemTurn_pending abi hc, itemTurn_pending abi hc]
      refine hturn c pre (fun q o hd => ?_) hpre
      rw [dispatch_globals hd, GlobalState.set_data (hready.resolve_left hc)]
      exact hP

/-- The same for items that are the same whatever is in force. -/
lemma objectsOf_behind (hempty : a = [] ↔ b = [])
    (hbase : ∀ c : HIDParser, c.bare = c → c.count = 0 → objectsOf abi c a = objectsOf abi c b)
    (hbare : c.bare = c) (hready : c.Ready) :
    objectsOf abi c (pre ++ a) = objectsOf abi c (pre ++ b) :=
  objectsOf_congr (P := fun _ => True) hempty (fun c hbare hc _ => hbase c hbare hc)
    (fun _ _ _ _ => trivial) hbare hready trivial

/-! ## The rules -/

/-- Two global items that set the same, whatever is in force. -/
def RawItem.SetsAs (abi : Abi) (i j : RawItem) : Prop :=
  i.tag = j.tag ∧ ∀ g : GlobalState, g.after abi i = g.after abi j

/-- A step that changes the items of a descriptor and not its objects. -/
inductive Rewrite (abi : Abi) : List RawItem → List RawItem → Prop
  /-- Two global items change places. -/
  | swap (pre : List RawItem) {i j : RawItem} (post : List RawItem) (hi : i.tag.isGlobal = true)
      (hj : j.tag.isGlobal = true) (hne : i.tag ≠ j.tag) :
      Rewrite abi (pre ++ i :: j :: post) (pre ++ j :: i :: post)
  /-- A usage changes places with a global item, but not with a Usage Page. -/
  | usage (pre : List RawItem) {i j : RawItem} (post : List RawItem) (hi : i.tag.isGlobal = true)
      (hne : i.tag ≠ .uPage) (hj : j.tag = .usage) :
      Rewrite abi (pre ++ i :: j :: post) (pre ++ j :: i :: post)
  /-- A global item that is overwritten at once is left out. -/
  | overwritten (pre : List RawItem) {i j : RawItem} (post : List RawItem)
      (hi : i.tag.isGlobal = true) (hsame : i.tag = j.tag) :
      Rewrite abi (pre ++ i :: j :: post) (pre ++ j :: post)
  /-- A global item that sets what is set already is left out. -/
  | repeated (pre : List RawItem) {i j : RawItem} (mid : List RawItem) {post : List RawItem}
      (hi : i.tag.isGlobal = true) (hsame : i.SetsAs abi j) (hmid : ∀ k ∈ mid, k.tag ≠ i.tag)
      (hpost : post ≠ []) :
      Rewrite abi (pre ++ i :: (mid ++ j :: post)) (pre ++ i :: (mid ++ post))
  /-- A global item is encoded differently. -/
  | encoded (pre : List RawItem) {i j : RawItem} (post : List RawItem)
      (hi : i.tag.isGlobal = true) (hsame : i.SetsAs abi j) :
      Rewrite abi (pre ++ i :: post) (pre ++ j :: post)
  /-- An item that is none of the parser's is left out. -/
  | ignored (pre : List RawItem) {j : RawItem} {post : List RawItem}
      (htag : j.tag = .long ∨ j.tag = .other) (hpost : post ≠ []) :
      Rewrite abi (pre ++ j :: post) (pre ++ post)

lemma objectsOf_swap (hbare : c.bare = c) (hc : c.count = 0) (hi : i.tag.isGlobal = true)
    (hj : j.tag.isGlobal = true) (hne : i.tag ≠ j.tag) :
    objectsOf abi c (i :: j :: items) = objectsOf abi c (j :: i :: items) := by
  have hset : ∀ g : GlobalState, (c.withGlobals g).bare = c.withGlobals g := fun g => by
    rw [HIDParser.withGlobals_bare, hbare]
  rw [objectsOf_global hbare hc hi, objectsOf_global (hset _) hc hj, objectsOf_global hbare hc hj,
    objectsOf_global (hset _) hc hi]
  simp only [HIDParser.globals_withGlobals, HIDParser.withGlobals_withGlobals]
  exact congrArg (fun g => objectsOf abi (c.withGlobals g) items) (GlobalState.set_comm hne)

/-- A usage is stacked alike, before and after the item. -/
lemma objectsOf_usage (hbare : c.bare = c) (hc : c.count = 0) (hi : i.tag.isGlobal = true)
    (hne : i.tag ≠ .uPage) (hj : j.tag = .usage) :
    objectsOf abi c (i :: j :: items) = objectsOf abi c (j :: i :: items) := by
  have hset : (c.withGlobals (c.globals.after abi i)).bare =
      c.withGlobals (c.globals.after abi i) := by
    rw [HIDParser.withGlobals_bare, hbare]
  have hnode : usageNode ((c.withGlobals (c.globals.after abi i)).handed abi j) =
      usageNode (c.handed abi j) := by
    have huPage : (c.globals.after abi i).uPage = c.uPage := GlobalState.set_uPage hne
    unfold usageNode
    show HIDNode.mk (if _ then _ else (c.globals.after abi i).uPage) _ = _
    rw [huPage]
    rfl
  have hc' : (c.withGlobals (c.globals.after abi i)).count = 0 := hc
  rw [objectsOf_global hbare hc hi]
  by_cases hroom : c.usageSize.toNat < usageTabSize
  · have hroom' : (c.withGlobals (c.globals.after abi i)).usageSize.toNat < usageTabSize := hroom
    have hstack := stack_bare hbare (usageNode (c.handed abi j)) hroom
    have hturn : itemTurn abi (c, j :: i :: items) =
        .ok ((c.stack (usageNode (c.handed abi j)) hroom, i :: items), none) :=
      (itemTurn_usage hbare hc hj).trans (dif_pos hroom)
    have hturn' : itemTurn abi (c.withGlobals (c.globals.after abi i), j :: items) = .ok
        (((c.withGlobals (c.globals.after abi i)).stack (usageNode (c.handed abi j)) hroom', items),
          none) := by
      rw [itemTurn_usage hset hc hj, dif_pos hroom', hnode]
    have hstacked : (c.stack (usageNode (c.handed abi j)) hroom).count = 0 := hc
    rw [objectsOf_silent hc hturn, objectsOf_silent hc' hturn', objectsOf_global hstack hstacked hi]
    rfl
  · have hturn : itemTurn abi (c, j :: i :: items) = .error .usageTab :=
      (itemTurn_usage hbare hc hj).trans (dif_neg hroom)
    have hturn' : itemTurn abi (c.withGlobals (c.globals.after abi i), j :: items) =
        .error .usageTab :=
      (itemTurn_usage hset hc hj).trans (dif_neg hroom)
    rw [objectsOf_fail hc hturn, objectsOf_fail hc' hturn']

lemma objectsOf_overwritten (hbare : c.bare = c) (hc : c.count = 0) (hi : i.tag.isGlobal = true)
    (hsame : i.tag = j.tag) :
    objectsOf abi c (i :: j :: items) = objectsOf abi c (j :: items) := by
  have hset : (c.withGlobals (c.globals.after abi i)).bare =
      c.withGlobals (c.globals.after abi i) := by
    rw [HIDParser.withGlobals_bare, hbare]
  have hj : j.tag.isGlobal = true := hsame ▸ hi
  rw [objectsOf_global hbare hc hi, objectsOf_global hset hc hj, objectsOf_global hbare hc hj]
  simp only [HIDParser.globals_withGlobals, HIDParser.withGlobals_withGlobals]
  unfold GlobalState.after
  rw [hsame, GlobalState.set_set]

/-- The items behind a global item that repeats it find the same in force. -/
lemma objectsOf_repeated {mid post : List RawItem} (hbare : c.bare = c) (hc : c.count = 0)
    (hi : i.tag.isGlobal = true) (hsame : i.SetsAs abi j) (hmid : ∀ k ∈ mid, k.tag ≠ i.tag)
    (hpost : post ≠ []) : objectsOf abi c (i :: (mid ++ j :: post)) =
      objectsOf abi c (i :: (mid ++ post)) := by
  obtain ⟨htag, hafter⟩ := hsame
  have hset : (c.withGlobals (c.globals.after abi i)).bare =
      c.withGlobals (c.globals.after abi i) := by
    rw [HIDParser.withGlobals_bare, hbare]
  rw [objectsOf_global hbare hc hi, objectsOf_global hbare hc hi]
  refine objectsOf_congr (P := fun g => g.after abi j = g) (by simp [hpost]) ?_ ?_ hset (.inl hc) ?_
  · intro d hbare' hc' hP
    rw [objectsOf_global hbare' hc' (htag ▸ hi), hP, HIDParser.withGlobals_self]
  · intro k hk g hP
    have hne : k.tag ≠ j.tag := htag ▸ hmid k hk
    show (g.after abi k).after abi j = g.after abi k
    unfold GlobalState.after at hP ⊢
    rw [GlobalState.set_comm hne, hP]
  · show (c.globals.after abi i).after abi j = c.globals.after abi i
    rw [hafter]
    exact GlobalState.set_set

/-- Every rule keeps the objects. -/
lemma Rewrite.objectsOf (h : Rewrite abi a b) (hbare : c.bare = c) (hready : c.Ready) :
    objectsOf abi c a = Libhid.objectsOf abi c b := by
  cases h with
  | swap pre post hi hj hne =>
      exact objectsOf_behind (by simp) (fun _ hbare hc => objectsOf_swap hbare hc hi hj hne) hbare
        hready
  | usage pre post hi hne hj =>
      exact objectsOf_behind (by simp) (fun _ hbare hc => objectsOf_usage hbare hc hi hne hj) hbare
        hready
  | overwritten pre post hi hsame =>
      exact objectsOf_behind (by simp) (fun _ hbare hc => objectsOf_overwritten hbare hc hi hsame)
        hbare hready
  | repeated pre mid hi hsame hmid hpost =>
      exact objectsOf_behind (by simp)
        (fun _ hbare hc => objectsOf_repeated hbare hc hi hsame hmid hpost) hbare hready
  | encoded pre post hi hsame =>
      refine objectsOf_behind (by simp) (fun c hbare hc => ?_) hbare hready
      rw [objectsOf_global hbare hc hi, objectsOf_global hbare hc (hsame.1 ▸ hi), hsame.2]
  | ignored pre htag hpost =>
      exact objectsOf_behind (by simp [hpost])
        (fun _ hbare hc => objectsOf_silent hc (itemTurn_ignored hbare hc htag)) hbare hready

/-- **Descriptors of complete items that steps of rewriting join, in either direction, have the
same objects**, delivered from the same `ResetParser` state. -/
theorem rewrites_objects {p q s : HIDParser} {whole whole' : List WholeItem}
    (h : Relation.EqvGen (Rewrite abi) (whole.map WholeItem.toRawItem)
      (whole'.map WholeItem.toRawItem))
    (hp : p.Holds (wholeBytes whole)) (hq : q.Holds (wholeBytes whole'))
    (hskips : ∀ i ∈ whole, i.Skips abi) (hskips' : ∀ i ∈ whole', i.Skips abi)
    (hsp : SameStart p s) (hsq : SameStart q s) :
    (enumerate abi (resetParser p)).1 = (enumerate abi (resetParser q)).1 := by
  have hready : (resetParser s).bare.Ready := (resetParser_ready s).bare
  have hall : ∀ {a b : List RawItem}, Relation.EqvGen (Rewrite abi) a b →
      objectsOf abi (resetParser s).bare a = objectsOf abi (resetParser s).bare b := by
    intro a b hab
    induction hab with
    | rel a b hstep => exact hstep.objectsOf (bare_bare _) hready
    | refl a => rfl
    | symm a b _ ih => exact ih.symm
    | trans a b c _ _ ih ih' => exact ih.trans ih'
  rw [enumerate_whole hp hskips, enumerate_whole hq hskips', hsp, hsq]
  exact hall h

end Objects

/-- One field, with its size before its count. -/
def sizeFirst : List WholeItem :=
  [.plain 0x05 [0x84], .plain 0x75 [0x08], .plain 0x95 [0x01], .plain 0x09 [0x24],
    .plain 0x81 [0x02]]

/-- The same field, with its count first and a page of two bytes. -/
def countFirst : List WholeItem :=
  [.plain 0x06 [0x84, 0x00], .plain 0x95 [0x01], .plain 0x75 [0x08], .plain 0x09 [0x24],
    .plain 0x81 [0x02]]

/-- `rewrites_objects` for these two. -/
theorem rewrites_objects_bench :
    (enumerate (.little .w64 true) (resetParser (.holding (wholeBytes sizeFirst)))).1 =
      (enumerate (.little .w64 true) (resetParser (.holding (wholeBytes countFirst)))).1 := by
  have hpage : RawItem.SetsAs (.little .w64 true) ⟨0x05, [0x84]⟩ ⟨0x06, [0x84, 0x00]⟩ :=
    ⟨by decide, fun g => congrArg (fun page => { g with uPage := page }) (by decide)⟩
  have hsteps : Relation.EqvGen (Rewrite (.little .w64 true))
      (sizeFirst.map WholeItem.toRawItem) (countFirst.map WholeItem.toRawItem) :=
    .trans _ _ _ (.rel _ _ (.encoded [] _ (by decide) hpage))
      (.rel _ _ (.swap [_] _ (by decide) (by decide) (by decide)))
  have hsize : ∀ i ∈ sizeFirst, i.Complete := by decide
  have hcount : ∀ i ∈ countFirst, i.Complete := by decide
  exact rewrites_objects hsteps (holding_holds (by decide)) (holding_holds (by decide))
    (fun i hi => (hsize i hi).skips (.inl rfl)) (fun i hi => (hcount i hi).skips (.inl rfl)) rfl rfl

end Libhid
