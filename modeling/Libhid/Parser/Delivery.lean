import Mathlib.Algebra.Order.BigOperators.Group.List
import Libhid.Parser.Simulation

/-!
# Which descriptors are delivered

`delivers_iff` says of every well-formed descriptor whether the enumeration delivers its fields and
ends.  Where the platform loads items, that is the simulation.  Where it does not, every page and
usage the parser reads is 0 and no report ID is set, so that a descriptor with a field is never
delivered; `Shifted` follows the parser through one without fields, whose collections may put other
numbers of nodes on the path than they should.
-/

namespace Libhid

open Framework

/-! ## Collections by what the parser makes of them -/

section Shifted

variable {abi : Abi} {bytes rest : List UInt8} {c : Context} {taken : List ℕ} {p : HIDParser}
  {i : Item}

/-- The nodes a collection item puts on the path: an index comes with a loaded value from `0x80`
on. -/
def nodesTaken (abi : Abi) (i : Item) : ℕ := if abi.load i.data ≥ 0x80 then 2 else 1

/-- The nodes of each open collection after an item. -/
def takenAfter (abi : Abi) (taken : List ℕ) (i : Item) : List ℕ :=
  match i.tag with
  | .collection => taken ++ [nodesTaken abi i]
  | .endCollection => taken.dropLast
  | _ => taken

/-- The nodes of the open collections always fit the path. -/
def PathFits (abi : Abi) : List ℕ → List Item → Prop
  | _, [] => True
  | taken, i :: items =>
      (takenAfter abi taken i).sum ≤ pathSize ∧ PathFits abi (takenAfter abi taken i) items

/-- Between two items of a descriptor without fields, where items are not loaded: everything the
parser has stacked is on usage page 0. -/
structure Shifted (bytes rest : List UInt8) (c : Context) (taken : List ℕ) (p : HIDParser) :
    Prop where
  holds : p.Holds bytes
  remaining : p.remaining bytes = rest
  idle : p.count = 0
  uPage : c.uPage.isSome = true → p.uPage = 0
  usages : ∃ usages, Stacked usages p.usageTab p.usageSize ∧
    usages.length = c.usages.length ∧ ∀ u ∈ usages, u.uPage = 0
  path : ∃ opened : List (HIDNode × Option UInt16),
    Located (opened.flatMap Context.nodes) p.data.path ∧
      opened.map (fun o => (Context.nodes o).length) = taken ∧ ∀ o ∈ opened, o.1.uPage = 0
  opened : taken.length = c.opened.length

lemma shifted_resetParser (hp : p.Holds bytes) :
    Shifted bytes bytes .initial [] (resetParser p) where
  holds := ⟨hp.size, hp.desc⟩
  remaining := rfl
  idle := rfl
  uPage h := nomatch h
  usages := ⟨[], .nil, rfl, fun _ h => absurd h List.not_mem_nil⟩
  path := ⟨[], ⟨rfl, rfl⟩, rfl, fun _ h => absurd h List.not_mem_nil⟩
  opened := rfl

/-- The first usage is on page 0, whether one is pending or not. -/
lemma Shifted.first (h : Shifted bytes rest c taken p) : p.firstUsage.uPage = 0 := by
  obtain ⟨usages, hstack, -, hpages⟩ := h.usages
  have hfirst : p.firstUsage = usages.headD .zero := hstack.first
  rw [hfirst]
  cases usages with
  | nil => rfl
  | cons u us => exact hpages u List.mem_cons_self

/-- The nodes of the open collections are those on the path. -/
lemma Shifted.sum_le (h : Shifted bytes rest c taken p) : taken.sum ≤ pathSize := by
  obtain ⟨opened, hloc, htaken, -⟩ := h.path
  have hle := hloc.length_le
  rwa [List.length_flatMap, htaken] at hle

/-- An item that changes neither the usages nor the path. -/
lemma Shifted.set {d : Context} {q : HIDParser} (h : Shifted bytes rest c taken p)
    (hpage : d.uPage.isSome = true → q.uPage = 0)
    (hq : (q.reportDesc, q.reportDescSize, q.pos, q.count, q.usageTab, q.usageSize, q.data.path) =
      (p.reportDesc, p.reportDescSize, p.pos, p.count, p.usageTab, p.usageSize, p.data.path))
    (hd : (d.usages, d.opened) = (c.usages, c.opened)) : Shifted bytes rest d taken q := by
  simp only [Prod.mk.injEq] at hq hd
  obtain ⟨hdesc, hsize, hpos, hcount, htab, husize, hpath⟩ := hq
  obtain ⟨husages, hopened⟩ := hd
  refine ⟨⟨?_, ?_⟩, ?_, ?_, hpage, ?_, ?_, ?_⟩
  · rw [hsize]
    exact h.holds.size
  · rw [hdesc]
    exact h.holds.desc
  · rw [HIDParser.remaining, hpos]
    exact h.remaining
  · rw [hcount]
    exact h.idle
  · rw [husages, htab, husize]
    exact h.usages
  · rw [hpath]
    exact h.path
  · rw [hopened]
    exact h.opened

/-- A main item leaves no usages. -/
lemma Shifted.resetLocalState {opened : List (HIDNode × Option UInt16)} {path : HIDPath}
    {collections : List (HIDNode × Option UInt16)} (h : Shifted bytes rest c taken p)
    (hloc : Located (opened.flatMap Context.nodes) path) (hpages : ∀ o ∈ opened, o.1.uPage = 0)
    (hlen : opened.length = collections.length) :
    Shifted bytes rest { c with opened := collections, usages := [] }
      (opened.map fun o => (Context.nodes o).length)
      (Libhid.resetLocalState { p with data := { p.data with path := path } }) where
  holds := ⟨h.holds.size, h.holds.desc⟩
  remaining := h.remaining
  idle := h.idle
  uPage := h.uPage
  usages := ⟨[], .nil, rfl, fun _ h => absurd h List.not_mem_nil⟩
  path := ⟨opened, hloc, rfl, hpages⟩
  opened := by rw [List.length_map, hlen]

/-- The turn that fetches an item. -/
lemma Shifted.fetch (h : Shifted bytes (i.encode ++ rest) c taken p) (abi : Abi) :
    p.live = true ∧ ∃ r, parseTurn abi p = dispatch abi r ∧ r.item = i.head ∧
      r.value = abi.load i.data ∧ Shifted bytes rest c taken r := by
  obtain ⟨hlive, hturn, hvalue, hnext⟩ := h.holds.fetch_item abi h.remaining h.idle
  exact ⟨hlive, _, hturn, rfl, hvalue, ⟨h.holds.size, h.holds.desc⟩, hnext, h.idle, h.uPage,
    h.usages, h.path, h.opened⟩

section Turns

variable {r : HIDParser}

/-- A usage is stacked with page 0. -/
lemma Shifted.usage (h : Shifted bytes rest c taken r) (hload : ¬ abi.LoadsItems)
    (hitem : r.item = i.head) (hvalue : r.value = abi.load i.data) (htag : i.tag = .usage)
    (hadm : c.Admits abi i) (hroom : c.usages.length < usageTabSize) :
    ∃ q, dispatch abi r = .ok (q, none) ∧ Shifted bytes rest (c.step abi i) taken q := by
  obtain ⟨usages, hstack, hlen, hpages⟩ := h.usages
  have hlt : r.usageSize.toNat < usageTabSize := by rwa [hstack.size, hlen]
  have hshift := load_shifted hload i.data_length_le
  have hpage : (usageNode r).uPage = 0 := by
    unfold usageNode
    dsimp only
    split_ifs with hsize
    · rw [hvalue]
      exact ushort_div_shifted hshift
    · rw [hitem] at hsize
      simp only [Context.Admits, htag] at hadm
      refine h.uPage (hadm ?_)
      exact Nat.lt_of_le_of_ne i.data_length_le fun h4 => hsize (i.head_four.mpr h4)
  have hstep : c.step abi i = { c with usages := c.usages ++ [c.usage i] } := by
    simp only [Context.step, htag]
  refine ⟨{ r with
    usageTab := r.usageTab.set r.usageSize.toNat (usageNode r)
    usageSize := r.usageSize + 1 }, ?_, ?_⟩
  · rw [dispatch_usage (by rw [hitem, i.head_tag, htag]), pushUsage, dif_pos hlt]
    rfl
  · rw [hstep]
    refine ⟨⟨h.holds.size, h.holds.desc⟩, h.remaining, h.idle, h.uPage,
      ⟨usages ++ [usageNode r], hstack.push hlt _, ?_, ?_⟩, h.path, h.opened⟩
    · simp [hlen]
    · intro u hu
      rcases List.mem_append.mp hu with hu | hu
      · exact hpages u hu
      · rw [List.mem_singleton.mp hu]
        exact hpage

/-- A collection is opened if its nodes fit the path. -/
lemma Shifted.collection (h : Shifted bytes rest c taken r) (hitem : r.item = i.head)
    (hvalue : r.value = abi.load i.data) (htag : i.tag = .collection) (hadm : c.Admits abi i)
    (hfit : (taken ++ [nodesTaken abi i]).sum ≤ pathSize) : ∃ q, dispatch abi r = .ok (q, none) ∧
      Shifted bytes rest (c.step abi i) (taken ++ [nodesTaken abi i]) q := by
  obtain ⟨usages, hstack, hlen, -⟩ := h.usages
  obtain ⟨opened, hloc, htaken, hpages⟩ := h.path
  have hstep : c.step abi i = { c with
      opened := c.opened ++ [c.collection abi i], usages := [] } := by
    simp only [Context.step, htag]
  have hnodes : (Context.nodes r.collection).length = nodesTaken abi i := by
    unfold HIDParser.collection Context.nodes nodesTaken
    rw [hvalue]
    split_ifs <;> rfl
  have hmap : (opened ++ [r.collection]).map (fun o => (Context.nodes o).length) =
      taken ++ [nodesTaken abi i] := by
    rw [List.map_append, htaken, List.map_singleton, hnodes]
  have hflat : (opened ++ [r.collection]).flatMap Context.nodes =
      opened.flatMap Context.nodes ++ Context.nodes r.collection := by
    rw [List.flatMap_append, List.flatMap_singleton]
  simp only [Context.Admits, htag] at hadm
  obtain ⟨path, hopen, hloc'⟩ := hloc.open_ hstack (by rw [hlen]; exact hadm.1) (by
    rw [← hflat, List.length_flatMap, hmap]
    exact hfit)
  rw [← hflat] at hloc'
  rw [hstep, ← hmap]
  refine ⟨_, ?_, h.resetLocalState hloc' (fun o ho => ?_) ?_⟩
  · rw [dispatch_collection (by rw [hitem, i.head_tag, htag]), hopen]
    rfl
  · rcases List.mem_append.mp ho with ho | ho
    · exact hpages o ho
    · rw [List.mem_singleton.mp ho]
      exact h.first
  · have hsame := congrArg List.length htaken
    rw [List.length_map, h.opened] at hsame
    simp [hsame]

/-- The parser leaves the path where the nodes of a collection do not fit it. -/
lemma Shifted.collection_full (h : Shifted bytes rest c taken r) (hitem : r.item = i.head)
    (hvalue : r.value = abi.load i.data) (htag : i.tag = .collection) (hadm : c.Admits abi i)
    (hfull : pathSize < (taken ++ [nodesTaken abi i]).sum) :
    dispatch abi r = .error .node := by
  obtain ⟨usages, hstack, hlen, -⟩ := h.usages
  obtain ⟨opened, hloc, htaken, -⟩ := h.path
  have hnodes : (Context.nodes r.collection).length = nodesTaken abi i := by
    unfold HIDParser.collection Context.nodes nodesTaken
    rw [hvalue]
    split_ifs <;> rfl
  simp only [Context.Admits, htag] at hadm
  have hopen := hloc.open_full hstack (by rw [hlen]; exact hadm.1) (by
    rw [List.length_append, List.length_flatMap, htaken, hnodes]
    simpa using hfull)
  rw [dispatch_collection (by rw [hitem, i.head_tag, htag]), hopen]
  rfl

/-- The end of a collection takes its nodes off the path. -/
lemma Shifted.endCollection (h : Shifted bytes rest c taken r) (hitem : r.item = i.head)
    (htag : i.tag = .endCollection) (hadm : c.Admits abi i) :
    ∃ q, dispatch abi r = .ok (q, none) ∧ Shifted bytes rest (c.step abi i) taken.dropLast q := by
  obtain ⟨opened, hloc, htaken, hpages⟩ := h.path
  have hstep : c.step abi i = { c with opened := c.opened.dropLast, usages := [] } := by
    simp only [Context.step, htag]
  simp only [Context.Admits, htag] at hadm
  have hlen := congrArg List.length htaken
  rw [List.length_map, h.opened] at hlen
  obtain ⟨init, last, rfl⟩ : ∃ init last, opened = init ++ [last] := by
    refine ⟨_, _, (List.dropLast_append_getLast ?_).symm⟩
    rintro rfl
    exact hadm.2 (List.length_eq_zero_iff.mp hlen.symm)
  rw [List.flatMap_append, List.flatMap_singleton] at hloc
  have hpage : last.1.uPage ≠ 0xFF := by
    rw [hpages last (by simp)]
    decide
  obtain ⟨path, hclose, hloc'⟩ := hloc.close hpage
  have hdrop : taken.dropLast = init.map fun o => (Context.nodes o).length := by
    rw [← htaken, List.map_append, List.map_singleton, List.dropLast_concat]
  rw [hstep, hdrop]
  refine ⟨_, ?_, h.resetLocalState hloc' (fun o ho => hpages o (List.mem_append_left _ ho)) ?_⟩
  · rw [dispatch_endCollection (by rw [hitem, i.head_tag, htag]), hclose]
    rfl
  · rw [List.length_dropLast, ← hlen]
    simp

end Turns

/-- An item that declares no field, as long as the tables have room. -/
lemma Shifted.step (h : Shifted bytes rest c taken p) (hload : ¬ abi.LoadsItems)
    (hitem : p.item = i.head) (hvalue : p.value = abi.load i.data) (hadm : c.Admits abi i)
    (hdata : i.tag.isData = false) (hroom : i.tag = .usage → c.usages.length < usageTabSize)
    (hfit : (takenAfter abi taken i).sum ≤ pathSize) : ∃ q, dispatch abi p = .ok (q, none) ∧
      Shifted bytes rest (c.step abi i) (takenAfter abi taken i) q := by
  have hshift := load_shifted hload i.data_length_le
  unfold takenAfter at hfit ⊢
  cases htag : i.tag <;> rw [htag] at hdata
  case feature | input | output => cases hdata
  case long => exact absurd htag i.short.1
  case other => exact absurd htag i.short.2
  case usage => exact h.usage hload hitem hvalue htag hadm (hroom htag)
  case collection =>
    simp only [htag] at hfit ⊢
    exact h.collection hitem hvalue htag hadm hfit
  case endCollection => exact h.endCollection hitem htag hadm
  all_goals
    unfold dispatch Context.step
    rw [hitem, i.head_tag, htag]
    refine ⟨_, rfl, h.set ?_ rfl rfl⟩
  case uPage =>
    intro _
    dsimp only
    rw [hvalue]
    exact ushort_shifted hshift
  all_goals exact h.uPage

/-- The run over the items left: it ends unless the usages or the nodes do not fit. -/
lemma Shifted.emits (hload : ¬ abi.LoadsItems) {items : List Item} {c : Context}
    {taken : List ℕ} {p : HIDParser} (h : Shifted bytes (encodeItems items) c taken p)
    (hwf : WellFormed abi c items) (hnone : ∀ i ∈ items, i.tag.isData = false) :
    ∃ out, (parser abi).Emits p [] out ∧ ((∃ q, out = .ok q) ↔
      usagesAtEnd c.usages.length items ≤ usageTabSize ∧ PathFits abi taken items) := by
  induction items generalizing c taken p with
  | nil =>
      have hend := not_live_of_remaining h.holds h.remaining
      obtain ⟨usages, hstack, hlen, -⟩ := h.usages
      refine ⟨.ok p, .done hend, iff_of_true ⟨p, rfl⟩ ⟨?_, trivial⟩⟩
      rw [usagesAtEnd, ← hlen]
      exact hstack.queue.length_le
  | cons i items ih =>
      have h' : Shifted bytes (i.encode ++ encodeItems items) c taken p := h
      obtain ⟨hlive, r, hturn, hitem, hvalue, hr⟩ := h'.fetch abi
      have hdata := hnone i List.mem_cons_self
      have hstops : ∀ {e : Stop}, dispatch abi r = .error e →
          ¬ (usagesAtEnd c.usages.length (i :: items) ≤ usageTabSize ∧
            PathFits abi taken (i :: items)) →
          ∃ out, (parser abi).Emits p [] out ∧ ((∃ q, out = .ok q) ↔
            usagesAtEnd c.usages.length (i :: items) ≤ usageTabSize ∧
              PathFits abi taken (i :: items)) := by
        intro e he hnot
        refine ⟨.error e, .fail hlive (hturn.trans he), iff_of_false ?_ hnot⟩
        rintro ⟨q, hq⟩
        cases hq
      by_cases hroom : i.tag = .usage → c.usages.length < usageTabSize
      · by_cases hfit : (takenAfter abi taken i).sum ≤ pathSize
        · obtain ⟨q, hq, hnext⟩ := hr.step hload hitem hvalue hwf.1 hdata hroom hfit
          obtain ⟨out, hemits, hout⟩ := ih hnext hwf.2
            fun j hj => hnone j (List.mem_cons_of_mem _ hj)
          refine ⟨out, .silent hlive (hturn.trans hq) hemits, ?_⟩
          rw [hout, step_usages_length, usagesAtEnd, PathFits]
          tauto
        · -- only a collection puts nodes on the path
          have htag : i.tag = .collection := by
            have hle := h'.sum_le
            unfold takenAfter at hfit
            cases htag : i.tag <;> simp only [htag] at hfit
            case collection => rfl
            case endCollection =>
              have hdrop : taken.dropLast.sum ≤ taken.sum :=
                (List.dropLast_sublist taken).sum_le_sum fun _ _ => Nat.zero_le _
              omega
            all_goals omega
          have hfull : pathSize < (taken ++ [nodesTaken abi i]).sum := by
            simpa only [takenAfter, htag, Nat.not_le] using hfit
          apply hstops (hr.collection_full hitem hvalue htag hwf.1 hfull)
          rintro ⟨-, hfits, -⟩
          exact hfit hfits
      · obtain ⟨htag, hfull⟩ := Classical.not_imp.mp hroom
        obtain ⟨usages, hstack, hlen, -⟩ := hr.usages
        have hfail : dispatch abi r = .error .usageTab := by
          rw [dispatch_usage (by rw [hitem, i.head_tag, htag]),
            hstack.pushUsage_full (by rw [hlen]; exact hfull)]
          rfl
        obtain ⟨-, hmany⟩ := no_room htag hfull hwf
        exact hstops hfail fun hboth => hmany hboth.1

end Shifted

/-! ## The fields of a well-formed descriptor -/

section Fields

variable {abi : Abi}

lemma interpret_eq_nil {items : List Item} {c : Context}
    (h : ∀ i ∈ items, i.tag.isData = false) : interpret abi c items = [] := by
  induction items generalizing c with
  | nil => rfl
  | cons i items ih =>
      rw [interpret, ih fun j hj => h j (List.mem_cons_of_mem _ hj), Context.fields,
        h i List.mem_cons_self]
      rfl

/-- A data item declares a field, with a report ID. -/
lemma exists_field {items : List Item} {i : Item} (hi : i ∈ items) (hdata : i.tag.isData = true) :
    ∀ {c : Context}, c.Valid → WellFormed abi c items →
      ∃ f ∈ interpret abi c items, f.reportID ≠ 0 := by
  induction hi with
  | head items =>
      intro c hv hwf
      obtain ⟨-, -, hid, -, hcount, -⟩ := hwf.1.data hdata
      obtain ⟨id, hid⟩ := Option.isSome_iff_exists.mp hid
      obtain ⟨n, hcount⟩ := Option.isSome_iff_exists.mp hcount
      have hn := hv.reportCount n hcount
      refine ⟨c.field i 0, List.mem_append_left _ ?_, ?_⟩
      · rw [Context.fields, if_pos hdata, hcount]
        refine List.mem_map_of_mem (List.mem_range.mpr ?_)
        exact Nat.pos_of_ne_zero hn
      · show c.reportID.getD 0 ≠ 0
        rw [hid]
        exact hv.reportID id hid
  | tail j _ ih =>
      intro c hv hwf
      obtain ⟨f, hf, hne⟩ := ih (hv.step hwf.1) hwf.2
      exact ⟨f, List.mem_append_right _ hf, hne⟩

end Fields

/-! ## Delivery -/

section Delivery

variable {abi : Abi} {p : HIDParser} {items : List Item}

/-- Enumerating delivers the fields of the items, in order, until a call returns 0. -/
def Delivers (abi : Abi) (p : HIDParser) (items : List Item) : Prop :=
  ∃ objects q, enumerate abi (resetParser p) = (objects, .ok q) ∧
    objects.map HIDData.field = interpret abi .initial items

lemma delivers_loaded (hload : abi.LoadsItems) (hp : p.Holds (encodeItems items))
    (hwf : WellFormed abi .initial items) :
    Delivers abi p items ↔ usagesAtEnd 0 items ≤ usageTabSize := by
  obtain ⟨hfields, hend⟩ := enumerate_items hload hp hwf
  rw [← hend]
  constructor
  · rintro ⟨objects, q, heq, -⟩
    exact ⟨q, congrArg Prod.snd heq⟩
  · rintro ⟨q, hq⟩
    exact ⟨_, q, Prod.ext rfl hq, hfields⟩

lemma delivers_shifted (hload : ¬ abi.LoadsItems) (hp : p.Holds (encodeItems items))
    (hwf : WellFormed abi .initial items) : Delivers abi p items ↔
      (∀ i ∈ items, i.tag.isData = false) ∧
        usagesAtEnd 0 items ≤ usageTabSize ∧ PathFits abi [] items := by
  constructor
  · rintro ⟨objects, q, heq, hfields⟩
    have hzero : ∀ o ∈ objects, o.reportID = 0 := by
      have hall := ((parser_bounded abi).all_iff (resetParser_ready p)).mp heq
      intro o ho
      exact (emits_zero hload hall (resetParser_ready p) rfl rfl o ho).1
    have hnone : ∀ i ∈ items, i.tag.isData = false := by
      intro i hi
      by_contra hdata
      obtain ⟨f, hf, hne⟩ := exists_field hi (by simpa using hdata) initial_valid hwf
      rw [← hfields] at hf
      obtain ⟨o, ho, rfl⟩ := List.mem_map.mp hf
      exact hne (hzero o ho)
    obtain ⟨out, hemits, hout⟩ := (shifted_resetParser hp).emits hload hwf hnone
    have hall := ((parser_bounded abi).all_iff (resetParser_ready p)).mpr hemits
    refine ⟨hnone, hout.mp ⟨q, ?_⟩⟩
    exact congrArg Prod.snd (hall.symm.trans heq)
  · rintro ⟨hnone, hfits⟩
    obtain ⟨out, hemits, hout⟩ := (shifted_resetParser hp).emits hload hwf hnone
    have hall := ((parser_bounded abi).all_iff (resetParser_ready p)).mpr hemits
    obtain ⟨q, rfl⟩ := hout.mpr hfits
    exact ⟨[], q, hall, (interpret_eq_nil hnone).symm⟩

/-- **The parser delivers what the items of a well-formed descriptor mean exactly when at most 50
usages come after the last main item, and either the platform loads items or there is no field and
the nodes of the collections fit the path.** -/
theorem delivers_iff (hp : p.Holds (encodeItems items)) (hwf : WellFormed abi .initial items) :
    Delivers abi p items ↔ usagesAtEnd 0 items ≤ usageTabSize ∧ (abi.LoadsItems ∨
      (∀ i ∈ items, i.tag.isData = false) ∧ PathFits abi [] items) := by
  by_cases hload : abi.LoadsItems
  · rw [delivers_loaded hload hp hwf]
    exact (and_iff_left (.inl hload)).symm
  · rw [delivers_shifted hload hp hwf]
    tauto

end Delivery

/-- A collection with an index, and in it two fields of one item in report 1. -/
def twoFields : List Item :=
  [.of .uPage [0x84], .of .usage [0x04], .of .collection [0x81], .of .repId [0x01],
    .of .repSize [0x08], .of .repCount [0x02], .of .logMax [0xFF, 0x00], .of .usage [0x24],
    .of .usage [0x5A, 0x00, 0x85, 0x00], .of .usage [0x25], .of .feature [0x02],
    .of .endCollection []]

/-- `delivers_iff` for these items. -/
theorem delivers_iff_twoFields :
    Delivers (.little .w64 true) (.holding (encodeItems twoFields)) twoFields :=
  (delivers_iff (holding_holds (by decide +kernel)) (by decide +kernel)).mpr
    ⟨by decide +kernel, .inl (.inl rfl)⟩

/-- The same items, and 51 usages after them. -/
def usagesLast : List Item := twoFields ++ List.replicate 51 (.of .usage [0x01])

/-- Not every well-formed descriptor is enumerated to its end: 51 usages after the last collection
do not fit the usage table. -/
theorem delivers_fails : ¬ ∀ (abi : Abi) (p : HIDParser) (items : List Item), abi.LoadsItems →
    p.Holds (encodeItems items) → WellFormed abi .initial items → Delivers abi p items := by
  intro hall
  have hstop : (enumerate (.little .w64 true) (resetParser
      (.holding (encodeItems usagesLast)))).2.isOk = false := by
    decide +kernel
  obtain ⟨objects, q, heq, -⟩ := hall (.little .w64 true) _ usagesLast (.inl rfl)
    (holding_holds (by decide +kernel)) (by decide +kernel)
  rw [heq] at hstop
  cases hstop

end Libhid
