import Libhid.Parser.Follows

/-!
# The parser follows the items

Each item is matched by the turns the parser makes for it (`item_steps`), a data item by one turn
for each of its fields (`Expanding.steps`), and from them the run over a whole descriptor
(`enumerate_items`).
-/

namespace Libhid

open Framework

section Items

variable {abi : Abi} {bytes rest : List UInt8} {c : Context} {p q : HIDParser} {i : Item}

/-- The turn that fetches an item, and what it finds then. -/
lemma Reached.fetch (h : Reached bytes (i.encode ++ rest) c p) (hload : abi.LoadsItems) :
    p.live = true ∧ ∃ r, parseTurn abi p = dispatch abi r ∧ r.item = i.head ∧
      r.value = i.value abi ∧ Reached bytes rest c r := by
  obtain ⟨hlive, hturn, hvalue, hnext⟩ := h.holds.fetch_item abi h.remaining h.idle
  refine ⟨hlive, p.fetched abi i.head, hturn, rfl, ?_, ?_⟩
  · rw [hvalue]
    exact abi.load_eq hload i.data_length_le
  · exact ⟨⟨h.holds.size, h.holds.desc⟩, hnext, h.idle, { h.follows.globals with },
      h.follows.usages, h.follows.path, h.follows.reports⟩

/-- The parser between two items moves to between the next two, without an object. -/
def Moves (abi : Abi) (bytes rest : List UInt8) (c : Context) (r : HIDParser) : Prop :=
  ∃ q, dispatch abi r = .ok (q, none) ∧ Reached bytes rest c q

/-- Setting globals leaves the local state where it is. -/
lemma Reached.set {d : Context} (h : Reached bytes rest c p) (hg : Globals d q)
    (hq : (q.reportDesc, q.reportDescSize, q.pos, q.count, q.usageTab, q.usageSize, q.data.path,
      q.offsetTab) = (p.reportDesc, p.reportDescSize, p.pos, p.count, p.usageTab, p.usageSize,
      p.data.path, p.offsetTab))
    (hd : (d.usages, d.path, d.reports, d.bits) = (c.usages, c.path, c.reports, c.bits)) :
    Reached bytes rest d q := by
  simp only [Prod.mk.injEq] at hq hd
  obtain ⟨hdesc, hsize, hpos, hcount, htab, husize, hpath, hoffset⟩ := hq
  obtain ⟨husages, hnodes, hreports, hbits⟩ := hd
  refine ⟨⟨?_, ?_⟩, ?_, ?_, hg, ?_, ?_, ?_⟩
  · rw [hsize]
    exact h.holds.size
  · rw [hdesc]
    exact h.holds.desc
  · rw [HIDParser.remaining, hpos]
    exact h.remaining
  · rw [hcount]
    exact h.idle
  · rw [husages, htab, husize]
    exact h.follows.usages
  · rw [hnodes, hpath]
    exact h.follows.path
  · rw [hreports, hbits, hoffset]
    exact h.follows.reports

/-- A global item sets what it is about. -/
lemma Reached.global (h : Reached bytes rest c p) (hitem : p.item = i.head)
    (hvalue : p.value = i.value abi) (hadm : c.Admits abi i) (hmain : i.tag.isMain = false)
    (husage : i.tag ≠ .usage) : Moves abi bytes rest (c.step abi i) p := by
  obtain ⟨h₁, h₂, h₃, h₄, h₅, h₆, h₇, h₈, h₉, h₁₀⟩ := h.follows.globals
  have hbyte : i.number ≤ 255 → (uchar (i.value abi)).toNat = i.number := by
    intro hle
    rw [Item.value, uchar_toLong, UInt8.toNat_ofNat']
    exact Nat.mod_eq_of_lt (by omega)
  unfold Moves dispatch Context.step
  rw [hitem, hvalue, i.head_tag, i.head_size]
  cases htag : i.tag <;> rw [htag] at hmain husage
  case collection | endCollection | feature | input | output => cases hmain
  case usage => exact absurd rfl husage
  case long => exact absurd htag i.short.1
  case other => exact absurd htag i.short.2
  case uPage =>
    refine ⟨_, rfl, h.set ⟨?_, h₂, h₃, h₄, h₅, h₆, h₇, h₈, h₉, h₁₀⟩ rfl rfl⟩
    rintro u ⟨⟩
    exact ushort_toLong abi i.number
  case repId =>
    refine ⟨_, rfl, h.set ⟨h₁, ?_, h₃, h₄, h₅, h₆, h₇, h₈, h₉, h₁₀⟩ rfl rfl⟩
    rintro id ⟨⟩
    exact uchar_toLong abi i.number
  case repSize =>
    simp only [Context.Admits, htag] at hadm
    refine ⟨_, rfl, h.set ⟨h₁, h₂, ?_, h₄, h₅, h₆, h₇, h₈, h₉, h₁₀⟩ rfl rfl⟩
    rintro n ⟨⟩
    exact hbyte hadm.2
  case repCount =>
    simp only [Context.Admits, htag] at hadm
    refine ⟨_, rfl, h.set ⟨h₁, h₂, h₃, ?_, h₅, h₆, h₇, h₈, h₉, h₁₀⟩ rfl rfl⟩
    rintro n ⟨⟩
    exact hbyte hadm.2
  case unitExp => exact ⟨_, rfl, h.set ⟨h₁, h₂, h₃, h₄, h₅, rfl, h₇, h₈, h₉, h₁₀⟩ rfl rfl⟩
  case unit => exact ⟨_, rfl, h.set ⟨h₁, h₂, h₃, h₄, rfl, h₆, h₇, h₈, h₉, h₁₀⟩ rfl rfl⟩
  case logMin => exact ⟨_, rfl, h.set ⟨h₁, h₂, h₃, h₄, h₅, h₆, rfl, h₈, h₉, h₁₀⟩ rfl rfl⟩
  case logMax => exact ⟨_, rfl, h.set ⟨h₁, h₂, h₃, h₄, h₅, h₆, h₇, rfl, h₉, h₁₀⟩ rfl rfl⟩
  case phyMin => exact ⟨_, rfl, h.set ⟨h₁, h₂, h₃, h₄, h₅, h₆, h₇, h₈, rfl, h₁₀⟩ rfl rfl⟩
  case phyMax => exact ⟨_, rfl, h.set ⟨h₁, h₂, h₃, h₄, h₅, h₆, h₇, h₈, h₉, rfl⟩ rfl rfl⟩

lemma usageNode_eq (h : Follows c p) (hitem : p.item = i.head) (hvalue : p.value = i.value abi)
    (hpage : i.data.length < 4 → c.uPage.isSome = true) : usageNode p = c.usage i := by
  have hlow : ushort (i.value abi % 65536) = UInt16.ofNat (i.number % 65536) := by
    apply ushort_toLong_emod abi i.number
    cases abi.longWidth <;> decide
  have hhigh : ushort (i.value abi / 65536) = UInt16.ofNat (i.number / 65536) :=
    ushort_toLong_div abi i.number
  unfold usageNode Context.usage
  rw [hitem, hvalue, hlow, hhigh]
  by_cases h4 : i.data.length = 4
  · rw [if_pos (i.head_four.mpr h4), if_pos h4]
  · rw [if_neg (fun hgt => h4 (i.head_four.mp hgt)), if_neg h4]
    have hsome := hpage (Nat.lt_of_le_of_ne i.data_length_le h4)
    obtain ⟨u, hu⟩ := Option.isSome_iff_exists.mp hsome
    rw [h.globals.uPage u hu, hu]
    rfl

/-- A usage is stacked, if the table has room. -/
lemma Reached.usage (h : Reached bytes rest c p) (hitem : p.item = i.head)
    (hvalue : p.value = i.value abi) (htag : i.tag = .usage) (hadm : c.Admits abi i)
    (hroom : c.usages.length < usageTabSize) : Moves abi bytes rest (c.step abi i) p := by
  have husages := h.follows.usages
  have hlt : p.usageSize.toNat < usageTabSize := by rwa [husages.size]
  have hstep : c.step abi i = { c with usages := c.usages ++ [c.usage i] } := by
    simp only [Context.step, htag]
  simp only [Context.Admits, htag] at hadm
  have hg := h.follows.globals
  refine ⟨{ p with
    usageTab := p.usageTab.set p.usageSize.toNat (usageNode p)
    usageSize := p.usageSize + 1 }, ?_, ?_⟩
  · rw [dispatch_usage (by rw [hitem, i.head_tag, htag]), pushUsage, dif_pos hlt]
    rfl
  · rw [hstep]
    refine ⟨⟨h.holds.size, h.holds.desc⟩, h.remaining, h.idle, { hg with }, ?_, h.follows.path,
      h.follows.reports⟩
    rw [← usageNode_eq h.follows hitem hvalue hadm]
    exact husages.push hlt _

/-- A main item leaves no usages, whatever it does to the path. -/
lemma Reached.resetLocalState {opened : List (HIDNode × Option UInt16)} {path : HIDPath}
    (h : Reached bytes rest c p) (hpath : Located (opened.flatMap Context.nodes) path) :
    Reached bytes rest { c with opened := opened, usages := [] }
      (Libhid.resetLocalState { p with data := { p.data with path := path } }) := by
  have hg := h.follows.globals
  exact ⟨⟨h.holds.size, h.holds.desc⟩, h.remaining, h.idle, { hg with }, .nil, hpath,
    h.follows.reports⟩

/-- A collection puts its usage and its index behind the path. -/
lemma Reached.collection (h : Reached bytes rest c p) (hitem : p.item = i.head)
    (hvalue : p.value = i.value abi) (htag : i.tag = .collection) (hadm : c.Admits abi i) :
    Moves abi bytes rest (c.step abi i) p := by
  have hstep : c.step abi i = { c with
      opened := c.opened ++ [c.collection abi i], usages := [] } := by
    simp only [Context.step, htag]
  simp only [Context.Admits, htag, hstep] at hadm
  obtain ⟨husages, -, hlen⟩ := hadm
  have hnodes : (c.opened ++ [c.collection abi i]).flatMap Context.nodes =
      c.path ++ Context.nodes (c.collection abi i) := by
    rw [List.flatMap_append, List.flatMap_singleton]
    rfl
  rw [Context.path, hnodes] at hlen
  have hushort : ushort (i.value abi % 0x80) = UInt16.ofNat (i.number % 0x80) := by
    apply ushort_toLong_emod abi i.number
    cases abi.longWidth <;> decide
  have hcollection : p.collection = c.collection abi i := by
    have hfirst : p.firstUsage = c.usages.headD .zero := h.follows.usages.first
    rw [HIDParser.collection, hfirst, hvalue, hushort]
    rfl
  rw [← hcollection] at hnodes hlen
  obtain ⟨path, hopen, hloc⟩ := h.follows.path.open_ h.follows.usages husages
    (Nat.le_succ_of_le hlen)
  rw [← hnodes, hcollection] at hloc
  rw [hstep]
  refine ⟨_, ?_, h.resetLocalState hloc⟩
  rw [dispatch_collection (by rw [hitem, i.head_tag, htag]), hopen]
  rfl

/-- The end of a collection takes its usage and its index off the path. -/
lemma Reached.endCollection (h : Reached bytes rest c p) (hitem : p.item = i.head)
    (htag : i.tag = .endCollection) (hv : c.Valid) (hadm : c.Admits abi i) :
    Moves abi bytes rest (c.step abi i) p := by
  have hstep : c.step abi i = { c with opened := c.opened.dropLast, usages := [] } := by
    simp only [Context.step, htag]
  simp only [Context.Admits, htag] at hadm
  obtain ⟨init, last, hopened⟩ : ∃ init last, c.opened = init ++ [last] :=
    ⟨_, _, (List.dropLast_append_getLast hadm.2).symm⟩
  have hpage : last.1.uPage ≠ 0xFF := hv.opened last (by rw [hopened]; simp)
  have hpath : c.path = init.flatMap Context.nodes ++ Context.nodes last := by
    rw [Context.path, hopened, List.flatMap_append, List.flatMap_singleton]
  have hloc := h.follows.path
  rw [hpath] at hloc
  obtain ⟨path, hclose, hloc'⟩ := hloc.close hpage
  rw [hstep, hopened, List.dropLast_concat]
  refine ⟨_, ?_, h.resetLocalState hloc'⟩
  rw [dispatch_endCollection (by rw [hitem, i.head_tag, htag]), hclose]
  rfl

/-! ### Data items -/

/-- The context has what `m` more fields of a data item need. -/
structure Declares (c : Context) (i : Item) (m : ℕ) : Prop where
  usages : c.usages.length ≤ 49
  le_usages : m ≤ c.usages.length
  path : c.path.length ≤ 9
  reportID : ∃ id, c.reportID = some id ∧ id ≠ 0
  reportSize : ∃ n, c.reportSize = some n
  reports : (insert (c.report i) c.reports).card ≤ maxReport
  bits : c.bits (c.report i) + m * c.reportSize.getD 0 ≤ 255

/-- In the middle of a data item, with `m` of its fields to come. -/
structure Expanding (abi : Abi) (bytes rest : List UInt8) (c : Context) (i : Item) (p : HIDParser)
    (m : ℕ) : Prop where
  holds : p.Holds bytes
  remaining : p.remaining bytes = rest
  item : p.item = i.head
  value : p.value = i.value abi
  count : p.count.toNat = m
  follows : Follows c p

lemma Declares.advance {m : ℕ} (h : Declares c i (m + 1)) : Declares (c.advance i 1) i m := by
  obtain ⟨husages, hle, hpath, hid, hsize, hreports, hbits⟩ := h
  have hreport : (c.advance i 1).report i = c.report i := rfl
  refine ⟨?_, ?_, hpath, hid, hsize, ?_, ?_⟩
  · show (c.usages.drop 1).length ≤ 49
    rw [List.length_drop]
    omega
  · show m ≤ (c.usages.drop 1).length
    rw [List.length_drop]
    omega
  · rw [hreport]
    show (insert (c.report i) (insert (c.report i) c.reports)).card ≤ maxReport
    rwa [Finset.insert_idem]
  · rw [hreport]
    show Function.update c.bits (c.report i) _ (c.report i) + m * c.reportSize.getD 0 ≤ 255
    rw [Function.update_self]
    rw [Nat.add_mul] at hbits
    omega

/-- One turn of a data item delivers its next field. -/
lemma Expanding.object {m : ℕ} (h : Expanding abi bytes rest c i p (m + 1))
    (hd : Declares c i (m + 1)) : ∃ q o, dataItem p = .ok (q, o) ∧ o.field = c.field i 0 ∧
      (m = 0 → Reached bytes rest { c.advance i 1 with usages := [] } q) ∧
      (m ≠ 0 → Expanding abi bytes rest (c.advance i 1) i q m) := by
  obtain ⟨id, hid, hne⟩ := hd.reportID
  obtain ⟨n, hn⟩ := hd.reportSize
  have hg := h.follows.globals
  have hpid := hg.reportID id hid
  have hsize := hg.reportSize n hn
  have hkey : p.reportKey = c.report i := by
    rw [HIDParser.reportKey, Context.report, hpid, hid, h.item, i.head_mask]
    rfl
  -- the parts of the turn
  obtain ⟨path, hpush, hloc, hback⟩ := h.follows.path.push hd.path p.firstUsage
  obtain ⟨tab, size, hun, hstack⟩ := h.follows.usages.unstack hd.usages
  obtain ⟨pos, hprobe, hbits⟩ := h.follows.reports.probe hd.reports
  rw [← hkey] at hprobe
  obtain ⟨q, o, hdata⟩ := dataItem_total hpush hun hprobe
  obtain ⟨pos', k, tab', size', hroom, hun', hfound, hobj, hq⟩ := (dataItem_ok hdata).some
  obtain rfl : pos = pos' := Option.some.inj (hprobe.symm.trans hfound)
  obtain ⟨rfl, rfl⟩ : tab = tab' ∧ size = size' := by
    rw [hun] at hun'
    cases hun'
    exact ⟨rfl, rfl⟩
  obtain ⟨hroom', rfl⟩ := pushNode_ok hpush
  -- what the turn leaves, before the local state is reset
  have hcount : (p.afterObject o pos k tab size).count.toNat = m := by
    have hne : p.count ≠ 0 := toNat_ne_zero8.mpr (by rw [h.count]; exact Nat.succ_pos m)
    show ((if p.count = 0 then p.reportCount else p.count) - 1).toNat = m
    rw [if_neg hne, toNat_sub_one8 (toNat_ne_zero8.mp hne), h.count]
    rfl
  have htally : Tallied (c.advance i 1).reports (c.advance i 1).bits
      (p.afterObject o pos k tab size).offsetTab := by
    have hcounted := h.follows.reports.count p.data.size (hkey ▸ hprobe)
      (by rw [Context.report, hid]; exact hne)
      (by
        have hb := hd.bits
        rw [hn, Option.getD_some, ← hsize, Nat.add_mul] at hb
        omega)
    rw [← hkey] at hcounted
    show Tallied (insert (c.report i) c.reports) (Function.update c.bits (c.report i) _)
      (p.offsetTab.set pos _ pos.isLt)
    rw [← hkey, hn, Option.getD_some, ← hsize, Nat.one_mul]
    exact hcounted
  have hlocated : Located c.path (p.afterObject o pos k tab size).data.path := by
    have hshort := hloc.shorten h.follows.path.size
    rw [hobj]
    exact hshort
  have hglobals : Globals (c.advance i 1) (p.afterObject o pos k tab size) := by
    rw [hobj]
    exact { hg with }
  refine ⟨q, o, hdata, ?_, fun hm => ?_, fun hm => ?_⟩
  · have hnodes := hloc.eq_nodes
    have hfirst : p.firstUsage = c.usages.getD 0 .zero := h.follows.usages.queue.get 0 (by decide)
    have hkeys : c.bits (c.report i) = (rowBits (p.offsetTab.get pos)).toNat := hbits.symm
    rw [hobj, HIDData.field, Context.field, hkeys, hn, hid, ← hfirst, ← hnodes, h.item, h.value,
      i.head_mask, Item.value, uchar_toLong, hpid, hsize, hg.unit, hg.unitExp, hg.logMin, hg.logMax,
      hg.phyMin, hg.phyMax, Nat.zero_mul]
    rfl
  · have hzero : (p.afterObject o pos k tab size).count = 0 := by
      rw [← UInt8.toNat_inj, hcount, hm]
      rfl
    dsimp only at hq
    rw [if_pos hzero] at hq
    subst hq
    exact ⟨⟨h.holds.size, h.holds.desc⟩, h.remaining, hzero, { hglobals with }, .nil, hlocated,
      htally⟩
  · have hpos : ¬ (p.afterObject o pos k tab size).count = 0 := by
      rw [← UInt8.toNat_inj, hcount]
      exact hm
    dsimp only at hq
    rw [if_neg hpos] at hq
    subst hq
    refine ⟨⟨h.holds.size, h.holds.desc⟩, h.remaining, h.item, h.value, hcount, hglobals, ?_,
      hlocated, htally⟩
    show Stacked (c.usages.drop 1) tab size
    rw [List.drop_one]
    exact hstack

lemma field_advance (c : Context) (i : Item) (k : ℕ) :
    (c.advance i 1).field i k = c.field i (k + 1) := by
  have hbits : (c.advance i 1).bits (c.report i) + k * c.reportSize.getD 0 =
      c.bits (c.report i) + (k + 1) * c.reportSize.getD 0 := by
    show Function.update c.bits (c.report i) _ (c.report i) + _ = _
    rw [Function.update_self, Nat.add_mul, Nat.add_assoc, Nat.add_comm (1 * _)]
  have husage : (c.usages.drop 1).getD k .zero = c.usages.getD (k + 1) .zero := by
    rw [List.getD_eq_getElem?_getD, List.getElem?_drop, Nat.add_comm 1 k,
      List.getD_eq_getElem?_getD]
  unfold Context.field
  rw [← hbits, ← husage]
  rfl

lemma advance_advance (c : Context) (i : Item) (m : ℕ) :
    (c.advance i 1).advance i m = c.advance i (m + 1) := by
  have hreport : (c.advance i 1).report i = c.report i := rfl
  unfold Context.advance at *
  rw [hreport]
  dsimp only
  rw [List.drop_drop, Finset.insert_idem, Function.update_idem, Function.update_self,
    Nat.add_comm 1 m, Nat.add_assoc, ← Nat.add_mul, Nat.add_comm 1 m]

lemma parseTurn_data (abi : Abi) (hdata : (Tag.ofItem p.item).isData = true) (hcount : p.count ≠ 0)
    {o : HIDData} (h : dataItem p = .ok (q, o)) : parseTurn abi p = .ok (q, some o) := by
  unfold parseTurn nextItem
  rw [if_neg hcount, except_ok_bind, dispatch_data hdata, h]
  rfl

/-- The turns of a data item deliver its fields one by one. -/
lemma Expanding.steps (hdata : i.tag.isData = true) (hrest : rest ≠ []) :
    ∀ {m : ℕ} {c : Context} {p : HIDParser}, Expanding abi bytes rest c i p (m + 1) →
      Declares c i (m + 1) → ∃ objects q, (parser abi).Steps p objects q ∧ objects ≠ [] ∧
        objects.map HIDData.field = (List.range (m + 1)).map (c.field i) ∧
        Reached bytes rest { c.advance i (m + 1) with usages := [] } q := by
  intro m
  induction m with
  | zero =>
      intro c p h hd
      obtain ⟨q, o, hitem, hfield, hlast, -⟩ := h.object hd
      have hturn := parseTurn_data abi (by rw [h.item, i.head_tag]; exact hdata)
        (toNat_ne_zero8.mpr (by rw [h.count]; exact Nat.succ_pos 0)) hitem
      have hlive := live_of_remaining h.holds (by rw [h.remaining]; exact hrest)
      exact ⟨[o], q, .emit hlive hturn (.refl q), by simp, by simp [hfield], hlast rfl⟩
  | succ m ih =>
      intro c p h hd
      obtain ⟨q, o, hitem, hfield, -, hnext⟩ := h.object hd
      have hturn := parseTurn_data abi (by rw [h.item, i.head_tag]; exact hdata)
        (toNat_ne_zero8.mpr (by rw [h.count]; exact Nat.succ_pos _)) hitem
      have hlive := live_of_remaining h.holds (by rw [h.remaining]; exact hrest)
      obtain ⟨objects, t, hsteps, -, hfields, hreached⟩ :=
        ih (hnext (Nat.succ_ne_zero m)) hd.advance
      refine ⟨o :: objects, t, .emit hlive hturn hsteps, by simp, ?_, ?_⟩
      · rw [List.map_cons, hfields, hfield, List.range_succ_eq_map (n := m + 1), List.map_cons,
          List.map_map]
        refine congrArg _ (List.map_congr_left fun k _ => ?_)
        exact field_advance c i k
      · rwa [advance_advance] at hreached

/-- What a data item needs of its context. -/
lemma Context.Admits.data (hadm : c.Admits abi i) (hdata : i.tag.isData = true) :
    c.usages.length ≤ 49 ∧ c.opened ≠ [] ∧ c.reportID.isSome = true ∧
      c.reportSize.isSome = true ∧ c.reportCount.isSome = true ∧
      c.reportCount.getD 0 ≤ c.usages.length ∧ (c.step abi i).reports.card ≤ maxReport ∧
      (c.step abi i).bits (c.report i) ≤ 255 := by
  unfold Context.Admits at hadm
  cases htag : i.tag <;> rw [htag] at hdata hadm
  case feature | input | output => exact hadm
  all_goals cases hdata

lemma dataItem_first (hcount : p.count = 0) :
    dataItem p = dataItem { p with count := p.reportCount } := by
  simp only [dataItem, HIDParser.firstUsage, if_pos hcount, ite_self]

/-- A data item that was just fetched is expanded to the fields it declares. -/
lemma Reached.data {r : HIDParser} (h : Reached bytes rest c r) (hitem : r.item = i.head)
    (hvalue : r.value = i.value abi) (hdata : i.tag.isData = true) (hv : c.Valid)
    (hadm : c.Admits abi i) (hrest : rest ≠ []) (hlive : p.live = true)
    (hturn : parseTurn abi p = dispatch abi r) :
    ∃ objects q, (parser abi).Steps p objects q ∧ objects.map HIDData.field = c.fields i ∧
      Reached bytes rest (c.step abi i) q := by
  have hstep : c.step abi i = { c.advance i (c.reportCount.getD 0) with usages := [] } := by
    unfold Context.step
    cases htag : i.tag <;> rw [htag] at hdata <;> first | rfl | cases hdata
  obtain ⟨husages, -, hid, hsize, hcount, hle, hreports, hbits⟩ := hadm.data hdata
  obtain ⟨id, hid⟩ := Option.isSome_iff_exists.mp hid
  obtain ⟨size, hsize⟩ := Option.isSome_iff_exists.mp hsize
  obtain ⟨n, hcount⟩ := Option.isSome_iff_exists.mp hcount
  rw [hcount, Option.getD_some] at hle
  rw [hstep, hcount, Option.getD_some] at hreports hbits ⊢
  have hn : r.reportCount.toNat = n := h.follows.globals.reportCount n hcount
  obtain ⟨m, rfl⟩ : ∃ m, n = m + 1 := Nat.exists_eq_succ_of_ne_zero (hv.reportCount n hcount)
  -- the first turn is the turn of an item with all its fields to come
  have hfirst : Expanding abi bytes rest c i { r with count := r.reportCount } (m + 1) :=
    ⟨⟨h.holds.size, h.holds.desc⟩, h.remaining, hitem, hvalue, hn, { h.follows.globals with },
      h.follows.usages, h.follows.path, h.follows.reports⟩
  have hdeclares : Declares c i (m + 1) := by
    refine ⟨husages, hle, hv.path, ⟨id, hid, hv.reportID id hid⟩, ⟨size, hsize⟩, hreports, ?_⟩
    have hupdate : Function.update c.bits (c.report i) (c.bits (c.report i) +
        (m + 1) * c.reportSize.getD 0) (c.report i) ≤ 255 := hbits
    rwa [Function.update_self] at hupdate
  obtain ⟨objects, q, hsteps, hne, hfields, hreached⟩ := hfirst.steps hdata hrest hdeclares
  have htag : (Tag.ofItem r.item).isData = true := by rw [hitem, i.head_tag]; exact hdata
  have hbody : parseTurn abi p = parseTurn abi { r with count := r.reportCount } := by
    have hne : r.reportCount ≠ 0 := toNat_ne_zero8.mpr (by rw [hn]; exact Nat.succ_pos m)
    unfold parseTurn nextItem at hturn ⊢
    rw [hturn, if_neg hne, except_ok_bind, dispatch_data htag,
      dispatch_data (p := { r with count := r.reportCount }) htag, dataItem_first h.idle]
  refine ⟨objects, q, hsteps.of_body_eq hne hlive hbody, ?_, hreached⟩
  rw [hfields, Context.fields, if_pos hdata, hcount, Option.getD_some]

/-! ### Every item -/

/-- **The turns the parser makes for an item are what the item means.** -/
theorem item_steps (h : Reached bytes (i.encode ++ rest) c p) (hload : abi.LoadsItems)
    (hv : c.Valid) (hadm : c.Admits abi i)
    (hroom : i.tag = .usage → c.usages.length < usageTabSize)
    (hrest : i.tag.isData = true → rest ≠ []) :
    ∃ objects q, (parser abi).Steps p objects q ∧ objects.map HIDData.field = c.fields i ∧
      Reached bytes rest (c.step abi i) q := by
  obtain ⟨hlive, r, hturn, hitem, hvalue, hr⟩ := h.fetch hload
  by_cases hdata : i.tag.isData = true
  · exact hr.data hitem hvalue hdata hv hadm (hrest hdata) hlive hturn
  · have hmoves : Moves abi bytes rest (c.step abi i) r := by
      cases htag : i.tag
      case usage => exact hr.usage hitem hvalue htag hadm (hroom htag)
      case collection => exact hr.collection hitem hvalue htag hadm
      case endCollection => exact hr.endCollection hitem htag hv hadm
      case feature | input | output =>
        rw [htag] at hdata
        exact absurd rfl hdata
      all_goals exact hr.global hitem hvalue hadm (by rw [htag]; rfl) (by rw [htag]; decide)
    obtain ⟨q, hq, hreached⟩ := hmoves
    refine ⟨[], q, .silent hlive (hturn.trans hq) (.refl q), ?_, hreached⟩
    rw [Context.fields, if_neg hdata]
    rfl

lemma Context.Valid.step (hv : c.Valid) (hadm : c.Admits abi i) : (c.step abi i).Valid := by
  unfold Context.Admits at hadm
  unfold Context.step at hadm ⊢
  cases htag : i.tag <;> simp only [htag] at hadm ⊢
  case collection =>
    obtain ⟨-, hpage, hlen⟩ := hadm
    refine ⟨fun d hd => ?_, hlen, hv.reportID, hv.reportCount⟩
    rcases List.mem_append.mp hd with hd | hd
    · exact hv.opened d hd
    · rw [List.mem_singleton.mp hd]
      exact hpage
  case endCollection =>
    refine ⟨fun d hd => hv.opened d (List.mem_of_mem_dropLast hd), ?_, hv.reportID, hv.reportCount⟩
    have hpath : c.path = c.opened.dropLast.flatMap Context.nodes ++
        Context.nodes (c.opened.getLast hadm.2) := by
      rw [← List.flatMap_singleton Context.nodes, ← List.flatMap_append,
        List.dropLast_append_getLast]
      rfl
    have hlen := hv.path
    rw [hpath, List.length_append] at hlen
    exact Nat.le_trans (Nat.le_add_right _ _) hlen
  case repId =>
    refine ⟨hv.opened, hv.path, ?_, hv.reportCount⟩
    rintro id ⟨⟩ hzero
    have hnum := congrArg UInt8.toNat hzero
    rw [UInt8.toNat_ofNat'] at hnum
    simp at hnum
    omega
  case repCount =>
    refine ⟨hv.opened, hv.path, hv.reportID, ?_⟩
    rintro n ⟨⟩
    omega
  all_goals exact ⟨hv.opened, hv.path, hv.reportID, hv.reportCount⟩

/-- The usages pending after an item. -/
lemma step_usages_length (abi : Abi) (c : Context) (i : Item) : (c.step abi i).usages.length =
    if i.tag.isMain then 0 else if i.tag = .usage then c.usages.length + 1
      else c.usages.length := by
  unfold Context.step
  cases htag : i.tag <;> simp [Tag.isMain]

/-! ### Whole descriptors -/

/-- Where too many usages are pending for a main item, none follows. -/
lemma no_main_item {items : List Item} {c : Context} (hwf : WellFormed abi c items)
    (hlt : 49 < c.usages.length) :
    interpret abi c items = [] ∧ c.usages.length ≤ usagesAtEnd c.usages.length items := by
  induction items generalizing c with
  | nil => exact ⟨rfl, Nat.le_refl _⟩
  | cons i items ih =>
      obtain ⟨hadm, hwf⟩ := hwf
      have hmain : i.tag.isMain = false := by
        unfold Context.Admits at hadm
        cases htag : i.tag <;> simp only [htag] at hadm
        case collection | endCollection | feature | input | output => omega
        all_goals rfl
      have hdata : i.tag.isData = false := by
        cases htag : i.tag <;> rw [htag] at hmain <;> first | rfl | cases hmain
      have hlen := step_usages_length abi c i
      rw [hmain] at hlen
      have hle : c.usages.length ≤ (c.step abi i).usages.length := by
        rw [hlen]
        simp only [Bool.false_eq_true, if_false]
        split_ifs <;> omega
      obtain ⟨hnone, hmore⟩ := ih hwf (by omega)
      refine ⟨?_, ?_⟩
      · rw [interpret, hnone, Context.fields, hdata]
        rfl
      · rw [usagesAtEnd, hmain, ← hlen]
        omega

/-- A usage that the table has no room for is one of too many that come last. -/
lemma no_room {items : List Item} (htag : i.tag = .usage)
    (hfull : ¬ c.usages.length < usageTabSize) (hwf : WellFormed abi c (i :: items)) :
    interpret abi c (i :: items) = [] ∧
      ¬ usagesAtEnd c.usages.length (i :: items) ≤ usageTabSize := by
  have hsize : usageTabSize = 50 := rfl
  have hlen := step_usages_length abi c i
  rw [htag, show Tag.usage.isMain = false from rfl] at hlen
  simp only [Bool.false_eq_true, if_false, if_true] at hlen
  obtain ⟨hnone, -⟩ := no_main_item hwf (by omega)
  obtain ⟨-, hmore⟩ := no_main_item hwf.2 (by omega)
  refine ⟨hnone, ?_⟩
  rw [usagesAtEnd, ← step_usages_length abi c i]
  omega

lemma opened_of_data (hdata : i.tag.isData = true) (hadm : c.Admits abi i) :
    (c.step abi i).opened ≠ [] := by
  have hopened := (hadm.data hdata).2.1
  unfold Context.step
  cases htag : i.tag <;> rw [htag] at hdata
  case feature | input | output => exact hopened
  all_goals cases hdata

/-- The run of the parser over the items left: it delivers their fields, and ends unless too many
usages come last. -/
lemma Reached.emits (hload : abi.LoadsItems) {items : List Item} {c : Context} {p : HIDParser}
    (h : Reached bytes (encodeItems items) c p) (hv : c.Valid) (hwf : WellFormed abi c items) :
    ∃ objects out, (parser abi).Emits p objects out ∧
      objects.map HIDData.field = interpret abi c items ∧
      ((∃ q, out = .ok q) ↔ usagesAtEnd c.usages.length items ≤ usageTabSize) := by
  induction items generalizing c p with
  | nil =>
      have hend := not_live_of_remaining h.holds h.remaining
      exact ⟨[], .ok p, .done hend, rfl,
        iff_of_true ⟨p, rfl⟩ h.follows.usages.queue.length_le⟩
  | cons i items ih =>
      have h' : Reached bytes (i.encode ++ encodeItems items) c p := h
      obtain ⟨hadm, hwf'⟩ := hwf
      by_cases hroom : i.tag = .usage → c.usages.length < usageTabSize
      · have hrest : i.tag.isData = true → encodeItems items ≠ [] := by
          intro hdata
          cases items with
          | nil => exact absurd hwf' (opened_of_data hdata hadm)
          | cons j items => simp [encodeItems, Item.encode]
        obtain ⟨objects, q, hsteps, hfields, hreached⟩ := item_steps h' hload hv hadm hroom hrest
        obtain ⟨objects', out, hemits, hfields', hout⟩ := ih hreached (hv.step hadm) hwf'
        refine ⟨objects ++ objects', out, hsteps.emits hemits, ?_, ?_⟩
        · rw [List.map_append, hfields, hfields', interpret]
        · rw [hout, step_usages_length, usagesAtEnd]
      · -- a usage that the table has no room for
        obtain ⟨htag, hfull⟩ := Classical.not_imp.mp hroom
        obtain ⟨hlive, r, hturn, hitem, -, hr⟩ := h'.fetch hload
        have hfail : dispatch abi r = .error .usageTab := by
          rw [dispatch_usage (by rw [hitem, i.head_tag, htag]),
            hr.follows.usages.pushUsage_full hfull]
          rfl
        obtain ⟨hnone, hmany⟩ := no_room htag hfull ⟨hadm, hwf'⟩
        refine ⟨[], .error .usageTab, .fail hlive (hturn.trans hfail), hnone.symm,
          iff_of_false ?_ hmany⟩
        rintro ⟨q, hq⟩
        cases hq

lemma initial_valid : Context.initial.Valid where
  opened _ h := absurd h List.not_mem_nil
  path := Nat.zero_le _
  reportID _ h := nomatch h
  reportCount _ h := nomatch h

/-- The objects delivered are the fields of the descriptor, and what comes last decides whether the
enumeration ends. -/
lemma enumerate_items (hload : abi.LoadsItems) {items : List Item}
    (hp : p.Holds (encodeItems items)) (hwf : WellFormed abi .initial items) :
    (enumerate abi (resetParser p)).1.map HIDData.field = interpret abi .initial items ∧
      ((∃ q, (enumerate abi (resetParser p)).2 = .ok q) ↔ usagesAtEnd 0 items ≤ usageTabSize) := by
  obtain ⟨objects, out, hemits, hfields, hout⟩ :=
    (reached_resetParser hp).emits hload initial_valid hwf
  have hall : enumerate abi (resetParser p) = (objects, out) :=
    ((parser_bounded abi).all_iff (resetParser_ready p)).mpr hemits
  rw [hall]
  exact ⟨hfields, hout⟩

end Items

end Libhid
