import Libhid.Parser.Complete

/-!
# Descriptors that encode the same

Two ways to change a descriptor of complete items that should not change its objects: a long item
put before one of its items, and a usage with its own page split into Usage Page, Usage and Usage
Page.  On the items both are simulations in which one run takes turns of its own (`ignores_long`,
`splits_usage`).  Where a platform does not load items, a long item is not skipped, and neither is
true of every descriptor (`longIgnored_iff`, `usageSplits_iff`).
-/

namespace Libhid

open Framework

/-! ## A long item put in -/

/-- The runs with and without the item `j`, which is still to come or has been read. -/
inductive PutIn (j : RawItem) :
    HIDParser × List RawItem → HIDParser × List RawItem → Prop
  | before {c : HIDParser} (hbare : c.bare = c) (pre : List RawItem) {post : List RawItem}
      (hpost : post ≠ []) : PutIn j (c, pre ++ j :: post) (c, pre ++ post)
  | read (s : HIDParser × List RawItem) : PutIn j s s

section PutIn

variable {abi : Abi} {s p q : HIDParser} {j : RawItem} {pre post : List WholeItem}

/-- Where the same case of the switch is run, the runs go on alike. -/
lemma PutIn.dispatch (r : HIDParser) (rest : List RawItem) {after : List RawItem}
    (hpost : after ≠ []) : OutcomeRel (fun x y => PutIn j x.1 y.1 ∧ x.2 = y.2)
      ((dispatch abi r).map fun x => ((x.1.bare, rest ++ j :: after), x.2))
      ((dispatch abi r).map fun x => ((x.1.bare, rest ++ after), x.2)) := by
  have hrel : OutcomeRel Eq (Libhid.dispatch abi r) (Libhid.dispatch abi r) :=
    .refl (fun _ => rfl) _
  apply hrel.map
  rintro ⟨q, o⟩ _ rfl
  exact ⟨.before (bare_bare q) rest hpost, rfl⟩

/-- **The run that reads a long item takes one turn more.** -/
lemma ignores_long (abi : Abi) (htag : j.tag = .long ∨ j.tag = .other) :
    Generator.Stutters (itemParser abi) (itemParser abi) (PutIn j) := by
  refine ⟨fun hst hl => ?_, fun hst hl => ?_⟩
  · cases hst with
    | before _ pre _ =>
        cases pre <;> cases hl
    | read s => exact hl
  · cases hst with
    | @before c hbare pre post hpost =>
        by_cases hc : c.count = 0
        · cases pre with
          | nil => exact .inl ⟨(c, post), itemTurn_ignored hbare hc htag, .read _⟩
          | cons i pre =>
              have hrel : OutcomeRel (fun x y => PutIn j x.1 y.1 ∧ x.2 = y.2)
                  (itemTurn abi (c, i :: (pre ++ j :: post)))
                  (itemTurn abi (c, i :: (pre ++ post))) := by
                rw [itemTurn_handed abi hc, itemTurn_handed abi hc]
                exact PutIn.dispatch _ pre hpost
              exact .inr ⟨rfl, hrel⟩
        · -- a data item is pending, and does not end the descriptor
          have hrel : OutcomeRel (fun x y => PutIn j x.1 y.1 ∧ x.2 = y.2)
              (itemTurn abi (c, pre ++ j :: post)) (itemTurn abi (c, pre ++ post)) := by
            rw [itemTurn_pending abi hc, itemTurn_pending abi hc]
            exact PutIn.dispatch _ pre hpost
          refine .inr ⟨?_, hrel⟩
          cases pre with
          | nil =>
              cases post with
              | nil => exact absurd rfl hpost
              | cons i post => rfl
          | cons i pre => rfl
    | read s => exact .inr ⟨hl, .refl (fun x => ⟨.read x.1, rfl⟩) _⟩

/-- An item that the parser skips with what is behind it can be put in before any other. -/
lemma put_in {i : WholeItem} (htag : i.tag = .long ∨ i.tag = .other) (hpost : post ≠ [])
    (hskips : ∀ k ∈ pre ++ i :: post, k.Skips abi) (hp : p.Holds (wholeBytes (pre ++ i :: post)))
    (hq : q.Holds (wholeBytes (pre ++ post))) (hsp : SameStart p s) (hsq : SameStart q s) :
    (enumerate abi (resetParser p)).1 = (enumerate abi (resetParser q)).1 := by
  obtain ⟨hpre, hfrom⟩ := List.forall_mem_append.mp hskips
  have hboth : ∀ k ∈ pre ++ post, k.Skips abi :=
    List.forall_mem_append.mpr ⟨hpre, (List.forall_mem_cons.mp hfrom).2⟩
  refine objects_eq (ignores_long abi htag) hp hq hsp hsq hskips hboth ?_
  rw [List.map_append, List.map_append, List.map_cons]
  exact .before (bare_bare _) _ (by simpa using hpost)

end PutIn

/-- A long item: its length, its tag, and as many bytes. -/
def longItem (n tag : UInt8) (body : List UInt8) : List UInt8 := 0xFE :: n :: tag :: body

/-- Whichever long item is put before whichever item of a descriptor of complete items, the objects
delivered from the same `ResetParser` state are the same. -/
def LongIgnored (abi : Abi) (s : HIDParser) : Prop :=
  ∀ (n tag : UInt8) (body : List UInt8) (pre post : List WholeItem) (p q : HIDParser),
    body.length = n.toNat → (∀ i ∈ pre ++ post, i.Complete) → post ≠ [] →
    p.Holds (wholeBytes pre ++ longItem n tag body ++ wholeBytes post) →
    q.Holds (wholeBytes (pre ++ post)) → SameStart p s → SameStart q s →
    (enumerate abi (resetParser p)).1 = (enumerate abi (resetParser q)).1

lemma longIgnored_loaded {abi : Abi} (hload : abi.LoadsItems) (s : HIDParser) :
    LongIgnored abi s := by
  intro n tag body pre post p q hlen hcomplete hpost hp hq hsp hsq
  let i : WholeItem := ⟨⟨0xFE, [n, tag]⟩, body, show 2 = itemSize 0xFE by decide⟩
  have htag : i.tag = .long := show Tag.ofItem 0xFE = .long by decide
  have hi : i.Complete := by
    have hn := n.toNat_lt
    rw [WholeItem.Complete, if_pos htag]
    show body.length = (n.toNat + 256 * leNat [tag]) % 256
    omega
  have hbytes : wholeBytes pre ++ longItem n tag body ++ wholeBytes post =
      wholeBytes (pre ++ i :: post) := by
    simp [wholeBytes, WholeItem.bytes, longItem, i]
  rw [hbytes] at hp
  obtain ⟨hpre, hbehind⟩ := List.forall_mem_append.mp fun k hk => (hcomplete k hk).skips hload
  have hskips : ∀ k ∈ pre ++ i :: post, k.Skips abi :=
    List.forall_mem_append.mpr ⟨hpre, List.forall_mem_cons.mpr ⟨hi.skips hload, hbehind⟩⟩
  exact put_in (.inl htag) hpost hskips hp hq hsp hsq

/-! ## A usage split in three -/

/-- The usage page the parser has after the items, `u` before them. -/
def pageRead (abi : Abi) : UInt16 → List RawItem → UInt16
  | u, [] => u
  | u, i :: items => pageRead abi (if i.tag = .uPage then ushort (i.value abi) else u) items

/-- The items `a`, `b` and `d` set the usage page, give the usage that `i` gives with its own page,
and set the usage page again. -/
structure SplitsUsage (abi : Abi) (i a b d : RawItem) : Prop where
  whole : i.tag = .usage
  before : a.tag = .uPage
  usage : b.tag = .usage
  behind : d.tag = .uPage
  node : ∀ c : HIDParser, usageNode ((c.onPage (ushort (a.value abi))).handed abi b) =
    usageNode (c.handed abi i)

/-- The runs with the three items and with the one, from before them to behind them. -/
inductive Split (abi : Abi) (i a b d : RawItem) :
    HIDParser × List RawItem → HIDParser × List RawItem → Prop
  | before {c : HIDParser} (hbare : c.bare = c) (hready : c.Ready) (pre post : List RawItem)
      (hpage : pageRead abi c.uPage pre = ushort (d.value abi)) :
      Split abi i a b d (c, pre ++ a :: b :: d :: post) (c, pre ++ i :: post)
  | page {c : HIDParser} (hbare : c.bare = c) (hc : c.count = 0) (post : List RawItem)
      (hpage : c.uPage = ushort (d.value abi)) :
      Split abi i a b d (c.onPage (ushort (a.value abi)), b :: d :: post) (c, i :: post)
  | usage {c : HIDParser} (hbare : c.bare = c) (hc : c.count = 0) (post : List RawItem)
      (hpage : c.uPage = ushort (d.value abi)) :
      Split abi i a b d (c.onPage (ushort (a.value abi)), d :: post) (c, post)
  | behind (s : HIDParser × List RawItem) : Split abi i a b d s s

section Split

variable {abi : Abi} {c : HIDParser} {i a b d : RawItem} {items pre post : List RawItem}

/-- The usage is stacked alike in both runs. -/
lemma SplitsUsage.push (h : SplitsUsage abi i a b d) (hbare : c.bare = c) (hc : c.count = 0)
    (hpage : c.uPage = ushort (d.value abi)) :
    OutcomeRel (fun x y => Split abi i a b d x.1 y.1 ∧ x.2 = y.2)
      (itemTurn abi (c.onPage (ushort (a.value abi)), b :: d :: post))
      (itemTurn abi (c, i :: post)) := by
  have hbare' : (c.onPage (ushort (a.value abi))).bare = c.onPage (ushort (a.value abi)) := by
    rw [onPage_bare, hbare]
  have hsize : (c.onPage (ushort (a.value abi))).usageSize = c.usageSize := rfl
  rw [itemTurn_usage hbare hc h.whole, itemTurn_usage hbare' hc h.usage, h.node c]
  by_cases hroom : c.usageSize.toNat < usageTabSize
  · have hstack := stack_bare hbare (usageNode (c.handed abi i)) hroom
    rw [dif_pos hroom, dif_pos (hsize ▸ hroom)]
    exact .ok ⟨.usage hstack hc post hpage, rfl⟩
  · rw [dif_neg hroom, dif_neg (hsize ▸ hroom)]
    exact .error _

/-- A turn before the usage leaves it to come. -/
lemma Split.dispatch {r : HIDParser} (hready : r.Ready)
    (hpage : ∀ q o, dispatch abi r = .ok (q, o) →
      pageRead abi q.uPage pre = ushort (d.value abi)) :
    OutcomeRel (fun x y => Split abi i a b d x.1 y.1 ∧ x.2 = y.2)
      ((dispatch abi r).map fun x => ((x.1.bare, pre ++ a :: b :: d :: post), x.2))
      ((dispatch abi r).map fun x => ((x.1.bare, pre ++ i :: post), x.2)) := by
  rcases hd : Libhid.dispatch abi r with e | ⟨q, o⟩
  · exact .error e
  · exact .ok ⟨.before (bare_bare q) ((dispatch_frame hd).ready hready).bare pre post
      (hpage q o hd), rfl⟩

/-- **The run that reads the three items takes two turns more.** -/
lemma splits_usage (h : SplitsUsage abi i a b d) :
    Generator.Stutters (itemParser abi) (itemParser abi) (Split abi i a b d) := by
  refine ⟨fun hst hl => ?_, fun hst hl => ?_⟩
  · cases hst with
    | before _ _ pre _ _ => cases pre <;> cases hl
    | page | usage => cases hl
    | behind s => exact hl
  · cases hst with
    | @before c hbare hready pre post hpage =>
        by_cases hc : c.count = 0
        · cases pre with
          | nil => exact .inl ⟨_, itemTurn_page hbare hc h.before, .page hbare hc post hpage⟩
          | cons j pre =>
              have hrel : OutcomeRel (fun x y => Split abi i a b d x.1 y.1 ∧ x.2 = y.2)
                  (itemTurn abi (c, j :: (pre ++ a :: b :: d :: post)))
                  (itemTurn abi (c, j :: (pre ++ i :: post))) := by
                rw [itemTurn_handed abi hc, itemTurn_handed abi hc]
                refine Split.dispatch (.inl hc) fun q o hd => ?_
                rw [(dispatch_frame hd).uPage]
                exact hpage
              exact .inr ⟨rfl, hrel⟩
        · have hrel : OutcomeRel (fun x y => Split abi i a b d x.1 y.1 ∧ x.2 = y.2)
              (itemTurn abi (c, pre ++ a :: b :: d :: post))
              (itemTurn abi (c, pre ++ i :: post)) := by
            rw [itemTurn_pending abi hc, itemTurn_pending abi hc]
            refine Split.dispatch hready fun q o hd => ?_
            rw [(dispatch_frame hd).uPage, if_neg (hready.tag_ne hc rfl)]
            exact hpage
          refine .inr ⟨?_, hrel⟩
          cases pre <;> rfl
    | page hbare hc post hpage => exact .inr ⟨rfl, h.push hbare hc hpage⟩
    | @usage c hbare hc post hpage =>
        -- the page in force is set again
        have hbare' : (c.onPage (ushort (a.value abi))).bare = c.onPage (ushort (a.value abi)) := by
          rw [onPage_bare, hbare]
        have hback : (c.onPage (ushort (a.value abi))).onPage (ushort (d.value abi)) = c := by
          rw [← hpage]
          rfl
        have hb : itemTurn abi (c.onPage (ushort (a.value abi)), d :: post) =
            .ok ((c, post), none) := by
          rw [itemTurn_page hbare' hc h.behind, hback]
        exact .inl ⟨_, hb, .behind _⟩
    | behind s => exact .inr ⟨hl, .refl (fun x => ⟨.behind x.1, rfl⟩) _⟩

end Split

/-- The usage page in force behind the items, `u` before them: the one that the last Usage Page item
encodes. -/
def pageInForce : UInt16 → List WholeItem → UInt16
  | u, [] => u
  | u, i :: items =>
      pageInForce (if i.tag = .uPage then UInt16.ofNat (leNat i.data) else u) items

/-- Whichever 4-byte usage of a descriptor of complete items is replaced by Usage Page, Usage and
the Usage Page in force, the objects delivered from the same `ResetParser` state are the same. -/
def UsageSplits (abi : Abi) (s : HIDParser) : Prop :=
  ∀ (p₀ p₁ u₀ u₁ q₀ q₁ : UInt8) (pre post : List WholeItem) (p q : HIDParser),
    (∀ i ∈ pre ++ post, i.Complete) → (pageInForce s.uPage pre).toNat = leNat [q₀, q₁] →
    p.Holds (wholeBytes pre ++ [0x06, p₀, p₁, 0x0A, u₀, u₁, 0x06, q₀, q₁] ++ wholeBytes post) →
    q.Holds (wholeBytes pre ++ [0x0B, u₀, u₁, p₀, p₁] ++ wholeBytes post) →
    SameStart p s → SameStart q s →
    (enumerate abi (resetParser p)).1 = (enumerate abi (resetParser q)).1

section Loaded

variable {abi : Abi}

/-- The parser is on the page in force. -/
lemma pageRead_loaded (hload : abi.LoadsItems) (items : List WholeItem) (u : UInt16) :
    pageRead abi u (items.map WholeItem.toRawItem) = pageInForce u items := by
  induction items generalizing u with
  | nil => rfl
  | cons i items ih =>
      have hvalue : ushort (i.value abi) = UInt16.ofNat (leNat i.data) :=
        ushort_load hload i.data_length_le
      rw [List.map_cons, pageRead, ih, hvalue, pageInForce]

/-- Both encodings give the same usage, on every page. -/
lemma splitsUsage_loaded (hload : abi.LoadsItems) (p₀ p₁ u₀ u₁ q₀ q₁ : UInt8) :
    SplitsUsage abi ⟨0x0B, [u₀, u₁, p₀, p₁]⟩ ⟨0x06, [p₀, p₁]⟩ ⟨0x0A, [u₀, u₁]⟩
      ⟨0x06, [q₀, q₁]⟩ := by
  have hmod : ((65536 : ℕ) : ℕ) ∣ 2 ^ abi.longWidth.bits := by
    cases abi.longWidth <;> decide
  have hboth : leNat [u₀, u₁, p₀, p₁] = leNat [u₀, u₁] + 65536 * leNat [p₀, p₁] := by
    simp only [leNat]
    omega
  have hlow : leNat [u₀, u₁] < 65536 := by
    have h₀ := u₀.toNat_lt
    have h₁ := u₁.toNat_lt
    simp only [leNat]
    omega
  have husage : ∀ {bytes : List UInt8}, bytes.length ≤ 4 →
      ushort (abi.load bytes % 65536) = UInt16.ofNat (leNat bytes % 65536) := by
    intro bytes hlen
    rw [abi.load_eq hload hlen]
    exact ushort_toLong_emod abi _ hmod
  refine ⟨show Tag.ofItem 0x0B = .usage by decide, show Tag.ofItem 0x06 = .uPage by decide,
    show Tag.ofItem 0x0A = .usage by decide, show Tag.ofItem 0x06 = .uPage by decide, fun c => ?_⟩
  have hpage : ushort (abi.load [p₀, p₁]) = ushort (abi.load [u₀, u₁, p₀, p₁] / 65536) := by
    rw [ushort_load hload (by simp), abi.load_eq hload (by simp), ushort_toLong_div, hboth]
    congr 1
    omega
  have hsame : ushort (abi.load [u₀, u₁] % 65536) =
      ushort (abi.load [u₀, u₁, p₀, p₁] % 65536) := by
    rw [husage (by simp), husage (by simp), hboth]
    congr 1
    omega
  have hlong : (0x0B : UInt8) &&& sizeMask > 2 := by decide
  have hshort : ¬ (0x0A : UInt8) &&& sizeMask > 2 := by decide
  have hleft : usageNode ((c.onPage (ushort (abi.load [p₀, p₁]))).handed abi ⟨0x0A, [u₀, u₁]⟩) =
      ⟨ushort (abi.load [p₀, p₁]), ushort (abi.load [u₀, u₁] % 65536)⟩ :=
    congrArg (fun page => HIDNode.mk page _) (if_neg hshort)
  have hright : usageNode (c.handed abi ⟨0x0B, [u₀, u₁, p₀, p₁]⟩) =
      ⟨ushort (abi.load [u₀, u₁, p₀, p₁] / 65536),
        ushort (abi.load [u₀, u₁, p₀, p₁] % 65536)⟩ :=
    congrArg (fun page => HIDNode.mk page _) (if_pos hlong)
  exact hleft.trans (by rw [hpage, hsame, hright])

lemma usageSplits_loaded (hload : abi.LoadsItems) (s : HIDParser) : UsageSplits abi s := by
  intro p₀ p₁ u₀ u₁ q₀ q₁ pre post p q hcomplete hforce hp hq hsp hsq
  let a : WholeItem := .plain 0x06 [p₀, p₁] (show 2 = itemSize 0x06 by decide)
  let b : WholeItem := .plain 0x0A [u₀, u₁] (show 2 = itemSize 0x0A by decide)
  let d : WholeItem := .plain 0x06 [q₀, q₁] (show 2 = itemSize 0x06 by decide)
  let i : WholeItem := .plain 0x0B [u₀, u₁, p₀, p₁] (show 4 = itemSize 0x0B by decide)
  have hthree : wholeBytes pre ++ [0x06, p₀, p₁, 0x0A, u₀, u₁, 0x06, q₀, q₁] ++ wholeBytes post =
      wholeBytes (pre ++ a :: b :: d :: post) := by
    simp [wholeBytes, WholeItem.bytes, WholeItem.plain, a, b, d]
  have hone : wholeBytes pre ++ [0x0B, u₀, u₁, p₀, p₁] ++ wholeBytes post =
      wholeBytes (pre ++ i :: post) := by
    simp [wholeBytes, WholeItem.bytes, WholeItem.plain, i]
  rw [hthree] at hp
  rw [hone] at hq
  obtain ⟨hpre, hpost⟩ := List.forall_mem_append.mp fun k hk => (hcomplete k hk).skips hload
  have hplain : ∀ {head data size}, Tag.ofItem head ≠ .long →
      (WholeItem.plain head data size).Skips abi := fun htag => (if_neg htag).symm
  have hpage : pageRead abi s.uPage (pre.map WholeItem.toRawItem) = ushort (d.value abi) := by
    have hvalue : ushort (d.value abi) = UInt16.ofNat (leNat [q₀, q₁]) :=
      ushort_load hload d.data_length_le
    rw [pageRead_loaded hload, hvalue, ← hforce, UInt16.ofNat_toNat]
  refine objects_eq (splits_usage (splitsUsage_loaded hload p₀ p₁ u₀ u₁ q₀ q₁)) hp hq hsp hsq
    (List.forall_mem_append.mpr ⟨hpre, ?_⟩) (List.forall_mem_append.mpr ⟨hpre, ?_⟩) ?_
  · simp only [List.forall_mem_cons]
    exact ⟨hplain (by decide), hplain (by decide), hplain (by decide), hpost⟩
  · exact List.forall_mem_cons.mpr ⟨hplain (by decide), hpost⟩
  · simp only [List.map_append, List.map_cons]
    exact .before (bare_bare _) (resetParser_ready s).bare _ _ hpage

end Loaded

/-! ## Platforms that do not skip long items -/

section Shifted

variable {abi : Abi} {c p s : HIDParser} {items : List RawItem} {xs : List HIDData}
  {r : Except Stop (HIDParser × List RawItem)}

/-- Behind no item anything is skipped. -/
lemma plain_skips (hload : ¬ abi.LoadsItems) {whole : List WholeItem}
    (hplain : ∀ i ∈ whole, i.skipped = []) : ∀ i ∈ whole, i.Skips abi := by
  intro i hi
  rw [WholeItem.Skips, hplain i hi, longSkip, uchar_load_zero hload i.data_length_le]
  split_ifs <;> rfl

/-- Without a data item nothing is delivered. -/
lemma emits_nil {t : HIDParser × List RawItem} (h : (itemParser abi).Emits t xs r)
    (hc : t.1.count = 0) (hnone : ∀ i ∈ t.2, i.tag.isData = false) : xs = [] := by
  have hturn : ∀ {t t' : HIDParser × List RawItem} {o}, itemTurn abi t = .ok (t', o) →
      t.1.count = 0 → (∀ i ∈ t.2, i.tag.isData = false) →
      t'.1.count = 0 ∧ (∀ i ∈ t'.2, i.tag.isData = false) ∧ o = none := by
    rintro ⟨c, items⟩ t' o hb hc hnone
    cases items with
    | nil =>
        rw [itemTurn, if_pos hc] at hb
        cases hb
    | cons i items =>
        rw [itemTurn_handed abi hc, except_map_ok] at hb
        obtain ⟨⟨q, o⟩, hd, hsame⟩ := hb
        cases hsame
        have hdata := hnone i List.mem_cons_self
        refine ⟨?_, fun j hj => hnone j (List.mem_cons_of_mem _ hj), ?_⟩
        · exact ((dispatch_frame hd).count.resolve_right fun h => ne_of_isData h hdata rfl).trans hc
        · cases dispatch_cases hd with
          | object hdata' _ => exact absurd rfl (ne_of_isData hdata' hdata)
          | _ => rfl
  induction h with
  | done _ => rfl
  | fail _ _ => rfl
  | silent _ hb _ ih =>
      obtain ⟨hc', hnone', -⟩ := hturn hb hc hnone
      exact ih hc' hnone'
  | emit _ hb _ _ =>
      obtain ⟨-, -, ho⟩ := hturn hb hc hnone
      cases ho

/-- Behind items that change nothing, a data item delivers an object. -/
lemma emits_ne_nil {before after : List RawItem} {i : RawItem}
    (h : (itemParser abi).Emits (c, before ++ i :: after) xs r) (hbare : c.bare = c)
    (hc : c.count = 0) (hbefore : ∀ j ∈ before, j.tag = .long ∨ j.tag = .other)
    (hdata : i.tag.isData = true) (hroom : (c.handed abi i).HasRoom) : xs ≠ [] := by
  induction before generalizing xs with
  | nil =>
      obtain ⟨q, o, hd, -⟩ := hroom.turn abi hdata
      have hb : (itemParser abi).body (c, i :: after) = .ok ((q.bare, after), some o) := by
        show itemTurn abi (c, i :: after) = _
        rw [itemTurn_handed abi hc, hd]
        rfl
      obtain ⟨ys, rfl, -⟩ := h.of_body rfl hb
      exact List.cons_ne_nil _ _
  | cons j before ih =>
      have hb : (itemParser abi).body (c, j :: (before ++ i :: after)) = .ok ((c, _), none) :=
        itemTurn_ignored hbare hc (hbefore j List.mem_cons_self)
      obtain ⟨ys, rfl, hrest⟩ := h.of_body rfl hb
      exact ih hrest fun k hk => hbefore k (List.mem_cons_of_mem _ hk)

/-- `emits_nil` for a descriptor. -/
lemma enumerate_nil {whole : List WholeItem} (hp : p.Holds (wholeBytes whole))
    (hskips : ∀ i ∈ whole, i.Skips abi) (hnone : ∀ i ∈ whole, i.tag.isData = false) :
    (enumerate abi (resetParser p)).1 = [] := by
  rw [enumerate_whole hp hskips]
  refine emits_nil ((itemParser_bounded abi).emits_all (resetParser_ready p).bare) rfl
    fun i hi => ?_
  obtain ⟨j, hj, rfl⟩ := List.mem_map.mp hi
  exact hnone j hj

/-- There is room for the first object of a Feature item. -/
lemma feature_hasRoom (abi : Abi) (s : HIDParser) :
    ((resetParser s).bare.handed abi ⟨0xB0, []⟩).HasRoom := by
  have hkey : ((resetParser s).bare.handed abi ⟨0xB0, []⟩).reportKey = (0, 0xB0) :=
    Prod.ext rfl (show 0xB0 &&& itemMask = 0xB0 by decide)
  have hrow : (probe ReportRow.free ReportRow.key (Vector.replicate maxReport .zero)
      ((0, 0xB0) : UInt8 × UInt8)).isSome = true := by
    decide +kernel
  refine ⟨show (0 : UInt8).toNat < pathSize by decide, show (0 : UInt8).toNat ≤ 49 by decide, ?_⟩
  rw [hkey]
  exact hrow

/-- `emits_ne_nil` for a descriptor. -/
lemma enumerate_ne_nil {before after : List WholeItem}
    (hp : p.Holds (wholeBytes (before ++ .plain 0xB0 [] :: after)))
    (hskips : ∀ i ∈ before ++ .plain 0xB0 [] :: after, i.Skips abi)
    (hbefore : ∀ i ∈ before, i.tag = .long ∨ i.tag = .other) :
    (enumerate abi (resetParser p)).1 ≠ [] := by
  rw [enumerate_whole hp hskips, List.map_append, List.map_cons]
  refine emits_ne_nil ((itemParser_bounded abi).emits_all (resetParser_ready p).bare)
    (bare_bare _) rfl (fun j hj => ?_) rfl (feature_hasRoom abi p)
  obtain ⟨i, hi, rfl⟩ := List.mem_map.mp hj
  exact hbefore i hi

/-- The body of a long item that is not skipped delivers an object. -/
lemma longIgnored_shifted (hload : ¬ abi.LoadsItems) (s : HIDParser) : ¬ LongIgnored abi s := by
  intro hall
  have hskips : ∀ i ∈ [WholeItem.plain 0xFE [1, 0], .plain 0xB0 [], .plain 0x00 []],
      i.Skips abi := plain_skips hload (by decide)
  have hput : (s.given [0xFE, 1, 0, 0xB0, 0x00]).Holds
      (wholeBytes ([.plain 0xFE [1, 0]] ++ .plain 0xB0 [] :: [.plain 0x00 []])) :=
    given_holds s (by decide)
  have hplain : (s.given [0x00]).Holds (wholeBytes [.plain 0x00 []]) := given_holds s (by decide)
  have hsome := enumerate_ne_nil hput hskips (by decide)
  have hnone := enumerate_nil hplain (fun i hi => hskips i (by simp_all)) (by decide)
  have hsame := hall 1 0 [0xB0] [] [.plain 0x00 []] _ _ rfl (by decide) (by decide) hput hplain
    (given_sameStart s _) (given_sameStart s _)
  exact hsome (hsame.trans hnone)

/-- Behind a long item that is not skipped, the two encodings are read as other items. -/
lemma usageSplits_shifted (hload : ¬ abi.LoadsItems) (s : HIDParser) : ¬ UsageSplits abi s := by
  intro hall
  let q₀ := UInt8.ofNat s.uPage.toNat
  let q₁ := UInt8.ofNat (s.uPage.toNat / 256)
  let long : WholeItem := ⟨⟨0xFE, [1, 0]⟩, [0x03], by decide⟩
  have hpage : (pageInForce s.uPage [long]).toNat = leNat [q₀, q₁] := by
    have hforce : pageInForce s.uPage [long] = s.uPage := if_neg (by decide)
    have hlt := s.uPage.toNat_lt
    simp only [hforce, leNat, q₀, q₁, UInt8.toNat_ofNat']
    omega
  have htwo : [q₀, q₁].length = itemSize 0x06 := show 2 = itemSize 0x06 by decide
  have hone : (s.given [0xFE, 1, 0, 0x03, 0x0B, 0, 0, 0, 0xB0]).Holds
      (wholeBytes ([.plain 0xFE [1, 0], .plain 0x03 [0x0B, 0, 0, 0]] ++ .plain 0xB0 [] :: [])) :=
    given_holds s (by decide)
  have hthree : (s.given [0xFE, 1, 0, 0x03, 0x06, 0, 0xB0, 0x0A, 0, 0, 0x06, q₀, q₁]).Holds
      (wholeBytes [.plain 0xFE [1, 0], .plain 0x03 [0x06, 0, 0xB0, 0x0A], .plain 0x00 [],
        .plain 0x00 [], .plain 0x06 [q₀, q₁] htwo]) :=
    given_holds s (show 13 ≤ reportDscSize by decide)
  have hsome := enumerate_ne_nil hone (plain_skips hload (by decide)) (by decide)
  have hnone := enumerate_nil hthree (plain_skips hload (by simp [WholeItem.plain])) (by
    simp only [List.forall_mem_cons]
    exact ⟨by decide, by decide, by decide, by decide,
      show (Tag.ofItem 0x06).isData = false by decide, List.forall_mem_nil _⟩)
  have hsame := hall 0x00 0xB0 0x00 0x00 q₀ q₁ [long] [] _ _ (by decide) hpage hthree hone
    (given_sameStart s _) (given_sameStart s _)
  exact hsome (hsame.symm.trans hnone)

end Shifted

/-- **A long item may be put before any item if and only if** the platform loads items. -/
theorem longIgnored_iff (abi : Abi) (s : HIDParser) : LongIgnored abi s ↔ abi.LoadsItems := by
  constructor
  · intro h
    by_contra hload
    exact longIgnored_shifted hload s h
  · intro hload
    exact longIgnored_loaded hload s

/-- **A usage may be split in three if and only if** the platform loads items. -/
theorem usageSplits_iff (abi : Abi) (s : HIDParser) : UsageSplits abi s ↔ abi.LoadsItems := by
  constructor
  · intro h
    by_contra hload
    exact usageSplits_shifted hload s h
  · intro hload
    exact usageSplits_loaded hload s

/-- A big-endian platform with 64-bit `long`. -/
lemma big_not_loads : ¬ (⟨.w64, true, true⟩ : Abi).LoadsItems := by
  simp [Abi.LoadsItems]

/-- Not everywhere may a long item be put in: a big-endian platform with 64-bit `long` reads what is
in it. -/
theorem longIgnored_fails : ¬ ∀ (abi : Abi) (s : HIDParser), LongIgnored abi s := by
  intro hall
  exact longIgnored_shifted big_not_loads (.holding []) (hall _ _)

/-- Not everywhere may a usage be split in three. -/
theorem usageSplits_fails : ¬ ∀ (abi : Abi) (s : HIDParser), UsageSplits abi s := by
  intro hall
  exact usageSplits_shifted big_not_loads (.holding []) (hall _ _)

end Libhid
