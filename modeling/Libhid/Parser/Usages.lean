import Libhid.Parser.Bounds
import Libhid.Parser.Counting

/-!
# Which usage an object is given

The usages declared before a main item are a queue: its `k`-th object takes the `k`-th of them
(`item_usage`), and nothing is left of them behind the item (`usages_fifo`).  The loop that unstacks
them moves a zero entry from above the stack onto it, so it removes the last usage like any other:
`keepsLast_iff` says when the objects behind it have it all the same.
-/

namespace Libhid

open Framework

/-- The usage an object was given, the last node of its path. -/
def HIDData.usage (o : HIDData) : Option HIDNode := o.path.nodes.getLast?

section Objects

variable {abi : Abi} {p q s t : HIDParser} {items : List RawItem} {i : RawItem} {o : HIDData}
  {usages : List HIDNode} {xs : List HIDData} {k : ℕ}

/-- An object takes the first entry of the usage table. -/
lemma ObjectTurn.usage (t : ObjectTurn p q o) : o.usage = some p.firstUsage := by
  have hps : pathSize = 10 := rfl
  have hroom := t.room
  have hpath : o.path = ⟨p.data.path.size + 1,
      p.data.path.node.set p.data.path.size.toNat p.firstUsage⟩ := by
    rw [t.object_eq]
  have hnodes : Located p.data.path.nodes p.data.path := HIDPath.located (Nat.le_of_lt hroom)
  obtain ⟨path, hpush, hlocated, -⟩ := hnodes.push (by rw [← hnodes.size]; omega) p.firstUsage
  rw [pushNode, dif_pos hroom] at hpush
  cases hpush
  rw [HIDData.usage, hpath, hlocated.eq_nodes, List.getLast?_concat]

/-- The rest of a data item takes the usages one after the other, and zero nodes behind them. -/
lemma pending_usage (h : (parser abi).Steps q xs t) (hready : q.Ready) (hpos : t.pos = q.pos)
    (hstack : q.count ≠ 0 → Stacked usages q.usageTab q.usageSize) (hk : xs[k]? = some o) :
    o.usage = some (usages.getD k .zero) := by
  induction h generalizing usages k with
  | refl q => cases hk
  | @silent q q' t xs hl hb rest ih =>
      obtain ⟨hready', -⟩ := parseTurn_bounded hready hl hb
      obtain ⟨-, object, ho, -⟩ := turn_of_pos hready hb rest hready' hpos
      cases ho
  | @emit q q' t a xs hl hb rest ih =>
      obtain ⟨hready', -⟩ := parseTurn_bounded hready hl hb
      obtain ⟨hc, object, ho, ⟨turn⟩⟩ := turn_of_pos hready hb rest hready' hpos
      cases ho
      obtain ⟨-, -, hrest⟩ := turn.stacked (hstack hc)
      obtain ⟨-, -, -, -, hpos', -⟩ := turn.frame
      cases k with
      | zero =>
          cases hk
          rw [turn.usage, HIDParser.firstUsage, (hstack hc).first]
          cases usages <;> rfl
      | succ k =>
          rw [ih hready' (hpos.trans hpos'.symm) hrest hk]
          cases usages <;> simp

/-- **The `k`-th object of an item takes the `k`-th usage** declared since the last main item, and a
zero node where there are fewer. -/
lemma item_usage (h : Reads abi p s items) (hi : s.nextRaw = some i) (hdata : i.tag.isData = true)
    (hsteps : (parser abi).Steps s xs t) (hpos : t.pos = (s.taking abi i).pos)
    (hk : xs[k]? = some o) : o.usage = some ((usagesOf abi p.uPage items).getD k .zero) := by
  have htracks := reads_tracks h
  have hstack : Stacked (usagesOf abi p.uPage items) (s.taking abi i).usageTab
      (s.taking abi i).usageSize := htracks.idle (nextRaw_eq_some hi).1
  cases hsteps with
  | refl => cases hk
  | silent _ hb _ =>
      obtain ⟨object, ho, -⟩ := first_object hi hdata hb
      cases ho
  | emit hl hb rest =>
      obtain ⟨object, ho, ⟨turn⟩⟩ := first_object hi hdata hb
      cases ho
      obtain ⟨-, hpos', -⟩ := turn.first hi
      obtain ⟨-, -, hrest⟩ := turn.stacked hstack
      cases k with
      | zero =>
          cases hk
          rw [turn.usage, HIDParser.firstUsage, hstack.first]
          cases usagesOf abi p.uPage items <;> rfl
      | succ k =>
          rw [pending_usage rest (parseTurn_bounded htracks.ready hl hb).1
            (hpos.trans hpos'.symm) hrest hk]
          cases usagesOf abi p.uPage items <;> simp

/-- A collection takes the first usage. -/
lemma collection_usage (h : Reads abi p s items) (hi : s.nextRaw = some i)
    (htag : i.tag = .collection) {out : Option HIDData} (hb : parseTurn abi s = .ok (q, out)) :
    ∃ index, q.data.path.nodes =
      s.data.path.nodes ++ (usagesOf abi p.uPage items).headD .zero :: index := by
  have hstack : Stacked (usagesOf abi p.uPage items) (s.taking abi i).usageTab
      (s.taking abi i).usageSize := (reads_tracks h).idle (nextRaw_eq_some hi).1
  have hdispatch := dispatch_cases ((parseTurn_taking abi hi).symm.trans hb)
  have hitem : Tag.ofItem (s.taking abi i).item = .collection := htag
  cases hdispatch with
  | collection _ hopen =>
      obtain ⟨path, -, -, hpush, -⟩ := openCollection_ok hopen
      obtain ⟨hroom, -⟩ := pushNode_ok hpush
      have hnodes : Located s.data.path.nodes (s.taking abi i).data.path :=
        HIDPath.located (Nat.le_of_lt hroom)
      have hopened := (hnodes.opened hopen).eq_nodes
      rw [Context.nodes, HIDParser.collection, HIDParser.firstUsage, hstack.first] at hopened
      exact ⟨_, hopened⟩
  | usage hno _ | endCollection hno _ =>
      rw [hitem] at hno
      cases hno
  | object hno _ | global hno _ =>
      rw [hitem] at hno
      cases hno

end Objects

/-! ## First in, first out -/

/-- The usages in a state that an enumeration comes to after the items. -/
structure Fifo (abi : Abi) (u : UInt16) (s : HIDParser) (items : List RawItem) : Prop where
  tail : ∀ j (hj : j < usageTabSize), s.usageSize.toNat ≤ j → s.usageTab[j] = .zero
  completed : ∀ i before, items = i :: before → i.tag.isMain = true → s.count = 0 →
    s.usageSize = 0
  object : ∀ i xs t, s.nextRaw = some i → i.tag.isData = true → (parser abi).Steps s xs t →
    t.pos = (s.taking abi i).pos → ∀ k o, xs[k]? = some o →
      o.usage = some ((usagesOf abi u items).getD k .zero)
  collection : ∀ i q out, s.nextRaw = some i → i.tag = .collection →
    parseTurn abi s = .ok (q, out) → ∃ index, q.data.path.nodes =
      s.data.path.nodes ++ (usagesOf abi u items).headD .zero :: index

lemma Stacked.tail {usages : List HIDNode} {tab : Vector HIDNode usageTabSize} {size : UInt8}
    (h : Stacked usages tab size) {j : ℕ} (hj : j < usageTabSize) (hle : size.toNat ≤ j) :
    tab[j] = .zero := by
  rw [h.queue.get j hj]
  exact List.getD_eq_default _ _ (by rw [← h.size]; exact hle)

/-- **Usages are taken in the order they were declared in, and none reaches the next main item.** -/
theorem usages_fifo {abi : Abi} {p s : HIDParser} {items : List RawItem}
    (h : Reads abi p s items) : Fifo abi p.uPage s items := by
  have htracks := reads_tracks h
  refine ⟨?_, ?_, fun i xs t hi hdata hsteps hpos k o hk => item_usage h hi hdata hsteps hpos hk,
    fun i q out hi htag hb => collection_usage h hi htag hb⟩
  · intro j hj hle
    by_cases hc : s.count = 0
    · exact (htracks.idle hc).tail hj hle
    · obtain ⟨-, usages, -, hstack⟩ := htracks.pending hc
      exact hstack.tail hj hle
  · rintro i before rfl hmain hc
    have hsize := (htracks.idle hc).size
    rw [usagesOf_main hmain] at hsize
    exact UInt8.toNat_inj.mp hsize

/-- `usages_fifo` behind a data item with one usage more than it has objects. -/
theorem usages_fifo_surplus : ∃ s items, items.head?.map RawItem.tag = some .feature ∧
    s.count = 0 ∧ Fifo (.little .w64 true) 0 s items := by
  have hrun : (((parser (.little .w64 true)).withHistory recordItem).after 4
      (resetParser (.holding (counted [0x95, 0x01, 0x09, 0x02, 0x09, 0x03])), [])).any (fun x =>
        x.2.head?.map RawItem.tag == some .feature && x.1.count == 0) = true := by
    decide +kernel
  obtain ⟨⟨s, items⟩, hafter, htest⟩ := (Option.any_eq_true _ _).mp hrun
  simp only [Bool.and_eq_true, beq_iff_eq] at htest
  exact ⟨s, items, htest.1, htest.2, usages_fifo (Generator.reaches_after hafter)⟩

/-! ## The last usage -/

/-- The objects `u + 1` to `n` of the data item have the last one of the `u` usages. -/
def KeepsLast (abi : Abi) (s : HIDParser) (i : RawItem) (usages : List HIDNode) (n : ℕ) : Prop :=
  ∀ xs t, (parser abi).Steps s xs t → t.pos = (s.taking abi i).pos →
    ∀ k o, usages.length ≤ k → k < n → xs[k]? = some o → o.usage = usages.getLast?

section Last

variable {abi : Abi} {p s t : HIDParser} {items : List RawItem} {i : RawItem} {n : ℕ}
  {xs : List HIDData}

/-- A count that fits a byte is not lost: at least as many objects are due. -/
lemma MeetsData.le_countOf (h : MeetsData abi p s items i n) (hle : n ≤ 255) :
    n ≤ countOf s.reportCount := by
  obtain ⟨data, hlen, hnumber, hcount⟩ := reads_reportCount h.reads h.count
  unfold countOf
  split_ifs with hzero
  · omega
  · by_cases hload : abi.LoadsItems
    · rw [hcount, uchar_load hload hlen, hnumber]
      omega
    · rw [hcount, uchar_load_zero hload hlen] at hzero
      exact absurd rfl hzero

/-- Without room there is no object, and an item that ends the descriptor has one at most. -/
lemma item_length_le (hi : s.nextRaw = some i) (hdata : i.tag.isData = true)
    (hsteps : (parser abi).Steps s xs t)
    (hshort : ¬ (s.taking abi i).live = true ∨ ¬ (s.taking abi i).HasRoom) : xs.length ≤ 1 := by
  cases hsteps with
  | refl => exact Nat.zero_le 1
  | silent _ hb _ =>
      obtain ⟨object, ho, -⟩ := first_object hi hdata hb
      cases ho
  | @emit _ q _ a xs _ hb rest =>
      obtain ⟨object, -, ⟨turn⟩⟩ := first_object hi hdata hb
      obtain ⟨-, -, hlive⟩ := turn.first hi
      have hdead : ¬ q.live = true := by
        rw [hlive]
        exact hshort.resolve_right (not_not_intro turn.hasRoom)
      cases rest with
      | refl => exact Nat.le_refl 1
      | silent hl _ _ => exact absurd hl hdead
      | emit hl _ _ => exact absurd hl hdead

/-- **The objects behind the usages have the last one of them if and only if** it is the zero node,
the descriptor ends with the item, or there is no room for its objects. -/
theorem keepsLast_iff (h : MeetsData abi p s items i n)
    (hone : usagesOf abi p.uPage items ≠ []) (hmore : (usagesOf abi p.uPage items).length < n)
    (hle : n ≤ 255) : KeepsLast abi s i (usagesOf abi p.uPage items) n ↔
      (usagesOf abi p.uPage items).getLast? = some .zero ∨ ¬ (s.taking abi i).live = true ∨
        ¬ (s.taking abi i).HasRoom := by
  have hready := (reads_tracks h.reads).ready
  constructor
  · intro hkeeps
    by_contra hno
    simp only [not_or, not_not] at hno
    obtain ⟨hlast, hlive, hroom⟩ := hno
    -- the object right behind the usages
    have hexactly : DeliversExactly abi s i (countOf s.reportCount) :=
      (deliversExactly_iff_count hready h.live h.next h.data).mpr ⟨hroom, by rw [if_pos hlive]⟩
    obtain ⟨xs, t, hsteps, hlen, hpos, -⟩ := hexactly
    have hlong : (usagesOf abi p.uPage items).length < xs.length := by
      have hcount := h.le_countOf hle
      omega
    have hzero := item_usage h.reads h.next h.data hsteps hpos (List.getElem?_eq_getElem hlong)
    have hkept := hkeeps xs t hsteps hpos _ _ (Nat.le_refl _) hmore
      (List.getElem?_eq_getElem hlong)
    rw [List.getD_eq_default _ _ (Nat.le_refl _), hkept] at hzero
    exact hlast hzero
  · rintro hcase xs t hsteps hpos k o hk hkn ho
    rcases hcase with hlast | hshort
    · rw [item_usage h.reads h.next h.data hsteps hpos ho, List.getD_eq_default _ _ hk, hlast]
    · -- no object is so far behind
      have hfew := item_length_le h.next h.data hsteps hshort
      have hlt := (List.getElem?_eq_some_iff.mp ho).1
      have hpositive := List.length_pos_iff.mpr hone
      omega

end Last

/-- `keepsLast_iff` for three objects and the usage 0 on page 0. -/
theorem keepsLast_iff_bench :
    ∃ s, KeepsLast (.little .w64 true) s ⟨0xB1, [0x02]⟩ [.zero] 3 := by
  obtain ⟨s, items, hmeets, husages, -⟩ :=
    counted_meets [0x09, 0x00, 0x95, 0x03] 3 2 [.zero] (by decide +kernel)
  have hpage : usagesOf (.little .w64 true)
      (HIDParser.holding (counted [0x09, 0x00, 0x95, 0x03])).uPage items = [.zero] := husages
  refine ⟨s, ?_⟩
  have hkeeps := (keepsLast_iff hmeets (by rw [hpage]; decide) (by rw [hpage]; decide)
    (by decide)).mpr (.inl (by rw [hpage]; rfl))
  rwa [hpage] at hkeeps

/-- Not every object behind the usages has the last one: of three objects with one usage the second
has none. -/
theorem keepsLast_fails : ¬ ∀ (abi : Abi) (p s : HIDParser) (items : List RawItem) (i : RawItem)
    (n : ℕ), MeetsData abi p s items i n → usagesOf abi p.uPage items ≠ [] →
    (usagesOf abi p.uPage items).length < n → n ≤ 255 →
    KeepsLast abi s i (usagesOf abi p.uPage items) n := by
  intro hall
  obtain ⟨s, items, hmeets, husages, hlive, hroom⟩ :=
    counted_meets [0x05, 0x01, 0x09, 0x02, 0x95, 0x03] 3 3 [⟨1, 2⟩] (by decide +kernel)
  have hpage : usagesOf (.little .w64 true)
      (HIDParser.holding (counted [0x05, 0x01, 0x09, 0x02, 0x95, 0x03])).uPage items =
        [⟨1, 2⟩] := husages
  have hkeeps := hall _ _ s items _ 3 hmeets (by rw [hpage]; decide) (by rw [hpage]; decide)
    (by decide)
  rw [hpage] at hkeeps
  have hready := (reads_tracks hmeets.reads).ready
  obtain ⟨xs, t, hsteps, hlen, hpos, -⟩ :=
    (deliversExactly_iff_count hready hmeets.live hmeets.next hmeets.data).mpr
      ⟨hroom, (if_pos hlive).symm⟩
  have hlong : 1 < xs.length := by
    have hcount := hmeets.le_countOf (by decide)
    omega
  have hsecond := List.getElem?_eq_getElem hlong
  have hzero := item_usage hmeets.reads hmeets.next hmeets.data hsteps hpos hsecond
  rw [hkeeps xs t hsteps hpos 1 _ (Nat.le_refl 1) (by decide) hsecond, hpage] at hzero
  exact absurd hzero (by decide)

end Libhid
