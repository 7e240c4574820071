import Libhid.Parser.Follows

/-!
# The items an enumeration reads

Next to the parser runs the list of the items it has fetched, the last one first (`Reads`).  What
these items say about the usage page and the usages pending (`uPageOf`, `usagesOf`) is what the
parser has in its fields, in every state an enumeration comes to and for every descriptor
(`reads_tracks`).
-/

namespace Libhid

open Framework

section Descriptor

variable {bytes : List UInt8} {p : HIDParser} {i : RawItem}

lemma pos_lt_of_live (h : p.Holds bytes) (hl : p.live = true) : p.pos.toNat < bytes.length := by
  by_contra hge
  rw [h.ended (Nat.not_lt.mp hge)] at hl
  cases hl

/-- The item fetched begins with the next byte of the descriptor. -/
lemma remaining_cons (h : p.Holds bytes) (hl : p.live = true) (hi : p.nextRaw = some i) :
    p.remaining bytes = i.head :: bytes.drop (p.pos.toNat + 1) := by
  have hlt := pos_lt_of_live h hl
  obtain ⟨-, hpos, hhead, -, -⟩ := nextRaw_eq_some hi
  rw [HIDParser.remaining, List.drop_eq_getElem_cons hlt, hhead, h.getElem hlt hpos]

/-- The data bytes of an item that is complete. -/
lemma data_eq_take (h : p.Holds bytes) (hi : p.nextRaw = some i)
    (hfit : p.pos.toNat + 1 + itemSize i.head ≤ bytes.length) :
    i.data = (bytes.drop (p.pos.toNat + 1)).take (itemSize i.head) := by
  obtain ⟨-, -, -, -, hdata⟩ := nextRaw_eq_some hi
  rw [hdata, h.bytesAt hfit]

end Descriptor

/-! ## Reading along -/

/-- The items read, the last one first. -/
def recordItem (items : List RawItem) (p : HIDParser) : List RawItem := p.nextRaw.toList ++ items

/-- The enumeration comes to a state after the items. -/
def Reads (abi : Abi) (p s : HIDParser) (items : List RawItem) : Prop :=
  ((parser abi).withHistory recordItem).Reaches (resetParser p, []) (s, items)

/-- The enumeration comes to a state. -/
def Visits (abi : Abi) (p s : HIDParser) : Prop := (parser abi).Reaches (resetParser p) s

lemma visits_iff {abi : Abi} {p s : HIDParser} : Visits abi p s ↔ ∃ items, Reads abi p s items :=
  Generator.withHistory_reaches []

lemma recordItem_pending {items : List RawItem} {p : HIDParser} (hc : p.count ≠ 0) :
    recordItem items p = items := by
  rw [recordItem, nextRaw_pending hc]
  rfl

lemma recordItem_item {items : List RawItem} {p : HIDParser} {i : RawItem}
    (h : p.nextRaw = some i) : recordItem items p = i :: items := by
  rw [recordItem, h]
  rfl

/-- What holds after `ResetParser` and is kept by every turn, with the item it fetches, holds in
every state the enumeration comes to. -/
lemma Reads.invariant {abi : Abi} {p s : HIDParser} {items : List RawItem}
    (Inv : HIDParser → List RawItem → Prop) (h : Reads abi p s items) (h0 : Inv (resetParser p) [])
    (hturn : ∀ s items q o, Reads abi p s items → Inv s items → s.live = true →
      parseTurn abi s = .ok (q, o) → Inv q (recordItem items s)) : Inv s items := by
  refine Generator.Reaches.invariant (fun s => Inv s.1 s.2) h h0 ?_
  rintro ⟨u, c⟩ ⟨u', c'⟩ o hr hu hl hb
  obtain ⟨rfl, o', hb', -⟩ := Generator.withHistory_body_ok hb
  exact hturn u c u' o' hr hu hl hb'

/-! ## What the items say -/

section Items

variable (abi : Abi) (u : UInt16)

/-- The usage page after the items, `u` before them. -/
def uPageOf : List RawItem → UInt16
  | [] => u
  | i :: items => if i.tag = .uPage then ushort (i.value abi) else uPageOf items

/-- The node a usage item after the items stands for. -/
def usageOf (i : RawItem) (items : List RawItem) : HIDNode where
  uPage := if i.head &&& sizeMask > 2 then ushort (i.value abi / 65536) else uPageOf abi u items
  usage := ushort (i.value abi % 65536)

/-- The usages since the last main item, in the order of the descriptor. -/
def usagesOf : List RawItem → List HIDNode
  | [] => []
  | i :: items =>
      if i.tag.isMain then []
      else if i.tag = .usage then usagesOf items ++ [usageOf abi u i items]
      else usagesOf items

variable {abi u} in
lemma usagesOf_main {i : RawItem} (h : i.tag.isMain = true) (items : List RawItem) :
    usagesOf abi u (i :: items) = [] := if_pos h

end Items

/-! ## The parser has what the items say -/

/-- The usage page and the usage stack are those of the items read; while a data item is expanded,
the stack has what is left of the usages that were on it when the item was met, at most 49. -/
structure Tracks (abi : Abi) (u : UInt16) (s : HIDParser) (items : List RawItem) : Prop where
  ready : s.Ready
  uPage : s.uPage = uPageOf abi u items
  idle : s.count = 0 → Stacked (usagesOf abi u items) s.usageTab s.usageSize
  pending : s.count ≠ 0 → usagesOf abi u items = [] ∧
    ∃ usages, usages.length ≤ 49 ∧ Stacked usages s.usageTab s.usageSize

/-- A data item and a collection unstack with at most 49 usages on the stack. -/
lemma Stacked.unstack_ok {usages : List HIDNode} {tab tab' : Vector HIDNode usageTabSize}
    {size size' : UInt8} (h : Stacked usages tab size)
    (hun : unstackUsage tab size = .ok (tab', size')) :
    usages.length ≤ 49 ∧ Stacked usages.tail tab' size' := by
  have hle : usages.length ≤ 49 := by
    rw [← h.size]
    exact (unstackUsage_ok hun).1
  obtain ⟨tab₁, size₁, heq, hstack⟩ := h.unstack hle
  rw [hun] at heq
  cases heq
  exact ⟨hle, hstack⟩

section Turn

variable {abi : Abi} {u : UInt16} {s p q : HIDParser} {items : List RawItem}
  {usages : List HIDNode}

/-- The stack after an object. -/
lemma ObjectTurn.stacked {o : HIDData} (t : ObjectTurn p q o)
    (h : Stacked usages p.usageTab p.usageSize) : usages.length ≤ 49 ∧
      (q.count = 0 → Stacked [] q.usageTab q.usageSize) ∧
      (q.count ≠ 0 → Stacked usages.tail q.usageTab q.usageSize) := by
  obtain ⟨pos, nReport, tab, size, -, hun, -, -, rfl⟩ := t
  obtain ⟨hle, hstack⟩ := h.unstack_ok hun
  dsimp only
  split_ifs with hc
  · exact ⟨hle, fun _ => .nil, fun h0 => absurd hc h0⟩
  · exact ⟨hle, fun h0 => absurd h0 hc, fun _ => hstack⟩

lemma usageNode_taking (h : s.uPage = uPageOf abi u items) (i : RawItem) :
    usageNode (s.taking abi i) = usageOf abi u i items := by
  unfold usageNode usageOf HIDParser.taking
  rw [h]

/-- The stack after an item. -/
lemma Dispatched.stacked {o : Option HIDData} {i : RawItem}
    (hd : Dispatched (s.taking abi i) q o) (hpage : s.uPage = uPageOf abi u items)
    (h : Stacked (usagesOf abi u items) s.usageTab s.usageSize) :
    (q.count = 0 ∨ i.tag.isData = false →
      Stacked (usagesOf abi u (i :: items)) q.usageTab q.usageSize) ∧
    (q.count ≠ 0 ∧ i.tag.isData = true →
      ∃ usages, usages.length ≤ 49 ∧ Stacked usages q.usageTab q.usageSize) := by
  have hnot : ∀ {t : Tag}, i.tag = t → t.isData = false →
      ¬ (q.count ≠ 0 ∧ i.tag.isData = true) := by
    rintro t rfl ht ⟨-, hdata⟩
    exact ne_of_isData hdata ht rfl
  cases hd with
  | usage htag hpush =>
      obtain ⟨hlt, rfl⟩ := pushUsage_ok hpush
      have htag : i.tag = .usage := htag
      refine ⟨fun _ => ?_, fun hc => absurd hc (hnot htag rfl)⟩
      rw [usagesOf, htag, if_neg (by decide), if_pos rfl, ← usageNode_taking hpage]
      exact h.push hlt _
  | collection htag hopen =>
      obtain ⟨path, stack, path', -, -, -, rfl⟩ := openCollection_ok hopen
      have htag : i.tag = .collection := htag
      refine ⟨fun _ => ?_, fun hc => absurd hc (hnot htag rfl)⟩
      rw [usagesOf_main (by rw [htag]; rfl)]
      exact .nil
  | endCollection htag hclose =>
      obtain ⟨hlt, rfl⟩ := closeCollection_ok hclose
      have htag : i.tag = .endCollection := htag
      refine ⟨fun _ => ?_, fun hc => absurd hc (hnot htag rfl)⟩
      rw [usagesOf_main (by rw [htag]; rfl)]
      exact .nil
  | object hdata t =>
      obtain ⟨hle, hreset, hrest⟩ := t.stacked h
      have hdata : i.tag.isData = true := hdata
      refine ⟨fun hc => ?_, fun hc => ⟨_, ?_, hrest hc.1⟩⟩
      · rw [usagesOf_main (isMain_of_isData hdata)]
        exact hreset (hc.resolve_right (by rw [hdata]; decide))
      · rw [List.length_tail]
        omega
  | global hmain husage htab hsize =>
      have hmain : i.tag.isMain = false := hmain
      have husage : i.tag ≠ .usage := husage
      refine ⟨fun _ => ?_, fun hc => ?_⟩
      · rw [usagesOf, hmain, if_neg (by decide), if_neg husage, htab, hsize]
        exact h
      · rw [isMain_of_isData hc.2] at hmain
        cases hmain

/-- **A turn keeps track.** -/
lemma Tracks.turn {o : Option HIDData} (h : Tracks abi u s items) (hl : s.live = true)
    (hb : parseTurn abi s = .ok (q, o)) : Tracks abi u q (recordItem items s) := by
  obtain ⟨hready, -⟩ := parseTurn_bounded h.ready hl hb
  obtain ⟨r, hr, hd⟩ := parseTurn_finds hb
  have hframe := dispatch_frame hd
  cases hr with
  | pending hc =>
      -- the data item goes on: one usage is taken from the stack
      obtain ⟨object, -, ⟨t⟩⟩ := pending_turn h.ready hc hd
      obtain ⟨hnone, usages, hle, hstack⟩ := h.pending hc
      obtain ⟨-, hreset, hrest⟩ := t.stacked hstack
      obtain ⟨-, -, -, -, -, hpage, -, -⟩ := t.frame
      rw [recordItem_pending hc]
      refine ⟨hready, hpage.trans h.uPage, fun h0 => ?_, fun h0 => ⟨hnone, _, ?_, hrest h0⟩⟩
      · rw [hnone]
        exact hreset h0
      · rw [List.length_tail]
        omega
  | @item i hc hi =>
      rw [recordItem_item hi]
      obtain ⟨hidle, hpending⟩ := (dispatch_cases hd).stacked h.uPage (h.idle hc)
      have hcount : q.count ≠ 0 → i.tag.isData = true :=
        fun h0 => (hframe.count.resolve_left fun he => h0 (he.trans hc))
      refine ⟨hready, ?_, fun h0 => hidle (.inl h0),
        fun h0 => ⟨usagesOf_main (isMain_of_isData (hcount h0)) _, hpending ⟨h0, hcount h0⟩⟩⟩
      rw [hframe.uPage, uPageOf, ← h.uPage]
      rfl

/-- **In every state an enumeration comes to.** -/
theorem reads_tracks (h : Reads abi p s items) : Tracks abi p.uPage s items := by
  refine h.invariant _ ⟨resetParser_ready p, rfl, fun _ => .nil, fun h0 => absurd rfl h0⟩ ?_
  intro s items q o _ hs hl hb
  exact hs.turn hl hb

end Turn

end Libhid
