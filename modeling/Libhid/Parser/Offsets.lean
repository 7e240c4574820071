import Libhid.Parser.Fetching
import Libhid.Parser.Values

/-!
# Offsets of objects

The report table counts the bits of every report modulo 256.  Next to the parser runs a history
variable, the number the last Report Size item encodes (`recordSize`); the invariant `Counts` ties
the table to the sizes recorded, and `packed_iff` says when the counters give the sums themselves.
-/

namespace Libhid

open Framework

/-! ## The sizes in force -/

/-- The number encoded by the last Report Size item, as the next turn finds or sets it. -/
def recordSize (size : ℕ) (p : HIDParser) : ℕ :=
  if p.count = 0 then
    if h : p.pos.toNat < reportDscSize then
      let item := p.reportDesc[p.pos.toNat]
      if Tag.ofItem item = .repSize then leNat (p.bytesAt (p.pos.toNat + 1) (itemSize item))
      else size
    else size
  else size

/-- The objects a descriptor is enumerated to, each with the report size in force. -/
def sizedObjects (abi : Abi) (p : HIDParser) : List (HIDData × ℕ) :=
  (((parser abi).withHistory recordSize).all (resetParser p, 0)).1

lemma recordSize_pending {p : HIDParser} (hc : p.count ≠ 0) (size : ℕ) :
    recordSize size p = size := if_neg hc

lemma recordSize_item {p : HIDParser} {i : RawItem} (hi : p.nextRaw = some i) (size : ℕ) :
    recordSize size p = if i.tag = .repSize then leNat i.data else size := by
  obtain ⟨hc, hpos, hhead, -, hdata⟩ := nextRaw_eq_some hi
  rw [recordSize, if_pos hc, dif_pos hpos]
  dsimp only
  rw [← hhead, ← hdata]
  rfl

lemma sizedObjects_map (abi : Abi) (p : HIDParser) :
    (sizedObjects abi p).map Prod.fst = (enumerate abi (resetParser p)).1 :=
  Generator.withHistory_all (parser_bounded abi) 0 (resetParser_ready p)

/-- The report an object is part of. -/
def HIDData.report (o : HIDData) : UInt8 × UInt8 := (o.reportID, o.type)

/-- The number of bits of a report that a list of objects takes. -/
def bitsOf (k : UInt8 × UInt8) : List (HIDData × ℕ) → ℕ
  | [] => 0
  | (o, size) :: objects => (if o.report = k then size else 0) + bitsOf k objects

lemma bitsOf_append (k : UInt8 × UInt8) (xs ys : List (HIDData × ℕ)) :
    bitsOf k (xs ++ ys) = bitsOf k xs + bitsOf k ys := by
  induction xs with
  | nil => simp [bitsOf]
  | cons x xs ih =>
      rw [List.cons_append, bitsOf, bitsOf, ih, Nat.add_assoc]

/-- The objects with a report ID, the ones that are counted. -/
def numbered (objects : List (HIDData × ℕ)) : List (HIDData × ℕ) :=
  objects.filter fun x => x.1.reportID != 0

lemma numbered_append (xs ys : List (HIDData × ℕ)) :
    numbered (xs ++ ys) = numbered xs ++ numbered ys := List.filter_append ..

lemma bitsOf_numbered {k : UInt8 × UInt8} (hk : k.1 ≠ 0) (objects : List (HIDData × ℕ)) :
    bitsOf k (numbered objects) = bitsOf k objects := by
  induction objects with
  | nil => rfl
  | cons x objects ih =>
      rw [bitsOf, ← ih, numbered, List.filter_cons]
      by_cases hid : x.1.reportID = 0
      · have hne : ¬ x.1.report = k := fun he => hk (he ▸ hid)
        rw [if_neg hne, Nat.zero_add, hid]
        rfl
      · rw [if_pos (by simpa using hid)]
        rfl

/-- Every object follows the objects of its report delivered before it, and no two share a bit. -/
structure Packed (objects : List (HIDData × ℕ)) : Prop where
  offset : ∀ pre o size post, objects = pre ++ (o, size) :: post →
    o.offset.toNat = bitsOf o.report pre
  disjoint : ∀ pre o size mid o' size' post,
    objects = pre ++ (o, size) :: mid ++ (o', size') :: post → o.report = o'.report →
    ∀ bit, o.offset.toNat ≤ bit → bit < o.offset.toNat + size →
      ¬ (o'.offset.toNat ≤ bit ∧ bit < o'.offset.toNat + size')

/-- Where every object has its offset, ranges are disjoint. -/
lemma Packed.of_offset {objects : List (HIDData × ℕ)}
    (h : ∀ pre o size post, objects = pre ++ (o, size) :: post →
      o.offset.toNat = bitsOf o.report pre) : Packed objects := by
  refine ⟨h, fun pre o size mid o' size' post heq hsame bit _ hlt => ?_⟩
  have hfirst := h pre o size (mid ++ (o', size') :: post) (by simpa using heq)
  have hsecond := h (pre ++ (o, size) :: mid) o' size' post heq
  rw [bitsOf_append, bitsOf, if_pos hsame, ← hsame] at hsecond
  omega

/-! ## The counters -/

/-- The bits counted under a key. -/
def countedBits (tab : Vector ReportRow maxReport) (k : UInt8 × UInt8) : UInt8 :=
  ((lookup ReportRow.free ReportRow.key tab k).map ReportRow.offset).getD 0

lemma rowBits_of_probe {tab : Vector ReportRow maxReport} {k : UInt8 × UInt8}
    {pos : Fin maxReport} (h : probe ReportRow.free ReportRow.key tab k = some pos) :
    rowBits (tab.get pos) = countedBits tab k := by
  rw [countedBits, lookup, h, rowBits]
  simp only [Option.bind_some, ReportRow.free, beq_iff_eq]
  split_ifs <;> first | rfl | contradiction

/-- Counting under a key changes what is counted under that key only. -/
lemma countedBits_set {tab : Vector ReportRow maxReport} {k : UInt8 × UInt8} {pos : Fin maxReport}
    {m : ℕ} (hm : Keyed ReportRow.free ReportRow.key tab m)
    (h : probe ReportRow.free ReportRow.key tab k = some pos) (hid : k.1 ≠ 0) (bits : UInt8)
    (k' : UInt8 × UInt8) : countedBits (tab.set pos (keyRow k bits) pos.isLt) k' =
      if k' = k then bits else countedBits tab k' := by
  have hfree : ReportRow.free (keyRow k bits) = false := by
    simpa using hid
  obtain ⟨-, -, hlookup⟩ := hm.lookup_set h hfree (key_keyRow _ _)
  rw [countedBits, hlookup]
  split_ifs <;> rfl

/-- Without a report ID, nothing is counted: the row written is free again. -/
lemma countedBits_set_free {tab : Vector ReportRow maxReport} {k : UInt8 × UInt8}
    {pos : Fin maxReport} {m : ℕ} (hm : Keyed ReportRow.free ReportRow.key tab m)
    (h : probe ReportRow.free ReportRow.key tab k = some pos) (hid : k.1 = 0) (bits : UInt8) :
    Keyed ReportRow.free ReportRow.key (tab.set pos (keyRow k bits) pos.isLt) m ∧
      ∀ k', countedBits (tab.set pos (keyRow k bits) pos.isLt) k' = countedBits tab k' := by
  have hbehind : m ≤ pos.val := by
    rcases hm.probe_cases h with ⟨hlt, hrow⟩ | ⟨heq, -⟩
    · have hused := hm.used pos pos.isLt hlt
      have hrowid : (tab[pos.val]).id = k.1 := congrArg Prod.fst hrow
      rw [ReportRow.free, hrowid, hid] at hused
      cases hused
    · exact Nat.le_of_eq heq.symm
  have hfree : ReportRow.free (keyRow k bits) = true := by simpa using hid
  obtain ⟨hkeyed, hlookup⟩ := hm.lookup_set_free hbehind hfree
  exact ⟨hkeyed, fun k' => by rw [countedBits, hlookup, countedBits]⟩

/-- What a turn without an object does to the table, the size and the report ID. -/
lemma dispatch_silent {abi : Abi} {p q : HIDParser} (h : dispatch abi p = .ok (q, none)) :
    q.offsetTab = p.offsetTab ∧
      q.data.size = (if Tag.ofItem p.item = .repSize then uchar p.value else p.data.size) ∧
      q.data.reportID = if Tag.ofItem p.item = .repId then uchar p.value else p.data.reportID := by
  unfold dispatch at h
  cases htag : Tag.ofItem p.item <;>
    simp only [htag, except_map_ok, Except.ok.injEq, Prod.mk.injEq, Prod.exists] at h
  case feature | input | output =>
    obtain ⟨r, object, -, -, ho⟩ := h
    cases ho
  case usage =>
    obtain ⟨r, hd, rfl, -⟩ := h
    obtain ⟨-, rfl⟩ := pushUsage_ok hd
    exact ⟨rfl, rfl, rfl⟩
  case collection =>
    obtain ⟨r, hd, rfl, -⟩ := h
    obtain ⟨-, -, path, -, -, -, rfl⟩ := openCollection_ok hd
    exact ⟨rfl, rfl, rfl⟩
  case endCollection =>
    obtain ⟨r, hd, rfl, -⟩ := h
    obtain ⟨-, rfl⟩ := closeCollection_ok hd
    exact ⟨rfl, rfl, rfl⟩
  all_goals
    obtain ⟨rfl, -⟩ := h
    exact ⟨rfl, rfl, rfl⟩

/-- The table holds the sizes recorded of the objects seen, modulo 256. -/
structure Counts (seen : List (HIDData × ℕ)) (p : HIDParser) (size : ℕ) : Prop where
  ready : p.Ready
  keyed : ∃ m, Keyed ReportRow.free ReportRow.key p.offsetTab m
  counted : ∀ k, (countedBits p.offsetTab k).toNat = bitsOf k seen % 256
  size : p.data.size.toNat = size % 256

lemma counts_resetParser (p : HIDParser) : Counts [] (resetParser p) 0 := by
  refine ⟨resetParser_ready p, ⟨0, Keyed.replicate rfl⟩, fun k => ?_, rfl⟩
  rw [countedBits, show (resetParser p).offsetTab = Vector.replicate maxReport .zero from rfl,
    Keyed.lookup_replicate rfl]
  rfl

section Turn

variable {abi : Abi} {seen : List (HIDData × ℕ)} {p q : HIDParser} {size : ℕ}

/-- A silent turn counts nothing, and sets the size if its item is Report Size. -/
lemma Counts.silent (hload : abi.LoadsItems) (h : Counts seen p size) (hl : p.live = true)
    (hb : parseTurn abi p = .ok (q, none)) : Counts seen q (recordSize size p) := by
  obtain ⟨hready, -⟩ := parseTurn_bounded h.ready hl hb
  obtain ⟨r, hr, hd⟩ := parseTurn_finds hb
  obtain ⟨htab, hsize, -⟩ := dispatch_silent hd
  cases hr with
  | pending hc =>
      rw [if_neg (h.ready.tag_ne hc rfl)] at hsize
      refine ⟨hready, htab ▸ h.keyed, htab ▸ h.counted, ?_⟩
      rw [hsize, recordSize_pending hc]
      exact h.size
  | @item i hc hi =>
      refine ⟨hready, htab ▸ h.keyed, htab ▸ h.counted, ?_⟩
      rw [hsize, recordSize_item hi]
      show (if i.tag = .repSize then uchar (i.value abi) else p.data.size).toNat = _
      split_ifs
      · exact uchar_load hload (data_length_le hi)
      · exact h.size

/-- A turn with an object finds the bits counted before it, and counts its size if the object has a
report ID. -/
lemma Counts.object {o : HIDData} (h : Counts seen p size) (hl : p.live = true)
    (hb : parseTurn abi p = .ok (q, some o)) :
    recordSize size p = size ∧ o.size.toNat = size % 256 ∧
      (o.reportID ≠ 0 → o.offset.toNat = bitsOf o.report seen % 256) ∧
      Counts (seen ++ numbered [(o, size)]) q size := by
  obtain ⟨hready, -⟩ := parseTurn_bounded h.ready hl hb
  obtain ⟨r, hr, hd⟩ := parseTurn_finds hb
  obtain ⟨hdata, ⟨t⟩⟩ := dispatch_object hd
  -- the fetch changed neither the table nor the size, and the item is not Report Size
  have hfetch : r.offsetTab = p.offsetTab ∧ r.data = p.data ∧ recordSize size p = size := by
    cases hr with
    | pending hc => exact ⟨rfl, rfl, recordSize_pending hc size⟩
    | @item i hc hi =>
        refine ⟨rfl, rfl, (recordSize_item hi size).trans (if_neg ?_)⟩
        exact ne_of_isData hdata rfl
  obtain ⟨htab, hdat, hrec⟩ := hfetch
  have hkey : o.report = r.reportKey := t.key
  have hfound : probe ReportRow.free ReportRow.key p.offsetTab o.report = some t.pos := by
    rw [hkey, ← htab]
    exact t.found
  have hbefore : o.offset = countedBits p.offsetTab o.report := by
    rw [t.offset, htab, rowBits_of_probe hfound]
  have hosize : o.size.toNat = size % 256 := by
    rw [t.size, hdat]
    exact h.size
  have hqsize : q.data.size.toNat = size % 256 := by
    rw [t.data]
    exact hosize
  have hset : q.offsetTab = p.offsetTab.set t.pos (keyRow o.report
      (bitsBefore o.report (p.offsetTab.get t.pos) + p.data.size)) t.pos.isLt := by
    rw [t.offsetTab, htab, hdat, hkey]
  obtain ⟨m, hm⟩ := h.keyed
  refine ⟨hrec, hosize, fun _ => by rw [hbefore, h.counted], ?_⟩
  by_cases hid : o.reportID = 0
  · -- report ID 0 has no row, and the one written is free again
    have hnone : numbered [(o, size)] = [] := by simp [numbered, hid]
    obtain ⟨hkeyed, hcounted⟩ := countedBits_set_free hm hfound hid
      (bitsBefore o.report (p.offsetTab.get t.pos) + p.data.size)
    rw [hnone, List.append_nil]
    refine ⟨hready, ⟨m, by rw [hset]; exact hkeyed⟩, fun k => ?_, hqsize⟩
    rw [hset, hcounted]
    exact h.counted k
  · have hone : numbered [(o, size)] = [(o, size)] := by simp [numbered, hid]
    have hcounted : q.offsetTab = p.offsetTab.set t.pos (keyRow o.report
        (o.offset + p.data.size)) t.pos.isLt := by
      rw [hset, bitsBefore, if_pos (show o.report.1 ≠ 0 from hid), t.offset, htab]
    have hfree : ReportRow.free (keyRow o.report (o.offset + p.data.size)) = false := by
      simpa [HIDData.report] using hid
    obtain ⟨m', hm', -⟩ := hm.lookup_set hfound hfree (key_keyRow _ _)
    rw [hone]
    refine ⟨hready, ⟨m', by rw [hcounted]; exact hm'⟩, fun k => ?_, hqsize⟩
    rw [hcounted, countedBits_set hm hfound hid, bitsOf_append, bitsOf, bitsOf]
    by_cases hk : k = o.report
    · subst hk
      rw [if_pos rfl, if_pos rfl, UInt8.toNat_add, hbefore, h.counted, h.size]
      omega
    · rw [if_neg hk, if_neg (fun he => hk he.symm)]
      exact h.counted k

end Turn

/-- What is delivered has the sizes recorded and, with a report ID, their sums as offsets, modulo
256. -/
lemma Counts.emits {abi : Abi} (hload : abi.LoadsItems) {s : HIDParser × ℕ}
    {ys : List (HIDData × ℕ)} {r : Except Stop (HIDParser × ℕ)}
    (he : ((parser abi).withHistory recordSize).Emits s ys r) :
    ∀ {seen : List (HIDData × ℕ)}, Counts (numbered seen) s.1 s.2 →
      ∀ pre o size post, ys = pre ++ (o, size) :: post → o.size.toNat = size % 256 ∧
        (o.reportID ≠ 0 → o.offset.toNat = bitsOf o.report (seen ++ pre) % 256) := by
  induction he with
  | done hl =>
      intro seen h pre o size post heq
      simp at heq
  | fail hl hb =>
      intro seen h pre o size post heq
      simp at heq
  | @silent s s' ys r hl hb _ ih =>
      intro seen h
      obtain ⟨hrec, o', hb', ho⟩ := Generator.withHistory_body_ok hb
      cases o' with
      | some a => cases ho
      | none =>
          have h' := h.silent hload hl hb'
          rw [← hrec] at h'
          exact ih h'
  | @emit s s' y ys r hl hb _ ih =>
      intro seen h pre o size post heq
      obtain ⟨hrec, o', hb', ho⟩ := Generator.withHistory_body_ok hb
      cases o' with
      | none => cases ho
      | some a =>
          cases ho
          obtain ⟨hsize, hasize, hoffset, h'⟩ := h.object hl hb'
          rw [← hrec] at hsize
          cases pre with
          | nil =>
              cases heq
              rw [List.append_nil]
              refine ⟨by rw [hsize]; exact hasize, fun hid => ?_⟩
              rw [hoffset hid, bitsOf_numbered hid]
          | cons y pre =>
              cases heq
              rw [← hsize, ← numbered_append] at h'
              have hrest := ih h' pre o size post rfl
              rwa [List.append_assoc] at hrest

/-- Where items are not loaded, no report ID and no size is ever set. -/
lemma emits_zero {abi : Abi} (hload : ¬ abi.LoadsItems) {p : HIDParser}
    {ys : List HIDData} {r : Except Stop HIDParser} (he : (parser abi).Emits p ys r)
    (hready : p.Ready) (hid : p.data.reportID = 0) (hsize : p.data.size = 0) :
    ∀ o ∈ ys, o.reportID = 0 ∧ o.size = 0 := by
  induction he with
  | done hl => simp
  | fail hl hb => simp
  | @silent p q ys r hl hb _ ih =>
      obtain ⟨hready', -⟩ := parseTurn_bounded hready hl hb
      obtain ⟨r, hr, hd⟩ := parseTurn_finds hb
      obtain ⟨-, hsetSize, hsetID⟩ := dispatch_silent hd
      cases hr with
      | pending hc =>
          rw [if_neg (hready.tag_ne hc rfl)] at hsetSize hsetID
          exact ih hready' (hsetID.trans hid) (hsetSize.trans hsize)
      | @item i hc hi =>
          have hzero : uchar (i.value abi) = 0 := uchar_load_zero hload (data_length_le hi)
          refine ih hready' ?_ ?_
          · rw [hsetID]
            show (if i.tag = .repId then uchar (i.value abi) else p.data.reportID) = 0
            rw [hzero, hid, ite_self]
          · rw [hsetSize]
            show (if i.tag = .repSize then uchar (i.value abi) else p.data.size) = 0
            rw [hzero, hsize, ite_self]
  | @emit p q o ys r hl hb _ ih =>
      obtain ⟨hready', -⟩ := parseTurn_bounded hready hl hb
      obtain ⟨r, hr, hd⟩ := parseTurn_finds hb
      obtain ⟨-, ⟨t⟩⟩ := dispatch_object hd
      have hdat : r.data = p.data := by
        cases hr with
        | pending hc => rfl
        | item hc hi => rfl
      have hoid : o.reportID = 0 := by
        have hkey : o.reportID = r.data.reportID := congrArg Prod.fst t.key
        rw [hkey, hdat, hid]
      have hosize : o.size = 0 := by rw [t.size, hdat, hsize]
      have hrest := ih hready' (by rw [t.data]; exact hoid) (by rw [t.data]; exact hosize)
      intro x hx
      rcases List.mem_cons.mp hx with rfl | hx
      · exact ⟨hoid, hosize⟩
      · exact hrest x hx

section Sized

variable {abi : Abi} {p : HIDParser} {pre post : List (HIDData × ℕ)} {o : HIDData} {size : ℕ}

/-- Where items are loaded, an object has the size recorded and, with a report ID, the sizes before
it as its offset, modulo 256. -/
lemma sizedObjects_loaded (hload : abi.LoadsItems)
    (h : sizedObjects abi p = pre ++ (o, size) :: post) : o.size.toNat = size % 256 ∧
      (o.reportID ≠ 0 → o.offset.toNat = bitsOf o.report pre % 256) := by
  have hb : ((parser abi).withHistory recordSize).Bounded fun s => s.1.Ready :=
    Generator.withHistory_bounded (parser_bounded abi)
  have he := hb.emits_all (s := (resetParser p, 0)) (resetParser_ready p)
  have hstart : Counts (numbered []) (resetParser p) 0 := counts_resetParser p
  exact Counts.emits hload he hstart pre o size post h

/-- Where they are not, it has neither a report ID nor a size. -/
lemma sizedObjects_shifted (hload : ¬ abi.LoadsItems)
    (h : sizedObjects abi p = pre ++ (o, size) :: post) : o.reportID = 0 ∧ o.size = 0 := by
  have he := (parser_bounded abi).emits_all (resetParser_ready p)
  have hmem : o ∈ (enumerate abi (resetParser p)).1 := by
    rw [← sizedObjects_map, h]
    simp
  exact emits_zero hload he (resetParser_ready p) rfl rfl o hmem

/-- **The offset of an object with a report ID**, on every platform. -/
lemma sizedObjects_offset (h : sizedObjects abi p = pre ++ (o, size) :: post)
    (hid : o.reportID ≠ 0) : o.offset.toNat = bitsOf o.report pre % 256 := by
  by_cases hload : abi.LoadsItems
  · exact (sizedObjects_loaded hload h).2 hid
  · exact absurd (sizedObjects_shifted hload h).1 hid

end Sized

/-! ## When the counters are the sums -/

/-- No object is preceded by more than 255 bits of its report. -/
def FitCounters (objects : List (HIDData × ℕ)) : Prop :=
  ∀ pre o size post, objects = pre ++ (o, size) :: post → bitsOf o.report pre ≤ 255

section Fitting

variable {abi : Abi} {p : HIDParser} {objects : List (HIDData × ℕ)}

/-- Reports of at most 255 bits fit the counters. -/
lemma FitCounters.of_total (h : ∀ x ∈ objects, bitsOf x.1.report objects ≤ 255) :
    FitCounters objects := by
  intro pre o size post heq
  have hle := h (o, size) (by rw [heq]; simp)
  rw [heq, bitsOf_append] at hle
  exact Nat.le_trans (Nat.le_add_right _ _) hle

/-- Counters that do not wrap are the sums. -/
lemma FitCounters.packed (h : FitCounters (sizedObjects abi p))
    (hid : ∀ o ∈ (enumerate abi (resetParser p)).1, o.reportID ≠ 0) :
    Packed (sizedObjects abi p) := by
  refine .of_offset fun pre o size post heq => ?_
  have hle := h pre o size post heq
  rw [sizedObjects_offset heq (hid o (by rw [← sizedObjects_map, heq]; simp))]
  omega

end Fitting

/-- **Objects have their offsets exactly when no object is preceded by more than 255 bits of its
report.** -/
theorem packed_iff (abi : Abi) (p : HIDParser)
    (hid : ∀ o ∈ (enumerate abi (resetParser p)).1, o.reportID ≠ 0) :
    Packed (sizedObjects abi p) ↔ FitCounters (sizedObjects abi p) := by
  refine ⟨fun h pre o size post heq => ?_, fun h => h.packed hid⟩
  have hsum := h.offset pre o size post heq
  have hlt := o.offset.toNat_lt
  omega

/-- Two reports of 8 and 16 bits fields, interleaved. -/
def interleaved : List UInt8 :=
  [0x05, 0x01, 0x09, 0x01, 0xA1, 0x01, 0x95, 0x01, 0x85, 0x01, 0x75, 0x08, 0x09, 0x02, 0xB1, 0x02,
    0x85, 0x02, 0x75, 0x10, 0x09, 0x03, 0xB1, 0x02, 0x85, 0x01, 0x09, 0x04, 0xB1, 0x02, 0xC0]

/-- `packed_iff` for two reports interleaved. -/
theorem packed_iff_interleaved :
    Packed (sizedObjects (.little .w64 true) (.holding interleaved)) := by
  have hids : ((enumerate (.little .w64 true) (resetParser (.holding interleaved))).1.all fun o =>
      o.reportID != 0) = true := by
    decide +kernel
  have htotal : ((sizedObjects (.little .w64 true) (.holding interleaved)).all fun x =>
      decide (bitsOf x.1.report (sizedObjects (.little .w64 true) (.holding interleaved)) ≤ 255)) =
      true := by
    decide +kernel
  exact (packed_iff _ _ fun o ho => by simpa using List.all_eq_true.mp hids o ho).mpr
    (.of_total fun x hx => of_decide_eq_true (List.all_eq_true.mp htotal x hx))

/-- A descriptor with one feature field of three times 128 bits in report 2. -/
def longReport : List UInt8 :=
  [0x05, 0x01, 0x09, 0x01, 0xA1, 0x01, 0x85, 0x02, 0x75, 0x80, 0x95, 0x03, 0x09, 0x02, 0xB1, 0x02,
    0xC0]

/-- Not every object has its offset: the third object of 128 bits is at offset 0 again. -/
theorem packed_fails : ¬ ∀ (abi : Abi) (p : HIDParser),
    (∀ o ∈ (enumerate abi (resetParser p)).1, o.reportID ≠ 0) → Packed (sizedObjects abi p) := by
  intro hall
  have hids : ((enumerate (.little .w64 true) (resetParser (.holding longReport))).1.all fun o =>
      o.reportID != 0) = true := by
    decide +kernel
  have hpacked := hall (.little .w64 true) (.holding longReport) fun o ho => by
    simpa using List.all_eq_true.mp hids o ho
  obtain ⟨a, b, c, heq⟩ : ∃ a b c, sizedObjects (.little .w64 true) (.holding longReport) =
      [a, b, c] := List.length_eq_three.mp (by decide +kernel)
  have hthird : ((sizedObjects (.little .w64 true) (.holding longReport))[2]?.map fun x =>
      (x.1.report, x.1.offset.toNat)) = some ((2, Tag.feature.code), 0) := by
    decide +kernel
  have hbefore : bitsOf (2, Tag.feature.code)
      ((sizedObjects (.little .w64 true) (.holding longReport)).take 2) = 256 := by
    decide +kernel
  have hoffset := hpacked.offset [a, b] c.1 c.2 [] heq
  rw [heq] at hthird hbefore
  simp only [List.getElem?_cons_succ, List.getElem?_cons_zero, Option.map_some, Option.some.injEq,
    Prod.mk.injEq] at hthird
  rw [hthird.1, hthird.2] at hoffset
  exact absurd (hoffset.trans hbefore) (by decide)

end Libhid
