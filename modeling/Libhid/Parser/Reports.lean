import Libhid.Parser.Counting

/-!
# The report table as a map

`GetReportOffset` looks a key up, inserts it where it finds it missing, and takes the first row with
report ID 0 for the end of the table.  Next to the parser runs the list of the keys under which
objects were counted, each with the cell its first search returned (`recordUse`).  What a map from
keys to counters would answer is `Answers`; `reportMap_iff` says when every search made by an
enumeration answers so.
-/

namespace Libhid

open Framework

/-! ## The searches of an object -/

/-- What a search returns: the cell, the table and the number of reports. -/
abbrev Searched := Fin maxReport × Vector ReportRow maxReport × UInt8

/-- The search for the offset of the object. -/
def HIDParser.firstCall (p : HIDParser) : Option Searched :=
  getReportOffset p.offsetTab p.nReport p.reportKey.1 p.reportKey.2

/-- The search for the counter to increment, after the first one. -/
def HIDParser.secondCall (p : HIDParser) (a : Searched) : Option Searched :=
  getReportOffset a.2.1 a.2.2 p.reportKey.1 p.reportKey.2

/-- An object counted: its key, the cell returned for it and its size. -/
structure Use where
  key : UInt8 × UInt8
  cell : Option (Fin maxReport)
  size : UInt8

/-- What the next turn counts. -/
def HIDParser.use (abi : Abi) (p : HIDParser) : Option Use :=
  match nextItem abi p with
  | .error _ => none
  | .ok r =>
      if (Tag.ofItem r.item).isData then
        some ⟨r.reportKey, r.firstCall.map Prod.fst, r.data.size⟩
      else none

/-- The objects counted, the last one first. -/
def recordUse (abi : Abi) (uses : List Use) (p : HIDParser) : List Use :=
  (p.use abi).toList ++ uses

/-- The enumeration comes to a state after these uses of the table. -/
def Uses (abi : Abi) (p s : HIDParser) (uses : List Use) : Prop :=
  ((parser abi).withHistory (recordUse abi)).Reaches (resetParser p, []) (s, uses)

/-- The keys used. -/
def keysOf (uses : List Use) : Finset (UInt8 × UInt8) := (uses.map Use.key).toFinset

@[simp] lemma keysOf_cons (use : Use) (uses : List Use) :
    keysOf (use :: uses) = insert use.key (keysOf uses) :=
  List.toFinset_cons

/-- The bits counted under a key. -/
def totalOf (k : UInt8 × UInt8) : List Use → ℕ
  | [] => 0
  | use :: uses => (if use.key = k then use.size.toNat else 0) + totalOf k uses

/-- The turn from `s` comes to the searches in the state `r`. -/
structure Calls (abi : Abi) (s r : HIDParser) : Prop where
  live : s.live = true
  item : nextItem abi s = .ok r
  data : (Tag.ofItem r.item).isData = true
  node : r.data.path.size.toNat < pathSize
  usages : r.usageSize.toNat ≤ 49

/-! ## The map -/

/-- The answer of a map from keys to counters of 8 bits: the counter of the key, in a cell that is
the key's own, and the number of keys with this one. -/
structure Answers (uses : List Use) (key : UInt8 × UInt8) (a : Searched) : Prop where
  value : (a.2.1.get a.1).offset.toNat = totalOf key uses % 256
  cell : ∀ use ∈ uses, use.key = key ↔ use.cell = some a.1
  nReport : a.2.2.toNat = (insert key (keysOf uses)).card % 256

/-- Both searches of an object return the same cell, and answer as the map does. -/
def MapCalls (uses : List Use) (r : HIDParser) : Prop :=
  ∃ a b, r.firstCall = some a ∧ r.secondCall a = some b ∧ b.1 = a.1 ∧
    Answers uses r.reportKey a ∧ Answers uses r.reportKey b

/-- The report table behaves as a map in every state of the enumeration. -/
structure ReportMap (abi : Abi) (p : HIDParser) : Prop where
  calls : ∀ s uses r, Uses abi p s uses → Calls abi s r → MapCalls uses r
  nReport : ∀ s uses, Uses abi p s uses → s.nReport.toNat = (keysOf uses).card % 256

/-- No object is counted under the report ID 0, and the keys do not exceed the rows. -/
def KeysFit (abi : Abi) (p : HIDParser) : Prop :=
  ∀ s uses r, Uses abi p s uses → Calls abi s r →
    r.data.reportID ≠ 0 ∧ (insert r.reportKey (keysOf uses)).card ≤ maxReport

/-! ## The table holds the map -/

/-- The rows in use are those of the keys used, each with the bits counted under its key. -/
structure Mapped (uses : List Use) (tab : Vector ReportRow maxReport) (nReport : UInt8) :
    Prop where
  indexed : Indexed ReportRow.free ReportRow.key tab (keysOf uses)
  cells : ∀ use ∈ uses, ∃ pos : Fin maxReport, use.cell = some pos ∧
    pos.val < (keysOf uses).card ∧ (tab.get pos).key = use.key
  value : ∀ k, (countedBits tab k).toNat = totalOf k uses % 256
  nReport : nReport.toNat = (keysOf uses).card % 256

lemma Mapped.nil : Mapped [] (Vector.replicate maxReport .zero) 0 := by
  refine ⟨Indexed.replicate rfl, fun use huse => absurd huse List.not_mem_nil, fun k => ?_, rfl⟩
  rw [countedBits, Keyed.lookup_replicate rfl]
  rfl

section Search

variable {uses : List Use} {tab : Vector ReportRow maxReport} {n : UInt8} {k : UInt8 × UInt8}
  {pos : Fin maxReport} {r : HIDParser}

/-- The row at which a search ends is in use if and only if its key was used. -/
lemma Mapped.row_iff (h : Mapped uses tab n)
    (hp : probe ReportRow.free ReportRow.key tab k = some pos) :
    (tab.get pos).id ≠ 0 ↔ k ∈ keysOf uses := by
  rcases h.indexed.probe_cases hp with ⟨hk, hlt, -⟩ | ⟨hk, heq⟩
  · have hused := h.indexed.keyed.used pos pos.isLt hlt
    simpa [ReportRow.free, hk, get_eq_getElem] using hused
  · have hrest := h.indexed.keyed.rest pos pos.isLt (Nat.le_of_eq heq.symm)
    simpa [ReportRow.free, hk, get_eq_getElem] using hrest

/-- The cell of a use is the one the search ends at if and only if its key is the one searched. -/
lemma Mapped.cell_iff (h : Mapped uses tab n)
    (hp : probe ReportRow.free ReportRow.key tab k = some pos) :
    ∀ use ∈ uses, use.key = k ↔ use.cell = some pos := by
  intro use huse
  obtain ⟨pos', hcell, hlt', hkey'⟩ := h.cells use huse
  rw [hcell, Option.some.injEq]
  rcases h.indexed.probe_cases hp with ⟨hk, hlt, hkey⟩ | ⟨hk, heq⟩
  · constructor
    · intro hsame
      exact Fin.ext (h.indexed.keyed.inj pos' pos pos'.isLt pos.isLt hlt' hlt
        (hkey'.trans (hsame.trans hkey.symm)))
    · rintro rfl
      exact hkey'.symm.trans hkey
  · constructor
    · rintro rfl
      exact absurd (List.mem_toFinset.mpr (List.mem_map_of_mem huse)) hk
    · rintro rfl
      omega

/-- The number of reports after a search. -/
lemma Mapped.count (h : Mapped uses tab n)
    (hp : probe ReportRow.free ReportRow.key tab k = some pos) :
    (if (tab.get pos).id ≠ 0 then n else n + 1).toNat = (insert k (keysOf uses)).card % 256 := by
  by_cases hk : k ∈ keysOf uses
  · rw [if_pos ((h.row_iff hp).mpr hk), Finset.insert_eq_of_mem hk]
    exact h.nReport
  · rw [if_neg (mt (h.row_iff hp).mp hk), Finset.card_insert_of_notMem hk, UInt8.toNat_add,
      h.nReport]
    show ((keysOf uses).card % 256 + 1) % 256 = _
    omega

/-- What the first search of an object returns, if it ends at `pos`. -/
def HIDParser.firstFound (r : HIDParser) (pos : Fin maxReport) : Searched :=
  (pos, r.offsetTab.set pos (keyRow r.reportKey (rowBits (r.offsetTab.get pos))) pos.isLt,
    if (r.offsetTab.get pos).id ≠ 0 then r.nReport else r.nReport + 1)

/-- What the second search returns: report ID 0 has no row, and is inserted once more. -/
def HIDParser.secondFound (r : HIDParser) (pos : Fin maxReport) : Searched :=
  (pos, r.offsetTab.set pos (keyRow r.reportKey (bitsBefore r.reportKey (r.offsetTab.get pos)))
      pos.isLt,
    if r.data.reportID ≠ 0 then (r.firstFound pos).2.2 else (r.firstFound pos).2.2 + 1)

lemma firstCall_eq (hp : probe ReportRow.free ReportRow.key r.offsetTab r.reportKey = some pos) :
    r.firstCall = some (r.firstFound pos) :=
  getReportOffset_eq_some hp

lemma secondCall_eq (hp : probe ReportRow.free ReportRow.key r.offsetTab r.reportKey = some pos) :
    r.secondCall (r.firstFound pos) = some (r.secondFound pos) := by
  have hagain : probe ReportRow.free ReportRow.key (r.firstFound pos).2.1
      (r.reportKey.1, r.reportKey.2) = some pos :=
    probe_set hp (key_keyRow r.reportKey _)
  rw [HIDParser.secondCall, getReportOffset_eq_some hagain]
  simp [HIDParser.firstFound, HIDParser.secondFound, get_eq_getElem, rowBits_keyRow, bitsBefore]
  rfl

lemma firstCall_eq_none
    (hp : probe ReportRow.free ReportRow.key r.offsetTab r.reportKey = none) :
    r.firstCall = none := by
  unfold HIDParser.firstCall getReportOffset
  rw [hp]

/-- The searches of an object, where they return something. -/
lemma firstCall_eq_some {a : Searched} (h : r.firstCall = some a) :
    ∃ pos, probe ReportRow.free ReportRow.key r.offsetTab r.reportKey = some pos ∧
      a = r.firstFound pos := by
  cases hp : probe ReportRow.free ReportRow.key r.offsetTab r.reportKey with
  | none =>
      rw [firstCall_eq_none hp] at h
      cases h
  | some pos =>
      rw [firstCall_eq hp] at h
      exact ⟨pos, rfl, (Option.some.inj h).symm⟩

lemma bitsBefore_key (hid : r.data.reportID ≠ 0) (row : ReportRow) :
    bitsBefore r.reportKey row = rowBits row := if_pos hid

/-- Where the map is held, the searches answer as it does if and only if the report ID is not 0 and
there is a row for the key. -/
lemma Mapped.calls_iff (h : Mapped uses r.offsetTab r.nReport) :
    MapCalls uses r ↔
      r.data.reportID ≠ 0 ∧ (insert r.reportKey (keysOf uses)).card ≤ maxReport := by
  constructor
  · rintro ⟨a, b, hfirst, hsecond, -, ha, hb⟩
    obtain ⟨pos, hp, rfl⟩ := firstCall_eq_some hfirst
    rw [secondCall_eq hp] at hsecond
    cases hsecond
    constructor
    · intro hzero
      -- the second search counts a report once more
      have hagain := hb.nReport.trans ha.nReport.symm
      rw [HIDParser.secondFound, if_neg (not_not.mpr hzero), UInt8.toNat_inj] at hagain
      exact absurd hagain (by simp)
    · by_contra hgt
      rw [h.indexed.probe_eq_none_iff.mpr (Nat.not_le.mp hgt)] at hp
      cases hp
  · rintro ⟨hid, hcard⟩
    cases hp : probe ReportRow.free ReportRow.key r.offsetTab r.reportKey with
    | none => exact absurd (h.indexed.probe_eq_none_iff.mp hp) (Nat.not_lt.mpr hcard)
    | some pos =>
        have hvalue := h.value r.reportKey
        rw [← rowBits_of_probe hp] at hvalue
        refine ⟨_, _, firstCall_eq hp, secondCall_eq hp, rfl,
          ⟨?_, h.cell_iff hp, h.count hp⟩, ⟨?_, h.cell_iff hp, ?_⟩⟩
        · rw [HIDParser.firstFound, get_set_self]
          exact hvalue
        · rw [HIDParser.secondFound, get_set_self, bitsBefore_key hid]
          exact hvalue
        · rw [HIDParser.secondFound, if_pos hid]
          exact h.count hp

end Search

/-! ## Along an enumeration -/

section Turn

variable {abi : Abi} {uses : List Use} {p s q r : HIDParser} {o : HIDData}
  {out : Option HIDData}

/-- A turn that delivers an object made both searches. -/
lemma dataItem_nReport (h : dataItem r = .ok (q, o)) :
    ∃ pos, probe ReportRow.free ReportRow.key r.offsetTab r.reportKey = some pos ∧
      q.nReport = (r.secondFound pos).2.2 := by
  simp only [dataItem, except_bind_ok] at h
  obtain ⟨path, -, ⟨tab, n⟩, -, a, h₃, b, h₄, h₅⟩ := h
  have hfirst : r.firstCall = some a := derefOffset_eq_ok h₃
  obtain ⟨pos, hp, rfl⟩ := firstCall_eq_some hfirst
  have hsecond : r.secondCall (r.firstFound pos) = some b := derefOffset_eq_ok h₄
  rw [secondCall_eq hp] at hsecond
  cases hsecond
  refine ⟨pos, hp, ?_⟩
  cases h₅
  split_ifs <;> rfl

/-- A data item whose report has a row and an ID keeps the map. -/
lemma Mapped.object (h : Mapped uses r.offsetTab r.nReport) (hid : r.data.reportID ≠ 0)
    (hd : dataItem r = .ok (q, o)) :
    Mapped (⟨r.reportKey, r.firstCall.map Prod.fst, r.data.size⟩ :: uses) q.offsetTab
      q.nReport := by
  obtain ⟨pos, hp, hn⟩ := dataItem_nReport hd
  obtain ⟨t⟩ := dataItem_ok hd
  have hpos : t.pos = pos := Option.some.inj (t.found.symm.trans hp)
  have htab := t.offsetTab
  rw [hpos, bitsBefore_key hid] at htab
  have hfree : ReportRow.free (keyRow r.reportKey
      (rowBits (r.offsetTab.get pos) + r.data.size)) = false := by
    simpa [HIDParser.reportKey] using hid
  have hcells : ∀ use ∈ uses, ∃ pos' : Fin maxReport, use.cell = some pos' ∧
      pos'.val < (insert r.reportKey (keysOf uses)).card ∧
        (q.offsetTab.get pos').key = use.key := by
    intro use huse
    obtain ⟨pos', hcell, hlt, hkey⟩ := h.cells use huse
    have hle : (keysOf uses).card ≤ (insert r.reportKey (keysOf uses)).card :=
      Finset.card_le_card (Finset.subset_insert _ _)
    refine ⟨pos', hcell, Nat.lt_of_lt_of_le hlt hle, ?_⟩
    rw [htab]
    by_cases hsame : pos' = pos
    · have hk := (h.cell_iff hp use huse).mpr (hcell.trans (congrArg some hsame))
      rw [hsame, get_set_self, key_keyRow, hk]
    · rw [get_eq_getElem, Vector.getElem_set_ne _ _ (fun he => hsame (Fin.ext he.symm))]
      exact hkey
  refine ⟨?_, ?_, fun k => ?_, ?_⟩
  · rw [htab, keysOf_cons]
    exact h.indexed.set hp hfree (key_keyRow _ _)
  · rw [keysOf_cons]
    intro use huse
    rcases List.mem_cons.mp huse with rfl | huse
    · refine ⟨pos, ?_, ?_, ?_⟩
      · rw [firstCall_eq hp]
        rfl
      · rcases h.indexed.probe_cases hp with ⟨hk, hlt, -⟩ | ⟨hk, heq⟩
        · rw [Finset.insert_eq_of_mem hk]
          exact hlt
        · rw [Finset.card_insert_of_notMem hk, heq]
          exact Nat.lt_succ_self _
      · rw [htab, get_set_self, key_keyRow]
    · exact hcells use huse
  · rw [htab, countedBits_set h.indexed.keyed hp hid, totalOf]
    by_cases hk : k = r.reportKey
    · rw [if_pos hk, if_pos hk.symm, UInt8.toNat_add, rowBits_of_probe hp, h.value, hk]
      dsimp only
      omega
    · rw [if_neg hk, if_neg (fun he => hk he.symm), Nat.zero_add]
      exact h.value k
  · rw [keysOf_cons, hn, HIDParser.secondFound, if_pos hid]
    exact h.count hp

/-- The item fetch leaves the table. -/
lemma nextItem_tab (h : nextItem abi s = .ok r) :
    r.offsetTab = s.offsetTab ∧ r.nReport = s.nReport := by
  cases nextItem_cases h with
  | pending hc => exact ⟨rfl, rfl⟩
  | item hc hi => exact ⟨rfl, rfl⟩

/-- A turn keeps the map, if it counts nothing under the report ID 0. -/
lemma Mapped.turn (h : Mapped uses s.offsetTab s.nReport) (hl : s.live = true)
    (hid : ∀ r, Calls abi s r → r.data.reportID ≠ 0) (hb : parseTurn abi s = .ok (q, out)) :
    Mapped (recordUse abi uses s) q.offsetTab q.nReport := by
  obtain ⟨r, hr, hd⟩ := except_bind_ok.mp hb
  obtain ⟨htab, hn⟩ := nextItem_tab hr
  rw [← htab, ← hn] at h
  rw [recordUse, HIDParser.use, hr]
  dsimp only
  by_cases hdata : (Tag.ofItem r.item).isData = true
  · rw [dispatch_data hdata, except_map_ok] at hd
    obtain ⟨⟨q', o⟩, hobject, hsame⟩ := hd
    cases hsame
    obtain ⟨t⟩ := dataItem_ok hobject
    have hcalls : Calls abi s r := ⟨hl, hr, hdata, t.room, (unstackUsage_ok t.unstacked).1⟩
    rw [if_pos hdata]
    exact h.object (hid r hcalls) hobject
  · rw [if_neg hdata]
    cases dispatch_cases hd with
    | usage htag hpush =>
        obtain ⟨-, rfl⟩ := pushUsage_ok hpush
        exact h
    | collection htag hopen =>
        obtain ⟨path, stack, path', -, -, -, rfl⟩ := openCollection_ok hopen
        exact h
    | endCollection htag hclose =>
        obtain ⟨-, rfl⟩ := closeCollection_ok hclose
        exact h
    | object hdata' t => exact absurd hdata' hdata
    | global hmain husage htab' hsize hpath hrows hcount =>
        rw [hrows, hcount]
        exact h

/-- Where nothing is counted under the report ID 0 as long as the map is held, it is held in every
state of the enumeration. -/
lemma Uses.mapped (h : Uses abi p s uses)
    (hid : ∀ s uses r, Uses abi p s uses → Calls abi s r → Mapped uses r.offsetTab r.nReport →
      r.data.reportID ≠ 0) : Mapped uses s.offsetTab s.nReport := by
  refine Generator.Reaches.invariant (fun x => Mapped x.2 x.1.offsetTab x.1.nReport) h .nil ?_
  rintro ⟨u, c⟩ ⟨u', c'⟩ out hr hu hl hb
  obtain ⟨rfl, out', hb', -⟩ := Generator.withHistory_body_ok hb
  refine Mapped.turn hu hl (fun r hcalls => hid u c r hr hcalls ?_) hb'
  obtain ⟨htab, hn⟩ := nextItem_tab hcalls.item
  rw [htab, hn]
  exact hu

/-- **The report table behaves as a map if and only if no object is counted under the report ID 0
and the keys used do not exceed the rows.** -/
theorem reportMap_iff (abi : Abi) (p : HIDParser) : ReportMap abi p ↔ KeysFit abi p := by
  constructor
  · intro hmap s uses r hs hcalls
    have hfit : ∀ s uses r, Uses abi p s uses → Calls abi s r →
        Mapped uses r.offsetTab r.nReport →
          r.data.reportID ≠ 0 ∧ (insert r.reportKey (keysOf uses)).card ≤ maxReport :=
      fun s uses r hs hcalls hmapped => hmapped.calls_iff.mp (hmap.calls s uses r hs hcalls)
    have hmapped := hs.mapped fun s uses r hs hcalls hm => (hfit s uses r hs hcalls hm).1
    obtain ⟨htab, hn⟩ := nextItem_tab hcalls.item
    rw [← htab, ← hn] at hmapped
    exact hfit s uses r hs hcalls hmapped
  · intro hfit
    have hmapped : ∀ {s uses}, Uses abi p s uses → Mapped uses s.offsetTab s.nReport :=
      fun hs => hs.mapped fun s uses r hs hcalls _ => (hfit s uses r hs hcalls).1
    refine ⟨fun s uses r hs hcalls => ?_, fun s uses hs => (hmapped hs).nReport⟩
    have hm := hmapped hs
    obtain ⟨htab, hn⟩ := nextItem_tab hcalls.item
    rw [← htab, ← hn] at hm
    exact hm.calls_iff.mpr (hfit s uses r hs hcalls)

end Turn

/-- A feature item in a report without an ID. -/
def withoutID : List UInt8 :=
  [0x05, 0x01, 0x09, 0x01, 0xA1, 0x01, 0x75, 0x08, 0x95, 0x01, 0x09, 0x02, 0xB1, 0x02, 0xC0]

/-- The table does not always behave as a map: one key used without a report ID counts as two
reports. -/
theorem reportMap_fails : ¬ ReportMap (.little .w64 true) (.holding withoutID) := by
  intro hmap
  have hrun : (((parser (.little .w64 true)).withHistory (recordUse (.little .w64 true))).after 7
      (resetParser (.holding withoutID), [])).any (fun x =>
        x.1.nReport == 2 && (keysOf x.2).card == 1) = true := by
    decide +kernel
  obtain ⟨⟨s, uses⟩, hafter, htest⟩ := (Option.any_eq_true _ _).mp hrun
  simp only [Bool.and_eq_true, beq_iff_eq] at htest
  have hcount := hmap.nReport s uses (Generator.reaches_after hafter)
  rw [htest.1, htest.2] at hcount
  exact absurd hcount (by decide)

end Libhid
