import Libhid.Parser.Complete
import Libhid.Device.RawDump
import Mathlib.Data.Int.Bitwise

/-!
# The items in the trace (`extract_report_descriptor.py`)

The script cuts the descriptor that it took from a trace into items and prints them, and knows
nothing of the parser of the library.  `tokenized_iff` says which descriptors it gets through:
complete short items whose tags it has names for.  And the items it prints are the ones the library
parsed when it wrote the trace (`printed_parsed`).
-/

namespace Libhid

open Framework

/-! ## `parse_tag` -/

/-- `l[i]` of a tuple, which counts from its end where `i` is negative; `none` where it raises
`IndexError`. -/
def pyIndex {α : Type} (l : List α) (i : ℤ) : Option α :=
  if 0 ≤ i then l[i.toNat]? else if -i ≤ l.length then l[(l.length + i).toNat]? else none

/-- The names of the types. -/
def typeNames : List String := ["Main", "Global", "Local", "Reserved"]

/-- The names of the main tags from 8 on. -/
def mainNames : List String := ["Input", "Output", "Collection", "Feature", "End Collection"]

/-- The names of the global tags. -/
def globalNames : List String :=
  ["Usage page", "Logical Minimum", "Logical Maximum", "Physical Minimum", "Physical Maximum",
    "Unit Exponent", "Unit", "Report Size", "Report ID", "Report Count", "Push", "Pop"]

/-- The names of the local tags. -/
def localNames : List String :=
  ["Usage", "Usage Minimum", "Usage Maximum", "Designator Index", "Designator Minimum",
    "Designator Maximum", "String Index", "String Minimum", "String Maximum", "Delimiter"]

/-- The names of the types of collections. -/
def collectionNames : List String :=
  ["Physical", "Application", "Logical", "Report", "Named Array", "Usage Switch", "Usage Modifier"]

/-- What `parse_tag` prints of an item, and `bSize`, from which it returns the length. -/
structure ParsedTag where
  index : ℕ
  shown : List ℤ
  data : ℤ
  bSize : ℕ
  bType : ℤ
  bTag : ℤ
  typeName : String
  tagName : Option String
  collectionName : Option String
  deriving DecidableEq, Repr

/-- The name that is printed of a tag; a reserved one has none. -/
def tagNameOf (bType bTag : ℤ) : Option (Option String) :=
  if bType = 0 then (pyIndex mainNames (bTag - 8)).map some
  else if bType = 1 then (pyIndex globalNames bTag).map some
  else if bType = 2 then (pyIndex localNames bTag).map some
  else some none

/-- The name that is printed of the type of a collection. -/
def collectionNameOf (bType bTag data : ℤ) : Option (Option String) :=
  if bType = 0 ∧ bTag = 0x0A then
    if data ≤ 6 then (pyIndex collectionNames data).map some else some (some "Vendor defined")
  else some none

/-- The loop of `parse_tag` over `n + 1` bytes: the bytes it prints, and `data`. -/
def tagBytes (desc : List ℤ) (index : ℕ) : ℕ → Option (List ℤ × ℤ)
  | 0 => do some ([← desc[index]?], 0)
  | n + 1 => do
      let (shown, data) ← tagBytes desc index n
      let byte ← desc[index + (n + 1)]?
      some (shown ++ [byte], Int.lor (byte <<< (8 * n)) data)

/-- `parse_tag`; `none` where it raises `IndexError`. -/
def parseTag (desc : List ℤ) (index : ℕ) : Option ParsedTag := do
  let head ← desc[index]?
  let bSize := 2 ^ (head % 4).toNat / 2
  let bType := head / 4 % 4
  let bTag := head / 16 % 16
  let (shown, data) ← tagBytes desc index bSize
  let typeName ← pyIndex typeNames bType
  let tagName ← tagNameOf bType bTag
  let collectionName ← collectionNameOf bType bTag data
  some { index, shown, data, bSize, bType, bTag, typeName, tagName, collectionName }

/-- The loop of `tokenize_descriptor`. -/
def tokenizeFrom (desc : List ℤ) (index : ℕ) : Option (List ParsedTag) :=
  if index < desc.length then do
    let t ← parseTag desc index
    let tokens ← tokenizeFrom desc (index + (t.bSize + 1))
    some (t :: tokens)
  else some []
termination_by desc.length - index

/-- `tokenize_descriptor`. -/
def tokenizeDescriptor (desc : List ℤ) : Option (List ParsedTag) := tokenizeFrom desc 0

/-- `main`, on a file written by the library. -/
def scriptMain (file : List UInt8) : Option (List ParsedTag) := do
  tokenizeDescriptor (← extractBytesLibhid file)

/-! ## The items that are printed -/

/-- Bytes as the script has them. -/
def byteInts (bytes : List UInt8) : List ℤ := bytes.map fun b => (b.toNat : ℤ)

/-- What is printed shows the item. -/
structure ParsedTag.Shows (t : ParsedTag) (i : RawItem) : Prop where
  shown : t.shown = byteInts (i.head :: i.data)
  data : t.data = leNat i.data
  size : t.bSize = i.data.length
  type : t.bType = i.head.toNat / 4 % 4
  tag : t.bTag = i.head.toNat / 16

/-- The script has a name for the tag of this type.  With the main tags from 3 to 7, it takes one
from the end of the tuple. -/
def NamedTag (type tag : ℕ) : Prop :=
  (type = 0 → 3 ≤ tag ∧ tag ≤ 12) ∧ (type = 1 → tag ≤ 11) ∧ (type = 2 → tag ≤ 9)

instance (type tag : ℕ) : Decidable (NamedTag type tag) := inferInstanceAs (Decidable (_ ∧ _))

/-- The script has a name for the tag of an item. -/
def Named (head : UInt8) : Prop := NamedTag (head.toNat / 4 % 4) (head.toNat / 16)

instance (head : UInt8) : Decidable (Named head) := inferInstanceAs (Decidable (NamedTag _ _))

/-- A complete short item that the script has a name for. -/
def WholeItem.Printable (i : WholeItem) : Prop := i.skipped = [] ∧ Named i.head

section Bytes

variable {bytes : List UInt8} {index n : ℕ}

@[simp] lemma byteInts_getElem? (bytes : List UInt8) (k : ℕ) :
    (byteInts bytes)[k]? = bytes[k]?.map fun b => (b.toNat : ℤ) := List.getElem?_map

@[simp] lemma byteInts_length (bytes : List UInt8) : (byteInts bytes).length = bytes.length :=
  List.length_map _

lemma byteInts_append (bytes bytes' : List UInt8) :
    byteInts (bytes ++ bytes') = byteInts bytes ++ byteInts bytes' := List.map_append

lemma leNat_append (bytes : List UInt8) (b : UInt8) :
    leNat (bytes ++ [b]) = b.toNat * 2 ^ (8 * bytes.length) + leNat bytes := by
  induction bytes with
  | nil => simp [leNat]
  | cons c bytes ih =>
      rw [List.cons_append, leNat, ih, List.length_cons, leNat, Nat.mul_add 8, pow_add]
      ring

/-- The next byte of the data is put above the ones before. -/
lemma lor_leNat (bytes : List UInt8) (b : UInt8) :
    Int.lor ((b.toNat : ℤ) <<< (8 * bytes.length)) (leNat bytes) = leNat (bytes ++ [b]) := by
  have hlt : leNat bytes < 2 ^ (8 * bytes.length) := by
    rw [pow_mul]
    exact leNat_lt bytes
  have hor := Nat.shiftLeft_add_eq_or_of_lt hlt b.toNat
  rw [Nat.shiftLeft_eq] at hor
  rw [leNat_append, hor, ← Nat.shiftLeft_eq]
  rfl

/-- The bytes of an item are read up to the end of the descriptor. -/
lemma tagBytes_drop {head : UInt8} {rest : List UInt8} (h : bytes.drop index = head :: rest) :
    tagBytes (byteInts bytes) index n =
      if n ≤ rest.length then some (byteInts (head :: rest.take n), (leNat (rest.take n) : ℤ))
      else none := by
  have hget : ∀ k, bytes[index + k]? = (head :: rest)[k]? := fun k => by
    rw [← List.getElem?_drop, h]
  induction n with
  | zero =>
      have hhead := hget 0
      rw [Nat.add_zero] at hhead
      rw [if_pos (Nat.zero_le _), tagBytes, byteInts_getElem?, hhead]
      rfl
  | succ n ih =>
      rw [tagBytes, ih, byteInts_getElem?, hget, List.getElem?_cons_succ]
      by_cases hn : n < rest.length
      · have htake : rest.take (n + 1) = rest.take n ++ [rest[n]] :=
          List.take_succ_eq_append_getElem hn
        have hlor := lor_leNat (rest.take n) rest[n]
        rw [List.length_take_of_le (Nat.le_of_lt hn)] at hlor
        rw [if_pos (Nat.le_of_lt hn), if_pos (Nat.succ_le_of_lt hn), List.getElem?_eq_getElem hn,
          htake, ← hlor, ← List.cons_append, byteInts_append]
        rfl
      · rw [if_neg fun hle => hn (Nat.lt_of_succ_le hle),
          List.getElem?_eq_none (Nat.le_of_not_lt hn)]
        split <;> rfl

end Bytes

/-! ## The names -/

section Names

lemma typeNames_some : ∀ type < 4, (pyIndex typeNames (type : ℕ)).isSome := by decide

lemma tagNameOf_isSome : ∀ type < 4, ∀ tag < 16,
    (tagNameOf (type : ℕ) (tag : ℕ)).isSome = decide (NamedTag type tag) := by decide

/-- There is something to print for the type of every collection. -/
lemma collectionNameOf_some (bType bTag : ℤ) (data : ℕ) :
    (collectionNameOf bType bTag data).isSome := by
  have hknown : ∀ d < 7, (pyIndex collectionNames (d : ℕ)).isSome := by decide
  unfold collectionNameOf
  split_ifs with hcoll hle
  · rw [Option.isSome_map]
    exact hknown data (by omega)
  · rfl
  · rfl

/-- The script has the sizes of short items. -/
lemma bSize_eq (head : UInt8) : 2 ^ ((head.toNat : ℤ) % 4).toNat / 2 = itemSize head := by
  have hmask : (head &&& sizeMask).toNat = head.toNat % 4 := by
    rw [UInt8.toNat_and]
    exact Nat.and_two_pow_sub_one_eq_mod head.toNat 2
  have hmod : ((head.toNat : ℤ) % 4).toNat = head.toNat % 4 := by omega
  have hlt : head.toNat % 4 < 4 := Nat.mod_lt _ (by omega)
  rw [itemSize, hmask, hmod]
  generalize head.toNat % 4 = k at hlt
  obtain rfl | rfl | rfl | rfl : k = 0 ∨ k = 1 ∨ k = 2 ∨ k = 3 := by omega
  all_goals rfl

end Names

/-! ## The items that are taken -/

section Items

variable {bytes : List UInt8} {index : ℕ} {head : UInt8} {data rest : List UInt8} {t : ParsedTag}

/-- **One item of the script**: it is printed if it is complete and its tag has a name. -/
lemma parseTag_drop (h : bytes.drop index = head :: rest) :
    if itemSize head ≤ rest.length ∧ Named head then
      ∃ t, parseTag (byteInts bytes) index = some t ∧ t.Shows ⟨head, rest.take (itemSize head)⟩
    else parseTag (byteInts bytes) index = none := by
  have hhead : bytes[index]? = some head := by
    have hget : (bytes.drop index)[0]? = bytes[index + 0]? := List.getElem?_drop
    rw [h] at hget
    exact hget.symm
  have hbyte := head.toNat_lt
  have htype : (head.toNat : ℤ) / 4 % 4 = (head.toNat / 4 % 4 : ℕ) := by omega
  have htag : (head.toNat : ℤ) / 16 % 16 = (head.toNat / 16 : ℕ) := by omega
  have hlt : head.toNat / 4 % 4 < 4 := Nat.mod_lt _ (by omega)
  have hname := tagNameOf_isSome _ hlt (head.toNat / 16) (by omega)
  obtain ⟨typeName, htypeName⟩ := Option.isSome_iff_exists.mp (typeNames_some _ hlt)
  have hparse : parseTag (byteInts bytes) index =
      (tagBytes (byteInts bytes) index (itemSize head)).bind fun x =>
      (tagNameOf (head.toNat / 4 % 4 : ℕ) (head.toNat / 16 : ℕ)).bind fun tagName =>
      (collectionNameOf (head.toNat / 4 % 4 : ℕ) (head.toNat / 16 : ℕ) x.2).bind fun collection =>
      some ⟨index, x.1, x.2, itemSize head, (head.toNat / 4 % 4 : ℕ), (head.toNat / 16 : ℕ),
        typeName, tagName, collection⟩ := by
    simp only [parseTag, byteInts_getElem?, hhead, Option.map_some, Option.bind_eq_bind,
      Option.bind_some, bSize_eq, htype, htag, htypeName]
  rw [hparse, tagBytes_drop h]
  by_cases hle : itemSize head ≤ rest.length
  · rw [if_pos hle]
    by_cases hnamed : Named head
    · rw [decide_eq_true (show NamedTag _ _ from hnamed)] at hname
      obtain ⟨tagName, htagName⟩ := Option.isSome_iff_exists.mp hname
      obtain ⟨collectionName, hcoll⟩ := Option.isSome_iff_exists.mp
        (collectionNameOf_some (head.toNat / 4 % 4 : ℕ) (head.toNat / 16 : ℕ)
          (leNat (rest.take (itemSize head))))
      rw [if_pos ⟨hle, hnamed⟩]
      refine ⟨_, by rw [Option.bind_some, htagName, Option.bind_some, hcoll]; rfl, ?_⟩
      exact ⟨rfl, rfl, (List.length_take_of_le hle).symm, rfl, rfl⟩
    · rw [decide_eq_false (show ¬ NamedTag _ _ from hnamed), Option.isSome_eq_false_iff,
        Option.isNone_iff_eq_none] at hname
      rw [if_neg fun hh => hnamed hh.2, hname]
      rfl
  · rw [if_neg hle, if_neg fun hh => hle hh.1]
    rfl

/-- The items of a descriptor are printed. -/
lemma tokenizeFrom_items {items : List WholeItem} (h : bytes.drop index = wholeBytes items)
    (hitems : ∀ i ∈ items, i.Printable) :
    ∃ tokens, tokenizeFrom (byteInts bytes) index = some tokens ∧
      List.Forall₂ (fun t (i : WholeItem) => t.Shows i.toRawItem) tokens items := by
  induction items generalizing index with
  | nil =>
      have hge : bytes.length ≤ index := List.drop_eq_nil_iff.mp h
      refine ⟨[], ?_, .nil⟩
      rw [tokenizeFrom, byteInts_length, if_neg (Nat.not_lt_of_le hge)]
  | cons i items ih =>
      obtain ⟨⟨hskipped, hnamed⟩, hrest⟩ := List.forall_mem_cons.mp hitems
      have hdrop : bytes.drop index = i.head :: (i.data ++ wholeBytes items) := by
        rw [h, wholeBytes, List.flatMap_cons, WholeItem.bytes, hskipped, List.append_nil]
        rfl
      have hlt : index < bytes.length := by
        by_contra hge
        rw [List.drop_eq_nil_of_le (Nat.le_of_not_lt hge)] at hdrop
        cases hdrop
      have htag := parseTag_drop hdrop
      rw [if_pos ⟨by rw [← i.size, List.length_append]; omega, hnamed⟩, ← i.size,
        List.take_left] at htag
      obtain ⟨t, ht, hshows⟩ := htag
      have hnext : bytes.drop (index + (t.bSize + 1)) = wholeBytes items := by
        rw [hshows.size, ← List.drop_drop, hdrop, List.drop_succ_cons, List.drop_left]
      obtain ⟨tokens, htokens, hall⟩ := ih hnext hrest
      refine ⟨t :: tokens, ?_, .cons hshows hall⟩
      rw [tokenizeFrom, byteInts_length, if_pos hlt, ht]
      simp [htokens]

/-- What is printed are the items of the descriptor. -/
lemma items_of_tokenizeFrom {tokens : List ParsedTag}
    (h : tokenizeFrom (byteInts bytes) index = some tokens) :
    ∃ items : List WholeItem, bytes.drop index = wholeBytes items ∧ (∀ i ∈ items, i.Printable) ∧
      List.Forall₂ (fun t (i : WholeItem) => t.Shows i.toRawItem) tokens items := by
  induction tokens generalizing index with
  | nil =>
      refine ⟨[], ?_, by simp, .nil⟩
      by_contra hne
      have hlt : index < bytes.length := by
        by_contra hge
        exact hne (List.drop_eq_nil_of_le (Nat.le_of_not_lt hge))
      rw [tokenizeFrom, byteInts_length, if_pos hlt] at h
      simp [Option.bind_eq_some_iff] at h
  | cons t tokens ih =>
      have hlt : index < bytes.length := by
        by_contra hge
        rw [tokenizeFrom, byteInts_length, if_neg hge] at h
        cases h
      rw [tokenizeFrom, byteInts_length, if_pos hlt] at h
      simp only [Option.bind_eq_bind, Option.bind_eq_some_iff, Option.some.injEq,
        List.cons.injEq] at h
      obtain ⟨t', ht, tokens', htokens, rfl, rfl⟩ := h
      have hdrop := List.drop_eq_getElem_cons hlt
      have htag := parseTag_drop hdrop
      split_ifs at htag with hok
      · obtain ⟨t'', ht'', hshows⟩ := htag
        rw [ht, Option.some.injEq] at ht''
        subst ht''
        obtain ⟨items, hitems, hprintable, hall⟩ := ih htokens
        have hsize := List.length_take_of_le hok.1
        rw [hshows.size, hsize, ← List.drop_drop, hdrop, List.drop_succ_cons] at hitems
        refine ⟨⟨⟨bytes[index], _⟩, [], hsize⟩ :: items, ?_,
          List.forall_mem_cons.mpr ⟨⟨rfl, hok.2⟩, hprintable⟩, .cons hshows hall⟩
        rw [wholeBytes, List.flatMap_cons, WholeItem.bytes, List.append_nil, List.cons_append,
          hdrop]
        show _ = bytes[index] :: (_ ++ wholeBytes items)
        rw [← hitems, List.take_append_drop]
      · rw [ht] at htag
        cases htag

end Items

/-! ## The descriptors that are printed -/

/-- **The script gets through a descriptor if and only if it consists of complete short items whose
tags it has names for**, and then it prints these items. -/
theorem tokenized_iff {bytes : List UInt8} :
    (∃ tokens, tokenizeDescriptor (byteInts bytes) = some tokens) ↔
      ∃ items : List WholeItem, bytes = wholeBytes items ∧ ∀ i ∈ items, i.Printable := by
  refine ⟨fun ⟨tokens, h⟩ => ?_, fun ⟨items, h, hitems⟩ => ?_⟩
  · obtain ⟨items, hitems, hprintable, -⟩ := items_of_tokenizeFrom h
    exact ⟨items, hitems, hprintable⟩
  · obtain ⟨tokens, htokens, -⟩ := @tokenizeFrom_items _ 0 _ h hitems
    exact ⟨tokens, htokens⟩

/-! ## The items that were parsed -/

/-- A long item, which the script takes for a short one. -/
def ParsedTag.IsLong (t : ParsedTag) : Prop := t.bType = 3 ∧ t.bTag = 15

section Parsed

variable {abi : Abi} {p : HIDParser} {parts : List TracePart} {bytes : List UInt8}
  {tokens : List ParsedTag}

lemma ofItem_long {b : UInt8} (h : Tag.ofItem b = .long) : 252 ≤ b.toNat := by
  have hcode : (Tag.long.code == b &&& itemMask) = true := by
    unfold Tag.ofItem at h
    cases hfind : List.find? _ _ with
    | none =>
        rw [hfind] at h
        cases h
    | some t =>
        rw [hfind, Option.getD_some] at h
        subst h
        exact List.find?_some (p := fun t : Tag => t.code == b &&& itemMask) hfind
  have hand : (b &&& itemMask).toNat = 252 := congrArg UInt8.toNat (beq_iff_eq.mp hcode).symm
  rw [UInt8.toNat_and] at hand
  exact hand ▸ Nat.and_le_left

/-- Nothing is skipped behind items that are not long. -/
lemma skips_of_shows {items : List WholeItem}
    (h : List.Forall₂ (fun t (i : WholeItem) => t.Shows i.toRawItem) tokens items)
    (hshort : ∀ t ∈ tokens, ¬ t.IsLong) (hitems : ∀ i ∈ items, i.Printable) :
    ∀ i ∈ items, i.Skips abi := by
  induction h with
  | nil => simp
  | @cons t i tokens items hshows _ ih =>
      obtain ⟨hshort, hshorts⟩ := List.forall_mem_cons.mp hshort
      obtain ⟨⟨hskipped, -⟩, hitems⟩ := List.forall_mem_cons.mp hitems
      refine List.forall_mem_cons.mpr ⟨?_, ih hshorts hitems⟩
      have hlong : Tag.ofItem i.head ≠ .long := fun hlong => by
        have hhead := ofItem_long hlong
        have hbyte := i.head.toNat_lt
        exact hshort ⟨by rw [hshows.type]; omega, by rw [hshows.tag]; omega⟩
      rw [WholeItem.Skips, hskipped, longSkip, if_neg hlong]
      rfl

/-- **The items that the script prints are the ones that the library parsed.**  Where the trace
shows one descriptor, with no long items, and the script gets to the end of it, it prints one by one
the items of a list, prefix byte, data bytes and value, and the objects that the parser delivers of
the descriptor are those it delivers when it is fed with this list. -/
theorem printed_parsed (hload : abi.LoadsItems) (hparts : ∀ part ∈ parts, part.Plain)
    (hbytes : parts.flatMap TracePart.bytes = bytes) (hp : p.Holds bytes)
    (hrun : (traceFile parts).bind scriptMain = some tokens) (hshort : ∀ t ∈ tokens, ¬ t.IsLong) :
    ∃ items : List RawItem,
      List.Forall₂ (fun t i => t.shown = byteInts (i.head :: i.data) ∧
        abi.toLong t.data = i.value abi) tokens items ∧
      (enumerate abi (resetParser p)).1 =
        ((itemParser abi).all ((resetParser p).bare, items)).1 := by
  obtain ⟨file, hfile, hrun⟩ := Option.bind_eq_some_iff.mp hrun
  rw [scriptMain, traceFile_read hparts hfile, hbytes] at hrun
  obtain ⟨items, hitems, hprintable, hall⟩ := items_of_tokenizeFrom hrun
  obtain rfl : bytes = wholeBytes items := hitems
  refine ⟨items.map WholeItem.toRawItem, ?_,
    enumerate_whole hp (skips_of_shows hall hshort hprintable)⟩
  rw [List.forall₂_map_right_iff]
  refine hall.imp fun t i hshows => ⟨hshows.shown, ?_⟩
  rw [hshows.data, RawItem.value, Abi.load_eq hload i.data_length_le]

/-- `printed_parsed` for the dump of a Usage Page and a Usage. -/
theorem printed_parsed_bench : ∃ tokens items,
    (traceFile [.dump (ascii "001/003[0]") (.holding [0x05, 0x01, 0x09, 0x06])]).bind scriptMain =
      some tokens ∧
    List.Forall₂ (fun (t : ParsedTag) (i : RawItem) => t.shown = byteInts (i.head :: i.data) ∧
      (Abi.little .w32 true).toLong t.data = i.value (.little .w32 true)) tokens items ∧
    (enumerate (.little .w32 true) (resetParser (.holding [0x05, 0x01, 0x09, 0x06]))).1 =
      ((itemParser (.little .w32 true)).all
        ((resetParser (.holding [0x05, 0x01, 0x09, 0x06])).bare, items)).1 := by
  have hplain : ∀ part ∈
      [TracePart.dump (ascii "001/003[0]") (.holding [0x05, 0x01, 0x09, 0x06])], part.Plain :=
    List.forall_mem_singleton.mpr ⟨by decide, by decide⟩
  obtain ⟨file, hfile⟩ := traceFile_written hplain
  obtain ⟨tokens, htokens, hall⟩ := @tokenizeFrom_items [0x05, 0x01, 0x09, 0x06] 0
    [.plain 0x05 [0x01], .plain 0x09 [0x06]] rfl
    (List.forall_mem_cons.mpr ⟨⟨rfl, by decide⟩, List.forall_mem_singleton.mpr ⟨rfl, by decide⟩⟩)
  have hrun : (traceFile [.dump (ascii "001/003[0]")
      (.holding [0x05, 0x01, 0x09, 0x06])]).bind scriptMain = some tokens := by
    rw [hfile, Option.bind_some, scriptMain, traceFile_read hplain hfile]
    exact htokens
  have hshort : ∀ t ∈ tokens, ¬ t.IsLong := by
    cases hall with
    | cons hfirst hrest =>
        cases hrest with
        | cons hsecond hnil =>
            cases hnil
            simp [ParsedTag.IsLong, hfirst.type, hsecond.type, WholeItem.plain]
  have hload : (Abi.little .w32 true).LoadsItems := .inl rfl
  obtain ⟨items, hitems, hobjects⟩ := printed_parsed hload hplain rfl
    (holding_holds (by decide)) hrun hshort
  exact ⟨tokens, items, hrun, hitems, hobjects⟩

end Parsed

end Libhid
