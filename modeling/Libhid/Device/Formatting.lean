import Libhid.Framework.Stores
import Libhid.Device.Parsing

/-!
# Formatting a path (`src/hid_parsing.c`)

`hid_format_path` writes the elements of a path one after the other, each with a dot and a zero
behind it, and puts a zero on the last dot.  `formatsWithin_iff` says for which buffers and depths
it stays in the buffer.
-/

namespace Libhid

open Framework

/-! ## The text of a path -/

/-- The elements of a path, joined by dots. -/
def pathText : List ℤ → List UInt8
  | [] => []
  | [element] => elementText element
  | element :: path => elementText element ++ 0x2E :: pathText path

/-- Nothing is stored outside of the buffer, and where formatting succeeds, the buffer begins with
the text of the path and a zero. -/
structure FormatsWithin (length : UInt32) (path : List ℤ)
    (out : HidReturn × List (UInt8 × ℕ)) : Prop where
  within : ∀ s ∈ out.2, s.2 < length.toNat
  shown : out.1 = .success → ∀ m j, j ≤ (pathText path).length →
    (pathText path ++ [0])[j]? = some (stored out.2 m j)

/-! ## What the loop stores -/

section Text

lemma hexDigits_length : ∀ k n, (hexDigits k n).length = k
  | 0, _ => rfl
  | k + 1, n => by rw [hexDigits, List.length_append, hexDigits_length k, List.length_singleton]

lemma elementText_length (element : ℤ) : (elementText element).length = 10 := by
  rw [elementText, List.length_append, hexDigits_length]
  rfl

/-- The elements of a path, each with a dot. -/
def dotted (path : List ℤ) : List UInt8 := path.flatMap fun element => elementText element ++ [0x2E]

lemma dotted_cons (element : ℤ) (path : List ℤ) :
    dotted (element :: path) = elementText element ++ [0x2E] ++ dotted path := List.flatMap_cons

lemma dotted_length : ∀ path : List ℤ, (dotted path).length = 11 * path.length
  | [] => rfl
  | element :: path => by
      rw [dotted_cons, List.length_append, List.length_append, elementText_length,
        dotted_length path, List.length_singleton, List.length_cons]
      omega

/-- The dots but the last one join the elements. -/
lemma dotted_eq : ∀ {path : List ℤ}, path ≠ [] → dotted path = pathText path ++ [0x2E]
  | [], h => absurd rfl h
  | [element], _ => by rw [dotted_cons, pathText, dotted, List.flatMap_nil, List.append_nil]
  | element :: next :: path, _ => by
      rw [dotted_cons, pathText, dotted_eq (List.cons_ne_nil _ _)]
      · simp
      · simp

end Text

/-- What the loop stores for the elements from the `i`-th one on. -/
def elementStores (i : ℕ) : List ℤ → List (UInt8 × ℕ)
  | [] => []
  | element :: path =>
      (elementText element ++ [0x2E, 0]).zipIdx (11 * i) ++ elementStores (i + 1) path

section Loop

variable {i length : UInt32} {path : List ℤ}

lemma mul_pathItemSize (h : 11 * i.toNat < 2 ^ 32) : (i * pathItemSize).toNat = 11 * i.toNat := by
  rw [UInt32.toNat_mul, Nat.mul_comm]
  exact Nat.mod_eq_of_lt h

lemma ofNat_mul_pathItemSize (path : List ℤ) (h : 11 * path.length < 2 ^ 32) :
    (UInt32.ofNat path.length * pathItemSize).toNat = 11 * path.length := by
  have hlen : (UInt32.ofNat path.length).toNat = path.length := by
    rw [UInt32.toNat_ofNat']
    exact Nat.mod_eq_of_lt (by omega)
  rw [mul_pathItemSize (by rwa [hlen]), hlen]

lemma snprintf_element (start : ℕ) (element : ℤ) :
    snprintf start (pathItemSize + 1) (elementText element ++ [0x2E]) =
      (elementText element ++ [0x2E, 0]).zipIdx start := by
  have hlen : (elementText element ++ [0x2E]).length = 11 := by
    rw [List.length_append, elementText_length]
    rfl
  have hsize : (pathItemSize + 1).toNat - 1 = 11 := rfl
  rw [snprintf, if_neg (by decide), hsize, List.take_of_length_le (by omega), List.append_assoc]
  rfl

/-- **The loop stores as many elements as have 11 bytes of the length left.** -/
lemma formatElements_eq : ∀ {path : List ℤ} {i length : UInt32},
    11 * i.toNat + length.toNat < 2 ^ 32 → formatElements i length path =
      (elementStores i.toNat (path.take (length.toNat / 11)),
        if path.length ≤ length.toNat / 11 then some (i + UInt32.ofNat path.length) else none)
  | [], i, length, _ => by simp [formatElements, elementStores]
  | element :: path, i, length, h => by
      have hitem : pathItemSize.toNat = 11 := rfl
      rw [formatElements]
      by_cases hlt : length < pathItemSize
      · have hdiv : length.toNat / 11 = 0 := by
          rw [UInt32.lt_iff_toNat_lt, hitem] at hlt
          omega
        rw [if_pos hlt, hdiv]
        simp [elementStores]
      · have hle : 11 ≤ length.toNat := by
          rw [UInt32.lt_iff_toNat_lt, hitem] at hlt
          omega
        have hrest : (length - pathItemSize).toNat = length.toNat - 11 := by
          rw [UInt32.toNat_sub_of_le _ _ (UInt32.not_lt.mp hlt), hitem]
        have hnext : (i + 1).toNat = i.toNat + 1 := by
          rw [UInt32.toNat_add]
          exact Nat.mod_eq_of_lt (by simp; omega)
        have hdiv : length.toNat / 11 = (length.toNat - 11) / 11 + 1 := by omega
        have hcount : i + 1 + UInt32.ofNat path.length =
            i + UInt32.ofNat (element :: path).length := by
          rw [List.length_cons, UInt32.ofNat_add, UInt32.add_assoc, UInt32.add_comm 1]
          rfl
        rw [if_neg hlt, formatElements_eq (by omega), hrest, hnext, mul_pathItemSize (by omega),
          snprintf_element, hdiv, hcount, List.take_succ_cons, elementStores]
        simp only [List.length_cons, Nat.add_le_add_iff_right]

/-- The places of the elements: up to the zero behind the last one. -/
lemma elementStores_places : ∀ (path : List ℤ) (i : ℕ), path ≠ [] →
    (∀ s ∈ elementStores i path, s.2 ≤ 11 * (i + path.length)) ∧
      ∃ s ∈ elementStores i path, s.2 = 11 * (i + path.length)
  | [], _, h => absurd rfl h
  | element :: path, i, _ => by
      have hlen : (elementText element ++ [0x2E, 0]).length = 12 := by
        rw [List.length_append, elementText_length]
        rfl
      have hplaces : ∀ s ∈ (elementText element ++ [0x2E, 0]).zipIdx (11 * i),
          s.2 ≤ 11 * (i + 1) := by
        intro s hs
        have hplace := exists_mem_zipIdx.mp ⟨s, hs, rfl⟩
        omega
      rw [elementStores, List.length_cons]
      by_cases hp : path = []
      · subst hp
        rw [elementStores, List.append_nil]
        refine ⟨hplaces, exists_mem_zipIdx.mpr ?_⟩
        rw [hlen]
        show 11 * i ≤ 11 * (i + 1) ∧ 11 * (i + 1) < 11 * i + 12
        omega
      · obtain ⟨hrest, s, hs, hplace⟩ := elementStores_places path (i + 1) hp
        refine ⟨fun s hs => ?_, s, List.mem_append_right _ hs, by omega⟩
        rcases List.mem_append.mp hs with hs | hs
        · have hle := hplaces s hs
          omega
        · have hle := hrest s hs
          omega

/-- What the elements leave in the memory: the next one overwrites the zero behind an element. -/
lemma stored_elementStores : ∀ {path : List ℤ} {i : ℕ} {m : ℕ → UInt8}, path ≠ [] →
    stored (elementStores i path) m = splice m (11 * i) (dotted path ++ [0])
  | [], _, _, h => absurd rfl h
  | [element], i, m, _ => by
      rw [elementStores, elementStores, List.append_nil, stored_zipIdx, dotted_cons, dotted,
        List.flatMap_nil, List.append_nil, List.append_assoc]
      rfl
  | element :: next :: path, i, m, _ => by
      have hlen := elementText_length element
      have htake : (elementText element ++ [0x2E, 0]).take 11 = elementText element ++ [0x2E] := by
        rw [List.take_append, List.take_of_length_le (by omega), hlen]
        rfl
      rw [elementStores, stored_append, stored_zipIdx,
        stored_elementStores (List.cons_ne_nil next path), Nat.mul_add, splice_splice, htake,
        dotted_cons element, List.append_assoc (elementText element ++ [0x2E])]
      · simp [hlen]
      · rw [List.length_append, List.length_append, hlen, List.length_singleton]
        show 10 + 2 ≤ 11 + (_ + 1)
        omega

end Loop

/-! ## Buffers -/

/-- The elements that are stored fill the buffer, so that the zero behind the last one is outside of
it. -/
def FillsUp (length : UInt32) (path : List ℤ) : Prop :=
  0 < length.toNat ∧ 11 ∣ length.toNat ∧ length.toNat ≤ 11 * path.length

section Buffers

variable {length : UInt32} {path : List ℤ}

lemma hidFormatPath_eq (length : UInt32) (path : List ℤ) : hidFormatPath true length path =
    if path.length ≤ length.toNat / 11 then
      (.success, elementStores 0 path ++ [(0, (UInt32.ofNat path.length * pathItemSize - 1).toNat)])
    else (.outOfSpace, elementStores 0 (path.take (length.toNat / 11))) := by
  have hlt := length.toNat_lt
  have hzero : (0 : UInt32).toNat = 0 := rfl
  rw [hidFormatPath, if_neg (by decide), formatElements_eq (by omega)]
  by_cases hle : path.length ≤ length.toNat / 11
  · rw [if_pos hle, if_pos hle, List.take_of_length_le hle, UInt32.zero_add]
    rfl
  · rw [if_neg hle, if_neg hle]
    rfl

/-- Without elements the last store is at the end of the address range. -/
lemma not_formatsWithin_nil (length : UInt32) :
    ¬ FormatsWithin length [] (hidFormatPath true length []) := by
  intro h
  have hlt := length.toNat_lt
  have hin := h.within (0, 4294967295) (by rw [hidFormatPath_eq]; simp [elementStores])
  dsimp only at hin
  omega

/-- Where every element has its 11 bytes, they do not fit if there are no more than these. -/
lemma formatsWithin_success (hne : path ≠ []) (hle : path.length ≤ length.toNat / 11) :
    FormatsWithin length path (hidFormatPath true length path) ↔
      11 * path.length < length.toNat := by
  have hlt := length.toNat_lt
  have hpos := List.length_pos_iff.mpr hne
  have hlast : (UInt32.ofNat path.length * pathItemSize - 1).toNat = 11 * path.length - 1 := by
    have hmul := ofNat_mul_pathItemSize path (by omega)
    have hone : 1 ≤ UInt32.ofNat path.length * pathItemSize := by
      rw [UInt32.le_iff_toNat_le, hmul]
      show 1 ≤ _
      omega
    rw [UInt32.toNat_sub_of_le _ _ hone, hmul]
    rfl
  obtain ⟨hplaces, s, hs, hplace⟩ := elementStores_places path 0 hne
  have htext := dotted_length path
  rw [dotted_eq hne, List.length_append, List.length_singleton] at htext
  rw [hidFormatPath_eq, if_pos hle, hlast]
  constructor
  · intro h
    have hin := h.within s (List.mem_append_left _ hs)
    omega
  · intro hroom
    refine ⟨fun s hs => ?_, fun _ m j hj => ?_⟩
    · rcases List.mem_append.mp hs with hs | hs
      · have hle := hplaces s hs
        omega
      · rw [List.mem_singleton.mp hs]
        show 11 * path.length - 1 < length.toNat
        omega
    · -- the last store puts a zero on the last dot
      have hmem : stored (elementStores 0 path ++ [(0, 11 * path.length - 1)]) m =
          splice m 0 (pathText path ++ [0] ++ [0]) := by
        rw [stored_append, stored_elementStores hne, stored_cons, stored_nil,
          show 11 * path.length - 1 = 11 * 0 + (pathText path).length by omega,
          update_splice (by rw [dotted_eq hne]; simp), dotted_eq hne, List.append_assoc]
        simp
      have hlen : j < (pathText path ++ [0] ++ [0]).length := by
        rw [List.length_append, List.length_append, List.length_singleton]
        omega
      have hhead : (pathText path ++ [0] ++ [0])[j]? = (pathText path ++ [0])[j]? := by
        apply List.getElem?_append_left
        rw [List.length_append, List.length_singleton]
        omega
      show _ = some (stored _ m j)
      rw [hmem, splice_inside (Nat.zero_le j) hlen, ← List.getElem?_eq_getElem, Nat.sub_zero, hhead]

/-- Where some do not, the elements that do have them must not fill up the buffer. -/
lemma formatsWithin_outOfSpace (hlt : length.toNat / 11 < path.length) :
    FormatsWithin length path (hidFormatPath true length path) ↔
      (0 < length.toNat / 11 → 11 * (length.toNat / 11) < length.toNat) := by
  have hlen : (path.take (length.toNat / 11)).length = length.toNat / 11 := by
    rw [List.length_take, Nat.min_eq_left (Nat.le_of_lt hlt)]
  have hplaces : 0 < length.toNat / 11 → _ := fun hpos =>
    elementStores_places (path.take (length.toNat / 11)) 0
      (List.length_pos_iff.mp (by rw [hlen]; exact hpos))
  rw [hlen, Nat.zero_add] at hplaces
  rw [hidFormatPath_eq, if_neg (Nat.not_le.mpr hlt)]
  constructor
  · intro h hpos
    obtain ⟨-, s, hs, hplace⟩ := hplaces hpos
    have hin := h.within s hs
    omega
  · intro hroom
    refine ⟨fun s hs => ?_, nofun⟩
    by_cases hpos : 0 < length.toNat / 11
    · have hle := (hplaces hpos).1 s hs
      have hless := hroom hpos
      omega
    · rw [Nat.eq_zero_of_not_pos hpos] at hs
      cases hs

end Buffers

/-- **Formatting a path stays in the buffer and shows the path if and only if there is an element,
and the elements stored do not fill up the buffer** (where there is one). The buffer that
`hid_find_object` allocates is filled up by every path whose length it has not cut. -/
theorem formatsWithin_iff (hasBuffer : Bool) (length : UInt32) (path : List ℤ) :
    (FormatsWithin length path (hidFormatPath hasBuffer length path) ↔
      (hasBuffer = true → path ≠ [] ∧ ¬ FillsUp length path)) ∧
    (11 * path.length < 2 ^ 32 → ¬ FormatsWithin (warningLength path) path
      (hidFormatPath true (warningLength path) path)) := by
  have hbuffer : ∀ length, FormatsWithin length path (hidFormatPath true length path) ↔
      path ≠ [] ∧ ¬ FillsUp length path := by
    intro length
    by_cases hne : path = []
    · subst hne
      exact iff_of_false (not_formatsWithin_nil length) fun h => h.1 rfl
    · rw [and_iff_right hne, FillsUp]
      rcases Nat.lt_or_ge (length.toNat / 11) path.length with hlt | hle
      · rw [formatsWithin_outOfSpace hlt]
        omega
      · have hpos := List.length_pos_iff.mpr hne
        rw [formatsWithin_success hne hle]
        omega
  refine ⟨?_, fun hlen => ?_⟩
  · cases hasBuffer with
    | false => exact iff_of_true ⟨fun _ h => absurd h List.not_mem_nil, nofun⟩ nofun
    | true => simpa using hbuffer length
  · rw [hbuffer]
    rintro ⟨hne, hfree⟩
    apply hfree
    have hpos := List.length_pos_iff.mpr hne
    have hlength : (warningLength path).toNat = 11 * path.length := ofNat_mul_pathItemSize path hlen
    rw [FillsUp, hlength]
    omega

/-- `formatsWithin_iff` for a path of two elements and a buffer with a byte to spare. -/
theorem formatsWithin_iff_bench : FormatsWithin 23 [0x00010001, 0x00010002]
    (hidFormatPath true 23 [0x00010001, 0x00010002]) :=
  (formatsWithin_iff true 23 _).1.mpr fun _ => ⟨by decide, by rw [FillsUp]; decide⟩

/-- Not every buffer is enough: for one element, a buffer of its 11 bytes takes 12. -/
theorem formatsWithin_fails : ¬ ∀ (length : UInt32) (path : List ℤ),
    FormatsWithin length path (hidFormatPath true length path) := by
  intro hall
  have hin := (hall 11 [0x00010001]).within (0, 11) (by decide)
  exact absurd hin (by decide)

end Libhid
