import Mathlib.Data.List.Basic
import Mathlib.Data.Finset.Card
import Mathlib.Data.Fintype.Card
import Mathlib.Data.List.GetD
import Mathlib.Order.Basic
import Mathlib.Tactic.Common

/-!
# Loops over a table of fixed size

The loops C code runs over an array, on vectors: `scan`, the first place where a test holds;
`shiftDown`, moving a stretch of entries one place down; and the table with keys that the two
search loops make of an array whose rows are filled from the front, `Keyed`.

`shiftDown` reads one entry past the stretch it fills, and is `none` when that entry is outside
the table.  `IsQueue` reads a table as a queue padded with a fixed value: shifting the whole queue
down removes its first entry (`IsQueue.shiftDown`).
-/

namespace Framework

variable {α κ : Type*} {n : ℕ}

lemma get_eq_getElem (tab : Vector α n) (i : Fin n) : tab.get i = tab[i.val] := rfl

@[simp] lemma get_set_self (tab : Vector α n) (i : Fin n) (x : α) :
    (tab.set i x i.isLt).get i = x := by
  rw [get_eq_getElem, Vector.getElem_set_self]

/-! ## The first place where a test holds -/

/-- The loop `while (pos < n && !p(tab[pos])) pos++`, with `k` turns. -/
def scanFrom (tab : Vector α n) (p : α → Bool) : ℕ → ℕ → Option (Fin n)
  | 0, _ => none
  | k + 1, pos =>
      if h : pos < n then
        if p tab[pos] then some ⟨pos, h⟩ else scanFrom tab p k (pos + 1)
      else none

/-- The first place of the table where `p` holds. -/
def scan (tab : Vector α n) (p : α → Bool) : Option (Fin n) := scanFrom tab p n 0

lemma scanFrom_eq_some {tab : Vector α n} {p : α → Bool} {k pos i : ℕ} (hi : i < n)
    (hle : pos ≤ i) (hlt : i < pos + k) (hp : p tab[i] = true)
    (hbefore : ∀ j (_ : j < i), pos ≤ j → p tab[j] = false) :
    scanFrom tab p k pos = some ⟨i, hi⟩ := by
  induction k generalizing pos with
  | zero => omega
  | succ k ih =>
      rw [scanFrom, dif_pos (by omega)]
      rcases Nat.eq_or_lt_of_le hle with rfl | hlt'
      · rw [if_pos hp]
      · rw [if_neg (by simp [hbefore pos hlt' (Nat.le_refl _)])]
        exact ih (by omega) (by omega) (fun j hj hpos => hbefore j hj (by omega))

lemma scanFrom_eq_none {tab : Vector α n} {p : α → Bool} {k pos : ℕ}
    (h : ∀ j (_ : j < n), pos ≤ j → p tab[j] = false) : scanFrom tab p k pos = none := by
  induction k generalizing pos with
  | zero => rfl
  | succ k ih =>
      rw [scanFrom]
      split_ifs with hpos hp
      · exact absurd hp (by simp [h pos hpos (Nat.le_refl _)])
      · exact ih (fun j hj hle => h j hj (by omega))
      · rfl

lemma scan_eq_some {tab : Vector α n} {p : α → Bool} {i : ℕ} (hi : i < n) (hp : p tab[i] = true)
    (hbefore : ∀ j (_ : j < i), p tab[j] = false) : scan tab p = some ⟨i, hi⟩ :=
  scanFrom_eq_some hi (Nat.zero_le _) (by omega) hp (fun j hj _ => hbefore j hj)

lemma scan_eq_none {tab : Vector α n} {p : α → Bool}
    (h : ∀ j (_ : j < n), p tab[j] = false) : scan tab p = none :=
  scanFrom_eq_none (fun j hj _ => h j hj)

lemma scanFrom_some {tab : Vector α n} {p : α → Bool} {k pos : ℕ} {i : Fin n}
    (h : scanFrom tab p k pos = some i) :
    p (tab.get i) = true ∧ ∀ j (_ : j < i.val), pos ≤ j → p tab[j] = false := by
  induction k generalizing pos with
  | zero => simp [scanFrom] at h
  | succ k ih =>
      rw [scanFrom] at h
      split_ifs at h with hpos hp
      · cases h
        exact ⟨hp, fun j hj hle => absurd hj (Nat.not_lt_of_le hle)⟩
      · obtain ⟨hi, hbefore⟩ := ih h
        refine ⟨hi, fun j hj hle => ?_⟩
        rcases Nat.eq_or_lt_of_le hle with rfl | hlt
        · simpa using hp
        · exact hbefore j hj hlt

lemma scanFrom_lt {tab : Vector α n} {p : α → Bool} {k pos : ℕ} {i : Fin n}
    (h : scanFrom tab p k pos = some i) : i.val < pos + k := by
  induction k generalizing pos with
  | zero => simp [scanFrom] at h
  | succ k ih =>
      rw [scanFrom] at h
      split_ifs at h with hpos hp
      · cases h
        dsimp only
        omega
      · have hlt := ih h
        omega

lemma scanFrom_none {tab : Vector α n} {p : α → Bool} {k pos : ℕ}
    (h : scanFrom tab p k pos = none) {j : ℕ} (hj : j < n) (hle : pos ≤ j) (hlt : j < pos + k) :
    p tab[j] = false := by
  induction k generalizing pos with
  | zero => omega
  | succ k ih =>
      rw [scanFrom] at h
      split_ifs at h with hpos hp
      · rcases Nat.eq_or_lt_of_le hle with rfl | hlt'
        · simpa using hp
        · exact ih h hlt' (by omega)
      · omega

lemma scan_some {tab : Vector α n} {p : α → Bool} {i : Fin n} (h : scan tab p = some i) :
    p (tab.get i) = true ∧ ∀ j (_ : j < i.val), p tab[j] = false :=
  ⟨(scanFrom_some h).1, fun j hj => (scanFrom_some h).2 j hj (Nat.zero_le _)⟩

/-! ## Moving entries down -/

/-- The loop `for (; k turns; ii++) tab[ii] = tab[ii+1]`. -/
def shiftDown (tab : Vector α n) : ℕ → ℕ → Option (Vector α n)
  | _, 0 => some tab
  | ii, k + 1 =>
      if h : ii + 1 < n then shiftDown (tab.set ii tab[ii + 1]) (ii + 1) k else none

lemma shiftDown_eq_some {k ii : ℕ} (tab : Vector α n) (hk : ii + k < n) :
    ∃ tab', shiftDown tab ii k = some tab' ∧
      (∀ j (_ : j + 1 < n), ii ≤ j → j < ii + k → tab'[j] = tab[j + 1]) ∧
      ∀ j (_ : j < n), j < ii ∨ ii + k ≤ j → tab'[j] = tab[j] := by
  induction k generalizing ii tab with
  | zero => exact ⟨tab, rfl, fun _ _ _ _ => by omega, fun _ _ _ => rfl⟩
  | succ k ih =>
      have hrest : ii + 1 + k < n := by omega
      obtain ⟨tab', h', hmoved, hkept⟩ := ih (tab.set ii tab[ii + 1]) hrest
      refine ⟨tab', by rw [shiftDown, dif_pos (by omega), h'], fun j hj hle hlt => ?_,
        fun j hj hout => ?_⟩
      · rcases Nat.eq_or_lt_of_le hle with rfl | hlt'
        · rw [hkept ii (by omega) (by omega), Vector.getElem_set_self]
        · rw [hmoved j hj hlt' (by omega), Vector.getElem_set_ne _ _ (by omega)]
      · rw [hkept j hj (by omega), Vector.getElem_set_ne _ _ (by omega)]

/-- A shift that succeeds did not read past the table. -/
lemma shiftDown_lt {k ii : ℕ} {tab tab' : Vector α n} (h : shiftDown tab ii k = some tab')
    (hk : 0 < k) : ii + k < n := by
  induction k generalizing ii tab with
  | zero => omega
  | succ k ih =>
      rw [shiftDown] at h
      split_ifs at h with hroom
      cases k with
      | zero => omega
      | succ k =>
          have hrest := ih h (Nat.succ_pos k)
          omega

/-- Shifting the entries above a place down removes the entry there. -/
lemma take_shiftDown (tab : Vector α n) {i m : ℕ} (hi : i < m) (hm : m ≤ n) :
    ∃ tab', shiftDown tab i (m - (i + 1)) = some tab' ∧
      tab'.toList.take (m - 1) = (tab.toList.take m).eraseIdx i := by
  have hfits : i + (m - (i + 1)) < n := by omega
  obtain ⟨tab', h', hmoved, hkept⟩ := shiftDown_eq_some tab hfits
  refine ⟨tab', h', List.ext_getElem ?_ fun j hj hj' => ?_⟩
  · have hlen : (tab.toList.take m).length = m := by simpa using hm
    rw [List.length_eraseIdx_of_lt (by omega), hlen]
    simp
    omega
  · have hjm : j < m - 1 := by
      simp at hj
      omega
    rw [List.getElem_eraseIdx]
    split_ifs with hji
    · simpa using hkept j (by omega) (by omega)
    · simpa using hmoved j (by omega) (by omega) (by omega)

/-! ## A table read as a queue -/

/-- The table holds the queue `xs`, and `z` after it. -/
structure IsQueue (tab : Vector α n) (z : α) (xs : List α) : Prop where
  length_le : xs.length ≤ n
  get : ∀ j (hj : j < n), tab[j] = xs.getD j z

lemma IsQueue.replicate (z : α) : IsQueue (Vector.replicate n z) z [] :=
  ⟨Nat.zero_le _, fun j hj => by simp⟩

lemma IsQueue.push {tab : Vector α n} {z x : α} {xs : List α} (h : IsQueue tab z xs)
    (hlt : xs.length < n) : IsQueue (tab.set xs.length x) z (xs ++ [x]) := by
  refine ⟨by simp; omega, fun j hj => ?_⟩
  rw [Vector.getElem_set]
  split_ifs with hj'
  · subst hj'
    simp
  · rw [h.get j hj]
    rcases Nat.lt_or_gt_of_ne hj' with hlt' | hlt'
    · rw [List.getD_eq_default _ _ (by omega), List.getD_eq_default _ _ (by simp; omega)]
    · rw [List.getD_append _ _ _ _ hlt']

/-- **Shifting the whole queue down removes its first entry.** -/
lemma IsQueue.shiftDown {tab : Vector α n} {z : α} {xs : List α} (h : IsQueue tab z xs)
    (hlt : xs.length < n) :
    ∃ tab', shiftDown tab 0 xs.length = some tab' ∧ IsQueue tab' z xs.tail := by
  have hfits : 0 + xs.length < n := by omega
  obtain ⟨tab', h', hmoved, hkept⟩ := shiftDown_eq_some tab hfits
  refine ⟨tab', h', ⟨by simp; omega, fun j hj => ?_⟩⟩
  by_cases hj' : j < xs.length
  · rw [hmoved j (by omega) (Nat.zero_le _) (by omega), h.get]
    simp [List.getD_eq_getElem?_getD]
  · rw [hkept j hj (by omega), h.get, List.getD_eq_default _ _ (by omega),
      List.getD_eq_default _ _ (by simp; omega)]

/-! ## A table with keys -/

/-- A table whose first `m` rows are in use, with different keys, and whose other rows are free. -/
structure Keyed (free : α → Bool) (key : α → κ) (tab : Vector α n) (m : ℕ) : Prop where
  le : m ≤ n
  used : ∀ j (_ : j < n), j < m → free tab[j] = false
  rest : ∀ j (_ : j < n), m ≤ j → free tab[j] = true
  inj : ∀ i j (_ : i < n) (_ : j < n), i < m → j < m → key tab[i] = key tab[j] → i = j

section Keyed

variable {free : α → Bool} {key : α → κ} {tab : Vector α n} {m : ℕ}

/-- The search for a key stops at the first free row or at the row with the key. -/
def probe [DecidableEq κ] (free : α → Bool) (key : α → κ) (tab : Vector α n) (k : κ) :
    Option (Fin n) :=
  scan tab fun r => free r || key r == k

lemma probe_some [DecidableEq κ] {k : κ} {i : Fin n} (h : probe free key tab k = some i) :
    free (tab.get i) = true ∨ key (tab.get i) = k := by
  simpa using (scan_some h).1

/-- The search ends in the same place after its row was filled with the key. -/
lemma probe_set [DecidableEq κ] {k : κ} {i : Fin n} (h : probe free key tab k = some i) {r : α}
    (hr : key r = k) : probe free key (tab.set i r i.isLt) k = some i := by
  refine scan_eq_some i.isLt (by simp [hr]) (fun j hj => ?_)
  rw [Vector.getElem_set_ne _ _ (by omega)]
  exact (scan_some h).2 j hj

lemma Keyed.probe_of_mem [DecidableEq κ] (h : Keyed free key tab m) {i : ℕ} (hi : i < n)
    (him : i < m) : probe free key tab (key tab[i]) = some ⟨i, hi⟩ := by
  refine scan_eq_some hi (by simp) (fun j hj => ?_)
  have hne : key tab[j] ≠ key tab[i] := by
    intro he
    have := h.inj j i (by omega) hi (by omega) him he
    omega
  simp [h.used j (by omega) (by omega), hne]

lemma Keyed.probe_of_not_mem [DecidableEq κ] (h : Keyed free key tab m) {k : κ} (hm : m < n)
    (hk : ∀ j (_ : j < n), j < m → key tab[j] ≠ k) : probe free key tab k = some ⟨m, hm⟩ := by
  refine scan_eq_some hm (by simp [h.rest m hm (Nat.le_refl _)]) (fun j hj => ?_)
  simp [h.used j (by omega) hj, hk j (by omega) hj]

lemma Keyed.probe_of_full [DecidableEq κ] (h : Keyed free key tab n) {k : κ}
    (hk : ∀ j (_ : j < n), key tab[j] ≠ k) : probe free key tab k = none := by
  refine scan_eq_none (fun j hj => ?_)
  simp [h.used j hj hj, hk j hj]

/-- Filling the first free row with a new key. -/
lemma Keyed.insert (h : Keyed free key tab m) (hm : m < n) {r : α} (hr : free r = false)
    (hk : ∀ j (_ : j < n), j < m → key tab[j] ≠ key r) :
    Keyed free key (tab.set m r) (m + 1) := by
  refine ⟨hm, fun j hj hjm => ?_, fun j hj hjm => ?_, fun i j hi hj him hjm he => ?_⟩
  · rw [Vector.getElem_set]
    split_ifs with hjm'
    · exact hr
    · exact h.used j hj (by omega)
  · rw [Vector.getElem_set_ne _ _ (by omega)]
    exact h.rest j hj (by omega)
  · rw [Vector.getElem_set, Vector.getElem_set] at he
    split_ifs at he with h₁ h₂ h₂
    · omega
    · exact absurd he.symm (hk j hj (by omega))
    · exact absurd he (hk i hi (by omega))
    · exact h.inj i j hi hj (by omega) (by omega) he

/-- Overwriting a row that is in use, keeping its key. -/
lemma Keyed.update (h : Keyed free key tab m) {i : ℕ} (hi : i < n) (him : i < m) {r : α}
    (hr : free r = false) (hk : key r = key tab[i]) : Keyed free key (tab.set i r) m := by
  have hkey : ∀ j (hj : j < n), key (tab.set i r)[j] = key tab[j] := by
    intro j hj
    rw [Vector.getElem_set]
    split_ifs with hij
    · subst hij
      exact hk
    · rfl
  refine ⟨h.le, fun j hj hjm => ?_, fun j hj hjm => ?_, fun a b ha hb ham hbm he => ?_⟩
  · rw [Vector.getElem_set]
    split_ifs with hij
    · exact hr
    · exact h.used j hj hjm
  · rw [Vector.getElem_set_ne _ _ (by omega)]
    exact h.rest j hj hjm
  · rw [hkey a ha, hkey b hb] at he
    exact h.inj a b ha hb ham hbm he

/-- Every row free. -/
lemma Keyed.replicate {r : α} (hr : free r = true) :
    Keyed free key (Vector.replicate n r) 0 :=
  ⟨Nat.zero_le _, fun _ _ h => absurd h (Nat.not_lt_zero _), fun j hj _ => by simpa using hr,
    fun _ _ _ _ h => absurd h (Nat.not_lt_zero _)⟩

/-! ### The finite map a keyed table stands for -/

/-- The row in use that has the key. -/
def lookup [DecidableEq κ] (free : α → Bool) (key : α → κ) (tab : Vector α n) (k : κ) :
    Option α :=
  (probe free key tab k).bind fun i => if free (tab.get i) then none else some (tab.get i)

section Lookup

variable [DecidableEq κ]

lemma Keyed.lookup_of_mem (h : Keyed free key tab m) {i : ℕ} (hi : i < n) (him : i < m) :
    lookup free key tab (key tab[i]) = some tab[i] := by
  rw [lookup, h.probe_of_mem hi him]
  simp [get_eq_getElem, h.used i hi him]

lemma Keyed.lookup_of_not_mem (h : Keyed free key tab m) {k : κ}
    (hk : ∀ j (_ : j < n), j < m → key tab[j] ≠ k) : lookup free key tab k = none := by
  rw [lookup]
  rcases Nat.lt_or_ge m n with hm | hm
  · rw [h.probe_of_not_mem hm hk]
    simp [get_eq_getElem, h.rest m hm (Nat.le_refl _)]
  · have hmn : m = n := Nat.le_antisymm h.le hm
    subst hmn
    rw [h.probe_of_full (fun j hj => hk j hj hj)]
    rfl

lemma Keyed.lookup_replicate {r : α} (hr : free r = true) (k : κ) :
    lookup free key (Vector.replicate n r) k = none :=
  (Keyed.replicate hr).lookup_of_not_mem fun _ _ h => absurd h (Nat.not_lt_zero _)

/-- The search ends at the row of the key or, if it has none, at the first free one. -/
lemma Keyed.probe_cases (h : Keyed free key tab m) {k : κ} {i : Fin n}
    (hp : probe free key tab k = some i) :
    (i.val < m ∧ key (tab.get i) = k) ∨
      (i.val = m ∧ ∀ j (_ : j < n), j < m → key tab[j] ≠ k) := by
  obtain ⟨hi, hbefore⟩ := scan_some hp
  rcases Nat.lt_or_ge i.val m with hm | hm
  · left
    refine ⟨hm, ?_⟩
    simpa [get_eq_getElem, h.used i i.isLt hm] using hi
  · right
    have hnot : ∀ j (_ : j < n), j < m → key tab[j] ≠ k := by
      intro j hj hjm he
      have := hbefore j (by omega)
      simp [he] at this
    refine ⟨?_, hnot⟩
    by_contra hne
    have hfree := hbefore m (by omega)
    simp [h.rest m (by omega) (Nat.le_refl _)] at hfree

/-- Writing a row leaves the map as it is at keys that neither the old row nor the new one has. -/
lemma Keyed.lookup_set_ne (h : Keyed free key tab m) {m' i : ℕ} (hi : i < n) {r : α}
    (h' : Keyed free key (tab.set i r hi) m') (hm : ∀ j, j ≠ i → (j < m' ↔ j < m)) {k : κ}
    (hold : i < m → key tab[i] ≠ k) (hnew : i < m' → key r ≠ k) :
    lookup free key (tab.set i r hi) k = lookup free key tab k := by
  have hkept : ∀ j (_ : j < n), j ≠ i → (tab.set i r hi)[j] = tab[j] := fun j hj hne =>
    Vector.getElem_set_ne _ _ hne.symm
  by_cases hmem : ∃ j, ∃ _ : j < n, j < m ∧ key tab[j] = k
  · obtain ⟨j, hj, hjm, rfl⟩ := hmem
    have hne : j ≠ i := by
      rintro rfl
      exact hold hjm rfl
    have hfound := h'.lookup_of_mem hj ((hm j hne).mpr hjm)
    rw [hkept j hj hne] at hfound
    rw [hfound, h.lookup_of_mem hj hjm]
  · have hnone : ∀ j (_ : j < n), j < m → key tab[j] ≠ k :=
      fun j hj hjm he => hmem ⟨j, hj, hjm, he⟩
    rw [h.lookup_of_not_mem hnone, h'.lookup_of_not_mem]
    intro j hj hjm
    by_cases hne : j = i
    · subst hne
      rw [Vector.getElem_set_self]
      exact hnew hjm
    · rw [hkept j hj hne]
      exact hnone j hj ((hm j hne).mp hjm)

/-- **Writing a row of the key where its search ends updates the map at that key only.** -/
lemma Keyed.lookup_set (h : Keyed free key tab m) {k : κ} {i : Fin n} {r : α}
    (hp : probe free key tab k = some i) (hr : free r = false) (hk : key r = k) :
    ∃ m', Keyed free key (tab.set i r i.isLt) m' ∧
      ∀ k', lookup free key (tab.set i r i.isLt) k' =
        if k' = k then some r else lookup free key tab k' := by
  have hself : ∀ {m'}, Keyed free key (tab.set i r i.isLt) m' → i.val < m' →
      lookup free key (tab.set i r i.isLt) k = some r := by
    intro m' h' him
    have hfound := h'.lookup_of_mem i.isLt him
    rwa [Vector.getElem_set_self, hk] at hfound
  rcases h.probe_cases hp with ⟨him, hik⟩ | ⟨him, hnot⟩
  · have h' := h.update i.isLt him hr (hk.trans hik.symm)
    refine ⟨m, h', fun k' => ?_⟩
    split_ifs with hk'
    · rw [hk', hself h' him]
    · exact h.lookup_set_ne i.isLt h' (fun _ _ => Iff.rfl) (fun _ he => hk' (he.symm.trans hik))
        fun _ he => hk' (he.symm.trans hk)
  · have hm : m < n := by omega
    have hset : tab.set i r = tab.set m r := by simp [him]
    have h' : Keyed free key (tab.set i r i.isLt) (m + 1) := by
      rw [hset]
      exact h.insert hm hr (fun j hj hjm => by rw [hk]; exact hnot j hj hjm)
    refine ⟨m + 1, h', fun k' => ?_⟩
    split_ifs with hk'
    · rw [hk', hself h' (by omega)]
    · exact h.lookup_set_ne i.isLt h' (fun j hj => by omega) (fun hlt => absurd hlt (by omega))
        fun _ he => hk' (he.symm.trans hk)

/-- Writing a free row behind the rows in use changes nothing. -/
lemma Keyed.lookup_set_free (h : Keyed free key tab m) {i : Fin n} {r : α} (hi : m ≤ i.val)
    (hr : free r = true) : Keyed free key (tab.set i r i.isLt) m ∧
      ∀ k, lookup free key (tab.set i r i.isLt) k = lookup free key tab k := by
  have hkept : ∀ j (hj : j < n), j < m → (tab.set i r i.isLt)[j] = tab[j] := fun j hj hjm =>
    Vector.getElem_set_ne _ _ (by omega)
  have h' : Keyed free key (tab.set i r i.isLt) m := by
    refine ⟨h.le, fun j hj hjm => ?_, fun j hj hjm => ?_, fun a b ha hb ham hbm he => ?_⟩
    · rw [hkept j hj hjm]
      exact h.used j hj hjm
    · rw [Vector.getElem_set]
      split_ifs
      · exact hr
      · exact h.rest j hj hjm
    · rw [hkept a ha ham, hkept b hb hbm] at he
      exact h.inj a b ha hb ham hbm he
  have hout : ¬ i.val < m := Nat.not_lt.mpr hi
  exact ⟨h', fun k => h.lookup_set_ne i.isLt h' (fun _ _ => Iff.rfl) (fun hlt => absurd hlt hout)
    fun hlt => absurd hlt hout⟩

/-- A search fails only when the keys in use and the key looked for are too many. -/
lemma Keyed.probe_isSome (h : Keyed free key tab m) {k : κ} {keys : Finset κ}
    (hkeys : ∀ j (_ : j < n), j < m → key tab[j] ∈ keys) (hk : k ∈ keys)
    (hcard : keys.card ≤ n) : ∃ i, probe free key tab k = some i := by
  by_cases hmem : ∃ j, ∃ _ : j < n, j < m ∧ key tab[j] = k
  · obtain ⟨j, hj, hjm, rfl⟩ := hmem
    exact ⟨_, h.probe_of_mem hj hjm⟩
  · have hnone : ∀ j (_ : j < n), j < m → key tab[j] ≠ k :=
      fun j hj hjm he => hmem ⟨j, hj, hjm, he⟩
    rcases Nat.lt_or_ge m n with hm | hm
    · exact ⟨_, h.probe_of_not_mem hm hnone⟩
    · -- all rows are in use, by keys other than `k`
      have hinj : Function.Injective fun i : Fin n => key tab[i] := fun i j he =>
        Fin.ext (h.inj i j i.isLt j.isLt (by omega) (by omega) he)
      have hsub : Finset.univ.image (fun i : Fin n => key tab[i]) ⊆ keys.erase k := by
        intro x hx
        obtain ⟨i, -, rfl⟩ := Finset.mem_image.mp hx
        exact Finset.mem_erase.mpr
          ⟨hnone i i.isLt (by omega), hkeys i i.isLt (by omega)⟩
      have hle := Finset.card_le_card hsub
      rw [Finset.card_image_of_injective _ hinj, Finset.card_univ, Fintype.card_fin,
        Finset.card_erase_of_mem hk] at hle
      have hpos : 0 < keys.card := Finset.card_pos.mpr ⟨k, hk⟩
      omega

end Lookup

/-! ### The keys in use -/

/-- The rows in use are those of the keys, one for each. -/
structure Indexed (free : α → Bool) (key : α → κ) (tab : Vector α n) (keys : Finset κ) : Prop where
  keyed : Keyed free key tab keys.card
  mem : ∀ j (_ : j < n), j < keys.card → key tab[j] ∈ keys

lemma Indexed.replicate {r : α} (hr : free r = true) :
    Indexed free key (Vector.replicate n r) (∅ : Finset κ) :=
  ⟨Keyed.replicate hr, fun _ _ h => absurd h (Nat.not_lt_zero _)⟩

section Indexed

variable [DecidableEq κ] {keys : Finset κ} {k : κ} {i : Fin n}

/-- Every key has a row. -/
lemma Indexed.row (h : Indexed free key tab keys) (hk : k ∈ keys) :
    ∃ i : Fin n, i.val < keys.card ∧ key (tab.get i) = k := by
  have hrow : ∀ j : Fin keys.card, j.val < n := fun j => Nat.lt_of_lt_of_le j.isLt h.keyed.le
  let f : Fin keys.card → κ := fun j => key (tab.get ⟨j.val, hrow j⟩)
  have hinj : Function.Injective f := fun a b he =>
    Fin.ext (h.keyed.inj a b (hrow a) (hrow b) a.isLt b.isLt he)
  have hsub : Finset.univ.image f ⊆ keys := by
    intro x hx
    obtain ⟨j, -, rfl⟩ := Finset.mem_image.mp hx
    exact h.mem j (hrow j) j.isLt
  have hcard : keys.card ≤ (Finset.univ.image f).card := by
    rw [Finset.card_image_of_injective _ hinj, Finset.card_univ, Fintype.card_fin]
  rw [← Finset.eq_of_subset_of_card_le hsub hcard] at hk
  obtain ⟨j, -, hj⟩ := Finset.mem_image.mp hk
  exact ⟨⟨j.val, hrow j⟩, j.isLt, hj⟩

/-- The search for a key ends at its row, or at the first free row if it has none. -/
lemma Indexed.probe_cases (h : Indexed free key tab keys) (hp : probe free key tab k = some i) :
    (k ∈ keys ∧ i.val < keys.card ∧ key (tab.get i) = k) ∨ (k ∉ keys ∧ i.val = keys.card) := by
  rcases h.keyed.probe_cases hp with ⟨hlt, hkey⟩ | ⟨heq, hnone⟩
  · exact .inl ⟨hkey ▸ h.mem i i.isLt hlt, hlt, hkey⟩
  · refine .inr ⟨fun hk => ?_, heq⟩
    obtain ⟨j, hj, hjk⟩ := h.row hk
    exact hnone j j.isLt hj hjk

/-- The search fails if and only if one key more would be too many. -/
lemma Indexed.probe_eq_none_iff (h : Indexed free key tab keys) :
    probe free key tab k = none ↔ n < (insert k keys).card := by
  constructor
  · intro hp
    by_contra hle
    obtain ⟨i, hi⟩ := h.keyed.probe_isSome
      (fun j hj hlt => Finset.mem_insert_of_mem (h.mem j hj hlt))
      (Finset.mem_insert_self k keys) (Nat.not_lt.mp hle)
    rw [hp] at hi
    cases hi
  · intro hlt
    have hk : k ∉ keys := by
      intro hk
      rw [Finset.insert_eq_of_mem hk] at hlt
      exact absurd h.keyed.le (Nat.not_le.mpr hlt)
    rw [Finset.card_insert_of_notMem hk] at hlt
    have hfull : keys.card = n := Nat.le_antisymm h.keyed.le (Nat.le_of_lt_succ hlt)
    have hkeyed := h.keyed
    rw [hfull] at hkeyed
    refine hkeyed.probe_of_full fun j hj he => hk ?_
    rw [← he]
    exact h.mem j hj (by omega)

/-- Writing a row of a key where its search ends. -/
lemma Indexed.set (h : Indexed free key tab keys) (hp : probe free key tab k = some i) {r : α}
    (hr : free r = false) (hk : key r = k) :
    Indexed free key (tab.set i r i.isLt) (insert k keys) := by
  rcases h.probe_cases hp with ⟨hmem, hlt, hkey⟩ | ⟨hnew, heq⟩
  · rw [Finset.insert_eq_of_mem hmem]
    refine ⟨h.keyed.update i.isLt hlt hr (hk.trans hkey.symm), fun j hj hj' => ?_⟩
    rw [Vector.getElem_set]
    split_ifs
    · rw [hk]
      exact hmem
    · exact h.mem j hj hj'
  · have hi := i.isLt
    have hset : tab.set i r = tab.set keys.card r := by simp [heq]
    have hnone : ∀ j (_ : j < n), j < keys.card → key tab[j] ≠ key r := by
      intro j hj hj' he
      rw [hk] at he
      exact hnew (he ▸ h.mem j hj hj')
    rw [hset]
    refine ⟨?_, fun j hj hj' => ?_⟩
    · rw [Finset.card_insert_of_notMem hnew]
      exact h.keyed.insert (by omega) hr hnone
    · rw [Finset.card_insert_of_notMem hnew] at hj'
      rw [Vector.getElem_set]
      split_ifs
      · rw [hk]
        exact Finset.mem_insert_self k keys
      · exact Finset.mem_insert_of_mem (h.mem j hj (by omega))

/-- Writing a free row behind the rows in use. -/
lemma Indexed.set_free (h : Indexed free key tab keys) (hi : keys.card ≤ i.val) {r : α}
    (hr : free r = true) : Indexed free key (tab.set i r i.isLt) keys := by
  refine ⟨(h.keyed.lookup_set_free hi hr).1, fun j hj hj' => ?_⟩
  rw [Vector.getElem_set_ne _ _ (by omega)]
  exact h.mem j hj hj'

end Indexed

end Keyed

end Framework
