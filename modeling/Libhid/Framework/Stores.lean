import Mathlib.Data.List.Basic
import Mathlib.Logic.Function.Basic
import Mathlib.Tactic.Common

/-!
# Stores to memory

A program that writes to memory is given by its stores in order, each a value with its place.
`stored` is the memory after them.  A string written from a place on leaves the memory with the
string spliced in, and two splices that overlap are one (`splice_splice`), so that what a sequence
of writes leaves can be read off as one string.

More generally, a write puts values at its places and leaves the others (`Overwrites`).  Writes
that share no place can be made in any order (`Overwrites.foldl_perm`), and each leaves its values
(`Overwrites.foldl_inside`).
-/

namespace Framework

section Stores

variable {α : Type*} {m : ℕ → α} {i j : ℕ} {xs : List α}

/-- The memory after the stores. -/
def stored (stores : List (α × ℕ)) (m : ℕ → α) : ℕ → α :=
  stores.foldl (fun m s => Function.update m s.2 s.1) m

@[simp] lemma stored_nil (m : ℕ → α) : stored [] m = m := rfl

@[simp] lemma stored_cons (s : α × ℕ) (stores : List (α × ℕ)) (m : ℕ → α) :
    stored (s :: stores) m = stored stores (Function.update m s.2 s.1) := rfl

@[simp] lemma stored_append (first second : List (α × ℕ)) (m : ℕ → α) :
    stored (first ++ second) m = stored second (stored first m) := List.foldl_append

/-- The memory with a string in it from the `i`-th place on. -/
def splice (m : ℕ → α) (i : ℕ) (xs : List α) : ℕ → α :=
  fun j => if i ≤ j then xs[j - i]?.getD (m j) else m j

lemma splice_outside (h : j < i ∨ i + xs.length ≤ j) : splice m i xs j = m j := by
  unfold splice
  split_ifs with hij
  · rw [List.getElem?_eq_none (by omega), Option.getD_none]
  · rfl

lemma splice_inside (h : i ≤ j) (hlt : j - i < xs.length) : splice m i xs j = xs[j - i] := by
  rw [splice, if_pos h, List.getElem?_eq_getElem hlt, Option.getD_some]

lemma splice_nil (m : ℕ → α) (i : ℕ) : splice m i [] = m := by
  funext j
  exact splice_outside (by simp; omega)

lemma splice_singleton (m : ℕ → α) (i : ℕ) (x : α) : splice m i [x] = Function.update m i x := by
  funext j
  by_cases hj : j = i
  · subst hj
    rw [Function.update_self, splice_inside (Nat.le_refl _) (by simp)]
    simp
  · rw [Function.update_of_ne hj, splice_outside (by simp; omega)]

/-- Of two strings that overlap or meet, the second one counts. -/
lemma splice_splice {k : ℕ} {ys : List α} (hk : k ≤ xs.length) (hlen : xs.length ≤ k + ys.length) :
    splice (splice m i xs) (i + k) ys = splice m i (xs.take k ++ ys) := by
  have htake : (xs.take k).length = k := by rw [List.length_take, Nat.min_eq_left hk]
  funext j
  by_cases hin : i ≤ j ∧ j < i + k + ys.length
  · rw [splice_inside (m := m) hin.1 (by rw [List.length_append, htake]; omega)]
    by_cases hj : i + k ≤ j
    · rw [splice_inside hj (by omega), List.getElem_append_right (by omega)]
      congr 1
      omega
    · rw [splice_outside (.inl (by omega)), splice_inside hin.1 (by omega),
        List.getElem_append_left (by omega), List.getElem_take]
  · rw [splice_outside (by omega), splice_outside (by omega),
      splice_outside (by rw [List.length_append, htake]; omega)]

/-- A store into a string. -/
lemma update_splice {k : ℕ} (hk : k < xs.length) (x : α) :
    Function.update (splice m i xs) (i + k) x = splice m i (xs.set k x) := by
  funext j
  by_cases hj : j = i + k
  · subst hj
    rw [Function.update_self, splice_inside (by omega) (by rw [List.length_set]; omega)]
    simp
  · rw [Function.update_of_ne hj]
    by_cases hin : i ≤ j ∧ j < i + xs.length
    · rw [splice_inside hin.1 (by omega), splice_inside hin.1 (by rw [List.length_set]; omega),
        List.getElem_set_of_ne (by omega)]
    · rw [splice_outside (by omega), splice_outside (by rw [List.length_set]; omega)]

/-- **A string written from a place on is spliced into the memory.** -/
theorem stored_zipIdx : ∀ (xs : List α) (i : ℕ) (m : ℕ → α),
    stored (xs.zipIdx i) m = splice m i xs
  | [], i, m => (splice_nil m i).symm
  | x :: xs, i, m => by
      rw [List.zipIdx_cons, stored_cons, stored_zipIdx xs (i + 1), ← splice_singleton,
        splice_splice (by simp) (by simp)]
      rfl

/-- The places of a string. -/
lemma exists_mem_zipIdx : (∃ s ∈ xs.zipIdx i, s.2 = j) ↔ i ≤ j ∧ j < i + xs.length := by
  rw [← List.mem_range'_1, ← List.zipIdx_map_snd i xs, List.mem_map]

end Stores

/-! ## Writes that share no place -/

section Overwrites

variable {ι σ X V : Type*} {put : ι → σ → σ} {get : σ → X → V} {covers : ι → X → Prop}
  {val : ι → X → V} {order order' : List ι} {i : ι} {s : σ} {x : X}

/-- The write puts its values at the places that it covers, and leaves the others. -/
structure Overwrites (put : ι → σ → σ) (get : σ → X → V) (covers : ι → X → Prop) (val : ι → X → V)
    (i : ι) : Prop where
  inside : ∀ s x, covers i x → get (put i s) x = val i x
  outside : ∀ s x, ¬ covers i x → get (put i s) x = get s x

/-- A place that no write covers is as it was. -/
theorem Overwrites.foldl_outside (h : ∀ i ∈ order, Overwrites put get covers val i)
    (hx : ∀ i ∈ order, ¬ covers i x) : get (order.foldl (fun s i => put i s) s) x = get s x := by
  induction order generalizing s with
  | nil => rfl
  | cons i order ih =>
      obtain ⟨hi, hrest⟩ := List.forall_mem_cons.mp h
      obtain ⟨hxi, hxrest⟩ := List.forall_mem_cons.mp hx
      rw [List.foldl_cons, ih hrest hxrest, hi.outside s x hxi]

/-- **The values of a write are there in the end**, if no other write covers its places. -/
theorem Overwrites.foldl_inside (h : ∀ i ∈ order, Overwrites put get covers val i)
    (hapart : order.Pairwise fun i j => ∀ x, ¬ (covers i x ∧ covers j x)) (hi : i ∈ order)
    (hx : covers i x) : get (order.foldl (fun s i => put i s) s) x = val i x := by
  induction order generalizing s with
  | nil => cases hi
  | cons j order ih =>
      obtain ⟨hj, hrest⟩ := List.forall_mem_cons.mp h
      obtain ⟨hfirst, hapart⟩ := List.pairwise_cons.mp hapart
      rw [List.foldl_cons]
      rcases List.mem_cons.mp hi with rfl | hi
      · rw [foldl_outside hrest fun k hk hxk => hfirst k hk x ⟨hx, hxk⟩, hj.inside s x hx]
      · exact ih hrest hapart hi

/-- **Writes that share no place can be made in any order.** -/
theorem Overwrites.foldl_perm (hext : ∀ s t, (∀ x, get s x = get t x) → s = t)
    (h : ∀ i ∈ order, Overwrites put get covers val i)
    (hapart : order.Pairwise fun i j => ∀ x, ¬ (covers i x ∧ covers j x))
    (hperm : order.Perm order') :
    order.foldl (fun s i => put i s) s = order'.foldl (fun s i => put i s) s := by
  have h' : ∀ i ∈ order', Overwrites put get covers val i := fun i hi => h i (hperm.mem_iff.mpr hi)
  have hapart' : order'.Pairwise fun i j => ∀ x, ¬ (covers i x ∧ covers j x) :=
    hperm.pairwise hapart fun hij x hx => hij x ⟨hx.2, hx.1⟩
  refine hext _ _ fun x => ?_
  by_cases hx : ∃ i ∈ order, covers i x
  · obtain ⟨i, hi, hx⟩ := hx
    rw [foldl_inside h hapart hi hx, foldl_inside h' hapart' (hperm.mem_iff.mp hi) hx]
  · have hnone : ∀ i ∈ order, ¬ covers i x := fun i hi hxi => hx ⟨i, hi, hxi⟩
    rw [foldl_outside h hnone, foldl_outside h' fun i hi => hnone i (hperm.mem_iff.mpr hi)]

end Overwrites

end Framework
