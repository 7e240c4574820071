import Mathlib.Data.List.Nodup
import Mathlib.Data.Sum.Basic
import Mathlib.Logic.Function.Basic
import Mathlib.Tactic.Common

/-!
# Resources in a log of events

A log, the latest event first, in which some events acquire a resource and some release one.
`Ledger` says that the books are in order: no resource is acquired twice or released twice, each is
released after it was acquired, and `held` is what is left.  An acquisition of something new adds it
to `held` (`Ledger.acquire`), a release of something held removes it (`Ledger.release`), and every
other event leaves `held` as it is (`Ledger.skip`).

In `Owned` what is held lies in slots, one resource in each and each in one: an acquisition fills an
empty slot, a release empties a slot.
-/

namespace Framework

variable {ε ρ : Type*}

/-- Which events acquire and which release, no event doing both. -/
structure Accounts (ε ρ : Type*) where
  acquired : ε → Option ρ
  released : ε → Option ρ
  exclusive : ∀ e, acquired e = none ∨ released e = none

namespace Accounts

variable (a : Accounts ε ρ)

/-- The resources acquired in a log. -/
def acquisitions (log : List ε) : List ρ := log.filterMap a.acquired

/-- The resources released in a log. -/
def releases (log : List ε) : List ρ := log.filterMap a.released

/-- The events that concern no resource. -/
def Neutral (e : ε) : Prop := a.acquired e = none ∧ a.released e = none

end Accounts

/-! ## Uses -/

/-- Every event of a log that uses a resource comes after it was acquired and before it is
released. -/
def UsedHeld (a : Accounts ε ρ) (used : ε → Option ρ) (log : List ε) : Prop :=
  ∀ after e before, log = after ++ e :: before → ∀ r, used e = some r →
    r ∈ a.acquisitions before ∧ r ∉ a.releases before

namespace UsedHeld

variable {a : Accounts ε ρ} {used : ε → Option ρ} {log : List ε}

lemma nil (a : Accounts ε ρ) (used : ε → Option ρ) : UsedHeld a used [] := by
  intro after e before hlog
  simp at hlog

/-- An event that uses nothing, or what is held. -/
lemma cons (h : UsedHeld a used log) {e : ε}
    (he : ∀ r, used e = some r → r ∈ a.acquisitions log ∧ r ∉ a.releases log) :
    UsedHeld a used (e :: log) := by
  intro after e' before hlog r hr
  cases after with
  | nil =>
      cases hlog
      exact he r hr
  | cons x after =>
      cases hlog
      exact h after e' before rfl r hr

/-- Events that use what is held and concern no other resource. -/
lemma append (h : UsedHeld a used log) : ∀ {es : List ε}, (∀ e ∈ es, a.Neutral e) →
    (∀ e ∈ es, ∀ r, used e = some r → r ∈ a.acquisitions log ∧ r ∉ a.releases log) →
    UsedHeld a used (es ++ log)
  | [], _, _ => h
  | e :: es, hn, hes => by
      have hn' : ∀ e' ∈ es, a.Neutral e' := fun e' he' => hn e' (List.mem_cons_of_mem e he')
      have hacq : a.acquisitions (es ++ log) = a.acquisitions log := by
        rw [Accounts.acquisitions, List.filterMap_append,
          List.filterMap_eq_nil_iff.mpr fun e' he' => (hn' e' he').1]
        rfl
      have hrel : a.releases (es ++ log) = a.releases log := by
        rw [Accounts.releases, List.filterMap_append,
          List.filterMap_eq_nil_iff.mpr fun e' he' => (hn' e' he').2]
        rfl
      refine (h.append hn' fun e' he' => hes e' (List.mem_cons_of_mem e he')).cons fun r hr => ?_
      rw [hacq, hrel]
      exact hes e List.mem_cons_self r hr

end UsedHeld

/-! ## Books -/

/-- The books of a log in which `held` is what was acquired and not released. -/
structure Ledger (a : Accounts ε ρ) (log : List ε) (held : ρ → Prop) : Prop where
  acquired_once : (a.acquisitions log).Nodup
  released_once : (a.releases log).Nodup
  released_sub : ∀ r ∈ a.releases log, r ∈ a.acquisitions log
  released_held : UsedHeld a a.released log
  held_iff : ∀ r, held r ↔ r ∈ a.acquisitions log ∧ r ∉ a.releases log

namespace Ledger

variable {a : Accounts ε ρ} {log : List ε} {held : ρ → Prop}

lemma nil (a : Accounts ε ρ) : Ledger a [] fun _ => False :=
  ⟨List.nodup_nil, List.nodup_nil, fun _ h => h, .nil a _, fun r => by simp [Accounts.acquisitions]⟩

lemma congr {held' : ρ → Prop} (h : Ledger a log held) (heq : ∀ r, held' r ↔ held r) :
    Ledger a log held' :=
  ⟨h.acquired_once, h.released_once, h.released_sub, h.released_held,
    fun r => (heq r).trans (h.held_iff r)⟩

lemma skip (h : Ledger a log held) {e : ε} (he : a.Neutral e) : Ledger a (e :: log) held := by
  have hacq : a.acquisitions (e :: log) = a.acquisitions log := by
    simp [Accounts.acquisitions, he.1]
  have hrel : a.releases (e :: log) = a.releases log := by
    simp [Accounts.releases, he.2]
  refine ⟨hacq ▸ h.acquired_once, hrel ▸ h.released_once, ?_, ?_, ?_⟩
  · rw [hacq, hrel]
    exact h.released_sub
  · exact h.released_held.cons fun r hr => by rw [he.2] at hr; cases hr
  · rw [hacq, hrel]
    exact h.held_iff

lemma skip_all (h : Ledger a log held) : ∀ {es : List ε}, (∀ e ∈ es, a.Neutral e) →
    Ledger a (es ++ log) held
  | [], _ => h
  | e :: _, hes => (skip_all h fun e' he' => hes e' (List.mem_cons_of_mem e he')).skip
      (hes e List.mem_cons_self)

/-- Acquiring a resource that was never acquired before. -/
lemma acquire (h : Ledger a log held) {e : ε} {r : ρ} (he : a.acquired e = some r)
    (hr : r ∉ a.acquisitions log) : Ledger a (e :: log) fun x => x = r ∨ held x := by
  have hnone : a.released e = none := by
    rcases a.exclusive e with h' | h'
    · rw [he] at h'
      cases h'
    · exact h'
  have hacq : a.acquisitions (e :: log) = r :: a.acquisitions log := by
    simp [Accounts.acquisitions, he]
  have hrel : a.releases (e :: log) = a.releases log := by
    simp [Accounts.releases, hnone]
  refine ⟨?_, ?_, ?_, ?_, fun x => ?_⟩
  · rw [hacq]
    exact List.nodup_cons.mpr ⟨hr, h.acquired_once⟩
  · rw [hrel]
    exact h.released_once
  · intro x hx
    rw [hrel] at hx
    rw [hacq]
    exact List.mem_cons_of_mem r (h.released_sub x hx)
  · refine h.released_held.cons fun x hx => ?_
    rw [hnone] at hx
    cases hx
  · rw [hacq, hrel, h.held_iff x, List.mem_cons]
    constructor
    · rintro (rfl | hx)
      · exact ⟨.inl rfl, fun hx => hr (h.released_sub x hx)⟩
      · exact ⟨.inr hx.1, hx.2⟩
    · rintro ⟨rfl | hx, hn⟩
      · exact .inl rfl
      · exact .inr ⟨hx, hn⟩

/-- Releasing a resource that is held. -/
lemma release (h : Ledger a log held) {e : ε} {r : ρ} (he : a.released e = some r)
    (hr : held r) : Ledger a (e :: log) fun x => x ≠ r ∧ held x := by
  have hnone : a.acquired e = none := by
    rcases a.exclusive e with h' | h'
    · exact h'
    · rw [he] at h'
      cases h'
  have hacq : a.acquisitions (e :: log) = a.acquisitions log := by
    simp [Accounts.acquisitions, hnone]
  have hrel : a.releases (e :: log) = r :: a.releases log := by
    simp [Accounts.releases, he]
  obtain ⟨hmem, hnot⟩ := (h.held_iff r).mp hr
  refine ⟨?_, ?_, ?_, ?_, fun x => ?_⟩
  · rw [hacq]
    exact h.acquired_once
  · rw [hrel]
    exact List.nodup_cons.mpr ⟨hnot, h.released_once⟩
  · intro x hx
    rw [hacq]
    rw [hrel, List.mem_cons] at hx
    rcases hx with rfl | hx
    · exact hmem
    · exact h.released_sub x hx
  · refine h.released_held.cons fun x hx => ?_
    rw [he] at hx
    cases hx
    exact ⟨hmem, hnot⟩
  · rw [hacq, hrel, h.held_iff x, List.mem_cons, not_or]
    exact and_left_comm

/-- What was held once and is not held any more was released, and only once. -/
lemma count_releases [DecidableEq ρ] (h : Ledger a log held) {r : ρ} (hr : r ∈ a.acquisitions log)
    (hn : ¬ held r) : (a.releases log).count r = 1 := by
  have hmem : r ∈ a.releases log := by
    by_contra hnot
    exact hn ((h.held_iff r).mpr ⟨hr, hnot⟩)
  exact List.count_eq_one_of_mem h.released_once hmem

end Ledger

/-! ## Resources in slots -/

/-- The books of a log in which what is held lies in slots, each resource in one slot. -/
structure Owned {ι : Type*} (a : Accounts ε ρ) (log : List ε) (slot : ι → Option ρ) : Prop where
  ledger : Ledger a log fun r => ∃ i, slot i = some r
  once : ∀ i j r, slot i = some r → slot j = some r → i = j

namespace Owned

variable {ι : Type*} {a : Accounts ε ρ} {log : List ε} {slot : ι → Option ρ}

lemma empty (a : Accounts ε ρ) : Owned a [] fun _ : ι => none :=
  ⟨(Ledger.nil a).congr fun _ => by simp, fun _ _ _ h => by cases h⟩

lemma skip_all (h : Owned a log slot) {es : List ε} (hes : ∀ e ∈ es, a.Neutral e) :
    Owned a (es ++ log) slot :=
  ⟨h.ledger.skip_all hes, h.once⟩

variable [DecidableEq ι] {e : ε} {r : ρ} {i : ι}

/-- Acquiring something new into an empty slot. -/
lemma acquire (h : Owned a log slot) (he : a.acquired e = some r) (hr : r ∉ a.acquisitions log)
    (hi : slot i = none) : Owned a (e :: log) (Function.update slot i (some r)) := by
  have hnew : ∀ j, slot j ≠ some r := fun j hj => hr ((h.ledger.held_iff r).mp ⟨j, hj⟩).1
  refine ⟨(h.ledger.acquire he hr).congr fun x => ⟨?_, ?_⟩, fun j k x hj hk => ?_⟩
  · rintro ⟨j, hj⟩
    rw [Function.update_apply] at hj
    split_ifs at hj
    · exact .inl (Option.some.inj hj).symm
    · exact .inr ⟨j, hj⟩
  · rintro (rfl | ⟨j, hj⟩)
    · exact ⟨i, Function.update_self ..⟩
    · refine ⟨j, ?_⟩
      rw [Function.update_of_ne, hj]
      rintro rfl
      rw [hi] at hj
      cases hj
  · rw [Function.update_apply] at hj hk
    split_ifs at hj hk with h₁ h₂ h₂
    · rw [h₁, h₂]
    · rw [← Option.some.inj hj] at hk
      exact absurd hk (hnew k)
    · rw [← Option.some.inj hk] at hj
      exact absurd hj (hnew j)
    · exact h.once j k x hj hk

/-- Moving what lies in a slot to an empty one. -/
lemma move {j : ι} (h : Owned a log slot) (hi : slot i = some r) (hj : slot j = none) :
    Owned a log (Function.update (Function.update slot i none) j (some r)) := by
  have hmoved : ∀ k x, Function.update (Function.update slot i none) j (some r) k = some x ↔
      (k = j ∧ x = r) ∨ (k ≠ j ∧ k ≠ i ∧ slot k = some x) := by
    intro k x
    rw [Function.update_apply, Function.update_apply]
    by_cases hkj : k = j
    · simp [hkj, eq_comm]
    · rw [if_neg hkj]
      split_ifs with hki
      · exact iff_of_false nofun fun h => h.elim (fun h => hkj h.1) fun h => h.2.1 hki
      · simp [hkj, hki]
  refine ⟨h.ledger.congr fun x => ⟨?_, ?_⟩, fun k k' x hk hk' => ?_⟩
  · rintro ⟨k, hk⟩
    rcases (hmoved k x).mp hk with ⟨-, rfl⟩ | ⟨-, -, hk⟩
    · exact ⟨i, hi⟩
    · exact ⟨k, hk⟩
  · rintro ⟨k, hk⟩
    by_cases hki : k = i
    · subst hki
      rw [hi] at hk
      exact ⟨j, (hmoved j x).mpr (.inl ⟨rfl, (Option.some.inj hk).symm⟩)⟩
    · refine ⟨k, (hmoved k x).mpr (.inr ⟨?_, hki, hk⟩)⟩
      rintro rfl
      rw [hj] at hk
      cases hk
  · rcases (hmoved k x).mp hk with ⟨hkj, hx⟩ | ⟨-, hki, hk⟩ <;>
      rcases (hmoved k' x).mp hk' with ⟨hkj', hx'⟩ | ⟨-, hki', hk'⟩
    · rw [hkj, hkj']
    · exact absurd (h.once k' i x hk' (hx ▸ hi)) hki'
    · exact absurd (h.once k i x hk (hx' ▸ hi)) hki
    · exact h.once k k' x hk hk'

/-- Releasing what lies in a slot. -/
lemma release (h : Owned a log slot) (he : a.released e = some r) (hi : slot i = some r) :
    Owned a (e :: log) (Function.update slot i none) := by
  refine ⟨(h.ledger.release he ⟨i, hi⟩).congr fun x => ⟨?_, ?_⟩, fun j k x hj hk => ?_⟩
  · rintro ⟨j, hj⟩
    rw [Function.update_apply] at hj
    split_ifs at hj with hji
    refine ⟨?_, j, hj⟩
    rintro rfl
    exact hji (h.once j i x hj hi)
  · rintro ⟨hne, j, hj⟩
    refine ⟨j, ?_⟩
    rw [Function.update_of_ne, hj]
    rintro rfl
    rw [hi] at hj
    exact hne (Option.some.inj hj).symm
  · rw [Function.update_apply] at hj hk
    split_ifs at hj hk
    exact h.once j k x hj hk

end Owned

/-! ## Transactions -/

/-- Every resource acquired in a log has an earlier time than the log. -/
def Stamped (a : Accounts ε ρ) (time : ρ → ℕ) (log : List ε) : Prop :=
  ∀ r ∈ a.acquisitions log, time r < log.length

lemma stamped_nil (a : Accounts ε ρ) (time : ρ → ℕ) : Stamped a time [] := fun _ h =>
  absurd h List.not_mem_nil

lemma Stamped.skip_all {a : Accounts ε ρ} {time : ρ → ℕ} {log es : List ε}
    (h : Stamped a time log) (hes : ∀ e ∈ es, a.acquired e = none) :
    Stamped a time (es ++ log) := by
  intro r hr
  rw [Accounts.acquisitions, List.filterMap_append, List.filterMap_eq_nil_iff.mpr hes,
    List.nil_append] at hr
  rw [List.length_append]
  exact Nat.lt_of_lt_of_le (h r hr) (Nat.le_add_left _ _)

lemma Stamped.skip {a : Accounts ε ρ} {time : ρ → ℕ} {log : List ε} (h : Stamped a time log) {e : ε}
    (he : a.acquired e = none) : Stamped a time (e :: log) := by
  have hes : ∀ e' ∈ [e], a.acquired e' = none := by simpa using he
  exact h.skip_all hes

lemma Stamped.acquire {a : Accounts ε ρ} {time : ρ → ℕ} {log : List ε} (h : Stamped a time log)
    {e : ε} {r : ρ} (he : a.acquired e = some r) (ht : time r = log.length) :
    Stamped a time (e :: log) := by
  intro x hx
  rw [Accounts.acquisitions, List.filterMap_cons_some he] at hx
  rw [List.length_cons]
  rcases List.mem_cons.mp hx with rfl | hx
  · omega
  · have := h x hx
    omega

/-- A step of a log that keeps the books, whatever is held besides the slots: resources are acquired
at their time and into empty slots, and released out of theirs. -/
structure Transacts {ι : Type} (a : Accounts ε ρ) (time : ρ → ℕ) (log : List ε)
    (slot : ι → Option ρ) (log' : List ε) (slot' : ι → Option ρ) : Prop where
  keeps : ∀ {κ : Type} (other : κ → Option ρ), Stamped a time log →
    Owned a log (Sum.elim slot other) → Stamped a time log' ∧ Owned a log' (Sum.elim slot' other)

namespace Transacts

variable {ι : Type} {a : Accounts ε ρ} {time : ρ → ℕ} {log log' log'' : List ε}
  {slot slot' slot'' : ι → Option ρ} {e : ε} {r : ρ} {i : ι}

lemma refl (a : Accounts ε ρ) (time : ρ → ℕ) (log : List ε) (slot : ι → Option ρ) :
    Transacts a time log slot log slot := ⟨fun _ hs ho => ⟨hs, ho⟩⟩

lemma trans (h : Transacts a time log slot log' slot')
    (h' : Transacts a time log' slot' log'' slot'') : Transacts a time log slot log'' slot'' := by
  refine ⟨fun other hs ho => ?_⟩
  obtain ⟨hs', ho'⟩ := h.keeps other hs ho
  exact h'.keeps other hs' ho'

/-- Events that concern no resource. -/
lemma skip_all {es : List ε} (hes : ∀ e ∈ es, a.Neutral e) :
    Transacts a time log slot (es ++ log) slot :=
  ⟨fun _ hs ho => ⟨hs.skip_all fun e he => (hes e he).1, ho.skip_all hes⟩⟩

lemma skip (he : a.Neutral e) : Transacts a time log slot (e :: log) slot := by
  have hes : ∀ e' ∈ [e], a.Neutral e' := by simpa using he
  exact skip_all hes

lemma acquire [DecidableEq ι] (he : a.acquired e = some r) (ht : time r = log.length)
    (hi : slot i = none) :
    Transacts a time log slot (e :: log) (Function.update slot i (some r)) := by
  classical
  refine ⟨fun other hs ho => ?_⟩
  have hnew : r ∉ a.acquisitions log := fun hr => Nat.lt_irrefl _ (ht ▸ hs r hr)
  have hfilled := ho.acquire (i := Sum.inl i) he hnew hi
  rw [Sum.update_elim_inl] at hfilled
  exact ⟨hs.acquire he ht, hfilled⟩

lemma release [DecidableEq ι] (he : a.released e = some r) (hi : slot i = some r) :
    Transacts a time log slot (e :: log) (Function.update slot i none) := by
  classical
  refine ⟨fun other hs ho => ?_⟩
  have hnone : a.acquired e = none := by
    rcases a.exclusive e with h | h
    · exact h
    · rw [he] at h
      cases h
  have hemptied := ho.release (i := Sum.inl i) he hi
  rw [Sum.update_elim_inl] at hemptied
  exact ⟨hs.skip hnone, hemptied⟩

/-- A resource that is released as soon as it is acquired. -/
lemma temporary {e' : ε} (he : a.acquired e = some r) (ht : time r = log.length)
    (he' : a.released e' = some r) : Transacts a time log slot (e' :: e :: log) slot := by
  refine ⟨fun other hs ho => ?_⟩
  have hnew : r ∉ a.acquisitions log := fun hr => Nat.lt_irrefl _ (ht ▸ hs r hr)
  have hnone : a.acquired e' = none := by
    rcases a.exclusive e' with h | h
    · exact h
    · rw [he'] at h
      cases h
  refine ⟨(hs.acquire he ht).skip hnone, ?_, ho.once⟩
  refine ((ho.ledger.acquire he hnew).release he' (.inl rfl)).congr fun x => ⟨?_, ?_⟩
  · intro hx
    refine ⟨?_, .inr hx⟩
    rintro rfl
    exact hnew ((ho.ledger.held_iff x).mp hx).1
  · rintro ⟨hne, rfl | hx⟩
    · exact absurd rfl hne
    · exact hx

end Transacts

end Framework
