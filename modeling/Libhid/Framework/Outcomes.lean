import Mathlib.Data.List.Basic
import Mathlib.Order.Basic
import Mathlib.Tactic.Common

/-!
# Computations that may fail, and machine words

Rules for peeling a computation in `Except` or in a state over `Except` apart, one step at a time,
and the arithmetic of `UInt8` and `UInt16` away from their ends, where it is that of `ℕ`.
-/

namespace Framework

universe u

variable {ε : Type*} {α β : Type u}

/-! ## `Except` -/

/-- A sequence succeeds through an intermediate result. -/
lemma except_bind_ok {x : Except ε α} {f : α → Except ε β} {b : β} :
    (x >>= f) = .ok b ↔ ∃ a, x = .ok a ∧ f a = .ok b := by
  cases x with
  | error e => simp [bind, Except.bind]
  | ok a => simp [bind, Except.bind]

lemma except_bind_error {x : Except ε α} {f : α → Except ε β} {e : ε} :
    (x >>= f) = .error e ↔ x = .error e ∨ ∃ a, x = .ok a ∧ f a = .error e := by
  cases x with
  | error e => simp [bind, Except.bind]
  | ok a => simp [bind, Except.bind]

lemma except_toOption_eq_some {x : Except ε α} {a : α} : x.toOption = some a ↔ x = .ok a := by
  cases x <;> simp [Except.toOption]

@[simp] lemma except_ok_bind (a : α) (f : α → Except ε β) : ((.ok a : Except ε α) >>= f) = f a :=
  rfl

@[simp] lemma except_error_bind (e : ε) (f : α → Except ε β) :
    ((.error e : Except ε α) >>= f) = .error e :=
  rfl

lemma except_map_error {α β : Type*} {x : Except ε α} {f : α → β} {e : ε} :
    x.map f = .error e ↔ x = .error e := by
  cases x with
  | error e => simp [Except.map]
  | ok a => simp [Except.map]

@[simp] lemma except_map_ok {α β : Type*} {x : Except ε α} {f : α → β} {b : β} :
    x.map f = .ok b ↔ ∃ a, x = .ok a ∧ f a = b := by
  cases x with
  | error e => simp [Except.map]
  | ok a => simp [Except.map]

/-- Both computations fail alike, or both succeed with related values. -/
inductive OutcomeRel {α β ε : Type*} (R : α → β → Prop) : Except ε α → Except ε β → Prop
  | error (e : ε) : OutcomeRel R (.error e) (.error e)
  | ok {a : α} {b : β} (h : R a b) : OutcomeRel R (.ok a) (.ok b)

section OutcomeRel

variable {α β γ ε : Type*} {R : α → β → Prop}

lemma OutcomeRel.refl {R : α → α → Prop} (h : ∀ a, R a a) (x : Except ε α) : OutcomeRel R x x := by
  cases x with
  | error e => exact .error e
  | ok a => exact .ok (h a)

lemma OutcomeRel.ok_left {x : Except ε α} {y : Except ε β} {a : α} (h : OutcomeRel R x y)
    (hx : x = .ok a) : ∃ b, y = .ok b ∧ R a b := by
  cases h with
  | error e => cases hx
  | ok hab =>
      cases hx
      exact ⟨_, rfl, hab⟩

lemma OutcomeRel.ok_right {x : Except ε α} {y : Except ε β} {b : β} (h : OutcomeRel R x y)
    (hy : y = .ok b) : ∃ a, x = .ok a ∧ R a b := by
  cases h with
  | error e => cases hy
  | ok hab =>
      cases hy
      exact ⟨_, rfl, hab⟩

lemma OutcomeRel.error_left {x : Except ε α} {y : Except ε β} {e : ε} (h : OutcomeRel R x y)
    (hx : x = .error e) : y = .error e := by
  cases h with
  | error e' =>
      cases hx
      rfl
  | ok hab => cases hx

/-- Maps that agree on related values make the outcomes equal. -/
lemma OutcomeRel.map_eq {x : Except ε α} {y : Except ε β} {f : α → γ} {f' : β → γ}
    (h : OutcomeRel R x y) (hf : ∀ a b, R a b → f a = f' b) : x.map f = y.map f' := by
  cases h with
  | error e => rfl
  | ok hab => exact congrArg Except.ok (hf _ _ hab)

lemma OutcomeRel.of_map_eq {x : Except ε α} {y : Except ε β} {f : α → γ} {f' : β → γ}
    (h : x.map f = y.map f') : OutcomeRel (fun a b => f a = f' b) x y := by
  cases x with
  | error e =>
      cases y with
      | error e' =>
          cases h
          exact .error e
      | ok b => cases h
  | ok a =>
      cases y with
      | error e => cases h
      | ok b => exact .ok (Except.ok.inj h)

/-- Sequences that begin alike. -/
lemma OutcomeRel.bind_same {α α' β' : Type u} {S : α' → β' → Prop} {x : Except ε α}
    {f : α → Except ε α'} {f' : α → Except ε β'} (h : ∀ a, OutcomeRel S (f a) (f' a)) :
    OutcomeRel S (x >>= f) (x >>= f') := by
  cases x with
  | error e => exact .error e
  | ok a => exact h a

lemma OutcomeRel.map {α' β' : Type*} {S : α' → β' → Prop} {x : Except ε α} {y : Except ε β}
    {f : α → α'} {f' : β → β'} (h : OutcomeRel R x y) (hf : ∀ a b, R a b → S (f a) (f' b)) :
    OutcomeRel S (x.map f) (y.map f') := by
  cases h with
  | error e => exact .error e
  | ok hab => exact .ok (hf _ _ hab)

lemma OutcomeRel.imp {S : α → β → Prop} {x : Except ε α} {y : Except ε β} (h : OutcomeRel R x y)
    (hf : ∀ a b, x = .ok a → y = .ok b → R a b → S a b) : OutcomeRel S x y := by
  cases h with
  | error e => exact .error e
  | ok hab => exact .ok (hf _ _ rfl rfl hab)

/-- The second outcome goes on. -/
lemma OutcomeRel.imp_map {β' : Type*} {S : α → β' → Prop} {x : Except ε α} {y : Except ε β}
    {f : β → β'} (h : OutcomeRel R x y) (hf : ∀ a b, x = .ok a → y = .ok b → R a b → S a (f b)) :
    OutcomeRel S x (y.map f) := by
  cases h with
  | error e => exact .error e
  | ok hab => exact .ok (hf _ _ rfl rfl hab)

end OutcomeRel

/-! ## State over `Except` -/

section State

variable {σ α β ε : Type} {s t : σ}

/-- A sequence succeeds through an intermediate result and state. -/
lemma state_bind_ok {x : StateT σ (Except ε) α} {f : α → StateT σ (Except ε) β} {b : β} :
    (x >>= f) s = .ok (b, t) ↔ ∃ a u, x s = .ok (a, u) ∧ f a u = .ok (b, t) := by
  show (x s >>= fun y => f y.1 y.2) = .ok (b, t) ↔ _
  rw [except_bind_ok, Prod.exists]

lemma state_bind_eq {x : StateT σ (Except ε) α} {f : α → StateT σ (Except ε) β} {a : α} {u : σ}
    (h : x s = .ok (a, u)) : (x >>= f) s = f a u := by
  show (x s >>= fun y => f y.1 y.2) = f a u
  rw [h, except_ok_bind]

lemma state_bind_error {x : StateT σ (Except ε) α} {f : α → StateT σ (Except ε) β} {e : ε}
    (h : x s = .error e) : (x >>= f) s = .error e := by
  show (x s >>= fun y => f y.1 y.2) = .error e
  rw [h, except_error_bind]

/-- With exceptions that keep the state, a sequence raises in its first part or goes on. -/
lemma raise_bind_ok {η : Type} {x : ExceptT η (StateT σ (Except ε)) α}
    {f : α → ExceptT η (StateT σ (Except ε)) β} {out : Except η β} :
    (x >>= f) s = .ok (out, t) ↔
      (∃ a u, x s = .ok (.ok a, u) ∧ f a u = .ok (out, t)) ∨
        ∃ e, x s = .ok (.error e, t) ∧ out = .error e := by
  show (x s >>= fun y => ExceptT.bindCont f y.1 y.2) = .ok (out, t) ↔ _
  rw [except_bind_ok, Prod.exists]
  constructor
  · rintro ⟨a | a, u, hx, hf⟩
    · cases hf
      exact .inr ⟨a, hx, rfl⟩
    · exact .inl ⟨a, u, hx, hf⟩
  · rintro (⟨a, u, hx, hf⟩ | ⟨e, hx, rfl⟩)
    · exact ⟨.ok a, u, hx, hf⟩
    · exact ⟨.error e, t, hx, rfl⟩

/-- The computation does not fail. -/
def Returns (x : StateT σ (Except ε) α) (s : σ) : Prop := ∃ a t, x s = .ok (a, t)

namespace Returns

variable {x : StateT σ (Except ε) α} {f : α → StateT σ (Except ε) β}

lemma of_ok {a : α} (h : x s = .ok (a, t)) : Returns x s := ⟨a, t, h⟩

lemma pure (a : α) (s : σ) : Returns (Pure.pure a : StateT σ (Except ε) α) s := ⟨a, s, rfl⟩

/-- A sequence returns if its first part does, and its second part wherever the first one ends. -/
lemma bind (hx : Returns x s) (hf : ∀ a t, x s = .ok (a, t) → Returns (f a) t) :
    Returns (x >>= f) s := by
  obtain ⟨a, t, hxs⟩ := hx
  obtain ⟨b, u, hfa⟩ := hf a t hxs
  exact ⟨b, u, (state_bind_eq hxs).trans hfa⟩

lemma map (hx : Returns x s) (g : α → β) : Returns (g <$> x) s :=
  hx.bind fun a t _ => pure (g a) t

lemma ite {p : Prop} [Decidable p] {y : StateT σ (Except ε) α} (hx : p → Returns x s)
    (hy : ¬ p → Returns y s) : Returns (if p then x else y) s := by
  split_ifs with h
  · exact hx h
  · exact hy h

end Returns

/-- Where the computation ends, its result is in the set. -/
def Yields (P : α → Prop) (x : StateT σ (Except ε) α) (s : σ) : Prop :=
  ∀ a t, x s = .ok (a, t) → P a

namespace Yields

variable {x : StateT σ (Except ε) α} {f : α → StateT σ (Except ε) β} {P : α → Prop} {Q : β → Prop}

lemma pure {a : α} (h : P a) (s : σ) : Yields P (Pure.pure a : StateT σ (Except ε) α) s := by
  rintro _ _ ⟨⟩
  exact h

lemma stops {e : ε} (h : x s = .error e) : Yields P x s := by
  intro a t hx
  rw [h] at hx
  cases hx

lemma mono {Q : α → Prop} (h : Yields P x s) (hPQ : ∀ a, P a → Q a) : Yields Q x s :=
  fun a t hx => hPQ a (h a t hx)

/-- The result of a sequence is that of its last part. -/
lemma bind (hf : ∀ a t, x s = .ok (a, t) → Yields Q (f a) t) : Yields Q (x >>= f) s := by
  intro b u hb
  obtain ⟨a, t, hxs, hfa⟩ := state_bind_ok.mp hb
  exact hf a t hxs b u hfa

lemma map {g : α → β} (hx : Yields P x s) (hg : ∀ a, P a → Q (g a)) : Yields Q (g <$> x) s :=
  bind fun a t hxs => pure (hg a (hx a t hxs)) t

lemma ite {p : Prop} [Decidable p] {y : StateT σ (Except ε) α} (hx : p → Yields P x s)
    (hy : ¬ p → Yields P y s) : Yields P (if p then x else y) s := by
  split_ifs with h
  · exact hx h
  · exact hy h

end Yields

end State

/-! ## Words away from their ends -/

lemma toNat_add_one8 {a : UInt8} (h : a.toNat < 255) : (a + 1).toNat = a.toNat + 1 := by
  rw [UInt8.toNat_add]
  exact Nat.mod_eq_of_lt (by simpa using Nat.succ_lt_succ h)

lemma toNat_sub_one8 {a : UInt8} (h : 0 < a.toNat) : (a - 1).toNat = a.toNat - 1 := by
  apply UInt8.toNat_sub_of_le _ _
  rw [UInt8.le_iff_toNat_le]
  exact h

lemma add_one_sub_one8 (a : UInt8) : a + 1 - 1 = a := by
  rw [UInt8.add_sub_cancel]

lemma toNat_ne_zero8 {a : UInt8} : a ≠ 0 ↔ 0 < a.toNat := by
  rw [Ne, ← UInt8.toNat_inj, Nat.pos_iff_ne_zero]
  rfl

lemma toNat_add16 {a b : UInt16} (h : a.toNat + b.toNat < 65536) :
    (a + b).toNat = a.toNat + b.toNat := by
  rw [UInt16.toNat_add]
  exact Nat.mod_eq_of_lt h

end Framework
