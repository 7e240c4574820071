import Libhid.Framework.Outcomes

/-!
# Resumable loops that hand out one result at a time

A *generator* is a loop that may stop in the middle: while its state is `live` it runs its
`body`, which may fail, may change the state silently, or may produce a result.  A call of
the generator (`next`) runs the loop until the first result, the end, or a failure; calling it
again resumes the loop where it stopped.  Three ways of using one are covered here:

* `all`, calling until no result comes, with the list of the results and how the calls ended;
* `find`, calling until a result passes a test;
* `Emits`, the same loop with the call boundaries forgotten, as a relation to induct on.

The functions carry fuel, `μ s + 1` turns from a state `s`.  `Bounded` says that the budget is
enough, and under it `all_iff` and `finds_find` make the functions and the relation agree, so no
later proof speaks of fuel.  `Lockstep` is the rule for two runs side by side, and `withHistory`
adds a history variable to a generator without changing what it delivers.
-/

namespace Framework

/-- A loop handing out results of type `α`, over states `σ`, failing with an `ε`. -/
structure Generator (σ α ε : Type*) where
  /-- The loop condition. -/
  live : σ → Bool
  /-- One turn of the loop. -/
  body : σ → Except ε (σ × Option α)
  /-- The number of turns allowed for. -/
  μ : σ → ℕ
  /-- The failure reported when the turns run out. -/
  spent : ε

namespace Generator

variable {σ τ α β γ ε : Type*}

/-! ## Calling a generator -/

/-- One call, with `k` turns of the loop allowed. -/
def nextFuel (g : Generator σ α ε) : ℕ → σ → Except ε (σ × Option α)
  | 0, _ => .error g.spent
  | k + 1, s =>
      if g.live s then
        match g.body s with
        | .error e => .error e
        | .ok (s', some a) => .ok (s', some a)
        | .ok (s', none) => nextFuel g k s'
      else .ok (s, none)

/-- One call: the loop runs until a result, its end or a failure. -/
def next (g : Generator σ α ε) (s : σ) : Except ε (σ × Option α) := nextFuel g (g.μ s + 1) s

/-- Calls until no result comes, at most `k` of them. -/
def allFuel (g : Generator σ α ε) : ℕ → σ → List α × Except ε σ
  | 0, _ => ([], .error g.spent)
  | k + 1, s =>
      match g.next s with
      | .error e => ([], .error e)
      | .ok (s', none) => ([], .ok s')
      | .ok (s', some a) => ((allFuel g k s').1.cons a, (allFuel g k s').2)

/-- Every result in order, and the state or the failure at the end. -/
def all (g : Generator σ α ε) (s : σ) : List α × Except ε σ := allFuel g (g.μ s + 1) s

/-- Calls until a result passes the test `hit`, at most `k` of them. -/
def findFuel (g : Generator σ α ε) (hit : α → Except ε Bool) : ℕ → σ → Except ε (σ × Option α)
  | 0, _ => .error g.spent
  | k + 1, s =>
      match g.next s with
      | .error e => .error e
      | .ok (s', none) => .ok (s', none)
      | .ok (s', some a) =>
          match hit a with
          | .error e => .error e
          | .ok true => .ok (s', some a)
          | .ok false => findFuel g hit k s'

/-- The first result that passes the test, with the state in which it was handed out. -/
def find (g : Generator σ α ε) (hit : α → Except ε Bool) (s : σ) : Except ε (σ × Option α) :=
  findFuel g hit (g.μ s + 1) s

/-! ## The loop as a relation -/

/-- From `s` the loop produces `xs` and ends in `r`, the call boundaries forgotten. -/
inductive Emits (g : Generator σ α ε) : σ → List α → Except ε σ → Prop
  | done {s : σ} (h : g.live s = false) : Emits g s [] (.ok s)
  | fail {s : σ} {e : ε} (h : g.live s = true) (hb : g.body s = .error e) :
      Emits g s [] (.error e)
  | silent {s s' : σ} {xs : List α} {r : Except ε σ} (h : g.live s = true)
      (hb : g.body s = .ok (s', none)) (rest : Emits g s' xs r) : Emits g s xs r
  | emit {s s' : σ} {a : α} {xs : List α} {r : Except ε σ} (h : g.live s = true)
      (hb : g.body s = .ok (s', some a)) (rest : Emits g s' xs r) : Emits g s (a :: xs) r

/-- A stretch of the loop that does not reach its end: from `s` it produces `xs` and is in `t`. -/
inductive Steps (g : Generator σ α ε) : σ → List α → σ → Prop
  | refl (s : σ) : Steps g s [] s
  | silent {s s' t : σ} {xs : List α} (h : g.live s = true)
      (hb : g.body s = .ok (s', none)) (rest : Steps g s' xs t) : Steps g s xs t
  | emit {s s' t : σ} {a : α} {xs : List α} (h : g.live s = true)
      (hb : g.body s = .ok (s', some a)) (rest : Steps g s' xs t) : Steps g s (a :: xs) t

lemma Steps.trans {g : Generator σ α ε} {s t u : σ} {xs ys : List α} (h : g.Steps s xs t)
    (h' : g.Steps t ys u) : g.Steps s (xs ++ ys) u := by
  induction h with
  | refl s => exact h'
  | silent hl hb _ ih => exact .silent hl hb (ih h')
  | emit hl hb _ ih => exact .emit hl hb (ih h')

lemma Steps.emits {g : Generator σ α ε} {s t : σ} {xs ys : List α} {r : Except ε σ}
    (h : g.Steps s xs t) (h' : g.Emits t ys r) : g.Emits s (xs ++ ys) r := by
  induction h with
  | refl s => exact h'
  | silent hl hb _ ih => exact .silent hl hb (ih h')
  | emit hl hb _ ih => exact .emit hl hb (ih h')

/-- All that a loop produces, it produces in a stretch. -/
lemma Emits.steps {g : Generator σ α ε} {s : σ} {xs : List α} {r : Except ε σ}
    (h : g.Emits s xs r) : ∃ t, g.Steps s xs t := by
  induction h with
  | done _ => exact ⟨_, .refl _⟩
  | fail _ _ => exact ⟨_, .refl _⟩
  | silent hl hb _ ih =>
      obtain ⟨t, ht⟩ := ih
      exact ⟨t, .silent hl hb ht⟩
  | emit hl hb _ ih =>
      obtain ⟨t, ht⟩ := ih
      exact ⟨t, .emit hl hb ht⟩

lemma Steps.snoc {g : Generator σ α ε} {s t u : σ} {xs : List α} {o : Option α}
    (h : g.Steps s xs t) (hl : g.live t = true) (hb : g.body t = .ok (u, o)) :
    g.Steps s (xs ++ o.toList) u := by
  apply h.trans
  cases o with
  | none => exact .silent hl hb (.refl u)
  | some a => exact .emit hl hb (.refl u)

/-- A stretch with a result begins with the first turn, whatever state that turn starts from. -/
lemma Steps.of_body_eq {g : Generator σ α ε} {s s' t : σ} {xs : List α} (h : g.Steps s xs t)
    (hne : xs ≠ []) (hl : g.live s' = true) (hb : g.body s' = g.body s) : g.Steps s' xs t := by
  cases h with
  | refl s => exact absurd rfl hne
  | silent _ hb' rest => exact .silent hl (hb.trans hb') rest
  | emit _ hb' rest => exact .emit hl (hb.trans hb') rest

/-- The loop is deterministic. -/
lemma Emits.unique {g : Generator σ α ε} {s : σ} {xs ys : List α} {r r' : Except ε σ}
    (h : g.Emits s xs r) (h' : g.Emits s ys r') : xs = ys ∧ r = r' := by
  induction h generalizing ys r' with
  | done hl => cases h' <;> simp_all
  | fail hl hb => cases h' <;> simp_all
  | silent hl hb _ ih =>
      cases h' with
      | silent _ hb' rest' =>
          rw [hb] at hb'
          cases hb'
          exact ih rest'
      | _ => simp_all
  | emit hl hb _ ih =>
      cases h' with
      | emit _ hb' rest' =>
          rw [hb] at hb'
          cases hb'
          obtain ⟨rfl, rfl⟩ := ih rest'
          exact ⟨rfl, rfl⟩
      | _ => simp_all

/-- The results begin with those of the first turn. -/
lemma Emits.of_body {g : Generator σ α ε} {s s' : σ} {xs : List α} {o : Option α} {r : Except ε σ}
    (h : g.Emits s xs r) (hl : g.live s = true) (hb : g.body s = .ok (s', o)) :
    ∃ ys, xs = o.toList ++ ys ∧ g.Emits s' ys r := by
  cases h with
  | done hl' =>
      rw [hl'] at hl
      cases hl
  | fail _ hb' =>
      rw [hb] at hb'
      cases hb'
  | silent _ hb' rest =>
      rw [hb] at hb'
      cases hb'
      exact ⟨_, rfl, rest⟩
  | emit _ hb' rest =>
      rw [hb] at hb'
      cases hb'
      exact ⟨_, rfl, rest⟩

/-! ## The states the loop comes to -/

/-- The loop started in `s` comes to `t`. -/
def Reaches (g : Generator σ α ε) (s t : σ) : Prop := ∃ xs, g.Steps s xs t

section Reaches

variable {g : Generator σ α ε} {s t u : σ}

lemma Reaches.refl (g : Generator σ α ε) (s : σ) : g.Reaches s s := ⟨[], .refl s⟩

lemma Reaches.turn {o : Option α} (h : g.Reaches s t) (hl : g.live t = true)
    (hb : g.body t = .ok (u, o)) : g.Reaches s u := by
  obtain ⟨xs, hsteps⟩ := h
  exact ⟨_, hsteps.snoc hl hb⟩

/-- Along a stretch, with the states before it still at hand. -/
lemma Steps.invariant {Inv : σ → Prop} {xs : List α} (h : g.Steps u xs t) (hr : g.Reaches s u)
    (hu : Inv u)
    (hturn : ∀ u u' o, g.Reaches s u → Inv u → g.live u = true → g.body u = .ok (u', o) → Inv u') :
    Inv t := by
  induction h with
  | refl u => exact hu
  | silent hl hb _ ih => exact ih (hr.turn hl hb) (hturn _ _ _ hr hu hl hb)
  | emit hl hb _ ih => exact ih (hr.turn hl hb) (hturn _ _ _ hr hu hl hb)

/-- **What holds at first and is kept by every turn holds in every state the loop comes to.** -/
theorem Reaches.invariant (Inv : σ → Prop) (h : g.Reaches s t) (hs : Inv s)
    (hturn : ∀ u u' o, g.Reaches s u → Inv u → g.live u = true → g.body u = .ok (u', o) → Inv u') :
    Inv t := by
  obtain ⟨xs, hsteps⟩ := h
  exact hsteps.invariant (.refl g s) hs hturn

/-- The state after `k` turns, if the loop goes on for so long. -/
def after (g : Generator σ α ε) : ℕ → σ → Option σ
  | 0, s => some s
  | k + 1, s =>
      if g.live s then
        match g.body s with
        | .ok (s', _) => after g k s'
        | .error _ => none
      else none

lemma reaches_after {k : ℕ} (h : g.after k s = some t) : g.Reaches s t := by
  suffices hrun : ∀ {k u}, g.Reaches s u → g.after k u = some t → g.Reaches s t from
    hrun (.refl g s) h
  intro k
  induction k with
  | zero =>
      intro u hu h
      cases h
      exact hu
  | succ k ih =>
      intro u hu h
      rw [after] at h
      split_ifs at h with hl
      cases hb : g.body u with
      | error e =>
          rw [hb] at h
          cases h
      | ok x =>
          rw [hb] at h
          exact ih (hu.turn hl hb) h

/-- The test holds in every state of a loop that is over after fewer than `k` turns. -/
def holdsAlong (g : Generator σ α ε) (test : σ → Bool) : ℕ → σ → Bool
  | 0, _ => false
  | k + 1, s =>
      test s && (!g.live s ||
        match g.body s with
        | .ok (s', _) => holdsAlong g test k s'
        | .error _ => true)

lemma Reaches.of_holdsAlong {test : σ → Bool} (h : g.Reaches s t) {k : ℕ}
    (hk : g.holdsAlong test k s = true) : test t = true := by
  obtain ⟨xs, hsteps⟩ := h
  induction hsteps generalizing k with
  | refl s =>
      cases k with
      | zero => cases hk
      | succ k => exact ((Bool.and_eq_true _ _).mp hk).1
  | silent hl hb _ ih | emit hl hb _ ih =>
      cases k with
      | zero => cases hk
      | succ k =>
          have hrest := ((Bool.and_eq_true _ _).mp hk).2
          rw [hl, hb] at hrest
          exact ih hrest

/-- A loop that fails comes to the state whose turn fails. -/
lemma Emits.reaches_fail {xs : List α} {r : Except ε σ} {e : ε} (h : g.Emits s xs r)
    (hr : r = .error e) : ∃ t, g.Reaches s t ∧ g.live t = true ∧ g.body t = .error e := by
  induction h with
  | done hl => cases hr
  | fail hl hb =>
      cases hr
      exact ⟨_, .refl g _, hl, hb⟩
  | silent hl hb _ ih =>
      obtain ⟨t, ⟨ys, ht⟩, hlive, hbody⟩ := ih hr
      exact ⟨t, ⟨ys, .silent hl hb ht⟩, hlive, hbody⟩
  | emit hl hb _ ih =>
      obtain ⟨t, ⟨ys, ht⟩, hlive, hbody⟩ := ih hr
      exact ⟨t, ⟨_, .emit hl hb ht⟩, hlive, hbody⟩

end Reaches

/-- A result is that of a turn the loop comes to. -/
lemma Emits.mem {g : Generator σ α ε} {s : σ} {xs : List α} {r : Except ε σ} {a : α}
    (h : g.Emits s xs r) (ha : a ∈ xs) :
    ∃ t t', g.Reaches s t ∧ g.live t = true ∧ g.body t = .ok (t', some a) := by
  induction h with
  | done hl => cases ha
  | fail hl hb => cases ha
  | silent hl hb _ ih =>
      obtain ⟨t, t', ⟨ys, ht⟩, hturn⟩ := ih ha
      exact ⟨t, t', ⟨ys, .silent hl hb ht⟩, hturn⟩
  | emit hl hb _ ih =>
      rcases List.mem_cons.mp ha with rfl | ha
      · exact ⟨_, _, .refl g _, hl, hb⟩
      · obtain ⟨t, t', ⟨ys, ht⟩, hturn⟩ := ih ha
        exact ⟨t, t', ⟨_, .emit hl hb ht⟩, hturn⟩

/-! ## Loops without results -/

/-- A call finds nothing if no turn from an invariant state has a result. -/
lemma nextFuel_silent {g : Generator σ α ε} {Inv : σ → Prop}
    (hturn : ∀ s s' o, Inv s → g.live s = true → g.body s = .ok (s', o) → Inv s' ∧ o = none) :
    ∀ {k : ℕ} {s t : σ} {o : Option α}, Inv s → g.nextFuel k s = .ok (t, o) → o = none
  | 0, _, _, _, _, h => by cases h
  | k + 1, s, t, o, hs, h => by
      rw [nextFuel] at h
      by_cases hl : g.live s = true
      · rw [if_pos hl] at h
        rcases hb : g.body s with e | ⟨s', _ | a⟩ <;> rw [hb] at h
        · cases h
        · exact nextFuel_silent hturn (hturn s s' none hs hl hb).1 h
        · cases (hturn s s' (some a) hs hl hb).2
      · rw [if_neg hl] at h
        cases h
        rfl

/-- **Whether or not the loop ends, the calls deliver nothing.** -/
theorem all_silent {g : Generator σ α ε} {Inv : σ → Prop} {s : σ}
    (hturn : ∀ s s' o, Inv s → g.live s = true → g.body s = .ok (s', o) → Inv s' ∧ o = none)
    (hs : Inv s) : (g.all s).1 = [] := by
  rw [all, allFuel]
  rcases hn : g.next s with e | ⟨t, _ | a⟩
  · rfl
  · rfl
  · cases nextFuel_silent hturn hs hn

/-! ## Results paid for -/

/-- `Inv` is kept by every turn, and every turn that produces a result takes it from the
potential. -/
structure Pays (g : Generator σ α ε) (Inv : σ → Prop) (potential : σ → ℕ) : Prop where
  turn : ∀ {s s' : σ} {o : Option α}, Inv s → g.live s = true → g.body s = .ok (s', o) →
    Inv s' ∧ potential s' + o.toList.length ≤ potential s

section Pays

variable {g : Generator σ α ε} {Inv : σ → Prop} {potential : σ → ℕ}

/-- The results of a stretch are taken from the potential. -/
lemma Pays.steps (hg : g.Pays Inv potential) {s t : σ} {xs : List α} (h : g.Steps s xs t)
    (hs : Inv s) : potential t + xs.length ≤ potential s := by
  induction h with
  | refl s => exact Nat.le_refl _
  | silent hl hb _ ih =>
      obtain ⟨hs', hle⟩ := hg.turn hs hl hb
      exact Nat.le_trans (ih hs') hle
  | emit hl hb _ ih =>
      obtain ⟨hs', hle⟩ := hg.turn hs hl hb
      have hrest := ih hs'
      rw [Option.toList_some, List.length_singleton] at hle
      rw [List.length_cons]
      omega

/-- **A loop produces no more results than its potential pays for.** -/
theorem Pays.emits (hg : g.Pays Inv potential) {s : σ} {xs : List α} {r : Except ε σ}
    (h : g.Emits s xs r) (hs : Inv s) : xs.length ≤ potential s := by
  obtain ⟨t, hsteps⟩ := h.steps
  exact Nat.le_trans (Nat.le_add_left _ _) (hg.steps hsteps hs)

end Pays

/-! ## Enough fuel -/

/-- `Inv` is kept by every turn, and every turn from it makes the budget smaller. -/
structure Bounded (g : Generator σ α ε) (Inv : σ → Prop) : Prop where
  turn : ∀ {s s' : σ} {o : Option α}, Inv s → g.live s = true → g.body s = .ok (s', o) →
    Inv s' ∧ g.μ s' < g.μ s

section Bounded

variable {g : Generator σ α ε} {Inv : σ → Prop}

/-- Two amounts of fuel beyond the budget make the same call. -/
lemma Bounded.nextFuel_eq (hg : g.Bounded Inv) : ∀ {j k : ℕ} {s : σ}, Inv s → g.μ s < j →
    g.μ s < k → g.nextFuel j s = g.nextFuel k s
  | 0, _, _, _, hj, _ => absurd hj (Nat.not_lt_zero _)
  | _ + 1, 0, _, _, _, hk => absurd hk (Nat.not_lt_zero _)
  | j + 1, k + 1, s, hs, hj, hk => by
      rw [nextFuel, nextFuel]
      by_cases hl : g.live s = true
      · rw [if_pos hl, if_pos hl]
        rcases hb : g.body s with e | ⟨s', _ | a⟩
        · rfl
        · obtain ⟨hs', hlt⟩ := hg.turn hs hl hb
          exact hg.nextFuel_eq hs' (by omega) (by omega)
        · rfl
      · rw [if_neg hl, if_neg hl]

/-- A call is one turn of the loop and, after a silent turn, the call from there. -/
lemma Bounded.next_eq (hg : g.Bounded Inv) {s : σ} (hs : Inv s) :
    g.next s =
      if g.live s then
        match g.body s with
        | .error e => .error e
        | .ok (s', some a) => .ok (s', some a)
        | .ok (s', none) => g.next s'
      else .ok (s, none) := by
  rw [next, nextFuel]
  by_cases hl : g.live s = true
  · rw [if_pos hl, if_pos hl]
    rcases hb : g.body s with e | ⟨s', _ | a⟩
    · rfl
    · obtain ⟨hs', hlt⟩ := hg.turn hs hl hb
      exact hg.nextFuel_eq hs' hlt (Nat.lt_succ_self _)
    · rfl
  · rw [if_neg hl, if_neg hl]

/-- What a call does, read off the loop: it fails, it reaches the end, or it stops right after
the turn that produced a result. -/
inductive Call (g : Generator σ α ε) (s : σ) : Except ε (σ × Option α) → Prop
  | fail {e : ε} (h : g.Emits s [] (.error e)) : Call g s (.error e)
  | finish {t : σ} (h : g.Emits s [] (.ok t)) : Call g s (.ok (t, none))
  | found {u t : σ} {a : α} (h : g.Steps s [] u) (hl : g.live u = true)
      (hb : g.body u = .ok (t, some a)) : Call g s (.ok (t, some a))

lemma Bounded.call_next (hg : g.Bounded Inv) {s : σ} (hs : Inv s) : Call g s (g.next s) := by
  induction hn : g.μ s using Nat.strongRecOn generalizing s with
  | _ n ih =>
      rw [hg.next_eq hs]
      by_cases hl : g.live s = true
      · rw [if_pos hl]
        rcases hb : g.body s with e | ⟨s', _ | a⟩
        · exact .fail (.fail hl hb)
        · obtain ⟨hs', hlt⟩ := hg.turn hs hl hb
          have hcall := ih (g.μ s') (by omega) hs' rfl
          show Call g s (g.next s')
          revert hcall
          generalize g.next s' = out
          rintro (h | h | ⟨h, hl', hb'⟩)
          · exact .fail (.silent hl hb h)
          · exact .finish (.silent hl hb h)
          · exact .found (.silent hl hb h) hl' hb'
        · exact .found (.refl s) hl hb
      · rw [if_neg hl]
        exact .finish (.done (by simpa using hl))

/-- The invariant and the budget along a stretch of the loop. -/
lemma Bounded.steps (hg : g.Bounded Inv) {s t : σ} {xs : List α} (h : g.Steps s xs t)
    (hs : Inv s) : Inv t ∧ g.μ t ≤ g.μ s := by
  induction h with
  | refl s => exact ⟨hs, Nat.le_refl _⟩
  | silent hl hb _ ih =>
      obtain ⟨hs', hlt⟩ := hg.turn hs hl hb
      exact ⟨(ih hs').1, by have := (ih hs').2; omega⟩
  | emit hl hb _ ih =>
      obtain ⟨hs', hlt⟩ := hg.turn hs hl hb
      exact ⟨(ih hs').1, by have := (ih hs').2; omega⟩

/-- The invariant at the end of the loop. -/
lemma Bounded.emits (hg : g.Bounded Inv) {s t : σ} {xs : List α} {r : Except ε σ}
    (h : g.Emits s xs r) (hs : Inv s) (hr : r = .ok t) : Inv t := by
  induction h with
  | done hl =>
      cases hr
      exact hs
  | fail hl hb => cases hr
  | silent hl hb _ ih => exact ih (hg.turn hs hl hb).1 hr
  | emit hl hb _ ih => exact ih (hg.turn hs hl hb).1 hr

lemma Bounded.emits_allFuel (hg : g.Bounded Inv) : ∀ {k : ℕ} {s : σ}, Inv s → g.μ s < k →
    g.Emits s (g.allFuel k s).1 (g.allFuel k s).2
  | 0, _, _, hk => absurd hk (Nat.not_lt_zero _)
  | k + 1, s, hs, hk => by
      rw [allFuel]
      rcases hc : g.next s with e | ⟨t, _ | a⟩
      · have := hg.call_next hs
        rw [hc] at this
        cases this with
        | fail h => exact h
      · have := hg.call_next hs
        rw [hc] at this
        cases this with
        | finish h => exact h
      · have := hg.call_next hs
        rw [hc] at this
        cases this with
        | found h hl hb =>
            obtain ⟨hu, hle⟩ := hg.steps h hs
            obtain ⟨ht, hlt⟩ := hg.turn hu hl hb
            exact h.emits (.emit hl hb (hg.emits_allFuel ht (by omega)))

/-- **Calling until no result comes is the loop itself.** -/
theorem Bounded.all_iff (hg : g.Bounded Inv) {s : σ} (hs : Inv s) {xs : List α}
    {r : Except ε σ} : g.all s = (xs, r) ↔ g.Emits s xs r := by
  have h := hg.emits_allFuel hs (Nat.lt_succ_self (g.μ s))
  constructor
  · intro he
    rw [show g.allFuel (g.μ s + 1) s = (xs, r) from he] at h
    exact h
  · intro he
    obtain ⟨h₁, h₂⟩ := h.unique he
    exact Prod.ext h₁ h₂

lemma Bounded.emits_all (hg : g.Bounded Inv) {s : σ} (hs : Inv s) :
    g.Emits s (g.all s).1 (g.all s).2 := (hg.all_iff hs).mp rfl

/-- A turn without a result leads to the results of the state after it. -/
lemma Bounded.all_silent (hg : g.Bounded Inv) {s t : σ} (hs : Inv s) (hl : g.live s = true)
    (hb : g.body s = .ok (t, none)) : g.all s = g.all t :=
  (hg.all_iff hs).mpr (.silent hl hb (hg.emits_all (hg.turn hs hl hb).1))

lemma Bounded.all_fail (hg : g.Bounded Inv) {s : σ} (hs : Inv s) (hl : g.live s = true) {e : ε}
    (hb : g.body s = .error e) : g.all s = ([], .error e) :=
  (hg.all_iff hs).mpr (.fail hl hb)

/-- What every turn keeps, a call keeps. -/
lemma nextFuel_inv {g : Generator σ α ε} {Inv : σ → Prop}
    (hbody : ∀ {s t : σ} {o : Option α}, Inv s → g.body s = .ok (t, o) → Inv t) :
    ∀ {k : ℕ} {s t : σ} {o : Option α}, Inv s → g.nextFuel k s = .ok (t, o) → Inv t
  | 0, _, _, _, _, h => by cases h
  | k + 1, s, t, o, hs, h => by
      rw [nextFuel] at h
      split_ifs at h
      · rcases hb : g.body s with e | ⟨s', _ | a⟩ <;> rw [hb] at h
        · cases h
        · exact nextFuel_inv hbody (hbody hs hb) h
        · cases h
          exact hbody hs hb
      · cases h
        exact hs

/-- What every turn keeps, calling until no result comes keeps. -/
lemma all_inv {g : Generator σ α ε} (Inv : σ → Prop)
    (hbody : ∀ {s t : σ} {o : Option α}, Inv s → g.body s = .ok (t, o) → Inv t) {s t : σ}
    (hs : Inv s) (h : (g.all s).2 = .ok t) : Inv t := by
  have hfuel : ∀ k s, Inv s → (g.allFuel k s).2 = .ok t → Inv t := by
    intro k
    induction k with
    | zero =>
        intro s _ h
        cases h
    | succ k ih =>
        intro s hs h
        rw [allFuel] at h
        rcases hc : g.next s with e | ⟨s', _ | a⟩ <;> rw [hc] at h
        · cases h
        · cases h
          exact nextFuel_inv hbody hs hc
        · exact ih s' (nextFuel_inv hbody hs hc) h
  exact hfuel _ s hs h

/-- The first result of a list that passes the test, or the failure of a test before it. -/
def firstHit (hit : α → Except ε Bool) : List α → Except ε (Option α)
  | [] => .ok none
  | a :: xs =>
      match hit a with
      | .error e => .error e
      | .ok true => .ok (some a)
      | .ok false => firstHit hit xs

lemma firstHit_total {hit : α → Except ε Bool} {f : α → Bool} (hf : ∀ a, hit a = .ok (f a)) :
    ∀ xs : List α, firstHit hit xs = .ok (xs.find? f)
  | [] => rfl
  | a :: xs => by
      rw [firstHit, hf]
      cases hfa : f a with
      | true => simp [hfa]
      | false => simp [hfa, firstHit_total hf xs]

lemma firstHit_error {hit : α → Except ε Bool} {xs : List α} {e : ε}
    (h : firstHit hit xs = .error e) : ∃ a, hit a = .error e := by
  induction xs with
  | nil => cases h
  | cons a xs ih =>
      rw [firstHit] at h
      rcases ha : hit a with e' | _ | _ <;> rw [ha] at h
      · cases h
        exact ⟨a, ha⟩
      · exact ih h
      · cases h

lemma firstHit_append {hit : α → Except ε Bool} {xs : List α} (hx : ∀ x ∈ xs, hit x = .ok false)
    (ys : List α) : firstHit hit (xs ++ ys) = firstHit hit ys := by
  induction xs with
  | nil => rfl
  | cons x xs ih =>
      rw [List.cons_append, firstHit, hx x List.mem_cons_self]
      exact ih fun y hy => hx y (List.mem_cons_of_mem x hy)

/-- What a search returns, given the whole enumeration: the first result that passes, handed out
by the turn that produced it, or the end of the enumeration. -/
def Finds (g : Generator σ α ε) (s : σ) (hit : α → Except ε Bool) (xs : List α) (r : Except ε σ) :
    Except ε (σ × Option α) → Prop := fun out =>
  match firstHit hit xs with
  | .error e => out = .error e
  | .ok (some a) => ∃ t u ys, out = .ok (t, some a) ∧ g.Steps s ys u ∧ g.live u = true ∧
      g.body u = .ok (t, some a)
  | .ok none => out = r.map (·, none)

lemma Steps.finds {s s' : σ} {hit : α → Except ε Bool} {xs ys : List α} {r : Except ε σ}
    {out : Except ε (σ × Option α)} (h : g.Steps s xs s') (hx : ∀ x ∈ xs, hit x = .ok false)
    (h' : Finds g s' hit ys r out) : Finds g s hit (xs ++ ys) r out := by
  unfold Finds at *
  rw [firstHit_append hx]
  rcases hf : firstHit hit ys with e | _ | a
  · simpa [hf] using h'
  · simpa [hf] using h'
  · rw [hf] at h'
    obtain ⟨t, u, zs, ho, hu, hl, hb⟩ := h'
    exact ⟨t, u, xs ++ zs, ho, h.trans hu, hl, hb⟩

lemma Bounded.finds_findFuel (hg : g.Bounded Inv) {hit : α → Except ε Bool} :
    ∀ {k : ℕ} {s : σ} {xs : List α} {r : Except ε σ}, Inv s → g.μ s < k → g.Emits s xs r →
    Finds g s hit xs r (g.findFuel hit k s)
  | 0, _, _, _, _, hk, _ => absurd hk (Nat.not_lt_zero _)
  | k + 1, s, xs, r, hs, hk, he => by
      rw [findFuel]
      have hcall := hg.call_next hs
      rcases hc : g.next s with e | ⟨t, _ | a⟩ <;> rw [hc] at hcall
      · cases hcall with
        | fail h =>
            obtain ⟨rfl, rfl⟩ := he.unique h
            rfl
      · cases hcall with
        | finish h =>
            obtain ⟨rfl, rfl⟩ := he.unique h
            rfl
      · cases hcall with
        | @found u _ _ h hl hb =>
            obtain ⟨hu, hle⟩ := hg.steps h hs
            obtain ⟨ht, hlt⟩ := hg.turn hu hl hb
            have hrest := hg.emits_allFuel ht (Nat.lt_succ_self (g.μ t))
            obtain ⟨rfl, rfl⟩ := he.unique (h.emits (.emit hl hb hrest))
            dsimp only
            rcases hfa : hit a with e | _ | _
            · simp [Finds, firstHit, hfa]
            · have hstep : g.Steps s [a] t := h.trans (.emit hl hb (.refl t))
              have hmiss : ∀ x ∈ [a], hit x = .ok false := by simp [hfa]
              have h' : Finds g t hit _ _ (g.findFuel hit k t) :=
                hg.finds_findFuel ht (by omega) hrest
              exact hstep.finds hmiss h'
            · simp only [Finds, List.nil_append, firstHit, hfa]
              exact ⟨t, u, [], rfl, h, hl, hb⟩

/-- **A search returns the first result that passes the test.** -/
theorem Bounded.finds_find (hg : g.Bounded Inv) (hit : α → Except ε Bool) {s : σ} (hs : Inv s) :
    Finds g s hit (g.all s).1 (g.all s).2 (g.find hit s) :=
  hg.finds_findFuel hs (Nat.lt_succ_self _) (hg.emits_all hs)

/-- A search fails only where a test or the loop does. -/
lemma Bounded.find_error (hg : g.Bounded Inv) {hit : α → Except ε Bool} {s : σ} {e : ε}
    (hs : Inv s) (h : g.find hit s = .error e) :
    (∃ a, hit a = .error e) ∨ (g.all s).2 = .error e := by
  have hfinds := hg.finds_find hit hs
  unfold Finds at hfinds
  rcases hf : firstHit hit (g.all s).1 with e' | _ | a <;> rw [hf] at hfinds
  · rw [hfinds] at h
    cases h
    exact .inl (firstHit_error hf)
  · rw [hfinds] at h
    exact .inr (except_map_error.mp h)
  · obtain ⟨t', u, ys, ho, -⟩ := hfinds
    rw [ho] at h
    cases h

/-- The invariant in the state a search leaves. -/
lemma Bounded.find_inv (hg : g.Bounded Inv) {hit : α → Except ε Bool} {s t : σ} {o : Option α}
    (hs : Inv s) (h : g.find hit s = .ok (t, o)) : Inv t := by
  have hfinds := hg.finds_find hit hs
  unfold Finds at hfinds
  rcases hf : firstHit hit (g.all s).1 with e | _ | a <;> rw [hf] at hfinds
  · rw [hfinds] at h
    cases h
  · rw [hfinds, except_map_ok] at h
    obtain ⟨t', hr, ht⟩ := h
    cases ht
    exact hg.emits (hg.emits_all hs) hs hr
  · obtain ⟨t', u, ys, ho, hu, hl, hb⟩ := hfinds
    rw [ho] at h
    cases h
    exact (hg.turn (hg.steps hu hs).1 hl hb).1

end Bounded

/-! ## A run with turns of its own -/

/-- `R` relates states in which the first loop takes a turn without a result that leaves them
related, or both loops go on alike: their turns fail alike, or lead to related states with the same
result. -/
structure Stutters (g : Generator σ α ε) (h : Generator τ α ε) (R : σ → τ → Prop) : Prop where
  stop : ∀ {s : σ} {t : τ}, R s t → g.live s = false → h.live t = false
  turn : ∀ {s : σ} {t : τ}, R s t → g.live s = true →
    (∃ s', g.body s = .ok (s', none) ∧ R s' t) ∨ (h.live t = true ∧
      OutcomeRel (fun x y => R x.1 y.1 ∧ x.2 = y.2) (g.body s) (h.body t))

section Stutters

variable {g : Generator σ α ε} {h : Generator τ α ε} {R : σ → τ → Prop}

/-- **The second loop produces the results of the first one**, and they end alike. -/
theorem Stutters.emits (hgh : Stutters g h R) {s : σ} {t : τ} {xs : List α} {r : Except ε σ}
    (hst : R s t) (he : g.Emits s xs r) : ∃ r', h.Emits t xs r' ∧ OutcomeRel R r r' := by
  induction he generalizing t with
  | done hl => exact ⟨.ok t, .done (hgh.stop hst hl), .ok hst⟩
  | @fail s e hl hb =>
      rcases hgh.turn hst hl with ⟨s', hb', -⟩ | ⟨hl', hrel⟩
      · rw [hb] at hb'
        cases hb'
      · exact ⟨.error e, .fail hl' (hrel.error_left hb), .error e⟩
  | @silent s s' xs r hl hb _ ih =>
      rcases hgh.turn hst hl with ⟨s'', hb', hst'⟩ | ⟨hl', hrel⟩
      · rw [hb] at hb'
        cases hb'
        exact ih hst'
      · obtain ⟨⟨t', o'⟩, hb', hst', ho⟩ := hrel.ok_left hb
        cases ho
        obtain ⟨r', he', hr⟩ := ih hst'
        exact ⟨r', .silent hl' hb' he', hr⟩
  | @emit s s' a xs r hl hb _ ih =>
      rcases hgh.turn hst hl with ⟨s'', hb', -⟩ | ⟨hl', hrel⟩
      · rw [hb] at hb'
        cases hb'
      · obtain ⟨⟨t', o'⟩, hb', hst', ho⟩ := hrel.ok_left hb
        cases ho
        obtain ⟨r', he', hr⟩ := ih hst'
        exact ⟨r', .emit hl' hb' he', hr⟩

variable {I : σ → Prop} {J : τ → Prop}

/-- **When called, both deliver the same results**, and end alike. -/
theorem Stutters.all (hgh : Stutters g h R) (hg : g.Bounded I) (hh : h.Bounded J) {s : σ} {t : τ}
    (hst : R s t) (hs : I s) (ht : J t) :
    (g.all s).1 = (h.all t).1 ∧ OutcomeRel R (g.all s).2 (h.all t).2 := by
  obtain ⟨r', he, hr⟩ := hgh.emits hst (hg.emits_all hs)
  rw [(hh.all_iff ht).mpr he]
  exact ⟨rfl, hr⟩

end Stutters

/-! ## Two runs side by side -/

/-- `R` relates states in which both loops go on alike: their turns fail alike, or lead to related
states with the same result. -/
structure Lockstep (g : Generator σ α ε) (h : Generator τ α ε) (R : σ → τ → Prop) : Prop where
  live : ∀ {s : σ} {t : τ}, R s t → g.live s = h.live t
  turn : ∀ {s : σ} {t : τ}, R s t → g.live s = true →
    OutcomeRel (fun x y => R x.1 y.1 ∧ x.2 = y.2) (g.body s) (h.body t)

section Lockstep

variable {g : Generator σ α ε} {h : Generator τ α ε} {R : σ → τ → Prop}

lemma Lockstep.stutters (hgh : Lockstep g h R) : Stutters g h R where
  stop hst hl := (hgh.live hst).symm.trans hl
  turn hst hl := .inr ⟨(hgh.live hst).symm.trans hl, hgh.turn hst hl⟩

variable {I : σ → Prop} {J : τ → Prop}

/-- **Loops in lockstep deliver the same results when called, and end alike.** -/
theorem Lockstep.all (hgh : Lockstep g h R) (hg : g.Bounded I) (hh : h.Bounded J) {s : σ} {t : τ}
    (hst : R s t) (hs : I s) (ht : J t) :
    (g.all s).1 = (h.all t).1 ∧ OutcomeRel R (g.all s).2 (h.all t).2 :=
  hgh.stutters.all hg hh hst hs ht

/-- **Loops that go on alike until they deliver the same deliver the same.**  `R` relates states
with the same results, and states in which both loops go on alike. -/
theorem Bounded.results_eq {h : Generator τ α ε} {R : σ → τ → Prop} (hg : g.Bounded I)
    (hh : h.Bounded J)
    (hR : ∀ {s : σ} {t : τ}, R s t → I s → J t → (g.all s).1 = (h.all t).1 ∨
      (g.live s = h.live t ∧ (g.live s = true →
        OutcomeRel (fun x y => R x.1 y.1 ∧ x.2 = y.2) (g.body s) (h.body t))))
    {s : σ} {t : τ} (hst : R s t) (hs : I s) (ht : J t) : (g.all s).1 = (h.all t).1 := by
  have hall : ∀ {s : σ} {xs : List α} {r : Except ε σ}, g.Emits s xs r → ∀ {t : τ}, R s t → I s →
      J t → (h.all t).1 = xs := by
    intro s xs r he
    induction he with
    | @done s hl =>
        intro t hst hs ht
        rcases hR hst hs ht with heq | ⟨hlive, -⟩
        · rw [← heq, (hg.all_iff hs).mpr (.done hl)]
        · rw [(hh.all_iff ht).mpr (.done (hlive ▸ hl))]
    | @fail s e hl hb =>
        intro t hst hs ht
        rcases hR hst hs ht with heq | ⟨hlive, hbody⟩
        · rw [← heq, hg.all_fail hs hl hb]
        · rw [hh.all_fail ht (hlive ▸ hl) ((hbody hl).error_left hb)]
    | @silent s s' xs r hl hb he ih =>
        intro t hst hs ht
        rcases hR hst hs ht with heq | ⟨hlive, hbody⟩
        · rw [← heq, (hg.all_iff hs).mpr (.silent hl hb he)]
        · obtain ⟨⟨t', o⟩, hb', hst', rfl⟩ := (hbody hl).ok_left hb
          rw [hh.all_silent ht (hlive ▸ hl) hb']
          exact ih hst' (hg.turn hs hl hb).1 (hh.turn ht (hlive ▸ hl) hb').1
    | @emit s s' a xs r hl hb he ih =>
        intro t hst hs ht
        rcases hR hst hs ht with heq | ⟨hlive, hbody⟩
        · rw [← heq, (hg.all_iff hs).mpr (.emit hl hb he)]
        · obtain ⟨⟨t', o⟩, hb', hst', rfl⟩ := (hbody hl).ok_left hb
          have ht' := (hh.turn ht (hlive ▸ hl) hb').1
          rw [(hh.all_iff ht).mpr (.emit (hlive ▸ hl) hb' (hh.emits_all ht')),
            ih hst' (hg.turn hs hl hb).1 ht']
  exact (hall (hg.emits_all hs) hst hs ht).symm

/-- **Loops with the same turns wherever the first one comes to are the same when called.** -/
theorem Bounded.all_congr {h : Generator σ α ε} {J : σ → Prop} {s : σ} (hg : g.Bounded I)
    (hh : h.Bounded J) (hs : I s) (ht : J s) (hlive : ∀ t, g.live t = h.live t)
    (hbody : ∀ t, g.Reaches s t → g.live t = true → g.body t = h.body t) : g.all s = h.all s := by
  have hgh : Lockstep g h fun t u => t = u ∧ g.Reaches s t := by
    refine ⟨fun htu => ?_, fun {t u} htu hl => ?_⟩
    · rw [htu.1, hlive]
    · obtain ⟨rfl, hr⟩ := htu
      rw [← hbody t hr hl]
      cases hb : g.body t with
      | error e => exact .error e
      | ok x => exact .ok ⟨⟨rfl, hr.turn hl hb⟩, rfl⟩
  obtain ⟨hxs, hr⟩ := hgh.all hg hh ⟨rfl, .refl g s⟩ hs ht
  refine Prod.ext hxs ?_
  revert hr
  generalize (g.all s).2 = r, (h.all s).2 = r'
  rintro (⟨⟩ | ⟨rfl, -⟩) <;> rfl

/-- The answer of a search, without the state it leaves. -/
def answer (out : Except ε (σ × Option α)) : Except ε (Option α) := out.map Prod.snd

lemma Bounded.answer_find (hg : g.Bounded I) (hit : α → Except ε Bool) {s : σ} (hs : I s) :
    answer (g.find hit s) =
      match firstHit hit (g.all s).1 with
      | .error e => .error e
      | .ok (some a) => .ok (some a)
      | .ok none => (g.all s).2.map fun _ => none := by
  have hfinds := hg.finds_find hit hs
  unfold Finds at hfinds
  rcases hf : firstHit hit (g.all s).1 with e | _ | a <;> rw [hf] at hfinds
  · rw [hfinds]
    rfl
  · rw [hfinds]
    cases (g.all s).2 <;> rfl
  · obtain ⟨t, u, ys, ho, -⟩ := hfinds
    rw [ho]
    rfl

/-- **Searches in lockstep give the same answer.** -/
theorem Lockstep.find (hgh : Lockstep g h R) (hg : g.Bounded I) (hh : h.Bounded J)
    (hit : α → Except ε Bool) {s : σ} {t : τ} (hst : R s t) (hs : I s) (ht : J t) :
    answer (g.find hit s) = answer (h.find hit t) := by
  obtain ⟨hxs, hr⟩ := hgh.all hg hh hst hs ht
  rw [hg.answer_find hit hs, hh.answer_find hit ht, hxs]
  rcases firstHit hit (h.all t).1 with e | _ | a
  · rfl
  · exact hr.map_eq fun _ _ _ => rfl
  · rfl

end Lockstep

/-! ## Related results -/

/-- `R` relates states in which both loops go on alike, with results that `Q` relates. -/
structure Alongside (g : Generator σ α ε) (h : Generator τ β ε) (R : σ → τ → Prop)
    (Q : α → β → Prop) : Prop where
  live : ∀ {s : σ} {t : τ}, R s t → g.live s = h.live t
  turn : ∀ {s : σ} {t : τ}, R s t → g.live s = true →
    OutcomeRel (fun x y => R x.1 y.1 ∧ Option.Rel Q x.2 y.2) (g.body s) (h.body t)

section Alongside

variable {g : Generator σ α ε} {h : Generator τ β ε} {R : σ → τ → Prop} {Q : α → β → Prop}

/-- The second loop produces as many results, each related to that of the first one. -/
theorem Alongside.emits (hgh : Alongside g h R Q) {s : σ} {t : τ} {xs : List α} {r : Except ε σ}
    (hst : R s t) (he : g.Emits s xs r) :
    ∃ ys r', h.Emits t ys r' ∧ List.Forall₂ Q xs ys ∧ OutcomeRel R r r' := by
  induction he generalizing t with
  | done hl => exact ⟨[], .ok t, .done ((hgh.live hst).symm.trans hl), .nil, .ok hst⟩
  | @fail s e hl hb =>
      have hb' := (hgh.turn hst hl).error_left hb
      exact ⟨[], .error e, .fail ((hgh.live hst).symm.trans hl) hb', .nil, .error e⟩
  | silent hl hb _ ih =>
      obtain ⟨⟨t', o'⟩, hb', hst', ho⟩ := (hgh.turn hst hl).ok_left hb
      cases ho
      obtain ⟨ys, r', he', hys, hr⟩ := ih hst'
      exact ⟨ys, r', .silent ((hgh.live hst).symm.trans hl) hb' he', hys, hr⟩
  | emit hl hb _ ih =>
      obtain ⟨⟨t', o'⟩, hb', hst', ho⟩ := (hgh.turn hst hl).ok_left hb
      cases ho with
      | some hab =>
          obtain ⟨ys, r', he', hys, hr⟩ := ih hst'
          exact ⟨_, r', .emit ((hgh.live hst).symm.trans hl) hb' he', .cons hab hys, hr⟩

/-- **When called, they deliver related results.** -/
theorem Alongside.all {I : σ → Prop} {J : τ → Prop} (hgh : Alongside g h R Q) (hg : g.Bounded I)
    (hh : h.Bounded J) {s : σ} {t : τ} (hst : R s t) (hs : I s) (ht : J t) :
    List.Forall₂ Q (g.all s).1 (h.all t).1 := by
  obtain ⟨ys, r', he, hys, -⟩ := hgh.emits hst (hg.emits_all hs)
  rw [(hh.all_iff ht).mpr he]
  exact hys

end Alongside

/-! ## Two runs up to their last turns -/

/-- What a turn hands out. -/
def delivered (out : Except ε (σ × Option α)) : List α :=
  match out with
  | .ok (_, o) => o.toList
  | .error _ => []

/-- A turn after which the loop is over. -/
def Last (g : Generator σ α ε) (s : σ) : Prop :=
  ∀ s' o, g.body s = .ok (s', o) → g.live s' = false

/-- `R` relates states in which both loops go on alike, or are both in their last turn. -/
structure UntilLast (g : Generator σ α ε) (h : Generator τ α ε) (R : σ → τ → Prop) : Prop where
  live : ∀ {s : σ} {t : τ}, R s t → g.live s = h.live t
  turn : ∀ {s : σ} {t : τ}, R s t → g.live s = true →
    OutcomeRel (fun x y => R x.1 y.1 ∧ x.2 = y.2) (g.body s) (h.body t) ∨ (g.Last s ∧ h.Last t)

section UntilLast

variable {g : Generator σ α ε} {h : Generator τ α ε} {R : σ → τ → Prop} {s u : σ} {t v : τ}
  {xs : List α}

/-- The last turn ends the loop with what it hands out. -/
lemma Last.emits (hs : g.Last s) (hl : g.live s = true) :
    ∃ r, g.Emits s (delivered (g.body s)) r := by
  rcases hb : g.body s with e | ⟨s', _ | a⟩
  · exact ⟨.error e, .fail hl hb⟩
  · exact ⟨.ok s', .silent hl hb (.done (hs s' none hb))⟩
  · exact ⟨.ok s', .emit hl hb (.done (hs s' (some a) hb))⟩

/-- A loop that is over produces nothing. -/
lemma Emits.eq_nil {r : Except ε σ} (he : g.Emits s xs r) (hs : g.live s = false) : xs = [] := by
  cases he with
  | done _ => rfl
  | fail hl _ => rfl
  | silent hl _ _ =>
      rw [hs] at hl
      cases hl
  | emit hl _ _ =>
      rw [hs] at hl
      cases hl

/-- A loop that is not over comes to its last turn. -/
lemma Emits.last {r : Except ε σ} (he : g.Emits s xs r) (hs : g.live s = true) :
    ∃ ys u, g.Steps s ys u ∧ g.live u = true ∧ g.Last u ∧ xs = ys ++ delivered (g.body u) := by
  have hturn : ∀ {s s' o}, g.body s = .ok (s', o) → g.live s' = false → g.Last s := by
    intro s s' o hb hend s'' o' hb'
    rw [hb] at hb'
    cases hb'
    exact hend
  induction he with
  | done hl =>
      rw [hl] at hs
      cases hs
  | @fail s e hl hb =>
      refine ⟨[], s, .refl s, hl, fun s' o hb' => ?_, by rw [hb]; rfl⟩
      rw [hb] at hb'
      cases hb'
  | @silent s s' xs r hl hb rest ih =>
      by_cases hl' : g.live s' = true
      · obtain ⟨ys, u, hsteps, hrest⟩ := ih hl'
        exact ⟨ys, u, .silent hl hb hsteps, hrest⟩
      · have hend : g.live s' = false := by simpa using hl'
        refine ⟨[], s, .refl s, hl, hturn hb hend, ?_⟩
        rw [rest.eq_nil hend, hb]
        rfl
  | @emit s s' a xs r hl hb rest ih =>
      by_cases hl' : g.live s' = true
      · obtain ⟨ys, u, hsteps, hu, hlast, hxs⟩ := ih hl'
        exact ⟨a :: ys, u, .emit hl hb hsteps, hu, hlast, by rw [hxs]; rfl⟩
      · have hend : g.live s' = false := by simpa using hl'
        refine ⟨[], s, .refl s, hl, hturn hb hend, ?_⟩
        rw [rest.eq_nil hend, hb]
        rfl

/-- A loop that is over does not go on. -/
lemma Steps.live_of_live (hs : g.Steps s xs u) (hu : g.live u = true) : g.live s = true := by
  cases hs with
  | refl => exact hu
  | silent hl _ _ => exact hl
  | emit hl _ _ => exact hl

lemma delivered_eq {S : σ × Option α → τ × Option α → Prop} {x : Except ε (σ × Option α)}
    {y : Except ε (τ × Option α)} (hrel : OutcomeRel S x y) (hS : ∀ a b, S a b → a.2 = b.2) :
    delivered x = delivered y := by
  cases hrel with
  | error e => rfl
  | @ok a b hab => exact congrArg Option.toList (hS a b hab)

/-- A turn after which the first loop goes on is one of both loops. -/
lemma UntilLast.follow (hgh : UntilLast g h R) {s' : σ} {o : Option α} (hst : R s t)
    (hl : g.live s = true) (hb : g.body s = .ok (s', o)) (hl' : g.live s' = true) :
    ∃ t', h.body t = .ok (t', o) ∧ R s' t' := by
  rcases hgh.turn hst hl with hrel | ⟨hlast, -⟩
  · obtain ⟨⟨t', o'⟩, hb', hst', ho⟩ := hrel.ok_left hb
    cases ho
    exact ⟨t', hb', hst'⟩
  · rw [hlast s' o hb] at hl'
    cases hl'

/-- To a state in which the first loop goes on, the second one comes with it. -/
lemma UntilLast.steps (hgh : UntilLast g h R) (hs : g.Steps s xs u) (hst : R s t)
    (hu : g.live u = true) : ∃ v, h.Steps t xs v ∧ R u v := by
  induction hs generalizing t with
  | refl s => exact ⟨t, .refl t, hst⟩
  | silent hl hb rest ih =>
      obtain ⟨t', hb', hst'⟩ := hgh.follow hst hl hb (rest.live_of_live hu)
      obtain ⟨v, hsteps, huv⟩ := ih hst' hu
      exact ⟨v, .silent ((hgh.live hst).symm.trans hl) hb' hsteps, huv⟩
  | emit hl hb rest ih =>
      obtain ⟨t', hb', hst'⟩ := hgh.follow hst hl hb (rest.live_of_live hu)
      obtain ⟨v, hsteps, huv⟩ := ih hst' hu
      exact ⟨v, .emit ((hgh.live hst).symm.trans hl) hb' hsteps, huv⟩

/-- The loops are in their last turns together. -/
lemma UntilLast.last (hgh : UntilLast g h R) (hst : R s t) (hl : g.live s = true)
    (hlast : g.Last s) : h.Last t := by
  rcases hgh.turn hst hl with hrel | ⟨-, hlast'⟩
  · intro t' o hb'
    obtain ⟨⟨s', o'⟩, hb, hst', -⟩ := hrel.ok_right hb'
    exact (hgh.live hst').symm.trans (hlast s' o' hb)
  · exact hlast'

variable {I : σ → Prop} {J : τ → Prop}

/-- **Loops that go on alike until their last turns deliver the same results if and only if their
turns do.** -/
theorem UntilLast.all_iff (hgh : UntilLast g h R) (hg : g.Bounded I) (hh : h.Bounded J)
    (hst : R s t) (hs : I s) (ht : J t) : (g.all s).1 = (h.all t).1 ↔
      ∀ xs u v, g.Steps s xs u → h.Steps t xs v → R u v → g.live u = true →
        delivered (g.body u) = delivered (h.body v) := by
  constructor
  · intro heq xs u v hu hv huv hl
    rcases hgh.turn huv hl with hrel | ⟨hlast, hlast'⟩
    · exact delivered_eq hrel fun _ _ hxy => hxy.2
    · obtain ⟨r, he⟩ := hlast.emits hl
      obtain ⟨r', he'⟩ := hlast'.emits ((hgh.live huv).symm.trans hl)
      rw [(hg.all_iff hs).mpr (hu.emits he), (hh.all_iff ht).mpr (hv.emits he')] at heq
      exact List.append_cancel_left heq
  · intro hsame
    have he : g.Emits s (g.all s).1 (g.all s).2 := hg.emits_all hs
    by_cases hl : g.live s = true
    · obtain ⟨ys, u, hu, hlive, hlast, hxs⟩ := he.last hl
      obtain ⟨v, hv, huv⟩ := hgh.steps hu hst hlive
      obtain ⟨r', he'⟩ := (hgh.last huv hlive hlast).emits ((hgh.live huv).symm.trans hlive)
      rw [← hsame ys u v hu hv huv hlive] at he'
      rw [(hh.all_iff ht).mpr (hv.emits he')]
      exact hxs
    · have hend : g.live s = false := by simpa using hl
      rw [he.eq_nil hend, (hh.all_iff ht).mpr (.done ((hgh.live hst).symm.trans hend))]

end UntilLast

/-! ## History variables -/

/-- The generator with a variable that records, before each turn, what `record` sees of the state;
every result comes with the record as it was then. -/
def withHistory (g : Generator σ α ε) (record : γ → σ → γ) :
    Generator (σ × γ) (α × γ) ε where
  live s := g.live s.1
  body s := (g.body s.1).map fun (t, o) => ((t, record s.2 s.1), o.map (·, record s.2 s.1))
  μ s := g.μ s.1
  spent := g.spent

section History

variable {g : Generator σ α ε} {record : γ → σ → γ}

lemma withHistory_body_ok {s t : σ} {c d : γ} {o : Option (α × γ)}
    (h : (g.withHistory record).body (s, c) = .ok ((t, d), o)) :
    d = record c s ∧ ∃ o', g.body s = .ok (t, o') ∧ o = o'.map (·, d) := by
  simp only [withHistory, except_map_ok, Prod.exists, Prod.mk.injEq] at h
  obtain ⟨t', o', hb, ⟨rfl, rfl⟩, rfl⟩ := h
  exact ⟨rfl, o', hb, rfl⟩

lemma withHistory_body {s t : σ} {o : Option α} (c : γ) (h : g.body s = .ok (t, o)) :
    (g.withHistory record).body (s, c) = .ok ((t, record c s), o.map (·, record c s)) := by
  simp [withHistory, h, Except.map]

/-- The loop comes to the same states with a history variable and without. -/
lemma withHistory_reaches {s t : σ} (c : γ) :
    g.Reaches s t ↔ ∃ d, (g.withHistory record).Reaches (s, c) (t, d) := by
  constructor
  · intro h
    refine h.invariant (fun t => ∃ d, (g.withHistory record).Reaches (s, c) (t, d))
      ⟨c, .refl _ _⟩ ?_
    rintro u u' o - ⟨d, hd⟩ hl hb
    exact ⟨_, hd.turn hl (withHistory_body d hb)⟩
  · rintro ⟨d, hd⟩
    refine hd.invariant (fun t => g.Reaches s t.1) (.refl g s) ?_
    rintro ⟨u, e⟩ ⟨u', e'⟩ o - hu hl hb
    obtain ⟨-, o', hb', -⟩ := withHistory_body_ok hb
    exact hu.turn hl hb'

lemma withHistory_bounded {Inv : σ → Prop} (hg : g.Bounded Inv) :
    (g.withHistory record).Bounded fun s => Inv s.1 := by
  refine ⟨?_⟩
  rintro ⟨s, c⟩ ⟨t, d⟩ o hs hl hb
  obtain ⟨-, o', hb', -⟩ := withHistory_body_ok hb
  exact hg.turn hs hl hb'

lemma withHistory_emits {s : σ × γ} {ys : List (α × γ)} {r : Except ε (σ × γ)}
    (h : (g.withHistory record).Emits s ys r) :
    g.Emits s.1 (ys.map Prod.fst) (r.map Prod.fst) := by
  induction h with
  | done hl => exact .done hl
  | @fail s e hl hb =>
      refine .fail hl ?_
      cases hb' : g.body s.1 with
      | error e' =>
          simp only [withHistory, hb', Except.map, Except.error.injEq] at hb
          rw [hb]
      | ok y => simp [withHistory, hb', Except.map] at hb
  | silent hl hb _ ih =>
      obtain ⟨-, o', hb', ho⟩ := withHistory_body_ok hb
      cases o' with
      | none => exact .silent hl hb' ih
      | some a => cases ho
  | emit hl hb _ ih =>
      obtain ⟨-, o', hb', ho⟩ := withHistory_body_ok hb
      cases o' with
      | none => cases ho
      | some a =>
          cases ho
          exact .emit hl hb' ih

/-- **A history variable does not change what the calls deliver.** -/
theorem withHistory_all {Inv : σ → Prop} (hg : g.Bounded Inv) {s : σ} (c : γ) (hs : Inv s) :
    ((g.withHistory record).all (s, c)).1.map Prod.fst = (g.all s).1 := by
  have he : (g.withHistory record).Emits (s, c) ((g.withHistory record).all (s, c)).1
      ((g.withHistory record).all (s, c)).2 :=
    (withHistory_bounded hg).emits_all hs
  rw [(hg.all_iff hs).mpr (withHistory_emits he)]

/-- Loops in lockstep that record the same stay in lockstep with their history variables. -/
lemma Lockstep.withHistory {h : Generator τ α ε} {record' : γ → τ → γ} {R : σ → τ → Prop}
    (hgh : Lockstep g h R)
    (hrecord : ∀ {s t} c, R s t → g.live s = true → record c s = record' c t) :
    Lockstep (g.withHistory record) (h.withHistory record')
      (fun s t => R s.1 t.1 ∧ s.2 = t.2) := by
  refine ⟨fun hst => hgh.live hst.1, ?_⟩
  rintro ⟨s, c⟩ ⟨t, d⟩ ⟨hst, hcd⟩ hl
  obtain rfl : c = d := hcd
  refine (hgh.turn hst hl).map ?_
  rintro ⟨s', o⟩ ⟨t', o'⟩ ⟨hst', ho⟩
  obtain rfl : o = o' := ho
  have hsame := hrecord c hst hl
  exact ⟨⟨hst', hsame⟩, by rw [hsame]⟩

end History

end Generator

end Framework
