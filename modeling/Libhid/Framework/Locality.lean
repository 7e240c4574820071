import Libhid.Framework.Outcomes
import Libhid.Framework.Runs

/-!
# Computations on one component

A state made of components and a log of events, the latest first, and computations that ask their
environment: the answer to a question is a function of the number of events before it.  A
computation is local to a component (`IsLocal`) if it reads and writes nothing else, depends on the
log by its length alone, and is decided by the answers to its own questions.  Local computations
are closed under sequencing (`IsLocal.bind`).

Calls that are local each to a component do not see each other: whatever answers a run of calls on
all components got, the calls on one of them get the same answers alone (`alone_of_interleaved`),
and what the calls on each component get alone they get together, in any order
(`interleaved_of_alone`).
-/

namespace Framework

/-- A state with components and a log.  `put` writes a component and adds events, and `moved` is an
event as it is when that many events come before it. -/
structure Components (ι ω ς ε : Type) where
  get : ω → ι → ς
  log : ω → List ε
  put : ω → ι → ς → List ε → ω
  moved : ℕ → ε → ε
  get_put : ∀ w i s es, get (put w i s es) i = s
  get_put_of_ne : ∀ w {i j} s es, j ≠ i → get (put w i s es) j = get w j
  log_put : ∀ w i s es, log (put w i s es) = es ++ log w
  put_put : ∀ w i s es s' es', put (put w i s es) i s' es' = put w i s' (es' ++ es)
  put_get : ∀ w i, put w i (get w i) [] = w
  moved_add : ∀ m n e, moved (m + n) e = moved m (moved n e)

/-- The answers from the `n`-th on. -/
def later {A : Type} (ans : ℕ → A) (n : ℕ) : ℕ → A := fun t => ans (t + n)

lemma later_later {A : Type} (ans : ℕ → A) (m n : ℕ) :
    later (later ans m) n = later ans (n + m) := by
  funext t
  rw [later, later, later, Nat.add_assoc]

/-- `k` answers from the time `n` on, and other ones after them. -/
def switch {A : Type} (n k : ℕ) (first second : ℕ → A) : ℕ → A := fun t =>
  if t < k + n then first (t - n) else second t

lemma switch_before {A : Type} {n k t : ℕ} (h : t < k) (first second : ℕ → A) :
    switch n k first second (t + n) = first t := by
  rw [switch, if_pos (by omega), Nat.add_sub_cancel]

lemma later_switch {A : Type} (n k : ℕ) (first second : ℕ → A) :
    later (switch n k first second) (k + n) = later second (k + n) := by
  funext t
  exact if_neg (by omega)

namespace Components

variable {ι ω ς ε A ξ α β : Type} (C : Components ι ω ς ε)

/-- The number of events so far. -/
def clock (w : ω) : ℕ := (C.log w).length

/-- What a component and its events make of a state. -/
def resume (w : ω) (i : ι) (r : α × ς × List ε) : α × ω :=
  (r.1, C.put w i r.2.1 (r.2.2.map (C.moved (C.clock w))))

/-- `f` is what `x` does to the `i`-th component. -/
structure Locally (i : ι) (x : (ℕ → A) → StateT ω (Except ξ) α)
    (f : (ℕ → A) → ς → Except ξ (α × ς × List ε)) : Prop where
  run : ∀ ans w, x ans w = (f (later ans (C.clock w)) (C.get w i)).map (C.resume w i)
  causal : ∀ {ans ans' : ℕ → A} {s : ς} {r : α × ς × List ε}, f ans s = .ok r →
    (∀ t < r.2.2.length, ans' t = ans t) → f ans' s = .ok r

/-- The computation reads and writes only the `i`-th component. -/
def IsLocal (i : ι) (x : (ℕ → A) → StateT ω (Except ξ) α) : Prop := ∃ f, C.Locally i x f

variable {C} {i : ι}

lemma clock_put (w : ω) (i : ι) (s : ς) (es : List ε) :
    C.clock (C.put w i s es) = es.length + C.clock w := by
  rw [clock, C.log_put, List.length_append, clock]

/-! ## Local computations -/

section Locally

variable {x : (ℕ → A) → StateT ω (Except ξ) α} {f : (ℕ → A) → ς → Except ξ (α × ς × List ε)}
  {ans : ℕ → A} {w u : ω} {a : α} {s : ς} {es : List ε}

/-- What a local computation did. -/
lemma Locally.ok (h : C.Locally i x f) (hrun : x ans w = .ok (a, u)) :
    ∃ s es, f (later ans (C.clock w)) (C.get w i) = .ok (a, s, es) ∧
      u = C.put w i s (es.map (C.moved (C.clock w))) ∧ C.clock u = es.length + C.clock w := by
  rw [h.run] at hrun
  obtain ⟨⟨a', s, es⟩, hf, hr⟩ := except_map_ok.mp hrun
  cases hr
  exact ⟨s, es, hf, rfl, by rw [clock_put, List.length_map]⟩

/-- What it did once it does again, wherever its questions get the same answers. -/
lemma Locally.again (h : C.Locally i x f) (hf : f ans (C.get w i) = .ok (a, s, es))
    (rest : ℕ → A) : x (switch (C.clock w) es.length ans rest) w =
      .ok (a, C.put w i s (es.map (C.moved (C.clock w)))) := by
  have hsame : f (later (switch (C.clock w) es.length ans rest) (C.clock w)) (C.get w i) =
      .ok (a, s, es) := h.causal hf fun t ht => switch_before ht ans rest
  rw [h.run, hsame]
  rfl

end Locally

namespace IsLocal

/-- A computation that asks nothing and records nothing. -/
lemma of_state {x : (ℕ → A) → StateT ω (Except ξ) α} (f : ς → Except ξ (α × ς))
    (h : ∀ ans w, x ans w = (f (C.get w i)).map fun r => (r.1, C.put w i r.2 [])) :
    C.IsLocal i x := by
  refine ⟨fun _ s => (f s).map fun r => (r.1, r.2, []), ⟨fun ans w => ?_, ?_⟩⟩
  · rw [h]
    cases f (C.get w i) with
    | error e => rfl
    | ok r => rfl
  · intro ans ans' s r hok _
    exact hok

lemma pure (a : α) : C.IsLocal i fun _ : ℕ → A => (Pure.pure a : StateT ω (Except ξ) α) :=
  of_state (fun s => .ok (a, s)) fun _ w => by
    show _ = Except.ok (a, C.put w i (C.get w i) [])
    rw [C.put_get]
    rfl

lemma ite {p : Prop} [Decidable p] {x y : (ℕ → A) → StateT ω (Except ξ) α} (hx : C.IsLocal i x)
    (hy : C.IsLocal i y) : C.IsLocal i fun ans => if p then x ans else y ans := by
  split_ifs
  · exact hx
  · exact hy

/-- One question, with the event that records it. -/
lemma ask {x : (ℕ → A) → StateT ω (Except ξ) α} (outcome : A → α) (event : A → ε)
    (h : ∀ ans w, x ans w = .ok (outcome (ans (C.clock w)),
      C.put w i (C.get w i) [C.moved (C.clock w) (event (ans (C.clock w)))])) :
    C.IsLocal i x := by
  refine ⟨fun ans s => .ok (outcome (ans 0), s, [event (ans 0)]), ⟨fun ans w => ?_, ?_⟩⟩
  · rw [h]
    show _ = Except.ok (C.resume w i _)
    rw [later, Nat.zero_add]
    rfl
  · intro ans ans' s r hok hans
    cases hok
    show Except.ok (outcome (ans' 0), s, [event (ans' 0)]) = _
    rw [hans 0 Nat.zero_lt_one]

/-- **A sequence of local computations is local.** -/
theorem bind {x : (ℕ → A) → StateT ω (Except ξ) α} {y : α → (ℕ → A) → StateT ω (Except ξ) β}
    (hx : C.IsLocal i x) (hy : ∀ a, C.IsLocal i (y a)) :
    C.IsLocal i fun ans => x ans >>= fun a => y a ans := by
  obtain ⟨f, hf⟩ := hx
  choose g hg using hy
  refine ⟨fun ans s => match f ans s with
    | .error e => .error e
    | .ok (a, s', es) => (g a (later ans es.length) s').map fun r =>
        (r.1, r.2.1, r.2.2.map (C.moved es.length) ++ es), ⟨fun ans w => ?_, ?_⟩⟩
  · have hrun := hf.run ans w
    rcases hfa : f (later ans (C.clock w)) (C.get w i) with e | ⟨a, s, es⟩ <;> rw [hfa] at hrun
    · exact state_bind_error hrun
    · -- the second computation starts behind the events of the first one
      have hclock : C.clock (C.put w i s (es.map (C.moved (C.clock w)))) =
          es.length + C.clock w := by
        rw [clock_put, List.length_map]
      dsimp only
      rw [state_bind_eq (f := fun a => y a ans) hrun, (hg a).run, C.get_put, later_later, hclock]
      rcases g a (later ans (es.length + C.clock w)) s with e | ⟨b, s', es'⟩
      · rfl
      · have hmoved : ∀ e, C.moved (C.clock w) (C.moved es.length e) =
            C.moved (es.length + C.clock w) e := fun e => by
          rw [Nat.add_comm, C.moved_add]
        show Except.ok (b, C.put _ i s' _) = Except.ok (b, C.put w i s' _)
        rw [C.put_put, hclock, List.map_append, List.map_map]
        simp only [Function.comp_def, hmoved]
  · intro ans ans' s r hok hans
    rcases hfa : f ans s with e | ⟨a, s', es⟩ <;> simp only [hfa] at hok
    · cases hok
    · obtain ⟨⟨b, t, es'⟩, hga, rfl⟩ := except_map_ok.mp hok
      simp only [List.length_append, List.length_map] at hans
      have hfa' : f ans' s = .ok (a, s', es) := hf.causal hfa fun t ht => hans t (by
        dsimp only at ht
        omega)
      have hga' : g a (later ans' es.length) s' = .ok (b, t, es') :=
        (hg a).causal hga fun t ht => hans (t + es.length) (by
          dsimp only at ht
          omega)
      simp only [hfa', hga']
      rfl

end IsLocal

/-! ## What is seen of the events -/

/-- The computation with what is seen of the events it records. -/
def watch {τ : Type} (C : Components ι ω ς ε) (seen : ε → Option τ) (x : StateT ω (Except ξ) α) :
    StateT ω (Except ξ) (α × List τ) := fun w =>
  (x w).map fun r =>
    ((r.1, ((C.log r.2).take (C.clock r.2 - C.clock w)).filterMap seen), r.2)

/-- Where the places of the events are not seen, watching is local. -/
lemma IsLocal.watch {τ : Type} {seen : ε → Option τ} (hseen : ∀ n e, seen (C.moved n e) = seen e)
    {x : (ℕ → A) → StateT ω (Except ξ) α} (hx : C.IsLocal i x) :
    C.IsLocal i fun ans => C.watch seen (x ans) := by
  obtain ⟨f, hf⟩ := hx
  refine ⟨fun ans s => (f ans s).map fun r => ((r.1, r.2.2.filterMap seen), r.2),
    ⟨fun ans w => ?_, ?_⟩⟩
  · rw [Components.watch, hf.run]
    rcases f (later ans (C.clock w)) (C.get w i) with e | ⟨a, s, es⟩
    · rfl
    · show Except.ok ((a, _), C.put w i s _) = Except.ok ((a, _), C.put w i s _)
      have htake : (C.log (C.put w i s (es.map (C.moved (C.clock w))))).take
          (C.clock (C.put w i s (es.map (C.moved (C.clock w)))) - C.clock w) =
          es.map (C.moved (C.clock w)) := by
        rw [clock_put, C.log_put, Nat.add_sub_cancel, List.take_left]
      dsimp only [resume]
      rw [htake, List.filterMap_map]
      simp only [Function.comp_def, hseen]
  · intro ans ans' s r hok hans
    obtain ⟨r', hr', rfl⟩ := except_map_ok.mp hok
    rw [hf.causal hr' hans]
    rfl

/-! ## Calls on several components -/

section Calls

variable {κ ρ : Type} {step : κ → (ℕ → A) → StateT ω (Except ξ) ρ}

/-- A run of local calls looks only at the answers to come. -/
lemma runAll_congr {ans ans' : ℕ → A} : ∀ {calls : List κ},
    (∀ c ∈ calls, ∃ j, C.IsLocal j (step c)) → ∀ {w : ω},
      later ans' (C.clock w) = later ans (C.clock w) →
        runAll (fun c => step c ans') calls w = runAll (fun c => step c ans) calls w
  | [], _, _, _ => rfl
  | c :: calls, hlocal, w, hans => by
      obtain ⟨j, f, hf⟩ := hlocal c List.mem_cons_self
      have hsame : step c ans' w = step c ans w := by
        rw [hf.run, hf.run, hans]
      rw [runAll, runAll, hsame]
      rcases hstep : step c ans w with e | ⟨r, t⟩
      · rfl
      · obtain ⟨s, es, -, -, hclock⟩ := hf.ok hstep
        have hans' : later ans' (C.clock t) = later ans (C.clock t) := by
          rw [hclock, ← later_later, ← later_later, hans]
        dsimp only
        rw [runAll_congr (fun c' hc' => hlocal c' (List.mem_cons_of_mem c hc')) hans']

/-- A call whose questions get the answers it got once, before a run that goes on with others. -/
lemma runAll_again {c : κ} {calls : List κ} {j : ι} {f : (ℕ → A) → ς → Except ξ (ρ × ς × List ε)}
    (hf : C.Locally j (step c) f) (hlocal : ∀ c ∈ calls, ∃ j, C.IsLocal j (step c))
    {ans rest : ℕ → A} {w u : ω} {r : ρ} {replies : List ρ} {s : ς} {es : List ε}
    (hcall : f ans (C.get w j) = .ok (r, s, es))
    (hrun : runAll (fun c => step c rest) calls (C.put w j s (es.map (C.moved (C.clock w)))) =
      .ok (replies, u)) :
    runAll (fun c => step c (switch (C.clock w) es.length ans rest)) (c :: calls) w =
      .ok (r :: replies, u) := by
  have hclock : C.clock (C.put w j s (es.map (C.moved (C.clock w)))) = es.length + C.clock w := by
    rw [clock_put, List.length_map]
  have hsame : runAll (fun c => step c (switch (C.clock w) es.length ans rest)) calls
      (C.put w j s (es.map (C.moved (C.clock w)))) = .ok (replies, u) := by
    rw [← hrun]
    exact runAll_congr hlocal (by rw [hclock, later_switch])
  rw [runAll, hf.again hcall rest]
  dsimp only
  rw [hsame]

variable (own : κ → Prop) [DecidablePred own]

/-- The calls of one kind. -/
def callsOf (calls : List κ) : List κ := calls.filter (own ·)

/-- The replies to the calls of one kind. -/
def repliesOf (calls : List κ) (replies : List ρ) : List ρ :=
  ((calls.zip replies).filter (own ·.1)).map Prod.snd

lemma callsOf_cons_own {c : κ} (h : own c) (calls : List κ) :
    callsOf own (c :: calls) = c :: callsOf own calls := by
  simp [callsOf, h]

lemma callsOf_cons_other {c : κ} (h : ¬ own c) (calls : List κ) :
    callsOf own (c :: calls) = callsOf own calls := by
  simp [callsOf, h]

lemma repliesOf_cons_own {c : κ} (h : own c) (calls : List κ) (r : ρ) (replies : List ρ) :
    repliesOf own (c :: calls) (r :: replies) = r :: repliesOf own calls replies := by
  simp [repliesOf, h]

lemma repliesOf_cons_other {c : κ} (h : ¬ own c) (calls : List κ) (r : ρ) (replies : List ρ) :
    repliesOf own (c :: calls) (r :: replies) = repliesOf own calls replies := by
  simp [repliesOf, h]

variable (step)

/-- **Calls on one component are as if alone**: in a run in which the other calls leave the
component as it is, the calls on it have the replies they have alone, for some answers. -/
theorem alone_of_interleaved (ans : ℕ → A) (hlocal : ∀ c, own c → C.IsLocal i (step c)) :
    ∀ {calls : List κ} {w u : ω} {replies : List ρ},
      (∀ c ∈ calls, ¬ own c → ∀ v r v', step c ans v = .ok (r, v') → C.get v' i = C.get v i) →
      runAll (fun c => step c ans) calls w = .ok (replies, u) →
      ∀ w', C.get w' i = C.get w i → ∃ ans' u',
        runAll (fun c => step c ans') (callsOf own calls) w' =
          .ok (repliesOf own calls replies, u') ∧ C.get u' i = C.get u i
  | [], w, u, replies, _, hrun, w', hw' => by
      cases hrun
      exact ⟨ans, w', rfl, hw'⟩
  | c :: calls, w, u, replies, hother, hrun, w', hw' => by
      obtain ⟨r, t, rs, hstep, hrest, rfl⟩ := runAll_cons_ok hrun
      have hother' := fun c' hc' => hother c' (List.mem_cons_of_mem c hc')
      by_cases hc : own c
      · obtain ⟨f, hf⟩ := hlocal c hc
        obtain ⟨s, es, hfa, rfl, -⟩ := hf.ok hstep
        rw [← hw'] at hfa
        obtain ⟨ans', u', hrun', hu'⟩ := alone_of_interleaved ans hlocal hother' hrest
          (C.put w' i s (es.map (C.moved (C.clock w')))) (by rw [C.get_put, C.get_put])
        refine ⟨switch (C.clock w') es.length (later ans (C.clock w)) ans', u', ?_, hu'⟩
        rw [callsOf_cons_own own hc, repliesOf_cons_own own hc]
        exact runAll_again hf (fun c' hc' => ⟨_, hlocal c' (by
          simpa using (List.mem_filter.mp hc').2)⟩) hfa hrun'
      · have ht : C.get t i = C.get w i := hother c List.mem_cons_self hc w r t hstep
        rw [callsOf_cons_other own hc, repliesOf_cons_other own hc]
        exact alone_of_interleaved ans hlocal hother' hrest w' (hw'.trans ht.symm)

/-- **What the calls on each component do alone, they do together, in any order.** -/
theorem interleaved_of_alone [Nonempty ι] [DecidableEq ι] (place : κ → Option ι) {final : ι → ς} :
    ∀ {calls : List κ} {replies : List ρ} {w : ω},
      (∀ c ∈ calls, ∃ j, place c = some j ∧ C.IsLocal j (step c)) →
      replies.length = calls.length →
      (∀ j, ∃ ans w' u', C.get w' j = C.get w j ∧
        runAll (fun c => step c ans) (callsOf (place · = some j) calls) w' =
          .ok (repliesOf (place · = some j) calls replies, u') ∧ C.get u' j = final j) →
      ∃ ans u, runAll (fun c => step c ans) calls w = .ok (replies, u) ∧
        ∀ j, C.get u j = final j
  | [], [], w, _, _, halone => by
      obtain ⟨ans, -⟩ := halone (Classical.arbitrary ι)
      refine ⟨ans, w, rfl, fun j => ?_⟩
      obtain ⟨_, w', u', hw', hrun, hu'⟩ := halone j
      cases hrun
      rw [← hw', hu']
  | c :: calls, r :: replies, w, hlocal, hlen, halone => by
      obtain ⟨i, hi, f, hf⟩ := hlocal c List.mem_cons_self
      have hlocal' := fun c' hc' => hlocal c' (List.mem_cons_of_mem c hc')
      -- the call gets the answers it gets alone
      obtain ⟨ans₀, w₀, u₀, hw₀, hrun₀, hu₀⟩ := halone i
      rw [callsOf_cons_own (place · = some i) hi, repliesOf_cons_own (place · = some i) hi] at hrun₀
      obtain ⟨r', t₀, rs, hstep, hrest, heq⟩ := runAll_cons_ok hrun₀
      cases heq
      obtain ⟨s, es, hfa, rfl, -⟩ := hf.ok hstep
      rw [hw₀] at hfa
      have hrec : ∀ j, ∃ ans w' u', C.get w' j =
          C.get (C.put w i s (es.map (C.moved (C.clock w)))) j ∧
          runAll (fun c => step c ans) (callsOf (place · = some j) calls) w' =
            .ok (repliesOf (place · = some j) calls replies, u') ∧ C.get u' j = final j := by
        intro j
        by_cases hj : j = i
        · subst hj
          exact ⟨ans₀, _, u₀, by rw [C.get_put, C.get_put], hrest, hu₀⟩
        · have hne : ¬ place c = some j := by
            rw [hi]
            exact fun h => hj (Option.some.inj h).symm
          obtain ⟨ans, w', u', hw', hrun, hu'⟩ := halone j
          rw [callsOf_cons_other (place · = some j) hne,
            repliesOf_cons_other (place · = some j) hne] at hrun
          exact ⟨ans, w', u', by rw [hw', C.get_put_of_ne _ _ _ hj], hrun, hu'⟩
      obtain ⟨ans, u, hrun, hu⟩ := interleaved_of_alone place hlocal' (Nat.succ.inj hlen) hrec
      refine ⟨_, u, runAll_again hf (fun c' hc' => ?_) hfa hrun, hu⟩
      obtain ⟨j, -, hj⟩ := hlocal' c' hc'
      exact ⟨j, hj⟩

end Calls

end Components

end Framework
