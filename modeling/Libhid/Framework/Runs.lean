import Libhid.Framework.Outcomes

/-!
# Runs of a machine that takes calls

A machine is a function that takes a call and a state and fails or answers with a new state.
`runAll` makes one call after the other, `Along` states a condition on every call of a run in the
state it is made in, and `history` folds a variable over the calls and their answers.  The one
induction on runs is `invariant_runAll`: an invariant of state and history, kept by every call that
meets the condition, holds after every run that meets it.
-/

namespace Framework

section Runs

variable {σ κ ρ γ ε : Type*} (step : κ → σ → Except ε (ρ × σ))

/-- One call after the other, with their answers. -/
def runAll : List κ → σ → Except ε (List ρ × σ)
  | [], s => .ok ([], s)
  | c :: cs, s =>
      match step c s with
      | .error e => .error e
      | .ok (r, t) =>
          match runAll cs t with
          | .error e => .error e
          | .ok (rs, u) => .ok (r :: rs, u)

/-- Every call of the run is made in a state where it meets the condition. -/
def Along (ok : κ → σ → Prop) : List κ → σ → Prop
  | [], _ => True
  | c :: cs, s => ok c s ∧ ∀ r t, step c s = .ok (r, t) → Along ok cs t

/-- A variable updated by each call and its answer. -/
def history (upd : γ → κ → ρ → γ) (h : γ) (trace : List (κ × ρ)) : γ :=
  trace.foldl (fun h p => upd h p.1 p.2) h

variable {step}

lemma runAll_cons_ok {c : κ} {cs : List κ} {s u : σ} {rs : List ρ}
    (h : runAll step (c :: cs) s = .ok (rs, u)) :
    ∃ r t rs', step c s = .ok (r, t) ∧ runAll step cs t = .ok (rs', u) ∧ rs = r :: rs' := by
  rw [runAll] at h
  rcases hc : step c s with e | ⟨r, t⟩ <;> rw [hc] at h
  · cases h
  · dsimp only at h
    rcases hcs : runAll step cs t with e | ⟨rs', u'⟩ <;> rw [hcs] at h <;> cases h
    exact ⟨r, t, rs', rfl, hcs, rfl⟩

/-- A condition every call meets holds along every run. -/
lemma Along.of_forall {ok : κ → σ → Prop} (h : ∀ c s, ok c s) :
    ∀ (cs : List κ) (s : σ), Along step ok cs s
  | [], _ => trivial
  | c :: cs, s => ⟨h c s, fun _ t _ => Along.of_forall h cs t⟩

lemma Along.imp {P Q : κ → σ → Prop} (h : ∀ c s, P c s → Q c s) : ∀ {cs : List κ} {s : σ},
    Along step P cs s → Along step Q cs s
  | [], _, _ => trivial
  | _ :: _, _, halong => ⟨h _ _ halong.1, fun r t ht => Along.imp h (halong.2 r t ht)⟩

/-- A condition that can be decided for each call can be decided along a run. -/
instance decidableAlong {P : κ → σ → Prop} [∀ c s, Decidable (P c s)] :
    ∀ (cs : List κ) (s : σ), Decidable (Along step P cs s)
  | [], _ => .isTrue trivial
  | c :: cs, s =>
      match hc : step c s with
      | .error e =>
          decidable_of_iff (P c s)
            ⟨fun hp => ⟨hp, fun r t ht => by rw [hc] at ht; cases ht⟩, And.left⟩
      | .ok (r, t) =>
          have := decidableAlong (P := P) cs t
          decidable_of_iff (P c s ∧ Along step P cs t)
            ⟨fun h => ⟨h.1, fun r' t' ht => by rw [hc] at ht; cases ht; exact h.2⟩,
              fun h => ⟨h.1, h.2 r t hc⟩⟩

/-- **An invariant that every call keeps holds after every run.** -/
theorem invariant_runAll {I : γ → σ → Prop} {P : κ → σ → Prop} {f : γ → κ → ρ → γ}
    (hstep : ∀ ⦃h : γ⦄ ⦃s t : σ⦄ ⦃c : κ⦄ ⦃r : ρ⦄, I h s → P c s → step c s = .ok (r, t) →
      I (f h c r) t) :
    ∀ {cs : List κ} {s t : σ} {h : γ} {rs : List ρ}, I h s → Along step P cs s →
      runAll step cs s = .ok (rs, t) → I (history f h (cs.zip rs)) t
  | [], _, _, _, _, hs, _, hrun => by
      cases hrun
      exact hs
  | c :: cs, s, t, h, rs, hs, halong, hrun => by
      obtain ⟨r, u, rs', hc, hcs, rfl⟩ := runAll_cons_ok hrun
      show I (history f (f h c r) (cs.zip rs')) t
      exact invariant_runAll hstep (hstep hs halong.1 hc) (halong.2 r u hc) hcs

/-- The same for an invariant of the state alone. -/
theorem state_invariant_runAll {I : σ → Prop} {P : κ → σ → Prop}
    (hstep : ∀ ⦃s t : σ⦄ ⦃c : κ⦄ ⦃r : ρ⦄, I s → P c s → step c s = .ok (r, t) → I t)
    {cs : List κ} {s t : σ} {rs : List ρ} (hs : I s) (halong : Along step P cs s)
    (hrun : runAll step cs s = .ok (rs, t)) : I t :=
  invariant_runAll (I := fun (_ : Unit) => I) (f := fun _ _ _ => ()) (h := ())
    (fun _ _ _ _ _ hs hc hrun => hstep hs hc hrun) hs halong hrun

/-- What a run leaves behind held before it, if every call leaves behind only what held before. -/
lemma before_of_runAll {I : σ → Prop}
    (hback : ∀ ⦃s t : σ⦄ ⦃c : κ⦄ ⦃r : ρ⦄, step c s = .ok (r, t) → I t → I s) :
    ∀ {cs : List κ} {s t : σ} {rs : List ρ}, runAll step cs s = .ok (rs, t) → I t → I s
  | [], _, _, _, hrun, ht => by
      cases hrun
      exact ht
  | _ :: _, _, _, _, hrun, ht => by
      obtain ⟨r, u, rs', hc, hcs, -⟩ := runAll_cons_ok hrun
      exact hback hc (before_of_runAll hback hcs ht)

/-- **An invariant that once lost is never regained holds after a run exactly when every call met
the condition under which it is kept.** -/
theorem invariant_iff_along {I : σ → Prop} {P : κ → σ → Prop}
    (hstep : ∀ ⦃s t : σ⦄ ⦃c : κ⦄ ⦃r : ρ⦄, step c s = .ok (r, t) → I s → (I t ↔ P c s))
    (hback : ∀ ⦃s t : σ⦄ ⦃c : κ⦄ ⦃r : ρ⦄, step c s = .ok (r, t) → I t → I s) :
    ∀ {cs : List κ} {s t : σ} {rs : List ρ}, I s → runAll step cs s = .ok (rs, t) →
      (I t ↔ Along step P cs s)
  | [], _, _, _, hs, hrun => by
      cases hrun
      exact iff_of_true hs trivial
  | c :: cs, s, t, rs, hs, hrun => by
      obtain ⟨r, u, rs', hc, hcs, -⟩ := runAll_cons_ok hrun
      constructor
      · intro ht
        have hu := before_of_runAll hback hcs ht
        refine ⟨(hstep hc hs).mp hu, fun r' u' hc' => ?_⟩
        rw [hc] at hc'
        cases hc'
        exact (invariant_iff_along hstep hback hu hcs).mp ht
      · intro halong
        have hu := (hstep hc hs).mpr halong.1
        exact (invariant_iff_along hstep hback hu hcs).mpr (halong.2 r u hc)

/-- The same where it is kept and lost under an invariant that every call keeps. -/
theorem invariant_iff_along_under {I J : σ → Prop} {P : κ → σ → Prop}
    (hkeep : ∀ ⦃s t : σ⦄ ⦃c : κ⦄ ⦃r : ρ⦄, step c s = .ok (r, t) → J s → J t)
    (hstep : ∀ ⦃s t : σ⦄ ⦃c : κ⦄ ⦃r : ρ⦄, step c s = .ok (r, t) → J s → I s → (I t ↔ P c s))
    (hback : ∀ ⦃s t : σ⦄ ⦃c : κ⦄ ⦃r : ρ⦄, step c s = .ok (r, t) → J s → I t → I s) :
    ∀ {cs : List κ} {s t : σ} {rs : List ρ}, J s → I s → runAll step cs s = .ok (rs, t) →
      (I t ↔ Along step P cs s)
  | [], _, _, _, _, hs, hrun => by
      cases hrun
      exact iff_of_true hs trivial
  | c :: cs, s, t, rs, hJ, hs, hrun => by
      obtain ⟨r, u, rs', hc, hcs, -⟩ := runAll_cons_ok hrun
      have hJu := hkeep hc hJ
      -- what is lost at once is not regained in the rest of the run
      have hback' : ∀ {cs : List κ} {u t : σ} {rs : List ρ}, J u →
          runAll step cs u = .ok (rs, t) → I t → I u := by
        intro cs
        induction cs with
        | nil =>
            intro u t rs _ hrun ht
            cases hrun
            exact ht
        | cons c' cs ih =>
            intro u t rs hJu hrun ht
            obtain ⟨r, v, rs', hc, hcs, -⟩ := runAll_cons_ok hrun
            exact hback hc hJu (ih (hkeep hc hJu) hcs ht)
      constructor
      · intro ht
        have hu := hback' hJu hcs ht
        refine ⟨(hstep hc hJ hs).mp hu, fun r' u' hc' => ?_⟩
        rw [hc] at hc'
        cases hc'
        exact (invariant_iff_along_under hkeep hstep hback hJu hu hcs).mp ht
      · intro halong
        have hu := (hstep hc hJ hs).mpr halong.1
        exact (invariant_iff_along_under hkeep hstep hback hJu hu hcs).mpr (halong.2 r u hc)

end Runs

/-! ## Refinement -/

section Refinement

variable {σ α κ ρ ε : Type*} {step : κ → σ → Except ε (ρ × σ)} {move : α → κ → ρ → α → Prop}

/-- A run of a machine that is given by the moves it may make: a call, an answer and a state. -/
inductive MoveRun (move : α → κ → ρ → α → Prop) : α → List κ → List ρ → α → Prop
  | nil (a : α) : MoveRun move a [] [] a
  | cons {a b a' : α} {c : κ} {cs : List κ} {r : ρ} {rs : List ρ} (head : move a c r b)
      (rest : MoveRun move b cs rs a') : MoveRun move a (c :: cs) (r :: rs) a'

/-- **A machine whose every step is a move of another one refines it**: each of its runs is a run
of moves, with the same calls and answers, between the abstractions of its states. -/
theorem refines_runAll {I : σ → Prop} {f : σ → α}
    (hstep : ∀ ⦃s t : σ⦄ ⦃c : κ⦄ ⦃r : ρ⦄, I s → step c s = .ok (r, t) →
      I t ∧ move (f s) c r (f t)) {cs : List κ} :
    ∀ {s t : σ} {rs : List ρ}, I s → runAll step cs s = .ok (rs, t) →
      MoveRun move (f s) cs rs (f t) := by
  induction cs with
  | nil =>
      rintro s t rs - ⟨⟩
      exact .nil _
  | cons c cs ih =>
      intro s t rs hs hrun
      obtain ⟨r, u, rs', hc, hcs, rfl⟩ := runAll_cons_ok hrun
      obtain ⟨hu, hmove⟩ := hstep hs hc
      exact .cons hmove (ih hu hcs)

/-- An invariant of the moves holds after a run, and every answer was given where it held. -/
lemma MoveRun.always {I : α → Prop} {P : κ → Prop} {Q : κ → ρ → Prop}
    (hmove : ∀ ⦃a b : α⦄ ⦃c : κ⦄ ⦃r : ρ⦄, I a → P c → move a c r b → I b ∧ Q c r)
    {a b : α} {cs : List κ} {rs : List ρ} (h : MoveRun move a cs rs b) (ha : I a)
    (hcs : ∀ c ∈ cs, P c) : I b ∧ List.Forall₂ Q cs rs := by
  induction h with
  | nil a => exact ⟨ha, .nil⟩
  | cons head rest ih =>
      obtain ⟨hb, hq⟩ := hmove ha (hcs _ List.mem_cons_self) head
      obtain ⟨hend, hall⟩ := ih hb fun c hc => hcs c (List.mem_cons_of_mem _ hc)
      exact ⟨hend, .cons hq hall⟩

end Refinement

end Framework
