import Libhid.Device.Lookup

/-!
# Claiming an interface from the kernel (`src/linux.c`)

`hid_os_force_claim` on Linux claims the interface, and as long as that fails and retries are left,
detaches the driver of the kernel and claims it again.  `Retried` are the histories of calls and
outcomes such a loop can have; the loop has one of them (`forceClaimLoop_retried`), and what is
promised of the loop is read off it (`Retried.bounded`).
-/

namespace Libhid

open Framework

/-! ## Histories -/

/-- A call of the loop, with its outcome. -/
inductive Attempt
  /-- `usb_claim_interface`. -/
  | claim (ret : ℤ)
  /-- `usb_detach_kernel_driver_np`. -/
  | detach (ret : ℤ)

/-- The outcomes of the claims. -/
def claims : List Attempt → List ℤ
  | [] => []
  | .claim ret :: calls => ret :: claims calls
  | .detach _ :: calls => claims calls

/-- The outcomes of the detaches. -/
def detaches : List Attempt → List ℤ
  | [] => []
  | .claim _ :: calls => detaches calls
  | .detach ret :: calls => ret :: detaches calls

/-- The histories of a loop with the given number of retries, with what it returns. -/
inductive Retried : ℕ → List Attempt → HidReturn → Prop
  | claimed {k : ℕ} : Retried k [.claim 0] .success
  | spent {c : ℤ} (hc : c ≠ 0) : Retried 0 [.claim c] .failClaimIface
  | stuck {k : ℕ} {c d : ℤ} (hc : c ≠ 0) (hd : d < 0) :
      Retried (k + 1) [.claim c, .detach d] .failDetachDriver
  | again {k : ℕ} {c d : ℤ} {calls : List Attempt} {ret : HidReturn} (hc : c ≠ 0) (hd : 0 ≤ d)
      (rest : Retried k calls ret) : Retried (k + 1) (.claim c :: .detach d :: calls) ret

/-- What is promised of a loop with the given number of retries. -/
structure ClaimsWithin (retries : ℕ) (calls : List Attempt) (ret : HidReturn) : Prop where
  claims_le : (claims calls).length ≤ retries + 1
  detaches_le : (detaches calls).length ≤ retries
  /-- A detach directly follows a claim that failed. -/
  afterFailure : ∀ pre d post, calls = pre ++ .detach d :: post →
    ∃ before c, pre = before ++ [.claim c] ∧ c ≠ 0
  /-- Nothing follows a claim that succeeded. -/
  afterSuccess : ∀ pre post, calls = pre ++ .claim 0 :: post → post = []
  success : ret = .success ↔ (claims calls).getLast? = some 0
  failDetachDriver : ret = .failDetachDriver ↔ ∃ d ∈ detaches calls, d < 0
  failClaimIface : ret = .failClaimIface ↔
    (claims calls).length = retries + 1 ∧ ∀ c ∈ claims calls, c ≠ 0

section Histories

variable {k : ℕ} {calls : List Attempt} {ret : HidReturn}

lemma Retried.claims_ne_nil (h : Retried k calls ret) : claims calls ≠ [] := by
  cases h <;> exact List.cons_ne_nil _ _

/-- The claim before a detach, one round further. -/
lemma precedes_again {c d e : ℤ} {pre post : List Attempt} (hc : c ≠ 0)
    (heq : Attempt.claim c :: .detach d :: calls = pre ++ .detach e :: post)
    (ih : ∀ pre e post, calls = pre ++ .detach e :: post →
      ∃ before c, pre = before ++ [.claim c] ∧ c ≠ 0) :
    ∃ before c, pre = before ++ [.claim c] ∧ c ≠ 0 := by
  match pre with
  | [] => cases heq
  | [a] =>
      cases heq
      exact ⟨[], c, rfl, hc⟩
  | _ :: _ :: pre =>
      cases heq
      obtain ⟨before, c', rfl, hc'⟩ := ih pre e post rfl
      exact ⟨.claim c :: .detach d :: before, c', rfl, hc'⟩

/-- **A history of the loop keeps what is promised.** -/
theorem Retried.bounded (h : Retried k calls ret) : ClaimsWithin k calls ret := by
  induction h with
  | @claimed k =>
      refine ⟨Nat.le_add_left 1 k, Nat.zero_le k, fun pre d post heq => ?_, fun pre post heq => ?_,
        by simp [claims], by simp [detaches], by simp [claims]⟩
      · rcases pre with _ | ⟨a, _ | ⟨b, pre⟩⟩ <;> cases heq
      · rcases pre with _ | ⟨a, _ | ⟨b, pre⟩⟩ <;> cases heq
        rfl
  | @spent c hc =>
      refine ⟨Nat.le_refl 1, Nat.le_refl 0, fun pre d post heq => ?_, fun pre post heq => ?_,
        by simp [claims, hc], by simp [detaches], by simp [claims, hc]⟩
      · rcases pre with _ | ⟨a, _ | ⟨b, pre⟩⟩ <;> cases heq
      · rcases pre with _ | ⟨a, _ | ⟨b, pre⟩⟩ <;> cases heq
        rfl
  | @stuck k c d hc hd =>
      refine ⟨Nat.le_add_left 1 _, Nat.le_add_left 1 k, fun pre e post heq => ?_,
        fun pre post heq => ?_, by simp [claims, hc], by simp [detaches, hd], by simp [claims]⟩
      · exact precedes_again hc heq fun pre e post heq => by cases pre <;> cases heq
      · rcases pre with _ | ⟨a, _ | ⟨b, pre⟩⟩
        · cases heq
          exact absurd rfl hc
        · cases heq
        · cases pre <;> cases heq
  | @again k c d calls ret hc hd rest ih =>
      have hlast : (claims (.claim c :: .detach d :: calls)).getLast? =
          (claims calls).getLast? := by
        obtain ⟨e, es, hes⟩ := List.exists_cons_of_ne_nil rest.claims_ne_nil
        simp [claims, hes]
      have hlen : (claims (.claim c :: .detach d :: calls)).length =
          (claims calls).length + 1 := rfl
      refine ⟨?_, ?_, fun pre e post heq => precedes_again hc heq ih.afterFailure,
        fun pre post heq => ?_, ?_, ?_, ?_⟩
      · exact Nat.succ_le_succ ih.claims_le
      · exact Nat.succ_le_succ ih.detaches_le
      · rcases pre with _ | ⟨a, _ | ⟨b, pre⟩⟩
        · cases heq
          exact absurd rfl hc
        · cases heq
        · cases heq
          exact ih.afterSuccess pre post rfl
      · rw [hlast]
        exact ih.success
      · rw [ih.failDetachDriver]
        simp [detaches, Int.not_lt.mpr hd]
      · rw [ih.failClaimIface, hlen, Nat.add_right_cancel_iff]
        simp [claims, hc]

end Histories

/-! ## The loop -/

/-- The call out of the library. -/
def Attempt.event (dev : Option UsbHandle) (interface : ℤ) : Attempt → Event
  | .claim _ => .usbClaimInterface dev interface
  | .detach _ => .usbDetachKernelDriver dev interface

/-- The outcome is the one the call has at a time. -/
def Attempt.At (env : Env) (t : ℕ) : Attempt → Prop
  | .claim ret => ret = env.usbClaimInterface t
  | .detach ret => ret = env.usbDetachKernelDriver t

/-- The calls made between `w` and `u`, in their order, and nothing else. -/
structure Makes (env : Env) (dev : Option UsbHandle) (interface : ℤ) (calls : List Attempt)
    (w u : World) : Prop where
  eq : u = { w with log := (calls.map (Attempt.event dev interface)).reverse ++ w.log }
  outcome : ∀ j (hj : j < calls.length), (calls[j]).At env (w.log.length + j)

section Loop

variable {env : Env} {dev : Option UsbHandle} {i : ℤ} {w u : World} {calls : List Attempt}
  {ret : HidReturn}

lemma Makes.nil : Makes env dev i [] w w := ⟨rfl, fun j hj => absurd hj (Nat.not_lt_zero j)⟩

lemma Makes.cons {a : Attempt} (h : Makes env dev i calls (w.record (a.event dev i)) u)
    (ha : a.At env w.log.length) : Makes env dev i (a :: calls) w u := by
  refine ⟨?_, fun j hj => ?_⟩
  · rw [h.eq, List.map_cons, List.reverse_cons, List.append_assoc]
    rfl
  · cases j with
    | zero => exact ha
    | succ j =>
        have hrest := h.outcome j (Nat.lt_of_succ_lt_succ hj)
        rwa [World.record_log, List.length_cons, Nat.add_assoc, Nat.add_comm 1 j] at hrest

lemma Makes.claim (h : Makes env dev i calls (w.record (.usbClaimInterface dev i)) u) :
    Makes env dev i (.claim (env.usbClaimInterface w.log.length) :: calls) w u := h.cons rfl

lemma Makes.detach (h : Makes env dev i calls (w.record (.usbDetachKernelDriver dev i)) u) :
    Makes env dev i (.detach (env.usbDetachKernelDriver w.log.length) :: calls) w u := h.cons rfl

/-- **The loop ends, and its calls are a history of it.** -/
lemma forceClaimLoop_retried (env : Env) (dev : Option UsbHandle) (i : ℤ) (k : ℕ) (w : World) :
    ∃ ret u calls, forceClaimLoop env dev i k w = .ok (ret, u) ∧ Makes env dev i calls w u ∧
      Retried k calls ret := by
  induction k generalizing w with
  | zero =>
      refine ⟨_, _, _, rfl, .claim .nil, ?_⟩
      by_cases hc : env.usbClaimInterface w.log.length = 0
      · rw [if_pos hc, hc]
        exact .claimed
      · rw [if_neg hc]
        exact .spent hc
  | succ k ih =>
      have hrun : forceClaimLoop env dev i (k + 1) w =
          (if env.usbClaimInterface w.log.length = 0 then pure .success
          else usbDetachKernelDriver env dev i >>= fun detached =>
            if detached < 0 then pure .failDetachDriver else forceClaimLoop env dev i k)
          (w.record (.usbClaimInterface dev i)) := rfl
      rw [hrun]
      by_cases hc : env.usbClaimInterface w.log.length = 0
      · rw [if_pos hc]
        refine ⟨_, _, _, rfl, .claim .nil, ?_⟩
        rw [hc]
        exact .claimed
      · rw [if_neg hc, usbDetachKernelDriver, callOut_bind]
        by_cases hd : env.usbDetachKernelDriver (w.record (.usbClaimInterface dev i)).log.length < 0
        · rw [if_pos hd]
          exact ⟨_, _, _, rfl, .claim (.detach .nil), .stuck hc hd⟩
        · rw [if_neg hd]
          obtain ⟨ret, u, calls, hrest, hmakes, hretried⟩ := ih
            ((w.record (.usbClaimInterface dev i)).record (.usbDetachKernelDriver dev i))
          exact ⟨ret, u, _, hrest, .claim (.detach hmakes), .again hc (Int.not_lt.mp hd) hretried⟩

/-- **The Linux `hid_os_force_claim` on an open interface** makes the calls of a history of the
loop, and so keeps what is promised. -/
theorem hidOsForceClaim_within {ref : Ref} (hos : env.os = .linux)
    (hopen : (w.hidifs ref).isOpened = true) (i : ℤ) (retries : UInt16) :
    ∃ ret u calls, hidOsForceClaim env ref i retries w = .ok (ret, u) ∧
      Makes env (w.hidifs ref).devHandle i calls w u ∧ Retried retries.toNat calls ret ∧
      ClaimsWithin retries.toNat calls ret := by
  obtain ⟨ret, u, calls, hrun, hmakes, hretried⟩ :=
    forceClaimLoop_retried env (w.hidifs ref).devHandle i retries.toNat w
  refine ⟨ret, u, calls, ?_, hmakes, hretried, hretried.bounded⟩
  simp only [hidOsForceClaim, deref_bind, hopen, Bool.not_true, Bool.false_eq_true, if_false, hos]
  exact hrun

end Loop

/-- A bench on which the interface is busy at first. -/
def busyBench : Env := { bench [] with usbClaimInterface := fun t => if t = 0 then -16 else 0 }

/-- `hidOsForceClaim_within` with one retry, which is used: a claim, a detach and a claim. -/
theorem hidOsForceClaim_within_bench : ∃ ret u calls,
    hidOsForceClaim busyBench 0 0 1 (attached .zero .zero) = .ok (ret, u) ∧
      Makes busyBench ((attached .zero .zero).hidifs 0).devHandle 0 calls (attached .zero .zero) u ∧
      calls.length = 3 ∧ Retried 1 calls ret ∧ ClaimsWithin 1 calls ret := by
  obtain ⟨ret, u, calls, hrun, hmakes, hretried, hwithin⟩ :=
    @hidOsForceClaim_within busyBench (attached .zero .zero) 0 rfl rfl 0 1
  have hlog : (hidOsForceClaim busyBench 0 0 1 (attached .zero .zero)).map
      (fun r => r.2.log.length) = .ok ((attached .zero .zero).log.length + 3) := rfl
  refine ⟨ret, u, calls, hrun, hmakes, ?_, hretried, hwithin⟩
  rw [hrun, hmakes.eq] at hlog
  have hlen := Except.ok.inj hlog
  simp only [List.length_append, List.length_reverse, List.length_map] at hlen
  omega

end Libhid
