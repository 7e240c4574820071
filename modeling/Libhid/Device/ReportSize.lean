import Libhid.Parser.Offsets
import Libhid.Device.Transfers

/-!
# The size of a report

`hid_get_report_size` returns the counter that the parser was at when `FindObject` came to its
object, as it is: bits and not bytes, up to that object and not to the end of the report, and
nothing for a report without an ID.  `reportSize_iff` says when this is the length of the report
all the same.
-/

namespace Libhid

open Framework

/-- The objects up to the first one that a search lets through. -/
def upToFound (query : HIDData) : List (HIDData × ℕ) → List (HIDData × ℕ)
  | [] => []
  | x :: objects =>
      match matchesQuery query x.1 with
      | .ok true => [x]
      | _ => x :: upToFound query objects

/-- The bytes of a report as it is transferred: its ID, if it has one, and the bits of all its
objects. -/
def reportBytes (k : UInt8 × UInt8) (objects : List (HIDData × ℕ)) : ℕ :=
  (if k.1 ≠ 0 then 1 else 0) + (bitsOf k objects + 7) / 8

/-- Asked for a report, `hid_get_report_size` succeeds with the length. -/
def SizeReported (ref : Ref) (w : World) (k : UInt8 × UInt8) (len : ℕ) : Prop :=
  ∃ size w', hidGetReportSize ref k.1 k.2 w = .ok ((.success, some size), w') ∧ size.toNat = len

section Size

variable {env : Env} {w : World} {ref : Ref} {h : UsbHandle} {d : Block HIDData}
  {p : Block HIDParser} {p₀ : HIDParser} {query o : HIDData}

/-- The object a search answers with is the last one of those up to it. -/
lemma upToFound_eq {objects : List (HIDData × ℕ)}
    (hhit : Generator.firstHit (matchesQuery query) (objects.map Prod.fst) = .ok (some o)) :
    ∃ pre size post, objects = pre ++ (o, size) :: post ∧
      upToFound query objects = pre ++ [(o, size)] := by
  induction objects with
  | nil => cases hhit
  | cons x objects ih =>
      rw [List.map_cons, Generator.firstHit] at hhit
      rw [upToFound]
      rcases hx : matchesQuery query x.1 with e | _ | _ <;> rw [hx] at hhit
      · cases hhit
      · obtain ⟨pre, size, post, rfl, hup⟩ := ih hhit
        exact ⟨x :: pre, size, post, rfl, by rw [hup]; rfl⟩
      · cases hhit
        exact ⟨[], x.2, objects, rfl, rfl⟩

/-- A search that succeeds answers with the first object it lets through. -/
lemma findObject_firstHit {abi : Abi} {q : HIDParser}
    (hfind : findObject abi p₀ query = .ok (q, some o)) :
    Generator.firstHit (matchesQuery query) ((sizedObjects abi p₀).map Prod.fst) =
      .ok (some o) := by
  have hanswer := (parser_bounded abi).answer_find (matchesQuery query) (resetParser_ready p₀)
  rw [show (parser abi).find (matchesQuery query) (resetParser p₀) = findObject abi p₀ query from
    rfl, hfind, show (parser abi).all (resetParser p₀) = enumerate abi (resetParser p₀) from rfl,
    ← sizedObjects_map] at hanswer
  rcases hhit : Generator.firstHit (matchesQuery query) ((sizedObjects abi p₀).map Prod.fst) with
    e | _ | o' <;> rw [hhit] at hanswer
  · cases hanswer
  · cases hend : (enumerate abi (resetParser p₀)).2 <;> rw [hend] at hanswer <;> cases hanswer
  · cases hanswer
    rfl

/-- The parser that a search leaves has counted up to the object found. -/
lemma findObject_counter {abi : Abi} {q : HIDParser}
    (hfind : findObject abi p₀ query = .ok (q, some o)) :
    ∃ pos tab k, getReportOffset q.offsetTab q.nReport o.reportID o.type = some (pos, tab, k) ∧
      (tab.get pos).offset = sizeAfter o := by
  have hselect := findObject_select abi p₀ query
  rcases hsel : select abi p₀ query with _ | o' | last <;> rw [hsel] at hselect
  · obtain ⟨e, he⟩ := hselect
    rw [hfind] at he
    cases he
  · obtain ⟨-, q', hq', hcount⟩ := hselect
    rw [hfind] at hq'
    cases hq'
    exact hcount q.nReport
  · rw [hfind] at hselect
    cases hselect

/-- The counter in terms of the sizes recorded. -/
lemma sizeAfter_eq {abi : Abi} (hfind : Generator.firstHit (matchesQuery query)
    ((sizedObjects abi p₀).map Prod.fst) = .ok (some o)) (hid : o.reportID ≠ 0) :
    (sizeAfter o).toNat = bitsOf o.report (upToFound query (sizedObjects abi p₀)) % 256 := by
  obtain ⟨pre, size, post, heq, hup⟩ := upToFound_eq hfind
  have hload : abi.LoadsItems := by
    by_contra hload
    exact hid (sizedObjects_shifted hload heq).1
  obtain ⟨hsize, hoffset⟩ := sizedObjects_loaded hload heq
  rw [hup, bitsOf_append, bitsOf, bitsOf, if_pos rfl, sizeAfter, if_pos hid, UInt8.toNat_add,
    hoffset hid, hsize]
  omega

/-- After a search, the counter is what `hid_get_report_size` returns for the object found. -/
lemma sizeReported_iff (ha : Attached w ref h d p)
    (hfind : findObject env.abi p₀ query = .ok (p.val, some o)) (len : ℕ) :
    SizeReported ref w o.report len ↔ (sizeAfter o).toNat = len := by
  obtain ⟨pos, tab, k, hcell, hcount⟩ := findObject_counter hfind
  have hrun := hidGetReportSize_run ha o.reportID o.type
  rw [hcell] at hrun
  rw [← hcount]
  constructor
  · rintro ⟨size, w', hsize, rfl⟩
    have hsame := hrun.symm.trans hsize
    simp only [Except.ok.injEq, Prod.mk.injEq, true_and, Option.some.injEq] at hsame
    rw [hsame.1]
  · intro hlen
    exact ⟨_, _, hrun, hlen⟩

/-- The object found is one of those delivered. -/
lemma findObject_mem {abi : Abi} {q : HIDParser}
    (hfind : findObject abi p₀ query = .ok (q, some o)) :
    ∃ size, (o, size) ∈ sizedObjects abi p₀ := by
  obtain ⟨pre, size, post, heq, -⟩ := upToFound_eq (findObject_firstHit hfind)
  exact ⟨size, by rw [heq]; simp⟩

/-- **After a search, the length of the report of the object found is returned if and only if** the
bits counted up to it, modulo 256, happen to be the bytes of the whole report; without a report ID,
if the report is empty. -/
theorem reportSize_iff (ha : Attached w ref h d p)
    (hfind : findObject env.abi p₀ query = .ok (p.val, some o)) :
    SizeReported ref w o.report (reportBytes o.report (sizedObjects env.abi p₀)) ↔
      if o.reportID ≠ 0 then
        bitsOf o.report (upToFound query (sizedObjects env.abi p₀)) % 256 =
          1 + (bitsOf o.report (sizedObjects env.abi p₀) + 7) / 8
      else bitsOf o.report (sizedObjects env.abi p₀) = 0 := by
  rw [sizeReported_iff ha hfind, reportBytes]
  by_cases hid : o.reportID = 0
  · have hkey : ¬ o.report.1 ≠ 0 := not_not_intro hid
    rw [sizeAfter, if_neg (not_not_intro hid), if_neg hkey, if_neg (not_not_intro hid)]
    show 0 = 0 + _ ↔ _
    omega
  · have hkey : o.report.1 ≠ 0 := hid
    rw [sizeAfter_eq (findObject_firstHit hfind) hid, if_pos hkey, if_pos hid]

end Size

/-- A query for the first feature with the report ID and offset 0. -/
def firstFeature (reportID : UInt8) : HIDData :=
  { HIDData.zero with type := Tag.feature.code, reportID := reportID }

/-- A search that is known to answer. -/
lemma findObject_of_answer (abi : Abi) (p : HIDParser) (query : HIDData)
    (h : (Generator.answer (findObject abi p query)).map Option.isSome = .ok true) :
    ∃ q o, findObject abi p query = .ok (q, some o) := by
  rcases hf : findObject abi p query with e | ⟨q, _ | o⟩ <;> rw [hf] at h
  · cases h
  · cases h
  · exact ⟨q, o, rfl⟩

/-- A descriptor with one feature field of two bits in report 1. -/
def twoBits : List UInt8 :=
  [0x05, 0x01, 0x09, 0x01, 0xA1, 0x01, 0x85, 0x01, 0x75, 0x02, 0x95, 0x01, 0x09, 0x02, 0xB1, 0x02,
    0xC0]

/-- `reportSize_iff` for a report of two bits and as many bytes. -/
theorem reportSize_iff_bench : ∃ q o, findObject (bench []).abi (.holding twoBits)
    (firstFeature 1) = .ok (q, some o) ∧ SizeReported 0 (attached o q) o.report
      (reportBytes o.report (sizedObjects (bench []).abi (.holding twoBits))) := by
  obtain ⟨q, o, hfind⟩ := findObject_of_answer (.little .w64 true) (.holding twoBits)
    (firstFeature 1) (by decide +kernel)
  refine ⟨q, o, hfind, (@reportSize_iff (bench []) _ _ _ _ _ _ _ _ (attached_attached o q 0)
    hfind).mpr ?_⟩
  have hcounts : ((sizedObjects (.little .w64 true) (.holding twoBits)).all fun x =>
      x.1.reportID != 0 && bitsOf x.1.report (upToFound (firstFeature 1)
        (sizedObjects (.little .w64 true) (.holding twoBits))) % 256 ==
          1 + (bitsOf x.1.report (sizedObjects (.little .w64 true) (.holding twoBits)) + 7) / 8) =
      true := by
    decide +kernel
  obtain ⟨size, hmem⟩ := findObject_mem hfind
  have hboth := List.all_eq_true.mp hcounts _ hmem
  simp only [Bool.and_eq_true, bne_iff_ne, beq_iff_eq] at hboth
  rw [if_pos hboth.1]
  exact hboth.2

/-- Not every search is followed by the length of the report: without a report ID it is 0. -/
theorem reportSize_fails : ¬ ∀ (env : Env) (w : World) (ref : Ref) (h : UsbHandle)
    (d : Block HIDData) (p : Block HIDParser) (p₀ : HIDParser) (query o : HIDData),
    Attached w ref h d p → findObject env.abi p₀ query = .ok (p.val, some o) →
    SizeReported ref w o.report (reportBytes o.report (sizedObjects env.abi p₀)) := by
  intro hall
  obtain ⟨q, o, hfind⟩ := findObject_of_answer (.little .w64 true) (.holding oneField)
    (firstFeature 0) (by decide +kernel)
  have hreported := hall (bench []) (attached o q) 0 _ _ _ (.holding oneField) (firstFeature 0) o
    (attached_attached o q 0) hfind
  rw [@sizeReported_iff (bench []) _ _ _ _ _ _ _ _ (attached_attached o q 0) hfind] at hreported
  have hcounts : ((sizedObjects (.little .w64 true) (.holding oneField)).all fun x =>
      x.1.reportID == 0 && reportBytes x.1.report
        (sizedObjects (.little .w64 true) (.holding oneField)) == 1) = true := by
    decide +kernel
  obtain ⟨n, hmem⟩ := findObject_mem hfind
  have hboth := List.all_eq_true.mp hcounts _ hmem
  simp only [Bool.and_eq_true, beq_iff_eq] at hboth
  have hbytes : reportBytes o.report (sizedObjects (bench []).abi (.holding oneField)) = 1 :=
    hboth.2
  rw [sizeAfter, if_neg (not_not_intro hboth.1), hbytes] at hreported
  exact absurd hreported (by decide)

end Libhid
