import Libhid.Parser.Offsets
import Libhid.Parser.Repeat
import Libhid.Parser.Search

/-!
# Searching by report ID and offset

A query without a path asks for a report ID, a type and an offset.  Where the sizes of the objects
are not 0 and no counter wraps, these tell the objects of a descriptor apart (`Packed.report_ne`),
and as a settled descriptor is enumerated alike again, a search finds each object delivered
(`findsAgain`).
-/

namespace Libhid

open Framework

/-- A query without a path for the place of an object. -/
structure OffsetQuery (query o : HIDData) : Prop where
  path : query.path.size = 0
  reportID : query.reportID = o.reportID
  type : query.type = o.type
  offset : query.offset = o.offset

/-- Two objects in the same place of the same report. -/
def SamePlace (o b : HIDData) : Bool :=
  b.reportID == o.reportID && b.type == o.type && b.offset == o.offset

/-- Without a path the second rule of the search is the only one. -/
lemma OffsetQuery.matches {query o : HIDData} (h : OffsetQuery query o) (b : HIDData) :
    matchesQuery query b = .ok (SamePlace o b) := by
  have hpath : ¬ query.path.size > 0 := by
    rw [h.path]
    decide
  simp only [matchesQuery, hpath, decide_false, Bool.false_and, Bool.false_eq_true, if_false,
    except_ok_bind, Bool.false_or, h.reportID, h.type, h.offset]
  rfl

section Finding

variable {abi : Abi} {bytes : List UInt8} {p p' : HIDParser} {o : HIDData}

/-- An object and one delivered before it are not in the same place, if that one has a size. -/
lemma Packed.report_ne {objects pre post : List (HIDData × ℕ)} {size : ℕ} (h : Packed objects)
    (heq : objects = pre ++ (o, size) :: post) {b : HIDData} {bsize : ℕ} (hb : (b, bsize) ∈ pre)
    (hsize : 1 ≤ bsize) : SamePlace o b = false := by
  obtain ⟨before, mid, rfl⟩ := List.append_of_mem hb
  by_contra hsame
  simp only [SamePlace, Bool.not_eq_false, Bool.and_eq_true, beq_iff_eq] at hsame
  obtain ⟨⟨hid, htype⟩, hoffset⟩ := hsame
  have hreport : b.report = o.report := Prod.ext hid htype
  have hplace := h.offset (before ++ (b, bsize) :: mid) o size post heq
  have hbplace := h.offset before b bsize (mid ++ (o, size) :: post) (by rw [heq]; simp)
  rw [bitsOf_append, bitsOf, if_pos hreport, ← hreport, ← hbplace, ← hoffset] at hplace
  omega

/-- **Every object delivered is found again by its report ID, type and offset**, by every parser
that holds the descriptor. -/
theorem findsAgain (hp : p.Holds bytes) (hp' : p'.Holds bytes)
    (hset : Settled abi false false bytes)
    (hid : ∀ o ∈ (enumerate abi (resetParser p)).1, o.reportID ≠ 0)
    (hsize : ∀ x ∈ sizedObjects abi p, 1 ≤ x.2)
    (hbits : ∀ x ∈ sizedObjects abi p, bitsOf x.1.report (sizedObjects abi p) ≤ 255)
    (ho : o ∈ (enumerate abi (resetParser p)).1) :
    ∀ query, OffsetQuery query o →
      Generator.answer (findObject abi p' query) = .ok (some o) := by
  intro query hquery
  have hpacked : Packed (sizedObjects abi p) := (FitCounters.of_total hbits).packed hid
  -- both parsers deliver the same objects
  have hsame : (enumerate abi (resetParser p')).1 = (sizedObjects abi p).map Prod.fst := by
    have hall := (alike_lockstep abi bytes).all (parser_bounded abi) (parser_bounded abi)
      (alike_resetParser hset hp hp') (resetParser_ready p) (resetParser_ready p')
    rw [sizedObjects_map]
    exact hall.1.symm
  rw [← sizedObjects_map] at ho
  obtain ⟨⟨a, size⟩, hmem, rfl⟩ := List.mem_map.mp ho
  obtain ⟨pre, post, heq⟩ := List.append_of_mem hmem
  -- the object is the first one in its place
  have hfirst : (enumerate abi (resetParser p')).1.find? (SamePlace a) = some a := by
    rw [List.find?_eq_some_iff_append]
    refine ⟨by simp [SamePlace], pre.map Prod.fst, post.map Prod.fst, ?_, fun b hb => ?_⟩
    · rw [hsame, heq, List.map_append, List.map_cons]
    · obtain ⟨⟨b, bsize⟩, hbmem, rfl⟩ := List.mem_map.mp hb
      have hbsize := hsize (b, bsize) (by rw [heq]; exact List.mem_append_left _ hbmem)
      rw [hpacked.report_ne heq hbmem hbsize]
      rfl
  unfold findObject
  rw [(parser_bounded abi).answer_find _ (resetParser_ready p'),
    Generator.firstHit_total hquery.matches,
    show ((parser abi).all (resetParser p')).1 = (enumerate abi (resetParser p')).1 from rfl,
    hfirst]

end Finding

/-- `findsAgain` for the objects of two interleaved reports. -/
theorem findsAgain_interleaved : ∃ o query, OffsetQuery query o ∧
    Generator.answer (findObject (.little .w64 true) (.holding interleaved) query) =
      .ok (some o) := by
  have hp : HIDParser.Holds (.holding interleaved) interleaved := holding_holds (by decide)
  have hset : Settled (.little .w64 true) false false interleaved :=
    .item [0x01] rfl (by decide) (by decide) <| .item [0x01] rfl (by decide) (by decide) <|
    .item [0x01] rfl (by decide) (by decide) <| .item [0x01] rfl (by decide) (by decide) <|
    .item [0x01] rfl (by decide) (by decide) <| .item [0x08] rfl (by decide) (by decide) <|
    .item [0x02] rfl (by decide) (by decide) <| .item [0x02] rfl (by decide) (by decide) <|
    .item [0x02] rfl (by decide) (by decide) <| .item [0x10] rfl (by decide) (by decide) <|
    .item [0x03] rfl (by decide) (by decide) <| .item [0x02] rfl (by decide) (by decide) <|
    .item [0x01] rfl (by decide) (by decide) <| .item [0x04] rfl (by decide) (by decide) <|
    .item [0x02] rfl (by decide) (by decide) <| .item [] rfl (by decide) (by decide) .nil
  have hids : ((enumerate (.little .w64 true) (resetParser (.holding interleaved))).1.all fun o =>
      o.reportID != 0) = true := by
    decide +kernel
  have hsizes : ((sizedObjects (.little .w64 true) (.holding interleaved)).all fun x =>
      decide (1 ≤ x.2) && decide (bitsOf x.1.report
        (sizedObjects (.little .w64 true) (.holding interleaved)) ≤ 255)) = true := by
    decide +kernel
  have hfits : ∀ x ∈ sizedObjects (.little .w64 true) (.holding interleaved), 1 ≤ x.2 ∧
      bitsOf x.1.report (sizedObjects (.little .w64 true) (.holding interleaved)) ≤ 255 := by
    intro x hx
    simpa using List.all_eq_true.mp hsizes x hx
  obtain ⟨a, b, c, heq⟩ : ∃ a b c, (enumerate (.little .w64 true)
      (resetParser (.holding interleaved))).1 = [a, b, c] :=
    List.length_eq_three.mp (by decide +kernel)
  have hquery : OffsetQuery { c with path := ⟨0, c.path.node⟩ } c := ⟨rfl, rfl, rfl, rfl⟩
  exact ⟨c, _, hquery, findsAgain hp hp hset (fun o ho => by
    simpa using List.all_eq_true.mp hids o ho) (fun x hx => (hfits x hx).1)
    (fun x hx => (hfits x hx).2) (by rw [heq]; simp) _ hquery⟩

end Libhid
