import Libhid.Device.Opening
import Libhid.Parser.Search
import Libhid.Parser.Values

/-!
# Lookup by path

`hid_find_object` on an open interface, as the functions of `src/hid_exchange.c` call it:
`hidFindObject_eq` reduces it to the search of the parser, and `lookup_iff` says when the object it
finds is the one its path asks for.
-/

namespace Libhid

open Framework

/-! ## Preparing a path -/

lemma writePath_ok : ∀ (path : List ℤ) (node : Vector HIDNode pathSize) (i : ℕ),
    i + path.length ≤ pathSize → ∃ node', writePath node i path = .ok node' ∧
      node'.toList.take (i + path.length) = node.toList.take i ++ path.map pathNode
  | [], node, i, _ => ⟨node, rfl, by simp⟩
  | element :: path, node, i, h => by
      have hi : i < pathSize := by
        simp at h
        omega
      obtain ⟨node', hw, htake⟩ := writePath_ok path
        (node.set i (pathNode element)) (i + 1) (by simp at h; omega)
      refine ⟨node', by rw [writePath, dif_pos hi, hw], ?_⟩
      have hset : (node.set i (pathNode element)).toList.take (i + 1) =
          node.toList.take i ++ [pathNode element] := by
        rw [Vector.toList_set, List.take_succ_eq_append_getElem (by simpa using hi),
          List.take_set_of_le (Nat.le_refl i), List.getElem_set_self]
      rw [List.length_cons, show i + (path.length + 1) = i + 1 + path.length by omega, htake, hset,
        List.append_assoc]
      rfl

/-- The depth of a path that fits is not cut. -/
lemma uchar_depth {n : ℕ} (h : n ≤ pathSize) : (uchar n).toNat = n := by
  rw [uchar_natCast, UInt8.toNat_ofNat']
  exact Nat.mod_eq_of_lt (Nat.lt_of_le_of_lt h (by decide))

/-- A path within the limits is a query for its nodes. -/
lemma hidPrepareParsePath_ok {data : HIDData} {path : List ℤ} (hne : path ≠ [])
    (hle : path.length ≤ pathSize) (hid : data.reportID = 0) :
    ∃ query, hidPrepareParsePath data path = .ok query ∧ PathQuery query (path.map pathNode) ∧
      query.type = data.type ∧ query.offset = data.offset := by
  obtain ⟨node, hw, htake⟩ := writePath_ok path data.path.node 0 (by omega)
  have hsize := uchar_depth hle
  refine ⟨{ data with path := ⟨uchar path.length, node⟩ }, ?_, ⟨?_, ?_, ?_, ?_, hid⟩, rfl, rfl⟩
  · rw [hidPrepareParsePath, hw]
    rfl
  · simpa using hsize
  · simpa using hne
  · simpa using hle
  · simp only [HIDPath.nodes, hsize]
    simpa using htake

/-! ## `hid_find_object` -/

/-- An interface that is open and prepared, with its blocks. -/
structure Attached (w : World) (ref : Ref) (h : UsbHandle) (d : Block HIDData)
    (p : Block HIDParser) : Prop where
  devHandle : (w.hidifs ref).devHandle = some h
  hidData : (w.hidifs ref).hidData = some d
  hidParser : (w.hidifs ref).hidParser = some p

/-- The state after the blocks of an interface were written. -/
def World.store (w : World) (ref : Ref) (d : Block HIDData) (p : Block HIDParser)
    (data : HIDData) (parser : HIDParser) : World :=
  w.write ref { w.hidifs ref with
    hidParser := some { p with val := parser }
    hidData := some { d with val := data } }

/-- The state after a block was allocated for a warning, and freed. -/
def World.afterWarning (env : Env) (w : World) : World :=
  let b : Option (Block Unit) := if env.malloc w.log.length then some ⟨w.log.length, ()⟩ else none
  let w := w.record (.malloc (b.map Block.addr))
  match b with
  | none => w
  | some b => w.record (.free b.addr)

section Lookup

variable {env : Env} {w : World} {ref : Ref} {h : UsbHandle} {d : Block HIDData}
  {p : Block HIDParser}

lemma Attached.isOpened (ha : Attached w ref h d p) : (w.hidifs ref).isOpened = true := by
  rw [HIDInterface.isOpened, ha.devHandle]
  rfl

lemma Attached.store (ha : Attached w ref h d p) (data : HIDData) (parser : HIDParser) :
    Attached (w.store ref d p data parser) ref h { d with val := data }
      { p with val := parser } := by
  refine ⟨?_, ?_, ?_⟩ <;> rw [World.store, World.write_same]
  exact ha.devHandle

lemma warn_run (path : List ℤ) (w : World) :
    (do
      let buffer ← malloc env fun _ => ()
      if ¬ env.WarningFits buffer.isSome path then stop .warning else
      free buffer
      pure .notFound : Hid HidReturn) w =
        if env.WarningFits (env.malloc w.log.length) path then .ok (.notFound, w.afterWarning env)
        else .error .warning := by
  unfold malloc World.afterWarning
  rw [callOut_bind]
  cases env.malloc w.log.length with
  | false =>
      simp only [Bool.false_eq_true, if_false, Option.isSome_none, ite_not]
      split_ifs <;> rfl
  | true =>
      simp only [if_true, Option.isSome_some, ite_not]
      split_ifs <;> rfl

/-- Without a block nothing is formatted. -/
lemma warningFits_none (env : Env) (path : List ℤ) : env.WarningFits false path := by
  intro s hs
  cases hs

/-- `hid_find_object` reduced to the search of the parser. -/
lemma hidFindObject_eq (env : Env) (ha : Attached w ref h d p) {path : List ℤ} {query : HIDData}
    (hq : hidPrepareParsePath d.val path = .ok query) :
    hidFindObject env ref path w =
      match findObject env.abi p.val query with
      | .error e => .error e
      | .ok (parser, some o) => .ok (.success, w.store ref d p o parser)
      | .ok (parser, none) =>
          if env.WarningFits (env.malloc w.log.length) path then
            .ok (.notFound, (w.store ref d p query parser).afterWarning env)
          else .error .warning := by
  simp only [hidFindObject, deref_bind, ha.isOpened, ha.hidData, ha.hidParser, Bool.not_true,
    Bool.false_eq_true, if_false, nonNull_some, pure_bind, hq, lift_ok_bind]
  rcases hf : findObject env.abi p.val query with e | ⟨parser, _ | o⟩
  · rw [lift_error_bind]
  · rw [lift_ok_bind]
    simp only [assign_bind, Option.isSome_none, Bool.false_eq_true, if_false]
    exact warn_run path _
  · rw [lift_ok_bind]
    simp only [assign_bind, Option.isSome_some, if_true]
    rfl

/-- A path that does not fit stops `hid_find_object`. -/
lemma hidFindObject_error (ha : Attached w ref h d p) {path : List ℤ} {e : Stop}
    (hq : hidPrepareParsePath d.val path = .error e) :
    hidFindObject env ref path w = .error e := by
  simp only [hidFindObject, deref_bind, ha.isOpened, ha.hidData, Bool.not_true,
    Bool.false_eq_true, if_false, nonNull_some, pure_bind, hq, lift_error_bind]

end Lookup

/-! ## Which object is found -/

/-- `hid_find_object` succeeds if and only if the enumeration of the descriptor has an object of the
type whose path begins with the one asked for, and `hid_data` then is the first such object. -/
def FindsFirst (env : Env) (w : World) (ref : Ref) (type : UInt8) (path : List ℤ)
    (objects : List HIDData) : Prop :=
  match objects.find? (Begins type (path.map pathNode)) with
  | some o => ∃ w' b, hidFindObject env ref path w = .ok (.success, w') ∧
      (w'.hidifs ref).hidData = some b ∧ b.val = o
  | none => ∀ w', hidFindObject env ref path w ≠ .ok (.success, w')

lemma FindsFirst.missed {env : Env} {w : World} {ref : Ref} {type : UInt8} {path : List ℤ}
    {objects : List HIDData} (h : FindsFirst env w ref type path objects)
    (hnone : objects.find? (Begins type (path.map pathNode)) = none) :
    ∀ w', hidFindObject env ref path w ≠ .ok (.success, w') := by
  rw [FindsFirst, hnone] at h
  exact h

/-- **A lookup finds the object its path asks for exactly when no object before it passes a rule
of the search by accident.** -/
theorem lookup_iff {env : Env} {w : World} {ref : Ref} {h : UsbHandle} {d : Block HIDData}
    {p : Block HIDParser} {path : List ℤ} (ha : Attached w ref h d p) (hne : path ≠ [])
    (hle : path.length ≤ pathSize) (hid : d.val.reportID = 0) :
    FindsFirst env w ref d.val.type path (enumerate env.abi (resetParser p.val)).1 ↔
      NoAccident d.val.type (path.map pathNode) d.val.offset
        (enumerate env.abi (resetParser p.val)).1 := by
  obtain ⟨query, hq, hpq, htype, hoffset⟩ := hidPrepareParsePath_ok hne hle hid
  have hanswer := hpq.answer env.abi p.val
  rw [htype, hoffset] at hanswer
  rw [← find_eq_find_iff]
  have heq := hidFindObject_eq env ha hq
  unfold FindsFirst
  generalize (enumerate env.abi (resetParser p.val)).1 = objects at *
  generalize (enumerate env.abi (resetParser p.val)).2 = out at *
  -- what passes one of the two rules first is what the lookup stores
  have hstored : ∀ o, objects.find? (fun o => Begins d.val.type (path.map pathNode) o ||
      Accident d.val.type (path.map pathNode) d.val.offset o) = some o →
      ∃ parser, hidFindObject env ref path w = .ok (.success, w.store ref d p o parser) := by
    intro o ho
    rw [ho] at hanswer
    rcases hf : findObject env.abi p.val query with e | ⟨parser, _ | o'⟩ <;>
      rw [hf] at hanswer heq <;> cases hanswer
    exact ⟨parser, heq⟩
  have hmissed : objects.find? (fun o => Begins d.val.type (path.map pathNode) o ||
      Accident d.val.type (path.map pathNode) d.val.offset o) = none →
      ∀ w', hidFindObject env ref path w ≠ .ok (.success, w') := by
    intro ho w'
    rw [ho] at hanswer
    rcases hf : findObject env.abi p.val query with e | ⟨parser, _ | o'⟩ <;>
      rw [hf] at hanswer heq
    · simp [heq]
    · rw [heq]
      dsimp only
      split_ifs <;> simp
    · cases out <;> cases hanswer
  have hdata : ∀ o parser, ((w.store ref d p o parser).hidifs ref).hidData =
      some { d with val := o } := by
    intro o parser
    rw [World.store, World.write_same]
  cases hg : objects.find? (Begins d.val.type (path.map pathNode)) with
  | none =>
      cases hr : objects.find? (fun o => Begins d.val.type (path.map pathNode) o ||
          Accident d.val.type (path.map pathNode) d.val.offset o) with
      | none => exact iff_of_true (hmissed hr) rfl
      | some o =>
          obtain ⟨parser, hrun⟩ := hstored o hr
          exact iff_of_false (fun hall => hall _ hrun) (by simp)
  | some g =>
      cases hr : objects.find? (fun o => Begins d.val.type (path.map pathNode) o ||
          Accident d.val.type (path.map pathNode) d.val.offset o) with
      | none =>
          refine iff_of_false ?_ (by simp)
          rintro ⟨w', b, hrun, -⟩
          exact hmissed hr w' hrun
      | some o =>
          obtain ⟨parser, hrun⟩ := hstored o hr
          simp only [hrun, Except.ok.injEq, Prod.mk.injEq, true_and, Option.some.injEq]
          constructor
          · rintro ⟨w', b, rfl, hb, rfl⟩
            rw [hdata, Option.some.injEq] at hb
            rw [← hb]
          · rintro rfl
            exact ⟨_, _, rfl, hdata o parser, rfl⟩

/-! ## On the bench -/

/-- A state in which every interface is open on one device, with the given blocks. -/
def attached (data : HIDData) (parser : HIDParser) : World where
  initialised := true
  openHidDeviceList := ⟨0, Vector.replicate maxOpenDevices none⟩
  hidifs _ := {
    devHandle := some ⟨0, benchDevice 4⟩
    device := some (benchDevice 4)
    interface := 0
    id := ""
    hidData := some ⟨1, data⟩
    hidParser := some ⟨2, parser⟩ }
  log := []

lemma attached_attached (data : HIDData) (parser : HIDParser) (ref : Ref) :
    Attached (attached data parser) ref ⟨0, benchDevice 4⟩ ⟨1, data⟩ ⟨2, parser⟩ := ⟨rfl, rfl, rfl⟩

/-- A descriptor with one feature field of 8 bits and without a report ID, on the path
`00010001.00010002`. -/
def oneField : List UInt8 :=
  [0x05, 0x01, 0x09, 0x01, 0xA1, 0x01, 0x75, 0x08, 0x95, 0x01, 0x09, 0x02, 0xB1, 0x02, 0xC0]

/-- `hid_data` as the exchange functions leave it for a feature. -/
def featureQuery : HIDData := { HIDData.zero with type := Tag.feature.code }

/-- `lookup_iff` for the path of the only field. -/
theorem lookup_iff_bench : FindsFirst (bench []) (attached featureQuery (.holding oneField)) 0
    Tag.feature.code [0x00010001, 0x00010002]
    (enumerate (.little .w64 true) (resetParser (.holding oneField))).1 := by
  have hnone : ((enumerate (.little .w64 true) (resetParser (.holding oneField))).1.all fun o =>
      !Accident Tag.feature.code ([0x00010001, 0x00010002].map pathNode) 0 o) = true := by
    decide +kernel
  refine (lookup_iff (attached_attached featureQuery (.holding oneField) 0) (by decide) (by decide)
    rfl).mpr ?_
  intro pre o post heq hacc
  have hmem : o ∈ (enumerate (.little .w64 true) (resetParser (.holding oneField))).1 := by
    rw [show (enumerate (.little .w64 true) (resetParser (.holding oneField))).1 =
      pre ++ o :: post from heq]
    simp
  have hno := List.all_eq_true.mp hnone o hmem
  rw [show Accident Tag.feature.code _ 0 o = true from hacc] at hno
  cases hno

/-- A lookup does not find what its path asks for in every state: the path `00010005` leads to the
field on `00010001.00010002`, which has report ID 0 and the offset left over in `hid_data`. -/
theorem lookup_fails : ¬ ∀ (env : Env) (w : World) (ref : Ref) (h : UsbHandle) (d : Block HIDData)
    (p : Block HIDParser) (path : List ℤ), Attached w ref h d p → path ≠ [] →
    path.length ≤ pathSize → d.val.reportID = 0 →
    d.val.type ∈ [Tag.input.code, Tag.output.code, Tag.feature.code] →
    FindsFirst env w ref d.val.type path (enumerate env.abi (resetParser p.val)).1 := by
  intro hall
  have ha := attached_attached featureQuery (.holding oneField) 0
  have hfirst := hall (bench []) _ 0 _ _ _ [0x00010005] ha (by decide) (by decide) rfl (by decide)
  -- nothing begins with the path, and yet the search answers
  have hnone : (enumerate (.little .w64 true) (resetParser (.holding oneField))).1.find?
      (Begins Tag.feature.code ([0x00010005].map pathNode)) = none := by
    decide +kernel
  obtain ⟨query, hq⟩ : ∃ query, hidPrepareParsePath featureQuery [0x00010005] = .ok query :=
    ⟨_, rfl⟩
  have hsome : (Generator.answer (findObject (.little .w64 true) (.holding oneField) query)).map
      Option.isSome = .ok true := by
    cases hq
    decide +kernel
  have heq := hidFindObject_eq (bench []) ha hq
  rcases hf : findObject (.little .w64 true) (.holding oneField) query with e | ⟨parser, _ | o⟩ <;>
    rw [hf] at hsome
  · cases hsome
  · cases hsome
  · rw [show findObject (bench []).abi (HIDParser.holding oneField) query = .ok (parser, some o)
      from hf] at heq
    exact hfirst.missed hnone _ heq

end Libhid
