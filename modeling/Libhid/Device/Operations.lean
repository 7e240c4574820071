import Libhid.Device.Calls
import Libhid.Parser.Holding

/-!
# What the functions on an open interface do

One description, `Operates`, covers the exchange functions, the interrupt functions,
`hid_set_idle` and `hid_dump_tree`: they make transfers through the handle of their interface only,
keep its blocks and the descriptor its parser holds, and free every block they allocate.  The
functions that open and close interfaces move blocks between the allocator and the interface, and
keep the books as well (`call_kept`).
-/

namespace Libhid

open Framework

/-- The calls a function on an open interface makes: transfers through its handle, and blocks. -/
def Event.Uses (dev : Option UsbHandle) : Event → Prop
  | .usbControlMsg msg _ => msg.dev = dev
  | .usbInterruptRead d _ _ _ _ | .usbInterruptWrite d _ _ _ _ => d = dev
  | .malloc _ | .free _ => True
  | _ => False

/-- The parser of an interface holds the descriptor. -/
def World.Parses (w : World) (ref : Ref) (bytes : List UInt8) : Prop :=
  ∃ p, (w.hidifs ref).hidParser = some p ∧ p.val.Holds bytes

/-- A step that keeps the books of the blocks. -/
abbrev BlocksKept (w u : World) : Prop := Transacts blocks id w.log w.block u.log u.block

/-- From `w` to `u` a function worked on the open interface `ref`. -/
structure Operates (ref : Ref) (w u : World) : Prop where
  works : Works (Event.Uses (w.hidifs ref).devHandle) ref w u
  books : BlocksKept w u
  parses : ∀ bytes, w.Parses ref bytes → u.Parses ref bytes

section Operates

variable {env : Env} {ref : Ref} {w u v : World} {ret : HidReturn} {path : List ℤ}
  {bytes : List UInt8}

lemma World.Parses.write {hidif : HIDInterface} {p : Block HIDParser}
    (hp : hidif.hidParser = some p) (h : p.val.Holds bytes) :
    (w.write ref hidif).Parses ref bytes := by
  refine ⟨p, ?_, h⟩
  rw [World.write_same, hp]

namespace Operates

lemma refl (ref : Ref) (w : World) : Operates ref w w :=
  ⟨.refl _ ref w, .refl _ _ _ _, fun _ h => h⟩

lemma trans (h : Operates ref w u) (h' : Operates ref u v) : Operates ref w v := by
  have hworks := h'.works
  rw [h.works.devHandle] at hworks
  exact ⟨h.works.trans hworks, h.books.trans h'.books,
    fun bytes hb => h'.parses bytes (h.parses bytes hb)⟩

/-- A step that makes no call. -/
lemma of_works (h : Works (fun _ => False) ref w u)
    (hp : ∀ bytes, w.Parses ref bytes → u.Parses ref bytes) : Operates ref w u := by
  refine ⟨⟨h.initialised, h.list, h.others, h.devHandle, h.device, h.interface, h.block,
    h.log.mono fun _ he => he.elim⟩, ?_, hp⟩
  obtain ⟨es, hes, hno⟩ := h.log
  have hnil : es = [] := List.eq_nil_iff_forall_not_mem.mpr hno
  rw [BlocksKept, hes, hnil, h.block]
  exact .refl _ _ _ _

/-- A transfer. -/
lemma record {e : Event} (he : e.Uses (w.hidifs ref).devHandle) (hn : blocks.Neutral e) :
    Operates ref w (w.record e) :=
  ⟨.record he, Transacts.skip hn, fun _ h => h⟩

lemma controlMsg {msg : ControlMsg} (hmsg : msg.dev = (w.hidifs ref).devHandle) (len : ℤ) :
    Operates ref w (w.record (.usbControlMsg msg len)) := .record hmsg ⟨rfl, rfl⟩

lemma storeParser {p : Block HIDParser} (hp : (w.hidifs ref).hidParser = some p)
    {parser : HIDParser} (h : ∀ bytes, p.val.Holds bytes → parser.Holds bytes) :
    Operates ref w (w.write ref { w.hidifs ref with
      hidParser := some { p with val := parser } }) := by
  refine .of_works (.storeParser hp parser) fun bytes hb => ?_
  obtain ⟨p', hp', hholds⟩ := hb
  rw [hp] at hp'
  cases hp'
  exact .write rfl (h bytes hholds)

lemma storeData {d : Block HIDData} (hd : (w.hidifs ref).hidData = some d) (data : HIDData) :
    Operates ref w (w.write ref { w.hidifs ref with
      hidData := some { d with val := data } }) := by
  refine .of_works (.storeData hd data) fun bytes hb => ?_
  obtain ⟨p, hp, hholds⟩ := hb
  exact .write hp hholds

end Operates

/-! ## Lookups -/

/-- The block of the warning is freed as soon as it is allocated. -/
lemma afterWarning_operates (env : Env) (ref : Ref) (w : World) :
    Operates ref w (w.afterWarning env) := by
  unfold World.afterWarning
  cases env.malloc w.log.length with
  | false => exact .record trivial ⟨rfl, rfl⟩
  | true =>
      refine ⟨(Works.record (e := .malloc (some w.log.length)) trivial).trans (.record trivial),
        ?_, fun _ h => h⟩
      exact .temporary (r := w.log.length) rfl rfl rfl

lemma hidFindObject_operates (h : hidFindObject env ref path w = .ok (ret, u)) :
    Operates ref w u := by
  simp only [hidFindObject, deref_bind] at h
  split_ifs at h
  · cases h
    exact .refl ref w
  · obtain ⟨d, w₁, hd, h⟩ := state_bind_ok.mp h
    obtain ⟨hdata, rfl⟩ := nonNull_ok hd
    obtain ⟨query, w₂, hl, h⟩ := state_bind_ok.mp h
    obtain ⟨-, rfl⟩ := lift_ok hl
    obtain ⟨p, w₃, hp, h⟩ := state_bind_ok.mp h
    obtain ⟨hparser, rfl⟩ := nonNull_ok hp
    obtain ⟨⟨parser, object⟩, w₄, hf, h⟩ := state_bind_ok.mp h
    obtain ⟨hfind, rfl⟩ := lift_ok hf
    rw [assign_bind] at h
    have hstore : Operates ref w (w.store ref d p (object.getD query) parser) := by
      have hp := Operates.storeParser hparser fun bytes hb => findObject_holds hb hfind
      have hd := hp.trans (.storeData (d := d) (by rw [World.write_same]; exact hdata)
        (object.getD query))
      rwa [World.write_write, World.write_same] at hd
    change (if object.isSome then pure .success else _ : Hid HidReturn)
      (w.store ref d p (object.getD query) parser) = .ok (ret, u) at h
    split_ifs at h
    · cases h
      exact hstore
    · rw [show _ = _ from warn_run path _] at h
      split_ifs at h
      cases h
      exact hstore.trans (afterWarning_operates env ref _)

lemma lookUp_operates {type : UInt8} {x : Unit} (h : lookUp env type ref path w = .ok (x, u)) :
    Operates ref w u := by
  simp only [lookUp, deref_bind] at h
  obtain ⟨d, w₁, hd, h⟩ := state_bind_ok.mp h
  obtain ⟨hdata, rfl⟩ := nonNull_ok hd
  rw [assign_bind] at h
  obtain ⟨r, w₂, hf, h⟩ := state_bind_ok.mp h
  cases h
  exact (Operates.storeData hdata _).trans (hidFindObject_operates hf)

/-! ## Reports and item values -/

lemma transferReport_operates {kind : ReportKind} {size : UInt32}
    {x : HidReturn × ℤ × (ℕ → UInt8)}
    (h : transferReport env kind ref path size w = .ok (x, u)) : Operates ref w u := by
  obtain ⟨_, w₁, hl, h⟩ := state_bind_ok.mp h
  have hw₁ := lookUp_operates hl
  rw [deref_bind] at h
  obtain ⟨d, w₂, hd, h⟩ := state_bind_ok.mp h
  obtain ⟨-, rfl⟩ := nonNull_ok hd
  simp only [usbControlMsg, callOut_bind] at h
  split_ifs at h <;> cases h <;> exact hw₁.trans (.controlMsg rfl _)

lemma hidGetReportSize_operates {id type : UInt8} {x : HidReturn × Option UInt8}
    (h : hidGetReportSize ref id type w = .ok (x, u)) : Operates ref w u := by
  simp only [hidGetReportSize, deref_bind] at h
  split_ifs at h
  · cases h
    exact .refl ref w
  · obtain ⟨p, w₁, hp, h⟩ := state_bind_ok.mp h
    obtain ⟨hparser, rfl⟩ := nonNull_ok hp
    rcases hg : getReportOffset p.val.offsetTab p.val.nReport id type with _ | ⟨pos, tab, n⟩
    · rw [hg] at h
      cases h
    · rw [hg] at h
      cases h
      exact .storeParser hparser fun bytes hb => ⟨hb.size, hb.desc⟩

lemma hidExtractValue_operates {buf : ℕ → UInt8} {room : ℕ} {hasValue : Bool}
    {x : HidReturn × Option ℤ}
    (h : hidExtractValue env ref (some buf) room hasValue w = .ok (x, u)) : Operates ref w u := by
  simp only [hidExtractValue, deref_bind] at h
  split_ifs at h
  · cases h
    exact .refl ref w
  · cases h
    exact .refl ref w
  · obtain ⟨d, w₁, hd, h⟩ := state_bind_ok.mp h
    obtain ⟨hdata, rfl⟩ := nonNull_ok hd
    split_ifs at h
    · cases h
    · cases h
      exact .storeData hdata _

lemma hidGetItemValue_operates {hasValue : Bool} {x : HidReturn × Option ℤ}
    (h : hidGetItemValue env ref path hasValue w = .ok (x, u)) : Operates ref w u := by
  simp only [hidGetItemValue, deref_bind] at h
  split_ifs at h
  · cases h
    exact .refl ref w
  · obtain ⟨_, w₁, hl, h⟩ := state_bind_ok.mp h
    have hw₁ := lookUp_operates hl
    rw [deref_bind] at h
    obtain ⟨d, w₂, hd, h⟩ := state_bind_ok.mp h
    obtain ⟨-, rfl⟩ := nonNull_ok hd
    obtain ⟨⟨r, size⟩, w₂, hs, h⟩ := state_bind_ok.mp h
    have hw₂ := hw₁.trans (hidGetReportSize_operates hs)
    obtain ⟨n, w₃, hn, h⟩ := state_bind_ok.mp h
    obtain ⟨-, rfl⟩ := nonNull_ok hn
    simp only [now_bind, deref_bind, usbControlMsg, callOut_bind] at h
    have hw₃ : Operates ref w (w₂.record (.usbControlMsg
        (featureReport.message (w₂.hidifs ref) d.val.reportID n.toNat)
        (env.usbControlMsg w₂.log.length).1)) := hw₂.trans (.controlMsg rfl _)
    split_ifs at h
    · cases h
    · cases h
      exact hw₃
    · cases h
      exact hw₃
    · obtain ⟨⟨r', value⟩, w₄, he, h⟩ := state_bind_ok.mp h
      have hw₄ := hw₃.trans (hidExtractValue_operates he)
      split_ifs at h <;> cases h <;> exact hw₄

/-- A function that is turned down changes nothing. -/
lemma operates_of_ok {α : Type} {refused x : α} {f : HIDInterface → Hid α}
    (h : (do let hidif ← deref ref; if !hidif.isOpened then pure refused else f hidif) w =
      .ok (x, u)) (hf : f (w.hidifs ref) w = .ok (x, u) → Operates ref w u) :
    Operates ref w u := by
  rw [deref_bind] at h
  split_ifs at h
  · cases h
    exact .refl ref w
  · exact hf h

lemma getReport_operates {kind : ReportKind} {buffer : Option (ℕ → UInt8)} {size : UInt32}
    {x : HidReturn × Option (ℕ → UInt8)}
    (h : getReport env kind ref path buffer size w = .ok (x, u)) : Operates ref w u := by
  cases buffer with
  | none =>
      cases h
      exact .refl ref w
  | some buf =>
      refine operates_of_ok h fun h => ?_
      obtain ⟨out, v, ht, h⟩ := state_bind_ok.mp h
      cases h
      exact transferReport_operates ht

lemma setReport_operates {kind : ReportKind} {buffer : Option (ℕ → UInt8)} {size : UInt32}
    (h : setReport env kind ref path buffer size w = .ok (ret, u)) : Operates ref w u := by
  cases buffer with
  | none =>
      cases h
      exact .refl ref w
  | some buf =>
      refine operates_of_ok h fun h => ?_
      obtain ⟨out, v, ht, h⟩ := state_bind_ok.mp h
      cases h
      exact transferReport_operates ht

lemma exchange_operates {call : Exchange} (h : call.run env ref path w = .ok (ret, u)) :
    Operates ref w u := by
  cases call with
  | getInputReport buffer size | getFeatureReport buffer size =>
      obtain ⟨b, hb⟩ := map_fst_ok h
      exact getReport_operates hb
  | setOutputReport buffer size | setFeatureReport buffer size => exact setReport_operates h
  | getItemValue hasValue =>
      obtain ⟨b, hb⟩ := map_fst_ok h
      exact hidGetItemValue_operates hb

/-! ## The other functions -/

lemma hidInterruptRead_operates {ep size timeout : UInt32} {buffer : Option (ℕ → UInt8)}
    {x : HidReturn × Option (ℕ → UInt8)}
    (h : hidInterruptRead env ref ep buffer size timeout w = .ok (x, u)) : Operates ref w u := by
  cases buffer with
  | none =>
      cases h
      exact .refl ref w
  | some buf =>
      refine operates_of_ok h fun h => ?_
      cases h
      exact .record rfl ⟨rfl, rfl⟩

lemma hidInterruptWrite_operates {ep size timeout : UInt32} {buffer : Option (ℕ → UInt8)}
    (h : hidInterruptWrite env ref ep buffer size timeout w = .ok (ret, u)) : Operates ref w u := by
  cases buffer with
  | none =>
      cases h
      exact .refl ref w
  | some buf =>
      refine operates_of_ok h fun h => ?_
      cases h
      exact .record rfl ⟨rfl, rfl⟩

lemma hidSetIdle_operates {duration reportId : UInt32}
    (h : hidSetIdle env ref duration reportId w = .ok (ret, u)) : Operates ref w u := by
  unfold hidSetIdle at h
  split_ifs at h
  · cases h
    exact .refl ref w
  · cases h
    exact .refl ref w
  · cases h
    exact .controlMsg rfl _

lemma hidResetParser_operates {x : Unit} (h : hidResetParser ref w = .ok (x, u)) :
    Operates ref w u := by
  refine operates_of_ok h fun h => ?_
  obtain ⟨p, w₁, hp, h⟩ := state_bind_ok.mp h
  obtain ⟨hparser, rfl⟩ := nonNull_ok hp
  cases h
  exact .storeParser hparser fun bytes hb => ⟨hb.size, hb.desc⟩

/-- Storing what an enumeration leaves. -/
lemma storeObject_operates {p : Block HIDParser} {parser : HIDParser} {o : Option HIDData}
    {x : Unit} (hp : (w.hidifs ref).hidParser = some p)
    (hholds : ∀ bytes, p.val.Holds bytes → parser.Holds bytes)
    (h : storeObject ref { w.hidifs ref with hidParser := some { p with val := parser } } o w =
      .ok (x, u)) : Operates ref w u := by
  have hstore := Operates.storeParser hp hholds
  cases o with
  | none =>
      cases h
      exact hstore
  | some object =>
      obtain ⟨d, w₁, hd, ha⟩ := state_bind_ok.mp h
      obtain ⟨hsome, rfl⟩ := nonNull_ok hd
      cases ha
      have hboth := hstore.trans (.storeData (d := d) (by rw [World.write_same]; exact hsome)
        object)
      rwa [World.write_write, World.write_same] at hboth

/-- What an enumeration leaves holds the same descriptor. -/
lemma enumerate_holds {abi : Abi} {p q : HIDParser} (h : (enumerate abi p).2 = .ok q)
    (hb : p.Holds bytes) : q.Holds bytes :=
  Generator.all_inv (g := parser abi) (fun p => p.Holds bytes)
    (fun hs hturn => parseTurn_holds hs hturn) hb h

lemma hidDumpTree_operates {out : Bool} {x : HidReturn × List HIDData}
    (h : hidDumpTree env out ref w = .ok (x, u)) : Operates ref w u := by
  refine operates_of_ok h fun h => ?_
  split_ifs at h
  · cases h
    exact .refl ref w
  · obtain ⟨_, w₁, hr, h⟩ := state_bind_ok.mp h
    have hw₁ := hidResetParser_operates hr
    rw [deref_bind] at h
    obtain ⟨p, w₂, hp, h⟩ := state_bind_ok.mp h
    obtain ⟨hparser, rfl⟩ := nonNull_ok hp
    obtain ⟨parser, w₃, hl, h⟩ := state_bind_ok.mp h
    obtain ⟨hfinish, rfl⟩ := lift_ok hl
    obtain ⟨_, w₄, hs, h⟩ := state_bind_ok.mp h
    obtain ⟨_, w₅, hr', h⟩ := state_bind_ok.mp h
    cases h
    have hw₄ := hw₁.trans (storeObject_operates hparser
      (fun bytes hb => enumerate_holds hfinish hb) hs)
    exact hw₄.trans (hidResetParser_operates hr')

/-- **What a call on an interface does that is open or not**, apart from opening and closing. -/
theorem uses_operates {call : PublicCall} (huses : call.uses = some ref)
    (h : call.run env w = .ok (ret, u)) : Operates ref w u := by
  cases call with
  | lifecycle call => cases huses
  | exchange call hidif path =>
      cases huses
      exact exchange_operates h
  | hidInterruptRead hidif ep bytes size timeout =>
      cases huses
      obtain ⟨b, hb⟩ := map_fst_ok h
      exact hidInterruptRead_operates hb
  | hidInterruptWrite hidif ep bytes size timeout =>
      cases huses
      exact hidInterruptWrite_operates h
  | hidSetIdle hidif duration reportId =>
      cases huses
      exact hidSetIdle_operates h
  | hidDumpTree out hidif =>
      cases huses
      obtain ⟨b, hb⟩ := map_fst_ok h
      exact hidDumpTree_operates hb

/-! ## Opening and closing -/

lemma SameBlocks.kept (h : SameBlocks w u) : BlocksKept w u := by
  obtain ⟨es, hes, hn⟩ := h.log
  rw [BlocksKept, hes, h.block]
  exact .skip_all hn

/-- `malloc` into a place of an interface that is empty. -/
lemma Mallocs.kept {part : Part} (h : Mallocs ref part w u) (hnone : w.block (ref, part) = none) :
    BlocksKept w u := by
  obtain ⟨b, hblock, hlog, hb⟩ := h.block
  rw [BlocksKept, hblock, hlog]
  cases b with
  | none =>
      have hsame : Function.update w.block (ref, part) none = w.block := by
        rw [← hnone, Function.update_eq_self]
      rw [hsame]
      exact .skip ⟨rfl, rfl⟩
  | some a => exact .acquire rfl (hb a rfl) hnone

/-- `free` of what lies in a place of an interface. -/
lemma frees_transacts (log : List Event) (block : Ref × Part → Option ℕ) (slot : Ref × Part) :
    Transacts blocks id log block (freeEvents (block slot) ++ log)
      (Function.update block slot none) := by
  cases hb : block slot with
  | none =>
      rw [← hb, Function.update_eq_self, hb]
      exact .refl _ _ _ _
  | some a => exact .release rfl hb

lemma hidClose_kept (h : hidClose env ref w = .ok (ret, u)) : BlocksKept w u := by
  obtain ⟨-, -, hhidifs, hlog⟩ := hidClose_steps h
  have hblock : u.block =
      Function.update (Function.update w.block (ref, .parser) none) (ref, .data) none := by
    funext slot
    obtain ⟨r, part⟩ := slot
    simp only [World.block, hhidifs, Function.update_apply, Prod.mk.injEq]
    by_cases hr : r = ref
    · cases part <;> simp [hr, HIDInterface.block]
    · simp [hr]
  have hclose : Transacts blocks id w.log w.block
      (closeEvents (w.hidifs ref).devHandle ++ w.log) w.block := by
    apply Transacts.skip_all
    intro e he
    cases hh : (w.hidifs ref).devHandle with
    | none =>
        rw [hh] at he
        cases he
    | some x =>
        rw [hh] at he
        rw [List.mem_singleton.mp he]
        exact ⟨rfl, rfl⟩
  have hparser := hclose.trans (frees_transacts _ w.block (ref, .parser))
  have hdata := hparser.trans (frees_transacts _ _ (ref, .data))
  rw [Function.update_of_ne (by simp)] at hdata
  rw [BlocksKept, hlog, hblock, closingEvents, List.append_assoc, List.append_assoc]
  exact hdata

/-- `hid_prepare_interface` allocates the two blocks, and frees them if it fails. -/
lemma hidPrepareInterface_kept (hnone : ∀ part, w.block (ref, part) = none)
    (hopen : (w.hidifs ref).isOpened = true)
    (h : hidPrepareInterface env ref w = .ok (ret, u)) : BlocksKept w u := by
  obtain ⟨r, v, x, hi, hw, hrest⟩ := hidPrepareInterface_steps hopen h
  have hv : BlocksKept w v := by
    obtain ⟨v', hm, ⟨-, rfl⟩ | ⟨hm', -⟩⟩ := hidInitParser_mallocs hopen hi
    · exact hm.kept (hnone .data)
    · refine (hm.kept (hnone .data)).trans (hm'.kept ?_)
      obtain ⟨b, hblock, -⟩ := hm.block
      rw [hblock, Function.update_of_ne (by simp), hnone .parser]
  have hx := hv.trans hw.sameBlocks.kept
  rcases hrest with ⟨-, -, rfl⟩ | ⟨-, c, hc⟩
  · exact hx
  · exact hx.trans (hidClose_kept hc)

lemma openWith_kept {claim : Hid HidReturn} {i : ℤ} {m : HIDInterfaceMatcher}
    (hnone : ∀ part, w.block (ref, part) = none) (hclaim : ClaimsThrough claim ref)
    (h : openWith env claim ref i m w = .ok (ret, u)) : BlocksKept w u := by
  obtain ⟨r, w₂, hfind, hrest⟩ := openWith_split h
  have hb := (Browses.atInterface w ref i).trans (hidFindUsbDevice_browses hfind)
  rcases hrest with ⟨-, -, rfl⟩ | ⟨rfl, c, w₃, hc, hrest⟩
  · have hw : Browses w₂ (w₂.write ref { w₂.hidifs ref with devHandle := none, device := none }) :=
      .write rfl
    exact (hb.trans hw).sameBlocks.kept
  · have hs₃ := hb.sameBlocks.trans (hclaim hc).sameBlocks
    rcases hrest with ⟨-, -, x, hx⟩ | ⟨w₄, hp, rfl⟩
    · exact hs₃.kept.trans (hidClose_kept hx)
    · obtain ⟨y, hy⟩ := hidFindUsbDevice_devHandle hfind
      have hopen : (w₃.hidifs ref).isOpened = true := by
        rw [HIDInterface.isOpened, (hclaim hc).devHandle, hy]
        rfl
      have hw₄ := hs₃.kept.trans
        (hidPrepareInterface_kept (fun part => by rw [hs₃.block, hnone]) hopen hp)
      split_ifs
      · exact hw₄
      · exact hw₄

/-- **Opening and closing keep the books of the blocks**, if a closed interface has none. -/
theorem call_kept {call : Call}
    (hnone : ∀ ref, (w.hidifs ref).devHandle = none → ∀ part, w.block (ref, part) = none)
    (h : call.run env w = .ok (ret, u)) : BlocksKept w u := by
  rcases run_cases h with ⟨ref, rfl, hc⟩ | ⟨-, ⟨-, rfl⟩ | hopen⟩
  · exact hidClose_kept hc
  · exact .refl _ _ _ _
  · obtain ⟨ref, i, m, claim, -, -, hn, hclaim, ho⟩ := hopen
    exact openWith_kept (hnone ref hn) hclaim ho

end Operates

end Libhid
