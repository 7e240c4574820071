import Libhid.Framework.Locality
import Libhid.Device.Calls

/-!
# Interfaces do not see each other

The functions on an open interface share a process, a log and libusb, and yet each of them reads
and writes its own interface only (`reply_isLocal`).  So what a client sees of its interface does
not depend on how the calls on other interfaces come between its own: the calls on an interface get
the replies they get alone (`replies_alone`), and the replies that calls on several interfaces can
get, in whatever order they are made, are those that the calls on each of them can get
(`interleavings_iff`).
-/

namespace Libhid

open Framework

/-! ## Replies -/

/-- What a call hands back to its caller: the value it returns, its buffer, the value it stored and
the objects it wrote. -/
structure Reply where
  ret : HidReturn
  buffer : Option (ℕ → UInt8)
  value : Option ℤ
  objects : List HIDData

namespace Reply

/-- A value and nothing else. -/
def status (ret : HidReturn) : Reply := ⟨ret, none, none, []⟩

/-- A value and the buffer of the caller. -/
def buffered (out : HidReturn × Option (ℕ → UInt8)) : Reply := ⟨out.1, out.2, none, []⟩

/-- A value and an item value. -/
def valued (out : HidReturn × Option ℤ) : Reply := ⟨out.1, none, out.2, []⟩

/-- A value and the objects of a dump. -/
def dumped (out : HidReturn × List HIDData) : Reply := ⟨out.1, none, none, out.2⟩

end Reply

/-- The reply to a call of an exchange function. -/
def Exchange.reply (env : Env) (ref : Ref) (path : List ℤ) : Exchange → Hid Reply
  | .getInputReport buffer size =>
      Reply.buffered <$> hidGetInputReport env ref path buffer size
  | .setOutputReport buffer size => Reply.status <$> hidSetOutputReport env ref path buffer size
  | .getFeatureReport buffer size =>
      Reply.buffered <$> hidGetFeatureReport env ref path buffer size
  | .setFeatureReport buffer size => Reply.status <$> hidSetFeatureReport env ref path buffer size
  | .getItemValue hasValue => Reply.valued <$> hidGetItemValue env ref path hasValue

/-- The reply to a call. -/
def PublicCall.reply (env : Env) : PublicCall → Hid Reply
  | .lifecycle call => Reply.status <$> call.run env
  | .exchange call hidif path => call.reply env hidif path
  | .hidInterruptRead hidif ep bytes size timeout =>
      Reply.buffered <$> Libhid.hidInterruptRead env hidif ep bytes size timeout
  | .hidInterruptWrite hidif ep bytes size timeout =>
      Reply.status <$> Libhid.hidInterruptWrite env hidif ep bytes size timeout
  | .hidSetIdle hidif duration reportId =>
      Reply.status <$> Libhid.hidSetIdle env hidif duration reportId
  | .hidDumpTree out hidif => Reply.dumped <$> Libhid.hidDumpTree env out hidif

lemma ret_reply {α : Type} (f : α → Reply) (m : Hid α) :
    Reply.ret <$> f <$> m = (fun a => (f a).ret) <$> m := by
  rw [← comp_map]
  rfl

lemma ret_status (m : Hid HidReturn) : Reply.ret <$> Reply.status <$> m = m :=
  (ret_reply Reply.status m).trans (id_map m)

/-- The value a call returns is that of its reply. -/
lemma PublicCall.run_eq_reply (env : Env) (call : PublicCall) :
    call.run env = Reply.ret <$> call.reply env := by
  cases call with
  | exchange call hidif path =>
      cases call with
      | getInputReport | getFeatureReport => exact (ret_reply Reply.buffered _).symm
      | setOutputReport | setFeatureReport => exact (ret_status _).symm
      | getItemValue => exact (ret_reply Reply.valued _).symm
  | lifecycle | hidInterruptWrite | hidSetIdle => exact (ret_status _).symm
  | hidInterruptRead => exact (ret_reply Reply.buffered _).symm
  | hidDumpTree => exact (ret_reply Reply.dumped _).symm

/-! ## The environment as answers -/

/-- What the platform answers at a time. -/
structure Outcome where
  usbGetBusses : List UsbBus
  usbOpen : Bool
  usbClose : ℤ
  usbClaimInterface : ℤ
  usbDetachKernelDriver : ℤ
  usbControlMsg : ℤ × (ℕ → UInt8)
  usbInterruptRead : ℤ × (ℕ → UInt8)
  usbInterruptWrite : ℤ
  malloc : Bool
  freshData : HIDData
  freshParser : HIDParser
  freshBuffer : ℕ → UInt8

namespace Env

/-- The answers of a platform. -/
def answers (env : Env) (t : ℕ) : Outcome where
  usbGetBusses := env.usbGetBusses t
  usbOpen := env.usbOpen t
  usbClose := env.usbClose t
  usbClaimInterface := env.usbClaimInterface t
  usbDetachKernelDriver := env.usbDetachKernelDriver t
  usbControlMsg := env.usbControlMsg t
  usbInterruptRead := env.usbInterruptRead t
  usbInterruptWrite := env.usbInterruptWrite t
  malloc := env.malloc t
  freshData := env.freshData t
  freshParser := env.freshParser t
  freshBuffer := env.freshBuffer t

/-- The platform with other answers. -/
def answering (env : Env) (ans : ℕ → Outcome) : Env where
  abi := env.abi
  os := env.os
  usbGetBusses t := (ans t).usbGetBusses
  usbOpen t := (ans t).usbOpen
  usbClose t := (ans t).usbClose
  usbDevice := env.usbDevice
  usbClaimInterface t := (ans t).usbClaimInterface
  usbDetachKernelDriver t := (ans t).usbDetachKernelDriver
  usbControlMsg t := (ans t).usbControlMsg
  usbInterruptRead t := (ans t).usbInterruptRead
  usbInterruptWrite t := (ans t).usbInterruptWrite
  malloc t := (ans t).malloc
  mallocSize := env.mallocSize
  stackSlack := env.stackSlack
  freshData t := (ans t).freshData
  freshParser t := (ans t).freshParser
  freshBuffer t := (ans t).freshBuffer

/-- The same machine, whose devices and allocator may answer differently. -/
structure Like (env env' : Env) : Prop where
  abi : env'.abi = env.abi
  os : env'.os = env.os
  usbDevice : env'.usbDevice = env.usbDevice
  mallocSize : env'.mallocSize = env.mallocSize
  stackSlack : env'.stackSlack = env.stackSlack

lemma like_answering (env : Env) (ans : ℕ → Outcome) : env.Like (env.answering ans) :=
  ⟨rfl, rfl, rfl, rfl, rfl⟩

lemma Like.refl (env : Env) : env.Like env := ⟨rfl, rfl, rfl, rfl, rfl⟩

lemma Like.trans {env env' env'' : Env} (h : env.Like env') (h' : env'.Like env'') :
    env.Like env'' :=
  ⟨h'.abi.trans h.abi, h'.os.trans h.os, h'.usbDevice.trans h.usbDevice,
    h'.mallocSize.trans h.mallocSize, h'.stackSlack.trans h.stackSlack⟩

lemma Like.answering {env env' : Env} (h : env.Like env') : env.answering env'.answers = env' := by
  obtain ⟨habi, hos, hdev, hmalloc, hstack⟩ := h
  rw [Env.answering, ← habi, ← hos, ← hdev, ← hmalloc, ← hstack]
  rfl

end Env

/-! ## Interfaces as components -/

/-- A block allocated in a call has the number of the call. -/
def Event.moved (n : ℕ) : Event → Event
  | .malloc block => .malloc (block.map (· + n))
  | .free block => .free (block + n)
  | e => e

/-- The calls to libusb and to the custom function. -/
def Event.seen : Event → Option Event
  | .malloc _ | .free _ => none
  | e => some e

lemma seen_moved (n : ℕ) (e : Event) : (e.moved n).seen = e.seen := by
  cases e <;> rfl

/-- The interfaces and the log of a state. -/
def interfaces : Components Ref World HIDInterface Event where
  get := World.hidifs
  log := World.log
  put w ref hidif es := { w.write ref hidif with log := es ++ w.log }
  moved := Event.moved
  get_put w ref hidif _ := w.write_same ref hidif
  get_put_of_ne w _ _ hidif _ h := World.write_other w _ hidif h
  log_put _ _ _ _ := rfl
  put_put w ref hidif es hidif' es' := by
    simp [World.write, List.append_assoc]
  put_get w ref := by
    simp [World.write]
  moved_add m n e := by
    cases e with
    | malloc block => cases block <;> simp [Event.moved, Nat.add_comm, Nat.add_left_comm]
    | free block => simp [Event.moved, Nat.add_comm, Nat.add_left_comm]
    | _ => rfl

/-! ## The functions on an open interface -/

section Local

open Components

variable (env : Env) {ref : Ref}

/-- A computation on `ref` that reads and writes this interface only, whatever the platform
answers. -/
abbrev Alone (ref : Ref) {α : Type} (x : (ℕ → Outcome) → Hid α) : Prop :=
  interfaces.IsLocal ref x

lemma alone_deref : Alone ref fun _ => deref ref :=
  .of_state (fun hidif => .ok (hidif, hidif)) fun _ w => by
    show _ = Except.ok (_, interfaces.put w ref (interfaces.get w ref) [])
    rw [interfaces.put_get]
    rfl

lemma alone_assign (hidif : HIDInterface) : Alone ref fun _ => assign ref hidif :=
  .of_state (fun _ => .ok ((), hidif)) fun _ _ => rfl

lemma alone_lift {α : Type} (x : Except Stop α) : Alone ref fun _ => lift x :=
  .of_state (fun hidif => x.map (·, hidif)) fun _ w => by
    cases x with
    | error e => rfl
    | ok a =>
        show _ = Except.ok (a, interfaces.put w ref (interfaces.get w ref) [])
        rw [interfaces.put_get]
        rfl

lemma alone_stop {α : Type} (e : Stop) : Alone ref fun _ => (stop e : Hid α) :=
  .of_state (fun _ => .error e) fun _ _ => rfl

lemma alone_nonNull {α : Type} (x : Option α) : Alone ref fun _ => nonNull x := by
  cases x with
  | none => exact alone_stop .null
  | some a => exact .pure a

lemma alone_map {α β : Type} {x : (ℕ → Outcome) → Hid α} (f : α → β) (hx : Alone ref x) :
    Alone ref fun ans => f <$> x ans :=
  hx.bind fun a => .pure (f a)

/-- A function that asks first whether its interface is open. -/
lemma alone_guarded {α : Type} (refused : α) {f : HIDInterface → (ℕ → Outcome) → Hid α}
    (hf : ∀ hidif, Alone ref (f hidif)) : Alone ref fun ans => (do
      let hidif ← deref ref
      if !hidif.isOpened then pure refused else f hidif ans) :=
  alone_deref.bind fun hidif => .ite (.pure refused) (hf hidif)

/-! ### Calls out of the library -/

lemma alone_usbControlMsg (msg : ControlMsg) :
    Alone ref fun ans => usbControlMsg (env.answering ans) msg :=
  .ask Outcome.usbControlMsg (fun a => .usbControlMsg msg a.usbControlMsg.1) fun ans w => by
    show _ = Except.ok (_, interfaces.put w ref (w.hidifs ref) _)
    simp [interfaces, World.write, Event.moved, usbControlMsg, callOut, World.record, Env.answering,
      Components.clock]

lemma alone_usbInterruptRead (dev : Option UsbHandle) (ep size timeout : UInt32) :
    Alone ref fun ans => usbInterruptRead (env.answering ans) dev ep size timeout :=
  .ask Outcome.usbInterruptRead (fun a =>
    .usbInterruptRead dev ep.toNat size.toNat timeout.toNat a.usbInterruptRead.1) fun ans w => by
    simp [interfaces, World.write, Event.moved, usbInterruptRead, callOut, World.record,
      Env.answering, Components.clock]

lemma alone_usbInterruptWrite (dev : Option UsbHandle) (ep size timeout : UInt32) :
    Alone ref fun ans => usbInterruptWrite (env.answering ans) dev ep size timeout :=
  .ask Outcome.usbInterruptWrite (fun a =>
    .usbInterruptWrite dev ep.toNat size.toNat timeout.toNat a.usbInterruptWrite) fun ans w => by
    simp [interfaces, World.write, Event.moved, usbInterruptWrite, callOut, World.record,
      Env.answering, Components.clock]

/-- The block of a warning, which is freed as soon as the path is formatted into it. -/
lemma alone_warning (path : List ℤ) : Alone ref fun ans => (do
    let buffer ← malloc (env.answering ans) fun _ => ()
    if ¬ (env.answering ans).WarningFits buffer.isSome path then stop .warning else
    free buffer
    pure HidReturn.notFound) := by
  refine ⟨fun ans hidif => if env.WarningFits (ans 0).malloc path then .ok (.notFound, hidif,
    if (ans 0).malloc then [.free 0, .malloc (some 0)] else [.malloc none])
    else .error .warning, ⟨fun ans w => ?_, ?_⟩⟩
  · have hlater : later ans (interfaces.clock w) 0 = ans w.log.length := by
      rw [later, Nat.zero_add]
      rfl
    have hfits : (env.answering ans).WarningFits ((env.answering ans).malloc w.log.length) path ↔
        env.WarningFits (ans w.log.length).malloc path := Iff.rfl
    have hafter : w.afterWarning (env.answering ans) = if (ans w.log.length).malloc then
        (w.record (.malloc (some w.log.length))).record (.free w.log.length)
        else w.record (.malloc none) := by
      by_cases hm : (ans w.log.length).malloc = true <;>
        simp [World.afterWarning, Env.answering, hm]
    rw [warn_run, hlater, hafter, if_congr hfits rfl rfl]
    split_ifs <;> simp [Except.map, Components.resume, interfaces, Components.clock, World.write,
      World.record, Event.moved]
  · intro ans ans' hidif r hok hans
    have hsame : ans' 0 = ans 0 := hans 0 (by
      split_ifs at hok <;> cases hok <;> simp)
    rw [← hok, hsame]

/-- A transfer into a local buffer, whose contents are fixed before the transfer. -/
lemma alone_transferInto (msg : HIDInterface → ControlMsg) {α : Type}
    {f : (ℤ × (ℕ → UInt8)) → (ℕ → UInt8) → (ℕ → Outcome) → Hid α}
    (hf : ∀ out buffer, Alone ref (f out buffer)) : Alone ref fun ans => (do
      let t ← now
      let hidif ← deref ref
      let out ← usbControlMsg (env.answering ans) (msg hidif)
      f out ((env.answering ans).freshBuffer t) ans) := by
  have hask : ∀ hidif, Alone ref fun ans => (fun w => .ok (((ans w.log.length).usbControlMsg,
      (ans w.log.length).freshBuffer), w.record (.usbControlMsg (msg hidif)
        (ans w.log.length).usbControlMsg.1)) : Hid ((ℤ × (ℕ → UInt8)) × (ℕ → UInt8))) :=
    fun hidif => .ask (fun a => (a.usbControlMsg, a.freshBuffer))
      (fun a => .usbControlMsg (msg hidif) a.usbControlMsg.1) fun ans w => by
        simp [interfaces, World.write, Event.moved, World.record, Components.clock]
  exact alone_deref.bind fun hidif => (hask hidif).bind fun out => hf out.1 out.2

/-! ### The exchange functions -/

lemma alone_hidFindObject (path : List ℤ) :
    Alone ref fun ans => hidFindObject (env.answering ans) ref path := by
  have hfind : ∀ (p : HIDParser) (query : HIDData),
      Alone ref fun ans => lift (findObject (env.answering ans).abi p query) := fun p query =>
    alone_lift (findObject env.abi p query)
  refine alone_guarded _ fun hidif => (alone_nonNull _).bind fun d =>
    (alone_lift _).bind fun query =>
    (alone_nonNull _).bind fun p => (hfind p.val query).bind ?_
  rintro ⟨parser, object⟩
  exact (alone_assign _).bind fun _ => .ite (.pure _) (alone_warning env path)

lemma alone_lookUp (type : UInt8) (path : List ℤ) :
    Alone ref fun ans => lookUp (env.answering ans) type ref path :=
  alone_deref.bind fun _ => (alone_nonNull _).bind fun _ => (alone_assign _).bind fun _ =>
    (alone_hidFindObject env path).bind fun _ => .pure ()

lemma alone_transferReport (kind : ReportKind) (path : List ℤ) (size : UInt32) :
    Alone ref fun ans => transferReport (env.answering ans) kind ref path size :=
  (alone_lookUp env kind.type path).bind fun _ => alone_deref.bind fun _ =>
    (alone_nonNull _).bind fun _ => (alone_usbControlMsg env _).bind fun ⟨_, _⟩ =>
    .ite (.pure _) (.ite (.pure _) (.pure _))

lemma alone_getReport (kind : ReportKind) (path : List ℤ) (buffer : Option (ℕ → UInt8))
    (size : UInt32) :
    Alone ref fun ans => getReport (env.answering ans) kind ref path buffer size := by
  cases buffer with
  | none => exact .pure _
  | some buf =>
      exact alone_guarded _ fun _ => (alone_transferReport env kind path size).bind fun ⟨_, _, _⟩ =>
        .pure _

lemma alone_setReport (kind : ReportKind) (path : List ℤ) (buffer : Option (ℕ → UInt8))
    (size : UInt32) :
    Alone ref fun ans => setReport (env.answering ans) kind ref path buffer size := by
  cases buffer with
  | none => exact .pure _
  | some buf =>
      exact alone_guarded _ fun _ => (alone_transferReport env kind path size).bind fun ⟨_, _, _⟩ =>
        .pure _

lemma alone_hidExtractValue (buffer : Option (ℕ → UInt8)) (room : ℕ) (hasValue : Bool) :
    Alone ref fun ans => hidExtractValue (env.answering ans) ref buffer room hasValue := by
  cases buffer with
  | none => exact alone_guarded _ fun _ => .pure _
  | some buf =>
      refine alone_guarded _ fun hidif => .ite (.pure _) ((alone_nonNull _).bind fun d => ?_)
      refine .ite (alone_stop _) ?_
      exact (alone_assign { hidif with
        hidData := some { d with val := { d.val with value := env.abi.getValue buf d.val } } }).bind
          fun _ => .pure (HidReturn.success, some (env.abi.getValue buf d.val))

lemma alone_hidGetReportSize (reportID reportType : UInt8) :
    Alone ref fun _ => hidGetReportSize ref reportID reportType := by
  refine alone_guarded _ fun hidif => (alone_nonNull _).bind fun p => ?_
  cases getReportOffset p.val.offsetTab p.val.nReport reportID reportType with
  | none => exact alone_stop .null
  | some row => exact (alone_assign _).bind fun _ => .pure _

lemma alone_hidGetItemValue (path : List ℤ) (hasValue : Bool) :
    Alone ref fun ans => hidGetItemValue (env.answering ans) ref path hasValue := by
  refine alone_guarded _ fun _ => (alone_lookUp env _ path).bind fun _ => alone_deref.bind fun _ =>
    (alone_nonNull _).bind fun d => (alone_hidGetReportSize _ _).bind ?_
  rintro ⟨_, size⟩
  refine (alone_nonNull size).bind fun size => ?_
  refine alone_transferInto env (fun hidif => featureReport.message hidif d.val.reportID size.toNat)
    (f := fun out fresh ans => if env.itemRoom < min out.1.toNat size.toNat then stop .itemBuffer
      else if out.1 < 0 then pure (HidReturn.failGetReport, none)
      else if out.1 % 2 ^ 32 ≠ size.toNat then pure (HidReturn.failGetReport, none)
      else do
        let x ← hidExtractValue (env.answering ans) ref
          (some (received fresh out.1 size.toNat out.2)) env.itemRoom hasValue
        if x.1 ≠ .success then pure (HidReturn.failGetReport, none)
        else pure (HidReturn.success, x.2)) ?_
  intro out fresh
  exact .ite (alone_stop _) (.ite (.pure _) (.ite (.pure _)
    ((alone_hidExtractValue env _ _ hasValue).bind fun _ => .ite (.pure _) (.pure _))))

lemma alone_hidResetParser : Alone ref fun _ => hidResetParser ref :=
  alone_guarded _ fun _ => (alone_nonNull _).bind fun _ => alone_assign _

lemma alone_storeObject (hidif : HIDInterface) (object : Option HIDData) :
    Alone ref fun _ => storeObject ref hidif object := by
  cases object with
  | none => exact alone_assign hidif
  | some object => exact (alone_nonNull _).bind fun _ => alone_assign _

lemma alone_hidDumpTree (out : Bool) :
    Alone ref fun ans => hidDumpTree (env.answering ans) out ref := by
  refine alone_guarded _ fun _ => .ite (.pure _) (alone_hidResetParser.bind fun _ =>
    alone_deref.bind fun hidif => (alone_nonNull _).bind fun p => ?_)
  exact (alone_lift (enumerate env.abi p.val).2).bind fun parser =>
    (alone_storeObject { hidif with hidParser := some { p with val := parser } }
      (enumerate env.abi p.val).1.getLast?).bind fun _ =>
    alone_hidResetParser.bind fun _ =>
      .pure (HidReturn.success, (enumerate env.abi p.val).1)

lemma alone_hidInterruptRead (ep : UInt32) (bytes : Option (ℕ → UInt8)) (size timeout : UInt32) :
    Alone ref fun ans => hidInterruptRead (env.answering ans) ref ep bytes size timeout := by
  cases bytes with
  | none => exact .pure _
  | some buf =>
      exact alone_guarded _ fun _ => (alone_usbInterruptRead env _ ep size timeout).bind
        fun ⟨len, bytes⟩ => .pure
          (interruptReturn env len size, some (received buf len size.toNat bytes))

lemma alone_hidInterruptWrite (ep : UInt32) (bytes : Option (ℕ → UInt8)) (size timeout : UInt32) :
    Alone ref fun ans => hidInterruptWrite (env.answering ans) ref ep bytes size timeout := by
  cases bytes with
  | none => exact .pure _
  | some buf =>
      exact alone_guarded _ fun _ => (alone_usbInterruptWrite env _ ep size timeout).bind
        fun len => .pure (interruptReturn env len size)

lemma alone_hidSetIdle (duration reportId : UInt32) :
    Alone ref fun ans => hidSetIdle (env.answering ans) ref duration reportId :=
  .ite (.pure _) (.ite (.pure _) (alone_deref.bind fun _ =>
    (alone_usbControlMsg env _).bind fun ⟨_, _⟩ => .pure _))

/-- **Every call on an open interface reads and writes this interface only.** -/
theorem reply_isLocal {call : PublicCall} (h : call.uses = some ref) :
    Alone ref fun ans => call.reply (env.answering ans) := by
  cases call with
  | lifecycle call => cases h
  | exchange call hidif path =>
      cases h
      cases call with
      | getInputReport buffer size =>
          exact alone_map Reply.buffered (alone_getReport env inputReport path buffer size)
      | setOutputReport buffer size =>
          exact alone_map Reply.status (alone_setReport env outputReport path buffer size)
      | getFeatureReport buffer size =>
          exact alone_map Reply.buffered (alone_getReport env featureReport path buffer size)
      | setFeatureReport buffer size =>
          exact alone_map Reply.status (alone_setReport env setFeatureReport path buffer size)
      | getItemValue hasValue =>
          exact alone_map Reply.valued (alone_hidGetItemValue env path hasValue)
  | hidInterruptRead hidif ep bytes size timeout =>
      cases h
      exact alone_map Reply.buffered (alone_hidInterruptRead env ep bytes size timeout)
  | hidInterruptWrite hidif ep bytes size timeout =>
      cases h
      exact alone_map Reply.status (alone_hidInterruptWrite env ep bytes size timeout)
  | hidSetIdle hidif duration reportId =>
      cases h
      exact alone_map Reply.status (alone_hidSetIdle env duration reportId)
  | hidDumpTree out hidif =>
      cases h
      exact alone_map Reply.dumped (alone_hidDumpTree env out)

end Local

/-! ## Runs -/

/-- The reply to a call, with the calls to libusb and to the custom function made for it, the latest
first. -/
def PublicCall.observed (env : Env) (call : PublicCall) : Hid (Reply × List Event) :=
  interfaces.watch Event.seen (call.reply env)

/-- One call after the other, with what their callers observe. -/
def runObserved (env : Env) (calls : List PublicCall) (w : World) :
    Except Stop (List (Reply × List Event) × World) :=
  runAll (fun call => call.observed env) calls w

/-- The calls that use an interface. -/
abbrev callsUsing (ref : Ref) (calls : List PublicCall) : List PublicCall :=
  Components.callsOf (fun call : PublicCall => call.uses = some ref) calls

/-- What is observed of the calls that use an interface. -/
abbrev repliesUsing (ref : Ref) (calls : List PublicCall) (replies : List (Reply × List Event)) :
    List (Reply × List Event) :=
  Components.repliesOf (fun call : PublicCall => call.uses = some ref) calls replies

/-- The interface a call opens or closes. -/
def Call.target : Call → Option Ref
  | .hidOpen hidif _ _ | .hidForceOpen hidif _ _ _ => hidif
  | .hidClose hidif => some hidif

section Runs

variable {env : Env} {ref : Ref} {w u : World}

lemma observed_isLocal (env : Env) {call : PublicCall} (h : call.uses = some ref) :
    Alone ref fun ans => call.observed (env.answering ans) :=
  (reply_isLocal env h).watch seen_moved

lemma opening_target {call : Call} {i : ℤ} {m : HIDInterfaceMatcher}
    (h : call.opening = some (ref, i, m)) : call.target = some ref := by
  unfold Call.opening at h
  split at h <;> cases h <;> rfl

/-- A call on other interfaces leaves an interface as it is. -/
lemma reply_others {call : PublicCall} {r : Reply} (huses : call.uses ≠ some ref)
    (htarget : ∀ c, call = .lifecycle c → c.target ≠ some ref)
    (h : call.reply env w = .ok (r, u)) : u.hidifs ref = w.hidifs ref := by
  cases hc : call.uses with
  | some r' =>
      obtain ⟨f, hf⟩ := reply_isLocal env hc
      have hrun : call.reply (env.answering env.answers) w = .ok (r, u) := h
      obtain ⟨hidif, es, -, rfl, -⟩ := hf.ok hrun
      exact interfaces.get_put_of_ne w hidif (es.map (interfaces.moved (interfaces.clock w)))
        fun heq => huses (heq ▸ hc)
  | none =>
      cases call with
      | lifecycle call =>
          have htarget' := htarget call rfl
          change (call.run env >>= fun ret => pure (Reply.status ret)) w = .ok (r, u) at h
          obtain ⟨ret, v, hrun, h⟩ := state_bind_ok.mp h
          cases h
          cases run_ok hrun with
          | declined => rfl
          | opened hcall _ _ hclaim ho =>
              have hne : ref ≠ _ := fun heq => htarget' (heq ▸ opening_target hcall)
              rcases openWith_ok hclaim ho with ⟨-, hopens⟩ | ⟨-, hfails⟩
              · exact hopens.others ref hne
              · exact hfails.others ref hne
          | @closed ref' _ _ hclosed =>
              rw [hclosed.hidifs, Function.update_of_ne]
              rintro rfl
              exact htarget' rfl
      | _ => cases hc

/-- The calls on an interface, which the other calls of a run leave alone, again by themselves. -/
lemma observed_alone {calls : List PublicCall} {replies : List (Reply × List Event)}
    (hother : ∀ call ∈ calls, call.uses ≠ some ref → ∀ v r v', call.reply env v = .ok (r, v') →
      v'.hidifs ref = v.hidifs ref)
    (h : runObserved env calls w = .ok (replies, u)) (w' : World)
    (hw' : w'.hidifs ref = w.hidifs ref) :
    ∃ env' u', env.Like env' ∧
      runObserved env' (callsUsing ref calls) w' = .ok (repliesUsing ref calls replies, u') ∧
      u'.hidifs ref = u.hidifs ref := by
  have hobserved : ∀ call ∈ calls, ¬ call.uses = some ref → ∀ v r v',
      call.observed env v = .ok (r, v') → v'.hidifs ref = v.hidifs ref := by
    intro call hmem huses v r v' hobs
    obtain ⟨⟨r', v''⟩, hreply, heq⟩ := except_map_ok.mp hobs
    cases heq
    exact hother call hmem huses v r' v'' hreply
  obtain ⟨ans, u', hrun, hu'⟩ := Components.alone_of_interleaved (C := interfaces)
    (fun (call : PublicCall) ans => call.observed (env.answering ans)) (·.uses = some ref)
    env.answers (fun call hc => observed_isLocal env hc) hobserved h w' hw'
  exact ⟨env.answering ans, u', env.like_answering ans, hrun, hu'⟩

/-- **A client that does not open or close its interface cannot tell whether others use theirs**:
in every run of calls, the calls on an interface have the replies and make the calls to libusb that
they have and make alone, from every state with that interface. -/
theorem replies_alone {calls : List PublicCall} {replies : List (Reply × List Event)}
    (hkeep : ∀ call, .lifecycle call ∈ calls → call.target ≠ some ref)
    (h : runObserved env calls w = .ok (replies, u)) (w' : World)
    (hw' : w'.hidifs ref = w.hidifs ref) :
    ∃ env' u', env.Like env' ∧
      runObserved env' (callsUsing ref calls) w' = .ok (repliesUsing ref calls replies, u') ∧
      u'.hidifs ref = u.hidifs ref :=
  observed_alone (fun _ hmem huses _ _ _ hreply =>
    reply_others huses (fun c hc => hkeep c (hc ▸ hmem)) hreply) h w' hw'

/-- `replies_alone` for a call on an interface while another one is opened and closed. -/
theorem replies_alone_bench : ∃ env' u' replies, (bench [benchDevice 4]).Like env' ∧
    runObserved env' [.hidSetIdle 0 0 0] benchStart = .ok (replies, u') ∧
    replies.map (fun r => r.1.ret) = [.failGetReport] := by
  have hrun : endsWith (fun replies _ => (repliesUsing 0 [.lifecycle (benchOpen 1 1),
        .hidSetIdle 0 0 0, .lifecycle (.hidClose 1)] replies).map (fun r => r.1.ret) ==
          [.failGetReport])
      (runObserved (bench [benchDevice 4]) [.lifecycle (benchOpen 1 1), .hidSetIdle 0 0 0,
        .lifecycle (.hidClose 1)] benchStart) = true := by
    decide +kernel
  obtain ⟨replies, w, h, hp⟩ := exists_of_endsWith hrun
  have hkeep : ∀ call, PublicCall.lifecycle call ∈ [.lifecycle (benchOpen 1 1), .hidSetIdle 0 0 0,
      .lifecycle (.hidClose 1)] → call.target ≠ some 0 := by
    intro call hcall
    simp only [List.mem_cons, PublicCall.lifecycle.injEq, List.not_mem_nil, or_false,
      reduceCtorEq, false_or] at hcall
    rcases hcall with rfl | rfl <;> decide
  obtain ⟨env', u', hlike, halone, -⟩ := replies_alone hkeep h benchStart rfl
  exact ⟨env', u', _, hlike, halone, beq_iff_eq.mp hp⟩

/-- **What clients of several interfaces can observe, in any order of their calls, is what each of
them can observe alone.** -/
theorem interleavings_iff {calls : List PublicCall} {replies : List (Reply × List Event)}
    {final : Ref → HIDInterface} (huses : ∀ call ∈ calls, call.uses.isSome)
    (hlen : replies.length = calls.length) :
    (∃ env' u, env.Like env' ∧ runObserved env' calls w = .ok (replies, u) ∧ u.hidifs = final) ↔
    ∀ ref, ∃ env' u, env.Like env' ∧
      runObserved env' (callsUsing ref calls) w = .ok (repliesUsing ref calls replies, u) ∧
      u.hidifs ref = final ref := by
  constructor
  · rintro ⟨env', u, hlike, hrun, rfl⟩ ref
    have hother : ∀ call ∈ calls, call.uses ≠ some ref → ∀ v r v',
        call.reply env' v = .ok (r, v') → v'.hidifs ref = v.hidifs ref := by
      intro call hmem hne v r v' hreply
      refine reply_others hne (fun c hc => ?_) hreply
      subst hc
      cases huses _ hmem
    obtain ⟨env'', u', hlike', hrun', hu'⟩ := observed_alone hother hrun w rfl
    exact ⟨env'', u', hlike.trans hlike', hrun', hu'⟩
  · intro halone
    have hlocal : ∀ call ∈ calls, ∃ ref, call.uses = some ref ∧
        Alone ref fun ans => call.observed (env.answering ans) := by
      intro call hmem
      obtain ⟨ref, href⟩ := Option.isSome_iff_exists.mp (huses call hmem)
      exact ⟨ref, href, observed_isLocal env href⟩
    obtain ⟨ans, u, hrun, hu⟩ := Components.interleaved_of_alone (C := interfaces)
      (fun (call : PublicCall) ans => call.observed (env.answering ans)) PublicCall.uses hlocal
      hlen fun ref => by
        obtain ⟨env', u, hlike, hrun, hu⟩ := halone ref
        refine ⟨env'.answers, w, u, rfl, ?_, hu⟩
        rw [← hrun, hlike.answering]
        rfl
    exact ⟨env.answering ans, u, env.like_answering ans, hrun, funext hu⟩

/-- Two open interfaces. -/
def twoOpen : World :=
  (benchStart.write 0 { closedInterface with devHandle := some ⟨0, benchDevice 1⟩ }).write 1
    { closedInterface with devHandle := some ⟨1, benchDevice 2⟩ }

/-- What is observed of a `hid_set_idle` that fails. -/
def idleFailed (hidif : HIDInterface) : Reply × List Event :=
  (.status .failGetReport, [.usbControlMsg (setIdleMessage hidif 0 0) 9])

/-- `interleavings_iff` for two interfaces: what each of them is answered alone, both are answered
in turn. -/
theorem interleavings_iff_bench : ∃ env' u, (bench []).Like env' ∧
    runObserved env' [.hidSetIdle 0 0 0, .hidSetIdle 1 0 0] twoOpen =
      .ok ([idleFailed (twoOpen.hidifs 0), idleFailed (twoOpen.hidifs 1)], u) ∧
    u.hidifs = twoOpen.hidifs := by
  refine (interleavings_iff (w := twoOpen) (by simp [PublicCall.uses])
    rfl).mpr fun ref => ?_
  by_cases h₀ : ref = 0
  · subst h₀
    exact ⟨bench [], _, .refl _, rfl, rfl⟩
  · by_cases h₁ : ref = 1
    · subst h₁
      exact ⟨bench [], _, .refl _, rfl, rfl⟩
    · have hnone : callsUsing ref [.hidSetIdle 0 0 0, .hidSetIdle 1 0 0] = [] := by
        simp [Components.callsOf, PublicCall.uses, Ne.symm h₀, Ne.symm h₁]
      have hnone' : repliesUsing ref [.hidSetIdle 0 0 0, .hidSetIdle 1 0 0]
          [idleFailed (twoOpen.hidifs 0), idleFailed (twoOpen.hidifs 1)] = [] := by
        simp [Components.repliesOf, PublicCall.uses, Ne.symm h₀, Ne.symm h₁]
      rw [hnone, hnone']
      exact ⟨bench [], twoOpen, .refl _, rfl, rfl⟩

end Runs

end Libhid
