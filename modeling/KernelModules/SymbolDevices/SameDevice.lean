import KernelModules.SymbolDevices.Drivers

/-!
# Whether the drivers are alike

Both drivers are to return the same numbers and the same data, as far as the smaller buffer goes,
and the reads of a file are to alternate between the text and the end of the file, without storing
more than was asked for (`Lawful`).

`device.c` begins to return the text when `odd` is negative, which it never is, while `mopen.c`
begins when it is zero. So the first read of an open file already tells the drivers apart, and they
are alike exactly as long as nobody reads (`same_device_iff`). In mode 2 `mopen.c` does what it is
to do, if the readers have room for the text: it stores the whole text whatever was asked for
(`mopen_lawful_iff`).
-/

set_option autoImplicit false
set_option relaxedAutoImplicit false

namespace KernelModules.SymbolDevices

open Foundations

variable {size : ℕ}

/-! ### What the device is to do -/

/-- The text that a message leaves in a buffer: what fits, without a newline at its end. -/
def Message.text (message : Message) (size : ℕ) : List UInt8 :=
  let taken := message.bytes.take size
  textUpTo 0 (if taken.getLast? = some newline then taken.dropLast else taken)

/-- The texts of the buffers, and for every file whether the end of the file is next. -/
structure Ideal where
  shared : List UInt8
  own : ℕ → List UInt8
  ended : ℕ → Bool

namespace Ideal

/-- The device after it has been loaded. -/
def start : Ideal := ⟨staticText, fun _ ↦ [], fun _ ↦ false⟩

/-- The text in the buffer of a file. -/
def text (mode : Int32) (ideal : Ideal) (f : ℕ) : List UInt8 :=
  if mode = 2 then ideal.own f else ideal.shared

def setText (mode : Int32) (ideal : Ideal) (f : ℕ) (text : List UInt8) : Ideal :=
  if mode = 2 then { ideal with own := Function.update ideal.own f text }
  else { ideal with shared := text }

/-- What a read is to store: the text and a newline, as far as it was asked for, or nothing. -/
def Stores (mode : Int32) (ideal : Ideal) : Event → Answer → Prop
  | .read f count, .stored bytes =>
    bytes = if ideal.ended f then [] else (ideal.text mode f ++ [newline]).take count.toNat
  | _, _ => True

/-- A file that is opened starts with the text, and every read turns from one to the other. -/
def next (size : ℕ) (dynamicText : List UInt8) (mode : Int32) (ideal : Ideal) :
    Event → Answer → Ideal
  | .openFile f _, .opened =>
    { ideal with
      own := Function.update ideal.own f dynamicText
      ended := Function.update ideal.ended f false }
  | .write f message, .wrote _ => ideal.setText mode f (message.text size)
  | .read f _, .stored _ =>
    { ideal with ended := Function.update ideal.ended f (!ideal.ended f) }
  | _, _ => ideal

end Ideal

/-- The answers of a driver are what the device is to answer. -/
def Lawful (driver : Driver) (dynamicText : List UInt8) (mode : Int32) (events : List Event) :
    Prop :=
  Allows (fun ideal event answer ideal' ↦ ideal.Stores mode event answer ∧
      ideal' = ideal.next driver.size dynamicText mode event answer)
    Ideal.start events (answers (step driver mode) (load driver) events)

/-- An answer as far as a buffer of some size goes. -/
def Answer.upTo (size : ℕ) : Answer → Answer
  | .wrote len => .wrote (min len size)
  | .stored bytes => .stored (bytes.take size)
  | answer => answer

/-- In mode 1 at most one file is open at a time. -/
def OneAtATime (driver : Driver) (mode : Int32) (events : List Event) : Prop :=
  mode = 1 → ∀ k, Single (stateAfter (step driver mode) (load driver) (events.take k))

/-- In mode 2 a file is answered as if the other files did nothing. -/
def Isolated (driver : Driver) (mode : Int32) (events : List Event) : Prop :=
  mode = 2 → ∀ f,
    ((events.zip (answers (step driver mode) (load driver) events)).filter (·.1.file ≠ f)).map
        Prod.snd =
      answers (step driver mode) (load driver) (events.filter (·.file ≠ f))

/-- The drivers are the same device. -/
structure SameDevice (mode : Int32) (events : List Event) : Prop where
  alike : (answers (step mopen mode) (load mopen) events).map (Answer.upTo lenMsg) =
    (answers (step device mode) (load device) events).map (Answer.upTo lenMsg)
  mopenLawful : Lawful mopen mopenText mode events
  deviceLawful : Lawful device deviceText mode events
  mopenOneAtATime : OneAtATime mopen mode events
  deviceOneAtATime : OneAtATime device mode events
  mopenIsolated : Isolated mopen mode events
  deviceIsolated : Isolated device mode events

theorem oneAtATime {driver : Driver} {dynamicText : List UInt8}
    (hdriver : MultiMode driver dynamicText) (mode : Int32) (events : List Event) :
    OneAtATime driver mode events := by
  rintro rfl k
  exact single_run hdriver (events.take k)

theorem isolated_of_multiMode {driver : Driver} {dynamicText : List UInt8}
    (hdriver : MultiMode driver dynamicText) (mode : Int32) (events : List Event) :
    Isolated driver mode events := by
  rintro rfl f
  exact isolated hdriver f events

/-! ### Reads -/

theorem mopenRead_of_zero {data : Data lenMsg} (hodd : data.odd = 0) (count : UInt64) :
    mopenRead count data = (textUpTo 0 data.buf ++ [newline], { data with odd := 1 }) :=
  if_pos (decide_eq_true hodd)

theorem mopenRead_of_one {data : Data lenMsg} (hodd : data.odd = 1) (count : UInt64) :
    mopenRead count data = ([], { data with odd := 0 }) :=
  if_neg (by rw [hodd]; decide)

theorem readDev_of_zero {data : Data bufSize} (hodd : data.odd = 0) (count : UInt64) :
    readDev count data = ([], { data with odd := 0 }) :=
  if_neg (by rw [hodd]; decide)

/-- The flag of a buffer says whether the next read gets the text or the end of it. -/
theorem mopenRead_of_flag {data : Data lenMsg} {ended : Bool}
    (hodd : data.odd = if ended then 1 else 0) (count : UInt64) :
    mopenRead count data = (if ended then [] else textUpTo 0 data.buf ++ [newline],
      { data with odd := if !ended then 1 else 0 }) := by
  cases ended with
  | true => exact mopenRead_of_one hodd count
  | false => exact mopenRead_of_zero hodd count

/-! ### Without reads -/

/-- The call is not a read of an open file. -/
def Unread (state : State size) : Event → Prop
  | .read f _ => state.files f = false
  | _ => True

/-- No buffer has been read. -/
structure Fresh (dev : Device size) : Prop where
  shared : dev.staticBuf.odd = 0
  own : ∀ f, (dev.privateData f).odd = 0

section Fresh

variable {dev : Device size} {mode : Int32} {f : ℕ} {dynamicText : List UInt8}

theorem Fresh.getBuffer (hfresh : Fresh dev) (mode : Int32) (f : ℕ) :
    (getBuffer mode dev f).odd = 0 := by
  unfold SymbolDevices.getBuffer
  split_ifs
  · exact hfresh.own f
  · exact hfresh.shared

/-- A new buffer has not been read. -/
theorem Fresh.update (hfresh : Fresh dev) (f : ℕ) {data : Data size} (hodd : data.odd = 0) :
    Fresh { dev with privateData := Function.update dev.privateData f data } := by
  refine ⟨hfresh.shared, fun g ↦ ?_⟩
  by_cases hg : g = f
  · simp [hg, hodd]
  · simpa [hg] using hfresh.own g

theorem Fresh.putBuffer (hfresh : Fresh dev) (mode : Int32) (f : ℕ) {data : Data size}
    (hodd : data.odd = 0) : Fresh (putBuffer mode dev f data) := by
  unfold SymbolDevices.putBuffer
  split_ifs
  · exact hfresh.update f hodd
  · exact ⟨hodd, hfresh.own⟩

theorem Fresh.openWith (hfresh : Fresh dev) (dynamicText : List UInt8) (mode : Int32)
    (kmalloc : Option (Data size)) (f : ℕ) : Fresh (openWith dynamicText mode kmalloc f dev).2 := by
  by_cases hfree : dev.devOpen = 0
  · by_cases hone : mode = 1
    · rw [hone, openWith_one hfree]
      exact ⟨hfresh.shared, hfresh.own⟩
    · by_cases htwo : mode = 2
      · rw [htwo]
        cases kmalloc with
        | none => rwa [openWith_two_none hfree]
        | some data =>
          rw [openWith_two_some hfree]
          exact hfresh.update f rfl
      · rwa [openWith_other hfree hone htwo]
  · rwa [openWith_busy mode hfree]

theorem Fresh.releaseWith (hfresh : Fresh dev) (mode : Int32) : Fresh (releaseWith mode dev) := by
  unfold SymbolDevices.releaseWith
  split_ifs
  · exact ⟨hfresh.shared, hfresh.own⟩
  · exact hfresh

end Fresh

/-- Whether a file can be opened does not depend on the texts. -/
theorem openWith_alike {size' : ℕ} {dev : Device size} {dev' : Device size'}
    (hcount : dev.devOpen = dev'.devOpen) (dynamicText dynamicText' : List UInt8) (mode : Int32)
    (f : ℕ) (kmalloc : Option ((size : ℕ) → Data size)) :
    (openWith dynamicText mode (kmalloc.map (· size)) f dev).1 =
        (openWith dynamicText' mode (kmalloc.map (· size')) f dev').1 ∧
      (openWith dynamicText mode (kmalloc.map (· size)) f dev).2.devOpen =
        (openWith dynamicText' mode (kmalloc.map (· size')) f dev').2.devOpen := by
  by_cases hfree : dev'.devOpen = 0
  · by_cases hone : mode = 1
    · rw [hone, openWith_one hfree, openWith_one (hcount.trans hfree)]
      exact ⟨rfl, rfl⟩
    · by_cases htwo : mode = 2
      · rw [htwo]
        cases kmalloc with
        | none =>
          rw [Option.map_none, Option.map_none, openWith_two_none hfree,
            openWith_two_none (hcount.trans hfree)]
          exact ⟨rfl, hcount⟩
        | some memory =>
          rw [Option.map_some, Option.map_some, openWith_two_some hfree,
            openWith_two_some (hcount.trans hfree)]
          exact ⟨rfl, hcount⟩
      · rw [openWith_other hfree hone htwo, openWith_other (hcount.trans hfree) hone htwo]
        exact ⟨rfl, hcount⟩
  · rw [openWith_busy mode hfree, openWith_busy mode (hcount ▸ hfree)]
    exact ⟨rfl, hcount⟩

theorem devOpen_releaseWith {size' : ℕ} {dev : Device size} {dev' : Device size'}
    (hcount : dev.devOpen = dev'.devOpen) (mode : Int32) :
    (releaseWith mode dev).devOpen = (releaseWith mode dev').devOpen := by
  unfold releaseWith
  split_ifs
  · exact congrArg (· - 1) hcount
  · exact hcount

/-- The number of bytes that a write takes, as far as the smaller buffer goes. -/
theorem min_len (length : ℕ) :
    min (if length < lenMsg then length else lenMsg) lenMsg =
      min (if length < bufSize then length else bufSize) lenMsg := by
  unfold lenMsg bufSize
  split_ifs <;> omega

/-- Both drivers have the same files open, and nobody has read. -/
structure InStep (state : State mopen.size) (state' : State device.size) : Prop where
  devOpen : state.device.devOpen = state'.device.devOpen
  files : state.files = state'.files
  fresh : Fresh state.device
  fresh' : Fresh state'.device

theorem inStep_load : InStep (load mopen) (load device) :=
  ⟨rfl, rfl, ⟨rfl, fun _ ↦ rfl⟩, ⟨rfl, fun _ ↦ rfl⟩⟩

section InStep

variable {mode : Int32} {state : State mopen.size} {state' : State device.size}

/-- Without a read, the drivers answer alike, and have the same files open afterwards. -/
theorem InStep.next (hstep : InStep state state') {event : Event} (hunread : Unread state event)
    (mode : Int32) :
    (step mopen mode state event).1.upTo lenMsg = (step device mode state' event).1.upTo lenMsg ∧
      InStep (step mopen mode state event).2 (step device mode state' event).2 := by
  have hfresh := hstep.fresh
  have hfresh' := hstep.fresh'
  rw [step, step, ← hstep.files]
  split_ifs with hreaches
  · cases event with
    | openFile f kmalloc =>
      obtain ⟨hanswer, hcount⟩ := openWith_alike hstep.devOpen mopenText deviceText mode f kmalloc
      have hcalled : (mopen.openFile mode (kmalloc.map (· mopen.size)) f state.device).1 =
        (device.openFile mode (kmalloc.map (· device.size)) f state'.device).1 := hanswer
      refine ⟨congrArg (Answer.upTo lenMsg) hanswer, hcount, ?_, hfresh.openWith _ _ _ _,
        hfresh'.openWith _ _ _ _⟩
      simp only [call, hcalled, hstep.files]
    | write f message =>
      refine ⟨congrArg Answer.wrote (min_len message.bytes.length), ?_, hstep.files,
        hfresh.putBuffer mode f (hfresh.getBuffer mode f),
        hfresh'.putBuffer mode f (hfresh'.getBuffer mode f)⟩
      exact (devOpen_putBuffer _ _ _ _).trans
        (hstep.devOpen.trans (devOpen_putBuffer _ _ _ _).symm)
    | read f count =>
      have hclosed : state.files f = false := hunread
      exact absurd (hclosed.symm.trans hreaches) Bool.false_ne_true
    | release f =>
      refine ⟨rfl, ?_, ?_, hfresh.releaseWith mode, hfresh'.releaseWith mode⟩
      · exact devOpen_releaseWith hstep.devOpen mode
      · simp only [call, hstep.files]
  · exact ⟨rfl, hstep⟩

/-- The first read of a buffer returns the text with a newline in `mopen_read`, and nothing in
`read_dev`. -/
theorem InStep.read_differs (hstep : InStep state state') {f : ℕ} (hopen : state.files f = true)
    (mode : Int32) (count : UInt64) :
    (step mopen mode state (.read f count)).1.upTo lenMsg ≠
      (step device mode state' (.read f count)).1.upTo lenMsg := by
  have hopen' : state'.files f = true := by rw [← hstep.files, hopen]
  have hodd := hstep.fresh.getBuffer mode f
  have hodd' := hstep.fresh'.getBuffer mode f
  have hfirst : (step mopen mode state (.read f count)).1 =
      .stored (textUpTo 0 (getBuffer mode state.device f).buf ++ [newline]) := by
    rw [step_read mode hopen]
    exact congrArg (Answer.stored ·.1) (mopenRead_of_zero hodd count)
  have hsecond : (step device mode state' (.read f count)).1 = .stored [] := by
    rw [step_read mode hopen']
    exact congrArg (Answer.stored ·.1) (readDev_of_zero hodd' count)
  rw [hfirst, hsecond]
  intro hsame
  have hlength := congrArg List.length (Answer.stored.inj hsame)
  simp [lenMsg] at hlength

/-- From states in step, the drivers answer alike just as long as nobody reads. -/
theorem InStep.alike_iff (hstep : InStep state state') (mode : Int32) (events : List Event) :
    (answers (step mopen mode) state events).map (Answer.upTo lenMsg) =
        (answers (step device mode) state' events).map (Answer.upTo lenMsg) ↔
      Along (fun state event ↦ (step mopen mode state event).2) Unread state events := by
  induction events generalizing state state' with
  | nil => exact iff_of_true rfl trivial
  | cons event events ih =>
    rw [answers, answers, List.map_cons, List.map_cons, List.cons.injEq]
    by_cases hunread : Unread state event
    · obtain ⟨hanswer, hnext⟩ := hstep.next hunread mode
      rw [ih hnext]
      exact and_congr_left' (iff_of_true hanswer hunread)
    · refine iff_of_false (fun hsame ↦ ?_) fun halong ↦ hunread halong.1
      cases event with
      | read f count =>
        exact hstep.read_differs (Bool.eq_true_of_not_eq_false hunread) mode count hsame.1
      | openFile f kmalloc => exact hunread trivial
      | write f message => exact hunread trivial
      | release f => exact hunread trivial

/-- As long as nobody reads, the files that are open are the same for both drivers. -/
theorem InStep.unread (hstep : InStep state state') (mode : Int32) {events : List Event}
    (halong : Along (fun state event ↦ (step mopen mode state event).2) Unread state events) :
    Along (fun state event ↦ (step device mode state event).2) Unread state' events := by
  induction events generalizing state state' with
  | nil => trivial
  | cons event events ih =>
    have hunread : Unread state' event ↔ Unread state event := by
      cases event <;> simp [Unread, hstep.files]
    exact ⟨hunread.mpr halong.1, ih (hstep.next halong.1 mode).2 halong.2⟩

end InStep

/-- Where nothing is read, nothing is stored. -/
theorem stores_of_unread {driver : Driver} {mode : Int32} {state : State driver.size}
    {event : Event} (hunread : Unread state event) (ideal : Ideal) :
    ideal.Stores mode event (step driver mode state event).1 := by
  cases event with
  | read f count =>
    rw [step_read_closed mode hunread]
    trivial
  | openFile f kmalloc => trivial
  | write f message => trivial
  | release f => trivial

theorem lawful_of_unread {driver : Driver} (dynamicText : List UInt8) {mode : Int32}
    {events : List Event}
    (halong : Along (fun state event ↦ (step driver mode state event).2) Unread (load driver)
      events) : Lawful driver dynamicText mode events := by
  unfold Lawful
  generalize Ideal.start = ideal
  generalize load driver = state at halong
  induction events generalizing state ideal with
  | nil => trivial
  | cons event events ih =>
    exact ⟨_, ⟨stores_of_unread halong.1 ideal, rfl⟩, ih _ _ halong.2⟩

/-! ### A driver that keeps the law -/

theorem textUpTo_strcpy (data : Data size) {text : List UInt8} (htext : 0 ∉ text)
    (hlength : text.length ≤ size) : textUpTo 0 (data.strcpy text).buf = text := by
  have hcopy : (data.strcpy text).buf =
      (text ++ [0]) ++ data.buf.drop (text ++ [0]).length := writeAt_start (by
    rw [List.length_append, List.length_singleton, data.length_buf]
    omega)
  rw [hcopy, List.append_assoc]
  exact textUpTo_append htext _

/-- A zero over the newline at the end of some bytes, or behind them. -/
theorem textUpTo_ended {taken rest : List UInt8} (htaken : taken ≠ []) (hrest : rest ≠ []) :
    textUpTo 0 (if byteAt (taken ++ rest) (taken.length - 1) = newline then
        writeAt (taken ++ rest) (taken.length - 1) [0]
      else writeAt (taken ++ rest) taken.length [0]) =
      textUpTo 0 (if taken.getLast? = some newline then taken.dropLast else taken) := by
  have hpos := List.length_pos_iff.mpr htaken
  have hlast : byteAt (taken ++ rest) (taken.length - 1) = newline ↔
      taken.getLast? = some newline := by
    rw [byteAt_append_left _ (by omega), byteAt_last_eq_iff (by decide)]
  simp only [hlast]
  split_ifs with hnewline
  · obtain ⟨front, rfl⟩ := List.getLast?_eq_some_iff.mp hnewline
    have hover : writeAt ([newline] ++ rest) 0 [0] = [0] ++ rest := writeAt_zero rest rfl
    have hwrite := writeAt_append front ([newline] ++ rest) 0 [0]
    rw [Nat.add_zero, hover] at hwrite
    rw [List.dropLast_concat, List.length_append, List.length_singleton, Nat.add_sub_cancel,
      List.append_assoc, hwrite]
    exact textUpTo_append_cons 0 front rest
  · obtain ⟨byte, behind, rfl⟩ := List.exists_cons_of_ne_nil hrest
    have hover : writeAt ([byte] ++ behind) 0 [0] = [0] ++ behind := writeAt_zero behind rfl
    have hwrite := writeAt_append taken ([byte] ++ behind) 0 [0]
    rw [Nat.add_zero, hover] at hwrite
    exact (congrArg (textUpTo 0) hwrite).trans (textUpTo_append_cons 0 taken behind)

/-- A write leaves the text of the message in the buffer. -/
theorem textUpTo_writeBuf (message : Message) {buf : List UInt8} (hbuf : buf.length = size + 1)
    (hsize : 0 < size) : textUpTo 0 (writeBuf size message.bytes buf) = message.text size := by
  have hbytes := List.length_pos_iff.mpr message.nonempty
  have hlen : (if message.bytes.length < size then message.bytes.length else size) =
      min size message.bytes.length := by
    split_ifs <;> omega
  have hlength : (message.bytes.take size).length = min size message.bytes.length :=
    List.length_take
  have htake : message.bytes.take (min size message.bytes.length) = message.bytes.take size :=
    List.take_eq_take_min.symm
  have hcopy : writeAt buf 0 (message.bytes.take size) =
      message.bytes.take size ++ buf.drop (message.bytes.take size).length :=
    writeAt_start (by omega)
  have htaken : message.bytes.take size ≠ [] := List.ne_nil_of_length_pos (by omega)
  have hrest : buf.drop (message.bytes.take size).length ≠ [] := List.ne_nil_of_length_pos (by
    rw [List.length_drop]
    omega)
  have hended := textUpTo_ended htaken hrest
  rw [← hcopy, hlength, ← htake] at hended
  simp only [writeBuf, hlen]
  rw [hended, htake, Message.text]

/-- The readers that get the text have room for it and a newline. -/
def Roomy (state : State mopen.size) : Event → Prop
  | .read f count => state.files f = true → (state.device.privateData f).odd = 0 →
      (textUpTo 0 (state.device.privateData f).buf).length < count.toNat
  | _ => True

/-- A file that is open has the text of the ideal device in its buffer, and its flag. -/
def Slot.Tells (slot : Slot mopen.size) (text : List UInt8) (ended : Bool) : Prop :=
  slot.isOpen = true →
    textUpTo 0 slot.data.buf = text ∧ slot.data.odd = if ended then 1 else 0

/-- The driver in mode 2 and the ideal device. -/
structure Tells (state : State mopen.size) (ideal : Ideal) : Prop where
  free : state.device.devOpen = 0
  slot : ∀ f, (state.slot f).Tells (ideal.own f) (ideal.ended f)

theorem tells_load : Tells (load mopen) Ideal.start :=
  ⟨rfl, fun _ hopen ↦ absurd hopen Bool.false_ne_true⟩

theorem Ideal.next_ebadf (size : ℕ) (dynamicText : List UInt8) (mode : Int32) (ideal : Ideal)
    (event : Event) : ideal.next size dynamicText mode event .ebadf = ideal := by
  cases event <;> rfl

/-- A call on one file does not concern the others. -/
theorem Ideal.next_of_ne (size : ℕ) (dynamicText : List UInt8) (ideal : Ideal) {event : Event}
    (answer : Answer) {g : ℕ} (hg : g ≠ event.file) :
    (ideal.next size dynamicText 2 event answer).own g = ideal.own g ∧
      (ideal.next size dynamicText 2 event answer).ended g = ideal.ended g := by
  cases event with
  | openFile f kmalloc =>
    have hf : g ≠ f := hg
    cases answer <;> simp [Ideal.next, hf]
  | write f message =>
    have hf : g ≠ f := hg
    cases answer <;> simp [Ideal.next, Ideal.setText, hf]
  | read f count =>
    have hf : g ≠ f := hg
    cases answer <;> simp [Ideal.next, hf]
  | release f => cases answer <;> exact ⟨rfl, rfl⟩

/-- A call on a file does to the file what it does to the ideal device. -/
theorem Slot.Tells.next {slot : Slot mopen.size} {ideal : Ideal} {event : Event}
    (htells : slot.Tells (ideal.own event.file) (ideal.ended event.file)) :
    (slotStep mopen mopenText slot event).2.Tells
      ((ideal.next lenMsg mopenText 2 event (slotStep mopen mopenText slot event).1).own event.file)
      ((ideal.next lenMsg mopenText 2 event (slotStep mopen mopenText slot event).1).ended
        event.file) := by
  rw [slotStep]
  split_ifs with hreaches
  · cases event with
    | openFile f kmalloc =>
      cases kmalloc with
      | none => exact htells
      | some memory =>
        intro hopen
        have htext : textUpTo 0 ((memory mopen.size).strcpy mopenText).buf = mopenText :=
          textUpTo_strcpy _ (by decide) (by decide)
        simpa [slotCall, Ideal.next, Event.file] using htext
    | write f message =>
      intro hopen
      have hown : (ideal.setText 2 f (message.text lenMsg)).own f = message.text lenMsg :=
        Function.update_self _ _ _
      obtain ⟨-, hodd⟩ := htells hopen
      refine ⟨?_, hodd⟩
      exact (textUpTo_writeBuf message slot.data.length_buf (by decide)).trans hown.symm
    | read f count =>
      intro hopen
      obtain ⟨htext, hodd⟩ := htells hopen
      have hended : Function.update ideal.ended f (!ideal.ended f) f = !ideal.ended f :=
        Function.update_self _ _ _
      have hread := mopenRead_of_flag hodd count
      change textUpTo 0 (mopenRead count slot.data).2.buf = ideal.own f ∧
        (mopenRead count slot.data).2.odd =
          if Function.update ideal.ended f (!ideal.ended f) f then 1 else 0
      rw [hended, hread]
      exact ⟨htext, rfl⟩
    | release f => exact fun hopen ↦ absurd hopen Bool.false_ne_true
  · rw [Ideal.next_ebadf]
    exact htells

theorem Tells.next {state : State mopen.size} {ideal : Ideal} (htells : Tells state ideal)
    (event : Event) : Tells (step mopen 2 state event).2
      (ideal.next lenMsg mopenText 2 event (step mopen 2 state event).1) := by
  rw [step_two multiMode_mopen htells.free]
  refine ⟨htells.free, fun g ↦ ?_⟩
  by_cases hg : g = event.file
  · rw [hg, State.slot_setSlot_self]
    exact (htells.slot event.file).next
  · obtain ⟨hown, hended⟩ := ideal.next_of_ne lenMsg mopenText
      (slotStep mopen mopenText (state.slot event.file) event).1 hg
    rw [State.slot_setSlot_of_ne _ hg, hown, hended]
    exact htells.slot g

/-- What a read stores is what the ideal device stores if there is room. -/
theorem Tells.stores_iff {state : State mopen.size} {ideal : Ideal} (htells : Tells state ideal)
    (event : Event) : ideal.Stores 2 event (step mopen 2 state event).1 ↔ Roomy state event := by
  cases event with
  | read f count =>
    rw [Roomy]
    cases hopen : state.files f with
    | false =>
      rw [step_read_closed 2 hopen]
      exact iff_of_true trivial fun hfalse ↦ absurd hfalse Bool.false_ne_true
    | true =>
      obtain ⟨htext, hodd⟩ := htells.slot f hopen
      have htext' : textUpTo 0 (state.device.privateData f).buf = ideal.own f := htext
      have hodd' : (state.device.privateData f).odd = if ideal.ended f then 1 else 0 := hodd
      have hstored : (step mopen 2 state (.read f count)).1 =
          .stored (if ideal.ended f then [] else ideal.own f ++ [newline]) := by
        rw [step_read 2 hopen, ← htext']
        exact congrArg (Answer.stored ·.1) (mopenRead_of_flag hodd' count)
      rw [hstored, Ideal.Stores, hodd', htext']
      cases ideal.ended f with
      | true => exact iff_of_true rfl fun _ hzero ↦ absurd hzero (by decide)
      | false =>
        have hroom : ideal.own f ++ [newline] = (ideal.own f ++ [newline]).take count.toNat ↔
            (ideal.own f).length < count.toNat := by
          rw [eq_comm, List.take_eq_self_iff, List.length_append, List.length_singleton,
            Nat.succ_le_iff]
        exact hroom.trans ⟨fun hlt _ _ ↦ hlt, fun hlt ↦ hlt rfl rfl⟩
  | openFile f kmalloc => exact Iff.rfl
  | write f message => exact Iff.rfl
  | release f => exact Iff.rfl

/-- In mode 2 `mopen.c` does what it is to do, as long as the readers that get the text have room
for it. -/
theorem mopen_lawful_iff (events : List Event) :
    Lawful mopen mopenText 2 events ↔
      Along (fun state event ↦ (step mopen 2 state event).2) Roomy (load mopen) events := by
  have htells := tells_load
  unfold Lawful
  generalize Ideal.start = ideal at htells ⊢
  generalize load mopen = state at htells ⊢
  induction events generalizing state ideal with
  | nil => exact Iff.rfl
  | cons event events ih =>
    have hrest := ih _ _ (htells.next event)
    have hfirst := htells.stores_iff event
    constructor
    · rintro ⟨ideal', ⟨hstores, rfl⟩, hallows⟩
      exact ⟨hfirst.mp hstores, hrest.mp hallows⟩
    · rintro ⟨hroomy, halong⟩
      exact ⟨_, ⟨hfirst.mpr hroomy, rfl⟩, hrest.mpr halong⟩

/-! ### The comparison -/

/-- The drivers are the same device exactly as long as nobody reads an open file. In every run, at
most one file is open at a time in mode 1, and in mode 2 no file notices the others. -/
theorem same_device_iff (mode : Int32) (events : List Event) :
    (SameDevice mode events ↔
        Along (fun state event ↦ (step mopen mode state event).2) Unread (load mopen) events) ∧
      (OneAtATime mopen mode events ∧ OneAtATime device mode events) ∧
      (Isolated mopen mode events ∧ Isolated device mode events) := by
  have hsingle := oneAtATime multiMode_mopen mode events
  have hsingle' := oneAtATime multiMode_device mode events
  have hisolated := isolated_of_multiMode multiMode_mopen mode events
  have hisolated' := isolated_of_multiMode multiMode_device mode events
  refine ⟨⟨fun hsame ↦ ?_, fun hunread ↦ ?_⟩, ⟨hsingle, hsingle'⟩, ⟨hisolated, hisolated'⟩⟩
  · exact (inStep_load.alike_iff mode events).mp hsame.alike
  · exact
      { alike := (inStep_load.alike_iff mode events).mpr hunread
        mopenLawful := lawful_of_unread mopenText hunread
        deviceLawful := lawful_of_unread deviceText (inStep_load.unread mode hunread)
        mopenOneAtATime := hsingle
        deviceOneAtATime := hsingle'
        mopenIsolated := hisolated
        deviceIsolated := hisolated' }

theorem letter_ne_nil : [(0x61 : UInt8)] ≠ [] :=
  List.cons_ne_nil _ _

/-- A file is opened, the letter `a` is written and 80 bytes are asked for. -/
def oneLetter : List Event :=
  [.openFile 0 none, .write 0 ⟨[0x61], letter_ne_nil⟩, .read 0 80]

/-- One driver returns the letter and a newline, the other the end of the file. -/
theorem drivers_differ :
    answers (step mopen 0) (load mopen) oneLetter = [.opened, .wrote 1, .stored [0x61, 0x0a]] ∧
      answers (step device 0) (load device) oneLetter = [.opened, .wrote 1, .stored []] ∧
      ¬SameDevice 0 oneLetter := by
  have hfirst : answers (step mopen 0) (load mopen) oneLetter =
      [.opened, .wrote 1, .stored [0x61, 0x0a]] := by decide
  have hsecond : answers (step device 0) (load device) oneLetter =
      [.opened, .wrote 1, .stored []] := by decide
  refine ⟨hfirst, hsecond, fun hsame ↦ ?_⟩
  have halike := hsame.alike
  rw [hfirst, hsecond] at halike
  exact absurd halike (by decide)

end KernelModules.SymbolDevices
