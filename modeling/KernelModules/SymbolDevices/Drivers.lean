import KernelModules.Foundations.Bytes
import KernelModules.Foundations.Runs
import KernelModules.Foundations.Strings
import Mathlib.Logic.Function.Basic

/-!
# Two drivers of one device

`device.c` and `mopen.c` are two drivers for a device that keeps a text. In mode 1 the device can be
opened once at a time, in mode 2 every file has a buffer of its own, and otherwise all files share
one. A write replaces the text. A read is to return the text and a newline, and the next one the end
of the file; which of the two comes next is kept in `odd`, next to the text.

The drivers have the same functions up to names, the size of the buffer, the first text of a new
buffer and the test of `odd`. What they have in common is written once, with the differences as
parameters. The kernel calls a driver for open files only.

In mode 1 no two files are ever open together (`single_run`), and in mode 2 no file notices what the
others do (`isolated`). Both hold of both drivers.
-/

set_option autoImplicit false
set_option relaxedAutoImplicit false

namespace KernelModules.SymbolDevices

open Foundations

/-! ### Buffers -/

/-- The bytes of a text. -/
def ascii (text : String) : List UInt8 := text.toList.map fun c ↦ UInt8.ofNat c.toNat

/-- The text of the shared buffer when a module is loaded. -/
def staticText : List UInt8 := ascii "static: not initialized!"

/-- `struct device_data` and `struct mopen_data`. -/
structure Data (size : ℕ) where
  buf : List UInt8
  odd : Int32
  length_buf : buf.length = size + 1

/-- A message that is written, of at least one byte. -/
structure Message where
  bytes : List UInt8
  nonempty : bytes ≠ []

variable {size : ℕ}

/-- `strcpy` to the buffer. -/
def Data.strcpy (data : Data size) (text : List UInt8) : Data size where
  buf := writeAt data.buf 0 (text ++ [0])
  odd := data.odd
  length_buf := by rw [length_writeAt, data.length_buf]

/-- `static_buf`. -/
def staticBuf (size : ℕ) : Data size where
  buf := writeAt (List.replicate (size + 1) 0) 0 staticText
  odd := 0
  length_buf := by rw [length_writeAt, List.length_replicate]

/-- The data of a driver. The memory that `private_data` of a file points to is the file's. -/
structure Device (size : ℕ) where
  devOpen : Int32
  staticBuf : Data size
  privateData : ℕ → Data size

/-- What a call returns. A read has stored as many bytes as it returns. The kernel itself answers
for a file that is not open. -/
inductive Answer
  | opened
  | ebusy
  | enomem
  | released
  | wrote (len : ℕ)
  | stored (bytes : List UInt8)
  | ebadf
  deriving DecidableEq, Repr

/-! ### The functions of the drivers -/

/-- What `open_dev` and `mopen_open` do. The memory that `kmalloc` returns is not initialised. -/
def openWith (dynamicText : List UInt8) (mode : Int32) (kmalloc : Option (Data size)) (f : ℕ)
    (dev : Device size) : Answer × Device size :=
  if dev.devOpen ≠ 0 then (.ebusy, dev)
  else
    let dev := if mode = 1 then { dev with devOpen := dev.devOpen + 1 } else dev
    if mode = 2 then
      match kmalloc with
      | none => (.enomem, dev)
      | some data =>
        (.opened,
          { dev with
            privateData :=
              Function.update dev.privateData f { data.strcpy dynamicText with odd := 0 } })
    else (.opened, dev)

/-- What `release_dev` and `mopen_release` do. In mode 2 the memory of the file goes with it. -/
def releaseWith (mode : Int32) (dev : Device size) : Device size :=
  if mode = 1 then { dev with devOpen := dev.devOpen - 1 } else dev

/-- `get_buffer`. -/
def getBuffer (mode : Int32) (dev : Device size) (f : ℕ) : Data size :=
  if mode = 2 then dev.privateData f else dev.staticBuf

/-- A change of what `get_buffer` points to. -/
def putBuffer (mode : Int32) (dev : Device size) (f : ℕ) (data : Data size) : Device size :=
  if mode = 2 then { dev with privateData := Function.update dev.privateData f data }
  else { dev with staticBuf := data }

/-- What `read_dev` and `mopen_read` do when they have looked at `odd`: the text and a newline are
stored, or nothing. -/
def readWith (begins : Bool) (data : Data size) : List UInt8 × Data size :=
  if begins then (textUpTo 0 data.buf ++ [newline], { data with odd := 1 })
  else ([], { data with odd := 0 })

/-- What a write makes of the buffer. -/
def writeBuf (size : ℕ) (bytes buf : List UInt8) : List UInt8 :=
  let len := if bytes.length < size then bytes.length else size
  let buf := writeAt buf 0 (bytes.take len)
  if byteAt buf (len - 1) = newline then writeAt buf (len - 1) [0] else writeAt buf len [0]

@[simp] theorem length_writeBuf (bytes buf : List UInt8) :
    (writeBuf size bytes buf).length = buf.length := by
  unfold writeBuf
  dsimp only
  split_ifs <;> simp

/-- What `write_dev` and `mopen_write` do. -/
def writeWith (message : Message) (data : Data size) : ℕ × Data size :=
  (if message.bytes.length < size then message.bytes.length else size,
    { buf := writeBuf size message.bytes data.buf
      odd := data.odd
      length_buf := by rw [length_writeBuf, data.length_buf] })

/-- `LEN_MSG`. -/
def lenMsg : ℕ := 256

/-- The text of a new buffer in `mopen_open`. -/
def mopenText : List UInt8 := ascii "dynamic: not initialized!"

/-- `mopen_open`. -/
def mopenOpen : Int32 → Option (Data lenMsg) → ℕ → Device lenMsg → Answer × Device lenMsg :=
  openWith mopenText

/-- `mopen_release`. -/
def mopenRelease : Int32 → Device lenMsg → Device lenMsg := releaseWith

/-- `mopen_read`. It does not look at the number of bytes asked for. -/
def mopenRead (_count : UInt64) (data : Data lenMsg) : List UInt8 × Data lenMsg :=
  readWith (data.odd = 0) data

/-- `mopen_write`. -/
def mopenWrite : Message → Data lenMsg → ℕ × Data lenMsg := writeWith

/-- `BUF_SIZE`. -/
def bufSize : ℕ := 1024

/-- The text of a new buffer in `open_dev`. -/
def deviceText : List UInt8 := ascii "dynamic: not initialized"

/-- `open_dev`. -/
def openDev : Int32 → Option (Data bufSize) → ℕ → Device bufSize → Answer × Device bufSize :=
  openWith deviceText

/-- `release_dev`. -/
def releaseDev : Int32 → Device bufSize → Device bufSize := releaseWith

/-- `read_dev`. It does not look at the number of bytes asked for, and tests whether `odd` is
negative. -/
def readDev (_count : UInt64) (data : Data bufSize) : List UInt8 × Data bufSize :=
  readWith (data.odd < 0) data

/-- `write_dev`. -/
def writeDev : Message → Data bufSize → ℕ × Data bufSize := writeWith

/-! ### Files -/

/-- The file operations of a driver. -/
structure Driver where
  size : ℕ
  openFile : Int32 → Option (Data size) → ℕ → Device size → Answer × Device size
  release : Int32 → Device size → Device size
  read : UInt64 → Data size → List UInt8 × Data size
  write : Message → Data size → ℕ × Data size

/-- `mopen_fops`. -/
def mopen : Driver := ⟨lenMsg, mopenOpen, mopenRelease, mopenRead, mopenWrite⟩

/-- `dev_fops`. -/
def device : Driver := ⟨bufSize, openDev, releaseDev, readDev, writeDev⟩

/-- A call on a file. If `kmalloc` succeeds when a file is opened, it finds some memory for whatever
size is asked for. -/
inductive Event
  | openFile (f : ℕ) (kmalloc : Option ((size : ℕ) → Data size))
  | write (f : ℕ) (message : Message)
  | read (f : ℕ) (count : UInt64)
  | release (f : ℕ)

/-- The file of a call. -/
def Event.file : Event → ℕ
  | .openFile f _ => f
  | .write f _ => f
  | .read f _ => f
  | .release f => f

/-- The kernel passes a call on to the driver, if a new file is opened or the file is open. -/
def Event.reaches (isOpen : Bool) : Event → Bool
  | .openFile _ _ => !isOpen
  | .write _ _ => isOpen
  | .read _ _ => isOpen
  | .release _ => isOpen

/-- A driver and the files that are open. -/
structure State (size : ℕ) where
  device : Device size
  files : ℕ → Bool

/-- The state when the module has been loaded. -/
def load (driver : Driver) : State driver.size where
  device :=
    { devOpen := 0
      staticBuf := staticBuf driver.size
      privateData := fun _ ↦ staticBuf driver.size }
  files := fun _ ↦ false

/-- The driver is called. -/
def call (driver : Driver) (mode : Int32) (state : State driver.size) :
    Event → Answer × State driver.size
  | .openFile f kmalloc =>
    let called := driver.openFile mode (kmalloc.map (· driver.size)) f state.device
    (called.1,
      { device := called.2
        files := if called.1 = .opened then Function.update state.files f true else state.files })
  | .write f message =>
    let called := driver.write message (getBuffer mode state.device f)
    (.wrote called.1, { state with device := putBuffer mode state.device f called.2 })
  | .read f count =>
    let called := driver.read count (getBuffer mode state.device f)
    (.stored called.1, { state with device := putBuffer mode state.device f called.2 })
  | .release f =>
    (.released,
      { device := driver.release mode state.device
        files := Function.update state.files f false })

/-- A call on a file, which may not reach the driver. -/
def step (driver : Driver) (mode : Int32) (state : State driver.size) (event : Event) :
    Answer × State driver.size :=
  if event.reaches (state.files event.file) then call driver mode state event else (.ebadf, state)

section Reads

variable {driver : Driver} {state : State driver.size} {f : ℕ}

theorem step_read (mode : Int32) (hopen : state.files f = true) (count : UInt64) :
    step driver mode state (.read f count) = call driver mode state (.read f count) :=
  if_pos hopen

theorem step_read_closed (mode : Int32) (hclosed : state.files f = false) (count : UInt64) :
    step driver mode state (.read f count) = (.ebadf, state) :=
  if_neg (by simp [Event.reaches, Event.file, hclosed])

end Reads

/-- All functions but the one that reads are the common ones. -/
structure MultiMode (driver : Driver) (dynamicText : List UInt8) : Prop where
  openFile : driver.openFile = openWith dynamicText
  release : driver.release = releaseWith
  write : driver.write = writeWith

theorem multiMode_mopen : MultiMode mopen mopenText := ⟨rfl, rfl, rfl⟩

theorem multiMode_device : MultiMode device deviceText := ⟨rfl, rfl, rfl⟩

@[simp] theorem devOpen_putBuffer (mode : Int32) (dev : Device size) (f : ℕ) (data : Data size) :
    (putBuffer mode dev f data).devOpen = dev.devOpen := by
  unfold putBuffer
  split_ifs <;> rfl

section Modes

variable {driver : Driver} {dynamicText : List UInt8} {dev : Device size}
  {kmalloc : Option (Data size)} {f : ℕ}

/-! ### Mode 1 -/

/-- No two files are open together. -/
def Single (state : State size) : Prop :=
  ∀ f g, state.files f = true → state.files g = true → f = g

/-- `dev_open` counts the open file. -/
def Counted (state : State size) : Prop :=
  (state.device.devOpen = 0 ∧ ∀ g, state.files g = false) ∨
    (state.device.devOpen = 1 ∧ ∃ f, ∀ g, state.files g = true ↔ g = f)

theorem Counted.single {state : State size} (hcounted : Counted state) : Single state := by
  intro f g hf hg
  rcases hcounted with ⟨-, hnone⟩ | ⟨-, only, honly⟩
  · exact absurd hf (by simp [hnone f])
  · rw [(honly f).mp hf, (honly g).mp hg]

theorem counted_load (driver : Driver) : Counted (load driver) := Or.inl ⟨rfl, fun _ ↦ rfl⟩

theorem openWith_busy (mode : Int32) (hbusy : dev.devOpen ≠ 0) :
    openWith dynamicText mode kmalloc f dev = (.ebusy, dev) := if_pos hbusy

theorem openWith_one (hfree : dev.devOpen = 0) :
    openWith dynamicText 1 kmalloc f dev = (.opened, { dev with devOpen := 1 }) := by
  simp [openWith, hfree]

theorem openWith_other {mode : Int32} (hfree : dev.devOpen = 0) (hone : mode ≠ 1)
    (htwo : mode ≠ 2) : openWith dynamicText mode kmalloc f dev = (.opened, dev) := by
  rw [openWith, if_neg (not_not_intro hfree), if_neg hone, if_neg htwo]

theorem Counted.openFile (hdriver : MultiMode driver dynamicText) {state : State driver.size}
    (hcounted : Counted state) (kmalloc : Option ((size : ℕ) → Data size)) :
    Counted (call driver 1 state (.openFile f kmalloc)).2 := by
  rw [call, hdriver.openFile]
  rcases hcounted with ⟨hfree, hnone⟩ | ⟨hbusy, honly⟩
  · rw [openWith_one hfree]
    refine Or.inr ⟨rfl, f, fun g ↦ ?_⟩
    by_cases hg : g = f
    · simp [hg]
    · simp [hg, hnone g]
  · rw [openWith_busy 1 (by rw [hbusy]; decide)]
    exact Or.inr ⟨hbusy, honly⟩

theorem Counted.release (hdriver : MultiMode driver dynamicText) {state : State driver.size}
    (hcounted : Counted state) (hfile : state.files f = true) :
    Counted (call driver 1 state (.release f)).2 := by
  rw [call, hdriver.release]
  rcases hcounted with ⟨-, hnone⟩ | ⟨hbusy, only, honly⟩
  · exact absurd hfile (by simp [hnone f])
  · obtain rfl : f = only := (honly f).mp hfile
    refine Or.inl ⟨?_, fun g ↦ ?_⟩
    · change (releaseWith 1 state.device).devOpen = 0
      rw [releaseWith, if_pos rfl, hbusy]
      rfl
    · change Function.update state.files f false g = false
      by_cases hg : g = f
      · rw [hg, Function.update_self]
      · rw [Function.update_of_ne hg]
        exact Bool.eq_false_iff.mpr fun hopen ↦ hg ((honly g).mp hopen)

theorem Counted.step (hdriver : MultiMode driver dynamicText) {state : State driver.size}
    (hcounted : Counted state) (event : Event) : Counted (step driver 1 state event).2 := by
  unfold SymbolDevices.step
  split_ifs with hreaches
  · cases event with
    | openFile f kmalloc => exact hcounted.openFile hdriver kmalloc
    | write f message => simpa [call, Counted] using hcounted
    | read f count => simpa [call, Counted] using hcounted
    | release f => exact hcounted.release hdriver hreaches
  · exact hcounted

/-- In mode 1 at most one file is open at a time. -/
theorem single_run (hdriver : MultiMode driver dynamicText) (events : List Event) :
    Single (stateAfter (step driver 1) (load driver) events) := by
  have hcounted : Counted (stateAfter (step driver 1) (load driver) events) :=
    stateAfter_invariant (fun _ event hcounted ↦ hcounted.step hdriver event)
      (counted_load driver) events
  exact hcounted.single

/-! ### Mode 2 -/

/-- A file with the buffer that is its own. -/
structure Slot (size : ℕ) where
  isOpen : Bool
  data : Data size

def State.slot (state : State size) (f : ℕ) : Slot size :=
  ⟨state.files f, state.device.privateData f⟩

def State.setSlot (state : State size) (f : ℕ) (slot : Slot size) : State size where
  device :=
    { state.device with privateData := Function.update state.device.privateData f slot.data }
  files := Function.update state.files f slot.isOpen

/-- A call of a driver that serves a single file. -/
def slotCall (driver : Driver) (dynamicText : List UInt8) (slot : Slot driver.size) :
    Event → Answer × Slot driver.size
  | .openFile _ none => (.enomem, slot)
  | .openFile _ (some memory) =>
    (.opened, ⟨true, { (memory driver.size).strcpy dynamicText with odd := 0 }⟩)
  | .write _ message =>
    (.wrote (driver.write message slot.data).1,
      { slot with data := (driver.write message slot.data).2 })
  | .read _ count =>
    (.stored (driver.read count slot.data).1,
      { slot with data := (driver.read count slot.data).2 })
  | .release _ => (.released, { slot with isOpen := false })

def slotStep (driver : Driver) (dynamicText : List UInt8) (slot : Slot driver.size)
    (event : Event) : Answer × Slot driver.size :=
  if event.reaches slot.isOpen then slotCall driver dynamicText slot event else (.ebadf, slot)

theorem openWith_two_none (hfree : dev.devOpen = 0) :
    openWith dynamicText 2 none f dev = (.enomem, dev) := by
  rw [openWith, if_neg (not_not_intro hfree)]
  rfl

theorem openWith_two_some (hfree : dev.devOpen = 0) (data : Data size) :
    openWith dynamicText 2 (some data) f dev =
      (.opened,
        { dev with
          privateData :=
            Function.update dev.privateData f { data.strcpy dynamicText with odd := 0 } }) := by
  rw [openWith, if_neg (not_not_intro hfree)]
  rfl

theorem State.setSlot_slot (state : State size) (f : ℕ) :
    state.setSlot f (state.slot f) = state := by
  simp [State.setSlot, State.slot]

theorem State.slot_setSlot_of_ne (state : State size) {g : ℕ} (hg : g ≠ f) (slot : Slot size) :
    (state.setSlot f slot).slot g = state.slot g := by
  simp [State.slot, State.setSlot, hg]

theorem State.slot_setSlot_self (state : State size) (f : ℕ) (slot : Slot size) :
    (state.setSlot f slot).slot f = slot := by
  simp [State.slot, State.setSlot]

/-- In mode 2 a driver serves every file as if there were no other. -/
theorem step_two (hdriver : MultiMode driver dynamicText) {state : State driver.size}
    (hfree : state.device.devOpen = 0) (event : Event) :
    step driver 2 state event =
      ((slotStep driver dynamicText (state.slot event.file) event).1,
        state.setSlot event.file
          (slotStep driver dynamicText (state.slot event.file) event).2) := by
  have hopen : (state.slot event.file).isOpen = state.files event.file := rfl
  rw [step, slotStep, hopen]
  split_ifs
  · cases event with
    | openFile f kmalloc =>
      cases kmalloc with
      | none =>
        simp [call, hdriver.openFile, openWith_two_none hfree, slotCall, State.slot, State.setSlot,
          Event.file]
      | some memory =>
        simp [call, hdriver.openFile, openWith_two_some hfree, slotCall, State.setSlot, Event.file]
    | write f message =>
      simp [call, slotCall, State.slot, State.setSlot, Event.file, getBuffer, putBuffer]
    | read f count =>
      simp [call, slotCall, State.slot, State.setSlot, Event.file, getBuffer, putBuffer]
    | release f =>
      simp [call, slotCall, State.slot, State.setSlot, Event.file, hdriver.release, releaseWith]
  · rw [State.setSlot_slot]

/-- Two states are the same to all files but one. -/
structure Apart (f : ℕ) (state state' : State size) : Prop where
  free : state.device.devOpen = 0
  free' : state'.device.devOpen = 0
  slot : ∀ g, g ≠ f → state.slot g = state'.slot g

/-- In mode 2 no file notices what another does: without the calls on it, all others are answered as
before. -/
theorem isolated (hdriver : MultiMode driver dynamicText) (f : ℕ) (events : List Event) :
    ((events.zip (answers (step driver 2) (load driver) events)).filter (·.1.file ≠ f)).map
        Prod.snd =
      answers (step driver 2) (load driver) (events.filter (·.file ≠ f)) := by
  refine answers_filter (fun event ↦ event.file ≠ f) (R := Apart f) ?_ ?_ ?_ events
  · intro state state' event hkeep hapart
    have hother : event.file ≠ f := of_decide_eq_true hkeep
    rw [step_two hdriver hapart.free, step_two hdriver hapart.free', hapart.slot _ hother]
    refine ⟨rfl, hapart.free, hapart.free', fun g hg ↦ ?_⟩
    by_cases hself : g = event.file
    · rw [hself, State.slot_setSlot_self, State.slot_setSlot_self]
    · rw [State.slot_setSlot_of_ne _ hself, State.slot_setSlot_of_ne _ hself, hapart.slot g hg]
  · intro state state' event hdrop hapart
    have hfile : event.file = f := by simpa using hdrop
    rw [step_two hdriver hapart.free, hfile]
    refine ⟨hapart.free, hapart.free', fun g hg ↦ ?_⟩
    rw [State.slot_setSlot_of_ne _ hg, hapart.slot g hg]
  · exact ⟨rfl, rfl, fun _ _ ↦ rfl⟩

end Modes

end KernelModules.SymbolDevices
