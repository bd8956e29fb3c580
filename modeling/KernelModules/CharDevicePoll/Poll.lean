import KernelModules.Foundations.Bytes
import KernelModules.Foundations.Runs
import KernelModules.Foundations.Strings
import Mathlib.Data.PNat.Notation

/-!
# The device that can be polled

`poll.c` is a device with one buffer. `write` puts a text into it and sets the offset `roff` back,
`read` is to hand the text out from the offset on, and `poll` tells whether there is something to
read. The offset stands for three phases: inside the text there is data to be read, at its end the
end of the file is to be reported once, and behind it there is nothing until the next write.

`Serves` is this protocol, without offsets: what is owed to the readers is the rest of a text and
its end, or nothing. The device does something else. Where `read` is to compare the offset with the
length of the text, it assigns the length to it, so that with a text in the buffer it always reports
the end of the file. Hence all that the device keeps is one bit, which a write sets and a read
clears (`answers_step_eq`), and it follows the protocol after a write just as long as nobody reads
(`device_serves_iff`). `poll` agrees with what `read` does (`pollin_mem_poll_iff`).

`read` is in two parts, because it may sleep in between and meanwhile anything can happen. A reader
that has slept goes on at any time: a signal wakes it as well as a write does.
-/

set_option autoImplicit false
set_option relaxedAutoImplicit false

namespace KernelModules.CharDevicePoll

open Foundations

/-! ### The device -/

/-- `LEN_MSG`. -/
def lenMsg : ℕ := 160

/-- `struct private`. No function sets the offset to a negative number. -/
structure Private where
  roff : ℕ
  buf : List UInt8
  length_buf : buf.length = lenMsg + 2

/-- `strlen`. -/
def strlen (buf : List UInt8) : ℕ := (textUpTo 0 buf).length

/-- `strcat`. -/
def strcat (buf text : List UInt8) : List UInt8 := writeAt buf (strlen buf) (text ++ [0])

/-- The bits that `poll` may set. -/
inductive PollFlag
  | pollin
  | pollrdnorm
  | pollout
  | pollwrnorm
  deriving DecidableEq, Repr

/-- What a call comes to. A read that returns a number has copied as many bytes; a read that sleeps
has not returned. -/
inductive Answer
  | bytes (piece : List UInt8)
  | eagain
  | efault
  | asleep
  | wrote (len : ℕ)
  | flags (flag : List PollFlag)
  deriving DecidableEq, Repr

/-- `read` from where `roff` is read again. -/
def readOn (copyToUser : Bool) (count : ℕ) (dev : Private) : Answer × Private :=
  -- the condition `off = strlen(dev->buf)` assigns, so that `roff` does not matter
  let off := strlen dev.buf
  if off ≠ 0 then (.bytes [], { dev with roff := off + 1 })
  else
    let len := strlen dev.buf - off
    let len := if count < len then count else len
    if copyToUser then (.bytes ((dev.buf.drop off).take len), { dev with roff := off + len })
    else (.efault, dev)

/-- `read`, up to where it sleeps if it does. -/
def read (nonblock copyToUser : Bool) (count : ℕ) (dev : Private) : Answer × Private :=
  if strlen dev.buf < dev.roff then
    if nonblock then (.eagain, dev) else (.asleep, dev)
  else readOn copyToUser count dev

/-- How many bytes `write` takes. -/
def writeLen (count : ℕ) : ℕ := if count < lenMsg then count else lenMsg

/-- What `write` makes of the buffer. If it takes no bytes, it looks for a newline in front of the
buffer, in the highest byte of `roff`, which is zero like the one it has put into the buffer. -/
def writeBuf (bytes buf : List UInt8) : List UInt8 :=
  let len := writeLen bytes.length
  let buf := writeAt (writeAt buf 0 (bytes.take len)) len [0]
  if byteAt buf (len - 1) ≠ newline then strcat buf [newline] else buf

@[simp] theorem length_writeBuf (bytes buf : List UInt8) :
    (writeBuf bytes buf).length = buf.length := by
  rw [writeBuf, apply_ite List.length, strcat, length_writeAt, length_writeAt, length_writeAt,
    ite_self]

/-- `write`, of bytes that can be read. It does not look at what `copy_from_user` returns. -/
def write (bytes : List UInt8) (dev : Private) : Answer × Private :=
  (.wrote (writeLen bytes.length),
    { roff := 0
      buf := writeBuf bytes dev.buf
      length_buf := by rw [length_writeBuf, dev.length_buf] })

/-- `poll`, at the end of its sleep. -/
def poll (dev : Private) : List PollFlag :=
  [.pollout, .pollwrnorm] ++ if dev.roff ≤ strlen dev.buf then [.pollin, .pollrdnorm] else []

/-- `devblock`. -/
def devblock : Private where
  roff := 0
  buf := "not initialized".toList.map (fun c ↦ UInt8.ofNat c.toNat) ++ List.replicate 147 0
  length_buf := by
    rw [List.length_append, List.length_replicate]
    decide

/-- `POLLIN` is reported exactly if a read returns data or the end of the file, and neither sleeps
nor is put off. -/
theorem pollin_mem_poll_iff (dev : Private) (nonblock : Bool) (count : ℕ) :
    .pollin ∈ poll dev ↔ ∃ piece, (read nonblock true count dev).1 = .bytes piece := by
  rw [poll, read]
  rcases Nat.lt_or_ge (strlen dev.buf) dev.roff with hlt | hge
  · rw [if_neg (Nat.not_le.mpr hlt), if_pos hlt]
    cases nonblock
    · simp
    · simp
  · rw [if_pos hge, if_neg (Nat.not_lt.mpr hge), readOn]
    by_cases hoff : strlen dev.buf ≠ 0
    · simp [hoff]
    · simp [hoff]

/-! ### Calls -/

/-- What is written: between 1 and `LEN_MSG` bytes, none of them zero. -/
structure Message where
  bytes : List UInt8
  ne_nil : bytes ≠ []
  length_le : bytes.length ≤ lenMsg
  zero_notMem : 0 ∉ bytes

/-- What can happen to the device. -/
inductive Event
  | write (message : Message)
  | read (nonblock : Bool) (count : ℕ+)
  /-- A reader that has slept goes on. -/
  | goOn (count : ℕ+)
  | poll

/-- One call, for readers whose memory can be written. -/
def step (dev : Private) : Event → Answer × Private
  | .write message => write message.bytes dev
  | .read nonblock count => read nonblock true count dev
  | .goOn count => readOn true count dev
  | .poll => (.flags (poll dev), dev)

/-- Whether a call is to return data. -/
def Event.reads : Event → Bool
  | .read _ _ | .goOn _ => true
  | .write _ | .poll => false

/-! ### The protocol -/

/-- What a message is read as: a newline is added if it lacks one. -/
def Message.text (message : Message) : List UInt8 :=
  if message.bytes.getLast? = some newline then message.bytes else message.bytes ++ [newline]

/-- What the device is to answer, and what it owes to the readers before and after: the rest of a
text and its end, or nothing. -/
inductive Serves : Option (List UInt8) → Event → Answer → Option (List UInt8) → Prop
  | write (owed : Option (List UInt8)) (message : Message) :
      Serves owed (.write message) (.wrote message.bytes.length) (some message.text)
  /-- A piece of the text, not larger than asked for. -/
  | piece {piece : List UInt8} (hpiece : piece ≠ []) (rest : List UInt8) (nonblock : Bool)
      {count : ℕ+} (hcount : piece.length ≤ count) :
      Serves (some (piece ++ rest)) (.read nonblock count) (.bytes piece) (some rest)
  | endOfFile (nonblock : Bool) (count : ℕ+) :
      Serves (some []) (.read nonblock count) (.bytes []) none
  | again (count : ℕ+) : Serves none (.read true count) .eagain none
  | sleep (count : ℕ+) : Serves none (.read false count) .asleep none
  /-- A reader that has slept is a reader like others if there is something to read. -/
  | goOn {text : List UInt8} {count : ℕ+} {answer : Answer} {owed : Option (List UInt8)}
      (hread : Serves (some text) (.read false count) answer owed) :
      Serves (some text) (.goOn count) answer owed
  /-- Nothing is said of one that was woken in vain. -/
  | inVain (count : ℕ+) (answer : Answer) : Serves none (.goOn count) answer none
  | pollReady (text : List UInt8) : Serves (some text) .poll
      (.flags [.pollout, .pollwrnorm, .pollin, .pollrdnorm]) (some text)
  | pollNothing : Serves none .poll (.flags [.pollout, .pollwrnorm]) none

/-! ### What the device does -/

/-- The device as one bit, which tells whether anything was written since the last read. -/
def bellStep (ready : Bool) : Event → Answer × Bool
  | .write message => (.wrote message.bytes.length, true)
  | .read nonblock _ =>
    if ready then (.bytes [], false) else (if nonblock then .eagain else .asleep, false)
  | .goOn _ => (.bytes [], false)
  | .poll =>
    (.flags ([.pollout, .pollwrnorm] ++ if ready then [.pollin, .pollrdnorm] else []), ready)

/-- The device has a text, and the bit tells whether its offset is inside. -/
structure Rings (dev : Private) (ready : Bool) : Prop where
  hasText : strlen dev.buf ≠ 0
  ready_iff : ready = true ↔ dev.roff ≤ strlen dev.buf

namespace Message

variable (message : Message)

theorem writeLen_length : writeLen message.bytes.length = message.bytes.length := by
  have hle := message.length_le
  rw [writeLen]
  split_ifs with hlt
  · rfl
  · omega

theorem text_ne_nil : message.text ≠ [] := by
  rw [text]
  split_ifs
  · exact message.ne_nil
  · exact List.append_ne_nil_of_right_ne_nil _ (List.cons_ne_nil _ _)

/-- The bytes of the message in the buffer, with a zero behind them and room for another byte. -/
theorem exists_writeAt {buf : List UInt8} (hbuf : buf.length = lenMsg + 2) :
    ∃ byte rest, writeAt (writeAt buf 0 message.bytes) message.bytes.length [0] =
      message.bytes ++ 0 :: byte :: rest := by
  have hlength := message.length_le
  have hroom : (buf.drop message.bytes.length).length = lenMsg + 2 - message.bytes.length := by
    rw [List.length_drop, hbuf]
  have hcopy : writeAt buf 0 message.bytes = message.bytes ++ buf.drop message.bytes.length :=
    writeAt_start (by omega)
  cases hdrop : buf.drop message.bytes.length with
  | nil =>
    rw [hdrop, List.length_nil] at hroom
    omega
  | cons first behind =>
    cases behind with
    | nil =>
      rw [hdrop, List.length_singleton] at hroom
      omega
    | cons byte rest =>
      refine ⟨byte, rest, ?_⟩
      rw [hcopy, hdrop]
      exact writeAt_append message.bytes (first :: byte :: rest) 0 [0]

/-- A write leaves the text of the message in the buffer. -/
theorem textUpTo_writeBuf {buf : List UInt8} (hbuf : buf.length = lenMsg + 2) :
    textUpTo 0 (writeBuf message.bytes buf) = message.text := by
  obtain ⟨byte, rest, hwrite⟩ := message.exists_writeAt hbuf
  have hpos := List.length_pos_iff.mpr message.ne_nil
  have hlast : byteAt (message.bytes ++ 0 :: byte :: rest) (message.bytes.length - 1) = newline ↔
      message.bytes.getLast? = some newline := by
    rw [byteAt_append_left _ (by omega), byteAt_last_eq_iff (by decide)]
  rw [writeBuf, text, message.writeLen_length, List.take_length, hwrite]
  simp only [ne_eq, hlast, ite_not]
  split_ifs with hnewline
  · exact textUpTo_append message.zero_notMem _
  · have hcat : strcat (message.bytes ++ 0 :: byte :: rest) [newline] =
        (message.bytes ++ [newline]) ++ 0 :: rest := by
      have hover : writeAt ([0, byte] ++ rest) 0 [newline, 0] = [newline, 0] ++ rest :=
        writeAt_zero rest rfl
      have hbehind := writeAt_append message.bytes ([0, byte] ++ rest) 0 [newline, 0]
      rw [strcat, strlen, textUpTo_append message.zero_notMem, List.append_assoc]
      exact hbehind.trans (congrArg _ hover)
    have hzero : 0 ∉ message.bytes ++ [newline] := by
      rw [List.mem_append, not_or]
      exact ⟨message.zero_notMem, by decide⟩
    rw [hcat, textUpTo_append hzero]

end Message

/-- With a text in the buffer, a reader finds its end wherever the offset is. -/
theorem readOn_of_hasText {dev : Private} (htext : strlen dev.buf ≠ 0) (copyToUser : Bool)
    (count : ℕ) :
    readOn copyToUser count dev = (.bytes [], { dev with roff := strlen dev.buf + 1 }) :=
  if_pos htext

/-- A read leaves the offset behind the text. -/
theorem rings_false {dev : Private} (htext : strlen dev.buf ≠ 0) :
    Rings { dev with roff := strlen dev.buf + 1 } false :=
  ⟨htext, by simp⟩

/-- A write sets the bit, whatever was in the buffer. -/
theorem rings_write (message : Message) (dev : Private) :
    Rings (write message.bytes dev).2 true := by
  have htext : textUpTo 0 (write message.bytes dev).2.buf = message.text :=
    message.textUpTo_writeBuf dev.length_buf
  refine ⟨?_, iff_of_true rfl (Nat.zero_le _)⟩
  rw [strlen, htext]
  exact List.length_pos_iff.mpr message.text_ne_nil |>.ne'

theorem write_fst (message : Message) (dev : Private) :
    (write message.bytes dev).1 = .wrote message.bytes.length := by
  rw [write, message.writeLen_length]

/-- A call does to the device what it does to the bit. -/
theorem Rings.step {dev : Private} {ready : Bool} (hrings : Rings dev ready) (event : Event) :
    (step dev event).1 = (bellStep ready event).1 ∧
      Rings (step dev event).2 (bellStep ready event).2 := by
  have htext := hrings.hasText
  cases event with
  | write message => exact ⟨write_fst message dev, rings_write message dev⟩
  | read nonblock count =>
    rw [CharDevicePoll.step, CharDevicePoll.read, bellStep]
    cases ready with
    | false =>
      have hoff : strlen dev.buf < dev.roff :=
        Nat.not_le.mp fun hle ↦ Bool.false_ne_true (hrings.ready_iff.mpr hle)
      rw [if_pos hoff, if_neg Bool.false_ne_true]
      cases nonblock with
      | false => exact ⟨rfl, hrings⟩
      | true => exact ⟨rfl, hrings⟩
    | true =>
      have hoff := Nat.not_lt.mpr (hrings.ready_iff.mp rfl)
      rw [if_neg hoff, if_pos rfl, readOn_of_hasText htext]
      exact ⟨rfl, rings_false htext⟩
  | goOn count =>
    rw [CharDevicePoll.step, readOn_of_hasText htext]
    exact ⟨rfl, rings_false htext⟩
  | poll =>
    refine ⟨?_, hrings⟩
    rw [CharDevicePoll.step, bellStep, CharDevicePoll.poll]
    simp only [hrings.ready_iff]

/-- The device answers as the bit does, along every run. -/
theorem answers_step_eq {dev : Private} {ready : Bool} (hrings : Rings dev ready)
    (events : List Event) : answers step dev events = answers bellStep ready events :=
  answers_eq_of_rel (fun _ _ event h ↦ h.step event) hrings events

/-! ### The device and the protocol -/

/-- As long as a text is owed, what the bit answers to a read is not part of the protocol. -/
theorem not_serves_of_reads {text : List UInt8} (htext : text ≠ []) {event : Event}
    (hreads : event.reads = true) (owed : Option (List UInt8)) :
    ¬ Serves (some text) event (bellStep true event).1 owed := by
  have hread (nonblock : Bool) (count : ℕ+) :
      ¬ Serves (some text) (.read nonblock count) (.bytes []) owed := by
    intro hserves
    cases hserves with
    | piece hpiece => exact hpiece rfl
    | endOfFile => exact htext rfl
  cases event with
  | write message => exact absurd hreads Bool.false_ne_true
  | read nonblock count => exact hread nonblock count
  | goOn count =>
    intro hserves
    cases hserves with
    | goOn hgoOn => exact hread false count hgoOn
  | poll => exact absurd hreads Bool.false_ne_true

/-- The bit follows the protocol from a text on exactly if nobody reads. -/
theorem allows_bellStep_iff {text : List UInt8} (htext : text ≠ []) (events : List Event) :
    Allows Serves (some text) events (answers bellStep true events) ↔
      ∀ event ∈ events, event.reads = false := by
  induction events generalizing text with
  | nil => exact iff_of_true trivial (by simp)
  | cons event events ih =>
    rw [List.forall_mem_cons, answers, Allows]
    cases event with
    | write message =>
      rw [← ih message.text_ne_nil]
      constructor
      · rintro ⟨owed, hserves, hrest⟩
        cases hserves
        exact ⟨rfl, hrest⟩
      · exact fun h ↦ ⟨_, .write _ _, h.2⟩
    | read nonblock count =>
      refine iff_of_false ?_ (fun h ↦ Bool.false_ne_true h.1.symm)
      rintro ⟨owed, hserves, -⟩
      exact not_serves_of_reads htext rfl owed hserves
    | goOn count =>
      refine iff_of_false ?_ (fun h ↦ Bool.false_ne_true h.1.symm)
      rintro ⟨owed, hserves, -⟩
      exact not_serves_of_reads htext rfl owed hserves
    | poll =>
      rw [← ih htext]
      constructor
      · rintro ⟨owed, hserves, hrest⟩
        cases hserves
        exact ⟨rfl, hrest⟩
      · exact fun h ↦ ⟨_, .pollReady _, h.2⟩

/-- After a write, in whatever state, the device follows the protocol exactly as long as nobody
reads. In every state `POLLIN` is reported exactly if a read returns data or the end of the file. -/
theorem device_serves_iff (dev : Private) (owed : Option (List UInt8)) (message : Message)
    (events : List Event) :
    (Allows Serves owed (.write message :: events) (answers step dev (.write message :: events)) ↔
      ∀ event ∈ events, event.reads = false) ∧
    ∀ dev nonblock count, .pollin ∈ poll dev ↔
      ∃ piece, (read nonblock true count dev).1 = .bytes piece := by
  refine ⟨?_, pollin_mem_poll_iff⟩
  have hrest : answers step (write message.bytes dev).2 events = answers bellStep true events :=
    answers_step_eq (rings_write message dev) events
  have hanswers : answers step dev (.write message :: events) =
      .wrote message.bytes.length :: answers bellStep true events := by
    rw [← hrest, ← write_fst message dev]
    rfl
  rw [← allows_bellStep_iff message.text_ne_nil, hanswers, Allows]
  constructor
  · rintro ⟨owed', hserves, hallows⟩
    cases hserves
    exact hallows
  · exact fun hallows ↦ ⟨_, .write _ _, hallows⟩

/-- A message of one letter. -/
def letter : Message where
  bytes := [97]
  ne_nil := List.cons_ne_nil _ _
  length_le := by decide
  zero_notMem := by decide

/-- Of one letter that is written, nothing can be read: the first read finds the end of the file. -/
theorem not_serves_letter :
    answers step devblock [.write letter, .read true 80] = [.wrote 1, .bytes []] ∧
      ¬ Allows Serves none [.write letter, .read true 80]
        (answers step devblock [.write letter, .read true 80]) := by
  have hanswers : answers step devblock [.write letter, .read true 80] =
      [.wrote 1, .bytes []] := by decide
  refine ⟨hanswers, ?_⟩
  rw [hanswers]
  rintro ⟨owed, hwrite, owed', hread, -⟩
  cases hwrite
  exact not_serves_of_reads letter.text_ne_nil rfl owed' hread

end KernelModules.CharDevicePoll
