import KernelModules.Foundations.TracedReads
import KernelModules.NetlinkServer.CarrierEffects

/-!
# Which bytes of a message the server reads

`nl_kserv_recv_msg` takes the header, the command and the fields behind it from fixed offsets and
never asks how long the message is. The name of the VRF is given to `%s`, which goes on to the next
zero byte.

The functions here are those of the server with every read of the message written out and traced,
those for debug messages included. They answer what the untraced functions answer
(`value_readRecvMsg`). The message is read inside its bounds, and the name inside its field of 32
bytes, exactly if the message has the fields its command and its number make the server look at, and
the name ends where it should (`message_reads_inside_iff`).
-/

set_option autoImplicit false
set_option relaxedAutoImplicit false

namespace KernelModules.NetlinkServer

open Foundations Traced

/-! ### The reads -/

/-- `%s` of `vrf_name`. -/
def readVrfName (message : NlMsg) : Traced (List Char) := do
  let name ← readString message.memory 21
  pure (name.map fun byte ↦ Char.ofNat byte.toNat)

/-- `vrf_name[0] ? vrf_name : "global"` in a debug message. -/
def readDbg (debug : Bool) (message : NlMsg) : Traced (List Char) :=
  if debug then do
    let first ← readByte message.memory 21
    if first ≠ 0 then readVrfName message else pure "global".toList
  else pure []

/-- The namespace of the VRF: `get_ptr_by_vrf` or `init_net`. -/
def readNet (filpOpen : List Char → FilpOpen) (kernel : Kernel) (message : NlMsg) :
    Traced (Option (Kernel × Option ℕ)) := do
  let first ← readByte message.memory 21
  if first ≠ 0 then do
    let vrfName ← readVrfName message
    pure (getPtrByVrf filpOpen kernel vrfName)
  else pure (some (kernel, some 0))

/-- `set_carrier_netdev`, with the `vrf_name` of a message. -/
def readSetCarrierNetdev (debug : Bool) (filpOpen : List Char → FilpOpen) (kernel : Kernel)
    (devName : List Char) (message : NlMsg) (isUp : Bool) : Traced (Option (Kernel × UInt16)) := do
  let resolved ← readNet filpOpen kernel message
  match resolved with
  | none => pure none
  | some (kernel, none) => pure (some (kernel, netlinkServErr))
  | some (kernel, some net) =>
    match switchCarrier kernel devName isUp net with
    | some kernel => do
      let _dbg ← readDbg debug message
      pure (some (kernel, 0))
    | none =>
      match (List.range kernel.nets.length).findSome?
        (switchCarrier (countErr kernel) devName isUp) with
      | some kernel => do
        let _dbg ← readDbg debug message
        pure (some (kernel, 0))
      | none => pure (some (kernel, netlinkServErr))

/-- What `set_carrier_vlan` and `set_carrier_port_channel` do once the number is found good. -/
def readCarrier (debug : Bool) (filpOpen : List Char → FilpOpen) (kernel : Kernel)
    (devName : List Char) (message : NlMsg) : Traced (Option (Kernel × UInt16)) := do
  let isUp ← readByte message.memory 20
  let _dbg ← readDbg debug message
  readSetCarrierNetdev debug filpOpen kernel devName message (isUp ≠ 0)

/-- `set_carrier_vlan`. -/
def readSetCarrierVlan (debug : Bool) (filpOpen : List Char → FilpOpen) (kernel : Kernel)
    (message : NlMsg) : Traced (Option (Kernel × UInt16)) := do
  let vid ← readLe16 message.memory 18
  if vid < 1 ∨ 4094 < vid then pure (some (kernel, netlinkServErr))
  else if vid = 1 then pure (some (kernel, 0))
  else readCarrier debug filpOpen kernel (deviceName "vlan.".toList vid) message

/-- `set_carrier_port_channel`. -/
def readSetCarrierPortChannel (debug : Bool) (filpOpen : List Char → FilpOpen) (kernel : Kernel)
    (message : NlMsg) : Traced (Option (Kernel × UInt16)) := do
  let num ← readLe16 message.memory 18
  if num < 1 ∨ 12 < num then pure (some (kernel, netlinkServErr))
  else readCarrier debug filpOpen kernel (deviceName "po".toList num) message

/-- The command of a message is carried out. -/
def readHandleRequest (debug : Bool) (filpOpen : List Char → FilpOpen) (kernel : Kernel)
    (message : NlMsg) : Traced (Option (Kernel × UInt16)) := do
  let cmd ← readLe16 message.memory 16
  if cmd = setVlanCarrier then readSetCarrierVlan debug filpOpen kernel message
  else if cmd = setPortChannelCarrier then readSetCarrierPortChannel debug filpOpen kernel message
  else pure (some (kernel, netlinkServErr))

/-- `nl_kserv_recv_msg`. -/
def readRecvMsg (debug : Bool) (env : RecvEnv) (ports : List UInt32) (kernel : Kernel)
    (message : NlMsg) : Traced (Option Handled) := do
  let pid ← readLe32 message.memory 12
  let request ← readHandleRequest debug env.filpOpen kernel message
  match request with
  | none => pure none
  | some (kernel, err) =>
    let kernel := if err = netlinkServErr then countErr kernel else countNorm kernel
    if env.nlmsgNew then
      let sent := nlmsgUnicast ports env.room pid
      pure (some ⟨if sent = .refused then countErr kernel else kernel, err, some sent⟩)
    else pure (some ⟨countErr kernel, err, none⟩)

/-! ### The values -/

variable (debug : Bool) (filpOpen : List Char → FilpOpen) (kernel : Kernel) (message : NlMsg)

@[simp] theorem value_readVrfName : (readVrfName message).value = message.vrfName := rfl

/-- The name is empty exactly if its first byte is zero. -/
theorem vrfName_eq_nil_iff : message.vrfName = [] ↔ byteAt message.memory 21 = 0 := by
  have hbyte : byteAt message.memory 21 = (message.memory.drop 21).getD 0 0 := by
    simp [byteAt, List.getD_eq_getElem?_getD]
  rw [NlMsg.vrfName, List.map_eq_nil_iff, hbyte]
  cases message.memory.drop 21 with
  | nil => simp [textUpTo]
  | cons byte rest => by_cases hbyte : byte = 0 <;> simp [textUpTo, hbyte]

theorem value_readNet : (readNet filpOpen kernel message).value =
    if message.vrfName = [] then some (kernel, some 0)
    else getPtrByVrf filpOpen kernel message.vrfName := by
  rw [readNet, value_bind, value_readByte]
  simp only [vrfName_eq_nil_iff]
  by_cases hfirst : byteAt message.memory 21 = 0
  · rw [if_neg (not_not.mpr hfirst), if_pos hfirst]
    rfl
  · rw [if_pos hfirst, if_neg hfirst]
    rfl

theorem value_readSetCarrierNetdev (devName : List Char) (isUp : Bool) :
    (readSetCarrierNetdev debug filpOpen kernel devName message isUp).value =
      setCarrierNetdev filpOpen kernel devName message.vrfName isUp := by
  rw [readSetCarrierNetdev, setCarrierNetdev, value_bind, value_readNet]
  generalize (if message.vrfName = [] then some (kernel, some 0)
    else getPtrByVrf filpOpen kernel message.vrfName) = resolved
  rcases resolved with _ | ⟨middle, _ | net⟩
  · rfl
  · rfl
  · dsimp only
    cases switchCarrier middle devName isUp net with
    | some after => rfl
    | none =>
      dsimp only
      cases (List.range middle.nets.length).findSome?
        (switchCarrier (countErr middle) devName isUp) <;> rfl

theorem value_readCarrier (devName : List Char) :
    (readCarrier debug filpOpen kernel devName message).value =
      setCarrierNetdev filpOpen kernel devName message.vrfName (message.isUp ≠ 0) :=
  value_readSetCarrierNetdev debug filpOpen kernel message devName _

theorem value_readSetCarrierVlan :
    (readSetCarrierVlan debug filpOpen kernel message).value =
      setCarrierVlan filpOpen kernel message := by
  rw [readSetCarrierVlan, setCarrierVlan, value_bind, value_readLe16, ← NlMsg.number]
  split_ifs
  · rfl
  · rfl
  · exact value_readCarrier debug filpOpen kernel message _

theorem value_readSetCarrierPortChannel :
    (readSetCarrierPortChannel debug filpOpen kernel message).value =
      setCarrierPortChannel filpOpen kernel message := by
  rw [readSetCarrierPortChannel, setCarrierPortChannel, value_bind, value_readLe16, ← NlMsg.number]
  split_ifs
  · rfl
  · exact value_readCarrier debug filpOpen kernel message _

theorem value_readHandleRequest :
    (readHandleRequest debug filpOpen kernel message).value =
      handleRequest filpOpen kernel message := by
  rw [readHandleRequest, handleRequest, value_bind, value_readLe16, ← NlMsg.cmd]
  split_ifs
  · exact value_readSetCarrierVlan debug filpOpen kernel message
  · exact value_readSetCarrierPortChannel debug filpOpen kernel message
  · rfl

/-- The traced handler does what the handler does. -/
theorem value_readRecvMsg (env : RecvEnv) (ports : List UInt32) :
    (readRecvMsg debug env ports kernel message).value =
      nlKservRecvMsg env ports kernel message := by
  rw [readRecvMsg, nlKservRecvMsg, value_bind, value_readLe32, ← NlMsg.pid, value_bind,
    value_readHandleRequest]
  cases handleRequest env.filpOpen kernel message with
  | none => rfl
  | some result =>
    dsimp only
    split_ifs <;> rfl

/-! ### The extent of the reads -/

/-- The offset behind the zero byte that ends the name. -/
def NlMsg.nameEnd (message : NlMsg) : ℕ :=
  21 + (textUpTo 0 (message.memory.drop 21)).length + 1

/-- The server looks for a device. -/
def NlMsg.Searches (message : NlMsg) : Prop := message.wanted ≠ none ∧ ¬message.ForVlanOne

variable {bound : ℕ}

theorem within_readVrfName_iff :
    Within bound (readVrfName message) ↔ message.nameEnd ≤ bound := by
  rw [readVrfName, within_bind_iff, within_readString_iff, NlMsg.nameEnd]
  exact and_iff_left (within_pure _)

/-- A debug message reads no more than the name. -/
theorem within_readDbg (hname : message.nameEnd ≤ bound) :
    Within bound (readDbg debug message) := by
  rw [readDbg]
  split_ifs with hdebug
  · rw [within_bind_iff, within_readByte_iff]
    refine ⟨by rw [NlMsg.nameEnd] at hname; omega, ?_⟩
    split_ifs
    · exact (within_readVrfName_iff message).mpr hname
    · exact within_pure _
  · exact within_pure _

/-- The name is read to its end, or its first byte only if that is the end. -/
theorem within_readNet_iff :
    Within bound (readNet filpOpen kernel message) ↔ message.nameEnd ≤ bound := by
  rw [readNet, within_bind_iff, within_readByte_iff, value_readByte]
  by_cases hempty : byteAt message.memory 21 = 0
  · have hnil := (vrfName_eq_nil_iff message).mpr hempty
    rw [NlMsg.vrfName, List.map_eq_nil_iff] at hnil
    rw [if_neg (not_not.mpr hempty), NlMsg.nameEnd, hnil]
    exact and_iff_left (within_pure _)
  · rw [if_pos hempty, within_bind_iff, within_readVrfName_iff, NlMsg.nameEnd]
    constructor
    · exact fun hall ↦ hall.2.1
    · intro hname
      exact ⟨by omega, hname, within_pure _⟩

theorem within_readSetCarrierNetdev_iff (devName : List Char) (isUp : Bool) :
    Within bound (readSetCarrierNetdev debug filpOpen kernel devName message isUp) ↔
      message.nameEnd ≤ bound := by
  rw [readSetCarrierNetdev, within_bind_iff, within_readNet_iff]
  refine and_iff_left_of_imp fun hname ↦ ?_
  have hdbg : ∀ result : Option (Kernel × UInt16),
      Within bound (readDbg debug message >>= fun _ ↦ pure result) := by
    intro result
    rw [within_bind_iff]
    exact ⟨within_readDbg debug message hname, within_pure _⟩
  split
  · exact within_pure _
  · exact within_pure _
  · split
    · exact hdbg _
    · split
      · exact hdbg _
      · exact within_pure _

theorem within_readCarrier_iff (devName : List Char) :
    Within bound (readCarrier debug filpOpen kernel devName message) ↔
      message.nameEnd ≤ bound := by
  rw [readCarrier, within_bind_iff, within_bind_iff, within_readByte_iff,
    within_readSetCarrierNetdev_iff]
  constructor
  · exact fun hall ↦ hall.2.2
  · intro hname
    exact ⟨by rw [NlMsg.nameEnd] at hname; omega, within_readDbg debug message hname, hname⟩

/-- The number is read, and the name if there is something to look for. -/
theorem within_readSetCarrierVlan_iff (hcmd : message.cmd = setVlanCarrier) :
    Within bound (readSetCarrierVlan debug filpOpen kernel message) ↔
      20 ≤ bound ∧ (message.Searches → message.nameEnd ≤ bound) := by
  rw [readSetCarrierVlan, within_bind_iff, within_readLe16_iff, value_readLe16, ← NlMsg.number,
    NlMsg.Searches, NlMsg.wanted, NlMsg.ForVlanOne, if_pos hcmd]
  refine and_congr_right fun _ ↦ ?_
  by_cases hnumber : 1 ≤ message.number ∧ message.number ≤ 4094
  · rw [if_neg fun hout ↦ (out_of_range_iff message 4094).mp hout hnumber, if_pos hnumber]
    by_cases hone : message.number = 1
    · rw [if_pos hone]
      exact iff_of_true (within_pure _) fun hsearch ↦ absurd ⟨hcmd, hone⟩ hsearch.2
    · rw [if_neg hone, within_readCarrier_iff]
      refine ⟨fun hname _ ↦ hname, fun hsearch ↦ hsearch ⟨Option.some_ne_none _, ?_⟩⟩
      exact fun hboth ↦ hone hboth.2
  · rw [if_pos ((out_of_range_iff message 4094).mpr hnumber), if_neg hnumber]
    exact iff_of_true (within_pure _) fun hsearch ↦ absurd rfl hsearch.1

theorem within_readSetCarrierPortChannel_iff (hvlan : message.cmd ≠ setVlanCarrier)
    (hcmd : message.cmd = setPortChannelCarrier) :
    Within bound (readSetCarrierPortChannel debug filpOpen kernel message) ↔
      20 ≤ bound ∧ (message.Searches → message.nameEnd ≤ bound) := by
  rw [readSetCarrierPortChannel, within_bind_iff, within_readLe16_iff, value_readLe16,
    ← NlMsg.number, NlMsg.Searches, NlMsg.wanted, NlMsg.ForVlanOne, if_neg hvlan, if_pos hcmd]
  refine and_congr_right fun _ ↦ ?_
  by_cases hnumber : 1 ≤ message.number ∧ message.number ≤ 12
  · rw [if_neg fun hout ↦ (out_of_range_iff message 12).mp hout hnumber, if_pos hnumber,
      within_readCarrier_iff]
    refine ⟨fun hname _ ↦ hname, fun hsearch ↦ hsearch ⟨Option.some_ne_none _, ?_⟩⟩
    exact fun hboth ↦ hvlan hboth.1
  · rw [if_pos ((out_of_range_iff message 12).mpr hnumber), if_neg hnumber]
    exact iff_of_true (within_pure _) fun hsearch ↦ absurd rfl hsearch.1

/-- The command is one of the two that the server carries out. -/
def NlMsg.Known (message : NlMsg) : Prop :=
  message.cmd = setVlanCarrier ∨ message.cmd = setPortChannelCarrier

theorem within_readHandleRequest_iff :
    Within bound (readHandleRequest debug filpOpen kernel message) ↔
      18 ≤ bound ∧ (message.Known → 20 ≤ bound) ∧ (message.Searches → message.nameEnd ≤ bound) := by
  rw [readHandleRequest, within_bind_iff, within_readLe16_iff, value_readLe16, ← NlMsg.cmd,
    NlMsg.Known]
  refine and_congr_right fun _ ↦ ?_
  by_cases hvlan : message.cmd = setVlanCarrier
  · rw [if_pos hvlan, within_readSetCarrierVlan_iff debug filpOpen kernel message hvlan]
    simp [hvlan]
  · rw [if_neg hvlan]
    by_cases hport : message.cmd = setPortChannelCarrier
    · rw [if_pos hport,
        within_readSetCarrierPortChannel_iff debug filpOpen kernel message hvlan hport]
      simp [hport]
    · rw [if_neg hport]
      simp [hvlan, hport, NlMsg.Searches, NlMsg.wanted]

theorem within_readRecvMsg_iff (env : RecvEnv) (ports : List UInt32) :
    Within bound (readRecvMsg debug env ports kernel message) ↔
      18 ≤ bound ∧ (message.Known → 20 ≤ bound) ∧ (message.Searches → message.nameEnd ≤ bound) := by
  rw [readRecvMsg, within_bind_iff, within_bind_iff, within_readLe32_iff,
    within_readHandleRequest_iff]
  constructor
  · exact fun hall ↦ hall.2.1
  · intro hall
    refine ⟨by omega, hall, ?_⟩
    split
    · exact within_pure _
    · dsimp only
      split_ifs <;> exact within_pure _

/-! ### Messages that are read inside their bounds -/

/-- A message has the bytes the server looks at: the command, the number if the command is known,
and a name that ends inside its field if there is a device to look for. -/
def NlMsg.SelfContained (message : NlMsg) : Prop :=
  18 ≤ message.data.length ∧ (message.Known → 20 ≤ message.data.length) ∧
    (message.Searches → 0 ∈ (message.data.take 53).drop 21)

/-- The name ends inside its field and inside the message exactly if a zero byte is there. -/
theorem nameEnd_le_iff :
    message.nameEnd ≤ message.data.length ∧ message.nameEnd ≤ 53 ↔
      0 ∈ (message.data.take 53).drop 21 := by
  rw [NlMsg.nameEnd, NlMsg.memory, List.drop_take]
  rcases Nat.lt_or_ge message.data.length 21 with hshort | hlong
  · rw [List.drop_of_length_le hshort.le]
    refine iff_of_false (fun hend ↦ ?_) (by simp)
    omega
  · rw [List.drop_append_of_le_length hlong]
    have hlength : (message.data.drop 21).length = message.data.length - 21 := List.length_drop
    generalize message.data.drop 21 = rest at hlength
    have hroom : min 32 rest.length ≤ (rest ++ message.behind).length := by
      rw [List.length_append]
      omega
    have hsearch : (textUpTo 0 (rest ++ message.behind)).length < min 32 rest.length ↔
        0 ∈ rest.take 32 := by
      rw [length_textUpTo_lt_iff hroom, List.take_append_of_le_length (Nat.min_le_right _ _),
        ← List.take_eq_take_min]
    rw [← hsearch]
    omega

/-- The bytes of a message that are read lie inside it, and those of the name inside its field,
exactly if the message is self-contained. -/
theorem message_reads_inside_iff (env : RecvEnv) (ports : List UInt32) :
    (readRecvMsg debug env ports kernel message).value =
        nlKservRecvMsg env ports kernel message ∧
      (Within message.data.length (readRecvMsg debug env ports kernel message) ∧
          Within 53 (readRecvMsg debug env ports kernel message) ↔
        message.SelfContained) := by
  refine ⟨value_readRecvMsg debug kernel message env ports, ?_⟩
  rw [within_readRecvMsg_iff, within_readRecvMsg_iff, NlMsg.SelfContained, ← nameEnd_le_iff]
  constructor
  · rintro ⟨⟨hcmd, hnumber, hname⟩, -, -, hfield⟩
    exact ⟨hcmd, hnumber, fun hsearch ↦ ⟨hname hsearch, hfield hsearch⟩⟩
  · rintro ⟨hcmd, hnumber, hname⟩
    exact ⟨⟨hcmd, hnumber, fun hsearch ↦ (hname hsearch).1⟩, by decide, fun _ ↦ by decide,
      fun hsearch ↦ (hname hsearch).2⟩

/-- A message of a header and a command is read past its end, and so is the name of a VRF that fills
its field, even with room for it behind. -/
theorem not_within_truncated :
    ¬Within 18 (readRecvMsg false redServed [] twoVlans
        ⟨List.replicate 16 0 ++ le16 setVlanCarrier, [5, 0, 1, 0]⟩) ∧
      ¬Within 53 (readRecvMsg false redServed [] twoVlans
        (vlanMessage 5 (List.replicate 32 114))) := by
  decide

end KernelModules.NetlinkServer
