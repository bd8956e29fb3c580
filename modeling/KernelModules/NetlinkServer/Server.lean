import KernelModules.Foundations.Bytes
import KernelModules.Foundations.Strings

/-!
# The netlink server

`nl-server.c` switches the carrier of VLAN and port channel devices on behalf of user space. A
message starts with a `struct nlmsghdr` of 16 bytes, in the order of a little-endian machine; the
command follows at offset 16, and the number, the wanted carrier and the name of the VRF at offsets
18, 20 and 21. The server does not look at the length of a message, so that a message is given
together with what memory holds behind it, and the name is whatever stands before the next zero
byte.

`nlKservRecvMsg` is the whole of the handler. It returns nothing if the kernel faults, which it does
if `filp_open` returns an error pointer: `get_ptr_by_vrf` only asks whether the pointer is null.
-/

set_option autoImplicit false
set_option relaxedAutoImplicit false

namespace KernelModules.NetlinkServer

open Foundations

/-! ### Messages -/

/-- `NETLINK_SERV_ERR`. -/
def netlinkServErr : UInt16 := 100

/-- `SET_VLAN_CARRIER`. -/
def setVlanCarrier : UInt16 := netlinkServErr + 1

/-- `SET_PORT_CHANNEL_CARRIER`. -/
def setPortChannelCarrier : UInt16 := netlinkServErr + 3

/-- A message as it lies in memory. -/
structure NlMsg where
  data : List UInt8
  behind : List UInt8
  deriving DecidableEq

/-- Memory from the start of the message on. -/
def NlMsg.memory (message : NlMsg) : List UInt8 := message.data ++ message.behind

/-- `nl_hdr->nlmsg_pid`. -/
def NlMsg.pid (message : NlMsg) : UInt32 := le32At message.memory 12

/-- `request->cmd`. -/
def NlMsg.cmd (message : NlMsg) : UInt16 := le16At message.memory 16

/-- `vid` of a `struct vlan_carrier`, or `num` of a `struct port_channel_carrier`. -/
def NlMsg.number (message : NlMsg) : UInt16 := le16At message.memory 18

/-- `is_up`. -/
def NlMsg.isUp (message : NlMsg) : UInt8 := byteAt message.memory 20

/-- `vrf_name`, read as a string. -/
def NlMsg.vrfName (message : NlMsg) : List Char :=
  (textUpTo 0 (message.memory.drop 21)).map fun byte ↦ Char.ofNat byte.toNat

/-! ### The kernel around the server -/

/-- A `struct net_device`. -/
structure NetDevice where
  name : List Char
  carrier : Bool
  deriving DecidableEq, Repr

/-- A `struct net`: its devices and its reference count. -/
structure Net where
  devices : List NetDevice
  count : ℕ
  deriving DecidableEq, Repr

/-- The namespaces, in the order of `for_each_net` and `init_net` first, the number of open files,
and the counters of the server. -/
structure Kernel where
  nets : List Net
  openFiles : ℕ
  nlKservErr : UInt64
  nlKservNorm : UInt64
  deriving DecidableEq, Repr

/-- What `filp_open` returns: an error pointer, a null pointer, or a file, with the namespace that
`get_proc_ns` finds behind it. -/
inductive FilpOpen
  | error
  | null
  | file (net : Option ℕ)
  deriving DecidableEq, Repr

/-- What a message to a port id comes to. -/
inductive Unicast
  | refused
  | queued
  | toServer
  deriving DecidableEq, Repr

/-- What the rest of the kernel does while a message is handled: the files there are, whether there
is memory for a reply, whether the receive queue it goes to has room, and what the new message holds
behind the answer. -/
structure RecvEnv where
  filpOpen : List Char → FilpOpen
  nlmsgNew : Bool
  room : Bool
  fresh : List UInt8

/-- `nlmsg_unicast`. Port id 0 is the server itself. -/
def nlmsgUnicast (ports : List UInt32) (room : Bool) (pid : UInt32) : Unicast :=
  if pid = 0 then .toServer
  else if pid ∈ ports ∧ room then .queued
  else .refused

/-- `get_net`. -/
def getNet (kernel : Kernel) (net : ℕ) : Kernel :=
  { kernel with nets := kernel.nets.modify net fun n ↦ { n with count := n.count + 1 } }

/-- A file is opened. -/
def openFile (kernel : Kernel) : Kernel := { kernel with openFiles := kernel.openFiles + 1 }

/-- `filp_close`. -/
def filpClose (kernel : Kernel) : Kernel := { kernel with openFiles := kernel.openFiles - 1 }

/-- `++nl_kserv_err`. -/
def countErr (kernel : Kernel) : Kernel := { kernel with nlKservErr := kernel.nlKservErr + 1 }

/-- `++nl_kserv_norm`. -/
def countNorm (kernel : Kernel) : Kernel := { kernel with nlKservNorm := kernel.nlKservNorm + 1 }

/-- `netif_carrier_on` or `netif_carrier_off` on the device that `__dev_get_by_name` finds. -/
def switchCarrier (kernel : Kernel) (devName : List Char) (isUp : Bool) (net : ℕ) : Option Kernel :=
  match kernel.nets[net]? with
  | none => none
  | some n =>
    match n.devices.findIdx? (·.name = devName) with
    | none => none
    | some device =>
      some { kernel with
        nets := kernel.nets.set net
          { n with devices := n.devices.modify device fun d ↦ { d with carrier := isUp } } }

/-! ### The server -/

/-- `NETNS_RUN_DIR`. -/
def netnsRunDir : List Char := "/var/run/netns".toList

/-- `get_ptr_by_vrf`. Nothing if an error pointer is used as a file. -/
def getPtrByVrf (filpOpen : List Char → FilpOpen) (kernel : Kernel) (vrfName : List Char) :
    Option (Kernel × Option ℕ) :=
  match filpOpen ((netnsRunDir ++ '/' :: vrfName).take 511) with
  | .error => none
  | .null => some (kernel, none)
  | .file none => some (filpClose (openFile kernel), none)
  | .file (some net) => some (filpClose (getNet (openFile kernel) net), some net)

/-- `set_carrier_netdev`. -/
def setCarrierNetdev (filpOpen : List Char → FilpOpen) (kernel : Kernel)
    (devName vrfName : List Char) (isUp : Bool) : Option (Kernel × UInt16) :=
  let resolved :=
    if vrfName = [] then some (kernel, some 0) else getPtrByVrf filpOpen kernel vrfName
  match resolved with
  | none => none
  | some (kernel, none) => some (kernel, netlinkServErr)
  | some (kernel, some net) =>
    match switchCarrier kernel devName isUp net with
    | some kernel => some (kernel, 0)
    | none =>
      -- the device is looked for in every namespace
      match (List.range kernel.nets.length).findSome?
        (switchCarrier (countErr kernel) devName isUp) with
      | some kernel => some (kernel, 0)
      | none => some (kernel, netlinkServErr)

/-- The name of a device, as `snprintf` with `IFNAMSIZ` leaves it. -/
def deviceName (stem : List Char) (number : UInt16) : List Char :=
  (stem ++ Nat.toDigits 10 number.toNat).take 15

/-- `set_carrier_vlan`. -/
def setCarrierVlan (filpOpen : List Char → FilpOpen) (kernel : Kernel) (message : NlMsg) :
    Option (Kernel × UInt16) :=
  if message.number < 1 ∨ 4094 < message.number then some (kernel, netlinkServErr)
  else if message.number = 1 then some (kernel, 0)
  else setCarrierNetdev filpOpen kernel (deviceName "vlan.".toList message.number) message.vrfName
    (message.isUp ≠ 0)

/-- `set_carrier_port_channel`. -/
def setCarrierPortChannel (filpOpen : List Char → FilpOpen) (kernel : Kernel) (message : NlMsg) :
    Option (Kernel × UInt16) :=
  if message.number < 1 ∨ 12 < message.number then some (kernel, netlinkServErr)
  else setCarrierNetdev filpOpen kernel (deviceName "po".toList message.number) message.vrfName
    (message.isUp ≠ 0)

/-- The command of a message is carried out. The two commands that would read a carrier are not
implemented. -/
def handleRequest (filpOpen : List Char → FilpOpen) (kernel : Kernel) (message : NlMsg) :
    Option (Kernel × UInt16) :=
  if message.cmd = setVlanCarrier then setCarrierVlan filpOpen kernel message
  else if message.cmd = setPortChannelCarrier then setCarrierPortChannel filpOpen kernel message
  else some (kernel, netlinkServErr)

/-- What the handler has done with a message: the answer, and what sending it came to, if there was
memory for it. -/
structure Handled where
  kernel : Kernel
  err : UInt16
  sent : Option Unicast
  deriving DecidableEq

/-- `nl_kserv_recv_msg`. -/
def nlKservRecvMsg (env : RecvEnv) (ports : List UInt32) (kernel : Kernel) (message : NlMsg) :
    Option Handled :=
  match handleRequest env.filpOpen kernel message with
  | none => none
  | some (kernel, err) =>
    let kernel := if err = netlinkServErr then countErr kernel else countNorm kernel
    if env.nlmsgNew then
      let sent := nlmsgUnicast ports env.room message.pid
      some ⟨if sent = .refused then countErr kernel else kernel, err, some sent⟩
    else some ⟨countErr kernel, err, none⟩

/-- A reply that is sent goes to the port id in the header of its message. -/
theorem sent_nlKservRecvMsg {env : RecvEnv} {ports : List UInt32} {kernel : Kernel}
    {message : NlMsg}
    {handled : Handled} (hhandled : nlKservRecvMsg env ports kernel message = some handled) :
    handled.sent = none ∨ handled.sent = some (nlmsgUnicast ports env.room message.pid) := by
  rw [nlKservRecvMsg] at hhandled
  cases hrequest : handleRequest env.filpOpen kernel message with
  | none => simp [hrequest] at hhandled
  | some result =>
    simp only [hrequest] at hhandled
    by_cases hnew : env.nlmsgNew = true
    · rw [if_pos hnew] at hhandled
      obtain rfl := Option.some.inj hhandled
      exact Or.inr rfl
    · rw [if_neg hnew] at hhandled
      obtain rfl := Option.some.inj hhandled
      exact Or.inl rfl

/-- The message that carries an answer. Its header names no port id. -/
def replyMessage (err : UInt16) (fresh : List UInt8) : NlMsg where
  data := le32 8208 ++ le16 3 ++ le16 0 ++ le32 0 ++ le32 0 ++ le16 err ++ fresh
  behind := []

end KernelModules.NetlinkServer
