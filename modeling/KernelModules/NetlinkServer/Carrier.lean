import KernelModules.Foundations.Exchange
import KernelModules.Foundations.Runs
import KernelModules.NetlinkServer.Server

/-!
# Carrier changes from user space

`if-mgr_control_vlan.c` is the other side of the server: a process binds a netlink socket to its
process id, and `if_mgr_vlan_carrier_change` sends a request over it and takes the next message from
the socket for the reply. The system is the kernel, the sockets and what is on its way between them,
as an `Exchange` whose address function is the `nlmsg_pid` of a request. Requests are handled in any
order, and any process may send any message.

The server replies to the port id in the header of the request, not to the socket the request came
from, and the client does not look which request a reply belongs to. `replies_agree` says what this
takes: senders that name themselves, and carrier changes that start on a quiet socket and have it to
themselves.
-/

set_option autoImplicit false
set_option relaxedAutoImplicit false

namespace KernelModules.NetlinkServer

open Foundations

/-! ### The client -/

/-- A `struct vlan_carrier` with its padding. -/
structure VlanCarrier where
  vid : UInt16
  isUp : UInt8
  vrfName : List UInt8
  padding : UInt8
  length_vrfName : vrfName.length = 32

/-- The bytes of a `struct vlan_carrier`. -/
def VlanCarrier.bytes (opt : VlanCarrier) : List UInt8 :=
  le16 opt.vid ++ [opt.isUp] ++ opt.vrfName ++ [opt.padding]

/-- The sockets and what is on its way between them and the server. -/
abbrev Sockets := Exchange UInt32 NlMsg UInt16

/-- Which system calls of `if_mgr_create_connect_to_kernel_space` succeed. -/
structure ConnectEnv where
  socket : Bool
  bind : Bool
  setRcvtimeo : Bool
  setSndtimeo : Bool

/-- `if_mgr_create_connect_to_kernel_space`. A port id is bound once, and `getpid` is never zero. -/
def ifMgrCreateConnectToKernelSpace (env : ConnectEnv) (sockets : Sockets) (pid : UInt32) :
    Sockets × Int32 :=
  if !env.socket then (sockets, -1)
  else if !env.bind || pid ∈ sockets.ports || pid = 0 then (sockets, -1)
  else if !env.setRcvtimeo || !env.setSndtimeo then (sockets, -1)
  else (sockets.openPort pid, 0)

/-- Which calls of `if_mgr_vlan_carrier_change` succeed, and what `malloc` left in the buffer. -/
structure ChangeEnv where
  malloc : Bool
  sendmsg : Bool
  stale : List UInt8

/-- The header of a request, with `NLM_F_REQUEST` and the process id of the client. -/
def requestHeader (pid : UInt32) : List UInt8 :=
  le32 8208 ++ le16 0 ++ le16 1 ++ le32 0 ++ le32 pid

/-- The request for a carrier change. -/
def changeRequest (pid : UInt32) (opt : VlanCarrier) (stale : List UInt8) : NlMsg where
  data := requestHeader pid ++ (le16 setVlanCarrier ++ opt.bytes ++ stale)
  behind := []

/-- `if_mgr_vlan_carrier_change` up to `recvmsg`, with the value if it returns before. -/
def ifMgrVlanCarrierChange (env : ChangeEnv) (sockets : Sockets) (pid : UInt32)
    (opt : VlanCarrier) :
    Sockets × Option Int32 :=
  if opt.vid = 1 then (sockets, some 0)
  else if !env.malloc then (sockets, some (-1))
  else if !env.sendmsg || pid ∉ sockets.ports then (sockets, some (-1))
  else (sockets.call pid (changeRequest pid opt env.stale), none)

/-- What `if_mgr_vlan_carrier_change` returns when `recvmsg` has given it a reply. -/
def changeResult (err : UInt16) : Int32 := if netlinkServErr = err then -1 else 0

/-! ### The system -/

/-- The kernel and the sockets. -/
structure CarrierSystem where
  kernel : Kernel
  sockets : Sockets

/-- What happens in the system. -/
inductive CarrierEvent
  /-- A socket is bound. -/
  | connect (pid : UInt32) (env : ConnectEnv)
  /-- Any message is sent over a socket. -/
  | send (port : UInt32) (message : NlMsg)
  /-- A carrier change sends its request. -/
  | carrierChange (pid : UInt32) (opt : VlanCarrier) (env : ChangeEnv)
  /-- The server handles one of the messages that wait. -/
  | recvMsg (j : ℕ) (env : RecvEnv)
  /-- A message is received outside of a carrier change. -/
  | recv (port : UInt32)
  /-- The `recvmsg` of a carrier change returns a message. -/
  | complete (c : ℕ)
  /-- The `recvmsg` of a carrier change fails or times out. -/
  | timeout (c : ℕ)

/-- What becomes of the reply to a message. -/
def outcome (env : RecvEnv) (message : NlMsg) (handled : Handled) : Outcome UInt32 NlMsg :=
  match handled.sent with
  | none => .unsent
  | some .refused => .lost
  | some .queued => .delivered message.pid
  | some .toServer => .forwarded 0 (replyMessage handled.err env.fresh)

/-- The server handles a message. A fault takes the message with it. -/
def serve (env : RecvEnv) (system : CarrierSystem) (j : ℕ) : CarrierSystem :=
  match system.sockets.waiting[j]? with
  | none => system
  | some request =>
    match nlKservRecvMsg env system.sockets.ports system.kernel request.payload with
    | none => { system with sockets := system.sockets.discard j }
    | some handled =>
      { kernel := handled.kernel
        sockets := system.sockets.answer j handled.err (outcome env request.payload handled) }

/-- One step of the system. -/
def carrierStep (system : CarrierSystem) : CarrierEvent → CarrierSystem
  | .connect pid env =>
    { system with sockets := (ifMgrCreateConnectToKernelSpace env system.sockets pid).1 }
  | .send port message =>
    if port ∈ system.sockets.ports then
      { system with sockets := system.sockets.submit port message }
    else system
  | .carrierChange pid opt env =>
    { system with sockets := (ifMgrVlanCarrierChange env system.sockets pid opt).1 }
  | .recvMsg j env => serve env system j
  | .recv port => { system with sockets := system.sockets.receive port }
  | .complete c => { system with sockets := system.sockets.complete c }
  | .timeout c => { system with sockets := system.sockets.abandon c }

/-- A run of the system. -/
def carrierRun (system : CarrierSystem) (events : List CarrierEvent) : CarrierSystem :=
  events.foldl carrierStep system

/-- The system when the server has been loaded: no socket is bound yet. -/
def carrierStart (kernel : Kernel) : CarrierSystem := ⟨kernel, Exchange.start⟩

/-- Every reply has gone to the socket its request came from, and a carrier change that took a reply
has returned 0 exactly if the server handled its request without an error. -/
structure Agrees (sockets : Sockets) : Prop where
  delivered : ∀ routed ∈ sockets.routed, routed.receiver = some routed.sender
  returned : ∀ request reply, (request, reply) ∈ sockets.returned →
    (changeResult reply = 0 ↔ ∃ err, (request, err) ∈ sockets.answered ∧ err ≠ netlinkServErr)

/-- Messages name the socket they are sent over and are not sent into a carrier change, carrier
changes start on a quiet socket, and the queue for a reply has room. -/
def Orderly (system : CarrierSystem) : CarrierEvent → Prop
  | .send port message =>
    message.pid = port ∧ ∀ call ∈ system.sockets.calls, call.port ≠ port
  | .carrierChange pid _ _ => system.sockets.Quiet pid
  | .recvMsg _ env => env.room
  | .connect _ _ => True
  | .recv _ => True
  | .complete _ => True
  | .timeout _ => True

instance (system : CarrierSystem) : (event : CarrierEvent) → Decidable (Orderly system event)
  | .send _ _ => inferInstanceAs (Decidable (_ ∧ _))
  | .carrierChange _ _ _ => inferInstanceAs (Decidable (Exchange.Quiet _ _))
  | .recvMsg _ _ => inferInstanceAs (Decidable (_ = true))
  | .connect _ _ => inferInstanceAs (Decidable True)
  | .recv _ => inferInstanceAs (Decidable True)
  | .complete _ => inferInstanceAs (Decidable True)
  | .timeout _ => inferInstanceAs (Decidable True)

/-! ### Agreement -/

/-- The request of a carrier change names the process that sends it. -/
theorem pid_changeRequest (pid : UInt32) (opt : VlanCarrier) (stale : List UInt8) :
    (changeRequest pid opt stale).pid = pid := by
  have hmemory : (changeRequest pid opt stale).memory =
      (le32 8208 ++ le16 0 ++ le16 1 ++ le32 0) ++
        (le32 pid ++ (le16 setVlanCarrier ++ opt.bytes ++ stale)) := by
    simp only [NlMsg.memory, changeRequest, requestHeader, List.append_nil, List.append_assoc]
  rw [NlMsg.pid, hmemory]
  exact (le32At_append_right _ _ 0).trans (le32At_le32 pid _)

/-- The exchange is matched, and no socket has the port id of the server. -/
def Settled (system : CarrierSystem) : Prop :=
  system.sockets.Matched NlMsg.pid ∧ 0 ∉ system.sockets.ports

theorem settled_start (kernel : Kernel) : Settled (carrierStart kernel) :=
  ⟨Exchange.matched_start, List.not_mem_nil⟩

theorem Settled.connect {system : CarrierSystem} (hsettled : Settled system) (pid : UInt32)
    (env : ConnectEnv) : Settled (carrierStep system (.connect pid env)) := by
  simp only [carrierStep, ifMgrCreateConnectToKernelSpace]
  split_ifs with hsocket hbind htimeo
  · exact hsettled
  · exact hsettled
  · exact hsettled
  · have hpid : pid ≠ 0 := by
      rintro rfl
      simp at hbind
    refine ⟨hsettled.1.openPort pid, ?_⟩
    rintro hzero
    rcases List.mem_cons.mp hzero with hnew | hold
    · exact hpid hnew.symm
    · exact hsettled.2 hold

theorem Settled.send {system : CarrierSystem} (hsettled : Settled system) {port : UInt32}
    {message : NlMsg} (horderly : Orderly system (.send port message)) :
    Settled (carrierStep system (.send port message)) := by
  rw [carrierStep]
  split_ifs with hport
  · exact ⟨hsettled.1.submit horderly.1 hport horderly.2, hsettled.2⟩
  · exact hsettled

theorem Settled.carrierChange {system : CarrierSystem} (hsettled : Settled system) {pid : UInt32}
    {opt : VlanCarrier} {env : ChangeEnv} (horderly : Orderly system (.carrierChange pid opt env)) :
    Settled (carrierStep system (.carrierChange pid opt env)) := by
  simp only [carrierStep, ifMgrVlanCarrierChange]
  split_ifs with hvid hmalloc hsend
  · exact hsettled
  · exact hsettled
  · exact hsettled
  · have hport : pid ∈ system.sockets.ports := by
      by_contra hport
      simp [hport] at hsend
    exact ⟨hsettled.1.call (pid_changeRequest pid opt env.stale) hport horderly, hsettled.2⟩

/-- In a matched exchange the reply to a message is not sent, or goes to the socket the message came
from. -/
theorem outcome_of_settled {system : CarrierSystem} (hsettled : Settled system) {env : RecvEnv}
    (hroom : env.room = true) {request : Request UInt32 NlMsg}
    (hrequest : request ∈ system.sockets.waiting) {handled : Handled}
    (hhandled : nlKservRecvMsg env system.sockets.ports system.kernel request.payload =
      some handled) :
    outcome env request.payload handled = .unsent ∨
      outcome env request.payload handled = .delivered request.sender := by
  obtain ⟨hpid, hport⟩ := hsettled.1.own request hrequest
  have hnonzero : request.sender ≠ 0 := fun hzero ↦ hsettled.2 (hzero ▸ hport)
  have hqueued : nlmsgUnicast system.sockets.ports env.room request.payload.pid = .queued := by
    rw [nlmsgUnicast, hpid, if_neg hnonzero, if_pos ⟨hport, hroom⟩]
  rcases sent_nlKservRecvMsg hhandled with hunsent | hsent
  · exact Or.inl (by rw [outcome, hunsent])
  · exact Or.inr (by rw [outcome, hsent, hqueued, ← hpid])

theorem ports_answer (sockets : Sockets) (j : ℕ) (err : UInt16) (outcome : Outcome UInt32 NlMsg) :
    (sockets.answer j err outcome).ports = sockets.ports := by
  rw [Exchange.answer]
  cases sockets.waiting[j]? with
  | none => rfl
  | some request => cases outcome <;> rfl

theorem ports_complete (sockets : Sockets) (c : ℕ) :
    (sockets.complete c).ports = sockets.ports := by
  rw [Exchange.complete]
  cases sockets.calls[c]? with
  | none => rfl
  | some call => dsimp only; cases sockets.mailbox call.port <;> rfl

theorem Settled.recvMsg {system : CarrierSystem} (hsettled : Settled system) (j : ℕ) {env : RecvEnv}
    (hroom : env.room = true) : Settled (serve env system j) := by
  rw [serve]
  cases hrequest : system.sockets.waiting[j]? with
  | none => exact hsettled
  | some request =>
    dsimp only
    cases hhandled : nlKservRecvMsg env system.sockets.ports system.kernel request.payload with
    | none => exact ⟨hsettled.1.discard j, hsettled.2⟩
    | some handled =>
      have hmem := List.mem_of_getElem? hrequest
      constructor
      · apply hsettled.1.answer
        intro other hother
        obtain rfl := Option.some.inj (hrequest.symm.trans hother)
        exact outcome_of_settled hsettled hroom hmem hhandled
      · dsimp only
        rw [ports_answer]
        exact hsettled.2

theorem Settled.carrierStep {system : CarrierSystem} {event : CarrierEvent}
    (hsettled : Settled system) (horderly : Orderly system event) :
    Settled (carrierStep system event) := by
  cases event with
  | connect pid env => exact hsettled.connect pid env
  | send port message => exact hsettled.send horderly
  | carrierChange pid opt env => exact hsettled.carrierChange horderly
  | recvMsg j env => exact hsettled.recvMsg j horderly
  | recv port => exact ⟨hsettled.1.receive port, hsettled.2⟩
  | complete c => exact ⟨hsettled.1.complete c, (ports_complete system.sockets c).symm ▸ hsettled.2⟩
  | timeout c => exact ⟨hsettled.1.abandon c, hsettled.2⟩

theorem changeResult_eq_zero_iff (err : UInt16) : changeResult err = 0 ↔ err ≠ netlinkServErr := by
  rw [changeResult]
  split_ifs with herr
  · simp [herr]
  · simpa using Ne.symm herr

/-- In a matched exchange replies agree with requests. -/
theorem Settled.agrees {system : CarrierSystem} (hsettled : Settled system) :
    Agrees system.sockets where
  delivered := hsettled.1.routed
  returned := by
    intro request reply hreturned
    have hanswered := hsettled.1.returned _ hreturned
    rw [changeResult_eq_zero_iff]
    constructor
    · intro hreply
      exact ⟨reply, hanswered, hreply⟩
    · rintro ⟨err, herr, hne⟩
      rwa [← hsettled.1.answer_eq herr hanswered]

/-- Request and reply agree in every run in which messages name the socket they are sent over,
carrier changes start on quiet sockets and have them to themselves, and receive queues have room. -/
theorem replies_agree (kernel : Kernel) (events : List CarrierEvent)
    (horderly : Along carrierStep Orderly (carrierStart kernel) events) :
    Agrees (carrierRun (carrierStart kernel) events).sockets := by
  have hsettled : Settled (carrierRun (carrierStart kernel) events) := by
    apply Along.invariant _ horderly (settled_start kernel)
    intro system event hbefore hevent
    exact hbefore.carrierStep hevent
  exact hsettled.agrees

/-- A kernel whose one namespace has the device of VLAN 5. -/
def vlanKernel : Kernel := ⟨[⟨[⟨"vlan.5".toList, false⟩], 1⟩], 0, 0, 0⟩

/-- Everything succeeds. -/
def connected : ConnectEnv := ⟨true, true, true, true⟩

/-- Everything succeeds, and there are no VRFs. -/
def served : RecvEnv := ⟨fun _ ↦ .null, true, true, []⟩

/-- VLAN 5 is to come up. -/
def vlanUp : VlanCarrier := ⟨5, 1, List.replicate 32 0, 0, List.length_replicate⟩

/-- A message without a command. -/
def noCommand (pid : UInt32) : NlMsg := ⟨requestHeader pid ++ le16 0, []⟩

/-- Two processes, each of which gets the answer to its own message. -/
def twoClients : List CarrierEvent :=
  [.connect 100 connected, .connect 200 connected, .send 100 (noCommand 100),
    .carrierChange 200 vlanUp ⟨true, true, []⟩, .recvMsg 1 served, .recvMsg 0 served, .recv 100,
    .complete 0]

theorem replies_agree_twoClients :
    (carrierRun (carrierStart vlanKernel) twoClients).sockets.returned = [(1, 0)] ∧
      Agrees (carrierRun (carrierStart vlanKernel) twoClients).sockets :=
  ⟨by decide, replies_agree vlanKernel twoClients (by decide)⟩

/-- The first process names the second one in its message. The server answers that it knows no such
command, to the second process, which takes this for the answer to its carrier change. -/
def strayReply : List CarrierEvent :=
  [.connect 100 connected, .connect 200 connected, .send 100 (noCommand 200), .recvMsg 0 served,
    .carrierChange 200 vlanUp ⟨true, true, []⟩, .recvMsg 0 served, .complete 0]

theorem not_agrees_strayReply :
    ¬Agrees (carrierRun (carrierStart vlanKernel) strayReply).sockets := by
  intro hagrees
  have hreturned : (1, netlinkServErr) ∈
      (carrierRun (carrierStart vlanKernel) strayReply).sockets.returned := by decide
  have hanswered : (1, 0) ∈
      (carrierRun (carrierStart vlanKernel) strayReply).sockets.answered := by decide
  have hzero := (hagrees.returned 1 netlinkServErr hreturned).mpr ⟨0, hanswered, by decide⟩
  exact absurd hzero (by decide)

end KernelModules.NetlinkServer
