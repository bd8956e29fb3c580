import KernelModules.Foundations.Draining
import KernelModules.L2tp.Header

/-!
# The receive path of one session

`l2tp_recv_common` from the first byte behind the session id to the receive handler. Positions in
the frame are counted from `skb->data`, which both callers pass as `optr`.

The function is cut at its labels. `recvAdmit` is everything up to the reorder queue: cookie,
sequence number, the policy on sequence numbers, offset, pull and payload hook. It answers with the
frame that goes on, or with the frame that goes to `discard`. `l2tp_recv_data_seq` and
`l2tp_recv_queue_skb` put a frame into the queue, and `l2tp_recv_dequeue` empties the queue from its
head: since a pass unlinks everything it has passed, the walk over the queue always looks at the
head, and `dequeueStep` is one turn of it.
-/

set_option autoImplicit false
set_option relaxedAutoImplicit false

namespace KernelModules.L2tp

open Foundations

variable {n : ℕ}

/-! ### Handlers -/

/-- `l2tp_eth_dev_recv`: forward the frame to the device, and count it there. -/
def l2tpEthDevRecv (env : Env n) (flow : Flow n) (skb : SkBuff) (dataLen : UInt16) : Flow n :=
  if skb.pskbMayPull 14 && env.devForwardSkb skb then
    flow.deviceStats env.cpu fun d ↦
      { d with rxBytes := d.rxBytes + dataLen.toUInt64, rxPackets := d.rxPackets + 1 }
  else flow.deviceStats env.cpu fun d ↦ { d with rxErrors := d.rxErrors + 1 }

/-- `pppol2tp_recv`: to PPP if the socket is bound, else to the socket's queue, which may refuse the
frame. -/
def pppol2tpRecv (env : Env n) (flow : Flow n) (skb : SkBuff) : Flow n :=
  match flow.session.ps.sock with
  | none => flow
  | some _ =>
    if env.pppoxBound || env.sockQueueRcvSkb skb then flow
    else flow.sessionStats env.cpu fun s ↦ { s with rxErrors := s.rxErrors + 1 }

/-- `(*session->recv_skb)(session, skb, length)`. -/
def callRecvHandler (handler : RecvHandler) (env : Env n) (flow : Flow n) (skb : SkBuff) : Flow n :=
  match handler with
  | .l2tpEthDevRecv => l2tpEthDevRecv env flow skb skb.cb.length
  | .pppol2tpRecv => pppol2tpRecv env flow skb

/-- `pppol2tp_recv_payload_hook`: skip the PPP address and control bytes if they are there. `none`
is a refusal. -/
def pppol2tpRecvPayloadHook (skb : SkBuff) : Option SkBuff :=
  if skb.pskbMayPull 2 then
    if byteAt skb.data 0 = 0xff ∧ byteAt skb.data 1 = 0x03 then some (skb.skbPull 2) else some skb
  else none

/-- `if (payload_hook) if ((*payload_hook)(skb)) goto discard`. -/
def runPayloadHook (hook : Option PayloadHook) (skb : SkBuff) : Option SkBuff :=
  match hook with
  | some .pppol2tpRecvPayloadHook => pppol2tpRecvPayloadHook skb
  | none => some skb

/-! ### The reorder queue -/

/-- The walk of `l2tp_recv_queue_skb`: in front of the first frame with a larger `ns`, else at the
tail. The flag tells whether it found one. -/
def queueByNs (skb : SkBuff) : List SkBuff → List SkBuff × Bool
  | [] => ([skb], false)
  | skbp :: rest =>
    if skbp.cb.ns > skb.cb.ns then (skb :: skbp :: rest, true)
    else
      let (queue, found) := queueByNs skb rest
      (skbp :: queue, found)

/-- `l2tp_recv_queue_skb`. -/
def l2tpRecvQueueSkb (env : Env n) (flow : Flow n) (skb : SkBuff) : Flow n :=
  let (queue, found) := queueByNs skb flow.session.reorderQ
  let flow := flow.onSession fun session ↦ { session with reorderQ := queue }
  if found then flow.sessionStats env.cpu fun s ↦ { s with rxOosPackets := s.rxOosPackets + 1 }
  else flow

/-- `skb_queue_tail(&session->reorder_q, skb)`. -/
def skbQueueTail (flow : Flow n) (skb : SkBuff) : Flow n :=
  flow.onSession fun session ↦ { session with reorderQ := session.reorderQ ++ [skb] }

/-- A write to `session->nr`. -/
def setNr (flow : Flow n) (nr : UInt32) : Flow n :=
  (flow.onSession fun session ↦ { session with nr }).emit (.setNr flow.session.nr nr)

/-- A frame leaves the queue: count it on the tunnel and on the session. -/
def countReceived (env : Env n) (flow : Flow n) (skb : SkBuff) : Flow n :=
  let count (s : L2tpStats) : L2tpStats :=
    { s with rxBytes := s.rxBytes + skb.cb.length.toUInt64, rxPackets := s.rxPackets + 1 }
  (flow.tunnelStats env.cpu count).sessionStats env.cpu count

/-- Bump Nr for a sequenced frame. -/
def bumpNr (flow : Flow n) (skb : SkBuff) : Flow n :=
  if skb.cb.hasSeq then setNr flow ((flow.session.nr + 1) &&& flow.session.nrMax) else flow

/-- Call the private receive handler, or free the frame if there is none. -/
def handOver (env : Env n) (flow : Flow n) (skb : SkBuff) : Flow n :=
  match flow.session.recvSkb with
  | some handler => callRecvHandler handler env (flow.emit (.recvSkb skb)) skb
  | none => flow.emit (.kfreeSkb skb)

/-- `l2tp_recv_dequeue_skb`. -/
def l2tpRecvDequeueSkb (env : Env n) (flow : Flow n) (skb : SkBuff) : Flow n :=
  (handOver env (bumpNr (countReceived env flow skb) skb) skb).deref

/-- A frame at the head of the queue has been there for too long: count it, set `reorder_skip`, and
free it. -/
def discardExpired (env : Env n) (flow : Flow n) (skb : SkBuff) (rest : List SkBuff) : Flow n :=
  let flow := flow.sessionStats env.cpu fun s ↦
    { s with rxSeqDiscards := s.rxSeqDiscards + 1, rxErrors := s.rxErrors + 1 }
  let flow := flow.onSession fun session ↦ { session with reorderSkip := true, reorderQ := rest }
  (flow.emit (.kfreeSkb skb)).deref

/-- `if (session->reorder_skip)`: advance Nr to the sequenced frame at the head of the queue. -/
def skipToHead (flow : Flow n) (skb : SkBuff) : Flow n :=
  if skb.cb.hasSeq && flow.session.reorderSkip then
    setNr (flow.onSession fun session ↦ { session with reorderSkip := false }) skb.cb.ns
  else flow

/-- One turn of the loop in `l2tp_recv_dequeue`. It stops at an empty queue and at a head that Nr
does not ask for; the skip makes Nr ask for the head, so nothing has changed when it stops. -/
def dequeueStep (env : Env n) (flow : Flow n) : Option (Flow n) :=
  match flow.session.reorderQ with
  | [] => none
  | skb :: rest =>
    if timeAfter env.jiffies skb.cb.expires then some (discardExpired env flow skb rest)
    else
      let flow := skipToHead flow skb
      if skb.cb.hasSeq ∧ skb.cb.ns ≠ flow.session.nr then none
      else
        let flow := flow.onSession fun session ↦ { session with reorderQ := rest }
        some (l2tpRecvDequeueSkb env flow skb)

/-- `l2tp_recv_dequeue`. Every turn takes a frame from the queue. -/
def l2tpRecvDequeue (env : Env n) (flow : Flow n) : Flow n :=
  drain (dequeueStep env) flow.session.reorderQ.length flow

/-- `l2tp_seq_check_rx_window`. -/
def l2tpSeqCheckRxWindow (session : L2tpSession n) (nr : UInt32) : Bool :=
  let nws :=
    if nr ≥ session.nr then nr - session.nr else (session.nrMax + 1) - (session.nr - nr)
  nws < session.nrWindowSize

/-- Without reordering, a frame out of sequence is remembered in `nr_oos`, and after more than
`nr_oos_count_max` consecutive ones `reorder_skip` is set. -/
def trackOos (flow : Flow n) (nrOos : UInt32) : Flow n :=
  let nrNext := (flow.session.nrOos + 1) &&& flow.session.nrMax
  let nrOosCount := if nrOos = nrNext then flow.session.nrOosCount + 1 else 0
  flow.onSession fun session ↦
    { session with
      nrOosCount
      nrOos
      reorderSkip := session.reorderSkip || nrOosCount > session.nrOosCountMax }

/-- `l2tp_recv_data_seq`. The flag is its return value: the frame is to be discarded. -/
def l2tpRecvDataSeq (env : Env n) (flow : Flow n) (skb : SkBuff) : Flow n × Bool :=
  if !l2tpSeqCheckRxWindow flow.session skb.cb.ns then (flow, true)
  else if flow.session.reorderTimeout ≠ 0 then (l2tpRecvQueueSkb env flow skb, false)
  else if skb.cb.ns = flow.session.nr then (skbQueueTail flow skb, false)
  else
    let flow := trackOos flow skb.cb.ns
    if !flow.session.reorderSkip then
      (flow.sessionStats env.cpu fun s ↦ { s with rxSeqDiscards := s.rxSeqDiscards + 1 }, true)
    else (skbQueueTail flow skb, false)

/-! ### Admission -/

/-- The cookie check. `none` is a mismatch, else the position behind the cookie. -/
def recvCookie (params : SessionParams) (skb : SkBuff) (ptr : ℕ) : Option ℕ :=
  if bytesAt skb.mem ptr params.peerCookie.bytes.length = params.peerCookie.bytes then
    some (ptr + params.peerCookie.bytes.length)
  else none

/-- The sequence number, which L2TPv2 has behind the ids when the S bit is set, and L2TPv3 in the
default sublayer, and the position behind it. -/
def recvSequence (version : ℕ) (params : SessionParams) (skb : SkBuff) (ptr : ℕ)
    (hdrflags : UInt16) : Option UInt32 × ℕ :=
  if version = hdrVer2 then
    if hdrflags &&& hdrflagS ≠ 0 then (some (be16At skb.mem ptr).toUInt32, ptr + 4)
    else (none, ptr)
  else if params.l2specificType = l2spectypeDefault ∧ be32At skb.mem ptr &&& 0x40000000 ≠ 0 then
    (some (be32At skb.mem ptr &&& 0x00ffffff), ptr)
  else (none, ptr)

/-- What `l2tp_recv_common` stores in the control block about the sequence number: `ns` is written
only if there is one. -/
def storeSequence (skb : SkBuff) : Option UInt32 → SkBuff
  | some ns => { skb with cb.ns := ns, cb.hasSeq := true }
  | none => { skb with cb.hasSeq := false }

/-- The policy on sequence numbers: an LAC follows what the peer does, and a frame without a number
is refused where one is required. `none` is a refusal. -/
def recvSeqPolicy (tunnel : L2tpTunnel n) (session : L2tpSession n) (hasSeq : Bool) :
    Option (L2tpSession n) :=
  if hasSeq then
    if !session.lnsMode && !session.sendSeq then
      some (l2tpSessionSetHeaderLen tunnel { session with sendSeq := true } tunnel.version)
    else some session
  else if session.recvSeq then none
  else if !session.lnsMode && session.sendSeq then
    some (l2tpSessionSetHeaderLen tunnel { session with sendSeq := false } tunnel.version)
  else if session.sendSeq then none
  else some session

/-- The position of the payload: behind the offset field and its padding in L2TPv2 when the O bit is
set, behind the configured offset in L2TPv3. -/
def recvOffset (version : ℕ) (params : SessionParams) (skb : SkBuff) (ptr : ℕ)
    (hdrflags : UInt16) : ℕ :=
  if version = hdrVer2 then
    if hdrflags &&& hdrflagO ≠ 0 then ptr + (2 + (be16At skb.mem ptr).toNat) else ptr
  else ptr + params.offset.toNat

/-- The header has been read: pull it and run the payload hook. `none` sends the frame to
`discard`. -/
def recvPayload (skb : SkBuff) (offset : ℕ) (hook : Option PayloadHook) : Option SkBuff :=
  if skb.pskbMayPull offset then runPayloadHook hook (skb.skbPull offset) else none

/-- The frame's length and the time until which it may stay in the queue. -/
def stampFrame (env : Env n) (reorderTimeout : Int32) (skb : SkBuff) (length : ℕ) : SkBuff :=
  { skb with
    cb.length := UInt16.ofNat length
    cb.expires := env.jiffies +
      if reorderTimeout ≠ 0 then reorderTimeout.toInt64.toUInt64 else env.hz }

/-- The arguments of a call of `l2tp_recv_common`, and what it finds around it. -/
structure RecvCall (n : ℕ) where
  env : Env n
  skb : SkBuff
  ptr : ℕ
  hdrflags : UInt16
  length : ℕ
  hook : Option PayloadHook

/-- The frame with its sequence number stored, when the cookie ends at `ptr`. -/
def sequencedFrame (version : ℕ) (params : SessionParams) (call : RecvCall n) (ptr : ℕ) : SkBuff :=
  storeSequence call.skb (recvSequence version params call.skb ptr call.hdrflags).1

/-- The length of the header in front of the payload, when the cookie ends at `ptr`. -/
def payloadOffset (version : ℕ) (params : SessionParams) (call : RecvCall n) (ptr : ℕ) : ℕ :=
  recvOffset version params call.skb
    ((recvSequence version params call.skb ptr call.hdrflags).2 + params.l2specificLen.toNat)
    call.hdrflags

/-- `l2tp_recv_common` up to the reorder queue: the frame that goes on, or the one that goes to
`discard`. -/
def recvAdmit (flow : Flow n) (call : RecvCall n) : Flow n × Except SkBuff SkBuff :=
  let version := flow.tunnel.version
  let params := flow.session.toSessionParams
  match recvCookie params call.skb call.ptr with
  | none =>
    (flow.sessionStats call.env.cpu fun s ↦ { s with rxCookieDiscards := s.rxCookieDiscards + 1 },
      .error call.skb)
  | some ptr =>
    let skb := sequencedFrame version params call ptr
    match recvSeqPolicy flow.tunnel flow.session skb.cb.hasSeq with
    | none =>
      (flow.sessionStats call.env.cpu fun s ↦ { s with rxSeqDiscards := s.rxSeqDiscards + 1 },
        .error skb)
    | some session =>
      match recvPayload skb (payloadOffset version params call ptr) call.hook with
      | none => ({ flow with session }, .error skb)
      | some payload =>
        ({ flow with session },
          .ok (stampFrame call.env session.reorderTimeout payload call.length))

/-- The exit `discard` of `l2tp_recv_common`. -/
def recvDiscard (env : Env n) (flow : Flow n) (skb : SkBuff) : Flow n :=
  let flow := flow.sessionStats env.cpu fun s ↦ { s with rxErrors := s.rxErrors + 1 }
  (flow.emit (.kfreeSkb skb)).deref

/-- `l2tp_recv_common` up to the call of `l2tp_recv_dequeue`, or to its end when the frame is
discarded. The flag tells whether the frame is in the queue. -/
def recvEnqueue (flow : Flow n) (call : RecvCall n) : Flow n × Bool :=
  match recvAdmit flow.ref call with
  | (flow, .error skb) => (recvDiscard call.env flow skb, false)
  | (flow, .ok skb) =>
    if skb.cb.hasSeq then
      match l2tpRecvDataSeq call.env flow skb with
      | (flow, true) => (recvDiscard call.env flow skb, false)
      | (flow, false) => (flow, true)
    else (skbQueueTail flow skb, true)

/-- `l2tp_recv_common`. -/
def l2tpRecvCommon (flow : Flow n) (call : RecvCall n) : Flow n :=
  match recvEnqueue flow call with
  | (flow, true) => l2tpRecvDequeue call.env flow
  | (flow, false) => flow

/-- One turn of the loop in `l2tp_session_queue_purge`. -/
def purgeStep (env : Env n) (flow : Flow n) : Option (Flow n) :=
  match flow.session.reorderQ with
  | [] => none
  | skb :: rest =>
    let flow := flow.onSession fun session ↦ { session with reorderQ := rest }
    some (recvDiscard env flow skb)

/-- `l2tp_session_queue_purge`. -/
def l2tpSessionQueuePurge (env : Env n) (flow : Flow n) : Flow n :=
  drain (purgeStep env) flow.session.reorderQ.length flow

/-! ### What the receive path changes, statistics aside -/

/-- A receive handler changes nothing but statistics. -/
theorem callRecvHandler_eq (handler : RecvHandler) (env : Env n) (flow : Flow n) (skb : SkBuff) :
    ∃ counters, callRecvHandler handler env flow skb =
      flow.withStats flow.tunnel.stats counters := by
  cases handler with
  | l2tpEthDevRecv =>
    unfold callRecvHandler l2tpEthDevRecv
    dsimp only
    split_ifs
    · exact ⟨_, rfl⟩
    · exact ⟨_, rfl⟩
  | pppol2tpRecv =>
    unfold callRecvHandler pppol2tpRecv
    dsimp only
    cases flow.session.ps.sock with
    | none => exact ⟨_, rfl⟩
    | some sock =>
      dsimp only
      split_ifs
      · exact ⟨_, rfl⟩
      · exact ⟨_, rfl⟩

/-- The header length is the only field that `l2tp_session_set_header_len` sets. -/
theorem l2tpSessionSetHeaderLen_eq (tunnel : L2tpTunnel n) (session : L2tpSession n) (version : ℕ) :
    ∃ hdrLen, l2tpSessionSetHeaderLen tunnel session version = { session with hdrLen } := by
  unfold l2tpSessionSetHeaderLen
  split_ifs <;> exact ⟨_, rfl⟩

/-- The policy on sequence numbers changes `send_seq` and the header length only. -/
theorem recvSeqPolicy_eq {tunnel : L2tpTunnel n} {session session' : L2tpSession n} {hasSeq : Bool}
    (hpolicy : recvSeqPolicy tunnel session hasSeq = some session') :
    ∃ sendSeq hdrLen, session' = { session with sendSeq, hdrLen } := by
  have hheader : ∀ sendSeq, ∃ hdrLen, l2tpSessionSetHeaderLen tunnel { session with sendSeq }
      tunnel.version = { session with sendSeq, hdrLen } :=
    fun sendSeq ↦ l2tpSessionSetHeaderLen_eq tunnel { session with sendSeq } tunnel.version
  unfold recvSeqPolicy at hpolicy
  split_ifs at hpolicy
  all_goals rw [Option.some.injEq] at hpolicy; subst hpolicy
  · exact ⟨_, hheader true⟩
  · exact ⟨_, _, rfl⟩
  · exact ⟨_, hheader false⟩
  · exact ⟨_, _, rfl⟩

@[simp] theorem id_storeSequence (skb : SkBuff) (ns : Option UInt32) :
    (storeSequence skb ns).id = skb.id := by
  cases ns <;> rfl

theorem id_recvPayload {skb payload : SkBuff} {offset : ℕ} {hook : Option PayloadHook}
    (hpayload : recvPayload skb offset hook = some payload) : payload.id = skb.id := by
  unfold recvPayload runPayloadHook pppol2tpRecvPayloadHook at hpayload
  cases hook <;> (dsimp only at hpayload; split_ifs at hpayload)
  all_goals rw [Option.some.injEq] at hpayload; rw [← hpayload]; rfl

/-- What admission does: it counts a refusal, or lets the policy change `send_seq`. -/
theorem recvAdmit_cases (flow : Flow n) (call : RecvCall n) :
    (∃ change : L2tpStats → L2tpStats, ∃ skb,
      (∀ s, (change s).rxPackets = s.rxPackets ∧ (change s).rxErrors = s.rxErrors) ∧
      skb.id = call.skb.id ∧
      recvAdmit flow call = (flow.sessionStats call.env.cpu change, .error skb)) ∨
    ∃ sendSeq hdrLen skb, skb.id = call.skb.id ∧
      (recvAdmit flow call =
          (flow.onSession fun session ↦ { session with sendSeq, hdrLen }, .error skb) ∨
        recvAdmit flow call =
          (flow.onSession fun session ↦ { session with sendSeq, hdrLen }, .ok skb)) := by
  unfold recvAdmit
  dsimp only
  generalize flow.tunnel.version = version
  generalize flow.session.toSessionParams = params
  cases recvCookie params call.skb call.ptr with
  | none =>
    refine Or.inl ⟨_, call.skb, ?_, rfl, rfl⟩
    exact fun _ ↦ ⟨rfl, rfl⟩
  | some ptr =>
    dsimp only
    have hid : (sequencedFrame version params call ptr).id = call.skb.id := id_storeSequence _ _
    generalize sequencedFrame version params call ptr = skb at hid
    cases hpolicy : recvSeqPolicy flow.tunnel flow.session skb.cb.hasSeq with
    | none =>
      refine Or.inl ⟨_, skb, ?_, hid, rfl⟩
      exact fun _ ↦ ⟨rfl, rfl⟩
    | some session =>
      obtain ⟨sendSeq, hdrLen, rfl⟩ := recvSeqPolicy_eq hpolicy
      cases hpayload : recvPayload skb (payloadOffset version params call ptr) call.hook with
      | none => exact Or.inr ⟨sendSeq, hdrLen, skb, hid, Or.inl rfl⟩
      | some payload =>
        refine Or.inr ⟨sendSeq, hdrLen, _, ?_, Or.inr rfl⟩
        exact (id_recvPayload hpayload).trans hid

/-- The frame that comes out of admission when the cookie is right and the header and the hook leave
a payload. It depends on what creation fixed, and on the reorder timeout. -/
def admittedFrame (version : ℕ) (params : SessionParams) (reorderTimeout : Int32)
    (call : RecvCall n) : Option SkBuff :=
  (recvCookie params call.skb call.ptr).bind fun ptr ↦
    (recvPayload (sequencedFrame version params call ptr) (payloadOffset version params call ptr)
      call.hook).map fun payload ↦ stampFrame call.env reorderTimeout payload call.length

theorem cb_recvPayload {skb payload : SkBuff} {offset : ℕ} {hook : Option PayloadHook}
    (hpayload : recvPayload skb offset hook = some payload) : payload.cb = skb.cb := by
  unfold recvPayload runPayloadHook pppol2tpRecvPayloadHook at hpayload
  cases hook <;> (dsimp only at hpayload; split_ifs at hpayload)
  all_goals rw [Option.some.injEq] at hpayload; rw [← hpayload]; rfl

/-- The policy never refuses a frame with a sequence number. -/
theorem recvAdmit_of_admittedFrame {flow : Flow n} {call : RecvCall n} {skb : SkBuff}
    (hadmitted : admittedFrame flow.tunnel.version flow.session.toSessionParams
      flow.session.reorderTimeout call = some skb) (hseq : skb.cb.hasSeq = true) :
    ∃ sendSeq hdrLen, recvAdmit flow call =
      (flow.onSession fun session ↦ { session with sendSeq, hdrLen }, .ok skb) := by
  obtain ⟨ptr, hcookie, hrest⟩ := Option.bind_eq_some_iff.mp hadmitted
  obtain ⟨payload, hpayload, rfl⟩ := Option.map_eq_some_iff.mp hrest
  have hframe : (sequencedFrame flow.tunnel.version flow.session.toSessionParams call
      ptr).cb.hasSeq =
      true := by
    rw [← cb_recvPayload hpayload]
    exact hseq
  obtain ⟨session, hpolicy⟩ : ∃ session, recvSeqPolicy flow.tunnel flow.session true =
      some session := by
    rw [recvSeqPolicy, if_pos rfl]
    split_ifs
    · exact ⟨_, rfl⟩
    · exact ⟨_, rfl⟩
  obtain ⟨sendSeq, hdrLen, rfl⟩ := recvSeqPolicy_eq hpolicy
  refine ⟨sendSeq, hdrLen, ?_⟩
  simp only [recvAdmit, hcookie, hframe, hpolicy, hpayload]
  rfl

/-- What comes out of admission is the frame with its number and its payload. -/
theorem admittedFrame_of_recvAdmit {flow flow' : Flow n} {call : RecvCall n} {skb : SkBuff}
    (haccept : recvAdmit flow call = (flow', .ok skb)) :
    admittedFrame flow.tunnel.version flow.session.toSessionParams
      flow.session.reorderTimeout call =
      some skb := by
  unfold recvAdmit at haccept
  unfold admittedFrame
  dsimp only at haccept
  generalize flow.tunnel.version = version at *
  generalize flow.session.toSessionParams = params at *
  cases hcookie : recvCookie params call.skb call.ptr with
  | none => simp [hcookie] at haccept
  | some ptr =>
    simp only [hcookie] at haccept
    cases hpolicy : recvSeqPolicy flow.tunnel flow.session
      (sequencedFrame version params call ptr).cb.hasSeq with
    | none => simp [hpolicy] at haccept
    | some session =>
      obtain ⟨sendSeq, hdrLen, rfl⟩ := recvSeqPolicy_eq hpolicy
      simp only [hpolicy] at haccept
      cases hpayload : recvPayload (sequencedFrame version params call ptr)
        (payloadOffset version params call ptr) call.hook with
      | none => simp [hpayload] at haccept
      | some payload =>
        simp only [hpayload, Prod.mk.injEq, Except.ok.injEq] at haccept
        simp [hpayload, haccept.2]

/-- What `l2tp_recv_data_seq` does, by its branches. -/
theorem l2tpRecvDataSeq_cases (env : Env n) (flow : Flow n) (skb : SkBuff) :
    (l2tpSeqCheckRxWindow flow.session skb.cb.ns = false ∧
        l2tpRecvDataSeq env flow skb = (flow, true)) ∨
      (l2tpSeqCheckRxWindow flow.session skb.cb.ns = true ∧
        ((flow.session.reorderTimeout ≠ 0 ∧
            l2tpRecvDataSeq env flow skb = (l2tpRecvQueueSkb env flow skb, false)) ∨
          (flow.session.reorderTimeout = 0 ∧
            ((skb.cb.ns = flow.session.nr ∧
                l2tpRecvDataSeq env flow skb = (skbQueueTail flow skb, false)) ∨
              (skb.cb.ns ≠ flow.session.nr ∧
                ((trackOos flow skb.cb.ns).session.reorderSkip = false ∧
                    l2tpRecvDataSeq env flow skb =
                      ((trackOos flow skb.cb.ns).sessionStats env.cpu fun s ↦
                        { s with rxSeqDiscards := s.rxSeqDiscards + 1 }, true) ∨
                  (trackOos flow skb.cb.ns).session.reorderSkip = true ∧
                    l2tpRecvDataSeq env flow skb =
                      (skbQueueTail (trackOos flow skb.cb.ns) skb, false))))))) := by
  unfold l2tpRecvDataSeq
  dsimp only
  split_ifs with hwindow hreorder hinseq hskip
  · exact Or.inl ⟨by simpa using hwindow, rfl⟩
  · exact Or.inr ⟨by simpa using hwindow, Or.inl ⟨hreorder, rfl⟩⟩
  · exact Or.inr ⟨by simpa using hwindow,
      Or.inr ⟨by simpa using hreorder, Or.inl ⟨hinseq, rfl⟩⟩⟩
  · exact Or.inr ⟨by simpa using hwindow, Or.inr ⟨by simpa using hreorder,
      Or.inr ⟨hinseq, Or.inl ⟨by simpa using hskip, rfl⟩⟩⟩⟩
  · exact Or.inr ⟨by simpa using hwindow, Or.inr ⟨by simpa using hreorder,
      Or.inr ⟨hinseq, Or.inr ⟨by simpa using hskip, rfl⟩⟩⟩⟩

/-- The walk of `l2tp_recv_queue_skb` puts the frame into the queue. -/
theorem queueByNs_perm (skb : SkBuff) (queue : List SkBuff) :
    (queueByNs skb queue).1.Perm (skb :: queue) := by
  induction queue with
  | nil => exact List.Perm.refl _
  | cons skbp rest ih =>
    unfold queueByNs
    split_ifs
    · exact List.Perm.refl _
    · exact (ih.cons skbp).trans (List.Perm.swap skb skbp rest)

theorem l2tpRecvQueueSkb_eq (env : Env n) (flow : Flow n) (skb : SkBuff) :
    ∃ counters, l2tpRecvQueueSkb env flow skb =
      (flow.onSession fun session ↦
        { session with reorderQ := (queueByNs skb session.reorderQ).1 }).withStats
          flow.tunnel.stats counters := by
  unfold l2tpRecvQueueSkb
  dsimp only
  split_ifs
  · exact ⟨_, rfl⟩
  · exact ⟨_, rfl⟩

/-- What the receive path leaves alone. -/
structure SameSetup (first flow : Flow n) : Prop where
  version : flow.tunnel.version = first.tunnel.version
  params : flow.session.toSessionParams = first.session.toSessionParams
  hooks : flow.session.toSessionHooks = first.session.toSessionHooks
  timeout : flow.session.reorderTimeout = first.session.reorderTimeout

theorem SameSetup.trans {first middle last : Flow n} (hfirst : SameSetup first middle)
    (hlast : SameSetup middle last) : SameSetup first last :=
  ⟨hlast.version.trans hfirst.version, hlast.params.trans hfirst.params,
    hlast.hooks.trans hfirst.hooks, hlast.timeout.trans hfirst.timeout⟩

/-- What `l2tp_recv_data_seq` does, statistics and the tracking of lost frames aside: the frame is
in the queue, or is to be discarded. -/
theorem l2tpRecvDataSeq_spec (env : Env n) (flow : Flow n) (skb : SkBuff) :
    ∃ flow', SameSetup flow flow' ∧ flow'.tunnel = flow.tunnel ∧
      flow'.session.nr = flow.session.nr ∧ flow'.log = flow.log ∧
      ((l2tpRecvDataSeq env flow skb = (flow', false) ∧
          flow'.session.reorderQ.Perm (skb :: flow.session.reorderQ)) ∨
        (l2tpRecvDataSeq env flow skb = (flow', true) ∧
          flow'.session.reorderQ = flow.session.reorderQ)) := by
  have htail := List.perm_append_singleton skb flow.session.reorderQ
  rcases l2tpRecvDataSeq_cases env flow skb with
    ⟨-, heq⟩ | ⟨-, ⟨-, heq⟩ | ⟨-, ⟨-, heq⟩ | ⟨-, ⟨-, heq⟩ | ⟨-, heq⟩⟩⟩⟩
  · refine ⟨_, ?_, ?_, ?_, ?_, Or.inr ⟨heq, rfl⟩⟩
    exacts [⟨rfl, rfl, rfl, rfl⟩, rfl, rfl, rfl]
  · obtain ⟨counters, hqueue⟩ := l2tpRecvQueueSkb_eq env flow skb
    rw [hqueue] at heq
    refine ⟨_, ?_, ?_, ?_, ?_, Or.inl ⟨heq, queueByNs_perm skb _⟩⟩
    exacts [⟨rfl, rfl, rfl, rfl⟩, rfl, rfl, rfl]
  · refine ⟨_, ?_, ?_, ?_, ?_, Or.inl ⟨heq, htail⟩⟩
    exacts [⟨rfl, rfl, rfl, rfl⟩, rfl, rfl, rfl]
  · refine ⟨_, ?_, ?_, ?_, ?_, Or.inr ⟨heq, rfl⟩⟩
    exacts [⟨rfl, rfl, rfl, rfl⟩, rfl, rfl, rfl]
  · refine ⟨_, ?_, ?_, ?_, ?_, Or.inl ⟨heq, htail⟩⟩
    exacts [⟨rfl, rfl, rfl, rfl⟩, rfl, rfl, rfl]

/-- What `l2tp_recv_common` does up to the dequeue loop, statistics and sequence policy aside: the
frame is in the queue, or it has been freed. -/
theorem recvEnqueue_cases (flow : Flow n) (call : RecvCall n) :
    ∃ flow' skb, SameSetup flow flow' ∧ flow'.tunnel = flow.tunnel ∧
      flow'.session.nr = flow.session.nr ∧ skb.id = call.skb.id ∧
      ((recvEnqueue flow call = (flow', true) ∧
          admittedFrame flow.tunnel.version flow.session.toSessionParams flow.session.reorderTimeout
            call = some skb ∧
          flow'.session.reorderQ.Perm (skb :: flow.session.reorderQ) ∧
          flow'.log = flow.log ++ flow.session.refEffects) ∨
        (recvEnqueue flow call = (flow', false) ∧
          flow'.session.reorderQ = flow.session.reorderQ ∧
          flow'.log = flow.log ++
            (flow.session.refEffects ++ .kfreeSkb skb :: flow.session.derefEffects))) := by
  rcases recvAdmit_cases flow.ref call with
    ⟨change, skb, -, hid, heq⟩ | ⟨sendSeq, hdrLen, skb, hid, heq | heq⟩
  · refine ⟨_, skb, ?_, ?_, ?_, hid, Or.inr ⟨by rw [recvEnqueue, heq], ?_, ?_⟩⟩
    · constructor <;> simp [recvDiscard]
    all_goals simp [recvDiscard]
  · refine ⟨_, skb, ?_, ?_, ?_, hid, Or.inr ⟨by rw [recvEnqueue, heq], ?_, ?_⟩⟩
    · constructor <;> simp [recvDiscard]
    all_goals simp [recvDiscard]
  · have hadmitted := admittedFrame_of_recvAdmit heq
    rw [Flow.tunnel_ref, Flow.session_ref] at hadmitted
    cases hseq : skb.cb.hasSeq with
    | false =>
      refine ⟨skbQueueTail (flow.ref.onSession fun session ↦ { session with sendSeq, hdrLen }) skb,
        skb, ⟨?_, ?_, ?_, ?_⟩, ?_, ?_, hid, Or.inl ⟨?_, hadmitted, ?_, ?_⟩⟩
      case refine_7 => simp [recvEnqueue, heq, hseq]
      all_goals simp [skbQueueTail]
    | true =>
      obtain ⟨last, hsetup, htunnel, hnr, hlog, hcases⟩ := l2tpRecvDataSeq_spec call.env
        (flow.ref.onSession fun session ↦ { session with sendSeq, hdrLen }) skb
      have hsetup' : SameSetup flow last :=
        SameSetup.trans ⟨by simp, by simp, by simp, by simp⟩ hsetup
      rcases hcases with ⟨hdata, hqueue⟩ | ⟨hdata, hqueue⟩
      · refine ⟨last, skb, hsetup', by simp [htunnel], by simp [hnr], hid,
          Or.inl ⟨by simp [recvEnqueue, heq, hseq, hdata], hadmitted, ?_, by simp [hlog]⟩⟩
        simpa using hqueue
      · refine ⟨recvDiscard call.env last skb, skb,
          SameSetup.trans hsetup' ⟨?_, ?_, ?_, ?_⟩, ?_, ?_, hid, Or.inr ⟨?_, ?_, ?_⟩⟩
        case refine_7 => simp [recvEnqueue, heq, hseq, hdata]
        all_goals simp [recvDiscard, htunnel, hnr, hqueue, hlog, hsetup'.hooks]

/-- A sequenced frame inside the window, when the session reorders: it is in the queue, at the place
of its number. -/
theorem recvEnqueue_inWindow {flow : Flow n} {call : RecvCall n} {skb : SkBuff}
    (hadmitted : admittedFrame flow.tunnel.version flow.session.toSessionParams
      flow.session.reorderTimeout call = some skb) (hseq : skb.cb.hasSeq = true)
    (htimeout : flow.session.reorderTimeout ≠ 0)
    (hwindow : l2tpSeqCheckRxWindow flow.session skb.cb.ns = true) :
    ∃ sendSeq hdrLen counters, recvEnqueue flow call =
      (({ flow with
          session := { flow.session with
            sendSeq
            hdrLen
            reorderQ := (queueByNs skb flow.session.reorderQ).1 }
          log := flow.log ++ flow.session.refEffects } :
            Flow n).withStats flow.tunnel.stats counters,
        true) := by
  rw [← Flow.tunnel_ref, ← Flow.session_ref] at hadmitted
  obtain ⟨sendSeq, hdrLen, haccept⟩ := recvAdmit_of_admittedFrame hadmitted hseq
  obtain ⟨counters, hqueue⟩ := l2tpRecvQueueSkb_eq call.env
    (flow.ref.onSession fun session ↦ { session with sendSeq, hdrLen }) skb
  refine ⟨sendSeq, hdrLen, counters, ?_⟩
  have hcheck : l2tpSeqCheckRxWindow (flow.ref.onSession fun session ↦
      { session with sendSeq, hdrLen }).session skb.cb.ns = true := by
    rw [Flow.session_onSession, Flow.session_ref]
    exact hwindow
  have htimeout' : (flow.ref.onSession fun session ↦
      { session with sendSeq, hdrLen }).session.reorderTimeout ≠ 0 := by
    rw [Flow.session_onSession, Flow.session_ref]
    exact htimeout
  simp only [recvEnqueue, haccept, hseq, if_true, l2tpRecvDataSeq, hcheck, htimeout', hqueue,
    Bool.not_true, if_neg Bool.false_ne_true, ne_eq, not_false_eq_true]
  simp [Flow.withStats, Flow.onSession, Flow.ref_eq]

/-- A sequenced frame outside the window is discarded. -/
theorem recvEnqueue_outside {flow : Flow n} {call : RecvCall n} {skb : SkBuff}
    (hadmitted : admittedFrame flow.tunnel.version flow.session.toSessionParams
      flow.session.reorderTimeout call = some skb) (hseq : skb.cb.hasSeq = true)
    (hwindow : l2tpSeqCheckRxWindow flow.session skb.cb.ns = false) :
    ∃ sendSeq hdrLen counters, recvEnqueue flow call =
      (({ flow with
          session := { flow.session with sendSeq, hdrLen }
          log := flow.log ++ flow.session.refEffects ++
            .kfreeSkb skb :: flow.session.derefEffects } :
              Flow n).withStats flow.tunnel.stats counters,
        false) := by
  rw [← Flow.tunnel_ref, ← Flow.session_ref] at hadmitted
  obtain ⟨sendSeq, hdrLen, haccept⟩ := recvAdmit_of_admittedFrame hadmitted hseq
  refine ⟨sendSeq, hdrLen, (recvEnqueue flow call).1.session.toSessionCounters, ?_⟩
  have hcheck : l2tpSeqCheckRxWindow (flow.ref.onSession fun session ↦
      { session with sendSeq, hdrLen }).session skb.cb.ns = false := by
    rw [Flow.session_onSession, Flow.session_ref]
    exact hwindow
  simp only [recvEnqueue, haccept, hseq, if_true, l2tpRecvDataSeq, hcheck, Bool.not_false]
  simp [Flow.withStats, Flow.onSession, recvDiscard, Flow.deref_eq, Flow.ref_eq]

/-- `session->nr` after a frame has been dequeued. -/
def nrAfter (session : L2tpSession n) (skb : SkBuff) : UInt32 :=
  if skb.cb.hasSeq then (session.nr + 1) &&& session.nrMax else session.nr

/-- How `l2tp_recv_dequeue_skb` writes `session->nr`. -/
def nrEffects (session : L2tpSession n) (skb : SkBuff) : List Effect :=
  if skb.cb.hasSeq then [.setNr session.nr (nrAfter session skb)] else []

/-- What `l2tp_recv_dequeue_skb` does with the frame. -/
def handOverEffect (hooks : SessionHooks) (skb : SkBuff) : Effect :=
  if hooks.recvSkb.isSome then .recvSkb skb else .kfreeSkb skb

theorem bumpNr_eq (flow : Flow n) (skb : SkBuff) : bumpNr flow skb =
    { flow with
      session := { flow.session with nr := nrAfter flow.session skb }
      log := flow.log ++ nrEffects flow.session skb } := by
  cases hseq : skb.cb.hasSeq with
  | false => simp [bumpNr, nrAfter, nrEffects, hseq]
  | true => simp [bumpNr, nrAfter, nrEffects, hseq, setNr, Flow.onSession, Flow.emit]

theorem handOver_eq (env : Env n) (flow : Flow n) (skb : SkBuff) :
    ∃ counters, handOver env flow skb = (flow.emit
      (handOverEffect flow.session.toSessionHooks skb)).withStats flow.tunnel.stats counters := by
  cases hhandler : flow.session.recvSkb with
  | none => exact ⟨_, by simp [handOver, handOverEffect, hhandler]; rfl⟩
  | some handler =>
    obtain ⟨counters, heq⟩ := callRecvHandler_eq handler env (flow.emit (.recvSkb skb)) skb
    exact ⟨counters, by simp [handOver, handOverEffect, hhandler, heq]⟩

/-- What `l2tp_recv_dequeue_skb` does, statistics aside. -/
def afterDequeueSkb (flow : Flow n) (skb : SkBuff) : Flow n :=
  { flow with
    session := { flow.session with nr := nrAfter flow.session skb }
    log := flow.log ++ (nrEffects flow.session skb ++
      handOverEffect flow.session.toSessionHooks skb :: flow.session.derefEffects) }

theorem l2tpRecvDequeueSkb_eq (env : Env n) (flow : Flow n) (skb : SkBuff) :
    ∃ tstats counters, l2tpRecvDequeueSkb env flow skb =
      (afterDequeueSkb flow skb).withStats tstats counters := by
  obtain ⟨counters, heq⟩ := handOver_eq env (bumpNr (countReceived env flow skb) skb) skb
  refine ⟨(countReceived env flow skb).tunnel.stats, counters, ?_⟩
  rw [l2tpRecvDequeueSkb, heq, Flow.deref_eq, bumpNr_eq]
  simp [afterDequeueSkb, countReceived, Flow.withStats, nrAfter, nrEffects]

/-- `session->nr` when the loop looks at a frame. -/
def nrAtHead (session : L2tpSession n) (skb : SkBuff) : UInt32 :=
  if skb.cb.hasSeq && session.reorderSkip then skb.cb.ns else session.nr

/-- How the skip writes `session->nr`. -/
def skipEffects (session : L2tpSession n) (skb : SkBuff) : List Effect :=
  if skb.cb.hasSeq && session.reorderSkip then [.setNr session.nr skb.cb.ns] else []

theorem skipToHead_eq (flow : Flow n) (skb : SkBuff) : skipToHead flow skb =
    { flow with
      session := { flow.session with
        nr := nrAtHead flow.session skb
        reorderSkip := !skb.cb.hasSeq && flow.session.reorderSkip }
      log := flow.log ++ skipEffects flow.session skb } := by
  cases hseq : skb.cb.hasSeq <;> cases hskip : flow.session.reorderSkip <;>
    simp [skipToHead, nrAtHead, skipEffects, hseq, hskip, setNr, Flow.onSession, Flow.emit]
  all_goals simp [← hskip]

/-- What the discard of an expired head does, statistics aside. -/
def afterExpiry (flow : Flow n) (skb : SkBuff) (rest : List SkBuff) : Flow n :=
  { flow with
    session := { flow.session with reorderSkip := true, reorderQ := rest }
    log := flow.log ++ .kfreeSkb skb :: flow.session.derefEffects }

theorem discardExpired_eq (env : Env n) (flow : Flow n) (skb : SkBuff) (rest : List SkBuff) :
    ∃ counters, discardExpired env flow skb rest =
      (afterExpiry flow skb rest).withStats flow.tunnel.stats counters := by
  refine ⟨(discardExpired env flow skb rest).session.toSessionCounters, ?_⟩
  rw [discardExpired, Flow.deref_eq]
  simp [afterExpiry, Flow.withStats]

/-- What the delivery of the head does, statistics aside. -/
def afterDelivery (flow : Flow n) (skb : SkBuff) (rest : List SkBuff) : Flow n :=
  afterDequeueSkb
    ((skipToHead flow skb).onSession fun session ↦ { session with reorderQ := rest }) skb

/-- `session->nr` after the delivery of the head. -/
def nrDelivered (session : L2tpSession n) (skb : SkBuff) : UInt32 :=
  if skb.cb.hasSeq then (nrAtHead session skb + 1) &&& session.nrMax else session.nr

theorem afterDelivery_eq (flow : Flow n) (skb : SkBuff) (rest : List SkBuff) :
    afterDelivery flow skb rest =
      { flow with
        session := { flow.session with
          nr := nrDelivered flow.session skb
          reorderSkip := !skb.cb.hasSeq && flow.session.reorderSkip
          reorderQ := rest }
        log := flow.log ++ (skipEffects flow.session skb ++
          (if skb.cb.hasSeq then
            [.setNr (nrAtHead flow.session skb) (nrDelivered flow.session skb)] else []) ++
          handOverEffect flow.session.toSessionHooks skb :: flow.session.derefEffects) } := by
  cases hseq : skb.cb.hasSeq <;>
    simp [afterDelivery, afterDequeueSkb, skipToHead_eq, nrDelivered, nrAfter, nrEffects, nrAtHead,
      hseq]

/-- What a frame leaves behind when it has been queued or discarded, and what every turn of the
dequeue loop keeps, holds after `l2tp_recv_common`. -/
theorem l2tpRecvCommon_induction {P : Flow n → Prop} {flow : Flow n} {call : RecvCall n}
    (harrived : P (recvEnqueue flow call).1)
    (hbody : ∀ turn turn', P turn → dequeueStep call.env turn = some turn' → P turn') :
    P (l2tpRecvCommon flow call) := by
  unfold l2tpRecvCommon
  generalize recvEnqueue flow call = arrived at harrived
  obtain ⟨arrived, queued⟩ := arrived
  cases queued with
  | false => exact harrived
  | true => exact drain_induction _ arrived harrived hbody

theorem dequeueStep_nil {env : Env n} {flow : Flow n} (hqueue : flow.session.reorderQ = []) :
    dequeueStep env flow = none := by
  simp [dequeueStep, hqueue]

/-- A turn of the dequeue loop takes the head: one that has expired is discarded, and one that Nr
asks for, after a skip if there is one, is delivered. -/
theorem dequeueStep_eq_some {env : Env n} {flow flow' : Flow n}
    (hstep : dequeueStep env flow = some flow') :
    ∃ skb rest, flow.session.reorderQ = skb :: rest ∧
      ((timeAfter env.jiffies skb.cb.expires = true ∧
          flow' = discardExpired env flow skb rest) ∨
        (timeAfter env.jiffies skb.cb.expires = false ∧
          (skb.cb.hasSeq = true → skb.cb.ns = (skipToHead flow skb).session.nr) ∧
          flow' = l2tpRecvDequeueSkb env ((skipToHead flow skb).onSession fun session ↦
            { session with reorderQ := rest }) skb)) := by
  unfold dequeueStep at hstep
  cases hqueue : flow.session.reorderQ with
  | nil => simp [hqueue] at hstep
  | cons skb rest =>
    simp only [hqueue] at hstep
    split_ifs at hstep with hexpired hhold
    · exact ⟨skb, rest, rfl, Or.inl ⟨hexpired, (Option.some.inj hstep).symm⟩⟩
    · refine ⟨skb, rest, rfl, Or.inr ⟨by simpa using hexpired, ?_, (Option.some.inj hstep).symm⟩⟩
      intro hseq
      simpa [hseq] using hhold

/-- A turn of the purge takes the head and discards it. -/
theorem purgeStep_eq_some {env : Env n} {flow flow' : Flow n}
    (hstep : purgeStep env flow = some flow') :
    ∃ skb rest, flow.session.reorderQ = skb :: rest ∧
      flow' = recvDiscard env (flow.onSession fun session ↦ { session with reorderQ := rest })
        skb := by
  unfold purgeStep at hstep
  cases hqueue : flow.session.reorderQ with
  | nil => simp [hqueue] at hstep
  | cons skb rest =>
    simp only [hqueue] at hstep
    exact ⟨skb, rest, rfl, (Option.some.inj hstep).symm⟩

/-- One turn of the dequeue loop, statistics aside: an expired head is discarded, and a head that is
not expired is delivered, which a sequenced one is only if Nr asks for it or is to skip to it. -/
theorem dequeueStep_cases {env : Env n} {flow flow' : Flow n}
    (hstep : dequeueStep env flow = some flow') :
    ∃ skb rest tstats counters, flow.session.reorderQ = skb :: rest ∧
      ((timeAfter env.jiffies skb.cb.expires = true ∧
          flow' = (afterExpiry flow skb rest).withStats tstats counters) ∨
        (timeAfter env.jiffies skb.cb.expires = false ∧
          (skb.cb.hasSeq = true → skb.cb.ns = nrAtHead flow.session skb) ∧
          flow' = (afterDelivery flow skb rest).withStats tstats counters)) := by
  obtain ⟨skb, rest, hqueue, ⟨hexpired, heq⟩ | ⟨hfresh, hasked, heq⟩⟩ := dequeueStep_eq_some hstep
  · obtain ⟨counters, hdiscard⟩ := discardExpired_eq env flow skb rest
    exact ⟨skb, rest, flow.tunnel.stats, counters, hqueue,
      Or.inl ⟨hexpired, heq.trans hdiscard⟩⟩
  · obtain ⟨tstats, counters, hdeliver⟩ := l2tpRecvDequeueSkb_eq env
      ((skipToHead flow skb).onSession fun session ↦ { session with reorderQ := rest }) skb
    rw [skipToHead_eq] at hasked
    exact ⟨skb, rest, tstats, counters, hqueue, Or.inr ⟨hfresh, hasked, heq.trans hdeliver⟩⟩

/-- What a turn of the dequeue loop does with the head of the queue, statistics aside. -/
theorem dequeueStep_cons (env : Env n) {flow : Flow n} {skb : SkBuff} {rest : List SkBuff}
    (hqueue : flow.session.reorderQ = skb :: rest) :
    (timeAfter env.jiffies skb.cb.expires = true ∧ ∃ tstats counters,
        dequeueStep env flow = some ((afterExpiry flow skb rest).withStats tstats counters)) ∨
      (timeAfter env.jiffies skb.cb.expires = false ∧
        ((skb.cb.hasSeq = true ∧ skb.cb.ns ≠ nrAtHead flow.session skb ∧
            dequeueStep env flow = none) ∨
          ((skb.cb.hasSeq = true → skb.cb.ns = nrAtHead flow.session skb) ∧ ∃ tstats counters,
            dequeueStep env flow =
              some ((afterDelivery flow skb rest).withStats tstats counters)))) := by
  cases hstep : dequeueStep env flow with
  | none =>
    unfold dequeueStep at hstep
    simp only [hqueue] at hstep
    split_ifs at hstep with hexpired hhold
    rw [skipToHead_eq] at hhold
    exact Or.inr ⟨by simpa using hexpired, Or.inl ⟨hhold.1, hhold.2, rfl⟩⟩
  | some flow' =>
    obtain ⟨skb', rest', tstats, counters, hqueue', hcases⟩ := dequeueStep_cases hstep
    obtain ⟨rfl, rfl⟩ := List.cons.inj (hqueue.symm.trans hqueue')
    rcases hcases with ⟨hexpired, rfl⟩ | ⟨hfresh, hasked, rfl⟩
    · exact Or.inl ⟨hexpired, tstats, counters, rfl⟩
    · exact Or.inr ⟨hfresh, Or.inr ⟨hasked, tstats, counters, rfl⟩⟩

/-- The dequeue loop stops at an empty queue and at a head that Nr does not ask for. -/
theorem dequeueStep_eq_none {env : Env n} {flow : Flow n} (hstop : dequeueStep env flow = none) :
    flow.session.reorderQ = [] ∨ ∃ skb rest, flow.session.reorderQ = skb :: rest ∧
      skb.cb.hasSeq = true ∧ flow.session.reorderSkip = false ∧ skb.cb.ns ≠ flow.session.nr := by
  unfold dequeueStep at hstop
  cases hqueue : flow.session.reorderQ with
  | nil => exact Or.inl rfl
  | cons skb rest =>
    simp only [hqueue] at hstop
    split_ifs at hstop with hexpired hhold
    rw [skipToHead_eq] at hhold
    obtain ⟨hseq, hne⟩ := hhold
    cases hskip : flow.session.reorderSkip with
    | true => simp [nrAtHead, hseq, hskip] at hne
    | false => exact Or.inr ⟨skb, rest, rfl, hseq, rfl, by simpa [nrAtHead, hskip] using hne⟩

/-- The dequeue loop waits for the frame Nr asks for. -/
theorem dequeueStep_of_hold {env : Env n} {flow : Flow n} {skb : SkBuff} {rest : List SkBuff}
    (hqueue : flow.session.reorderQ = skb :: rest)
    (hfresh : timeAfter env.jiffies skb.cb.expires = false) (hseq : skb.cb.hasSeq = true)
    (hskip : flow.session.reorderSkip = false) (hne : skb.cb.ns ≠ flow.session.nr) :
    dequeueStep env flow = none := by
  cases hstep : dequeueStep env flow with
  | none => rfl
  | some flow' =>
    obtain ⟨skb', rest', tstats, counters, hqueue', hcases⟩ := dequeueStep_cases hstep
    obtain ⟨rfl, rfl⟩ := List.cons.inj (hqueue.symm.trans hqueue')
    rcases hcases with ⟨hexpired, -⟩ | ⟨-, hnr, -⟩
    · rw [hfresh] at hexpired
      exact absurd hexpired Bool.false_ne_true
    · have hasked := hnr hseq
      rw [nrAtHead, hskip, Bool.and_false, if_neg Bool.false_ne_true] at hasked
      exact absurd hasked hne

/-- A turn of the dequeue loop takes one frame from the queue. -/
theorem length_dequeueStep {env : Env n} {flow flow' : Flow n}
    (hstep : dequeueStep env flow = some flow') :
    flow'.session.reorderQ.length < flow.session.reorderQ.length := by
  obtain ⟨skb, rest, tstats, counters, hqueue, ⟨-, rfl⟩ | ⟨-, -, rfl⟩⟩ := dequeueStep_cases hstep
  · simp [afterExpiry, hqueue]
  · simp [afterDelivery, afterDequeueSkb, hqueue]

/-- The dequeue loop has stopped when `l2tp_recv_dequeue` returns. -/
theorem dequeueStep_l2tpRecvDequeue (env : Env n) (flow : Flow n) :
    dequeueStep env (l2tpRecvDequeue env flow) = none := by
  have hmeasure : ∀ t t' : Flow n, dequeueStep env t = some t' →
      t'.session.reorderQ.length < t.session.reorderQ.length := fun _ _ ↦ length_dequeueStep
  have hmore : l2tpRecvDequeue env flow =
      drain (dequeueStep env) (flow.session.reorderQ.length + 1) flow :=
    drain_eq_of_le (fun t ↦ t.session.reorderQ.length) hmeasure le_rfl (Nat.le_succ _)
  rw [hmore]
  exact drain_stops (fun t ↦ t.session.reorderQ.length) hmeasure _ flow (Nat.lt_succ_self _)

/-! ### Sequenced frames over IP -/

/-- A frame for session 1 over IP, with sequence number `ns` in the default sublayer. -/
def sequencedSkb (id : ℕ) (ns : UInt32) : SkBuff where
  id
  head := []
  data := be32 1 ++ be32 (0x40000000 ||| ns) ++ List.replicate 14 0
  tail := []
  cb := { ns := 0, hasSeq := false, length := 0, expires := 0 }

/-- The call `l2tp_ip_recv` makes for such a frame. -/
def sequencedCall (cpu : Fin n) (jiffies : UInt64) (id : ℕ) (ns : UInt32) : RecvCall n where
  env :=
    { cpu, jiffies, hz := 100, devForwardSkb := fun _ ↦ true, pppoxBound := false,
      sockQueueRcvSkb := fun _ ↦ true }
  skb := sequencedSkb id ns
  ptr := 4
  hdrflags := 0
  length := 22
  hook := none

end KernelModules.L2tp
