import KernelModules.L2tp.DataPath

/-!
# Options of PPPoL2TP sockets

`setsockopt` and `getsockopt` find out what the socket stands for, a session or a tunnel, and ask a
helper that knows the options of the one or the other. Both entry points forget what the helper
said: after it `pppol2tp_setsockopt` has `err = 0`, and `pppol2tp_getsockopt` copies `val` to the
user whether or not the helper has set it.

The debug masks and the header length of the channel, which only the options read and write, are
kept beside the namespace. The entry points report what the helper did exactly for the options and
values it accepts (`sockopts_report_iff`).
-/

set_option autoImplicit false
set_option relaxedAutoImplicit false

namespace KernelModules.L2tp

open Foundations

variable {n : ℕ}

/-! ### State and helpers -/

/-- A namespace with what only the options use: `tunnel->debug` and `session->debug`, and
`po->chan.hdrlen` of a socket. -/
structure SockoptState (n : ℕ) where
  net : L2tpNet n
  tunnelDebug : ℕ → Int32
  sessionDebug : ℕ → Int32
  chanHdrlen : ℕ → Int32

/-- What an option is about. -/
inductive SockoptTarget (n : ℕ)
  | tunnel (t : ℕ)
  | session (i : ℕ) (flow : Flow n)

/-- The way from the socket to what the option is about, the same in both entry points. -/
def sockoptTarget (net : L2tpNet n) (sock : ℕ) : Except Errno (SockoptTarget n) :=
  match net.socks[sock]?.bind (·.userData) with
  | none => .error .enotconn
  | some i =>
    match net.flow i with
    | none => .error .ebadf
    | some flow =>
      if flow.session.sessionId = 0 ∧ flow.session.peerSessionId = 0 then
        if flow.session.ps.tunnelSock.isSome && flow.tunnel.sock = flow.session.ps.tunnelSock then
          .ok (.tunnel flow.session.tunnel)
        else .error .ebadf
      else .ok (.session i flow)

/-- The numbers of the options. -/
def SessionOption.ofOptname (optname : Int32) : SessionOption :=
  if optname = 1 then .debug
  else if optname = 2 then .recvSeq
  else if optname = 3 then .sendSeq
  else if optname = 4 then .lnsMode
  else if optname = 5 then .reorderTimeout
  else .unknown

/-- `pppol2tp_tunnel_setsockopt`. -/
def pppol2tpTunnelSetsockopt (debug : Int32) (optname : SessionOption) (val : Int32) :
    Int32 × Option Errno :=
  match optname with
  | .debug => (val, none)
  | _ => (debug, some .enoprotoopt)

/-- `pppol2tp_tunnel_getsockopt`: the value of `*val`, unless that is left alone. -/
def pppol2tpTunnelGetsockopt (debug : Int32) (optname : SessionOption) : Except Errno Int32 :=
  match optname with
  | .debug => .ok debug
  | _ => .error .enoprotoopt

/-- A field of one bit without sign, read as an `int`. -/
def bitVal (bit : Bool) : Int32 := if bit then 1 else 0

/-- `pppol2tp_session_getsockopt`. -/
def pppol2tpSessionGetsockopt (jiffiesToMsecs : Int32 → Int32) (session : L2tpSession n)
    (debug : Int32) (optname : SessionOption) : Except Errno Int32 :=
  match optname with
  | .recvSeq => .ok (bitVal session.recvSeq)
  | .sendSeq => .ok (bitVal session.sendSeq)
  | .lnsMode => .ok (bitVal session.lnsMode)
  | .debug => .ok debug
  | .reorderTimeout => .ok (jiffiesToMsecs session.reorderTimeout)
  | .unknown => .error .enoprotoopt

/-- `PPPOL2TP_L2TP_HDR_SIZE_SEQ` and `PPPOL2TP_L2TP_HDR_SIZE_NOSEQ`. -/
def chanHdrSize (val : Int32) : Int32 := if val ≠ 0 then 10 else 6

/-- What a helper does to the state, and what it returns. -/
def setHelper (state : SockoptState n) (optname : SessionOption) (val jiffies : Int32) :
    SockoptTarget n → SockoptState n × Option Errno
  | .tunnel t =>
    let helper := pppol2tpTunnelSetsockopt (state.tunnelDebug t) optname val
    ({ state with tunnelDebug := Function.update state.tunnelDebug t helper.1 }, helper.2)
  | .session i flow =>
    let err := (pppol2tpSessionSetsockopt flow.tunnel flow.session optname val jiffies).2
    ({ state with
        net := state.net.onFlow i fun flow ↦ flow.onSession fun session ↦
          (pppol2tpSessionSetsockopt flow.tunnel session optname val jiffies).1
        sessionDebug :=
          if optname = .debug then Function.update state.sessionDebug i val else state.sessionDebug
        chanHdrlen := fun sk ↦
          if optname = .sendSeq ∧ err = none ∧ flow.session.ps.sock = some sk then chanHdrSize val
          else state.chanHdrlen sk }, err)

/-- The value a helper produces. -/
def getHelper (jiffiesToMsecs : Int32 → Int32) (state : SockoptState n) (optname : SessionOption) :
    SockoptTarget n → Except Errno Int32
  | .tunnel t => pppol2tpTunnelGetsockopt (state.tunnelDebug t) optname
  | .session i flow =>
    pppol2tpSessionGetsockopt jiffiesToMsecs flow.session (state.sessionDebug i) optname

/-! ### Entry points -/

/-- `pppol2tp_setsockopt`. -/
def setsockopt (state : SockoptState n) (call : SetsockoptCall) : SockoptState n × Option Errno :=
  if !call.levelOk || !call.optlenOk then (state, some .einval)
  else
    match call.val with
    | none => (state, some .efault)
    | some val =>
      match sockoptTarget state.net call.sock with
      | .error errno => (state, some errno)
      | .ok target => ((setHelper state call.optname val call.jiffies target).1, none)

/-- A call of `getsockopt`: the length the user gives if it can be read, what `val` holds before a
helper sets it, whether the length can be written, and how many bytes there is room for behind
`optval`. -/
structure GetsockoptCall where
  sock : ℕ
  levelOk : Bool := true
  optname : SessionOption
  optlen : Option Int32
  stackVal : Int32
  putUser : Bool := true
  room : ℕ := 4

/-- What `getsockopt` returns, the length it writes, and what it copies to the user: so many bytes
of a value. -/
structure GetsockoptResult where
  err : Option Errno
  optlen : Option Int32 := none
  copied : Option (Int32 × ℕ) := none

/-- `min_t(unsigned int, len, sizeof(int))`. -/
def getsockoptLen (optlen : Int32) : Int32 :=
  (if optlen.toUInt32 < 4 then optlen.toUInt32 else 4).toInt32

/-- `pppol2tp_getsockopt`. -/
def pppol2tpGetsockopt (jiffiesToMsecs : Int32 → Int32) (state : SockoptState n)
    (call : GetsockoptCall) : GetsockoptResult :=
  if !call.levelOk then { err := some .einval }
  else
    match call.optlen with
    | none => { err := some .efault }
    | some optlen =>
      let len := getsockoptLen optlen
      if len < 0 then { err := some .einval }
      else
        match sockoptTarget state.net call.sock with
        | .error errno => { err := some errno }
        | .ok target =>
          let val := match getHelper jiffiesToMsecs state call.optname target with
            | .ok val => val
            | .error _ => call.stackVal
          if !call.putUser then { err := some .efault }
          else
            let bytes := min len.toNatClampNeg call.room
            { err := if bytes < len.toNatClampNeg then some .efault else none
              optlen := some len
              copied := if bytes = 0 then none else some (val, bytes) }

section Equations

variable {state : SockoptState n} {sock : ℕ}

/-- The namespace of a call is that of the model without debug masks. -/
theorem net_setsockopt (state : SockoptState n) (call : SetsockoptCall) :
    ((setsockopt state call).1.net, (setsockopt state call).2) =
      pppol2tpSetsockopt state.net call := by
  unfold setsockopt pppol2tpSetsockopt sockoptTarget
  split_ifs with hcall
  · rfl
  · cases call.val with
    | none => rfl
    | some val =>
      cases state.net.socks[call.sock]?.bind (·.userData) with
      | none => rfl
      | some i =>
        cases hflow : state.net.flow i with
        | none =>
          dsimp only
          rw [hflow]
        | some flow =>
          dsimp only
          rw [hflow]
          dsimp only
          split_ifs <;> rfl

/-- The length is never negative, so that the test for it never fails. -/
theorem not_getsockoptLen_lt (optlen : Int32) : ¬ getsockoptLen optlen < 0 := by
  have hmin : (if optlen.toUInt32 < 4 then optlen.toUInt32 else 4).toNat ≤ 4 := by
    split_ifs with hless
    · exact (UInt32.lt_iff_toNat_lt.mp hless).le
    · exact le_rfl
  have hvalue : (getsockoptLen optlen).toInt =
      (if optlen.toUInt32 < 4 then optlen.toUInt32 else 4).toNat :=
    BitVec.toInt_eq_toNat_of_lt (Nat.lt_of_le_of_lt (Nat.mul_le_mul_left 2 hmin) (by decide))
  rw [Int32.lt_iff_toInt_lt, hvalue]
  exact (Int.natCast_nonneg _).not_gt

theorem setsockopt_of_target {target : SockoptTarget n}
    (htarget : sockoptTarget state.net sock = .ok target) (optname : SessionOption)
    (val jiffies : Int32) :
    setsockopt state { sock, optname, val := some val, jiffies } =
      ((setHelper state optname val jiffies target).1, none) := by
  simp [setsockopt, htarget]

theorem setsockopt_of_error {errno : Errno} (herror : sockoptTarget state.net sock = .error errno)
    (optname : SessionOption) (val jiffies : Int32) :
    setsockopt state { sock, optname, val := some val, jiffies } = (state, some errno) := by
  simp [setsockopt, herror]

/-- The user can read and write everything the call has to read and write. -/
structure GetsockoptCall.Accessible (call : GetsockoptCall) (optlen : Int32) : Prop where
  levelOk : call.levelOk = true
  getUser : call.optlen = some optlen
  putUser : call.putUser = true
  room : (getsockoptLen optlen).toNatClampNeg ≤ call.room

variable {jiffiesToMsecs : Int32 → Int32} {call : GetsockoptCall} {optlen : Int32}

theorem pppol2tpGetsockopt_of_error {errno : Errno}
    (herror : sockoptTarget state.net call.sock = .error errno) :
    (pppol2tpGetsockopt jiffiesToMsecs state call).err.isSome = true ∧
      (pppol2tpGetsockopt jiffiesToMsecs state call).copied = none := by
  unfold pppol2tpGetsockopt
  by_cases hlevel : (!call.levelOk) = true
  · rw [if_pos hlevel]
    exact ⟨rfl, rfl⟩
  · rw [if_neg hlevel, herror]
    cases call.optlen with
    | none => exact ⟨rfl, rfl⟩
    | some optlen =>
      dsimp only
      rw [if_neg (not_getsockoptLen_lt optlen)]
      exact ⟨rfl, rfl⟩

/-- With accessible memory the answer is zero, whatever the helper says. -/
theorem pppol2tpGetsockopt_of_target {target : SockoptTarget n}
    (haccess : call.Accessible optlen) (htarget : sockoptTarget state.net call.sock = .ok target) :
    (pppol2tpGetsockopt jiffiesToMsecs state call).err = none ∧
      (pppol2tpGetsockopt jiffiesToMsecs state call).copied =
        if (getsockoptLen optlen).toNatClampNeg = 0 then none
        else
          some (match getHelper jiffiesToMsecs state call.optname target with
            | .ok val => val
            | .error _ => call.stackVal, (getsockoptLen optlen).toNatClampNeg) := by
  unfold pppol2tpGetsockopt
  rw [haccess.levelOk, haccess.getUser, haccess.putUser]
  dsimp only
  rw [if_neg (not_getsockoptLen_lt optlen), htarget, if_neg (by decide), min_eq_left haccess.room]
  exact ⟨if_neg (lt_irrefl _), rfl⟩

/-- Whatever is copied is what the helper produced or what `val` held before. -/
theorem copied_pppol2tpGetsockopt {val : Int32} {bytes : ℕ}
    (hcopied : (pppol2tpGetsockopt jiffiesToMsecs state call).copied = some (val, bytes)) :
    ∃ target, sockoptTarget state.net call.sock = .ok target ∧
      val = match getHelper jiffiesToMsecs state call.optname target with
        | .ok val => val
        | .error _ => call.stackVal := by
  unfold pppol2tpGetsockopt at hcopied
  by_cases hlevel : (!call.levelOk) = true
  · rw [if_pos hlevel] at hcopied
    cases hcopied
  rw [if_neg hlevel] at hcopied
  cases hoptlen : call.optlen with
  | none =>
    rw [hoptlen] at hcopied
    cases hcopied
  | some optlen =>
    rw [hoptlen] at hcopied
    dsimp only at hcopied
    rw [if_neg (not_getsockoptLen_lt optlen)] at hcopied
    cases htarget : sockoptTarget state.net call.sock with
    | error errno =>
      rw [htarget] at hcopied
      cases hcopied
    | ok target =>
      rw [htarget] at hcopied
      dsimp only at hcopied
      refine ⟨target, rfl, ?_⟩
      by_cases hput : (!call.putUser) = true
      · rw [if_pos hput] at hcopied
        cases hcopied
      · rw [if_neg hput] at hcopied
        dsimp only at hcopied
        split_ifs at hcopied
        exact (congrArg Prod.fst (Option.some.inj hcopied)).symm

end Equations

/-! ### What the helpers accept -/

/-- The option exists, and the value is one it can have. -/
def SockoptTarget.Accepts (optname : SessionOption) (val : Int32) : SockoptTarget n → Prop
  | .tunnel _ => optname = .debug
  | .session _ _ =>
    match optname with
    | .recvSeq | .sendSeq | .lnsMode => val = 0 ∨ val = 1
    | .debug | .reorderTimeout => True
    | .unknown => False

section Helpers

variable {state : SockoptState n} {sock : ℕ} {target : SockoptTarget n} {optname : SessionOption}
  {val : Int32}

/-- The session helper changes nothing when it refuses. -/
theorem pppol2tpSessionSetsockopt_cases (tunnel : L2tpTunnel n) (session : L2tpSession n)
    (optname : SessionOption) (val jiffies : Int32) (i : ℕ) (flow : Flow n) :
    ((SockoptTarget.session i flow).Accepts optname val ∧
        (pppol2tpSessionSetsockopt tunnel session optname val jiffies).2 = none) ∨
      (¬ (SockoptTarget.session i flow).Accepts optname val ∧ ∃ errno,
        pppol2tpSessionSetsockopt tunnel session optname val jiffies = (session, some errno)) := by
  unfold pppol2tpSessionSetsockopt SockoptTarget.Accepts
  by_cases hval : val ≠ 0 ∧ val ≠ 1
  · have hnot : ¬ (val = 0 ∨ val = 1) := not_or.mpr hval
    cases optname <;> simp [if_pos hval, hnot]
  · have hbit : val = 0 ∨ val = 1 := (not_and_or.mp hval).imp not_not.mp not_not.mp
    cases optname <;> simp [if_neg hval, hbit]

/-- A helper returns zero exactly if it accepts option and value. -/
theorem snd_setHelper_iff (jiffies : Int32) :
    (setHelper state optname val jiffies target).2 = none ↔ target.Accepts optname val := by
  cases target with
  | tunnel t => cases optname <;> simp [setHelper, pppol2tpTunnelSetsockopt, SockoptTarget.Accepts]
  | session i flow =>
    rcases pppol2tpSessionSetsockopt_cases flow.tunnel flow.session optname val jiffies i flow with
      ⟨haccepts, hnone⟩ | ⟨hrefuses, errno, heq⟩
    · exact iff_of_true hnone haccepts
    · refine iff_of_false (fun hnone ↦ ?_) hrefuses
      rw [setHelper] at hnone
      dsimp only at hnone
      rw [heq] at hnone
      cases hnone

/-- A session is stored as it was found. -/
theorem L2tpNet.onFlow_self {net : L2tpNet n} {i : ℕ} {flow : Flow n}
    (hflow : net.flow i = some flow) {f : Flow n → Flow n} (hf : f flow = flow) :
    net.onFlow i f = net := by
  obtain ⟨hsession, htunnel, hlog⟩ := L2tpNet.flow_eq_some hflow
  unfold L2tpNet.onFlow
  rw [hflow]
  dsimp only
  rw [hf, L2tpNet.store, hlog, List.map_nil, List.append_nil, set_of_getElem? hsession,
    set_of_getElem? htunnel]

theorem flow_of_sockoptTarget {i : ℕ} {flow : Flow n} {net : L2tpNet n}
    (htarget : sockoptTarget net sock = .ok (.session i flow)) :
    net.socks[sock]?.bind (·.userData) = some i ∧ net.flow i = some flow ∧
      ¬ (flow.session.sessionId = 0 ∧ flow.session.peerSessionId = 0) := by
  unfold sockoptTarget at htarget
  cases hdata : net.socks[sock]?.bind (·.userData) with
  | none =>
    rw [hdata] at htarget
    cases htarget
  | some i' =>
    rw [hdata] at htarget
    dsimp only at htarget
    cases hflow : net.flow i' with
    | none =>
      rw [hflow] at htarget
      cases htarget
    | some flow' =>
      rw [hflow] at htarget
      dsimp only at htarget
      split_ifs at htarget with hids
      · cases htarget
      · cases htarget
        exact ⟨rfl, hflow, hids⟩

theorem sockoptTarget_of_flow {i : ℕ} {flow : Flow n} {net : L2tpNet n}
    (hdata : net.socks[sock]?.bind (·.userData) = some i) (hflow : net.flow i = some flow)
    (hids : ¬ (flow.session.sessionId = 0 ∧ flow.session.peerSessionId = 0)) :
    sockoptTarget net sock = .ok (.session i flow) := by
  unfold sockoptTarget
  rw [hdata]
  dsimp only
  rw [hflow]
  exact if_neg hids

/-- A helper that refuses changes nothing. -/
theorem setHelper_of_refused {jiffies : Int32}
    (htarget : sockoptTarget state.net sock = .ok target)
    (hrefused : ¬ target.Accepts optname val) :
    (setHelper state optname val jiffies target).1 = state := by
  cases target with
  | tunnel t =>
    have hdebug : (pppol2tpTunnelSetsockopt (state.tunnelDebug t) optname val).1 =
        state.tunnelDebug t := by
      cases optname <;> first | rfl | exact absurd rfl hrefused
    rw [setHelper]
    dsimp only
    rw [hdebug, Function.update_eq_self]
  | session i flow =>
    obtain ⟨-, hflow, -⟩ := flow_of_sockoptTarget htarget
    obtain ⟨haccepts, -⟩ | ⟨-, errno, heq⟩ :=
      pppol2tpSessionSetsockopt_cases flow.tunnel flow.session optname val jiffies i flow
    · exact absurd haccepts hrefused
    have hdebug : optname ≠ .debug := by
      rintro rfl
      exact hrefused trivial
    rw [setHelper]
    dsimp only
    rw [L2tpNet.onFlow_self hflow (congrArg (fun answer ↦ { flow with session := answer.1 }) heq),
      if_neg hdebug, heq]
    simp

/-- What is accepted can be read. -/
theorem getHelper_of_accepted (haccepts : target.Accepts optname val)
    (jiffiesToMsecs : Int32 → Int32) :
    ∃ read, getHelper jiffiesToMsecs state optname target = .ok read := by
  cases target with
  | tunnel t =>
    obtain rfl : optname = .debug := haccepts
    exact ⟨_, rfl⟩
  | session i flow =>
    cases optname with
    | unknown => exact absurd haccepts id
    | _ => exact ⟨_, rfl⟩

/-- The options that give back the value they are set to. -/
def SessionOption.readsBack : SessionOption → Bool
  | .recvSeq | .sendSeq | .lnsMode | .debug => true
  | .reorderTimeout | .unknown => false

theorem bitVal_of_accepted (hval : val = 0 ∨ val = 1) : bitVal (val ≠ 0) = val := by
  rcases hval with rfl | rfl
  · rfl
  · rfl

/-- The session helper stores the value where the other one reads it. -/
theorem pppol2tpSessionGetsockopt_set {i : ℕ} {flow : Flow n} (jiffies : Int32)
    (jiffiesToMsecs : Int32 → Int32)
    (haccepts : (SockoptTarget.session i flow).Accepts optname val)
    (hreads : optname.readsBack = true) (hdebug : optname ≠ .debug) (debug : Int32) :
    pppol2tpSessionGetsockopt jiffiesToMsecs
      (pppol2tpSessionSetsockopt flow.tunnel flow.session optname val jiffies).1 debug optname =
        .ok val := by
  have hbit (hval : val = 0 ∨ val = 1) : ¬ (val ≠ 0 ∧ val ≠ 1) := fun hboth ↦
    hval.elim hboth.1 hboth.2
  unfold pppol2tpSessionGetsockopt pppol2tpSessionSetsockopt
  cases optname with
  | recvSeq =>
    dsimp only
    rw [if_neg (hbit haccepts)]
    exact congrArg Except.ok (bitVal_of_accepted haccepts)
  | sendSeq =>
    obtain ⟨hdrLen, hlen⟩ := l2tpSessionSetHeaderLen_eq flow.tunnel
      { flow.session with sendSeq := decide (val ≠ 0) } flow.tunnel.version
    dsimp only
    rw [if_neg (hbit haccepts), hlen]
    exact congrArg Except.ok (bitVal_of_accepted haccepts)
  | lnsMode =>
    dsimp only
    rw [if_neg (hbit haccepts)]
    exact congrArg Except.ok (bitVal_of_accepted haccepts)
  | debug => exact absurd rfl hdebug
  | reorderTimeout => cases hreads
  | unknown => cases hreads

/-- After a set that is accepted, the socket stands for the same and the value is read back. -/
theorem getHelper_setHelper (jiffies : Int32) (jiffiesToMsecs : Int32 → Int32)
    (htarget : sockoptTarget state.net sock = .ok target) (haccepts : target.Accepts optname val)
    (hreads : optname.readsBack = true) :
    ∃ target', sockoptTarget (setHelper state optname val jiffies target).1.net sock = .ok target' ∧
      getHelper jiffiesToMsecs (setHelper state optname val jiffies target).1 optname target' =
        .ok val := by
  cases target with
  | tunnel t =>
    obtain rfl : optname = .debug := haccepts
    refine ⟨.tunnel t, htarget, ?_⟩
    simp [getHelper, setHelper, pppol2tpTunnelGetsockopt, pppol2tpTunnelSetsockopt]
  | session i flow =>
    obtain ⟨hdata, hflow, hids⟩ := flow_of_sockoptTarget htarget
    obtain ⟨recvSeq, sendSeq, lnsMode, hdrLen, reorderTimeout, heq⟩ :=
      pppol2tpSessionSetsockopt_eq flow.tunnel flow.session optname val jiffies
    have hstored : (setHelper state optname val jiffies (.session i flow)).1.net.flow i =
        some { flow with
          session := (pppol2tpSessionSetsockopt flow.tunnel flow.session optname val
            jiffies).1 } := by
      rw [setHelper]
      dsimp only
      rw [L2tpNet.onFlow, hflow]
      refine (L2tpNet.flow_store hflow ?_).trans ?_
      · rw [Flow.onSession, heq]
      · rw [Flow.onSession, ← (L2tpNet.flow_eq_some hflow).2.2]
    have hsocks : (setHelper state optname val jiffies (.session i flow)).1.net.socks =
        state.net.socks := by
      rw [setHelper]
      dsimp only
      rw [L2tpNet.onFlow, hflow]
      rfl
    have hids' : ¬ ((pppol2tpSessionSetsockopt flow.tunnel flow.session optname val
        jiffies).1.sessionId = 0 ∧ (pppol2tpSessionSetsockopt flow.tunnel flow.session optname val
        jiffies).1.peerSessionId = 0) := by
      rw [heq]
      exact hids
    refine ⟨_, sockoptTarget_of_flow (hsocks ▸ hdata) hstored hids', ?_⟩
    by_cases hdebug : optname = .debug
    · subst hdebug
      simp [getHelper, setHelper, pppol2tpSessionGetsockopt]
    · exact pppol2tpSessionGetsockopt_set jiffies jiffiesToMsecs haccepts hreads hdebug _

end Helpers

/-! ### What the entry points report -/

/-- The entry points do what the helpers say, for one option and one value. -/
structure ReportsHelper (jiffiesToMsecs : Int32 → Int32) (state : SockoptState n) (sock : ℕ)
    (optname : SessionOption) (val jiffies : Int32) : Prop where
  /-- `setsockopt` returns what the helper returns. -/
  set : ∀ target, sockoptTarget state.net sock = .ok target →
    (setsockopt state { sock, optname, val := some val, jiffies }).2 =
      (setHelper state optname val jiffies target).2
  /-- After an error nothing has changed. -/
  refused : (setsockopt state { sock, optname, val := some val, jiffies }).2.isSome = true →
    (setsockopt state { sock, optname, val := some val, jiffies }).1 = state
  /-- `getsockopt` returns zero exactly if the helper knows the option. -/
  get : ∀ call optlen, call.sock = sock → call.optname = optname → call.Accessible optlen →
    ((pppol2tpGetsockopt jiffiesToMsecs state call).err = none ↔
      ∃ target read, sockoptTarget state.net sock = .ok target ∧
        getHelper jiffiesToMsecs state optname target = .ok read)
  /-- What is copied to the user comes from the helper. -/
  copied : ∀ call read bytes, call.sock = sock → call.optname = optname →
    (pppol2tpGetsockopt jiffiesToMsecs state call).copied = some (read, bytes) →
      ∃ target, sockoptTarget state.net sock = .ok target ∧
        getHelper jiffiesToMsecs state optname target = .ok read
  /-- A value that was set is read back. -/
  readBack : optname.readsBack = true →
    (setsockopt state { sock, optname, val := some val, jiffies }).2 = none →
    ∀ call optlen, call.sock = sock → call.optname = optname → call.Accessible optlen →
      (pppol2tpGetsockopt jiffiesToMsecs
        (setsockopt state { sock, optname, val := some val, jiffies }).1 call).err = none ∧
      (pppol2tpGetsockopt jiffiesToMsecs
        (setsockopt state { sock, optname, val := some val, jiffies }).1 call).copied =
          if (getsockoptLen optlen).toNatClampNeg = 0 then none
          else some (val, (getsockoptLen optlen).toNatClampNeg)

section Reporting

variable {jiffiesToMsecs : Int32 → Int32} {state : SockoptState n} {sock : ℕ}
  {optname : SessionOption} {val : Int32}

/-- A socket that leads nowhere is reported as such. -/
theorem reports_of_error {errno : Errno} (herror : sockoptTarget state.net sock = .error errno)
    (jiffies : Int32) : ReportsHelper jiffiesToMsecs state sock optname val jiffies := by
  have hset := setsockopt_of_error herror optname val jiffies
  refine ⟨fun target htarget ↦ ?_, fun _ ↦ ?_, ?_, ?_, fun _ hnone ↦ ?_⟩
  · cases herror.symm.trans htarget
  · rw [hset]
  · rintro call optlen rfl rfl -
    refine iff_of_false ?_ ?_
    · rw [← Option.not_isSome_iff_eq_none, not_not]
      exact (pppol2tpGetsockopt_of_error herror).1
    · rintro ⟨target, read, htarget, -⟩
      cases herror.symm.trans htarget
  · rintro call read bytes rfl rfl hcopied
    rw [(pppol2tpGetsockopt_of_error herror).2] at hcopied
    cases hcopied
  · rw [hset] at hnone
    cases hnone

/-- What is accepted is reported as accepted. -/
theorem reports_of_accepted {target : SockoptTarget n}
    (htarget : sockoptTarget state.net sock = .ok target) (haccepts : target.Accepts optname val)
    (jiffies : Int32) : ReportsHelper jiffiesToMsecs state sock optname val jiffies := by
  have hset := setsockopt_of_target htarget optname val jiffies
  obtain ⟨read, hread⟩ : ∃ read, getHelper jiffiesToMsecs state optname target = .ok read :=
    getHelper_of_accepted haccepts jiffiesToMsecs
  refine ⟨fun target' htarget' ↦ ?_, fun hsome ↦ ?_, ?_, ?_, fun hreads _ ↦ ?_⟩
  · cases htarget.symm.trans htarget'
    rw [hset, (snd_setHelper_iff jiffies).mpr haccepts]
  · rw [hset] at hsome
    cases hsome
  · rintro call optlen rfl rfl haccess
    exact iff_of_true (pppol2tpGetsockopt_of_target haccess htarget).1
      ⟨target, read, htarget, hread⟩
  · rintro call copied bytes rfl rfl hcopied
    obtain ⟨target', htarget', hval⟩ := copied_pppol2tpGetsockopt hcopied
    cases htarget.symm.trans htarget'
    rw [hread] at hval
    exact ⟨target, htarget, hval ▸ hread⟩
  · rintro call optlen rfl rfl haccess
    obtain ⟨target', htarget', hback⟩ :=
      getHelper_setHelper jiffies jiffiesToMsecs htarget haccepts hreads
    rw [hset]
    obtain ⟨herr, hcopied⟩ := pppol2tpGetsockopt_of_target haccess htarget'
    rw [hback] at hcopied
    exact ⟨herr, hcopied⟩

end Reporting

/-- A set that the helper refuses does nothing, and the answer is zero. -/
theorem setsockopt_of_refused {state : SockoptState n} {sock : ℕ} {target : SockoptTarget n}
    {optname : SessionOption} {val : Int32} (htarget : sockoptTarget state.net sock = .ok target)
    (hrefused : ¬ target.Accepts optname val) (jiffies : Int32) :
    setsockopt state { sock, optname, val := some val, jiffies } = (state, none) := by
  rw [setsockopt_of_target htarget, setHelper_of_refused htarget hrefused]

/-- The entry points report what the helper did exactly if the socket leads nowhere, so that no
helper is asked, or the helper accepts option and value. -/
theorem sockopts_report_iff (jiffiesToMsecs : Int32 → Int32) (state : SockoptState n) (sock : ℕ)
    (optname val jiffies : Int32) :
    ReportsHelper jiffiesToMsecs state sock (.ofOptname optname) val jiffies ↔
      ∀ target, sockoptTarget state.net sock = .ok target →
        target.Accepts (.ofOptname optname) val := by
  constructor
  · intro hreports target htarget
    have hset := hreports.set target htarget
    rw [setsockopt_of_target htarget] at hset
    exact (snd_setHelper_iff jiffies).mp hset.symm
  · intro haccepted
    cases htarget : sockoptTarget state.net sock with
    | error errno => exact reports_of_error htarget jiffies
    | ok target => exact reports_of_accepted htarget (haccepted target htarget) jiffies

/-- A socket has been connected to a session of a tunnel. -/
def connectedState : SockoptState 1 where
  net :=
    (pppol2tpConnect lowBits
      { emptyNet 1 with
        tunnels := [newTunnel 1 hdrVer2 1 2 .udp 0]
        tunnelList := [0]
        socks := [{}] }
      { sock := 0, address := some (.v2 1 2 7 7), tunnelSocket := { sk := .ok 0 } }).1
  tunnelDebug := fun _ ↦ 0
  sessionDebug := fun _ ↦ 0
  chanHdrlen := fun _ ↦ 6

/-- The value 2 for a bit is refused and reported as set, and for an option that does not exist the
user gets what was on the stack. -/
theorem sockopts_misreport :
    (∀ target, sockoptTarget connectedState.net 0 = .ok target →
        (setHelper connectedState (.ofOptname 2) 2 0 target).2 = some .einval) ∧
      (setsockopt connectedState { sock := 0, optname := .ofOptname 2, val := some 2 }).2 = none ∧
      (pppol2tpGetsockopt id connectedState
        { sock := 0, optname := .ofOptname 77, optlen := some 4, stackVal := 4711 }).err = none ∧
      (pppol2tpGetsockopt id connectedState
        { sock := 0, optname := .ofOptname 77, optlen := some 4, stackVal := 4711 }).copied =
          some (4711, 4) ∧
      ¬ ReportsHelper id connectedState 0 (.ofOptname 2) 2 0 := by
  have hhelper : ∀ target, sockoptTarget connectedState.net 0 = .ok target →
      (setHelper connectedState (.ofOptname 2) 2 0 target).2 = some .einval := by
    rintro target ⟨⟩
    rfl
  refine ⟨hhelper, rfl, rfl, rfl, fun hreports ↦ ?_⟩
  have hset := hreports.set _ rfl
  rw [hhelper _ rfl] at hset
  cases hset

end KernelModules.L2tp
