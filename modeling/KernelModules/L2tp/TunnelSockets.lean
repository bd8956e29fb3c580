import KernelModules.L2tp.TunnelLifetimes

/-!
# Looking up the socket of a tunnel

A tunnel socket belongs to a process, which has opened it and passed its descriptor (`fd >= 0`), or
to the kernel. `l2tp_tunnel_sock_lookup` takes a reference to the socket, so that it does not go
away, and `l2tp_tunnel_sock_put` is to give it back. For a socket of a process the reference is one
to its file, which the descriptor leads to; for a socket of the kernel it is one to the socket
itself.

The put does not know which of the two has been taken. It asks the socket for its tunnel, which
takes another reference to the socket, and gives back one to the file if the tunnel has a
descriptor, the one it has just taken, and in any case one more to the socket. That is right for a
socket of the kernel, also if it has lost its tunnel in the meantime. For a socket of a process it
drops a reference that has not been taken, so that the socket can be destructed while the process
still has it open (`lookup_put_neutral_iff`).

Of the kernel it is assumed that `sockfd_lookup` takes one reference to the file and `sockfd_put`
drops one. Which socket a descriptor leads to is given by the table of the process.
-/

set_option autoImplicit false
set_option relaxedAutoImplicit false

namespace KernelModules.L2tp

open Foundations

variable {n : ℕ}

/-! ### The lookup and the put -/

/-- A namespace with its counters, the descriptors of the tunnels, and the counters of the files of
the sockets. -/
structure SockFiles (n : ℕ) extends Lifetimes n where
  /-- `tunnel->fd`. -/
  fd : ℕ → Int32
  /-- The count of the file of a socket, `sk->sk_socket->file->f_count`. -/
  fileRefs : ℕ → ℤ

namespace SockFiles

/-- Run a function that has nothing to do with files. -/
def onLife (st : SockFiles n) (f : Lifetimes n → Except Fault (Lifetimes n)) :
    Except Fault (SockFiles n) := do
  let life ← f st.toLifetimes
  .ok { st with toLifetimes := life }

/-- Add to the count of the file of a socket. -/
def addFileRefs (st : SockFiles n) (sk : ℕ) (change : ℤ) : SockFiles n :=
  { st with fileRefs := Function.update st.fileRefs sk (st.fileRefs sk + change) }

/-- `sockfd_put(sk->sk_socket)`. -/
def sockfdPut (st : SockFiles n) (sk : ℕ) : Except Fault (SockFiles n) :=
  if st.skSocket sk then .ok (st.addFileRefs sk (-1)) else .error .nullSock

/-- `l2tp_tunnel_sock_lookup`. The table of the process tells which socket a descriptor leads to. -/
def l2tpTunnelSockLookup (table : Int32 → Option ℕ) (st : SockFiles n) :
    Option ℕ → Except Fault (SockFiles n × Option ℕ)
  | none => .ok (st, none)
  | some t =>
    if 0 ≤ st.fd t then
      match table (st.fd t) with
      | none => .ok (st, none)
      | some sk => .ok (st.addFileRefs sk 1, some sk)
    else do
      let sk := st.sockOf t
      let st ← st.onLife (·.sockHold sk)
      .ok (st, sk)

/-- `l2tp_tunnel_sock_put`. -/
def l2tpTunnelSockPut (destruct : Lifetimes.Destructor n) (st : SockFiles n) (sk : ℕ) :
    Except Fault (SockFiles n) := do
  let (life, tunnel) ← st.toLifetimes.l2tpSockToTunnel destruct sk
  let st : SockFiles n := { st with toLifetimes := life }
  match tunnel with
  | none => st.onLife (·.sockPut destruct (some sk))
  | some t =>
    let st ← if 0 ≤ st.fd t then st.sockfdPut sk else .ok st
    let st ← st.onLife (·.sockPut destruct (some sk))
    st.onLife (·.sockPut destruct (some sk))

end SockFiles

/-- Without descriptors the lookup is the one for sockets of the kernel. -/
theorem SockFiles.lookup_of_kernel (table : Int32 → Option ℕ) (st : SockFiles n) {t : ℕ}
    (hfd : st.fd t < 0) : st.l2tpTunnelSockLookup table (some t) =
      (st.toLifetimes.l2tpTunnelSockLookup t).map fun found ↦
        ({ st with toLifetimes := found.1 }, found.2) := by
  unfold l2tpTunnelSockLookup Lifetimes.l2tpTunnelSockLookup
  dsimp only
  rw [if_neg (Int32.not_le.mpr hfd)]
  cases st.sockOf t with
  | none => rfl
  | some sk => rfl

/-- Without descriptors the put is the one for sockets of the kernel. -/
theorem SockFiles.put_of_kernel (destruct : Lifetimes.Destructor n) (st : SockFiles n) (sk : ℕ)
    (hfd : ∀ t, st.fd t < 0) : st.l2tpTunnelSockPut destruct sk =
      (st.toLifetimes.l2tpTunnelSockPut destruct sk).map fun life ↦
        { st with toLifetimes := life } := by
  unfold l2tpTunnelSockPut Lifetimes.l2tpTunnelSockPut
  cases st.toLifetimes.l2tpSockToTunnel destruct sk with
  | error fault => rfl
  | ok found =>
    obtain ⟨life, tunnel⟩ := found
    cases tunnel with
    | none => rfl
    | some t =>
      dsimp only [bind, Except.bind]
      rw [if_neg (Int32.not_le.mpr (hfd t))]
      dsimp only [onLife, bind, Except.bind]
      cases life.sockPut destruct (some sk) with
      | error fault => rfl
      | ok put => rfl

/-! ### Nothing takes references to a socket that is destructed -/

namespace Lifetimes

/-- If there is a result, no socket has more references than before. -/
def Lowers (st : Lifetimes n) (result : Except Fault (Lifetimes n)) : Prop :=
  ∀ st', result = .ok st' → ∀ sk, st'.skRefcnt sk ≤ st.skRefcnt sk

namespace Lowers

variable {st st' : Lifetimes n} {result : Except Fault (Lifetimes n)}

theorem ok (hsame : st'.skRefcnt = st.skRefcnt) : Lowers st (.ok st') := by
  intro st'' heq sk
  rw [← Except.ok.inj heq, hsame]

theorem error (fault : Fault) : Lowers st (.error fault) := by
  intro st' heq
  exact absurd heq (by simp)

theorem bind {next : Lifetimes n → Except Fault (Lifetimes n)} (hfirst : Lowers st result)
    (hnext : ∀ st', Lowers st' (next st')) : Lowers st (result >>= next) := by
  intro st'' heq sk
  cases result with
  | error fault => exact absurd heq (by simp [bind, Except.bind])
  | ok st' => exact (hnext st' st'' heq sk).trans (hfirst st' rfl sk)

/-- Other counters may have changed before. -/
theorem of_eq (st' : Lifetimes n) (hsame : st'.skRefcnt = st.skRefcnt)
    (hlowers : Lowers st' result) : Lowers st result := by
  intro st'' heq sk
  rw [← hsame]
  exact hlowers st'' heq sk

theorem l2tpTunnelDecRefcount (st : Lifetimes n) (t : ℕ) :
    Lowers st (st.l2tpTunnelDecRefcount t) := by
  unfold Lifetimes.l2tpTunnelDecRefcount l2tpTunnelFree
  dsimp only
  split_ifs
  · exact error _
  · exact error _
  · exact ok rfl
  · exact ok rfl

section

variable {destruct : Destructor n} (hdestruct : ∀ st sk, Lowers st (destruct st sk))
include hdestruct

/-- What `sock_put` drops, nothing takes again. -/
theorem of_sockPut {sk : ℕ} (hput : st.sockPut destruct (some sk) = .ok st') (sk' : ℕ) :
    st'.skRefcnt sk' ≤ (st.addSkRefcnt sk (-1)).skRefcnt sk' := by
  unfold Lifetimes.sockPut at hput
  dsimp only at hput
  split_ifs at hput
  · exact hdestruct _ sk st' hput sk'
  · rw [← Except.ok.inj hput]

theorem skRefcnt_sockPut_lt {sk : ℕ} (hput : st.sockPut destruct (some sk) = .ok st') :
    st'.skRefcnt sk < st.skRefcnt sk := by
  have hle := of_sockPut hdestruct hput sk
  rw [skRefcnt_addSkRefcnt] at hle
  omega

theorem sockPut (st : Lifetimes n) (sk : Option ℕ) : Lowers st (st.sockPut destruct sk) := by
  cases sk with
  | none => exact error _
  | some sk =>
    intro st' hput sk'
    by_cases heq : sk' = sk
    · rw [heq]
      exact (skRefcnt_sockPut_lt hdestruct hput).le
    · have hle := of_sockPut hdestruct hput sk'
      rwa [skRefcnt_addSkRefcnt_of_ne st heq] at hle

theorem l2tpSessionDecRefcount (st : Lifetimes n) (i : ℕ) :
    Lowers st (st.l2tpSessionDecRefcount destruct i) := by
  unfold Lifetimes.l2tpSessionDecRefcount l2tpSessionFree
  dsimp only
  split_ifs
  · exact error _
  · split
    · exact ok rfl
    · refine of_eq ((st.addSessionRefs i (-1)).record (.sessionFree i)) rfl ?_
      refine (sockPut hdestruct _ _).bind fun put ↦ ?_
      exact of_eq _ rfl (l2tpTunnelDecRefcount _ _)
  · exact ok rfl

theorem drainM (st : Lifetimes n) (env : Env n) (t : ℕ) (bucket : Fin 16) (count : ℕ) :
    Lowers st (Foundations.drainM (closeStep env destruct t bucket) count st) := by
  induction count generalizing st with
  | zero => exact ok rfl
  | succ count ih =>
    rw [Foundations.drainM]
    split
    · exact ok rfl
    · rename_i next hnext
      unfold closeStep at hnext
      split at hnext
      · exact absurd hnext (by simp)
      · rw [← Option.some.inj hnext]
        exact (of_eq _ rfl (l2tpSessionDecRefcount hdestruct _ _)).bind ih

theorem l2tpTunnelCloseall (st : Lifetimes n) (env : Env n) (t : ℕ) :
    Lowers st (st.l2tpTunnelCloseall env destruct t) := by
  unfold Lifetimes.l2tpTunnelCloseall
  induction List.finRange 16 generalizing st with
  | nil => exact ok rfl
  | cons bucket buckets ih =>
    rw [List.foldlM_cons]
    exact (drainM hdestruct st env t bucket _).bind ih

end

/-- The destructor of a tunnel socket takes no references to sockets. -/
theorem l2tpTunnelDestruct (env : Env n) (depth : ℕ) (st : Lifetimes n) (sk : ℕ) :
    Lowers st (L2tp.Lifetimes.l2tpTunnelDestruct env depth st sk) := by
  induction depth generalizing st sk with
  | zero => exact error _
  | succ depth ih =>
    unfold Lifetimes.l2tpTunnelDestruct
    split
    · exact ok rfl
    · rename_i t _
      refine of_eq ((st.unhook t sk).record (.destruct t)) rfl ?_
      exact (l2tpTunnelCloseall ih _ env t).bind fun closed ↦ l2tpTunnelDecRefcount closed t

end Lowers

end Lifetimes

/-! ### Which lookups are neutral -/

/-- The counts of a socket and of its file are as before. -/
def SockFiles.SameRefs (sk : ℕ) (before after : SockFiles n) : Prop :=
  after.skRefcnt sk = before.skRefcnt sk ∧ after.fileRefs sk = before.fileRefs sk

namespace SockFiles

variable {st : SockFiles n} {sk : ℕ}

/-- The put gives back a reference to the file: the socket has a tunnel with a descriptor. -/
def givesFile (st : SockFiles n) (sk : ℕ) : Bool := (st.skUserData sk).any (0 ≤ st.fd ·)

theorem onLife_eq_ok {f : Lifetimes n → Except Fault (Lifetimes n)} {st' : SockFiles n}
    (hok : st.onLife f = .ok st') :
    ∃ life, f st.toLifetimes = .ok life ∧ st' = { st with toLifetimes := life } := by
  unfold onLife at hok
  cases hlife : f st.toLifetimes with
  | error fault => simp [hlife, bind, Except.bind] at hok
  | ok life =>
    simp only [hlife, bind, Except.bind, Except.ok.injEq] at hok
    exact ⟨life, rfl, hok.symm⟩

/-- The tunnel of a socket that is held: the socket is held once more if it has one. -/
theorem l2tpSockToTunnel_eq (destruct : Lifetimes.Destructor n) (hheld : 0 < st.skRefcnt sk) :
    ∃ life, st.toLifetimes.l2tpSockToTunnel destruct sk = .ok (life, st.skUserData sk) ∧
      life.skRefcnt sk = st.skRefcnt sk + (st.skUserData sk).isSome.toNat ∧
        life.skSocket = st.skSocket := by
  have hcount : (st.addSkRefcnt sk 1).skRefcnt sk = st.skRefcnt sk + 1 :=
    Lifetimes.skRefcnt_addSkRefcnt _ sk 1
  have hdata : (st.addSkRefcnt sk 1).skUserData sk = st.skUserData sk := rfl
  unfold Lifetimes.l2tpSockToTunnel
  dsimp only [Lifetimes.sockHold, bind, Except.bind]
  rw [hdata]
  cases hsome : st.skUserData sk with
  | some t => exact ⟨_, rfl, hcount, rfl⟩
  | none =>
    dsimp only
    rw [Lifetimes.sockPut_of_ne destruct (by omega)]
    refine ⟨_, rfl, ?_, rfl⟩
    rw [Lifetimes.skRefcnt_addSkRefcnt, hcount, Option.isSome_none, Bool.toNat_false]
    omega

/-- What the put comes down to: perhaps a reference to the file, and one to the socket. -/
theorem l2tpTunnelSockPut_eq (destruct : Lifetimes.Destructor n) (hheld : 0 < st.skRefcnt sk) :
    ∃ life : Lifetimes n, life.skRefcnt sk = st.skRefcnt sk ∧ life.skSocket = st.skSocket ∧
      st.l2tpTunnelSockPut destruct sk =
        (if st.givesFile sk then sockfdPut { st with toLifetimes := life } sk
          else .ok { st with toLifetimes := life }) >>=
            fun put ↦ put.onLife (·.sockPut destruct (some sk)) := by
  obtain ⟨life, hlife, hcount, hsocket⟩ := l2tpSockToTunnel_eq destruct hheld
  unfold l2tpTunnelSockPut
  rw [hlife]
  dsimp only [bind, Except.bind]
  cases hdata : st.skUserData sk with
  | none =>
    rw [hdata, Option.isSome_none, Bool.toNat_false] at hcount
    refine ⟨life, by omega, hsocket, ?_⟩
    rw [givesFile, hdata]
    rfl
  | some t =>
    rw [hdata, Option.isSome_some, Bool.toNat_true] at hcount
    have hone : life.skRefcnt sk ≠ 1 := by omega
    refine ⟨life.addSkRefcnt sk (-1), ?_, hsocket, ?_⟩
    · rw [Lifetimes.skRefcnt_addSkRefcnt]
      omega
    · have hput := Lifetimes.sockPut_of_ne destruct hone
      rw [givesFile, hdata, Option.any_some]
      by_cases hfd : 0 ≤ st.fd t
      · rw [decide_eq_true hfd, if_pos rfl]
        dsimp only
        rw [if_pos hfd]
        cases hsk : st.skSocket sk with
        | false => simp [sockfdPut, hsocket, hsk, Lifetimes.addSkRefcnt]
        | true =>
          simp [sockfdPut, hsocket, hsk, onLife, addFileRefs, hput, Lifetimes.addSkRefcnt, bind,
            Except.bind]
      · rw [decide_eq_false hfd, if_neg Bool.false_ne_true]
        dsimp only
        rw [if_neg hfd]
        simp [onLife, hput, bind, Except.bind]

/-- A put that gives back no file leaves one reference less to a socket that is held twice. -/
theorem put_of_not_givesFile (destruct : Lifetimes.Destructor n) (hheld : 1 < st.skRefcnt sk)
    (hfile : st.givesFile sk = false) : Yields (st.l2tpTunnelSockPut destruct sk) fun after ↦
      after.skRefcnt sk = st.skRefcnt sk - 1 ∧ after.fileRefs = st.fileRefs := by
  obtain ⟨life, hcount, -, hput⟩ := l2tpTunnelSockPut_eq destruct (by omega : 0 < st.skRefcnt sk)
  have htwice : life.skRefcnt sk ≠ 1 := by omega
  rw [hput, hfile, if_neg Bool.false_ne_true]
  refine ⟨{ st with toLifetimes := life.addSkRefcnt sk (-1) }, ?_, ?_, rfl⟩
  · dsimp only [bind, Except.bind, onLife]
    rw [Lifetimes.sockPut_of_ne destruct htwice]
  · change (life.addSkRefcnt sk (-1)).skRefcnt sk = _
    rw [Lifetimes.skRefcnt_addSkRefcnt]
    omega

/-- The last thing a put does is a `sock_put`. -/
theorem sockPut_of_put {destruct : Lifetimes.Destructor n} (hheld : 0 < st.skRefcnt sk)
    {after : SockFiles n} (hput : st.l2tpTunnelSockPut destruct sk = .ok after) :
    ∃ life : Lifetimes n, life.skRefcnt sk = st.skRefcnt sk ∧
      life.sockPut destruct (some sk) = .ok after.toLifetimes ∧
        after.fileRefs sk = st.fileRefs sk - (st.givesFile sk).toNat := by
  obtain ⟨life, hcount, -, heq⟩ := l2tpTunnelSockPut_eq destruct hheld
  rw [heq] at hput
  cases hfile : st.givesFile sk with
  | false =>
    rw [hfile, if_neg Bool.false_ne_true] at hput
    dsimp only [bind, Except.bind] at hput
    obtain ⟨life', hlast, rfl⟩ := onLife_eq_ok hput
    exact ⟨life, hcount, hlast, (sub_zero _).symm⟩
  | true =>
    rw [hfile, if_pos rfl, sockfdPut] at hput
    by_cases hsocket : life.skSocket sk = true
    · rw [if_pos hsocket] at hput
      dsimp only [bind, Except.bind] at hput
      obtain ⟨life', hlast, rfl⟩ := onLife_eq_ok hput
      exact ⟨life, hcount, hlast, Function.update_self _ _ _⟩
    · rw [if_neg hsocket] at hput
      exact absurd hput (by simp [bind, Except.bind])

/-- A lookup that succeeds holds the file of the socket, or the socket. -/
theorem l2tpTunnelSockLookup_eq_some {table : Int32 → Option ℕ} {t : ℕ} {mid : SockFiles n}
    (hlookup : st.l2tpTunnelSockLookup table (some t) = .ok (mid, some sk)) :
    (0 ≤ st.fd t ∧ mid.skRefcnt sk = st.skRefcnt sk) ∨
      (st.fd t < 0 ∧ mid.skRefcnt sk = st.skRefcnt sk + 1 ∧ mid.fileRefs = st.fileRefs) := by
  unfold l2tpTunnelSockLookup at hlookup
  dsimp only at hlookup
  by_cases hfd : 0 ≤ st.fd t
  · rw [if_pos hfd] at hlookup
    left
    cases hsk : table (st.fd t) with
    | none => simp [hsk] at hlookup
    | some found =>
      rw [hsk] at hlookup
      obtain ⟨rfl, -⟩ := Prod.mk.inj (Except.ok.inj hlookup)
      exact ⟨hfd, rfl⟩
  · rw [if_neg hfd] at hlookup
    right
    cases hsk : st.sockOf t with
    | none => simp [hsk, onLife, Lifetimes.sockHold, bind, Except.bind] at hlookup
    | some found =>
      rw [hsk] at hlookup
      obtain ⟨rfl, hfound⟩ := Prod.mk.inj (Except.ok.inj hlookup)
      rw [← Option.some.inj hfound]
      exact ⟨Int32.not_le.mp hfd, Lifetimes.skRefcnt_addSkRefcnt _ found 1, rfl⟩

end SockFiles

/-- A lookup of the socket of a tunnel and the put that follows it leave the counts as they were
exactly if the tunnel has no descriptor, nor the tunnel the socket has when it is put back.
Assumes: the socket is held by somebody, and what happens in between leaves its counts alone. -/
theorem lookup_put_neutral_iff (env : Env n) {table : Int32 → Option ℕ} {st mid later : SockFiles n}
    {t sk : ℕ} (hheld : 0 < st.skRefcnt sk)
    (hlookup : st.l2tpTunnelSockLookup table (some t) = .ok (mid, some sk))
    (hlater : SockFiles.SameRefs sk mid later) :
    Yields (later.l2tpTunnelSockPut (later.destructor env) sk) (SockFiles.SameRefs sk st) ↔
      st.fd t < 0 ∧ later.givesFile sk = false := by
  obtain ⟨hcount, hfile⟩ := hlater
  rcases SockFiles.l2tpTunnelSockLookup_eq_some hlookup with
    ⟨hfd, hmid⟩ | ⟨hfd, hmid, hmidFile⟩
  · constructor
    · rintro ⟨after, hput, hsame, -⟩
      obtain ⟨life, hlife, hlast, -⟩ := SockFiles.sockPut_of_put (by omega) hput
      have hless := Lifetimes.Lowers.skRefcnt_sockPut_lt
        (Lifetimes.Lowers.l2tpTunnelDestruct env _) hlast
      omega
    · rintro ⟨hneg, -⟩
      exact absurd hneg (Int32.not_lt.mpr hfd)
  · constructor
    · rintro ⟨after, hput, -, hsame⟩
      refine ⟨hfd, ?_⟩
      by_contra hgives
      obtain ⟨-, -, -, hdropped⟩ := SockFiles.sockPut_of_put (by omega) hput
      rw [hsame, hfile, hmidFile, Bool.eq_true_of_not_eq_false hgives, Bool.toNat_true] at hdropped
      omega
    · rintro ⟨-, hgives⟩
      refine (SockFiles.put_of_not_givesFile _ (by omega) hgives).imp ?_
      rintro after ⟨hafter, hfiles⟩
      refine ⟨by omega, ?_⟩
      rw [hfiles, hfile, hmidFile]

/-- A new tunnel with descriptor `fd`. Its socket has the reference that came with it, and so has
the file. -/
def newSockFiles (fd : Int32) : SockFiles 1 where
  toLifetimes := (noLifetimes 1).l2tpTunnelCreate none true true hdrVer3 1 2 .udp
  fd := fun _ ↦ fd
  fileRefs := fun _ ↦ 1

/-- A socket of the kernel is looked up and put back. -/
theorem lookup_put_neutral_kernel : ∃ mid,
    (newSockFiles (-1)).l2tpTunnelSockLookup (fun _ ↦ none) (some 0) = .ok (mid, some 0) ∧
      Yields (mid.l2tpTunnelSockPut (mid.destructor Lifetimes.oneCpu) 0)
        (SockFiles.SameRefs 0 (newSockFiles (-1))) := by
  have hlookup : (newSockFiles (-1)).l2tpTunnelSockLookup (fun _ ↦ none) (some 0) =
      .ok ({ newSockFiles (-1) with toLifetimes := (newSockFiles (-1)).addSkRefcnt 0 1 }, some 0) :=
    rfl
  exact ⟨_, hlookup, (lookup_put_neutral_iff Lifetimes.oneCpu (by decide) hlookup ⟨rfl, rfl⟩).mpr
    ⟨by decide, by decide⟩⟩

/-- A socket of a process is destructed when it is put back, while the process has it open. -/
theorem not_neutral_process : ∃ mid,
    (newSockFiles 3).l2tpTunnelSockLookup (fun _ ↦ some 0) (some 0) = .ok (mid, some 0) ∧
      ¬ Yields (mid.l2tpTunnelSockPut (mid.destructor Lifetimes.oneCpu) 0)
        (SockFiles.SameRefs 0 (newSockFiles 3)) := by
  refine ⟨(newSockFiles 3).addFileRefs 0 1, rfl, ?_⟩
  rintro ⟨after, hput, hsame, -⟩
  have hcount : (((newSockFiles 3).addFileRefs 0 1).l2tpTunnelSockPut
      (((newSockFiles 3).addFileRefs 0 1).destructor Lifetimes.oneCpu) 0).toOption.map
        (fun st ↦ (st.skRefcnt 0, st.log.head?)) = some (0, some (.destruct 0)) := by
    rfl
  rw [hput] at hcount
  obtain ⟨hzero, -⟩ := Prod.mk.inj (Option.some.inj hcount)
  rw [hzero] at hsame
  exact absurd hsame (by decide)

end KernelModules.L2tp
