import KernelModules.Foundations.Lists
import KernelModules.Foundations.Runs
import Mathlib.Data.BitVec
import Mathlib.Data.List.Basic
import Mathlib.Data.UInt

/-!
# Bindings of L2TP/IP sockets

Sockets of L2TP over IP are bound to a connection id, a local address and perhaps a device, and a
control frame for an id goes to the socket that is bound to it. Each address family has a table of
the bound sockets, a lookup in it, and a `bind` that asks the lookup before it puts the socket into
the table. The two files are copies of each other, up to the address check of the lookup.

`BoundTo` is the rule: the socket has the id and the namespace, and it is bound to the address and
to the device, or to any. The lookup for IPv4 follows it (`l2tpIpBindLookup_eq`), so that no two
sockets are bound to the same (`exclusive_ipRun`). The lookup for IPv6 has the comparison of the
addresses the wrong way round: it passes over the sockets that are bound to the address and takes
those that are not. It agrees with the rule exactly if the first socket with the id, the namespace
and the device is bound to any address and a definite address is asked for, or if there is no such
socket (`l2tpIp6BindLookup_eq_iff`). A second socket can therefore be bound to what is bound
already, and the table stays exclusive exactly as long as whoever asks for that is refused for
another reason (`ip_bindings_exclusive`). The lookup for IPv6 also takes every socket for one of the
initial namespace, and it is asked before a link-local address has brought its device with it.

What the kernel answers about an address (its type, whether it belongs to the host) is part of a
call of `bind`.
-/

set_option autoImplicit false
set_option relaxedAutoImplicit false

namespace KernelModules.L2tp

open Foundations

/-! ### Sockets and tables -/

/-- `struct in6_addr`. The unspecified address is zero, as it is in IPv4. -/
abbrev In6Addr := BitVec 128

/-- An L2TP/IP socket: its namespace and connection id, the addresses it receives from and sends
from, the device it is bound to, and whether it still has to be bound (`SOCK_ZAPPED`), is in state
`TCP_CLOSE`, and has been closed. -/
structure IpSock (α : Type) where
  net : ℕ
  connId : UInt32
  rcvSaddr : α
  saddr : α
  boundDevIf : Int32
  zapped : Bool
  tcpClose : Bool
  released : Bool
  deriving DecidableEq, Repr

/-- The sockets of a family, by the order of their creation, and `l2tp_ip_bind_table` or
`l2tp_ip6_bind_table`. -/
structure IpTable (α : Type) where
  socks : List (IpSock α)
  bindTable : List ℕ
  deriving DecidableEq, Repr

/-- The namespace `init_net`. -/
def initNet : ℕ := 0

/-- `bind` succeeds, or with which error it fails. -/
inductive BindResult
  | ok
  | eaddrinuse
  | eaddrnotavail
  | einval
  | enodev
  deriving DecidableEq, Repr

namespace IpTable

variable {α : Type}

/-- The first bound socket that matches. -/
def bindLookup (st : IpTable α) (p : IpSock α → Bool) : Option ℕ :=
  st.bindTable.find? fun i ↦ st.socks[i]?.any p

/-- A new socket, as `l2tp_ip_open` and `l2tp_ip6_open` get it. -/
def openSock [Zero α] (st : IpTable α) (net : ℕ) (boundDevIf : Int32) : IpTable α :=
  { st with
    socks := st.socks ++
      [{ net, connId := 0, rcvSaddr := 0, saddr := 0, boundDevIf, zapped := true, tcpClose := true,
         released := false }] }

/-- Change a socket. -/
def onSock (st : IpTable α) (i : ℕ) (sk : IpSock α) : IpTable α :=
  { st with socks := st.socks.set i sk }

/-- `sk_add_bind_node`, on a socket that has been bound. -/
def addBindNode (st : IpTable α) (i : ℕ) (sk : IpSock α) : IpTable α where
  socks := st.socks.set i { sk with zapped := false }
  bindTable := i :: st.bindTable

/-- `l2tp_ip_close` and `l2tp_ip6_close`. -/
def close (st : IpTable α) (i : ℕ) : IpTable α where
  socks := st.socks.modify i fun sk ↦ { sk with released := true }
  bindTable := st.bindTable.filter (· ≠ i)

/-- A socket that has not been closed. -/
def live (st : IpTable α) (i : ℕ) : Option (IpSock α) := st.socks[i]?.filter (!·.released)

end IpTable

/-! ### IPv4 -/

/-- `l2tp_family`. -/
inductive AddressFamily
  | inet
  | inet6
  | other
  deriving DecidableEq, Repr

/-- What `inet_addr_type` answers. -/
inductive RtnType
  | rtnBroadcast
  | rtnLocal
  | rtnMulticast
  | other
  deriving DecidableEq, Repr

/-- A call of `l2tp_ip_bind`: `struct sockaddr_l2tpip` and its length, what `inet_addr_type` answers
for the address, and `inet->freebind`. -/
structure IpBindCall where
  family : AddressFamily := .inet
  addr : UInt32
  connId : UInt32
  addrLen : ℕ := 16
  chkAddrRet : RtnType := .rtnLocal
  freebind : Bool := false

/-- `sizeof(struct sockaddr_l2tpip)`. -/
def sizeofSockaddrL2tpip : ℕ := 16

/-- The condition in the loop of `__l2tp_ip_bind_lookup`. -/
def ipMatch (net : ℕ) (laddr : UInt32) (dif : Int32) (tunnelId : UInt32) (sk : IpSock UInt32) :
    Bool :=
  sk.connId == tunnelId && sk.net == net && !(sk.rcvSaddr != 0 && sk.rcvSaddr != laddr) &&
    !(sk.boundDevIf != 0 && sk.boundDevIf != dif)

/-- `__l2tp_ip_bind_lookup`. -/
def l2tpIpBindLookup (st : IpTable UInt32) (net : ℕ) (laddr : UInt32) (dif : Int32)
    (tunnelId : UInt32) : Option ℕ :=
  st.bindLookup (ipMatch net laddr dif tunnelId)

/-- `l2tp_ip_bind`. -/
def l2tpIpBind (st : IpTable UInt32) (i : ℕ) (sk : IpSock UInt32) (call : IpBindCall) :
    IpTable UInt32 × BindResult :=
  if !sk.zapped then (st, .einval)
  else if call.addrLen < sizeofSockaddrL2tpip then (st, .einval)
  else if call.family ≠ .inet then (st, .einval)
  else if (l2tpIpBindLookup st sk.net call.addr sk.boundDevIf call.connId).isSome then
    (st, .eaddrinuse)
  else if !sk.tcpClose || call.addrLen < sizeofSockaddrL2tpip then (st, .eaddrinuse)
  else if call.addr ≠ 0 ∧ call.chkAddrRet ≠ .rtnLocal ∧ call.chkAddrRet ≠ .rtnMulticast ∧
      call.chkAddrRet ≠ .rtnBroadcast ∧ call.freebind = false then (st, .eaddrnotavail)
  else
    let sk := if call.addr ≠ 0 then { sk with rcvSaddr := call.addr, saddr := call.addr } else sk
    let sk :=
      if call.chkAddrRet = .rtnMulticast ∨ call.chkAddrRet = .rtnBroadcast then
        { sk with saddr := 0 }
      else sk
    (st.addBindNode i { sk with connId := call.connId }, .ok)

/-! ### IPv6 -/

/-- A call of `l2tp_ip6_bind`: `struct sockaddr_l2tpip6` and its length, and what `ipv6_addr_type`,
`dev_get_by_index_rcu` and `ipv6_chk_addr` answer. -/
structure Ip6BindCall where
  family : AddressFamily := .inet6
  addr : In6Addr
  connId : UInt32
  scopeId : Int32 := 0
  addrLen : ℕ := 32
  addrType : UInt16 := 1
  devFound : Bool := true
  chkAddr : Bool := true

/-- `sizeof(struct sockaddr_l2tpip6)`. -/
def sizeofSockaddrL2tpip6 : ℕ := 32

/-- `sizeof(struct sockaddr_in6)`. -/
def sizeofSockaddrIn6 : ℕ := 28

/-- `IPV6_ADDR_ANY`. -/
def ipv6AddrAny : UInt16 := 0

/-- `IPV6_ADDR_MULTICAST`. -/
def ipv6AddrMulticast : UInt16 := 0x0002

/-- `IPV6_ADDR_LINKLOCAL`. -/
def ipv6AddrLinklocal : UInt16 := 0x0020

/-- `IPV6_ADDR_MAPPED`. -/
def ipv6AddrMapped : UInt16 := 0x1000

/-- The condition in the loop of `__l2tp_ip6_bind_lookup`. The pointer `addr` leads to a field of
the socket and is never null. -/
def ip6Match (net : ℕ) (laddr : In6Addr) (dif : Int32) (tunnelId : UInt32) (sk : IpSock In6Addr) :
    Bool :=
  sk.connId == tunnelId && sk.net == net && !(sk.rcvSaddr == laddr) &&
    !(sk.boundDevIf != 0 && sk.boundDevIf != dif)

/-- `__l2tp_ip6_bind_lookup`. -/
def l2tpIp6BindLookup (st : IpTable In6Addr) (net : ℕ) (laddr : In6Addr) (dif : Int32)
    (tunnelId : UInt32) : Option ℕ :=
  st.bindLookup (ip6Match net laddr dif tunnelId)

/-- The address needs a device. -/
def Ip6BindCall.linkLocal (call : Ip6BindCall) : Bool :=
  call.addrType != ipv6AddrAny && call.addrType &&& ipv6AddrLinklocal != 0

/-- The device of a socket once a link-local address has brought its own. -/
def Ip6BindCall.device (call : Ip6BindCall) (sk : IpSock In6Addr) : Int32 :=
  if call.linkLocal && decide (sizeofSockaddrIn6 ≤ call.addrLen) && call.scopeId != 0 then
    call.scopeId
  else sk.boundDevIf

/-- `l2tp_ip6_bind`. If it fails after a device has come with the address, the socket keeps it. -/
def l2tpIp6Bind (st : IpTable In6Addr) (i : ℕ) (sk : IpSock In6Addr) (call : Ip6BindCall) :
    IpTable In6Addr × BindResult :=
  if !sk.zapped then (st, .einval)
  else if call.family ≠ .inet6 then (st, .einval)
  else if call.addrLen < sizeofSockaddrL2tpip6 then (st, .einval)
  else if call.addrType = ipv6AddrMapped then (st, .eaddrnotavail)
  else if call.addrType &&& ipv6AddrMulticast ≠ 0 then (st, .eaddrnotavail)
  else if (l2tpIp6BindLookup st initNet call.addr sk.boundDevIf call.connId).isSome then
    (st, .eaddrinuse)
  else if !sk.tcpClose then (st, .einval)
  else
    let sk := { sk with boundDevIf := call.device sk }
    if call.linkLocal && sk.boundDevIf == 0 then (st.onSock i sk, .einval)
    else if call.linkLocal && !call.devFound then (st.onSock i sk, .enodev)
    else if call.addrType != ipv6AddrAny && !call.chkAddr then (st.onSock i sk, .eaddrnotavail)
    else
      (st.addBindNode i { sk with rcvSaddr := call.addr, saddr := call.addr,
                                  connId := call.connId }, .ok)

/-! ### Runs -/

/-- What can happen to the sockets of a family. -/
inductive IpEvent (γ : Type)
  | openSock (net : ℕ) (boundDevIf : Int32)
  | bind (i : ℕ) (call : γ)
  | close (i : ℕ)

/-- One event, with the `bind` of the family. A socket that has been closed is not used any more. -/
def ipStep {α γ : Type} [Zero α]
    (bind : IpTable α → ℕ → IpSock α → γ → IpTable α × BindResult) (st : IpTable α) :
    IpEvent γ → IpTable α
  | .openSock net boundDevIf => st.openSock net boundDevIf
  | .bind i call =>
    match st.live i with
    | none => st
    | some sk => (bind st i sk call).1
  | .close i => st.close i

/-- A run from the beginning, for IPv4. -/
def ipRun (events : List (IpEvent IpBindCall)) : IpTable UInt32 :=
  events.foldl (ipStep l2tpIpBind) ⟨[], []⟩

/-- A run from the beginning, for IPv6. -/
def ip6Run (events : List (IpEvent Ip6BindCall)) : IpTable In6Addr :=
  events.foldl (ipStep l2tpIp6Bind) ⟨[], []⟩

/-! ### The rule -/

/-- What a socket is bound to. -/
def IpSock.key {α : Type} (sk : IpSock α) : UInt32 × ℕ × Int32 × α :=
  (sk.connId, sk.net, sk.boundDevIf, sk.rcvSaddr)

/-- No two sockets are bound to the same. -/
def IpTable.Exclusive {α : Type} (st : IpTable α) : Prop :=
  ∀ i ∈ st.bindTable, ∀ j ∈ st.bindTable, i ≠ j → ∀ sk sk', st.socks[i]? = some sk →
    st.socks[j]? = some sk' → sk.key ≠ sk'.key

/-- A socket is bound to an id in a namespace, to an address or to any, and to a device or to
any. -/
def BoundTo {α : Type} [Zero α] (net : ℕ) (laddr : α) (dif : Int32) (tunnelId : UInt32)
    (sk : IpSock α) : Prop :=
  sk.connId = tunnelId ∧ sk.net = net ∧ (sk.rcvSaddr = 0 ∨ sk.rcvSaddr = laddr) ∧
    (sk.boundDevIf = 0 ∨ sk.boundDevIf = dif)

instance {α : Type} [Zero α] [DecidableEq α] (net : ℕ) (laddr : α) (dif : Int32)
    (tunnelId : UInt32) (sk : IpSock α) : Decidable (BoundTo net laddr dif tunnelId sk) :=
  inferInstanceAs (Decidable (_ ∧ _))

/-- The first socket in the table that is bound to what is asked for. -/
def lookupBoundTo {α : Type} [Zero α] [DecidableEq α] (st : IpTable α) (net : ℕ) (laddr : α)
    (dif : Int32) (tunnelId : UInt32) : Option ℕ :=
  st.bindLookup fun sk ↦ decide (BoundTo net laddr dif tunnelId sk)

/-! ### Which lookups follow the rule -/

/-- The lookup for IPv4 finds sockets by the rule. -/
theorem l2tpIpBindLookup_eq (st : IpTable UInt32) (net : ℕ) (laddr : UInt32) (dif : Int32)
    (tunnelId : UInt32) :
    l2tpIpBindLookup st net laddr dif tunnelId = lookupBoundTo st net laddr dif tunnelId := by
  unfold l2tpIpBindLookup lookupBoundTo
  congr 1
  funext sk
  unfold ipMatch BoundTo
  grind

/-- A socket with the id and the namespace, and bound to the device or to any, whatever the
address. -/
def candidate {α : Type} (net : ℕ) (dif : Int32) (tunnelId : UInt32) (sk : IpSock α) : Bool :=
  sk.connId == tunnelId && sk.net == net && !(sk.boundDevIf != 0 && sk.boundDevIf != dif)

/-- The first candidate, if there is one, is bound to any address, and a definite one is asked
for. -/
def FirstTakesAny (st : IpTable In6Addr) (net : ℕ) (laddr : In6Addr) (dif : Int32)
    (tunnelId : UInt32) : Prop :=
  ∀ i, st.bindLookup (candidate net dif tunnelId) = some i →
    laddr ≠ 0 ∧ st.socks[i]?.any fun sk ↦ sk.rcvSaddr == 0

/-- The lookup for IPv6 finds what the rule says exactly if the first candidate is bound to any
address. -/
theorem l2tpIp6BindLookup_eq_iff (st : IpTable In6Addr) (net : ℕ) (laddr : In6Addr) (dif : Int32)
    (tunnelId : UInt32) :
    l2tpIp6BindLookup st net laddr dif tunnelId = lookupBoundTo st net laddr dif tunnelId ↔
      FirstTakesAny st net laddr dif tunnelId := by
  have hsearch := find?_eq_find?_iff
    (p := fun i ↦ st.socks[i]?.any (ip6Match net laddr dif tunnelId))
    (q := fun i ↦ st.socks[i]?.any fun sk ↦ decide (BoundTo net laddr dif tunnelId sk))
    (c := fun i ↦ st.socks[i]?.any (candidate net dif tunnelId))
    (fun i ↦ ?_) (fun i ↦ ?_) (fun i ↦ ?_) st.bindTable
  · refine hsearch.trans (forall₂_congr fun i hfound ↦ ?_)
    have hcandidate := List.find?_some hfound
    cases hsock : st.socks[i]? with
    | none => simp [hsock] at hcandidate
    | some sk =>
      simp only [hsock, Option.any_some, candidate] at hcandidate
      simp only [Option.any_some, ip6Match, BoundTo]
      grind
  all_goals
    cases st.socks[i]? with
    | none => simp
    | some sk =>
      simp only [Option.any_some, candidate, ip6Match, BoundTo]
      grind

/-- What a search has found, if anything, is in the table and bound to what is asked for. -/
def Delivers {α : Type} [Zero α] (st : IpTable α) (net : ℕ) (laddr : α) (dif : Int32)
    (tunnelId : UInt32) (found : Option ℕ) : Prop :=
  ∀ i ∈ found, i ∈ st.bindTable ∧ ∃ sk, st.socks[i]? = some sk ∧ BoundTo net laddr dif tunnelId sk

theorem delivers_lookupBoundTo {α : Type} [Zero α] [DecidableEq α] (st : IpTable α) (net : ℕ)
    (laddr : α) (dif : Int32) (tunnelId : UInt32) :
    Delivers st net laddr dif tunnelId (lookupBoundTo st net laddr dif tunnelId) := by
  intro i hfound
  have hmatch := List.find?_some hfound
  obtain ⟨sk, hsock, hbound⟩ := (Option.any_eq_true _ _).mp hmatch
  exact ⟨List.mem_of_find?_eq_some hfound, sk, hsock, of_decide_eq_true hbound⟩

/-! ### What the operations on a table keep -/

namespace IpTable

variable {α : Type} {st : IpTable α} {i : ℕ} {sk sk' : IpSock α}

/-- The sockets in the table have been bound, and no two of them to the same. -/
structure WellBound (st : IpTable α) : Prop where
  exclusive : st.Exclusive
  listed : ∀ i ∈ st.bindTable, ∃ sk, st.socks[i]? = some sk ∧ sk.zapped = false

theorem WellBound.lt_length (hwell : st.WellBound) (hi : i ∈ st.bindTable) :
    i < st.socks.length := by
  obtain ⟨sk, hsock, -⟩ := hwell.listed i hi
  exact (List.getElem?_eq_some_iff.mp hsock).1

/-- A socket that still has to be bound is not in the table. -/
theorem WellBound.not_mem (hwell : st.WellBound) (hsock : st.socks[i]? = some sk)
    (hzapped : sk.zapped = true) : i ∉ st.bindTable := by
  intro hi
  obtain ⟨sk', hsock', hbound⟩ := hwell.listed i hi
  rw [hsock] at hsock'
  obtain rfl := Option.some.inj hsock'
  rw [hzapped] at hbound
  exact Bool.noConfusion hbound

theorem wellBound_nil : (⟨[], []⟩ : IpTable α).WellBound :=
  ⟨fun _ hi ↦ absurd hi List.not_mem_nil, fun _ hi ↦ absurd hi List.not_mem_nil⟩

/-- A table with the same or fewer sockets in it, each bound as before. -/
theorem WellBound.of_unchanged (hwell : st.WellBound) {st' : IpTable α}
    (htable : ∀ i ∈ st'.bindTable, i ∈ st.bindTable)
    (hsocks : ∀ i ∈ st'.bindTable, ∀ sk, st.socks[i]? = some sk →
      ∃ sk', st'.socks[i]? = some sk' ∧ sk'.key = sk.key ∧ sk'.zapped = sk.zapped) :
    st'.WellBound := by
  have hlisted : ∀ i ∈ st'.bindTable, ∃ sk sk', st.socks[i]? = some sk ∧
      st'.socks[i]? = some sk' ∧ sk'.key = sk.key ∧ sk'.zapped = false := by
    intro i hi
    obtain ⟨sk, hsock, hbound⟩ := hwell.listed i (htable i hi)
    obtain ⟨sk', hsock', hkey, hzapped⟩ := hsocks i hi sk hsock
    exact ⟨sk, sk', hsock, hsock', hkey, hzapped.trans hbound⟩
  constructor
  · intro i hi j hj hij ski skj hski hskj hkey
    obtain ⟨sk, sk', hsock, hsock', hkeyi, -⟩ := hlisted i hi
    obtain ⟨tk, tk', htock, htock', hkeyj, -⟩ := hlisted j hj
    obtain rfl := Option.some.inj (hsock'.symm.trans hski)
    obtain rfl := Option.some.inj (htock'.symm.trans hskj)
    refine hwell.exclusive i (htable i hi) j (htable j hj) hij sk tk hsock htock ?_
    rw [← hkeyi, ← hkeyj, hkey]
  · intro i hi
    obtain ⟨-, sk', -, hsock', -, hbound⟩ := hlisted i hi
    exact ⟨sk', hsock', hbound⟩

theorem WellBound.openSock [Zero α] (hwell : st.WellBound) (net : ℕ) (boundDevIf : Int32) :
    (st.openSock net boundDevIf).WellBound := by
  refine hwell.of_unchanged (fun _ hi ↦ hi) fun i hi sk hsock ↦ ⟨sk, ?_, rfl, rfl⟩
  change (st.socks ++ _)[i]? = some sk
  rw [List.getElem?_append_left (hwell.lt_length hi), hsock]

theorem WellBound.close (hwell : st.WellBound) (i : ℕ) : (st.close i).WellBound := by
  refine hwell.of_unchanged (fun _ hj ↦ List.mem_of_mem_filter hj) fun j hj sk hsock ↦
    ⟨sk, ?_, rfl, rfl⟩
  have hij : j ≠ i := of_decide_eq_true (List.mem_filter.mp hj).2
  change (st.socks.modify i _)[j]? = some sk
  rw [List.getElem?_modify_ne _ _ hij.symm, hsock]

theorem WellBound.onSock (hwell : st.WellBound) (hi : i ∉ st.bindTable) (sk : IpSock α) :
    (st.onSock i sk).WellBound := by
  refine hwell.of_unchanged (fun _ hj ↦ hj) fun j hj sk' hsock ↦ ⟨sk', ?_, rfl, rfl⟩
  have hij : i ≠ j := fun hij ↦ hi (hij ▸ hj)
  change (st.socks.set i sk)[j]? = some sk'
  rw [List.getElem?_set_ne hij, hsock]

/-- A socket goes into the table, bound to what no socket in the table is bound to. -/
theorem WellBound.addBindNode (hwell : st.WellBound) (hlt : i < st.socks.length)
    (hi : i ∉ st.bindTable)
    (hfree : ∀ j ∈ st.bindTable, ∀ sk', st.socks[j]? = some sk' → sk'.key ≠ sk.key) :
    (st.addBindNode i sk).WellBound := by
  have hold : ∀ j ∈ st.bindTable, (st.addBindNode i sk).socks[j]? = st.socks[j]? := by
    intro j hj
    have hij : i ≠ j := fun hij ↦ hi (hij ▸ hj)
    exact List.getElem?_set_ne hij
  have hnew : (st.addBindNode i sk).socks[i]? = some { sk with zapped := false } :=
    List.getElem?_set_self hlt
  constructor
  · intro j hj k hk hjk skj skk hskj hskk hkey
    rcases List.mem_cons.mp hj with rfl | hj'
    · have hk' := (List.mem_cons.mp hk).resolve_left hjk.symm
      rw [hold k hk'] at hskk
      obtain rfl := Option.some.inj (hnew.symm.trans hskj)
      exact hfree k hk' skk hskk hkey.symm
    · rw [hold j hj'] at hskj
      rcases List.mem_cons.mp hk with rfl | hk'
      · obtain rfl := Option.some.inj (hnew.symm.trans hskk)
        exact hfree j hj' skj hskj hkey
      · rw [hold k hk'] at hskk
        exact hwell.exclusive j hj' k hk' hjk skj skk hskj hskk hkey
  · intro j hj
    rcases List.mem_cons.mp hj with rfl | hj
    · exact ⟨_, hnew, rfl⟩
    · rw [hold j hj]
      exact hwell.listed j hj

/-- Nothing in the table matches, if the search comes back empty. -/
theorem bindLookup_isSome_eq_false {p : IpSock α → Bool}
    (hnone : (st.bindLookup p).isSome = false) :
    ∀ j ∈ st.bindTable, ∀ sk, st.socks[j]? = some sk → p sk = false := by
  intro j hj sk hsock
  rw [Option.isSome_eq_false_iff, Option.isNone_iff_eq_none] at hnone
  have hmatch := List.find?_eq_none.mp hnone j hj
  rw [hsock, Option.any_some, Bool.not_eq_true] at hmatch
  exact hmatch

theorem getElem?_of_live (hlive : st.live i = some sk) : st.socks[i]? = some sk :=
  (Option.filter_eq_some_iff.mp hlive).1

end IpTable

/-- What holds of the outcome whether a check fails or not. -/
theorem ite_of {ρ : Type*} {P : ρ → Prop} {check : Prop} [Decidable check] {failed rest : ρ}
    (hfail : P failed) (hpass : ¬check → P rest) : P (if check then failed else rest) := by
  split_ifs with hcheck
  · exact hfail
  · exact hpass hcheck

/-! ### IPv4: bindings are exclusive -/

/-- What `l2tp_ip_bind` can leave behind: nothing has changed, or a socket is bound to what the
lookup has not found. -/
def IpBindLeaves (st : IpTable UInt32) (i : ℕ) (sk : IpSock UInt32) (call : IpBindCall)
    (outcome : IpTable UInt32 × BindResult) : Prop :=
  outcome.1 = st ∨
    sk.zapped = true ∧
      (l2tpIpBindLookup st sk.net call.addr sk.boundDevIf call.connId).isSome = false ∧
      ∃ sk', outcome.1 = st.addBindNode i sk' ∧
        sk'.key = (call.connId, sk.net, sk.boundDevIf,
          if call.addr ≠ 0 then call.addr else sk.rcvSaddr)

theorem ipBindLeaves (st : IpTable UInt32) (i : ℕ) (sk : IpSock UInt32) (call : IpBindCall) :
    IpBindLeaves st i sk call (l2tpIpBind st i sk call) := by
  have hsame (result : BindResult) : IpBindLeaves st i sk call (st, result) := Or.inl rfl
  unfold l2tpIpBind
  refine ite_of (hsame _) fun hzapped ↦ ite_of (hsame _) fun _ ↦ ite_of (hsame _) fun _ ↦
    ite_of (hsame _) fun hused ↦ ite_of (hsame _) fun _ ↦ ite_of (hsame _) fun _ ↦ ?_
  refine Or.inr ⟨by simpa using hzapped, by simpa using hused, _, rfl, ?_⟩
  by_cases hany : call.addr ≠ 0
  · simp only [if_pos hany, IpSock.key]
    split_ifs <;> rfl
  · simp only [if_neg hany, IpSock.key]
    split_ifs <;> rfl

/-- A socket that still has to be bound receives from no particular address. -/
def IpTable.Fresh (st : IpTable UInt32) : Prop :=
  ∀ sk ∈ st.socks, sk.zapped = true → sk.rcvSaddr = 0

theorem IpTable.Fresh.close {st : IpTable UInt32} (hfresh : st.Fresh) (i : ℕ) :
    (st.close i).Fresh := by
  intro sk hsk hzapped
  obtain ⟨j, hsock⟩ := List.mem_iff_getElem?.mp hsk
  obtain ⟨sk', hsock', rfl⟩ : ∃ sk', st.socks[j]? = some sk' ∧
      (if i = j then { sk' with released := true } else sk') = sk := by
    rw [IpTable.close, List.getElem?_modify] at hsock
    exact Option.map_eq_some_iff.mp hsock
  have hstart := hfresh sk' (List.mem_of_getElem? hsock')
  split_ifs at hzapped ⊢ with hij
  · exact hstart hzapped
  · exact hstart hzapped

theorem IpTable.Fresh.addBindNode {st : IpTable UInt32} (hfresh : st.Fresh) (i : ℕ)
    (sk : IpSock UInt32) : (st.addBindNode i sk).Fresh := by
  intro sk' hsk' hzapped
  rcases List.mem_or_eq_of_mem_set hsk' with hsk' | rfl
  · exact hfresh sk' hsk' hzapped
  · exact Bool.noConfusion hzapped

/-- What `l2tp_ip_bind` binds a socket to, nobody else is bound to: the lookup would have found
them. -/
theorem wellBound_l2tpIpBind {st : IpTable UInt32} (hwell : st.WellBound) (hfresh : st.Fresh)
    {i : ℕ} {sk : IpSock UInt32} (hsock : st.socks[i]? = some sk) (call : IpBindCall) :
    (l2tpIpBind st i sk call).1.WellBound ∧ (l2tpIpBind st i sk call).1.Fresh := by
  rcases ipBindLeaves st i sk call with hsame | ⟨hzapped, hnone, sk', hbound, hkey⟩
  · rw [hsame]
    exact ⟨hwell, hfresh⟩
  · have haddr : (if call.addr ≠ 0 then call.addr else sk.rcvSaddr) = call.addr := by
      split_ifs with hany
      · rfl
      · rw [hfresh sk (List.mem_of_getElem? hsock) hzapped, not_not.mp hany]
    rw [haddr] at hkey
    rw [hbound]
    refine ⟨hwell.addBindNode (List.getElem?_eq_some_iff.mp hsock).1
      (hwell.not_mem hsock hzapped) fun j hj other hother hsame ↦ ?_, hfresh.addBindNode i sk'⟩
    have hmiss := IpTable.bindLookup_isSome_eq_false hnone j hj other hother
    rw [hkey, IpSock.key, Prod.mk.injEq, Prod.mk.injEq, Prod.mk.injEq] at hsame
    obtain ⟨hid, hnet, hdev, hrcv⟩ := hsame
    simp [ipMatch, hid, hnet, hdev, hrcv] at hmiss

theorem wellBound_ipStep {st : IpTable UInt32} (hwell : st.WellBound) (hfresh : st.Fresh)
    (event : IpEvent IpBindCall) :
    (ipStep l2tpIpBind st event).WellBound ∧ (ipStep l2tpIpBind st event).Fresh := by
  cases event with
  | openSock net boundDevIf =>
    refine ⟨hwell.openSock net boundDevIf, fun sk hsk hzapped ↦ ?_⟩
    rcases List.mem_append.mp hsk with hsk | hsk
    · exact hfresh sk hsk hzapped
    · rw [List.mem_singleton.mp hsk]
  | bind i call =>
    cases hlive : st.live i with
    | none => simpa only [ipStep, hlive] using ⟨hwell, hfresh⟩
    | some sk =>
      simp only [ipStep, hlive]
      exact wellBound_l2tpIpBind hwell hfresh (IpTable.getElem?_of_live hlive) call
  | close i => exact ⟨hwell.close i, hfresh.close i⟩

/-- After any run, no two IPv4 sockets are bound to the same. -/
theorem exclusive_ipRun (events : List (IpEvent IpBindCall)) : (ipRun events).Exclusive := by
  have hrun : (ipRun events).WellBound ∧ (ipRun events).Fresh := by
    refine List.foldlRecOn (motive := fun st ↦ st.WellBound ∧ st.Fresh) events
      (ipStep l2tpIpBind) ?_ fun st hst event _ ↦ ?_
    · exact ⟨IpTable.wellBound_nil, fun _ hsk ↦ absurd hsk List.not_mem_nil⟩
    · exact wellBound_ipStep hst.1 hst.2 event
  exact hrun.1.exclusive

/-! ### IPv6: bindings are exclusive while nobody is bound to a taken one -/

/-- What `l2tp_ip6_bind` can leave behind: it fails and nothing has changed, or a device has been
left on a socket, or the socket is bound. -/
def Ip6BindLeaves (st : IpTable In6Addr) (i : ℕ) (sk : IpSock In6Addr) (call : Ip6BindCall)
    (outcome : IpTable In6Addr × BindResult) : Prop :=
  outcome.2 ≠ .ok ∧ outcome.1 = st ∨
    sk.zapped = true ∧ ∃ sk', outcome.2 ≠ .ok ∧ outcome.1 = st.onSock i sk' ∨
      outcome.2 = .ok ∧ outcome.1 = st.addBindNode i sk' ∧
        sk'.key = (call.connId, sk.net, call.device sk, call.addr)

theorem ip6BindLeaves (st : IpTable In6Addr) (i : ℕ) (sk : IpSock In6Addr) (call : Ip6BindCall) :
    Ip6BindLeaves st i sk call (l2tpIp6Bind st i sk call) := by
  have hsame {error : BindResult} (herror : error ≠ .ok) :
      Ip6BindLeaves st i sk call (st, error) := Or.inl ⟨herror, rfl⟩
  unfold l2tpIp6Bind
  refine ite_of (hsame nofun) fun hzapped ↦ ite_of (hsame nofun) fun _ ↦
    ite_of (hsame nofun) fun _ ↦ ite_of (hsame nofun) fun _ ↦ ite_of (hsame nofun) fun _ ↦
    ite_of (hsame nofun) fun _ ↦ ite_of (hsame nofun) fun _ ↦ ?_
  have hunbound : sk.zapped = true := by simpa using hzapped
  -- from here on a failure leaves the device on the socket
  have hdevice {error : BindResult} (herror : error ≠ .ok) : Ip6BindLeaves st i sk call
      (st.onSock i { sk with boundDevIf := call.device sk }, error) :=
    Or.inr ⟨hunbound, _, Or.inl ⟨herror, rfl⟩⟩
  refine ite_of (hdevice nofun) fun _ ↦ ite_of (hdevice nofun) fun _ ↦
    ite_of (hdevice nofun) fun _ ↦ ?_
  exact Or.inr ⟨hunbound, _, Or.inr ⟨rfl, rfl, rfl⟩⟩

/-- A socket asks for what nobody in the table is bound to, the device that comes with the address
included, or its `bind` is refused. -/
def BindsFree (st : IpTable In6Addr) : IpEvent Ip6BindCall → Prop
  | .bind i call => ∀ sk, st.live i = some sk → (l2tpIp6Bind st i sk call).2 = .ok →
      ∀ j ∈ st.bindTable, ∀ other, st.socks[j]? = some other →
        other.key ≠ (call.connId, sk.net, call.device sk, call.addr)
  | _ => True

theorem wellBound_ip6Step (st : IpTable In6Addr) (event : IpEvent Ip6BindCall)
    (hwell : st.WellBound) (hfree : BindsFree st event) :
    (ipStep l2tpIp6Bind st event).WellBound := by
  cases event with
  | openSock net boundDevIf => exact hwell.openSock net boundDevIf
  | bind i call =>
    cases hlive : st.live i with
    | none => simpa only [ipStep, hlive] using hwell
    | some sk =>
      simp only [ipStep, hlive]
      have hsock := IpTable.getElem?_of_live hlive
      rcases ip6BindLeaves st i sk call with
        ⟨-, hsame⟩ | ⟨hzapped, sk', ⟨-, hleft⟩ | ⟨hok, hbound, hkey⟩⟩
      · rwa [hsame]
      · rw [hleft]
        exact hwell.onSock (hwell.not_mem hsock hzapped) sk'
      · rw [hbound]
        refine hwell.addBindNode (List.getElem?_eq_some_iff.mp hsock).1
          (hwell.not_mem hsock hzapped) ?_
        rw [hkey]
        exact hfree sk hlive hok
  | close i => exact hwell.close i

/-- If a socket is bound to what is taken, the table is not exclusive after that. -/
theorem bindsFree_of_exclusive {st : IpTable In6Addr} {event : IpEvent Ip6BindCall}
    (hwell : st.WellBound) (hexclusive : (ipStep l2tpIp6Bind st event).Exclusive) :
    BindsFree st event := by
  cases event with
  | openSock net boundDevIf => trivial
  | close i => trivial
  | bind i call =>
    intro sk hlive hok j hj other hother htaken
    simp only [ipStep, hlive] at hexclusive
    have hsock := IpTable.getElem?_of_live hlive
    rcases ip6BindLeaves st i sk call with
      ⟨hfailed, -⟩ | ⟨hzapped, sk', ⟨hfailed, -⟩ | ⟨-, hbound, hkey⟩⟩
    · exact hfailed hok
    · exact hfailed hok
    · have hij : i ≠ j := fun hij ↦ hwell.not_mem hsock hzapped (hij ▸ hj)
      rw [hbound] at hexclusive
      refine hexclusive i List.mem_cons_self j (List.mem_cons_of_mem i hj) hij
        { sk' with zapped := false } other ?_ ?_ ?_
      · exact List.getElem?_set_self (List.getElem?_eq_some_iff.mp hsock).1
      · exact (List.getElem?_set_ne hij).trans hother
      · exact hkey.trans htaken.symm

/-- The table is exclusive at every moment of a run exactly if nobody is bound to what is taken. -/
theorem exclusive_ip6Run_iff (events : List (IpEvent Ip6BindCall)) :
    (∀ k, (ip6Run (events.take k)).Exclusive) ↔
      Along (ipStep l2tpIp6Bind) BindsFree ⟨[], []⟩ events := by
  have hstep (st : IpTable In6Addr) (event : IpEvent Ip6BindCall) (hwell : st.WellBound) :
      (ipStep l2tpIp6Bind st event).Exclusive ↔ BindsFree st event :=
    ⟨bindsFree_of_exclusive hwell,
      fun hfree ↦ (wellBound_ip6Step st event hwell hfree).exclusive⟩
  exact (forall_take_iff_along IpTable.wellBound_nil.exclusive events).trans
    (along_congr hstep wellBound_ip6Step IpTable.wellBound_nil events)

/-! ### The statement for both families -/

/-- Bindings of IPv4 sockets are exclusive after every run, and those of IPv6 sockets throughout a
run exactly if whoever asks for what is taken is refused. The lookup for IPv4 finds by the rule, and
so a socket that is bound to the address. The lookup for IPv6 does so exactly if the first candidate
is bound to any address and a definite one is asked for. -/
theorem ip_bindings_exclusive (events : List (IpEvent IpBindCall))
    (events6 : List (IpEvent Ip6BindCall)) :
    (ipRun events).Exclusive ∧
      ((∀ k, (ip6Run (events6.take k)).Exclusive) ↔
        Along (ipStep l2tpIp6Bind) BindsFree ⟨[], []⟩ events6) ∧
      (∀ st net laddr dif tunnelId,
        l2tpIpBindLookup st net laddr dif tunnelId = lookupBoundTo st net laddr dif tunnelId ∧
          Delivers st net laddr dif tunnelId (l2tpIpBindLookup st net laddr dif tunnelId)) ∧
      ∀ st net laddr dif tunnelId,
        (l2tpIp6BindLookup st net laddr dif tunnelId = lookupBoundTo st net laddr dif tunnelId ↔
          FirstTakesAny st net laddr dif tunnelId) ∧
        (FirstTakesAny st net laddr dif tunnelId →
          Delivers st net laddr dif tunnelId (l2tpIp6BindLookup st net laddr dif tunnelId)) := by
  refine ⟨exclusive_ipRun events, exclusive_ip6Run_iff events6, ?_, ?_⟩
  · intro st net laddr dif tunnelId
    have hrule := l2tpIpBindLookup_eq st net laddr dif tunnelId
    exact ⟨hrule, hrule ▸ delivers_lookupBoundTo st net laddr dif tunnelId⟩
  · intro st net laddr dif tunnelId
    have hrule := l2tpIp6BindLookup_eq_iff st net laddr dif tunnelId
    refine ⟨hrule, fun hfirst ↦ ?_⟩
    rw [hrule.mpr hfirst]
    exact delivers_lookupBoundTo st net laddr dif tunnelId

/-- Two sockets of the initial namespace, one bound to id 1 at the address one and the other, by the
second call, to the id and the address given. -/
def bindTwice (connId : UInt32) (addr : In6Addr) : List (IpEvent Ip6BindCall) :=
  [.openSock initNet 0, .bind 0 { addr := 1, connId := 1 },
    .openSock initNet 0, .bind 1 { addr, connId }]

/-- Two sockets are bound to different ids. -/
theorem ip_bindings_exclusive_bindTwice :
    Along (ipStep l2tpIp6Bind) BindsFree ⟨[], []⟩ (bindTwice 2 1) ∧
      (ip6Run (bindTwice 2 1)).bindTable = [1, 0] ∧
      ∀ k, (ip6Run ((bindTwice 2 1).take k)).Exclusive := by
  have hfree : Along (ipStep l2tpIp6Bind) BindsFree ⟨[], []⟩ (bindTwice 2 1) := by
    refine ⟨trivial, fun _ _ _ j hj ↦ absurd hj List.not_mem_nil, trivial, ?_, trivial⟩
    intro sk hlive _ j hj other hother
    obtain rfl : j = 0 := List.mem_singleton.mp hj
    obtain rfl := Option.some.inj hother
    intro hkey
    have hid : (1 : UInt32) = 2 := congrArg Prod.fst hkey
    exact absurd hid (by decide)
  exact ⟨hfree, rfl, (ip_bindings_exclusive [] (bindTwice 2 1)).2.1.mpr hfree⟩

/-- A second socket is bound to the id and the address of the first, and the lookup for IPv6 finds
neither of them at that address. -/
theorem not_exclusive_bindTwice :
    ¬(ip6Run (bindTwice 1 1)).Exclusive ∧
      l2tpIp6BindLookup (ip6Run (bindTwice 1 1)) initNet 1 0 1 = none ∧
      lookupBoundTo (ip6Run (bindTwice 1 1)) initNet 1 0 1 = some 1 := by
  refine ⟨fun hex ↦ ?_, by decide, by decide⟩
  exact hex 0 (by decide) 1 (by decide) (by decide) _ _ rfl rfl rfl

end KernelModules.L2tp
