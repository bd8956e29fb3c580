import KernelModules.NetlinkServer.Server

/-!
# What a carrier request does

A request names a device by its VLAN or port channel number and by a VRF. The server looks for the
device in the namespace of the VRF, then in every namespace, and switches its carrier. This module
says what that comes to for every collection of namespaces: which devices there are afterwards, at
which place one of them has changed (`SetsCarrier`), and what the reply says about it.

VRF names resolve by a partial map `vrfs` from names to namespaces (`Resolves`): the file of the
name in the message is opened, and a name does not resolve if its file is no namespace. Nothing is
said here of a file that cannot be opened, for then `get_ptr_by_vrf` uses the error pointer as a
file.
One lemma says what the search for a device leaves behind (`setCarrierNetdev_served`), and
`carrier_request_effect` is the same for a whole message. VLAN 1 is answered with 0 without a
search, whether or not there is such a VRF or such a device (`vlanOne_not_refused`).
-/

set_option autoImplicit false
set_option relaxedAutoImplicit false

namespace KernelModules.NetlinkServer

open Foundations

/-! ### Devices and their places -/

/-- The device at a place, that is, a namespace and a position among its devices. -/
def Kernel.deviceAt (kernel : Kernel) (place : ℕ × ℕ) : Option NetDevice :=
  kernel.nets[place.1]?.bind fun n ↦ n.devices[place.2]?

/-- At a place there is a device of a given name. -/
def Kernel.Named (kernel : Kernel) (place : ℕ × ℕ) (name : List Char) : Prop :=
  ∃ d, kernel.deviceAt place = some d ∧ d.name = name

/-- A namespace has a device of a given name. -/
def Kernel.HasDevice (kernel : Kernel) (net : ℕ) (name : List Char) : Prop :=
  ∃ i, kernel.Named (net, i) name

/-- No two devices of a namespace have the same name. -/
def Kernel.NamesUnique (kernel : Kernel) : Prop :=
  ∀ n ∈ kernel.nets, (n.devices.map (·.name)).Nodup

/-- The carrier of the device at a place is set, and every other device is as it was. -/
structure SetsCarrier (before after : Kernel) (place : ℕ × ℕ) (up : Bool) : Prop where
  here : after.deviceAt place = (before.deviceAt place).map fun d ↦ { d with carrier := up }
  elsewhere : ∀ other, other ≠ place → after.deviceAt other = before.deviceAt other

theorem hasDevice_iff {kernel : Kernel} {net : ℕ} {n : Net} (hnet : kernel.nets[net]? = some n)
    (name : List Char) : kernel.HasDevice net name ↔ ∃ d ∈ n.devices, d.name = name := by
  simp only [Kernel.HasDevice, Kernel.Named, Kernel.deviceAt, hnet, Option.bind_some,
    List.mem_iff_getElem?]
  constructor
  · rintro ⟨i, d, hd, hname⟩
    exact ⟨d, ⟨i, hd⟩, hname⟩
  · rintro ⟨d, ⟨i, hd⟩, hname⟩
    exact ⟨i, d, hd, hname⟩

theorem lt_length_of_hasDevice {kernel : Kernel} {net : ℕ} {name : List Char}
    (hdevice : kernel.HasDevice net name) : net < kernel.nets.length := by
  obtain ⟨i, d, hd, -⟩ := hdevice
  obtain ⟨n, hnet, -⟩ := Option.bind_eq_some_iff.mp hd
  exact (List.getElem?_eq_some_iff.mp hnet).1

theorem Kernel.NamesUnique.position_eq {kernel : Kernel} (hunique : kernel.NamesUnique)
    {net i j : ℕ} {name : List Char} (hi : kernel.Named (net, i) name)
    (hj : kernel.Named (net, j) name) : i = j := by
  obtain ⟨d, hd, hname⟩ := hi
  obtain ⟨d', hd', hname'⟩ := hj
  obtain ⟨n, hnet, hdevice⟩ := Option.bind_eq_some_iff.mp hd
  obtain ⟨n', hnet', hdevice'⟩ := Option.bind_eq_some_iff.mp hd'
  obtain rfl := Option.some.inj (hnet.symm.trans hnet')
  have hlt : i < (n.devices.map (·.name)).length := by
    rw [List.length_map]
    exact (List.getElem?_eq_some_iff.mp hdevice).1
  refine (List.getElem?_inj hlt (hunique n (List.mem_of_getElem? hnet))).mp ?_
  rw [List.getElem?_map, List.getElem?_map, hdevice, hdevice', Option.map_some, Option.map_some,
    hname, hname']

/-- Only the devices of a kernel decide which names it has. -/
theorem hasDevice_congr {before after : Kernel} (hsame : after.deviceAt = before.deviceAt) (net : ℕ)
    (name : List Char) : after.HasDevice net name ↔ before.HasDevice net name := by
  simp only [Kernel.HasDevice, Kernel.Named, hsame]

/-- What is set in a kernel with the same devices. -/
theorem SetsCarrier.of_same {before middle after : Kernel} {place : ℕ × ℕ} {up : Bool}
    (hsets : SetsCarrier middle after place up) (hsame : middle.deviceAt = before.deviceAt) :
    SetsCarrier before after place up :=
  ⟨hsame ▸ hsets.here, hsame ▸ hsets.elsewhere⟩

/-! ### What the functions on the way leave alone -/

@[simp] theorem deviceAt_openFile (kernel : Kernel) :
    (openFile kernel).deviceAt = kernel.deviceAt := rfl

@[simp] theorem deviceAt_filpClose (kernel : Kernel) :
    (filpClose kernel).deviceAt = kernel.deviceAt := rfl

@[simp] theorem deviceAt_countErr (kernel : Kernel) :
    (countErr kernel).deviceAt = kernel.deviceAt := rfl

@[simp] theorem deviceAt_countNorm (kernel : Kernel) :
    (countNorm kernel).deviceAt = kernel.deviceAt := rfl

@[simp] theorem deviceAt_getNet (kernel : Kernel) (net : ℕ) :
    (getNet kernel net).deviceAt = kernel.deviceAt := by
  funext place
  simp only [Kernel.deviceAt, getNet, List.getElem?_modify]
  cases kernel.nets[place.1]? with
  | none => rfl
  | some n => by_cases hnet : net = place.1 <;> simp [hnet]

/-! ### The search for a device -/

theorem switchCarrier_eq_none_iff (kernel : Kernel) (name : List Char) (up : Bool) (net : ℕ) :
    switchCarrier kernel name up net = none ↔ ¬kernel.HasDevice net name := by
  rw [switchCarrier]
  cases hnet : kernel.nets[net]? with
  | none =>
    have hlength := List.getElem?_eq_none_iff.mp hnet
    exact iff_of_true rfl fun hdevice ↦ absurd (lt_length_of_hasDevice hdevice) (by omega)
  | some n =>
    rw [hasDevice_iff hnet]
    dsimp only
    cases hfind : n.devices.findIdx? (·.name = name) with
    | none => simpa using hfind
    | some i =>
      obtain ⟨hi, hname, -⟩ := List.findIdx?_eq_some_iff_getElem.mp hfind
      have hhas : ∃ d ∈ n.devices, d.name = name :=
        ⟨n.devices[i], List.getElem_mem hi, of_decide_eq_true hname⟩
      exact iff_of_false (Option.some_ne_none _) (not_not.mpr hhas)

/-- A carrier that is switched is that of a device with the name. -/
theorem exists_of_switchCarrier {kernel after : Kernel} {name : List Char} {up : Bool} {net : ℕ}
    (hswitch : switchCarrier kernel name up net = some after) :
    ∃ n i d, kernel.nets[net]? = some n ∧ n.devices[i]? = some d ∧ d.name = name ∧
      after = { kernel with
        nets := kernel.nets.set net
          { n with devices := n.devices.modify i fun d ↦ { d with carrier := up } } } := by
  rw [switchCarrier] at hswitch
  cases hnet : kernel.nets[net]? with
  | none => simp [hnet] at hswitch
  | some n =>
    simp only [hnet] at hswitch
    cases hfind : n.devices.findIdx? (·.name = name) with
    | none => simp [hfind] at hswitch
    | some i =>
      simp only [hfind] at hswitch
      obtain ⟨hi, hname, -⟩ := List.findIdx?_eq_some_iff_getElem.mp hfind
      exact ⟨n, i, n.devices[i], rfl, List.getElem?_eq_getElem hi, of_decide_eq_true hname,
        (Option.some.inj hswitch).symm⟩

theorem setsCarrier_switchCarrier {kernel after : Kernel} {name : List Char} {up : Bool} {net : ℕ}
    (hswitch : switchCarrier kernel name up net = some after) :
    ∃ i, kernel.Named (net, i) name ∧ SetsCarrier kernel after (net, i) up := by
  obtain ⟨n, i, d, hnet, hdevice, hname, rfl⟩ := exists_of_switchCarrier hswitch
  have hlt := (List.getElem?_eq_some_iff.mp hnet).1
  refine ⟨i, ⟨d, ?_, hname⟩, ?_, ?_⟩
  · rw [Kernel.deviceAt, hnet, Option.bind_some, hdevice]
  · simp only [Kernel.deviceAt, hnet, List.getElem?_set_self hlt, Option.bind_some,
      List.getElem?_modify_eq, Option.map_eq_map]
  · rintro ⟨otherNet, j⟩ hother
    by_cases hotherNet : net = otherNet
    · subst hotherNet
      have hij : i ≠ j := fun hij ↦ hother (hij ▸ rfl)
      simp only [Kernel.deviceAt, hnet, List.getElem?_set_self hlt, Option.bind_some,
        List.getElem?_modify_ne _ _ hij]
    · simp only [Kernel.deviceAt, List.getElem?_set_ne hotherNet]

/-- The VRF of a name resolves by the partial map: its file is opened, and behind it is the
namespace of the map, or no namespace if the name is not in the map. An empty name is not looked
up. -/
def Resolves (filpOpen : List Char → FilpOpen) (vrfs : List Char → Option ℕ) (name : List Char) :
    Prop :=
  name ≠ [] → filpOpen ((netnsRunDir ++ '/' :: name).take 511) = .file (vrfs name)

theorem getPtrByVrf_of_resolves {filpOpen : List Char → FilpOpen} {vrfs : List Char → Option ℕ}
    {name : List Char} (hvrf : Resolves filpOpen vrfs name) (hname : name ≠ []) (kernel : Kernel) :
    ∃ after, getPtrByVrf filpOpen kernel name = some (after, vrfs name) ∧
      after.deviceAt = kernel.deviceAt := by
  rw [getPtrByVrf, hvrf hname]
  cases vrfs name with
  | none => exact ⟨_, rfl, by simp⟩
  | some net => exact ⟨_, rfl, by simp⟩

/-- The namespace a request names: `init_net` for an empty name. -/
def requestedNet (vrfs : List Char → Option ℕ) (vrfName : List Char) : Option ℕ :=
  if vrfName = [] then some 0 else vrfs vrfName

/-- What a search for a device in a namespace leaves behind, with its answer: one device of the name
is set, in the namespace if it has one, or there is none to be set. -/
inductive Served (before : Kernel) (requested : Option ℕ) (name : List Char) (up : Bool)
    (after : Kernel) : UInt16 → Prop
  | switched (net : ℕ) (place : ℕ × ℕ) (hrequested : requested = some net)
      (hnamed : before.Named place name) (hsets : SetsCarrier before after place up)
      (hnet : before.HasDevice net name → place.1 = net) :
      Served before requested name up after 0
  | missing (hsame : after.deviceAt = before.deviceAt)
      (hmissing : requested = none ∨ ∀ net, ¬before.HasDevice net name) :
      Served before requested name up after netlinkServErr

/-- The search in every namespace finds nothing exactly if no namespace has the device. -/
theorem findSome?_switchCarrier_eq_none_iff (kernel : Kernel) (name : List Char) (up : Bool) :
    (List.range kernel.nets.length).findSome? (switchCarrier kernel name up) = none ↔
      ∀ net, ¬kernel.HasDevice net name := by
  simp only [List.findSome?_eq_none_iff, List.mem_range, switchCarrier_eq_none_iff]
  constructor
  · intro hall net hdevice
    exact hall net (lt_length_of_hasDevice hdevice) hdevice
  · intro hall net _
    exact hall net

/-- What `set_carrier_netdev` does in a kernel in which the namespace has been looked up: there is
no namespace, the device is switched there or, since it is not there, in another one, or there is no
device. -/
inductive Searched (kernel : Kernel) (name : List Char) (up : Bool) :
    Option ℕ → Kernel → UInt16 → Prop
  | noNet : Searched kernel name up none kernel netlinkServErr
  | here {net : ℕ} {after : Kernel} (hswitch : switchCarrier kernel name up net = some after) :
      Searched kernel name up (some net) after 0
  | elsewhere {net : ℕ} (habsent : ¬kernel.HasDevice net name) {found : ℕ} {after : Kernel}
      (hswitch : switchCarrier (countErr kernel) name up found = some after) :
      Searched kernel name up (some net) after 0
  | nowhere {net : ℕ} (habsent : ∀ other, ¬kernel.HasDevice other name) :
      Searched kernel name up (some net) kernel netlinkServErr

theorem searched_setCarrierNetdev {filpOpen : List Char → FilpOpen} {kernel middle : Kernel}
    {vrfName : List Char} {net : Option ℕ}
    (hresolved : (if vrfName = [] then some (kernel, some 0)
      else getPtrByVrf filpOpen kernel vrfName) = some (middle, net))
    (name : List Char) (up : Bool) :
    ∃ after err, setCarrierNetdev filpOpen kernel name vrfName up = some (after, err) ∧
      Searched middle name up net after err := by
  rw [setCarrierNetdev, hresolved]
  cases net with
  | none => exact ⟨middle, _, rfl, .noNet⟩
  | some net =>
    dsimp only
    cases hswitch : switchCarrier middle name up net with
    | some after => exact ⟨after, 0, rfl, .here hswitch⟩
    | none =>
      dsimp only
      cases hsearch : (List.range middle.nets.length).findSome?
          (switchCarrier (countErr middle) name up) with
      | some after =>
        obtain ⟨found, -, hfound⟩ := List.exists_of_findSome?_eq_some hsearch
        have habsent := (switchCarrier_eq_none_iff middle name up net).mp hswitch
        exact ⟨after, 0, rfl, .elsewhere habsent hfound⟩
      | none =>
        have habsent := (findSome?_switchCarrier_eq_none_iff (countErr middle) name up).mp hsearch
        exact ⟨middle, _, rfl, .nowhere habsent⟩

theorem setCarrierNetdev_served {filpOpen : List Char → FilpOpen} {vrfs : List Char → Option ℕ}
    {vrfName : List Char} (hvrf : Resolves filpOpen vrfs vrfName) (kernel : Kernel)
    (name : List Char) (up : Bool) :
    ∃ after err, setCarrierNetdev filpOpen kernel name vrfName up = some (after, err) ∧
      Served kernel (requestedNet vrfs vrfName) name up after err := by
  obtain ⟨middle, hresolved, hsame⟩ : ∃ middle,
      (if vrfName = [] then some (kernel, some 0) else getPtrByVrf filpOpen kernel vrfName) =
        some (middle, requestedNet vrfs vrfName) ∧ middle.deviceAt = kernel.deviceAt := by
    rw [requestedNet]
    split_ifs with hempty
    · exact ⟨kernel, rfl, rfl⟩
    · exact getPtrByVrf_of_resolves hvrf hempty kernel
  obtain ⟨after, err, hnetdev, hsearched⟩ := searched_setCarrierNetdev hresolved name up
  refine ⟨after, err, hnetdev, ?_⟩
  generalize requestedNet vrfs vrfName = requested at hsearched ⊢
  cases hsearched with
  | noNet => exact .missing hsame (Or.inl rfl)
  | here hswitch =>
    obtain ⟨i, ⟨d, hd, hname⟩, hsets⟩ := setsCarrier_switchCarrier hswitch
    exact .switched _ _ rfl ⟨d, hsame ▸ hd, hname⟩ (hsets.of_same hsame) fun _ ↦ rfl
  | elsewhere habsent hswitch =>
    obtain ⟨i, ⟨d, hd, hname⟩, hsets⟩ := setsCarrier_switchCarrier hswitch
    rw [hasDevice_congr hsame] at habsent
    exact .switched _ _ rfl ⟨d, hsame ▸ hd, hname⟩ (hsets.of_same hsame)
      fun hdevice ↦ absurd hdevice habsent
  | nowhere habsent =>
    simp only [hasDevice_congr hsame] at habsent
    exact .missing hsame (Or.inr habsent)

/-! ### Requests -/

/-- The device a request is about, if the command is known and the number is in its range. -/
def NlMsg.wanted (message : NlMsg) : Option (List Char) :=
  if message.cmd = setVlanCarrier then
    if 1 ≤ message.number ∧ message.number ≤ 4094 then
      some ("vlan.".toList ++ Nat.toDigits 10 message.number.toNat)
    else none
  else if message.cmd = setPortChannelCarrier then
    if 1 ≤ message.number ∧ message.number ≤ 12 then
      some ("po".toList ++ Nat.toDigits 10 message.number.toNat)
    else none
  else none

/-- A request for VLAN 1. -/
def NlMsg.ForVlanOne (message : NlMsg) : Prop :=
  message.cmd = setVlanCarrier ∧ message.number = 1

/-- A request that is answered with an error: the command is unknown or the number out of range, or
it is not for VLAN 1, and its VRF does not resolve or no namespace has the device. -/
def Refused (vrfs : List Char → Option ℕ) (kernel : Kernel) (message : NlMsg) : Prop :=
  message.wanted = none ∨
    ¬message.ForVlanOne ∧ (message.vrfName ≠ [] ∧ vrfs message.vrfName = none ∨
      ∃ name ∈ message.wanted, ∀ net, ¬kernel.HasDevice net name)

/-- The names of devices fit into `IFNAMSIZ`. -/
theorem deviceName_eq {stem : List Char} (hstem : stem.length ≤ 10) (number : UInt16) :
    deviceName stem number = stem ++ Nat.toDigits 10 number.toNat := by
  have hdigits : (Nat.toDigits 10 number.toNat).length ≤ 5 := by
    rw [Nat.length_toDigits_le_iff (by decide) (by decide)]
    have hlt := number.toNat_lt
    omega
  rw [deviceName, List.take_of_length_le]
  rw [List.length_append]
  omega

theorem out_of_range_iff (message : NlMsg) (last : UInt16) :
    (message.number < 1 ∨ last < message.number) ↔
      ¬(1 ≤ message.number ∧ message.number ≤ last) := by
  rw [not_and_or, UInt16.not_le, UInt16.not_le]

/-- What the server does with a request: it refuses it, it has nothing to do for VLAN 1, or it looks
for the device. -/
theorem handleRequest_cases (filpOpen : List Char → FilpOpen) (kernel : Kernel) (message : NlMsg) :
    message.wanted = none ∧
        handleRequest filpOpen kernel message = some (kernel, netlinkServErr) ∨
      message.ForVlanOne ∧ message.wanted ≠ none ∧
        handleRequest filpOpen kernel message = some (kernel, 0) ∨
      ∃ name, message.wanted = some name ∧ ¬message.ForVlanOne ∧
        handleRequest filpOpen kernel message =
          setCarrierNetdev filpOpen kernel name message.vrfName (message.isUp ≠ 0) := by
  have hrange := out_of_range_iff message
  rw [handleRequest, NlMsg.wanted, NlMsg.ForVlanOne]
  by_cases hvlan : message.cmd = setVlanCarrier
  · rw [if_pos hvlan, if_pos hvlan, setCarrierVlan]
    by_cases hnumber : 1 ≤ message.number ∧ message.number ≤ 4094
    · rw [if_pos hnumber, if_neg fun hout ↦ (hrange 4094).mp hout hnumber]
      refine Or.inr ?_
      by_cases hone : message.number = 1
      · exact Or.inl ⟨⟨hvlan, hone⟩, Option.some_ne_none _, if_pos hone⟩
      · refine Or.inr ⟨_, rfl, fun hboth ↦ hone hboth.2, ?_⟩
        rw [if_neg hone, deviceName_eq (by decide)]
    · rw [if_neg hnumber, if_pos ((hrange 4094).mpr hnumber)]
      exact Or.inl ⟨rfl, rfl⟩
  · rw [if_neg hvlan, if_neg hvlan]
    by_cases hport : message.cmd = setPortChannelCarrier
    · rw [if_pos hport, if_pos hport, setCarrierPortChannel]
      by_cases hnumber : 1 ≤ message.number ∧ message.number ≤ 12
      · rw [if_pos hnumber, if_neg fun hout ↦ (hrange 12).mp hout hnumber]
        refine Or.inr (Or.inr ⟨_, rfl, fun hboth ↦ hvlan hboth.1, ?_⟩)
        rw [deviceName_eq (by decide)]
      · rw [if_neg hnumber, if_pos ((hrange 12).mpr hnumber)]
        exact Or.inl ⟨rfl, rfl⟩
    · rw [if_neg hport, if_neg hport]
      exact Or.inl ⟨rfl, rfl⟩

/-- The handler answers what the request came to. Sending the answer changes nothing but counters of
the server, that is, nothing in a view that does not show them. -/
theorem nlKservRecvMsg_of_handleRequest {β : Type*} {view : Kernel → β}
    (hviewErr : ∀ kernel, view (countErr kernel) = view kernel)
    (hviewNorm : ∀ kernel, view (countNorm kernel) = view kernel) {env : RecvEnv}
    {kernel after : Kernel} {message : NlMsg} {err : UInt16}
    (hrequest : handleRequest env.filpOpen kernel message = some (after, err))
    (ports : List UInt32) :
    ∃ handled, nlKservRecvMsg env ports kernel message = some handled ∧ handled.err = err ∧
      view handled.kernel = view after := by
  rw [nlKservRecvMsg, hrequest]
  dsimp only
  split_ifs
  all_goals exact ⟨_, rfl, rfl, by simp only [hviewErr, hviewNorm]⟩

/-- What a message does to the devices, and what its reply says about it. -/
structure RequestEffect (vrfs : List Char → Option ℕ) (before : Kernel) (message : NlMsg)
    (handled : Handled) : Prop where
  /-- At most one device changes. -/
  atMostOne : ∀ place place', handled.kernel.deviceAt place ≠ before.deviceAt place →
    handled.kernel.deviceAt place' ≠ before.deviceAt place' → place = place'
  answers : handled.err = 0 ∨ handled.err = netlinkServErr
  /-- After 0, VLAN 1 was asked for, or the one device of the name in its namespace has the carrier
  asked for, in the namespace asked for if that has such a device. -/
  done : handled.err = 0 →
    message.ForVlanOne ∧ handled.kernel.deviceAt = before.deviceAt ∨
      ∃ name ∈ message.wanted, ∃ place, before.Named place name ∧
        (∀ i, before.Named (place.1, i) name → i = place.2) ∧
        SetsCarrier before handled.kernel place (message.isUp ≠ 0) ∧
        ∀ net, requestedNet vrfs message.vrfName = some net → before.HasDevice net name →
          place.1 = net
  failed : handled.err = netlinkServErr → handled.kernel.deviceAt = before.deviceAt
  /-- Exactly the requests that are to be refused are answered with an error. -/
  refused_iff : handled.err = netlinkServErr ↔ Refused vrfs before message

theorem requestedNet_eq_none_iff (vrfs : List Char → Option ℕ) (vrfName : List Char) :
    requestedNet vrfs vrfName = none ↔ vrfName ≠ [] ∧ vrfs vrfName = none := by
  rw [requestedNet]
  split_ifs with hempty <;> simp [hempty]

/-- The devices are as they were. -/
theorem RequestEffect.of_same {vrfs : List Char → Option ℕ} {before : Kernel} {message : NlMsg}
    {handled : Handled} (hsame : handled.kernel.deviceAt = before.deviceAt)
    (hanswer : handled.err = 0 ∧ message.ForVlanOne ∧ message.wanted ≠ none ∨
      handled.err = netlinkServErr ∧ Refused vrfs before message) :
    RequestEffect vrfs before message handled where
  atMostOne := fun place _ hchanged _ ↦ absurd (congrFun hsame place) hchanged
  answers := hanswer.imp And.left And.left
  done := by
    intro hzero
    rcases hanswer with ⟨-, hone, -⟩ | ⟨herr, -⟩
    · exact Or.inl ⟨hone, hsame⟩
    · rw [hzero] at herr
      exact absurd herr (by decide)
  failed := fun _ ↦ hsame
  refused_iff := by
    rcases hanswer with ⟨hzero, hone, hwanted⟩ | ⟨herr, hrefused⟩
    · rw [hzero]
      refine iff_of_false (by decide) ?_
      rintro (hnone | ⟨hother, -⟩)
      · exact hwanted hnone
      · exact hother hone
    · exact iff_of_true herr hrefused

/-- A device is set. -/
theorem RequestEffect.of_sets {vrfs : List Char → Option ℕ} {before : Kernel}
    (hunique : before.NamesUnique) {message : NlMsg} {handled : Handled} {name : List Char}
    (hwanted : message.wanted = some name) {net : ℕ}
    (hrequested : requestedNet vrfs message.vrfName = some net) {place : ℕ × ℕ}
    (hnamed : before.Named place name)
    (hsets : SetsCarrier before handled.kernel place (message.isUp ≠ 0))
    (hnet : before.HasDevice net name → place.1 = net) (hzero : handled.err = 0) :
    RequestEffect vrfs before message handled where
  atMostOne := by
    have hplace : ∀ other, handled.kernel.deviceAt other ≠ before.deviceAt other →
        other = place := fun other hchanged ↦ by_contra fun hother ↦
      hchanged (hsets.elsewhere other hother)
    intro p q hp hq
    rw [hplace p hp, hplace q hq]
  answers := Or.inl hzero
  done := by
    refine fun _ ↦ Or.inr ⟨name, hwanted, place, hnamed, ?_, hsets, ?_⟩
    · exact fun i hi ↦ hunique.position_eq hi hnamed
    · rintro other hother hdevice
      obtain rfl := Option.some.inj (hrequested.symm.trans hother)
      exact hnet hdevice
  failed := fun herr ↦ absurd (hzero.symm.trans herr) (by decide)
  refused_iff := by
    refine iff_of_false (fun herr ↦ absurd (hzero.symm.trans herr) (by decide)) ?_
    rintro (hnone | ⟨-, hunresolved | ⟨other, hother, hmissing⟩⟩)
    · exact absurd (hwanted.symm.trans hnone) (Option.some_ne_none _)
    · rw [← requestedNet_eq_none_iff, hrequested] at hunresolved
      exact absurd hunresolved (Option.some_ne_none _)
    · obtain rfl := Option.some.inj (hwanted.symm.trans hother)
      exact hmissing place.1 ⟨place.2, hnamed⟩

/-- Every message has the effect its reply says: at most one device changes; after 0 it is the
device asked for, or nothing for VLAN 1; after an error nothing has changed, and this is the answer
exactly to the requests that are to be refused.

Assumes: the VRF name of the message, if it has one, resolves by a partial map, and names are unique
within a namespace. -/
theorem carrier_request_effect {vrfs : List Char → Option ℕ} {env : RecvEnv} {message : NlMsg}
    (hvrf : Resolves env.filpOpen vrfs message.vrfName) {kernel : Kernel}
    (hunique : kernel.NamesUnique) (ports : List UInt32) :
    ∃ handled, nlKservRecvMsg env ports kernel message = some handled ∧
      RequestEffect vrfs kernel message handled := by
  rcases handleRequest_cases env.filpOpen kernel message with
    ⟨hwanted, hrequest⟩ | ⟨hone, hwanted, hrequest⟩ | ⟨name, hwanted, hother, hrequest⟩
  · obtain ⟨handled, hhandled, herr, hsame⟩ :=
      nlKservRecvMsg_of_handleRequest deviceAt_countErr deviceAt_countNorm hrequest ports
    exact ⟨handled, hhandled, .of_same hsame (Or.inr ⟨herr, Or.inl hwanted⟩)⟩
  · obtain ⟨handled, hhandled, herr, hsame⟩ :=
      nlKservRecvMsg_of_handleRequest deviceAt_countErr deviceAt_countNorm hrequest ports
    exact ⟨handled, hhandled, .of_same hsame (Or.inl ⟨herr, hone, hwanted⟩)⟩
  · obtain ⟨after, err, hnetdev, hserved⟩ :=
      setCarrierNetdev_served hvrf kernel name (message.isUp ≠ 0)
    obtain ⟨handled, hhandled, herr, hsame⟩ :=
      nlKservRecvMsg_of_handleRequest deviceAt_countErr deviceAt_countNorm
        (hrequest.trans hnetdev) ports
    refine ⟨handled, hhandled, ?_⟩
    cases hserved with
    | switched net place hrequested hnamed hsets hnet =>
      have hsets' : SetsCarrier kernel handled.kernel place (message.isUp ≠ 0) :=
        ⟨hsame ▸ hsets.here, hsame ▸ hsets.elsewhere⟩
      exact .of_sets hunique hwanted hrequested hnamed hsets' hnet herr
    | missing hsame' hmissing =>
      refine .of_same (hsame.trans hsame') (Or.inr ⟨herr, Or.inr ⟨hother, ?_⟩⟩)
      rw [requestedNet_eq_none_iff] at hmissing
      exact hmissing.imp_right fun hall ↦ ⟨name, hwanted, hall⟩

/-- Two namespaces, each with the device of VLAN 5. -/
def twoVlans : Kernel :=
  ⟨[⟨[⟨"vlan.5".toList, false⟩], 1⟩, ⟨[⟨"lo".toList, true⟩, ⟨"vlan.5".toList, false⟩], 1⟩], 0, 0, 0⟩

/-- The second namespace is the VRF `red`, by its file, and there is no other file. -/
def redFile (path : List Char) : FilpOpen :=
  if path = "/var/run/netns/red".toList then .file (some 1) else .error

/-- The second namespace is the VRF `red`, by its name. -/
def redVrf (name : List Char) : Option ℕ := if name = "red".toList then some 1 else none

/-- There is the VRF `red` and no other, and everything else succeeds. -/
def redServed : RecvEnv := ⟨redFile, true, true, []⟩

/-- The message for a VLAN, with the carrier up. -/
def vlanMessage (vid : UInt16) (vrfName : List UInt8) : NlMsg :=
  ⟨List.replicate 16 0 ++ le16 setVlanCarrier ++ le16 vid ++ [1] ++
    (vrfName ++ List.replicate (33 - vrfName.length) 0), []⟩

/-- A request for VLAN 5 in the VRF `red` sets the device there. -/
theorem carrier_request_effect_red :
    Resolves redServed.filpOpen redVrf (vlanMessage 5 [114, 101, 100]).vrfName ∧
      twoVlans.NamesUnique ∧
      ∃ handled, nlKservRecvMsg redServed [] twoVlans (vlanMessage 5 [114, 101, 100]) =
          some handled ∧
        RequestEffect redVrf twoVlans (vlanMessage 5 [114, 101, 100]) handled ∧
        handled.err = 0 ∧ handled.kernel.deviceAt (1, 1) = some ⟨"vlan.5".toList, true⟩ := by
  have hvrf : Resolves redServed.filpOpen redVrf (vlanMessage 5 [114, 101, 100]).vrfName :=
    fun _ ↦ by decide
  have hunique : twoVlans.NamesUnique := by
    unfold Kernel.NamesUnique
    decide
  obtain ⟨handled, hhandled, heffect⟩ :=
    carrier_request_effect hvrf hunique []
  refine ⟨hvrf, hunique, handled, hhandled, heffect, ?_⟩
  obtain rfl := Option.some.inj (hhandled.symm.trans rfl)
  exact ⟨by decide, by decide⟩

/-- No namespace has the device of VLAN 1, and the reply is 0 all the same. -/
theorem vlanOne_not_refused :
    (∀ net, ¬twoVlans.HasDevice net "vlan.1".toList) ∧
      ∃ handled, nlKservRecvMsg redServed [] twoVlans (vlanMessage 1 []) = some handled ∧
        handled.err = 0 := by
  refine ⟨?_, _, rfl, by decide⟩
  exact (findSome?_switchCarrier_eq_none_iff twoVlans "vlan.1".toList true).mp (by decide)

end KernelModules.NetlinkServer
