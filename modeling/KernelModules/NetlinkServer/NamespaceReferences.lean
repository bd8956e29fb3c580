import KernelModules.Foundations.Lists
import KernelModules.NetlinkServer.MessageReads

/-!
# References to namespaces and files

`get_ptr_by_vrf` opens the file of a VRF, takes a reference to the namespace behind it with
`get_net`, and closes the file. Its caller never gives the reference back, on none of its paths, so
that every request that names a VRF leaves one reference behind. And `get_ptr_by_vrf` takes whatever
`filp_open` returns for a file unless it is null, which `filp_open` never returns: a name without a
file makes the kernel use an error pointer.

A request is balanced if it is answered, with an error if the file of its VRF cannot be opened, and
leaves all reference counts as they were (`Balanced`). `balanced_iff` says which requests are, and
`namespace_references_balanced` the same for runs.
-/

set_option autoImplicit false
set_option relaxedAutoImplicit false

namespace KernelModules.NetlinkServer

open Foundations

/-! ### Reference counts -/

/-- The reference counts of the namespaces, and the number of open files. -/
def Kernel.refs (kernel : Kernel) : List ℕ × ℕ := (kernel.nets.map (·.count), kernel.openFiles)

@[simp] theorem refs_countErr (kernel : Kernel) : (countErr kernel).refs = kernel.refs := rfl

@[simp] theorem refs_countNorm (kernel : Kernel) : (countNorm kernel).refs = kernel.refs := rfl

@[simp] theorem refs_filpClose_openFile (kernel : Kernel) :
    (filpClose (openFile kernel)).refs = kernel.refs := rfl

/-- Switching a carrier takes and gives no reference. -/
theorem refs_switchCarrier {kernel after : Kernel} {name : List Char} {up : Bool} {net : ℕ}
    (hswitch : switchCarrier kernel name up net = some after) : after.refs = kernel.refs := by
  obtain ⟨n, i, d, hnet, -, -, rfl⟩ := exists_of_switchCarrier hswitch
  have hcount : (kernel.nets.map (·.count))[net]? = some n.count := by
    rw [List.getElem?_map, hnet, Option.map_some]
  simp only [Kernel.refs, List.map_set, set_of_getElem? hcount]

/-- A reference that is taken and not given back shows. -/
theorem refs_getNet_ne {kernel : Kernel} {net : ℕ} (hnet : net < kernel.nets.length) :
    (filpClose (getNet (openFile kernel) net)).refs ≠ kernel.refs := by
  intro hrefs
  have hcounts := congrArg (fun refs ↦ refs.1[net]?) hrefs
  simp [Kernel.refs, filpClose, getNet, openFile, hnet] at hcounts

/-- Once the namespace has been looked up, a request takes and gives no reference. -/
theorem refs_of_searched {kernel after : Kernel} {name : List Char} {up : Bool} {net : Option ℕ}
    {err : UInt16} (hsearched : Searched kernel name up net after err) :
    after.refs = kernel.refs := by
  cases hsearched with
  | noNet => rfl
  | here hswitch => exact refs_switchCarrier hswitch
  | elsewhere _ hswitch => exact (refs_switchCarrier hswitch).trans (refs_countErr kernel)
  | nowhere _ => rfl

/-! ### Requests -/

/-- A message, with what the kernel around the server does while it is handled. -/
structure ServerRequest where
  env : RecvEnv
  ports : List UInt32
  message : NlMsg

namespace ServerRequest

/-- The request asks for the namespace of a VRF. -/
def AsksVrf (request : ServerRequest) : Prop :=
  request.message.Searches ∧ request.message.vrfName ≠ []

/-- What `filp_open` returns for the file of the VRF. -/
def file (request : ServerRequest) : FilpOpen :=
  request.env.filpOpen ((netnsRunDir ++ '/' :: request.message.vrfName).take 511)

/-- `filp_open` returns an error pointer and never null if it fails, and namespaces behind files
exist. -/
structure Documented (request : ServerRequest) (kernel : Kernel) : Prop where
  not_null : request.file ≠ .null
  exists_net : ∀ net, request.file = .file (some net) → net < kernel.nets.length

/-- The request is answered, with an error if the file of its VRF cannot be opened, and leaves every
reference count as it was. -/
def Balanced (request : ServerRequest) (kernel : Kernel) : Prop :=
  ∃ handled, nlKservRecvMsg request.env request.ports kernel request.message = some handled ∧
    handled.kernel.refs = kernel.refs ∧
    (request.AsksVrf → request.file = .error → handled.err = netlinkServErr)

/-- The request does not ask for the namespace of a VRF, or what it names is no namespace. -/
def NoNamespace (request : ServerRequest) : Prop :=
  request.AsksVrf → request.file = .file none

end ServerRequest

/-- Sending the answer takes and gives no reference. -/
theorem refs_nlKservRecvMsg {env : RecvEnv} {kernel after : Kernel} {message : NlMsg} {err : UInt16}
    (hrequest : handleRequest env.filpOpen kernel message = some (after, err))
    (ports : List UInt32) :
    ∃ handled, nlKservRecvMsg env ports kernel message = some handled ∧
      handled.kernel.refs = after.refs := by
  obtain ⟨handled, hhandled, -, hrefs⟩ :=
    nlKservRecvMsg_of_handleRequest refs_countErr refs_countNorm hrequest ports
  exact ⟨handled, hhandled, hrefs⟩

/-- A fault in the request is a fault in the handler. -/
theorem nlKservRecvMsg_eq_none {env : RecvEnv} {kernel : Kernel} {message : NlMsg}
    (hrequest : handleRequest env.filpOpen kernel message = none) (ports : List UInt32) :
    nlKservRecvMsg env ports kernel message = none := by
  rw [nlKservRecvMsg, hrequest]

/-- A request that looks for a device, in terms of `set_carrier_netdev`. -/
theorem handleRequest_of_searches (filpOpen : List Char → FilpOpen) (kernel : Kernel)
    {message : NlMsg} (hsearches : message.Searches) : ∃ name,
      handleRequest filpOpen kernel message =
        setCarrierNetdev filpOpen kernel name message.vrfName (message.isUp ≠ 0) := by
  rcases handleRequest_cases filpOpen kernel message with
    ⟨hwanted, -⟩ | ⟨hone, -, -⟩ | ⟨name, -, -, hrequest⟩
  · exact absurd hwanted hsearches.1
  · exact absurd hone hsearches.2
  · exact ⟨name, hrequest⟩

/-- A request that looks for nothing leaves the kernel alone. -/
theorem handleRequest_of_not_searches (filpOpen : List Char → FilpOpen) (kernel : Kernel)
    {message : NlMsg} (hsearches : ¬message.Searches) :
    ∃ err, handleRequest filpOpen kernel message = some (kernel, err) := by
  rcases handleRequest_cases filpOpen kernel message with
    ⟨-, hrequest⟩ | ⟨-, -, hrequest⟩ | ⟨name, hwanted, hother, -⟩
  · exact ⟨_, hrequest⟩
  · exact ⟨_, hrequest⟩
  · exact absurd ⟨hwanted ▸ Option.some_ne_none name, hother⟩ hsearches

namespace ServerRequest

variable {request : ServerRequest} {kernel : Kernel}

/-- What becomes of a request once its VRF is resolved: it is answered, and the references are those
after the resolution. -/
theorem refs_of_resolved {middle : Kernel} {net : Option ℕ} (hsearches : request.message.Searches)
    (hresolved : (if request.message.vrfName = [] then some (kernel, some 0)
      else getPtrByVrf request.env.filpOpen kernel request.message.vrfName) =
        some (middle, net)) :
    ∃ handled, nlKservRecvMsg request.env request.ports kernel request.message = some handled ∧
      handled.kernel.refs = middle.refs := by
  obtain ⟨name, hrequest⟩ := handleRequest_of_searches request.env.filpOpen kernel hsearches
  obtain ⟨after, err, hnetdev, hsearched⟩ :=
    searched_setCarrierNetdev hresolved name (request.message.isUp ≠ 0)
  obtain ⟨handled, hhandled, hkernel⟩ :=
    refs_nlKservRecvMsg (hrequest.trans hnetdev) request.ports
  exact ⟨handled, hhandled, hkernel.trans (refs_of_searched hsearched)⟩

theorem balanced_of_noNamespace (hnone : request.NoNamespace) (kernel : Kernel) :
    request.Balanced kernel := by
  have herror : request.AsksVrf → request.file ≠ .error := by
    intro hasks hfile
    rw [hnone hasks] at hfile
    exact FilpOpen.noConfusion hfile
  have hbalanced : ∃ handled,
      nlKservRecvMsg request.env request.ports kernel request.message = some handled ∧
        handled.kernel.refs = kernel.refs := by
    by_cases hsearches : request.message.Searches
    · by_cases hempty : request.message.vrfName = []
      · exact refs_of_resolved hsearches (if_pos hempty)
      · have hfile := hnone ⟨hsearches, hempty⟩
        rw [file] at hfile
        have hresolved : getPtrByVrf request.env.filpOpen kernel request.message.vrfName =
            some (filpClose (openFile kernel), none) := by
          rw [getPtrByVrf, hfile]
        exact refs_of_resolved hsearches ((if_neg hempty).trans hresolved)
    · obtain ⟨err, hrequest⟩ :=
        handleRequest_of_not_searches request.env.filpOpen kernel hsearches
      exact refs_nlKservRecvMsg hrequest request.ports
  obtain ⟨handled, hhandled, hrefs⟩ := hbalanced
  exact ⟨handled, hhandled, hrefs, fun hasks hfile ↦ absurd hfile (herror hasks)⟩

/-- A request is balanced exactly if it asks for no namespace of a VRF, or what it names is no
namespace.

Assumes: `filp_open` returns an error pointer and never null if it fails, and namespaces behind
files exist. -/
theorem balanced_iff (hdocumented : request.Documented kernel) :
    request.Balanced kernel ↔ request.NoNamespace := by
  refine ⟨?_, fun hnone ↦ balanced_of_noNamespace hnone kernel⟩
  rintro ⟨handled, hhandled, hrefs, -⟩ ⟨hsearches, hvrf⟩
  obtain ⟨name, hrequest⟩ := handleRequest_of_searches request.env.filpOpen kernel hsearches
  cases hfile : request.file with
  | null => exact absurd hfile hdocumented.not_null
  | error =>
    have hfault : handleRequest request.env.filpOpen kernel request.message = none := by
      rw [file] at hfile
      rw [hrequest, setCarrierNetdev, if_neg hvrf, getPtrByVrf, hfile]
    rw [nlKservRecvMsg_eq_none hfault] at hhandled
    exact absurd hhandled.symm (Option.some_ne_none handled)
  | file net =>
    cases net with
    | none => rfl
    | some net =>
      have hnet := hdocumented.exists_net net hfile
      have hresolved : getPtrByVrf request.env.filpOpen kernel request.message.vrfName =
          some (filpClose (getNet (openFile kernel) net), some net) := by
        rw [file] at hfile
        rw [getPtrByVrf, hfile]
      obtain ⟨handled', hhandled', hleak⟩ :=
        refs_of_resolved hsearches ((if_neg hvrf).trans hresolved)
      obtain rfl := Option.some.inj (hhandled.symm.trans hhandled')
      exact absurd (hleak.symm.trans hrefs) (refs_getNet_ne hnet)

end ServerRequest

/-! ### Runs -/

/-- The server handles one request after the other, until one of them makes the kernel fault. -/
def serveAll (kernel : Kernel) : List ServerRequest → Option Kernel
  | [] => some kernel
  | request :: requests =>
    match nlKservRecvMsg request.env request.ports kernel request.message with
    | none => none
    | some handled => serveAll handled.kernel requests

/-- Requests that are each balanced leave every reference count as it was. -/
theorem refs_serveAll {requests : List ServerRequest} (hnone : ∀ request ∈ requests,
    request.NoNamespace) (kernel : Kernel) :
    ∃ after, serveAll kernel requests = some after ∧ after.refs = kernel.refs := by
  induction requests generalizing kernel with
  | nil => exact ⟨kernel, rfl, rfl⟩
  | cons request requests ih =>
    obtain ⟨handled, hhandled, hrefs, -⟩ := ServerRequest.balanced_of_noNamespace
      (hnone request List.mem_cons_self) kernel
    obtain ⟨after, hafter, hrest⟩ :=
      ih (fun other hother ↦ hnone other (List.mem_cons_of_mem _ hother)) handled.kernel
    refine ⟨after, ?_, hrest.trans hrefs⟩
    rw [serveAll, hhandled]
    exact hafter

/-- A request is balanced exactly if it asks for no namespace of a VRF or names none, and a run of
such requests is answered to its end with every reference count as it was at the start.

Assumes: `filp_open` returns an error pointer and never null if it fails, and namespaces behind
files exist. -/
theorem namespace_references_balanced {request : ServerRequest} {kernel : Kernel}
    (hdocumented : request.Documented kernel) :
    (request.Balanced kernel ↔ request.NoNamespace) ∧
      ∀ requests : List ServerRequest, (∀ request ∈ requests, request.NoNamespace) →
        ∀ start : Kernel, ∃ after, serveAll start requests = some after ∧
          after.refs = start.refs :=
  ⟨ServerRequest.balanced_iff hdocumented, fun _ hnone start ↦ refs_serveAll hnone start⟩

/-- A request for VLAN 5 in a VRF. -/
def vlanFive (vrfName : List UInt8) : ServerRequest := ⟨redServed, [], vlanMessage 5 vrfName⟩

/-- Without a VRF, the device is set and nothing is kept. -/
theorem namespace_references_balanced_vlanFive :
    (vlanFive []).Documented twoVlans ∧ (vlanFive []).Balanced twoVlans := by
  have hdocumented : (vlanFive []).Documented twoVlans :=
    ⟨fun hnull ↦ FilpOpen.noConfusion hnull, fun net hfile ↦ by
      have herror : (vlanFive []).file = .error := by decide
      rw [herror] at hfile
      exact absurd hfile (by simp)⟩
  refine ⟨hdocumented, (namespace_references_balanced hdocumented).1.mpr ?_⟩
  exact fun hasks ↦ absurd (by decide : (vlanFive []).message.vrfName = []) hasks.2

/-- There are no VRFs, and `filp_open` returns an error pointer. -/
def noVrf : ServerRequest := ⟨⟨fun _ ↦ .error, true, true, []⟩, [], vlanMessage 5 [114, 101, 100]⟩

/-- A request in the VRF `red` keeps a reference to its namespace, and a request in a VRF that there
is not makes the kernel fault. -/
theorem not_balanced_red :
    ¬(vlanFive [114, 101, 100]).Balanced twoVlans ∧ ¬noVrf.Balanced twoVlans := by
  constructor
  · rintro ⟨handled, hhandled, hrefs, -⟩
    obtain rfl := Option.some.inj (hhandled.symm.trans rfl)
    exact absurd hrefs (by decide)
  · rintro ⟨handled, hhandled, -⟩
    exact absurd (hhandled.symm.trans rfl) (Option.some_ne_none handled)

end KernelModules.NetlinkServer
