import Mathlib.Data.List.Nodup
import Mathlib.Data.List.Perm.Basic
import Mathlib.Logic.Function.Basic

/-!
# Requests, replies and mailboxes

A server handles one request at a time and puts its reply into the mailbox of the port that the
request names as the address for it. Whoever has sent a request with a call that waits takes the
first reply out of the mailbox. Nothing in a reply says which request it answers: the numbers of the
requests, and the history of what has been answered, routed and returned, are there to speak about.

An exchange is `Matched` if every waiting request names its sender as the address, every reply in a
mailbox is the answer to a request, and whatever is on its way to the port of a waiting call belongs
to that call. Sending keeps an exchange matched if the sender names itself and does not send into a
call that waits (`Matched.submit`); a call does if its port is quiet (`Matched.call`); answering
does if the reply goes where the request says (`Matched.answer`); and everything else does in any
case. In a matched exchange a call has returned the answer to its own request (`Matched.answer_eq`).
-/

set_option autoImplicit false
set_option relaxedAutoImplicit false

namespace KernelModules.Foundations

variable {P ρ β : Type*}

/-- A request that waits for the server. -/
structure Request (P ρ : Type*) where
  id : ℕ
  sender : P
  payload : ρ

/-- A reply in a mailbox. -/
structure Reply (β : Type*) where
  request : ℕ
  answer : β

/-- A call that waits for its reply. -/
structure Call (P : Type*) where
  request : ℕ
  port : P

/-- Where the reply to a request went. -/
structure Routed (P : Type*) where
  sender : P
  receiver : Option P
  deriving DecidableEq

/-- What becomes of a reply: none is sent, nobody gets it, it goes into a mailbox, or it comes back
to the server as a request. -/
inductive Outcome (P ρ : Type*)
  | unsent
  | lost
  | delivered (port : P)
  | forwarded (port : P) (payload : ρ)

/-- Ports with their mailboxes, requests and calls that wait, and the history: the answers that have
been given, where the replies went, and the answers that calls have returned. -/
structure Exchange (P ρ β : Type*) where
  next : ℕ
  ports : List P
  waiting : List (Request P ρ)
  mailbox : P → List (Reply β)
  calls : List (Call P)
  answered : List (ℕ × β)
  routed : List (Routed P)
  returned : List (ℕ × β)

namespace Exchange

/-- An exchange in which nothing has happened. -/
def start : Exchange P ρ β where
  next := 0
  ports := []
  waiting := []
  mailbox := fun _ ↦ []
  calls := []
  answered := []
  routed := []
  returned := []

/-- Open a port. -/
def openPort (exchange : Exchange P ρ β) (port : P) : Exchange P ρ β :=
  { exchange with ports := port :: exchange.ports }

/-- Send a request. -/
def submit (exchange : Exchange P ρ β) (port : P) (payload : ρ) : Exchange P ρ β :=
  { exchange with
    next := exchange.next + 1
    waiting := exchange.waiting ++ [⟨exchange.next, port, payload⟩] }

/-- Send a request and wait for its reply. -/
def call (exchange : Exchange P ρ β) (port : P) (payload : ρ) : Exchange P ρ β :=
  { exchange.submit port payload with calls := ⟨exchange.next, port⟩ :: exchange.calls }

/-- A request is lost. -/
def discard (exchange : Exchange P ρ β) (j : ℕ) : Exchange P ρ β :=
  { exchange with waiting := exchange.waiting.eraseIdx j }

/-- A call stops waiting. -/
def abandon (exchange : Exchange P ρ β) (c : ℕ) : Exchange P ρ β :=
  { exchange with calls := exchange.calls.eraseIdx c }

section Mailboxes

variable [DecidableEq P]

/-- What becomes of the reply to a request that has been answered. -/
def route (exchange : Exchange P ρ β) (request : Request P ρ) (answer : β) :
    Outcome P ρ → Exchange P ρ β
  | .unsent => exchange
  | .lost => { exchange with routed := ⟨request.sender, none⟩ :: exchange.routed }
  | .delivered port =>
    { exchange with
      mailbox := Function.update exchange.mailbox port
        (exchange.mailbox port ++ [⟨request.id, answer⟩])
      routed := ⟨request.sender, some port⟩ :: exchange.routed }
  | .forwarded port payload =>
    { exchange.submit port payload with
      routed := ⟨request.sender, some port⟩ :: exchange.routed }

/-- The server answers a request. -/
def answer (exchange : Exchange P ρ β) (j : ℕ) (answer : β) (outcome : Outcome P ρ) :
    Exchange P ρ β :=
  match exchange.waiting[j]? with
  | none => exchange
  | some request =>
    { exchange.discard j with
      answered := (request.id, answer) :: exchange.answered }.route request answer outcome

/-- Take the first reply out of a mailbox. -/
def receive (exchange : Exchange P ρ β) (port : P) : Exchange P ρ β :=
  { exchange with
    mailbox := Function.update exchange.mailbox port (exchange.mailbox port).tail }

/-- A call that waits takes the first reply out of the mailbox of its port, and returns it. -/
def complete (exchange : Exchange P ρ β) (c : ℕ) : Exchange P ρ β :=
  match exchange.calls[c]? with
  | none => exchange
  | some call =>
    match exchange.mailbox call.port with
    | [] => exchange
    | reply :: _ =>
      { (exchange.receive call.port).abandon c with
        returned := (call.request, reply.answer) :: exchange.returned }

/-- Nothing is on its way to a port, and no call waits at it. -/
def Quiet (exchange : Exchange P ρ β) (port : P) : Prop :=
  (∀ request ∈ exchange.waiting, request.sender ≠ port) ∧ (exchange.mailbox port).isEmpty ∧
    ∀ call ∈ exchange.calls, call.port ≠ port

instance (exchange : Exchange P ρ β) (port : P) : Decidable (exchange.Quiet port) :=
  inferInstanceAs (Decidable (_ ∧ _ ∧ _))

end Mailboxes

/-! ### Matched exchanges -/

/-- Requests name their senders, replies are answers, and what is on its way to the port of a
waiting call belongs to the call. -/
structure Matched (address : ρ → P) (exchange : Exchange P ρ β) : Prop where
  distinct : (exchange.waiting.map (·.id) ++ exchange.answered.map (·.1)).Nodup
  numbered : ∀ id ∈ exchange.waiting.map (·.id) ++ exchange.answered.map (·.1), id < exchange.next
  own : ∀ request ∈ exchange.waiting,
    address request.payload = request.sender ∧ request.sender ∈ exchange.ports
  replies : ∀ port, ∀ reply ∈ exchange.mailbox port,
    (reply.request, reply.answer) ∈ exchange.answered
  requested : ∀ call ∈ exchange.calls, ∀ request ∈ exchange.waiting, request.sender = call.port →
    request.id = call.request
  replied : ∀ call ∈ exchange.calls, ∀ reply ∈ exchange.mailbox call.port,
    reply.request = call.request
  routed : ∀ routed ∈ exchange.routed, routed.receiver = some routed.sender
  returned : ∀ entry ∈ exchange.returned, entry ∈ exchange.answered

variable {address : ρ → P} {exchange : Exchange P ρ β} {port : P} {payload : ρ}

theorem matched_start : Matched address (start : Exchange P ρ β) where
  distinct := List.nodup_nil
  numbered := by simp [start]
  own := by simp [start]
  replies := by simp [start]
  requested := by simp [start]
  replied := by simp [start]
  routed := by simp [start]
  returned := by simp [start]

/-- A request has one answer. -/
theorem Matched.answer_eq (hmatched : Matched address exchange) {id : ℕ} {first second : β}
    (hfirst : (id, first) ∈ exchange.answered) (hsecond : (id, second) ∈ exchange.answered) :
    first = second := by
  have hdistinct : (exchange.answered.map (·.1)).Nodup := hmatched.distinct.of_append_right
  have hentry := List.inj_on_of_nodup_map hdistinct hfirst hsecond rfl
  exact congrArg Prod.snd hentry

theorem Matched.openPort (hmatched : Matched address exchange) (port : P) :
    Matched address (exchange.openPort port) where
  __ := hmatched
  own := by
    intro request hrequest
    obtain ⟨haddress, hport⟩ := hmatched.own request hrequest
    exact ⟨haddress, List.mem_cons_of_mem _ hport⟩

/-- A request that names its sender, from a port at which no call waits. -/
theorem Matched.submit (hmatched : Matched address exchange) (haddress : address payload = port)
    (hport : port ∈ exchange.ports) (hcalls : ∀ call ∈ exchange.calls, call.port ≠ port) :
    Matched address (exchange.submit port payload) where
  __ := hmatched
  distinct := by
    have hnew : exchange.next ∉ exchange.waiting.map (·.id) ++ exchange.answered.map (·.1) :=
      fun hmem ↦ Nat.lt_irrefl _ (hmatched.numbered _ hmem)
    simp only [Exchange.submit, List.map_append, List.map_cons, List.map_nil, List.append_assoc]
    exact List.nodup_middle.mpr (List.nodup_cons.mpr ⟨hnew, hmatched.distinct⟩)
  numbered := by
    intro id hid
    simp only [Exchange.submit, List.map_append, List.map_cons, List.map_nil, List.append_assoc,
      List.mem_append, List.mem_cons, List.not_mem_nil, or_false] at hid
    rcases hid with hwaiting | rfl | hanswered
    · exact Nat.lt_succ_of_lt (hmatched.numbered id (List.mem_append_left _ hwaiting))
    · exact Nat.lt_succ_self _
    · exact Nat.lt_succ_of_lt (hmatched.numbered id (List.mem_append_right _ hanswered))
  own := by
    intro request hrequest
    rcases List.mem_append.mp hrequest with hold | hnew
    · exact hmatched.own request hold
    · obtain rfl := List.mem_singleton.mp hnew
      exact ⟨haddress, hport⟩
  requested := by
    intro call hcall request hrequest hsender
    rcases List.mem_append.mp hrequest with hold | hnew
    · exact hmatched.requested call hcall request hold hsender
    · obtain rfl := List.mem_singleton.mp hnew
      exact absurd hsender.symm (hcalls call hcall)

theorem Matched.discard (hmatched : Matched address exchange) (j : ℕ) :
    Matched address (exchange.discard j) where
  __ := hmatched
  distinct := hmatched.distinct.sublist (((List.eraseIdx_sublist _ j).map _).append_right _)
  numbered := fun id hid ↦ hmatched.numbered id
    ((((List.eraseIdx_sublist _ j).map _).append_right _).subset hid)
  own := fun request hrequest ↦ hmatched.own request ((List.eraseIdx_sublist _ j).subset hrequest)
  requested := fun call hcall request hrequest ↦
    hmatched.requested call hcall request ((List.eraseIdx_sublist _ j).subset hrequest)

theorem Matched.abandon (hmatched : Matched address exchange) (c : ℕ) :
    Matched address (exchange.abandon c) where
  __ := hmatched
  requested := fun call hcall ↦
    hmatched.requested call ((List.eraseIdx_sublist _ c).subset hcall)
  replied := fun call hcall ↦ hmatched.replied call ((List.eraseIdx_sublist _ c).subset hcall)

/-- A call from a quiet port. -/
theorem Matched.call (hmatched : Matched address exchange) (haddress : address payload = port)
    (hport : port ∈ exchange.ports) (hquiet : exchange.Quiet port) :
    Matched address (exchange.call port payload) where
  __ := hmatched.submit haddress hport hquiet.2.2
  requested := by
    intro call hcall request hrequest hsender
    rcases List.mem_cons.mp hcall with rfl | hold
    · rcases List.mem_append.mp hrequest with hwaiting | hnew
      · exact absurd hsender (hquiet.1 request hwaiting)
      · obtain rfl := List.mem_singleton.mp hnew
        rfl
    · exact (hmatched.submit haddress hport hquiet.2.2).requested call hold request hrequest hsender
  replied := by
    intro call hcall reply hreply
    rcases List.mem_cons.mp hcall with rfl | hold
    · have hempty : exchange.mailbox port = [] := List.isEmpty_iff.mp hquiet.2.1
      rw [show (exchange.call port payload).mailbox port = [] from hempty] at hreply
      exact absurd hreply List.not_mem_nil
    · exact hmatched.replied call hold reply hreply

/-- The number of a request that is answered moves from the requests that wait to the history. -/
theorem perm_answered {j : ℕ} {request : Request P ρ}
    (hrequest : exchange.waiting[j]? = some request) (answer : β) :
    ((exchange.waiting.eraseIdx j).map (·.id) ++
        ((request.id, answer) :: exchange.answered).map (·.1)).Perm
      (exchange.waiting.map (·.id) ++ exchange.answered.map (·.1)) := by
  obtain ⟨hj, rfl⟩ := List.getElem?_eq_some_iff.mp hrequest
  rw [List.map_cons]
  refine List.perm_middle.trans ?_
  rw [← List.cons_append]
  exact ((List.getElem_cons_eraseIdx_perm hj).map (·.id)).append_right _

/-- An answer is recorded, and its request waits no longer. -/
theorem Matched.record (hmatched : Matched address exchange) {j : ℕ} {request : Request P ρ}
    (hrequest : exchange.waiting[j]? = some request) (answer : β) :
    Matched address { exchange.discard j with
      answered := (request.id, answer) :: exchange.answered } where
  __ := hmatched.discard j
  distinct := (perm_answered hrequest answer).nodup_iff.mpr hmatched.distinct
  numbered := fun id hid ↦ hmatched.numbered id ((perm_answered hrequest answer).subset hid)
  replies := fun port reply hreply ↦ List.mem_cons_of_mem _ (hmatched.replies port reply hreply)
  returned := fun entry hentry ↦ List.mem_cons_of_mem _ (hmatched.returned entry hentry)

variable [DecidableEq P]

theorem mem_mailbox_receive {reply : Reply β} {other : P}
    (hreply : reply ∈ (exchange.receive port).mailbox other) : reply ∈ exchange.mailbox other := by
  change reply ∈ Function.update exchange.mailbox port (exchange.mailbox port).tail other at hreply
  by_cases hother : other = port
  · subst hother
    rw [Function.update_self] at hreply
    exact List.mem_of_mem_tail hreply
  · rwa [Function.update_of_ne hother] at hreply

theorem Matched.receive (hmatched : Matched address exchange) (port : P) :
    Matched address (exchange.receive port) where
  __ := hmatched
  replies := fun other reply hreply ↦ hmatched.replies other reply (mem_mailbox_receive hreply)
  replied := fun call hcall reply hreply ↦
    hmatched.replied call hcall reply (mem_mailbox_receive hreply)

theorem Matched.complete (hmatched : Matched address exchange) (c : ℕ) :
    Matched address (exchange.complete c) := by
  rw [Exchange.complete]
  cases hcall : exchange.calls[c]? with
  | none => exact hmatched
  | some call =>
    dsimp only
    cases hmailbox : exchange.mailbox call.port with
    | nil => exact hmatched
    | cons reply rest =>
      have hreply : reply ∈ exchange.mailbox call.port := by
        rw [hmailbox]
        exact List.mem_cons_self
      have hown := hmatched.replied call (List.mem_of_getElem? hcall) reply hreply
      have hanswered := hmatched.replies call.port reply hreply
      refine { (hmatched.receive call.port).abandon c with returned := ?_ }
      intro entry hentry
      rcases List.mem_cons.mp hentry with rfl | hold
      · rwa [← hown]
      · exact hmatched.returned entry hold

theorem mem_mailbox_delivered {request : Request P ρ} {answer : β} {reply : Reply β} {other : P}
    (hreply : reply ∈ (exchange.route request answer (.delivered port)).mailbox other) :
    reply ∈ exchange.mailbox other ∨ other = port ∧ reply = ⟨request.id, answer⟩ := by
  change reply ∈ Function.update exchange.mailbox port
    (exchange.mailbox port ++ [⟨request.id, answer⟩]) other at hreply
  by_cases hother : other = port
  · subst hother
    rw [Function.update_self, List.mem_append, List.mem_singleton] at hreply
    exact hreply.imp_right fun hnew ↦ ⟨rfl, hnew⟩
  · rw [Function.update_of_ne hother] at hreply
    exact Or.inl hreply

/-- A reply goes into the mailbox of the sender. -/
theorem Matched.delivered (hmatched : Matched address exchange) {request : Request P ρ} {answer : β}
    (hanswered : (request.id, answer) ∈ exchange.answered)
    (hcalls : ∀ call ∈ exchange.calls, request.sender = call.port → request.id = call.request) :
    Matched address (exchange.route request answer (.delivered request.sender)) where
  __ := hmatched
  replies := by
    intro port reply hreply
    rcases mem_mailbox_delivered hreply with hold | ⟨-, rfl⟩
    · exact hmatched.replies port reply hold
    · exact hanswered
  replied := by
    intro call hcall reply hreply
    rcases mem_mailbox_delivered hreply with hold | ⟨hport, rfl⟩
    · exact hmatched.replied call hcall reply hold
    · exact hcalls call hcall hport.symm
  routed := by
    intro routed hrouted
    rcases List.mem_cons.mp hrouted with rfl | hold
    · rfl
    · exact hmatched.routed routed hold

/-- A request is answered, and the reply is not sent or goes into the mailbox of its sender. -/
theorem Matched.answer (hmatched : Matched address exchange) (j : ℕ) (answer : β)
    {outcome : Outcome P ρ}
    (houtcome : ∀ request, exchange.waiting[j]? = some request →
      outcome = .unsent ∨ outcome = .delivered request.sender) :
    Matched address (exchange.answer j answer outcome) := by
  rw [Exchange.answer]
  cases hrequest : exchange.waiting[j]? with
  | none => exact hmatched
  | some request =>
    have hrecorded := hmatched.record hrequest answer
    rcases houtcome request hrequest with rfl | rfl
    · exact hrecorded
    · apply hrecorded.delivered List.mem_cons_self
      intro call hcall hsender
      exact hmatched.requested call hcall request (List.mem_of_getElem? hrequest) hsender

end Exchange

end KernelModules.Foundations
