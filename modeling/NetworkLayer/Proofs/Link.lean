import NetworkLayer.Link
import NetworkLayer.Proofs.Access.Routing
import NetworkLayer.Proofs.Prefix

/-!
The addresses that a link hands out. Main statement: whatever else is done to a link, its pool hands out the addresses
behind the network address one by one, each of them once, ends before the highest address, and never overflows.
-/

namespace NetworkLayer.Link

variable {family : Family}

section Next

variable {link : Link family}

/-- A pool that has reached the last host is at its end. -/
theorem nextAddress_of_le (last : link.net.hostMask.number ≤ link.nextHost.toNat) :
    link.nextAddress = (none, link) := by
  rw [nextAddress, if_pos]
  rw [BitVec.le_def, Address.toNat_word]
  exact last

/-- A pool in front of the last host hands out the next one and counts on. -/
theorem nextAddress_of_lt (below : link.nextHost.toNat < link.net.hostMask.number) :
    link.nextAddress =
      (some ⟨.ofWord (link.net.address.word ||| link.nextHost), some link.net.length, .unicast⟩,
        { link with nextHost := link.nextHost + 1 }) := by
  rw [nextAddress, if_neg, InterfaceAddress.unicast, Nat.min_eq_left link.net.length_le]
  rw [BitVec.le_def, Address.toNat_word]
  exact Nat.not_le_of_lt below

/-- A word has room for the count behind a host that is handed out. -/
theorem succ_nextHost_lt (below : link.nextHost.toNat < link.net.hostMask.number) :
    link.nextHost.toNat + 1 < Family.v6.size :=
  Nat.lt_of_le_of_lt below (Nat.lt_of_lt_of_le link.net.hostMask.bound family.size_le)

/-- The next address of the pool, with every shift, difference and sum of words checked. -/
def checkedNextAddress (link : Link family) :
    Checked (Option (InterfaceAddress family) × Link family) := do
  let hostMask ← link.net.checkedHostMask
  if hostMask.word ≤ link.nextHost then return (none, link)
  else
    let further ← Checked.sum link.nextHost 1
    return (some (.unicast (.ofWord (link.net.address.word ||| link.nextHost)) link.net.length),
      { link with nextHost := further })

/-- No call of a pool overflows. -/
theorem checkedNextAddress_eq (link : Link family) :
    link.checkedNextAddress = .ok link.nextAddress := by
  rw [checkedNextAddress, Prefix.checkedHostMask_eq, Checked.ok_bind, nextAddress]
  -- The sum is made only below the last host, where it fits.
  split
  case isTrue => rfl
  case isFalse below =>
    rw [BitVec.le_def, Address.toNat_word, Nat.not_le] at below
    rw [Checked.sum_ok (succ_nextHost_lt below)]
    rfl

end Next

/-- Something that is done to a link. -/
inductive Operation (family : Family)
  /-- The next address of the pool is asked for. -/
  | next
  | addRouter (router : Address family)
  | removeRouter (router : Address family)
  | attach (interface : InterfaceId)
  | detach (gone : List InterfaceId)

/-- Whether an operation is a call of the pool. -/
def Operation.isCall : Operation family → Bool
  | next => true
  | _ => false

/-- A link, and what it has answered to those who asked for an address. -/
structure Session (family : Family) where
  link : Link family
  answers : List (Option (InterfaceAddress family)) := []

namespace Session

/-- The session after an operation. -/
def step (session : Session family) : Operation family → Session family
  | .next =>
    { link := session.link.nextAddress.2
      answers := session.answers ++ [session.link.nextAddress.1] }
  | .addRouter router => { session with link := session.link.addRouter router }
  | .removeRouter router => { session with link := session.link.removeRouter router }
  | .attach interface =>
    { session with link := { session.link with members := session.link.members ++ [interface] } }
  | .detach gone =>
    { session with link := { session.link with
      members := session.link.members.filter fun member => !gone.contains member } }

/-- The session after a run of operations. -/
def run (session : Session family) (operations : List (Operation family)) : Session family :=
  operations.foldl step session

end Session

/-- What the pool of a link on a prefix is to answer to a call, the first of which is number one. -/
def Answers (net : Prefix family) (call : Nat) (answer : Option (InterfaceAddress family)) : Prop :=
  if call < net.hostMask.number then
    ∃ address : Address family, address.number = net.address.number + call ∧
      answer = some ⟨address, some net.length, .unicast⟩
  else answer = none

section Answers

variable {net : Prefix family} {call : Nat} {entry : InterfaceAddress family}

/-- An address that is handed out is that many addresses behind the network address. -/
theorem Answers.number (answers : Answers net call (some entry)) :
    call < net.hostMask.number ∧ entry.address.number = net.address.number + call := by
  unfold Answers at answers
  -- Beyond the last host no address is handed out.
  split at answers
  · rename_i below
    obtain ⟨address, counted, same⟩ := answers
    cases same
    exact ⟨below, counted⟩
  · cases answers

/-- What is handed out lies in the prefix, and away from its two ends. -/
theorem Answers.within (answers : Answers net call (some entry)) (later : 0 < call) :
    net.contains entry.address ∧ entry.address ≠ net.address ∧
      entry.address ≠ net.directedBroadcast := by
  -- The number of the address is that of the prefix and the count of the call, between its two ends.
  obtain ⟨below, counted⟩ := answers.number
  have last := net.number_directedBroadcast
  rw [← net.number_hostMask] at last
  refine ⟨(net.contains_iff_interval _).mpr (by omega), fun same => ?_, fun same => ?_⟩
  · have number := congrArg Address.number same
    omega
  · have number := congrArg Address.number same
    omega

end Answers

/-- The pool of a link on a prefix after some calls, all of them answered as they should be. -/
structure Stocked (net : Prefix family) (session : Session family) : Prop where
  same : session.link.net = net
  /-- The counter stops in front of the last host, which is never handed out. -/
  next : session.link.nextHost.toNat = min (session.answers.length + 1) (max 1 net.hostMask.number)
  answered : ∀ call answer, session.answers[call]? = some answer → Answers net (call + 1) answer

namespace Stocked

variable {net : Prefix family} {session : Session family}

/-- A new link has not been called. -/
theorem create (net : Prefix family) : Stocked net ⟨.create net, []⟩ where
  same := rfl
  next := by
    change 1 = min 1 (max 1 net.hostMask.number)
    omega
  answered := fun call answer there => by cases there

/-- A call that is answered as it should be leaves the pool right. -/
theorem answer (stocked : Stocked net session) {link : Link family}
    {answer : Option (InterfaceAddress family)} (same : link.net = net)
    (next : link.nextHost.toNat = min (session.answers.length + 2) (max 1 net.hostMask.number))
    (right : Answers net (session.answers.length + 1) answer) :
    Stocked net ⟨link, session.answers ++ [answer]⟩ where
  same := same
  next := by rw [List.length_append, List.length_singleton, next]
  -- Earlier calls are answered as before, this call is answered now, and no later one is.
  answered := fun call given there => by
    rcases Nat.lt_trichotomy call session.answers.length with early | rfl | late
    · rw [List.getElem?_append_left early] at there
      exact stocked.answered call given there
    · rw [List.getElem?_concat_length] at there
      cases there
      exact right
    · rw [List.getElem?_eq_none (by rw [List.length_append]; exact late)] at there
      cases there

/-- Whatever is done to a link, its pool stays right. -/
theorem step (stocked : Stocked net session) (operation : Operation family) :
    Stocked net (session.step operation) := by
  -- Only a call moves the counter, and routers and interfaces come and go beside it.
  cases operation with
  | next =>
    have count := stocked.next
    have last := net.number_hostMask
    rw [← stocked.same] at count last
    by_cases below : session.link.nextHost.toNat < session.link.net.hostMask.number
    case pos =>
      -- The counter is the number of this call.
      have call : session.link.nextHost.toNat = session.answers.length + 1 := by omega
      have counted := session.link.net.number_ofWord_or
        (show session.link.nextHost.toNat < family.span session.link.net.length by omega)
      have room := succ_nextHost_lt below
      rw [Session.step, nextAddress_of_lt below]
      refine stocked.answer stocked.same ?_ ?_
      · change (session.link.nextHost + 1).toNat = _
        rw [BitVec.toNat_add_of_lt room, call, ← stocked.same]
        change session.answers.length + 1 + 1 = _
        omega
      · rw [Answers, ← stocked.same, if_pos (call ▸ below)]
        exact ⟨_, call ▸ counted, rfl⟩
    case neg =>
      -- The pool is at its end, and so is the counter.
      rw [Session.step, nextAddress_of_le (Nat.le_of_not_lt below)]
      refine stocked.answer stocked.same ?_ ?_
      · change session.link.nextHost.toNat = _
        rw [← stocked.same]
        omega
      · rw [Answers, ← stocked.same, if_neg (by omega)]
  | addRouter router => exact ⟨stocked.same, stocked.next, stocked.answered⟩
  | removeRouter router => exact ⟨stocked.same, stocked.next, stocked.answered⟩
  | attach interface => exact ⟨stocked.same, stocked.next, stocked.answered⟩
  | detach gone => exact ⟨stocked.same, stocked.next, stocked.answered⟩

/-- In every run the pool stays right. -/
theorem run (stocked : Stocked net session) (operations : List (Operation family)) :
    Stocked net (session.run operations) := by
  induction operations generalizing session with
  | nil => exact stocked
  | cons operation rest ih => exact ih (stocked.step operation)

/-- No address is handed out twice. -/
theorem nodup (stocked : Stocked net session) :
    (session.answers.filterMap fun answer => answer.map (·.address)).Nodup := by
  rw [List.Nodup, List.pairwise_filterMap, List.pairwise_iff_getElem]
  intro one other early late before first given second again same
  obtain ⟨entry, there, rfl⟩ := Option.map_eq_some_iff.mp given
  obtain ⟨later, here, rfl⟩ := Option.map_eq_some_iff.mp again
  -- The addresses of two calls are as far from each other as the calls.
  have start := (stocked.answered one _ (there ▸ List.getElem?_eq_getElem early)).number.2
  have stop := (stocked.answered other _ (here ▸ List.getElem?_eq_getElem late)).number.2
  rw [same] at start
  omega

end Stocked

/-- Every call is answered. -/
theorem Session.length_answers (session : Session family) (operations : List (Operation family)) :
    (session.run operations).answers.length =
      session.answers.length + operations.countP (·.isCall) := by
  -- Induction on the operations, of which only a call adds an answer.
  induction operations generalizing session with
  | nil => rfl
  | cons operation rest ih =>
    rw [run, List.foldl_cons, ← run, ih, List.countP_cons]
    cases operation with
    | next => simp [step, Operation.isCall, Nat.add_assoc, Nat.add_comm]
    | _ => rfl

/-- Whatever else is done to a link, the pool answers its calls one after the other with the hosts behind the network
address, as long as there is one in front of the highest address, and with nothing from then on. So no address is
handed out twice, all lie within the prefix and away from its two ends, and the next call does not overflow either. -/
theorem pool_hands_out_once (net : Prefix family) (operations : List (Operation family)) :
    let session := Session.run ⟨.create net, []⟩ operations
    session.answers.length = operations.countP (·.isCall) ∧
      (∀ call answer, session.answers[call]? = some answer → Answers net (call + 1) answer) ∧
      (session.answers.filterMap fun answer => answer.map (·.address)).Nodup ∧
      (∀ entry, some entry ∈ session.answers → net.contains entry.address ∧
        entry.address ≠ net.address ∧ entry.address ≠ net.directedBroadcast) ∧
      session.link.checkedNextAddress = .ok session.link.nextAddress := by
  -- The stock of the link holds at every moment, and the other parts are read off it.
  have stocked := (Stocked.create net).run operations
  refine ⟨?_, stocked.answered, stocked.nodup, fun entry given => ?_, checkedNextAddress_eq _⟩
  · rw [Session.length_answers]
    exact Nat.zero_add _
  · obtain ⟨call, there⟩ := List.mem_iff_getElem?.mp given
    exact (stocked.answered call _ there).within (Nat.zero_lt_succ call)

/-- Of the four addresses of 10.0.0.0/30 two are handed out. -/
example : (Session.run ⟨.create (.containing (.ofNat 0x0A000000 : Address .v4) 30), []⟩
      [.next, .attach 7, .next, .next]).answers =
    [some (.unicast (.ofNat 0x0A000001) 30), some (.unicast (.ofNat 0x0A000002) 30), none] := rfl

end NetworkLayer.Link
