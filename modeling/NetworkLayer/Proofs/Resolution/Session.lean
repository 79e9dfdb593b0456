import NetworkLayer.Proofs.Resolution.Step

/-!
Sessions of a resolver: calls, answers, cancellations, look-ups, changes of addresses and passing time
come in any order, and a history keeps what each of them has led to.
-/

namespace NetworkLayer.Resolver

variable {family : Family}

/-- Something that happens in a session of a resolver. -/
inductive Event (family : Family)
  | called (id : CallId) (target : Address family)
  /-- A call has taken its turn. -/
  | began (id : CallId)
  /-- The question of a call has gone out. -/
  | asked (id : CallId) (target : Address family)
  /-- An answer from the link was accepted. -/
  | answered (address : Address family) (mac : Mac)
  | ended (id : CallId) (mac : Option Mac)
  /-- A call was given up. -/
  | dropped (id : CallId)
  /-- The cache was emptied. -/
  | cleared
deriving DecidableEq

namespace Event

/-- The call that an event is about. -/
def call? : Event family → Option CallId
  | .called id _ | .began id | .asked id _ | .ended id _ | .dropped id => some id
  | .answered .. | .cleared => none

/-- What an event says about an address. -/
def answer? (address : Address family) : Event family → Option Mac
  | .answered other mac => if other = address then some mac else none
  | _ => none

/-- The target that an event names. -/
def target? : Event family → Option (Address family)
  | .called _ target | .asked _ target => some target
  | _ => none

/-- Whether an event puts a question. -/
def isQuestion : Event family → Bool
  | .asked .. => true
  | _ => false

/-- Whether a call is over with an event. -/
def isLast : Event family → Bool
  | .ended .. | .dropped .. => true
  | _ => false

/-- The event that an effect of looking at a call stands for. -/
def ofEffect? (id : CallId) : ResolutionEffect family → Option (Event family)
  | .solicit target _ => some (.asked id target)
  | .finish call mac => some (.ended call mac)
  | .tally .. | .wake .. | .arm .. => none

/-- An event about a call is no answer. -/
theorem answer?_of_call {event : Event family} {id : CallId} (about : event.call? = some id)
    (address : Address family) : event.answer? address = none := by
  cases event <;> first | rfl | cases about

/-- Counting makes no event. -/
@[simp] theorem ofEffect?_tallies (id : CallId) (counters : List Counter) :
    (counters.map (@ResolutionEffect.tally family)).filterMap (ofEffect? id) = [] := by
  simp [ofEffect?]

/-- Passing the turn on makes no event. -/
@[simp] theorem ofEffect?_passTurn (id : CallId) (resolver : Resolver family) :
    resolver.passTurn.2.filterMap (ofEffect? id) = [] := by
  rw [List.filterMap_eq_nil_iff]
  intro effect caused
  obtain ⟨call, rfl⟩ := resolver.passTurn_effects caused
  rfl

end Event

/-- What has happened in a session and when, the latest first. -/
abbrev History (family : Family) := List (Nat × Event family)

namespace History

/-- What has happened to a call. -/
def about (history : History family) (id : CallId) : History family :=
  history.filter fun entry => entry.2.call? == some id

/-- When questions were put, the first one first. -/
def questions (history : History family) : List Nat :=
  ((history.filter (·.2.isQuestion)).map (·.1)).reverse

/-- The latest answer about an address that was accepted, and when. -/
def latest? (history : History family) (address : Address family) : Option (Nat × Mac) :=
  history.findSome? fun entry => (entry.2.answer? address).map (entry.1, ·)

/-- What has happened since an event was last seen. -/
def since (history : History family) (event : Event family) : History family :=
  history.takeWhile fun entry => entry.2 ≠ event

variable {history : History family} {entry : Nat × Event family} {id : CallId}
  {address : Address family}

/-- What has happened to a call is what the history has about it. -/
theorem mem_about : entry ∈ history.about id ↔ entry ∈ history ∧ entry.2.call? = some id := by
  simp [about]

/-- A call goes through the new events after the old ones. -/
theorem about_append (new old : History family) (id : CallId) :
    about (new ++ old) id = about new id ++ about old id :=
  List.filter_append ..

/-- New events that are not about a call add nothing to what has happened to it. -/
theorem about_append_of_foreign {new : History family}
    (foreign : ∀ entry ∈ new, entry.2.call? ≠ some id) (old : History family) :
    about (new ++ old) id = about old id := by
  rw [about_append, about, List.filter_eq_nil_iff.mpr, List.nil_append]
  intro entry here
  rw [beq_iff_eq]
  exact foreign entry here

/-- New events that are all about a call come on top of what has happened to it. -/
theorem about_append_of_own {new : History family}
    (own : ∀ entry ∈ new, entry.2.call? = some id) (old : History family) :
    about (new ++ old) id = new ++ about old id := by
  rw [about_append, about, List.filter_eq_self.mpr]
  intro entry here
  rw [beq_iff_eq]
  exact own entry here

/-- Of the new answers and the old ones, the new ones are later. -/
theorem latest?_append (new old : History family) (address : Address family) :
    latest? (new ++ old) address = (latest? new address).or (latest? old address) :=
  List.findSome?_append

/-- There is no latest answer where there is no answer. -/
theorem latest?_eq_none_iff :
    history.latest? address = none ↔ ∀ entry ∈ history, entry.2.answer? address = none := by
  simp [latest?, List.findSome?_eq_none_iff]

/-- New events that are no answers leave the latest answer as it was. -/
theorem latest?_append_of_none {new : History family}
    (silent : ∀ entry ∈ new, entry.2.answer? address = none) (old : History family) :
    latest? (new ++ old) address = latest? old address := by
  rw [latest?_append, latest?_eq_none_iff.mpr silent, Option.none_or]

/-- The latest answer was accepted. -/
theorem mem_of_latest? {time : Nat} {mac : Mac}
    (latest : history.latest? address = some (time, mac)) :
    (time, .answered address mac) ∈ history := by
  -- The latest answer is the first event that tells one for the address, and only an acceptance tells one.
  obtain ⟨⟨time', event⟩, here, told⟩ := List.exists_of_findSome?_eq_some latest
  cases event with
  | answered other mac' =>
    rw [Event.answer?] at told
    split at told
    · rename_i same
      cases told
      exact same ▸ here
    · cases told
  | _ => cases told

/-- An answer that is the latest since some event is the latest of all. -/
theorem latest?_of_since {event : Event family} {answer : Nat × Mac}
    (latest : (history.since event).latest? address = some answer) :
    history.latest? address = some answer := by
  have split : history = history.since event ++ history.dropWhile fun entry => entry.2 ≠ event :=
    (List.takeWhile_append_dropWhile ..).symm
  rw [split, latest?_append, latest, Option.some_or]

/-- New events belong to what has happened since an event that is not among them. -/
theorem since_append {new : History family} {event : Event family}
    (other : ∀ entry ∈ new, entry.2 ≠ event) (old : History family) :
    since (new ++ old) event = new ++ since old event := by
  rw [since, since, List.takeWhile_append_of_pos]
  intro entry here
  exact decide_eq_true (other entry here)

/-- What has happened since a new event is new. -/
theorem since_subset_new {new old : History family} {event : Event family} {time : Nat}
    (seen : (time, event) ∈ new) : since (new ++ old) event ⊆ new := by
  induction new with
  | nil => cases seen
  | cons first rest ih =>
    intro entry here
    rw [since, List.cons_append, List.takeWhile_cons] at here
    split at here
    · rename_i differs
      rcases List.mem_cons.mp here with rfl | later
      · exact List.mem_cons_self
      · -- The first event is another one, so the event is among the rest.
        rcases List.mem_cons.mp seen with rfl | seen
        · simp at differs
        · exact List.mem_cons_of_mem _ (ih seen later)
    · cases here

end History

/-- Something that is done to a resolver, or time that passes. -/
inductive Operation (family : Family)
  /-- A call starts. -/
  | call (id : CallId) (target : Address family)
  /-- A call is looked at again. -/
  | resume (id : CallId)
  /-- A call is given up. -/
  | cancel (id : CallId)
  /-- An answer arrives from the link. -/
  | reply (address : Address family) (mac : Mac)
  /-- A next hop is looked up. -/
  | lookup (target : Address family)
  /-- The cache is emptied. -/
  | clear
  | addAddress (entry : InterfaceAddress family)
  | removeAddress (address : Address family)
  /-- Time passes. -/
  | advance (span : Nat)
deriving DecidableEq

/-- A resolver at a time, and all that has happened to it. -/
structure Session (family : Family) where
  now : Nat
  resolver : Resolver family
  history : History family

namespace Session

/-- A session that begins with a resolver that has some addresses. -/
def fresh (now : Nat) (settings : ResolverSettings) (mac : Mac)
    (addresses : List (InterfaceAddress family)) : Session family :=
  ⟨now, { create settings mac with addresses }, []⟩

/-- The session after events, the first one first, that have left its resolver in another state. -/
def next (session : Session family) (resolver : Resolver family) (events : List (Event family)) :
    Session family :=
  { session with
    resolver
    history := (events.map (session.now, ·)).reverse ++ session.history }

/-- Whether a new call for a target takes its turn at once. -/
def opens (session : Session family) (target : Address family) : Bool :=
  (session.resolver.lookup session.now target).1.isNone &&
    (session.resolver.sourceFor? target).isSome && session.resolver.turn.isNone

/-- Whether a call that has waited takes its turn. -/
def granted (session : Session family) (id : CallId) : Bool :=
  session.resolver.turn.any fun turn => turn.call.id == id && turn.asked == 0

/-- What an operation makes of the resolver, and what happens with it. -/
def act (session : Session family) : Operation family → Resolver family × List (Event family)
  | .call id target =>
    -- Every call has an identity of its own.
    if session.history.about id ≠ [] then (session.resolver, [])
    else
      let (resolver, effects) := session.resolver.start session.now id target
      (resolver, .called id target :: ((if session.opens target then [.began id] else []) ++
        effects.filterMap (Event.ofEffect? id)))
  | .resume id =>
    let (resolver, effects) := session.resolver.resume session.now id
    (resolver, (if session.granted id then [.began id] else []) ++
      effects.filterMap (Event.ofEffect? id))
  | .cancel id =>
    ((session.resolver.cancel id).1,
      if session.resolver.places.any (·.call.id == id) then [.dropped id] else [])
  | .reply address mac =>
    let (accepted, resolver, _) := session.resolver.accept session.now address mac
    (resolver, if accepted then [.answered address mac] else [])
  | .lookup target => ((session.resolver.lookup session.now target).2.1, [])
  | .clear => (session.resolver.clearCache, [.cleared])
  | .addAddress entry => (session.resolver.addAddress entry, [])
  | .removeAddress address => (session.resolver.removeAddress address, [])
  | .advance _ => (session.resolver, [])

variable {session : Session family}

/-- A call takes its turn when it is looked at with a turn that has not begun. -/
theorem granted_iff {id : CallId} : session.granted id ↔
    ∃ turn, session.resolver.turn = some turn ∧ turn.call.id = id ∧ turn.asked = 0 := by
  simp [granted, Option.any_eq_true]

/-- A call takes its turn at once if nothing else is to be done and no other call has the turn. -/
theorem opens_iff {target : Address family} : session.opens target ↔
    (session.resolver.lookup session.now target).1 = none ∧
      (∃ source, session.resolver.sourceFor? target = some source) ∧
      session.resolver.turn = none := by
  simp [opens, Option.isSome_iff_exists, and_assoc]

/-- The time that an operation takes. -/
def span : Operation family → Nat
  | .advance span => span
  | _ => 0

/-- The session after an operation. -/
def step (session : Session family) (operation : Operation family) : Session family :=
  let after := session.next (session.act operation).1 (session.act operation).2
  { after with now := session.now + span operation }

/-- The session after some operations. -/
def run (session : Session family) (operations : List (Operation family)) : Session family :=
  operations.foldl step session

/-- What one operation keeps, every run keeps. -/
theorem run_induction {holds : Session family → Prop} (start : holds session)
    (keeps : ∀ session operation, holds session → holds (session.step operation))
    (operations : List (Operation family)) : holds (session.run operations) := by
  induction operations generalizing session with
  | nil => exact start
  | cons operation rest ih => exact ih (keeps session operation start)

/-- Events in two parts follow one another. -/
theorem next_next (first second : Resolver family)
    (early late : List (Event family)) :
    (session.next first early).next second late = session.next second (early ++ late) := by
  simp [next]

/-- An event of a step is on record after it. -/
theorem mem_step {operation : Operation family} {event : Event family}
    (happens : event ∈ (session.act operation).2) :
    (session.now, event) ∈ (session.step operation).history := by
  simp [step, next, happens]

/-- What is on record stays there. -/
theorem history_step {operation : Operation family} {entry : Nat × Event family}
    (here : entry ∈ session.history) :
    entry ∈ (session.step operation).history := by
  simp [step, next, here]

end Session

end NetworkLayer.Resolver
