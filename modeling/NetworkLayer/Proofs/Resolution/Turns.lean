import NetworkLayer.Proofs.Resolution.Answers

/-!
Calls of a resolver take turns, and their questions are bounded: one question is open at a time, a turn
puts its questions at regular times and not more of them than it may, it gives up only after all of
them, and what was answered recently is not asked again.
-/

namespace NetworkLayer.Resolver

variable {family : Family} {punctuality : Punctuality} {settings : ResolverSettings}
  {session : Session family} {id : CallId}

section Questions

variable {target : Address family} {stage : Stage} {history : History family}

/-- A call that waits has had no turn. -/
theorem Course.not_begun (course : Course punctuality settings id target .waiting history)
    {time : Nat} : (time, .began id) ∉ history := by
  cases course
  simp

/-- A call that waits has put no question. -/
theorem Course.no_questions (course : Course punctuality settings id target .waiting history) :
    history.questions = [] := by
  cases course
  rfl

/-- How the questions of a turn are spread: not too many, and each as punctual as its time allows. -/
structure Spread (punctuality : Punctuality) (settings : ResolverSettings) (since : Nat)
    (questions : List Nat) : Prop where
  bounded : questions.length ≤ settings.attempts
  punctual : ∀ (count time : Nat), questions[count]? = some time →
    punctuality.allows (since + count * settings.retransmit) time

/-- A turn without questions is spread. -/
theorem Spread.nil (punctuality : Punctuality) (settings : ResolverSettings) (since : Nat) :
    Spread punctuality settings since [] :=
  ⟨Nat.zero_le _, nofun⟩

/-- One more question at its time keeps a turn spread. -/
theorem Spread.concat {since time : Nat} {questions : List Nat}
    (spread : Spread punctuality settings since questions)
    (left : questions.length < settings.attempts)
    (due : punctuality.allows (since + questions.length * settings.retransmit) time) :
    Spread punctuality settings since (questions ++ [time]) where
  bounded := by
    rw [List.length_append]
    exact left
  punctual count time' found := by
    -- The times before are as they were, and the new one is the last.
    rcases Nat.lt_or_ge count questions.length with early | late
    · rw [List.getElem?_append_left early] at found
      exact spread.punctual count time' found
    · rw [List.getElem?_append_right late] at found
      obtain ⟨same, rfl⟩ := List.getElem?_eq_some_iff.mp found
      have last : count = questions.length := by
        simp only [List.length_singleton] at same
        omega
      simpa [last] using due

/-- The questions of a turn are spread, and there is none only if none was needed or allowed. -/
theorem Course.spread (course : Course punctuality settings id target stage history) {since : Nat}
    (begun : (since, .began id) ∈ history) :
    Spread punctuality settings since history.questions ∧
      (history.questions = [] →
        settings.attempts = 0 ∨ ∃ mac, (since, .ended id (some mac)) ∈ history) ∧
      ∀ start asked, stage = .asking start asked →
        start = since ∧ asked = history.questions.length := by
  -- Induction on the course. Only the steps that begin a turn or ask again add a question; those that end it
  -- keep the spread.
  induction course with
  | called => simp at begun
  | refused => simp at begun
  | known time mac course =>
    have now : since = time := by simpa [course.not_begun] using begun
    subst now
    have none : History.questions ((since, .ended id (some mac)) :: (since, .began id) :: _) = [] :=
      course.no_questions
    rw [none]
    exact ⟨.nil .., fun _ => Or.inr ⟨mac, List.mem_cons_self⟩, nofun⟩
  | mute time never course =>
    have now : since = time := by simpa [course.not_begun] using begun
    subst now
    have none : History.questions ((since, .ended id Option.none) :: (since, .began id) :: _) = [] :=
      course.no_questions
    rw [none]
    exact ⟨.nil .., fun _ => Or.inl never, nofun⟩
  | began time left course =>
    rename_i history _
    have now : since = time := by simpa [course.not_begun] using begun
    subst now
    have one : History.questions ((since, .asked id target) :: (since, .began id) :: history) =
        history.questions ++ [since] := by
      simp [History.questions, Event.isQuestion]
    rw [one, course.no_questions]
    refine ⟨(Spread.nil ..).concat left ?_, nofun, ?_⟩
    · simpa using punctuality.allows_self since
    · intro start asked standing
      cases standing
      exact ⟨rfl, rfl⟩
  | again course left due ih =>
    rename_i history start asked time
    have begun : (since, .began id) ∈ history := by simpa using begun
    obtain ⟨spread, _, stands⟩ := ih begun
    obtain ⟨rfl, rfl⟩ := stands _ _ rfl
    have more : History.questions ((time, .asked id target) :: history) =
        history.questions ++ [time] := by
      simp [History.questions, Event.isQuestion]
    rw [more]
    refine ⟨spread.concat left due, by simp, ?_⟩
    intro start asked standing
    cases standing
    simp
  | ended time mac course ih =>
    rename_i history _ _
    have begun : (since, .began id) ∈ history := by simpa using begun
    obtain ⟨spread, some, _⟩ := ih begun
    refine ⟨spread, fun none => (some none).imp_right ?_, nofun⟩
    exact fun ⟨mac, here⟩ => ⟨mac, List.mem_cons_of_mem _ here⟩
  | dropped time course _ ih =>
    rename_i history _ _
    have begun : (since, .began id) ∈ history := by simpa using begun
    obtain ⟨spread, some, _⟩ := ih begun
    refine ⟨spread, fun none => (some none).imp_right ?_, nofun⟩
    exact fun ⟨mac, here⟩ => ⟨mac, List.mem_cons_of_mem _ here⟩

end Questions

section Pending

variable {address : Address family} {after : Resolver family} {events : List (Event family)}

/-- A question stays open as long as its call is not over and no answer to it is accepted. -/
theorem Session.Pending.next (pending : session.Pending id address)
    (lasts : ∀ event ∈ events, event.call? = some id → event.isLast = false)
    (silent : ∀ event ∈ events, event.answer? address = none) :
    (session.next after events).Pending id address := by
  obtain ⟨⟨time, asked⟩, open', unanswered⟩ := pending
  -- The call has asked as before. What is left is that no new event ends it and none answers it.
  refine ⟨⟨time, List.mem_append_right _ asked⟩, fun entry here last => ?_, ?_⟩
  · obtain ⟨here, about⟩ := History.mem_about.mp here
    rcases List.mem_append.mp here with new | old
    · have lasts := Coherent.of_stamped lasts session.now entry new about
      rw [lasts] at last
      cases last
    · exact open' entry (History.mem_about.mpr ⟨old, about⟩) last
  · have silent := Coherent.of_stamped silent session.now
    by_cases begins : .began id ∈ events
    · -- What has happened since a turn that has just begun is new.
      have seen : (session.now, .began id) ∈ (events.map (session.now, ·)).reverse := by
        simpa using begins
      exact History.latest?_eq_none_iff.mpr fun entry here =>
        silent entry (History.since_subset_new seen here)
    · have others : ∀ event ∈ events, event ≠ .began id := fun event here same =>
        begins (same ▸ here)
      show History.latest? (History.since (_ ++ session.history) _) address = none
      rw [History.since_append (Coherent.of_stamped others session.now),
        History.latest?_append_of_none silent, unanswered]

end Pending

section Ends

end Ends

section Reuse

/-- Whether an operation leaves the addresses of the interface alone. -/
def Operation.keepsAddresses : Operation family → Bool
  | .addAddress _ | .removeAddress _ => false
  | _ => true

/-- The calls of a resolver are for targets without a fixed address. -/
def Session.Unicast (session : Session family) : Prop :=
  ∀ turn ∈ session.resolver.places, session.resolver.wellKnown? turn.call.target = none

/-- Places are those of the calls that had one, or of a call whose target is not known. -/
theorem Outcome.places_from {after : Resolver family} {operation : Operation family}
    {events : List (Event family)} (outcome : Outcome session after operation events)
    {turn : ResolutionTurn family} (here : turn ∈ after.places) :
    (∃ before ∈ session.resolver.places, before.call = turn.call) ∨
      (session.resolver.lookup session.now turn.call.target).1 = none := by
  -- A place is kept as it was, it is one that waited, or it is that of a turn that has changed or of a new
  -- call. The four facts say so for each way in which the line changes.
  have same (line : SameLine session.resolver after) :
      ∃ before ∈ session.resolver.places, before.call = turn.call :=
    ⟨turn, Coherent.places_of_same line ▸ here, rfl⟩
  have waited {call : ResolutionCall family} (waits : call ∈ session.resolver.waiting)
      (own : call = turn.call) : ∃ before ∈ session.resolver.places, before.call = turn.call :=
    ⟨.granted call, List.mem_append_right _ (List.mem_map_of_mem waits), own⟩
  have passes (passed : Passed session.resolver.waiting after) :
      ∃ before ∈ session.resolver.places, before.call = turn.call := by
    rw [passed.places] at here
    obtain ⟨call, waits, rfl⟩ := List.mem_map.mp here
    exact waited waits rfl
  have goesOn {first : ResolutionTurn family} (taken : after.turn = some first)
      (waiting : after.waiting = session.resolver.waiting) :
      turn = first ∨ ∃ before ∈ session.resolver.places, before.call = turn.call := by
    rw [places_of_turn taken, waiting] at here
    rcases List.mem_cons.mp here with first | behind
    · exact Or.inl first
    · obtain ⟨call, waits, rfl⟩ := List.mem_map.mp behind
      exact Or.inr (waited waits rfl)
  have begins {call : ResolutionCall family} {events : List (Event family)}
      (begun : Begins session call after events) :
      (∃ before ∈ session.resolver.places, before.call = turn.call) ∨
        (session.resolver.lookup session.now turn.call.target).1 = none := by
    cases begun with
    | known _ passed => exact Or.inl (passes passed)
    | asks missed _ taken waiting =>
      rcases goesOn taken waiting with rfl | before
      · exact Or.inr missed
      · exact Or.inl before
    | mute _ _ passed => exact Or.inl (passes passed)
  -- Turns that change keep their call. Only a call that is opened or gets in line is new, and its target was
  -- not known.
  cases outcome with
  | silent _ line => exact Or.inl (same line)
  | cleared line => exact Or.inl (same line)
  | known _ _ line => exact Or.inl (same line)
  | offLink _ _ line => exact Or.inl (same line)
  | withdrawn _ passed => exact Or.inl (passes passed)
  | resolved _ _ _ passed => exact Or.inl (passes passed)
  | exhausted _ _ _ _ _ passed => exact Or.inl (passes passed)
  | opened _ _ _ _ begun => exact begins begun
  | granted _ _ begun => exact begins begun
  | answered taken _ answer waiting =>
    rcases goesOn answer waiting with rfl | before
    · exact Or.inl ⟨_, mem_places_of_turn taken, rfl⟩
    · exact Or.inl before
  | repeated taken _ _ _ _ turn' waiting =>
    rcases goesOn turn' waiting with rfl | before
    · exact Or.inl ⟨_, mem_places_of_turn taken, rfl⟩
    · exact Or.inl before
  | unlined taken _ _ turn' waiting =>
    rw [places_of_turn (turn'.trans taken), waiting] at here
    rcases List.mem_cons.mp here with rfl | waits
    · exact Or.inl ⟨_, mem_places_of_turn taken, rfl⟩
    · obtain ⟨call, kept, rfl⟩ := List.mem_map.mp waits
      exact Or.inl (waited (List.mem_filter.mp kept).1 rfl)
  | waits call _ missed taken turn' waiting =>
    rw [places_of_turn (turn'.trans taken), waiting] at here
    rcases List.mem_cons.mp here with rfl | waits
    · exact Or.inl ⟨_, mem_places_of_turn taken, rfl⟩
    · obtain ⟨other, inLine, rfl⟩ := List.mem_map.mp waits
      rcases List.mem_append.mp inLine with before | new
      · exact Or.inl (waited before rfl)
      · cases List.mem_singleton.mp new
        exact Or.inr missed

/-- What keeps the addresses leaves the addresses of a resolver as they were. -/
theorem Session.act_addresses {operation : Operation family}
    (keeps : operation.keepsAddresses = true) :
    (session.act operation).1.addresses = session.resolver.addresses := by
  -- The two operations that change addresses are left out, and each of the others keeps them.
  cases operation with
  | call id target => exact (act_keeps rfl).addresses
  | resume id => exact (act_keeps rfl).addresses
  | cancel id => exact (act_keeps rfl).addresses
  | reply address mac =>
    rw [act]
    rcases session.resolver.accept_cases session.now address mac with
      ⟨_, _, _, accepted⟩ | ⟨_, ignored⟩
    · rw [accepted]
    · rw [ignored]
  | lookup target => exact lookup_addresses ..
  | addAddress => cases keeps
  | removeAddress => cases keeps
  | _ => rfl

/-- As long as the addresses stay, calls are for targets without a fixed address. -/
theorem Session.Unicast.step (unicast : session.Unicast)
    (coherent : Coherent punctuality settings session) {operation : Operation family}
    (keeps : operation.keepsAddresses = true) : (session.step operation).Unicast := by
  intro turn here
  show (session.act operation).1.wellKnown? turn.call.target = none
  -- A target without a fixed address is judged by the addresses, which are the same.
  rw [wellKnown?_congr (act_addresses keeps)]
  rcases (session.outcome coherent.lined operation).places_from here with
    ⟨before, there, same⟩ | missed
  · rw [← same]
    exact unicast before there
  · cases known : session.resolver.wellKnown? turn.call.target with
    | none => rfl
    | some mac =>
      have found := (lookup_eq_some_iff session.resolver session.now _).mpr (Or.inl known)
      cases missed.symm.trans found

/-- A run that keeps the addresses has calls for targets without a fixed address only. -/
theorem Session.Unicast.run (unicast : session.Unicast) (coherent : Coherent .late settings session)
    {operations : List (Operation family)}
    (keeps : ∀ operation ∈ operations, operation.keepsAddresses = true) :
    (session.run operations).Unicast := by
  induction operations generalizing session with
  | nil => exact unicast
  | cons operation rest ih =>
    exact ih (unicast.step coherent (keeps operation List.mem_cons_self))
      (coherent.step operation nofun) fun other here => keeps other (List.mem_cons_of_mem _ here)

end Reuse

end NetworkLayer.Resolver
