import NetworkLayer.Proofs.Resolution.Session

/-!
What an operation on a resolver can lead to: every outcome with its events, with what it makes of the
turn and of the waiting calls, and with what must have been so before.
-/

namespace NetworkLayer.Resolver

variable {family : Family}

/-- A resolver has the same turn and the same waiting calls as before. -/
structure SameLine (before after : Resolver family) : Prop where
  turn : after.turn = before.turn
  waiting : after.waiting = before.waiting

/-- What can happen as a call takes its turn. -/
inductive Begins (session : Session family) (call : ResolutionCall family)
    (after : Resolver family) : List (Event family) → Prop
  | known {mac : Mac} (found : (session.resolver.lookup session.now call.target).1 = some mac)
      (passed : Passed session.resolver.waiting after) :
      Begins session call after [.began call.id, .ended call.id (some mac)]
  | asks (missed : (session.resolver.lookup session.now call.target).1 = none)
      (left : 0 < session.resolver.settings.attempts)
      (turn : after.turn =
        some ⟨call, 1, session.now + session.resolver.settings.retransmit, none⟩)
      (waiting : after.waiting = session.resolver.waiting) :
      Begins session call after [.began call.id, .asked call.id call.target]
  | mute (missed : (session.resolver.lookup session.now call.target).1 = none)
      (never : session.resolver.settings.attempts = 0)
      (passed : Passed session.resolver.waiting after) :
      Begins session call after [.began call.id, .ended call.id none]

/-- What can happen as something is done to a resolver. -/
inductive Outcome (session : Session family) (after : Resolver family) :
    Operation family → List (Event family) → Prop
  /-- Nothing of note happens. -/
  | silent (operation : Operation family) (same : SameLine session.resolver after) :
      Outcome session after operation []
  | cleared (same : SameLine session.resolver after) : Outcome session after .clear [.cleared]
  | answered {address : Address family} {mac : Mac} {turn : ResolutionTurn family}
      (taken : session.resolver.turn = some turn) (awaited : turn.awaits address)
      (answer : after.turn = some { turn with answer := some mac })
      (waiting : after.waiting = session.resolver.waiting) :
      Outcome session after (.reply address mac) [.answered address mac]
  /-- The call whose turn it is was given up. -/
  | withdrawn {turn : ResolutionTurn family} (taken : session.resolver.turn = some turn)
      (passed : Passed session.resolver.waiting after) :
      Outcome session after (.cancel turn.call.id) [.dropped turn.call.id]
  /-- A call that waits was given up. -/
  | unlined {turn : ResolutionTurn family} {call : ResolutionCall family}
      (taken : session.resolver.turn = some turn) (other : turn.call.id ≠ call.id)
      (here : call ∈ session.resolver.waiting) (turn' : after.turn = session.resolver.turn)
      (waiting : after.waiting = session.resolver.waiting.filter (·.id ≠ call.id)) :
      Outcome session after (.cancel call.id) [.dropped call.id]
  /-- The turn is another call's. -/
  | waits (call : ResolutionCall family) {turn : ResolutionTurn family}
      (unknown : session.history.about call.id = [])
      (missed : (session.resolver.lookup session.now call.target).1 = none)
      (taken : session.resolver.turn = some turn) (turn' : after.turn = session.resolver.turn)
      (waiting : after.waiting = session.resolver.waiting ++ [call]) :
      Outcome session after (.call call.id call.target) [.called call.id call.target]
  | known {id : CallId} {target : Address family} {mac : Mac}
      (unknown : session.history.about id = [])
      (found : (session.resolver.lookup session.now target).1 = some mac)
      (same : SameLine session.resolver after) :
      Outcome session after (.call id target) [.called id target, .ended id (some mac)]
  | offLink {id : CallId} {target : Address family} (unknown : session.history.about id = [])
      (unreachable : session.resolver.sourceFor? target = none)
      (same : SameLine session.resolver after) :
      Outcome session after (.call id target) [.called id target, .ended id none]
  /-- The turn is free. -/
  | opened (call : ResolutionCall family) {events : List (Event family)}
      (unknown : session.history.about call.id = [])
      (missed : (session.resolver.lookup session.now call.target).1 = none)
      (free : session.resolver.turn = none) (begun : Begins session call after events) :
      Outcome session after (.call call.id call.target) (.called call.id call.target :: events)
  /-- The turn has passed to the call. -/
  | granted {turn : ResolutionTurn family} {events : List (Event family)}
      (taken : session.resolver.turn = some turn) (waited : turn.asked = 0)
      (begun : Begins session turn.call after events) :
      Outcome session after (.resume turn.call.id) events
  | resolved {turn : ResolutionTurn family} {mac : Mac}
      (taken : session.resolver.turn = some turn) (begun : turn.asked ≠ 0)
      (answer : turn.answer = some mac) (passed : Passed session.resolver.waiting after) :
      Outcome session after (.resume turn.call.id) [.ended turn.call.id (some mac)]
  | repeated {turn : ResolutionTurn family} (taken : session.resolver.turn = some turn)
      (begun : turn.asked ≠ 0) (unanswered : turn.answer = none)
      (lapsed : turn.deadline ≤ session.now) (left : turn.asked < session.resolver.settings.attempts)
      (turn' : after.turn = some { turn with
        asked := turn.asked + 1
        deadline := session.now + session.resolver.settings.retransmit })
      (waiting : after.waiting = session.resolver.waiting) :
      Outcome session after (.resume turn.call.id) [.asked turn.call.id turn.call.target]
  | exhausted {turn : ResolutionTurn family} (taken : session.resolver.turn = some turn)
      (begun : turn.asked ≠ 0) (unanswered : turn.answer = none)
      (lapsed : turn.deadline ≤ session.now)
      (spent : session.resolver.settings.attempts ≤ turn.asked)
      (passed : Passed session.resolver.waiting after) :
      Outcome session after (.resume turn.call.id) [.ended turn.call.id none]

/-- The call that an operation is about. -/
def Operation.call? : Operation family → Option CallId
  | .call id _ | .resume id | .cancel id => some id
  | _ => none

section Own

variable {session : Session family} {after : Resolver family} {events : List (Event family)}

/-- A turn that begins makes events of its call. -/
theorem Begins.own {call : ResolutionCall family} (begins : Begins session call after events) :
    ∀ event ∈ events, event.call? = some call.id := by
  cases begins <;> simp [Event.call?]

/-- What is done to a call makes events of that call. -/
theorem Outcome.own {operation : Operation family} {id : CallId}
    (outcome : Outcome session after operation events) (about : operation.call? = some id) :
    ∀ event ∈ events, event.call? = some id := by
  -- Most outcomes concern one call alone. Those that begin a turn pass on what the beginning says.
  cases outcome with
  | silent => exact nofun
  | cleared => cases about
  | answered => cases about
  | opened _ _ _ _ begun =>
    cases about
    exact List.forall_mem_cons.mpr ⟨rfl, begun.own⟩
  | granted _ _ begun =>
    cases about
    exact begun.own
  | _ =>
    cases about
    simp [Event.call?]

end Own

namespace Session

variable (session : Session family)

/-- A turn that begins has one of its outcomes. -/
theorem begin_begins (call : ResolutionCall family) :
    Begins session call (session.resolver.begin session.now call).1
      (.began call.id :: (session.resolver.begin session.now call).2.filterMap
        (Event.ofEffect? call.id)) := by
  -- After the look-up the line is the same, so the turn passes to those that waited before.
  have passed : Passed session.resolver.waiting
      (session.resolver.lookup session.now call.target).2.1.passTurn.1 := by
    rw [← lookup_waiting session.resolver session.now call.target]
    exact passTurn_passed _
  -- The effects are those of the resolver, of which only the question and the end are on record.
  rcases session.resolver.begin_cases session.now call with
    ⟨mac, found, begun⟩ | ⟨missed, ⟨left, begun⟩ | ⟨never, begun⟩⟩
  · rw [begun]
    simp only [List.filterMap_append, Event.ofEffect?_tallies, Event.ofEffect?_passTurn,
      List.nil_append, List.filterMap_cons, Event.ofEffect?, List.filterMap_nil]
    exact .known found passed
  · rw [begun]
    simp only [List.filterMap_append, Event.ofEffect?_tallies, List.nil_append,
      List.filterMap_cons, Event.ofEffect?, List.filterMap_nil]
    exact .asks missed left rfl (lookup_waiting ..)
  · rw [begun]
    simp only [List.filterMap_append, Event.ofEffect?_tallies, Event.ofEffect?_passTurn,
      List.nil_append, List.filterMap_cons, Event.ofEffect?, List.filterMap_nil]
    exact .mute missed never passed

/-- That a target was looked up changes nothing about how a turn begins. -/
theorem begins_of_looked {target : Address family} {call : ResolutionCall family}
    {after : Resolver family} {events : List (Event family)} (same : call.target = target)
    (begun : Begins (session.next (session.resolver.lookup session.now target).2.1 []) call after
      events) : Begins session call after events := by
  subst same
  -- A look-up keeps settings and line, and finds the same when it is repeated.
  have settings := lookup_settings session.resolver session.now call.target
  have waiting := lookup_waiting session.resolver session.now call.target
  cases begun with
  | known found passed => exact .known ((lookup_lookup ..).symm.trans found) (waiting ▸ passed)
  | asks missed left turn waits =>
    exact .asks ((lookup_lookup ..).symm.trans missed) (settings ▸ left) (settings ▸ turn)
      (waits.trans waiting)
  | mute missed never passed =>
    exact .mute ((lookup_lookup ..).symm.trans missed) (settings ▸ never) (waiting ▸ passed)

/-- A call that is made has one of its outcomes. -/
theorem call_outcome (id : CallId) (target : Address family) :
    Outcome session (session.act (.call id target)).1 (.call id target)
      (session.act (.call id target)).2 := by
  have same : SameLine session.resolver (session.resolver.lookup session.now target).2.1 :=
    ⟨lookup_turn .., lookup_waiting ..⟩
  -- A call that is on record already is not made again, so nothing happens.
  rw [act]
  by_cases unknown : session.history.about id = []
  case neg =>
    rw [if_pos unknown]
    exact .silent _ ⟨rfl, rfl⟩
  rw [if_neg fun known => known unknown]
  -- The resolver has four ways to start a call, and each is one of the outcomes.
  rcases session.resolver.start_cases session.now id target with
    ⟨mac, found, started⟩ | ⟨missed, ⟨unreachable, started⟩ | ⟨source, onLink, opened | waits⟩⟩
  · have closed : ¬ session.opens target := by
      simp [opens_iff, found]
    rw [started]
    simp only [if_neg closed, List.filterMap_append, Event.ofEffect?_tallies, List.nil_append,
      List.filterMap_cons, Event.ofEffect?, List.filterMap_nil]
    exact .known unknown found same
  · have closed : ¬ session.opens target := by
      simp [opens_iff, unreachable]
    rw [started]
    simp only [if_neg closed, List.nil_append, List.filterMap_cons, Event.ofEffect?,
      List.filterMap_nil]
    exact .offLink unknown unreachable same
  · rcases opened with ⟨free, started⟩
    have takes : session.opens target := opens_iff.mpr ⟨missed, ⟨source, onLink⟩, free⟩
    let call : ResolutionCall family := ⟨id, target, source⟩
    rw [started]
    simp only [if_pos takes, List.singleton_append]
    refine .opened call unknown missed free (session.begins_of_looked rfl ?_)
    exact begin_begins (session.next (session.resolver.lookup session.now target).2.1 []) call
  · rcases waits with ⟨turn, taken, started⟩
    have closed : ¬ session.opens target := by
      simp [opens_iff, taken]
    rw [started]
    simp only [if_neg closed, List.nil_append, List.filterMap_nil]
    exact .waits ⟨id, target, source⟩ unknown missed taken same.turn rfl

/-- A call that is looked at again has one of its outcomes. -/
theorem resume_outcome (id : CallId) :
    Outcome session (session.act (.resume id)).1 (.resume id) (session.act (.resume id)).2 := by
  -- Whether the turn begins depends on whether the call has asked before.
  rw [act]
  rcases session.resolver.resume_cases session.now id with
    ⟨others, resumed⟩ | ⟨turn, taken, rfl, ⟨waited, resumed⟩ | ⟨begun, goes⟩⟩
  · have waits : ¬ session.granted id := by
      intro granted
      obtain ⟨turn, taken, same, _⟩ := granted_iff.mp granted
      exact others turn taken same
    rw [resumed]
    simp only [if_neg waits]
    exact .silent _ ⟨rfl, rfl⟩
  · rw [resumed]
    simp only [if_pos (granted_iff.mpr ⟨turn, taken, rfl, waited⟩)]
    exact .granted taken waited (session.begin_begins turn.call)
  · have begun' : ¬ session.granted turn.call.id := by
      intro granted
      obtain ⟨other, taken', _, none⟩ := granted_iff.mp granted
      cases taken.symm.trans taken'
      exact begun none
    simp only [if_neg begun']
    rcases goes with ⟨mac, answer, resumed⟩ |
      -- The cases follow the order of the code: an answer, the deadline, the attempts.
      ⟨unanswered, ⟨lapsed, left, resumed⟩ | ⟨lapsed, spent, resumed⟩ | ⟨_, resumed⟩⟩
    · rw [resumed]
      simp only [List.filterMap_append, Event.ofEffect?_passTurn, List.nil_append,
        List.filterMap_cons, Event.ofEffect?, List.filterMap_nil]
      exact .resolved taken begun answer (passTurn_passed _)
    · rw [resumed]
      exact .repeated taken begun unanswered lapsed left rfl rfl
    · rw [resumed]
      simp only [List.filterMap_append, Event.ofEffect?_passTurn, List.nil_append,
        List.filterMap_cons, Event.ofEffect?, List.filterMap_nil]
      exact .exhausted taken begun unanswered lapsed spent (passTurn_passed _)
    · rw [resumed]
      exact .silent _ ⟨rfl, rfl⟩

/-- A call that is given up has one of its outcomes, if none waits while the turn is free. -/
theorem cancel_outcome (lined : session.resolver.turn = none → session.resolver.waiting = [])
    (id : CallId) :
    Outcome session (session.act (.cancel id)).1 (.cancel id) (session.act (.cancel id)).2 := by
  -- The call has the turn, waits behind another one, or finds the turn free, when no call waits.
  rw [act]
  rcases session.resolver.cancel_cases id with
    ⟨turn, taken, rfl, cancelled⟩ | ⟨turn, taken, other, cancelled⟩ | ⟨free, cancelled⟩
  · rw [cancelled, if_pos (List.any_eq_true.mpr ⟨turn, mem_places_of_turn taken, by simp⟩)]
    exact .withdrawn taken (passTurn_passed _)
  · rw [cancelled]
    by_cases here : ∃ call ∈ session.resolver.waiting, call.id = id
    · obtain ⟨call, here, rfl⟩ := here
      rw [if_pos (by simp [places_of_turn taken, ResolutionTurn.granted]; exact Or.inr ⟨_, here, rfl⟩)]
      exact .unlined taken other here rfl rfl
    · have kept : session.resolver.waiting.filter (·.id ≠ id) = session.resolver.waiting := by
        rw [List.filter_eq_self]
        intro call waits
        exact decide_eq_true fun same => here ⟨call, waits, same⟩
      rw [if_neg (by simpa [places_of_turn taken, ResolutionTurn.granted, other] using here)]
      exact .silent _ ⟨rfl, kept⟩
  · rw [cancelled, if_neg (by simp [places, free, lined free])]
    exact .silent _ ⟨rfl, rfl⟩

/-- Whatever is done has one of its outcomes, if no call waits while the turn is free. -/
theorem outcome (lined : session.resolver.turn = none → session.resolver.waiting = [])
    (operation : Operation family) :
    Outcome session (session.act operation).1 operation (session.act operation).2 := by
  -- Calls have lemmas of their own, replies are accepted or not, and all else leaves the line as it was.
  cases operation with
  | call id target => exact session.call_outcome id target
  | resume id => exact session.resume_outcome id
  | cancel id => exact session.cancel_outcome lined id
  | reply address mac =>
    rw [act]
    rcases session.resolver.accept_cases session.now address mac with
      ⟨turn, taken, awaited, accepted⟩ | ⟨_, ignored⟩
    · rw [accepted]
      exact .answered taken awaited rfl rfl
    · rw [ignored]
      exact .silent _ ⟨rfl, rfl⟩
  | lookup target => exact .silent _ ⟨lookup_turn .., lookup_waiting ..⟩
  | clear => exact .cleared ⟨rfl, rfl⟩
  | addAddress entry =>
    rw [act, addAddress]
    split
    · exact .silent _ ⟨rfl, rfl⟩
    · exact .silent _ ⟨rfl, rfl⟩
  | removeAddress => exact .silent _ ⟨rfl, rfl⟩
  | advance => exact .silent _ ⟨rfl, rfl⟩

section Effects

variable {id : CallId} {target : Address family} {mac : Option Mac}

/-- An effect that ends a call makes the event that it has ended. -/
theorem ended_of_finish {effects : List (ResolutionEffect family)} {call : CallId}
    (caused : .finish call mac ∈ effects) :
    .ended call mac ∈ effects.filterMap (Event.ofEffect? id) :=
  List.mem_filterMap.mpr ⟨_, caused, rfl⟩

/-- A call that is made starts, and it is on record. -/
theorem act_call (unknown : session.history.about id = []) :
    (session.act (.call id target)).1 = (session.resolver.start session.now id target).1 ∧
      .called id target ∈ (session.act (.call id target)).2 := by
  rw [act, if_neg fun known => known unknown]
  exact ⟨rfl, List.mem_cons_self⟩

/-- A call that starts ends no other call, and it is on record if it ends. -/
theorem start_finish (unknown : session.history.about id = []) {call : CallId}
    (caused : .finish call mac ∈ (session.resolver.start session.now id target).2) :
    call = id ∧ .ended id mac ∈ (session.act (.call id target)).2 := by
  have ended : .ended call mac ∈ (session.act (.call id target)).2 := by
    rw [act, if_neg fun known => known unknown]
    exact List.mem_cons_of_mem _ (List.mem_append_right _ (ended_of_finish caused))
  obtain rfl := Option.some_inj.mp ((session.call_outcome id target).own rfl _ ended)
  exact ⟨rfl, ended⟩

/-- A call that is looked at again ends no other call, and it is on record if it ends. -/
theorem resume_finish {call : CallId}
    (caused : .finish call mac ∈ (session.resolver.resume session.now id).2) :
    call = id ∧ .ended id mac ∈ (session.act (.resume id)).2 := by
  have ended : .ended call mac ∈ (session.act (.resume id)).2 :=
    List.mem_append_right _ (ended_of_finish caused)
  obtain rfl := Option.some_inj.mp ((session.resume_outcome id).own rfl _ ended)
  exact ⟨rfl, ended⟩

/-- An answer from the link ends no call by itself. -/
theorem accept_finish {resolver : Resolver family} {now : Nat} {address : Address family}
    {told : Mac} {call : CallId} : .finish call mac ∉ (resolver.accept now address told).2.2 := by
  rcases resolver.accept_cases now address told with ⟨turn, _, _, accepted⟩ | ⟨_, ignored⟩
  · rw [accepted]
    simp
  · rw [ignored]
    simp

end Effects

variable {session} in
/-- What is done to a call keeps all but the line and the age of the cache. -/
theorem act_keeps {operation : Operation family} {id : CallId}
    (about : operation.call? = some id) :
    Keeps session.now session.resolver (session.act operation).1 := by
  -- Only the three operations that name a call are meant.
  cases operation with
  | call id target =>
    rw [act]
    split
    · exact .refl ..
    · exact start_keeps ..
  | resume id => exact resume_keeps ..
  | cancel id => exact cancel_keeps ..
  | _ => cases about

/-- Nothing that is done changes the settings. -/
theorem act_settings (operation : Operation family) :
    (session.act operation).1.settings = session.resolver.settings := by
  -- The resolver is made with its settings, and each operation copies them.
  cases operation with
  | call id target => exact (act_keeps rfl).settings
  | resume id => exact (act_keeps rfl).settings
  | cancel id => exact (act_keeps rfl).settings
  | reply address mac =>
    rw [act]
    rcases session.resolver.accept_cases session.now address mac with
      ⟨_, _, _, accepted⟩ | ⟨_, ignored⟩
    · rw [accepted]
    · rw [ignored]
  | lookup target => exact lookup_settings ..
  | addAddress entry =>
    rw [act, addAddress]
    split <;> rfl
  | _ => rfl

end Session

end NetworkLayer.Resolver
