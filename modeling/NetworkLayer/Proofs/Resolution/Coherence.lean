import NetworkLayer.Proofs.Resolution.Course
import NetworkLayer.Proofs.Resolution.Outcome

/-!
A resolver keeps exactly the calls of a session that are not over, each where its course has brought it,
whatever is done and however time passes.
-/

namespace NetworkLayer.Resolver

variable {family : Family} {punctuality : Punctuality} {settings : ResolverSettings}

/-- A resolver has the calls that are not over, each once and where it stands. -/
structure Coherent (punctuality : Punctuality) (settings : ResolverSettings)
    (session : Session family) : Prop where
  settled : session.resolver.settings = settings
  single : (session.resolver.places.map (·.call.id)).Nodup
  /-- No call waits for nothing. -/
  lined : session.resolver.turn = none → session.resolver.waiting = []
  stands : ∀ turn ∈ session.resolver.places, Stands punctuality settings session.history turn
  idle : ∀ id, (∀ turn ∈ session.resolver.places, turn.call.id ≠ id) →
    Idle punctuality settings id session.history
  onTime : punctuality = .exact → ∀ turn, session.resolver.turn = some turn →
    turn.asked ≠ 0 → turn.answer = none → session.now ≤ turn.deadline

/-- Time passes only while a question is open, and not beyond its deadline. -/
def Session.Timely (session : Session family) (operation : Operation family) : Prop :=
  Session.span operation = 0 ∨ ∀ turn ∈ session.resolver.turn,
    turn.asked ≠ 0 ∧ turn.answer = none ∧
      session.now + Session.span operation ≤ turn.deadline

namespace Coherent

variable {session : Session family} {resolver : Resolver family} {events : List (Event family)}

section Frame

/-- What holds of all new events holds of their entries. -/
theorem of_stamped {holds : Event family → Prop} (all : ∀ event ∈ events, holds event)
    (time : Nat) : ∀ entry ∈ (events.map (time, ·)).reverse, holds entry.2 := by
  intro entry here
  obtain ⟨event, inside, rfl⟩ := List.mem_map.mp (List.mem_reverse.mp here)
  exact all event inside

/-- A resolver with the same line has the same places. -/
theorem places_of_same (same : SameLine session.resolver resolver) :
    resolver.places = session.resolver.places := by
  rw [Resolver.places, same.turn, same.waiting, Resolver.places]

/-- A step that is about no call keeps a session coherent. -/
theorem still (coherent : Coherent punctuality settings session)
    (settled : resolver.settings = settings) (same : SameLine session.resolver resolver)
    (foreign : ∀ event ∈ events, event.call? = none)
    (silent : ∀ event ∈ events, ∀ address, event.answer? address = none) :
    Coherent punctuality settings (session.next resolver events) := by
  -- The line is the same, and no event touches the record of a call or an answer.
  have places := places_of_same same
  have others (id : CallId) : ∀ event ∈ events, event.call? ≠ some id := by
    intro event here
    rw [foreign event here]
    exact nofun
  refine ⟨settled, ?_, ?_, ?_, ?_, ?_⟩
  · show (resolver.places.map _).Nodup
    rw [places]
    exact coherent.single
  · show resolver.turn = none → resolver.waiting = []
    rw [same.turn, same.waiting]
    exact coherent.lined
  · intro turn here
    exact (coherent.stands turn (places ▸ here)).frame (of_stamped (others _) _)
      fun _ => of_stamped (fun event here => silent event here _) _
  · intro id absent
    exact (coherent.idle id (places ▸ absent)).frame (of_stamped (others _) _)
  · intro prompt turn taken
    exact coherent.onTime prompt turn (same.turn.symm.trans taken)

/-- A step keeps a session coherent if it concerns one call and leaves that call where it stands. -/
theorem concerns (coherent : Coherent punctuality settings session) (id : CallId)
    (settled : resolver.settings = settings)
    (lined : resolver.turn = none → resolver.waiting = [])
    (foreign : ∀ other, other ≠ id → ∀ event ∈ events, event.call? ≠ some other)
    (silent : ∀ turn ∈ session.resolver.places, turn.call.id ≠ id → turn.asked ≠ 0 →
      ∀ event ∈ events, event.answer? turn.call.target = none)
    (single : (resolver.places.map (·.call.id)).Nodup)
    (others : ∀ turn, turn.call.id ≠ id →
      (turn ∈ resolver.places ↔ turn ∈ session.resolver.places))
    (stands : ∀ turn ∈ resolver.places, turn.call.id = id →
      Stands punctuality settings (session.next resolver events).history turn)
    (idle : (∀ turn ∈ resolver.places, turn.call.id ≠ id) →
      Idle punctuality settings id (session.next resolver events).history)
    (onTime : ∀ turn, resolver.turn = some turn → turn.asked ≠ 0 → turn.answer = none →
      session.resolver.turn = some turn ∨ session.now ≤ turn.deadline) :
    Coherent punctuality settings (session.next resolver events) := by
  -- Each part is carried over for the calls that differ, and is given for the one that is concerned.
  refine ⟨settled, single, lined, ?_, ?_, ?_⟩
  · intro turn here
    by_cases same : turn.call.id = id
    · exact stands turn here same
    have before := (others turn same).mp here
    exact (coherent.stands turn before).frame (of_stamped (foreign _ same) _)
      fun asked => of_stamped (silent turn before same asked) _
  · intro other absent
    by_cases same : other = id
    · subst same
      exact idle absent
    refine (coherent.idle other fun turn here differs => ?_).frame (of_stamped (foreign _ same) _)
    exact absent turn ((others turn (by rwa [differs])).mpr here) differs
  · intro prompt turn taken asked unanswered
    rcases onTime turn taken asked unanswered with before | early
    · exact coherent.onTime prompt turn before asked unanswered
    · exact early

/-- Events about one call are about no other. -/
theorem foreign_of_own {id : CallId} (own : ∀ event ∈ events, event.call? = some id) :
    ∀ other, other ≠ id → ∀ event ∈ events, event.call? ≠ some other := by
  intro other differs event here same
  exact differs (Option.some_inj.mp (same.symm.trans (own event here)))

end Frame

section Moves

/-- A call that ends at once leaves a session coherent. -/
theorem refuses (coherent : Coherent punctuality settings session)
    (settled : resolver.settings = settings) {id : CallId} {target : Address family}
    (unknown : session.history.about id = []) (same : SameLine session.resolver resolver)
    (mac : Option Mac) : Coherent punctuality settings
      (session.next resolver [.called id target, .ended id mac]) := by
  -- The line is as it was, and the record of the new call consists of the two events.
  have places := places_of_same same
  have own : ∀ event ∈ [Event.called id target, .ended id mac], event.call? = some id := by
    simp [Event.call?]
  refine coherent.concerns id settled ?_ (foreign_of_own own)
    (fun _ _ _ _ event here => Event.answer?_of_call (own event here) _) ?_ ?_ ?_ ?_ ?_
  · rw [same.turn, same.waiting]
    exact coherent.lined
  · rw [places]
    exact coherent.single
  · intro _ _
    rw [places]
  · -- A call on which nothing is on record has no place.
    intro turn here same
    exact absurd (same ▸ unknown) (coherent.stands turn (places ▸ here)).about_ne_nil
  · intro _
    refine Or.inr ⟨target, ?_⟩
    show Course _ _ _ _ _ (History.about ([_, _] ++ session.history) id)
    rw [History.about_append_of_own (by simp [Event.call?]), unknown]
    exact .refused _ mac
  · intro turn taken _ _
    exact Or.inl (same.turn.symm.trans taken)

/-- A call that gets in line leaves a session coherent. -/
theorem joins (coherent : Coherent punctuality settings session)
    (settled : resolver.settings = settings) {call : ResolutionCall family}
    (unknown : session.history.about call.id = [])
    (places : resolver.places = session.resolver.places ++ [.granted call])
    (lined : resolver.turn = none → resolver.waiting = [])
    (same : ∀ turn, resolver.turn = some turn → turn.asked ≠ 0 →
      session.resolver.turn = some turn) :
    Coherent punctuality settings (session.next resolver [.called call.id call.target]) := by
  -- The new call is on no record, so no place in the line is its own.
  have own : ∀ event ∈ [Event.called call.id call.target], event.call? = some call.id := by
    simp [Event.call?]
  have absent : ∀ turn ∈ session.resolver.places, turn.call.id ≠ call.id := by
    intro turn here same
    exact (coherent.stands turn here).about_ne_nil (same ▸ unknown)
  refine coherent.concerns call.id settled lined (foreign_of_own own)
    (fun _ _ _ _ event here => Event.answer?_of_call (own event here) _) ?_ ?_ ?_ ?_ ?_
  · rw [places, List.map_append, List.nodup_append]
    refine ⟨coherent.single, by simp, ?_⟩
    intro id here other alike same'
    obtain ⟨turn, inside, rfl⟩ := List.mem_map.mp here
    exact absent turn inside (same'.trans (List.mem_singleton.mp alike))
  · intro turn differs
    rw [places, List.mem_append, List.mem_singleton, or_iff_left]
    rintro rfl
    exact differs rfl
  · intro turn here same'
    rcases List.mem_append.mp (places ▸ here) with before | new
    · exact absurd same' (absent turn before)
    rw [List.mem_singleton.mp new]
    refine .waiting rfl ?_
    show Course _ _ _ _ _ (History.about ([_] ++ session.history) call.id)
    rw [History.about_append_of_own (by simp [Event.call?]), unknown]
    exact .called _
  · intro gone
    exact absurd rfl (gone (.granted call) (by simp [places]))
  · intro turn taken asked _
    exact Or.inl (same turn taken asked)

variable {turn : ResolutionTurn family} {rest : List (ResolutionCall family)}

/-- The calls behind the first are others. -/
theorem behind_ne (coherent : Coherent punctuality settings session)
    (places : session.resolver.places = turn :: rest.map .granted) :
    ∀ other ∈ rest.map ResolutionTurn.granted, other.call.id ≠ turn.call.id := by
  intro other here same
  have single := coherent.single
  rw [places, List.map_cons, List.nodup_cons] at single
  exact single.1 (List.mem_map.mpr ⟨other, here, same⟩)

/-- A call that is over passes its turn on, which leaves a session coherent. -/
theorem leaves (coherent : Coherent punctuality settings session)
    (settled : resolver.settings = settings)
    (places : session.resolver.places = turn :: rest.map .granted) (passed : Passed rest resolver)
    (own : ∀ event ∈ events, event.call? = some turn.call.id)
    (course : Course punctuality settings turn.call.id turn.call.target .finished
      ((session.next resolver events).history.about turn.call.id)) :
    Coherent punctuality settings (session.next resolver events) := by
  -- The calls behind differ from the one that leaves, which was the first.
  have behind := coherent.behind_ne places
  refine coherent.concerns turn.call.id settled passed.lined (foreign_of_own own)
    (fun _ _ _ _ event here => Event.answer?_of_call (own event here) _) ?_ ?_ ?_ ?_ ?_
  · have single := coherent.single
    rw [places] at single
    rw [passed.places]
    exact (List.nodup_cons.mp single).2
  · intro other differs
    rw [passed.places, places, List.mem_cons, or_iff_right]
    rintro rfl
    exact differs rfl
  · intro other here same
    exact absurd same (behind other (passed.places ▸ here))
  · intro _
    exact Or.inr ⟨_, course⟩
  · intro next taken asked _
    exact absurd (passed.granted taken) asked

/-- A call that goes on with its turn leaves a session coherent. -/
theorem goesOn (coherent : Coherent punctuality settings session)
    (settled : resolver.settings = settings)
    (places : session.resolver.places = turn :: rest.map .granted)
    {later : ResolutionTurn family} (taken : resolver.turn = some later)
    (waiting : resolver.waiting = rest) (same : later.call = turn.call)
    (foreign : ∀ other, other ≠ turn.call.id → ∀ event ∈ events, event.call? ≠ some other)
    (stands : Stands punctuality settings (session.next resolver events).history later)
    (early : later.answer = none → session.now ≤ later.deadline) :
    Coherent punctuality settings (session.next resolver events) := by
  -- The first place is taken by the later turn, and the rest of the line waits as before.
  have after : resolver.places = later :: rest.map .granted := by
    rw [places_of_turn taken, waiting]
  have behind := coherent.behind_ne places
  refine coherent.concerns turn.call.id settled (fun free => ?_) foreign ?_ ?_ ?_ ?_ ?_ ?_
  · rw [taken] at free
    cases free
  · -- The calls behind have not put their questions, so no answer is theirs.
    intro other here differs asked
    rw [places] at here
    rcases List.mem_cons.mp here with rfl | waits
    · exact absurd rfl differs
    · obtain ⟨call, _, rfl⟩ := List.mem_map.mp waits
      exact absurd rfl asked
  · have single := coherent.single
    rw [places] at single
    rw [after]
    simpa only [List.map_cons, same] using single
  · intro other differs
    rw [after, places, List.mem_cons, List.mem_cons, or_iff_right, or_iff_right]
    · rintro rfl
      exact differs rfl
    · rintro rfl
      exact differs (congrArg (·.id) same)
  · intro other here alike
    rw [after] at here
    rcases List.mem_cons.mp here with rfl | waits
    · exact stands
    · exact absurd alike (behind other waits)
  · intro gone
    exact absurd (congrArg (·.id) same) (gone later (by simp [after]))
  · intro other alike asked unanswered
    cases taken.symm.trans alike
    exact Or.inr (early unanswered)

/-- A call that waits and is given up leaves a session coherent. -/
theorem drops (coherent : Coherent punctuality settings session)
    (settled : resolver.settings = settings) {call : ResolutionCall family}
    (taken : session.resolver.turn = some turn) (other : turn.call.id ≠ call.id)
    (here : call ∈ session.resolver.waiting) (turn' : resolver.turn = session.resolver.turn)
    (waiting : resolver.waiting = session.resolver.waiting.filter (·.id ≠ call.id)) :
    Coherent punctuality settings (session.next resolver [.dropped call.id]) := by
  -- The line is filtered by the call, whose turn it is not, so the first place stays.
  have own : ∀ event ∈ [@Event.dropped family call.id], event.call? = some call.id := by
    simp [Event.call?]
  have after : resolver.places = session.resolver.places.filter (·.call.id ≠ call.id) := by
    rw [places_of_turn (turn'.trans taken), places_of_turn taken, waiting,
      List.filter_cons_of_pos (by simpa using other), List.filter_map]
    rfl
  refine coherent.concerns call.id settled ?_ (foreign_of_own own)
    (fun _ _ _ _ event here => Event.answer?_of_call (own event here) _) ?_ ?_ ?_ ?_ ?_
  · intro free
    cases taken.symm.trans (turn'.symm.trans free)
  · rw [after]
    exact coherent.single.sublist (List.filter_sublist.map _)
  · intro turn differs
    rw [after, List.mem_filter, and_iff_left (decide_eq_true differs)]
  · intro turn here same
    rw [after, List.mem_filter] at here
    exact absurd same (of_decide_eq_true here.2)
  · intro _
    have there : .granted call ∈ session.resolver.places :=
      List.mem_append_right _ (List.mem_map_of_mem here)
    obtain ⟨stage, open', course⟩ := (coherent.stands _ there).course
    refine Or.inr ⟨call.target, ?_⟩
    show Course _ _ _ _ _ (History.about ([_] ++ session.history) call.id)
    rw [History.about_append_of_own (by simp [Event.call?])]
    exact .dropped _ course open'
  · intro turn taken' _ _
    exact Or.inl (turn'.symm.trans taken')

end Moves

section Steps

variable {turn : ResolutionTurn family}

/-- The course of a call whose turn has not begun. -/
theorem course_of_waiting (coherent : Coherent punctuality settings session)
    (here : turn ∈ session.resolver.places) (waited : turn.asked = 0) :
    Course punctuality settings turn.call.id turn.call.target .waiting
      (session.history.about turn.call.id) := by
  cases coherent.stands turn here with
  | waiting _ course => exact course
  | asking _ begun => exact absurd waited begun

/-- A call that begins its turn in a line leaves the line coherent. -/
theorem begins {line : Session family} (coherent : Coherent punctuality settings line)
    (begun : Begins session turn.call resolver events) (waited : turn.asked = 0)
    (settled : resolver.settings = settings) (settled' : session.resolver.settings = settings)
    (now : line.now = session.now)
    (places : line.resolver.places = turn :: session.resolver.waiting.map .granted) :
    Coherent punctuality settings (line.next resolver events) := by
  have first : turn ∈ line.resolver.places := by simp [places]
  have course := coherent.course_of_waiting first waited
  have own := begun.own
  -- In two outcomes the call is over, in one its question goes out.
  cases begun with
  | known _ passed =>
    refine coherent.leaves settled places passed own ?_
    show Course _ _ _ _ _ (History.about ([_, _] ++ line.history) turn.call.id)
    rw [History.about_append_of_own (by simp [Event.call?])]
    exact .known _ _ course
  | asks _ left turn' waiting =>
    refine coherent.goesOn settled places turn' waiting rfl (foreign_of_own own) ?_
      fun _ => now ▸ Nat.le_add_right _ _
    refine .asking line.now Nat.one_ne_zero ?_ ?_ ?_
    · show Course _ _ _ _ _ (History.about ([_, _] ++ line.history) turn.call.id)
      rw [History.about_append_of_own (by simp [Event.call?])]
      exact .began _ (settled' ▸ left) course
    · simp [Session.next, History.since, History.latest?, Event.answer?]
    · show punctuality.allows (line.now + 1 * settings.retransmit)
        (session.now + session.resolver.settings.retransmit)
      rw [settled', Nat.one_mul, now]
      exact punctuality.allows_self _
  | mute _ never passed =>
    refine coherent.leaves settled places passed own ?_
    show Course _ _ _ _ _ (History.about ([_, _] ++ line.history) turn.call.id)
    rw [History.about_append_of_own (by simp [Event.call?])]
    exact .mute _ (settled' ▸ never) course

/-- A call that is over with its turn leaves a session coherent. -/
theorem concludes (coherent : Coherent punctuality settings session)
    (settled : resolver.settings = settings) (taken : session.resolver.turn = some turn)
    (begun : turn.asked ≠ 0) (passed : Passed session.resolver.waiting resolver)
    (mac : Option Mac) :
    Coherent punctuality settings (session.next resolver [.ended turn.call.id mac]) := by
  refine coherent.leaves settled (places_of_turn taken) passed (by simp [Event.call?]) ?_
  -- The end is the one event of the call, on top of a course that has asked.
  show Course _ _ _ _ _ (History.about ([_] ++ session.history) turn.call.id)
  rw [History.about_append_of_own (by simp [Event.call?])]
  cases coherent.stands turn (mem_places_of_turn taken) with
  | waiting none => exact absurd none begun
  | asking _ _ course => exact .ended _ mac course

/-- A call that puts its question again leaves a session coherent. -/
theorem repeats (coherent : Coherent punctuality settings session)
    (settled : resolver.settings = settings) (taken : session.resolver.turn = some turn)
    (begun : turn.asked ≠ 0) (unanswered : turn.answer = none) (lapsed : turn.deadline ≤ session.now)
    (left : turn.asked < session.resolver.settings.attempts)
    (turn' : resolver.turn = some { turn with
      asked := turn.asked + 1
      deadline := session.now + session.resolver.settings.retransmit })
    (waiting : resolver.waiting = session.resolver.waiting) :
    Coherent punctuality settings
      (session.next resolver [.asked turn.call.id turn.call.target]) := by
  refine coherent.goesOn settled (places_of_turn taken) turn' waiting rfl
    (foreign_of_own (by simp [Event.call?])) ?_ fun _ => Nat.le_add_right _ _
  -- The call has asked, so it stands with a course of questions, to which one is added.
  cases coherent.stands turn (mem_places_of_turn taken) with
  | waiting none => exact absurd none begun
  | asking since _ course answer due =>
    have now : punctuality.allows (since + turn.asked * settings.retransmit) session.now :=
      Punctuality.allows_due due lapsed fun prompt =>
        coherent.onTime prompt turn taken begun unanswered
    refine .asking since (Nat.succ_ne_zero _) ?_ ?_ ?_
    · show Course _ _ _ _ _ (History.about ([_] ++ session.history) turn.call.id)
      rw [History.about_append_of_own (by simp [Event.call?])]
      exact .again course (coherent.settled ▸ left) now
    · show turn.answer = (History.latest? (History.since ([_] ++ session.history) _) _).map _
      rw [History.since_append (by simp), History.latest?_append_of_none (by simp [Event.answer?])]
      exact answer
    · show punctuality.allows (since + (turn.asked + 1) * settings.retransmit)
        (session.now + session.resolver.settings.retransmit)
      rw [coherent.settled, Nat.succ_mul, ← Nat.add_assoc]
      exact Punctuality.allows_add now _

/-- An answer leaves a session coherent. -/
theorem replies (coherent : Coherent punctuality settings session)
    (settled : resolver.settings = settings) (taken : session.resolver.turn = some turn)
    {address : Address family} {mac : Mac} (awaited : turn.awaits address)
    (answer : resolver.turn = some { turn with answer := some mac })
    (waiting : resolver.waiting = session.resolver.waiting) :
    Coherent punctuality settings (session.next resolver [.answered address mac]) := by
  simp only [ResolutionTurn.awaits, Bool.and_eq_true, decide_eq_true_eq, beq_iff_eq] at awaited
  -- An awaited answer is for the target of a call that has asked.
  obtain ⟨⟨begun, _⟩, rfl⟩ := awaited
  refine coherent.goesOn settled (places_of_turn taken) answer waiting rfl (by simp [Event.call?])
    ?_ nofun
  cases coherent.stands turn (mem_places_of_turn taken) with
  | waiting none => exact absurd none begun
  | asking since _ course _ due =>
    refine .asking since begun ?_ ?_ due
    · show Course _ _ _ _ _ (History.about ([_] ++ session.history) turn.call.id)
      rw [History.about_append_of_foreign (by simp [Event.call?])]
      exact course
    · show some mac = (History.latest? (History.since ([_] ++ session.history) _) _).map _
      rw [History.since_append (by simp)]
      simp [History.latest?, Event.answer?]

/-- A call that is made as the turn is free leaves a session coherent. -/
theorem opens (coherent : Coherent punctuality settings session)
    (settled : resolver.settings = settings) {call : ResolutionCall family}
    (unknown : session.history.about call.id = []) (free : session.resolver.turn = none)
    (begun : Begins session call resolver events) :
    Coherent punctuality settings
      (session.next resolver (.called call.id call.target :: events)) := by
  -- The call gets in line, where it is the first, and begins at once.
  have alone := coherent.lined free
  let line : Resolver family := { session.resolver with turn := some (.granted call) }
  have settled' : line.settings = settings := coherent.settled
  have inLine : Coherent punctuality settings
      (session.next line [.called call.id call.target]) := by
    refine coherent.joins settled' unknown ?_ nofun ?_
    · rw [places_of_turn rfl, Resolver.places, free, alone]
      rfl
    · intro turn taken asked
      cases taken
      exact absurd rfl asked
  have begins : Coherent punctuality settings
      ((session.next line [.called call.id call.target]).next resolver events) :=
    inLine.begins begun rfl settled coherent.settled rfl (places_of_turn rfl)
  rwa [Session.next_next] at begins

/-- Whatever comes of what is done, it leaves a session coherent. -/
theorem next_of_outcome (coherent : Coherent punctuality settings session)
    (settled : resolver.settings = settings) {operation : Operation family}
    (outcome : Outcome session resolver operation events) :
    Coherent punctuality settings (session.next resolver events) := by
  -- One lemma stands for each kind of outcome: the line is the same, it loses a call, gets one, or goes on with
  -- its turn.
  cases outcome with
  | silent _ same => exact coherent.still settled same nofun nofun
  | cleared same =>
    exact coherent.still settled same (by simp [Event.call?]) (by simp [Event.answer?])
  | answered taken awaited answer waiting =>
    exact coherent.replies settled taken awaited answer waiting
  | withdrawn taken passed =>
    refine coherent.leaves settled (places_of_turn taken) passed (by simp [Event.call?]) ?_
    obtain ⟨stage, open', course⟩ := (coherent.stands _ (mem_places_of_turn taken)).course
    show Course _ _ _ _ _ (History.about ([_] ++ session.history) _)
    rw [History.about_append_of_own (by simp [Event.call?])]
    exact .dropped _ course open'
  | unlined taken other here turn' waiting =>
    exact coherent.drops settled taken other here turn' waiting
  | waits _ unknown _ taken turn' waiting =>
    refine coherent.joins settled unknown ?_ ?_ ?_
    · rw [Resolver.places, turn', waiting, List.map_append, ← List.append_assoc]
      rfl
    · intro free
      cases taken.symm.trans (turn'.symm.trans free)
    · intro _ taken' _
      exact turn'.symm.trans taken'
  | known unknown _ same => exact coherent.refuses settled unknown same _
  | offLink unknown _ same => exact coherent.refuses settled unknown same none
  | opened _ unknown _ free begun => exact coherent.opens settled unknown free begun
  | granted taken waited begun =>
    exact coherent.begins begun waited settled coherent.settled rfl (places_of_turn taken)
  | resolved taken begun _ passed => exact coherent.concludes settled taken begun passed _
  | repeated taken begun unanswered lapsed left turn' waiting =>
    exact coherent.repeats settled taken begun unanswered lapsed left turn' waiting
  | exhausted taken begun _ _ _ passed => exact coherent.concludes settled taken begun passed none

/-- Nothing that is done makes a session incoherent. -/
theorem acts (coherent : Coherent punctuality settings session) (operation : Operation family) :
    Coherent punctuality settings
      (session.next (session.act operation).1 (session.act operation).2) :=
  coherent.next_of_outcome ((session.act_settings operation).trans coherent.settled)
    (session.outcome coherent.lined operation)

/-- Passing time keeps a session coherent. -/
theorem elapses (coherent : Coherent punctuality settings session) (span : Nat)
    (onTime : punctuality = .exact → ∀ turn, session.resolver.turn = some turn →
      turn.asked ≠ 0 → turn.answer = none → session.now + span ≤ turn.deadline) :
    Coherent punctuality settings { session with now := session.now + span } :=
  { coherent with onTime }

/-- A step keeps a session coherent, an exact one if it is timely. -/
theorem step (coherent : Coherent punctuality settings session) (operation : Operation family)
    (timely : punctuality = .exact → session.Timely operation) :
    Coherent punctuality settings (session.step operation) := by
  refine (coherent.acts operation).elapses (Session.span operation) fun prompt turn taken asked
    unanswered => ?_
  rcases timely prompt with none | early
  · rw [none]
    exact (coherent.acts operation).onTime prompt turn taken asked unanswered
  · -- Only passing time takes time, and it leaves the turn alone.
    cases operation with
    | advance span => exact (early turn taken).2.2
    | _ => exact (coherent.acts _).onTime prompt turn taken asked unanswered

/-- A session begins coherent. -/
theorem fresh (punctuality : Punctuality) (now : Nat) (settings : ResolverSettings) (mac : Mac)
    (addresses : List (InterfaceAddress family)) :
    Coherent punctuality settings (Session.fresh now settings mac addresses) where
  settled := rfl
  single := List.nodup_nil
  lined _ := rfl
  stands _ here := absurd here List.not_mem_nil
  idle _ _ := Or.inl rfl
  onTime _ _ taken := nomatch taken

/-- Every run keeps a session coherent, whatever its timing. -/
theorem run (coherent : Coherent .late settings session) (operations : List (Operation family)) :
    Coherent .late settings (session.run operations) :=
  Session.run_induction coherent (fun _ operation coherent => coherent.step operation nofun)
    operations

end Steps

end Coherent

end NetworkLayer.Resolver
