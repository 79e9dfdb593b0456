import NetworkLayer.Proofs.Resolution.Coherence
import NetworkLayer.Proofs.Resolution.Outcome

/-!
Answers of a resolver are never made up, mixed up or stale: what it tells about an address is fixed for
a group, or else the latest answer about that very address that it accepted, and it accepts an answer
only while a call has its question about the address open.
-/

namespace NetworkLayer.Resolver

variable {family : Family} {punctuality : Punctuality} {settings : ResolverSettings}
  {session : Session family} {id : CallId} {address : Address family}

/-- A call has put its question about an address, and nothing has come of it yet. -/
structure Session.Pending (session : Session family) (id : CallId) (address : Address family) :
    Prop where
  asked : ∃ time, (time, .asked id address) ∈ session.history
  open' : ∀ entry ∈ session.history.about id, ¬ entry.2.isLast
  unanswered : (session.history.since (.began id)).latest? address = none

/-- The open question is the one of the call whose turn it is. -/
theorem Coherent.pending_iff (coherent : Coherent punctuality settings session) :
    session.Pending id address ↔
      ∃ turn, session.resolver.turn = some turn ∧ turn.call.id = id ∧ turn.awaits address := by
  -- An open question is of a call that has asked and is not over, so the call has a place in the line.
  constructor
  · rintro ⟨⟨time, asked⟩, open', unanswered⟩
    have about : (time, .asked id address) ∈ session.history.about id :=
      History.mem_about.mpr ⟨asked, rfl⟩
    -- A call without a place has not been made or is over.
    have placed : ∃ turn ∈ session.resolver.places, turn.call.id = id := by
      refine Classical.byContradiction fun absent => ?_
      rcases coherent.idle id fun turn here same => absent ⟨turn, here, same⟩ with nothing | ⟨_, course⟩
      · rw [nothing] at about
        cases about
      · obtain ⟨entry, here, last⟩ := course.finished_iff.mp rfl
        exact open' entry here last
    obtain ⟨turn, here, rfl⟩ := placed
    cases coherent.stands turn here with
    | waiting _ course => exact absurd about course.not_asked
    | asking since begun course answer _ =>
      obtain rfl := course.target_eq about rfl
      refine ⟨turn, ?_, rfl, ?_⟩
      · -- The calls that wait have not begun.
        rcases List.mem_append.mp here with taken | waits
        · exact Option.mem_toList.mp taken
        · obtain ⟨call, _, rfl⟩ := List.mem_map.mp waits
          exact absurd rfl begun
      · rw [unanswered] at answer
        simp [ResolutionTurn.awaits, begun, answer]
  · -- The other way, the turn says on record when it asked, and that no answer has come since.
    rintro ⟨turn, taken, rfl, awaited⟩
    simp only [ResolutionTurn.awaits, Bool.and_eq_true, decide_eq_true_eq, beq_iff_eq,
      Option.isNone_iff_eq_none] at awaited
    obtain ⟨⟨begun, unanswered⟩, rfl⟩ := awaited
    cases coherent.stands turn (mem_places_of_turn taken) with
    | waiting none => exact absurd none begun
    | asking since _ course answer _ =>
      obtain ⟨time, asked⟩ := course.has_asked
      refine ⟨⟨time, (History.mem_about.mp asked).1⟩, fun entry here last => ?_, ?_⟩
      · cases course.finished_iff.mpr ⟨entry, here, last⟩
      · rw [unanswered] at answer
        exact Option.map_eq_none_iff.mp answer.symm

/-- The cache has the latest answers since it was emptied, except for some that have expired. -/
structure Remembers (settings : ResolverSettings) (session : Session family) : Prop where
  timeout : session.resolver.cache.map (·.timeout) = settings.cacheTimeout
  recorded : ∀ cache, session.resolver.cache = some cache → ∀ address entry,
    cache.entries.get? address = some entry →
      (session.history.since .cleared).latest? address = some (entry.stamp, entry.mac)
  kept : ∀ cache, session.resolver.cache = some cache → ∀ address time mac,
    (session.history.since .cleared).latest? address = some (time, mac) →
      session.now < time + cache.timeout → cache.entries.get? address = some ⟨mac, time⟩

namespace Remembers

variable {resolver : Resolver family} {events : List (Event family)}

/-- A cache that has aged remembers what it has to. -/
theorem ages (remembers : Remembers settings session)
    (aged : Ages session.now session.resolver resolver)
    (uncleared : ∀ event ∈ events, event ≠ .cleared)
    (silent : ∀ event ∈ events, ∀ address, event.answer? address = none) :
    Remembers settings (session.next resolver events) := by
  -- The events answer nothing and clear nothing, so the latest answers are the same ones.
  have latest (address : Address family) :
      (History.since (session.next resolver events).history .cleared).latest? address =
        (session.history.since .cleared).latest? address := by
    show History.latest? (History.since (_ ++ session.history) _) _ = _
    rw [History.since_append, History.latest?_append_of_none]
    · exact Coherent.of_stamped (fun event here => silent event here address) _
    · exact Coherent.of_stamped uncleared _
  rw [Ages] at aged
  rcases remembers with ⟨timeout, recorded, kept⟩
  generalize session.resolver.cache = before at aged timeout recorded kept
  -- Each part holds of what is left, since ageing only drops entries that are no longer live.
  constructor
  · show resolver.cache.map _ = _
    rw [← timeout]
    generalize resolver.cache = after at aged
    cases aged with
    | none => rfl
    | some aged => exact congrArg some aged.timeout
  · intro cache (present : resolver.cache = some cache) address entry found
    rw [present] at aged
    cases aged with
    | some aged => rw [latest, recorded _ rfl address entry (aged.origin address entry found)]
  · intro cache (present : resolver.cache = some cache) address time mac known young
    rw [present] at aged
    rw [latest] at known
    cases aged with
    | some aged =>
      rw [aged.timeout] at young
      exact aged.live address _ (kept _ rfl address time mac known young) (decide_eq_true young)

/-- A cache that takes in an answer remembers it, and the others. -/
theorem accepts (remembers : Remembers settings session) (address : Address family) (mac : Mac)
    (cached : resolver.cache =
      session.resolver.cache.map fun cache => cache.insert session.now address mac) :
    Remembers settings (session.next resolver [.answered address mac]) := by
  -- The answer is the latest one for its address, and for each other address nothing has changed.
  have latest (other : Address family) :
      (History.since (session.next resolver [.answered address mac]).history .cleared).latest? other =
        if other == address then some (session.now, mac)
        else (session.history.since .cleared).latest? other := by
    show History.latest? (History.since ([_] ++ session.history) _) _ = _
    rw [History.since_append (by simp), History.latest?_append]
    by_cases same : other = address
    · simp [History.latest?, Event.answer?, same]
    · simp [History.latest?, Event.answer?, same, Ne.symm same]
  rcases remembers with ⟨timeout, recorded, kept⟩
  -- The entry that is put in is of the answer that was just recorded, and each other entry stays.
  constructor
  · show resolver.cache.map _ = _
    rw [cached, ← timeout, Option.map_map]
    rfl
  · intro cache (present : resolver.cache = some cache) other entry found
    obtain ⟨before, there, rfl⟩ := Option.map_eq_some_iff.mp (cached.symm.trans present)
    rw [latest]
    rw [ResolutionCache.insert, Dictionary.get?_insert] at found
    split at found
    · cases found
      exact if_pos ‹_›
    · rw [if_neg ‹_›]
      exact recorded before there other entry found
  · intro cache (present : resolver.cache = some cache) other time mac' known young
    obtain ⟨before, there, rfl⟩ := Option.map_eq_some_iff.mp (cached.symm.trans present)
    rw [latest] at known
    rw [ResolutionCache.insert, Dictionary.get?_insert]
    split at known
    · cases known
      exact if_pos ‹_›
    · rw [if_neg ‹_›]
      exact kept before there other time mac' known young

/-- A cache that is emptied has nothing to remember. -/
theorem clears (remembers : Remembers settings session) :
    Remembers settings (session.next session.resolver.clearCache [.cleared]) := by
  -- Nothing has happened since the clearing that was just done.
  have nothing : (session.next session.resolver.clearCache [.cleared]).history.since .cleared =
      [] := by
    simp [Session.next, History.since]
  constructor
  · show (session.resolver.cache.map ResolutionCache.clear).map _ = _
    rw [← remembers.timeout, Option.map_map]
    rfl
  · intro cache (present : session.resolver.cache.map ResolutionCache.clear = some cache)
      address entry found
    obtain ⟨before, _, rfl⟩ := Option.map_eq_some_iff.mp present
    cases found
  · intro cache _ address time mac known
    rw [nothing] at known
    cases known

/-- Whatever is done, the cache remembers what it has to. -/
theorem acts (remembers : Remembers settings session)
    (coherent : Coherent punctuality settings session) (operation : Operation family) :
    Remembers settings
      (session.next (session.act operation).1 (session.act operation).2) := by
  -- Answers and emptying change what is to be remembered, everything else ages the cache.
  have calls {operation : Operation family} {id : CallId} (about : operation.call? = some id) :
      Remembers settings (session.next (session.act operation).1 (session.act operation).2) := by
    have own := (session.outcome coherent.lined operation).own about
    refine remembers.ages (Session.act_keeps about).ages (fun event here same => ?_)
      fun event here address => Event.answer?_of_call (own event here) address
    cases (congrArg Event.call? same).symm.trans (own event here)
  have unheard {resolver : Resolver family} (aged : Ages session.now session.resolver resolver) :
      Remembers settings (session.next resolver []) :=
    remembers.ages aged (List.forall_mem_nil _) (List.forall_mem_nil _)
  -- Only a reply that was awaited and a clearing bear on the memory.
  cases operation with
  | call id target => exact calls rfl
  | resume id => exact calls rfl
  | cancel id => exact calls rfl
  | reply address mac =>
    rw [Session.act]
    rcases session.resolver.accept_cases session.now address mac with
      ⟨turn, _, _, accepted⟩ | ⟨_, ignored⟩
    · rw [accepted]
      exact remembers.accepts address mac rfl
    · rw [ignored]
      exact unheard (.refl _ rfl)
  | lookup target => exact unheard (lookup_ages ..)
  | clear => exact remembers.clears
  | addAddress entry =>
    refine unheard (.refl _ ?_)
    rw [Session.act, addAddress]
    split <;> rfl
  | removeAddress => exact unheard (.refl _ rfl)
  | advance => exact unheard (.refl _ rfl)

/-- A step keeps the cache as it has to be. -/
theorem step (remembers : Remembers settings session)
    (coherent : Coherent punctuality settings session) (operation : Operation family) :
    Remembers settings (session.step operation) := by
  have acts := remembers.acts coherent operation
  refine ⟨acts.timeout, acts.recorded, ?_⟩
  -- As time passes, there is less to remember.
  intro cache present address time mac known young
  exact acts.kept cache present address time mac known
    (Nat.lt_of_le_of_lt (Nat.le_add_right _ _) young)

/-- A session begins with nothing to remember. -/
theorem fresh (now : Nat) (settings : ResolverSettings) (mac : Mac)
    (addresses : List (InterfaceAddress family)) :
    Remembers settings (Session.fresh now settings mac addresses) where
  timeout := by
    simp [Session.fresh, create, ResolutionCache.empty, Function.comp_def]
  recorded cache present address entry found := by
    obtain ⟨timeout, _, rfl⟩ := Option.map_eq_some_iff.mp present
    cases found
  kept cache present address time mac known := nomatch known

/-- Every run keeps the cache as it has to be. -/
theorem run (remembers : Remembers settings session) (coherent : Coherent .late settings session)
    (operations : List (Operation family)) : Remembers settings (session.run operations) := by
  induction operations generalizing session with
  | nil => exact remembers
  | cons operation rest ih => exact ih (remembers.step coherent operation) (coherent.step operation nofun)

end Remembers

/-- An address is the latest answer about a target, and not older than the cache allows. -/
def Session.Recent (session : Session family) (settings : ResolverSettings)
    (target : Address family) (mac : Mac) : Prop :=
  ∃ time timeout, session.history.latest? target = some (time, mac) ∧
    settings.cacheTimeout = some timeout ∧ session.now < time + timeout

/-- An address is the latest answer about a target, and a call has had it since its turn began. -/
def Session.Direct (session : Session family) (id : CallId) (target : Address family) (mac : Mac) :
    Prop :=
  ∃ time, session.history.latest? target = some (time, mac) ∧
    (time, .answered target mac) ∈ session.history.since (.began id)

/-- A look-up tells the address of a group or a recent answer. -/
theorem lookup_genuine (remembers : Remembers settings session) {target : Address family} {mac : Mac}
    (found : (session.resolver.lookup session.now target).1 = some mac) :
    session.resolver.wellKnown? target = some mac ∨ session.Recent settings target mac := by
  -- What is found is fixed by the group, or it is a live entry of the cache, which is on record.
  rcases (lookup_eq_some_iff ..).mp found with known | ⟨_, cache, entry, present, there, live, rfl⟩
  · exact Or.inl known
  · have latest := remembers.recorded cache present target entry there
    have timeout := remembers.timeout
    rw [present, Option.map_some] at timeout
    exact Or.inr ⟨entry.stamp, cache.timeout, History.latest?_of_since latest, timeout.symm,
      of_decide_eq_true live⟩

/-- A call is made for one target. -/
theorem Coherent.target_unique (coherent : Coherent punctuality settings session)
    {early late : Nat} {target other : Address family}
    (called : (early, .called id target) ∈ session.history)
    (called' : (late, .called id other) ∈ session.history) : other = target := by
  have about := History.mem_about.mpr ⟨called, rfl⟩
  have about' := History.mem_about.mpr ⟨called', rfl⟩
  -- A call with a place has one course, and so does a call that is over. In both the target is on record.
  by_cases placed : ∃ turn ∈ session.resolver.places, turn.call.id = id
  · obtain ⟨turn, here, rfl⟩ := placed
    obtain ⟨_, _, course⟩ := (coherent.stands turn here).course
    rw [course.target_eq about rfl, course.target_eq about' rfl]
  · rcases coherent.idle id fun turn here same => placed ⟨turn, here, same⟩ with nothing | ⟨_, course⟩
    · rw [nothing] at about
      cases about
    · rw [course.target_eq about rfl, course.target_eq about' rfl]

/-- A turn belongs to a call that is on record with its target. -/
theorem Coherent.called (coherent : Coherent punctuality settings session)
    {turn : ResolutionTurn family} (here : turn ∈ session.resolver.places) :
    ∃ time, (time, .called turn.call.id turn.call.target) ∈ session.history := by
  obtain ⟨_, _, course⟩ := (coherent.stands turn here).course
  obtain ⟨time, called⟩ := course.has_called
  exact ⟨time, (History.mem_about.mp called).1⟩

/-- A call ends with the address of a group, a recent answer, or the answer to its own question. -/
theorem ended_genuine (coherent : Coherent punctuality settings session)
    (remembers : Remembers settings session) {operation : Operation family} {mac : Mac}
    (ended : .ended id (some mac) ∈ (session.act operation).2) :
    ∃ target, (∃ time, (time, .called id target) ∈ (session.step operation).history) ∧
      (session.resolver.wellKnown? target = some mac ∨ session.Recent settings target mac ∨
        session.Direct id target mac) := by
  -- What a look-up finds is genuine already, so what is left is the answer to the own question.
  have genuine {target : Address family}
      (found : (session.resolver.lookup session.now target).1 = some mac) :
      session.resolver.wellKnown? target = some mac ∨ session.Recent settings target mac ∨
        session.Direct id target mac := by
    rcases lookup_genuine remembers found with known | recent
    · exact Or.inl known
    · exact Or.inr (Or.inl recent)
  have kept {turn : ResolutionTurn family} (taken : session.resolver.turn = some turn) :
      ∃ time, (time, .called turn.call.id turn.call.target) ∈ (session.step operation).history := by
    obtain ⟨time, called⟩ := coherent.called (mem_places_of_turn taken)
    exact ⟨time, Session.history_step called⟩
  have outcome := session.outcome coherent.lined operation
  generalize happens : (session.act operation).2 = events at outcome ended
  -- Only the outcomes in which a call ends with an address remain, which are a known target and an answer that
  -- was told.
  cases outcome with
  | known _ found _ =>
    simp at ended
    obtain ⟨rfl, rfl⟩ := ended
    exact ⟨_, ⟨_, Session.mem_step (by rw [happens]; exact List.mem_cons_self)⟩, genuine found⟩
  | opened _ _ missed _ begun =>
    -- What was not known as the call was made is not known as its turn begins.
    cases begun with
    | known found _ => cases missed.symm.trans found
    | asks => simp at ended
    | mute => simp at ended
  | granted taken _ begun =>
    cases begun with
    | known found _ =>
      simp at ended
      obtain ⟨rfl, rfl⟩ := ended
      exact ⟨_, kept taken, genuine found⟩
    | asks => simp at ended
    | mute => simp at ended
  | resolved taken begun answer _ =>
    simp at ended
    obtain ⟨rfl, rfl⟩ := ended
    refine ⟨_, kept taken, Or.inr (Or.inr ?_)⟩
    cases coherent.stands _ (mem_places_of_turn taken) with
    | waiting none => exact absurd none begun
    | asking _ _ _ told _ =>
      obtain ⟨⟨time, mac⟩, latest, rfl⟩ := Option.map_eq_some_iff.mp (told.symm.trans answer)
      exact ⟨time, History.latest?_of_since latest, History.mem_of_latest? latest⟩
  | _ => simp at ended

/--
Whatever happens to a resolver, its answers are genuine.

An answer from the link is accepted, and remembered if there is a cache, exactly if a call has its
question about that address open; any other changes nothing. What a look-up or a call tells is the
address of a group, or the latest answer about its target; and that is recent enough for the cache or
has come while the call itself was asking.
-/
theorem answers_genuine (now : Nat) (settings : ResolverSettings) (mac : Mac)
    (addresses : List (InterfaceAddress family)) (operations : List (Operation family)) :
    let session := (Session.fresh now settings mac addresses).run operations
    (∀ address answer,
      let (accepted, resolver, effects) := session.resolver.accept session.now address answer
      (accepted = true ↔ ∃ id, session.Pending id address) ∧
      (accepted = true → resolver.cache =
        session.resolver.cache.map fun cache => cache.insert session.now address answer) ∧
      (accepted = false → resolver = session.resolver ∧ effects = [])) ∧
    (∀ target found, (session.resolver.lookup session.now target).1 = some found →
      session.resolver.wellKnown? target = some found ∨ session.Recent settings target found) ∧
    ∀ operation id target found time,
      (time, .called id target) ∈ (session.step operation).history →
      .ended id (some found) ∈ (session.act operation).2 →
      session.resolver.wellKnown? target = some found ∨ session.Recent settings target found ∨
        session.Direct id target found := by
  intro session
  have coherent : Coherent .late settings session :=
    (Coherent.fresh .late now settings mac addresses).run operations
  have remembers : Remembers settings session :=
    (Remembers.fresh now settings mac addresses).run (Coherent.fresh ..) operations
  -- The three parts are the acceptance of an answer, a look-up, and a call that ends.
  refine ⟨fun address answer => ?_, fun target found => lookup_genuine remembers, ?_⟩
  · simp only [coherent.pending_iff]
    rcases session.resolver.accept_cases session.now address answer with
      ⟨turn, taken, awaited, accepted⟩ | ⟨others, ignored⟩
    · rw [accepted]
      exact ⟨⟨fun _ => ⟨_, turn, taken, rfl, awaited⟩, fun _ => rfl⟩, fun _ => rfl, nofun⟩
    · rw [ignored]
      refine ⟨⟨nofun, ?_⟩, nofun, fun _ => ⟨rfl, rfl⟩⟩
      rintro ⟨_, turn, taken, _, awaited⟩
      exact absurd awaited (by simp [others turn taken])
  · -- A call ends for the target it was made for, which is the only one on record.
    intro operation id target found time called ended
    obtain ⟨_, ⟨_, called'⟩, genuine⟩ := ended_genuine coherent remembers ended
    rwa [(coherent.step operation nofun).target_unique called' called]

/-- An answer to the question of `10.0.0.1` about `10.0.0.2` is accepted, since a call has it open. -/
theorem neighbor_question_open :
    let start : Session .v4 := Session.fresh 0 (.standard .v4) (.ofNat 1)
      [.unicast (.ofNat 0x0A000001) 24]
    let session := start.run [.call 0 (.ofNat 0x0A000002)]
    (session.resolver.accept session.now (.ofNat 0x0A000002) (.ofNat 2)).1 = true ∧
      ∃ id, session.Pending id (.ofNat 0x0A000002) :=
  ⟨by decide, ((answers_genuine 0 (.standard .v4) (.ofNat 1) [.unicast (.ofNat 0x0A000001) 24]
    [.call 0 (.ofNat 0x0A000002)]).1 (.ofNat 0x0A000002) (.ofNat 2)).1.mp (by decide)⟩

end NetworkLayer.Resolver
