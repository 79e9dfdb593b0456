import NetworkLayer.Proofs.Dictionary
import NetworkLayer.Resolution.Resolver

/-!
What one step of a resolver can do: every outcome of a look-up, of a call that starts or runs on, and
of an answer, with what it makes of the turn, the waiting calls and the cache.
-/

namespace NetworkLayer

namespace ResolutionCache

variable {family : Family} {cache : ResolutionCache family} {now : Nat} {address : Address family}

/-- A look-up finds the live entry of an address. -/
theorem get_eq_some_iff {mac : Mac} : (cache.get now address).1 = some mac ↔
    ∃ entry, cache.entries.get? address = some entry ∧ cache.isLive now entry ∧
      entry.mac = mac := by
  rw [get]
  -- There is at most one entry, and only its age decides.
  cases found : cache.entries.get? address with
  | none => simp
  | some entry =>
    by_cases live : cache.isLive now entry
    · simp [live]
    · simp [live]

/-- What becomes of a cache as it is looked at: entries only go, and only once they have expired. -/
structure Aged (before after : ResolutionCache family) (now : Nat) : Prop where
  timeout : after.timeout = before.timeout
  origin : ∀ address entry, after.entries.get? address = some entry →
    before.entries.get? address = some entry
  live : ∀ address entry, before.entries.get? address = some entry →
    before.isLive now entry → after.entries.get? address = some entry

/-- A cache that stays as it is has aged. -/
theorem Aged.refl (cache : ResolutionCache family) (now : Nat) : Aged cache cache now :=
  ⟨rfl, fun _ _ found => found, fun _ _ found _ => found⟩

/-- Ageing goes on. -/
theorem Aged.trans {before between after : ResolutionCache family}
    (early : Aged before between now) (late : Aged between after now) :
    Aged before after now where
  timeout := late.timeout.trans early.timeout
  origin address entry found := early.origin address entry (late.origin address entry found)
  -- What lives late has the same timeout as before, so it lived in between.
  live address entry found young := by
    refine late.live address entry (early.live address entry found young) ?_
    rw [isLive, early.timeout]
    exact young

/-- A look-up ages a cache. -/
theorem get_aged (cache : ResolutionCache family) (now : Nat) (address : Address family) :
    Aged cache (cache.get now address).2 now := by
  rw [get]
  split
  · exact .refl cache now
  rename_i expired found
  split
  · exact .refl cache now
  rename_i dead
  -- The entry that goes is the expired one of the address.
  refine ⟨rfl, fun other entry kept => ?_, fun other entry tracked live => ?_⟩
  · rw [Dictionary.get?_erase] at kept
    split at kept
    · cases kept
    · exact kept
  · rw [Dictionary.get?_erase, if_neg]
    · exact tracked
    · intro asked
      rw [eq_of_beq asked] at tracked
      cases found.symm.trans tracked
      exact dead live

end ResolutionCache

namespace Resolver

variable {family : Family} (resolver : Resolver family) (now : Nat)

/-- The cache of a resolver, if it has one, has at most lost entries that have expired. -/
def Ages (now : Nat) (before after : Resolver family) : Prop :=
  Option.Rel (fun before after => ResolutionCache.Aged before after now) before.cache after.cache

/-- A cache that stays as it is ages. -/
theorem Ages.refl {before after : Resolver family} (now : Nat) (same : after.cache = before.cache) :
    Ages now before after := by
  rw [Ages, same]
  cases before.cache with
  | none => exact .none
  | some cache => exact .some (.refl cache now)

variable {now} in
/-- Ageing goes on. -/
theorem Ages.trans {before between after : Resolver family} (early : Ages now before between)
    (late : Ages now between after) : Ages now before after := by
  -- A cache is there throughout or not at all.
  rw [Ages] at early late ⊢
  generalize before.cache = first at early ⊢
  generalize between.cache = second at early late
  cases early with
  | none => exact late
  | some early =>
    generalize after.cache = third at late ⊢
    cases late with
    | some late => exact .some (early.trans late)

section Lookup

variable (target : Address family)

/-- A look-up touches nothing but the cache. -/
theorem lookup_eq : (resolver.lookup now target).2.1 =
    { resolver with cache := (resolver.lookup now target).2.1.cache } := by
  rw [lookup]
  split <;> rfl

/-- A look-up leaves the turn alone. -/
@[simp] theorem lookup_turn : (resolver.lookup now target).2.1.turn = resolver.turn := by
  rw [lookup_eq]

/-- A look-up leaves the waiting calls alone. -/
@[simp] theorem lookup_waiting : (resolver.lookup now target).2.1.waiting = resolver.waiting := by
  rw [lookup_eq]

/-- A look-up leaves the settings alone. -/
@[simp] theorem lookup_settings :
    (resolver.lookup now target).2.1.settings = resolver.settings := by
  rw [lookup_eq]

/-- A look-up leaves the addresses alone. -/
@[simp] theorem lookup_addresses :
    (resolver.lookup now target).2.1.addresses = resolver.addresses := by
  rw [lookup_eq]

/-- A look-up ages the cache, if there is one. -/
theorem lookup_ages : Ages now resolver (resolver.lookup now target).2.1 := by
  rw [lookup]
  -- A fixed address and a missing cache leave the cache alone.
  split
  · exact .refl now rfl
  · exact .refl now rfl
  · rename_i cache _ present
    rw [Ages, present]
    exact .some (cache.get_aged now target)

/-- A look-up finds the address of a group, or else what the cache has. -/
theorem lookup_eq_some_iff {mac : Mac} : (resolver.lookup now target).1 = some mac ↔
    resolver.wellKnown? target = some mac ∨ resolver.wellKnown? target = none ∧
      ∃ cache entry, resolver.cache = some cache ∧
        cache.entries.get? target = some entry ∧ cache.isLive now entry ∧ entry.mac = mac := by
  rw [lookup]
  -- The cache is looked at only for an address that is not well known.
  cases resolver.wellKnown? target with
  | some known => simp
  | none =>
    cases resolver.cache with
    | none => simp
    | some cache => simp [ResolutionCache.get_eq_some_iff]

/-- Addresses alone decide which targets are well known. -/
theorem wellKnown?_congr {left right : Resolver family}
    (same : left.addresses = right.addresses) (target : Address family) :
    left.wellKnown? target = right.wellKnown? target := by
  rw [wellKnown?, wellKnown?, isDirectedBroadcast, isDirectedBroadcast, same]

/-- What is known stays known as it is looked up. -/
theorem lookup_lookup : ((resolver.lookup now target).2.1.lookup now target).1 =
    (resolver.lookup now target).1 := by
  have same : (resolver.lookup now target).2.1.wellKnown? target = resolver.wellKnown? target :=
    wellKnown?_congr (lookup_addresses ..) target
  have ages := resolver.lookup_ages now target
  -- The second look-up finds a live entry exactly if the first one did.
  refine Option.ext fun mac => ?_
  rw [lookup_eq_some_iff, lookup_eq_some_iff, same]
  refine or_congr_right (and_congr_right fun _ => ?_)
  rw [Ages] at ages
  generalize (resolver.lookup now target).2.1.cache = after at ages ⊢
  generalize resolver.cache = before at ages ⊢
  cases ages with
  | none => exact Iff.rfl
  | some aged =>
    constructor
    · rintro ⟨_, entry, ⟨⟩, found, live, rfl⟩
      refine ⟨_, entry, rfl, aged.origin _ _ found, ?_, rfl⟩
      rwa [ResolutionCache.isLive, aged.timeout] at live
    · rintro ⟨_, entry, ⟨⟩, found, live, rfl⟩
      refine ⟨_, entry, rfl, aged.live _ _ found live, ?_, rfl⟩
      rwa [ResolutionCache.isLive, aged.timeout]

/-- Addresses alone decide from where a target is asked. -/
theorem sourceFor?_congr {left right : Resolver family}
    (same : left.addresses = right.addresses) (target : Address family) :
    left.sourceFor? target = right.sourceFor? target := by
  rw [sourceFor?, sourceFor?, same]

end Lookup

/-- The turns of a resolver: the one that is taken, and those of the calls that wait. -/
def places : List (ResolutionTurn family) :=
  resolver.turn.toList ++ resolver.waiting.map .granted

variable {resolver} in
/-- The turn that is taken comes first. -/
theorem places_of_turn {turn : ResolutionTurn family} (taken : resolver.turn = some turn) :
    resolver.places = turn :: resolver.waiting.map .granted := by
  rw [places, taken]
  rfl

variable {resolver} in
/-- The turn that is taken is one of the turns. -/
theorem mem_places_of_turn {turn : ResolutionTurn family} (taken : resolver.turn = some turn) :
    turn ∈ resolver.places := by
  rw [places_of_turn taken]
  exact List.mem_cons_self

section PassTurn

/-- Passing the turn on touches nothing but the turn and the waiting calls. -/
theorem passTurn_eq : resolver.passTurn.1 =
    { resolver with turn := resolver.passTurn.1.turn, waiting := resolver.passTurn.1.waiting } := by
  rw [passTurn]
  split <;> rfl

/-- The turn has passed to the first of some calls that have waited. -/
structure Passed (calls : List (ResolutionCall family)) (after : Resolver family) : Prop where
  turn : after.turn = calls.head?.map .granted
  waiting : after.waiting = calls.tail

/-- The call that has waited longest gets the turn. -/
theorem passTurn_passed : Passed resolver.waiting resolver.passTurn.1 := by
  -- The line is empty, and the turn is free, or its first call is granted.
  rw [passTurn]
  split
  · rename_i none
    rw [none]
    exact ⟨rfl, rfl⟩
  · rename_i some
    rw [some]
    exact ⟨rfl, rfl⟩

namespace Passed

variable {calls : List (ResolutionCall family)} {after : Resolver family}

/-- The calls that have waited keep their places. -/
theorem places (passed : Passed calls after) : after.places = calls.map .granted := by
  rw [Resolver.places, passed.turn, passed.waiting]
  cases calls <;> rfl

/-- As long as calls wait, somebody has the turn. -/
theorem lined (passed : Passed calls after) (free : after.turn = none) : after.waiting = [] := by
  rw [passed.turn] at free
  rw [passed.waiting]
  cases calls with
  | nil => rfl
  | cons => cases free

/-- The turn that is passed on has not begun. -/
theorem granted (passed : Passed calls after) {turn : ResolutionTurn family}
    (taken : after.turn = some turn) : turn.asked = 0 := by
  obtain ⟨call, _, rfl⟩ := Option.map_eq_some_iff.mp (passed.turn.symm.trans taken)
  rfl

end Passed

/-- Passing the turn on only wakes the call that gets it. -/
theorem passTurn_effects {effect : ResolutionEffect family}
    (caused : effect ∈ resolver.passTurn.2) : ∃ call, effect = .wake call := by
  rw [passTurn] at caused
  split at caused
  · cases caused
  · exact ⟨_, List.mem_singleton.mp caused⟩

end PassTurn

/-- A turn that begins ends with an answer that is known, puts its question, or gives up. -/
theorem begin_cases (call : ResolutionCall family) :
    let looked := (resolver.lookup now call.target).2.1
    let hits := (resolver.lookup now call.target).2.2.map ResolutionEffect.tally
    (∃ mac, (resolver.lookup now call.target).1 = some mac ∧
      resolver.begin now call = (looked.passTurn.1,
        hits ++ (looked.passTurn.2 ++ [.finish call.id (some mac)]))) ∨
    (resolver.lookup now call.target).1 = none ∧
      ((0 < resolver.settings.attempts ∧
        resolver.begin now call =
          ({ looked with turn := some ⟨call, 1, now + resolver.settings.retransmit, none⟩ },
            hits ++ [.solicit call.target call.source, .tally .resolutionRequests,
              .arm call.id (now + resolver.settings.retransmit)])) ∨
      (resolver.settings.attempts = 0 ∧
        resolver.begin now call = (looked.passTurn.1,
          hits ++ .tally .resolutionFailures ::
            (looked.passTurn.2 ++ [.finish call.id none])))) := by
  intro looked hits
  -- The look-up decides, and after it the number of attempts.
  cases found : (resolver.lookup now call.target).1 with
  | some mac => exact Or.inl ⟨mac, rfl, by simp only [begin, found]; rfl⟩
  | none =>
    refine Or.inr ⟨rfl, ?_⟩
    rcases Nat.eq_zero_or_pos resolver.settings.attempts with none | some
    · refine Or.inr ⟨none, ?_⟩
      simp only [begin, found, ask, ResolutionTurn.granted, lookup_settings, none]
      rfl
    · refine Or.inl ⟨some, ?_⟩
      simp only [begin, found, ask, ResolutionTurn.granted, lookup_settings, if_pos some, looked]
      rfl

/-- A call ends at once, begins its turn, or waits for it. -/
theorem start_cases (id : CallId) (target : Address family) :
    let looked := (resolver.lookup now target).2.1
    let hits := (resolver.lookup now target).2.2.map ResolutionEffect.tally
    (∃ mac, (resolver.lookup now target).1 = some mac ∧
      resolver.start now id target = (looked, hits ++ [.finish id (some mac)])) ∨
    (resolver.lookup now target).1 = none ∧
      ((resolver.sourceFor? target = none ∧
        resolver.start now id target =
          (looked, [.tally .resolutionFailures, .finish id none])) ∨
      ∃ source, resolver.sourceFor? target = some source ∧
        ((resolver.turn = none ∧
          resolver.start now id target = looked.begin now ⟨id, target, source⟩) ∨
        (∃ turn, resolver.turn = some turn ∧
          resolver.start now id target =
            ({ looked with waiting := resolver.waiting ++ [⟨id, target, source⟩] }, [])))) := by
  intro looked hits
  have sources : looked.sourceFor? target = resolver.sourceFor? target :=
    sourceFor?_congr (lookup_addresses ..) target
  -- The look-up decides first, then the addresses, and last whether the turn is free.
  cases found : (resolver.lookup now target).1 with
  | some mac =>
    refine Or.inl ⟨mac, rfl, ?_⟩
    simp only [start, found]
    rfl
  | none =>
    refine Or.inr ⟨rfl, ?_⟩
    cases onLink : resolver.sourceFor? target with
    | none =>
      refine Or.inl ⟨rfl, ?_⟩
      simp only [start, found]
      rw [show (resolver.lookup now target).2.1.sourceFor? target = none from sources.trans onLink]
    | some source =>
      refine Or.inr ⟨source, rfl, ?_⟩
      have there : (resolver.lookup now target).2.1.sourceFor? target = some source :=
        sources.trans onLink
      cases taken : resolver.turn with
      | none =>
        refine Or.inl ⟨rfl, ?_⟩
        simp only [start, found, there, lookup_turn, taken]
        rfl
      | some turn =>
        refine Or.inr ⟨turn, rfl, ?_⟩
        simp only [start, found, there, lookup_turn, taken, lookup_waiting, looked]

/--
A call that is looked at again has its turn or nothing happens.

With the turn, it begins, ends with its answer, puts its question again, gives up, or goes on waiting.
-/
theorem resume_cases (id : CallId) :
    ((∀ turn, resolver.turn = some turn → turn.call.id ≠ id) ∧
      resolver.resume now id = (resolver, [])) ∨
    ∃ turn, resolver.turn = some turn ∧ turn.call.id = id ∧
      ((turn.asked = 0 ∧ resolver.resume now id = resolver.begin now turn.call) ∨
      turn.asked ≠ 0 ∧
        ((∃ mac, turn.answer = some mac ∧ resolver.resume now id =
          (resolver.passTurn.1, resolver.passTurn.2 ++ [.finish id (some mac)])) ∨
        turn.answer = none ∧
          ((turn.deadline ≤ now ∧ turn.asked < resolver.settings.attempts ∧
            resolver.resume now id =
              ({ resolver with turn := some { turn with
                  asked := turn.asked + 1
                  deadline := now + resolver.settings.retransmit } },
                [.solicit turn.call.target turn.call.source, .tally .resolutionRequests,
                  .arm id (now + resolver.settings.retransmit)])) ∨
          (turn.deadline ≤ now ∧ resolver.settings.attempts ≤ turn.asked ∧
            resolver.resume now id = (resolver.passTurn.1,
              .tally .resolutionFailures :: (resolver.passTurn.2 ++ [.finish id none]))) ∨
          (now < turn.deadline ∧ resolver.resume now id = (resolver, []))))) := by
  -- The turn may be free or of another call, and then nothing is done.
  cases taken : resolver.turn with
  | none => exact Or.inl ⟨by simp, by simp only [resume, taken]⟩
  | some turn =>
    by_cases own : turn.call.id = id
    case neg =>
      refine Or.inl ⟨fun other same => ?_, by simp only [resume, taken, if_pos own]⟩
      cases same
      exact own
    refine Or.inr ⟨turn, rfl, own, ?_⟩
    subst own
    by_cases granted : turn.asked = 0
    · exact Or.inl ⟨granted, by simp [resume, taken, granted]⟩
    refine Or.inr ⟨granted, ?_⟩
    -- An answer comes before the deadline, even if that is over.
    cases answered : turn.answer with
    | some mac =>
      refine Or.inl ⟨mac, rfl, ?_⟩
      simp only [resume, taken, ne_eq, not_true_eq_false, if_false, if_neg granted, answered]
      rfl
    | none =>
      refine Or.inr ⟨rfl, ?_⟩
      by_cases due : turn.deadline ≤ now
      · by_cases left : turn.asked < resolver.settings.attempts
        · refine Or.inl ⟨due, left, ?_⟩
          simp [resume, taken, granted, answered, due, ask, left]
        · refine Or.inr (Or.inl ⟨due, Nat.le_of_not_lt left, ?_⟩)
          simp only [resume, taken, ne_eq, not_true_eq_false, if_false, if_neg granted, answered,
            if_pos due, ask, if_neg left]
          rfl
      · refine Or.inr (Or.inr ⟨Nat.lt_of_not_le due, ?_⟩)
        simp [resume, taken, granted, answered, due]

/-- An answer is accepted if the call whose turn it is awaits it, and else nothing happens. -/
theorem accept_cases (address : Address family) (mac : Mac) :
    (∃ turn, resolver.turn = some turn ∧ turn.awaits address ∧
      resolver.accept now address mac = (true,
        { resolver with
          cache := resolver.cache.map fun cache => cache.insert now address mac
          turn := some { turn with answer := some mac } },
        [.wake turn.call.id])) ∨
    ((∀ turn, resolver.turn = some turn → turn.awaits address = false) ∧
      resolver.accept now address mac = (false, resolver, [])) := by
  -- Only the turn is asked whether it awaits the answer.
  cases taken : resolver.turn with
  | none => exact Or.inr ⟨by simp, by simp only [accept, taken]⟩
  | some turn =>
    by_cases awaited : turn.awaits address = true
    · exact Or.inl ⟨turn, rfl, awaited, by simp only [accept, taken, if_pos awaited]⟩
    · refine Or.inr ⟨fun other same => ?_, by simp only [accept, taken, if_neg awaited]⟩
      cases same
      exact Bool.eq_false_iff.mpr awaited

/-- A call that is given up passes its turn on, or waits no more. -/
theorem cancel_cases (id : CallId) :
    (∃ turn, resolver.turn = some turn ∧ turn.call.id = id ∧
      resolver.cancel id = resolver.passTurn) ∨
    (∃ turn, resolver.turn = some turn ∧ turn.call.id ≠ id ∧ resolver.cancel id =
      ({ resolver with waiting := resolver.waiting.filter (·.id ≠ id) }, [])) ∨
    (resolver.turn = none ∧ resolver.cancel id = (resolver, [])) := by
  -- With the turn free nothing is given up.
  cases taken : resolver.turn with
  | none => exact Or.inr (Or.inr ⟨rfl, by simp only [cancel, taken]⟩)
  | some turn =>
    by_cases own : turn.call.id = id
    · exact Or.inl ⟨turn, rfl, own, by simp only [cancel, taken, if_pos own]⟩
    · exact Or.inr (Or.inl ⟨turn, rfl, own, by simp only [cancel, taken, if_neg own]⟩)

section Keeps

/-- What changes of turns and look-ups leave alone. -/
structure Keeps (now : Nat) (before after : Resolver family) : Prop where
  settings : after.settings = before.settings
  mac : after.mac = before.mac
  addresses : after.addresses = before.addresses
  ages : Ages now before after

/-- A resolver keeps what it has. -/
theorem Keeps.refl (now : Nat) (resolver : Resolver family) : Keeps now resolver resolver :=
  ⟨rfl, rfl, rfl, .refl now rfl⟩

variable {now} in
/-- What is kept twice is kept. -/
theorem Keeps.trans {before between after : Resolver family} (early : Keeps now before between)
    (late : Keeps now between after) : Keeps now before after :=
  ⟨late.settings.trans early.settings, late.mac.trans early.mac,
    late.addresses.trans early.addresses, early.ages.trans late.ages⟩

/-- A look-up keeps all but the cache, which ages. -/
theorem lookup_keeps (target : Address family) :
    Keeps now resolver (resolver.lookup now target).2.1 := by
  refine ⟨lookup_settings .., ?_, lookup_addresses .., lookup_ages ..⟩
  rw [lookup_eq]

/-- Passing the turn on keeps all but the line. -/
theorem passTurn_keeps : Keeps now resolver resolver.passTurn.1 := by
  rw [passTurn_eq]
  exact ⟨rfl, rfl, rfl, .refl now rfl⟩

/-- A turn that begins keeps all but the line and the age of the cache. -/
theorem begin_keeps (call : ResolutionCall family) :
    Keeps now resolver (resolver.begin now call).1 := by
  -- The look-up may age the cache, and passing the turn on changes the line alone.
  have looked := resolver.lookup_keeps now call.target
  rcases resolver.begin_cases now call with ⟨_, _, begun⟩ | ⟨_, ⟨_, begun⟩ | ⟨_, begun⟩⟩
  · rw [begun]
    exact looked.trans (passTurn_keeps ..)
  · rw [begun]
    exact ⟨looked.settings, looked.mac, looked.addresses, looked.ages⟩
  · rw [begun]
    exact looked.trans (passTurn_keeps ..)

/-- A call that starts keeps all but the line and the age of the cache. -/
theorem start_keeps (id : CallId) (target : Address family) :
    Keeps now resolver (resolver.start now id target).1 := by
  -- As for a turn that begins, which one of the cases is.
  have looked := resolver.lookup_keeps now target
  rcases resolver.start_cases now id target with
    ⟨_, _, started⟩ | ⟨_, ⟨_, started⟩ | ⟨_, _, ⟨_, started⟩ | ⟨_, _, started⟩⟩⟩
  · rw [started]
    exact looked
  · rw [started]
    exact looked
  · rw [started]
    exact looked.trans (begin_keeps ..)
  · rw [started]
    exact ⟨looked.settings, looked.mac, looked.addresses, looked.ages⟩

/-- A call that is looked at again keeps all but the line and the age of the cache. -/
theorem resume_keeps (id : CallId) : Keeps now resolver (resolver.resume now id).1 := by
  -- The five cases change the turn or the line, and one of them looks the target up.
  rcases resolver.resume_cases now id with ⟨_, resumed⟩ | ⟨turn, _, _, ⟨_, resumed⟩ |
    ⟨_, ⟨_, _, resumed⟩ | ⟨_, ⟨_, _, resumed⟩ | ⟨_, _, resumed⟩ | ⟨_, resumed⟩⟩⟩⟩
  · rw [resumed]
    exact .refl now resolver
  · rw [resumed]
    exact begin_keeps ..
  · rw [resumed]
    exact passTurn_keeps ..
  · rw [resumed]
    exact ⟨rfl, rfl, rfl, .refl now rfl⟩
  · rw [resumed]
    exact passTurn_keeps ..
  · rw [resumed]
    exact .refl now resolver

/-- A call that is given up keeps all but the line. -/
theorem cancel_keeps (id : CallId) : Keeps now resolver (resolver.cancel id).1 := by
  -- Passing the turn on and leaving the line touch neither cache nor addresses.
  rcases resolver.cancel_cases id with ⟨_, _, _, cancelled⟩ | ⟨_, _, _, cancelled⟩ | ⟨_, cancelled⟩
  · rw [cancelled]
    exact passTurn_keeps ..
  · rw [cancelled]
    exact ⟨rfl, rfl, rfl, .refl now rfl⟩
  · rw [cancelled]
    exact .refl now resolver

end Keeps

end Resolver

end NetworkLayer
