import NetworkLayer.Proofs.Resolution.Step

/-!
How a call to a resolver ends. Main statement: looking at a call ends this call and no other, last of all it does, and
only for a reason: a target that is known or was answered, and else one that is on no prefix, that may not be asked
for, or that has not answered in all its attempts.
-/

namespace NetworkLayer.Resolver

variable {family : Family}

/-- Why a call for a target ends as it does. -/
inductive Ending (resolver : Resolver family) (now : Nat) (call : CallId) (target : Address family) :
    Option Mac → Prop
  /-- The target is known without a question. -/
  | known {station : Mac} (found : (resolver.lookup now target).1 = some station) :
      Ending resolver now call target (some station)
  /-- A station has answered the question of the call. -/
  | answered {turn : ResolutionTurn family} {station : Mac} (taken : resolver.turn = some turn)
      (own : turn.call.id = call) (told : turn.answer = some station) :
      Ending resolver now call target (some station)
  /-- The target is on no prefix of the interface. -/
  | offLink (unknown : (resolver.lookup now target).1 = none)
      (outside : resolver.sourceFor? target = none) : Ending resolver now call target none
  /-- Not one attempt is allowed. -/
  | unasked (unknown : (resolver.lookup now target).1 = none)
      (never : resolver.settings.attempts = 0) : Ending resolver now call target none
  /-- All attempts are used up, the period of the last one included. -/
  | unanswered {turn : ResolutionTurn family} (taken : resolver.turn = some turn)
      (own : turn.call.id = call) (silent : turn.answer = none)
      (spent : resolver.settings.attempts ≤ turn.asked) (elapsed : turn.deadline ≤ now) :
      Ending resolver now call target none

/-- Whether an effect puts nothing on the link and ends no call. -/
def isQuiet : ResolutionEffect family → Bool
  | .tally _ | .wake _ | .arm .. => true
  | .solicit .. | .finish .. => false

/-- Effects that end one call, last of all and with one of some outcomes, or none. -/
inductive Closing (call : CallId) (outcome : Option Mac → Prop) :
    List (ResolutionEffect family) → Prop
  | ends {quiet : List (ResolutionEffect family)} {found : Option Mac}
      (calm : ∀ effect ∈ quiet, isQuiet effect = true) (allowed : outcome found) :
      Closing call outcome (quiet ++ [.finish call found])
  | goesOn {effects : List (ResolutionEffect family)}
      (unfinished : ∀ other found, .finish other found ∉ effects) : Closing call outcome effects

namespace Closing

variable {call : CallId} {outcome : Option Mac → Prop} {effects : List (ResolutionEffect family)}

/-- Other outcomes may be allowed as well. -/
theorem imp {other : Option Mac → Prop} (closing : Closing call outcome effects)
    (wider : ∀ found, outcome found → other found) : Closing call other effects := by
  cases closing with
  | ends calm allowed => exact .ends calm (wider _ allowed)
  | goesOn unfinished => exact .goesOn unfinished

/-- Quiet effects in front change nothing about the end. -/
theorem after {quiet : List (ResolutionEffect family)} (closing : Closing call outcome effects)
    (calm : ∀ effect ∈ quiet, isQuiet effect = true) : Closing call outcome (quiet ++ effects) := by
  -- What calls are finished in the effects is the same, since quiet effects finish none.
  cases closing with
  | ends calm' allowed =>
    rw [← List.append_assoc]
    refine .ends (fun effect here => ?_) allowed
    exact (List.mem_append.mp here).elim (calm effect) (calm' effect)
  | goesOn unfinished =>
    refine .goesOn fun other found here => ?_
    rcases List.mem_append.mp here with early | late
    · cases calm _ early
    · exact unfinished other found late

end Closing

/-- Counters are quiet. -/
theorem isQuiet_tallies (counters : List Counter) :
    ∀ effect ∈ counters.map (@ResolutionEffect.tally family), isQuiet effect = true := by
  intro effect here
  obtain ⟨counter, -, rfl⟩ := List.mem_map.mp here
  rfl

variable (resolver : Resolver family) (now : Nat)

/-- Passing a turn on is quiet. -/
theorem isQuiet_passTurn : ∀ effect ∈ resolver.passTurn.2, isQuiet effect = true := by
  intro effect here
  obtain ⟨call, rfl⟩ := resolver.passTurn_effects here
  rfl

/-- A turn that begins ends its call if the target is known by now, or if it may not be asked for. -/
theorem begin_closing (call : ResolutionCall family) :
    Closing call.id (resolver.Ending now call.id call.target) (resolver.begin now call).2 := by
  -- The three cases are those of the resolver: known, asked for, and out of attempts.
  rcases resolver.begin_cases now call with
    ⟨station, found, begun⟩ | ⟨unknown, ⟨-, begun⟩ | ⟨never, begun⟩⟩
  · rw [begun]
    exact (Closing.ends (isQuiet_passTurn _) (.known found)).after (isQuiet_tallies _)
  · rw [begun]
    refine Closing.after (.goesOn fun other found here => ?_) (isQuiet_tallies _)
    simp at here
  · rw [begun]
    refine Closing.after ?_ (isQuiet_tallies _)
    exact (Closing.ends (isQuiet_passTurn _) (.unasked unknown never)).after
      (isQuiet_tallies [.resolutionFailures])

/-- A call that starts ends at once if its target is known or on no prefix, and else as its turn begins. -/
theorem start_closing (id : CallId) (target : Address family) :
    Closing id (resolver.Ending now id target) (resolver.start now id target).2 := by
  -- The outcomes are known, off the link, the turn at once, and a place in the line.
  rcases resolver.start_cases now id target with ⟨station, found, started⟩ |
    ⟨unknown, ⟨outside, started⟩ | ⟨source, -, ⟨-, started⟩ | ⟨turn, -, started⟩⟩⟩
  · rw [started]
    exact .ends (isQuiet_tallies _) (.known found)
  · rw [started]
    exact .ends (isQuiet_tallies [.resolutionFailures]) (.offLink unknown outside)
  · rw [started]
    refine (begin_closing _ now ⟨id, target, source⟩).imp fun found ending => ?_
    -- The turn begins with the resolver as the first look-up has left it, which knows no more.
    have still := (resolver.lookup_lookup now target).trans unknown
    cases ending with
    | known found => cases still.symm.trans found
    | answered taken own told => exact .answered (by rwa [lookup_turn] at taken) own told
    | offLink _ outside =>
      exact .offLink unknown (by rwa [sourceFor?_congr (lookup_addresses ..)] at outside)
    | unasked _ never => exact .unasked unknown (by rwa [lookup_settings] at never)
    | unanswered taken own silent spent elapsed =>
      exact .unanswered (by rwa [lookup_turn] at taken) own silent
        (by rwa [lookup_settings] at spent) elapsed
  · rw [started]
    exact .goesOn fun _ _ => List.not_mem_nil

/-- A call that is looked at again ends if it has the turn, with its answer or without any. -/
theorem resume_closing (id : CallId) : (resolver.resume now id).2 = [] ∨
    ∃ turn, resolver.turn = some turn ∧ turn.call.id = id ∧
      Closing id (resolver.Ending now id turn.call.target) (resolver.resume now id).2 := by
  -- Without the turn nothing is done. With it, the call begins, has its answer, asks again, gives up, or waits
  -- on.
  rcases resolver.resume_cases now id with ⟨-, passed⟩ | ⟨turn, taken, rfl, resumed⟩
  · exact .inl (congrArg Prod.snd passed)
  refine .inr ⟨turn, taken, rfl, ?_⟩
  rcases resumed with ⟨-, begun⟩ | ⟨-, ⟨station, told, ended⟩ |
    ⟨silent, ⟨-, -, asks⟩ | ⟨elapsed, spent, ended⟩ | ⟨-, waits⟩⟩⟩
  · rw [begun]
    exact begin_closing resolver now turn.call
  · rw [ended]
    exact .ends (isQuiet_passTurn _) (.answered taken rfl told)
  · rw [asks]
    exact .goesOn fun other found here => by simp at here
  · rw [ended]
    exact (Closing.ends (isQuiet_passTurn _) (.unanswered taken rfl silent spent elapsed)).after
      (isQuiet_tallies [.resolutionFailures])
  · rw [waits]
    exact .goesOn fun _ _ => List.not_mem_nil

end NetworkLayer.Resolver
