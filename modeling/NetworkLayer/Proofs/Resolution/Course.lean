import NetworkLayer.Proofs.Resolution.Session

/-!
The course of a call in a session: from its start through its turn, in which it puts its question at
regular times, to its end.
-/

namespace NetworkLayer.Resolver

variable {family : Family}

/-- How closely a session keeps to the times that it plans. -/
inductive Punctuality
  /-- What is due happens at its time. -/
  | exact
  /-- What is due happens at its time or later. -/
  | late
deriving DecidableEq

namespace Punctuality

/-- Whether something that is planned for a time may happen at an actual one. -/
def allows : Punctuality → Nat → Nat → Prop
  | .exact, planned, actual => actual = planned
  | .late, planned, actual => planned ≤ actual

variable {punctuality : Punctuality} {planned actual : Nat}

/-- Whatever the punctuality, something may happen at its time. -/
theorem allows_self (punctuality : Punctuality) (planned : Nat) :
    punctuality.allows planned planned := by
  cases punctuality
  case exact => rfl
  case late => exact Nat.le_refl _

/-- A plan that starts from an actual time is as punctual as that. -/
theorem allows_add (allowed : punctuality.allows planned actual) (span : Nat) :
    punctuality.allows (planned + span) (actual + span) := by
  cases punctuality
  case exact => exact congrArg (· + span) allowed
  case late => exact Nat.add_le_add_right allowed span

/-- What waits for a deadline happens as punctually as the deadline was set. -/
theorem allows_due {deadline : Nat} (allowed : punctuality.allows planned deadline)
    (due : deadline ≤ actual) (onTime : punctuality = .exact → actual ≤ deadline) :
    punctuality.allows planned actual := by
  cases punctuality
  case exact => exact (Nat.le_antisymm (onTime rfl) due).trans allowed
  case late => exact Nat.le_trans allowed due

end Punctuality

/-- Where a call stands. -/
inductive Stage
  /-- The call waits for its turn. -/
  | waiting
  /-- The call has had its turn since a time, and has put its question so many times. -/
  | asking (since asked : Nat)
  /-- The call has ended or was given up. -/
  | finished
deriving DecidableEq

section Course

variable (punctuality : Punctuality) (settings : ResolverSettings) (id : CallId)
  (target : Address family)

/-- What may have happened to a call for a target that stands at some stage. -/
inductive Course : Stage → History family → Prop
  | called (time : Nat) : Course .waiting [(time, .called id target)]
  /-- The call has ended at once. -/
  | refused (time : Nat) (mac : Option Mac) :
      Course .finished [(time, .ended id mac), (time, .called id target)]
  /-- The answer was known as the turn came. -/
  | known {history : History family} (time : Nat) (mac : Mac) (course : Course .waiting history) :
      Course .finished ((time, .ended id (some mac)) :: (time, .began id) :: history)
  /-- There is not even one attempt. -/
  | mute {history : History family} (time : Nat) (never : settings.attempts = 0)
      (course : Course .waiting history) :
      Course .finished ((time, .ended id none) :: (time, .began id) :: history)
  | began {history : History family} (time : Nat) (left : 0 < settings.attempts)
      (course : Course .waiting history) :
      Course (.asking time 1) ((time, .asked id target) :: (time, .began id) :: history)
  | again {history : History family} {since asked time : Nat}
      (course : Course (.asking since asked) history) (left : asked < settings.attempts)
      (due : punctuality.allows (since + asked * settings.retransmit) time) :
      Course (.asking since (asked + 1)) ((time, .asked id target) :: history)
  | ended {history : History family} {since asked : Nat} (time : Nat) (mac : Option Mac)
      (course : Course (.asking since asked) history) :
      Course .finished ((time, .ended id mac) :: history)
  | dropped {history : History family} {stage : Stage} (time : Nat)
      (course : Course stage history) (open' : stage ≠ .finished) :
      Course .finished ((time, .dropped id) :: history)

/-- A call that may still be made, or is over. -/
def Idle (history : History family) : Prop :=
  history.about id = [] ∨ ∃ target, Course punctuality settings id target .finished (history.about id)

/-- How a turn agrees with what has happened. -/
inductive Stands (history : History family) (turn : ResolutionTurn family) : Prop
  | waiting (asked : turn.asked = 0)
      (course : Course punctuality settings turn.call.id turn.call.target .waiting
        (history.about turn.call.id))
  | asking (since : Nat) (asked : turn.asked ≠ 0)
      (course : Course punctuality settings turn.call.id turn.call.target
        (.asking since turn.asked) (history.about turn.call.id))
      (answer : turn.answer =
        ((history.since (.began turn.call.id)).latest? turn.call.target).map (·.2))
      (due : punctuality.allows (since + turn.asked * settings.retransmit) turn.deadline)

end Course

variable {punctuality : Punctuality} {settings : ResolverSettings} {id : CallId}
  {target : Address family} {stage : Stage} {history : History family}

namespace Course

/-- Something has happened to a call that has a course. -/
theorem ne_nil (course : Course punctuality settings id target stage history) : history ≠ [] := by
  cases course <;> exact List.cons_ne_nil _ _

/-- A call is on record with its target. -/
theorem has_called (course : Course punctuality settings id target stage history) :
    ∃ time, (time, .called id target) ∈ history := by
  -- Induction on the course: each step adds events on top of the call, which stays on record.
  induction course with
  | called time => exact ⟨time, List.mem_cons_self⟩
  | refused time => exact ⟨time, List.mem_cons_of_mem _ List.mem_cons_self⟩
  | known _ _ _ ih => exact ih.imp fun _ here => List.mem_cons_of_mem _ (List.mem_cons_of_mem _ here)
  | mute _ _ _ ih => exact ih.imp fun _ here => List.mem_cons_of_mem _ (List.mem_cons_of_mem _ here)
  | began _ _ _ ih => exact ih.imp fun _ here => List.mem_cons_of_mem _ (List.mem_cons_of_mem _ here)
  | again _ _ _ ih => exact ih.imp fun _ => List.mem_cons_of_mem _
  | ended _ _ _ ih => exact ih.imp fun _ => List.mem_cons_of_mem _
  | dropped _ _ _ ih => exact ih.imp fun _ => List.mem_cons_of_mem _

/-- A call is made, and asks, for one target. -/
theorem target_eq (course : Course punctuality settings id target stage history)
    {entry : Nat × Event family} (here : entry ∈ history) {other : Address family}
    (named : entry.2.target? = some other) : other = target := by
  -- Induction on the course. An event on top names the target of the course or none, and those below are
  -- settled before.
  induction course with
  | called =>
    cases List.mem_singleton.mp here
    exact (Option.some_inj.mp named).symm
  | refused =>
    rcases List.mem_cons.mp here with rfl | here
    · cases named
    · cases List.mem_singleton.mp here
      exact (Option.some_inj.mp named).symm
  | known _ _ _ ih =>
    rcases List.mem_cons.mp here with rfl | here
    · cases named
    rcases List.mem_cons.mp here with rfl | here
    · cases named
    exact ih here
  | mute _ _ _ ih =>
    rcases List.mem_cons.mp here with rfl | here
    · cases named
    rcases List.mem_cons.mp here with rfl | here
    · cases named
    exact ih here
  | began _ _ _ ih =>
    rcases List.mem_cons.mp here with rfl | here
    · exact (Option.some_inj.mp named).symm
    rcases List.mem_cons.mp here with rfl | here
    · cases named
    exact ih here
  | again _ _ _ ih =>
    rcases List.mem_cons.mp here with rfl | here
    · exact (Option.some_inj.mp named).symm
    exact ih here
  | ended _ _ _ ih =>
    rcases List.mem_cons.mp here with rfl | here
    · cases named
    exact ih here
  | dropped _ _ _ ih =>
    rcases List.mem_cons.mp here with rfl | here
    · cases named
    exact ih here

/-- A call is over when it has ended or was given up, and no sooner. -/
theorem finished_iff (course : Course punctuality settings id target stage history) :
    stage = .finished ↔ ∃ entry ∈ history, entry.2.isLast := by
  induction course with
  | began _ _ _ ih => simpa [Event.isLast] using ih
  | again _ _ _ ih => simpa [Event.isLast] using ih
  | _ => simp [Event.isLast]

/-- A call that waits has not put its question. -/
theorem not_asked (course : Course punctuality settings id target .waiting history) {time : Nat}
    {other : Address family} : (time, .asked id other) ∉ history := by
  cases course
  simp

/-- A call that asks is on record with its question. -/
theorem has_asked {since asked : Nat}
    (course : Course punctuality settings id target (.asking since asked) history) :
    ∃ time, (time, .asked id target) ∈ history := by
  cases course with
  | began => exact ⟨_, List.mem_cons_self⟩
  | again => exact ⟨_, List.mem_cons_self⟩

end Course

/-- What happens to other calls does not make a call less idle. -/
theorem Idle.frame {new : History family} (idle : Idle punctuality settings id history)
    (foreign : ∀ entry ∈ new, entry.2.call? ≠ some id) :
    Idle punctuality settings id (new ++ history) := by
  rw [Idle, History.about_append_of_foreign foreign]
  exact idle

namespace Stands

variable {turn : ResolutionTurn family}

/-- A turn belongs to a call that was made. -/
theorem about_ne_nil (stands : Stands punctuality settings history turn) :
    history.about turn.call.id ≠ [] := by
  cases stands with
  | waiting _ course => exact course.ne_nil
  | asking _ _ course => exact course.ne_nil

/-- What happens to other calls does not touch a turn. -/
theorem frame {new : History family} (stands : Stands punctuality settings history turn)
    (foreign : ∀ entry ∈ new, entry.2.call? ≠ some turn.call.id)
    (silent : turn.asked ≠ 0 → ∀ entry ∈ new, entry.2.answer? turn.call.target = none) :
    Stands punctuality settings (new ++ history) turn := by
  have about : History.about (new ++ history) turn.call.id = history.about turn.call.id :=
    History.about_append_of_foreign foreign history
  cases stands with
  | waiting asked course => exact .waiting asked (by rwa [about])
  | asking since asked course answer due =>
    refine .asking since asked (by rwa [about]) ?_ due
    -- The turn began before the new events, and none of them is an answer to it.
    rw [History.since_append, History.latest?_append_of_none (silent asked), answer]
    intro entry here same
    exact foreign entry here (by rw [same]; rfl)

/-- The course of a call whose turn stands. -/
theorem course (stands : Stands punctuality settings history turn) :
    ∃ stage, stage ≠ .finished ∧ Course punctuality settings turn.call.id turn.call.target stage
      (history.about turn.call.id) := by
  cases stands with
  | waiting _ course => exact ⟨.waiting, nofun, course⟩
  | asking since _ course => exact ⟨.asking since turn.asked, nofun, course⟩

end Stands

end NetworkLayer.Resolver
