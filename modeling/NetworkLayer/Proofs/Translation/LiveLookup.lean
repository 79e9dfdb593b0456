import NetworkLayer.Proofs.Translation.Custody

/-!
Which live flows a look-up finds. Main statement: whatever was done to a table, a look-up finds a live flow
whenever there is one, unless no sweep is due and the first flow that it could find has expired.
-/

namespace NetworkLayer

namespace FlowTable

variable {table : FlowTable} {now : Nat} {selected : Flow → Bool}

/-- The flows of a list that are live under a timeout. -/
def alive (timeout now : Nat) (flows : List Flow) : List Flow :=
  flows.filter (·.isLive timeout now)

/-- A sweep leaves the live flows as they are. -/
theorem alive_sweepIfDue (table : FlowTable) (now : Nat) :
    alive table.timeout now (table.sweepIfDue now).flows = alive table.timeout now table.flows := by
  rcases sweepIfDue_cases table now with same | swept
  · rw [same]
  · -- A sweep is the same filter, and filtering twice is filtering once.
    simp only [swept, sweep, alive, List.filter_filter, Bool.and_self]

/-- A sweep that is due leaves live flows only. -/
theorem live_of_swept {flow : Flow} (due : table.lastSweep + table.sweepInterval < now)
    (stays : flow ∈ (table.sweepIfDue now).flows) : flow.isLive table.timeout now = true := by
  rw [sweepIfDue, if_pos due] at stays
  exact (List.mem_filter.mp stays).2

/-- A look-up that finds nothing leaves the live flows as they are. -/
theorem alive_of_missed (missed : (table.lookup now selected).1 = none) :
    alive table.timeout now (table.lookup now selected).2.flows =
      alive table.timeout now table.flows := by
  have swept := alive_sweepIfDue table now
  rcases lookup_cases table now selected with
    ⟨-, gives⟩ | ⟨front, flow, back, split, -, -, ⟨-, gives⟩ | ⟨expired, gives⟩⟩
  · rw [gives]
    exact swept
  · rw [gives] at missed
    cases missed
  · -- What is taken out is not live.
    rw [gives, ← swept, split]
    simp [alive, expired]

/-- A look-up that finds nothing adds and refreshes no flow. -/
theorem sublist_of_missed (missed : (table.lookup now selected).1 = none) :
    (table.lookup now selected).2.flows.Sublist table.flows := by
  have swept := sweepIfDue_sublist table now
  -- A look-up in vain takes out an expired flow at most.
  rcases lookup_cases table now selected with
    ⟨-, gives⟩ | ⟨front, flow, back, split, -, -, ⟨-, gives⟩ | ⟨-, gives⟩⟩
  · rw [gives]
    exact swept
  · rw [gives] at missed
    cases missed
  · rw [gives]
    rw [split] at swept
    exact ((List.Sublist.refl front).append (List.sublist_cons_self flow back)).trans swept

/--
A look-up finds a live selected flow whenever there is one.

What it finds is such a flow, seen now, and no other live flow changes.
-/
structure Answers (now : Nat) (before : FlowTable) (selected : Flow → Bool)
    (result : Option Flow × FlowTable) : Prop where
  isSome_iff : result.1.isSome = true ↔
    ∃ flow ∈ before.flows, selected flow = true ∧ now < flow.lastSeen + before.timeout
  found : ∀ flow, result.1 = some flow → ∃ front old back,
    alive before.timeout now before.flows = front ++ old :: back ∧ selected old = true ∧
      flow = { old with lastSeen := now } ∧
      ∃ left right, result.2.flows = left ++ flow :: right ∧
        alive before.timeout now left = front ∧ alive before.timeout now right = back
  missed : result.1 = none →
    alive before.timeout now result.2.flows = alive before.timeout now before.flows

/-- No sweep is due, and the first selected flow has expired although another one is live. -/
structure Hides (now : Nat) (table : FlowTable) (selected : Flow → Bool) : Prop where
  unswept : now ≤ table.lastSweep + table.sweepInterval
  first : ∃ flow, table.flows.find? selected = some flow ∧ flow.lastSeen + table.timeout ≤ now
  live : ∃ flow ∈ table.flows, selected flow = true ∧ now < flow.lastSeen + table.timeout

/-- What a look-up finds was live, and no other live flow changes. -/
theorem found_in_place {flow : Flow} (found : (table.lookup now selected).1 = some flow) :
    ∃ front old back, alive table.timeout now table.flows = front ++ old :: back ∧
      selected old = true ∧ flow = { old with lastSeen := now } ∧
      ∃ left right, (table.lookup now selected).2.flows = left ++ flow :: right ∧
        alive table.timeout now left = front ∧ alive table.timeout now right = back := by
  have swept := alive_sweepIfDue table now
  rcases lookup_cases table now selected with
    ⟨-, gives⟩ | ⟨left, old, right, split, chosen, -, ⟨live, gives⟩ | ⟨-, gives⟩⟩
  · rw [gives] at found
    cases found
  · rw [gives] at found
    cases found
    refine ⟨_, old, _, ?_, chosen, rfl, left, right, by rw [gives], rfl, rfl⟩
    -- The live flows on both sides of the one that is found are those of both sides.
    rw [← swept, split]
    simp [alive, live]
  · rw [gives] at found
    cases found

/-- A live selected flow is found unless an expired one hides it. -/
theorem found_of_not_hides (unhidden : ¬ Hides now table selected)
    (live : ∃ flow ∈ table.flows, selected flow = true ∧ now < flow.lastSeen + table.timeout) :
    (table.lookup now selected).1.isSome = true := by
  obtain ⟨flow, tracked, chosen, young⟩ := live
  have stays := mem_sweepIfDue_of_live tracked (by simpa [Flow.isLive] using young)
  rcases lookup_cases table now selected with
    ⟨passed, -⟩ | ⟨front, first, back, split, picked, skipped, ⟨-, gives⟩ | ⟨expired, -⟩⟩
  · rw [passed flow stays] at chosen
    cases chosen
  · rw [gives]
    rfl
  · -- The first selected flow has expired, so it was not swept and hides the live one.
    have member : first ∈ (table.sweepIfDue now).flows := by simp [split]
    by_cases due : table.lastSweep + table.sweepInterval < now
    · rw [live_of_swept due member] at expired
      cases expired
    · rw [sweepIfDue, if_neg due] at split
      refine absurd ⟨by omega, ⟨first, ?_, by simpa [Flow.isLive] using expired⟩,
        flow, tracked, chosen, young⟩ unhidden
      rw [split, find?_append back skipped picked]

/-- A look-up answers as it should exactly if no expired flow hides a live one. -/
theorem lookup_answers_iff (table : FlowTable) (now : Nat) (selected : Flow → Bool) :
    Answers now table selected (table.lookup now selected) ↔ ¬ Hides now table selected := by
  constructor
  · -- The look-up comes upon the first selected flow and gives up.
    rintro answers ⟨unswept, ⟨first, head, old⟩, live⟩
    obtain ⟨flow, found⟩ := Option.isSome_iff_exists.mp (answers.isSome_iff.mpr live)
    obtain ⟨kept, same, young, -⟩ := lookup_eq_some_iff.mp found
    rw [sweepIfDue, if_neg (by omega), head, Option.some.injEq] at same
    subst same
    simp only [Flow.isLive, decide_eq_true_eq] at young
    omega
  · intro unhidden
    refine ⟨⟨fun found => ?_, found_of_not_hides unhidden⟩, fun _ => found_in_place, alive_of_missed⟩
    obtain ⟨flow, same⟩ := Option.isSome_iff_exists.mp found
    obtain ⟨old, tracked, chosen, young, -⟩ := lookup_found same
    exact ⟨old, tracked, chosen, young⟩

end FlowTable

namespace Custody

open FlowTable (Operation Answers Hides)

/--
A look-up finds a live flow whenever there is one, unless an expired one hides it.

This holds after any operations, for a look-up by the internal socket and for one by the external socket.
-/
theorem reached_answers_iff (timeout sweepInterval start : Nat) (order : ReleaseOrder)
    (operations : List Operation) (internal external remote : Endpoint) :
    let custody := (opened timeout sweepInterval start order).run operations
    (Answers custody.now custody.table
        (fun flow => flow.remote == remote && flow.internal == internal)
        (custody.table.lookupOutbound custody.now internal remote) ↔
      ¬ Hides custody.now custody.table
        fun flow => flow.remote == remote && flow.internal == internal) ∧
    (Answers custody.now custody.table
        (fun flow => flow.remote == remote && flow.external == external)
        (custody.table.lookupInbound custody.now remote external) ↔
      ¬ Hides custody.now custody.table
        fun flow => flow.remote == remote && flow.external == external) :=
  ⟨FlowTable.lookup_answers_iff _ _ _, FlowTable.lookup_answers_iff _ _ _⟩

/--
A host has two flows to one server, of which the older one has expired.

The other one is live, and the look-up finds nothing.
-/
theorem live_flow_hidden :
    let host : Endpoint := ⟨.ofNat 0x0A00000A, 80⟩
    let client : Endpoint := ⟨.ofNat 0xC6336407, 40000⟩
    let older := Flow.fresh host ⟨.ofNat 0x01020304, 8080⟩ client false 0
    let newer := Flow.fresh host ⟨.ofNat 0x01020304, 8081⟩ client false 6
    let custody := (opened 10 1000 0).run [.add older, .advance 6, .add newer, .advance 5]
    newer ∈ custody.table.flows ∧ custody.now < newer.lastSeen + custody.table.timeout ∧
      (custody.table.lookupOutbound custody.now host client).1 = none ∧
      ¬ Answers custody.now custody.table
        (fun flow => flow.remote == client && flow.internal == host)
        (custody.table.lookupOutbound custody.now host client) := by
  intro host client older newer custody
  have tracked : newer ∈ custody.table.flows := by decide +kernel
  have young : custody.now < newer.lastSeen + custody.table.timeout := by decide +kernel
  have missed : (custody.table.lookupOutbound custody.now host client).1 = none := by
    decide +kernel
  refine ⟨tracked, young, missed, fun answers => ?_⟩
  -- The newer flow ought to be found.
  have found := answers.isSome_iff.mpr ⟨newer, tracked, by decide +kernel, young⟩
  rw [missed] at found
  cases found

end Custody

end NetworkLayer
