import NetworkLayer.Translation.FlowTable

/-!
Look-ups in a flow table: what they find, refresh and release. A look-up forgets no live flow and
changes nothing about a flow but the time at which it was seen.
-/

namespace NetworkLayer

/-- The flow without the time that a look-up changes. -/
def Flow.unseen (flow : Flow) : Flow :=
  { flow with lastSeen := 0 }

/-- Flows that differ in that time only tie the same sockets. -/
theorem Flow.sockets_of_unseen {left right : Flow} (same : left.unseen = right.unseen) :
    left.internal = right.internal ∧ left.external = right.external ∧
      left.remote = right.remote := by
  simp only [unseen, Flow.mk.injEq] at same
  exact ⟨same.1, same.2.1, same.2.2.1⟩

namespace FlowTable

variable {table : FlowTable} {now : Nat} {selected : Flow → Bool}

section Sweep

/-- A sweep that is due keeps the live flows, and any other sweep keeps all. -/
theorem sweepIfDue_cases (table : FlowTable) (now : Nat) :
    table.sweepIfDue now = table ∨ table.sweepIfDue now = table.sweep now := by
  rw [sweepIfDue]
  split
  · exact Or.inr rfl
  · exact Or.inl rfl

/-- A sweep leaves the timeout alone. -/
@[simp] theorem sweepIfDue_timeout (table : FlowTable) (now : Nat) :
    (table.sweepIfDue now).timeout = table.timeout := by
  -- A sweep changes which flows there are, and nothing else.
  rcases sweepIfDue_cases table now with same | swept
  · rw [same]
  · rw [swept, sweep]

/-- A sweep keeps a part of the flows, in their order. -/
theorem sweepIfDue_sublist (table : FlowTable) (now : Nat) :
    (table.sweepIfDue now).flows.Sublist table.flows := by
  -- A sweep is a filter.
  rcases sweepIfDue_cases table now with same | swept
  · simp only [same, List.Sublist.refl]
  · rw [swept, sweep]
    exact List.filter_sublist

/-- A sweep keeps every live flow. -/
theorem mem_sweepIfDue_of_live {flow : Flow} (tracked : flow ∈ table.flows)
    (live : flow.isLive table.timeout now) : flow ∈ (table.sweepIfDue now).flows := by
  -- What a sweep filters out has expired.
  rcases sweepIfDue_cases table now with same | swept
  · rwa [same]
  · rw [swept, sweep]
    exact List.mem_filter.mpr ⟨tracked, live⟩

/-- A sweep releases the flows that it does not keep. -/
theorem sweepIfDue_kept_or_released {flow : Flow} (tracked : flow ∈ table.flows) (now : Nat) :
    flow ∈ (table.sweepIfDue now).flows ∨ flow ∈ (table.sweepIfDue now).released := by
  rcases sweepIfDue_cases table now with same | swept
  · rw [same]
    exact Or.inl tracked
  · rw [swept, sweep]
    -- A sweep splits the flows by whether they are live.
    cases live : flow.isLive table.timeout now with
    | true => exact Or.inl (List.mem_filter.mpr ⟨tracked, live⟩)
    | false =>
      have expired : flow ∈ table.flows.filter fun flow => !flow.isLive table.timeout now :=
        List.mem_filter.mpr ⟨tracked, by simp [live]⟩
      exact Or.inr (List.mem_append_right _ ((table.order.perm _ _).mem_iff.mpr expired))

/-- What is released after a sweep was released before or tracked. -/
theorem sweepIfDue_released_origin {flow : Flow}
    (released : flow ∈ (table.sweepIfDue now).released) :
    flow ∈ table.released ∨ flow ∈ table.flows := by
  -- What a sweep filters out goes behind what was released before.
  rcases sweepIfDue_cases table now with same | swept
  · rw [same] at released
    exact Or.inl released
  · rw [swept, sweep] at released
    rcases List.mem_append.mp released with before | expired
    · exact Or.inl before
    · exact Or.inr (List.mem_filter.mp ((table.order.perm _ _).mem_iff.mp expired)).1

/-- After a sweep that was due or not, none is due at the same time. -/
theorem not_due_after_sweepIfDue (table : FlowTable) (now : Nat) :
    ¬ (table.sweepIfDue now).lastSweep + (table.sweepIfDue now).sweepInterval < now := by
  rw [sweepIfDue]
  split
  · -- The sweep was at this very time.
    simp only [sweep]
    omega
  · assumption

end Sweep

/-- Refreshing reaches the first selected flow and no other. -/
theorem touchFirst_append {front : List Flow} {flow : Flow} (back : List Flow)
    (skipped : ∀ other ∈ front, selected other = false) (chosen : selected flow) :
    touchFirst selected now (front ++ flow :: back) =
      front ++ { flow with lastSeen := now } :: back := by
  -- The walk passes every flow in front and stops at the chosen one.
  induction front with
  | nil => simp [touchFirst, chosen]
  | cons first front ih =>
    have passed : selected first = false := skipped first (by simp)
    have rest : ∀ other ∈ front, selected other = false :=
      fun other member => skipped other (by simp [member])
    simp [touchFirst, passed, ih rest]

/-- Erasing reaches the first selected flow and no other. -/
theorem eraseP_append {front : List Flow} {flow : Flow} (back : List Flow)
    (skipped : ∀ other ∈ front, selected other = false) (chosen : selected flow) :
    (front ++ flow :: back).eraseP selected = front ++ back := by
  -- Nothing in front is selected, so the first selected flow is the one in the middle.
  rw [List.eraseP_append_right _ (fun other member => by simp [skipped other member]),
    List.eraseP_cons_of_pos chosen]

/-- The first selected flow is found. -/
theorem find?_append {front : List Flow} {flow : Flow} (back : List Flow)
    (skipped : ∀ other ∈ front, selected other = false) (chosen : selected flow) :
    (front ++ flow :: back).find? selected = some flow := by
  rw [List.find?_append, List.find?_eq_none.mpr fun other member => by simp [skipped other member],
    List.find?_cons_of_pos chosen]
  rfl

/-- Either no flow is selected, or there is a first one that is. -/
theorem first_selected (selected : Flow → Bool) (flows : List Flow) :
    (∀ flow ∈ flows, selected flow = false) ∨
    ∃ front flow back, flows = front ++ flow :: back ∧
      selected flow ∧ ∀ other ∈ front, selected other = false := by
  -- The library finds the first one and says what it passed.
  cases found : flows.find? selected with
  | none => exact Or.inl fun flow member => by simpa using List.find?_eq_none.mp found flow member
  | some flow =>
    obtain ⟨chosen, front, back, split, before⟩ := List.find?_eq_some_iff_append.mp found
    exact Or.inr ⟨front, flow, back, split, chosen, fun other member => by
      simpa using before other member⟩

/--
A look-up finds nothing, refreshes the first selected flow, or releases it.

The flows are those that a due sweep leaves, and only the first selected one decides.
-/
theorem lookup_cases (table : FlowTable) (now : Nat) (selected : Flow → Bool) :
    ((∀ flow ∈ (table.sweepIfDue now).flows, selected flow = false) ∧
      table.lookup now selected = (none, table.sweepIfDue now)) ∨
    ∃ front flow back, (table.sweepIfDue now).flows = front ++ flow :: back ∧
      selected flow ∧ (∀ other ∈ front, selected other = false) ∧
      ((flow.isLive table.timeout now ∧
          table.lookup now selected = (some { flow with lastSeen := now },
            { table.sweepIfDue now with
              flows := front ++ { flow with lastSeen := now } :: back })) ∨
        (flow.isLive table.timeout now = false ∧
          table.lookup now selected = (none, { table.sweepIfDue now with
            flows := front ++ back
            released := (table.sweepIfDue now).released ++ [flow] }))) := by
  rcases first_selected selected (table.sweepIfDue now).flows with
    passed | ⟨front, flow, back, split, chosen, skipped⟩
  · have missing : (table.sweepIfDue now).flows.find? selected = none :=
      List.find?_eq_none.mpr fun flow member => by simp [passed flow member]
    exact Or.inl ⟨passed, by simp [lookup, missing]⟩
  · have found : (table.sweepIfDue now).flows.find? selected = some flow := by
      rw [split, find?_append back skipped chosen]
    refine Or.inr ⟨front, flow, back, split, chosen, skipped, ?_⟩
    -- The first selected flow is refreshed or released, according to its age.
    cases live : flow.isLive table.timeout now with
    | true =>
      refine Or.inl ⟨rfl, ?_⟩
      simp only [lookup, found, sweepIfDue_timeout, live, if_true]
      rw [split, touchFirst_append back skipped chosen]
    | false =>
      refine Or.inr ⟨rfl, ?_⟩
      simp only [lookup, found, sweepIfDue_timeout, live, Bool.false_eq_true, if_false]
      rw [split, eraseP_append back skipped chosen]

/-- Removing finds no flow between the sockets, or takes the first one out. -/
theorem remove_cases (table : FlowTable) (internal external remote : Endpoint) :
    ((∀ flow ∈ table.flows, (flow.remote == remote &&
          (flow.internal == internal && flow.external == external)) = false) ∧
      table.remove internal external remote = (false, table)) ∨
    ∃ front flow back, table.flows = front ++ flow :: back ∧
      (flow.remote == remote && (flow.internal == internal && flow.external == external)) ∧
      (∀ other ∈ front, (other.remote == remote &&
        (other.internal == internal && other.external == external)) = false) ∧
      table.remove internal external remote = (true, { table with flows := front ++ back }) := by
  -- The first flow that is selected is the one that removal takes out.
  simp only [remove, Bool.and_assoc]
  rcases first_selected (fun flow => flow.remote == remote &&
      (flow.internal == internal && flow.external == external)) table.flows with
    passed | ⟨front, flow, back, split, chosen, skipped⟩
  · refine Or.inl ⟨passed, ?_⟩
    rw [List.eraseP_of_forall_not fun flow member => by simp [passed flow member],
      List.any_eq_false.mpr fun flow member => by simp [passed flow member]]
  · refine Or.inr ⟨front, flow, back, split, chosen, skipped, ?_⟩
    rw [split, eraseP_append back skipped chosen, List.any_append, List.any_cons, chosen,
      Bool.true_or, Bool.or_true]

/-- A live flow stays, and it is only ever seen later. -/
structure Keeps (before after : FlowTable) (now : Nat) : Prop where
  timeout : after.timeout = before.timeout
  live : ∀ flow ∈ before.flows, flow.isLive before.timeout now →
    ∃ kept ∈ after.flows, kept.unseen = flow.unseen ∧
      (kept.lastSeen = flow.lastSeen ∨ kept.lastSeen = now)

/-- A table keeps its own flows. -/
theorem Keeps.refl (table : FlowTable) (now : Nat) : Keeps table table now where
  timeout := rfl
  live flow tracked _ := ⟨flow, tracked, rfl, Or.inl rfl⟩

/-- Flows are kept when another one is added. -/
theorem Keeps.added {before after : FlowTable} (keeps : Keeps before after now) (flow : Flow) :
    Keeps before { after with flows := after.flows ++ [flow] } now where
  timeout := keeps.timeout
  live old tracked live := by
    -- A flow at the end takes the place of no other.
    obtain ⟨kept, member, same⟩ := keeps.live old tracked live
    exact ⟨kept, List.mem_append_left _ member, same⟩

/-- What a look-up makes of a table: flows are refreshed, or released once they have expired. -/
structure Aged (before after : FlowTable) (now : Nat) : Prop extends Keeps before after now where
  /-- Nothing is added, and nothing but the time of a flow changes. -/
  sublist : (after.flows.map Flow.unseen).Sublist (before.flows.map Flow.unseen)
  /-- No flow goes without being released. -/
  accounted : ∀ flow ∈ before.flows,
    (∃ kept ∈ after.flows, kept.unseen = flow.unseen) ∨ flow ∈ after.released
  origin : ∀ flow ∈ after.released, flow ∈ before.released ∨ flow ∈ before.flows
  /-- No sweep is due any more. -/
  swept : ¬ after.lastSweep + after.sweepInterval < now

/-- A sweep that is due ages a table. -/
theorem sweepIfDue_aged (table : FlowTable) (now : Nat) :
    Aged table (table.sweepIfDue now) now where
  timeout := sweepIfDue_timeout table now
  sublist := (sweepIfDue_sublist table now).map _
  live flow tracked live := ⟨flow, mem_sweepIfDue_of_live tracked live, rfl, Or.inl rfl⟩
  accounted flow tracked :=
    (sweepIfDue_kept_or_released tracked now).imp_left fun kept => ⟨flow, kept, rfl⟩
  origin _ released := sweepIfDue_released_origin released
  swept := not_due_after_sweepIfDue table now

section Found

variable {front back : List Flow} {flow : Flow}
  (split : (table.sweepIfDue now).flows = front ++ flow :: back)
include split

/-- A table ages when one of its flows is refreshed. -/
theorem refreshed_aged :
    Aged table { table.sweepIfDue now with
      flows := front ++ { flow with lastSeen := now } :: back } now := by
  have swept := sweepIfDue_aged table now
  -- But for the time it was seen, the flow is the one that stood there.
  have same : (front ++ { flow with lastSeen := now } :: back).map Flow.unseen =
      (table.sweepIfDue now).flows.map Flow.unseen := by
    rw [split, List.map_append, List.map_append]
    rfl
  -- A flow of the swept table is still there, perhaps seen at a later time.
  have refreshed : ∀ old ∈ (table.sweepIfDue now).flows,
      ∃ kept ∈ front ++ { flow with lastSeen := now } :: back, kept.unseen = old.unseen ∧
        (kept.lastSeen = old.lastSeen ∨ kept.lastSeen = now) := by
    intro old member
    rw [split] at member
    rcases List.mem_append.mp member with before | found
    · exact ⟨old, by simp [before], rfl, Or.inl rfl⟩
    rcases List.mem_cons.mp found with rfl | behind
    · exact ⟨{ old with lastSeen := now }, by simp, rfl, Or.inr rfl⟩
    · exact ⟨old, by simp [behind], rfl, Or.inl rfl⟩
  refine ⟨⟨swept.timeout, ?_⟩, by rw [same]; exact swept.sublist, ?_, swept.origin, swept.swept⟩
  · intro old tracked alive
    exact refreshed old (mem_sweepIfDue_of_live tracked alive)
  · intro old tracked
    rcases sweepIfDue_kept_or_released tracked now with kept | released
    · obtain ⟨still, member, unchanged, -⟩ := refreshed old kept
      exact Or.inl ⟨still, member, unchanged⟩
    · exact Or.inr released

/-- A table ages when one of its expired flows is released. -/
theorem released_aged (expired : flow.isLive table.timeout now = false) :
    Aged table { table.sweepIfDue now with
      flows := front ++ back
      released := (table.sweepIfDue now).released ++ [flow] } now := by
  have swept := sweepIfDue_aged table now
  -- Every flow but the expired one is where it was.
  have others : ∀ old ∈ (table.sweepIfDue now).flows, old ∈ front ++ back ∨ old = flow := by
    intro old member
    rw [split] at member
    rcases List.mem_append.mp member with before | found
    · exact Or.inl (List.mem_append_left _ before)
    rcases List.mem_cons.mp found with same | behind
    · exact Or.inr same
    · exact Or.inl (List.mem_append_right _ behind)
  refine ⟨⟨swept.timeout, ?_⟩, ?_, ?_, ?_, swept.swept⟩
  · intro old tracked alive
    rcases others old (mem_sweepIfDue_of_live tracked alive) with kept | rfl
    · exact ⟨old, kept, rfl, Or.inl rfl⟩
    · rw [expired] at alive
      cases alive
  · refine List.Sublist.trans (List.Sublist.map _ ?_) swept.sublist
    rw [split]
    exact (List.Sublist.refl front).append (List.sublist_cons_self flow back)
  · intro old tracked
    rcases sweepIfDue_kept_or_released tracked now with kept | released
    · rcases others old kept with still | rfl
      · exact Or.inl ⟨old, still, rfl⟩
      · exact Or.inr (List.mem_append_right _ (List.mem_singleton.mpr rfl))
    · exact Or.inr (List.mem_append_left _ released)
  · intro old released
    rcases List.mem_append.mp released with before | last
    · exact swept.origin old before
    · rw [List.mem_singleton.mp last]
      refine Or.inr ((sweepIfDue_sublist table now).subset ?_)
      rw [split]
      exact List.mem_append_right _ (List.mem_cons_self ..)

end Found

/-- A look-up ages the table. -/
theorem lookup_aged (table : FlowTable) (now : Nat) (selected : Flow → Bool) :
    Aged table (table.lookup now selected).2 now := by
  rcases lookup_cases table now selected with
    ⟨-, result⟩ | ⟨front, flow, back, split, -, -, ⟨-, result⟩ | ⟨expired, result⟩⟩
  · -- Nothing is found, so only the sweep counts.
    rw [result]
    exact sweepIfDue_aged table now
  · rw [result]
    exact refreshed_aged split
  · rw [result]
    exact released_aged split expired

/-- A look-up finds the first selected flow that a due sweep leaves, if it is live. -/
theorem lookup_eq_some_iff {flow : Flow} :
    (table.lookup now selected).1 = some flow ↔
      ∃ old, (table.sweepIfDue now).flows.find? selected = some old ∧
        old.isLive table.timeout now ∧ flow = { old with lastSeen := now } := by
  -- Only the first selected flow counts, and only its age decides.
  cases found : (table.sweepIfDue now).flows.find? selected with
  | none => simp [lookup, found]
  | some old =>
    cases live : old.isLive table.timeout now with
    | true =>
      simp only [lookup, found, sweepIfDue_timeout, live, if_true, Option.some.injEq]
      constructor
      · rintro rfl
        exact ⟨old, rfl, live, rfl⟩
      · rintro ⟨same, rfl, -, rfl⟩
        rfl
    | false => simp [lookup, found, live]

/-- What a look-up finds stays in the table. -/
theorem lookup_found_mem {flow : Flow} (found : (table.lookup now selected).1 = some flow) :
    flow ∈ (table.lookup now selected).2.flows := by
  -- Something is found in the second case alone, where it is put in the place of the old flow.
  rcases lookup_cases table now selected with
    ⟨-, result⟩ | ⟨front, first, back, -, -, -, ⟨-, result⟩ | ⟨-, result⟩⟩
  · rw [result] at found
    cases found
  · rw [result] at found ⊢
    cases found
    simp
  · rw [result] at found
    cases found

section Aged

variable {before after : FlowTable} (aged : Aged before after now)
include aged

/-- The flows of an aged table were tracked before. -/
theorem Aged.tracked_before {flow : Flow} (tracked : flow ∈ after.flows) :
    ∃ old ∈ before.flows, old.unseen = flow.unseen :=
  List.mem_map.mp (aged.sublist.subset (List.mem_map_of_mem tracked))

/-- What holds between any two flows holds as they age, unless it is about their age. -/
theorem Aged.pairwise (relation : Flow → Flow → Prop)
    (related : before.flows.Pairwise fun left right => relation left.unseen right.unseen) :
    after.flows.Pairwise fun left right => relation left.unseen right.unseen :=
  List.pairwise_map.mp ((List.pairwise_map.mpr related).sublist aged.sublist)

end Aged

/-- No two flows tie one remote socket to one external socket. -/
def Distinct (table : FlowTable) : Prop :=
  table.flows.Pairwise fun left right => left.remote = right.remote → left.external ≠ right.external

/-- Flows stay distinct as they age. -/
theorem Aged.distinct {before after : FlowTable} (aged : Aged before after now)
    (distinct : before.Distinct) : after.Distinct :=
  aged.pairwise (fun left right => left.remote = right.remote → left.external ≠ right.external)
    distinct

/-- A live flow is found by its remote and external sockets. -/
theorem lookupInbound_of_live (distinct : table.Distinct) {flow : Flow}
    (tracked : flow ∈ table.flows) (live : flow.isLive table.timeout now) :
    (table.lookupInbound now flow.remote flow.external).1 =
      some { flow with lastSeen := now } := by
  have swept : flow ∈ (table.sweepIfDue now).flows := mem_sweepIfDue_of_live tracked live
  have apart := distinct.sublist (sweepIfDue_sublist table now)
  refine lookup_eq_some_iff.mpr ⟨flow, ?_, live, rfl⟩
  obtain ⟨front, back, split⟩ := List.append_of_mem swept
  rw [split] at apart ⊢
  refine List.find?_eq_some_iff_append.mpr ⟨by simp, front, back, rfl, fun other member => ?_⟩
  -- An earlier flow with both sockets would not be distinct from this one.
  have different := (List.pairwise_append.mp apart).2.2 other member flow (List.mem_cons_self ..)
  by_cases same : other.remote = flow.remote
  · simp [different same]
  · simp [same]

/-- After a look-up in vain nothing is selected, if no two flows were selected at once. -/
theorem lookup_missed
    (alone : table.flows.Pairwise fun left right => selected left → ¬ selected right)
    (missed : (table.lookup now selected).1 = none) :
    ∀ flow ∈ (table.lookup now selected).2.flows, ¬ selected flow := by
  have apart := alone.sublist (sweepIfDue_sublist table now)
  intro flow tracked
  rcases lookup_cases table now selected with
    ⟨unselected, result⟩ | ⟨front, first, back, split, chosen, skipped, ⟨-, result⟩ | ⟨-, result⟩⟩
  · rw [result] at tracked
    simp [unselected flow tracked]
  · rw [result] at missed
    cases missed
  · -- The expired flow is gone, and it was the only one.
    rw [result] at tracked
    rw [split] at apart
    rcases List.mem_append.mp tracked with before | behind
    · simp [skipped flow before]
    · exact (List.pairwise_cons.mp (List.pairwise_append.mp apart).2.1).1 flow behind chosen

/-- After a look-up in vain no flow ties the remote socket to the external one. -/
theorem lookupInbound_missed (distinct : table.Distinct) {remote external : Endpoint}
    (missed : (table.lookupInbound now remote external).1 = none) :
    ∀ flow ∈ (table.lookupInbound now remote external).2.flows,
      flow.remote = remote → flow.external ≠ external := by
  intro flow tracked sameRemote sameExternal
  refine lookup_missed ?_ missed flow tracked (by simp [sameRemote, sameExternal])
  -- Two flows that are both selected would not be distinct.
  refine List.Pairwise.imp ?_ distinct
  intro left right different first second
  simp only [Bool.and_eq_true, beq_iff_eq] at first second
  exact different (first.1.trans second.1.symm) (first.2.trans second.2.symm)

end FlowTable

end NetworkLayer
