import NetworkLayer.Proofs.Translation.Buckets

/-!
Where the flows of a table are. Main statement: however a table is used, every flow that was added to it is
tracked under its own remote socket, released, taken or removed, as often as it was added, and only flows that
have been idle for the timeout are released.
-/

namespace NetworkLayer

/-- How many flows of a list are of one kind, whenever they were last seen. -/
def Flow.copies (kind : Flow) (flows : List Flow) : Nat :=
  flows.countP (·.unseen == kind.unseen)

namespace Flow

variable (kind : Flow)

@[simp] theorem copies_nil : kind.copies [] = 0 := rfl

@[simp] theorem copies_append (left right : List Flow) :
    kind.copies (left ++ right) = kind.copies left + kind.copies right :=
  List.countP_append

/-- One flow counts the same whenever it was seen. -/
@[simp] theorem copies_seen (flow : Flow) (now : Nat) (flows : List Flow) :
    kind.copies ({ flow with lastSeen := now } :: flows) = kind.copies (flow :: flows) := by
  simp only [copies, List.countP_cons, unseen]

/-- A flow in front counts for itself. -/
theorem copies_cons (flow : Flow) (flows : List Flow) :
    kind.copies (flow :: flows) = kind.copies [flow] + kind.copies flows :=
  kind.copies_append [flow] flows

/-- A list that is split by a condition has as many flows of a kind as its parts. -/
theorem copies_filter (kept : Flow → Bool) (flows : List Flow) :
    kind.copies flows = kind.copies (flows.filter kept) + kind.copies (flows.filter (!kept ·)) := by
  rw [← copies_append]
  exact ((List.filter_append_perm kept flows).countP_eq _).symm

/-- The order of the flows does not matter. -/
theorem copies_perm {left right : List Flow} (perm : left.Perm right) : kind.copies left = kind.copies right :=
  perm.countP_eq _

/-- All flows of a kind go to the same socket. -/
theorem copies_towards (flows : List Flow) :
    kind.copies (towards kind.remote flows) = kind.copies flows := by
  rw [copies, towards, List.countP_filter]
  refine List.countP_congr fun flow _ => ?_
  -- The kind says where a flow goes.
  rw [Bool.and_eq_true, beq_iff_eq, beq_iff_eq, and_iff_left_iff_imp]
  intro same
  exact (sockets_of_unseen same).2.2

end Flow

namespace FlowTable

/-- What is done to a flow table. -/
inductive Operation
  | add (flow : Flow)
  | lookupOutbound (internal remote : Endpoint)
  | lookupInbound (remote external : Endpoint)
  | remove (internal external remote : Endpoint)
  | sweep
  | takeReleased
  /-- Time passes. -/
  | advance (span : Nat)

/-- What a removal deletes: the first flow between the sockets, if there is one. -/
def deleted (table : FlowTable) (internal external remote : Endpoint) : List Flow :=
  if (table.remove internal external remote).1 then
    (table.flows.find? fun flow =>
      flow.remote == remote && (flow.internal == internal && flow.external == external)).toList
  else []

/--
A table changes by flows that come and flows that go.

All others stay or are released, and those that are released have been idle for the timeout.
-/
structure Moves (now : Nat) (before after : FlowTable) (out into : List Flow) : Prop where
  timeout : after.timeout = before.timeout
  balance : ∀ kind : Flow,
    kind.copies into + kind.copies before.flows + kind.copies before.released =
      kind.copies out + kind.copies after.flows + kind.copies after.released
  late : ∃ moved, after.released = before.released ++ moved ∧
    ∀ flow ∈ moved, flow ∈ before.flows ∧ flow.lastSeen + before.timeout ≤ now

section Moves

variable {table : FlowTable} {now : Nat} {front back : List Flow} {flow : Flow}

/-- Nothing moves in a table that stays. -/
theorem Moves.refl (table : FlowTable) (now : Nat) : Moves now table table [] [] where
  timeout := rfl
  balance _ := rfl
  late := ⟨[], by simp⟩

/-- A sweep releases what has expired. -/
theorem sweep_moves (table : FlowTable) (now : Nat) : Moves now table (table.sweep now) [] [] where
  timeout := rfl
  balance kind := by
    -- A filter parts the copies of each kind into those that stay and those that go.
    have split := kind.copies_filter (·.isLive table.timeout now) table.flows
    simp only [sweep, Flow.copies_append, kind.copies_perm (table.order.perm ..)]
    omega
  late := by
    refine ⟨_, rfl, fun flow expired => ?_⟩
    obtain ⟨tracked, idle⟩ := List.mem_filter.mp ((table.order.perm _ _).mem_iff.mp expired)
    refine ⟨tracked, ?_⟩
    simpa [Flow.isLive] using idle

/-- What moves in a table after a sweep that was due moves in the table before it. -/
theorem Moves.after_sweepIfDue {after : FlowTable} {out into : List Flow}
    (moves : Moves now (table.sweepIfDue now) after out into) : Moves now table after out into := by
  have sublist := sweepIfDue_sublist table now
  have swept : Moves now table (table.sweepIfDue now) [] [] := by
    -- Either no sweep was due, or this is one.
    rcases sweepIfDue_cases table now with same | swept
    · rw [same]
      exact .refl table now
    · rw [swept]
      exact sweep_moves table now
  generalize table.sweepIfDue now = middle at moves sublist swept
  obtain ⟨first, released, idle⟩ := swept.late
  obtain ⟨second, further, late⟩ := moves.late
  -- What goes and comes adds up over the two moves.
  refine ⟨moves.timeout.trans swept.timeout, fun kind => ?_, first ++ second, ?_, ?_⟩
  · have := swept.balance kind
    have := moves.balance kind
    simp only [Flow.copies_nil] at *
    omega
  · rw [further, released, List.append_assoc]
  · intro flow member
    rcases List.mem_append.mp member with early | later
    · exact idle flow early
    · -- A sweep adds no flow and leaves the timeout.
      obtain ⟨tracked, expired⟩ := late flow later
      rw [swept.timeout] at expired
      exact ⟨sublist.subset tracked, expired⟩

/-- A flow that is refreshed stays. -/
theorem touch_moves (split : table.flows = front ++ flow :: back) :
    Moves now table { table with flows := front ++ { flow with lastSeen := now } :: back } [] [] where
  timeout := rfl
  balance kind := by simp [split]
  late := ⟨[], by simp⟩

/-- A flow that is found expired is released. -/
theorem expire_moves (split : table.flows = front ++ flow :: back)
    (expired : flow.isLive table.timeout now = false) :
    Moves now table { table with flows := front ++ back, released := table.released ++ [flow] }
      [] [] where
  timeout := rfl
  balance kind := by
    -- One copy goes from the flows to the released ones, and all others stay.
    have single := kind.copies_cons flow back
    simp only [split, Flow.copies_append]
    omega
  late := by
    refine ⟨[flow], rfl, fun other member => ?_⟩
    rw [List.mem_singleton.mp member]
    refine ⟨by simp [split], ?_⟩
    simpa [Flow.isLive] using expired

/-- A look-up adds and removes no flow. -/
theorem lookup_moves (table : FlowTable) (now : Nat) (selected : Flow → Bool) :
    Moves now table (table.lookup now selected).2 [] [] := by
  -- Only the flow that it comes upon is refreshed or released, once a due sweep is done.
  refine .after_sweepIfDue ?_
  rcases lookup_cases table now selected with
    ⟨_, gives⟩ | ⟨front, flow, back, split, _, _, ⟨_, gives⟩ | ⟨expired, gives⟩⟩
  · rw [gives]
    exact .refl _ now
  · rw [gives]
    exact touch_moves split
  · rw [gives]
    exact expire_moves split (by rwa [sweepIfDue_timeout])

/-- Adding a flow adds that flow. -/
theorem add_moves (table : FlowTable) (now : Nat) (flow : Flow) :
    Moves now table (table.add now flow) [] [flow] := by
  -- After the sweep that may be due the flow is appended.
  refine .after_sweepIfDue ⟨rfl, fun kind => ?_, [], by simp [add]⟩
  simp only [add, Flow.copies_append, Flow.copies_nil]
  omega

/-- Taking a flow out removes that flow. -/
theorem takeOut_moves (split : table.flows = front ++ flow :: back) :
    Moves now table { table with flows := front ++ back } [flow] [] where
  timeout := rfl
  balance kind := by
    -- One copy of the kind goes if the flow is of it, and none otherwise.
    have single := kind.copies_cons flow back
    simp only [split, Flow.copies_append, Flow.copies_nil]
    omega
  late := ⟨[], by simp⟩

/-- A removal takes out what it tells. -/
theorem remove_moves (table : FlowTable) (now : Nat) (internal external remote : Endpoint) :
    Moves now table (table.remove internal external remote).2
      (table.deleted internal external remote) [] := by
  rcases remove_cases table internal external remote with
    ⟨_, gives⟩ | ⟨front, flow, back, split, chosen, skipped, gives⟩
  · rw [deleted, gives]
    exact .refl table now
  · -- The flow that is found is the one in the middle.
    have found : table.deleted internal external remote = [flow] := by
      rw [deleted, gives, if_pos rfl, split, find?_append back skipped chosen, Option.toList_some]
    rw [found, gives]
    exact takeOut_moves split

/-- A removal tells whether there is a flow between the sockets. -/
theorem remove_told_iff (table : FlowTable) (internal external remote : Endpoint) :
    (table.remove internal external remote).1 = true ↔
      ∃ flow ∈ table.flows,
        flow.internal = internal ∧ flow.external = external ∧ flow.remote = remote := by
  simp only [remove, List.any_eq_true, Bool.and_eq_true, beq_iff_eq]
  refine exists_congr fun flow => and_congr_right fun _ => ?_
  rw [and_assoc, and_comm, and_assoc]

/-- What a look-up finds is a selected flow that was live, seen now. -/
theorem lookup_found {selected : Flow → Bool} (found : (table.lookup now selected).1 = some flow) :
    ∃ old ∈ table.flows, selected old = true ∧ now < old.lastSeen + table.timeout ∧
      flow = { old with lastSeen := now } := by
  obtain ⟨old, first, live, same⟩ := lookup_eq_some_iff.mp found
  -- A sweep adds nothing to what can be found.
  have tracked := (sweepIfDue_sublist table now).subset (List.mem_of_find?_eq_some first)
  exact ⟨old, tracked, List.find?_some first, by simpa [Flow.isLive] using live, same⟩

/-- The first selected flow is found if it is live, also after a sweep. -/
theorem lookup_first {selected : Flow → Bool} (first : table.flows.find? selected = some flow)
    (live : now < flow.lastSeen + table.timeout) :
    (table.lookup now selected).1 = some { flow with lastSeen := now } := by
  have stays : flow.isLive table.timeout now = true := by simpa [Flow.isLive] using live
  refine lookup_eq_some_iff.mpr ⟨flow, ?_, stays, rfl⟩
  rcases sweepIfDue_cases table now with same | swept
  · rw [same, first]
  · -- A sweep keeps the flow and adds none in front of it.
    obtain ⟨chosen, front, back, split, before⟩ := List.find?_eq_some_iff_append.mp first
    have skipped : ∀ other ∈ front.filter (·.isLive table.timeout now), selected other = false :=
      fun other member => by simpa using before other (List.mem_filter.mp member).1
    simp only [swept, sweep, split, List.filter_append, List.filter_cons, stays, if_true]
    exact find?_append _ skipped chosen

end Moves

end FlowTable

open FlowTable (Operation)

/-- A table in a list and in buckets, and the flows that went through it. -/
structure Custody where
  now : Nat
  table : FlowTable
  buckets : FlowBuckets
  /-- Every flow that was ever added. -/
  added : List Flow
  /-- The released flows that were taken. -/
  taken : List Flow
  /-- The flows that were deleted by a removal that told so. -/
  removed : List Flow

namespace Custody

/-- The start, with a table without flows. -/
def opened (timeout sweepInterval now : Nat) (order : ReleaseOrder := .asAdded) : Custody :=
  ⟨now, .empty timeout sweepInterval now order, .empty timeout sweepInterval now, [], [], []⟩

/-- One operation on both tables. -/
def step (custody : Custody) : Operation → Custody
  | .add flow =>
    { custody with
      table := custody.table.add custody.now flow
      buckets := custody.buckets.add custody.now flow
      added := custody.added ++ [flow] }
  | .lookupOutbound internal remote =>
    { custody with
      table := (custody.table.lookupOutbound custody.now internal remote).2
      buckets := (custody.buckets.lookupOutbound custody.now internal remote).2 }
  | .lookupInbound remote external =>
    { custody with
      table := (custody.table.lookupInbound custody.now remote external).2
      buckets := (custody.buckets.lookupInbound custody.now remote external).2 }
  | .remove internal external remote =>
    { custody with
      table := (custody.table.remove internal external remote).2
      buckets := (custody.buckets.remove internal external remote).2
      removed := custody.removed ++ custody.table.deleted internal external remote }
  | .sweep =>
    { custody with
      table := custody.table.sweep custody.now
      buckets := custody.buckets.sweep custody.now }
  | .takeReleased =>
    { custody with
      table := custody.table.takeReleased.2
      buckets := custody.buckets.takeReleased.2
      taken := custody.taken ++ custody.table.takeReleased.1 }
  | .advance span => { custody with now := custody.now + span }

/-- What the operations make of a table, one after the other. -/
def run (custody : Custody) (operations : List Operation) : Custody :=
  operations.foldl step custody

/-- Where the flows are that were ever added. -/
structure Accounted (timeout : Nat) (custody : Custody) : Prop where
  timeout : custody.table.timeout = timeout
  shows : FlowBuckets.Shows custody.buckets custody.table
  /-- Each is in one place, and the one in the table is the bucket of its remote socket. -/
  places : ∀ kind : Flow, kind.copies custody.added =
    kind.copies (custody.buckets.bucket kind.remote) + kind.copies custody.table.released +
      kind.copies custody.taken + kind.copies custody.removed
  /-- No bucket has a flow of another one. -/
  home : ∀ remote, ∀ flow ∈ custody.buckets.bucket remote, flow.remote = remote
  size : custody.buckets.size = custody.table.size
  isEmpty : custody.buckets.isEmpty = custody.table.isEmpty
  isEmpty_iff : custody.buckets.isEmpty = true ↔ custody.buckets.size = 0

/-- What a look-up finds: a chosen flow that is live, which is seen now, and the first one if that is live. -/
structure Found (now : Nat) (table : FlowTable) (chosen : Flow → Bool) (found : Option Flow) :
    Prop where
  sound : ∀ flow, found = some flow → ∃ old ∈ table.flows, chosen old = true ∧
    now < old.lastSeen + table.timeout ∧ flow = { old with lastSeen := now }
  first : ∀ flow, table.flows.find? chosen = some flow → now < flow.lastSeen + table.timeout →
    found = some { flow with lastSeen := now }

/-- What the operations give, and the same from both tables. -/
def Gives (custody : Custody) : Operation → Prop
  | .add flow => flow ∈ (custody.step (.add flow)).buckets.bucket flow.remote
  | .lookupOutbound internal remote =>
    (custody.buckets.lookupOutbound custody.now internal remote).1 =
        (custody.table.lookupOutbound custody.now internal remote).1 ∧
      Found custody.now custody.table
        (fun flow => flow.remote == remote && flow.internal == internal)
        (custody.table.lookupOutbound custody.now internal remote).1
  | .lookupInbound remote external =>
    (custody.buckets.lookupInbound custody.now remote external).1 =
        (custody.table.lookupInbound custody.now remote external).1 ∧
      Found custody.now custody.table
        (fun flow => flow.remote == remote && flow.external == external)
        (custody.table.lookupInbound custody.now remote external).1
  | .remove internal external remote =>
    (custody.buckets.remove internal external remote).1 =
        (custody.table.remove internal external remote).1 ∧
      ((custody.table.remove internal external remote).1 = true ↔
        ∃ flow ∈ custody.table.flows, flow.internal = internal ∧ flow.external = external ∧
          flow.remote = remote)
  | .sweep =>
    (custody.step .sweep).table.flows =
        custody.table.flows.filter (fun flow => custody.now < flow.lastSeen + custody.table.timeout) ∧
      ∀ remote, (custody.step .sweep).buckets.bucket remote =
        (custody.buckets.bucket remote).filter fun flow =>
          custody.now < flow.lastSeen + custody.table.timeout
  | .takeReleased =>
    custody.buckets.takeReleased.1.Perm custody.table.takeReleased.1 ∧
      (custody.step .takeReleased).table.released = []
  | .advance _ => True

/-- What an operation does with the flows of a table, and what it gives. -/
structure Lawful (custody : Custody) (operation : Operation) : Prop where
  /-- Released are flows of the table that have been idle for the timeout. -/
  late : ∃ moved,
    (custody.step operation).taken ++ (custody.step operation).table.released =
        custody.taken ++ custody.table.released ++ moved ∧
      ∀ flow ∈ moved, flow ∈ custody.table.flows ∧
        flow.lastSeen + custody.table.timeout ≤ custody.now
  gives : custody.Gives operation

variable {custody : Custody} {timeout : Nat}

/-- The list has the flows of a kind that are in its bucket. -/
theorem copies_bucket (shows : FlowBuckets.Shows custody.buckets custody.table) (kind : Flow) :
    kind.copies (custody.buckets.bucket kind.remote) = kind.copies custody.table.flows := by
  rw [shows.bucket, kind.copies_towards]

/-- Flows are accounted for if both tables have the same and the list loses none. -/
theorem Accounted.of_shows (same : custody.table.timeout = timeout)
    (shows : FlowBuckets.Shows custody.buckets custody.table)
    (places : ∀ kind : Flow, kind.copies custody.added =
      kind.copies custody.table.flows + kind.copies custody.table.released +
        kind.copies custody.taken + kind.copies custody.removed) :
    Accounted timeout custody where
  timeout := same
  shows := shows
  places kind := by rw [copies_bucket shows, places]
  home remote flow member := by
    -- The bucket of a socket has only flows towards it.
    rw [shows.bucket] at member
    simpa using (List.mem_filter.mp member).2
  size := shows.size
  isEmpty := by
    rw [Bool.eq_iff_iff, shows.isEmpty_iff, shows.size, FlowTable.size, FlowTable.isEmpty,
      List.isEmpty_iff, List.length_eq_zero_iff]
  isEmpty_iff := shows.isEmpty_iff

section Step

variable (accounted : Accounted timeout custody)
include accounted

/-- The flows that were added are also accounted for with those of the list. -/
theorem Accounted.listed (kind : Flow) : kind.copies custody.added =
    kind.copies custody.table.flows + kind.copies custody.table.released +
      kind.copies custody.taken + kind.copies custody.removed := by
  rw [← copies_bucket accounted.shows, accounted.places]

/-- Flows stay accounted for when the table changes and the flows that come and go are noted. -/
theorem Accounted.moved {after : FlowTable} {buckets : FlowBuckets} {out into : List Flow}
    (moves : FlowTable.Moves custody.now custody.table after out into)
    (shows : FlowBuckets.Shows buckets after) :
    Accounted timeout { custody with
      table := after
      buckets
      added := custody.added ++ into
      removed := custody.removed ++ out } := by
  refine .of_shows (moves.timeout.trans accounted.timeout) shows fun kind => ?_
  have before := accounted.listed kind
  have balance := moves.balance kind
  simp only [Flow.copies_append]
  omega

/-- Every operation keeps account of the flows. -/
theorem Accounted.step (operation : Operation) : Accounted timeout (custody.step operation) := by
  -- The list tells what comes and goes, and the buckets follow the list.
  have shows := accounted.shows
  cases operation with
  | add flow =>
    have moved := accounted.moved (FlowTable.add_moves _ custody.now flow)
      (shows.add custody.now flow)
    -- An added flow comes in, and nothing goes out.
    rwa [List.append_nil] at moved
  | lookupOutbound internal remote =>
    have moved := accounted.moved (FlowTable.lookup_moves _ custody.now _)
      (shows.lookupOutbound custody.now internal remote).2
    rwa [List.append_nil, List.append_nil] at moved
  | lookupInbound remote external =>
    have moved := accounted.moved (FlowTable.lookup_moves _ custody.now _)
      (shows.lookupInbound custody.now remote external).2
    rwa [List.append_nil, List.append_nil] at moved
  -- A removed flow goes out by its own way, and is not released.
  | remove internal external remote =>
    have moved := accounted.moved (FlowTable.remove_moves _ custody.now internal external remote)
      (shows.remove internal external remote).2
    rwa [List.append_nil] at moved
  | sweep =>
    have moved := accounted.moved (FlowTable.sweep_moves _ custody.now) (shows.sweep custody.now)
    rwa [List.append_nil, List.append_nil] at moved
  | takeReleased =>
    -- What was released is taken, and the rest of the table stays.
    refine .of_shows accounted.timeout shows.takeReleased.2 fun kind => ?_
    have before := accounted.listed kind
    simp only [Custody.step, FlowTable.takeReleased, Flow.copies_append, Flow.copies_nil]
    omega
  | advance span =>
    exact .of_shows accounted.timeout shows accounted.listed

/-- Every operation gives what it should. -/
theorem Accounted.gives (operation : Operation) : custody.Gives operation := by
  have shows := accounted.shows
  cases operation with
  | add flow =>
    -- The flow that was added is in its bucket, at the end.
    show flow ∈ (custody.buckets.add custody.now flow).bucket flow.remote
    rw [(shows.add custody.now flow).bucket]
    simp [FlowTable.add, Flow.towards]
  | lookupOutbound internal remote =>
    exact ⟨(shows.lookupOutbound custody.now internal remote).1,
      fun _ => FlowTable.lookup_found, fun _ => FlowTable.lookup_first⟩
  | lookupInbound remote external =>
    exact ⟨(shows.lookupInbound custody.now remote external).1,
      fun _ => FlowTable.lookup_found, fun _ => FlowTable.lookup_first⟩
  | remove internal external remote =>
    exact ⟨(shows.remove internal external remote).1,
      FlowTable.remove_told_iff custody.table internal external remote⟩
  | sweep =>
    -- The bucket after a sweep has the live ones of those that it had before.
    refine ⟨rfl, fun remote => ?_⟩
    show (custody.buckets.sweep custody.now).bucket remote = _
    rw [(shows.sweep custody.now).bucket, shows.bucket]
    simp only [FlowTable.sweep, Flow.towards, Flow.isLive, List.filter_filter, Bool.and_comm]
  | takeReleased => exact ⟨shows.takeReleased.1, rfl⟩
  | advance span => exact trivial

end Step

/-- What a change of the table releases is added to what was released before. -/
theorem late_of_moves {after : FlowTable} {out into : List Flow}
    (moves : FlowTable.Moves custody.now custody.table after out into) :
    ∃ moved, custody.taken ++ after.released = custody.taken ++ custody.table.released ++ moved ∧
      ∀ flow ∈ moved, flow ∈ custody.table.flows ∧
        flow.lastSeen + custody.table.timeout ≤ custody.now := by
  obtain ⟨moved, released, late⟩ := moves.late
  exact ⟨moved, by rw [released, List.append_assoc], late⟩

/-- An operation releases only flows that have been idle for the timeout. -/
theorem late_step (custody : Custody) (operation : Operation) :
    ∃ moved,
      (custody.step operation).taken ++ (custody.step operation).table.released =
          custody.taken ++ custody.table.released ++ moved ∧
        ∀ flow ∈ moved, flow ∈ custody.table.flows ∧
          flow.lastSeen + custody.table.timeout ≤ custody.now := by
  -- What an operation releases it moves, so the moves say how long the flows have been idle.
  cases operation with
  | add flow => exact late_of_moves (FlowTable.add_moves _ custody.now flow)
  | lookupOutbound internal remote => exact late_of_moves (FlowTable.lookup_moves _ custody.now _)
  | lookupInbound remote external => exact late_of_moves (FlowTable.lookup_moves _ custody.now _)
  | remove internal external remote =>
    exact late_of_moves (FlowTable.remove_moves _ custody.now internal external remote)
  | sweep => exact late_of_moves (FlowTable.sweep_moves _ custody.now)
  | takeReleased => exact ⟨[], by simp [step, FlowTable.takeReleased]⟩
  | advance span => exact late_of_moves (.refl _ custody.now)

/-- At the start there is nothing to account for. -/
theorem opened_accounted (timeout sweepInterval now : Nat) (order : ReleaseOrder) :
    Accounted timeout (.opened timeout sweepInterval now order) :=
  .of_shows rfl (FlowBuckets.shows_empty timeout sweepInterval now order) fun _ => rfl

/-- Operations keep account of the flows. -/
theorem Accounted.run (accounted : Accounted timeout custody) (operations : List Operation) :
    Accounted timeout (custody.run operations) := by
  -- The first operation leads to another custody, from which the rest goes on.
  induction operations generalizing custody with
  | nil => exact accounted
  | cons operation rest ih => exact ih (accounted.step operation)

/--
A table neither loses nor duplicates flows and releases none early.

In whatever order a sweep comes upon the expired flows, every flow that was added is in one place after any
operations, and what the next operation does is lawful.
-/
theorem reached_accounted (timeout sweepInterval start : Nat) (order : ReleaseOrder)
    (operations : List Operation) :
    Accounted timeout ((opened timeout sweepInterval start order).run operations) ∧
      ∀ operation, Lawful ((opened timeout sweepInterval start order).run operations) operation := by
  have accounted := (opened_accounted timeout sweepInterval start order).run operations
  exact ⟨accounted, fun operation => ⟨late_step _ operation, accounted.gives operation⟩⟩

/-- A flow that is looked up in time outlives a sweep that would have released it. -/
example :
    let flow := Flow.fresh ⟨.ofNat 0x0A000005, 5000⟩ ⟨.ofNat 0x01020304, 6200⟩
      ⟨.ofNat 0x08080808, 53⟩ true 0
    ((opened 10 100 0).run [.add flow, .advance 8, .lookupOutbound flow.internal flow.remote,
      .advance 7, .sweep]).table.flows = [{ flow with lastSeen := 8 }] := by
  decide +kernel

end Custody

end NetworkLayer
