import NetworkLayer.Proofs.Dictionary
import NetworkLayer.Proofs.Translation.FlowTable

/-!
A flow table with its flows in buckets, one for each remote socket. Main statement: it answers like the table
that keeps all flows in one list, each flow is in the bucket of its own remote socket, and no bucket is empty.
-/

namespace NetworkLayer

/-- The flows of one protocol by remote socket, and those that expired and still hold their ports. -/
structure FlowBuckets where
  timeout : Nat
  sweepInterval : Nat
  lastSweep : Nat
  buckets : Dictionary Endpoint (List Flow)
  released : List Flow
deriving DecidableEq

namespace FlowBuckets

/-- The table without flows. -/
def empty (timeout sweepInterval now : Nat) : FlowBuckets :=
  ⟨timeout, sweepInterval, now, .empty, []⟩

/-- Number of flows in all buckets. -/
def size (table : FlowBuckets) : Nat :=
  table.buckets.entries.foldr (fun entry total => entry.2.length + total) 0

/-- Whether there is no bucket. -/
def isEmpty (table : FlowBuckets) : Bool := table.buckets.entries.isEmpty

/-- The flows in the bucket of a remote socket. -/
def bucket (table : FlowBuckets) (remote : Endpoint) : List Flow :=
  (table.buckets.get? remote).getD []

/-- The buckets with one replaced; an empty one is taken out. -/
def settled (buckets : Dictionary Endpoint (List Flow)) (remote : Endpoint) (flows : List Flow) :
    Dictionary Endpoint (List Flow) :=
  -- A bucket without flows would still count as one.
  if flows.isEmpty then buckets.erase remote else buckets.insert remote flows

/-- The table with its expired flows released. -/
def sweep (table : FlowBuckets) (now : Nat) : FlowBuckets :=
  { table with
    buckets := ⟨(table.buckets.entries.map fun entry =>
      (entry.1, entry.2.filter (·.isLive table.timeout now))).filter (!·.2.isEmpty)⟩
    released := table.released ++ table.buckets.entries.flatMap fun entry =>
      entry.2.filter fun flow => !flow.isLive table.timeout now
    lastSweep := now }

/-- The table, swept if the last sweep is longer ago than the interval. -/
def sweepIfDue (table : FlowBuckets) (now : Nat) : FlowBuckets :=
  if table.lastSweep + table.sweepInterval < now then table.sweep now else table

/-- The first flow of a bucket that is selected, seen now if it is live and released if it has expired. -/
def lookup (table : FlowBuckets) (now : Nat) (remote : Endpoint) (selected : Flow → Bool) :
    Option Flow × FlowBuckets :=
  let table := table.sweepIfDue now
  match (table.bucket remote).find? selected with
  | none => (none, table)
  | some flow =>
    if flow.isLive table.timeout now then
      (some { flow with lastSeen := now }, { table with
        buckets := table.buckets.insert remote
          (FlowTable.touchFirst selected now (table.bucket remote)) })
    else
      (none, { table with
        buckets := settled table.buckets remote ((table.bucket remote).eraseP selected)
        released := table.released ++ [flow] })

/-- The flow that an internal socket uses to talk to a remote one. -/
def lookupOutbound (table : FlowBuckets) (now : Nat) (internal remote : Endpoint) :
    Option Flow × FlowBuckets :=
  table.lookup now remote (·.internal == internal)

/-- The flow that a remote socket reaches by sending to an external one. -/
def lookupInbound (table : FlowBuckets) (now : Nat) (remote external : Endpoint) :
    Option Flow × FlowBuckets :=
  table.lookup now remote (·.external == external)

/-- The table with a flow at the end of its bucket. -/
def add (table : FlowBuckets) (now : Nat) (flow : Flow) : FlowBuckets :=
  let table := table.sweepIfDue now
  { table with
    buckets := table.buckets.insert flow.remote (table.bucket flow.remote ++ [flow]) }

/-- Whether a flow between these sockets was tracked, and the table without the first one. -/
def remove (table : FlowBuckets) (internal external remote : Endpoint) : Bool × FlowBuckets :=
  let selected := fun flow : Flow => flow.internal == internal && flow.external == external
  if (table.bucket remote).any selected then
    (true, { table with
      buckets := settled table.buckets remote ((table.bucket remote).eraseP selected) })
  else (false, table)

/-- The flows that expired since the last time, and the table without them. -/
def takeReleased (table : FlowBuckets) : List Flow × FlowBuckets :=
  (table.released, { table with released := [] })

end FlowBuckets

/-- The flows of a list whose remote socket is a given one. -/
def Flow.towards (remote : Endpoint) (flows : List Flow) : List Flow :=
  flows.filter (·.remote == remote)

namespace FlowBuckets

open NetworkLayer.Flow (towards)

/-- Buckets that keep the flows of a list apart: the entries are the parts towards each remote socket, in
their order, as far as there are any. -/
structure Parts (buckets : Dictionary Endpoint (List Flow)) (flows : List Flow) : Prop where
  distinct : buckets.keys.Nodup
  mem_iff : ∀ remote own, (remote, own) ∈ buckets.entries ↔ own = towards remote flows ∧ own ≠ []

/-- A table in buckets that stands for one in a list. -/
structure Shows (buckets : FlowBuckets) (table : FlowTable) : Prop where
  timeout : buckets.timeout = table.timeout
  sweepInterval : buckets.sweepInterval = table.sweepInterval
  lastSweep : buckets.lastSweep = table.lastSweep
  parts : Parts buckets.buckets table.flows
  /-- Flows of different buckets may be released in another order. -/
  released : buckets.released.Perm table.released

/-- Lists that part the flows by the keys of some entries hold them all, in another order. -/
theorem flatMap_perm (entries : List (Endpoint × List Flow)) :
    ∀ flows : List Flow, (entries.map Prod.fst).Nodup →
      (∀ entry ∈ entries, entry.2 = towards entry.1 flows) →
      (∀ flow ∈ flows, flow.remote ∈ entries.map Prod.fst) →
      (entries.flatMap Prod.snd).Perm flows := by
  -- Each entry takes its part out, and the rest of the entries part what is left.
  induction entries with
  | nil =>
    intro flows _ _ known
    have none : flows = [] := by
      cases flows with
      | nil => rfl
      | cons flow rest => exact absurd (known flow List.mem_cons_self) List.not_mem_nil
    simp [none]
  | cons entry rest ih =>
    intro flows distinct own known
    rw [List.map_cons, List.nodup_cons] at distinct
    let others := flows.filter (!·.remote == entry.1)
    -- The parts of the other keys lie in what is left.
    have apart : ∀ other ∈ rest, other.2 = towards other.1 others := by
      intro other member
      rw [own other (List.mem_cons_of_mem _ member), towards, towards, List.filter_filter]
      refine List.filter_congr fun flow _ => ?_
      by_cases same : flow.remote = other.1
      · have differ : ¬ other.1 = entry.1 := by
          intro equal
          exact distinct.1 (equal ▸ List.mem_map_of_mem member)
        simp [same, differ]
      · simp [same]
    -- What is left goes to sockets that differ from this key, so each of them is one of the others.
    have left : ∀ flow ∈ others, flow.remote ∈ rest.map Prod.fst := by
      intro flow member
      obtain ⟨tracked, differ⟩ := List.mem_filter.mp member
      have named := known flow tracked
      rw [List.map_cons, List.mem_cons] at named
      rcases named with same | there
      · simp [same] at differ
      · exact there
    -- The part of this key in front of all others has the flows of the list, in another order.
    rw [List.flatMap_cons, own entry List.mem_cons_self]
    calc (towards entry.1 flows ++ rest.flatMap Prod.snd).Perm (towards entry.1 flows ++ others) :=
          (ih others distinct.2 apart left).append_left _
      List.Perm _ flows := List.filter_append_perm (fun flow : Flow => flow.remote == entry.1) flows

/-- The flows towards a socket come from both parts of a list. -/
theorem towards_append (remote : Endpoint) (left right : List Flow) :
    towards remote (left ++ right) = towards remote left ++ towards remote right :=
  List.filter_append ..

/-- Flows to one socket are all towards it. -/
theorem towards_near {remote : Endpoint} {flows : List Flow}
    (near : ∀ flow ∈ flows, flow.remote = remote) : towards remote flows = flows := by
  refine List.filter_eq_self.mpr fun flow member => ?_
  rw [near flow member, beq_self_eq_true]

/-- Flows to one socket are not towards another. -/
theorem towards_far {remote other : Endpoint} {flows : List Flow}
    (near : ∀ flow ∈ flows, flow.remote = remote) (apart : other ≠ remote) :
    towards other flows = [] := by
  refine List.filter_eq_nil_iff.mpr fun flow member => ?_
  rw [near flow member, beq_iff_eq]
  exact Ne.symm apart

/-- No flows need no bucket. -/
theorem parts_nil : Parts .empty [] where
  distinct := List.nodup_nil
  mem_iff remote own := by
    constructor
    · intro there
      exact absurd there List.not_mem_nil
    · -- The part of nothing is empty, so it is no entry.
      rintro ⟨rfl, some⟩
      exact absurd rfl some

section Parts

variable {buckets : Dictionary Endpoint (List Flow)} {flows : List Flow} (parts : Parts buckets flows)
include parts

/-- The bucket of a socket has the flows towards it, each in its order. -/
theorem Parts.bucket (remote : Endpoint) : (buckets.get? remote).getD [] = towards remote flows := by
  cases found : buckets.get? remote with
  | some own =>
    rw [Dictionary.get?_eq_some_iff parts.distinct, parts.mem_iff] at found
    exact found.1
  | none =>
    -- A part that is not empty would be an entry.
    refine (Classical.byContradiction fun some => ?_ : towards remote flows = []).symm
    have there := (parts.mem_iff remote _).mpr ⟨rfl, some⟩
    rw [← Dictionary.get?_eq_some_iff parts.distinct, found] at there
    cases there

/-- The buckets hold all flows. -/
theorem Parts.perm : (buckets.entries.flatMap Prod.snd).Perm flows := by
  refine flatMap_perm buckets.entries flows parts.distinct (fun entry there =>
    ((parts.mem_iff entry.1 entry.2).mp there).1) fun flow tracked => ?_
  -- A flow is in the part of its own remote socket, so that part is an entry.
  have some : towards flow.remote flows ≠ [] :=
    List.ne_nil_of_mem (List.mem_filter.mpr ⟨tracked, beq_self_eq_true flow.remote⟩)
  exact List.mem_map_of_mem (f := Prod.fst) ((parts.mem_iff flow.remote _).mpr ⟨rfl, some⟩)

/-- One bucket is replaced when the flows towards its socket change and no others do. -/
theorem Parts.settled {remote : Endpoint} {own others : List Flow}
    (here : own = towards remote others)
    (elsewhere : ∀ other, other ≠ remote → towards other others = towards other flows) :
    Parts (settled buckets remote own) others := by
  subst here
  rw [FlowBuckets.settled]
  split
  · -- The last flow towards the socket is gone, and its bucket with it.
    rename_i none
    rw [List.isEmpty_iff] at none
    refine ⟨Dictionary.nodup_keys_erase parts.distinct, fun other part => ?_⟩
    rw [Dictionary.mem_entries_erase, parts.mem_iff]
    by_cases same : other = remote
    · simp [same, none]
    · simp [same, elsewhere other same]
  · -- Some flows are left, and they take the place of the bucket.
    rename_i some
    rw [List.isEmpty_iff] at some
    refine ⟨Dictionary.nodup_keys_insert parts.distinct, fun other part => ?_⟩
    rw [Dictionary.mem_entries_insert, parts.mem_iff]
    by_cases same : other = remote
    · subst same
      simp only [Prod.mk.injEq, true_and, ne_eq, not_true_eq_false, false_and, or_false]
      exact ⟨fun equal => ⟨equal, equal ▸ some⟩, And.left⟩
    · simp [same, elsewhere other same]

/-- Of the flows that are kept each is in its bucket, and buckets without any go. -/
theorem Parts.filter (kept : Flow → Bool) :
    Parts ⟨(buckets.entries.map fun entry => (entry.1, entry.2.filter kept)).filter
      (!·.2.isEmpty)⟩ (flows.filter kept) := by
  have part (remote : Endpoint) :
      towards remote (flows.filter kept) = (towards remote flows).filter kept := by
    simp only [towards, List.filter_filter, Bool.and_comm]
  refine ⟨?_, fun remote own => ?_⟩
  · refine List.Nodup.sublist (List.filter_sublist.map Prod.fst) ?_
    rw [List.map_map]
    exact parts.distinct
  · simp only [List.mem_filter, List.mem_map, Prod.mk.injEq, Bool.not_eq_true',
      List.isEmpty_eq_false_iff, part]
    refine and_congr_left fun some => ?_
    constructor
    · rintro ⟨entry, there, rfl, rfl⟩
      rw [((parts.mem_iff entry.1 entry.2).mp there).1]
    · -- What is kept of a part is not empty, so the part was not.
      rintro rfl
      refine ⟨(remote, towards remote flows), (parts.mem_iff ..).mpr ⟨rfl, fun none => ?_⟩, rfl, rfl⟩
      exact some (by rw [none, List.filter_nil])

/-- Flows to one socket take the place of others to it, in its bucket and among all flows. -/
theorem Parts.replace (remote : Endpoint) {front back : List Flow} (old next : List Flow)
    (split : flows = front ++ old ++ back) (before : ∀ flow ∈ old, flow.remote = remote)
    (after : ∀ flow ∈ next, flow.remote = remote) :
    Parts (FlowBuckets.settled buckets remote (towards remote front ++ next ++ towards remote back))
      (front ++ next ++ back) := by
  refine parts.settled ?_ fun other apart => ?_
  · rw [towards_append, towards_append, towards_near after]
  · -- Neither the old flows nor the new ones go to another socket.
    simp only [split, towards_append, towards_far before apart, towards_far after apart]

end Parts

/-- Without flows both tables are empty. -/
theorem shows_empty (timeout sweepInterval now : Nat) (order : ReleaseOrder) :
    Shows (.empty timeout sweepInterval now) (.empty timeout sweepInterval now order) :=
  ⟨rfl, rfl, rfl, parts_nil, .refl []⟩

/-- A bucket with flows is put in when it is settled. -/
theorem settled_of_ne_nil {buckets : Dictionary Endpoint (List Flow)} {remote : Endpoint}
    {flows : List Flow} (some : flows ≠ []) :
    settled buckets remote flows = buckets.insert remote flows := by
  rw [settled, if_neg (by simpa using some)]

section Shows

variable {buckets : FlowBuckets} {table : FlowTable} (shows : Shows buckets table)
include shows

/-- A table in buckets has as many flows as the one in a list. -/
theorem Shows.size : buckets.size = table.size := by
  -- The lengths of the buckets add up to the length of what they hold.
  rw [FlowBuckets.size, FlowTable.size, ← shows.parts.perm.length_eq]
  induction buckets.buckets.entries with
  | nil => rfl
  | cons entry rest ih => rw [List.foldr_cons, List.flatMap_cons, List.length_append, ih]

/-- There is no bucket exactly if there is no flow in any. -/
theorem Shows.isEmpty_iff : buckets.isEmpty = true ↔ buckets.size = 0 := by
  rw [isEmpty, List.isEmpty_iff, shows.size, FlowTable.size, List.length_eq_zero_iff]
  constructor
  · intro none
    have all := shows.parts.perm
    rw [none, List.flatMap_nil] at all
    exact List.nil_perm.mp all
  · intro none
    rw [List.eq_nil_iff_forall_not_mem]
    rintro ⟨remote, own⟩ there
    -- A bucket would hold a flow, and there is none.
    obtain ⟨part, some⟩ := (shows.parts.mem_iff remote own).mp there
    rw [none] at part
    exact some part

/-- Both tables are swept alike. -/
theorem Shows.sweep (now : Nat) : Shows (buckets.sweep now) (table.sweep now) where
  timeout := shows.timeout
  sweepInterval := shows.sweepInterval
  lastSweep := rfl
  parts := by
    rw [FlowTable.sweep, ← shows.timeout]
    exact shows.parts.filter _
  released := by
    -- What expired in the buckets is what expired among all their flows.
    have gone := shows.parts.perm.filter fun flow => !flow.isLive table.timeout now
    rw [List.filter_flatMap] at gone
    simp only [FlowBuckets.sweep, FlowTable.sweep, shows.timeout]
    exact shows.released.append (gone.trans (table.order.perm ..).symm)

/-- A sweep of both tables is due at the same time. -/
theorem Shows.sweepIfDue (now : Nat) : Shows (buckets.sweepIfDue now) (table.sweepIfDue now) := by
  -- Both look at the same times.
  unfold FlowBuckets.sweepIfDue FlowTable.sweepIfDue
  rw [shows.lastSweep, shows.sweepInterval]
  split
  · exact shows.sweep now
  · exact shows

/-- The bucket of a socket has the flows towards it. -/
theorem Shows.bucket (remote : Endpoint) : buckets.bucket remote = towards remote table.flows :=
  shows.parts.bucket remote

/-- A flow is put into the bucket of its own remote socket. -/
theorem Shows.add (now : Nat) (flow : Flow) :
    Shows (buckets.add now flow) (table.add now flow) := by
  have swept := shows.sweepIfDue now
  unfold FlowBuckets.add FlowTable.add
  generalize buckets.sweepIfDue now = buckets at swept ⊢
  generalize table.sweepIfDue now = table at swept ⊢
  refine ⟨swept.timeout, swept.sweepInterval, swept.lastSweep, ?_, swept.released⟩
  -- The new flow takes the place of nothing at the end of the list.
  have whole : table.flows = table.flows ++ [] ++ [] := by rw [List.append_nil, List.append_nil]
  have longer := swept.parts.replace flow.remote [] [flow] whole (by simp) (by simp)
  rw [settled_of_ne_nil (by simp), ← swept.bucket] at longer
  simpa [towards] using longer

section Found

variable {remote : Endpoint} {selected : Flow → Bool} {front back : List Flow} {flow : Flow}
  (split : table.flows = front ++ flow :: back) (own : flow.remote = remote)

include split own in
/-- A flow of the list stands in its bucket behind those of the flows in front that go there. -/
theorem Shows.bucket_split :
    buckets.bucket remote = towards remote front ++ flow :: towards remote back := by
  rw [shows.bucket, split, towards_append, towards, towards, List.filter_cons_of_pos (by simp [own])]
  rfl

omit shows in
/-- What is passed in the list is passed in the bucket. -/
theorem skipped_towards
    (skipped : ∀ other ∈ front, (other.remote == remote && selected other) = false) :
    ∀ other ∈ towards remote front, selected other = false := by
  intro other member
  obtain ⟨there, same⟩ := List.mem_filter.mp member
  simpa [same] using skipped other there

include split own in
/-- A flow that is refreshed keeps its place in its bucket. -/
theorem Shows.touch (now : Nat) :
    Shows
      { buckets with
        buckets := buckets.buckets.insert remote
          (towards remote front ++ { flow with lastSeen := now } :: towards remote back) }
      { table with flows := front ++ { flow with lastSeen := now } :: back } := by
  refine ⟨shows.timeout, shows.sweepInterval, shows.lastSweep, ?_, shows.released⟩
  -- In the list one flow is replaced by another of the same socket, and so in the bucket.
  have whole : table.flows = front ++ [flow] ++ back := by simp [split]
  have touched := shows.parts.replace remote [flow] [{ flow with lastSeen := now }] whole
    (by simpa using own) (by simpa using own)
  rw [settled_of_ne_nil (by simp)] at touched
  simpa using touched

include split own in
/-- A flow that is taken out leaves its bucket, which goes too if it was the last one. -/
theorem Shows.takeOut :
    Shows
      { buckets with
        buckets := settled buckets.buckets remote
          (towards remote front ++ towards remote back) }
      { table with flows := front ++ back } := by
  refine ⟨shows.timeout, shows.sweepInterval, shows.lastSweep, ?_, shows.released⟩
  have whole : table.flows = front ++ [flow] ++ back := by simp [split]
  have taken := shows.parts.replace remote [flow] [] whole (by simpa using own) (by simp)
  simpa using taken

end Found

/-- A look-up in the bucket gives what it gives in the list, and both tables go on alike. -/
theorem Shows.lookup (now : Nat) (remote : Endpoint) (selected : Flow → Bool) :
    (buckets.lookup now remote selected).1 =
        (table.lookup now fun flow => flow.remote == remote && selected flow).1 ∧
      Shows (buckets.lookup now remote selected).2
        (table.lookup now fun flow => flow.remote == remote && selected flow).2 := by
  have swept := shows.sweepIfDue now
  -- In the list the first flow decides that goes to the socket and is selected.
  rcases FlowTable.lookup_cases table now (fun flow => flow.remote == remote && selected flow) with
    ⟨passed, gives⟩ | ⟨front, flow, back, split, chosen, skipped, verdict⟩
  · -- No flow of the list is selected, and so none in the bucket.
    have missing : ((buckets.sweepIfDue now).bucket remote).find? selected = none := by
      rw [swept.bucket, List.find?_eq_none]
      intro flow member
      simp [skipped_towards passed flow member]
    rw [gives, FlowBuckets.lookup]
    simp only [missing]
    exact ⟨trivial, swept⟩
  · -- The flows in front of the one that is found go elsewhere or are not selected, and the bucket keeps them
    -- in order.
    rw [Bool.and_eq_true, beq_iff_eq] at chosen
    have before := skipped_towards skipped
    have here := swept.bucket_split split chosen.1
    have same : (buckets.sweepIfDue now).timeout = table.timeout := by
      rw [swept.timeout, FlowTable.sweepIfDue_timeout]
    rw [← same] at verdict
    -- A live flow is refreshed in both, and an expired one is taken out of both.
    rcases verdict with ⟨live, gives⟩ | ⟨expired, gives⟩
    · rw [gives, FlowBuckets.lookup]
      simp only [here, FlowTable.find?_append _ before chosen.2, live, if_true,
        FlowTable.touchFirst_append _ before chosen.2]
      exact ⟨trivial, swept.touch split chosen.1 now⟩
    · have taken := swept.takeOut split chosen.1
      rw [gives, FlowBuckets.lookup]
      simp only [here, FlowTable.find?_append _ before chosen.2, expired, Bool.false_eq_true,
        if_false, FlowTable.eraseP_append _ before chosen.2]
      exact ⟨trivial, taken.timeout, taken.sweepInterval, taken.lastSweep, taken.parts,
        taken.released.append_right _⟩

/-- Both tables find the same flow of an internal socket. -/
theorem Shows.lookupOutbound (now : Nat) (internal remote : Endpoint) :
    (buckets.lookupOutbound now internal remote).1 = (table.lookupOutbound now internal remote).1 ∧
      Shows (buckets.lookupOutbound now internal remote).2
        (table.lookupOutbound now internal remote).2 :=
  shows.lookup now remote (·.internal == internal)

/-- Both tables find the same flow to an external socket. -/
theorem Shows.lookupInbound (now : Nat) (remote external : Endpoint) :
    (buckets.lookupInbound now remote external).1 = (table.lookupInbound now remote external).1 ∧
      Shows (buckets.lookupInbound now remote external).2
        (table.lookupInbound now remote external).2 :=
  shows.lookup now remote (·.external == external)

/-- The same flow is removed from both tables. -/
theorem Shows.remove (internal external remote : Endpoint) :
    (buckets.remove internal external remote).1 = (table.remove internal external remote).1 ∧
      Shows (buckets.remove internal external remote).2
        (table.remove internal external remote).2 := by
  rcases FlowTable.remove_cases table internal external remote with
    ⟨passed, gives⟩ | ⟨front, flow, back, split, chosen, skipped, gives⟩
  -- The bucket holds what is between the sockets, in the order of the list.
  · have missing : (buckets.bucket remote).any (fun flow =>
        flow.internal == internal && flow.external == external) = false := by
      rw [shows.bucket, List.any_eq_false]
      intro flow member
      simp [skipped_towards passed flow member]
    rw [gives, FlowBuckets.remove]
    simp only [missing]
    exact ⟨rfl, shows⟩
  · rw [Bool.and_eq_true, beq_iff_eq] at chosen
    have before := skipped_towards skipped
    have here := shows.bucket_split split chosen.1
    rw [gives, FlowBuckets.remove]
    simp only [here, List.any_append, List.any_cons, chosen.2, Bool.true_or, Bool.or_true, if_true,
      FlowTable.eraseP_append _ before chosen.2]
    exact ⟨trivial, shows.takeOut split chosen.1⟩

/-- Both tables hand over what they have released. -/
theorem Shows.takeReleased : buckets.takeReleased.1.Perm table.takeReleased.1 ∧
    Shows buckets.takeReleased.2 table.takeReleased.2 :=
  ⟨shows.released, shows.timeout, shows.sweepInterval, shows.lastSweep, shows.parts, .refl _⟩

end Shows

end FlowBuckets

end NetworkLayer
