import NetworkLayer.Translation.IndexedTable

/-!
A table with an index answers like the table that walks through its flows, and goes on like it.
-/

namespace NetworkLayer

namespace Endpoint

/-- Different sockets have different codes. -/
theorem code_inj {left right : Endpoint} : left.code = right.code ↔ left = right := by
  constructor
  · intro same
    rcases left with ⟨⟨leftNumber, leftBound⟩, leftPort⟩
    rcases right with ⟨⟨rightNumber, rightBound⟩, rightPort⟩
    have small : leftPort.toNat < 65536 := leftPort.toNat_lt
    have smaller : rightPort.toNat < 65536 := rightPort.toNat_lt
    simp only [code] at same
    -- The port is the remainder by 65536, and the address is the quotient.
    obtain rfl : leftNumber = rightNumber := by omega
    obtain rfl : leftPort = rightPort := UInt16.toNat_inj.mp (by omega)
    rfl
  · rintro rfl
    rfl

/-- A code has the bits of an address and of a port. -/
theorem code_lt (endpoint : Endpoint) : endpoint.code < 281474976710656 := by
  have small : endpoint.port.toNat < 65536 := endpoint.port.toNat_lt
  have bound : endpoint.address.number < 4294967296 := endpoint.address.bound
  simp only [code]
  omega

/-- Different pairs of sockets have different codes. -/
theorem pairCode_inj {internal remote other peer : Endpoint} :
    pairCode internal remote = pairCode other peer ↔ internal = other ∧ remote = peer := by
  constructor
  · -- The code of one socket has a bound, so the two parts of the code are told apart.
    intro same
    have small := internal.code_lt
    have smaller := other.code_lt
    simp only [pairCode] at same
    exact ⟨code_inj.mp (by omega), code_inj.mp (by omega)⟩
  · rintro ⟨rfl, rfl⟩
    rfl

end Endpoint

namespace FlowLog

/-- What is put in is the last flow. -/
@[simp] theorem flows_push (log : FlowLog) (flow : Flow) :
    (log.push flow).flows = log.flows ++ [flow] :=
  List.reverse_cons

/-- The flows of a list are that list. -/
@[simp] theorem flows_ofList (flows : List Flow) : (ofList flows).flows = flows := by
  -- The flows are put in one after the other, behind those that are there.
  have pushed (log : FlowLog) : (flows.foldl push log).flows = log.flows ++ flows := by
    induction flows generalizing log with
    | nil => rw [List.foldl_nil, List.append_nil]
    | cons flow rest ih => rw [List.foldl_cons, ih, flows_push, List.append_assoc]; rfl
  exact pushed empty

/-- A log is made again from its flows. -/
@[simp] theorem ofList_flows (log : FlowLog) : ofList log.flows = log :=
  eq_of_recent (List.reverse_inj.mp (flows_ofList log.flows))

/-- The index tells the number of flows. -/
theorem size_eq_length (log : FlowLog) : log.size = log.flows.length := by
  rw [log.size_eq, flows, List.length_reverse]

/-- A code stands in an index of flows if one of them has it. -/
theorem contains_index (code : Flow → Nat) (flows : List Flow) (wanted : Nat) :
    (flows.foldr (fun flow codes => codes.insert (code flow)) (∅ : Std.TreeSet Nat)).contains
      wanted = flows.any (code · == wanted) := by
  -- The induction is on the flows, each of which puts its own code in.
  induction flows with
  | nil => simp
  | cons flow rest ih =>
    rw [List.foldr_cons, Std.TreeSet.contains_insert, ih, List.any_cons]
    congr 1
    rw [Bool.eq_iff_iff, beq_iff_eq, beq_iff_eq, Nat.compare_eq_eq]

/-- The index tells whether a flow uses an external socket. -/
theorem contains_externals (log : FlowLog) (external : Endpoint) :
    log.externals.contains external.code = log.flows.any (·.external == external) := by
  rw [log.externals_eq, contains_index, flows, List.any_reverse]
  congr 1
  funext flow
  rw [Bool.eq_iff_iff, beq_iff_eq, beq_iff_eq, Endpoint.code_inj]

/-- The index tells whether a flow ties two sockets. -/
theorem contains_pairs (log : FlowLog) (internal remote : Endpoint) :
    log.pairs.contains (Endpoint.pairCode internal remote) =
      log.flows.any fun flow => flow.remote == remote && flow.internal == internal := by
  rw [log.pairs_eq, contains_index, flows, List.any_reverse]
  congr 1
  funext flow
  rw [Bool.eq_iff_iff, beq_iff_eq, Endpoint.pairCode_inj, Bool.and_eq_true, beq_iff_eq, beq_iff_eq,
    and_comm]

end FlowLog

namespace IndexedTable

/-- A table with an index is the table without it. -/
@[simp] theorem toTable_ofTable (table : FlowTable) : (ofTable table).toTable = table := by
  simp only [toTable, ofTable, FlowLog.flows_ofList]

/-- The index follows from the flows. -/
@[simp] theorem ofTable_toTable (table : IndexedTable) : ofTable table.toTable = table := by
  simp only [toTable, ofTable, FlowLog.ofList_flows]

variable (table : IndexedTable) (now : Nat)

/-- Both tables have as many flows. -/
theorem size_eq : table.size = table.toTable.size :=
  table.log.size_eq_length

/-- Both tables use the same external sockets. -/
theorem usesExternal_eq (external : Endpoint) :
    table.usesExternal external = table.toTable.usesExternal external :=
  table.log.contains_externals external

/-- Both tables find the same flow of an internal socket, and go on alike. -/
theorem lookupOutbound_eq (internal remote : Endpoint) :
    table.lookupOutbound now internal remote =
      (table.toTable.lookupOutbound now internal remote).map id ofTable := by
  rw [lookupOutbound]
  split
  · rfl
  · -- No sweep is due, and no flow ties the two sockets.
    rename_i idle
    rw [Bool.or_eq_true, not_or, FlowLog.contains_pairs, Bool.not_eq_true, Bool.not_eq_true] at idle
    have swept : table.toTable.sweepIfDue now = table.toTable :=
      if_neg (of_decide_eq_false idle.1)
    have missing : table.toTable.flows.find? (fun flow =>
        flow.remote == remote && flow.internal == internal) = none :=
      List.find?_eq_none.mpr fun flow tracked => List.any_eq_false.mp idle.2 flow tracked
    simp only [FlowTable.lookupOutbound, FlowTable.lookup, swept, missing, Prod.map, id_eq,
      ofTable_toTable]

/-- Both tables get the same flow more. -/
theorem add_eq (flow : Flow) : table.add now flow = ofTable (table.toTable.add now flow) := by
  rw [add]
  -- With a sweep due both tables do the same; without one the flow is pushed to the log.
  split
  · rfl
  · rename_i idle
    have swept : table.toTable.sweepIfDue now = table.toTable :=
      if_neg (of_decide_eq_false (Bool.not_eq_true _ ▸ idle))
    have pushed : table.log.push flow = .ofList (table.log.flows ++ [flow]) := by
      rw [← FlowLog.flows_push, FlowLog.ofList_flows]
    simp only [FlowTable.add, swept, ofTable, pushed]
    rfl

end IndexedTable

end NetworkLayer
