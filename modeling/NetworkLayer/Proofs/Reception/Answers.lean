import NetworkLayer.Proofs.Reception

/-!
What a node originates because of a packet that it receives. Main statement: one echo or one error report at most,
nothing because of an error, and a report that a packet is unreachable only where it was delivered at a unicast
address of the node.
-/

namespace NetworkLayer

variable {family : Family}

/-- A packet that a node originates because of another one. -/
inductive Answer (family : Family)
  | echo (reply : Packet family)
  | report (error : ControlError) (report : Packet family)

namespace Answer

/-- The packet of an answer. -/
def packet : Answer family → Packet family
  | echo reply => reply
  | report _ notice => notice

/-- The counter of an answer. -/
def counter : Answer family → Counter
  | echo _ => .echoReplies
  | report error _ => error.counter

end Answer

/-- Whether a counter is one of answers. -/
def Counter.ofAnswers : Counter → Bool
  | echoReplies | timeExceededSent | unreachableSent => true
  | _ => false

/-- The counter of answers that a tally moves. -/
def Tally.answer? : Tally → Option Counter
  | count counter _ => if counter.ofAnswers then some counter else none
  | _ => none

namespace Reaction

/-- The counters of answers in the order in which they are moved. -/
def answers (reaction : Reaction family) : List Counter :=
  reaction.tallies.filterMap Tally.answer?

/-- What is counted in front may be an answer, too. -/
theorem after_answers (reaction : Reaction family) (tallies : List Tally) :
    (reaction.after tallies).answers = tallies.filterMap Tally.answer? ++ reaction.answers :=
  List.filterMap_append

/-- What is counted in front and is no answer leaves the answers as they are. -/
theorem after_answers_of_none (reaction : Reaction family) {tallies : List Tally}
    (others : tallies.filterMap Tally.answer? = []) :
    (reaction.after tallies).answers = reaction.answers := by
  rw [after_answers, others, List.nil_append]

end Reaction

/-- An answer is counted as one. -/
theorem Answer.answer?_counter (answer : Answer family) :
    (Tally.one answer.counter).answer? = some answer.counter := by
  cases answer with
  | echo => rfl
  | report error report => cases error <;> rfl

namespace Packet

/-- A packet and what it is after some visits to segments. -/
inductive Visits : Packet family → Packet family → Prop
  | here {packet : Packet family} : Visits packet packet
  | onward {packet next last : Packet family} (visited : packet.visitSegment = .onward next)
      (rest : Visits next last) : Visits packet last

/-- What every visit keeps is kept along all of them. -/
theorem Visits.keeps {packet last : Packet family} (visits : packet.Visits last)
    (kept : Packet family → Prop) (start : kept packet)
    (step : ∀ {before after : Packet family}, kept before → before.visitSegment = .onward after →
      kept after) : kept last := by
  induction visits with
  | here => exact start
  | onward visited _ ih => exact ih (step start visited)

/-- Visits leave a packet of its kind. -/
theorem Visits.alike {packet last : Packet family} (visits : packet.Visits last)
    (wellFormed : packet.WellFormed) : packet.Alike last :=
  visits.keeps packet.Alike (.refl wellFormed) fun alike visited =>
    alike.trans (onward_alike alike.wellFormed visited)

end Packet

namespace Station

section Send

variable (station : Station family)

/-- A packet that is sent by a route is no answer by itself. -/
theorem sendRouted_answers (bytes : Bytes) (destination : Address family) :
    (station.sendRouted bytes destination).2.answers = [] := by
  cases found : station.routeFor destination with
  | none => rw [station.sendRouted_none found]; rfl
  | some route => rw [station.sendRouted_some found]; rfl

/-- A packet that starts at a node is no answer by itself. -/
theorem send_answers (packet : Packet family) : (station.send packet).2.answers = [] := by
  rw [send]
  -- To a group the packet goes out once for each interface, and elsewhere by its route. Neither counts an
  -- answer.
  split
  · rfl
  · split
    · refine List.filterMap_eq_nil_iff.mpr fun tally member => ?_
      simp only [sendAll, handOver, List.mem_flatMap, List.mem_map] at member
      obtain ⟨copy, ⟨id, _, rfl⟩, counted⟩ := member
      rw [List.mem_singleton.mp counted]
      rfl
    · exact station.sendRouted_answers packet.bytes packet.destination

end Send

/-- Whether a packet is an occasion for an error to a node. -/
def Occasions (station : Station family) (packet : Packet family) : ControlError → Prop
  | .timeExceeded => packet.hopsLeft ≤ 1
  | .unreachable => station.ownsUnicast packet.destination = true

/-- The answers that a packet may get from a node. -/
inductive Prompts (station : Station family) (packet : Packet family) : Answer family → Prop
  /-- A request for an echo gets one. -/
  | echo {source : Address family} {reply : Packet family} (asks : packet.controlMessage = .echoRequest)
      (echoes : Packet.Echoes source packet reply) : Prompts station packet (.echo reply)
  /-- What is no error itself may get an error. -/
  | report {error : ControlError} {source : Address family} {report : Packet family}
      (noError : packet.isControlError = false) (occasion : station.Occasions packet error)
      (reports : Packet.Reports error source packet report) :
      Prompts station packet (.report error report)

/-- What comes of a packet that has been let in, and the answer among it. Visits to segments may come first, and
what they leave of the packet is sent on or answered. -/
inductive Yields (station : Station family) (policy : Policy family) (ingress : InterfaceId)
    (packet : Packet family) (reaction : Reaction family) : Option (Answer family) → Prop
  /-- Nothing is sent. -/
  | silent (nothing : reaction.sendings = []) (uncounted : reaction.answers = []) :
      Yields station policy ingress packet reaction none
  /-- The packet itself is sent one hop on, as the policy lets it. -/
  | onward {last hopped sent : Packet family} (visits : packet.Visits last)
      (hop : last.OneHopOn hopped) (goes : policy.forward? hopped = some sent)
      (sendings : reaction.sendings = (station.sendRouted sent.bytes sent.destination).2.sendings)
      (uncounted : reaction.answers = []) : Yields station policy ingress packet reaction none
  /-- An answer is sent, and only a report of used up hops is one to a packet that is not delivered. -/
  | answered {last : Packet family} {answer : Answer family} (visits : packet.Visits last)
      (prompts : station.Prompts last answer)
      (sendings : reaction.sendings = (station.send answer.packet).2.sendings)
      (counted : reaction.answers = [answer.counter])
      (delivered : answer.counter ≠ .timeExceededSent →
        ∃ tallies, reaction = (station.deliver policy ingress last).after tallies) :
      Yields station policy ingress packet reaction (some answer)

namespace Yields

variable {station : Station family} {policy : Policy family} {ingress : InterfaceId}
  {packet : Packet family} {reaction : Reaction family} {answer : Option (Answer family)}

/-- The answer is counted, and nothing else is counted as one. -/
theorem answers_eq (yields : station.Yields policy ingress packet reaction answer) :
    reaction.answers = (answer.map Answer.counter).toList := by
  cases yields with
  | silent _ uncounted => exact uncounted
  | onward _ _ _ _ uncounted => exact uncounted
  | answered _ _ _ counted _ => exact counted

/-- Counting more that is no answer changes nothing about what comes of a packet. -/
theorem after (yields : station.Yields policy ingress packet reaction answer) {tallies : List Tally}
    (others : tallies.filterMap Tally.answer? = []) :
    station.Yields policy ingress packet (reaction.after tallies) answer := by
  have same := reaction.after_answers_of_none others
  -- What is sent and what is delivered stay, so each case is the one it was, with the tallies in front.
  cases yields with
  | silent nothing uncounted => exact .silent nothing (same.trans uncounted)
  | onward visits hop goes sendings uncounted =>
    exact .onward visits hop goes sendings (same.trans uncounted)
  | answered visits prompts sendings counted delivered =>
    refine .answered visits prompts sendings (same.trans counted) fun other => ?_
    obtain ⟨before, rfl⟩ := delivered other
    exact ⟨tallies ++ before, by simp only [Reaction.after, List.append_assoc]⟩

/-- What comes of a packet behind a visit comes of the packet before it. -/
theorem of_visit {before : Packet family} (visited : before.visitSegment = .onward packet)
    (yields : station.Yields policy ingress packet reaction answer) :
    station.Yields policy ingress before reaction answer := by
  -- One visit more stands in front of those that were made.
  cases yields with
  | silent nothing uncounted => exact .silent nothing uncounted
  | onward visits hop goes sendings uncounted =>
    exact .onward (.onward visited visits) hop goes sendings uncounted
  | answered visits prompts sendings counted delivered =>
    exact .answered (.onward visited visits) prompts sendings counted delivered

/-- An error is not answered. -/
theorem eq_none_of_error (yields : station.Yields policy ingress packet reaction answer)
    (wellFormed : packet.WellFormed) (error : packet.isControlError) : answer = none := by
  rw [Packet.isControlError_eq] at error
  cases yields with
  | silent => rfl
  | onward => rfl
  | answered visits prompts =>
    rw [← (visits.alike wellFormed).kind] at error
    cases prompts with
    | echo asks echoes =>
      rw [Packet.requestType_of_controlMessage asks, Option.any_some] at error
      -- The type of a request is none of an error.
      cases family <;> exact absurd error (by decide)
    | report noError _ _ =>
      rw [Packet.isControlError_eq, error] at noError
      cases noError

end Yields

section Reactions

variable (station : Station family) (policy : Policy family) (ingress : InterfaceId)
  {packet : Packet family}

/-- A packet that is delivered goes to the upper layer or nowhere, or it is answered. -/
theorem deliver_cases (wellFormed : packet.WellFormed) :
    (∃ handed, station.deliver policy ingress packet =
      Reaction.after { delivered := handed } [.one .packetsDelivered]) ∨
    ∃ answer, station.Prompts packet answer ∧ station.deliver policy ingress packet =
      ((station.send answer.packet).2.after [.one answer.counter]).after [.one .packetsDelivered] := by
  -- The kind of the message decides: only a request and a message for nobody can lead to an answer.
  rw [deliver]
  cases asks : packet.controlMessage with
  | malformed => exact Or.inl ⟨none, rfl⟩
  | echoRequest =>
    rcases station.answerEcho_cases ingress wellFormed with silent | ⟨source, reply, echoes, sent⟩
    · exact Or.inl ⟨none, by rw [silent]⟩
    · exact Or.inr ⟨.echo reply, .echo asks echoes, by rw [sent]; rfl⟩
  | none | other =>
    dsimp only
    split
    · exact Or.inl ⟨some packet, rfl⟩
    split
    · -- A refusal needs an own unicast address and a family that reports it, and both stand in the test.
      rename_i reported
      rw [Bool.and_eq_true, Bool.and_eq_true] at reported
      rcases station.report_cases policy .unreachable wellFormed with
        silent | ⟨source, report, noError, reports, sent⟩
      · exact Or.inl ⟨none, by rw [silent]⟩
      · exact Or.inr ⟨.report .unreachable report, .report noError reported.1.2 reports, by
          rw [sent]
          rfl⟩
    · exact Or.inl ⟨none, rfl⟩

/-- An answer that is sent and counted is what comes of a packet. -/
theorem yields_of_send {reaction : Reaction family} {answer : Answer family} {tallies : List Tally}
    (prompts : station.Prompts packet answer)
    (result : reaction = ((station.send answer.packet).2.after [.one answer.counter]).after tallies)
    (others : tallies.filterMap Tally.answer? = [])
    (delivered : answer.counter ≠ .timeExceededSent → reaction = station.deliver policy ingress packet) :
    station.Yields policy ingress packet reaction (some answer) := by
  refine .answered .here prompts (result ▸ rfl) ?_ fun other => ⟨[], delivered other⟩
  rw [result, Reaction.after_answers, others, Reaction.after_answers, send_answers, List.append_nil,
    List.nil_append, List.filterMap_cons_some answer.answer?_counter, List.filterMap_nil]

/-- What comes of a packet that is delivered. -/
theorem deliver_yields (wellFormed : packet.WellFormed) :
    ∃ answer, station.Yields policy ingress packet (station.deliver policy ingress packet) answer := by
  rcases station.deliver_cases policy ingress wellFormed with ⟨handed, result⟩ | ⟨answer, prompts, result⟩
  · exact ⟨none, .silent (result ▸ rfl) (result ▸ rfl)⟩
  · exact ⟨answer, station.yields_of_send policy ingress prompts result rfl fun _ => rfl⟩

/-- What comes of a packet that is forwarded. -/
theorem forward_yields (wellFormed : packet.WellFormed) :
    ∃ answer, station.Yields policy ingress packet (station.forward policy packet) answer := by
  -- The cases follow the order in which the code gives up: a group, no hops left, and a policy that holds the
  -- packet back.
  by_cases group : packet.destination.isGroup
  · have result := station.forward_group policy group
    exact ⟨none, .silent (result ▸ rfl) (result ▸ rfl)⟩
  rcases UInt8.le_or_lt packet.hopsLeft 1 with spent | lives
  · have result := station.forward_spent policy group spent
    rcases station.report_cases policy .timeExceeded wellFormed with
      none | ⟨source, report, noError, reports, sent⟩
    · rw [none] at result
      exact ⟨_, .silent (result ▸ rfl) (result ▸ rfl)⟩
    · rw [sent] at result
      exact ⟨some (.report .timeExceeded report), station.yields_of_send policy ingress
        (.report noError spent reports) result rfl fun other => absurd rfl other⟩
  -- With a hop left the packet can be shortened, since it is well formed.
  obtain ⟨hopped, result, hop, -⟩ := Packet.hopped?_of_lt wellFormed lives
  cases goes : policy.forward? hopped with
  | none =>
    have dropped : station.forward policy packet = .counting [.packetsDropped] := by
      simp only [forward, if_neg group, result, goes]
    exact ⟨none, .silent (dropped ▸ rfl) (dropped ▸ rfl)⟩
  | some sent =>
    refine ⟨none, .onward .here hop goes
      (station.forward_hopped policy group result goes).1 ?_⟩
    have uncounted := station.sendRouted_answers sent.bytes sent.destination
    simp only [forward, if_neg group, result, goes]
    split
    · rw [Reaction.after_answers, uncounted]
      rfl
    · exact uncounted

/-- What comes of a packet for a node. -/
theorem takeIn_yields (visits : Nat) (wellFormed : packet.WellFormed) : ∃ answer,
    station.Yields policy ingress packet (station.takeIn policy ingress visits packet) answer := by
  -- The induction is on the visits to own segments that may still be made.
  induction visits generalizing packet with
  | zero => exact station.deliver_yields policy ingress wellFormed
  | succ visits ih =>
    rw [takeIn]
    split
    · split
      · exact station.deliver_yields policy ingress wellFormed
      · exact ⟨none, .silent rfl rfl⟩
      · rename_i onward visited
        have alike := Packet.onward_alike wellFormed visited
        split
        · obtain ⟨answer, yields⟩ := ih alike.wellFormed
          exact ⟨answer, yields.of_visit visited⟩
        · obtain ⟨answer, yields⟩ := station.forward_yields policy ingress alike.wellFormed
          exact ⟨answer, yields.of_visit visited⟩
    · exact station.deliver_yields policy ingress wellFormed

/-- What comes of a packet that a policy has let in. -/
theorem dispatch_yields (wellFormed : packet.WellFormed) : ∃ answer,
    station.Yields policy ingress packet (station.dispatch policy ingress packet) answer := by
  rw [dispatch]
  split
  · exact station.takeIn_yields policy ingress _ wellFormed
  · exact station.forward_yields policy ingress wellFormed
  · exact ⟨none, .silent rfl rfl⟩

end Reactions

end Station

/-- A translator counts no answers. -/
theorem Translator.receive_answers (translator : Translator) (now : Nat) (owns : Address .v4 → Bool)
    (ingress : InterfaceId) (packet : Ipv4Packet) :
    (translator.receive now owns ingress packet).2.2.filterMap Tally.answer? = [] := by
  -- It counts the translations and those that fail.
  have settled (counter : Counter) (other : counter.ofAnswers = false)
      (result : Translation × Translator) :
      (receive.settle counter result).2.2.filterMap Tally.answer? = [] := by
    rcases result with ⟨translation, after⟩
    cases translation with
    | translated packet => simp [receive.settle, Tally.one, Tally.answer?, other]
    | _ => rfl
  rw [receive]
  split
  · split
    · rfl
    · exact settled .translatedOut rfl _
  · split
    · split
      · exact settled .translatedIn rfl _
      · rfl
    · rfl

/-- A policy counts no answers. -/
theorem Policy.receive_answers (policy : Policy family) (now : Nat) (owns : Address family → Bool)
    (ingress : InterfaceId) (packet : Packet family) :
    (policy.receive now owns ingress packet).2.2.filterMap Tally.answer? = [] := by
  cases policy with
  | plain => rfl
  | ruled rules => rfl
  | translating translator => exact translator.receive_answers now owns ingress packet

namespace Station

variable (station : Station family) (policy : Policy family) (now : Nat) (ingress : InterfaceId)

/-- The packet that is read of a byte string, as the policy lets it in. -/
def admitted? (data : Bytes) : Option (Packet family) :=
  match Packet.parse family data with
  | .ok packet => (policy.receive now station.hasAddress ingress packet).1
  | .error _ => none

section Admitted

variable {data : Bytes}

/-- Nothing comes of a byte string of which nothing is let in. -/
theorem receive_refused (refused : station.admitted? policy now ingress data = none) :
    (station.receive policy now ingress data).1.sendings = [] ∧
      (station.receive policy now ingress data).1.answers = [] := by
  rw [receive]
  rw [admitted?] at refused
  -- Either the bytes are no packet, or the policy keeps the packet to itself, which counts no answer.
  cases read : Packet.parse family data with
  | error cause => exact ⟨rfl, rfl⟩
  | ok packet =>
    rw [read] at refused
    simp only [refused]
    exact ⟨trivial, policy.receive_answers now station.hasAddress ingress packet⟩

/-- What is let in is the packet that is read, as far as its kind goes. -/
theorem admitted?_alike {entered : Packet family}
    (admitted : station.admitted? policy now ingress data = some entered) :
    ∃ packet, Packet.parse family data = .ok packet ∧ packet.Alike entered ∧
      (policy.receive now station.hasAddress ingress packet).1 = some entered := by
  rw [admitted?] at admitted
  -- Only bytes that are a packet are let in, and the policy changes no kind.
  cases read : Packet.parse family data with
  | error cause =>
    rw [read] at admitted
    cases admitted
  | ok packet =>
    rw [read] at admitted
    exact ⟨packet, rfl, policy.receive_alike (Packet.parse_cases read).1 admitted, admitted⟩

/-- What comes of a byte string is what comes of the packet that is let in. -/
theorem receive_yields {entered : Packet family}
    (admitted : station.admitted? policy now ingress data = some entered) :
    let result := station.receive policy now ingress data
    ∃ answer, station.Yields result.2 ingress entered result.1 answer := by
  obtain ⟨packet, read, alike, passed⟩ := station.admitted?_alike policy now ingress admitted
  obtain ⟨answer, yields⟩ := station.dispatch_yields
    (policy.receive now station.hasAddress ingress packet).2.1 ingress alike.wellFormed
  simp only [receive, read, passed]
  exact ⟨answer, yields.after (policy.receive_answers now station.hasAddress ingress packet)⟩

end Admitted

/-- A node originates one answer at most because of what it receives, none because of an error, and a report that
a packet is unreachable only where the packet was delivered at a unicast address of the node.

Copies of an answer to a group count as one, and all else that is sent is the packet itself one hop on. -/
theorem receive_answers_once (data : Bytes) :
    let result := station.receive policy now ingress data
    result.1.answers.length ≤ 1 ∧
    match station.admitted? policy now ingress data with
    | none => result.1.sendings = [] ∧ result.1.answers = []
    | some entered => ∃ answer, station.Yields result.2 ingress entered result.1 answer ∧
        (∀ packet, Packet.parse family data = .ok packet → packet.isControlError → answer = none) ∧
        ∀ report, answer = some (.report .unreachable report) →
          ∃ delivered tallies, entered.Visits delivered ∧ station.ownsUnicast delivered.destination ∧
            result.1 = (station.deliver result.2 ingress delivered).after tallies := by
  intro result
  -- What is not let in leads to nothing, and for the rest the outcome of the packet is known by its cases.
  cases admitted : station.admitted? policy now ingress data with
  | none =>
    obtain ⟨nothing, uncounted⟩ := station.receive_refused policy now ingress admitted
    exact ⟨uncounted ▸ Nat.zero_le 1, nothing, uncounted⟩
  | some entered =>
    obtain ⟨packet, read, alike, -⟩ := station.admitted?_alike policy now ingress admitted
    obtain ⟨answer, yields⟩ := station.receive_yields policy now ingress admitted
    refine ⟨?_, answer, yields, fun other same error => ?_, ?_⟩
    · rw [yields.answers_eq]
      cases answer with
      | none => exact Nat.zero_le 1
      | some answer => exact Nat.le_refl 1
    · -- An error message leads to no answer, and the policy has kept the kind of the packet.
      obtain rfl : packet = other := by injection read.symm.trans same
      rw [Packet.isControlError_eq, ← alike.kind, ← Packet.isControlError_eq] at error
      exact yields.eq_none_of_error alike.wellFormed error
    · -- A refusal is made for a packet that was delivered, which is the one that the answer names.
      rintro report rfl
      cases yields with
      | answered visits prompts _ _ delivered =>
        cases prompts with
        | report _ own _ =>
          obtain ⟨tallies, sent⟩ := delivered fun same => by cases same
          exact ⟨_, tallies, visits, own, sent⟩

end Station

end NetworkLayer
