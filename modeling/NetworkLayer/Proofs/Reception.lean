import NetworkLayer.Proofs.Forwarding
import NetworkLayer.Proofs.Translation.Passage

/-!
What a node sends because of a packet. Main statements: everything that it sends lasts less long than
what it received, and it visits its own segments only so often.
-/

namespace NetworkLayer

variable {family : Family}

/-- How long what is read of a byte string lasts. -/
def Packet.dataLifetime (family : Family) (data : Bytes) : Nat :=
  match Packet.parse family data with
  | .ok packet => packet.lifetime
  | .error _ => 0

/-- A well-formed packet lasts as long as its bytes. -/
theorem Packet.WellFormed.dataLifetime {packet : Packet family} (wellFormed : packet.WellFormed) :
    Packet.dataLifetime family packet.bytes = packet.lifetime := by
  rw [Packet.dataLifetime, wellFormed.parse]

/-- Whether all that is sent lasts less long than a limit. -/
def Reaction.SendsBelow (reaction : Reaction family) (limit : Nat) : Prop :=
  ∀ sending ∈ reaction.sendings, Packet.dataLifetime family sending.packet < limit

namespace Reaction.SendsBelow

variable {reaction : Reaction family} {limit : Nat}

/-- Where nothing is sent, nothing lasts too long. -/
theorem of_nothing (nothing : reaction.sendings = []) : reaction.SendsBelow limit := by
  intro sending member
  rw [nothing] at member
  cases member

/-- Counting more sends nothing more. -/
theorem after (below : reaction.SendsBelow limit) (tallies : List Tally) :
    (reaction.after tallies).SendsBelow limit := below

/-- Copies of one packet last as long as it does. -/
theorem of_copies {packet : Packet family} (wellFormed : packet.WellFormed)
    (short : packet.lifetime < limit)
    (copies : ∀ sending ∈ reaction.sendings, sending.packet = packet.bytes) :
    reaction.SendsBelow limit := by
  intro sending member
  rw [copies sending member, wellFormed.dataLifetime]
  exact short

end Reaction.SendsBelow

namespace Station

variable (station : Station family) (policy : Policy family) (ingress : InterfaceId)
  {packet : Packet family}

/-- Only copies of a packet are sent by a route. -/
theorem sendRouted_copies (bytes : Bytes) (destination : Address family) :
    ∀ sending ∈ (station.sendRouted bytes destination).2.sendings, sending.packet = bytes := by
  intro sending member
  -- Without a route nothing is sent, and with one the single sending carries the bytes.
  cases found : station.routeFor destination with
  | none =>
    rw [station.sendRouted_none found, Reaction.counting_sendings] at member
    cases member
  | some route =>
    rw [station.sendRouted_some found] at member
    rw [List.mem_singleton.mp member]

/-- Only copies of a packet are sent when it starts at a node. -/
theorem send_copies (packet : Packet family) :
    ∀ sending ∈ (station.send packet).2.sendings, sending.packet = packet.bytes := by
  intro sending member
  rw [send] at member
  split at member
  · rw [List.mem_singleton.mp member]
  · split at member
    -- A group gets a copy on each interface.
    · simp only [sendAll, List.mem_flatMap, List.mem_map] at member
      obtain ⟨copy, ⟨id, _, rfl⟩, member⟩ := member
      rw [List.mem_singleton.mp member]
    · exact station.sendRouted_copies packet.bytes packet.destination sending member

/-- A report is sent back to where the packet came from, or there is none. -/
theorem report_cases (error : ControlError) (wellFormed : packet.WellFormed) :
    station.report policy error packet = {} ∨
      ∃ source report, packet.isControlError = false ∧ Packet.Reports error source packet report ∧
        station.report policy error packet = (station.send report).2.after [.one error.counter] := by
  by_cases silent : policy.allowsError packet = false ∨ station.sourceFor? packet.source = none
  · exact Or.inl (station.report_of_silent policy error silent)
  · obtain ⟨allowed, reachable⟩ := not_or.mp silent
    rw [Bool.not_eq_false] at allowed
    obtain ⟨source, found⟩ := Option.ne_none_iff_exists'.mp reachable
    obtain ⟨report, reports, result⟩ :=
      station.report_of_allowed policy error wellFormed allowed found
    -- No policy allows an error about an error.
    simp only [Policy.allowsError, Bool.and_eq_true, Bool.not_eq_true'] at allowed
    exact Or.inr ⟨source, report, allowed.1, reports, result⟩

/-- An echo is sent back to where the request came from, or there is none. -/
theorem answerEcho_cases (wellFormed : packet.WellFormed) :
    station.answerEcho ingress packet = {} ∨
      ∃ source reply, Packet.Echoes source packet reply ∧
        station.answerEcho ingress packet = (station.send reply).2.after [.one .echoReplies] := by
  rw [answerEcho]
  -- Without an echo to make nothing is sent.
  split
  · exact Or.inl rfl
  · rename_i reply made
    obtain ⟨source, _, made⟩ := Option.bind_eq_some_iff.mp made
    exact Or.inr ⟨source, reply, Packet.echoes_of_echoReply? wellFormed made, rfl⟩

/-- A report lasts less long than the packet that it is about. -/
theorem report_below (error : ControlError) (wellFormed : packet.WellFormed) :
    (station.report policy error packet).SendsBelow packet.lifetime := by
  rcases station.report_cases policy error wellFormed with
    silent | ⟨source, report, noError, reports, result⟩
  · exact .of_nothing (silent ▸ rfl)
  · rw [result]
    exact .of_copies reports.wellFormed (reports.lifetime_lt noError) (station.send_copies report)

/-- An echo lasts less long than the request for it. -/
theorem answerEcho_below (wellFormed : packet.WellFormed)
    (asks : packet.controlMessage = .echoRequest) :
    (station.answerEcho ingress packet).SendsBelow packet.lifetime := by
  rcases station.answerEcho_cases ingress wellFormed with silent | ⟨source, reply, echoes, result⟩
  · exact .of_nothing (silent ▸ rfl)
  · rw [result]
    exact .of_copies echoes.wellFormed (echoes.lifetime_lt asks) (station.send_copies reply)

/-- What the upper layer or its absence leads to lasts less long than the packet. -/
theorem deliver_below (wellFormed : packet.WellFormed) :
    (station.deliver policy ingress packet).SendsBelow packet.lifetime := by
  have report := station.report_below policy .unreachable wellFormed
  rw [deliver]
  -- The upper layer gets no sending. What is left is an echo and a refusal, each of which has a bound of its
  -- own.
  cases asks : packet.controlMessage with
  | malformed => exact .of_nothing rfl
  | echoRequest => exact station.answerEcho_below ingress wellFormed asks
  | none | other =>
    simp only
    split
    · exact .of_nothing rfl
    · split
      · exact report
      · exact .of_nothing rfl

/-- What is forwarded or reported lasts less long than the packet. -/
theorem forward_below (wellFormed : packet.WellFormed) :
    (station.forward policy packet).SendsBelow packet.lifetime := by
  by_cases group : packet.destination.isGroup
  · rw [station.forward_group policy group]
    exact .of_nothing rfl
  rcases UInt8.le_or_lt packet.hopsLeft 1 with spent | lives
  · rw [station.forward_spent policy group spent]
    exact station.report_below policy .timeExceeded wellFormed
  obtain ⟨hopped, result, hop, route⟩ := Packet.hopped?_of_lt wellFormed lives
  cases goes : policy.forward? hopped with
  | none => exact .of_nothing (by simp only [forward, if_neg group, result, goes,
      Reaction.counting_sendings])
  | some sent =>
    have alike := policy.forward?_alike hop.wellFormed goes
    -- The hop costs one, and the policy changes nothing about how long the packet lasts.
    have fewer : sent.lifetime < packet.lifetime := by
      rw [alike.lifetime, ← hop.lifetime route lives]
      exact Nat.lt_succ_self _
    refine .of_copies alike.wellFormed fewer ?_
    rw [(station.forward_hopped policy group result goes).1]
    exact station.sendRouted_copies sent.bytes sent.destination

/-- What comes of a packet for a node lasts less long than the packet. -/
theorem takeIn_below (visits : Nat) (wellFormed : packet.WellFormed) :
    (station.takeIn policy ingress visits packet).SendsBelow packet.lifetime := by
  induction visits generalizing packet with
  | zero => exact station.deliver_below policy ingress wellFormed
  | succ visits ih =>
    -- Moving on to the next segment costs nothing, so the bound stays the one of the packet.
    rw [takeIn]
    split
    · split
      · exact station.deliver_below policy ingress wellFormed
      · exact .of_nothing rfl
      · rename_i onward visited
        have alike := Packet.onward_alike wellFormed visited
        rw [← alike.lifetime]
        split
        · exact ih alike.wellFormed
        · exact station.forward_below policy alike.wellFormed
    · exact station.deliver_below policy ingress wellFormed

/-- All that a node sends because of what it receives lasts less long than that. -/
theorem receive_below (now : Nat) (data : Bytes) :
    (station.receive policy now ingress data).1.SendsBelow (Packet.dataLifetime family data) := by
  rw [receive, Packet.dataLifetime]
  cases read : Packet.parse family data with
  | error cause => exact .of_nothing rfl
  | ok packet =>
    have wellFormed := (Packet.parse_cases read).1
    cases passed : (policy.receive now station.hasAddress ingress packet).1 with
    | none => exact .of_nothing (by simp only [passed])
    | some left =>
      have alike := policy.receive_alike wellFormed passed
      simp only [passed]
      rw [← alike.lifetime]
      -- From here on it makes no difference what the policy has become.
      generalize (policy.receive now station.hasAddress ingress packet).2.1 = after
      refine Reaction.SendsBelow.after ?_ _
      rw [dispatch]
      split
      · exact station.takeIn_below after ingress _ alike.wellFormed
      · exact station.forward_below after alike.wellFormed
      · exact .of_nothing rfl

/-- What a node makes of a packet for it, visit by visit, without a limit on the visits. -/
inductive TakesIn (station : Station family) (policy : Policy family) (ingress : InterfaceId) :
    Packet family → Reaction family → Prop
  /-- A host delivers the packet as it is. -/
  | host {packet : Packet family} (host : station.node.settings.forwarding = false) :
      TakesIn station policy ingress packet (station.deliver policy ingress packet)
  /-- A router delivers a packet that has arrived. -/
  | arrived {packet : Packet family} (router : station.node.settings.forwarding = true)
      (visited : packet.visitSegment = .arrived) :
      TakesIn station policy ingress packet (station.deliver policy ingress packet)
  /-- A router drops a packet that cannot go on. -/
  | stuck {packet : Packet family} (router : station.node.settings.forwarding = true)
      (visited : packet.visitSegment = .stuck) :
      TakesIn station policy ingress packet (.counting [.packetsDropped])
  /-- A router forwards a packet whose next segment is elsewhere. -/
  | leaves {packet onward : Packet family} (router : station.node.settings.forwarding = true)
      (visited : packet.visitSegment = .onward onward)
      (elsewhere : station.hasAddress onward.destination = false) :
      TakesIn station policy ingress packet (station.forward policy onward)
  /-- A router takes in a packet whose next segment is its own, too. -/
  | stays {packet onward : Packet family} {reaction : Reaction family}
      (router : station.node.settings.forwarding = true)
      (visited : packet.visitSegment = .onward onward)
      (own : station.hasAddress onward.destination = true)
      (rest : TakesIn station policy ingress onward reaction) :
      TakesIn station policy ingress packet reaction

/-- With more visits than a packet can make, the limit on them is never reached. -/
theorem takeIn_takesIn {visits : Nat} (wellFormed : packet.WellFormed)
    (enough : packet.visitsLeft < visits) :
    station.TakesIn policy ingress packet (station.takeIn policy ingress visits packet) := by
  -- Each visit leaves one less to make, so what suffices for this packet does for the next.
  induction visits generalizing packet with
  | zero => cases enough
  | succ visits ih =>
    rw [takeIn]
    cases router : station.node.settings.forwarding with
    | false => exact .host router
    | true =>
      simp only [if_true]
      cases visited : packet.visitSegment with
      | arrived => exact .arrived router visited
      | stuck => exact .stuck router visited
      | onward onward =>
        have alike := Packet.onward_alike wellFormed visited
        have fewer := Packet.onward_visitsLeft wellFormed visited
        simp only
        cases own : station.hasAddress onward.destination with
        | false => exact .leaves router visited own
        | true => exact .stays router visited own (ih alike.wellFormed (by omega))

/-- Whether the visits to the own segments of a received packet come to an end by themselves. -/
def Settles (station : Station family) (policy : Policy family) (now : Nat)
    (ingress : InterfaceId) (data : Bytes) : Prop :=
  ∀ packet passed after tallies, Packet.parse family data = .ok packet →
    policy.receive now station.hasAddress ingress packet = (some passed, after, tallies) →
      station.TakesIn after ingress passed
        (station.takeIn after ingress passed.visitLimit passed)

/-- Whatever a node receives, its visits come to an end by themselves. -/
theorem settles (now : Nat) (data : Bytes) : station.Settles policy now ingress data := by
  intro packet passed after tallies read received
  have wellFormed := (Packet.parse_cases read).1
  have alike : packet.Alike passed := policy.receive_alike wellFormed (by rw [received])
  exact station.takeIn_takesIn after ingress alike.wellFormed passed.visitsLeft_lt

end Station

end NetworkLayer
