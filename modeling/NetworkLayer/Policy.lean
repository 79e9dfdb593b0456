import NetworkLayer.Packet
import NetworkLayer.Translation.Translator

/-!
What a node does with packets beyond plain routing: a policy sees each packet when it arrives,
decides whether it is for the node, and sees it again before it is forwarded.
-/

namespace NetworkLayer

/-- What a received packet is for. -/
inductive Verdict
  | deliver
  | forward
  | drop
deriving DecidableEq, Repr

/-- The verdict of plain routing: own packets are delivered and, on a router, others forwarded. -/
def Verdict.plain (owned forwarding : Bool) : Verdict :=
  if owned then deliver else if forwarding then forward else drop

/-- Fixed rules in place of plain routing. -/
structure ForwardingRules (family : Family) where
  /-- Packets to this address are dropped when they arrive. -/
  consume : Option (Address family)
  /-- The verdict on every packet. -/
  verdict : Option Verdict
  /-- Whether packets are forwarded at all. -/
  forwards : Bool
  /-- The new destination of forwarded packets. -/
  redirect : Option (Address family)
  /-- Whether errors are reported. -/
  reportsErrors : Bool
deriving DecidableEq

/-- The policy of a node. -/
inductive Policy : Family → Type
  | plain {family : Family} : Policy family
  | ruled {family : Family} (rules : ForwardingRules family) : Policy family
  | translating (translator : Translator) : Policy .v4

namespace Policy

variable {family : Family}

instance : Inhabited (Policy family) := ⟨plain⟩

/-- Takes a packet in on an interface of a node that owns the addresses selected by `owns`: what
goes on of it, the policy after it, and what it counts. -/
def receive {family : Family} (policy : Policy family) (now : Nat) (owns : Address family → Bool)
    (ingress : InterfaceId) (packet : Packet family) :
    Option (Packet family) × Policy family × List Tally :=
  match family, policy, packet with
  | _, .plain, packet => (some packet, .plain, [])
  | _, .ruled rules, packet =>
    (if rules.consume = some packet.destination then none else some packet, .ruled rules, [])
  | .v4, .translating translator, packet =>
    let (packet, translator, tallies) := translator.receive now owns ingress packet
    (packet, .translating translator, tallies)

/-- The verdict on a packet that is or is not for the node. -/
def classify (policy : Policy family) (owned forwarding : Bool) : Verdict :=
  match policy with
  | .ruled rules => rules.verdict.getD (.plain owned forwarding)
  | _ => .plain owned forwarding

/-- What is forwarded of a packet. -/
def forward? (policy : Policy family) (packet : Packet family) : Option (Packet family) :=
  match policy with
  | .ruled rules =>
    if rules.forwards then some ((rules.redirect.map packet.withDestination).getD packet) else none
  | _ => some packet

/-- Whether an error about a packet may be reported; an error never calls for another one. -/
def allowsError (policy : Policy family) (offending : Packet family) : Bool :=
  -- Otherwise two nodes could report errors to each other without end.
  !offending.isControlError && match policy with
    | .ruled rules => rules.reportsErrors
    | _ => true

end Policy

end NetworkLayer
