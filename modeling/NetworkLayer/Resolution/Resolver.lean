import NetworkLayer.InterfaceAddress
import NetworkLayer.Metrics
import NetworkLayer.Resolution.Cache

/-!
The resolver of an interface finds the link-layer address of a next hop. Its calls take turns: one
call at a time puts its question on the link, again after each retransmit period, until an answer
arrives or its attempts are used up.
-/

namespace NetworkLayer

/-- The identity of a call to a resolver. -/
abbrev CallId := Nat

/-- How a resolver is set up; times are in milliseconds. -/
structure ResolverSettings where
  /-- How long an answer counts; without a cache only calls that wait profit from it. -/
  cacheTimeout : Option Nat
  retransmit : Nat
  attempts : Nat
deriving DecidableEq, Repr

/-- The usual settings of a family. -/
def ResolverSettings.standard : Family → ResolverSettings
  -- Neighbors of IPv6 are remembered for longer.
  | .v4 => ⟨some 20000, 3000, 3⟩
  | .v6 => ⟨some 60000, 3000, 3⟩

/-- A call that needs the link: what it asks for, and the own address that it asks from. -/
structure ResolutionCall (family : Family) where
  id : CallId
  target : Address family
  source : Address family
deriving DecidableEq

/-- The turn of a call. -/
structure ResolutionTurn (family : Family) where
  call : ResolutionCall family
  /-- How often the call has put its question; zero until it has begun. -/
  asked : Nat
  /-- When the question is put again. -/
  deadline : Nat
  answer : Option Mac
deriving DecidableEq

namespace ResolutionTurn

variable {family : Family}

/-- A turn that has not begun. -/
def granted (call : ResolutionCall family) : ResolutionTurn family := ⟨call, 0, 0, none⟩

/-- Whether an answer about an address is awaited. -/
def awaits (turn : ResolutionTurn family) (address : Address family) : Bool :=
  turn.asked ≠ 0 && turn.answer.isNone && turn.call.target == address

end ResolutionTurn

/-- The resolver of one interface. -/
structure Resolver (family : Family) where
  settings : ResolverSettings
  mac : Mac
  addresses : List (InterfaceAddress family)
  cache : Option (ResolutionCache family)
  turn : Option (ResolutionTurn family)
  /-- The calls that wait for their turn, in the order in which they came. -/
  waiting : List (ResolutionCall family)
deriving DecidableEq

/-- What a step of a resolver does to its surroundings. -/
inductive ResolutionEffect (family : Family)
  /-- A counter goes up. -/
  | tally (counter : Counter)
  /-- A question goes out. -/
  | solicit (target source : Address family)
  /-- A call has to be looked at again. -/
  | wake (call : CallId)
  /-- A call has to be looked at again at the given time. -/
  | arm (call : CallId) (deadline : Nat)
  /-- A call ends. -/
  | finish (call : CallId) (mac : Option Mac)
deriving DecidableEq

namespace Resolver

variable {family : Family}

/-- A resolver without addresses. -/
def create (settings : ResolverSettings) (mac : Mac) : Resolver family :=
  ⟨settings, mac, [], settings.cacheTimeout.map .empty, none, []⟩

/-- The resolver with an address, unless it has the very same entry. -/
def addAddress (resolver : Resolver family) (entry : InterfaceAddress family) : Resolver family :=
  -- The same address may come again with another length or role.
  if resolver.addresses.contains entry then resolver
  else { resolver with addresses := resolver.addresses ++ [entry] }

/-- The resolver without any entry for an address. -/
def removeAddress (resolver : Resolver family) (address : Address family) : Resolver family :=
  { resolver with addresses := resolver.addresses.filter (·.address != address) }

/-- Whether an address is a unicast one of the interface. -/
def owns (resolver : Resolver family) (address : Address family) : Bool :=
  resolver.addresses.any fun entry => entry.isUnicast && entry.address == address

/-- Whether an address is the directed broadcast of an own prefix, which only IPv4 has. -/
def isDirectedBroadcast (resolver : Resolver family) (target : Address family) : Bool :=
  family == .v4 && resolver.addresses.any fun entry =>
    entry.isUnicast && entry.net?.any fun net =>
      net.length < family.bits && net.directedBroadcast == target

/-- The fixed link-layer address of a group. -/
def wellKnown? (resolver : Resolver family) (target : Address family) : Option Mac :=
  if target.isLimitedBroadcast then some Mac.broadcast
  else if target.isMulticast then some target.multicastMac
  else if resolver.isDirectedBroadcast target then some Mac.broadcast
  else none

/-- What is known without asking; the list has the hit on the cache, if it was one. -/
def lookup (resolver : Resolver family) (now : Nat) (target : Address family) :
    Option Mac × Resolver family × List Counter :=
  match resolver.wellKnown? target, resolver.cache with
  | some mac, _ => (some mac, resolver, [])
  | none, none => (none, resolver, [])
  | none, some cache =>
    let (mac, cache) := cache.get now target
    (mac, { resolver with cache := some cache }, if mac.isSome then [.resolutionHits] else [])

/-- The own address to ask from: the first whose prefix contains the target. -/
def sourceFor? (resolver : Resolver family) (target : Address family) :
    Option (Address family) :=
  (resolver.addresses.find? fun entry => entry.isUnicast && entry.reaches target).map (·.address)

/-- Ends the turn, which passes to the call that has waited longest. -/
def passTurn (resolver : Resolver family) : Resolver family × List (ResolutionEffect family) :=
  match resolver.waiting with
  | [] => ({ resolver with turn := none }, [])
  | next :: rest =>
    ({ resolver with turn := some (.granted next), waiting := rest }, [.wake next.id])

/-- Ends the turn with the outcome of its call. -/
def conclude (resolver : Resolver family) (call : CallId) (mac : Option Mac) :
    Resolver family × List (ResolutionEffect family) :=
  let (resolver, passed) := resolver.passTurn
  (resolver, passed ++ [.finish call mac])

/-- Puts the question of a turn, or gives up once its attempts are used up. -/
def ask (resolver : Resolver family) (now : Nat) (turn : ResolutionTurn family) :
    Resolver family × List (ResolutionEffect family) :=
  -- Every attempt, the last one included, waits for a whole period.
  if turn.asked < resolver.settings.attempts then
    let deadline := now + resolver.settings.retransmit
    ({ resolver with turn := some { turn with asked := turn.asked + 1, deadline } },
      [.solicit turn.call.target turn.call.source, .tally .resolutionRequests,
        .arm turn.call.id deadline])
  else
    let (resolver, effects) := resolver.conclude turn.call.id none
    (resolver, .tally .resolutionFailures :: effects)

/-- Begins a turn; a turn before it may have filled the cache. -/
def begin (resolver : Resolver family) (now : Nat) (call : ResolutionCall family) :
    Resolver family × List (ResolutionEffect family) :=
  -- The call before may have asked for the same target.
  let (mac, resolver, hits) := resolver.lookup now call.target
  let (resolver, effects) := match mac with
    | some mac => resolver.conclude call.id (some mac)
    | none => resolver.ask now (.granted call)
  (resolver, hits.map .tally ++ effects)

/-- Starts a call: it ends at once if the answer is known or the target is on no own prefix, and
else takes its turn or waits for it. -/
def start (resolver : Resolver family) (now : Nat) (id : CallId) (target : Address family) :
    Resolver family × List (ResolutionEffect family) :=
  let (mac, resolver, hits) := resolver.lookup now target
  match mac, resolver.sourceFor? target with
  | some mac, _ => (resolver, hits.map .tally ++ [.finish id (some mac)])
  -- Without an own prefix around the target there is nobody to ask.
  | none, none => (resolver, [.tally .resolutionFailures, .finish id none])
  | none, some source =>
    let call : ResolutionCall family := ⟨id, target, source⟩
    match resolver.turn with
    | none => resolver.begin now call
    -- Calls take turns even if their targets differ.
    | some _ => ({ resolver with waiting := resolver.waiting ++ [call] }, [])

/-- Looks at a call again: its turn may have come, an answer arrived or a period passed. -/
def resume (resolver : Resolver family) (now : Nat) (id : CallId) :
    Resolver family × List (ResolutionEffect family) :=
  match resolver.turn with
  | none => (resolver, [])
  | some turn =>
    if turn.call.id ≠ id then (resolver, [])
    else if turn.asked = 0 then resolver.begin now turn.call
    else match turn.answer with
      -- An answer counts even if the period is over by now.
      | some mac => resolver.conclude id (some mac)
      | none => if turn.deadline ≤ now then resolver.ask now turn else (resolver, [])

/-- Whether an answer from the link was awaited, and the resolver with it. -/
def accept (resolver : Resolver family) (now : Nat) (address : Address family) (mac : Mac) :
    Bool × Resolver family × List (ResolutionEffect family) :=
  match resolver.turn with
  | none => (false, resolver, [])
  | some turn =>
    -- An answer that nobody waits for is not even remembered.
    if turn.awaits address then
      (true,
        { resolver with
          cache := resolver.cache.map fun cache => cache.insert now address mac
          turn := some { turn with answer := some mac } },
        [.wake turn.call.id])
    else (false, resolver, [])

/-- Gives a call up, wherever it stands. -/
def cancel (resolver : Resolver family) (id : CallId) :
    Resolver family × List (ResolutionEffect family) :=
  match resolver.turn with
  | some turn =>
    -- An answer on its way to the call is lost with it.
    if turn.call.id = id then resolver.passTurn
    else ({ resolver with waiting := resolver.waiting.filter (·.id ≠ id) }, [])
  | none => (resolver, [])

/-- The resolver with an empty cache. -/
def clearCache (resolver : Resolver family) : Resolver family :=
  { resolver with cache := resolver.cache.map (·.clear) }

/-- The entries of the cache by address. -/
def cached (resolver : Resolver family) : List (Address family × Mac) :=
  (resolver.cache.map (·.sorted)).getD []

end Resolver

end NetworkLayer
