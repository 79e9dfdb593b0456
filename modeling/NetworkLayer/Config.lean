import NetworkLayer.Node.Basic
import NetworkLayer.Translation.Translator

/-! The configuration of a stack: its interfaces, routes, nodes, resolvers and translation. -/

namespace NetworkLayer

/-- How log lines look. -/
inductive LogFormat
  | pretty
  | compact
  | json
deriving DecidableEq, Repr

/-- The word for a log format. -/
def LogFormat.label : LogFormat → String
  | pretty => "pretty"
  | compact => "compact"
  | json => "json"

/-- What is logged, and how. -/
structure LoggingConfig where
  level : String := "info"
  format : LogFormat := .pretty
deriving DecidableEq, Repr

/-- Whether the level is one of the five levels, in either case. -/
def LoggingConfig.hasKnownLevel (logging : LoggingConfig) : Bool :=
  -- The levels are ASCII, so folding the case of ASCII letters is enough.
  ["error", "warn", "info", "debug", "trace"].contains logging.level.toLower

/-- A configured interface; its addresses are texts until the stack is built. -/
structure InterfaceConfig where
  /-- The device that the interface is bound to. -/
  name : String
  ipv4 : List String := []
  ipv6 : List String := []
  /-- If missing, the hardware address of the device. -/
  mac : Option String := none
deriving DecidableEq, Repr

/-- The address texts of a family. -/
def InterfaceConfig.addresses (interface : InterfaceConfig) : Family → List String
  | .v4 => interface.ipv4
  | .v6 => interface.ipv6

/-- A configured route. -/
structure StaticRoute where
  destination : String
  gateway : Option String := none
  /-- If missing, the interface of the route to the gateway. -/
  interface : Option String := none
deriving DecidableEq, Repr

/-- The family of a route; only IPv6 addresses have colons. -/
def StaticRoute.family (route : StaticRoute) : Family :=
  if route.destination.toList.contains ':' then .v6 else .v4

/-- Whether packets are forwarded, and the configured routes. -/
structure RoutingConfig where
  forwarding : Bool := false
  staticRoutes : List StaticRoute := []
deriving DecidableEq, Repr

/-- How the node of a family behaves. -/
structure FamilyConfig where
  reportsUnreachable : Bool := true
  discardsGroupEcho : Bool := false
deriving DecidableEq, Repr

/-- How next hops are resolved; times are in milliseconds. -/
structure ResolverConfig where
  cache : Bool := true
  ipv4CacheTimeout : Nat := 20000
  ipv6CacheTimeout : Nat := 60000
  retransmit : Nat := 3000
  attempts : Nat := 3
deriving DecidableEq, Repr

/-- The settings of the resolvers of a family. -/
def ResolverConfig.settings (config : ResolverConfig) (family : Family) : ResolverSettings :=
  let timeout := match family with
    | .v4 => config.ipv4CacheTimeout
    | .v6 => config.ipv6CacheTimeout
  ⟨if config.cache then some timeout else none, config.retransmit, config.attempts⟩

/-- An external port that leads inside. -/
structure MappingConfig where
  protocol : PortProtocol
  externalPort : UInt16
  internalAddress : Address .v4
  internalPort : UInt16
deriving DecidableEq

/-- Address translation between two interfaces; times are in seconds. -/
structure TranslationConfig where
  internal : String
  external : String
  /-- If missing, the first address of the external interface. -/
  externalAddress : Option (Address .v4) := none
  firstPort : UInt16 := 6200
  lastPort : UInt16 := 6299
  entryTimeout : Nat := 300
  sweepInterval : Nat := 1200
  reclaimsPorts : Bool := true
  mappings : List MappingConfig := []
deriving DecidableEq

/-- The settings of the translator. -/
def TranslationConfig.settings (config : TranslationConfig) : TranslatorConfig where
  externalAddress := config.externalAddress
  firstPort := config.firstPort
  lastPort := config.lastPort
  -- The translator counts in milliseconds.
  entryTimeout := config.entryTimeout * 1000
  sweepInterval := config.sweepInterval * 1000
  reclaimPorts := config.reclaimsPorts

/-- The configuration of a stack. -/
structure Config where
  logging : LoggingConfig := {}
  interfaces : List InterfaceConfig := []
  routing : RoutingConfig := {}
  ipv4 : FamilyConfig := {}
  ipv6 : FamilyConfig := {}
  resolver : ResolverConfig := {}
  translation : Option TranslationConfig := none
deriving DecidableEq

namespace Config

/-- The first interface of a name. -/
def interface? (config : Config) (name : String) : Option InterfaceConfig :=
  config.interfaces.find? (·.name == name)

/-- The settings of the node of a family. -/
def nodeSettings (config : Config) (family : Family) : NodeSettings :=
  let own := match family with
    | .v4 => config.ipv4
    | .v6 => config.ipv6
  ⟨config.routing.forwarding, own.reportsUnreachable, own.discardsGroupEcho⟩

end Config

end NetworkLayer
