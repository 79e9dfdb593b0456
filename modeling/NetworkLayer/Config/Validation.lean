import NetworkLayer.Config

/-!
What is wrong or worth a warning in a configuration. A finding names its place; the findings come
in the order of the sections, and within a section in the order of its entries.
-/

namespace NetworkLayer

/-- A side of the translation. -/
inductive TranslationSide
  | internal
  | external
deriving DecidableEq, Repr

/-- The key of a side. -/
def TranslationSide.label : TranslationSide → String
  | internal => "internal"
  | external => "external"

/-- Something wrong or worth a warning. -/
inductive Finding
  /-- The log level is none of the five. -/
  | unknownLevel (level : String)
  /-- There is no interface. -/
  | noInterfaces
  /-- An interface has no name. -/
  | emptyName (index : Nat)
  /-- An interface has the name of one before it. -/
  | repeatedName (index : Nat) (name : String)
  /-- An interface has no address. -/
  | unusedInterface (name : String)
  /-- An address of an interface is that of a group. -/
  | groupAddress (interface : String) (family : Family) (text : String)
  /-- An address of an interface has no length, and so no on-link prefix. -/
  | addressLength (interface : String) (family : Family) (text : String)
  /-- An address of an interface is malformed. -/
  | address (interface : String) (family : Family) (cause : Error)
  /-- The link-layer address of an interface is that of a group. -/
  | groupMac (interface text : String)
  /-- The link-layer address of an interface is malformed. -/
  | mac (interface text : String)
  /-- A route is over an interface that is not there. -/
  | routeInterface (index : Nat) (name : String)
  /-- A route has neither a gateway nor an interface. -/
  | routeTarget (index : Nat)
  /-- The destination of a route is malformed. -/
  | destination (index : Nat) (cause : Error)
  /-- The gateway of a route is a group. -/
  | groupGateway (index : Nat) (text : String)
  /-- The gateway of a route is no address of the family of its destination. -/
  | gateway (index : Nat) (family : Family) (text : String)
  /-- Resolvers may not ask. -/
  | noAttempts
  /-- Resolvers do not wait for answers. -/
  | noRetransmit
  /-- Resolvers remember nothing. -/
  | cacheOff
  /-- A side of the translation is not there. -/
  | sideInterface (side : TranslationSide) (name : String)
  /-- A side of the translation has no IPv4 address. -/
  | sideAddress (side : TranslationSide) (name : String)
  /-- Both sides of the translation are one interface. -/
  | sameSides (name : String)
  /-- The port range begins with a port that cannot be used. -/
  | zeroFirstPort
  /-- The port range is empty. -/
  | emptyRange (first last : UInt16)
  /-- Flows expire at once. -/
  | noEntryTimeout
  /-- Ports do not come back. -/
  | portsNotReclaimed
  /-- The translation makes a host a router. -/
  | forwardingOff
  /-- A mapping has the protocol and the external port of one before it. -/
  | mappedTwice (index : Nat) (port : UInt16)
  /-- A mapping takes its external port from the pool. -/
  | mappedFromPool (index : Nat) (port : UInt16)
  /-- A mapping has a port that cannot be used. -/
  | zeroMappedPort (index : Nat)
deriving DecidableEq, Repr

namespace Finding

/-- Whether a finding is only a warning. -/
def isWarning : Finding → Bool
  | unknownLevel _ | noInterfaces | unusedInterface _ | addressLength .. | cacheOff => true
  | noEntryTimeout | portsNotReclaimed | forwardingOff | mappedFromPool .. => true
  | _ => false

/-- The place of an interface entry. -/
def interfaceKey (name key : String) : String := "interfaces." ++ name ++ "." ++ key ++ ": "

/-- The place of a route. -/
def routeKey (index : Nat) : String :=
  "routing.static_routes[" ++ Text.decimal index ++ "]: "

/-- The place of a mapping. -/
def mappingKey (index : Nat) : String :=
  "nat.static_mappings[" ++ Text.decimal index ++ "]: "

/-- The wording of a finding. -/
def message : Finding → String
  | unknownLevel level => "logging.level: unknown level '" ++ level ++ "', using info"
  | noInterfaces => "interfaces: none configured"
  | emptyName index => "interfaces[" ++ Text.decimal index ++ "]: name is empty"
  | repeatedName index name =>
    "interfaces[" ++ Text.decimal index ++ "]: duplicate name '" ++ name ++ "'"
  | unusedInterface name => "interfaces." ++ name ++ ": no addresses, interface unused"
  | groupAddress interface family text =>
    interfaceKey interface family.label ++ text ++ " is not a unicast address"
  | addressLength interface family text =>
    interfaceKey interface family.label ++ text ++ " has no prefix length, no connected route"
  | address interface family cause => interfaceKey interface family.label ++ cause.message
  | groupMac interface text => interfaceKey interface "mac" ++ text ++ " is a group address"
  | mac interface text => interfaceKey interface "mac" ++ "invalid address '" ++ text ++ "'"
  | routeInterface index name => routeKey index ++ "interface '" ++ name ++ "' not defined"
  | routeTarget index => routeKey index ++ "needs a gateway or an interface"
  | destination index cause => routeKey index ++ "destination: " ++ cause.message
  | groupGateway index text => routeKey index ++ "gateway " ++ text ++ " is a multicast address"
  | gateway index family text =>
    routeKey index ++ "gateway '" ++ text ++ "' is not an " ++ family.label ++ " address"
  | noAttempts => "resolver.max_attempts: must be at least 1"
  | noRetransmit => "resolver.retransmit_timeout_ms: must be positive"
  | cacheOff => "resolver.cache: disabled, every send resolves its next hop"
  | sideInterface side name => "nat." ++ side.label ++ ": interface '" ++ name ++ "' not defined"
  | sideAddress side name =>
    "nat." ++ side.label ++ ": interface '" ++ name ++ "' has no ipv4 address"
  | sameSides name => "nat: internal and external are the same interface '" ++ name ++ "'"
  | zeroFirstPort => "nat.port_range_start: port 0 cannot be allocated"
  | emptyRange first last =>
    "nat: empty port range " ++ Text.decimal first.toNat ++ "-" ++ Text.decimal last.toNat
  | noEntryTimeout => "nat.entry_timeout_secs: 0 expires every entry immediately"
  | portsNotReclaimed => "nat.reclaim_ports: disabled, the port pool drains as flows expire"
  | forwardingOff => "nat: enables forwarding although routing.forwarding is false"
  | mappedTwice index port =>
    mappingKey index ++ "external port " ++ Text.decimal port.toNat ++ " mapped twice"
  | mappedFromPool index port =>
    mappingKey index ++ "external port " ++ Text.decimal port.toNat ++
      " is taken out of the dynamic pool"
  | zeroMappedPort index => mappingKey index ++ "port 0"

end Finding

/-- A finding if a condition holds. -/
def Finding.onlyIf (condition : Bool) (finding : Finding) : List Finding :=
  if condition then [finding] else []

open Finding (onlyIf)

/-- The findings on the logging section. -/
def LoggingConfig.findings (logging : LoggingConfig) : List Finding :=
  onlyIf (!logging.hasKnownLevel) (.unknownLevel logging.level)

namespace InterfaceConfig

/-- The findings on an address. -/
def addressFindings (interface : InterfaceConfig) (family : Family) (text : String) :
    List Finding :=
  match InterfaceAddress.parse family text with
  | .error cause => [.address interface.name family cause]
  | .ok entry =>
    if !entry.isUnicast then [.groupAddress interface.name family text]
    else onlyIf entry.length.isNone (.addressLength interface.name family text)

/-- The findings on the link-layer address. -/
def macFindings (interface : InterfaceConfig) : List Finding :=
  match interface.mac with
  | none => []
  | some text =>
    match Mac.parse? text with
    | none => [.mac interface.name text]
    | some mac => onlyIf mac.isMulticast (.groupMac interface.name text)

/-- The findings on an interface behind others. -/
def findings (before : List InterfaceConfig) (index : Nat) (interface : InterfaceConfig) :
    List Finding :=
  let name :=
    -- Two interfaces without a name are not called duplicates as well.
    if interface.name = "" then [.emptyName index]
    else onlyIf (before.any (·.name == interface.name)) (.repeatedName index interface.name)
  name ++
    onlyIf (interface.ipv4.isEmpty && interface.ipv6.isEmpty)
      (.unusedInterface interface.name) ++
    interface.ipv4.flatMap (interface.addressFindings .v4) ++
    interface.ipv6.flatMap (interface.addressFindings .v6) ++ interface.macFindings

end InterfaceConfig

namespace StaticRoute

/-- The findings on the gateway. -/
def gatewayFindings (route : StaticRoute) (index : Nat) : List Finding :=
  match route.gateway with
  | none => []
  | some text =>
    match Address.parse? route.family text.toList with
    | none => [.gateway index route.family text]
    | some gateway => onlyIf gateway.isMulticast (.groupGateway index text)

/-- The findings on a route of a configuration. -/
def findings (config : Config) (index : Nat) (route : StaticRoute) : List Finding :=
  let interface := match route.interface with
    -- A named interface is enough; a gateway alone leads to its interface later.
    | some name => onlyIf (config.interface? name).isNone (.routeInterface index name)
    | none => onlyIf route.gateway.isNone (.routeTarget index)
  let destination := match Destination.parse route.family route.destination with
    | .error cause => [.destination index cause]
    | .ok _ => []
  interface ++ destination ++ route.gatewayFindings index

end StaticRoute

/-- The findings on the resolver section. -/
def ResolverConfig.findings (config : ResolverConfig) : List Finding :=
  onlyIf (config.attempts = 0) .noAttempts ++ onlyIf (config.retransmit = 0) .noRetransmit ++
    onlyIf (!config.cache) .cacheOff

namespace TranslationConfig

/-- The findings on a side. -/
def sideFindings (config : Config) (side : TranslationSide) (name : String) : List Finding :=
  match config.interface? name with
  | none => [.sideInterface side name]
  | some interface => onlyIf interface.ipv4.isEmpty (.sideAddress side name)

/-- The findings on a mapping behind others. -/
def mappingFindings (translation : TranslationConfig) (before : List MappingConfig) (index : Nat)
    (mapping : MappingConfig) : List Finding :=
  let port := mapping.externalPort
  let clashes := fun (other : MappingConfig) =>
    other.protocol == mapping.protocol && other.externalPort == port
  onlyIf (before.any clashes) (.mappedTwice index port) ++
    onlyIf (translation.firstPort ≤ port && port ≤ translation.lastPort)
      (.mappedFromPool index port) ++
    onlyIf (port == 0 || mapping.internalPort == 0) (.zeroMappedPort index)

/-- The findings on the translation section of a configuration. -/
def findings (config : Config) (translation : TranslationConfig) : List Finding :=
  sideFindings config .internal translation.internal ++
    sideFindings config .external translation.external ++
    onlyIf (translation.internal = translation.external) (.sameSides translation.internal) ++
    onlyIf (translation.firstPort = 0) .zeroFirstPort ++
    onlyIf (translation.lastPort < translation.firstPort)
      (.emptyRange translation.firstPort translation.lastPort) ++
    onlyIf (translation.entryTimeout = 0) .noEntryTimeout ++
    onlyIf (!translation.reclaimsPorts) .portsNotReclaimed ++
    onlyIf (!config.routing.forwarding) .forwardingOff ++
    (translation.mappings.zipIdx.flatMap fun (mapping, index) =>
      translation.mappingFindings (translation.mappings.take index) index mapping)

end TranslationConfig

namespace Config

/-- The findings on a configuration. -/
def findings (config : Config) : List Finding :=
  config.logging.findings ++ onlyIf config.interfaces.isEmpty .noInterfaces ++
    (config.interfaces.zipIdx.flatMap fun (interface, index) =>
      interface.findings (config.interfaces.take index) index) ++
    (config.routing.staticRoutes.zipIdx.flatMap fun (route, index) =>
      route.findings config index) ++
    config.resolver.findings ++
    config.translation.toList.flatMap (TranslationConfig.findings config)

/-- The warnings among the findings. -/
def warnings (config : Config) : List Finding := config.findings.filter (·.isWarning)

/-- The errors among the findings. -/
def errors (config : Config) : List Finding := config.findings.filter (!·.isWarning)

end Config

end NetworkLayer
