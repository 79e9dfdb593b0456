import NetworkLayer.Config
import NetworkLayer.Toml.Document

/-!
A configuration as a TOML table. Reading takes the defaults for what is missing and ignores keys
that mean nothing; writing leaves nothing out but what is not set.
-/

namespace NetworkLayer

namespace Toml.Value

/-- A field that may be missing, with what stands for it then. -/
def withDefault {α : Type} (standard : α) (read : Value → Option α) : Option Value → Option α
  | none => some standard
  | some value => read value

/-- A field that may be missing. -/
def ifGiven {α : Type} (read : Value → Option α) : Option Value → Option (Option α)
  | none => some none
  | some value => (read value).map some

/-- The text of a field that may be missing, under its key. -/
def given (key : String) (value : Option String) : List (String × Value) :=
  value.toList.map fun content => (key, .text content)

/-- An array of texts. -/
def texts (items : List String) : Value := .array (items.map .text)

/-- A 16-bit number. -/
def port? (value : Value) : Option UInt16 := (value.natural? (1 <<< 16)).map .ofNat

/-- An integer that is not negative. -/
def natural (number : Nat) : Value := .integer number

/-- The one of some alternatives whose label is given. -/
def labelled? {α : Type} (label : α → String) (all : List α) (value : Value) : Option α := do
  let name ← value.variant?
  all.find? (label · == name)

end Toml.Value

open Toml (Value)

namespace LoggingConfig

/-- Reads the logging section. -/
def decode? (value : Value) : Option LoggingConfig := do
  let field ← value.record? ["level", "format"]
  let standard : LoggingConfig := {}
  return ⟨← Value.withDefault standard.level Value.text? (field "level"),
    ← Value.withDefault standard.format
      (Value.labelled? LogFormat.label [.pretty, .compact, .json]) (field "format")⟩

/-- Writes the logging section. -/
def encode (logging : LoggingConfig) : Value :=
  .table [("level", .text logging.level), ("format", .text logging.format.label)]

end LoggingConfig

namespace InterfaceConfig

/-- Reads an interface. -/
def decode? (value : Value) : Option InterfaceConfig := do
  let field ← value.record? ["name", "ipv4", "ipv6", "mac"]
  return ⟨← (field "name").bind Value.text?,
    ← Value.withDefault [] (Value.list? Value.text?) (field "ipv4"),
    ← Value.withDefault [] (Value.list? Value.text?) (field "ipv6"),
    ← Value.ifGiven Value.text? (field "mac")⟩

/-- Writes an interface. -/
def encode (interface : InterfaceConfig) : Value :=
  .table ([("name", .text interface.name), ("ipv4", .texts interface.ipv4),
    ("ipv6", .texts interface.ipv6)] ++ Value.given "mac" interface.mac)

end InterfaceConfig

namespace StaticRoute

/-- Reads a route. -/
def decode? (value : Value) : Option StaticRoute := do
  let field ← value.record? ["destination", "gateway", "interface"]
  return ⟨← (field "destination").bind Value.text?,
    ← Value.ifGiven Value.text? (field "gateway"),
    ← Value.ifGiven Value.text? (field "interface")⟩

/-- Writes a route. -/
def encode (route : StaticRoute) : Value :=
  .table ([("destination", .text route.destination)] ++ Value.given "gateway" route.gateway ++
    Value.given "interface" route.interface)

end StaticRoute

namespace RoutingConfig

/-- Reads the routing section. -/
def decode? (value : Value) : Option RoutingConfig := do
  let field ← value.record? ["forwarding", "static_routes"]
  return ⟨← Value.withDefault false Value.boolean? (field "forwarding"),
    ← Value.withDefault [] (Value.list? StaticRoute.decode?) (field "static_routes")⟩

/-- Writes the routing section. -/
def encode (routing : RoutingConfig) : Value :=
  .table [("forwarding", .boolean routing.forwarding),
    ("static_routes", .array (routing.staticRoutes.map StaticRoute.encode))]

end RoutingConfig

namespace FamilyConfig

/-- Reads the section of a family. -/
def decode? (value : Value) : Option FamilyConfig := do
  let field ← value.record? ["send_icmp_dest_unreachable", "discard_broadcast_echo_requests"]
  let standard : FamilyConfig := {}
  return ⟨← Value.withDefault standard.reportsUnreachable Value.boolean?
      (field "send_icmp_dest_unreachable"),
    ← Value.withDefault standard.discardsGroupEcho Value.boolean?
      (field "discard_broadcast_echo_requests")⟩

/-- Writes the section of a family. -/
def encode (config : FamilyConfig) : Value :=
  .table [("send_icmp_dest_unreachable", .boolean config.reportsUnreachable),
    ("discard_broadcast_echo_requests", .boolean config.discardsGroupEcho)]

end FamilyConfig

namespace ResolverConfig

/-- Reads the resolver section. -/
def decode? (value : Value) : Option ResolverConfig := do
  let field ← value.record? ["cache", "ipv4_cache_timeout_ms", "ipv6_cache_timeout_ms",
    "retransmit_timeout_ms", "max_attempts"]
  let standard : ResolverConfig := {}
  let duration := Value.natural? (1 <<< 64)
  return ⟨← Value.withDefault standard.cache Value.boolean? (field "cache"),
    ← Value.withDefault standard.ipv4CacheTimeout duration (field "ipv4_cache_timeout_ms"),
    ← Value.withDefault standard.ipv6CacheTimeout duration (field "ipv6_cache_timeout_ms"),
    ← Value.withDefault standard.retransmit duration (field "retransmit_timeout_ms"),
    ← Value.withDefault standard.attempts (Value.natural? (1 <<< 32)) (field "max_attempts")⟩

/-- Writes the resolver section. -/
def encode (config : ResolverConfig) : Value :=
  .table [("cache", .boolean config.cache),
    ("ipv4_cache_timeout_ms", .natural config.ipv4CacheTimeout),
    ("ipv6_cache_timeout_ms", .natural config.ipv6CacheTimeout),
    ("retransmit_timeout_ms", .natural config.retransmit),
    ("max_attempts", .natural config.attempts)]

end ResolverConfig

/-- Reads the text of an IPv4 address. -/
def Address.decode? (value : Value) : Option (Address .v4) := do
  Address.parse? .v4 (← value.text?).toList

namespace MappingConfig

/-- Reads a static mapping. -/
def decode? (value : Value) : Option MappingConfig := do
  let field ← value.record? ["protocol", "external_port", "internal_address", "internal_port"]
  return ⟨← (field "protocol").bind (Value.labelled? PortProtocol.label [.udp, .tcp]),
    ← (field "external_port").bind Value.port?,
    ← (field "internal_address").bind Address.decode?,
    ← (field "internal_port").bind Value.port?⟩

/-- Writes a static mapping. -/
def encode (mapping : MappingConfig) : Value :=
  .table [("protocol", .text mapping.protocol.label),
    ("external_port", .natural mapping.externalPort.toNat),
    ("internal_address", .text mapping.internalAddress.render),
    ("internal_port", .natural mapping.internalPort.toNat)]

end MappingConfig

namespace TranslationConfig

/-- Reads the translation section. -/
def decode? (value : Value) : Option TranslationConfig := do
  let field ← value.record? ["internal", "external", "external_address", "port_range_start",
    "port_range_end", "entry_timeout_secs", "sweep_interval_secs", "reclaim_ports",
    "static_mappings"]
  let internal ← (field "internal").bind Value.text?
  let external ← (field "external").bind Value.text?
  let standard : TranslationConfig := { internal, external }
  let duration := Value.natural? (1 <<< 64)
  return ⟨internal, external, ← Value.ifGiven Address.decode? (field "external_address"),
    ← Value.withDefault standard.firstPort Value.port? (field "port_range_start"),
    ← Value.withDefault standard.lastPort Value.port? (field "port_range_end"),
    ← Value.withDefault standard.entryTimeout duration (field "entry_timeout_secs"),
    ← Value.withDefault standard.sweepInterval duration (field "sweep_interval_secs"),
    ← Value.withDefault standard.reclaimsPorts Value.boolean? (field "reclaim_ports"),
    ← Value.withDefault [] (Value.list? MappingConfig.decode?) (field "static_mappings")⟩

/-- Writes the translation section. -/
def encode (config : TranslationConfig) : Value :=
  .table ([("internal", .text config.internal), ("external", .text config.external)] ++
    Value.given "external_address" (config.externalAddress.map Address.render) ++
    [("port_range_start", .natural config.firstPort.toNat),
      ("port_range_end", .natural config.lastPort.toNat),
      ("entry_timeout_secs", .natural config.entryTimeout),
      ("sweep_interval_secs", .natural config.sweepInterval),
      ("reclaim_ports", .boolean config.reclaimsPorts),
      ("static_mappings", .array (config.mappings.map MappingConfig.encode))])

end TranslationConfig

namespace Config

/-- Reads a configuration. -/
def decode? (value : Value) : Option Config := do
  let field ← value.record? ["logging", "interfaces", "routing", "ipv4", "ipv6", "resolver", "nat"]
  return ⟨← Value.withDefault {} LoggingConfig.decode? (field "logging"),
    ← Value.withDefault [] (Value.list? InterfaceConfig.decode?) (field "interfaces"),
    ← Value.withDefault {} RoutingConfig.decode? (field "routing"),
    ← Value.withDefault {} FamilyConfig.decode? (field "ipv4"),
    ← Value.withDefault {} FamilyConfig.decode? (field "ipv6"),
    ← Value.withDefault {} ResolverConfig.decode? (field "resolver"),
    ← Value.ifGiven TranslationConfig.decode? (field "nat")⟩

/-- The entries of a configuration. -/
def encode (config : Config) : List (String × Value) :=
  [("logging", config.logging.encode),
    ("interfaces", .array (config.interfaces.map InterfaceConfig.encode)),
    ("routing", config.routing.encode), ("ipv4", config.ipv4.encode),
    ("ipv6", config.ipv6.encode), ("resolver", config.resolver.encode)] ++
    config.translation.toList.map fun translation => ("nat", translation.encode)

/-- Reads the text of a configuration. -/
def parse (text : String) : Except Error Config :=
  -- The text has to be well formed as a whole before any section is read.
  match (Toml.parse text).bind fun entries => decode? (.table entries) with
  | some config => .ok config
  | none => .error .configText

end Config

end NetworkLayer
