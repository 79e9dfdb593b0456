import NetworkLayer.Proofs.Address.Colons
import NetworkLayer.Proofs.Toml.Records

/-!
The sections of a configuration as TOML tables. Main statements: each section can be written, and it
is read back from the table that a written document holds for it.
-/

namespace NetworkLayer

open Toml (Value Writable)

/-- The logging section reads back. -/
theorem LoggingConfig.decode?_settled (logging : LoggingConfig) :
    decode? logging.encode.settled = some logging := by
  -- Each label names its own format.
  have format : Value.labelled? LogFormat.label [.pretty, .compact, .json]
      (.text logging.format.label) = some logging.format := by
    cases logging.format <;> rfl
  rw [decode?, encode]
  refine Value.bind_record? (by simp) fun field found => ?_
  simp [found, Value.lookup_of_ne, Value.withDefault_some, Value.text?, format]

/-- The logging section can be written. -/
theorem LoggingConfig.writable_encode (levels : Nat) (logging : LoggingConfig) :
    Writable (levels + 1) logging.encode :=
  .flat (by simp) (by simp)

/-- An interface reads back. -/
theorem InterfaceConfig.decode?_settled (interface : InterfaceConfig) :
    decode? interface.encode.settled = some interface := by
  rw [decode?, encode]
  refine Value.bind_record? ?_ fun field found => ?_
  · -- The address is the one field that may be missing.
    cases interface.mac <;> simp [Value.given]
  · rcases interface with ⟨name, ipv4, ipv6, _ | mac⟩ <;>
      simp [found, Value.lookup_of_ne, Value.withDefault_some, Value.ifGiven, Value.given,
        Value.text?, Value.list?_texts]

/-- The interfaces can be written. -/
theorem InterfaceConfig.writable_encode (levels : Nat) (interfaces : List InterfaceConfig) :
    Writable (levels + 1) (.array (interfaces.map encode)) := by
  refine .records _ (fun interface => ?_) (fun interface => ?_) interfaces
  · cases interface.mac <;> simp [Value.given]
  · exact List.forall_mem_append.mpr ⟨by simp [Value.plain_texts], Value.plain_given _ _⟩

/-- A route reads back. -/
theorem StaticRoute.decode?_settled (route : StaticRoute) :
    decode? route.encode.settled = some route := by
  rw [decode?, encode]
  refine Value.bind_record? ?_ fun field found => ?_
  · cases route.gateway <;> cases route.interface <;> simp [Value.given]
  · rcases route with ⟨destination, _ | gateway, _ | interface⟩ <;>
      simp [found, Value.lookup_of_ne, Value.ifGiven, Value.given, Value.text?]

/-- The routes can be written. -/
theorem StaticRoute.writable_encode (levels : Nat) (routes : List StaticRoute) :
    Writable (levels + 1) (.array (routes.map encode)) := by
  refine .records _ (fun route => ?_) (fun route => ?_) routes
  · cases route.gateway <;> cases route.interface <;> simp [Value.given]
  · exact List.forall_mem_append.mpr
      ⟨List.forall_mem_append.mpr ⟨by simp, Value.plain_given _ _⟩, Value.plain_given _ _⟩

/-- The routing section reads back. -/
theorem RoutingConfig.decode?_settled (routing : RoutingConfig) :
    decode? routing.encode.settled = some routing := by
  have routes : Value.list? StaticRoute.decode?
      (Value.settled (.array (routing.staticRoutes.map StaticRoute.encode))) =
        some routing.staticRoutes :=
    Value.list?_settled _ StaticRoute.decode?_settled routing.staticRoutes
  rw [decode?, encode]
  refine Value.bind_record? (by simp) fun field found => ?_
  simp [found, Value.lookup_of_ne, Value.withDefault_some, Value.boolean?, routes]

/-- The routing section can be written. -/
theorem RoutingConfig.writable_encode (levels : Nat) (routing : RoutingConfig) :
    Writable (levels + 2) routing.encode := by
  refine .table (by simp) (.inr ⟨("forwarding", .boolean routing.forwarding), by simp, rfl⟩) ?_
  simp only [List.forall_mem_cons]
  exact ⟨.plain trivial, StaticRoute.writable_encode levels _, by simp⟩

/-- The section of a family reads back. -/
theorem FamilyConfig.decode?_settled (config : FamilyConfig) :
    decode? config.encode.settled = some config := by
  rw [decode?, encode]
  refine Value.bind_record? (by simp) fun field found => ?_
  simp [found, Value.lookup_of_ne, Value.withDefault_some, Value.boolean?]

/-- The section of a family can be written. -/
theorem FamilyConfig.writable_encode (levels : Nat) (config : FamilyConfig) :
    Writable (levels + 1) config.encode :=
  .flat (by simp) (by simp)

/-- Whether the numbers of a resolver section can be written in a document. -/
structure ResolverConfig.Fits (config : ResolverConfig) : Prop where
  ipv4CacheTimeout : config.ipv4CacheTimeout < 0x8000000000000000
  ipv6CacheTimeout : config.ipv6CacheTimeout < 0x8000000000000000
  retransmit : config.retransmit < 0x8000000000000000
  attempts : config.attempts < 0x100000000

/-- A duration that can be written reads back. -/
theorem Toml.Value.duration_natural {number : Nat} (small : number < 0x8000000000000000) :
    natural? (1 <<< 64) (natural number) = some number :=
  natural?_natural (Nat.lt_trans small (by decide))

/-- The resolver section reads back. -/
theorem ResolverConfig.decode?_settled {config : ResolverConfig} (fits : config.Fits) :
    decode? config.encode.settled = some config := by
  obtain ⟨ipv4, ipv6, retransmit, attempts⟩ := fits
  -- The count is the only number with a bound of its own.
  have count : Value.natural? (1 <<< 32) (.natural config.attempts) = some config.attempts :=
    Value.natural?_natural attempts
  rw [decode?, encode]
  -- Every field is found under its own name, so the settled values come back one by one.
  refine Value.bind_record? (by simp) fun field found => ?_
  simp only [found, Value.lookup_of_ne, List.lookup_cons_self, Option.map_some, ne_eq,
    String.reduceEq, not_false_eq_true, Value.settled_boolean, Value.settled_natural,
    Value.withDefault_some, Value.boolean?, Value.duration_natural ipv4,
    Value.duration_natural ipv6, Value.duration_natural retransmit, count]
  rfl

/-- The resolver section can be written if its numbers can. -/
theorem ResolverConfig.writable_encode (levels : Nat) {config : ResolverConfig}
    (fits : config.Fits) : Writable (levels + 1) config.encode := by
  obtain ⟨ipv4, ipv6, retransmit, attempts⟩ := fits
  refine .flat (by simp) ?_
  simp only [List.forall_mem_cons]
  exact ⟨trivial, Value.plain_natural ipv4, Value.plain_natural ipv6,
    Value.plain_natural retransmit, Value.plain_natural (Nat.lt_trans attempts (by decide)),
    by simp⟩

/-- The text of an address reads back. -/
theorem Address.decode?_render (address : Address .v4) :
    decode? (.text address.render) = some address := by
  have read : decode? (.text address.render) = parse? .v4 address.render.toList := by
    rw [decode?, Value.text?, Option.bind_eq_bind, Option.bind_some]
  exact read.trans (parse?_render address)

/-- A static mapping reads back. -/
theorem MappingConfig.decode?_settled (mapping : MappingConfig) :
    decode? mapping.encode.settled = some mapping := by
  -- Both protocols are found by their label.
  have protocol : Value.labelled? PortProtocol.label [.udp, .tcp]
      (.text mapping.protocol.label) = some mapping.protocol := by
    cases mapping.protocol <;> rfl
  rw [decode?, encode]
  refine Value.bind_record? (by simp) fun field found => ?_
  simp only [found, Value.lookup_of_ne, List.lookup_cons_self, Option.map_some, ne_eq,
    String.reduceEq, not_false_eq_true, Value.settled_text, Value.settled_natural,
    Value.bind_field, protocol, Value.port?_natural, Address.decode?_render]
  rfl

/-- The static mappings can be written. -/
theorem MappingConfig.writable_encode (levels : Nat) (mappings : List MappingConfig) :
    Writable (levels + 1) (.array (mappings.map encode)) :=
  .records _ (fun mapping => by simp) (fun mapping => by simp [Value.plain_port]) mappings

/-- Whether the numbers of a translation section can be written in a document. -/
structure TranslationConfig.Fits (config : TranslationConfig) : Prop where
  entryTimeout : config.entryTimeout < 0x8000000000000000
  sweepInterval : config.sweepInterval < 0x8000000000000000

/-- The translation section reads back. -/
theorem TranslationConfig.decode?_settled {config : TranslationConfig} (fits : config.Fits) :
    decode? config.encode.settled = some config := by
  obtain ⟨entryTimeout, sweepInterval⟩ := fits
  -- The mappings are read one by one, each as it was written.
  have mappings : Value.list? MappingConfig.decode?
      (Value.settled (.array (config.mappings.map MappingConfig.encode))) = some config.mappings :=
    Value.list?_settled _ MappingConfig.decode?_settled config.mappings
  rw [decode?, encode]
  refine Value.bind_record? ?_ fun field found => ?_
  · cases config.externalAddress <;> simp [Value.given]
  · -- The address is there only if it was given, so its field is looked at apart.
    have address : Value.ifGiven Address.decode? (field "external_address") =
        some config.externalAddress := by
      rw [found]
      cases config.externalAddress with
      | none => simp [Value.given, Value.lookup_of_ne, Value.ifGiven]
      | some address =>
        simp [Value.given, Value.lookup_of_ne, Value.ifGiven, Address.decode?_render]
    generalize field "external_address" = text at address ⊢
    simp only [address, found, Value.lookup_given_of_ne, List.cons_append, List.nil_append,
      Value.lookup_of_ne, List.lookup_cons_self, Option.map_some, ne_eq, String.reduceEq,
      not_false_eq_true, Value.settled_text, Value.settled_boolean, Value.settled_natural,
      Value.withDefault_some, Value.bind_field, Value.text?, Value.boolean?, Value.port?_natural,
      Value.duration_natural entryTimeout, Value.duration_natural sweepInterval, mappings]
    rfl

/-- The translation section can be written if its numbers can. -/
theorem TranslationConfig.writable_encode (levels : Nat) {config : TranslationConfig}
    (fits : config.Fits) : Writable (levels + 2) config.encode := by
  obtain ⟨entryTimeout, sweepInterval⟩ := fits
  refine .table ?_ (.inr ⟨("internal", .text config.internal), by simp, rfl⟩) ?_
  · -- A field that is left out still leaves the names distinct.
    cases config.externalAddress <;> simp [Value.given]
  · -- The entries in front, the address and those behind are plain, but for the mappings.
    refine List.forall_mem_append.mpr ⟨List.forall_mem_append.mpr ⟨?_, ?_⟩, ?_⟩
    · simp only [List.forall_mem_cons]
      exact ⟨.plain trivial, .plain trivial, by simp⟩
    · exact fun entry listed => .plain (Value.plain_given _ _ entry listed)
    · simp only [List.forall_mem_cons]
      exact ⟨.plain (Value.plain_port _), .plain (Value.plain_port _),
        .plain (Value.plain_natural entryTimeout), .plain (Value.plain_natural sweepInterval),
        .plain trivial, MappingConfig.writable_encode levels _, by simp⟩

end NetworkLayer
