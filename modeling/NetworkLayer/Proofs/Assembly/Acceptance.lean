import NetworkLayer.Config.Validation

/-!
What a configuration satisfies in which no error is found: its texts spell what they stand for, and what
its routes and its translation name is there.
-/

namespace NetworkLayer

/-- A finding that depends on a condition is made exactly if the condition holds. -/
@[simp] theorem Finding.mem_onlyIf {condition : Bool} {finding other : Finding} :
    finding ∈ Finding.onlyIf condition other ↔ condition ∧ finding = other := by
  cases condition <;> simp [Finding.onlyIf]

/-- A route that can be put in place but for its gateway. -/
structure StaticRoute.Sound (config : Config) (route : StaticRoute) : Prop where
  destination : ∃ destination, Destination.parse route.family route.destination = .ok destination
  gateway : ∀ text, route.gateway = some text →
    ∃ gateway, Address.parse? route.family text.toList = some gateway
  interface : ∀ name, route.interface = some name →
    ∃ interface, config.interface? name = some interface
  leads : route.interface = none → ∃ text, route.gateway = some text

/-- A translation that can be put in place. -/
structure TranslationConfig.Sound (config : Config) (translation : TranslationConfig) : Prop where
  internal : ∃ interface, config.interface? translation.internal = some interface ∧
    interface.ipv4 ≠ []
  external : ∃ interface, config.interface? translation.external = some interface ∧
    interface.ipv4 ≠ []
  apart : translation.internal ≠ translation.external
  firstPort : translation.firstPort ≠ 0
  portRange : ¬ translation.lastPort < translation.firstPort

namespace Config

variable {config : Config}

/-- What is found on an entry is among what is found on the entries. -/
theorem mem_findings_of_entry {α : Type} {entries : List α} {entry : α}
    (found : α × Nat → List Finding) (member : entry ∈ entries) :
    ∃ index, found (entry, index) ⊆ entries.zipIdx.flatMap found := by
  obtain ⟨index, within, rfl⟩ := List.getElem_of_mem member
  refine ⟨index, fun finding here => List.mem_flatMap.mpr ⟨_, ?_, here⟩⟩
  rw [List.mem_zipIdx_iff_getElem?]
  exact List.getElem?_eq_getElem within

/-- Where there is no error, all that is found is a warning. -/
theorem isWarning_of_accepted (accepted : config.errors = []) {findings : List Finding}
    (part : findings ⊆ config.findings) {finding : Finding} (found : finding ∈ findings) :
    finding.isWarning := by
  have kept := List.filter_eq_nil_iff.mp accepted finding (part found)
  simpa using kept

/-- Each address of an interface spells one of a station. -/
theorem address_of_accepted (accepted : config.errors = []) {interface : InterfaceConfig}
    (member : interface ∈ config.interfaces) {family : Family} {text : String}
    (listed : text ∈ interface.addresses family) :
    ∃ entry, InterfaceAddress.parse family text = .ok entry ∧ entry.isUnicast := by
  obtain ⟨index, part⟩ := mem_findings_of_entry (fun entry =>
    entry.1.findings (config.interfaces.take entry.2) entry.2) member
  -- What is found on one address is found on the configuration, so it is all warnings.
  have own : interface.addressFindings family text ⊆ config.findings := by
    intro finding found
    have here : finding ∈ interface.findings (config.interfaces.take index) index := by
      cases family with
      | v4 =>
        have among := List.mem_flatMap_of_mem listed found
        simp only [InterfaceConfig.addresses] at among
        simp only [InterfaceConfig.findings, List.mem_append]
        exact .inl (.inl (.inr among))
      | v6 =>
        have among := List.mem_flatMap_of_mem listed found
        simp only [InterfaceConfig.addresses] at among
        simp only [InterfaceConfig.findings, List.mem_append]
        exact .inl (.inr among)
    simp only [Config.findings, List.mem_append]
    exact .inl (.inl (.inl (.inr (part here))))
  have warns : ∀ finding ∈ interface.addressFindings family text, finding.isWarning :=
    fun _ => isWarning_of_accepted accepted own
  cases read : InterfaceAddress.parse family text with
  | error cause =>
    have wrong := warns (.address interface.name family cause)
      -- A finding on the text of an accepted configuration would be an error and not a warning.
      (by simp [InterfaceConfig.addressFindings, read])
    cases wrong
  | ok entry =>
    refine ⟨entry, rfl, ?_⟩
    cases single : entry.isUnicast with
    | true => rfl
    | false =>
      -- The second thing that may be found on an address is that it is a group.
      have wrong := warns (.groupAddress interface.name family text)
        (by simp [InterfaceConfig.addressFindings, read, single])
      cases wrong

/-- A route lacks nothing but perhaps a way to its gateway. -/
theorem route_of_accepted (accepted : config.errors = []) {route : StaticRoute}
    (member : route ∈ config.routing.staticRoutes) : route.Sound config := by
  obtain ⟨index, part⟩ := mem_findings_of_entry (fun entry => entry.1.findings config entry.2) member
  -- All that is found on the route is among the findings on the configuration.
  have own : route.findings config index ⊆ config.findings := by
    intro finding found
    simp only [Config.findings, List.mem_append]
    exact .inl (.inl (.inr (part found)))
  have warns : ∀ finding ∈ route.findings config index, finding.isWarning :=
    fun _ => isWarning_of_accepted accepted own
  -- Each thing that is missing would be an error.
  refine ⟨?_, ?_, ?_, ?_⟩
  · cases read : Destination.parse route.family route.destination with
    | error cause =>
      have wrong := warns (.destination index cause) (by simp [StaticRoute.findings, read])
      cases wrong
    | ok destination => exact ⟨destination, rfl⟩
  · intro text given
    cases read : Address.parse? route.family text.toList with
    | none =>
      have wrong := warns (.gateway index route.family text)
        (by simp [StaticRoute.findings, StaticRoute.gatewayFindings, given, read])
      cases wrong
    | some gateway => exact ⟨gateway, rfl⟩
  · intro name given
    cases there : config.interface? name with
    | none =>
      have wrong := warns (.routeInterface index name)
        (by simp [StaticRoute.findings, given, there])
      cases wrong
    | some interface => exact ⟨interface, rfl⟩
  · intro free
    -- Without an interface the route has to have a gateway, or it would lead nowhere.
    cases given : route.gateway with
    | none =>
      have wrong := warns (.routeTarget index) (by simp [StaticRoute.findings, free, given])
      cases wrong
    | some text => exact ⟨text, rfl⟩

/-- A side of the translation is there and has an address. -/
theorem side_of_warnings (side : TranslationSide) {name : String}
    (warns : ∀ finding ∈ TranslationConfig.sideFindings config side name, finding.isWarning) :
    ∃ interface, config.interface? name = some interface ∧ interface.ipv4 ≠ [] := by
  -- Both things that are found on a side are errors, so neither is found.
  cases there : config.interface? name with
  | none =>
    have wrong := warns (.sideInterface side name) (by simp [TranslationConfig.sideFindings, there])
    cases wrong
  | some interface =>
    refine ⟨interface, rfl, fun empty => ?_⟩
    have wrong := warns (.sideAddress side name)
      (by simp [TranslationConfig.sideFindings, there, empty])
    cases wrong

/-- A translation lacks nothing. -/
theorem translation_of_accepted (accepted : config.errors = []) {translation : TranslationConfig}
    (given : config.translation = some translation) : translation.Sound config := by
  -- The findings on the translation come last, behind those on interfaces and routes.
  have own : translation.findings config ⊆ config.findings := by
    intro finding found
    simp only [Config.findings, List.mem_append]
    refine .inr ?_
    rw [given]
    simpa using found
  have warns : ∀ finding ∈ translation.findings config, finding.isWarning :=
    fun _ => isWarning_of_accepted accepted own
  refine ⟨?_, ?_, ?_, ?_, ?_⟩
  · -- Of the five demands the two sides share theirs, and the others are made once.
    refine side_of_warnings .internal fun finding found => warns finding ?_
    simp only [TranslationConfig.findings, List.mem_append, found, true_or]
  · refine side_of_warnings .external fun finding found => warns finding ?_
    simp only [TranslationConfig.findings, List.mem_append, found, true_or, or_true]
  · intro same
    have wrong := warns (.sameSides translation.internal) (by simp [TranslationConfig.findings, same])
    cases wrong
  · intro zero
    have wrong := warns .zeroFirstPort (by simp [TranslationConfig.findings, zero])
    cases wrong
  · intro empty
    have wrong := warns (.emptyRange translation.firstPort translation.lastPort)
      (by simp [TranslationConfig.findings, empty])
    cases wrong

end Config

end NetworkLayer
