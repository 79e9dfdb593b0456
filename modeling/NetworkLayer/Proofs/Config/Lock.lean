import NetworkLayer.Config.Lock
import NetworkLayer.Proofs.Config.Range

/-!
The lock file means the same configuration. Main statement: the lock file of a configuration that
was read from a text is read as that configuration again.
-/

namespace NetworkLayer

open Toml (Value Writable)

/-- The entries of the lock file can be written if the numbers can. -/
theorem Config.writable_lockEntries {config : Config} (fits : config.Fits) (made : String) :
    ∀ entry ∈ config.lockEntries made, Writable 2 entry.2 := by
  simp only [lockEntries, encode, List.cons_append, List.nil_append, List.forall_mem_cons,
    List.forall_mem_map]
  exact ⟨.plain trivial, LoggingConfig.writable_encode 1 _, InterfaceConfig.writable_encode 1 _,
    RoutingConfig.writable_encode 0 _, FamilyConfig.writable_encode 1 _,
    FamilyConfig.writable_encode 1 _, ResolverConfig.writable_encode 1 fits.resolver,
    fun translation listed => TranslationConfig.writable_encode 0
      (fits.translation translation (Option.mem_toList.mp listed))⟩

/-- The keys of the lock file differ. -/
theorem Config.nodup_lockEntries (config : Config) (made : String) :
    ((config.lockEntries made).map (·.1)).Nodup := by
  cases shape : config.translation <;> simp [lockEntries, encode, shape]

/-- The configuration reads back from the entries of its lock file. -/
theorem Config.decode?_lockEntries {config : Config} (fits : config.Fits) (made : String) :
    decode? (Value.settled (.table (config.lockEntries made))) = some config := by
  -- The interfaces and the translation are read by functions of their own.
  have interfaces : Value.list? InterfaceConfig.decode?
      (Value.settled (.array (config.interfaces.map InterfaceConfig.encode))) =
        some config.interfaces :=
    Value.list?_settled _ InterfaceConfig.decode?_settled config.interfaces
  rw [decode?]
  refine Value.bind_record? (nodup_lockEntries config made) fun field found => ?_
  have translation : Value.ifGiven TranslationConfig.decode? (field "nat") =
      some config.translation := by
    rw [found, lockEntries, encode]
    cases shape : config.translation with
    | none => simp [Value.lookup_of_ne, Value.ifGiven]
    | some translation =>
      simp [Value.lookup_of_ne, Value.ifGiven,
        TranslationConfig.decode?_settled (fits.translation translation shape)]
  -- The field of the translation has been looked at, so the others are read around it.
  generalize field "nat" = section' at translation ⊢
  simp only [translation, found, lockEntries, encode, List.cons_append, List.nil_append,
    Value.lookup_of_ne, List.lookup_cons_self, Option.map_some, ne_eq, String.reduceEq,
    not_false_eq_true, Value.withDefault_some, LoggingConfig.decode?_settled, interfaces,
    RoutingConfig.decode?_settled, FamilyConfig.decode?_settled,
    ResolverConfig.decode?_settled fits.resolver]
  rfl

/-- A configuration whose numbers can be written is what its lock file is read as. -/
theorem Config.parse_lock {config : Config} (fits : config.Fits) (made : String) :
    parse (config.lock made) = .ok config := by
  have read := Toml.parse_render (by decide : 2 ≤ Toml.longestKey) (nodup_lockEntries config made)
    (writable_lockEntries fits made)
  rw [parse, lock, read, Option.bind_some, ← Value.settled_table, decode?_lockEntries fits made]

/-- The lock file of a configuration that was read from a text can be written, and it is read as
that configuration again. -/
theorem Config.lock_means_same {text : String} {config : Config} (parsed : parse text = .ok config)
    (made : String) :
    (Value.table (config.lockEntries made)).Ranged ∧ parse (config.lock made) = .ok config := by
  have fits := fits_of_parse parsed
  refine ⟨Value.ranged_table.mpr fun entry listed => ?_, parse_lock fits made⟩
  exact (writable_lockEntries fits made entry listed).ranged

/-- The text of a configuration with marks of TOML inside its texts. -/
def Config.quotedText : String :=
  "# marks\n[[interfaces]]\nname = 'a\"]\\'\nipv4 = [\"10.0.0.1/24\"]\n\n[nat]\n" ++
    "internal = \"\\u0007\\n[b]\"\nexternal = 'eth0'\nexternal_address = \"203.0.113.2\"\n"

/-- The configuration with marks of TOML inside its texts. -/
def Config.quoted : Config where
  interfaces := [{ name := "a\"]\\", ipv4 := ["10.0.0.1/24"] }]
  translation := some {
    internal := "\x07\n[b]"
    external := "eth0"
    externalAddress := some (.ofNat 0xCB007102) }

/-- A configuration with marks of TOML inside its texts keeps them in its lock file. -/
theorem Config.quoted_locked :
    parse quotedText = .ok quoted ∧
      ((Value.table (quoted.lockEntries "2024-05-01T00:00:00+00:00")).Ranged ∧
        parse (quoted.lock "2024-05-01T00:00:00+00:00") = .ok quoted) := by
  have read : ((Toml.parse quotedText).bind fun entries => decode? (.table entries)) =
      some quoted := by
    decide +kernel
  have parsed : parse quotedText = .ok quoted := by rw [parse, read]
  exact ⟨parsed, lock_means_same parsed "2024-05-01T00:00:00+00:00"⟩

end NetworkLayer
