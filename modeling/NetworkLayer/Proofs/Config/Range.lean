import NetworkLayer.Proofs.Config.Encoding
import NetworkLayer.Proofs.Toml.Range

/-!
The numbers of a configuration. Main statement: those of a configuration that was read from a text
can be written in a document again.
-/

namespace NetworkLayer

open Toml (Value)

namespace Toml.Value

/-- The fields of a record in the range are in the range. -/
theorem ranged_field {value : Value} (ranged : value.Ranged) {names : List String}
    {field : String → Option Value} (read : value.record? names = some field) {key : String}
    {found : Value} (there : field key = some found) : found.Ranged := by
  -- Whatever is found in a list of entries is one of them.
  have within {entries : List (String × Value)} (all : ∀ entry ∈ entries, entry.2.Ranged)
      (there : entries.lookup key = some found) : found.Ranged := by
    obtain ⟨before, after, rfl, -⟩ := List.lookup_eq_some_iff.mp there
    exact all (key, found) (List.mem_append_right _ List.mem_cons_self)
  -- A record is a table, or it is written as a list whose items go with the names in order.
  cases value with
  | table entries =>
    cases read
    exact within (ranged_table.mp ranged) there
  | array items =>
    cases read
    refine within (fun entry listed => ?_) there
    exact ranged_array.mp ranged entry.2 (List.of_mem_zip listed).2
  | dateTime _ =>
    cases read
    cases there
  | text _ | integer _ | boolean _ | float _ => cases read

/-- A number that is read from a value in the range has at most 63 bits. -/
theorem natural?_ranged {value : Value} (ranged : value.Ranged) {limit number : Nat}
    (read : natural? limit value = some number) : number < limit ∧ number < 0x8000000000000000 := by
  -- Only an integer is read as a natural number, and the test on it includes the limit.
  cases value with
  | integer held =>
    obtain ⟨-, high⟩ := ranged held .integer
    simp only [natural?] at read
    split at read
    · rename_i inside
      cases read
      simp only [Bool.and_eq_true, decide_eq_true_eq] at inside
      omega
    · cases read
  | text _ | boolean _ | float _ | dateTime _ | array _ | table _ => cases read

/-- What a field in the range or its default has, the field that is read has. -/
theorem withDefault_holds {α : Type} (holds : α → Prop) {standard result : α}
    {read : Value → Option α} {field : Option Value} (default : holds standard)
    (each : ∀ value result, field = some value → read value = some result → holds result)
    (taken : withDefault standard read field = some result) : holds result := by
  cases field with
  | none =>
    cases taken
    exact default
  | some value => exact each value result rfl taken

/-- A number that is read from a field in the range or is its default has at most 63 bits. -/
theorem withDefault_natural? {value : Value} (ranged : value.Ranged) {names : List String}
    {field : String → Option Value} (read : value.record? names = some field) {key : String}
    {limit standard number : Nat} (small : standard < limit ∧ standard < 0x8000000000000000)
    (taken : withDefault standard (natural? limit) (field key) = some number) :
    number < limit ∧ number < 0x8000000000000000 :=
  withDefault_holds (fun number => number < limit ∧ number < 0x8000000000000000) small
    (fun _ _ there outcome => natural?_ranged (ranged_field ranged read there) outcome) taken

end Toml.Value

/-- A resolver section that is read from a document has numbers that can be written. -/
theorem ResolverConfig.fits_of_decode? {value : Value} (ranged : value.Ranged)
    {config : ResolverConfig} (decoded : decode? value = some config) : config.Fits := by
  -- The section is decoded field by field, and each number comes with its own test.
  simp only [decode?, Option.pure_def, Option.bind_eq_bind, Option.bind_eq_some_iff] at decoded
  obtain ⟨field, read, cache, -, ipv4, ipv4Read, ipv6, ipv6Read, retransmit, retransmitRead,
    attempts, attemptsRead, same⟩ := decoded
  cases same
  exact ⟨(Value.withDefault_natural? ranged read (by decide) ipv4Read).2,
    (Value.withDefault_natural? ranged read (by decide) ipv6Read).2,
    (Value.withDefault_natural? ranged read (by decide) retransmitRead).2,
    (Value.withDefault_natural? ranged read (by decide) attemptsRead).1⟩

/-- A translation section that is read from a document has numbers that can be written. -/
theorem TranslationConfig.fits_of_decode? {value : Value} (ranged : value.Ranged)
    {config : TranslationConfig} (decoded : decode? value = some config) : config.Fits := by
  -- Of all the fields only the two durations are numbers without a bound of their own.
  simp only [decode?, Option.pure_def, Option.bind_eq_bind, Option.bind_eq_some_iff] at decoded
  obtain ⟨field, read, internal, -, external, -, address, -, first, -, last, -, entryTimeout,
    entryRead, sweepInterval, sweepRead, reclaims, -, mappings, -, same⟩ := decoded
  cases same
  exact ⟨(Value.withDefault_natural? ranged read (by decide) entryRead).2,
    (Value.withDefault_natural? ranged read (by decide) sweepRead).2⟩

/-- Whether the numbers of a configuration can be written in a document. -/
structure Config.Fits (config : Config) : Prop where
  resolver : config.resolver.Fits
  translation : ∀ translation ∈ config.translation, translation.Fits

/-- A configuration that is read from a text has numbers that can be written. -/
theorem Config.fits_of_parse {text : String} {config : Config} (parsed : parse text = .ok config) :
    config.Fits := by
  unfold parse at parsed
  split at parsed
  · -- A text that parses was a document first, whose integers are in the range.
    rename_i outcome found
    cases parsed
    obtain ⟨entries, document, decoded⟩ := Option.bind_eq_some_iff.mp found
    have ranged := Toml.ranged_parse document
    simp only [decode?, Option.pure_def, Option.bind_eq_bind, Option.bind_eq_some_iff] at decoded
    obtain ⟨field, read, logging, -, interfaces, -, routing, -, ipv4, -, ipv6, -, resolver,
      resolverRead, translation, translationRead, same⟩ := decoded
    cases same
    -- Only the resolver and the translation have numbers, and both may be left out.
    refine ⟨?_, ?_⟩
    · exact Value.withDefault_holds ResolverConfig.Fits ⟨by decide, by decide, by decide, by decide⟩
        (fun value _ there outcome =>
          ResolverConfig.fits_of_decode? (Value.ranged_field ranged read there) outcome) resolverRead
    · rintro section' ⟨⟩
      cases there : field "nat" with
      | none =>
        rw [there] at translationRead
        cases translationRead
      | some value =>
        rw [there] at translationRead
        obtain ⟨one, outcome, same⟩ := Option.map_eq_some_iff.mp translationRead
        cases same
        exact TranslationConfig.fits_of_decode? (Value.ranged_field ranged read there) outcome
  · cases parsed

end NetworkLayer
