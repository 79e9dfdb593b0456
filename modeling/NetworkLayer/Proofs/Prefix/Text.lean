import NetworkLayer.Proofs.Address.Colons
import NetworkLayer.Proofs.Prefix
import NetworkLayer.Route

/-!
The texts of prefixes, destinations and interface addresses. Main statement: what is written reads back as it was, and
what is read is what the text spells, within the width and without host bits.
-/

namespace NetworkLayer

variable {family : Family}

namespace Cidr

/-- A text spells an address, with a length if it has a slash. White space may surround both. -/
inductive Spells : List Char → Cidr family → Prop
  | bare {text : List Char} {address : Address family} (whole : '/' ∉ text)
      (read : Address.parse? family (Text.trim text) = some address) :
      Spells text ⟨address, none⟩
  | sized {before after : List Char} {address : Address family} {length : Nat}
      (first : '/' ∉ before) (read : Address.parse? family (Text.trim before) = some address)
      (counted : Text.unsigned? 10 256 (Text.trim after) = some length)
      (fits : length ≤ family.bits) : Spells (before ++ '/' :: after) ⟨address, some length⟩

/-- Exactly what a text spells is read from it. -/
theorem parse_eq_ok_iff {text : String} {cidr : Cidr family} :
    parse family text = .ok cidr ↔ Spells text.toList cidr := by
  rw [parse]
  -- A slash decides between the two forms, so both directions look for the first one.
  constructor
  · intro parsed
    cases cut : Text.cut '/' text.toList with
    | none =>
      rw [cut] at parsed
      dsimp only at parsed
      split at parsed
      · cases parsed
      · cases parsed
        exact .bare (Text.cut_eq_none_iff.mp cut) ‹_›
    | some parts =>
      obtain ⟨shape, first⟩ := Text.cut_eq_some_iff.mp cut
      rw [cut] at parsed
      dsimp only at parsed
      split at parsed
      · cases parsed
      · split at parsed
        · cases parsed
        · split at parsed
          · cases parsed
            rw [shape]
            exact .sized first ‹_› ‹_› ‹_›
          · cases parsed
  · -- What is spelled fixes each part that is read, and with these the reading runs through.
    intro spelled
    generalize text.toList = characters at spelled ⊢
    cases spelled with
    | bare whole read =>
      rw [Text.cut_eq_none_iff.mpr whole]
      simp only [read]
    | sized first read counted fits =>
      rw [Text.cut_eq_some_iff.mpr ⟨rfl, first⟩]
      simp only [read, counted, if_pos fits]

/-- The text of an address stays as it is without the white space around it. -/
theorem trim_render (address : Address family) :
    Text.trim address.render.toList = address.render.toList :=
  Text.trim_eq_self fun _ => Address.isBlank_of_mem_render

/-- The text of an address spells it, and no length. -/
theorem spells_render (address : Address family) : Spells address.render.toList ⟨address, none⟩ :=
  .bare address.slash_notMem_render (by rw [trim_render, address.parse?_render])

/-- The text of an address and that of a length spell both. -/
theorem spells_sized (address : Address family) {length : Nat} (fits : length ≤ family.bits) :
    Spells (address.render ++ "/" ++ Text.decimal length).toList ⟨address, some length⟩ := by
  -- A length is of three digits at most, so it is read as a byte.
  have small : length < 256 := by
    have most := family.bits_le
    omega
  have plain : Text.trim (Nat.toDigits 10 length) = Nat.toDigits 10 length :=
    Text.trim_eq_self fun _ listed =>
      Text.isBlank_of_digit? (Text.digit?_of_mem_toDigits (by decide) (by decide) listed)
  have text : (address.render ++ "/" ++ Text.decimal length).toList =
      address.render.toList ++ '/' :: Nat.toDigits 10 length := by
    rw [String.toList_append, String.toList_append, List.append_assoc, Text.toList_decimal]
    rfl
  rw [text]
  refine .sized address.slash_notMem_render ?_ ?_ fits
  · rw [trim_render, address.parse?_render]
  · rw [plain, Text.unsigned?_toDigits (by decide) (by decide) small]

/-- What goes on from a text goes on from what it spells. -/
theorem parse_bind_eq_ok_iff {α : Type} {text : String} {next : Cidr family → Except Error α}
    {value : α} : (parse family text >>= next) = .ok value ↔
      ∃ cidr, Spells text.toList cidr ∧ next cidr = .ok value := by
  simp only [← parse_eq_ok_iff]
  -- A text that is refused spells nothing, and one that is read spells what was read.
  cases parse family text with
  | error cause =>
    constructor
    · intro done
      cases done
    · rintro ⟨cidr, parsed, -⟩
      cases parsed
  | ok cidr =>
    constructor
    · exact fun done => ⟨cidr, rfl, done⟩
    · rintro ⟨other, parsed, done⟩
      cases parsed
      exact done

end Cidr

/-- A text is read as the prefix of the address and the length that it spells. -/
theorem Prefix.parse_eq_ok_iff {text : String} {net : Prefix family} :
    Prefix.parse family text = .ok net ↔ ∃ cidr : Cidr family, Cidr.Spells text.toList cidr ∧
      cidr.address = net.address ∧ cidr.significant = net.length := by
  rw [Prefix.parse, Cidr.parse_bind_eq_ok_iff]
  simp only [Prefix.checked_eq_ok_iff]

/-- The text of a prefix reads back. -/
theorem Prefix.parse_render (net : Prefix family) : Prefix.parse family net.render = .ok net :=
  Prefix.parse_eq_ok_iff.mpr
    ⟨⟨net.address, some net.length⟩, Cidr.spells_sized net.address net.length_le, rfl, rfl⟩

namespace Destination

/-- A text with a length is read as a network, and one without as a host. -/
theorem parse_eq_ok_iff {text : String} {destination : Destination family} :
    parse family text = .ok destination ↔ Cidr.Spells text.toList (match destination with
      | net range => ⟨range.address, some range.length⟩
      | host address => ⟨address, none⟩) := by
  rw [parse, Cidr.parse_bind_eq_ok_iff]
  -- A length calls for the own address of a network, and the check says just that.
  constructor
  · rintro ⟨⟨address, length⟩, spelled, made⟩
    cases length with
    | none =>
      cases made
      exact spelled
    | some length =>
      dsimp only at made
      cases checked : Prefix.checked address length with
      | error cause =>
        rw [checked] at made
        cases made
      | ok range =>
        rw [checked] at made
        cases made
        obtain ⟨rfl, rfl⟩ := Prefix.checked_eq_ok_iff.mp checked
        exact spelled
  · intro spelled
    refine ⟨_, spelled, ?_⟩
    cases destination with
    | net range =>
      have checked : Prefix.checked range.address range.length = .ok range :=
        Prefix.checked_eq_ok_iff.mpr ⟨rfl, rfl⟩
      dsimp only
      rw [checked]
      rfl
    | host address => rfl

/-- The text of a destination reads back. -/
theorem parse_render (destination : Destination family) :
    parse family destination.render = .ok destination := by
  rw [parse_eq_ok_iff]
  cases destination with
  | net range => exact Cidr.spells_sized range.address range.length_le
  | host address => exact Cidr.spells_render address

end Destination

namespace InterfaceAddress

/-- The entry of an address that is spelled with or without a length. A group keeps no length. -/
def ofCidr (cidr : Cidr family) : InterfaceAddress family :=
  if cidr.address.isMulticast then multicast cidr.address
  else match cidr.length with
    | some length => unicast cidr.address length
    | none => host cidr.address

/-- A text is read as the entry of what it spells. -/
theorem parse_eq_ok_iff {text : String} {entry : InterfaceAddress family} :
    parse family text = .ok entry ↔
      ∃ cidr : Cidr family, Cidr.Spells text.toList cidr ∧ ofCidr cidr = entry := by
  -- The entry is made of what was read alone, which the parser does case by case.
  have entered : parse family text = Cidr.parse family text >>= fun cidr => .ok (ofCidr cidr) := by
    rw [parse]
    congr 1
    funext cidr
    rw [ofCidr]
    split
    · rfl
    · rcases cidr with ⟨address, _ | length⟩
      · rfl
      · rfl
  rw [entered, Cidr.parse_bind_eq_ok_iff]
  simp only [Except.ok.injEq]

/-- The entry of what is spelled has no length beyond the width. -/
theorem length_ofCidr_le {cidr : Cidr family} {length : Nat}
    (kept : (ofCidr cidr).length = some length) : length ≤ family.bits := by
  rw [ofCidr] at kept
  -- A group keeps no length, and a length that is kept is cut to the width.
  split at kept
  · cases kept
  · split at kept
    · cases kept
      exact Nat.min_le_right _ _
    · cases kept

section Render

variable {address : Address family}

/-- The text of a group reads back. -/
theorem parse_render_multicast (group : address.isMulticast = true) :
    parse family (multicast address).render = .ok (multicast address) := by
  refine parse_eq_ok_iff.mpr ⟨⟨address, none⟩, Cidr.spells_render address, ?_⟩
  rw [ofCidr, if_pos group]

/-- The text of a unicast address reads back exactly if its length, where it has one, is within the width. -/
theorem parse_render_unicast_iff {entry : InterfaceAddress family} (own : entry.isUnicast = true)
    (single : entry.address.isMulticast = false) :
    parse family entry.render = .ok entry ↔
      ∀ length, entry.length = some length → length ≤ family.bits := by
  constructor
  · intro read
    obtain ⟨cidr, -, rfl⟩ := parse_eq_ok_iff.mp read
    exact fun length => length_ofCidr_le
  · intro within
    obtain ⟨address, length, role⟩ := entry
    cases show role = .unicast from of_decide_eq_true own
    dsimp only at single within
    -- The text spells the address with what length the entry has, and `unicast` cuts off nothing of that length.
    refine parse_eq_ok_iff.mpr ⟨⟨address, length⟩, ?_, ?_⟩
    · cases length with
      | none => exact Cidr.spells_render address
      | some length => exact Cidr.spells_sized address (within length rfl)
    · cases length with
      | none => simp only [ofCidr, single, host, Bool.false_eq_true, if_false]
      | some length =>
        simp only [ofCidr, single, unicast, Nat.min_eq_left (within length rfl),
          Bool.false_eq_true, if_false]

end Render

/-- A length beyond the width, which no constructor makes, is written as it is and refused when it is read. -/
theorem length33_not_read_back :
    let entry : InterfaceAddress .v4 := ⟨.ofNat 0x0A000001, some 33, .unicast⟩
    entry.isUnicast = true ∧ entry.address.isMulticast = false ∧ entry.render = "10.0.0.1/33" ∧
      parse .v4 entry.render = .error (.invalidPrefix "10.0.0.1" 33) :=
  ⟨rfl, rfl, rfl, rfl⟩

/-- What was spelled is a group, or a unicast address with no length beyond the width. -/
theorem ofCidr_cases (cidr : Cidr family) :
    (cidr.address.isMulticast = true ∧ ofCidr cidr = multicast cidr.address) ∨
    ((ofCidr cidr).isUnicast = true ∧ (ofCidr cidr).address.isMulticast = false) := by
  -- Only the address decides, and a length is one that fits either way.
  cases group : cidr.address.isMulticast with
  | true => exact .inl ⟨rfl, if_pos group⟩
  | false =>
    refine .inr ?_
    rw [ofCidr, if_neg (by rw [group]; decide)]
    split
    · exact ⟨rfl, group⟩
    · exact ⟨rfl, group⟩

/-- The text of an entry of what was spelled reads back. -/
theorem parse_render_ofCidr (cidr : Cidr family) :
    parse family (ofCidr cidr).render = .ok (ofCidr cidr) := by
  obtain ⟨group, made⟩ | ⟨own, single⟩ := ofCidr_cases cidr
  · rw [made]
    exact parse_render_multicast group
  · exact (parse_render_unicast_iff own single).mpr fun length => length_ofCidr_le

end InterfaceAddress

/--
What is written reads back as it was: every prefix, every destination, and every unicast entry of an address that is
no group, unless its length exceeds the width.

And what is read is what the text spells: a prefix and a network have its address and its length, or the width without
one, and no host bits; a destination without a length is a host; no length exceeds the width; and the text of what was
read reads back.
-/
theorem Cidr.texts_read_back (family : Family) :
    (∀ net : Prefix family, Prefix.parse family net.render = .ok net) ∧
    (∀ destination : Destination family,
      Destination.parse family destination.render = .ok destination) ∧
    (∀ entry : InterfaceAddress family, entry.isUnicast = true →
      entry.address.isMulticast = false →
      (InterfaceAddress.parse family entry.render = .ok entry ↔
        ∀ length, entry.length = some length → length ≤ family.bits)) ∧
    (∀ (text : String) (net : Prefix family), Prefix.parse family text = .ok net →
      (∃ cidr : Cidr family, Cidr.Spells text.toList cidr ∧ cidr.address = net.address ∧
        cidr.significant = net.length) ∧
      net.length ≤ family.bits ∧ net.address.word &&& net.hostMask.word = 0 ∧
      Prefix.parse family net.render = .ok net) ∧
    (∀ (text : String) (destination : Destination family),
      Destination.parse family text = .ok destination →
      (∀ address, destination = .host address → Cidr.Spells text.toList ⟨address, none⟩) ∧
      (∀ net, destination = .net net → Cidr.Spells text.toList ⟨net.address, some net.length⟩ ∧
        net.length ≤ family.bits ∧ net.address.word &&& net.hostMask.word = 0) ∧
      Destination.parse family destination.render = .ok destination) ∧
    ∀ (text : String) (entry : InterfaceAddress family),
      InterfaceAddress.parse family text = .ok entry →
      (∃ cidr : Cidr family, Cidr.Spells text.toList cidr ∧
        InterfaceAddress.ofCidr cidr = entry) ∧
      (∀ length, entry.length = some length → length ≤ family.bits) ∧
      InterfaceAddress.parse family entry.render = .ok entry := by
  refine ⟨Prefix.parse_render, Destination.parse_render,
    fun entry => InterfaceAddress.parse_render_unicast_iff,
    fun text net read => ⟨Prefix.parse_eq_ok_iff.mp read, net.length_le, net.word_and_hostMask,
      net.parse_render⟩,
    -- What is spelled is in each case known from the reader of the kind.
    fun text destination read => ?_, fun text entry read => ?_⟩
  · have spelled := Destination.parse_eq_ok_iff.mp read
    refine ⟨?_, ?_, destination.parse_render⟩
    · rintro address rfl
      exact spelled
    · rintro net rfl
      exact ⟨spelled, net.length_le, net.word_and_hostMask⟩
  · obtain ⟨cidr, spelled, rfl⟩ := InterfaceAddress.parse_eq_ok_iff.mp read
    exact ⟨⟨cidr, spelled, rfl⟩, fun length => InterfaceAddress.length_ofCidr_le,
      InterfaceAddress.parse_render_ofCidr cidr⟩

/-- White space and a sign are passed over, and a group keeps no length. -/
example : InterfaceAddress.parse .v4 " 224.0.0.1 / +4" = .ok (.multicast .allHosts) := rfl

end NetworkLayer
