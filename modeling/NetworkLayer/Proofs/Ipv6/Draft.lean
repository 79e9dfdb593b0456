import NetworkLayer.Proofs.Ipv6

/-!
New IPv6 packets. Main statement: a packet that is built from extension headers as long as they say
themselves reads back as what it was built from.
-/

namespace NetworkLayer

namespace ExtensionChain.Stands

/-- What is announced along a chain are its headers and, in the end, the upper layer. -/
theorem announcements {bytes : Bytes} {kindOffset offset : Nat} {chain : ExtensionChain}
    (stands : Stands bytes kindOffset offset chain) :
    Bytes.byteAt bytes kindOffset ::
        chain.headers.map (fun header => Bytes.byteAt bytes header.offset) =
      chain.headers.map (·.kind) ++ [chain.upperProtocol] := by
  -- Each header takes its kind from the one before it.
  induction stands with
  | upper last => rfl
  | header known wide fits rest ih =>
    simp only [List.map_cons, List.cons_append, List.cons.injEq, true_and]
    exact ih

/-- An extension header that is announced lengthens the chain behind it by what it says. -/
theorem lengthened {bytes header : Bytes} {kind : UInt8} {kindOffset offset : Nat}
    {chain : ExtensionChain} (announced : Bytes.byteAt bytes kindOffset = kind)
    (known : ExtensionHeader.isKind kind) (complete : header.length = ExtensionHeader.lengthOf kind
      (Bytes.byteAt header 1)) (written : Bytes.slice bytes offset header.length = header)
    (rest : Stands bytes offset (offset + header.length) chain) :
    ∃ longer, Stands bytes kindOffset offset longer ∧
      longer.upperProtocol = chain.upperProtocol ∧ longer.upperOffset = chain.upperOffset ∧
      longer.headers.map (·.content bytes) =
        (kind, header.drop 1) :: chain.headers.map (·.content bytes) := by
  have least := ExtensionHeader.least_lengthOf kind (Bytes.byteAt header 1)
  have second : Bytes.byteAt bytes (offset + 1) = Bytes.byteAt header 1 := by
    rw [← written, Bytes.byteAt_slice bytes offset (by omega)]
  -- What is written there is the whole header, so the bytes reach to its end.
  have fits : offset + header.length ≤ bytes.length := by
    have size := congrArg List.length written
    simp only [Bytes.slice, List.length_take, List.length_drop] at size
    omega
  subst announced
  refine ⟨_, .header known (by rw [second, complete]) fits rest, rfl, rfl, ?_⟩
  simp only [List.map_cons, ExtensionHeader.content, written]

end ExtensionChain.Stands

namespace Ipv6Draft

/-- An extension header that is as long as its own bytes say. -/
def Complete (kind : UInt8) (bytes : Bytes) : Prop :=
  bytes.length = ExtensionHeader.lengthOf kind (Bytes.byteAt bytes 1)

instance (kind : UInt8) (bytes : Bytes) : Decidable (Complete kind bytes) :=
  inferInstanceAs (Decidable (_ = _))

/-- Another announcement leaves a header as long as it is, and what it says behind it. -/
theorem Complete.announcing {kind : UInt8} {bytes : Bytes} (complete : Complete kind bytes)
    (next : UInt8) : Complete kind (bytes.modify 0 fun _ => next) ∧
      (bytes.modify 0 fun _ => next).drop 1 = bytes.drop 1 ∧
      Bytes.byteAt (bytes.modify 0 fun _ => next) 0 = next := by
  have least := ExtensionHeader.least_lengthOf kind (Bytes.byteAt bytes 1)
  rw [← complete] at least
  cases bytes with
  | nil => exact absurd least (by simp)
  | cons first rest => exact ⟨complete, rfl, rfl⟩

/-- The extension headers of a draft stand where they are written, and say what they said. -/
theorem linked_stands {last : UInt8} (final : ExtensionHeader.isKind last = false)
    (extensions : List (UInt8 × Bytes))
    (known : ∀ extension ∈ extensions, ExtensionHeader.isKind extension.1)
    (complete : ∀ extension ∈ extensions, Complete extension.1 extension.2)
    (front back : Bytes) {kindOffset : Nat} (before : kindOffset < front.length)
    (announces : Bytes.byteAt front kindOffset = announced last extensions) :
    ∃ chain, ExtensionChain.Stands (front ++ linked last extensions ++ back) kindOffset front.length
        chain ∧
      chain.upperProtocol = last ∧
      chain.upperOffset = front.length + (linked last extensions).length ∧
      chain.headers.map (·.content (front ++ linked last extensions ++ back)) =
        extensions.map fun (kind, bytes) => (kind, bytes.drop 1) := by
  -- The headers already written belong to the front of those that are left.
  induction extensions generalizing front kindOffset with
  | nil =>
    have ended : Bytes.byteAt (front ++ linked last [] ++ back) kindOffset = last := by
      rw [List.append_assoc, Bytes.byteAt_append_left _ before]
      exact announces
    exact ⟨_, .upper (ended ▸ final), ended, rfl, rfl⟩
  | cons extension rest ih =>
    obtain ⟨kind, bytes⟩ := extension
    obtain ⟨whole, said, next⟩ :=
      (complete (kind, bytes) List.mem_cons_self).announcing (announced last rest)
    -- The first byte of a written header tells what comes next, and the rest of it is as drafted.
    generalize announcing : (bytes.modify 0 fun _ => announced last rest) = header at whole said next
    have written : front ++ linked last ((kind, bytes) :: rest) ++ back =
        front ++ header ++ linked last rest ++ back := by
      simp only [linked, announcing, List.append_assoc]
    have least := ExtensionHeader.least_lengthOf kind (Bytes.byteAt header 1)
    rw [← whole] at least
    have reached : Bytes.byteAt (front ++ header) front.length = announced last rest := by
      rw [← next]
      exact Bytes.byteAt_append_right front header 0
    -- For the headers that are left, this one is part of the front.
    obtain ⟨chain, stands, protocol, place, contents⟩ :=
      ih (fun other among => known other (List.mem_cons_of_mem _ among))
        (fun other among => complete other (List.mem_cons_of_mem _ among)) (front ++ header)
        (by rw [List.length_append]; omega) reached
    rw [List.length_append] at stands place
    have announces_ : Bytes.byteAt (front ++ header ++ linked last rest ++ back) kindOffset =
        kind := by
      simp only [List.append_assoc]
      rw [Bytes.byteAt_append_left _ before]
      exact announces
    have here : Bytes.slice (front ++ header ++ linked last rest ++ back) front.length
        header.length = header := by
      rw [List.append_assoc]
      exact Bytes.slice_between _ rfl rfl
    -- The header that stands in front of them is announced by the front.
    obtain ⟨longer, standing, sameProtocol, samePlace, longerContents⟩ :=
      stands.lengthened announces_ (known (kind, bytes) List.mem_cons_self) whole here
    rw [written]
    refine ⟨longer, standing, sameProtocol.trans protocol, ?_, ?_⟩
    · rw [samePlace, place, linked, announcing, List.length_append]
      omega
    · rw [longerContents, contents, List.map_cons, said]

/-- The extension headers take as many bytes as they have. -/
theorem linked_length (last : UInt8) (extensions : List (UInt8 × Bytes)) :
    (linked last extensions).length = (extensions.flatMap (·.2)).length := by
  induction extensions with
  | nil => rfl
  | cons extension rest ih =>
    simp only [linked, List.length_append, List.length_modify, ih, List.flatMap_cons]

variable (draft : Ipv6Draft)

/-- What stands behind the fixed header. -/
def body : Bytes := linked draft.nextHeader draft.extensions ++ draft.payload

/-- Version, traffic class and flow label as one number. -/
def start : Nat :=
  6 <<< 28 + draft.trafficClass.toNat <<< 20 + draft.flowLabel.toNat % 0x100000

/-- The fixed header. -/
def fixed : Bytes :=
  Bytes.ofValue 4 draft.start ++ Bytes.ofWord (UInt16.ofNat draft.body.length) ++
    [announced draft.nextHeader draft.extensions, draft.hopLimit] ++ draft.source.octets ++
    draft.destination.octets

/-- A packet is its fixed header and what stands behind it. -/
theorem encode_eq : draft.encode = draft.fixed ++ draft.body := rfl

/-- The fixed header is as long as every fixed header. -/
theorem fixed_length : draft.fixed.length = Ipv6Packet.headerSize := by
  simp [fixed, Ipv6Packet.headerSize, Family.bits]

/-- The first half of the first byte is the version. -/
theorem encode_version : (Bytes.byteAt draft.encode 0).toNat / 16 = 6 := by
  have small : draft.trafficClass.toNat < 256 := draft.trafficClass.toNat_lt
  have first : Bytes.byteAt draft.encode 0 = UInt8.ofNat (draft.start / 256 / 256 / 256) := rfl
  rw [first, UInt8.toNat_ofNat', start, Nat.shiftLeft_eq]
  omega

/-- The length field tells what stands behind the fixed header, unless that is too long for it. -/
theorem encode_total (short : draft.body.length < 65536) :
    Ipv6Packet.headerSize + (Bytes.wordAt draft.encode 4).toNat = draft.encode.length := by
  -- The field stands in the fixed header at its place.
  have declared : Bytes.wordAt draft.encode 4 = UInt16.ofNat draft.body.length := by
    rw [encode_eq, fixed]
    simp only [List.append_assoc]
    rw [← List.append_assoc]
    exact Bytes.wordAt_between _ _ (by simp)
  rw [declared, UInt16.toNat_ofNat_of_lt' short, encode_eq, List.length_append, fixed_length]

/-- What the fixed header announces. -/
theorem fixed_announced :
    Bytes.byteAt draft.fixed 6 = announced draft.nextHeader draft.extensions := rfl

/-- The hop limit reads back. -/
theorem encode_hopLimit (chain : ExtensionChain) :
    Ipv6Packet.hopLimit ⟨draft.encode, chain⟩ = draft.hopLimit := rfl

/-- The source reads back. -/
theorem encode_source (chain : ExtensionChain) :
    Ipv6Packet.source ⟨draft.encode, chain⟩ = draft.source := by
  refine Address.readAt_of_slice ?_
  simp only
  rw [encode_eq, fixed, List.append_assoc]
  exact Bytes.slice_between _ (by simp) (by simp)

/-- The destination reads back. -/
theorem encode_destination (chain : ExtensionChain) :
    Ipv6Packet.destination ⟨draft.encode, chain⟩ = draft.destination := by
  refine Address.readAt_of_slice ?_
  exact Bytes.slice_between _ (by simp [Family.bits]) (by simp)

/-- A chain that stands in what was built makes it a well-formed packet. -/
theorem encode_wellFormed (short : draft.body.length < 65536) {chain : ExtensionChain}
    (stands : ExtensionChain.Stands draft.encode 6 Ipv6Packet.headerSize chain) :
    Ipv6Packet.WellFormed ⟨draft.encode, chain⟩ :=
  ⟨draft.encode_version, draft.encode_total short, stands⟩

/--
A packet that is built reads back as what it was built from.

Every extension header has to be as long as its own bytes say, and what follows the last one must not
be taken for another.
Then the headers come back in order with their kinds and their bytes, except that the first byte of
each one announces what follows it; the fixed header announces the first.
-/
theorem built_reads_back (draft : Ipv6Draft)
    (known : ∀ extension ∈ draft.extensions, ExtensionHeader.isKind extension.1)
    (complete : ∀ extension ∈ draft.extensions, Complete extension.1 extension.2)
    (final : ExtensionHeader.isKind draft.nextHeader = false)
    (short : (draft.extensions.flatMap (·.2)).length + draft.payload.length ≤ 65535) :
    ∃ packet, Ipv6Packet.parse draft.encode = .ok packet ∧
      packet.source = draft.source ∧ packet.destination = draft.destination ∧
      packet.hopLimit = draft.hopLimit ∧
      packet.contents = draft.extensions.map (fun (kind, bytes) => (kind, bytes.drop 1)) ∧
      packet.nextHeader ::
          packet.chain.headers.map (fun header => Bytes.byteAt packet.bytes header.offset) =
        draft.extensions.map (·.1) ++ [draft.nextHeader] ∧
      packet.chain.upperProtocol = draft.nextHeader ∧ packet.upperPayload = draft.payload := by
  -- The length of the payload fits its field.
  have fits : draft.body.length < 65536 := by
    rw [body, List.length_append, linked_length]
    omega
  have wide := draft.fixed_length
  have split : draft.encode =
      draft.fixed ++ linked draft.nextHeader draft.extensions ++ draft.payload := by
    rw [encode_eq, body, List.append_assoc]
  obtain ⟨chain, stands, protocol, place, contents⟩ := linked_stands final draft.extensions known
    complete draft.fixed draft.payload (by rw [wide]; decide) draft.fixed_announced
  rw [← split] at stands contents
  -- The kinds stand as drafted, so each header announces what the draft has next.
  have kinds : chain.headers.map (·.kind) = draft.extensions.map (·.1) := by
    have firsts := congrArg (List.map Prod.fst) contents
    rw [List.map_map, List.map_map] at firsts
    exact firsts
  have announcements := stands.announcements
  rw [kinds, protocol] at announcements
  rw [wide] at stands
  refine ⟨⟨draft.encode, chain⟩, (draft.encode_wellFormed fits stands).parse,
    draft.encode_source chain, draft.encode_destination chain, draft.encode_hopLimit chain, contents,
    announcements, protocol, ?_⟩
  -- The payload stands behind the last header.
  have ended : chain.upperOffset =
      (draft.fixed ++ linked draft.nextHeader draft.extensions).length := by
    rw [place, List.length_append]
  simp only [Ipv6Packet.upperPayload, ended]
  rw [split, List.drop_left]

/-- A draft with a fragment header, whose second byte is no length, between other headers. -/
def fragmented : Ipv6Draft where
  nextHeader := 17
  hopLimit := 9
  source := .ofNat 0x20010DB8
  extensions := [(0, [7, 1, 1, 12] ++ Bytes.zeros 12), (44, [7, 9, 0, 1, 2, 3, 4, 5]),
    (60, [7, 0, 1, 4, 1, 1, 1, 1]), (60, [7, 0, 1, 4, 2, 2, 2, 2])]
  payload := [1, 2, 3]

/-- A fragment header and two headers of destination options read back. -/
theorem built_fragmented_reads_back :
    (∀ extension ∈ fragmented.extensions, ExtensionHeader.isKind extension.1) ∧
    (44, [7, 9, 0, 1, 2, 3, 4, 5]) ∈ fragmented.extensions ∧
    (∀ extension ∈ fragmented.extensions, Complete extension.1 extension.2) ∧
    ExtensionHeader.isKind fragmented.nextHeader = false ∧
    ∃ packet, Ipv6Packet.parse fragmented.encode = .ok packet ∧
      packet.source = .ofNat 0x20010DB8 ∧
      packet.contents = [(0, [1, 1, 12] ++ Bytes.zeros 12), (44, [9, 0, 1, 2, 3, 4, 5]),
        (60, [0, 1, 4, 1, 1, 1, 1]), (60, [0, 1, 4, 2, 2, 2, 2])] ∧
      packet.nextHeader ::
          packet.chain.headers.map (fun header => Bytes.byteAt packet.bytes header.offset) =
        [0, 44, 60, 60, 17] ∧
      packet.upperPayload = [1, 2, 3] := by
  -- The draft meets all conditions, so it reads back by the theorem.
  have known : ∀ extension ∈ fragmented.extensions, ExtensionHeader.isKind extension.1 := by decide
  have complete : ∀ extension ∈ fragmented.extensions, Complete extension.1 extension.2 := by decide
  have final : ExtensionHeader.isKind fragmented.nextHeader = false := by decide
  obtain ⟨packet, read, source, -, -, contents, announcements, -, payload⟩ :=
    built_reads_back fragmented known complete final (by decide)
  exact ⟨known, by decide, complete, final, packet, read, source, contents, announcements, payload⟩

end Ipv6Draft

end NetworkLayer
