import NetworkLayer.Proofs.Arp
import NetworkLayer.Proofs.Neighbor

/-!
Options of Neighbor Discovery in any company. Main statement: the messages of address resolution read back as they were
written, a message with options behind it has the link-layer address of the first one of its type, and the walk over
the options of any byte string ends.
-/

namespace NetworkLayer

/-- A well-formed option: its type, its size in units of eight bytes, and what fills it behind these two bytes. -/
structure NeighborOption where
  kind : UInt8
  units : UInt8
  content : Bytes
  whole : content.length + 2 = units.toNat * 8

namespace NeighborOption

/-- The bytes of an option. -/
def encode (option : NeighborOption) : Bytes :=
  option.kind :: option.units :: option.content

/-- The link-layer address at the start of an option's content. -/
def link (option : NeighborOption) : Mac :=
  Mac.readAt option.content 0

/-- The option that an address is written as. -/
def ofMac (kind : UInt8) (mac : Mac) : NeighborOption :=
  ⟨kind, 1, mac.octets, by rw [mac.octets_length]; rfl⟩

variable (option : NeighborOption)

/-- An option is as long as it says. -/
theorem encode_length : option.encode.length = option.units.toNat * 8 :=
  option.whole

/-- There is no option without content: one unit has room for an address. -/
theorem content_length : 6 ≤ option.content.length := by
  -- The two fixed bytes leave no option of no units.
  have whole := option.whole
  omega

end NeighborOption

namespace Neighbor

open NeighborOption (encode link ofMac)

/-- The address in the first option of a type, if there is one. -/
def firstLink? (wanted : UInt8) (options : List NeighborOption) : Option Mac :=
  (options.find? (·.kind == wanted)).map link

/-- Bytes at which options end: none stands at their front. -/
def Ended (rest : Bytes) : Prop :=
  ∀ (option : NeighborOption) (following : Bytes), rest ≠ option.encode ++ following

/-- Options end where fewer than two bytes are left, at a size of zero, and at one beyond the bytes that are left. -/
theorem ended_iff {rest : Bytes} : Ended rest ↔ rest.length < 2 ∨
    (Bytes.byteAt rest 1).toNat * 8 = 0 ∨ rest.length < (Bytes.byteAt rest 1).toNat * 8 := by
  constructor
  · -- Fewer than two bytes are settled at once. With two or more, sizes that fit would cut out an option,
    -- against the end.
    intro ended
    match rest with
    | [] => exact .inl (by decide)
    | [_] => exact .inl Nat.one_lt_two
    | kind :: size :: content =>
      apply Decidable.byContradiction
      intro fits
      have announced : Bytes.byteAt (kind :: size :: content) 1 = size := rfl
      simp only [announced, List.length_cons] at fits
      -- A size that fits is that of an option at the front.
      have whole : (content.take (size.toNat * 8 - 2)).length + 2 = size.toNat * 8 := by
        rw [List.length_take]
        omega
      apply ended ⟨kind, size, content.take (size.toNat * 8 - 2), whole⟩
        (content.drop (size.toNat * 8 - 2))
      simp [encode]
  · -- The other way, an option in front has a size that is not zero and that fits.
    intro stops option following same
    subst same
    have announced : Bytes.byteAt (option.encode ++ following) 1 = option.units := rfl
    have whole := option.encode_length
    have long := option.content_length
    have written := option.whole
    rw [announced, List.length_append] at stops
    omega

/-- Bytes at which options do not end are an option and what follows it. -/
theorem exists_of_not_ended {rest : Bytes} (more : ¬ Ended rest) :
    ∃ (option : NeighborOption) (following : Bytes), rest = option.encode ++ following := by
  apply Classical.byContradiction
  intro none
  apply more
  intro option following same
  exact none ⟨option, following, same⟩

/-- The address of an option is read behind its two fixed bytes. -/
theorem readAt_encode_append (option : NeighborOption) (following : Bytes) :
    Mac.readAt (option.encode ++ following) 2 = option.link := by
  have long := option.content_length
  have same : Bytes.slice (option.encode ++ following) 2 6 = Bytes.slice option.content 0 6 := by
    rw [Bytes.slice_append_left following (by rw [encode, List.length_cons, List.length_cons]; omega)]
    rfl
  rw [Mac.readAt, same, link, Mac.readAt]

/-- The size of an option is neither zero nor more than what there is. -/
theorem fits_encode_append (option : NeighborOption) (following : Bytes) :
    ¬ (option.units.toNat * 8 = 0 ∨
      (option.encode ++ following).length < option.units.toNat * 8) := by
  have whole := option.encode_length
  have written := option.whole
  rw [List.length_append]
  omega

/-- An option in front either has the wanted type or is stepped over. -/
theorem linkOption?_encode_append (wanted : UInt8) (option : NeighborOption) (following : Bytes) :
    linkOption? wanted (option.encode ++ following) =
      if option.kind = wanted then some option.link else linkOption? wanted following := by
  have fits := fits_encode_append option following
  have address := readAt_encode_append option following
  have behind : (option.encode ++ following).drop (option.units.toNat * 8) = following :=
    List.drop_left' option.encode_length
  -- The option is opened to its type and its size, since the search looks at the two first bytes.
  have start : option.encode ++ following =
      option.kind :: option.units :: (option.content ++ following) := rfl
  rw [start] at fits address behind ⊢
  rw [linkOption?]
  simp only [if_neg fits, address, behind]

/-- Where options end, the search does. -/
theorem linkOption?_of_ended (wanted : UInt8) {rest : Bytes} (ended : Ended rest) :
    linkOption? wanted rest = none := by
  have stops := ended_iff.mp ended
  -- With two bytes there it stops at their size, and with fewer it has nothing to look at.
  unfold linkOption?
  split
  · rename_i kind size content
    have enough : ¬ (kind :: size :: content).length < 2 := by
      simp
    exact if_pos (stops.resolve_left enough)
  · rfl

/-- The search gives the address of the first option of the wanted type. -/
theorem linkOption?_options (wanted : UInt8) (options : List NeighborOption) {rest : Bytes}
    (ended : Ended rest) :
    linkOption? wanted (options.flatMap encode ++ rest) = firstLink? wanted options := by
  -- Induction on the options, each of which is found or stepped over.
  induction options with
  | nil => exact linkOption?_of_ended wanted ended
  | cons option options ih =>
    rw [List.flatMap_cons, List.append_assoc, linkOption?_encode_append, ih, firstLink?, firstLink?,
      List.find?_cons]
    by_cases same : option.kind = wanted
    · rw [if_pos same, beq_iff_eq.mpr same, Option.map_some]
    · rw [if_neg same, beq_false_of_ne same]

/-- Every byte string is a sequence of options and an end without one. -/
theorem exists_options (bytes : Bytes) : ∃ (options : List NeighborOption) (rest : Bytes),
    bytes = options.flatMap encode ++ rest ∧ Ended rest := by
  induction length : bytes.length using Nat.strongRecOn generalizing bytes with
  | ind size ih =>
    by_cases ended : Ended bytes
    · exact ⟨[], bytes, rfl, ended⟩
    -- The option at the front is taken off, which leaves fewer bytes.
    · obtain ⟨option, following, rfl⟩ := exists_of_not_ended ended
      have shorter : following.length < size := by
        rw [← length, List.length_append, encode, List.length_cons]
        omega
      obtain ⟨options, rest, same, ended⟩ := ih _ shorter following rfl
      exact ⟨option :: options, rest, by rw [List.flatMap_cons, List.append_assoc, same], ended⟩

section Walk

variable (wanted : UInt8) (options : Bytes)

/-- What one round of the walk over options comes to: the next offset, or the end with its result. -/
def round (offset : Nat) : Nat ⊕ Option Mac :=
  let length := (Bytes.byteAt options (offset + 1)).toNat * 8
  if options.length < offset + 2 then .inr none
  else if length = 0 ∨ options.length < offset + length then .inr none
  else if Bytes.byteAt options offset = wanted then .inr (some (Mac.readAt options (offset + 2)))
  else .inl (offset + length)

/-- The result of a walk that ends within a number of rounds. -/
def walk : Nat → Nat → Option (Option Mac)
  | 0, _ => none
  | rounds + 1, offset =>
    match round wanted options offset with
    | .inr result => some result
    | .inl next => walk rounds next

/-- A round at the end of the options ends the walk. -/
theorem round_of_ended {offset : Nat} (ended : Ended (options.drop offset)) :
    round wanted options offset = .inr none := by
  rw [ended_iff, Bytes.byteAt_drop, List.length_drop] at ended
  unfold round
  dsimp only
  -- Either fewer than two bytes are left, or the announced size stops the round.
  split
  · rfl
  · rw [if_pos (by omega)]

/-- A round at an option of the wanted type ends the walk, and one at another steps over it. -/
theorem round_of_option {offset : Nat} {option : NeighborOption} {following : Bytes}
    (start : options.drop offset = option.encode ++ following) :
    round wanted options offset = if option.kind = wanted then .inr (some option.link)
      else .inl (offset + option.units.toNat * 8) := by
  have fits := fits_encode_append option following
  have long := option.encode_length
  rw [← start, List.length_drop] at fits
  -- What is looked at stands at the front of what is left.
  have kind : Bytes.byteAt options offset = option.kind := by
    have read := Bytes.byteAt_drop options offset 0
    rw [start] at read
    exact read.symm
  have units : Bytes.byteAt options (offset + 1) = option.units := by
    have read := Bytes.byteAt_drop options offset 1
    rw [start] at read
    exact read.symm
  have address : Mac.readAt options (offset + 2) = option.link := by
    rw [← readAt_encode_append option following, ← start, Mac.readAt, Mac.readAt, Bytes.slice,
      Bytes.slice, List.drop_drop]
  unfold round
  rw [kind, units, address, if_neg (by omega), if_neg (by omega)]

/-- With a round for each unit that is left and one more, the walk ends with what the search finds. -/
theorem walk_of_lt {rounds offset : Nat} (within : offset ≤ options.length)
    (enough : options.length < offset + 8 * rounds) :
    walk wanted options rounds offset = some (linkOption? wanted (options.drop offset)) := by
  induction rounds generalizing offset with
  | zero => omega
  | succ rounds ih =>
    unfold walk
    by_cases ended : Ended (options.drop offset)
    · rw [round_of_ended wanted options ended, linkOption?_of_ended wanted ended]
    · obtain ⟨option, following, start⟩ := exists_of_not_ended ended
      rw [round_of_option wanted options start, start, linkOption?_encode_append]
      by_cases found : option.kind = wanted
      · rw [if_pos found, if_pos found]
      -- The rest of the walk starts behind the option, at least one unit further on.
      · have fits := fits_encode_append option following
        have behind : options.drop (offset + option.units.toNat * 8) = following := by
          rw [← List.drop_drop, start, List.drop_left' option.encode_length]
        rw [← start, List.length_drop] at fits
        rw [if_neg found, if_neg found, ← behind]
        exact ih (by omega) (by omega)

end Walk

/-- A message is written with the option of its address, if it has one. -/
theorem encodeLink_eq (kind : UInt8) (own : Option Mac) :
    encodeLink kind own = (own.toList.map (ofMac kind)).flatMap encode := by
  cases own with
  | none => rfl
  | some mac =>
    simp [encodeLink, ofMac, encode]

/-- The address that a message is written with comes before those of the options behind it. -/
theorem firstLink?_own (kind : UInt8) (own : Option Mac) (options : List NeighborOption) :
    firstLink? kind (own.toList.map (ofMac kind) ++ options) = (own <|> firstLink? kind options) := by
  cases own with
  -- With an address of its own the message has an option of the wanted type in front.
  | none => rfl
  | some mac =>
    have same : (ofMac kind mac).link = mac := by
      have read := @Mac.readAt_between [] mac [] 0 rfl
      rw [List.append_nil] at read
      exact read
    simp [firstLink?, ofMac] at same ⊢
    exact same

/-- Behind the address that a message is written with, options are searched in their order. -/
theorem linkOption?_own (kind : UInt8) (own : Option Mac) (options : List NeighborOption)
    {rest : Bytes} (ended : Ended rest) :
    linkOption? kind (encodeLink kind own ++ (options.flatMap encode ++ rest)) =
      (own <|> firstLink? kind options) := by
  rw [encodeLink_eq, ← List.append_assoc, ← List.flatMap_append, linkOption?_options kind _ ended,
    firstLink?_own]

/-- The messages of address resolution are read as they were written, and an ARP packet is written as it was read. In a
message with options, whatever the fixed part and the bytes at which they end, the first option of the type in question
counts. The search for it ends on every byte string, and finds the first option of those that make up the string. -/
theorem messages_read_back :
    (∀ packet : ArpPacket, ArpPacket.parse packet.encode = .ok packet) ∧
    (∀ buffer packet, ArpPacket.parse buffer = .ok packet →
      packet.encode = buffer.take ArpPacket.size) ∧
    (∀ message : NeighborSolicitation, NeighborSolicitation.parse
      (message.encode.drop Icmpv6Message.headerSize) = .ok message) ∧
    (∀ message : NeighborAdvertisement, NeighborAdvertisement.parse
      (message.encode.drop Icmpv6Message.headerSize) = .ok message) ∧
    (∀ (options : List NeighborOption) (rest : Bytes), Ended rest →
      (∀ message : NeighborSolicitation, NeighborSolicitation.parse
          (message.encode.drop Icmpv6Message.headerSize ++ (options.flatMap encode ++ rest)) =
        .ok { message with link := message.link <|> firstLink? sourceLink options }) ∧
      (∀ message : NeighborAdvertisement, NeighborAdvertisement.parse
          (message.encode.drop Icmpv6Message.headerSize ++ (options.flatMap encode ++ rest)) =
        .ok { message with link := message.link <|> firstLink? targetLink options }) ∧
      ∀ fixed : Bytes, fixed.length = leastBody →
        (∃ message, NeighborSolicitation.parse (fixed ++ (options.flatMap encode ++ rest)) =
          .ok message ∧ message.link = firstLink? sourceLink options) ∧
        ∃ message, NeighborAdvertisement.parse (fixed ++ (options.flatMap encode ++ rest)) =
          .ok message ∧ message.link = firstLink? targetLink options) ∧
    ∀ bytes : Bytes, ∃ (options : List NeighborOption) (rest : Bytes),
      bytes = options.flatMap encode ++ rest ∧ Ended rest ∧
      ∀ wanted, linkOption? wanted bytes = firstLink? wanted options ∧
        walk wanted bytes (bytes.length / 8 + 1) 0 = some (linkOption? wanted bytes) := by
  refine ⟨?_, ?_, ?_, ?_, ?_, ?_⟩
  · -- Without options the messages are the written ones, with nothing behind.
    intro packet
    have read := packet.parse_encode []
    rwa [List.append_nil] at read
  · intro buffer packet read
    exact ArpPacket.encode_of_parse read
  · intro message
    exact message.parse_encode
  · intro message
    exact message.parse_encode
  · -- In company the fixed part reads as before, and the address is that of the first wanted option.
    intro options rest ended
    refine ⟨?_, ?_, ?_⟩
    · intro message
      rw [message.parse_encode_append, linkOption?_own sourceLink message.link options ended]
    · intro message
      rw [message.parse_encode_append, linkOption?_own targetLink message.link options ended]
    · intro fixed twenty
      constructor
      · exact ⟨_, NeighborSolicitation.parse_append twenty _,
          linkOption?_options sourceLink options ended⟩
      · exact ⟨_, NeighborAdvertisement.parse_append twenty _,
          linkOption?_options targetLink options ended⟩
  · -- Any bytes at all are options up to where these end, and the walk needs no more steps than they have
    -- options.
    intro bytes
    obtain ⟨options, rest, same, ended⟩ := exists_options bytes
    refine ⟨options, rest, same, ended, ?_⟩
    intro wanted
    constructor
    · rw [same]
      exact linkOption?_options wanted options ended
    · exact walk_of_lt wanted bytes (Nat.zero_le _) (by omega)

/-- An option of another type, of two units. -/
def otherOption : NeighborOption :=
  ⟨14, 2, Bytes.zeros 14, rfl⟩

/-- A padded ARP question is written as its first bytes, and behind an option of another type the address of a target is
found, in front of an option of size zero. -/
theorem behind_otherOption :
    let question := (ArpPacket.request (Mac.localUnicast 1) (Address.ofNat 1) (Address.ofNat 2))
    let options := [otherOption, ofMac targetLink (Mac.localUnicast 7)]
    question.encode = (question.encode ++ Bytes.zeros 18).take ArpPacket.size ∧
    (∃ message, NeighborAdvertisement.parse
        (Bytes.zeros 20 ++ (options.flatMap encode ++ [targetLink, 0])) = .ok message ∧
      message.link = some (Mac.localUnicast 7)) := by
  intro question options
  obtain ⟨-, written, -, -, inCompany, -⟩ := messages_read_back
  constructor
  · exact written _ question (question.parse_encode _)
  · -- Two bytes that announce a size of zero end the options.
    have ended : Ended [targetLink, 0] := by
      rw [ended_iff]
      decide
    obtain ⟨message, read, link⟩ := ((inCompany options _ ended).2.2 (Bytes.zeros 20) rfl).2
    exact ⟨message, read, link⟩

end Neighbor

end NetworkLayer
