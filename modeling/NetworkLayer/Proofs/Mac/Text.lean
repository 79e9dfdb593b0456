import NetworkLayer.Proofs.Mac

/-!
The text of link-layer addresses. Main statement: a text is read as its grammar says, six groups of two hexadecimal
digits joined by colons or hyphens, but for groups of a plus sign and one digit, which are read as well.
-/

namespace NetworkLayer

namespace Text

/-- The lower-case digits of base sixteen, each at the place of its value. -/
def lowerDigits : List Char :=
  ['0', '1', '2', '3', '4', '5', '6', '7', '8', '9', 'a', 'b', 'c', 'd', 'e', 'f']

/-- The upper-case digits of base sixteen, each at the place of its value. -/
def upperDigits : List Char :=
  ['0', '1', '2', '3', '4', '5', '6', '7', '8', '9', 'A', 'B', 'C', 'D', 'E', 'F']

/-- A character is the hexadecimal digit of a value, in either case. -/
def IsHexDigit (value : Nat) (c : Char) : Prop :=
  lowerDigits[value]? = some c ∨ upperDigits[value]? = some c

instance (value : Nat) (c : Char) : Decidable (IsHexDigit value c) :=
  inferInstanceAs (Decidable (_ ∨ _))

/-- There are sixteen digits. -/
theorem IsHexDigit.lt {value : Nat} {c : Char} (digit : IsHexDigit value c) : value < 16 := by
  rcases digit with lower | upper
  · exact (List.getElem?_eq_some_iff.mp lower).1
  · exact (List.getElem?_eq_some_iff.mp upper).1

/-- A character is read as a digit of base sixteen exactly if it is one. -/
theorem digit?_eq_some_iff {value : Nat} {c : Char} :
    digit? 16 c = some value ↔ IsHexDigit value c := by
  constructor
  · intro read
    -- The three ranges end at 'f', so that there are few characters to look at.
    have ascii : c.toNat < 128 := by
      apply Nat.lt_of_not_le
      intro beyond
      have above (last : Char) (low : last.toNat < 128) : ¬ c ≤ last := by
        intro within
        have most : c.toNat ≤ last.toNat := within
        omega
      simp [digit?, above '9' (by decide), above 'f' (by decide), above 'F' (by decide)] at read
    have small : value < 16 := by
      rw [digit?, Option.filter_eq_some_iff] at read
      simpa using read.2
    have all : ∀ place < 128, ∀ value < 16,
        digit? 16 (Char.ofNat place) = some value → IsHexDigit value (Char.ofNat place) := by
      decide +kernel
    have digit := all c.toNat ascii value small
    rw [Char.ofNat_toNat] at digit
    exact digit read
  · intro digit
    -- A digit that is written small or capital is read back as its value.
    have all : ∀ value < 16, lowerDigits[value]?.bind (digit? 16) = some value ∧
        upperDigits[value]?.bind (digit? 16) = some value := by
      decide +kernel
    obtain ⟨small, capital⟩ := all value digit.lt
    rcases digit with lower | upper
    · rwa [lower] at small
    · rwa [upper] at capital

/-- A numeral without a sign is digits only. -/
theorem unsigned?_of_plain {base limit : Nat} {head : Char} {rest : List Char}
    (plain : head ≠ '+') :
    unsigned? base limit (head :: rest) = (digits? base (head :: rest)).filter (· < limit) := by
  -- Only a plus sign is treated on its own.
  unfold unsigned?
  split
  · rename_i same
    cases same
    exact absurd rfl plain
  · rfl

/-- One character spells what it has as a digit. -/
theorem digits?_single {base : Nat} (c : Char) : digits? base [c] = digit? base c := by
  cases read : digit? base c <;> simp [digits?, read]

/-- Two characters spell a number by the two digits that it is divided into. -/
theorem digits?_pair_eq_some_iff {high low : Char} {number : Nat} :
    digits? 16 [high, low] = some number ↔
      IsHexDigit (number / 16) high ∧ IsHexDigit (number % 16) low := by
  have spelled : digits? 16 [high, low] =
      (digit? 16 high).bind fun sixteens => (digit? 16 low).map (sixteens * 16 + ·) := by
    -- Both characters have to be digits, or nothing is read.
    cases first : digit? 16 high <;> cases second : digit? 16 low <;>
      simp [digits?, first, second]
  rw [spelled]
  constructor
  · intro read
    obtain ⟨sixteens, first, read⟩ := Option.bind_eq_some_iff.mp read
    obtain ⟨units, second, rfl⟩ := Option.map_eq_some_iff.mp read
    rw [digit?_eq_some_iff] at first second
    have small := second.lt
    rw [show (sixteens * 16 + units) / 16 = sixteens by omega,
      show (sixteens * 16 + units) % 16 = units by omega]
    exact ⟨first, second⟩
  · -- The two digits put the number together again.
    intro digits
    rw [digit?_eq_some_iff.mpr digits.1, digit?_eq_some_iff.mpr digits.2]
    simp
    omega

end Text

namespace Mac

open Text (IsHexDigit)

/-- Two hexadecimal digits that spell an octet. -/
def Pair (group : List Char) (octet : UInt8) : Prop :=
  ∃ high low, group = [high, low] ∧ IsHexDigit (octet.toNat / 16) high ∧
    IsHexDigit (octet.toNat % 16) low

/-- A plus sign in front of one hexadecimal digit, which spells an octet below sixteen. -/
def Signed (group : List Char) (octet : UInt8) : Prop :=
  ∃ digit, group = ['+', digit] ∧ IsHexDigit octet.toNat digit

/-- A group that is read as an octet. -/
def Group (group : List Char) (octet : UInt8) : Prop :=
  Pair group octet ∨ Signed group octet

/-- Whether a character separates groups. -/
def isMark (c : Char) : Bool :=
  c == ':' || c == '-'

/-- Groups that spell octets, one for each, joined by separators. -/
inductive Joined (spells : List Char → UInt8 → Prop) : List Char → Bytes → Prop
  | last {group : List Char} {octet : UInt8} (spelled : spells group octet) :
      Joined spells group [octet]
  | more {group text : List Char} {mark : Char} {octet : UInt8} {octets : Bytes}
      (spelled : spells group octet) (marks : isMark mark) (rest : Joined spells text octets) :
      Joined spells (group ++ mark :: text) (octet :: octets)

section Groups

variable {group text : List Char} {octet : UInt8} {octets : Bytes}

/-- A digit is neither a separator nor a sign. -/
theorem not_mark_of_digit {value : Nat} {c : Char} (digit : IsHexDigit value c) :
    ¬ isMark c ∧ c ≠ '+' := by
  have read := Text.digit?_eq_some_iff.mpr digit
  -- A character that reads as no digit is another one.
  have unread (other : Char) (none : Text.digit? 16 other = none) : c ≠ other := by
    intro same
    rw [same, none] at read
    cases read
  constructor
  · intro marks
    rcases Bool.or_eq_true_iff.mp marks with colon | hyphen
    · exact unread ':' rfl (eq_of_beq colon)
    · exact unread '-' rfl (eq_of_beq hyphen)
  · exact unread '+' rfl

/-- A pair holds no separator and no sign. -/
theorem Pair.plain (pair : Pair group octet) : ∀ c ∈ group, ¬ isMark c ∧ c ≠ '+' := by
  obtain ⟨high, low, rfl, first, second⟩ := pair
  intro c listed
  rw [List.mem_cons, List.mem_singleton] at listed
  -- Both characters of a pair are digits.
  rcases listed with rfl | rfl
  · exact not_mark_of_digit first
  · exact not_mark_of_digit second

/-- A group holds no separator. -/
theorem Group.unmarked (spelled : Group group octet) : ∀ c ∈ group, ¬ isMark c := by
  -- A pair has two digits, and a group with a sign has the sign and a digit.
  rcases spelled with pair | ⟨digit, rfl, value⟩
  · intro c listed
    exact (pair.plain c listed).1
  · intro c listed
    rw [List.mem_cons, List.mem_singleton] at listed
    rcases listed with rfl | rfl
    · decide
    · exact (not_mark_of_digit value).1

/-- A number that is an octet is the octet's number. -/
theorem map_filter_eq_some_iff {number : Option Nat} :
    (number.filter (· < 256)).map UInt8.ofNat = some octet ↔ number = some octet.toNat := by
  constructor
  · -- The filter lets an octet through, and nothing larger.
    intro read
    obtain ⟨value, kept, rfl⟩ := Option.map_eq_some_iff.mp read
    obtain ⟨rfl, small⟩ := Option.filter_eq_some_iff.mp kept
    rw [UInt8.toNat_ofNat_of_lt' (by simpa using small)]
  · rintro rfl
    rw [Option.filter_some, if_pos (decide_eq_true octet.toNat_lt), Option.map_some,
      UInt8.ofNat_toNat]

/-- Characters are read as an octet exactly if they are a group that spells it. -/
theorem octet?_eq_some_iff : octet? group = some octet ↔ Group group octet := by
  rw [octet?]
  split
  · rename_i two
    match group, two with
    | [first, second], _ =>
    by_cases sign : first = '+'
    -- The sign is dropped, and one digit is left.
    · subst sign
      rw [Text.unsigned?, map_filter_eq_some_iff, Text.digits?_single, Text.digit?_eq_some_iff]
      constructor
      · intro digit
        exact .inr ⟨second, rfl, digit⟩
      · rintro (pair | ⟨digit, same, value⟩)
        · exact absurd rfl (pair.plain '+' (by simp)).2
        · cases same
          exact value
    · -- Without a sign both characters are digits.
      rw [Text.unsigned?_of_plain sign, map_filter_eq_some_iff, Text.digits?_pair_eq_some_iff]
      constructor
      · intro digits
        exact .inl ⟨first, second, rfl, digits⟩
      · rintro (⟨high, low, same, digits⟩ | ⟨digit, same, -⟩)
        · cases same
          exact digits
        · cases same
          exact absurd rfl sign
  · rename_i other
    -- Any other number of characters is neither a pair nor a sign with a digit.
    constructor
    · intro read
      cases read
    · rintro (⟨high, low, rfl, -⟩ | ⟨digit, rfl, -⟩) <;> exact absurd rfl other

/-- The text in front of the first separator is a group, and the groups behind it follow. -/
theorem splitOnP_marked {mark : Char} (plain : ∀ c ∈ group, ¬ isMark c) (marks : isMark mark) :
    (group ++ mark :: text).splitOnP isMark = group :: text.splitOnP isMark :=
  List.splitOnP_append_cons_of_forall_mem (by simpa using plain) mark marks text

/-- A text without separators is one group; any other has a first separator. -/
theorem unmarked_or_split (text : List Char) : (∀ c ∈ text, ¬ isMark c) ∨
    ∃ group mark rest, text = group ++ mark :: rest ∧ isMark mark ∧ ∀ c ∈ group, ¬ isMark c := by
  -- The induction is on the text, where the first separator ends the first group.
  induction text with
  | nil => exact .inl (by simp)
  | cons c text ih =>
    by_cases marks : isMark c
    · exact .inr ⟨[], c, text, rfl, marks, by simp⟩
    · rcases ih with plain | ⟨group, mark, rest, rfl, other, plain⟩
      · exact .inl (List.forall_mem_cons.mpr ⟨marks, plain⟩)
      · exact .inr ⟨c :: group, mark, rest, rfl, other, List.forall_mem_cons.mpr ⟨marks, plain⟩⟩

/-- Groups are read one after the other. -/
theorem mapM_octet?_cons {groups : List (List Char)} :
    (group :: groups).mapM octet? = some octets ↔
      ∃ octet following, octet? group = some octet ∧ groups.mapM octet? = some following ∧
        octets = octet :: following := by
  rw [List.mapM_cons]
  cases octet? group <;> cases groups.mapM octet? <;> simp [eq_comm]

/-- The groups of a text spell octets, one for each, exactly if the text joins such groups. -/
theorem mapM_octet?_splitOnP :
    (text.splitOnP isMark).mapM octet? = some octets ↔ Joined Group text octets := by
  constructor
  -- One group is taken off the front at a time.
  · induction length : text.length using Nat.strongRecOn generalizing text octets with
    | ind size ih =>
      intro spelled
      rcases unmarked_or_split text with plain | ⟨group, mark, rest, rfl, marks, plain⟩
      · rw [List.splitOnP_eq_singleton (by simpa using plain)] at spelled
        obtain ⟨octet, following, read, none, rfl⟩ := mapM_octet?_cons.mp spelled
        cases none
        exact .last (octet?_eq_some_iff.mp read)
      · rw [splitOnP_marked plain marks] at spelled
        obtain ⟨octet, following, read, tail, rfl⟩ := mapM_octet?_cons.mp spelled
        have shorter : rest.length < size := by
          rw [← length, List.length_append, List.length_cons]
          omega
        exact .more (octet?_eq_some_iff.mp read) marks (ih rest.length shorter rfl tail)
  · -- The induction is on the groups that were joined.
    intro joined
    induction joined with
    | last spelled =>
      rw [List.splitOnP_eq_singleton (by simpa using spelled.unmarked)]
      exact mapM_octet?_cons.mpr ⟨_, [], octet?_eq_some_iff.mpr spelled, rfl, rfl⟩
    | more spelled marks rest ih =>
      rw [splitOnP_marked spelled.unmarked marks]
      exact mapM_octet?_cons.mpr ⟨_, _, octet?_eq_some_iff.mpr spelled, ih, rfl⟩

/-- As many octets are read as there are groups. -/
theorem length_of_mapM {groups : List (List Char)} (read : groups.mapM octet? = some octets) :
    octets.length = groups.length := by
  induction groups generalizing octets with
  | nil =>
    cases read
    rfl
  | cons group groups ih =>
    obtain ⟨octet, following, -, tail, rfl⟩ := mapM_octet?_cons.mp read
    simp [ih tail]

/-- A text is read as an address exactly if it joins groups that spell the octets of the address. -/
theorem parse?_eq_some_iff {text : String} {mac : Mac} :
    parse? text = some mac ↔ Joined Group text.toList mac.octets := by
  rw [← mapM_octet?_splitOnP]
  have reading : parse? text = if (text.toList.splitOnP isMark).length = 6 then
      ((text.toList.splitOnP isMark).mapM octet?).map fun octets => ofNat (Bytes.value octets)
    else none := rfl
  -- Six groups are asked for, and six octets make an address.
  rw [reading]
  constructor
  · intro read
    split at read
    · rename_i six
      obtain ⟨octets, spelled, value⟩ := Option.map_eq_some_iff.mp read
      have length := length_of_mapM spelled
      rw [spelled, octets_eq_iff.mpr ⟨length.trans six, value⟩]
    · cases read
  · intro spelled
    have length := length_of_mapM spelled
    rw [if_pos (length.symm.trans mac.octets_length), spelled, Option.map_some,
      ofNat_value_octets]

/-- Groups of pairs hold no sign. -/
theorem Joined.unsigned (joined : Joined Pair text octets) : '+' ∉ text := by
  -- The induction is on the groups, and neither a pair nor a separator holds a sign.
  induction joined with
  | last pair =>
    intro sign
    exact (pair.plain '+' sign).2 rfl
  | more pair marks rest ih =>
    intro sign
    rw [List.mem_append, List.mem_cons] at sign
    rcases sign with sign | rfl | sign
    · exact (pair.plain '+' sign).2 rfl
    · cases marks
    · exact ih sign

/-- Groups without a sign are pairs. -/
theorem Joined.pairs (joined : Joined Group text octets) (plain : '+' ∉ text) :
    Joined Pair text octets := by
  -- A group that is no pair starts with its sign.
  have pair {group : List Char} {octet : UInt8} (spelled : Group group octet)
      (plain : '+' ∉ group) : Pair group octet := by
    rcases spelled with pair | ⟨digit, rfl, -⟩
    · exact pair
    · exact absurd (List.mem_cons_self ..) plain
  induction joined with
  | last spelled => exact .last (pair spelled plain)
  | more spelled marks rest ih =>
    rw [List.mem_append, List.mem_cons, not_or, not_or] at plain
    exact .more (pair spelled plain.1) marks (ih plain.2.2)

/-- Joined groups of pairs are joined groups. -/
theorem Joined.groups (joined : Joined Pair text octets) : Joined Group text octets := by
  induction joined with
  | last pair => exact .last (.inl pair)
  | more pair marks rest ih => exact .more (.inl pair) marks ih

end Groups

section Written

/-- The text of an octet is a pair of digits. -/
theorem pair_hex (octet : UInt8) : Pair (Text.hex 2 octet.toNat).toList octet := by
  -- There are few octets, so that each of them is looked at.
  have all : ∀ number < 256, (Text.lowerDigits[number / 16]?.bind fun high =>
      Text.lowerDigits[number % 16]?.map fun low => [high, low]) =
        some (Text.hex 2 number).toList := by
    simp only [Text.hex, String.toList_ofList]
    decide +kernel
  obtain ⟨high, first, found⟩ := Option.bind_eq_some_iff.mp (all octet.toNat octet.toNat_lt)
  obtain ⟨low, second, text⟩ := Option.map_eq_some_iff.mp found
  exact ⟨high, low, text.symm, .inl first, .inl second⟩

/-- The texts of octets, joined by colons, are joined pairs. -/
theorem joined_intercalate (octet : UInt8) (octets : Bytes) : Joined Pair
    ([':'].intercalate ((octet :: octets).map fun octet => (Text.hex 2 octet.toNat).toList))
    (octet :: octets) := by
  -- The induction is on the octets behind the first one.
  induction octets generalizing octet with
  | nil =>
    rw [List.map_cons, List.map_nil, List.intercalate_singleton]
    exact .last (pair_hex octet)
  | cons next octets ih =>
    have colon : isMark ':' := rfl
    rw [List.map_cons, List.map_cons, List.intercalate_cons_cons, List.append_assoc]
    exact .more (pair_hex octet) colon (ih next)

/-- The text of an address joins the pairs of its octets. -/
theorem joined_render (mac : Mac) : Joined Pair mac.render.toList mac.octets := by
  -- An address has six octets, so there is a first one.
  have six := mac.octets_length
  cases octets : mac.octets with
  | nil =>
    rw [octets] at six
    cases six
  | cons octet rest =>
    rw [render, octets, String.toList_intercalate, List.map_map]
    exact joined_intercalate octet rest

/-- A text is read as an address exactly if it joins groups of two digits, or of a sign and a digit, that spell the
address. So the readable texts are those of the grammar unless a group has a sign, and every written text is read. -/
theorem text_read_iff (text : String) :
    (∀ mac, parse? text = some mac ↔ Joined Group text.toList mac.octets) ∧
    ((∀ mac, parse? text = some mac ↔ Joined Pair text.toList mac.octets) ↔
      ¬ ('+' ∈ text.toList ∧ ∃ mac : Mac, Joined Group text.toList mac.octets)) ∧
    ∀ mac : Mac, Joined Pair mac.render.toList mac.octets ∧ parse? mac.render = some mac := by
  refine ⟨fun mac => parse?_eq_some_iff, ?_, ?_⟩
  · constructor
    · -- A sign in a readable text would be one in a pair.
      rintro exactly ⟨sign, mac, joined⟩
      exact ((exactly mac).mp (parse?_eq_some_iff.mpr joined)).unsigned sign
    · intro plain mac
      rw [parse?_eq_some_iff]
      constructor
      · intro joined
        apply joined.pairs
        intro sign
        exact plain ⟨sign, mac, joined⟩
      · intro joined
        exact joined.groups
  · -- What is rendered has pairs of digits, which read back.
    intro mac
    exact ⟨joined_render mac, parse?_eq_some_iff.mpr (joined_render mac).groups⟩

/-- A group of a sign and a digit is read, although it is no pair of digits. -/
theorem signed_group_read : parse? "+5:11:22:33:44:55" = some (ofNat 0x051122334455) ∧
    ∀ octets, ¬ Joined Pair "+5:11:22:33:44:55".toList octets := by
  constructor
  · decide +kernel
  · intro octets joined
    exact joined.unsigned (by decide)

end Written

end Mac

end NetworkLayer
