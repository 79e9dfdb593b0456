import Mathlib.Algebra.Group.Nat.Defs
import NetworkLayer.Proofs.Address.Text
import NetworkLayer.Proofs.Pieces

/-!
The text of addresses, in groups joined by colons for IPv6. Main statements: the text of an address reads back as the
address, and it has neither a slash nor white space.
-/

namespace NetworkLayer.Address

section Groups

/-- The lowest groups of a number, joined again, are what is left of it. -/
theorem joined_lowest (count number : Nat) : joined 65536 ((List.range count).map fun index =>
    number >>> (16 * (count - 1 - index)) % 65536) = number % 65536 ^ count := by
  -- The induction is on the count, for any number, since the groups in front are those of a shifted one.
  induction count generalizing number with
  | zero => exact (Nat.mod_one number).symm
  | succ count ih =>
    -- All groups but the last one are those of the number without it.
    have front : ((List.range count).map fun index =>
          number >>> (16 * (count + 1 - 1 - index)) % 65536) =
        (List.range count).map fun index =>
          (number >>> 16) >>> (16 * (count - 1 - index)) % 65536 := by
      refine List.map_congr_left fun index listed => ?_
      have early : index < count := List.mem_range.mp listed
      have places : 16 * (count + 1 - 1 - index) = 16 + 16 * (count - 1 - index) := by omega
      rw [places, Nat.shiftRight_add]
    have before := ih (number >>> 16)
    rw [joined] at before ⊢
    rw [List.range_succ, List.map_append, List.foldl_append, front, before]
    calc number >>> 16 % 65536 ^ count * 65536 + number >>> (16 * (count + 1 - 1 - count)) % 65536
        = number % 65536 + 65536 * (number / 65536 % 65536 ^ count) := by
          rw [Nat.add_sub_cancel, Nat.sub_self, Nat.mul_zero, Nat.shiftRight_zero,
            Nat.shiftRight_eq_div_pow, Nat.mul_comm, Nat.add_comm]
      _ = number % 65536 ^ (count + 1) := by rw [Nat.pow_succ', Nat.mod_mul]

/-- The groups of an address, joined again, are its number. -/
theorem joined_groups (address : Address .v6) : joined 65536 address.groups = address.number :=
  (joined_lowest 8 address.number).trans (Nat.mod_eq_of_lt address.bound)

/-- There are eight groups of 16 bits. -/
theorem groups_length (address : Address .v6) : address.groups.length = 8 := by
  simp [groups]

/-- Every group is of 16 bits. -/
theorem lt_of_mem_groups {address : Address .v6} {group : Nat} (listed : group ∈ address.groups) :
    group < 65536 := by
  obtain ⟨index, -, rfl⟩ := List.mem_map.mp listed
  exact Nat.mod_lt _ (by decide)

end Groups

section Run

/-- The longest run of zeros stands where it is found. -/
theorem longestZeroRun_spec (start : Nat) (groups : List Nat) : ∃ front back,
    groups = front ++ List.replicate (longestZeroRun start groups).2 0 ++ back ∧
      (longestZeroRun start groups).1 = start + front.length := by
  induction groups generalizing start with
  | nil => exact ⟨[], [], rfl, rfl⟩
  | cons group rest ih =>
    rw [longestZeroRun]
    split
    · -- The run is the one of the rest.
      obtain ⟨front, back, shape, place⟩ := ih (start + 1)
      exact ⟨group :: front, back, by rw [List.cons_append, List.cons_append, ← shape],
        by rw [place, List.length_cons]; omega⟩
    · refine ⟨[], (group :: rest).dropWhile (· == 0), ?_, rfl⟩
      have zeros : (group :: rest).takeWhile (· == 0) =
          List.replicate (zeroRun (group :: rest)) 0 :=
        List.eq_replicate_of_mem fun group listed =>
          eq_of_beq (List.all_eq_true.mp List.all_takeWhile group listed)
      rw [List.nil_append, ← zeros, List.takeWhile_append_dropWhile]

/-- The groups are those in front of the longest run of zeros, the zeros, and those behind it. -/
theorem around_longestZeroRun (groups : List Nat) :
    (longestZeroRun 0 groups).1 + (longestZeroRun 0 groups).2 ≤ groups.length ∧
      groups.take (longestZeroRun 0 groups).1 ++ List.replicate (longestZeroRun 0 groups).2 0 ++
        groups.drop ((longestZeroRun 0 groups).1 + (longestZeroRun 0 groups).2) = groups := by
  -- The run is where the search says, so the groups split there into three parts.
  obtain ⟨front, back, shape, place⟩ := longestZeroRun_spec 0 groups
  generalize longestZeroRun 0 groups = run at shape place ⊢
  obtain ⟨start, zeros⟩ := run
  dsimp only at shape place ⊢
  rw [Nat.zero_add] at place
  subst place shape
  have within : front.length + zeros = (front ++ List.replicate zeros 0).length := by simp
  refine ⟨by simp, ?_⟩
  rw [within, List.drop_left, List.append_assoc front, List.take_left, ← List.append_assoc]

end Run

section Numerals

/-- A group is written with its digits. -/
theorem toList_hex (group : Nat) : (Text.hex 1 group).toList = Nat.toDigits 16 group := by
  have filled : 1 - (Nat.toDigits 16 group).length = 0 :=
    Nat.sub_eq_zero_of_le (List.length_pos_iff.mpr Nat.toDigits_ne_nil)
  rw [Text.hex, String.toList_ofList, filled]
  rfl

/-- The numeral of a group reads back. -/
theorem group?_toDigits {group : Nat} (small : group < 65536) :
    group? (Nat.toDigits 16 group) = some group := by
  rw [group?, if_pos ((Nat.length_toDigits_le_iff (by decide) (by decide)).mpr small),
    Text.digits?_toDigits (by decide) (by decide)]

/-- The numerals of groups read back. -/
theorem mapM_group? {groups : List Nat} (small : ∀ group ∈ groups, group < 65536) :
    (groups.map (Nat.toDigits 16)).mapM group? = some groups := by
  induction groups with
  | nil => rfl
  | cons group rest ih =>
    obtain ⟨here, later⟩ := List.forall_mem_cons.mp small
    rw [List.map_cons, List.mapM_cons, group?_toDigits here, ih later]
    rfl

/-- Groups without an IPv4 address at their end read back. -/
theorem groupsOf?_toDigits {groups : List Nat} (small : ∀ group ∈ groups, group < 65536) :
    groupsOf? (groups.map (Nat.toDigits 16)) = some groups := by
  induction groups with
  | nil => rfl
  | cons group rest ih =>
    obtain ⟨here, later⟩ := List.forall_mem_cons.mp small
    -- The last group may be an IPv4 address, so it is read in a way of its own.
    cases rest with
    | nil =>
      rw [List.map_cons, List.map_nil, groupsOf?, group?_toDigits here]
    | cons next rest =>
      rw [List.map_cons] at ih
      rw [List.map_cons, List.map_cons, groupsOf?, group?_toDigits here, ih later]
      · rfl
      · exact List.cons_ne_nil _ _

/-- Groups are written with their digits, joined by colons. -/
theorem toList_renderGroups (groups : List Nat) :
    (renderGroups groups).toList = [':'].intercalate (groups.map (Nat.toDigits 16)) := by
  have numerals : String.toList ∘ Text.hex 1 = Nat.toDigits 16 := funext toList_hex
  rw [renderGroups, String.toList_intercalate, List.map_map, numerals]
  rfl

/-- The numeral of a group is not empty, and has no colon. -/
theorem proper_numerals (groups : List Nat) :
    ∀ numeral ∈ groups.map (Nat.toDigits 16), numeral ≠ [] ∧ ':' ∉ numeral := by
  intro numeral listed
  obtain ⟨group, -, rfl⟩ := List.mem_map.mp listed
  refine ⟨Nat.toDigits_ne_nil, fun colon => ?_⟩
  have digit := Text.digit?_of_mem_toDigits (by decide) (by decide) colon
  revert digit
  decide

/-- Written groups come apart at the colons. -/
theorem splitOn_renderGroups {groups : List Nat} (filled : groups ≠ []) :
    (renderGroups groups).toList.splitOn ':' = groups.map (Nat.toDigits 16) := by
  rw [toList_renderGroups]
  exact List.splitOn_intercalate ':' (fun numeral listed => (proper_numerals groups numeral listed).2)
    (mt List.map_eq_nil_iff.mp filled)

/-- Only no groups are written as nothing. -/
theorem isEmpty_renderGroups (groups : List Nat) :
    (renderGroups groups).toList.isEmpty = groups.isEmpty := by
  -- Every numeral has a digit, and so has the text of a first group.
  cases groups with
  | nil => rfl
  | cons group rest =>
    obtain ⟨c, numeral, digits⟩ := List.exists_cons_of_ne_nil (Nat.toDigits_ne_nil (n := group) (b := 16))
    obtain ⟨more, text⟩ := Text.exists_intercalate_cons ':' c numeral
      (rest.map (Nat.toDigits 16))
    rw [toList_renderGroups, List.map_cons, digits, text]
    rfl

/-- Written groups read back. -/
theorem colonGroups?_renderGroups {groups : List Nat} (small : ∀ group ∈ groups, group < 65536) :
    colonGroups? (renderGroups groups).toList = some groups := by
  rw [colonGroups?, isEmpty_renderGroups]
  -- No group at all is written as nothing, which the split alone would read as one empty piece.
  cases groups with
  | nil => rfl
  | cons group rest =>
    rw [splitOn_renderGroups (List.cons_ne_nil _ _)]
    exact groupsOf?_toDigits small

/-- Written groups read back, where no IPv4 address can be. -/
theorem mapM_renderGroups {groups : List Nat} (small : ∀ group ∈ groups, group < 65536) :
    (if (renderGroups groups).toList.isEmpty then some []
      else ((renderGroups groups).toList.splitOn ':').mapM group?) = some groups := by
  rw [isEmpty_renderGroups]
  cases groups with
  | nil => rfl
  | cons group rest =>
    rw [splitOn_renderGroups (List.cons_ne_nil _ _)]
    exact mapM_group? small

end Numerals

section Dotted

/-- Dotted octets are no group. -/
theorem group?_renderDotted (number : Nat) : group? (renderDotted number).toList = none := by
  rw [group?]
  -- The dot is no digit of any base.
  split
  · refine Option.eq_none_iff_forall_ne_some.mpr fun group spelled => ?_
    have digit := Text.digit?_of_digits? spelled (dot_mem_renderDotted number)
    revert digit
    decide
  · rfl

/-- An IPv4 address at the end is read as the two groups that it fills. -/
theorem colonGroups?_mapped (number : Nat) :
    colonGroups? ("ffff:".toList ++ (renderDotted number).toList) =
      some [0xFFFF, number % 0x100000000 / 65536, number % 0x100000000 % 65536] := by
  have pieces : "ffff:".toList ++ (renderDotted number).toList =
      [':'].intercalate [['f', 'f', 'f', 'f'], (renderDotted number).toList] := by
    rw [List.intercalate_cons_cons, List.intercalate_singleton]
    rfl
  -- No piece has a colon in it, so the text falls apart where it was put together.
  have plain : ∀ piece ∈ [['f', 'f', 'f', 'f'], (renderDotted number).toList], ':' ∉ piece := by
    rw [List.forall_mem_cons, List.forall_mem_singleton]
    refine ⟨by decide, fun colon => ?_⟩
    have digit := mem_renderDotted colon
    revert digit
    decide
  have group : group? ['f', 'f', 'f', 'f'] = some 0xFFFF := by decide
  rw [colonGroups?, if_neg (by simp), pieces, List.splitOn_intercalate ':' plain (by simp),
    groupsOf?, groupsOf?, group, group?_renderDotted, dotted?_renderDotted]
  · rfl
  · exact List.cons_ne_nil _ _

end Dotted

section Colons

/-- Groups on both sides of a double colon are read with zeros between them. -/
theorem colons?_of_cut {text before after : List Char} {head tail : List Nat}
    (cut : Text.cutDouble ':' text = some (before, after))
    (front : (if before.isEmpty then some [] else (before.splitOn ':').mapM group?) = some head)
    (back : colonGroups? after = some tail) (room : head.length + tail.length ≤ 7) :
    colons? text = some (joined 65536
      (head ++ List.replicate (8 - head.length - tail.length) 0 ++ tail)) := by
  unfold colons?
  rw [cut]
  simp only [back, Option.bind_eq_bind, Option.bind_some]
  -- Nothing in front of the double colon counts as no groups and not as one that is empty.
  split at front
  case isTrue empty =>
    cases front
    rw [if_pos empty, if_pos room]
  case isFalse filled => rw [if_neg filled, front, Option.bind_some, if_pos room]

/-- An IPv4-mapped address reads back as its number. -/
theorem colons?_mapped {number : Nat} (mapped : number / 0x100000000 = 0xFFFF) :
    colons? ("::ffff:" ++ renderDotted number).toList = some number := by
  -- The double colon stands in front, with nothing before it.
  have cut : Text.cutDouble ':' ("::ffff:" ++ renderDotted number).toList =
      some ([], "ffff:".toList ++ (renderDotted number).toList) := by
    rw [String.toList_append]
    rfl
  rw [colons?_of_cut cut rfl (colonGroups?_mapped number) (by simp)]
  simp [joined]
  omega

/-- Groups without a double colon read back as the number that they spell. -/
theorem colons?_renderGroups {groups : List Nat} (small : ∀ group ∈ groups, group < 65536)
    (eight : groups.length = 8) :
    colons? (renderGroups groups).toList = some (joined 65536 groups) := by
  -- Numerals are never empty, so there is no double colon between them.
  have uncut : Text.cutDouble ':' (renderGroups groups).toList = none := by
    rw [toList_renderGroups, ← List.append_nil ([':'].intercalate _),
      Text.cutDouble_intercalate (proper_numerals groups)]
    rfl
  unfold colons?
  rw [uncut]
  simp only [colonGroups?_renderGroups small, Option.bind_eq_bind, Option.bind_some]
  rw [if_pos eight]

/-- Groups around a double colon read back with zeros in the place of those left out. -/
theorem colons?_around {front back : List Nat} {zeros : Nat}
    (before : ∀ group ∈ front, group < 65536) (after : ∀ group ∈ back, group < 65536)
    (out : 0 < zeros) (eight : front.length + zeros + back.length = 8) :
    colons? (renderGroups front ++ "::" ++ renderGroups back).toList =
      some (joined 65536 (front ++ List.replicate zeros 0 ++ back)) := by
  -- The groups in front have no double colon, so the cut is made at the one that was written.
  have cut : Text.cutDouble ':' (renderGroups front ++ "::" ++ renderGroups back).toList =
      some ((renderGroups front).toList, (renderGroups back).toList) := by
    rw [String.toList_append, String.toList_append, List.append_assoc, toList_renderGroups front,
      Text.cutDouble_intercalate (proper_numerals front)]
    change some (_ ++ [], (renderGroups back).toList) = _
    rw [List.append_nil]
  have missing : 8 - front.length - back.length = zeros := by omega
  rw [colons?_of_cut cut (mapM_renderGroups before) (colonGroups?_renderGroups after) (by omega),
    missing]

/-- The text of an IPv6 address reads back as its number. -/
theorem colons?_renderColons (address : Address .v6) :
    colons? (renderColons address).toList = some address.number := by
  have small : ∀ group ∈ address.groups, group < 65536 := fun group => lt_of_mem_groups
  rw [renderColons]
  -- A mapped address is the only one that ends in dotted octets.
  split
  case isTrue mapped =>
    rw [Nat.shiftRight_eq_div_pow] at mapped
    exact colons?_mapped (eq_of_beq mapped)
  case isFalse =>
    obtain ⟨within, shape⟩ := around_longestZeroRun address.groups
    have eight := address.groups_length
    dsimp only
    split
    case isTrue => rw [colons?_renderGroups small eight, joined_groups]
    case isFalse long =>
      have out : 0 < (longestZeroRun 0 address.groups).2 := by omega
      -- Around the longest run of zeros, the parts are as small as the groups that they come from.
      rw [colons?_around (fun group listed => small group (List.mem_of_mem_take listed))
        (fun group listed => small group (List.mem_of_mem_drop listed)) out
        (by rw [List.length_take, List.length_drop]; omega), shape, joined_groups]

end Colons

section Render

variable {family : Family}

/-- The text of an address reads back as the address. -/
theorem parse?_render (address : Address family) :
    parse? family address.render.toList = some address := by
  -- Both families write a number, which is below the bound of the family.
  cases family with
  | v4 =>
    have bound : address.number < 0x100000000 := address.bound
    change (dotted? (renderDotted address.number).toList).map ofNat = some address
    rw [dotted?_renderDotted, Nat.mod_eq_of_lt bound, Option.map_some, ofNat_number]
  | v6 =>
    change (colons? (renderColons address).toList).map ofNat = some address
    rw [colons?_renderColons, Option.map_some, ofNat_number]

/-- The text of an address has hexadecimal digits, dots and colons. -/
theorem mem_render {address : Address family} {c : Char} (listed : c ∈ address.render.toList) :
    c = '.' ∨ c = ':' ∨ (Text.digit? 16 c).isSome := by
  have octets {number : Nat} (there : c ∈ (renderDotted number).toList) :
      c = '.' ∨ c = ':' ∨ (Text.digit? 16 c).isSome :=
    (mem_renderDotted there).imp_right fun digit => .inr (Text.digit?_mono (by decide) digit)
  have colons {groups : List Nat} (there : c ∈ (renderGroups groups).toList) :
      c = '.' ∨ c = ':' ∨ (Text.digit? 16 c).isSome := by
    rw [toList_renderGroups] at there
    refine .inr ((Text.mem_intercalate there).imp_right fun ⟨numeral, among, digit⟩ => ?_)
    obtain ⟨group, -, rfl⟩ := List.mem_map.mp among
    exact Text.digit?_of_mem_toDigits (by decide) (by decide) digit
  -- Groups are hexadecimal, and the octets of an IPv4 address or of a mapped one are decimal.
  cases family with
  | v4 => exact octets listed
  | v6 =>
    change c ∈ (renderColons address).toList at listed
    rw [renderColons] at listed
    split at listed
    · rw [String.toList_append, List.mem_append] at listed
      rcases listed with mapped | there
      · have front : c = ':' ∨ c = 'f' := by
          simp only [String.reduceToList, List.mem_cons, List.not_mem_nil, or_false] at mapped
          tauto
        rcases front with rfl | rfl
        · exact .inr (.inl rfl)
        · exact .inr (.inr rfl)
      · exact octets there
    · dsimp only at listed
      split at listed
      · exact colons listed
      · rw [String.toList_append, String.toList_append, List.mem_append, List.mem_append] at listed
        rcases listed with (front | double) | back
        · exact colons front
        · exact .inr (.inl (List.eq_of_mem_replicate (n := 2) double))
        · exact colons back

/-- The text of an address has no slash. -/
theorem slash_notMem_render (address : Address family) : '/' ∉ address.render.toList := by
  intro slash
  have digit := mem_render slash
  revert digit
  decide

/-- The text of an address has no white space. -/
theorem isBlank_of_mem_render {address : Address family} {c : Char}
    (listed : c ∈ address.render.toList) : Text.isBlank c = false := by
  rcases mem_render listed with rfl | rfl | digit
  · decide
  · decide
  · exact Text.isBlank_of_digit? digit

end Render

end NetworkLayer.Address
