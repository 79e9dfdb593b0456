import NetworkLayer.Bytes

/-! Fields of byte strings: a field reads back where it was written, and nothing else changes. -/

namespace NetworkLayer.Bytes

/-- A byte that is not zero can be counted down. -/
theorem toNat_sub_one {byte : UInt8} (positive : byte ≠ 0) :
    (byte - 1).toNat + 1 = byte.toNat := by
  have nonzero : byte.toNat ≠ 0 := fun zero => positive (UInt8.toNat_inj.mp zero)
  have above : (1 : UInt8) ≤ byte := UInt8.le_iff_toNat_le.mpr (Nat.one_le_iff_ne_zero.mpr nonzero)
  rw [UInt8.toNat_sub_of_le _ _ above]
  exact Nat.sub_add_cancel (Nat.one_le_iff_ne_zero.mpr nonzero)

/-- A number is written with the bytes that it was given. -/
@[simp] theorem ofValue_length (width number : Nat) : (ofValue width number).length = width := by
  -- Each step of the writer adds one byte behind the number that is left.
  induction width generalizing number with
  | zero => rfl
  | succ width ih => simp [ofValue, ih]

/-- A word takes two bytes. -/
@[simp] theorem ofWord_length (word : UInt16) : (ofWord word).length = 2 := by
  simp [ofWord]

/-- One more byte at the end shifts the number by a byte. -/
theorem value_concat (bytes : Bytes) (byte : UInt8) :
    value (bytes ++ [byte]) = value bytes * 256 + byte.toNat := by
  simp [value]

/-- A written number reads back as its low bytes. -/
theorem value_ofValue (width number : Nat) :
    value (ofValue width number) = number % (1 <<< (8 * width)) := by
  -- The last byte holds the remainder, and the bytes before it hold the quotient.
  induction width generalizing number with
  | zero => simp [ofValue, value, Nat.mod_one]
  | succ width ih =>
    have last : (UInt8.ofNat number).toNat = number % 256 := by simp
    have wider : 1 <<< (8 * (width + 1)) = 256 * (1 <<< (8 * width)) := by
      rw [Nat.one_shiftLeft, Nat.one_shiftLeft, Nat.mul_succ, Nat.pow_add]
      exact Nat.mul_comm _ 256
    rw [ofValue, value_concat, ih, last, wider, Nat.mod_mul]
    omega

/-- So many bytes spell a number that fits in them, and that is written as they are. -/
theorem value_exact (width : Nat) {bytes : Bytes} (wide : bytes.length = width) :
    value bytes < 1 <<< (8 * width) ∧ ofValue width (value bytes) = bytes := by
  -- The last byte has room for its own 256 values, behind what the others spell.
  induction width generalizing bytes with
  | zero =>
    rw [List.length_eq_zero_iff.mp wide]
    exact ⟨Nat.one_pos, rfl⟩
  | succ width ih =>
    obtain rfl | ⟨front, byte, rfl⟩ := List.eq_nil_or_concat bytes
    · cases wide
    · rw [List.concat_eq_append] at wide ⊢
      rw [List.length_append, List.length_singleton] at wide
      obtain ⟨bound, written⟩ := ih (Nat.succ.inj wide)
      have small := byte.toNat_lt
      have wider : 1 <<< (8 * (width + 1)) = 1 <<< (8 * width) * 256 := by
        rw [Nat.one_shiftLeft, Nat.one_shiftLeft, Nat.mul_succ, Nat.pow_add]
      have quotient : (value front * 256 + byte.toNat) / 256 = value front := by omega
      have remainder : UInt8.ofNat (value front * 256 + byte.toNat) = byte := by
        refine UInt8.toNat_inj.mp ?_
        rw [UInt8.toNat_ofNat']
        omega
      rw [value_concat, wider]
      refine ⟨by omega, ?_⟩
      rw [ofValue, quotient, written, remainder]

/-- A written word reads back. -/
theorem ofNat_value_ofWord (word : UInt16) : UInt16.ofNat (value (ofWord word)) = word := by
  have small : word.toNat < 1 <<< (8 * 2) := word.toNat_lt
  -- Two bytes are enough for every word.
  rw [ofWord, value_ofValue, Nat.mod_eq_of_lt small, UInt16.ofNat_toNat]

/-- A word is two bytes. -/
theorem ofWord_pair (word : UInt16) : ∃ high low, ofWord word = [high, low] := ⟨_, _, rfl⟩

/-- A field that lies within the byte string keeps its length. -/
@[simp] theorem patch_length {bytes : Bytes} {offset : Nat} {field : Bytes}
    (fits : offset + field.length ≤ bytes.length) :
    (patch bytes offset field).length = bytes.length := by
  -- What the field covers is as long as the field.
  simp only [patch, List.length_append, List.length_take, List.length_drop]
  omega

/-- A byte within the byte string can be written without a change of length. -/
theorem patch_byte_length {bytes : Bytes} {offset : Nat} (inside : offset < bytes.length)
    (byte : UInt8) : (patch bytes offset [byte]).length = bytes.length :=
  patch_length inside

/-- A word within the byte string can be written without a change of length. -/
theorem patch_word_length {bytes : Bytes} {offset : Nat} (inside : offset + 2 ≤ bytes.length)
    (word : UInt16) : (patch bytes offset (ofWord word)).length = bytes.length :=
  patch_length inside

/-- A byte of a patched byte string comes from the field or from its old place. -/
theorem patch_getElem? {bytes : Bytes} {offset : Nat} (field : Bytes)
    (within : offset ≤ bytes.length) (index : Nat) :
    (patch bytes offset field)[index]? =
      if offset ≤ index ∧ index < offset + field.length then field[index - offset]?
      else bytes[index]? := by
  have front : (bytes.take offset).length = offset := List.length_take_of_le within
  simp only [patch, List.append_assoc]
  -- The index lies before the field, in it or behind it.
  rcases Nat.lt_or_ge index offset with before | reached
  · rw [List.getElem?_append_left (by omega), List.getElem?_take_of_lt before, if_neg (by omega)]
  · rw [List.getElem?_append_right (by omega), front]
    rcases Nat.lt_or_ge index (offset + field.length) with inside | behind
    · rw [List.getElem?_append_left (by omega), if_pos ⟨reached, inside⟩]
    · rw [List.getElem?_append_right (by omega), List.getElem?_drop, if_neg (by omega)]
      congr 1
      omega

/-- A byte of a slice is the byte that stands so much further in. -/
theorem slice_getElem? (bytes : Bytes) (offset width index : Nat) :
    (slice bytes offset width)[index]? =
      if index < width then bytes[offset + index]? else none := by
  simp only [slice, List.getElem?_take, List.getElem?_drop]

/-- A slice within the byte string is as long as it says. -/
theorem slice_length {bytes : Bytes} {offset width : Nat} (within : offset + width ≤ bytes.length) :
    (slice bytes offset width).length = width := by
  rw [slice, List.length_take, List.length_drop]
  omega

/-- A longer front of a byte string ends with the field behind the shorter one. -/
theorem take_add (bytes : Bytes) (count width : Nat) :
    bytes.take (count + width) = bytes.take count ++ slice bytes count width :=
  List.take_add

/-- A field of one byte is that byte. -/
theorem slice_one {bytes : Bytes} {offset : Nat} (inside : offset < bytes.length) :
    slice bytes offset 1 = [byteAt bytes offset] := by
  -- The byte is the first one of what is left behind the offset.
  rw [slice, List.drop_eq_getElem_cons inside, byteAt, List.getD_eq_getElem?_getD,
    List.getElem?_eq_getElem inside]
  rfl

/-- A field reads back where it was written. -/
theorem slice_patch {bytes : Bytes} {offset : Nat} (field : Bytes)
    (within : offset ≤ bytes.length) :
    slice (patch bytes offset field) offset field.length = field := by
  apply List.ext_getElem?
  intro index
  rw [slice_getElem?, patch_getElem? field within]
  -- Beyond the width there is no byte on either side.
  rcases Nat.lt_or_ge index field.length with inside | behind
  · rw [if_pos inside, if_pos (by omega), Nat.add_sub_cancel_left]
  · rw [if_neg (by omega), List.getElem?_eq_none behind]

/-- A slice apart from the field is left alone. -/
theorem slice_patch_of_apart {bytes : Bytes} {offset : Nat} (field : Bytes) {start width : Nat}
    (within : offset ≤ bytes.length)
    (apart : start + width ≤ offset ∨ offset + field.length ≤ start) :
    slice (patch bytes offset field) start width = slice bytes start width := by
  -- No byte of the slice lies within the field.
  apply List.ext_getElem?
  intro index
  rw [slice_getElem?, slice_getElem?, patch_getElem? field within]
  rcases Nat.lt_or_ge index width with inside | behind
  · rw [if_pos inside, if_pos inside, if_neg (by omega)]
  · rw [if_neg (by omega), if_neg (by omega)]

/-- What lies behind the field is left alone. -/
theorem drop_patch {bytes : Bytes} {offset : Nat} (field : Bytes) {start : Nat}
    (within : offset ≤ bytes.length) (behind : offset + field.length ≤ start) :
    (patch bytes offset field).drop start = bytes.drop start := by
  -- Every byte behind the field is at its old place.
  apply List.ext_getElem?
  intro index
  rw [List.getElem?_drop, List.getElem?_drop, patch_getElem? field within, if_neg (by omega)]

/-- A field behind the bytes that are dropped stands so much nearer. -/
theorem drop_patch_of_le (bytes field : Bytes) {offset count : Nat} (reached : count ≤ offset)
    (within : offset ≤ bytes.length) :
    (patch bytes offset field).drop count = patch (bytes.drop count) (offset - count) field := by
  apply List.ext_getElem?
  intro index
  have front : offset - count ≤ (bytes.drop count).length := by
    rw [List.length_drop]
    omega
  rw [List.getElem?_drop, patch_getElem? field within, patch_getElem? field front,
    List.getElem?_drop]
  -- Both sides read the field between the same two bounds.
  split
  · rw [if_pos (by omega)]
    congr 1
    omega
  · rw [if_neg (by omega)]

/-- A slice around a field holds the field as far in as it stands behind the start. -/
theorem slice_patch_of_within (bytes field : Bytes) {offset start width : Nat}
    (reached : start ≤ offset) (inside : offset + field.length ≤ start + width)
    (within : start + width ≤ bytes.length) :
    slice (patch bytes offset field) start width =
      patch (slice bytes start width) (offset - start) field := by
  have room : offset - start ≤ (slice bytes start width).length := by
    rw [slice_length within]
    omega
  apply List.ext_getElem?
  intro index
  rw [slice_getElem?, patch_getElem? field (by omega), patch_getElem? field room, slice_getElem?]
  -- The field lies within the slice, so no byte of it is cut off.
  split
  · split
    · rw [if_pos (by omega)]
      congr 1
      omega
    · rw [if_neg (by omega)]
  · rw [if_neg (by omega)]

/-- A field in the first of two byte strings leaves the second one alone. -/
theorem patch_append {front field : Bytes} {offset : Nat} (back : Bytes)
    (within : offset + field.length ≤ front.length) :
    patch (front ++ back) offset field = patch front offset field ++ back := by
  simp only [patch, List.take_append_of_le_length (show offset ≤ front.length by omega),
    List.drop_append_of_le_length within, List.append_assoc]

/-- A slice of the front of a byte string. -/
theorem slice_take (bytes : Bytes) {start width count : Nat} (within : start + width ≤ count) :
    slice (bytes.take count) start width = slice bytes start width := by
  apply List.ext_getElem?
  intro index
  rw [slice_getElem?, slice_getElem?]
  -- Within the slice the index is small enough for what is taken.
  split
  · rw [List.getElem?_take_of_lt (by omega)]
  · rfl

/-- A slice of the first of two byte strings. -/
theorem slice_append_left {front : Bytes} (back : Bytes) {start width : Nat}
    (within : start + width ≤ front.length) :
    slice (front ++ back) start width = slice front start width := by
  apply List.ext_getElem?
  intro index
  rw [slice_getElem?, slice_getElem?]
  -- Within the slice the index does not reach the second byte string.
  split
  · rw [List.getElem?_append_left (by omega)]
  · rfl

/-- A field between two byte strings is the slice that starts where the first one ends. -/
theorem slice_between {front field : Bytes} (back : Bytes) {start width : Nat}
    (before : front.length = start) (wide : field.length = width) :
    slice (front ++ field ++ back) start width = field := by
  rw [slice, List.append_assoc, List.drop_left' before, List.take_left' wide]

/-- A field that is written over another one of its length is as good as written alone. -/
theorem patch_patch {bytes : Bytes} {offset : Nat} {first second : Bytes}
    (within : offset ≤ bytes.length) (same : first.length = second.length) :
    patch (patch bytes offset first) offset second = patch bytes offset second := by
  apply List.ext_getElem?
  intro index
  have front : offset ≤ (patch bytes offset first).length := by
    simp only [patch, List.length_append, List.length_take]
    omega
  rw [patch_getElem? second front, patch_getElem? second within, patch_getElem? first within]
  -- What the first field covered is covered again.
  split
  · rfl
  · rw [if_neg (by omega)]

/-- A word reads back where it was written. -/
theorem wordAt_patch {bytes : Bytes} {offset : Nat} (word : UInt16)
    (within : offset ≤ bytes.length) : wordAt (patch bytes offset (ofWord word)) offset = word := by
  -- The word is the slice of its two bytes.
  have read := slice_patch (ofWord word) within
  rw [ofWord_length] at read
  rw [wordAt, read, ofNat_value_ofWord]

/-- A slice of one byte is the byte that stands there. -/
theorem byteAt_of_slice {bytes : Bytes} {offset : Nat} {byte : UInt8}
    (written : slice bytes offset 1 = [byte]) : byteAt bytes offset = byte := by
  have read : bytes[offset]? = some byte := by
    simpa [written] using (slice_getElem? bytes offset 1 0).symm
  simp [byteAt, read]

/-- The front of a byte string starts as the whole does. -/
theorem head?_of_take {bytes rest : Bytes} {width : Nat} {byte : UInt8}
    (front : bytes.take width = byte :: rest) : bytes.head? = some byte := by
  have head := congrArg List.head? front
  rw [List.head?_take] at head
  split at head
  · cases head
  · exact head

/-- A byte of the front of a byte string. -/
theorem byteAt_take (bytes : Bytes) {count offset : Nat} (within : offset < count) :
    byteAt (bytes.take count) offset = byteAt bytes offset := by
  simp only [byteAt, List.getD_eq_getElem?_getD, List.getElem?_take_of_lt within]

/-- A word of the front of a byte string. -/
theorem wordAt_take (bytes : Bytes) {count offset : Nat} (within : offset + 2 ≤ count) :
    wordAt (bytes.take count) offset = wordAt bytes offset := by
  rw [wordAt, wordAt, slice_take bytes within]

/-- A byte of the first of two byte strings. -/
theorem byteAt_append_left {front : Bytes} (back : Bytes) {offset : Nat}
    (within : offset < front.length) : byteAt (front ++ back) offset = byteAt front offset := by
  simp only [byteAt, List.getD_eq_getElem?_getD, List.getElem?_append_left within]

/-- A byte of the second of two byte strings. -/
theorem byteAt_append_right (front back : Bytes) (offset : Nat) :
    byteAt (front ++ back) (front.length + offset) = byteAt back offset := by
  simp only [byteAt, List.getD_eq_getElem?_getD, List.getElem?_append_right (Nat.le_add_right ..),
    Nat.add_sub_cancel_left]

/-- A byte of a slice is the byte that stands so much further in. -/
theorem byteAt_slice (bytes : Bytes) (offset : Nat) {width index : Nat} (within : index < width) :
    byteAt (slice bytes offset width) index = byteAt bytes (offset + index) := by
  simp only [byteAt, List.getD_eq_getElem?_getD]
  rw [slice_getElem?, if_pos within]

/-- A byte behind a front that is dropped is read so much further in. -/
theorem byteAt_drop (bytes : Bytes) (count offset : Nat) :
    byteAt (bytes.drop count) offset = byteAt bytes (count + offset) := by
  simp [byteAt]

/-- A byte apart from the field is left alone. -/
theorem byteAt_patch_of_apart {bytes : Bytes} {offset : Nat} (field : Bytes) {index : Nat}
    (within : offset ≤ bytes.length) (apart : index < offset ∨ offset + field.length ≤ index) :
    byteAt (patch bytes offset field) index = byteAt bytes index := by
  simp only [byteAt, List.getD_eq_getElem?_getD]
  rw [patch_getElem? field within, if_neg (by omega)]

/-- A byte reads back where it was written. -/
theorem byteAt_patch {bytes : Bytes} {offset : Nat} (byte : UInt8)
    (within : offset ≤ bytes.length) : byteAt (patch bytes offset [byte]) offset = byte :=
  byteAt_of_slice (slice_patch [byte] within)

/-- Bytes that are cut out are missing from the length. -/
theorem excise_length (bytes : Bytes) (offset width : Nat) (fits : offset + width ≤ bytes.length) :
    (excise bytes offset width).length + width = bytes.length := by
  simp only [excise, List.length_append, List.length_take, List.length_drop]
  omega

/-- A byte in front of what is cut out stays where it is. -/
theorem byteAt_excise {bytes : Bytes} {offset index : Nat} (width : Nat)
    (within : offset ≤ bytes.length) (front : index < offset) :
    byteAt (excise bytes offset width) index = byteAt bytes index := by
  have reach : index < (bytes.take offset).length := by
    rw [List.length_take_of_le within]
    exact front
  simp only [byteAt, excise, List.getD_eq_getElem?_getD]
  rw [List.getElem?_append_left reach, List.getElem?_take_of_lt front]

/-- A slice in front of what is cut out stays where it is. -/
theorem slice_excise_of_before {bytes : Bytes} {offset start width count : Nat}
    (before : start + width ≤ offset) :
    slice (excise bytes offset count) start width = slice bytes start width := by
  apply List.ext_getElem?
  intro index
  rw [slice_getElem?, slice_getElem?]
  -- Within the slice the index stays in front of the cut, or behind the end of both.
  split
  · rw [excise, List.getElem?_append]
    simp only [List.length_take]
    split
    · rw [List.getElem?_take_of_lt (by omega)]
    · rw [List.getElem?_eq_none (by simp only [List.length_drop]; omega),
        List.getElem?_eq_none (by omega)]
  · rfl

/-- A slice without its first bytes is the slice that starts so much farther in. -/
theorem drop_slice (bytes : Bytes) (offset width count : Nat) :
    (slice bytes offset width).drop count = slice bytes (offset + count) (width - count) := by
  rw [slice, slice, List.drop_take, List.drop_drop]

/-- What stands behind the bytes that are cut out moves up. -/
theorem drop_excise {bytes : Bytes} {offset width start : Nat} (within : offset ≤ bytes.length)
    (behind : offset ≤ start) :
    (excise bytes offset width).drop start = bytes.drop (start + width) := by
  have front : (bytes.take offset).length = offset := List.length_take_of_le within
  rw [excise, List.drop_append, front, List.drop_eq_nil_of_le (by omega), List.nil_append,
    List.drop_drop]
  congr 1
  omega

/-- Byte strings with the same slice of one byte have the same byte there. -/
theorem getElem?_of_slice {left right : Bytes} {index : Nat}
    (same : slice left index 1 = slice right index 1) : left[index]? = right[index]? := by
  have read := congrArg (·[0]?) same
  simpa only [slice_getElem?, Nat.lt_add_one, if_true, Nat.add_zero] using read

/-- Equal bytes read equal, whether they are there or not. -/
theorem byteAt_congr {left right : Bytes} {index : Nat} (same : left[index]? = right[index]?) :
    byteAt left index = byteAt right index := by
  simp only [byteAt, List.getD_eq_getElem?_getD, same]

/-- A byte string that starts with a byte has it at offset zero. -/
theorem byteAt_of_head? {bytes : Bytes} {byte : UInt8} (first : bytes.head? = some byte) :
    byteAt bytes 0 = byte := by
  cases bytes with
  | nil => cases first
  | cons head rest => exact Option.some.inj first

/-- Byte strings that end alike have the same words there. -/
theorem wordAt_of_drop {left right : Bytes} {count offset : Nat}
    (same : left.drop count = right.drop count) (behind : count ≤ offset) :
    wordAt left offset = wordAt right offset := by
  -- What is left behind the offset is the end of what is the same.
  have rest := congrArg (List.drop (offset - count)) same
  rw [List.drop_drop, List.drop_drop, Nat.add_sub_cancel' behind] at rest
  rw [wordAt, wordAt, slice, slice, rest]

/-- A word between two byte strings reads back. -/
theorem wordAt_between {front : Bytes} (word : UInt16) (back : Bytes) {start : Nat}
    (before : front.length = start) : wordAt (front ++ ofWord word ++ back) start = word := by
  rw [wordAt, slice_between back before (ofWord_length word), ofNat_value_ofWord]

/-- A word that is read is written as the two bytes that it was read from. -/
theorem ofWord_wordAt {bytes : Bytes} {offset : Nat} (within : offset + 2 ≤ bytes.length) :
    ofWord (wordAt bytes offset) = slice bytes offset 2 := by
  obtain ⟨small, written⟩ := value_exact 2 (slice_length within)
  have read : (wordAt bytes offset).toNat = value (slice bytes offset 2) := by
    rw [wordAt, UInt16.toNat_ofNat']
    exact Nat.mod_eq_of_lt small
  rw [ofWord, read, written]

/-- A word apart from the field is left alone. -/
theorem wordAt_patch_of_apart {bytes : Bytes} {offset : Nat} (field : Bytes) {start : Nat}
    (within : offset ≤ bytes.length)
    (apart : start + 2 ≤ offset ∨ offset + field.length ≤ start) :
    wordAt (patch bytes offset field) start = wordAt bytes start := by
  rw [wordAt, wordAt, slice_patch_of_apart field within apart]

end NetworkLayer.Bytes
