import NetworkLayer.Ipv6
import NetworkLayer.Proofs.Bytes

/-!
Where the extension headers of a packet stand. Main statements: a walk succeeds exactly where a chain
stands, its headers stand one behind the other, and a chain outlasts edits within a header and the
removal of one, which leaves the content of all others alone.
-/

namespace NetworkLayer

/-- No extension header is shorter than eight bytes. -/
theorem ExtensionHeader.least_lengthOf (kind size : UInt8) : 8 ≤ lengthOf kind size := by
  unfold lengthOf
  split
  · omega
  · omega

/-- What an extension header says: its kind, and its bytes behind the announcement of what follows. -/
def ExtensionHeader.content (bytes : Bytes) (header : ExtensionHeader) : UInt8 × Bytes :=
  (header.kind, (Bytes.slice bytes header.offset header.length).drop 1)

/-- Extension headers that stand one behind the other, from an offset to another, without a gap. -/
def ExtensionHeader.Tiles : Nat → List ExtensionHeader → Nat → Prop
  | start, [], stop => start = stop
  | start, header :: rest, stop =>
    header.offset = start ∧ 0 < header.length ∧ Tiles (start + header.length) rest stop

namespace ExtensionHeader.Tiles

/-- Headers that stand one behind the other stand between the two ends. -/
theorem within {start stop : Nat} {headers : List ExtensionHeader} (tiles : Tiles start headers stop) :
    start ≤ stop ∧ ∀ header ∈ headers,
      start ≤ header.offset ∧ header.offset + header.length ≤ stop := by
  -- Induction on the headers, each of which starts where the one before ends.
  induction headers generalizing start with
  | nil =>
    have ends : start = stop := tiles
    exact ⟨Nat.le_of_eq ends, fun _ member => by cases member⟩
  | cons first rest ih =>
    obtain ⟨place, -, later⟩ := tiles
    obtain ⟨reached, others⟩ := ih later
    refine ⟨by omega, fun header member => ?_⟩
    rcases List.mem_cons.mp member with rfl | behind
    · omega
    · have := others header behind
      omega

/-- Two headers that stand one behind the other share no byte. -/
theorem apart {start stop : Nat} {headers : List ExtensionHeader} (tiles : Tiles start headers stop)
    {one other : ExtensionHeader} (first : one ∈ headers) (second : other ∈ headers) :
    one = other ∨ one.offset + one.length ≤ other.offset ∨
      other.offset + other.length ≤ one.offset := by
  induction headers generalizing start with
  | nil => cases first
  | cons front rest ih =>
    obtain ⟨place, -, later⟩ := tiles
    have others := later.within.2
    -- The front one stands before all that is behind it.
    rcases List.mem_cons.mp first with rfl | firstBehind
    · rcases List.mem_cons.mp second with rfl | secondBehind
      · exact Or.inl rfl
      · have := others other secondBehind
        omega
    · rcases List.mem_cons.mp second with rfl | secondBehind
      · have := others one firstBehind
        omega
      · exact ih later firstBehind secondBehind

end ExtensionHeader.Tiles

namespace ExtensionChain

section Walk

variable {rest : Bytes} {kind : UInt8} {kindOffset offset : Nat}

/-- A walk takes the whole header that is announced, and then follows the rest. -/
theorem walk_header (known : ExtensionHeader.isKind kind)
    (enough : ExtensionHeader.lengthOf kind (Bytes.byteAt rest 1) ≤ rest.length) :
    let length := ExtensionHeader.lengthOf kind (Bytes.byteAt rest 1)
    walk rest kind kindOffset offset =
      (walk (rest.drop length) (Bytes.byteAt rest 0) offset (offset + length)).map fun chain =>
        { chain with headers := ⟨kind, offset, length, kindOffset⟩ :: chain.headers } := by
  intro length
  have least := ExtensionHeader.least_lengthOf kind (Bytes.byteAt rest 1)
  rcases rest with _ | ⟨next, _ | ⟨size, more⟩⟩
  · exact absurd enough (by simp; omega)
  · exact absurd enough (by simp; omega)
  · have room : ¬ ((next :: size :: more).take length).length < length := by
      rw [List.length_take_of_le enough]
      exact Nat.lt_irrefl length
    have first : Bytes.byteAt (next :: size :: more) 0 = next := rfl
    rw [walk, if_pos known]
    simp only [show ExtensionHeader.lengthOf kind size = length from rfl, if_neg room, first]
    -- Both sides follow the same rest.
    cases walk (List.drop length (next :: size :: more)) next offset (offset + length) with
    | error cause => rfl
    | ok chain => rfl

/-- A walk that succeeds has room for the header that is announced, if one is. -/
theorem walk_room {chain : ExtensionChain} (found : walk rest kind kindOffset offset = .ok chain)
    (known : ExtensionHeader.isKind kind) :
    ExtensionHeader.lengthOf kind (Bytes.byteAt rest 1) ≤ rest.length := by
  unfold walk at found
  rw [if_pos known] at found
  -- A header that is cut off stops the walk.
  split at found
  · rename_i next size more
    simp only at found
    split at found
    · cases found
    · rename_i room
      rw [List.length_take] at room
      have same : Bytes.byteAt (next :: size :: more) 1 = size := rfl
      rw [same]
      omega
  · cases found

/-- A walk that succeeds ends at once, or it takes a header and follows the rest. -/
theorem walk_cases {chain : ExtensionChain} (found : walk rest kind kindOffset offset = .ok chain) :
    (ExtensionHeader.isKind kind = false ∧ chain = ⟨[], kind, offset⟩) ∨
    ExtensionHeader.isKind kind = true ∧
      let length := ExtensionHeader.lengthOf kind (Bytes.byteAt rest 1)
      length ≤ rest.length ∧ ∃ tail,
        walk (rest.drop length) (Bytes.byteAt rest 0) offset (offset + length) = .ok tail ∧
          chain = { tail with headers := ⟨kind, offset, length, kindOffset⟩ :: tail.headers } := by
  by_cases known : ExtensionHeader.isKind kind
  · have room := walk_room found known
    refine Or.inr ⟨known, room, ?_⟩
    rw [walk_header known room] at found
    -- The whole walk fails with the walk of the rest.
    cases walked : walk (rest.drop (ExtensionHeader.lengthOf kind (Bytes.byteAt rest 1)))
        (Bytes.byteAt rest 0) offset
        (offset + ExtensionHeader.lengthOf kind (Bytes.byteAt rest 1)) with
    | error cause =>
      rw [walked] at found
      cases found
    | ok tail =>
      rw [walked] at found
      cases found
      exact ⟨tail, rfl, rfl⟩
  · unfold walk at found
    rw [if_neg known] at found
    cases found
    exact Or.inl ⟨by simpa using known, rfl⟩

end Walk

/-- A chain stands in a byte string from `offset` on, announced by the byte at `kindOffset`. -/
inductive Stands (bytes : Bytes) : Nat → Nat → ExtensionChain → Prop
  /-- What is announced is no extension header, so the chain ends. -/
  | upper {kindOffset offset : Nat}
      (last : ExtensionHeader.isKind (Bytes.byteAt bytes kindOffset) = false) :
      Stands bytes kindOffset offset ⟨[], Bytes.byteAt bytes kindOffset, offset⟩
  /-- The header that is announced is there, and the rest of the chain behind it. -/
  | header {kindOffset offset length : Nat} {chain : ExtensionChain}
      (known : ExtensionHeader.isKind (Bytes.byteAt bytes kindOffset) = true)
      (wide : ExtensionHeader.lengthOf (Bytes.byteAt bytes kindOffset)
        (Bytes.byteAt bytes (offset + 1)) = length)
      (fits : offset + length ≤ bytes.length)
      (rest : Stands bytes offset (offset + length) chain) :
      Stands bytes kindOffset offset { chain with
        headers := ⟨Bytes.byteAt bytes kindOffset, offset, length, kindOffset⟩ :: chain.headers }

/-- A walk along a chain that stands finds it. -/
theorem Stands.walk {bytes : Bytes} {kindOffset offset : Nat} {chain : ExtensionChain}
    (stands : Stands bytes kindOffset offset chain) :
    walk (bytes.drop offset) (Bytes.byteAt bytes kindOffset) kindOffset offset = .ok chain := by
  -- The induction is on the headers of the chain.
  induction stands with
  | upper last =>
    unfold ExtensionChain.walk
    rw [if_neg (by simp [last])]
  | @header kindOffset offset length chain known wide fits rest ih =>
    have size : Bytes.byteAt (bytes.drop offset) 1 = Bytes.byteAt bytes (offset + 1) :=
      Bytes.byteAt_drop ..
    have next : Bytes.byteAt (bytes.drop offset) 0 = Bytes.byteAt bytes offset :=
      Bytes.byteAt_drop ..
    have enough : ExtensionHeader.lengthOf (Bytes.byteAt bytes kindOffset)
        (Bytes.byteAt (bytes.drop offset) 1) ≤ (bytes.drop offset).length := by
      rw [size, wide, List.length_drop]
      omega
    rw [walk_header known enough, size, wide, next, List.drop_drop, ih]
    rfl

/-- A walk that succeeds has found a chain that stands. -/
theorem stands_of_walk {bytes : Bytes} {kindOffset offset : Nat} {chain : ExtensionChain}
    (found : ExtensionChain.walk (bytes.drop offset) (Bytes.byteAt bytes kindOffset) kindOffset
      offset = .ok chain) : Stands bytes kindOffset offset chain := by
  -- Each header shortens what is left to walk.
  generalize left : bytes.length - offset = size
  induction size using Nat.strongRecOn generalizing kindOffset offset chain with
  | ind size ih =>
    rcases walk_cases found with ⟨last, rfl⟩ | ⟨known, enough, tail, walked, rfl⟩
    · exact .upper last
    · have least := ExtensionHeader.least_lengthOf (Bytes.byteAt bytes kindOffset)
        (Bytes.byteAt (bytes.drop offset) 1)
      simp only [Bytes.byteAt_drop, Nat.add_zero, List.drop_drop, List.length_drop] at *
      exact .header known rfl (by omega) (ih _ (by omega) walked rfl)

namespace Stands

variable {bytes : Bytes} {kindOffset offset : Nat} {chain : ExtensionChain}

/-- The bytes of a header lie between the start of the chain and what it announces in the end. -/
theorem within (stands : Stands bytes kindOffset offset chain) (inside : offset ≤ bytes.length)
    (before : kindOffset < offset) :
    chain.upperOffset ≤ bytes.length ∧ offset ≤ chain.upperOffset ∧
      ∀ header ∈ chain.headers, offset ≤ header.offset ∧ 8 ≤ header.length ∧
        header.offset + header.length ≤ chain.upperOffset ∧ header.kindOffset < header.offset ∧
        (header.kindOffset = kindOffset ∨ offset ≤ header.kindOffset) := by
  induction stands with
  | upper last => exact ⟨inside, Nat.le_refl _, fun _ member => by cases member⟩
  | @header kindOffset offset length chain known wide fits rest ih =>
    have least := ExtensionHeader.least_lengthOf (Bytes.byteAt bytes kindOffset)
      (Bytes.byteAt bytes (offset + 1))
    rw [wide] at least
    obtain ⟨ends, starts, others⟩ := ih fits (by omega)
    refine ⟨ends, show offset ≤ chain.upperOffset by omega, ?_⟩
    intro header member
    -- The first header starts the chain, and the others stand behind it.
    rcases List.mem_cons.mp member with rfl | behind
    · exact ⟨Nat.le_refl _, least, starts, before, Or.inl rfl⟩
    · obtain ⟨above, wideEnough, ended, ordered, announced⟩ := others header behind
      exact ⟨by omega, wideEnough, ended, ordered, by omega⟩

/-- The end of a chain announces no extension header. -/
theorem last (stands : Stands bytes kindOffset offset chain) :
    ExtensionHeader.isKind chain.upperProtocol = false := by
  induction stands with
  | upper last => exact last
  | header known wide fits rest ih => exact ih

/-- The headers of a chain stand one behind the other up to what it announces in the end. -/
theorem tiles (stands : Stands bytes kindOffset offset chain) :
    ExtensionHeader.Tiles offset chain.headers chain.upperOffset := by
  -- The chain is built as it is walked, so each header of it is a step.
  induction stands with
  | upper last => rfl
  | @header kindOffset offset length chain known wide fits rest ih =>
    have pos := ExtensionHeader.lengthOf_pos (Bytes.byteAt bytes kindOffset)
      (Bytes.byteAt bytes (offset + 1))
    exact ⟨rfl, wide ▸ pos, ih⟩

/-- Only the announcing byte and the bytes from the start of the chain on count. -/
theorem congr {other : Bytes} (stands : Stands bytes kindOffset offset chain)
    (announced : Bytes.byteAt other kindOffset = Bytes.byteAt bytes kindOffset)
    (same : other.drop offset = bytes.drop offset) : Stands other kindOffset offset chain := by
  refine stands_of_walk ?_
  rw [announced, same]
  exact stands.walk

/-- A chain that stands elsewhere in another byte string is the same but for its place. -/
theorem shifted {other : Bytes} {otherKind otherOffset : Nat}
    (stands : Stands bytes kindOffset offset chain)
    (announced : Bytes.byteAt other otherKind = Bytes.byteAt bytes kindOffset)
    (same : other.drop otherOffset = bytes.drop offset) :
    ∃ moved, Stands other otherKind otherOffset moved ∧
      moved.upperProtocol = chain.upperProtocol ∧
      moved.upperOffset + offset = chain.upperOffset + otherOffset ∧
      moved.headers.map (·.content other) = chain.headers.map (·.content bytes) := by
  -- Induction on the chain; what matters of a header are its first two bytes and its size.
  induction stands generalizing otherKind otherOffset with
  | @upper kindOffset offset last =>
    rw [← announced] at last ⊢
    exact ⟨_, .upper last, rfl, Nat.add_comm .., rfl⟩
  | @header kindOffset offset length chain known wide fits rest ih =>
    have least := ExtensionHeader.least_lengthOf (Bytes.byteAt bytes kindOffset)
      (Bytes.byteAt bytes (offset + 1))
    rw [wide] at least
    have size := congrArg List.length same
    simp only [List.length_drop] at size
    have first : Bytes.byteAt other otherOffset = Bytes.byteAt bytes offset := by
      have read := congrArg (Bytes.byteAt · 0) same
      simpa only [Bytes.byteAt_drop, Nat.add_zero] using read
    have second : Bytes.byteAt other (otherOffset + 1) = Bytes.byteAt bytes (offset + 1) := by
      have read := congrArg (Bytes.byteAt · 1) same
      simpa only [Bytes.byteAt_drop] using read
    -- Behind the header the two byte strings go on alike.
    have behind : other.drop (otherOffset + length) = bytes.drop (offset + length) := by
      rw [← List.drop_drop, ← List.drop_drop, same]
    obtain ⟨moved, movedStands, protocol, place, contents⟩ := ih first behind
    rw [← announced, ← second] at wide
    rw [← announced] at known
    refine ⟨_, .header known wide (by omega) movedStands, protocol, ?_, ?_⟩
    · simp only
      omega
    · rw [List.map_cons, List.map_cons, contents]
      simp only [ExtensionHeader.content, Bytes.slice, same, announced]

/-- A byte within a header, behind its kind and size, is not part of the chain. -/
theorem patched (stands : Stands bytes kindOffset offset chain) (before : kindOffset < offset)
    (inside : offset ≤ bytes.length) {header : ExtensionHeader} (member : header ∈ chain.headers)
    {place : Nat} (behind : 2 ≤ place) (short : place < 8) (byte : UInt8) :
    Stands (Bytes.patch bytes (header.offset + place) [byte]) kindOffset offset chain := by
  induction stands with
  | upper last => cases member
  | @header kindOffset offset length chain known wide fits rest ih =>
    have least := ExtensionHeader.least_lengthOf (Bytes.byteAt bytes kindOffset)
      (Bytes.byteAt bytes (offset + 1))
    rw [wide] at least
    obtain ⟨end_, -, others⟩ := rest.within fits (by omega)
    have place_ : offset + 2 ≤ header.offset + place ∧
        header.offset + place + 1 ≤ bytes.length := by
      rcases List.mem_cons.mp member with rfl | farther
      · exact ⟨by simp only; omega, by simp only; omega⟩
      · have inside := others header farther
        omega
    obtain ⟨reached, ends⟩ := place_
    have kept : ∀ index, index < header.offset + place →
        Bytes.byteAt (Bytes.patch bytes (header.offset + place) [byte]) index =
          Bytes.byteAt bytes index :=
      fun index front => Bytes.byteAt_patch_of_apart [byte] (by omega) (Or.inl front)
    have tail : Stands (Bytes.patch bytes (header.offset + place) [byte]) offset
        (offset + length) chain := by
      -- The byte stands in the first header or farther back.
      rcases List.mem_cons.mp member with rfl | farther
      · refine rest.congr (kept offset (by omega)) (Bytes.drop_patch [byte] (by omega) ?_)
        simp only [List.length_singleton]
        omega
      · exact ih (by omega) fits farther
    rw [← kept kindOffset (by omega)] at known wide ⊢
    rw [← kept (offset + 1) (by omega)] at wide
    exact .header known wide (by rwa [Bytes.patch_length (by simpa using ends)]) tail

/-- A chain outlasts the removal of a header whose announcement passes to what follows it, and so does
the content of all other headers. -/
theorem excised (stands : Stands bytes kindOffset offset chain) (before : kindOffset < offset)
    (inside : offset ≤ bytes.length) {header : ExtensionHeader} (member : header ∈ chain.headers) :
    let relinked := Bytes.patch bytes header.kindOffset [Bytes.byteAt bytes header.offset]
    ∃ shorter, Stands (Bytes.excise relinked header.offset header.length) kindOffset offset shorter ∧
      shorter.upperProtocol = chain.upperProtocol ∧
      shorter.upperOffset + header.length = chain.upperOffset ∧
      shorter.headers.map (·.content (Bytes.excise relinked header.offset header.length)) =
        (chain.headers.erase header).map (·.content bytes) := by
  intro relinked
  induction stands with
  | upper last => cases member
  | @header kindOffset offset length chain known wide fits rest ih =>
    have least := ExtensionHeader.least_lengthOf (Bytes.byteAt bytes kindOffset)
      (Bytes.byteAt bytes (offset + 1))
    rw [wide] at least
    obtain ⟨ends, starts, others⟩ := rest.within fits (by omega)
    rcases List.mem_cons.mp member with rfl | farther
    · have place : kindOffset ≤ bytes.length := by omega
      -- The rest of the chain moves to the place of the header that goes.
      have size : relinked.length = bytes.length := Bytes.patch_length (by simp; omega)
      have announced : Bytes.byteAt (Bytes.excise relinked offset length) kindOffset =
          Bytes.byteAt bytes offset := by
        rw [Bytes.byteAt_excise length (by omega) before]
        exact Bytes.byteAt_patch _ place
      have same : (Bytes.excise relinked offset length).drop offset =
          bytes.drop (offset + length) := by
        rw [Bytes.drop_excise (by omega) (Nat.le_refl _)]
        exact Bytes.drop_patch _ place (by simp; omega)
      obtain ⟨moved, movedStands, protocol, reached, contents⟩ := rest.shifted announced same
      have upper : moved.upperOffset + length = chain.upperOffset := by omega
      exact ⟨moved, movedStands, protocol, upper, by rw [contents, List.erase_cons_head]⟩
    · obtain ⟨above, long, ended, ordered, link⟩ := others header farther
      obtain ⟨shorter, shorterStands, protocol, place, contents⟩ := ih (by omega) fits farther
      have size : relinked.length = bytes.length := Bytes.patch_length (by simp; omega)
      have cut := Bytes.excise_length relinked header.offset header.length (by omega)
      -- The first header stands in front of all that changes but its own announcement.
      have kept (index : Nat) (front : index < header.offset) (apart : index ≠ header.kindOffset) :
          Bytes.byteAt (Bytes.excise relinked header.offset header.length) index =
            Bytes.byteAt bytes index := by
        rw [Bytes.byteAt_excise header.length (by omega) front]
        exact Bytes.byteAt_patch_of_apart _ (by omega) (by simp; omega)
      have own : Bytes.slice (Bytes.excise relinked header.offset header.length) (offset + 1)
          (length - 1) = Bytes.slice bytes (offset + 1) (length - 1) := by
        rw [Bytes.slice_excise_of_before (by omega), Bytes.slice_patch_of_apart _ (by omega)
          (by simp only [List.length_singleton]; omega)]
      have other : (⟨Bytes.byteAt bytes kindOffset, offset, length, kindOffset⟩ :
          ExtensionHeader) ≠ header := by
        rintro rfl
        exact absurd above (by simp only; omega)
      refine ⟨_, .header (kept kindOffset (by omega) (by omega) ▸ known) ?_ (by omega) shorterStands,
        protocol, place, ?_⟩
      · rw [kept kindOffset (by omega) (by omega), kept (offset + 1) (by omega) (by omega), wide]
      · rw [List.erase_cons_tail (by simpa using other), List.map_cons, List.map_cons, contents,
          kept kindOffset (by omega) (by omega)]
        simp only [ExtensionHeader.content, Bytes.drop_slice, own]

end Stands

end ExtensionChain

end NetworkLayer
