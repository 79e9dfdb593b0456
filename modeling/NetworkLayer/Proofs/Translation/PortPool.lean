import NetworkLayer.Translation.PortPool

/-! The pool of free ports: no port twice, none out of range, and which ones an operation moves. -/

namespace NetworkLayer.PortPool

/-- No port is free twice, and every free port lies in the range. -/
structure Sound (pool : PortPool) : Prop where
  nodup : pool.free.Nodup
  inRange : ∀ port ∈ pool.free, pool.inRange port

/-- The range holds the ports between its ends. -/
theorem inRange_iff {pool : PortPool} {port : UInt16} :
    pool.inRange port ↔ pool.first ≤ port ∧ port ≤ pool.last := by
  simp [PortPool.inRange]

/-- Ports counted from the first one up to the last do not wrap around. -/
theorem offset_toNat {first last : UInt16} {index : Nat}
    (within : index < last.toNat + 1 - first.toNat) :
    (UInt16.ofNat (first.toNat + index)).toNat = first.toNat + index := by
  have bound : last.toNat < 65536 := last.toNat_lt
  -- No port of the range is beyond the last one.
  exact UInt16.toNat_ofNat_of_lt' (show first.toNat + index < 65536 by omega)

/-- Every port of a range has its position in the pool of the whole range. -/
theorem ofRange_port {first last port : UInt16} (above : first ≤ port) (below : port ≤ last) :
    (ofRange first last).free[port.toNat - first.toNat]? = some port := by
  have above : first.toNat ≤ port.toNat := UInt16.le_iff_toNat_le.mp above
  have below : port.toNat ≤ last.toNat := UInt16.le_iff_toNat_le.mp below
  have within : port.toNat - first.toNat < last.toNat + 1 - first.toNat := by omega
  -- The port is as far from the first one as its index says.
  simp only [ofRange, List.getElem?_map, List.getElem?_range within, Option.map_some]
  rw [Nat.add_sub_cancel' above, UInt16.ofNat_toNat]

/-- The pool of a range starts with each of its ports once. -/
theorem ofRange_sound (first last : UInt16) : (ofRange first last).Sound where
  nodup := by
    refine List.pairwise_map.mpr (List.Pairwise.imp_of_mem ?_ List.nodup_range)
    intro left right leftIn rightIn different same
    -- Ports of the range do not wrap around, so different indices give different ports.
    have same := congrArg UInt16.toNat same
    rw [offset_toNat (List.mem_range.mp leftIn), offset_toNat (List.mem_range.mp rightIn)] at same
    omega
  inRange := by
    intro port free
    obtain ⟨index, within, rfl⟩ := List.mem_map.mp free
    have within := List.mem_range.mp within
    rw [inRange_iff, UInt16.le_iff_toNat_le, UInt16.le_iff_toNat_le, offset_toNat within]
    simp only [ofRange]
    omega

/-- Handing out a port leaves the rest as it is. -/
theorem take_cases (pool : PortPool) :
    (pool.free = [] ∧ pool.take = (none, pool)) ∨
    ∃ port rest, pool.free = port :: rest ∧
      pool.take = (some port, { pool with free := rest }) := by
  -- Ports are handed out from the front, as long as there is one.
  cases order : pool.free with
  | nil => exact Or.inl ⟨rfl, by simp [take, order]⟩
  | cons port rest => exact Or.inr ⟨port, rest, rfl, by simp [take, order]⟩

/-- Giving a port back does not move the range. -/
@[simp] theorem release_inRange (pool : PortPool) (port other : UInt16) :
    (pool.release port).inRange other = pool.inRange other := by
  -- Only the list of free ports may change.
  rw [release]
  split
  · rfl
  · rfl

/-- After a port of the range is given back, it is free, and so are those that were. -/
theorem mem_release_iff {pool : PortPool} {port other : UInt16} :
    other ∈ (pool.release port).free ↔
      other ∈ pool.free ∨ (other = port ∧ pool.inRange port) := by
  rw [release]
  split
  · rename_i returns
    simp only [Bool.and_eq_true] at returns
    simp [returns.1]
  · -- A port that is free already or out of range changes nothing.
    rename_i stays
    simp only [Bool.and_eq_true, Bool.not_eq_true', not_and, Bool.not_eq_false,
      List.contains_iff_mem] at stays
    constructor
    · exact Or.inl
    · rintro (free | ⟨rfl, inRange⟩)
      · exact free
      · exact stays inRange

/-- Giving a port back keeps a pool sound. -/
theorem Sound.release {pool : PortPool} (sound : pool.Sound) (port : UInt16) :
    (pool.release port).Sound where
  nodup := by
    rw [PortPool.release]
    split
    · rename_i returns
      -- A port is given back only if it was not free.
      have absent : port ∉ pool.free := by simpa using (Bool.and_eq_true_iff.mp returns).2
      refine List.nodup_append.mpr ⟨sound.nodup, by simp, ?_⟩
      intro free member added last same
      rw [List.mem_singleton.mp last] at same
      exact absent (same ▸ member)
    · exact sound.nodup
  inRange := by
    intro other free
    rw [release_inRange]
    rcases mem_release_iff.mp free with before | ⟨rfl, inRange⟩
    · exact sound.inRange other before
    · exact inRange

/-- Withdrawing a port keeps a pool sound. -/
theorem Sound.reserve {pool : PortPool} (sound : pool.Sound) (port : UInt16) :
    (pool.reserve port).2.Sound where
  nodup := sound.nodup.erase port
  inRange other free := sound.inRange other (List.mem_of_mem_erase free)

/-- A withdrawn port is the only one that is not free any more. -/
theorem mem_reserve_iff {pool : PortPool} (sound : pool.Sound) {port other : UInt16} :
    other ∈ (pool.reserve port).2.free ↔ other ≠ port ∧ other ∈ pool.free :=
  sound.nodup.mem_erase_iff

/-- Handing out the first port keeps a pool sound. -/
theorem Sound.tail {pool : PortPool} {port : UInt16} {rest : List UInt16} (sound : pool.Sound)
    (order : pool.free = port :: rest) : Sound { pool with free := rest } where
  nodup := (List.nodup_cons.mp (order ▸ sound.nodup)).2
  inRange other free := sound.inRange other (order ▸ List.mem_cons_of_mem _ free)

end NetworkLayer.PortPool
