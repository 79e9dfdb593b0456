import NetworkLayer.Proofs.Metrics.Views

/-!
How far the gauges of a node are from what they show: the gauge of routes misses the routes that it was not told of,
and that of translations shows too many by the flows that were lost with refused packets. Main statement: a change of
the node, a route that is put in place and a received packet each keep the account of it.
-/

namespace NetworkLayer

/-- How far gauges are off: the routes that were put in place without a word, since the gauge was told of routes last,
and the flows that went with refused packets, since a packet was translated last. -/
structure Drift where
  untold : Nat
  lost : Nat
deriving DecidableEq

namespace Drift

/-- A change of the node that tells the gauge of routes sets it right. -/
def changed (drift : Drift) (tallies : List Tally) : Drift :=
  if tallies.filterMap Tally.routes? = [] then drift else { drift with untold := 0 }

/-- A packet that is translated sets the gauge of translations right, and another one may cost flows. -/
def received (drift : Drift) (before : Policy .v4) (result : Reaction .v4 × Policy .v4) : Drift :=
  if result.1.tallies.filterMap Tally.translations? = [] then
    { drift with lost := drift.lost + (before.tracked - result.2.tracked) }
  else { drift with lost := 0 }

end Drift

/-- A view with gauges that are off by so much. -/
structure View.Drifts (alone : Bool) (view : View) (drift : Drift) : Prop where
  routes : alone = true → ∃ told,
    view.routes = told + drift.untold ∧ view.metrics.routes = UInt64.ofNat told
  translations : view.metrics.translations = UInt64.ofNat (view.tracked + drift.lost)

namespace View.Drifts

variable {alone : Bool} {view after : View} {drift : Drift}

/-- Gauges are as far off where routes, flows and gauges are kept. -/
theorem kept (drifts : view.Drifts alone drift) (kept : Kept alone view after) :
    after.Drifts alone drift := by
  -- Both gauges and what they should show are kept.
  constructor
  · intro only
    rw [kept.routes, kept.told only]
    exact drifts.routes only
  · rw [kept.tracked, kept.translations]
    exact drifts.translations

/-- A change of the node tells the gauge of routes how many there are, or leaves them as they are. -/
theorem changed (drifts : view.Drifts alone drift) {station : Station .v4} {tallies : List Tally}
    (told : Station.Told view.station station tallies) :
    View.Drifts alone ⟨station, view.policy, view.metrics.record tallies⟩
      (drift.changed tallies) := by
  constructor
  · intro only
    rw [Metrics.record_routes]
    -- Either the gauge is set to the number of routes, and the drift is gone, or neither of the two changes.
    rcases told.routes with number | ⟨silent, same⟩
    · have spoken : tallies.filterMap Tally.routes? ≠ [] := by
        intro silent
        rw [silent] at number
        cases number
      rw [Drift.changed, if_neg spoken, number]
      exact ⟨_, rfl, rfl⟩
    · obtain ⟨number, sum, gauge⟩ := drifts.routes only
      rw [Drift.changed, if_pos silent, silent]
      refine ⟨number, ?_, gauge⟩
      rw [View.routes, same]
      exact sum
  -- No change of the node says anything of translations.
  · have lost : (drift.changed tallies).lost = drift.lost := by
      rw [Drift.changed]
      split <;> rfl
    rw [Metrics.record_translations, told.translations, lost]
    exact drifts.translations

/-- A route that is put in place without a word makes one more that the gauge does not know. -/
theorem placed (drifts : view.Drifts alone drift) {station : Station .v4}
    (more : station.node.table.routes.length = view.routes + 1) :
    View.Drifts alone { view with station } { drift with untold := drift.untold + 1 } := by
  -- The gauge stays, and the number it misses grows with the table.
  constructor
  · intro only
    obtain ⟨number, sum, gauge⟩ := drifts.routes only
    refine ⟨number, ?_, gauge⟩
    rw [View.routes, more, sum, Nat.add_assoc]
  · exact drifts.translations

/-- A received packet tells the gauge of translations how many flows there are, or costs some without a word. -/
theorem received (drifts : view.Drifts alone drift) {result : Reaction .v4 × Policy .v4}
    (tells : view.policy.Tells result.2 result.1.tallies) :
    View.Drifts alone ⟨view.station, result.2, view.metrics.record result.1.tallies⟩
      (drift.received view.policy result) := by
  constructor
  · intro only
    have untold : (drift.received view.policy result).untold = drift.untold := by
      rw [Drift.received]
      split <;> rfl
    rw [Metrics.record_routes, tells.routes, untold]
    exact drifts.routes only
  · rw [Metrics.record_translations]
    -- A reaction that says nothing of translations may still have dropped flows that were too old, and these
    -- join the ones that are lost.
    rcases tells.translations with told | ⟨silent, fewer⟩
    · have spoken : result.1.tallies.filterMap Tally.translations? ≠ [] := by
        rw [told]
        exact List.cons_ne_nil _ _
      rw [Drift.received, if_neg spoken, told]
      rfl
    · have sum : result.2.tracked + (drift.lost + (view.policy.tracked - result.2.tracked)) =
          view.policy.tracked + drift.lost := by
        omega
      rw [Drift.received, if_pos silent, silent]
      exact drifts.translations.trans (congrArg UInt64.ofNat sum.symm)

end View.Drifts

/-- Two numbers show as the same figure exactly if they are a multiple of 2^64 apart. -/
theorem Drift.figure_eq_iff (number more : Nat) :
    UInt64.ofNat (number + more) = UInt64.ofNat number ↔ UInt64.size ∣ more := by
  have size : UInt64.size = 18446744073709551616 := rfl
  rw [← UInt64.toNat_inj, UInt64.toNat_ofNat', UInt64.toNat_ofNat', Nat.dvd_iff_mod_eq_zero, size]
  omega

end NetworkLayer
