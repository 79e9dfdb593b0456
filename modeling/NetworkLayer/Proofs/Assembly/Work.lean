import NetworkLayer.Network.Assembly

/-!
Work that may be refused halfway, told by what it yields from a network and what it leaves behind, or by
the cause of its refusal. Each way to put work together has a rule for either end, and one for what is left
if nothing is known but that the work has succeeded.
-/

namespace NetworkLayer.Assembly

variable {α β : Type} {work : Assembly α} {next : α → Assembly β} {network after : Network}
  {value : α} {cause : Error}

/-- From a network, the work succeeds with this value and leaves this network behind. -/
def Returns (work : Assembly α) (network : Network) (value : α) (after : Network) : Prop :=
  work.run network = (.ok value, after)

/-- From a network, the work succeeds with a value and a network as they should be. -/
def Yields (work : Assembly α) (network : Network) (post : α → Network → Prop) : Prop :=
  ∃ value after, Returns work network value after ∧ post value after

/-- From a network, the work is refused for a cause. -/
def Refused (work : Assembly α) (network : Network) (cause : Error) : Prop :=
  (work.run network).1 = .error cause

/-- From a network, the work is refused if there is a cause for it, and succeeds otherwise. -/
def Ends (work : Assembly α) (network : Network) (refusal : Option Error)
    (post : α → Network → Prop) : Prop :=
  match refusal with
  | none => Yields work network post
  | some cause => Refused work network cause

section Single

/-- A value is returned as it is. -/
theorem returns_pure : Returns (pure value) network value network := rfl

/-- A change is made. -/
theorem returns_step (change : Network → α × Network) :
    Returns (step change) network (change network).1 (change network).2 := rfl

/-- The network can be looked at. -/
theorem returns_get : Returns get network network network := rfl

/-- The network can be changed. -/
theorem returns_modify (change : Network → Network) :
    Returns (modify change) network ⟨⟩ (change network) := rfl

/-- The network can be replaced. -/
theorem returns_set : Returns (set after) network ⟨⟩ after := rfl

/-- A result that is there is returned. -/
theorem returns_lift {result : Except Error α} (found : result = .ok value) :
    Returns (liftExcept result) network value network := by
  rw [found]
  rfl

/-- A result that is refused refuses the work. -/
theorem refused_lift {result : Except Error α} (refused : result = .error cause) :
    Refused (liftExcept result) network cause := by
  rw [refused]
  rfl

end Single

section Sequence

variable {post : α → Network → Prop} {last : β → Network → Prop}

/-- What follows takes over from what the work leaves behind. -/
theorem run_bind : (work >>= next).run network =
    ExceptT.bindCont next (work.run network).1 (work.run network).2 := rfl

/-- Nothing follows on work that is refused. -/
theorem Refused.bind (refused : Refused work network cause) :
    Refused (work >>= next) network cause := by
  rw [Refused] at refused ⊢
  rw [run_bind, refused]
  rfl

/-- Work that returns a value goes on with it. -/
theorem Returns.bind (returns : Returns work network value after)
    (follows : Yields (next value) after last) : Yields (work >>= next) network last := by
  obtain ⟨result, final, ended, reached⟩ := follows
  refine ⟨result, final, ?_, reached⟩
  rw [Returns, run_bind, returns]
  exact ended

/-- Work that returns a value is refused if it cannot go on with it. -/
theorem Returns.refused (returns : Returns work network value after)
    (follows : Refused (next value) after cause) : Refused (work >>= next) network cause := by
  rw [Refused, run_bind, returns]
  exact follows

/-- Work that returns what it should does so. -/
theorem Returns.yields (returns : Returns work network value after) (holds : post value after) :
    Yields work network post :=
  ⟨value, after, returns, holds⟩

/-- Less may be asked of what work yields. -/
theorem Yields.mono {weaker : α → Network → Prop} (yields : Yields work network post)
    (implies : ∀ value after, post value after → weaker value after) :
    Yields work network weaker := by
  obtain ⟨value, after, done, holds⟩ := yields
  exact done.yields (implies value after holds)

/-- Work goes on if it can do so with all that it may yield. -/
theorem Yields.bind (yields : Yields work network post)
    (follows : ∀ value after, post value after → Yields (next value) after last) :
    Yields (work >>= next) network last := by
  obtain ⟨value, after, done, holds⟩ := yields
  exact done.bind (follows value after holds)

/-- Work that returns a value ends as what follows on it. -/
theorem Returns.ends {refusal : Option Error} (returns : Returns work network value after)
    (follows : Ends (next value) after refusal last) :
    Ends (work >>= next) network refusal last := by
  cases refusal with
  | none => exact returns.bind follows
  | some cause => exact returns.refused follows

/-- Work ends as what follows on all that it may yield. -/
theorem Yields.ends {refusal : Option Error} (yields : Yields work network post)
    (follows : ∀ value after, post value after → Ends (next value) after refusal last) :
    Ends (work >>= next) network refusal last := by
  obtain ⟨value, after, done, holds⟩ := yields
  exact Returns.ends done (follows value after holds)

/-- Work that can go on with all that it may yield is refused only where it is at first. -/
theorem Ends.bind {refusal : Option Error} (ends : Ends work network refusal post)
    (follows : ∀ value after, post value after → Yields (next value) after last) :
    Ends (work >>= next) network refusal last := by
  cases refusal with
  | none => exact Yields.bind ends follows
  | some cause => exact Refused.bind ends

end Sequence

section Loops

variable {items : List α}

/-- Work on one item after the other keeps what holds of the items that are done. -/
theorem yields_foldlM {body : β → α → Assembly β} {start : β}
    (invariant : List α → β → Network → Prop) (holds : invariant [] start network)
    (each : ∀ done value network, ∀ item ∈ items, invariant done value network →
      Yields (body value item) network (invariant (done ++ [item]))) :
    Yields (items.foldlM body start) network (invariant items) := by
  -- The items that are done grow at their end, so the induction is on those that are left.
  suffices goes : ∀ done left, done ++ left = items → ∀ value network,
      invariant done value network → Yields (left.foldlM body value) network (invariant items) from
    goes [] items rfl start network holds
  intro done left
  induction left generalizing done with
  | nil =>
    intro all value network holds
    rw [List.append_nil] at all
    rw [List.foldlM_nil, ← all]
    exact returns_pure.yields holds
  | cons item rest ih =>
    intro all value network holds
    rw [List.foldlM_cons]
    have member : item ∈ items := all ▸ List.mem_append_right _ List.mem_cons_self
    have longer : (done ++ [item]) ++ rest = items := by rw [List.append_assoc, ← all]; rfl
    exact (each done value network item member holds).bind fun value after =>
      ih _ longer value after

/-- A loop that yields nothing is a fold over nothing. -/
theorem forM_eq_foldlM (body : α → Assembly PUnit) :
    items.forM body = items.foldlM (fun _ item => body item) ⟨⟩ := by
  induction items with
  | nil => rfl
  | cons item rest ih => exact congrArg (body item >>= fun _ => ·) ih

/-- Work on one item after the other that yields nothing keeps what holds of the items done. -/
theorem yields_forM {body : α → Assembly PUnit} (invariant : List α → Network → Prop)
    (holds : invariant [] network)
    (each : ∀ done network, ∀ item ∈ items, invariant done network →
      Yields (body item) network fun _ => invariant (done ++ [item])) :
    Yields (items.forM body) network fun _ => invariant items := by
  rw [forM_eq_foldlM]
  exact yields_foldlM (fun done _ => invariant done) holds fun done _ => each done

end Loops

/-- From every network as it should be, the work is refused or leaves a value and a network as they should be. -/
def Leaves (before : Network → Prop) (work : Assembly α) (post : α → Network → Prop) : Prop :=
  ∀ network value after, before network → Returns work network value after → post value after

section Success

variable {before : Network → Prop} {post : α → Network → Prop} {last : β → Network → Prop}

/-- A value is left with the network as it is. -/
theorem leaves_pure (holds : ∀ network, before network → post value network) :
    Leaves before (pure value) post := by
  intro network result after held returns
  cases returns
  exact holds network held

/-- A change is left. -/
theorem leaves_step {change : Network → α × Network}
    (holds : ∀ network, before network → post (change network).1 (change network).2) :
    Leaves before (step change) post := by
  intro network result after held returns
  cases returns
  exact holds network held

/-- A look at the network leaves it as it is. -/
theorem leaves_get {post : Network → Network → Prop}
    (holds : ∀ network, before network → post network network) : Leaves before get post := by
  intro network result after held returns
  cases returns
  exact holds network held

/-- A look at the network tells what is left. -/
theorem leaves_seen : Leaves before get fun seen network => seen = network ∧ before network :=
  leaves_get fun _ held => ⟨rfl, held⟩

/-- A changed network is left. -/
theorem leaves_modify {change : Network → Network} {post : PUnit → Network → Prop}
    (holds : ∀ network, before network → post ⟨⟩ (change network)) :
    Leaves before (modify change) post := by
  intro network result after held returns
  cases returns
  exact holds network held

/-- A network is left in place of the one that was there. -/
theorem leaves_set {next : Network} {post : PUnit → Network → Prop}
    (holds : ∀ network, before network → post ⟨⟩ next) : Leaves before (set next) post := by
  intro network result after held returns
  cases returns
  exact holds network held

/-- A result is left if it is there. -/
theorem leaves_lift {result : Except Error α}
    (holds : ∀ network value, before network → result = .ok value → post value network) :
    Leaves before (liftExcept result) post := by
  intro network value after held returns
  -- Only a value is a success.
  cases result with
  | error cause => cases returns
  | ok value =>
    cases returns
    exact holds network value held rfl

/-- A fact that does not depend on the network is there from the start. -/
theorem leaves_of_fact {fact : Prop} (leaves : fact → Leaves before work post) :
    Leaves (fun network => fact ∧ before network) work post :=
  fun network value after held => leaves held.1 network value after held.2

/-- What follows takes over from what the work leaves. -/
theorem Leaves.bind (leaves : Leaves before work post)
    (follows : ∀ value, Leaves (post value) (next value) last) :
    Leaves before (work >>= next) last := by
  intro network result after held returns
  rw [Returns, run_bind] at returns
  -- Only work that has succeeded is followed by anything.
  cases ran : work.run network with
  | mk outcome between =>
    rw [ran] at returns
    cases outcome with
    | error cause => cases returns
    | ok value => exact follows value between result after (leaves network value between held ran) returns

/-- Less may be asked of what is left. -/
theorem Leaves.mono {weaker : α → Network → Prop} (leaves : Leaves before work post)
    (implies : ∀ value network, post value network → weaker value network) :
    Leaves before work weaker := by
  intro network value after held returns
  exact implies value after (leaves network value after held returns)

/-- Work on one item after the other leaves what holds of the items that are done. -/
theorem leaves_foldlM {items : List α} {body : β → α → Assembly β} {start : β}
    (invariant : List α → β → Network → Prop)
    (each : ∀ done value, ∀ item ∈ items,
      Leaves (invariant done value) (body value item) (invariant (done ++ [item]))) :
    Leaves (invariant [] start) (items.foldlM body start) (invariant items) := by
  -- The items that are done grow at their end, so the induction is on those that are left.
  suffices goes : ∀ left done value, done ++ left = items →
      Leaves (invariant done value) (left.foldlM body value) (invariant items) from
    goes items [] start rfl
  intro left
  induction left with
  | nil =>
    intro done value all
    rw [List.append_nil] at all
    rw [List.foldlM_nil, all]
    exact leaves_pure fun _ holds => holds
  | cons item rest ih =>
    intro done value all
    have member : item ∈ items := all ▸ List.mem_append_right _ List.mem_cons_self
    have longer : (done ++ [item]) ++ rest = items := by rw [List.append_assoc, ← all]; rfl
    rw [List.foldlM_cons]
    exact (each done value item member).bind fun value => ih _ value longer

/-- Work on one item after the other that yields nothing leaves what holds of the items that are done. -/
theorem leaves_forM {items : List α} {body : α → Assembly PUnit}
    (invariant : List α → Network → Prop)
    (each : ∀ done, ∀ item ∈ items,
      Leaves (invariant done) (body item) fun _ => invariant (done ++ [item])) :
    Leaves (invariant []) (items.forM body) fun _ => invariant items := by
  rw [forM_eq_foldlM]
  exact leaves_foldlM (fun done _ => invariant done) fun done _ => each done

end Success

end NetworkLayer.Assembly
