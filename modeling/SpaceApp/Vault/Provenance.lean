import SpaceApp.Foundation.Tokens
import SpaceApp.Vault.Pieces

/-! Where certificates and capabilities come from: floors only rise, and every certificate goes back
to a delegation the operator signed.
-/

set_option autoImplicit false

namespace SpaceApp.Vault

section

variable {broker : Broker} {scope other : VaultScope} {generation : Nat}

theorem raiseFloor_reaches : generation ≤ (broker.raiseFloor scope generation).floors scope := by
  unfold Broker.raiseFloor
  split
  · assumption
  · simp

theorem raiseFloor_floors : broker.floors other ≤ (broker.raiseFloor scope generation).floors other := by
  unfold Broker.raiseFloor
  split
  · exact Nat.le_refl _
  by_cases same : other = scope
  · subst same
    simp only [Function.update_self]
    omega
  · simp [Function.update_of_ne same]

theorem raiseFloor_current (current : broker.floors = broker.storedFloors) :
    (broker.raiseFloor scope generation).floors = (broker.raiseFloor scope generation).storedFloors := by
  unfold Broker.raiseFloor
  split
  · exact current
  · rfl

end

section

variable {platform : Platform} {signed : List OperatorSignature} {broker after : Broker} {request : VaultRequest}
  {before : Option Task} {moment : Moment} {outcome : Outcome}

section
variable (piece : Piece platform signed broker request before moment outcome after)

include piece

/-- What a piece does to the floors: they rise, in memory and in the file alike. -/
theorem piece_floors : (∃ scope generation, after.floors = (broker.raiseFloor scope generation).floors ∧
      after.storedFloors = (broker.raiseFloor scope generation).storedFloors) ∨
    (after.floors = broker.floors ∧ after.storedFloors = broker.storedFloors) := by
  cases piece with
  | revoke => exact .inl ⟨_, _, rfl, rfl⟩
  | delegateSealed => exact .inl ⟨_, _, rfl, rfl⟩
  | signupRevoke =>
    unfold signupRevoke
    split <;> exact .inr ⟨rfl, rfl⟩
  | _ => exact .inr ⟨rfl, rfl⟩

theorem piece_floors_le (scope : VaultScope) : broker.floors scope ≤ after.floors scope := by
  rcases piece_floors piece with ⟨_, _, same, -⟩ | ⟨same, -⟩
  · rw [same]
    exact raiseFloor_floors
  · rw [same]

theorem piece_current (current : broker.floors = broker.storedFloors) : after.floors = after.storedFloors := by
  rcases piece_floors piece with ⟨_, _, same, stored⟩ | ⟨same, stored⟩
  · rw [same, stored]
    exact raiseFloor_current current
  · rw [same, stored, current]

end

variable {world next : World} {event : Event}

section

variable (stepped : Stepped platform world event next) (current : world.broker.floors = world.broker.storedFloors)

include stepped current

theorem stepped_current : next.broker.floors = next.broker.storedFloors := by
  cases stepped with
  | idle => exact current
  | signs => exact current
  | waits turn piece => exact piece_current piece current
  | answers turn piece => exact piece_current piece current
  | restarts torn => rfl

theorem stepped_floors (scope : VaultScope) : world.broker.floors scope ≤ next.broker.floors scope := by
  cases stepped with
  | idle => exact Nat.le_refl _
  | signs => exact Nat.le_refl _
  | waits turn piece => exact piece_floors_le piece scope
  | answers turn piece => exact piece_floors_le piece scope
  | restarts torn =>
    rcases torn with rfl | ⟨input, rfl⟩
    · exact Nat.le_of_eq (congrFun current scope)
    · calc world.broker.floors scope
        _ ≤ (world.broker.raiseFloor input.scope input.generation).floors scope := raiseFloor_floors
        _ = _ := congrFun (raiseFloor_current current) scope

end

end

/-- The item is the operator's, at the origins that were signed, or that of an inbox entry, at its origin. -/
def ItemBacked (asked : DelegatePendingRequest → Prop) (scope : VaultScope) (statement : DelegationStatement)
    (item : DelegatedItem) : Prop :=
  (∃ signed ∈ statement.items, signed.handle = item.handle ∧ item.origins.Perm signed.origins) ∨
    ((∀ signed ∈ statement.items, signed.handle ≠ item.handle) ∧
      ∃ input, asked input ∧ input.scope = scope ∧ input.entry.handle = item.handle ∧ item.origins = [input.entry.origin])

/-- The certificate goes back to a delegation the operator signed for its vault and generation. -/
structure Delegated (platform : Platform) (operator : List OperatorSignature) (asked : DelegatePendingRequest → Prop)
    (issued : Issued VaultDelegationClaims) (statement : DelegationStatement) : Prop where
  basis : issued.basis = .delegation statement
  signed : ∃ key, platform.enrolled issued.claims.scope key = true ∧
    { unlockPublicKey := key, statement := issued.basis } ∈ operator
  scope : statement.scope = issued.claims.scope
  generation : statement.generation = issued.claims.generation
  kept : ∀ signed ∈ statement.items, ∃ item ∈ issued.claims.items, item.handle = signed.handle
  items : ∀ item ∈ issued.claims.items, ItemBacked asked issued.claims.scope statement item

/-- A certificate of the vault and generation has the capability's handle, with its origin and its fields. -/
def Capable (delegations : List (Issued VaultDelegationClaims)) (claims : VaultUseClaims) : Prop :=
  ∃ issued ∈ delegations, issued.claims.scope = claims.scope ∧ issued.claims.generation = claims.generation ∧
    ∃ item ∈ issued.claims.items, Covers item claims.handle claims.origin claims.fields

section

variable {platform : Platform} {operator : List OperatorSignature} {asked : DelegatePendingRequest → Prop}
  {issued : Issued VaultDelegationClaims} {statement : DelegationStatement}

theorem Delegated.mono {more : List OperatorSignature} {others : DelegatePendingRequest → Prop}
    (delegated : Delegated platform operator asked issued statement) (signatures : ∀ signature ∈ operator, signature ∈ more)
    (wider : ∀ input, asked input → others input) : Delegated platform more others issued statement := by
  obtain ⟨key, enrolled, member⟩ := delegated.signed
  refine { delegated with signed := ⟨key, enrolled, signatures _ member⟩, items := ?_ }
  intro item listed
  rcases delegated.items item listed with own | ⟨apart, input, was, rest⟩
  · exact .inl own
  · exact .inr ⟨apart, input, wider input was, rest⟩

theorem delegated_claims {input : DelegateRequest} {moment : Moment}
    (enrolled : platform.enrolled input.scope input.unlockPublicKey = true)
    (signature : { unlockPublicKey := input.unlockPublicKey, statement := vaultDelegationOperatorMessage input } ∈ operator) :
    ∃ statement, Delegated platform operator asked
      { claims := delegationClaims input moment, basis := vaultDelegationOperatorMessage input } statement := by
  refine ⟨_, rfl, ⟨_, enrolled, signature⟩, rfl, rfl, ?_, ?_⟩
  · intro signed member
    obtain ⟨item, listed, rfl⟩ := List.mem_map.mp member
    exact ⟨item, listed, rfl⟩
  · intro item listed
    exact .inl ⟨_, List.mem_map_of_mem listed, rfl, (sorted_perm id item.origins).symm⟩

theorem hasHandle_iff {items : List DelegatedItem} {handle : String} :
    hasHandle items handle = true ↔ ∃ item ∈ items, item.handle = handle := by
  simp [hasHandle]

section

variable {items : List DelegatedItem} {entry : PendingEntry} {roles : List VaultFieldRole} {item : DelegatedItem}

theorem extendItems_handles (listed : item ∈ items) :
    ∃ other ∈ extendItems items entry roles, other.handle = item.handle := by
  unfold extendItems
  split
  · refine ⟨_, List.mem_map_of_mem listed, ?_⟩
    split <;> rfl
  · exact ⟨item, List.mem_append_left _ listed, rfl⟩

theorem extendItems_mem (listed : item ∈ extendItems items entry roles) :
    (∃ other ∈ items, other.handle = item.handle ∧ other.origins = item.origins) ∨
      ((∀ other ∈ items, other.handle ≠ item.handle) ∧ item.handle = entry.handle ∧ item.origins = [entry.origin]) := by
  unfold extendItems at listed
  split at listed
  · obtain ⟨other, member, same⟩ := List.mem_map.mp listed
    refine .inl ⟨other, member, ?_⟩
    split at same
    · rw [← same]
      exact ⟨rfl, rfl⟩
    · rw [same]
      exact ⟨rfl, rfl⟩
  · next unknown =>
    rcases List.mem_append.mp listed with old | new
    · exact .inl ⟨item, old, rfl, rfl⟩
    · rw [List.mem_singleton] at new
      subst new
      refine .inr ⟨?_, rfl, rfl⟩
      intro other member same
      exact unknown (hasHandle_iff.mpr ⟨other, member, same⟩)

end

theorem Delegated.extend {input : DelegatePendingRequest} {certId : String} {roles : List VaultFieldRole}
    (delegated : Delegated platform operator asked issued statement) (scope : issued.claims.scope = input.scope) :
    Delegated platform operator (fun other => asked other ∨ other = input)
      { claims := { issued.claims with certId, items := extendItems issued.claims.items input.entry roles }
        basis := issued.basis } statement := by
  refine { delegated with kept := ?_, items := ?_ }
  · intro signed member
    obtain ⟨item, listed, same⟩ := delegated.kept signed member
    obtain ⟨other, extended, handle⟩ := @extendItems_handles _ input.entry roles _ listed
    exact ⟨other, extended, handle.trans same⟩
  · intro item listed
    rcases extendItems_mem listed with ⟨other, member, handle, origins⟩ | ⟨unknown, handle, origins⟩
    · rcases delegated.items other member with ⟨signed, own, same, perm⟩ | ⟨apart, entry, was, scope, same, one⟩
      · exact .inl ⟨signed, own, same.trans handle, origins ▸ perm⟩
      · refine .inr ⟨?_, entry, .inl was, scope, same.trans handle, origins ▸ one⟩
        intro signed own
        rw [← handle]
        exact apart signed own
    · refine .inr ⟨?_, input, .inr rfl, scope.symm, handle.symm, origins⟩
      intro signed own same
      obtain ⟨other, member, sameHandle⟩ := delegated.kept signed own
      exact unknown other member (sameHandle.trans same)

end

def World.signatures (world : World) : List OperatorSignature := world.operator.map (·.1)

def World.Asked (world : World) (input : DelegatePendingRequest) : Prop :=
  ∃ call ∈ world.history, call.request = .delegatePending input

/-- What was signed and answered in one world was so in the other. -/
structure Extends (world later : World) : Prop where
  operator : ∀ signature ∈ world.signatures, signature ∈ later.signatures
  delegations : ∀ issued ∈ world.broker.delegations, issued ∈ later.broker.delegations
  capabilities : ∀ issued ∈ world.broker.capabilities, issued ∈ later.broker.capabilities
  grants : ∀ issued ∈ world.broker.grants, issued ∈ later.broker.grants
  history : ∀ call ∈ world.history, call ∈ later.history

section

variable {platform : Platform} {signed : List OperatorSignature} {broker after : Broker} {request : VaultRequest}
  {before : Option Task} {moment : Moment} {outcome : Outcome} {world later : World} {event : Event}

section
variable (piece : Piece platform signed broker request before moment outcome after)

include piece

theorem piece_delegations : after.delegations = broker.delegations ∨
      ∃ issued, after.delegations = broker.delegations ++ [issued] ∧
        ((∃ keyEnvelope inboxKeyEnvelope, before = some (.delegateSigning issued keyEnvelope inboxKeyEnvelope)) ∨
          ∃ fieldEnvelopes, before = some (.pendingSigning issued fieldEnvelopes)) := by
  cases piece with
  | delegateSealed => exact .inl raiseFloor_same.delegations
  | revoke => exact .inl raiseFloor_same.delegations
  | signupRevoke =>
    obtain ⟨_, _, same⟩ := signupRevoke_rest _
    exact .inl (by rw [same])
  | delegateSigned => exact .inr ⟨_, rfl, .inl ⟨_, _, rfl⟩⟩
  | pendingSigned => exact .inr ⟨_, rfl, .inr ⟨_, rfl⟩⟩
  | _ => exact .inl rfl

theorem piece_capabilities : after.capabilities = broker.capabilities ∨
      ∃ issued, after.capabilities = broker.capabilities ++ [issued] ∧ before = some (.useSigning issued) ∧
        outcome = .answers (.capability issued.claims) := by
  cases piece with
  | delegateSealed => exact .inl raiseFloor_same.capabilities
  | revoke => exact .inl raiseFloor_same.capabilities
  | signupRevoke =>
    obtain ⟨_, _, same⟩ := signupRevoke_rest _
    exact .inl (by rw [same])
  | useSigned => exact .inr ⟨_, rfl, rfl, rfl⟩
  | _ => exact .inl rfl

theorem piece_grants : after.grants = broker.grants ∨
      ∃ issued, after.grants = broker.grants ++ [issued] ∧ before = some (.grantSigning issued) := by
  cases piece with
  | delegateSealed => exact .inl raiseFloor_same.grants
  | revoke => exact .inl raiseFloor_same.grants
  | signupRevoke =>
    obtain ⟨_, _, same⟩ := signupRevoke_rest _
    exact .inl (by rw [same])
  | grantSigned => exact .inr ⟨_, rfl, rfl⟩
  | _ => exact .inl rfl

end

theorem mem_of_grown {Item : Type} {grown items : List Item} {added : Item → Prop}
    (grows : grown = items ∨ ∃ item, grown = items ++ [item] ∧ added item) : ∀ item ∈ items, item ∈ grown := by
  rcases grows with rfl | ⟨_, rfl, -⟩
  · exact fun _ => id
  · exact fun _ => List.mem_append_left _

theorem old_or_added {Item : Type} {grown items : List Item} {added : Item → Prop} {item : Item}
    (grows : grown = items ∨ ∃ item, grown = items ++ [item] ∧ added item) (member : item ∈ grown) :
    item ∈ items ∨ added item := by
  rcases grows with rfl | ⟨other, rfl, new⟩
  · exact .inl member
  · rcases List.mem_append.mp member with old | last
    · exact .inl old
    · rw [List.mem_singleton] at last
      subst last
      exact .inr new

theorem torn_signed
    (torn : after = broker ∨ ∃ input : RevokeRequest, after = broker.raiseFloor input.scope input.generation) :
    after.delegations = broker.delegations ∧ after.capabilities = broker.capabilities ∧ after.grants = broker.grants := by
  rcases torn with rfl | ⟨input, rfl⟩
  · exact ⟨rfl, rfl, rfl⟩
  · exact ⟨raiseFloor_same.delegations, raiseFloor_same.capabilities, raiseFloor_same.grants⟩

theorem stepped_extends (stepped : Stepped platform world event later) : Extends world later := by
  cases stepped with
  | idle => exact ⟨fun _ => id, fun _ => id, fun _ => id, fun _ => id, fun _ => id⟩
  | signs =>
    refine ⟨?_, fun _ => id, fun _ => id, fun _ => id, fun _ => id⟩
    intro signature member
    simp only [World.signatures, List.map_append, List.mem_append]
    exact .inl member
  | waits turn piece =>
    exact ⟨fun _ => id, mem_of_grown (piece_delegations piece), mem_of_grown (piece_capabilities piece),
      mem_of_grown (piece_grants piece), fun _ => id⟩
  | answers turn piece =>
    exact ⟨fun _ => id, mem_of_grown (piece_delegations piece), mem_of_grown (piece_capabilities piece),
      mem_of_grown (piece_grants piece), fun _ => List.mem_append_left _⟩
  | restarts torn =>
    obtain ⟨delegations, capabilities, grants⟩ := torn_signed torn
    refine ⟨fun _ => id, ?_, ?_, ?_, fun _ => id⟩
    · exact fun _ member => delegations ▸ member
    · exact fun _ member => capabilities ▸ member
    · exact fun _ member => grants ▸ member

theorem Extends.asked (extended : Extends world later) {input : DelegatePendingRequest} (asked : world.Asked input) :
    later.Asked input := by
  obtain ⟨call, member, same⟩ := asked
  exact ⟨call, extended.history call member, same⟩

theorem Capable.mono {claims : VaultUseClaims} {delegations more : List (Issued VaultDelegationClaims)}
    (capable : Capable delegations claims) (kept : ∀ issued ∈ delegations, issued ∈ more) : Capable more claims := by
  obtain ⟨issued, member, rest⟩ := capable
  exact ⟨issued, kept issued member, rest⟩

/-- The delegation goes back to the operator, in this world. -/
def World.Backs (platform : Platform) (world : World) (asked : DelegatePendingRequest → Prop)
    (issued : Issued VaultDelegationClaims) : Prop :=
  ∃ statement, Delegated platform world.signatures asked issued statement

/-- What is known of a request where it waits. -/
def TaskHolds (platform : Platform) (world : World) (request : VaultRequest) : Task → Prop
  | .delegateSealing input => platform.enrolled input.scope input.unlockPublicKey = true ∧
      { unlockPublicKey := input.unlockPublicKey, statement := vaultDelegationOperatorMessage input } ∈ world.signatures
  | .delegateSigning issued _ _ => world.Backs platform world.Asked issued
  | .pendingVerifying input _ => request = .delegatePending input
  | .pendingSealing input delegation => request = .delegatePending input ∧ delegation.claims.scope = input.scope ∧
      delegation ∈ world.broker.delegations
  | .pendingSigning issued _ => ∃ input, request = .delegatePending input ∧
      world.Backs platform (fun other => world.Asked other ∨ other = input) issued
  | .useSigning issued => Capable world.broker.delegations issued.claims
  | .fillVerifying input _ => request = .fill input
  | .fillOpening input claims => request = .fill input ∧ claims = input.capability.claims ∧
      ∃ issued ∈ world.broker.capabilities, issued.claims = claims
  | .signupVerifying input _ => request = .signup input
  | .signupSealing input _ _ _ => request = .signup input
  | _ => True

theorem World.Backs.mono {asked others : DelegatePendingRequest → Prop} {issued : Issued VaultDelegationClaims}
    (backs : world.Backs platform asked issued) (extended : Extends world later)
    (wider : ∀ input, asked input → others input) : later.Backs platform others issued := by
  obtain ⟨statement, delegated⟩ := backs
  exact ⟨statement, delegated.mono extended.operator wider⟩

theorem TaskHolds.mono {task : Task} (holds : TaskHolds platform world request task) (extended : Extends world later) :
    TaskHolds platform later request task := by
  cases task with
  | delegateSealing input => exact ⟨holds.1, extended.operator _ holds.2⟩
  | delegateSigning issued keyEnvelope inboxKeyEnvelope => exact World.Backs.mono holds extended fun _ => extended.asked
  | pendingSealing input delegation => exact ⟨holds.1, holds.2.1, extended.delegations _ holds.2.2⟩
  | pendingSigning issued fieldEnvelopes =>
    obtain ⟨input, same, backs⟩ := holds
    exact ⟨input, same, backs.mono extended fun _ known => known.imp extended.asked id⟩
  | useSigning issued => exact Capable.mono holds extended.delegations
  | fillOpening input claims =>
    obtain ⟨same, claimed, issued, member, named⟩ := holds
    exact ⟨same, claimed, issued, extended.capabilities issued member, named⟩
  | _ => exact holds

/-- What is known of the certificates, the capabilities, and the requests that wait. -/
structure Provenance (platform : Platform) (world : World) : Prop where
  delegations : ∀ issued ∈ world.broker.delegations, world.Backs platform world.Asked issued
  capabilities : ∀ issued ∈ world.broker.capabilities, Capable world.broker.delegations issued.claims ∧
    ∃ call ∈ world.history, call.answer = .capability issued.claims
  tasks : ∀ name running, world.running name = some running → TaskHolds platform world running.request running.task
  fills : ∀ call ∈ world.history, ∀ input fields reply, call.request = .fill input → call.answer = .filled fields reply →
    (∃ issued ∈ world.broker.capabilities, issued.claims = input.capability.claims) ∧
      ∀ field ∈ fields, field.1 ∈ input.capability.claims.fields

/-- What a piece knows of where its request waited. -/
def BeforeHolds (platform : Platform) (world : World) (request : VaultRequest) : Option Task → Prop
  | none => True
  | some task => TaskHolds platform world request task

theorem Turn.holds {name began : Nat} (turn : Turn world event name request began before moment)
    (provenance : Provenance platform world) : BeforeHolds platform world request before := by
  cases turn with
  | arrives => trivial
  | proceeds found => exact provenance.tasks name _ found

theorem Turn.found {name began : Nat} {task : Task} (turn : Turn world event name request began (some task) moment) :
    ∃ running, world.running name = some running ∧ running.task = task ∧ running.began = began := by
  cases turn with
  | proceeds found => exact ⟨_, found, rfl, rfl⟩

theorem waits_holds {task : Task} (provenance : Provenance platform world)
    (piece : Piece platform world.signatures world.broker request before moment (.waits task) after)
    (holds : BeforeHolds platform world request before) (extended : Extends world later) :
    TaskHolds platform later request task := by
  cases piece with
  | delegatePending => rfl
  | fill => rfl
  | signup => rfl
  | signupVerified => exact holds
  | delegateOpened enrolled signature above => exact ⟨enrolled, extended.operator _ signature⟩
  | delegateSealed keyEnvelope inboxKeyEnvelope => exact delegated_claims holds.1 (extended.operator _ holds.2)
  | pendingVerified member scope => exact ⟨holds, scope, extended.delegations _ member⟩
  | pendingSealed fieldEnvelopes =>
    obtain ⟨same, scope, member⟩ := holds
    obtain ⟨statement, delegated⟩ := provenance.delegations _ member
    exact ⟨_, same, World.Backs.mono ⟨statement, delegated.extend scope⟩ extended fun _ known => known.imp extended.asked id⟩
  | useVerified member scope listed covers =>
    exact ⟨_, extended.delegations _ member, scope, rfl, _, listed, covers⟩
  | fillVerified member claimed known current => exact ⟨holds, rfl, _, extended.capabilities _ member, claimed⟩
  | delegate => trivial
  | use => trivial
  | signupGrant => trivial
  | signupAutoGrant => trivial
  | grantOpened => trivial
  | autoGrantVerified => trivial

theorem Backs_asked {issued : Issued VaultDelegationClaims}
    {input : DelegatePendingRequest} (backs : world.Backs platform (fun other => world.Asked other ∨ other = input) issued)
    (extended : Extends world later) (was : later.Asked input) : later.Backs platform later.Asked issued := by
  apply backs.mono extended
  rintro other (known | rfl)
  · exact extended.asked known
  · exact was

section
variable (stepped : Stepped platform world event later) (provenance : Provenance platform world)

include stepped provenance

theorem stepped_delegations : ∀ issued ∈ later.broker.delegations, later.Backs platform later.Asked issued := by
  have extended := stepped_extends stepped
  have kept : ∀ issued ∈ world.broker.delegations, later.Backs platform later.Asked issued :=
    fun issued member => (provenance.delegations issued member).mono extended fun _ => extended.asked
  cases stepped with
  | idle => exact kept
  | signs => exact kept
  | waits turn piece =>
    intro issued member
    rcases old_or_added (piece_delegations piece) member with old | ⟨_, _, rfl⟩ | ⟨_, rfl⟩
    · exact kept issued old
    · cases piece
    · cases piece
  | answers turn piece =>
    intro issued member
    have holds := turn.holds provenance
    rcases old_or_added (piece_delegations piece) member with old | ⟨_, _, rfl⟩ | ⟨_, rfl⟩
    · exact kept issued old
    · exact World.Backs.mono holds extended fun _ => extended.asked
    · obtain ⟨input, same, backs⟩ := holds
      exact Backs_asked backs extended ⟨_, List.mem_append_right _ (List.mem_singleton_self _), same⟩
  | restarts torn =>
    intro issued member
    exact kept issued ((torn_signed torn).1 ▸ member)

theorem stepped_capabilities : ∀ issued ∈ later.broker.capabilities, Capable later.broker.delegations issued.claims ∧
      ∃ call ∈ later.history, call.answer = .capability issued.claims := by
  have extended := stepped_extends stepped
  have kept : ∀ issued ∈ world.broker.capabilities, Capable later.broker.delegations issued.claims ∧
      ∃ call ∈ later.history, call.answer = .capability issued.claims := by
    intro issued member
    obtain ⟨capable, call, called, said⟩ := provenance.capabilities issued member
    exact ⟨capable.mono extended.delegations, call, extended.history call called, said⟩
  cases stepped with
  | idle => exact kept
  | signs => exact kept
  | waits turn piece =>
    intro issued member
    rcases old_or_added (piece_capabilities piece) member with old | ⟨-, said⟩
    · exact kept issued old
    · cases said
  | answers turn piece =>
    intro issued member
    have holds := turn.holds provenance
    rcases old_or_added (piece_capabilities piece) member with old | ⟨rfl, said⟩
    · exact kept issued old
    · cases said
      exact ⟨Capable.mono holds extended.delegations, _, List.mem_append_right _ (List.mem_singleton_self _), rfl⟩
  | restarts torn =>
    intro issued member
    exact kept issued ((torn_signed torn).2.1 ▸ member)

theorem stepped_tasks :
    ∀ name running, later.running name = some running → TaskHolds platform later running.request running.task := by
  have extended := stepped_extends stepped
  have kept : ∀ name running, world.running name = some running → TaskHolds platform later running.request running.task :=
    fun name running found => (provenance.tasks name running found).mono extended
  cases stepped with
  | idle => exact kept
  | signs => exact kept
  | waits turn piece =>
    exact Foundation.kept_with kept (waits_holds provenance piece (turn.holds provenance) extended)
  | answers turn piece =>
    exact Foundation.kept_without kept _
  | restarts torn =>
    intro other running found
    cases found

end

theorem piece_filled {fields : List (VaultFieldRole × String)} {reply : String}
    (piece : Piece platform signed broker request before moment (.answers (.filled fields reply)) after) :
    ∃ input claims, before = some (.fillOpening input claims) ∧ ∀ field ∈ fields, field.1 ∈ claims.fields := by
  cases piece with
  | fillOpened named => exact ⟨_, _, rfl, named⟩

theorem stepped_fills (stepped : Stepped platform world event later) (provenance : Provenance platform world) :
    ∀ call ∈ later.history, ∀ input fields reply, call.request = .fill input → call.answer = .filled fields reply →
      (∃ issued ∈ later.broker.capabilities, issued.claims = input.capability.claims) ∧
        ∀ field ∈ fields, field.1 ∈ input.capability.claims.fields := by
  have extended := stepped_extends stepped
  have kept : ∀ call ∈ world.history, ∀ input fields reply, call.request = .fill input → call.answer = .filled fields reply →
      (∃ issued ∈ later.broker.capabilities, issued.claims = input.capability.claims) ∧
        ∀ field ∈ fields, field.1 ∈ input.capability.claims.fields := by
    intro call member input fields reply asked said
    obtain ⟨⟨issued, listed, same⟩, named⟩ := provenance.fills call member input fields reply asked said
    exact ⟨⟨issued, extended.capabilities issued listed, same⟩, named⟩
  cases stepped with
  | idle => exact kept
  | signs => exact kept
  | waits turn piece => exact kept
  | answers turn piece =>
    intro call member input fields reply asked said
    rcases List.mem_append.mp member with old | new
    · exact kept call old input fields reply asked said
    · rw [List.mem_singleton] at new
      subst new
      subst asked said
      have holds := turn.holds provenance
      obtain ⟨other, claims, rfl, named⟩ := piece_filled piece
      obtain ⟨same, claimed, issued, listed, equal⟩ := holds
      cases same
      subst claimed
      exact ⟨⟨issued, extended.capabilities issued listed, equal⟩, named⟩
  | restarts torn => exact kept

theorem stepped_provenance (stepped : Stepped platform world event later) (provenance : Provenance platform world) :
    Provenance platform later :=
  ⟨stepped_delegations stepped provenance, stepped_capabilities stepped provenance, stepped_tasks stepped provenance,
    stepped_fills stepped provenance⟩

/-- Requests began, and calls were answered, in steps that were taken. -/
structure Stamped (world : World) : Prop where
  running : ∀ name running, world.running name = some running → running.began < world.steps
  calls : ∀ call ∈ world.history, call.began ≤ call.answered ∧ call.answered < world.steps

theorem Turn.began_le {name began : Nat} (turn : Turn world event name request began before moment) (stamped : Stamped world) :
    began ≤ world.steps := by
  cases turn with
  | arrives => exact Nat.le_refl _
  | proceeds found => exact Nat.le_of_lt (stamped.running name _ found)

theorem stepped_stamped (stepped : Stepped platform world event later) (stamped : Stamped world) : Stamped later := by
  have waiting : ∀ name running, world.running name = some running → running.began < world.steps + 1 :=
    fun name running found => Nat.lt_succ_of_lt (stamped.running name running found)
  have called : ∀ call ∈ world.history, call.began ≤ call.answered ∧ call.answered < world.steps + 1 :=
    fun call member => ⟨(stamped.calls call member).1, Nat.lt_succ_of_lt (stamped.calls call member).2⟩
  cases stepped with
  | idle => exact ⟨waiting, called⟩
  | signs => exact ⟨waiting, called⟩
  | waits turn piece =>
    exact ⟨Foundation.kept_with waiting (Nat.lt_succ_of_le (turn.began_le stamped)), called⟩
  | answers turn piece =>
    refine ⟨Foundation.kept_without waiting _, ?_⟩
    intro call member
    rcases List.mem_append.mp member with old | new
    · exact called call old
    · rw [List.mem_singleton] at new
      subst new
      exact ⟨turn.began_le stamped, Nat.lt_succ_self _⟩
  | restarts torn =>
    refine ⟨?_, called⟩
    intro name running found
    cases found

end

end SpaceApp.Vault
