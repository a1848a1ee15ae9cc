import SpaceApp.Foundation.Reach
import SpaceApp.Foundation.Tokens
import SpaceApp.Vault.Fills

/-! Sign-ups after a revoke, and how many there are a day.

The clock does not go back, and what a piece reads of it is the time it runs.
-/

set_option autoImplicit false

namespace SpaceApp.Vault

open SpaceApp.Foundation

/-! ## Signatures made after a revoke -/

def revokesVault (call : Call) (scope : VaultScope) : Bool :=
  match call.request, call.answer with
  | .revoke input, .floor _ => input.scope = scope
  | _, _ => false

def revokesGrant (call : Call) (grantId : String) : Bool :=
  match call.request, call.answer with
  | .signupRevoke input, .grantRevoked => input.grantId = grantId
  | _, _ => false

/-- The statement was signed for the vault after every revoke of it that was answered. -/
def renewed (platform : Platform) (world : World) (scope : VaultScope) (statement : OperatorStatement) : Bool :=
  world.operator.any fun made =>
    platform.enrolled scope made.1.unlockPublicKey && made.1.statement = statement &&
      world.history.all fun call => !revokesVault call scope || call.answered < made.2

/-- What the broker stamps rests on a signature made after the revokes before it, or is void as it stands. -/
def renews (platform : Platform) (world : World) : Event → Bool
  | .proceeds name moment =>
    match (world.running name).map Running.task with
    | some (.grantOpening input) =>
      !(platform.enrolled input.scope input.unlockPublicKey &&
        world.signatures.contains { unlockPublicKey := input.unlockPublicKey, statement := vaultSignupGrantOperatorMessage input }) ||
      renewed platform world input.scope (vaultSignupGrantOperatorMessage input) ||
      voided world.broker.signups input.scope moment.now
    | some (.delegateSealing input) =>
      renewed platform world input.scope (vaultDelegationOperatorMessage input) ||
      voided world.broker.signups input.scope (moment.now - 1000) ||
      decide (input.generation < world.broker.floors input.scope)
    | _ => true
  | _ => true

def Event.now : Event → Option ℤ
  | .arrives _ _ moment => some moment.now
  | .proceeds _ moment => some moment.now
  | _ => none

/-- A world, and the last time that was read. -/
structure Timed where
  world : World
  clock : ℤ

namespace Timed

variable (platform : Platform)

def step (timed : Timed) (event : Event) : Timed where
  world := timed.world.step platform event
  clock := event.now.getD timed.clock

def Forward (timed : Timed) (event : Event) : Prop := timed.clock ≤ event.now.getD timed.clock

def Allowed (timed : Timed) (event : Event) : Prop := timed.Forward event ∧ renews platform timed.world event = true

instance (timed : Timed) (event : Event) : Decidable (timed.Forward event) := inferInstanceAs (Decidable (_ ≤ _))

instance (timed : Timed) (event : Event) : Decidable (timed.Allowed platform event) :=
  inferInstanceAs (Decidable (_ ∧ _))

end Timed

section

variable {platform : Platform} {signed : List OperatorSignature} {broker after : Broker} {request : VaultRequest}
  {before : Option Task} {moment : Moment} {outcome : Outcome} {world later : World} {event : Event} {scope : VaultScope}
  {clock : ℤ}

theorem renewed_iff {statement : OperatorStatement} : renewed platform world scope statement = true ↔
    ∃ key made, platform.enrolled scope key = true ∧ ({ unlockPublicKey := key, statement }, made) ∈ world.operator ∧
      ∀ call ∈ world.history, revokesVault call scope = true → call.answered < made := by
  unfold renewed
  rw [List.any_eq_true]
  constructor
  · rintro ⟨⟨⟨key, other⟩, made⟩, member, holds⟩
    simp only [Bool.and_eq_true, decide_eq_true_eq, List.all_eq_true, Bool.or_eq_true, Bool.not_eq_true'] at holds
    obtain ⟨⟨enrolled, rfl⟩, earlier⟩ := holds
    refine ⟨key, made, enrolled, member, ?_⟩
    intro call called revokes
    rcases earlier call called with other | before
    · rw [revokes] at other
      cases other
    · exact before
  · rintro ⟨key, made, enrolled, member, earlier⟩
    refine ⟨_, member, ?_⟩
    simp only [enrolled, decide_true, Bool.and_true, Bool.true_and, List.all_eq_true, Bool.or_eq_true, Bool.not_eq_true',
      decide_eq_true_eq]
    intro call called
    cases revokes : revokesVault call scope with
    | false => exact .inl rfl
    | true => exact .inr (earlier call called revokes)

theorem voided_iff {signups : Signups} {issuedAt : ℤ} : voided signups scope issuedAt = true ↔
    ∃ time, signups.voidBefore scope = some time ∧ issuedAt ≤ time := by
  simp [voided, Option.any_eq_true]

/-! ## What a step does to the sign-ups -/

theorem piece_stored (piece : Piece platform signed broker request before moment outcome after)
    (stored : broker.signups = broker.storedSignups) : after.signups = after.storedSignups := by
  cases piece with
  | delegateSealed => rw [raiseFloor_same.signups, raiseFloor_same.storedSignups, stored]
  | revoke => rfl
  | signupRevoke =>
    unfold signupRevoke
    split
    · exact stored
    · rfl
  | signupVerified => rfl
  | _ => exact stored

theorem stepped_stored (stepped : Stepped platform world event later)
    (stored : world.broker.signups = world.broker.storedSignups) : later.broker.signups = later.broker.storedSignups := by
  cases stepped with
  | idle => exact stored
  | signs => exact stored
  | waits turn piece => exact piece_stored piece stored
  | answers turn piece => exact piece_stored piece stored
  | restarts torn => rfl

/-- Only a revoke moves the void time of its vault, to the time it runs. -/
theorem piece_void (piece : Piece platform signed broker request before moment outcome after) :
    after.signups.voidBefore = broker.signups.voidBefore ∨
      ∃ input floor, request = .revoke input ∧ outcome = .answers (.floor floor) ∧
        after.signups.voidBefore = Function.update broker.signups.voidBefore input.scope (some moment.now) := by
  cases piece with
  | delegateSealed => exact .inl (by rw [raiseFloor_same.signups])
  | revoke => exact .inr ⟨_, _, rfl, rfl, by rw [revoke_signups]⟩
  | signupRevoke =>
    unfold signupRevoke
    split <;> exact .inl rfl
  | _ => exact .inl rfl

theorem piece_floor {input : RevokeRequest} {floor : Nat}
    (piece : Piece platform signed broker (.revoke input) before moment (.answers (.floor floor)) after) :
    after.signups.voidBefore = Function.update broker.signups.voidBefore input.scope (some moment.now) := by
  cases piece with
  | revoke => rw [revoke_signups]

theorem revokesVault_iff {call : Call} : revokesVault call scope = true ↔
    ∃ input floor, call.request = .revoke input ∧ call.answer = .floor floor ∧ input.scope = scope := by
  unfold revokesVault
  constructor
  · intro revokes
    split at revokes
    · next input floor asked said => exact ⟨input, floor, asked, said, of_decide_eq_true revokes⟩
    · cases revokes
  · rintro ⟨input, floor, asked, said, same⟩
    rw [asked, said]
    exact decide_eq_true same

theorem Turn.now {name began : Nat} (turn : Turn world event name request began before moment) :
    event.now = some moment.now := by
  cases turn with
  | arrives => rfl
  | proceeds => rfl

/-- For each vault, a step leaves its void time and revokes no more of it, or voids what was issued so far. -/
theorem stepped_void (stepped : Stepped platform world event later)
    (stored : world.broker.signups = world.broker.storedSignups) (scope : VaultScope) :
    (later.broker.signups.voidBefore scope = world.broker.signups.voidBefore scope ∧
      ∀ call ∈ later.history, revokesVault call scope = true → call ∈ world.history) ∨
    ∃ now, event.now = some now ∧ later.broker.signups.voidBefore scope = some now := by
  cases stepped with
  | idle => exact .inl ⟨rfl, fun _ member _ => member⟩
  | signs => exact .inl ⟨rfl, fun _ member _ => member⟩
  | waits turn piece =>
    rcases piece_void piece with same | ⟨input, floor, -, said, -⟩
    · exact .inl ⟨congrFun same scope, fun _ member _ => member⟩
    · cases said
  | @answers event name began request before moment answer broker turn piece =>
    by_cases revokes : revokesVault { name, request, began, answered := world.steps, answer } scope = true
    · obtain ⟨input, floor, asked, said, rfl⟩ := revokesVault_iff.mp revokes
      subst asked said
      refine .inr ⟨moment.now, turn.now, ?_⟩
      rw [piece_floor piece, Function.update_self]
    · refine .inl ⟨?_, ?_⟩
      · rcases piece_void piece with same | ⟨input, floor, asked, said, moved⟩
        · exact congrFun same scope
        · have other : scope ≠ input.scope := by
            rintro rfl
            cases said
            exact revokes (revokesVault_iff.mpr ⟨input, floor, asked, rfl, rfl⟩)
          rw [moved, Function.update_of_ne other]
      · intro call member revoked
        rcases List.mem_append.mp member with old | new
        · exact old
        · rw [List.mem_singleton] at new
          rw [new] at revoked
          exact (revokes revoked).elim
  | restarts torn =>
    refine .inl ⟨?_, fun _ member _ => member⟩
    rcases torn with rfl | ⟨input, rfl⟩
    · exact congrFun (congrArg Signups.voidBefore stored.symm) scope
    · change (world.broker.raiseFloor input.scope input.generation).storedSignups.voidBefore scope = _
      rw [raiseFloor_same.storedSignups, stored]

/-! ## What was stamped -/

/-- What was stamped is void, or retired, or rests on a signature made after the revokes. -/
structure Dated (platform : Platform) (world : World) (clock : ℤ) (scope : VaultScope) (issuedAt : ℤ)
    (basis : OperatorStatement) (retired : Prop) : Prop where
  past : issuedAt ≤ clock
  standing : voided world.broker.signups scope issuedAt = true ∨ retired ∨ renewed platform world scope basis = true

def DelegationDated (platform : Platform) (world : World) (clock : ℤ) (issued : Issued VaultDelegationClaims) : Prop :=
  Dated platform world clock issued.claims.scope issued.claims.issuedAt issued.basis
    (issued.claims.generation < world.broker.floors issued.claims.scope)

def GrantDated (platform : Platform) (world : World) (clock : ℤ) (issued : Issued VaultSignupGrantClaims) : Prop :=
  Dated platform world clock issued.claims.scope issued.claims.issuedAt issued.basis False

theorem stepped_operator (stepped : Stepped platform world event later) :
    ∀ made ∈ world.operator, made ∈ later.operator := by
  cases stepped with
  | signs => exact fun _ => List.mem_append_left _
  | _ => exact fun _ => id

variable {next issuedAt : ℤ} {basis : OperatorStatement} {retired retires : Prop}

/-- What was stamped stays void, retired or renewed; a revoke voids it. -/
theorem Dated.step (dated : Dated platform world clock scope issuedAt basis retired)
    (stepped : Stepped platform world event later) (stored : world.broker.signups = world.broker.storedSignups)
    (later_ : clock ≤ event.now.getD clock) (retiring : retired → retires) :
    Dated platform later (event.now.getD clock) scope issuedAt basis retires := by
  refine ⟨Int.le_trans dated.past later_, ?_⟩
  rcases stepped_void stepped stored scope with ⟨same, calls⟩ | ⟨now, read, moved⟩
  · rcases dated.standing with void | gone | renewed_
    · obtain ⟨time, known, before⟩ := voided_iff.mp void
      exact .inl (voided_iff.mpr ⟨time, by rw [same, known], before⟩)
    · exact .inr (.inl (retiring gone))
    · obtain ⟨key, made, enrolled, member, earlier⟩ := renewed_iff.mp renewed_
      refine .inr (.inr (renewed_iff.mpr ⟨key, made, enrolled, stepped_operator stepped _ member, ?_⟩))
      exact fun call called revokes => earlier call (calls call called revokes) revokes
  · have now_ : clock ≤ now := by
      rw [read] at later_
      exact later_
    exact .inl (voided_iff.mpr ⟨now, moved, Int.le_trans dated.past now_⟩)

/-! ## Sign-ups that go on -/

/-- The sign-up does not rest on a signature made before a revoke it began after, nor on a revoked grant. -/
structure Justified (platform : Platform) (world : World) (input : SignupRequest) (began : Nat) : Prop where
  renewed : ∀ call ∈ world.history, revokesVault call input.scope = true → call.answered < began →
    ∃ issued ∈ world.broker.grants, issued.claims = input.certificate.claims ∧
      ∃ key made, platform.enrolled input.scope key = true ∧
        ({ unlockPublicKey := key, statement := issued.basis }, made) ∈ world.operator ∧ call.answered < made
  granted : ∀ call ∈ world.history, revokesGrant call input.certificate.claims.grantId = true → ¬ call.answered < began

theorem Justified.step {input : SignupRequest} {began : Nat} (justified : Justified platform world input began)
    (stepped : Stepped platform world event later) (begun : began ≤ world.steps) : Justified platform later input began := by
  have extended := stepped_extends stepped
  -- a call that is answered from now on is answered after the sign-up began
  have old (call : Call) (member : call ∈ later.history) (earlier : call.answered < began) : call ∈ world.history := by
    cases stepped with
    | answers turn piece =>
      rcases List.mem_append.mp member with old | new
      · exact old
      · rw [List.mem_singleton] at new
        subst new
        exact (Nat.not_lt.mpr begun earlier).elim
    | _ => exact member
  constructor
  · intro call member revokes earlier
    obtain ⟨issued, listed, same, key, made, enrolled, signed_, after_⟩ :=
      justified.renewed call (old call member earlier) revokes earlier
    exact ⟨issued, extended.grants issued listed, same, key, made, enrolled, stepped_operator stepped _ signed_, after_⟩
  · intro call member revokes earlier
    exact justified.granted call (old call member earlier) revokes earlier

/-- The revoked grants are those whose revoke was answered, among others. -/
def GrantsRevoked (world : World) : Prop :=
  ∀ call ∈ world.history, ∀ grantId, revokesGrant call grantId = true → grantId ∈ world.broker.signups.revoked

theorem revokesGrant_iff {call : Call} {grantId : String} : revokesGrant call grantId = true ↔
    ∃ input, call.request = .signupRevoke input ∧ call.answer = .grantRevoked ∧ input.grantId = grantId := by
  unfold revokesGrant
  constructor
  · intro revokes
    split at revokes
    · next input asked said => exact ⟨input, asked, said, of_decide_eq_true revokes⟩
    · cases revokes
  · rintro ⟨input, asked, said, same⟩
    rw [asked, said]
    exact decide_eq_true same

theorem piece_revoked (piece : Piece platform signed broker request before moment outcome after) :
    ∀ grantId ∈ broker.signups.revoked, grantId ∈ after.signups.revoked := by
  cases piece with
  | delegateSealed => exact fun _ member => by rwa [raiseFloor_same.signups]
  | revoke => exact fun _ member => by rwa [revoke_signups]
  | signupRevoke =>
    unfold signupRevoke
    split
    · exact fun _ => id
    · exact fun _ => List.mem_append_left _
  | _ => exact fun _ => id

theorem piece_grantRevoked {input : SignupRevokeRequest}
    (piece : Piece platform signed broker (.signupRevoke input) before moment (.answers .grantRevoked) after) :
    input.grantId ∈ after.signups.revoked := by
  cases piece with
  | signupRevoke =>
    unfold signupRevoke
    split
    · assumption
    · exact List.mem_append_right _ (List.mem_singleton_self _)

theorem GrantsRevoked.step (revoked : GrantsRevoked world) (stepped : Stepped platform world event later)
    (stored : world.broker.signups = world.broker.storedSignups) : GrantsRevoked later := by
  cases stepped with
  | idle => exact revoked
  | signs => exact revoked
  | waits turn piece => exact fun call member grantId revokes => piece_revoked piece _ (revoked call member grantId revokes)
  | answers turn piece =>
    intro call member grantId revokes
    rcases List.mem_append.mp member with old | new
    · exact piece_revoked piece _ (revoked call old grantId revokes)
    · rw [List.mem_singleton] at new
      obtain ⟨input, asked, said, rfl⟩ := revokesGrant_iff.mp revokes
      subst new
      subst asked said
      exact piece_grantRevoked piece
  | restarts torn =>
    intro call member grantId revokes
    have known := revoked call member grantId revokes
    rcases torn with rfl | ⟨input, rfl⟩
    · change grantId ∈ world.broker.storedSignups.revoked
      rw [← stored]
      exact known
    · change grantId ∈ (world.broker.raiseFloor input.scope input.generation).storedSignups.revoked
      rw [raiseFloor_same.storedSignups, ← stored]
      exact known

/-! ## Every step -/

def TaskDated (platform : Platform) (world : World) (clock : ℤ) (running : Running) : Prop :=
  match running.task with
  | .delegateSigning issued _ _ => DelegationDated platform world clock issued
  | .pendingSigning issued _ => DelegationDated platform world clock issued
  | .grantSigning issued => GrantDated platform world clock issued
  | .signupSealing input _ _ _ => Justified platform world input running.began
  | _ => True

structure Standing (platform : Platform) (world : World) (clock : ℤ) : Prop where
  delegations : ∀ issued ∈ world.broker.delegations, DelegationDated platform world clock issued
  grants : ∀ issued ∈ world.broker.grants, GrantDated platform world clock issued
  tasks : ∀ name running, world.running name = some running → TaskDated platform world clock running
  signups : ∀ call ∈ world.history, ∀ input password inbox roles reply day use, call.request = .signup input →
    call.answer = .generated password inbox roles reply day use → Justified platform world input call.began

theorem Turn.proceeding {name began : Nat} {task : Task} (turn : Turn world event name request began (some task) moment) :
    event = .proceeds name moment ∧ (world.running name).map Running.task = some task := by
  cases turn with
  | proceeds found => exact ⟨rfl, by rw [found]; rfl⟩

theorem Dated.fresh
    (standing : voided world.broker.signups scope issuedAt = true ∨ retired ∨ renewed platform world scope basis = true)
    (stepped : Stepped platform world event later) (stored : world.broker.signups = world.broker.storedSignups)
    (read : event.now = some moment.now) (before_ : issuedAt ≤ moment.now) (retiring : retired → retires) :
    Dated platform later (event.now.getD clock) scope issuedAt basis retires := by
  have dated : Dated platform world moment.now scope issuedAt basis retired := ⟨before_, standing⟩
  have stepped_ := dated.step stepped stored (by rw [read]; exact Int.le_refl _) retiring
  rw [read] at stepped_ ⊢
  exact stepped_

theorem waits_dated {task : Task} {name began : Nat} (standing : Standing platform world clock)
    (provenance : Provenance platform world) (revoked : GrantsRevoked world) (stored : world.broker.signups = world.broker.storedSignups) (current : world.broker.floors = world.broker.storedFloors)
    (stamped : Stamped world) (turn : Turn world event name request began before moment)
    (piece : Piece platform world.signatures world.broker request before moment (.waits task) after)
    (stepped : Stepped platform world event later) (later_ : clock ≤ event.now.getD clock)
    (renews_ : renews platform world event = true) :
    TaskDated platform later (event.now.getD clock) { request, began, task } := by
  have rises := stepped_floors stepped current
  have holds := turn.holds provenance
  have begun := turn.began_le stamped
  cases piece with
  | @delegateSealed request input moment keyEnvelope inboxKeyEnvelope =>
    obtain ⟨rfl, task⟩ := turn.proceeding
    simp only [renews, task, Bool.or_eq_true, decide_eq_true_eq] at renews_
    apply Dated.fresh _ stepped stored turn.now (sub_le_self _ (by decide))
      (fun below => Nat.lt_of_lt_of_le below (rises input.scope))
    rcases renews_ with (signed | void) | below
    · exact .inr (.inr signed)
    · exact .inl void
    · exact .inr (.inl below)
  | pendingSealed fieldEnvelopes =>
    obtain ⟨-, -, member⟩ := holds
    exact (standing.delegations _ member).step stepped stored later_ fun below => Nat.lt_of_lt_of_le below (rises _)
  | @grantOpened request input moment issued enrolled signature scope issuedAt basis =>
    obtain ⟨rfl, task⟩ := turn.proceeding
    have known : world.signatures.contains
        { unlockPublicKey := input.unlockPublicKey, statement := vaultSignupGrantOperatorMessage input } = true :=
      List.contains_iff_mem.mpr signature
    simp only [renews, task, enrolled, known, Bool.and_self, Bool.not_true, Bool.false_or, Bool.or_eq_true] at renews_
    apply Dated.fresh _ stepped stored turn.now (Int.le_of_eq issuedAt) id
    rw [scope, issuedAt, basis]
    rcases renews_ with signed | void
    · exact .inr (.inr signed)
    · exact .inl void
  | @autoGrantVerified request input asked moment delegation issued member scope current unvoided sameScope issuedAt basis =>
    apply Dated.fresh _ stepped stored turn.now (Int.le_of_eq issuedAt) id
    rw [sameScope, basis]
    have dated := (standing.delegations _ member).standing
    rw [scope, unvoided] at dated
    rcases dated with void | below | signed
    · cases void
    · exact (Nat.not_lt.mpr current below).elim
    · exact .inr (.inr signed)
  | @signupVerified request input asked moment grant password member same scope kept unvoided below =>
    apply Justified.step _ stepped begun
    constructor
    · intro call called revokes earlier
      have dated := (standing.grants _ member).standing
      rw [scope, unvoided] at dated
      rcases dated with void | none_ | signed
      · cases void
      · exact none_.elim
      · obtain ⟨key, made, enrolled, signed, after_⟩ := renewed_iff.mp signed
        exact ⟨grant, member, same, key, made, enrolled, signed, after_ call called revokes⟩
    · intro call called revokes earlier
      rw [same] at kept
      exact kept (revoked call called _ revokes)
  | delegate => trivial
  | delegatePending => trivial
  | use => trivial
  | fill => trivial
  | signupGrant => trivial
  | signup => trivial
  | signupAutoGrant => trivial
  | delegateOpened => trivial
  | pendingVerified => trivial
  | useVerified => trivial
  | fillVerified => trivial

theorem TaskDated.step {running : Running} (dated : TaskDated platform world clock running)
    (stored : world.broker.signups = world.broker.storedSignups)
    (current : world.broker.floors = world.broker.storedFloors) (stepped : Stepped platform world event later)
    (later_ : clock ≤ event.now.getD clock) (begun : running.began < world.steps) :
    TaskDated platform later (event.now.getD clock) running := by
  have rises := stepped_floors stepped current
  unfold TaskDated at dated ⊢
  split
  · next task =>
    rw [task] at dated
    exact Dated.step dated stepped stored later_ fun below => Nat.lt_of_lt_of_le below (rises _)
  · next task =>
    rw [task] at dated
    exact Dated.step dated stepped stored later_ fun below => Nat.lt_of_lt_of_le below (rises _)
  · next task =>
    rw [task] at dated
    exact Dated.step dated stepped stored later_ id
  · next task =>
    rw [task] at dated
    exact Justified.step dated stepped (Nat.le_of_lt begun)
  · trivial

theorem piece_generated {password inbox reply : String} {roles : List VaultGenerateRole} {day : ℤ} {use : Nat}
    (piece : Piece platform signed broker request before moment (.answers (.generated password inbox roles reply day use)) after) :
    ∃ input, before = some (.signupSealing input password day use) := by
  cases piece with
  | signupSealed => exact ⟨_, rfl⟩

theorem Standing.step (standing : Standing platform world clock) (provenance : Provenance platform world)
    (revoked : GrantsRevoked world)
    (stored : world.broker.signups = world.broker.storedSignups) (current : world.broker.floors = world.broker.storedFloors)
    (stamped : Stamped world) (stepped : Stepped platform world event later) (later_ : clock ≤ event.now.getD clock)
    (renews_ : renews platform world event = true) : Standing platform later (event.now.getD clock) := by
  have rises := stepped_floors stepped current
  have delegations : ∀ issued ∈ world.broker.delegations, DelegationDated platform later (event.now.getD clock) issued :=
    fun issued member => (standing.delegations issued member).step stepped stored later_
      fun below => Nat.lt_of_lt_of_le below (rises _)
  have grants : ∀ issued ∈ world.broker.grants, GrantDated platform later (event.now.getD clock) issued :=
    fun issued member => (standing.grants issued member).step stepped stored later_ id
  have tasks : ∀ name running, world.running name = some running → TaskDated platform later (event.now.getD clock) running :=
    fun name running found => (standing.tasks name running found).step stored current stepped later_
      (stamped.running name running found)
  have signups : ∀ call ∈ world.history, ∀ input password inbox roles reply day use, call.request = .signup input →
      call.answer = .generated password inbox roles reply day use → Justified platform later input call.began := by
    intro call member input password inbox roles reply day use asked said
    have stamps := stamped.calls call member
    exact (standing.signups call member input password inbox roles reply day use asked said).step stepped (by omega)
  cases stepped with
  | idle => exact ⟨delegations, grants, tasks, signups⟩
  | signs => exact ⟨delegations, grants, tasks, signups⟩
  | waits turn piece =>
    refine ⟨?_, ?_, ?_, signups⟩
    · intro issued member
      rcases old_or_added (piece_delegations piece) member with old | ⟨_, _, rfl⟩ | ⟨_, rfl⟩
      · exact delegations issued old
      · cases piece
      · cases piece
    · intro issued member
      rcases old_or_added (piece_grants piece) member with old | rfl
      · exact grants issued old
      · cases piece
    · exact kept_with tasks
        (waits_dated standing provenance revoked stored current stamped turn piece (.waits turn piece) later_ renews_)
  | @answers event name began request before moment answer broker turn piece =>
    -- what the request held where it waited
    have held (task : Task) (waited : before = some task) : ∃ running : Running, running.task = task ∧ running.began = began ∧
        TaskDated platform { world.settle name request began (.answers answer, broker) with steps := world.steps + 1 }
          (event.now.getD clock) running := by
      subst waited
      obtain ⟨running, found, same, began_⟩ := turn.found
      exact ⟨running, same, began_, tasks name running found⟩
    refine ⟨?_, ?_, ?_, ?_⟩
    · intro issued member
      rcases old_or_added (piece_delegations piece) member with old | ⟨keyEnvelope, inboxKeyEnvelope, waited⟩ | ⟨fields, waited⟩
      · exact delegations issued old
      · obtain ⟨running, same, -, dated⟩ := held _ waited
        rw [TaskDated, same] at dated
        exact dated
      · obtain ⟨running, same, -, dated⟩ := held _ waited
        rw [TaskDated, same] at dated
        exact dated
    · intro issued member
      rcases old_or_added (piece_grants piece) member with old | waited
      · exact grants issued old
      · obtain ⟨running, same, -, dated⟩ := held _ waited
        rw [TaskDated, same] at dated
        exact dated
    · exact kept_without tasks _
    · intro call member input password inbox roles reply day use asked said
      rcases List.mem_append.mp member with old | new
      · exact signups call old input password inbox roles reply day use asked said
      · rw [List.mem_singleton] at new
        subst new
        subst asked said
        obtain ⟨other, waited⟩ := piece_generated piece
        have holds := turn.holds provenance
        obtain ⟨running, same, began_, dated⟩ := held _ waited
        rw [waited] at holds
        cases holds
        rw [TaskDated, same, began_] at dated
        exact dated
  | restarts torn =>
    obtain ⟨sameDelegations, -, sameGrants⟩ := torn_signed torn
    refine ⟨?_, ?_, ?_, signups⟩
    · exact fun issued member => delegations issued (sameDelegations ▸ member)
    · exact fun issued member => grants issued (sameGrants ▸ member)
    · intro name running found
      cases found

/-! ## Uses -/

/-- The use a sign-up has taken: of which grant, on which day, the how-manieth. -/
def heldUse (running : Running) : Option (String × ℤ × Nat) :=
  match running.task with
  | .signupSealing input _ day use => some (input.certificate.claims.grantId, day, use)
  | _ => none

def spentUse (call : Call) : Option (String × ℤ × Nat) :=
  match call.request, call.answer with
  | .signup input, .generated _ _ _ _ day use => some (input.certificate.claims.grantId, day, use)
  | _, _ => none

/-- The use was counted, on a day that is not over or whose count is kept, and was within the cap. -/
structure Counted (uses : String × ℤ → Nat) (clock : ℤ) (claims : VaultSignupGrantClaims) (day : ℤ) (use : Nat) : Prop where
  capped : use < claims.dailyCap
  begun : day ≤ utcDay clock
  counted : use < uses (claims.grantId, day) ∨ day < utcDay clock

structure Uses (world : World) (clock : ℤ) : Prop where
  held : ∀ name running, world.running name = some running → ∀ input password day use,
    running.task = .signupSealing input password day use →
      Counted world.broker.signups.uses clock input.certificate.claims day use
  spent : ∀ call ∈ world.history, ∀ input password inbox roles reply day use, call.request = .signup input →
    call.answer = .generated password inbox roles reply day use →
      Counted world.broker.signups.uses clock input.certificate.claims day use
  spending : Spending heldUse spentUse world.running world.history

theorem utcDay_mono {later : ℤ} (le : clock ≤ later) : utcDay clock ≤ utcDay later :=
  Int.ediv_le_ediv (by decide) le

theorem Counted.mono {uses more : String × ℤ → Nat} {later : ℤ} {claims : VaultSignupGrantClaims} {day : ℤ} {use : Nat}
    (counted : Counted uses clock claims day use) (le : clock ≤ later)
    (kept : ∀ grantId day, day = utcDay later → uses (grantId, day) ≤ more (grantId, day)) :
    Counted more later claims day use := by
  have days := utcDay_mono le
  obtain ⟨capped, begun, taken⟩ := counted
  refine ⟨capped, by omega, ?_⟩
  by_cases passed : day < utcDay later
  · exact .inr passed
  · have here : day = utcDay later := by omega
    have more_ := kept claims.grantId day here
    omega

theorem countUse_today {uses : String × ℤ → Nat} {grantId other : String} {day : ℤ} :
    uses (other, day) ≤ countUse uses grantId day (other, day) := by
  unfold countUse
  rw [Function.update_apply]
  split
  · next same => rw [same]; exact Nat.le_succ _
  · simp

theorem piece_uses (piece : Piece platform signed broker request before moment outcome after) :
    (after.signups.uses = broker.signups.uses ∧
      ∀ input password day use, outcome ≠ .waits (.signupSealing input password day use)) ∨
    ∃ input asked password, before = some (.signupVerifying input asked) ∧
      outcome = .waits (.signupSealing input password (utcDay moment.now)
        (broker.signups.uses (input.certificate.claims.grantId, utcDay moment.now))) ∧
      broker.signups.uses (input.certificate.claims.grantId, utcDay moment.now) < input.certificate.claims.dailyCap ∧
      after.signups.uses = countUse broker.signups.uses input.certificate.claims.grantId (utcDay moment.now) := by
  cases piece with
  | delegateSealed => exact .inl ⟨by rw [raiseFloor_same.signups], by simp⟩
  | revoke => exact .inl ⟨by rw [revoke_signups], by simp⟩
  | signupRevoke =>
    unfold signupRevoke
    split <;> exact .inl ⟨rfl, by simp⟩
  | signupVerified member same scope kept unvoided below =>
    rw [same] at below
    exact .inr ⟨_, _, _, rfl, by rw [same], below, by rw [same]; rfl⟩
  | _ => exact .inl ⟨rfl, by simp⟩

theorem piece_today (piece : Piece platform signed broker request before moment outcome after) (grantId : String) (day : ℤ)
    (today : day = utcDay moment.now) : broker.signups.uses (grantId, day) ≤ after.signups.uses (grantId, day) := by
  rcases piece_uses piece with ⟨same, -⟩ | ⟨input, asked, password, -, -, -, same⟩
  · rw [same]
  · rw [same, today]
    exact countUse_today

theorem heldUse_some {running : Running} {token : String × ℤ × Nat} (held : heldUse running = some token) :
    ∃ input password day use, running.task = .signupSealing input password day use ∧
      token = (input.certificate.claims.grantId, day, use) := by
  unfold heldUse at held
  split at held
  · next input password day use same =>
    cases held
    exact ⟨input, password, day, use, same, rfl⟩
  · cases held

theorem spentUse_some {call : Call} {token : String × ℤ × Nat} (spent : spentUse call = some token) :
    ∃ input password inbox roles reply day use, call.request = .signup input ∧
      call.answer = .generated password inbox roles reply day use ∧ token = (input.certificate.claims.grantId, day, use) := by
  unfold spentUse at spent
  split at spent
  · next input password inbox roles reply day use asked said =>
    cases spent
    exact ⟨input, password, inbox, roles, reply, day, use, asked, said, rfl⟩
  · cases spent

theorem Counted.fresh {uses : String × ℤ → Nat} {claims other : VaultSignupGrantClaims} {day : ℤ} {use : Nat}
    (counted : Counted uses clock claims day use) (today : clock ≤ moment.now) : (claims.grantId, day, use) ≠
      (other.grantId, utcDay moment.now, uses (other.grantId, utcDay moment.now)) := by
  intro same
  simp only [Prod.mk.injEq] at same
  obtain ⟨grant, sameDay, sameUse⟩ := same
  have days := utcDay_mono today
  rcases counted.counted with below | passed
  · rw [grant, sameDay] at below
    omega
  · omega

theorem Uses.waits {task : Task} {name began : Nat} (uses : Uses world clock)
    (piece : Piece platform signed world.broker request before moment (.waits task) after) (today : clock ≤ moment.now) :
    Uses { world.settle name request began (.waits task, after) with steps := world.steps + 1 } moment.now := by
  simp only [World.settle]
  have kept := piece_today piece
  refine ⟨?_, ?_, ?_⟩
  · refine kept_with (fun other running found input password day use sealing =>
      (uses.held other running found input password day use sealing).mono today kept) ?_
    intro input password day use sealing
    subst sealing
    rcases piece_uses piece with ⟨-, free⟩ | ⟨input, asked, password, -, same, below, more⟩
    · exact (free _ _ _ _ rfl).elim
    · cases same
      refine ⟨below, Int.le_refl _, .inl ?_⟩
      rw [more, countUse, Function.update_self]
      exact Nat.lt_succ_self _
  · intro call member input password inbox roles reply day use asked said
    exact (uses.spent call member input password inbox roles reply day use asked said).mono today kept
  · rcases piece_uses piece with ⟨-, free⟩ | ⟨input, asked, password, -, same, below, more⟩
    · apply uses.spending.replace
      rintro _ ⟨⟩
      cases held : heldUse { request, began, task } with
      | none => rfl
      | some token =>
        obtain ⟨input, password, day, use, sealing, -⟩ := heldUse_some held
        dsimp only at sealing
        exact (free input password day use (by rw [sealing])).elim
    · cases same
      apply uses.spending.take rfl
      · intro other running found holds
        obtain ⟨held, word, day, use, sealing, token⟩ := heldUse_some holds
        exact (uses.held other running found held word day use sealing).fresh today token.symm
      · intro call member paid
        obtain ⟨spent, word, inbox, roles, reply, day, use, asked_, said, token⟩ := spentUse_some paid
        exact (uses.spent call member spent word inbox roles reply day use asked_ said).fresh today token.symm

theorem Uses.answers {answer : VaultAnswer} {name began : Nat} (uses : Uses world clock)
    (provenance : Provenance platform world) (turn : Turn world event name request began before moment)
    (piece : Piece platform signed world.broker request before moment (.answers answer) after) (today : clock ≤ moment.now) :
    Uses { world.settle name request began (.answers answer, after) with steps := world.steps + 1 } moment.now := by
  simp only [World.settle]
  have kept := piece_today piece
  refine ⟨?_, ?_, ?_⟩
  · exact kept_without (fun other running found input password day use sealing =>
      (uses.held other running found input password day use sealing).mono today kept) name
  · intro call member input password inbox roles reply day use asked said
    rcases List.mem_append.mp member with old | new
    · exact (uses.spent call old input password inbox roles reply day use asked said).mono today kept
    · rw [List.mem_singleton] at new
      subst new
      subst asked said
      obtain ⟨other, rfl⟩ := piece_generated piece
      obtain ⟨running, found, sealing, -⟩ := turn.found
      have holds := turn.holds provenance
      cases holds
      exact (uses.held name running found _ _ _ _ sealing).mono today kept
  · cases paid : spentUse { name, request, began, answered := world.steps, answer } with
    | none => exact (uses.spending.replace (by simp)).record paid
    | some token =>
      obtain ⟨input, password, inbox, roles, reply, day, use, asked, said, rfl⟩ := spentUse_some paid
      subst asked said
      obtain ⟨other, rfl⟩ := piece_generated piece
      obtain ⟨running, found, sealing, -⟩ := turn.found
      have holds := turn.holds provenance
      cases holds
      exact uses.spending.spend found (by rw [heldUse, sealing]) paid

theorem Uses.step (uses : Uses world clock) (provenance : Provenance platform world)
    (stored : world.broker.signups = world.broker.storedSignups) (stepped : Stepped platform world event later)
    (later_ : clock ≤ event.now.getD clock) : Uses later (event.now.getD clock) := by
  have same {running : Nat → Option Running} {operator : List (OperatorSignature × Nat)} {steps : Nat}
      (none_ : running = world.running ∨ running = fun _ => none) {broker : Broker}
      (signups : broker.signups = world.broker.signups) :
      Uses { world with broker, running, operator, steps } (event.now.getD clock) := by
    have kept : ∀ grantId day, day = utcDay (event.now.getD clock) →
        world.broker.signups.uses (grantId, day) ≤ broker.signups.uses (grantId, day) := by
      intro grantId day _
      rw [signups]
    refine ⟨?_, ?_, ?_⟩
    · intro name item found input password day use sealing
      rcases none_ with rfl | rfl
      · exact (uses.held name item found input password day use sealing).mono later_ kept
      · cases found
    · intro call member input password inbox roles reply day use asked said
      exact (uses.spent call member input password inbox roles reply day use asked said).mono later_ kept
    · rcases none_ with rfl | rfl
      · exact uses.spending
      · exact uses.spending.clear
  cases stepped with
  | idle => exact same (.inl rfl) rfl
  | signs => exact same (.inl rfl) rfl
  | waits turn piece =>
    rw [turn.now] at later_ ⊢
    exact uses.waits piece later_
  | answers turn piece =>
    rw [turn.now] at later_ ⊢
    exact uses.answers provenance turn piece later_
  | restarts torn =>
    refine same (.inr rfl) ?_
    rcases torn with rfl | ⟨input, rfl⟩
    · exact stored.symm
    · exact raiseFloor_same.storedSignups.trans stored.symm

end

/-! ## Every run -/

/-- The sign-up succeeded, under a certificate of the grant and cap, as a use of the day. -/
def signsUp (grantId : String) (today : ℤ) (cap : Nat) (call : Call) : Bool :=
  match call.request, call.answer with
  | .signup input, .generated _ _ _ _ day _ =>
    input.certificate.claims.grantId = grantId && day = today && input.certificate.claims.dailyCap = cap
  | _, _ => false

structure SignupsEnd (platform : Platform) (world : World) : Prop where
  revoked : ∀ signup ∈ world.history, ∀ input password inbox roles reply day use, signup.request = .signup input →
    signup.answer = .generated password inbox roles reply day use →
    ∀ revoke ∈ world.history, revokesVault revoke input.scope = true → revoke.answered < signup.began →
    ∃ issued ∈ world.broker.grants, issued.claims = input.certificate.claims ∧
      ∃ key made, platform.enrolled input.scope key = true ∧
        ({ unlockPublicKey := key, statement := issued.basis }, made) ∈ world.operator ∧ revoke.answered < made
  grantRevoked : ∀ signup ∈ world.history, ∀ input password inbox roles reply day use, signup.request = .signup input →
    signup.answer = .generated password inbox roles reply day use →
    ∀ revoke ∈ world.history, revokesGrant revoke input.certificate.claims.grantId = true →
      ¬ revoke.answered < signup.began
  capped : ∀ grantId day cap, (world.history.filter (signsUp grantId day cap)).length ≤ cap

section

variable {platform : Platform} {world : World} {clock : ℤ}

theorem signsUp_iff {grantId : String} {today : ℤ} {cap : Nat} {call : Call} : signsUp grantId today cap call = true ↔
    ∃ input password inbox roles reply use, call.request = .signup input ∧
      call.answer = .generated password inbox roles reply today use ∧
      input.certificate.claims.grantId = grantId ∧ input.certificate.claims.dailyCap = cap := by
  unfold signsUp
  constructor
  · intro signs
    split at signs
    · next input password inbox roles reply day use asked said =>
      simp only [Bool.and_eq_true, decide_eq_true_eq] at signs
      obtain ⟨⟨grant, rfl⟩, capped⟩ := signs
      exact ⟨input, password, inbox, roles, reply, use, asked, said, grant, capped⟩
    · cases signs
  · rintro ⟨input, password, inbox, roles, reply, use, asked, said, grant, capped⟩
    rw [asked, said]
    simp [grant, capped]

/-- The sign-ups under a cap take different uses, each below it. -/
theorem Uses.within (uses : Uses world clock) (grantId : String) (day : ℤ) (cap : Nat) :
    (world.history.filter (signsUp grantId day cap)).length ≤ cap := by
  let signups := world.history.filter (signsUp grantId day cap)
  have known : ∀ call ∈ signups, ∃ use < cap, spentUse call = some (grantId, day, use) := by
    intro call member
    obtain ⟨listed, signs⟩ := List.mem_filter.mp member
    obtain ⟨input, password, inbox, roles, reply, use, asked, said, rfl, rfl⟩ := signsUp_iff.mp signs
    refine ⟨use, (uses.spent call listed input password inbox roles reply day use asked said).capped, ?_⟩
    rw [spentUse, asked, said]
  have all : (signups.filterMap spentUse).length = signups.length := by
    rw [List.filterMap_length_eq_length]
    intro call member
    obtain ⟨use, -, paid⟩ := known call member
    rw [paid]
    rfl
  have apart : (signups.filterMap spentUse).Nodup :=
    uses.spending.once.sublist (List.filter_sublist.filterMap spentUse)
  have below : signups.filterMap spentUse ⊆ (List.range cap).map fun use => (grantId, day, use) := by
    intro token member
    obtain ⟨call, listed, paid⟩ := List.mem_filterMap.mp member
    obtain ⟨use, small, same⟩ := known call listed
    rw [paid, Option.some_inj] at same
    rw [same]
    exact List.mem_map_of_mem (List.mem_range.mpr small)
  calc signups.length
    _ = (signups.filterMap spentUse).length := all.symm
    _ ≤ ((List.range cap).map fun use => (grantId, day, use)).length := (apart.subperm below).length_le
    _ = cap := by rw [List.length_map, List.length_range]

/-- What every run keeps, as long as what it stamps rests on new signatures. -/
structure Kept (platform : Platform) (timed : Timed) : Prop where
  current : timed.world.broker.floors = timed.world.broker.storedFloors
  stored : timed.world.broker.signups = timed.world.broker.storedSignups
  provenance : Provenance platform timed.world
  stamped : Stamped timed.world
  revoked : GrantsRevoked timed.world
  standing : Standing platform timed.world timed.clock
  uses : Uses timed.world timed.clock

theorem kept_reached {timed : Timed}
    (reached : Reached (fun timed => timed.world = {}) (Timed.Allowed platform) (Timed.step platform) timed) :
    Kept platform timed := by
  apply reached.invariant
  · rintro ⟨_, clock⟩ rfl
    refine ⟨rfl, rfl, ⟨?_, ?_, ?_, ?_⟩, ⟨?_, ?_⟩, fun _ _ => ?_, ⟨?_, ?_, ?_, ?_⟩, ⟨?_, ?_, ⟨?_, ?_, List.nodup_nil⟩⟩⟩
    all_goals
      intros
      contradiction
  · rintro ⟨world, clock⟩ event ⟨current, stored, provenance, stamped, revoked, standing, uses⟩ ⟨forward, renews_⟩
    have stepped : Stepped platform world event (world.step platform event) := step_stepped world event
    exact ⟨stepped_current stepped current, stepped_stored stepped stored, stepped_provenance stepped provenance,
      stepped_stamped stepped stamped, revoked.step stepped stored,
      standing.step provenance revoked stored current stamped stepped forward renews_,
      uses.step provenance stored stepped forward⟩

theorem Timed.run_world (timed : Timed) (events : List Event) :
    (events.foldl (Timed.step platform) timed).world = events.foldl (World.step platform) timed.world := by
  induction events generalizing timed with
  | nil => rfl
  | cons event rest ih => exact ih (timed.step platform event)

end

/-- Where what is stamped rests on new signatures, a revoke ends every earlier grant. -/
theorem signups_end (platform : Platform) (clock : ℤ) (events : List Event)
    (renewed : AllowedRun (Timed.Allowed platform) (Timed.step platform) ⟨{}, clock⟩ events) :
    SignupsEnd platform (World.run platform events) := by
  have kept : Kept platform (events.foldl (Timed.step platform) ⟨{}, clock⟩) :=
    kept_reached (Reached.run (.start rfl) renewed)
  have standing := kept.standing
  have uses := kept.uses
  rw [Timed.run_world] at standing uses
  refine ⟨?_, ?_, fun grantId day cap => uses.within grantId day cap⟩
  · intro signup member input password inbox roles reply day use asked said
    exact (standing.signups signup member input password inbox roles reply day use asked said).renewed
  · intro signup member input password inbox roles reply day use asked said
    exact (standing.signups signup member input password inbox roles reply day use asked said).granted

/-! ## Runs -/

namespace Sample

def grantWith (signature : OperatorSignature) : SignupGrantRequest where
  scope := scope
  grantId := "grant"
  sites := ["https://shop.example"]
  dailyCap := 2
  unlockEpoch := 1
  expiresAt := 1000000
  operatorSignature := signature
  unlockPublicKey := "unlock key"
  serverShareEnvelope := share

def grantSignature : OperatorSignature where
  unlockPublicKey := "unlock key"
  -- the signature is not part of what is signed
  statement := vaultSignupGrantOperatorMessage (grantWith (signatureOf 1))

def grant : VaultRequest := .signupGrant (grantWith grantSignature)

def grantClaims (issuedAt : ℤ) : VaultSignupGrantClaims where
  grantId := "grant"
  scope := scope
  sites := ["https://shop.example"]
  dailyCap := 2
  unlockEpoch := 1
  issuedAt := issuedAt
  expiresAt := 1000000

def signup (issuedAt : ℤ) : VaultRequest := .signup {
  scope := scope
  certificate := ⟨grantClaims issuedAt, grantClaims issuedAt⟩
  origin := "https://shop.example"
  paneId := "pane"
  roles := [.newPassword]
  inboxPublicKey := "inbox public key"
  replyPublicKey := "reply key"
  field := none }

/-- A grant and a sign-up, a revoke, and the same request for a grant again. -/
def afterRevoke (signed : List Event) : List Event :=
  [.signs grantSignature] ++ turns 1 grant 2000 "" ++ turns 2 (signup 2000) 3000 "first" ++
    [.arrives 3 (.revoke { scope, generation := 1 }) ⟨4000, ""⟩] ++ signed ++
    turns 4 grant 5000 "" ++ turns 5 (signup 5000) 6000 "second"

end Sample

/-- Signed again, the grant is in force again. -/
theorem signups_end_signed_again :
    SignupsEnd Sample.platform (World.run Sample.platform (Sample.afterRevoke [.signs Sample.grantSignature])) ∧
      (World.run Sample.platform (Sample.afterRevoke [.signs Sample.grantSignature])).history.getLast?.map (·.answer) =
        some (.generated "second" "inbox public key" [.newPassword] "reply key" 0 1) :=
  ⟨signups_end Sample.platform 0 _ (by decide +kernel), by decide +kernel⟩

/-- The same signature, sent again, gives a grant that outlives the revoke. -/
theorem replayed_grant_outlives_revoke : ¬ ∀ (platform : Platform) (clock : ℤ) (events : List Event),
      AllowedRun Timed.Forward (Timed.step platform) ⟨{}, clock⟩ events → SignupsEnd platform (World.run platform events) := by
  intro always
  have ends := always Sample.platform 0 (Sample.afterRevoke []) (by decide +kernel)
  have history : ∃ revoke ∈ (World.run Sample.platform (Sample.afterRevoke [])).history,
      ∃ signup ∈ (World.run Sample.platform (Sample.afterRevoke [])).history, revokesVault revoke Sample.scope = true ∧
        revoke.answered < signup.began ∧ signup.request = Sample.signup 5000 ∧
        signup.answer = .generated "second" "inbox public key" [.newPassword] "reply key" 0 1 := by decide +kernel
  have operator : (World.run Sample.platform (Sample.afterRevoke [])).operator = [(Sample.grantSignature, 0)] := by
    decide +kernel
  obtain ⟨revoke, answered, signup, signed, revokes, earlier, asked, said⟩ := history
  obtain ⟨issued, -, -, key, made, -, member, after_⟩ :=
    ends.revoked signup signed _ _ _ _ _ _ _ asked said revoke answered revokes earlier
  rw [operator, List.mem_singleton, Prod.mk.injEq] at member
  omega

/-- While the clock does not go back, no use of a day is given out twice and the cap of the day holds, whatever is sent again. -/
theorem signups_capped (platform : Platform) (clock : ℤ) (events : List Event)
    (forward : AllowedRun Timed.Forward (Timed.step platform) ⟨{}, clock⟩ events) :
    ((World.run platform events).history.filterMap spentUse).Nodup ∧
      ∀ grantId day cap, ((World.run platform events).history.filter (signsUp grantId day cap)).length ≤ cap := by
  have kept {timed : Timed} (reached : Reached (fun timed => timed.world = {}) Timed.Forward (Timed.step platform) timed) :
      (timed.world.broker.floors = timed.world.broker.storedFloors ∧
        timed.world.broker.signups = timed.world.broker.storedSignups) ∧
      Provenance platform timed.world ∧ Uses timed.world timed.clock := by
    apply reached.invariant
    · rintro ⟨_, clock⟩ rfl
      refine ⟨⟨rfl, rfl⟩, ⟨?_, ?_, ?_, ?_⟩, ⟨?_, ?_, ⟨?_, ?_, List.nodup_nil⟩⟩⟩
      all_goals
        intros
        contradiction
    · rintro ⟨world, clock⟩ event ⟨⟨current, stored⟩, provenance, uses⟩ now
      have stepped : Stepped platform world event (world.step platform event) := step_stepped world event
      exact ⟨⟨stepped_current stepped current, stepped_stored stepped stored⟩, stepped_provenance stepped provenance,
        uses.step provenance stored stepped now⟩
  have uses := (kept (Reached.run (.start rfl) forward)).2.2
  rw [Timed.run_world] at uses
  exact ⟨uses.spending.once, fun grantId day cap => uses.within grantId day cap⟩

theorem signups_capped_replayed :
    ((World.run Sample.platform (Sample.afterRevoke [])).history.filterMap spentUse).Nodup ∧
      ((World.run Sample.platform (Sample.afterRevoke [])).history.filter (signsUp "grant" 0 2)).length ≤ 2 := by
  obtain ⟨once, capped⟩ := signups_capped Sample.platform 0 (Sample.afterRevoke []) (by decide +kernel)
  exact ⟨once, capped "grant" 0 2⟩

end SpaceApp.Vault
