import Mathlib.Data.List.Nodup
import SpaceApp.AppServer.Multiplexer

/-! Where the multiplexer's requests, answers and roles are: what each of its writes keeps. -/

set_option autoImplicit false

namespace SpaceApp.AppServer.Routing

open SpaceApp.Foundation
open Multiplexer (numberId)

/-- What routing depends on. -/
structure View where
  upstreamOpen : Bool
  clientIds : List Nat
  nextClientId : Nat
  primaryClientId : Option Nat
  pending : List (JsonRpcId × PendingRequest)
  serverRequestIds : List JsonRpcId
  nextUpstreamRequestId : Nat
  drawn : Nat
  written : List Written
  requests : List Forwarded
  asked : List (JsonRpcId × Nat)
  issued : List JsonRpcId

def Multiplexer.view (state : Multiplexer) : View := {
  upstreamOpen := state.upstreamOpen
  clientIds := state.connections.map (·.id)
  nextClientId := state.nextClientId
  primaryClientId := state.primaryClientId
  pending := state.pending
  serverRequestIds := state.serverRequestIds
  nextUpstreamRequestId := state.nextUpstreamRequestId
  drawn := state.history.drawn
  written := state.history.written
  requests := state.history.requests
  asked := state.history.asked
  issued := state.history.issued }

def answeredSerials (written : List Written) : List (Option Nat) := written.filterMap fun entry =>
  match entry with
  | .client _ (.answered serial _) _ => some serial
  | _ => none

def answeredIds (written : List Written) : List (Option JsonRpcId) := written.filterMap fun entry =>
  match entry with
  | .upstream (some _) message => if message.calls = none then some message.id else none
  | _ => none

def Fits (requests : List Forwarded) (asked : List (JsonRpcId × Nat)) : Written → Prop
  | .upstream none message => message.calls ≠ none
  | .upstream (some sender) message =>
    (sender.primary = false → message.id.isSome = true ∧
      ∃ method, message.method = some method ∧ (method = "initialize" ∨ allowsSecondary sender.clientName method = true)) ∧
    (message.calls = none → ∃ id, message.id = some id ∧ (id, sender.clientId) ∈ asked)
  | .client clientId (.answered serial upstreamId) message =>
    ∃ number forwarded, serial = some number ∧ requests[number]? = some forwarded ∧ forwarded.clientId = clientId ∧
      message.id = some forwarded.clientRequestId ∧ upstreamId = numberId forwarded.upstreamId
  | .client clientId .asked message => ∃ id, message.id = some id ∧ (id, clientId) ∈ asked
  | .client _ _ _ => True

/-- How many ids are drawn before they come again. -/
def idSpan : Nat := MAX_SAFE_INTEGER - firstRequestId

/-- Of a pending request: it is one of the multiplexer's, or the latest passed on under its id and not answered. -/
def Awaits (view : View) (key : JsonRpcId) (request : PendingRequest) : Prop :=
  (request.clientId = none ∧ request.serial = none) ∨
  ∃ number forwarded, request.serial = some number ∧ view.requests[number]? = some forwarded ∧
    request.clientId = some forwarded.clientId ∧ request.clientRequestId = forwarded.clientRequestId ∧
    key = numberId forwarded.upstreamId ∧ some number ∉ answeredSerials view.written ∧
    ∀ later other, number < later → view.requests[later]? = some other → other.upstreamId ≠ forwarded.upstreamId

structure Sound (view : View) : Prop where
  clients : view.clientIds.Nodup
  bounded : ∀ id ∈ view.clientIds, id ≤ view.nextClientId
  primary : ∀ id, view.primaryClientId = some id → id ∈ view.clientIds
  pending : ∀ entry ∈ view.pending, Awaits view entry.1 entry.2
  fits : ∀ entry ∈ view.written, Fits view.requests view.asked entry
  answeredOnce : (answeredSerials view.written).Nodup
  drawn : view.nextUpstreamRequestId = firstRequestId + view.drawn % idSpan
  distinct : view.drawn ≤ idSpan → (view.requests.map (·.upstreamId)).Nodup ∧
    ∀ request ∈ view.requests, request.upstreamId < firstRequestId + view.drawn
  issued : view.issued.Nodup
  asked : (view.asked.map (·.1)).Sublist view.issued
  owned : view.upstreamOpen = true → ∀ id ∈ view.serverRequestIds, some id ∉ answeredIds view.written ∧
    ∃ clientId, view.primaryClientId = some clientId ∧ (id, clientId) ∈ view.asked
  answersOnce : (answeredIds view.written).Nodup

section

variable {view : View}

theorem answeredSerials_append (before : List Written) (entry : Written) :
    answeredSerials (before ++ [entry]) = answeredSerials before ++ answeredSerials [entry] := List.filterMap_append

theorem answeredIds_append (before : List Written) (entry : Written) :
    answeredIds (before ++ [entry]) = answeredIds before ++ answeredIds [entry] := List.filterMap_append

theorem Sound.write (sound : Sound view) (entry : Written) (fits : Fits view.requests view.asked entry)
    (serials : answeredSerials [entry] = []) (ids : answeredIds [entry] = []) :
    Sound { view with written := view.written ++ [entry] } := by
  have sameSerials : answeredSerials (view.written ++ [entry]) = answeredSerials view.written := by
    rw [answeredSerials_append, serials, List.append_nil]
  have sameIds : answeredIds (view.written ++ [entry]) = answeredIds view.written := by
    rw [answeredIds_append, ids, List.append_nil]
  refine { sound with
      pending := fun other among => ?_, fits := fun other among => ?_, answeredOnce := ?_, owned := ?_, answersOnce := ?_ }
  · have awaits := sound.pending other among
    simpa only [Awaits, sameSerials] using awaits
  · rcases List.mem_append.mp among with before | last
    · exact sound.fits other before
    · rw [List.mem_singleton.mp last]
      exact fits
  · rw [sameSerials]
    exact sound.answeredOnce
  · rw [sameIds]
    exact sound.owned
  · rw [sameIds]
    exact sound.answersOnce

theorem Sound.drop (sound : Sound view) (keep : JsonRpcId × PendingRequest → Bool) :
    Sound { view with pending := view.pending.filter keep } :=
  { sound with pending := fun entry among => sound.pending entry (List.mem_of_mem_filter among) }

theorem Sound.deliver (sound : Sound view) {key : JsonRpcId} {request : PendingRequest}
    (among : (key, request) ∈ view.pending) {clientId : Nat} (isClient : request.clientId = some clientId)
    (message : JsonRpcMessage) (id : message.id = some request.clientRequestId) : Sound { view with
      pending := view.pending.filter fun entry => entry.1 ≠ key
      written := view.written ++ [.client clientId (.answered request.serial key) message] } := by
  rcases sound.pending _ among with own | ⟨number, forwarded, serial, found, client, requestId, isKey, unanswered, latest⟩
  · rw [own.1] at isClient
    cases isClient
  have sameIds : answeredIds (view.written ++ [.client clientId (.answered request.serial key) message]) = answeredIds view.written := by
    rw [answeredIds_append]
    exact List.append_nil _
  have serials : answeredSerials (view.written ++ [.client clientId (.answered request.serial key) message]) =
      answeredSerials view.written ++ [some number] := by
    rw [answeredSerials_append, serial]
    rfl
  refine { sound with
      pending := fun other remains => ?_, fits := fun other among => ?_, answeredOnce := ?_, owned := ?_, answersOnce := ?_ }
  · obtain ⟨remains, differs⟩ := List.mem_filter.mp remains
    refine (sound.pending other remains).imp_right fun awaits => ?_
    obtain ⟨number_, forwarded_, serial_, found_, client_, requestId_, isKey_, unanswered_, latest_⟩ := awaits
    refine ⟨number_, forwarded_, serial_, found_, client_, requestId_, isKey_, fun answered => ?_, latest_⟩
    rw [serials] at answered
    rcases List.mem_append.mp answered with before | last
    · exact unanswered_ before
    · -- The same request would have the same key.
      have same := Option.some.inj (List.mem_singleton.mp last)
      rw [same, found] at found_
      rw [← Option.some.inj found_] at isKey_
      exact of_decide_eq_true differs (isKey_.trans isKey.symm)
  · rcases List.mem_append.mp among with before | last
    · exact sound.fits other before
    · rw [List.mem_singleton.mp last]
      exact ⟨number, forwarded, serial, found, Option.some.inj (client.symm.trans isClient), by rw [id, requestId], isKey⟩
  · rw [serials]
    exact List.nodup_append.mpr ⟨sound.answeredOnce, List.nodup_singleton _, fun serial_ among other last same =>
      unanswered (List.mem_singleton.mp last ▸ same ▸ among)⟩
  · rw [sameIds]
    exact sound.owned
  · rw [sameIds]
    exact sound.answersOnce

theorem idSpan_pos : 0 < idSpan := by decide

theorem Sound.draw (sound : Sound view) : Sound { view with
    nextUpstreamRequestId :=
      if MAX_SAFE_INTEGER ≤ view.nextUpstreamRequestId + 1 then firstRequestId else view.nextUpstreamRequestId + 1
    drawn := view.drawn + 1 } := by
  refine { sound with drawn := ?_, distinct := fun few => ?_ }
  · have drawn := sound.drawn
    have less := Nat.mod_lt view.drawn idSpan_pos
    have span : MAX_SAFE_INTEGER = firstRequestId + idSpan := by decide
    dsimp only
    rw [drawn, span, Nat.add_mod]
    have one : 1 % idSpan = 1 := by decide
    rw [one]
    split
    · have last : view.drawn % idSpan + 1 = idSpan := by omega
      rw [last, Nat.mod_self, Nat.add_zero]
    · rw [Nat.mod_eq_of_lt (by omega : view.drawn % idSpan + 1 < idSpan)]
      omega
  · obtain ⟨nodup, bound⟩ := sound.distinct (Nat.le_of_succ_le few)
    refine ⟨nodup, fun request among => ?_⟩
    have below := bound request among
    dsimp only at few ⊢
    omega

theorem Sound.own (sound : Sound view) (key : JsonRpcId) (request : PendingRequest)
    (own : request.clientId = none ∧ request.serial = none) :
    Sound { view with pending := (key, request) :: view.pending.filter fun entry => entry.1 ≠ key } := by
  have dropped := sound.drop fun entry => entry.1 ≠ key
  refine { sound with pending := fun entry among => ?_ }
  rcases List.mem_cons.mp among with rfl | before
  · exact .inl own
  · exact dropped.pending entry before

theorem Sound.forward (sound : Sound view) (forwarded : Forwarded) (isNext : forwarded.upstreamId = view.nextUpstreamRequestId)
    (request : PendingRequest) (clientId : request.clientId = some forwarded.clientId)
    (requestId : request.clientRequestId = forwarded.clientRequestId) (serial : request.serial = some view.requests.length) :
    Sound { view with
      nextUpstreamRequestId :=
        if MAX_SAFE_INTEGER ≤ view.nextUpstreamRequestId + 1 then firstRequestId else view.nextUpstreamRequestId + 1
      drawn := view.drawn + 1
      requests := view.requests ++ [forwarded]
      pending := (numberId forwarded.upstreamId, request) ::
        view.pending.filter fun entry => entry.1 ≠ numberId forwarded.upstreamId } := by
  have grows {number : Nat} {other : Forwarded} (found : view.requests[number]? = some other) :
      (view.requests ++ [forwarded])[number]? = some other := by
    rw [List.getElem?_append_left (List.getElem?_eq_some_iff.mp found).1]
    exact found
  have drawn := sound.draw
  refine { sound with
      pending := fun entry among => ?_, fits := fun entry among => ?_, drawn := drawn.drawn, distinct := fun few => ?_ }
  · rcases List.mem_cons.mp among with rfl | before
    · refine .inr ⟨view.requests.length, forwarded, serial, List.getElem?_concat_length, clientId, requestId, rfl, fun answered => ?_,
        fun later other after found => ?_⟩
      · -- An answered request was passed on before.
        obtain ⟨entry, among, isAnswer⟩ := List.mem_filterMap.mp answered
        have fits := sound.fits entry among
        split at isAnswer
        · obtain ⟨number, other, same, found, -⟩ := fits
          rw [Option.some.inj isAnswer] at same
          have inside := (List.getElem?_eq_some_iff.mp found).1
          have same := Option.some.inj same
          omega
        · cases isAnswer
      · have inside := (List.getElem?_eq_some_iff.mp found).1
        simp only [List.length_append, List.length_singleton] at inside
        omega
    · obtain ⟨before, differs⟩ := List.mem_filter.mp before
      refine (sound.pending entry before).imp_right fun awaits => ?_
      obtain ⟨number, other, serial_, found, client_, requestId_, isKey, unanswered, latest⟩ := awaits
      refine ⟨number, other, serial_, grows found, client_, requestId_, isKey, unanswered, fun later third after found_ same => ?_⟩
      have inside := (List.getElem?_eq_some_iff.mp found_).1
      simp only [List.length_append, List.length_singleton] at inside
      by_cases last : later = view.requests.length
      · rw [last, List.getElem?_concat_length] at found_
        rw [← Option.some.inj found_] at same
        exact of_decide_eq_true differs (by rw [isKey, same])
      · rw [List.getElem?_append_left (by omega)] at found_
        exact latest later third after found_ same
  · have fits := sound.fits entry among
    cases entry with
    | upstream sender message => cases sender <;> exact fits
    | client clientId_ reason message =>
      cases reason with
      | answered serial_ upstreamId =>
        obtain ⟨number, other, same, found, rest⟩ := fits
        exact ⟨number, other, same, grows found, rest⟩
      | _ => exact fits
  · obtain ⟨nodup, bound⟩ := sound.distinct (Nat.le_of_succ_le few)
    have next : forwarded.upstreamId = firstRequestId + view.drawn := by
      rw [isNext, sound.drawn, Nat.mod_eq_of_lt (Nat.lt_of_succ_le few)]
    rw [List.map_append, List.nodup_append]
    refine ⟨⟨nodup, List.nodup_singleton _, fun id among other last same => ?_⟩, fun request_ among => ?_⟩
    · obtain ⟨before, member, rfl⟩ := List.mem_map.mp among
      have below := bound before member
      have isLast : before.upstreamId = forwarded.upstreamId := same.trans (List.mem_singleton.mp last)
      omega
    · rcases List.mem_append.mp among with before | last
      · exact Nat.lt_succ_of_lt (bound request_ before)
      · rw [List.mem_singleton.mp last, next]
        exact Nat.lt_succ_self _

theorem Fits.asked {requests : List Forwarded} {asked : List (JsonRpcId × Nat)} {entry : Written} (fits : Fits requests asked entry)
    (more : List (JsonRpcId × Nat)) : Fits requests (asked ++ more) entry := by
  cases entry with
  | upstream sender message =>
    cases sender with
    | none => exact fits
    | some sender =>
      refine ⟨fits.1, fun answers => ?_⟩
      obtain ⟨id, isId, among⟩ := fits.2 answers
      exact ⟨id, isId, List.mem_append_left _ among⟩
  | client clientId reason message =>
    cases reason with
    | asked =>
      obtain ⟨id, isId, among⟩ := fits
      exact ⟨id, isId, List.mem_append_left _ among⟩
    | _ => exact fits

theorem Sound.answered_issued (sound : Sound view) {id : JsonRpcId} (answered : some id ∈ answeredIds view.written) : id ∈ view.issued := by
  obtain ⟨entry, among, isAnswer⟩ := List.mem_filterMap.mp answered
  have fits := sound.fits entry among
  split at isAnswer
  · split at isAnswer
    · next calls =>
      obtain ⟨id_, isId, meant⟩ := fits.2 calls
      have same := Option.some.inj (isId.symm.trans (Option.some.inj isAnswer))
      rw [← same]
      exact sound.asked.subset (List.mem_map.mpr ⟨_, meant, rfl⟩)
    · cases isAnswer
  · cases isAnswer

theorem Sound.issue (sound : Sound view) {id : JsonRpcId} (fresh : id ∉ view.issued) : Sound { view with issued := view.issued ++ [id] } := by
  refine { sound with
      issued := List.nodup_append.mpr ⟨sound.issued, List.nodup_singleton _, fun other among last isLast same => ?_⟩,
      asked := sound.asked.trans (List.sublist_append_left _ _) }
  rw [same, List.mem_singleton.mp isLast] at among
  exact fresh among

theorem Sound.ask (sound : Sound view) {id : JsonRpcId} (fresh : id ∉ view.issued) {clientId : Nat}
    (primary : view.primaryClientId = some clientId) (ids : List JsonRpcId) (added : ∀ other ∈ ids, other ∈ view.serverRequestIds ∨ other = id) :
    Sound { view with
      issued := view.issued ++ [id]
      asked := view.asked ++ [(id, clientId)]
      serverRequestIds := ids } := by
  have issued := sound.issue fresh
  refine { sound with
      fits := fun entry among => (sound.fits entry among).asked _, issued := issued.issued, asked := ?_,
      owned := fun isOpen other among => ?_ }
  · rw [List.map_append]
    exact sound.asked.append (List.Sublist.refl _)
  · rcases added other among with before | rfl
    · obtain ⟨unanswered, owner, isOwner, meant⟩ := sound.owned isOpen other before
      exact ⟨unanswered, owner, isOwner, List.mem_append_left _ meant⟩
    · exact ⟨fun answered => fresh (sound.answered_issued answered), clientId, primary, List.mem_append_right _ (List.mem_singleton.mpr rfl)⟩

theorem Sound.forget (sound : Sound view) (keep : JsonRpcId → Bool) :
    Sound { view with serverRequestIds := view.serverRequestIds.filter keep } :=
  { sound with owned := fun isOpen id among => sound.owned isOpen id (List.mem_of_mem_filter among) }

theorem Sound.reply (sound : Sound view) (isOpen : view.upstreamOpen = true) {id : JsonRpcId} (among : id ∈ view.serverRequestIds)
    (sender : Sender) (primary : view.primaryClientId = some sender.clientId) (isPrimary : sender.primary = true) (message : JsonRpcMessage)
    (isId : message.id = some id) (calls : message.calls = none) :
    Sound { view with
      serverRequestIds := view.serverRequestIds.filter fun other => other ≠ id
      written := view.written ++ [.upstream (some sender) message] } := by
  obtain ⟨unanswered, owner, isOwner, meant⟩ := sound.owned isOpen id among
  have ids : answeredIds (view.written ++ [.upstream (some sender) message]) = answeredIds view.written ++ [some id] := by
    simp [answeredIds, calls, isId]
  have serials : answeredSerials (view.written ++ [.upstream (some sender) message]) = answeredSerials view.written := by
    rw [answeredSerials_append]
    exact List.append_nil _
  refine { sound with
      pending := fun entry waits => ?_, fits := fun entry written => ?_, answeredOnce := ?_,
      owned := fun isOpen other remains => ?_, answersOnce := ?_ }
  · have awaits := sound.pending entry waits
    simpa only [Awaits, serials] using awaits
  · rcases List.mem_append.mp written with before | last
    · exact sound.fits entry before
    · rw [List.mem_singleton.mp last]
      refine ⟨fun secondary => ?_, fun _ => ⟨id, isId, ?_⟩⟩
      · rw [isPrimary] at secondary
        cases secondary
      · rw [Option.some.inj (primary.symm.trans isOwner)]
        exact meant
  · rw [serials]
    exact sound.answeredOnce
  · obtain ⟨before, differs⟩ := List.mem_filter.mp remains
    obtain ⟨open_, rest⟩ := sound.owned isOpen other before
    refine ⟨fun answered => ?_, rest⟩
    rw [ids] at answered
    rcases List.mem_append.mp answered with earlier | last
    · exact open_ earlier
    · exact of_decide_eq_true differs (Option.some.inj (List.mem_singleton.mp last))
  · rw [ids]
    exact List.nodup_append.mpr ⟨sound.answersOnce, List.nodup_singleton _, fun other answered last isLast same =>
      unanswered (List.mem_singleton.mp isLast ▸ same ▸ answered)⟩

section
variable (sound : Sound view)

include sound

theorem Sound.none_asked (isOpen : view.upstreamOpen = true) (none_ : view.primaryClientId = none) (id : JsonRpcId) :
    id ∉ view.serverRequestIds := by
  intro among
  obtain ⟨-, clientId, primary, -⟩ := sound.owned isOpen id among
  rw [none_] at primary
  cases primary

theorem Sound.promote (none_ : view.primaryClientId = none) {clientId : Nat} (connected : clientId ∈ view.clientIds) :
    Sound { view with primaryClientId := some clientId } :=
  { sound with
      primary := fun _ isPrimary => Option.some.inj isPrimary ▸ connected,
      owned := fun isOpen id among => absurd among (sound.none_asked isOpen none_ id) }

theorem Sound.connect : Sound { view with
      nextClientId := view.nextClientId + 1
      clientIds := view.clientIds ++ [view.nextClientId + 1] } := by
  refine { sound with
      clients := List.nodup_append.mpr ⟨sound.clients, List.nodup_singleton _, fun id among last isLast same => ?_⟩,
      bounded := fun id among => ?_, primary := fun id isPrimary => List.mem_append_left _ (sound.primary id isPrimary) }
  · have bound := sound.bounded id among
    rw [same, List.mem_singleton.mp isLast] at bound
    omega
  · rcases List.mem_append.mp among with before | last
    · exact Nat.le_succ_of_le (sound.bounded id before)
    · exact Nat.le_of_eq (List.mem_singleton.mp last)

theorem Sound.leave {clientId : Nat} (secondary : view.primaryClientId ≠ some clientId) :
    Sound { view with clientIds := view.clientIds.filter fun id => id ≠ clientId } := by
  refine { sound with
      clients := sound.clients.filter _, bounded := fun id among => sound.bounded id (List.mem_of_mem_filter among),
      primary := fun id isPrimary => ?_ }
  refine List.mem_filter.mpr ⟨sound.primary id isPrimary, decide_eq_true fun same => secondary ?_⟩
  rw [← same]
  exact isPrimary

theorem Sound.retire (keep : Nat → Bool) : Sound { view with
      clientIds := view.clientIds.filter keep
      primaryClientId := none
      serverRequestIds := [] } :=
  { sound with
      clients := sound.clients.filter _, bounded := fun id among => sound.bounded id (List.mem_of_mem_filter among),
      primary := nofun, owned := fun _ => nofun }

theorem Sound.fail : Sound { view with upstreamOpen := false } :=
  { sound with owned := nofun }

theorem Sound.demote (lost : view.upstreamOpen = false) : Sound { view with primaryClientId := none } :=
  { sound with primary := nofun, owned := fun isOpen => absurd (lost.symm.trans isOpen) (by decide) }

end

end

end SpaceApp.AppServer.Routing
