import SpaceApp.Api.StaleCache

/-! Runs of the stale-while-revalidate cache: no read is answered with what was invalidated before it. -/

set_option autoImplicit false

namespace SpaceApp.Api

section

variable {K V E : Type}

/-- The flight's load was called after the turn `cut` and gave the value at this time. -/
def GaveAfter (started : List (Flight K V E)) (key : K) (cut : Nat) (value : V) (source : Nat) (at_ : ℚ) : Prop :=
  ∃ flight begun, started[source]? = some flight ∧ flight.key = key ∧ flight.begun = some begun ∧ cut < begun ∧
    flight.outcome = some (.ok value, at_)

/-- Younger, `now`, than the larger of the value's fresh age and the maximum age. -/
def Young (options : CacheOptions V E) (value : V) (at_ now : ℚ) : Prop :=
  ∃ fresh, options.freshFor value = .ok fresh ∧ (now : WithTop ℚ) < at_ + max fresh options.maxAge

structure EntryLawful (options : CacheOptions V E) (started : List (Flight K V E)) (cut : Nat) (key : K) (value : V)
    (refreshAtMs expiresAtMs : WithTop ℚ) (source : Nat) : Prop where
  ordered : refreshAtMs ≤ expiresAtMs
  given : ∃ at_ fresh, GaveAfter started key cut value source at_ ∧
    options.freshFor value = .ok fresh ∧ expiresAtMs = at_ + max fresh options.maxAge

def CallLawful (options : CacheOptions V E) (started : List (Flight K V E)) (call : Call K V E) : Prop :=
  match call.reply with
  | .promise id => ∃ flight, started[id]? = some flight ∧ flight.key = call.key ∧ flight.outcome = none ∧
      call.cut ≤ flight.created
  | .value value source now => ∃ at_, GaveAfter started call.key call.cut value source at_ ∧
      (now = at_ ∨ Young options value at_ now)
  | .error _ => True

structure FlightLawful (turn : Nat) (flight : Flight K V E) : Prop where
  created : flight.created ≤ turn
  begun : ∀ begun, flight.begun = some begun → flight.created < begun ∧ begun ≤ turn
  settled : flight.outcome.isSome → flight.begun.isSome

structure Lawful (options : CacheOptions V E) (scene : Scene K V E) : Prop where
  flights : ∀ flight ∈ scene.started, FlightLawful scene.turn flight
  attached : ∀ key id, scene.flights key = some id → ∃ flight, scene.started[id]? = some flight ∧ flight.key = key ∧
    flight.outcome = none ∧ scene.cuts key ≤ flight.created
  alone : ∀ id flight, scene.started[id]? = some flight → flight.outcome = none →
    scene.cuts flight.key ≤ flight.created → scene.flights flight.key = some id
  entries : ∀ key value refreshAtMs expiresAtMs source,
    (key, CacheEntry.value value refreshAtMs expiresAtMs source) ∈ scene.entries →
    EntryLawful options scene.started (scene.cuts key) key value refreshAtMs expiresAtMs source
  cutsPast : ∀ key, scene.cuts key ≤ scene.turn
  calls : ∀ call ∈ scene.calls, CallLawful options scene.started call ∧ (call.force → call.cut = call.turn)

/-- Flights keep their key and turns, what has begun and what has settled. -/
def Onward (before after : List (Flight K V E)) : Prop :=
  ∀ (id : Nat) (flight : Flight K V E), before[id]? = some flight →
    ∃ later : Flight K V E, after[id]? = some later ∧ later.key = flight.key ∧ later.created = flight.created ∧
    (∀ begun, flight.begun = some begun → later.begun = some begun) ∧ ∀ outcome, flight.outcome = some outcome → later.outcome = some outcome

theorem onward_append (started : List (Flight K V E)) (flight : Flight K V E) :
    Onward started (started ++ [flight]) := by
  intro id old found
  have inside := (List.getElem?_eq_some_iff.mp found).1
  exact ⟨old, by rw [List.getElem?_append_left inside]; exact found, rfl, rfl, fun _ begun => begun,
    fun _ settled => settled⟩

theorem onward_set {started : List (Flight K V E)} {id : Nat} {flight later : Flight K V E}
    (found : started[id]? = some flight) (key : later.key = flight.key) (created : later.created = flight.created)
    (begun : ∀ begun, flight.begun = some begun → later.begun = some begun)
    (outcome : ∀ outcome, flight.outcome = some outcome → later.outcome = some outcome) :
    Onward started (started.set id later) := by
  intro other old there
  by_cases same : other = id
  · subst same
    obtain rfl : flight = old := Option.some.inj (found.symm.trans there)
    have inside := (List.getElem?_eq_some_iff.mp found).1
    exact ⟨later, by simp [inside], key, created, begun, outcome⟩
  · exact ⟨old, by rw [List.getElem?_set_ne (Ne.symm same)]; exact there, rfl, rfl, fun _ begun => begun,
      fun _ settled => settled⟩

theorem onward_settled {started : List (Flight K V E)} {id : Nat} {flight : Flight K V E}
    (found : started[id]? = some flight) (open_ : flight.outcome = none) (outcome : Except E V) (now : ℚ) :
    Onward started (started.set id { flight with outcome := some (outcome, now) }) :=
  onward_set found rfl rfl (fun _ begun => begun) (by simp [open_])

theorem GaveAfter.onward {before after : List (Flight K V E)} (later : Onward before after) {key : K} {cut : Nat}
    {value : V} {source : Nat} {at_ : ℚ} (gave : GaveAfter before key cut value source at_) :
    GaveAfter after key cut value source at_ := by
  obtain ⟨flight, begun, found, of, called, order, outcome⟩ := gave
  obtain ⟨now, there, key, -, began, settled⟩ := later _ _ found
  exact ⟨now, begun, there, key.trans of, began _ called, order, settled _ outcome⟩

variable {options : CacheOptions V E} {scene : Scene K V E}

theorem CallLawful.onward {before after : List (Flight K V E)} (later : Onward before after) {call : Call K V E}
    (lawful : CallLawful options before call)
    (waits : ∀ id flight, call.reply = .promise id → before[id]? = some flight → flight.outcome = none →
      ∃ now, after[id]? = some now ∧ now.outcome = none) :
    CallLawful options after call := by
  unfold CallLawful at lawful ⊢
  cases replied : call.reply with
  | promise id =>
    simp only [replied] at lawful ⊢
    obtain ⟨flight, found, key, open_, created⟩ := lawful
    obtain ⟨now, there, key', created', -, -⟩ := later _ _ found
    obtain ⟨still, there', unsettled⟩ := waits id flight replied found open_
    obtain rfl : still = now := Option.some.inj (there'.symm.trans there)
    exact ⟨still, there, key'.trans key, unsettled, created' ▸ created⟩
  | value value source now =>
    simp only [replied] at lawful ⊢
    obtain ⟨at_, gave, young⟩ := lawful
    exact ⟨at_, gave.onward later, young⟩
  | error error => trivial

theorem Lawful.tick (lawful : Lawful options scene) : Lawful options { scene with turn := scene.turn + 1 } where
  flights flight inside :=
    have old := lawful.flights flight inside
    { created := Nat.le_succ_of_le old.created
      begun := fun begun called => ⟨(old.begun begun called).1, Nat.le_succ_of_le (old.begun begun called).2⟩
      settled := old.settled }
  __ := lawful
  cutsPast key := Nat.le_succ_of_le (lawful.cutsPast key)

theorem Lawful.cut (lawful : Lawful options scene) {entries : List (K × CacheEntry V E)} {flights : K → Option Nat}
    {cuts : K → Nat} (fewer : ∀ entry ∈ entries, entry ∈ scene.entries ∧ cuts entry.1 = scene.cuts entry.1)
    (split : ∀ key, (cuts key = scene.cuts key ∧ flights key = scene.flights key) ∨
      (cuts key = scene.turn ∧ flights key = none))
    (earlier : ∀ flight ∈ scene.started, flight.created < scene.turn) :
    Lawful options { scene with entries := entries, flights := flights, cuts := cuts } where
  __ := lawful
  attached key id found := by
    rcases split key with ⟨cut, same⟩ | ⟨-, gone⟩
    · simp only at found ⊢
      rw [cut]
      exact lawful.attached key id (same ▸ found)
    · simp only [gone] at found
      cases found
  alone id flight found open_ recent := by
    rcases split flight.key with ⟨cut, same⟩ | ⟨cut, -⟩
    · simp only at recent ⊢
      rw [same]
      exact lawful.alone id flight found open_ (cut ▸ recent)
    · have before := earlier flight (List.mem_of_getElem? found)
      simp only at recent
      omega
  entries key value refreshAtMs expiresAtMs source inside := by
    obtain ⟨there, cut⟩ := fewer _ inside
    have old := lawful.entries key value refreshAtMs expiresAtMs source there
    refine ⟨old.ordered, ?_⟩
    simp only at cut ⊢
    rw [cut]
    exact old.given
  cutsPast key := by
    rcases split key with ⟨cut, -⟩ | ⟨cut, -⟩
    · exact le_of_eq_of_le cut (lawful.cutsPast key)
    · exact Nat.le_of_eq cut

theorem Lawful.called (lawful : Lawful options scene) (call : Call K V E)
    (replied : CallLawful options scene.started call) (forced : call.force → call.cut = call.turn) :
    Lawful options { scene with calls := scene.calls ++ [call] } where
  __ := lawful
  calls other inside := by
    rcases List.mem_append.mp inside with old | new
    · exact lawful.calls other old
    · rw [List.mem_singleton.mp new]
      exact ⟨replied, forced⟩

def EntriesLawful (options : CacheOptions V E) (started : List (Flight K V E)) (cuts : K → Nat)
    (entries : List (K × CacheEntry V E)) : Prop :=
  ∀ key value refreshAtMs expiresAtMs source, (key, CacheEntry.value value refreshAtMs expiresAtMs source) ∈ entries →
    EntryLawful options started (cuts key) key value refreshAtMs expiresAtMs source

theorem EntriesLawful.onward {before after : List (Flight K V E)} {cuts : K → Nat} {entries : List (K × CacheEntry V E)}
    (lawful : EntriesLawful options before cuts entries) (later : Onward before after) :
    EntriesLawful options after cuts entries := by
  intro key value refreshAtMs expiresAtMs source inside
  obtain ⟨ordered, at_, fresh, gave, rest⟩ := lawful key value refreshAtMs expiresAtMs source inside
  exact ⟨ordered, at_, fresh, gave.onward later, rest⟩

theorem Lawful.loadCalled (lawful : Lawful options scene) {id : Nat} {flight : Flight K V E}
    (found : scene.started[id]? = some flight) (waits : flight.begun = none) (before : flight.created < scene.turn) :
    Lawful options { scene with started := scene.started.set id { flight with begun := some scene.turn } } := by
  have old := lawful.flights flight (List.mem_of_getElem? found)
  have onward : Onward scene.started (scene.started.set id { flight with begun := some scene.turn }) :=
    onward_set found rfl rfl (by simp [waits]) fun _ settled => settled
  have still : ∀ (other : Nat) (older : Flight K V E), scene.started[other]? = some older → older.outcome = none →
      ∃ now : Flight K V E, (scene.started.set id { flight with begun := some scene.turn })[other]? = some now ∧
        now.outcome = none := by
    intro other older there open_
    by_cases same : other = id
    · subst same
      obtain rfl : flight = older := Option.some.inj (found.symm.trans there)
      have inside := (List.getElem?_eq_some_iff.mp found).1
      exact ⟨{ flight with begun := some scene.turn }, by simp [inside], open_⟩
    · exact ⟨older, (List.getElem?_set_ne (Ne.symm same)).trans there, open_⟩
  exact {
    flights := fun other inside => by
      rcases List.mem_or_eq_of_mem_set inside with there | rfl
      · exact lawful.flights other there
      · exact { created := old.created, begun := by rintro _ ⟨⟩; exact ⟨before, Nat.le_refl _⟩, settled := fun _ => rfl }
    attached := fun key other held => by
      obtain ⟨older, there, of, open_, recent⟩ := lawful.attached key other held
      obtain ⟨now, found', of', created, -, -⟩ := onward _ _ there
      obtain ⟨now', found'', open'⟩ := still _ _ there open_
      obtain rfl : now' = now := Option.some.inj (found''.symm.trans found')
      exact ⟨now', found', of'.trans of, open', created ▸ recent⟩
    alone := fun other later there open_ recent => by
      by_cases same : other = id
      · subst same
        have inside := (List.getElem?_eq_some_iff.mp found).1
        obtain rfl : { flight with begun := some scene.turn } = later := by simpa [inside] using there
        exact lawful.alone other flight found open_ recent
      · exact lawful.alone other later ((List.getElem?_set_ne (Ne.symm same)).symm.trans there) open_ recent
    entries := EntriesLawful.onward lawful.entries onward
    cutsPast := lawful.cutsPast
    calls := fun call inside =>
      ⟨(lawful.calls call inside).1.onward onward fun other older _ => still other older, (lawful.calls call inside).2⟩ }

/-- What a settled load hands to those who wait for it: its own value, now, or an error. -/
def Hands (outcome : Except E V) (id : Nat) (now : ℚ) (reply : Reply V E) : Prop :=
  match reply with
  | .promise _ => False
  | .value value source at_ => outcome = .ok value ∧ source = id ∧ at_ = now
  | .error _ => True

theorem Lawful.settle (lawful : Lawful options scene) {id : Nat} {flight : Flight K V E} {outcome : Except E V}
    {now : ℚ} (found : scene.started[id]? = some flight) (called : flight.begun.isSome) (open_ : flight.outcome = none)
    {flights : K → Option Nat}
    (others : ∀ key other, flights key = some other ↔ scene.flights key = some other ∧ other ≠ id)
    {entries : List (K × CacheEntry V E)}
    (kept : EntriesLawful options (scene.started.set id { flight with outcome := some (outcome, now) }) scene.cuts entries)
    {reply : Reply V E} (hands : Hands outcome id now reply) : Lawful options { scene with
      entries := entries
      flights := flights
      started := scene.started.set id { flight with outcome := some (outcome, now) }
      calls := scene.calls.map fun call => call.settle id reply } := by
  have old := lawful.flights flight (List.mem_of_getElem? found)
  have inside := (List.getElem?_eq_some_iff.mp found).1
  have onward := onward_settled found open_ outcome now
  have elsewhere : ∀ other, other ≠ id →
      (scene.started.set id { flight with outcome := some (outcome, now) })[other]? = scene.started[other]? :=
    fun other apart => List.getElem?_set_ne (Ne.symm apart)
  exact {
    flights := fun other there => by
      rcases List.mem_or_eq_of_mem_set there with before | rfl
      · exact lawful.flights other before
      · exact { created := old.created, begun := old.begun, settled := fun _ => called }
    attached := fun key other held => by
      obtain ⟨before, apart⟩ := (others key other).mp held
      obtain ⟨older, there, rest⟩ := lawful.attached key other before
      exact ⟨older, (elsewhere other apart).trans there, rest⟩
    alone := fun other later there unsettled recent => by
      by_cases same : other = id
      · subst same
        obtain rfl : { flight with outcome := some (outcome, now) } = later := by simpa [inside] using there
        cases unsettled
      · have before := lawful.alone other later ((elsewhere other same).symm.trans there) unsettled recent
        exact (others _ _).mpr ⟨before, same⟩
    entries := kept
    cutsPast := lawful.cutsPast
    calls := fun call there => by
      obtain ⟨waiting, before, rfl⟩ := List.mem_map.mp there
      obtain ⟨replied, forced⟩ := lawful.calls waiting before
      by_cases mine : waiting.reply = .promise id
      · -- the caller waited for this load
        have settled : waiting.settle id reply = { waiting with reply } := by simp [Call.settle, mine]
        rw [settled]
        refine ⟨?_, forced⟩
        simp only [CallLawful, mine] at replied
        obtain ⟨same, there', of, -, recent⟩ := replied
        obtain rfl : flight = same := Option.some.inj (found.symm.trans there')
        cases reply with
        | promise other => exact hands.elim
        | error error => trivial
        | value value source at_ =>
          obtain ⟨rfl, rfl, rfl⟩ := hands
          obtain ⟨begun, began⟩ := Option.isSome_iff_exists.mp called
          have order := (old.begun begun began).1
          exact ⟨at_, ⟨{ flight with outcome := some (.ok value, at_) }, begun, by simp [inside], of, began,
            lt_of_le_of_lt recent order, rfl⟩, .inl rfl⟩
      · have same : waiting.settle id reply = waiting := by
          unfold Call.settle
          split
          · next other promised =>
            refine if_neg ?_
            rintro rfl
            exact mine promised
          · rfl
        rw [same]
        refine ⟨replied.onward onward fun other older promised there unsettled => ?_, forced⟩
        have apart : other ≠ id := by
          rintro rfl
          exact mine promised
        exact ⟨older, (elsewhere other apart).trans there, unsettled⟩ }

section

variable [DecidableEq K]

section

variable {entries : List (K × CacheEntry V E)} {key : K} {entry : K × CacheEntry V E}

theorem mem_deleteEntry (inside : entry ∈ deleteEntry entries key) : entry ∈ entries ∧ entry.1 ≠ key := by
  simpa [deleteEntry] using inside

theorem mem_remember {limit : WithTop ℕ} {added : CacheEntry V E} (inside : entry ∈ remember limit entries key added) :
    (entry ∈ entries ∧ entry.1 ≠ key) ∨ entry = (key, added) := by
  have kept : entry ∈ deleteEntry entries key ++ [(key, added)] := by
    cases limit with
    | top => exact inside
    | coe count => exact List.mem_of_mem_drop inside
  rcases List.mem_append.mp kept with old | new
  · exact .inl (mem_deleteEntry old)
  · exact .inr (List.mem_singleton.mp new)

end

theorem mem_putOff {entries : List (K × CacheEntry V E)} {key other : K} {refreshAt refreshAtMs expiresAtMs : WithTop ℚ}
    {value : V} {source : Nat}
    (inside : (other, CacheEntry.value value refreshAtMs expiresAtMs source) ∈ putOff entries key refreshAt) :
    ∃ before, (other, CacheEntry.value value before expiresAtMs source) ∈ entries ∧
      (refreshAtMs = before ∨ refreshAtMs ≤ expiresAtMs) := by
  obtain ⟨⟨owner, entry⟩, there, same⟩ := List.mem_map.mp inside
  cases entry with
  | error error expires => simp at same
  | value old refresh expires from_ =>
    by_cases own : owner = key
    · simp only [own, if_pos, Prod.mk.injEq, CacheEntry.value.injEq] at same
      obtain ⟨rfl, rfl, rfl, rfl, rfl⟩ := same
      exact ⟨refresh, own ▸ there, .inr (min_le_right _ _)⟩
    · simp only [own, if_false, Prod.mk.injEq, CacheEntry.value.injEq] at same
      obtain ⟨rfl, rfl, rfl, rfl, rfl⟩ := same
      exact ⟨refresh, there, .inl rfl⟩

theorem Scene.entry_mem {scene : Scene K V E} {key : K} {entry : CacheEntry V E} (found : scene.entry key = some entry) :
    (key, entry) ∈ scene.entries := by
  obtain ⟨⟨owner, held⟩, there, rfl⟩ := Option.map_eq_some_iff.mp found
  have own : owner = key := by simpa using List.find?_some there
  exact own ▸ List.mem_of_find?_eq_some there

section
variable (lawful : Lawful options scene)

include lawful

theorem Lawful.start (key : K) (none_ : scene.flights key = none) : Lawful options (scene.start key) where
  flights flight inside := by
    rcases List.mem_append.mp inside with old | new
    · exact lawful.flights flight old
    · obtain rfl := List.mem_singleton.mp new
      exact { created := Nat.le_refl _, begun := nofun, settled := nofun }
  attached owner id found := by
    simp only [Scene.start] at found ⊢
    by_cases own : owner = key
    · subst own
      obtain rfl : scene.started.length = id := by simpa using found
      exact ⟨_, List.getElem?_concat_length, rfl, rfl, lawful.cutsPast owner⟩
    · rw [Function.update_of_ne own] at found
      obtain ⟨flight, there, rest⟩ := lawful.attached owner id found
      have inside := (List.getElem?_eq_some_iff.mp there).1
      exact ⟨flight, by rw [List.getElem?_append_left inside]; exact there, rest⟩
  alone id flight found open_ recent := by
    simp only [Scene.start] at found recent ⊢
    by_cases last : id = scene.started.length
    · subst last
      rw [List.getElem?_concat_length] at found
      obtain rfl := Option.some.inj found
      simp
    · have inside : id < scene.started.length := by
        have bound := (List.getElem?_eq_some_iff.mp found).1
        rw [List.length_append, List.length_singleton] at bound
        omega
      rw [List.getElem?_append_left inside] at found
      have mine := lawful.alone id flight found open_ recent
      by_cases own : flight.key = key
      · rw [own, none_] at mine
        cases mine
      · rw [Function.update_of_ne own]
        exact mine
  entries := EntriesLawful.onward lawful.entries (onward_append _ _)
  cutsPast := lawful.cutsPast
  calls call inside := by
    have old := lawful.calls call inside
    refine ⟨old.1.onward (onward_append _ _) fun id flight _ found open_ => ?_, old.2⟩
    have bound := (List.getElem?_eq_some_iff.mp found).1
    exact ⟨flight, (List.getElem?_append_left bound).trans found, open_⟩

theorem Lawful.drop (key : K)
    (earlier : ∀ flight ∈ scene.started, flight.created < scene.turn) : Lawful options (scene.drop key) := by
  refine lawful.cut ?_ ?_ earlier
  · intro entry inside
    obtain ⟨there, other⟩ := mem_deleteEntry inside
    exact ⟨there, Function.update_of_ne other _ _⟩
  · intro owner
    by_cases own : owner = key
    · subst own
      exact .inr ⟨Function.update_self _ _ _, Function.update_self _ _ _⟩
    · exact .inl ⟨Function.update_of_ne own _ _, Function.update_of_ne own _ _⟩

theorem Lawful.join (key : K) : Lawful options (scene.join key).1 ∧ (scene.join key).1.cuts = scene.cuts ∧
      (scene.join key).1.calls = scene.calls ∧ (scene.join key).1.turn = scene.turn ∧
      ∃ id flight, (scene.join key).2 = .promise id ∧ (scene.join key).1.started[id]? = some flight ∧
        flight.key = key ∧ flight.outcome = none ∧ scene.cuts key ≤ flight.created := by
  unfold Scene.join
  cases held : scene.flights key with
  | some id =>
    obtain ⟨flight, found, rest⟩ := lawful.attached key id held
    exact ⟨lawful, rfl, rfl, rfl, id, flight, rfl, found, rest⟩
  | none =>
    exact ⟨lawful.start key held, rfl, rfl, rfl, _, _, rfl, List.getElem?_concat_length, rfl, rfl, lawful.cutsPast key⟩

theorem Lawful.get (earlier : ∀ flight ∈ scene.started, flight.created < scene.turn)
    (key : K) (force : Bool) (now : ℚ) : Lawful options (scene.act options (.get key force now)) := by
  have joins : ∀ reply : Reply V E, (scene.get key force now) = ((scene.join key).1, reply) → force = false →
      (CallLawful options (scene.join key).1.started
        { key, force, turn := scene.turn, cut := (scene.join key).1.cuts key, reply }) →
      Lawful options (scene.act options (.get key force now)) := by
    intro reply same plain replied
    obtain ⟨after, -, calls, -, -⟩ := lawful.join key
    have called := after.called _ replied (by simp [plain])
    rw [calls] at called
    simp only [Scene.act, same]
    exact called
  have joined : scene.get key force now = scene.join key → force = false →
      Lawful options (scene.act options (.get key force now)) := by
    intro same plain
    obtain ⟨-, cuts, -, -, id, flight, promised, found, of, open_, recent⟩ := lawful.join key
    refine joins (.promise id) (by rw [same, ← promised]) plain ?_
    exact ⟨flight, found, of, open_, le_of_eq_of_le (congrFun cuts key) recent⟩
  cases force with
  | true =>
    have dropped := lawful.drop key earlier
    have after := dropped.start key (Function.update_self _ _ _)
    refine after.called { key, force := true, turn := scene.turn, cut := _, reply := _ } ?_ fun _ => ?_
    · exact ⟨_, List.getElem?_concat_length, rfl, rfl, dropped.cutsPast key⟩
    · exact Function.update_self _ _ _
  | false =>
    cases held : scene.entry key with
    | none => exact joined (by simp [Scene.get, held]) rfl
    | some entry =>
      cases entry with
      | error error expiresAtMs =>
        by_cases lasting : (now : WithTop ℚ) < expiresAtMs
        · have same : scene.get key false now = (scene, .error error) := by simp [Scene.get, held, lasting]
          simp only [Scene.act, same]
          exact lawful.called { key, force := false, turn := _, cut := _, reply := _ } trivial nofun
        · exact joined (by simp [Scene.get, held, lasting]) rfl
      | value value refreshAtMs expiresAtMs source =>
        have entry := lawful.entries key value refreshAtMs expiresAtMs source (Scene.entry_mem held)
        obtain ⟨at_, fresh, gave, fits, expires⟩ := entry.given
        have young : (now : WithTop ℚ) < expiresAtMs → Young options value at_ now :=
          fun before => ⟨fresh, fits, expires ▸ before⟩
        by_cases isFresh : (now : WithTop ℚ) < refreshAtMs
        · have same : scene.get key false now = (scene, .value value source now) := by
            simp [Scene.get, held, isFresh]
          simp only [Scene.act, same]
          exact lawful.called { key, force := false, turn := _, cut := _, reply := _ }
            ⟨at_, gave, .inr (young (lt_of_lt_of_le isFresh entry.ordered))⟩ nofun
        · by_cases lasting : (now : WithTop ℚ) < expiresAtMs
          · -- the stale value is served while a refresh runs
            refine joins (.value value source now) (by simp [Scene.get, held, isFresh, lasting]) rfl ?_
            refine ⟨at_, ?_, .inr (young lasting)⟩
            unfold Scene.join
            cases scene.flights key with
            | some id => exact gave
            | none => exact gave.onward (onward_append _ _)
          · exact joined (by simp [Scene.get, held, isFresh, lasting]) rfl

theorem Lawful.detached {id : Nat} {flight : Flight K V E}
    (found : scene.started[id]? = some flight) (key : K) (other : Nat) :
    (if scene.flights flight.key = some id then Function.update scene.flights flight.key none else scene.flights) key =
        some other ↔ scene.flights key = some other ∧ other ≠ id := by
  have own : ∀ owner, scene.flights owner = some id → owner = flight.key := by
    intro owner held
    obtain ⟨same, there, of, -⟩ := lawful.attached owner id held
    obtain rfl : flight = same := Option.some.inj (found.symm.trans there)
    exact of.symm
  split
  · next held =>
    by_cases mine : key = flight.key
    · subst mine
      rw [Function.update_self, held]
      simp [eq_comm]
    · rw [Function.update_of_ne mine]
      exact ⟨fun there => ⟨there, fun same => mine (own key (same ▸ there))⟩, And.left⟩
  · next free => exact ⟨fun there => ⟨there, fun same => free (by rw [← own key (same ▸ there), there, same])⟩, And.left⟩

theorem Lawful.settleLoad {id : Nat} {flight : Flight K V E}
    (found : scene.started[id]? = some flight) (called : flight.begun.isSome) (open_ : flight.outcome = none)
    (outcome : Except E V) (now : ℚ) : Lawful options (scene.settleLoad options id flight outcome now) := by
  have old := lawful.flights flight (List.mem_of_getElem? found)
  have inside := (List.getElem?_eq_some_iff.mp found).1
  have same := EntriesLawful.onward lawful.entries (onward_settled found open_ outcome now)
  have settled : ∀ (entries : List (K × CacheEntry V E)) (reply : Reply V E),
      EntriesLawful options (scene.started.set id { flight with outcome := some (outcome, now) }) scene.cuts entries →
      Hands outcome id now reply → Lawful options { scene with
        entries := entries
        flights := if scene.flights flight.key = some id then Function.update scene.flights flight.key none
          else scene.flights
        started := scene.started.set id { flight with outcome := some (outcome, now) }
        calls := scene.calls.map fun call => call.settle id reply } :=
    fun _ _ kept hands => lawful.settle found called open_ (lawful.detached found) kept hands
  by_cases held : scene.flights flight.key = some id
  · simp only [if_pos held] at settled
    cases outcome with
    | ok value =>
      cases fits : options.freshFor value with
      | error error =>
        simp only [Scene.settleLoad, Scene.loaded, if_pos held, fits]
        exact settled _ _ same trivial
      | ok fresh =>
        simp only [Scene.settleLoad, Scene.loaded, if_pos held, fits]
        refine settled _ _ ?_ ⟨rfl, rfl, rfl⟩
        intro key stored refreshAtMs expiresAtMs source there
        rcases mem_remember there with ⟨before, -⟩ | new
        · exact same key stored refreshAtMs expiresAtMs source before
        · -- the stored value is the load's own, and its load was called after the last cut
          simp only [Prod.mk.injEq, CacheEntry.value.injEq] at new
          obtain ⟨rfl, rfl, rfl, rfl, rfl⟩ := new
          obtain ⟨begun, began⟩ := Option.isSome_iff_exists.mp called
          obtain ⟨mine, there', -, -, recent⟩ := lawful.attached _ _ held
          obtain rfl : flight = mine := Option.some.inj (found.symm.trans there')
          refine ⟨add_le_add_right (le_max_left _ _) _, now, fresh, ?_, fits, rfl⟩
          exact ⟨{ flight with outcome := some (.ok stored, now) }, begun, by simp [inside], rfl, began,
            lt_of_le_of_lt recent (old.begun begun began).1, rfl⟩
    | error error =>
      have forgets : ∀ later : List (K × CacheEntry V E),
          (∀ entry ∈ later, entry ∈ scene.entries ∨ ∃ key expiresAtMs, entry = (key, .error error expiresAtMs)) →
          Lawful options { scene with
            entries := later
            flights := Function.update scene.flights flight.key none
            started := scene.started.set id { flight with outcome := some (.error error, now) }
            calls := scene.calls.map fun call => call.settle id (.error error) } := by
        intro later from_
        refine settled later (.error error) (fun key value refreshAtMs expiresAtMs source there => ?_) trivial
        rcases from_ _ there with before | ⟨_, _, new⟩
        · exact same key value refreshAtMs expiresAtMs source before
        · cases new
      have remembers : ∀ entry ∈ remember options.limit scene.entries flight.key (.error error (now + options.errorTtl)),
          entry ∈ scene.entries ∨ ∃ key expiresAtMs, entry = (key, .error error expiresAtMs) := by
        intro entry there
        rcases mem_remember there with ⟨before, -⟩ | new
        · exact .inl before
        · exact .inr ⟨_, _, new⟩
      have deletes : ∀ entry ∈ deleteEntry scene.entries flight.key,
          entry ∈ scene.entries ∨ ∃ key expiresAtMs, entry = (key, CacheEntry.error error expiresAtMs) :=
        fun entry there => .inl (mem_deleteEntry there).1
      have puts := settled (putOff scene.entries flight.key (now + options.errorTtl)) (.error error)
        (fun key value refreshAtMs expiresAtMs source there => by
          obtain ⟨before, held', order⟩ := mem_putOff there
          have entry := same key value before expiresAtMs source held'
          rcases order with rfl | earlier
          · exact entry
          · exact ⟨earlier, entry.given⟩) trivial
      simp only [Scene.settleLoad, Scene.failed, if_pos held]
      by_cases replayed : 0 < options.errorTtl
      · simp only [if_pos replayed]
        split
        · split
          · exact puts
          · exact forgets _ remembers
        · exact forgets _ remembers
      · simp only [if_neg replayed]
        split
        · split
          · exact puts
          · exact forgets _ deletes
        · exact forgets _ deletes
  · simp only [if_neg held] at settled
    cases outcome with
    | ok value =>
      simp only [Scene.settleLoad, Scene.loaded, if_neg held]
      exact settled _ _ same ⟨rfl, rfl, rfl⟩
    | error error =>
      simp only [Scene.settleLoad, Scene.failed, if_neg held]
      exact settled _ _ same trivial

theorem Lawful.step (event : CacheEvent K V E) : Lawful options (scene.step options event) := by
  have ticked := lawful.tick
  have earlier : ∀ flight ∈ scene.started, flight.created < scene.turn + 1 :=
    fun flight inside => Nat.lt_succ_of_le (lawful.flights flight inside).created
  unfold Scene.step
  cases event with
  | get key force now => exact ticked.get earlier key force now
  | loadCalled id =>
    simp only [Scene.act]
    split
    · next flight found =>
      split
      · next waits => exact ticked.loadCalled found waits (earlier flight (List.mem_of_getElem? found))
      · exact ticked
    · exact ticked
  | loadSettled id outcome now =>
    simp only [Scene.act]
    split
    · next flight found =>
      split
      · next may => exact ticked.settleLoad found may.1 (Option.isNone_iff_eq_none.mp may.2) outcome now
      · exact ticked
    · exact ticked
  | invalidate key =>
    cases key with
    | some key => exact ticked.drop key earlier
    | none => exact ticked.cut nofun (fun _ => .inr ⟨rfl, rfl⟩) earlier

end

theorem lawful_run (options : CacheOptions V E) (events : List (CacheEvent K V E)) :
    Lawful options (Scene.run options events) := by
  have onwards : ∀ (events : List (CacheEvent K V E)) (scene : Scene K V E), Lawful options scene →
      Lawful options (events.foldl (Scene.step options) scene) := by
    intro events
    induction events with
    | nil => exact fun _ lawful => lawful
    | cons event rest ih => exact fun scene lawful => ih _ (lawful.step event)
  exact onwards events {} {
    flights := nofun
    attached := nofun
    alone := nofun
    entries := nofun
    cutsPast := fun _ => Nat.le_refl _
    calls := nofun }

/-- A load that was called before an invalidation does not fill the cache again. -/
example : (Scene.run (K := String) (V := Nat) (E := Unit) { freshMs := fun _ => .ok (.finite 5) }
    [.get "key" false 0, .loadCalled 0, .invalidate (some "key"), .loadSettled 0 (.ok 7) 3]).entries.length = 0 := by
  decide

end

end

end SpaceApp.Api
