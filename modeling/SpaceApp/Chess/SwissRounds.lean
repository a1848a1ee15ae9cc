import SpaceApp.Foundation.Reach
import SpaceApp.Chess.RoundRobin
import SpaceApp.Chess.SwissSearch

/-! A Swiss tournament round by round: pairing a round, and games that change everything but who meets whom and who
had a bye.
-/

set_option autoImplicit false

namespace SpaceApp.Chess

open SpaceApp.Foundation

theorem chooseBye_odd {ranked : List ChessStanding} (odd : ranked.length % 2 = 1) :
    ∃ standing ∈ ranked, chooseBye ranked = some standing.id ∧
      ((∃ other ∈ ranked, other.byes = 0) → standing.byes = 0) := by
  unfold chooseBye
  rw [if_pos odd]
  split
  · next standing found =>
    have without : standing.byes = 0 := by simpa using List.find?_some found
    exact ⟨standing, List.mem_reverse.mp (List.mem_of_find?_eq_some found), rfl, fun _ => without⟩
  · next none_ =>
    have some_ : ranked ≠ [] := by
      rintro rfl
      simp at odd
    refine ⟨ranked.getLast some_, List.getLast_mem some_, by simp [List.getLast?_eq_some_getLast some_], ?_⟩
    rintro ⟨other, inside, without⟩
    have never := List.find?_eq_none.mp none_ other (List.mem_reverse.mpr inside)
    simp [without] at never

theorem chooseBye_even {ranked : List ChessStanding} (even : ranked.length % 2 ≠ 1) : chooseBye ranked = none :=
  if_neg even

theorem pairingPool_perm {ranked : List ChessStanding} (distinct : (ranked.map ChessStanding.id).Nodup) :
    (pairingPool ranked ++ (chooseBye ranked).toList).Perm (ranked.map ChessStanding.id) ∧
      (pairingPool ranked).length % 2 = 0 := by
  by_cases odd : ranked.length % 2 = 1
  · obtain ⟨standing, inside, chosen, -⟩ := chooseBye_odd odd
    have member : standing.id ∈ ranked.map ChessStanding.id := List.mem_map.mpr ⟨standing, inside, rfl⟩
    have pool : pairingPool ranked = (ranked.map ChessStanding.id).erase standing.id := by
      rw [pairingPool, distinct.erase_eq_filter]
      refine List.filter_congr fun id _ => ?_
      by_cases same : id = standing.id
      · simp [chosen, same]
      · simp [chosen, same, Ne.symm same]
    rw [chosen, pool]
    constructor
    · exact (List.perm_append_singleton _ _).trans (List.perm_cons_erase member).symm
    · rw [List.length_erase_of_mem member, List.length_map]
      omega
  · have none_ := chooseBye_even odd
    have pool : pairingPool ranked = ranked.map ChessStanding.id := by simp [pairingPool, none_]
    rw [none_, pool]
    constructor
    · simp
    · rw [List.length_map]
      omega

theorem colored_either (standings : List ChessStanding) (round : Nat) (pair : String × String) :
    colored standings round pair = pair ∨ colored standings round pair = (pair.2, pair.1) := by
  simp only [colored]
  split
  · exact .inl rfl
  · split
    · exact .inr rfl
    · split
      · exact .inl rfl
      · exact .inr rfl

theorem players_colored (standings : List ChessStanding) (round : Nat) (pairs : List (String × String)) :
    (players (pairs.map (colored standings round))).Perm (players pairs) := by
  induction pairs with
  | nil => exact List.Perm.refl _
  | cons pair rest ih =>
    rw [List.map_cons, players_cons, players_cons]
    rcases colored_either standings round pair with same | same <;> rw [same]
    · exact (ih.cons _).cons _
    · exact (List.Perm.swap _ _ _).trans ((ih.cons _).cons _)

def roundSearch (standings : List ChessStanding) (played : List String) (tiebreak : String → Nat) :
    Option (List (String × String)) × Int :=
  solve played (pairingPool (rankStandings tiebreak standings))

section

variable {standings : List ChessStanding} {played : List String} {round : Nat} {tiebreak : String → Nat}

theorem rankStandings_perm (tiebreak : String → Nat) (standings : List ChessStanding) :
    (rankStandings tiebreak standings).Perm standings := List.perm_insertionSort _ _

theorem swissPairings_all (distinct : (standings.map ChessStanding.id).Nodup) :
    (players (swissPairings standings played round tiebreak).pairs ++
      (swissPairings standings played round tiebreak).bye.toList).Perm (standings.map ChessStanding.id) := by
  have ranks := (rankStandings_perm tiebreak standings).map ChessStanding.id
  obtain ⟨all, even⟩ := pairingPool_perm (ranks.nodup_iff.mpr distinct)
  have pairing : IsPairing (pairingPool (rankStandings tiebreak standings))
      ((solve played (pairingPool (rankStandings tiebreak standings))).1.getD
        (adjacentPairs (pairingPool (rankStandings tiebreak standings)))) := by
    cases found : (solve played (pairingPool (rankStandings tiebreak standings))).1 with
    | none => exact adjacentPairs_pairing _ even
    | some pairs => exact ((solve_kept played _).found pairs found).1
  exact (((players_colored standings round _).trans pairing).append_right _).trans (all.trans ranks)

theorem swissPairings_bye (standings : List ChessStanding) (played : List String) (round : Nat) (tiebreak : String → Nat) :
    (swissPairings standings played round tiebreak).bye.toList.length = standings.length % 2 := by
  have length := (rankStandings_perm tiebreak standings).length_eq
  simp only [swissPairings]
  by_cases odd : (rankStandings tiebreak standings).length % 2 = 1
  · obtain ⟨standing, -, chosen, -⟩ := chooseBye_odd odd
    rw [chosen, Option.toList_some, List.length_singleton]
    omega
  · rw [chooseBye_even odd, Option.toList_none, List.length_nil]
    omega

/-- The bye goes to a player without one while there is one. -/
theorem swissPairings_bye_new {bye : String} (given : (swissPairings standings played round tiebreak).bye = some bye) :
    ∃ standing ∈ standings, standing.id = bye ∧ ((∃ other ∈ standings, other.byes = 0) → standing.byes = 0) := by
  have same := rankStandings_perm tiebreak standings
  simp only [swissPairings] at given
  by_cases odd : (rankStandings tiebreak standings).length % 2 = 1
  · obtain ⟨standing, inside, chosen, first⟩ := chooseBye_odd odd
    rw [chosen, Option.some.injEq] at given
    refine ⟨standing, same.mem_iff.mp inside, given, fun ⟨other, there, without⟩ => ?_⟩
    exact first ⟨other, same.mem_iff.mpr there, without⟩
  · simp [chooseBye_even odd] at given

/-- A rematch is paired only where the search found nothing. -/
theorem swissPairings_rematch (distinct : (standings.map ChessStanding.id).Nodup) {pair : String × String}
    (inside : pair ∈ (swissPairings standings played round tiebreak).pairs) (met : pairKey pair.1 pair.2 ∈ played) :
    (roundSearch standings played tiebreak).2 < 0 ∨ ∀ pairs,
      (players pairs ++ (swissPairings standings played round tiebreak).bye.toList).Perm (standings.map ChessStanding.id) →
        ¬RematchFree played pairs := by
  have kept := solve_kept played (pairingPool (rankStandings tiebreak standings))
  have ranks := (rankStandings_perm tiebreak standings).map ChessStanding.id
  obtain ⟨all, -⟩ := pairingPool_perm (ranks.nodup_iff.mpr distinct)
  obtain ⟨before, there, rfl⟩ := List.mem_map.mp inside
  have key : pairKey before.1 before.2 ∈ played := by
    rcases colored_either standings round before with same | same <;> rw [same] at met
    · exact met
    · rw [pairKey_comm]
      exact met
  cases found : (solve played (pairingPool (rankStandings tiebreak standings))).1 with
  | some pairs =>
    rw [found, Option.getD_some] at there
    exact absurd key ((kept.found pairs found).2 before there)
  | none =>
    rcases lt_or_ge (roundSearch standings played tiebreak).2 0 with passed | tries
    · exact .inl passed
    · refine .inr fun pairs everybody => kept.none_ found tries pairs ?_
      exact (List.perm_append_right_iff _).mp (everybody.trans (all.trans ranks).symm)

end

/-- Who meets whom in which round, or has the bye. -/
def ChessGame.slot (game : ChessGame) : Nat × String × Option String := (game.round, game.white, game.black)

abbrev Slots := List (Nat × String × Option String)

def roundSlots (slots : Slots) (round : Nat) : Slots := slots.filter fun slot => slot.1 = round

def slotPlayers (slots : Slots) : List String := slots.flatMap fun slot => slot.2.1 :: slot.2.2.toList

def slotByes (slots : Slots) : List String := slots.filterMap fun slot => if slot.2.2 = none then some slot.2.1 else none

/-- The two have met, in whatever colors. -/
def Met (slots : Slots) (a b : String) : Prop := ∃ slot ∈ slots, slot.2 = (a, some b) ∨ slot.2 = (b, some a)

inductive SwissEvent where
  | pair (now : String)
  | play (standings : List ChessStanding) (games : List ChessGame)

def SwissEvent.allowed (state : ChessTournamentState) : SwissEvent → Prop
  | .pair _ => state.round < state.totalRounds
  | .play standings games =>
    standings.map (fun standing => (standing.id, standing.byes)) =
        state.standings.map (fun standing => (standing.id, standing.byes)) ∧
      games.map ChessGame.slot = state.games.map ChessGame.slot

def swissStep (state : ChessTournamentState) : SwissEvent → ChessTournamentState
  | .pair now => pairNextSwissRound state now
  | .play standings games => { state with standings := standings, games := games }

/-- A new Swiss tournament of these players, of at most one round less than there are players. -/
def SwissStart (ids : List String) (state : ChessTournamentState) : Prop :=
  ∃ settings id createdAt, settings.format = .swiss ∧ settings.rounds ≤ ids.length - 1 ∧
    state = startState settings ids id createdAt

structure Fair (ids : List String) (state : ChessTournamentState) : Prop where
  named : state.standings.map ChessStanding.id = ids
  total : state.totalRounds ≤ ids.length - 1
  round : state.round ≤ state.totalRounds
  past : ∀ slot ∈ state.games.map ChessGame.slot, slot.1 ≤ state.round
  all : ∀ round, 1 ≤ round → round ≤ state.round →
    (slotPlayers (roundSlots (state.games.map ChessGame.slot) round)).Perm ids ∧
      (slotByes (roundSlots (state.games.map ChessGame.slot) round)).length = ids.length % 2
  byeOnce : (slotByes (state.games.map ChessGame.slot)).Nodup
  byes : ∀ standing ∈ state.standings, standing.byes = (slotByes (state.games.map ChessGame.slot)).count standing.id
  byeCount : (slotByes (state.games.map ChessGame.slot)).length ≤ state.round

theorem startState_names (settings : ChessTournamentSettings) (ids : List String) (id createdAt : String) :
    (startState settings ids id createdAt).standings.map ChessStanding.id = ids := by
  rw [List.ext_getElem?_iff]
  intro place
  cases found : ids[place]? <;> simp [startState, emptyStanding, List.getElem?_mapIdx, found]

theorem startState_fair {ids : List String} {state : ChessTournamentState} (start : SwissStart ids state) :
    Fair ids state := by
  obtain ⟨settings, id, createdAt, swiss, few, rfl⟩ := start
  have empty : (startState settings ids id createdAt).games = [] := by simp [startState, swiss]
  have first : (startState settings ids id createdAt).round = 0 := by simp [startState, swiss]
  exact {
    named := startState_names settings ids id createdAt
    total := by simpa [startState, swiss] using few
    round := by simp [first]
    past := by simp [empty]
    all := fun round one few => by omega
    byeOnce := by simp [empty, slotByes]
    byes := fun standing inside => by
      obtain ⟨place, bound, rfl⟩ := List.mem_mapIdx.mp inside
      simp [empty, slotByes, emptyStanding]
    byeCount := by simp [empty, slotByes] }

theorem play_fair {ids : List String} {state : ChessTournamentState} (fair : Fair ids state)
    {standings : List ChessStanding} {games : List ChessGame} (may : SwissEvent.allowed state (.play standings games)) :
    Fair ids (swissStep state (.play standings games)) := by
  obtain ⟨same, slots⟩ := may
  have names : standings.map ChessStanding.id = state.standings.map ChessStanding.id := by
    have firsts := congrArg (List.map Prod.fst) same
    simpa [List.map_map, Function.comp_def] using firsts
  simp only [swissStep]
  exact {
    named := names.trans fair.named
    __ := fair
    past := slots ▸ fair.past
    all := slots ▸ fair.all
    byeOnce := slots ▸ fair.byeOnce
    byes := fun standing inside => by
      have there : (standing.id, standing.byes) ∈ state.standings.map fun standing => (standing.id, standing.byes) :=
        same ▸ List.mem_map.mpr ⟨standing, inside, rfl⟩
      obtain ⟨old, before, equal⟩ := List.mem_map.mp there
      simp only [Prod.mk.injEq] at equal
      rw [slots, ← equal.1, ← equal.2]
      exact fair.byes old before
    byeCount := slots ▸ fair.byeCount }

theorem roundGames_slots (round : Nat) (pairs : List (String × String)) :
    (roundGames round pairs).map ChessGame.slot = pairs.map fun pair => (round, pair.1, some pair.2) := by
  rw [List.ext_getElem?_iff]
  intro place
  cases found : pairs[place]? <;> simp [roundGames, List.getElem?_mapIdx, found, newGame, ChessGame.slot]

def newSlots (round : Nat) (pairings : Pairings) : Slots :=
  pairings.pairs.map (fun pair => (round, pair.1, some pair.2)) ++ pairings.bye.toList.map fun bye => (round, bye, none)

section

variable (state : ChessTournamentState) (now : String)

include state now

theorem pairNextSwissRound_slots : (pairNextSwissRound state now).games.map ChessGame.slot =
      state.games.map ChessGame.slot ++ newSlots (state.round + 1) (nextPairings state) := by
  simp only [pairNextSwissRound, newSlots]
  cases given : (nextPairings state).bye with
  | none => simp [roundGames_slots]
  | some bye => simp [roundGames_slots, byeGame, newGame, ChessGame.slot]

theorem pairNextSwissRound_round : (pairNextSwissRound state now).round = state.round + 1 ∧
      (pairNextSwissRound state now).totalRounds = state.totalRounds := by
  simp only [pairNextSwissRound]
  split <;> exact ⟨rfl, rfl⟩

/-- A round changes the names of nobody, and the byes of one. -/
theorem pairNextSwissRound_byes :
    (pairNextSwissRound state now).standings.map (fun standing => (standing.id, standing.byes)) =
      state.standings.map fun standing =>
        (standing.id, standing.byes + if (nextPairings state).bye = some standing.id then 1 else 0) := by
  simp only [pairNextSwissRound]
  cases given : (nextPairings state).bye with
  | none => simp
  | some bye =>
    simp only [recomputeBuchholz, updateStanding, List.map_map]
    refine List.map_congr_left fun standing _ => ?_
    by_cases own : standing.id = bye
    · simp [own]
    · simp [own, Ne.symm own]

end

theorem roundSlots_append (slots more : Slots) (round : Nat) :
    roundSlots (slots ++ more) round = roundSlots slots round ++ roundSlots more round := List.filter_append ..

theorem newSlots_round (round : Nat) (pairings : Pairings) :
    roundSlots (newSlots round pairings) round = newSlots round pairings := by
  rw [roundSlots, List.filter_eq_self]
  intro slot inside
  simp only [newSlots, List.mem_append, List.mem_map] at inside
  rcases inside with ⟨pair, -, rfl⟩ | ⟨bye, -, rfl⟩ <;> simp

theorem newSlots_other {round other : Nat} (apart : other ≠ round) (pairings : Pairings) :
    roundSlots (newSlots round pairings) other = [] := by
  rw [roundSlots, List.filter_eq_nil_iff]
  intro slot inside
  simp only [newSlots, List.mem_append, List.mem_map] at inside
  rcases inside with ⟨pair, -, rfl⟩ | ⟨bye, -, rfl⟩ <;> simp [apart.symm]

theorem newSlots_players (round : Nat) (pairings : Pairings) :
    slotPlayers (newSlots round pairings) = players pairings.pairs ++ pairings.bye.toList := by
  rw [slotPlayers, newSlots, List.flatMap_append]
  cases pairings.bye <;> simp [players, List.flatMap_map]

theorem newSlots_byes (round : Nat) (pairings : Pairings) :
    slotByes (newSlots round pairings) = pairings.bye.toList := by
  rw [slotByes, newSlots, List.filterMap_append]
  cases pairings.bye <;> simp [List.filterMap_map]

theorem pairNextSwissRound_slotByes (state : ChessTournamentState) (now : String) :
    slotByes ((pairNextSwissRound state now).games.map ChessGame.slot) =
      slotByes (state.games.map ChessGame.slot) ++ (nextPairings state).bye.toList := by
  rw [pairNextSwissRound_slots, ← newSlots_byes (state.round + 1)]
  exact List.filterMap_append ..

section

variable {ids : List String} {state : ChessTournamentState}

theorem Fair.without (fair : Fair ids state) (distinct : ids.Nodup) (more : state.round < state.totalRounds) :
    ∃ standing ∈ state.standings, standing.byes = 0 := by
  by_contra none_
  have everybody : ids ⊆ slotByes (state.games.map ChessGame.slot) := by
    intro id inside
    rw [← fair.named] at inside
    obtain ⟨standing, there, rfl⟩ := List.mem_map.mp inside
    have some_ : standing.byes ≠ 0 := fun zero => none_ ⟨standing, there, zero⟩
    rw [fair.byes standing there] at some_
    exact List.count_pos_iff.mp (Nat.pos_of_ne_zero some_)
  have most := (List.subperm_of_subset distinct everybody).length_le
  have count := fair.byeCount
  have total := fair.total
  omega

theorem Fair.bye_new (fair : Fair ids state) (distinct : ids.Nodup) (more : state.round < state.totalRounds) {bye : String}
    (given : (nextPairings state).bye = some bye) : bye ∉ slotByes (state.games.map ChessGame.slot) := by
  obtain ⟨standing, inside, rfl, first⟩ := swissPairings_bye_new given
  rw [← List.count_eq_zero, ← fair.byes standing inside]
  exact first (fair.without distinct more)

theorem pair_fair (fair : Fair ids state) (distinct : ids.Nodup) (now : String) (more : state.round < state.totalRounds) :
    Fair ids (pairNextSwissRound state now) := by
  have slots := pairNextSwissRound_slots state now
  obtain ⟨next, total⟩ := pairNextSwissRound_round state now
  have changed := pairNextSwissRound_byes state now
  have everybody : (players (nextPairings state).pairs ++ (nextPairings state).bye.toList).Perm ids :=
    fair.named ▸ swissPairings_all (fair.named ▸ distinct)
  have byes : (nextPairings state).bye.toList.length = ids.length % 2 := by
    rw [← fair.named, List.length_map]
    exact swissPairings_bye ..
  refine {
    named := ?_
    total := total ▸ fair.total
    round := by omega
    past := fun slot inside => ?_
    all := fun round one upTo => ?_
    byeOnce := ?_
    byes := fun standing inside => ?_
    byeCount := ?_ }
  · have firsts := congrArg (List.map Prod.fst) changed
    simp only [List.map_map, Function.comp_def] at firsts
    exact firsts.trans fair.named
  · rw [slots, List.mem_append] at inside
    rcases inside with old | new
    · have before := fair.past slot old
      omega
    · simp only [newSlots, List.mem_append, List.mem_map] at new
      rcases new with ⟨pair, -, rfl⟩ | ⟨bye, -, rfl⟩ <;> simp [next]
  · rw [slots, roundSlots_append]
    by_cases now_ : round = state.round + 1
    · -- nobody has played in the new round before
      have none_ : roundSlots (state.games.map ChessGame.slot) round = [] := by
        rw [roundSlots, List.filter_eq_nil_iff]
        intro slot inside
        have before := fair.past slot inside
        simp only [decide_eq_true_eq]
        omega
      rw [none_, now_, newSlots_round, List.nil_append, newSlots_players, newSlots_byes]
      exact ⟨everybody, byes⟩
    · rw [newSlots_other now_, List.append_nil]
      exact fair.all round one (by omega)
  · rw [pairNextSwissRound_slotByes, List.nodup_append]
    refine ⟨fair.byeOnce, ?_, fun bye old other new => ?_⟩
    · cases (nextPairings state).bye <;> simp
    · rw [Option.mem_toList] at new
      rintro rfl
      exact fair.bye_new distinct more new old
  · have there := List.mem_map_of_mem (f := fun standing : ChessStanding => (standing.id, standing.byes)) inside
    rw [changed] at there
    obtain ⟨old, before, equal⟩ := List.mem_map.mp there
    simp only [Prod.mk.injEq] at equal
    rw [pairNextSwissRound_slotByes, List.count_append, ← equal.1, ← equal.2, fair.byes old before]
    cases (nextPairings state).bye with
    | none => simp
    | some bye => simp [List.count_singleton]
  · rw [pairNextSwissRound_slotByes, List.length_append]
    have count := fair.byeCount
    omega

end

/-- The states of a Swiss tournament of these players, with any results. -/
abbrev SwissReached (ids : List String) : ChessTournamentState → Prop :=
  Reached (SwissStart ids) SwissEvent.allowed swissStep

theorem SwissReached.fair {ids : List String} (distinct : ids.Nodup) {state : ChessTournamentState}
    (reached : SwissReached ids state) : Fair ids state := by
  have initial : ∀ state, SwissStart ids state → Fair ids state := fun _ start => startState_fair start
  refine Reached.invariant initial (fun state event fair may => ?_) reached
  cases event with
  | pair now => exact pair_fair fair distinct now may
  | play standings games => exact play_fair fair may

/-- The ids the start route takes have no bar. -/
theorem contestantId_clean {id : String} (valid : isChessContestantId id) : '|' ∉ id.toList := by
  intro bar
  have parts := List.span_eq_takeWhile_dropWhile (fun c => decide (c ≠ '@')) id.toList
  have whole : (id.toList.takeWhile fun c => decide (c ≠ '@')) ++ (id.toList.dropWhile fun c => decide (c ≠ '@')) =
      id.toList := List.takeWhile_append_dropWhile
  rw [← whole, List.mem_append] at bar
  unfold isChessContestantId at valid
  split at valid
  · next head name effort found =>
    rw [parts, Prod.mk.injEq] at found
    rw [found.1, found.2] at bar
    simp only [Bool.and_eq_true, List.all_eq_true, decide_eq_true_eq] at valid
    obtain ⟨⟨⟨⟨⟨first, -⟩, middle⟩, -⟩, -⟩, last⟩ := valid
    rcases bar with bar | bar
    · rcases List.mem_cons.mp bar with rfl | inside
      · exact absurd first (by decide)
      · exact absurd (middle _ inside) (by decide)
    · rcases List.mem_cons.mp bar with same | inside
      · exact absurd same (by decide)
      · exact absurd (last _ inside) (by decide)
  · exact absurd valid (by decide)

section

variable {games : List ChessGame} {a b : String}

theorem met_key (met : Met (games.map ChessGame.slot) a b) : pairKey a b ∈ playedKeys games := by
  obtain ⟨slot, inside, sides⟩ := met
  obtain ⟨game, there, rfl⟩ := List.mem_map.mp inside
  refine List.mem_filterMap.mpr ⟨game, there, ?_⟩
  rcases sides with sides | sides <;> simp only [ChessGame.slot, Prod.mk.injEq] at sides
  · simp [sides.1, sides.2]
  · simp [sides.1, sides.2, pairKey_comm b a]

theorem key_met (cleanA : '|' ∉ a.toList) (cleanB : '|' ∉ b.toList) (key : pairKey a b ∈ playedKeys games) :
    Met (games.map ChessGame.slot) a b := by
  obtain ⟨game, inside, same⟩ := List.mem_filterMap.mp key
  obtain ⟨black, played, equal⟩ := Option.map_eq_some_iff.mp same
  refine ⟨game.slot, List.mem_map_of_mem inside, ?_⟩
  rcases pairKey_inj cleanA cleanB equal.symm with ⟨rfl, rfl⟩ | ⟨rfl, rfl⟩
  · exact .inl (by simp [ChessGame.slot, played])
  · exact .inr (by simp [ChessGame.slot, played])

end

/-- Two who have met are paired again only where all other pairings have a rematch too, or the search ran out of tries. -/
theorem SwissReached.rematch {ids : List String} (distinct : ids.Nodup) (clean : ∀ id ∈ ids, '|' ∉ id.toList)
    {state : ChessTournamentState} (reached : SwissReached ids state) {pair : String × String}
    (inside : pair ∈ (nextPairings state).pairs) (met : Met (state.games.map ChessGame.slot) pair.1 pair.2) :
    (roundSearch state.standings (playedKeys state.games)
      fun id => (stableHash (state.id ++ ":" ++ id)).toNat).2 < 0 ∨
    ∀ pairs, (players pairs ++ (nextPairings state).bye.toList).Perm ids →
      ∃ other ∈ pairs, Met (state.games.map ChessGame.slot) other.1 other.2 := by
  have named := (reached.fair distinct).named
  rcases swissPairings_rematch (named ▸ distinct) inside (met_key met) with passed | nowhere
  · exact .inl passed
  · refine .inr fun pairs everybody => ?_
    by_contra fresh
    refine nowhere pairs (named ▸ everybody) fun other there key => fresh ⟨other, there, ?_⟩
    have known : ∀ id ∈ [other.1, other.2], id ∈ ids := fun id own =>
      everybody.mem_iff.mp (List.mem_append_left _ (List.mem_flatMap.mpr ⟨other, there, own⟩))
    exact key_met (clean _ (known _ (by simp))) (clean _ (known _ (by simp))) key

/-- Round robin: every two meet exactly once, nobody twice in a round. Swiss: in each round everybody is in one pair
or has the bye, which there is for an odd number of players and which nobody gets twice; and two who have met meet
again only where a rematch cannot be avoided, or the search ran out of tries. -/
theorem pairings_complete_and_fair {ids : List String} (distinct : ids.Nodup) (named : ∀ id ∈ ids, id ≠ "")
    (two : 2 ≤ ids.length) : ((∀ a ∈ ids, ∀ b ∈ ids, a ≠ b →
        (roundRobinSchedule ids).flatten.countP (fun pair => pair = (a, b) ∨ pair = (b, a)) = 1) ∧
      ∀ round ∈ roundRobinSchedule ids,
        (∀ pair ∈ round, pair.1 ∈ ids ∧ pair.2 ∈ ids ∧ pair.1 ≠ pair.2) ∧
        ∀ a, round.countP (fun pair => pair.1 = a ∨ pair.2 = a) ≤ 1) ∧
    ∀ state, SwissReached ids state →
      (∀ round, 1 ≤ round → round ≤ state.round →
        (slotPlayers (roundSlots (state.games.map ChessGame.slot) round)).Perm ids ∧
        (slotByes (roundSlots (state.games.map ChessGame.slot) round)).length = ids.length % 2) ∧
      (slotByes (state.games.map ChessGame.slot)).Nodup ∧
      ((∀ id ∈ ids, isChessContestantId id) →
        ∀ pair ∈ (nextPairings state).pairs, Met (state.games.map ChessGame.slot) pair.1 pair.2 →
          (roundSearch state.standings (playedKeys state.games)
            fun id => (stableHash (state.id ++ ":" ++ id)).toNat).2 < 0 ∨
          ∀ pairs, (players pairs ++ (nextPairings state).bye.toList).Perm ids →
            ∃ other ∈ pairs, Met (state.games.map ChessGame.slot) other.1 other.2) := by
  refine ⟨roundRobin_complete distinct named two, fun state reached => ?_⟩
  have fair := reached.fair distinct
  exact ⟨fair.all, fair.byeOnce, fun valid pair inside met =>
    reached.rematch distinct (fun id there => contestantId_clean (valid id there)) inside met⟩

/-- Three players: a schedule of three rounds, and in the Swiss tournaments a bye in each round. -/
theorem pairings_three : (∀ a ∈ ["gpt@high", "opus@low", "pro@max"], ∀ b ∈ ["gpt@high", "opus@low", "pro@max"], a ≠ b →
      (roundRobinSchedule ["gpt@high", "opus@low", "pro@max"]).flatten.countP
        (fun pair => pair = (a, b) ∨ pair = (b, a)) = 1) ∧
    ∀ state, SwissReached ["gpt@high", "opus@low", "pro@max"] state → ∀ round, 1 ≤ round → round ≤ state.round →
      (slotByes (roundSlots (state.games.map ChessGame.slot) round)).length = 1 := by
  obtain ⟨⟨meet, -⟩, swiss⟩ := @pairings_complete_and_fair ["gpt@high", "opus@low", "pro@max"] (by decide) (by decide)
    (by decide)
  exact ⟨meet, fun state reached round one upTo => ((swiss state reached).1 round one upTo).2⟩

end SpaceApp.Chess
