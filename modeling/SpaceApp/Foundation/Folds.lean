import Mathlib.Data.List.TakeWhile

/-! Folds of a list into itself: a run of equal items becomes the item and a marker, a block that was there before
becomes a marker alone. The markers are items too, so unfolding gives the list back only when it had none of its own.
-/

set_option autoImplicit false

namespace SpaceApp.Foundation

section

variable {α : Type}

section Runs

variable [DecidableEq α]

/-- The runs of equal items, each with its length. -/
@[grind] def runsOf : List α → List (α × ℕ)
  | [] => []
  | item :: rest =>
      (item, (rest.takeWhile fun other => other = item).length + 1) :: runsOf (rest.dropWhile fun other => other = item)
termination_by items => items.length
decreasing_by
  have := (List.dropWhile_suffix (fun other => decide (other = item)) (l := rest)).length_le
  simp only [List.length_cons]
  omega

/-- A run of two or more becomes its item and the marker of its length. -/
@[grind] def writeRun (marker : ℕ → α) (run : α × ℕ) : List α := if 1 < run.2 then [run.1, marker run.2] else [run.1]

@[grind] def collapse (marker : ℕ → α) (items : List α) : List α := (runsOf items).flatMap (writeRun marker)

/-- An item with a marker behind it is there as often as the marker says. -/
def expand (times : α → Option ℕ) : List α → List α
  | [] => []
  | [item] => [item]
  | item :: next :: rest =>
      match times next with
      | some count => List.replicate count item ++ expand times rest
      | none => item :: expand times (next :: rest)

theorem runsOf_items (items : List α) : (runsOf items).flatMap (fun run => List.replicate run.2 run.1) = items := by
  fun_induction runsOf items with
  | case1 => rfl
  | case2 item rest ih =>
    have same : rest.takeWhile (fun other => other = item) =
        List.replicate (rest.takeWhile fun other => other = item).length item :=
      List.eq_replicate_of_mem fun other inside => by simpa using List.mem_takeWhile_imp inside
    rw [List.flatMap_cons, ih, List.replicate_succ, ← same, List.cons_append, List.takeWhile_append_dropWhile]

theorem runsOf_mem {items : List α} {run : α × ℕ} (inside : run ∈ runsOf items) : run.1 ∈ items ∧ 0 < run.2 := by
  induction items using runsOf.induct with
  | case1 => simp [runsOf] at inside
  | case2 item rest ih =>
    rw [runsOf] at inside
    rcases List.mem_cons.mp inside with rfl | later
    · simp
    · have := ih later
      exact ⟨List.mem_cons_of_mem _ ((List.dropWhile_suffix _).subset this.1), this.2⟩

theorem runsOf_ne_nil {items : List α} (filled : items ≠ []) : runsOf items ≠ [] := by
  cases items with
  | nil => exact absurd rfl filled
  | cons item rest => simp [runsOf]

theorem collapse_mem {marker : ℕ → α} {items : List α} {one : α} (inside : one ∈ collapse marker items) :
    one ∈ items ∨ ∃ count, one = marker count := by
  obtain ⟨run, runs, written⟩ := List.mem_flatMap.mp inside
  unfold writeRun at written
  split at written
  · rcases List.mem_cons.mp written with rfl | marked
    · exact .inl (runsOf_mem runs).1
    · exact .inr ⟨_, List.mem_singleton.mp marked⟩
  · exact .inl (List.mem_singleton.mp written ▸ (runsOf_mem runs).1)

theorem collapse_ne_nil {marker : ℕ → α} {items : List α} (filled : items ≠ []) : collapse marker items ≠ [] := by
  obtain ⟨run, rest, same⟩ := List.exists_cons_of_ne_nil (runsOf_ne_nil filled)
  unfold collapse writeRun
  rw [same, List.flatMap_cons]
  split <;> simp

theorem runsOf_getLast? (items : List α) : (runsOf items).getLast?.map Prod.fst = items.getLast? := by
  fun_induction runsOf items with
  | case1 => rfl
  | case2 item rest ih =>
    have whole := List.takeWhile_append_dropWhile (p := fun other => decide (other = item)) (l := rest)
    cases later : rest.dropWhile fun other => decide (other = item) with
    | nil =>
      rw [later, List.append_nil] at whole
      have same : ∀ other ∈ item :: rest, other = item := by
        intro other inside
        rcases List.mem_cons.mp inside with rfl | further
        · rfl
        · rw [← whole] at further
          simpa using List.mem_takeWhile_imp further
      rw [runsOf, List.getLast?_singleton, Option.map_some]
      obtain ⟨last, found⟩ : ∃ last, (item :: rest).getLast? = some last := ⟨_, List.getLast?_eq_some_getLast (by simp)⟩
      rw [found, same last (List.mem_of_getLast? found)]
    | cons next more =>
      rw [later] at ih whole
      obtain ⟨run, runs, split⟩ := List.exists_cons_of_ne_nil (@runsOf_ne_nil α _ (next :: more) (by simp))
      rw [split] at ih ⊢
      obtain ⟨last, found⟩ : ∃ last, (next :: more).getLast? = some last := ⟨_, List.getLast?_eq_some_getLast (by simp)⟩
      rw [List.getLast?_cons_cons, ih, ← whole, ← List.cons_append, List.getLast?_append, found, Option.some_or]

theorem collapse_last {marker : ℕ → α} {items : List α} {good : α → Prop} (marked : ∀ count, good (marker count))
    (last : ∀ item ∈ items.getLast?, good item) : ∀ one ∈ (collapse marker items).getLast?, good one := by
  intro one found
  have same := runsOf_getLast? items
  unfold collapse at found
  rcases List.eq_nil_or_concat (runsOf items) with none_ | ⟨front, run, split⟩
  · simp [none_] at found
  · rw [List.concat_eq_append] at split
    rw [split, List.getLast?_concat, Option.map_some] at same
    have kept := last run.1 same.symm
    rw [split, List.flatMap_append, List.getLast?_append, List.flatMap_singleton] at found
    by_cases many : 1 < run.2
    · simp only [writeRun, many, if_true, List.getLast?_cons_cons, List.getLast?_singleton, Option.some_or, Option.mem_some] at found
      exact found ▸ marked run.2
    · simp only [writeRun, many, if_false, List.getLast?_singleton, Option.some_or, Option.mem_some] at found
      exact found ▸ kept

omit [DecidableEq α] in
theorem expand_cons {times : α → Option ℕ} {item next : α} {rest : List α} (plain : times next = none) :
    expand times (item :: next :: rest) = item :: expand times (next :: rest) := by
  simp [expand, plain]

omit [DecidableEq α] in
theorem expand_writeRuns {marker : ℕ → α} {times : α → Option ℕ} (read : ∀ count, times (marker count) = some count)
    (runs : List (α × ℕ)) (plain : ∀ run ∈ runs, times run.1 = none ∧ 0 < run.2) :
    expand times (runs.flatMap (writeRun marker)) = runs.flatMap fun run => List.replicate run.2 run.1 := by
  induction runs with
  | nil => rfl
  | cons run rest ih =>
    have later := ih fun other inside => plain other (List.mem_cons_of_mem _ inside)
    have counted := (plain run List.mem_cons_self).2
    rw [List.flatMap_cons, List.flatMap_cons, ← later]
    by_cases many : 1 < run.2
    · simp [writeRun, many, expand, read]
    · have once : run.2 = 1 := by omega
      rw [writeRun, if_neg many, once, List.replicate_one, List.singleton_append, List.singleton_append]
      -- what follows a single item begins with an item, not with a marker
      cases rest with
      | nil => rfl
      | cons next rest =>
        have unmarked := (plain next (by simp)).1
        have first : ∃ more, (next :: rest).flatMap (writeRun marker) = next.1 :: more := by
          rw [List.flatMap_cons, writeRun]
          split
          · exact ⟨_, rfl⟩
          · exact ⟨_, rfl⟩
        obtain ⟨more, same⟩ := first
        rw [same, expand_cons unmarked]

theorem expand_collapse {marker : ℕ → α} {times : α → Option ℕ} (read : ∀ count, times (marker count) = some count)
    {items : List α} (plain : ∀ item ∈ items, times item = none) : expand times (collapse marker items) = items := by
  unfold collapse
  rw [expand_writeRuns read, runsOf_items]
  exact fun run inside => ⟨plain _ (runsOf_mem inside).1, (runsOf_mem inside).2⟩

end Runs

inductive Piece (α : Type) where
  | item (value : α)
  | copy (size distance : ℕ)

def Piece.write (marker : ℕ → ℕ → α) : Piece α → α
  | .item value => value
  | .copy size distance => marker size distance

/-- The items before a place say which items a copy stands for. -/
inductive Folds : List α → List α → List (Piece α) → Prop where
  | done (seen : List α) : Folds seen [] []
  | item {seen ahead : List α} {value : α} {pieces : List (Piece α)} (rest : Folds (seen ++ [value]) ahead pieces) :
      Folds seen (value :: ahead) (.item value :: pieces)
  | copy {seen block ahead : List α} {size distance : ℕ} {pieces : List (Piece α)} (short : size ≤ distance)
      (back : distance ≤ seen.length) (same : (seen.drop (seen.length - distance)).take size = block)
      (rest : Folds (seen ++ block) ahead pieces) : Folds seen (block ++ ahead) (.copy size distance :: pieces)

/-- One more item: a marker that reaches back copies, any other item is itself. -/
def unfoldItem (copies : α → Option (ℕ × ℕ)) (seen : List α) (item : α) : List α :=
  match copies item with
  | some (size, distance) =>
      if distance ≤ seen.length ∧ size ≤ distance then seen ++ (seen.drop (seen.length - distance)).take size
      else seen ++ [item]
  | none => seen ++ [item]

def unfoldBlocks (copies : α → Option (ℕ × ℕ)) (items : List α) : List α := items.foldl (unfoldItem copies) []

section

variable {marker : ℕ → ℕ → α} {seen ahead : List α} {pieces : List (Piece α)}

theorem Folds.unfold {copies : α → Option (ℕ × ℕ)}
    (read : ∀ size distance, copies (marker size distance) = some (size, distance)) (folds : Folds seen ahead pieces)
    (plain : ∀ item ∈ ahead, copies item = none) :
    (pieces.map (Piece.write marker)).foldl (unfoldItem copies) seen = seen ++ ahead := by
  induction folds with
  | done seen => simp
  | @item seen ahead value pieces _ ih =>
    have unmarked := plain value List.mem_cons_self
    rw [List.map_cons, List.foldl_cons, Piece.write, unfoldItem, unmarked]
    rw [ih fun other inside => plain other (List.mem_cons_of_mem _ inside)]
    simp
  | @copy seen block ahead size distance pieces short back same _ ih =>
    rw [List.map_cons, List.foldl_cons, Piece.write, unfoldItem, read]
    simp only [back, short, and_self, if_true, same]
    rw [ih fun other inside => plain other (List.mem_append_right _ inside), List.append_assoc]

theorem Folds.mem_write (folds : Folds seen ahead pieces) {one : α} (inside : one ∈ pieces.map (Piece.write marker)) :
    one ∈ ahead ∨ ∃ size distance, one = marker size distance := by
  induction folds with
  | done => simp at inside
  | item _ ih =>
    rcases List.mem_cons.mp inside with rfl | later
    · exact .inl List.mem_cons_self
    · exact (ih later).imp (List.mem_cons_of_mem _) id
  | copy _ _ _ _ ih =>
    rcases List.mem_cons.mp inside with rfl | later
    · exact .inr ⟨_, _, rfl⟩
    · exact (ih later).imp (List.mem_append_right _) id

theorem Folds.last (folds : Folds seen ahead pieces) {good : α → Prop}
    (marked : ∀ size distance, good (marker size distance)) (last : ∀ item ∈ ahead.getLast?, good item) :
    ∀ one ∈ (pieces.map (Piece.write marker)).getLast?, good one := by
  induction folds with
  | done => simp
  | @item seen ahead value pieces rest ih =>
    cases rest with
    | done =>
      intro one found
      exact last one found
    | item further =>
      rw [List.getLast?_cons_cons] at last
      exact ih last
    | copy short back same further =>
      rw [List.map_cons, List.map_cons, List.getLast?_cons_cons]
      refine ih fun item found => last item ?_
      rw [List.getLast?_cons, Option.mem_def.mp found]
      rfl
  | @copy seen block ahead size distance pieces short back same rest ih =>
    cases rest with
    | done =>
      intro one found
      cases found
      exact marked size distance
    | item further =>
      rw [List.map_cons, List.map_cons, List.getLast?_cons_cons]
      refine ih fun item found => last item ?_
      rw [List.getLast?_append, Option.mem_def.mp found]
      rfl
    | copy short back same further =>
      rw [List.map_cons, List.map_cons, List.getLast?_cons_cons]
      refine ih fun item found => last item ?_
      rw [List.getLast?_append, Option.mem_def.mp found]
      rfl

end

end

end SpaceApp.Foundation
