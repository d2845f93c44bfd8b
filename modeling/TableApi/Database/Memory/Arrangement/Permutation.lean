import TableApi.Database.Memory.Arrangement

/-!
# Arranging loses nothing

Arranging items only changes the order in which they stand, whatever the relation is, unless it
breaks off.  The main statement is `arrange?_perm`; each step on the way has a lemma of the same
kind.
-/

namespace TableApi.Arrangement

variable {α : Type}

/-! ## Pieces -/

theorem insertBehind_perm (precedes : α → α → Bool) (item : α) (items : List α) :
    (insertBehind precedes item items).Perm (item :: items) := by
  induction items with
  | nil => exact .refl _
  | cons last others ih =>
      rw [insertBehind]
      split
      · exact (ih.cons last).trans (.swap item last others)
      · exact .refl _

theorem insertAll_perm (precedes : α → α → Bool) (arranged items : List α) :
    (insertAll precedes arranged items).Perm (arranged ++ items) := by
  have step : ∀ (items reversed : List α),
      (items.foldl (fun reversed item => insertBehind precedes item reversed) reversed).Perm
        (items.reverse ++ reversed) := by
    intro items
    induction items with
    | nil => exact fun _ => .refl _
    | cons item items ih =>
        intro reversed
        rw [List.foldl_cons, List.reverse_cons, List.append_assoc]
        exact (ih _).trans (.append_left _ (insertBehind_perm precedes item reversed))
  refine (List.reverse_perm _).trans ((step items arranged.reverse).trans ?_)
  rw [← List.reverse_append]
  exact List.reverse_perm _

theorem pair_perm (precedes : α → α → Bool) (first second : α) :
    [(pair precedes first second).1, (pair precedes first second).2].Perm [first, second] := by
  unfold pair
  split
  · exact .swap _ _ _
  · exact .refl _

theorem four_perm (precedes : α → α → Bool) (first second third fourth : α) :
    (four precedes first second third fourth).Perm [first, second, third, fourth] := by
  classical
  have ends (low high otherLow otherHigh : α) (isLower isHigher : Bool) :
      let left := if isLower then low else if isHigher then high else otherLow
      let right := if !isHigher then otherHigh else if isLower then high else otherLow
      [if isLower then otherLow else low, (pair precedes left right).1,
        (pair precedes left right).2, if isHigher then otherHigh else high].Perm
          [low, high, otherLow, otherHigh] := by
    cases isLower <;> cases isHigher <;> simp [pair] <;> split <;> grind
  exact (ends ..).trans ((pair_perm precedes first second).append (pair_perm precedes third fourth))

theorem half_perm (precedes : α → α → Bool) (isLong : Bool) (items : List α) :
    (half precedes isLong items).Perm items := by
  rw [half.eq_def]
  split
  · exact (insertAll_perm _ _ _).trans ((four_perm _ _ _ _ _).append_right _)
  · exact insertAll_perm _ _ _

theorem mergeFront_perm (precedes : α → α → Bool) (count : Nat) (left right : List α)
    (fitsLeft : count ≤ left.length) (fitsRight : count ≤ right.length) :
    (mergeFront precedes count left right).2 ≤ count ∧
      (mergeFront precedes count left right).1.Perm
        (left.take (mergeFront precedes count left right).2 ++
          right.take (count - (mergeFront precedes count left right).2)) := by
  induction count generalizing left right with
  | zero => simp [mergeFront]
  | succ count ih =>
      cases left with
      | nil => simp at fitsLeft
      | cons first lefts =>
          cases right with
          | nil => simp at fitsRight
          | cons second rights =>
              rw [mergeFront]
              simp only [List.length_cons, Nat.add_le_add_iff_right] at fitsLeft fitsRight
              split
              · obtain ⟨bound, perm⟩ := ih (first :: lefts) rights
                  (Nat.le_succ_of_le fitsLeft) fitsRight
                refine ⟨Nat.le_succ_of_le bound, ?_⟩
                rw [Nat.succ_sub bound, List.take_succ_cons]
                exact (perm.cons second).trans List.perm_middle.symm
              · obtain ⟨bound, perm⟩ := ih lefts (second :: rights) fitsLeft
                  (Nat.le_succ_of_le fitsRight)
                refine ⟨Nat.succ_le_succ bound, ?_⟩
                rw [Nat.add_sub_add_right, List.take_succ_cons]
                exact perm.cons first

theorem mergeBack_perm (precedes : α → α → Bool) (count : Nat) (left right : List α)
    (fitsLeft : count ≤ left.length) (fitsRight : count ≤ right.length) :
    (mergeBack precedes count left right).2 ≤ count ∧
      (mergeBack precedes count left right).1.Perm
        (left.take (mergeBack precedes count left right).2 ++
          right.take (count - (mergeBack precedes count left right).2)) := by
  induction count generalizing left right with
  | zero => simp [mergeBack]
  | succ count ih =>
      cases left with
      | nil => simp at fitsLeft
      | cons first lefts =>
          cases right with
          | nil => simp at fitsRight
          | cons second rights =>
              rw [mergeBack]
              simp only [List.length_cons, Nat.add_le_add_iff_right] at fitsLeft fitsRight
              split
              · obtain ⟨bound, perm⟩ := ih lefts (second :: rights) fitsLeft
                  (Nat.le_succ_of_le fitsRight)
                refine ⟨Nat.succ_le_succ bound, ?_⟩
                rw [Nat.add_sub_add_right, List.take_succ_cons]
                exact perm.cons first
              · obtain ⟨bound, perm⟩ := ih (first :: lefts) rights
                  (Nat.le_succ_of_le fitsLeft) fitsRight
                refine ⟨Nat.le_succ_of_le bound, ?_⟩
                rw [Nat.succ_sub bound, List.take_succ_cons]
                exact (perm.cons second).trans List.perm_middle.symm

/-- A list is made of a start, a middle and an end whose lengths add up to its own. -/
theorem take_append_middle (items : List α) (start middle stop : Nat)
    (whole : start + middle + stop = items.length) :
    items.take start ++ ((items.drop start).take middle ++ (items.reverse.take stop).reverse) =
      items := by
  rw [List.take_reverse, List.reverse_reverse]
  have rest : items.length - stop = start + middle := by omega
  rw [rest, ← List.drop_drop, List.take_append_drop, List.take_append_drop]

theorem mergeEnds?_perm {precedes : α → α → Bool} {left right merged : List α}
    (fits : left.length ≤ right.length) (met : mergeEnds? precedes left right = some merged) :
    merged.Perm (left ++ right) := by
  obtain ⟨bound, front⟩ := mergeFront_perm precedes left.length left right (Nat.le_refl _) fits
  obtain ⟨boundBack, back⟩ := mergeBack_perm precedes left.length left.reverse right.reverse
    (by simp) (by simpa using fits)
  simp only [mergeEnds?] at met
  generalize (mergeFront precedes left.length left right).2 = taken at *
  generalize (mergeBack precedes left.length left.reverse right.reverse).2 = takenBack at *
  generalize hmiddle : (if (decide (left.length < right.length) &&
    decide (taken + takenBack < left.length)) = true then 1 else 0) = leftMiddle at met
  have small : leftMiddle ≤ right.length - left.length := by
    subst hmiddle
    split <;> simp_all; omega
  split at met
  next whole =>
    obtain rfl := Option.some.inj met
    have leftWhole := take_append_middle left taken leftMiddle takenBack whole
    have rightWhole := take_append_middle right (left.length - taken)
      (right.length - left.length - leftMiddle) (left.length - takenBack) (by omega)
    classical
    rw [List.perm_iff_count]
    intro item
    have frontCount := front.count_eq item
    have backCount := back.count_eq item
    have leftCount := congrArg (List.count item) leftWhole
    have rightCount := congrArg (List.count item) rightWhole
    simp only [List.count_append, List.count_reverse] at *
    omega
  next => simp at met

theorem piece?_perm {precedes : α → α → Bool} {items arranged : List α}
    (met : piece? precedes items = some arranged) : arranged.Perm items := by
  have shorter : (items.take (items.length / 2)).length ≤ (items.drop (items.length / 2)).length := by
    rw [List.length_take, List.length_drop]
    omega
  refine (mergeEnds?_perm ?_ met).trans (((half_perm _ _ _).append (half_perm _ _ _)).trans ?_)
  · rwa [(half_perm _ _ _).length_eq, (half_perm _ _ _).length_eq]
  · rw [List.take_append_drop]

/-! ## Runs -/

namespace Run

theorem merge_perm (precedes : α → α → Bool) (left right : List α) :
    (merge precedes left right).Perm (left ++ right) := by
  unfold merge
  split
  · exact List.merge_perm_append _
  · refine (List.reverse_perm _).trans ((List.merge_perm_append _).trans ?_)
    exact ((List.reverse_perm right).append (List.reverse_perm left)).trans List.perm_append_comm

/-- A method that loses no item and adds none. -/
def Keeps (method : List α → Option (List α)) : Prop :=
  ∀ items arranged, method items = some arranged → arranged.Perm items

variable {precedes : α → α → Bool} {method : List α → Option (List α)}

theorem arranged?_perm (keeps : Keeps method) {run : Run α} {arranged : List α}
    (found : run.arranged? method = some arranged) : arranged.Perm run.items := by
  unfold arranged? at found
  split at found
  · obtain rfl := Option.some.inj found
    exact .refl _
  · exact keeps _ _ found

theorem join?_perm (keeps : Keeps method) {left right joined : Run α}
    (found : join? precedes method left right = some joined) :
    joined.items.Perm (left.items ++ right.items) := by
  unfold join? at found
  split at found
  · obtain ⟨lefts, first, rest⟩ := Option.bind_eq_some_iff.1 found
    obtain ⟨rights, second, merged⟩ := Option.bind_eq_some_iff.1 rest
    obtain rfl := Option.some.inj merged
    exact (merge_perm _ _ _).trans
      ((arranged?_perm keeps first).append (arranged?_perm keeps second))
  · obtain rfl := Option.some.inj found
    exact .refl _

theorem found?_perm {least : Nat} {items found : List α}
    (h : found? precedes least items = some found) :
    found.Perm (items.take found.length) := by
  simp only [found?] at h
  split at h
  · simp at h
  · split at h
    · obtain rfl := Option.some.inj h
      rw [List.length_reverse, List.length_take, ← List.take_eq_take_min]
      exact List.reverse_perm _
    · obtain rfl := Option.some.inj h
      rw [List.length_take, ← List.take_eq_take_min]

theorem first?_perm {least : Nat} {eager : Bool} {items : List α} {run : Run α}
    (found : first? precedes least eager items = some run) :
    run.items.Perm (items.take run.items.length) := by
  unfold first? at found
  split at found
  next long =>
    obtain rfl := Option.some.inj found
    exact found?_perm long
  next =>
    split at found
    · obtain ⟨arranged, made, rfl⟩ := Option.map_eq_some_iff.1 found
      have perm := piece?_perm made
      rw [perm.length_eq, List.length_take, ← List.take_eq_take_min]
      exact perm
    · obtain rfl := Option.some.inj found
      rw [List.length_take, ← List.take_eq_take_min]

theorem cut?_perm {least : Nat} {eager : Bool} {fuel : Nat} {items : List α} {runs : List (Run α)}
    (found : cut? precedes least eager fuel items = some runs) :
    (runs.flatMap Run.items).Perm items := by
  fun_induction cut? precedes least eager fuel items generalizing runs with
  | case1 =>
      obtain rfl := Option.some.inj found
      exact .refl _
  | case2 =>
      obtain rfl := Option.some.inj found
      simp
  | case3 fuel items nonempty ih =>
      obtain ⟨run, starts, rest⟩ := Option.bind_eq_some_iff.1 found
      obtain ⟨others, cuts, returned⟩ := Option.bind_eq_some_iff.1 rest
      obtain rfl := Option.some.inj returned
      rw [List.flatMap_cons]
      exact ((first?_perm starts).append (ih run cuts)).trans (by rw [List.take_append_drop])

theorem collapse?_perm (keeps : Keeps method) {depth : Nat} {last joined : Run α}
    {before others : List (Run α × Nat)}
    (found : collapse? precedes method depth last before = some (joined, others)) :
    (joined.items ++ others.flatMap (Run.items ∘ Prod.fst)).Perm
      (last.items ++ before.flatMap (Run.items ∘ Prod.fst)) := by
  induction before generalizing last with
  | nil =>
      cases found
      exact .refl _
  | cons entry rest ih =>
      rw [collapse?] at found
      split at found
      · obtain ⟨both, joins, collapses⟩ := Option.bind_eq_some_iff.1 found
        refine (ih collapses).trans (((join?_perm keeps joins).append_right _).trans ?_)
        rw [List.flatMap_cons, ← List.append_assoc]
        exact List.perm_append_comm.append_right _
      · cases found
        exact .refl _

theorem collapse?_zero {last joined : Run α} {before others : List (Run α × Nat)}
    (found : collapse? precedes method 0 last before = some (joined, others)) : others = [] := by
  induction before generalizing last with
  | nil =>
      cases found
      rfl
  | cons entry rest ih =>
      rw [collapse?, if_pos (Nat.zero_le _)] at found
      obtain ⟨both, _, collapses⟩ := Option.bind_eq_some_iff.1 found
      exact ih collapses

theorem joinAll?_perm (keeps : Keeps method) {total middle : Nat} {before : List (Run α × Nat)}
    {last joined : Run α} {rest : List (Run α)}
    (found : joinAll? precedes method total middle before last rest = some joined) :
    joined.items.Perm
      ((last.items ++ before.flatMap (Run.items ∘ Prod.fst)) ++ rest.flatMap Run.items) := by
  induction rest generalizing middle before last with
  | nil =>
      obtain ⟨⟨run, others⟩, collapses, rfl⟩ := Option.map_eq_some_iff.1 found
      have perm := collapse?_perm keeps collapses
      rw [collapse?_zero collapses, List.flatMap_nil, List.append_nil] at perm
      rw [List.flatMap_nil, List.append_nil]
      exact perm
  | cons next rest ih =>
      obtain ⟨⟨run, others⟩, collapses, joins⟩ := Option.bind_eq_some_iff.1 found
      refine (ih joins).trans (.trans ?_ (.of_eq (List.append_assoc ..)))
      exact (List.perm_append_comm.trans
        ((collapse?_perm keeps collapses).append_right _)).append_right _

theorem arrange?_perm (keeps : Keeps method) {eager : Bool} {items arranged : List α}
    (found : arrange? precedes method eager items = some arranged) : arranged.Perm items := by
  obtain ⟨runs, cuts, rest⟩ := Option.bind_eq_some_iff.1 found
  have whole := cut?_perm cuts
  split at rest
  · obtain rfl := Option.some.inj rest
    exact .refl _
  next run others =>
    obtain ⟨joined, joins, arranges⟩ := Option.bind_eq_some_iff.1 rest
    refine (arranged?_perm keeps arranges).trans ((joinAll?_perm keeps joins).trans ?_)
    rw [List.flatMap_nil, List.append_nil]
    exact whole

end Run

/-! ## Partitions -/

theorem partitionAt_perm (goesLeft : α → Bool) {place : Nat} (toLeft : Bool) {items : List α} :
    ((partitionAt goesLeft place toLeft items).1 ++
      (partitionAt goesLeft place toLeft items).2).Perm items := by
  classical
  have whole :
      items.take place ++ ((items.drop place).take 1 ++ items.drop (place + 1)) = items := by
    rw [← List.drop_drop, List.take_append_drop, List.take_append_drop]
  rw [List.perm_iff_count]
  intro item
  have wholeCount := congrArg (List.count item) whole
  have split (items : List α) := (List.filter_append_perm goesLeft items).count_eq item
  have first := split (items.take place)
  have second := split (items.drop (place + 1))
  simp only [partitionAt, List.partition_eq_filter_filter]
  cases toLeft <;> simp only [List.count_append] at * <;> simp [Function.comp_def] at * <;> omega

theorem byPartition?_perm {precedes : α → α → Bool} {limit : Nat} {bound : Option α}
    {items arranged : List α} (found : byPartition? precedes limit bound items = some arranged) :
    arranged.Perm items := by
  induction limit generalizing bound items arranged with
  | zero =>
      rw [byPartition?] at found
      split at found
      · exact piece?_perm found
      · refine Run.arrange?_perm (fun items same kept => ?_) found
        obtain rfl := Option.some.inj kept
        exact .refl _
  | succ limit ih =>
      rw [byPartition?] at found
      split at found
      · obtain rfl := Option.some.inj found
        exact .refl _
      · dsimp only at found
        split at found
        · exact piece?_perm found
        · split at found
          · obtain ⟨others, parts, rfl⟩ := Option.map_eq_some_iff.1 found
            exact ((ih parts).append_left _).trans (partitionAt_perm _ _)
          · obtain ⟨lefts, before, rest⟩ := Option.bind_eq_some_iff.1 found
            obtain ⟨rights, behind, returned⟩ := Option.bind_eq_some_iff.1 rest
            obtain rfl := Option.some.inj returned
            exact ((ih before).append (ih behind)).trans (partitionAt_perm _ _)

/-! ## All items -/

/-- Arranging loses no item and adds none. -/
theorem arrange?_perm {precedes : α → α → Bool} {items arranged : List α}
    (found : arrange? precedes items = some arranged) : arranged.Perm items := by
  unfold arrange? at found
  split at found
  · obtain rfl := Option.some.inj found
    exact insertAll_perm precedes [] items
  · exact Run.arrange?_perm (fun _ _ kept => byPartition?_perm kept) found

end TableApi.Arrangement
