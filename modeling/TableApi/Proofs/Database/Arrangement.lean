import TableApi.Database.Memory.Arrangement.Permutation

/-!
# Orders are not found to be none

The arrangement of items breaks off only where two halves of a piece are merged from both ends and
the ends do not meet.  Halves are arranged already, and of two arranged lists each end takes the
items on one side of a `Cut`: all of them precede or may precede all the items on the other side.
For an order the cuts of two lists lie one behind the other, so cuts with as many items before them
are the same, and the ends meet.

Everything else in the arrangement of items passes on what its parts give, so items are arranged
whenever the relation orders them: `arrange?_of_orders`.
-/

namespace TableApi.Arrangement

variable {α : Type} {precedes : α → α → Bool} {items : List α}

/-- A relation orders items: of two at most one precedes the other, and what may follow an item may
follow all that the item may follow. -/
structure Orders (precedes : α → α → Bool) (items : List α) : Prop where
  asymm : ∀ first ∈ items, ∀ second ∈ items,
    precedes first second = true → precedes second first = false
  trans : ∀ first ∈ items, ∀ second ∈ items, ∀ third ∈ items,
    precedes first second = false → precedes second third = false → precedes first third = false

/-- No item precedes one that stands before it. -/
def Arranged (precedes : α → α → Bool) (items : List α) : Prop :=
  items.Pairwise fun before behind => precedes behind before = false

namespace Orders

theorem mono {part : List α} (orders : Orders precedes items) (within : part ⊆ items) :
    Orders precedes part where
  asymm first first_mem second second_mem :=
    orders.asymm first (within first_mem) second (within second_mem)
  trans first first_mem second second_mem third third_mem :=
    orders.trans first (within first_mem) second (within second_mem) third (within third_mem)

theorem swap (orders : Orders precedes items) : Orders (flip precedes) items where
  asymm first first_mem second second_mem := orders.asymm second second_mem first first_mem
  trans first first_mem second second_mem third third_mem before behind :=
    orders.trans third third_mem second second_mem first first_mem behind before

/-- What precedes an item precedes what the item may precede. -/
theorem precedes_of_not {first second third : α} (orders : Orders precedes items)
    (first_mem : first ∈ items) (second_mem : second ∈ items) (third_mem : third ∈ items)
    (before : precedes first second = true) (behind : precedes third second = false) :
    precedes first third = true := by
  rw [← Bool.not_eq_false]
  intro follows
  have apart := orders.trans first first_mem third third_mem second second_mem follows behind
  rw [before] at apart
  cases apart

end Orders

theorem arranged_reverse : Arranged (flip precedes) items.reverse ↔ Arranged precedes items :=
  List.pairwise_reverse

/-! ## Inserting -/

theorem insertBehind_arranged {item : α} {reversed : List α}
    (orders : Orders precedes (item :: reversed)) (arranged : Arranged (flip precedes) reversed) :
    Arranged (flip precedes) (insertBehind precedes item reversed) := by
  induction reversed with
  | nil => exact List.pairwise_singleton _ _
  | cons last others ih =>
      have later := (List.pairwise_cons.1 arranged).1
      rw [insertBehind]
      split
      next before =>
        refine List.pairwise_cons.2 ⟨fun other member => ?_, ih (orders.mono ?_) arranged.of_cons⟩
        · rcases List.mem_cons.1 ((insertBehind_perm precedes item others).subset member) with
            rfl | member
          · exact orders.asymm other (by simp) last (by simp) before
          · exact later _ member
        · exact List.cons_subset_cons item (List.subset_cons_self last others)
      next behind =>
        rw [Bool.not_eq_true] at behind
        refine List.pairwise_cons.2 ⟨fun other member => ?_, arranged⟩
        rcases List.mem_cons.1 member with rfl | inside
        · exact behind
        · exact orders.trans item (by simp) last (by simp) other (by simp [inside]) behind
            (later _ inside)

/-- Items that are inserted in turn; what is arranged already is kept in reverse. -/
theorem foldl_insertBehind_arranged {reversed : List α}
    (orders : Orders precedes (reversed ++ items)) (arranged : Arranged (flip precedes) reversed) :
    Arranged (flip precedes)
      (items.foldl (fun reversed item => insertBehind precedes item reversed) reversed) := by
  induction items generalizing reversed with
  | nil => exact arranged
  | cons item items ih =>
      have same := insertBehind_perm precedes item reversed
      refine ih (orders.mono ?_) (insertBehind_arranged (orders.mono ?_) arranged)
      · exact ((same.append_right items).trans List.perm_middle.symm).subset
      · exact List.cons_subset.2 ⟨by simp, List.subset_append_left _ _⟩

theorem insertAll_arranged {arranged : List α} (orders : Orders precedes (arranged ++ items))
    (before : Arranged precedes arranged) :
    Arranged precedes (insertAll precedes arranged items) := by
  have reversed := (List.reverse_perm arranged).append_right items
  rw [insertAll, ← arranged_reverse, List.reverse_reverse]
  exact foldl_insertBehind_arranged (orders.mono reversed.subset) (arranged_reverse.2 before)

/-! ## Pieces -/

/-- Of two items the one that comes first may precede the other. -/
theorem pair_arranged {first second : α} (orders : Orders precedes [first, second]) :
    precedes (pair precedes first second).2 (pair precedes first second).1 = false := by
  unfold pair
  split
  next before => exact orders.asymm second (by simp) first (by simp) before
  next behind => simpa using behind

/-- Two items between a first and a last one. -/
theorem between_arranged {least left right greatest : α}
    (orders : Orders precedes [least, left, right, greatest])
    (leastLeft : precedes left least = false) (leastRight : precedes right least = false)
    (leftGreatest : precedes greatest left = false)
    (rightGreatest : precedes greatest right = false) :
    Arranged precedes
      [least, (pair precedes left right).1, (pair precedes left right).2, greatest] := by
  have inner : Orders precedes [left, right] := orders.mono (by simp)
  have middle := pair_arranged inner
  have ends := orders.trans greatest (by simp) left (by simp) least (by simp) leftGreatest leastLeft
  unfold pair at middle ⊢
  split at middle <;> simp_all [Arranged]

theorem four_arranged {first second third fourth : α}
    (orders : Orders precedes [first, second, third, fourth]) :
    Arranged precedes (four precedes first second third fourth) := by
  have pairs := (pair_perm precedes first second).append (pair_perm precedes third fourth)
  have firsts : Orders precedes [first, second] := orders.mono (by simp)
  have lasts : Orders precedes [third, fourth] := orders.mono (by simp)
  have rising := pair_arranged firsts
  have otherRising := pair_arranged lasts
  replace orders := orders.mono pairs.subset
  simp only [four]
  generalize pair precedes first second = low at *
  generalize pair precedes third fourth = other at *
  rcases low with ⟨low, high⟩
  rcases other with ⟨otherLow, otherHigh⟩
  dsimp only at *
  have lowAsymm := orders.asymm otherLow (by simp) low (by simp)
  have highAsymm := orders.asymm otherHigh (by simp) high (by simp)
  cases lower : precedes otherLow low <;> cases higher : precedes otherHigh high
  case false.false =>
    exact between_arranged (orders.mono (by simp)) rising lower higher otherRising
  case false.true =>
    exact between_arranged (orders.mono (by simp)) lower
      (orders.trans otherHigh (by simp) otherLow (by simp) low (by simp) otherRising lower)
      (orders.trans high (by simp) otherHigh (by simp) otherLow (by simp) (highAsymm higher)
        otherRising)
      (highAsymm higher)
  case true.false =>
    exact between_arranged (orders.mono (by simp)) (lowAsymm lower)
      (orders.trans high (by simp) low (by simp) otherLow (by simp) rising (lowAsymm lower))
      (orders.trans otherHigh (by simp) high (by simp) low (by simp) higher rising) higher
  case true.true =>
    exact between_arranged (orders.mono (by simp)) (lowAsymm lower) otherRising rising
      (highAsymm higher)

theorem half_arranged {isLong : Bool} (orders : Orders precedes items) :
    Arranged precedes (half precedes isLong items) := by
  unfold half
  split
  next first second third fourth rest =>
    refine insertAll_arranged (orders.mono ?_) (four_arranged (orders.mono ?_))
    · exact ((four_perm precedes first second third fourth).append_right rest).subset
    · exact List.subset_append_left [first, second, third, fourth] rest
  next => exact insertAll_arranged orders List.Pairwise.nil

/-! ## Merging from both ends -/

/-- Where two lists can be cut: all items before the cut may precede all items of the other list
behind it, and those of the right list do precede them. -/
structure Cut (precedes : α → α → Bool) (left right : List α) (lefts rights : Nat) : Prop where
  before : ∀ item ∈ left.take lefts, ∀ other ∈ right.drop rights, precedes other item = false
  behind : ∀ other ∈ right.take rights, ∀ item ∈ left.drop lefts, precedes other item = true

/-- Of two cuts the one with fewer items of the left list before it has no more of the right list
before it. -/
theorem Cut.le_of_lt {left right : List α} {lefts rights otherLefts otherRights : Nat}
    (cut : Cut precedes left right lefts rights)
    (cut' : Cut precedes left right otherLefts otherRights)
    (fits : lefts ≤ left.length) (fits' : otherRights ≤ right.length) (fewer : otherLefts < lefts) :
    otherRights ≤ rights := by
  refine Nat.le_of_not_lt fun more => ?_
  have item : otherLefts < left.length := Nat.lt_of_lt_of_le fewer fits
  have other : rights < right.length := Nat.lt_of_lt_of_le more fits'
  have follows := cut.before
    left[otherLefts] (List.mem_take_iff_getElem.2 ⟨otherLefts, by omega, rfl⟩)
    right[rights] (List.mem_drop_iff_getElem.2 ⟨0, by omega, rfl⟩)
  have precedes := cut'.behind
    right[rights] (List.mem_take_iff_getElem.2 ⟨rights, by omega, rfl⟩)
    left[otherLefts] (List.mem_drop_iff_getElem.2 ⟨0, by omega, rfl⟩)
  rw [follows] at precedes
  cases precedes

/-- What is merged from the front lies before a cut. -/
theorem mergeFront_cut {left right : List α} (orders : Orders precedes (left ++ right))
    (arrangedLeft : Arranged precedes left) (arrangedRight : Arranged precedes right) (count : Nat)
    (fitsLeft : count ≤ left.length) (fitsRight : count ≤ right.length) :
    Cut precedes left right (mergeFront precedes count left right).2
      (count - (mergeFront precedes count left right).2) := by
  induction count generalizing left right with
  | zero => constructor <;> simp [mergeFront]
  | succ count ih =>
      cases left with
      | nil => simp at fitsLeft
      | cons first lefts =>
          cases right with
          | nil => simp at fitsRight
          | cons second rights =>
              simp only [List.length_cons, Nat.add_le_add_iff_right] at fitsLeft fitsRight
              rw [mergeFront]
              split
              next before =>
                have fits := Nat.le_succ_of_le fitsLeft
                have bound := (mergeFront_perm precedes count (first :: lefts) rights fits
                  fitsRight).1
                have within := (List.sublist_cons_self second rights).append_left (first :: lefts)
                have rest := ih (orders.mono within.subset) arrangedLeft arrangedRight.of_cons fits
                  fitsRight
                dsimp only
                rw [Nat.succ_sub bound]
                constructor
                · exact rest.before
                · rw [List.take_succ_cons, List.forall_mem_cons]
                  refine ⟨fun item member => ?_, rest.behind⟩
                  rcases List.mem_cons.1 (List.mem_of_mem_drop member) with rfl | inside
                  · exact before
                  · exact orders.precedes_of_not (by simp) (by simp) (by simp [inside]) before
                      ((List.pairwise_cons.1 arrangedLeft).1 item inside)
              next behind =>
                rw [Bool.not_eq_true] at behind
                have rest := ih (orders.mono (by simp)) arrangedLeft.of_cons arrangedRight fitsLeft
                  (Nat.le_succ_of_le fitsRight)
                dsimp only
                rw [Nat.add_sub_add_right]
                constructor
                · rw [List.take_succ_cons, List.forall_mem_cons]
                  refine ⟨fun other member => ?_, rest.before⟩
                  rcases List.mem_cons.1 (List.mem_of_mem_drop member) with rfl | inside
                  · exact behind
                  · exact orders.trans other (by simp [inside]) second (by simp) first (by simp)
                      ((List.pairwise_cons.1 arrangedRight).1 other inside) behind
                · exact rest.behind

/-- To merge from the back is to merge from the front with everything the other way round, so the
items that come from the left list are those that come from the right one there. -/
theorem mergeBack_add_mergeFront (count : Nat) {left right : List α}
    (fitsLeft : count ≤ left.length) (fitsRight : count ≤ right.length) :
    (mergeBack precedes count left right).2 + (mergeFront (flip precedes) count right left).2 =
      count := by
  induction count generalizing left right with
  | zero => rfl
  | succ count ih =>
      cases left with
      | nil => simp at fitsLeft
      | cons first lefts =>
          cases right with
          | nil => simp at fitsRight
          | cons second rights =>
              simp only [List.length_cons, Nat.add_le_add_iff_right] at fitsLeft fitsRight
              rw [mergeBack, mergeFront, flip]
              split
              next =>
                have fits : count ≤ (second :: rights).length := Nat.le_succ_of_le fitsRight
                have rest := ih fitsLeft fits
                dsimp only
                omega
              next =>
                have fits : count ≤ (first :: lefts).length := Nat.le_succ_of_le fitsLeft
                have rest := ih fits fitsRight
                dsimp only
                omega

/-- What is merged from the back lies behind a cut. -/
theorem mergeBack_cut {left right : List α} (orders : Orders precedes (left ++ right))
    (arrangedLeft : Arranged precedes left) (arrangedRight : Arranged precedes right)
    (fits : left.length ≤ right.length) :
    ∃ lefts ≤ left.length, Cut precedes left right lefts (right.length - lefts) ∧
      (mergeBack precedes left.length left.reverse right.reverse).2 + lefts = left.length := by
  have fitsLeft : left.length ≤ left.reverse.length := Nat.le_of_eq List.length_reverse.symm
  have fitsRight : left.length ≤ right.reverse.length := by rwa [List.length_reverse]
  have within : right.reverse ++ left.reverse ⊆ left ++ right := by
    rw [← List.reverse_append]
    exact List.reverse_subset.2 (List.Subset.refl _)
  have cut := mergeFront_cut (orders.swap.mono within) (arranged_reverse.2 arrangedRight)
    (arranged_reverse.2 arrangedLeft) left.length fitsRight fitsLeft
  have bound := (mergeFront_perm (flip precedes) left.length right.reverse left.reverse fitsRight
    fitsLeft).1
  refine ⟨_, bound, ?_, mergeBack_add_mergeFront left.length fitsLeft fitsRight⟩
  generalize (mergeFront (flip precedes) left.length right.reverse left.reverse).2 = lefts at *
  constructor
  · intro item before other behind
    refine cut.before other ?_ item ?_
    · rwa [List.take_reverse, List.mem_reverse]
    · rwa [List.drop_reverse, List.mem_reverse, Nat.sub_sub_self bound]
  · intro other before item behind
    refine cut.behind item ?_ other ?_
    · rwa [List.take_reverse, List.mem_reverse, Nat.sub_sub_self bound]
    · rwa [List.drop_reverse, List.mem_reverse]

/-- The ends meet when two arranged lists are merged by an order. -/
theorem mergeEnds?_of_orders {left right : List α} (orders : Orders precedes (left ++ right))
    (arrangedLeft : Arranged precedes left) (arrangedRight : Arranged precedes right)
    (fits : left.length ≤ right.length) (close : right.length ≤ left.length + 1) :
    ∃ merged, mergeEnds? precedes left right = some merged := by
  have bound := (mergeFront_perm precedes left.length left right (Nat.le_refl _) fits).1
  have front := mergeFront_cut orders arrangedLeft arrangedRight left.length (Nat.le_refl _) fits
  rcases mergeBack_cut orders arrangedLeft arrangedRight fits with ⟨lefts, boundBack, back, rest⟩
  simp only [mergeEnds?]
  generalize (mergeFront precedes left.length left right).2 = taken at *
  generalize (mergeBack precedes left.length left.reverse right.reverse).2 = takenBack at *
  -- Before the cut of the front there are as many items as the left list has, and before that of
  -- the back as many as the right list has.
  have least : taken ≤ lefts := by
    refine Nat.le_of_not_lt fun more => ?_
    have fewer := front.le_of_lt back bound (Nat.sub_le _ _) more
    omega
  have most : lefts ≤ taken + (right.length - left.length) := by
    refine Nat.le_of_not_lt fun more => ?_
    have fewer := back.le_of_lt front boundBack (by omega) (by omega)
    omega
  rw [if_pos]
  · exact ⟨_, rfl⟩
  · split <;> simp_all <;> omega

theorem piece?_of_orders (orders : Orders precedes items) :
    ∃ arranged, piece? precedes items = some arranged := by
  let isLong : Bool := 8 ≤ items.length
  have left := half_perm precedes isLong (items.take (items.length / 2))
  have right := half_perm precedes isLong (items.drop (items.length / 2))
  have whole : half precedes isLong (items.take (items.length / 2)) ++
      half precedes isLong (items.drop (items.length / 2)) ⊆ items := by
    have same := left.append right
    rw [List.take_append_drop] at same
    exact same.subset
  refine mergeEnds?_of_orders (orders.mono whole)
    (half_arranged (orders.mono (List.take_subset _ _)))
    (half_arranged (orders.mono (List.drop_subset _ _))) ?_ ?_
  all_goals
    rw [left.length_eq, right.length_eq, List.length_take, List.length_drop]
    omega

/-! ## Runs -/

namespace Run

/-- A method that arranges all parts of some items. -/
def Completes (method : List α → Option (List α)) (items : List α) : Prop :=
  ∀ part ⊆ items, ∃ arranged, method part = some arranged

variable {method : List α → Option (List α)}

theorem first?_of_orders (orders : Orders precedes items) (least : Nat) (eager : Bool) :
    ∃ run, first? precedes least eager items = some run := by
  unfold first?
  split
  · exact ⟨_, rfl⟩
  · split
    · rcases piece?_of_orders (orders.mono (List.take_subset longestPiece items)) with
        ⟨arranged, made⟩
      exact ⟨_, by rw [made]; rfl⟩
    · exact ⟨_, rfl⟩

theorem cut?_of_orders (orders : Orders precedes items) (least : Nat) (eager : Bool) (fuel : Nat) :
    ∃ runs, cut? precedes least eager fuel items = some runs := by
  fun_induction cut? precedes least eager fuel items with
  | case1 => exact ⟨_, rfl⟩
  | case2 => exact ⟨_, rfl⟩
  | case3 fuel items nonempty ih =>
      rcases first?_of_orders orders least eager with ⟨run, starts⟩
      rcases ih run (orders.mono (List.drop_subset _ _)) with ⟨runs, cuts⟩
      refine ⟨run :: runs, ?_⟩
      simp [starts, cuts]

theorem arranged?_of_completes (completes : Completes method items) {run : Run α}
    (within : run.items ⊆ items) : ∃ arranged, run.arranged? method = some arranged := by
  unfold arranged?
  split
  · exact ⟨_, rfl⟩
  · exact completes run.items within

theorem join?_of_completes (precedes : α → α → Bool) (completes : Completes method items)
    {left right : Run α} (lefts : left.items ⊆ items) (rights : right.items ⊆ items) :
    ∃ joined, join? precedes method left right = some joined := by
  unfold join?
  split
  · rcases arranged?_of_completes completes lefts with ⟨first, arranged⟩
    rcases arranged?_of_completes completes rights with ⟨second, arrangedToo⟩
    exact ⟨_, by rw [arranged, arrangedToo]; rfl⟩
  · exact ⟨_, rfl⟩

theorem collapse?_of_completes (precedes : α → α → Bool) (keeps : Keeps method)
    (completes : Completes method items) (depth : Nat) {last : Run α} {before : List (Run α × Nat)}
    (within : last.items ++ before.flatMap (Run.items ∘ Prod.fst) ⊆ items) :
    ∃ joined others, collapse? precedes method depth last before = some (joined, others) := by
  induction before generalizing last with
  | nil => exact ⟨_, _, rfl⟩
  | cons entry rest ih =>
      rw [collapse?]
      split
      · rw [List.flatMap_cons, List.append_subset, List.append_subset] at within
        rcases within with ⟨lasts, firsts, others⟩
        rcases join?_of_completes precedes completes firsts lasts with
          ⟨joined, joins⟩
        have both : joined.items ⊆ items :=
          List.Subset.trans (join?_perm keeps joins).subset (List.append_subset.2 ⟨firsts, lasts⟩)
        rcases ih (List.append_subset.2 ⟨both, others⟩) with ⟨run, left, collapses⟩
        exact ⟨run, left, by rw [joins]; exact collapses⟩
      · exact ⟨_, _, rfl⟩

theorem joinAll?_of_completes (precedes : α → α → Bool) (keeps : Keeps method)
    (completes : Completes method items) (total middle : Nat) {before : List (Run α × Nat)}
    {last : Run α} {rest : List (Run α)}
    (within : (last.items ++ before.flatMap (Run.items ∘ Prod.fst)) ++ rest.flatMap Run.items ⊆
      items) : ∃ joined, joinAll? precedes method total middle before last rest = some joined := by
  induction rest generalizing middle before last with
  | nil =>
      rw [List.flatMap_nil, List.append_nil] at within
      rcases collapse?_of_completes precedes keeps completes 0 within with
        ⟨joined, others, collapses⟩
      exact ⟨joined, by rw [joinAll?, collapses]; rfl⟩
  | cons next rest ih =>
      rcases List.append_subset.1 within with ⟨front, behind⟩
      rcases List.append_subset.1 behind with ⟨nexts, later⟩
      let cut := depth total (middle - last.items.length) middle (middle + next.items.length)
      rcases collapse?_of_completes precedes keeps completes cut front with
        ⟨joined, others, collapses⟩
      have left : ((joined, cut) :: others).flatMap (Run.items ∘ Prod.fst) ⊆ items :=
        List.Subset.trans (collapse?_perm keeps collapses).subset front
      rcases ih (middle + next.items.length)
        (List.append_subset.2 ⟨List.append_subset.2 ⟨nexts, left⟩, later⟩) with ⟨whole, joins⟩
      refine ⟨whole, ?_⟩
      rw [joinAll?]
      exact Option.bind_eq_some_iff.2 ⟨_, collapses, joins⟩

theorem arrange?_of_completes (orders : Orders precedes items) (keeps : Keeps method)
    (completes : Completes method items) (eager : Bool) :
    ∃ arranged, arrange? precedes method eager items = some arranged := by
  rcases cut?_of_orders orders (least items.length) eager items.length with ⟨runs, cuts⟩
  have within := (cut?_perm cuts).subset
  cases runs with
  | nil => exact ⟨items, Option.bind_eq_some_iff.2 ⟨[], cuts, rfl⟩⟩
  | cons run others =>
      have parts : (run.items ++ [].flatMap (Run.items ∘ Prod.fst (β := Nat))) ++
          others.flatMap Run.items ⊆ items := by
        rwa [List.flatMap_nil, List.append_nil, ← List.flatMap_cons]
      rcases joinAll?_of_completes precedes keeps completes items.length
        run.items.length parts with ⟨joined, joins⟩
      have kept := List.Subset.trans (joinAll?_perm keeps joins).subset parts
      rcases arranged?_of_completes completes kept with ⟨arranged, made⟩
      exact ⟨arranged, Option.bind_eq_some_iff.2 ⟨run :: others, cuts,
        Option.bind_eq_some_iff.2 ⟨joined, joins, made⟩⟩⟩

end Run

/-! ## Partitions -/

theorem byPartition?_of_orders (orders : Orders precedes items) (limit : Nat) (bound : Option α) :
    ∃ arranged, byPartition? precedes limit bound items = some arranged := by
  induction limit generalizing bound items with
  | zero =>
      rw [byPartition?]
      split
      · exact piece?_of_orders orders
      · refine Run.arrange?_of_completes orders (fun items same kept => ?_)
          (fun part _ => ⟨part, rfl⟩) true
        obtain rfl := Option.some.inj kept
        exact .refl _
  | succ limit ih =>
      rw [byPartition?]
      split
      · exact ⟨_, rfl⟩
      next pivot found =>
        have parts (goesLeft : α → Bool) (toLeft : Bool) :
            (partitionAt goesLeft (pivotPlace precedes items) toLeft items).1 ⊆ items ∧
              (partitionAt goesLeft (pivotPlace precedes items) toLeft items).2 ⊆ items :=
          List.append_subset.1 (partitionAt_perm goesLeft toLeft).subset
        dsimp only
        split
        · exact piece?_of_orders orders
        · split
          · rcases ih (orders.mono (parts (fun item => !precedes pivot item) true).2) none with
              ⟨others, made⟩
            exact ⟨_, by rw [made]; rfl⟩
          · rcases parts (fun item => precedes item pivot) false with ⟨lefts, rights⟩
            rcases ih (orders.mono lefts) bound with ⟨before, made⟩
            rcases ih (orders.mono rights) (some pivot) with ⟨behind, madeToo⟩
            exact ⟨_, by rw [made, madeToo]; rfl⟩

/-! ## All items -/

/-- Items are arranged by a relation that orders them. -/
theorem arrange?_of_orders (orders : Orders precedes items) :
    ∃ arranged, arrange? precedes items = some arranged := by
  unfold arrange?
  split
  · exact ⟨_, rfl⟩
  · exact Run.arrange?_of_completes orders (fun _ _ kept => byPartition?_perm kept)
      (fun part within => byPartition?_of_orders (orders.mono within) _ none) _

end TableApi.Arrangement
