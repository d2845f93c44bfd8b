/-!
# Arranging items

Items are arranged by a relation that says of two items whether the first precedes the second.  If
the relation is an order, every stable method gives the same result.  Stored values need not be
comparable, so here the relation need not be an order, and the result depends on which items are
compared with each other.  `arrange?` says which: a few items are inserted one after the other, more
of them are cut into runs that are merged.

Two lists may be merged from both ends at once, and if the ends do not meet, the relation is found
to be no order.  Then the arrangement breaks off, and nothing is arranged.
-/

namespace TableApi.Arrangement

variable {α : Type}

/-! ## Inserting -/

/-- Puts an item before the last items of a list that it precedes; the list and the result are in
reverse. -/
def insertBehind (precedes : α → α → Bool) (item : α) : List α → List α
  | [] => [item]
  | last :: others =>
      if precedes item last then last :: insertBehind precedes item others
      else item :: last :: others

/-- The items behind those that are arranged already, each put in its place in turn. -/
def insertAll (precedes : α → α → Bool) (arranged items : List α) : List α :=
  (items.foldl (fun reversed item => insertBehind precedes item reversed) arranged.reverse).reverse

/-! ## Pieces -/

/-- Two items, the first one first unless the second one precedes it. -/
def pair (precedes : α → α → Bool) (first second : α) : α × α :=
  if precedes second first then (second, first) else (first, second)

/-- Four items: two pairs, of whose first items one comes first and of whose last items one comes
last. -/
def four (precedes : α → α → Bool) (first second third fourth : α) : List α :=
  let (low, high) := pair precedes first second
  let (otherLow, otherHigh) := pair precedes third fourth
  let isLower := precedes otherLow low
  let isHigher := !precedes otherHigh high
  let left := if isLower then low else if isHigher then high else otherLow
  let right := if !isHigher then otherHigh else if isLower then high else otherLow
  let (inner, outer) := pair precedes left right
  [if isLower then otherLow else low, inner, outer, if isHigher then otherHigh else high]

/-- Arranges a half of a piece; the first four items go together if the piece is long enough. -/
def half (precedes : α → α → Bool) (isLong : Bool) (items : List α) : List α :=
  match isLong, items with
  | true, first :: second :: third :: fourth :: rest =>
      insertAll precedes (four precedes first second third fourth) rest
  | _, items => insertAll precedes [] items

/-- The first `count` items of two lists when they are merged, and how many of them come from the
left list. -/
def mergeFront (precedes : α → α → Bool) : Nat → List α → List α → List α × Nat
  | count + 1, left :: lefts, right :: rights =>
      if precedes right left then
        let (merged, taken) := mergeFront precedes count (left :: lefts) rights
        (right :: merged, taken)
      else
        let (merged, taken) := mergeFront precedes count lefts (right :: rights)
        (left :: merged, taken + 1)
  | _, _, _ => ([], 0)

/-- The last `count` items of two lists when they are merged, and how many of them come from the
left list; the lists and the result are in reverse. -/
def mergeBack (precedes : α → α → Bool) : Nat → List α → List α → List α × Nat
  | count + 1, left :: lefts, right :: rights =>
      if precedes right left then
        let (merged, taken) := mergeBack precedes count lefts (right :: rights)
        (left :: merged, taken + 1)
      else
        let (merged, taken) := mergeBack precedes count (left :: lefts) rights
        (right :: merged, taken)
  | _, _, _ => ([], 0)

/-- Merges two lists from both ends; the right one is as long as the left one or longer by one item,
which then comes from the middle.  Both ends have to meet, which they do for an order. -/
def mergeEnds? (precedes : α → α → Bool) (left right : List α) : Option (List α) :=
  let count := left.length
  let (front, taken) := mergeFront precedes count left right
  let (back, takenBack) := mergeBack precedes count left.reverse right.reverse
  let leftMiddle := if count < right.length && taken + takenBack < count then 1 else 0
  let middle := (left.drop taken).take leftMiddle ++
    (right.drop (count - taken)).take (right.length - count - leftMiddle)
  if taken + leftMiddle + takenBack = count then some (front ++ middle ++ back.reverse) else none

/-- Arranges a piece: its halves, which are then merged. -/
def piece? (precedes : α → α → Bool) (items : List α) : Option (List α) :=
  let isLong := 8 ≤ items.length
  mergeEnds? precedes (half precedes isLong (items.take (items.length / 2)))
    (half precedes isLong (items.drop (items.length / 2)))

/-- The most items of a piece. -/
def longestPiece : Nat := 32

/-! ## Runs -/

/-- Items that stand beside each other, and whether they are arranged. -/
structure Run (α : Type) where
  items : List α
  isArranged : Bool

namespace Run

/-- Merges two arranged lists from the end where the shorter one stands. -/
def merge (precedes : α → α → Bool) (left right : List α) : List α :=
  if left.length ≤ right.length then left.merge right fun left right => !precedes right left
  else (right.reverse.merge left.reverse fun right left => !precedes right left).reverse

/-- The items of a run, arranged by `method` unless they are. -/
def arranged? (method : List α → Option (List α)) (run : Run α) : Option (List α) :=
  if run.isArranged then some run.items else method run.items

/-- Joins two runs.  Two runs that are not arranged stay so. -/
def join? (precedes : α → α → Bool) (method : List α → Option (List α)) (left right : Run α) :
    Option (Run α) :=
  if left.isArranged || right.isArranged then do
    let lefts ← left.arranged? method
    let rights ← right.arranged? method
    return ⟨merge precedes lefts rights, true⟩
  else some ⟨left.items ++ right.items, false⟩

/-- How many items a list starts with in which each one is followed by one that may follow it. -/
def leading (mayFollow : α → α → Bool) : List α → Nat
  | first :: second :: rest =>
      if mayFollow first second then leading mayFollow (second :: rest) + 1 else 1
  | items => items.length

/-- Whether the second item of a list precedes the first one. -/
def falls (precedes : α → α → Bool) : List α → Bool
  | first :: second :: _ => precedes second first
  | _ => false

/-- The items that a list starts with, if there are `least` of them or more: either none precedes
the one before it, or each does, and then they are turned round. -/
def found? (precedes : α → α → Bool) (least : Nat) (items : List α) : Option (List α) :=
  let length := leading (fun first second => precedes second first == falls precedes items) items
  if length < least then none
  else if falls precedes items then some (items.take length).reverse
  else some (items.take length)

/-- The first run of a list.  Without a long one to be found, it is a piece if `eager`, and
otherwise not arranged. -/
def first? (precedes : α → α → Bool) (least : Nat) (eager : Bool) (items : List α) :
    Option (Run α) :=
  match found? precedes least items with
  | some items => some ⟨items, true⟩
  | none =>
      if eager then (piece? precedes (items.take longestPiece)).map fun items => ⟨items, true⟩
      else some ⟨items.take least, false⟩

/-- The runs of a list; after `fuel` of them, what is left is one. -/
def cut? (precedes : α → α → Bool) (least : Nat) (eager : Bool) :
    Nat → List α → Option (List (Run α))
  | _, [] => some []
  | 0, items => some [⟨items, false⟩]
  | fuel + 1, items => do
      let run ← first? precedes least eager items
      let runs ← cut? precedes least eager fuel (items.drop run.items.length)
      return run :: runs

/-- How deep in a tree over `total` items the cut between two runs lies: it is the number of first
bits that the middles of the two runs, as fractions of the whole, have in common. -/
def depth (total start middle stop : Nat) : Nat :=
  let scale := (Nat.pow 2 62 + total - 1) / total
  64 - (Nat.log2 ((scale * (start + middle)) ^^^ (scale * (middle + stop))) + 1)

/-- Joins a run with those before it, the last one first, whose cuts lie at `depth` or deeper. -/
def collapse? (precedes : α → α → Bool) (method : List α → Option (List α)) (depth : Nat)
    (last : Run α) : List (Run α × Nat) → Option (Run α × List (Run α × Nat))
  | [] => some (last, [])
  | (run, runDepth) :: others =>
      if depth ≤ runDepth then do
        let joined ← join? precedes method run last
        collapse? precedes method depth joined others
      else some (last, (run, runDepth) :: others)

/-- Joins all runs behind `last`, which ends at `middle`, and those before it. -/
def joinAll? (precedes : α → α → Bool) (method : List α → Option (List α)) (total middle : Nat)
    (before : List (Run α × Nat)) (last : Run α) : List (Run α) → Option (Run α)
  | [] => (collapse? precedes method 0 last before).map Prod.fst
  | next :: rest => do
      let stop := middle + next.items.length
      let cut := depth total (middle - last.items.length) middle stop
      let (joined, others) ← collapse? precedes method cut last before
      joinAll? precedes method total stop ((joined, cut) :: others) next rest

/-- The least items of a run that is found in a list of some length. -/
def least (length : Nat) : Nat :=
  if length ≤ 4096 then min (length - length / 2) 64
  else
    let shift := (Nat.log2 length + 1) / 2
    (Nat.pow 2 shift + length / Nat.pow 2 shift) / 2

/-- Arranges items by cutting them into runs and joining these. -/
def arrange? (precedes : α → α → Bool) (method : List α → Option (List α)) (eager : Bool)
    (items : List α) : Option (List α) := do
  match ← cut? precedes (least items.length) eager items.length items with
  | [] => return items
  | run :: runs =>
      let joined ← joinAll? precedes method items.length run.items.length [] run runs
      joined.arranged? method

end Run

/-! ## Partitions -/

/-- Whether the item at one place precedes the item at another. -/
def precedesAt (precedes : α → α → Bool) (items : List α) (place other : Nat) : Bool :=
  match items[place]?, items[other]? with
  | some first, some second => precedes first second
  | _, _ => false

/-- The place of the middle one of the items at three places. -/
def middleOf (precedes : α → α → Bool) (items : List α) (first second third : Nat) : Nat :=
  let isFirst := precedesAt precedes items first second
  if isFirst == precedesAt precedes items first third then
    if precedesAt precedes items second third == isFirst then second else third
  else first

/-- The place of an item near the middle, from three stretches of `length` items each that start at
the given places. -/
def middleFrom (precedes : α → α → Bool) (items : List α) (length first second third : Nat) :
    Nat :=
  if 8 ≤ length then
    let middleAt (start : Nat) : Nat :=
      middleFrom precedes items (length / 8) start (start + length / 8 * 4)
        (start + length / 8 * 7)
    middleOf precedes items (middleAt first) (middleAt second) (middleAt third)
  else middleOf precedes items first second third
termination_by length
decreasing_by all_goals omega

/-- The place of the item by which the others are told apart. -/
def pivotPlace (precedes : α → α → Bool) (items : List α) : Nat :=
  let length := items.length / 8
  middleFrom precedes items length 0 (length * 4) (length * 7)

/-- The items that go to the left and those that go to the right; the item at `place` goes to the
left if `toLeft`. -/
def partitionAt (goesLeft : α → Bool) (place : Nat) (toLeft : Bool) (items : List α) :
    List α × List α :=
  let (left, right) := (items.take place).partition goesLeft
  let (left', right') := (items.drop (place + 1)).partition goesLeft
  let pivot := (items.drop place).take 1
  if toLeft then (left ++ pivot ++ left', right ++ right')
  else (left ++ left', right ++ pivot ++ right')

/-- Arranges items by telling them apart, at most `limit` times.  No item precedes `bound`, and
items that `bound` does not precede are as good as equal to it. -/
def byPartition? (precedes : α → α → Bool) : Nat → Option α → List α → Option (List α)
  | 0, _, items =>
      if items.length ≤ longestPiece then piece? precedes items
      else Run.arrange? precedes some true items
  | limit + 1, bound, items =>
      let place := pivotPlace precedes items
      match items[place]? with
      | none => some items
      | some pivot =>
          let (before, behind) :=
            partitionAt (fun item => precedes item pivot) place false items
          if items.length ≤ longestPiece then piece? precedes items
          else if (bound.any fun bound => !precedes bound pivot) || before.isEmpty then
            let (equal, others) :=
              partitionAt (fun item => !precedes pivot item) place true items
            (byPartition? precedes limit none others).map (equal ++ ·)
          else do
            let lefts ← byPartition? precedes limit bound before
            let rights ← byPartition? precedes limit (some pivot) behind
            return lefts ++ rights

/-! ## All items -/

/-- The most items that are inserted one after the other. -/
def mostInserted : Nat := 20

/-- The items in the order of a relation, unless it is found to be none. -/
def arrange? (precedes : α → α → Bool) (items : List α) : Option (List α) :=
  if items.length ≤ mostInserted then some (insertAll precedes [] items)
  else
    Run.arrange? precedes
      (fun items => byPartition? precedes (2 * Nat.log2 items.length) none items)
      (items.length ≤ 2 * longestPiece) items

end TableApi.Arrangement
