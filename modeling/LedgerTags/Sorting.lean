/-!
# Stable sorting with a fallible comparison

Sorting by merging runs. The list is cut into runs that are already in order, either ascending or
strictly descending; a short run is made longer by placing further elements behind the elements that
are not greater, found by halving. Neighbouring runs are merged in an order that depends on their
lengths. A merge takes the lesser one of the first elements of two runs, and when one of the runs is
taken from many times in a row it searches for the places of the first elements instead, in leaps.

For a total preorder the result is the stable sort; for any other comparison the procedure decides
which elements are compared, and the first comparison that fails is the error.
-/

namespace LedgerTags.Sorting

variable {ε α : Type}

/-! ### Runs -/

/-- The end of an ascending run whose elements so far are `run`, last first. -/
def ascending (lt : α → α → Except ε Bool) (last : α) (run : List α) :
    List α → Except ε (List α × List α)
  | [] => .ok ((last :: run).reverse, [])
  | x :: xs => do
    if ← lt x last then return ((last :: run).reverse, x :: xs)
    else ascending lt x (last :: run) xs

/-- The end of a strictly descending run whose elements so far are `run`, last first; the run is
returned in ascending order. -/
def descending (lt : α → α → Except ε Bool) (last : α) (run : List α) :
    List α → Except ε (List α × List α)
  | [] => .ok (last :: run, [])
  | x :: xs => do
    if ← lt x last then descending lt x (last :: run) xs
    else return (last :: run, x :: xs)

/-- The run at the start of a list, in ascending order, and the rest of the list. -/
def firstRun (lt : α → α → Except ε Bool) : List α → Except ε (List α × List α)
  | [] => .ok ([], [])
  | [x] => .ok ([x], [])
  | x :: y :: xs => do
    if ← lt y x then descending lt y [x] xs else ascending lt y [x] xs

/-- How many elements of a sorted list are not greater than `pivot`, found by halving at most `fuel`
times. -/
def place (lt : α → α → Except ε Bool) (pivot : α) : (fuel : Nat) → List α → Except ε Nat
  | 0, _ => .ok 0
  | fuel + 1, xs =>
    let middle := xs.length / 2
    match xs.drop middle with
    | [] => .ok 0
    | x :: after => do
      if ← lt pivot x then place lt pivot fuel (xs.take middle)
      else return middle + 1 + (← place lt pivot fuel after)

/-- A sorted list with one more element. -/
def insert (lt : α → α → Except ε Bool) (sorted : List α) (pivot : α) : Except ε (List α) := do
  let n ← place lt pivot sorted.length sorted
  return sorted.take n ++ pivot :: sorted.drop n

/-- A sorted list with further elements. -/
def insertAll (lt : α → α → Except ε Bool) (sorted : List α) : List α → Except ε (List α)
  | [] => .ok sorted
  | x :: xs => do insertAll lt (← insert lt sorted x) xs

/-- The run at the start of a list, with further elements if there are fewer than `least`, and the
rest of the list. -/
def nextRun (lt : α → α → Except ε Bool) (least : Nat) (xs : List α) :
    Except ε (List α × List α) := do
  let (run, rest) ← firstRun lt xs
  let missing := least - run.length
  return (← insertAll lt run (rest.take missing), rest.drop missing)

/-! ### Searching in leaps -/

/-- The comparison the other way round: whether an element is not less than the pivot. An element
that is placed by it stands before those that are equal. -/
def notBelow (lt : α → α → Except ε Bool) (pivot x : α) : Except ε Bool := do
  return !(← lt x pivot)

/-- How many elements of a sorted list are not greater than `pivot`. So many are leapt over at
first, then twice as many and one more, and so on. -/
def leap (lt : α → α → Except ε Bool) (pivot : α) : (fuel width : Nat) → List α → Except ε Nat
  | 0, _, _ => .ok 0
  | fuel + 1, width, xs =>
    match xs.drop width with
    | [] => place lt pivot xs.length xs
    | x :: after => do
      if ← lt pivot x then place lt pivot width (xs.take width)
      else return width + 1 + (← leap lt pivot fuel (2 * width + 1) after)

/-- Like `leap`, from the end: the list is given last element first. -/
def leapBack (lt : α → α → Except ε Bool) (pivot : α) : (fuel width : Nat) → List α → Except ε Nat
  | 0, _, _ => .ok 0
  | fuel + 1, width, xs =>
    match xs.drop width with
    | [] => place lt pivot xs.length xs.reverse
    | x :: before => do
      if ← lt pivot x then leapBack lt pivot fuel (2 * width + 1) before
      else return before.length + 1 + (← place lt pivot width (xs.take width).reverse)

/-- How many elements of a sorted list are not greater than `pivot`, searched from the start. -/
def gallop (lt : α → α → Except ε Bool) (pivot : α) : List α → Except ε Nat
  | [] => .ok 0
  | x :: xs => do
    if ← lt pivot x then return 0 else return 1 + (← leap lt pivot xs.length 0 xs)

/-- How many elements of a sorted list are not greater than `pivot`, searched from the end; the list
is given last element first. -/
def gallopBack (lt : α → α → Except ε Bool) (pivot : α) : List α → Except ε Nat
  | [] => .ok 0
  | x :: xs => do
    if ← lt pivot x then leapBack lt pivot xs.length 0 xs else return xs.length + 1

/-! ### Merging -/

/-- How the elements of two lists are compared when the lists are merged. -/
structure Sides (ε α : Type) where
  /-- Whether an element of the second list goes before one of the first. -/
  less : α → α → Except ε Bool
  /-- How many elements of the first list go before an element of the second. -/
  inFirst : α → List α → Except ε Nat
  /-- How many elements of the second list go before an element of the first. -/
  inSecond : α → List α → Except ε Nat
  /-- Whether the first list is searched before the second. -/
  firstBegins : Bool

/-- From the start: the first list is the run that stands before the other one. -/
def Sides.forward (lt : α → α → Except ε Bool) : Sides ε α where
  less := lt
  inFirst n ts := gallop lt n ts
  inSecond t ns := gallop (notBelow lt) t ns
  firstBegins := true

/-- From the end: the lists are given last element first, and the first list is the run that stands
behind the other one. -/
def Sides.backward (lt : α → α → Except ε Bool) : Sides ε α where
  less n t := lt t n
  inFirst n ts := do return ts.length - (← gallopBack (notBelow lt) n ts)
  inSecond t ns := do return ns.length - (← gallopBack lt t ns)
  firstBegins := false

/-- What one turn of a merge does. -/
structure Turn (α : Type) where
  /-- How many elements have been found by searching. -/
  count : Nat := 0
  /-- The elements that come next in the merged list. -/
  moved : List α
  /-- What is left of the first list. -/
  first : List α
  /-- What is left of the second list. -/
  second : List α

/-- Moves those elements of the first list that go before the first one of the second list, and
then that one, unless there is nothing left to merge it with. -/
def Sides.searchFirst (s : Sides ε α) (ts : List α) (n : α) (ns : List α) :
    Except ε (Turn α) := do
  let k ← s.inFirst n ts
  let rest := ts.drop k
  if rest.length ≤ 1 then return ⟨k, ts.take k, rest, n :: ns⟩
  else return ⟨k, ts.take k ++ [n], rest, ns⟩

/-- Moves those elements of the second list that go before the first one of the first list, and
then that one, unless nothing is left of the second list. -/
def Sides.searchSecond (s : Sides ε α) (t : α) (ts ns : List α) : Except ε (Turn α) := do
  let k ← s.inSecond t ns
  let rest := ns.drop k
  if rest.isEmpty then return ⟨k, ns.take k, t :: ts, rest⟩
  else return ⟨k, ns.take k ++ [t], ts, rest⟩

/-- What a merge is about to do. -/
inductive Mode where
  /-- To compare the first elements, after one of the lists has been taken from in a row. -/
  | single (firsts seconds : Nat)
  /-- To compare the first elements, after searching has not been worth while. -/
  | leave
  /-- To search one list and then the other, after one has been taken from often in a row. -/
  | enter
  /-- To search one list and then the other once more. -/
  | again
  /-- To search the other list, after so many elements were found in the one. -/
  | back (count : Nat)

/-- From this many elements on searching is worth while. -/
def searchLimit : Nat := 7

/-- Compares the first elements and moves one of them. -/
def Sides.compare (s : Sides ε α) (firsts seconds patience : Nat) (t : α) (ts : List α) (n : α)
    (ns : List α) : Except ε (Mode × Nat × Turn α) := do
  if ← s.less n t then
    let mode := if patience ≤ seconds + 1 then .enter else .single 0 (seconds + 1)
    return (mode, patience, { moved := [n], first := t :: ts, second := ns })
  else
    let mode := if patience ≤ firsts + 1 then .enter else .single (firsts + 1) 0
    return (mode, patience, { moved := [t], first := ts, second := n :: ns })

/-- Searches one of the lists. -/
def Sides.search (s : Sides ε α) (inFirst : Bool) (t : α) (ts : List α) (n : α) (ns : List α) :
    Except ε (Turn α) :=
  if inFirst then s.searchFirst (t :: ts) n ns else s.searchSecond t ts (n :: ns)

/-- One turn of a merge, what comes next, and how often one list has to be taken from in a row
before the lists are searched. -/
def Sides.turn (s : Sides ε α) (mode : Mode) (patience : Nat) (t : α) (ts : List α) (n : α)
    (ns : List α) : Except ε (Mode × Nat × Turn α) :=
  match mode with
  | .single firsts seconds => s.compare firsts seconds patience t ts n ns
  | .leave => s.compare 0 0 (patience + 1) t ts n ns
  | .enter => do
    let turn ← s.search s.firstBegins t ts n ns
    return (.back turn.count, patience, turn)
  | .again => do
    let turn ← s.search s.firstBegins t ts n ns
    return (.back turn.count, if 1 < patience then patience - 1 else patience, turn)
  | .back count => do
    let turn ← s.search (!s.firstBegins) t ts n ns
    return (if searchLimit ≤ count || searchLimit ≤ turn.count then .again else .leave, patience,
      turn)

/-- The merged lists, of which the first one has the last element, and what is left of the
patience. -/
def Sides.merge (s : Sides ε α) :
    (fuel : Nat) → Mode → (patience : Nat) → List α → List α → Except ε (List α × Nat)
  | fuel + 1, mode, patience, t :: u :: ts, n :: ns => do
    let (mode, patience, turn) ← s.turn mode patience t (u :: ts) n ns
    let (rest, patience) ← s.merge fuel mode patience turn.first turn.second
    return (turn.moved ++ rest, patience)
  | _, _, patience, ts, ns => .ok (ns ++ ts, patience)

/-- Merges two neighbouring runs, of which the first one ends with the greatest element `a` and the
second one begins with the least element `b`. The lesser one is the first list; the rest of the
first run is given last element first. -/
def mergeAcross (lt : α → α → Except ε Bool) (patience : Nat) (a : α) (before : List α) (b : α)
    (after : List α) : Except ε (List α × Nat) :=
  let fuel := before.length + after.length + 1
  if before.length ≤ after.length then do
    let (merged, patience) ← (Sides.forward lt).merge fuel (.single 0 0) patience
      (a :: before).reverse after
    return (b :: merged, patience)
  else do
    let (merged, patience) ← (Sides.backward lt).merge fuel (.single 0 0) patience
      (b :: after).reverse before
    return ((a :: merged).reverse, patience)

/-- Merges two neighbouring runs. What is in place at both ends stays there. -/
def mergeRuns (lt : α → α → Except ε Bool) (patience : Nat) (as bs : List α) :
    Except ε (List α × Nat) :=
  match bs with
  | [] => .ok (as, patience)
  | b :: _ => do
    let i ← gallop lt b as
    match (as.drop i).reverse with
    | [] => return (as ++ bs, patience)
    | a :: before => do
      let j ← gallopBack (notBelow lt) a bs.reverse
      match bs.take j with
      | [] => return (as ++ bs, patience)
      | b :: after => do
        let (merged, patience) ← mergeAcross lt patience a before b after
        return (as.take i ++ merged ++ bs.drop j, patience)

/-! ### The order of the merges -/

/-- How often one list has to be taken from in a row at first before the lists are searched. -/
def usualPatience : Nat := searchLimit

/-- From this length on a list is not sorted as a single run. -/
def runLimit : Nat := 64

/-- The least length of a run, so that a list of `n` elements is cut into a number of runs that is a
power of two or not much less than one. -/
def leastRun (carry : Nat) : (fuel n : Nat) → Nat
  | 0, n => n + carry
  | fuel + 1, n => if n < runLimit then n + carry else leastRun (max carry (n % 2)) fuel (n / 2)

/-- At which depth of halving a list of `n` elements the middles of two neighbouring runs are
parted, given as twice their places. -/
def power (n : Nat) : (fuel a b : Nat) → Nat
  | 0, _, _ => 0
  | fuel + 1, a, b =>
    if n ≤ a then 1 + power n fuel (2 * (a - n)) (2 * (b - n))
    else if n ≤ b then 1
    else 1 + power n fuel (2 * a) (2 * b)

/-- Merges the last run with those before it that are parted from each other at a greater depth
than `depth`. -/
def collapse (lt : α → α → Except ε Bool) (depth : Nat) :
    List (List α × Nat) → List α → (patience : Nat) →
      Except ε (List (List α × Nat) × List α × Nat)
  | [], last, patience => .ok ([], last, patience)
  | (run, parted) :: runs, last, patience =>
    if depth < parted then do
      let (last, patience) ← mergeRuns lt patience run last
      collapse lt depth runs last patience
    else .ok ((run, parted) :: runs, last, patience)

/-- Cuts a list into runs and merges them as they come: the runs that are left before the last one,
nearest first, with the depth at which they are parted from the next one, and the last one. -/
def collect (lt : α → α → Except ε Bool) (total least : Nat) :
    (fuel : Nat) → List (List α × Nat) → List α → (patience : Nat) → List α →
      Except ε (List (List α) × List α × Nat)
  | fuel + 1, runs, last, patience, x :: xs => do
    let (run, rest) ← nextRun lt least (x :: xs)
    let middle := 2 * (total - (x :: xs).length - last.length) + last.length
    let depth := power total total middle (middle + last.length + run.length)
    let (runs, last, patience) ← collapse lt depth runs last patience
    collect lt total least fuel ((last, depth) :: runs) run patience rest
  | _, runs, last, patience, _ => .ok (runs.map (·.1), last, patience)

/-- Merges all runs: the last one with the one before it, or that one with the one before it if that
is shorter than the last one. -/
def mergeAll (lt : α → α → Except ε Bool) :
    (fuel : Nat) → List (List α) → List α → (patience : Nat) → Except ε (List α)
  | _, [], last, _ => .ok last
  | 0, _ :: _, last, _ => .ok last
  | _ + 1, [run], last, patience => do return (← mergeRuns lt patience run last).1
  | fuel + 1, run :: run' :: runs, last, patience =>
    if run'.length < last.length then do
      let (merged, patience) ← mergeRuns lt patience run' run
      mergeAll lt fuel (merged :: runs) last patience
    else do
      let (merged, patience) ← mergeRuns lt patience run last
      mergeAll lt fuel (run' :: runs) merged patience

/-- The elements of a list in ascending order. -/
def sort (lt : α → α → Except ε Bool) (xs : List α) : Except ε (List α) := do
  let least := leastRun 0 xs.length xs.length
  let (run, rest) ← nextRun lt least xs
  let (runs, last, patience) ← collect lt xs.length least rest.length [] run usualPatience rest
  mergeAll lt runs.length runs last patience

end LedgerTags.Sorting
