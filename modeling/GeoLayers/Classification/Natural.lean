import GeoLayers.Classification.Breaks

/-!
Natural breaks: of all ways to cut ascending values into a number of classes, one with the least
sum of squared deviations from the means of the classes. For each value, the best cuts of the
values up to it into one, two, … classes are found from the best cuts of the earlier values.
-/

namespace GeoLayers.Classification

variable {α : Type} [Scalar α]

/-- Some neighbouring values: their number, their sum and the sum of their squares. -/
structure Spread (α : Type) where
  weight : α
  sum : α
  sumOfSquares : α

namespace Spread

def empty : Spread α := ⟨Scalar.zero, Scalar.zero, Scalar.zero⟩

def add (spread : Spread α) (value : α) : Spread α :=
  ⟨spread.weight + Scalar.one, spread.sum + value, spread.sumOfSquares + value * value⟩

/-- The sum of the squared deviations from the mean. -/
def cost (spread : Spread α) : α :=
  spread.sumOfSquares - spread.sum * spread.sum / spread.weight

end Spread

/-- The best cut that was found into a number of classes: its cost, if there is one, and the number
of values that lie before the last class. -/
structure Cut (α : Type) where
  cost : Option α
  before : Nat
  deriving Repr, Inhabited

/-- No cut was found. Its cost is the greatest number, where there is one. -/
def Cut.unknown : Cut α := ⟨Scalar.greatest?, 0⟩

/-- Takes a cut at a place if it costs no more than the one that was found. -/
def Cut.improve (cut : Cut α) (cost : α) (before : Nat) : Cut α :=
  if cut.cost.all (Scalar.le cost ·) then ⟨some cost, before⟩ else cut

/-- A value with the best cuts of the values up to it, into one class, two classes and so on. -/
structure Stage (α : Type) where
  value : α
  cuts : List (Cut α)

/-- Goes back through the earlier values, the latest first. The last class, with the spread
`spread`, may begin after each of them; the cuts of the earlier values into one class fewer are in
its stage. At the end all values are in one class. -/
def searchCuts (spread : Spread α) : (before : Nat) → List (Stage α) → List (Cut α) → List (Cut α)
  | _, [], cuts => ⟨some spread.cost, 0⟩ :: cuts
  | before, stage :: earlier, cuts =>
    let cuts := List.zipWith
      (fun cut previous =>
        match previous.cost with
        | some cost => cut.improve (spread.cost + cost) before
        | none => cut)
      cuts stage.cuts
    searchCuts (spread.add stage.value) (before - 1) earlier cuts

/-- The stage of a value that follows some others, of which the latest comes first. The first value
by itself costs nothing, in whatever number of classes. -/
def nextStage (classes : Nat) (earlier : List (Stage α)) (value : α) : Stage α :=
  match earlier with
  | [] => ⟨value, List.replicate classes ⟨some Scalar.zero, 0⟩⟩
  | _ =>
    ⟨value, searchCuts (Spread.empty.add value) earlier.length earlier
      (List.replicate (classes - 1) Cut.unknown)⟩

/-- The stages of all values, the latest first. -/
def stages (classes : Nat) (values : List α) : List (Stage α) :=
  values.foldl (fun earlier value => nextStage classes earlier value :: earlier) []

/-- The breaks before the classes from the second one to the one with number `class + 1`, in front
of the later breaks. Where a cut has no values before its last class, the breaks that are left are
zero. -/
def innerBreaks : (number : Nat) → List (Stage α) → List α → List α
  | 0, _, later => later
  | number + 1, stages, later =>
    let before := match stages with
      | [] => 0
      | stage :: _ => (stage.cuts[number + 1]?.map Cut.before).getD 0
    match stages.drop (stages.length - before), before with
    | stage :: earlier, _ + 1 => innerBreaks number (stage :: earlier) (stage.value :: later)
    | _, _ => List.replicate (number + 1) Scalar.zero ++ later

/-- Breaks between classes whose values lie closest together. -/
def naturalBreaks (values : List α) (count : Nat) : List α :=
  match values.head?, values.getLast? with
  | some first, some last =>
    let classes := classCount values count
    first :: innerBreaks (classes - 1) (stages classes values) [] ++ [last]
  | _, _ => []

end GeoLayers.Classification
