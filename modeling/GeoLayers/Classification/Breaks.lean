import GeoLayers.Number.Scalar

/-!
Breaks that cut ascending values into classes. The first break is the least value and the last one
the greatest; neighbouring breaks are the bounds of a class.
-/

namespace GeoLayers.Classification

variable {α : Type} [Scalar α]

/-- Breaks at equal distances. There is at least one class. -/
def equalInterval (low high : α) (count : Nat) : List α :=
  let count := max count 1
  let step := (high - low) / Scalar.ofNat count
  (List.range count).map (fun i => low + step * Scalar.ofNat i) ++ [high]

/-- The number of classes that some values are cut into: at least one, and at most one for each
value. -/
def classCount (values : List α) (count : Nat) : Nat := min (max count 1) values.length

/-- The ranks at which `k` classes of about the same size begin among `n` values. -/
def quantileRanks (n k : Nat) : List Nat := (List.range' 1 (k - 1)).map fun i => i * n / k

omit [Scalar α] in
/-- Breaks between classes that hold about the same number of values. -/
def quantile (values : List α) (count : Nat) : List α :=
  match values.head?, values.getLast? with
  | some first, some last =>
    let ranks := quantileRanks values.length (classCount values count)
    first :: ranks.filterMap (fun rank : Nat => values[rank]?) ++ [last]
  | _, _ => []

/-- The places of a sample of `max` out of `n` values: from the first to the last, about equally
far apart. -/
def sampleRanks (n max : Nat) : List Nat :=
  (List.range max).map fun i => i * (n - 1) / (max - 1)

omit [Scalar α] in
/-- A sample of at most `max` values that are spread evenly, with the first and the last one. A
sample of fewer than two values is not taken. -/
def sampleEvenly (values : List α) (max : Nat) : List α :=
  if values.length ≤ max ∨ max < 2 then values
  else (sampleRanks values.length max).filterMap fun rank : Nat => values[rank]?

end GeoLayers.Classification
