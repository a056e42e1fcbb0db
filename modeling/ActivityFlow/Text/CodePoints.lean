/-!
# Tables of code points

A property of characters is kept as a table of runs of code points, a mapping between
characters as a table of runs that are shifted by one distance.
-/
namespace ActivityFlow.Text

/-- A set of code points: a row `(first, last, step)` holds each `step`-th code point from
`first` to `last`. -/
abbrev RunList := Array (Nat × Nat × Nat)

def RunList.hits (row : Nat × Nat × Nat) (n : Nat) : Bool :=
  row.1 ≤ n && n ≤ row.2.1 && (n - row.1) % row.2.2 == 0

def RunList.covers (table : RunList) (n : Nat) : Bool := table.any fun row => RunList.hits row n

/-- A mapping of code points: a row `(first, last, step, distance)` shifts each `step`-th
code point from `first` to `last` by `distance`. Points in no row are mapped to themselves. -/
abbrev RunTable := Array (Nat × Nat × Nat × Int)

/-- Whether a row shifts the code point. -/
def RunTable.hits (row : Nat × Nat × Nat × Int) (n : Nat) : Bool :=
  RunList.hits (row.1, row.2.1, row.2.2.1) n

def RunTable.apply (table : RunTable) (n : Nat) : Nat :=
  match table.find? fun row => RunTable.hits row n with
  | some row => (n + row.2.2.2).toNat
  | none => n

def RunTable.preimages (table : RunTable) (n : Nat) : List Nat :=
  table.toList.filterMap fun row =>
    let source := ((n : Int) - row.2.2.2).toNat
    if RunTable.hits row source then some source else none

end ActivityFlow.Text
