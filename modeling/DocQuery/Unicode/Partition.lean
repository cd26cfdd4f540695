/-!
Tables of a property of characters. The code points are cut into runs, each with a label, and a
binary search finds the run of a character. A table is written as lines of text: numbers in base 32, the last
place first, in which the 64 characters `0`-`9`, `A`-`Z`, `a`-`z`, `+` and `-` count from 0 and those
from 32 on say that another place follows.
-/
namespace DocQuery.Unicode

/-- Labelled runs of code points. -/
structure Partition where
  /-- Where the runs start, ascending from 0. -/
  starts : Array Nat
  /-- The label of each run. -/
  labels : Array Nat

namespace Partition

/-- The value of a character of a table. -/
private def place (c : Char) : Nat :=
  if c ≤ '9' then if c = '+' then 62 else if c = '-' then 63 else c.toNat - 48
  else if c ≤ 'Z' then c.toNat - 55
  else c.toNat - 61

private def numbers (lines : List String) : Array Nat :=
  let (numbers, _, _) := (lines.flatMap String.toList).foldl (fun (done, sum, scale) c =>
    let d := place c
    if d < 32 then (done.push (sum + scale * d), 0, 1)
    else (done, sum + scale * (d - 32), scale * 32)) ((#[], 0, 1) : Array Nat × Nat × Nat)
  numbers

/-- The partition with runs of these lengths and labels. -/
def ofRuns (runs : List (Nat × Nat)) : Partition :=
  let (starts, labels, _) := runs.foldl (fun (starts, labels, start) (length, label) =>
    (starts.push start, labels.push label, start + length)) ((#[], #[], 0) : Array Nat × Array Nat × Nat)
  ⟨starts, labels⟩

private def pairs : List Nat → List (Nat × Nat)
  | length :: label :: rest => (length, label) :: pairs rest
  | _ => []

/-- The partition whose text holds the length and the label of each run. -/
def ofText (lines : List String) : Partition := ofRuns (pairs (numbers lines).toList)

/-- The partition whose text holds the lengths of runs labelled 0 and 1 by turns. A last run reaches
to the end. -/
def ofAlternating (lines : List String) : Partition :=
  let lengths := (numbers lines).toList ++ [0]
  ofRuns ((lengths.zipIdx).map fun (length, i) => (length, i % 2))

/-- The last run from `low` on and before `high` that starts at or before `n`, where the run `low`
does. -/
def search (starts : Array Nat) (n low high : Nat) : Nat :=
  if high ≤ low + 1 then low
  else
    let mid := (low + high) / 2
    if n < (starts[mid]?).getD 0 then search starts n low mid else search starts n mid high
termination_by high - low

def label (p : Partition) (c : Char) : Nat :=
  (p.labels[search p.starts c.toNat 0 p.starts.size]?).getD 0

end Partition
end DocQuery.Unicode
