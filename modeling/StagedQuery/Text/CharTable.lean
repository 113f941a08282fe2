/-!
# Tables of code points

Properties of characters come as data: a property is a list of closed ranges of code points, and
a mapping between characters is a list of runs, each of which sends evenly spaced code points to
consecutive images.

## Main definitions

* `CharTable.mem` — membership of a code point in a list of ranges.
* `CharTable.CaseRun`, `CharTable.image?` — one run of a mapping, and the look-up in a list of runs.
-/

namespace StagedQuery.CharTable

/-- Whether a code point lies in one of the closed ranges. -/
def mem (ranges : List (Nat × Nat)) (code : Nat) : Bool :=
  ranges.any fun r => decide (r.1 ≤ code) && decide (code ≤ r.2)

/-- A run `(first, last, step, image)`: the code points `first, first + step, …, last` are sent to
the points at the same distances from `image`. -/
abbrev CaseRun := Nat × Nat × Nat × Nat

/-- Whether a run has an entry for a code point. -/
def CaseRun.covers (run : CaseRun) (code : Nat) : Bool :=
  decide (run.1 ≤ code) && decide (code ≤ run.2.1) && (code - run.1) % run.2.2.1 == 0

/-- The image of a code point under the first run that covers it. -/
def image? (runs : List CaseRun) (code : Nat) : Option Nat :=
  (runs.find? (CaseRun.covers · code)).map fun run => run.2.2.2 + (code - run.1)

/-- The image of a character, the character itself where no run covers it. -/
def image (runs : List CaseRun) (c : Char) : Char :=
  match image? runs c.toNat with
  | some code => Char.ofNat code
  | none => c

end StagedQuery.CharTable
