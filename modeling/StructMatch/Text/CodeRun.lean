/-!
# Runs of code points

Unicode classes are stored as lists of runs.  A run walks from its first code point to its last with
a fixed stride, so that a stretch in which capitals and small letters alternate is one run and not
fifty.
-/

namespace StructMatch.Text

/-- The code points `first`, `first + stride`, … up to `last`. -/
structure CodeRun where
  first : Nat
  last : Nat
  stride : Nat

/-- Whether the code point `c` lies on the run. -/
def CodeRun.covers (run : CodeRun) (c : Nat) : Bool :=
  run.first ≤ c && c ≤ run.last && (c - run.first) % run.stride == 0

/-- Whether some run of the list covers the character. -/
def inRuns (runs : List CodeRun) (c : Char) : Bool :=
  runs.any (·.covers c.toNat)

end StructMatch.Text
