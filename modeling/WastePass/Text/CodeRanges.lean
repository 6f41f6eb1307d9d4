/-!
# Code ranges — a set of characters given by the code points it spans

    A property of characters that no formula describes is a list of spans. A character
    belongs to the set when some span covers its code point (`mem_iff`).
-/

namespace WastePass.Text

/-- A set of code points as a list of spans, both ends included. -/
abbrev CodeRanges := List (Nat × Nat)

namespace CodeRanges

/-- A character belongs to the set when one of the spans covers its code point. -/
def mem (ranges : CodeRanges) (c : Char) : Bool :=
  ranges.any fun (first, last) => first ≤ c.toNat && c.toNat ≤ last

theorem mem_iff (ranges : CodeRanges) (c : Char) :
    ranges.mem c = true ↔ ∃ r ∈ ranges, r.1 ≤ c.toNat ∧ c.toNat ≤ r.2 := by
  simp [mem]

end CodeRanges

end WastePass.Text
