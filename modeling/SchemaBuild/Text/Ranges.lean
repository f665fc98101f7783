/-!
# Character ranges

A property of characters is kept as the ascending list of the code point ranges that have it.
-/

namespace SchemaBuild.Text

abbrev Ranges := List (Nat × Nat)

namespace Ranges

/-- Whether a code point lies in one of the ranges. The search stops at the first range that
starts above the code point, which is right because the ranges ascend. -/
def contains : Ranges → Nat → Bool
  | [], _ => false
  | (first, last) :: rest, code =>
      if code < first then false
      else if code ≤ last then true
      else contains rest code

end Ranges

end SchemaBuild.Text
