/-!
This module contains the classes of growth, from the cheapest to the most expensive.
-/

namespace CodeGauge


/--
How a cost grows with the size of the input.
-/
inductive Growth where
  | constant
  | logarithmic
  | linear
  | linearithmic
  | quadratic
  | exponential
  deriving DecidableEq, Repr, Inhabited

namespace Growth

def all : List Growth :=
  [constant, logarithmic, linear, linearithmic, quadratic, exponential]

def name : Growth → String
  | constant => "constant"
  | logarithmic => "logarithmic"
  | linear => "linear"
  | linearithmic => "linearithmic"
  | quadratic => "quadratic"
  | exponential => "exponential"

def ofName? (name : String) : Option Growth :=
  all.find? (·.name == name)

/--
The position in the order of growth.
-/
def rank : Growth → Nat
  | constant => 0
  | logarithmic => 1
  | linear => 2
  | linearithmic => 3
  | quadratic => 4
  | exponential => 5

/--
The label, with a caret in front of an exponent.
-/
def label : Growth → String
  | constant => "O(1)"
  | logarithmic => "O(log n)"
  | linear => "O(n)"
  | linearithmic => "O(n log n)"
  | quadratic => "O(n^2)"
  | exponential => "O(2^n)"

/--
Why a time is of a class.
-/
def timeNote : Growth → String
  | constant => "No heavy loops or recursion detected; likely O(1) in the dominant path."
  | logarithmic =>
    "Found logarithmic-like operations (e.g., division by 2, binary search) suggesting O(log n)."
  | linear => "Detected single-pass iteration indicating O(n) time."
  | linearithmic =>
    "Combination of iteration and logarithmic operations (e.g., sorting or binary search) suggests "
      ++ "O(n log n)."
  | quadratic => "Detected nested iteration patterns suggesting O(n^2) behavior."
  | exponential => "Branching recursion suggests O(2^n) growth."

/--
Why a space is of a class.
-/
def spaceNote : Growth → String
  | constant => "No significant auxiliary structures; likely O(1) extra space."
  | logarithmic => "Auxiliary space grows with the logarithm of the input, O(log n)."
  | linear => "Data structures or recursion depth scale with input size, yielding O(n) space."
  | linearithmic => "Auxiliary space grows as O(n log n)."
  | quadratic => "Auxiliary structures grow with the square of the input, O(n^2)."
  | exponential => "Auxiliary space grows exponentially with the input, O(2^n)."

@[simp]
theorem ofName?_name (g : Growth) : ofName? g.name = some g := by
  cases g <;> decide

end Growth

/--
The rating of a pair of classes, from 5 for the best down to 1. The worse class decides.
-/
def rate (time space : Growth) : Nat :=
  min 5 (max 1 (5 - max time.rank space.rank))

theorem one_le_rate (time space : Growth) : 1 ≤ rate time space := by
  simp only [rate]
  omega

theorem rate_le_five (time space : Growth) : rate time space ≤ 5 := by
  simp only [rate]
  omega

end CodeGauge
