/-
Case folding and case-insensitive comparison of the ASCII letters; every other character stands
for itself.
-/

namespace Taskboard.Text

/-- The text with `A` to `Z` turned into `a` to `z`. -/
def lower (s : String) : String :=
  String.ofList (s.toList.map Char.toLower)

/-- The text with `a` to `z` turned into `A` to `Z`. -/
def upper (s : String) : String :=
  String.ofList (s.toList.map Char.toUpper)

/-- Two texts are the same word when they differ at most in the case of ASCII letters. -/
def sameWord (a b : String) : Bool :=
  lower a == lower b

end Taskboard.Text
