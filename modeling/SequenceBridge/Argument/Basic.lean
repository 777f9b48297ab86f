import SequenceBridge.Text.Basic

/-! # Arguments
The arguments of a command are values and, nested in brackets, repeated groups of values. FPrime does
not write the groups: it puts the values of a repeated argument into one pair of brackets.

* **`Argument`** — a value as it stands in the source, or groups of arguments.
* **`Argument.text`** — an argument as FPrime writes it.
* **`joinArguments`** — some arguments as FPrime writes them.
-/

namespace SequenceBridge

/-- An **argument**: a value as it stands in the source, or a list of groups. -/
inductive Argument
  | scalar (value : Text)
  | repeated (groups : List (List Argument))
  deriving Repr

mutual

/-- An argument **as FPrime writes it**. The groups of a repeated argument stand in one pair of
brackets, a comma between neighbours. -/
def Argument.text : Argument → Text
  | .scalar value => value
  | .repeated groups => '[' :: Text.commas (groupTexts groups) ++ [']']

/-- The texts of some arguments. -/
def argumentTexts : List Argument → List Text
  | [] => []
  | a :: as => a.text :: argumentTexts as

/-- The texts of some groups, the arguments of each joined by commas. -/
def groupTexts : List (List Argument) → List Text
  | [] => []
  | g :: gs => Text.commas (argumentTexts g) :: groupTexts gs

end

/-- Some arguments as FPrime writes them, a comma between neighbours. -/
def joinArguments (as : List Argument) : Text := Text.commas (argumentTexts as)

/-- The texts of arguments, one by one. -/
theorem argumentTexts_eq_map (as : List Argument) : argumentTexts as = as.map Argument.text := by
  induction as with
  | nil => simp [argumentTexts]
  | cons a as ih => simp [argumentTexts, ih]

/-- The texts of groups, one by one. -/
theorem groupTexts_eq_map (gs : List (List Argument)) : groupTexts gs = gs.map joinArguments := by
  induction gs with
  | nil => simp [groupTexts]
  | cons g gs ih => simp [groupTexts, joinArguments, ih]

end SequenceBridge
