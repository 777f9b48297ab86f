import SequenceBridge.Duration.Printer
import SequenceBridge.Text.Quoted

/-! # Reading durations
Two written forms are read. The **full** form is `[+-]DDDThh:mm:ss[.fff]`; the **simple** form is
`[+-]hh:mm:ss[.fff]` or a bare count of seconds `[+-]S[.fff]`. A digit of a form may be a decimal
digit of any script, but only ASCII digits can be read as numbers.

* **`Duration.Writing`** — the pieces of a text in one of the two forms.
* **`Duration.full?`**, **`Duration.simple?`** — a text taken apart by either form.
* **`Duration.parse`** — the duration that a text in either form denotes.
* **`Duration.ParseError`** — why a text denotes none.
-/

namespace SequenceBridge

namespace Duration

/-- The **pieces of a text** in one of the two forms; an absent piece is empty. `total` is a bare
count of seconds and `fraction` the digits after the point. -/
structure Writing where
  isNegative : Bool
  days : Text
  hours : Text
  minutes : Text
  seconds : Text
  total : Text
  fraction : Text
  deriving DecidableEq, Repr

/-- A text without the sign at its front, and whether that sign is a minus. -/
def splitSign : Text → Bool × Text
  | '-' :: rest => (true, rest)
  | '+' :: rest => (false, rest)
  | t => (false, t)

/-- The digits of an optional fraction that ends a text: a point and at least one digit, or nothing
at all. -/
def fraction? : Text → Option Text
  | [] => some []
  | '.' :: digits => if digits ≠ [] ∧ digits.all isDecimalDigit = true then some digits else none
  | _ => none

/-- Three pairs of digits between colons, and what follows them. -/
def clock? : Text → Option ((Text × Text × Text) × Text)
  | h₁ :: h₂ :: ':' :: m₁ :: m₂ :: ':' :: s₁ :: s₂ :: rest =>
    if [h₁, h₂, m₁, m₂, s₁, s₂].all isDecimalDigit = true then
      some (([h₁, h₂], [m₁, m₂], [s₁, s₂]), rest)
    else
      none
  | _ => none

/-- A text taken apart by the **full form** `[+-]DDDThh:mm:ss[.fff]`. -/
def full? (t : Text) : Option Writing :=
  match splitSign t with
  | (isNegative, d₁ :: d₂ :: d₃ :: 'T' :: body) =>
    if [d₁, d₂, d₃].all isDecimalDigit = true then do
      let ((hours, minutes, seconds), rest) ← clock? body
      let fraction ← fraction? rest
      return ⟨isNegative, [d₁, d₂, d₃], hours, minutes, seconds, [], fraction⟩
    else
      none
  | _ => none

/-- A text taken apart by the **simple form** `[+-]hh:mm:ss[.fff]` or `[+-]S[.fff]`. -/
def simple? (t : Text) : Option Writing :=
  match splitSign t with
  | (isNegative, body) =>
    match clock? body with
    | some ((hours, minutes, seconds), rest) =>
      (fraction? rest).map fun fraction =>
        ⟨isNegative, [], hours, minutes, seconds, [], fraction⟩
    | none =>
      if body.takeWhile isDecimalDigit = [] then none
      else
        (fraction? (body.dropWhile isDecimalDigit)).map fun fraction =>
          ⟨isNegative, [], [], [], [], body.takeWhile isDecimalDigit, fraction⟩

/-- Whether a text has the full form. -/
def isFull (t : Text) : Bool := (full? t).isSome

/-- Whether a text has the simple form. -/
def isSimple (t : Text) : Bool := (simple? t).isSome

/-- The 64-bit number that ASCII digits stand for; none when a digit is not ASCII or the number is
too great. No digits stand for zero. -/
def wordValue? (digits : Text) : Option UInt64 :=
  digits.natValue?.bind fun n => if n < UInt64.size then some (UInt64.ofNat n) else none

/-- The milliseconds of a fraction: its first three digits, zeros after it when it is shorter. A
fraction with a digit among those three that is not ASCII counts for nothing. -/
def fractionMilliseconds (fraction : Text) : UInt64 :=
  UInt64.ofNat ((Text.natValue? ((fraction ++ ['0', '0', '0']).take 3)).getD 0)

/-- The duration whose pieces are given, none when some piece is no 64-bit number. -/
def Writing.duration? (w : Writing) : Option Duration := do
  let days ← wordValue? w.days
  let hours ← wordValue? w.hours
  let minutes ← wordValue? w.minutes
  let seconds ← wordValue? w.seconds
  let total ← wordValue? w.total
  return ⟨w.isNegative, days, hours, minutes, seconds + total, fractionMilliseconds w.fraction⟩

/-- Why a text denotes no duration. -/
inductive ParseError
  /-- The text has neither form. -/
  | malformed (t : Text)
  /-- The text has one of the forms, but a piece of it is no 64-bit number. -/
  | outOfRange (t : Text)
  deriving DecidableEq, Repr

/-- The wording of a parse error. -/
def ParseError.message : ParseError → Text
  | .malformed t => "not a relative duration: ".toList ++ quoted t
  | .outOfRange t => "duration component out of range: ".toList ++ quoted t

/-- The **duration that a text denotes**, its components as they are written. The full form is tried
first. -/
def parse (t : Text) : Except ParseError Duration :=
  match full? t <|> simple? t with
  | none => .error (.malformed t)
  | some w =>
    match w.duration? with
    | none => .error (.outOfRange t)
    | some d => .ok d

/-- The balanced text of the duration that a text denotes. -/
def parseBalanced (t : Text) : Except ParseError Text := (parse t).map balancedText

end Duration

end SequenceBridge
