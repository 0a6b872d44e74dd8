import TermTape.Number.Binary64

/-!
# Numbers and truth values in texts

The readers of setting values. A real number is an optional sign and a decimal with an optional
exponent, or a name of infinity or of not-a-number in any letter case. A whole number is an optional
sign and digits; the first digit that is none, or that carries the value out of its range, decides
the fault.
-/
namespace TermTape

/-- Why a text is not a value of its kind. -/
inductive ValueFault where
  | emptyReal
  | notReal
  | emptyWhole
  | notDigit
  | tooGreat
  | tooSmall
  | notTruth
  deriving DecidableEq, Repr

/-- The wording of a fault. -/
def ValueFault.message : ValueFault → String
  | .emptyReal => "cannot parse float from empty string"
  | .notReal => "invalid float literal"
  | .emptyWhole => "cannot parse integer from empty string"
  | .notDigit => "invalid digit found in string"
  | .tooGreat => "number too large to fit in target type"
  | .tooSmall => "number too small to fit in target type"
  | .notTruth => "provided string was not `true` or `false`"

/-- The value of a decimal digit. -/
def digitValue (c : Char) : Nat := c.toNat - '0'.toNat

/-- The value of a list of decimal digits. -/
def digitsValue (digits : List Char) : Nat :=
  digits.foldl (fun n c => 10 * n + digitValue c) 0

/-! ## Real numbers -/

/-- The exponent after its letter: an optional sign and one digit at least. -/
def exponentOf? (text : List Char) : Option Int :=
  let unsigned (digits : List Char) : Option Nat :=
    if digits.isEmpty || !digits.all Char.isDigit then none else some (digitsValue digits)
  match text with
  | '-' :: digits => (unsigned digits).map fun n => -(n : Int)
  | '+' :: digits => (unsigned digits).map Int.ofNat
  | digits => (unsigned digits).map Int.ofNat

/-- The number of an unsigned decimal: digits on one side of the point at least, then an exponent
or the end. -/
def decimalOf? (negative : Bool) (text : List Char) : Option Binary64 :=
  let whole := text.takeWhile Char.isDigit
  let afterWhole := text.dropWhile Char.isDigit
  let (fraction, rest) := match afterWhole with
    | '.' :: more => (more.takeWhile Char.isDigit, more.dropWhile Char.isDigit)
    | other => ([], other)
  let digits := digitsValue (whole ++ fraction)
  let places : Int := fraction.length
  if whole.isEmpty && fraction.isEmpty then none
  else match rest with
    | [] => some (.ofDecimal negative digits (-places))
    | letter :: more =>
      if letter == 'e' || letter == 'E' then
        (exponentOf? more).map fun exponent => .ofDecimal negative digits (exponent - places)
      else none

/-- A number after its sign: a name or a decimal. -/
def unsignedRealOf? (negative : Bool) (text : List Char) : Option Binary64 :=
  let name := String.ofList (text.map Char.toLower)
  if name == "nan" then some .nan
  else if name == "inf" || name == "infinity" then some (.infinite negative)
  else decimalOf? negative text

/-- The real number that a text denotes. -/
def readReal (text : String) : Except ValueFault Binary64 :=
  let number := match text.toList with
    | '-' :: rest => unsignedRealOf? true rest
    | '+' :: rest => unsignedRealOf? false rest
    | rest => unsignedRealOf? false rest
  match number with
  | some x => .ok x
  | none => .error (if text.isEmpty then .emptyReal else .notReal)

/-! ## Whole numbers -/

/-- A range of whole numbers, which holds negative ones when it is signed. -/
structure WholeRange where
  least : Int
  greatest : Int

/-- Sixteen bits without a sign. -/
def WholeRange.unsigned16 : WholeRange := ⟨0, 65535⟩

/-- Sixty-four bits with a sign. -/
def WholeRange.signed64 : WholeRange := ⟨-9223372036854775808, 9223372036854775807⟩

/-- The digits of a number added to what came before them, toward one side of zero. -/
def readDigits (range : WholeRange) (negative : Bool) : Int → List Char → Except ValueFault Int
  | value, [] => .ok value
  | value, c :: rest =>
    if !c.isDigit then .error .notDigit
    else
      let next := if negative then 10 * value - digitValue c else 10 * value + digitValue c
      if next < range.least then .error .tooSmall
      else if range.greatest < next then .error .tooGreat
      else readDigits range negative next rest

/-- The whole number that a text denotes; a minus sign is no digit of an unsigned range. -/
def readWhole (range : WholeRange) (text : String) : Except ValueFault Int :=
  match text.toList with
  | [] => .error .emptyWhole
  | ['+'] | ['-'] => .error .notDigit
  | '+' :: digits => readDigits range false 0 digits
  | '-' :: digits =>
    if range.least < 0 then readDigits range true 0 digits else .error .notDigit
  | digits => readDigits range false 0 digits

/-! ## Truth values -/

/-- The truth value that a text denotes, in lower case letters. -/
def readTruth (text : String) : Except ValueFault Bool :=
  if text == "true" then .ok true
  else if text == "false" then .ok false
  else .error .notTruth

end TermTape
