import TermTape.Proofs.Json.Written

/-!
# The grammar of values

A text is a value of JSON (`IsValue`) by its parts: a numeral, a string, the items of a list with
the blanks around them, and the members of an object. It says nothing of which code units pair, of
the size of a number, or of how often a key stands.
-/
namespace TermTape.Json

/-! ## Blanks and strings -/

/-- Blanks between the parts of a text. -/
def Spaces (gap : List Char) : Prop := ∀ c ∈ gap, c ∈ [' ', '\n', '\t', '\r']

instance (gap : List Char) : Decidable (Spaces gap) := List.decidableBAll _ gap

/-- The code unit of four hexadecimal digits. -/
def unitOf? (a b c d : Char) : Option Nat :=
  if [a, b, c, d].all (·.toNat < 128) then hexUnit? (byte a) (byte b) (byte c) (byte d) else none

/-- Letters that may stand between the quotes of a string. -/
inductive Letters : List Char → Prop where
  | nil : Letters []
  | plain {c : Char} {rest : List Char} (plain : PlainChar c) (more : Letters rest) :
      Letters (c :: rest)
  | short {letter : Char} {rest : List Char}
      (listed : letter ∈ ['"', '\\', '/', 'b', 'f', 'n', 'r', 't']) (more : Letters rest) :
      Letters ('\\' :: letter :: rest)
  | unit {a b c d : Char} {rest : List Char} (digits : (unitOf? a b c d).isSome = true)
      (more : Letters rest) : Letters ('\\' :: 'u' :: a :: b :: c :: d :: rest)

/-- A string around its letters. -/
def quotes (letters : List Char) : List Char := '"' :: (letters ++ ['"'])

/-! ## Numerals -/

/-- The exponent of a numeral: its letter, its sign if it has one, and its digits. -/
structure Exponent where
  large : Bool
  sign : Option Bool
  digits : List Char
  nonempty : digits ≠ []
  decimal : ∀ c ∈ digits, c.isDigit = true

/-- The sign of an exponent as it is written. -/
def Exponent.signText (exponent : Exponent) : List Char :=
  match exponent.sign with
  | none => []
  | some false => ['+']
  | some true => ['-']

/-- The text of an exponent. -/
def Exponent.text (exponent : Exponent) : List Char :=
  (if exponent.large then 'E' else 'e') :: (exponent.signText ++ exponent.digits)

/-- A numeral: its sign, its whole part, and the digits after its point if it has one. -/
structure Numeral where
  negative : Bool
  whole : Nat
  fraction : List Char
  decimal : ∀ c ∈ fraction, c.isDigit = true
  exponent : Option Exponent

namespace Numeral

/-- What follows the digits of the whole part. -/
def tail (numeral : Numeral) : List Char :=
  (if numeral.fraction = [] then [] else '.' :: numeral.fraction) ++
    (match numeral.exponent with
      | none => []
      | some exponent => exponent.text)

/-- The text of a numeral. -/
def text (numeral : Numeral) : List Char :=
  signChars numeral.negative ++ (Nat.toDigits 10 numeral.whole ++ numeral.tail)

end Numeral

/-! ## Lists and objects -/

/-- The parts between two brackets, a comma between each two; or blanks where there are none. -/
def interior (gap : List Char) : List (List Char) → List Char
  | [] => gap
  | part :: others => part ++ others.flatMap (',' :: ·)

/-- An item of a list with the blanks around it. -/
structure Item where
  before : List Char
  value : List Char
  after : List Char

/-- The text of an item. -/
def Item.text (item : Item) : List Char := item.before ++ (item.value ++ item.after)

/-- Blanks stand around an item. -/
structure Item.Spaced (item : Item) : Prop where
  before : Spaces item.before
  after : Spaces item.after

/-- A member of an object: the letters of its key, its value, and the blanks around both. -/
structure Member where
  before : List Char
  letters : List Char
  middle : List Char
  later : List Char
  value : List Char
  after : List Char

/-- The value of a member with the blanks around it. -/
def Member.item (member : Member) : Item := ⟨member.later, member.value, member.after⟩

/-- The text of a member after its key. -/
def Member.rest (member : Member) : List Char := member.middle ++ ':' :: member.item.text

/-- The text of a member. -/
def Member.text (member : Member) : List Char :=
  member.before ++ (quotes member.letters ++ member.rest)

/-- Blanks stand around the parts of a member, and its key is a string. -/
structure Member.Formed (member : Member) : Prop where
  before : Spaces member.before
  letters : Letters member.letters
  middle : Spaces member.middle
  item : member.item.Spaced

/-- The character that opens a bracket. -/
def Bracket.opener : Bracket → Char
  | .list => '['
  | .object => '\x7b'

/-- The character that closes a bracket. -/
def Bracket.closer : Bracket → Char
  | .list => ']'
  | .object => '\x7d'

/-- Parts between a pair of brackets. -/
def Bracket.around (bracket : Bracket) (gap : List Char) (parts : List (List Char)) : List Char :=
  bracket.opener :: (interior gap parts ++ [bracket.closer])

/-- The text of a list. -/
def listText (gap : List Char) (items : List Item) : List Char :=
  Bracket.list.around gap (items.map Item.text)

/-- The text of an object. -/
def objectText (gap : List Char) (members : List Member) : List Char :=
  Bracket.object.around gap (members.map Member.text)

/-- The text is a value. -/
inductive IsValue : List Char → Prop where
  | null : IsValue ['n', 'u', 'l', 'l']
  | truth : IsValue ['t', 'r', 'u', 'e']
  | falsity : IsValue ['f', 'a', 'l', 's', 'e']
  | number (numeral : Numeral) : IsValue numeral.text
  | string {letters : List Char} (body : Letters letters) : IsValue (quotes letters)
  | list {gap : List Char} {items : List Item} (blank : Spaces gap)
      (spaced : ∀ item ∈ items, item.Spaced) (values : ∀ item ∈ items, IsValue item.value) :
      IsValue (listText gap items)
  | object {gap : List Char} {members : List Member} (blank : Spaces gap)
      (formed : ∀ member ∈ members, member.Formed)
      (values : ∀ member ∈ members, IsValue member.value) : IsValue (objectText gap members)

end TermTape.Json
