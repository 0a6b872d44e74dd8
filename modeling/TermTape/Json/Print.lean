import TermTape.Number.Layout
import TermTape.Text.Utf8

/-!
# Printed JSON

JSON over several lines, two blanks for each level. The text is produced in segments, in the order
in which a writer receives them; joined they are the text.
-/
namespace TermTape.Json.Print

/-- The letters of an escaped character in a string: quotes, backslashes and controls have escapes,
and nothing else. -/
def escape? (c : Char) : Option (List Char) :=
  if c == '"' || c == '\\' then some ['\\', c]
  else if c == '\x08' then some ['\\', 'b']
  else if c == '\x0c' then some ['\\', 'f']
  else if c == '\n' then some ['\\', 'n']
  else if c == '\r' then some ['\\', 'r']
  else if c == '\t' then some ['\\', 't']
  else if c.toNat < 0x20 then
    some (['\\', 'u', '0', '0'] ++ (paddedHex c.toNat))
  else none
where
  /-- Two hexadecimal digits. -/
  paddedHex (n : Nat) : List Char :=
    let digits := Nat.toDigits 16 n
    List.replicate (2 - digits.length) '0' ++ digits

/-- A run of characters as a segment, if there are any. -/
def flush (run : List Char) : List String :=
  if run.isEmpty then [] else [String.ofList run.reverse]

/-- The contents of a string after a run of plain characters in reverse order: runs of plain
characters, and escapes between them. -/
def contents (run : List Char) : List Char → List String
  | [] => flush run
  | c :: rest =>
    match escape? c with
    | none => contents (c :: run) rest
    | some letters => flush run ++ String.ofList letters :: contents [] rest

/-- A string between its quotes. -/
def string (text : String) : List String :=
  "\"" :: contents [] text.toList ++ ["\""]

/-- The start of a line at a level. -/
def indent (level : Nat) : List String := List.replicate level "  "

/-- Items on lines of their own at a level, a comma after each but the last. -/
def lines (level : Nat) : Bool → List (List String) → List String
  | _, [] => []
  | first, item :: rest =>
    (if first then "\n" else ",\n") :: indent level ++ item ++ lines level false rest

/-- Items between brackets at a level; brackets without items stand on one line. -/
def bracketed (opening closing : String) (level : Nat) (items : List (List String)) :
    List String :=
  if items.isEmpty then [opening, closing]
  else opening :: lines (level + 1) true items ++ "\n" :: indent level ++ [closing]

/-- A member of an object. -/
def member (key : String) (value : List String) : List String :=
  string key ++ ": " :: value

/-- An object at a level. -/
def object (level : Nat) (members : List (String × List String)) : List String :=
  bracketed "\x7b" "\x7d" level (members.map fun (key, value) => member key value)

/-- A list at a level. -/
def list (level : Nat) (items : List (List String)) : List String :=
  bracketed "[" "]" level items

end TermTape.Json.Print
