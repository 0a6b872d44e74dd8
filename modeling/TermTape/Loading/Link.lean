import TermTape.Text.Basic
import TermTape.Text.Word

/-!
# Links of pages

A page leads to a recording by a `link` element that gives it as an alternate of a certain type. The
page is not read as markup: an element is any text from its opening to the next `>`, and its
attributes are the pairs of a name and a value that stand in it from left to right. A value may be
between quotes of either kind or without quotes.
-/
namespace TermTape.Link

/-! ## Attributes -/

/-- An attribute of an element. -/
structure Attribute where
  name : List Char
  value : List Char
  deriving DecidableEq

/-- A name begins with the character: a letter of ASCII, or one that has the letter case of one. -/
def opensName (c : Char) : Bool := c.isAlpha || c == '\u017f' || c == '\u212a'

/-- A name goes on with the character. -/
def inName (c : Char) : Bool :=
  opensName c || c.isDigit || c == '_' || c == ':' || c == '-'

/-- A value without quotes holds the character. -/
def inBareValue (c : Char) : Bool := !isBlank c && c != '"' && c != '\x27' && c != '>'

/-- The text up to a quote, and the text after it. -/
def enclosed? (quote : Char) (text : List Char) : Option (List Char × List Char) :=
  match text.dropWhile (· != quote) with
  | [] => none
  | _ :: rest => some (text.takeWhile (· != quote), rest)

/-- The value that a text begins with, and the text after it. -/
def value? (text : List Char) : Option (List Char × List Char) :=
  match text with
  | [] => none
  | c :: rest =>
    if c == '"' || c == '\x27' then enclosed? c rest
    else if inBareValue c then some (text.takeWhile inBareValue, text.dropWhile inBareValue)
    else none

/-- The attribute that a text begins with, and the text after it. -/
def attribute? (text : List Char) : Option (Attribute × List Char) :=
  if (text.head?.map opensName).getD false then
    match (text.dropWhile inName).dropWhile isBlank with
    | '=' :: rest => (value? (rest.dropWhile isBlank)).map fun (value, rest) =>
        (⟨text.takeWhile inName, value⟩, rest)
    | _ => none
  else none

theorem length_dropWhile_le {α : Type} (p : α → Bool) (list : List α) :
    (list.dropWhile p).length ≤ list.length :=
  (List.dropWhile_sublist p).length_le

private theorem length_of_value? {text value rest : List Char}
    (h : value? text = some (value, rest)) :
    rest.length ≤ text.length := by
  unfold value? at h
  split at h
  · simp at h
  · rename_i c tail
    split at h
    · unfold enclosed? at h
      have shorter := length_dropWhile_le (fun x => x != c) tail
      split at h
      · simp at h
      · rename_i q after equal
        simp only [Option.some.injEq, Prod.mk.injEq] at h
        rw [equal] at shorter
        simp only [List.length_cons] at shorter ⊢
        rw [← h.2]
        omega
    · split at h
      · simp only [Option.some.injEq, Prod.mk.injEq] at h
        rw [← h.2]
        exact length_dropWhile_le _ _
      · simp at h

private theorem length_of_attribute? {text rest : List Char} {pair : Attribute}
    (h : attribute? text = some (pair, rest)) : rest.length < text.length := by
  unfold attribute? at h
  split at h
  · have name := length_dropWhile_le inName text
    have blank := length_dropWhile_le isBlank (text.dropWhile inName)
    split at h
    · rename_i after equal
      rw [equal] at blank
      have gap := length_dropWhile_le isBlank after
      obtain ⟨⟨value, tail⟩, found, same⟩ := Option.map_eq_some_iff.1 h
      have shorter := length_of_value? found
      simp only [Prod.mk.injEq] at same
      simp only [List.length_cons] at blank
      rw [← same.2]
      omega
    · simp at h
  · simp at h

/-- The attributes in a text, each from the first place where one begins. -/
def attributes : List Char → List Attribute
  | [] => []
  | c :: rest =>
    match _found : attribute? (c :: rest) with
    | some (pair, after) => pair :: attributes after
    | none => attributes rest
termination_by text => text.length
decreasing_by
  · have := length_of_attribute? _found
    simpa using this
  · simp

/-- The value of the first attribute of a name in ASCII letters of any case. -/
def valueOf? (name : String) (attributes : List Attribute) : Option (List Char) :=
  (attributes.find? fun pair => pair.name.map Char.toLower == name.toList).map Attribute.value

/-! ## Elements -/

/-- A text begins with a link element: with its name in letters of any case, where the word ends. -/
def opensElement (text : List Char) : Bool :=
  match text with
  | '<' :: l :: i :: n :: k :: rest =>
    l.toLower == 'l' && i.toLower == 'i' && n.toLower == 'n' &&
      (k.toLower == 'k' || k == '\u212a') && !(rest.head?.map isWordChar).getD false
  | _ => false

/-- The attributes of every link element of a page. -/
def elements : List Char → List (List Attribute)
  | [] => []
  | c :: rest =>
    if !opensElement (c :: rest) then elements rest
    else if rest.contains '>' then
      attributes (c :: rest.takeWhile (· != '>')) :: elements (rest.dropWhile (· != '>'))
    else []
termination_by text => text.length
decreasing_by
  · simp
  · have := length_dropWhile_le (fun d => d != '>') rest
    simp only [List.length_cons]
    omega

/-- The relation of the link to a recording. -/
def relation : String := "alternate"

/-- The type of a recording. -/
def mediaType : String := "application/asciicast+json"

/-- Two texts are the same but for the case of ASCII letters. -/
def sameLetters (text : List Char) (word : String) : Bool :=
  text.map Char.toLower == word.toList.map Char.toLower

/-- The target of an element that links to a recording. -/
def targetOf? (attributes : List Attribute) : Option (List Char) := do
  let rel ← valueOf? "rel" attributes
  let type ← valueOf? "type" attributes
  if sameLetters rel relation && sameLetters type mediaType then valueOf? "href" attributes
  else none

/-- The target of the first link of a page to a recording. -/
def find? (page : List Char) : Option (List Char) :=
  (elements page).findSome? targetOf?

end TermTape.Link
