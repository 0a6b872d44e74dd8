import TermTape.Text.CombiningClass
import TermTape.Text.Composites

/-!
# Normal forms of texts

Texts that show the same may differ in which characters are written by composites and in the order
of their marks. The normal form takes every character to its parts, puts the marks of each letter in
the order of their classes, and then writes by composites whatever has one.
-/
namespace TermTape

/-! ## Syllables

Syllables of the Korean script stand in the order of their letters: a first letter, a vowel, and
possibly a last letter. -/

/-- The letters that begin a syllable: the first of them and their count. -/
def firstLetters : Nat × Nat := (0x1100, 19)

/-- The vowels of syllables. -/
def vowelLetters : Nat × Nat := (0x1161, 21)

/-- The letters that may end a syllable, counted from the place before the first of them. -/
def lastLetters : Nat × Nat := (0x11a7, 28)

/-- The first syllable. -/
def firstSyllable : Nat := 0xac00

/-- The syllables with each first letter. -/
def syllablesPerLetter : Nat := vowelLetters.2 * lastLetters.2

/-- The letters of a syllable. -/
def syllableParts? (c : Char) : Option (List Char) :=
  let index := c.toNat - firstSyllable
  if c.toNat < firstSyllable || firstLetters.2 * syllablesPerLetter ≤ index then none
  else
    let first := Char.ofNat (firstLetters.1 + index / syllablesPerLetter)
    let vowel := Char.ofNat (vowelLetters.1 + index % syllablesPerLetter / lastLetters.2)
    let last := index % lastLetters.2
    some (first :: vowel :: if last = 0 then [] else [Char.ofNat (lastLetters.1 + last)])

/-- The place of a character in a range. -/
def placeIn? (range : Nat × Nat) (c : Char) : Option Nat :=
  if range.1 ≤ c.toNat && c.toNat < range.1 + range.2 then some (c.toNat - range.1) else none

/-- The syllable of a first letter and a vowel, or of a syllable without a last letter and one. -/
def syllable? (a b : Char) : Option Char :=
  match placeIn? firstLetters a, placeIn? vowelLetters b with
  | some first, some vowel =>
    some (Char.ofNat (firstSyllable + (first * vowelLetters.2 + vowel) * lastLetters.2))
  | _, _ =>
    match placeIn? (firstSyllable, firstLetters.2 * syllablesPerLetter) a,
      placeIn? lastLetters b with
    | some index, some last =>
      if index % lastLetters.2 = 0 ∧ last ≠ 0 then some (Char.ofNat (a.toNat + last)) else none
    | _, _ => none

/-! ## Parts -/

/-- The parts of a character; most have none but themselves. -/
def partsOf (c : Char) : List Char :=
  if c.toNat < 0xa0 then [c]
  else
    (((syllableParts? c).orElse fun _ => composites.image? c).orElse fun _ =>
      standIns.image? c).getD [c]

/-! ## Order -/

/-- A character with its class. -/
abbrev Classed := Nat × Char

/-- The marks of a letter, the last first, put in front of what stands before them, the last first;
marks of one class keep their order. -/
def settle (before marks : List Classed) : List Classed :=
  (marks.reverse.mergeSort fun a b => a.1 ≤ b.1).reverse ++ before

/-- The text with the marks of each letter in the order of their classes. -/
def inOrder (text : List Classed) : List Classed :=
  let (before, marks) := text.foldl (fun (before, marks) c =>
    if c.1 = 0 then (c :: settle before marks, []) else (before, c :: marks)) ([], [])
  (settle before marks).reverse

/-! ## Composites -/

/-- The composites by their parts. -/
def compositesByParts : List (List Char × Char) :=
  composites.entries.map fun (c, parts) => (parts, c)

/-- The composite of a character and one that follows it. -/
def composite? (a b : Char) : Option Char :=
  if b.toNat < 0x300 then none
  else (syllable? a b).orElse fun _ =>
    compositesByParts.lookup ((composites.image? a).getD [a] ++ [b])

/-- A text that is being written by composites: what is finished, the letter that marks may still
join, and the marks after it that joined nothing; lists have the last first. -/
structure Composer where
  finished : List Char
  letter : Option Char
  marks : List Classed

namespace Composer

/-- Nothing yet. -/
def start : Composer := ⟨[], none, []⟩

/-- All that has been written, the last first. -/
def written (composer : Composer) : List Char :=
  composer.marks.map (·.2) ++ composer.letter.toList ++ composer.finished

/-- No mark keeps a character of the class away from the letter. -/
def reaches (composer : Composer) (combining : Nat) : Bool :=
  composer.marks.head?.all fun mark => mark.1 < combining

/-- The text with one character more. -/
def push (composer : Composer) (c : Classed) : Composer :=
  let joined := if composer.reaches c.1 then composer.letter.bind (composite? · c.2) else none
  match joined with
  | some letter => { composer with letter := some letter }
  | none =>
    if c.1 = 0 then ⟨composer.written, some c.2, []⟩
    else { composer with marks := c :: composer.marks }

end Composer

/-- The normal form of a text. -/
def normalForm (text : List Char) : List Char :=
  let parts := (text.flatMap partsOf).map fun c => (combiningClass c, c)
  ((inOrder parts).foldl Composer.push .start).written.reverse

end TermTape
