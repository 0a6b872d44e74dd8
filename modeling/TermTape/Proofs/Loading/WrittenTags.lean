import Mathlib.Data.List.TakeWhile
import TermTape.Loading.Link
import TermTape.Proofs.Number.Digits

/-!
# Written tags

A tag of a link is written as its name and pairs of the name and the value of an attribute. Names and
values stand with any blanks around them, values with quotes of either kind or without, and the name
of the tag is in letters of any case. The attributes that are found in a tag are the pairs that are
written there (`Tag.attributes_eq`), whatever else their values look like.

The case of a letter is that of Unicode in the name of a tag, where the sign of the kelvin is a `k`.
-/
namespace TermTape.Link

/-! ## Tags -/

/-- Blank characters. -/
structure Blanks where
  text : List Char
  blank : ∀ c ∈ text, isBlank c = true

/-- The name of an attribute. -/
structure Name where
  first : Char
  others : List Char
  alpha : first.isAlpha = true
  inside : ∀ c ∈ others, c.isAlphanum = true ∨ c = '_' ∨ c = ':' ∨ c = '-'

def Name.text (name : Name) : List Char := name.first :: name.others

/-- How a value is written: between quotes of either kind, or without quotes. -/
inductive Quoting (value : List Char) where
  | double (inside : ∀ c ∈ value, c ≠ '"' ∧ c ≠ '>')
  | single (inside : ∀ c ∈ value, c ≠ '\x27' ∧ c ≠ '>')
  | bare (filled : value ≠ [])
      (inside : ∀ c ∈ value, isBlank c = false ∧ c ≠ '"' ∧ c ≠ '\x27' ∧ c ≠ '>')

def Quoting.text {value : List Char} : Quoting value → List Char
  | .double _ => '"' :: value ++ ['"']
  | .single _ => '\x27' :: value ++ ['\x27']
  | .bare _ _ => value

/-- A name and a value with blanks before them, and around the sign between them. -/
structure Pair where
  gap : Blanks
  name : Name
  before : Blanks
  after : Blanks
  value : List Char
  quoting : Quoting value
  apart : gap.text ≠ []

/-- The pair from its name on. -/
def Pair.ink (pair : Pair) : List Char :=
  pair.name.text ++ (pair.before.text ++ '=' :: (pair.after.text ++ pair.quoting.text))

def Pair.text (pair : Pair) : List Char := pair.gap.text ++ pair.ink

/-- The small letter of a letter. -/
def small (c : Char) : Char := if c = '\u212a' then 'k' else c.toLower

/-- The name of the tags of links. -/
def linkName : List Char := ['l', 'i', 'n', 'k']

/-- A tag of a link. -/
structure Tag where
  word : List Char
  spelled : word.map small = linkName
  pairs : List Pair
  closing : Blanks

/-- The tag after its name. -/
def Tag.tail (tag : Tag) : List Char := tag.pairs.flatMap Pair.text ++ tag.closing.text

def Tag.text (tag : Tag) : List Char := '<' :: (tag.word ++ tag.tail) ++ ['>']

variable {c : Char} {text word rest value : List Char}

/-! ## Blanks -/

/-- The blank characters. -/
def blankChars : List Char :=
  blankRanges.flatMap fun (first, last) => (List.range' first (last + 1 - first)).map Char.ofNat

private theorem of_isBlank {p : Char → Bool} (all : blankChars.all p = true)
    (blank : isBlank c = true) :
    p c = true := by
  obtain ⟨⟨first, last⟩, listed, within⟩ := List.any_eq_true.mp blank
  simp only [Bool.and_eq_true, decide_eq_true_eq] at within
  refine List.all_eq_true.mp all c
    (List.mem_flatMap.mpr ⟨_, listed, List.mem_map.mpr ⟨c.toNat, ?_, Char.ofNat_toNat c⟩⟩)
  rw [List.mem_range'_1]
  omega

private theorem inName_of_isBlank (blank : isBlank c = true) : inName c = false := by
  simpa using of_isBlank (p := fun c => !inName c) (by decide +kernel) blank

theorem isWordChar_of_isBlank (blank : isBlank c = true) : isWordChar c = false := by
  simpa using of_isBlank (p := fun c => !isWordChar c) (by decide +kernel) blank

private theorem ne_of_isBlank {d : Char} (blank : isBlank c = true) (ink : isBlank d = false) :
    c ≠ d := by
  rintro rfl
  rw [blank] at ink
  cases ink

private theorem opensName_of_inName (other : inName c = false) : opensName c = false := by
  simp only [inName, Bool.or_eq_false_iff] at other
  exact other.1.1.1.1

private theorem Name.inName_text (name : Name) : ∀ c ∈ name.text, inName c = true := by
  intro c member
  rcases List.mem_cons.mp member with rfl | member
  · simp [inName, opensName, name.alpha]
  · rcases name.inside c member with inside | rfl | rfl | rfl
    · rcases Bool.or_eq_true_iff.mp inside with alpha | digit
      · simp [inName, opensName, alpha]
      · simp [inName, digit]
    all_goals rfl

private theorem inBareValue_iff :
    inBareValue c = true ↔ isBlank c = false ∧ c ≠ '"' ∧ c ≠ '\x27' ∧ c ≠ '>' := by
  simp [inBareValue, and_assoc]

/-! ## Letters -/

private theorem toLower_of_not_isAlpha (other : c.isAlpha = false) : c.toLower = c := by
  refine dif_neg fun upper => ?_
  have capital : c.isUpper = true := decide_eq_true upper
  have alpha : c.isAlpha = true := Bool.or_eq_true_iff.mpr (.inl capital)
  rw [alpha] at other
  cases other

/-- A letter other than `k` is small in ASCII when it is small. -/
theorem toLower_of_small {d : Char} (folded : small c = d) (other : d ≠ 'k') : c.toLower = d := by
  unfold small at folded
  split at folded
  · exact absurd folded.symm other
  · exact folded

theorem toLower_of_small_k (folded : small c = 'k') : c.toLower = 'k' ∨ c = '\u212a' := by
  unfold small at folded
  split at folded
  · exact .inr ‹_›
  · exact .inl folded

theorem small_of_toLower {d : Char} (lower : c.toLower = d) (other : d ≠ '\u212a') : small c = d := by
  unfold small
  split
  · subst c
    exact absurd lower.symm other
  · exact lower

/-! ## Attributes -/

/-- What follows an attribute in a tag: nothing, or blanks. -/
def Apart (rest : List Char) : Prop := ∀ c ∈ rest.head?, isBlank c = true

theorem Blanks.apart (blanks : Blanks) : Apart blanks.text := fun c first =>
  blanks.blank c (List.mem_of_mem_head? first)

/-- Before a sign stands a blank, or nothing. -/
theorem Apart.head (apart : Apart text) {d : Char} :
    ∀ c ∈ (text ++ d :: rest).head?, isBlank c = true ∨ c = d := by
  cases text with
  | nil =>
    rintro c ⟨⟩
    exact .inr rfl
  | cons first others =>
    rintro c ⟨⟩
    exact .inl (apart _ rfl)

/-- Blanks before a sign are taken up to the sign. -/
theorem dropWhile_blanks (blanks : Blanks) (rest : List Char)
    (ink : ∀ c ∈ rest.head?, isBlank c = false) :
    (blanks.text ++ rest).dropWhile isBlank = rest :=
  (takeWhile_append_stop rest blanks.blank ink).2

private theorem enclosed?_append {quote : Char} (inside : ∀ c ∈ value, c ≠ quote) :
    enclosed? quote (value ++ quote :: rest) = some (value, rest) := by
  obtain ⟨taken, dropped⟩ := takeWhile_append_stop (p := (· != quote)) (quote :: rest)
    (fun c member => by simpa using inside c member) (by simp)
  rw [enclosed?, dropped, taken]

private theorem Quoting.head_ink (quoting : Quoting value) (rest : List Char) :
    ∀ c ∈ (quoting.text ++ rest).head?, isBlank c = false := by
  cases quoting with
  | double _ | single _ =>
    rintro c ⟨⟩
    decide +kernel
  | bare filled inside =>
    obtain ⟨first, others, rfl⟩ := List.exists_cons_of_ne_nil filled
    rintro c ⟨⟩
    exact (inside _ (List.mem_cons_self ..)).1

/-- A value is read as it is meant, however it is written. -/
theorem value?_quoting (quoting : Quoting value) (apart : Apart rest) :
    value? (quoting.text ++ rest) = some (value, rest) := by
  cases quoting with
  | double inside =>
    change value? ('"' :: (value ++ ['"'] ++ rest)) = _
    rw [List.append_assoc]
    exact enclosed?_append fun c member => (inside c member).1
  | single inside =>
    change value? ('\x27' :: (value ++ ['\x27'] ++ rest)) = _
    rw [List.append_assoc]
    exact enclosed?_append fun c member => (inside c member).1
  | bare filled inside =>
    have ink : ∀ c ∈ value, inBareValue c = true := fun c member =>
      inBareValue_iff.mpr (inside c member)
    have stop : ∀ c ∈ rest.head?, inBareValue c = false := fun c first => by
      simp [inBareValue, apart c first]
    obtain ⟨taken, dropped⟩ := takeWhile_append_stop rest ink stop
    obtain ⟨first, others, rfl⟩ := List.exists_cons_of_ne_nil filled
    obtain ⟨-, double, single, -⟩ := inside first (List.mem_cons_self ..)
    change value? (first :: (others ++ rest)) = _
    rw [value?, if_neg (by simp [double, single]), if_pos (ink first (List.mem_cons_self ..))]
    exact congrArg₂ (fun value rest => some (value, rest)) taken dropped

/-- The attribute that a pair stands for. -/
def Pair.attribute (pair : Pair) : Attribute := ⟨pair.name.text, pair.value⟩

/-- A pair is read as the attribute that it stands for. -/
theorem attribute?_ink (pair : Pair) (apart : Apart rest) :
    attribute? (pair.ink ++ rest) = some (pair.attribute, rest) := by
  have stop : ∀ c ∈ (pair.before.text ++ '=' :: (pair.after.text ++ (pair.quoting.text ++ rest))).head?,
      inName c = false := by
    intro c first
    rcases pair.before.apart.head c first with blank | rfl
    · exact inName_of_isBlank blank
    · rfl
  obtain ⟨taken, dropped⟩ := takeWhile_append_stop _ pair.name.inName_text stop
  have sign := dropWhile_blanks pair.before ('=' :: (pair.after.text ++ (pair.quoting.text ++ rest)))
    (by rintro c ⟨⟩; decide +kernel)
  have opens : ((pair.ink ++ rest).head?.map opensName).getD false = true := by
    simp [Pair.ink, Name.text, opensName, pair.name.alpha]
  rw [attribute?, if_pos opens]
  simp only [Pair.ink, List.append_assoc, List.cons_append]
  rw [dropped, sign, taken]
  change (value? ((pair.after.text ++ (pair.quoting.text ++ rest)).dropWhile isBlank)).map _ = _
  rw [dropWhile_blanks pair.after _ (pair.quoting.head_ink rest), value?_quoting pair.quoting apart]
  rfl

private theorem attributes_of_none (none : attribute? (c :: rest) = none) :
    attributes (c :: rest) = attributes rest := by
  rw [attributes]
  split
  · rename_i found
    rw [none] at found
    cases found
  · rfl

private theorem attributes_of_some {pair : Attribute}
    (found : attribute? text = some (pair, rest)) :
    attributes text = pair :: attributes rest := by
  cases text with
  | nil => cases found
  | cons c text =>
    rw [attributes]
    split
    · rename_i same
      rw [found] at same
      cases same
      rfl
    · rename_i none
      rw [found] at none
      cases none

/-- Blanks hold no attribute. -/
theorem attributes_blanks (rest : List Char) (blank : ∀ c ∈ text, isBlank c = true) :
    attributes (text ++ rest) = attributes rest := by
  induction text with
  | nil => rfl
  | cons c text ih =>
    obtain ⟨first, others⟩ := List.forall_mem_cons.mp blank
    have closed : ¬ (((c :: (text ++ rest)).head?.map opensName).getD false) = true := by
      simp [opensName_of_inName (inName_of_isBlank first)]
    rw [List.cons_append, attributes_of_none (by rw [attribute?, if_neg closed]), ih others]

/-- A word that no sign of equality follows holds no attribute, nor does any ending of it. -/
theorem attributes_word (letters : ∀ c ∈ word, inName c = true)
    (stop : ∀ c ∈ rest.head?, inName c = false)
    (unassigned : '=' ∉ (rest.dropWhile isBlank).head?) :
    attributes (word ++ rest) = attributes rest := by
  induction word with
  | nil => rfl
  | cons c word ih =>
    have dropped := (takeWhile_append_stop rest letters stop).2
    have none : attribute? (c :: (word ++ rest)) = none := by
      rw [← List.cons_append, attribute?, dropped]
      split
      · split
        · rename_i equal
          rw [equal] at unassigned
          exact absurd rfl unassigned
        · rfl
      · rfl
    rw [List.cons_append, attributes_of_none none, ih (List.forall_mem_cons.mp letters).2]

/-- What stands between the pairs of a tag and after them is apart from each. -/
theorem apart_flatMap (pairs : List Pair) (closing : Blanks) :
    Apart (pairs.flatMap Pair.text ++ closing.text) := by
  intro c first
  cases pairs with
  | nil => exact closing.apart c first
  | cons pair pairs =>
    obtain ⟨blank, others, gap⟩ := List.exists_cons_of_ne_nil pair.apart
    rw [List.flatMap_cons, Pair.text, gap] at first
    cases first
    exact pair.gap.blank c (by rw [gap]; exact List.mem_cons_self ..)

/-- The attributes of written pairs are what they stand for. -/
theorem attributes_pairs (pairs : List Pair) (closing : Blanks) :
    attributes (pairs.flatMap Pair.text ++ closing.text) = pairs.map Pair.attribute := by
  induction pairs with
  | nil =>
    have none := attributes_blanks [] closing.blank
    rwa [List.append_nil, attributes] at none
  | cons pair pairs ih =>
    rw [List.flatMap_cons, Pair.text, List.append_assoc, List.append_assoc,
      attributes_blanks _ pair.gap.blank,
      attributes_of_some (attribute?_ink pair (apart_flatMap pairs closing)), ih]
    rfl

/-- The letters of the name of a tag are letters of names. -/
theorem inName_of_small (listed : small c ∈ linkName) : inName c = true := by
  by_cases kelvin : c = '\u212a'
  · subst c
    rfl
  · rw [small, if_neg kelvin] at listed
    cases alpha : c.isAlpha with
    | true => simp [inName, opensName, alpha]
    | false =>
      rw [toLower_of_not_isAlpha alpha] at listed
      have letters : ∀ d ∈ linkName, inName d = true := List.all_eq_true.mp (by decide)
      exact letters c listed

private theorem Tag.inName_word (tag : Tag) : ∀ c ∈ tag.word, inName c = true := fun c member =>
  inName_of_small (by rw [← tag.spelled]; exact List.mem_map_of_mem member)

/-- What follows the name of a tag. -/
theorem Tag.apart_tail (tag : Tag) : Apart tag.tail := apart_flatMap tag.pairs tag.closing

/-- After its blanks a tag goes on with a name, if it goes on. -/
theorem Tag.inName_tail (tag : Tag) :
    ∀ c ∈ (tag.tail.dropWhile isBlank).head?, inName c = true := by
  intro c first
  cases empty : tag.pairs with
  | nil =>
    have blank : tag.tail.dropWhile isBlank = [] := by
      rw [Tag.tail, empty]
      exact List.dropWhile_eq_nil_iff.mpr tag.closing.blank
    rw [blank] at first
    cases first
  | cons pair pairs =>
    have named : inName pair.name.first = true := pair.name.inName_text _ (List.mem_cons_self ..)
    have ink : isBlank pair.name.first = false := by
      refine Bool.eq_false_iff.mpr fun blank => ?_
      rw [inName_of_isBlank blank] at named
      cases named
    rw [Tag.tail, empty, List.flatMap_cons, Pair.text, List.append_assoc, List.append_assoc,
      dropWhile_blanks pair.gap _ (by rintro c ⟨⟩; exact ink)] at first
    cases first
    exact named

/-- The attributes of a tag are what is written there. -/
theorem Tag.attributes_eq (tag : Tag) :
    attributes ('<' :: (tag.word ++ tag.tail)) = tag.pairs.map Pair.attribute := by
  have stop : ∀ c ∈ tag.tail.head?, inName c = false := fun c first =>
    inName_of_isBlank (tag.apart_tail c first)
  have unassigned : '=' ∉ (tag.tail.dropWhile isBlank).head? := fun first =>
    Bool.noConfusion (tag.inName_tail _ first)
  rw [attributes_of_none (by rfl), attributes_word tag.inName_word stop unassigned]
  exact attributes_pairs tag.pairs tag.closing

/-! ## Ends -/

theorem Blanks.no_end (blanks : Blanks) : '>' ∉ blanks.text := fun member =>
  ne_of_isBlank (blanks.blank _ member) (by decide +kernel) rfl

theorem Quoting.no_end (quoting : Quoting value) : '>' ∉ quoting.text := by
  intro member
  cases quoting with
  | double inside =>
    simp [text] at member
    exact (inside _ member).2 rfl
  | single inside =>
    simp [text] at member
    exact (inside _ member).2 rfl
  | bare filled inside => exact (inside _ member).2.2.2 rfl

theorem Name.no_end (name : Name) : '>' ∉ name.text := fun member =>
  Bool.noConfusion (name.inName_text _ member)

/-- A tag ends with its sign, which does not stand in it before. -/
theorem Tag.no_end (tag : Tag) : '>' ∉ tag.word ++ tag.tail := by
  have word : '>' ∉ tag.word := fun member => Bool.noConfusion (tag.inName_word _ member)
  have pair (pair : Pair) : '>' ∉ pair.text := by
    simp [Pair.text, Pair.ink, pair.gap.no_end, pair.name.no_end, pair.before.no_end,
      pair.after.no_end, pair.quoting.no_end]
  simp [Tag.tail, word, pair, tag.closing.no_end]

end TermTape.Link
