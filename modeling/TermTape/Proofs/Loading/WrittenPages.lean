import Mathlib.Data.Bool.AllAny
import TermTape.Proofs.Loading.WrittenTags

/-!
# Links in any spelling

A page is written as tags of links between texts that open no tag. Which recording it leads to is
told by the names and the values of the attributes alone (`alternate_link_found`): their order, the
quotes and the blanks do not count, nor does the case of letters, nor what stands in other values.
-/
namespace TermTape.Link

/-! ## Written pages -/

/-- A text in which no tag of a link opens. -/
structure Plain where
  text : List Char
  plain : ¬ '<' :: linkName <:+: text.map small

/-- Tags with a text before them and a text after each. -/
structure Page where
  opening : Plain
  parts : List (Tag × Plain)

def Page.tags (page : Page) : List Tag := page.parts.map Prod.fst

def Page.body (page : Page) : List Char :=
  page.parts.flatMap fun part => part.1.text ++ part.2.text

def Page.text (page : Page) : List Char := page.opening.text ++ page.body

/-! ## What a page says -/

/-- The attribute has the name, in letters of ASCII of any case. -/
def Pair.Named (name : String) (pair : Pair) : Prop :=
  pair.name.text.map Char.toLower = name.toList

instance (name : String) (pair : Pair) : Decidable (pair.Named name) :=
  inferInstanceAs (Decidable (_ = _))

/-- The value of the first attribute with the name. -/
def Tag.value? (tag : Tag) (name : String) : Option (List Char) :=
  ((tag.pairs.filter (Pair.Named name)).map Pair.value).head?

/-- The value of the first attribute with the name, in small letters of ASCII. -/
def Tag.word? (tag : Tag) (name : String) : Option (List Char) :=
  (tag.value? name).map (List.map Char.toLower)

/-- The link is one to a recording. -/
def Tag.IsAlternate (tag : Tag) : Prop :=
  tag.word? "rel" = some "alternate".toList ∧
    tag.word? "type" = some "application/asciicast+json".toList

instance (tag : Tag) : Decidable tag.IsAlternate := inferInstanceAs (Decidable (_ ∧ _))

/-- The target of the first link to a recording that has one. -/
def Page.target? (page : Page) : Option (List Char) :=
  (page.tags.find? fun tag => tag.IsAlternate ∧ (tag.value? "href").isSome).bind
    fun tag => tag.value? "href"

/-- Two tags agree on what counts. The order of their attributes, further attributes, quotes, blanks
and the case of letters may differ. -/
structure Tag.Alike (tag other : Tag) : Prop where
  rel : tag.word? "rel" = other.word? "rel"
  type : tag.word? "type" = other.word? "type"
  href : tag.value? "href" = other.value? "href"

variable {c : Char} {text rest : List Char}

/-! ## Elements -/

private theorem isWordChar_end : isWordChar '>' = false := by
  decide +kernel

/-- What opens a tag is its name, in letters of any case. -/
theorem prefix_of_opensElement (opens : opensElement text = true) :
    '<' :: linkName <+: text.map small := by
  unfold opensElement at opens
  split at opens
  · rename_i l i n k rest
    simp only [Bool.and_eq_true, Bool.or_eq_true, beq_iff_eq] at opens
    obtain ⟨⟨⟨⟨hl, hi⟩, hn⟩, hk⟩, -⟩ := opens
    have last : small k = 'k' := by
      rcases hk with lower | rfl
      · exact small_of_toLower lower (by decide)
      · rfl
    refine ⟨rest.map small, ?_⟩
    simp only [List.map_cons, small_of_toLower hl (by decide), small_of_toLower hi (by decide),
      small_of_toLower hn (by decide), last]
    rfl
  · cases opens

/-- A tag opens with its name, after which the word ends. -/
theorem Tag.opens (tag : Tag) (rest : List Char) :
    opensElement ('<' :: (tag.word ++ (tag.tail ++ '>' :: rest))) = true := by
  obtain ⟨l, after, word, hl, spelled⟩ := List.map_eq_cons_iff.mp tag.spelled
  obtain ⟨i, after, rfl, hi, spelled⟩ := List.map_eq_cons_iff.mp spelled
  obtain ⟨n, after, rfl, hn, spelled⟩ := List.map_eq_cons_iff.mp spelled
  obtain ⟨k, after, rfl, hk, spelled⟩ := List.map_eq_cons_iff.mp spelled
  obtain rfl := List.map_eq_nil_iff.mp spelled
  have stop : ((tag.tail ++ '>' :: rest).head?.map isWordChar).getD false = false := by
    cases first : (tag.tail ++ '>' :: rest).head? with
    | none => rfl
    | some c =>
      rw [Option.map_some, Option.getD_some]
      rcases tag.apart_tail.head c first with blank | rfl
      · exact isWordChar_of_isBlank blank
      · exact isWordChar_end
  have last : (k.toLower == 'k' || k == '\u212a') = true := by
    simpa using toLower_of_small_k hk
  rw [word]
  simp only [List.cons_append, List.nil_append, opensElement, stop, last,
    toLower_of_small hl (by decide), toLower_of_small hi (by decide),
    toLower_of_small hn (by decide)]
  rfl

private theorem elements_cons (closed : opensElement (c :: rest) = false) :
    elements (c :: rest) = elements rest := by
  rw [elements, if_pos (by simp [closed])]

/-- A tag is an element with the attributes that are written there. -/
theorem elements_tag (tag : Tag) (rest : List Char) :
    elements (tag.text ++ rest) = tag.pairs.map Pair.attribute :: elements rest := by
  have text : tag.text ++ rest = '<' :: (tag.word ++ (tag.tail ++ '>' :: rest)) := by
    simp [Tag.text]
  have inside : ∀ c ∈ tag.word ++ tag.tail, (c != '>') = true := fun c member =>
    bne_iff_ne.mpr (ne_of_mem_of_not_mem member tag.no_end)
  obtain ⟨taken, dropped⟩ := takeWhile_append_stop (p := (· != '>')) ('>' :: rest) inside (by simp)
  rw [text, elements, if_neg (by simp [tag.opens]), if_pos (by simp), ← List.append_assoc, taken,
    dropped, tag.attributes_eq, elements_cons rfl]

/-- The opening of a tag does not reach from a text into a tag. -/
theorem prefix_before {front : List Char} (filled : front ≠ [])
    (start : '<' :: linkName <+: front ++ rest) (next : ∀ c ∈ rest.head?, c = '<') :
    '<' :: linkName <+: front := by
  rcases List.prefix_or_prefix_of_prefix start (List.prefix_append front rest) with shorter | longer
  · exact shorter
  · obtain ⟨more, whole⟩ := longer
    cases more with
    | nil => exact ⟨[], by rw [List.append_nil, ← whole, List.append_nil]⟩
    | cons d more =>
      -- the opening has one of its letters where the tag has its sign
      rw [← whole, List.prefix_append_right_inj] at start
      obtain ⟨others, rfl⟩ := start
      obtain ⟨first, letters, rfl⟩ := List.exists_cons_of_ne_nil filled
      have word := (List.cons.inj whole).2
      have sign : d = '<' := next d rfl
      have listed : d ∈ linkName := by simp [← word]
      rw [sign] at listed
      exact absurd listed (by decide)

/-- No element is found in a text that opens no tag, before the end of the page or a tag. -/
theorem elements_plain (plain : ¬ '<' :: linkName <:+: text.map small)
    (next : ∀ c ∈ rest.head?, c = '<') : elements (text ++ rest) = elements rest := by
  induction text with
  | nil => rfl
  | cons c text ih =>
    have closed : opensElement (c :: (text ++ rest)) = false := by
      refine Bool.eq_false_iff.mpr fun opens => plain ?_
      have start := prefix_of_opensElement opens
      rw [← List.cons_append, List.map_append] at start
      refine (prefix_before (by simp) start fun d first => ?_).isInfix
      rw [List.head?_map] at first
      obtain ⟨sign, opens, rfl⟩ := Option.mem_map.mp first
      rw [next sign opens]
      rfl
    have inner : ¬ '<' :: linkName <:+: text.map small := fun within =>
      plain (within.trans (List.suffix_cons ..).isInfix)
    rw [List.cons_append, elements_cons closed, ih inner]

private theorem head_parts (parts : List (Tag × Plain)) :
    ∀ c ∈ (parts.flatMap fun part => part.1.text ++ part.2.text).head?, c = '<' := by
  cases parts with
  | nil => nofun
  | cons part parts =>
    rintro c ⟨⟩
    rfl

private theorem elements_parts (parts : List (Tag × Plain)) :
    elements (parts.flatMap fun part => part.1.text ++ part.2.text) =
      parts.map fun part => part.1.pairs.map Pair.attribute := by
  induction parts with
  | nil => rw [List.flatMap_nil, elements, List.map_nil]
  | cons part parts ih =>
    rw [List.flatMap_cons, List.append_assoc, elements_tag,
      elements_plain part.2.plain (head_parts parts), ih, List.map_cons]

/-- The elements of a page are its tags. -/
theorem elements_page (page : Page) :
    elements page.text = page.tags.map fun tag => tag.pairs.map Pair.attribute := by
  rw [Page.text, Page.body, elements_plain page.opening.plain (head_parts page.parts),
    elements_parts, Page.tags, List.map_map]
  rfl

/-! ## Targets -/

private theorem valueOf?_pairs (tag : Tag) (name : String) :
    valueOf? name (tag.pairs.map Pair.attribute) = tag.value? name := by
  have named : (fun pair : Attribute => pair.name.map Char.toLower == name.toList) ∘ Pair.attribute =
      fun pair => decide (pair.Named name) :=
    funext fun _ => beq_eq_decide ..
  rw [valueOf?, List.find?_map, named, Tag.value?, List.head?_map, List.head?_filter, Option.map_map]
  rfl

/-- What a tag says decides whether it leads to its `href`. -/
theorem targetOf?_pairs (tag : Tag) :
    targetOf? (tag.pairs.map Pair.attribute) =
      if tag.IsAlternate then tag.value? "href" else none := by
  simp only [targetOf?, valueOf?_pairs]
  cases rel : tag.value? "rel" with
  | none => simp [Tag.IsAlternate, Tag.word?, rel]
  | some rel' =>
    cases type : tag.value? "type" with
    | none => simp [Tag.IsAlternate, Tag.word?, type]
    | some type' =>
      have same : (sameLetters rel' relation && sameLetters type' mediaType) = true ↔
          tag.IsAlternate := by
        simp [Tag.IsAlternate, Tag.word?, rel, type, sameLetters, relation, mediaType]
      exact if_congr same rfl rfl

/-- The first tag with a target decides. -/
theorem findSome?_tags (tags : List Tag) :
    (tags.findSome? fun tag => targetOf? (tag.pairs.map Pair.attribute)) =
      (tags.find? fun tag => tag.IsAlternate ∧ (tag.value? "href").isSome).bind
        fun tag => tag.value? "href" := by
  induction tags with
  | nil => rfl
  | cons tag tags ih =>
    rw [List.findSome?_cons, targetOf?_pairs, ih]
    by_cases alternate : tag.IsAlternate
    · cases href : tag.value? "href" <;> simp [alternate, href]
    · simp [alternate]

/-- Tags that agree on what counts have the same target. -/
theorem Tag.Alike.same_target {tag other : Tag} (alike : tag.Alike other) :
    targetOf? (tag.pairs.map Pair.attribute) = targetOf? (other.pairs.map Pair.attribute) := by
  have same : tag.IsAlternate ↔ other.IsAlternate := by
    rw [Tag.IsAlternate, Tag.IsAlternate, alike.rel, alike.type]
  rw [targetOf?_pairs, targetOf?_pairs, alike.href]
  exact if_congr same rfl rfl

private theorem findSome?_alike {tags others : List Tag}
    (alike : List.Forall₂ Tag.Alike tags others) :
    (others.findSome? fun tag => targetOf? (tag.pairs.map Pair.attribute)) =
      tags.findSome? fun tag => targetOf? (tag.pairs.map Pair.attribute) := by
  induction alike with
  | nil => rfl
  | cons first others ih =>
    rw [List.findSome?_cons, List.findSome?_cons, first.same_target, ih]

private theorem find?_text (page : Page) : find? page.text =
    page.tags.findSome? fun tag => targetOf? (tag.pairs.map Pair.attribute) := by
  rw [find?, elements_page, List.findSome?_map]
  rfl

/-- The link of a page is the first `href` of the first tag that has one and whose first `rel` and
first `type` are those of a recording, in any spelling of the page. A page whose tags agree on these
values, one by one, has the same link. -/
theorem alternate_link_found (page : Page) :
    find? page.text = page.target? ∧
      ∀ other : Page, List.Forall₂ Tag.Alike page.tags other.tags →
        find? other.text = find? page.text := by
  refine ⟨?_, fun other alike => ?_⟩
  · rw [find?_text, findSome?_tags, Page.target?]
  · rw [find?_text, find?_text, findSome?_alike alike]

/-- A single space. -/
def space : Blanks := ⟨[' '], List.all_eq_true.mp (by decide)⟩

/-- No blanks. -/
def tight : Blanks := ⟨[], nofun⟩

/-- A name in capitals or small letters. -/
def named (first : Char) (others : List Char) (alpha : first.isAlpha = true)
    (inside : others.all Char.isAlphanum = true) : Name :=
  ⟨first, others, alpha, fun c member => .inl (List.all_eq_true.mp inside c member)⟩

/-- A page whose one tag is in capitals. -/
def capitals : Page where
  opening := ⟨[], by decide⟩
  parts := [(⟨['L', 'I', 'N', 'K'], by decide,
    [⟨space, named 'H' ['R', 'E', 'F'] rfl rfl, tight, tight, ['x'],
        .single (List.all_iff_forall_prop.mp (by decide)), nofun⟩,
      ⟨space, named 'R' ['E', 'L'] rfl rfl, tight, tight, "alternate".toList,
        .bare (by decide) (List.all_iff_forall_prop.mp (by decide)), nofun⟩,
      ⟨space, named 'T' ['Y', 'P', 'E'] rfl rfl, tight, tight, "application/asciicast+json".toList,
        .double (List.all_iff_forall_prop.mp (by decide)), nofun⟩], tight⟩, ⟨[], by decide⟩)]

/-- The same link with its attributes in another order, after one whose value looks like another. -/
def rearranged : Page where
  opening := ⟨"<lin".toList, by decide +kernel⟩
  parts := [(⟨['l', 'i', 'n', '\u212a'], by decide,
    [⟨space, named 't' ['o'] rfl rfl, space, tight, "<link rel=no".toList,
        .double (List.all_iff_forall_prop.mp (by decide)), nofun⟩,
      ⟨space, named 't' ['y', 'p', 'e'] rfl rfl, tight, space, "Application/Asciicast+JSON".toList,
        .bare (by decide) (List.all_iff_forall_prop.mp (by decide)), nofun⟩,
      ⟨space, named 'r' ['e', 'l'] rfl rfl, tight, tight, "ALTERNATE".toList,
        .single (List.all_iff_forall_prop.mp (by decide)), nofun⟩,
      ⟨space, named 'h' ['r', 'e', 'f'] rfl rfl, tight, tight, ['x'],
        .bare (by decide) (List.all_iff_forall_prop.mp (by decide)), nofun⟩], space⟩,
    ⟨['>'], by decide⟩)]

/-- Both pages have the link. -/
theorem alternate_link_found_rearranged :
    find? capitals.text = some ['x'] ∧ find? rearranged.text = find? capitals.text := by
  obtain ⟨found, same⟩ := alternate_link_found capitals
  exact ⟨found.trans (by decide +kernel),
    same rearranged (.cons ⟨by decide +kernel, by decide +kernel, by decide +kernel⟩ .nil)⟩

example : capitals.text =
    "<LINK HREF='x' REL=alternate TYPE=\"application/asciicast+json\">".toList := by
  decide +kernel

end TermTape.Link
