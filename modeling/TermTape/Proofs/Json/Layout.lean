import TermTape.Proofs.Json.Written

/-!
# Printed lists and objects

A printed list is read as its items (`reads_list`), and the members of a printed object one after
another (`readMembers_interior`), when what is printed for each of them is read as its value
(`Reads`, `ReadsMembers`).
-/
namespace TermTape.Json

variable {α σ : Type} {ending : Ending} {rest : Bytes}

/-! ## Lines -/

namespace Print

/-- What stands between the brackets around printed items. -/
def interior (level : Nat) (items : List (List String)) : List String :=
  if items.isEmpty then [] else lines (level + 1) true items ++ "\n" :: indent level

private theorem bytes_bracketed (opening closing : String) (level : Nat)
    (items : List (List String)) :
    bytes (bracketed opening closing level items) =
      textBytes opening ++ (bytes (interior level items) ++ textBytes closing) := by
  unfold bracketed interior
  split <;> simp

/-- The items of an object. -/
def items (members : List (String × List String)) : List (List String) :=
  members.map fun (key, value) => member key value

private theorem items_cons (key : String) (printed : List String)
    (others : List (String × List String)) :
    items ((key, printed) :: others) = member key printed :: items others := rfl

private theorem bytes_object (level : Nat) (members : List (String × List String)) :
    bytes (object level members) =
      byte '\x7b' :: (bytes (interior level (items members)) ++ [byte '\x7d']) :=
  bytes_bracketed "\x7b" "\x7d" level (items members)

private theorem bytes_list (level : Nat) (items : List (List String)) :
    bytes (list level items) = byte '[' :: (bytes (interior level items) ++ [byte ']']) :=
  bytes_bracketed "[" "]" level items

/-- The bytes around items that are there. -/
theorem bytes_interior_cons (level : Nat) (item : List String) (others : List (List String))
    (rest : Bytes) :
    bytes (interior level (item :: others)) ++ rest =
      bytes (lines (level + 1) true (item :: others)) ++
        byte '\n' :: (bytes (indent level) ++ rest) := by
  have line : textBytes "\n" = [byte '\n'] := rfl
  simp [interior, line]

/-- The bytes of a printed member up to its colon. -/
theorem bytes_member (key : String) (value : List String) :
    bytes (member key value) = byte '"' :: (Utf8.encode (key.toList.flatMap escaped) ++
      byte '"' :: byte ':' :: byte ' ' :: bytes value) := by
  have colon : textBytes ": " = [byte ':', byte ' '] := rfl
  simp [member, bytes_string, quoted, colon]

end Print

private theorem blank_indent (level : Nat) : Blank (Print.bytes (Print.indent level)) := by
  intro b member
  obtain ⟨segment, line, inside⟩ := List.mem_flatMap.mp member
  rw [List.eq_of_mem_replicate line] at inside
  have two : (textBytes "  ").all isGap = true := by decide
  exact List.all_eq_true.mp two b inside

private theorem blank_line (level : Nat) : Blank (byte '\n' :: Print.bytes (Print.indent level)) :=
  List.forall_mem_cons.mpr ⟨rfl, blank_indent level⟩

/-- The byte follows a printed value: a comma, or the end of its line. -/
def Follows (b : UInt8) : Prop := b = byte ',' ∨ b = byte '\n'

theorem Follows.delimits {b : UInt8} (follows : Follows b) : Delimits b := by
  rcases follows with rfl | rfl <;> constructor <;> decide

/-- Lines that follow a printed value begin with a comma or end its line. -/
theorem lines_follow (level : Nat) (items : List (List String)) (rest : Bytes) :
    ∃ b more, Follows b ∧
      Print.bytes (Print.lines level false items) ++ byte '\n' :: rest = b :: more := by
  cases items with
  | nil => exact ⟨_, _, .inr rfl, rfl⟩
  | cons item others => exact ⟨_, _, .inl rfl, rfl⟩

/-- A line of a list or an object: what separates it from the line before, its blanks, and the item. -/
theorem bytes_line (level : Nat) (first : Bool) (item : List String) (others : List (List String))
    (rest : Bytes) :
    Print.bytes (Print.lines level first (item :: others)) ++ rest =
      (if first then [] else [byte ',']) ++ ((byte '\n' :: Print.bytes (Print.indent level)) ++
        (Print.bytes item ++ (Print.bytes (Print.lines level false others) ++ rest))) := by
  have comma : textBytes ",\n" = [byte ',', byte '\n'] := rfl
  have line : textBytes "\n" = [byte '\n'] := rfl
  cases first <;> simp [Print.lines, comma, line]

/-! ## Objects -/

/-- A reader reads what is printed for a value as the value, up to a byte that follows it. -/
def Reads (reader : Reader α) (printed : List String) (x : α) : Prop :=
  ∀ gap b rest, Blank gap → Follows b →
    Gives (reader (gap ++ (Print.bytes printed ++ b :: rest))) x (b :: rest)

/-- Printed members are read one after another, each after its key. -/
inductive ReadsMembers (member : σ → String → Reader σ) : σ → List (String × List String) → σ → Prop where
  | nil (state : σ) : ReadsMembers member state [] state
  | cons {before state after : σ} {key : String} {printed : List String}
      {others : List (String × List String)}
      (first : ∀ b rest, Follows b → Gives (member before key
        (byte ':' :: byte ' ' :: (Print.bytes printed ++ b :: rest))) state (b :: rest))
      (more : ReadsMembers member state others after) :
      ReadsMembers member before ((key, printed) :: others) after

/-- The key of a printed member is read up to its colon. -/
theorem nextKey_line (level : Nat) (first : Bool) (key : String) (printed : List String)
    (others : List (List String)) (rest : Bytes) :
    NextKey ending first
      (Print.bytes (Print.lines level first (Print.member key printed :: others)) ++ rest) key
      (byte ':' :: byte ' ' :: (Print.bytes printed ++
        (Print.bytes (Print.lines level false others) ++ rest))) := by
  rw [bytes_line, Print.bytes_member]
  simp only [List.append_assoc, List.cons_append]
  cases first with
  | true =>
    exact nextKey_first (skipGap_solid (blank_line level) rfl _) (readText_printed ending key _)
  | false =>
    exact nextKey_later (skipGap_cons rfl _) (skipGap_solid (blank_line level) rfl _)
      (readText_printed ending key _)

/-- The members of a printed object are read up to the end of the last line. -/
theorem readMembers_lines {member : σ → String → Reader σ} {before after : σ}
    {members : List (String × List String)} (reads : ReadsMembers member before members after)
    (level : Nat) (first : Bool) {gap : Bytes} (blank : Blank (byte '\n' :: gap)) (rest : Bytes) :
    Gives (readMembers ending member first before
        (Print.bytes (Print.lines level first (Print.items members)) ++
          byte '\n' :: (gap ++ byte '}' :: rest)))
      after (byte '\n' :: (gap ++ byte '}' :: rest)) := by
  induction reads generalizing first with
  | nil => exact readMembers_end (skipGap_solid blank rfl rest)
  | @cons before state after key printed others value _ ih =>
    rw [Print.items_cons]
    refine readMembers_next (nextKey_line level first key printed _ _) ?_ (ih false)
    obtain ⟨b, more, follows, line⟩ := lines_follow level
      (Print.items others) (gap ++ byte '}' :: rest)
    rw [line]
    exact value b more follows

private theorem readMembers_interior {member : σ → String → Reader σ} {before after : σ}
    {members : List (String × List String)} (reads : ReadsMembers member before members after)
    (level : Nat) (rest : Bytes) :
    ∃ left, skipGap left = byte '}' :: rest ∧
      Gives (readMembers ending member true before
        (Print.bytes (Print.interior level (Print.items members)) ++ byte '}' :: rest)) after left := by
  cases reads with
  | nil => exact ⟨_, skipGap_cons rfl rest, readMembers_end (skipGap_cons rfl rest)⟩
  | cons first more =>
    refine ⟨_, skipGap_solid (blank_line level) rfl rest, ?_⟩
    rw [Print.items_cons, Print.bytes_interior_cons]
    exact readMembers_lines (.cons first more) (level + 1) true (blank_line level) rest

/-- A printed object is read as what its members make. -/
theorem readBracketed_printed [Rounding] {expected : String} {x : α}
    {list : (input : Bytes) → Except Fault (α × AtMost input)}
    {object : (input : Bytes) → Except Fault (α × AtMost input)}
    {member : σ → String → Reader σ} {before after : σ} {members : List (String × List String)}
    (reads : ReadsMembers member before members after)
    (made : ∀ input left, Gives (readMembers ending member true before input) after left →
      Gives (object input) x left)
    (level : Nat) {gap : Bytes} (blank : Blank gap) (rest : Bytes) :
    Gives (readBracketed ending expected list (some object)
      (gap ++ (Print.bytes (Print.object level members) ++ rest))) x rest := by
  obtain ⟨left, close, given⟩ := readMembers_interior reads level rest
  rw [Print.bytes_object, List.cons_append, List.append_assoc, List.singleton_append]
  exact readBracketed_object (skipGap_solid blank rfl _) (made _ _ given) (closeObject_leaves close)

/-! ## Lists -/

/-- What is printed for a value begins with a byte that closes no list. -/
def Opens (printed : List String) : Prop :=
  ∃ b more, Print.bytes printed = b :: more ∧ isGap b = false ∧ b ≠ byte ']'

private theorem nextItem_line (level : Nat) (first : Bool) {item : List String} (opens : Opens item)
    (others : List (List String)) (rest : Bytes) :
    ∃ h, nextItem ending first
      (Print.bytes (Print.lines level first (item :: others)) ++ rest) =
        .ok (some ⟨Print.bytes item ++ (Print.bytes (Print.lines level false others) ++ rest), h⟩) := by
  obtain ⟨b, more, bytes, solid, other⟩ := opens
  rw [bytes_line, bytes, List.cons_append]
  cases first with
  | true => exact nextItem_first (skipGap_solid (blank_line level) solid _) other
  | false => exact nextItem_later (skipGap_cons rfl _) (skipGap_solid (blank_line level) solid _) other

/-- Printed items are read as a list of values. -/
inductive ReadsItems (item : Reader α) : List (List String) → List α → Prop where
  | nil : ReadsItems item [] []
  | cons {printed : List String} {x : α} {others : List (List String)} {values : List α}
      (opens : Opens printed) (first : Reads item printed x) (more : ReadsItems item others values) :
      ReadsItems item (printed :: others) (x :: values)

/-- The items of a printed list are read up to the end of the last line. -/
theorem readItems_lines {item : Reader α} {printed : List (List String)} {values : List α}
    (reads : ReadsItems item printed values) (level : Nat) (first : Bool) (before : List α)
    {gap : Bytes} (blank : Blank (byte '\n' :: gap)) (rest : Bytes) :
    Gives (readItems ending item first before
        (Print.bytes (Print.lines level first printed) ++ byte '\n' :: (gap ++ byte ']' :: rest)))
      (before.reverse ++ values) (byte '\n' :: (gap ++ byte ']' :: rest)) := by
  induction reads generalizing first before with
  | nil =>
    rw [List.append_nil]
    exact readItems_end (skipGap_solid blank rfl rest)
  | @cons printed x others values opens value _ ih =>
    have later := ih false (x :: before)
    rw [List.reverse_cons, List.append_assoc, List.singleton_append] at later
    refine readItems_next (nextItem_line level first opens others _) ?_ later
    obtain ⟨b, more, follows, line⟩ := lines_follow level others (gap ++ byte ']' :: rest)
    rw [line]
    exact value [] b more (by simp [Blank]) follows

/-- A printed list is read as its values. -/
theorem readListOf_printed [Rounding] {item : Reader α} {printed : List (List String)} {values : List α}
    (reads : ReadsItems item printed values) (level : Nat) {gap : Bytes} (blank : Blank gap)
    (rest : Bytes) :
    Gives (readListOf ending item (gap ++ (Print.bytes (Print.list level printed) ++ rest)))
      values rest := by
  rw [Print.bytes_list, List.cons_append, List.append_assoc, List.singleton_append]
  have next := skipGap_solid (b := byte '[') blank rfl
    (Print.bytes (Print.interior level printed) ++ byte ']' :: rest)
  cases reads with
  | nil =>
    exact readBracketed_list next (readItems_end (skipGap_cons rfl rest))
      (closeList_leaves (skipGap_cons rfl rest))
  | cons opens value more =>
    refine readBracketed_list next ?_ (closeList_leaves (skipGap_solid (blank_line level) rfl rest))
    rw [Print.bytes_interior_cons]
    exact readItems_lines (.cons opens value more) (level + 1) true [] (blank_line level) rest

end TermTape.Json
