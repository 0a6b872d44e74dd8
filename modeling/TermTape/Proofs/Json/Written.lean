import TermTape.Proofs.Json.Numbers
import TermTape.Proofs.Json.Strings

/-!
# Values kept as they are written

The machine passes over bytes from one place to another (`Passes`), a judgment that composes. It
passes over the digits of a number and over the body of a string (`StringBody`), so it gives a
string, and a pair of a number and a string, as they are written.
-/
namespace TermTape.Json

variable {ending : Ending} {stack : List Bracket} {place next last : Place} {bytes rest : Bytes}

/-- The machine passes over bytes, its brackets as they were, and does not end among them. -/
inductive Passes (stack : List Bracket) : Place → Bytes → Place → Prop where
  | refl (place : Place) : Passes stack place [] place
  | step {place next last : Place} {b : UInt8} {rest : Bytes} (inside : place ≠ .after)
      (goes : step place stack b = .ok (some (next, stack))) (more : Passes stack next rest last) :
      Passes stack place (b :: rest) last

namespace Passes

theorem append {front back : Bytes} (first : Passes stack place front next)
    (second : Passes stack next back last) : Passes stack place (front ++ back) last := by
  induction first with
  | refl => exact second
  | step inside goes _ ih => exact .step inside goes (ih second)

theorem one {b : UInt8} (inside : place ≠ .after)
    (goes : Json.step place stack b = .ok (some (next, stack))) : Passes stack place [b] next :=
  .step inside goes (.refl next)

/-- Bytes at which the machine stays in its place. -/
theorem stay (inside : place ≠ .after)
    (goes : ∀ b ∈ bytes, Json.step place stack b = .ok (some (place, stack))) :
    Passes stack place bytes place := by
  induction bytes with
  | nil => exact .refl place
  | cons b more ih =>
    obtain ⟨first, others⟩ := List.forall_mem_cons.mp goes
    exact .step inside first (ih others)

end Passes

theorem run_step {next : Standing} {before : Bytes} {b : UInt8} (inside : place ≠ .after ∨ stack ≠ [])
    (goes : step place stack b = .ok (some next)) :
    run ending place stack before (b :: rest) = run ending next.1 next.2 (b :: before) rest := by
  rw [run_cons inside, goes]

theorem run_passes (passes : Passes stack place bytes last) (ending : Ending) (before rest : Bytes) :
    run ending place stack before (bytes ++ rest) =
      run ending last stack (bytes.reverse ++ before) rest := by
  induction passes generalizing before with
  | refl => rfl
  | step inside goes _ ih =>
    rw [List.cons_append, run_step (.inl inside) goes, ih]
    simp

theorem run_end (before rest : Bytes) :
    run ending .after [] before rest = .ok (before.reverse, rest) := by
  rw [run]

/-! ## Numbers -/

private theorem passes_digits {digits : Bytes} (h : ∀ d ∈ digits, isDigit d = true) :
    Passes stack .whole digits .whole ∧ Passes stack .fraction digits .fraction :=
  ⟨.stay (by decide) fun d member => by simp [step, h d member],
    .stay (by decide) fun d member => by simp [step, h d member]⟩

/-- A place in which a number may begin, its sign apart. -/
def StartsNumber (stack : List Bracket) (place : Place) : Prop :=
  place ≠ .after ∧ step place stack (byte '0') = .ok (some (.zero, stack)) ∧
    ∀ d, isDigit d = true → d ≠ byte '0' → step place stack d = .ok (some (.whole, stack))

/-- The machine passes over the digits of a whole number. -/
theorem passes_whole (starts : StartsNumber stack place) (n : Nat) :
    ∃ last, (last = .zero ∨ last = .whole) ∧
      Passes stack place ((Nat.toDigits 10 n).map byte) last := by
  obtain ⟨inside, zero, digit⟩ := starts
  have digits : ∀ c ∈ Nat.toDigits 10 n, c.isDigit = true := fun _ => isDigit_of_mem_toDigits
  by_cases none : n = 0
  · subst none
    exact ⟨.zero, .inl rfl, .one inside zero⟩
  · have head := head_toDigits none
    cases text : Nat.toDigits 10 n with
    | nil => exact absurd text Nat.toDigits_ne_nil
    | cons c more =>
      rw [text] at digits head
      obtain ⟨first, others⟩ := List.forall_mem_cons.mp digits
      have other : c ≠ '0' := by simpa using head
      refine ⟨.whole, .inr rfl, .step inside (digit _ (isDigit_byte first) (byte_ne_zero first other)) ?_⟩
      exact (passes_digits (isDigit_of_mem_map others)).1

theorem passes_point (h : place = .zero ∨ place = .whole) : Passes stack place [byte '.'] .point := by
  rcases h with rfl | rfl <;> exact .one (by decide) rfl

theorem passes_fraction (some : bytes ≠ []) (digits : ∀ d ∈ bytes, isDigit d = true) :
    Passes stack .point bytes .fraction := by
  cases bytes with
  | nil => exact absurd rfl some
  | cons d more =>
    obtain ⟨first, others⟩ := List.forall_mem_cons.mp digits
    exact .step (by decide) (by simp [step, first]) (passes_digits others).2

private theorem passes_six (starts : StartsNumber stack place) (parts : Nat) :
    Passes stack place ((sixDigits parts).map byte) .fraction := by
  have digits : ∀ c ∈ places 10 6 (parts % million), c.isDigit = true :=
    fun _ => isDigit_of_mem_places
  have length := length_places 10 6 (parts % million)
  have some : (places 10 6 (parts % million)).map byte ≠ [] := by
    intro none
    rw [List.map_eq_nil_iff.mp none] at length
    cases length
  obtain ⟨last, ends, whole⟩ := passes_whole starts (parts / million)
  rw [map_sixDigits]
  exact whole.append ((passes_point ends).append (passes_fraction some (isDigit_of_mem_map digits)))

theorem startsNumber_sign : StartsNumber stack .sign :=
  ⟨by decide, rfl, fun d digit other => by simp [step, digit, other]⟩

theorem startsNumber_value : StartsNumber stack .value := by
  refine ⟨by decide, rfl, fun d digit other => ?_⟩
  have solid := isGap_of_isDigit digit
  have letter : ∀ b, isDigit b = false → d ≠ b := by
    rintro b plain rfl
    simp [digit] at plain
  simp [step, valueStep, solid, other, digit, Except.map, letter (byte 'n') (by decide),
    letter (byte 't') (by decide), letter (byte 'f') (by decide), letter (byte '-') (by decide)]

/-- A byte after the bracket of a list begins an item as it would after a comma. -/
theorem step_opened {b : UInt8} (outer : List Bracket) (solid : isGap b = false) (other : b ≠ byte ']') :
    step .opened (.list :: outer) b = step .value (.list :: outer) b := by
  simp [step, openedStep, solid, other, Bracket.closing]

private theorem startsNumber_opened (outer : List Bracket) :
    StartsNumber (.list :: outer) .opened := by
  refine ⟨by decide, rfl, fun d digit other => ?_⟩
  have close : d ≠ byte ']' := by
    rintro rfl
    cases digit
  rw [step_opened outer (isGap_of_isDigit digit) close]
  exact startsNumber_value.2.2 d digit other

/-- The machine passes over the text of a finite number as the first item of a list. -/
theorem passes_fixed {x : Binary64} (finite : x.isFinite = true) (outer : List Bracket) :
    Passes (.list :: outer) .opened (textBytes (x.fixed 6)) .fraction := by
  cases x with
  | nan => cases finite
  | infinite negative => cases finite
  | finite negative units h =>
    rw [textBytes_fixed]
    cases negative with
    | true =>
      rw [map_signChars_true, List.singleton_append]
      exact .step (by decide) rfl (passes_six startsNumber_sign _)
    | false =>
      rw [map_signChars_false, List.nil_append]
      exact passes_six (startsNumber_opened outer) _

/-! ## Strings -/

/-- Bytes that may stand between the quotes of a string: plain ones, and escapes. -/
inductive StringBody : Bytes → Prop where
  | nil : StringBody []
  | plain {b : UInt8} {rest : Bytes} (h : PlainByte b) (more : StringBody rest) :
      StringBody (b :: rest)
  | short {letter : UInt8} {rest : Bytes} (h : (shortEscape? letter).isSome = true)
      (more : StringBody rest) : StringBody (byte '\\' :: letter :: rest)
  | unit {a b c d : UInt8} {rest : Bytes} (h : (hexUnit? a b c d).isSome = true)
      (more : StringBody rest) :
      StringBody (byte '\\' :: byte 'u' :: a :: b :: c :: d :: rest)

theorem StringBody.append {front back : Bytes} (first : StringBody front) (second : StringBody back) :
    StringBody (front ++ back) := by
  induction first with
  | nil => exact second
  | plain h _ ih => exact .plain h ih
  | short h _ ih => exact .short h ih
  | unit h _ ih => exact .unit h ih

theorem StringBody.of_plain (h : ∀ b ∈ bytes, PlainByte b) : StringBody bytes := by
  induction bytes with
  | nil => exact .nil
  | cons b more ih =>
    obtain ⟨first, others⟩ := List.forall_mem_cons.mp h
    exact .plain first (ih others)

private theorem hexValue?_of_hexUnit? {a b c d : UInt8} (h : (hexUnit? a b c d).isSome = true) :
    (hexValue? a).isSome = true ∧ (hexValue? b).isSome = true ∧ (hexValue? c).isSome = true ∧
      (hexValue? d).isSome = true := by
  obtain ⟨unit, found⟩ := Option.isSome_iff_exists.mp h
  obtain ⟨p, q, r, s, first, second, third, fourth, -⟩ := hexUnit?_eq_some.mp found
  simp only [hexValue?_eq_some.mpr first, hexValue?_eq_some.mpr second, hexValue?_eq_some.mpr third,
    hexValue?_eq_some.mpr fourth, Option.isSome_some, and_self]

private theorem passes_digits_of_unit {isKey : Bool} {a b c d : UInt8}
    (h : (hexUnit? a b c d).isSome = true) :
    Passes stack (.hex isKey 0 true) [a, b, c, d] (.string isKey) := by
  obtain ⟨first, second, third, fourth⟩ := hexValue?_of_hexUnit? h
  refine .step (by simp) (by simp [step, first]; rfl) ?_
  refine .step (by simp) (by simp [step, second]; rfl) ?_
  refine .step (by simp) (by simp [step, third]; rfl) ?_
  exact .one (by simp) (by simp [step, fourth])

/-- The machine passes over the body of a string. -/
theorem passes_body (isKey : Bool) (body : StringBody bytes) :
    Passes stack (.string isKey) bytes (.string isKey) := by
  induction body with
  | nil => exact .refl _
  | @plain b rest h _ ih =>
    have quote : b ≠ byte '"' := h.ne_quote
    have backslash : b ≠ byte '\\' := h.ne_backslash
    exact .step (by simp) (by simp [step, quote, backslash, h.not_control]) ih
  | @short letter rest h _ ih =>
    have other : letter ≠ byte 'u' := by
      rintro rfl
      cases h
    exact .step (by simp) rfl (.step (by simp) (by simp [step, other, h]) ih)
  | unit h _ ih =>
    exact .step (by simp) rfl (.step (by simp) rfl ((passes_digits_of_unit h).append ih))

/-! ## Values as they are written -/

theorem readWritten_of_run {b : UInt8} {place : Place} {stack : List Bracket} {value left : Bytes}
    (starts : valueStep [] b = .ok (place, stack))
    (ends : run ending place stack [b] rest = .ok (value, left)) :
    Gives (readWritten ending (b :: rest)) value left := by
  refine ⟨Nat.lt_succ_of_le (length_le_of_run ends), ?_⟩
  rw [readWritten]
  split
  · simp_all
  rename_i same
  rw [starts] at same
  cases same
  split
  · simp_all
  · rename_i h
    rw [ends] at h
    cases h
    rfl

/-- A string is read as it is written. -/
theorem readWritten_string (body : StringBody bytes) (rest : Bytes) :
    Gives (readWritten ending (quoted bytes ++ rest)) (quoted bytes) rest := by
  have passes : Passes [] (.string false) (bytes ++ [byte '"']) .after :=
    (passes_body false body).append (.one (by simp) rfl)
  have ends := run_passes passes ending [byte '"'] rest
  rw [run_end] at ends
  refine readWritten_of_run rfl ?_
  simpa [quoted] using ends

/-- The bytes of a pair of a number and a string. -/
def pair (number string : Bytes) : Bytes :=
  byte '[' :: (number ++ byte ',' :: byte ' ' :: (string ++ [byte ']']))

/-- A pair of a number with six places and a string is read as it is written. -/
theorem readWritten_pair {x : Binary64} (finite : x.isFinite = true) (body : StringBody bytes)
    (rest : Bytes) :
    Gives (readWritten ending (pair (textBytes (x.fixed 6)) (quoted bytes) ++ rest))
      (pair (textBytes (x.fixed 6)) (quoted bytes)) rest := by
  have passes : Passes [.list] .opened
      (textBytes (x.fixed 6) ++ byte ',' :: byte ' ' :: quoted bytes) .after := by
    refine (passes_fixed finite []).append ?_
    refine .step (by decide) rfl (.step (by decide) rfl (.step (by decide) rfl ?_))
    exact (passes_body false body).append (.one (by simp) rfl)
  have ends := run_passes passes ending [byte '['] (byte ']' :: rest)
  rw [run_step (.inr (by simp)) rfl, run_end] at ends
  refine readWritten_of_run rfl ?_
  simpa [pair] using ends

end TermTape.Json
