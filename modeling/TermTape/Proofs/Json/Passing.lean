import TermTape.Proofs.Json.Grammar

/-!
# Values that are passed over

The machine passes over every value of the grammar, whatever brackets are open around it
(`goes_value`), and stands where only a byte that goes on with a number would not end the value
(`Ends`). So such a value is skipped, and kept as it is written (`readRaw_value`).
-/
namespace TermTape

theorem Utf8.encode_ascii_cons {c : Char} (ascii : c.toNat < 128) (rest : List Char) :
    encode (c :: rest) = Json.byte c :: encode rest := by
  rw [encode_cons, encodeChar_one ascii]
  rfl

namespace Json

variable {ending : Ending} {stack : List Bracket}

/-! ## The bytes of the grammar -/

theorem Spaces.blank {gap : List Char} (spaces : Spaces gap) : Blank (Utf8.encode gap) := by
  have ascii : ∀ c ∈ gap, c.toNat < 128 := by
    intro c member
    have listed := spaces c member
    simp only [List.mem_cons, List.not_mem_nil, or_false] at listed
    rcases listed with rfl | rfl | rfl | rfl <;> decide
  rw [Utf8.encode_ascii ascii]
  intro b member
  obtain ⟨c, inside, rfl⟩ := List.mem_map.mp member
  have listed := spaces c inside
  simp only [List.mem_cons, List.not_mem_nil, or_false] at listed
  rcases listed with rfl | rfl | rfl | rfl <;> decide

theorem unitOf?_eq_some {a b c d : Char} {unit : Nat} (digits : unitOf? a b c d = some unit) :
    (∀ rest, Utf8.encode ('\\' :: 'u' :: a :: b :: c :: d :: rest) =
      byte '\\' :: byte 'u' :: byte a :: byte b :: byte c :: byte d :: Utf8.encode rest) ∧
      hexUnit? (byte a) (byte b) (byte c) (byte d) = some unit := by
  unfold unitOf? at digits
  split at digits
  · rename_i ascii
    simp only [List.all_cons, List.all_nil, Bool.and_eq_true, decide_eq_true_eq] at ascii
    obtain ⟨first, second, third, fourth, -⟩ := ascii
    refine ⟨fun rest => ?_, digits⟩
    rw [Utf8.encode_ascii_cons (by decide), Utf8.encode_ascii_cons (by decide),
      Utf8.encode_ascii_cons first, Utf8.encode_ascii_cons second, Utf8.encode_ascii_cons third,
      Utf8.encode_ascii_cons fourth]
  · cases digits

/-- The letters of a string are, as bytes, the body of one. -/
theorem Letters.body {letters : List Char} (well : Letters letters) :
    StringBody (Utf8.encode letters) := by
  induction well with
  | nil => exact .nil
  | plain plain _ ih =>
    rw [Utf8.encode_cons]
    exact (StringBody.of_plain (plainByte_of_plainChar plain)).append ih
  | @short letter rest listed _ ih =>
    have one : letter.toNat < 128 ∧ (shortEscape? (byte letter)).isSome = true := by
      simp only [List.mem_cons, List.not_mem_nil, or_false] at listed
      rcases listed with rfl | rfl | rfl | rfl | rfl | rfl | rfl | rfl <;> decide
    rw [Utf8.encode_ascii_cons (by decide), Utf8.encode_ascii_cons one.1]
    exact .short one.2 ih
  | @unit a b c d rest digits _ ih =>
    obtain ⟨unit, found⟩ := Option.isSome_iff_exists.mp digits
    obtain ⟨bytes, value⟩ := unitOf?_eq_some found
    rw [bytes]
    exact .unit (by rw [value]; rfl) ih

theorem encode_quotes (letters : List Char) :
    Utf8.encode (quotes letters) = quoted (Utf8.encode letters) := by
  rw [quotes, Utf8.encode_ascii_cons (by decide), Utf8.encode_append]
  rfl

/-! ## Runs of the machine -/

/-- The machine goes from one standing to another over bytes, and does not end among them. -/
def Goes (start : Standing) (bytes : Bytes) (stop : Standing) : Prop :=
  ∀ ending before rest, run ending start.1 start.2 before (bytes ++ rest) =
    run ending stop.1 stop.2 (bytes.reverse ++ before) rest

namespace Goes

variable {start middle stop : Standing} {front back : Bytes}

theorem refl (start : Standing) : Goes start [] start := fun _ _ _ => rfl

theorem trans (first : Goes start front middle) (second : Goes middle back stop) :
    Goes start (front ++ back) stop := by
  intro ending before rest
  rw [List.append_assoc, first, second]
  simp

private theorem of_passes {place last : Place} {bytes : Bytes}
    (passes : Passes stack place bytes last) :
    Goes (place, stack) bytes (last, stack) := by
  intro ending before rest
  exact run_passes passes ending before rest

theorem one {place : Place} {b : UInt8} {next : Standing} (inside : place ≠ .after ∨ stack ≠ [])
    (goes : step place stack b = .ok (some next)) : Goes (place, stack) [b] next := by
  intro ending before rest
  exact run_step inside goes

theorem cons {place : Place} {b : UInt8} (inside : place ≠ .after ∨ stack ≠ [])
    (goes : step place stack b = .ok (some middle)) (more : Goes middle back stop) :
    Goes (place, stack) (b :: back) stop :=
  (one inside goes).trans more

/-- Blanks at which the machine stays in its place. -/
theorem gap {place : Place} {gap : Bytes} (blank : Blank gap) (inside : place ≠ .after ∨ stack ≠ [])
    (stays : ∀ b, isGap b = true → step place stack b = .ok (some (place, stack))) :
    Goes (place, stack) gap (place, stack) := by
  induction gap with
  | nil => exact refl _
  | cons b more ih =>
    obtain ⟨first, others⟩ := List.forall_mem_cons.mp blank
    exact cons inside (stays b first) (ih others)

end Goes

/-- A place after the last byte of a value: nothing is missing, but a number may go on. -/
def Ends (place : Place) : Prop :=
  place ∈ [Place.after, .zero, .whole, .fraction, .exponentDigits]

instance (place : Place) : Decidable (Ends place) :=
  inferInstanceAs (Decidable (place ∈ [Place.after, .zero, .whole, .fraction, .exponentDigits]))

/-- At a byte that goes on with no number, a value that may end has ended. -/
theorem run_ends {last : Place} (ends : Ends last) {d : UInt8} (delimits : Delimits d)
    (before rest : Bytes) :
    run ending last stack before (d :: rest) = run ending .after stack before (d :: rest) := by
  obtain ⟨digit, point, small, large⟩ := delimits
  have same : last ≠ .after → step last stack d = afterStep stack d := by
    intro other
    simp only [Ends, List.mem_cons, List.not_mem_nil, or_false, other, false_or] at ends
    rcases ends with rfl | rfl | rfl | rfl <;> simp [step, digit, point, small, large]
  by_cases here : last = .after
  · rw [here]
  rw [run_cons (.inl here), same here]
  by_cases outside : stack = []
  · subst outside
    rw [run_end]
    rfl
  · rw [run_cons (.inr outside)]
    rfl

/-- The machine goes from a standing over a value and may end. -/
def GoesToEnd (start : Standing) (bytes : Bytes) (stack : List Bracket) : Prop :=
  ∃ last, Ends last ∧ Goes start bytes (last, stack)

private theorem GoesToEnd.of_passes {place last : Place} {bytes : Bytes}
    (passes : Passes stack place bytes last)
    (ends : Ends last) : GoesToEnd (place, stack) bytes stack :=
  ⟨last, ends, .of_passes passes⟩

/-! ## Numerals -/

theorem Exponent.ascii (exponent : Exponent) : ∀ c ∈ exponent.text, c.toNat < 128 := by
  have digits : ∀ c ∈ exponent.digits, c.toNat < 128 :=
    fun c member => ascii_of_isDigit (exponent.decimal c member)
  obtain ⟨large, sign, _, _, _⟩ := exponent
  cases large <;> rcases sign with _ | _ | _ <;> simpa [Exponent.text, Exponent.signText] using digits

theorem Numeral.ascii (numeral : Numeral) : ∀ c ∈ numeral.text, c.toNat < 128 := by
  have sign : ∀ c ∈ signChars numeral.negative, c.toNat < 128 := by
    cases numeral.negative with
    | false => exact List.forall_mem_nil _
    | true => exact List.forall_mem_singleton.mpr (by decide)
  have whole : ∀ c ∈ Nat.toDigits 10 numeral.whole, c.toNat < 128 :=
    fun c member => ascii_of_isDigit (isDigit_of_mem_toDigits member)
  have fraction : ∀ c ∈ numeral.fraction, c.toNat < 128 :=
    fun c member => ascii_of_isDigit (numeral.decimal c member)
  have tail : ∀ c ∈ numeral.tail, c.toNat < 128 := by
    unfold Numeral.tail
    rw [List.forall_mem_append]
    constructor
    · split
      · exact List.forall_mem_nil _
      · exact List.forall_mem_cons.mpr ⟨by decide, fraction⟩
    · split
      · exact List.forall_mem_nil _
      · exact Exponent.ascii _
  exact List.forall_mem_append.mpr ⟨sign, List.forall_mem_append.mpr ⟨whole, tail⟩⟩

theorem Numeral.encode_text (numeral : Numeral) :
    Utf8.encode numeral.text = numeral.text.map byte :=
  Utf8.encode_ascii numeral.ascii

private theorem passes_exponentDigits {place : Place} {bytes : Bytes}
    (h : place = .exponent ∨ place = .exponentSign) (some : bytes ≠ [])
    (digits : ∀ d ∈ bytes, isDigit d = true) : Passes stack place bytes .exponentDigits := by
  cases bytes with
  | nil => exact absurd rfl some
  | cons d more =>
    obtain ⟨first, others⟩ := List.forall_mem_cons.mp digits
    have plus : d ≠ byte '+' := by
      rintro rfl
      cases first
    have minus : d ≠ byte '-' := by
      rintro rfl
      cases first
    have later : Passes stack .exponentDigits more .exponentDigits :=
      .stay (by decide) fun d member => by simp [step, others d member]
    rcases h with rfl | rfl
    · exact .step (by decide) (by simp [step, first, plus, minus]) later
    · exact .step (by decide) (by simp [step, first]) later

private theorem passes_exponent {place : Place}
    (h : place = .zero ∨ place = .whole ∨ place = .fraction)
    (exponent : Exponent) : Passes stack place (exponent.text.map byte) .exponentDigits := by
  obtain ⟨large, sign, digits, nonempty, decimal⟩ := exponent
  have some : digits.map byte ≠ [] := by simpa using nonempty
  have all := isDigit_of_mem_map decimal
  have letter : Passes stack place [byte (if large then 'E' else 'e')] .exponent := by
    rcases h with rfl | rfl | rfl <;> cases large <;> exact .one (by decide) rfl
  rw [Exponent.text, List.map_cons, List.map_append]
  refine letter.append ?_
  rcases sign with _ | _ | _
  · exact passes_exponentDigits (.inl rfl) some all
  · exact .step (by decide) rfl (passes_exponentDigits (.inr rfl) some all)
  · exact .step (by decide) rfl (passes_exponentDigits (.inr rfl) some all)

/-- The machine passes over what follows the digits of a whole part. -/
theorem passes_tail {place : Place} (h : place = .zero ∨ place = .whole) (numeral : Numeral) :
    ∃ last, Ends last ∧ Passes stack place (numeral.tail.map byte) last := by
  obtain ⟨negative, whole, fraction, decimal, exponent⟩ := numeral
  have digits := isDigit_of_mem_map decimal
  by_cases none : fraction = []
  · subst none
    cases exponent with
    | none =>
      refine ⟨place, ?_, .refl place⟩
      rcases h with rfl | rfl <;> decide
    | some exponent =>
      refine ⟨.exponentDigits, by decide, ?_⟩
      have three : place = .zero ∨ place = .whole ∨ place = .fraction := by
        rcases h with h | h
        · exact .inl h
        · exact .inr (.inl h)
      exact passes_exponent three exponent
  · have point : Passes stack place (('.' :: fraction).map byte) .fraction :=
      (passes_point h).append (passes_fraction (by simpa using none) digits)
    cases exponent with
    | none => exact ⟨.fraction, by decide, by simpa [Numeral.tail, none] using point⟩
    | some exponent =>
      refine ⟨.exponentDigits, by decide, ?_⟩
      have later := point.append (passes_exponent (.inr (.inr rfl)) exponent)
      simpa [Numeral.tail, none] using later

theorem Numeral.leads (numeral : Numeral) :
    ∃ b more, Utf8.encode numeral.text = b :: more ∧ Leads b := by
  rw [numeral.encode_text, Numeral.text]
  cases numeral.negative with
  | true => exact ⟨byte '-', _, rfl, .inl rfl⟩
  | false =>
    obtain ⟨first, more, digits, digit⟩ := toDigits_byte_cons numeral.whole
    refine ⟨first, more ++ numeral.tail.map byte, ?_, .inr digit⟩
    rw [List.map_append, List.map_append, digits]
    rfl

private theorem goes_numeral (numeral : Numeral) :
    GoesToEnd (.value, stack) (Utf8.encode numeral.text) stack := by
  have unsigned : ∀ place, StartsNumber stack place → ∃ last, Ends last ∧
      Passes stack place ((Nat.toDigits 10 numeral.whole ++ numeral.tail).map byte) last := by
    intro place starts
    obtain ⟨middle, ends, whole⟩ := passes_whole starts numeral.whole
    obtain ⟨last, stops, tail⟩ := passes_tail ends numeral
    rw [List.map_append]
    exact ⟨last, stops, whole.append tail⟩
  rw [numeral.encode_text, Numeral.text, List.map_append]
  cases numeral.negative with
  | false =>
    obtain ⟨last, ends, passes⟩ := unsigned .value startsNumber_value
    exact .of_passes passes ends
  | true =>
    obtain ⟨last, ends, passes⟩ := unsigned .sign startsNumber_sign
    exact .of_passes (.step (by decide) rfl passes) ends

/-! ## Items and members -/

/-- The machine passes over a value, which begins with no blank and no closing bracket. -/
structure Passed (value : Bytes) : Prop where
  opens : ∃ b more, value = b :: more ∧ isGap b = false ∧ b ≠ byte ']'
  goes : ∀ stack, GoesToEnd (.value, stack) value stack

/-- A place in which a value may stand, perhaps after blanks. -/
structure StartsValue (place : Place) (stack : List Bracket) : Prop where
  inside : place ≠ .after
  stays : ∀ b, isGap b = true → step place stack b = .ok (some (place, stack))
  begins : ∀ b, isGap b = false → b ≠ byte ']' → step place stack b = step .value stack b

private theorem startsValue_value (stack : List Bracket) : StartsValue .value stack where
  inside := by decide
  stays b gap := by simp [step, valueStep, gap, Except.map]
  begins _ _ _ := rfl

private theorem startsValue_opened (outer : List Bracket) :
    StartsValue .opened (.list :: outer) where
  inside := by decide
  stays b gap := by simp [step, openedStep, gap, Except.map]
  begins _ solid other := step_opened outer solid other

theorem Delimits.of_gap {b : UInt8} (gap : isGap b = true) : Delimits b := by
  simp only [isGap, Bool.or_eq_true, beq_iff_eq] at gap
  rcases gap with ((rfl | rfl) | rfl) | rfl <;> constructor <;> decide

private theorem Goes.of_after {last : Place} {d : UInt8} {more : Bytes} {stop : Standing}
    (ends : Ends last) (delimits : Delimits d) (goes : Goes (.after, stack) (d :: more) stop) :
    Goes (last, stack) (d :: more) stop := by
  intro ending before rest
  rw [← goes ending before rest, List.cons_append]
  exact run_ends ends delimits before _

/-- Blanks may stand after a value inside brackets. -/
theorem GoesToEnd.append_gap {start : Standing} {value gap : Bytes} {bracket : Bracket}
    (goes : GoesToEnd start value (bracket :: stack)) (blank : Blank gap) :
    GoesToEnd start (value ++ gap) (bracket :: stack) := by
  obtain ⟨last, ends, goes⟩ := goes
  cases gap with
  | nil =>
    rw [List.append_nil]
    exact ⟨last, ends, goes⟩
  | cons b more =>
    have stays : ∀ b, isGap b = true →
        step .after (bracket :: stack) b = .ok (some (.after, bracket :: stack)) := by
      intro b gap
      simp [step, afterStep, gap]
    have first := Delimits.of_gap (blank b List.mem_cons_self)
    have gap : Goes (.after, bracket :: stack) (b :: more) (.after, bracket :: stack) :=
      .gap blank (.inr (List.cons_ne_nil _ _)) stays
    exact ⟨.after, by decide, goes.trans (gap.of_after ends first)⟩

private theorem goes_item {place : Place} {bracket : Bracket}
    (starts : StartsValue place (bracket :: stack))
    {item : Item} (spaced : item.Spaced) (passed : Passed (Utf8.encode item.value)) :
    GoesToEnd (place, bracket :: stack) (Utf8.encode item.text) (bracket :: stack) := by
  obtain ⟨b, more, value, solid, other⟩ := passed.opens
  obtain ⟨last, ends, goes⟩ := passed.goes (bracket :: stack)
  have before : Goes (place, bracket :: stack) (Utf8.encode item.before) (place, bracket :: stack) :=
    .gap spaced.before.blank (.inl starts.inside) starts.stays
  have inner : Goes (place, bracket :: stack) (Utf8.encode item.value) (last, bracket :: stack) := by
    intro ending before rest
    rw [← goes ending before rest, value, List.cons_append, run_cons (.inl starts.inside),
      run_cons (.inl (startsValue_value (bracket :: stack)).inside), starts.begins b solid other]
  have both : GoesToEnd (place, bracket :: stack)
      (Utf8.encode item.before ++ Utf8.encode item.value) (bracket :: stack) :=
    ⟨last, ends, before.trans inner⟩
  rw [Item.text, Utf8.encode_append, Utf8.encode_append, ← List.append_assoc]
  exact both.append_gap spaced.after.blank

/-- A place in which a key may stand, perhaps after blanks. -/
structure StartsKey (place : Place) (stack : List Bracket) : Prop where
  inside : place ≠ .after
  stays : ∀ b, isGap b = true → step place stack b = .ok (some (place, stack))
  begins : step place stack (byte '"') = .ok (some (.string true, stack))

private theorem startsKey_key (stack : List Bracket) : StartsKey .key stack where
  inside := by decide
  stays b gap := by simp [step, keyStep, gap, Except.map]
  begins := rfl

private theorem startsKey_opened (outer : List Bracket) : StartsKey .opened (.object :: outer) where
  inside := by decide
  stays b gap := by simp [step, openedStep, gap, Except.map]
  begins := rfl

private theorem goes_member {place : Place} {bracket : Bracket}
    (starts : StartsKey place (bracket :: stack))
    {member : Member} (formed : member.Formed) (passed : Passed (Utf8.encode member.value)) :
    GoesToEnd (place, bracket :: stack) (Utf8.encode member.text) (bracket :: stack) := by
  have before : Goes (place, bracket :: stack) (Utf8.encode member.before) (place, bracket :: stack) :=
    .gap formed.before.blank (.inl starts.inside) starts.stays
  have letters : Passes (bracket :: stack) place (Utf8.encode (quotes member.letters)) .colon := by
    rw [encode_quotes]
    exact .step starts.inside starts.begins
      ((passes_body true formed.letters.body).append (.one (by simp) rfl))
  have colon : ∀ b, isGap b = true →
      step .colon (bracket :: stack) b = .ok (some (.colon, bracket :: stack)) := by
    intro b gap
    simp [step, gap]
  have middle : Goes (.colon, bracket :: stack) (Utf8.encode member.middle) (.colon, bracket :: stack) :=
    .gap formed.middle.blank (.inl (by decide)) colon
  obtain ⟨last, ends, item⟩ := goes_item (startsValue_value (bracket :: stack)) formed.item passed
  rw [Member.text, Member.rest, Utf8.encode_append, Utf8.encode_append, Utf8.encode_append,
    Utf8.encode_ascii_cons (by decide)]
  refine ⟨last, ends, before.trans ((Goes.of_passes letters).trans (middle.trans ?_))⟩
  exact .cons (.inl (by decide)) rfl item

/-! ## Lists and objects -/

/-- The place after a comma inside a bracket. -/
def Bracket.next : Bracket → Place
  | .list => .value
  | .object => .key

/-- The part is passed over inside a bracket, after its opening and after a comma. -/
def Fits (bracket : Bracket) (part : List Char) : Prop :=
  ∀ stack place, place = .opened ∨ place = bracket.next →
    GoesToEnd (place, bracket :: stack) (Utf8.encode part) (bracket :: stack)

private theorem fits_item {item : Item} (spaced : item.Spaced)
    (passed : Passed (Utf8.encode item.value)) :
    Fits .list item.text := by
  rintro stack place (rfl | rfl)
  · exact goes_item (startsValue_opened stack) spaced passed
  · exact goes_item (startsValue_value _) spaced passed

private theorem fits_member {member : Member} (formed : member.Formed)
    (passed : Passed (Utf8.encode member.value)) : Fits .object member.text := by
  rintro stack place (rfl | rfl)
  · exact goes_member (startsKey_opened stack) formed passed
  · exact goes_member (startsKey_key _) formed passed

private theorem goes_comma (bracket : Bracket) {part : Bytes} {stop : Standing} {last : Place}
    (ends : Ends last) (goes : Goes (bracket.next, bracket :: stack) part stop) :
    Goes (last, bracket :: stack) (byte ',' :: part) stop := by
  have comma : step .after (bracket :: stack) (byte ',') =
      .ok (some (bracket.next, bracket :: stack)) := by
    cases bracket <;> rfl
  have whole : Goes (.after, bracket :: stack) (byte ',' :: part) stop :=
    .cons (.inr (List.cons_ne_nil _ _)) comma goes
  exact whole.of_after ends (by constructor <;> decide)

/-- Parts that follow others are passed over, each after its comma. -/
theorem goes_others {bracket : Bracket} {parts : List (List Char)}
    (fits : ∀ part ∈ parts, Fits bracket part) {last : Place} (ends : Ends last) :
    GoesToEnd (last, bracket :: stack) (Utf8.encode (parts.flatMap (',' :: ·))) (bracket :: stack) := by
  induction parts generalizing last with
  | nil => exact ⟨last, ends, .refl _⟩
  | cons part others ih =>
    obtain ⟨first, more⟩ := List.forall_mem_cons.mp fits
    obtain ⟨middle, stops, goes⟩ := first stack bracket.next (.inr rfl)
    obtain ⟨stop, final, rest⟩ := ih more stops
    rw [List.flatMap_cons, Utf8.encode_append, Utf8.encode_ascii_cons (by decide)]
    exact ⟨stop, final, (goes_comma bracket ends goes).trans rest⟩

private theorem goes_closer (bracket : Bracket) {last : Place} (ends : last = .opened ∨ Ends last) :
    Goes (last, bracket :: stack) [byte bracket.closer] (.after, stack) := by
  rcases ends with rfl | ends
  · cases bracket <;> exact .one (.inl (by decide)) rfl
  · have close : Goes (.after, bracket :: stack) [byte bracket.closer] (.after, stack) := by
      cases bracket <;> exact .one (.inr (List.cons_ne_nil _ _)) rfl
    exact close.of_after ends (by cases bracket <;> constructor <;> decide)

/-- Parts between brackets are passed over. -/
theorem passed_around {bracket : Bracket} {gap : List Char} {parts : List (List Char)}
    (blank : Spaces gap) (fits : ∀ part ∈ parts, Fits bracket part) :
    Passed (Utf8.encode (bracket.around gap parts)) := by
  have ascii : bracket.opener.toNat < 128 ∧ bracket.closer.toNat < 128 := by
    cases bracket <;> decide
  have closer : Utf8.encode [bracket.closer] = [byte bracket.closer] :=
    Utf8.encode_ascii_cons ascii.2 []
  rw [Bracket.around, Utf8.encode_ascii_cons ascii.1, Utf8.encode_append, closer]
  refine ⟨⟨_, _, rfl, ?_⟩, fun stack => ⟨.after, by decide, ?_⟩⟩
  · cases bracket <;> decide
  have opens : step .value stack (byte bracket.opener) = .ok (some (.opened, bracket :: stack)) := by
    cases bracket <;> rfl
  have inner : ∃ last, (last = .opened ∨ Ends last) ∧
      Goes (.opened, bracket :: stack) (Utf8.encode (interior gap parts)) (last, bracket :: stack) := by
    cases parts with
    | nil =>
      have stays : ∀ b, isGap b = true →
          step .opened (bracket :: stack) b = .ok (some (.opened, bracket :: stack)) := by
        intro b gap
        simp [step, openedStep, gap, Except.map]
      exact ⟨.opened, .inl rfl, .gap blank.blank (.inl (by decide)) stays⟩
    | cons part others =>
      obtain ⟨first, more⟩ := List.forall_mem_cons.mp fits
      obtain ⟨middle, ends, goes⟩ := first stack .opened (.inl rfl)
      obtain ⟨last, stops, rest⟩ := goes_others more ends
      rw [interior, Utf8.encode_append]
      exact ⟨last, .inr stops, goes.trans rest⟩
  obtain ⟨last, ends, goes⟩ := inner
  exact .cons (.inl (by decide)) opens (goes.trans (goes_closer bracket ends))

/-- The machine passes over every value. -/
theorem passed_value {value : List Char} (valid : IsValue value) : Passed (Utf8.encode value) := by
  induction valid with
  | null =>
    refine ⟨⟨byte 'n', _, rfl, by decide⟩, fun stack => .of_passes ?_ (by decide : Ends .after)⟩
    exact .step (by decide) rfl (.step (by decide) rfl (.step (by decide) rfl (.one (by decide) rfl)))
  | truth =>
    refine ⟨⟨byte 't', _, rfl, by decide⟩, fun stack => .of_passes ?_ (by decide : Ends .after)⟩
    exact .step (by decide) rfl (.step (by decide) rfl (.step (by decide) rfl (.one (by decide) rfl)))
  | falsity =>
    refine ⟨⟨byte 'f', _, rfl, by decide⟩, fun stack => .of_passes ?_ (by decide : Ends .after)⟩
    exact .step (by decide) rfl (.step (by decide) rfl (.step (by decide) rfl
      (.step (by decide) rfl (.one (by decide) rfl))))
  | number numeral =>
    obtain ⟨b, more, text, leads⟩ := numeral.leads
    exact ⟨⟨b, more, text, leads.solid, leads.ne (by decide)⟩, fun stack => goes_numeral numeral⟩
  | string body =>
    rw [encode_quotes]
    refine ⟨⟨byte '"', _, rfl, by decide⟩, fun stack => .of_passes ?_ (by decide : Ends .after)⟩
    exact .step (by decide) rfl ((passes_body false body.body).append (.one (by simp) rfl))
  | list blank spaced values ih =>
    refine passed_around blank (List.forall_mem_map.mpr fun item member => ?_)
    exact fits_item (spaced item member) (ih item member)
  | object blank formed values ih =>
    refine passed_around blank (List.forall_mem_map.mpr fun member inside => ?_)
    exact fits_member (formed member inside) (ih member inside)

/-! ## Readers of whole values -/

private theorem readWritten_goes {bytes : Bytes} (some : bytes ≠ [])
    (goes : GoesToEnd (.value, []) bytes []) {d : UInt8} (delimits : Delimits d) (rest : Bytes) :
    Gives (readWritten ending (bytes ++ d :: rest)) bytes (d :: rest) := by
  obtain ⟨b, more, rfl⟩ := List.exists_cons_of_ne_nil some
  obtain ⟨last, ends, goes⟩ := goes
  have whole := goes ending [] (d :: rest)
  rw [run_ends ends delimits, run_end, List.cons_append, run_cons (.inl (by decide))] at whole
  simp only [List.append_nil, List.reverse_reverse, step] at whole
  cases first : valueStep [] b with
  | error fault =>
    rw [first] at whole
    cases whole
  | ok next =>
    rw [first] at whole
    exact readWritten_of_run first whole

theorem skipValue_passed {gap value : Bytes} (blank : Blank gap) (passed : Passed value) {d : UInt8}
    (delimits : Delimits d) (rest : Bytes) :
    Leaves (skipValue ending (gap ++ (value ++ d :: rest))) (d :: rest) := by
  obtain ⟨last, ends, goes⟩ := passed.goes []
  have before : Goes (.value, []) gap (.value, []) :=
    .gap blank (.inl (by decide)) (startsValue_value []).stays
  have some : gap ++ value ≠ [] := by
    obtain ⟨b, more, rfl, -⟩ := passed.opens
    simp
  have written : Gives (readWritten ending (gap ++ value ++ d :: rest)) (gap ++ value) (d :: rest) :=
    readWritten_goes some ⟨last, ends, before.trans goes⟩ delimits rest
  obtain ⟨h, written⟩ := written
  rw [← List.append_assoc]
  exact ⟨h, by simp [skipValue, written, Except.map]⟩

/-- A value of the grammar is kept as it is written. -/
theorem readRaw_value {gap : Bytes} {value : List Char} (blank : Blank gap) (valid : IsValue value)
    {d : UInt8} (delimits : Delimits d) (rest : Bytes) :
    Gives (readRaw ending (gap ++ (Utf8.encode value ++ d :: rest))) (Utf8.encode value)
      (d :: rest) := by
  have passed := passed_value valid
  obtain ⟨b, more, text, solid, -⟩ := passed.opens
  have next : skipGap (gap ++ (Utf8.encode value ++ d :: rest)) = Utf8.encode value ++ d :: rest := by
    rw [text]
    exact skipGap_solid blank solid _
  have some : Utf8.encode value ≠ [] := by
    rw [text]
    exact List.cons_ne_nil _ _
  refine readRaw_gives ?_ (by rw [Utf8.decode?_encode]; rfl)
  rw [next]
  exact readWritten_goes some (passed.goes []) delimits rest

end Json

end TermTape
