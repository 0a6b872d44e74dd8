import TermTape.Proofs.Json.Settled

/-!
# Numbers that more text does not change

A number ends before the first byte that cannot go on with it, so a number at the end of a text may
go on in a longer one. Any other number is the same in a longer text, and so is the refusal of one
whose exponent is out of range: more digits only take it farther out.
-/
namespace TermTape.Json

variable {ending ending' : Ending} {tail : Bytes}

/-! ## Digits -/

private theorem takeWhile_append_of_cons {p : UInt8 → Bool} {input rest : Bytes} {b : UInt8}
    (h : input.dropWhile p = b :: rest) (tail : Bytes) :
    (input ++ tail).takeWhile p = input.takeWhile p := by
  have whole : input.takeWhile p ++ (b :: rest) = input := h ▸ List.takeWhile_append_dropWhile
  have short : (input.takeWhile p).length ≠ input.length := by
    intro same
    have lengths := congrArg List.length whole
    rw [List.length_append, same, List.length_cons] at lengths
    omega
  rw [List.takeWhile_append, if_neg short]

private theorem takeWhile_prefix_append (p : UInt8 → Bool) (input tail : Bytes) :
    input.takeWhile p <+: (input ++ tail).takeWhile p := by
  rw [List.takeWhile_append]
  split
  · rename_i whole
    rw [List.IsPrefix.eq_of_length (List.takeWhile_prefix p) whole]
    exact List.prefix_append _ _
  · exact List.prefix_refl _

private theorem decimalValue_le_of_prefix {digits longer : Bytes} (h : digits <+: longer) :
    decimalValue digits ≤ decimalValue longer := by
  obtain ⟨more, rfl⟩ := h
  unfold decimalValue
  rw [List.foldl_append]
  generalize digits.foldl _ 0 = n
  induction more generalizing n with
  | nil => exact Nat.le_refl _
  | cons b more ih => exact Nat.le_trans (by dsimp only; omega) (ih _)

/-! ## Values of digits -/

private theorem ok_bind {α β : Type} (a : α) (f : α → Except Fault β) :
    (Except.ok a >>= f) = f a := rfl

theorem look_of_ne_nil (ending : Ending) {rest : Bytes} (more : rest ≠ []) :
    ending.look rest = .ok () := by
  cases rest with
  | nil => exact absurd rfl more
  | cons b rest => rfl

private theorem real_yields (parts : Parts) : Yields (fun _ => True) parts.real :=
  .ite trivial (.breach _)

private theorem wholeNumber_yields (negative : Bool) (digits : Bytes) :
    Yields (fun _ => True) (wholeNumber negative digits) :=
  .ite (.ite trivial (real_yields _)) (.ite trivial (real_yields _))

/-! ## Exponents -/

private theorem applyExponent_settles (parts : Parts) (below : Bool) (exponent : Nat)
    {rest longer : Bytes} (more : rest ≠ []) (more' : longer ≠ []) :
    Settles ending Eq Never (applyExponent ending parts below exponent rest)
      (applyExponent ending' parts below exponent longer) := by
  unfold applyExponent
  rw [look_of_ne_nil ending more, look_of_ne_nil ending' more']
  split
  · exact .breach _ _
  · exact .steady (real_yields _)

/-- An exponent at the end of the text is out of range only if it is so with more digits. -/
theorem applyExponent_atEnd (parts : Parts) (below : Bool) {exponent longer : Nat}
    (grows : exponent ≤ longer) (rest : Bytes) :
    Settles ending (fun _ _ => False) (fun _ => True)
      (applyExponent ending parts below exponent [])
      (applyExponent ending' parts below longer rest) := by
  unfold applyExponent
  split
  · rename_i past
    have past' :
        (!below && decide (greatestExponent < longer) && parts.significand != 0) = true := by
      simp only [Bool.and_eq_true, decide_eq_true_eq] at past ⊢
      exact ⟨⟨past.1.1, by omega⟩, past.2⟩
    rw [if_pos past']
    exact .breach _ _
  · exact .runsOut (RunsOut.look.bind fun ends _ _ => .steady ends (real_yields _))

private theorem exponentSign_append {input : Bytes} (more : input ≠ []) (tail : Bytes) :
    exponentSign (input ++ tail) = ((exponentSign input).1, (exponentSign input).2 ++ tail) := by
  cases input with
  | nil => exact absurd rfl more
  | cons b rest =>
    simp only [exponentSign, List.cons_append]
    split
    · rfl
    split <;> rfl

/-- An exponent whose digits are missing. -/
theorem readExponent_sign (ending : Ending) (parts : Parts) {input : Bytes} (more : input ≠ [])
    (next : (exponentSign input).2 = []) :
    readExponent ending parts input = ending.atEnd .endInValue := by
  unfold readExponent
  rw [look_of_ne_nil ending more, ok_bind]
  split <;> simp_all

/-- An exponent that goes on after its sign, and what its digits leave. -/
theorem readExponent_digits (ending : Ending) (parts : Parts) {input more rest : Bytes} {b : UInt8}
    (next : (exponentSign input).2 = b :: more) (after : (b :: more).dropWhile isDigit = rest) :
    ∃ h, readExponent ending parts input =
      if !isDigit b then breach .badNumber
      else applyExponent ending parts (exponentSign input).1
        (decimalValue ((b :: more).takeWhile isDigit)) rest >>=
          fun number => .ok (number, ⟨rest, h⟩) := by
  subst after
  have shorter := length_exponentSign_le input
  have left := length_dropWhile_le isDigit (b :: more)
  rw [next] at shorter
  refine ⟨Nat.le_trans left shorter, ?_⟩
  have some : input ≠ [] := by
    rintro rfl
    cases next
  unfold readExponent
  rw [look_of_ne_nil ending some, ok_bind]
  split
  · simp_all
  · rename_i given
    rw [next] at given
    cases given
    rfl

private theorem readExponent_settles (parts : Parts) (input : Bytes) :
    Settles ending (Alike tail) Spent (readExponent ending parts input)
      (readExponent ending' parts (input ++ tail)) := by
  by_cases some : input = []
  · subst some
    exact .runsOut (RunsOut.look.bind fun _ _ _ => .atEnd _)
  have sign := exponentSign_append some tail
  cases next : (exponentSign input).2 with
  | nil =>
    rw [readExponent_sign ending parts some next]
    exact .atEnd _ _
  | cons b more =>
    have next' : (exponentSign (input ++ tail)).2 = b :: (more ++ tail) := by
      rw [sign, next]
      rfl
    cases after : (b :: more).dropWhile isDigit with
    | nil =>
      -- the digits go to the end of the text
      obtain ⟨h, here⟩ := readExponent_digits ending parts next after
      obtain ⟨h', there⟩ := readExponent_digits ending' parts next' rfl
      rw [here, there, sign]
      split
      · exact .breach _ _
      have grows := decimalValue_le_of_prefix (takeWhile_prefix_append isDigit (b :: more) tail)
      refine (applyExponent_atEnd parts _ grows _).bind nofun ?_
      exact fun ends _ _ => .spent ends rfl
    | cons d rest =>
      have after' := dropWhile_append_of_cons after tail
      obtain ⟨h, here⟩ := readExponent_digits ending parts next after
      obtain ⟨h', there⟩ := readExponent_digits ending' parts next' after'
      have digits := takeWhile_append_of_cons after tail
      rw [List.cons_append] at digits
      rw [here, there, sign, digits]
      split
      · exact .breach _ _
      refine (applyExponent_settles parts _ _ (List.cons_ne_nil d rest)
        (List.cons_ne_nil d (rest ++ tail))).andThen ?_
      rintro number _ rfl
      exact .same (.mk number (d :: rest) _ _)

/-! ## Fractions -/

private theorem readFraction_runsOut (negative : Bool) (whole : Bytes) {input : Bytes}
    (after : input.dropWhile isDigit = []) :
    RunsOut ending Spent (readFraction ending negative whole input) := by
  unfold readFraction
  extract_lets fraction parts
  split
  · rw [after]
    refine RunsOut.look.bind fun ends _ _ => ?_
    split
    · exact .atEnd _
    · exact (RunsOut.steady ends (real_yields parts)).bind
        fun ends _ (_ : True) => .spent ends rfl
  · simp_all

private theorem length_le_of_digits {input rest : Bytes} {b : UInt8}
    (after : input.dropWhile isDigit = b :: rest) : (b :: rest).length ≤ input.length :=
  after ▸ length_dropWhile_le isDigit input

/-- A fraction whose digits something follows. -/
theorem readFraction_next (ending : Ending) (negative : Bool) (whole : Bytes) {input rest : Bytes}
    {b : UInt8} (after : input.dropWhile isDigit = b :: rest) :
    readFraction ending negative whole input =
      if (input.takeWhile isDigit).isEmpty then breach .badNumber
      else if b == byte 'e' || b == byte 'E' then
        readExponent ending ⟨negative, whole, input.takeWhile isDigit, 0⟩ rest >>= fun given =>
          .ok (given.1, ⟨given.2.val,
            Nat.le_trans given.2.2 (Nat.le_of_lt (length_le_of_digits after))⟩)
      else
        Parts.real ⟨negative, whole, input.takeWhile isDigit, 0⟩ >>= fun number =>
          .ok (number, ⟨b :: rest, length_le_of_digits after⟩) := by
  have some : input.dropWhile isDigit ≠ [] := by simp [after]
  unfold readFraction
  rw [look_of_ne_nil ending some]
  extract_lets fraction parts
  split
  · simp_all
  · rename_i given
    rw [given] at after
    cases after
    rfl

private theorem readFraction_settles (negative : Bool) (whole input : Bytes) :
    Settles ending (Alike tail) Spent (readFraction ending negative whole input)
      (readFraction ending' negative whole (input ++ tail)) := by
  cases after : input.dropWhile isDigit with
  | nil => exact .runsOut (readFraction_runsOut negative whole after)
  | cons b rest =>
    rw [readFraction_next ending negative whole after,
      readFraction_next ending' negative whole (dropWhile_append_of_cons after tail),
      takeWhile_append_of_cons after tail]
    split
    · exact .breach _ _
    split
    · exact (readExponent_settles _ rest).keep id
    · refine Settles.andThen (.steady (real_yields _)) ?_
      rintro number _ rfl
      exact .same (.mk number (b :: rest) _ _)

/-! ## Numbers -/

private theorem readAfterWhole_runsOut (negative : Bool) (whole : Bytes) :
    RunsOut ending Spent (readAfterWhole ending negative whole []) :=
  RunsOut.look.bind fun ends _ _ =>
    (RunsOut.steady ends (wholeNumber_yields _ _)).bind fun ends _ (_ : True) => .spent ends rfl

private theorem readAfterWhole_settles (negative : Bool) (whole input : Bytes) :
    Settles ending (Alike tail) Spent (readAfterWhole ending negative whole input)
      (readAfterWhole ending' negative whole (input ++ tail)) := by
  cases input with
  | nil => exact .runsOut (readAfterWhole_runsOut negative whole)
  | cons b rest =>
    simp only [readAfterWhole, List.cons_append]
    split
    · exact (readFraction_settles negative whole rest).keep id
    split
    · exact (readExponent_settles _ rest).keep id
    · refine Settles.andThen (.steady (wholeNumber_yields _ _)) ?_
      rintro number _ rfl
      exact .same (.mk number (b :: rest) _ _)

private theorem readAfterDigits_settles (negative : Bool) (b : UInt8) (input : Bytes) :
    Settles ending (Alike tail) Spent
      (readAfterWhole ending negative (b :: input.takeWhile isDigit) (input.dropWhile isDigit))
      (readAfterWhole ending' negative (b :: (input ++ tail).takeWhile isDigit)
        ((input ++ tail).dropWhile isDigit)) := by
  cases after : input.dropWhile isDigit with
  | nil => exact .runsOut (readAfterWhole_runsOut negative _)
  | cons c rest =>
    rw [dropWhile_append_of_cons after tail, takeWhile_append_of_cons after tail]
    exact readAfterWhole_settles negative _ (c :: rest)

theorem readNumber_settles (negative : Bool) (input : Bytes) :
    Settles ending (Alike tail) Spent (readNumber ending negative input)
      (readNumber ending' negative (input ++ tail)) := by
  cases input with
  | nil => exact .atEnd _ _
  | cons b rest =>
    simp only [readNumber, List.cons_append]
    split
    · exact .breach _ _
    split
    · -- a zero, which no digit may follow
      cases rest with
      | nil =>
        exact .runsOut
          ((readAfterWhole_runsOut negative [b]).bind fun ends _ blank => .spent ends blank)
      | cons c more =>
        change Settles _ _ _ (if isDigit c then _ else _) (if isDigit c then _ else _)
        split
        · exact .breach _ _
        · exact (readAfterWhole_settles negative [b] (c :: more)).keep id
    · exact (readAfterDigits_settles negative b rest).keep id

end TermTape.Json
