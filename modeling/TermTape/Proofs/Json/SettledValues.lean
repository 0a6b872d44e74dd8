import TermTape.Proofs.Json.SettledNumbers

/-!
# Values that more text does not change

The values that are passed over, the items of lists, the members of objects, and the values of a
shape. Whatever stands between brackets is closed by a byte of its own: such a value is never the
end of the text running out (`readBracketed_settles`).
-/
namespace TermTape.Json

variable {α β σ : Type} {ending ending' : Ending} {tail : Bytes}

/-! ## Values that are passed over -/

/-- A bracket is open where the machine stands after an opening one. -/
def Inside (standing : Standing) : Prop := standing.1 = .opened → standing.2 ≠ []

/-- A bracket is open where the machine stands after an opening one, if it has not ended. -/
def InsideIfAny : Option Standing → Prop
  | some standing => Inside standing
  | none => True

private theorem valueStep_yields (stack : List Bracket) (b : UInt8) :
    Yields Inside (valueStep stack b) := by
  unfold valueStep
  -- a blank, a name, a number or a string
  iterate 8 refine .ite nofun ?_
  -- an opening bracket
  refine .ite (fun _ => List.cons_ne_nil _ _) ?_
  exact .ite (fun _ => List.cons_ne_nil _ _) (.breach _)

private theorem keyStep_yields (stack : List Bracket) (b : UInt8) :
    Yields Inside (keyStep stack b) :=
  .ite nofun (.ite nofun (.breach _))

private theorem openedStep_yields (stack : List Bracket) (b : UInt8) :
    Yields Inside (openedStep stack b) := by
  cases stack with
  | nil => exact valueStep_yields [] b
  | cons bracket outer =>
    refine .ite (fun _ => List.cons_ne_nil _ _) (.ite nofun ?_)
    cases bracket with
    | list => exact valueStep_yields _ b
    | object => exact keyStep_yields _ b

private theorem afterStep_yields (stack : List Bracket) (b : UInt8) :
    Yields InsideIfAny (afterStep stack b) := by
  cases stack with
  | nil => exact trivial
  | cons bracket outer =>
    refine .ite nofun (.ite ?_ (.ite nofun (.breach _)))
    cases bracket with
    | list => exact nofun
    | object => exact nofun

private theorem step_yields (place : Place) (stack : List Bracket) (b : UInt8) :
    Yields InsideIfAny (step place stack b) := by
  cases place with
  | value => exact (valueStep_yields stack b).map fun _ inside => inside
  | opened => exact (openedStep_yields stack b).map fun _ inside => inside
  | after => exact afterStep_yields stack b
  | key => exact (keyStep_yields stack b).map fun _ inside => inside
  | colon => exact .ite nofun (.ite nofun (.breach _))
  | string isKey =>
    cases isKey <;> exact .ite nofun (.ite nofun (.ite (.breach _) nofun))
  | escape isKey => exact .ite nofun (.ite nofun (.breach _))
  | hex isKey count good => exact .ite nofun (.ite nofun (.breach _))
  | name letters =>
    match letters with
    | [] => exact afterStep_yields stack b
    | [last] => exact .ite nofun (.breach _)
    | wanted :: next :: more => exact .ite nofun (.breach _)
  | sign => exact .ite nofun (.ite nofun (.breach _))
  | zero => exact .ite (.breach _) (.ite nofun (.ite nofun (afterStep_yields stack b)))
  | whole => exact .ite nofun (.ite nofun (.ite nofun (afterStep_yields stack b)))
  | point => exact .ite nofun (.breach _)
  | fraction => exact .ite nofun (.ite nofun (afterStep_yields stack b))
  | exponent => exact .ite nofun (.ite nofun (.breach _))
  | exponentSign => exact .ite nofun (.breach _)
  | exponentDigits => exact .ite nofun (afterStep_yields stack b)

private theorem endAfter_runsOut {stack : List Bracket} (open_ : ending = .ends ∨ stack ≠ []) :
    RunsOut ending (fun _ => True) (endAfter ending stack) := by
  cases stack with
  | nil => exact .spent (open_.resolve_right (absurd rfl)) trivial
  | cons bracket outer => exact .atEnd _

/-- Of the places at the end of a text only that after a whole value does not ask the source. -/
theorem endStep_runsOut {place : Place} {stack : List Bracket} (inside : Inside (place, stack))
    (goes : place ≠ .after ∨ stack ≠ []) :
    RunsOut ending (fun _ => True) (endStep ending place stack) := by
  cases place with
  | opened => exact endAfter_runsOut (.inr (inside rfl))
  | after => exact endAfter_runsOut (.inr (goes.resolve_left (absurd rfl)))
  | zero | whole | fraction | exponentDigits =>
    exact RunsOut.look.bind fun ends _ _ => endAfter_runsOut (.inl ends)
  | _ => exact .atEnd _

private theorem run_settles {place : Place} {stack : List Bracket} (inside : Inside (place, stack))
    (before input : Bytes) :
    Settles ending (AlikeBytes tail) (fun given => given.2 = [])
      (run ending place stack before input) (run ending' place stack before (input ++ tail)) := by
  -- the machine takes no byte once its value is whole
  by_cases whole : place = .after ∧ stack = []
  · obtain ⟨rfl, rfl⟩ := whole
    rw [run, run]
    exact .same (.mk ..)
  have goes : place ≠ .after ∨ stack ≠ [] := Decidable.not_and_iff_or_not.mp whole
  cases input with
  | nil =>
    rw [run_nil goes]
    exact .runsOut ((endStep_runsOut inside goes).bind fun ends _ _ => .spent ends rfl)
  | cons b rest =>
    rw [List.cons_append, run_cons goes, run_cons goes]
    have next := step_yields place stack b
    split
    · rename_i failed
      rw [failed] at next
      exact .refused next
    · exact .same (.mk ..)
    · rename_i stands
      rw [stands] at next
      exact run_settles next _ rest
termination_by input.length

private theorem readWritten_settles (input : Bytes) :
    Settles ending (Alike tail) Spent (readWritten ending input)
      (readWritten ending' (input ++ tail)) := by
  cases input with
  | nil => exact .atEnd _ _
  | cons b rest =>
    unfold readWritten
    simp only [List.cons_append]
    have first := valueStep_yields [] b
    split
    · rename_i failed
      rw [failed] at first
      exact .refused first
    · rename_i stands
      rw [stands] at first
      refine (run_settles first _ rest).attach ?_ ?_
      · intro value left _ _
        exact .same (.mk ..)
      · intro ends value left _ gone
        exact .spent ends (congrArg skipGap gone)

theorem skipValue_settles (input : Bytes) :
    Settles ending (Onward tail) (fun rest => skipGap rest.val = []) (skipValue ending input)
      (skipValue ending' (input ++ tail)) := by
  have skip (ending : Ending) (input : Bytes) :
      skipValue ending input = readWritten ending input >>= fun given => .ok given.2 := by
    unfold skipValue
    cases readWritten ending input <;> rfl
  rw [skip, skip]
  refine (readWritten_settles input).bind ?_ fun ends _ gone => .spent ends gone
  rintro _ _ ⟨value, rest⟩
  exact .same (.mk ..)

theorem readRaw_settles (input : Bytes) :
    Settles ending (Alike tail) Spent (readRaw ending input) (readRaw ending' (input ++ tail)) := by
  have first : Settles ending (Alike tail) Spent (readWritten ending (skipGap input))
      (readWritten ending' (skipGap (input ++ tail))) := by
    cases h : skipGap input with
    | nil => exact .atEnd _ _
    | cons b rest =>
      rw [skipGap_append_of_cons h tail]
      exact readWritten_settles (b :: rest)
  refine first.bind ?_ ?_
  · rintro _ _ ⟨raw, rest, h, h'⟩
    dsimp only
    split
    · exact .same (.mk ..)
    · exact .breach _ _
  · rintro ends ⟨raw, rest, h⟩ gone
    dsimp only
    split
    · exact .spent ends gone
    · exact .ended ends nofun

/-! ## Lists -/

private theorem nextItem_settles (first : Bool) (input : Bytes) :
    Settles ending (Option.Rel (Onward tail)) Never (nextItem ending first input)
      (nextItem ending' first (input ++ tail)) := by
  refine .gap fun b rest h h' => ?_
  split
  · exact .same .none
  split
  · exact .same (.some (.mk (b :: rest) _ _))
  split
  · refine .gap fun c more h h' => ?_
    split
    · exact .breach _ _
    · exact .same (.some (.mk (c :: more) _ _))
  · exact .breach _ _

private theorem nextItem_runsOut (first : Bool) {input : Bytes} (blank : skipGap input = []) :
    RunsOut ending Never (nextItem ending first input) :=
  .gap blank

private theorem closeList_settles (input : Bytes) :
    Settles ending (Onward tail) Never (closeList ending input)
      (closeList ending' (input ++ tail)) := by
  refine .gap fun b rest h h' => ?_
  split
  · exact .same (.mk ..)
  split
  · -- a comma is refused, whatever follows it
    generalize skipGap rest = here
    generalize skipGap (rest ++ tail) = there
    cases here <;> cases there <;> exact .breach _ _
  · exact .breach _ _

private theorem closeList_runsOut {input : Bytes} (blank : skipGap input = []) :
    RunsOut ending Never (closeList ending input) :=
  .gap blank

private theorem readItems_runsOut (item : Reader α) (first : Bool) (before : List α) {input : Bytes}
    (blank : skipGap input = []) :
    RunsOut ending Never (readItems ending item first before input) := by
  rw [readItems]
  exact (nextItem_runsOut first blank).fails

theorem readItems_settles {item item' : Reader α}
    (settles : ∀ input, Settles ending (Alike tail) Spent (item input) (item' (input ++ tail)))
    (first : Bool) (before : List α) (input : Bytes) :
    Settles ending (Alike tail) Spent (readItems ending item first before input)
      (readItems ending' item' first before (input ++ tail)) := by
  rw [readItems, readItems]
  refine (nextItem_settles first input).andThen ?_
  intro _ _ next
  cases next with
  | none => exact .same (.mk _ input _ _)
  | some onward =>
    obtain ⟨start, h, h'⟩ := onward
    refine (settles start).bind ?_ ?_
    · rintro _ _ ⟨x, rest, shorter⟩
      exact (readItems_settles settles false (x :: before) rest).keep id
    · -- an item that ends with the text is no last one: the list is not closed
      rintro - ⟨x, rest, shorter⟩ blank
      exact (readItems_runsOut item false _ blank).fails
termination_by input.length
decreasing_by omega

/-! ## Objects -/

private theorem nextKey_settles (first : Bool) (input : Bytes) :
    Settles ending (Option.Rel (Alike tail)) Never (nextKey ending first input)
      (nextKey ending' first (input ++ tail)) := by
  refine .gap fun b rest h h' => ?_
  split
  · exact .same .none
  split
  · split
    · refine (readText_settles rest).andThen ?_
      rintro _ _ ⟨key, left⟩
      exact .same (.some (.mk ..))
    · exact .breach _ _
  split
  · refine .gap fun c more h h' => ?_
    split
    · refine (readText_settles more).andThen ?_
      rintro _ _ ⟨key, left⟩
      exact .same (.some (.mk ..))
    split
    · exact .breach _ _
    · exact .breach _ _
  · exact .breach _ _

private theorem nextKey_runsOut (first : Bool) {input : Bytes} (blank : skipGap input = []) :
    RunsOut ending Never (nextKey ending first input) :=
  .gap blank

theorem readColon_settles (input : Bytes) :
    Settles ending (Onward tail) Never (readColon ending input)
      (readColon ending' (input ++ tail)) := by
  refine .gap fun b rest h h' => ?_
  split
  · exact .same (.mk ..)
  · exact .breach _ _

private theorem closeObject_settles (input : Bytes) :
    Settles ending (Onward tail) Never (closeObject ending input)
      (closeObject ending' (input ++ tail)) := by
  refine .gap fun b rest h h' => ?_
  split
  · exact .same (.mk ..)
  split
  · exact .breach _ _
  · exact .breach _ _

private theorem closeObject_runsOut {input : Bytes} (blank : skipGap input = []) :
    RunsOut ending Never (closeObject ending input) :=
  .gap blank

private theorem readMembers_runsOut (member : σ → String → Reader σ) (first : Bool) (state : σ)
    {input : Bytes} (blank : skipGap input = []) :
    RunsOut ending Never (readMembers ending member first state input) := by
  rw [readMembers]
  exact (nextKey_runsOut first blank).fails

theorem readMembers_settles {member member' : σ → String → Reader σ}
    (settles : ∀ state key input,
      Settles ending (Alike tail) Spent (member state key input)
        (member' state key (input ++ tail)))
    (first : Bool) (state : σ) (input : Bytes) :
    Settles ending (Alike tail) Spent (readMembers ending member first state input)
      (readMembers ending' member' first state (input ++ tail)) := by
  rw [readMembers, readMembers]
  refine (nextKey_settles first input).andThen ?_
  intro _ _ next
  cases next with
  | none => exact .same (.mk _ input _ _)
  | some alike =>
    obtain ⟨key, start, h, h'⟩ := alike
    refine (settles state key start).bind ?_ ?_
    · rintro _ _ ⟨later, rest, shorter⟩
      exact (readMembers_settles settles false later rest).keep id
    · rintro - ⟨later, rest, shorter⟩ blank
      exact (readMembers_runsOut member false later blank).fails
termination_by input.length
decreasing_by omega

theorem memberValue_settles {value value' : Reader α}
    (settles : ∀ input, Settles ending (Alike tail) Spent (value input) (value' (input ++ tail)))
    (input : Bytes) :
    Settles ending (Alike tail) Spent (memberValue ending value input)
      (memberValue ending' value' (input ++ tail)) := by
  refine (readColon_settles input).andThen ?_
  rintro _ _ ⟨rest⟩
  exact (settles rest).keep id

/-! ## Values of a shape -/

/-- What a value turns out to be is only told in a fault, and need not be the same. -/
theorem readFound_settles (b : UInt8) (rest : Bytes) :
    Settles ending (fun _ _ => True) (fun _ => True) (readFound ending (b :: rest))
      (readFound ending' (b :: (rest ++ tail))) := by
  rw [readFound, readFound]
  split
  · exact (readName_settles _ rest).andThen fun _ _ _ => .same trivial
  split
  · exact (readName_settles _ rest).andThen fun _ _ _ => .same trivial
  split
  · exact (readName_settles _ rest).andThen fun _ _ _ => .same trivial
  split
  · exact (readNumber_settles true rest).bind (fun _ _ _ => .same trivial)
      fun ends _ _ => .spent ends trivial
  split
  · exact (readNumber_settles false (b :: rest)).bind (fun _ _ _ => .same trivial)
      fun ends _ _ => .spent ends trivial
  split
  · exact (readText_settles rest).andThen fun _ _ _ => .same trivial
  split
  · exact .same trivial
  split
  · exact .same trivial
  · exact .breach _ _

private theorem refuseKind_settles {same : α → β → Prop} {spent : α → Prop} (expected : String)
    (b : UInt8) (rest : Bytes) :
    Settles ending same spent (refuseKind ending expected (b :: rest))
      (refuseKind ending' expected (b :: (rest ++ tail))) :=
  (readFound_settles b rest).bind (fun _ _ _ => .refused nofun) fun ends _ _ => .ended ends nofun

private theorem readAnyNumber_settles (expected : String) (input : Bytes) :
    Settles ending (Alike tail) Spent (readAnyNumber ending expected input)
      (readAnyNumber ending' expected (input ++ tail)) := by
  refine .gap fun b rest h h' => ?_
  split
  · exact (readNumber_settles true rest).keep id
  split
  · exact (readNumber_settles false (b :: rest)).keep id
  · exact refuseKind_settles expected b rest

theorem readWholeUpTo_settles (limit : Nat) (expected : String) (input : Bytes) :
    Settles ending (Alike tail) Spent (readWholeUpTo ending limit expected input)
      (readWholeUpTo ending' limit expected (input ++ tail)) := by
  refine (readAnyNumber_settles expected input).bind ?_ ?_
  · rintro _ _ ⟨number, rest⟩
    cases number with
    | whole n =>
      dsimp only
      split
      · exact .same (.mk ..)
      · exact .refused nofun
    | negative i => exact .refused nofun
    | real x => exact .refused nofun
  · rintro ends ⟨number, rest⟩ blank
    cases number with
    | whole n =>
      dsimp only
      split
      · exact .spent ends blank
      · exact .ended ends nofun
    | negative i => exact .ended ends nofun
    | real x => exact .ended ends nofun

private theorem readReal_settles (input : Bytes) :
    Settles ending (Alike tail) Spent (readReal ending input) (readReal ending' (input ++ tail)) :=
  (readAnyNumber_settles "f64" input).keep Number.toReal

private theorem readOptionalReal_cons (ending : Ending) {input rest : Bytes} {b : UInt8}
    (h : skipGap input = b :: rest) :
    readOptionalReal ending input =
      if b == byte 'n' then
        readName ending nullTail rest >>= fun left =>
          .ok (none, ⟨left.val, length_lt_of_skipGap_le h left.2⟩)
      else readReal ending input >>= fun given => .ok (some given.1, given.2) := by
  unfold readOptionalReal
  split
  · rename_i next
    rw [h] at next
    cases next
    rfl
  · simp_all

theorem readOptionalReal_settles (input : Bytes) :
    Settles ending (Alike tail) Spent (readOptionalReal ending input)
      (readOptionalReal ending' (input ++ tail)) := by
  cases h : skipGap input with
  | nil =>
    have gone : RunsOut ending Never (readReal ending input) := RunsOut.fails (.gap h)
    unfold readOptionalReal
    split
    · simp_all
    · exact .runsOut gone.fails
  | cons b rest =>
    rw [readOptionalReal_cons ending h,
      readOptionalReal_cons ending' (skipGap_append_of_cons h tail)]
    split
    · refine (readName_settles nullTail rest).andThen ?_
      rintro _ _ ⟨left⟩
      exact .same (.mk none left _ _)
    · exact (readReal_settles input).keep some

theorem readNamedString_settles (expected : String) (input : Bytes) :
    Settles ending (Alike tail) Spent (readNamedString ending expected input)
      (readNamedString ending' expected (input ++ tail)) := by
  refine .gap fun b rest h h' => ?_
  split
  · refine (readText_settles rest).andThen ?_
    rintro _ _ ⟨text, left⟩
    exact .same (.mk ..)
  · exact refuseKind_settles expected b rest

/-- A value between brackets ends with the closing one. -/
theorem readBracketed_settles {expected : String}
    {list list' : (input : Bytes) → Except Fault (α × AtMost input)}
    {object object' : Option ((input : Bytes) → Except Fault (α × AtMost input))}
    (items : ∀ input, Settles ending (Alike tail) Spent (list input) (list' (input ++ tail)))
    (members : Option.Rel (fun object object' => ∀ input,
      Settles ending (Alike tail) Spent (object input) (object' (input ++ tail))) object object')
    (input : Bytes) :
    Settles ending (Alike tail) Never (readBracketed ending expected list object input)
      (readBracketed ending' expected list' object' (input ++ tail)) := by
  refine .gap fun b rest h h' => ?_
  split
  · refine (items rest).bind ?_ ?_
    · rintro _ _ ⟨x, left⟩
      refine (closeList_settles left).andThen ?_
      rintro _ _ ⟨left⟩
      exact .same (.mk ..)
    · rintro - ⟨x, left⟩ blank
      exact (closeList_runsOut blank).fails
  split
  · cases members with
    | none => exact refuseKind_settles expected b rest
    | some members =>
      refine (members rest).bind ?_ ?_
      · rintro _ _ ⟨x, left⟩
        refine (closeObject_settles left).andThen ?_
        rintro _ _ ⟨left⟩
        exact .same (.mk ..)
      · rintro - ⟨x, left⟩ blank
        exact (closeObject_runsOut blank).fails
  · exact refuseKind_settles expected b rest

theorem nextField_settles (first : Bool) {value value' : Reader α}
    (settles : ∀ input, Settles ending (Alike tail) Spent (value input) (value' (input ++ tail)))
    (input : Bytes) :
    Settles ending (Alike tail) Spent (nextField ending first value input)
      (nextField ending' first value' (input ++ tail)) := by
  refine (nextItem_settles first input).andThen ?_
  intro _ _ next
  cases next with
  | none => exact .same (.mk none input _ _)
  | some onward =>
    obtain ⟨start, h, h'⟩ := onward
    exact (settles start).keep some

theorem nextField_runsOut (first : Bool) (value : Reader α) {input : Bytes}
    (blank : skipGap input = []) :
    RunsOut ending Never (nextField ending first value input) :=
  (nextItem_runsOut first blank).fails

end TermTape.Json
