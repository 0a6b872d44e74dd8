import TermTape.Proofs.Json.Reading

/-!
# Readings that more text does not change

A reader is given a text and then a longer one that goes on with a `tail`. Either it settles on the
same value, or refuses both texts, or the shorter text has run out: its source has failed, or its
end was a breach of the grammar (`Settles`). A value like a number may end with the text, and what
follows decides whether it was whole. Such a result leaves nothing but blanks, and is one of the
text running out (`Spent`). Values that are closed by a byte of their own never end so (`Never`).

The rules follow the way readers are put together: one reader after another (`Settles.bind`), a
value that is changed (`Settles.keep`), the next byte after the blanks (`Settles.gap`).
-/
namespace TermTape.Json

variable {α β α' β' : Type} {ending ending' : Ending} {tail : Bytes}

/-! ## Faults of a text -/

/-- The fault is one of the text, and no failure of its source. -/
def Fault.OfText (fault : Fault) : Prop := ∀ cause, fault ≠ .stopped cause

/-- A result that has a property, or a fault of the text. -/
def Yields (P : α → Prop) : Except Fault α → Prop
  | .ok a => P a
  | .error fault => fault.OfText

theorem Yields.ite {P : α → Prop} {c : Prop} [Decidable c] {x y : Except Fault α} (h : Yields P x)
    (h' : Yields P y) : Yields P (if c then x else y) := by
  split
  · exact h
  · exact h'

theorem Yields.breach {P : α → Prop} (cause : Malformed) : Yields P (Json.breach cause) := nofun

theorem Yields.bind {P : α → Prop} {Q : β → Prop} {x : Except Fault α} {f : α → Except Fault β}
    (first : Yields P x) (later : ∀ a, P a → Yields Q (f a)) : Yields Q (x >>= f) := by
  cases x with
  | error fault => exact first
  | ok a => exact later a first

theorem Yields.map {P : α → Prop} {Q : β → Prop} {x : Except Fault α} {f : α → β}
    (first : Yields P x) (holds : ∀ a, P a → Q (f a)) : Yields Q (x.map f) := by
  cases x with
  | error fault => exact first
  | ok a => exact holds a first

/-! ## Texts that run out -/

/-- The result of a reading that has met the end of its text: a value that may end with the text, a
failure of the source, or a fault of a text that ends too early. -/
inductive RunsOut (ending : Ending) (spent : α → Prop) : Except Fault α → Prop where
  | spent {a : α} (ends : ending = .ends) (gone : spent a) : RunsOut ending spent (.ok a)
  | stopped {cause : IoError} (fails : ending = .fails cause) :
      RunsOut ending spent (.error (.stopped cause))
  | ended {fault : Fault} (ends : ending = .ends) (own : fault.OfText) :
      RunsOut ending spent (.error fault)

/-- No result at all. -/
def Never {α : Type} (_ : α) : Prop := False

namespace RunsOut

variable {spent : α → Prop} {spent' : α' → Prop}

theorem atEnd (cause : Malformed) : RunsOut ending spent (ending.atEnd cause) := by
  cases ending with
  | ends => exact .ended rfl nofun
  | fails cause => exact .stopped rfl

theorem look : RunsOut ending (fun _ => True) (ending.look []) := by
  cases ending with
  | ends => exact .spent rfl trivial
  | fails cause => exact .stopped rfl

/-- A source that fails is noticed at once, so only after its end is a result of interest. -/
theorem steady {x : Except Fault α} (ends : ending = .ends) (yields : Yields spent x) :
    RunsOut ending spent x := by
  cases x with
  | error fault => exact .ended ends yields
  | ok a => exact .spent ends yields

theorem bind {x : Except Fault α} {f : α → Except Fault α'} (first : RunsOut ending spent x)
    (later : ending = .ends → ∀ a, spent a → RunsOut ending spent' (f a)) :
    RunsOut ending spent' (x >>= f) := by
  cases first with
  | spent ends gone => exact later ends _ gone
  | stopped fails => exact .stopped fails
  | ended ends own => exact .ended ends own

/-- What follows a reading that ends in a fault is of no matter. -/
theorem fails {x : Except Fault α} {f : α → Except Fault α'} (first : RunsOut ending Never x) :
    RunsOut ending spent' (x >>= f) :=
  first.bind fun _ _ gone => gone.elim

end RunsOut

/-! ## Readings that settle -/

/-- The reading of a text and that of a longer one: both give the same, both refuse the text, or the
shorter text has run out. -/
inductive Settles (ending : Ending) (same : α → β → Prop) (spent : α → Prop) :
    Except Fault α → Except Fault β → Prop where
  | same {a : α} {b : β} (agree : same a b) : Settles ending same spent (.ok a) (.ok b)
  | refused {fault fault' : Fault} (own : fault.OfText) :
      Settles ending same spent (.error fault) (.error fault')
  | runsOut {x : Except Fault α} {y : Except Fault β} (gone : RunsOut ending spent x) :
      Settles ending same spent x y

namespace Settles

variable {same : α → β → Prop} {spent : α → Prop} {same' : α' → β' → Prop} {spent' : α' → Prop}

theorem atEnd (cause : Malformed) (there : Except Fault β) :
    Settles ending same spent (ending.atEnd cause) there := .runsOut (.atEnd cause)

theorem breach (cause cause' : Malformed) :
    Settles ending same spent (Json.breach cause) (Json.breach cause') := .refused nofun

theorem steady {P : α → Prop} {x : Except Fault α} (yields : Yields P x) :
    Settles ending Eq spent x x := by
  cases x with
  | error fault => exact .refused yields
  | ok a => exact .same rfl

theorem bind {x : Except Fault α} {y : Except Fault β} {f : α → Except Fault α'}
    {g : β → Except Fault β'} (first : Settles ending same spent x y)
    (later : ∀ a b, same a b → Settles ending same' spent' (f a) (g b))
    (whenSpent : ending = .ends → ∀ a, spent a → RunsOut ending spent' (f a)) :
    Settles ending same' spent' (x >>= f) (y >>= g) := by
  cases first with
  | same agree => exact later _ _ agree
  | refused own => exact .refused own
  | runsOut gone => exact .runsOut (gone.bind whenSpent)

theorem andThen {x : Except Fault α} {y : Except Fault β} {f : α → Except Fault α'}
    {g : β → Except Fault β'} (first : Settles ending same Never x y)
    (later : ∀ a b, same a b → Settles ending same' spent' (f a) (g b)) :
    Settles ending same' spent' (x >>= f) (y >>= g) :=
  first.bind later fun _ _ gone => gone.elim

/-- A reading that is closed by a byte of its own is one that may also end with the text. -/
theorem closed {x : Except Fault α} {y : Except Fault β} (first : Settles ending same Never x y) :
    Settles ending same spent x y := by
  cases first with
  | same agree => exact .same agree
  | refused own => exact .refused own
  | runsOut gone =>
    cases gone with
    | spent _ gone => exact gone.elim
    | stopped fails => exact .runsOut (.stopped fails)
    | ended ends own => exact .runsOut (.ended ends own)

end Settles

/-! ## Rests -/

/-- The same rest, and the same one with the tail after it. -/
inductive Onward (tail : Bytes) {p p' : Bytes → Prop} :
    { rest : Bytes // p rest } → { rest : Bytes // p' rest } → Prop where
  | mk (rest : Bytes) (h : p rest) (h' : p' (rest ++ tail)) :
      Onward tail ⟨rest, h⟩ ⟨rest ++ tail, h'⟩

/-- The same value, and the same rest with the tail after it. -/
inductive Alike (tail : Bytes) {p p' : Bytes → Prop} :
    α × { rest : Bytes // p rest } → α × { rest : Bytes // p' rest } → Prop where
  | mk (x : α) (rest : Bytes) (h : p rest) (h' : p' (rest ++ tail)) :
      Alike tail (x, ⟨rest, h⟩) (x, ⟨rest ++ tail, h'⟩)

/-- The same bytes, and the same rest with the tail after it. -/
inductive AlikeBytes (tail : Bytes) : Bytes × Bytes → Bytes × Bytes → Prop where
  | mk (bytes rest : Bytes) : AlikeBytes tail (bytes, rest) (bytes, rest ++ tail)

/-- Nothing but blanks is left. -/
def Spent {p : Bytes → Prop} (given : α × { rest : Bytes // p rest }) : Prop :=
  skipGap given.2.val = []

namespace Settles

/-- The value of a reading may be changed on both sides alike. -/
theorem keep {p p' r r' : Bytes → Prop} {x : Except Fault (α × { rest : Bytes // p rest })}
    {y : Except Fault (α × { rest : Bytes // p' rest })}
    (first : Settles ending (Alike tail) Spent x y) (k : α → β)
    {here : ∀ given : α × { rest : Bytes // p rest }, r given.2.val}
    {there : ∀ given : α × { rest : Bytes // p' rest }, r' given.2.val} :
    Settles ending (Alike tail) Spent
      (x >>= fun given => .ok (k given.1, ⟨given.2.val, here given⟩))
      (y >>= fun given => .ok (k given.1, ⟨given.2.val, there given⟩)) := by
  refine first.bind ?_ fun ends _ gone => .spent ends gone
  rintro _ _ ⟨a, rest, h, h'⟩
  exact .same (.mk (k a) rest _ _)

/-- A reader that uses the rest of another together with what is known of its length. -/
theorem attach {spent : Bytes × Bytes → Prop} {same' : α' → β' → Prop} {spent' : α' → Prop}
    {read read' : Bytes → Except Fault (Bytes × Bytes)} {input input' : Bytes}
    (first : Settles ending (AlikeBytes tail) spent (read input) (read' input'))
    {f : ∀ bytes rest, read input = .ok (bytes, rest) → Except Fault α'}
    {g : ∀ bytes rest, read' input' = .ok (bytes, rest) → Except Fault β'}
    (later : ∀ bytes rest h h',
      Settles ending same' spent' (f bytes rest h) (g bytes (rest ++ tail) h'))
    (whenSpent : ending = .ends → ∀ bytes rest h, spent (bytes, rest) →
      RunsOut ending spent' (f bytes rest h)) :
    Settles ending same' spent'
      (match h : read input with
        | .error fault => .error fault
        | .ok (bytes, rest) => f bytes rest h)
      (match h : read' input' with
        | .error fault => .error fault
        | .ok (bytes, rest) => g bytes rest h) := by
  generalize read input = x at *
  generalize read' input' = y at *
  cases first with
  | same agree =>
    cases agree
    exact later _ _ rfl rfl
  | refused own => exact .refused own
  | runsOut gone =>
    cases gone with
    | spent ends gone => exact .runsOut (whenSpent ends _ _ rfl gone)
    | stopped fails => exact .runsOut (.stopped fails)
    | ended ends own => exact .runsOut (.ended ends own)

end Settles

/-! ## Blanks -/

theorem dropWhile_append_of_cons {p : UInt8 → Bool} {input rest : Bytes} {b : UInt8}
    (h : input.dropWhile p = b :: rest) (tail : Bytes) :
    (input ++ tail).dropWhile p = b :: (rest ++ tail) := by
  rw [List.dropWhile_append, h]
  rfl

theorem skipGap_append_of_cons {input rest : Bytes} {b : UInt8} (h : skipGap input = b :: rest)
    (tail : Bytes) : skipGap (input ++ tail) = b :: (rest ++ tail) :=
  dropWhile_append_of_cons h tail

/-- The byte after the blanks is the same. -/
theorem Settles.gap {same : α → β → Prop} {spent : α → Prop} {input : Bytes} {cause : Malformed}
    {f : ∀ b rest, skipGap input = b :: rest → Except Fault α}
    {g : ∀ b rest, skipGap (input ++ tail) = b :: rest → Except Fault β}
    (next : ∀ b rest h h', Settles ending same spent (f b rest h) (g b (rest ++ tail) h')) :
    Settles ending same spent
      (match h : skipGap input with
        | [] => ending.atEnd cause
        | b :: rest => f b rest h)
      (match h : skipGap (input ++ tail) with
        | [] => ending'.atEnd cause
        | b :: rest => g b rest h) := by
  split
  · exact .atEnd _ _
  -- the first byte that is no blank of the text is that of the longer text too
  rename_i b rest here
  have longer := skipGap_append_of_cons here tail
  split
  · simp_all
  · rename_i there
    rw [longer] at there
    cases there
    exact next b rest here _

theorem RunsOut.gap {spent : α → Prop} {input : Bytes} (blank : skipGap input = [])
    {cause : Malformed} {f : ∀ b rest, skipGap input = b :: rest → Except Fault α} :
    RunsOut ending spent
      (match h : skipGap input with
        | [] => ending.atEnd cause
        | b :: rest => f b rest h) := by
  split
  · exact .atEnd _
  · simp_all

/-! ## Names -/

theorem readName_settles (name input : Bytes) :
    Settles ending (Onward tail) Never (readName ending name input)
      (readName ending' name (input ++ tail)) := by
  induction name generalizing input with
  | nil =>
    simp only [readName]
    exact .same (.mk ..)
  | cons wanted name ih =>
    cases input with
    | nil => exact .atEnd _ _
    | cons b input =>
      simp only [readName, List.cons_append]
      split
      · refine (ih input).andThen ?_
        rintro _ _ ⟨rest⟩
        exact .same (.mk ..)
      · exact .breach _ _

/-! ## Strings -/

private theorem readUnit_settles (input : Bytes) :
    Settles ending (Alike tail) Never (readUnit ending input)
      (readUnit ending' (input ++ tail)) := by
  unfold readUnit
  split
  · rename_i a b c d rest
    simp only [List.cons_append]
    split
    · exact .same (.mk ..)
    · exact .breach _ _
  · exact .atEnd _ _

private theorem readLowUnit_settles (input : Bytes) :
    Settles ending (Alike tail) Never (readLowUnit ending input)
      (readLowUnit ending' (input ++ tail)) := by
  cases input with
  | nil => exact .atEnd _ _
  | cons b input =>
    simp only [readLowUnit, List.cons_append]
    split
    · exact .breach _ _
    cases input with
    | nil => exact .atEnd _ _
    | cons letter input =>
      simp only [List.cons_append]
      split
      · exact .breach _ _
      refine (readUnit_settles input).andThen ?_
      rintro _ _ ⟨unit, rest⟩
      dsimp only
      split
      · exact .same (.mk ..)
      · exact .breach _ _

private theorem readCodeEscape_settles (input : Bytes) :
    Settles ending (Alike tail) Never (readCodeEscape ending input)
      (readCodeEscape ending' (input ++ tail)) := by
  refine (readUnit_settles input).andThen ?_
  rintro _ _ ⟨unit, rest⟩
  dsimp only
  split
  · exact .breach _ _
  split
  · refine (readLowUnit_settles rest).andThen ?_
    rintro _ _ ⟨low, rest⟩
    exact .same (.mk ..)
  · exact .same (.mk ..)

private theorem readEscape_settles (input : Bytes) :
    Settles ending (Alike tail) Never (readEscape ending input)
      (readEscape ending' (input ++ tail)) := by
  cases input with
  | nil => exact .atEnd _ _
  | cons letter input =>
    simp only [readEscape, List.cons_append]
    split
    · refine (readCodeEscape_settles input).andThen ?_
      rintro _ _ ⟨c, rest⟩
      exact .same (.mk ..)
    · split
      · exact .same (.mk ..)
      · exact .breach _ _

theorem readStringBytes_cons (before : Bytes) (b : UInt8) (rest : Bytes) :
    readStringBytes ending before (b :: rest) =
      if b == byte '"' then .ok (before.reverse, rest)
      else if b == byte '\\' then do
        let given ← readEscape ending rest
        readStringBytes ending (given.1.reverse ++ before) given.2.val
      else if b < 0x20 then breach .controlCharacter
      else readStringBytes ending (b :: before) rest := by
  rw [readStringBytes]
  cases readEscape ending rest <;> rfl

private theorem readStringBytes_settles (before input : Bytes) :
    Settles ending (AlikeBytes tail) Never (readStringBytes ending before input)
      (readStringBytes ending' before (input ++ tail)) := by
  cases input with
  | nil =>
    rw [readStringBytes]
    exact .atEnd _ _
  | cons b rest =>
    rw [List.cons_append, readStringBytes_cons, readStringBytes_cons]
    split
    · exact .same (.mk ..)
    split
    · -- an escape takes several bytes, so the recursion is on the length of the rest
      refine (readEscape_settles rest).andThen ?_
      rintro _ _ ⟨bytes, left, shorter⟩
      exact readStringBytes_settles _ left
    split
    · exact .breach _ _
    · exact readStringBytes_settles _ rest
termination_by input.length
decreasing_by all_goals simp only [List.length_cons]; omega

theorem readText_settles (input : Bytes) :
    Settles ending (Alike tail) Never (readText ending input)
      (readText ending' (input ++ tail)) := by
  refine (readStringBytes_settles [] input).attach ?_ fun _ _ _ _ gone => gone.elim
  intro bytes rest _ _
  split
  · exact .same (.mk ..)
  · exact .breach _ _

end TermTape.Json
