import TermTape.Json.Shape

/-!
# What readers give

A reader gives a value and leaves a rest (`Gives`, `Leaves`). For each reader of brackets, commas
and colons one theorem says what it gives when the next bytes after the blanks are the right ones.
-/
namespace TermTape

/-! ## Results and faults -/

variable {ε α β σ : Type}

theorem ok_of_bind {x : Except ε α} {f : α → Except ε β} {b : β} (h : x >>= f = .ok b) :
    ∃ a, x = .ok a ∧ f a = .ok b := by
  cases x with
  | error fault => cases h
  | ok a => exact ⟨a, rfl, h⟩

theorem ok_of_map {x : Except ε α} {f : α → β} {b : β} (h : x.map f = .ok b) :
    ∃ a, x = .ok a ∧ f a = b := by
  cases x with
  | error fault => cases h
  | ok a => exact ⟨a, rfl, Except.ok.inj h⟩

theorem error_of_map {x : Except ε α} {f : α → β} {fault : ε} (h : x.map f = .error fault) :
    x = .error fault := by
  cases x with
  | error fault => exact congrArg Except.error (Except.error.inj h)
  | ok a => cases h

theorem ok_of_mapError {ε' : Type} {x : Except ε α} {f : ε → ε'} {a : α}
    (h : x.mapError f = .ok a) : x = .ok a := by
  cases x with
  | error fault => cases h
  | ok a => exact congrArg Except.ok (Except.ok.inj h)

theorem ok_of_toOption {x : Except ε α} {a : α} (h : x.toOption = some a) : x = .ok a := by
  cases x with
  | error fault => cases h
  | ok a => exact congrArg Except.ok (Option.some.inj h)

namespace Json

/-- A reader gives a value and leaves a rest of its input. -/
def Gives {α : Type} {p : Bytes → Prop} (result : Except Fault (α × { rest : Bytes // p rest }))
    (x : α) (rest : Bytes) : Prop :=
  ∃ h, result = .ok (x, ⟨rest, h⟩)

/-- A reader leaves a rest of its input once something is made of what it has read, or is refused. -/
def Makes {α : Type} {p : Bytes → Prop} (result : Except Fault (α × { rest : Bytes // p rest }))
    (made : Except Fault α) (rest : Bytes) : Prop :=
  ∃ h, result = made.map fun x => (x, ⟨rest, h⟩)

theorem Makes.gives {α : Type} {p : Bytes → Prop} {x : α} {rest : Bytes}
    {result : Except Fault (α × { rest : Bytes // p rest })} (makes : Makes result (.ok x) rest) :
    Gives result x rest :=
  makes

theorem Gives.makes {α : Type} {p : Bytes → Prop} {x : α} {rest : Bytes}
    {result : Except Fault (α × { rest : Bytes // p rest })} (gives : Gives result x rest) :
    Makes result (.ok x) rest :=
  gives

/-- A reader leaves a rest of its input. -/
def Leaves {p : Bytes → Prop} (result : Except Fault { rest : Bytes // p rest }) (rest : Bytes) :
    Prop :=
  ∃ h, result = .ok ⟨rest, h⟩

variable {ending : Ending} {input rest left : Bytes} {x : α}

/-! ## Blanks -/

/-- Blanks of the grammar. -/
def Blank (gap : Bytes) : Prop := ∀ b ∈ gap, isGap b = true

theorem skipGap_append {gap : Bytes} (blank : Blank gap) (input : Bytes) :
    skipGap (gap ++ input) = skipGap input :=
  List.dropWhile_append_of_pos blank

theorem skipGap_cons {b : UInt8} (solid : isGap b = false) (rest : Bytes) :
    skipGap (b :: rest) = b :: rest := by
  simp [skipGap, solid]

/-- Blanks are skipped up to a byte that is none. -/
theorem skipGap_solid {gap : Bytes} {b : UInt8} (blank : Blank gap) (solid : isGap b = false)
    (rest : Bytes) : skipGap (gap ++ b :: rest) = b :: rest :=
  (skipGap_append blank _).trans (skipGap_cons solid rest)

/-! ## Colons and closing brackets -/

theorem readColon_leaves (next : skipGap input = byte ':' :: rest) :
    Leaves (readColon ending input) rest := by
  unfold readColon
  split
  · simp_all
  · rename_i h
    rw [next] at h
    cases h
    exact ⟨_, if_pos rfl⟩

theorem closeObject_leaves (next : skipGap input = byte '}' :: rest) :
    Leaves (closeObject ending input) rest := by
  unfold closeObject
  split
  · simp_all
  · rename_i h
    rw [next] at h
    cases h
    exact ⟨_, if_pos rfl⟩

theorem closeList_leaves (next : skipGap input = byte ']' :: rest) :
    Leaves (closeList ending input) rest := by
  unfold closeList
  split
  · simp_all
  · rename_i h
    rw [next] at h
    cases h
    exact ⟨_, if_pos rfl⟩

/-! ## Members of objects -/

theorem memberValue_gives {value : Reader α} (colon : Leaves (readColon ending input) rest)
    (given : Gives (value rest) x left) : Gives (memberValue ending value input) x left := by
  obtain ⟨h, colon⟩ := colon
  obtain ⟨h₂, given⟩ := given
  exact ⟨length_lt_trans h h₂, by simp [memberValue, colon, given, bind, Except.bind]⟩

/-- The next key is read, and the input after it is left. -/
def NextKey (ending : Ending) (first : Bool) (input : Bytes) (key : String) (left : Bytes) : Prop :=
  ∃ h, nextKey ending first input = .ok (some (key, ⟨left, h⟩))

theorem nextKey_first {key : String} (next : skipGap input = byte '"' :: rest)
    (given : Gives (readText ending rest) key left) : NextKey ending true input key left := by
  obtain ⟨h, given⟩ := given
  refine ⟨length_lt_of_skipGap_lt next h, ?_⟩
  have other : byte '"' ≠ byte '}' := by decide
  unfold nextKey
  split
  · simp_all
  · rename_i h'
    rw [next] at h'
    cases h'
    simp [given, other, bind, Except.bind]

theorem nextKey_later {key : String} {more : Bytes} (next : skipGap input = byte ',' :: rest)
    (quote : skipGap rest = byte '"' :: more) (given : Gives (readText ending more) key left) :
    NextKey ending false input key left := by
  obtain ⟨h, given⟩ := given
  refine ⟨length_lt_of_second next quote h, ?_⟩
  have other : byte ',' ≠ byte '}' := by decide
  unfold nextKey
  split
  · simp_all
  · rename_i h'
    rw [next] at h'
    cases h'
    simp only [beq_iff_eq, other, if_false, if_true, Bool.false_eq_true]
    split
    · simp_all
    · rename_i h''
      rw [quote] at h''
      cases h''
      simp [given, bind, Except.bind]

private theorem nextKey_end (first : Bool) (next : skipGap input = byte '}' :: rest) :
    nextKey ending first input = .ok none := by
  unfold nextKey
  split
  · simp_all
  · rename_i h'
    rw [next] at h'
    cases h'
    exact if_pos rfl

theorem readMembers_end {member : σ → String → Reader σ} {first : Bool} {state : σ}
    (next : skipGap input = byte '}' :: rest) :
    Gives (readMembers ending member first state input) state input := by
  refine ⟨Nat.le_refl _, ?_⟩
  rw [readMembers, nextKey_end first next]
  rfl

theorem readMembers_next {member : σ → String → Reader σ} {first : Bool} {before state after : σ}
    {key : String} {start : Bytes} (next : NextKey ending first input key start)
    (given : Gives (member before key start) state rest)
    (others : Gives (readMembers ending member false state rest) after left) :
    Gives (readMembers ending member first before input) after left := by
  obtain ⟨h, next⟩ := next
  obtain ⟨h₂, given⟩ := given
  obtain ⟨h₃, others⟩ := others
  refine ⟨by omega, ?_⟩
  rw [readMembers, next]
  simp [given, others, bind, Except.bind]

/-! ## Items of lists -/

theorem nextItem_first {b : UInt8} (next : skipGap input = b :: rest) (other : b ≠ byte ']') :
    ∃ h, nextItem ending true input = .ok (some ⟨b :: rest, h⟩) := by
  refine ⟨length_cons_le_of_skipGap next, ?_⟩
  unfold nextItem
  split
  · simp_all
  · rename_i h'
    rw [next] at h'
    cases h'
    simp [other]

theorem nextItem_later {b : UInt8} {more : Bytes} (next : skipGap input = byte ',' :: rest)
    (item : skipGap rest = b :: more) (other : b ≠ byte ']') :
    ∃ h, nextItem ending false input = .ok (some ⟨b :: more, h⟩) := by
  refine ⟨length_le_of_second next item, ?_⟩
  have comma : byte ',' ≠ byte ']' := by decide
  unfold nextItem
  split
  · simp_all
  · rename_i h'
    rw [next] at h'
    cases h'
    simp only [beq_iff_eq, comma, if_false, if_true, Bool.false_eq_true]
    split
    · simp_all
    · rename_i h''
      rw [item] at h''
      cases h''
      simp [other]

private theorem nextItem_end (first : Bool) (next : skipGap input = byte ']' :: rest) :
    nextItem ending first input = .ok none := by
  unfold nextItem
  split
  · simp_all
  · rename_i h'
    rw [next] at h'
    cases h'
    exact if_pos rfl

theorem readItems_end {item : Reader α} {first : Bool} {before : List α}
    (next : skipGap input = byte ']' :: rest) :
    Gives (readItems ending item first before input) before.reverse input := by
  refine ⟨Nat.le_refl _, ?_⟩
  rw [readItems, nextItem_end first next]
  rfl

theorem readItems_next {item : Reader α} {first : Bool} {before values : List α} {start : Bytes}
    (next : ∃ h, nextItem ending first input = .ok (some ⟨start, h⟩))
    (given : Gives (item start) x rest)
    (others : Gives (readItems ending item false (x :: before) rest) values left) :
    Gives (readItems ending item first before input) values left := by
  obtain ⟨h, next⟩ := next
  obtain ⟨h₂, given⟩ := given
  obtain ⟨h₃, others⟩ := others
  refine ⟨by omega, ?_⟩
  rw [readItems, next]
  simp [given, others, bind, Except.bind]

theorem nextField_gives {value : Reader α} {first : Bool} {start : Bytes}
    (next : ∃ h, nextItem ending first input = .ok (some ⟨start, h⟩))
    (given : Gives (value start) x left) :
    Gives (nextField ending first value input) (some x) left := by
  obtain ⟨h, next⟩ := next
  obtain ⟨h₂, given⟩ := given
  exact ⟨length_le_of_le_of_lt h h₂, by simp [nextField, next, given, bind, Except.bind]⟩

theorem nextField_refused {value : Reader α} {first : Bool} {start : Bytes}
    {fault : Fault} (next : ∃ h, nextItem ending first input = .ok (some ⟨start, h⟩))
    (refused : value start = .error fault) :
    nextField ending first value input = .error fault := by
  obtain ⟨h, next⟩ := next
  simp [nextField, next, refused, bind, Except.bind]

theorem nextField_end (ending : Ending) (value : Reader α) (first : Bool)
    (next : skipGap input = byte ']' :: rest) :
    Gives (nextField ending first value input) none input :=
  ⟨Nat.le_refl _, by simp [nextField, nextItem_end first next, bind, Except.bind, AtMost.all]⟩

theorem closeList_ne_ok {b : UInt8} (next : skipGap input = b :: rest) (other : b ≠ byte ']')
    (left : Shorter input) : closeList ending input ≠ .ok left := by
  unfold closeList
  split
  · simp_all
  · rename_i h
    rw [next] at h
    cases h
    simp only [beq_iff_eq, other, if_false]
    repeat' split
    all_goals nofun

/-! ## The machine -/

variable {place : Place} {stack : List Bracket}

theorem run_nil (goes : place ≠ .after ∨ stack ≠ [])
    (before : Bytes) :
    run ending place stack before [] =
      endStep ending place stack >>= fun _ => .ok (before.reverse, []) := by
  rw [run.eq_def]
  split
  · simp at goes
  · rfl
  · rename_i h
    cases h

theorem run_cons (goes : place ≠ .after ∨ stack ≠ [])
    (before : Bytes) (b : UInt8) (rest : Bytes) :
    run ending place stack before (b :: rest) =
      match step place stack b with
      | .error fault => .error fault
      | .ok none => .ok (before.reverse, b :: rest)
      | .ok (some (place, stack)) => run ending place stack (b :: before) rest := by
  rw [run.eq_def]
  split
  · simp at goes
  · rename_i h
    cases h
  · rename_i h
    cases h
    rfl

/-! ## Values -/

theorem readRaw_gives {raw : Bytes} (given : Gives (readWritten ending (skipGap input)) raw left)
    (text : (Utf8.decode? raw).isSome = true) : Gives (readRaw ending input) raw left := by
  obtain ⟨h, given⟩ := given
  exact ⟨Nat.lt_of_lt_of_le h (length_skipGap_le input),
    by simp [readRaw, given, text, bind, Except.bind]⟩

variable [Rounding]

theorem readBracketed_list {expected : String}
    {list : (input : Bytes) → Except Fault (α × AtMost input)}
    {object : Option ((input : Bytes) → Except Fault (α × AtMost input))} {inner : Bytes}
    (next : skipGap input = byte '[' :: rest) (given : Gives (list rest) x inner)
    (close : Leaves (closeList ending inner) left) :
    Gives (readBracketed ending expected list object input) x left := by
  obtain ⟨h, given⟩ := given
  obtain ⟨h₂, close⟩ := close
  refine ⟨length_lt_after_closing next h h₂, ?_⟩
  unfold readBracketed
  split
  · simp_all
  · rename_i h'
    rw [next] at h'
    cases h'
    simp [given, close, bind, Except.bind]

theorem readBracketed_object {expected : String}
    {list object : (input : Bytes) → Except Fault (α × AtMost input)} {inner : Bytes}
    (next : skipGap input = byte '{' :: rest) (given : Gives (object rest) x inner)
    (close : Leaves (closeObject ending inner) left) :
    Gives (readBracketed ending expected list (some object) input) x left := by
  obtain ⟨h, given⟩ := given
  obtain ⟨h₂, close⟩ := close
  refine ⟨length_lt_after_closing next h h₂, ?_⟩
  have other : byte '{' ≠ byte '[' := by decide
  unfold readBracketed
  split
  · simp_all
  · rename_i h'
    rw [next] at h'
    cases h'
    simp [given, close, other, bind, Except.bind]

theorem refuseKind_ne_ok {expected : String} :
    refuseKind ending expected input ≠ .ok x := by
  intro ok
  obtain ⟨found, -, ok⟩ := ok_of_bind ok
  cases ok

theorem readString_gives {text : String} (next : skipGap input = byte '"' :: rest)
    (given : Gives (readText ending rest) text left) : Gives (readString ending input) text left := by
  obtain ⟨h, given⟩ := given
  refine ⟨length_lt_of_skipGap_lt next h, ?_⟩
  unfold readString readNamedString
  split
  · simp_all
  · rename_i h'
    rw [next] at h'
    cases h'
    simp [given, bind, Except.bind]

theorem readAnyNumber_signed {expected : String} {made : Except Fault Number}
    (next : skipGap input = byte '-' :: rest)
    (makes : Makes (readNumber ending true rest) made left) :
    Makes (readAnyNumber ending expected input) made left := by
  obtain ⟨h, makes⟩ := makes
  refine ⟨length_lt_of_skipGap_lt next h, ?_⟩
  unfold readAnyNumber
  split
  · simp_all
  · rename_i h'
    rw [next] at h'
    cases h'
    cases made <;> simp [makes, Except.map, bind, Except.bind]

theorem readAnyNumber_unsigned {expected : String} {made : Except Fault Number} {b : UInt8}
    (next : skipGap input = b :: rest) (digit : isDigit b = true)
    (makes : Makes (readNumber ending false (b :: rest)) made left) :
    Makes (readAnyNumber ending expected input) made left := by
  obtain ⟨h, makes⟩ := makes
  refine ⟨length_lt_of_skipGap_cons next h, ?_⟩
  have other : b ≠ byte '-' := by
    rintro rfl
    cases digit
  unfold readAnyNumber
  split
  · simp_all
  · rename_i h'
    rw [next] at h'
    cases h'
    cases made <;> simp [makes, other, digit, Except.map, bind, Except.bind]

theorem readWholeUpTo_gives {limit n : Nat} {expected : String} (small : n ≤ limit)
    (given : Gives (readAnyNumber ending expected input) (.whole n) left) :
    Gives (readWholeUpTo ending limit expected input) n left := by
  obtain ⟨h, given⟩ := given
  exact ⟨h, by simp [readWholeUpTo, given, small, bind, Except.bind]⟩

theorem readReal_gives {number : Number}
    (given : Gives (readAnyNumber ending "f64" input) number left) :
    Gives (readReal ending input) number.toReal left := by
  obtain ⟨h, given⟩ := given
  exact ⟨h, by simp [readReal, given, bind, Except.bind]⟩

theorem readOptionalReal_gives {b : UInt8} {y : Binary64} (next : skipGap input = b :: rest)
    (other : b ≠ byte 'n') (given : Gives (readReal ending input) y left) :
    Gives (readOptionalReal ending input) (some y) left := by
  obtain ⟨h, given⟩ := given
  refine ⟨h, ?_⟩
  unfold readOptionalReal
  split
  · rename_i h'
    rw [next] at h'
    cases h'
    simp [given, other, bind, Except.bind]
  · simp_all

end Json

end TermTape
