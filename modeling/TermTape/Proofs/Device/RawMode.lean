import TermTape.Device.Modes

/-!
# What raw mode changes

Raw mode changes what it names and nothing else (`raw_changes`). Its flags are off, characters have
eight bits, and a read waits for one byte for any time; each other bit of the four words, each other
control character and every other field is as before. So it forgets exactly what it names: modes that
agree in all else have one image, and no others have.
-/
namespace TermTape.Modes

variable {flags a b word value : UInt32} {place : Nat}

/-! ## Bits of words -/

/-- A bit of a word, from the least one on. -/
def bit (word : UInt32) (place : Nat) : Bool := word.toBitVec.getLsbD place

/-- Two words agree in each bit that is in none of some flags. -/
def AgreeOutside (flags a b : UInt32) : Prop :=
  ∀ place, bit flags place = false → bit a place = bit b place

private theorem eq_of_bit (same : ∀ place, bit a place = bit b place) : a = b :=
  UInt32.toBitVec_inj.mp (BitVec.eq_of_getLsbD_eq fun place _ => same place)

private theorem bit_and : bit (a &&& b) place = (bit a place && bit b place) := by
  simp [bit]

private theorem bit_or : bit (a ||| b) place = (bit a place || bit b place) := by
  simp [bit]

private theorem bit_zero : bit 0 place = false := by
  simp [bit]

private theorem bit_without :
    bit (without word flags) place = (bit word place && !bit flags place) := by
  by_cases inside : place < 32
  · simp [bit, without, inside]
  · have past (w : BitVec 32) : w.getLsbD place = false := w.getLsbD_of_ge place (by omega)
    simp [bit, without, past]

/-- Flags together have the bits of each. -/
theorem bit_together (list : List UInt32) : bit (together list) place = list.any (bit · place) := by
  have from_start (start : UInt32) :
      bit (list.foldl (· ||| ·) start) place = (bit start place || list.any (bit · place)) := by
    induction list generalizing start with
    | nil => simp
    | cons flag others ih => simp [ih, bit_or, Bool.or_assoc]
  simp [together, from_start, bit_zero]

private theorem and_together {list : List UInt32} {flag : UInt32} (listed : flag ∈ list) :
    flag &&& together list = flag := by
  refine eq_of_bit fun place => ?_
  rw [bit_and, bit_together]
  cases on : bit flag place with
  | false => rfl
  | true => exact List.any_eq_true.mpr ⟨flag, listed, on⟩

/-! ## Fields of words -/

/-- A word keeps all bits but those of some flags, whatever these are set to. -/
theorem agreeOutside_without_or (inside : value &&& flags = value) :
    AgreeOutside flags (without word flags ||| value) word := by
  intro place off
  have value_off : bit value place = false := by
    rw [← inside, bit_and, off, Bool.and_false]
  rw [bit_or, bit_without, off, value_off, Bool.or_false, Bool.not_false, Bool.and_true]

/-- A field among the flags that are set has what they are set to there. -/
theorem without_or_and {field : UInt32} (inside : field &&& flags = field) :
    (without word flags ||| value) &&& field = value &&& field := by
  refine eq_of_bit fun place => ?_
  have within : (bit field place && bit flags place) = bit field place := by rw [← bit_and, inside]
  rw [bit_and, bit_and, bit_or, bit_without]
  cases on : bit field place with
  | false => simp
  | true =>
    have set : bit flags place = true := by simpa [on] using within
    simp [set]

/-- Words with the same value in place of some flags are the same exactly if they agree outside. -/
theorem without_or_eq_iff (inside : value &&& flags = value) :
    without a flags ||| value = without b flags ||| value ↔ AgreeOutside flags a b := by
  constructor
  · intro same place off
    rw [← agreeOutside_without_or inside place off, same,
      agreeOutside_without_or inside place off]
  · intro agree
    refine eq_of_bit fun place => ?_
    rw [bit_or, bit_or, bit_without, bit_without]
    cases off : bit flags place with
    | false => rw [agree place off]
    | true => simp

-- Flags that are only turned off are set to nothing.
private theorem zero_inside (flags : UInt32) : 0 &&& flags = 0 := UInt32.zero_and

private theorem agreeOutside_without : AgreeOutside flags (without word flags) word := by
  have agree : AgreeOutside flags (without word flags ||| 0) word :=
    agreeOutside_without_or (zero_inside flags)
  rwa [UInt32.or_zero] at agree

private theorem without_and {field : UInt32} (inside : field &&& flags = field) :
    without word flags &&& field = 0 := by
  have none : (without word flags ||| 0) &&& field = 0 &&& field := without_or_and inside
  rwa [UInt32.or_zero, UInt32.zero_and] at none

private theorem without_eq_iff : without a flags = without b flags ↔ AgreeOutside flags a b := by
  have same : without a flags ||| 0 = without b flags ||| 0 ↔ AgreeOutside flags a b :=
    without_or_eq_iff (zero_inside flags)
  rwa [UInt32.or_zero, UInt32.or_zero] at same

/-! ## Modes -/

-- What raw mode names is listed here again, so that the statements below do not lean on its definition.

/-- The flags of input that are off: `IGNBRK`, `BRKINT`, `PARMRK`, `ISTRIP`, `INLCR`, `IGNCR`,
`ICRNL` and `IXON`. -/
def inputOff : List UInt32 :=
  [ignoreBreak, breakInterrupt, markParity, stripEighth, newlineToReturn, ignoreReturn,
    returnToNewline, flowControl]

/-- The flag of output that is off: `OPOST`. -/
def outputOff : List UInt32 := [processOutput]

/-- The flags of the line that are off: `ISIG`, `ICANON`, `ECHO`, `ECHONL` and `IEXTEN`. -/
def lineOff : List UInt32 := [signals, byLines, echo, echoNewline, extensions]

/-- The modes are those of raw mode in all that it names. -/
structure IsRaw (modes : Modes) : Prop where
  input : ∀ flag ∈ inputOff, modes.input &&& flag = 0
  output : ∀ flag ∈ outputOff, modes.output &&& flag = 0
  line : ∀ flag ∈ lineOff, modes.line &&& flag = 0
  parity : modes.control &&& parity = 0
  size : modes.control &&& characterSize = eightBits
  count : modes.readCount = 1
  wait : modes.readWait = 0

/-- Modes agree in all that raw mode does not name. -/
structure Alike (a b : Modes) : Prop where
  input : AgreeOutside (together inputOff) a.input b.input
  output : AgreeOutside (together outputOff) a.output b.output
  line : AgreeOutside (together lineOff) a.line b.line
  control : AgreeOutside (characterSize ||| parity) a.control b.control
  characters : ∀ place : Fin 17, place ≠ countPlace → place ≠ waitPlace →
    a.characters[place] = b.characters[place]
  discipline : a.discipline = b.discipline
  inputSpeed : a.inputSpeed = b.inputSpeed
  outputSpeed : a.outputSpeed = b.outputSpeed

/-- Raw mode sets the two characters of reading. -/
theorem raw_characters (modes : Modes) (place : Fin 17) :
    modes.raw.characters[place] =
      if place = waitPlace then 0 else if place = countPlace then 1 else modes.characters[place] := by
  change ((modes.characters.set countPlace 1).set waitPlace 0)[place.val] = _
  rw [Vector.getElem_set, Vector.getElem_set]
  simp only [Fin.val_inj, eq_comm (b := place)]
  rfl

private theorem isRaw_raw (modes : Modes) : IsRaw modes.raw where
  input _ listed := without_and (and_together listed)
  output _ listed := without_and (and_together listed)
  line _ listed := without_and (and_together listed)
  parity := (without_or_and (by decide)).trans (by decide)
  size := (without_or_and (by decide)).trans (by decide)
  count := raw_characters modes countPlace
  wait := raw_characters modes waitPlace

private theorem alike_raw (modes : Modes) : Alike modes.raw modes where
  input := agreeOutside_without
  output := agreeOutside_without
  line := agreeOutside_without
  control := agreeOutside_without_or (by decide)
  characters place notCount notWait := by
    rw [raw_characters, if_neg notWait, if_neg notCount]
  discipline := rfl
  inputSpeed := rfl
  outputSpeed := rfl

private theorem characters_raw_eq_iff {modes other : Modes} :
    modes.raw.characters = other.raw.characters ↔
      ∀ place : Fin 17, place ≠ countPlace → place ≠ waitPlace →
        modes.characters[place] = other.characters[place] := by
  constructor
  · intro same place notCount notWait
    have at_place : modes.raw.characters[place] = other.raw.characters[place] := by rw [same]
    rwa [raw_characters, raw_characters, if_neg notWait, if_neg notCount, if_neg notWait,
      if_neg notCount] at at_place
  · intro agree
    refine Vector.ext fun place inside => ?_
    have each (m : Modes) := raw_characters m ⟨place, inside⟩
    refine (each modes).trans (.trans ?_ (each other).symm)
    split
    · rfl
    · rename_i notWait
      split
      · rfl
      · rename_i notCount
        exact agree _ notCount notWait

/-- Modes have one image exactly if they agree in all that raw mode does not name. -/
theorem raw_eq_raw_iff {modes other : Modes} : modes.raw = other.raw ↔ Alike modes other := by
  constructor
  · intro same
    exact {
      input := without_eq_iff.mp (congrArg Modes.input same)
      output := without_eq_iff.mp (congrArg Modes.output same)
      line := without_eq_iff.mp (congrArg Modes.line same)
      control := (without_or_eq_iff (by decide)).mp (congrArg Modes.control same)
      characters := characters_raw_eq_iff.mp (congrArg Modes.characters same)
      discipline := (congrArg Modes.discipline same :)
      inputSpeed := (congrArg Modes.inputSpeed same :)
      outputSpeed := (congrArg Modes.outputSpeed same :) }
  · intro alike
    exact Modes.ext (without_eq_iff.mpr alike.input) (without_eq_iff.mpr alike.output)
      ((without_or_eq_iff (by decide)).mpr alike.control) (without_eq_iff.mpr alike.line)
      (characters_raw_eq_iff.mpr alike.characters) alike.discipline alike.inputSpeed alike.outputSpeed

/-- Raw mode turns off the flags that it names, sets the size of characters to eight bits and the rule
of reading to one byte for any time, and leaves every other bit, character and field as it is. To enter
it again changes nothing, and two modes have one image exactly if they agree in all that it leaves. -/
theorem raw_changes (modes : Modes) :
    IsRaw modes.raw ∧ Alike modes.raw modes ∧ modes.raw.raw = modes.raw ∧
      ∀ other : Modes, modes.raw = other.raw ↔ Alike modes other :=
  ⟨isRaw_raw modes, alike_raw modes, raw_eq_raw_iff.mpr (alike_raw modes), fun _ => raw_eq_raw_iff⟩

/-- All flags but those of raw mode stay on where all were on. -/
example :
    let full : Modes := { Modes.initial with input := 0xffffffff, line := 0xffffffff }
    full.raw.input = 0xfffffa14 ∧ full.raw.line = 0xffff7fb4 := by
  decide

end TermTape.Modes
