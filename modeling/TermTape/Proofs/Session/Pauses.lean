import TermTape.Proofs.Number.Seconds
import TermTape.Session.Playback

/-!
# Pauses of a playback

The steps from a delay to a pause keep the order of what they are given: the seconds of a duration
(`secondsUnits_mono`), the cut to a limit (`cut_mono`), the division by the speed and the duration of
a number of seconds (`getD_ofSeconds?_mono`). The first step alone does not: a delay of `2^64` seconds or
more is no duration and is not waited for at all. So a longer delay is played with no shorter pause
up to that length, and with none from there on (`pauses_in_order_iff`).
-/
namespace TermTape

namespace Duration

/-! ## Limits -/

/-- The cut to a limit keeps the order. -/
theorem cut_mono {d d' : Duration} (limit : Duration) (le : d ≤ d') : d.cut limit ≤ d'.cut limit := by
  have le : d.nanoseconds ≤ d'.nanoseconds := le
  unfold cut
  split
  · exact le
  · split <;> split
    · exact le
    · assumption
    · rename_i past within
      exact absurd (Nat.le_trans le within) past
    · exact Nat.le_refl _

/-! ## Durations of numbers -/

private theorem mk_le_mk {nanoseconds nanoseconds' : Nat} :
    (⟨nanoseconds⟩ : Duration) ≤ ⟨nanoseconds'⟩ ↔ nanoseconds ≤ nanoseconds' := Iff.rfl

private theorem le_zero_iff {d : Duration} : d ≤ .zero ↔ d = .zero :=
  ⟨fun le => congrArg Duration.mk (Nat.le_zero.mp le), fun same => same ▸ Nat.le_refl _⟩

/-- The least number of seconds that is no duration. -/
def tooLong : Binary64 := Binary64.ofNat (Nat.pow 2 64)

private theorem tooLong_eq_finite :
    ∃ representable, tooLong = .finite false (2 ^ 64 * oneUnits) representable := by
  have split : Nat.pow 2 64 = 1 * 2 ^ 64 := by decide
  exact ofNat_eq_finite split (by decide) (Nat.le_refl 64)

private theorem le_log2_iff (units : Nat) :
    64 + unitPlaces ≤ units.log2 ↔ 2 ^ 64 * oneUnits ≤ units := by
  rw [oneUnits_eq]
  generalize unitPlaces = unit
  rw [← Nat.pow_add]
  by_cases none : units = 0
  · have := Nat.two_pow_pos (64 + unit)
    rw [none, Nat.log2_zero]
    omega
  · exact Nat.le_log2 none

section
variable {x y : Binary64} {negative : Bool} {units : Nat} {representable : Representable units}

private theorem ofSeconds?_finite
    (above : (Binary64.finite negative units representable).isBelowZero = false) :
    ofSeconds? (.finite negative units representable) =
      if 2 ^ 64 * oneUnits ≤ units then none
      else some ⟨divNearest (units * perSecond) oneUnits⟩ := by
  have sign : (negative && units != 0) = false := above
  rw [ofSeconds?, sign, oneUnits_def]
  simp only [Bool.false_eq_true, ↓reduceIte, le_log2_iff]

/-- A finite number that is not below zero is no duration exactly from `2^64` seconds on. -/
theorem ofSeconds?_eq_none_iff (above : x.AtLeastZero) (finite : x.isFinite = true) :
    ofSeconds? x = none ↔ tooLong ≤ x := by
  cases x with
  | nan => cases finite
  | infinite => cases finite
  | finite negative units representable =>
    obtain ⟨fits, same⟩ := tooLong_eq_finite
    have order : tooLong ≤ .finite negative units representable ↔ 2 ^ 64 * oneUnits ≤ units := by
      rw [same]
      change ((2 ^ 64 * oneUnits : Nat) : Int) ≤ Binary64.signedUnits negative units ↔ _
      rw [Binary64.signedUnits_of_not_below above.2]
      exact Int.ofNat_le
    rw [ofSeconds?_finite above.2, order, ite_eq_left_iff]
    simp

/-- A number of seconds that is no more than a duration is one, and no longer. -/
theorem ofSeconds?_mono {longer : Duration} (above : x.AtLeastZero) (le : x ≤ y)
    (found : ofSeconds? y = some longer) : ∃ d, ofSeconds? x = some d ∧ d ≤ longer := by
  cases y with
  | nan => cases found
  | infinite => cases found
  | finite negative units representable =>
    obtain ⟨positive, negative', units', representable', rfl, fewer⟩ :=
      Binary64.units_le_of_le above le
    rw [ofSeconds?_finite positive] at found
    split at found
    · cases found
    · rename_i short
      rw [ofSeconds?_finite above.2, if_neg fun long => short (Nat.le_trans long fewer),
        ← Option.some.inj found]
      exact ⟨_, rfl, mk_le_mk.mpr (divNearest_mono _ (Nat.mul_le_mul_right _ fewer))⟩

/-- No number of seconds is longer than the longest duration. -/
theorem ofSeconds?_le_longest {d : Duration} (found : ofSeconds? x = some d) : d ≤ longest := by
  cases x with
  | nan => cases found
  | infinite => cases found
  | finite negative units representable =>
    by_cases below : (Binary64.finite negative units representable).isBelowZero = true
    · have sign : (negative && units != 0) = true := below
      rw [ofSeconds?, sign] at found
      cases found
    rw [ofSeconds?_finite (Bool.eq_false_of_not_eq_true below)] at found
    split at found
    · cases found
    rename_i short
    rw [← Option.some.inj found]
    -- The numbers below `2^64` lie more than a second below it, so the rounding does not reach it.
    have room : units ≤ (2 ^ 64 - 1) * oneUnits := by
      have granular := granular_of_representable representable
      rw [oneUnits_eq] at short ⊢
      generalize unitPlaces = unit at short ⊢
      have step := add_step_le granular (64 + unit) (by omega) (by rw [Nat.pow_add]; omega)
      have one : 2 ^ unit ≤ 2 ^ (64 + unit - 53) := Nat.pow_le_pow_right Nat.two_pos (by omega)
      rw [Nat.pow_add] at step
      omega
    have bound : divNearest (units * perSecond) oneUnits ≤ (2 ^ 64 - 1) * perSecond :=
      calc divNearest (units * perSecond) oneUnits
          ≤ divNearest ((2 ^ 64 - 1) * perSecond * oneUnits) oneUnits := by
            refine divNearest_mono _ ?_
            rw [Nat.mul_right_comm]
            exact Nat.mul_le_mul_right _ room
        _ = (2 ^ 64 - 1) * perSecond := divNearest_mul _ oneUnits_pos
    rw [longest, mk_le_mk]
    exact Nat.le_trans bound (by decide)

/-- The number of seconds that a pause takes keeps the order, and what is no duration is the longest. -/
theorem getD_ofSeconds?_mono (above : x.AtLeastZero) (le : x ≤ y) :
    (ofSeconds? x).getD longest ≤ (ofSeconds? y).getD longest := by
  cases longer : ofSeconds? y with
  | some limit =>
    obtain ⟨d, found, less⟩ := ofSeconds?_mono above le longer
    rw [found]
    exact less
  | none =>
    cases found : ofSeconds? x with
    | some d => exact ofSeconds?_le_longest found
    | none => exact Nat.le_refl _

end

end Duration

namespace Player

variable {player : Player} {short long : Binary64}

/-! ## Pauses -/

/-- A longer wait makes a pause that is no shorter. -/
theorem pause_mono {wait wait' : Duration} (le : wait ≤ wait') :
    (Duration.ofSeconds? (wait.seconds / player.settings.speed)).getD .longest ≤
      (Duration.ofSeconds? (wait'.seconds / player.settings.speed)).getD .longest := by
  obtain ⟨finite, above⟩ := Bool.and_eq_true_iff.mp player.valid
  rw [Duration.seconds_eq, Duration.seconds_eq]
  have granular := Duration.granular_secondsUnits wait
  exact Duration.getD_ofSeconds?_mono
    (Binary64.atLeastZero_ofUnits_div granular finite above)
    (Binary64.ofUnits_div_le_div granular (Duration.secondsUnits_mono le) finite above)

private theorem pauseBefore_mono (le : recordedWait short ≤ recordedWait long) :
    player.pauseBefore short ≤ player.pauseBefore long :=
  pause_mono (Duration.cut_mono _ le)

/-- A delay that is no duration is not waited for. -/
theorem pauseBefore_of_none (none : Duration.ofSeconds? long = none) :
    player.pauseBefore long = .zero := by
  obtain ⟨finite, above⟩ := Bool.and_eq_true_iff.mp player.valid
  have wait : recordedWait long = .zero := by rw [recordedWait, none]; rfl
  have cut (limit : Duration) : Duration.zero.cut limit = .zero := by
    unfold Duration.cut
    split
    · rfl
    · exact if_pos (Nat.zero_le _)
  have seconds : Duration.zero.seconds = .zero false := by decide +kernel
  rw [pauseBefore, wait, cut, seconds, Binary64.zero_div finite above]
  decide +kernel

/-- Of two delays that a document can hold, the longer one is played with no shorter pause exactly if
it is less than `2^64` seconds, or the shorter one has no pause. A delay of `2^64` seconds or more has
none. -/
theorem pauses_in_order_iff (player : Player) (short long : Binary64)
    (finite : long.isFinite = true) (above : .zero false ≤ short) (le : short ≤ long) :
    (player.pauseBefore short ≤ player.pauseBefore long ↔
        ¬ Duration.tooLong ≤ long ∨ player.pauseBefore short = .zero) ∧
      (Duration.tooLong ≤ long → player.pauseBefore long = .zero) := by
  have above := Binary64.atLeastZero_iff.mpr above
  have past := Duration.ofSeconds?_eq_none_iff (above.of_le le) finite
  rw [← past]
  refine ⟨?_, pauseBefore_of_none⟩
  cases found : Duration.ofSeconds? long with
  | none =>
    rw [pauseBefore_of_none found]
    simp [Duration.le_zero_iff]
  | some d =>
    refine ⟨fun _ => .inl nofun, fun _ => pauseBefore_mono ?_⟩
    obtain ⟨d', found', less⟩ := Duration.ofSeconds?_mono above le found
    rw [recordedWait, recordedWait, found, found']
    exact less

/-- Cut to a second and played at twice the speed, a delay of a week keeps the pause of a second. -/
theorem pauses_in_order_week :
    let player : Player := ⟨⟨⟨Duration.perSecond⟩, Binary64.ofNat 2⟩, by decide +kernel⟩
    player.pauseBefore (Binary64.ofNat 1) ≤ player.pauseBefore (Binary64.ofNat 604800) ∧
      player.pauseBefore (Binary64.ofNat 604800) = ⟨500000000⟩ := by
  intro player
  obtain ⟨order, -⟩ := pauses_in_order_iff player (Binary64.ofNat 1) (Binary64.ofNat 604800)
    (by decide +kernel) (by decide +kernel) (by decide +kernel)
  exact ⟨order.mpr (.inl (by decide +kernel)), by decide +kernel⟩

/-- Where a pause lasts one second at most, a delay of five seconds is played with it, and one of
`2^64` seconds with none. -/
theorem pause_lost :
    let player : Player := ⟨⟨⟨Duration.perSecond⟩, Binary64.ofNat 1⟩, by decide +kernel⟩
    Duration.tooLong.isFinite = true ∧ .zero false ≤ Binary64.ofNat 5 ∧
      Binary64.ofNat 5 ≤ Duration.tooLong ∧
      player.pauseBefore (Binary64.ofNat 5) = ⟨Duration.perSecond⟩ ∧
      player.pauseBefore Duration.tooLong = .zero ∧
      ¬ player.pauseBefore (Binary64.ofNat 5) ≤ player.pauseBefore Duration.tooLong := by
  decide +kernel

end Player
end TermTape
