import Mathlib.Algebra.Order.Floor.Div
import TenantSessions.Cache.Fault

/-!
The expiry of a lifetime is the lifetime in milliseconds, rounded up, up to the last number that an
expiry command can carry. Words of 128 bits are wide enough to work it out.
-/

namespace TenantSessions.Lifetime

variable {life : Lifetime} {millis : Nat} {fault : Fault}

/-- The milliseconds of a lifetime are rounded up. -/
theorem millis_eq (life : Lifetime) : life.millis = (life.nanos + 999999) / 1000000 := by
  -- One nanosecond less than a millisecond carries just if something is left over.
  rw [Lifetime.millis, nanosPerMilli]
  split <;> omega

/-- The milliseconds of a lifetime are its nanoseconds, divided and rounded up. -/
theorem millis_eq_ceilDiv (life : Lifetime) : life.millis = life.nanos ⌈/⌉ nanosPerMilli := by
  rw [millis_eq, Nat.ceilDiv_eq_add_pred_div, nanosPerMilli, Nat.add_sub_assoc (by decide)]

/-- A lifetime has an expiry exactly if a command can carry its milliseconds. -/
theorem expiry_eq_ok_iff :
    life.expiry = .ok millis ↔ life.millis = millis ∧ millis ≤ maxMillis := by
  rw [expiry]
  split
  · rename_i short
    rw [Except.ok.injEq]
    exact ⟨fun same => ⟨same, same ▸ short⟩, And.left⟩
  · rename_i long
    simp only [reduceCtorEq, false_iff]
    rintro ⟨same, short⟩
    exact long (same ▸ short)

/-- A lifetime is refused exactly if no command can carry its milliseconds. -/
theorem expiry_eq_error_iff :
    life.expiry = .error fault ↔ maxMillis < life.millis ∧ fault = .lifetimeTooLong life := by
  rw [expiry]
  split
  · rename_i short
    simp [Nat.not_lt.mpr short]
  · rename_i long
    simp [Nat.not_le.mp long, eq_comm]

/-- The whole milliseconds of a lifetime in a word of 128 bits: those of the whole seconds, which
fit a word of 64 bits, and those of the part of a second. -/
def wholeMillis (life : Lifetime) : BitVec 128 :=
  (UInt64.ofNat life.seconds).toBitVec.setWidth 128 * 1000 +
    .ofNat 128 (life.subsecond / nanosPerMilli)

/-- The milliseconds of a lifetime in a word of 128 bits: one more than the whole ones where
nanoseconds are left over. -/
def wideMillis (life : Lifetime) : BitVec 128 :=
  if life.subsecond % nanosPerMilli = 0 then life.wholeMillis else life.wholeMillis + 1

/-- The expiry of a lifetime in a signed word of 64 bits, if one can hold it. -/
def expiryWord? (life : Lifetime) : Option Int64 :=
  if life.wideMillis.toNat ≤ maxMillis then some (.ofBitVec (life.wideMillis.setWidth 64)) else none

/-- A lifetime is its whole seconds and a part of a second. -/
theorem nanos_eq (life : Lifetime) :
    life.nanos = nanosPerSecond * life.seconds + life.subsecond :=
  (Nat.div_add_mod ..).symm

/-- The whole seconds of a lifetime fit a word. -/
theorem seconds_lt (life : Lifetime) : life.seconds < UInt64.size :=
  Nat.div_lt_of_lt_mul (Nat.mul_comm .. ▸ life.bounded)

/-- What the whole seconds leave over is less than a second. -/
theorem subsecond_lt (life : Lifetime) : life.subsecond < nanosPerSecond :=
  Nat.mod_lt _ (by decide)

/-- A word of 128 bits holds the whole milliseconds of every lifetime. -/
theorem toNat_wholeMillis (life : Lifetime) :
    life.wholeMillis.toNat = 1000 * life.seconds + life.subsecond / nanosPerMilli := by
  have seconds := life.seconds_lt
  have part := life.subsecond_lt
  have word : (UInt64.ofNat life.seconds).toBitVec.toNat = life.seconds :=
    UInt64.toNat_ofNat_of_lt' seconds
  have thousand : (1000 : BitVec 128).toNat = 1000 := rfl
  rw [UInt64.size] at seconds
  rw [nanosPerSecond] at part
  rw [wholeMillis, BitVec.toNat_add, BitVec.toNat_mul, BitVec.toNat_setWidth, BitVec.toNat_ofNat,
    word, thousand, nanosPerMilli]
  -- Neither the product nor the sum comes near the end of the word.
  omega

/-- A word of 128 bits holds the milliseconds of every lifetime. -/
theorem toNat_wideMillis (life : Lifetime) : life.wideMillis.toNat = life.millis := by
  have seconds := life.seconds_lt
  have part := life.subsecond_lt
  have parts := life.nanos_eq
  have whole := life.toNat_wholeMillis
  rw [wideMillis, Lifetime.millis]
  rw [nanosPerMilli] at *
  rw [nanosPerSecond] at *
  rw [UInt64.size] at seconds
  -- A second is a whole number of milliseconds, so only its part leaves nanoseconds over.
  split
  · rw [whole]
    split <;> omega
  · rw [BitVec.toNat_add, whole]
    show (_ + 1) % 2 ^ 128 = _
    split <;> omega

/-- A number that fits is not changed by the cast to a signed word. -/
theorem toInt_ofBitVec_setWidth {wide : BitVec 128} (fits : wide.toNat ≤ maxMillis) :
    (Int64.ofBitVec (wide.setWidth 64)).toInt = wide.toNat := by
  rw [maxMillis] at fits
  have narrow : (wide.setWidth 64).toNat = wide.toNat := by
    rw [BitVec.toNat_setWidth]
    omega
  -- The sign bit stays free, so the number is not taken for a negative one.
  rw [Int64.toInt_ofBitVec, BitVec.toInt_eq_toNat_of_lt (by omega), narrow]

/-- Words come to the same expiry of a lifetime as numbers without limits. -/
theorem expiryWord?_eq_some_iff {word : Int64} :
    life.expiryWord? = some word ↔
      ∃ millis : Nat, life.expiry = .ok millis ∧ word.toInt = millis := by
  rw [expiryWord?]
  constructor
  · intro found
    rw [Option.ite_none_right_eq_some] at found
    obtain ⟨fits, same⟩ := found
    refine ⟨life.wideMillis.toNat, expiry_eq_ok_iff.mpr ⟨life.toNat_wideMillis.symm, fits⟩, ?_⟩
    rw [← Option.some.inj same, toInt_ofBitVec_setWidth fits]
  · rintro ⟨millis, counted, same⟩
    obtain ⟨rfl, short⟩ := expiry_eq_ok_iff.mp counted
    have fits : life.wideMillis.toNat ≤ maxMillis := life.toNat_wideMillis ▸ short
    rw [if_pos fits, Option.some.injEq, ← Int64.toInt_inj, toInt_ofBitVec_setWidth fits,
      toNat_wideMillis, same]

end TenantSessions.Lifetime
