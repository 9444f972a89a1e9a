import TenantSessions.Decimal

/-! Numbers written in decimal read back as themselves, and their texts hold nothing but digits and
a sign. -/

namespace TenantSessions.Decimal

/-- A digit is no character that is none, such as a sign. -/
theorem ne_of_isDigit {c other : Char} (digit : c.isDigit) (noDigit : other.isDigit = false) :
    c ≠ other := by
  rintro rfl
  exact Bool.noConfusion (noDigit.symm.trans digit)

/-- Appending digits never makes a number smaller. -/
theorem le_ofDigitChars (digits : List Char) (value : Nat) :
    value ≤ Nat.ofDigitChars 10 digits value := by
  -- Each digit multiplies the value by ten and adds to it, so the value stays quantified over.
  induction digits generalizing value with
  | nil => simp
  | cons c rest ih =>
    rw [Nat.ofDigitChars_cons]
    have grown := ih (10 * value + (c.toNat - '0'.toNat))
    omega

/-- Digits whose number stays within the limit are read as that number. -/
theorem readDigits_ofDigitChars (limit : Nat) (beyond : Flaw) {digits : List Char} {value : Nat}
    (all : ∀ c ∈ digits, c.isDigit) (within : Nat.ofDigitChars 10 digits value ≤ limit) :
    readDigits limit beyond value digits = .ok (Nat.ofDigitChars 10 digits value) := by
  -- The running value only grows, so no digit passes a limit that the last one keeps.
  induction digits generalizing value with
  | nil => simp [readDigits]
  | cons c rest ih =>
    rw [Nat.ofDigitChars_cons] at within ⊢
    have next := Nat.le_trans (le_ofDigitChars rest _) within
    rw [readDigits, if_pos (all c (by simp))]
    simp only [if_pos next]
    -- The reader goes on with the value that the digit has made.
    exact ih (fun d member => all d (by simp [member])) within

/-- Characters are read as a number exactly if all are digits and their number stays within the
limit. -/
theorem readDigits_eq_ok_iff {limit : Nat} {beyond : Flaw} {digits : List Char}
    {value number : Nat} (within : value ≤ limit) :
    readDigits limit beyond value digits = .ok number ↔
      (∀ c ∈ digits, c.isDigit) ∧ Nat.ofDigitChars 10 digits value = number ∧ number ≤ limit := by
  constructor
  · intro read
    -- By induction on the digits: each leaves a running value that is within the limit again.
    induction digits generalizing value with
    | nil =>
      rw [readDigits, Except.ok.injEq] at read
      subst read
      exact ⟨by simp, by simp, within⟩
    | cons c rest ih =>
      rw [readDigits] at read
      split at read
      · rename_i digit
        dsimp only at read
        split at read
        · rename_i next
          obtain ⟨others, same, bound⟩ := ih next read
          rw [Nat.ofDigitChars_cons]
          exact ⟨List.forall_mem_cons.mpr ⟨digit, others⟩, same, bound⟩
        · cases read
      · cases read
  · rintro ⟨all, same, bound⟩
    subst same
    exact readDigits_ofDigitChars limit beyond all bound

/-- Characters are read as a number exactly if they are digits, at least one, and their number stays
within the limit. -/
theorem readMagnitude_eq_ok_iff {limit : Nat} {beyond : Flaw} {digits : List Char} {number : Nat} :
    readMagnitude limit beyond digits = .ok number ↔ digits ≠ [] ∧
      (∀ c ∈ digits, c.isDigit) ∧ Nat.ofDigitChars 10 digits 0 = number ∧ number ≤ limit := by
  cases digits with
  | nil => simp [readMagnitude]
  | cons c rest =>
    rw [readMagnitude, readDigits_eq_ok_iff (Nat.zero_le _)]
    simp

/-- Characters are read as a word exactly if they are the digits of that word, at least one. -/
theorem map_readMagnitude_eq_ok_iff {digits : List Char} {word : UInt64} :
    (readMagnitude maxWord .tooLarge digits).map UInt64.ofNat = .ok word ↔ digits ≠ [] ∧
      (∀ c ∈ digits, c.isDigit) ∧ Nat.ofDigitChars 10 digits 0 = word.toNat := by
  -- A word stays within the limit, and a number within the limit is that of its word.
  have most : word.toNat ≤ maxWord := Nat.le_of_lt_succ word.toNat_lt
  have unmapped : (readMagnitude maxWord .tooLarge digits).map UInt64.ofNat = .ok word ↔
      readMagnitude maxWord .tooLarge digits = .ok word.toNat := by
    constructor
    · intro mapped
      cases read : readMagnitude maxWord .tooLarge digits with
      | error flaw =>
        rw [read] at mapped
        cases mapped
      | ok number =>
        rw [read] at mapped
        obtain ⟨-, -, -, bound⟩ := readMagnitude_eq_ok_iff.mp read
        rw [← Except.ok.inj mapped, UInt64.toNat_ofNat_of_lt' (Nat.lt_succ_of_le bound)]
    · intro read
      rw [read]
      exact congrArg Except.ok word.ofNat_toNat
  rw [unmapped, readMagnitude_eq_ok_iff, and_iff_left most]

/-- A text is read as a word exactly if it is the digits of that word, at least one, alone or behind
a plus sign. -/
theorem readWord_eq_ok_iff {text : List Char} {word : UInt64} :
    readWord text = .ok word ↔ ∃ sign digits, text = sign ++ digits ∧ (sign = [] ∨ sign = ['+']) ∧
      digits ≠ [] ∧ (∀ c ∈ digits, c.isDigit) ∧ Nat.ofDigitChars 10 digits 0 = word.toNat := by
  constructor
  · intro read
    -- The reader drops a plus sign, and takes everything else for digits.
    unfold readWord at read
    split at read
    · cases read
    · rename_i digits
      exact ⟨['+'], digits, rfl, .inr rfl, map_readMagnitude_eq_ok_iff.mp read⟩
    · exact ⟨[], text, rfl, .inl rfl, map_readMagnitude_eq_ok_iff.mp read⟩
  · rintro ⟨sign, digits, rfl, rfl | rfl, nonempty, all, same⟩
    · have read := map_readMagnitude_eq_ok_iff.mpr ⟨nonempty, all, same⟩
      cases digits with
      | nil => exact absurd rfl nonempty
      | cons c rest =>
        -- The first character is a digit, so it is not taken for a sign.
        have notPlus : c ≠ '+' := ne_of_isDigit (all c (by simp)) rfl
        have unsigned : readWord (c :: rest) =
            (readMagnitude maxWord .tooLarge (c :: rest)).map UInt64.ofNat := by
          simp [readWord, notPlus]
        rw [List.nil_append, unsigned]
        exact read
    · exact map_readMagnitude_eq_ok_iff.mpr ⟨nonempty, all, same⟩

/-- Whether characters are a numeral: digits, and at least one of them. -/
def IsNumeral (digits : List Char) : Prop :=
  digits ≠ [] ∧ ∀ c ∈ digits, c.isDigit

/-- Which number a text spells: the one of a numeral, which stands alone or behind a sign. -/
inductive Spells : List Char → Int → Prop where
  | bare {digits : List Char} (numeral : IsNumeral digits) :
      Spells digits (Nat.ofDigitChars 10 digits 0)
  | plus {digits : List Char} (numeral : IsNumeral digits) :
      Spells ('+' :: digits) (Nat.ofDigitChars 10 digits 0)
  | minus {digits : List Char} (numeral : IsNumeral digits) :
      Spells ('-' :: digits) (-(Nat.ofDigitChars 10 digits 0 : Int))

/-- Whether a signed word of 64 bits holds a number. -/
def Fits (number : Int) : Prop :=
  -9223372036854775808 ≤ number ∧ number ≤ 9223372036854775807

/-- The word of a number that fits holds that number. -/
theorem Fits.toInt_ofInt {number : Int} (fits : Fits number) :
    (Int64.ofInt number).toInt = number := by
  obtain ⟨least, most⟩ := fits
  apply Int64.toInt_ofInt_of_le
  · omega
  · omega

/-- What opens with a sign is no numeral. -/
theorem not_isNumeral_cons {sign : Char} (noDigit : sign.isDigit = false) (rest : List Char) :
    ¬ IsNumeral (sign :: rest) := by
  intro numeral
  exact ne_of_isDigit (numeral.2 sign List.mem_cons_self) noDigit rfl

/-- A text spells one number at most. -/
theorem Spells.unique {text : List Char} {first second : Int} (one : Spells text first)
    (other : Spells text second) : first = second := by
  -- A sign is no digit, so both spellings have the same sign, and then the same numeral.
  cases one with
  | bare numeral =>
    cases other with
    | bare _ => rfl
    | plus _ => exact absurd numeral (not_isNumeral_cons rfl _)
    | minus _ => exact absurd numeral (not_isNumeral_cons rfl _)
  | plus _ =>
    cases other with
    | bare numeral => exact absurd numeral (not_isNumeral_cons rfl _)
    | plus _ => rfl
  | minus _ =>
    cases other with
    | bare numeral => exact absurd numeral (not_isNumeral_cons rfl _)
    | minus _ => rfl

/-- The digits of a number are read as the number. -/
theorem readDigits_toDigits (beyond : Flaw) {limit number : Nat} (within : number ≤ limit) :
    readDigits limit beyond 0 (Nat.toDigits 10 number) = .ok number := by
  -- The digits are digits, and their number is the number that they were taken from.
  have all : ∀ c ∈ Nat.toDigits 10 number, c.isDigit := fun c member =>
    Nat.isDigit_of_mem_toDigits (by decide) (by decide) member
  rw [readDigits_ofDigitChars limit beyond all (by simpa using within),
    Nat.ofDigitChars_ten_toDigits]

/-- The digits of a number are one digit and the rest. -/
theorem toDigits_eq_cons (number : Nat) :
    ∃ c rest, Nat.toDigits 10 number = c :: rest ∧ c.isDigit := by
  -- Even zero has a digit.
  cases found : Nat.toDigits 10 number with
  | nil => exact absurd found Nat.toDigits_ne_nil
  | cons c rest =>
    exact ⟨c, rest, rfl, Nat.isDigit_of_mem_toDigits (b := 10) (by decide) (by decide)
      (by rw [found]; simp)⟩

/-- Digits without a sign are read as a number of the positive range. -/
theorem readInteger_toDigits {number : Nat} (within : number ≤ maxInteger) :
    readInteger (Nat.toDigits 10 number) = .ok (Int64.ofInt number) := by
  obtain ⟨c, rest, digits, digit⟩ := toDigits_eq_cons number
  have read := readDigits_toDigits .tooLarge within
  rw [digits] at read ⊢
  -- A digit is no sign, so the digits fall to the last case of the reader.
  have notMinus : c ≠ '-' := ne_of_isDigit digit rfl
  have notPlus : c ≠ '+' := ne_of_isDigit digit rfl
  simp [readInteger, notMinus, notPlus, readMagnitude, read, Functor.map, Except.map]

/-- Digits behind a minus sign are read as a number of the negative range. -/
theorem readInteger_minus_toDigits {number : Nat} (within : number ≤ maxInteger + 1) :
    readInteger ('-' :: Nat.toDigits 10 number) = .ok (Int64.ofInt (-(number : Int))) := by
  obtain ⟨c, rest, digits, digit⟩ := toDigits_eq_cons number
  have read := readDigits_toDigits .tooSmall within
  rw [digits] at read ⊢
  -- Behind a minus sign the reader takes the negative of what it reads.
  simp [readInteger, readMagnitude, read, Functor.map, Except.map]

/-- The text of a number that is not negative is its digits. -/
theorem toList_write_of_nonneg {value : Int64} (nonneg : 0 ≤ value.toInt) :
    (write value).toList = Nat.toDigits 10 value.toInt.toNat := by
  rw [write, Int.repr_eq_if, if_pos nonneg, Nat.toList_repr]

/-- The text of a negative number is a minus sign and the digits of its size. -/
theorem toList_write_of_neg {value : Int64} (negative : value.toInt < 0) :
    (write value).toList = '-' :: Nat.toDigits 10 (-value.toInt).toNat := by
  rw [write, Int.repr_eq_if, if_neg (Int.not_le.mpr negative), String.toList_append,
    Nat.toList_repr]
  rfl

/-- A number that has been written reads back as itself. -/
theorem readInteger_write (value : Int64) : readInteger (write value).toList = .ok value := by
  have least := value.le_toInt
  have most := value.toInt_lt
  by_cases nonneg : 0 ≤ value.toInt
  · -- Without a sign there are only digits, and the largest number is the limit of the reader.
    have within : value.toInt.toNat ≤ maxInteger := by
      unfold maxInteger
      omega
    rw [toList_write_of_nonneg nonneg, readInteger_toDigits within, Int.toNat_of_nonneg nonneg,
      Int64.ofInt_toInt]
  · -- The smallest number lies one further from zero than the largest, as the reader allows.
    have negative : value.toInt < 0 := by omega
    have within : (-value.toInt).toNat ≤ maxInteger + 1 := by
      unfold maxInteger
      omega
    rw [toList_write_of_neg negative, readInteger_minus_toDigits within,
      Int.toNat_of_nonneg (by omega), Int.neg_neg, Int64.ofInt_toInt]

/-- Different numbers have different texts. -/
theorem write_injective {first second : Int64} (same : write first = write second) :
    first = second := by
  -- Both numbers are what the reader makes of the one text.
  have read := readInteger_write first
  rw [same, readInteger_write second] at read
  exact (Except.ok.inj read).symm

/-- A written number holds only digits and minus signs. -/
theorem mem_write {value : Int64} {c : Char} (member : c ∈ (write value).toList) :
    c.isDigit ∨ c = '-' := by
  have digits : ∀ number, c ∈ Nat.toDigits 10 number → c.isDigit := fun number found =>
    Nat.isDigit_of_mem_toDigits (by decide) (by decide) found
  by_cases nonneg : 0 ≤ value.toInt
  · rw [toList_write_of_nonneg nonneg] at member
    exact .inl (digits _ member)
  · rw [toList_write_of_neg (by omega), List.mem_cons] at member
    -- Either the character is the sign itself, or it is one of the digits behind it.
    rcases member with minus | found
    · exact .inr minus
    · exact .inl (digits _ found)

end TenantSessions.Decimal
