import TenantSessions.Settings
import TenantSessions.Proofs.Blank
import TenantSessions.Proofs.Decimal

/-!
Which texts name hours. Without the blanks around it such a text is a whole number that a word
holds, perhaps behind a plus sign, and any number of marks for hours. All other texts name none, and
stand for the default.
-/

namespace TenantSessions.Settings

variable {core : List Char} {text : String} {hours : UInt64} {c : Char}

/-- Whether characters spell hours: digits, perhaps behind a plus sign, whose number fits a word,
and any number of marks behind them. -/
def SpellsHours (core : List Char) (hours : UInt64) : Prop :=
  ∃ sign digits marks, core = sign ++ (digits ++ marks) ∧ (sign = [] ∨ sign = ['+']) ∧
    digits ≠ [] ∧ (∀ c ∈ digits, c.isDigit = true) ∧
    Nat.ofDigitChars 10 digits 0 = hours.toNat ∧ ∀ c ∈ marks, c = 'h'

/-- Whether a text names hours: what is left of it without the blanks around it spells them. -/
def NamesHours (text : String) (hours : UInt64) : Prop :=
  ∃ core, Text.Trimmed text.toList core ∧ SpellsHours core hours

/-- Hours are spelled by digits, plus signs and marks alone. -/
theorem SpellsHours.mem (spelled : SpellsHours core hours) (member : c ∈ core) :
    c.isDigit = true ∨ c = '+' ∨ c = 'h' := by
  obtain ⟨sign, digits, marks, rfl, signed, -, all, -, marked⟩ := spelled
  rcases List.mem_append.mp member with inSign | behind
  · rcases signed with rfl | rfl
    · cases inSign
    · exact .inr (.inl (List.mem_singleton.mp inSign))
  · rcases List.mem_append.mp behind with inDigits | inMarks
    · exact .inl (all c inDigits)
    · exact .inr (.inr (marked c inMarks))

/-- A digit is no blank. -/
theorem isBlank_of_isDigit (digit : c.isDigit = true) : Text.isBlank c = false := by
  have bounds : 48 ≤ c.toNat ∧ c.toNat ≤ 57 := by
    simpa [Char.isDigit, UInt32.le_iff_toNat_le] using digit
  -- The digits lie apart from every range of blanks.
  simp only [Text.isBlank, Bool.or_eq_false_iff, Bool.and_eq_false_iff, decide_eq_false_iff_not,
    beq_eq_false_iff_ne]
  omega

/-- No blank stands where hours are spelled. -/
theorem SpellsHours.blankless (spelled : SpellsHours core hours) (member : c ∈ core) :
    Text.isBlank c = false := by
  rcases spelled.mem member with digit | rfl | rfl
  · exact isBlank_of_isDigit digit
  · rfl
  · rfl

/-- A text names hours exactly if they are read from it. -/
theorem readHours_eq_some_iff : readHours text = some hours ↔ NamesHours text hours := by
  have trimmed : NamesHours text hours ↔ SpellsHours (Text.trim text.toList) hours := by
    simp [NamesHours, ← Text.trim_eq_iff]
  have read : readHours text = some hours ↔ Decimal.readWord
      (Text.dropEnd (· == 'h') (Text.trim text.toList)) = .ok hours := by
    rw [readHours]
    cases Decimal.readWord (Text.dropEnd (· == 'h') (Text.trim text.toList)) with
    | error flaw => simp [Except.toOption]
    | ok word => simp [Except.toOption]
  rw [trimmed, read, Decimal.readWord_eq_ok_iff]
  constructor
  · -- What was dropped from the end is marks.
    rintro ⟨sign, digits, left, signed, nonempty, all, same⟩
    obtain ⟨⟨marks, whole, marked⟩, -⟩ := Text.dropEnd_eq_iff.mp left
    exact ⟨sign, digits, marks, by rw [whole, List.append_assoc], signed, nonempty, all, same,
      fun c member => eq_of_beq (marked c member)⟩
  · rintro ⟨sign, digits, marks, whole, signed, nonempty, all, same, marked⟩
    refine ⟨sign, digits, Text.dropEnd_eq_iff.mpr ⟨⟨marks, ?_, ?_⟩, ?_⟩, signed, nonempty, all,
      same⟩
    · rw [whole, List.append_assoc]
    · intro c member
      rw [marked c member]
      rfl
    · -- Dropping stops at the last digit, which is no mark.
      intro c last
      have digit : c ∈ digits := by
        rw [List.getLast?_append_of_ne_nil _ nonempty] at last
        exact List.mem_of_getLast? last
      rw [beq_eq_false_iff_ne]
      exact Decimal.ne_of_isDigit (all c digit) rfl

/-- The digits that spell hours are all the digits there are, and their number is that of the hours.
-/
theorem SpellsHours.digits (spelled : SpellsHours core hours) :
    core.filter Char.isDigit ≠ [] ∧
      Nat.ofDigitChars 10 (core.filter Char.isDigit) 0 = hours.toNat := by
  obtain ⟨sign, digits, marks, rfl, signed, nonempty, all, same, marked⟩ := spelled
  -- Neither the sign nor a mark is a digit.
  have noneInSign : sign.filter Char.isDigit = [] := by
    rcases signed with rfl | rfl
    · rfl
    · rfl
  have noneInMarks : marks.filter Char.isDigit = [] := by
    refine List.filter_eq_nil_iff.mpr fun c member => ?_
    rw [marked c member]
    decide
  have kept : (sign ++ (digits ++ marks)).filter Char.isDigit = digits := by
    rw [List.filter_append, List.filter_append, noneInSign, noneInMarks,
      List.filter_eq_self.mpr all, List.nil_append, List.append_nil]
  rw [kept]
  exact ⟨nonempty, same⟩

/-- The digits of a text that names hours are those that spell them. -/
theorem NamesHours.digits (names : NamesHours text hours) :
    text.toList.filter Char.isDigit ≠ [] ∧
      Nat.ofDigitChars 10 (text.toList.filter Char.isDigit) 0 = hours.toNat := by
  obtain ⟨core, ⟨⟨before, after, parts, blankBefore, blankAfter⟩, -, -⟩, spelled⟩ := names
  -- Trimming loses no digit, as what it takes away is blank.
  have noneBlank : ∀ blanks : List Char, (∀ c ∈ blanks, Text.isBlank c = true) →
      blanks.filter Char.isDigit = [] := by
    intro blanks all
    refine List.filter_eq_nil_iff.mpr fun c member digit => ?_
    exact Bool.noConfusion ((isBlank_of_isDigit digit).symm.trans (all c member))
  rw [parts, List.filter_append, List.filter_append, noneBlank before blankBefore,
    noneBlank after blankAfter, List.nil_append, List.append_nil]
  exact spelled.digits

/-- Texts that name no hours, by what is amiss with them. -/
inductive Misspelt (text : String) : Prop where
  /-- There is no digit: nothing at all, or only marks. -/
  | digitless (none : ∀ c ∈ text.toList, c.isDigit = false)
  /-- A character has no meaning, such as a minus sign or a digit of another script. -/
  | foreign {c : Char} (member : c ∈ text.toList) (visible : Text.isBlank c = false)
      (noDigit : c.isDigit = false) (noPlus : c ≠ '+') (noMark : c ≠ 'h')
  /-- A blank stands within, such as one between the digits and a mark. -/
  | parted {opening closing : List Char} {blank : Char}
      (parts : text.toList = opening ++ blank :: closing) (hidden : Text.isBlank blank = true)
      (before : ∃ c ∈ opening, Text.isBlank c = false)
      (behind : ∃ c ∈ closing, Text.isBlank c = false)
  /-- The number of the digits fits no word. -/
  | excessive
      (large : UInt64.size ≤ Nat.ofDigitChars 10 (text.toList.filter Char.isDigit) 0)

/-- A text with which something is amiss names no hours. -/
theorem Misspelt.not_namesHours (misspelt : Misspelt text) : ¬ NamesHours text hours := by
  intro names
  obtain ⟨nonempty, same⟩ := names.digits
  obtain ⟨core, trimmed, spelled⟩ := names
  -- Trimming does not take away what is amiss, and in what spells hours it has no place.
  cases misspelt with
  | digitless none =>
    have nothing : text.toList.filter Char.isDigit = [] :=
      List.filter_eq_nil_iff.mpr fun c member => by simp [none c member]
    exact nonempty nothing
  | foreign member visible noDigit noPlus noMark =>
    rcases spelled.mem (trimmed.mem_of_visible member visible) with digit | plus | mark
    · exact Bool.noConfusion (noDigit.symm.trans digit)
    · exact noPlus plus
    · exact noMark mark
  | parted parts hidden before behind =>
    rw [parts] at trimmed
    have inside := spelled.blankless (trimmed.mem_of_parted before behind)
    exact Bool.noConfusion (inside.symm.trans hidden)
  | excessive large =>
    rw [same] at large
    exact Nat.not_lt.mpr large hours.toNat_lt_size

/-- The digits of hours name them, with any number of marks behind and blanks around them. -/
theorem namesHours_repr {before marks after : String}
    (blankBefore : ∀ c ∈ before.toList, Text.isBlank c = true)
    (blankAfter : ∀ c ∈ after.toList, Text.isBlank c = true) (marked : ∀ c ∈ marks.toList, c = 'h')
    (hours : UInt64) : NamesHours (before ++ hours.toNat.repr ++ marks ++ after) hours := by
  -- The digits that a number is written with have that number again.
  have spelled : SpellsHours (Nat.toDigits 10 hours.toNat ++ marks.toList) hours :=
    ⟨[], _, _, rfl, .inl rfl, Nat.toDigits_ne_nil,
      fun c member => Nat.isDigit_of_mem_toDigits (by decide) (by decide) member,
      Nat.ofDigitChars_ten_toDigits, marked⟩
  refine ⟨_, ?_, spelled⟩
  have parts : (before ++ hours.toNat.repr ++ marks ++ after).toList =
      before.toList ++ (Nat.toDigits 10 hours.toNat ++ marks.toList ++ after.toList) := by
    simp [Nat.toList_repr]
  rw [parts]
  exact .of_blankless blankBefore blankAfter fun c member => spelled.blankless member

/-- The hours of a text are those that it names, and where there is no text or it names none, they
are the default. -/
theorem hoursOr_eq_iff {default : UInt64} {raw : Option String} :
    hoursOr default raw = hours ↔ (∃ text, raw = some text ∧ NamesHours text hours) ∨
      (∀ text, raw = some text → ∀ other, ¬ NamesHours text other) ∧ hours = default := by
  cases raw with
  | none => simp [hoursOr, eq_comm]
  | some text =>
    -- Either hours are read from the text, or there are none that it names.
    simp only [hoursOr, Option.bind_some, Option.some.injEq, exists_eq_left', forall_eq',
      ← readHours_eq_some_iff]
    cases readHours text with
    | none => simp [eq_comm]
    | some found => simp

/-- Whatever the default, the hours of a text are just those that it names. It names the number that
its digits spell, with any number of marks behind and blanks around them. All other texts stand for
the default, among them those with which something is amiss, and so does a text that is missing. -/
theorem hoursOr_exact (default : UInt64) :
    (∀ raw hours, hoursOr default raw = hours ↔
      (∃ text, raw = some text ∧ NamesHours text hours) ∨
        (∀ text, raw = some text → ∀ other, ¬ NamesHours text other) ∧ hours = default) ∧
      (∀ text, Misspelt text → hoursOr default (some text) = default) ∧
      ∀ (hours : UInt64) (before marks after : String),
        (∀ c ∈ before.toList, Text.isBlank c = true) →
        (∀ c ∈ after.toList, Text.isBlank c = true) → (∀ c ∈ marks.toList, c = 'h') →
          hoursOr default (some (before ++ hours.toNat.repr ++ marks ++ after)) = hours := by
  refine ⟨fun raw hours => hoursOr_eq_iff, fun text misspelt => ?_,
    fun hours before marks after blankBefore blankAfter marked => ?_⟩
  · refine hoursOr_eq_iff.mpr (.inr ⟨fun other same hours => ?_, rfl⟩)
    cases same
    exact misspelt.not_namesHours
  · exact hoursOr_eq_iff.mpr (.inl ⟨_, rfl, namesHours_repr blankBefore blankAfter marked hours⟩)

/-- Blanks around the mark and the digits do no harm, one between them does, and the number after
the last that a word holds stands for the default. -/
theorem hoursOr_exact_spaced :
    hoursOr 24 (some " 6h\u3000") = 6 ∧ hoursOr 24 (some " 6\u3000h") = 24 ∧
      hoursOr 24 (some "18446744073709551616h") = 24 := by
  obtain ⟨-, misspelt, named⟩ := hoursOr_exact 24
  have spaced : hoursOr 24 (some (" " ++ (6 : UInt64).toNat.repr ++ "h" ++ "\u3000")) = 6 :=
    named 6 " " "h" "\u3000" (by simp [Text.isBlank]) (by simp [Text.isBlank]) (by simp)
  have parted : Misspelt " 6\u3000h" :=
    @Misspelt.parted _ [' ', '6'] ['h'] '\u3000' rfl rfl ⟨'6', by simp, rfl⟩ ⟨'h', by simp, rfl⟩
  have excessive : Misspelt "18446744073709551616h" := .excessive (by decide)
  exact ⟨spaced, misspelt _ parted, misspelt _ excessive⟩

end TenantSessions.Settings
