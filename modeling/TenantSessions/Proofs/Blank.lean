import Mathlib.Data.List.DropRight
import TenantSessions.Text.Cut

/-! A text without the blanks around it is the one part of it that has only blanks around it and
neither opens nor ends with one. -/

namespace TenantSessions.Text

variable {drops : Char → Bool} {text body core : List Char}

/-- What is dropped from the end of a text is dropped whole, and what is left stays. -/
theorem dropEnd_eq_iff : dropEnd drops text = body ↔
    (∃ tail, text = body ++ tail ∧ ∀ c ∈ tail, drops c = true) ∧
      ∀ c ∈ body.getLast?, drops c = false := by
  have fromEnd : dropEnd drops text = text.rdropWhile drops := rfl
  constructor
  · intro dropped
    subst dropped
    rw [fromEnd]
    refine ⟨⟨text.rtakeWhile drops, List.rdropWhile_append_rtakeWhile.symm,
      fun c member => List.mem_rtakeWhile_imp member⟩, fun c last => ?_⟩
    -- Dropping stops only at a character that stays.
    obtain ⟨nonempty, same⟩ := List.mem_getLast?_eq_getLast last
    rw [same]
    exact Bool.eq_false_iff.mpr (List.rdropWhile_last_not drops text nonempty)
  · rintro ⟨⟨tail, rfl, all⟩, stays⟩
    -- Seen from its end, the text opens with what is dropped and goes on with what stays.
    rw [dropEnd, List.reverse_append,
      List.dropWhile_append_of_pos fun c member => all c (List.mem_reverse.mp member)]
    cases reversed : body.reverse with
    | nil => simpa using (List.reverse_eq_nil_iff.mp reversed).symm
    | cons c rest =>
      have last : body.getLast? = some c := by
        rw [List.getLast?_eq_head?_reverse, reversed]
        rfl
      rw [List.dropWhile_cons_of_neg (by simp [stays c last]), ← reversed, List.reverse_reverse]

/-- The part of a text that is left without the blanks around it. -/
structure Trimmed (text core : List Char) : Prop where
  within : ∃ before after, text = before ++ (core ++ after) ∧
    (∀ c ∈ before, isBlank c = true) ∧ ∀ c ∈ after, isBlank c = true
  opens : ∀ c ∈ core.head?, isBlank c = false
  ends : ∀ c ∈ core.getLast?, isBlank c = false

/-- Trimming a text leaves just the part of it that has no blanks around it. -/
theorem trim_eq_iff : trim text = core ↔ Trimmed text core := by
  rw [trim, dropEnd_eq_iff]
  constructor
  · rintro ⟨⟨after, rest, blank⟩, ends⟩
    refine ⟨⟨text.takeWhile isBlank, after, ?_, fun c member => List.mem_takeWhile_imp member,
      blank⟩, fun c first => ?_, ends⟩
    · rw [← rest, List.takeWhile_append_dropWhile]
    · -- What opens the part opens what is left when the blanks in front are dropped.
      have opening : c ∈ (text.dropWhile isBlank).head? := by
        rw [rest, List.head?_append, first]
        rfl
      have stopped := List.head?_dropWhile_not isBlank text
      rw [opening] at stopped
      exact stopped
  · rintro ⟨⟨before, after, rfl, blankBefore, blankAfter⟩, opens, ends⟩
    rw [List.dropWhile_append_of_pos blankBefore]
    refine ⟨?_, ends⟩
    -- Where nothing is left, the blanks behind it are dropped along with those in front.
    cases core with
    | nil => exact ⟨[], List.dropWhile_eq_nil_iff.mpr blankAfter, by simp⟩
    | cons c rest => exact ⟨after, List.dropWhile_cons_of_neg (by simp [opens c rfl]), blankAfter⟩

/-- A part that holds no blank at all is what is left of a text with blanks around the part. -/
theorem Trimmed.of_blankless {before after : List Char}
    (blankBefore : ∀ c ∈ before, isBlank c = true) (blankAfter : ∀ c ∈ after, isBlank c = true)
    (blankless : ∀ c ∈ core, isBlank c = false) : Trimmed (before ++ (core ++ after)) core where
  within := ⟨before, after, rfl, blankBefore, blankAfter⟩
  opens c first := blankless c (List.mem_of_mem_head? first)
  ends c last := blankless c (List.mem_of_getLast? last)

/-- A character that is no blank is not lost when a text is trimmed. -/
theorem Trimmed.mem_of_visible {c : Char} (trimmed : Trimmed text core) (member : c ∈ text)
    (visible : isBlank c = false) : c ∈ core := by
  obtain ⟨⟨before, after, rfl, blankBefore, blankAfter⟩, -, -⟩ := trimmed
  -- What is lost, in front or behind, is blank.
  rcases List.mem_append.mp member with leading | member
  · exact Bool.noConfusion (visible.symm.trans (blankBefore c leading))
  · rcases List.mem_append.mp member with inside | trailing
    · exact inside
    · exact Bool.noConfusion (visible.symm.trans (blankAfter c trailing))

/-- A blank with something that is none on either side is not lost when a text is trimmed. -/
theorem Trimmed.mem_of_parted {opening closing : List Char} {blank : Char}
    (trimmed : Trimmed (opening ++ blank :: closing) core)
    (before : ∃ c ∈ opening, isBlank c = false) (behind : ∃ c ∈ closing, isBlank c = false) :
    blank ∈ core := by
  obtain ⟨⟨leading, trailing, parts, blankLeading, blankTrailing⟩, -, -⟩ := trimmed
  obtain ⟨first, inOpening, visibleFirst⟩ := before
  obtain ⟨last, inClosing, visibleLast⟩ := behind
  have notLeading : first ∉ leading := fun member =>
    Bool.noConfusion (visibleFirst.symm.trans (blankLeading first member))
  have notTrailing : last ∉ trailing := fun member =>
    Bool.noConfusion (visibleLast.symm.trans (blankTrailing last member))
  -- The blanks in front end before the first of the two, so what is left begins before the blank.
  rcases List.append_eq_append_iff.mp parts with ⟨rest, same, -⟩ | ⟨rest, -, same⟩
  · exact absurd (same ▸ List.mem_append_left rest inOpening) notLeading
  -- The blanks behind begin after the second of the two, so what is left ends after the blank.
  rcases List.append_eq_append_iff.mp same with ⟨others, -, same⟩ | ⟨others, parted, same⟩
  · exact absurd (same ▸ List.mem_append_right others (.tail blank inClosing)) notTrailing
  · cases others with
    | nil =>
      rw [List.nil_append] at same
      exact absurd (same ▸ List.mem_cons_of_mem blank inClosing) notTrailing
    | cons c others =>
      rw [(List.cons.inj same).1, parted]
      simp

end TenantSessions.Text
