import TenantSessions.Log.Filter
import TenantSessions.Proofs.Blank

/-!
Where a filter is read at all. A rule is cut only at places that lie before one of its characters or
at its end, unless it opens with a blank; so there is a filter for every text that has no blank in
front and none behind a comma.
-/

namespace TenantSessions

namespace Text

/-- The bytes of two texts in a row are those of both. -/
theorem byteSize_append (first second : List Char) :
    byteSize (first ++ second) = byteSize first + byteSize second := by
  induction first with
  | nil => simp [byteSize]
  | cons c first ih =>
    simp only [List.cons_append, byteSize, ih]
    omega

/-- Whether a place of a text, counted in bytes, lies before some rest of it. -/
def LiesBefore (text rest : List Char) (place : Nat) : Prop :=
  ∃ before, text = before ++ rest ∧ byteSize before = place

variable {text rest : List Char} {place : Nat}

/-- The first place lies before the whole text. -/
theorem liesBefore_zero (text : List Char) : LiesBefore text text 0 :=
  ⟨[], rfl, rfl⟩

/-- The place behind a part lies before what follows it. -/
theorem LiesBefore.behind (part : List Char) (lies : LiesBefore text (part ++ rest) place) :
    LiesBefore text rest (place + byteSize part) := by
  obtain ⟨before, rfl, rfl⟩ := lies
  exact ⟨before ++ part, by simp, byteSize_append before part⟩

/-- A text can be cut at both ends of a part. -/
theorem LiesBefore.between? (part : List Char) (lies : LiesBefore text (part ++ rest) place) :
    Text.between? text place (place + byteSize part) = some part := by
  obtain ⟨before, rfl, rfl⟩ := lies
  exact between?_append before part rest

/-- Cutting at the first character of a class leaves such a character in front, if it leaves any. -/
theorem stops_of_cutAt {stops : Char → Bool} {c : Char} {behind : List Char}
    (found : (cutAt stops text).2 = c :: behind) : stops c = true := by
  have stopped := List.head?_dropWhile_not (!stops ·) text
  have left : text.dropWhile (!stops ·) = c :: behind := found
  rw [left] at stopped
  simpa using stopped

end Text

namespace LogRule

open Text

variable {α β : Type} {text rest tail : List Char} {place : Nat}

/-- Whether a reading comes to an end, be it a flaw: no cut is within a character. -/
def Ends (reading : Reading α) : Prop :=
  ∃ result, reading.run = some result

/-- What is read without a cut comes to an end. -/
theorem ends_pure (value : α) : Ends (pure value) :=
  ⟨.ok value, rfl⟩

/-- A flaw is an end as well. -/
theorem ends_throw (flaw : Flaw) : Ends (throw flaw : Reading α) :=
  ⟨.error flaw, rfl⟩

/-- Nothing is read after a flaw. -/
theorem ends_throw_bind (flaw : Flaw) (follow : α → Reading β) :
    Ends ((throw flaw : Reading α) >>= follow) :=
  ⟨.error flaw, rfl⟩

/-- Two readings in a row come to an end if both of them do. -/
theorem Ends.bind {reading : Reading α} {follow : α → Reading β} (ends : Ends reading)
    (others : ∀ value, Ends (follow value)) : Ends (reading >>= follow) := by
  obtain ⟨result, read⟩ := ends
  rw [Ends, ExceptT.run_bind, read]
  cases result with
  | ok value => exact others value
  | error flaw => exact ⟨.error flaw, rfl⟩

/-- A cut at both ends of a part comes to an end. -/
theorem ends_cut (part : List Char) (lies : LiesBefore text (part ++ rest) place) :
    Ends (cut text place (place + byteSize part)) := by
  refine ⟨.ok part, ?_⟩
  unfold cut
  rw [lies.between? part]
  rfl

/-- The level behind a place is read to its end. -/
theorem ends_readLimit (lies : LiesBefore text rest place) : Ends (readLimit text place) := by
  -- The level is all that follows the place, so it stops where the text does.
  have whole : byteSize text = place + byteSize rest := by
    obtain ⟨before, rfl, rfl⟩ := lies
    exact byteSize_append before rest
  unfold readLimit
  rw [whole]
  rw [← List.append_nil rest] at lies
  refine (ends_cut rest lies).bind fun word => ?_
  split
  · exact ends_pure _
  · split
    · exact ends_pure _
    · exact ends_throw _

/-- What follows a span is read to its end. -/
theorem ends_readEnd (rule : LogRule) (lies : LiesBefore text (rest ++ tail) place) :
    Ends (readEnd text rule place rest) := by
  unfold readEnd
  split
  · exact ends_pure _
  · rename_i behind
    -- An equals sign is one byte long.
    have next : LiesBefore text (behind ++ tail) (place + 1) := lies.behind ['=']
    exact (ends_readLimit next).bind fun limit => ends_pure _
  · exact ends_throw _

/-- The value behind a brace is read to its end. -/
theorem ends_readValue (rule : LogRule) (lies : LiesBefore text (rest ++ tail) place) :
    Ends (readValue text rule place rest) := by
  unfold readValue
  have parts := cutAt_append (· == '\x7d') rest
  cases found : cutAt (· == '\x7d') rest with
  | mk inside after =>
    rw [found] at parts
    dsimp only at parts ⊢
    cases after with
    | nil => exact ends_throw _
    | cons brace after =>
      have closes : brace = '\x7d' := by simpa using stops_of_cutAt (congrArg Prod.snd found)
      subst closes
      rw [← parts, List.append_assoc] at lies
      have behind := lies.behind inside
      refine (ends_cut inside lies).bind fun value => ?_
      split
      · exact ends_throw_bind ..
      · split
        · exact ends_throw_bind ..
        · split
          -- The brace and the bracket are one byte long each.
          · exact ends_readEnd _ (behind.behind ['\x7d', ']'])
          · exact ends_throw _

/-- A span behind a bracket is read to its end. -/
theorem ends_readSpan (rule : LogRule) (lies : LiesBefore text (rest ++ tail) place) :
    Ends (readSpan text rule place rest) := by
  unfold readSpan
  have parts := cutAt_append (fun c => c == ']' || c == '\x7b') rest
  cases found : cutAt (fun c => c == ']' || c == '\x7b') rest with
  | mk inside after =>
    rw [found] at parts
    dsimp only at parts ⊢
    cases after with
    | nil => exact ends_throw _
    | cons mark after =>
      have closes : mark = ']' ∨ mark = '\x7b' := by
        simpa using stops_of_cutAt (congrArg Prod.snd found)
      rw [← parts, List.append_assoc] at lies
      have behind := lies.behind inside
      refine (ends_cut inside lies).bind fun name => ?_
      rcases closes with rfl | rfl
      · exact ends_readEnd _ (behind.behind [']'])
      · exact ends_readValue _ (behind.behind ['\x7b'])

/-- A text that opens with no blank is what is left of it without blanks, and blanks behind. -/
theorem exists_tail_of_opens (opens : ∀ c ∈ text.head?, isBlank c = false) :
    ∃ tail, text = trim text ++ tail := by
  obtain ⟨⟨before, after, parts, blank, -⟩, -, -⟩ := trim_eq_iff.mp (rfl : trim text = trim text)
  cases before with
  | nil => exact ⟨after, parts⟩
  | cons c before =>
    -- A blank in front would be the one that the text opens with.
    have first : c ∈ text.head? := by
      rw [parts]
      rfl
    exact Bool.noConfusion ((opens c first).symm.trans (blank c List.mem_cons_self))

/-- A rule that opens with no blank is read to its end. -/
theorem ends_read (opens : ∀ c ∈ text.head?, isBlank c = false) : Ends (read text) := by
  obtain ⟨tail, parts⟩ := exists_tail_of_opens opens
  have lies : LiesBefore text (trim text ++ tail) 0 := parts ▸ liesBefore_zero text
  unfold read
  dsimp only
  split
  · exact ends_throw _
  · rename_i rest bare
    rw [bare] at lies
    exact ends_readSpan _ (lies.behind ['['])
  · split
    · exact ends_throw_bind ..
    · have named := cutAt_append (fun c => c == '=' || c == '[') (trim text)
      cases found : cutAt (fun c => c == '=' || c == '[') (trim text) with
      | mk name rest =>
        rw [found] at named
        dsimp only at named ⊢
        cases rest with
        | nil =>
          dsimp only
          split <;> exact ends_pure _
        | cons mark rest =>
          have closes : mark = '=' ∨ mark = '[' := by
            simpa using stops_of_cutAt (congrArg Prod.snd found)
          rw [← named, List.append_assoc] at lies
          have source := ends_cut name lies
          have behind := lies.behind name
          rw [Nat.zero_add] at source behind
          refine source.bind fun source => ?_
          rcases closes with rfl | rfl
          · exact (ends_readLimit (behind.behind ['='])).bind fun limit => ends_pure _
          · exact ends_readSpan _ (behind.behind ['['])

end LogRule

namespace LogFilter

/-- Rules that are all read to their end make a filter. -/
theorem readAll_isSome {texts : List (List Char)}
    (ends : ∀ text ∈ texts, LogRule.Ends (LogRule.read text)) : (readAll texts).isSome := by
  induction texts with
  | nil => rfl
  | cons text texts ih =>
    obtain ⟨reading, read⟩ := ends text List.mem_cons_self
    have others := ih fun later among => ends later (List.mem_cons_of_mem _ among)
    obtain ⟨filter, rest⟩ := Option.isSome_iff_exists.mp others
    -- A rule and a flaw are kept in different places, but neither loses the filter.
    rw [readAll, read, rest]
    cases reading <;> rfl

/-- There is no filter only if the text opens with a blank, or has one behind a comma. -/
theorem opens_of_read_eq_none {text : String} (unread : read text = none) :
    ∃ part ∈ text.toList.splitOn ',', ∃ c ∈ part.head?, Text.isBlank c = true := by
  by_contra unblemished
  have ends : ∀ part ∈ (text.toList.splitOn ',').filter fun text => !text.isEmpty,
      LogRule.Ends (LogRule.read part) := by
    intro part among
    apply LogRule.ends_read
    intro c first
    cases blank : Text.isBlank c with
    | false => rfl
    | true => exact absurd ⟨part, (List.mem_filter.mp among).1, c, first, blank⟩ unblemished
  obtain ⟨filter, found⟩ := Option.isSome_iff_exists.mp (readAll_isSome ends)
  rw [read, found] at unread
  dsimp only [Option.bind_eq_bind, Option.bind_some] at unread
  split at unread <;> cases unread

end LogFilter

end TenantSessions
