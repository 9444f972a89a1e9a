import TenantSessions.Proofs.Glob

/-!
A scan told by places, the numbers of characters in front, where each look at a character and each
cut of the pattern may find the place outside. None ever does, and although a scan returns to places
that it has left, it is over after as many turns as pattern and text have pairs of places.
-/

namespace TenantSessions.Glob

/-- Where a scan stands in the pattern and in the text; and of the last star that it has passed, the
place of the star and the place up to which its run has grown. -/
structure Place where
  inPattern : Nat
  inText : Nat
  star : Option (Nat × Nat)
deriving DecidableEq, Repr

namespace Place

/-- A scan before its first turn. -/
def start : Place where
  inPattern := 0
  inText := 0
  star := none

/-- Lets the run of the last star take one more character; without a star the scan has failed. -/
def resume (place : Place) : Place ⊕ Bool :=
  match place.star with
  | some (star, run) =>
    .inl { inPattern := star + 1, inText := run + 1, star := some (star, run + 1) }
  | none => .inr false

/-- One turn of a scan: on to the next place, or to the verdict. There is none if what is looked at
lies outside. -/
def step? (pattern text : List Char) (place : Place) : Option (Place ⊕ Bool) :=
  if place.inText < text.length then
    if place.inPattern < pattern.length then do
      let p ← pattern[place.inPattern]?
      let t ← text[place.inText]?
      if p = '?' ∨ p = t then
        return .inl
          { place with inPattern := place.inPattern + 1, inText := place.inText + 1 }
      else if p = '*' then
        return .inl
          { place with
            inPattern := place.inPattern + 1
            star := some (place.inPattern, place.inText) }
      else return place.resume
    else return place.resume
  -- Behind the text the pattern is cut, which nothing in the turn itself allows for.
  else if place.inPattern ≤ pattern.length then
    some (.inr ((pattern.drop place.inPattern).all (· == '*')))
  else none

/-- Whether a scan comes to a place after so many turns. -/
inductive Reaches (pattern text : List Char) : Nat → Place → Prop where
  | start : Reaches pattern text 0 .start
  | turn {turns : Nat} {place next : Place} (before : Reaches pattern text turns place)
      (moved : place.step? pattern text = some (.inl next)) :
      Reaches pattern text (turns + 1) next

/-- Whether a place lies inside pattern and text, and the last star in front of it. -/
structure InRange (pattern text : List Char) (place : Place) : Prop where
  inPattern : place.inPattern ≤ pattern.length
  inText : place.inText ≤ text.length
  star : ∀ star run, place.star = some (star, run) →
    star < place.inPattern ∧ pattern[star]? = some '*' ∧ run ≤ place.inText

/-- The place from which the run of the last star may grow; before the first star that is the start
of the text. -/
def anchor (place : Place) : Nat :=
  (place.star.map Prod.snd).getD 0

/-- How many turns a scan has left at most: for each place that the run may still grow to, those
that the pattern is long, and one more. -/
def rank (pattern text : List Char) (place : Place) : Nat :=
  (text.length - place.anchor) * (pattern.length + 1) + (pattern.length - place.inPattern)

/-- The cursor of a scan that stands at a place. -/
def cursor (pattern text : List Char) (place : Place) : Cursor where
  pattern := pattern.drop place.inPattern
  text := text.drop place.inText
  star := place.star.map fun star =>
    { after := pattern.drop (star.1 + 1), run := text.drop star.2 }

variable {pattern text : List Char} {place next : Place} {turns : Nat}

/-- A scan that resumes does so right behind its last star, whose run is longer by one. -/
theorem resume_cases (resumed : place.resume = .inl next) :
    ∃ star run, place.star = some (star, run) ∧
      next = ⟨star + 1, run + 1, some (star, run + 1)⟩ := by
  unfold resume at resumed
  split at resumed
  · rename_i star run passed
    cases resumed
    exact ⟨star, run, passed, rfl⟩
  · cases resumed

/-- A turn that is not the last takes a character, passes a star, or resumes at the last star. -/
theorem step?_cases (moved : place.step? pattern text = some (.inl next)) :
    place.inText < text.length ∧
      ((place.inPattern < pattern.length ∧
          next = ⟨place.inPattern + 1, place.inText + 1, place.star⟩) ∨
        (pattern[place.inPattern]? = some '*' ∧
          next = ⟨place.inPattern + 1, place.inText, some (place.inPattern, place.inText)⟩) ∨
        ∃ star run, place.star = some (star, run) ∧
          next = ⟨star + 1, run + 1, some (star, run + 1)⟩) := by
  unfold step? at moved
  split at moved
  · rename_i left
    refine ⟨left, ?_⟩
    split at moved
    · rename_i inside
      -- Both places are inside, so both characters are found.
      rw [List.getElem?_eq_getElem inside, List.getElem?_eq_getElem left] at moved
      simp only [Option.bind_eq_bind, Option.bind_some] at moved
      split at moved
      · cases moved
        exact .inl ⟨inside, rfl⟩
      · split at moved
        · rename_i star
          cases moved
          exact .inr (.inl ⟨by rw [List.getElem?_eq_getElem inside, star], rfl⟩)
        · exact .inr (.inr (resume_cases (Option.some.inj moved)))
    · exact .inr (.inr (resume_cases (Option.some.inj moved)))
  · split at moved <;> cases moved

namespace InRange

/-- The first place is inside. -/
theorem start (pattern text : List Char) : InRange pattern text .start where
  inPattern := Nat.zero_le _
  inText := Nat.zero_le _
  star := by simp [Place.start]

/-- The run of the last star ends where the scan stands, or in front of it. -/
theorem anchor_le (range : place.InRange pattern text) : place.anchor ≤ place.inText := by
  unfold anchor
  cases passed : place.star with
  | none => simp
  | some star => exact (range.star star.1 star.2 passed).2.2

/-- A turn never leads outside. -/
theorem move (range : place.InRange pattern text)
    (moved : place.step? pattern text = some (.inl next)) : next.InRange pattern text := by
  obtain ⟨left, ⟨inside, rfl⟩ | ⟨found, rfl⟩ | ⟨star, run, passed, rfl⟩⟩ := step?_cases moved
  · refine ⟨inside, left, fun star run passed => ?_⟩
    obtain ⟨before, found, bound⟩ := range.star star run passed
    exact ⟨Nat.lt_succ_of_lt before, found, Nat.le_succ_of_le bound⟩
  · -- The star that is passed now is the character that has been looked at.
    obtain ⟨inside, -⟩ := List.getElem?_eq_some_iff.mp found
    refine ⟨inside, range.inText, fun star run passed => ?_⟩
    cases passed
    exact ⟨Nat.lt_succ_self _, found, Nat.le_refl _⟩
  · -- Although the scan goes back, it stays behind its star and within the text.
    obtain ⟨before, found, bound⟩ := range.star star run passed
    refine ⟨Nat.lt_of_lt_of_le before range.inPattern, Nat.lt_of_le_of_lt bound left,
      fun again longer same => ?_⟩
    cases same
    exact ⟨Nat.lt_succ_self _, found, Nat.le_refl _⟩

/-- Inside of pattern and text there is always a turn. -/
theorem exists_turn (range : place.InRange pattern text) :
    ∃ turn, place.step? pattern text = some turn := by
  unfold Place.step?
  split
  · rename_i left
    split
    · rename_i inside
      rw [List.getElem?_eq_getElem inside, List.getElem?_eq_getElem left]
      simp only [Option.bind_eq_bind, Option.bind_some]
      split
      · exact ⟨_, rfl⟩
      · split <;> exact ⟨_, rfl⟩
    · exact ⟨_, rfl⟩
  · exact ⟨_, if_pos range.inPattern⟩

/-- Each turn leaves fewer turns, also one that resumes: it goes back in pattern and text, but the
run of its star will never be that short again. -/
theorem rank_lt (range : place.InRange pattern text)
    (moved : place.step? pattern text = some (.inl next)) :
    next.rank pattern text < place.rank pattern text := by
  have anchored := range.anchor_le
  have inPattern := range.inPattern
  obtain ⟨left, ⟨inside, rfl⟩ | ⟨found, rfl⟩ | ⟨star, run, passed, rfl⟩⟩ := step?_cases moved
  · -- The run stays as it is, and less of the pattern is left.
    have same : anchor ⟨place.inPattern + 1, place.inText + 1, place.star⟩ = place.anchor := rfl
    simp only [rank, same]
    omega
  · -- The run of the new star begins no earlier than that of the last one has grown.
    obtain ⟨inside, -⟩ := List.getElem?_eq_some_iff.mp found
    have later : (text.length - place.inText) * (pattern.length + 1) ≤
        (text.length - place.anchor) * (pattern.length + 1) :=
      Nat.mul_le_mul_right _ (by omega)
    simp only [rank, anchor, Option.map_some, Option.getD_some] at later ⊢
    omega
  · -- What the shorter pattern adds is less than what the longer run takes away.
    obtain ⟨before, -, bound⟩ := range.star star run passed
    have grown : (text.length - run) * (pattern.length + 1) =
        (text.length - (run + 1)) * (pattern.length + 1) + (pattern.length + 1) := by
      rw [← Nat.succ_mul]
      congr 1
      omega
    simp only [rank, anchor, passed, Option.map_some, Option.getD_some, grown]
    omega

end InRange

/-- Whatever place a scan comes to is inside, and the turns that it has made and those that are left
are no more than at its start. -/
theorem Reaches.inRange (reached : Reaches pattern text turns place) :
    place.InRange pattern text ∧
      turns + place.rank pattern text ≤ Place.start.rank pattern text := by
  induction reached with
  | start => exact ⟨.start pattern text, Nat.le_of_eq (Nat.zero_add _)⟩
  | turn before moved ih =>
    obtain ⟨range, bound⟩ := ih
    have fewer := range.rank_lt moved
    exact ⟨range.move moved, by omega⟩

/-- Where characters are left, a scan by places resumes as a scan of what is left does. -/
theorem InRange.resume_cursor (range : place.InRange pattern text)
    (left : place.inText < text.length) :
    (place.cursor pattern text).resume = place.resume.map (cursor pattern text) id := by
  unfold Cursor.resume Place.resume cursor
  cases passed : place.star with
  | none => rfl
  | some star =>
    -- The run of the star is not yet the whole text, so it can take one more character.
    have bound := (range.star star.1 star.2 passed).2.2
    simp only [Option.map_some, List.drop_eq_getElem_cons (Nat.lt_of_le_of_lt bound left)]
    rfl

/-- Inside of pattern and text a turn by places is the step of the scan of what is left. -/
theorem InRange.step_cursor (range : place.InRange pattern text) {turn : Place ⊕ Bool}
    (moved : place.step? pattern text = some turn) :
    (place.cursor pattern text).step = turn.map (cursor pattern text) id := by
  unfold Place.step? at moved
  split at moved
  · rename_i left
    have textIs := List.drop_eq_getElem_cons left
    have resumes := range.resume_cursor left
    split at moved
    · rename_i inside
      have patternIs := List.drop_eq_getElem_cons inside
      have cursorIs : place.cursor pattern text =
          ⟨pattern[place.inPattern] :: pattern.drop (place.inPattern + 1),
            text[place.inText] :: text.drop (place.inText + 1),
            (place.cursor pattern text).star⟩ := by
        simp only [cursor, textIs, patternIs]
      rw [List.getElem?_eq_getElem inside, List.getElem?_eq_getElem left] at moved
      simp only [Option.bind_eq_bind, Option.bind_some] at moved
      rw [cursorIs]
      -- Both scans look at the same two characters, and ask the same of them.
      split at moved
      · rename_i faces
        cases moved
        exact if_pos faces
      · rename_i fails
        split at moved
        · rename_i star
          cases moved
          -- The run of the new star begins at the character that the scan stands before.
          simp only [Sum.map_inl, cursor, Option.map_some, textIs]
          exact (if_neg fails).trans (if_pos star)
        · rename_i plain
          cases moved
          exact (if_neg fails).trans ((if_neg plain).trans resumes)
    · rename_i outside
      have patternIs : pattern.drop place.inPattern = [] :=
        List.drop_eq_nil_of_le (Nat.not_lt.mp outside)
      cases moved
      rw [← resumes]
      simp only [Cursor.step, cursor, textIs, patternIs]
  · rename_i ended
    have textIs : text.drop place.inText = [] := List.drop_eq_nil_of_le (Nat.not_lt.mp ended)
    split at moved
    · cases moved
      simp only [Cursor.step, cursor, textIs]
      rfl
    · cases moved

/-- From every place that it comes to a scan goes on to a verdict, the one of the scan of what is
left. -/
theorem Reaches.exists_verdict (reached : Reaches pattern text turns place)
    (behind : (place.cursor pattern text).Behind) :
    ∃ total last, Reaches pattern text total last ∧
      last.step? pattern text = some (.inr ((place.cursor pattern text).run behind)) := by
  -- The induction is on the turns that are left, of which each turn leaves fewer.
  induction left : place.rank pattern text using Nat.strongRecOn generalizing turns place with
  | ind left ih =>
    have range := reached.inRange.1
    obtain ⟨turn, moved⟩ := range.exists_turn
    have stepped := range.step_cursor moved
    cases turn with
    | inl next =>
      rw [Cursor.run_of_next behind stepped]
      exact ih _ (left ▸ range.rank_lt moved) (reached.turn moved) _ rfl
    | inr verdict =>
      rw [Cursor.run_of_verdict behind stepped]
      exact ⟨turns, place, reached, moved⟩

/-- Whatever place a scan comes to lies inside pattern and text, with its last star in front of it
and the run of that star not beyond it. So there is a turn from there, which is the step that the
scan of what is left makes, as it does from the start; if it is not the last it leaves fewer turns,
and all turns together are fewer than the pairs of places of pattern and text. And the scan does
come to its verdict. -/
theorem stays_in_range (pattern text : String) :
    Place.start.cursor pattern.toList text.toList = Cursor.start pattern text ∧
      (∀ turns place, Reaches pattern.toList text.toList turns place →
        place.InRange pattern.toList text.toList ∧
          (∃ turn, place.step? pattern.toList text.toList = some turn ∧
            (place.cursor pattern.toList text.toList).step =
              turn.map (cursor pattern.toList text.toList) id) ∧
          (∀ next, place.step? pattern.toList text.toList = some (.inl next) →
            next.rank pattern.toList text.toList < place.rank pattern.toList text.toList) ∧
          turns < (pattern.length + 1) * (text.length + 1)) ∧
      ∃ turns place, Reaches pattern.toList text.toList turns place ∧
        place.step? pattern.toList text.toList = some (.inr (accepts pattern text)) := by
  refine ⟨rfl, fun turns place reached => ?_, ?_⟩
  · obtain ⟨range, bound⟩ := reached.inRange
    obtain ⟨turn, moved⟩ := range.exists_turn
    refine ⟨range, ⟨turn, moved, range.step_cursor moved⟩, fun next => range.rank_lt, ?_⟩
    -- At its start a scan has the whole text for its run, and the whole pattern.
    have all : Place.start.rank pattern.toList text.toList =
        text.length * (pattern.length + 1) + pattern.length := rfl
    have pairs : (pattern.length + 1) * (text.length + 1) =
        text.length * (pattern.length + 1) + (pattern.length + 1) := by
      rw [Nat.mul_comm, Nat.succ_mul]
    omega
  · exact Reaches.start.exists_verdict (Cursor.behind_start pattern text)

/-- Where a star has to take two more characters, the scan comes to a place three characters behind
it, goes back from there in the pattern and in the text, and still leaves fewer turns. -/
theorem stays_in_range_resumed :
    Reaches "*aab".toList "aaaab".toList 3 ⟨3, 2, some (0, 0)⟩ ∧
      InRange "*aab".toList "aaaab".toList ⟨3, 2, some (0, 0)⟩ ∧
      step? "*aab".toList "aaaab".toList ⟨3, 2, some (0, 0)⟩ =
        some (.inl ⟨1, 1, some (0, 1)⟩) ∧
      rank "*aab".toList "aaaab".toList ⟨1, 1, some (0, 1)⟩ <
        rank "*aab".toList "aaaab".toList ⟨3, 2, some (0, 0)⟩ := by
  have reached : Reaches "*aab".toList "aaaab".toList 3 ⟨3, 2, some (0, 0)⟩ :=
    .turn (.turn (.turn .start rfl) rfl) rfl
  obtain ⟨range, -, fewer, -⟩ := (stays_in_range "*aab" "aaaab").2.1 3 _ reached
  exact ⟨reached, range, rfl, fewer _ rfl⟩

end Place

end TenantSessions.Glob
