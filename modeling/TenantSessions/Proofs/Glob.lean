import TenantSessions.Glob

/-!
What patterns mean, and which texts a scan makes of it. A scan differs from the meaning in one thing
only: where a star of the pattern faces a star of the text, it stands for just that star.
-/

namespace TenantSessions.Glob

/-- A character that stands for itself in a pattern. -/
def IsPlain (c : Char) : Prop :=
  c ≠ '?' ∧ c ≠ '*'

/-- What a pattern means: `?` stands for any one character, `*` for any run of characters, and every
other character for itself. -/
inductive Matches : List Char → List Char → Prop where
  | nil : Matches [] []
  | any {pattern text : List Char} (c : Char) (rest : Matches pattern text) :
      Matches ('?' :: pattern) (c :: text)
  | plain {c : Char} {pattern text : List Char} (plain : IsPlain c) (rest : Matches pattern text) :
      Matches (c :: pattern) (c :: text)
  | star {pattern text : List Char} (run : List Char) (rest : Matches pattern text) :
      Matches ('*' :: pattern) (run ++ text)

/-- Which texts a scan accepts: a star of the pattern that faces another character stands for any
run, and one that faces a star for that star alone. -/
inductive Scans : List Char → List Char → Prop where
  | spent {pattern : List Char} (stars : ∀ c ∈ pattern, c = '*') : Scans pattern []
  | any {pattern text : List Char} (c : Char) (rest : Scans pattern text) :
      Scans ('?' :: pattern) (c :: text)
  | plain {c : Char} {pattern text : List Char} (plain : IsPlain c) (rest : Scans pattern text) :
      Scans (c :: pattern) (c :: text)
  | starred {pattern text : List Char} (rest : Scans pattern text) :
      Scans ('*' :: pattern) ('*' :: text)
  | star {c : Char} {pattern text left : List Char} (other : c ≠ '*')
      (suffix : left <:+ c :: text) (rest : Scans pattern left) :
      Scans ('*' :: pattern) (c :: text)

variable {p t : Char} {pattern text : List Char}

/-- At the end of the text only stars may be left of the pattern. -/
theorem scans_nil_iff : Scans pattern [] ↔ ∀ c ∈ pattern, c = '*' := by
  constructor
  · intro scans
    cases scans with
    | spent stars => exact stars
  · exact Scans.spent

/-- At the end of the pattern nothing may be left of the text. -/
theorem not_scans_nil_cons : ¬ Scans [] (t :: text) := by
  intro scans
  cases scans

/-- A question mark or a character that faces itself takes one character, and nothing else. -/
theorem scans_cons_iff (faces : p = '?' ∨ p = t) :
    Scans (p :: pattern) (t :: text) ↔ Scans pattern text := by
  constructor
  · intro scans
    cases scans with
    | any _ rest => exact rest
    | plain _ rest => exact rest
    | starred rest => exact rest
    | star other suffix rest =>
      -- Such a star faces another character, and it is no question mark.
      rcases faces with mark | same
      · exact absurd mark (by decide)
      · exact absurd same.symm other
  · intro rest
    by_cases mark : p = '?'
    · subst mark
      exact .any t rest
    · have same : p = t := faces.resolve_left mark
      subst same
      by_cases star : p = '*'
      · subst star
        exact .starred rest
      · exact .plain ⟨mark, star⟩ rest

/-- A pattern that matches somewhere in a text, after a run of any length. -/
def Within (pattern text : List Char) : Prop :=
  ∃ left, left <:+ text ∧ Scans pattern left

/-- A star that faces another character stands for any run. -/
theorem scans_star_iff (other : t ≠ '*') :
    Scans ('*' :: pattern) (t :: text) ↔ Within pattern (t :: text) := by
  constructor
  · intro scans
    cases scans with
    | plain plain _ => exact absurd rfl plain.2
    | starred _ => exact absurd rfl other
    | star _ suffix rest => exact ⟨_, suffix, rest⟩
  · rintro ⟨left, suffix, rest⟩
    exact .star other suffix rest

/-- A character that faces another, and is no mark, scans nothing. -/
theorem not_scans_of_mismatch (mark : p ≠ '?') (differs : p ≠ t) (star : p ≠ '*') :
    ¬ Scans (p :: pattern) (t :: text) := by
  intro scans
  cases scans with
  | any _ _ => exact mark rfl
  | plain _ _ => exact differs rfl
  | starred _ => exact star rfl
  | star _ _ _ => exact star rfl

/-- What scans as it stands matches after no run at all. -/
theorem Scans.within (scans : Scans pattern text) : Within pattern text :=
  ⟨text, List.suffix_rfl, scans⟩

/-- At the end of the text a pattern matches after a run exactly if only stars are left of it. -/
theorem within_nil_iff : Within pattern [] ↔ Scans pattern [] := by
  constructor
  · rintro ⟨left, suffix, scans⟩
    have atEnd : left = [] := List.suffix_nil.mp suffix
    exact atEnd ▸ scans
  · exact Scans.within

/-- A pattern that does not match where it stands matches only after a run of at least one. -/
theorem within_cons_iff (fails : ¬ Scans pattern (t :: text)) :
    Within pattern (t :: text) ↔ Within pattern text := by
  constructor
  · rintro ⟨left, suffix, scans⟩
    rcases List.suffix_cons_iff.mp suffix with whole | later
    · exact absurd (whole ▸ scans) fails
    · exact ⟨left, later, scans⟩
  · rintro ⟨left, suffix, scans⟩
    exact ⟨left, suffix.trans (List.suffix_cons t text), scans⟩

/-- Once a character has been taken, whatever a longer run in front would match is matched by a run
behind it. This is why a scan need not return to an earlier star. -/
theorem Within.tail (faces : p = '?' ∨ p = t) (within : Within (p :: pattern) (t :: text)) :
    Within pattern text := by
  obtain ⟨left, suffix, scans⟩ := within
  rcases List.suffix_cons_iff.mp suffix with whole | later
  · -- No run stands in front, so the character is taken as it has been.
    subst whole
    exact ((scans_cons_iff faces).mp scans).within
  cases scans with
  | spent stars =>
    -- The run takes the whole text, and only stars are left for its end.
    have rest : ∀ c ∈ pattern, c = '*' := fun c member => stars c (List.mem_cons_of_mem p member)
    exact ⟨[], List.nil_suffix, .spent rest⟩
  | any c rest => exact ⟨_, (List.suffix_cons c _).trans later, rest⟩
  | plain _ rest => exact ⟨_, (List.suffix_cons p _).trans later, rest⟩
  | starred rest => exact ⟨_, (List.suffix_cons '*' _).trans later, rest⟩
  | star _ inner rest => exact ⟨_, inner.trans later, rest⟩

/-- A star that is left out of a pattern is made up for by the run in front. -/
theorem Within.star (within : Within ('*' :: pattern) text) : Within pattern text := by
  obtain ⟨left, suffix, scans⟩ := within
  cases scans with
  | spent stars =>
    have rest : ∀ c ∈ pattern, c = '*' := fun c member => stars c (List.mem_cons_of_mem '*' member)
    exact ⟨[], List.nil_suffix, .spent rest⟩
  | plain plain _ => exact absurd rfl plain.2
  | starred rest => exact ⟨_, (List.suffix_cons '*' _).trans suffix, rest⟩
  | star _ inner rest => exact ⟨_, inner.trans suffix, rest⟩

namespace Cursor

/-- What a scan from a cursor is to decide: whether the pattern matches as it stands or, behind a
star, after any run that the star may still take. -/
def Promises (cursor : Cursor) : Prop :=
  match cursor.star with
  | none => Scans cursor.pattern cursor.text
  | some star => Within star.after star.run

/-- What is known of a star that has been passed: the scan stands in its run, the pattern behind it
matches where the run begins exactly if what is left matches here, and no longer run would match
without a run from here doing so too. -/
structure Holds (cursor : Cursor) (star : Star) : Prop where
  inside : cursor.text <:+ star.run
  here : Scans star.after star.run ↔ Scans cursor.pattern cursor.text
  onward : Within star.after star.run → Within cursor.pattern cursor.text

/-- Whether what is known of the last star that a cursor has passed holds, if it has passed one. -/
def Sound (cursor : Cursor) : Prop :=
  ∀ star ∈ cursor.star, cursor.Holds star

variable {cursor next : Cursor}

/-- A star that has just been passed has taken nothing yet. -/
theorem sound_fresh (pattern text : List Char) :
    (Cursor.mk pattern text (some ⟨pattern, text⟩)).Sound := by
  intro star found
  cases found
  exact ⟨List.suffix_rfl, Iff.rfl, id⟩

/-- Where what is left does not match, the run of the last star takes one more character; without a
star nothing can match. -/
theorem resume_promises (sound : cursor.Sound) (left : cursor.text ≠ [])
    (fails : ¬ Scans cursor.pattern cursor.text) :
    (∃ next, cursor.resume = .inl next ∧ next.Sound ∧ (next.Promises ↔ cursor.Promises)) ∨
      cursor.resume = .inr false ∧ ¬ cursor.Promises := by
  unfold resume Promises
  cases found : cursor.star with
  | none => exact .inr ⟨rfl, fails⟩
  | some star =>
    obtain ⟨inside, here, -⟩ := sound star found
    obtain ⟨after, run⟩ := star
    cases run with
    | nil => exact absurd (List.suffix_nil.mp inside) left
    | cons c run =>
      -- The pattern behind the star fails where it stood, so the run must be longer by one.
      have longer : Within after (c :: run) ↔ Within after run :=
        within_cons_iff (mt here.mp fails)
      exact .inl ⟨_, rfl, sound_fresh after run, longer.symm⟩

/-- Where a character is taken, what is known of the last star is known from there on. -/
theorem Holds.taken {p t : Char} {pattern text : List Char} {star : Star} {last : Option Star}
    (holds : Holds ⟨p :: pattern, t :: text, last⟩ star) (faces : p = '?' ∨ p = t) :
    Holds ⟨pattern, text, last⟩ star where
  inside := (List.suffix_cons t text).trans holds.inside
  here := holds.here.trans (scans_cons_iff faces)
  onward within := (holds.onward within).tail faces

/-- At the end of the text the last star promises no more than what is left of the pattern. -/
theorem promises_at_end {pattern : List Char} {last : Option Star}
    (sound : Sound ⟨pattern, [], last⟩) :
    Promises ⟨pattern, [], last⟩ ↔ Scans pattern [] := by
  cases last with
  | none => exact Iff.rfl
  | some star =>
    obtain ⟨-, here, onward⟩ := sound star rfl
    constructor
    · intro promised
      exact within_nil_iff.mp (onward promised)
    · intro scans
      exact (here.mpr scans).within

/-- Where a star opens a run, it promises what the last star did: an earlier star need not be
returned to. -/
theorem promises_at_star {t : Char} {pattern text : List Char} {last : Option Star}
    (sound : Sound ⟨'*' :: pattern, t :: text, last⟩) (other : t ≠ '*') :
    Promises ⟨'*' :: pattern, t :: text, last⟩ ↔ Within pattern (t :: text) := by
  cases last with
  | none => exact scans_star_iff other
  | some star =>
    obtain ⟨-, here, onward⟩ := sound star rfl
    constructor
    · intro promised
      exact (onward promised).star
    · intro within
      exact (here.mpr ((scans_star_iff other).mpr within)).within

/-- A step keeps the promise of a scan, and a verdict is what was promised. -/
theorem step_promises (sound : cursor.Sound) :
    (∃ next, cursor.step = .inl next ∧ next.Sound ∧ (next.Promises ↔ cursor.Promises)) ∨
      ∃ verdict, cursor.step = .inr verdict ∧ (verdict = true ↔ cursor.Promises) := by
  obtain ⟨pattern, text, last⟩ := cursor
  -- A scan that cannot go on where it stands resumes, or has failed.
  have resumed (left : text ≠ []) (fails : ¬ Scans pattern text) :
      (∃ next, resume ⟨pattern, text, last⟩ = .inl next ∧ next.Sound ∧
          (next.Promises ↔ Promises ⟨pattern, text, last⟩)) ∨
        ∃ verdict, resume ⟨pattern, text, last⟩ = .inr verdict ∧
          (verdict = true ↔ Promises ⟨pattern, text, last⟩) := by
    rcases resume_promises sound left fails with goes | ⟨failed, broken⟩
    · exact .inl goes
    · exact .inr ⟨false, failed, by simp [broken]⟩
  cases text with
  | nil =>
    refine .inr ⟨_, rfl, ?_⟩
    rw [promises_at_end sound, scans_nil_iff]
    simp
  | cons t text =>
    cases pattern with
    | nil => exact resumed (List.cons_ne_nil t text) not_scans_nil_cons
    | cons p pattern =>
      by_cases faces : p = '?' ∨ p = t
      · have moved : step ⟨p :: pattern, t :: text, last⟩ = .inl ⟨pattern, text, last⟩ :=
          if_pos faces
        refine .inl ⟨_, moved, fun star found => (sound star found).taken faces, ?_⟩
        cases last with
        | none => exact (scans_cons_iff faces).symm
        | some star => exact Iff.rfl
      obtain ⟨mark, differs⟩ := not_or.mp faces
      by_cases star : p = '*'
      · subst star
        have moved : step ⟨'*' :: pattern, t :: text, last⟩ =
            .inl ⟨pattern, t :: text, some ⟨pattern, t :: text⟩⟩ :=
          (if_neg faces).trans (if_pos rfl)
        have promised := promises_at_star sound (Ne.symm differs)
        exact .inl ⟨_, moved, sound_fresh pattern (t :: text), promised.symm⟩
      · have stuck : step ⟨p :: pattern, t :: text, last⟩ =
            resume ⟨p :: pattern, t :: text, last⟩ := (if_neg faces).trans (if_neg star)
        rw [stuck]
        exact resumed (List.cons_ne_nil t text) (not_scans_of_mismatch mark differs star)

/-- A scan that has a next cursor decides what the scan from there decides. -/
theorem run_of_next {cursor next : Cursor} (behind : cursor.Behind)
    (moved : cursor.step = .inl next) :
    cursor.run behind = next.run (step_next behind moved).1 := by
  -- The scan goes by its step, and the step is known.
  rw [run]
  split
  · rename_i verdict decided
    rw [moved] at decided
    cases decided
  · rename_i other found
    rw [moved] at found
    cases found
    rfl

/-- A scan whose step is a verdict decides just that. -/
theorem run_of_verdict {cursor : Cursor} {verdict : Bool} (behind : cursor.Behind)
    (decided : cursor.step = .inr verdict) : cursor.run behind = verdict := by
  rw [run]
  split
  · rename_i other found
    rw [decided] at found
    cases found
    rfl
  · rename_i next moved
    rw [decided] at moved
    cases moved

/-- A scan decides what it promises. -/
theorem run_eq_true_iff (behind : cursor.Behind) (sound : cursor.Sound) :
    cursor.run behind = true ↔ cursor.Promises := by
  -- The induction follows the scan, and each step keeps both the promise and what is known.
  induction cursor, behind using Cursor.run.induct with
  | case1 cursor behind verdict decided =>
    rw [run_of_verdict behind decided]
    rcases step_promises sound with ⟨next, moved, -⟩ | ⟨other, found, promised⟩
    · rw [decided] at moved
      cases moved
    · rw [decided] at found
      cases found
      exact promised
  | case2 cursor behind next moved ih =>
    rw [run_of_next behind moved]
    rcases step_promises sound with ⟨other, found, kept, promised⟩ | ⟨verdict, decided, -⟩
    · rw [moved] at found
      cases found
      exact (ih kept).trans promised
    · rw [moved] at decided
      cases decided

end Cursor

/-- A text is accepted exactly if the pattern scans it from its first character. -/
theorem accepts_iff_scans (pattern text : String) :
    accepts pattern text = true ↔ Scans pattern.toList text.toList := by
  have fresh : (Cursor.start pattern text).Sound := by
    intro star found
    cases found
  exact Cursor.run_eq_true_iff (Cursor.behind_start pattern text) fresh

/-- A pattern of stars alone matches the empty text. -/
theorem matches_nil_of_stars (stars : ∀ c ∈ pattern, c = '*') : Matches pattern [] := by
  induction pattern with
  | nil => exact .nil
  | cons c pattern ih =>
    have star : c = '*' := stars c List.mem_cons_self
    have rest : Matches pattern [] := ih fun d member => stars d (List.mem_cons_of_mem c member)
    subst star
    exact .star [] rest

/-- A pattern that ends in a star matches whatever goes on behind the same opening. -/
theorem matches_append_star {opening : List Char} (plain : ∀ c ∈ opening, IsPlain c)
    (rest : List Char) : Matches (opening ++ ['*']) (opening ++ rest) := by
  induction opening with
  | nil =>
    have whole : Matches ['*'] (rest ++ []) := .star rest .nil
    simpa using whole
  | cons c opening ih =>
    have others : ∀ d ∈ opening, IsPlain d :=
      fun d member => plain d (List.mem_cons_of_mem c member)
    exact .plain (plain c List.mem_cons_self) (ih others)

/-- What a scan accepts the pattern matches. -/
theorem Scans.matches (scans : Scans pattern text) : Matches pattern text := by
  induction scans with
  | spent stars => exact matches_nil_of_stars stars
  | any c _ ih => exact .any c ih
  | plain plain _ ih => exact .plain plain ih
  -- That a star stands for a star is one of the runs that it may stand for.
  | starred _ ih => exact .star ['*'] ih
  | star _ suffix _ ih =>
    obtain ⟨run, whole⟩ := suffix
    exact whole ▸ .star run ih

/-- Where no star is in the text, whatever the pattern matches is scanned. -/
theorem Matches.scans (matched : Matches pattern text) (noStar : '*' ∉ text) :
    Scans pattern text := by
  induction matched with
  | nil => exact .spent (by simp)
  | any c _ ih => exact .any c (ih fun member => noStar (List.mem_cons_of_mem c member))
  | plain plain _ ih => exact .plain plain (ih fun member => noStar (List.mem_cons_of_mem _ member))
  | @star pattern left run _ ih =>
    have rest : Scans pattern left := ih fun member => noStar (List.mem_append_right run member)
    have suffix : left <:+ run ++ left := List.suffix_append run left
    -- Either the whole text is over, or its first character is no star.
    cases whole : run ++ left with
    | nil =>
      have atEnd : left = [] := (List.append_eq_nil_iff.mp whole).2
      subst atEnd
      have stars := scans_nil_iff.mp rest
      exact .spent (by simpa using stars)
    | cons t text =>
      have other : t ≠ '*' := by
        intro same
        apply noStar
        simp [whole, same]
      exact .star other (whole ▸ suffix) rest

/-- A pattern that ends in its only star scans the texts that open alike, unless a star and more
stands where the star of the pattern does. -/
theorem scans_append_star_iff {opening : List Char} (plain : ∀ c ∈ opening, IsPlain c) :
    Scans (opening ++ ['*']) text ↔
      ∃ rest, text = opening ++ rest ∧ (rest.head? = some '*' → rest = ['*']) := by
  induction opening generalizing text with
  | nil =>
    simp only [List.nil_append, exists_eq_left']
    cases text with
    | nil => simp [scans_nil_iff]
    | cons t text =>
      by_cases star : t = '*'
      · subst star
        rw [scans_cons_iff (.inr rfl)]
        -- The star of the pattern stands for the star of the text, and nothing may follow.
        cases text with
        | nil => simp [scans_nil_iff]
        | cons c text => simp [not_scans_nil_cons]
      · have atEnd : Within [] (t :: text) := ⟨[], List.nil_suffix, .spent (by simp)⟩
        simp [scans_star_iff star, atEnd, star]
  | cons c opening ih =>
    obtain ⟨mark, star⟩ := plain c List.mem_cons_self
    have others : ∀ d ∈ opening, IsPlain d :=
      fun d member => plain d (List.mem_cons_of_mem c member)
    cases text with
    | nil => simp [scans_nil_iff, star]
    | cons t text =>
      by_cases same : c = t
      · subst same
        rw [List.cons_append, scans_cons_iff (.inr rfl), ih others]
        simp
      · have fails : ¬ Scans (c :: (opening ++ ['*'])) (t :: text) :=
          not_scans_of_mismatch mark same star
        simp [fails, Ne.symm same]

/-- A pattern that ends in its only star accepts the texts that open alike, unless a star and more
stands where the star of the pattern does. -/
theorem accepts_append_star_iff {opening text : String} (plain : ∀ c ∈ opening.toList, IsPlain c) :
    accepts (opening ++ "*") text = true ↔
      ∃ rest, text = opening ++ rest ∧ (rest.toList.head? = some '*' → rest = "*") := by
  have star : "*".toList = ['*'] := rfl
  rw [accepts_iff_scans, String.toList_append, star, scans_append_star_iff plain]
  -- A text is the list of its characters.
  constructor
  · rintro ⟨rest, parted, lone⟩
    refine ⟨String.ofList rest, ?_, ?_⟩
    · rw [← String.toList_inj, String.toList_append, String.toList_ofList, parted]
    · rw [String.toList_ofList, ← String.toList_inj, String.toList_ofList]
      exact lone
  · rintro ⟨rest, parted, lone⟩
    refine ⟨rest.toList, ?_, ?_⟩
    · rw [parted, String.toList_append]
    · intro opens
      rw [lone opens]
      exact star

/-- A pattern accepts just the texts that it scans. Whatever it accepts it matches, and of the texts
without a star it accepts all that it matches. -/
theorem accepts_exactly (pattern text : String) :
    (accepts pattern text = true ↔ Scans pattern.toList text.toList) ∧
      (accepts pattern text = true → Matches pattern.toList text.toList) ∧
      ('*' ∉ text.toList →
        (accepts pattern text = true ↔ Matches pattern.toList text.toList)) := by
  have scanned := accepts_iff_scans pattern text
  refine ⟨scanned, fun accepted => (scanned.mp accepted).matches, fun noStar => ?_⟩
  constructor
  · intro accepted
    exact (scanned.mp accepted).matches
  · intro matched
    exact scanned.mpr (matched.scans noStar)

/-- One star of a pattern stands for a run in one text and for a star in another, and where it has
to be both, the text is matched but not accepted. -/
theorem accepts_exactly_twofold :
    '*' ∉ "say b".toList ∧ accepts "*?b" "say b" = true ∧ accepts "*?b" "**b" = true ∧
      Matches "*?b".toList "**ab".toList ∧ accepts "*?b" "**ab" = false := by
  have noStar : '*' ∉ "say b".toList := by decide
  obtain ⟨-, -, plain⟩ := accepts_exactly "*?b" "say b"
  have spaced : Matches "*?b".toList "say b".toList :=
    .star "say".toList (.any ' ' (.plain (by unfold IsPlain; decide) .nil))
  obtain ⟨scanned, -, -⟩ := accepts_exactly "*?b" "**b"
  have starred : Scans "*?b".toList "**b".toList :=
    .starred (.any '*' (.plain (by unfold IsPlain; decide) (.spent (by simp))))
  have both : Matches "*?b".toList "**ab".toList :=
    .star "**".toList (.any 'a' (.plain (by unfold IsPlain; decide) .nil))
  refine ⟨noStar, (plain noStar).mpr spaced, scanned.mpr starred, both, Bool.eq_false_iff.mpr ?_⟩
  -- The star of the pattern is used up by the first of the text, and no run can make up for `a`.
  intro accepted
  have left := (scans_cons_iff (.inr rfl)).mp ((accepts_exactly "*?b" "**ab").1.mp accepted)
  have last := (scans_cons_iff (.inl rfl)).mp left
  exact not_scans_of_mismatch (by decide) (by decide) (by decide) last

end TenantSessions.Glob
