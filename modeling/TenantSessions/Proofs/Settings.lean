import TenantSessions.Proofs.Hours

/-!
What becomes of an environment when settings are read from it. A flaw of the address is reported,
but hours whose seconds fit no word are not: they stop the program, although they name a number like
any other hours.
-/

namespace TenantSessions.Settings

variable {environment : Environment} {raw : Option ByteArray} {hours seconds : UInt64}

/-- Bytes are decoded as a text exactly if they are what the text is encoded as. -/
theorem fromUTF8?_eq_some_iff {bytes : ByteArray} {text : String} :
    String.fromUTF8? bytes = some text ↔ bytes = text.toUTF8 := by
  constructor
  · intro decoded
    -- Decoding checks the bytes and keeps them as they are.
    rw [String.fromUTF8?, Option.dite_none_right_eq_some] at decoded
    obtain ⟨valid, same⟩ := decoded
    rw [← Option.some.inj same]
    rfl
  · rintro rfl
    exact dif_pos text.isValidUTF8

/-- A variable is decoded as a text exactly if it holds what the text is encoded as. -/
theorem bind_fromUTF8?_eq_some_iff {text : String} :
    raw.bind String.fromUTF8? = some text ↔ raw = some text.toUTF8 := by
  rw [Option.bind_eq_some_iff]
  simp [fromUTF8?_eq_some_iff]

/-- Whether a variable gives hours: it holds a text that names them, or else they are the default.
-/
def Gives (raw : Option ByteArray) (hours : UInt64) : Prop :=
  (∃ text : String, raw = some text.toUTF8 ∧ NamesHours text hours) ∨
    (∀ text : String, raw = some text.toUTF8 → ∀ other, ¬ NamesHours text other) ∧
      hours = defaultHours

/-- The hours of a variable are those that it gives. -/
theorem hoursOf_eq_iff : hoursOf raw = hours ↔ Gives raw hours := by
  rw [hoursOf, hoursOr_eq_iff]
  -- What is no text is read like a variable that is not set.
  simp only [bind_fromUTF8?_eq_some_iff]
  exact Iff.rfl

/-- The most hours whose seconds fit a word. -/
def mostHours : Nat := 5124095576030431

/-- Hours have seconds exactly if there is a word for them. -/
theorem secondsOf_eq_ok_iff :
    secondsOf hours = .ok seconds ↔ seconds.toNat = 3600 * hours.toNat := by
  have product : (hours * 3600).toNat = hours.toNat * 3600 % UInt64.size :=
    UInt64.toNat_mul hours 3600
  rw [secondsOf]
  constructor
  · intro fits
    -- The product that is a word has not wrapped around.
    split at fits
    · rename_i small
      rw [← Except.ok.inj fits, product, Nat.mod_eq_of_lt small, Nat.mul_comm]
    · cases fits
  · intro same
    have small : hours.toNat * 3600 < UInt64.size := by
      rw [Nat.mul_comm, ← same]
      exact seconds.toNat_lt_size
    rw [if_pos small, Except.ok.injEq, ← UInt64.toNat_inj, product, Nat.mod_eq_of_lt small, same,
      Nat.mul_comm]

/-- Hours have no seconds exactly if they are more than those whose seconds fit a word. -/
theorem secondsOf_eq_error_iff {flaw : Flaw} :
    secondsOf hours = .error flaw ↔ mostHours < hours.toNat ∧ flaw = .hoursOverflow := by
  -- One hour more than the most has its seconds behind the last word.
  have large : ¬ hours.toNat * 3600 < UInt64.size ↔ mostHours < hours.toNat := by
    rw [mostHours, UInt64.size]
    omega
  rw [secondsOf, ← large]
  split
  · rename_i small
    simp [small]
  · rename_i large
    simp [large, eq_comm]

/-- The address is the text that its variable holds. -/
theorem addressOf_eq_ok_iff {address : String} :
    addressOf raw = .ok address ↔ raw = some address.toUTF8 := by
  rw [← bind_fromUTF8?_eq_some_iff]
  cases raw with
  | none => simp [addressOf]
  | some bytes =>
    rw [addressOf, Option.bind_some]
    cases String.fromUTF8? bytes with
    | none => simp
    | some text => simp

/-- There is no address exactly if its variable is not set or holds what is no text. -/
theorem addressOf_eq_error_iff {flaw : Flaw} :
    addressOf raw = .error flaw ↔ (raw = none ∧ flaw = .addressMissing) ∨
      ∃ bytes, raw = some bytes ∧ (∀ text : String, bytes ≠ text.toUTF8) ∧
        flaw = .addressNotText bytes := by
  cases raw with
  | none => simp [addressOf, eq_comm]
  | some bytes =>
    simp only [addressOf, reduceCtorEq, false_and, false_or, Option.some.injEq, exists_eq_left',
      ne_eq, ← fromUTF8?_eq_some_iff]
    cases String.fromUTF8? bytes with
    | none => simp [eq_comm]
    | some text => simp

/-- What becomes of an environment. -/
inductive Outcome (environment : Environment) : Except Flaw Settings → Prop where
  | missing (absent : environment.address = none) : Outcome environment (.error .addressMissing)
  | notText {raw : ByteArray} (set : environment.address = some raw)
      (undecoded : ∀ text : String, raw ≠ text.toUTF8) :
      Outcome environment (.error (.addressNotText raw))
  /-- Either of the variables is enough to stop the program, if the address has no flaw. -/
  | stopped {address : String} {hours : UInt64}
      (text : environment.address = some address.toUTF8)
      (given : Gives environment.sessionHours hours ∨ Gives environment.bindingHours hours)
      (large : mostHours < hours.toNat) : Outcome environment (.error .hoursOverflow)
  | loaded {settings : Settings} {sessionHours bindingHours : UInt64}
      (text : environment.address = some settings.address.toUTF8)
      (session : Gives environment.sessionHours sessionHours)
      (binding : Gives environment.bindingHours bindingHours)
      (sessionSeconds : settings.sessionSeconds.toNat = 3600 * sessionHours.toNat)
      (bindingSeconds : settings.bindingSeconds.toNat = 3600 * bindingHours.toNat) :
      Outcome environment (.ok settings)

/-- Hours that are too many stop the program, whatever the other variable gives. -/
theorem load_eq_overflow {address : String} (text : environment.address = some address.toUTF8)
    (given : Gives environment.sessionHours hours ∨ Gives environment.bindingHours hours)
    (large : mostHours < hours.toNat) : load environment = .error .hoursOverflow := by
  have overflow := secondsOf_eq_error_iff.mpr ⟨large, rfl⟩
  rw [load, addressOf_eq_ok_iff.mpr text]
  rcases given with session | binding
  · rw [hoursOf_eq_iff.mpr session, overflow]
    rfl
  · rw [hoursOf_eq_iff.mpr binding, overflow]
    -- The hours of sessions come first, but can only stop the program for the same reason.
    cases session : secondsOf (hoursOf environment.sessionHours) with
    | error flaw =>
      obtain ⟨-, rfl⟩ := secondsOf_eq_error_iff.mp session
      rfl
    | ok seconds => rfl

/-- Settings are read that have the seconds of both hours, if there are such seconds. -/
theorem load_eq_ok {settings : Settings} {sessionHours bindingHours : UInt64}
    (text : environment.address = some settings.address.toUTF8)
    (session : hoursOf environment.sessionHours = sessionHours)
    (binding : hoursOf environment.bindingHours = bindingHours)
    (sessionSeconds : settings.sessionSeconds.toNat = 3600 * sessionHours.toNat)
    (bindingSeconds : settings.bindingSeconds.toNat = 3600 * bindingHours.toNat) :
    load environment = .ok settings := by
  rw [load, addressOf_eq_ok_iff.mpr text, session, binding,
    secondsOf_eq_ok_iff.mpr sessionSeconds, secondsOf_eq_ok_iff.mpr bindingSeconds]
  rfl

/-- What becomes of an environment when settings are read from it is just what is written down as
its outcome. The hours of each variable are those that it names, or the default, and the program
stops exactly if the address is a text and hours are given that are more than the most. -/
theorem load_exact (environment : Environment) (result : Except Flaw Settings) :
    load environment = result ↔ Outcome environment result := by
  constructor
  · rintro rfl
    -- The address is looked at first, then the hours of sessions, then those of bindings.
    rw [load]
    cases address : addressOf environment.address with
    | error flaw =>
      rcases addressOf_eq_error_iff.mp address with ⟨absent, rfl⟩ | ⟨raw, set, undecoded, rfl⟩
      · exact .missing absent
      · exact .notText set undecoded
    | ok text =>
      have held := addressOf_eq_ok_iff.mp address
      cases session : secondsOf (hoursOf environment.sessionHours) with
      | error flaw =>
        obtain ⟨large, rfl⟩ := secondsOf_eq_error_iff.mp session
        exact .stopped held (.inl (hoursOf_eq_iff.mp rfl)) large
      | ok sessionSeconds =>
        cases binding : secondsOf (hoursOf environment.bindingHours) with
        | error flaw =>
          obtain ⟨large, rfl⟩ := secondsOf_eq_error_iff.mp binding
          exact .stopped held (.inr (hoursOf_eq_iff.mp rfl)) large
        | ok bindingSeconds =>
          exact .loaded held (hoursOf_eq_iff.mp rfl) (hoursOf_eq_iff.mp rfl)
            (secondsOf_eq_ok_iff.mp session) (secondsOf_eq_ok_iff.mp binding)
  · intro outcome
    -- An outcome tells what each variable is read as, and so what the whole comes to.
    cases outcome with
    | missing absent =>
      rw [load, addressOf_eq_error_iff.mpr (.inl ⟨absent, rfl⟩)]
      rfl
    | notText set undecoded =>
      rw [load, addressOf_eq_error_iff.mpr (.inr ⟨_, set, undecoded, rfl⟩)]
      rfl
    | stopped text given large => exact load_eq_overflow text given large
    | loaded text session binding sessionSeconds bindingSeconds =>
      exact load_eq_ok text (hoursOf_eq_iff.mpr session) (hoursOf_eq_iff.mpr binding)
        sessionSeconds bindingSeconds

/-- An environment in which nothing is wrong but that sessions live for one hour more than the most.
-/
def overlong : Environment where
  address := some "redis://127.0.0.1/".toUTF8
  sessionHours := some "5124095576030432".toUTF8
  bindingHours := none
  logFilter := none

/-- Not every environment has settings or a flaw of its address: hours that are too many stop the
program. -/
theorem load_stops_overlong :
    ¬ ∀ environment, load environment = .error .addressMissing ∨
      (∃ raw, load environment = .error (.addressNotText raw)) ∨
        ∃ settings, load environment = .ok settings := by
  intro claimed
  -- A word holds the hours, so they are not replaced by the default.
  have named : NamesHours "5124095576030432" 5124095576030432 :=
    @namesHours_repr "" "" "" (by simp) (by simp) (by simp) 5124095576030432
  have given : Gives overlong.sessionHours 5124095576030432 := .inl ⟨_, rfl, named⟩
  have stopped : load overlong = .error .hoursOverflow :=
    load_eq_overflow rfl (.inl given) (by decide)
  rcases claimed overlong with missing | ⟨raw, notText⟩ | ⟨settings, loaded⟩
  · cases stopped.symm.trans missing
  · cases stopped.symm.trans notText
  · cases stopped.symm.trans loaded

end TenantSessions.Settings
