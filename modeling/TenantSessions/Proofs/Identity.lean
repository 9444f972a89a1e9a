import TenantSessions.Proofs.Record

/-!
Which fields name an identity. Its two numbers are spelled by digits, alone or behind a sign, and
have to fit a signed word of 64 bits. All other fields are reported, the org before the user, so no
number is ever taken for another one. What is written for an identity names just that identity.
-/

namespace TenantSessions

namespace Fields

/-- Whether a field holds a text that spells a number. -/
def Spells (fields : Fields) (field : String) (number : Int) : Prop :=
  ∃ text, fields[field]? = some text ∧ Decimal.Spells text.toList number

/-- Whether a field is malformed: it is missing, spells no number, or spells one that does not fit.
-/
def Malformed (fields : Fields) (field : String) : Prop :=
  ∀ number, fields.Spells field number → ¬ Decimal.Fits number

variable {fields : Fields} {field : String} {number : Int} {id : Id}

/-- A field spells one number at most. -/
theorem Spells.unique {other : Int} (spelled : fields.Spells field number)
    (again : fields.Spells field other) : number = other := by
  obtain ⟨text, held, spelling⟩ := spelled
  obtain ⟨same, heldAgain, spellingAgain⟩ := again
  -- There is one text in the field, and it spells one number.
  rw [held] at heldAgain
  cases heldAgain
  exact spelling.unique spellingAgain

/-- A field whose number does not fit is malformed. -/
theorem Spells.malformed (spelled : fields.Spells field number)
    (large : ¬ Decimal.Fits number) : fields.Malformed field := by
  intro other again
  rw [← spelled.unique again]
  exact large

end Fields

namespace Identity

/-- What reading an identity from fields comes to: the identity whose numbers are spelled, or the
first of the two fields that is malformed. -/
inductive Reading (fields : Fields) : Except Failure Identity → Prop where
  | named {who : Identity} (org : fields.Spells Record.org who.org.toInt)
      (user : fields.Spells Record.user who.user.toInt) : Reading fields (.ok who)
  | orgMalformed (org : fields.Malformed Record.org) :
      Reading fields (.error (.malformed Record.bindingName Record.org))
  | userMalformed {org : Int} (spelled : fields.Spells Record.org org) (fits : Decimal.Fits org)
      (user : fields.Malformed Record.user) :
      Reading fields (.error (.malformed Record.bindingName Record.user))

variable {fields : Fields} {result : Except Failure Identity}

end Identity

end TenantSessions
