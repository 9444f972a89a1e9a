import TenantSessions.Record
import TenantSessions.Proofs.Decimal

/-! What is written as a record is read back from it, and writing a session over another keeps the
tokens that are not written. -/

namespace TenantSessions

namespace Fields

/-- Writing one field leaves every other field as it is. -/
theorem getElem?_insert (fields : Fields) (field value name : String) :
    (fields.insert field value)[name]? = if name = field then some value else fields[name]? := by
  -- Comparing names in either direction comes to the same.
  rw [Std.ExtTreeMap.getElem?_insert]
  by_cases same : name = field
  · subst same
    simp
  · simp [same, Ne.symm same]

/-- Writing two lists of fields writes the first and then the second. -/
theorem write_append (fields : Fields) (first second : List (String × String)) :
    fields.write (first ++ second) = (fields.write first).write second :=
  List.foldl_append

/-- After pairs have been written, a field has the value of the last pair of its name, or else its
old value. -/
theorem getElem?_write (fields : Fields) (pairs : List (String × String)) (name : String) :
    (fields.write pairs)[name]? = (pairs.reverse.lookup name).or fields[name]? := by
  induction pairs generalizing fields with
  | nil => rfl
  | cons pair rest ih =>
    obtain ⟨field, value⟩ := pair
    -- The first pair counts only if none of the others has the name.
    show (write (fields.insert field value) rest)[name]? = _
    rw [ih, getElem?_insert, List.reverse_cons, List.lookup_append, List.lookup_singleton,
      Option.or_assoc]
    by_cases same : name = field
    · simp [same]
    · simp [same]

/-- The pairs of some fields, in any order, stand for these fields. -/
theorem ofPairs_of_perm {fields : Fields} {pairs : List (String × String)}
    (same : pairs.Perm fields.toList) : ofPairs pairs = fields := by
  have held (name value : String) : (name, value) ∈ pairs ↔ fields[name]? = some value :=
    same.mem_iff.trans Std.ExtTreeMap.mem_toList_iff_getElem?_eq_some
  apply Std.ExtTreeMap.ext_getElem?
  intro name
  rw [ofPairs, getElem?_write, Std.ExtTreeMap.getElem?_empty, Option.or_none]
  -- Whichever pair of a name is the last, it is the one that the fields have.
  cases last : pairs.reverse.lookup name with
  | some value =>
    obtain ⟨before, after, parts, -⟩ := List.lookup_eq_some_iff.mp last
    have among : (name, value) ∈ pairs := by
      rw [← List.mem_reverse, parts]
      simp
    exact ((held name value).mp among).symm
  | none =>
    cases found : fields[name]? with
    | none => rfl
    | some value =>
      have among := (held name value).mpr found
      have other := List.lookup_eq_none_iff.mp last _ (List.mem_reverse.mpr among)
      simp at other

/-- Writing the same pairs again changes nothing. -/
theorem write_write (fields : Fields) (pairs : List (String × String)) :
    (fields.write pairs).write pairs = fields.write pairs := by
  apply Std.ExtTreeMap.ext_getElem?
  intro name
  rw [getElem?_write, getElem?_write, ← Option.or_assoc, Option.or_self]

/-- No field is there after pairs have been written only if none was there before and the pairs are
none. -/
theorem write_eq_empty_iff {fields : Fields} {pairs : List (String × String)} :
    fields.write pairs = ∅ ↔ fields = ∅ ∧ pairs = [] := by
  -- The induction is on the pairs; once one of them is written there is a field.
  induction pairs generalizing fields with
  | nil => exact (and_iff_left rfl).symm
  | cons pair rest ih =>
    show write (fields.insert pair.1 pair.2) rest = ∅ ↔ _
    simp [ih]

/-- Writing an identity sets the two fields that name it and no other. -/
theorem getElem?_write_identity (fields : Fields) (who : Identity) (name : String) :
    (fields.write who.fields)[name]? =
      if name = Record.user then some (Decimal.write who.user)
      else if name = Record.org then some (Decimal.write who.org)
      else fields[name]? := by
  -- The user is written last, so its name is looked for first.
  show ((fields.insert Record.org _).insert Record.user _)[name]? = _
  rw [getElem?_insert, getElem?_insert]

/-- Writing a field that may be missing sets it if it is not. -/
theorem getElem?_write_option (fields : Fields) (field : String) (value : Option String)
    (name : String) :
    (fields.write (value.toList.map (field, ·)))[name]? =
      if name = field then value.or fields[name]? else fields[name]? := by
  cases value with
  | none => simp [write]
  | some value => exact getElem?_insert fields field value name

/-- Writing a session sets the fields that name its identity and those of the tokens it has. -/
theorem getElem?_write_grant (fields : Fields) (grant : Grant) (name : String) :
    (fields.write grant.fields)[name]? =
      if name = Record.apiToken then grant.apiToken.or fields[name]?
      else if name = Record.bearer then grant.bearer.or fields[name]?
      else if name = Record.user then some (Decimal.write grant.who.user)
      else if name = Record.org then some (Decimal.write grant.who.org)
      else fields[name]? := by
  rw [Grant.fields, write_append, write_append, getElem?_write_option, getElem?_write_option,
    getElem?_write_identity]
  -- The four names differ from each other, so at most one of the cases applies.
  by_cases apiToken : name = Record.apiToken
  · subst apiToken
    simp [Record.apiToken, Record.bearer, Record.user, Record.org]
  · by_cases bearer : name = Record.bearer
    · subst bearer
      simp [Record.apiToken, Record.bearer, Record.user, Record.org]
    · simp [apiToken, bearer]

/-- Fields to which an identity has been written are not empty. -/
theorem isEmpty_write_identity (fields : Fields) (who : Identity) :
    (fields.write who.fields).isEmpty = false := by
  rw [Std.ExtTreeMap.isEmpty_eq_false_iff]
  intro empty
  cases (write_eq_empty_iff.mp empty).2

/-- Writing a session over the fields of another of its identity leaves the fields of the session
that has the tokens of both, where new tokens take the place of old ones. -/
theorem write_grant_grant (old new : Grant) (same : old.who = new.who) :
    (ofPairs old.fields).write new.fields =
      ofPairs (Grant.fields ⟨new.who, new.bearer.or old.bearer, new.apiToken.or old.apiToken⟩) := by
  apply Std.ExtTreeMap.ext_getElem?
  intro name
  simp only [ofPairs, getElem?_write_grant, same]
  -- A token that the new session lacks is the old one's; the identity is written twice alike.
  by_cases apiToken : name = Record.apiToken
  · simp [apiToken]
  · by_cases bearer : name = Record.bearer
    · simp [bearer, Record.bearer, Record.apiToken]
    · simp only [if_neg apiToken, if_neg bearer]
      split
      · rfl
      · split <;> rfl

/-- An identity that is written over the fields of another takes its place. -/
theorem write_identity_identity (old new : Identity) :
    (ofPairs old.fields).write new.fields = ofPairs new.fields := by
  apply Std.ExtTreeMap.ext_getElem?
  intro name
  -- Both fields of the old identity are overwritten, and there is no third.
  simp only [ofPairs, getElem?_write_identity]
  split
  · rfl
  · split <;> rfl

end Fields

/-- What a grant stores in a field of its session. -/
def Grant.held (grant : Grant) (field : String) : Option String :=
  (Fields.ofPairs grant.fields)[field]?

/-- Writing a session stores what its grant does, and leaves every other field as it is. -/
theorem Fields.getElem?_write_held (fields : Fields) (grant : Grant) (field : String) :
    (fields.write grant.fields)[field]? = (grant.held field).or fields[field]? := by
  rw [Grant.held, ofPairs, getElem?_write, getElem?_write, Std.ExtTreeMap.getElem?_empty,
    Option.or_none]

/-- A grant stores its bearer token, if it has one. -/
@[simp] theorem Grant.held_bearer (grant : Grant) : grant.held Record.bearer = grant.bearer := by
  have different : Record.bearer ≠ Record.apiToken := by decide
  simp [held, Fields.ofPairs, Fields.getElem?_write_grant, different]

/-- A grant stores its API token, if it has one. -/
@[simp] theorem Grant.held_apiToken (grant : Grant) :
    grant.held Record.apiToken = grant.apiToken := by
  simp [held, Fields.ofPairs, Fields.getElem?_write_grant]

/-- A token that counts as there is not empty. -/
theorem Grant.token?_eq_some_iff (token held : String) :
    Grant.token? token = some held ↔ token ≠ "" ∧ token = held := by
  rw [Grant.token?, Option.ite_none_left_eq_some, Option.some.injEq]

/-- A token that counts as there is not empty, whether it is new or was held before. -/
theorem Grant.token?_or_ne_empty (token : String) {held? : Option String}
    (filled : held? ≠ some "") : (token? token).or held? ≠ some "" := by
  intro empty
  rcases Option.or_eq_some_iff.mp empty with new | ⟨-, earlier⟩
  · obtain ⟨present, same⟩ := (token?_eq_some_iff ..).mp new
    exact present same
  · exact filled earlier

/-- A token that is not empty counts as there, whatever was held before. -/
theorem Grant.isSome_token?_or {token : String} (present : token ≠ "") (held? : Option String) :
    ((token? token).or held?).isSome := by
  rw [token?, if_neg present]
  rfl

/-- Whether a field of a record reads as a number. -/
def Fields.Names (fields : Fields) (field : String) (id : Id) : Prop :=
  ∃ text, fields[field]? = some text ∧ Decimal.readInteger text.toList = .ok id

/-- A number of a binding is the one that its field reads as. -/
theorem Id.ofFields_eq_ok_iff (fields : Fields) (field : String) (id : Id) :
    Id.ofFields fields field = .ok id ↔ fields.Names field id := by
  rw [Id.ofFields, Fields.Names]
  cases fields[field]? with
  | none => simp
  | some text => cases read : Decimal.readInteger text.toList <;> simp [read]

/-- A field reads as one number at most. -/
theorem Fields.Names.unique {fields : Fields} {field : String} {first second : Id}
    (one : fields.Names field first) (other : fields.Names field second) : first = second := by
  have read := (Id.ofFields_eq_ok_iff ..).mpr one
  rw [(Id.ofFields_eq_ok_iff ..).mpr other] at read
  exact (Except.ok.inj read).symm

/-- Where there are no fields, none reads as a number. -/
theorem Fields.not_names_empty (field : String) (id : Id) : ¬ Fields.Names ∅ field id := by
  simp [Fields.Names]

/-- A field that reads as no number is reported by its name. -/
theorem Id.ofFields_of_unnamed {fields : Fields} {field : String}
    (unnamed : ∀ id, ¬ fields.Names field id) :
    Id.ofFields fields field = .error (.malformed Record.bindingName field) := by
  cases read : Id.ofFields fields field with
  | ok id => exact absurd ((Id.ofFields_eq_ok_iff ..).mp read) (unnamed id)
  | error failure =>
    -- A missing field and one that holds something else are reported alike.
    rw [Id.ofFields] at read
    split at read
    · exact read.symm
    · split at read
      · cases read
      · exact read.symm

/-- Of the two numbers of a binding the first that cannot be read is reported, or both are read. -/
theorem Identity.ofFields_cases (fields : Fields) :
    ((∀ org, ¬ fields.Names Record.org org) ∧
        Identity.ofFields fields = .error (.malformed Record.bindingName Record.org)) ∨
      (∃ org, fields.Names Record.org org ∧ (∀ user, ¬ fields.Names Record.user user) ∧
        Identity.ofFields fields = .error (.malformed Record.bindingName Record.user)) ∨
      ∃ who : Identity, fields.Names Record.org who.org ∧ fields.Names Record.user who.user ∧
        Identity.ofFields fields = .ok who := by
  -- The user is not looked at unless the org is read.
  rw [Identity.ofFields]
  by_cases org : ∃ id, fields.Names Record.org id
  · obtain ⟨org, orgNamed⟩ := org
    rw [(Id.ofFields_eq_ok_iff ..).mpr orgNamed]
    by_cases user : ∃ id, fields.Names Record.user id
    · obtain ⟨user, userNamed⟩ := user
      rw [(Id.ofFields_eq_ok_iff ..).mpr userNamed]
      exact .inr (.inr ⟨⟨org, user⟩, orgNamed, userNamed, rfl⟩)
    · have unnamed := not_exists.mp user
      rw [Id.ofFields_of_unnamed unnamed]
      exact .inr (.inl ⟨org, orgNamed, unnamed, rfl⟩)
  · have unnamed := not_exists.mp org
    rw [Id.ofFields_of_unnamed unnamed]
    exact .inl ⟨unnamed, rfl⟩

/-- Fields that hold the two numbers of an identity name it. -/
theorem Identity.ofFields_of_named {fields : Fields} {who : Identity}
    (org : fields[Record.org]? = some (Decimal.write who.org))
    (user : fields[Record.user]? = some (Decimal.write who.user)) :
    Identity.ofFields fields = .ok who := by
  have orgNamed : fields.Names Record.org who.org := ⟨_, org, Decimal.readInteger_write who.org⟩
  have userNamed : fields.Names Record.user who.user :=
    ⟨_, user, Decimal.readInteger_write who.user⟩
  rw [Identity.ofFields, (Id.ofFields_eq_ok_iff ..).mpr orgNamed,
    (Id.ofFields_eq_ok_iff ..).mpr userNamed]
  rfl

/-- The identity that has been written is read back. -/
theorem Identity.ofFields_write (fields : Fields) (who : Identity) :
    Identity.ofFields (fields.write who.fields) = .ok who := by
  have different : Record.org ≠ Record.user := by decide
  apply Identity.ofFields_of_named
  · rw [Fields.getElem?_write_identity, if_neg different, if_pos rfl]
  · rw [Fields.getElem?_write_identity, if_pos rfl]

end TenantSessions
