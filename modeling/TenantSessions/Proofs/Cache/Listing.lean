import TenantSessions.Proofs.Cache.Punctual
import TenantSessions.Proofs.Key
import TenantSessions.Registrar

/-!
Which keys a pattern lists. Whatever is listed is live and matched by the pattern, but of the live
keys that it matches some are missed: where the key holds a star that faces a star of the pattern,
the scan takes the one for the other and looks no further.
-/

namespace TenantSessions

namespace Memory

variable {memory : Memory} {pattern : String}

/-- The live keys that a pattern accepts, in their order. -/
def listing (memory : Memory) (pattern : String) : List String :=
  memory.live.keys.filter (Glob.accepts pattern)

/-- A listing that is not made to fail answers the live keys that the pattern accepts. -/
theorem answer_list (unfailing : Command.Kind.list ∉ memory.failing) (pattern : String) :
    Cache.answer (.list pattern) memory = (.ok (memory.listing pattern), memory.sweep) :=
  if_neg unfailing

/-- A key is listed exactly if it is live and the pattern scans it. -/
theorem mem_listing_iff (memory : Memory) (pattern key : String) :
    key ∈ memory.listing pattern ↔
      key ∈ memory.live ∧ Glob.Scans pattern.toList key.toList := by
  rw [listing, List.mem_filter, Std.ExtTreeMap.mem_keys, Glob.accepts_iff_scans]

/-- Keys come in strictly ascending order. -/
theorem ascending_keys (entries : Std.ExtTreeMap String Entry) :
    entries.keys.Pairwise (· < ·) := by
  -- The order in which keys are kept is the order of texts.
  have ordered := entries.ordered_keys
  exact ordered.imp fun before => compareOfLessAndEq_eq_lt.mp before

/-- A pattern that ends in its only star lists the live keys that open alike, unless a star and more
stands where the star of the pattern does. -/
theorem mem_listing_append_star_iff (memory : Memory) {opening : String}
    (plain : ∀ c ∈ opening.toList, Glob.IsPlain c) (key : String) :
    key ∈ memory.listing (opening ++ "*") ↔
      key ∈ memory.live ∧ ∃ rest, key = opening ++ rest ∧
        (rest.toList.head? = some '*' → rest = "*") := by
  rw [listing, List.mem_filter, Std.ExtTreeMap.mem_keys, Glob.accepts_append_star_iff plain]

/-- A listing that is not made to fail answers, in strictly ascending order, just the live keys that
its pattern scans. All of them match the pattern; conversely every live key without a star that
matches is listed, and a pattern that ends in its only star, as the pattern of all keys and that of
all bindings do, misses just the keys in which another star and more stand there. -/
theorem listing_exact (memory : Memory) (unfailing : Command.Kind.list ∉ memory.failing)
    (pattern : String) :
    ∃ keys left, Cache.answer (.list pattern) memory = (.ok keys, left) ∧
      keys.Pairwise (· < ·) ∧
      (∀ key, key ∈ keys ↔ key ∈ memory.live ∧ Glob.Scans pattern.toList key.toList) ∧
      (∀ key ∈ keys, Glob.Matches pattern.toList key.toList) ∧
      (∀ key, '*' ∉ key.toList →
        (key ∈ keys ↔ key ∈ memory.live ∧ Glob.Matches pattern.toList key.toList)) ∧
      ∀ opening, (∀ c ∈ opening.toList, Glob.IsPlain c) → pattern = opening ++ "*" →
        ∀ key, key ∈ keys ↔
          key ∈ memory.live ∧ ∃ rest, key = opening ++ rest ∧
            (rest.toList.head? = some '*' → rest = "*") := by
  refine ⟨memory.listing pattern, memory.sweep, answer_list unfailing pattern,
    (ascending_keys _).filter _, memory.mem_listing_iff pattern, ?_, ?_, ?_⟩
  · intro key listed
    exact ((memory.mem_listing_iff pattern key).mp listed).2.matches
  · intro key noStar
    rw [mem_listing_iff]
    -- Without a star in the key a scan is as good as the meaning of the pattern.
    have same : Glob.Scans pattern.toList key.toList ↔ Glob.Matches pattern.toList key.toList :=
      ⟨Glob.Scans.matches, fun matched => matched.scans noStar⟩
    rw [same]
  · intro opening plain ends key
    rw [ends]
    exact memory.mem_listing_append_star_iff plain key

/-- A cache in which two API tokens are bound that open with a star. -/
def starred : Memory :=
  let first := ((Registrar.new Memory.empty none).serve
    (.create ⟨7, 42⟩ "" "*" (.ofSeconds 3600))).2
  (first.serve (.create ⟨7, 43⟩ "" "*a" (.ofSeconds 3600))).2.cache

/-- Behind the mark of bindings the second of the tokens is more than a star. -/
theorem not_lone_starred :
    ¬ ∃ rest, "apiToken:*a" = "apiToken:" ++ rest ∧
      (rest.toList.head? = some '*' → rest = "*") := by
  rintro ⟨rest, parted, lone⟩
  have same : "*a" = rest := Key.apiToken_inj.mp parted
  subst same
  exact absurd (lone rfl) (by decide)

/-- Of the two bindings the pattern of all bindings lists the one whose token is a star and nothing
more. -/
theorem listing_exact_starred :
    Command.Kind.list ∉ starred.failing ∧
      ∃ keys left, Cache.answer (.list "apiToken:*") starred = (.ok keys, left) ∧
        "apiToken:*" ∈ keys ∧ "apiToken:*a" ∉ keys := by
  have unfailing : Command.Kind.list ∉ starred.failing := by decide
  obtain ⟨keys, left, answered, -, -, -, -, ends⟩ := listing_exact starred unfailing "apiToken:*"
  have plain : ∀ c ∈ "apiToken:".toList, Glob.IsPlain c := by
    simp [Glob.IsPlain]
  have listed := ends "apiToken:" plain rfl
  have there : "apiToken:*" ∈ starred.live := by
    rw [Std.ExtTreeMap.mem_iff_isSome_getElem?, getElem?_live]
    rfl
  refine ⟨unfailing, keys, left, answered, ?_, ?_⟩
  · exact (listed "apiToken:*").mpr ⟨there, "*", rfl, fun _ => rfl⟩
  · intro member
    exact not_lone_starred ((listed "apiToken:*a").mp member).2

/-- A binding whose token opens with a star is live and matched by the pattern of all bindings, and
yet it is not listed. -/
theorem listing_misses_starred :
    ¬ ∀ (memory : Memory) (pattern : String), Command.Kind.list ∉ memory.failing →
      ∀ keys left, Cache.answer (.list pattern) memory = (.ok keys, left) →
        ∀ key, key ∈ keys ↔ key ∈ memory.live ∧ Glob.Matches pattern.toList key.toList := by
  intro claimed
  have unfailing : Command.Kind.list ∉ starred.failing := by decide
  have there : "apiToken:*a" ∈ starred.live := by
    rw [Std.ExtTreeMap.mem_iff_isSome_getElem?, getElem?_live]
    rfl
  have plain : ∀ c ∈ "apiToken:".toList, Glob.IsPlain c := by
    simp [Glob.IsPlain]
  have matched : Glob.Matches "apiToken:*".toList "apiToken:*a".toList :=
    Glob.matches_append_star plain "*a".toList
  have listed := (claimed starred "apiToken:*" unfailing _ _
    (answer_list unfailing "apiToken:*") "apiToken:*a").mpr ⟨there, matched⟩
  exact not_lone_starred ((starred.mem_listing_append_star_iff plain "apiToken:*a").mp listed).2

end Memory

end TenantSessions
