import TenantSessions.CommandLine.Tool
import TenantSessions.Proofs.Log.Filter
import TenantSessions.Proofs.Settings

/-!
How the tool ends when it is called with an order. It asks one request of a registrar and adds
nothing to it: what is sent is what the registrar sends, and the status tells whether the request
was answered. Before that it may fail or stop, and then nothing has been sent.
-/

namespace TenantSessions.CommandLine

/-- The request that an order stands for under given settings. For whom it is stays as ordered, and
a session lives for the seconds that the order names, or else for those of the settings. -/
inductive Order.Asks (settings : Settings) : Order → Request → Prop where
  | create (org user : Id) (bearer apiToken : String) :
      Asks settings (.create ⟨org, user⟩ bearer apiToken none)
        (.create ⟨org, user⟩ bearer apiToken (.ofSeconds settings.sessionSeconds))
  | createFor (org user : Id) (bearer apiToken : String) (seconds : UInt64) :
      Asks settings (.create ⟨org, user⟩ bearer apiToken (some seconds))
        (.create ⟨org, user⟩ bearer apiToken (.ofSeconds seconds))
  | checkBearer (org user : Id) (bearer : String) :
      Asks settings (.checkBearer ⟨org, user⟩ bearer) (.checkBearer ⟨org, user⟩ bearer)
  | resolve (apiToken : String) : Asks settings (.resolve apiToken) (.resolve apiToken)
  | revoke (org user : Id) : Asks settings (.revoke ⟨org, user⟩) (.revoke ⟨org, user⟩)
  | revokeOrg (org : Id) : Asks settings (.revokeOrg org) (.revokeOrg org)

/-- The registrar of the tool: over a link, with bindings that live for the seconds of the settings.
-/
def registrar (settings : Settings) (link : Link) : Registrar Link :=
  .new link (some (.ofSeconds settings.bindingSeconds))

/-- How the tool ends when it is called with an order: its status, and what has been sent. -/
inductive Concludes (environment : Environment) (order : Order) (connect : Address → Link) :
    Nat → List Command → Prop where
  /-- The rules of the log filter cannot be cut apart, which stops the tool before anything else. -/
  | muddled (unread : logFilter? environment = none) : Concludes environment order connect 101 []
  /-- Nor is it reported that there are too many hours. -/
  | overlong {filter : LogFilter} (filtered : logFilter? environment = some filter)
      (stopped : Settings.load environment = .error .hoursOverflow) :
      Concludes environment order connect 101 []
  | unset {filter : LogFilter} {flaw : Settings.Flaw}
      (filtered : logFilter? environment = some filter)
      (flawed : Settings.load environment = .error flaw) (reported : flaw ≠ .hoursOverflow) :
      Concludes environment order connect 1 []
  | unopened {filter : LogFilter} {settings : Settings} {flaw : Address.Flaw}
      (filtered : logFilter? environment = some filter)
      (loaded : Settings.load environment = .ok settings)
      (flawed : Address.read settings.address = .error flaw) :
      Concludes environment order connect 1 []
  | served {filter : LogFilter} {settings : Settings} {address : Address} {request : Request}
      {answer : request.Answer} (filtered : logFilter? environment = some filter)
      (loaded : Settings.load environment = .ok settings)
      (opened : Address.read settings.address = .ok address) (asked : order.Asks settings request)
      (answered : ((registrar settings (connect address)).serve request).1 = .ok answer) :
      Concludes environment order connect 0
        ((registrar settings (connect address)).serve request).2.cache.sent
  | failed {filter : LogFilter} {settings : Settings} {address : Address} {request : Request}
      {failure : Failure} (filtered : logFilter? environment = some filter)
      (loaded : Settings.load environment = .ok settings)
      (opened : Address.read settings.address = .ok address) (asked : order.Asks settings request)
      (refused : ((registrar settings (connect address)).serve request).1 = .error failure) :
      Concludes environment order connect 1
        ((registrar settings (connect address)).serve request).2.cache.sent

variable {environment : Environment} {arguments : List String} {order : Order}
  {settings : Settings} {request : Request} {connect : Address → Link} {filter : LogFilter}
  {link : Link}

/-- An order stands for just the request that the tool makes of it. -/
theorem Order.asks_iff : order.Asks settings request ↔ request = order.request settings := by
  constructor
  · intro asked
    cases asked <;> rfl
  · rintro rfl
    cases order with
    | create who bearer apiToken seconds =>
      cases seconds with
      | none => exact .create ..
      | some seconds => exact .createFor ..
    | checkBearer who bearer => exact .checkBearer ..
    | resolve apiToken => exact .resolve ..
    | revoke who => exact .revoke ..
    | revokeOrg org => exact .revokeOrg ..

/-- An order sends what its request does. -/
theorem serve_sent : (serve filter settings order link).sent =
    ((registrar settings link).serve (order.request settings)).2.cache.sent :=
  rfl

/-- An order has the status of success exactly if its request is answered. -/
theorem serve_status : (serve filter settings order link).status =
    match ((registrar settings link).serve (order.request settings)).1 with
    | .ok _ => 0
    | .error _ => 1 := by
  unfold serve registrar Settings.bindingLife
  dsimp only
  split <;> rename_i result <;> simp only [result, shown, succeeded, failed]

/-- Serving an order is how the tool ends once it knows its settings and the address. -/
theorem Concludes.of_serve {address : Address} (filtered : logFilter? environment = some filter)
    (loaded : Settings.load environment = .ok settings)
    (opened : Address.read settings.address = .ok address) :
    Concludes environment order connect (serve filter settings order (connect address)).status
      (serve filter settings order (connect address)).sent := by
  rw [serve_sent, serve_status]
  have asked : order.Asks settings (order.request settings) := Order.asks_iff.mpr rfl
  cases result : ((registrar settings (connect address)).serve (order.request settings)).1 with
  | ok answer => exact .served filtered loaded opened asked result
  | error failure => exact .failed filtered loaded opened asked result

/-- Without a log filter the tool stops, whatever it is called with. -/
theorem run_eq_halted (unread : logFilter? environment = none) :
    run environment arguments connect = halted := by
  rw [run, unread]

/-- An order that is parsed is performed under the log filter. -/
theorem run_eq_perform (parsed : readArguments arguments = .ok (.order order))
    (filtered : logFilter? environment = some filter) :
    run environment arguments connect = perform environment filter order connect := by
  rw [run, filtered]
  simp only [parsed]

/-- With its settings and an address, the tool serves its order. -/
theorem perform_eq_serve {address : Address} (loaded : Settings.load environment = .ok settings)
    (opened : Address.read settings.address = .ok address) :
    perform environment filter order connect = serve filter settings order (connect address) := by
  rw [perform, loaded]
  simp only [opened]

/-- The tool ends in one of the ways that are written down. -/
theorem concludes_run (parsed : readArguments arguments = .ok (.order order)) :
    Concludes environment order connect (run environment arguments connect).status
      (run environment arguments connect).sent := by
  -- Each stage is looked at in turn: the filter, the settings, the address, and the request.
  cases filtered : logFilter? environment with
  | none =>
    rw [run_eq_halted filtered]
    exact .muddled filtered
  | some filter =>
    rw [run_eq_perform parsed filtered]
    cases loaded : Settings.load environment with
    | error flaw =>
      rw [perform, loaded]
      cases flaw with
      | hoursOverflow => exact .overlong filtered loaded
      | addressMissing => exact .unset filtered loaded nofun
      | addressNotText raw => exact .unset filtered loaded nofun
    | ok settings =>
      cases opened : Address.read settings.address with
      | error flaw =>
        rw [perform, loaded]
        simp only [opened]
        exact .unopened filtered loaded opened
      | ok address =>
        rw [perform_eq_serve loaded opened]
        exact .of_serve filtered loaded opened

/-- Whatever is written down as an end of the tool is how it ends. -/
theorem Concludes.run_eq {status : Nat} {sent : List Command}
    (parsed : readArguments arguments = .ok (.order order))
    (concludes : Concludes environment order connect status sent) :
    (run environment arguments connect).status = status ∧
      (run environment arguments connect).sent = sent := by
  cases concludes with
  | muddled unread =>
    rw [run_eq_halted unread]
    exact ⟨rfl, rfl⟩
  | overlong filtered stopped =>
    rw [run_eq_perform parsed filtered, perform, stopped]
    exact ⟨rfl, rfl⟩
  | @unset filter flaw filtered flawed reported =>
    rw [run_eq_perform parsed filtered, perform, flawed]
    -- Only too many hours would stop the tool here.
    cases flaw with
    | hoursOverflow => exact absurd rfl reported
    | addressMissing => exact ⟨rfl, rfl⟩
    | addressNotText raw => exact ⟨rfl, rfl⟩
  | unopened filtered loaded flawed =>
    rw [run_eq_perform parsed filtered, perform, loaded]
    simp only [flawed]
    exact ⟨rfl, rfl⟩
  | served filtered loaded opened asked answered =>
    cases Order.asks_iff.mp asked
    rw [run_eq_perform parsed filtered, perform_eq_serve loaded opened, serve_sent, serve_status,
      answered]
    exact ⟨rfl, rfl⟩
  | failed filtered loaded opened asked refused =>
    cases Order.asks_iff.mp asked
    rw [run_eq_perform parsed filtered, perform_eq_serve loaded opened, serve_sent, serve_status,
      refused]
    exact ⟨rfl, rfl⟩

/-- The log filter of an environment cannot be read only if its variable holds a text in which a
rule opens with a blank. -/
theorem exists_blank_of_unread (unread : logFilter? environment = none) :
    ∃ text : String, environment.logFilter = some text.toUTF8 ∧
      ∃ part ∈ text.toList.splitOn ',', ∃ c ∈ part.head?, Text.isBlank c = true := by
  unfold logFilter? at unread
  cases named : environment.logFilter.bind String.fromUTF8? with
  | none =>
    rw [named] at unread
    -- The rule that stands in for the variable can be read.
    have read : (LogFilter.read "info").isSome := by decide +kernel
    rw [Option.getD_none] at unread
    rw [unread] at read
    cases read
  | some text =>
    rw [named] at unread
    exact ⟨text, Settings.bind_fromUTF8?_eq_some_iff.mp named,
      LogFilter.opens_of_read_eq_none unread⟩

/-- An order ends the tool exactly as is written down: what it sends is what a registrar sends that
is asked the one request it stands for, and its status is zero exactly if that is answered. If the
tool does not get so far then nothing is sent; and a log filter stops it only by a rule that opens
with a blank. -/
theorem run_exact (parsed : readArguments arguments = .ok (.order order))
    (connect : Address → Link) :
    (∀ status sent,
      (run environment arguments connect).status = status ∧
          (run environment arguments connect).sent = sent ↔
        Concludes environment order connect status sent) ∧
      (logFilter? environment = none →
        ∃ text : String, environment.logFilter = some text.toUTF8 ∧
          ∃ part ∈ text.toList.splitOn ',', ∃ c ∈ part.head?, Text.isBlank c = true) := by
  refine ⟨fun status sent => ⟨?_, Concludes.run_eq parsed⟩, exists_blank_of_unread⟩
  rintro ⟨rfl, rfl⟩
  exact concludes_run parsed

/-- An environment in which sessions live for two hours and bindings for one. -/
def furnished : Environment where
  address := some "redis://127.0.0.1/".toUTF8
  sessionHours := some "2h".toUTF8
  bindingHours := some "1".toUTF8
  logFilter := none

/-- A call that creates a session of one user in one org. -/
def creating : List String :=
  ["create", "--org", "7", "--user", "42", "--jwt", "jwt", "--api-token", "api"]

/-- A server that consents to all that a creation sends. -/
def obliging : Link :=
  .ofReplies [.status "OK", .integer 1, .status "OK", .integer 1]

/-- The address of a server on the same host has no flaw. -/
theorem exists_local : ∃ address, Address.read "redis://127.0.0.1/" = .ok address := by
  have readable : (Address.read "redis://127.0.0.1/").isOk := by decide +kernel
  cases read : Address.read "redis://127.0.0.1/" with
  | ok address => exact ⟨address, rfl⟩
  | error flaw =>
    rw [read] at readable
    cases readable

/-- A creation binds its token for the one hour and keeps its session for the two, and the user and
the org stay in their places. -/
theorem run_exact_furnished :
    readArguments creating = .ok (.order (.create ⟨7, 42⟩ "jwt" "api" none)) ∧
      (run furnished creating fun _ => obliging).status = 0 ∧
      (run furnished creating fun _ => obliging).sent.map Command.words =
        [["HMSET", "apiToken:api", "org", "7", "user", "42"],
          ["PEXPIRE", "apiToken:api", "3600000"],
          ["HMSET", "session:org:7:user:42", "org", "7", "user", "42", "jwt", "jwt",
            "apiToken", "api"],
          ["PEXPIRE", "session:org:7:user:42", "7200000"]] := by
  have parsed : readArguments creating = .ok (.order (.create ⟨7, 42⟩ "jwt" "api" none)) := by
    decide +kernel
  have session : Settings.hoursOf furnished.sessionHours = 2 := by decide +kernel
  have binding : Settings.hoursOf furnished.bindingHours = 1 := by decide +kernel
  have loaded : Settings.load furnished = .ok ⟨"redis://127.0.0.1/", 7200, 3600⟩ :=
    Settings.load_eq_ok rfl session binding rfl rfl
  obtain ⟨filter, filtered⟩ : ∃ filter, logFilter? furnished = some filter :=
    Option.isSome_iff_exists.mp (by decide +kernel)
  obtain ⟨address, opened⟩ := exists_local
  obtain ⟨ends, -⟩ := run_exact parsed fun _ => obliging
  obtain ⟨status, sent⟩ := (ends _ _).mpr (.served filtered loaded opened (.create ..) rfl)
  refine ⟨parsed, status, ?_⟩
  rw [sent]
  decide +kernel

/-- An environment whose log filter opens with a blank of more than one byte, ahead of a rule for
spans that have a field. -/
def muddled : Environment where
  address := some "redis://127.0.0.1/".toUTF8
  sessionHours := none
  bindingHours := none
  logFilter := some "　[\x7borg\x7d],info".toUTF8

/-- The tool does not always do what is asked of its registrar: a blank in front of a log filter can
stop it before it sends anything, although its settings and its address have no flaw. -/
theorem run_stops_muddled :
    ¬ ∀ (environment : Environment) (arguments : List String) (order : Order)
      (settings : Settings) (address : Address) (request : Request) (connect : Address → Link),
      readArguments arguments = .ok (.order order) → Settings.load environment = .ok settings →
      Address.read settings.address = .ok address → order.Asks settings request →
      (run environment arguments connect).sent =
          ((registrar settings (connect address)).serve request).2.cache.sent ∧
        ((run environment arguments connect).status = 0 ↔
          ∃ answer, ((registrar settings (connect address)).serve request).1 = .ok answer) := by
  intro claimed
  have loaded : Settings.load muddled = .ok ⟨"redis://127.0.0.1/", 86400, 86400⟩ :=
    Settings.load_eq_ok rfl rfl rfl rfl rfl
  obtain ⟨address, opened⟩ := exists_local
  obtain ⟨-, status⟩ := claimed muddled ["revoke", "--org", "7", "--user", "42"]
    (.revoke ⟨7, 42⟩) _ address _ (fun _ => .ofReplies [.integer 1]) rfl loaded opened (.revoke ..)
  -- The registrar would have had its session deleted, but the tool stops before that.
  exact absurd (status.mpr ⟨(), rfl⟩) (by decide +kernel)

end TenantSessions.CommandLine
