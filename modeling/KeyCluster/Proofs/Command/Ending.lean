import KeyCluster.Proofs.Config.Validity
import KeyCluster.Proofs.Http.Acts
import KeyCluster.Proofs.Http.Cancellation

/-! How runs of the program end, and what they do before. -/

namespace KeyCluster

variable {σ : Type}

/-- A message says that all servers are part of one cluster. -/
def Act.IsUnion : Act → Prop
  | .logged _ entry => ∃ servers seconds, entry = Notice.united servers seconds
  | _ => False

/-- No other part of the program says so. -/
theorem Act.IsWork.not_isUnion {methods : List Text} {act : Act} (work : act.IsWork methods) :
    ¬ act.IsUnion := by
  cases act with
  | logged time entry =>
    rintro ⟨_, _, rfl⟩
    exact work rfl
  | _ => exact id

/-- The exit code tells what came of dealing with servers. -/
structure Ending.Tells (ending : Ending) (result : Except Failure Unit) : Prop where
  success : ending.code = some 0 ↔ result = .ok ()
  cluster : ending.code = some 1 ↔
    ∃ failure, result = .error failure ∧ failure.kind.isClusterFailure = true
  interrupt : ending.code = some 130 ↔ ∃ failure, result = .error failure ∧ failure.kind = .interrupt
  other : ∀ failure, ending = .escaped failure ↔ result = .error failure ∧
    failure.kind.isClusterFailure = false ∧ failure.kind ≠ .interrupt

namespace World

/-- Beginning an operation is no act. -/
theorem acts_of_begin {timeout : Value} {world begun : World σ} (begins : world.begin timeout = .ok begun) :
    begun.acts = world.acts := by
  unfold begin at begins
  split at begins <;> cases begins
  rfl

end World

namespace Run

variable {options : Options Value} {config : Config} {files : Files} {network : Network σ}
  {world after : World σ} {ending last : Ending} {notice : Entry} {result : Except Failure Unit}

/-- What comes of making the client of a configuration, and of using it for what the command line asks for. -/
inductive Serves (options : Options Value) (config : Config) (files : Files) (network : Network σ)
    (world : World σ) : Except Failure Unit → World σ → Prop
  /-- There is no such client. -/
  | unmade {failure : Failure} (failed : Client.ofSettings files config.server = .error failure) :
      Serves options config files network world (.error failure) world
  /-- The clusters of all endpoints are listed. -/
  | listing {client : Client} {endpoints : List Text} {result : Except Failure Unit} {after : World σ}
      (made : Client.ofSettings files config.server = .ok client) (asked : options.status = true)
      (named : config.server.endpoints = .texts endpoints)
      (ran : (Listing.list (client.plane network) write true (endpoints.map .text)).outcome world =
        (result, after)) :
      Serves options config files network world result after
  /-- The servers are joined. -/
  | joining {client : Client} {result : Except Failure Unit} {after : World σ}
      (made : Client.ofSettings files config.server = .ok client) (asked : options.status = false)
      (ran : (Join.join (client.plane network) config.server.endpoints true).outcome world =
        (result, after)) :
      Serves options config files network world result after

/-- How a run ends after that. -/
inductive Closes (options : Options Value) (world : World σ) : Except Failure Unit → Ending → World σ → Prop
  /-- After a listing there is nothing more to say. -/
  | listed (asked : options.status = true) : Closes options world (.ok ()) (.done 0) world
  /-- After a joining the servers are part of one cluster. -/
  | united {servers : Nat} {seconds : Float} {ending : Ending} {after : World σ}
      (asked : options.status = false)
      (closed : close (.done 0) (Notice.united servers seconds) world = (ending, after)) :
      Closes options world (.ok ()) ending after
  /-- A failure of the cluster tooling itself is told to the log. -/
  | fatal {failure : Failure} {ending : Ending} {after : World σ}
      (cluster : failure.kind.isClusterFailure = true)
      (closed : close (.done 1) (Notice.fatal failure) world = (ending, after)) :
      Closes options world (.error failure) ending after
  /-- So is an interrupt. -/
  | interrupted {failure : Failure} {ending : Ending} {after : World σ} (stopped : failure.kind = .interrupt)
      (closed : close (.done 130) Notice.interrupted world = (ending, after)) :
      Closes options world (.error failure) ending after
  /-- Nobody expects any other failure. -/
  | escaped {failure : Failure} (foreign : failure.kind.isClusterFailure = false)
      (other : failure.kind ≠ .interrupt) :
      Closes options world (.error failure) (.escaped failure) world

/-- The way of a run with an accepted configuration, once its log is set up. -/
inductive Course (options : Options Value) (config : Config) (files : Files) (network : Network σ)
    (world : World σ) : Ending → World σ → Prop
  /-- Only the configuration is checked. -/
  | checked {ending : Ending} {after : World σ} (asked : options.validate = true)
      (closed : close (.done 0) Notice.valid world = (ending, after)) :
      Course options config files network world ending after
  /-- What is given for the time that the run may take is no time. -/
  | timeless {failure : Failure} (asked : options.validate = false)
      (failed : world.begin options.timeout = .error failure) :
      Course options config files network world (.escaped failure) world
  /-- The servers are dealt with. -/
  | served {begun met after : World σ} {result : Except Failure Unit} {ending : Ending}
      (asked : options.validate = false) (begins : world.begin options.timeout = .ok begun)
      (serves : Serves options config files network begun result met)
      (closes : Closes options met result ending after) :
      Course options config files network world ending after

/-- The servers of an accepted configuration are dealt with in one of these ways. -/
theorem serves_of_valid (valid : config.IsValid)
    (ran : (serve options config files network).outcome world = (result, after)) :
    Serves options config files network world result after := by
  obtain ⟨endpoints, _, named⟩ := valid.exists_texts
  -- The endpoints are a list of texts, so walking them is no failure of its own.
  rw [serve] at ran
  -- There may be no client. If there is one, it is used for a listing or for a joining.
  split at ran
  · rename_i failure failed
    cases ran
    exact .unmade failed
  · rename_i client made
    dsimp only at ran
    split at ran
    · rename_i asked
      rw [named, Action.outcome_bind_of_ok (by rfl)] at ran
      exact .listing made asked named ran
    · rename_i asked
      exact .joining made (by simpa using asked) ran

/-- A run that deals with servers ends by what comes of that. -/
theorem closes_of_carryOut (valid : config.IsValid)
    (ran : carryOut options config files network world = (ending, after)) :
    ∃ result met, Serves options config files network world result met ∧
      Closes options met result ending after := by
  -- What the servers come to is kept apart from what is said about it.
  rcases served : (serve options config files network).outcome world with ⟨result, met⟩
  refine ⟨result, met, serves_of_valid valid served, ?_⟩
  rw [carryOut, served] at ran
  -- What is said depends on the result, and of failures on their kind.
  cases result with
  | ok done =>
    dsimp only at ran
    split at ran
    · rename_i asked
      cases ran
      exact .listed asked
    · rename_i asked
      exact .united (by simpa using asked) ran
  | error failure =>
    dsimp only at ran
    split at ran
    · rename_i cluster
      exact .fatal cluster ran
    · rename_i foreign
      split at ran
      · rename_i stopped
        exact .interrupted (by simpa using stopped) ran
      · rename_i other
        cases ran
        exact .escaped (by simpa using foreign) (by simpa using other)

/-- A run with an accepted configuration takes one of these ways. -/
theorem course_of_begin (valid : config.IsValid)
    (ran : begin options config files network world = (ending, after)) :
    Course options config files network world ending after := by
  -- A run only checks, or its time cannot be counted, or it goes on to the servers.
  rw [begin] at ran
  split at ran
  · rename_i asked
    exact .checked asked ran
  · rename_i asked
    have asked : options.validate = false := by simpa using asked
    split at ran
    · rename_i begun begins
      obtain ⟨result, met, serves, closes⟩ := closes_of_carryOut valid ran
      exact .served asked begins serves closes
    · rename_i failure failed
      cases ran
      exact .timeless asked failed

/-- The last notice is told to the log, or it cannot be told and the run ends with that failure. -/
theorem close_cases (closed : close ending notice world = (last, after)) :
    last = ending ∧ after = world.record (.logged world.timeOfDay notice) ∨
      (∃ failure, last = .escaped failure) ∧ after = world := by
  unfold close at closed
  split at closed
  -- Telling the log either succeeds, which adds the notice, or changes nothing.
  · rename_i noted
    cases closed
    rcases World.note_cases noted with ⟨_, same⟩ | ⟨⟨_, failed⟩, _⟩
    · exact .inl ⟨rfl, same⟩
    · cases failed
  · rename_i failure _ noted
    cases closed
    rcases World.note_cases noted with ⟨done, _⟩ | ⟨_, same⟩
    · cases done
    · exact .inr ⟨⟨failure, rfl⟩, same⟩

/-- No time passes meanwhile. -/
theorem timed_of_close (timed : after.Timed) (closed : close ending notice world = (last, after)) :
    world.Timed := by
  rcases close_cases closed with ⟨_, rfl⟩ | ⟨_, rfl⟩
  · exact timed
  · exact timed

/-- The notice can be told when the time can be counted. -/
theorem close_of_timed (free : notice.isFree = true) (timed : after.Timed)
    (closed : close ending notice world = (last, after)) : last = ending := by
  rw [close, World.note_of_timed free (timed_of_close timed closed)] at closed
  cases closed
  rfl

/-- A message is no request. -/
theorem sent_of_close (closed : close ending notice world = (last, after)) : after.sent = world.sent := by
  rcases close_cases closed with ⟨_, rfl⟩ | ⟨_, rfl⟩
  · simp [World.sent, World.record]
  · rfl

/-- Either the run ends as it should, or without an exit code. -/
theorem code_of_close (closed : close ending notice world = (last, after)) :
    last.code = ending.code ∨ last.code = none := by
  rcases close_cases closed with ⟨rfl, _⟩ | ⟨⟨_, rfl⟩, _⟩
  · exact .inl rfl
  · exact .inr rfl

/-- A notice without facts does not say that the servers are part of one cluster. -/
theorem acts_of_close (bare : notice.fields = []) (closed : close ending notice world = (last, after)) :
    ∃ acts, after.acts = world.acts ++ acts ∧ ∀ act ∈ acts, ¬ act.IsUnion := by
  -- The notice is the only act, and a joining is told with a field.
  rcases close_cases closed with ⟨_, rfl⟩ | ⟨_, rfl⟩
  · refine ⟨_, rfl, fun act inside => ?_⟩
    cases List.mem_singleton.mp inside
    rintro ⟨_, _, rfl⟩
    cases bare
  · exact ⟨[], by simp, by simp⟩

namespace Closes

variable {world : World σ}

/-- Ending takes no request. -/
theorem sent (closes : Closes options world result ending after) : after.sent = world.sent := by
  cases closes with
  | listed | escaped => rfl
  | united _ closed | fatal _ closed | interrupted _ closed => exact sent_of_close closed

/-- No time passes meanwhile. -/
theorem timed (timed : after.Timed) (closes : Closes options world result ending after) : world.Timed := by
  cases closes with
  | listed | escaped => exact timed
  | united _ closed | fatal _ closed | interrupted _ closed => exact timed_of_close timed closed

/-- The servers are said to be part of one cluster exactly when a joining ends well. -/
theorem acts (closes : Closes options world result ending after) :
    ∃ acts, after.acts = world.acts ++ acts ∧
      ((∃ act ∈ acts, act.IsUnion) ↔ options.status = false ∧ ending.code = some 0) := by
  cases closes with
  -- Only the notice behind a joining says so, and it is not told when its time cannot be counted.
  | listed asked => exact ⟨[], by simp, by simp [asked]⟩
  | escaped => exact ⟨[], by simp, by simp [Ending.code]⟩
  | united asked closed =>
    rcases close_cases closed with ⟨rfl, rfl⟩ | ⟨⟨_, rfl⟩, rfl⟩
    · exact ⟨_, rfl, by simp [asked, Act.IsUnion, Ending.code]⟩
    · exact ⟨[], by simp, by simp [Ending.code]⟩
  | fatal _ closed | interrupted _ closed =>
    obtain ⟨acts, same, silent⟩ := acts_of_close rfl closed
    have bad : ending.code ≠ some 0 := by
      rcases code_of_close closed with code | code
      · rw [code]
        decide
      · rw [code]
        decide
    exact ⟨acts, same, by simpa [bad] using silent⟩

/-- What came of dealing with the servers decides the exit code. -/
theorem tells (timed : after.Timed) (closes : Closes options world result ending after) :
    ending.Tells result := by
  cases closes with
  -- With a log that takes the last notice, the ending is the one that was meant.
  | listed => constructor <;> simp [Ending.code]
  | united _ closed =>
    cases close_of_timed rfl timed closed
    constructor <;> simp [Ending.code]
  | @fatal failure _ _ cluster closed =>
    cases close_of_timed rfl timed closed
    -- A failure of the tooling is not an interrupt, so the two numbers are not confused.
    have other : failure.kind ≠ .interrupt := by
      intro stopped
      rw [stopped] at cluster
      cases cluster
    constructor <;> simp [Ending.code, cluster, other]
  | interrupted stopped closed =>
    cases close_of_timed rfl timed closed
    constructor <;> simp [Ending.code, stopped, FailureKind.isClusterFailure]
  | escaped foreign other => constructor <;> simp [Ending.code, foreign, other]

end Closes

/-- The methods of the requests that a command line asks for. -/
def methods (options : Options Value) : List Text :=
  if options.status then ["GET"] else ["GET", "POST"]

/-- Dealing with servers is work with these methods. -/
theorem Serves.works (serves : Serves options config files network world result after) :
    World.Adds (Act.IsWork (methods options)) world after := by
  cases serves with
  -- A listing only asks questions, while a joining may also take in hosts.
  | unmade => exact refl_of _ world
  | listing _ asked _ ran =>
    rw [methods, if_pos asked]
    have writes (line : Text) : (write line : Action (World σ) Unit).Follows
        (World.Adds (Act.IsWork ["GET"])) :=
      fun _ => .single rfl trivial
    exact (Listing.follows_list (fun hosts => Client.works_status (by simp) _) writes _).after ran
  | joining _ asked ran =>
    rw [methods, if_neg (by simp [asked])]
    exact (Join.follows_join (Client.works_plane _ network true) _).after ran

/-- Without a client nothing is sent. -/
theorem Serves.sent_of_unmade {failure : Failure}
    (failed : Client.ofSettings files config.server = .error failure)
    (serves : Serves options config files network world result after) : after.sent = world.sent := by
  cases serves with
  | unmade => rfl
  | listing made | joining made => cases failed.symm.trans made

namespace Course

variable {world : World σ}

/-- Its requests have the methods that are asked for. -/
theorem sent (course : Course options config files network world ending after) :
    ∃ requests, after.sent = world.sent ++ requests ∧ ∀ request ∈ requests, request.method ∈ methods options := by
  -- Neither the beginning nor the end of a run sends anything.
  cases course with
  | checked _ closed => exact ⟨[], by simp [sent_of_close closed], by simp⟩
  | timeless => exact ⟨[], by simp, by simp⟩
  | served _ begins serves closes =>
    obtain ⟨requests, same, allowed⟩ := serves.works.exists_sent
    refine ⟨requests, ?_, allowed⟩
    rw [closes.sent, same, World.sent, World.acts_of_begin begins, ← World.sent]

/-- Where there is no client, there are no requests. -/
theorem sent_of_unmade {failure : Failure} (failed : Client.ofSettings files config.server = .error failure)
    (course : Course options config files network world ending after) : after.sent = world.sent := by
  cases course with
  | checked _ closed => exact sent_of_close closed
  | timeless => rfl
  | served _ begins serves closes =>
    rw [closes.sent, serves.sent_of_unmade failed, World.sent, World.acts_of_begin begins, ← World.sent]

/-- The servers are said to be part of one cluster exactly when a joining ends well. -/
theorem acts (course : Course options config files network world ending after) :
    ∃ acts, after.acts = world.acts ++ acts ∧
      ((∃ act ∈ acts, act.IsUnion) ↔
        options.validate = false ∧ options.status = false ∧ ending.code = some 0) := by
  -- What is told in the end is told last, so the acts of dealing with the servers come before it.
  cases course with
  | checked asked closed =>
    obtain ⟨acts, same, silent⟩ := acts_of_close rfl closed
    exact ⟨acts, same, by simpa [asked] using silent⟩
  | timeless => exact ⟨[], by simp, by simp [Ending.code]⟩
  | served asked begins serves closes =>
    obtain ⟨worked, same, work⟩ := serves.works
    obtain ⟨acts, closing, told⟩ := closes.acts
    refine ⟨worked ++ acts, by rw [closing, same, World.acts_of_begin begins, List.append_assoc], ?_⟩
    -- While servers are dealt with, nothing is said about the run as a whole.
    have silent : ¬ ∃ act ∈ worked, act.IsUnion := fun ⟨act, inside, union⟩ =>
      (work act inside).not_isUnion union
    simp only [List.mem_append, or_and_right, exists_or, told, silent, asked, false_or, true_and]

/-- A check ends well, and takes no request. -/
theorem of_validate (asked : options.validate = true)
    (course : Course options config files network world ending after) :
    (after.Timed → ending.code = some 0) ∧ after.sent = world.sent := by
  -- No other course is open to a run that only checks.
  cases course with
  | checked _ closed =>
    refine ⟨fun timed => ?_, sent_of_close closed⟩
    rw [close_of_timed rfl timed closed]
    rfl
  | timeless other | served other => cases asked.symm.trans other

/-- Where there is no time for the run, it ends with that failure. -/
theorem of_begin_error {failure : Failure} (asked : options.validate = false)
    (failed : world.begin options.timeout = .error failure)
    (course : Course options config files network world ending after) :
    ending = .escaped failure ∧ after.sent = world.sent := by
  -- Times that cannot be counted end the run before the servers are met.
  cases course with
  | checked other => cases asked.symm.trans other
  | timeless _ same =>
    cases failed.symm.trans same
    exact ⟨rfl, rfl⟩
  | served _ begins => cases failed.symm.trans begins

/-- Where there is, the servers are dealt with. -/
theorem of_begin_ok {begun : World σ} (asked : options.validate = false)
    (begins : world.begin options.timeout = .ok begun)
    (course : Course options config files network world ending after) :
    ∃ result met, Serves options config files network begun result met ∧ after.sent = met.sent ∧
      (after.Timed → met.Timed ∧ ending.Tells result) := by
  -- As above, but now the time is counted, so the servers are met.
  cases course with
  | checked other => cases asked.symm.trans other
  | timeless _ failed => cases failed.symm.trans begins
  | served _ same serves closes =>
    cases begins.symm.trans same
    exact ⟨_, _, serves, closes.sent, fun timed => ⟨closes.timed timed, closes.tells timed⟩⟩

end Course

variable {environment : Environment} {run : Run σ}

/-- A run ends without a usable configuration, or without a log, or it takes one of the ways of a run that has
both. -/
theorem perform_cases (ran : perform options files environment network world = run) :
    (∃ failure, Config.load files environment options.config = .error failure ∧
        run = { ending := if failure.kind == .config then .rejected failure else .escaped failure, world }) ∨
      (∃ config failure, Config.load files environment options.config = .ok config ∧
        LogSetup.ofSettings config.logging = .error failure ∧ run = { ending := .escaped failure, world }) ∨
      ∃ config log, Config.load files environment options.config = .ok config ∧
        LogSetup.ofSettings config.logging = .ok log ∧
        Course options config files network { world with hears := log.lets } run.ending run.world := by
  rw [perform] at ran
  split at ran
  · rename_i failure failed
    -- The three ways part where the configuration is accepted, and then where the log is set up.
    exact .inl ⟨failure, failed, ran.symm⟩
  · rename_i config loaded
    right
    split at ran
    · rename_i failure failed
      exact .inl ⟨config, failure, loaded, failed, ran.symm⟩
    · rename_i log logged
      right
      cases ran
      exact ⟨config, log, loaded, logged, course_of_begin (Config.load_valid loaded) rfl⟩

/-- What a run that only checks the configuration does depends on nothing else. -/
theorem perform_of_validate {log : LogSetup} (asked : options.validate = true)
    (loaded : Config.load files environment options.config = .ok config)
    (logged : LogSetup.ofSettings config.logging = .ok log) :
    perform options files environment network world =
      let (ending, after) := close (.done 0) Notice.valid { world with hears := log.lets }
      { ending, log, world := after } := by
  simp only [perform, loaded, logged, begin, asked, if_true]

/--
How a run ends that a usable command line asks for, and what it does before, whatever files, environment and
servers there are.

* A configuration that is reported as not accepted ends the run with the exit code one, before anything is
  done.
* If only the configuration is to be checked, and it is accepted and its log can be set up, the exit code is
  zero. No request is sent, and the run would be the same with any other servers and files in which this
  configuration is found; so no client is made.
* Otherwise servers are dealt with. What comes of that decides the exit code: zero for success, one for a
  failure of the cluster tooling itself, 130 for an interrupt, and none for any other failure, which escapes.
* If clusters are only listed, no request asks to take in a host.
* If there is no client for the configuration, no request is sent.
* It is told that all servers are part of one cluster exactly when a joining ends with the exit code zero.

The clock has to show a time that the log can count.
-/
theorem ofArguments_ends {arguments : List Text} (read : Options.read arguments = .ok options)
    (files : Files) (environment : Environment) (network : Network σ) (world : World σ)
    (ran : ofArguments arguments files environment network world = run) :
    ∃ acts, run.world.acts = world.acts ++ acts ∧
      (∀ failure, Config.load files environment options.config = .error failure → failure.kind = .config →
        run.ending.code = some 1 ∧ acts = [] ∧ run.output = world.acts.flatMap shown) ∧
      (∀ config log, Config.load files environment options.config = .ok config →
        LogSetup.ofSettings config.logging = .ok log →
        (options.validate = true →
          (run.world.Timed → run.ending.code = some 0) ∧ run.world.sent = world.sent ∧
            ∀ others place elsewhere, Config.load others place options.config = .ok config →
              ofArguments arguments others place elsewhere world = run) ∧
        (options.validate = false →
          (∀ failure, ({ world with hears := log.lets } : World σ).begin options.timeout = .error failure →
            run.ending = .escaped failure ∧ run.world.sent = world.sent) ∧
          ∀ begun, ({ world with hears := log.lets } : World σ).begin options.timeout = .ok begun →
            ∃ result met, Serves options config files network begun result met ∧
              run.world.sent = met.sent ∧ (run.world.Timed → run.ending.Tells result))) ∧
      (options.status = true →
        ∃ requests, run.world.sent = world.sent ++ requests ∧ ∀ request ∈ requests, request.method = "GET") ∧
      (∀ config failure, Config.load files environment options.config = .ok config →
        Client.ofSettings files config.server = .error failure → run.world.sent = world.sent) ∧
      ((∃ act ∈ acts, act.IsUnion) ↔
        options.validate = false ∧ options.status = false ∧ run.ending.code = some 0) := by
  -- The command line is read, so the run is that of what it asks for.
  have performed : perform options files environment network world = run := by
    rw [← ran, ofArguments, read]
  rcases perform_cases performed with ⟨failure, failed, rfl⟩ | ⟨config, failure, loaded, failed, rfl⟩ |
    ⟨config, log, loaded, logged, course⟩
  · -- Without a configuration nothing is done.
    refine ⟨[], by simp, ?_, ?_, fun _ => ⟨[], by simp, by simp⟩, ?_, ?_⟩
    · rintro other same reported
      cases failed.symm.trans same
      simp [reported, Ending.code, output]
    · rintro _ _ loaded
      cases failed.symm.trans loaded
    · rintro _ _ loaded
      cases failed.symm.trans loaded
    · split <;> simp [Ending.code]
  · -- Nor is anything done without a log.
    refine ⟨[], by simp, ?_, ?_, fun _ => ⟨[], by simp, by simp⟩, by simp, by simp [Ending.code]⟩
    · rintro _ other
      cases loaded.symm.trans other
    · rintro _ _ same logged
      cases loaded.symm.trans same
      cases failed.symm.trans logged
  · -- With a configuration and a log the course of the run says everything.
    obtain ⟨acts, same, told⟩ := course.acts
    refine ⟨acts, same, ?_, ?_, ?_, ?_, told⟩
    · rintro _ other
      cases loaded.symm.trans other
    · intro _ _ again once
      cases loaded.symm.trans again
      cases logged.symm.trans once
      refine ⟨fun asked => ?_, fun asked => ⟨fun failure failed => ?_, fun begun begins => ?_⟩⟩
      · obtain ⟨code, sent⟩ := course.of_validate asked
        refine ⟨code, sent, fun others place elsewhere found => ?_⟩
        rw [ofArguments, read, ← performed]
        exact (perform_of_validate asked found logged).trans (perform_of_validate asked loaded logged).symm
      · obtain ⟨escaped, sent⟩ := course.of_begin_error asked failed
        exact ⟨escaped, sent⟩
      · obtain ⟨result, met, serves, sent, tells⟩ := course.of_begin_ok asked begins
        exact ⟨result, met, serves, sent, fun timed => (tells timed).2⟩
    · intro asked
      obtain ⟨requests, sent, allowed⟩ := course.sent
      refine ⟨requests, sent, fun request inside => ?_⟩
      simpa [methods, asked] using allowed request inside
    · rintro _ _ again failed
      cases loaded.symm.trans again
      have sent := course.sent_of_unmade failed
      exact sent

/-- Servers that answer every request with an error. -/
def refusing : Network Unit where
  answer _ _ := ({ advance := 0, cancels := false, outcome := .ok { status := 500, body := "" } }, ())

/-- The world before a run. -/
def fresh : World Unit where
  clock := { start := 0, epoch := 0 }
  servers := ()

/-- A run of the program with two servers that answer with errors. -/
def refused : Run Unit :=
  ofArguments ["-c", "kms.yaml"] (Config.onlyFile Config.pairContent) (.ofList []) refusing fresh

/-- The first error ends the run. -/
theorem refused_ends : refused.ending.code = some 1 ∧
    refused.world.sent.map Request.method = (["GET"] : List Text) ∧ refused.world.Timed := by
  have read : Options.read ["-c", "kms.yaml"] = .ok { config := .text "kms.yaml" } := rfl
  -- The configuration is read apart from the rest, which is only computed.
  rw [refused, ofArguments, read]
  simp only [perform, Config.load_pair]
  exact ⟨rfl, rfl, fun _ _ _ => ⟨_, rfl⟩⟩

/-- The error is a failure of the cluster tooling itself, and nobody says that the servers are part of one
cluster. -/
theorem ofArguments_ends_refused : refused.ending.code = some 1 ∧
    (∃ begun result met, Serves { config := .text "kms.yaml" } (Config.pairOf 5)
        (Config.onlyFile Config.pairContent) refusing begun result met ∧
      ∃ failure, result = .error failure ∧ failure.kind.isClusterFailure = true) ∧
    ¬ ∃ act ∈ refused.world.acts, act.IsUnion := by
  obtain ⟨code, _, timed⟩ := refused_ends
  have read : Options.read ["-c", "kms.yaml"] = .ok { config := .text "kms.yaml" } := rfl
  -- The configuration is read and the log is set up, so the run comes to the servers, which refuse.
  obtain ⟨acts, same, _, ends, _, _, told⟩ := ofArguments_ends read (Config.onlyFile Config.pairContent)
    (.ofList []) refusing fresh (rfl : _ = refused)
  obtain ⟨result, met, serves, _, tells⟩ := (ends _ _ Config.load_pair rfl).2 rfl |>.2 _ rfl
  refine ⟨code, ⟨_, result, met, serves, (tells timed).cluster.mp code⟩, ?_⟩
  rw [same, show fresh.acts = [] from rfl, List.nil_append, told, code]
  simp

end Run

end KeyCluster
