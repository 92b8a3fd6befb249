import KeyCluster.Proofs.Failure.Result
import KeyCluster.Proofs.Http.Wire

/-! Which bodies of status answers are reported as malformed, and which fail in another way. -/

namespace KeyCluster

/-- Only an infinity is too large to be an integer. -/
theorem Value.toInteger_eq_overflow {v : Value} {fault : ValueFault} (failed : v.toInteger = .error fault)
    (large : fault.kind = .overflow) :
    fault = .infiniteInteger ∧ ∃ x negative, v = .float x ∧ Double.view x = .infinite negative := by
  -- Texts can be malformed or too long, which is something else.
  have ofText : ∀ {text literal}, Value.integerOfText 10 text literal = .error fault → False := by
    intro text literal failed
    unfold Value.integerOfText at failed
    split at failed <;> cases failed <;> cases large
  cases v with
  | float x =>
    rw [toInteger] at failed
    split at failed <;> cases failed
    · cases large
    · rename_i negative seen
      exact ⟨rfl, x, negative, rfl, seen⟩
  | text s => exact absurd failed ofText
  | bytes data => exact absurd failed ofText
  | bool _ | int _ => cases failed
  | _ =>
    cases failed
    cases large

namespace Report

/-- An entry that numbers its member by an infinity. -/
def IsEndless (entry : Value) : Prop :=
  ∃ fields x negative, entry = .map fields ∧ Value.field? "id" fields = some (.float x) ∧
    Double.view x = .infinite negative

/-- The members of a body are read up to one that is numbered by an infinity. -/
def Overflows (body : Value) : Prop :=
  ∃ entries front entry rest, body = .map entries ∧
    optionalParts (Value.field? "nodes_up" entries) = .ok (front ++ entry :: rest) ∧
    (∀ other ∈ front, ∃ node, nodeOf other = .ok node) ∧ IsEndless entry

variable {fault : ValueFault}

/-- What is asked for an entry and is no mapping lacks a member. -/
theorem ask_eq_error {name : Text} {v : Value} (failed : ask name v = .error fault) :
    fault.kind = .noMember := by
  cases v <;> cases failed <;> rfl

/-- Only mappings can be asked for an entry. -/
theorem ask_eq_ok {name : Text} {v : Value} {found : Option Value} :
    ask name v = .ok found ↔ ∃ entries, v = .map entries ∧ Value.field? name entries = found := by
  cases v <;> simp [ask]

/-- What has no parts has the wrong shape. -/
theorem optionalParts_eq_error {value : Option Value} (failed : optionalParts value = .error fault) :
    fault.kind = .wrongShape := by
  -- There is one way to fail: a value that is neither left out nor null and has no parts.
  unfold optionalParts at failed
  split at failed
  · split at failed
    · rename_i v _
      cases v <;> cases failed <;> rfl
    · cases failed
  · cases failed

/-- An entry that numbers its member by an infinity is no member. -/
theorem nodeOf_of_isEndless {entry : Value} (endless : IsEndless entry) :
    nodeOf entry = .error .infiniteInteger := by
  obtain ⟨fields, x, negative, rfl, numbered, seen⟩ := endless
  refine Result.bind_eq_error.mpr (.inr ⟨_, ask_eq_ok.mpr ⟨fields, rfl, numbered⟩, ?_⟩)
  refine Result.bind_eq_error.mpr (.inl ?_)
  rw [Option.getD_some, Value.toInteger, seen]

/-- No other entry holds a number that is too large. -/
theorem isEndless_of_nodeOf {entry : Value} (failed : nodeOf entry = .error fault)
    (large : fault.kind = .overflow) : IsEndless entry := by
  -- A member is read in three steps, and only the number can be too large.
  rcases Result.bind_eq_error.mp failed with failed | ⟨found, asked, failed⟩
  · rw [ask_eq_error failed] at large
    cases large
  obtain ⟨fields, rfl, numbered⟩ := ask_eq_ok.mp asked
  rcases Result.bind_eq_error.mp failed with failed | ⟨_, _, failed⟩
  · obtain ⟨_, x, negative, isFloat, seen⟩ := Value.toInteger_eq_overflow failed large
    -- A member without a number has the number zero, so there is one.
    cases found with
    | none => cases isFloat
    | some v =>
      cases isFloat
      exact ⟨fields, x, negative, rfl, numbered, seen⟩
  · rcases Result.bind_eq_error.mp failed with failed | ⟨host, _, failed⟩
    · rw [ask_eq_error failed] at large
      cases large
    · cases host with
      | none =>
        cases failed
        cases large
      | some v => cases failed

/-- A body whose members are read up to one that is numbered by an infinity is no report. -/
theorem ofValue_of_overflows {body : Value} (overflows : Overflows body) :
    ofValue body = .error .infiniteInteger := by
  obtain ⟨entries, front, entry, rest, rfl, parts, fine, endless⟩ := overflows
  refine Result.bind_eq_error.mpr (.inr ⟨_, rfl, Result.bind_eq_error.mpr (.inr ⟨_, parts, ?_⟩)⟩)
  refine Result.bind_eq_error.mpr (.inl (Result.mapM_eq_error.mpr ?_))
  exact ⟨front, entry, rest, rfl, fine, nodeOf_of_isEndless endless⟩

/-- No other body holds a number that is too large. -/
theorem overflows_of_ofValue {body : Value} (failed : ofValue body = .error fault)
    (large : fault.kind = .overflow) : Overflows body := by
  -- The body is read step by step, and each step but one fails with something else.
  rcases Result.bind_eq_error.mp failed with failed | ⟨up, asked, failed⟩
  · rw [ask_eq_error failed] at large
    cases large
  obtain ⟨entries, rfl, rfl⟩ := ask_eq_ok.mp asked
  rcases Result.bind_eq_error.mp failed with failed | ⟨parts, listed, failed⟩
  · rw [optionalParts_eq_error failed] at large
    cases large
  rcases Result.bind_eq_error.mp failed with failed | ⟨_, _, failed⟩
  · obtain ⟨front, entry, rest, rfl, fine, failed⟩ := Result.mapM_eq_error.mp failed
    exact ⟨entries, front, entry, rest, rfl, listed, fine, isEndless_of_nodeOf failed large⟩
  -- The members that are down have no numbers.
  rcases Result.bind_eq_error.mp failed with failed | ⟨_, _, failed⟩
  · rw [ask_eq_error failed] at large
    cases large
  rw [optionalParts_eq_error (Result.bind_pure_eq_error.mp failed)] at large
  cases large

end Report

namespace Client

/-- How the body of an answer fails in another way than by being malformed. -/
inductive Escapes (body : Text) : Failure → Prop
  /-- Values are nested too deeply to be read. -/
  | nested {container : Json.Container} (deep : Json.read body.chars = .error (.tooDeep container)) :
      Escapes body (.tooDeepBody container)
  /-- A member is numbered by an infinity. -/
  | endless {value : Value} (read : Json.read body.chars = .ok value) (overflows : Report.Overflows value) :
      Escapes body (.value .infiniteInteger)

/-- A body that escapes fails so. -/
theorem Escapes.reportOf_eq {response : Response} {failure : Failure}
    (escapes : Escapes response.body failure) : reportOf response = .error failure := by
  unfold reportOf
  -- Either reading fails with its own failure, or the report is refused for a number.
  cases escapes with
  | nested deep => rw [deep]
  | endless read overflows =>
    simp only [read, Report.ofValue_of_overflows overflows]
    rfl

/-- A body that is no report is malformed, or it escapes. -/
theorem reportOf_eq_error {response : Response} {failure : Failure}
    (failed : reportOf response = .error failure) :
    (∃ fault, failure = .api (.malformed response.status response.body fault)) ∨
      Escapes response.body failure := by
  -- Reading the text and making a report of its value are the two steps that can fail.
  unfold reportOf at failed
  split at failed
  · rename_i deep
    cases failed
    exact .inr (.nested deep)
  · cases failed
    exact .inl ⟨_, rfl⟩
  · rename_i value read
    split at failed
    · cases failed
    · rename_i fault unreadable
      cases large : isMalformed fault with
      | true =>
        rw [if_pos large] at failed
        cases failed
        exact .inl ⟨_, rfl⟩
      | false =>
        rw [if_neg (by simp [large])] at failed
        cases failed
        have overflows := Report.overflows_of_ofValue unreadable (by simpa [isMalformed] using large)
        cases unreadable.symm.trans (Report.ofValue_of_overflows overflows)
        exact .inr (.endless read overflows)

variable {σ : Type} {network : Network σ} {watched : Bool} {world after : World σ} {response : Response}

/--
How a question for the status ends that is answered without an error.

The answer is a report, or there is a failure to talk to the server that names the status and the body of the
answer, unless the body escapes. Then the question fails in another way.
-/
theorem status_contains (client : Client) {hosts : Value}
    (answered : (client.ask network "GET" statusPath none hosts watched).outcome world =
      (.ok response, after)) :
    (((∃ report, (client.status network hosts watched).outcome world = (.ok report, after)) ∨
        ∃ failure, (client.status network hosts watched).outcome world = (.error failure, after) ∧
          failure.kind = .api ∧ failure.details.status = some response.status ∧
          failure.details.body = some response.body) ↔
      ∀ failure, ¬ Escapes response.body failure) ∧
      ∀ failure, Escapes response.body failure →
        (client.status network hosts watched).outcome world = (.error failure, after) := by
  rw [outcome_status answered]
  refine ⟨⟨?_, fun staying => ?_⟩, fun failure escapes => by rw [escapes.reportOf_eq]⟩
  · rintro contained failure escapes
    rw [escapes.reportOf_eq] at contained
    -- What escapes is no failure to talk to the server.
    rcases contained with ⟨_, reported⟩ | ⟨_, same, kind, _⟩
    · cases reported
    · cases same
      cases escapes <;> cases kind
  · -- In the other direction every failure is one of the two kinds.
    cases read : reportOf response with
    | ok report => exact .inl ⟨report, rfl⟩
    | error failure =>
      rcases reportOf_eq_error read with ⟨fault, rfl⟩ | escapes
      · exact .inr ⟨_, rfl, rfl, rfl, rfl⟩
      · exact absurd escapes (staying failure)

/-- A report of two servers does not escape. -/
theorem status_contains_pair : (∀ failure, ¬ Escapes Network.pairBody failure) ∧
    ((bare.status (Network.pair 0) (.texts ["b"]) false).outcome (World.silent 0)).1 =
      .ok { up := [], down := [.text "b", .text "a"] } := by
  have answered : (bare.ask (Network.pair 0) "GET" statusPath none (.texts ["b"]) false).outcome
      (World.silent 0) = (.ok { status := 200, body := Network.pairBody }, _) := rfl
  have reported : ((bare.status (Network.pair 0) (.texts ["b"]) false).outcome (World.silent 0)).1 =
      .ok { up := [], down := [.text "b", .text "a"] } := by
    rw [outcome_status answered, Network.report_pairBody]
  exact ⟨(status_contains bare answered).1.mp (.inl ⟨_, Prod.ext reported (by rw [outcome_status answered])⟩),
    reported⟩

/-- The body of a report with a member that is numbered by an infinity. -/
def endlessBody : Text :=
  "\x7b\"nodes_up\": [\x7b\"id\": Infinity, \"host\": \"a\"\x7d]\x7d"

/-- A server that answers with this body. -/
def endlessNetwork : Network Unit where
  answer _ _ := ({ advance := 0, cancels := false, outcome := .ok { status := 200, body := endlessBody } }, ())

/-- Whether reading a report stops at an infinity. -/
def stopsEndless : Except Failure Report → Bool
  | .error (.value .infiniteInteger) => true
  | _ => false

/-- Only one failure does so. -/
theorem eq_of_stopsEndless {result : Except Failure Report} (stops : stopsEndless result = true) :
    result = .error (.value .infiniteInteger) := by
  unfold stopsEndless at stops
  split at stops
  · rfl
  · cases stops

/-- The body is read up to the infinity. -/
theorem reportOf_endlessBody :
    reportOf { status := 200, body := endlessBody } = .error (.value .infiniteInteger) :=
  -- Reports cannot be compared, but where their reading stops can be computed.
  eq_of_stopsEndless (by decide +kernel)

/-- The infinity is passed on as a failure of its own. -/
theorem status_endless : ∃ after,
    (bare.ask endlessNetwork "GET" statusPath none (.texts ["a"]) false).outcome (World.silent 0) =
        (.ok { status := 200, body := endlessBody }, after) ∧
      (bare.status endlessNetwork (.texts ["a"]) false).outcome (World.silent 0) =
        (.error (.value .infiniteInteger), after) ∧
      (Failure.value .infiniteInteger).kind = .overflow := by
  have answered : (bare.ask endlessNetwork "GET" statusPath none (.texts ["a"]) false).outcome
      (World.silent 0) = (.ok { status := 200, body := endlessBody }, _) := rfl
  exact ⟨_, answered, by rw [outcome_status answered, reportOf_endlessBody], rfl⟩

end Client

end KeyCluster
