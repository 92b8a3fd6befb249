import KeyCluster.Cluster.Join
import KeyCluster.Proofs.Cluster.FailStop
import KeyCluster.Proofs.Json.RoundTrip

/-! Listings are read back as the reports that they show. -/

namespace KeyCluster

/-- A member whose number has not too many digits and whose host is a text without surrogates. -/
structure Node.IsPlain (node : Node) : Prop where
  /-- The digits of the number can be written. -/
  few : (Nat.toDigits 10 node.id.natAbs).length ≤ Numeral.digitLimit
  named : ∃ host, node.host = .text host ∧ host.IsWhole

/-- A report about such members. -/
structure Report.IsPlain (report : Report) : Prop where
  up : ∀ node ∈ report.up, node.IsPlain
  down : ∀ value ∈ report.down, ∃ host, value = .text host ∧ host.IsWhole

namespace Json

variable {v : Value} {items : List Value} {fields : List (Text × Value)} {room : Nat}

/-- A list has a form where its items have one, and there is room for it. -/
theorem exists_form_list (each : ∀ item ∈ items, ∃ part, formWithin item room = .ok part) :
    ∃ text, formWithin (.list items) (room + 1) = .ok text := by
  -- A list takes one level, and its items, one by one, have what is left.
  have forms : ∃ parts, formsWithin items room = .ok parts := by
    induction items with
    | nil => exact ⟨[], rfl⟩
    | cons item items ih =>
      obtain ⟨⟨part, here⟩, behind⟩ := List.forall_mem_cons.mp each
      obtain ⟨parts, walked⟩ := ih behind
      exact ⟨part :: parts, Result.bind_bind_pure_eq_ok.mpr ⟨part, here, parts, walked, rfl⟩⟩
  obtain ⟨parts, walked⟩ := forms
  exact ⟨_, Result.bind_eq_ok.mpr ⟨room, rfl, Result.bind_eq_ok.mpr ⟨parts, walked, rfl⟩⟩⟩

/-- So has a mapping where the values in it have one. -/
theorem exists_form_record (each : ∀ field ∈ fields, ∃ part, formWithin field.2 room = .ok part) :
    ∃ text, formWithin (.record fields) (room + 1) = .ok text := by
  -- The names of a mapping can always be written, so only its values can fail.
  have forms : ∃ parts, entryFormsWithin (Value.entries fields) room = .ok parts := by
    induction fields with
    | nil => exact ⟨[], rfl⟩
    | cons field fields ih =>
      obtain ⟨⟨part, here⟩, behind⟩ := List.forall_mem_cons.mp each
      obtain ⟨parts, walked⟩ := ih behind
      refine ⟨(textForm field.1 ++ ": " ++ part) :: parts, Result.bind_eq_ok.mpr ⟨field.1, rfl, ?_⟩⟩
      exact Result.bind_bind_pure_eq_ok.mpr ⟨part, here, parts, walked, rfl⟩
  obtain ⟨parts, walked⟩ := forms
  exact ⟨_, Result.bind_eq_ok.mpr ⟨room, rfl, Result.bind_eq_ok.mpr ⟨parts, walked, rfl⟩⟩⟩

/-- An integer has a form if it has not too many digits. -/
theorem exists_form_int {i : Int} (few : (Nat.toDigits 10 i.natAbs).length ≤ Numeral.digitLimit) :
    ∃ text, formWithin (.int i) room = .ok text := by
  -- A number with few digits is below the power of ten at which writing is refused.
  have bound {n digits : Nat} (given : 0 < digits) (few : (Nat.toDigits 10 n).length ≤ digits) :
      n < Nat.pow 10 digits :=
    (Nat.length_toDigits_le_iff (by decide) given).mp few
  have writable : (Value.int i).isWritable = true := by
    rw [Value.isWritable]
    exact decide_eq_true (bound (by decide) few)
  exact ⟨_, by rw [formWithin, Value.write, if_pos writable]⟩

end Json

namespace Report

/-- The value that shows a member. -/
def nodeValue (node : Node) : Value :=
  .record [("id", .int node.id), ("host", node.host)]

/-- It describes this member. -/
theorem nodeOf_nodeValue (node : Node) : nodeOf (nodeValue node) = .ok node :=
  rfl

/-- The fields of a report describe it, whatever stands in front of them. -/
theorem ofValue_fields (report : Report) (host : Value) :
    ofValue (.record (("endpoint", host) :: report.fields)) = .ok report := by
  -- Members that are up are read back one by one.
  have up : (report.up.map nodeValue).mapM nodeOf = .ok report.up := by
    induction report.up with
    | nil => rfl
    | cons node rest ih =>
      rw [List.map_cons, List.mapM_cons, ih, nodeOf_nodeValue]
      rfl
  -- What is left is to go through the two fields, each of which holds a list.
  refine Result.bind_eq_ok.mpr ⟨some (.list (report.up.map nodeValue)), rfl, ?_⟩
  refine Result.bind_eq_ok.mpr ⟨_, optionalParts_list, Result.bind_eq_ok.mpr ⟨_, up, ?_⟩⟩
  refine Result.bind_eq_ok.mpr ⟨some (.list report.down), rfl, ?_⟩
  exact Result.bind_eq_ok.mpr ⟨_, optionalParts_list, rfl⟩

end Report

namespace Listing

variable {host : Text} {report : Report}

/-- There is a form for the line of a plain report, wherever there is room for three levels. -/
theorem exists_form_line (host : Text) (plain : report.IsPlain) (room : Nat) :
    ∃ line, Json.formWithin (.record (("endpoint", .text host) :: report.fields)) (room + 3) = .ok line := by
  have text (s : Text) (room : Nat) : ∃ part, Json.formWithin (.text s) room = .ok part := ⟨_, rfl⟩
  -- In the mapping there are two lists, and mappings in the first one.
  have nodes : ∃ part, Json.formWithin (.list (report.up.map Report.nodeValue)) (room + 2) = .ok part := by
    refine Json.exists_form_list fun item inside => ?_
    obtain ⟨node, isUp, rfl⟩ := List.mem_map.mp inside
    obtain ⟨host, named, _⟩ := (plain.up node isUp).named
    refine Json.exists_form_record (List.forall_mem_cons.mpr ⟨Json.exists_form_int (plain.up node isUp).few, ?_⟩)
    rw [named]
    exact List.forall_mem_singleton.mpr (text host _)
  have down : ∃ part, Json.formWithin (.list report.down) (room + 2) = .ok part := by
    refine Json.exists_form_list fun item inside => ?_
    obtain ⟨host, rfl, _⟩ := plain.down item inside
    exact text host _
  refine Json.exists_form_record fun field inside => ?_
  simp only [Report.fields, List.mem_cons, List.not_mem_nil, or_false] at inside
  rcases inside with rfl | rfl | rfl
  · exact text host _
  · exact nodes
  · exact down

/-- There is a line for every plain report. -/
theorem exists_lineOf (host : Text) (plain : report.IsPlain) : ∃ line, lineOf host report = .ok line :=
  exists_form_line host plain (Json.depthLimit - 3)

/-- JSON has a form of its own for each field of a plain report. -/
theorem isJson_of_mem_fields (plain : report.IsPlain) :
    ∀ field ∈ report.fields, field.1.IsWhole ∧ field.2.IsJson := by
  have name (s : String) : Text.IsWhole s := Text.isWhole_ofChars _
  intro field inside
  -- There are two fields. The first one holds mappings with a number and a host, the second one holds hosts.
  simp only [Report.fields, List.mem_cons, List.not_mem_nil, or_false] at inside
  rcases inside with rfl | rfl
  · refine ⟨name _, .list fun item inside => ?_⟩
    obtain ⟨node, isUp, rfl⟩ := List.mem_map.mp inside
    obtain ⟨host, named, whole⟩ := (plain.up node isUp).named
    have once : (["id", "host"] : List Text).Nodup := by decide
    refine .record once (by simp [name]) ?_
    simp only [named, List.forall_mem_cons]
    exact ⟨.int _, .text whole, by simp⟩
  · refine ⟨name _, .list fun item inside => ?_⟩
    obtain ⟨host, rfl, whole⟩ := plain.down item inside
    exact .text whole

/-- What is read from a line: the fields of the report, behind the host. -/
theorem read_lineOf (plain : report.IsPlain) {line : Text} (written : lineOf host report = .ok line) :
    Json.read line.chars = .ok (.record (("endpoint", .text host.paired) :: report.fields)) := by
  have ascii := Json.isAscii_form written
  have name (s : String) : Text.IsWhole s := Text.isWhole_ofChars _
  rw [lineOf, Json.form, Value.record, Json.formWithin] at written
  obtain ⟨inner, parts, room, walked, rfl⟩ := Json.exists_room written
  -- The host is read with its halves put together, and the other fields as they are.
  cases Json.forall₂_of_entryFormsWithin walked with
  | @cons _ part _ parts first others =>
    obtain ⟨here, formed, rfl⟩ := first
    cases formed
    have once : (["endpoint", "nodes_up", "nodes_down"] : List Text).Nodup := by decide
    have behind : List.Forall₂ (Json.DecodesEntry inner) report.fields parts := by
      refine ((List.forall₂_and_left _ _).mpr ⟨isJson_of_mem_fields plain, others⟩).imp ?_
      rintro field part ⟨⟨whole, json⟩, here, written, same⟩
      exact ⟨whole, here, Json.decodes_formWithin json written, same⟩
    have decodes : Json.Decodes (inner + 1) (.record (("endpoint", .text host.paired) :: report.fields)) _ :=
      Json.decodes_record once (.cons ⟨name _, _, Json.decodes_text host, rfl⟩ behind)
    rw [← room] at decodes
    exact decodes.read_eq ascii

/-- What can be seen of a listing: calls, and lines. -/
inductive Sight where
  /-- A call, whether it is answered or not. -/
  | call (call : Call)
  | line (text : Text)

/-- The calls among what is seen. -/
def calls (seen : List Sight) : List Call :=
  seen.filterMap fun
    | .call call => some call
    | .line _ => none

/-- A call of servers that behave so. What they answer may depend on all calls before it. -/
def ask (behaviour : Behaviour) (call : Call) : Action (List Sight) call.Answer :=
  fun seen => (behaviour (calls seen) call, seen ++ [.call call])

/-- The control plane of such servers. Its state is what is seen. -/
def plane (behaviour : Behaviour) : ControlPlane (List Sight) where
  status hosts watched := ask behaviour (.status hosts watched)
  add host hosts watched := ask behaviour (.add host hosts watched)
  note _ := pure ()

/-- Writes a line. -/
def write (line : Text) : Action (List Sight) Unit :=
  modify (· ++ [.line line])

/-- The question for the status of an endpoint. -/
def question (watched : Bool) (endpoint : Text) : Call :=
  .status [Endpoint.host endpoint] watched

/-- An endpoint with the report that its server gives and the line that shows it. -/
structure Shown where
  endpoint : Text
  report : Report
  line : Text

namespace Shown

/-- What is seen of this. -/
def sights (watched : Bool) (shown : Shown) : List Sight :=
  [.call (question watched shown.endpoint), .line shown.line]

/-- The line is one line of printable ASCII. As JSON it is a mapping in which the host is named, unless halves of
a pair stand side by side in the host, and of which the report is made. -/
structure IsReadable (shown : Shown) : Prop where
  /-- There is no control character in the line, so it does not end before its end. -/
  ascii : shown.line.IsAscii
  read : ∃ entries, Json.read shown.line.chars = .ok (.map entries) ∧
    ((Endpoint.host shown.endpoint).HasNoSplit →
      Value.field? "endpoint" entries = some (.text (Endpoint.host shown.endpoint))) ∧
    Report.ofValue (.map entries) = .ok shown.report

end Shown

variable {behaviour : Behaviour} {watched : Bool} {seen : List Sight}

@[simp] theorem calls_append (seen more : List Sight) : calls (seen ++ more) = calls seen ++ calls more :=
  List.filterMap_append

/-- What is seen of an endpoint is the question for it. -/
theorem calls_append_probes (shown : Shown) (endpoints : List Text) :
    calls (seen ++ shown.sights watched) ++ Discovery.probes watched endpoints =
      calls seen ++ Discovery.probes watched (shown.endpoint :: endpoints) := by
  rw [calls_append, List.append_assoc]
  rfl

theorem outcome_write (line : Text) : (write line).outcome seen = (.ok (), seen ++ [.line line]) :=
  rfl

/-- A question that is not answered ends a listing. -/
theorem list_cons_of_error {endpoint : Text} {failure : Failure} (rest : List Text)
    (failed : behaviour (calls seen) (question watched endpoint) = .error failure) :
    (list (plane behaviour) write watched ((endpoint :: rest).map .text)).outcome seen =
      (.error failure, seen ++ [.call (question watched endpoint)]) := by
  rw [List.map_cons, list, Action.outcome_bind_of_ok (Action.outcome_ofValue _ _)]
  exact Action.outcome_bind_of_error (Prod.ext failed rfl)

/-- Behind an answer stands its line, and the listing goes on. -/
theorem list_cons_of_ok {endpoint line : Text} (rest : List Text)
    (answered : behaviour (calls seen) (question watched endpoint) = .ok report)
    (written : lineOf (Endpoint.host endpoint) report = .ok line) :
    (list (plane behaviour) write watched ((endpoint :: rest).map .text)).outcome seen =
      (list (plane behaviour) write watched (rest.map .text)).outcome
        (seen ++ Shown.sights watched { endpoint, report, line }) := by
  -- The question and the line succeed, so what is left of the step is to put them behind what was seen.
  have reported : ((plane behaviour).status [Endpoint.host endpoint] watched).outcome seen =
      (.ok report, seen ++ [.call (question watched endpoint)]) :=
    Prod.ext answered rfl
  have formed : (Action.ofValue (lineOf (Endpoint.host endpoint) report)).outcome
      (seen ++ [.call (question watched endpoint)]) = (.ok line, seen ++ [.call (question watched endpoint)]) :=
    Action.outcome_ofValue_eq_ok.mpr ⟨written, rfl⟩
  rw [List.map_cons, list, Action.outcome_bind_of_ok (Action.outcome_ofValue _ _)]
  rw [Action.outcome_bind_of_ok reported, Action.outcome_bind_of_ok formed,
    Action.outcome_bind_of_ok (outcome_write _), List.append_assoc]
  rfl

end Listing

/-- Servers whose reports are all plain. -/
def Behaviour.ReportsPlainly (behaviour : Behaviour) : Prop :=
  ∀ before hosts watched (report : Report),
    behaviour before (.status hosts watched) = .ok report → report.IsPlain

namespace Listing

variable {behaviour : Behaviour}

/-- What a line tells of a plain report can be read. -/
theorem isReadable {endpoint line : Text} {report : Report} (plain : report.IsPlain)
    (written : lineOf (Endpoint.host endpoint) report = .ok line) :
    Shown.IsReadable { endpoint, report, line } where
  ascii := Json.isAscii_form written
  read := by
    refine ⟨_, read_lineOf plain written, fun whole => ?_, Report.ofValue_fields _ _⟩
    rw [Text.paired_eq_self_iff.mpr whole]
    rfl

/-- A listing goes on behind what is seen already. -/
theorem exists_shown (plainly : behaviour.ReportsPlainly) (endpoints : List Text) (seen : List Sight) :
    ∃ done rest, endpoints = done.map Shown.endpoint ++ rest ∧
      (∀ front shown behind, done = front ++ shown :: behind →
        behaviour (calls seen ++ Discovery.probes watched (front.map Shown.endpoint))
          (question watched shown.endpoint) = .ok shown.report) ∧
      (∀ shown ∈ done, shown.IsReadable) ∧
      match rest with
      | [] => (list (plane behaviour) write watched (endpoints.map .text)).outcome seen =
          (.ok (), seen ++ done.flatMap (Shown.sights watched))
      | next :: _ => ∃ failure,
          behaviour (calls seen ++ Discovery.probes watched (done.map Shown.endpoint)) (question watched next) =
            .error failure ∧
          (list (plane behaviour) write watched (endpoints.map .text)).outcome seen =
            (.error failure, seen ++ done.flatMap (Shown.sights watched) ++ [.call (question watched next)]) := by
  -- Each step asks one endpoint. What it leaves is seen by the servers of the next one.
  induction endpoints generalizing seen with
  | nil => exact ⟨[], [], rfl, by simp, by simp, by simp [list]⟩
  | cons endpoint endpoints ih =>
    cases answered : behaviour (calls seen) (question watched endpoint) with
    | error failure =>
      refine ⟨[], endpoint :: endpoints, rfl, by simp, by simp, failure, ?_, ?_⟩
      · simpa [Discovery.probes] using answered
      · simpa using list_cons_of_error endpoints answered
    | ok report =>
      have plain : report.IsPlain := plainly _ _ _ _ answered
      -- An answer can be written, so the line stands there and the others see it.
      obtain ⟨line, written⟩ := exists_lineOf (Endpoint.host endpoint) plain
      obtain ⟨done, rest, rfl, asked, readable, ends⟩ :=
        ih (seen ++ Shown.sights watched { endpoint, report, line })
      rw [list_cons_of_ok _ answered written]
      refine ⟨{ endpoint, report, line } :: done, rest, rfl, ?_, ?_, ?_⟩
      · -- What is asked in front of a later endpoint is asked behind the first question.
        intro front shown behind split
        cases front with
        | nil =>
          cases split
          simpa [Discovery.probes] using answered
        | cons first front =>
          cases split
          rw [List.map_cons, ← calls_append_probes]
          exact asked front shown behind rfl
      · exact List.forall_mem_cons.mpr ⟨isReadable plain written, readable⟩
      · cases rest with
        | nil => rw [ends, List.flatMap_cons, List.append_assoc]
        | cons next rest =>
          obtain ⟨failure, failed, ends⟩ := ends
          refine ⟨failure, ?_, by rw [ends, List.flatMap_cons, List.append_assoc seen]⟩
          rw [List.map_cons, ← calls_append_probes]
          exact failed

/--
What a listing shows, however the servers behave whose reports are plain.

* The endpoints in front are asked in order, each of them once, and behind each question stands the line that shows
  the answer. The endpoint behind them, if there is one, is the first whose question fails. It is the last one that
  is asked, and its failure is that of the listing.
* Each line is one line of printable ASCII, from which JSON reads the whole report, and the host of the endpoint if
  no halves of a pair stand side by side in it.
-/
theorem list_shows (behaviour : Behaviour) (endpoints : List Text) (watched : Bool)
    (plainly : behaviour.ReportsPlainly) :
    ∃ done rest, endpoints = done.map Shown.endpoint ++ rest ∧
      (∀ front shown behind, done = front ++ shown :: behind →
        behaviour (Discovery.probes watched (front.map Shown.endpoint)) (question watched shown.endpoint) =
          .ok shown.report) ∧
      (∀ shown ∈ done, shown.IsReadable) ∧
      match rest with
      | [] => (list (plane behaviour) write watched (endpoints.map .text)).outcome [] =
          (.ok (), done.flatMap (Shown.sights watched))
      | next :: _ => ∃ failure,
          behaviour (Discovery.probes watched (done.map Shown.endpoint)) (question watched next) =
            .error failure ∧
          (list (plane behaviour) write watched (endpoints.map .text)).outcome [] =
            (.error failure, done.flatMap (Shown.sights watched) ++ [.call (question watched next)]) :=
  exists_shown plainly endpoints []

/-- A report with two members of one number, a name beyond ASCII, and a member that is down twice. -/
def twins : Report where
  up := [{ id := -1, host := .text "ä\n" }, { id := -1, host := .text "\"b\"" }]
  down := [.text "", .text ""]

/-- Servers that all give this report, but for one that is lost. -/
def losing (lost : Text) : Behaviour
  | _, .status hosts _ => if hosts = [lost] then .error .cancelled else .ok twins
  | _, .add _ _ _ => .ok ()

theorem losing_reportsPlainly (lost : Text) : (losing lost).ReportsPlainly := by
  have whole (s : String) : Text.IsWhole s := Text.isWhole_ofChars _
  -- The numbers of the two members are short, and no name has a surrogate.
  have plain : twins.IsPlain := by
    refine ⟨?_, ?_⟩
    · simp only [twins, List.forall_mem_cons]
      exact ⟨⟨by decide, _, rfl, whole _⟩, ⟨by decide, _, rfl, whole _⟩, by simp⟩
    · simp only [twins, List.forall_mem_cons]
      exact ⟨⟨_, rfl, whole _⟩, ⟨_, rfl, whole _⟩, by simp⟩
  intro before hosts watched report answered
  simp only [losing] at answered
  split at answered <;> cases answered
  exact plain

/-- Of three servers the second one is lost. Only the line of the first one is written, and it can be read. -/
theorem list_shows_lost : ∃ line,
    (list (plane (losing "b")) write true (["https://a/", "b", "a"].map .text)).outcome [] =
        (.error .cancelled, [.call (.status ["a"] true), .line line, .call (.status ["b"] true)]) ∧
      ∃ entries, Json.read line.chars = .ok (.map entries) ∧
        Value.field? "endpoint" entries = some (.text "a") ∧ Report.ofValue (.map entries) = .ok twins := by
  obtain ⟨done, rest, split, asked, readable, ends⟩ :=
    list_shows (losing "b") ["https://a/", "b", "a"] true (losing_reportsPlainly "b")
  -- The first server answers and the second one does not, so there is one line.
  match done with
  | [] =>
    cases split
    obtain ⟨failure, failed, _⟩ := ends
    cases failed
  | [⟨endpoint, report, line⟩] =>
    cases split
    cases asked [] _ [] rfl
    obtain ⟨failure, failed, ran⟩ := ends
    cases failed
    obtain ⟨entries, read, named, reported⟩ := (readable _ (List.mem_singleton_self _)).read
    exact ⟨line, ran, entries, read, named (List.isChain_singleton _), reported⟩
  | first :: second :: more =>
    have isLost : second.endpoint = "b" := (List.cons.inj (List.cons.inj split).2).1.symm
    have answered := asked [first] second more rfl
    rw [isLost] at answered
    cases answered

/-- The two halves of a pair, side by side. -/
def halves : Text :=
  [.ofNumber 0xD83D, .ofNumber 0xDE00]

/-- An endpoint that consists of the two halves is its own host, but what is read from its line is the character
that is written as the pair. The reports have no part in this. -/
theorem list_shows_halves : (losing "b").ReportsPlainly ∧ ∃ line,
    (list (plane (losing "b")) write true ([halves].map .text)).outcome [] =
        (.ok (), [.call (.status [halves] true), .line line]) ∧
      Endpoint.host halves = halves ∧ halves ≠ (↑"😀" : Text) ∧
      ∃ entries, Json.read line.chars = .ok (.map entries) ∧
        Value.field? "endpoint" entries = some (.text "😀") := by
  have isHost : Endpoint.host halves = halves := by decide
  have plain : twins.IsPlain := losing_reportsPlainly "b" [] [halves] true twins rfl
  obtain ⟨line, written⟩ := exists_lineOf (Endpoint.host halves) plain
  refine ⟨losing_reportsPlainly "b", line, ?_, isHost, by decide, _, read_lineOf plain written, ?_⟩
  · -- The server answers the question, and there is nothing behind its line.
    have answered : losing "b" (calls []) (question true halves) = .ok twins := by
      unfold question
      rw [isHost]
      rfl
    rw [list_cons_of_ok [] answered written]
    rfl
  · have joined : (Endpoint.host halves).paired = (↑"😀" : Text) := by decide
    rw [joined]
    rfl

end Listing

end KeyCluster
