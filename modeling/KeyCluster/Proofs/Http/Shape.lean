import KeyCluster.Proofs.Cluster.Reliance
import KeyCluster.Proofs.Http.Containment

/-! The shape of status answers: what their documentation promises, and what a report tells of it. -/

namespace KeyCluster

namespace Value

/-- A value is a text. -/
def IsText (v : Value) : Prop :=
  ∃ s, v = .text s

/-- A value describes a member: it is a mapping with a text for its host. -/
def IsMember (v : Value) : Prop :=
  ∃ fields host, v = .map fields ∧ field? "host" fields = some host ∧ host.IsText

/-- What may be left out is so, or it is null or a list of values that are all of one kind. -/
inductive IsListOf (kind : Value → Prop) : Option Value → Prop
  | absent : IsListOf kind none
  | null : IsListOf kind (some .null)
  | list {items : List Value} (all : ∀ item ∈ items, kind item) : IsListOf kind (some (.list items))

/-- The body of a status answer is as documented: members that are up are mappings with texts for their
hosts, and those that are down are texts. -/
def IsDocumented (body : Value) : Prop :=
  ∃ entries, body = .map entries ∧ IsListOf IsMember (field? "nodes_up" entries) ∧
    IsListOf IsText (field? "nodes_down" entries)

/-- The body of a status answer has lists in both places, whatever their items are. -/
def IsLaidOut (body : Value) : Prop :=
  ∃ entries, body = .map entries ∧ IsListOf (fun _ => True) (field? "nodes_up" entries) ∧
    IsListOf (fun _ => True) (field? "nodes_down" entries)

end Value

namespace Report

/-- All members in a report are named by texts. -/
def IsNamed (report : Report) : Prop :=
  (∀ node ∈ report.up, node.host.IsText) ∧ ∀ host ∈ report.down, host.IsText

variable {report : Report} {items : List Value} {kind : Value → Prop} {found : Option Value}

/-- Exactly texts name a host. -/
theorem exists_hostOf_eq_ok {v : Value} : (∃ name, Endpoint.hostOf v = .ok name) ↔ v.IsText := by
  simp only [Endpoint.hostOf_eq_ok, Value.IsText]
  constructor
  · rintro ⟨_, endpoint, same, _⟩
    exact ⟨endpoint, same⟩
  · rintro ⟨endpoint, same⟩
    exact ⟨_, endpoint, same, rfl⟩

/-- The hosts of a report can be listed when all of its members are named by texts. There are as many as it
counts. -/
theorem isNamed_iff : report.IsNamed ↔ ∃ names, report.hosts = .ok names ∧ names.length = report.size := by
  -- Every host is a text exactly if the hosts can be listed.
  have listed : report.IsNamed ↔ ∃ names, report.hosts = .ok names := by
    simp only [hosts, Result.exists_mapM_eq_ok, exists_hostOf_eq_ok, IsNamed, List.forall_mem_append,
      List.forall_mem_map]
  rw [listed]
  constructor
  · rintro ⟨names, named⟩
    exact ⟨names, named, length_of_hosts named⟩
  · rintro ⟨names, named, _⟩
    exact ⟨names, named⟩

/-- What is read from one of the places is a list of one kind when it is a list at all, and its parts are of
that kind. -/
theorem isListOf_iff (read : optionalParts found = .ok items) :
    Value.IsListOf kind found ↔ Value.IsListOf (fun _ => True) found ∧ ∀ item ∈ items, kind item := by
  constructor
  -- What is left out or null has no parts, and a list has its items.
  · rintro (_ | _ | all)
    · cases read
      exact ⟨.absent, by simp⟩
    · cases read
      exact ⟨.null, by simp⟩
    · cases optionalParts_list.symm.trans read
      exact ⟨.list (by simp), all⟩
  · rintro ⟨_ | _ | _, all⟩
    · exact .absent
    · exact .null
    · cases optionalParts_list.symm.trans read
      exact .list all

/-- An entry that is read describes a member when its host is a text. -/
theorem isMember_iff {entry : Value} {node : Node} (read : nodeOf entry = .ok node) :
    entry.IsMember ↔ node.host.IsText := by
  obtain ⟨_, asked, read⟩ := Result.bind_eq_ok.mp read
  -- The entry is asked for two things, so it is a mapping both times.
  obtain ⟨fields, rfl, _⟩ := ask_eq_ok.mp asked
  obtain ⟨id, _, read⟩ := Result.bind_eq_ok.mp read
  obtain ⟨host, again, read⟩ := Result.bind_eq_ok.mp read
  obtain ⟨_, same, hosted⟩ := ask_eq_ok.mp again
  cases same
  -- Where there is no host, the entry is not read.
  cases host with
  | none => cases read
  | some host =>
    cases read
    constructor
    · rintro ⟨_, _, same, other, isText⟩
      cases same
      cases hosted.symm.trans other
      exact isText
    · exact fun isText => ⟨fields, host, rfl, hosted, isText⟩

/-- A body that is read as a report is as documented when it has lists in both places, and all members in
the report are named by texts. -/
theorem isDocumented_iff {body : Value} (read : ofValue body = .ok report) :
    body.IsDocumented ↔ body.IsLaidOut ∧ report.IsNamed := by
  -- The report was read, so every field was found in the way in which the reader looks for it.
  obtain ⟨_, asked, read⟩ := Result.bind_eq_ok.mp read
  obtain ⟨entries, rfl, rfl⟩ := ask_eq_ok.mp asked
  obtain ⟨members, listed, read⟩ := Result.bind_eq_ok.mp read
  obtain ⟨up, walked, read⟩ := Result.bind_eq_ok.mp read
  obtain ⟨_, again, read⟩ := Result.bind_eq_ok.mp read
  obtain ⟨_, same, rfl⟩ := ask_eq_ok.mp again
  cases same
  obtain ⟨down, others, read⟩ := Result.bind_eq_ok.mp read
  cases read
  -- Entries and members stand side by side.
  have related := forall₂_of_mapM_ok walked
  have named : (∀ entry ∈ members, entry.IsMember) ↔ ∀ node ∈ up, node.host.IsText := by
    constructor
    · intro all node inside
      obtain ⟨entry, isEntry, read⟩ := exists_left_of_mem related inside
      exact (isMember_iff read).mp (all entry isEntry)
    · intro all entry inside
      obtain ⟨node, isNode, read⟩ := exists_left_of_mem related.flip inside
      exact (isMember_iff read).mpr (all node isNode)
  constructor
  · -- Being documented speaks of the body, and being named speaks of the report.
    rintro ⟨_, same, first, second⟩
    cases same
    obtain ⟨listedUp, areMembers⟩ := (isListOf_iff listed).mp first
    obtain ⟨listedDown, areTexts⟩ := (isListOf_iff others).mp second
    exact ⟨⟨entries, rfl, listedUp, listedDown⟩, named.mp areMembers, areTexts⟩
  · rintro ⟨⟨_, same, listedUp, listedDown⟩, upNamed, downNamed⟩
    cases same
    exact ⟨entries, rfl, (isListOf_iff listed).mpr ⟨listedUp, named.mpr upNamed⟩,
      (isListOf_iff others).mpr ⟨listedDown, downNamed⟩⟩

end Report

namespace Client

/-- An answer that is a report has a body that is read as one. -/
theorem exists_of_reportOf {response : Response} {report : Report}
    (read : reportOf response = .ok report) :
    ∃ body, Json.read response.body.chars = .ok body ∧ Report.ofValue body = .ok report := by
  -- A body that is no JSON, or no report, would be a failure.
  unfold reportOf at read
  split at read
  · cases read
  · cases read
  · rename_i body parsed
    split at read
    · rename_i accepted
      cases read
      exact ⟨body, parsed, accepted⟩
    · split at read <;> cases read

variable {σ : Type} {network : Network σ} {watched : Bool} {world after : World σ} {report : Report}

/--
What is known of an answer that is accepted as a report.

Its body is as documented exactly when it has lists in both places and all members in the report are named
by texts. The members are so named exactly when the hosts of the report can be listed, and then there are as
many as it counts.

Discovery and joining fail on the report only as the calls of a client do exactly when the server is alone
or the hosts can be listed.
-/
theorem status_formed (client : Client) {hosts : Value}
    (asked : (client.status network hosts watched).outcome world = (.ok report, after)) :
    (∃ response body,
      (client.ask network "GET" statusPath none hosts watched).outcome world = (.ok response, after) ∧
      Json.read response.body.chars = .ok body ∧
      (body.IsDocumented ↔ body.IsLaidOut ∧ report.IsNamed)) ∧
    (report.IsNamed ↔ ∃ names, report.hosts = .ok names ∧ names.length = report.size) ∧
    ∀ endpoints alert,
      (endpoints ≠ [] →
        ((report.Suits fun _ plane => Discovery.membership plane (.texts endpoints) alert) ↔
          report.IsUsable)) ∧
      (2 ≤ endpoints.length →
        ((report.Suits fun _ plane => Join.join plane (.texts endpoints) alert) ↔ report.IsUsable)) := by
  obtain ⟨response, _, answered, _⟩ := Action.outcome_bind_eq_ok.mp asked
  obtain ⟨read, rfl⟩ := Prod.mk.inj ((outcome_status answered).symm.trans asked)
  obtain ⟨body, parsed, accepted⟩ := exists_of_reportOf read
  exact ⟨⟨response, body, answered, parsed, Report.isDocumented_iff accepted⟩, Report.isNamed_iff,
    fun endpoints alert => ⟨Report.suits_membership, Report.suits_join⟩⟩

/-- The report of two servers that are down can be listed and joined by. -/
theorem status_formed_pair : ∃ after,
    (bare.status (Network.pair 0) (.texts ["b"]) false).outcome (World.silent 0) =
        (.ok { up := [], down := [.text "b", .text "a"] }, after) ∧
      (∃ names, ({ up := [], down := [.text "b", .text "a"] } : Report).hosts = .ok names ∧
        names.length = 2) ∧
      ({ up := [], down := [.text "b", .text "a"] } : Report).Suits fun _ plane =>
        Join.join plane (.texts ["b", "c"]) false := by
  have answered : (bare.ask (Network.pair 0) "GET" statusPath none (.texts ["b"]) false).outcome
      (World.silent 0) = (.ok { status := 200, body := Network.pairBody }, _) := rfl
  have reported := outcome_status answered
  rw [Network.report_pairBody] at reported
  -- The number of names is that of the hosts in the report.
  obtain ⟨_, listed, joined⟩ := status_formed bare reported
  have named : ({ up := [], down := [.text "b", .text "a"] } : Report).IsNamed :=
    ⟨by simp, by simp [Value.IsText]⟩
  obtain ⟨names, hosts, size⟩ := listed.mp named
  have usable : ({ up := [], down := [.text "b", .text "a"] } : Report).IsUsable := .inr ⟨names, hosts⟩
  exact ⟨_, reported, ⟨names, hosts, size⟩, ((joined ["b", "c"] false).2 (by decide)).mpr usable⟩

/-- A body that names a member by a number. -/
def misnamedBody : Text :=
  "\x7b\"nodes_up\": [\x7b\"id\": 1, \"host\": 5\x7d], \"nodes_down\": [\"b\"]\x7d"

/-- A server that answers with this body. -/
def misnamedNetwork : Network Unit where
  answer _ _ := ({ advance := 0, cancels := false, outcome := .ok { status := 200, body := misnamedBody } }, ())

/-- The report that is read from this body. -/
def misnamedReport : Report :=
  { up := [{ id := 1, host := .int 5 }], down := [.text "b"] }

/-- Whether reading a report comes to this one. -/
def isMisnamed : Except Failure Report → Bool
  | .ok { up := [{ id := 1, host := .int 5 }], down := [.text name] } => name == "b"
  | _ => false

/-- No other result does so. -/
theorem eq_of_isMisnamed {result : Except Failure Report} (same : isMisnamed result = true) :
    result = .ok misnamedReport := by
  unfold isMisnamed at same
  split at same
  · rw [eq_of_beq same]
    rfl
  · cases same

/-- The number is taken for a host. -/
theorem reportOf_misnamedBody : reportOf { status := 200, body := misnamedBody } = .ok misnamedReport :=
  -- Reports cannot be compared, but what this one is read as can be computed.
  eq_of_isMisnamed (by decide +kernel)

/-- The question for the status, asked in some world. -/
def misnamedAsked (world : World Unit) : Except Failure Response × World Unit :=
  (bare.ask misnamedNetwork "GET" statusPath none (.texts ["a"]) false).outcome world

/-- Where it is answered, the report is what the body is read as. -/
theorem outcome_status_misnamed {world : World Unit}
    (answered : (misnamedAsked world).1 = .ok { status := 200, body := misnamedBody }) :
    (bare.status misnamedNetwork (.texts ["a"]) false).outcome world =
      (.ok misnamedReport, (misnamedAsked world).2) := by
  rw [outcome_status (Prod.ext answered rfl), reportOf_misnamedBody]
  rfl

/-- A joining by this report fails on the number. -/
theorem join_misnamed : ∃ after,
    (Join.join (bare.plane misnamedNetwork) (.texts ["a", "b"]) false).outcome (World.silent 0) =
        (.error (.value (.noMember .int "startswith")), after) ∧
      after.sent.map Request.url = (["https://a/v1/cluster/status"] : List Text) := by
  -- A joining first tells the log whom it asks.
  let told := (World.silent 0).record (.logged (0 + 0) (Journal.querying "a"))
  have noted : ((bare.plane misnamedNetwork).note (Journal.querying "a")).outcome (World.silent 0) =
      (.ok (), told) := rfl
  have asked : ((bare.plane misnamedNetwork).status ["a"] false).outcome told =
      (.ok misnamedReport, (misnamedAsked told).2) := outcome_status_misnamed rfl
  refine ⟨(misnamedAsked told).2, ?_, rfl⟩
  rw [Join.join_of_length_ge (by decide)]
  apply Action.outcome_bind_of_error
  rw [Discovery.membership_texts]
  apply Action.outcome_bind_of_error
  rw [Discovery.probe_cons, show Endpoint.host "a" = "a" by decide, Action.outcome_bind_of_ok noted,
    Action.outcome_bind_of_ok asked]
  rfl

/-- The number is accepted in a report, and a joining fails on it without any failure of a server. -/
theorem status_misnamed : ∃ after body later,
    (bare.status misnamedNetwork (.texts ["a"]) false).outcome (World.silent 0) =
        (.ok misnamedReport, after) ∧
      Json.read misnamedBody.chars = .ok body ∧ ¬ body.IsDocumented ∧
      misnamedReport.hosts = .error (.noMember .int "startswith") ∧
      (Join.join (bare.plane misnamedNetwork) (.texts ["a", "b"]) false).outcome (World.silent 0) =
        (.error (.value (.noMember .int "startswith")), later) ∧
      later.sent.map Request.url = (["https://a/v1/cluster/status"] : List Text) := by
  obtain ⟨body, parsed, accepted⟩ := exists_of_reportOf reportOf_misnamedBody
  -- A number is no text, so the member that is up is not named.
  have undocumented : ¬ body.IsDocumented := fun documented => by
    obtain ⟨named, _⟩ := ((Report.isDocumented_iff accepted).mp documented).2
    obtain ⟨_, same⟩ := named { id := 1, host := .int 5 } (by simp [misnamedReport])
    cases same
  obtain ⟨later, failed, sent⟩ := join_misnamed
  exact ⟨_, body, later, outcome_status_misnamed rfl, parsed, undocumented, rfl, failed, sent⟩

end Client

end KeyCluster
