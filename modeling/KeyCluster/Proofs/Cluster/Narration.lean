import KeyCluster.Proofs.Cluster.FailStop

/-! What a joining tells the log, between its calls. Whoever has only the log knows all of the calls. -/

namespace KeyCluster

/-- What the log is told among some events, in order. -/
def Event.entries (events : List Event) : List Entry :=
  events.filterMap fun
    | .call _ => none
    | .entry told => some told

/-- The text that a value is, if it is one. -/
def Value.text? : Value → Option Text
  | .text s => some s
  | _ => none

/-- The fact of a name that belongs to a message. -/
def Entry.fact? (name : Text) (entry : Entry) : Option Value :=
  entry.fields.lookup name

/-- The call that a message announces, if it announces one. It is told from the level of the message and from
the facts that belong to it. -/
def Entry.call? (watched : Bool) (entry : Entry) : Option Call :=
  match entry.fact? "endpoint", entry.fact? "hosts" with
  | some (.text host), some (.list hosts) => some (.add host (hosts.filterMap Value.text?) watched)
  -- Other messages about a host are of a higher level than questions.
  | some (.text host), none => if entry.level = Level.debug then some (.status [host] watched) else none
  | _, _ => none

/-- The calls that the log tells of. They are told from its messages alone. -/
def Event.announced (watched : Bool) (events : List Event) : List Call :=
  (entries events).filterMap (Entry.call? watched)

/-- A question for the status of an endpoint, and the message in front of it. -/
def Discovery.asking (watched : Bool) (endpoint : Text) : List Event :=
  [.entry (Journal.querying (Endpoint.host endpoint)), .call (.status [Endpoint.host endpoint] watched)]

/-- A request to take in a host, and the message in front of it. -/
def Join.adding (members : List Text) (watched : Bool) (host : Text) : List Event :=
  [.entry (Journal.adding host members), .call (.add host members watched)]

/-- What the log is told once discovery has settled on some members. The report is that of the server that was
asked last. -/
inductive Discovery.Announces (seed last : Text) (report : Report) : List Text → List Event → Prop
  /-- There are members in the report, and they are found. -/
  | found {names : List Text} (several : report.isStandalone = false) (named : report.hosts = .ok names)
      (some : Members.ofList names ≠ []) : Announces seed last report (Members.ofList names)
        [.entry (Journal.found last (Members.ofList names) report.size)]
  /-- The last server is alone as well, and the first endpoint is elected. -/
  | alone (alone : report.isStandalone = true) :
      Announces seed last report [seed] [.entry (Journal.elected seed)]
  /-- There is nothing in the report. This is told, too, before the first endpoint is elected. -/
  | empty (none : report.size = 0) :
      Announces seed last report [seed] [.entry (Journal.empty last), .entry (Journal.elected seed)]

variable {behaviour : Behaviour} {watched : Bool} {calls : List Call} {events : List Event}

namespace Behaviour

/-- The log takes every message. -/
theorem outcome_note (entry : Entry) : (behaviour.plane.recorded.note entry).outcome (calls, events) =
    (.ok (), calls, events ++ [.entry entry]) :=
  rfl

/-- A question for the status is answered as the servers behave. -/
theorem outcome_status (hosts : List Text) :
    (behaviour.plane.recorded.status hosts watched).outcome (calls, events) =
      (behaviour calls (.status hosts watched), calls ++ [.status hosts watched],
        events ++ [.call (.status hosts watched)]) :=
  rfl

/-- So is a request to take in a host. -/
theorem outcome_add (host : Text) (hosts : List Text) :
    (behaviour.plane.recorded.add host hosts watched).outcome (calls, events) =
      (behaviour calls (.add host hosts watched), calls ++ [.add host hosts watched],
        events ++ [.call (.add host hosts watched)]) :=
  rfl

end Behaviour

namespace Discovery

/-- What is told about members tells of no call. -/
theorem Announces.quiet {seed last : Text} {report : Report} {members : List Text} {news : List Event}
    (announces : Announces seed last report members news) : Event.announced watched news = [] := by
  cases announces with
  | found | alone | empty => rfl

end Discovery

namespace Event

end Event

namespace Join

end Join

end KeyCluster
