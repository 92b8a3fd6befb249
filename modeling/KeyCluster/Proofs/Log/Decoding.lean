import KeyCluster.Log.Layout
import KeyCluster.Proofs.Failure.Action
import KeyCluster.Proofs.Json.RoundTrip

/-! What a line in JSON tells about the record that it was written for. -/

namespace KeyCluster

open Value (overlay names entries)

/-- A time is shown in characters. -/
theorem Stamp.isWhole_exact {time : Instant} {stamp : Text} (shown : exact time = .ok stamp) :
    stamp.IsWhole := by
  -- A time is shown with digits and signs, or not at all.
  unfold exact at shown
  obtain ⟨⟨whole, rest⟩, _, shown⟩ := Result.bind_eq_ok.mp shown
  obtain ⟨second, _, shown⟩ := Result.bind_eq_ok.mp shown
  split at shown
  · cases shown
  · cases shown
    exact Text.isWhole_ofChars _

namespace Record

/-- The fields that every line in JSON begins with. -/
def headFields (record : Record) (stamp message : Text) : List (Text × Value) :=
  [("timestamp", .text stamp), ("level", .text record.levelName), ("logger", .text record.logger),
    ("message", .text message)]

/-- A record whose facts have different names and are written in JSON as they are, and in which no text holds a
surrogate. -/
structure IsJson (record : Record) : Prop where
  once : (names record.fields).Nodup
  /-- The facts that are shown have forms of their own. -/
  facts : ∀ fact ∈ record.extras, fact.1.IsWhole ∧ fact.2.IsJson
  level : record.levelName.IsWhole
  logger : record.logger.IsWhole
  message : ∀ message, record.messageText = .ok message → message.IsWhole
  /-- What is written about the exception holds none. -/
  trouble : ∀ rendered, record.trouble = .raised rendered true → rendered.IsWhole

end Record

namespace Layout

variable {record after : Record} {stamp message line : Text}

/-- A line in JSON is the form of its payload, and nothing changes when it is written. -/
theorem jsonLine_eq_ok : jsonLine.outcome record = (.ok line, after) ↔
    after = record ∧ ∃ stamp message, Stamp.exact record.created = .ok stamp ∧
      record.messageText = .ok message ∧ Json.form (.map (payload record stamp message)) = .ok line := by
  rw [jsonLine, Action.outcome_bind_of_ok (Action.outcome_get record)]
  -- Nothing in it changes the record, so three results decide: the time, the message and the form.
  simp only [Action.outcome_bind_eq_ok, Action.outcome_ofLog_eq_ok, Action.outcome_ofValue_eq_ok]
  constructor
  · rintro ⟨stamp, _, ⟨shown, rfl⟩, message, _, ⟨filled, rfl⟩, formed, rfl⟩
    exact ⟨rfl, stamp, message, shown, filled, formed⟩
  · rintro ⟨rfl, stamp, message, shown, filled, formed⟩
    exact ⟨stamp, _, ⟨shown, rfl⟩, message, _, ⟨filled, rfl⟩, formed, rfl⟩

/-- The names that every line has differ. -/
theorem nodup_names_headFields (record : Record) (stamp message : Text) :
    (names (record.headFields stamp message)).Nodup := by
  change (["timestamp", "level", "logger", "message"].map Text.ofString).Nodup
  decide

/-- At most one field is about the exception. -/
theorem nodup_names_troubleFields (trouble : Trouble) : (names trouble.fields).Nodup := by
  match trouble with
  | .raised _ true => exact List.nodup_singleton _
  | .none | .blank | .raised _ false => exact List.nodup_nil

/-- The payload of a record: its facts lie over the fields that every line has, and the exception over both. -/
theorem payload_eq (once : (names record.extras).Nodup) :
    payload record stamp message
      = entries (overlay (overlay (record.headFields stamp message) record.extras) record.trouble.fields) := by
  -- Three times fields are put into one mapping, one behind the other.
  have head := nodup_names_headFields record stamp message
  rw [← Value.foldl_put_entries (Value.nodup_names_overlay head once) (nodup_names_troubleFields _),
    ← Value.foldl_put_entries head once, ← Value.mapping_entries head, Value.mapping, ← List.foldl_append,
    ← List.foldl_append]
  simp [payload, Value.mapping, entries, Record.headFields]

/-- The fields that every line has are plain JSON without surrogates, if the texts in them hold none. -/
theorem headFields_isJson (plain : record.IsJson) (shown : Stamp.exact record.created = .ok stamp)
    (filled : record.messageText = .ok message) :
    ∀ field ∈ record.headFields stamp message, field.1.IsWhole ∧ field.2.IsJson := by
  have name (s : String) : Text.IsWhole s := Text.isWhole_ofChars _
  simp only [Record.headFields, List.forall_mem_cons]
  exact ⟨⟨name _, .text (Stamp.isWhole_exact shown)⟩, ⟨name _, .text plain.level⟩,
    ⟨name _, .text plain.logger⟩, ⟨name _, .text (plain.message _ filled)⟩, List.forall_mem_nil _⟩

/-- So is the field about the exception. -/
theorem troubleFields_isJson (plain : record.IsJson) :
    ∀ field ∈ record.trouble.fields, field.1.IsWhole ∧ field.2.IsJson := by
  -- The record says nothing about an exception, or it says it with a text.
  match said : record.trouble with
  | .raised rendered true =>
    intro field inside
    obtain rfl := List.mem_singleton.mp inside
    exact ⟨Text.isWhole_ofChars _, .text (plain.trouble rendered said)⟩
  | .none | .blank | .raised _ false => exact List.forall_mem_nil _

/-- What is read from the form of a payload that is plain JSON is the payload. -/
theorem read_payload (plain : record.IsJson) (shown : Stamp.exact record.created = .ok stamp)
    (filled : record.messageText = .ok message)
    (formed : Json.form (.map (payload record stamp message)) = .ok line) :
    Json.read line.chars = .ok (.record
      (overlay (overlay (record.headFields stamp message) record.extras) record.trouble.fields)) := by
  -- The payload is plain JSON, since all three of its parts are.
  have once : (names record.extras).Nodup := plain.once.sublist (List.filter_sublist.map _)
  have both := Value.forall_overlay
    (Value.forall_overlay (headFields_isJson plain shown filled) plain.facts) (troubleFields_isJson plain)
  have differ := Value.nodup_names_overlay
    (Value.nodup_names_overlay (nodup_names_headFields record stamp message) once)
    (nodup_names_troubleFields record.trouble)
  have json := Value.IsJson.record differ (fun field inside => (both field inside).1)
    fun field inside => (both field inside).2
  rw [payload_eq once] at formed
  exact Json.read_form json formed

/-- Every line in JSON consists of printable ASCII characters. If the facts of the record are plain JSON and no
text in it holds a surrogate, then what is read from the line has the time, the level, the logger and the
message, with the facts over them in their order whose names do not begin with an underscore, and over all of
them what is written about the exception if one is known that counts as true. -/
theorem jsonLine_decodes (written : (Layout.line .json).outcome record = (.ok line, after)) :
    (∀ point ∈ line, ∃ c, point = .char c ∧ 0x20 ≤ c.toNat ∧ c.toNat ≤ 0x7E) ∧
      (record.IsJson → ∃ stamp message, Stamp.exact record.created = .ok stamp ∧
        record.messageText = .ok message ∧ Json.read line.chars = .ok (.record
          (overlay (overlay (record.headFields stamp message) record.extras) record.trouble.fields))) := by
  obtain ⟨_, stamp, message, shown, filled, formed⟩ := jsonLine_eq_ok.mp written
  refine ⟨fun point inside => ?_, fun plain =>
    ⟨stamp, message, shown, filled, read_payload plain shown filled formed⟩⟩
  -- Whatever the payload holds, its form is printable.
  have ascii := Json.isAscii_form formed point inside
  cases point with
  | surrogate => cases ascii
  | char c =>
    simp only [CodePoint.isIn, Quoted.isPlainAscii, Bool.and_eq_true, decide_eq_true_eq] at ascii
    exact ⟨c, rfl, by omega⟩

/-- The beginning of time. -/
def firstStamp : Text :=
  "1970-01-01T00:00:00+00:00"

/-- It is shown so. -/
theorem exact_firstStamp : Stamp.exact (.whole 0) = .ok firstStamp := by
  have still : Stamp.nearest (0 * 1000000) = 0 := by decide +kernel
  unfold Stamp.exact Stamp.parts
  simp only [Bind.bind, Except.bind, still]
  rfl

/-- A record whose message has quotes, a line break and characters outside ASCII, and some of whose facts have
the names of fields that its line has anyway. -/
def crowded : Record where
  logger := "join"
  level := 20
  message := .text "say \"h\u00e9\"\nbye \u2615 😀"
  created := .whole 0
  trouble := .failure .cancelled
  fields := [("level", .text "raised"), ("_seen", .null), ("exception", .bool true),
    ("hosts", .list [.text "kms-1", .record [("up", .null)]])]

/-- The line of this record in JSON. -/
def crowdedLine : Text :=
  "\x7b\"timestamp\": \"1970-01-01T00:00:00+00:00\", \"level\": \"raised\", \"logger\": \"join\", " ++
  "\"message\": \"say \\\"h\\u00e9\\\"\\nbye \\u2615 \\ud83d\\ude00\", " ++
  "\"exception\": \"kms_cluster.exceptions.JoinCancelled: Operation cancelled\", " ++
  "\"hosts\": [\"kms-1\", \x7b\"up\": null\x7d]\x7d"

/-- The facts of this record are plain JSON. -/
theorem crowded_isJson : crowded.IsJson where
  once := by decide
  facts := by
    have whole (s : String) : Text.IsWhole s := Text.isWhole_ofChars _
    have up : Value.IsJson (.record [("up", .null)]) :=
      .record (List.nodup_singleton _) (by simpa using whole "up") (by simpa using .null)
    -- There are three facts: a text, a truth value, and a list with a mapping inside.
    intro fact inside
    have shown : fact ∈ [(↑"level", .text "raised"), (↑"exception", .bool true),
        (↑"hosts", .list [.text "kms-1", .record [("up", .null)]])] := inside
    simp only [List.mem_cons, List.not_mem_nil, or_false] at shown
    rcases shown with rfl | rfl | rfl
    · exact ⟨whole _, .text (whole _)⟩
    · exact ⟨whole _, .bool true⟩
    · exact ⟨whole _, .list (List.forall_mem_cons.mpr ⟨.text (whole _), by simpa using up⟩)⟩
  level := Text.isWhole_ofChars _
  logger := Text.isWhole_ofChars _
  message := by
    rintro _ ⟨⟩
    exact Text.isWhole_ofChars _
  trouble := by
    rintro _ ⟨⟩
    have words : Failure.cancelled.summary = "kms_cluster.exceptions.JoinCancelled: Operation cancelled" := rfl
    rw [words]
    exact Text.isWhole_ofChars _

/-- The line is written for this record. -/
theorem jsonLine_crowded : jsonLine.outcome crowded = (.ok crowdedLine, crowded) :=
  jsonLine_eq_ok.mpr ⟨rfl, firstStamp, _, exact_firstStamp, rfl, Result.eq_ok_of_toOption (by decide +kernel)⟩

/-- What is read from its line has the raised level, and the exception in the place of the fact of that name. -/
theorem jsonLine_decodes_crowded :
    (Layout.line .json).outcome crowded = (.ok crowdedLine, crowded) ∧ crowded.IsJson ∧
      (∀ point ∈ crowdedLine, ∃ c, point = .char c ∧ 0x20 ≤ c.toNat ∧ c.toNat ≤ 0x7E) ∧
      Json.read crowdedLine.chars = .ok (.record
        [("timestamp", .text "1970-01-01T00:00:00+00:00"), ("level", .text "raised"), ("logger", .text "join"),
          ("message", .text "say \"h\u00e9\"\nbye \u2615 😀"),
          ("exception", .text "kms_cluster.exceptions.JoinCancelled: Operation cancelled"),
          ("hosts", .list [.text "kms-1", .record [("up", .null)]])]) := by
  obtain ⟨ascii, decoded⟩ := jsonLine_decodes jsonLine_crowded
  obtain ⟨stamp, message, shown, filled, read⟩ := decoded crowded_isJson
  cases exact_firstStamp.symm.trans shown
  cases filled
  exact ⟨jsonLine_crowded, crowded_isJson, ascii, read⟩

/-- A record with a fact whose name begins with an underscore, and with an exception that counts as false. -/
def hushed : Record where
  logger := "join"
  level := 20
  message := .text "done"
  created := .whole 0
  trouble := .raised "Silence" false
  fields := [("_seen", .int 1)]

/-- Its line in JSON. -/
def hushedLine : Text :=
  "\x7b\"timestamp\": \"1970-01-01T00:00:00+00:00\", \"level\": \"INFO\", \"logger\": \"join\", " ++
  "\"message\": \"done\"\x7d"

/-- What is read from this line has neither the fact nor the exception. -/
theorem jsonLine_hushed :
    (Layout.line .json).outcome hushed = (.ok hushedLine, hushed) ∧
      (hushed.fields = [(↑"_seen", Value.int 1)] ∧ hushed.trouble = .raised "Silence" false) ∧
      Json.read hushedLine.chars = .ok (.record
        [("timestamp", .text "1970-01-01T00:00:00+00:00"), ("level", .text "INFO"), ("logger", .text "join"),
          ("message", .text "done")]) := by
  -- The line is written out, so it is enough to compare it with what is computed.
  have formed : Json.form (.map (payload hushed firstStamp "done")) = .ok hushedLine :=
    Result.eq_ok_of_toOption (by decide +kernel)
  have whole (s : String) : Text.IsWhole s := Text.isWhole_ofChars _
  have plain : hushed.IsJson :=
    { once := List.nodup_singleton _
      facts := List.forall_mem_nil _
      level := whole "INFO"
      logger := whole "join"
      message := by
        rintro _ ⟨⟩
        exact whole "done"
      trouble := nofun }
  -- The fact is left out of what is shown, and an exception that counts as none has no field.
  exact ⟨jsonLine_eq_ok.mpr ⟨rfl, firstStamp, _, exact_firstStamp, rfl, formed⟩, ⟨rfl, rfl⟩,
    read_payload plain exact_firstStamp rfl formed⟩

end Layout

end KeyCluster
