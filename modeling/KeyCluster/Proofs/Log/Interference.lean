import KeyCluster.Log.Layout
import KeyCluster.Proofs.Failure.Action
import KeyCluster.Proofs.Failure.Result
import Mathlib.Data.List.TakeWhile

/-! Using a record for lines of a log leaves notes on it, but no use is disturbed by those before it. -/

namespace KeyCluster

/-- What a record can be used for. -/
inductive Use where
  | line (layout : Layout)
  | facts

namespace Use

/-- What comes of using a record. -/
inductive Product where
  | line (text : Text)
  | facts (fields : List (Text × Value))

/-- Uses a record once. -/
def run : Use → Action Record Product
  | line layout => do return .line (← layout.line)
  | facts => do return .facts (← get).extras

/-- Uses one record again and again: what comes of each use, and the record as it is left. -/
def runAll : List Use → Record → List (Except Failure Product) × Record
  | [], record => ([], record)
  | use :: rest, record =>
    let (first, after) := use.run.outcome record
    let (others, last) := runAll rest after
    (first :: others, last)

end Use

namespace Record

variable {record state : Record} {name : Text} {value : Value}

/-- The names under which layouts note something on a record. -/
def noteNames : List Text :=
  ["message", "asctime"]

/-- A record as it is accepted, before anything is written for it. -/
structure IsNew (record : Record) : Prop where
  plain : ∀ field ∈ record.fields, field.1 ∉ reserved
  /-- No text about its failure is kept. -/
  fresh : record.troubleText = Option.none

/-- How a record may be left: something is noted behind its fields, and the text about its failure is kept or is
not. -/
def Marked (record state : Record) : Prop :=
  ∃ notes trouble, (∀ note ∈ notes, note.1 ∈ noteNames) ∧
    (trouble = Option.none ∨ trouble = record.trouble.text) ∧
    state = { record with fields := record.fields ++ notes, troubleText := trouble }

/-- A record on which message and time are noted, and the text about its failure is kept. -/
def noted (record : Record) (message stamp : Text) : Record :=
  { record with
    fields := record.fields ++ [(↑"message", .text message), (↑"asctime", .text stamp)]
    troubleText := record.trouble.text }

/-- An accepted record is new while no text is kept on it. -/
theorem isNew_of_accept (accepted : record.accept = .ok record) (fresh : record.troubleText = Option.none) :
    record.IsNew := by
  -- An accepted record has no field under one of the reserved names.
  refine ⟨fun field inside listed => ?_, fresh⟩
  unfold accept at accepted
  obtain ⟨_, _, accepted⟩ := Result.bind_eq_ok.mp accepted
  split at accepted
  · cases accepted
  · rename_i none
    have other := List.find?_eq_none.mp none field inside
    exact other (List.contains_iff_mem.mpr listed)

/-- Every name for a note is reserved. -/
theorem reserved_of_mem_noteNames (known : name ∈ noteNames) : name ∈ reserved := by
  simp only [noteNames, List.mem_cons, List.not_mem_nil, or_false] at known
  rcases known with rfl | rfl <;> decide

/-- So no field of a new record has the name of a note. -/
theorem IsNew.ne_noteName (new : record.IsNew) (known : name ∈ noteNames) :
    ∀ field ∈ record.fields, field.1 ≠ name := by
  rintro field inside rfl
  exact new.plain field inside (reserved_of_mem_noteNames known)

/-- The facts that are shown of a new record are those whose names do not begin with an underscore. -/
theorem IsNew.extras_eq (new : record.IsNew) :
    record.extras = record.fields.filter fun field => field.1.head? != some (.char '_') := by
  refine List.filter_congr fun field inside => ?_
  have plain := new.plain field inside
  simp [isExtra, plain]

/-- Where no field has a name, a value is put behind all of them. -/
theorem putField_append {fields notes : List (Text × Value)} (absent : ∀ field ∈ fields, field.1 ≠ name) :
    putField name value (fields ++ notes) = fields ++ putField name value notes := by
  -- The fields in front have other names, so the note is put behind them.
  induction fields with
  | nil => rfl
  | cons field rest ih =>
    obtain ⟨other, absent⟩ := List.forall_mem_cons.mp absent
    rw [List.cons_append, putField, if_neg (by simpa using other), ih absent]
    rfl

/-- Message and time are noted behind the fields. -/
theorem IsNew.note_note_eq (new : record.IsNew) (message stamp : Text) :
    { ((record.note "message" (.text message)).note "asctime" (.text stamp)) with
      troubleText := record.trouble.text } = record.noted message stamp := by
  -- Both names are new, so the notes follow the fields in their order.
  have first : putField "message" (.text message) (record.fields ++ []) = _ :=
    putField_append (new.ne_noteName (by decide))
  have second (notes : List (Text × Value)) : putField "asctime" (.text stamp) (record.fields ++ notes) = _ :=
    putField_append (new.ne_noteName (by decide))
  rw [List.append_nil] at first
  simp only [note, first, second]
  rfl

/-- What holds for fields and for a new one holds for all of them after the new one is put. -/
theorem forall_putField {property : Text × Value → Prop} {fields : List (Text × Value)}
    (each : ∀ field ∈ fields, property field) (new : property (name, value)) :
    ∀ field ∈ putField name value fields, property field := by
  -- A field either stays or is replaced by the new one.
  induction fields with
  | nil => exact List.forall_mem_singleton.mpr new
  | cons field rest ih =>
    obtain ⟨here, behind⟩ := List.forall_mem_cons.mp each
    rw [putField]
    split
    · exact List.forall_mem_cons.mpr ⟨new, behind⟩
    · exact List.forall_mem_cons.mpr ⟨here, ih behind⟩

namespace Marked

/-- A new record has no marks yet. -/
theorem of_isNew (new : record.IsNew) : Marked record record :=
  ⟨[], none, List.forall_mem_nil _, .inl rfl, by rw [List.append_nil, ← new.fresh]⟩

/-- The facts that are shown of a record do not depend on marks. -/
theorem extras_eq (marked : Marked record state) : state.extras = record.extras := by
  obtain ⟨notes, trouble, noted, _, rfl⟩ := marked
  -- The names of notes are reserved, so no note is a fact.
  have hidden : notes.filter isExtra = [] := by
    refine List.filter_eq_nil_iff.mpr fun note inside => ?_
    have listed := reserved_of_mem_noteNames (noted note inside)
    simp [isExtra, listed]
  rw [extras, List.filter_append, hidden, List.append_nil]
  rfl

/-- Nor does the message. -/
theorem messageText_eq (marked : Marked record state) : state.messageText = record.messageText := by
  obtain ⟨notes, trouble, noted, _, rfl⟩ := marked
  -- Only a field under the name of the member would stand before the message, and no note has it.
  have absent : notes.lookup messageMember = none := by
    refine List.lookup_eq_none_iff.mpr fun note inside => bne_iff_ne.mpr fun same => ?_
    have known := noted note inside
    rw [← same] at known
    exact absurd known (by decide)
  unfold messageText
  rw [List.lookup_append, absent, Option.or_none]

/-- What is noted under one of the names for it is a mark. -/
theorem note (new : record.IsNew) (known : name ∈ noteNames) (marked : Marked record state) :
    Marked record (state.note name value) := by
  obtain ⟨notes, trouble, noted, kept, rfl⟩ := marked
  refine ⟨putField name value notes, trouble, forall_putField noted known, kept, ?_⟩
  rw [Record.note, putField_append (new.ne_noteName known)]

/-- The text about the failure is the same, whether it is kept already or not. -/
theorem troubleShown_eq (marked : Marked record state) : state.troubleShown = record.trouble.text := by
  obtain ⟨notes, trouble, _, kept, rfl⟩ := marked
  rcases kept with rfl | rfl
  · rfl
  · -- A text that is kept is the text itself; where there is none, nothing is kept.
    rw [troubleShown]
    cases record.trouble.text <;> rfl

/-- Keeping the text about the failure is a mark. -/
theorem keep (marked : Marked record state) :
    Marked record { state with troubleText := record.trouble.text } := by
  obtain ⟨notes, trouble, noted, _, rfl⟩ := marked
  exact ⟨notes, record.trouble.text, noted, .inr rfl, rfl⟩

end Marked

end Record

/-- An action for which it does not matter how a record is marked: it gives the same for it, and leaves marks
only. -/
structure Steady {α : Type} (record : Record) (action : Action Record α) : Prop where
  same : ∀ state, record.Marked state → (action.outcome state).1 = (action.outcome record).1
  marked : ∀ state, record.Marked state → record.Marked (action.outcome state).2

namespace Steady

variable {α β : Type} {record : Record}

/-- An action that leaves every record as it is, and gives the same for all, is steady. -/
theorem of_constant {action : Action Record α} {result : Except Failure α}
    (constant : ∀ state, action.outcome state = (result, state)) : Steady record action where
  same state _ := by rw [constant, constant]
  marked state marked := by rwa [constant]

/-- Returning is steady. -/
theorem pure (a : α) : Steady record (pure a : Action Record α) :=
  of_constant fun state => Action.outcome_pure a state

/-- So is going into a log. -/
theorem ofLog (result : Except LogFault α) : Steady record (Action.ofLog result) :=
  of_constant fun state => Action.outcome_ofLog result state

/-- So is using a value. -/
theorem ofValue (result : Except ValueFault α) : Steady record (Action.ofValue result) :=
  of_constant fun state => Action.outcome_ofValue result state

/-- So is marking a record. -/
theorem modify {change : Record → Record}
    (marks : ∀ state, record.Marked state → record.Marked (change state)) :
    Steady record (modify change : Action Record PUnit) where
  same _ _ := rfl
  marked := marks

/-- So is looking at a record, if what follows does not depend on its marks. -/
theorem get {next : Record → Action Record α}
    (same : ∀ state, record.Marked state → next state = next record)
    (steady : Steady record (next record)) : Steady record (get >>= next) where
  same state marked := by
    -- The record is read first, and what comes next does not depend on the marks.
    rw [Action.outcome_bind_of_ok (Action.outcome_get _), Action.outcome_bind_of_ok (Action.outcome_get _),
      same state marked]
    exact steady.same state marked
  marked state marked := by
    rw [Action.outcome_bind_of_ok (Action.outcome_get _), same state marked]
    exact steady.marked state marked

/-- So are two steady actions one after the other. -/
theorem bind {action : Action Record α} {next : α → Action Record β} (new : record.IsNew)
    (first : Steady record action) (second : ∀ a, Steady record (next a)) :
    Steady record (action >>= next) := by
  -- From any marked record, both together give what each of them gives for the record without marks.
  have step (state : Record) (marked : record.Marked state) : ((action >>= next).outcome state).1
        = ((action.outcome record).1 >>= fun a => ((next a).outcome record).1)
      ∧ record.Marked ((action >>= next).outcome state).2 := by
    rw [← first.same state marked]
    have left := first.marked state marked
    rcases ran : action.outcome state with ⟨failure | a, middle⟩
    · rw [ran] at left
      rw [Action.outcome_bind_of_error ran]
      exact ⟨rfl, left⟩
    · rw [ran] at left
      rw [Action.outcome_bind_of_ok ran]
      exact ⟨(second a).same middle left, (second a).marked middle left⟩
  exact ⟨fun state marked => (step state marked).1.trans (step record (.of_isNew new)).1.symm,
    fun state marked => (step state marked).2⟩

end Steady

namespace Layout

variable {record : Record}

/-- Writing a line in JSON is steady. -/
theorem steady_jsonLine (new : record.IsNew) : Steady record jsonLine := by
  refine .get (fun state marked => ?_) (.bind new (.ofLog _) fun stamp =>
    .bind new (.ofLog _) fun message => .ofValue _)
  -- The payload is made of the message, of the facts, and of what no mark touches.
  have message := marked.messageText_eq
  have extras := marked.extras_eq
  obtain ⟨notes, trouble, _, _, rfl⟩ := marked
  simp only [message, payload, extras]

/-- Putting time, level and logger before a message is steady. -/
theorem steady_headLine (new : record.IsNew) (message : Text) : Steady record (headLine message) := by
  refine .get (fun state marked => ?_) (.bind new (.ofLog _) fun stamp =>
    .bind new (.modify fun state marked => marked.note new (by decide)) fun _ => .pure _)
  obtain ⟨notes, trouble, _, _, rfl⟩ := marked
  rfl

/-- Writing a line without facts is steady, if making its head is. -/
theorem steady_plainLine (new : record.IsNew) {head : Text → Action Record Text}
    (steady : ∀ message, Steady record (head message)) : Steady record (plainLine head) := by
  have unmarked := Record.Marked.of_isNew new
  -- Each step is steady for itself: the message, its note, the head of the line, and the text about the
  -- exception.
  refine .get (fun state marked => ?_) (.bind new (.ofLog _) fun message =>
    .bind new (.modify fun state marked => marked.note new (by decide)) fun _ =>
    .bind new (steady message) fun line => .get (fun state marked => ?_)
      (.bind new (.modify fun state marked => ?_) fun _ => .pure _))
  · rw [marked.messageText_eq]
  · -- What is kept about the failure is what would be written about it.
    have trouble := marked.troubleShown_eq.trans unmarked.troubleShown_eq.symm
    obtain ⟨notes, kept, _, _, rfl⟩ := marked
    simp only [trouble]
  · rw [unmarked.troubleShown_eq]
    exact marked.keep

/-- Writing a line for readers is steady. -/
theorem steady_textLine (new : record.IsNew) : Steady record textLine := by
  -- The line is that of the plain layout, with the facts added to it.
  refine .bind new (steady_plainLine new (steady_headLine new)) fun line =>
    .get (fun state marked => ?_) ?_
  · rw [marked.extras_eq]
  · dsimp only
    split
    · exact .pure _
    · exact .bind new (.ofValue _) fun shown => .pure _

/-- A fact by its name and its value. -/
def factPair (fact : Text × Value) : Except ValueFault Text := do
  return fact.1 ++ "=" ++ (← factText fact.2)

/-- What becomes of a line when facts are added to it: each of them follows its first line behind a blank, and
the rest stays as it is. Without a line there is nothing to add to, and a fact that cannot be written is a
failure. -/
inductive Completes (facts : List (Text × Value)) : Except Failure Text → Except Failure Text → Prop where
  | failed (failure : Failure) : Completes facts (.error failure) (.error failure)
  /-- A fact cannot be written. -/
  | unwritten {line : Text} {fault : ValueFault} (broken : facts.mapM factPair = .error fault) :
      Completes facts (.ok line) (.error (.value fault))
  /-- The facts are added. -/
  | added {first rest : Text} {pairs : List Text} (unbroken : .char '\n' ∉ first)
      (behind : ∀ point ∈ rest.head?, point = .char '\n') (written : facts.mapM factPair = .ok pairs) :
      Completes facts (.ok (first ++ rest)) (.ok (first ++ pairs.flatMap (.char ' ' :: ·) ++ rest))

/-- The texts of facts stand one after the other with blanks between them. -/
theorem factsText_eq (facts : List (Text × Value)) :
    factsText facts = (facts.mapM factPair).map (List.intercalate " ") :=
  rfl

/-- Parts with blanks between them, and one before the first, are parts with blanks before them. -/
theorem cons_intercalate {parts : List Text} (given : parts ≠ []) :
    .char ' ' :: List.intercalate (↑" ") parts = parts.flatMap (CodePoint.char ' ' :: ·) := by
  induction parts with
  -- A blank stands in front of each part, the first one included.
  | nil => exact absurd rfl given
  | cons part rest ih =>
    cases rest with
    | nil => simp
    | cons next rest =>
      rw [List.intercalate_cons_cons, List.flatMap_cons, ← ih (List.cons_ne_nil _ _), List.append_assoc]
      rfl

/-- A line can be taken apart before its first line break. -/
theorem insertInFirstLine_eq (more line : Text) : ∃ first rest, line = first ++ rest ∧ .char '\n' ∉ first ∧
    (∀ point ∈ rest.head?, point = .char '\n') ∧ insertInFirstLine more line = first ++ more ++ rest := by
  refine ⟨_, _, List.takeWhile_append_dropWhile.symm, fun inside => ?_, fun point begins => ?_, rfl⟩
  · simpa using List.mem_takeWhile_imp inside
  · have stopped := List.head?_dropWhile_not (· != CodePoint.char '\n') line
    rw [Option.mem_def.mp begins] at stopped
    simpa using stopped

/-- A line for readers is the line without facts, completed by the facts. -/
theorem completes_textLine (record : Record) :
    Completes ((plainLine headLine).outcome record).2.extras ((plainLine headLine).outcome record).1
      (textLine.outcome record).1 := by
  unfold textLine
  -- Either there is no line, or the facts of the record as it is left then are added to it.
  rcases ran : (plainLine headLine).outcome record with ⟨failure | line, middle⟩
  · rw [Action.outcome_bind_of_error ran]
    exact .failed failure
  rw [Action.outcome_bind_of_ok ran, Action.outcome_bind_of_ok (Action.outcome_get middle)]
  dsimp only
  split
  · -- Without facts the line stays as it is.
    rename_i none
    rw [List.isEmpty_iff.mp none]
    obtain ⟨first, rest, rfl, unbroken, behind, _⟩ := insertInFirstLine_eq [] line
    have nothing : ([] : List (Text × Value)).mapM factPair = .ok [] := rfl
    have added := Completes.added unbroken behind nothing
    rwa [List.flatMap_nil, List.append_nil] at added
  rename_i given
  rw [factsText_eq]
  cases written : middle.extras.mapM factPair with
  | error fault => exact .unwritten written
  | ok pairs =>
    -- There is a fact, so there is a text for the blank to stand before.
    have some : pairs ≠ [] := by
      rintro rfl
      obtain ⟨fact, rest, shown⟩ := List.exists_cons_of_ne_nil fun nil => given (List.isEmpty_iff.mpr nil)
      rw [shown, List.mapM_cons] at written
      obtain ⟨_, _, _, _, none⟩ := Result.bind_bind_pure_eq_ok.mp written
      cases none
    obtain ⟨first, rest, rfl, unbroken, behind, inserted⟩ :=
      insertInFirstLine_eq (.char ' ' :: List.intercalate (↑" ") pairs) line
    have added := Completes.added unbroken behind written
    rw [← cons_intercalate some, ← inserted] at added
    exact added

/-- Writing a line for readers notes the message and the time, and keeps the text about the failure. -/
theorem textLine_notes {after : Record} {line : Text} (written : textLine.outcome record = (.ok line, after)) :
    ∃ message stamp, record.messageText = .ok message ∧ Stamp.plain record.created = .ok stamp ∧
      after = { ((record.note "message" (.text message)).note "asctime" (.text stamp)) with
        troubleText := record.troubleShown } := by
  obtain ⟨standard, middle, made, written⟩ := Action.outcome_bind_eq_ok.mp written
  -- Adding the facts changes nothing more.
  have last : middle = after := by
    rw [Action.outcome_bind_of_ok (Action.outcome_get middle)] at written
    dsimp only at written
    split at written
    · cases written
      rfl
    · obtain ⟨_, _, shown, written⟩ := Action.outcome_bind_eq_ok.mp written
      cases written
      exact (Action.outcome_ofValue_eq_ok.mp shown).2
  subst last
  -- The message is noted before the head of the line is made, which notes the time.
  rw [plainLine, Action.outcome_bind_of_ok (Action.outcome_get record)] at made
  obtain ⟨message, _, told, made⟩ := Action.outcome_bind_eq_ok.mp made
  obtain ⟨filled, rfl⟩ := Action.outcome_ofLog_eq_ok.mp told
  obtain ⟨_, _, ⟨⟩, made⟩ := Action.outcome_bind_eq_ok.mp made
  obtain ⟨_, _, headed, made⟩ := Action.outcome_bind_eq_ok.mp made
  rw [headLine, Action.outcome_bind_of_ok (Action.outcome_get _)] at headed
  obtain ⟨stamp, _, stamped, headed⟩ := Action.outcome_bind_eq_ok.mp headed
  obtain ⟨shown, rfl⟩ := Action.outcome_ofLog_eq_ok.mp stamped
  cases headed
  cases made
  exact ⟨message, stamp, filled, shown, rfl⟩

end Layout

namespace Use

variable {record state : Record}

/-- Every use is steady. -/
theorem steady_run (new : record.IsNew) (use : Use) : Steady record use.run := by
  cases use with
  | line layout =>
    -- A line is steady in both layouts.
    refine .bind new ?_ fun line => .pure _
    cases layout with
    | json => exact Layout.steady_jsonLine new
    | text => exact Layout.steady_textLine new
  | facts =>
    refine .get (fun state marked => ?_) (.pure _)
    rw [marked.extras_eq]

/-- Uses one after the other give what each of them gives alone, and leave marks only. -/
theorem runAll_of_marked (steady : ∀ use : Use, Steady record use.run) (marked : record.Marked state)
    (uses : List Use) : (runAll uses state).1 = uses.map (fun use => (use.run.outcome record).1) ∧
      record.Marked (runAll uses state).2 := by
  -- Each use finds the marks of those before it, and leaves its own.
  induction uses generalizing state with
  | nil => exact ⟨rfl, marked⟩
  | cons use rest ih =>
    obtain ⟨others, left⟩ := ih ((steady use).marked state marked)
    exact ⟨List.cons_eq_cons.mpr ⟨(steady use).same state marked, others⟩, left⟩

/-- Formatting does not disturb formatting. Each of several uses of an accepted record, about whose failure
nothing was written yet, gives what it gives for the record as it was at first. Only marks are left on the record:
the message, the time and the text about the failure, which a line for readers puts there. At any point the facts
that are shown are those whose names do not begin with an underscore, and the line for readers is the line without
facts, completed by them. -/
theorem runAll_undisturbed (accepted : record.accept = .ok record) (fresh : record.troubleText = none)
    (uses : List Use) :
    (runAll uses record).1 = uses.map (fun use => (use.run.outcome record).1) ∧
      record.Marked (runAll uses record).2 ∧
      (∀ line after, (Layout.line .text).outcome record = (.ok line, after) → ∃ message stamp,
        record.messageText = .ok message ∧ Stamp.plain record.created = .ok stamp ∧
          after = record.noted message stamp) ∧
      (runAll uses record).2.extras = record.fields.filter (fun field => field.1.head? != some (.char '_')) ∧
      Layout.Completes (runAll uses record).2.extras ((Layout.plainLine Layout.headLine).outcome record).1
        ((Layout.line .text).outcome (runAll uses record).2).1 := by
  have new := Record.isNew_of_accept accepted fresh
  have unmarked := Record.Marked.of_isNew new
  obtain ⟨alone, marked⟩ := runAll_of_marked (steady_run new) unmarked uses
  refine ⟨alone, marked, fun line after written => ?_, marked.extras_eq.trans new.extras_eq, ?_⟩
  · obtain ⟨message, stamp, filled, shown, rfl⟩ := Layout.textLine_notes written
    rw [unmarked.troubleShown_eq, new.note_note_eq]
    exact ⟨message, stamp, filled, shown, rfl⟩
  · -- A line for readers is the same with and without marks, and so are the facts that complete it.
    have standard := Layout.steady_plainLine new (Layout.steady_headLine new)
    have completed := Layout.completes_textLine record
    have shown := (Layout.steady_textLine new).same _ marked
    rw [(standard.marked record unmarked).extras_eq, ← marked.extras_eq, ← shown] at completed
    exact completed

/-- A record with a message of two lines, with a failure that nothing is known of and with a stack. -/
def tangled : Record where
  logger := "join"
  level := 30
  message := .text "first\nsecond"
  created := .whole 0
  trouble := .blank
  stack := some "Stack"
  fields := [("endpoint", .text "kms-1"), ("_seen", .null), ("hosts", .list [.text "kms-1", .text "kms-2"])]

/-- Its facts that are shown. -/
def tangledFacts : List (Text × Value) :=
  [("endpoint", .text "kms-1"), ("hosts", .list [.text "kms-1", .text "kms-2"])]

/-- It can be used in every way, again and again. -/
theorem runAll_undisturbed_tangled :
    tangled.accept = .ok tangled ∧ tangled.troubleText = none ∧
      (runAll [.line .text, .facts, .line .json, .line .text] tangled).1
        = [((run (.line .text)).outcome tangled).1, .ok (.facts tangled.extras),
            ((run (.line .json)).outcome tangled).1, ((run (.line .text)).outcome tangled).1] ∧
      ((Layout.line .text).outcome tangled).1.toOption
        = some (Text.ofString <| "1970-01-01 00:00:00 WARNING  [join] first endpoint=kms-1 hosts=kms-1,kms-2\n"
            ++ "second\nNoneType: None\nStack") ∧
      (runAll [.line .text, .facts, .line .json, .line .text] tangled).2.extras = tangledFacts ∧
      Layout.Completes tangledFacts ((Layout.plainLine Layout.headLine).outcome tangled).1
        ((Layout.line .text).outcome (runAll [.line .text, .facts, .line .json, .line .text] tangled).2).1 := by
  have accepted : tangled.accept = .ok tangled := rfl
  obtain ⟨alone, _, _, extras, completed⟩ :=
    runAll_undisturbed accepted rfl [.line .text, .facts, .line .json, .line .text]
  rw [extras] at completed
  exact ⟨accepted, rfl, alone, by decide +kernel, extras, completed⟩

end Use

end KeyCluster
