import KeyCluster.Http.Client
import KeyCluster.Proofs.Cluster.Dialogue

/-! What a client does step by step. Every operation of a client is one routine, whoever it talks to and
whether it is watched or not. -/

namespace KeyCluster

variable {σ α β : Type} {client : Client}

/-- Sends a request with the time limit that is due, and tells the log about it before. -/
def Client.dispatch (client : Client) (network : Network σ) (method url : Text) (body : Option Value)
    (watched : Bool) : Action (World σ) (Except Failure Response) := do
  let timeout ← client.limit watched
  note (method ++ " " ++ url)
  send network { method, url, timeout, body, credentials := client.credentials }

/-- What a client does in turn, where what comes of each request decides how it goes on. -/
inductive Routine (α : Type) where
  | ends (result : Except Failure α)
  | tells (entry : Entry) (next : Routine α)
  /-- The operation is ended here if it has to stop. -/
  | checks (next : Routine α)
  | sends (method url : Text) (body : Option Value) (next : Except Failure Response → Routine α)

namespace Routine

/-- Goes through a routine. What fails first ends it. -/
def perform (client : Client) (network : Network σ) (watched : Bool) : Routine α → Action (World σ) α
  | ends (.ok a) => pure a
  | ends (.error failure) => throw failure
  | tells entry next => do
    World.note entry
    next.perform client network watched
  | checks next => do
    Client.check watched
    next.perform client network watched
  | sends method url body next => do
    let outcome ← client.dispatch network method url body watched
    (next outcome).perform client network watched

/-- One routine after another, which hangs on the result of the first. -/
def bind (routine : Routine α) (next : α → Routine β) : Routine β :=
  match routine with
  | ends (.ok a) => next a
  | ends (.error failure) => ends (.error failure)
  | tells entry rest => tells entry (rest.bind next)
  | checks rest => checks (rest.bind next)
  | sends method url body rest => sends method url body fun outcome => (rest outcome).bind next

/-- Going through one routine after another is going through both in turn. -/
theorem perform_bind (network : Network σ) (watched : Bool) (routine : Routine α)
    (next : α → Routine β) : (routine.bind next).perform client network watched =
      routine.perform client network watched >>= fun a => (next a).perform client network watched := by
  -- What comes later is put behind the last step.
  induction routine with
  | ends result => cases result <;> rfl
  | tells entry rest ih => simp only [bind, perform, ih, bind_assoc]
  | checks rest ih => simp only [bind, perform, ih, bind_assoc]
  | sends method url body rest ih => simp only [bind, perform, ih, bind_assoc]

/-- A routine is what an operation of a client does, on every network, be it watched or not. -/
def Describes (client : Client) (routine : Routine α)
    (operation : ∀ {σ : Type}, Network σ → Bool → Action (World σ) α) : Prop :=
  ∀ {σ : Type} (network : Network σ) (watched : Bool),
    operation network watched = routine.perform client network watched

end Routine

/-- An operation of a client follows a routine. -/
def IsRoutine (client : Client) (operation : ∀ {σ : Type}, Network σ → Bool → Action (World σ) α) : Prop :=
  ∃ routine : Routine α, routine.Describes client @operation

namespace IsRoutine

/-- Using a value is over at once. -/
theorem ofValue (result : Except ValueFault α) : IsRoutine client fun _ _ => Action.ofValue result :=
  ⟨.ends (result.mapError .value), fun _ _ => by cases result <;> rfl⟩

/-- So is returning. -/
theorem pure (a : α) : IsRoutine client fun _ _ => (Pure.pure a : Action _ α) :=
  ofValue (.ok a)

/-- So is failing. -/
theorem throw (failure : Failure) :
    IsRoutine client fun _ _ => (MonadExcept.throw failure : Action _ α) :=
  ⟨.ends (.error failure), fun _ _ => rfl⟩

/-- Telling the log something is one step. -/
theorem note (entry : Entry) : IsRoutine client fun _ _ => World.note entry :=
  ⟨.tells entry (.ends (.ok ())), fun _ _ => (bind_pure _).symm⟩

/-- So is checking whether the operation has to stop. -/
theorem check : IsRoutine client fun _ watched => Client.check watched :=
  ⟨.checks (.ends (.ok ())), fun _ _ => (bind_pure _).symm⟩

/-- So is sending a request. -/
theorem dispatch (method url : Text) (body : Option Value) :
    IsRoutine client fun network watched => client.dispatch network method url body watched :=
  ⟨.sends method url body fun outcome => .ends (.ok outcome), fun _ _ => (bind_pure _).symm⟩

/-- Routines in sequence are a routine. -/
theorem bind {first : ∀ {σ : Type}, Network σ → Bool → Action (World σ) α}
    {next : ∀ {σ : Type}, Network σ → Bool → α → Action (World σ) β} (begun : IsRoutine client first)
    (goesOn : ∀ a, IsRoutine client fun network watched => next network watched a) :
    IsRoutine client fun network watched => first network watched >>= next network watched := by
  -- For every result of the first routine there is one that follows it.
  obtain ⟨routine, same⟩ := begun
  choose following sameNext using goesOn
  refine ⟨routine.bind following, fun network watched => ?_⟩
  rw [Routine.perform_bind, ← same network watched]
  exact congrArg (first network watched >>= ·) (funext fun a => sameNext a network watched)

end IsRoutine

namespace Client

/-- A time limit, a message and a request are the sending of the request. -/
theorem dispatch_bind (network : Network σ) (method url : Text) (body : Option Value) (watched : Bool)
    (next : Except Failure Response → Action (World σ) α) :
    (do
      let timeout ← client.limit watched
      note (method ++ " " ++ url)
      let outcome ← send network { method, url, timeout, body, credentials := client.credentials }
      next outcome) = client.dispatch network method url body watched >>= next := by
  simp only [dispatch, bind_assoc]

/-- Accepting an answer takes no step. -/
theorem isRoutine_accept (method path host : Text) (response : Response) :
    IsRoutine client fun _ _ => accept method path host response := by
  dsimp only [accept]
  split
  · exact (IsRoutine.throw _).bind fun _ => .pure response
  · exact .pure response

/-- Asking one host after another is a routine. -/
theorem isRoutine_askFrom (method path : Text) (body : Option Value) (last : Text × Text)
    (endpoints : List Value) : IsRoutine client fun network watched =>
      client.askFrom network method path body watched last endpoints := by
  -- Induction on the hosts: what comes of a request decides whether the others are asked.
  induction endpoints generalizing last with
  | nil => exact .throw _
  | cons endpoint rest ih =>
    simp only [askFrom, dispatch_bind]
    refine (IsRoutine.ofValue (Endpoint.hostOf endpoint)).bind fun host => ?_
    refine IsRoutine.check.bind fun _ => (IsRoutine.dispatch _ _ _).bind fun outcome => ?_
    cases outcome with
    | ok response => exact isRoutine_accept method path host response
    | error failure =>
      dsimp only
      split
      · exact .throw failure
      · refine IsRoutine.check.bind fun _ => ?_
        split
        · exact (IsRoutine.note _).bind fun _ => ih _
        · exact .throw _

/-- Asking hosts is a routine. -/
theorem isRoutine_ask (method path : Text) (body : Option Value) (hosts : Value) :
    IsRoutine client fun network watched => client.ask network method path body hosts watched := by
  unfold ask
  -- The hosts are walked through as one list, whatever value it came from.
  have asking : IsRoutine client fun network watched =>
      Action.ofValue hosts.parts >>= client.askFrom network method path body watched ("", "None") :=
    (IsRoutine.ofValue hosts.parts).bind fun items => isRoutine_askFrom method path body _ items
  split
  · exact (IsRoutine.throw _).bind fun _ => asking
  · exact asking

/-- Asking for the status is a routine. -/
theorem isRoutine_status (hosts : Value) :
    IsRoutine client fun network watched => client.status network hosts watched := by
  refine (isRoutine_ask _ _ _ hosts).bind fun response => ?_
  -- The answer is read, which takes no step.
  cases reportOf response with
  | ok report => exact .pure report
  | error failure => exact .throw failure

/-- Asking for a host to be taken in is a routine. -/
theorem isRoutine_add (host hosts : Value) :
    IsRoutine client fun network watched => client.add network host hosts watched := by
  refine (IsRoutine.ofValue (Endpoint.hostOf host)).bind fun name => ?_
  exact (isRoutine_ask _ _ _ hosts).bind fun _ => .pure ()

end Client

/-- The same control plane, with one flag for all calls. -/
def ControlPlane.flagged (plane : ControlPlane σ) (watched : Bool) : ControlPlane σ where
  status hosts _ := plane.status hosts watched
  add host hosts _ := plane.add host hosts watched
  note := plane.note

section

variable (plane : ControlPlane σ) (watched flag : Bool)

/-- Searching only passes its flag on. -/
theorem Discovery.probe_flagged (endpoints : List Value) :
    probe (plane.flagged watched) flag endpoints = probe plane watched endpoints := by
  induction endpoints with
  | nil => rfl
  | cons endpoint rest ih =>
    simp only [probe, ih]
    rfl

/-- Adding only passes its flag on. -/
theorem Join.addAll_flagged (members : List Text) (endpoints : List Value) :
    addAll (plane.flagged watched) members flag endpoints = addAll plane members watched endpoints := by
  induction endpoints with
  | nil => rfl
  | cons endpoint rest ih =>
    simp only [addAll, ih]
    rfl

/-- Joining only passes its flag on. -/
theorem Join.join_flagged (endpoints : Value) :
    join (plane.flagged watched) endpoints flag = join plane endpoints watched := by
  simp only [join, Discovery.membership, Discovery.probe_flagged, addAll_flagged]
  rfl

end

/-- A dialogue with servers is a routine for a client that reaches them. -/
theorem Dialogue.isRoutine (dialogue : Dialogue α) :
    IsRoutine client fun network watched =>
      dialogue.perform ((client.plane network).flagged watched) := by
  -- Every call of the dialogue is a routine in turn.
  induction dialogue with
  | ends result =>
    cases result with
    | ok a => exact .pure a
    | error failure => exact .throw failure
  | tells entry next ih => exact (IsRoutine.note entry).bind fun _ => ih
  | asks call next ih =>
    cases call with
    | status hosts _ => exact (Client.isRoutine_status _).bind ih
    | add host hosts _ => exact (Client.isRoutine_add _ _).bind ih

/-- Joining is a routine. -/
theorem Join.isRoutine_join (endpoints : Value) :
    IsRoutine client fun network watched => join (client.plane network) endpoints watched := by
  -- The dialogue is the one of a joining with one flag, since the calls have only one.
  obtain ⟨dialogue, same⟩ := exists_dialogue true endpoints
  obtain ⟨routine, described⟩ : IsRoutine client fun network watched =>
    dialogue.perform ((client.plane network).flagged watched) := dialogue.isRoutine
  refine ⟨routine, fun network watched => ?_⟩
  calc join (client.plane network) endpoints watched
      = join ((client.plane network).flagged watched) endpoints true := (join_flagged _ _ _ _).symm
    _ = dialogue.perform ((client.plane network).flagged watched) := same _
    _ = routine.perform client network watched := described network watched

end KeyCluster
