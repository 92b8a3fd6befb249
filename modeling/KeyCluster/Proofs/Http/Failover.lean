import KeyCluster.Proofs.Http.Exchange

/-! Requests go to hosts in order, up to the first one that can be reached. -/

namespace KeyCluster

namespace Exchange

/-- An exchange is about a resource of a host. -/
def Asks (method host path : Text) (body : Option Value) (exchange : Exchange) : Prop :=
  -- Time limit and credentials are left open.
  exchange.request.method = method ∧ exchange.request.url = Endpoint.scheme ++ host ++ path ∧
    exchange.request.body = body

/-- The host could not be reached. -/
def Unreached (exchange : Exchange) : Prop :=
  -- Other breakdowns, such as an answer that takes too long, are not of this kind.
  ∃ failure kind, exchange.outcome = .error failure ∧ failure.kind = .transport kind ∧
    kind.isUnreachable = true

/-- There was an answer, which is no error. -/
def Accepted (exchange : Exchange) : Prop :=
  ∃ response, exchange.outcome = .ok response ∧ response.status < 400

/-- There was an answer. -/
def isAnswered (exchange : Exchange) : Bool :=
  exchange.outcome.isOk

/-- A host that could not be reached gave no answer. -/
theorem Unreached.not_answered {exchange : Exchange} (unreached : exchange.Unreached) :
    exchange.isAnswered = false := by
  obtain ⟨_, _, failed, _⟩ := unreached
  rw [isAnswered, failed]
  rfl

/-- Who accepted has answered. -/
theorem Accepted.answered {exchange : Exchange} (accepted : exchange.Accepted) :
    exchange.isAnswered = true := by
  obtain ⟨_, answered, _⟩ := accepted
  rw [isAnswered, answered]
  rfl

end Exchange

/-- The exchanges of a request that is accepted in the end: some hosts in front are tried in order, of which
only the last one can be reached. -/
def Failover (method path : Text) (body : Option Value) (hosts : List Text) (run : List Exchange) : Prop :=
  -- Hosts behind the one that answers are never asked.
  ∃ missed last tried, run = missed ++ [last] ∧ tried <+: hosts ∧
    List.Forall₂ (Exchange.Asks method · path body) tried run ∧
    (∀ exchange ∈ missed, exchange.Unreached) ∧ last.Accepted

namespace Failover

variable {method path : Text} {body : Option Value} {host : Text} {hosts : List Text}
  {exchange : Exchange} {run : List Exchange}

/-- The first host accepts. -/
theorem single (asks : exchange.Asks method host path body) (accepted : exchange.Accepted) :
    Failover method path body (host :: hosts) [exchange] :=
  ⟨[], exchange, [host], rfl, ⟨hosts, rfl⟩, .cons asks .nil, by simp, accepted⟩

/-- The first host cannot be reached, and so the others are tried. -/
theorem cons (asks : exchange.Asks method host path body) (unreached : exchange.Unreached)
    (behind : Failover method path body hosts run) :
    Failover method path body (host :: hosts) (exchange :: run) := by
  obtain ⟨missed, last, tried, rfl, front, asked, failed, accepted⟩ := behind
  exact ⟨exchange :: missed, last, host :: tried, rfl, List.cons_prefix_cons.mpr ⟨rfl, front⟩,
    .cons asks asked, List.forall_mem_cons.mpr ⟨unreached, failed⟩, accepted⟩

/-- Each exchange is with one of the hosts. -/
theorem exists_asks (failover : Failover method path body hosts run) (inside : exchange ∈ run) :
    ∃ host ∈ hosts, exchange.Asks method host path body := by
  -- Whoever was tried is one of them.
  obtain ⟨_, _, tried, _, front, asked, _⟩ := failover
  obtain ⟨host, isTried, asks⟩ := exists_left_of_mem asked inside
  exact ⟨host, front.subset isTried, asks⟩

/-- Exactly one host answers. -/
theorem countP_answered (failover : Failover method path body hosts run) :
    run.countP Exchange.isAnswered = 1 := by
  -- The one that answers is the last, and none in front of it was reached.
  obtain ⟨missed, last, _, rfl, _, _, failed, accepted⟩ := failover
  have silent : missed.countP Exchange.isAnswered = 0 :=
    List.countP_eq_zero.mpr fun exchange inside => by simp [(failed exchange inside).not_answered]
  rw [List.countP_append, silent, List.countP_singleton, if_pos accepted.answered]

/-- A single host accepts at once. -/
theorem of_single (failover : Failover method path body [host] run) :
    ∃ exchange, run = [exchange] ∧ exchange.Asks method host path body ∧ exchange.Accepted := by
  obtain ⟨missed, last, tried, rfl, front, asked, _, accepted⟩ := failover
  -- There is at least one exchange and at most one host.
  have lengths := asked.length_eq
  have most := front.length_le
  rw [List.length_append, List.length_singleton] at lengths
  rw [List.length_singleton] at most
  have none : missed = [] := List.eq_nil_of_length_eq_zero (by omega)
  have all : tried = [host] := front.eq_of_length (by simp; omega)
  subst none all
  cases asked with
  | cons asks _ => exact ⟨last, rfl, asks, accepted⟩

end Failover

end KeyCluster
