import KeyCluster.Proofs.Cluster.Breakage
import KeyCluster.Proofs.Cluster.Calls

/-! A joining stops at the first call that fails, with the failure of that call. -/

namespace KeyCluster

variable {α : Type}

/-- How servers answer. An answer may depend on all calls before it. -/
def Behaviour : Type :=
  -- Nothing ties the answers to one another.
  (before : List Call) → (call : Call) → Except Failure call.Answer

namespace Behaviour

/-- The answer to a call, which joins the calls before it whether it fails or not. -/
def answer (behaviour : Behaviour) (call : Call) : Action (List Call) call.Answer :=
  fun before => (behaviour before call, before ++ [call])

/-- The control plane of servers that behave so. Its state are the calls that were made. -/
def plane (behaviour : Behaviour) : ControlPlane (List Call) where
  status hosts watched := behaviour.answer (.status hosts watched)
  add host hosts watched := behaviour.answer (.add host hosts watched)
  note _ := pure ()

/-- Two behaviours give the same answers to some calls, each in its place. -/
def Agree (behaviour other : Behaviour) (calls : List Call) : Prop :=
  -- What they answer to other calls, or to these in another order, does not matter.
  ∀ before call, before ++ [call] <+: calls → other before call = behaviour before call

/-- Making a call is getting the answer to it. -/
theorem make_plane (behaviour : Behaviour) (call : Call) : behaviour.plane.make call = behaviour.answer call := by
  cases call <;> rfl

/-- The chronicle of the calls that were made. -/
def chronicle : Chronicle (List Call) Call :=
  .ofLog fun calls => calls

/-- The calls between two states are those by which the later one is longer. -/
theorem tells_iff {calls before after : List Call} :
    chronicle.Tells calls before after ↔ after = before ++ calls :=
  Iff.rfl

/-- Every call is its own mark, whether it fails or not. -/
theorem plane_accounts (behaviour : Behaviour) :
    behaviour.plane.Accounts chronicle (fun call segment => segment = [call]) (fun _ _ => True)
      fun call segment _ _ => segment = [call] where
  -- In every case the call that is made is put behind those before it.
  status answered := ⟨_, (congrArg Prod.snd answered).symm, rfl, trivial⟩
  add accepted := ⟨_, (congrArg Prod.snd accepted).symm, rfl⟩
  note noted := (congrArg Prod.snd noted).symm.trans (List.append_nil _).symm
  statusBreaks broke := ⟨_, (congrArg Prod.snd broke).symm, rfl⟩
  addBreaks _ broke := ⟨_, (congrArg Prod.snd broke).symm, rfl⟩

/-- Segments of one call each are the calls that were made. -/
theorem calls_of_made {mark : Call → List Call → Prop} {calls before after : List Call}
    (alone : ∀ call segment, mark call segment → segment = [call])
    (made : chronicle.Made mark calls before after) : after = before ++ calls :=
  Chronicle.calls_of_made alone made

end Behaviour

namespace Dialogue

variable {behaviour other : Behaviour} {dialogue : Dialogue α} {before front rest : List Call}
  {call : Call} {result : Except Failure α} {failure : Failure}

/-- A call that fails is the last one. -/
theorem outcome_asks_of_error {next : call.Answer → Dialogue α}
    (failed : behaviour before call = .error failure) :
    ((asks call next).perform behaviour.plane).outcome before = (.error failure, before ++ [call]) := by
  apply Action.outcome_bind_of_error
  rw [Behaviour.make_plane]
  exact Prod.ext failed rfl

/-- After a call that is answered, the dialogue goes on with the answer. -/
theorem outcome_asks_of_ok {next : call.Answer → Dialogue α} {answer : call.Answer}
    (answered : behaviour before call = .ok answer) :
    ((asks call next).perform behaviour.plane).outcome before =
      ((next answer).perform behaviour.plane).outcome (before ++ [call]) := by
  apply Action.outcome_bind_of_ok
  rw [Behaviour.make_plane]
  exact Prod.ext answered rfl

/-- Calls are never taken back. -/
theorem prefix_outcome (behaviour : Behaviour) (dialogue : Dialogue α) (before : List Call) :
    before <+: ((dialogue.perform behaviour.plane).outcome before).2 := by
  -- Each call stands behind those before it.
  induction dialogue generalizing before with
  | ends result => cases result <;> exact List.prefix_refl before
  | tells entry next ih => exact ih before
  | asks call next ih =>
    have made := List.prefix_append before [call]
    cases answered : behaviour before call with
    | error failure => rwa [outcome_asks_of_error answered]
    | ok answer =>
      rw [outcome_asks_of_ok answered]
      exact made.trans (ih answer (before ++ [call]))

/-- What is asked first is the first call that is made. -/
theorem prefix_outcome_asks (behaviour : Behaviour) (call : Call) (next : call.Answer → Dialogue α)
    (before : List Call) :
    before ++ [call] <+: (((asks call next).perform behaviour.plane).outcome before).2 := by
  -- An answered call stays the first one, since whatever the rest does only adds to the calls.
  cases answered : behaviour before call with
  | error failure =>
    rewrite [outcome_asks_of_error answered]
    exact List.prefix_refl _
  | ok answer =>
    rw [outcome_asks_of_ok answered]
    exact prefix_outcome behaviour (next answer) (before ++ [call])

/-- A dialogue that ends without a word reaches no call. -/
theorem not_reached_of_ends {ended : Except Failure α} :
    ((ends ended).perform behaviour.plane).outcome before ≠ (result, before ++ (front ++ call :: rest)) := by
  -- The calls stay those from before, and that is one too few.
  intro ran
  have same : before = before ++ (front ++ call :: rest) := by
    cases ended <;> exact congrArg Prod.snd ran
  have lengths := congrArg List.length same
  simp only [List.length_append, List.length_cons] at lengths
  omega

/-- The call that a dialogue reaches is the next one, or the next one is answered and it comes later. -/
theorem reached_of_asks {asked : Call} {next : asked.Answer → Dialogue α}
    (ran : ((asks asked next).perform behaviour.plane).outcome before =
      (result, before ++ (front ++ call :: rest))) :
    (front = [] ∧ call = asked) ∨ ∃ tail answer, front = asked :: tail ∧
      behaviour before asked = .ok answer ∧
      ((next answer).perform behaviour.plane).outcome (before ++ [asked]) =
        (result, before ++ [asked] ++ (tail ++ call :: rest)) := by
  -- The call that is asked stands in front of all others, so it is the first one of `front`, or `call` itself.
  have first := prefix_outcome_asks behaviour asked next before
  rw [ran] at first
  have first := (List.prefix_append_right_inj before).mp first
  cases front with
  | nil =>
    obtain rfl : asked = call := by simpa using first
    exact .inl ⟨rfl, rfl⟩
  | cons head tail =>
    obtain rfl : asked = head := by simpa using first
    right
    cases answered : behaviour before asked with
    | error early =>
      -- A failure would have left no more calls.
      rw [outcome_asks_of_error answered] at ran
      simp at ran
    | ok answer =>
      rw [outcome_asks_of_ok answered] at ran
      exact ⟨tail, answer, rfl, rfl, by simpa using ran⟩

/-- A dialogue stops at a call that fails, with the failure of that call. -/
theorem stops_of_error
    (ran : (dialogue.perform behaviour.plane).outcome before = (result, before ++ (front ++ call :: rest)))
    (failed : behaviour (before ++ front) call = .error failure) :
    result = .error failure ∧ rest = [] := by
  -- A dialogue that reaches the call reaches it at its first question, or behind an answer.
  induction dialogue generalizing before front with
  | ends ended => exact absurd ran not_reached_of_ends
  | tells entry next ih => exact ih ran failed
  | asks asked next ih =>
    rcases reached_of_asks ran with ⟨rfl, rfl⟩ | ⟨tail, answer, rfl, answered, later⟩
    · rw [List.append_nil] at failed
      rw [outcome_asks_of_error failed] at ran
      simp only [Prod.mk.injEq, List.nil_append, List.append_cancel_left_eq, List.cons.injEq] at ran
      exact ⟨ran.1.symm, ran.2.2.symm⟩
    · exact ih answer later (by simpa using failed)

/-- Servers that give the same answers up to a call are asked the same up to that call. -/
theorem prefix_of_agree
    (ran : (dialogue.perform behaviour.plane).outcome before = (result, before ++ (front ++ call :: rest)))
    (agree : behaviour.Agree other (before ++ front)) :
    before ++ (front ++ [call]) <+: ((dialogue.perform other.plane).outcome before).2 := by
  -- As before; but now the other dialogue is followed, which gets the same answers up to the call.
  induction dialogue generalizing before front with
  | ends ended => exact absurd ran not_reached_of_ends
  | tells entry next ih => exact ih ran agree
  | asks asked next ih =>
    rcases reached_of_asks ran with ⟨rfl, rfl⟩ | ⟨tail, answer, rfl, answered, later⟩
    · exact prefix_outcome_asks other call next before
    · -- The others answer the next call alike, so the dialogue goes on alike.
      have same : other before asked = .ok answer := by rw [agree before asked (by simp), answered]
      rw [outcome_asks_of_ok same]
      simpa using ih answer later (by simpa using agree)

end Dialogue

/-- A discovery that fails has asked for the status of the endpoints in front and made no other call. -/
theorem Discovery.prefix_probes_of_fails {behaviour : Behaviour} {watched : Bool} {endpoints : List Text}
    {calls : List Call} {failure : Failure}
    (fails : Fails behaviour.plane Behaviour.chronicle (fun call segment => segment = [call])
      (fun _ _ => True) (fun call segment _ _ => segment = [call]) watched endpoints [] calls failure) :
    calls <+: probes watched endpoints := by
  -- Calls that were answered are put in front of the last one.
  cases fails with
  | broken found =>
    cases found with
    | call planned made told broke =>
      obtain rfl := Behaviour.calls_of_made (fun _ _ => And.left) made
      obtain rfl := broke
      exact ⟨_, by rw [planned, Behaviour.tells_iff.mp told, ← List.append_cons]⟩
    | message planned made free untold => cases untold
  | @misnamed done rest _ _ _ _ _ planned made told marked shown several unnamed =>
    obtain rfl := Behaviour.calls_of_made (fun _ _ => And.left) made
    obtain rfl := marked
    refine ⟨probes watched rest, ?_⟩
    rw [planned, Behaviour.tells_iff.mp told, List.nil_append, probes, probes, probes, List.map_append,
      List.map_cons, ← List.append_cons]

namespace Join

/--
A joining in which a call fails.

The call is the last one, and the joining fails with the failure of the call. Servers that give the same
answers to the calls in front are asked the same up to this call, whatever they answer then.

Where a question for the status fails, no host was asked to be taken in. Where a request to take in a host
fails, as many outsiders were asked for as there were requests, in their order.
-/
theorem join_stops (behaviour : Behaviour) (endpoints : List Text) (watched : Bool)
    {result : Except Failure Unit} {made front rest : List Call} {call : Call} {failure : Failure}
    (ran : (join behaviour.plane (.texts endpoints) watched).outcome [] = (result, made))
    (reached : made = front ++ call :: rest) (failed : behaviour front call = .error failure) :
    result = .error failure ∧ rest = [] ∧
      (∀ other : Behaviour, behaviour.Agree other front →
        made <+: ((join other.plane (.texts endpoints) watched).outcome []).2) ∧
      (∀ hosts asked, call = .status hosts asked →
        ∀ host others told, .add host others told ∉ made) ∧
      ∀ host hosts asked, call = .add host hosts asked → ∃ members settled count tried,
        (Discovery.membership behaviour.plane (.texts endpoints) watched).outcome [] =
          (.ok members, settled) ∧
        settled = Discovery.probes watched (endpoints.take count) ∧
        0 < tried ∧ tried ≤ (outsiders members endpoints).length ∧
        made = settled ++ (additions members watched endpoints).take tried := by
  obtain ⟨dialogue, same⟩ := exists_dialogue watched (.texts endpoints)
  -- What holds of every dialogue gives the first three parts.
  have held : (dialogue.perform behaviour.plane).outcome [] = (result, [] ++ (front ++ call :: rest)) := by
    rw [← same, ran, reached, List.nil_append]
  obtain ⟨rfl, rfl⟩ := Dialogue.stops_of_error held failed
  refine ⟨rfl, rfl, fun other agree => ?_, ?_⟩
  · rw [same, reached]
    exact Dialogue.prefix_of_agree held agree
  -- With a single endpoint there is no call that could fail.
  have several : 2 ≤ endpoints.length := by
    by_contra few
    rw [join_of_length_lt (by omega), Action.outcome_pure] at ran
    cases ran
  rcases join_eq_error behaviour.plane_accounts several ran with ⟨_, fails⟩ |
    ⟨members, settled, count, discovered, _, probed, broken⟩
  · -- Whoever is asked in the search is asked for the status, so no request to take in is among the calls.
    have probed := (Discovery.prefix_probes_of_fails fails).subset
    refine ⟨fun _ _ _ host others told inside => Discovery.add_not_mem_probes (probed inside), ?_⟩
    rintro host hosts asked rfl
    have inside : .add host hosts asked ∈ made := by simp [reached]
    exact absurd (probed inside) Discovery.add_not_mem_probes
  · obtain rfl := Behaviour.calls_of_made (fun _ _ => And.left) probed
    cases broken with
    | message planned added free untold => cases untold
    | @call done more last segment middle planned added told broke =>
      obtain rfl := Behaviour.calls_of_made (fun _ _ => id) added
      obtain rfl := broke
      -- The call that failed is the last one, which asks for the next outsider.
      have ended := Behaviour.tells_iff.mp told
      obtain ⟨_, rfl⟩ := List.append_singleton_inj.mp (reached.symm.trans ended)
      have inside : call ∈ additions members watched endpoints := by simp [planned]
      refine ⟨fun hosts asked same => ?_, fun _ _ _ _ => ?_⟩
      · exact absurd (same ▸ inside) status_not_mem_additions
      · refine ⟨members, _, count, done.length + 1, discovered, by simp, by omega, ?_, ?_⟩
        · have lengths := congrArg List.length planned
          simp only [additions, List.length_map, List.length_append, List.length_cons] at lengths
          omega
        · rw [ended, planned, List.append_cons done call more, List.take_left' (by simp),
            List.append_assoc _ done]

/-- Servers that are alone each and take in every host but one. -/
def refusing (unwanted : Text) (failure : Failure) : Behaviour
  | _, .status hosts _ => .ok { up := [], down := hosts.map .text }
  | _, .add host _ _ => if host = unwanted then .error failure else .ok ()

/-- Of two outsiders the second one is refused, and a third one is never asked for. -/
theorem join_stops_refused :
    (join (refusing "c" .cancelled).plane (.texts ["https://a/", "b", "c", "d"]) true).outcome [] =
      (.error .cancelled, [.status ["a"] true, .status ["b"] true, .status ["c"] true, .status ["d"] true,
        .add "b" ["a"] true, .add "c" ["a"] true]) ∧
    ∀ other : Behaviour, (refusing "c" .cancelled).Agree other [.status ["a"] true, .status ["b"] true,
        .status ["c"] true, .status ["d"] true, .add "b" ["a"] true] →
      [.status ["a"] true, .status ["b"] true, .status ["c"] true, .status ["d"] true,
        .add "b" ["a"] true, .add "c" ["a"] true] <+:
        ((join other.plane (.texts ["https://a/", "b", "c", "d"]) true).outcome []).2 := by
  -- The run is computed, and the last of its calls is the one that fails.
  have ran : (join (refusing "c" .cancelled).plane (.texts ["https://a/", "b", "c", "d"]) true).outcome [] =
      (.error .cancelled, [.status ["a"] true, .status ["b"] true, .status ["c"] true,
        .status ["d"] true, .add "b" ["a"] true, .add "c" ["a"] true]) := rfl
  have reached : ([.status ["a"] true, .status ["b"] true, .status ["c"] true, .status ["d"] true,
      .add "b" ["a"] true, .add "c" ["a"] true] : List Call) =
    [.status ["a"] true, .status ["b"] true, .status ["c"] true, .status ["d"] true,
      .add "b" ["a"] true] ++ .add "c" ["a"] true :: [] := rfl
  obtain ⟨_, _, agreed, _⟩ :=
    join_stops (refusing "c" .cancelled) ["https://a/", "b", "c", "d"] true ran reached rfl
  exact ⟨ran, agreed⟩

end Join

end KeyCluster
