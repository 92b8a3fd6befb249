import KeyCluster.Proofs.Config.Dependence

/-! Texts that are put together from parts, and when each part can be read by itself. -/

namespace KeyCluster

namespace Reference

variable {front rest text behind : Text} {r : Reference}

/-- Wherever a reference seems to begin in a text, there is a closing brace behind it. -/
def IsClosed (text : Text) : Prop :=
  ∀ rest, opening ++ rest <:+ text → closing ∈ rest

/-- One text ends with the dollar sign of an opening, and the other one begins with its brace. -/
def Straddles (front rest : Text) : Prop :=
  [.char '$'] <:+ front ∧ [.char '\x7b'] <+: rest

/-- Parts of a text. Each one is closed, and no opening comes about between them. -/
inductive AreParts : List Text → Prop
  | nil : AreParts []
  /-- The first one ends well, whatever the others are. -/
  | cons {part : Text} {rest : List Text} (closed : IsClosed part)
      (apart : ¬ Straddles part rest.flatten) (behind : AreParts rest) : AreParts (part :: rest)

/-- It is enough to look at every place in the text. -/
theorem isClosed_iff :
    IsClosed text ↔ ∀ tail ∈ text.tails, opening <+: tail → closing ∈ tail.drop opening.length := by
  -- What stands behind an opening is the end of the text without the two code points.
  constructor
  · rintro closed tail inside ⟨rest, rfl⟩
    rw [List.drop_left]
    exact closed rest ((List.mem_tails _ _).mp inside)
  · intro closed rest suffix
    have behind := closed _ ((List.mem_tails _ _).mpr suffix) (List.prefix_append _ _)
    rwa [List.drop_left] at behind

instance : Decidable (IsClosed text) :=
  decidable_of_iff' _ isClosed_iff

instance : Decidable (Straddles front rest) :=
  inferInstanceAs (Decidable (_ ∧ _))

/-- What is left of a closed text is closed. -/
theorem IsClosed.of_append (front : Text) (closed : IsClosed (front ++ rest)) : IsClosed rest :=
  fun behind suffix => closed behind (suffix.trans (List.suffix_append front rest))

/-- Where no opening comes about behind a text, none does behind what is left of it. -/
theorem not_straddles_of_append (front : Text) (apart : ¬ Straddles (front ++ rest) behind) :
    ¬ Straddles rest behind :=
  fun ⟨dollar, brace⟩ => apart ⟨dollar.trans (List.suffix_append front rest), brace⟩

/-- The first parts are parts of what they make up. -/
theorem AreParts.of_append_left {front rest : List Text} (areParts : AreParts (front ++ rest)) :
    AreParts front := by
  induction front with
  | nil => exact .nil
  | cons part front ih =>
    rw [List.cons_append] at areParts
    obtain _ | ⟨closed, apart, behind⟩ := areParts
    refine .cons closed (fun ⟨dollar, brace⟩ => apart ⟨dollar, ?_⟩) (ih behind)
    -- What begins with a brace still does so with something behind it.
    rw [List.flatten_append]
    exact brace.trans (List.prefix_append _ _)

/-- So are the last ones. -/
theorem AreParts.of_append_right {front rest : List Text} (areParts : AreParts (front ++ rest)) :
    AreParts rest := by
  -- The parts in front are taken away one by one.
  induction front with
  | nil => exact areParts
  | cons part front ih =>
    obtain _ | ⟨_, _, behind⟩ := areParts
    exact ih behind

/-- There is no closing brace in a name. -/
theorem IsName.closing_not_mem {name : Text} (isName : IsName name) : closing ∉ name := by
  obtain ⟨c, rest, rfl, start, chars⟩ := isName
  -- The brace can stand neither first in a name nor later.
  have first : isNameStart closing = false := by decide
  have later : isNameChar closing = false := by decide
  intro inside
  rcases List.mem_cons.mp inside with rfl | inside
  · cases first.symm.trans start
  · cases later.symm.trans (chars _ inside)

/-- Nor is there one in front of the end of a reference. -/
theorem IsProper.closing_not_mem (proper : r.IsProper) : closing ∉ r.name ++ ending r.fallback := by
  rw [List.mem_append, not_or]
  refine ⟨proper.name.closing_not_mem, ?_⟩
  cases given : r.fallback with
  | none => exact List.not_mem_nil
  | some fallback =>
    -- Neither the sign in front of the fallback nor the fallback holds one.
    have sign : closing ∉ ([.char ':', .char '-'] : Text) := by decide
    exact fun inside => (List.mem_append.mp inside).elim sign (proper.closed fallback given)

/-- A reference at the beginning of a closed text and something behind it is written in the text alone. -/
theorem IsProper.prefix_of_closed (proper : r.IsProper) (some : text ≠ []) (closed : IsClosed text)
    (apart : ¬ Straddles text behind) (written : r.text <+: text ++ behind) : r.text <+: text := by
  obtain ⟨after, same⟩ := written
  have split : .char '$' :: .char '\x7b' :: ((r.name ++ ending r.fallback) ++ closing :: after) =
      text ++ behind := by
    rw [← same, Reference.text]
    simp only [opening, List.append_assoc, List.cons_append, List.nil_append]
  rcases text with _ | ⟨c, _ | ⟨d, tail⟩⟩
  · exact absurd rfl some
  · -- The opening would stand on both sides of the cut.
    rw [List.singleton_append, List.cons.injEq] at split
    obtain ⟨rfl, left⟩ := split
    exact absurd ⟨List.suffix_refl _, ⟨_, left⟩⟩ apart
  · rw [List.cons_append, List.cons_append, List.cons.injEq, List.cons.injEq] at split
    obtain ⟨rfl, rfl, left⟩ := split
    -- The first closing brace ends the reference, and there is one in front of the cut.
    obtain ⟨before, last, rfl, first⟩ := List.eq_append_cons_of_mem (closed tail (List.suffix_refl _))
    rw [List.append_assoc before, List.cons_append] at left
    have content := congrArg (List.takeWhile (· != closing)) left
    rw [takeWhile_of_not_mem proper.closing_not_mem, takeWhile_of_not_mem first] at content
    refine ⟨last, ?_⟩
    rw [Reference.text, List.append_assoc opening, content]
    simp only [opening, List.append_assoc, List.cons_append, List.nil_append]

end Reference

namespace Piece

variable {text behind : Text} {pieces others : List Piece}

/-- A closed text is read by itself, and what stands behind it is, too. -/
theorem Reads.append (reads : Reads text pieces) (closed : Reference.IsClosed text)
    (apart : ¬ Reference.Straddles text behind) (after : Reads behind others) :
    Reads (text ++ behind) (pieces ++ others) := by
  -- Along the reading of the text: what is left of it is closed, too.
  induction reads with
  | nil => exact after
  | @reference r rest _ proper _ ih =>
    rw [List.append_assoc]
    exact .reference proper (ih (closed.of_append _) (Reference.not_straddles_of_append _ apart))
  | @point c rest _ plain _ ih =>
    -- A reference that is not written here does not come about by what stands behind.
    have plain : ∀ r : Reference, r.IsProper → ¬ r.text <+: c :: (rest ++ behind) := fun r proper written =>
      plain r proper (proper.prefix_of_closed (List.cons_ne_nil c rest) closed apart written)
    exact .point plain (ih (closed.of_append [c]) (Reference.not_straddles_of_append [c] apart))

/-- So it is taken apart by itself. -/
theorem ofText_append (closed : Reference.IsClosed text) (apart : ¬ Reference.Straddles text behind) :
    ofText (text ++ behind) = ofText text ++ ofText behind :=
  reads_iff.mp ((reads_iff.mpr rfl).append closed apart (reads_iff.mpr rfl))

/-- Parts are taken apart one by one. -/
theorem ofText_flatten {parts : List Text} (areParts : Reference.AreParts parts) :
    ofText parts.flatten = parts.flatMap ofText := by
  induction areParts with
  | nil => rw [List.flatten_nil, List.flatMap_nil, ofText]
  | cons closed apart _ ih => rw [List.flatten_cons, List.flatMap_cons, ofText_append closed apart, ih]

end Piece

/-- What parts make up refers to nothing to which none of them does. -/
theorem Value.mem_textReferences_flatten {parts : List Text} (areParts : Reference.AreParts parts) {r : Reference} :
    r ∈ textReferences parts.flatten ↔ ∃ part ∈ parts, (Value.text part).Refers r := by
  simp only [refers_text, mem_textReferences, Piece.ofText_flatten areParts, List.mem_flatMap]

namespace Environment

variable {environment : Environment} {s t : Text} {parts : List Text}

/-- Pieces behind others are replaced after them. -/
theorem expandPieces_append (front rest : List Piece) :
    environment.expandPieces (front ++ rest) = (do
      let here ← environment.expandPieces front
      return here ++ (← environment.expandPieces rest)) := by
  induction front with
  | nil => exact (bind_pure _).symm
  | cons piece front ih =>
    rw [List.cons_append, expandPieces, expandPieces, ih]
    simp only [bind_assoc, pure_bind, List.append_assoc]

/-- A closed text and what stands behind it are expanded one after another. -/
theorem expandText_append (closed : Reference.IsClosed s) (apart : ¬ Reference.Straddles s t) :
    environment.expandText (s ++ t) = (do
      let here ← environment.expandText s
      return here ++ (← environment.expandText t)) := by
  rw [expandText, Piece.ofText_append closed apart, expandPieces_append]
  rfl

/-- The failure of a closed text counts, and else the one of what stands behind it. -/
theorem expand_append_eq_error (closed : Reference.IsClosed s) (apart : ¬ Reference.Straddles s t)
    {failure : Failure} : environment.expand (.text (s ++ t)) = .error failure ↔
      environment.expand (.text s) = .error failure ∨
        (∃ here, environment.expand (.text s) = .ok here) ∧
          environment.expand (.text t) = .error failure := by
  simp only [expand, expand_text_eq_error, expand_text_eq_ok, expandText_append closed apart,
    Result.bind_bind_pure_eq_error]
  -- The failure stems from the text in front, or from the one behind it where the first one succeeds.
  constructor
  · rintro ⟨fault, failed | ⟨⟨here, done⟩, failed⟩, rfl⟩
    · exact .inl ⟨fault, failed, rfl⟩
    · exact .inr ⟨⟨_, here, done, rfl⟩, fault, failed, rfl⟩
  · rintro (⟨fault, failed, rfl⟩ | ⟨⟨_, here, done, _⟩, fault, failed, rfl⟩)
    · exact ⟨fault, .inl failed, rfl⟩
    · exact ⟨fault, .inr ⟨⟨here, done⟩, failed⟩, rfl⟩

/-- Where both of them succeed, their results are put together. -/
theorem expand_append_eq_ok (closed : Reference.IsClosed s) (apart : ¬ Reference.Straddles s t)
    {result : Value} : environment.expand (.text (s ++ t)) = .ok result ↔
      ∃ here behind, environment.expand (.text s) = .ok (.text here) ∧
        environment.expand (.text t) = .ok (.text behind) ∧ result = .text (here ++ behind) := by
  simp only [expand, expand_text_eq_ok, expandText_append closed apart, Result.bind_bind_pure_eq_ok]
  constructor
  · rintro ⟨_, ⟨here, first, behind, second, rfl⟩, rfl⟩
    exact ⟨here, behind, ⟨here, first, rfl⟩, ⟨behind, second, rfl⟩, rfl⟩
  · rintro ⟨here, behind, ⟨_, first, ⟨⟩⟩, ⟨_, second, ⟨⟩⟩, rfl⟩
    exact ⟨_, ⟨here, first, behind, second, rfl⟩, rfl⟩

/-- The parts of a text are expanded one after another, too. -/
theorem expandText_flatten (areParts : Reference.AreParts parts) :
    environment.expandText parts.flatten = (parts.mapM environment.expandText).map List.flatten := by
  -- Along the parts: the first one is expanded by itself, and the others are together one text behind it.
  induction areParts with
  | nil =>
    rw [List.flatten_nil, expandText, Piece.ofText]
    rfl
  | @cons part rest closed apart _ ih =>
    rw [List.flatten_cons, expandText_append closed apart, ih, List.mapM_cons]
    -- Only the first failure counts on both sides.
    cases environment.expandText part <;> cases rest.mapM environment.expandText <;> rfl

/-- The last parts are expanded behind the first ones. -/
theorem expandText_flatten_append {front rest : List Text} (areParts : Reference.AreParts (front ++ rest)) :
    environment.expandText (front ++ rest).flatten = (do
      let here ← environment.expandText front.flatten
      return here ++ (← environment.expandText rest.flatten)) := by
  rw [expandText_flatten areParts, expandText_flatten areParts.of_append_left,
    expandText_flatten areParts.of_append_right, List.mapM_append]
  -- If the front fails, both sides fail alike; if the rest fails, so do both, too.
  cases front.mapM environment.expandText with
  | error => rfl
  | ok here =>
    cases rest.mapM environment.expandText with
    | error => rfl
    | ok behind => exact congrArg Except.ok List.flatten_append

/-- Parts are expanded alike, where two environments agree about what each of them refers to. -/
theorem expandText_flatten_congr {other : Environment} (areParts : Reference.AreParts parts)
    (agree : ∀ part ∈ parts, ∀ r, (Value.text part).Refers r → environment r.name = other r.name) :
    environment.expandText parts.flatten = other.expandText parts.flatten := by
  refine expandText_congr fun r inside => ?_
  obtain ⟨part, isPart, refers⟩ := (Value.mem_textReferences_flatten areParts).mp inside
  exact agree part isPart r refers

/-- What one part becomes in another environment takes its place among the others, which stay. -/
theorem expandText_change {other : Environment} {front rest : List Text} {part before here behind : Text}
    (areParts : Reference.AreParts (front ++ part :: rest))
    (agree : ∀ others ∈ front ++ rest, ∀ r, (Value.text others).Refers r →
      environment r.name = other r.name)
    (first : environment.expandText front.flatten = .ok before)
    (second : environment.expandText rest.flatten = .ok behind)
    (changed : other.expandText part = .ok here) :
    other.expandText (front ++ part :: rest).flatten = .ok (before ++ here ++ behind) := by
  -- The parts in front and behind are expanded in the other environment as they were.
  obtain ⟨agreeFirst, agreeSecond⟩ := List.forall_mem_append.mp agree
  have last := areParts.of_append_right
  obtain _ | ⟨closed, apart, others⟩ := last
  rw [expandText_flatten_congr areParts.of_append_left agreeFirst] at first
  rw [expandText_flatten_congr others agreeSecond] at second
  rw [expandText_flatten_append areParts, List.flatten_cons, expandText_append closed apart, first,
    changed, second, List.append_assoc]
  rfl

/--
Expanding a text that is put together from others.

Two texts can be cut apart if every opening in the first one has a closing brace behind it there, and no
opening comes about where they meet. Then each of them is expanded by itself, and the failure of the first
one is the one that counts. The same goes for any number of parts, and it is for each of them alone to say
how it is read.

So what the references in one part are replaced by does not matter to any other part, whatever it looks
like. In an environment that differs in nothing to which the others refer, they become what they were.
-/
theorem expand_append (environment : Environment) :
    (∀ s t, Reference.IsClosed s → ¬ Reference.Straddles s t →
      (∀ failure, environment.expand (.text (s ++ t)) = .error failure ↔
        environment.expand (.text s) = .error failure ∨
          (∃ here, environment.expand (.text s) = .ok here) ∧
            environment.expand (.text t) = .error failure) ∧
      ∀ result, environment.expand (.text (s ++ t)) = .ok result ↔
        ∃ here behind, environment.expand (.text s) = .ok (.text here) ∧
          environment.expand (.text t) = .ok (.text behind) ∧ result = .text (here ++ behind)) ∧
    ∀ parts, Reference.AreParts parts →
      Piece.ofText parts.flatten = parts.flatMap Piece.ofText ∧
      environment.expandText parts.flatten = (parts.mapM environment.expandText).map List.flatten ∧
      ∀ front part rest, parts = front ++ part :: rest → ∀ before behind,
        environment.expand (.text front.flatten) = .ok (.text before) →
        environment.expand (.text rest.flatten) = .ok (.text behind) → ∀ other : Environment,
        (∀ others ∈ front ++ rest, ∀ r, (Value.text others).Refers r → environment r.name = other r.name) →
        ∀ here, other.expand (.text part) = .ok (.text here) →
          other.expand (.text parts.flatten) = .ok (.text (before ++ here ++ behind)) := by
  refine ⟨fun s t closed apart => ⟨fun failure => expand_append_eq_error closed apart,
    fun result => expand_append_eq_ok closed apart⟩, fun parts areParts =>
    ⟨Piece.ofText_flatten areParts, expandText_flatten areParts, ?_⟩⟩
  rintro front part rest rfl before behind first second other agree here changed
  -- What stands in front and behind reads the same variables in both environments, so only the part changes.
  obtain ⟨_, first, ⟨⟩⟩ := expand_text_eq_ok.mp first
  obtain ⟨_, second, ⟨⟩⟩ := expand_text_eq_ok.mp second
  obtain ⟨_, changed, ⟨⟩⟩ := expand_text_eq_ok.mp changed
  exact expand_text_eq_ok.mpr ⟨_, expandText_change areParts agree first second changed, rfl⟩

/-- What a variable holds looks like the beginning of a reference, and the text goes on with a closing brace.
Neither this nor a dollar sign in its place is read together with that brace. -/
theorem expand_append_seam :
    (Reference.IsClosed "<$\x7bX\x7d" ∧ ¬ Reference.Straddles "<$\x7bX\x7d" "\x7d") ∧
      Reference.AreParts ["<", "$\x7bX\x7d", "\x7d"] ∧
      (Environment.ofList [("X", "$\x7bY")]).expand (.text "<$\x7bX\x7d\x7d") = .ok (.text "<$\x7bY\x7d") ∧
      (Environment.ofList [("X", "$")]).expand (.text "<$\x7bX\x7d\x7d") = .ok (.text "<$\x7d") := by
  have closed : Reference.IsClosed "<$\x7bX\x7d" := by decide
  have apart : ¬ Reference.Straddles "<$\x7bX\x7d" "\x7d" := by decide
  obtain ⟨two, parts⟩ := expand_append (.ofList [("X", "$\x7bY")])
  have areParts : Reference.AreParts ["<", "$\x7bX\x7d", "\x7d"] :=
    .cons (by decide) (by decide) (.cons (by decide) (by decide) (.cons (by decide) (by decide) .nil))
  obtain ⟨_, _, change⟩ := parts _ areParts
  -- There is no other reference, so the environments may differ in anything.
  have plain : ∀ part ∈ (["<", "\x7d"] : List Text), ¬ Reference.opening <:+: part := by decide
  have agree : ∀ part ∈ (["<", "\x7d"] : List Text), ∀ r, (Value.text part).Refers r →
      Environment.ofList [("X", "$\x7bY")] r.name = Environment.ofList [("X", "$")] r.name := by
    intro part isPart r refers
    rw [Value.refers_text, Value.textReferences_of_plain (plain part isPart)] at refers
    cases refers
  have before : (Environment.ofList [("X", "$\x7bY")]).expand (.text "<") = .ok (.text "<") :=
    Value.eq_ok_of_isSurely (by decide +kernel)
  have behind : (Environment.ofList [("X", "$\x7bY")]).expand (.text "\x7d") = .ok (.text "\x7d") :=
    Value.eq_ok_of_isSurely (by decide +kernel)
  have opens : (Environment.ofList [("X", "$\x7bY")]).expand (.text "<$\x7bX\x7d") = .ok (.text "<$\x7bY") :=
    Value.eq_ok_of_isSurely (by decide +kernel)
  have changed : (Environment.ofList [("X", "$")]).expand (.text "$\x7bX\x7d") = .ok (.text "$") :=
    Value.eq_ok_of_isSurely (by decide +kernel)
  refine ⟨⟨closed, apart⟩, areParts, ?_, ?_⟩
  · exact ((two _ _ closed apart).2 _).mpr ⟨"<$\x7bY", "\x7d", opens, behind, rfl⟩
  · exact change ["<"] _ ["\x7d"] rfl "<" "\x7d" before behind (.ofList [("X", "$")]) agree "$" changed

/-- Neither condition can be left out: a fallback may end behind the cut, and so may an opening. -/
example : (Environment.ofList []).expandText (Text.ofString "$\x7bA:-" ++ Text.ofString "b\x7d") = .ok "b" ∧
    (Environment.ofList [("A", "c")]).expandText (Text.ofString "$" ++ Text.ofString "\x7bA\x7d") = .ok "c" := by
  constructor <;> exact Result.eq_ok_of_toOption (by decide +kernel)

end Environment

end KeyCluster
