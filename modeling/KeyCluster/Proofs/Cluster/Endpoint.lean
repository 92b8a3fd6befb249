import KeyCluster.Cluster.Endpoint
import Mathlib.Data.List.DropRight

/-! Hosts are normal forms of endpoints. A host is the host of those endpoints that spell it, with or without
a scheme in front and with any number of slashes behind, unless it could be mistaken for a scheme. -/

namespace KeyCluster.Endpoint

/-- Dropping closing slashes is dropping from the right. -/
theorem dropSlashes_eq (text : Text) : dropSlashes text = text.rdropWhile (· == .char '/') :=
  rfl

/-- Nothing is dropped exactly where no slash is at the end. -/
theorem dropSlashes_eq_self_iff {text : Text} : dropSlashes text = text ↔ ¬ [.char '/'] <:+ text := by
  rw [dropSlashes_eq, List.rdropWhile_eq_self_iff]
  constructor
  · -- A text that is kept does not end with a slash, so the one behind `front` is a contradiction.
    rintro kept ⟨front, rfl⟩
    simpa using kept (by simp)
  · intro trimmed present ended
    -- If the last code point were a slash, the text would be what stands before it and that slash.
    refine trimmed ⟨text.dropLast, ?_⟩
    rw [← beq_iff_eq.mp ended, List.dropLast_append_getLast]

/-- A host does not end with a slash. -/
theorem not_suffix_host (endpoint : Text) : ¬ [.char '/'] <:+ host endpoint := by
  -- The slashes at its end are dropped already, so dropping them again changes nothing.
  apply dropSlashes_eq_self_iff.mp
  simp only [host, dropSlashes_eq]
  exact List.rdropWhile_idempotent _ _

/-- A text without a scheme in front has none to drop. -/
theorem dropScheme_of_not_prefix {text : Text} (plain : ¬ scheme <+: text) :
    dropScheme text = text := by
  -- The check for a scheme is the one for a prefix.
  have absent : ¬ scheme.isPrefixOf text = true := fun found =>
    plain (List.isPrefixOf_iff_prefix.mp found)
  rw [dropScheme, if_neg absent]

/-- A host is its own host, as long as no second scheme was behind the first. -/
theorem host_host {endpoint : Text} (plain : ¬ scheme <+: host endpoint) :
    host (host endpoint) = host endpoint := by
  -- Nothing is left to drop in front, and the slashes at the end are gone already.
  rw [host.eq_def (host endpoint), dropScheme_of_not_prefix plain]
  exact dropSlashes_eq_self_iff.mpr (not_suffix_host endpoint)

variable {endpoint front rest : Text}

/-- One scheme is dropped, whatever stands behind it. -/
theorem dropScheme_append (rest : Text) : dropScheme (scheme ++ rest) = rest := by
  rw [dropScheme, if_pos (List.isPrefixOf_iff_prefix.mpr (List.prefix_append scheme rest)), List.drop_left]

/-- Slashes at the end are dropped together with those in front of them. -/
theorem dropSlashes_append_of_slashes (only : ∀ c ∈ rest, c = .char '/') :
    dropSlashes (front ++ rest) = dropSlashes front := by
  have dropped : rest.reverse.dropWhile (· == .char '/') = [] :=
    List.dropWhile_eq_nil_iff.mpr fun c inside => beq_iff_eq.mpr (only c (List.mem_reverse.mp inside))
  rw [dropSlashes, List.reverse_append, List.dropWhile_append, dropped]
  rfl

/-- Dropping slashes goes no further than something else. -/
theorem dropSlashes_append_of_other (other : ∃ c ∈ rest, c ≠ .char '/') :
    dropSlashes (front ++ rest) = front ++ dropSlashes rest := by
  -- Something in `rest` is no slash, so the dropping stops before it reaches `front`.
  have kept : (rest.reverse.dropWhile (· == .char '/')).isEmpty = false := by
    rw [List.isEmpty_eq_false_iff, Ne, List.dropWhile_eq_nil_iff]
    obtain ⟨c, inside, differs⟩ := other
    exact fun only => differs (beq_iff_eq.mp (only c (List.mem_reverse.mpr inside)))
  rw [dropSlashes, List.reverse_append, List.dropWhile_append, kept]
  simp [dropSlashes]

/-- A host is empty when nothing but slashes is left without the scheme. -/
theorem host_eq_nil_iff : host endpoint = [] ↔ ∀ c ∈ dropScheme endpoint, c = .char '/' := by
  rw [host, dropSlashes_eq, List.rdropWhile_eq_nil_iff]
  simp

/-- A host begins with a scheme when a second one stood behind the first, and more than slashes behind that. -/
theorem scheme_prefix_host_iff : scheme <+: host endpoint ↔
    ∃ rest, endpoint = scheme ++ scheme ++ rest ∧ ∃ c ∈ rest, c ≠ .char '/' := by
  constructor
  · intro again
    -- The host is the front of what is left without the first scheme.
    have left : scheme <+: dropScheme endpoint :=
      again.trans (by rw [host, dropSlashes_eq]; exact List.rdropWhile_prefix _ _)
    obtain ⟨rest, behind⟩ := left
    have first : scheme <+: endpoint := by
      by_contra plain
      have whole := dropScheme_of_not_prefix plain
      rw [whole] at behind
      exact plain ⟨rest, behind⟩
    obtain ⟨tail, rfl⟩ := first
    rw [dropScheme_append] at behind
    subst behind
    refine ⟨rest, (List.append_assoc _ _ _).symm, ?_⟩
    -- Slashes alone would take the end of the second scheme with them.
    by_contra only
    have slashes : ∀ c ∈ rest, c = .char '/' := by simpa using only
    rw [host, dropScheme_append, dropSlashes_append_of_slashes slashes] at again
    revert again
    decide
  · rintro ⟨rest, rfl, other⟩
    rw [host, List.append_assoc, dropScheme_append, dropSlashes_append_of_other other]
    exact List.prefix_append _ _

/-- A host is its own host exactly when it does not begin with a scheme. -/
theorem host_host_iff : host (host endpoint) = host endpoint ↔ ¬ scheme <+: host endpoint := by
  refine ⟨?_, host_host⟩
  rintro same ⟨rest, again⟩
  -- Otherwise the host of the host is shorter, since it has lost that scheme.
  have shorter : (host (host endpoint)).length ≤ rest.length := by
    rw [← again, host, dropScheme_append, dropSlashes_eq]
    exact (List.rdropWhile_prefix _ _).length_le
  rw [same, ← again, List.length_append] at shorter
  have long : scheme.length = 8 := by decide
  omega

/-- An endpoint names a host under one name only. -/
structure IsUsable (endpoint : Text) : Prop where
  /-- It is more than a scheme and slashes. -/
  named : ∃ c ∈ dropScheme endpoint, c ≠ .char '/'
  /-- It does not begin with two schemes, unless they have nothing but slashes behind them. -/
  single : ∀ rest, endpoint = scheme ++ scheme ++ rest → ∀ c ∈ rest, c = .char '/'

/-- These are the endpoints whose host is there, and is its own host. -/
theorem isUsable_iff : IsUsable endpoint ↔ host endpoint ≠ [] ∧ host (host endpoint) = host endpoint := by
  have named : host endpoint ≠ [] ↔ ∃ c ∈ dropScheme endpoint, c ≠ .char '/' := by
    rw [Ne, host_eq_nil_iff]
    simp
  have single : host (host endpoint) = host endpoint ↔
      ∀ rest, endpoint = scheme ++ scheme ++ rest → ∀ c ∈ rest, c = .char '/' := by
    rw [host_host_iff, scheme_prefix_host_iff]
    simp
  rw [named, single]
  -- Both parts say the same as the fields, once they are told of the text behind the first scheme.
  exact ⟨fun usable => ⟨usable.named, usable.single⟩, fun ⟨named, single⟩ => ⟨named, single⟩⟩

/-- Some slashes in a row. -/
def slashes (count : Nat) : Text :=
  List.replicate count (.char '/')

/-- Slashes behind slashes are more of them. -/
theorem append_slashes_slashes (front : Text) (count more : Nat) :
    front ++ slashes count ++ slashes more = front ++ slashes (count + more) := by
  rw [List.append_assoc, slashes, slashes, List.replicate_append_replicate, slashes]

/-- A row of slashes at the end is dropped. -/
theorem dropSlashes_append_slashes (front : Text) (count : Nat) :
    dropSlashes (front ++ slashes count) = dropSlashes front :=
  dropSlashes_append_of_slashes fun _ inside => List.eq_of_mem_replicate inside

/-- Nothing else is dropped. -/
theorem exists_eq_dropSlashes_append (text : Text) : ∃ count, text = dropSlashes text ++ slashes count := by
  -- What is dropped is the longest end of the text that consists of slashes.
  have only : ∀ c ∈ text.rtakeWhile (· == .char '/'), c = .char '/' := by
    intro c inside
    have slash := List.mem_rtakeWhile_imp inside
    exact beq_iff_eq.mp slash
  refine ⟨(text.rtakeWhile (· == .char '/')).length, ?_⟩
  rw [slashes, ← List.eq_replicate_of_mem only, dropSlashes_eq, List.rdropWhile_append_rtakeWhile]

/-- An endpoint is spelled with a name, which some slashes may follow. -/
inductive Spells (name endpoint : Text) : Prop
  /-- Nothing stands in front of the name. -/
  | bare (count : Nat) (same : endpoint = name ++ slashes count)
  /-- One scheme stands in front of it. -/
  | schemed (count : Nat) (same : endpoint = scheme ++ name ++ slashes count)

namespace Spells

variable {name : Text}

/-- Every endpoint spells its own host. -/
theorem host (endpoint : Text) : Spells (host endpoint) endpoint := by
  by_cases found : scheme <+: endpoint
  · -- Behind the scheme stands the host, with the slashes that are dropped.
    obtain ⟨rest, rfl⟩ := found
    obtain ⟨count, left⟩ := exists_eq_dropSlashes_append rest
    refine .schemed count ?_
    rw [Endpoint.host, dropScheme_append, List.append_assoc, ← left]
  · -- Without a scheme the host is what the endpoint begins with.
    obtain ⟨count, left⟩ := exists_eq_dropSlashes_append endpoint
    refine .bare count ?_
    rw [Endpoint.host, dropScheme_of_not_prefix found, ← left]

/-- More slashes at the end spell the same name. -/
theorem append_slashes (spells : Spells name endpoint) (more : Nat) :
    Spells name (endpoint ++ slashes more) := by
  cases spells with
  | bare count same => exact .bare (count + more) (by rw [same, append_slashes_slashes])
  | schemed count same => exact .schemed (count + more) (by rw [same, append_slashes_slashes])

/-- Slashes at the end of a name are some of those that follow it. -/
theorem trim (spells : Spells name endpoint) : Spells (dropSlashes name) endpoint := by
  obtain ⟨inner, whole⟩ := exists_eq_dropSlashes_append name
  -- The slashes that are dropped of the name join those behind it, so only their count grows.
  rw [whole] at spells
  cases spells with
  | bare count same => exact .bare (inner + count) (by rw [same, append_slashes_slashes])
  | schemed count same =>
    exact .schemed (inner + count) (by rw [same, ← List.append_assoc, append_slashes_slashes])

end Spells

/-- A scheme is dropped together with the slashes, whatever stands between them. -/
theorem host_schemed (name : Text) (count : Nat) :
    host (scheme ++ name ++ slashes count) = dropSlashes name := by
  rw [host, List.append_assoc, dropScheme_append, dropSlashes_append_slashes]

/-- A name cannot be mistaken for something else when slashes are written behind it. -/
structure IsPlain (name : Text) : Prop where
  bare : ¬ scheme <+: name
  trimmed : ¬ [.char '/'] <:+ name
  /-- It is not what two slashes make a scheme of. -/
  proper : name ≠ ("https:" : Text)

instance (name : Text) : Decidable (IsPlain name) :=
  decidable_of_iff (¬ scheme <+: name ∧ ¬ [.char '/'] <:+ name ∧ name ≠ ("https:" : Text))
    ⟨fun ⟨bare, trimmed, proper⟩ => ⟨bare, trimmed, proper⟩,
      fun plain => ⟨plain.bare, plain.trimmed, plain.proper⟩⟩

namespace IsPlain

variable {name : Text}

/-- Slashes behind a plain name do not make it begin with a scheme. -/
theorem not_prefix_append_slashes (plain : IsPlain name) (count : Nat) :
    ¬ scheme <+: name ++ slashes count := by
  intro found
  have front : name <+: name ++ slashes count := List.prefix_append name _
  rcases List.prefix_or_prefix_of_prefix found front with inside | ⟨rest, whole⟩
  · exact plain.bare inside
  · -- Otherwise the name is the front of the scheme, and only slashes are left of the scheme behind it.
    have only : ∀ c ∈ rest, c = .char '/' := by
      rw [← whole, List.prefix_append_right_inj] at found
      exact fun c inside => List.eq_of_mem_replicate (found.subset inside)
    -- One name alone is the scheme without its slashes.
    have same : dropSlashes scheme = name := by
      rw [← whole, dropSlashes_append_of_slashes only, dropSlashes_eq_self_iff.mpr plain.trimmed]
    exact plain.proper (same.symm.trans (by decide))

/-- A plain name is the host of the endpoints that spell it. -/
theorem host_eq_iff (plain : IsPlain name) : host endpoint = name ↔ Spells name endpoint := by
  constructor
  · intro same
    exact same ▸ .host endpoint
  · intro spells
    have kept : dropSlashes name = name := dropSlashes_eq_self_iff.mpr plain.trimmed
    cases spells with
    | bare count same =>
      -- No scheme is dropped here, since the name does not make one with its slashes.
      have absent : ¬ scheme <+: name ++ slashes count := plain.not_prefix_append_slashes count
      rw [same, host, dropScheme_of_not_prefix absent, dropSlashes_append_slashes, kept]
    | schemed count same => rw [same, host_schemed, kept]

/-- An endpoint with a plain host keeps it when slashes are written behind it. -/
theorem host_append_slashes (plain : IsPlain (host endpoint)) (more : Nat) :
    host (endpoint ++ slashes more) = host endpoint :=
  plain.host_eq_iff.mpr ((Spells.host endpoint).append_slashes more)

end IsPlain

variable {other : Text}

/-- Endpoints with plain hosts have the same host when they spell the same name, whatever name it is. -/
theorem host_eq_host_iff (plain : IsPlain (host endpoint)) (alike : IsPlain (host other)) :
    host endpoint = host other ↔ ∃ name, Spells name endpoint ∧ Spells name other := by
  constructor
  · -- The common host is itself a name that both spell.
    intro same
    exact ⟨host endpoint, .host endpoint, same ▸ .host other⟩
  · rintro ⟨name, here, there⟩
    by_cases named : IsPlain (dropSlashes name)
    · -- Then the name without its slashes is the host of both.
      rw [named.host_eq_iff.mpr here.trim, named.host_eq_iff.mpr there.trim]
    · -- Otherwise it would be the host of an endpoint with a scheme, so both have none in front of it.
      have bare {text : Text} (spells : Spells name text) (fit : IsPlain (host text)) :
          ∃ count, text = name ++ slashes count := by
        cases spells with
        | bare count same => exact ⟨count, same⟩
        | schemed count same =>
          rw [same, host_schemed] at fit
          exact absurd fit named
      obtain ⟨count, rfl⟩ := bare here plain
      obtain ⟨total, rfl⟩ := bare there alike
      -- One of them is the other one with more slashes.
      rcases Nat.le_total count total with within | within
      · obtain ⟨more, rfl⟩ := Nat.exists_eq_add_of_le within
        rw [← append_slashes_slashes, plain.host_append_slashes]
      · obtain ⟨more, rfl⟩ := Nat.exists_eq_add_of_le within
        rw [← append_slashes_slashes, alike.host_append_slashes]

/--
Which endpoints a host stands for.

A host does not end with a slash, and it is its own host exactly when it does not begin with a scheme. A
plain name is the host of the endpoints that spell it: of itself and of itself behind a scheme, each with any
number of slashes at the end. So endpoints with plain hosts have the same host exactly when they differ in no
more than one scheme in front and in the slashes at the end.
-/
theorem host_identifies :
    (∀ endpoint, ¬ [.char '/'] <:+ host endpoint ∧
      (host (host endpoint) = host endpoint ↔ ¬ scheme <+: host endpoint)) ∧
    (∀ name, IsPlain name → ∀ endpoint, host endpoint = name ↔ Spells name endpoint) ∧
    ∀ endpoint other, IsPlain (host endpoint) → IsPlain (host other) →
      (host endpoint = host other ↔ ∃ name, Spells name endpoint ∧ Spells name other) :=
  ⟨fun endpoint => ⟨not_suffix_host endpoint, host_host_iff⟩,
    fun _ plain _ => plain.host_eq_iff,
    fun _ _ plain alike => host_eq_host_iff plain alike⟩

/-- A name that begins almost with a scheme is the host of an endpoint that has a scheme in front of it. -/
theorem host_identifies_almost :
    IsPlain "https:/a" ∧ (host "https://https:/a//" = "https:/a" ∧ Spells "https:/a" "https://https:/a//") ∧
    IsPlain (host "https:/a/") ∧ IsPlain (host "https://https:/a//") ∧
    host "https:/a/" = host "https://https:/a//" ∧
      ∃ name, Spells name "https:/a/" ∧ Spells name "https://https:/a//" := by
  have named : IsPlain "https:/a" := by decide
  have spelled : host "https://https:/a//" = "https:/a" := by decide
  have plain : IsPlain (host "https:/a/") := by decide
  have alike : IsPlain (host "https://https:/a//") := by decide
  have same : host "https:/a/" = host "https://https:/a//" := by decide
  exact ⟨named, ⟨spelled, (host_identifies.2.1 _ named _).mp spelled⟩, plain, alike, same,
    (host_identifies.2.2 _ _ plain alike).mp same⟩

/-- A scheme without its slashes is its own host, but with them behind it there is no host. -/
example : host "https:" = "https:" ∧ host "https://" = [] := by decide

end KeyCluster.Endpoint
