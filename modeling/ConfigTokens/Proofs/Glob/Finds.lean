import ConfigTokens.Proofs.Glob.Lower
/-!
# Texts that a pattern finds

`Finds` tells by rules which texts a walk finds, without their order: a pattern without special characters
finds itself, any other one finds what its last segment matches in a directory that the rest of it names or
finds. So a property of all that is found is proved rule by rule.
-/

namespace ConfigTokens.Glob

open ConfigTokens.Path
open ConfigTokens.Wildcard

namespace Scope

variable {Content : Type}
variable {scope : Scope Content}

/-- A text is found for a pattern. -/
inductive Finds
    (scope : Scope Content) : Bool → List Char → List Char → Prop where
  /-- A pattern without special characters finds itself. -/
  | literal {directoriesOnly : Bool} {pattern : List Char} :
      isMagic pattern = false → scope.Holds pattern → Finds scope directoriesOnly pattern pattern
  /-- The last segment is matched in the directory that the rest of the pattern names. -/
  | inNamed {directoriesOnly : Bool} {pattern name : List Char} {names : List (List Char)} :
      isMagic pattern = true → isMagic (directory pattern) = false →
        scope.matchLast directoriesOnly (beneath scope.root (directory pattern)) (baseName pattern) =
            .ok names →
          name ∈ names → Finds scope directoriesOnly pattern (join (directory pattern) name)
  /-- The last segment is matched in a directory that the rest of the pattern finds. -/
  | inFound {directoriesOnly : Bool} {pattern place name : List Char} {names : List (List Char)} :
      isMagic (directory pattern) = true → Finds scope true (directory pattern) place →
        scope.matchLast directoriesOnly (beneath scope.root place) (baseName pattern) = .ok names →
          name ∈ names → Finds scope directoriesOnly pattern (join place name)

/-- What the last segment finds in a place is of a kind, if it is for each place. -/
theorem matchEach_finds
    {directoriesOnly : Bool}
    {last : List Char}
    {places : List (List Char)}
    {kind : List Char → Prop}
    (each : ∀ place ∈ places, ∀ names,
      scope.matchLast directoriesOnly (beneath scope.root place) last = .ok names →
        ∀ name ∈ names, kind (join place name)) :
    Ensures (∀ text ∈ ·, kind text) (scope.matchEach directoriesOnly last places) := by
  refine Ensures.mapM_flatten fun place among => ?_
  cases matched : scope.matchLast directoriesOnly (beneath scope.root place) last with
  | error fault => exact trivial
  | ok names =>
      intro text member
      obtain ⟨name, inside, rfl⟩ := List.mem_map.mp member
      exact each place among names matched name inside

/-- Whatever a walk finds is found by the rules. -/
theorem expandFrom_finds
    (fuel : Nat)
    (directoriesOnly : Bool)
    (pattern : List Char) :
    Ensures (∀ text ∈ ·, scope.Finds directoriesOnly pattern text)
      (scope.expandFrom fuel directoriesOnly pattern) := by
  induction fuel generalizing directoriesOnly pattern with
  | zero => exact List.forall_mem_nil _
  | succ fuel shorter =>
      cases shape pattern with
      | plain literal =>
          rw [expandFrom_of_plain fuel directoriesOnly literal]
          intro text member
          split at member
          case isTrue stands =>
              rw [List.mem_singleton.mp member]
              exact .literal literal stands
          case isFalse => cases member
      | alone magic alone =>
          -- Without a directory the last segment is matched in the root.
          rw [expandFrom_of_alone fuel directoriesOnly magic alone]
          cases matched : scope.matchLast directoriesOnly scope.root (baseName pattern) with
          | error fault => exact trivial
          | ok names =>
              intro name member
              have root : beneath scope.root (directory pattern) = scope.root := by
                rw [alone]
                unfold beneath
                split
                case isTrue empty => exact empty.symm
                case isFalse => exact if_pos rfl
              have joined : join (directory pattern) name = name := by
                rw [alone]
                unfold join
                split <;> rfl
              have finds : scope.Finds directoriesOnly pattern (join (directory pattern) name) :=
                .inNamed magic (by rw [alone]; rfl) (by rw [root, matched]) member
              rwa [joined] at finds
      | last magic below literal =>
          rw [expandFrom_of_last fuel directoriesOnly magic below literal]
          refine matchEach_finds fun place among names matched name member => ?_
          rw [List.mem_singleton.mp among] at matched ⊢
          exact .inNamed magic literal matched member
      | special _ front =>
          rw [expandFrom_of_special fuel directoriesOnly front]
          refine (shorter true (directory pattern)).bind fun places found => ?_
          exact matchEach_finds fun place among names matched name member =>
            .inFound front (found place among) matched member

theorem expand_finds
    (pattern : List Char) :
    Ensures (∀ text ∈ ·, scope.Finds false pattern text) (scope.expand pattern) := by
  rw [expand_eq]
  exact (expandFrom_finds _ false pattern).bind fun found all text member =>
    all text ((withoutRoot_sublist pattern found).subset member)

/-- Each text in the result of a walk is found by the rules. -/
theorem finds_of_expand
    {pattern : List Char}
    {found : List (List Char)}
    (given : scope.expand pattern = .ok found) :
    ∀ text ∈ found, scope.Finds false pattern text := by
  have all : Ensures (∀ text ∈ ·, scope.Finds false pattern text) (scope.expand pattern) :=
    expand_finds pattern
  rwa [given] at all

end Scope

end ConfigTokens.Glob
