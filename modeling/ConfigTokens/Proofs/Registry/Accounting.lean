import Mathlib.Data.Set.Basic
import ConfigTokens.Proofs.Registry.Identity
/-!
# The files in a registry

The files that a registry answers after a call are those that it answered before, and those that were
loaded to their end during the call. This holds as long as no body of a file is abandoned to a request
to end, as is the case where no body in the trees raises one (`not_isAbandonment_of_raisesFailures`);
failures of bodies, nested to any depth, do not disturb it.
-/

namespace ConfigTokens.Module

/-- The files that a registry answers, with their exports. -/
def World.files
    (world : World)
    (registry : RegistryName) : Set (String × Export) :=
  {entry | FileTree.isRooted entry.1 = true ∧ world.answer? registry entry.1 = some entry.2}

/-- The files of a registry that were loaded to their end in some events, with their exports. -/
def completions
    (registry : RegistryName)
    (events : List Event) : Set (String × Export) :=
  {entry | ∃ event ∈ events, event.completed? = some (registry, entry)}

namespace World

theorem files_of_registry_eq_nil
    {world : World}
    {registry : RegistryName}
    (empty : world.registry registry = []) :
    world.files registry = ∅ := by
  ext entry
  simp [files, answer?, empty]

/-- A history adds to the files of a registry those that were loaded to their end in it. -/
theorem History.files_eq
    {start final : World}
    {events : List Event}
    (history : History start events final)
    {registry : RegistryName}
    (kept : ∀ file id, .bodyAbandoned registry file id ∉ events) :
    final.files registry = start.files registry ∪ completions registry events := by
  ext ⟨file, answer⟩
  constructor
  · rintro ⟨rooted, known⟩
    rcases (history.answer?_eq_some_iff rooted).mp known with old | ⟨event, member, left⟩
    · exact .inl ⟨rooted, old⟩
    · rcases Event.left?_eq_some_iff.mp left with completed | ⟨id, rfl, -⟩
      · exact .inr ⟨event, member, completed⟩
      · exact absurd member (kept file id)
  · rintro (⟨rooted, old⟩ | ⟨event, member, completed⟩)
    · exact ⟨rooted, history.answer?_kept old⟩
    · exact history.answer?_of_left member (Event.left?_of_completed? completed)

/--
In a run from an empty registry in which no body of a file is abandoned, every call adds to the files of
the registry exactly those that were loaded to their end during the call, and no others are there.
-/
theorem files_after_call
    {registry : RegistryName}
    {start : World}
    (empty : start.registry registry = [])
    (earlier : List Call)
    (call : Call)
    (failures :
      ∀ file id,
        .bodyAbandoned registry file id ∉
          (start.afterCalls (earlier ++ [call])).eventsSince start.journal.size) :
    let before := start.afterCalls earlier
    let after := call.after before
    after.files registry =
        before.files registry ∪ completions registry (after.eventsSince before.journal.size) ∧
      after.files registry = completions registry (after.eventsSince start.journal.size) := by
  intro before after
  have whole : start.afterCalls (earlier ++ [call]) = after := afterCalls_append start earlier [call]
  rw [whole] at failures
  have run : History start (after.eventsSince start.journal.size) after :=
    whole ▸ start.afterCalls_history (earlier ++ [call])
  have past : History start (before.eventsSince start.journal.size) before :=
    start.afterCalls_history earlier
  have last : History before (after.eventsSince before.journal.size) after :=
    before.afterCalls_history [call]
  have parts :
      after.eventsSince start.journal.size =
        before.eventsSince start.journal.size ++ after.eventsSince before.journal.size :=
    (past.append last).eventsSince_eq
  constructor
  · apply last.files_eq
    intro file id member
    apply failures file id
    rw [parts]
    exact List.mem_append_right _ member
  · rw [run.files_eq failures, files_of_registry_eq_nil empty, Set.empty_union]

/-- A file that fails in one call and, with another content, is loaded to its end in the next. -/
theorem files_after_loneCall :
    let before := empty.afterCalls [loneCall [.raise "RuntimeError" "late"]]
    let after := (loneCall []).after before
    empty.registry none = [] ∧
      after.files none =
          before.files none ∪ completions none (after.eventsSince before.journal.size) ∧
        after.files none = completions none (after.eventsSince empty.journal.size) := by
  intro before after
  let earlier : List Call := [loneCall [.raise "RuntimeError" "late"]]
  have raises : ∀ call ∈ earlier ++ [loneCall []], call.site.raisesFailures = true := by
    decide
  have kept := not_isAbandonment_of_raisesFailures raises empty
  refine ⟨rfl, files_after_call rfl earlier (loneCall []) ?_⟩
  intro file id member
  exact Bool.noConfusion (kept _ member)

end World

end ConfigTokens.Module
