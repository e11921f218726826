import ConfigTokens.Module.Site
import ConfigTokens.Proofs.FileTree.Descent
/-!
# Bodies that raise failures only

A step that raises names the class that it raises, and some classes are requests to end rather than
failures. `Site.raisesFailures` reads off a tree of files that no body in it raises a request: a program
is an entry of the tree, and a text that is read as a program raises nothing.
-/

namespace ConfigTokens

namespace FileTree

variable {Content : Type}

/-- What is read from a path is the content of a file of the tree. -/
theorem mem_entries_of_read
    {tree : FileTree Content}
    {cwd : List String}
    {path : String}
    {content : Content}
    (read : tree.read cwd path = .ok content) :
    ∃ place, (place, Entry.file content) ∈ tree.entries := by
  unfold FileTree.read at read
  split at read
  case h_1 place found walked =>
      cases read
      exact ⟨place, mem_entries_of_find_file walked⟩
  case h_2 => cases read
  case h_3 => cases read

end FileTree

namespace Module

/-! ## Texts that are read as programs -/

namespace Program

mutual

theorem exists_mention_of_mem_mentions
    {step : Step} :
    (value : Json) → step ∈ mentions value → ∃ name, step = .mention name
  | .null, member => ⟨_, List.mem_singleton.mp member⟩
  | .bool true, member => ⟨_, List.mem_singleton.mp member⟩
  | .bool false, member => ⟨_, List.mem_singleton.mp member⟩
  | .float .nan, member => ⟨_, List.mem_singleton.mp member⟩
  | .float (.infinity _), member => ⟨_, List.mem_singleton.mp member⟩
  | .array items, member => exists_mention_of_mem_mentionsOfItems items member
  | .object members, member => exists_mention_of_mem_mentionsOfMembers members member
  | .float (.finite ..), member => by cases member
  | .int _, member => by cases member
  | .str _, member => by cases member

theorem exists_mention_of_mem_mentionsOfItems
    {step : Step} :
    (items : List Json) → step ∈ mentionsOfItems items → ∃ name, step = .mention name
  | [], member => by cases member
  | item :: rest, member => by
      rcases List.mem_append.mp member with first | later
      · exact exists_mention_of_mem_mentions item first
      · exact exists_mention_of_mem_mentionsOfItems rest later

theorem exists_mention_of_mem_mentionsOfMembers
    {step : Step} :
    (members : List (String × Json)) → step ∈ mentionsOfMembers members →
      ∃ name, step = .mention name
  | [], member => by cases member
  | (_, value) :: rest, member => by
      rcases List.mem_append.mp member with first | later
      · exact exists_mention_of_mem_mentions value first
      · exact exists_mention_of_mem_mentionsOfMembers rest later

end

/-- The steps of a text look names up, and do nothing else. -/
theorem exists_mention_of_ofText
    {text : List Char}
    {steps : List Step}
    {step : Step}
    (read : ofText text = .steps steps)
    (member : step ∈ steps) :
    ∃ name, step = .mention name := by
  unfold ofText at read
  dsimp only at read
  split at read
  · cases read
    cases member
  · split at read
    · cases read
      exact ⟨_, List.mem_singleton.mp member⟩
    · split at read
      · cases read
      · split at read
        case h_1 value _ =>
            cases read
            exact exists_mention_of_mem_mentions value member
        case h_2 => cases read

end Program

/-- The steps of the programs in a tree are those of its entries, and steps that look names up. -/
theorem Site.forall_step_of_entries
    {site : Site}
    {holds : Step → Prop}
    (mention : ∀ name, holds (.mention name))
    (entries :
      ∀ place steps, (place, Entry.file (Content.program (.steps steps))) ∈ site.tree.entries →
        ∀ step ∈ steps, holds step)
    {file : String}
    {steps : List Step}
    (read : site.program file = .ok (.steps steps)) :
    ∀ step ∈ steps, holds step := by
  intro step member
  unfold Site.program at read
  split at read
  case h_1 => cases read
  case h_2 program found =>
      cases read
      obtain ⟨place, present⟩ := FileTree.mem_entries_of_read found
      exact entries place steps present step member
  case h_3 data found =>
      split at read
      case h_1 decoded _ =>
          obtain ⟨name, rfl⟩ := Program.exists_mention_of_ofText (Except.ok.inj read) member
          exact mention name
      case h_2 => cases read

/-! ## Trees without requests -/

/-- The step raises no request to end. -/
def Step.raisesFailures : Step → Bool
  | .raise className text => (Thrown.raised className text).isOrdinary
  | _ => true

/-- The body in a file raises no request to end. -/
def Content.raisesFailures : Content → Bool
  | .program (.steps steps) => steps.all Step.raisesFailures
  | _ => true

/-- No body in the tree of files raises a request to end. -/
def Site.raisesFailures
    (site : Site) : Bool :=
  site.tree.entries.all fun entry =>
    match entry.2 with
    | .file content => content.raisesFailures
    | _ => true

theorem Site.isOrdinary_of_raisesFailures
    {site : Site}
    (failures : site.raisesFailures = true)
    {file className text : String}
    {steps : List Step}
    (read : site.program file = .ok (.steps steps))
    (member : Step.raise className text ∈ steps) :
    (Thrown.raised className text).isOrdinary = true := by
  let holds (step : Step) : Prop := step.raisesFailures = true
  have entries (place : List String) (steps : List Step)
      (present : (place, Entry.file (Content.program (.steps steps))) ∈ site.tree.entries) :
      ∀ step ∈ steps, holds step :=
    List.all_eq_true.mp (List.all_eq_true.mp failures _ present)
  exact Site.forall_step_of_entries (fun _ => rfl) entries read _ member

end Module

end ConfigTokens
