import ConfigTokens.Module.Load
/-!
# What events tell of loads

A load asks its registry first, and an event keeps what the registry had. Other events tell that a key
was loaded for want of an answer, and some of these that a file stays in its registry. A key with an
answer is respected by an event that does not load it and that does not tell of another answer.
-/

namespace ConfigTokens

open ConfigTokens.Module

namespace Event

/-- The file that was loaded to its end, be it as a body or as data, and its export. -/
def completed? : Event → Option (RegistryName × String × Export)
  | .bodyEnded registry file _ id => some (registry, file, .module id)
  | .documentLoaded registry file answer => some (registry, file, answer)
  | _ => none

/-- The file that stays in its registry after its load, and its export. -/
def left? : Event → Option (RegistryName × String × Export)
  | .bodyEnded registry file _ id | .bodyAbandoned registry file id =>
    some (registry, file, .module id)
  | .documentLoaded registry file answer => some (registry, file, answer)
  | _ => none

/-- The key that was being loaded, for want of an answer. -/
def loaded? : Event → Option (RegistryName × String)
  | .bodyStarted registry file _ | .bodyEnded registry file _ _ | .bodyAbandoned registry file _
  | .moduleDiscarded registry file _ | .documentLoaded registry file _ => some (registry, file)
  | .imported registry _ name => some (registry, importKey name)
  | .importFailed registry specifier _ => some (registry, importKey (dottedName specifier))
  | _ => none

/-- A request ended the body of a file. -/
def isAbandonment : Event → Bool
  | .bodyAbandoned .. => true
  | _ => false

/-- The body of a file is under way no longer, and the file stays. -/
def endsBody : Event → Bool
  | .bodyEnded .. | .bodyAbandoned .. => true
  | _ => false

/-- The file whose body is under way no longer. -/
def closed? : Event → Option (RegistryName × String)
  | .bodyEnded registry file _ _ | .bodyAbandoned registry file _
  | .moduleDiscarded registry file _ => some (registry, file)
  | _ => none

/-- The body of a file begins. -/
def beginsBody : Event → Bool
  | .bodyStarted .. => true
  | _ => false

/-- A body required a token and got an answer. -/
def isRequirement : Event → Bool
  | .required .. => true
  | _ => false

/-- An event that tells nothing of a registry. -/
def isIdle : Event → Bool
  | .required .. | .targetMissing _ | .readFailed .. | .matched .. | .variableUnset .. => true
  | _ => false

/-- A key with an answer is not loaded, and whoever asks for it gets that answer. -/
def Respects
    (event : Event)
    (registry : RegistryName)
    (key : String)
    (answer : Export) : Prop :=
  event.loaded? ≠ some (registry, key) ∧
    ∀ found, event = .asked registry key found → found = some answer

/-- After an event that leaves a file in its registry, another event leaves that file alone. -/
def Settles
    (earlier later : Event) : Prop :=
  ∀ registry file answer,
    earlier.left? = some (registry, file, answer) → later.Respects registry file answer

/-! ## Events between a first and a last one -/

theorem mem_enclosed
    {first last event : Event}
    {events : List Event} :
    event ∈ first :: (events ++ [last]) ↔ event = first ∨ event ∈ events ∨ event = last := by
  rw [List.mem_cons, List.mem_append, List.mem_singleton]

theorem forall_mem_enclosed
    {first last : Event}
    {events : List Event}
    {holds : Event → Prop} :
    (∀ event ∈ first :: (events ++ [last]), holds event) ↔
      holds first ∧ (∀ event ∈ events, holds event) ∧ holds last := by
  rw [List.forall_mem_cons, List.forall_mem_append, List.forall_mem_singleton]

/-! ## Events that leave files -/

theorem left?_of_completed?
    {event : Event}
    {registry : RegistryName}
    {file : String}
    {answer : Export}
    (completed : event.completed? = some (registry, file, answer)) :
    event.left? = some (registry, file, answer) := by
  cases event <;> simp_all [completed?, left?]

/-- A file stays because it was loaded to its end, or because its body was abandoned. -/
theorem left?_eq_some_iff
    {event : Event}
    {registry : RegistryName}
    {file : String}
    {answer : Export} :
    event.left? = some (registry, file, answer) ↔
      event.completed? = some (registry, file, answer) ∨
        ∃ id, event = .bodyAbandoned registry file id ∧ answer = .module id := by
  cases event <;> simp [completed?, left?, and_assoc, eq_comm]

theorem loaded?_of_left?
    {event : Event}
    {registry : RegistryName}
    {file : String}
    {answer : Export}
    (left : event.left? = some (registry, file, answer)) :
    event.loaded? = some (registry, file) := by
  cases event <;> simp_all [left?, loaded?]

theorem left?_of_isIdle
    {event : Event}
    (idle : event.isIdle = true) :
    event.left? = none := by
  cases event <;> simp_all [isIdle, left?]

theorem settles_of_left?_eq_none
    {earlier later : Event}
    (nothing : earlier.left? = none) :
    earlier.Settles later := by
  intro registry file answer left
  rw [nothing] at left
  cases left

/-! ## Events that respect an answer -/

/-- An event of another key respects every answer. -/
theorem respects_of_loaded?
    {event : Event}
    {registry other : RegistryName}
    {key sought : String}
    {answer : Export}
    (loaded : event.loaded? = some (registry, key))
    (elsewhere : ¬(other = registry ∧ sought = key)) :
    event.Respects other sought answer := by
  constructor
  · intro same
    rw [loaded] at same
    simp only [Option.some.injEq, Prod.mk.injEq] at same
    exact elsewhere ⟨same.1.symm, same.2.symm⟩
  · intro found asked
    rw [asked] at loaded
    cases loaded

theorem respects_of_isIdle
    {event : Event}
    (idle : event.isIdle = true)
    (registry : RegistryName)
    (key : String)
    (answer : Export) :
    event.Respects registry key answer := by
  cases event <;> simp_all [isIdle, Respects, loaded?]

/-! ## Events that are no imports -/

theorem ne_imported_of_isIdle
    {event : Event}
    (idle : event.isIdle = true)
    (registry : RegistryName)
    (specifier name : String) :
    .imported registry specifier name ≠ event := by
  rintro rfl
  cases idle

theorem ne_imported_of_left?
    {event : Event}
    {target : RegistryName}
    {file : String}
    {answer : Export}
    (left : event.left? = some (target, file, answer))
    (registry : RegistryName)
    (specifier name : String) :
    .imported registry specifier name ≠ event := by
  rintro rfl
  cases left

end Event

end ConfigTokens
