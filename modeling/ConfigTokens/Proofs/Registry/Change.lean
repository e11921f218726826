import ConfigTokens.Module.Load
/-!
# What loads change in the registries

Each way in which a load changes the world is a definition here, with what every registry answers after
it. `World.Apart` says that the files of a registry have objects of their own; it outlives every change
that takes answers away, and a change that answers one more file with the newest object.
-/

namespace ConfigTokens.Module

namespace World

/-- The world in which the body of a file begins. -/
def opened
    (world : World)
    (registry : RegistryName)
    (file : String) : World :=
  let id := world.objects.size
  (((world.push (.module (freshFileModule file))).enter registry file (.module id)).tabulate
    (synthesizedName file) id).note (.bodyStarted registry file id)

/-- The answer for a file of data. -/
def documentAnswer
    (world : World)
    (content : Json) : Export :=
  .data world.objects.size content

/-- The world after a file was read as data. -/
def withDocument
    (world : World)
    (registry : RegistryName)
    (file : String)
    (content : Json) : World :=
  let answer := world.documentAnswer content
  ((world.push (.document content)).note (.documentLoaded registry file answer)).enter
    registry file answer

/-- The world after a file module failed. -/
def discarded
    (world : World)
    (registry : RegistryName)
    (file reason : String) : World :=
  ((world.untabulate (synthesizedName file)).leave registry file).note
    (.moduleDiscarded registry file reason)

/-- The world after an import by name. -/
def withImport
    (world : World)
    (registry : RegistryName)
    (specifier name : String)
    (id : ObjectId) : World :=
  (world.enter registry (importKey name) (.module id)).note (.imported registry specifier name)

theorem answer?_opened
    (world : World)
    (registry other : RegistryName)
    (file key : String) :
    (world.opened registry file).answer? other key =
      if other = registry ∧ key = file then some (.module world.objects.size)
      else world.answer? other key := by
  simp [opened, answer?_enter]

theorem answer?_withDocument
    (world : World)
    (registry other : RegistryName)
    (file key : String)
    (content : Json) :
    (world.withDocument registry file content).answer? other key =
      if other = registry ∧ key = file then some (world.documentAnswer content)
      else world.answer? other key := by
  simp [withDocument, answer?_enter]

theorem answer?_discarded
    (world : World)
    (registry other : RegistryName)
    (file key reason : String) :
    (world.discarded registry file reason).answer? other key =
      if other = registry ∧ key = file then none else world.answer? other key := by
  simp [discarded, answer?_leave]

theorem answer?_withImport
    (world : World)
    (registry other : RegistryName)
    (specifier name key : String)
    (id : ObjectId) :
    (world.withImport registry specifier name id).answer? other key =
      if other = registry ∧ key = importKey name then some (.module id)
      else world.answer? other key := by
  simp [withImport, answer?_enter]

theorem answer?_congr
    {world other : World}
    (same : other.registries = world.registries)
    {registry : RegistryName}
    {key : String} :
    other.answer? registry key = world.answer? registry key := by
  simp only [answer?, World.registry, same]

/-- What is made stays when one more object is made. -/
theorem objects_push_of_lt
    {world : World}
    {id : ObjectId}
    (made : id < world.objects.size)
    (object : Object) :
    (world.push object).objects[id]? = world.objects[id]? := by
  change (world.objects.push object)[id]? = _
  rw [Array.getElem?_push_lt made, Array.getElem?_eq_getElem made]

theorem objects_push_of_some
    {world : World}
    {id : ObjectId}
    {known : Object}
    (there : world.objects[id]? = some known)
    (object : Object) :
    (world.push object).objects[id]? = some known :=
  (objects_push_of_lt (Array.getElem?_eq_some_iff.mp there).1 object).trans there

theorem objects_setObject_of_ne
    {world : World}
    {id other : ObjectId}
    (apart : id ≠ other)
    (object : Object) :
    (world.setObject other object).objects[id]? = world.objects[id]? :=
  Array.getElem?_setIfInBounds_ne apart.symm

theorem eventsSince_note
    {world : World}
    {start : Nat}
    (fits : start ≤ world.journal.size)
    (event : Event) :
    (world.note event).eventsSince start = world.eventsSince start ++ [event] := by
  have enough : start ≤ world.journal.toList.length := by simpa using fits
  simp only [eventsSince, journal_note, Array.toList_push]
  exact List.drop_append_of_le_length enough

/-- A key with an answer is not one without. -/
theorem elsewhere_of_known
    {world : World}
    {registry other : RegistryName}
    {key sought : String}
    {answer : Export}
    (absent : world.answer? registry key = none)
    (known : world.answer? other sought = some answer) :
    ¬(other = registry ∧ sought = key) := by
  rintro ⟨rfl, rfl⟩
  rw [absent] at known
  cases known

/-- A body begins for a file without an answer, and the answers that are there stay. -/
theorem answer?_opened_of_known
    {world : World}
    {registry other : RegistryName}
    {file key : String}
    {answer : Export}
    (absent : world.answer? registry file = none)
    (known : world.answer? other key = some answer) :
    (world.opened registry file).answer? other key = some answer := by
  rw [answer?_opened, if_neg (elsewhere_of_known absent known)]
  exact known

@[simp]
theorem size_objects_opened
    (world : World)
    (registry : RegistryName)
    (file : String) :
    (world.opened registry file).objects.size = world.objects.size + 1 :=
  size_objects_push world _

@[simp]
theorem size_objects_withDocument
    (world : World)
    (registry : RegistryName)
    (file : String)
    (content : Json) :
    (world.withDocument registry file content).objects.size = world.objects.size + 1 :=
  size_objects_push world _

/-! ## Files with objects of their own -/

/-- The files that a registry answers have objects, and no two of them the same one. -/
structure Apart
    (world : World)
    (registry : RegistryName) : Prop where
  made :
    ∀ file answer, FileTree.isRooted file = true →
      world.answer? registry file = some answer → answer.id < world.objects.size
  distinct :
    ∀ file other answer given, FileTree.isRooted file = true → FileTree.isRooted other = true →
      world.answer? registry file = some answer → world.answer? registry other = some given →
        answer.id = given.id → file = other

theorem Apart.anti
    {world other : World}
    {registry : RegistryName}
    (apart : world.Apart registry)
    (fewer :
      ∀ file answer, FileTree.isRooted file = true →
        other.answer? registry file = some answer → world.answer? registry file = some answer)
    (objects : world.objects.size ≤ other.objects.size) :
    other.Apart registry where
  made file answer rooted known :=
    Nat.lt_of_lt_of_le (apart.made file answer rooted (fewer file answer rooted known)) objects
  distinct file sought answer given rooted also known knownToo :=
    apart.distinct file sought answer given rooted also (fewer file answer rooted known)
      (fewer sought given also knownToo)

theorem Apart.note
    {world : World}
    {registry : RegistryName}
    (apart : world.Apart registry)
    (event : Event) :
    (world.note event).Apart registry where
  made := apart.made
  distinct := apart.distinct

/-- A file that gets the newest object keeps the files of a registry apart. -/
theorem Apart.grown
    {world other : World}
    {registry target : RegistryName}
    {file : String}
    {answer : Export}
    (apart : world.Apart registry)
    (answers :
      ∀ key, other.answer? registry key =
        if registry = target ∧ key = file then some answer else world.answer? registry key)
    (newest : answer.id = world.objects.size)
    (objects : other.objects.size = world.objects.size + 1) :
    other.Apart registry := by
  have known {key : String} {given : Export} (rooted : FileTree.isRooted key = true)
      (found : other.answer? registry key = some given) :
      key = file ∧ given.id = world.objects.size ∨
        world.answer? registry key = some given ∧ given.id < world.objects.size := by
    rw [answers] at found
    split at found
    case isTrue same =>
        cases found
        exact .inl ⟨same.2, newest⟩
    case isFalse => exact .inr ⟨found, apart.made key given rooted found⟩
  constructor
  · intro key given rooted found
    rw [objects]
    rcases known rooted found with ⟨-, new⟩ | ⟨-, old⟩
    · exact Nat.lt_succ_of_le (Nat.le_of_eq new)
    · exact Nat.lt_succ_of_lt old
  · intro key sought first second rooted also found foundToo same
    rcases known rooted found with ⟨here, new⟩ | ⟨old, below⟩
    · rcases known also foundToo with ⟨there, -⟩ | ⟨-, belowToo⟩
      · exact here.trans there.symm
      · rw [← same, new] at belowToo
        exact absurd belowToo (Nat.lt_irrefl _)
    · rcases known also foundToo with ⟨-, newToo⟩ | ⟨oldToo, -⟩
      · rw [same, newToo] at below
        exact absurd below (Nat.lt_irrefl _)
      · exact apart.distinct key sought first second rooted also old oldToo same

end World

end ConfigTokens.Module
