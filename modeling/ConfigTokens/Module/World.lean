import ConfigTokens.Assoc
import ConfigTokens.Failure.Thrown
import ConfigTokens.Log.Event
/-!
# The world of loaded modules

`World` holds what loads share and change: the objects, the registries with the exports that they
answer, the table of modules by name, the texts that module bodies logged, and the journal of events.
`Run` is a computation on it that may end by throwing; the changes made until then stay.
-/

namespace ConfigTokens.Module

/-- What loads share and change. -/
structure World where
  objects : Array Object
  registries : List (RegistryName × List (String × Export))
  table : List (String × ObjectId)
  traced : Array String
  journal : Array Event

namespace World

/-- A world in which nothing has been loaded. -/
def empty : World :=
  ⟨#[], [], [], #[], #[]⟩

/-- The exports of a registry by resolved specifier. -/
def registry
    (world : World)
    (name : RegistryName) : List (String × Export) :=
  (world.registries.lookup name).getD []

/-- The world with other exports in a registry. -/
def setRegistry
    (world : World)
    (name : RegistryName)
    (exports : List (String × Export)) : World :=
  { world with registries := Assoc.put world.registries name exports }

/-- The module of an identity. -/
def module?
    (world : World)
    (id : ObjectId) : Option ModuleObject :=
  match world.objects[id]? with
  | some (.module content) => some content
  | _ => none

/-- The function of an identity. -/
def function?
    (world : World)
    (id : ObjectId) : Option FunctionObject :=
  match world.objects[id]? with
  | some (.function content) => some content
  | _ => none

/-- The world with another object for an identity. -/
def setObject
    (world : World)
    (id : ObjectId)
    (object : Object) : World :=
  { world with objects := world.objects.setIfInBounds id object }

/-- The world with one more object, whose identity is the number of objects before. -/
def push
    (world : World)
    (object : Object) : World :=
  { world with objects := world.objects.push object }

/-- The world with one more event. -/
def note
    (world : World)
    (event : Event) : World :=
  { world with journal := world.journal.push event }

/-- The world with one more text of a module body. -/
def trace
    (world : World)
    (text : String) : World :=
  { world with traced := world.traced.push text }

/-- The world with a module in the table. -/
def tabulate
    (world : World)
    (name : String)
    (id : ObjectId) : World :=
  { world with table := Assoc.put world.table name id }

/-- The world without a name in the table. -/
def untabulate
    (world : World)
    (name : String) : World :=
  { world with table := Assoc.erase world.table name }

/-- What a registry answers for a key. -/
def answer?
    (world : World)
    (name : RegistryName)
    (key : String) : Option Export :=
  (world.registry name).lookup key

/-- The world with an export in a registry. -/
def enter
    (world : World)
    (name : RegistryName)
    (key : String)
    (answer : Export) : World :=
  world.setRegistry name (Assoc.put (world.registry name) key answer)

/-- The world without a key in a registry. -/
def leave
    (world : World)
    (name : RegistryName)
    (key : String) : World :=
  world.setRegistry name (Assoc.erase (world.registry name) key)

@[simp]
theorem registry_setRegistry_self
    (world : World)
    (name : RegistryName)
    (exports : List (String × Export)) :
    (world.setRegistry name exports).registry name = exports := by
  simp [registry, setRegistry]

theorem registry_setRegistry_of_ne
    {world : World}
    {name other : RegistryName}
    {exports : List (String × Export)}
    (different : other ≠ name) :
    (world.setRegistry name exports).registry other = world.registry other := by
  simp only [registry, setRegistry]
  rw [Assoc.lookup_put_of_ne different]

/-- An export in a registry answers its key there, and nothing else changes. -/
theorem answer?_enter
    (world : World)
    (name other : RegistryName)
    (key sought : String)
    (answer : Export) :
    (world.enter name key answer).answer? other sought =
      if other = name ∧ sought = key then some answer else world.answer? other sought := by
  unfold enter answer?
  by_cases same : other = name
  · subst same
    rw [registry_setRegistry_self]
    by_cases equal : sought = key
    · simp [equal]
    · simp [equal, Assoc.lookup_put_of_ne equal]
  · rw [registry_setRegistry_of_ne same]
    simp [same]

/-- A key that was taken out of a registry has no answer there, and nothing else changes. -/
theorem answer?_leave
    (world : World)
    (name other : RegistryName)
    (key sought : String) :
    (world.leave name key).answer? other sought =
      if other = name ∧ sought = key then none else world.answer? other sought := by
  unfold leave answer?
  by_cases same : other = name
  · subst same
    rw [registry_setRegistry_self]
    by_cases equal : sought = key
    · simp [equal]
    · simp [equal, Assoc.lookup_erase_of_ne equal]
  · rw [registry_setRegistry_of_ne same]
    simp [same]

section Frames

variable
    (world : World)
    (name : RegistryName)
    (key : String)

@[simp]
theorem answer?_note
    (event : Event) :
    (world.note event).answer? name key = world.answer? name key := rfl

@[simp]
theorem answer?_push
    (object : Object) :
    (world.push object).answer? name key = world.answer? name key := rfl

@[simp]
theorem answer?_tabulate
    (entry : String)
    (id : ObjectId) :
    (world.tabulate entry id).answer? name key = world.answer? name key := rfl

@[simp]
theorem answer?_untabulate
    (entry : String) :
    (world.untabulate entry).answer? name key = world.answer? name key := rfl

@[simp]
theorem journal_note
    (event : Event) :
    (world.note event).journal = world.journal.push event := rfl

@[simp]
theorem journal_enter
    (answer : Export) :
    (world.enter name key answer).journal = world.journal := rfl

@[simp]
theorem journal_leave :
    (world.leave name key).journal = world.journal := rfl

@[simp]
theorem objects_note
    (event : Event) :
    (world.note event).objects = world.objects := rfl

@[simp]
theorem objects_enter
    (answer : Export) :
    (world.enter name key answer).objects = world.objects := rfl

@[simp]
theorem objects_leave :
    (world.leave name key).objects = world.objects := rfl

@[simp]
theorem size_objects_push
    (object : Object) :
    (world.push object).objects.size = world.objects.size + 1 :=
  Array.size_push object

@[simp]
theorem size_objects_setObject
    (id : ObjectId)
    (object : Object) :
    (world.setObject id object).objects.size = world.objects.size :=
  Array.size_setIfInBounds

end Frames

/-- The events since a length of the journal. -/
def eventsSince
    (world : World)
    (start : Nat) : List Event :=
  world.journal.toList.drop start

/-- The records of a stretch of the journal. -/
def recordsSince
    (world : World)
    (start : Nat) : List Log.Record :=
  (world.eventsSince start).filterMap Event.record?

end World

/-- A computation on the world that may end by throwing. -/
abbrev Run :=
  EStateM Thrown World

namespace Run

/-- Makes an object. -/
def allocate
    (object : Object) : Run ObjectId := do
  let world ← get
  set (world.push object)
  return world.objects.size

/-- The module of an identity; one that is no module counts as a module without globals. -/
def moduleOf
    (id : ObjectId) : Run ModuleObject := do
  return ((← get).module? id).getD ⟨[], "", none, false⟩

/-- Changes a module. -/
def changeModule
    (id : ObjectId)
    (change : ModuleObject → ModuleObject) : Run Unit := do
  let content ← moduleOf id
  modify fun world => world.setObject id (.module (change content))

/-- Sets a global of a module. -/
def setGlobal
    (id : ObjectId)
    (name : String)
    (value : Value) : Run Unit :=
  changeModule id fun content => { content with globals := Assoc.put content.globals name value }

/-- Adds an event to the journal. -/
def notify
    (event : Event) : Run Unit :=
  modify fun world => world.note event

/-- Logs a text for a module body. -/
def trace
    (text : String) : Run Unit :=
  modify fun world => world.trace text

/-- The export that a registry has for a key. -/
def answered?
    (registry : RegistryName)
    (key : String) : Run (Option Export) := do
  return (← get).answer? registry key

/-- Puts an export into a registry. -/
def enter
    (registry : RegistryName)
    (key : String)
    (answer : Export) : Run Unit :=
  modify fun world => world.enter registry key answer

/-- Takes a key out of a registry. -/
def leave
    (registry : RegistryName)
    (key : String) : Run Unit :=
  modify fun world => world.leave registry key

/-- The module that the table has for a name. -/
def tabled?
    (name : String) : Run (Option ObjectId) := do
  return (← get).table.lookup name

/-- The module that the table has for a name that has to be there. -/
def tabledOf
    (name : String) : Run ObjectId := do
  match ← tabled? name with
  | some id => return id
  | none => throw (.importing (.detached name))

/-- Puts a module into the table. -/
def tabulate
    (name : String)
    (id : ObjectId) : Run Unit :=
  modify fun world => world.tabulate name id

/-- Takes a name out of the table. -/
def untabulate
    (name : String) : Run Unit :=
  modify fun world => world.untabulate name

end Run

end ConfigTokens.Module
