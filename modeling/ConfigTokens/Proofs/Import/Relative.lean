import ConfigTokens.Proofs.Import.Submodule
import ConfigTokens.Proofs.Nesting.Consistent
import ConfigTokens.Proofs.Table.Takeover
/-!
# Relative imports

While a body runs, its module keeps the package that it began with, and the directory in which the modules of
the package are found. So a relative import of a package is an import below its name, and what has not been
imported there is looked for in the directory of its file. A module that is no package has nowhere to look.
-/

namespace ConfigTokens.Module

variable
    {site : Site}

/-! ## The package of a module -/

/-- A module is in the package, and has the directory for submodules, that it had at the start. -/
structure World.Placed
    (world start : World)
    (id : ObjectId) : Prop where
  made : id < world.objects.size
  package : (world.moduleAt id).package = (start.moduleAt id).package
  searchPath : (world.moduleAt id).searchPath = (start.moduleAt id).searchPath

namespace World.Placed

variable
    {world start : World}
    {id : ObjectId}

theorem refl
    (made : id < world.objects.size) :
    world.Placed world id :=
  ⟨made, rfl, rfl⟩

theorem push
    (placed : world.Placed start id)
    (object : Object) :
    (world.push object).Placed start id where
  made := by
    rw [size_objects_push]
    exact Nat.lt_succ_of_lt placed.made
  package := by
    rw [world.moduleAt_push_of_lt placed.made]
    exact placed.package
  searchPath := by
    rw [world.moduleAt_push_of_lt placed.made]
    exact placed.searchPath

theorem setObject
    (placed : world.Placed start id)
    (other : ObjectId)
    {content : ModuleObject}
    (package : content.package = (world.moduleAt other).package)
    (searchPath : content.searchPath = (world.moduleAt other).searchPath) :
    (world.setObject other (.module content)).Placed start id where
  made := by
    rw [size_objects_setObject]
    exact placed.made
  package := (world.moduleAt_setObject_agrees (·.package) other id package).trans placed.package
  searchPath := (world.searchPath_setObject other id searchPath).trans placed.searchPath

theorem withGlobal
    (placed : world.Placed start id)
    (other : ObjectId)
    (name : String)
    (value : Value) :
    (world.withGlobal other name value).Placed start id :=
  placed.setObject other rfl rfl

theorem marked
    (placed : world.Placed start id)
    (other : ObjectId)
    (initialising : Bool) :
    (world.marked other initialising).Placed start id :=
  placed.setObject other rfl rfl

/-- Registries, the table and the journal are no matter to a module. -/
theorem same
    {final : World}
    (placed : world.Placed start id)
    (objects : final.objects = world.objects) :
    final.Placed start id := by
  have stays : final.moduleAt id = world.moduleAt id := by
    unfold moduleAt module?
    rw [objects]
  constructor
  · rw [objects]
    exact placed.made
  · rw [stays]
    exact placed.package
  · rw [stays]
    exact placed.searchPath

end World.Placed

/-- The regime in which a module stays in its package. -/
def Regime.placed
    (site : Site)
    (start : World)
    (id : ObjectId) : Regime site where
  holds _ world := world.Placed start id
  imports _ := True
  searched _ _ := True
  above _ _ := trivial
  push object placed := placed.push object
  trace _ placed := placed.same rfl
  note _ _ placed := placed.same rfl
  assign name value _ placed := placed.withGlobal _ name value
  mark initialising _ placed := placed.marked _ initialising
  search _ _ _ := trivial
  bind last submodule placed _ _ := placed.withGlobal _ last (.module submodule)
  enter _ _ placed := placed.same rfl
  document _ _ placed _ := (placed.push _).same rfl
  openFile _ placed _ := (placed.push _).same rfl
  closeFile _ _ placed := placed
  discardFile _ _ _ placed := placed.same rfl
  found _ _ _ _ placed _ := (placed.push _).same rfl
  openImport _ _ _ _ placed _ := (placed.push _).same rfl
  closeImport _ placed := placed
  failImport _ placed := placed.same rfl

section

variable {depth : Nat}
variable {self id : ObjectId}
variable {steps : List Step}
variable {world start : World}

/-- After some steps of a body every module is in the package that it was in. -/
theorem placed_of_runSteps
    (made : id < world.objects.size)
    (ran : Body.runSteps (.ofDepth site depth) self steps world = .ok () start) :
    start.Placed world id := by
  let regime := Regime.placed site world id
  let stage : Stage := ⟨[], [], some self⟩
  have free : regime.Free := fun _ => trivial
  have nested : regime.Agrees stage (.ofDepth site depth) (.ofDepth site depth) :=
    Regime.ofDepth_agrees free.permitsSite depth stage
  have held : regime.holds stage world := .refl made
  exact (Regime.runSteps_agrees nested rfl (fun step _ => free.permits step) held).kept_of_ok ran

/-- After some steps of a body a module is still in the table if no body has begun under its name. -/
theorem tabled_of_runSteps
    {name : String}
    (known : world.table.lookup name = some id)
    (ran : Body.runSteps (.ofDepth site depth) self steps world = .ok () start)
    (idle : ¬start.BeginsSince world.journal.size name) :
    start.table.lookup name = some id := by
  let regime := Regime.holding site world name id
  let stage : Stage := ⟨[], [], some self⟩
  have free : regime.Free := fun _ => trivial
  have nested : regime.Agrees stage (.ofDepth site depth) (.ofDepth site depth) :=
    Regime.ofDepth_agrees free.permitsSite depth stage
  have held : regime.holds stage world := { World.Holding.refl known with }
  have holding : start.Holding world name id stage :=
    (Regime.runSteps_agrees nested rfl (fun step _ => free.permits step) held).kept_of_ok ran
  exact (holding.kept idle).1

end

/-! ## What a relative import does -/

namespace Body

variable
    {loader : Loader}
    {self : ObjectId}
    {world : World}

/-- In a package a relative import is one below the name of the package. -/
theorem fromImport_of_package
    (within : (world.moduleAt self).package ≠ "")
    (source member : String) :
    fromImport loader self source member world =
      (do
        let id ← loader.importModule ((world.moduleAt self).package ++ "." ++ source)
        importedMember loader id member) world := by
  unfold fromImport
  rw [Run.bind_of_ok (Run.moduleOf_apply self world)]
  dsimp only
  rw [if_neg within]

/-- Outside of packages a relative import fails. -/
theorem fromImport_of_plain
    (outside : (world.moduleAt self).package = "")
    (source member : String) :
    fromImport loader self source member world = .error (.importing .noParentPackage) world := by
  unfold fromImport
  rw [Run.bind_of_ok (Run.moduleOf_apply self world)]
  dsimp only
  rw [if_pos outside]
  rfl

end Body

end ConfigTokens.Module
