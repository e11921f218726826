import ConfigTokens.Module.Load
import ConfigTokens.Proofs.Run.Regime
/-!
# Importing a submodule

A name in the table is answered from there. Below a package that is in the table, a name is looked for in
the directory of the package, its body is run, and it becomes a global of the package.
-/

namespace ConfigTokens.Module

variable
    {site : Site}
    {loader : Loader}
    {world middle : World}

theorem Loader.importModule_layer
    (site : Site)
    (nested : Loader)
    (name : String) :
    (layer site nested).importModule name = Module.importModule site nested name := rfl

/-- An import of a name in the table gets what the table has, and changes nothing. -/
theorem importModule_of_tabled
    {name : String}
    {id : ObjectId}
    (nonempty : name ≠ "")
    (known : world.table.lookup name = some id) :
    importModule site loader name world = .ok id world := by
  unfold importModule
  rw [if_neg nonempty]
  change importParts site loader (nameParts name) world = _
  cases parts : nameParts name with
  | nil =>
      have spelled := nameOfParts_nameParts name
      rw [parts, nameOfParts_nil] at spelled
      exact absurd spelled.symm nonempty
  | cons last above =>
      have tabled :
          Run.tabled? (nameOfParts (last :: above)) world = .ok (some id) world := by
        rw [← parts, nameOfParts_nameParts, Run.tabled?_apply, known]
      unfold importParts
      exact Run.bind_of_ok tabled

/-- A file whose body ends is imported as what the table has under its name by then. -/
theorem importTarget_of_ok
    {name parent file : String}
    {id : ObjectId}
    (ran :
      Body.run site loader world.objects.size file
          ((world.withFound name parent (.plain file)).marked world.objects.size true) =
        .ok () middle)
    (kept : middle.table.lookup name = some id) :
    importTarget site loader name parent (.plain file) world =
      .ok id (middle.marked world.objects.size false) := by
  rw [importTarget_apply]
  dsimp only [ImportTarget.file?]
  rw [ran]
  simp [kept]

/-- A name without dots that is not in the table yet is imported from the directory for imports. -/
theorem importAbsolute_of_found
    {name : String}
    {target : ImportTarget}
    (single : IsPart name)
    (nonempty : name ≠ "")
    (absent : world.table.lookup name = none)
    (found : site.findImport site.importRoot name = some target) :
    importAbsolute site loader name world = importTarget site loader name "" target world := by
  have absolute : ¬name.toList.head? = some '.' := fun dot => single (List.mem_of_mem_head? dot)
  have parts : nameParts name = [name] := nameParts_of_isPart single
  have free : Run.tabled? name world = .ok none world := by
    rw [Run.tabled?_apply, absent]
  unfold importAbsolute importModule
  rw [if_neg absolute, if_neg nonempty]
  change importParts site loader (nameParts name) world = _
  rw [parts]
  unfold importParts
  dsimp only
  rw [nameOfParts_singleton, Run.bind_of_ok free]
  dsimp only
  rw [nameOfParts_nil, if_pos rfl]
  unfold importIn
  rw [found]

/--
What a package has not imported yet is imported from its directory and becomes a global of what the table has
under the name of the package by then.
-/
theorem importBelow_of_absent
    {package last name directory : String}
    {holder : ObjectId}
    (absent : world.table.lookup name = none)
    (tabled : world.table.lookup package = some holder)
    (searches : (world.moduleAt holder).searchPath = some directory) :
    importBelow site loader last name [package] world =
      (do
        let id ← importIn site loader directory last name package
        bindSubmodule package last id
        return id) world := by
  have free : Run.tabled? name world = .ok none world := by
    rw [Run.tabled?_apply, absent]
  have searched :
      searchBelow site loader last name [package] (world.moduleAt holder) world =
        importIn site loader directory last name package world := by
    -- A package without another one above it can be searched.
    have checked : checkSearch (world.moduleAt holder) [package] world = .ok () world := rfl
    unfold searchBelow
    rw [searches]
    exact Run.bind_of_ok checked
  unfold importBelow
  rw [nameOfParts_singleton, Run.bind_of_ok free]
  dsimp only
  rw [Run.bind_of_ok (Run.tabledOf_of_some tabled), Run.bind_of_ok (Run.moduleOf_apply holder world)]
  exact Run.bind_congr searched _

/-- An import of a submodule that has not been imported yet. -/
theorem importModule_of_absent
    {package last directory : String}
    {holder : ObjectId}
    (single : IsPart package)
    (nonempty : package ≠ "")
    (alone : IsPart last)
    (absent : world.table.lookup (package ++ "." ++ last) = none)
    (tabled : world.table.lookup package = some holder)
    (searches : (world.moduleAt holder).searchPath = some directory) :
    importModule site loader (package ++ "." ++ last) world =
      (do
        let id ← importIn site loader directory last (package ++ "." ++ last) package
        bindSubmodule package last id
        return id) world := by
  have parts : nameParts (package ++ "." ++ last) = [last, package] := by
    rw [nameParts_below, nameParts_of_isPart single, nameParts_of_isPart alone]
    rfl
  have name : nameOfParts [last, package] = package ++ "." ++ last := by
    rw [← parts, nameOfParts_nameParts]
  have free : Run.tabled? (package ++ "." ++ last) world = .ok none world := by
    rw [Run.tabled?_apply, absent]
  have held : Run.tabled? package world = .ok (some holder) world := by
    rw [Run.tabled?_apply, tabled]
  unfold importModule
  rw [if_neg (below_ne_empty package last)]
  change importParts site loader (nameParts (package ++ "." ++ last)) world = _
  rw [parts]
  unfold importParts
  dsimp only
  rw [name, nameOfParts_singleton, Run.bind_of_ok free]
  dsimp only
  rw [if_neg nonempty, Run.bind_of_ok held]
  exact importBelow_of_absent absent tabled searches

/-- An import of a submodule that is found in the directory of its package, and whose body ends. -/
theorem importModule_of_submodule
    {package last directory file : String}
    {holder id : ObjectId}
    (single : IsPart package)
    (nonempty : package ≠ "")
    (alone : IsPart last)
    (absent : world.table.lookup (package ++ "." ++ last) = none)
    (tabled : world.table.lookup package = some holder)
    (searches : (world.moduleAt holder).searchPath = some directory)
    (found : site.findImport directory last = some (.plain file))
    (ran :
      Body.run site loader world.objects.size file
          ((world.withFound (package ++ "." ++ last) package (.plain file)).marked
            world.objects.size true) =
        .ok () middle)
    (kept : middle.table.lookup (package ++ "." ++ last) = some id)
    (above : middle.table.lookup package = some holder) :
    importModule site loader (package ++ "." ++ last) world =
      .ok id ((middle.marked world.objects.size false).withGlobal holder last (.module id)) := by
  have imported :
      importIn site loader directory last (package ++ "." ++ last) package world =
        .ok id (middle.marked world.objects.size false) := by
    unfold importIn
    rw [found]
    exact importTarget_of_ok ran kept
  have tabledStill : (middle.marked world.objects.size false).table.lookup package = some holder := above
  have bound := bindSubmodule_of_some tabledStill last id
  rw [importModule_of_absent single nonempty alone absent tabled searches, Run.bind_of_ok imported,
    Run.bind_of_ok bound]
  rfl

/-- A body that gets a global of a submodule which is no package. -/
theorem Body.fromImport_of_ok
    {self id : ObjectId}
    {package source name : String}
    {value : Value}
    (within : (world.moduleAt self).package = package)
    (nonempty : package ≠ "")
    (imported : loader.importModule (package ++ "." ++ source) world = .ok id middle)
    (plain : (middle.moduleAt id).searchPath = none)
    (found : attribute? middle (.module id) name = some value) :
    Body.fromImport loader self source name world = .ok value middle := by
  have member : Body.importedMember loader id name middle = .ok value middle := by
    unfold Body.importedMember
    rw [Run.bind_of_ok (Run.moduleOf_apply id middle), Run.bind_of_ok (Run.get_apply middle)]
    simp only [plain]
    change Body.attributeOrSubmodule id _ name middle = _
    unfold Body.attributeOrSubmodule
    rw [Run.bind_of_ok (Run.get_apply middle), found]
    rfl
  unfold Body.fromImport
  rw [Run.bind_of_ok (Run.moduleOf_apply self world)]
  dsimp only
  rw [within, if_neg nonempty, Run.bind_of_ok imported]
  exact member

theorem Body.runStep_fromImport_of_ok
    {self : ObjectId}
    {name source member : String}
    {value : Value}
    (got : Body.fromImport loader self source member world = .ok value middle) :
    Body.runStep loader self (.fromImport name source member) world =
      Run.setGlobal self name value middle :=
  Run.bind_of_ok got

end ConfigTokens.Module
