import ConfigTokens.Proofs.Failure.DeepData
import ConfigTokens.Proofs.FileTree.LastName
import ConfigTokens.Proofs.Import.Relative
import ConfigTokens.Proofs.Json.RoundTrip
import ConfigTokens.Proofs.Table.Failure
/-!
# The kind of a file module

The first candidate for a path that is a file is loaded, as data, as the body of a package, or as the body of a
plain module. What decides is the last segment of its path without links. That is the last segment of the
candidate itself unless the candidate is a symbolic link.
-/

namespace ConfigTokens.Module

/-! ## Kinds of paths -/

/-- How the file at a path is loaded. -/
inductive FileKind where
  /-- As data. -/
  | document
  /-- As the body of a package. -/
  | package
  /-- As the body of a module that is no package. -/
  | plain
  deriving DecidableEq, Repr

/-- The kind that the name of a file stands for. -/
def FileKind.of
    (path : String) : FileKind :=
  if isDocument path then .document
  else if isPackageFile path then .package
  else .plain

theorem suffix_of_suffix_append_cons
    {sought front back : List Char}
    {separator : Char}
    (ends : sought <:+ front ++ separator :: back)
    (clean : separator ∉ sought) :
    sought <:+ back := by
  rcases List.suffix_or_suffix_of_suffix ends (List.suffix_append front (separator :: back)) with short | long
  · rcases List.suffix_cons_iff.mp short with rfl | inside
    · exact absurd List.mem_cons_self clean
    · exact inside
  · exact absurd (long.mem List.mem_cons_self) clean

/-- The end of a path that makes it a file with data is in its last segment. -/
theorem isDocument_baseNameText
    (path : String) :
    isDocument (Path.baseNameText path) = isDocument path := by
  have whole : (Path.baseNameText path).toList = Path.baseName path.toList := String.toList_ofList
  apply Bool.eq_iff_iff.mpr
  unfold isDocument
  rw [whole, List.isSuffixOf_iff_suffix, List.isSuffixOf_iff_suffix]
  constructor
  · intro ends
    exact ends.trans (Path.baseName_isSuffix path.toList)
  · intro ends
    unfold Path.baseName Path.cutLast
    cases cut : Text.beforeLast '/' path.toList with
    | some parts =>
        rcases parts with ⟨front, back⟩
        rw [(Text.beforeLast_eq_some_iff.mp cut).1] at ends
        exact suffix_of_suffix_append_cons ends (by decide)
    | none => exact ends

theorem baseNameText_baseNameText
    (path : String) :
    Path.baseNameText (Path.baseNameText path) = Path.baseNameText path := by
  have cut : Text.beforeLast '/' (Path.baseName path.toList) = none :=
    Text.beforeLast_eq_none_iff.mpr (Path.slash_not_mem_baseName path.toList)
  have last : Path.baseName (Path.baseName path.toList) = Path.baseName path.toList := by
    rw [Path.baseName, Path.cutLast, cut]
  unfold Path.baseNameText
  rw [String.toList_ofList, last]

/-- The kind of a path is that of its last segment. -/
theorem FileKind.of_baseNameText
    (path : String) :
    FileKind.of (Path.baseNameText path) = FileKind.of path := by
  unfold FileKind.of isPackageFile
  rw [isDocument_baseNameText, baseNameText_baseNameText]

variable
    {site : Site}
    {path file : String}

/-- The key of a file that is no symbolic link is of the kind of the file. -/
theorem FileKind.of_key
    (straight : site.tree.Straight site.cwd)
    (present : site.isFile file = true)
    (unlinked : ¬site.tree.IsLink site.cwd file) :
    FileKind.of (site.key file) = FileKind.of file := by
  unfold Site.isFile FileTree.isFile at present
  split at present
  case h_1 place content found =>
      have key : site.key file = FileTree.pathText place := by
        unfold Site.key FileTree.realPath?
        rw [found]
        rfl
      calc
        FileKind.of (site.key file) = FileKind.of (Path.baseNameText (FileTree.pathText place)) := by
          rw [key, FileKind.of_baseNameText]
        _ = FileKind.of (Path.baseNameText file) := by
          rw [FileTree.baseNameText_of_find straight found unlinked]
        _ = FileKind.of file := FileKind.of_baseNameText file
  case h_2 => cases present

/-- The chosen candidate is a file, and none before it is. -/
theorem Site.findFile_eq_some_iff :
    site.findFile path = some file ↔
      site.isFile file = true ∧
        ∃ before after, candidates path = before ++ file :: after ∧
          ∀ other ∈ before, site.isFile other = false := by
  unfold findFile
  rw [List.find?_eq_some_iff_append]
  simp only [Bool.not_eq_true']

/-! ## What is done for each kind -/

/-- The loader of the loads that a body starts whose load was not started by a body. -/
def Site.innerLoader
    (site : Site) : Loader :=
  .ofDepth site (site.depth - 1)

theorem Loader.importModule_forSite
    (site : Site)
    (name : String) :
    (Loader.forSite site).importModule name = Module.importModule site site.innerLoader name := by
  have positive : 0 < site.depth := Nat.succ_pos _
  obtain ⟨depth, same⟩ := Nat.exists_eq_add_one_of_ne_zero (Nat.ne_of_gt positive)
  unfold forSite Site.innerLoader
  rw [same]
  exact Loader.importModule_layer site (.ofDepth site depth) name

/-- The error for a file that is no data; that it is nested too deep is reported as it is. -/
def documentFailure
    (key : String) : Thrown → Thrown
  | .document (.tooDeep container) => .document (.tooDeep container)
  | thrown => documentError key thrown

section

variable (site : Site)
variable (path key : String)
variable (world : World)

/-- A path is loaded by reading a file as data; no body runs. -/
structure Site.ReadsDocument : Prop where
  read :
    ∀ content, site.document key = .ok content →
      let asked := world.note (.asked site.registry key none)
      loadPath site (.forSite site) path world =
        .ok (asked.documentAnswer content) (asked.withDocument site.registry key content)
  unread :
    ∀ thrown, site.document key = .error thrown →
      loadPath site (.forSite site) path world =
        .error (documentFailure key thrown) (world.note (.asked site.registry key none))

/-- A path is loaded by running the program in a file as the body of a new module. -/
structure Site.RunsBody : Prop where
  ended :
    ∀ middle,
      Body.run site (.forSite site) world.objects.size key (world.begun site key) = .ok () middle →
        loadPath site (.forSite site) path world =
          .ok (.module world.objects.size)
            (middle.note
              (.bodyEnded site.registry key (synthesizedName key) world.objects.size))
  failed :
    ∀ thrown middle,
      Body.run site (.forSite site) world.objects.size key (world.begun site key) =
          .error thrown middle →
        thrown.isOrdinary = true →
          loadPath site (.forSite site) path world =
            .error (loadError key thrown) (middle.discarded site.registry key thrown.message)
  abandoned :
    ∀ thrown middle,
      Body.run site (.forSite site) world.objects.size key (world.begun site key) =
          .error thrown middle →
        thrown.isOrdinary = false →
          loadPath site (.forSite site) path world =
            .error thrown (middle.note (.bodyAbandoned site.registry key world.objects.size))

/-- The body has come to a world by some of its steps. -/
def Site.Reaches
    (start : World) : Prop :=
  ∃ steps,
    Body.runSteps (.forSite site) world.objects.size steps (world.begun site key) = .ok () start

/--
A path is loaded by running a file as the body of a package. At each step its relative imports get modules
below the name of the package: those that have been imported, and others from the directory of the file, as
long as no body begins for another file under the same name.
-/
structure Site.RunsPackage : Prop extends site.RunsBody path key world where
  imported :
    ∀ start, site.Reaches key world start → ∀ source member id,
      start.table.lookup (synthesizedName key ++ "." ++ source) = some id →
        Body.fromImport (.forSite site) world.objects.size source member start =
          Body.importedMember (.forSite site) id member start
  found :
    ∀ start, site.Reaches key world start → ∀ source member, IsPart source →
      start.table.lookup (synthesizedName key ++ "." ++ source) = none →
        ¬start.BeginsSince (world.begun site key).journal.size (synthesizedName key) →
          Body.fromImport (.forSite site) world.objects.size source member start =
            (do
              let id ←
                importIn site site.innerLoader (Path.directoryText key) source
                  (synthesizedName key ++ "." ++ source) (synthesizedName key)
              bindSubmodule (synthesizedName key) source id
              Body.importedMember (.forSite site) id member) start

/-- A path is loaded by running a file as the body of a module in which relative imports fail. -/
structure Site.RunsPlain : Prop extends site.RunsBody path key world where
  nowhere :
    ∀ start, site.Reaches key world start → ∀ source member,
      Body.fromImport (.forSite site) world.objects.size source member start =
        .error (.importing .noParentPackage) start

/-- A path is loaded from a file that is taken to be of a kind. -/
def Site.LoadsAs : FileKind → Prop
  | .document => site.ReadsDocument path key world
  | .package => site.RunsPackage path key world
  | .plain => site.RunsPlain path key world

end

variable
    {world start : World}

theorem loadPath_of_absent
    (chosen : site.findFile path = some file)
    (absent : world.answer? site.registry (site.key file) = none)
    (loader : Loader) :
    loadPath site loader path world =
      loadFile site loader (site.key file)
        (world.note (.asked site.registry (site.key file) none)) := by
  unfold loadPath
  rw [chosen]
  exact loadKey_of_absent absent _

theorem readsDocument_of_isDocument
    (chosen : site.findFile path = some file)
    (absent : world.answer? site.registry (site.key file) = none)
    (data : isDocument (site.key file) = true) :
    site.ReadsDocument path (site.key file) world := by
  have loads :
      loadPath site (.forSite site) path world =
        loadDocument site (site.key file)
          (world.note (.asked site.registry (site.key file) none)) := by
    rw [loadPath_of_absent chosen absent, loadFile, if_pos data]
  constructor
  · intro content read
    exact loads.trans (loadDocument_of_ok read _)
  · intro thrown unread
    rw [loads, loadDocument, unread]
    dsimp only
    split
    case h_1 => rfl
    case h_2 other =>
        have worded : documentFailure (site.key file) thrown = documentError (site.key file) thrown := by
          unfold documentFailure
          split
          · exact absurd rfl (other _)
          · rfl
        rw [worded]
        rfl

theorem runsBody_of_source
    (chosen : site.findFile path = some file)
    (absent : world.answer? site.registry (site.key file) = none)
    (source : isDocument (site.key file) = false) :
    site.RunsBody path (site.key file) world := by
  have loads :
      loadPath site (.forSite site) path world =
        loadSource site (.forSite site) (site.key file)
          (world.note (.asked site.registry (site.key file) none)) := by
    rw [loadPath_of_absent chosen absent, loadFile, if_neg (by rw [source]; exact Bool.false_ne_true)]
  constructor
  · intro middle ran
    exact loads.trans (loadSource_of_ok ran)
  · intro thrown middle ran ordinary
    exact loads.trans (loadSource_of_failure ran ordinary)
  · intro thrown middle ran request
    exact loads.trans (loadSource_of_request ran request)

section

variable {key : String}

theorem made_of_begun
    (site : Site)
    (world : World)
    (key : String) :
    world.objects.size < (world.begun site key).objects.size := by
  have grown : (world.begun site key).objects.size = world.objects.size + 1 :=
    World.size_objects_opened _ _ _
  rw [grown]
  exact Nat.lt_succ_self _

/-- At each step of its body a module is in the package that it was made in. -/
theorem Site.Reaches.placed
    (reaches : site.Reaches key world start) :
    (start.moduleAt world.objects.size).package = (freshFileModule key).package ∧
      (start.moduleAt world.objects.size).searchPath = (freshFileModule key).searchPath := by
  rcases reaches with ⟨steps, ran⟩
  have placed := placed_of_runSteps (made_of_begun site world key) ran
  have begun : (world.begun site key).moduleAt world.objects.size = freshFileModule key :=
    World.moduleAt_opened_self _ _ _
  have package := placed.package
  have searchPath := placed.searchPath
  rw [begun] at package searchPath
  exact ⟨package, searchPath⟩

theorem Site.Reaches.tabled
    (reaches : site.Reaches key world start)
    (idle : ¬start.BeginsSince (world.begun site key).journal.size (synthesizedName key)) :
    start.table.lookup (synthesizedName key) = some world.objects.size := by
  rcases reaches with ⟨steps, ran⟩
  have begun :
      (world.begun site key).table.lookup (synthesizedName key) = some world.objects.size := by
    unfold World.begun
    rw [World.lookup_opened, if_pos rfl]
    rfl
  exact tabled_of_runSteps begun ran idle

/-- At each step a package has its own name, and the directory of its file for submodules. -/
theorem Site.Reaches.package
    (reaches : site.Reaches key world start)
    (package : isPackageFile key = true) :
    (start.moduleAt world.objects.size).package = synthesizedName key ∧
      (start.moduleAt world.objects.size).searchPath = some (Path.directoryText key) := by
  have fresh := reaches.placed
  unfold freshFileModule at fresh
  dsimp only at fresh
  rw [if_pos package] at fresh
  exact fresh

theorem Site.Reaches.plain
    (reaches : site.Reaches key world start)
    (plain : isPackageFile key = false) :
    (start.moduleAt world.objects.size).package = "" := by
  have fresh := reaches.placed.1
  unfold freshFileModule at fresh
  dsimp only at fresh
  rw [if_neg (by rw [plain]; exact Bool.false_ne_true)] at fresh
  exact fresh

theorem synthesizedName_ne_empty
    (file : String) :
    synthesizedName file ≠ "" := by
  intro empty
  have lead := head?_synthesizedName file
  rw [empty] at lead
  cases lead

/-- A relative import of a package is one below its name. -/
theorem Site.Reaches.fromImport_of_package
    (reaches : site.Reaches key world start)
    (package : isPackageFile key = true)
    (source member : String) :
    Body.fromImport (.forSite site) world.objects.size source member start =
      (do
        let id ← importModule site site.innerLoader (synthesizedName key ++ "." ++ source)
        Body.importedMember (.forSite site) id member) start := by
  have name := (reaches.package package).1
  have within : (start.moduleAt world.objects.size).package ≠ "" := by
    rw [name]
    exact synthesizedName_ne_empty key
  rw [Body.fromImport_of_package within, name, Loader.importModule_forSite]

theorem runsPackage_of_isPackageFile
    (runs : site.RunsBody path key world)
    (package : isPackageFile key = true) :
    site.RunsPackage path key world where
  toRunsBody := runs
  imported start reaches source member id known := by
    rw [reaches.fromImport_of_package package]
    exact Run.bind_of_ok (importModule_of_tabled (below_ne_empty _ source) known)
  found start reaches source member alone absent idle := by
    rw [reaches.fromImport_of_package package]
    have imports :=
      @importModule_of_absent site site.innerLoader start _ source _ _
        (isPart_synthesizedName key) (synthesizedName_ne_empty key) alone absent
        (reaches.tabled idle) (reaches.package package).2
    rw [Run.bind_congr imports, bind_assoc]
    simp only [bind_assoc, pure_bind]

theorem runsPlain_of_not_isPackageFile
    (runs : site.RunsBody path key world)
    (plain : isPackageFile key = false) :
    site.RunsPlain path key world where
  toRunsBody := runs
  nowhere _ reaches source member := Body.fromImport_of_plain (reaches.plain plain) source member

end

/--
A path is loaded from the first of its candidates that is a file:

* If a registry has no answer yet, the file is loaded as what its key is named for: as data, as a package whose
  relative imports get the modules in its directory, or as a plain module.
* Unless the candidate is a symbolic link, be there links on the way to it or not, the key is of the same kind
  as the candidate itself.
-/
theorem loadPath_of_kind
    (straight : site.tree.Straight site.cwd)
    (chosen : site.findFile path = some file)
    (absent : world.answer? site.registry (site.key file) = none) :
    (site.isFile file = true ∧
      ∃ before after, candidates path = before ++ file :: after ∧
        ∀ other ∈ before, site.isFile other = false) ∧
    site.LoadsAs path (site.key file) world (.of (site.key file)) ∧
    (¬site.tree.IsLink site.cwd file → FileKind.of (site.key file) = FileKind.of file) := by
  refine ⟨Site.findFile_eq_some_iff.mp chosen, ?_, fun unlinked =>
    FileKind.of_key straight (Site.isFile_of_findFile chosen) unlinked⟩
  unfold FileKind.of
  cases data : isDocument (site.key file) with
  | true => exact readsDocument_of_isDocument chosen absent data
  | false =>
      have runs := runsBody_of_source chosen absent data
      cases package : isPackageFile (site.key file) with
      | true => exact runsPackage_of_isPackageFile runs package
      | false => exact runsPlain_of_not_isPackageFile runs package

/-- The path of the package is loaded from its body, as a package. -/
theorem loadPath_of_kind_bundle :
    let site := bundleSite none lateRest
    site.findFile "/p" = some bundleFile ∧
      World.empty.answer? site.registry (site.key bundleFile) = none ∧
        site.LoadsAs "/p" (site.key bundleFile) .empty .package := by
  intro site
  have chosen : site.findFile "/p" = some bundleFile := findFile_bundle none lateRest
  have loaded := (loadPath_of_kind .root chosen (show World.empty.answer? _ _ = none from rfl)).2.1
  have kind : FileKind.of (site.key bundleFile) = .package := by
    rw [key_bundleFile none lateRest]
    decide
  rw [kind] at loaded
  exact ⟨chosen, rfl, loaded⟩

/-! ## A link to a file with another name -/

/-- The text of an object with one member, which is a program as well. -/
def memberText : String :=
  "\x7b\"a\": 1\x7d"

/-- A file of text, and a link to it that is named like a file with data. -/
def linkSite : Site where
  tree := ⟨[(["run.txt"], .file (.bytes (Text.utf8Bytes memberText))), (["x.json"], .link "run.txt")]⟩
  cwd := []
  importRoot := "/"
  registry := none
  interpreter := .usual

theorem find_linkSite :
    linkSite.tree.find true linkSite.cwd "/x.json" =
      .ok (["run.txt"], .file (.bytes (Text.utf8Bytes memberText))) := by
  have names : FileTree.namesOf "/x.json" = ["", "x.json"] := by decide
  have target : FileTree.namesOf "run.txt" ++ [] = ["run.txt"] := by decide
  have onward :
      linkSite.tree.Way true 39 [] ["run.txt"]
        (["run.txt"], .file (.bytes (Text.utf8Bytes memberText))) :=
    .down rfl ⟨by decide, by decide, by decide⟩ rfl (fun _ link => by cases link) (.stop rfl)
  have followed :
      linkSite.tree.Way true 40 [] ["x.json"]
        (["run.txt"], .file (.bytes (Text.utf8Bytes memberText))) :=
    .through rfl ⟨by decide, by decide, by decide⟩ rfl (.inr rfl) (target ▸ onward)
  unfold FileTree.find
  rw [if_neg (by decide), if_neg (by decide), names]
  exact FileTree.walk_eq_ok_iff.mpr (.stay rfl (.inl rfl) followed)

theorem root_linkSite
    (name : String) :
    ∀ count < [name].length, linkSite.tree.entry? ([name].take count) = some .directory := by
  intro count less
  match count, less with
  | 0, _ => rfl

theorem findFile_linkSite :
    linkSite.findFile "/x" = some "/x.json" := by
  have listed : candidates "/x" = ["/x", "/x.py", "/x.json", "/x/__init__.py"] := by decide
  have nothing : FileTree.Spells "/x" ["x"] := ⟨by decide, by decide, by decide, by decide⟩
  have noSource : FileTree.Spells "/x.py" ["x.py"] := ⟨by decide, by decide, by decide, by decide⟩
  have bare : linkSite.isFile "/x" = false :=
    FileTree.isFile_of_absent nothing (root_linkSite "x") rfl
  have source : linkSite.isFile "/x.py" = false :=
    FileTree.isFile_of_absent noSource (root_linkSite "x.py") rfl
  have linked : linkSite.isFile "/x.json" = true := Site.isFile_of_find find_linkSite
  simp [Site.findFile, listed, bare, source, linked]

theorem key_linkSite :
    linkSite.key "/x.json" = "/run.txt" := by
  unfold Site.key FileTree.realPath?
  rw [find_linkSite]
  decide

/-- The file is a program that does nothing. -/
theorem program_linkSite :
    linkSite.program "/run.txt" = .ok (.steps []) := by
  have spells : FileTree.Spells "/run.txt" ["run.txt"] := ⟨by decide, by decide, by decide, by decide⟩
  have found :
      linkSite.tree.find true linkSite.cwd "/run.txt" =
        .ok (["run.txt"], .file (.bytes (Text.utf8Bytes memberText))) :=
    FileTree.find_of_entry spells (root_linkSite "run.txt") rfl fun _ link => by cases link
  have decoded : Codec.decode "utf-8" "strict" (Text.utf8Bytes memberText) = .ok memberText := by
    have ascii : (Text.utf8Bytes memberText).all (· < 0x80) = true := by decide
    rw [Codec.decode_of_ascii fun byte among => of_decide_eq_true (List.all_eq_true.mp ascii byte among)]
    decide
  have ends : '\r' ∉ memberText.toList := by decide
  have written : memberText.toList = Json.write (.object [("a", .int 1)]) := by decide
  have legible : Json.Legible Json.digitLimit Json.nestingLimit (.object [("a", .int 1)]) :=
    .object (by decide) fun member among => by
      cases List.mem_singleton.mp among
      exact .int (by decide)
  have text : Program.ofText memberText.toList = .steps [] := by
    unfold Program.ofText
    rw [if_neg (by decide), if_neg (by decide), if_neg (by decide)]
    have trimmed : (memberText.toList.reverse.dropWhile Text.isBlank).reverse = memberText.toList := by decide
    rw [trimmed, written, Json.readChars_write legible]
    rfl
  unfold Site.program FileTree.read
  rw [found]
  dsimp only
  rw [decoded]
  dsimp only
  rw [Text.unifyLineEnds_of_not_mem ends, text]

/-- A candidate that is named like a file with data is not always read as data. -/
theorem linkSite_runs :
    ¬∀ (site : Site) (path file : String) (world : World),
      site.tree.Straight site.cwd → site.findFile path = some file →
        world.answer? site.registry (site.key file) = none →
          site.LoadsAs path (site.key file) world (.of file) := by
  intro claim
  have claimed := claim linkSite "/x" "/x.json" .empty .root findFile_linkSite rfl
  have named : FileKind.of "/x.json" = .document := by decide
  rw [named] at claimed
  have source : isDocument (linkSite.key "/x.json") = false := by
    rw [key_linkSite]
    decide
  have runs := runsBody_of_source findFile_linkSite (show World.empty.answer? _ _ = none from rfl) source
  have ran :
      Body.run linkSite (.forSite linkSite) World.empty.objects.size (linkSite.key "/x.json")
          (World.empty.begun linkSite (linkSite.key "/x.json")) =
        .ok () (World.empty.begun linkSite (linkSite.key "/x.json")) := by
    rw [key_linkSite, Body.run_of_program program_linkSite]
    rfl
  have loaded := runs.ended _ ran
  cases document : linkSite.document (linkSite.key "/x.json") with
  | ok content => cases loaded.symm.trans (claimed.read content document)
  | error thrown => cases loaded.symm.trans (claimed.unread thrown document)

end ConfigTokens.Module
