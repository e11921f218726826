import ConfigTokens.Proofs.Handler.Elsewhere
import ConfigTokens.Proofs.Options.Glob
/-!
# Base directories

The factories of handlers for paths, files, modules and patterns find a base directory in an argument, in a member
of a mapping, in the settings, in the working directory or beside the source file of their caller, and make it
absolute in the working directory that the process has then. Only options for patterns that have been made before
are kept as they are, so that a relative directory in them is one of the working directory of each call.
-/

namespace ConfigTokens

open ConfigTokens.Module

namespace Handler

/-! ## What factories make -/

/-- A factory of handlers with a base directory, and its arguments. -/
inductive Factory where
  | path (base : Argument Unit)
  | file (base options : Argument FileOptions)
  | require (base : Argument Unit) (registry : RegistryName)
  | exec (base : Argument Unit) (registry : RegistryName)
  /-- With the source file of whoever makes the handler. -/
  | glob (argument : Argument GlobOptions) (caller : String)

namespace Factory

/-- Makes the handler. -/
def make : Factory → Hosted Handler
  | .path base => newPath base
  | .file base options => newFile base options
  | .require base registry => newRequire base registry
  | .exec base registry => newExec base registry
  | .glob argument caller => newGlob argument caller

/-- The options that a factory is given and keeps as they are. -/
def readyMade? : Factory → Option GlobOptions
  | .glob (.checked options) _ => some options
  | _ => none

end Factory

end Handler

namespace Hosted

variable {α β : Type}

/-- What a computation gives, in whatever host, is of a kind, unless it throws. -/
def Gives
    (kind : α → Prop)
    (action : Hosted α) : Prop :=
  ∀ (host final : Host) (value : α), action host = .ok value final → kind value

namespace Gives

theorem bind
    {action : Hosted α}
    {next : α → Hosted β}
    {first : α → Prop}
    {second : β → Prop}
    (begins : Gives first action)
    (goesOn : ∀ value, first value → Gives second (next value)) :
    Gives second (action >>= next) := by
  intro host final value ended
  change EStateM.bind action next host = .ok value final at ended
  unfold EStateM.bind at ended
  cases shape : action host with
  | ok given middle =>
      rw [shape] at ended
      exact goesOn given (begins host middle given shape) middle final value ended
  | error thrown middle =>
      rw [shape] at ended
      cases ended

theorem any
    (action : Hosted α) :
    Gives (fun _ => True) action :=
  fun _ _ _ _ => trivial

theorem pure
    {kind : α → Prop}
    {value : α}
    (fits : kind value) :
    Gives kind (Pure.pure value) := by
  intro host final given ended
  cases ended
  exact fits

theorem throw
    (kind : α → Prop)
    (thrown : Thrown) :
    Gives kind (MonadExcept.throw thrown) :=
  fun _ _ _ ended => nomatch ended

end Gives

end Hosted

namespace Handler

open ConfigTokens.Hosted

theorem absolute_gives
    (path : String) :
    Gives (Path.isAbsolute ·.toList = true) (absolute path) := by
  intro host final base ended
  cases ended
  exact Path.isAbsolute_absoluteText host.isAbsolute_cwdText path

theorem baseDir_gives
    {Options : Type}
    (argument : Argument Options) :
    Gives (Path.isAbsolute ·.toList = true) (baseDir argument) := by
  cases argument with
  | absent => exact (Gives.any _).bind fun settings _ => (Gives.any _).bind fun host _ => absolute_gives _
  | path text => exact absolute_gives text
  | mapping members => exact .throw _ _
  | checked options => exact .throw _ _
  | other typeName => exact .throw _ _

/-- A handler has a base directory that starts at the root. -/
def HasRootedBase
    (handler : Handler) : Prop :=
  ∃ base, handler.base? = some base ∧ Path.isAbsolute base.toList = true

theorem newFile_gives
    (base options : Argument FileOptions) :
    Gives HasRootedBase (newFile base options) := by
  have made {Options : Type} (options : Argument FileOptions) (base : Argument Options) :
      Gives HasRootedBase
        (fileOptions options >>= fun options => baseDir base >>= fun base => pure (.file base options)) :=
    (Gives.any _).bind fun options _ => (baseDir_gives base).bind fun base rooted => .pure ⟨base, rfl, rooted⟩
  cases base with
  | absent => exact made options .absent
  | path text => exact made options (.path text)
  | other typeName => exact made options (.other typeName)
  | mapping members => exact made (.mapping members) .absent
  | checked given => exact made (.checked given) .absent

/-! ## Options for patterns -/

/-- Checked options have the directory of their members. -/
theorem cwd_of_ofMembers
    {dot : Bool}
    {members : List (String × Json)}
    {directory : String}
    {options : GlobOptions}
    (member : members.lookup "cwd" = some (.str directory))
    (checked : GlobOptions.ofMembers dot members = .ok options) :
    options.cwd = directory := by
  have passed := (Checked.guarded_eq_ok_iff.mp checked).2
  rw [member] at passed
  rcases Checked.map_eq_ok_iff.mp passed with ⟨⟨own, others⟩, fields, rfl⟩
  have text := Field.text_eq_ok_iff.mp (Checked.both_eq_ok_iff.mp fields).1
  exact (Json.str.inj text).symm

theorem checkGlobOptions_gives
    {members : List (String × Json)}
    {directory : String}
    (member : members.lookup "cwd" = some (.str directory)) :
    Gives (·.cwd = directory) (checkGlobOptions members) := by
  have given (dot : Bool) :
      Gives (·.cwd = directory)
        (Hosted.ofExcept
          ((GlobOptions.ofMembers dot members).mapError (Thrown.invalid GlobOptions.modelName))) := by
    intro host final options ended
    cases checked : GlobOptions.ofMembers dot members with
    | error issues =>
        rw [checked] at ended
        cases ended
    | ok found =>
        rw [checked] at ended
        cases ended
        exact cwd_of_ofMembers member checked
  unfold checkGlobOptions
  split
  · exact (Gives.any _).bind fun dot _ => given dot
  · exact (Gives.any _).bind fun dot _ => given dot

theorem globDirectory_gives
    (members : List (String × Json))
    (default : String) :
    Gives (Path.isAbsolute ·.toList = true) (globDirectory members default) := by
  have fallback :
      Gives (Path.isAbsolute ·.toList = true)
        (Hosted.settings >>= fun settings => absolute (settings.baseDir.getD default)) :=
    (Gives.any _).bind fun settings _ => absolute_gives _
  unfold globDirectory
  split
  · split
    · exact fallback
    · exact absolute_gives _
  · split
    · exact fallback
    · exact .throw _ _
  · exact fallback

theorem globOptions_gives
    (members : List (String × Json))
    (default : String) :
    Gives (Path.isAbsolute ·.cwd.toList = true) (globOptions members default) := by
  refine (globDirectory_gives members default).bind fun directory rooted => ?_
  intro host final options checked
  have same := checkGlobOptions_gives (Assoc.lookup_put_self members "cwd" _) host final options checked
  rw [same]
  exact rooted

/-! ## The factories -/

theorem exists_callerDirectory
    (caller : String)
    (host : Host) :
    ∃ directory, callerDirectory caller host = .ok directory host := by
  by_cases file : host.tree.isFile host.cwd caller = true
  · have found : callerDirectory caller host = (Path.directoryText <$> absolute caller) host := by
      change (if host.tree.isFile host.cwd caller = true then _ else _ : Hosted String) host = _
      rw [if_pos file]
      rfl
    exact ⟨_, found⟩
  · have found : callerDirectory caller host = .ok host.cwdText host := by
      change (if host.tree.isFile host.cwd caller = true then _ else _ : Hosted String) host = _
      rw [if_neg file]
      rfl
    exact ⟨_, found⟩

/-- Options that have been made before are kept as they are. -/
theorem newGlob_checked
    (options : GlobOptions)
    (caller : String)
    (host : Host) :
    newGlob (.checked options) caller host = .ok (.glob options) host := by
  obtain ⟨directory, found⟩ := exists_callerDirectory caller host
  change EStateM.bind (callerDirectory caller) _ host = _
  unfold EStateM.bind
  rw [found]
  rfl

theorem newGlob_gives
    {argument : Argument GlobOptions}
    {caller : String}
    (fresh : (Factory.glob argument caller).readyMade? = none) :
    Gives HasRootedBase (newGlob argument caller) := by
  have made (members : List (String × Json)) (default : String) :
      Gives HasRootedBase (globOptions members default >>= fun options => pure (.glob options)) :=
    (globOptions_gives members default).bind fun options rooted => .pure ⟨options.cwd, rfl, rooted⟩
  refine (Gives.any _).bind fun default _ => ?_
  cases argument with
  | absent => exact made [] default
  | path text => exact made [("cwd", .str text)] default
  | mapping members => exact made members default
  | checked options => cases fresh
  | other typeName => exact made [] default

theorem make_gives
    {factory : Factory}
    (fresh : factory.readyMade? = none) :
    Gives HasRootedBase factory.make := by
  cases factory with
  | path base => exact (baseDir_gives base).bind fun base rooted => .pure ⟨base, rfl, rooted⟩
  | file base options => exact newFile_gives base options
  | require base registry => exact (baseDir_gives base).bind fun base rooted => .pure ⟨base, rfl, rooted⟩
  | exec base registry => exact (baseDir_gives base).bind fun base rooted => .pure ⟨base, rfl, rooted⟩
  | glob argument caller => exact newGlob_gives fresh

theorem make_of_readyMade
    {factory : Factory}
    {options : GlobOptions}
    (ready : factory.readyMade? = some options)
    {host final : Host}
    {handler : Handler}
    (made : factory.make host = .ok handler final) :
    handler = .glob options := by
  unfold Factory.readyMade? at ready
  split at ready
  · cases ready
    cases (newGlob_checked _ _ host).symm.trans made
    rfl
  · cases ready

/--
The base directory of a handler for paths, files, modules or patterns that has been made:

* It starts at the root, whatever the arguments, the settings, the working directory and the tree were, unless the
  handler was made from ready-made options for patterns with a relative directory. A handler that was made from
  ready-made options has them as they are.
* If it starts at the root, then a token is anchored to the same path in every working directory, the base is
  reported as the same, and what the handler does for the token is the same.
-/
theorem bases_stay_put
    {factory : Factory}
    {host final : Host}
    {handler : Handler}
    (made : factory.make host = .ok handler final) :
    ∃ base, handler.base? = some base ∧
      (Path.isAbsolute base.toList = true ↔
        ∀ options, factory.readyMade? = some options → Path.isAbsolute options.cwd.toList = true) ∧
      (∀ options, factory.readyMade? = some options → handler = .glob options) ∧
      (Path.isAbsolute base.toList = true →
        (∀ cwd later token : String,
          Path.anchorText later base token = Path.anchorText cwd base token ∧
            Path.absoluteText later base = Path.absoluteText cwd base) ∧
          handler.StaysPut) := by
  have stays {base : String} (based : handler.base? = some base) (rooted : Path.isAbsolute base.toList = true) :
      (∀ cwd later token : String,
        Path.anchorText later base token = Path.anchorText cwd base token ∧
          Path.absoluteText later base = Path.absoluteText cwd base) ∧
        handler.StaysPut :=
    ⟨fun cwd later token =>
      ⟨Path.anchorText_of_rooted_base cwd later rooted token, Path.absoluteText_of_rooted cwd later rooted⟩,
      staysPut_of_rooted based rooted⟩
  cases ready : factory.readyMade? with
  | none =>
      obtain ⟨base, based, rooted⟩ := make_gives ready host final handler made
      exact ⟨base, based, iff_of_true rooted nofun, nofun, stays based⟩
  | some options =>
      obtain rfl : handler = .glob options := make_of_readyMade ready made
      refine ⟨options.cwd, rfl, ⟨?_, fun all => all options rfl⟩, ?_, stays rfl⟩
      · rintro rooted _ ⟨⟩
        exact rooted
      · rintro _ ⟨⟩
        rfl

/-- A host with a file of the same name below two directories. -/
def twinHost
    (cwd : List String) : Host :=
  ⟨⟨[(["w"], .directory), (["w", "sub"], .directory), (["w", "sub", "a.txt"], .file (.bytes [])),
      (["v"], .directory), (["v", "sub"], .directory), (["v", "sub", "a.txt"], .file (.bytes []))]⟩,
    cwd, [], "", .usual, .blank, some ⟨none, none, false, "INFO", "json"⟩, .empty⟩

/-- Options with a directory. -/
def optionsIn
    (cwd : String) : GlobOptions :=
  ⟨cwd, false, false, []⟩

/-- A relative directory as text is made absolute, and one in ready-made options is not. -/
theorem bases_stay_put_relative :
    (Factory.glob (.path "sub") "").make (twinHost ["w"]) = .ok (.glob (optionsIn "/w/sub")) (twinHost ["w"]) ∧
      (Handler.glob (optionsIn "/w/sub")).call "*" (twinHost ["v"]) =
        carried ["v"] ((Handler.glob (optionsIn "/w/sub")).call "*" (twinHost ["w"])) ∧
      ∃ base, (Handler.glob (optionsIn "sub")).base? = some base ∧
        (Path.isAbsolute base.toList = true ↔
          ∀ options, some (optionsIn "sub") = some options → Path.isAbsolute options.cwd.toList = true) := by
  have made :
      (Factory.glob (.path "sub") "").make (twinHost ["w"]) =
        .ok (.glob (optionsIn "/w/sub")) (twinHost ["w"]) := by
    rfl
  have kept :
      (Factory.glob (.checked (optionsIn "sub")) "").make (twinHost ["w"]) =
        .ok (.glob (optionsIn "sub")) (twinHost ["w"]) :=
    newGlob_checked _ _ _
  obtain ⟨base, based, rooted, -, stays⟩ := bases_stay_put made
  obtain ⟨-, stays⟩ := stays (rooted.mpr nofun)
  obtain ⟨given, givenBased, relative, -, -⟩ := bases_stay_put kept
  exact ⟨made, stays "*" (twinHost ["w"]) ["v"], given, givenBased, relative⟩

theorem find_twinHost
    {name : String}
    (among : name = "w" ∨ name = "v") :
    (twinHost [name]).tree.find false [name] "sub/a.txt" =
      .ok ([name, "sub", "a.txt"], .file (.bytes [])) := by
  rcases among with rfl | rfl
  · change (twinHost ["w"]).tree.walk false 40 ["w"] ["sub", "a.txt"] = _
    simp +decide [FileTree.walk, FileTree.entry?, twinHost, List.lookup_cons]
  · change (twinHost ["v"]).tree.walk false 40 ["v"] ["sub", "a.txt"] = _
    simp +decide [FileTree.walk, FileTree.entry?, twinHost, List.lookup_cons]

theorem call_twinHost
    {name : String}
    (among : name = "w" ∨ name = "v") :
    (Handler.glob (optionsIn "sub")).call "a.txt" (twinHost [name]) =
      .ok (.plain (.list [.str ((twinHost [name]).globPath (optionsIn "sub") "a.txt".toList)]))
        { twinHost [name] with world := World.empty.note (.matched "a.txt" "sub" 1) } := by
  have present : (twinHost [name]).tree.isPresent [name] "sub/a.txt" = true := by
    rw [FileTree.isPresent, find_twinHost among]
  exact call_glob_of_literal (by decide) (by decide) present
    ⟨List.forall_mem_nil _, fun asked => absurd asked Bool.false_ne_true⟩

/-- A handler with a relative directory in its options answers with what stands there at each call. -/
theorem relative_base_moves :
    (Factory.glob (.checked (optionsIn "sub")) "").make (twinHost ["w"]) =
        .ok (.glob (optionsIn "sub")) (twinHost ["w"]) ∧
      (Handler.glob (optionsIn "sub")).base? = some "sub" ∧ Path.isAbsolute "sub".toList = false ∧
      (Handler.glob (optionsIn "sub")).call "a.txt" (twinHost ["w"]) =
        .ok (.plain (.list [.str "/w/sub/a.txt"]))
          { twinHost ["w"] with world := World.empty.note (.matched "a.txt" "sub" 1) } ∧
      (Handler.glob (optionsIn "sub")).call "a.txt" (twinHost ["v"]) =
        .ok (.plain (.list [.str "/v/sub/a.txt"]))
          { twinHost ["v"] with world := World.empty.note (.matched "a.txt" "sub" 1) } := by
  have first : (twinHost ["w"]).globPath (optionsIn "sub") "a.txt".toList = "/w/sub/a.txt" := by decide
  have second : (twinHost ["v"]).globPath (optionsIn "sub") "a.txt".toList = "/v/sub/a.txt" := by decide
  refine ⟨newGlob_checked _ _ _, rfl, by decide, ?_, ?_⟩
  · rw [call_twinHost (.inl rfl), first]
  · rw [call_twinHost (.inr rfl), second]

end Handler

end ConfigTokens
