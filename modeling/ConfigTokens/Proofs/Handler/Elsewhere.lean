import Mathlib.Data.List.Find
import ConfigTokens.Handler.Call
import ConfigTokens.Proofs.Glob.Anywhere
import ConfigTokens.Proofs.Glob.Answers
/-!
# Handlers in another working directory

A handler whose base directory starts at the root anchors a token to the same path wherever the process stands, and
it looks up no other path from the working directory. So what it does for a token is the same there: all that a
handler for paths, files or patterns does, and what a handler that loads modules does for a token of a file, but
for the loads that the bodies of modules start (`staysPut_of_rooted`).
-/

namespace ConfigTokens

namespace Path

/-! ## Paths from the root -/

theorem isAbsolute_normalise
    {path : List Char}
    (rooted : isAbsolute path = true) :
    isAbsolute (normalise path) = true := by
  have kept : isAbsolute (lead path) = true := by
    rw [isAbsolute_eq, lead_lead, ← isAbsolute_eq, rooted]
  rw [normalise_eq rooted]
  exact (isAbsolute_append (Glob.ne_nil_of_isAbsolute kept) _).trans kept

theorem isAbsolute_absoluteText
    {cwd : String}
    (rooted : isAbsolute cwd.toList = true)
    (path : String) :
    isAbsolute (absoluteText cwd path).toList = true := by
  rw [absoluteText, String.toList_ofList]
  exact isAbsolute_normalise (by rw [isAbsolute_join, rooted, Bool.true_or])

/-- A path from the root is made absolute alike in every working directory. -/
theorem absoluteText_of_rooted
    (cwd later : String)
    {path : String}
    (rooted : isAbsolute path.toList = true) :
    absoluteText later path = absoluteText cwd path := by
  unfold absoluteText absolute
  rw [join_absolute rooted, join_absolute rooted]

theorem anchorText_of_rooted_base
    (cwd later : String)
    {base : String}
    (rooted : isAbsolute base.toList = true)
    (token : String) :
    anchorText later base token = anchorText cwd base token :=
  congrArg String.ofList (anchor_of_rooted_base cwd.toList later.toList rooted token.toList)

end Path

namespace Module

open ConfigTokens.FileTree

/-! ## Sites in another working directory -/

theorem isRooted_append_suffix
    {path : String}
    (rooted : isRooted path = true)
    (suffix : String) :
    isRooted (path ++ suffix) = true := by
  rw [isRooted_eq, String.toList_append]
  rw [isRooted_eq] at rooted
  exact (Path.isAbsolute_append (Glob.ne_nil_of_isAbsolute rooted) _).trans rooted

theorem isRooted_joinText
    {path : String}
    (rooted : isRooted path = true)
    (name : String) :
    isRooted (Path.joinText path name) = true := by
  rw [isRooted_eq] at rooted
  rw [isRooted_eq, Path.joinText, String.toList_ofList, Path.isAbsolute_join, rooted, Bool.true_or]

theorem isRooted_of_mem_candidates
    {path file : String}
    (rooted : isRooted path = true)
    (candidate : file ∈ candidates path) :
    isRooted file = true := by
  unfold candidates at candidate
  rcases List.mem_append.mp candidate with suffixed | body
  · rcases List.mem_cons.mp suffixed with rfl | suffixed
    · exact rooted
    · obtain ⟨suffix, -, rfl⟩ := List.mem_map.mp suffixed
      exact isRooted_append_suffix rooted suffix
  · rw [List.mem_singleton.mp body]
    exact isRooted_joinText rooted packageFile

namespace Site

/-- The site in another working directory. -/
def elsewhere
    (site : Site)
    (cwd : List String) : Site :=
  { site with cwd }

variable (site : Site)
variable (cwd : List String)

section

variable {file : String}
variable (rooted : isRooted file = true)

include rooted

theorem isFile_elsewhere :
    (site.elsewhere cwd).isFile file = site.isFile file := by
  unfold isFile FileTree.isFile elsewhere
  rw [site.tree.find_elsewhere true site.cwd cwd rooted]

theorem key_elsewhere :
    (site.elsewhere cwd).key file = site.key file := by
  unfold key realPath? elsewhere
  rw [site.tree.find_elsewhere true site.cwd cwd rooted]

theorem program_elsewhere :
    (site.elsewhere cwd).program file = site.program file := by
  unfold program FileTree.read elsewhere
  rw [site.tree.find_elsewhere true site.cwd cwd rooted]

theorem document_elsewhere :
    (site.elsewhere cwd).document file = site.document file := by
  unfold document FileTree.read elsewhere
  rw [site.tree.find_elsewhere true site.cwd cwd rooted]

end

theorem findFile_elsewhere
    {path : String}
    (rooted : isRooted path = true) :
    (site.elsewhere cwd).findFile path = site.findFile path :=
  List.find?_congr fun _ candidate =>
    site.isFile_elsewhere cwd (isRooted_of_mem_candidates rooted candidate)

end Site

variable (site : Site)
variable (loader : Loader)
variable (cwd : List String)

/-- A file is loaded the same, as long as the loads that its body starts are. -/
theorem loadFile_elsewhere
    {key : String}
    (rooted : isRooted key = true) :
    loadFile (site.elsewhere cwd) loader key = loadFile site loader key := by
  have body (id : ObjectId) : Body.run (site.elsewhere cwd) loader id key = Body.run site loader id key := by
    unfold Body.run
    rw [site.program_elsewhere cwd rooted]
  unfold loadFile loadDocument loadSource
  rw [site.document_elsewhere cwd rooted]
  simp only [body]
  rfl

theorem loadPath_elsewhere
    {path : String}
    (rooted : isRooted path = true) :
    loadPath (site.elsewhere cwd) loader path = loadPath site loader path := by
  unfold loadPath
  rw [site.findFile_elsewhere cwd rooted]
  cases found : site.findFile path with
  | none => rfl
  | some file =>
      have fileRooted := isRooted_of_mem_candidates rooted (List.mem_of_find?_eq_some found)
      dsimp only
      rw [site.key_elsewhere cwd fileRooted, loadFile_elsewhere site loader cwd (Site.isRooted_key found)]
      rfl

section

variable {base token : String}
variable (rooted : Path.isAbsolute base.toList = true)

include rooted

/-- A token for a file is loaded the same from every working directory. -/
theorem requireToken_elsewhere
    (refers : isFileReference token = true) :
    requireToken (site.elsewhere cwd) loader base token = requireToken site loader base token := by
  have start : Path.isAbsolute site.cwdText.toList = true := by simp [Site.cwdText, FileTree.pathText]
  have reported :
      Path.absoluteText (site.elsewhere cwd).cwdText base = Path.absoluteText site.cwdText base :=
    Path.absoluteText_of_rooted _ _ rooted
  have directory := Path.isAbsolute_absoluteText start base
  have anchored :
      (site.elsewhere cwd).anchor (Path.absoluteText site.cwdText base) token =
        site.anchor (Path.absoluteText site.cwdText base) token :=
    Path.anchorText_of_rooted_base _ _ directory token
  have file : isRooted (site.anchor (Path.absoluteText site.cwdText base) token) = true := by
    rw [isRooted_eq, Site.anchor, Path.anchorText, String.toList_ofList]
    exact Path.isAbsolute_anchor start _ _
  unfold requireToken
  dsimp only
  rw [if_pos refers, if_pos refers, reported, anchored, loadPath_elsewhere site loader cwd file]

theorem executeToken_elsewhere
    (refers : isFileReference (Reference.parse token).module = true) :
    executeToken (site.elsewhere cwd) loader base token = executeToken site loader base token := by
  have reported :
      Path.absoluteText (site.elsewhere cwd).cwdText base = Path.absoluteText site.cwdText base :=
    Path.absoluteText_of_rooted _ _ rooted
  unfold executeToken loadReference invokeLoaded
  rw [requireToken_elsewhere site loader cwd rooted refers, reported]
  rfl

end

end Module

/-! ## Computations in another working directory -/

/-- The host in another working directory. -/
def Host.elsewhere
    (host : Host)
    (cwd : List String) : Host :=
  { host with cwd }

namespace Hosted

variable {α β : Type}

/-- The same end in another working directory. -/
def carried
    (cwd : List String) : EStateM.Result Thrown Host α → EStateM.Result Thrown Host α
  | .ok value host => .ok value (host.elsewhere cwd)
  | .error thrown host => .error thrown (host.elsewhere cwd)

/-- A computation does the same in every working directory. -/
def IsSettled
    (action : Hosted α) : Prop :=
  ∀ (host : Host) (cwd : List String), action (host.elsewhere cwd) = carried cwd (action host)

namespace IsSettled

theorem pure
    (value : α) :
    IsSettled (Pure.pure value) :=
  fun _ _ => rfl

theorem throw
    (thrown : Thrown) :
    IsSettled (MonadExcept.throw thrown : Hosted α) :=
  fun _ _ => rfl

theorem bind
    {action : Hosted α}
    {next : α → Hosted β}
    (begins : IsSettled action)
    (goesOn : ∀ value, IsSettled (next value)) :
    IsSettled (action >>= next) := by
  intro host cwd
  change EStateM.bind action next (host.elsewhere cwd) = carried cwd (EStateM.bind action next host)
  unfold EStateM.bind
  rw [begins host cwd]
  cases action host with
  | ok value middle => exact goesOn value middle cwd
  | error thrown middle => rfl

theorem map
    {action : Hosted α}
    (wrap : α → β)
    (settled : IsSettled action) :
    IsSettled (wrap <$> action) := by
  intro host cwd
  change EStateM.map wrap action (host.elsewhere cwd) = carried cwd (EStateM.map wrap action host)
  unfold EStateM.map
  rw [settled host cwd]
  cases action host with
  | ok value middle => rfl
  | error thrown middle => rfl

theorem ofExcept
    (result : Except Thrown α) :
    IsSettled (Hosted.ofExcept result) := by
  cases result with
  | ok value => exact pure value
  | error thrown => exact throw thrown

theorem notify
    (event : Event) :
    IsSettled (Hosted.notify event) :=
  fun _ _ => rfl

end IsSettled

end Hosted

namespace Handler

open ConfigTokens.Module
open ConfigTokens.Hosted

/-! ## Handlers that answer at once -/

/-- What a handler makes of what it has read. -/
def bytesRead
    (file token : String) : Except PathFault Content → Hosted (List UInt8)
  | .ok (.bytes data) => return data
  | .ok (.program _) => return []
  | .error fault => do
    Hosted.notify (.readFailed file token (fault.message file))
    throw (.unreadable fault file)

theorem readBytes_apply
    (file token : String)
    (host : Host) :
    readBytes file token host =
      if file.toList.contains '\x00' then .error .embeddedNull host
      else bytesRead file token (host.tree.read host.cwd file) host := by
  have got : (get : Hosted Host) host = .ok host host := rfl
  unfold readBytes bytesRead
  simp only [bind, EStateM.bind, got]
  split
  · rfl
  · cases host.tree.read host.cwd file with
    | error fault => rfl
    | ok content => cases content <;> rfl

theorem bytesRead_isSettled
    (file token : String)
    (read : Except PathFault Content) :
    IsSettled (bytesRead file token read) := by
  unfold bytesRead
  split
  · exact .pure _
  · exact .pure _
  · exact (IsSettled.notify _).bind fun _ => .throw _

theorem readBytes_isSettled
    {file : String}
    (rooted : FileTree.isRooted file = true)
    (token : String) :
    IsSettled (readBytes file token) := by
  intro host cwd
  have same : (host.elsewhere cwd).tree.read (host.elsewhere cwd).cwd file = host.tree.read host.cwd file := by
    unfold FileTree.read Host.elsewhere
    rw [host.tree.find_elsewhere true host.cwd cwd rooted]
  rw [readBytes_apply, readBytes_apply, same]
  split
  · rfl
  · exact bytesRead_isSettled file token _ host cwd

theorem readFile_isSettled
    (options : FileOptions)
    {file : String}
    (rooted : FileTree.isRooted file = true)
    (token : String) :
    IsSettled (readFile options file token) := by
  refine (readBytes_isSettled rooted token).bind fun data => ?_
  cases options.encoding with
  | none => exact .pure _
  | some encoding => exact (IsSettled.ofExcept _).bind fun text => .pure _

theorem call_path_isSettled
    {base : String}
    (rooted : Path.isAbsolute base.toList = true)
    (token : String) :
    IsSettled ((Handler.path base).call token) := by
  intro host cwd
  change EStateM.Result.ok (Answer.plain (.str (Path.anchorText (host.elsewhere cwd).cwdText base token)))
    (host.elsewhere cwd) = _
  rw [Path.anchorText_of_rooted_base host.cwdText (host.elsewhere cwd).cwdText rooted]
  rfl

theorem call_file_isSettled
    {base : String}
    (rooted : Path.isAbsolute base.toList = true)
    (options : FileOptions)
    (token : String) :
    IsSettled ((Handler.file base options).call token) := by
  intro host cwd
  have file : FileTree.isRooted (Path.anchorText host.cwdText base token) = true := by
    rw [FileTree.isRooted_eq, Path.anchorText, String.toList_ofList]
    exact Path.isAbsolute_anchor host.isAbsolute_cwdText _ _
  change (Answer.plain <$> readFile options (Path.anchorText (host.elsewhere cwd).cwdText base token) token)
    (host.elsewhere cwd) = _
  rw [Path.anchorText_of_rooted_base host.cwdText (host.elsewhere cwd).cwdText rooted]
  exact (readFile_isSettled options file token).map Answer.plain host cwd

theorem call_glob_isSettled
    {options : GlobOptions}
    (rooted : Path.isAbsolute options.cwd.toList = true)
    (pattern : String) :
    IsSettled ((Handler.glob options).call pattern) := by
  intro host cwd
  have same :
      Glob.search ((host.elsewhere cwd).globScope options) ⟨options.nodir, options.ignore⟩ pattern =
        Glob.search (host.globScope options) ⟨options.nodir, options.ignore⟩ pattern :=
    Glob.search_elsewhere (host.globScope options) rooted cwd _ pattern
  cases found : Glob.search (host.globScope options) ⟨options.nodir, options.ignore⟩ pattern with
  | error fault =>
      rw [call_glob_of_fault (same.trans found), call_glob_of_fault found]
      rfl
  | ok paths =>
      rw [call_glob_of_search (same.trans found), call_glob_of_search found]
      rfl

/--
What a handler with a base directory does for a token is the same in every working directory. Of a handler that
loads modules this is said of tokens for files, and of all but the loads that bodies and functions start.
-/
def StaysPut : Handler → Prop
  | .require base _ =>
    ∀ (site : Site) (loader : Loader) (cwd : List String) (token : String),
      isFileReference token = true →
        requireToken (site.elsewhere cwd) loader base token = requireToken site loader base token
  | .exec base _ =>
    ∀ (site : Site) (loader : Loader) (cwd : List String) (token : String),
      isFileReference (Reference.parse token).module = true →
        executeToken (site.elsewhere cwd) loader base token = executeToken site loader base token
  | handler => ∀ token : String, IsSettled (handler.call token)

theorem staysPut_of_rooted
    {handler : Handler}
    {base : String}
    (based : handler.base? = some base)
    (rooted : Path.isAbsolute base.toList = true) :
    handler.StaysPut := by
  cases handler with
  | base64 => cases based
  | env environment => cases based
  | path base =>
      cases based
      exact call_path_isSettled rooted
  | file base options =>
      cases based
      exact call_file_isSettled rooted options
  | require base registry =>
      cases based
      exact fun site loader cwd token => requireToken_elsewhere site loader cwd rooted
  | exec base registry =>
      cases based
      exact fun site loader cwd token => executeToken_elsewhere site loader cwd rooted
  | glob options =>
      cases based
      exact call_glob_isSettled rooted

end Handler

end ConfigTokens
