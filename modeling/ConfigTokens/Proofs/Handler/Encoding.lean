import ConfigTokens.Proofs.Handler.Elsewhere
/-!
# Encodings of handlers that read files

The settings name the encoding of a handler that is made without options. A mapping of options that names no
encoding asks for bytes instead, whatever the settings say, whether it stands in the second place or in that of the
base directory. What a handler answers for a file follows from its encoding and its policy alone.
-/

namespace ConfigTokens

open ConfigTokens.Module

namespace FileOptions

/-- The members of a mapping that names no encoding, but may give a policy. -/
def unencoded
    (policy : Option String) : List (String × Json) :=
  (policy.map fun policy => ("errors", .str policy)).toList

theorem ofMembers_unencoded
    (policy : Option String) :
    ofMembers (unencoded policy) = .ok ⟨none, policy.getD defaultPolicy⟩ := by
  cases policy with
  | none => rfl
  | some policy => rfl

/-- What bytes are read as under options: themselves, or their text in an encoding. -/
def reading
    (options : FileOptions)
    (data : List UInt8) : Except Thrown Value :=
  match options.encoding with
  | none => .ok (.bytes data)
  | some encoding => ((Codec.decode encoding options.errors data).map Value.str).mapError Thrown.decoding

end FileOptions

namespace Hosted

theorem bind_of_ok
    {α β : Type}
    {action : Hosted α}
    {next : α → Hosted β}
    {host middle : Host}
    {value : α}
    (first : action host = .ok value middle) :
    (action >>= next) host = next value middle := by
  show EStateM.bind action next host = next value middle
  rw [EStateM.bind, first]

theorem bind_of_error
    {α β : Type}
    {action : Hosted α}
    {next : α → Hosted β}
    {host after : Host}
    {thrown : Thrown}
    (first : action host = .error thrown after) :
    (action >>= next) host = .error thrown after := by
  show EStateM.bind action next host = .error thrown after
  rw [EStateM.bind, first]

theorem map_apply
    {α β : Type}
    (wrap : α → β)
    (action : Hosted α)
    (host : Host) :
    (wrap <$> action) host =
      match action host with
      | .ok value after => .ok (wrap value) after
      | .error thrown after => .error thrown after := by
  show EStateM.map wrap action host = _
  rw [EStateM.map]
  cases action host <;> rfl

theorem settings_of_known
    {host : Host}
    {settings : Settings}
    (known : host.settings = some settings) :
    Hosted.settings host = .ok settings host := by
  have got : (get : Hosted Host) host = .ok host host := rfl
  rw [Hosted.settings, bind_of_ok got]
  simp only [known]
  rfl

/-- Settings that have been read are kept, and nothing else has changed. -/
theorem eq_of_settings
    {host known : Host}
    {settings : Settings}
    (asked : Hosted.settings host = .ok settings known) :
    known = { host with settings := some settings } := by
  have got : (get : Hosted Host) host = .ok host host := rfl
  rw [Hosted.settings, bind_of_ok got] at asked
  cases kept : host.settings with
  | some given =>
      simp only [kept] at asked
      cases asked
      rw [← kept]
  | none =>
      simp only [kept] at asked
      cases read : host.readSettings with
      | error thrown =>
          rw [read] at asked
          cases asked
      | ok given =>
          rw [read] at asked
          cases asked
          rfl

/-- Settings are the same when they are asked for again. -/
theorem settings_again
    {host final : Host}
    {settings : Settings}
    (asked : Hosted.settings host = .ok settings final) :
    Hosted.settings final = .ok settings final := by
  apply settings_of_known
  rw [eq_of_settings asked]

end Hosted

namespace Handler

/-- A call of the factory for files that names no encoding. -/
inductive FileCall where
  /-- Without options, for a base directory or none. -/
  | bare (base : Option String)
  /-- With a mapping behind the base directory, which may give a policy. -/
  | mapped (base policy : Option String)
  /-- With such a mapping in the place of the base directory. -/
  | leading (policy : Option String)

namespace FileCall

/-- A base directory as an argument. -/
def place
    {Options : Type}
    (base : Option String) : Argument Options :=
  base.elim .absent .path

/-- Makes the handler. -/
def make : FileCall → Hosted Handler
  | .bare base => newFile (place base) .absent
  | .mapped base policy => newFile (place base) (.mapping (FileOptions.unencoded policy))
  | .leading policy => newFile (.mapping (FileOptions.unencoded policy)) .absent

/-- The call gives no options at all. -/
def IsBare : FileCall → Prop
  | .bare _ => True
  | .mapped .. | .leading _ => False

/-- The policy that the call asks for. -/
def policy : FileCall → String
  | .bare _ => FileOptions.defaultPolicy
  | .mapped _ policy | .leading policy => policy.getD FileOptions.defaultPolicy

/-- The encoding that the handler gets: that of the settings for want of a mapping, and else none. -/
def encoding
    (settings : Settings) : FileCall → Option String
  | .bare _ => settings.fileEncoding
  | .mapped .. | .leading _ => none

theorem encoding_eq_iff
    (call : FileCall)
    (settings : Settings) :
    call.encoding settings = settings.fileEncoding ↔ call.IsBare ∨ settings.fileEncoding = none := by
  cases call with
  | bare base => exact ⟨fun _ => .inl trivial, fun _ => rfl⟩
  | mapped base policy => exact ⟨fun same => .inr same.symm, fun known => (known.resolve_left id).symm⟩
  | leading policy => exact ⟨fun same => .inr same.symm, fun known => (known.resolve_left id).symm⟩

end FileCall

theorem exists_absolute
    (path : String)
    (host : Host) :
    ∃ directory, absolute path host = .ok directory host :=
  ⟨_, rfl⟩

/-- A base directory is found wherever the settings can be read. -/
theorem exists_baseDir
    (Options : Type)
    {host known : Host}
    {settings : Settings}
    (asked : Hosted.settings host = .ok settings known)
    (base : Option String) :
    ∃ directory final, baseDir (FileCall.place base : Argument Options) host = .ok directory final := by
  cases base with
  | some text =>
      rcases exists_absolute text host with ⟨directory, found⟩
      exact ⟨directory, host, found⟩
  | none =>
      rcases exists_absolute (settings.baseDir.getD known.cwdText) known with ⟨directory, found⟩
      refine ⟨directory, known, ?_⟩
      show baseDir .absent host = .ok directory known
      rw [baseDir, Hosted.bind_of_ok asked]
      exact found

theorem newFile_place
    (base : Option String)
    (options : Argument FileOptions) :
    newFile (FileCall.place base) options =
      (do
        let options ← fileOptions options
        return .file (← baseDir (FileCall.place base : Argument FileOptions)) options) := by
  cases base with
  | none => rfl
  | some text => rfl

theorem newFile_mapping
    (members : List (String × Json))
    (ignored : Argument FileOptions) :
    newFile (.mapping members) ignored =
      (do
        let options ← fileOptions (.mapping members)
        return .file (← baseDir (FileCall.place none : Argument Unit)) options) :=
  rfl

theorem fileOptions_unencoded
    (policy : Option String)
    (host : Host) :
    fileOptions (.mapping (FileOptions.unencoded policy)) host =
      .ok ⟨none, policy.getD FileOptions.defaultPolicy⟩ host := by
  rw [fileOptions, FileOptions.ofMembers_unencoded]
  rfl

/-- Every call that names no encoding makes a handler. -/
theorem exists_make
    (call : FileCall)
    {host known : Host}
    {settings : Settings}
    (asked : Hosted.settings host = .ok settings known) :
    ∃ base final, call.make host = .ok (.file base ⟨call.encoding settings, call.policy⟩) final := by
  cases call with
  | bare base =>
      have given : fileOptions .absent host = .ok (.ofEncoding settings.fileEncoding) known := by
        rw [fileOptions, Hosted.bind_of_ok asked]
        rfl
      rcases exists_baseDir FileOptions (Hosted.settings_again asked) base with ⟨directory, final, found⟩
      refine ⟨directory, final, ?_⟩
      rw [FileCall.make, newFile_place, Hosted.bind_of_ok given, Hosted.bind_of_ok found]
      rfl
  | mapped base policy =>
      rcases exists_baseDir FileOptions asked base with ⟨directory, final, found⟩
      refine ⟨directory, final, ?_⟩
      rw [FileCall.make, newFile_place, Hosted.bind_of_ok (fileOptions_unencoded policy host),
        Hosted.bind_of_ok found]
      rfl
  | leading policy =>
      rcases exists_baseDir Unit asked none with ⟨directory, final, found⟩
      refine ⟨directory, final, ?_⟩
      rw [FileCall.make, newFile_mapping, Hosted.bind_of_ok (fileOptions_unencoded policy host),
        Hosted.bind_of_ok found]
      rfl

/-! ## What is read -/

/-- A file that can be read is answered as its options say. -/
theorem call_file_of_bytes
    {base token : String}
    (options : FileOptions)
    {host : Host}
    {data : List UInt8}
    (read : host.tree.read host.cwd (Path.anchorText host.cwdText base token) = .ok (.bytes data)) :
    (Handler.file base options).call token host =
      (Answer.plain <$> Hosted.ofExcept (options.reading data)) host := by
  have plain : (Path.anchorText host.cwdText base token).toList.contains '\x00' = false := by
    by_contra null
    rw [FileTree.read, FileTree.find, eq_true_of_ne_false null, Bool.or_true, if_pos rfl] at read
    cases read
  have bytes : readBytes (Path.anchorText host.cwdText base token) token host = .ok data host := by
    rw [readBytes_apply, plain, read]
    rfl
  have content :
      readFile options (Path.anchorText host.cwdText base token) token host =
        Hosted.ofExcept (options.reading data) host := by
    rw [readFile, Hosted.bind_of_ok bytes, FileOptions.reading]
    cases options.encoding with
    | none => rfl
    | some encoding =>
        dsimp only
        cases Codec.decode encoding options.errors data with
        | ok text => rfl
        | error failure => rfl
  show EStateM.map Answer.plain (readFile options _ token) host = EStateM.map Answer.plain _ host
  rw [EStateM.map, EStateM.map, content]

/--
A call of the factory for files that names no encoding makes a handler, wherever the settings can be read:

* Its policy is that of the call. Its encoding is that of the settings if the call gives no options or the settings
  name no encoding, and only then; a mapping without an encoding makes a handler without one.
* Of every file that can be read, it answers the bytes if it has no encoding, and the text in its encoding, or why
  there is none, if it has one.
-/
theorem encoding_of_call
    (call : FileCall)
    {host known : Host}
    {settings : Settings}
    (asked : Hosted.settings host = .ok settings known) :
    ∃ base options final,
      call.make host = .ok (.file base options) final ∧
        options.errors = call.policy ∧
        (options.encoding = settings.fileEncoding ↔ call.IsBare ∨ settings.fileEncoding = none) ∧
        (¬ call.IsBare → options.encoding = none) ∧
        ∀ (later : Host) (token : String) (data : List UInt8),
          later.tree.read later.cwd (Path.anchorText later.cwdText base token) = .ok (.bytes data) →
            (Handler.file base options).call token later =
              (Answer.plain <$> Hosted.ofExcept (options.reading data)) later := by
  rcases exists_make call asked with ⟨base, final, made⟩
  refine ⟨base, ⟨call.encoding settings, call.policy⟩, final, made, rfl, ?_, ?_, ?_⟩
  · exact call.encoding_eq_iff settings
  · intro mapped
    cases call with
    | bare base => exact absurd trivial mapped
    | mapped base policy => rfl
    | leading policy => rfl
  · intro later token data read
    exact call_file_of_bytes _ read

/-- A host whose settings name an encoding, with a file. -/
def encodedHost : Host :=
  ⟨⟨[(["a.txt"], .file (.bytes [0xC3, 0xA9]))]⟩, [], [], "", .usual, .blank,
    some ⟨none, some "utf-8", false, "INFO", "json"⟩, .empty⟩

/-- A mapping with a policy makes a handler for bytes, and no options make one for text. -/
theorem encoding_of_call_encodedHost :
    Hosted.settings encodedHost = .ok ⟨none, some "utf-8", false, "INFO", "json"⟩ encodedHost ∧
      ∃ base options final,
        (FileCall.mapped (some "/") (some "ignore")).make encodedHost = .ok (.file base options) final ∧
          options.errors = "ignore" ∧ options.encoding = none := by
  have asked : Hosted.settings encodedHost = .ok ⟨none, some "utf-8", false, "INFO", "json"⟩ encodedHost :=
    Hosted.settings_of_known rfl
  rcases encoding_of_call (.mapped (some "/") (some "ignore")) asked with
    ⟨base, options, final, made, policy, -, unencoded, -⟩
  exact ⟨asked, base, options, final, made, policy, unencoded id⟩

/-- The settings name an encoding, and of two calls that name none, one reads text and the other bytes. -/
theorem mapping_drops_encoding :
    (FileCall.bare (some "/")).make encodedHost = .ok (.file "/" ⟨some "utf-8", "strict"⟩) encodedHost ∧
      (Handler.file "/" ⟨some "utf-8", "strict"⟩).call "a.txt" encodedHost =
        .ok (.plain (.str "é")) encodedHost ∧
      (FileCall.mapped (some "/") none).make encodedHost = .ok (.file "/" ⟨none, "strict"⟩) encodedHost ∧
      (FileCall.leading none).make encodedHost = .ok (.file "/" ⟨none, "strict"⟩) encodedHost ∧
      (Handler.file "/" ⟨none, "strict"⟩).call "a.txt" encodedHost =
        .ok (.plain (.bytes [0xC3, 0xA9])) encodedHost := by
  have anchored : Path.anchorText encodedHost.cwdText "/" "a.txt" = "/a.txt" := by decide
  have read :
      encodedHost.tree.read encodedHost.cwd (Path.anchorText encodedHost.cwdText "/" "a.txt") =
        .ok (.bytes [0xC3, 0xA9]) := by
    have found :
        encodedHost.tree.find true encodedHost.cwd "/a.txt" =
          .ok (["a.txt"], .file (.bytes [0xC3, 0xA9])) := by
      change encodedHost.tree.walk true 40 [] ["", "a.txt"] = _
      simp +decide [FileTree.walk, FileTree.entry?, encodedHost]
    rw [anchored, FileTree.read, found]
  refine ⟨rfl, ?_, rfl, rfl, ?_⟩
  · rw [call_file_of_bytes _ read]
    rfl
  · rw [call_file_of_bytes _ read]
    rfl

end Handler

end ConfigTokens
