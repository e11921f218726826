import ConfigTokens.Proofs.Handler.Base
import ConfigTokens.Proofs.Handler.Encoding
/-!
# Handlers for patterns from a mapping

The directory of a handler for patterns is taken from its mapping before the members are checked. Where the
member for it is missing, null or text, the mapping is checked as a whole: the handler holds what its members
stand for, or there is an issue for each that does not fit. A member of any other type is not checked: it is
passed over if it counts as none, and if not it is refused before anything else is looked at.
-/

namespace ConfigTokens

namespace GlobOptions

/-- The default for hidden names does not count where the mapping has a member for them. -/
theorem checkedFields_of_contains
    {members : List (String × Json)}
    (given : Assoc.contains members "dot" = true)
    (dot other : Bool) :
    checkedFields dot members = checkedFields other members := by
  have same :
      Field.withDefault members "dot" dot Field.truth = Field.withDefault members "dot" other Field.truth := by
    rcases Option.isSome_iff_exists.mp given with ⟨value, found⟩
    unfold Field.withDefault
    rw [found]
  unfold checkedFields
  rw [same]

end GlobOptions

namespace Handler

open ConfigTokens.Module

/-! ## The directory -/

/-- A member may stand for a directory: there is none, or it is null or text. -/
def MayBeDirectory : Option Json → Prop
  | none | some .null | some (.str _) => True
  | some _ => False

/-- The directory that a member asks for: its text, or the default if it has none. -/
def directoryAsked
    (default : String) : Option Json → String
  | some (.str text) => if text = "" then default else text
  | _ => default

/-- The directory of the settings, or else the default, made absolute. -/
def fallback
    (default : String) : Hosted String := do
  absolute ((← Hosted.settings).baseDir.getD default)

theorem globDirectory_of_text
    {members : List (String × Json)}
    {text : String}
    (own : members.lookup "cwd" = some (.str text))
    (filled : text ≠ "")
    (default : String) :
    globDirectory members default = absolute text := by
  unfold globDirectory
  rw [own]
  exact if_neg filled

/-- A member that counts as none is passed over, whatever its type. -/
theorem globDirectory_of_blank
    {members : List (String × Json)}
    (blank : ∀ value, members.lookup "cwd" = some value → isBlankValue value = true)
    (default : String) :
    globDirectory members default = fallback default := by
  unfold globDirectory
  split
  case h_1 text own => exact if_pos (by simpa [isBlankValue] using blank _ own)
  case h_2 value _ own => exact if_pos (blank value own)
  case h_3 => rfl

theorem globDirectory_of_refused
    {members : List (String × Json)}
    {value : Json}
    (own : members.lookup "cwd" = some value)
    (wrong : ¬MayBeDirectory (some value))
    (counts : isBlankValue value = false)
    (default : String) :
    globDirectory members default = throw (.notPathLike (Value.ofJson value).typeName) := by
  unfold globDirectory
  rw [own]
  cases value with
  | str text => exact absurd trivial wrong
  | _ =>
      dsimp only
      rw [counts]
      rfl

/-! ## The other members -/

/-- Makes the handler from its members, once its directory is known. -/
def ofDirectory
    (members : List (String × Json))
    (directory : String) : Hosted Handler :=
  Handler.glob <$> checkGlobOptions (Assoc.put members "cwd" (.str directory))

theorem newGlob_mapping
    {caller default : String}
    {host : Host}
    (found : callerDirectory caller host = .ok default host)
    (members : List (String × Json)) :
    newGlob (.mapping members) caller host = (globDirectory members default >>= ofDirectory members) host := by
  show (callerDirectory caller >>= _) host = _
  rw [Hosted.bind_of_ok found]
  show
    EStateM.bind (EStateM.bind (globDirectory members default) _) _ host =
      EStateM.bind (globDirectory members default) _ host
  unfold EStateM.bind
  cases globDirectory members default host <;> rfl

/-- The handler that comes of the fields but the directory. -/
def ofFields
    (dot : Bool)
    (members : List (String × Json))
    (directory : String) : Hosted Handler :=
  Handler.glob <$> Hosted.ofExcept
    (((GlobOptions.checkedFields dot members).map fun (dot, nodir, ignore) =>
      (⟨directory, dot, nodir, ignore⟩ : GlobOptions)).mapError (Thrown.invalid GlobOptions.modelName))

theorem ofFields_of_contains
    {members : List (String × Json)}
    (given : Assoc.contains members "dot" = true)
    (dot other : Bool)
    (directory : String) :
    ofFields dot members directory = ofFields other members directory := by
  unfold ofFields
  rw [GlobOptions.checkedFields_of_contains given dot other]

theorem ofDirectory_eq
    (members : List (String × Json))
    (directory : String) :
    ofDirectory members directory =
      (do
        let dot ← if Assoc.contains members "dot" then pure false else (·.globDot) <$> Hosted.settings
        ofFields dot members directory) := by
  have same :
      Assoc.contains (Assoc.put members "cwd" (.str directory)) "dot" = Assoc.contains members "dot" := by
    unfold Assoc.contains
    rw [Assoc.lookup_put_of_ne (by decide)]
  unfold ofDirectory checkGlobOptions ofFields
  rw [same]
  cases Assoc.contains members "dot" <;> simp [GlobOptions.ofMembers_put, map_bind]

/--
The end of a factory that checks all members: the handler has the directory and holds what the other members
stand for, or they do not fit, and the issues that it throws each lie within one of them.
-/
def ChecksTo
    (dot : Bool)
    (members : List (String × Json))
    (directory : String) : EStateM.Result Thrown Host Handler → Prop
  | .ok handler _ =>
    ∃ options, handler = .glob options ∧ options.cwd = directory ∧ options.Holds dot members
  | .error thrown _ =>
    (∀ options : GlobOptions, ¬options.Holds dot members) ∧
      ∃ issues, thrown = .invalid GlobOptions.modelName issues ∧ issues ≠ [] ∧
        ∀ issue ∈ issues, ∃ name ∈ Assoc.keys members, issue.Within [name]

theorem ofFields_checksTo
    (dot : Bool)
    (members : List (String × Json))
    (directory : String)
    (host : Host) :
    ChecksTo dot members directory (ofFields dot members directory host) := by
  unfold ofFields
  cases checked : GlobOptions.checkedFields dot members with
  | ok fields =>
      rcases fields with ⟨hidden, directories, ignored⟩
      refine ⟨⟨directory, hidden, directories, ignored⟩, rfl, rfl, ?_⟩
      exact GlobOptions.checkedFields_eq_ok_iff.mp checked
  | error issues =>
      refine ⟨?_, issues, rfl, GlobOptions.checkedFields_reports dot members issues checked⟩
      intro options holds
      have passed := GlobOptions.checkedFields_eq_ok_iff.mpr holds
      rw [checked] at passed
      cases passed

theorem ofDirectory_checksTo
    (members : List (String × Json))
    (directory : String)
    {host known : Host}
    {settings : Settings}
    (asked : Hosted.settings host = .ok settings known) :
    ChecksTo settings.globDot members directory (ofDirectory members directory host) := by
  rw [ofDirectory_eq]
  split
  case isTrue given =>
      have checks := ofFields_checksTo settings.globDot members directory host
      rwa [ofFields_of_contains given settings.globDot false] at checks
  case isFalse =>
      have dot : ((·.globDot) <$> Hosted.settings : Hosted Bool) host = .ok settings.globDot known := by
        rw [Hosted.map_apply, asked]
      rw [Hosted.bind_of_ok dot]
      exact ofFields_checksTo settings.globDot members directory known

theorem ofDirectory_unread
    (members : List (String × Json))
    (directory : String)
    {host after : Host}
    {thrown : Thrown}
    (failed : Hosted.settings host = .error thrown after) :
    ofDirectory members directory host = .error thrown after ∨
      ∀ dot, ChecksTo dot members directory (ofDirectory members directory host) := by
  rw [ofDirectory_eq]
  split
  case isTrue given =>
      right
      intro dot
      have checks := ofFields_checksTo dot members directory host
      rwa [ofFields_of_contains given dot false] at checks
  case isFalse =>
      left
      apply Hosted.bind_of_error
      rw [Hosted.map_apply, failed]

/-! ## The factory -/

theorem fallback_apply
    (default : String)
    {host known : Host}
    {settings : Settings}
    (asked : Hosted.settings host = .ok settings known) :
    fallback default host =
      .ok (Path.absoluteText host.cwdText (settings.baseDir.getD default)) known := by
  rw [fallback, Hosted.bind_of_ok asked, Hosted.eq_of_settings asked]
  rfl

/-- A member that may stand for a directory counts as none exactly if it has no text. -/
theorem blank_or_text
    {member : Option Json}
    (fits : MayBeDirectory member) :
    (∀ value, member = some value → isBlankValue value = true) ∨
      ∃ text, member = some (.str text) ∧ text ≠ "" := by
  cases member with
  | none => exact .inl nofun
  | some value =>
      cases value with
      | null => exact .inl fun _ same => Option.some.inj same ▸ rfl
      | str text =>
          by_cases empty : text = ""
          · left
            rintro _ ⟨⟩
            simp [isBlankValue, empty]
          · exact .inr ⟨text, rfl, empty⟩
      | _ => exact fits.elim

theorem directoryAsked_of_blank
    {member : Option Json}
    (blank : ∀ value, member = some value → isBlankValue value = true)
    (default : String) :
    directoryAsked default member = default := by
  unfold directoryAsked
  split
  case h_1 text => exact if_pos (by simpa [isBlankValue] using blank _ rfl)
  case h_2 => rfl

/-- A mapping is checked as a whole where the settings can be read. -/
theorem newGlob_checksTo
    {members : List (String × Json)}
    (fits : MayBeDirectory (members.lookup "cwd"))
    {caller default : String}
    {host known : Host}
    {settings : Settings}
    (found : callerDirectory caller host = .ok default host)
    (asked : Hosted.settings host = .ok settings known) :
    ChecksTo settings.globDot members
      (Path.absoluteText host.cwdText
        (directoryAsked (settings.baseDir.getD default) (members.lookup "cwd")))
      (newGlob (.mapping members) caller host) := by
  rw [newGlob_mapping found]
  rcases blank_or_text fits with blank | ⟨text, own, filled⟩
  · rw [globDirectory_of_blank blank, Hosted.bind_of_ok (fallback_apply default asked),
      directoryAsked_of_blank blank]
    exact ofDirectory_checksTo members _ (Hosted.settings_again asked)
  · have located : absolute text host = .ok (Path.absoluteText host.cwdText text) host := rfl
    rw [globDirectory_of_text own filled, Hosted.bind_of_ok located, own, directoryAsked, if_neg filled]
    exact ofDirectory_checksTo members _ asked

/-- Where they cannot, what reading them throws is thrown, unless no default is asked for. -/
theorem newGlob_unread
    {members : List (String × Json)}
    (fits : MayBeDirectory (members.lookup "cwd"))
    {caller default : String}
    {host after : Host}
    {thrown : Thrown}
    (found : callerDirectory caller host = .ok default host)
    (failed : Hosted.settings host = .error thrown after) :
    newGlob (.mapping members) caller host = .error thrown after ∨
      ∀ dot,
        ChecksTo dot members
          (Path.absoluteText host.cwdText (directoryAsked default (members.lookup "cwd")))
          (newGlob (.mapping members) caller host) := by
  rw [newGlob_mapping found]
  rcases blank_or_text fits with blank | ⟨text, own, filled⟩
  · left
    rw [globDirectory_of_blank blank]
    exact Hosted.bind_of_error (Hosted.bind_of_error failed)
  · have located : absolute text host = .ok (Path.absoluteText host.cwdText text) host := rfl
    rw [globDirectory_of_text own filled, Hosted.bind_of_ok located, own, directoryAsked, if_neg filled]
    exact ofDirectory_unread members _ failed

/-- A member that counts as none is as good as no member, whatever its type. -/
theorem newGlob_erase
    {members : List (String × Json)}
    (blank : ∀ value, members.lookup "cwd" = some value → isBlankValue value = true)
    (caller : String)
    (host : Host) :
    newGlob (.mapping members) caller host =
      newGlob (.mapping (Assoc.erase members "cwd")) caller host := by
  have none : (Assoc.erase members "cwd").lookup "cwd" = none := Assoc.lookup_erase_self members "cwd"
  have fields : ofDirectory (Assoc.erase members "cwd") = ofDirectory members := by
    have contains : Assoc.contains (Assoc.erase members "cwd") "dot" = Assoc.contains members "dot" := by
      unfold Assoc.contains
      rw [Assoc.lookup_erase_of_ne (by decide)]
    funext directory
    rw [ofDirectory_eq, ofDirectory_eq, contains]
    simp only [ofFields, GlobOptions.checkedFields_erase]
  rcases exists_callerDirectory caller host with ⟨default, found⟩
  rw [newGlob_mapping found, newGlob_mapping found, globDirectory_of_blank blank,
    globDirectory_of_blank (by simp [none]), fields]

/--
A handler for patterns that is made from a mapping, whatever its members are:

* If the member for the directory is missing, null or text, and the settings can be read, the mapping is
  checked as a whole. The handler has the directory of its own text, or that of the settings or else of the
  caller, made absolute, and it holds what the other members stand for; or these do not fit, and the issues
  that are thrown each lie within one of them. If the settings cannot be read, this is so unless the factory
  throws what reading them throws.
* A member of another type is not checked. If it counts as none, the handler is made as if it were missing.
  If not, it is refused as no path, whatever the other members are, and not as an issue of the options.
-/
theorem mapping_checked_as_a_whole
    (members : List (String × Json))
    (caller : String)
    (host : Host) :
    ∃ default, callerDirectory caller host = .ok default host ∧
      (MayBeDirectory (members.lookup "cwd") →
        match Hosted.settings host with
        | .ok settings _ =>
          let directory :=
            Path.absoluteText host.cwdText
              (directoryAsked (settings.baseDir.getD default) (members.lookup "cwd"))
          Path.isAbsolute directory.toList = true ∧
            ChecksTo settings.globDot members directory (newGlob (.mapping members) caller host)
        | .error thrown after =>
          newGlob (.mapping members) caller host = .error thrown after ∨
            ∀ dot,
              ChecksTo dot members
                (Path.absoluteText host.cwdText (directoryAsked default (members.lookup "cwd")))
                (newGlob (.mapping members) caller host)) ∧
      ∀ value, members.lookup "cwd" = some value → ¬MayBeDirectory (some value) →
        newGlob (.mapping members) caller host =
          if isBlankValue value then newGlob (.mapping (Assoc.erase members "cwd")) caller host
          else .error (.notPathLike (Value.ofJson value).typeName) host := by
  rcases exists_callerDirectory caller host with ⟨default, found⟩
  refine ⟨default, found, ?_, ?_⟩
  · intro fits
    cases asked : Hosted.settings host with
    | ok settings known =>
        exact ⟨Path.isAbsolute_absoluteText host.isAbsolute_cwdText _, newGlob_checksTo fits found asked⟩
    | error thrown after => exact newGlob_unread fits found asked
  · intro value own wrong
    cases blank : isBlankValue value with
    | true =>
        rw [if_pos rfl]
        apply newGlob_erase
        intro other same
        rw [Option.some.inj (own.symm.trans same)] at blank
        exact blank
    | false =>
        rw [if_neg Bool.false_ne_true, newGlob_mapping found, globDirectory_of_refused own wrong blank]
        rfl

/-- A mapping with a relative directory and all kinds of members. -/
def fullMapping : List (String × Json) :=
  [("dot", .str "yes"), ("cwd", .str "sub"), ("ignore", .array [.str "*.md"])]

/-- The mapping is checked to a handler below the working directory, and an empty list for a directory is
as good as none. -/
theorem mapping_checked_as_a_whole_twinHost :
    MayBeDirectory (fullMapping.lookup "cwd") ∧
      ChecksTo false fullMapping "/w/sub" (newGlob (.mapping fullMapping) "" (twinHost ["w"])) ∧
      ¬MayBeDirectory (some (.array [])) ∧
      newGlob (.mapping [("cwd", .array [])]) "" (twinHost ["w"]) =
        newGlob (.mapping []) "" (twinHost ["w"]) := by
  have fits : MayBeDirectory (fullMapping.lookup "cwd") := trivial
  have wrong : ¬MayBeDirectory (some (.array [])) := id
  have own (default : String) : directoryAsked default (fullMapping.lookup "cwd") = "sub" := by
    show (if "sub" = "" then default else "sub") = "sub"
    exact if_neg (by decide)
  have below : Path.absoluteText (twinHost ["w"]).cwdText "sub" = "/w/sub" := by decide
  rcases mapping_checked_as_a_whole fullMapping "" (twinHost ["w"]) with ⟨_, -, checks, -⟩
  rcases mapping_checked_as_a_whole [("cwd", .array [])] "" (twinHost ["w"]) with ⟨_, -, -, passedOver⟩
  have checked := (checks fits).2
  rw [own, below] at checked
  exact ⟨fits, checked, wrong, passedOver (.array []) rfl wrong⟩

/-- A number for a directory is refused as no path, and a truth value is passed over: neither is an issue of
the options. -/
theorem wrong_directory_unchecked :
    newGlob (.mapping [("cwd", .int 5)]) "" (twinHost ["w"]) =
        .error (.notPathLike "int") (twinHost ["w"]) ∧
      (Thrown.notPathLike "int").className = "TypeError" ∧
      newGlob (.mapping [("cwd", .bool false)]) "" (twinHost ["w"]) =
        .ok (.glob (optionsIn "/w")) (twinHost ["w"]) :=
  ⟨rfl, rfl, rfl⟩

end Handler

end ConfigTokens
