import Mathlib.Data.List.Basic
import Mathlib.Data.List.Find
import ConfigTokens.Host
import ConfigTokens.Proofs.Failure.DeepData
/-!
# Variables that are taken out of the environment

What the settings read from a file of assignments depends on the environment only through the variables that the
values of the file refer to. So a variable that none of them refers to can be taken out of the environment, and then
the file alone gives its field a value. A blank variable of the environment is no such variable: it gives its field
no value, and hides the one of the file.
-/

namespace ConfigTokens

namespace Assignments

/-! ## References -/

/-- The names that a value refers to, in the order in which they are replaced. -/
def references : Nat → List Char → List String
  | 0, _ => []
  | _ + 1, [] => []
  | fuel + 1, c :: rest =>
    match c, rest with
    | '$', '\x7b' :: after =>
      match cutReference after with
      | some (name, _, more) => String.ofList name :: references fuel more
      | none => references fuel rest
    | _, _ => references fuel rest

/-- A value is the same for two environments that agree on the names that it refers to. -/
theorem substitute_congr
    {lookup other : String → Option String}
    (fuel : Nat)
    (text : List Char)
    (agree : ∀ name ∈ references fuel text, lookup name = other name) :
    substitute lookup fuel text = substitute other fuel text := by
  fun_induction references fuel text with
  | case1 text => rfl
  | case2 fuel => rfl
  | case3 fuel after name default more cut ih =>
      have rest := ih fun known member => agree known (List.mem_cons_of_mem _ member)
      simp only [substitute, cut, agree _ List.mem_cons_self, rest]
  | case4 fuel after cut ih =>
      simp only [substitute, cut, ih agree]
  | case5 fuel c rest apart ih =>
      rw [substitute.eq_4 _ _ _ _ apart, substitute.eq_4 _ _ _ _ apart, ih agree]

/-- The names that the values in a text refer to. -/
def mentioned
    (text : String) : List String :=
  (assignments text.length text.toList).flatMap fun found =>
    (found.value.map fun value => references value.length value.toList).getD []

/-- One more assignment of a text that has been read so far. -/
def readNext
    (environment : List (String × String))
    (known : List (String × Option String))
    (found : Assignment) : List (String × Option String) :=
  let lookup (name : String) : Option String :=
    match known.lookup name with
    | some value => some (value.getD "")
    | none => environment.lookup name
  let value := found.value.map fun value =>
    String.ofList (substitute lookup value.length value.toList)
  Assoc.put known found.name value

theorem read_eq_foldl
    (environment : List (String × String))
    (text : String) :
    read environment text = (assignments text.length text.toList).foldl (readNext environment) [] :=
  rfl

theorem readNext_congr
    {environment other : List (String × String)}
    (known : List (String × Option String))
    {found : Assignment}
    (agree :
      ∀ name ∈ (found.value.map fun value => references value.length value.toList).getD [],
        environment.lookup name = other.lookup name) :
    readNext environment known found = readNext other known found := by
  cases shape : found.value with
  | none => simp only [readNext, shape, Option.map_none]
  | some value =>
      simp only [shape, Option.map_some, Option.getD_some] at agree
      simp only [readNext, shape, Option.map_some]
      congr 3
      apply substitute_congr
      intro name member
      rw [agree name member]

/-- What is read from a text is the same for environments that agree on the names that its values refer to. -/
theorem read_congr
    {environment other : List (String × String)}
    {text : String}
    (agree : ∀ name ∈ mentioned text, environment.lookup name = other.lookup name) :
    read environment text = read other text := by
  rw [read_eq_foldl, read_eq_foldl]
  apply List.foldl_ext
  intro known found member
  apply readNext_congr
  intro name refers
  exact agree name (List.mem_flatMap.mpr ⟨found, member, refers⟩)

end Assignments

namespace Settings

/-! ## Variables of a field -/

/-- A name stands for a field, in any letter case. -/
def isFor
    (field name : String) : Bool :=
  foldName name == namePrefix ++ field

/-- The variables that do not stand for a field. -/
def unset
    (environment : List (String × String))
    (field : String) : List (String × String) :=
  environment.filter fun entry => !isFor field entry.1

/-- The value that the environment gives to a field. -/
def given?
    (environment : List (String × String))
    (field : String) : Option String :=
  find? (environment.map fun entry => (entry.1, some entry.2)) field

theorem lookup_unset
    {environment : List (String × String)}
    {field name : String}
    (apart : isFor field name = false) :
    (unset environment field).lookup name = environment.lookup name := by
  induction environment with
  | nil => rfl
  | cons entry rest ih =>
      rcases entry with ⟨other, value⟩
      rw [unset] at ih
      cases kept : isFor field other with
      | false => simp only [unset, List.filter_cons, kept, Bool.not_false, if_true, List.lookup_cons, ih]
      | true =>
          have different : (name == other) = false := by
            apply beq_false_of_ne
            rintro rfl
            exact Bool.noConfusion (apart.symm.trans kept)
          simp only [unset, List.filter_cons, kept, Bool.not_true, Bool.false_eq_true, if_false,
            List.lookup_cons, different, ih]

theorem find?_eq
    (assigned : List (String × Option String))
    (field : String) :
    find? assigned field = (assigned.reverse.find? fun entry => isFor field entry.1).bind (·.2) := by
  unfold find? isFor
  cases assigned.reverse.find? fun entry => foldName entry.1 == namePrefix ++ field with
  | none => rfl
  | some entry => rfl

theorem given?_eq
    (environment : List (String × String))
    (field : String) :
    given? environment field = (environment.reverse.find? fun entry => isFor field entry.1).map (·.2) := by
  rw [given?, find?_eq, ← List.map_reverse, List.find?_map, Option.bind_map, Option.map_eq_bind]
  rfl

theorem given?_unset
    (environment : List (String × String))
    (field other : String) :
    given? (unset environment field) other =
      (environment.reverse.find? fun entry => !isFor field entry.1 && isFor other entry.1).map (·.2) := by
  rw [given?_eq, unset, ← List.filter_reverse, List.find?_filter]
  simp only [← Bool.and_eq_true, Bool.decide_eq_true]

theorem given?_unset_self
    (environment : List (String × String))
    (field : String) :
    given? (unset environment field) field = none := by
  rw [given?_unset, Option.map_eq_none_iff, List.find?_eq_none]
  intro entry member
  simp

theorem given?_unset_of_ne
    (environment : List (String × String))
    {field other : String}
    (different : other ≠ field) :
    given? (unset environment field) other = given? environment other := by
  rw [given?_unset, given?_eq]
  apply congrArg (Option.map _)
  apply List.find?_congr
  intro entry member
  cases stands : isFor other entry.1 with
  | false => exact Bool.and_false _
  | true =>
      have apart : isFor field entry.1 = false := by
        by_contra both
        have same : namePrefix ++ other = namePrefix ++ field :=
          (eq_of_beq stands).symm.trans (eq_of_beq (eq_true_of_ne_false both))
        exact different (by simpa using same)
      rw [apart]
      rfl

theorem lookup_eq
    (environment : List (String × String))
    (file : List (String × Option String))
    (field : String) :
    lookup environment file field = (given? environment field).or (find? file field) :=
  rfl

/-! ## Fields whose blank values count as none -/

/-- A field of the settings for which a blank value counts as none. -/
inductive BlankField where
  | baseDir
  | fileEncoding

namespace BlankField

/-- The name of the field. -/
def name : BlankField → String
  | .baseDir => "base_dir"
  | .fileEncoding => "file_encoding"

/-- The value of the field. -/
def value
    (settings : Settings) : BlankField → Option String
  | .baseDir => settings.baseDir
  | .fileEncoding => settings.fileEncoding

/-- The settings without a value for the field. -/
def without
    (settings : Settings) : BlankField → Settings
  | .baseDir => { settings with baseDir := none }
  | .fileEncoding => { settings with fileEncoding := none }

theorem without_eq_self_iff
    (field : BlankField)
    (settings : Settings) :
    field.without settings = settings ↔ field.value settings = none := by
  cases field with
  | baseDir =>
      constructor
      · intro same
        rw [← same]
        rfl
      · intro absent
        rw [without, ← show settings.baseDir = none from absent]
  | fileEncoding =>
      constructor
      · intro same
        rw [← same]
        rfl
      · intro absent
        rw [without, ← show settings.fileEncoding = none from absent]

end BlankField

section

variable {environment : List (String × String)}
variable {file : List (String × Option String)}

/-- Whether hidden names match by default. -/
def readDot
    (environment : List (String × String))
    (file : List (String × Option String)) : Checked Bool :=
  match lookup environment file "glob_dot" with
  | none => .ok false
  | some word =>
    match truthWord? word with
    | some globDot => .ok globDot
    | none => .error [⟨["glob_dot"], .boolParsing⟩]

/-- The settings with the values that the sources give to all other fields. -/
def filled
    (environment : List (String × String))
    (file : List (String × Option String))
    (globDot : Bool) : Settings where
  baseDir := blankIsUnset (lookup environment file "base_dir")
  fileEncoding := blankIsUnset (lookup environment file "file_encoding")
  globDot := globDot
  logLevel := (lookup environment file "log_level").getD "INFO"
  logFormat := (lookup environment file "log_format").getD "json"

theorem read_eq
    (environment : List (String × String))
    (file : List (String × Option String)) :
    read environment file = (readDot environment file).map (filled environment file) := by
  rw [read, readDot]
  dsimp only
  cases lookup environment file "glob_dot" with
  | none => rfl
  | some word =>
      dsimp only
      cases truthWord? word with
      | none => rfl
      | some globDot => rfl

theorem value_filled
    (environment : List (String × String))
    (file : List (String × Option String))
    (globDot : Bool)
    (field : BlankField) :
    field.value (filled environment file globDot) = blankIsUnset (lookup environment file field.name) := by
  cases field with
  | baseDir => rfl
  | fileEncoding => rfl

variable {field : BlankField}

theorem lookup_of_blank
    {value : String}
    (given : given? environment field.name = some value)
    (blank : Text.isBlankText value = true) :
    blankIsUnset (lookup environment file field.name) = none := by
  rw [lookup_eq, given]
  show (some value).filter _ = none
  simp [blank]

theorem lookup_unset_of_ne
    {other : String}
    (different : other ≠ field.name) :
    lookup (unset environment field.name) file other = lookup environment file other := by
  rw [lookup_eq, lookup_eq, given?_unset_of_ne environment different]

theorem readDot_unset :
    readDot (unset environment field.name) file = readDot environment file := by
  have apart : "glob_dot" ≠ field.name := by cases field <;> decide
  rw [readDot, readDot, lookup_unset_of_ne apart]

theorem filled_of_blank
    {value : String}
    (given : given? environment field.name = some value)
    (blank : Text.isBlankText value = true)
    (globDot : Bool) :
    filled environment file globDot = field.without (filled (unset environment field.name) file globDot) := by
  have own : blankIsUnset (lookup environment file field.name) = none := lookup_of_blank given blank
  have others (other : String) (different : other ≠ field.name) :
      lookup (unset environment field.name) file other = lookup environment file other :=
    lookup_unset_of_ne different
  cases field with
  | baseDir =>
      have absent : blankIsUnset (lookup environment file "base_dir") = none := own
      rw [BlankField.without, filled, filled, absent, others "file_encoding" (by decide),
        others "log_level" (by decide), others "log_format" (by decide)]
  | fileEncoding =>
      have absent : blankIsUnset (lookup environment file "file_encoding") = none := own
      rw [BlankField.without, filled, filled, absent, others "base_dir" (by decide),
        others "log_level" (by decide), others "log_format" (by decide)]

/-- What is read when the environment gives a field a blank value. -/
theorem read_of_blank
    {value : String}
    (given : given? environment field.name = some value)
    (blank : Text.isBlankText value = true) :
    read environment file = (read (unset environment field.name) file).map field.without := by
  rw [read_eq, read_eq, readDot_unset]
  cases readDot environment file with
  | error issues => rfl
  | ok globDot => exact congrArg Except.ok (filled_of_blank given blank globDot)

/-- A field that the environment gives no value has that of the file. -/
theorem value_of_read
    {settings : Settings}
    (absent : given? environment field.name = none)
    (known : read environment file = .ok settings) :
    field.value settings = blankIsUnset (find? file field.name) := by
  rw [read_eq] at known
  cases dot : readDot environment file with
  | error issues =>
      rw [dot] at known
      cases known
  | ok globDot =>
      rw [dot] at known
      cases known
      rw [value_filled, lookup_eq, absent, Option.none_or]

end

end Settings

namespace Host

/-! ## Hosts without a variable -/

/-- The host without the variables of its environment that stand for a field of the settings. -/
def unset
    (host : Host)
    (field : String) : Host :=
  { host with environment := Settings.unset host.environment field }

/-- What the file of assignments assigns. -/
def assigned
    (host : Host) : Except Thrown (List (String × Option String)) :=
  host.assignmentsText.map fun text =>
    Assignments.read host.environment (String.ofList (Text.unifyLineEnds text.toList))

theorem readSettings_eq
    (host : Host) :
    host.readSettings =
      host.assigned.bind fun file =>
        (Settings.read host.environment file).mapError (Thrown.invalid "Settings") := by
  rw [readSettings, assigned]
  cases host.assignmentsText with
  | error thrown => rfl
  | ok text =>
      simp only [Except.map, Except.bind]
      rfl

/-- No value of the file of assignments refers to a variable that stands for a field. -/
def RefersToNone
    (host : Host)
    (field : String) : Prop :=
  ∀ text, host.assignmentsText = .ok text →
    ∀ name ∈ Assignments.mentioned (String.ofList (Text.unifyLineEnds text.toList)),
      Settings.isFor field name = false

theorem assignmentsText_unset
    (host : Host)
    (field : String) :
    (host.unset field).assignmentsText = host.assignmentsText :=
  rfl

theorem assigned_unset
    {host : Host}
    {field : String}
    (apart : host.RefersToNone field) :
    (host.unset field).assigned = host.assigned := by
  rw [assigned, assigned, assignmentsText_unset]
  cases known : host.assignmentsText with
  | error thrown => simp only [Except.map]
  | ok text =>
      apply congrArg Except.ok
      apply Assignments.read_congr
      intro name mentioned
      exact Settings.lookup_unset (apart text known name mentioned)

/-- Without a variable of its own, a field has the value of the file of assignments. -/
theorem value_of_readSettings
    {host : Host}
    {field : Settings.BlankField}
    {settings : Settings}
    {file : List (String × Option String)}
    (known : (host.unset field.name).readSettings = .ok settings)
    (assigned : (host.unset field.name).assigned = .ok file) :
    field.value settings = Settings.blankIsUnset (Settings.find? file field.name) := by
  rw [readSettings_eq, assigned, Except.bind] at known
  cases read : Settings.read (host.unset field.name).environment file with
  | error issues =>
      rw [read] at known
      cases known
  | ok found =>
      rw [read] at known
      cases known
      exact Settings.value_of_read (Settings.given?_unset_self host.environment field.name) read

/-- A blank variable leaves its field without a value, whatever the file of assignments gives it. -/
theorem readSettings_of_blank
    {host : Host}
    {field : Settings.BlankField}
    {value : String}
    (given : Settings.given? host.environment field.name = some value)
    (blank : Text.isBlankText value = true)
    (apart : host.RefersToNone field.name) :
    host.readSettings = (host.unset field.name).readSettings.map field.without := by
  rw [readSettings_eq, readSettings_eq, assigned_unset apart]
  cases host.assigned with
  | error thrown => rfl
  | ok file =>
      show (Settings.read host.environment file).mapError _ =
        ((Settings.read (Settings.unset host.environment field.name) file).mapError _).map _
      rw [Settings.read_of_blank given blank]
      cases Settings.read (Settings.unset host.environment field.name) file with
      | error issues => rfl
      | ok settings => rfl

/--
Settings that are read where the environment gives a field a blank value, and no value of the file of assignments
refers to a variable of that field:

* They are those that are read without the variable, but for the field, which has no value.
* So they are the same exactly if the field has no value without the variable either.
* Without the variable the field has the value of the file of assignments, unless that is blank.
-/
theorem blank_variable_unset_iff
    {host : Host}
    {field : Settings.BlankField}
    {value : String}
    (given : Settings.given? host.environment field.name = some value)
    (blank : Text.isBlankText value = true)
    (apart : host.RefersToNone field.name) :
    host.readSettings = (host.unset field.name).readSettings.map field.without ∧
      (host.readSettings = (host.unset field.name).readSettings ↔
        ∀ settings, (host.unset field.name).readSettings = .ok settings → field.value settings = none) ∧
      ∀ settings file,
        (host.unset field.name).readSettings = .ok settings → host.assigned = .ok file →
          field.value settings = Settings.blankIsUnset (Settings.find? file field.name) := by
  have cleared := readSettings_of_blank given blank apart
  refine ⟨cleared, ?_, ?_⟩
  · cases known : (host.unset field.name).readSettings with
    | error thrown =>
        rw [known] at cleared
        exact iff_of_true cleared nofun
    | ok settings =>
        rw [known] at cleared
        rw [cleared]
        constructor
        · rintro same _ ⟨⟩
          exact (field.without_eq_self_iff settings).mp (Except.ok.inj same)
        · intro absent
          exact congrArg Except.ok ((field.without_eq_self_iff settings).mpr (absent settings rfl))
  · intro settings file known assigned
    rw [← assigned_unset apart] at assigned
    exact value_of_readSettings known assigned

/-- A host with a blank variable and a file of assignments, whose characters are bytes. -/
def blankHost
    (content : String) : Host :=
  ⟨⟨[([".env"], .file (.bytes (content.toList.map fun c => UInt8.ofNat c.toNat)))]⟩, [],
    [("SHORTSTOP_BASE_DIR", " ")], "", .usual, .blank, none, .empty⟩

theorem assignmentsText_blankHost
    {content : String}
    (ascii : content.toList.all (·.toNat < 0x80) = true) :
    (blankHost content).assignmentsText = .ok content := by
  have found :
      (blankHost content).tree.find true (blankHost content).cwd assignmentsFile =
        .ok ([".env"], .file (.bytes (content.toList.map fun c => UInt8.ofNat c.toNat))) := by
    change (blankHost content).tree.walk true 40 [] [".env"] = _
    simp +decide [FileTree.walk, FileTree.entry?, blankHost]
  have code {c : Char} (member : c ∈ content.toList) : (UInt8.ofNat c.toNat).toNat = c.toNat := by
    have small := of_decide_eq_true (List.all_eq_true.mp ascii c member)
    exact Nat.mod_eq_of_lt (Nat.lt_trans small (by decide))
  have bytes : ∀ byte ∈ content.toList.map fun c => UInt8.ofNat c.toNat, byte < 0x80 := by
    intro byte member
    rcases List.mem_map.mp member with ⟨c, among, rfl⟩
    apply UInt8.lt_iff_toNat_lt.mpr
    rw [code among]
    exact of_decide_eq_true (List.all_eq_true.mp ascii c among)
  have chars :
      (content.toList.map fun c => UInt8.ofNat c.toNat).map (fun byte => Char.ofNat byte.toNat) =
        content.toList := by
    rw [List.map_map]
    conv_rhs => rw [← List.map_id content.toList]
    apply List.map_congr_left
    intro c member
    show Char.ofNat (UInt8.ofNat c.toNat).toNat = c
    rw [code member, Char.ofNat_toNat]
  rw [assignmentsText, FileTree.read, found]
  dsimp only
  rw [Codec.decode_of_ascii bytes, chars, String.ofList_toList]
  rfl

/-- A blank variable is as good as none where the file gives its field no value. -/
theorem blank_variable_unset_blankHost :
    Settings.given? (blankHost "SHORTSTOP_LOG_LEVEL=DEBUG").environment "base_dir" = some " " ∧
      Text.isBlankText " " = true ∧
      (blankHost "SHORTSTOP_LOG_LEVEL=DEBUG").RefersToNone "base_dir" ∧
      (blankHost "SHORTSTOP_LOG_LEVEL=DEBUG").readSettings =
        ((blankHost "SHORTSTOP_LOG_LEVEL=DEBUG").unset "base_dir").readSettings := by
  have given : Settings.given? (blankHost "SHORTSTOP_LOG_LEVEL=DEBUG").environment "base_dir" = some " " := by
    decide
  have blank : Text.isBlankText " " = true := by decide
  have text : (blankHost "SHORTSTOP_LOG_LEVEL=DEBUG").assignmentsText = .ok "SHORTSTOP_LOG_LEVEL=DEBUG" :=
    assignmentsText_blankHost (by decide)
  have apart : (blankHost "SHORTSTOP_LOG_LEVEL=DEBUG").RefersToNone "base_dir" := by
    intro known same name member
    cases text.symm.trans same
    have unified :
        String.ofList (Text.unifyLineEnds "SHORTSTOP_LOG_LEVEL=DEBUG".toList) = "SHORTSTOP_LOG_LEVEL=DEBUG" := by
      decide
    have mentions : Assignments.mentioned "SHORTSTOP_LOG_LEVEL=DEBUG" = [] := by decide
    rw [unified, mentions] at member
    cases member
  have found :
      (blankHost "SHORTSTOP_LOG_LEVEL=DEBUG").assigned = .ok [("SHORTSTOP_LOG_LEVEL", some "DEBUG")] := by
    rw [assigned, text]
    rfl
  have unset := @blank_variable_unset_iff _ .baseDir _ given blank apart
  refine ⟨given, blank, apart, unset.2.1.mpr ?_⟩
  intro settings known
  rw [unset.2.2 settings _ known found]
  decide

/-- A blank variable hides the value of the file. -/
theorem blank_variable_hides_file :
    Settings.given? (blankHost "SHORTSTOP_BASE_DIR=/data").environment "base_dir" = some " " ∧
      Text.isBlankText " " = true ∧
      (blankHost "SHORTSTOP_BASE_DIR=/data").readSettings = .ok ⟨none, none, false, "INFO", "json"⟩ ∧
      ((blankHost "SHORTSTOP_BASE_DIR=/data").unset "base_dir").readSettings =
        .ok ⟨some "/data", none, false, "INFO", "json"⟩ := by
  have text : (blankHost "SHORTSTOP_BASE_DIR=/data").assignmentsText = .ok "SHORTSTOP_BASE_DIR=/data" :=
    assignmentsText_blankHost (by decide)
  have found : (blankHost "SHORTSTOP_BASE_DIR=/data").assigned = .ok [("SHORTSTOP_BASE_DIR", some "/data")] := by
    rw [assigned, text]
    rfl
  have without :
      ((blankHost "SHORTSTOP_BASE_DIR=/data").unset "base_dir").assigned =
        .ok [("SHORTSTOP_BASE_DIR", some "/data")] := by
    rw [assigned, assignmentsText_unset, text]
    rfl
  refine ⟨by decide, by decide, ?_, ?_⟩
  · rw [readSettings_eq, found]
    rfl
  · rw [readSettings_eq, without]
    rfl

end Host

end ConfigTokens
