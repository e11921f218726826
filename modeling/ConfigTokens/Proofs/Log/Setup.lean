import ConfigTokens.Log.Setup
/-!
# What setting up logging leaves

A set-up first adds its handler to the root logger and then sets the level. Two words, in upper case, name
something that is no level: with one of them the set-up throws, and its handler stays. With any other word
it returns, and the level is the one that the word names, or the usual one if it names none.
-/

namespace ConfigTokens.Log

/-! ## Words for levels -/

/-- The words that name a level. -/
def levelWords : List (String × Level) :=
  [("CRITICAL", .critical), ("FATAL", .critical), ("ERROR", .error), ("WARNING", .warning),
    ("WARN", .warning), ("INFO", .info), ("DEBUG", .debug), ("NOTSET", 0)]

/-- The level that a word names; a word that names none stands for the usual level. -/
def levelNamed
    (word : String) : Level :=
  (levelWords.lookup word).getD .info

/-- The words that name something else than a level. -/
def otherWords : List String :=
  ["BASIC_FORMAT", "_STYLES"]

/-- What is thrown when such a word is taken for a level. -/
def levelFault
    (word : String) : Thrown :=
  if word = "BASIC_FORMAT" then .unknownLevel basicLayout else .unusableLevel layoutStyles

theorem levelMeaning_of_not_mem
    {word : String}
    (plain : word ∉ otherWords) :
    levelMeaning word = .level (levelNamed word) := by
  have apart : word ≠ "BASIC_FORMAT" ∧ word ≠ "_STYLES" := by simpa [otherWords] using plain
  unfold levelMeaning
  split
  case h_9 => exact absurd rfl apart.1
  case h_10 => exact absurd rfl apart.2
  case h_11 =>
      have unknown : levelWords.lookup word = none := by
        simp_all [levelWords, List.lookup_eq_none_iff]
      rw [levelNamed, unknown]
      rfl
  all_goals rfl

/-- A level is set to what its word names, unless the word names something else. -/
theorem setLevel_apply
    (word : String)
    (root : Root) :
    setLevel (levelMeaning word) root =
      if word ∈ otherWords then .error (levelFault word) root
      else .ok () { root with level := levelNamed word } := by
  split
  case isTrue other =>
      rcases List.mem_cons.mp other with rfl | other
      · rfl
      · rw [List.mem_singleton.mp other]
        rfl
  case isFalse plain =>
      rw [levelMeaning_of_not_mem plain]
      rfl

/-! ## Set-ups -/

/-- The word for the level of a set-up, in upper case. -/
def wordOf
    (settings : Settings)
    (level : Option String) : String :=
  Text.upper (orDefault level settings.logLevel)

/-- The format of the handler that a set-up adds. -/
def shapeOf
    (settings : Settings)
    (format : Option String) : Format :=
  formatOf (orDefault format settings.logFormat)

/-- A set-up adds its handler, and then sets the level or throws. -/
theorem setup_apply
    (settings : Settings)
    (level format : Option String)
    (root : Root) :
    setup settings level format root =
      if wordOf settings level ∈ otherWords then
        .error (levelFault (wordOf settings level))
          { root with handlers := root.handlers ++ [shapeOf settings format] }
      else
        .ok (shapeOf settings format)
          ⟨root.handlers ++ [shapeOf settings format], levelNamed (wordOf settings level)⟩ := by
  have applied :=
    setLevel_apply (wordOf settings level)
      { root with handlers := root.handlers ++ [shapeOf settings format] }
  show
    EStateM.bind (setLevel (levelMeaning (wordOf settings level))) _
      { root with handlers := root.handlers ++ [shapeOf settings format] } = _
  unfold EStateM.bind
  by_cases other : wordOf settings level ∈ otherWords
  · rw [applied, if_pos other, if_pos other]
  · rw [applied, if_neg other, if_neg other]
    rfl

/-- A set-up is all or nothing: it has added one handler, in its format, and set the level, or it has thrown
and left the root logger as it was. -/
def AllOrNothing
    (root : Root)
    (shape : Format)
    (level : Level) : EStateM.Result Thrown Root Format → Prop
  | .ok added after => added = shape ∧ after.handlers = root.handlers ++ [shape] ∧ after.level = level
  | .error _ after => after = root

/-- The root logger after a set-up, whether it has returned or thrown. -/
def rootAfter : EStateM.Result Thrown Root Format → Root
  | .ok _ root | .error _ root => root

theorem handlers_rootAfter
    (settings : Settings)
    (level format : Option String)
    (root : Root) :
    (rootAfter (setup settings level format root)).handlers =
      root.handlers ++ [shapeOf settings format] := by
  rw [setup_apply]
  split <;> rfl

/-- Of set-ups one after the other each leaves its handler. -/
theorem handlers_after_attempts
    (settings : Settings)
    (attempts : List (Option String × Option String))
    (root : Root) :
    (attempts.foldl (fun root attempt => rootAfter (setup settings attempt.1 attempt.2 root)) root).handlers =
      root.handlers ++ attempts.map fun attempt => shapeOf settings attempt.2 := by
  induction attempts generalizing root with
  | nil => simp
  | cons attempt rest ih =>
      rw [List.foldl_cons, ih, handlers_rootAfter, List.map_cons, List.append_assoc]
      rfl

/--
Setting up logging, for any settings, level and format, and whatever the root logger was:

* It is all or nothing exactly if the word for its level, in upper case, is none of the two that name
  something else than a level.
* Then it returns with one more handler, in its format, and with the level that the word names. With one of
  the two words it throws, the level is as it was, and the handler has been added all the same.
* So the root logger keeps a handler for each of a series of attempts, whether they have returned or thrown.
-/
theorem setup_all_or_nothing_iff
    (settings : Settings)
    (level format : Option String)
    (root : Root) :
    (AllOrNothing root (shapeOf settings format) (levelNamed (wordOf settings level))
        (setup settings level format root) ↔
      wordOf settings level ∉ otherWords) ∧
    (setup settings level format root =
      if wordOf settings level ∈ otherWords then
        .error (levelFault (wordOf settings level))
          ⟨root.handlers ++ [shapeOf settings format], root.level⟩
      else
        .ok (shapeOf settings format)
          ⟨root.handlers ++ [shapeOf settings format], levelNamed (wordOf settings level)⟩) ∧
    ∀ attempts : List (Option String × Option String),
      (attempts.foldl (fun root attempt => rootAfter (setup settings attempt.1 attempt.2 root))
          root).handlers =
        root.handlers ++ attempts.map fun attempt => shapeOf settings attempt.2 := by
  refine ⟨?_, setup_apply settings level format root, fun attempts =>
    handlers_after_attempts settings attempts root⟩
  rw [setup_apply]
  split
  case isTrue other =>
      refine iff_of_false ?_ (not_not_intro other)
      intro same
      have handlers : root.handlers ++ [shapeOf settings format] = root.handlers :=
        congrArg Root.handlers same
      simp at handlers
  case isFalse plain => exact iff_of_true ⟨rfl, rfl, rfl⟩ plain

/-- A set-up is not always all or nothing: a word for the layout of text leaves a handler behind. -/
theorem basicFormat_leaves_handler :
    ¬∀ (settings : Settings) (level format : Option String) (root : Root),
      AllOrNothing root (shapeOf settings format) (levelNamed (wordOf settings level))
        (setup settings level format root) := by
  intro claim
  have ended :
      setup ⟨none, none, false, "INFO", "json"⟩ (some "basic_format") none ⟨[], .warning⟩ =
        .error (.unknownLevel basicLayout) ⟨[.json], .warning⟩ := by
    rfl
  have kept := claim ⟨none, none, false, "INFO", "json"⟩ (some "basic_format") none ⟨[], .warning⟩
  rw [ended] at kept
  cases kept

end ConfigTokens.Log
