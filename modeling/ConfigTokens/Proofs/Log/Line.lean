import ConfigTokens.Log.Line
import ConfigTokens.Proofs.Json.RoundTrip
/-!
# A record on one line

What is logged becomes one line, and the line is read as an object with the fields of the record and no others,
whatever texts the record holds. So no text can begin a second line, or pass for another field. There is no line
if a field hides the method for the message, or if a field is an integer with too many digits to be written.
-/

namespace ConfigTokens.Log

/-- What the line of an entry shows under a name. -/
inductive Entry.Shows
    (entry : Entry)
    (moment : String)
    (report : Option String) : String → Json → Prop where
  | timestamp :
      Shows entry moment report "timestamp" (.str moment)
  | level :
      Shows entry moment report "level" (.str entry.level)
  | logger :
      Shows entry moment report "logger" (.str entry.logger)
  | message {text : String} :
      Percent.render entry.message entry.arguments = .ok text →
        Shows entry moment report "message" (.str text)
  /-- An extra field that is set, be it to something that counts as false. -/
  | extra {name : String} {value : Json} :
      name ∈ shownFields → entry.extra.lookup name = some value → value ≠ .null →
        Shows entry moment report name value
  | exception {text : String} :
      report = some text → Shows entry moment report "exception" (.str text)

/-- A value without parts that is no floating point number. -/
def IsScalar : Json → Prop
  | .null | .bool _ | .int _ | .str _ => True
  | _ => False

/-! ## Extra fields -/

theorem mem_of_lookup
    {extra : List (String × Json)}
    {name : String}
    {value : Json}
    (known : extra.lookup name = some value) :
    (name, value) ∈ extra := by
  obtain ⟨before, after, rfl, -⟩ := List.lookup_eq_some_iff.mp known
  simp

theorem shownField?_eq_some_iff
    {extra : List (String × Json)}
    {field name : String}
    {value : Json} :
    shownField? extra field = some (name, value) ↔
      name = field ∧ extra.lookup field = some value ∧ value ≠ .null := by
  unfold shownField?
  split
  · next unset => simp [unset]
  · next null =>
      rw [null]
      constructor
      · intro shown
        cases shown
      · rintro ⟨-, same, other⟩
        exact absurd (Option.some.inj same).symm other
  · next known other found =>
      rw [found]
      constructor
      · intro shown
        cases shown
        refine ⟨rfl, rfl, ?_⟩
        rintro rfl
        exact other rfl
      · rintro ⟨rfl, same, -⟩
        cases same
        rfl

/-- The names of the fields that are shown are among those that may be, in their order. -/
theorem names_shown_sublist
    (extra : List (String × Json))
    (fields : List String) :
    ((fields.filterMap (shownField? extra)).map (·.1)).Sublist fields := by
  induction fields with
  | nil => exact List.Sublist.slnil
  | cons field more ih =>
      cases shown : shownField? extra field with
      | none =>
          rw [List.filterMap_cons_none shown]
          exact ih.cons field
      | some entry =>
          obtain ⟨name, value⟩ := entry
          obtain ⟨rfl, -⟩ := shownField?_eq_some_iff.mp shown
          rw [List.filterMap_cons_some shown]
          exact ih.cons_cons name

/-! ## The object of an entry -/

/-- No name stands twice in the object of an entry. -/
theorem Entry.nodup_members
    (entry : Entry)
    (moment text : String)
    (report : Option String) :
    ((entry.members moment text report).map (·.1)).Nodup := by
  let reported := (report.map fun text => ("exception", Json.str text)).toList
  let shown := shownFields.filterMap (shownField? entry.extra)
  have distinct :
      (["timestamp", "level", "logger", "message"] ++ (shownFields ++ ["exception"])).Nodup := by
    decide
  have last : (reported.map (·.1)).Sublist ["exception"] := by
    cases report with
    | none => exact List.nil_sublist _
    | some text => exact List.Sublist.refl _
  have names :
      (entry.members moment text report).map (·.1) =
        ["timestamp", "level", "logger", "message"] ++ (shown.map (·.1) ++ reported.map (·.1)) := by
    simp [members, fields, shown, reported]
  rw [names]
  exact distinct.sublist <|
    (List.Sublist.refl _).append ((names_shown_sublist entry.extra shownFields).append last)

variable
    {entry : Entry}
    {text moment : String}
    {report : Option String}

/-- The object holds what the entry shows, and nothing else. -/
theorem Entry.mem_members_iff
    (rendered : Percent.render entry.message entry.arguments = .ok text)
    {name : String}
    {value : Json} :
    (name, value) ∈ entry.members moment text report ↔ entry.Shows moment report name value := by
  unfold members fields
  simp only [List.cons_append, List.nil_append, List.mem_cons, List.mem_append, List.mem_filterMap,
    Prod.mk.injEq]
  constructor
  · rintro (⟨rfl, rfl⟩ | ⟨rfl, rfl⟩ | ⟨rfl, rfl⟩ | ⟨rfl, rfl⟩ | ⟨field, among, shown⟩ | last)
    · exact .timestamp
    · exact .level
    · exact .logger
    · exact .message rendered
    · obtain ⟨rfl, known, set⟩ := shownField?_eq_some_iff.mp shown
      exact .extra among known set
    · cases report with
      | none => cases last
      | some text =>
          cases List.mem_singleton.mp last
          exact .exception rfl
  · intro shows
    cases shows with
    | timestamp => exact .inl ⟨rfl, rfl⟩
    | level => exact .inr (.inl ⟨rfl, rfl⟩)
    | logger => exact .inr (.inr (.inl ⟨rfl, rfl⟩))
    | message other =>
        cases other.symm.trans rendered
        exact .inr (.inr (.inr (.inl ⟨rfl, rfl⟩)))
    | extra among known set =>
        have shown := shownField?_eq_some_iff.mpr ⟨rfl, known, set⟩
        exact .inr (.inr (.inr (.inr (.inl ⟨name, among, shown⟩))))
    | exception reported =>
        subst reported
        exact .inr (.inr (.inr (.inr (.inr (List.mem_singleton_self _)))))

/-- What an entry shows can be written, and read again, if its extra fields can. -/
theorem Entry.Shows.legible
    {name : String}
    {value : Json}
    (shows : entry.Shows moment report name value)
    (scalars : ∀ name value, entry.extra.lookup name = some value → IsScalar value)
    (within : value.isWithin Json.digitLimit = true)
    (depth : Nat) :
    Json.Legible Json.digitLimit depth value := by
  cases shows with
  | timestamp => exact .str _
  | level => exact .str _
  | logger => exact .str _
  | message _ => exact .str _
  | exception _ => exact .str _
  | extra among known _ =>
      have scalar := scalars name value known
      cases value with
      | null => exact .null
      | bool value => exact .bool value
      | int number =>
          rw [Json.isWithin] at within
          exact .int within
      | str text => exact .str text
      | float _ => exact scalar.elim
      | array _ => exact scalar.elim
      | object _ => exact scalar.elim

/-- The integers that an entry shows have no more digits than can be written. -/
def Entry.WithinLimit
    (entry : Entry) : Prop :=
  ∀ name ∈ shownFields, ∀ number, entry.extra.lookup name = some (.int number) →
    number.natAbs < 10 ^ Json.mostDigits

theorem isWithin_int_iff
    {number : Int} :
    (Json.int number).isWithin Json.digitLimit = true ↔ number.natAbs < 10 ^ Json.mostDigits := by
  have positive : 0 < Json.mostDigits := by decide
  rw [Json.isWithin, Json.digitLimit, Json.DigitLimit.allows, Option.all_some, decide_eq_true_iff,
    Json.digitCount, ← String.length_toList, Text.toList_natText]
  exact Nat.length_toDigits_le_iff (by decide) positive

/-- The object of an entry can be written if and only if its integers can. -/
theorem Entry.isWithin_members_iff
    (rendered : Percent.render entry.message entry.arguments = .ok text)
    (scalars : ∀ name value, entry.extra.lookup name = some value → IsScalar value) :
    (Json.object (entry.members moment text report)).isWithin Json.digitLimit = true ↔
      entry.WithinLimit := by
  rw [Json.isWithin, Json.membersAreWithin_iff]
  constructor
  · intro all name among number known
    have shown : entry.Shows moment report name (.int number) :=
      .extra among known (fun same => by cases same)
    exact isWithin_int_iff.mp (all (name, .int number) ((mem_members_iff rendered).mpr shown))
  · rintro within ⟨name, value⟩ member
    cases (mem_members_iff rendered).mp member with
    | extra among known _ =>
        have scalar := scalars name value known
        cases value with
        | int number => exact isWithin_int_iff.mpr (within name among number known)
        | float _ => exact scalar.elim
        | array _ => exact scalar.elim
        | object _ => exact scalar.elim
        | _ => rfl
    | _ => rfl

/-! ## The line of an entry -/

/-- An entry with a complete message has a line if no field hides the method for it and its object can be written. -/
theorem Entry.jsonLine_eq_ok_iff
    (rendered : Percent.render entry.message entry.arguments = .ok text)
    {line : String} :
    entry.jsonLine moment report = .ok line ↔
      entry.extra.lookup messageMethod = none ∧
        (Json.object (entry.members moment text report)).isWithin Json.digitLimit = true ∧
          line = (Json.object (entry.members moment text report)).line := by
  unfold jsonLine Entry.text
  cases hidden : entry.extra.lookup messageMethod with
  | some value => simp
  | none =>
      rw [rendered]
      simp only [Except.mapError, Json.line?]
      by_cases within : (Json.object (entry.members moment text report)).isWithin Json.digitLimit = true
      · rw [if_pos within]
        simp [within, eq_comm]
      · rw [if_neg within]
        simp [within]

theorem Entry.jsonLine_of_not_isWithin
    (complete : entry.text = .ok text)
    (overlong : ¬(Json.object (entry.members moment text report)).isWithin Json.digitLimit = true) :
    entry.jsonLine moment report = .error .tooManyDigits := by
  simp only [jsonLine, complete, Json.line?, if_neg overlong]

/--
An entry whose extra fields have no parts and are no floating point numbers is written on one line:

* The line has no line break, nor any other control character.
* It is read as an object with different names, which holds under each name what the entry shows there, and
  nothing else.
* There is such a line if and only if no extra field hides the method that completes the message, and the
  integers that are shown are within the limit on digits.
-/
theorem Entry.jsonLine_read
    (rendered : Percent.render entry.message entry.arguments = .ok text)
    (scalars : ∀ name value, entry.extra.lookup name = some value → IsScalar value)
    (moment : String)
    (report : Option String) :
    (∀ line, entry.jsonLine moment report = .ok line →
      (∀ c ∈ line.toList, 0x20 ≤ c.toNat) ∧
      ∃ members,
        (members.map (·.1)).Nodup ∧
        (∀ name value, (name, value) ∈ members ↔ entry.Shows moment report name value) ∧
        Json.read line = .ok (.object members)) ∧
    ((∃ line, entry.jsonLine moment report = .ok line) ↔
      entry.extra.lookup messageMethod = none ∧ entry.WithinLimit) := by
  constructor
  · intro line given
    obtain ⟨-, within, rfl⟩ := (jsonLine_eq_ok_iff rendered).mp given
    let members := entry.members moment text report
    have all := (Json.membersAreWithin_iff Json.digitLimit).mp (by rwa [Json.isWithin] at within)
    have legible : Json.Legible Json.digitLimit Json.nestingLimit (.object members) := by
      refine @Json.Legible.object _ 969 members (entry.nodup_members moment text report) ?_
      rintro ⟨name, value⟩ member
      exact ((mem_members_iff rendered).mp member).legible scalars (all _ member) _
    constructor
    · intro c member
      by_contra control
      rw [Json.line, String.toList_ofList] at member
      exact legible.not_mem_write (Nat.lt_of_not_le control) member
    · exact
        ⟨members, entry.nodup_members moment text report, fun _ _ => mem_members_iff rendered,
          Json.readWithin_line legible⟩
  · simp only [jsonLine_eq_ok_iff rendered, isWithin_members_iff rendered scalars]
    simp

/-- An entry with a field that hides the method for the message. -/
def hidingEntry : Entry :=
  ⟨"a", "INFO", "m", [], [(messageMethod, .str "x")]⟩

/-- An entry with an integer of one digit too many. -/
def overlongEntry : Entry :=
  ⟨"a", "INFO", "m", [], [("match_count", .int (.ofNat (10 ^ Json.mostDigits)))]⟩

/-- Both have a message that needs no argument and one field without parts, and neither has a line. -/
theorem Entry.jsonLine_of_hiding_or_overlong :
    (∀ entry ∈ [hidingEntry, overlongEntry],
      Percent.render entry.message entry.arguments = .ok "m" ∧
        ∀ name value, entry.extra.lookup name = some value → IsScalar value) ∧
    hidingEntry.jsonLine "now" none = .error (.notCallable "str") ∧
    overlongEntry.jsonLine "now" none = .error .tooManyDigits := by
  have rendered : ∀ entry ∈ [hidingEntry, overlongEntry],
      Percent.render entry.message entry.arguments = .ok "m" :=
    List.forall_mem_cons.mpr ⟨rfl, List.forall_mem_singleton.mpr rfl⟩
  have scalars : ∀ entry ∈ [hidingEntry, overlongEntry],
      ∀ name value, entry.extra.lookup name = some value → IsScalar value := by
    have all : ∀ entry ∈ [hidingEntry, overlongEntry], ∀ field ∈ entry.extra, IsScalar field.2 :=
      List.forall_mem_cons.mpr ⟨List.forall_mem_singleton.mpr trivial,
        List.forall_mem_singleton.mpr (List.forall_mem_singleton.mpr trivial)⟩
    exact fun entry among name value known => all entry among (name, value) (mem_of_lookup known)
  refine ⟨fun entry among => ⟨rendered entry among, scalars entry among⟩, rfl, ?_⟩
  have overlong : ¬overlongEntry.WithinLimit := by
    intro within
    exact Nat.lt_irrefl _ (within "match_count" (by decide) (.ofNat (10 ^ Json.mostDigits)) rfl)
  have refused : ¬(Json.object (overlongEntry.members "now" "m" none)).isWithin Json.digitLimit = true := by
    rw [isWithin_members_iff (rendered overlongEntry (by simp)) (scalars overlongEntry (by simp))]
    exact overlong
  exact jsonLine_of_not_isWithin rfl refused

/-- An entry whose texts look like other lines and other fields. -/
def forgingEntry : Entry where
  logger := "a\"b"
  level := "WARNING"
  message := "%s\n"
  arguments := [.str "\\"]
  extra := [("token", .str "\", \"level\": \"INFO"), ("handler", .null), ("match_count", .int 0)]

theorem isScalar_of_forgingEntry
    (name : String)
    (value : Json)
    (known : forgingEntry.extra.lookup name = some value) :
    IsScalar value := by
  have all : ∀ field ∈ forgingEntry.extra, IsScalar field.2 := by simp [forgingEntry, IsScalar]
  exact all (name, value) (mem_of_lookup known)

theorem withinLimit_forgingEntry : forgingEntry.WithinLimit := by
  intro name among number known
  have all : ∀ field ∈ forgingEntry.extra, ∀ number, field.2 = .int number → number = 0 := by
    simp [forgingEntry]
  rw [all (name, .int number) (mem_of_lookup known) number rfl]
  exact Nat.pow_pos (by decide)

/-- The texts are read as they are: a field that counts as false is there, and one without a value is not. -/
theorem Entry.jsonLine_read_forging :
    ∃ line members,
      forgingEntry.jsonLine "now" (some "E: \r\n\"\x7d") = .ok line ∧
        Json.read line = .ok (.object members) ∧
          ("message", .str "\\\n") ∈ members ∧
            ("token", .str "\", \"level\": \"INFO") ∈ members ∧
              ("match_count", .int 0) ∈ members ∧
                ("exception", .str "E: \r\n\"\x7d") ∈ members ∧
                  ∀ value, ("handler", value) ∉ members := by
  have rendered : Percent.render forgingEntry.message forgingEntry.arguments = .ok "\\\n" := rfl
  obtain ⟨reads, written⟩ :=
    Entry.jsonLine_read rendered isScalar_of_forgingEntry "now" (some "E: \r\n\"\x7d")
  obtain ⟨line, given⟩ := written.mpr ⟨rfl, withinLimit_forgingEntry⟩
  obtain ⟨-, members, -, shows, read⟩ := reads line given
  have token : ("token", .str "\", \"level\": \"INFO") ∈ members :=
    (shows _ _).mpr (.extra (by decide) rfl (fun same => by cases same))
  have count : ("match_count", .int 0) ∈ members :=
    (shows _ _).mpr (.extra (by decide) rfl (fun same => by cases same))
  refine
    ⟨line, members, given, read, (shows _ _).mpr (.message rendered), token, count,
      (shows _ _).mpr (.exception rfl), ?_⟩
  intro value member
  have shown := (shows _ _).mp member
  generalize named : "handler" = name at shown
  cases shown with
  | extra _ known set =>
      subst named
      cases known
      exact set rfl
  | _ => exact absurd named (by decide)

end ConfigTokens.Log
