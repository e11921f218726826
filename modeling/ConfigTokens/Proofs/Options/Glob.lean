import ConfigTokens.Assoc
import ConfigTokens.Options.Glob
import Mathlib.Data.List.Infix
/-!
# What checked options hold

Members of a mapping are checked field by field, and all issues are reported together. Options come out
exactly if every member belongs to a field and fits it; then each field holds what its member stands for, or
its default. Otherwise there is at least one issue, and each lies within a member of the mapping.
-/

namespace ConfigTokens

/-! ## Checks that are made together -/

/-- An issue lies at a place, or below it. -/
def Issue.Within
    (place : List String)
    (issue : Issue) : Prop :=
  place <+: issue.place

namespace Checked

variable {α β : Type}

theorem both_eq_ok_iff
    {first : Checked α}
    {second : Checked β}
    {a : α}
    {b : β} :
    both first second = .ok (a, b) ↔ first = .ok a ∧ second = .ok b := by
  cases first <;> cases second <;> simp [both]

theorem guarded_eq_ok_iff
    {issues : List Issue}
    {checked : Checked α}
    {value : α} :
    guarded issues checked = .ok value ↔ issues = [] ∧ checked = .ok value := by
  cases issues with
  | nil => simp [guarded]
  | cons issue more => cases checked <;> simp [guarded]

theorem map_eq_ok_iff
    {checked : Checked α}
    {wrap : α → β}
    {value : β} :
    checked.map wrap = .ok value ↔ ∃ given, checked = .ok given ∧ wrap given = value := by
  cases checked <;> simp [Except.map]

/-- A check that fails reports something, and all that it reports is of a kind. -/
def Reports
    (kind : Issue → Prop)
    (checked : Checked α) : Prop :=
  ∀ issues, checked = .error issues → issues ≠ [] ∧ ∀ issue ∈ issues, kind issue

namespace Reports

variable {kind : Issue → Prop}

theorem ok
    (value : α) :
    Reports kind (.ok value : Checked α) :=
  fun _ failed => nomatch failed

theorem single
    {issue : Issue}
    (fits : kind issue) :
    Reports kind (.error [issue] : Checked α) := by
  rintro _ ⟨⟩
  exact ⟨List.cons_ne_nil _ _, List.forall_mem_singleton.mpr fits⟩

theorem mono
    {other : Issue → Prop}
    {checked : Checked α}
    (reports : Reports kind checked)
    (implies : ∀ issue, kind issue → other issue) :
    Reports other checked := by
  intro issues failed
  rcases reports issues failed with ⟨some, all⟩
  exact ⟨some, fun issue member => implies issue (all issue member)⟩

theorem map
    {checked : Checked α}
    (reports : Reports kind checked)
    (wrap : α → β) :
    Reports kind (checked.map wrap) := by
  cases checked with
  | ok value => exact ok _
  | error issues => exact fun _ failed => reports _ (by cases failed; rfl)

theorem both
    {first : Checked α}
    {second : Checked β}
    (begins : Reports kind first)
    (goesOn : Reports kind second) :
    Reports kind (Checked.both first second) := by
  intro issues failed
  cases first with
  | ok a =>
      cases second with
      | ok b => cases failed
      | error others =>
          cases failed
          exact goesOn _ rfl
  | error found =>
      rcases begins _ rfl with ⟨some, all⟩
      cases second with
      | ok b =>
          cases failed
          exact ⟨some, all⟩
      | error others =>
          cases failed
          refine ⟨List.append_ne_nil_of_left_ne_nil some _, ?_⟩
          intro issue member
          exact (List.mem_append.mp member).elim (all issue) ((goesOn _ rfl).2 issue)

theorem guarded
    {issues : List Issue}
    {checked : Checked α}
    (beside : ∀ issue ∈ issues, kind issue)
    (reports : Reports kind checked) :
    Reports kind (Checked.guarded issues checked) := by
  cases issues with
  | nil => exact reports
  | cons issue more =>
      intro all failed
      cases checked with
      | ok value =>
          cases failed
          exact ⟨List.cons_ne_nil _ _, beside⟩
      | error found =>
          cases failed
          refine ⟨List.append_ne_nil_of_right_ne_nil _ (List.cons_ne_nil _ _), ?_⟩
          intro other member
          exact (List.mem_append.mp member).elim ((reports _ rfl).2 other) (beside other)

end Reports

end Checked

/-! ## Fields -/

namespace Field

open Checked

theorem text_eq_ok_iff
    {place : List String}
    {value : Json}
    {text : String} :
    Field.text place value = .ok text ↔ value = .str text := by
  cases value <;> simp [Field.text]

theorem text_reports
    (place : List String)
    (value : Json) :
    Reports (Issue.Within place) (text place value) := by
  cases value with
  | str text => exact .ok text
  | _ => exact .single (List.prefix_refl place)

theorem truth_reports
    (place : List String)
    (value : Json) :
    Reports (Issue.Within place) (truth place value) := by
  have refused (kind : IssueKind) : Reports (Issue.Within place) (.error [⟨place, kind⟩] : Checked Bool) :=
    .single (List.prefix_refl place)
  unfold truth
  dsimp only
  split
  case h_1 value => exact .ok value
  case h_2 word =>
      cases truthWord? word with
      | none => exact refused _
      | some value => exact .ok value
  case h_3 =>
      split
      case h_1 number _ =>
          cases truthNumber? number with
          | none => exact refused _
          | some value => exact .ok value
      case h_2 => exact refused _

theorem textItems_eq_ok_iff
    {place : List String}
    {index : Nat}
    {values : List Json}
    {items : List String} :
    textItems place index values = .ok items ↔ values = items.map .str := by
  induction values generalizing index items with
  | nil =>
      rw [textItems]
      cases items <;> simp
  | cons value rest ih =>
      rw [textItems, map_eq_ok_iff]
      constructor
      · rintro ⟨⟨first, others⟩, checked, rfl⟩
        rcases both_eq_ok_iff.mp checked with ⟨one, all⟩
        rw [text_eq_ok_iff.mp one, ih.mp all]
        rfl
      · intro shape
        cases items with
        | nil => cases shape
        | cons first others =>
            cases shape
            exact ⟨(first, others), both_eq_ok_iff.mpr ⟨rfl, ih.mpr rfl⟩, rfl⟩

theorem textItems_reports
    (place : List String)
    (index : Nat)
    (values : List Json) :
    Reports (Issue.Within place) (textItems place index values) := by
  induction values generalizing index with
  | nil => exact .ok []
  | cons value rest ih =>
      have first : Reports (Issue.Within place) (text (place ++ [s!"{index}"]) value) :=
        (text_reports _ value).mono fun _ within => (List.prefix_append place _).trans within
      exact (first.both (ih (index + 1))).map _

/-- A list of texts is read from a list of just these texts. -/
theorem texts_eq_ok_iff
    {place : List String}
    {value : Json}
    {items : List String} :
    texts place value = .ok items ↔ value = .array (items.map .str) := by
  cases value with
  | array values => simp [texts, textItems_eq_ok_iff]
  | _ => simp [texts]

theorem texts_reports
    (place : List String)
    (value : Json) :
    Reports (Issue.Within place) (texts place value) := by
  cases value with
  | array values => exact textItems_reports place 0 values
  | _ => exact .single (List.prefix_refl place)

theorem withDefault_congr
    {α : Type}
    {members others : List (String × Json)}
    {name : String}
    (same : others.lookup name = members.lookup name)
    (default : α)
    (check : List String → Json → Checked α) :
    withDefault others name default check = withDefault members name default check := by
  unfold withDefault
  rw [same]

/-- The issues of a field lie within its member. -/
theorem withDefault_reports
    {α : Type}
    (members : List (String × Json))
    (name : String)
    (default : α)
    {check : List String → Json → Checked α}
    (reports : ∀ value, Reports (Issue.Within [name]) (check [name] value)) :
    Reports (fun issue => ∃ name ∈ Assoc.keys members, issue.Within [name])
      (withDefault members name default check) := by
  unfold withDefault
  split
  case h_1 => exact .ok default
  case h_2 value found =>
      have member : name ∈ Assoc.keys members := by
        rcases List.lookup_eq_some_iff.mp found with ⟨before, behind, rfl, -⟩
        simp [Assoc.keys]
      exact (reports value).mono fun issue within => ⟨name, member, within⟩

theorem extras_eq_nil_iff
    {fields : List String}
    {members : List (String × Json)} :
    extras fields members = [] ↔ ∀ member ∈ members, member.1 ∈ fields := by
  simp [extras]

theorem within_of_mem_extras
    {fields : List String}
    {members : List (String × Json)}
    {issue : Issue}
    (extra : issue ∈ extras fields members) :
    ∃ name ∈ Assoc.keys members, issue.Within [name] := by
  rcases List.mem_map.mp extra with ⟨member, among, rfl⟩
  exact ⟨member.1, List.mem_map_of_mem (List.mem_filter.mp among).1, List.prefix_refl _⟩

/-- A member for a field is no extra one. -/
theorem extras_put
    {fields : List String}
    {name : String}
    (field : name ∈ fields)
    (members : List (String × Json))
    (value : Json) :
    extras fields (Assoc.put members name value) = extras fields members := by
  have own (given : Json) : extras fields [(name, given)] = [] := by simp [extras, field]
  have cons (member : String × Json) (rest : List (String × Json)) :
      extras fields (member :: rest) = extras fields [member] ++ extras fields rest := by
    simp [extras, ← List.map_append, ← List.filter_append]
  induction members with
  | nil => exact own value
  | cons member rest ih =>
      rcases member with ⟨other, old⟩
      unfold Assoc.put
      split
      case isTrue same =>
          subst same
          rw [cons _ rest, cons (other, old) rest, own, own]
      case isFalse => rw [cons _ (Assoc.put rest name value), cons _ rest, ih]

/-- What else there is stays without it, too. -/
theorem extras_erase
    {fields : List String}
    {name : String}
    (field : name ∈ fields)
    (members : List (String × Json)) :
    extras fields (Assoc.erase members name) = extras fields members := by
  unfold extras Assoc.erase
  rw [List.filter_filter]
  congr 1
  apply List.filter_congr
  intro member _
  by_cases same : member.1 = name <;> simp [same, field]

end Field

/-! ## Options for patterns -/

namespace GlobOptions

open Checked

/-- Options hold what members stand for; `dot` is the default for hidden names. -/
structure Holds
    (dot : Bool)
    (members : List (String × Json))
    (options : GlobOptions) : Prop where
  dot : Field.withDefault members "dot" dot Field.truth = .ok options.dot
  nodir : Field.withDefault members "nodir" false Field.truth = .ok options.nodir
  ignore :
    match members.lookup "ignore" with
    | none => options.ignore = []
    | some value => value = .array (options.ignore.map .str)
  known : ∀ member ∈ members, member.1 ∈ fieldNames

/-- The fields but the directory, checked. -/
def checkedFields
    (dot : Bool)
    (members : List (String × Json)) : Checked (Bool × Bool × List String) :=
  Checked.guarded (Field.extras fieldNames members) <|
    Checked.both (Field.withDefault members "dot" dot Field.truth)
      (Checked.both (Field.withDefault members "nodir" false Field.truth)
        (Field.withDefault members "ignore" [] Field.texts))

/-- Only the fields but the directory are looked at, and what is no field. -/
theorem checkedFields_congr
    {members others : List (String × Json)}
    (agree : ∀ name ≠ "cwd", others.lookup name = members.lookup name)
    (extras : Field.extras fieldNames others = Field.extras fieldNames members)
    (dot : Bool) :
    checkedFields dot others = checkedFields dot members := by
  unfold checkedFields
  rw [extras, Field.withDefault_congr (agree "dot" (by decide)),
    Field.withDefault_congr (agree "nodir" (by decide)), Field.withDefault_congr (agree "ignore" (by decide))]

theorem checkedFields_put
    (dot : Bool)
    (members : List (String × Json))
    (value : Json) :
    checkedFields dot (Assoc.put members "cwd" value) = checkedFields dot members := by
  have field : "cwd" ∈ fieldNames := by decide
  apply checkedFields_congr
  · intro name other
    exact Assoc.lookup_put_of_ne other
  · exact Field.extras_put field members value

theorem checkedFields_erase
    (dot : Bool)
    (members : List (String × Json)) :
    checkedFields dot (Assoc.erase members "cwd") = checkedFields dot members := by
  have field : "cwd" ∈ fieldNames := by decide
  apply checkedFields_congr
  · intro name other
    exact Assoc.lookup_erase_of_ne other
  · exact Field.extras_erase field members

/-- Members with a directory are checked as the other fields are. -/
theorem ofMembers_put
    (dot : Bool)
    (members : List (String × Json))
    (directory : String) :
    ofMembers dot (Assoc.put members "cwd" (.str directory)) =
      (checkedFields dot members).map fun (dot, nodir, ignore) => ⟨directory, dot, nodir, ignore⟩ := by
  rw [← checkedFields_put dot members (.str directory)]
  unfold ofMembers checkedFields
  rw [Assoc.lookup_put_self]
  dsimp only [Field.text]
  generalize Checked.both (Field.withDefault _ "dot" dot Field.truth) _ = fields
  cases Field.extras fieldNames (Assoc.put members "cwd" (.str directory)) <;> cases fields <;> rfl

theorem checkedFields_eq_ok_iff
    {dot : Bool}
    {members : List (String × Json)}
    {options : GlobOptions} :
    checkedFields dot members = .ok (options.dot, options.nodir, options.ignore) ↔
      options.Holds dot members := by
  have listed :
      Field.withDefault members "ignore" [] Field.texts = .ok options.ignore ↔
        match members.lookup "ignore" with
        | none => options.ignore = []
        | some value => value = .array (options.ignore.map .str) := by
    unfold Field.withDefault
    cases members.lookup "ignore" with
    | none => simp [eq_comm]
    | some value => exact Field.texts_eq_ok_iff
  unfold checkedFields
  rw [guarded_eq_ok_iff, both_eq_ok_iff, both_eq_ok_iff, Field.extras_eq_nil_iff, listed]
  constructor
  · rintro ⟨known, hidden, directories, ignored⟩
    exact ⟨hidden, directories, ignored, known⟩
  · intro holds
    exact ⟨holds.known, holds.dot, holds.nodir, holds.ignore⟩

theorem checkedFields_reports
    (dot : Bool)
    (members : List (String × Json)) :
    Reports (fun issue => ∃ name ∈ Assoc.keys members, issue.Within [name])
      (checkedFields dot members) := by
  apply Reports.guarded
  · intro issue extra
    exact Field.within_of_mem_extras extra
  · have hidden := Field.withDefault_reports members "dot" dot (Field.truth_reports ["dot"])
    have directories := Field.withDefault_reports members "nodir" false (Field.truth_reports ["nodir"])
    have ignored := Field.withDefault_reports members "ignore" [] (Field.texts_reports ["ignore"])
    exact hidden.both (directories.both ignored)

end GlobOptions

end ConfigTokens
