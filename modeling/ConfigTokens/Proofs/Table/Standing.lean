import ConfigTokens.Proofs.Nesting.Guarded
/-!
# Names that stay in the table, or out of it

Loads change the table in few ways: the body of a file gets its synthesized name, which goes again if the
body fails, and an import adds a name that was not there, which goes again if its body fails. So a dotted
name whose import has ended stays for good, and below a name there is nothing as long as nothing is
imported there.
-/

namespace ConfigTokens.Module

/-! ## Regimes of the table -/

/--
A condition on the names under which bodies are under way and on the table that the changes of the table
keep.
-/
structure TableRegime where
  holds : List String → List (String × ObjectId) → Prop
  /-- The names that may be imported, by their parts. -/
  imports : List String → Prop
  above {last : String} {parts : List String} :
    imports (last :: parts) → parts ≠ [] → imports parts
  putFile {names : List String} {table : List (String × ObjectId)} (file : String) (id : ObjectId) :
    holds names table → holds names (Assoc.put table (synthesizedName file) id)
  eraseFile {names : List String} {table : List (String × ObjectId)} (file : String) :
    holds names table → holds names (Assoc.erase table (synthesizedName file))
  putImport {names : List String} {table : List (String × ObjectId)} {parts : List String}
    (id : ObjectId) :
    (∀ part ∈ parts, IsPart part) → imports parts → table.lookup (nameOfParts parts) = none →
      holds names table → holds names (Assoc.put table (nameOfParts parts) id)
  openImport {names : List String} {table : List (String × ObjectId)} {parts : List String}
    (id : ObjectId) :
    table.lookup (nameOfParts parts) = none → holds names table →
      holds names (Assoc.put table (nameOfParts parts) id) →
        holds (nameOfParts parts :: names) (Assoc.put table (nameOfParts parts) id)
  closeImport {name : String} {names : List String} {table : List (String × ObjectId)} :
    holds (name :: names) table → holds names table
  eraseImport {name : String} {names : List String} {table : List (String × ObjectId)} :
    holds (name :: names) table → holds names (Assoc.erase table name)

/-- What a regime of the table says of stages and worlds. -/
def TableRegime.regime
    (law : TableRegime)
    (site : Site) : Regime site where
  holds stage world := law.holds stage.names world.table
  imports := law.imports
  searched _ _ := True
  above := law.above
  push _ held := held
  trace _ held := held
  note _ _ held := held
  assign _ _ _ held := held
  mark _ _ held := held
  search _ _ _ := trivial
  bind _ _ held _ _ := held
  enter _ _ held := held
  document _ _ held _ := held
  openFile _ held _ := law.putFile _ _ held
  closeFile _ _ held := held
  discardFile _ _ _ held := law.eraseFile _ held
  found _ single imports _ held absent := law.putImport _ single imports absent held
  openImport _ single imports _ held absent :=
    law.openImport _ absent held (law.putImport _ single imports absent held)
  closeImport _ held := law.closeImport held
  failImport _ held := law.eraseImport held

/-! ## Names that stay -/

/-- A dotted name under which no body is under way has its module in the table. -/
def TableRegime.standing
    {name : String}
    (dotted : ¬IsPart name)
    (id : ObjectId) : TableRegime where
  holds names table := table.lookup name = some id ∧ name ∉ names
  imports _ := True
  above _ _ := trivial
  putFile file _ := fun ⟨known, idle⟩ =>
    ⟨(Assoc.lookup_put_of_ne (ne_synthesizedName_of_dotted dotted file)).trans known, idle⟩
  eraseFile file := fun ⟨known, idle⟩ =>
    ⟨(Assoc.lookup_erase_of_ne (ne_synthesizedName_of_dotted dotted file)).trans known, idle⟩
  putImport _ _ _ absent := fun ⟨known, idle⟩ => by
    refine ⟨(Assoc.lookup_put_of_ne ?_).trans known, idle⟩
    rintro rfl
    cases known.symm.trans absent
  openImport _ absent := fun ⟨known, idle⟩ ⟨still, _⟩ => by
    refine ⟨still, List.not_mem_cons_of_ne_of_not_mem ?_ idle⟩
    rintro rfl
    cases known.symm.trans absent
  closeImport := fun ⟨known, idle⟩ => ⟨known, List.not_mem_of_not_mem_cons idle⟩
  eraseImport := fun ⟨known, idle⟩ =>
    ⟨(Assoc.lookup_erase_of_ne (List.ne_of_not_mem_cons idle)).trans known,
      List.not_mem_of_not_mem_cons idle⟩

/-! ## Names that nothing is imported below -/

/-- The parts are not those of a name below another one. -/
def ApartFrom
    (above : String)
    (parts : List String) : Prop :=
  ∀ below, below ≠ [] → parts ≠ below ++ nameParts above

/-- What is imported apart from a name is not below it. -/
theorem ApartFrom.ne_below
    {above : String}
    {parts : List String}
    (apart : ApartFrom above parts)
    (single : ∀ part ∈ parts, IsPart part)
    (sub : String) :
    above ++ "." ++ sub ≠ nameOfParts parts := by
  intro same
  have nonempty : parts ≠ [] := by
    rintro rfl
    exact below_ne_empty above sub same
  refine apart (nameParts sub) (nameParts_ne_nil sub) ?_
  rw [← nameParts_below, same, nameParts_nameOfParts nonempty single]

/-- The table has nothing below a name, since imports are apart from it. -/
def TableRegime.vacant
    (above : String) : TableRegime where
  holds _ table := ∀ sub, table.lookup (above ++ "." ++ sub) = none
  imports := ApartFrom above
  above {last parts} apart _ below more same :=
    apart (last :: below) (List.cons_ne_nil _ _) (by rw [same, List.cons_append])
  putFile file _ vacant sub :=
    (Assoc.lookup_put_of_ne (ne_synthesizedName_of_dotted (not_isPart_below above sub) file)).trans
      (vacant sub)
  eraseFile file vacant sub :=
    (Assoc.lookup_erase_of_ne (ne_synthesizedName_of_dotted (not_isPart_below above sub) file)).trans
      (vacant sub)
  putImport _ single apart _ vacant sub :=
    (Assoc.lookup_put_of_ne (apart.ne_below single sub)).trans (vacant sub)
  openImport _ _ _ vacant := vacant
  closeImport vacant := vacant
  eraseImport {name _ table} vacant sub := by
    by_cases same : above ++ "." ++ sub = name
    · rw [same]
      exact Assoc.lookup_erase_self _ _
    · exact (Assoc.lookup_erase_of_ne same).trans (vacant sub)

end ConfigTokens.Module
