import ConfigTokens.Module.Bytecode
import ConfigTokens.Proofs.Run.Call
/-!
# Code that is that of its source

What an interpreter runs for a file is what the file says, as long as no code is kept for it that is that
of another text. `Bytecodes.programs_eq_sources` says so for files that are read one after the other, none
of which is taken for another one. Less is not enough: by `Reading.apart_iff` any other file gets the code of
the one that it is taken for, and two files can be taken for each other that have the same name before
their suffixes (`codeText_of_suffix`).
-/

namespace ConfigTokens.Module

open ConfigTokens.Path
open ConfigTokens.Text

/-- The path for the code of a file does not depend on the suffix of the file. -/
theorem codeText_of_suffix
    (above : List Char)
    {name suffix : List Char}
    (named : name ≠ [])
    (single : '/' ∉ name ++ '.' :: suffix)
    (last : '.' ∉ suffix) :
    codeText (String.ofList (above ++ '/' :: (name ++ '.' :: suffix))) =
      String.ofList (join (join above codeDirectory) (name ++ '.' :: codeSuffix)) := by
  have place := (beforeLast_append_cons above single : beforeLast '/' _ = _)
  have cut := (beforeLast_append_cons name last : beforeLast '.' _ = _)
  unfold codeText
  simp only [String.toList_ofList, place, Option.getD_some, cut]
  cases name with
  | nil => exact absurd rfl named
  | cons c rest => simp

/-! ## Files that are read one after the other -/

namespace Reading

/-- Two files that have the same place for code and the same stamp say the same. -/
def Apart
    (reading other : Reading) : Prop :=
  ∀ code program,
    reading.source = .ok (.steps code) → other.source = .ok program →
      reading.path = other.path → reading.stamp = other.stamp → program = .steps code

/-- The code that is kept for a file is its own. -/
def IsServed
    (reading : Reading)
    (kept : Bytecodes) : Prop :=
  ∀ program code,
    reading.source = .ok program → reading.kept? kept = some code → program = .steps code

variable
    {reading other : Reading}
    {kept : Bytecodes}

theorem isServed_nil :
    reading.IsServed [] :=
  nofun

theorem program_of_kept
    {program : Program}
    {code : List Step}
    (read : reading.source = .ok program)
    (found : reading.kept? kept = some code) :
    reading.program kept = .ok (.steps code) := by
  unfold Reading.program
  rw [read, found]

/-- What is run for a file is what it says, if the code that is kept is its own. -/
theorem IsServed.program_eq_source
    (served : reading.IsServed kept) :
    reading.program kept = reading.source := by
  unfold Reading.program
  split
  case h_1 program code read found => rw [read, served program code read found]
  case h_2 => rfl

theorem keeping_of_steps
    {code : List Step}
    (read : reading.source = .ok (.steps code))
    (absent : reading.kept? kept = none) :
    reading.keeping kept = Assoc.put kept reading.path ⟨reading.stamp, code⟩ := by
  unfold keeping
  rw [read, absent]

/-- The code that a reading keeps is found by those that have its path and its stamp. -/
theorem kept?_put
    (code : List Step) :
    other.kept? (Assoc.put kept reading.path ⟨reading.stamp, code⟩) =
      if reading.path = other.path then
        if reading.stamp = other.stamp then some code else none
      else other.kept? kept := by
  unfold kept?
  by_cases same : reading.path = other.path
  · rw [if_pos same, ← same, Assoc.lookup_put_self]
  · rw [if_neg same, Assoc.lookup_put_of_ne (Ne.symm same)]

/-- A file keeps its own code when another one is read that it is not taken for. -/
theorem IsServed.keeping
    (served : other.IsServed kept)
    (apart : reading.Apart other) :
    other.IsServed (reading.keeping kept) := by
  intro program code read found
  unfold Reading.keeping at found
  split at found
  case h_1 own source absent =>
    rw [kept?_put] at found
    split at found
    case isTrue path =>
      split at found
      case isTrue stamp =>
        cases found
        exact apart code program source read path stamp
      case isFalse => cases found
    case isFalse => exact served program code read found
  case h_2 => exact served program code read found

end Reading

/--
What is run for files that are read one after the other is what they say, if none is taken for another one,
and the code that is kept at the start is their own.
-/
theorem Bytecodes.programs_eq_sources
    {kept : Bytecodes}
    {readings : List Reading}
    (apart : ∀ reading ∈ readings, ∀ other ∈ readings, reading.Apart other)
    (served : ∀ reading ∈ readings, reading.IsServed kept)
    (keeps : Bool) :
    kept.programs keeps readings = readings.map Reading.source := by
  induction readings generalizing kept with
  | nil => rfl
  | cons reading rest ih =>
      have first : reading.program kept = reading.source :=
        (served reading List.mem_cons_self).program_eq_source
      have later :
          ∀ other ∈ rest, other.IsServed (if keeps then reading.keeping kept else kept) := by
        intro other member
        have inside := List.mem_cons_of_mem reading member
        split
        · exact (served other inside).keeping (apart reading List.mem_cons_self other inside)
        · exact served other inside
      have others :=
        ih (fun one member other also => apart one (List.mem_cons_of_mem reading member) other
          (List.mem_cons_of_mem reading also)) later
      unfold programs
      rw [first, others, List.map_cons]

/-- A file that is taken for the one that was read before it gets the code of that one. -/
theorem Reading.programs_of_shared
    {reading other : Reading}
    {code : List Step}
    {program : Program}
    (source : reading.source = .ok (.steps code))
    (read : other.source = .ok program)
    (path : reading.path = other.path)
    (stamp : reading.stamp = other.stamp) :
    Bytecodes.programs true [] [reading, other] = [.ok (.steps code), .ok (.steps code)] := by
  have first : reading.program [] = .ok (.steps code) :=
    isServed_nil.program_eq_source.trans source
  have found : other.kept? (reading.keeping []) = some code := by
    rw [keeping_of_steps source rfl, kept?_put, if_pos path, if_pos stamp]
  simp only [Bytecodes.programs, if_true, first, program_of_kept read found]

/-- A file is not taken for another one exactly if it is run as it says when it is read after that one. -/
theorem Reading.apart_iff
    {reading other : Reading} :
    reading.Apart other ↔
      Bytecodes.programs true [] [reading, other] = [reading.source, other.source] := by
  constructor
  · intro apart
    have first : reading.program [] = reading.source := isServed_nil.program_eq_source
    have second := (isServed_nil.keeping apart).program_eq_source
    simp only [Bytecodes.programs, if_true, first, second]
  · intro runs code program source read path stamp
    have shared := programs_of_shared source read path stamp
    rw [runs, source, read] at shared
    cases shared
    rfl

/-! ## Files of sites -/

/-- No file of the second site is taken for one of the first one. -/
def Site.KeepsApart
    (site other : Site) : Prop :=
  ∀ file ∈ site.keys, ∀ elsewhere ∈ other.keys,
    (⟨site, file⟩ : Reading).Apart ⟨other, elsewhere⟩

/-- Two sites with the same sources keep their files apart if no two files share a place for code. -/
theorem Site.keepsApart_of_paths
    {site other : Site}
    (same : ∀ file, other.program file = site.program file)
    (distinct :
      ∀ file ∈ site.keys, ∀ elsewhere ∈ other.keys,
        (⟨site, file⟩ : Reading).path = (⟨other, elsewhere⟩ : Reading).path → file = elsewhere) :
    site.KeepsApart other := by
  intro file member elsewhere also code program source read path _
  obtain rfl := distinct file member elsewhere also path
  cases read.symm.trans ((same file).trans source)
  rfl

/-- The code that is kept for the files of a site is their own. -/
def Bytecodes.Serves
    (kept : Bytecodes)
    (site : Site) : Prop :=
  ∀ file ∈ site.keys, (⟨site, file⟩ : Reading).IsServed kept

/-- All files that are read at a site are read there. -/
theorem Site.site_of_mem_readings
    {site : Site}
    {events : List Event}
    {reading : Reading}
    (member : reading ∈ site.readings events) :
    reading.site = site := by
  obtain ⟨event, -, found⟩ := List.mem_filterMap.mp member
  split at found
  case h_1 =>
    cases found
    rfl
  case h_2 => cases found

/-- The files that have been read at a site since a place in the journal are files of the site. -/
structure World.ReadsKeys
    (world : World)
    (site : Site)
    (origin : Nat) : Prop where
  since : origin ≤ world.journal.size
  keys : ∀ reading ∈ site.readings (world.eventsSince origin), site.IsKey reading.file

namespace World.ReadsKeys

variable
    {world final : World}
    {site : Site}
    {origin : Nat}

theorem same
    (held : world.ReadsKeys site origin)
    (journal : final.journal = world.journal) :
    final.ReadsKeys site origin := by
  constructor
  · rw [journal]
    exact held.since
  · unfold eventsSince
    rw [journal]
    exact held.keys

theorem noted
    (held : world.ReadsKeys site origin)
    {event : Event}
    (journal : final.journal = world.journal.push event)
    (key : ∀ reading ∈ site.readings [event], site.IsKey reading.file) :
    final.ReadsKeys site origin where
  since := by
    rw [journal, Array.size_push]
    exact Nat.le_succ_of_le held.since
  keys := by
    have events : final.eventsSince origin = world.eventsSince origin ++ [event] := by
      rw [← eventsSince_note held.since]
      unfold eventsSince
      rw [journal]
      rfl
    rw [events]
    unfold Site.readings
    rw [List.filterMap_append]
    exact List.forall_mem_append.mpr ⟨held.keys, key⟩

theorem noted_idle
    (held : world.ReadsKeys site origin)
    {event : Event}
    (journal : final.journal = world.journal.push event)
    (idle : event.beginsBody = false) :
    final.ReadsKeys site origin := by
  refine held.noted journal fun reading member => ?_
  cases event with
  | bodyStarted registry file id => cases idle
  | _ => cases member

end World.ReadsKeys

/-- The regime of worlds in which only files of the site have been read. -/
def Regime.readsKeys
    (site : Site)
    (origin : Nat) : Regime site where
  holds _ world := world.ReadsKeys site origin
  imports _ := True
  searched _ _ := True
  above _ _ := trivial
  push _ held := held.same rfl
  trace _ held := held.same rfl
  note _ idle held := held.noted_idle rfl idle
  assign _ _ _ held := held.same rfl
  mark _ _ held := held.same rfl
  search _ _ _ := trivial
  bind _ _ held _ _ := held.same rfl
  enter _ _ held := held.same rfl
  document _ _ held _ := held.noted_idle rfl rfl
  openFile isKey held _ := held.noted rfl (List.forall_mem_singleton.mpr isKey)
  closeFile _ _ held := held
  discardFile _ _ _ held := held.noted_idle rfl rfl
  found _ _ _ _ held _ := held.same rfl
  openImport _ _ _ _ held _ := held.same rfl
  closeImport _ held := held
  failImport _ held := held.same rfl

/-- A call reads files of its site only. -/
theorem Call.isKey_of_reading
    (call : Call)
    (world : World) :
    ∀ reading ∈ call.site.readings ((call.after world).eventsSince world.journal.size),
      call.site.IsKey reading.file := by
  let regime := Regime.readsKeys call.site world.journal.size
  have nothing : world.eventsSince world.journal.size = [] := by simp [World.eventsSince]
  have held : regime.holds .outside world := by
    refine ⟨Nat.le_refl _, ?_⟩
    rw [nothing]
    exact List.forall_mem_nil _
  have changes {world : World} {id : ObjectId} {content : FunctionObject}
      (_ : world.function? id = some content) (held : regime.holds .outside world)
      (changed : FunctionObject) :
      regime.holds .outside (world.setObject id (.function changed)) :=
    World.ReadsKeys.same held rfl
  exact (Regime.after_holds (fun _ => trivial) changes held).keys

/-! ## Files that runs read -/

/-- What is done with a registry from outside. -/
inductive Action where
  | call (made : Call)
  /-- The registry forgets its exports. -/
  | clear (registry : RegistryName)

namespace Action

/-- The registry of an action. -/
def registry : Action → RegistryName
  | .call made => made.site.registry
  | .clear registry => registry

/-- The world after an action. -/
def after
    (world : World) : Action → World
  | .call made => made.after world
  | .clear registry => world.setRegistry registry []

/-- The files that are read to run them as modules. -/
def readings
    (world : World) : Action → List Reading
  | .call made => made.site.readings ((made.after world).eventsSince world.journal.size)
  | .clear _ => []

end Action

namespace World

/-- The world after a run of actions. -/
def afterActions
    (world : World)
    (actions : List Action) : World :=
  actions.foldl Action.after world

/-- The files that are read in a run of actions, in their order. -/
def readings
    (world : World) : List Action → List Reading
  | [] => []
  | action :: rest => action.readings world ++ readings (action.after world) rest

/-- What is read in a run are files of the sites of its calls. -/
theorem exists_call_of_mem_readings
    {world : World}
    {actions : List Action}
    {reading : Reading}
    (member : reading ∈ world.readings actions) :
    ∃ made, .call made ∈ actions ∧ reading.site = made.site ∧ reading.file ∈ made.site.keys := by
  induction actions generalizing world with
  | nil => cases member
  | cons action rest ih =>
      rcases List.mem_append.mp member with first | later
      · cases action with
        | call made =>
            exact ⟨made, List.mem_cons_self, Site.site_of_mem_readings first,
              Site.mem_keys_of_isKey (made.isKey_of_reading world reading first)⟩
        | clear registry => cases first
      · obtain ⟨made, inside, here, file⟩ := ih later
        exact ⟨made, List.mem_cons_of_mem action inside, here, file⟩

/-- What is run in a run of actions is what the files say, if the sites keep their files apart. -/
theorem programs_readings
    (world : World)
    {actions : List Action}
    {kept : Bytecodes}
    (apart :
      ∀ made other, .call made ∈ actions → .call other ∈ actions →
        made.site.KeepsApart other.site)
    (serves : ∀ made, .call made ∈ actions → kept.Serves made.site)
    (keeps : Bool) :
    kept.programs keeps (world.readings actions) = (world.readings actions).map Reading.source := by
  refine Bytecodes.programs_eq_sources (fun reading member other also => ?_)
    (fun reading member => ?_) keeps
  · obtain ⟨made, inside, here, file⟩ := exists_call_of_mem_readings member
    obtain ⟨further, within, there, elsewhere⟩ := exists_call_of_mem_readings also
    obtain ⟨_, _⟩ := reading
    obtain ⟨_, _⟩ := other
    cases here
    cases there
    exact apart made further inside within _ file _ elsewhere
  · obtain ⟨made, inside, here, file⟩ := exists_call_of_mem_readings member
    obtain ⟨_, _⟩ := reading
    cases here
    exact serves made inside _ file

end World

end ConfigTokens.Module
