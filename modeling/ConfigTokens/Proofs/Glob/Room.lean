import ConfigTokens.Proofs.Glob.Here
/-!
# Room behind a segment that stays

A walk whose root ends in a segment that stays looks up longer paths than the walk below the root itself. As far
as these are not too long, the two walks find the same texts, in the same order (`Scope.expand_agree`): a path
and the one with the segment in it denote the same, and what lies below a path without room has no room either,
so that a place which only one of the walks finds adds nothing to what is compared.
-/

namespace ConfigTokens

namespace FileTree

variable {Content : Type}
variable {tree : FileTree Content}

/-- In front of other names, a name that stays makes no difference to a walk. -/
theorem walk_append_here
    (follow : Bool)
    (links : Nat)
    (place front : List String)
    {back : List String}
    (some : back ≠ []) :
    tree.walk follow links place (front ++ "." :: back) = tree.walk follow links place (front ++ back) := by
  induction links using Nat.strong_induction_on generalizing place front with
  | _ links fewer =>
      induction front generalizing place with
      | nil =>
          obtain ⟨name, rest, rfl⟩ := List.exists_cons_of_ne_nil some
          cases there : tree.entry? place with
          | none => simp [walk, there]
          | some entry =>
              cases entry with
              | directory => exact walk_stay there (.inr rfl)
              | file content => simp [walk, there]
              | link target => simp [walk, there]
      | cons name front shorter =>
          have dotted : front ++ "." :: back ≠ [] := by simp
          have plain : front ++ back ≠ [] := by simp [some]
          rw [List.cons_append, List.cons_append, walk, walk]
          cases tree.entry? place with
          | none => rfl
          | some entry =>
              cases entry with
              | file content => rfl
              | link target => rfl
              | directory =>
                  dsimp only
                  rw [shorter place, shorter place.dropLast, shorter (place ++ [name])]
                  cases tree.entry? (place ++ [name]) with
                  | none => rfl
                  | some entry =>
                      cases entry with
                      | directory => rfl
                      | file content => rfl
                      | link target =>
                          cases links with
                          | zero => simp [dotted, plain]
                          | succ links =>
                              have onward := fewer links (Nat.lt_succ_self links)
                                (if isRooted target then [] else place) (namesOf target ++ front)
                              rw [List.append_assoc, List.append_assoc] at onward
                              simp only [dotted, plain, onward]

end FileTree

namespace Glob

open ConfigTokens.Path
open ConfigTokens.Wildcard

/-! ## Results of a kind -/

/-- Two computations end with the same results of a kind, in the same order. -/
def Agree
    {ε α : Type}
    (kind : α → Bool)
    (one other : Except ε (List α)) : Prop :=
  ∃ found further, one = .ok found ∧ other = .ok further ∧ found.filter kind = further.filter kind

namespace Agree

variable {ε α β : Type}

theorem append
    {kind : β → Bool}
    {one other further more : Except ε (List β)}
    (begins : Agree kind one other)
    (goesOn : Agree kind further more) :
    Agree kind (do return (← one) ++ (← further)) (do return (← other) ++ (← more)) := by
  obtain ⟨_, _, rfl, rfl, first⟩ := begins
  obtain ⟨_, _, rfl, rfl, second⟩ := goesOn
  exact ⟨_, _, rfl, rfl, by rw [List.filter_append, List.filter_append, first, second]⟩

theorem trans
    {kind : β → Bool}
    {one other further : Except ε (List β)}
    (first : Agree kind one other)
    (second : Agree kind other further) :
    Agree kind one further := by
  obtain ⟨_, _, rfl, rfl, same⟩ := first
  obtain ⟨_, _, again, rfl, also⟩ := second
  cases again
  exact ⟨_, _, rfl, rfl, same.trans also⟩

theorem symm
    {kind : β → Bool}
    {one other : Except ε (List β)}
    (agree : Agree kind one other) :
    Agree kind other one := by
  obtain ⟨_, _, rfl, rfl, same⟩ := agree
  exact ⟨_, _, rfl, rfl, same.symm⟩

theorem mapM_flatten_cons
    (action : α → Except ε (List β))
    (place : α)
    (rest : List α) :
    (do return (← (place :: rest).mapM action).flatten) =
      (do return (← action place) ++ (← (do return (← rest.mapM action).flatten))) := by
  rw [List.mapM_cons]
  simp

/-- What agrees in a kind agrees in a narrower one. -/
theorem narrow
    {kind narrower : β → Bool}
    {one other : Except ε (List β)}
    (agree : Agree kind one other)
    (within : ∀ result, narrower result = true → kind result = true) :
    Agree narrower one other := by
  obtain ⟨found, further, rfl, rfl, same⟩ := agree
  have less (results : List β) : (results.filter kind).filter narrower = results.filter narrower := by
    rw [List.filter_filter]
    refine List.filter_congr fun result _ => ?_
    by_cases holds : narrower result = true
    · rw [holds, within result holds, Bool.and_self]
    · rw [Bool.eq_false_iff.mpr holds, Bool.false_and]
  exact ⟨_, _, rfl, rfl, by rw [← less found, same, less]⟩

/-- Results that are changed. -/
theorem map
    {kind : β → Bool}
    {change : α → β}
    {one other : Except ε (List α)}
    (agree : Agree (kind ∘ change) one other) :
    Agree kind (do return (← one).map change) (do return (← other).map change) := by
  obtain ⟨found, further, rfl, rfl, same⟩ := agree
  exact ⟨_, _, rfl, rfl, by rw [List.filter_map, List.filter_map, same]⟩

/-- Results that are changed and put behind a further one. -/
theorem cons_map
    {kind : β → Bool}
    {inner : α → Bool}
    {change : α → β}
    {one other : Except ε (List α)}
    (agree : Agree inner one other)
    (first : Ensures (∀ result ∈ ·, kind (change result) = inner result) one)
    (second : Ensures (∀ result ∈ ·, kind (change result) = inner result) other)
    (head : β) :
    Agree kind (do return head :: (← one).map change) (do return head :: (← other).map change) := by
  obtain ⟨found, further, rfl, rfl, same⟩ := agree
  refine ⟨_, _, rfl, rfl, ?_⟩
  have changed : found.filter (kind ∘ change) = further.filter (kind ∘ change) :=
    (List.filter_congr first).trans (same.trans (List.filter_congr second).symm)
  rw [List.filter_cons, List.filter_cons, List.filter_map, List.filter_map, changed]

section

variable
    {kind : β → Bool}
    {inside : α → Bool}
    {find seek : α → Except ε (List β)}
    {places others : List α}

/-- Walks that agree in each place agree. -/
theorem flatten
    (each : ∀ place ∈ places, Agree kind (find place) (seek place)) :
    Agree kind (do return (← places.mapM find).flatten) (do return (← places.mapM seek).flatten) := by
  induction places with
  | nil => exact ⟨[], [], rfl, rfl, rfl⟩
  | cons place rest ih =>
      obtain ⟨first, others⟩ := List.forall_mem_cons.mp each
      rw [mapM_flatten_cons, mapM_flatten_cons]
      exact first.append (ih others)

/-- Places that give nothing of the kind that matters may be left out. -/
theorem filter
    (each : ∀ place ∈ places,
      Yields (find place) fun found => inside place = false → found.filter kind = []) :
    Agree kind (do return (← places.mapM find).flatten)
      (do return (← (places.filter inside).mapM find).flatten) := by
  induction places with
  | nil => exact ⟨[], [], rfl, rfl, rfl⟩
  | cons place rest ih =>
      obtain ⟨⟨found, given, nothing⟩, others⟩ := List.forall_mem_cons.mp each
      rw [mapM_flatten_cons]
      by_cases within : inside place = true
      · rw [List.filter_cons_of_pos within, mapM_flatten_cons]
        exact append ⟨found, found, given, given, rfl⟩ (ih others)
      · have outside := Bool.eq_false_iff.mpr within
        rw [List.filter_cons_of_neg within]
        obtain ⟨below, fewer, first, second, same⟩ := ih others
        rw [given, first]
        refine ⟨found ++ below, fewer, rfl, second, ?_⟩
        rw [List.filter_append, nothing outside, same, List.nil_append]

/-- Walks agree if they agree in the same places inside, and if other places give nothing that matters. -/
theorem flatten_filter
    (same : places.filter inside = others.filter inside)
    (each : ∀ place ∈ places, inside place = true → Agree kind (find place) (seek place))
    (outside : ∀ place ∈ places,
      Yields (find place) fun found => inside place = false → found.filter kind = [])
    (beyond : ∀ place ∈ others,
      Yields (seek place) fun found => inside place = false → found.filter kind = []) :
    Agree kind (do return (← places.mapM find).flatten) (do return (← others.mapM seek).flatten) := by
  refine (filter outside).trans (trans ?_ (filter beyond).symm)
  rw [← same]
  refine flatten fun place member => ?_
  obtain ⟨among, within⟩ := List.mem_filter.mp member
  exact each place among within

end

end Agree

/-- A text that is not of a kind adds nothing of it. -/
theorem filter_self_of_tight
    {kind : List Char → Bool}
    {text : List Char}
    (tight : kind text = false)
    {found : Prop}
    [Decidable found] :
    (if found then [text] else []).filter kind = [] := by
  split <;> simp [tight]

/-! ## Paths with room -/

theorem clean_keptByWalks :
    KeptByWalks ('\x00' ∉ ·) where
  nil := List.not_mem_nil
  name := fun _ clean => clean
  join := null_not_mem_join
  directory := fun clean inside => clean (mem_of_mem_directory inside)
  baseName := fun clean inside => clean ((baseName_isSuffix _).subset inside)

theorem beneath_nil
    (directory : List Char) :
    beneath directory [] = directory := by
  unfold beneath
  split
  case isTrue empty => exact empty.symm
  case isFalse => exact if_pos rfl

/-- A name below a path that lies below a root is looked up below the root. -/
theorem beneath_beneath
    (root : List Char)
    {place name : List Char}
    (start : isAbsolute place = false)
    (relative : isAbsolute name = false) :
    beneath (beneath root place) name = beneath root (beneath place name) := by
  by_cases top : root = []
  · simp [beneath, top]
  by_cases none : place = []
  · subst none
    simp [beneath, top]
  by_cases empty : name = []
  · rw [empty, beneath_nil, beneath_nil]
  · rw [beneath_eq_join top none, beneath_eq_join none empty, beneath_eq_join (join_ne_nil top start) empty,
      beneath_eq_join top (join_ne_nil none relative), join_join root place relative]

namespace Scope

variable {Content : Type}
variable {scope : Scope Content}

/-- A path is short enough to be looked up below the root and a segment that stays. -/
def HasRoom
    (scope : Scope Content)
    (path : List Char) : Prop :=
  FileTree.byteLength (String.ofList (join (join scope.root here) path)) < 4096

instance (path : List Char) : Decidable (scope.HasRoom path) :=
  inferInstanceAs (Decidable (_ < _))

/-- What lies above a path with room has room. -/
theorem hasRoom_of_join
    {place name : List Char}
    (start : isAbsolute place = false)
    (relative : isAbsolute name = false)
    (room : scope.HasRoom (join place name)) :
    scope.HasRoom place := by
  refine Nat.lt_of_le_of_lt (FileTree.byteLength_le ?_) room
  have whole : isAbsolute (join place name) = false := by rw [isAbsolute_join, start, relative, Bool.or_self]
  rw [join_eq_append _ start, join_eq_append _ whole, join_eq_append _ relative]
  simp only [List.append_assoc]
  exact (List.Sublist.refl _).append ((List.Sublist.refl _).append (List.sublist_append_left _ _))

/-- Below a clean root the paths to a clean place are clean, with the segment or without. -/
theorem null_not_mem_beneath_root
    (pure : '\x00' ∉ scope.root)
    {path : List Char}
    (clean : '\x00' ∉ path) :
    '\x00' ∉ beneath scope.root path ∧ '\x00' ∉ beneath scope.stay.root path := by
  have dot : '\x00' ∉ here := by decide
  have stays : '\x00' ∉ scope.stay.root := null_not_mem_join pure dot
  exact ⟨null_not_mem_beneath pure clean, null_not_mem_beneath stays clean⟩

/-- With what is joined to it a place takes up no less than with what lies below it. -/
theorem hasRoom_beneath_of_join
    {place name : List Char}
    (start : isAbsolute place = false)
    (room : scope.HasRoom (join place name)) :
    scope.HasRoom (beneath place name) := by
  by_cases none : place = []
  · have joined : join place name = name := by
      rw [none]
      unfold join
      split <;> rfl
    have lower : beneath place name = name := if_pos none
    rwa [joined, ← lower] at room
  by_cases empty : name = []
  · rw [empty] at room ⊢
    rw [beneath_nil]
    exact hasRoom_of_join start rfl room
  · rwa [beneath_eq_join none empty]

/-- What lies below a place with room has no more room. -/
theorem hasRoom_of_beneath
    {place name : List Char}
    (start : isAbsolute place = false)
    (relative : isAbsolute name = false)
    (room : scope.HasRoom (beneath place name)) :
    scope.HasRoom place := by
  unfold beneath at room
  split at room
  case isTrue empty =>
      have joined : name = join place name := by
        rw [empty, join_eq_append _ relative]
        rfl
      rw [joined] at room
      exact hasRoom_of_join start relative room
  case isFalse =>
      split at room
      case isTrue => exact room
      case isFalse => exact hasRoom_of_join start relative room

/-- What is taken of some of the names is what of those that are taken. -/
theorem taken_filter
    (kind : List Char → Bool)
    (pattern : List Char)
    (names : List (List Char)) :
    (scope.taken pattern names).filter kind = scope.taken pattern (names.filter kind) := by
  unfold taken
  split
  case isTrue => rw [List.filter_comm, List.filter_comm (p := kind)]
  case isFalse => rw [List.filter_comm]

/-- Below a name without room there is no room. -/
theorem descend_outside
    {walker : Scope Content}
    (named : walker.tree.WellNamed)
    (directoriesOnly : Bool)
    (depth : Nat)
    {directory path name : List Char}
    (clean : '\x00' ∉ directory)
    (relative : isAbsolute path = false)
    (inner : IsInner name) :
    Yields
      (do return name :: (← walker.descend directoriesOnly depth (beneath directory name)).map (beneath name))
      fun found => decide (scope.HasRoom (beneath path name)) = false →
        (found.filter fun text => decide (scope.HasRoom (beneath path text))) = [] := by
  refine (descend_yields named directoriesOnly depth (null_not_mem_beneath clean inner.clean)).bind
    fun paths below => .ok fun outside => ?_
  have tight := of_decide_eq_false outside
  refine List.filter_eq_nil_iff.mpr fun text member room => ?_
  rcases List.mem_cons.mp member with rfl | member
  · exact tight (of_decide_eq_true room)
  · obtain ⟨further, among, rfl⟩ := List.mem_map.mp member
    have fits := of_decide_eq_true room
    rw [← beneath_beneath path inner.relative (below further among).relative] at fits
    exact tight (hasRoom_of_beneath (relative_keptByWalks.beneath relative inner.relative)
      (below further among).relative fits)

/-- The last segment of a pattern finds nothing with room in a place without. -/
theorem matchLast_outside
    {walker : Scope Content}
    (named : walker.tree.WellNamed)
    (directoriesOnly : Bool)
    {directory place last : List Char}
    (clean : '\x00' ∉ directory)
    (start : isAbsolute place = false)
    (single : '/' ∉ last) :
    Yields (do return (← walker.matchLast directoriesOnly directory last).map (join place))
      fun found => decide (scope.HasRoom place) = false →
        (found.filter fun text => decide (scope.HasRoom text)) = [] := by
  obtain ⟨names, matched⟩ : ∃ names, walker.matchLast directoriesOnly directory last = .ok names := by
    unfold matchLast
    split
    case isTrue =>
        obtain ⟨names, matched, -⟩ := matchBelow_yields named directoriesOnly clean
        exact ⟨names, matched⟩
    case isFalse =>
        split
        case isTrue =>
            obtain ⟨names, matched, -⟩ := matchNames_yields named directoriesOnly clean last
            exact ⟨names, matched⟩
        case isFalse => exact ⟨_, rfl⟩
  have relative := matchLast_ensures named relative_keptByWalks directoriesOnly directory
    (isAbsolute_of_single single)
  rw [matched] at relative ⊢
  refine .ok fun outside => List.filter_eq_nil_iff.mpr fun text member room => ?_
  obtain ⟨name, among, rfl⟩ := List.mem_map.mp member
  exact of_decide_eq_false outside (hasRoom_of_join start (relative name among) (of_decide_eq_true room))

section

variable (rooted : isAbsolute scope.root = true)

include rooted

/-- Behind a segment that stays a path has a name more. -/
theorem namesOf_join_here
    {path : List Char}
    (relative : isAbsolute path = false) :
    ∃ front,
      FileTree.namesOf (String.ofList (join scope.root path)) =
          front ++ FileTree.namesOf (String.ofList path) ∧
        FileTree.namesOf (String.ofList (join (join scope.root here) path)) =
          front ++ "." :: FileTree.namesOf (String.ofList path) := by
  obtain ⟨base, shape⟩ : ∃ base, scope.root ++ gap scope.root = base ++ ['/'] := by
    unfold gap
    split
    case isTrue closed =>
        have slash : scope.root.getLast? = some '/' := by simpa [ne_nil_of_isAbsolute rooted] using closed
        obtain ⟨base, same⟩ := List.getLast?_eq_some_iff.mp slash
        exact ⟨base, by rw [List.append_nil, same]⟩
    case isFalse => exact ⟨scope.root, rfl⟩
  have lower : join scope.root path = base ++ '/' :: path := by
    rw [join_eq_append _ relative, shape, List.append_assoc, List.singleton_append]
  have upper : join (join scope.root here) path = base ++ '/' :: ('.' :: '/' :: path) := by
    rw [join_join _ _ relative, join_eq_append here relative, join_eq_append _ rfl, shape]
    simp [here, gap]
  refine ⟨FileTree.namesOf (String.ofList base), ?_, ?_⟩
  · rw [lower]
    simp only [FileTree.namesOf_ofList, Text.fields_append_cons, List.map_append]
  · rw [upper]
    have single : Text.fields '/' ('.' :: '/' :: path) = ['.'] :: Text.fields '/' path :=
      Text.fields_append_cons '/' ['.'] path
    simp only [FileTree.namesOf_ofList, Text.fields_append_cons, single, List.map_append, List.map_cons]

theorem isAbsolute_stay :
    isAbsolute scope.stay.root = true := by
  change isAbsolute (join scope.root here) = true
  rw [isAbsolute_join, rooted, Bool.true_or]

/-- Both paths to a place with room can be looked up. -/
theorem HasRoom.short
    {path : List Char}
    (relative : isAbsolute path = false)
    (room : scope.HasRoom path) :
    FileTree.byteLength (String.ofList (beneath scope.root path)) < 4096 ∧
      FileTree.byteLength (String.ofList (beneath scope.stay.root path)) < 4096 := by
  have joined : join (join scope.root here) path =
      scope.root ++ (gap scope.root ++ (here ++ (gap (join scope.root here) ++ path))) := by
    rw [join_eq_append _ relative, join_eq_append scope.root rfl]
    simp only [List.append_assoc]
  have upper : (join scope.root here).Sublist (join (join scope.root here) path) := by
    rw [join_eq_append _ relative, List.append_assoc]
    exact List.sublist_append_left _ _
  have lower : scope.root.Sublist (join (join scope.root here) path) := by
    rw [joined]
    exact List.sublist_append_left _ _
  have whole : (join scope.root path).Sublist (join (join scope.root here) path) := by
    rw [joined, join_eq_append _ relative, List.append_assoc]
    exact (List.Sublist.refl _).append <| (List.Sublist.refl _).append <|
      (List.sublist_append_right _ _).trans (List.sublist_append_right _ _)
  have fits {text : List Char} (fewer : text.Sublist (join (join scope.root here) path)) :
      FileTree.byteLength (String.ofList text) < 4096 :=
    Nat.lt_of_le_of_lt (FileTree.byteLength_le fewer) room
  have filled := ne_nil_of_isAbsolute rooted
  have above := ne_nil_of_isAbsolute (isAbsolute_stay rooted)
  by_cases none : path = []
  · unfold beneath
    rw [if_neg filled, if_neg above, if_pos none, if_pos none]
    exact ⟨fits lower, fits upper⟩
  · rw [beneath_eq_join filled none, beneath_eq_join above none]
    exact ⟨fits whole, room⟩

variable (pure : '\x00' ∉ scope.root)

include pure

/-- A path with room leads to the same directory, with the segment in it or without. -/
theorem denotes_beneath
    {path : List Char}
    (relative : isAbsolute path = false)
    (clean : '\x00' ∉ path)
    (room : scope.HasRoom path)
    (place : List String) :
    scope.Denotes (beneath scope.stay.root path) place ↔ scope.Denotes (beneath scope.root path) place := by
  have start := isAbsolute_beneath rooted path
  have above := isAbsolute_beneath (isAbsolute_stay rooted) path
  obtain ⟨short, shorter⟩ := room.short rooted relative
  obtain ⟨lower, upper⟩ := null_not_mem_beneath_root pure clean
  have same : steps (beneath scope.stay.root path) = steps (beneath scope.root path) := by
    have dot : steps scope.stay.root = steps scope.root := by
      change steps (join scope.root here) = _
      rw [steps_join _ rfl]
      exact List.append_nil _
    rw [steps_beneath _ relative, steps_beneath _ relative, dot]
  constructor
  · intro denotes
    exact denotes.respelled above start (fun _ => lower) short same
  · intro denotes
    exact denotes.respelled start above (fun _ => upper) shorter same.symm

theorem isDirectory_beneath
    {path : List Char}
    (relative : isAbsolute path = false)
    (clean : '\x00' ∉ path)
    (room : scope.HasRoom path) :
    scope.isDirectory (beneath scope.stay.root path) = scope.isDirectory (beneath scope.root path) := by
  have start := ne_nil_of_isAbsolute (isAbsolute_beneath rooted path)
  have above := ne_nil_of_isAbsolute (isAbsolute_beneath (isAbsolute_stay rooted) path)
  refine Bool.eq_iff_iff.mpr ?_
  rw [isDirectory_iff start, isDirectory_iff above]
  exact exists_congr (denotes_beneath rooted pure relative clean room)

/-- Something stands at a path with room if it does without the segment. -/
theorem isPresent_beneath
    {path : List Char}
    (filled : path ≠ [])
    (relative : isAbsolute path = false)
    (clean : '\x00' ∉ path)
    (room : scope.HasRoom path) :
    scope.isPresent (beneath scope.stay.root path) = scope.isPresent (beneath scope.root path) := by
  have start := isAbsolute_beneath rooted path
  have above := isAbsolute_beneath (isAbsolute_stay rooted) path
  obtain ⟨short, shorter⟩ := room.short rooted relative
  obtain ⟨lower, upper⟩ := null_not_mem_beneath_root pure clean
  obtain ⟨front, names, more⟩ := namesOf_join_here rooted relative
  have some : FileTree.namesOf (String.ofList path) ≠ [] := by
    rw [FileTree.namesOf_ofList]
    simpa using Text.fields_ne_nil '/' path
  have stays : FileTree.namesOf (String.ofList (join scope.stay.root path)) =
      front ++ "." :: FileTree.namesOf (String.ofList path) := more
  unfold isPresent FileTree.isPresent
  rw [FileTree.find_eq_walk start lower short, FileTree.find_eq_walk above upper shorter,
    beneath_eq_join (ne_nil_of_isAbsolute rooted) filled,
    beneath_eq_join (ne_nil_of_isAbsolute (isAbsolute_stay rooted)) filled, names, stays,
    FileTree.walk_append_here _ _ _ _ some]

/-- A pattern with room and without special characters holds as it does without the segment. -/
theorem holds_stay
    {pattern : List Char}
    (relative : isAbsolute pattern = false)
    (clean : '\x00' ∉ pattern)
    (room : scope.HasRoom pattern) :
    scope.stay.Holds pattern ↔ scope.Holds pattern := by
  have front := relative_keptByWalks.directory relative
  have above : scope.HasRoom (directory pattern) := by
    refine Nat.lt_of_le_of_lt (FileTree.byteLength_le ?_) room
    rw [join_eq_append _ relative, join_eq_append _ front]
    exact (List.Sublist.refl _).append (directory_isPrefix pattern).sublist
  unfold Holds
  split
  case isTrue =>
      rw [← isDirectory_beneath rooted pure front (clean_keptByWalks.directory clean) above]
      rfl
  case isFalse filled =>
      have some : pattern ≠ [] := by
        rintro rfl
        exact filled rfl
      rw [← isPresent_beneath rooted pure some relative clean room]
      rfl

/-- A segment without special characters is found in a directory with room if it is without the segment. -/
theorem matchLiteral_stay
    {path last : List Char}
    (relative : isAbsolute path = false)
    (clean : '\x00' ∉ path)
    (room : scope.HasRoom path)
    (single : '/' ∉ last)
    (lastClean : '\x00' ∉ last) :
    ((scope.stay.matchLiteral (beneath scope.stay.root path) last).filter fun text =>
        decide (scope.HasRoom (beneath path text))) =
      (scope.matchLiteral (beneath scope.root path) last).filter fun text =>
        decide (scope.HasRoom (beneath path text)) := by
  have onward := isAbsolute_of_single single
  unfold matchLiteral
  rw [beneath_beneath _ relative onward, beneath_beneath _ relative onward]
  by_cases empty : last = []
  · rw [if_pos empty, if_pos empty, ← isDirectory_beneath rooted pure relative clean room]
    rfl
  · rw [if_neg empty, if_neg empty]
    by_cases fits : scope.HasRoom (beneath path last)
    · have filled : beneath path last ≠ [] := by
        by_cases none : path = []
        · rw [none]
          exact empty
        · rw [beneath_eq_join none empty]
          exact join_ne_nil none onward
      rw [← isPresent_beneath rooted pure filled (relative_keptByWalks.beneath relative onward)
        (null_not_mem_beneath clean lastClean) fits]
      rfl
    · refine (filter_self_of_tight ?_).trans (filter_self_of_tight ?_).symm
      · exact decide_eq_false fits
      · exact decide_eq_false fits

variable (named : scope.tree.WellNamed)

include named

/-- In a directory with room the same names are listed, as far as they have room. -/
theorem agree_list
    (directoriesOnly : Bool)
    {path : List Char}
    (relative : isAbsolute path = false)
    (clean : '\x00' ∉ path)
    (room : scope.HasRoom path) :
    Agree (fun name => decide (scope.HasRoom (beneath path name)))
      (scope.stay.list directoriesOnly (beneath scope.stay.root path))
      (scope.list directoriesOnly (beneath scope.root path)) := by
  have start := ne_nil_of_isAbsolute (isAbsolute_beneath rooted path)
  have above := ne_nil_of_isAbsolute (isAbsolute_beneath (isAbsolute_stay rooted) path)
  obtain ⟨lower, upper⟩ := null_not_mem_beneath_root pure clean
  let names := (scope.tree.list scope.cwd (String.ofList (beneath scope.root path))).map String.toList
  have listed : scope.tree.list scope.cwd (String.ofList (beneath scope.stay.root path)) =
      scope.tree.list scope.cwd (String.ofList (beneath scope.root path)) := by
    have same := denotes_beneath rooted pure relative clean room
    unfold Denotes at same
    rw [if_neg start, if_neg above] at same
    exact FileTree.list_congr same
  have first : scope.stay.list directoriesOnly (beneath scope.stay.root path) =
      .ok (if directoriesOnly then
        names.filter fun name => scope.isDirectory (join (beneath scope.stay.root path) name) else names) := by
    unfold list
    rw [if_neg (by simpa using upper), if_neg above]
    exact congrArg _ (listed ▸ rfl)
  have second : scope.list directoriesOnly (beneath scope.root path) =
      .ok (if directoriesOnly then
        names.filter fun name => scope.isDirectory (join (beneath scope.root path) name) else names) := by
    unfold list
    rw [if_neg (by simpa using lower), if_neg start]
  refine ⟨_, _, first, second, ?_⟩
  split
  case isFalse => rfl
  case isTrue =>
      rw [List.filter_filter, List.filter_filter]
      refine List.filter_congr fun name member => ?_
      obtain ⟨text, inside, rfl⟩ := List.mem_map.mp member
      obtain ⟨proper, free⟩ := named.list inside
      have onward := not_isAbsolute_of_isName proper.1
      by_cases fits : scope.HasRoom (beneath path text.toList)
      · rw [← beneath_eq_join start proper.1.1, ← beneath_eq_join above proper.1.1,
          beneath_beneath _ relative onward, beneath_beneath _ relative onward,
          isDirectory_beneath rooted pure (relative_keptByWalks.beneath relative onward)
            (null_not_mem_beneath clean free) fits]
      · rw [decide_eq_false fits, Bool.false_and, Bool.false_and]

/-- A descent from a directory with room finds the same, as far as that has room. -/
theorem agree_descend
    (directoriesOnly : Bool)
    (depth : Nat)
    {path : List Char}
    (relative : isAbsolute path = false)
    (clean : '\x00' ∉ path)
    (room : scope.HasRoom path) :
    Agree (fun text => decide (scope.HasRoom (beneath path text)))
      (scope.stay.descend directoriesOnly depth (beneath scope.stay.root path))
      (scope.descend directoriesOnly depth (beneath scope.root path)) := by
  induction depth generalizing path with
  | zero => exact ⟨[], [], rfl, rfl, rfl⟩
  | succ depth deeper =>
      obtain ⟨found, further, first, second, same⟩ :=
        agree_list rooted pure named directoriesOnly relative clean room
      obtain ⟨lower, upper⟩ := null_not_mem_beneath_root pure clean
      have below : scope.stay.tree.WellNamed := named
      have properAbove : ∀ name ∈ found, IsName name ∧ IsInner name := by
        obtain ⟨_, again, all⟩ := list_yields below directoriesOnly upper
        cases first.symm.trans again
        exact all
      have proper : ∀ name ∈ further, IsName name ∧ IsInner name := by
        obtain ⟨_, again, all⟩ := list_yields named directoriesOnly lower
        cases second.symm.trans again
        exact all
      unfold descend
      rw [first, second]
      let shown (name : List Char) : Bool := scope.hidden || !isHidden name
      have kept :
          (found.filter shown).filter (fun name => decide (scope.HasRoom (beneath path name))) =
            (further.filter shown).filter fun name => decide (scope.HasRoom (beneath path name)) := by
        rw [List.filter_comm, same, List.filter_comm]
      refine Agree.flatten_filter kept (fun name member fits => ?_) (fun name member => ?_)
        fun name member => ?_
      · have inner := (properAbove name (List.mem_filter.mp member).1).2
        have agree := deeper (relative_keptByWalks.beneath relative inner.relative)
          (null_not_mem_beneath clean inner.clean) (of_decide_eq_true fits)
        rw [← beneath_beneath _ relative inner.relative, ← beneath_beneath _ relative inner.relative]
          at agree
        -- Below the name the same room is left, whether the path is put together from above or from below.
        have left (walker : Scope Content) (named : walker.tree.WellNamed) (directory : List Char) :
            Ensures (∀ text ∈ ·, decide (scope.HasRoom (beneath path (beneath name text))) =
              decide (scope.HasRoom (beneath (beneath path name) text)))
              (walker.descend directoriesOnly depth directory) :=
          (descend_ensures named relative_keptByWalks directoriesOnly depth directory).imp
            fun paths all text among => by rw [beneath_beneath path inner.relative (all text among)]
        refine agree.cons_map ?_ ?_ name
        · exact left scope.stay below _
        · exact left scope named _
      · exact descend_outside below directoriesOnly depth upper relative
          (properAbove name (List.mem_filter.mp member).1).2
      · exact descend_outside named directoriesOnly depth lower relative
          (proper name (List.mem_filter.mp member).1).2

/-- A descent finds the same from a directory with room on, the directory itself among it. -/
theorem agree_matchBelow
    (directoriesOnly : Bool)
    {path : List Char}
    (relative : isAbsolute path = false)
    (clean : '\x00' ∉ path)
    (room : scope.HasRoom path) :
    Agree (fun text => decide (scope.HasRoom (beneath path text)))
      (scope.stay.matchBelow directoriesOnly (beneath scope.stay.root path))
      (scope.matchBelow directoriesOnly (beneath scope.root path)) := by
  have start := ne_nil_of_isAbsolute (isAbsolute_beneath rooted path)
  have above := ne_nil_of_isAbsolute (isAbsolute_beneath (isAbsolute_stay rooted) path)
  unfold matchBelow
  rw [decide_eq_false start, decide_eq_false above]
  change Agree _
    (do return (if scope.isDirectory (beneath scope.stay.root path) then [[]] else []) ++ (← _)) _
  rw [isDirectory_beneath rooted pure relative clean room]
  let self : List (List Char) := if scope.isDirectory (beneath scope.root path) then [[]] else []
  have begins : Agree (fun text => decide (scope.HasRoom (beneath path text)))
      (.ok self : Except Fault _) (.ok self) := ⟨_, _, rfl, rfl, rfl⟩
  exact begins.append (agree_descend rooted pure named directoriesOnly _ relative clean room)

/-- Wildcards take the same names in a directory with room, as far as these have room. -/
theorem agree_matchNames
    (directoriesOnly : Bool)
    {path : List Char}
    (relative : isAbsolute path = false)
    (clean : '\x00' ∉ path)
    (room : scope.HasRoom path)
    (pattern : List Char) :
    Agree (fun name => decide (scope.HasRoom (beneath path name)))
      (scope.stay.matchNames directoriesOnly (beneath scope.stay.root path) pattern)
      (scope.matchNames directoriesOnly (beneath scope.root path) pattern) := by
  obtain ⟨found, further, first, second, same⟩ :=
    agree_list rooted pure named directoriesOnly relative clean room
  rw [matchNames_eq, matchNames_eq, first, second]
  refine ⟨_, _, rfl, rfl, ?_⟩
  rw [taken_filter, same, ← taken_filter]
  rfl

/-- The last segment of a pattern finds the same in a directory with room, as far as that has room. -/
theorem agree_matchLast
    (directoriesOnly : Bool)
    {path last : List Char}
    (relative : isAbsolute path = false)
    (clean : '\x00' ∉ path)
    (room : scope.HasRoom path)
    (single : '/' ∉ last)
    (lastClean : '\x00' ∉ last) :
    Agree (fun text => decide (scope.HasRoom (beneath path text)))
      (scope.stay.matchLast directoriesOnly (beneath scope.stay.root path) last)
      (scope.matchLast directoriesOnly (beneath scope.root path) last) := by
  unfold matchLast
  split
  case isTrue => exact agree_matchBelow rooted pure named directoriesOnly relative clean room
  case isFalse =>
      split
      case isTrue => exact agree_matchNames rooted pure named directoriesOnly relative clean room last
      case isFalse =>
          exact ⟨_, _, rfl, rfl, matchLiteral_stay rooted pure relative clean room single lastClean⟩

/-- The last segment of a pattern finds the same in places with room, as far as that has room. -/
theorem agree_matchEach
    (directoriesOnly : Bool)
    {last : List Char}
    (single : '/' ∉ last)
    (lastClean : '\x00' ∉ last)
    {found further : List (List Char)}
    (same : found.filter (fun place => decide (scope.HasRoom place)) =
      further.filter fun place => decide (scope.HasRoom place))
    (above : ∀ place ∈ found, isAbsolute place = false ∧ '\x00' ∉ place)
    (below : ∀ place ∈ further, isAbsolute place = false ∧ '\x00' ∉ place) :
    Agree (fun text => decide (scope.HasRoom text))
      (scope.stay.matchEach directoriesOnly last found) (scope.matchEach directoriesOnly last further) := by
  have stays : scope.stay.tree.WellNamed := named
  refine Agree.flatten_filter same (fun place member fits => ?_) (fun place member => ?_)
    fun place member => ?_
  · obtain ⟨relative, clean⟩ := above place member
    have agree := agree_matchLast rooted pure named directoriesOnly relative clean (of_decide_eq_true fits)
      single lastClean
    exact (agree.narrow fun name room =>
      decide_eq_true (hasRoom_beneath_of_join relative (of_decide_eq_true room))).map
  · obtain ⟨relative, clean⟩ := above place member
    exact matchLast_outside stays directoriesOnly (null_not_mem_beneath_root pure clean).2 relative single
  · obtain ⟨relative, clean⟩ := below place member
    exact matchLast_outside named directoriesOnly (null_not_mem_beneath_root pure clean).1 relative single

variable (short : scope.HasRoom [])

include short

/-- A pattern finds the same below the root and behind a segment that stays, as far as that has room. -/
theorem agree_expandFrom
    (fuel : Nat)
    (directoriesOnly : Bool)
    {pattern : List Char}
    (relative : isAbsolute pattern = false)
    (clean : '\x00' ∉ pattern) :
    Agree (fun text => decide (scope.HasRoom text))
      (scope.stay.expandFrom fuel directoriesOnly pattern) (scope.expandFrom fuel directoriesOnly pattern) := by
  induction fuel generalizing directoriesOnly pattern with
  | zero => exact ⟨[], [], rfl, rfl, rfl⟩
  | succ fuel shorter =>
      have stays : scope.stay.tree.WellNamed := named
      have front := relative_keptByWalks.directory relative
      have frontClean := clean_keptByWalks.directory clean
      have lastClean := clean_keptByWalks.baseName clean
      have single := slash_not_mem_baseName pattern
      cases shape pattern with
      | plain literal =>
          rw [expandFrom_of_plain _ _ literal, expandFrom_of_plain _ _ literal]
          refine ⟨_, _, rfl, rfl, ?_⟩
          by_cases fits : scope.HasRoom pattern
          · rw [if_congr (holds_stay rooted pure relative clean fits) rfl rfl]
          · refine (filter_self_of_tight ?_).trans (filter_self_of_tight ?_).symm
            · exact decide_eq_false fits
            · exact decide_eq_false fits
      | alone magic none =>
          have agree :=
            agree_matchLast rooted pure named directoriesOnly rfl List.not_mem_nil short single lastClean
          rw [beneath_nil, beneath_nil] at agree
          rw [expandFrom_of_alone _ _ magic none, expandFrom_of_alone _ _ magic none]
          refine agree.narrow fun text room => ?_
          rwa [beneath, if_pos rfl]
      | last magic below literal =>
          rw [expandFrom_of_last _ _ magic below literal, expandFrom_of_last _ _ magic below literal]
          have only : ∀ place ∈ [directory pattern], isAbsolute place = false ∧ '\x00' ∉ place :=
            List.forall_mem_singleton.mpr ⟨front, frontClean⟩
          exact agree_matchEach rooted pure named directoriesOnly single lastClean rfl only only
      | special _ special =>
          rw [expandFrom_of_special _ _ special, expandFrom_of_special _ _ special]
          obtain ⟨found, further, first, second, same⟩ := shorter true front frontClean
          have places (walker : Scope Content) (named : walker.tree.WellNamed) :
              Ensures (∀ place ∈ ·, isAbsolute place = false ∧ '\x00' ∉ place)
                (walker.expandFrom fuel true (directory pattern)) :=
            ((expandFrom_ensures named relative_keptByWalks fuel true front).and
              (expandFrom_ensures named clean_keptByWalks fuel true frontClean)).imp
              fun _ both place member => ⟨both.1 place member, both.2 place member⟩
          have above := places scope.stay stays
          have below := places scope named
          rw [first] at above ⊢
          rw [second] at below ⊢
          exact agree_matchEach rooted pure named directoriesOnly single lastClean same above below

/--
Below the root and behind a segment that stays a pattern finds the same texts, as far as these have room, but for
the root itself.
-/
theorem expand_agree
    {pattern : List Char}
    (relative : isAbsolute pattern = false)
    (clean : '\x00' ∉ pattern) :
    Agree (fun text => decide (text ≠ [] ∧ scope.HasRoom text)) (scope.stay.expand pattern)
      (scope.expand pattern) := by
  have whole := agree_expandFrom rooted pure named short (pattern.length + 1) false relative clean
  have agree : Agree (fun text => decide (text ≠ [] ∧ scope.HasRoom text))
      (scope.stay.expandFrom (pattern.length + 1) false pattern)
      (scope.expandFrom (pattern.length + 1) false pattern) :=
    whole.narrow fun text both => decide_eq_true (of_decide_eq_true both).2
  obtain ⟨found, further, first, second, same⟩ := agree
  have kept (texts : List (List Char)) :
      ((withoutRoot pattern texts).filter fun text => decide (text ≠ [] ∧ scope.HasRoom text)) =
        texts.filter fun text => decide (text ≠ [] ∧ scope.HasRoom text) := by
    rcases withoutRoot_cases pattern texts with all | root
    · rw [all]
    · conv_rhs => rw [root]
      rw [List.filter_cons_of_neg (by simp)]
  rw [expand_eq, expand_eq, first, second]
  exact ⟨_, _, rfl, rfl, by rw [kept, kept, same]⟩

end

end Scope

end Glob

end ConfigTokens
