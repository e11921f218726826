import ConfigTokens.Proofs.FileTree.Descent
/-!
# Names that make a detour

`Way` is a walk that finds something, step by step. Names that stay can be left out of it (`Way.drop`), but at
the end a link is then no longer followed if the walk does not ask for it; on the way to a directory they can
be put back (`Way.putBack`). A name that leads up takes back the name before it only if that name is no link:
behind a link it leads to the parent of the target. So what names spell leads to where they lead if the walk
goes up only from directories to which it has followed no link (`Way.spelled`).
-/

namespace ConfigTokens.FileTree

variable
    {Content : Type}
    {tree : FileTree Content}

/-! ## Steps of a walk -/

/-- A name that a walk looks up. -/
structure IsStep
    (name : String) : Prop where
  moves : ¬(name = "" ∨ name = ".")
  down : name ≠ ".."
  short : byteLength name ≤ 255

section

variable {follow : Bool}
variable {links : Nat}
variable {place rest : List String}
variable {name target : String}
variable {entry : Entry Content}
variable (here : tree.entry? place = some .directory)

include here

theorem walk_stay
    (stays : name = "" ∨ name = ".") :
    tree.walk follow links place (name :: rest) = tree.walk follow links place rest := by
  rw [walk, here]
  exact if_pos (by simpa using stays)

theorem walk_up :
    tree.walk follow links place (".." :: rest) = tree.walk follow links place.dropLast rest := by
  rw [walk, here]
  rfl

/-- A walk that looks a name up goes on with what stands there. -/
theorem walk_step
    (step : IsStep name) :
    tree.walk follow links place (name :: rest) =
      match tree.entry? (place ++ [name]) with
      | none => .error .notFound
      | some (.link target) =>
        if rest = [] && !follow then .ok (place ++ [name], .link target)
        else
          match links with
          | 0 => .error .tooManyLinks
          | links + 1 =>
            tree.walk follow links (if isRooted target then [] else place) (namesOf target ++ rest)
      | some _ => tree.walk follow links (place ++ [name]) rest := by
  rw [walk, here]
  dsimp only
  have moves : ¬(decide (name = "") || decide (name = ".")) = true := by simpa using step.moves
  exact (if_neg moves).trans ((if_neg step.down).trans (if_neg (Nat.not_lt.mpr step.short)))

theorem walk_down
    (step : IsStep name)
    (present : tree.entry? (place ++ [name]) = some entry)
    (plain : ∀ target, entry ≠ .link target) :
    tree.walk follow links place (name :: rest) = tree.walk follow links (place ++ [name]) rest := by
  rw [walk_step here step, present]
  cases entry with
  | link target => exact absurd rfl (plain target)
  | directory => rfl
  | file content => rfl

theorem walk_link
    (step : IsStep name)
    (present : tree.entry? (place ++ [name]) = some (.link target))
    (goesOn : rest ≠ [] ∨ follow = true) :
    tree.walk follow (links + 1) place (name :: rest) =
      tree.walk follow links (if isRooted target then [] else place) (namesOf target ++ rest) := by
  rw [walk_step here step, present]
  exact if_neg (by rcases goesOn with some | asked <;> simp [*])

theorem walk_to_link
    (step : IsStep name)
    (present : tree.entry? (place ++ [name]) = some (.link target)) :
    tree.walk false links place [name] = .ok (place ++ [name], .link target) := by
  rw [walk_step here step, present]
  rfl

end

/-- The steps of a walk that finds something. -/
inductive Way
    (tree : FileTree Content)
    (follow : Bool) : Nat → List String → List String → List String × Entry Content → Prop where
  | stop {links : Nat} {place : List String} {entry : Entry Content} :
      tree.entry? place = some entry → Way tree follow links place [] (place, entry)
  | stay {links : Nat} {place rest : List String} {name : String} {found : List String × Entry Content} :
      tree.entry? place = some .directory → name = "" ∨ name = "." →
        Way tree follow links place rest found → Way tree follow links place (name :: rest) found
  | up {links : Nat} {place rest : List String} {found : List String × Entry Content} :
      tree.entry? place = some .directory →
        Way tree follow links place.dropLast rest found → Way tree follow links place (".." :: rest) found
  | down {links : Nat} {place rest : List String} {name : String} {entry : Entry Content}
      {found : List String × Entry Content} :
      tree.entry? place = some .directory → IsStep name →
        tree.entry? (place ++ [name]) = some entry → (∀ target, entry ≠ .link target) →
          Way tree follow links (place ++ [name]) rest found →
            Way tree follow links place (name :: rest) found
  | through {links : Nat} {place rest : List String} {name target : String}
      {found : List String × Entry Content} :
      tree.entry? place = some .directory → IsStep name →
        tree.entry? (place ++ [name]) = some (.link target) → rest ≠ [] ∨ follow = true →
          Way tree follow links (if isRooted target then [] else place) (namesOf target ++ rest) found →
            Way tree follow (links + 1) place (name :: rest) found
  | last {links : Nat} {place : List String} {name target : String} :
      tree.entry? place = some .directory → IsStep name →
        tree.entry? (place ++ [name]) = some (.link target) → follow = false →
          Way tree follow links place [name] (place ++ [name], .link target)

/-- A walk finds something by its steps. -/
theorem walk_eq_ok_iff
    {follow : Bool}
    {links : Nat}
    {place names : List String}
    {found : List String × Entry Content} :
    tree.walk follow links place names = .ok found ↔ tree.Way follow links place names found := by
  constructor
  · intro walked
    fun_induction walk tree follow links place names with
    | case1 links place entry present =>
        cases walked
        exact .stop present
    | case6 links place name rest here stays ih => exact .stay here (by simpa using stays) (ih walked)
    | case7 links place rest here stays ih => exact .up here (ih walked)
    | case10 links place name rest here moves down short target present last =>
        obtain ⟨rfl, asked⟩ : rest = [] ∧ follow = false := by simpa using last
        cases walked
        exact .last here ⟨by simpa using moves, down, Nat.not_lt.mp short⟩ present asked
    | case12 place name rest here moves down short target present goesOn links ih =>
        refine .through here ⟨by simpa using moves, down, Nat.not_lt.mp short⟩ present ?_ (ih walked)
        cases follow
        · exact .inl (by simpa using goesOn)
        · exact .inr rfl
    | case13 links place name rest here moves down short entry plain present ih =>
        exact .down here ⟨by simpa using moves, down, Nat.not_lt.mp short⟩ present plain (ih walked)
    | _ => cases walked
  · intro way
    induction way with
    | stop present => rw [walk, present]
    | stay here stays _ ih => rw [walk_stay here stays, ih]
    | up here _ ih => rw [walk_up here, ih]
    | down here step present plain _ ih => rw [walk_down here step present plain, ih]
    | through here step present goesOn _ ih => rw [walk_link here step present goesOn, ih]
    | last here step present asked =>
        subst asked
        exact walk_to_link here step present

namespace Way

variable {follow : Bool}
variable {links : Nat}
variable {place names last : List String}
variable {found : List String × Entry Content}

/-- A way to a directory starts at one. -/
theorem start
    (way : tree.Way follow links place names (last, .directory)) :
    tree.entry? place = some .directory := by
  cases way <;> assumption

/-- What is found by following a link at the end is found without following it, if only as the link. -/
theorem unfollowed
    (way : tree.Way true links place names found) :
    ∃ found, tree.Way false links place names found := by
  induction way with
  | stop present => exact ⟨_, .stop present⟩
  | stay here stays _ ih =>
      obtain ⟨found, onward⟩ := ih
      exact ⟨found, .stay here stays onward⟩
  | up here _ ih =>
      obtain ⟨found, onward⟩ := ih
      exact ⟨found, .up here onward⟩
  | down here step present plain _ ih =>
      obtain ⟨found, onward⟩ := ih
      exact ⟨found, .down here step present plain onward⟩
  | @through _ _ rest _ _ _ here step present _ _ ih =>
      by_cases alone : rest = []
      · subst alone
        exact ⟨_, .last here step present rfl⟩
      · obtain ⟨found, onward⟩ := ih
        exact ⟨found, .through here step present (.inl alone) onward⟩
  | last _ _ _ asked => cases asked

/-- A way that ends at a directory goes on with the names that follow. -/
theorem append
    (way : tree.Way true links place names (last, .directory)) :
    ∃ left, ∀ follow rest, rest ≠ [] →
      tree.walk follow links place (names ++ rest) = tree.walk follow left last rest := by
  generalize ends : (last, Entry.directory) = found at way
  induction way with
  | stop present =>
      cases ends
      exact ⟨_, fun _ _ _ => rfl⟩
  | stay here stays _ ih =>
      obtain ⟨left, onward⟩ := ih ends
      exact ⟨left, fun follow rest some => (walk_stay here stays).trans (onward follow rest some)⟩
  | up here _ ih =>
      obtain ⟨left, onward⟩ := ih ends
      exact ⟨left, fun follow rest some => (walk_up here).trans (onward follow rest some)⟩
  | down here step present plain _ ih =>
      obtain ⟨left, onward⟩ := ih ends
      exact ⟨left, fun follow rest some =>
        (walk_down here step present plain).trans (onward follow rest some)⟩
  | through here step present _ _ ih =>
      obtain ⟨left, onward⟩ := ih ends
      refine ⟨left, fun follow rest some => ?_⟩
      have goesOn := onward follow rest some
      rw [List.append_assoc] at goesOn
      exact (walk_link here step present (.inl (List.append_ne_nil_of_right_ne_nil _ some))).trans goesOn
  | last _ _ _ asked => cases asked

end Way

/-! ## Names that stay -/

/-- Names, and those that are kept of them; a name that is left out stays where it is. -/
inductive Drops : List String → List String → Prop where
  | nil : Drops [] []
  | keep {names kept : List String} (name : String) :
      Drops names kept → Drops (name :: names) (name :: kept)
  | drop {names kept : List String} {name : String} :
      name = "" ∨ name = "." → Drops names kept → Drops (name :: names) kept

namespace Drops

variable {names kept : List String}

theorem refl :
    ∀ names : List String, Drops names names
  | [] => .nil
  | name :: rest => .keep name (refl rest)

theorem append
    (front : List String)
    (drops : Drops names kept) :
    Drops (front ++ names) (front ++ kept) := by
  induction front with
  | nil => exact drops
  | cons name rest ih => exact .keep name ih

/-- All names that stay can be left out. -/
theorem filter :
    ∀ names : List String, Drops names (names.filter fun name => !(name = "" || name = "."))
  | [] => .nil
  | name :: rest => by
      by_cases stays : name = "" ∨ name = "."
      · rw [List.filter_cons_of_neg (by rcases stays with rfl | rfl <;> simp)]
        exact .drop stays (filter rest)
      · rw [List.filter_cons_of_pos (by simpa using stays)]
        exact .keep name (filter rest)

end Drops

/-- Without names that stay, a way leads to where it has led; a link at its end may be left to be followed. -/
theorem Way.drop
    {links : Nat}
    {place names kept : List String}
    {found : List String × Entry Content}
    (way : tree.Way false links place names found)
    (drops : Drops names kept) :
    tree.walk true links place kept = tree.walk true links place names ∧
      ∃ found, tree.Way false links place kept found := by
  induction way generalizing kept with
  | stop present =>
      cases drops
      exact ⟨rfl, _, .stop present⟩
  | stay here stays _ ih =>
      cases drops with
      | keep name drops =>
          obtain ⟨same, found, onward⟩ := ih drops
          exact ⟨by rw [walk_stay here stays, walk_stay here stays, same], found, .stay here stays onward⟩
      | drop _ drops =>
          obtain ⟨same, onward⟩ := ih drops
          exact ⟨by rw [walk_stay here stays, same], onward⟩
  | up here _ ih =>
      cases drops with
      | keep name drops =>
          obtain ⟨same, found, onward⟩ := ih drops
          exact ⟨by rw [walk_up here, walk_up here, same], found, .up here onward⟩
      | drop stays => simp at stays
  | down here step present plain _ ih =>
      cases drops with
      | keep name drops =>
          obtain ⟨same, found, onward⟩ := ih drops
          refine ⟨?_, found, .down here step present plain onward⟩
          rw [walk_down here step present plain, walk_down here step present plain, same]
      | drop stays => exact absurd stays step.moves
  | through here step present _ _ ih =>
      cases drops with
      | @keep _ kept name drops =>
          obtain ⟨same, found, onward⟩ := ih (drops.append _)
          refine ⟨?_, ?_⟩
          · rw [walk_link here step present (.inr rfl), walk_link here step present (.inr rfl), same]
          · by_cases alone : kept = []
            · subst alone
              exact ⟨_, .last here step present rfl⟩
            · exact ⟨found, .through here step present (.inl alone) onward⟩
      | drop stays => exact absurd stays step.moves
  | last here step present _ =>
      cases drops with
      | keep name drops =>
          cases drops
          exact ⟨rfl, _, .last here step present rfl⟩
      | drop stays => exact absurd stays step.moves

/-- Names that stay can be put back in front of a name that is kept. -/
theorem Drops.inFront
    {follow : Bool}
    {links : Nat}
    {place names kept : List String}
    {name : String}
    (here : tree.entry? place = some .directory)
    (drops : Drops names (name :: kept)) :
    ∃ rest, Drops rest kept ∧
      ∀ found, tree.Way follow links place (name :: rest) found → tree.Way follow links place names found := by
  generalize shape : name :: kept = whole at drops
  induction drops with
  | nil => cases shape
  | @keep rest _ _ drops =>
      cases shape
      exact ⟨rest, drops, fun _ way => way⟩
  | drop stays _ ih =>
      obtain ⟨rest, drops, onward⟩ := ih shape
      exact ⟨rest, drops, fun found way => .stay here stays (onward found way)⟩

/-- Names that stay can be put back on the way to a directory. -/
theorem Way.putBack
    {links : Nat}
    {place names kept last : List String}
    (way : tree.Way true links place kept (last, .directory))
    (drops : Drops names kept) :
    tree.Way true links place names (last, .directory) := by
  generalize ends : (last, Entry.directory) = found at way
  induction way generalizing names with
  | stop present =>
      cases ends
      generalize none : [] = kept at drops
      induction drops with
      | nil => exact .stop present
      | keep => cases none
      | drop stays _ ih => exact .stay present stays (ih none)
  | stay here stays _ ih =>
      obtain ⟨rest, drops, onward⟩ := drops.inFront here
      exact onward _ (.stay here stays (ih drops ends))
  | up here _ ih =>
      obtain ⟨rest, drops, onward⟩ := drops.inFront here
      exact onward _ (.up here (ih drops ends))
  | down here step present plain _ ih =>
      obtain ⟨rest, drops, onward⟩ := drops.inFront here
      exact onward _ (.down here step present plain (ih drops ends))
  | through here step present _ _ ih =>
      obtain ⟨rest, drops, onward⟩ := drops.inFront here
      exact onward _ (.through here step present (.inr rfl) (ih (drops.append _) ends))
  | last _ _ _ asked => cases asked

/-! ## Ways up -/

/-- A place to which directories lead straight down. -/
inductive Straight (tree : FileTree Content) : List String → Prop where
  | root : Straight tree []
  | down {place : List String} {name : String} :
      Straight tree place → IsStep name → tree.entry? (place ++ [name]) = some .directory →
        Straight tree (place ++ [name])

namespace Straight

variable {place : List String}

theorem directory
    (straight : tree.Straight place) :
    tree.entry? place = some .directory := by
  cases straight with
  | root => rfl
  | down _ _ present => exact present

theorem dropLast
    (straight : tree.Straight place) :
    tree.Straight place.dropLast := by
  cases straight with
  | root => exact .root
  | down above => rwa [List.dropLast_concat]

/-- A walk along directories comes to the place that they lead to. -/
theorem walk_append
    (straight : tree.Straight place)
    (follow : Bool)
    (links : Nat)
    (rest : List String) :
    tree.walk follow links [] (place ++ rest) = tree.walk follow links place rest := by
  induction straight generalizing rest with
  | root => rfl
  | @down place name above step present ih =>
      rw [List.append_assoc, ih]
      exact walk_down above.directory step present nofun

end Straight

/-- A walk to a directory that follows no link goes straight down and up, and can be gone by any walk. -/
theorem Way.unlinked
    {place names last : List String}
    (straight : tree.Straight place)
    (way : tree.Way true 0 place names (last, .directory)) :
    tree.Straight last ∧ last = spell place names ∧
      ∀ follow links rest, tree.walk follow links place (names ++ rest) = tree.walk follow links last rest := by
  generalize none : 0 = links at way
  generalize ends : (last, Entry.directory) = found at way
  induction way with
  | stop present =>
      cases ends
      exact ⟨straight, rfl, fun _ _ _ => rfl⟩
  | stay here stays _ ih =>
      obtain ⟨below, shape, onward⟩ := ih straight none ends
      refine ⟨below, ?_, fun follow links rest => (walk_stay here stays).trans (onward follow links rest)⟩
      rw [shape, spell, spell, List.foldl_cons, if_pos (by simpa using stays)]
  | up here _ ih =>
      obtain ⟨below, shape, onward⟩ := ih straight.dropLast none ends
      exact ⟨below, shape, fun follow links rest => (walk_up here).trans (onward follow links rest)⟩
  | down here step present plain way ih =>
      cases ends
      have under := straight.down step way.start
      obtain ⟨below, shape, onward⟩ := ih under none rfl
      refine ⟨below, ?_, fun follow links rest =>
        (walk_down here step present plain).trans (onward follow links rest)⟩
      rw [shape, spell, spell, List.foldl_cons, if_neg (by simpa using step.moves), if_neg step.down]
  | through => cases none
  | last _ _ _ asked => cases asked

/-- A walk goes up only from directories to which it has followed no link. -/
def ClimbsUnlinked
    (tree : FileTree Content)
    (names : List String) : Prop :=
  ∀ front back, names = front ++ ".." :: back →
    ∃ place, tree.walk true 0 [] front = .ok (place, .directory)

/-- A way that goes on has come to a directory. -/
theorem Way.front
    {follow : Bool}
    {links : Nat}
    {place front back : List String}
    {name : String}
    {found : List String × Entry Content}
    (way : tree.Way follow links place (front ++ name :: back) found) :
    ∃ last, tree.Way true links place front (last, .directory) := by
  generalize whole : front ++ name :: back = names at way
  induction way generalizing front with
  | stop => simp at whole
  | stay here stays _ ih =>
      cases front with
      | nil => exact ⟨_, .stop here⟩
      | cons =>
          cases whole
          obtain ⟨last, onward⟩ := ih rfl
          exact ⟨last, .stay here stays onward⟩
  | up here _ ih =>
      cases front with
      | nil => exact ⟨_, .stop here⟩
      | cons =>
          cases whole
          obtain ⟨last, onward⟩ := ih rfl
          exact ⟨last, .up here onward⟩
  | down here step present plain _ ih =>
      cases front with
      | nil => exact ⟨_, .stop here⟩
      | cons =>
          cases whole
          obtain ⟨last, onward⟩ := ih rfl
          exact ⟨last, .down here step present plain onward⟩
  | through here step present _ _ ih =>
      cases front with
      | nil => exact ⟨_, .stop here⟩
      | cons =>
          cases whole
          obtain ⟨last, onward⟩ := ih (List.append_assoc _ _ _)
          exact ⟨last, .through here step present (.inr rfl) onward⟩
  | last here =>
      cases front with
      | nil => exact ⟨_, .stop here⟩
      | cons => simp at whole

/-- If no link leads to a directory, then a way to one follows none. -/
theorem Way.linkless
    (plain : tree.LinksNoDirectory)
    {links : Nat}
    {place names last : List String}
    (way : tree.Way true links place names (last, .directory)) :
    tree.Way true 0 place names (last, .directory) := by
  generalize ends : (last, Entry.directory) = found at way
  induction way with
  | stop present => exact .stop present
  | stay here stays _ ih => exact .stay here stays (ih ends)
  | up here _ ih => exact .up here (ih ends)
  | down here step present other _ ih => exact .down here step present other (ih ends)
  | through _ _ present _ way =>
      cases ends
      obtain ⟨middle, -, led, -⟩ := walk_of_append (walk_eq_ok_iff.mpr way)
      exact absurd led (plain _ _ _ _ _ present)
  | last _ _ _ asked => cases asked

/-- If no link leads to a directory, then no way goes up behind one. -/
theorem Way.climbsUnlinked
    (plain : tree.LinksNoDirectory)
    {follow : Bool}
    {links : Nat}
    {names : List String}
    {found : List String × Entry Content}
    (way : tree.Way follow links [] names found) :
    tree.ClimbsUnlinked names := by
  rintro front back rfl
  obtain ⟨last, above⟩ := way.front
  exact ⟨last, walk_eq_ok_iff.mpr (above.linkless plain)⟩

/-- Names that do not lead up lead straight down, but for those that stay. -/
theorem spell_of_low
    {names : List String}
    (low : ".." ∉ names)
    (place : List String) :
    spell place names = place ++ names.filter fun name => !(name = "" || name = ".") := by
  induction names generalizing place with
  | nil => exact (List.append_nil place).symm
  | cons name rest ih =>
      rw [List.mem_cons, not_or] at low
      obtain ⟨down, others⟩ := low
      by_cases stays : name = "" ∨ name = "."
      · rw [List.filter_cons_of_neg (by rcases stays with rfl | rfl <;> simp), ← ih others]
        rw [spell, spell, List.foldl_cons, if_pos (by simpa using stays)]
      · rw [List.filter_cons_of_pos (by simpa using stays), List.append_cons, ← ih others]
        rw [spell, spell, List.foldl_cons, if_neg (by simpa using stays), if_neg (Ne.symm down)]

/-- Names lead up for a last time, or not at all. -/
theorem exists_last_up
    (names : List String) :
    ".." ∉ names ∨ ∃ front back, names = front ++ ".." :: back ∧ ".." ∉ back := by
  induction names with
  | nil => exact .inl List.not_mem_nil
  | cons name rest ih =>
      rcases ih with low | ⟨front, back, shape, low⟩
      · by_cases up : name = ".."
        · exact .inr ⟨[], rest, by rw [up, List.nil_append], low⟩
        · exact .inl (by simpa [Ne.symm up] using low)
      · exact .inr ⟨name :: front, back, by rw [shape, List.cons_append], low⟩

/-- Where a walk goes up only from directories without links, what the names spell leads to where they lead. -/
theorem Way.spelled
    {names : List String}
    (climbs : tree.ClimbsUnlinked names)
    {found : List String × Entry Content}
    (way : tree.Way false linkLimit [] names found) :
    tree.walk true linkLimit [] (spell [] names) = tree.walk true linkLimit [] names ∧
      ∃ found, tree.Way false linkLimit [] (spell [] names) found := by
  -- Behind the last name that leads up, names are only left out.
  obtain ⟨place, back, straight, low, shape, behind⟩ :
      ∃ place back, tree.Straight place ∧ ".." ∉ back ∧ spell [] names = spell place back ∧
        ∀ follow, tree.walk follow linkLimit [] names = tree.walk follow linkLimit place back := by
    rcases exists_last_up names with low | ⟨front, back, rfl, low⟩
    · exact ⟨[], names, .root, low, rfl, fun _ => rfl⟩
    · obtain ⟨last, walked⟩ := climbs front back rfl
      obtain ⟨straight, shape, onward⟩ := (walk_eq_ok_iff.mp walked).unlinked .root
      refine ⟨last.dropLast, back, straight.dropLast, low, ?_, fun follow => ?_⟩
      · rw [spell_append, ← shape]
        rfl
      · rw [onward, walk_up straight.directory]
  have short : tree.Way false linkLimit place back found := by
    rw [← walk_eq_ok_iff, ← behind, walk_eq_ok_iff]
    exact way
  obtain ⟨same, found, onward⟩ := short.drop (.filter back)
  rw [shape, spell_of_low low]
  refine ⟨?_, found, ?_⟩
  · rw [straight.walk_append, same, behind]
  · rw [← walk_eq_ok_iff, straight.walk_append, walk_eq_ok_iff]
    exact onward

end ConfigTokens.FileTree
