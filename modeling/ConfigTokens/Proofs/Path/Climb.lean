import Mathlib.Data.List.DropRight
import Mathlib.Data.List.Infix
import Mathlib.Data.List.MinMax
import Mathlib.Order.Nat
import ConfigTokens.Proofs.Path.Composed
/-!
# How far a token climbs

A parent segment takes back the name before it, be it one of the token or one of the base. How many names of
the base a relative token takes back is seen at the beginnings of its list of segments: it is the largest
number by which parent segments exceed names in one of them. Neither the totals nor the parent segments at
the start of the token tell this number.

The names of the base but the last ones that are taken back stay, and names of the token follow. A token
that never has more parent segments than names leads to the base or below it.
-/

namespace ConfigTokens.Path

open ConfigTokens.Text

/-! ## Excess of parent segments -/

/-- A piece between slashes that leads down: not empty, and neither "." nor "..". -/
def leadsDown
    (piece : List Char) : Bool :=
  piece ≠ [] && piece ≠ here && piece ≠ parent

/-- By how many the parent segments exceed those that lead down. -/
def excess
    (pieces : List (List Char)) : Int :=
  pieces.count parent - pieces.countP leadsDown

/-- The largest excess over all beginnings of a list of pieces; the empty beginning has none. -/
def climb
    (pieces : List (List Char)) : Nat :=
  (pieces.inits.map fun front => (excess front).toNat).foldr max 0

theorem climb_le_iff
    {pieces : List (List Char)}
    {bound : Nat} :
    climb pieces ≤ bound ↔ ∀ front, front <+: pieces → excess front ≤ bound := by
  constructor
  · intro least front begins
    have among : (excess front).toNat ∈ pieces.inits.map fun front => (excess front).toNat :=
      List.mem_map.mpr ⟨front, (List.mem_inits front pieces).mpr begins, rfl⟩
    have below : (excess front).toNat ≤ climb pieces := List.le_max_of_le among (Nat.le_refl _)
    omega
  · intro all
    refine List.max_le_of_forall_le _ _ ?_
    intro number among
    obtain ⟨front, member, rfl⟩ := List.mem_map.mp among
    have below := all front ((List.mem_inits front pieces).mp member)
    omega

theorem excess_cons
    (piece : List Char)
    (rest : List (List Char)) :
    excess (piece :: rest) = excess [piece] + excess rest := by
  unfold excess
  rw [List.count_cons, List.countP_cons, List.count_cons, List.countP_cons, List.count_nil,
    List.countP_nil]
  omega

/-- A piece in front raises or lowers all other excesses, and the empty beginning stays. -/
theorem climb_cons
    (piece : List Char)
    (rest : List (List Char)) :
    climb (piece :: rest) = (excess [piece] + climb rest).toNat := by
  refine eq_of_forall_ge_iff fun bound => ?_
  rw [climb_le_iff]
  constructor
  · intro all
    have alone : excess [piece] ≤ bound := all [piece] ⟨rest, rfl⟩
    have others : climb rest ≤ (bound - excess [piece]).toNat := by
      refine climb_le_iff.mpr fun front begins => ?_
      have longer := all (piece :: front) (List.cons_prefix_cons.mpr ⟨rfl, begins⟩)
      rw [excess_cons] at longer
      omega
    omega
  · intro most front begins
    rcases List.prefix_cons_iff.mp begins with rfl | ⟨others, rfl, inner⟩
    · have none : excess [] = 0 := rfl
      omega
    · have fewer := climb_le_iff.mp (Nat.le_refl (climb rest)) others inner
      rw [excess_cons]
      omega

/-! ## Names that stay -/

/--
Following the pieces of a token takes the names back to which they climb, the innermost first, and leaves
the others. What is put on top are pieces of the token.
-/
theorem foldl_enter_eq
    (pieces place : List (List Char)) :
    ∃ added : List (List Char), added.Sublist (pieces.filter (· ≠ [])) ∧
      (pieces.filter (· ≠ [])).foldl enter place = added.reverse ++ place.drop (climb pieces) := by
  induction pieces generalizing place with
  | nil => exact ⟨[], .slnil, rfl⟩
  | cons piece rest ih =>
      rw [climb_cons]
      by_cases empty : piece = []
      · subst empty
        have level : excess [[]] = 0 := rfl
        rw [level, Int.zero_add, Int.toNat_natCast, List.filter_cons_of_neg (by simp)]
        exact ih place
      rw [List.filter_cons_of_pos (by simpa using empty), List.foldl_cons]
      by_cases stays : piece = here
      · subst stays
        have level : excess [here] = 0 := by decide
        have entered : enter place here = place := if_pos rfl
        obtain ⟨added, among, led⟩ := ih place
        rw [level, Int.zero_add, Int.toNat_natCast, entered]
        exact ⟨added, among.cons here, led⟩
      by_cases up : piece = parent
      · subst up
        have rises : excess [parent] = 1 := by decide
        have entered : enter place parent = place.tail := rfl
        have taken : (1 + (climb rest : Int)).toNat = climb rest + 1 := by omega
        obtain ⟨added, among, led⟩ := ih place.tail
        rw [rises, taken, entered, led, List.drop_tail]
        exact ⟨added, among.cons parent, rfl⟩
      · have falls : excess [piece] = -1 := by
          simp [excess, leadsDown, empty, stays, up]
        have entered : enter place piece = piece :: place := by
          simp [enter, stays, up]
        obtain ⟨added, among, led⟩ := ih (piece :: place)
        rw [falls, entered, led]
        -- The piece is on top of the names, so that it is the first one to be taken back.
        cases taken : climb rest with
        | zero =>
            refine ⟨piece :: added, among.cons_cons piece, ?_⟩
            simp
        | succ count =>
            have left : (-1 + ((count + 1 : Nat) : Int)).toNat = count := by omega
            refine ⟨added, among.cons piece, ?_⟩
            rw [left, List.drop_succ_cons]

/-- A relative token keeps the names of its base but the last ones, and adds names of its own. -/
theorem resolve_route_of_relative
    (cwd base : List Char)
    {token : List Char}
    (relative : isAbsolute token = false) :
    ∃ added : List (List Char), added.Sublist (segments token) ∧
      resolve (route cwd base token) =
        (resolve (route cwd base [])).rdrop (climb (fields '/' token)) ++ added := by
  obtain ⟨added, among, led⟩ :=
    foldl_enter_eq (fields '/' token) ((route cwd base []).foldl enter [])
  refine ⟨added, among, ?_⟩
  calc
    resolve (route cwd base token)
      = ((segments token).foldl enter ((route cwd base []).foldl enter [])).reverse := by
        rw [route_of_relative cwd base relative, resolve, List.foldl_append]
    _ = (((route cwd base []).foldl enter []).drop (climb (fields '/' token))).reverse ++ added := by
        rw [segments, led, List.reverse_append, List.reverse_reverse]
    _ = (resolve (route cwd base [])).rdrop (climb (fields '/' token)) ++ added := by
        rw [List.rdrop_eq_reverse_drop_reverse, resolve, List.reverse_reverse]

/-! ## Anchored paths -/

/--
A relative token, anchored to any base:

* The names of the base stay, except for as many of the last ones as the token climbs, or all of them if
  there are fewer. Names of the token follow, in their order.
* If no beginning of the token has more parent segments than names, then all names of the base stay: the
  token leads to the base or below it.
-/
theorem anchorText_climbs
    {cwd : String}
    (rooted : isAbsolute cwd.toList = true)
    (base : String)
    {token : String}
    (relative : isAbsolute token.toList = false) :
    (∃ added : List (List Char), added.Sublist (segments token.toList) ∧
      segments (anchorText cwd base token).toList =
        (segments (anchorText cwd base "").toList).rdrop (climb (fields '/' token.toList)) ++ added) ∧
      ((∀ front, front <+: fields '/' token.toList → front.count parent ≤ front.countP leadsDown) →
        segments (anchorText cwd base "").toList <+: segments (anchorText cwd base token).toList) := by
  have names (token : String) :
      segments (anchorText cwd base token).toList =
        resolve (route cwd.toList base.toList token.toList) := by
    rw [anchorText, String.toList_ofList, segments_anchor rooted]
  obtain ⟨added, among, led⟩ := resolve_route_of_relative cwd.toList base.toList relative
  have home : ("" : String).toList = [] := rfl
  rw [names token, names "", home]
  refine ⟨⟨added, among, led⟩, fun held => ?_⟩
  have level : climb (fields '/' token.toList) = 0 := by
    refine Nat.le_zero.mp (climb_le_iff.mpr fun front begins => ?_)
    have fewer := held front begins
    unfold excess
    omega
  rw [led, level, List.rdrop_zero]
  exact List.prefix_append _ added

/-- A token with as many parent segments as names in all, but two more at one point, and one that never
has more of them. -/
theorem anchorText_climbs_between :
    isAbsolute "/".toList = true ∧
      isAbsolute "x/../../.././/y/z".toList = false ∧
      climb (fields '/' "x/../../.././/y/z".toList) = 2 ∧
      anchorText "/" "/u/v/w" "x/../../.././/y/z" = "/u/y/z" ∧
      (∃ added : List (List Char), added.Sublist (segments "x/../../.././/y/z".toList) ∧
        segments "/u/y/z".toList = ["u".toList] ++ added) ∧
      isAbsolute "x/y/../../z".toList = false ∧
      (∀ front, front <+: fields '/' "x/y/../../z".toList →
        front.count parent ≤ front.countP leadsDown) ∧
      segments "/u/v/w".toList <+: segments (anchorText "/" "/u/v/w" "x/y/../../z").toList := by
  have rooted : isAbsolute "/".toList = true := by decide
  have relative : isAbsolute "x/../../.././/y/z".toList = false := by decide
  have height : climb (fields '/' "x/../../.././/y/z".toList) = 2 := by decide
  have home : anchorText "/" "/u/v/w" "" = "/u/v/w" := by decide
  have answer : anchorText "/" "/u/v/w" "x/../../.././/y/z" = "/u/y/z" := by decide
  have left : (segments "/u/v/w".toList).rdrop 2 = ["u".toList] := by decide
  have climbing := (anchorText_climbs rooted "/u/v/w" relative).1
  rw [home, height, answer, left] at climbing
  have level : isAbsolute "x/y/../../z".toList = false := by decide
  have beginnings :
      ∀ front ∈ (fields '/' "x/y/../../z".toList).inits,
        front.count parent ≤ front.countP leadsDown := by
    decide
  have held :
      ∀ front, front <+: fields '/' "x/y/../../z".toList →
        front.count parent ≤ front.countP leadsDown :=
    fun front begins => beginnings front ((List.mem_inits front _).mpr begins)
  have staying := (anchorText_climbs rooted "/u/v/w" level).2 held
  rw [home] at staying
  exact ⟨rooted, relative, height, answer, climbing, level, held, staying⟩

end ConfigTokens.Path
