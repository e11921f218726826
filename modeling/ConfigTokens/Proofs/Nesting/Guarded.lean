import ConfigTokens.Proofs.Nesting.Bound
import ConfigTokens.Proofs.Run.Call
/-!
# Guarded loads

A guarded loader is that of a site with a condition on the world at which a load begins: where it fails,
the load is one of another loader, and so are the loads that are nested too deep. If a guarded loader
ends like the loader of the site, whatever the other loaders do, then every load, however deep, begins
where the condition is true, and no load is nested too deep. `Regime.guarded_agrees` says so for what a
regime holds, `loads_begin_consistent` for the worlds in which loads begin, and `loads_nest` for the
depth of the loads.
-/

namespace ConfigTokens.Module

open scoped Classical in
/--
The loads of a site that are nested no deeper than `depth` and begin where `holds` is true. All others
are those of `other`, and of `bottom` if they are nested deeper.
-/
noncomputable def Loader.guarded
    (site : Site)
    (holds : World → Prop)
    (other bottom : Loader) : Nat → Loader
  | 0 => bottom
  | depth + 1 =>
    let loads := layer site (guarded site holds other bottom depth)
    { require := fun base token world =>
        if holds world then loads.require base token world else other.require base token world
      importModule := fun name world =>
        if holds world then loads.importModule name world else other.importModule name world }

namespace Regime

variable
    {site : Site}
    {regime : Regime site}

/-- A guarded loader agrees with that of the site if its bottom does where it is reached. -/
theorem guarded_agrees
    (permits : regime.PermitsSite)
    {holds : World → Prop}
    (covers : ∀ stage world, regime.holds stage world → holds world)
    (other : Loader)
    {bottom : Loader}
    {depth : Nat}
    {stage : Stage}
    (deepest :
      ∀ inner : Stage, inner.size = stage.size + depth →
        regime.Agrees inner bottom (.ofDepth site 0)) :
    regime.Agrees stage (.guarded site holds other bottom depth) (.ofDepth site depth) := by
  induction depth generalizing stage with
  | zero => exact deepest stage rfl
  | succ depth ih =>
      have inside :
          regime.AgreesInside stage (.guarded site holds other bottom depth) (.ofDepth site depth) :=
        fun inner grown => ih fun deep size => deepest deep (by omega)
      have agrees := layer_agrees permits inside
      constructor
      · intro base token world requires held
        let loader := Loader.layer site (.guarded site holds other bottom depth)
        have loads :
            regime.AgreesAt stage (loader.require base token)
              ((Loader.ofDepth site (depth + 1)).require base token) world :=
          agrees.require requires held
        have same :
            (Loader.guarded site holds other bottom (depth + 1)).require base token world =
              loader.require base token world :=
          if_pos (covers stage world held)
        constructor
        · exact same.trans loads.same
        · unfold Run.final
          rw [same]
          exact loads.kept
      · intro name world imports held
        have loads := agrees.importModule imports held
        have same :
            (Loader.guarded site holds other bottom (depth + 1)).importModule name world =
              (Loader.layer site (.guarded site holds other bottom depth)).importModule name world :=
          if_pos (covers stage world held)
        constructor
        · exact same.trans loads.same
        · unfold Run.final
          rw [same]
          exact loads.kept

/-- Loads that are never nested as deep as a limit agree with those of a higher one. -/
theorem deeper_agrees
    (permits : regime.PermitsSite)
    {depth : Nat}
    (more : Nat)
    {stage : Stage}
    (never : ∀ inner : Stage, stage.size + depth ≤ inner.size → ∀ world, ¬regime.holds inner world) :
    regime.Agrees stage (.ofDepth site (depth + more)) (.ofDepth site depth) := by
  induction depth generalizing stage with
  | zero =>
      have none := never stage (Nat.le_refl _)
      exact ⟨fun _ held => absurd held (none _), fun _ held => absurd held (none _)⟩
  | succ depth ih =>
      rw [Nat.succ_add]
      exact layer_agrees permits fun inner grown => ih fun deep size => never deep (by omega)

end Regime

/-! ## Consistent worlds -/

/-- The regime of worlds that are consistent with a site. -/
def Regime.consistent
    (site : Site) : Regime site where
  holds _ world := world.Consistent site
  imports _ := True
  searched := site.Searchable
  above _ _ := trivial
  push object consistent := consistent.push object
  trace _ consistent := ⟨consistent.made, consistent.searchable⟩
  note _ _ consistent := ⟨consistent.made, consistent.searchable⟩
  assign name value _ consistent := consistent.withGlobal _ name value
  mark initialising _ consistent := consistent.marked _ initialising
  search consistent tabled searches := consistent.searchable _ _ _ tabled searches
  bind last id consistent _ _ := consistent.withGlobal _ last (.module id)
  enter _ _ consistent := ⟨consistent.made, consistent.searchable⟩
  document content _ consistent _ :=
    have pushed := consistent.push (.document content)
    ⟨pushed.made, pushed.searchable⟩
  openFile isKey consistent _ := consistent.opened isKey _
  closeFile _ _ consistent := consistent
  discardFile reason _ _ consistent := consistent.discarded _ _ reason
  found parent single _ finds consistent _ := consistent.withFound single finds parent
  openImport parent single _ finds consistent _ := consistent.withFound single finds parent
  closeImport _ consistent := consistent
  failImport _ consistent := consistent.untabulate _

theorem Regime.consistent_permitsSite
    (site : Site) :
    (Regime.consistent site).PermitsSite :=
  Regime.Free.permitsSite fun _ => trivial

variable
    {site : Site}
    {world : World}

namespace World.Consistent

/-- A call at the site keeps a world consistent. -/
theorem after
    (consistent : world.Consistent site)
    {call : Call}
    (here : call.site = site) :
    (call.after world).Consistent site := by
  subst here
  let regime := Regime.consistent call.site
  have changes {world : World} {id : ObjectId} {content : FunctionObject}
      (found : world.function? id = some content) (held : regime.holds .outside world)
      (changed : FunctionObject) :
      regime.holds .outside (world.setObject id (.function changed)) :=
    World.Consistent.setFunction held found changed
  have held : regime.holds .outside world := consistent
  exact Regime.after_holds (fun _ => trivial) changes held

theorem afterCalls
    (consistent : world.Consistent site)
    {calls : List Call}
    (here : ∀ call ∈ calls, call.site = site) :
    (world.afterCalls calls).Consistent site := by
  induction calls generalizing world with
  | nil => exact consistent
  | cons call rest ih =>
      have first := consistent.after (here call List.mem_cons_self)
      exact ih first fun other member => here other (List.mem_cons_of_mem _ member)

end World.Consistent

/-! ## Loads that are nested in a request -/

/--
The loads that are nested in a request to a consistent world begin in consistent worlds: whatever other
loads there were to do elsewhere, the request ends alike.
-/
theorem loads_begin_consistent
    (consistent : world.Consistent site)
    (request : Request)
    (depth : Nat)
    (other : Loader) :
    request.load site
        (.guarded site (fun world => world.Consistent site) other (.ofDepth site 0) depth) world =
      request.load site (.ofDepth site depth) world := by
  have permits := Regime.consistent_permitsSite site
  have inside :
      (Regime.consistent site).AgreesInside .outside
        (.guarded site (fun world => world.Consistent site) other (.ofDepth site 0) depth)
        (.ofDepth site depth) :=
    fun _ _ => Regime.guarded_agrees permits (fun _ _ held => held) other
      fun inner _ => Regime.ofDepth_zero_agrees inner
  exact (Regime.request_agrees permits inside (fun _ _ => trivial) consistent).same

/-- The request refers to a file, and so do all loads of the bodies of the site. -/
def Request.LoadsFiles
    (request : Request)
    (site : Site) : Prop :=
  site.ImportsNothing ∧ ∃ reference, request.aim site = .path reference

section Bounded

variable
    {request : Request}
    (bounded : site.Regular ∨ request.LoadsFiles site)
    {depth : Nat}
    (roomy : site.bodies ≤ depth)

/-- More bodies than the bound says are never under way. -/
theorem Stage.Stands.not_of_bodies_le
    {stage : Stage}
    (many : site.bodies ≤ stage.size)
    (world : World) :
    ¬stage.Stands site world :=
  fun stands => absurd (Stage.Stands.size_lt stands) (Nat.not_lt.mpr many)

include bounded

theorem Regime.stands_permitsSite :
    (Regime.stands site).PermitsSite := by
  rcases bounded with regular | ⟨nothing, -⟩
  · exact Regime.Free.permitsSite fun _ => regular
  · exact Regime.permitsSite_of_importsNothing nothing

theorem Request.regular_of_aim_name
    (specifier : String)
    (aims : request.aim site = .name specifier) :
    site.Regular := by
  rcases bounded with regular | ⟨-, reference, path⟩
  · exact regular
  · cases aims.symm.trans path

include roomy

/--
With room for all bodies the loads that are nested in a request begin in consistent worlds and none is nested
too deep, if the site is regular or nothing is imported by name: whatever other loads there were to do, the
request ends alike.
-/
theorem loads_nest
    (consistent : world.Consistent site)
    (other bottom : Loader) :
    request.load site (.guarded site (fun world => world.Consistent site) other bottom depth) world =
      request.load site (.ofDepth site depth) world := by
  have permits := Regime.stands_permitsSite bounded
  have inside :
      (Regime.stands site).AgreesInside .outside
        (.guarded site (fun world => world.Consistent site) other bottom depth)
        (.ofDepth site depth) := by
    intro inner grown
    refine Regime.guarded_agrees permits (fun _ _ stands => stands.consistent) other
      fun deep size => ?_
    have many : site.bodies ≤ deep.size := by omega
    have never := Stage.Stands.not_of_bodies_le many
    exact ⟨fun _ held => absurd held (never _), fun _ held => absurd held (never _)⟩
  exact (Regime.request_agrees permits inside (Request.regular_of_aim_name bounded)
    (Stage.Stands.outside consistent)).same

/-- A higher limit than one with room for all bodies changes nothing. -/
theorem loads_with_room
    (consistent : world.Consistent site)
    (more : Nat) :
    request.load site (.ofDepth site (depth + more)) world =
      request.load site (.ofDepth site depth) world := by
  have permits := Regime.stands_permitsSite bounded
  have inside :
      (Regime.stands site).AgreesInside .outside (.ofDepth site (depth + more)) (.ofDepth site depth) :=
    fun inner grown => Regime.deeper_agrees permits more fun deep size =>
      Stage.Stands.not_of_bodies_le (by omega)
  exact (Regime.request_agrees permits inside (Request.regular_of_aim_name bounded)
    (Stage.Stands.outside consistent)).same

end Bounded

end ConfigTokens.Module
