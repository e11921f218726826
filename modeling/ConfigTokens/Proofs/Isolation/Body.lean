import ConfigTokens.Module.Execute
import ConfigTokens.Proofs.Isolation.Couple
import ConfigTokens.Proofs.Run.Regime
/-!
# Bodies that import nothing

A body that loads by file references only does the same in both worlds of a couple, as long as the loads
that it starts do: what it reads are globals of paired modules, and never the table of modules.
-/

namespace ConfigTokens.Module

/-! ## Functions that import nothing -/

mutual

/-- The functions that a literal describes import nothing: they load by file references only. -/
def Literal.ImportsNothing : Literal → Prop
  | .list items => Literal.ItemsImportNothing items
  | .mapping members | .record members | .module members => Literal.MembersImportNothing members
  | .function _ outcome => outcome.ImportsNothing
  | .answering answer => answer.ImportsNothing
  | _ => True

/-- The functions that literals describe import nothing. -/
def Literal.ItemsImportNothing : List Literal → Prop
  | [] => True
  | item :: rest => item.ImportsNothing ∧ Literal.ItemsImportNothing rest

/-- The functions that named literals describe import nothing. -/
def Literal.MembersImportNothing : List (String × Literal) → Prop
  | [] => True
  | (_, member) :: rest => member.ImportsNothing ∧ Literal.MembersImportNothing rest

/-- A function with the outcome imports nothing, nor do those that it makes. -/
def Outcome.ImportsNothing : Outcome → Prop
  | .requires _ token => isFileReference token = true
  | .returns answer => answer.ImportsNothing
  | _ => True

end

/-- If an object is a function, it imports nothing. -/
def Object.ImportsNothing : Object → Prop
  | .function content => content.outcome.ImportsNothing
  | _ => True

/-- Two worlds in which a registry answers alike, and whose functions import nothing. -/
abbrev FileCouple
    (registry : RegistryName) : Type :=
  Couple registry Object.ImportsNothing

/-- A step imports nothing, nor do the functions that it makes. -/
def Step.FilesOnly : Step → Prop
  | .assign _ value => value.ImportsNothing
  | step => step.ImportsNothing

/-- The bodies of the site and the functions that they make import nothing. -/
def Site.FilesOnly
    (site : Site) : Prop :=
  ∀ file steps, site.program file = .ok (.steps steps) → ∀ step ∈ steps, step.FilesOnly

/-- The loads of files by two loaders match. -/
def Loader.Matches
    (registry : RegistryName)
    (loader other : Loader) : Prop :=
  ∀ (couple : FileCouple registry) base token, isFileReference token = true →
    Run.Matches couple Export.Alike (loader.require base token) (other.require base token)

variable
    {registry : RegistryName}

namespace Couple

/-! ## Values -/

theorem newModule_matches
    (couple : FileCouple registry)
    {content other : ModuleObject}
    (alike : content.Alike couple.pairs other) :
    Run.Matches couple Value.Alike
      (do
        let id ← Run.allocate (.module content)
        return .module id)
      (do
        let id ← Run.allocate (.module other)
        return .module id) :=
  (couple.allocate_matches (.module alike) trivial).bind fun _ _ paired => .pure (.module paired)

mutual

theorem build_matches :
    (literal : Literal) → literal.ImportsNothing → (couple : FileCouple registry) →
      Run.Matches couple Value.Alike literal.build literal.build
  | .null, _, _ => .pure .null
  | .bool value, _, _ => .pure (.bool value)
  | .int value, _, _ => .pure (.int value)
  | .float value, _, _ => .pure (.float value)
  | .str value, _, _ => .pure (.str value)
  | .bytes value, _, _ => .pure (.bytes value)
  | .list items, nothing, couple =>
      (buildItems_matches items nothing couple).bind fun _ _ alike => .pure (.list alike)
  | .mapping members, nothing, couple =>
      (buildMembers_matches members nothing couple).bind fun _ _ alike => .pure (.mapping alike)
  | .function log outcome, nothing, couple =>
      (couple.allocate_matches (.function ⟨log, outcome⟩) nothing).bind fun _ _ paired =>
        .pure (.function paired)
  | .answering answer, nothing, couple =>
      (build_matches answer nothing couple).bind fun _ _ alike => .pure (.answering alike)
  | .classType name, _, _ => .pure (.classType name)
  | .record attributes, nothing, couple =>
      (buildMembers_matches attributes nothing couple).bind fun _ _ alike => .pure (.record alike)
  | .module globals, nothing, couple =>
      (buildMembers_matches globals nothing couple).bind fun middle _ alike =>
        have start := ModuleObject.alike_fresh middle.pairs Literal.looseModuleName none "" none
        middle.newModule_matches ⟨start.globals.foldl_put alike, rfl, rfl, rfl⟩

theorem buildItems_matches :
    (items : List Literal) → Literal.ItemsImportNothing items → (couple : FileCouple registry) →
      Run.Matches couple Value.AlikeItems (Literal.buildItems items) (Literal.buildItems items)
  | [], _, _ => .pure .nil
  | item :: rest, ⟨own, others⟩, couple =>
      (build_matches item own couple).bind fun middle _ first =>
        (buildItems_matches rest others middle).bind fun _ grown alike =>
          .pure (.cons (first.mono grown.keeps) alike)

theorem buildMembers_matches :
    (members : List (String × Literal)) → Literal.MembersImportNothing members →
      (couple : FileCouple registry) →
        Run.Matches couple Value.AlikeMembers (Literal.buildMembers members)
          (Literal.buildMembers members)
  | [], _, _ => .pure .nil
  | (name, member) :: rest, ⟨own, others⟩, couple =>
      (build_matches member own couple).bind fun middle _ first =>
        (buildMembers_matches rest others middle).bind fun _ grown alike =>
          .pure (.cons name (first.mono grown.keeps) alike)

end

variable
    (couple : FileCouple registry)

/-- A global of paired modules. -/
theorem global?_rel
    {id twin : ObjectId}
    (paired : couple.pairs id twin)
    (name : String) :
    Option.Rel (Value.Alike couple.pairs) ((couple.left.module? id).bind (·.globals.lookup name))
      ((couple.right.module? twin).bind (·.globals.lookup name)) :=
  global?_rel_of_module? (couple.module?_rel paired) name

theorem attribute?_rel
    {value other : Value}
    (alike : value.Alike couple.pairs other)
    (name : String) :
    Option.Rel (Value.Alike couple.pairs) (attribute? couple.left value name)
      (attribute? couple.right other name) := by
  have given := alike.typeAttribute?_rel name
  cases alike with
  | module paired => exact attribute?_rel_of_module? (couple.module?_rel paired) paired name
  | record attributes => exact recordAttribute?_rel attributes name
  | _ => exact given

theorem attributeOwner_eq
    {value other : Value}
    (alike : value.Alike couple.pairs other) :
    attributeOwner couple.left value = attributeOwner couple.right other := by
  have named := alike.typeName_eq
  cases alike with
  | module paired => exact attributeOwner_eq_of_module? (couple.module?_rel paired)
  | bound name owner => exact congrArg AttributeOwner.instanceOf named
  | _ => rfl

/-! ## Reading -/

theorem global_matches
    {self other : ObjectId}
    (own : couple.pairs self other)
    (name : String) :
    Run.Matches couple Value.Alike (Body.global self name) (Body.global other name) := by
  have found := (couple.moduleAt_alike own).globals.lookup name
  refine .bind_of_ok (Run.moduleOf_apply self couple.left) (Run.moduleOf_apply other couple.right) ?_
  generalize (couple.left.moduleAt self).globals.lookup name = left at found
  generalize (couple.right.moduleAt other).globals.lookup name = right at found
  cases found with
  | none => exact .throw _
  | some alike => exact .pure alike

theorem member_matches
    {value other : Value}
    (alike : value.Alike couple.pairs other)
    (name : String) :
    Run.Matches couple Value.Alike (Body.member value name) (Body.member other name) := by
  have found := couple.attribute?_rel alike name
  have owner := couple.attributeOwner_eq alike
  refine .bind_of_ok (Run.get_apply couple.left) (Run.get_apply couple.right) ?_
  generalize attribute? couple.left value name = left at found
  generalize attribute? couple.right other name = right at found
  cases found with
  | none =>
      dsimp only
      rw [owner]
      exact .throw _
  | some alike => exact .pure alike

theorem members_match
    {value other : Value}
    (alike : value.Alike couple.pairs other)
    (members : List String) :
    Run.Matches couple Value.Alike (members.foldlM Body.member value)
      (members.foldlM Body.member other) := by
  induction members generalizing couple value other with
  | nil => exact .pure alike
  | cons member rest ih =>
      rw [List.foldlM_cons, List.foldlM_cons]
      exact (couple.member_matches alike member).bind fun middle _ found => ih middle found

/-! ## Steps -/

section Steps

variable
    {loader other : Loader}
    (loads : loader.Matches registry other)
    {self twin : ObjectId}
    (own : couple.pairs self twin)

include loads own

theorem require_matches
    {token : String}
    (reference : isFileReference token = true) :
    Run.Matches couple Value.Alike (Body.require loader self token)
      (Body.require other twin token) := by
  have file : (couple.left.moduleAt self).file? = (couple.right.moduleAt twin).file? :=
    (couple.moduleAt_alike own).text?_eq fileGlobal
  refine .bind_of_ok (Run.moduleOf_apply self couple.left) (Run.moduleOf_apply twin couple.right) ?_
  dsimp only
  rw [file]
  refine (loads couple _ token reference).bind fun middle _ alike => ?_
  exact (middle.notify_matches _ _).bind fun _ grown _ => .pure (alike.mono grown.keeps).value

theorem tryRequire_matches
    {token : String}
    (reference : isFileReference token = true) :
    Run.Matches couple Value.Alike (Body.tryRequire loader self token)
      (Body.tryRequire other twin token) := by
  refine (couple.require_matches loads own reference).tryCatch fun thrown middle _ => ?_
  split
  · exact .pure (.str _)
  · exact .throw thrown

theorem runStep_matches
    {step : Step}
    (only : step.FilesOnly) :
    Run.Matches couple Done (Body.runStep loader self step) (Body.runStep other twin step) := by
  cases step with
  | assign name literal =>
      exact (build_matches literal only couple).bind fun middle grown alike =>
        middle.setGlobal_matches (fun _ => trivial) (grown.keeps own) name alike
  | log text => exact couple.trace_matches text
  | raise className text => exact .throw _
  | require name token =>
      exact (couple.require_matches loads own only).bind fun middle grown alike =>
        middle.setGlobal_matches (fun _ => trivial) (grown.keeps own) name alike
  | tryRequire name token =>
      exact (couple.tryRequire_matches loads own only).bind fun middle grown alike =>
        middle.setGlobal_matches (fun _ => trivial) (grown.keeps own) name alike
  | peek name owner member =>
      refine (couple.global_matches own owner).bind fun middle grown alike => ?_
      have found := middle.attribute?_rel alike member
      refine .bind_of_ok (Run.get_apply middle.left) (Run.get_apply middle.right) ?_
      dsimp only
      generalize attribute? middle.left _ member = left at found
      generalize attribute? middle.right _ member = right at found
      cases found with
      | none => exact middle.setGlobal_matches (fun _ => trivial) (grown.keeps own) name .null
      | some same => exact middle.setGlobal_matches (fun _ => trivial) (grown.keeps own) name same
  | copy name source members =>
      refine (couple.global_matches own source).bind fun middle grown start => ?_
      refine (middle.members_match start members).bind fun final later alike => ?_
      exact final.setGlobal_matches (fun _ => trivial) (later.keeps (grown.keeps own)) name alike
  | fromImport name source member => exact only.elim
  | mention name =>
      exact (couple.global_matches own name).bind fun middle _ _ => .pure trivial

theorem runSteps_match
    {steps : List Step}
    (only : ∀ step ∈ steps, step.FilesOnly) :
    Run.Matches couple Done (Body.runSteps loader self steps) (Body.runSteps other twin steps) := by
  induction steps generalizing couple with
  | nil => exact .pure trivial
  | cons step rest ih =>
      refine (couple.runStep_matches loads own (only step List.mem_cons_self)).bind
        fun middle grown _ => ?_
      exact ih middle (grown.keeps own) fun next member => only next (List.mem_cons_of_mem _ member)

theorem run_matches
    {site : Site}
    (only : site.FilesOnly)
    (file : String) :
    Run.Matches couple Done (Body.run site loader self file) (Body.run site other twin file) := by
  unfold Body.run
  split
  case h_1 => exact .throw _
  case h_2 => exact .throw _
  case h_3 steps read => exact couple.runSteps_match loads own (only file steps read)

end Steps

end Couple

end ConfigTokens.Module
