import ConfigTokens.Proofs.Registry.Aim
import Mathlib.Logic.Equiv.List
/-!
# Makings

What the load of a file makes can be told without a world. The objects of a file are numbered by their
places: the path of the file and the order in which its body makes them. A making is a body that is read
in this way. It knows the objects of its own file, and of the files that it requires it knows their
meanings; if one of them has none, as on a cycle, then the making has no end either.
-/

namespace ConfigTokens.Module

/-! ## Places -/

/-- The number of an object that is made for a file, in whatever world. -/
def place
    (file : String)
    (index : Nat) : ObjectId :=
  Nat.pair (Encodable.encode (file.toList.map Char.toNat)) index

/-- The file of a place. -/
def placeFile
    (id : ObjectId) : String :=
  let codes : Option (List Nat) := Encodable.decode id.unpair.1
  String.ofList ((codes.getD []).map Char.ofNat)

/-- The position of a place among those of its file. -/
def placeIndex
    (id : ObjectId) : Nat :=
  id.unpair.2

@[simp]
theorem placeFile_place
    (file : String)
    (index : Nat) :
    placeFile (place file index) = file := by
  have codes : (file.toList.map Char.toNat).map Char.ofNat = file.toList := by
    simp [Function.comp_def]
  simp [placeFile, place, codes]

@[simp]
theorem placeIndex_place
    (file : String)
    (index : Nat) :
    placeIndex (place file index) = index := by
  simp [placeIndex, place]

/-! ## Meanings -/

/-- What a load makes or why it fails, and the files that are loaded for it and stay. -/
structure Meaning (α : Type) where
  result : Except Thrown α
  files : List String

/-- What is known of the loads of files: the objects that they make, the module first. -/
abbrev Meanings :=
  String → Option (Meaning (Array Object))

/-- The export of a file with its objects. -/
def exportAt
    (file : String)
    (objects : Array Object) : Export :=
  match isDocument file, (objects[0]? : Option Object) with
  | true, some (.document content) => .data (place file 0) content
  | _, _ => .module (place file 0)

theorem id_exportAt
    (file : String)
    (objects : Array Object) :
    (exportAt file objects).id = place file 0 := by
  unfold exportAt
  split <;> rfl

namespace Meaning

variable {α : Type}

/-- The same load, where a failure has another context. -/
def relabel
    (change : Context → Context)
    (meaning : Meaning α) : Meaning α :=
  ⟨meaning.result.mapError (Thrown.relabel change), meaning.files⟩

/-- The answer of a registry to whoever asks for a file. -/
def answer
    (file : String)
    (meaning : Meaning (Array Object)) : Meaning Export :=
  ⟨meaning.result.map (exportAt file), meaning.files⟩

end Meaning

/-- The object at a place, as far as meanings are known. -/
def Meanings.object?
    (meanings : Meanings)
    (id : ObjectId) : Option Object :=
  match meanings (placeFile id) with
  | some ⟨.ok objects, _⟩ => objects[placeIndex id]?
  | _ => none

/-- The error of a path that stands for no file. -/
def notFoundError
    (path : String) : Thrown :=
  .reported (.notFound path) <|
    .withDetails (.object [("candidates_tried", .array ((candidates path).map Json.str))])

/-- The context that the handler of a token adds to a failure. -/
def tokenContext
    (handler base token : String)
    (context : Context) : Context :=
  { context with handler := some handler, token := some token, baseDir := some base }

/-- What an aim stands for, where meanings are known of files only. -/
def Aim.meaning?
    (site : Site)
    (meanings : Meanings) : Aim → Option (Meaning Export)
  | .path reference =>
    match site.findFile reference with
    | none => some ⟨.error (notFoundError reference), []⟩
    | some file => (meanings (site.key file)).map (Meaning.answer (site.key file))
  | .name _ => none

/-- What a token stands for. -/
def Site.tokenMeaning?
    (site : Site)
    (meanings : Meanings)
    (base token : String) : Option (Meaning Export) :=
  ((Aim.ofToken site base token).meaning? site meanings).map <|
    Meaning.relabel (tokenContext requireHandler (Path.absoluteText site.cwdText base) token)

/-! ## Computations of makings -/

/-- What a body has made: a world of its own objects only, and the files that were loaded for it. -/
structure Draft where
  own : World
  files : List String

/-- The object at a place: one of the draft, or one that has a meaning. -/
def Draft.object?
    (draft : Draft)
    (meanings : Meanings)
    (file : String)
    (id : ObjectId) : Option Object :=
  if placeFile id = file then draft.own.objects[placeIndex id]? else meanings.object? id

/-- A computation on a draft. It has no end if something that it needs has no meaning. -/
abbrev Making :=
  ExceptT Thrown (StateT Draft Option)

/-- A world that has an object under an identity. -/
def World.holding
    (id : ObjectId)
    (object : Object) : World :=
  { empty with objects := (Array.replicate id object).push object }

theorem World.getElem?_holding
    (id : ObjectId)
    (object : Object) :
    (holding id object).objects[id]? = some object := by
  have last : (Array.replicate id object).size = id := Array.size_replicate
  unfold holding
  rw [Array.getElem?_push, if_pos last.symm]

namespace Making

/-- A computation on the objects of the file itself. -/
def own
    {α : Type}
    (run : Run α) : Making α := fun draft =>
  match run draft.own with
  | .ok value own => some (.ok value, { draft with own })
  | .error thrown own => some (.error thrown, { draft with own })

/-- What a token stands for, with the files that are loaded for it. -/
def take
    (meaning? : Option (Meaning Export)) : Making Export := fun draft =>
  meaning?.map fun meaning => (meaning.result, { draft with files := draft.files ++ meaning.files })

section Literals

variable
    (file : String)

/-- Makes an object. -/
def allocate
    (object : Object) : Making ObjectId := do
  let index ← own (Run.allocate object)
  return place file index

mutual

/-- Makes the value of a literal. -/
def build : Literal → Making Value
  | .null => pure .null
  | .bool value => pure (.bool value)
  | .int value => pure (.int value)
  | .float value => pure (.float value)
  | .str value => pure (.str value)
  | .bytes value => pure (.bytes value)
  | .list items => do
    let items ← buildItems items
    return .list items
  | .mapping members => do
    let members ← buildMembers members
    return .mapping members
  | .function log outcome => do
    let id ← allocate file (.function ⟨log, outcome⟩)
    return .function id
  | .answering answer => do
    let answer ← build answer
    return .answering answer
  | .classType name => pure (.classType name)
  | .record attributes => do
    let attributes ← buildMembers attributes
    return .record attributes
  | .module globals => do
    let globals ← buildMembers globals
    let start := ModuleObject.fresh Literal.looseModuleName none "" none
    let all := globals.foldl (fun all entry => Assoc.put all entry.1 entry.2) start.globals
    let id ← allocate file (.module { start with globals := all })
    return .module id

/-- Makes the values of literals in order. -/
def buildItems : List Literal → Making (List Value)
  | [] => pure []
  | item :: rest => do
    let item ← build item
    let rest ← buildItems rest
    return item :: rest

/-- Makes the values of named literals in order. -/
def buildMembers : List (String × Literal) → Making (List (String × Value))
  | [] => pure []
  | (name, member) :: rest => do
    let member ← build member
    let rest ← buildMembers rest
    return (name, member) :: rest

end

end Literals

section Bodies

variable
    (site : Site)
    (meanings : Meanings)
    (file : String)

/-- A world in which a value has the attributes that it has. -/
def scene
    (value : Value) : Making World := fun draft =>
  match value with
  | .module id =>
    (draft.object? meanings file id).map fun object => (.ok (.holding id object), draft)
  | _ => some (.ok .empty, draft)

/-- An attribute of a value. -/
def attributeOf
    (value : Value)
    (name : String) : Making (Option Value) := do
  let world ← scene meanings file value
  return attribute? world value name

/-- An attribute of a value that must be there. -/
def member
    (value : Value)
    (name : String) : Making Value := do
  let world ← scene meanings file value
  match attribute? world value name with
  | some found => return found
  | none => throw (.unknownAttribute (attributeOwner world value) name)

/-- What a token beside the file stands for. -/
def require
    (token : String) : Making Value := do
  let content ← own (Run.moduleOf 0)
  let base := Path.directoryText (content.file?.getD "")
  let answer ← take (site.tokenMeaning? meanings base token)
  return answer.value

/-- The same as `require`; a failure becomes its code. -/
def tryRequire
    (token : String) : Making Value :=
  tryCatch (require site meanings token) fun thrown =>
    if thrown.isOrdinary then return .str (Body.failureCode thrown) else throw thrown

/-- Sets a global of the module of the file. -/
def setGlobal
    (name : String)
    (value : Value) : Making Unit :=
  own (Run.setGlobal 0 name value)

/-- Runs one step. Members of packages have no meaning. -/
def runStep : Step → Making Unit
  | .assign name literal => do
    let value ← build file literal
    setGlobal name value
  | .log text => own (Run.trace text)
  | .raise className text => throw (.raised className text)
  | .require name token => do
    let value ← require site meanings token
    setGlobal name value
  | .tryRequire name token => do
    let value ← tryRequire site meanings token
    setGlobal name value
  | .peek name owner member => do
    let owner ← own (Body.global 0 owner)
    let found ← attributeOf meanings file owner member
    setGlobal name (found.getD .null)
  | .copy name source members => do
    let start ← own (Body.global 0 source)
    let value ← members.foldlM (member meanings file) start
    setGlobal name value
  | .fromImport .. => fun _ => none
  | .mention name => discard (own (Body.global 0 name))

/-- Runs steps in order. -/
def runSteps : List Step → Making Unit
  | [] => pure ()
  | step :: rest => do
    runStep site meanings file step
    runSteps rest

/-- Runs the program in a file. -/
def run : Making Unit :=
  match site.program file with
  | .error thrown => throw thrown
  | .ok .broken => throw (.invalidSource (Path.baseNameText file))
  | .ok (.steps steps) => runSteps site meanings file steps

end Bodies

end Making

/-! ## Loads -/

/-- The draft of a file whose body begins. -/
def Draft.begun
    (file : String) : Draft :=
  ⟨World.empty.push (.module (freshFileModule file)), []⟩

/-- What the body of a file makes. -/
def Site.bodyMeaning?
    (site : Site)
    (meanings : Meanings)
    (file : String) : Option (Meaning (Array Object)) :=
  match Making.run site meanings file (.begun file) with
  | none => none
  | some (.ok _, draft) => some ⟨.ok draft.own.objects, draft.files ++ [file]⟩
  | some (.error thrown, draft) => some ⟨.error (loadError file thrown), draft.files⟩

/-- What a file of data holds. -/
def Site.documentMeaning
    (site : Site)
    (file : String) : Meaning (Array Object) :=
  match loadDocument site file .empty with
  | .ok _ final => ⟨.ok final.objects, [file]⟩
  | .error thrown _ => ⟨.error thrown, []⟩

/-- What a file means if all else that is known are the meanings of other files. -/
def Site.meaningBy?
    (site : Site)
    (meanings : Meanings)
    (file : String) : Option (Meaning (Array Object)) :=
  if isDocument file then some (site.documentMeaning file) else site.bodyMeaning? meanings file

end ConfigTokens.Module
