import ConfigTokens.Module.Target
/-!
# Values up to the identity of objects

A pairing says which object of one world stands for which object of another. Values, objects and exports
are alike if they are the same apart from identities, and if their identities are paired in turn.
-/

namespace ConfigTokens.Module

/-- Which objects of a world stand for which objects of another one. -/
abbrev Pairing :=
  ObjectId → ObjectId → Prop

/-! ## Values -/

mutual

/-- Two values are the same up to paired identities. -/
inductive Value.Alike
    (pairs : Pairing) : Value → Value → Prop where
  | null : Value.Alike pairs .null .null
  | bool (value : Bool) : Value.Alike pairs (.bool value) (.bool value)
  | int (value : Int) : Value.Alike pairs (.int value) (.int value)
  | float (value : Binary64) : Value.Alike pairs (.float value) (.float value)
  | str (value : String) : Value.Alike pairs (.str value) (.str value)
  | bytes (value : List UInt8) : Value.Alike pairs (.bytes value) (.bytes value)
  | list {items others : List Value} :
      Value.AlikeItems pairs items others → Value.Alike pairs (.list items) (.list others)
  | mapping {members others : List (String × Value)} :
      Value.AlikeMembers pairs members others →
        Value.Alike pairs (.mapping members) (.mapping others)
  | function {id other : ObjectId} :
      pairs id other → Value.Alike pairs (.function id) (.function other)
  | module {id other : ObjectId} :
      pairs id other → Value.Alike pairs (.module id) (.module other)
  | moduleClass : Value.Alike pairs .moduleClass .moduleClass
  | classType (name : String) : Value.Alike pairs (.classType name) (.classType name)
  | instanceOf (className : String) :
      Value.Alike pairs (.instanceOf className) (.instanceOf className)
  | answering {answer other : Value} :
      Value.Alike pairs answer other → Value.Alike pairs (.answering answer) (.answering other)
  | record {attributes others : List (String × Value)} :
      Value.AlikeMembers pairs attributes others →
        Value.Alike pairs (.record attributes) (.record others)
  | bound {owner other : Value} (name : String) :
      Value.Alike pairs owner other → Value.Alike pairs (.bound owner name) (.bound other name)

/-- Two lists have items that are alike. -/
inductive Value.AlikeItems
    (pairs : Pairing) : List Value → List Value → Prop where
  | nil : Value.AlikeItems pairs [] []
  | cons {item other : Value} {rest others : List Value} :
      Value.Alike pairs item other → Value.AlikeItems pairs rest others →
        Value.AlikeItems pairs (item :: rest) (other :: others)

/-- Two lists have members with the same names that are alike. -/
inductive Value.AlikeMembers
    (pairs : Pairing) : List (String × Value) → List (String × Value) → Prop where
  | nil : Value.AlikeMembers pairs [] []
  | cons {member other : Value} {rest others : List (String × Value)} (name : String) :
      Value.Alike pairs member other → Value.AlikeMembers pairs rest others →
        Value.AlikeMembers pairs ((name, member) :: rest) ((name, other) :: others)

end

variable
    {pairs further : Pairing}

theorem Value.Alike.eq_of_str
    {text other : String}
    (alike : Value.Alike pairs (.str text) (.str other)) :
    text = other := by
  cases alike
  rfl

mutual

/-- More pairs keep values alike. -/
theorem Value.Alike.mono
    (grown : ∀ {id other}, pairs id other → further id other)
    {value other : Value} :
    Value.Alike pairs value other → Value.Alike further value other
  | .null => .null
  | .bool value => .bool value
  | .int value => .int value
  | .float value => .float value
  | .str value => .str value
  | .bytes value => .bytes value
  | .list items => .list (items.mono grown)
  | .mapping members => .mapping (members.mono grown)
  | .function paired => .function (grown paired)
  | .module paired => .module (grown paired)
  | .moduleClass => .moduleClass
  | .classType name => .classType name
  | .instanceOf className => .instanceOf className
  | .answering answer => .answering (answer.mono grown)
  | .record attributes => .record (attributes.mono grown)
  | .bound name owner => .bound name (owner.mono grown)

theorem Value.AlikeItems.mono
    (grown : ∀ {id other}, pairs id other → further id other)
    {items others : List Value} :
    Value.AlikeItems pairs items others → Value.AlikeItems further items others
  | .nil => .nil
  | .cons item rest => .cons (item.mono grown) (rest.mono grown)

theorem Value.AlikeMembers.mono
    (grown : ∀ {id other}, pairs id other → further id other)
    {members others : List (String × Value)} :
    Value.AlikeMembers pairs members others → Value.AlikeMembers further members others
  | .nil => .nil
  | .cons name member rest => .cons name (member.mono grown) (rest.mono grown)

end

/-- The objects that stand for the same third ones. -/
def joined
    (pairs further : Pairing) : Pairing := fun id other =>
  ∃ third, pairs id third ∧ further other third

mutual

/-- Values that are alike to the same third value are alike. -/
theorem Value.Alike.join
    {value other third : Value} :
    Value.Alike pairs value third → Value.Alike further other third →
      Value.Alike (joined pairs further) value other
  | .null, .null => .null
  | .bool value, .bool _ => .bool value
  | .int value, .int _ => .int value
  | .float value, .float _ => .float value
  | .str value, .str _ => .str value
  | .bytes value, .bytes _ => .bytes value
  | .list items, .list others => .list (items.join others)
  | .mapping members, .mapping others => .mapping (members.join others)
  | .function paired, .function also => .function ⟨_, paired, also⟩
  | .module paired, .module also => .module ⟨_, paired, also⟩
  | .moduleClass, .moduleClass => .moduleClass
  | .classType name, .classType _ => .classType name
  | .instanceOf className, .instanceOf _ => .instanceOf className
  | .answering answer, .answering other => .answering (answer.join other)
  | .record attributes, .record others => .record (attributes.join others)
  | .bound name owner, .bound _ other => .bound name (owner.join other)

theorem Value.AlikeItems.join
    {items others thirds : List Value} :
    Value.AlikeItems pairs items thirds → Value.AlikeItems further others thirds →
      Value.AlikeItems (joined pairs further) items others
  | .nil, .nil => .nil
  | .cons item rest, .cons other later => .cons (item.join other) (rest.join later)

theorem Value.AlikeMembers.join
    {members others thirds : List (String × Value)} :
    Value.AlikeMembers pairs members thirds → Value.AlikeMembers further others thirds →
      Value.AlikeMembers (joined pairs further) members others
  | .nil, .nil => .nil
  | .cons name member rest, .cons _ other later => .cons name (member.join other) (rest.join later)

end

mutual

/-- Data have no identities in them. -/
theorem Value.alike_ofJson
    (pairs : Pairing) :
    (content : Json) → Value.Alike pairs (.ofJson content) (.ofJson content)
  | .null => .null
  | .bool value => .bool value
  | .int value => .int value
  | .float value => .float value
  | .str value => .str value
  | .array items => .list (Value.alikeItems_ofItems pairs items)
  | .object members => .mapping (Value.alikeMembers_ofMembers pairs members)

theorem Value.alikeItems_ofItems
    (pairs : Pairing) :
    (items : List Json) → Value.AlikeItems pairs (Value.ofItems items) (Value.ofItems items)
  | [] => .nil
  | item :: rest => .cons (Value.alike_ofJson pairs item) (Value.alikeItems_ofItems pairs rest)

theorem Value.alikeMembers_ofMembers
    (pairs : Pairing) :
    (members : List (String × Json)) →
      Value.AlikeMembers pairs (Value.ofMembers members) (Value.ofMembers members)
  | [] => .nil
  | (name, member) :: rest =>
      .cons name (Value.alike_ofJson pairs member) (Value.alikeMembers_ofMembers pairs rest)

end

namespace Value.Alike

variable
    {value other : Value}

theorem type_eq
    (alike : Alike pairs value other) :
    value.type = other.type := by
  cases alike <;> rfl

theorem typeName_eq
    (alike : Alike pairs value other) :
    value.typeName = other.typeName := by
  cases alike with
  | bound name owner => simp only [typeName, owner.type_eq]
  | _ => rfl

theorem isCallable_eq
    (alike : Alike pairs value other) :
    value.isCallable = other.isCallable := by
  cases alike <;> rfl

/-- A part of a number is a number, and has no identity in it. -/
theorem part?_rel
    (alike : Alike pairs value other)
    (name : String) :
    Option.Rel (Alike pairs) (value.part? name) (other.part? name) := by
  have integer (number : Int) :
      Option.Rel (Alike pairs) ((integerPart? number name).map .int)
        ((integerPart? number name).map .int) := by
    cases integerPart? number name with
    | none => exact .none
    | some part => exact .some (.int part)
  cases alike with
  | bool value => exact integer _
  | int value => exact integer _
  | float value =>
      unfold part?
      dsimp only
      split
      · exact .some (.float value)
      · split
        · exact .some (.float _)
        · exact .none
  | _ => exact .none

theorem typeAttribute?_rel
    (alike : Alike pairs value other)
    (name : String) :
    Option.Rel (Alike pairs) (value.typeAttribute? name) (other.typeAttribute? name) := by
  have part := alike.part?_rel name
  unfold typeAttribute?
  rw [alike.type_eq]
  generalize value.part? name = left at part
  generalize other.part? name = right at part
  cases part with
  | some same => exact .some same
  | none =>
      cases other.type.given? name with
      | none => exact .none
      | some given =>
          refine .some ?_
          dsimp only
          split
          · exact .bound name alike
          · exact .record .nil

end Value.Alike

namespace Value.AlikeMembers

variable
    {members others : List (String × Value)}

theorem lookup
    (alike : AlikeMembers pairs members others)
    (name : String) :
    Option.Rel (Alike pairs) (members.lookup name) (others.lookup name) := by
  induction members generalizing others with
  | nil =>
      cases alike
      exact .none
  | cons entry rest ih =>
      cases alike with
      | cons first member later =>
          simp only [List.lookup_cons]
          cases name == first with
          | true => exact .some member
          | false => exact ih later

theorem put
    (alike : AlikeMembers pairs members others)
    (name : String)
    {value other : Value}
    (same : Alike pairs value other) :
    AlikeMembers pairs (Assoc.put members name value) (Assoc.put others name other) := by
  induction members generalizing others with
  | nil =>
      cases alike
      exact .cons name same .nil
  | cons entry rest ih =>
      cases alike with
      | cons first member later =>
          simp only [Assoc.put]
          split
          · exact .cons name same later
          · exact .cons first member (ih later)

/-- The members of one list are put into alike lists. -/
theorem foldl_put
    {globals further : List (String × Value)}
    (alike : AlikeMembers pairs members others)
    (added : AlikeMembers pairs globals further) :
    AlikeMembers pairs
      (globals.foldl (fun all entry => Assoc.put all entry.1 entry.2) members)
      (further.foldl (fun all entry => Assoc.put all entry.1 entry.2) others) := by
  induction globals generalizing members others further with
  | nil =>
      cases added
      exact alike
  | cons entry rest ih =>
      cases added with
      | cons name member later =>
          rw [List.foldl_cons, List.foldl_cons]
          exact ih (alike.put name member) later

end Value.AlikeMembers

theorem recordAttribute?_rel
    {attributes others : List (String × Value)}
    (alike : Value.AlikeMembers pairs attributes others)
    (name : String) :
    Option.Rel (Value.Alike pairs) (recordAttribute? attributes name)
      (recordAttribute? others name) := by
  have given := (Value.Alike.record alike).typeAttribute?_rel name
  have own := alike.lookup name
  unfold recordAttribute?
  dsimp only
  split
  · exact given
  · generalize attributes.lookup name = left at own
    generalize others.lookup name = right at own
    cases own with
    | none => exact given
    | some same => exact .some same

/-! ## Objects -/

/-- Two modules are the same up to paired identities in their globals. -/
structure ModuleObject.Alike
    (pairs : Pairing)
    (content other : ModuleObject) : Prop where
  globals : Value.AlikeMembers pairs content.globals other.globals
  package : content.package = other.package
  searchPath : content.searchPath = other.searchPath
  initialising : content.initialising = other.initialising

namespace ModuleObject

theorem alike_fresh
    (pairs : Pairing)
    (name : String)
    (file : Option String)
    (package : String)
    (searchPath : Option String) :
    Alike pairs (fresh name file package searchPath) (fresh name file package searchPath) where
  globals := by
    cases file with
    | none => exact .cons _ (.str name) .nil
    | some path => exact .cons _ (.str name) (.cons _ (.str path) .nil)
  package := rfl
  searchPath := rfl
  initialising := rfl

namespace Alike

variable
    {content other : ModuleObject}

theorem mono
    (grown : ∀ {id other}, pairs id other → further id other)
    (alike : Alike pairs content other) :
    Alike further content other where
  globals := alike.globals.mono grown
  package := alike.package
  searchPath := alike.searchPath
  initialising := alike.initialising

theorem text?_eq
    (alike : Alike pairs content other)
    (name : String) :
    content.text? name = other.text? name := by
  have found := alike.globals.lookup name
  unfold text?
  generalize content.globals.lookup name = left at found
  generalize other.globals.lookup name = right at found
  cases found with
  | none => rfl
  | some same => cases same <;> rfl

theorem name_eq
    (alike : Alike pairs content other) :
    content.name = other.name :=
  congrArg (·.getD "?") (alike.text?_eq nameGlobal)

theorem loadedWith_eq
    (alike : Alike pairs content other) :
    content.loadedWith = other.loadedWith := by
  have found := alike.globals.lookup fileGlobal
  unfold loadedWith
  rw [alike.searchPath]
  generalize content.globals.lookup fileGlobal = left at found
  generalize other.globals.lookup fileGlobal = right at found
  cases found <;> rfl

theorem attribute?_rel
    {id twin : ObjectId}
    (alike : Alike pairs content other)
    (paired : pairs id twin)
    (name : String) :
    Option.Rel (Value.Alike pairs) (content.attribute? id name) (other.attribute? twin name) := by
  have found := alike.globals.lookup name
  unfold attribute?
  rw [alike.loadedWith_eq]
  generalize content.globals.lookup name = left at found
  generalize other.globals.lookup name = right at found
  split
  · exact .some .moduleClass
  · split
    · exact .some (.record .nil)
    · cases found with
      | some same => exact .some same
      | none =>
          simp only [Option.none_or]
          split
          · exact .some (.record .nil)
          · exact (Value.Alike.module paired).typeAttribute?_rel name

theorem put
    (alike : Alike pairs content other)
    (name : String)
    {value given : Value}
    (same : Value.Alike pairs value given) :
    Alike pairs { content with globals := Assoc.put content.globals name value }
      { other with globals := Assoc.put other.globals name given } where
  globals := alike.globals.put name same
  package := alike.package
  searchPath := alike.searchPath
  initialising := alike.initialising

end Alike

end ModuleObject

/-- Two objects are the same up to paired identities. -/
inductive Object.Alike
    (pairs : Pairing) : Object → Object → Prop where
  | module {content other : ModuleObject} :
      content.Alike pairs other → Object.Alike pairs (.module content) (.module other)
  | function (content : FunctionObject) : Object.Alike pairs (.function content) (.function content)
  | document (content : Json) : Object.Alike pairs (.document content) (.document content)

theorem Object.Alike.mono
    (grown : ∀ {id other}, pairs id other → further id other)
    {object other : Object}
    (alike : Object.Alike pairs object other) :
    Object.Alike further object other := by
  cases alike with
  | module alike => exact .module (alike.mono grown)
  | function content => exact .function content
  | document content => exact .document content

theorem Object.Alike.join
    {object other third : Object}
    (first : Object.Alike pairs object third)
    (second : Object.Alike further other third) :
    Object.Alike (joined pairs further) object other := by
  cases first with
  | module alike =>
      cases second with
      | module also =>
          exact .module ⟨alike.globals.join also.globals, alike.package.trans also.package.symm,
            alike.searchPath.trans also.searchPath.symm,
            alike.initialising.trans also.initialising.symm⟩
  | function content =>
      cases second
      exact .function content
  | document content =>
      cases second
      exact .document content

/-! ## Modules in worlds -/

section Modules

variable
    {world other : World}
    {id twin : ObjectId}

/-- Objects that are alike are the same module, or no modules. -/
theorem Object.Alike.module?_rel
    {object partner : Object}
    (alike : object.Alike pairs partner)
    (left : world.objects[id]? = some object)
    (right : other.objects[twin]? = some partner) :
    Option.Rel (ModuleObject.Alike pairs) (world.module? id) (other.module? twin) := by
  unfold World.module?
  rw [left, right]
  cases alike with
  | module alike => exact .some alike
  | function content => exact .none
  | document content => exact .none

variable
    (modules : Option.Rel (ModuleObject.Alike pairs) (world.module? id) (other.module? twin))

include modules

theorem global?_rel_of_module?
    (name : String) :
    Option.Rel (Value.Alike pairs) ((world.module? id).bind (·.globals.lookup name))
      ((other.module? twin).bind (·.globals.lookup name)) := by
  generalize world.module? id = left at modules
  generalize other.module? twin = right at modules
  cases modules with
  | none => exact .none
  | some content => exact content.globals.lookup name

theorem attribute?_rel_of_module?
    (paired : pairs id twin)
    (name : String) :
    Option.Rel (Value.Alike pairs) (attribute? world (.module id) name)
      (attribute? other (.module twin) name) := by
  unfold attribute?
  dsimp only
  generalize world.module? id = left at modules
  generalize other.module? twin = right at modules
  cases modules with
  | none => exact .none
  | some content => exact content.attribute?_rel paired name

theorem attributeOwner_eq_of_module? :
    attributeOwner world (.module id) = attributeOwner other (.module twin) := by
  unfold attributeOwner
  dsimp only
  generalize world.module? id = left at modules
  generalize other.module? twin = right at modules
  cases modules with
  | none => rfl
  | some content =>
      dsimp only
      rw [content.name_eq, content.initialising]

end Modules

/-! ## Exports -/

/-- Two exports are the same up to paired identities. -/
inductive Export.Alike
    (pairs : Pairing) : Export → Export → Prop where
  | module {id other : ObjectId} :
      pairs id other → Export.Alike pairs (.module id) (.module other)
  | data {id other : ObjectId} (content : Json) :
      pairs id other → Export.Alike pairs (.data id content) (.data other content)

namespace Export.Alike

variable
    {answer other : Export}

theorem mono
    (grown : ∀ {id other}, pairs id other → further id other)
    (alike : Alike pairs answer other) :
    Alike further answer other := by
  cases alike with
  | module paired => exact .module (grown paired)
  | data content paired => exact .data content (grown paired)

theorem join
    {third : Export}
    (first : Alike pairs answer third)
    (second : Alike further other third) :
    Alike (joined pairs further) answer other := by
  cases first with
  | module paired =>
      cases second with
      | module also => exact .module ⟨_, paired, also⟩
  | data content paired =>
      cases second with
      | data _ also => exact .data content ⟨_, paired, also⟩

theorem mono_rel
    (grown : ∀ {id other}, pairs id other → further id other)
    {answer other : Option Export}
    (alike : Option.Rel (Alike pairs) answer other) :
    Option.Rel (Alike further) answer other := by
  cases alike with
  | none => exact .none
  | some same => exact .some (same.mono grown)

theorem value
    (alike : Alike pairs answer other) :
    Value.Alike pairs answer.value other.value := by
  cases alike with
  | module paired => exact .module paired
  | data content paired => exact Value.alike_ofJson pairs content

end Export.Alike

end ConfigTokens.Module
