import Mathlib.Data.List.Forall2
import SchemaContent.Declarations.Generation
import SchemaContent.Proofs.Contents
import SchemaContent.Proofs.RelatedRuns

/-! # What items are declared for

An item is declared for a simple type or for a content, which may be inside the content
of a model. A catalogue tells for each item what it is declared for, so that it can be
asked whether the type of a field is the right one. -/

namespace SchemaContent

/-- A content has this place in another: the positions of the members whose inline types
lead to it. -/
inductive Member.PartAt : List Member → List Nat → List Member → Prop
  | itself (members : List Member) : PartAt members [] members
  | inside {whole inner part : List Member} {position : Nat} {place : List Nat}
      {member : Member} (isMember : whole[position]? = some member)
      (isInline : member.type = .inline inner) (isPart : PartAt inner place part) :
      PartAt whole (position :: place) part

namespace Member.PartAt

variable {whole part inner : List Member} {place : List Nat}

theorem toPart (isPart : PartAt whole place part) : Part whole part := by
  induction isPart with
  | itself members => exact .itself members
  | inside isMember isInline _ induction =>
      exact .inside (List.mem_of_getElem? isMember) isInline induction

theorem further (isPart : PartAt whole place part) {position : Nat} {member : Member}
    (isMember : part[position]? = some member) (isInline : member.type = .inline inner) :
    PartAt whole (place ++ [position]) inner := by
  induction isPart with
  | itself members => exact .inside isMember isInline (.itself inner)
  | inside isOuter isOuterInline _ induction =>
      exact .inside isOuter isOuterInline (induction isMember)

end Member.PartAt

namespace Declarations

/-- What an item is declared for: a simple type, or the content at a place in the model of
an owner. -/
inductive Origin where
  | simpleType (name : ExpandedName)
  | content (owner : Owner) (place : List Nat)
deriving DecidableEq

def Origin.OccursIn (model : ContentModel) : Origin → Prop
  | .simpleType name => ∃ place part, Member.PartAt model.members place part ∧
      ∃ member ∈ part, member.type = .simple name
  | .content owner place => owner = model.owner ∧
      ∃ part, Member.PartAt model.members place part

def Origin.isContent : Origin → Bool
  | .simpleType _ => false
  | .content _ _ => true

mutual

/-- The contents inside a member at this place, in the order of their structs in a file:
each after those inside it. -/
def memberContents (owner : Owner) (place : List Nat) : Member → List Origin
  | ⟨_, _, type, _, _⟩ =>
    match type with
    | .inline members => contentsFrom owner place 0 members ++ [.content owner place]
    | _ => []

def contentsFrom (owner : Owner) (place : List Nat) : Nat → List Member → List Origin
  | _, [] => []
  | position, member :: rest =>
    memberContents owner (place ++ [position]) member ++
      contentsFrom owner place (position + 1) rest

end

def modelContents (model : ContentModel) : List Origin :=
  contentsFrom model.owner [] 0 model.members ++ [.content model.owner []]

abbrev Catalogue := List (Origin × Item)

/-- How the structs of owners are named. -/
abbrev Naming := Owner → Identifier → Prop

namespace Catalogue

def origins (catalogue : Catalogue) : List Origin :=
  catalogue.map Prod.fst

def contents (catalogue : Catalogue) : List Origin :=
  catalogue.origins.filter Origin.isContent

/-- The naming of owners' structs that the catalogue itself gives. -/
def structNames (catalogue : Catalogue) : Naming := fun owner identifier =>
  ∃ fields, (.content owner [], .struct identifier fields) ∈ catalogue

/-- The type is written as this identifier for a member of the owner's model at this
place: as the alias of a simple type, the struct of an owner, or the struct of the inline
content at the place. -/
def Names (catalogue : Catalogue) (naming : Naming) (owner : Owner) (place : List Nat)
    (identifier : Identifier) : MemberType → Prop
  | .builtin name => identifier = ⟨builtinType name, false⟩
  | .simple name => (.simpleType name, .alias identifier) ∈ catalogue
  | .complex name => naming (.complexType name) identifier
  | .anonymousSimple => identifier = ⟨"String", false⟩
  | .anonymousComplex name => naming (.element name) identifier
  | .inline _ => ∃ fields, (.content owner place, .struct identifier fields) ∈ catalogue

/-- The struct for the content at this place has a field for each member, in order, of
the right type. -/
def Declares (catalogue : Catalogue) (naming : Naming) (owner : Owner) (place : List Nat)
    (members : List Member) : Prop :=
  ∃ name fields, (.content owner place, .struct name fields) ∈ catalogue ∧
    List.Forall₂ (fun (member, position) field =>
      catalogue.Names naming owner (place ++ [position]) field.type member.type)
      members.zipIdx fields

/-- The identifier is the right one for the type, and the contents inside it have their
structs. -/
structure Provides (catalogue : Catalogue) (naming : Naming) (owner : Owner)
    (place : List Nat) (identifier : Identifier) (type : MemberType) : Prop where
  names : catalogue.Names naming owner place identifier type
  inside : ∀ inner, type = .inline inner → ∀ rest part, Member.PartAt inner rest part →
    catalogue.Declares naming owner (place ++ rest) part

/-- These identifiers are the right ones for the types of members, which stand at these
positions in the content at the place. -/
def ProvidesEach (catalogue : Catalogue) (naming : Naming) (owner : Owner)
    (place : List Nat) (numbered : List (Member × Nat)) (identifiers : List Identifier) :
    Prop :=
  List.Forall₂ (fun (member, position) identifier =>
    catalogue.Provides naming owner (place ++ [position]) identifier member.type)
    numbered identifiers

variable {catalogue later : Catalogue} {naming other : Naming} {owner : Owner}
  {place : List Nat} {identifier : Identifier} {type : MemberType} {members : List Member}

/-! ## Later catalogues -/

theorem Names.mono (names : catalogue.Names naming owner place identifier type)
    (grown : catalogue ⊆ later) : later.Names naming owner place identifier type := by
  cases type with
  | builtin name => exact names
  | simple name => exact grown names
  | complex name => exact names
  | anonymousSimple => exact names
  | anonymousComplex name => exact names
  | inline members =>
      rcases names with ⟨fields, isEntry⟩
      exact ⟨fields, grown isEntry⟩

theorem Declares.mono (declares : catalogue.Declares naming owner place members)
    (grown : catalogue ⊆ later) : later.Declares naming owner place members := by
  rcases declares with ⟨name, fields, isEntry, matched⟩
  exact ⟨name, fields, grown isEntry, matched.imp fun _ _ names => names.mono grown⟩

theorem Provides.mono (provides : catalogue.Provides naming owner place identifier type)
    (grown : catalogue ⊆ later) : later.Provides naming owner place identifier type where
  names := provides.names.mono grown
  inside inner isInline rest part isPart :=
    (provides.inside inner isInline rest part isPart).mono grown

theorem ProvidesEach.mono {numbered : List (Member × Nat)} {identifiers : List Identifier}
    (provided : catalogue.ProvidesEach naming owner place numbered identifiers)
    (grown : catalogue ⊆ later) :
    later.ProvidesEach naming owner place numbered identifiers :=
  List.Forall₂.imp (fun _ _ provides => provides.mono grown) provided

/-- Structs of owners may be named otherwise, if not for this type. -/
theorem Names.rename (names : catalogue.Names naming owner place identifier type)
    (complex : ∀ name, type = .complex name →
      naming (.complexType name) identifier → other (.complexType name) identifier)
    (anonymous : ∀ name, type = .anonymousComplex name →
      naming (.element name) identifier → other (.element name) identifier) :
    catalogue.Names other owner place identifier type := by
  cases type with
  | builtin name => exact names
  | simple name => exact names
  | complex name => exact complex name rfl names
  | anonymousSimple => exact names
  | anonymousComplex name => exact anonymous name rfl names
  | inline members => exact names

/-! ## Contents inside a content -/

/-- Where a content has its struct, and the types of its members are provided, all
contents inside it have theirs. -/
theorem declares_of_partAt {name : Identifier} {fields : List Field}
    (isEntry : (.content owner place, .struct name fields) ∈ catalogue)
    (provided : catalogue.ProvidesEach naming owner place members.zipIdx
      (fields.map (·.type)))
    {rest : List Nat} {part : List Member} (isPart : Member.PartAt members rest part) :
    catalogue.Declares naming owner (place ++ rest) part := by
  cases isPart with
  | itself =>
      have matched := List.forall₂_map_right_iff.mp provided
      rw [List.append_nil]
      exact ⟨name, fields, isEntry, matched.imp fun _ _ provides => provides.names⟩
  | @inside _ inner _ position rest member isMember isInline isPart =>
      have isNumbered : (member, position) ∈ members.zipIdx :=
        List.mem_zipIdx_iff_getElem?.mpr isMember
      rcases exists_of_mem_of_forall₂ provided isNumbered with ⟨identifier, _, provides⟩
      have declares := provides.inside inner isInline rest part isPart
      rw [List.append_assoc] at declares
      exact declares

end Catalogue

end Declarations

end SchemaContent
