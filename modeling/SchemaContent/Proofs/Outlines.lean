import SchemaContent.Output
import SchemaContent.Proofs.PlainNames

/-! # Outlines of content models

A listing shows an outline of content models: of a member its name, something of its type,
and the bounds in force. Nothing more can be told from it, and nothing less, if the names are
such that one can see where they begin and end. -/

namespace SchemaContent

namespace Listing

/-! ## Outlines -/

mutual

/-- What is shown of a member: its name, an outline of its type, and the bounds in force. -/
structure Outline where
  name : ExpandedName
  type : TypeOutline
  min : UInt64
  max : MaxOccurs

/-- What is shown of a type. A named type does not show whether it is simple. -/
inductive TypeOutline where
  | builtin (name : ExpandedName)
  | named (name : ExpandedName)
  | anonymousSimple
  | anonymousComplex (element : ExpandedName)
  | inline (members : List Outline)

end

mutual

def Outline.ofMember : Member → Outline
  | ⟨name, _, type, occurrence, _⟩ =>
    ⟨name, TypeOutline.ofType type, occurrence.effectiveMin, occurrence.effectiveMax⟩

def TypeOutline.ofType : MemberType → TypeOutline
  | .builtin name => .builtin name
  | .simple name => .named name
  | .complex name => .named name
  | .anonymousSimple => .anonymousSimple
  | .anonymousComplex element => .anonymousComplex element
  | .inline members => .inline (Outline.ofMembers members)

def Outline.ofMembers : List Member → List Outline
  | [] => []
  | member :: rest => Outline.ofMember member :: Outline.ofMembers rest

end

/-- What is shown of a content model: the name of its owner, and its members. -/
structure ModelOutline where
  owner : Option ExpandedName
  members : List Outline

def ModelOutline.ofModel (model : ContentModel) : ModelOutline :=
  ⟨model.owner.name?, Outline.ofMembers model.members⟩

mutual

/-- The names in it are plain, at any depth, and the built-in types are those of schema
documents. -/
def Outline.Legible : Outline → Prop
  | ⟨name, type, _, _⟩ => name.Plain ∧ type.Legible

def TypeOutline.Legible : TypeOutline → Prop
  | .builtin name => name.Plain ∧ name.uri = some schemaNamespace
  | .named name => name.Plain
  | .anonymousSimple => True
  | .anonymousComplex element => element.Plain
  | .inline members => Outline.AllLegible members

def Outline.AllLegible : List Outline → Prop
  | [] => True
  | first :: rest => first.Legible ∧ Outline.AllLegible rest

end

mutual

def Outline.decideLegible : ∀ outline : Outline, Decidable outline.Legible
  | ⟨name, type, _, _⟩ =>
    have := type.decideLegible
    inferInstanceAs (Decidable (name.Plain ∧ type.Legible))

def TypeOutline.decideLegible : ∀ type : TypeOutline, Decidable type.Legible
  | .builtin name => inferInstanceAs (Decidable (name.Plain ∧ name.uri = some schemaNamespace))
  | .named name => inferInstanceAs (Decidable name.Plain)
  | .anonymousSimple => inferInstanceAs (Decidable True)
  | .anonymousComplex element => inferInstanceAs (Decidable element.Plain)
  | .inline members => Outline.decideAllLegible members

def Outline.decideAllLegible : ∀ members : List Outline, Decidable (Outline.AllLegible members)
  | [] => inferInstanceAs (Decidable True)
  | first :: rest =>
    have := first.decideLegible
    have := Outline.decideAllLegible rest
    inferInstanceAs (Decidable (first.Legible ∧ Outline.AllLegible rest))

end

structure ModelOutline.Legible (model : ModelOutline) : Prop where
  owner : ∀ name ∈ model.owner, name.Plain
  members : Outline.AllLegible model.members

instance (model : ModelOutline) : Decidable model.Legible :=
  have := Outline.decideAllLegible model.members
  decidable_of_iff ((∀ name ∈ model.owner, name.Plain) ∧ Outline.AllLegible model.members)
    ⟨fun ⟨owner, members⟩ => ⟨owner, members⟩, fun ⟨owner, members⟩ => ⟨owner, members⟩⟩

/-! ## Lines of outlines

A listing is made of outlines. -/

def TypeOutline.label : TypeOutline → String
  | .builtin name => "xs:" ++ name.localName
  | .named name => name.text
  | .anonymousSimple => "(anonymous simple type)"
  | .anonymousComplex element => "(anonymous type of " ++ element.text ++ ")"
  | .inline _ => "(inline)"

def Outline.line (depth : Nat) (name : ExpandedName) (type : TypeOutline) (min : UInt64)
    (max : MaxOccurs) : String :=
  indentation depth ++ name.text ++ ": " ++ type.label ++ " " ++
    Occurrence.range ⟨some min, some max⟩

mutual

def Outline.lines (depth : Nat) : Outline → List String
  | ⟨name, type, min, max⟩ => Outline.line depth name type min max :: type.lines (depth + 1)

/-- The lines of what is inside a type. -/
def TypeOutline.lines (depth : Nat) : TypeOutline → List String
  | .inline members => Outline.allLines depth members
  | _ => []

def Outline.allLines (depth : Nat) : List Outline → List String
  | [] => []
  | first :: rest => first.lines depth ++ Outline.allLines depth rest

end

def ModelOutline.ownerLine (owner : Option ExpandedName) : String :=
  (owner.map ExpandedName.text).getD "(global)"

def ModelOutline.lines (model : ModelOutline) : List String :=
  ModelOutline.ownerLine model.owner :: Outline.allLines 1 model.members

theorem typeLabel_eq (type : MemberType) : typeLabel type = (TypeOutline.ofType type).label := by
  cases type <;> rfl

theorem memberLine_eq (depth : Nat) (name : ExpandedName) (type : MemberType)
    (occurrence : Occurrence) :
    memberLine depth name type occurrence =
      Outline.line depth name (TypeOutline.ofType type) occurrence.effectiveMin
        occurrence.effectiveMax := by
  rw [memberLine, typeLabel_eq]
  rfl

theorem ownerLabel_eq (owner : Owner) :
    ownerLabel owner = ModelOutline.ownerLine owner.name? := by
  cases owner <;> rfl

mutual

theorem memberLines_eq (depth : Nat) : ∀ member : Member,
    memberLines depth member = (Outline.ofMember member).lines depth
  | ⟨name, reference, .inline members, occurrence, owner⟩ => by
      rw [memberLines, Outline.ofMember, Outline.lines, memberLine_eq, TypeOutline.ofType,
        TypeOutline.lines, membersLines_eq (depth + 1) members]
  | ⟨name, reference, .builtin type, occurrence, owner⟩
  | ⟨name, reference, .simple type, occurrence, owner⟩
  | ⟨name, reference, .complex type, occurrence, owner⟩
  | ⟨name, reference, .anonymousComplex type, occurrence, owner⟩ => by
      rw [memberLines, Outline.ofMember, Outline.lines, memberLine_eq, TypeOutline.ofType,
        TypeOutline.lines] <;> nofun
  | ⟨name, reference, .anonymousSimple, occurrence, owner⟩ => by
      rw [memberLines, Outline.ofMember, Outline.lines, memberLine_eq, TypeOutline.ofType,
        TypeOutline.lines] <;> nofun

theorem membersLines_eq (depth : Nat) : ∀ members : List Member,
    membersLines depth members = Outline.allLines depth (Outline.ofMembers members)
  | [] => by rw [membersLines, Outline.ofMembers, Outline.allLines]
  | member :: rest => by
      rw [membersLines, Outline.ofMembers, Outline.allLines, memberLines_eq depth member,
        membersLines_eq depth rest]

end

theorem modelLines_eq (model : ContentModel) :
    modelLines model = (ModelOutline.ofModel model).lines := by
  rw [modelLines, ModelOutline.lines, ownerLabel_eq, membersLines_eq]
  rfl

end Listing

end SchemaContent
