import SchemaContent.Name
import SchemaContent.Occurrence
import SchemaContent.Text.Words

/-! # Members of content models

A member is an element that may occur in some content, with everything resolved: its expanded name,
its type, its bounds and the content it belongs to. Members of one content are kept in canonical
order, and no two of them have the same name.
-/

namespace SchemaContent

/-- Whose content a member belongs to. -/
inductive Owner where
  | outside
  | element (name : ExpandedName)
  | complexType (name : ExpandedName)
deriving DecidableEq, Repr

def Owner.name? : Owner → Option ExpandedName
  | .outside => none
  | .element name => some name
  | .complexType name => some name

mutual

/-- An element of a content model. The reference is there if the element was written as a reference
or stands in for one. -/
structure Member where
  name : ExpandedName
  reference : Option Reference
  type : MemberType
  occurrence : Occurrence
  owner : Owner

/-- The type of a member. An anonymous complex type of a top-level element is known by the name of
that element; one of a local element is given by its members. -/
inductive MemberType where
  | builtin (name : ExpandedName)
  | simple (name : ExpandedName)
  | complex (name : ExpandedName)
  | anonymousSimple
  | anonymousComplex (element : ExpandedName)
  | inline (members : List Member)

end

mutual

def Member.decEq : (first second : Member) → Decidable (first = second)
  | ⟨name, reference, type, occurrence, owner⟩,
    ⟨otherName, otherReference, otherType, otherOccurrence, otherOwner⟩ =>
    have := MemberType.decEq type otherType
    decidable_of_iff
      (name = otherName ∧ reference = otherReference ∧ type = otherType ∧
        occurrence = otherOccurrence ∧ owner = otherOwner)
      (iff_of_eq (Member.mk.injEq ..).symm)

def MemberType.decEq (first second : MemberType) : Decidable (first = second) := by
  cases first <;> cases second
  case inline.inline members others =>
    have := Member.decEqList members others
    exact decidable_of_iff (members = others) (iff_of_eq (MemberType.inline.injEq ..).symm)
  case anonymousSimple.anonymousSimple => exact isTrue rfl
  case builtin.builtin name other | simple.simple name other | complex.complex name other |
      anonymousComplex.anonymousComplex name other =>
    exact decidable_of_iff (name = other) ⟨congrArg _, fun same => by cases same; rfl⟩
  all_goals exact isFalse nofun

def Member.decEqList : (first second : List Member) → Decidable (first = second)
  | [], [] => isTrue rfl
  | [], _ :: _ => isFalse nofun
  | _ :: _, [] => isFalse nofun
  | member :: rest, other :: others =>
    have := Member.decEq member other
    have := Member.decEqList rest others
    decidable_of_iff (member = other ∧ rest = others) (iff_of_eq (List.cons.injEq ..).symm)

end

instance : DecidableEq Member := Member.decEq

instance : DecidableEq MemberType := MemberType.decEq

namespace Member

/-- The name by which a member is known in generated text, in the spelling of types. -/
def identifier (member : Member) : String :=
  Text.upperCamelCase member.name.localName

/-! ## Canonical order -/

/-- Canonical order: by identifier, then by namespace with no namespace first, then by local name. -/
def canonicalCompare : Member → Member → Ordering :=
  compareLex (compareOn identifier)
    (compareLex (compareOn (·.name.uri)) (compareOn (·.name.localName)))

def precedes (first second : Member) : Bool :=
  (canonicalCompare first second).isLE

def insert (member : Member) : List Member → List Member
  | [] => [member]
  | first :: rest =>
    if member.precedes first then member :: first :: rest else first :: insert member rest

/-- The members in canonical order; members that are equal in it keep their order. -/
def sort (members : List Member) : List Member :=
  members.foldr insert []

def distinct (members : List Member) : List Member :=
  keep [] members
where
  /-- The first member of each name that is not among `seen`. -/
  keep (seen : List ExpandedName) : List Member → List Member
    | [] => []
    | member :: rest =>
      if seen.contains member.name then keep seen rest
      else member :: keep (member.name :: seen) rest

end Member

end SchemaContent
