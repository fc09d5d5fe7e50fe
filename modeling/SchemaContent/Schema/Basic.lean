import SchemaContent.Error
import SchemaContent.Particle

/-! # Schemas

A schema is what one schema document declares. The names in it are kept as written; its bindings give
them their meaning, and a component declared at its top level is known by the target namespace and
its local name. The qualifiers that a document binds to namespaces are kept in ascending order, so that
"the least qualifier of a namespace" is the first one found.
-/

namespace SchemaContent

/-! ## Namespace bindings -/

/-- Pairs of qualifier and namespace in strictly ascending order of qualifiers, and the default
namespace if there is one. -/
structure Bindings where
  entries : List (String × String)
  default : Option String
  ascending : entries.Pairwise fun first second => first.1 < second.1
deriving DecidableEq, Repr

namespace Bindings

def empty : Bindings := ⟨[], none, .nil⟩

/-- Puts a pair into its place in ascending pairs. It replaces a pair with the same qualifier. -/
def insertEntry (qualifier uri : String) : List (String × String) → List (String × String)
  | [] => [(qualifier, uri)]
  | entry :: rest =>
    if qualifier < entry.1 then (qualifier, uri) :: entry :: rest
    else if qualifier = entry.1 then (qualifier, uri) :: rest
    else entry :: insertEntry qualifier uri rest

theorem mem_insertEntry {qualifier uri : String} {entries : List (String × String)}
    {entry : String × String} (member : entry ∈ insertEntry qualifier uri entries) :
    entry = (qualifier, uri) ∨ entry ∈ entries := by
  induction entries with
  | nil => simpa [insertEntry] using member
  | cons first rest ih =>
    simp only [insertEntry] at member
    split at member
    · simpa using member
    · split at member
      · rcases List.mem_cons.mp member with same | member
        · exact .inl same
        · exact .inr (List.mem_cons_of_mem _ member)
      · rcases List.mem_cons.mp member with same | member
        · exact .inr (same ▸ List.mem_cons_self)
        · exact (ih member).imp_right (List.mem_cons_of_mem _)

theorem ascending_insertEntry (qualifier uri : String) {entries : List (String × String)}
    (ascending : entries.Pairwise fun first second => first.1 < second.1) :
    (insertEntry qualifier uri entries).Pairwise fun first second => first.1 < second.1 := by
  induction entries with
  | nil => simp [insertEntry]
  | cons first rest ih =>
    have ⟨firstLeast, restAscending⟩ := List.pairwise_cons.mp ascending
    simp only [insertEntry]
    split
    case isTrue less =>
      refine List.pairwise_cons.mpr ⟨fun entry member => ?_, ascending⟩
      rcases List.mem_cons.mp member with rfl | member
      · exact less
      · exact String.lt_trans less (firstLeast entry member)
    case isFalse notLess =>
      split
      case isTrue same =>
        exact List.pairwise_cons.mpr ⟨fun entry member => same ▸ firstLeast entry member,
          restAscending⟩
      case isFalse different =>
        refine List.pairwise_cons.mpr ⟨fun entry member => ?_, ih restAscending⟩
        rcases mem_insertEntry member with rfl | member
        · have atMost : first.1 ≤ qualifier := String.not_lt.mp notLess
          refine Decidable.byContradiction fun notGreater => different ?_
          exact String.le_antisymm (String.not_lt.mp notGreater) atMost
        · exact firstLeast entry member

/-- Binds a qualifier, or the default namespace if there is none. The last binding counts. -/
def bind (bindings : Bindings) (qualifier : Option String) (uri : String) : Bindings :=
  match qualifier with
  | none => { bindings with default := some uri }
  | some qualifier =>
    ⟨insertEntry qualifier uri bindings.entries, bindings.default,
      ascending_insertEntry qualifier uri bindings.ascending⟩

/-- The bindings that declarations make, one after the other. -/
def ofList (declarations : List (Option String × String)) : Bindings :=
  declarations.foldl (fun bindings (qualifier, uri) => bindings.bind qualifier uri) empty

def lookup (bindings : Bindings) (qualifier : String) : Option String :=
  bindings.entries.lookup qualifier

def qualifierOf (bindings : Bindings) (uri : String) : Option String :=
  (bindings.entries.find? fun (_, bound) => bound = uri).map (·.1)

example : (ofList [(some "t", "u"), (none, "d"), (some "a", "u")]).qualifierOf "u" = some "a" := by
  decide +kernel

end Bindings

/-! ## Documents -/

inductive DirectiveKind where
  | importing
  | including
deriving DecidableEq, Repr

structure Directive where
  kind : DirectiveKind
  uri : Option String
  location : Option String
deriving DecidableEq, Repr

/-- The declarations of one schema document, in document order. The location is that of the document,
if it was loaded from one. -/
structure Schema where
  location : Option String
  targetNamespace : Option String
  elementForm : Form
  bindings : Bindings
  directives : List Directive
  elements : List ElementDeclaration
  complexTypes : List ComplexType
  simpleTypes : List String
deriving DecidableEq

namespace Schema

/-- The expanded name of a reference written in this schema. The qualifier `xml` has a fixed meaning,
and a reference without a qualifier belongs to the default namespace. -/
def resolve (schema : Schema) (reference : Reference) : Except SchemaError ExpandedName :=
  match reference.qualifier with
  | none => .ok ⟨schema.bindings.default, reference.localName⟩
  | some qualifier =>
    if qualifier = "xml" then .ok ⟨some xmlNamespace, reference.localName⟩
    else
      match schema.bindings.lookup qualifier with
      | some uri => .ok ⟨some uri, reference.localName⟩
      | none => .error (.unboundQualifier qualifier)

/-- How this schema refers to a namespace: by the least qualifier bound to it, or by no qualifier
where it is the default namespace. -/
def qualifierOf (schema : Schema) (uri : String) : Except SchemaError (Option String) :=
  match schema.bindings.qualifierOf uri with
  | some qualifier => .ok (some qualifier)
  | none =>
    if schema.bindings.default = some uri then .ok none
    else .error (.namespaceWithoutQualifier schema.targetNamespace uri)

/-- Whether a directive imports this namespace, or imports without naming one. Inclusions do not
count. -/
def importsNamespace (schema : Schema) (uri : Option String) : Bool :=
  schema.directives.any fun directive => directive.kind = .importing && directive.uri = uri

def topLevelName (schema : Schema) (localName : String) : ExpandedName :=
  ⟨schema.targetNamespace, localName⟩

def headNames (schema : Schema) (declaration : ElementDeclaration) :
    Except SchemaError (List ExpandedName) :=
  declaration.substitutionGroup.mapM schema.resolve

def affiliations (schema : Schema) : Except SchemaError (List (List ExpandedName)) :=
  schema.elements.mapM schema.headNames

end Schema

end SchemaContent
