import SchemaContent.Proofs.RelatedRuns
import SchemaContent.Schema.Reading

/-! # Replaced locations

A document may be changed in where its directives find their documents, and in nothing
else. It is read as before then, to a schema with the replaced locations. -/

namespace SchemaContent

variable {relates : String → String → Prop}

/-! ## Documents -/

namespace Xml

/-- An attribute of a directive that is kept, or a location that is replaced by a related
one. Blanks around it do not belong to it. -/
inductive Attribute.Relocated (relates : String → String → Prop) : Attribute → Attribute → Prop
  | kept {unchanged : Attribute} (noLocation : unchanged.name ≠ ⟨none, "schemaLocation"⟩) :
      Relocated relates unchanged unchanged
  | replaced {value other : String}
      (related : relates (String.ofList (Text.trim value.toList))
        (String.ofList (Text.trim other.toList))) :
      Relocated relates ⟨⟨none, "schemaLocation"⟩, value⟩ ⟨⟨none, "schemaLocation"⟩, other⟩

/-- A child of the root that is kept, or a directive with its location replaced. -/
inductive Element.Relocated (relates : String → String → Prop) : Element → Element → Prop
  | kept {element : Element} (noImport : element.name.localName ≠ "import")
      (noInclude : element.name.localName ≠ "include") : Relocated relates element element
  | directive {name : ExpandedName} {attributes others : List Attribute}
      {children : List Element}
      (isDirective : name.localName = "import" ∨ name.localName = "include")
      (matched : List.Forall₂ (Attribute.Relocated relates) attributes others) :
      Relocated relates ⟨name, attributes, children⟩ ⟨name, others, children⟩

/-- The same document, but for the locations of its directives. -/
structure Document.Relocated (relates : String → String → Prop) (document other : Document) :
    Prop where
  bindings : other.bindings = document.bindings
  name : other.root.name = document.root.name
  attributes : other.root.attributes = document.root.attributes
  children : List.Forall₂ (Element.Relocated relates) document.root.children other.root.children

end Xml

/-! ## Directives -/

namespace Attributes

variable {attributes others : List Xml.Attribute}

theorem rel_text?_of_relocated
    (matched : List.Forall₂ (Xml.Attribute.Relocated relates) attributes others)
    (name : String) :
    Option.Rel (fun value other => if name = "schemaLocation" then relates value other
      else other = value) (text? attributes name) (text? others name) := by
  rw [text?, text?, Xml.value?, Xml.value?]
  induction matched with
  | nil => exact .none
  | @cons first _ _ _ head _ induction =>
      rw [List.find?_cons, List.find?_cons]
      cases head with
      | kept noLocation =>
          cases isNamed : decide (first.name = ⟨none, name⟩) with
          | false => exact induction
          | true =>
              have notLocation : name ≠ "schemaLocation" := by
                rintro rfl
                exact noLocation (of_decide_eq_true isNamed)
              refine .some ?_
              rw [if_neg notLocation]
      | replaced related =>
          cases isNamed : decide (ExpandedName.mk none "schemaLocation" = ⟨none, name⟩) with
          | false => exact induction
          | true =>
              have isLocation := congrArg ExpandedName.localName (of_decide_eq_true isNamed)
              refine .some ?_
              rw [if_pos isLocation.symm]
              exact related

theorem rel_schemaLocation_of_relocated
    (matched : List.Forall₂ (Xml.Attribute.Relocated relates) attributes others) :
    Option.Rel relates (text? attributes "schemaLocation") (text? others "schemaLocation") :=
  rel_text?_of_relocated matched "schemaLocation"

theorem namespace_of_relocated
    (matched : List.Forall₂ (Xml.Attribute.Relocated relates) attributes others) :
    text? others "namespace" = text? attributes "namespace" := by
  have related := rel_text?_of_relocated matched "namespace"
  generalize text? attributes "namespace" = value at related ⊢
  generalize text? others "namespace" = other at related ⊢
  cases related with
  | none => rfl
  | some same => exact congrArg some same

end Attributes

structure Directive.Relocated (relates : String → String → Prop) (directive other : Directive) :
    Prop where
  kind : other.kind = directive.kind
  uri : other.uri = directive.uri
  location : Option.Rel relates directive.location other.location

/-- Whether a directive can be read does not depend on its location. -/
theorem Directive.related_ofXml (kind : DirectiveKind) (targetNamespace : Option String)
    {name : ExpandedName} {attributes others : List Xml.Attribute} {children : List Xml.Element}
    (matched : List.Forall₂ (Xml.Attribute.Relocated relates) attributes others) :
    Related Eq (Relocated relates) (ofXml kind targetNamespace ⟨name, attributes, children⟩)
      (ofXml kind targetNamespace ⟨name, others, children⟩) := by
  have sameUri := Attributes.namespace_of_relocated matched
  have relocated : Relocated relates
      ⟨kind, Attributes.text? attributes "namespace", Attributes.text? attributes "schemaLocation"⟩
      ⟨kind, Attributes.text? others "namespace", Attributes.text? others "schemaLocation"⟩ :=
    ⟨rfl, sameUri, Attributes.rel_schemaLocation_of_relocated matched⟩
  unfold ofXml
  dsimp only
  rw [sameUri] at relocated ⊢
  cases kind with
  | including => exact .ok relocated
  | importing =>
      generalize Attributes.text? attributes "namespace" = uri at relocated ⊢
      cases uri with
      | none =>
          cases targetNamespace with
          | none => exact .error rfl
          | some own => exact .ok relocated
      | some imported =>
          cases targetNamespace with
          | none => exact .ok relocated
          | some own =>
              by_cases isOwn : imported = own
              · simp only [if_pos isOwn]
                exact .error rfl
              · simp only [if_neg isOwn]
                exact .ok relocated

/-! ## Schemas -/

inductive TopLevel.Relocated (relates : String → String → Prop) : TopLevel → TopLevel → Prop
  | kept {part : TopLevel} (noDirective : part.directive? = none) :
      Relocated relates part part
  | directive {directive other : Directive} (relocated : directive.Relocated relates other) :
      Relocated relates (.directive directive) (.directive other)

theorem TopLevel.directives_of_relocated {parts peers : List TopLevel}
    (matched : List.Forall₂ (Relocated relates) parts peers) :
    List.Forall₂ (Directive.Relocated relates) (parts.filterMap directive?)
      (peers.filterMap directive?) := by
  have sameKind : Relator.LiftFun (Relocated relates) (Option.Rel (Directive.Relocated relates))
      directive? directive? := by
    intro part peer relocated
    cases relocated with
    | kept noDirective =>
        rw [noDirective]
        exact .none
    | directive relocated => exact .some relocated
  exact List.rel_filterMap sameKind matched

theorem TopLevel.filterMap_of_relocated {α : Type} {part? : TopLevel → Option α}
    (noDirective : ∀ directive, part? (.directive directive) = none)
    {parts peers : List TopLevel} (matched : List.Forall₂ (Relocated relates) parts peers) :
    peers.filterMap part? = parts.filterMap part? := by
  induction matched with
  | nil => rfl
  | cons head _ induction =>
      rw [List.filterMap_cons, List.filterMap_cons, induction]
      cases head with
      | kept => rfl
      | directive => rw [noDirective, noDirective]

theorem TopLevel.directive?_of_ofXml {targetNamespace : Option String} {element : Xml.Element}
    (noImport : element.name.localName ≠ "import")
    (noInclude : element.name.localName ≠ "include") {part : TopLevel}
    (isPart : ofXml targetNamespace element = .ok part) : part.directive? = none := by
  rw [ofXml] at isPart
  simp only [if_neg noImport, if_neg noInclude] at isPart
  repeat' split at isPart
  · rcases exists_of_map_eq_ok isPart with ⟨_, _, rfl⟩
    rfl
  · rcases exists_of_map_eq_ok isPart with ⟨_, _, rfl⟩
    rfl
  · rcases exists_of_map_eq_ok isPart with ⟨_, _, rfl⟩
    rfl
  · cases isPart
    rfl
  · cases isPart

theorem TopLevel.related_ofXml (targetNamespace : Option String) {element other : Xml.Element}
    (relocated : element.Relocated relates other) :
    Related Eq (Relocated relates) (ofXml targetNamespace element)
      (ofXml targetNamespace other) := by
  cases relocated with
  | kept noImport noInclude =>
      cases isPart : ofXml targetNamespace element with
      | error fault => exact .error rfl
      | ok part => exact .ok (.kept (directive?_of_ofXml noImport noInclude isPart))
  | directive isDirective matched =>
      rw [ofXml, ofXml]
      rcases isDirective with isImport | isInclude
      · simp only [if_pos isImport]
        exact (Directive.related_ofXml .importing targetNamespace matched).map
          fun _ _ relocated => .directive relocated
      · have noImport : ¬"include" = "import" := by decide
        simp only [isInclude, if_neg noImport, if_true]
        exact (Directive.related_ofXml .including targetNamespace matched).map
          fun _ _ relocated => .directive relocated

namespace Schema

/-- The same schema, but for the locations of its directives. -/
structure Relocated (relates : String → String → Prop) (schema other : Schema) : Prop where
  directives : List.Forall₂ (Directive.Relocated relates) schema.directives other.directives
  others : other = { schema with directives := other.directives }

/-- Whether a document can be read as a schema does not depend on the locations in it. -/
theorem related_ofXml {document other : Xml.Document}
    (relocated : document.Relocated relates other) :
    Related Eq (Relocated relates) (ofXml document) (ofXml other) := by
  rw [ofXml, ofXml]
  simp only [relocated.name, relocated.attributes, relocated.bindings]
  split
  · exact .error rfl
  refine (Related.refl _).bind ?_
  rintro elementForm _ rfl
  refine (Related.mapM relocated.children fun _ _ => TopLevel.related_ofXml _).bind ?_
  intro parts peers matched
  refine .ok ⟨TopLevel.directives_of_relocated matched, ?_⟩
  have sameElements : peers.filterMap TopLevel.element? = parts.filterMap TopLevel.element? :=
    TopLevel.filterMap_of_relocated (fun _ => rfl) matched
  have sameTypes : peers.filterMap TopLevel.complexType? = parts.filterMap TopLevel.complexType? :=
    TopLevel.filterMap_of_relocated (fun _ => rfl) matched
  have sameNames : peers.filterMap TopLevel.simpleType? = parts.filterMap TopLevel.simpleType? :=
    TopLevel.filterMap_of_relocated (fun _ => rfl) matched
  rw [sameElements, sameTypes, sameNames]

theorem related_parse {text other : String} {allowDoctype : Bool}
    (relocated : Related (fun _ _ => True) (Xml.Document.Relocated relates)
      (Xml.Document.read text allowDoctype) (Xml.Document.read other allowDoctype)) :
    Related (fun _ _ => True) (Relocated relates) (parse text allowDoctype)
      (parse other allowDoctype) := by
  rw [parse, parse]
  generalize Xml.Document.read text allowDoctype = document at relocated ⊢
  generalize Xml.Document.read other allowDoctype = peer at relocated ⊢
  cases relocated with
  | error => exact .error trivial
  | ok same => exact (related_ofXml same).anyFault

end Schema

end SchemaContent
