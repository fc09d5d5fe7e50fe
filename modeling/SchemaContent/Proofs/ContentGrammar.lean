import SchemaContent.Proofs.RelatedRuns
import SchemaContent.Proofs.SelectedContent
import SchemaContent.Proofs.WrittenSchemas

/-! # The grammar of contents

Which element trees a content can be read from, and what is read from them: a particle for
each child of a group that stands for one, in order, at every depth. -/

namespace SchemaContent

open Xml.Element

/-! ## The grammar -/

/-- The text consists of decimal digits of a number that fits a 64-bit word. -/
structure IsNumeral (digits : List Char) : Prop where
  notEmpty : digits ≠ []
  areDigits : ∀ digit ∈ digits, digit.isDigit
  fits : decimalValue 0 digits < UInt64.size

/-- The text is a numeral, perhaps with a plus sign before it. -/
inductive IsCount : List Char → Prop
  | unsigned {digits : List Char} (isNumeral : IsNumeral digits) : IsCount digits
  | signed {digits : List Char} (isNumeral : IsNumeral digits) : IsCount ('+' :: digits)

theorem isNumeral_iff (digits : List Char) :
    (!digits.isEmpty && digits.all Char.isDigit && decimalValue 0 digits < UInt64.size) = true ↔
      IsNumeral digits := by
  rw [Bool.and_eq_true, Bool.and_eq_true, List.all_eq_true, decide_eq_true_iff,
    Bool.not_eq_true', List.isEmpty_eq_false_iff]
  exact ⟨fun ⟨⟨notEmpty, areDigits⟩, fits⟩ => ⟨notEmpty, areDigits, fits⟩,
    fun isNumeral => ⟨⟨isNumeral.notEmpty, isNumeral.areDigits⟩, isNumeral.fits⟩⟩

theorem isCount_iff (text : List Char) : IsCount text ↔ IsNumeral (unsignedDigits text) := by
  constructor
  · rintro (isNumeral | isNumeral)
    · rw [unsignedDigits]
      · exact isNumeral
      · rintro rest rfl
        exact absurd (isNumeral.areDigits '+' List.mem_cons_self) (by decide)
    · exact isNumeral
  · intro isNumeral
    cases text using unsignedDigits.fun_cases with
    | case1 rest => exact .signed isNumeral
    | case2 text noSign =>
        rw [unsignedDigits] at isNumeral
        · exact .unsigned isNumeral
        · exact noSign

theorem exists_readCount_iff (text : List Char) :
    (∃ count, readCount text = some count) ↔ IsCount text := by
  rw [isCount_iff, ← isNumeral_iff, readCount]
  split <;> simp_all

namespace Attributes

/-- Bounds that are written are counts, or the upper one is the word for none. -/
structure BoundsWellFormed (attributes : List Xml.Attribute) : Prop where
  min : ∀ text, text? attributes "minOccurs" = some text → IsCount text.toList
  max : ∀ text, text? attributes "maxOccurs" = some text →
    text = "unbounded" ∨ IsCount text.toList

/-- If a form is written, it is one of the two. -/
def FormWellFormed (attributes : List Xml.Attribute) : Prop :=
  ∀ text, text? attributes "form" = some text → text = "qualified" ∨ text = "unqualified"

end Attributes

/-- The element tree is in the grammar of contents: a group in which each child is passed
over or is in the grammar, or an element with a name or a reference in which each complex
type has a content in the grammar, if it has any. -/
inductive Xml.Element.Accepted : Xml.Element → Prop
  | group {name : ExpandedName} {attributes : List Xml.Attribute} {children : List Xml.Element}
      (isGroup : IsGroup ⟨name, attributes, children⟩)
      (bounds : Attributes.BoundsWellFormed attributes)
      (inside : ∀ child ∈ children, ¬child.IsPassedOver → child.Accepted) :
      Accepted ⟨name, attributes, children⟩
  | element {name : ExpandedName} {attributes : List Xml.Attribute} {children : List Xml.Element}
      (isElement : name.localName = "element")
      (named : (Attributes.text? attributes "name").isSome ∨
        (Attributes.text? attributes "ref").isSome)
      (bounds : Attributes.BoundsWellFormed attributes)
      (form : Attributes.FormWellFormed attributes)
      (inside : ∀ child ∈ children, child.tag = "complexType" →
        ∀ group, Selects child.children group → group.Accepted) :
      Accepted ⟨name, attributes, children⟩

/-- A child of an element that declares a type. -/
def Xml.Element.IsType (child : Xml.Element) : Prop :=
  child.tag = "simpleType" ∨ child.tag = "complexType"

/-- The children of a group that stand for particles. -/
def Xml.Element.particleChildren (children : List Xml.Element) : List Xml.Element :=
  children.filter fun child => ¬child.IsPassedOver

mutual

/-- The particle is what the element tree says: a group has a particle for each child that
is not passed over, in order. -/
inductive Particle.Mirrors : Particle → Xml.Element → Prop
  | group {name : ExpandedName} {attributes : List Xml.Attribute} {children : List Xml.Element}
      {compositor : Compositor} {occurrence : Occurrence} {particles : List Particle}
      (isGroup : compositor.tag = name.localName)
      (bounds : Attributes.occurrence attributes = .ok occurrence)
      (each : List.Forall₂ Particle.Mirrors particles (particleChildren children)) :
      Particle.Mirrors (.group compositor ⟨occurrence, particles⟩) ⟨name, attributes, children⟩
  | element {name : ExpandedName} {attributes : List Xml.Attribute} {children : List Xml.Element}
      {declared : Declared} {anonymousType : Option AnonymousType}
      {declaration : ElementDeclaration} (isElement : name.localName = "element")
      (isDeclared : ElementDeclaration.readDeclared attributes = .ok declared)
      (type : AnonymousType.Mirrors anonymousType children)
      (made : ElementDeclaration.ofAttributes attributes declared anonymousType =
        .ok declaration) :
      Particle.Mirrors (.element declaration) ⟨name, attributes, children⟩

/-- The anonymous type of an element is what the last of its children that is one says. -/
inductive AnonymousType.Mirrors : Option AnonymousType → List Xml.Element → Prop
  | none {children : List Xml.Element} (noType : ∀ child ∈ children, ¬child.IsType) :
      AnonymousType.Mirrors none children
  | simple {before after : List Xml.Element} {child : Xml.Element}
      (isSimple : child.tag = "simpleType") (isLast : ∀ later ∈ after, ¬later.IsType) :
      AnonymousType.Mirrors (some .simple) (before ++ child :: after)
  | complex {before after : List Xml.Element} {child : Xml.Element} {content : Option Particle}
      (isComplex : child.tag = "complexType") (isLast : ∀ later ∈ after, ¬later.IsType)
      (ofContent : Particle.MirrorsContent content child.children) :
      AnonymousType.Mirrors
        (some (.complex ⟨Attributes.text? child.attributes "name", content⟩))
        (before ++ child :: after)

/-- The content of a type is what the selected group says, if there is one. -/
inductive Particle.MirrorsContent : Option Particle → List Xml.Element → Prop
  | none {children : List Xml.Element} (noGroup : ∀ group, ¬Selects children group) :
      Particle.MirrorsContent none children
  | some {children : List Xml.Element} {group : Xml.Element} {particle : Particle}
      (selected : Selects children group) (mirrors : Particle.Mirrors particle group) :
      Particle.MirrorsContent (some particle) children

end

/-! ## Attributes -/

namespace Attributes

variable {attributes : List Xml.Attribute}

theorem exists_read?_iff {α : Type} (read : List Char → Option α)
    (attributes : List Xml.Attribute) (name : String) :
    (∃ result, read? read attributes name = .ok result) ↔
      ∀ text, text? attributes name = some text → ∃ value, read text.toList = some value := by
  rw [read?]
  cases text? attributes name with
  | none => simp
  | some text => cases isRead : read text.toList <;> simp [isRead]

theorem exists_readMaxOccurs_iff (text : String) :
    (∃ bound, readMaxOccurs text.toList = some bound) ↔
      text = "unbounded" ∨ IsCount text.toList := by
  rw [readMaxOccurs, ← exists_readCount_iff]
  by_cases isWord : text = "unbounded"
  · rw [isWord, if_pos rfl]
    exact ⟨fun _ => .inl rfl, fun _ => ⟨_, rfl⟩⟩
  · rw [if_neg (mt String.toList_inj.mp isWord), or_iff_right isWord]
    cases readCount text.toList <;> simp

theorem exists_occurrence_iff :
    (∃ bounds, occurrence attributes = .ok bounds) ↔ BoundsWellFormed attributes := by
  have minIff := exists_read?_iff readCount attributes "minOccurs"
  have maxIff := exists_read?_iff readMaxOccurs attributes "maxOccurs"
  simp only [exists_readCount_iff] at minIff
  simp only [exists_readMaxOccurs_iff] at maxIff
  constructor
  · rintro ⟨bounds, read⟩
    rcases exists_of_bind_eq_ok read with ⟨min, minRead, read⟩
    rcases exists_of_bind_eq_ok read with ⟨max, maxRead, _⟩
    exact ⟨minIff.mp ⟨min, minRead⟩, maxIff.mp ⟨max, maxRead⟩⟩
  · intro wellFormed
    rcases minIff.mpr wellFormed.min with ⟨min, minRead⟩
    rcases maxIff.mpr wellFormed.max with ⟨max, maxRead⟩
    rw [occurrence, minRead, maxRead]
    exact ⟨_, rfl⟩

theorem exists_form_iff :
    (∃ form, read? readForm attributes "form" = .ok form) ↔ FormWellFormed attributes := by
  rw [exists_read?_iff, FormWellFormed]
  apply forall₂_congr
  intro text _
  rw [readForm]
  by_cases isQualified : text = "qualified"
  · rw [isQualified, if_pos rfl]
    exact ⟨fun _ => .inl rfl, fun _ => ⟨_, rfl⟩⟩
  · rw [if_neg (mt String.toList_inj.mp isQualified), or_iff_right isQualified]
    by_cases isUnqualified : text = "unqualified"
    · rw [isUnqualified, if_pos rfl]
      exact ⟨fun _ => rfl, fun _ => ⟨_, rfl⟩⟩
    · rw [if_neg (mt String.toList_inj.mp isUnqualified)]
      exact ⟨nofun, fun same => absurd same isUnqualified⟩

end Attributes

theorem ElementDeclaration.exists_readDeclared_iff {attributes : List Xml.Attribute} :
    (∃ declared, readDeclared attributes = .ok declared) ↔
      (Attributes.text? attributes "name").isSome ∨
        (Attributes.text? attributes "ref").isSome := by
  rw [readDeclared, Attributes.reference?]
  cases Attributes.text? attributes "ref" <;> cases Attributes.text? attributes "name" <;> simp

theorem ElementDeclaration.exists_ofAttributes_iff {attributes : List Xml.Attribute}
    {declared : Declared} {anonymousType : Option AnonymousType} :
    (∃ declaration, ofAttributes attributes declared anonymousType = .ok declaration) ↔
      Attributes.BoundsWellFormed attributes ∧ Attributes.FormWellFormed attributes := by
  rw [← Attributes.exists_occurrence_iff, ← Attributes.exists_form_iff]
  constructor
  · rintro ⟨declaration, made⟩
    rcases exists_of_bind_eq_ok made with ⟨bounds, boundsRead, made⟩
    rcases exists_of_bind_eq_ok made with ⟨form, formRead, _⟩
    exact ⟨⟨bounds, boundsRead⟩, form, formRead⟩
  · rintro ⟨⟨bounds, boundsRead⟩, form, formRead⟩
    rw [ofAttributes, boundsRead, formRead]
    exact ⟨_, rfl⟩

theorem Compositor.tag_of_ofTag {word : String} {compositor : Compositor}
    (ofTag : Compositor.ofTag word = some compositor) : compositor.tag = word := by
  rw [Compositor.ofTag] at ofTag
  split at ofTag
  case isTrue isSequence => rw [← Option.some.inj ofTag, isSequence, tag]
  split at ofTag
  case isTrue isChoice => rw [← Option.some.inj ofTag, isChoice, tag]
  split at ofTag
  case isTrue isAll => rw [← Option.some.inj ofTag, isAll, tag]
  cases ofTag

/-! ## Children -/

namespace Particle

theorem ofXml_of_element {name : ExpandedName} (attributes : List Xml.Attribute)
    (children : List Xml.Element) (isElement : name.localName = "element") :
    ofXml ⟨name, attributes, children⟩ = do
      let declared ← ElementDeclaration.readDeclared attributes
      let anonymousType ← AnonymousType.lastOfXml children
      let declaration ← ElementDeclaration.ofAttributes attributes declared anonymousType
      return some (.element declaration) := by
  rw [ofXml, if_pos isElement]

theorem ofXml_of_ofTag {name : ExpandedName} {compositor : Compositor}
    (attributes : List Xml.Attribute) (children : List Xml.Element)
    (isGroup : Compositor.ofTag name.localName = some compositor) :
    ofXml ⟨name, attributes, children⟩ = do
      let particles ← listOfXml children
      let group ← ModelGroup.ofAttributes attributes particles
      return some (.group compositor group) := by
  have notElement : name.localName ≠ "element" := by
    rintro isElement
    rw [isElement] at isGroup
    cases isGroup
  rw [ofXml, if_neg notElement, isGroup]

/-- Only what is passed over has no particle. -/
theorem ofXml_eq_none_iff (element : Xml.Element) :
    ofXml element = .ok none ↔ element.IsPassedOver := by
  rcases element with ⟨name, attributes, children⟩
  rw [isPassedOver_iff]
  by_cases isElement : name.localName = "element"
  · rw [ofXml_of_element attributes children isElement, tag, isElement]
    constructor
    · intro read
      rcases exists_of_bind_eq_ok read with ⟨_, _, read⟩
      rcases exists_of_bind_eq_ok read with ⟨_, _, read⟩
      rcases exists_of_bind_eq_ok read with ⟨_, _, read⟩
      cases read
    · exact fun isPassedOver => absurd isPassedOver (by decide)
  · cases isGroup : Compositor.ofTag name.localName with
    | some compositor =>
        rw [ofXml_of_ofTag attributes children isGroup]
        constructor
        · intro read
          rcases exists_of_bind_eq_ok read with ⟨_, _, read⟩
          rcases exists_of_bind_eq_ok read with ⟨_, _, read⟩
          cases read
        · intro isPassedOver
          have ofTag : IsGroup ⟨name, attributes, children⟩ :=
            isGroup_iff.mpr (Option.isSome_iff_exists.mpr ⟨compositor, isGroup⟩)
          exact absurd (isPassedOver_iff.mpr isPassedOver) ofTag.not_isPassedOver
    | none =>
        rw [ofXml, if_neg isElement, isGroup]
        by_cases isPassedOver : isPassedOver name.localName = true
        · rw [if_pos isPassedOver]
          exact ⟨fun _ => isPassedOver, fun _ => rfl⟩
        · rw [if_neg isPassedOver]
          refine ⟨?_, fun isOne => absurd isOne isPassedOver⟩
          intro read
          cases read

theorem forall₂_of_listOfXml (children : List Xml.Element) :
    ∀ {particles : List Particle}, listOfXml children = .ok particles →
      List.Forall₂ (fun particle child => ofXml child = .ok (some particle)) particles
        (particleChildren children) := by
  induction children with
  | nil =>
      intro particles read
      rw [listOfXml] at read
      cases read
      exact .nil
  | cons child rest induction =>
      intro particles read
      rw [listOfXml] at read
      rcases exists_of_bind_eq_ok read with ⟨first, isFirst, read⟩
      rcases exists_of_bind_eq_ok read with ⟨others, areOthers, read⟩
      cases read
      cases first with
      | none =>
          have isPassedOver := (ofXml_eq_none_iff child).mp isFirst
          rw [particleChildren, List.filter_cons_of_neg (by simp [isPassedOver])]
          exact induction areOthers
      | some particle =>
          have notPassedOver : ¬child.IsPassedOver := by
            intro isPassedOver
            rw [(ofXml_eq_none_iff child).mpr isPassedOver] at isFirst
            cases isFirst
          rw [particleChildren, List.filter_cons_of_pos (by simp [notPassedOver])]
          exact .cons isFirst (induction areOthers)

theorem exists_listOfXml {children : List Xml.Element}
    (each : ∀ child ∈ children, ¬child.IsPassedOver →
      ∃ particle, ofXml child = .ok (some particle)) :
    ∃ particles, listOfXml children = .ok particles := by
  induction children with
  | nil => exact ⟨[], by rw [listOfXml]; rfl⟩
  | cons child rest induction =>
      rcases List.forall_mem_cons.mp each with ⟨ofChild, ofRest⟩
      rcases induction ofRest with ⟨particles, listed⟩
      have isRead : ∃ first, ofXml child = .ok first := by
        by_cases isPassedOver : child.IsPassedOver
        · exact ⟨none, (ofXml_eq_none_iff child).mpr isPassedOver⟩
        · rcases ofChild isPassedOver with ⟨particle, read⟩
          exact ⟨some particle, read⟩
      rcases isRead with ⟨first, read⟩
      rw [listOfXml, read, listed]
      exact ⟨_, rfl⟩

end Particle

/-! ## Types -/

namespace AnonymousType

theorem ofXml_of_simpleType {child : Xml.Element} (isSimple : child.tag = "simpleType") :
    ofXml child = .ok (some .simple) := by
  rcases child with ⟨name, attributes, children⟩
  rw [ofXml, if_pos isSimple]
  rfl

theorem ofXml_of_complexType {child : Xml.Element} (isComplex : child.tag = "complexType") :
    ofXml child = do
      let content ← Particle.contentOfXml child.children
      return some (.complex ⟨Attributes.text? child.attributes "name", content⟩) := by
  rcases child with ⟨name, attributes, children⟩
  have notSimple : name.localName ≠ "simpleType" := by
    intro isSimple
    exact absurd (isComplex.symm.trans isSimple) (by decide)
  rw [ofXml, if_neg notSimple, if_pos isComplex]

theorem ofXml_of_not_isType {child : Xml.Element} (notType : ¬child.IsType) :
    ofXml child = .ok none := by
  rcases child with ⟨name, attributes, children⟩
  rw [IsType, not_or] at notType
  rw [ofXml, if_neg notType.1, if_neg notType.2]
  rfl

theorem isSome_of_ofXml {child : Xml.Element} {own : Option AnonymousType}
    (isType : child.IsType) (read : ofXml child = .ok own) : own.isSome := by
  rcases isType with isSimple | isComplex
  · rw [ofXml_of_simpleType isSimple] at read
    cases read
    rfl
  · rw [ofXml_of_complexType isComplex] at read
    rcases exists_of_bind_eq_ok read with ⟨content, _, read⟩
    cases read
    rfl

/-- A child is read if the content that it selects is, where it is a complex type. -/
theorem exists_ofXml {child : Xml.Element}
    (ofGroup : child.tag = "complexType" → ∀ group, Selects child.children group →
      ∃ particle, Particle.ofXml group = .ok (some particle)) :
    ∃ own, ofXml child = .ok own := by
  by_cases isType : child.IsType
  · rcases isType with isSimple | isComplex
    · exact ⟨_, ofXml_of_simpleType isSimple⟩
    · rw [ofXml_of_complexType isComplex]
      rcases Particle.selects_or_contentOfXml_eq_none child.children with
        ⟨group, selected⟩ | isNone
      · rcases ofGroup isComplex group selected with ⟨particle, read⟩
        rw [Particle.contentOfXml_of_selects selected, read]
        exact ⟨_, rfl⟩
      · rw [isNone]
        exact ⟨_, rfl⟩
  · exact ⟨_, ofXml_of_not_isType isType⟩

/-- An element's type is read from the last child that declares one. -/
theorem exists_last_of_lastOfXml (children : List Xml.Element) :
    ∀ {anonymousType : Option AnonymousType}, lastOfXml children = .ok anonymousType →
      (anonymousType = none ∧ ∀ child ∈ children, ¬child.IsType) ∨
        ∃ before child after, children = before ++ child :: after ∧ child.IsType ∧
          (∀ later ∈ after, ¬later.IsType) ∧ ofXml child = .ok anonymousType := by
  induction children with
  | nil =>
      intro anonymousType read
      rw [lastOfXml] at read
      cases read
      exact .inl ⟨rfl, fun _ isChild => absurd isChild List.not_mem_nil⟩
  | cons first rest induction =>
      intro anonymousType read
      rw [lastOfXml] at read
      rcases exists_of_bind_eq_ok read with ⟨own, ofFirst, read⟩
      rcases exists_of_bind_eq_ok read with ⟨later, ofRest, read⟩
      cases read
      rcases induction ofRest with ⟨rfl, noType⟩ | ⟨before, child, after, rfl, isType, isLast, read⟩
      · rw [Option.none_or]
        by_cases isType : first.IsType
        · exact .inr ⟨[], first, rest, rfl, isType, noType, ofFirst⟩
        · rw [ofXml_of_not_isType isType] at ofFirst
          cases ofFirst
          exact .inl ⟨rfl, List.forall_mem_cons.mpr ⟨isType, noType⟩⟩
      · rw [Option.or_of_isSome (isSome_of_ofXml isType read)]
        exact .inr ⟨first :: before, child, after, rfl, isType, isLast, read⟩

theorem exists_lastOfXml_iff (children : List Xml.Element) :
    (∃ anonymousType, lastOfXml children = .ok anonymousType) ↔
      ∀ child ∈ children, ∃ own, ofXml child = .ok own := by
  induction children with
  | nil => exact ⟨nofun, fun _ => ⟨none, by rw [lastOfXml]; rfl⟩⟩
  | cons first rest induction =>
      rw [List.forall_mem_cons, ← induction, lastOfXml]
      constructor
      · rintro ⟨anonymousType, read⟩
        rcases exists_of_bind_eq_ok read with ⟨own, ofFirst, read⟩
        rcases exists_of_bind_eq_ok read with ⟨later, ofRest, _⟩
        exact ⟨⟨own, ofFirst⟩, later, ofRest⟩
      · rintro ⟨⟨own, ofFirst⟩, later, ofRest⟩
        rw [ofFirst, ofRest]
        exact ⟨_, rfl⟩

end AnonymousType

/-! ## Reading trees of the grammar -/

/-- Whatever is in the grammar is read. -/
theorem Xml.Element.Accepted.exists_particle {element : Xml.Element}
    (accepted : element.Accepted) :
    ∃ particle, Particle.ofXml element = .ok (some particle) := by
  induction accepted with
  | @group name attributes children isGroup bounds inside induction =>
      rcases Option.isSome_iff_exists.mp (isGroup_iff.mp isGroup) with ⟨compositor, ofTag⟩
      rcases Particle.exists_listOfXml induction with ⟨particles, listed⟩
      rcases Attributes.exists_occurrence_iff.mpr bounds with ⟨occurrence, read⟩
      rw [Particle.ofXml_of_ofTag attributes children ofTag, listed]
      simp only [ModelGroup.ofAttributes, read]
      exact ⟨_, rfl⟩
  | @element name attributes children isElement named bounds form inside induction =>
      have typed : ∀ child ∈ children, ∃ own, AnonymousType.ofXml child = .ok own :=
        fun child isChild => AnonymousType.exists_ofXml (induction child isChild)
      rcases (AnonymousType.exists_lastOfXml_iff children).mpr typed with ⟨anonymousType, isLast⟩
      rcases ElementDeclaration.exists_readDeclared_iff.mpr named with ⟨declared, isDeclared⟩
      rcases ElementDeclaration.exists_ofAttributes_iff.mpr ⟨bounds, form⟩ with
        ⟨declaration, made⟩
      rw [Particle.ofXml_of_element attributes children isElement, isDeclared, isLast]
      refine ⟨.element declaration, ?_⟩
      change (ElementDeclaration.ofAttributes attributes declared anonymousType >>=
        fun declaration => Pure.pure (some (Particle.element declaration))) = _
      rw [made]
      rfl

/-! ## What is read -/

namespace Particle

/-- The reading of the tree succeeds only if it is in the grammar, and gives a particle that
mirrors it. -/
def ReadsTruly (element : Xml.Element) : Prop :=
  ∀ particle, ofXml element = .ok (some particle) →
    element.Accepted ∧ particle.Mirrors element

theorem readsTruly_of_ofTag {name : ExpandedName} {attributes : List Xml.Attribute}
    {children : List Xml.Element} {compositor : Compositor}
    (ofTag : Compositor.ofTag name.localName = some compositor)
    (inside : ∀ child ∈ children, ReadsTruly child) : ReadsTruly ⟨name, attributes, children⟩ := by
  intro particle read
  rw [ofXml_of_ofTag attributes children ofTag] at read
  rcases exists_of_bind_eq_ok read with ⟨particles, listed, read⟩
  rcases exists_of_bind_eq_ok read with ⟨group, made, read⟩
  cases read
  rcases exists_of_bind_eq_ok made with ⟨occurrence, bounds, made⟩
  cases made
  have areRead := forall₂_of_listOfXml children listed
  have ⟨sameLength, each⟩ := List.forall₂_iff_zip.mp areRead
  constructor
  · refine .group (isGroup_iff.mpr (Option.isSome_iff_exists.mpr ⟨compositor, ofTag⟩))
      (Attributes.exists_occurrence_iff.mp ⟨occurrence, bounds⟩) ?_
    intro child isChild notPassedOver
    have standsForParticle : child ∈ particleChildren children :=
      List.mem_filter.mpr ⟨isChild, decide_eq_true notPassedOver⟩
    rcases exists_of_mem_of_forall₂ areRead.flip standsForParticle with ⟨particle, _, read⟩
    exact (inside child isChild particle read).1
  · refine .group (Compositor.tag_of_ofTag ofTag) bounds (List.forall₂_iff_zip.mpr ⟨sameLength, ?_⟩)
    intro particle child isPair
    have isChild := (List.mem_filter.mp (List.of_mem_zip isPair).2).1
    exact (inside child isChild particle (each isPair)).2

theorem exists_some_of_isGroup {group : Xml.Element} {content : Option Particle}
    (isGroup : group.IsGroup) (read : ofXml group = .ok content) :
    ∃ particle, content = some particle := by
  cases content with
  | none => exact absurd ((ofXml_eq_none_iff group).mp read) isGroup.not_isPassedOver
  | some particle => exact ⟨particle, rfl⟩

theorem mirrorsContent_of_contentOfXml {children : List Xml.Element} {content : Option Particle}
    (read : contentOfXml children = .ok content)
    (inside : ∀ group, Selects children group → ReadsTruly group) :
    MirrorsContent content children := by
  by_cases isSelected : ∃ group, Selects children group
  · rcases isSelected with ⟨group, selected⟩
    rw [contentOfXml_of_selects selected] at read
    rcases exists_some_of_isGroup selected.isGroup read with ⟨particle, rfl⟩
    exact .some selected (inside group selected particle read).2
  · have noGroup : ∀ group, ¬Selects children group := not_exists.mp isSelected
    rw [contentOfXml_eq_none noGroup] at read
    cases read
    exact .none noGroup

theorem mirrors_of_lastOfXml {children : List Xml.Element}
    {anonymousType : Option AnonymousType}
    (read : AnonymousType.lastOfXml children = .ok anonymousType)
    (inside : ∀ child ∈ children, ∀ group, Selects child.children group → ReadsTruly group) :
    AnonymousType.Mirrors anonymousType children := by
  rcases AnonymousType.exists_last_of_lastOfXml children read with
    ⟨rfl, noType⟩ | ⟨before, child, after, rfl, isSimple | isComplex, isLast, ofChild⟩
  · exact .none noType
  · rw [AnonymousType.ofXml_of_simpleType isSimple] at ofChild
    cases ofChild
    exact .simple isSimple isLast
  · rw [AnonymousType.ofXml_of_complexType isComplex] at ofChild
    rcases exists_of_bind_eq_ok ofChild with ⟨content, contentRead, ofChild⟩
    cases ofChild
    have isChild : child ∈ before ++ child :: after :=
      List.mem_append_right _ List.mem_cons_self
    exact .complex isComplex isLast
      (mirrorsContent_of_contentOfXml contentRead (inside child isChild))

theorem readsTruly_of_element {name : ExpandedName} {attributes : List Xml.Attribute}
    {children : List Xml.Element} (isElement : name.localName = "element")
    (inside : ∀ child ∈ children, ∀ group, Selects child.children group → ReadsTruly group) :
    ReadsTruly ⟨name, attributes, children⟩ := by
  intro particle read
  rw [ofXml_of_element attributes children isElement] at read
  rcases exists_of_bind_eq_ok read with ⟨declared, isDeclared, read⟩
  rcases exists_of_bind_eq_ok read with ⟨anonymousType, typed, read⟩
  rcases exists_of_bind_eq_ok read with ⟨declaration, made, read⟩
  cases read
  have ⟨bounds, form⟩ := ElementDeclaration.exists_ofAttributes_iff.mp ⟨declaration, made⟩
  constructor
  · refine .element isElement (ElementDeclaration.exists_readDeclared_iff.mp
      ⟨declared, isDeclared⟩) bounds form ?_
    intro child isChild isComplex group selected
    rcases (AnonymousType.exists_lastOfXml_iff children).mp ⟨_, typed⟩ child isChild with
      ⟨own, ofChild⟩
    rw [AnonymousType.ofXml_of_complexType isComplex, contentOfXml_of_selects selected]
      at ofChild
    rcases exists_of_bind_eq_ok ofChild with ⟨content, contentRead, _⟩
    rcases exists_some_of_isGroup selected.isGroup contentRead with ⟨particle, rfl⟩
    exact (inside child isChild group selected particle contentRead).1
  · exact .element isElement isDeclared (mirrors_of_lastOfXml typed inside) made

/-- By strong induction, since a selected group may stand any number of levels below the
element that it belongs to. -/
theorem readsTruly (element : Xml.Element) : ReadsTruly element := by
  intro particle read
  have inside : ∀ other, sizeOf other < sizeOf element → ReadsTruly other :=
    fun other _ => readsTruly other
  rcases element with ⟨name, attributes, children⟩
  have ofChild : ∀ child ∈ children,
      sizeOf child < sizeOf (Xml.Element.mk name attributes children) :=
    fun child isChild => sizeOf_lt_of_mem_children isChild
  by_cases isElement : name.localName = "element"
  · apply readsTruly_of_element isElement ?_ particle read
    intro child isChild group selected
    apply inside
    exact Nat.lt_trans (Nat.lt_trans selected.sizeOf_lt (sizeOf_children_lt child))
      (ofChild child isChild)
  · cases ofTag : Compositor.ofTag name.localName with
    | some compositor =>
        exact readsTruly_of_ofTag ofTag (fun child isChild => inside child (ofChild child isChild))
          particle read
    | none =>
        rw [ofXml, if_neg isElement, ofTag] at read
        dsimp only at read
        split at read <;> cases read
termination_by sizeOf element

end Particle

end SchemaContent
