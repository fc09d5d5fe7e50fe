import SchemaContent.Proofs.Outlines
import SchemaContent.Proofs.WrittenValues

/-! # Legible listings

A listing is read from its first line on: the blanks before a member tell its depth, the blank
after its name where its type begins, and the last blank where its bounds begin. So two
listings are the same only if the outlines in them are. -/

namespace SchemaContent

namespace Listing

/-! ## Types and bounds in lines -/

namespace TypeOutline

/-- The label in which the kind of a type is to be seen. -/
theorem toList_label (type : TypeOutline) :
    type.label.toList =
      match type with
      | .builtin name => 'x' :: 's' :: ':' :: name.localName.toList
      | .named name => name.text.toList
      | .anonymousSimple => "(anonymous simple type)".toList
      | .anonymousComplex element =>
        "(anonymous type of ".toList ++ (element.text.toList ++ [')'])
      | .inline _ => "(inline)".toList := by
  cases type with
  | builtin name => exact String.toList_append
  | named name => rfl
  | anonymousSimple => rfl
  | anonymousComplex element =>
      change ("(anonymous type of " ++ element.text ++ ")").toList = _
      rw [String.toList_append, String.toList_append, List.append_assoc]
      rfl
  | inline members => rfl

theorem lineFeed_not_mem_label {type : TypeOutline} (legible : type.Legible) :
    '\n' ∉ type.label.toList := by
  rw [toList_label]
  cases type with
  | builtin name =>
      have notLocal : '\n' ∉ name.localName.toList := fun isLocal =>
        absurd (legible.1.localName _ isLocal).1 (by decide)
      simpa using notLocal
  | named name =>
      have plain : name.Plain := legible
      exact plain.not_mem_text_of_isBlank (by decide)
  | anonymousSimple => decide
  | anonymousComplex element =>
      have plain : element.Plain := legible
      have notName : '\n' ∉ element.text.toList := plain.not_mem_text_of_isBlank (by decide)
      have notBefore : '\n' ∉ "(anonymous type of ".toList := by decide
      simp only [List.mem_append, List.mem_singleton, not_or]
      exact ⟨notBefore, notName, by decide⟩
  | inline members => exact show '\n' ∉ "(inline)".toList by decide

/-- A label that begins like that of a built-in type is one. -/
theorem builtin_of_label {type : TypeOutline} {localName : List Char} (legible : type.Legible)
    (same : 'x' :: 's' :: ':' :: localName = type.label.toList) :
    ∃ name, type = .builtin name ∧ localName = name.localName.toList := by
  rw [toList_label] at same
  cases type with
  | builtin name => exact ⟨name, rfl, by simpa using same⟩
  | named name =>
      have plain : name.Plain := legible
      exact absurd same.symm (plain.text_ne_of_colon localName)
  | anonymousSimple => cases same
  | anonymousComplex element => cases same
  | inline members => cases same

theorem named_of_label {type : TypeOutline} {name : ExpandedName} (legible : type.Legible)
    (plain : name.Plain) (same : name.text.toList = type.label.toList) : type = .named name := by
  rw [toList_label] at same
  cases type with
  | builtin builtin => exact absurd same (plain.text_ne_of_colon builtin.localName.toList)
  | named other => rw [plain.eq_of_text_eq legible same]
  | anonymousSimple => exact absurd same (plain.text_ne_of_opening _)
  | anonymousComplex element => exact absurd same (plain.text_ne_of_opening _)
  | inline members => exact absurd same (plain.text_ne_of_opening _)

/-- A label in parentheses is that of a type without a name. -/
theorem anonymous_of_label {type : TypeOutline} {rest : List Char} (legible : type.Legible)
    (same : '(' :: rest = type.label.toList) :
    type = .anonymousSimple ∨ (∃ element, type = .anonymousComplex element) ∨
      ∃ members, type = .inline members := by
  rw [toList_label] at same
  cases type with
  | builtin name => cases same
  | named name =>
      have plain : name.Plain := legible
      exact absurd same.symm (plain.text_ne_of_opening rest)
  | anonymousSimple => exact .inl rfl
  | anonymousComplex element => exact .inr (.inl ⟨element, rfl⟩)
  | inline members => exact .inr (.inr ⟨members, rfl⟩)

/-- A label tells all of a type but the members inside. -/
theorem eq_or_inline_of_label_eq {type other : TypeOutline} (legible : type.Legible)
    (otherLegible : other.Legible) (same : type.label.toList = other.label.toList) :
    type = other ∨ ∃ members others, type = .inline members ∧ other = .inline others := by
  rw [toList_label type] at same
  cases type with
  | builtin name =>
      rcases builtin_of_label otherLegible same with ⟨otherName, rfl, sameLocal⟩
      have sameName : name = otherName := ExpandedName.eq_of_parts
        (legible.2.trans otherLegible.2.symm) (String.toList_injective sameLocal)
      exact .inl (congrArg _ sameName)
  | named name => exact .inl (named_of_label otherLegible legible same).symm
  | anonymousSimple =>
      have isAnonymous := anonymous_of_label otherLegible same
      rw [toList_label] at same
      rcases isAnonymous with rfl | ⟨otherElement, rfl⟩ | ⟨others, rfl⟩
      · exact .inl rfl
      · cases same
      · cases same
  | anonymousComplex element =>
      have isAnonymous := anonymous_of_label otherLegible same
      rw [toList_label] at same
      rcases isAnonymous with rfl | ⟨otherElement, rfl⟩ | ⟨others, rfl⟩
      · cases same
      · have sameText := List.append_cancel_right (List.append_cancel_left same)
        have sameElement := ExpandedName.Plain.eq_of_text_eq legible otherLegible sameText
        exact .inl (congrArg _ sameElement)
      · cases same
  | inline members =>
      have isAnonymous := anonymous_of_label otherLegible same
      rw [toList_label] at same
      rcases isAnonymous with rfl | ⟨otherElement, rfl⟩ | ⟨others, rfl⟩
      · cases same
      · cases same
      · exact .inr ⟨members, others, rfl, rfl⟩

end TypeOutline

/-- The bounds as a line shows them. -/
def rangeOf (min : UInt64) (max : MaxOccurs) : List Char :=
  (Occurrence.range ⟨some min, some max⟩).toList

theorem rangeOf_eq (min : UInt64) (max : MaxOccurs) :
    rangeOf min max =
      '[' :: ((toString min.toNat).toList ++ '.' :: '.' :: (max.text.toList ++ [']'])) := by
  change ("[" ++ toString min.toNat ++ ".." ++ max.text ++ "]").toList = _
  simp only [String.toList_append, List.append_assoc]
  rfl

theorem not_mem_rangeOf_of_isBlank {blank : Char} (isBlank : Text.isBlank blank = true)
    (min : UInt64) (max : MaxOccurs) : blank ∉ rangeOf min max := by
  have notDigit : blank.isDigit = false := by
    cases isDigit : blank.isDigit with
    | false => rfl
    | true =>
        rw [isBlank_of_isDigit isDigit] at isBlank
        cases isBlank
  have notNumber : ∀ number : Nat, blank ∉ (toString number).toList := by
    intro number isWritten
    rw [isDigit_of_mem_toString isWritten] at notDigit
    cases notDigit
  have notMax : blank ∉ max.text.toList := by
    cases max with
    | unbounded =>
        have noBlanks : "unbounded".toList.all (!Text.isBlank ·) = true := by decide
        intro isLetter
        have notBlank := List.all_eq_true.mp noBlanks blank isLetter
        rw [isBlank] at notBlank
        cases notBlank
    | count number => exact notNumber number.toNat
  rw [rangeOf_eq]
  intro isCharacter
  simp only [List.mem_cons, List.mem_append, List.not_mem_nil, or_false] at isCharacter
  rcases isCharacter with rfl | isMin | rfl | rfl | isMax | rfl
  · cases isBlank
  · exact notNumber _ isMin
  · cases isBlank
  · cases isBlank
  · exact notMax isMax
  · cases isBlank

theorem eq_of_rangeOf_eq {min otherMin : UInt64} {max otherMax : MaxOccurs}
    (same : rangeOf min max = rangeOf otherMin otherMax) :
    min = otherMin ∧ max = otherMax := by
  have noDot : ∀ number : Nat, '.' ∉ (toString number).toList := fun number isWritten =>
    absurd (isDigit_of_mem_toString isWritten) (by decide)
  rw [rangeOf_eq, rangeOf_eq] at same
  have ⟨sameMin, sameRest⟩ :=
    Text.eq_of_append_cons_eq (noDot _) (noDot _) (List.cons.inj same).2
  have sameMax : max.text.toList = otherMax.text.toList :=
    List.append_cancel_right (List.cons.inj sameRest).2
  have readMin : some min = some otherMin := by
    rw [← readCount_toString min, ← readCount_toString otherMin, sameMin]
  have readMax : some max = some otherMax := by
    rw [← readMaxOccurs_text max, ← readMaxOccurs_text otherMax, sameMax]
  exact ⟨Option.some.inj readMin, Option.some.inj readMax⟩

/-! ## Lines of members -/

theorem toList_indentation (depth : Nat) :
    (indentation depth).toList = List.replicate (2 * depth) ' ' := by
  induction depth with
  | zero => rfl
  | succ depth induction =>
      rw [indentation, String.toList_append, induction]
      rfl

theorem toList_line (depth : Nat) (name : ExpandedName) (type : TypeOutline) (min : UInt64)
    (max : MaxOccurs) :
    (Outline.line depth name type min max).toList =
      List.replicate (2 * depth) ' ' ++
        ((name.text.toList ++ [':']) ++ ' ' :: (type.label.toList ++ ' ' :: rangeOf min max)) := by
  rw [Outline.line, rangeOf, ← toList_indentation]
  simp

/-- The number of blanks at the beginning of a line. -/
def leadingBlanks (line : String) : Nat :=
  (line.toList.takeWhile (· == ' ')).length

theorem leadingBlanks_of_plain {name : ExpandedName} (plain : name.Plain) (count : Nat)
    {line : String} {rest : List Char}
    (begins : line.toList = List.replicate count ' ' ++ (name.text.toList ++ rest)) :
    leadingBlanks line = count := by
  have notBlank : ' ' ∉ name.text.toList := plain.not_mem_text_of_isBlank (by decide)
  have allBlanks : ∀ blank ∈ List.replicate count ' ', (blank == ' ') = true := by
    simp +contextual
  cases written : name.text.toList with
  | nil => exact absurd written plain.text_ne_nil
  | cons first others =>
      rw [written, List.mem_cons, not_or] at notBlank
      have notFirst : first ≠ ' ' := Ne.symm notBlank.1
      rw [leadingBlanks, begins, written, List.takeWhile_append_of_pos allBlanks]
      simp [notFirst]

theorem leadingBlanks_line {name : ExpandedName} (plain : name.Plain) (depth : Nat)
    (type : TypeOutline) (min : UInt64) (max : MaxOccurs) :
    leadingBlanks (Outline.line depth name type min max) = 2 * depth :=
  leadingBlanks_of_plain plain (2 * depth) (by rw [toList_line, List.append_assoc])

theorem leadingBlanks_ownerLine {owner : Option ExpandedName}
    (plain : ∀ name ∈ owner, name.Plain) :
    leadingBlanks (ModelOutline.ownerLine owner) = 0 := by
  cases owner with
  | none => decide
  | some name =>
      have begins : (ModelOutline.ownerLine (some name)).toList =
          List.replicate 0 ' ' ++ (name.text.toList ++ []) := by
        rw [List.append_nil]
        rfl
      exact leadingBlanks_of_plain (plain name rfl) 0 begins

/-- At one depth, a line tells all of a member but the members inside. -/
theorem parts_of_line_eq {depth : Nat} {name otherName : ExpandedName}
    {type otherType : TypeOutline} {min otherMin : UInt64} {max otherMax : MaxOccurs}
    (plain : name.Plain) (otherPlain : otherName.Plain)
    (same : Outline.line depth name type min max =
      Outline.line depth otherName otherType otherMin otherMax) :
    name = otherName ∧ type.label.toList = otherType.label.toList ∧ min = otherMin ∧
      max = otherMax := by
  have sameText := congrArg String.toList same
  rw [toList_line, toList_line] at sameText
  have notName : ∀ {name : ExpandedName}, name.Plain → ' ' ∉ name.text.toList ++ [':'] := by
    intro name plain
    simp [plain.not_mem_text_of_isBlank (show Text.isBlank ' ' = true by decide)]
  have notRange : ∀ (min : UInt64) (max : MaxOccurs), ' ' ∉ rangeOf min max :=
    not_mem_rangeOf_of_isBlank (by decide)
  have ⟨sameName, sameRest⟩ := Text.eq_of_append_cons_eq (notName plain) (notName otherPlain)
    (List.append_cancel_left sameText)
  have ⟨sameLabel, sameRange⟩ := Text.eq_of_append_cons_eq_of_last (notRange min max)
    (notRange otherMin otherMax) sameRest
  have ⟨sameMin, sameMax⟩ := eq_of_rangeOf_eq sameRange
  exact ⟨plain.eq_of_text_eq otherPlain (List.append_cancel_right sameName), sameLabel, sameMin,
    sameMax⟩

theorem lineFeed_not_mem_line {depth : Nat} {name : ExpandedName} {type : TypeOutline}
    (plain : name.Plain) (legible : type.Legible) (min : UInt64) (max : MaxOccurs) :
    '\n' ∉ (Outline.line depth name type min max).toList := by
  have isBlank : Text.isBlank '\n' = true := by decide
  rw [toList_line]
  simp [plain.not_mem_text_of_isBlank isBlank, TypeOutline.lineFeed_not_mem_label legible,
    not_mem_rangeOf_of_isBlank isBlank min max]

/-! ## Members -/

/-- The lines that follow begin nearer the margin than members at this depth. -/
def Outdented (depth : Nat) (lines : List String) : Prop :=
  ∀ line ∈ lines.head?, leadingBlanks line < 2 * depth

theorem outdented_allLines {depth : Nat} {members : List Outline} {rest : List String}
    (legible : Outline.AllLegible members) (outdented : Outdented depth rest) :
    Outdented (depth + 1) (Outline.allLines depth members ++ rest) := by
  intro line isFirst
  cases members with
  | nil =>
      have nearer := outdented line isFirst
      omega
  | cons first others =>
      rcases first with ⟨name, type, min, max⟩
      have isLine : Outline.line depth name type min max = line := by
        simpa [Outline.allLines, Outline.lines] using isFirst
      rw [← isLine, leadingBlanks_line legible.1.1]
      omega

/-- The lines of members are not followed by more lines at their depth. -/
theorem not_outdented_allLines {depth : Nat} {first : Outline} {others : List Outline}
    {rest : List String} (legible : Outline.AllLegible (first :: others)) :
    ¬Outdented depth (Outline.allLines depth (first :: others) ++ rest) := by
  intro outdented
  rcases first with ⟨name, type, min, max⟩
  have nearer := outdented (Outline.line depth name type min max)
    (by simp [Outline.allLines, Outline.lines])
  rw [leadingBlanks_line legible.1.1] at nearer
  omega

/-- Members are read off their lines, and so is where their lines end. By recursion on the first
members, at all depths at once: what follows the lines is arbitrary, but for where it begins. -/
theorem eq_of_allLines_append_eq {depth : Nat} : ∀ {members others : List Outline}
    {rest otherRest : List String}, Outline.AllLegible members → Outline.AllLegible others →
    Outdented depth rest → Outdented depth otherRest →
    Outline.allLines depth members ++ rest = Outline.allLines depth others ++ otherRest →
    members = others ∧ rest = otherRest
  | [], [], _, _, _, _, _, _, same => ⟨rfl, same⟩
  | [], second :: others, rest, otherRest, _, otherLegible, outdented, _, same => by
      rw [show rest = _ from same] at outdented
      exact absurd outdented (not_outdented_allLines otherLegible)
  | first :: members, [], rest, otherRest, legible, _, _, otherOutdented, same => by
      rw [show otherRest = _ from same.symm] at otherOutdented
      exact absurd otherOutdented (not_outdented_allLines legible)
  | ⟨name, type, min, max⟩ :: members, ⟨otherName, otherType, otherMin, otherMax⟩ :: others,
      rest, otherRest, legible, otherLegible, outdented, otherOutdented, same => by
      rw [Outline.allLines, Outline.allLines, Outline.lines, Outline.lines, List.append_assoc,
        List.append_assoc] at same
      have ⟨sameLine, sameLines⟩ := List.cons.inj same
      have ⟨sameName, sameLabel, sameMin, sameMax⟩ :=
        parts_of_line_eq legible.1.1 otherLegible.1.1 sameLine
      subst sameName sameMin sameMax
      rcases TypeOutline.eq_or_inline_of_label_eq legible.1.2 otherLegible.1.2 sameLabel with
        sameType | ⟨inside, otherInside, isInline, otherIsInline⟩
      · subst sameType
        have ⟨sameMembers, sameRest⟩ := eq_of_allLines_append_eq legible.2 otherLegible.2
          outdented otherOutdented (List.append_cancel_left sameLines)
        exact ⟨by rw [sameMembers], sameRest⟩
      · -- After the members inside the type come those of this depth, or what follows them all.
        subst isInline otherIsInline
        have ⟨sameInside, sameAfter⟩ := eq_of_allLines_append_eq legible.1.2 otherLegible.1.2
          (outdented_allLines legible.2 outdented)
          (outdented_allLines otherLegible.2 otherOutdented) sameLines
        have ⟨sameMembers, sameRest⟩ := eq_of_allLines_append_eq legible.2 otherLegible.2
          outdented otherOutdented sameAfter
        exact ⟨by rw [sameInside, sameMembers], sameRest⟩

/-! ## Models -/

theorem eq_of_ownerLine_eq {owner other : Option ExpandedName}
    (plain : ∀ name ∈ owner, name.Plain) (otherPlain : ∀ name ∈ other, name.Plain)
    (same : ModelOutline.ownerLine owner = ModelOutline.ownerLine other) : owner = other := by
  have sameText := congrArg String.toList same
  cases owner with
  | none =>
      cases other with
      | none => rfl
      | some otherName =>
          exact absurd sameText.symm ((otherPlain otherName rfl).text_ne_of_opening _)
  | some name =>
      cases other with
      | none => exact absurd sameText ((plain name rfl).text_ne_of_opening _)
      | some otherName =>
          exact congrArg some ((plain name rfl).eq_of_text_eq (otherPlain otherName rfl) sameText)

theorem outdented_lines {models : List ModelOutline}
    (legible : ∀ model ∈ models, model.Legible) :
    Outdented 1 (models.flatMap ModelOutline.lines) := by
  intro line isFirst
  cases models with
  | nil => cases isFirst
  | cons first others =>
      have isOwner : ModelOutline.ownerLine first.owner = line := by
        simpa [ModelOutline.lines] using isFirst
      rw [← isOwner, leadingBlanks_ownerLine (legible first List.mem_cons_self).owner]
      omega

theorem eq_of_lines_eq {models others : List ModelOutline}
    (legible : ∀ model ∈ models, model.Legible) (otherLegible : ∀ model ∈ others, model.Legible)
    (same : models.flatMap ModelOutline.lines = others.flatMap ModelOutline.lines) :
    models = others := by
  induction models generalizing others with
  | nil =>
      cases others with
      | nil => rfl
      | cons second rest => cases same
  | cons first models induction =>
      cases others with
      | nil => cases same
      | cons second others =>
          rw [List.forall_mem_cons] at legible otherLegible
          have ⟨sameOwnerLine, sameLines⟩ := List.cons.inj same
          have sameOwner :=
            eq_of_ownerLine_eq legible.1.owner otherLegible.1.owner sameOwnerLine
          have ⟨sameMembers, sameRest⟩ := eq_of_allLines_append_eq legible.1.members
            otherLegible.1.members (outdented_lines legible.2) (outdented_lines otherLegible.2)
            sameLines
          rcases first with ⟨owner, members⟩
          rcases second with ⟨otherOwner, otherMembers⟩
          rw [show owner = otherOwner from sameOwner,
            show members = otherMembers from sameMembers,
            induction legible.2 otherLegible.2 sameRest]

/-! ## Texts -/

mutual

theorem lineFeed_not_mem_lines (depth : Nat) : ∀ {outline : Outline}, outline.Legible →
    ∀ line ∈ outline.lines depth, '\n' ∉ line.toList
  | ⟨name, type, min, max⟩, legible => by
      rw [Outline.lines, List.forall_mem_cons]
      refine ⟨lineFeed_not_mem_line legible.1 legible.2 min max, ?_⟩
      cases type with
      | inline members => exact lineFeed_not_mem_allLines (depth + 1) legible.2
      | builtin | named | anonymousSimple | anonymousComplex => nofun

theorem lineFeed_not_mem_allLines (depth : Nat) : ∀ {members : List Outline},
    Outline.AllLegible members → ∀ line ∈ Outline.allLines depth members, '\n' ∉ line.toList
  | [], _ => nofun
  | first :: rest, legible => by
      rw [Outline.allLines, List.forall_mem_append]
      exact ⟨lineFeed_not_mem_lines depth legible.1, lineFeed_not_mem_allLines depth legible.2⟩

end

theorem lineFeed_not_mem_ownerLine {owner : Option ExpandedName}
    (plain : ∀ name ∈ owner, name.Plain) :
    '\n' ∉ (ModelOutline.ownerLine owner).toList := by
  cases owner with
  | none => decide
  | some name => exact (plain name rfl).not_mem_text_of_isBlank (by decide)

theorem lineFeed_not_mem_of_legible {models : List ModelOutline}
    (legible : ∀ model ∈ models, model.Legible) :
    ∀ line ∈ models.flatMap ModelOutline.lines, '\n' ∉ line.toList := by
  intro line isLine
  rcases List.mem_flatMap.mp isLine with ⟨model, isModel, isLine⟩
  have isLegible := legible model isModel
  rcases List.mem_cons.mp isLine with rfl | isMember
  · exact lineFeed_not_mem_ownerLine isLegible.owner
  · exact lineFeed_not_mem_allLines 1 isLegible.members line isMember

/-- Lines can be told apart in a text if there is a line feed only after each of them. -/
theorem eq_of_join_eq {lines others : List String}
    (separate : ∀ line ∈ lines, '\n' ∉ line.toList)
    (otherSeparate : ∀ line ∈ others, '\n' ∉ line.toList)
    (same : String.join (lines.map (· ++ "\n")) = String.join (others.map (· ++ "\n"))) :
    lines = others := by
  induction lines generalizing others with
  | nil =>
      cases others with
      | nil => rfl
      | cons second rest =>
          have sameText := congrArg String.toList same
          simp at sameText
  | cons first lines induction =>
      cases others with
      | nil =>
          have sameText := congrArg String.toList same
          simp at sameText
      | cons second others =>
          rw [List.forall_mem_cons] at separate otherSeparate
          rw [List.map_cons, List.map_cons, String.join_cons, String.join_cons,
            String.append_assoc, String.append_assoc] at same
          have sameText : first.toList ++ '\n' :: (String.join (lines.map (· ++ "\n"))).toList =
              second.toList ++ '\n' :: (String.join (others.map (· ++ "\n"))).toList := by
            have sameList := congrArg String.toList same
            simp only [String.toList_append] at sameList
            exact sameList
          have ⟨sameFirst, sameRest⟩ :=
            Text.eq_of_append_cons_eq separate.1 otherSeparate.1 sameText
          rw [String.toList_injective sameFirst,
            induction separate.2 otherSeparate.2 (String.toList_injective sameRest)]

/-- The outlines of all models are legible. -/
def Legible (models : List ContentModel) : Prop :=
  ∀ model ∈ models, (ModelOutline.ofModel model).Legible

instance (models : List ContentModel) : Decidable (Legible models) :=
  inferInstanceAs (Decidable (∀ model ∈ models, (ModelOutline.ofModel model).Legible))

theorem text_eq (models : List ContentModel) :
    text models = String.join
      (((models.map ModelOutline.ofModel).flatMap ModelOutline.lines).map (· ++ "\n")) := by
  rw [text, List.flatMap_map]
  have sameLines : modelLines = fun model => (ModelOutline.ofModel model).lines :=
    funext modelLines_eq
  rw [sameLines]

/-- Listings are the same if and only if they are of the same outlines, in the same order. -/
theorem text_eq_iff {models others : List ContentModel} (legible : Legible models)
    (otherLegible : Legible others) :
    text models = text others ↔
      models.map ModelOutline.ofModel = others.map ModelOutline.ofModel := by
  rw [text_eq, text_eq]
  constructor
  · intro same
    have outlinesLegible : ∀ model ∈ models.map ModelOutline.ofModel, model.Legible :=
      List.forall_mem_map.mpr legible
    have othersLegible : ∀ model ∈ others.map ModelOutline.ofModel, model.Legible :=
      List.forall_mem_map.mpr otherLegible
    exact eq_of_lines_eq outlinesLegible othersLegible
      (eq_of_join_eq (lineFeed_not_mem_of_legible outlinesLegible)
        (lineFeed_not_mem_of_legible othersLegible) same)
  · intro same
    rw [same]

end Listing

/-! ### Deliveries

The content of a delivery is listed twice: as that of a type and as that of an element, where one
has written out the bounds and the other has not. In a delivery with its lines inside its parts,
the same members are listed, but one of them deeper. -/

namespace Deliveries

open Listing

def member (localName : String) (type : MemberType) (max : Option MaxOccurs) : Member :=
  ⟨⟨some "urn:shop", localName⟩, none, type, ⟨none, max⟩, .outside⟩

def lines : Member :=
  member "line" (.inline [member "code" (.builtin ⟨some schemaNamespace, "string"⟩) none])
    (some .unbounded)

def ofType : ContentModel :=
  ⟨.complexType ⟨some "urn:shop", "delivery"⟩, [member "parts" (.inline []) none, lines]⟩

def ofElement : ContentModel :=
  ⟨.element ⟨some "urn:shop", "delivery"⟩,
    [member "parts" (.inline []) (some (.count 1)), lines]⟩

def nested : ContentModel :=
  ⟨.complexType ⟨some "urn:shop", "delivery"⟩, [member "parts" (.inline [lines]) none]⟩

theorem text_eq_of_deliveries :
    text [ofType] = text [ofElement] ∧ text [ofType] ≠ text [nested] := by
  have legible : Legible [ofType] := by decide +kernel
  have elementLegible : Legible [ofElement] := by decide +kernel
  have nestedLegible : Legible [nested] := by decide +kernel
  refine ⟨(text_eq_iff legible elementLegible).mpr rfl, fun same => ?_⟩
  have sameOutlines := (text_eq_iff legible nestedLegible).mp same
  cases sameOutlines

end Deliveries

end SchemaContent
