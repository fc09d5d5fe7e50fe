import SchemaContent.Proofs.FileTrees
import SchemaContent.Steps

/-! # What locations denote

A location denotes a file if its path, with the components that stay or lead back taken
out, is that of the file, and if it leads through directories only. The resolver over
files, which follows the components one after the other, finds just these files. -/

namespace SchemaContent

/-! ## Components -/

/-- It is the name of what it leads to. -/
def IsStep (component : String) : Prop :=
  component ≠ "" ∧ component ≠ "." ∧ component ≠ ".."

theorem IsFileName.isStep {name : String} (isName : IsFileName name) : IsStep name :=
  ⟨isName.notEmpty, isName.notHere, isName.notParent⟩

/-- Where a component leads, whatever there is in the tree. -/
def further (here : List String) (component : String) : List String :=
  if component = "" ∨ component = "." then here
  else if component = ".." then here.dropLast
  else here ++ [component]

theorem further_of_isStep {component : String} (isStep : IsStep component)
    (here : List String) : further here component = here ++ [component] := by
  rw [further, if_neg (not_or.mpr ⟨isStep.1, isStep.2.1⟩), if_neg isStep.2.2]

def startOf (directory : List String) (location : String) : List String :=
  if location.startsWith "/" then [] else directory

/-- All that the components lead through, seen from these names, is a directory: only the
last one may lead to something else. -/
def FileTree.Passes (tree : FileTree) (here components : List String) : Prop :=
  ∀ before after, components = before ++ after → after ≠ [] →
    tree.IsDirectory (before.foldl further here)

theorem FileTree.passes_nil (tree : FileTree) (here : List String) : tree.Passes here [] := by
  intro before after same notEmpty
  exact absurd (List.append_eq_nil_iff.mp same.symm).2 notEmpty

theorem FileTree.passes_cons {tree : FileTree} {here rest : List String} {component : String} :
    tree.Passes here (component :: rest) ↔
      tree.IsDirectory here ∧ tree.Passes (further here component) rest := by
  constructor
  · intro passes
    refine ⟨passes [] _ rfl (List.cons_ne_nil component rest), ?_⟩
    intro before after same notEmpty
    exact passes (component :: before) after (congrArg _ same) notEmpty
  · rintro ⟨isDirectory, passes⟩ before after same notEmpty
    cases before with
    | nil => exact isDirectory
    | cons first others =>
        cases (List.cons.inj same).1
        exact passes others after (List.cons.inj same).2 notEmpty

namespace FileSystem

/-- The names in the tree are those of files, and the working directory is in it. -/
structure Proper (files : FileSystem) : Prop where
  tree : files.root.Proper
  current : files.root.IsDirectory files.current

/-- A location, seen from a directory, denotes the text file that these names lead to: they
are what is left of its path, and all that it passes are directories. -/
structure Denotes (files : FileSystem) (directory : List String) (location : String)
    (names : List String) : Prop where
  normal : (pathComponents location).foldl further (startOf directory location) = names
  passes : files.root.Passes (startOf directory location) (pathComponents location)
  hasText : ∃ text, files.root.HasText names text

/-- Locations are seen from this directory in this document, or in none: in a file of the
directory, or from the working directory at the beginning. -/
inductive SeenFrom (files : FileSystem) : List String → Option String → Prop
  | start : SeenFrom files files.current none
  | file {directory : List String} {name text : String}
      (hasText : files.root.HasText (directory ++ [name]) text) :
      SeenFrom files directory (some (pathText (directory ++ [name])))

variable {files : FileSystem} {here names directory : List String} {path location : String}

/-! ## Walking -/

theorem follow_of_isDirectory (proper : files.Proper) (isDirectory : files.root.IsDirectory here)
    {component : String}
    (isThere : IsStep component → (files.root.get? (here ++ [component])).isSome) :
    files.follow path here component = .ok (further here component) := by
  rcases isDirectory with ⟨entries, isEntries⟩
  rw [follow, isEntries]
  by_cases stays : component = "" ∨ component = "."
  · simp only [further, if_pos stays]
  by_cases back : component = ".."
  · simp only [further, if_neg stays, if_pos back]
  have isStep : IsStep component := ⟨(stays <| .inl ·), (stays <| .inr ·), back⟩
  rcases Option.isSome_iff_exists.mp (isThere isStep) with ⟨found, isFound⟩
  have isName := proper.tree.isFileName isFound component
    (List.mem_append_right _ List.mem_cons_self)
  rw [FileTree.get?_concat isEntries] at isFound
  simp only [further, if_neg stays, if_neg back, if_neg (Nat.not_lt.mpr isName.short), isFound,
    Option.isSome_some, if_true]

theorem of_follow {component : String} {next : List String}
    (followed : files.follow path here component = .ok next) :
    files.root.IsDirectory here ∧ next = further here component := by
  rw [follow] at followed
  split at followed
  · rename_i entries isEntries
    refine ⟨⟨entries, isEntries⟩, ?_⟩
    rw [further]
    split at followed
    · rename_i stays
      rw [if_pos stays]
      exact (Except.ok.inj followed).symm
    · rename_i moves
      rw [if_neg moves]
      split at followed
      · rename_i back
        rw [if_pos back]
        exact (Except.ok.inj followed).symm
      · rename_i notBack
        rw [if_neg notBack]
        split at followed
        · cases followed
        · split at followed
          · exact (Except.ok.inj followed).symm
          · cases followed
  · cases followed

/-- The components lead to a text file just if it is what is left of them, and if they
pass directories only. -/
theorem foldlM_follow_iff (proper : files.Proper) {text : String}
    (hasText : files.root.HasText names text) {components : List String} :
    components.foldlM (files.follow path) here = .ok names ↔
      components.foldl further here = names ∧ files.root.Passes here components := by
  induction components generalizing here with
  | nil =>
      rw [List.foldlM_nil, List.foldl_nil]
      constructor
      · intro walked
        cases walked
        exact ⟨rfl, FileTree.passes_nil _ _⟩
      · rintro ⟨rfl, _⟩
        rfl
  | cons component rest induction =>
      rw [List.foldlM_cons, List.foldl_cons, FileTree.passes_cons]
      constructor
      · intro walked
        rcases exists_of_bind_eq_ok walked with ⟨next, followed, walked⟩
        rcases of_follow followed with ⟨isDirectory, rfl⟩
        rcases induction.mp walked with ⟨normal, passes⟩
        exact ⟨normal, isDirectory, passes⟩
      · rintro ⟨normal, isDirectory, passes⟩
        have isThere : (files.root.get? (further here component)).isSome := by
          cases rest with
          | nil =>
              rw [List.foldl_nil] at normal
              rw [normal, hasText]
              rfl
          | cons next others =>
              rcases (FileTree.passes_cons.mp passes).1 with ⟨_, isEntries⟩
              rw [isEntries]
              rfl
        rw [follow_of_isDirectory proper isDirectory fun isStep => by
          rwa [further_of_isStep isStep] at isThere]
        exact induction.mpr ⟨normal, passes⟩

theorem foldlM_follow_names (proper : files.Proper) {found : FileTree} :
    ∀ {here : List String}, files.root.get? (here ++ directory) = some found →
      directory.foldlM (files.follow path) here = .ok (here ++ directory) := by
  induction directory with
  | nil =>
      intro here _
      rw [List.append_nil]
      rfl
  | cons name rest induction =>
      intro here isFound
      have isName := proper.tree.isFileName isFound name
        (List.mem_append_right _ List.mem_cons_self)
      have isDirectory := FileTree.isDirectory_of_append isFound
      rw [List.append_cons] at isFound ⊢
      have isThere : (files.root.get? (here ++ [name])).isSome := by
        rw [FileTree.get?_append] at isFound
        rcases Option.bind_eq_some_iff.mp isFound with ⟨_, isThere, _⟩
        rw [isThere]
        rfl
      rw [List.foldlM_cons, follow_of_isDirectory proper isDirectory fun _ => isThere,
        further_of_isStep isName.isStep]
      exact induction isFound

theorem textFile_eq_ok_iff :
    files.textFile path = .ok names ↔
      files.walk path = .ok names ∧ ∃ text, files.root.HasText names text := by
  rw [textFile]
  constructor
  · intro found
    rcases exists_of_bind_eq_ok found with ⟨walked, isWalked, found⟩
    split at found
    · rename_i text isText
      cases found
      exact ⟨isWalked, text, isText⟩
    all_goals cases found
  · rintro ⟨isWalked, text, isText⟩
    rw [FileTree.HasText] at isText
    simp only [isWalked, bind, Except.bind, isText]
    rfl

theorem walk_eq_ok_iff :
    files.walk path = .ok names ↔
      '\x00' ∉ path.toList ∧ path ≠ "" ∧
        (pathComponents path).foldlM (files.follow path) (startOf files.current path) =
          .ok names := by
  rw [walk, startOf]
  by_cases hasNul : '\x00' ∈ path.toList
  · simp [hasNul]
  · by_cases isEmpty : path = ""
    · simp [isEmpty]
    · simp [hasNul, isEmpty]

/-! ## Denoted files -/

/-- Components that lead somewhere lead to what is in the tree. -/
theorem Denotes.isFileName (proper : files.Proper)
    (denotes : files.Denotes directory location names) {component : String}
    (isComponent : component ∈ pathComponents location) (isStep : IsStep component) :
    IsFileName component := by
  rcases List.append_of_mem isComponent with ⟨before, after, same⟩
  have leads : (before ++ [component]).foldl further (startOf directory location) =
      before.foldl further (startOf directory location) ++ [component] := by
    rw [List.foldl_append]
    exact further_of_isStep isStep _
  have isLast : component ∈ (before ++ [component]).foldl further (startOf directory location) := by
    rw [leads]
    exact List.mem_append_right _ List.mem_cons_self
  rw [List.append_cons] at same
  cases after with
  | nil =>
      rw [List.append_nil] at same
      rcases denotes.hasText with ⟨text, hasText⟩
      rw [← denotes.normal, same] at hasText
      exact proper.tree.isFileName hasText component isLast
  | cons next others =>
      rcases denotes.passes _ _ same (List.cons_ne_nil next others) with ⟨_, isEntries⟩
      exact proper.tree.isFileName isEntries component isLast

theorem Denotes.noNul (proper : files.Proper)
    (denotes : files.Denotes directory location names) : '\x00' ∉ location.toList := by
  intro isNul
  rcases exists_component_of_mem isNul (by decide) with ⟨component, isComponent, inComponent⟩
  have isStep : IsStep component := by
    refine ⟨?_, ?_, ?_⟩ <;> rintro rfl <;> revert inComponent <;> decide
  exact (denotes.isFileName proper isComponent isStep).noNul inComponent

theorem Denotes.notEmpty (isDirectory : files.root.IsDirectory directory)
    (denotes : files.Denotes directory location names) : location ≠ "" := by
  rintro rfl
  have notAbsolute : "".startsWith "/" = false := by
    rw [String.startsWith_string_eq_false_iff]
    decide
  rcases denotes.hasText with ⟨text, hasText⟩
  have normal : directory = names := by
    have fromStart := denotes.normal
    rw [startOf, notAbsolute] at fromStart
    exact fromStart
  exact isDirectory.not_hasText text (normal ▸ hasText)

theorem textFile_iff_denotes (proper : files.Proper) :
    files.textFile path = .ok names ↔ files.Denotes files.current path names := by
  rw [textFile_eq_ok_iff, walk_eq_ok_iff]
  constructor
  · rintro ⟨⟨_, _, walked⟩, text, hasText⟩
    rcases (foldlM_follow_iff proper hasText).mp walked with ⟨normal, passes⟩
    exact ⟨normal, passes, text, hasText⟩
  · intro denotes
    rcases denotes.hasText with ⟨text, hasText⟩
    refine ⟨⟨denotes.noNul proper, denotes.notEmpty proper.current, ?_⟩, text, hasText⟩
    exact (foldlM_follow_iff proper hasText).mpr ⟨denotes.normal, denotes.passes⟩

/-- A path that continues that of a directory is walked from there. -/
theorem foldlM_follow_append (proper : files.Proper)
    (isDirectory : files.root.IsDirectory directory) (location path : String) :
    (pathComponents (pathText directory ++ "/" ++ location)).foldlM (files.follow path) [] =
      (pathComponents location).foldlM (files.follow path) directory := by
  have atRoot := isDirectory.root
  rcases isDirectory with ⟨entries, isEntries⟩
  have isStay : ¬IsStep "" := fun isStep => isStep.1 rfl
  have toDirectory : directory.foldlM (files.follow path) [] = .ok directory :=
    foldlM_follow_names proper isEntries
  rw [pathComponents_append (proper.tree.slashless isEntries), List.foldlM_cons,
    follow_of_isDirectory proper atRoot fun isStep => absurd isStep isStay]
  change (directory ++ pathComponents location).foldlM _ [] = _
  rw [List.foldlM_append, toDirectory]
  rfl

theorem nul_not_mem_append (proper : files.Proper)
    (isDirectory : files.root.IsDirectory directory) (noNul : '\x00' ∉ location.toList) :
    '\x00' ∉ (pathText directory ++ "/" ++ location).toList := by
  rcases isDirectory with ⟨entries, isEntries⟩
  rw [String.toList_append, String.toList_append]
  intro isNul
  rcases List.mem_append.mp isNul with isBefore | isAfter
  · rcases List.mem_append.mp isBefore with inDirectory | isSlash
    · rcases mem_pathText inDirectory with isSlash | ⟨name, isName, inName⟩
      · cases isSlash
      · exact (proper.tree.isFileName isEntries name isName).noNul inName
    · exact absurd isSlash (by decide)
  · exact noNul isAfter

/-- A path that continues that of a directory finds what its end denotes from there. -/
theorem textFile_append_iff_denotes (proper : files.Proper)
    (isDirectory : files.root.IsDirectory directory) (relative : location.startsWith "/" = false) :
    files.textFile (pathText directory ++ "/" ++ location) = .ok names ↔
      files.Denotes directory location names := by
  have absolute := startsWith_slash_append directory location
  have start : startOf directory location = directory := by
    rw [startOf, relative, if_neg Bool.false_ne_true]
  rw [textFile_eq_ok_iff, walk_eq_ok_iff, startOf, if_pos absolute,
    foldlM_follow_append proper isDirectory]
  constructor
  · rintro ⟨⟨_, _, found⟩, text, hasText⟩
    rcases (foldlM_follow_iff proper hasText).mp found with ⟨normal, passes⟩
    rw [← start] at normal passes
    exact ⟨normal, passes, text, hasText⟩
  · rintro ⟨normal, passes, text, hasText⟩
    have noNul := Denotes.noNul proper ⟨normal, passes, text, hasText⟩
    rw [start] at normal passes
    refine ⟨⟨nul_not_mem_append proper isDirectory noNul, ?_,
      (foldlM_follow_iff proper hasText).mpr ⟨normal, passes⟩⟩, text, hasText⟩
    intro isEmpty
    rw [isEmpty, startsWith_slash_iff] at absolute
    cases absolute

theorem SeenFrom.isDirectory (proper : files.Proper) {base : Option String}
    (seen : files.SeenFrom directory base) : files.root.IsDirectory directory := by
  cases seen with
  | start => exact proper.current
  | file hasText => exact FileTree.isDirectory_of_append hasText

/-- The path that a location means finds what the location denotes. -/
theorem textFile_locationPath_iff (proper : files.Proper) {base : Option String}
    (seen : files.SeenFrom directory base) :
    files.textFile (locationPath location base) = .ok names ↔
      files.Denotes directory location names := by
  cases seen with
  | start => exact textFile_iff_denotes proper
  | @file _ name text hasText =>
      rw [locationPath]
      cases absolute : location.startsWith "/" with
      | true =>
          have anywhere : files.Denotes directory location names ↔
              files.Denotes files.current location names := by
            have sameStart : startOf directory location = startOf files.current location := by
              rw [startOf, startOf, absolute, if_pos rfl, if_pos rfl]
            constructor <;> rintro ⟨normal, passes, isText⟩
            · exact ⟨sameStart ▸ normal, sameStart ▸ passes, isText⟩
            · exact ⟨sameStart ▸ normal, sameStart ▸ passes, isText⟩
          rw [joinPath_of_absolute absolute, textFile_iff_denotes proper, anywhere]
      | false =>
          have areNames := proper.tree.isFileName hasText
          have slashless : Slashless (directory ++ [name]) :=
            fun other isOther => (areNames other isOther).noSlash
          have notEmpty : ∀ other ∈ directory, other ≠ "" :=
            fun other isOther => (areNames other (List.mem_append_left _ isOther)).notEmpty
          rw [joinPath_of_relative slashless notEmpty absolute]
          exact textFile_append_iff_denotes proper (FileTree.isDirectory_of_append hasText) absolute

/-- The resolver finds a location that denotes a text file at the path of the file, and no
other location. -/
theorem locate_eq_ok_iff (proper : files.Proper) {base : Option String}
    (seen : files.SeenFrom directory base) {canonical : String} :
    files.resolver.locate location base = .ok canonical ↔
      isWebLocation location = false ∧
        ∃ names, files.Denotes directory location names ∧ canonical = pathText names := by
  change (if isWebLocation location then .error .unsupported
    else (files.textFile (locationPath location base)).map pathText) = .ok canonical ↔ _
  cases isWebLocation location with
  | true => simp
  | false =>
      simp only [← textFile_locationPath_iff proper seen]
      cases files.textFile (locationPath location base) with
      | error => simp [Except.map]
      | ok names => simp [Except.map, eq_comm]

end FileSystem

/-! ## Texts -/

/-- The resolver over files reads the text of a file at its path. -/
theorem FileSystem.text_resolver {files : FileSystem} (proper : files.Proper)
    {names : List String} {text : String} (hasText : files.root.HasText names text) :
    files.resolver.text (pathText names) = text := by
  have slashless := proper.tree.slashless hasText
  have found : (files.root.texts []).lookup ([] ++ names) = some text :=
    FileTree.lookup_texts hasText
  rw [List.nil_append] at found
  have apart : ∀ entry ∈ files.root.texts [],
      pathText entry.1 = pathText names → entry.1 = names := by
    intro entry isEntry same
    have entrySlashless : Slashless entry.1 :=
      FileTree.slashless_of_mem_texts files.root proper.tree (List.forall_mem_nil _) entry isEntry
    exact pathText_injective entrySlashless slashless same
  rw [Resolver.text, resolver, lookup_map_key pathText apart, found, Option.getD_some]

end SchemaContent
