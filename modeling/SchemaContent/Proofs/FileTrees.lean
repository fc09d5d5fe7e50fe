import SchemaContent.Proofs.FilePaths

/-! # Trees of files

The names in a tree are those of files and directories. What they lead to lies below
directories, and a text file is found among all texts by its names. -/

namespace SchemaContent

/-! ## Entries -/

theorem mem_of_lookup {κ β : Type} [BEq κ] [LawfulBEq κ] {entries : List (κ × β)} {key : κ}
    {value : β} (found : entries.lookup key = some value) : (key, value) ∈ entries := by
  rcases List.lookup_eq_some_iff.mp found with ⟨before, after, same, _⟩
  rw [same]
  exact List.mem_append_right _ List.mem_cons_self

/-- Keys that are changed without becoming equal are found as before. -/
theorem lookup_map_key {κ ρ β : Type} [BEq κ] [LawfulBEq κ] [BEq ρ] [LawfulBEq ρ]
    (change : κ → ρ) {entries : List (κ × β)} {key : κ}
    (apart : ∀ entry ∈ entries, change entry.1 = change key → entry.1 = key) :
    (entries.map fun (name, value) => (change name, value)).lookup (change key) =
      entries.lookup key := by
  induction entries with
  | nil => rfl
  | cons entry rest induction =>
      rcases entry with ⟨name, value⟩
      have ofRest := induction fun other isOther => apart other (List.mem_cons_of_mem _ isOther)
      rw [List.map_cons, List.lookup_cons, List.lookup_cons, ofRest]
      by_cases same : key = name
      · rw [same, beq_self_eq_true, beq_self_eq_true]
      · have differs : change key ≠ change name :=
          fun sameChange => same (apart _ List.mem_cons_self sameChange.symm).symm
        rw [beq_eq_false_iff_ne.mpr same, beq_eq_false_iff_ne.mpr differs]

/-! ## Names that lead somewhere -/

/-- A name that a file or directory can have. -/
structure IsFileName (name : String) : Prop where
  notEmpty : name ≠ ""
  notHere : name ≠ "."
  notParent : name ≠ ".."
  noSlash : '/' ∉ name.toList
  noNul : '\x00' ∉ name.toList
  short : name.utf8ByteSize ≤ FileSystem.longestName

namespace FileTree

/-- All names in the tree are names of files. -/
inductive Proper : FileTree → Prop
  | file (text : Option String) : Proper (.file text)
  | directory {entries : List (String × FileTree)}
      (named : ∀ entry ∈ entries, IsFileName entry.1)
      (proper : ∀ entry ∈ entries, Proper entry.2) : Proper (.directory entries)

def IsDirectory (tree : FileTree) (names : List String) : Prop :=
  ∃ entries, tree.get? names = some (.directory entries)

def HasText (tree : FileTree) (names : List String) (text : String) : Prop :=
  tree.get? names = some (.file (some text))

variable {tree : FileTree} {names : List String}

theorem get?_append (more : List String) :
    tree.get? (names ++ more) = (tree.get? names).bind (·.get? more) := by
  induction names generalizing tree with
  | nil => rfl
  | cons name rest induction =>
      cases tree with
      | file => rfl
      | directory entries =>
          rw [List.cons_append, get?, get?]
          cases entries.lookup name with
          | none => rfl
          | some inner => exact induction

/-- What is below a name is below an entry of a directory. -/
theorem get?_concat {entries : List (String × FileTree)}
    (isDirectory : tree.get? names = some (.directory entries)) (name : String) :
    tree.get? (names ++ [name]) = entries.lookup name := by
  rw [get?_append, isDirectory, Option.bind_some, get?]
  cases entries.lookup name <;> rfl

/-- What is above something is a directory. -/
theorem isDirectory_of_append {name : String} {rest : List String} {found : FileTree}
    (isFound : tree.get? (names ++ name :: rest) = some found) : tree.IsDirectory names := by
  rw [get?_append] at isFound
  cases above : tree.get? names with
  | none =>
      rw [above] at isFound
      cases isFound
  | some inner =>
      rw [above, Option.bind_some] at isFound
      cases inner with
      | file => cases isFound
      | directory entries => exact ⟨entries, above⟩

theorem IsDirectory.root (isDirectory : tree.IsDirectory names) : tree.IsDirectory [] := by
  cases names with
  | nil => exact isDirectory
  | cons name rest =>
      rcases isDirectory with ⟨_, isFound⟩
      rw [← List.nil_append (name :: rest)] at isFound
      exact isDirectory_of_append isFound

theorem IsDirectory.not_hasText (isDirectory : tree.IsDirectory names) (text : String) :
    ¬tree.HasText names text := by
  rcases isDirectory with ⟨entries, isEntries⟩
  rw [HasText, isEntries]
  nofun

theorem Proper.isFileName (proper : tree.Proper) {found : FileTree}
    (isFound : tree.get? names = some found) : ∀ name ∈ names, IsFileName name := by
  induction names generalizing tree with
  | nil => nofun
  | cons first rest induction =>
      cases proper with
      | file => cases isFound
      | @directory entries named proper =>
          rw [get?] at isFound
          split at isFound
          · rename_i inner isEntry
            have isMember := mem_of_lookup isEntry
            intro name isName
            rcases List.mem_cons.mp isName with rfl | isLater
            · exact named _ isMember
            · exact induction (proper _ isMember) isFound name isLater
          · cases isFound

end FileTree

/-! ## Texts -/

namespace FileTree

variable {tree : FileTree} {names : List String}

mutual

/-- What lies below names that differ is not found below these. -/
theorem texts_below : ∀ (tree : FileTree) (names : List String),
    ∀ entry ∈ tree.texts names, names <+: entry.1
  | .file none, names => nofun
  | .file (some text), names => by
      intro entry isEntry
      rw [texts, List.mem_singleton] at isEntry
      cases isEntry
      exact List.prefix_refl names
  | .directory entries, names => entryTexts_below entries names

theorem entryTexts_below : ∀ (entries : List (String × FileTree)) (names : List String),
    ∀ entry ∈ entryTexts names entries, names <+: entry.1
  | [], names => nofun
  | (name, tree) :: rest, names => by
      intro entry isEntry
      rcases List.mem_append.mp isEntry with isFirst | isLater
      · exact (List.prefix_append names [name]).trans (texts_below tree _ entry isFirst)
      · exact entryTexts_below rest names entry isLater

end

/-- A text that is found in the first entry with this name is found among those of all
entries. -/
theorem lookup_entryTexts {name text : String} {rest : List String} {inner : FileTree}
    {entries : List (String × FileTree)} (isEntry : entries.lookup name = some inner)
    (isText : (inner.texts (names ++ [name])).lookup (names ++ name :: rest) = some text) :
    (entryTexts names entries).lookup (names ++ name :: rest) = some text := by
  induction entries with
  | nil => cases isEntry
  | cons entry others induction =>
      rcases entry with ⟨first, firstTree⟩
      rw [List.lookup_cons] at isEntry
      rw [entryTexts, List.lookup_append]
      split at isEntry
      · rename_i same
        cases isEntry
        rw [← eq_of_beq same, isText, Option.some_or]
      · rename_i differs
        have notBelow : ((firstTree.texts (names ++ [first])).lookup
            (names ++ name :: rest)) = none := by
          rw [List.lookup_eq_none_iff]
          intro entry isFirst
          rw [bne_iff_ne]
          intro same
          have below := texts_below firstTree _ entry isFirst
          rw [← same, List.prefix_append_right_inj, List.cons_prefix_cons] at below
          rw [below.1, beq_self_eq_true] at differs
          cases differs
        rw [notBelow, Option.none_or]
        exact induction isEntry

/-- A text file is found among the texts by the names that lead to it. -/
theorem lookup_texts {path : List String} {text : String} :
    ∀ {tree : FileTree} {names : List String}, tree.HasText path text →
      (tree.texts names).lookup (names ++ path) = some text := by
  induction path with
  | nil =>
      intro tree names hasText
      cases hasText
      rw [texts, List.append_nil, List.lookup_cons_self]
  | cons name rest induction =>
      intro tree names hasText
      cases tree with
      | file => cases hasText
      | directory entries =>
          rw [HasText, get?] at hasText
          split at hasText
          · rename_i inner isEntry
            have isText := @induction inner (names ++ [name]) hasText
            rw [← List.append_cons] at isText
            exact lookup_entryTexts isEntry isText
          · cases hasText

mutual

theorem slashless_of_mem_texts : ∀ (tree : FileTree) {names : List String}, tree.Proper →
    Slashless names → ∀ entry ∈ tree.texts names, Slashless entry.1
  | .file none, names, _, _ => nofun
  | .file (some text), names, _, slashless => by
      intro entry isEntry
      rw [texts, List.mem_singleton] at isEntry
      rw [isEntry]
      exact slashless
  | .directory entries, names, proper, slashless => by
      cases proper with
      | directory named proper =>
          exact slashless_of_mem_entryTexts entries named proper slashless

theorem slashless_of_mem_entryTexts : ∀ (entries : List (String × FileTree))
    {names : List String}, (∀ entry ∈ entries, IsFileName entry.1) →
    (∀ entry ∈ entries, entry.2.Proper) → Slashless names →
    ∀ entry ∈ entryTexts names entries, Slashless entry.1
  | [], names, _, _, _ => nofun
  | (name, tree) :: rest, names, named, proper, slashless => by
      intro entry isEntry
      rcases List.mem_append.mp isEntry with isFirst | isLater
      · have noSlash := (named _ List.mem_cons_self).noSlash
        have furtherSlashless : Slashless (names ++ [name]) := by
          intro other isOther
          rcases List.mem_append.mp isOther with isEarlier | isLast
          · exact slashless other isEarlier
          · rw [List.mem_singleton.mp isLast]
            exact noSlash
        exact slashless_of_mem_texts tree (proper _ List.mem_cons_self) furtherSlashless entry isFirst
      · exact slashless_of_mem_entryTexts rest
          (fun other isOther => named other (List.mem_cons_of_mem _ isOther))
          (fun other isOther => proper other (List.mem_cons_of_mem _ isOther)) slashless entry
          isLater

end

theorem Proper.slashless (proper : tree.Proper) {found : FileTree}
    (isFound : tree.get? names = some found) : Slashless names :=
  fun name isName => (proper.isFileName isFound name isName).noSlash

end FileTree

end SchemaContent
