import SchemaContent.Error
import SchemaContent.Text.Words

/-! # Resolvers

A resolver finds the documents that schemas name by their locations. It knows finitely many documents,
each under a canonical location of its own, and tells which of them a location means, seen from the
document that mentions it.

One kind of resolver knows the files of a tree of directories. Walking along a path follows each of
its components in turn, so that `..` after a name that does not exist leads nowhere; two paths that
lead to the same file have one canonical form, the names from the root to the file.
-/

namespace SchemaContent

/-- Documents by canonical location, and the meaning of locations. `base` is the canonical location of
the document that mentions the location; there is none for the first one. -/
structure Resolver where
  documents : List (String × String)
  locate : (location : String) → (base : Option String) → Except ImportError String
  located : ∀ location base canonical, locate location base = .ok canonical →
    canonical ∈ documents.map (·.1)

namespace Resolver

def text (resolver : Resolver) (canonical : String) : String :=
  (resolver.documents.lookup canonical).getD ""

/-- A resolver over given documents, where every location is canonical. -/
def ofDocuments (documents : List (String × String)) : Resolver where
  documents := documents
  locate location _ :=
    if location ∈ documents.map (·.1) then .ok location else .error (.notFound location)
  located location _ canonical found := by
    split at found
    · cases found
      assumption
    · nomatch found

end Resolver

/-! ## Files -/

/-- A file with its text, which is missing if its bytes are not UTF-8, or a directory. -/
inductive FileTree where
  | file (text : Option String)
  | directory (entries : List (String × FileTree))

namespace FileTree

def get? : FileTree → List String → Option FileTree
  | tree, [] => some tree
  | .directory entries, name :: names =>
    match entries.lookup name with
    | some tree => tree.get? names
    | none => none
  | .file _, _ :: _ => none

mutual

/-- The texts of all files with the names that lead to them, below `names`. -/
def texts (names : List String) : FileTree → List (List String × String)
  | .file none => []
  | .file (some text) => [(names, text)]
  | .directory entries => entryTexts names entries

def entryTexts (names : List String) :
    List (String × FileTree) → List (List String × String)
  | [] => []
  | (name, tree) :: rest => texts (names ++ [name]) tree ++ entryTexts names rest

end

theorem mem_entryTexts_of_lookup {names : List String} {entries : List (String × FileTree)}
    {name : String} {tree : FileTree} (found : entries.lookup name = some tree)
    {text : List String × String} (member : text ∈ texts (names ++ [name]) tree) :
    text ∈ entryTexts names entries := by
  induction entries with
  | nil => nomatch found
  | cons entry rest ih =>
    obtain ⟨first, firstTree⟩ := entry
    rw [List.lookup_cons] at found
    rw [entryTexts]
    split at found
    · rename_i same
      cases found
      exact List.mem_append_left _ ((eq_of_beq same) ▸ member)
    · exact List.mem_append_right _ (ih found)

theorem mem_texts_of_get? {tree : FileTree} {path : List String} {text : String}
    (found : tree.get? path = some (.file (some text))) (names : List String) :
    (names ++ path, text) ∈ tree.texts names := by
  induction path generalizing tree names with
  | nil =>
    cases tree with
    | file => cases found; simp [texts]
    | directory => nomatch found
  | cons name path ih =>
    cases tree with
    | file => nomatch found
    | directory entries =>
      simp only [get?] at found
      split at found
      · rename_i inner isEntry
        have below := ih found (names ++ [name])
        rw [List.append_assoc, List.singleton_append] at below
        exact mem_entryTexts_of_lookup isEntry below
      · nomatch found

/-! ## Putting files in place -/

def entries : FileTree → List (String × FileTree)
  | .file _ => []
  | .directory entries => entries

/-- Entries with one more, in place of the first with the same name. -/
def setEntry (name : String) (tree : FileTree) :
    List (String × FileTree) → List (String × FileTree)
  | [] => [(name, tree)]
  | entry :: rest =>
    if name = entry.1 then (name, tree) :: rest else entry :: setEntry name tree rest

/-- Puts something where names lead. Directories that are missing on the way are made. -/
def place (new : FileTree) : List String → FileTree → FileTree
  | [], _ => new
  | name :: names, tree =>
    let inner := (tree.entries.lookup name).getD (.directory [])
    .directory (setEntry name (place new names inner) tree.entries)

theorem lookup_setEntry (name : String) (tree : FileTree) (entries : List (String × FileTree)) :
    (setEntry name tree entries).lookup name = some tree := by
  induction entries with
  | nil => simp [setEntry]
  | cons entry rest ih =>
    obtain ⟨first, firstTree⟩ := entry
    simp only [setEntry]
    split
    · simp
    · rw [List.lookup_cons, beq_eq_false_iff_ne.mpr ‹_›]
      exact ih

theorem get?_place (new : FileTree) (names : List String) (tree : FileTree) :
    (place new names tree).get? names = some new := by
  induction names generalizing tree with
  | nil => simp [place, get?]
  | cons name names ih => simp [place, get?, lookup_setEntry, ih]

end FileTree

/-! ## Paths -/

def pathText (names : List String) : String :=
  names.foldl (fun path name => path ++ "/" ++ name) ""

def pathComponents (path : String) : List String :=
  (Text.cut (· == '/') path.toList).map String.ofList

def parentPath (path : String) : String :=
  let directory := (path.toList.reverse.dropWhile (· != '/')).drop 1
  if directory.isEmpty then "/" else String.ofList directory.reverse

/-- A path seen from a directory. An absolute path stays as it is. -/
def joinPath (directory path : String) : String :=
  if path.startsWith "/" then path
  else if directory.endsWith "/" then directory ++ path
  else directory ++ "/" ++ path

/-- Files with a working directory, from which relative paths start. -/
structure FileSystem where
  root : FileTree
  current : List String

namespace FileSystem

/-- The longest name that a file can have, in bytes. -/
def longestName : Nat := 255

/-- Follows one component of a path from the directory that `here` leads to. `path` is the whole path,
for the error. -/
def follow (files : FileSystem) (path : String) (here : List String) (component : String) :
    Except ImportError (List String) :=
  match files.root.get? here with
  | some (.directory entries) =>
    if component = "" ∨ component = "." then .ok here
    else if component = ".." then .ok here.dropLast
    else if longestName < component.utf8ByteSize then .error (.unreadable .nameTooLong)
    else if (entries.lookup component).isSome then .ok (here ++ [component])
    else .error (.notFound path)
  | _ => .error (.unreadable .notDirectory)

def walk (files : FileSystem) (path : String) : Except ImportError (List String) :=
  if path.toList.contains '\x00' then .error (.unreadable .containsNul)
  else if path.isEmpty then .error (.notFound path)
  else
    (pathComponents path).foldlM (files.follow path)
      (if path.startsWith "/" then [] else files.current)

def textFile (files : FileSystem) (path : String) : Except ImportError (List String) := do
  let names ← files.walk path
  match files.root.get? names with
  | some (.file (some _)) => return names
  | some (.file none) => throw (.unreadable .notText)
  | some (.directory _) => throw (.unreadable .isDirectory)
  | none => throw (.notFound path)

theorem get?_of_textFile {files : FileSystem} {path : String} {names : List String}
    (found : files.textFile path = .ok names) :
    ∃ text, files.root.get? names = some (.file (some text)) := by
  simp only [textFile, bind, Except.bind] at found
  split at found
  · nomatch found
  · rename_i walked _
    split at found
    · rename_i isText
      cases found
      exact ⟨_, isText⟩
    all_goals nomatch found

def isWebLocation (location : String) : Bool :=
  location.startsWith "http://" || location.startsWith "https://"

/-- The path that a location means, seen from the document with the canonical path `base`. -/
def locationPath (location : String) (base : Option String) : String :=
  match base with
  | none => location
  | some base => joinPath (parentPath base) location

def resolver (files : FileSystem) : Resolver where
  documents := (files.root.texts []).map fun (names, text) => (pathText names, text)
  locate location base :=
    if isWebLocation location then .error .unsupported
    else (files.textFile (locationPath location base)).map pathText
  located location base canonical found := by
    split at found
    · nomatch found
    · cases walked : files.textFile (locationPath location base) with
      | error => rw [walked] at found; nomatch found
      | ok names =>
        rw [walked] at found
        cases found
        obtain ⟨text, isText⟩ := get?_of_textFile walked
        have member := FileTree.mem_texts_of_get? isText []
        exact List.mem_map.mpr ⟨(pathText names, text),
          List.mem_map.mpr ⟨(names, text), member, rfl⟩, rfl⟩

end FileSystem

end SchemaContent
