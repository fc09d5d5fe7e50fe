import Mathlib.Data.List.Basic
import Mathlib.Data.List.Induction
import SchemaContent.Import.Resolver
import SchemaContent.Proofs.WrittenValues

/-! # Canonical paths

The canonical path of a file holds its names, each after a slash. So the names can be read
off it, the names of its directory are those before the last slash, and a relative location
seen from the file continues them. -/

namespace SchemaContent

/-- What is no separator is in a piece. -/
theorem Text.exists_mem_cut {separates : Char → Bool} {text : List Char} {character : Char}
    (isCharacter : character ∈ text) (notSeparator : separates character = false) :
    ∃ piece ∈ cut separates text, character ∈ piece := by
  induction text with
  | nil => cases isCharacter
  | cons first rest induction =>
      rw [cut]
      split
      · rename_i isSeparator
        rcases List.mem_cons.mp isCharacter with rfl | isLater
        · exact absurd (notSeparator.symm.trans isSeparator) Bool.false_ne_true
        · rcases induction isLater with ⟨piece, isPiece, inPiece⟩
          exact ⟨piece, List.mem_cons_of_mem _ isPiece, inPiece⟩
      · split
        · rename_i noPieces
          exact absurd noPieces (cut_ne_nil separates rest)
        · rename_i head tail isCut
          rcases List.mem_cons.mp isCharacter with rfl | isLater
          · exact ⟨_, List.mem_cons_self, List.mem_cons_self⟩
          · rcases induction isLater with ⟨piece, isPiece, inPiece⟩
            rw [isCut] at isPiece
            rcases List.mem_cons.mp isPiece with rfl | isTail
            · exact ⟨_, List.mem_cons_self, List.mem_cons_of_mem _ inPiece⟩
            · exact ⟨piece, List.mem_cons_of_mem _ isTail, inPiece⟩

/-- The names are separated by slashes, so there is none in them. -/
def Slashless (names : List String) : Prop :=
  ∀ name ∈ names, '/' ∉ name.toList

variable {names directory : List String} {name location : String}

/-! ## Names -/

theorem pathText_concat (directory : List String) (name : String) :
    pathText (directory ++ [name]) = pathText directory ++ "/" ++ name := by
  rw [pathText, List.foldl_append]
  rfl

theorem toList_pathText (names : List String) :
    (pathText names).toList = names.flatMap fun name => '/' :: name.toList := by
  induction names using List.reverseRecOn with
  | nil => rfl
  | append_singleton directory name induction =>
      rw [pathText_concat, String.toList_append, String.toList_append, induction,
        List.flatMap_append, List.flatMap_singleton, List.append_assoc]
      rfl

theorem mem_pathText {character : Char} (isCharacter : character ∈ (pathText names).toList) :
    character = '/' ∨ ∃ name ∈ names, character ∈ name.toList := by
  rw [toList_pathText] at isCharacter
  rcases List.mem_flatMap.mp isCharacter with ⟨name, isName, isCharacter⟩
  rcases List.mem_cons.mp isCharacter with isSlash | inName
  · exact .inl isSlash
  · exact .inr ⟨name, isName, inName⟩

theorem any_slash_eq_false (noSlash : '/' ∉ name.toList) :
    name.toList.any (· == '/') = false := by
  rw [List.any_eq_false]
  intro character isCharacter isSlash
  exact noSlash (eq_of_beq isSlash ▸ isCharacter)

/-- The components of names that are followed by a path. -/
theorem cut_names (slashless : Slashless names) (rest : List Char) :
    ∀ first : List Char, first.any (· == '/') = false →
      Text.cut (· == '/')
          (first ++ ((names.flatMap fun name => '/' :: name.toList) ++ '/' :: rest)) =
        first :: (names.map String.toList ++ Text.cut (· == '/') rest) := by
  induction names with
  | nil =>
      intro first noSlash
      exact Text.cut_append_separator noSlash rfl rest
  | cons name others induction =>
      intro first noSlash
      have nameSlashless := any_slash_eq_false (slashless name List.mem_cons_self)
      have others := induction
        (fun other isOther => slashless other (List.mem_cons_of_mem _ isOther)) _ nameSlashless
      rw [List.flatMap_cons, List.cons_append, List.cons_append,
        Text.cut_append_separator noSlash rfl, List.append_assoc, others]
      rfl

theorem pathComponents_append (slashless : Slashless names) (path : String) :
    pathComponents (pathText names ++ "/" ++ path) = "" :: (names ++ pathComponents path) := by
  have isCut := cut_names slashless path.toList [] rfl
  have isText : (pathText names ++ "/" ++ path).toList =
      (names.flatMap fun name => '/' :: name.toList) ++ '/' :: path.toList := by
    rw [String.toList_append, String.toList_append, toList_pathText, List.append_assoc]
    rfl
  rw [pathComponents, isText, ← List.nil_append (_ ++ _), isCut, List.map_cons,
    List.map_append, List.map_map, pathComponents]
  simp

theorem exists_component_of_mem {path : String} {character : Char}
    (isCharacter : character ∈ path.toList) (notSlash : character ≠ '/') :
    ∃ component ∈ pathComponents path, character ∈ component.toList := by
  have notSeparator : (character == '/') = false := beq_eq_false_iff_ne.mpr notSlash
  have isInside : ∃ piece ∈ Text.cut (· == '/') path.toList, character ∈ piece :=
    Text.exists_mem_cut isCharacter notSeparator
  rcases isInside with ⟨piece, isPiece, inPiece⟩
  refine ⟨String.ofList piece, List.mem_map_of_mem isPiece, ?_⟩
  rw [String.toList_ofList]
  exact inPiece

/-- Names can be read off their path. -/
theorem pathText_injective {others : List String} (slashless : Slashless names)
    (othersSlashless : Slashless others) (same : pathText names = pathText others) :
    names = others := by
  have sameComponents := pathComponents_append slashless ""
  rw [same, pathComponents_append othersSlashless ""] at sameComponents
  exact (List.append_cancel_right (List.cons.inj sameComponents).2).symm

/-! ## Directories -/

theorem parentPath_concat (noSlash : '/' ∉ name.toList) :
    parentPath (pathText (directory ++ [name])) =
      if directory = [] then "/" else pathText directory := by
  have isText : (pathText (directory ++ [name])).toList =
      (pathText directory).toList ++ '/' :: name.toList := by
    rw [pathText_concat, String.toList_append, String.toList_append, List.append_assoc]
    rfl
  have others : ∀ character ∈ name.toList.reverse, (character != '/') = true := by
    intro character isCharacter
    rw [bne_iff_ne]
    exact fun same => noSlash (same ▸ List.mem_reverse.mp isCharacter)
  have before : (((pathText (directory ++ [name])).toList.reverse.dropWhile
      (· != '/')).drop 1) = (pathText directory).toList.reverse := by
    rw [isText, List.reverse_append, List.reverse_cons, List.append_assoc,
      List.dropWhile_append_of_pos others]
    rfl
  rw [parentPath]
  simp only [before, List.reverse_reverse, String.ofList_toList, List.isEmpty_reverse]
  cases directory with
  | nil => rfl
  | cons first rest =>
      have notEmpty : (pathText (first :: rest)).toList.isEmpty = false := by
        rw [toList_pathText]
        rfl
      rw [notEmpty, if_neg (List.cons_ne_nil first rest)]
      rfl

theorem startsWith_slash_iff {path : String} :
    path.startsWith "/" ↔ path.toList.head? = some '/' := by
  rw [String.startsWith_string_iff]
  cases path.toList with
  | nil => simp
  | cons first rest => simp [eq_comm]

theorem endsWith_slash_iff {path : String} :
    path.endsWith "/" ↔ path.toList.getLast? = some '/' := by
  rw [String.endsWith, String.Slice.endsWith_string_iff, String.copy_toSlice,
    List.getLast?_eq_some_iff]
  exact exists_congr fun front => eq_comm

/-- The path of a directory other than the root does not end with a slash. -/
theorem endsWith_pathText_concat (noSlash : '/' ∉ name.toList) (notEmpty : name ≠ "") :
    (pathText (directory ++ [name])).endsWith "/" = false := by
  rw [Bool.eq_false_iff, ne_eq, endsWith_slash_iff, pathText_concat, String.toList_append]
  intro isLast
  rw [List.getLast?_append_of_ne_nil _ (by simpa using notEmpty)] at isLast
  exact noSlash (List.mem_of_getLast? isLast)

/-- A relative location seen from a file continues the path of its directory. -/
theorem joinPath_of_relative (slashless : Slashless (directory ++ [name]))
    (notEmpty : ∀ other ∈ directory, other ≠ "") (relative : location.startsWith "/" = false) :
    joinPath (parentPath (pathText (directory ++ [name]))) location =
      pathText directory ++ "/" ++ location := by
  have noSlash := slashless name (List.mem_append_right _ List.mem_cons_self)
  rw [parentPath_concat noSlash, joinPath, relative, if_neg Bool.false_ne_true]
  rcases List.eq_nil_or_concat directory with rfl | ⟨front, last, rfl⟩
  · have isRoot : "/".endsWith "/" := endsWith_slash_iff.mpr rfl
    rw [if_pos rfl, if_pos isRoot]
    rfl
  · have lastNotEmpty := notEmpty last (by simp)
    have lastSlashless := slashless last (by simp)
    have notRoot : front ++ [last] ≠ [] := List.append_ne_nil_of_right_ne_nil _ (by simp)
    rw [List.concat_eq_append, if_neg notRoot,
      endsWith_pathText_concat lastSlashless lastNotEmpty, if_neg Bool.false_ne_true]

theorem joinPath_of_absolute {path : String} (absolute : location.startsWith "/") :
    joinPath path location = location :=
  if_pos absolute

theorem startsWith_slash_append (names : List String) (path : String) :
    (pathText names ++ "/" ++ path).startsWith "/" := by
  rw [startsWith_slash_iff, String.toList_append, String.toList_append, toList_pathText]
  cases names <;> rfl

/-- The canonical path of a file is no location of the web. -/
theorem isWebLocation_pathText (names : List String) :
    FileSystem.isWebLocation (pathText names) = false := by
  rw [FileSystem.isWebLocation, Bool.or_eq_false_iff, String.startsWith_string_eq_false_iff,
    String.startsWith_string_eq_false_iff, toList_pathText]
  cases names with
  | nil => decide
  | cons first rest =>
      rw [List.flatMap_cons, List.cons_append]
      constructor <;>
      · rintro ⟨after, same⟩
        exact absurd (List.cons.inj same).1 (by decide)

end SchemaContent
