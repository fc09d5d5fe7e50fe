import SchemaContent.Proofs.DenotedFiles
import SchemaContent.Proofs.LoadingOrder
import SchemaContent.Proofs.Registration
import SchemaContent.Proofs.RelocatedSchemas

/-! # Files and their copies

Files can be copied to documents that are known by the paths of the files. If each
location in a copy is the path of the file that the location in the file denotes, then
loading the copies is loading the files, schema by schema. -/

namespace SchemaContent

namespace FileSystem

/-! ## Copies -/

/-- What a location becomes that is seen from a directory: the path of the file that it
denotes, and if it denotes none, anything but the path of a file. One of the web stays. -/
inductive Relocates (files : FileSystem) (directory : List String) : String → String → Prop
  | web {location : String} (isWeb : isWebLocation location) :
      Relocates files directory location location
  | file {location : String} {names : List String} (noWeb : isWebLocation location = false)
      (denotes : files.Denotes directory location names) :
      Relocates files directory location (pathText names)
  | nothing {location other : String} (noWeb : isWebLocation location = false)
      (denotesNone : ∀ names, ¬files.Denotes directory location names)
      (noFile : ∀ names text, files.root.HasText names text → other ≠ pathText names) :
      Relocates files directory location other

/-- The documents are copies of the text files under their paths. The locations in them are
replaced, as seen from the directories of the files. -/
structure Mirrors (files : FileSystem) (allowDoctype : Bool) (documents : List (String × String)) :
    Prop where
  paths : ∀ path ∈ documents.map (·.1), ∃ names text, files.root.HasText names text ∧
    path = pathText names
  copies : ∀ names text, files.root.HasText names text →
    ∃ copy, documents.lookup (pathText names) = some copy ∧
      Related (fun _ _ => True) (Xml.Document.Relocated (files.Relocates names.dropLast))
        (Xml.Document.read text allowDoctype) (Xml.Document.read copy allowDoctype)

/-- A schema of a file, and one of its copy: they have the location of the file, and differ
in nothing but the locations that they mention. -/
def Twin (files : FileSystem) (schema other : Schema) : Prop :=
  ∃ names text, files.root.HasText names text ∧ schema.location = some (pathText names) ∧
    schema.Relocated (files.Relocates names.dropLast) other

variable {files : FileSystem} {documents : List (String × String)} {allowDoctype : Bool}
variable {names directory : List String} {location other text : String} {base : Option String}

theorem Twin.locations {schemas others : List Schema}
    (twins : List.Forall₂ files.Twin schemas others) :
    others.map (·.location) = schemas.map (·.location) := by
  induction twins with
  | nil => rfl
  | cons head _ induction =>
      rcases head with ⟨_, _, _, _, relocated⟩
      rw [List.map_cons, List.map_cons, induction, relocated.others]

theorem seenFrom_of_hasText (proper : files.Proper) (hasText : files.root.HasText names text) :
    files.SeenFrom names.dropLast (some (pathText names)) := by
  rcases List.eq_nil_or_concat names with rfl | ⟨front, last, rfl⟩
  · exact absurd hasText (proper.current.root.not_hasText text)
  · rw [List.concat_eq_append] at hasText ⊢
    rw [List.dropLast_concat]
    exact .file hasText

theorem Mirrors.isDocument (mirrors : files.Mirrors allowDoctype documents)
    (hasText : files.root.HasText names text) : pathText names ∈ documents.map (·.1) := by
  rcases mirrors.copies names text hasText with ⟨copy, isCopy, _⟩
  exact List.mem_map_of_mem (mem_of_lookup isCopy)

/-! ## Locations -/

/-- A location means a file where its replacement means the copy. -/
theorem Relocates.related_locate (relocates : files.Relocates directory location other)
    (proper : files.Proper) (mirrors : files.Mirrors allowDoctype documents)
    (seen : files.SeenFrom directory base) (otherBase : Option String) :
    Related (fun _ _ => True)
      (fun canonical peer => canonical = peer ∧
        ∃ names text, files.root.HasText names text ∧ canonical = pathText names)
      (files.resolver.locate location base)
      ((Resolver.ofDocuments documents).locate other otherBase) := by
  change Related _ _ _ (if other ∈ documents.map (·.1) then .ok other else .error _)
  cases located : files.resolver.locate location base with
  | ok canonical =>
      rcases (locate_eq_ok_iff proper seen).mp located with ⟨noWeb, names, denotes, rfl⟩
      rcases denotes.hasText with ⟨text, hasText⟩
      have samePath : other = pathText names := by
        cases relocates with
        | web isWeb => exact absurd (isWeb.symm.trans noWeb) (by decide)
        | file _ otherDenotes => rw [← otherDenotes.normal, denotes.normal]
        | nothing _ denotesNone _ => exact absurd denotes (denotesNone names)
      rw [samePath, if_pos (mirrors.isDocument hasText)]
      exact .ok ⟨rfl, names, text, hasText, rfl⟩
  | error cause =>
      have noDocument : other ∉ documents.map (·.1) := by
        intro isDocument
        rcases mirrors.paths other isDocument with ⟨names, text, hasText, isPath⟩
        cases relocates with
        | web isWeb =>
            rw [isPath, isWebLocation_pathText] at isWeb
            cases isWeb
        | file noWeb denotes =>
            have isLocated := (locate_eq_ok_iff proper seen).mpr ⟨noWeb, _, denotes, rfl⟩
            cases located.symm.trans isLocated
        | nothing _ _ noFile => exact noFile names text hasText isPath
      rw [if_neg noDocument]
      exact .error trivial

/-- Every location can be replaced. -/
theorem exists_relocates (proper : files.Proper) (directory : List String) (location : String) :
    ∃ other, files.Relocates directory location other := by
  cases isWeb : isWebLocation location with
  | true => exact ⟨location, .web isWeb⟩
  | false =>
      by_cases denotes : ∃ names, files.Denotes directory location names
      · rcases denotes with ⟨names, denotes⟩
        exact ⟨pathText names, .file isWeb denotes⟩
      · refine ⟨"", .nothing isWeb (fun names => (denotes ⟨names, ·⟩)) ?_⟩
        intro names text hasText isPath
        have isEmpty := congrArg String.toList isPath
        rw [toList_pathText] at isEmpty
        cases names with
        | nil => exact proper.current.root.not_hasText text hasText
        | cons name rest => cases isEmpty

theorem relocates_of_locate (proper : files.Proper) (seen : files.SeenFrom directory base)
    (located : files.resolver.locate location base = .ok other) :
    files.Relocates directory location other := by
  rcases (locate_eq_ok_iff proper seen).mp located with ⟨noWeb, names, denotes, rfl⟩
  exact .file noWeb denotes

end FileSystem

/-! ## Loading in step -/

/-- One more schema is added to both sets, or none to either. -/
theorem Schema.Relocated.related_add {relates : String → String → Prop} {schema peer : Schema}
    (relocated : schema.Relocated relates peer) (set others : SchemaSet) :
    Related (fun _ _ => True)
      (fun more moreOthers => more.schemas = set.schemas ++ [schema] ∧
        moreOthers.schemas = others.schemas ++ [peer])
      (set.add schema) (others.add peer) := by
  have sameFault : peer.unresolved? = schema.unresolved? := by
    rw [relocated.others]
    rfl
  cases unresolved : schema.unresolved? with
  | some fault =>
      rw [unresolved] at sameFault
      rw [set.add_of_unresolved unresolved, others.add_of_unresolved sameFault]
      exact .error trivial
  | none =>
      rw [unresolved] at sameFault
      rcases set.add_of_resolved unresolved with ⟨more, added, isMore⟩
      rcases others.add_of_resolved sameFault with ⟨moreOthers, otherAdded, isMoreOthers⟩
      rw [added, otherAdded]
      exact .ok ⟨isMore, isMoreOthers⟩

namespace FileSystem

/-- A mention in a file, and one in its copy. -/
def TwinMention (files : FileSystem) (mention other : Mention) : Prop :=
  ∃ directory, files.SeenFrom directory mention.base ∧
    files.Relocates directory mention.location other.location

/-- What is loaded from files, and from their copies. -/
structure Twins (files : FileSystem) (loaded peer : Loaded) : Prop where
  schemas : List.Forall₂ files.Twin loaded.set.schemas peer.set.schemas
  locations : peer.locations = loaded.locations

variable {files : FileSystem} {documents : List (String × String)} {allowDoctype : Bool}

theorem Twin.mentions {schema other : Schema} {names : List String}
    (relocated : schema.Relocated (files.Relocates names.dropLast) other)
    (seen : files.SeenFrom names.dropLast (some (pathText names))) :
    List.Forall₂ files.TwinMention (schema.mentions (pathText names))
      (other.mentions (pathText names)) := by
  refine List.rel_filterMap ?_ relocated.directives
  intro directive peer sameDirective
  have sameLocation := sameDirective.location
  dsimp only
  generalize directive.location = location at sameLocation ⊢
  generalize peer.location = otherLocation at sameLocation ⊢
  cases sameLocation with
  | none => exact .none
  | some relocates => exact .some ⟨names.dropLast, seen, relocates⟩

section

variable (proper : files.Proper) (mirrors : files.Mirrors allowDoctype documents)
variable {loaded peer : Loaded}

include proper mirrors

/-- A mention in a file and one in its copy lead to the same. -/
theorem Twins.visit (twins : files.Twins loaded peer) {mention other : Mention}
    (twin : files.TwinMention mention other) :
    Related (fun _ _ => True)
      (fun (more, found) (morePeer, otherFound) => files.Twins more morePeer ∧
        List.Forall₂ files.TwinMention found otherFound)
      (loaded.visit files.resolver allowDoctype mention)
      (peer.visit (.ofDocuments documents) allowDoctype other) := by
  rcases twin with ⟨directory, seen, relocates⟩
  have located := relocates.related_locate proper mirrors seen other.base
  rw [Loaded.visit, Loaded.visit]
  generalize files.resolver.locate mention.location mention.base = outcome at located ⊢
  generalize (Resolver.ofDocuments documents).locate other.location other.base = peerOutcome
    at located ⊢
  cases located with
  | error => exact .error trivial
  | ok same =>
      rcases same with ⟨rfl, names, text, hasText, rfl⟩
      dsimp only
      rw [twins.locations]
      split
      · exact .ok ⟨twins, .nil⟩
      rcases mirrors.copies names text hasText with ⟨copy, isCopy, readAlike⟩
      have isText : (Resolver.ofDocuments documents).text (pathText names) = copy := by
        change (documents.lookup (pathText names)).getD "" = copy
        rw [isCopy, Option.getD_some]
      rw [text_resolver proper hasText, isText]
      refine (Schema.related_parse readAlike).bind ?_
      intro schema copied relocated
      have located : { schema with location := some (pathText names) }.Relocated
          (files.Relocates names.dropLast) { copied with location := some (pathText names) } := by
        refine ⟨relocated.directives, ?_⟩
        rw [relocated.others]
      refine (located.related_add loaded.set peer.set).bind ?_
      rintro more morePeer ⟨isMore, isMorePeer⟩
      refine .ok ⟨⟨?_, rfl⟩, Twin.mentions relocated (seenFrom_of_hasText proper hasText)⟩
      change List.Forall₂ files.Twin more.schemas morePeer.schemas
      rw [isMore, isMorePeer]
      exact List.rel_append twins.schemas (.cons ⟨names, text, hasText, rfl, located⟩ .nil)

theorem Twins.visitAll {layer others : List Mention}
    (matched : List.Forall₂ files.TwinMention layer others) (twins : files.Twins loaded peer) :
    Related (fun _ _ => True)
      (fun (more, found) (morePeer, otherFound) => files.Twins more morePeer ∧
        List.Forall₂ files.TwinMention found otherFound)
      (loaded.visitAll files.resolver allowDoctype layer)
      (peer.visitAll (.ofDocuments documents) allowDoctype others) := by
  induction matched generalizing loaded peer with
  | nil => exact .ok ⟨twins, .nil⟩
  | cons head _ induction =>
      refine (twins.visit proper mirrors head).bind ?_
      rintro ⟨more, found⟩ ⟨morePeer, otherFound⟩ ⟨moreTwins, sameFound⟩
      refine (induction moreTwins).bind ?_
      rintro ⟨most, later⟩ ⟨mostPeer, otherLater⟩ ⟨mostTwins, sameLater⟩
      exact .ok ⟨mostTwins, List.rel_append sameFound sameLater⟩

/-- Both runs go through the same layers. -/
theorem Twins.follow {layer others : List Mention}
    (matched : List.Forall₂ files.TwinMention layer others) (twins : files.Twins loaded peer) :
    Related (fun _ _ => True) files.Twins
      (loaded.follow files.resolver allowDoctype layer)
      (peer.follow (.ofDocuments documents) allowDoctype others) := by
  induction loaded, layer using Loaded.follow.induct files.resolver allowDoctype
    generalizing peer others with
  | case1 loaded layer fault failed =>
      rw [Loaded.follow_eq_bind, Loaded.follow_eq_bind]
      refine (twins.visitAll proper mirrors matched).bind_of_eq_ok ?_
      intro result peerResult visited
      cases failed.symm.trans visited
  | case2 loaded layer more isMore =>
      rw [Loaded.follow_eq_bind, Loaded.follow_eq_bind]
      refine (twins.visitAll proper mirrors matched).bind_of_eq_ok ?_
      rintro result ⟨morePeer, found⟩ visited ⟨moreTwins, sameFound⟩
      cases isMore.symm.trans visited
      cases sameFound
      dsimp only
      rw [Loaded.follow_nil, Loaded.follow_nil]
      exact .ok moreTwins
  | case3 loaded layer more first rest isMore induction =>
      rw [Loaded.follow_eq_bind, Loaded.follow_eq_bind]
      refine (twins.visitAll proper mirrors matched).bind_of_eq_ok ?_
      rintro result ⟨morePeer, found⟩ visited ⟨moreTwins, sameFound⟩
      cases isMore.symm.trans visited
      exact induction sameFound moreTwins

end

/-! ## What is loaded -/

/-- Each file that is reached is loaded, and once, whatever locations lead to it. -/
structure LoadsOnce (files : FileSystem) (allowDoctype : Bool) (entry : String)
    (schemas : List Schema) : Prop where
  distinct : (schemas.map (·.location)).Nodup
  reached : ∀ mention, files.resolver.Reached allowDoctype entry mention →
    ∀ directory names, files.SeenFrom directory mention.base →
      files.Denotes directory mention.location names →
        some (pathText names) ∈ schemas.map (·.location)

theorem loadsOnce (proper : files.Proper) {entry : String} {set : SchemaSet}
    (success : SchemaSet.load files.resolver entry allowDoctype = .ok set) :
    files.LoadsOnce allowDoctype entry set.schemas := by
  rcases Loaded.exists_follows success with ⟨loaded, row, rfl, follows⟩
  have loadsAll := follows.loadsAll
  refine ⟨loadsAll.once, ?_⟩
  intro mention reached directory names seen denotes
  have isMention := Resolver.mem_of_reached follows.whole follows.allRead reached
  rcases follows.allRead mention isMention with ⟨schema, isRead⟩
  rcases Resolver.read_eq_ok_iff.mp isRead with ⟨canonical, located, _⟩
  rcases (locate_eq_ok_iff proper seen).mp located with ⟨_, others, otherDenotes, rfl⟩
  rw [loadsAll.locations, ← denotes.normal, otherDenotes.normal]
  exact ⟨mention, reached, located⟩

/-- Loading files fails or succeeds as loading their copies does. If it succeeds, the
schemas are the same in the same order and have the same locations, but for the locations
that they mention, and each file that is reached is loaded once. -/
theorem related_load_of_mirrors (proper : files.Proper)
    (mirrors : files.Mirrors allowDoctype documents) {entry other : String}
    (relocates : files.Relocates files.current entry other) :
    Related (fun _ _ => True)
      (fun set copies => List.Forall₂ files.Twin set.schemas copies.schemas ∧
        files.LoadsOnce allowDoctype entry set.schemas)
      (SchemaSet.load files.resolver entry allowDoctype)
      (SchemaSet.load (.ofDocuments documents) other allowDoctype) := by
  have twins : files.Twins .nothing .nothing := ⟨.nil, rfl⟩
  have matched : List.Forall₂ files.TwinMention [⟨entry, none⟩] [⟨other, none⟩] :=
    .cons ⟨files.current, .start, relocates⟩ .nil
  have loaded : Related (fun _ _ => True)
      (fun set copies => List.Forall₂ files.Twin set.schemas copies.schemas)
      (SchemaSet.load files.resolver entry allowDoctype)
      (SchemaSet.load (.ofDocuments documents) other allowDoctype) :=
    (twins.follow proper mirrors matched).map fun _ _ same => same.schemas
  exact loaded.imp_of_eq_ok fun set copies success same => ⟨same, loadsOnce proper success⟩

end FileSystem

end SchemaContent

/-! ### Workshop

Two files that include each other, one of them in a directory below that of the other. -/

namespace SchemaContent.Workshop

def main : String :=
  "<schema><include schemaLocation=\"parts//./part\"/></schema>"

def part : String :=
  "<schema><include schemaLocation=\"../main\"/></schema>"

def parts : FileTree :=
  .directory [("part", .file (some part))]

def work : FileTree :=
  .directory [("main", .file (some main)), ("parts", parts)]

def files : FileSystem where
  root := .directory [("work", work)]
  current := ["work"]

def mainCopy : String :=
  "<schema><include schemaLocation=\"/work/parts/part\"/></schema>"

def partCopy : String :=
  "<schema><include schemaLocation=\"/work/main\"/></schema>"

def copies : List (String × String) :=
  [("/work/main", mainCopy), ("/work/parts/part", partCopy)]

theorem isFileName : ∀ name ∈ ["main", "part", "parts", "work"], IsFileName name := by
  intro name isName
  simp only [List.mem_cons, List.not_mem_nil, or_false] at isName
  rcases isName with rfl | rfl | rfl | rfl <;>
  · constructor <;> decide

theorem proper : files.Proper := by
  have partsProper : parts.Proper := by
    refine .directory ?_ ?_
    · exact List.forall_mem_singleton.mpr (isFileName "part" (by decide))
    · exact List.forall_mem_singleton.mpr (.file _)
  have workProper : work.Proper := by
    refine .directory ?_ ?_
    · exact List.forall_mem_cons.mpr ⟨isFileName "main" (by decide),
        List.forall_mem_singleton.mpr (isFileName "parts" (by decide))⟩
    · exact List.forall_mem_cons.mpr ⟨.file _, List.forall_mem_singleton.mpr partsProper⟩
  refine ⟨.directory ?_ ?_, _, rfl⟩
  · exact List.forall_mem_singleton.mpr (isFileName "work" (by decide))
  · exact List.forall_mem_singleton.mpr workProper

theorem eq_of_hasText {names : List String} {text : String}
    (hasText : files.root.HasText names text) :
    names = ["work", "main"] ∧ text = main ∨
      names = ["work", "parts", "part"] ∧ text = part := by
  have isText : (names, text) ∈ files.root.texts [] := FileTree.mem_texts_of_get? hasText []
  change (names, text) ∈ [(["work", "main"], main), (["work", "parts", "part"], part)] at isText
  simpa using isText

/-- The tree of a document that includes another one. -/
def tree (location : String) : Xml.Document where
  bindings := []
  root := ⟨⟨none, "schema"⟩, [],
    [⟨⟨none, "include"⟩, [⟨⟨none, "schemaLocation"⟩, location⟩], []⟩]⟩

theorem read_main : Xml.Document.read main false = .ok (tree "parts//./part") :=
  toOption_eq_some_iff.mp (by decide +kernel)

theorem read_mainCopy : Xml.Document.read mainCopy false = .ok (tree "/work/parts/part") :=
  toOption_eq_some_iff.mp (by decide +kernel)

theorem read_part : Xml.Document.read part false = .ok (tree "../main") :=
  toOption_eq_some_iff.mp (by decide +kernel)

theorem read_partCopy : Xml.Document.read partCopy false = .ok (tree "/work/main") :=
  toOption_eq_some_iff.mp (by decide +kernel)

theorem tree_relocated {relates : String → String → Prop} {location other : String}
    (related : relates (String.ofList (Text.trim location.toList))
      (String.ofList (Text.trim other.toList))) :
    (tree location).Relocated relates (tree other) where
  bindings := rfl
  name := rfl
  attributes := rfl
  children := .cons (.directive (.inr rfl) (.cons (.replaced related) .nil)) .nil

theorem mirrors : files.Mirrors false copies where
  paths := by
    intro path isPath
    change path ∈ ["/work/main", "/work/parts/part"] at isPath
    simp only [List.mem_cons, List.not_mem_nil, or_false] at isPath
    rcases isPath with rfl | rfl
    · exact ⟨["work", "main"], main, rfl, by decide +kernel⟩
    · exact ⟨["work", "parts", "part"], part, rfl, by decide +kernel⟩
  copies := by
    intro names text hasText
    have seen := FileSystem.seenFrom_of_hasText proper hasText
    have replaced {location other : String}
        (located : files.resolver.locate location (some (pathText names)) = .ok other) :
        files.Relocates names.dropLast location other :=
      FileSystem.relocates_of_locate proper seen located
    rcases eq_of_hasText hasText with ⟨rfl, rfl⟩ | ⟨rfl, rfl⟩
    · refine ⟨mainCopy, by decide +kernel, ?_⟩
      rw [read_main, read_mainCopy]
      exact .ok (tree_relocated (replaced (by decide +kernel)))
    · refine ⟨partCopy, by decide +kernel, ?_⟩
      rw [read_part, read_partCopy]
      exact .ok (tree_relocated (replaced (by decide +kernel)))

theorem relocates : files.Relocates files.current "/work//parts/../main" "/work/main" :=
  FileSystem.relocates_of_locate proper .start (by decide +kernel)

/-- Each of the two is loaded once, as from the copies. -/
theorem related_load_of_workshop :
    ∃ set others, SchemaSet.load files.resolver "/work//parts/../main" false = .ok set ∧
      SchemaSet.load (.ofDocuments copies) "/work/main" false = .ok others ∧
      List.Forall₂ files.Twin set.schemas others.schemas ∧
      set.schemas.map (·.location) = [some "/work/main", some "/work/parts/part"] := by
  have related := FileSystem.related_load_of_mirrors proper mirrors relocates
  have isLoaded : (SchemaSet.load (.ofDocuments copies) "/work/main" false).toOption.map
      (·.schemas.map (·.location)) = some [some "/work/main", some "/work/parts/part"] := by
    decide +kernel
  rcases Option.map_eq_some_iff.mp isLoaded with ⟨others, isOthers, sameLocations⟩
  have success := toOption_eq_some_iff.mp isOthers
  rcases related.flip.exists_of_eq_ok success with ⟨set, isSet, twins, _⟩
  refine ⟨set, others, isSet, success, twins, ?_⟩
  rw [← sameLocations]
  exact (FileSystem.Twin.locations twins).symm

end SchemaContent.Workshop
