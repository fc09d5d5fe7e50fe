import SchemaContent.Main
import SchemaContent.Proofs.CanonicalOrder
import SchemaContent.Proofs.OnePass
import SchemaContent.Proofs.Expansion
import SchemaContent.Proofs.SubstitutionClosure
import SchemaContent.Proofs.MemberBounds
import SchemaContent.Proofs.ModuleBlocks
import SchemaContent.Proofs.Rearrangement
import SchemaContent.Proofs.ExplorationOrder
import SchemaContent.Proofs.RegistrationOrder
import SchemaContent.Proofs.Contents
import SchemaContent.Proofs.MemberOrder
import SchemaContent.Proofs.DeclarationOrder
import SchemaContent.Proofs.ModelOwners
import SchemaContent.Proofs.Acceptance
import SchemaContent.Proofs.Index
import SchemaContent.Proofs.Lookups
import SchemaContent.Proofs.LoadingOrder
import SchemaContent.Proofs.InsertedParticles
import SchemaContent.Proofs.ComparedContents
import SchemaContent.Proofs.WiderSets
import SchemaContent.Proofs.AddedSchemas
import SchemaContent.Proofs.WordLetters
import SchemaContent.Proofs.TypeNames
import SchemaContent.Proofs.Catalogue
import SchemaContent.Proofs.ReadyEntries
import SchemaContent.Proofs.DraftRecords
import SchemaContent.Proofs.MemberFields
import SchemaContent.Proofs.ItemReferences
import SchemaContent.Proofs.ItemNames
import SchemaContent.Proofs.BareContents
import SchemaContent.Proofs.ParsedSchemas
import SchemaContent.Proofs.AffiliationClosure
import SchemaContent.Proofs.ExplainedFaults
import SchemaContent.Proofs.MemberOwners
import SchemaContent.Proofs.BindingOrder
import SchemaContent.Proofs.ReferenceMeanings
import SchemaContent.Proofs.TakenNames
import SchemaContent.Proofs.StandardNames
import SchemaContent.Proofs.WrittenValues
import SchemaContent.Proofs.WrittenSchemas
import SchemaContent.Proofs.NearestHeads
import SchemaContent.Proofs.SnakeCase
import SchemaContent.Proofs.NumberedNames
import SchemaContent.Proofs.FieldNames
import SchemaContent.Proofs.DirectiveTargets
import SchemaContent.Proofs.FilePaths
import SchemaContent.Proofs.FileTrees
import SchemaContent.Proofs.DenotedFiles
import SchemaContent.Proofs.RelocatedSchemas
import SchemaContent.Proofs.MirroredFiles
import SchemaContent.Proofs.HeadChains
import SchemaContent.Proofs.ItemOrder
import SchemaContent.Proofs.AsciiWords
import SchemaContent.Proofs.ValidIdentifiers
import SchemaContent.Proofs.GeneratedIdentifiers
import SchemaContent.Proofs.PrintedItems
import SchemaContent.Proofs.SelectedContent
import SchemaContent.Proofs.ContentGrammar
import SchemaContent.Proofs.SkippedElements
import SchemaContent.Proofs.BoundValues
import SchemaContent.Proofs.FirstFreeNames
import SchemaContent.Proofs.PlainNames
import SchemaContent.Proofs.Outlines
import SchemaContent.Proofs.LegibleListings
import SchemaContent.Proofs.ShuffledParticles
