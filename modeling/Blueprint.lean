import Blueprint.Loading
import Blueprint.Snapshot
import Blueprint.Proofs.Lookup
import Blueprint.Proofs.Entities
import Blueprint.Proofs.Linking
import Blueprint.Proofs.Stages
import Blueprint.Proofs.Convergence
import Blueprint.Proofs.Integrity
import Blueprint.Proofs.JoinTables
import Blueprint.Proofs.Following
import Blueprint.Proofs.Answers
import Blueprint.Proofs.Placeholders
import Blueprint.Proofs.RelationLines
import Blueprint.Proofs.Coherence
import Blueprint.Proofs.Tabulation
import Blueprint.Proofs.ModelNames
import Blueprint.Proofs.Growth
import Blueprint.Proofs.ModelOrder
import Blueprint.Proofs.UnrelatedModel
import Blueprint.Proofs.Needs
import Blueprint.Proofs.TrueErrors
import Blueprint.Proofs.Sections
import Blueprint.Proofs.Shape
import Blueprint.Proofs.Longhand
import Blueprint.Proofs.Shorthand
import Blueprint.Proofs.DocumentCodec
import Blueprint.Proofs.ColumnLayout
import Blueprint.Proofs.MigrationConditions
import Blueprint.Proofs.NullFields
import Blueprint.Proofs.PlanPages
import Blueprint.Proofs.RouteVerbs
import Blueprint.Proofs.FormAbilities
import Blueprint.Proofs.ActionSources
import Blueprint.Proofs.Expansion
import Blueprint.Proofs.VariableScopes
import Blueprint.Proofs.DistinctVariables
import Blueprint.Proofs.GuessedPaths
import Blueprint.Proofs.EntityNames
import Blueprint.Proofs.StandingRelations
import Blueprint.Proofs.RelationModifiers
import Blueprint.Proofs.JoinSymmetry
import Blueprint.Proofs.WrittenLines
import Blueprint.Proofs.ColumnIndexes
import Blueprint.Proofs.ForeignKeys
import Blueprint.Proofs.TableDeclarations
import Blueprint.Proofs.SectionFiles
import Blueprint.Proofs.DirectoryNames
import Blueprint.Proofs.CaseConversions
import Blueprint.Proofs.PluralTables
