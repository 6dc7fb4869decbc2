import Hotload.Bytes
import Hotload.Cache.Layout
import Hotload.Cache.Staging
import Hotload.Cause
import Hotload.CommandLine.Arguments
import Hotload.CommandLine.Run
import Hotload.Compiler.Basic
import Hotload.Compiler.External
import Hotload.Config.Basic
import Hotload.Config.Document
import Hotload.Deflate.Bits
import Hotload.Deflate.Coded
import Hotload.Deflate.Huffman
import Hotload.Deflate.Inflate
import Hotload.Deflate.Stored
import Hotload.Digest.Crc32
import Hotload.Digest.Fnv
import Hotload.Digest.Sha256
import Hotload.Duration
import Hotload.Event
import Hotload.Files.Basic
import Hotload.Files.Change
import Hotload.Files.Walk
import Hotload.Guard.BusySet
import Hotload.Guard.Quiescence
import Hotload.Main
import Hotload.Native.SharedObject
import Hotload.Packaging
import Hotload.Path
import Hotload.Proofs.Answers
import Hotload.Proofs.ArchiveIndexes
import Hotload.Proofs.ArtifactOrigins
import Hotload.Proofs.BoundedWaits
import Hotload.Proofs.BusyMarkers
import Hotload.Proofs.BytePlaces
import Hotload.Proofs.CacheCompiles
import Hotload.Proofs.CacheContents
import Hotload.Proofs.CacheDirectory
import Hotload.Proofs.CacheLayouts
import Hotload.Proofs.CacheNames
import Hotload.Proofs.CacheOperations
import Hotload.Proofs.CacheRuns
import Hotload.Proofs.ChildResolvers
import Hotload.Proofs.ContainerCopies
import Hotload.Proofs.ContainerRoundTrip
import Hotload.Proofs.DeclaredSizes
import Hotload.Proofs.DefinedSymbols
import Hotload.Proofs.Definitions
import Hotload.Proofs.DefinitionsApart
import Hotload.Proofs.DefinitionsUnderWay
import Hotload.Proofs.EmptiedCaches
import Hotload.Proofs.Errands
import Hotload.Proofs.FailedCompiles
import Hotload.Proofs.FailedDefinitions
import Hotload.Proofs.FailedLoads
import Hotload.Proofs.FailureFlag
import Hotload.Proofs.FilledTemplates
import Hotload.Proofs.FreshUnits
import Hotload.Proofs.GivenNumbers
import Hotload.Proofs.GuardedUnloads
import Hotload.Proofs.HostRuns
import Hotload.Proofs.JoinedPaths
import Hotload.Proofs.LearntSymbols
import Hotload.Proofs.Lifetimes
import Hotload.Proofs.Links
import Hotload.Proofs.LoadArtifacts
import Hotload.Proofs.LoadFiles
import Hotload.Proofs.LoadLock
import Hotload.Proofs.LoadOrder
import Hotload.Proofs.LoadRegistrations
import Hotload.Proofs.Loads
import Hotload.Proofs.LocalSymbols
import Hotload.Proofs.MarkedCalls
import Hotload.Proofs.OlderParents
import Hotload.Proofs.Operations
import Hotload.Proofs.Outputs
import Hotload.Proofs.Places
import Hotload.Proofs.Purging
import Hotload.Proofs.RefusedRemovals
import Hotload.Proofs.RegisteredArtifacts
import Hotload.Proofs.RegisteredSymbols
import Hotload.Proofs.RegistrationOrder
import Hotload.Proofs.RegistrationRuns
import Hotload.Proofs.RegistryHistory
import Hotload.Proofs.Releases
import Hotload.Proofs.ReplacedUnits
import Hotload.Proofs.ResolverViews
import Hotload.Proofs.SearchCircles
import Hotload.Proofs.SearchDepth
import Hotload.Proofs.SearchOrder
import Hotload.Proofs.SearchSteps
import Hotload.Proofs.SharedSymbols
import Hotload.Proofs.SpelledTexts
import Hotload.Proofs.StagedFiles
import Hotload.Proofs.StagedNames
import Hotload.Proofs.StoredStreams
import Hotload.Proofs.SurvivingFiles
import Hotload.Proofs.SymbolArchives
import Hotload.Proofs.Tenancies
import Hotload.Proofs.Traces
import Hotload.Proofs.UndrawnTokens
import Hotload.Proofs.Wiring
import Hotload.Proofs.WrittenContainers
import Hotload.Reaper.Basic
import Hotload.Registry.Basic
import Hotload.Session.Basic
import Hotload.Session.Compile
import Hotload.Session.Lookup
import Hotload.Session.Register
import Hotload.Session.Resolver
import Hotload.Session.Settle
import Hotload.Shell.Parser
import Hotload.Shell.Run
import Hotload.Shell.State
import Hotload.Shell.Syntax
import Hotload.Shell.Tools
import Hotload.Symbol.Basic
import Hotload.Symbol.EntryPath
import Hotload.Table
import Hotload.Text.Base64
import Hotload.Text.Invisible
import Hotload.Text.Quoted
import Hotload.Text.Utf8
import Hotload.Toml.Lexeme
import Hotload.Toml.Parser
import Hotload.Toml.Printer
import Hotload.Toml.Value
import Hotload.Unit.Basic
import Hotload.Unit.Binding
import Hotload.Unit.Error
import Hotload.Zip.CodePage
import Hotload.Zip.Directory
import Hotload.Zip.Entry
import Hotload.Zip.ExtraField
import Hotload.Zip.Writer
import Hotload.Proofs.LoadedContainers
import Hotload.Proofs.LoadCalls
import Hotload.Proofs.EncodedParts
import Hotload.Proofs.DurableNames
import Hotload.Proofs.InputDumps
import Hotload.Proofs.QuotedTexts
import Hotload.Proofs.WrittenValues
import Hotload.Proofs.WrittenDocuments
import Hotload.Proofs.WrittenConfigs
import Hotload.Proofs.ReaperHistory
import Hotload.Proofs.ReaperRuns
import Hotload.Proofs.WaitBudgets
import Hotload.Proofs.EntryPaths
import Hotload.Proofs.ListedSymbols
import Hotload.Proofs.StagingCalls
