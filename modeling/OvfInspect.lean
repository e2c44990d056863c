import OvfInspect.Descriptor.Form
import OvfInspect.Log.Template
import OvfInspect.Main
import OvfInspect.Storage.Table
import OvfInspect.Log.Fields
import OvfInspect.Storage.Report
import OvfInspect.Proofs.DiskJoin
import OvfInspect.Proofs.Reading
import OvfInspect.Proofs.Numerals
import OvfInspect.Proofs.Acceptance
import OvfInspect.Proofs.Writing
import OvfInspect.Proofs.Following
import OvfInspect.Proofs.Loading
import OvfInspect.Proofs.Lookup
import OvfInspect.Proofs.Decoding
import OvfInspect.Proofs.DeclaredEncodings
import OvfInspect.Proofs.LocatedDisks
import OvfInspect.Proofs.AbsolutePaths
import OvfInspect.Proofs.NamedDescriptor
import OvfInspect.Proofs.Links
import OvfInspect.Proofs.ArchiveReading
import OvfInspect.Proofs.HeldFiles
import OvfInspect.Proofs.SameBackends
import OvfInspect.Proofs.Quiet
import OvfInspect.Proofs.StorageFaults
import OvfInspect.Proofs.DisksListing
import OvfInspect.Proofs.LineReading
import OvfInspect.Proofs.DisksRun
import OvfInspect.Proofs.Parts
import OvfInspect.Proofs.Namespaces
import OvfInspect.Proofs.Edits
import OvfInspect.Proofs.UnitTexts
import OvfInspect.Proofs.ResolutionFaults
import OvfInspect.Proofs.LoadingCalls
import OvfInspect.Proofs.Verbosity
import OvfInspect.Proofs.History
import OvfInspect.Proofs.IndependentRuns
import OvfInspect.Proofs.Summaries
import OvfInspect.Proofs.Descriptions
import OvfInspect.Proofs.IsolatedPackages
import OvfInspect.Proofs.SameDisks
import OvfInspect.Proofs.DocumentedFaults
import OvfInspect.Proofs.SkippedValidation
import OvfInspect.Proofs.SizeBounds
import OvfInspect.Proofs.ShowableSummaries
import OvfInspect.Proofs.Conversion
import OvfInspect.Proofs.UnitGrammar
import OvfInspect.Proofs.Confinement
import OvfInspect.Proofs.MemberLookup
import OvfInspect.Proofs.WebHosts
import OvfInspect.Proofs.Confirmation
import OvfInspect.Proofs.DetailLevels
import OvfInspect.Proofs.DecidingItems
import OvfInspect.Proofs.PaddedNumerals
import OvfInspect.Proofs.LineEnds
import OvfInspect.Proofs.FilledLines
import OvfInspect.Proofs.QuestionWidth
import OvfInspect.Proofs.RefusedSettings
