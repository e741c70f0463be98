import Prerender.Bindings
import Prerender.Expansion
import Prerender.Expansion.Generator
import Prerender.Expansion.Merge
import Prerender.Exports
import Prerender.Failure
import Prerender.Failure.Reason
import Prerender.Files.AppDirectory
import Prerender.Files.Modules
import Prerender.Files.PagesDirectory
import Prerender.Files.Tree
import Prerender.Json
import Prerender.Number
import Prerender.PagePaths
import Prerender.Param
import Prerender.Pathname
import Prerender.Pathname.Unchecked
import Prerender.Policy
import Prerender.Policy.Unchecked
import Prerender.Proofs.Bindings
import Prerender.Proofs.Except
import Prerender.Proofs.Expansion.Acceptance
import Prerender.Proofs.Expansion.Admission
import Prerender.Proofs.Expansion.Answers
import Prerender.Proofs.Expansion.Bare
import Prerender.Proofs.Expansion.Distinctness
import Prerender.Proofs.Expansion.Ending
import Prerender.Proofs.Expansion.Enumeration
import Prerender.Proofs.Expansion.Faults
import Prerender.Proofs.Expansion.Guards
import Prerender.Proofs.Expansion.Lineage
import Prerender.Proofs.Expansion.Merge
import Prerender.Proofs.Expansion.Owners
import Prerender.Proofs.Expansion.Padding
import Prerender.Proofs.Expansion.Pathnames
import Prerender.Proofs.Expansion.Paths
import Prerender.Proofs.Expansion.Reaffirmation
import Prerender.Proofs.Expansion.Relocation
import Prerender.Proofs.Expansion.Representation
import Prerender.Proofs.Expansion.Run
import Prerender.Proofs.Expansion.Shape
import Prerender.Proofs.Expansion.Spelling
import Prerender.Proofs.Expansion.Stages
import Prerender.Proofs.Expansion.StaticItems
import Prerender.Proofs.Expansion.Verdict
import Prerender.Proofs.Expansion.Visibility
import Prerender.Proofs.Files.Directories
import Prerender.Proofs.Files.Discovery
import Prerender.Proofs.Files.History
import Prerender.Proofs.Files.Loading
import Prerender.Proofs.Files.PageTree
import Prerender.Proofs.Files.Pages
import Prerender.Proofs.Files.PagesOnDisk
import Prerender.Proofs.Files.RoutesOnDisk
import Prerender.Proofs.Files.Transparency
import Prerender.Proofs.Files.Tree
import Prerender.Proofs.Files.Walk
import Prerender.Proofs.Number
import Prerender.Proofs.PagePaths.Ending
import Prerender.Proofs.PagePaths.Entries
import Prerender.Proofs.PagePaths.Listed
import Prerender.Proofs.PagePaths.Restated
import Prerender.Proofs.PagePaths.Values
import Prerender.Proofs.Param
import Prerender.Proofs.Pathname.Capture
import Prerender.Proofs.Pathname.Components
import Prerender.Proofs.Pathname.FilledIn
import Prerender.Proofs.Pathname.Filling
import Prerender.Proofs.Pathname.Recognition
import Prerender.Proofs.Pathname.RoundTrip
import Prerender.Proofs.Policy.Declarations
import Prerender.Proofs.Policy.Demands
import Prerender.Proofs.Resolver.Agreement
import Prerender.Proofs.Resolver.AppDirectory
import Prerender.Proofs.Resolver.Contribution
import Prerender.Proofs.Resolver.Escape
import Prerender.Proofs.Resolver.Filing
import Prerender.Proofs.Resolver.Independence
import Prerender.Proofs.Resolver.Noninterference
import Prerender.Proofs.Resolver.Order
import Prerender.Proofs.Resolver.Resolution
import Prerender.Proofs.Route.PrimaryChain
import Prerender.Proofs.Text.Percent
import Prerender.Resolver.Config
import Prerender.Resolver.Manifest
import Prerender.Resolver.Resolution
import Prerender.Route
import Prerender.Route.Chain
import Prerender.Segment
import Prerender.Segment.Config
import Prerender.Segment.Unchecked
import Prerender.Setting
import Prerender.Text.Blank
import Prerender.Text.CodeRanges
import Prerender.Text.Enclosed
import Prerender.Text.Hex
import Prerender.Text.Percent
import Prerender.Text.Printable
import Prerender.Text.Quoted
import Prerender.Text.Utf8
import Prerender.Text.Word
import Prerender.Value
import Prerender.Value.Order
import Prerender.Proofs.Segment.Settings
import Prerender.Proofs.Expansion.Offences
import Prerender.Proofs.Resolver.Placeholders
import Prerender.Proofs.PagePaths.Relisted
import Prerender.Proofs.Value.Equality
import Prerender.Proofs.Resolver.EqualSettings
import Prerender.Proofs.Files.PagesLoadable
import Prerender.Proofs.Expansion.Failing
import Prerender.Proofs.Resolver.Attribution
import Prerender.Proofs.Number.Text
import Prerender.Proofs.Json.Strings
import Prerender.Proofs.Json.Reading
import Prerender.Proofs.Resolver.ManifestText
import Prerender.Proofs.Param.Spelling
import Prerender.Proofs.Param.Acceptance
import Prerender.Proofs.Json.Grammar
import Prerender.Proofs.Json.Standard
import Prerender.Proofs.Policy.Finite
import Prerender.Proofs.Resolver.FiniteNumbers
