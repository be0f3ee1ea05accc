import ShaderCalls.Config.Workers
import ShaderCalls.Main
import ShaderCalls.Proofs.Graph.Callees
import ShaderCalls.Proofs.Graph.StoreView
import ShaderCalls.Proofs.Graph.BuilderState
import ShaderCalls.Proofs.Graph.BuilderInvariant
import ShaderCalls.Proofs.Graph.ReportedDefects
import ShaderCalls.Proofs.Graph.CompleteGraph
import ShaderCalls.Proofs.Graph.PostOrderRun
import ShaderCalls.Proofs.Discovery.Emission
import ShaderCalls.Proofs.Discovery.Outcome
import ShaderCalls.Proofs.Graph.RecursiveBuild
import ShaderCalls.Proofs.Discovery.CallEdges
import ShaderCalls.Proofs.Index.ModuleBody
import ShaderCalls.Proofs.Index.Owners
import ShaderCalls.Proofs.Index.KeywordPaths
import ShaderCalls.Proofs.Index.InnerImports
import ShaderCalls.Proofs.Index.ImplementedTypes
import ShaderCalls.Proofs.Source.Positions
import ShaderCalls.Proofs.Source.CallSites
import ShaderCalls.Proofs.Source.Bindings
import ShaderCalls.Proofs.Index.FreeFunctions
import ShaderCalls.Proofs.Index.GlobImports
import ShaderCalls.Proofs.Index.BodyCalls
import ShaderCalls.Proofs.Source.OpenBindings
import ShaderCalls.Proofs.Discovery.Locality
import ShaderCalls.Proofs.Index.FirstDeclared
import ShaderCalls.Proofs.Index.FileOrder
import ShaderCalls.Proofs.Index.IndexInvariant
import ShaderCalls.Proofs.Source.Words
import ShaderCalls.Proofs.Source.DeclaredNames
import ShaderCalls.Proofs.Json.RoundTrip
import ShaderCalls.Export.ManifestEntry
import ShaderCalls.Proofs.Export.Manifest
import ShaderCalls.Proofs.Discovery.Records
import ShaderCalls.Proofs.Discovery.EntryPoints
import ShaderCalls.Proofs.Index.FunctionNames
import ShaderCalls.Proofs.Export.ManifestEntry
import ShaderCalls.Dot.Reader
import ShaderCalls.Proofs.Dot.Reader
import ShaderCalls.Proofs.Dot.ClosedText
import ShaderCalls.Proofs.Export.NodeNames
import ShaderCalls.Proofs.Export.Graphviz
import ShaderCalls.Proofs.Graph.StoreHistory
import ShaderCalls.Proofs.Index.NestedFunctions
import ShaderCalls.Proofs.Files.Path
import ShaderCalls.Proofs.Project.ModuleFiles
import ShaderCalls.Proofs.Index.IdentityTexts
import ShaderCalls.Proofs.CommandLine.NamedEntries
import ShaderCalls.Proofs.Graph.RecursivePostOrder
import ShaderCalls.Proofs.Graph.SingleExpansion
import ShaderCalls.Proofs.Index.UseTrees
import ShaderCalls.Proofs.Index.TypeNames
import ShaderCalls.Proofs.Text.Blanks
import ShaderCalls.Proofs.Text.Separators
import ShaderCalls.Proofs.Text.Numerals
import ShaderCalls.Proofs.FunctionId
import ShaderCalls.Proofs.Index.FurtherFiles
import ShaderCalls.Proofs.Discovery.Counts
import ShaderCalls.Proofs.Source.IntegerLiterals
import ShaderCalls.Proofs.Source.AttributeArguments
import ShaderCalls.Proofs.Discovery.LiteralCounts
import ShaderCalls.Proofs.Graph.LoopInvariant
import ShaderCalls.Proofs.Index.RelativePaths
import ShaderCalls.Proofs.Files.Tree
import ShaderCalls.Proofs.Project.Folders
import ShaderCalls.Proofs.Project.Members
