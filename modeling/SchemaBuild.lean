import SchemaBuild.Text.Character
import SchemaBuild.Path
import SchemaBuild.Schema
import SchemaBuild.Action
import SchemaBuild.Docs
import SchemaBuild.Registry
import SchemaBuild.Target
import SchemaBuild.Ninja
import SchemaBuild.Depfile
import SchemaBuild.Manifest.Decode
import SchemaBuild.Archive.Header
import SchemaBuild.Main
import SchemaBuild.Proofs.Footprints
import SchemaBuild.Proofs.Targets
import SchemaBuild.Proofs.CommandLine
import SchemaBuild.Proofs.Job.Release
import SchemaBuild.Proofs.Job.Failure
import SchemaBuild.Proofs.Job.Abandonment
import SchemaBuild.Proofs.Text.Lossy
import SchemaBuild.Proofs.FileSystem.Growth
import SchemaBuild.Proofs.FileSystem.Keeping
import SchemaBuild.Proofs.FileSystem.Leaves
import SchemaBuild.Proofs.FileSystem.Writing
import SchemaBuild.Proofs.Job.Entries
import SchemaBuild.Proofs.Job.Publication
import SchemaBuild.Proofs.Job.AnyOrder
import SchemaBuild.Proofs.Ninja.UnquotedValues
import SchemaBuild.Proofs.CommandLine.Acceptance
import SchemaBuild.Proofs.Registry.Passes
import SchemaBuild.Proofs.Selection.Permutations
import SchemaBuild.Proofs.Registry.Interleaving
import SchemaBuild.Proofs.BuildFiles
import SchemaBuild.Proofs.Generate
import SchemaBuild.Proofs.Generate.Outcomes
import SchemaBuild.Proofs.Job.Traversal
import SchemaBuild.Proofs.Job.Unfinished
import SchemaBuild.Proofs.Job.Cleanup
import SchemaBuild.Proofs.Declaration
import SchemaBuild.Proofs.Depfile
import SchemaBuild.Proofs.Starlark.Loads
import SchemaBuild.Proofs.CompilerArguments
import SchemaBuild.Proofs.PackageNames
