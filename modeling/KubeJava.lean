import KubeJava.Files.Tree
import KubeJava.Main
import KubeJava.Document.Printer
import KubeJava.Proofs.References
import KubeJava.Proofs.Placement
import KubeJava.Proofs.Success
import KubeJava.Proofs.Embedding
import KubeJava.Proofs.Collisions
import KubeJava.Proofs.Renaming
import KubeJava.Proofs.Relocation
import KubeJava.Proofs.Payloads
import KubeJava.Proofs.Rendering
import KubeJava.Proofs.VersionBlocks
import KubeJava.Proofs.Keeping
import KubeJava.Proofs.Runs
import KubeJava.Proofs.WriteFailures
import KubeJava.Proofs.Fields
import KubeJava.Proofs.SchemaPaths
import KubeJava.Proofs.Accessors
import KubeJava.Proofs.Utf8
import KubeJava.Proofs.LoadFailures
import KubeJava.Proofs.DeclaredNames
import KubeJava.Proofs.LiteralReading
import KubeJava.Proofs.SiblingNames
import KubeJava.Proofs.Appending
import KubeJava.Proofs.Reordering
import KubeJava.Proofs.Comments
import KubeJava.Proofs.PackageClashes
import KubeJava.Proofs.NodeReferences
import KubeJava.Proofs.LoadedDefinitions
import KubeJava.Proofs.ReservedNames
