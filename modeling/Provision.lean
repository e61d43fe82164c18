import Provision.CommandLine
import Provision.Linux
import Provision.Main
import Provision.Memory
import Provision.Network
import Provision.Proofs.Files
import Provision.Proofs.Runs
import Provision.Proofs.Steps
import Provision.Proofs.Layout
import Provision.Proofs.Downloads
import Provision.Proofs.Mirrors
import Provision.Proofs.EntryPaths
import Provision.Proofs.Unpacking
import Provision.Proofs.Staging
import Provision.Proofs.Moving
import Provision.Proofs.Finalizing
import Provision.Proofs.Phases
import Provision.Proofs.Integrity
import Provision.Proofs.Installing
import Provision.Proofs.Recovery
import Provision.Proofs.CleanUp
import Provision.Proofs.Calls
import Provision.Proofs.Confinement
import Provision.Proofs.Versions
import Provision.Proofs.Frame
import Provision.Proofs.Interleaving
import Provision.Proofs.Stored
import Provision.Proofs.Codes
import Provision.Proofs.Deflating
import Provision.Proofs.GzipMembers
import Provision.Proofs.Racing
import Provision.Proofs.Transfer
import Provision.Proofs.Locating
import Provision.Proofs.Repeating
import Provision.Proofs.Roots
import Provision.Proofs.Redirects
import Provision.Proofs.Sparing
import Provision.Proofs.Carrying
import Provision.Proofs.SideFiles
import Provision.Proofs.PackedFiles
import Provision.Proofs.Tarballs
import Provision.Proofs.ZipNames
import Provision.Proofs.ZipArchives
import Provision.Proofs.Packing
import Provision.Proofs.Ancestors
import Provision.Proofs.Resolving
import Provision.Proofs.RelativeRoots
import Provision.Proofs.Applying
import Provision.Proofs.Extracting
import Provision.Proofs.Prefixes
import Provision.Proofs.Requests
import Provision.Proofs.Trailers
import Provision.Proofs.Writing
import Provision.Proofs.Checksums
import Provision.Proofs.Copies
import Provision.Proofs.Stages
import Provision.Proofs.StageOrder
import Provision.Proofs.Schedules
import Provision.Proofs.Removals
import Provision.Proofs.Naming
import Provision.Proofs.Encoding
import Provision.Proofs.Quoting
import Provision.Proofs.JsonTexts
import Provision.Proofs.JsonScalars
import Provision.Proofs.JsonReading
import Provision.Proofs.Manifests
import Provision.Proofs.EntryPaths
