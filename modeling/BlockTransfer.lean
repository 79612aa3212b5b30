import BlockTransfer.Conduct.Limited
import BlockTransfer.Main
import BlockTransfer.Proofs.BuiltImage
import BlockTransfer.Proofs.FailedBuild
import BlockTransfer.Proofs.ListText
import BlockTransfer.Proofs.Operations
import BlockTransfer.Proofs.Outcome
import BlockTransfer.Proofs.Rebuild
import BlockTransfer.Proofs.Stream
import BlockTransfer.Proofs.Inputs
import BlockTransfer.Proofs.Reporting
import BlockTransfer.FileTree.Lemmas
import BlockTransfer.Proofs.Agreement
import BlockTransfer.Proofs.FileBuild
import BlockTransfer.Proofs.FirstCommand
import BlockTransfer.Proofs.Extraction
import BlockTransfer.Proofs.Concatenation
import BlockTransfer.Proofs.ExactReport
import BlockTransfer.Proofs.TableText
import BlockTransfer.Proofs.RunReport
import BlockTransfer.Proofs.LineEnds
import BlockTransfer.Proofs.YamlText
import BlockTransfer.Proofs.ArgumentOrder
import BlockTransfer.Proofs.GuardedPasses
import BlockTransfer.Proofs.HeaderLines
import BlockTransfer.Proofs.Extent
