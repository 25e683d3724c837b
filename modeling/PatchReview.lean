import PatchReview.Budget.Memo
import PatchReview.Main
import PatchReview.Proofs.Budget.Cap
import PatchReview.Proofs.Chunk.Context
import PatchReview.Proofs.Chunk.Prefix
import PatchReview.Proofs.Diff.Belonging
import PatchReview.Proofs.Diff.ByBlocks
import PatchReview.Proofs.Diff.FileSection
import PatchReview.Proofs.Diff.Filtering
import PatchReview.Proofs.Diff.Patch
import PatchReview.Proofs.Diff.Positions
import PatchReview.Proofs.Diff.Separators
import PatchReview.Proofs.Glob.Globstar
import PatchReview.Proofs.Glob.Pathname
import PatchReview.Proofs.Policy.Conservation
import PatchReview.Proofs.Policy.Identity
import PatchReview.Proofs.Policy.Redaction
import PatchReview.Proofs.Reply.Shapes
import PatchReview.Proofs.Report.Markdown
import PatchReview.Proofs.Review
import PatchReview.Proofs.Review.PerFile
import PatchReview.Proofs.Reviewer
import PatchReview.Proofs.RuleSet
import PatchReview.Proofs.Settings
import PatchReview.Scope
import PatchReview.Proofs.Scope
import PatchReview.Proofs.Text.Decoding
import PatchReview.Proofs.Files
import PatchReview.Proofs.Command.Review
import PatchReview.Proofs.Budget.Calls
