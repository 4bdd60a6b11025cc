import Standardize.Arithmetic.Binary32
import Standardize.Batch
import Standardize.Config
import Standardize.Proofs.Constant
import Standardize.Proofs.Exact.Affine
import Standardize.Proofs.Exact.GivenSums
import Standardize.Proofs.History
import Standardize.Proofs.Reproducible
import Standardize.Proofs.Store
import Standardize.Proofs.Table.Layouts
import Standardize.Proofs.ZeroVariance
import Standardize.Table.Guarded
import Standardize.Xavier.Kernel
import Standardize.Proofs.Xavier.Sharing
import Standardize.Proofs.ColumnByColumn
import Standardize.Proofs.Floating.Comparison
import Standardize.Proofs.Degenerate
import Standardize.Proofs.Extremes
import Standardize.Proofs.Exact.Reductions
import Standardize.Proofs.Backends
import Standardize.Proofs.Exact.Monoid
import Standardize.Proofs.Floating.Rounding
import Standardize.Proofs.Floating.Signs
import Standardize.Proofs.Floating.Roots
import Standardize.Proofs.Signs
import Standardize.Proofs.Tensor
import Standardize.Proofs.Table.Replacement
import Standardize.Table.Buffer
import Standardize.Proofs.Table.Buffer
import Standardize.Table.Stored
import Standardize.Proofs.Table.Stored
import Standardize.Proofs.Xavier.Fans
import Standardize.Proofs.Collected
import Standardize.Proofs.Extent
import Standardize.Proofs.Floating.Whole
import Standardize.Proofs.Floating.Nearest
import Standardize.Proofs.Floating.Exchange
import Standardize.Proofs.Table.Settled
import Standardize.Slots.Stored
import Standardize.Proofs.Slots
import Standardize.Proofs.Table.Rows
import Standardize.Proofs.Floating.Value
