import LayerCode.Batch.Files
import LayerCode.Batch.Run
import LayerCode.Cache
import LayerCode.Cbor.Item
import LayerCode.Cbor.Read
import LayerCode.Cbor.Scan
import LayerCode.Cbor.Write
import LayerCode.Command.Options
import LayerCode.Command.Run
import LayerCode.Command.Value
import LayerCode.Compile
import LayerCode.Digest
import LayerCode.Graph.Basic
import LayerCode.Graph.Node
import LayerCode.Journal
import LayerCode.Layer.Attributes
import LayerCode.Layer.Options
import LayerCode.Layer.Variant
import LayerCode.Main
import LayerCode.Number.Format
import LayerCode.Pass.Basic
import LayerCode.Pass.Resource
import LayerCode.Publish.Breaker
import LayerCode.Publish.Manifest
import LayerCode.Publish.Publisher
import LayerCode.Result
import LayerCode.Service.Query
import LayerCode.Service.Server
import LayerCode.Snapshot.Payload
import LayerCode.Snapshot.Read
import LayerCode.Snapshot.Write
import LayerCode.Target
import LayerCode.Template.Basic
import LayerCode.Template.Builtin
import LayerCode.Template.Registry
import LayerCode.Template.Render
import LayerCode.Tensor.Basic
import LayerCode.Tensor.Reorder
import LayerCode.Text.CaseClass
import LayerCode.Text.CaseMap
import LayerCode.Text.EditDistance
import LayerCode.Text.Fold
import LayerCode.Text.Listing
import LayerCode.Text.Lower
import LayerCode.Text.Printable
import LayerCode.Text.Quoted
import LayerCode.Text.Title
import LayerCode.Text.Utf8
import LayerCode.Text.WordClass
import LayerCode.Proofs.Cbor.Scan
import LayerCode.Proofs.Cbor.Read
import LayerCode.Proofs.Tensor.Reorder
import LayerCode.Proofs.Text.Listing
import LayerCode.Proofs.Graph.WellFormed
import LayerCode.Proofs.Graph.Edited
import LayerCode.Proofs.Compile.Strategy
import LayerCode.Proofs.Snapshot.Attributes
import LayerCode.Proofs.Snapshot.Document
import LayerCode.Proofs.Snapshot.Persistence
import LayerCode.Proofs.Snapshot.NormalForm
import LayerCode.Proofs.Publish.Breaker
import LayerCode.Proofs.Publish.Probe
import LayerCode.Proofs.Template.Registered
import LayerCode.Proofs.Compile.Outcomes
import LayerCode.Proofs.Pass.Alike
import LayerCode.Proofs.Compile.Reloaded
import LayerCode.Proofs.Service.Cached
import LayerCode.Proofs.Cbor.Bounds
import LayerCode.Proofs.Pass.Settled
import LayerCode.Proofs.Compile.NodeByNode
import LayerCode.Proofs.Service.Published
import LayerCode.Proofs.Batch.AllOrNothing
import LayerCode.Proofs.Number.Format
import LayerCode.Proofs.Tensor.Quiet
import LayerCode.Proofs.Tensor.Permutation
import LayerCode.Proofs.Tensor.Transposition
import LayerCode.Proofs.Pass.Atomic
import LayerCode.Proofs.Tensor.Count
import LayerCode.Proofs.Text.Decimal
import LayerCode.Proofs.Template.Readable
import LayerCode.Proofs.Compile.Lossless
import LayerCode.Proofs.Compile.ChannelOrder
import LayerCode.Proofs.Template.Symbols
import LayerCode.Proofs.Compile.Wiring
import LayerCode.Proofs.Cbor.Steady
import LayerCode.Proofs.Snapshot.Extent
import LayerCode.Proofs.Number.Half
import LayerCode.Proofs.Snapshot.HalfPrecision
import LayerCode.Proofs.Cbor.Alongside
import LayerCode.Proofs.Snapshot.WeightOrder
import LayerCode.Proofs.Graph.Accepted
import LayerCode.Proofs.Layer.Suggestion
import LayerCode.Proofs.Publish.InSequence
import LayerCode.Proofs.Pass.FixedPoint
import LayerCode.Proofs.Compile.Counted
import LayerCode.Proofs.Publish.Manifest
import LayerCode.Proofs.Service.Accounted
