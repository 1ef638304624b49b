import SearchWire.Exchange.Session
import SearchWire.Json.Reading
import SearchWire.Serial.Exchange
import SearchWire.Proofs.Assembly
import SearchWire.Proofs.NormalForm
import SearchWire.Proofs.SchemaReading
import SearchWire.Proofs.IndexReading
import SearchWire.Proofs.IndexUniqueness
import SearchWire.Proofs.PipelineReading
import SearchWire.Proofs.AggregationUniqueness
import SearchWire.Proofs.Lengths
import SearchWire.Proofs.BlankEnds
import SearchWire.Proofs.RowGrammar
import SearchWire.Proofs.RowReading
import SearchWire.Proofs.Batches
import SearchWire.Proofs.DefaultDialect
import SearchWire.Proofs.FrameUniqueness
import SearchWire.Proofs.FrameReading
import SearchWire.Proofs.Acceptance
import SearchWire.Proofs.Grammar
import SearchWire.Proofs.IndexGrammar
import SearchWire.Proofs.IndexDerivation
import SearchWire.Proofs.Layout
import SearchWire.Proofs.NumberRange
import SearchWire.Proofs.JsonReading
import SearchWire.Proofs.CommandExchange
import SearchWire.Proofs.IndexExchange
import SearchWire.Proofs.PageReading
import SearchWire.Proofs.CompileErrors
import SearchWire.Proofs.Paging
import SearchWire.Proofs.CallOrder
import SearchWire.Proofs.AssemblyFaults
import SearchWire.Proofs.IndexCallOrder
import SearchWire.Proofs.AggregationExchange
import SearchWire.Proofs.DoubleGrid
import SearchWire.Proofs.IntegerReading
import SearchWire.Proofs.References
import SearchWire.Proofs.NumberViews
import SearchWire.Proofs.FieldOrder
import SearchWire.Proofs.ConfigFile
