import TagStore.Api.Analysis
import TagStore.Api.Codec
import TagStore.Api.Index
import TagStore.Api.Lru
import TagStore.Api.Pure
import TagStore.Api.Query
import TagStore.Api.Reply
import TagStore.Api.Respond
import TagStore.Api.Session
import TagStore.Binary.Bytes
import TagStore.Binary.Crc32
import TagStore.Binary.Serial
import TagStore.Binary.XxHash
import TagStore.Binary64
import TagStore.Cache.Key
import TagStore.Cache.Lru
import TagStore.Codec
import TagStore.Compress.Entropy.Bits
import TagStore.Compress.Entropy.Fse
import TagStore.Compress.Entropy.Huffman
import TagStore.Compress.Lz4
import TagStore.Compress.Snappy
import TagStore.Compress.Zstd
import TagStore.Compress.Zstd.Block
import TagStore.Compress.Zstd.Literals
import TagStore.Compress.Zstd.Sequences
import TagStore.Config
import TagStore.Decimal.Shortest
import TagStore.Document
import TagStore.Error
import TagStore.Index.Key
import TagStore.Index.State
import TagStore.Index.TagIndex
import TagStore.Insert
import TagStore.Json.Number
import TagStore.Json.Read
import TagStore.Json.Record
import TagStore.Json.Value
import TagStore.Json.Write
import TagStore.Pattern.Classes
import TagStore.Pattern.Match
import TagStore.Pattern.Parse
import TagStore.Pattern.Property
import TagStore.Pattern.Size
import TagStore.Pattern.Syntax
import TagStore.Proofs.Index.Consistent
import TagStore.Proofs.Index.Incremental
import TagStore.Proofs.Index.Parallel
import TagStore.Proofs.Run
import TagStore.Proofs.Query.Execute
import TagStore.Proofs.Storage.Memory
import TagStore.Proofs.Storage.MemoryDataset
import TagStore.Proofs.Storage.MemoryReachable
import TagStore.Proofs.Storage.Record
import TagStore.Proofs.Storage.StoredForm
import TagStore.Proofs.Binary.Serial
import TagStore.Proofs.Storage.KeyValue
import TagStore.Proofs.Storage.Mirror
import TagStore.Proofs.Storage.Convergence
import TagStore.Query.Filter
import TagStore.Query.Matcher
import TagStore.Query.Plan
import TagStore.Query.Spec
import TagStore.Storage.Backend
import TagStore.Storage.DatasetFile
import TagStore.Storage.Engine
import TagStore.Storage.Files
import TagStore.Storage.Host
import TagStore.Storage.KeyValue
import TagStore.Storage.KvStore
import TagStore.Storage.Memory
import TagStore.Storage.Record
import TagStore.Storage.Registry
import TagStore.Storage.Snapshot
import TagStore.Text.Age
import TagStore.Text.Alphabetic
import TagStore.Text.Alphanumeric
import TagStore.Text.Blank
import TagStore.Text.CaseFold
import TagStore.Text.Category
import TagStore.Text.GraphemeBreak
import TagStore.Text.Lowercase
import TagStore.Text.Printable
import TagStore.Text.Properties
import TagStore.Text.Quoted
import TagStore.Text.Ranges
import TagStore.Text.Script
import TagStore.Text.SentenceBreak
import TagStore.Text.Tokenizer
import TagStore.Text.WordBreakClass
import TagStore.Text.Words
import TagStore.Time
import TagStore.Proofs.Query.Paging
import TagStore.Proofs.Storage.KeyValueReachable
import TagStore.Proofs.Storage.KeyValueStore
import TagStore.Proofs.Storage.KeyValueIsolation
import TagStore.Proofs.Storage.KeyValueCreate
import TagStore.Proofs.Storage.KeyValueBatch
import TagStore.Proofs.Storage.Paging
import TagStore.Proofs.Cache.Key
import TagStore.Proofs.Cache.QueryKey
import TagStore.Proofs.Cache.Lru
import TagStore.Proofs.Storage.Overlay
import TagStore.Proofs.Storage.Transparency
import TagStore.Proofs.Storage.TransparentMemory
import TagStore.Proofs.Storage.KeyValueAnswers
import TagStore.Proofs.Storage.TransparentKeyValue
import TagStore.Proofs.Query.Matches
import TagStore.Proofs.Query.Filter
import TagStore.Proofs.Storage.TransparentLayer
import TagStore.Proofs.Storage.Random
import TagStore.Proofs.Storage.WriteOrder
import TagStore.Proofs.Storage.Files
import TagStore.Proofs.Storage.DatasetFile
import TagStore.Proofs.Storage.Reopen
import TagStore.Proofs.Storage.KeyValueReopen
import TagStore.Proofs.Cache.Recency
import TagStore.Proofs.Query.Search
import TagStore.Proofs.Text.Words
import TagStore.Proofs.Json.Text
import TagStore.Proofs.Json.RoundTrip
import TagStore.Proofs.Compress.Lz4
import TagStore.Proofs.Compress.Snappy
import TagStore.Proofs.Compress.Zstd
import TagStore.Proofs.Codec.Frame
import TagStore.Proofs.Storage.Snapshot
import TagStore.Proofs.Text.Order
import TagStore.Proofs.Storage.PrefixScan
import TagStore.Proofs.Index.MemberOrder
