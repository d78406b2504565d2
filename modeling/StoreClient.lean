import StoreClient.Config
import StoreClient.Proofs.Action
import StoreClient.Proofs.Command.Encoding
import StoreClient.Proofs.Command.Splitting
import StoreClient.Proofs.Connection
import StoreClient.Proofs.Connection.Footprint
import StoreClient.Proofs.Connection.Hosted
import StoreClient.Proofs.Connection.PartialWrite
import StoreClient.Proofs.Connection.Pieces
import StoreClient.Proofs.Connection.Steady
import StoreClient.Proofs.Connection.Traffic
import StoreClient.Proofs.Remote
import StoreClient.Proofs.Reply.Agreement
import StoreClient.Proofs.Reply.Cut
import StoreClient.Proofs.Reply.Grammar
import StoreClient.Proofs.Reply.Info
import StoreClient.Proofs.Reply.Reader
import StoreClient.Proofs.Session.Batch
import StoreClient.Proofs.Session.Broken
import StoreClient.Proofs.Session.Confirmation
import StoreClient.Proofs.Session.FailedSubmit
import StoreClient.Proofs.Session.Hosted
import StoreClient.Proofs.Session.Ledger
import StoreClient.Proofs.Session.MultiGet
import StoreClient.Proofs.Session.PartialWrite
import StoreClient.Proofs.Session.Pieces
import StoreClient.Proofs.Session.Pipelining
import StoreClient.Proofs.Session.Programs
import StoreClient.Proofs.Session.Transaction
import StoreClient.Proofs.Session.Turn
import StoreClient.Proofs.Shape.Arrays
import StoreClient.Proofs.Source
import StoreClient.Proofs.Transport.Hosted
import StoreClient.Proofs.Transport.Steady
import StoreClient.Proofs.Value.Dictionary
import StoreClient.Request.Hashes
import StoreClient.Request.Keys
import StoreClient.Request.Lists
import StoreClient.Request.Server
import StoreClient.Request.Sets
import StoreClient.Request.SortedSets
import StoreClient.Request.Strings
import StoreClient.Session.Call
import StoreClient.Transport.Recorder
import StoreClient.Transport.Scripted
import StoreClient.Value.Access
import StoreClient.Proofs.Session.Results
import StoreClient.Proofs.Decimal.Lenient
import StoreClient.Proofs.Request.Arguments
import StoreClient.Proofs.Request.ReadBack
import StoreClient.Proofs.Reply.Line
import StoreClient.Proofs.Request.Sorting
import StoreClient.Proofs.Text.Quoted
import StoreClient.Proofs.Text.Utf8
import StoreClient.Proofs.Value.Display
import StoreClient.Proofs.Text.CodeRanges
import StoreClient.Proofs.Session.Flat
