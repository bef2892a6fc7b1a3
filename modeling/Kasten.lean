import Kasten.Archive.Basic
import Kasten.Archive.Checksum
import Kasten.Archive.CodePage
import Kasten.Archive.Directory
import Kasten.Archive.Inflate
import Kasten.Box.Basic
import Kasten.Box.Directory
import Kasten.Box.Feed
import Kasten.Box.Memory
import Kasten.Box.Zip
import Kasten.Catalog.Basic
import Kasten.Catalog.Event
import Kasten.Catalog.Service
import Kasten.Config.Basic
import Kasten.Config.Value
import Kasten.Disk.Basic
import Kasten.Disk.Edit
import Kasten.Disk.Listing
import Kasten.Entry.Basic
import Kasten.Entry.FileName
import Kasten.Entry.Metadata
import Kasten.Error
import Kasten.Files.Command
import Kasten.Files.Pool
import Kasten.Files.Routing
import Kasten.Index.Anteroom
import Kasten.Index.Enrich
import Kasten.Index.Indexer
import Kasten.Index.Record
import Kasten.Index.Report
import Kasten.Index.Scan
import Kasten.Index.Search
import Kasten.Index.Store
import Kasten.Index.Tables
import Kasten.Index.Words
import Kasten.Meta.Basic
import Kasten.Meta.Header
import Kasten.Meta.Key
import Kasten.Program
import Kasten.Proofs.Except
import Kasten.Proofs.Map
import Kasten.Proofs.Zid.Slice
import Kasten.Proofs.Zid.Text
import Kasten.Session
import Kasten.Supervision
import Kasten.Text.Blank
import Kasten.Text.CharSet
import Kasten.Text.Class
import Kasten.Text.Decompose
import Kasten.Text.Find
import Kasten.Text.Lower
import Kasten.Text.Quoted
import Kasten.Text.Table.Casing
import Kasten.Text.Table.Category
import Kasten.Text.Table.Decomposition
import Kasten.Text.Table.Display
import Kasten.Text.Table.HostName
import Kasten.Text.Utf8
import Kasten.Url.Basic
import Kasten.Url.Host
import Kasten.Url.HostName
import Kasten.Url.Percent
import Kasten.Url.Punycode
import Kasten.Watch.Notifier
import Kasten.Watch.Poller
import Kasten.Watch.Watcher
import Kasten.Zettel
import Kasten.Zid.Basic
import Kasten.Zid.Calendar
import Kasten.Zid.Set
import Kasten.Zid.Slice
import Kasten.Proofs.Index.View
import Kasten.Proofs.Index.Column
import Kasten.Proofs.Index.Stored
import Kasten.Proofs.Index.Update
import Kasten.Proofs.Index.Forget
import Kasten.Proofs.Index.Consistency
import Kasten.Proofs.Index.Ledger
import Kasten.Proofs.Index.Anteroom
import Kasten.Proofs.Index.Record
import Kasten.Proofs.Index.Delivery
import Kasten.Proofs.Index.Restore
import Kasten.Proofs.Index.Interleaving
import Kasten.Proofs.Index.Load
import Kasten.Proofs.Index.Draining
import Kasten.Proofs.Entry.Arrangement
import Kasten.Proofs.Entry.History
import Kasten.Proofs.Catalog.Mirror
import Kasten.Proofs.Catalog.Refinement
import Kasten.Proofs.Catalog.Scan
import Kasten.Proofs.Text.Utf8
import Kasten.Proofs.Text.Blank
import Kasten.Proofs.Meta.Stored
import Kasten.Proofs.Meta.Header
import Kasten.Proofs.Disk.ReadWrite
import Kasten.Proofs.Watch.Flat
import Kasten.Proofs.Watch.Polling
import Kasten.Proofs.Program
import Kasten.Proofs.Entry.FileName
import Kasten.Proofs.Box.Reached
import Kasten.Proofs.Files.ReadWrite
import Kasten.Proofs.Box.Directory
import Kasten.Proofs.Disk.Place
import Kasten.Proofs.Disk.Listing
import Kasten.Proofs.Entry.Layout
import Kasten.Proofs.Catalog.Rescan
import Kasten.Proofs.Watch.Directory
import Kasten.Proofs.Entry.Beside
import Kasten.Proofs.Box.Settings
import Kasten.Proofs.Box.Rescan
import Kasten.Proofs.Catalog.Changes
import Kasten.Proofs.Catalog.Lifecycle
import Kasten.Proofs.Files.Independence
import Kasten.Proofs.Files.Interleaving
import Kasten.Proofs.Box.Durable
import Kasten.Proofs.Box.Beside
import Kasten.Proofs.Watch.Ascending
import Kasten.Proofs.Box.Agreement
import Kasten.Proofs.Catalog.Files
import Kasten.Proofs.Disk.Edit
import Kasten.Proofs.Watch.Tracking
import Kasten.Proofs.Box.Undo
import Kasten.Proofs.Index.Search
import Kasten.Proofs.Index.Enrich
import Kasten.Proofs.Files.Faults
import Kasten.Proofs.Files.Renamed
import Kasten.Proofs.Box.Rename
import Kasten.Proofs.Zid.Calendar
import Kasten.Proofs.Catalog.Reserve
import Kasten.Proofs.Index.References
import Kasten.Proofs.Box.Absent
import Kasten.Proofs.Index.Copies
import Kasten.Proofs.Index.Desk
import Kasten.Proofs.Index.Turns
import Kasten.Proofs.Index.Rooms
import Kasten.Proofs.Index.Ahead
import Kasten.Proofs.Index.Waiting
import Kasten.Proofs.Index.Readings
import Kasten.Proofs.Index.Retries
import Kasten.Proofs.Files.Routing
import Kasten.Proofs.Meta.Set
import Kasten.Proofs.Meta.Lines
import Kasten.Proofs.Meta.PassedOver
import Kasten.Proofs.Meta.LineEnds
import Kasten.Proofs.Zid.Search
