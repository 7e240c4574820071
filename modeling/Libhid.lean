import Libhid.Framework.Outcomes
import Libhid.Framework.Generator
import Libhid.Framework.Tables
import Libhid.Framework.Runs
import Libhid.Framework.Ledger
import Libhid.Framework.Stores
import Libhid.Framework.Locality
import Libhid.Framework.Text
import Libhid.Parser.Types
import Libhid.Parser.HidParse
import Libhid.Parser.Turns
import Libhid.Parser.Fetching
import Libhid.Parser.Holding
import Libhid.Parser.Values
import Libhid.Parser.Search
import Libhid.Parser.Repeat
import Libhid.Parser.Offsets
import Libhid.Parser.Items
import Libhid.Parser.Follows
import Libhid.Parser.Simulation
import Libhid.Parser.Delivery
import Libhid.Parser.Reading
import Libhid.Parser.Bounds
import Libhid.Parser.Nesting
import Libhid.Parser.Counting
import Libhid.Parser.Reports
import Libhid.Parser.Finding
import Libhid.Parser.Usages
import Libhid.Parser.Complete
import Libhid.Parser.Encodings
import Libhid.Parser.Behind
import Libhid.Parser.ByteOrder
import Libhid.Parser.Extents
import Libhid.Parser.Inside
import Libhid.Parser.Rewriting
import Libhid.Device.Interface
import Libhid.Device.Parsing
import Libhid.Device.Opening
import Libhid.Device.Works
import Libhid.Device.Steps
import Libhid.Device.Lifecycle
import Libhid.Device.Exclusive
import Libhid.Device.Handles
import Libhid.Device.Lookup
import Libhid.Device.Exchange
import Libhid.Device.Transfers
import Libhid.Device.ItemValue
import Libhid.Device.Refusal
import Libhid.Device.Cleanup
import Libhid.Device.Leaks
import Libhid.Device.Calls
import Libhid.Device.Fields
import Libhid.Device.Decoding
import Libhid.Device.Storing
import Libhid.Device.Shifts
import Libhid.Device.ReportSize
import Libhid.Device.Matching
import Libhid.Device.Claiming
import Libhid.Device.Paths
import Libhid.Device.Formatting
import Libhid.Device.Independence
import Libhid.Device.Operations
import Libhid.Device.Library
import Libhid.Device.Discipline
import Libhid.Device.Safety
import Libhid.Device.RawDump
import Libhid.Device.Tokenizing
import Libhid.Device.Packing
import Libhid.Device.Detaching
import Libhid.Device.Presenting
import Libhid.Device.Contract
import Libhid.Device.Wrapping
