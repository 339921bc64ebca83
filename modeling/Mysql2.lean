import Mysql2.Stream.Deframe
import Mysql2.Stream.Grammar
import Mysql2.Transition.Mealy
import Mysql2.Transition.Throughout
import Mysql2.Transition.Driven
import Mysql2.Transition.Since
import Mysql2.Packets.Packet
import Mysql2.Packets.Reader
import Mysql2.Packets.ServerPackets
import Mysql2.Packets.Types
import Mysql2.Packets.Encodings
import Mysql2.Packets.Parameters
import Mysql2.Packets.Requests
import Mysql2.Parser.PacketParser
import Mysql2.Parser.Framing
import Mysql2.Parser.Refinement
import Mysql2.Connection.WritePacket
import Mysql2.Connection.Frames
import Mysql2.Connection.Connection
import Mysql2.Connection.Steps
import Mysql2.Connection.FailsClosed
import Mysql2.Connection.Parking
import Mysql2.Commands.Command
import Mysql2.Commands.ResultSet
import Mysql2.Commands.Prepare
import Mysql2.Commands.Simple
import Mysql2.Commands.Family
import Mysql2.Commands.Frame
import Mysql2.Commands.Defaults
import Mysql2.Commands.Callbacks
import Mysql2.Commands.Ending
import Mysql2.Commands.Response
import Mysql2.Commands.Results
import Mysql2.Commands.Assembly
import Mysql2.Connection.Exchange
import Mysql2.Commands.Answers
import Mysql2.Commands.Awaiting
import Mysql2.Commands.Dialogue
import Mysql2.Pool.Pool
import Mysql2.Pool.Placement
import Mysql2.Pool.Capacity
import Mysql2.Pool.Ownership
import Mysql2.Pool.Usable
import Mysql2.Pool.Order
import Mysql2.Stream.SerialQueue
import Mysql2.Connection.Compression
import Mysql2.Connection.Inflating
import Mysql2.Connection.CompressedFrames
import Mysql2.Connection.Deflating
import Mysql2.Connection.SequenceIds
import Mysql2.Auth.Auth41
import Mysql2.Auth.AuthPlugins
import Mysql2.Auth.HandshakePackets
import Mysql2.Auth.ClientHandshake
import Mysql2.Auth.Defaults
import Mysql2.Auth.Secrecy
import Mysql2.Auth.Factors
import Mysql2.Auth.Upgrade
import Mysql2.Script.Number
import Mysql2.Script.Text
import Mysql2.Script.Decimal
import Mysql2.Script.Throwing
import Mysql2.Script.Objects
import Mysql2.Packets.Cursor
import Mysql2.Packets.Values
import Mysql2.Packets.Integers
import Mysql2.Packets.LengthCoded
import Mysql2.Packets.Reads
import Mysql2.Packets.BinaryReads
import Mysql2.Parsers.TextColumns
import Mysql2.Parsers.BinaryRows
import Mysql2.Packets.Dates
import Mysql2.Parsers.Columns
import Mysql2.Parsers.Integers
import Mysql2.Parsers.Rows
import Mysql2.Parsers.Twins
import Mysql2.Parsers.TimeZone
import Mysql2.Packets.RequestGrammar
import Mysql2.Packets.ParameterLayout
import Mysql2.Packets.RequestLayout
import Mysql2.Packets.Execute
import Mysql2.Packets.Execution
import Mysql2.Auth.ClientReply
import Mysql2.Parsers.ParserCache
import Mysql2.Store.Memo
import Mysql2.Store.Budget
import Mysql2.Parsers.Caching
import Mysql2.Pool.Sweeping
import Mysql2.Pool.Closing
import Mysql2.Pool.PoolCluster
import Mysql2.Pool.Registration
import Mysql2.Pool.Lookup
import Mysql2.Pool.Completions
import Mysql2.Pool.Retrying
import Mysql2.Pool.ClusterEnd
import Mysql2.Connection.TlsSessionCache
import Mysql2.Packets.OkPackets
import Mysql2.Parsers.DateStrings
import Mysql2.Parsers.ServerDates
import Mysql2.Parsers.DateParsing
import Mysql2.Parsers.DateReaders
import Mysql2.Parsers.DateValues
import Mysql2.Parsers.DateRoundTrip
import Mysql2.Packets.Decimals
import Mysql2.Parsers.Reuse
import Mysql2.Commands.LocalInfile
import Mysql2.Connection.Failing
import Mysql2.Connection.Notifying
import Mysql2.Commands.FatalErrors
import Mysql2.Queue.ListModel
import Mysql2.Queue.RingQueue
import Mysql2.Queue.Refinement
import Mysql2.Queue.Operations
import Mysql2.Packets.Geometry
import Mysql2.Packets.GeometryBounds
import Mysql2.Packets.GeometryRoundTrip
import Mysql2.Packets.TypedValues
import Mysql2.Parsers.TimeStrings
import Mysql2.Packets.TimeRounding
import Mysql2.Packets.TypedIntegers
import Mysql2.Packets.IntegerHints
import Mysql2.Packets.ColumnMetadata
import Mysql2.Store.Table
import Mysql2.Parsers.LocalDate
import Mysql2.Calendar.Gregorian
import Mysql2.Parsers.CivilDays
import Mysql2.Packets.StringParser
import Mysql2.Packets.Writer
import Mysql2.Parsers.ServerRows
import Mysql2.Packets.ColumnWriter
import Mysql2.Packets.StatusWriters
import Mysql2.Auth.Hello
import Mysql2.Auth.HelloRoundTrip
import Mysql2.Packets.BinlogQueryStatusVars
import Mysql2.Packets.StatusVariables
import Mysql2.Commands.BinlogDump
import Mysql2.Connection.Transport
import Mysql2.Connection.Sending
import Mysql2.Connection.Duplex
import Mysql2.Script.Triples
import Mysql2.Script.Heaps
import Mysql2.Script.Indices
import Mysql2.Parsers.RowObjects
import Mysql2.Parsers.RowContents
import Mysql2.Parsers.RowBuilding
import Mysql2.Parsers.ColumnNames
import Mysql2.Parsers.NamedRows
import Mysql2.Parsers.RowTwins
import Mysql2.Parser.Windows
import Mysql2.Connection.ServerResults
import Mysql2.Commands.TextResults
