import Mothbus.Library.ReadProgram
import Mothbus.Library.Decoder
import Mothbus.Library.EndOfInput
import Mothbus.Library.Exec
import Mothbus.Library.Logged
import Mothbus.Library.Refinement
import Mothbus.Library.FramedRun
import Mothbus.Library.Overwrite
import Mothbus.Library.Bits
import Mothbus.Library.Crc
import Mothbus.Library.Consumer
import Mothbus.Library.Simulation
import Mothbus.Error
import Mothbus.Pdu.Reader
import Mothbus.Pdu.Writer
import Mothbus.Pdu.FunctionCode
import Mothbus.Pdu.Requests
import Mothbus.Pdu.Responses
import Mothbus.Adu.Buffer
import Mothbus.Adu.Crc
import Mothbus.Adu.Tcp
import Mothbus.Adu.Rtu
import Mothbus.Adu.Master
import Mothbus.Adu.Link
import Mothbus.Adu.Serving
import Mothbus.Adu.Pieces
import Mothbus.Adu.Observed
import Mothbus.Util
import Mothbus.Examples.Handlers
import Mothbus.Examples.Coroutine
import Mothbus.Examples.Connection
import Mothbus.Examples.Transcript
import Mothbus.Examples.System
import Mothbus.Examples.Registers
import Mothbus.Lemmas.Fields
import Mothbus.Lemmas.RequestCodec
import Mothbus.Lemmas.ResponseCodec
import Mothbus.Lemmas.TcpFrame
import Mothbus.Lemmas.TcpClient
import Mothbus.Lemmas.TcpServer
import Mothbus.Lemmas.RtuFrame
import Mothbus.Lemmas.RtuClient
import Mothbus.Lemmas.Crc
import Mothbus.Lemmas.Master
import Mothbus.Lemmas.Calls
import Mothbus.Lemmas.Reads
import Mothbus.Lemmas.Writes
import Mothbus.Lemmas.Coils
import Mothbus.Lemmas.EndOfInput
import Mothbus.Lemmas.TcpViews
import Mothbus.Lemmas.Cursors
import Mothbus.Lemmas.Spans
import Mothbus.Lemmas.Pieces
import Mothbus.Lemmas.Handlers
import Mothbus.Lemmas.Coroutine
import Mothbus.Lemmas.Connection
import Mothbus.Lemmas.RegisterServer
import Mothbus.Lemmas.System
import Mothbus.Lemmas.History
import Mothbus.Lemmas.World
import Mothbus.Lemmas.Backlog
import Mothbus.Lemmas.Refusals
import Mothbus.Theorems.Codec
import Mothbus.Theorems.Exchange
import Mothbus.Theorems.Alignment
import Mothbus.Theorems.TcpClient
import Mothbus.Theorems.Rtu
import Mothbus.Theorems.Transports
import Mothbus.Theorems.MasterReads
import Mothbus.Theorems.MasterWrites
import Mothbus.Theorems.Registers
import Mothbus.Theorems.Sending
import Mothbus.Theorems.Bodies
import Mothbus.Theorems.Truncation
import Mothbus.Theorems.StaleBytes
import Mothbus.Theorems.Cursors
import Mothbus.Theorems.Checksum
import Mothbus.Theorems.Spans
import Mothbus.Theorems.Pieces
import Mothbus.Theorems.Coroutine
import Mothbus.Theorems.Connection
import Mothbus.Theorems.SharedRegisters
import Mothbus.Theorems.Refusals
