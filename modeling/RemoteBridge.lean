import RemoteBridge.Framework.Bytes
import RemoteBridge.Framework.Flash
import RemoteBridge.Framework.Ring
import RemoteBridge.Framework.Memory
import RemoteBridge.Framework.Table
import RemoteBridge.Framework.Delimited
import RemoteBridge.Framework.Scanner
import RemoteBridge.Framework.ShiftRegister
import RemoteBridge.Framework.Remainder
import RemoteBridge.Framework.IndexRing
import RemoteBridge.Protocol.Crc
import RemoteBridge.Protocol.Cobs
import RemoteBridge.Protocol.Frame
import RemoteBridge.Protocol.FrameMemory
import RemoteBridge.Protocol.Receiver
import RemoteBridge.Protocol.Tlv
import RemoteBridge.Board.Store
import RemoteBridge.Board.Power
import RemoteBridge.Board.Cache
import RemoteBridge.Usb.Cdc
import RemoteBridge.Product.Server
import RemoteBridge.Product.Output
import RemoteBridge.Product.Voice
import RemoteBridge.Product.Inputs
import RemoteBridge.Product.Requests
import RemoteBridge.Product.Runs
import RemoteBridge.Product.Moves
import RemoteBridge.Product.Pump
import RemoteBridge.Product.Stream
import RemoteBridge.Product.Steps
import RemoteBridge.Product.Operations
import RemoteBridge.Product.Turns
import RemoteBridge.Product.Frames
import RemoteBridge.Product.Host
import RemoteBridge.Client.Wire
import RemoteBridge.Client.FrameParser
import RemoteBridge.Properties.Framing
import RemoteBridge.Properties.ClientFraming
import RemoteBridge.Properties.FrameCodec
import RemoteBridge.Properties.SessionIdle
import RemoteBridge.Properties.EventGate
import RemoteBridge.Properties.KeyConvergence
import RemoteBridge.Properties.CausalOrder
import RemoteBridge.Properties.ControlQueue
import RemoteBridge.Properties.OperationLifecycle
import RemoteBridge.Properties.OperationResults
import RemoteBridge.Properties.WireStream
import RemoteBridge.Properties.BondStore
import RemoteBridge.Properties.FactoryRecovery
import RemoteBridge.Product.Serves
import RemoteBridge.Product.Bond
import RemoteBridge.Radio.Central
import RemoteBridge.Radio.Events
import RemoteBridge.Radio.Journal
import RemoteBridge.Radio.Drives
import RemoteBridge.Radio.Reactions
import RemoteBridge.Radio.Steps
import RemoteBridge.Radio.Polls
import RemoteBridge.Radio.System
import RemoteBridge.Properties.BondJournal
import RemoteBridge.Properties.RadioOwnership
import RemoteBridge.Properties.PairTransaction
import RemoteBridge.Properties.PeerAgreement
import RemoteBridge.Properties.TlvRoundTrip
import RemoteBridge.Properties.KeyReducers
import RemoteBridge.Properties.KeyDelivery
import RemoteBridge.Framework.HidReport
import RemoteBridge.Adapters.ReportMap
import RemoteBridge.Properties.HidDecoding
import RemoteBridge.Adapters.Atvv
import RemoteBridge.Properties.AtvvDiscipline
import RemoteBridge.Adapters.KeyState
import RemoteBridge.Properties.KeyReports
import RemoteBridge.Properties.VoiceCallbacks
import RemoteBridge.Adapters.Unicom
import RemoteBridge.Adapters.UnicomServer
import RemoteBridge.Properties.UnicomCapture
import RemoteBridge.Properties.UnicomDelivery
import RemoteBridge.Properties.UnicomFence
import RemoteBridge.Properties.Statistics
import RemoteBridge.Properties.PairingOrder
import RemoteBridge.Properties.FrameIsolation
import RemoteBridge.Product.ControlArena
import RemoteBridge.Properties.ArenaIntegrity
import RemoteBridge.Product.MediaPool
import RemoteBridge.Properties.MediaCompaction
import RemoteBridge.Client.Listings
import RemoteBridge.Properties.KeyCatalog
import RemoteBridge.Properties.FaultRuns
import RemoteBridge.Properties.ImaAgreement
import RemoteBridge.Properties.UsbTransport
import RemoteBridge.Properties.CacheStore
import RemoteBridge.Radio.Advert
import RemoteBridge.Properties.Candidates
import RemoteBridge.Adapters.Discovery
import RemoteBridge.Properties.DiscoveryProgress
import RemoteBridge.Adapters.WchGatt
import RemoteBridge.Properties.ReportMapRead
import RemoteBridge.Framework.History
import RemoteBridge.Properties.BondLedger
import RemoteBridge.Properties.BondHistory
import RemoteBridge.Adapters.AttributeCache
import RemoteBridge.Properties.CacheRecord
import RemoteBridge.Properties.DiscoveryFacts
import RemoteBridge.Properties.DiscoverySound
import RemoteBridge.Properties.CacheRoundTrip
import RemoteBridge.Client.StreamDecoders
import RemoteBridge.Properties.DecoderReference
import RemoteBridge.Properties.StreamDecoding
import RemoteBridge.Properties.UnitDecoding
import RemoteBridge.Product.Wire
import RemoteBridge.Properties.FrameNumbers
import RemoteBridge.Properties.FrameDelivery
import RemoteBridge.Properties.QueueBounds
import RemoteBridge.Properties.OutputDrain
import RemoteBridge.Properties.RequestReplies
import RemoteBridge.Client.KeyState
import RemoteBridge.Properties.ControlFrames
import RemoteBridge.Properties.DeviceState
import RemoteBridge.Properties.HostKeys
