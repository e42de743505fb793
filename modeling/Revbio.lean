import Revbio.Lib.Transition
import Revbio.Lib.CallTree
import Revbio.Lib.CallTrace
import Revbio.Lib.PolledFifo
import Revbio.Lib.Ownership
import Revbio.Lib.ByteOrder
import Revbio.Lib.Commit
import Revbio.Lib.Mailbox
import Revbio.Lib.Schedule
import Revbio.Events
import Revbio.Linux.Syscalls
import Revbio.Linux.Helpers
import Revbio.Linux.EventQueueImpl
import Revbio.EventQueue.RefinementTheorems
import Revbio.EventQueue.Loop
import Revbio.Linux.Timer
import Revbio.Timer.System
import Revbio.Timer.StartTheorems
import Revbio.Timer.ActiveTheorems
import Revbio.Timer.Clock
import Revbio.Timer.ClockTheorems
import Revbio.Linux.Tcp
import Revbio.Tcp.Inbox
import Revbio.Tcp.ReadTheorems
import Revbio.Tcp.EndTheorems
import Revbio.Tcp.AddressTheorems
import Revbio.Tcp.ErrorTheorems
import Revbio.Stream.System
import Revbio.Stream.EffectTheorems
import Revbio.Stream.Server
import Revbio.Stream.ProgressTheorems
import Revbio.Stream.InterestTheorems
import Revbio.Stream.ProtocolTheorems
import Revbio.Linux.Channel
import Revbio.EventQueue.SourceTheorems
import Revbio.Timer.StopTheorems
import Revbio.EventQueue.OperationTheorems
import Revbio.EventQueue.DryTheorems
import Revbio.Channel.LockTheorems
import Revbio.Channel.System
import Revbio.Channel.SystemTheorems
import Revbio.Channel.InvariantTheorems
import Revbio.Channel.HistoryTheorems
import Revbio.Channel.BlockingTheorems
import Revbio.Channel.SignalTheorems
import Revbio.Channel.CloseTheorems
import Revbio.Channel.Client
import Revbio.Channel.ClientTheorems
import Revbio.Channel.ConversionTheorems
import Revbio.Channel.AnswerTheorems
import Revbio.Channel.Interleaving
import Revbio.Channel.InterleavingTheorems
import Revbio.Channel.MailboxTheorems
import Revbio.Epoll.System
import Revbio.EventQueue.System
import Revbio.Epoll.ChannelTheorems
import Revbio.Epoll.MethodTheorems
import Revbio.Epoll.DanglingTheorems
import Revbio.Sockets.System
import Revbio.Sockets.AccountTheorems
import Revbio.Sockets.DescriptorTheorems
import Revbio.Descriptors.System
import Revbio.Descriptors.LifeTheorems
import Revbio.Epoll.LeakTheorems
import Revbio.EventQueue.GhostTheorems
import Revbio.EventQueue.SurroundingsTheorems
import Revbio.Channel.DeliveryTheorems
import Revbio.Channel.SilenceTheorems
import Revbio.Channel.PromptTheorems
import Revbio.Channel.SyncBench
import Revbio.Channel.SyncBenchTheorems
import Revbio.Accept.System
import Revbio.Accept.AcceptTheorems
import Revbio.Accept.ServerTask
import Revbio.Tcp.Reader
import Revbio.Tcp.ReaderTheorems
import Revbio.Dial.System
import Revbio.Dial.SystemTheorems
import Revbio.Dial.Subtask
import Revbio.Dial.Main
