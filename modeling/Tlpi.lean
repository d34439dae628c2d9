import Tlpi.Foundations.Transition
import Tlpi.Foundations.History
import Tlpi.Foundations.Dictionary
import Tlpi.Foundations.BoundedLoop
import Tlpi.Foundations.Segments
import Tlpi.Foundations.Fields
import Tlpi.Foundations.Numerals
import Tlpi.Foundations.Allocation
import Tlpi.Foundations.Counting
import Tlpi.Foundations.LockTable
import Tlpi.Foundations.Exclusion
import Tlpi.Foundations.Slots
import Tlpi.Foundations.CopyLoop
import Tlpi.Foundations.Progression
import Tlpi.Foundations.FileImage
import Tlpi.Foundations.Forest
import Tlpi.CLibrary.Memory
import Tlpi.CLibrary.Strings
import Tlpi.CLibrary.MemoryStrings
import Tlpi.CLibrary.Descriptor
import Tlpi.CLibrary.OpenFiles
import Tlpi.CLibrary.Integers
import Tlpi.CLibrary.Strtol
import Tlpi.CLibrary.NumberSyntax
import Tlpi.CLibrary.Getopt
import Tlpi.CLibrary.Stdio
import Tlpi.CLibrary.Scanf
import Tlpi.CLibrary.Awk
import Tlpi.CLibrary.RecordLock
import Tlpi.CLibrary.Files
import Tlpi.CLibrary.Environ
import Tlpi.CLibrary.Locks
import Tlpi.CLibrary.Fifo
import Tlpi.CLibrary.MessageQueue
import Tlpi.CLibrary.NamedSemaphore
import Tlpi.CLibrary.Children
import Tlpi.CLibrary.WaitStatus
import Tlpi.CLibrary.Signals
import Tlpi.CLibrary.SignalQueue
import Tlpi.CLibrary.Operations
import Tlpi.Lib.ErrorFunctions
import Tlpi.Lib.OutputError
import Tlpi.Lib.ReadLine
import Tlpi.Lib.Rdwrn
import Tlpi.Lib.GetNum
import Tlpi.Lib.GetNumGrammar
import Tlpi.Lib.ProgramEnd
import Tlpi.Lib.PrintWaitStatus
import Tlpi.Lib.SignalFunctions
import Tlpi.Lib.RegionLocking
import Tlpi.Lib.RegionIsLocked
import Tlpi.Lib.CreatePidFile
import Tlpi.Lib.PidFileContent
import Tlpi.Lib.InetSockets
import Tlpi.Lib.TtyFunctions
import Tlpi.Lib.UnixSockets
import Tlpi.Lib.PtyFork
import Tlpi.Lib.PtyForkDescriptors
import Tlpi.Lib.BecomeDaemon
import Tlpi.Lib.ItimerspecFromStr
import Tlpi.Fileio.Copy
import Tlpi.Fileio.SeekIo
import Tlpi.DirectoryAndLink.NftwDirTree
import Tlpi.MemoryAllocate.FreeAndSbrk
import Tlpi.Process.ModifyEnv
import Tlpi.MmapControl.Memlock
import Tlpi.IoBuffering.DirectRead
import Tlpi.SignalBasic.SendToPid
import Tlpi.SignalBasic.SigReceiver
import Tlpi.ProcessExecute.System
import Tlpi.ProcessExecute.SystemSigchld
import Tlpi.ProcessWatch.MultiSigchld
import Tlpi.ProcessWatch.ChildStatus
import Tlpi.ProcessCreate.ForkWhosOnFirst
import Tlpi.ProcessCredentials.HandlingSigtstp
import Tlpi.ThreadSync.ThreadMultijoin
import Tlpi.ThreadSync.ThreadIncrRace
import Tlpi.ThreadCancel.ThreadCleanup
import Tlpi.ThreadSync.ProdCondvar
import Tlpi.ThreadSync.ProdCondvarStuck
import Tlpi.ThreadSync.ThreadIncr
import Tlpi.ThreadSafeSpecific.Strerror
import Tlpi.ThreadSafeSpecific.StrerrorTsd
import Tlpi.ThreadSafeSpecific.StrerrorTls
import Tlpi.ThreadSafeSpecific.StrerrorErrors
import Tlpi.SignalAdvanced.CatchRtsigs
import Tlpi.IpcPipeFifo.FifoSeqnum
import Tlpi.IpcPipeFifo.FifoSeqnumServer
import Tlpi.IpcPipeFifo.FifoSeqnumAccounts
import Tlpi.IpcPipeFifo.FifoSeqnumLedger
import Tlpi.IpcPipeFifo.FifoSeqnumRouting
import Tlpi.IpcPipeFifo.PopenGlob
import Tlpi.IpcPipeFifo.PipeSync
import Tlpi.IpcPipeFifo.PipeLsWc
import Tlpi.FileLock.IFcntlLocking
import Tlpi.FileLock.TFlock
import Tlpi.UserGroup.CheckPassword
import Tlpi.SocketInternet.IsSeqnum
import Tlpi.SocketInternet.IsSeqnumReplies
import Tlpi.SocketInternet.IsSeqnumPassiveOpen
import Tlpi.SocketAdvanced.Socknames
import Tlpi.SocketUnix.UsXfr
import Tlpi.SocketUnix.Ucase
import Tlpi.SocketDesign.IsEchoSv
import Tlpi.SocketDesign.IsEcho
import Tlpi.SocketDesign.IsEchoNofork
import Tlpi.SocketDesign.IdEcho
import Tlpi.PosixMsgqueue.MqNotifySig
import Tlpi.PosixMsgqueue.MqNotifyThread
import Tlpi.PosixMsgqueue.PmsgTransfer
import Tlpi.PosixSemaphore.PsemCommands
import Tlpi.PosixSharedmem.Pshm
import Tlpi.Terminal.TestTtyFunctions
import Tlpi.IoAdvanced.EpollInput
import Tlpi.IoAdvanced.SelfPipe
import Tlpi.IoAdvanced.DescriptorSets
import Tlpi.IoAdvanced.DemoSigio
import Tlpi.Pty.Script
