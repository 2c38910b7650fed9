import SkyeyeStarlet.TlbCore
import SkyeyeStarlet.Library.CoverCache
import SkyeyeStarlet.Library.WordBits
import SkyeyeStarlet.Tlb
import SkyeyeStarlet.MailboxCore
import SkyeyeStarlet.Mailbox
import SkyeyeStarlet.ArmCore
import SkyeyeStarlet.Banks
import SkyeyeStarlet.Exceptions
import SkyeyeStarlet.BlockCore
import SkyeyeStarlet.Blocks
import SkyeyeStarlet.UserBank
import SkyeyeStarlet.BlockAbort
import SkyeyeStarlet.BlockAbortExact
import SkyeyeStarlet.TransferCore
import SkyeyeStarlet.TransferAbort
import SkyeyeStarlet.TransferAbortExact
import SkyeyeStarlet.DevicesCore
import SkyeyeStarlet.InterruptLine
import SkyeyeStarlet.ExecCore
import SkyeyeStarlet.ThumbCore
import SkyeyeStarlet.EmulateCore
import SkyeyeStarlet.Outcomes
import SkyeyeStarlet.Flow
import SkyeyeStarlet.Pipeline
import SkyeyeStarlet.TrapReads
import SkyeyeStarlet.Kept
import SkyeyeStarlet.Privilege
import SkyeyeStarlet.MmuCore
import SkyeyeStarlet.MemoryBytes
import SkyeyeStarlet.DataPath
import SkyeyeStarlet.InstrCache
import SkyeyeStarlet.Coprocessor15
import SkyeyeStarlet.Ecc
import SkyeyeStarlet.Seeprom
import SkyeyeStarlet.ClientMessages
import SkyeyeStarlet.ClientCore
import SkyeyeStarlet.ClientReads
import SkyeyeStarlet.MmioBounds
import SkyeyeStarlet.Library.RangeUpdate
import SkyeyeStarlet.Nand
import SkyeyeStarlet.NandPages
import SkyeyeStarlet.Prefetch
import SkyeyeStarlet.Library.Unwinding
import SkyeyeStarlet.SeepromSafety
import SkyeyeStarlet.GpioOwners
import SkyeyeStarlet.TlbForget
import SkyeyeStarlet.FetchPath
import SkyeyeStarlet.UserForms
import SkyeyeStarlet.MmuLaws
import SkyeyeStarlet.ThumbFetch
import SkyeyeStarlet.Library.Chaining
import SkyeyeStarlet.AesChaining
import SkyeyeStarlet.ShaCore
import SkyeyeStarlet.ShaFold
import SkyeyeStarlet.Library.Streams
import SkyeyeStarlet.Framing
import SkyeyeStarlet.FaultReports
import SkyeyeStarlet.FaultRegisters
import SkyeyeStarlet.Library.BlockList
import SkyeyeStarlet.HeapCore
import SkyeyeStarlet.Heap
import SkyeyeStarlet.HeapLive
import SkyeyeStarlet.NandErase
import SkyeyeStarlet.NandAccount
import SkyeyeStarlet.NandBounds
import SkyeyeStarlet.BankLookup
import SkyeyeStarlet.RamCore
import SkyeyeStarlet.RamCopies
import SkyeyeStarlet.SramCore
import SkyeyeStarlet.Sram
import SkyeyeStarlet.RegistersCore
import SkyeyeStarlet.Windows
import SkyeyeStarlet.LoadsCore
import SkyeyeStarlet.NarrowLoads
import SkyeyeStarlet.Library.BigEndian
import SkyeyeStarlet.HeapServes
import SkyeyeStarlet.RequestsCore
import SkyeyeStarlet.RequestBuffers
import SkyeyeStarlet.Requests
import SkyeyeStarlet.Library.ThumbIsa
import SkyeyeStarlet.ThumbFormats
import SkyeyeStarlet.ThumbData
import SkyeyeStarlet.ThumbBranches
import SkyeyeStarlet.ThumbTransfers
import SkyeyeStarlet.ThumbBlocks
import SkyeyeStarlet.ThumbMeaning
import SkyeyeStarlet.Library.ArmIsa
import SkyeyeStarlet.ArmFormats
import SkyeyeStarlet.ArmData
import SkyeyeStarlet.ArmBranches
import SkyeyeStarlet.ArmTransfers
import SkyeyeStarlet.ArmBlocks
import SkyeyeStarlet.ArmMeaning
import SkyeyeStarlet.ArithmeticFlags
import SkyeyeStarlet.Library.DoubleWord
import SkyeyeStarlet.LongMultiply
import SkyeyeStarlet.ArmArithmetic
import SkyeyeStarlet.Library.BarrelShifter
import SkyeyeStarlet.ShifterCore
import SkyeyeStarlet.Shifter
import SkyeyeStarlet.Library.RegisterFile
import SkyeyeStarlet.MmuRegisters
import SkyeyeStarlet.DriveRegisters
import SkyeyeStarlet.SdhcCommands
import SkyeyeStarlet.BlockModes
import SkyeyeStarlet.SingleModes
import SkyeyeStarlet.StoresCore
import SkyeyeStarlet.WordAccesses
import SkyeyeStarlet.StateCore
import SkyeyeStarlet.StateSnapshot
import SkyeyeStarlet.AccessCore
import SkyeyeStarlet.ListedRegisters
import SkyeyeStarlet.LongBranch
import SkyeyeStarlet.TrapCore
import SkyeyeStarlet.AttemptCore
import SkyeyeStarlet.StickyFlag
import SkyeyeStarlet.AbortTaken
import SkyeyeStarlet.AbortFlag
import SkyeyeStarlet.Library.Interleaving
import SkyeyeStarlet.Library.Placement
import SkyeyeStarlet.LoopLive
import SkyeyeStarlet.TameWords
import SkyeyeStarlet.TameThumb
import SkyeyeStarlet.Programs
