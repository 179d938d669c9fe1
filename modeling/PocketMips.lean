import PocketMips.Main
import PocketMips.Proofs.Grammar
import PocketMips.Proofs.RoundTrip
import PocketMips.Proofs.Semantics
import PocketMips.Proofs.HaltReasons
import PocketMips.Proofs.ChangeSets
import PocketMips.Proofs.ChangeTracking
import PocketMips.Proofs.FreeRunEnd
import PocketMips.Proofs.Drivers
import PocketMips.Proofs.Renaming
import PocketMips.Proofs.Reassembly
import PocketMips.Proofs.Records
import PocketMips.Proofs.ChangeView
import PocketMips.Proofs.SessionProtocol
import PocketMips.Proofs.SessionSafety
import PocketMips.Proofs.Concatenation
import PocketMips.Proofs.MemorySize
import PocketMips.Proofs.Partition
import PocketMips.Proofs.Restart
import PocketMips.Proofs.ProgramCounter
import PocketMips.Proofs.Forwarding
import PocketMips.Proofs.Standstill
import PocketMips.Proofs.Runs
import PocketMips.Proofs.Diagnosis
import PocketMips.Proofs.RunLimits
import PocketMips.Proofs.NumberValues
import PocketMips.Proofs.Tiling
import PocketMips.Proofs.MemoryBounds
import PocketMips.Proofs.Fetches
import PocketMips.Proofs.UnreadableFiles
import PocketMips.Proofs.Warnings
import PocketMips.Proofs.InsertionOrder
import PocketMips.Proofs.FieldCursor
import PocketMips.Proofs.IdleLines
import PocketMips.Proofs.CommandLines
