import ElfInspect.Console.Call
import ElfInspect.Log.Call
import ElfInspect.Main
import ElfInspect.Proofs.Dump.Consistency
import ElfInspect.Proofs.Dump.Footprint
import ElfInspect.Proofs.Dump.Rejection
import ElfInspect.Proofs.Dump.RoundTrip
import ElfInspect.Proofs.Dump.Truncation
import ElfInspect.Proofs.Dump.Undamaged
import ElfInspect.Proofs.DynamicEntry.RoundTrip
import ElfInspect.Proofs.Alike
import ElfInspect.Proofs.Bytes.Order
import ElfInspect.Proofs.ByteOrder
import ElfInspect.Proofs.NameDamage
import ElfInspect.Proofs.EntrySize
import ElfInspect.Proofs.Json.Grammar
import ElfInspect.Proofs.Json.Reader
import ElfInspect.Proofs.Json.Writing
import ElfInspect.Proofs.Report
import ElfInspect.Proofs.TableFaults
import ElfInspect.Proofs.Log
import ElfInspect.Proofs.Segment.Containment
import ElfInspect.Proofs.Dump.Account
import ElfInspect.Proofs.Files.Volume
import ElfInspect.Proofs.Files.DumpFile
import ElfInspect.Proofs.Display
import ElfInspect.Proofs.Command.Session
import ElfInspect.Proofs.Command.Account
import ElfInspect.Proofs.Command.Run
import ElfInspect.Proofs.Segment.Mapping
import ElfInspect.Proofs.Text.Utf8
import ElfInspect.Proofs.StringTable
import ElfInspect.Proofs.Log.Nesting
import ElfInspect.Proofs.Files.SettingsFile
import ElfInspect.Proofs.Bytes.Bounds
import ElfInspect.Proofs.Bytes.Written
import ElfInspect.Proofs.Codes
import ElfInspect.Proofs.Command.Output
import ElfInspect.Proofs.Display.Rows
import ElfInspect.Proofs.Text.Utf8.Parts
