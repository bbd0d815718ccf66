import RecordLayout.Session
import RecordLayout.Text.Integer
import RecordLayout.Decimal.Read
import RecordLayout.Toml.Scanner
import RecordLayout.Toml.Value
import RecordLayout.Toml.Document
import RecordLayout.Schema.Load
import RecordLayout.Schema.Inspect
import RecordLayout.Cli.Flags
import RecordLayout.Cli.Directory
import RecordLayout.Cli.Command
import RecordLayout.Main
import RecordLayout.MemoryModule
import RecordLayout.Proofs.Placement
import RecordLayout.Proofs.Declare
import RecordLayout.Proofs.Registry
import RecordLayout.Proofs.Names
import RecordLayout.Proofs.MemoryBits
import RecordLayout.Proofs.Access
import RecordLayout.Proofs.Stored
import RecordLayout.Proofs.Setters
import RecordLayout.Proofs.Allocator
import RecordLayout.Proofs.AllOrNothing
import RecordLayout.Proofs.Canonical
import RecordLayout.Proofs.Linking
import RecordLayout.Proofs.SchemaLoad
import RecordLayout.Proofs.IntegerAccess
import RecordLayout.Proofs.EnumLabels
import RecordLayout.Proofs.ProjectorOrder
import RecordLayout.Proofs.PointerAccess
import RecordLayout.Proofs.WitNames
import RecordLayout.Proofs.MaskNames
import RecordLayout.Proofs.ModuleEncoding
