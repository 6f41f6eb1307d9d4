import WastePass.Text.Quoted
import WastePass.Text.Property.Alphanumeric
import WastePass.Text.Property.Breaking
import WastePass.Text.Property.Wide
import WastePass.Tables.Amsterdam
import WastePass.Lookup
import WastePass.Overview
import WastePass.Json.Fault
import WastePass.Json.Render
import WastePass.Tables.Document
import WastePass.Service
import WastePass.Text.MediaType
import WastePass.Environment.File
import WastePass.Config
import WastePass.Log.Filter
import WastePass.Startup
import WastePass.Text.Width
import WastePass.Console.Session
import WastePass.Display.Style
import WastePass.Display.Cell
import WastePass.Display.Pane
import WastePass.Display.Wrapping
import WastePass.Display.Draw
import WastePass.Main
import WastePass.Proofs.Blanks
import WastePass.Proofs.PostalText
import WastePass.Proofs.Consistency
import WastePass.Proofs.Reference
import WastePass.Proofs.Json.Spelling
import WastePass.Proofs.Json.Reading
import WastePass.Proofs.Json.Skipping
import WastePass.Proofs.Json.Lists
import WastePass.Proofs.Json.Records
import WastePass.Proofs.Documents
import WastePass.Proofs.Histories
import WastePass.Proofs.Rows
import WastePass.Proofs.Keys
import WastePass.Proofs.Typing
import WastePass.Proofs.LookupLog
import WastePass.Proofs.Json.Taking
import WastePass.Proofs.Json.Skipped
import WastePass.Proofs.Json.Brackets
import WastePass.Proofs.Json.Fields
import WastePass.Proofs.DocumentShape
import WastePass.Proofs.Requests
import WastePass.Proofs.Rearrangement
import WastePass.Proofs.Extension
import WastePass.Proofs.Events
import WastePass.Proofs.Utf8
import WastePass.Proofs.Sources
import WastePass.Proofs.Disks
import WastePass.Proofs.Environments
import WastePass.Proofs.Starting
import WastePass.Proofs.Screens
import WastePass.Proofs.PostalCodes
import WastePass.Proofs.Json.Unambiguous
import WastePass.Proofs.Passes
import WastePass.Proofs.Settings
import WastePass.Proofs.Effects
import WastePass.Proofs.Selection
import WastePass.Proofs.Recording
import WastePass.Proofs.RangeLabels
import WastePass.Proofs.ListingOrder
import WastePass.Proofs.PlainText
import WastePass.Proofs.WrappedLines
import WastePass.Proofs.Panes
import WastePass.Proofs.SelectedRow
import WastePass.Proofs.NewestOutcome
