import TerminalDock.Event.Program
import TerminalDock.Frame
import TerminalDock.Host.ProcessTree
import TerminalDock.Json.Access
import TerminalDock.Main
import TerminalDock.Page.Bench
import TerminalDock.Page.Link
import TerminalDock.Page.Options
import TerminalDock.Pty.Bench
import TerminalDock.Pty.Unix
import TerminalDock.Pty.Windows
import TerminalDock.Text.Hex
import TerminalDock.Transport.Program
import TerminalDock.Window.Bench
import TerminalDock.Proofs.ChunkCodec
import TerminalDock.Proofs.DockRuns
import TerminalDock.Proofs.Subscriptions
import TerminalDock.Proofs.Telling
import TerminalDock.Proofs.OutputOrder
import TerminalDock.Proofs.Readers
import TerminalDock.Proofs.OutputDelivery
import TerminalDock.Proofs.ReaderEnd
import TerminalDock.Proofs.RegistryRuns
import TerminalDock.Proofs.RegistryWiring
import TerminalDock.Proofs.PanelInvariant
import TerminalDock.Proofs.FocusRuns
import TerminalDock.Proofs.SizesInStep
import TerminalDock.Proofs.ResizesMeant
import TerminalDock.Proofs.ClosesOnce
import TerminalDock.Proofs.FailedSpawn
import TerminalDock.Proofs.Renames
import TerminalDock.Proofs.Farewell
import TerminalDock.Proofs.Keystrokes
import TerminalDock.Proofs.Shutdown
import TerminalDock.Proofs.Lifecycle
import TerminalDock.Proofs.JsonCodec
import TerminalDock.Proofs.Utf8Codec
import TerminalDock.Proofs.ConfigFile
import TerminalDock.Proofs.OpenLock
import TerminalDock.Proofs.OpenPanel
import TerminalDock.Proofs.LockTurns
import TerminalDock.Proofs.OpenDeeds
import TerminalDock.Proofs.OneSession
import TerminalDock.Proofs.Drags
import TerminalDock.Proofs.TabClosing
import TerminalDock.Proofs.HideReveal
import TerminalDock.Proofs.WholeWrites
import TerminalDock.Proofs.LastSignals
import TerminalDock.Proofs.DeskAccounts
import TerminalDock.Proofs.ChunkReadings
import TerminalDock.Proofs.LinkColumns
import TerminalDock.Proofs.LinkClicks
import TerminalDock.Proofs.TagStyles
import TerminalDock.Proofs.Redraws
import TerminalDock.Proofs.Registrations
import TerminalDock.Proofs.Emissions
import TerminalDock.Proofs.ProcessFamilies
import TerminalDock.Proofs.MarkedRuns
import TerminalDock.Proofs.CallCourses
import TerminalDock.Proofs.SweepRuns
import TerminalDock.Proofs.FirstSweep
import TerminalDock.Proofs.SettingsFile
import TerminalDock.Proofs.ConfigCommand
