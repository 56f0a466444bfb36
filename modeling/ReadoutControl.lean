import ReadoutControl.Main
import ReadoutControl.Proofs.Application.Document
import ReadoutControl.Proofs.Topology.Violation
import ReadoutControl.Proofs.Command.Refusal
import ReadoutControl.Proofs.MiniDaq.Flow
import ReadoutControl.Proofs.Command.Setting
import ReadoutControl.Proofs.MiniDaq.Links
import ReadoutControl.Proofs.Payload.Keys
import ReadoutControl.Proofs.Application.Numbering
import ReadoutControl.Proofs.FakeReadout.Configuration
import ReadoutControl.Proofs.FakeReadout.Links
import ReadoutControl.Proofs.FakeReadout.Arithmetic
import ReadoutControl.Proofs.Regex.Locality
import ReadoutControl.Proofs.Regex.Scanning
import ReadoutControl.Proofs.Regex.Bracketing
import ReadoutControl.Proofs.Regex.Stepping
import ReadoutControl.Proofs.Regex.Reading
import ReadoutControl.Proofs.Regex.Bounds
import ReadoutControl.Proofs.Regex.Enclosing
import ReadoutControl.Proofs.Regex.Anchoring
import ReadoutControl.Proofs.Regex.Plain
import ReadoutControl.Proofs.Command.Pattern
import ReadoutControl.Proofs.Topology.Building
import ReadoutControl.Proofs.Topology.Shape
import ReadoutControl.Proofs.Balance.Independence
import ReadoutControl.Proofs.Command.Rereading
import ReadoutControl.Proofs.Command.Shape
import ReadoutControl.Proofs.Balance.Repeating
import ReadoutControl.Proofs.Net.Spelling
import ReadoutControl.Proofs.Application.Stopping
import ReadoutControl.Proofs.Plugin.Resolution
import ReadoutControl.Proofs.Json.Untyped
import ReadoutControl.Proofs.Json.Within
import ReadoutControl.Proofs.Payload.Reading
import ReadoutControl.Proofs.Application.Configuring
import ReadoutControl.Proofs.Document.Settling
import ReadoutControl.Proofs.Document.Blocks
import ReadoutControl.Proofs.Balance.Lossless
import ReadoutControl.Proofs.Balance.PinText
import ReadoutControl.Proofs.Topology.Growing
import ReadoutControl.Proofs.Program.Route
import ReadoutControl.Proofs.Command.Coverage
import ReadoutControl.Proofs.MiniDaq.Recording
