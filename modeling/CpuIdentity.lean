import CpuIdentity.Build.FileTree
import CpuIdentity.Build.Script
import CpuIdentity.Main
import CpuIdentity.Metrics.Pool
import CpuIdentity.Proofs.Build.Branch
import CpuIdentity.Proofs.Build.Directives
import CpuIdentity.Proofs.Build.Script
import CpuIdentity.Proofs.Build.Version
import CpuIdentity.Proofs.Build.Watch
import CpuIdentity.Proofs.Catalogue.Name
import CpuIdentity.Proofs.Catalogue.Number
import CpuIdentity.Proofs.Catalogue.Printed
import CpuIdentity.Proofs.Catalogue.Table
import CpuIdentity.Proofs.CommandLine.Grammar
import CpuIdentity.Proofs.CommandLine.Reading
import CpuIdentity.Proofs.CommandLine.Verbose
import CpuIdentity.Proofs.Cpu.Gate
import CpuIdentity.Proofs.Cpu.HostText
import CpuIdentity.Proofs.Cpu.Identification
import CpuIdentity.Proofs.Cpu.Outcome
import CpuIdentity.Proofs.Cpu.VendorText
import CpuIdentity.Proofs.Cpu.VersionWord
import CpuIdentity.Proofs.Error
import CpuIdentity.Proofs.Exporter.Grammar
import CpuIdentity.Proofs.Exporter.Pool
import CpuIdentity.Proofs.Exporter.RoundTrip
import CpuIdentity.Proofs.Exporter.State
import CpuIdentity.Proofs.Exporter.Steps
import CpuIdentity.Proofs.Exposition.Reader
import CpuIdentity.Proofs.Exposition.RoundTrip
import CpuIdentity.Proofs.Net.Server
import CpuIdentity.Proofs.Net.Request
import CpuIdentity.Proofs.Net.Session
import CpuIdentity.Proofs.Program.Failures
import CpuIdentity.Proofs.Program.Faults
import CpuIdentity.Proofs.Program.Labels
import CpuIdentity.Proofs.Program.Log
import CpuIdentity.Proofs.Program.Independence
import CpuIdentity.Proofs.Program.Reliability
import CpuIdentity.Proofs.Program.Runs
import CpuIdentity.Proofs.Program.Views
import CpuIdentity.Proofs.Text.Lenient
import CpuIdentity.Proofs.Text.Numeral
import CpuIdentity.Proofs.Text.Quoted
import CpuIdentity.Proofs.Text.Trim
import CpuIdentity.Proofs.Catalogue.Listing
import CpuIdentity.Proofs.Program.Listing
