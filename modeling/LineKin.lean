import LineKin.Main
import LineKin.Proofs.Analysis.Layout
import LineKin.Proofs.Analysis.Range
import LineKin.Proofs.Analysis.Reads
import LineKin.Proofs.Analysis.Window
import LineKin.Proofs.CommandLine.Agreement
import LineKin.Proofs.CommandLine.Answering
import LineKin.Proofs.CommandLine.Prompting
import LineKin.Proofs.Document.Braces
import LineKin.Proofs.Line.Assignments
import LineKin.Proofs.Line.OpenNames
import LineKin.Proofs.Message.Commute
import LineKin.Proofs.Message.Wire
import LineKin.Proofs.Relation.ClauseOwner
import LineKin.Proofs.Relation.Functions
import LineKin.Proofs.Relation.Members
import LineKin.Proofs.Relation.RequireStatement
import LineKin.Proofs.Relation.StatementText
import LineKin.Proofs.Relation.Stepwise
import LineKin.Proofs.Settings.Saved
import LineKin.Proofs.Tool.Frame
import LineKin.Proofs.Workspace.FromFile
import LineKin.Proofs.Workspace.Highlights
