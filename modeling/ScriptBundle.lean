import ScriptBundle.Assembly
import ScriptBundle.Build
import ScriptBundle.Bundle
import ScriptBundle.CommandLine
import ScriptBundle.Main
import ScriptBundle.ModuleGraph
import ScriptBundle.Resolution
import ScriptBundle.Rewriting
import ScriptBundle.Settings.Sources
import ScriptBundle.Proofs.Assembly.Layout
import ScriptBundle.Proofs.Build.Closed
import ScriptBundle.Proofs.Build.Graphs
import ScriptBundle.Proofs.Build.Identities
import ScriptBundle.Proofs.Build.Levels
import ScriptBundle.Proofs.Build.Styles
import ScriptBundle.Proofs.Build.Terminates
import ScriptBundle.Proofs.Bundle.Contents
import ScriptBundle.Proofs.Bundle.Saving
import ScriptBundle.Proofs.CommandLine.Serving
import ScriptBundle.Proofs.Graph.Cycles
import ScriptBundle.Proofs.Literal.Keys
import ScriptBundle.Proofs.Resolution.History
import ScriptBundle.Proofs.Resolution.Kinds
import ScriptBundle.Proofs.Rewriting.Ambient
import ScriptBundle.Proofs.Rewriting.Constructs
import ScriptBundle.Proofs.Rewriting.Defaults
import ScriptBundle.Proofs.Rewriting.Hygiene
import ScriptBundle.Proofs.Rewriting.Placement
import ScriptBundle.Proofs.Rewriting.Surviving
import ScriptBundle.Proofs.Script.Constructs
