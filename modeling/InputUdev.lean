import InputUdev.Application
import InputUdev.Association
import InputUdev.CInteger
import InputUdev.Capability
import InputUdev.Classifier
import InputUdev.CodeSet
import InputUdev.CommandLine
import InputUdev.Decimal.Binary64
import InputUdev.Decimal.Notation
import InputUdev.Decimal.Shortest
import InputUdev.DeviceClass
import InputUdev.Entries
import InputUdev.EvdevMode
import InputUdev.EventCode
import InputUdev.EventSource
import InputUdev.FileTree
import InputUdev.Glob.Translation
import InputUdev.IoError
import InputUdev.KernelTree
import InputUdev.Main
import InputUdev.Message
import InputUdev.Operation
import InputUdev.Parent
import InputUdev.Path
import InputUdev.Pnp
import InputUdev.Probe
import InputUdev.ProductId
import InputUdev.Proofs.Application.AllOrNothing
import InputUdev.Proofs.Application.Blocks
import InputUdev.Proofs.Application.Discovery
import InputUdev.Proofs.Application.ListedNodes
import InputUdev.Proofs.Application.Scan
import InputUdev.Proofs.CInteger.Clamping
import InputUdev.Proofs.CInteger.LongValue
import InputUdev.Proofs.CInteger.Spelling
import InputUdev.Proofs.CInteger.Words
import InputUdev.Proofs.Classifier.Additivity
import InputUdev.Proofs.Classifier.Deference
import InputUdev.Proofs.Classifier.GivingUp
import InputUdev.Proofs.Classifier.Lineage
import InputUdev.Proofs.Classifier.Outcome
import InputUdev.Proofs.Classifier.Parents
import InputUdev.Proofs.Classifier.Probing
import InputUdev.Proofs.Classifier.Repetition
import InputUdev.Proofs.CodeSet.Construction
import InputUdev.Proofs.CodeSet.Contents
import InputUdev.Proofs.CodeSet.Words
import InputUdev.Proofs.CommandLine.Spelling
import InputUdev.Proofs.DeviceClass.Ladder
import InputUdev.Proofs.EvdevMode.Words
import InputUdev.Proofs.EventSource.Probes
import InputUdev.Proofs.FileTree.Listing
import InputUdev.Proofs.FileTree.SlashFree
import InputUdev.Proofs.Glob.Acceptance
import InputUdev.Proofs.Glob.Compilation
import InputUdev.Proofs.Glob.Dialects
import InputUdev.Proofs.Glob.Extension
import InputUdev.Proofs.Glob.Parts
import InputUdev.Proofs.Glob.PlainText
import InputUdev.Proofs.Glob.SetExpression
import InputUdev.Proofs.Glob.Shell
import InputUdev.Proofs.Glob.Spelling
import InputUdev.Proofs.KernelTree.NodePath
import InputUdev.Proofs.KernelTree.ParentInfo
import InputUdev.Proofs.KernelTree.SpelledIdentity
import InputUdev.Proofs.KernelTree.Synthesis
import InputUdev.Proofs.KernelTree.Unit
import InputUdev.Proofs.Parent.Contents
import InputUdev.Proofs.Path.Components
import InputUdev.Proofs.Path.TrailingSlashes
import InputUdev.Proofs.Pnp.FirstWins
import InputUdev.Proofs.Pnp.Tokens
import InputUdev.Proofs.ProductId.Hexadecimal
import InputUdev.Proofs.ProductId.Reading
import InputUdev.Proofs.Record.Filling
import InputUdev.Proofs.Record.Insertions
import InputUdev.Proofs.Record.Marking
import InputUdev.Proofs.Regex.Matching
import InputUdev.Proofs.RuleTable.Composition
import InputUdev.Proofs.RuleTable.DeviceRoot
import InputUdev.Proofs.RuleTable.FirstMatch
import InputUdev.Proofs.RuleTable.NodeName
import InputUdev.Proofs.RuleTable.Permutation
import InputUdev.Proofs.RuleTable.Standard
import InputUdev.Proofs.Session.History
import InputUdev.Proofs.Session.Reload
import InputUdev.Proofs.Settings.Reading
import InputUdev.Proofs.Text.Lowercase
import InputUdev.Record
import InputUdev.Regex.Matching
import InputUdev.Regex.Syntax
import InputUdev.Rule
import InputUdev.Session
import InputUdev.Settings
import InputUdev.Text.Blank
import InputUdev.Text.Ends
import InputUdev.Text.Hidden
import InputUdev.Text.Numeral
import InputUdev.Text.Quoted
import InputUdev.Toml.Document
import InputUdev.Toml.Key
import InputUdev.Toml.Node
import InputUdev.Toml.Quoting
import InputUdev.Toml.Scalar
import InputUdev.Toml.Table
import InputUdev.Toml.Token
import InputUdev.Toml.Value
import InputUdev.Tunable
