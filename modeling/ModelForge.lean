import ModelForge.Logging
import ModelForge.Main
import ModelForge.Settings.Save
import ModelForge.Proofs.Generation
import ModelForge.Proofs.Reconciliation
import ModelForge.Pool
import ModelForge.Proofs.Compilation
import ModelForge.Proofs.Separation
import ModelForge.Proofs.Source.Lines
import ModelForge.Proofs.Source.Listing
import ModelForge.Proofs.Names
import ModelForge.Proofs.Recovery
import ModelForge.Proofs.Markup.References
import ModelForge.Proofs.Markup.Values
import ModelForge.Proofs.Markup.Tags
import ModelForge.Proofs.Markup.Elements
import ModelForge.Proofs.Markup.Contents
import ModelForge.Proofs.Markup.Documents
import ModelForge.Proofs.Markup.Escaping
import ModelForge.Proofs.RoundTrip
import ModelForge.Proofs.Delivery
import ModelForge.Proofs.Batch
import ModelForge.Proofs.Storage
import ModelForge.Proofs.FileTree.Following
import ModelForge.Proofs.Registration
import ModelForge.Proofs.CommandLine.Preparing
import ModelForge.Proofs.EmittedNames
import ModelForge.Proofs.CommandLine.Overwriting
import ModelForge.Proofs.CommandLine.Accounting
import ModelForge.Proofs.Redirection
import ModelForge.Proofs.Precedence
import ModelForge.Proofs.Source.Headings
import ModelForge.Proofs.SilentChecks
import ModelForge.Proofs.FileTree.Growing
import ModelForge.Proofs.FileTree.Searching
import ModelForge.Proofs.Redelivery
import ModelForge.Proofs.CommandLine.Rerunning
import ModelForge.Proofs.Source.Tidied
import ModelForge.Proofs.Source.Indents
import ModelForge.Proofs.Styles
import ModelForge.CSharp.Contents
import ModelForge.Proofs.Agreement
import ModelForge.Proofs.Markup.Attributes
import ModelForge.Proofs.Properties
import ModelForge.Proofs.Classification
import ModelForge.Proofs.Nullability
import ModelForge.Proofs.ListedTypes
import ModelForge.Proofs.Duplicates
import ModelForge.Proofs.Json.Documents
import ModelForge.Proofs.Json.Limits
import ModelForge.Proofs.SettingsFiles
import ModelForge.Proofs.Routes
import ModelForge.Proofs.Reloading
import ModelForge.Proofs.Requests
import ModelForge.Proofs.Attempts
import ModelForge.Proofs.FileTree.Reaching
import ModelForge.Proofs.Keywords
import ModelForge.Proofs.Patterns
import ModelForge.Proofs.Endings
import ModelForge.Proofs.Discovery
import ModelForge.Proofs.NormalForms
