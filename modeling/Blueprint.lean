import Blueprint.Main
import Blueprint.Proofs.Advances
import Blueprint.Proofs.Agreement
import Blueprint.Proofs.BlockNames
import Blueprint.Proofs.Checking
import Blueprint.Proofs.Circular
import Blueprint.Proofs.ClientTypes
import Blueprint.Proofs.Composition
import Blueprint.Proofs.DiagnosticTokens
import Blueprint.Proofs.FaithfulData
import Blueprint.Proofs.Generating
import Blueprint.Proofs.HeaderRows
import Blueprint.Proofs.Heads
import Blueprint.Proofs.InitialValues
import Blueprint.Proofs.LiteralLines
import Blueprint.Proofs.MissingBrace
import Blueprint.Proofs.NamedBlocks
import Blueprint.Proofs.Nesting
import Blueprint.Proofs.Outputs
import Blueprint.Proofs.Oversized
import Blueprint.Proofs.OwnBlocks
import Blueprint.Proofs.PageIds
import Blueprint.Proofs.PathArguments
import Blueprint.Proofs.PathBindings
import Blueprint.Proofs.PathHoles
import Blueprint.Proofs.Readers
import Blueprint.Proofs.Reordering
import Blueprint.Proofs.RepeatedNames
import Blueprint.Proofs.ReportOrder
import Blueprint.Proofs.Respacing
import Blueprint.Proofs.RoundTrip
import Blueprint.Proofs.Routes
import Blueprint.Proofs.SettingsFile
import Blueprint.Proofs.Signatures
import Blueprint.Proofs.SourceKept
import Blueprint.Proofs.StrayTokens
import Blueprint.Proofs.Tables
import Blueprint.Proofs.TokenPlaces
import Blueprint.Proofs.TokenWriting
import Blueprint.Proofs.Validity
import Blueprint.Token.Stream
import Blueprint.Viewer
