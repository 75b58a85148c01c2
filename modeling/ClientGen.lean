import ClientGen.Files.Tree
import ClientGen.Main
import ClientGen.Proofs.Api.Closed
import ClientGen.Proofs.Api.Distinct
import ClientGen.Proofs.Api.Failure
import ClientGen.Proofs.Api.Log
import ClientGen.Proofs.Api.Methods
import ClientGen.Proofs.Api.References
import ClientGen.Proofs.Batch.Refusal
import ClientGen.Proofs.Component.SideBySide
import ClientGen.Proofs.Source.Apart
import ClientGen.Proofs.Source.Inside
import ClientGen.Proofs.Source.Placement
import ClientGen.Proofs.Api.Documentation
import ClientGen.Proofs.Declaration.Packages
import ClientGen.Proofs.Resolution.Packages
import ClientGen.Proofs.Api.Packages
import ClientGen.Proofs.Description.Rearranged
import ClientGen.Proofs.Source.Rows
import ClientGen.Proofs.Source.Constants
import ClientGen.Proofs.Schema.Tour
import ClientGen.Proofs.Resolution.FirstOffence
import ClientGen.Proofs.Resolution.Warnings
import ClientGen.Proofs.Resolution.Emissions
import ClientGen.Proofs.Component.Scope
import ClientGen.Proofs.Source.Variants
import ClientGen.Proofs.EnumProse.Leftmost
import ClientGen.Proofs.EnumProse.Listing
import ClientGen.Proofs.Api.Sites
import ClientGen.Proofs.Source.WireNames
import ClientGen.Proofs.Source.Sending
import ClientGen.Proofs.Source.MethodNames
import ClientGen.Proofs.Resolution.Declared
import ClientGen.Proofs.Resolution.EnumConstants
import ClientGen.Proofs.Registry.AnyOrder
import ClientGen.Proofs.Api.Registrations
import ClientGen.Proofs.Files.Leftover
import ClientGen.Proofs.Source.BaseIndex
import ClientGen.Proofs.Selector
import ClientGen.Proofs.Source.Identifiers
import ClientGen.Proofs.Source.InternalNames
import ClientGen.Proofs.Text.ClosingQuote
import ClientGen.Proofs.Source.Comments
