import FlasherStub.Bytes.LittleEndian
import FlasherStub.Chip
import FlasherStub.Cli.Command
import FlasherStub.Cli.Help
import FlasherStub.Cli.Layout
import FlasherStub.Cli.Parse
import FlasherStub.Cli.Run
import FlasherStub.Cli.Terminal
import FlasherStub.Config
import FlasherStub.Description
import FlasherStub.Error
import FlasherStub.Extract
import FlasherStub.Field
import FlasherStub.Image
import FlasherStub.Json.Description
import FlasherStub.Json.Quote
import FlasherStub.Json.Reader
import FlasherStub.Main
import FlasherStub.Number.Binary64
import FlasherStub.Number.Shortest
import FlasherStub.Path
import FlasherStub.Proofs.Cli.ChipNames
import FlasherStub.Proofs.Config.Location
import FlasherStub.Proofs.Config.Selection
import FlasherStub.Proofs.Description
import FlasherStub.Proofs.Except
import FlasherStub.Proofs.Extract.Encode
import FlasherStub.Proofs.Extract.Order
import FlasherStub.Proofs.Extract.Single
import FlasherStub.Proofs.Image.Checks
import FlasherStub.Proofs.Image.Layout
import FlasherStub.Proofs.Json.Document
import FlasherStub.Proofs.Json.Grammar
import FlasherStub.Proofs.Json.Scanners
import FlasherStub.Proofs.Json.Skipping
import FlasherStub.Proofs.Pipeline
import FlasherStub.Proofs.Source
import FlasherStub.Proofs.Text.Base64
import FlasherStub.Proofs.Toml.Document
import FlasherStub.Proofs.Toml.Integer
import FlasherStub.Proofs.Toml.Tables
import FlasherStub.Proofs.Tree.Store
import FlasherStub.Proofs.Tree.Walk
import FlasherStub.Record
import FlasherStub.Source
import FlasherStub.Store
import FlasherStub.Text.Base64
import FlasherStub.Text.Case
import FlasherStub.Text.Hex
import FlasherStub.Text.Printable
import FlasherStub.Toml.Datetime
import FlasherStub.Toml.Description
import FlasherStub.Toml.Document
import FlasherStub.Toml.Error
import FlasherStub.Toml.Scalar
import FlasherStub.Toml.Syntax
import FlasherStub.Toml.Token
import FlasherStub.Tree
