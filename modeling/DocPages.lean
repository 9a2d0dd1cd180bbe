import DocPages.Cli.Args
import DocPages.Comment.Block
import DocPages.Comment.Body
import DocPages.Comment.Declaration
import DocPages.Comment.Source
import DocPages.Decimal.Arith
import DocPages.Decimal.Binary64
import DocPages.Decimal.Numeral
import DocPages.Doc.Basic
import DocPages.Doc.Dump
import DocPages.Doc.Normalize
import DocPages.Fs.Glob
import DocPages.Fs.Path
import DocPages.Fs.Tree
import DocPages.Json.Reader
import DocPages.Json.Value
import DocPages.Json.Writer
import DocPages.Link.Files
import DocPages.Link.Rule
import DocPages.Link.SeeLink
import DocPages.Log
import DocPages.Main
import DocPages.Page.Group
import DocPages.Page.Index
import DocPages.Page.Route
import DocPages.Publish
import DocPages.Scan
import DocPages.Session
import DocPages.Site.Assets
import DocPages.Site.Emit
import DocPages.Site.Engine
import DocPages.Site.Page
import DocPages.Stack
import DocPages.Text.Basic
import DocPages.Text.Case
import DocPages.Text.Classes
import DocPages.Text.Point
import DocPages.Text.Quoted
import DocPages.Text.Utf8
import DocPages.Unicode.Alnum
import DocPages.Unicode.Case
import DocPages.Unicode.Printable
import DocPages.Unicode.RangeTable
import DocPages.Yaml.Error
import DocPages.Yaml.Event
import DocPages.Yaml.Node
import DocPages.Yaml.Timestamp
import DocPages.Yaml.Token
import DocPages.Proofs.IndexOrder
import DocPages.Proofs.Republish
import DocPages.Proofs.Separators
import DocPages.Proofs.Anchors
import DocPages.Proofs.RuleCascade
import DocPages.Proofs.Owners
import DocPages.Proofs.Escaping
import DocPages.Proofs.PagePaths
import DocPages.Proofs.RunLinks
import DocPages.Proofs.TagBlocks
import DocPages.Proofs.Dumps
import DocPages.Proofs.SymbolNames
import DocPages.Proofs.SourceScan
import DocPages.Proofs.ConfigLoad
import DocPages.Proofs.PageLayout
import DocPages.Proofs.AsciiNames
import DocPages.Proofs.AssetCopies
import DocPages.Proofs.SiteWrites
import DocPages.Proofs.CommentScan
