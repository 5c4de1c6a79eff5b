import EnvInline.Main
import EnvInline.Session
import EnvInline.Json.Reader
import EnvInline.Proofs.Refresh
import EnvInline.Proofs.TreeNodes
import EnvInline.Proofs.Rewriting
import EnvInline.Proofs.ClosingQuote
import EnvInline.Proofs.DefinitionText
import EnvInline.Proofs.LineBudget
import EnvInline.Proofs.Concatenation
import EnvInline.Proofs.WrittenForm
import EnvInline.Proofs.Meanwhile
import EnvInline.Proofs.InPlace
import EnvInline.Proofs.WriteSites
import EnvInline.Proofs.LiteralPlaces
import EnvInline.Proofs.FirstFault
import EnvInline.Proofs.Isolation
import EnvInline.Proofs.LocalFiles
import EnvInline.Proofs.FaithfulValues
import EnvInline.Proofs.LineGrammar
import EnvInline.Proofs.GivenNames
import EnvInline.Proofs.SharedPlaces
import EnvInline.Proofs.TargetsWithin
import EnvInline.Proofs.Arrangement
import EnvInline.Proofs.Baking
import EnvInline.Proofs.Appearance
import EnvInline.Proofs.FreshCapture
import EnvInline.Proofs.SiblingFiles
import EnvInline.Proofs.InTheWay
import EnvInline.Proofs.Dependencies
import EnvInline.Proofs.JsonLiteral
import EnvInline.Proofs.LineAccount
import EnvInline.Proofs.LineEndings
