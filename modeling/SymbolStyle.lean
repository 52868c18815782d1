import SymbolStyle.Main
import SymbolStyle.Sequence
import SymbolStyle.Style.Features
import SymbolStyle.Style.Texture
import SymbolStyle.Proofs.Lowering
import SymbolStyle.Proofs.Compilation
import SymbolStyle.Proofs.Emission
import SymbolStyle.Proofs.Glsl.Identifier
import SymbolStyle.Proofs.Style.Compilation
import SymbolStyle.Proofs.Style.Variables
import SymbolStyle.Proofs.Inputs
import SymbolStyle.Proofs.Shader.Declaration
import SymbolStyle.Proofs.Style.Inputs
import SymbolStyle.Proofs.Style.Redeclaration
import SymbolStyle.Proofs.Glsl.Evaluation
import SymbolStyle.Proofs.Meaning
import SymbolStyle.Proofs.Correctness
import SymbolStyle.Proofs.Style.Assembly
import SymbolStyle.Proofs.Style.Slots
import SymbolStyle.Proofs.Style.Filter
import SymbolStyle.Proofs.Style.Uniforms
import SymbolStyle.Proofs.Refusal
import SymbolStyle.Proofs.Style.Refusal
import SymbolStyle.Proofs.Culprit
import SymbolStyle.Proofs.Shader.Rendering
import SymbolStyle.Proofs.Style.Buffer
import SymbolStyle.Proofs.Enclosure
import SymbolStyle.Proofs.Glsl.Piece
import SymbolStyle.Proofs.FirstUse
import SymbolStyle.Proofs.Style.Misfit
import SymbolStyle.Proofs.Json.LongInt
import SymbolStyle.Proofs.Style.Document
import SymbolStyle.Proofs.Glsl.Literal
import SymbolStyle.Proofs.Glsl.Constant
import SymbolStyle.Proofs.Color.Hexadecimal
import SymbolStyle.Proofs.Color.Range
import SymbolStyle.Proofs.Message
import SymbolStyle.Proofs.Stem
import SymbolStyle.Proofs.Style.Quotes
import SymbolStyle.Proofs.Respelling
import SymbolStyle.Proofs.Style.Respelling
import SymbolStyle.Proofs.Style.SequenceForms
import SymbolStyle.Proofs.Style.NumberForms
import SymbolStyle.Proofs.Json.RoundTrip
import SymbolStyle.Proofs.Description
import SymbolStyle.Proofs.OneLine
