import Understudy.Attempt
import Understudy.CommandLine.LogFilter
import Understudy.CommandLine.Run
import Understudy.CommandLine.Usage
import Understudy.Extract
import Understudy.Failure
import Understudy.Files.Change
import Understudy.Files.Disk
import Understudy.Files.OsError
import Understudy.Files.Path
import Understudy.Formatter
import Understudy.Generate
import Understudy.Go.Declaration
import Understudy.Go.Grammar.Expressions
import Understudy.Go.Grammar.File
import Understudy.Go.Grammar.Phrase
import Understudy.Go.Grammar.Statements
import Understudy.Go.Grammar.Types
import Understudy.Go.ImportSpec
import Understudy.Go.Node
import Understudy.Go.Rule
import Understudy.Go.Signature
import Understudy.Go.StringLiteral
import Understudy.Go.Token
import Understudy.Go.TypeShape
import Understudy.Main
import Understudy.Mock
import Understudy.Mock.Render
import Understudy.Module.GoMod
import Understudy.Module.Location
import Understudy.Naming
import Understudy.Notice
import Understudy.Options
import Understudy.PackageName
import Understudy.Program.Shell
import Understudy.Program.Start
import Understudy.Proofs.CommandLine.Spellings
import Understudy.Proofs.Containment
import Understudy.Proofs.Extraction
import Understudy.Proofs.Files.Repeating
import Understudy.Proofs.Files.Walking
import Understudy.Proofs.Files.Writing
import Understudy.Proofs.Generate
import Understudy.Proofs.Go.Comments
import Understudy.Proofs.Go.Declared
import Understudy.Proofs.Go.Files
import Understudy.Proofs.Go.Forwarding
import Understudy.Proofs.Go.InterfaceFile
import Understudy.Proofs.Go.Lexing
import Understudy.Proofs.Go.Likeness
import Understudy.Proofs.Go.Literals
import Understudy.Proofs.Go.Literals.Arithmetic
import Understudy.Proofs.Go.Literals.Bodies
import Understudy.Proofs.Go.Literals.Elements
import Understudy.Proofs.Go.Literals.Numerals
import Understudy.Proofs.Go.MockFile
import Understudy.Proofs.Go.Prototypes
import Understudy.Proofs.Go.Qualification
import Understudy.Proofs.Go.Reading
import Understudy.Proofs.Go.Retyping
import Understudy.Proofs.Go.Shapes
import Understudy.Proofs.Go.Spelling
import Understudy.Proofs.Go.Trees
import Understudy.Proofs.Independence
import Understudy.Proofs.Mock.ImportPaths
import Understudy.Proofs.Mock.ParameterNames
import Understudy.Proofs.Mock.Printer
import Understudy.Proofs.Mock.Sentinels
import Understudy.Proofs.Mock.Signatures
import Understudy.Proofs.Module.Directive
import Understudy.Proofs.Regeneration
import Understudy.Proofs.Template.Builtin
import Understudy.Proofs.Template.Printing
import Understudy.Proofs.Text.Splitting
import Understudy.Template.Builtin
import Understudy.Template.Error
import Understudy.Template.Expr
import Understudy.Template.Filter
import Understudy.Template.Operator
import Understudy.Template.Parser
import Understudy.Template.Render
import Understudy.Template.Token
import Understudy.Template.Value
import Understudy.Text.Identifier
import Understudy.Text.Identifier.Table
import Understudy.Text.LetterCase
import Understudy.Text.LetterCase.Neighbours
import Understudy.Text.LetterCase.Table
import Understudy.Text.Lossy
import Understudy.Text.Lowercase
import Understudy.Text.Quoted
import Understudy.Text.Quoted.Table
import Understudy.Text.Ranges
import Understudy.Text.WhiteSpace
import Understudy.Proofs.Module.Comments
import Understudy.Proofs.Module.Edits
import Understudy.Proofs.Files.Paths
import Understudy.Proofs.PackageNames
import Understudy.Proofs.Files.RealNames
import Understudy.Proofs.Module.Nearest
import Understudy.Proofs.Go.FirstDeclaration
import Understudy.Proofs.Module.CommentPlace
import Understudy.Proofs.Text.LetterCase
import Understudy.Proofs.Naming.SnakeCase
import Understudy.Proofs.Naming.CamelCase
