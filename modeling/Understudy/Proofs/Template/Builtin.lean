import Understudy.Template.Builtin
import Understudy.Template.Parser

/-!
# The statements of the built-in template

The built-in template as statements: three macros, the name of the receiver, and the printed file
with its loops over the imports and the methods. `parse_builtin` says that reading the template
gives just these, so that proofs about what it prints never read its text again.
-/

set_option autoImplicit false

namespace Understudy.Template

open Text

/-! ## Pieces that stand more than once -/

/-- The part `name` of what `base` stands for. -/
def partOf (line : Nat) (base name : String) : Expr := .attr line (.var line base) name

/-- A text between quotes. -/
def quotedText (line : Nat) (s : String) : Expr := .literal line (.text s)

/-- The name of the parameter `f`: its own, if that is neither empty nor taken. -/
def nameOrPlace (line : Nat) : Expr :=
  .ifElse line
    (.and line (partOf line "f" "Name")
      (.not line (.binary line .member (partOf line "f" "Name")
        (.list line [quotedText line "_", .var line "recv"]))))
    (partOf line "f" "Name")
    (.binary line .concat (quotedText line "arg") (partOf line "loop" "index0"))

/-- A comma after every item of a loop but the last. -/
def commaUnlessLast (line : Nat) : Stmt :=
  .print (.ifElse line (.not line (partOf line "loop" "last")) (quotedText line ", ")
    (quotedText line ""))

/-- Prints what is bound to `name`. -/
def printName (line : Nat) (name : String) : Stmt := .print (.var line name)

/-- Prints the part `name` of what `base` stands for. -/
def printPart (line : Nat) (base name : String) : Stmt := .print (partOf line base name)

/-- Prints what the macro `name` makes of the parameters of a method. -/
def printInputs (line : Nat) (name : String) : Stmt :=
  .print (.call line name [partOf line "m" "Input", .var line "recv"] [])

/-- Prints what the macro `results` makes of the results of a method. -/
def printOutputs (line : Nat) : Stmt :=
  .print (.call line "results" [partOf line "m" "Output"] [])

/-! ## The macros -/

/-- The parameters with their types. -/
def paramsBody : List Stmt :=
  [.forEach "f" (.var 1 "fields") none
    [.print (nameOrPlace 1), .text " ", printPart 1 "f" "Type", commaUnlessLast 1] []]

/-- The names of the parameters. -/
def callArgsBody : List Stmt :=
  [.forEach "f" (.var 2 "fields") none [.print (nameOrPlace 2), commaUnlessLast 2] []]

/-- The types of the results in parentheses, if there are any. -/
def resultsBody : List Stmt :=
  [.branch (.var 3 "fields")
    [.text " (", .forEach "f" (.var 3 "fields") none [printPart 3 "f" "Type", commaUnlessLast 3] [],
      .text ")"]
    []]

/-- The declarations before anything is printed. -/
def builtinDeclarations : List Stmt := [
  .define "params" ["fields", "recv"] [] paramsBody,
  .define "call_args" ["fields", "recv"] [] callArgsBody,
  .define "results" ["fields"] [] resultsBody,
  .set "recv" (.filter 4 (.var 4 "Struct") "lcfirst" [] [])]

/-! ## The file -/

/-- The line of an import. -/
def importBody : List Stmt := [
  .text "\t",
  .print (.ifElse 11 (partOf 11 "imp" "Name")
    (.binary 11 .concat (partOf 11 "imp" "Name") (quotedText 11 " ")) (quotedText 11 "")),
  .text "\"", printPart 11 "imp" "Path", .text "\"\n"]

/-- The line of a function field. -/
def fieldBody : List Stmt := [
  .text "\t", printPart 23 "m" "Name", .text "Func func(", printInputs 23 "params", .text ")",
  printOutputs 23, .text "\n"]

/-- The lines of a method. -/
def methodBody : List Stmt := [
  .text "\n// ", printPart 28 "m" "Name", .text " calls ", printPart 28 "m" "Name",
  .text "Func.\nfunc (", printName 29 "recv", .text " *", printName 29 "Struct", .text ") ",
  printPart 29 "m" "Name", .text "(", printInputs 29 "params", .text ")", printOutputs 29,
  .text (" " ++ openBrace ++ "\n\tif "), printName 30 "recv", .text ".", printPart 30 "m" "Name",
  .text ("Func == nil " ++ openBrace ++ "\n\t\tpanic(\""), printName 31 "Struct", .text ".",
  printPart 31 "m" "Name", .text ("Func is not set\")\n\t" ++ closeBrace ++ "\n\t"),
  .print (.ifElse 33 (partOf 33 "m" "Output") (quotedText 33 "return ") (quotedText 33 "")),
  printName 33 "recv", .text ".", printPart 33 "m" "Name", .text "Func(",
  printInputs 33 "call_args", .text (")\n" ++ closeBrace ++ "\n")]

/-- What is printed, after the declarations. -/
def builtinFile : List Stmt := [
  .text "// Code generated by shmock. DO NOT EDIT.\n\npackage ", printName 7 "GenPackage",
  .text "\n\nimport (\n",
  .forEach "imp" (.var 10 "Imports") none importBody [],
  .text "\n\t", printName 14 "Package", .text " \"", printName 14 "ModelPath",
  .text "\"\n)\n\nvar _ ", printName 17 "Package", .text ".Querier = (*", printName 17 "Struct",
  .text ")(nil)\n\n// ", printName 19 "Struct", .text " is a ", printName 19 "Package",
  .text (".Querier whose methods delegate to the\n" ++
    "// matching function fields. Calling a method whose field is nil panics.\ntype "),
  printName 21 "Struct", .text (" struct " ++ openBrace ++ "\n"),
  .forEach "m" (.var 22 "Methods") none fieldBody [],
  .text (closeBrace ++ "\n"),
  .forEach "m" (.var 26 "Methods") none methodBody []]

/-! ## The tokens -/

section Tokens

open Token

/-- A text as a token. -/
def textOn (line : Nat) (content : String) : List Located := [⟨line, text content⟩]

/-- A tag with what is between its delimiters. -/
def tagOn (line : Nat) (tag : Tag) (inside : List Token) : List Located :=
  (opening tag :: inside ++ [closing tag]).map (⟨line, ·⟩)

/-- A printed name. -/
def nameOn (line : Nat) (name : String) : List Located := tagOn line .variable [word name]

/-- The tokens of a part. -/
def partTokens (base name : String) : List Token := [word base, symbol ".", word name]

/-- A printed part. -/
def partOn (line : Nat) (base name : String) : List Located :=
  tagOn line .variable (partTokens base name)

/-- The beginning of a loop. -/
def forOn (line : Nat) (target items : String) : List Located :=
  tagOn line .block [word "for", word target, word "in", word items]

/-- A tag of one word. -/
def endOn (line : Nat) (name : String) : List Located := tagOn line .block [word name]

/-- The printed `nameOrPlace`. -/
def nameOrPlaceOn (line : Nat) : List Located :=
  tagOn line .variable (partTokens "f" "Name" ++ word "if" :: partTokens "f" "Name" ++
    word "and" :: partTokens "f" "Name" ++
    [word "not", word "in", symbol "[", string "_", symbol ",", word "recv", symbol "]",
      word "else", string "arg", symbol "~"] ++ partTokens "loop" "index0")

/-- The tokens of `commaUnlessLast`. -/
def commaOn (line : Nat) : List Located :=
  tagOn line .variable ([string ", ", word "if", word "not"] ++ partTokens "loop" "last" ++
    [word "else", string ""])

/-- The tokens of `printInputs`. -/
def inputsOn (line : Nat) (name : String) : List Located :=
  tagOn line .variable (word name :: symbol "(" :: partTokens "m" "Input" ++
    [symbol ",", word "recv", symbol ")"])

/-- The tokens of `printOutputs`. -/
def outputsOn (line : Nat) : List Located :=
  tagOn line .variable (word "results" :: symbol "(" :: partTokens "m" "Output" ++ [symbol ")"])

/-- The tokens of the macros and the receiver. -/
def declarationTokens : List (List Located) := [
  tagOn 1 .block [word "macro", word "params", symbol "(", word "fields", symbol ",", word "recv",
    symbol ")"],
  forOn 1 "f" "fields", nameOrPlaceOn 1, textOn 1 " ", partOn 1 "f" "Type", commaOn 1,
  endOn 1 "endfor", endOn 1 "endmacro",
  tagOn 2 .block [word "macro", word "call_args", symbol "(", word "fields", symbol ",",
    word "recv", symbol ")"],
  forOn 2 "f" "fields", nameOrPlaceOn 2, commaOn 2, endOn 2 "endfor", endOn 2 "endmacro",
  tagOn 3 .block [word "macro", word "results", symbol "(", word "fields", symbol ")"],
  tagOn 3 .block [word "if", word "fields"], textOn 3 " (", forOn 3 "f" "fields",
  partOn 3 "f" "Type", commaOn 3, endOn 3 "endfor", textOn 3 ")", endOn 3 "endif",
  endOn 3 "endmacro",
  tagOn 4 .block [word "set", word "recv", symbol "=", word "Struct", symbol "|", word "lcfirst"]]

/-- The tokens of the file. -/
def fileTokens : List (List Located) := [
  textOn 5 "// Code generated by shmock. DO NOT EDIT.\n\npackage ", nameOn 7 "GenPackage",
  textOn 7 "\n\nimport (\n", forOn 10 "imp" "Imports", textOn 11 "\t",
  tagOn 11 .variable (partTokens "imp" "Name" ++ [symbol "~", string " ", word "if"] ++
    partTokens "imp" "Name" ++ [word "else", string ""]),
  textOn 11 "\"", partOn 11 "imp" "Path", textOn 11 "\"\n", endOn 12 "endfor",
  textOn 13 "\n\t", nameOn 14 "Package", textOn 14 " \"", nameOn 14 "ModelPath",
  textOn 14 "\"\n)\n\nvar _ ", nameOn 17 "Package", textOn 17 ".Querier = (*",
  nameOn 17 "Struct", textOn 17 ")(nil)\n\n// ", nameOn 19 "Struct", textOn 19 " is a ",
  nameOn 19 "Package",
  textOn 19 (".Querier whose methods delegate to the\n" ++
    "// matching function fields. Calling a method whose field is nil panics.\ntype "),
  nameOn 21 "Struct", textOn 21 (" struct " ++ openBrace ++ "\n"),
  forOn 22 "m" "Methods", textOn 23 "\t", partOn 23 "m" "Name", textOn 23 "Func func(",
  inputsOn 23 "params", textOn 23 ")", outputsOn 23, textOn 23 "\n", endOn 24 "endfor",
  textOn 25 (closeBrace ++ "\n"),
  forOn 26 "m" "Methods", textOn 27 "\n// ", partOn 28 "m" "Name", textOn 28 " calls ",
  partOn 28 "m" "Name", textOn 28 "Func.\nfunc (", nameOn 29 "recv", textOn 29 " *",
  nameOn 29 "Struct", textOn 29 ") ", partOn 29 "m" "Name", textOn 29 "(",
  inputsOn 29 "params", textOn 29 ")", outputsOn 29, textOn 29 (" " ++ openBrace ++ "\n\tif "),
  nameOn 30 "recv", textOn 30 ".", partOn 30 "m" "Name",
  textOn 30 ("Func == nil " ++ openBrace ++ "\n\t\tpanic(\""), nameOn 31 "Struct", textOn 31 ".",
  partOn 31 "m" "Name", textOn 31 ("Func is not set\")\n\t" ++ closeBrace ++ "\n\t"),
  tagOn 33 .variable ([string "return ", word "if"] ++ partTokens "m" "Output" ++
    [word "else", string ""]),
  nameOn 33 "recv", textOn 33 ".", partOn 33 "m" "Name", textOn 33 "Func(",
  inputsOn 33 "call_args", textOn 33 (")\n" ++ closeBrace ++ "\n"), endOn 35 "endfor"]

/-- The tokens of the built-in template. -/
def builtinTokens : List Located := (declarationTokens ++ fileTokens).flatten

end Tokens

/-! ## Reading the template -/

set_option maxRecDepth 10000 in
/-- The built-in template cut into tokens. -/
theorem tokens_builtin : tokens builtin = builtinTokens := by
  rw [tokens]
  simp only [builtin, builtinLines, tag, printed, parameterName, comma, braced, openBrace,
    closeBrace, String.toList_join, List.map, List.flatMap_cons, List.flatMap_nil,
    String.toList_append]
  -- Taking a literal apart as the text of its characters spares the kernel decoding its bytes.
  repeat rw [String.toList_ofList]
  decide +kernel

set_option maxRecDepth 10000 in
/-- **Reading the built-in template gives the declarations and the file.** -/
theorem parse_builtin : parse builtin = .ok (builtinDeclarations ++ builtinFile) := by
  rw [parse, tokens_builtin]
  rfl

end Understudy.Template
