import Understudy.Mock.Render
import Understudy.Proofs.Template.Builtin
import Understudy.Proofs.Template.Printing

/-!
# The text of a generated file

A direct printer of a mock, line by line: the header and the package, the imports of the source
file and the package that declares the interface, the assertion that the mock implements it, the
structure with one function field for each method, and the methods that call the fields. The
parameters of a field and of the method that calls it are the same text, and the call passes their
names.

* `Mock.text` is the printed file.
* `Field.nameAt` is the name that a parameter has there.
-/

set_option autoImplicit false

namespace Understudy

open Text (openBrace closeBrace)

/-- The lines, each with its end. -/
def unlines (lines : List String) : String := String.join (lines.map (· ++ "\n"))

/-! ## Parameters and results -/

/-- The name of the parameter at place `i`: its own, unless that is empty, a low line or the name
of the receiver. -/
def Field.nameAt (receiver : String) (i : Nat) (f : Field) : String :=
  if f.name = "" ∨ f.name = "_" ∨ f.name = receiver then "arg" ++ toString i else f.name

/-- The parameters with their names and types. -/
def parameterText (receiver : String) (fields : List Field) : String :=
  ", ".intercalate (fields.mapIdx fun i f => f.nameAt receiver i ++ " " ++ f.type)

/-- The names of the parameters. -/
def argumentText (receiver : String) (fields : List Field) : String :=
  ", ".intercalate (fields.mapIdx (Field.nameAt receiver))

/-- The types of the results in parentheses, if there are any. -/
def resultText (fields : List Field) : String :=
  if fields = [] then "" else " (" ++ ", ".intercalate (fields.map Field.type) ++ ")"

/-! ## Methods and imports -/

/-- The signature of a method, the same for its field. -/
def Method.signatureText (receiver : String) (m : Method) : String :=
  "(" ++ parameterText receiver m.input ++ ")" ++ resultText m.output

/-- The line of the function field of a method. -/
def Method.fieldLine (receiver : String) (m : Method) : String :=
  "\t" ++ m.name ++ "Func func" ++ m.signatureText receiver

/-- The lines of the method that calls its field. -/
def Method.lines (structName receiver : String) (m : Method) : List String := [
  "",
  "// " ++ m.name ++ " calls " ++ m.name ++ "Func.",
  "func (" ++ receiver ++ " *" ++ structName ++ ") " ++ m.name ++ m.signatureText receiver ++
    " " ++ openBrace,
  "\tif " ++ receiver ++ "." ++ m.name ++ "Func == nil " ++ openBrace,
  "\t\tpanic(\"" ++ structName ++ "." ++ m.name ++ "Func is not set\")",
  "\t" ++ closeBrace,
  "\t" ++ (if m.output = [] then "" else "return ") ++ receiver ++ "." ++ m.name ++ "Func(" ++
    argumentText receiver m.input ++ ")",
  closeBrace]

/-- The line of an import, with its name if it has one. -/
def Import.line (i : Import) : String :=
  "\t" ++ (if i.name = "" then "" else i.name ++ " ") ++ "\"" ++ i.path ++ "\""

/-! ## The file -/

namespace Mock

/-- The name of the receiver of the generated methods. -/
def receiver (m : Mock) : String := Naming.lowerFirst m.structName

/-- The lines of the generated file. -/
def lines (m : Mock) : List String :=
  ["// Code generated by shmock. DO NOT EDIT.",
    "",
    "package " ++ m.genPackage,
    "",
    "import ("] ++
  m.imports.map Import.line ++
  ["",
    "\t" ++ m.package ++ " \"" ++ m.modelPath ++ "\"",
    ")",
    "",
    "var _ " ++ m.package ++ ".Querier = (*" ++ m.structName ++ ")(nil)",
    "",
    "// " ++ m.structName ++ " is a " ++ m.package ++ ".Querier whose methods delegate to the",
    "// matching function fields. Calling a method whose field is nil panics.",
    "type " ++ m.structName ++ " struct " ++ openBrace] ++
  m.methods.map (Method.fieldLine m.receiver) ++
  [closeBrace] ++
  m.methods.flatMap (Method.lines m.structName m.receiver)

/-- The text of the generated file. -/
def text (m : Mock) : String := unlines m.lines

end Mock

/-! ## Lines -/

@[simp]
theorem unlines_nil : unlines [] = "" := rfl

@[simp]
theorem unlines_cons (line : String) (lines : List String) :
    unlines (line :: lines) = line ++ "\n" ++ unlines lines := by
  simp [unlines]

@[simp]
theorem unlines_append (first second : List String) :
    unlines (first ++ second) = unlines first ++ unlines second := by
  simp [unlines]

theorem unlines_map {α : Type} (f : α → String) (xs : List α) :
    unlines (xs.map f) = String.join (xs.map fun x => f x ++ "\n") := by
  simp [unlines, Function.comp_def]

theorem unlines_flatMap {α : Type} (f : α → List String) (xs : List α) :
    unlines (xs.flatMap f) = String.join (xs.map fun x => unlines (f x)) := by
  induction xs with
  | nil => rfl
  | cons x xs ih => simp [ih]

theorem mapIdx_const {α β : Type} (f : α → β) (xs : List α) :
    xs.mapIdx (fun _ x => f x) = xs.map f := by
  induction xs with
  | nil => rfl
  | cons x xs ih => rw [List.mapIdx_cons, ih, List.map_cons]

/-- A comma after each item but the last puts commas between the items. -/
theorem join_commas {α : Type} (f : Nat → α → String) (xs : List α) :
    String.join (xs.mapIdx fun i x => f i x ++ if i + 1 = xs.length then "" else ", ") =
      ", ".intercalate (xs.mapIdx f) := by
  induction xs generalizing f with
  | nil => rfl
  | cons x xs ih =>
    cases xs with
    | nil => simp
    | cons y ys =>
      have := ih (fun i => f (i + 1))
      simp_all [List.mapIdx_cons, String.append_assoc]

/-! ## The macros of the built-in template -/

namespace Template

open Scope (lookup_inLoop lookup_inLoop_target lookup_inLoop_loop)

section Macros

variable {invoke : Invoke} {s : Scope} {receiver : String} {fields : List Field}
  {n i line : Nat} {f : Field} {earlier : List Value}

theorem Prints.part {base name t : String} {fields : List (String × Value)} {sts : List Stmt}
    {out : String} (hb : s.lookup base = .record fields)
    (hf : Value.field? name fields = some (.text t)) (h : Prints invoke s sts out) :
    Prints invoke s (printPart line base name :: sts) (t ++ out) :=
  .print (eval_attr hb hf) h

theorem Prints.name {name t : String} {sts : List Stmt} {out : String}
    (hn : s.lookup name = .text t) (h : Prints invoke s sts out) :
    Prints invoke s (printName line name :: sts) (t ++ out) :=
  .print (congrArg Except.ok hn) h

/-- The comma after an item of a loop. -/
theorem comma_prints {v : Value} :
    Prints invoke (s.inLoop "f" n i v earlier) [commaUnlessLast line]
      (if i + 1 = n then "" else ", ") := by
  have hlast : eval invoke (s.inLoop "f" n i v earlier) (partOf line "loop" "last") =
      .ok (.bool (i + 1 == n)) :=
    eval_attr (lookup_inLoop_loop (by decide)) rfl
  rw [← String.append_empty (s := if i + 1 = n then "" else ", ")]
  refine .print ?_ .nil
  rw [eval_ifElse (eval_not hlast rfl) rfl]
  by_cases h : i + 1 = n <;> simp [h, Value.isTrue] <;> rfl

/-- Whether a name is one of two texts. -/
theorem member_texts (name a b : String) :
    BinaryOp.run .member (.text name) (.list [.text a, .text b]) =
      .ok (.bool (decide (name = a ∨ name = b))) := by
  have h : [Value.text a, .text b].any (fun item => item.equals (.text name)) =
      decide (name = a ∨ name = b) := by
    rw [Bool.eq_iff_iff]
    simpa [Value.equals] using or_congr eq_comm eq_comm
  rw [← h]
  rfl

/-- The test whether a parameter keeps its name. -/
theorem eval_keepsName (hname : eval invoke s (partOf line "f" "Name") = .ok (.text f.name))
    (hr : s.lookup "recv" = .text receiver) :
    ∃ v, eval invoke s (.and line (partOf line "f" "Name")
        (.not line (.binary line .member (partOf line "f" "Name")
          (.list line [quotedText line "_", .var line "recv"])))) = .ok v ∧
      truth v = .ok (decide ¬(f.name = "" ∨ f.name = "_" ∨ f.name = receiver)) := by
  have hlist : eval invoke s (.list line [quotedText line "_", .var line "recv"]) =
      .ok (.list [.text "_", .text receiver]) := by
    simp only [eval, evalAll, quotedText, hr, bind, Except.bind]
    rfl
  rw [eval_and hname rfl, eval_not (eval_binary hname hlist (member_texts ..)) rfl]
  by_cases h : f.name = ""
  · exact ⟨.text f.name, by simp [h, Value.isTrue], by simp [h, truth, isStrict, Value.isTrue]⟩
  · refine ⟨_, if_pos (by simpa [Value.isTrue] using h), ?_⟩
    simp [h, truth, isStrict, Value.isTrue]

/-- The name that a parameter is printed with. -/
theorem eval_nameOrPlace (hr : s.lookup "recv" = .text receiver) :
    eval invoke (s.inLoop "f" n i f.value earlier) (nameOrPlace line) =
      .ok (.text (f.nameAt receiver i)) := by
  have hname : eval invoke (s.inLoop "f" n i f.value earlier) (partOf line "f" "Name") =
      .ok (.text f.name) :=
    eval_attr lookup_inLoop_target rfl
  have hplace : eval invoke (s.inLoop "f" n i f.value earlier)
      (.binary line .concat (quotedText line "arg") (partOf line "loop" "index0")) =
      .ok (.text ("arg" ++ toString i)) :=
    eval_binary rfl (eval_attr (lookup_inLoop_loop (by decide)) rfl) rfl
  have hrecv : (s.inLoop "f" n i f.value earlier).lookup "recv" = .text receiver := by
    rw [lookup_inLoop (by decide) (by decide), hr]
  obtain ⟨v, hv, hb⟩ := eval_keepsName hname hrecv
  rw [nameOrPlace, eval_ifElse hv hb, hname, hplace, Field.nameAt]
  by_cases h : f.name = "" ∨ f.name = "_" ∨ f.name = receiver <;> simp [h]

/-- A loop over fields that ends its turns with commas. -/
theorem fieldsLoop_prints {text : Nat → Field → String} {body sts : List Stmt} {out : String}
    (hf : s.lookup "fields" = .list (fields.map Field.value))
    (hturn : ∀ i f earlier, Prints invoke (s.inLoop "f" fields.length i (Field.value f) earlier) body
      (text i f ++ if i + 1 = fields.length then "" else ", "))
    (h : Prints invoke s sts out) :
    Prints invoke s (.forEach "f" (.var line "fields") none body [] :: sts)
      (", ".intercalate (fields.mapIdx text) ++ out) := by
  rw [← join_commas]
  exact .forEach (congrArg _ hf) hturn h

/-- The macro `params` prints the parameters. -/
theorem paramsBody_prints (hf : s.lookup "fields" = .list (fields.map Field.value))
    (hr : s.lookup "recv" = .text receiver) :
    Prints invoke s paramsBody (parameterText receiver fields) := by
  rw [← String.append_empty (s := parameterText receiver fields)]
  refine fieldsLoop_prints hf (fun i f earlier => ?_) .nil
  simpa only [String.append_assoc] using Prints.print (eval_nameOrPlace hr)
    (.text (.part lookup_inLoop_target rfl comma_prints))

/-- The macro `call_args` prints the names of the parameters. -/
theorem callArgsBody_prints (hf : s.lookup "fields" = .list (fields.map Field.value))
    (hr : s.lookup "recv" = .text receiver) :
    Prints invoke s callArgsBody (argumentText receiver fields) := by
  rw [← String.append_empty (s := argumentText receiver fields)]
  exact fieldsLoop_prints hf (fun i f earlier => .print (eval_nameOrPlace hr) comma_prints) .nil

/-- The macro `results` prints the types of the results. -/
theorem resultsBody_prints (hf : s.lookup "fields" = .list (fields.map Field.value)) :
    Prints invoke s resultsBody (resultText fields) := by
  have hloop : Prints invoke s [.text " (", .forEach "f" (.var 3 "fields") none
      [printPart 3 "f" "Type", commaUnlessLast 3] [], .text ")"]
      (" (" ++ (", ".intercalate (fields.mapIdx fun _ f => f.type) ++ (")" ++ ""))) :=
    .text (fieldsLoop_prints hf
      (fun i f earlier => .part lookup_inLoop_target rfl comma_prints) (.text .nil))
  have hbranch : Prints invoke s resultsBody (resultText fields ++ "") := by
    refine .branch (congrArg Except.ok hf) rfl ?_ .nil
    cases fields with
    | nil => exact .nil
    | cons f fields =>
      simpa [resultText, mapIdx_const, String.append_assoc, Value.isTrue] using hloop
  simpa using hbranch

end Macros

/-! ## The file of the built-in template -/

/-- The scope in which the file is printed: the names of the mock, the macros and the receiver. -/
def mockScope (m : Mock) : Scope :=
  ⟨[⟨("recv", .text m.receiver) ::
    ("results", .macroDef "results" ["fields"] [] resultsBody) ::
    ("call_args", .macroDef "call_args" ["fields", "recv"] [] callArgsBody) ::
    ("params", .macroDef "params" ["fields", "recv"] [] paramsBody) :: m.bindings, none⟩], 0⟩

/-- The declarations make the scope of the file. -/
theorem declarations_run (invoke : Invoke) (m : Mock) :
    execAll invoke builtinDeclarations ⟨[⟨m.bindings, none⟩], 0⟩ = .ok (mockScope m, []) := rfl

section Turns

variable {fuel line n i : Nat} {m : Mock} {x : Method} {earlier : List Value} {sts : List Stmt}
  {out : String}

/-- The receiver in a loop over the methods. -/
theorem lookup_recv :
    ((mockScope m).inLoop "m" n i x.value earlier).lookup "recv" = .text m.receiver :=
  (lookup_inLoop (by decide) (by decide)).trans rfl

/-- The call of a macro in a loop over the methods. -/
theorem call_prints {name : String} {params : List String} {args : List Expr} {vs : List Value}
    {body : List Stmt} {t : String} (hm : name ≠ "m") (hl : name ≠ "loop")
    (hname : (mockScope m).find? name =
      some (.macroDef name params [] body, (mockScope m).frames))
    (hargs : evalAll (invokeAt (fuel + 1)) ((mockScope m).inLoop "m" n i x.value earlier) args =
      .ok vs)
    (hparams : params.length = vs.length)
    (hbody : Prints (invokeAt fuel) ⟨⟨params.zip vs, none⟩ :: (mockScope m).frames, 6⟩ body t)
    (h : Prints (invokeAt (fuel + 1)) ((mockScope m).inLoop "m" n i x.value earlier) sts out) :
    Prints (invokeAt (fuel + 1)) ((mockScope m).inLoop "m" n i x.value earlier)
      (.print (.call line name args []) :: sts) (t ++ out) := by
  have hdepth : ((mockScope m).inLoop "m" n i x.value earlier).depth + macroDepth + 2 ≤
      scopeLimit := by
    show 2 + 4 + 2 ≤ 500
    decide
  exact .print (eval_invocation hargs ((Scope.find?_inLoop hm hl).trans hname) hparams hdepth hbody) h

/-- The arguments of the macros on parameters. -/
theorem evalAll_inputs (invoke : Invoke) :
    evalAll invoke ((mockScope m).inLoop "m" n i x.value earlier)
      [partOf line "m" "Input", .var line "recv"] =
      .ok [.list (x.input.map Field.value), .text m.receiver] := by
  have hinput : eval invoke ((mockScope m).inLoop "m" n i x.value earlier)
      (partOf line "m" "Input") = .ok (.list (x.input.map Field.value)) :=
    eval_attr lookup_inLoop_target rfl
  simp only [evalAll, hinput, eval, lookup_recv, bind, Except.bind]
  rfl

/-- The argument of the macro on results. -/
theorem evalAll_outputs (invoke : Invoke) :
    evalAll invoke ((mockScope m).inLoop "m" n i x.value earlier) [partOf line "m" "Output"] =
      .ok [.list (x.output.map Field.value)] := by
  have houtput : eval invoke ((mockScope m).inLoop "m" n i x.value earlier)
      (partOf line "m" "Output") = .ok (.list (x.output.map Field.value)) :=
    eval_attr lookup_inLoop_target rfl
  simp only [evalAll, houtput, bind, Except.bind]
  rfl

/-- The parameters and results of the method of a turn. -/
theorem signature_prints
    (h : Prints (invokeAt (fuel + 1)) ((mockScope m).inLoop "m" n i x.value earlier) sts out) :
    Prints (invokeAt (fuel + 1)) ((mockScope m).inLoop "m" n i x.value earlier)
      (printInputs line "params" :: .text ")" :: printOutputs line :: sts)
      (parameterText m.receiver x.input ++ (")" ++ (resultText x.output ++ out))) := by
  refine call_prints (by decide) (by decide) rfl (evalAll_inputs _) rfl (paramsBody_prints rfl rfl)
    (.text ?_)
  exact call_prints (by decide) (by decide) rfl (evalAll_outputs _) rfl (resultsBody_prints rfl) h

/-- The line of a function field. -/
theorem fieldBody_prints :
    Prints (invokeAt (fuel + 1)) ((mockScope m).inLoop "m" n i x.value earlier) fieldBody
      (x.fieldLine m.receiver ++ "\n") := by
  refine .of_eq (.text (.part lookup_inLoop_target rfl (.text (signature_prints (.text .nil))))) ?_
  rw [← String.toList_inj]
  simp [Method.fieldLine, Method.signatureText]

/-- The lines of a method. -/
theorem methodBody_prints :
    Prints (invokeAt (fuel + 1)) ((mockScope m).inLoop "m" n i x.value earlier) methodBody
      (unlines (x.lines m.structName m.receiver)) := by
  have hstruct : ((mockScope m).inLoop "m" n i x.value earlier).lookup "Struct" =
      .text m.structName := (lookup_inLoop (by decide) (by decide)).trans rfl
  have houtput : eval (invokeAt (fuel + 1)) ((mockScope m).inLoop "m" n i x.value earlier)
      (partOf 33 "m" "Output") = .ok (.list (x.output.map Field.value)) :=
    eval_attr lookup_inLoop_target rfl
  have hreturn : eval (invokeAt (fuel + 1)) ((mockScope m).inLoop "m" n i x.value earlier)
      (.ifElse 33 (partOf 33 "m" "Output") (quotedText 33 "return ") (quotedText 33 "")) =
      .ok (.text (if x.output = [] then "" else "return ")) := by
    rw [eval_ifElse houtput rfl]
    cases x.output <;> rfl
  refine .of_eq (.text <| .part lookup_inLoop_target rfl <| .text <|
    .part lookup_inLoop_target rfl <| .text <| .name lookup_recv <| .text <| .name hstruct <|
    .text <| .part lookup_inLoop_target rfl <| .text <| signature_prints <| .text <|
    .name lookup_recv <| .text <| .part lookup_inLoop_target rfl <| .text <| .name hstruct <|
    .text <| .part lookup_inLoop_target rfl <| .text <| .print hreturn <| .name lookup_recv <|
    .text <| .part lookup_inLoop_target rfl <| .text <| call_prints (by decide) (by decide) rfl
      (evalAll_inputs _) rfl (callArgsBody_prints rfl rfl) <| .text .nil) ?_
  rw [← String.toList_inj]
  simp [Method.lines, Method.signatureText]

/-- The line of an import. -/
theorem importBody_prints {invoke : Invoke} {s : Scope} {imp : Import} :
    Prints invoke (s.inLoop "imp" n i imp.value earlier) importBody (imp.line ++ "\n") := by
  have hname : eval invoke (s.inLoop "imp" n i imp.value earlier) (partOf 11 "imp" "Name") =
      .ok (.text imp.name) :=
    eval_attr lookup_inLoop_target rfl
  have hlabel : eval invoke (s.inLoop "imp" n i imp.value earlier)
      (.ifElse 11 (partOf 11 "imp" "Name")
        (.binary 11 .concat (partOf 11 "imp" "Name") (quotedText 11 " ")) (quotedText 11 "")) =
      .ok (.text (if imp.name = "" then "" else imp.name ++ " ")) := by
    rw [eval_ifElse hname rfl, eval_binary hname rfl rfl]
    by_cases h : imp.name = "" <;> simp [h, Value.isTrue] <;> rfl
  refine .of_eq (.text <| .print hlabel <| .text <| .part lookup_inLoop_target rfl <|
    .text .nil) ?_
  rw [← String.toList_inj]
  simp [Import.line]

end Turns

/-- The file, after the declarations. -/
theorem file_prints (fuel : Nat) (m : Mock) :
    Prints (invokeAt (fuel + 1)) (mockScope m) builtinFile m.text := by
  have himports : ∀ line, eval (invokeAt (fuel + 1)) (mockScope m) (.var line "Imports") =
      .ok (.list (m.imports.map Import.value)) := fun _ => rfl
  have hmethods : ∀ line, eval (invokeAt (fuel + 1)) (mockScope m) (.var line "Methods") =
      .ok (.list (m.methods.map Method.value)) := fun _ => rfl
  have hpackage : (mockScope m).lookup "Package" = .text m.package := rfl
  have hstruct : (mockScope m).lookup "Struct" = .text m.structName := rfl
  refine .of_eq (.text <| .name (t := m.genPackage) rfl <| .text <|
    .forEach (himports 10) (fun i imp earlier => importBody_prints) <|
    .text <| .name hpackage <| .text <| .name (t := m.modelPath) rfl <| .text <| .name hpackage <|
    .text <| .name hstruct <| .text <| .name hstruct <| .text <| .name hpackage <| .text <|
    .name hstruct <| .text <|
    .forEach (hmethods 22) (fun i x earlier => fieldBody_prints) <| .text <|
    .forEach (hmethods 26) (fun i x earlier => methodBody_prints) .nil) ?_
  rw [← String.toList_inj]
  simp [Mock.text, Mock.lines, mapIdx_const, unlines_map, unlines_flatMap]

end Template

/-- What a template that can be read prints. -/
theorem Mock.renderWith_of_parse {m : Mock} {template text : String} {sts : List Template.Stmt}
    (hp : Template.parse template = .ok sts) (hr : Template.renderStmts sts m.bindings = .ok text) :
    m.renderWith template = .ok text := by
  simp only [renderWith, hp, hr]

/-- What the statements of the built-in template print. -/
theorem Template.renderStmts_builtin (m : Mock) :
    renderStmts (builtinDeclarations ++ builtinFile) m.bindings = .ok m.text := by
  obtain ⟨pieces, hrun, hjoin⟩ := Prints.execAll_append (declarations_run _ m) (file_prints 99 m)
  rw [renderStmts, show macroLimit = 99 + 1 from rfl, hrun, ← hjoin]
  rfl

/-- **The built-in template prints every mock, line by line.** -/
theorem Mock.renderWith_builtin (m : Mock) : m.renderWith Template.builtin = .ok m.text :=
  renderWith_of_parse Template.parse_builtin (Template.renderStmts_builtin m)

end Understudy
