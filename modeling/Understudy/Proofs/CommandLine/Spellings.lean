import Mathlib.Data.List.Forall2
import Mathlib.Data.List.Nodup
import Understudy.CommandLine.Usage
import Understudy.Proofs.Core
import Understudy.Proofs.Files.OsTexts

/-!
# Ways to write a command line

The values of a command line can be given in any order, and each option in several spellings. All
of them are read alike: what has been read after some arguments is, up to the last value that is not
yet checked, the row of values that these arguments spell.

* `Spells`: the arguments that give a value.
* `Settles`: what has been read amounts to a row of values.
* `Settles.argument`: one more value is read, however it is spelled.
* `Settles.arguments`: a row of values is read.
* `lookup_of_perm`: the order of the row does not matter for the options.
-/

set_option autoImplicit false

namespace Understudy.CommandLine

open Files

/-! ## Spellings -/

/-- Whether a text can be given as a value in every spelling. -/
def isValue (s : String) : Bool :=
  match s.toList with
  | [] => false
  | c :: _ => c != '-' && c != '='

/-- The letter of an option, if it has one. -/
def Slot.letter? : Slot → Option Char
  | .output => some 'o'
  | .template => some 't'
  | .package => some 'p'
  | .input | .format => none

/-- The word of an option; the input has none. -/
def Slot.word? : Slot → Option String
  | .output => some "output"
  | .template => some "template"
  | .package => some "package"
  | .format => some "format"
  | .input => none

/-- The arguments give the value to the slot. -/
inductive Spells : Slot × String → List String → Prop
  | plain (v : String) : Spells (.input, v) [v]
  | letter {slot : Slot} {c : Char} (h : slot.letter? = some c) (v : String) :
    Spells (slot, v) ["-" ++ c.toString ++ v]
  | letterEquals {slot : Slot} {c : Char} (h : slot.letter? = some c) (v : String) :
    Spells (slot, v) ["-" ++ c.toString ++ "=" ++ v]
  | letterNext {slot : Slot} {c : Char} (h : slot.letter? = some c) (v : String) :
    Spells (slot, v) ["-" ++ c.toString, v]
  | wordEquals {slot : Slot} {w : String} (h : slot.word? = some w) (v : String) :
    Spells (slot, v) ["--" ++ w ++ "=" ++ v]
  | wordNext {slot : Slot} {w : String} (h : slot.word? = some w) (v : String) :
    Spells (slot, v) ["--" ++ w, v]

theorem exists_of_isValue {v : String} (h : isValue v = true) :
    ∃ c cs, v.toList = c :: cs ∧ c ≠ '-' ∧ c ≠ '=' := by
  unfold isValue at h
  split at h
  · cases h
  · rename_i c cs hv
    simp only [Bool.and_eq_true, bne_iff_ne] at h
    exact ⟨c, cs, hv, h.1, h.2⟩

theorem ne_empty_of_isValue {v : String} (h : isValue v = true) : v ≠ "" := by
  rintro rfl
  cases h

theorem short?_of_letter? {slot : Slot} {c : Char} (h : slot.letter? = some c) :
    short? c = some (.value slot) ∧ c ≠ '-' := by
  cases slot <;> cases h <;> exact ⟨rfl, by decide⟩

theorem ne_input_of_letter? {slot : Slot} {c : Char} (h : slot.letter? = some c) :
    slot ≠ .input := by
  rintro rfl
  cases h

theorem ne_input_of_word? {slot : Slot} {w : String} (h : slot.word? = some w) :
    slot ≠ .input := by
  rintro rfl
  cases h

theorem long?_of_word? {slot : Slot} {w : String} (h : slot.word? = some w) :
    long? w = some (.value slot) ∧ '=' ∉ w.toList ∧ w ≠ "" := by
  cases slot <;> cases h <;> exact ⟨rfl, by decide, by decide⟩

namespace Reading

theorem splitEquals_of_not_mem {name : List Char} (h : '=' ∉ name) :
    splitEquals name = (name, none) := by
  induction name with
  | nil => rfl
  | cons c cs ih =>
    simp only [List.mem_cons, not_or] at h
    rw [splitEquals, if_neg (Ne.symm h.1), ih h.2]

theorem splitEquals_append {name : List Char} (h : '=' ∉ name) (value : List Char) :
    splitEquals (name ++ '=' :: value) = (name, some value) := by
  induction name with
  | nil => rfl
  | cons c cs ih =>
    simp only [List.mem_cons, not_or] at h
    rw [List.cons_append, splitEquals, if_neg (Ne.symm h.1), ih h.2]

theorem attachedValue_of_isValue {v : String} (h : isValue v = true) :
    attachedValue v.toList = some v := by
  obtain ⟨c, cs, hv, -, hequals⟩ := exists_of_isValue h
  rw [hv, attachedValue]
  · rw [← hv, String.ofList_toList]
  · exact nofun
  · intro rest heq
    cases heq
    exact hequals rfl

/-! ## One argument -/

section
variable {r r' : Reading} {slot : Slot} {arg v : String} {rest : List String}

/-- An argument other than two dashes is taken, and then the rest. -/
theorem arguments_cons (hdashes : arg.toList ≠ ['-', '-']) (h : r.argument arg = .ok r') :
    arguments (arg :: rest) r = arguments rest r' := by
  have hne : arg ≠ "--" := by
    rintro rfl
    exact hdashes rfl
  rw [arguments, if_neg hne, h]
  rfl

/-- An option by its letter, with what follows it. -/
theorem arguments_letter {c : Char} (h : slot.letter? = some c) (cs : List Char)
    (harg : arg.toList = '-' :: c :: cs)
    (hflag : r.flag (.value slot) (attachedValue cs) = .ok r') :
    arguments (arg :: rest) r = arguments rest r' := by
  obtain ⟨hshort, hdash⟩ := short?_of_letter? h
  apply arguments_cons
  · rw [harg]
    intro heq
    cases heq
    exact hdash rfl
  · unfold argument
    rw [harg]
    split
    · rename_i heq
      cases heq
      exact absurd rfl hdash
    · rename_i heq
      cases heq
      simp only [short, hshort, hflag]
    · rename_i hother
      exact absurd rfl (hother c cs)

/-- An option by its word, with the value that follows an equals sign. -/
theorem arguments_word {w : String} (h : slot.word? = some w) {value : Option (List Char)}
    {cs : List Char} (hsplit : splitEquals cs = (w.toList, value))
    (harg : arg.toList = '-' :: '-' :: cs)
    (hflag : r.flag (.value slot) (value.map String.ofList) = .ok r') :
    arguments (arg :: rest) r = arguments rest r' := by
  obtain ⟨hlong, -, hne⟩ := long?_of_word? h
  apply arguments_cons
  · rw [harg]
    intro heq
    cases heq
    exact hne (String.toList_eq_nil_iff.1 (congrArg Prod.fst hsplit).symm)
  · unfold argument
    rw [harg]
    simp only [long, hsplit, String.ofList_toList, hlong, hflag]

/-- What an argument that is no option does. -/
theorem argument_value (h : isValue v = true) :
    r.argument v =
      match r.pending with
      | some (slot, none) => .ok { r with pending := some (slot, some v) }
      | _ => r.plain v := by
  obtain ⟨c, cs, hv, hdash, -⟩ := exists_of_isValue h
  unfold argument
  rw [hv]
  split
  · rename_i heq
    cases heq
    exact absurd rfl hdash
  · rename_i heq
    cases heq
    exact absurd rfl hdash
  · rfl

theorem arguments_value (hv : isValue v = true) (h : r.argument v = .ok r') :
    arguments (v :: rest) r = arguments rest r' := by
  obtain ⟨c, cs, hcs, hdash, -⟩ := exists_of_isValue hv
  refine arguments_cons ?_ h
  rw [hcs]
  intro heq
  cases heq
  exact hdash rfl

end

/-! ## Rows of values -/

/-- What has been read amounts to the row of values, once the last one is checked. -/
structure Settles (r : Reading) (vs : List (Slot × String)) : Prop where
  settle : r.settle = .ok ⟨vs, none, r.wantsInput⟩
  wantsInput : r.wantsInput = true ↔ Slot.input ∉ vs.map Prod.fst

section
variable {r : Reading} {slot : Slot} {v : String} {vs : List (Slot × String)} {wants : Bool}

theorem lookup_eq_none_of_not_mem (h : slot ∉ vs.map Prod.fst) : vs.lookup slot = none := by
  rw [List.lookup_eq_none_iff]
  intro item hitem
  rw [bne_iff_ne]
  rintro rfl
  exact h (List.mem_map_of_mem hitem)

theorem keep_eq_ok (hnew : slot ∉ vs.map Prod.fst) (haccepts : slot.accepts v = true) :
    keep ⟨vs, none, wants⟩ slot v = .ok ⟨vs ++ [(slot, v)], none, wants⟩ := by
  simp [keep, lookup_eq_none_of_not_mem hnew, haccepts]

/-- All values are checked. -/
theorem Settles.checked (hwants : wants = true ↔ Slot.input ∉ vs.map Prod.fst) :
    Settles ⟨vs, none, wants⟩ vs := ⟨rfl, hwants⟩

/-- The last value is not yet checked. -/
theorem Settles.unchecked (hnew : slot ∉ vs.map Prod.fst) (haccepts : slot.accepts v = true)
    (hwants : wants = true ↔ Slot.input ∉ (vs ++ [(slot, v)]).map Prod.fst) :
    Settles ⟨vs, some (slot, some v), wants⟩ (vs ++ [(slot, v)]) :=
  ⟨keep_eq_ok hnew haccepts, hwants⟩

namespace Settles

variable (h : Settles r vs)
include h

/-- The value of an option does not tell whether the input is still missing. -/
theorem wantsInput_append (hslot : slot ≠ .input) :
    r.wantsInput = true ↔ Slot.input ∉ (vs ++ [(slot, v)]).map Prod.fst := by
  simp [h.wantsInput, Ne.symm hslot]

/-- An option with its value attached. -/
theorem attach (hslot : slot ≠ .input) (hnew : slot ∉ vs.map Prod.fst)
    (haccepts : slot.accepts v = true) :
    ∃ r', r.attach slot v = .ok r' ∧ Settles r' (vs ++ [(slot, v)]) := by
  refine ⟨⟨vs ++ [(slot, v)], none, r.wantsInput⟩, ?_, .checked (h.wantsInput_append hslot)⟩
  simp only [Reading.attach, h.settle, bind, Except.bind]
  exact keep_eq_ok hnew haccepts

/-- An option and its value in the next argument. -/
theorem await (hslot : slot ≠ .input) (hnew : slot ∉ vs.map Prod.fst)
    (haccepts : slot.accepts v = true) (hv : isValue v = true) :
    ∃ r₁ r₂, r.await slot = .ok r₁ ∧ r₁.argument v = .ok r₂ ∧ Settles r₂ (vs ++ [(slot, v)]) := by
  refine ⟨⟨vs, some (slot, none), r.wantsInput⟩, ⟨vs, some (slot, some v), r.wantsInput⟩, ?_, ?_,
    .unchecked hnew haccepts (h.wantsInput_append hslot)⟩
  · simp only [Reading.await, h.settle, bind, Except.bind]
    rfl
  · rw [argument_value hv]

theorem plain (hnew : Slot.input ∉ vs.map Prod.fst) (haccepts : Slot.input.accepts v = true)
    (hv : isValue v = true) :
    ∃ r', r.argument v = .ok r' ∧ Settles r' (vs ++ [(.input, v)]) := by
  have hwants : r.wantsInput = true := h.wantsInput.2 hnew
  refine ⟨⟨vs, some (.input, some v), false⟩, ?_, .unchecked hnew haccepts (by simp)⟩
  rw [argument_value hv]
  split
  · -- A value that is awaited cannot be settled.
    rename_i slot hpending
    have hsettle := h.settle
    simp [Reading.settle, hpending] at hsettle
  · simp only [Reading.plain, hwants, h.settle, bind, Except.bind]
    rfl

/-- **One more value is read**, however it is spelled. -/
theorem argument {row : List String} (hrow : Spells (slot, v) row) (hnew : slot ∉ vs.map Prod.fst)
    (haccepts : slot.accepts v = true) (hv : isValue v = true) (rest : List String) :
    ∃ r', arguments (row ++ rest) r = arguments rest r' ∧ Settles r' (vs ++ [(slot, v)]) := by
  cases hrow with
  | plain =>
    obtain ⟨r', hr', hsettles⟩ := h.plain hnew haccepts hv
    exact ⟨r', arguments_value hv hr', hsettles⟩
  | letter hletter =>
    obtain ⟨r', hr', hsettles⟩ := h.attach (ne_input_of_letter? hletter) hnew haccepts
    refine ⟨r', arguments_letter hletter v.toList (by simp) ?_, hsettles⟩
    rw [attachedValue_of_isValue hv]
    exact hr'
  | letterEquals hletter =>
    obtain ⟨r', hr', hsettles⟩ := h.attach (ne_input_of_letter? hletter) hnew haccepts
    refine ⟨r', arguments_letter hletter ('=' :: v.toList) (by simp) ?_, hsettles⟩
    rw [attachedValue, String.ofList_toList]
    exact hr'
  | letterNext hletter =>
    obtain ⟨r₁, r₂, h₁, h₂, hsettles⟩ :=
      h.await (ne_input_of_letter? hletter) hnew haccepts hv
    refine ⟨r₂, ?_, hsettles⟩
    exact (arguments_letter hletter [] (by simp) h₁).trans (arguments_value hv h₂)
  | wordEquals hword =>
    obtain ⟨r', hr', hsettles⟩ := h.attach (ne_input_of_word? hword) hnew haccepts
    refine ⟨r', arguments_word hword (splitEquals_append (long?_of_word? hword).2.1 v.toList)
      (by simp) ?_, hsettles⟩
    rw [Option.map_some, String.ofList_toList]
    exact hr'
  | wordNext hword =>
    obtain ⟨r₁, r₂, h₁, h₂, hsettles⟩ := h.await (ne_input_of_word? hword) hnew haccepts hv
    refine ⟨r₂, ?_, hsettles⟩
    exact (arguments_word hword (splitEquals_of_not_mem (long?_of_word? hword).2.1) (by simp)
      h₁).trans (arguments_value hv h₂)

end Settles

/-- **A row of values is read**, in the order in which it is given. -/
theorem Settles.arguments (h : Settles r vs) {items : List (Slot × String)}
    {rows : List (List String)} (hrows : List.Forall₂ Spells items rows)
    (hnodup : ((vs ++ items).map Prod.fst).Nodup)
    (hitems : ∀ item ∈ items, item.1.accepts item.2 = true ∧ isValue item.2 = true) :
    ∃ r', Reading.arguments rows.flatten r = .ok r' ∧ Settles r' (vs ++ items) := by
  -- What has been read grows along the row, so the invariant is for any values before it.
  induction hrows generalizing r vs with
  | nil => exact ⟨r, rfl, by rwa [List.append_nil]⟩
  | @cons item row items rows hrow _ ih =>
    obtain ⟨slot, v⟩ := item
    obtain ⟨haccepts, hv⟩ := hitems _ List.mem_cons_self
    have hnew : slot ∉ vs.map Prod.fst := by
      rw [List.map_append, List.map_cons] at hnodup
      exact fun hmem => (List.disjoint_of_nodup_append hnodup) hmem List.mem_cons_self
    obtain ⟨r₁, hstep, h₁⟩ := h.argument hrow hnew haccepts hv rows.flatten
    obtain ⟨r', hrun, h'⟩ := ih h₁ (by rwa [List.append_assoc]) fun i hi =>
      hitems i (List.mem_cons_of_mem _ hi)
    refine ⟨r', ?_, by rwa [List.append_assoc] at h'⟩
    rw [List.flatten_cons, hstep, hrun]

end

/-- A value of the environment is taken where the slot has none. -/
theorem environment_eq_ok (r : Reading) {slot : Slot} {value : Option String}
    (haccepts : r.given.lookup slot = none → ∀ v, value = some v → slot.accepts v = true) :
    ∃ given, r.environment slot value = .ok { r with given } ∧
      ∀ other, given.lookup other =
        if other = slot then (r.given.lookup slot).or value else r.given.lookup other := by
  cases hlookup : r.given.lookup slot with
  | some v =>
    refine ⟨r.given, by simp [environment, hlookup], fun other => ?_⟩
    by_cases hother : other = slot <;> simp [hother, hlookup]
  | none =>
    cases value with
    | none =>
      refine ⟨r.given, by simp [environment, hlookup], fun other => ?_⟩
      by_cases hother : other = slot <;> simp [hother, hlookup]
    | some v =>
      refine ⟨r.given ++ [(slot, v)], by simp [environment, keep, hlookup, haccepts], fun other => ?_⟩
      by_cases hother : other = slot
      · simp [hother, hlookup, List.lookup_append]
      · simp [hother, List.lookup_append, List.lookup_cons, beq_false_of_ne hother]

end Reading

/-! ## Command lines -/

/-- In a row with different slots the value of a slot is the one that stands there. -/
theorem lookup_eq_some_of_mem {vs : List (Slot × String)} (hnodup : (vs.map Prod.fst).Nodup)
    {slot : Slot} {v : String} (h : (slot, v) ∈ vs) : vs.lookup slot = some v := by
  induction vs with
  | nil => cases h
  | cons item vs ih =>
    rw [List.map_cons, List.nodup_cons] at hnodup
    rcases List.mem_cons.1 h with rfl | h
    · simp
    · have hne : slot ≠ item.1 := by
        rintro rfl
        exact hnodup.1 (List.mem_map.2 ⟨_, h, rfl⟩)
      rw [List.lookup_cons, beq_false_of_ne hne, ih hnodup.2 h]

/-- **The order of a row does not matter** for the values that are looked up in it. -/
theorem lookup_of_perm {vs ws : List (Slot × String)} (hperm : vs.Perm ws)
    (hnodup : (ws.map Prod.fst).Nodup) (slot : Slot) : vs.lookup slot = ws.lookup slot := by
  have hvs : (vs.map Prod.fst).Nodup := (hperm.map Prod.fst).nodup_iff.2 hnodup
  by_cases hslot : slot ∈ ws.map Prod.fst
  · obtain ⟨⟨_, v⟩, hmem, rfl⟩ := List.mem_map.1 hslot
    rw [lookup_eq_some_of_mem hnodup hmem, lookup_eq_some_of_mem hvs (hperm.mem_iff.2 hmem)]
  · rw [Reading.lookup_eq_none_of_not_mem hslot, Reading.lookup_eq_none_of_not_mem
      fun hmem => hslot ((hperm.map Prod.fst).mem_iff.1 hmem)]

/-- The values that a command line is to give. -/
structure Request where
  input : String
  output : String
  template : Option String
  package : Option String
  format : Option Bool

namespace Request

/-- The values with their slots. -/
def values (q : Request) : List (Slot × String) :=
  [(.input, q.input), (.output, q.output)] ++ (q.template.map (Slot.template, ·)).toList ++
    (q.package.map (Slot.package, ·)).toList ++
    (q.format.map fun b => (Slot.format, if b then "true" else "false")).toList

theorem nodup_values (q : Request) : (q.values.map Prod.fst).Nodup := by
  obtain ⟨input, output, template, package, format⟩ := q
  cases template <;> cases package <;> cases format <;> simp [values]

/-- A value that can be spelled is accepted in every slot of a request. -/
theorem accepts_of_mem_values {q : Request} {slot : Slot} {v : String} (hv : isValue v = true)
    (h : (slot, v) ∈ q.values) : slot.accepts v = true := by
  have hne : v ≠ "" := ne_empty_of_isValue hv
  cases slot with
  | input | output | template => simpa [Slot.accepts] using hne
  | package => rfl
  | format =>
    have hformat : q.format.map (fun b => if b then "true" else "false") = some v := by
      simpa [values] using h
    obtain ⟨b, -, rfl⟩ := Option.map_eq_some_iff.1 hformat
    cases b <;> rfl

theorem lookup_values (q : Request) :
    q.values.lookup .input = some q.input ∧ q.values.lookup .output = some q.output ∧
    q.values.lookup .template = q.template ∧ q.values.lookup .package = q.package ∧
    q.values.lookup .format = q.format.map (fun b => if b then "true" else "false") := by
  obtain ⟨input, output, template, package, format⟩ := q
  cases template <;> cases package <;> cases format <;> exact ⟨rfl, rfl, rfl, rfl, rfl⟩

end Request

theorem nonempty?_of_ne {s : Option String} (h : s ≠ some "") : nonempty? s = s := by
  cases s with
  | none => rfl
  | some v =>
    have hne : v ≠ "" := fun heq => h (congrArg some heq)
    simp [nonempty?, hne]

theorem filter_map_ofString {s : Option String} (h : s ≠ some "") :
    (s.map OsText.ofString).filter (· != []) = s.map OsText.ofString := by
  cases s with
  | none => rfl
  | some v =>
    have hne : OsText.ofString v ≠ [] := mt OsText.ofString_eq_nil_iff.1 (mt (congrArg some) h)
    simp [hne]

/-- The options that values make, by what is looked up in them. -/
theorem optionsOf_eq {given : List (Slot × String)} {input output : String}
    (hinput : given.lookup .input = some input) (houtput : given.lookup .output = some output) :
    optionsOf given = .ok (Options.make input output ((given.lookup Slot.template).map OsText.ofString)
      (given.lookup .package) (given.lookup .format != some "false")) := by
  simp only [optionsOf, hinput, houtput]

/-- The values from which the options are made: those of the request, and for a template or a package
that it lacks those of the environment. -/
theorem exists_given {q : Request} (hvalues : ∀ item ∈ q.values, isValue item.2 = true)
    {items : List (Slot × String)} (hperm : items.Perm q.values) {rows : List (List String)}
    (hrows : List.Forall₂ Spells items rows) {env : Environment}
    (hempty : q.template = none → env.template ≠ some "") :
    ∃ given, parseArguments rows.flatten env = optionsOf given ∧
      ∀ slot, given.lookup slot =
        if slot = .package then q.package.or env.package
        else if slot = .template then q.template.or env.template else q.values.lookup slot := by
  obtain ⟨-, -, htemplate, hpackage, -⟩ := q.lookup_values
  have hitems : (items.map Prod.fst).Nodup := (hperm.map Prod.fst).nodup_iff.2 q.nodup_values
  have hlookup := lookup_of_perm hperm q.nodup_values
  have hstart : Reading.Settles ⟨[], none, true⟩ [] := .checked (by simp)
  obtain ⟨r, hrun, hsettles⟩ := hstart.arguments hrows hitems fun item hitem =>
    have hmem := hperm.mem_iff.1 hitem
    ⟨Request.accepts_of_mem_values (hvalues item hmem) hmem, hvalues item hmem⟩
  have haccepts : items.lookup .template = none → ∀ v, env.template = some v →
      Slot.template.accepts v = true := by
    intro hnone v hv
    rw [hlookup, htemplate] at hnone
    have hne : v ≠ "" := fun heq => hempty hnone (heq ▸ hv)
    simpa [Slot.accepts] using hne
  -- The environment is asked for the template first, then for the package.
  obtain ⟨withTemplate, hfirst, hlookup₁⟩ :=
    Reading.environment_eq_ok ⟨items, none, r.wantsInput⟩ haccepts
  obtain ⟨given, hsecond, hlookup₂⟩ :=
    Reading.environment_eq_ok ⟨withTemplate, none, r.wantsInput⟩
      fun (_ : withTemplate.lookup .package = none) v (_ : env.package = some v) => rfl
  refine ⟨given, ?_, fun slot => ?_⟩
  · rw [List.nil_append] at hsettles
    simp only [parseArguments, hrun, hsettles.settle, hfirst, hsecond, bind, Except.bind]
  · rw [hlookup₂, hlookup₁, hlookup₁, hlookup, hlookup, hlookup, hpackage, htemplate]
    rfl

/-- **A command line means the same however it is written.** The values of a request in any order,
each in any of its spellings, are read as the options with these values. A template or a package that
is not given is taken from the environment, where an empty package counts as none; and the result is
formatted unless something else is asked for. -/
theorem parseArguments_spelled {q : Request} (hvalues : ∀ item ∈ q.values, isValue item.2 = true)
    {items : List (Slot × String)} (hperm : items.Perm q.values) {rows : List (List String)}
    (hrows : List.Forall₂ Spells items rows) {env : Environment}
    (hempty : q.template = none → env.template ≠ some "") :
    parseArguments rows.flatten env = .ok
      { input := q.input
        output := q.output
        template := (q.template.or env.template).map OsText.ofString
        package := q.package.or (nonempty? env.package)
        format := q.format.getD true } := by
  obtain ⟨hinput, houtput, htemplate, hpackage, hformat⟩ := q.lookup_values
  obtain ⟨given, hparse, hlookup⟩ := exists_given hvalues hperm hrows hempty
  have hgiven : ∀ {slot v}, q.values.lookup slot = some v → v ≠ "" :=
    fun h => ne_empty_of_isValue (hvalues _ (mem_of_lookup h))
  have hgivenTemplate : q.template.or env.template ≠ some "" := by
    cases hq : q.template with
    | none => exact hempty hq
    | some v =>
      have hne : v ≠ "" := hgiven (htemplate.trans hq)
      simpa using hne
  have htext : ((q.template.or env.template).map OsText.ofString).filter (· != []) =
      (q.template.or env.template).map OsText.ofString := filter_map_ofString hgivenTemplate
  have hname : nonempty? (q.package.or env.package) = q.package.or (nonempty? env.package) := by
    cases hq : q.package with
    | none => rfl
    | some v =>
      have hne : v ≠ "" := hgiven (hpackage.trans hq)
      exact nonempty?_of_ne (by simpa using hne)
  have hflag : (q.values.lookup .format != some "false") = q.format.getD true := by
    rw [hformat]
    rcases q.format with _ | _ | _ <;> rfl
  rw [hparse, optionsOf_eq ((hlookup .input).trans hinput) ((hlookup .output).trans houtput),
    hlookup .template, hlookup .package, hlookup .format]
  simp only [reduceCtorEq, if_false, if_true, Options.make, htext, hname, hflag]

/-- A request in which only the format and the package are given beside the files. -/
def sampleRequest : Request := ⟨"db/querier.go", "mocks/querier.go", none, some "fakes", some false⟩

/-- The request with the options in another order and in three spellings, where the template comes
from the environment and the package in it is not used. -/
theorem sampleRequest_spelled :
    parseArguments ["--format", "false", "-pfakes", "db/querier.go", "-o=mocks/querier.go"]
      ⟨some "mock.tmpl", some "other"⟩ = .ok
        ⟨"db/querier.go", "mocks/querier.go", some "mock.tmpl", some "fakes", false⟩ := by
  have hperm : [(Slot.format, "false"), (.package, "fakes"), (.input, "db/querier.go"),
      (.output, "mocks/querier.go")].Perm sampleRequest.values := by decide
  have hrows : List.Forall₂ Spells [(Slot.format, "false"), (.package, "fakes"),
      (.input, "db/querier.go"), (.output, "mocks/querier.go")]
      [["--format", "false"], ["-pfakes"], ["db/querier.go"], ["-o=mocks/querier.go"]] :=
    .cons (.wordNext (w := "format") rfl "false") (.cons (.letter (c := 'p') rfl "fakes")
      (.cons (.plain _) (.cons (.letterEquals (c := 'o') rfl "mocks/querier.go") .nil)))
  exact parseArguments_spelled (q := sampleRequest) (by decide) hperm hrows nofun

end Understudy.CommandLine
