import Understudy.Proofs.Go.Shapes
import Understudy.Text.LetterCase

/-!
# Where the package of a type is written

The pattern of `qualify` comes to a scan for the first letter or digit of ASCII in the text of a
type: the package is written there or nowhere. What the scan passes over (`ScansTo`) stays as it is,
so slices and pointers do not matter. A name in letters of another script is passed over as well:
such a name can be cut in two, and such a qualifier goes unseen.

* `qualify_scan`: what is written, by where the scan stops, and when a second package changes
  nothing.
* `typeText_wrapped`: slices, arrays and pointers stand before the text of what they hold.
* `typeText_name_iff`, `typeText_qualified_iff`: when a name is written as a whole, and when a
  name with a package is copied.
-/

set_option autoImplicit false

namespace Understudy.Go

open Text.Pattern (Matches)

/-! ## Writing a package again -/

section
variable {package cs before after : List Char} {c : Char}

theorem qualifyChars_eq_self (h : ScansTo cs before c after) :
    qualifyChars package cs = cs ↔ ¬ (c.isUpper = true ∧ '.' ∉ after) := by
  rw [qualifyChars_of_scansTo h]
  split
  · rename_i hwritten
    refine iff_of_false (fun heq => ?_) (not_not_intro hwritten)
    have hlength := congrArg List.length (heq.trans h.whole)
    simp only [List.length_append, List.length_cons] at hlength
    omega
  · rename_i hleft
    exact iff_of_true rfl hleft

/-- **A second package changes nothing** if and only if the scan stops in the first one. -/
theorem qualifyChars_stable_iff (h : qualifyChars package cs ≠ cs) :
    (∀ other, qualifyChars other (qualifyChars package cs) = qualifyChars package cs) ↔
      ∃ c ∈ package, isAsciiAlphanumeric c = true := by
  obtain ⟨before, c, after, hscan, hupper, hdot, htext⟩ := exists_scansTo_of_changed h
  rw [htext, List.append_assoc]
  rcases scansTo_or_passed package with ⟨front, d, back, hpackage⟩ | hpassed
  · -- The scan stops in the package, and the dot after the package is behind it.
    have hscan' := (hpackage.extend ('.' :: c :: after)).prepend hscan.passed
    refine iff_of_true (fun other => (qualifyChars_eq_self hscan').2 fun hwritten => ?_)
      ⟨d, ?_, hpackage.stop⟩
    · exact hwritten.2 (by simp)
    · simp [hpackage.whole]
  · -- The scan passes over the package and its dot, and stops where it did before.
    have hname : ScansTo ('.' :: c :: after) ['.'] c after :=
      ⟨rfl, passed_of_all rfl, hscan.stop⟩
    have hscan' := (hname.prepend hpassed).prepend hscan.passed
    refine iff_of_false (fun hstable => ?_) (by simpa using hpassed)
    exact (qualifyChars_eq_self hscan').1 (hstable []) ⟨hupper, hdot⟩

theorem qualifyChars_idempotent (hp : ∃ c ∈ package, isAsciiAlphanumeric c = true) :
    qualifyChars package (qualifyChars package cs) = qualifyChars package cs := by
  by_cases h : qualifyChars package cs = cs
  · rw [h, h]
  · exact (qualifyChars_stable_iff h).2 hp package

end

section
variable {package text : String}

theorem qualify_eq_iff {result : String} :
    qualify package text = result ↔ qualifyChars package.toList text.toList = result.toList := by
  rw [← String.toList_inj, toList_qualify]

theorem qualify_append {wrappers : String}
    (hw : ∀ c ∈ wrappers.toList, isAsciiAlphanumeric c = false) :
    qualify package (wrappers ++ text) = wrappers ++ qualify package text := by
  rw [qualify_eq_iff, String.toList_append, qualifyChars_append hw, String.toList_append,
    toList_qualify]

end

/-- **The package is put in by a scan, and stays where it is.** If the first letter or digit of
ASCII in a text is one of `A` to `Z` and no dot follows it, the package and a dot are written right
before it; every other text stays the same. A text that was changed is not changed again, by this
or any other package, if and only if the package has a letter or digit of ASCII; so writing such a
package twice is writing it once. The groups of the pattern can part at one place only, whatever is
given back: what they hold is the text before that letter, and the text from there on. -/
theorem qualify_scan (package text : String) :
    (∀ before c after, text.toList = before ++ c :: after →
      (∀ d ∈ before, isAsciiAlphanumeric d = false) → isAsciiAlphanumeric c = true →
      (qualify package text).toList =
        if c.isUpper = true ∧ '.' ∉ after then before ++ package.toList ++ '.' :: c :: after
        else text.toList) ∧
    ((∀ c ∈ text.toList, isAsciiAlphanumeric c = false) → qualify package text = text) ∧
    (qualify package text ≠ text →
      ((∀ other, qualify other (qualify package text) = qualify package text) ↔
        ∃ c ∈ package.toList, isAsciiAlphanumeric c = true)) ∧
    ((∃ c ∈ package.toList, isAsciiAlphanumeric c = true) →
      qualify package (qualify package text) = qualify package text) ∧
    (∀ q, Matches needsPackage ⟨[], text.toList, []⟩ q ↔
      ∃ before c after, text.toList = before ++ c :: after ∧
        (∀ d ∈ before, isAsciiAlphanumeric d = false) ∧ c.isUpper = true ∧ '.' ∉ after ∧
        q = ⟨text.toList.reverse, [], [(2, c :: after), (1, before)]⟩) ∧
    ∀ q q', Matches needsPackage ⟨[], text.toList, []⟩ q →
      Matches needsPackage ⟨[], text.toList, []⟩ q' → q = q' := by
  refine ⟨fun before c after hwhole hpassed hstop => ?_, fun hpassed => ?_, fun hchanged => ?_,
    fun hp => ?_, fun q => ?_, fun q q' => matches_needsPackage_unique⟩
  · rw [toList_qualify]
    exact qualifyChars_of_scansTo ⟨hwhole, hpassed, hstop⟩
  · exact qualify_eq_iff.2 (qualifyChars_of_passed hpassed)
  · rw [ne_eq, qualify_eq_iff] at hchanged
    rw [← qualifyChars_stable_iff hchanged]
    constructor
    · intro hstable other
      simpa [qualify_eq_iff, toList_qualify] using hstable (String.ofList other)
    · intro hstable other
      rw [qualify_eq_iff, toList_qualify]
      exact hstable other.toList
  · rw [qualify_eq_iff, toList_qualify]
    exact qualifyChars_idempotent hp
  · rw [matches_needsPackage]
    constructor
    · rintro ⟨before, c, after, hscan, hc, hdot, rfl⟩
      exact ⟨before, c, after, hscan.whole, hscan.passed, hc, hdot, rfl⟩
    · rintro ⟨before, c, after, hwhole, hpassed, hc, hdot, rfl⟩
      exact ⟨before, c, after, ⟨hwhole, hpassed, isAsciiAlphanumeric_of_isUpper hc⟩, hc, hdot, rfl⟩

/-- A name behind two brackets, first with a package that is seen again and then with one that is
not. -/
theorem qualify_scan_sample :
    qualify "db" "[]User" = "[]db.User" ∧ qualify "pq" (qualify "db" "[]User") = "[]db.User" ∧
      qualify "_" "[]User" = "[]_.User" ∧ qualify "pq" (qualify "_" "[]User") ≠ "[]_.User" := by
  have hdb := qualify_scan "db" "[]User"
  have hblank := qualify_scan "_" "[]User"
  have hname : ∀ d ∈ ['[', ']'], isAsciiAlphanumeric d = false := passed_of_all rfl
  have htext : qualify "db" "[]User" = "[]db.User" :=
    String.toList_inj.1 (hdb.1 ['[', ']'] 'U' ['s', 'e', 'r'] rfl hname rfl)
  have htext' : qualify "_" "[]User" = "[]_.User" :=
    String.toList_inj.1 (hblank.1 ['[', ']'] 'U' ['s', 'e', 'r'] rfl hname rfl)
  refine ⟨htext, ?_, htext', ?_⟩
  · rw [(hdb.2.2.1 (by rw [htext]; decide)).2 ⟨'d', by decide, rfl⟩, htext]
  · rw [htext']
    decide

/-! ## Slices, arrays and pointers -/

namespace TypeShape

/-- The text of the slices and pointers around a type. -/
def wrappers : TypeShape → String
  | slice e => "[]" ++ e.wrappers
  | pointer t => "*" ++ t.wrappers
  | _ => ""

/-- The type below its slices and pointers. -/
def core : TypeShape → TypeShape
  | slice e => e.core
  | pointer t => t.core
  | s => s

theorem text_eq (s : TypeShape) : s.text = s.wrappers ++ s.core.text := by
  induction s with
  | named t => simp [text, wrappers, core]
  | slice e ih => rw [text, ih, wrappers, core, String.append_assoc]
  | pointer t ih => rw [text, ih, wrappers, core, String.append_assoc]
  | unsupported k => simp [text, wrappers, core]

theorem wrappers_passed (s : TypeShape) :
    ∀ c ∈ s.wrappers.toList, isAsciiAlphanumeric c = false := by
  induction s with
  | named _ | unsupported _ => simp [wrappers]
  | slice e ih =>
    have htext : (slice e).wrappers.toList = '[' :: ']' :: e.wrappers.toList := by simp [wrappers]
    rw [htext]
    exact List.forall_mem_cons.2 ⟨rfl, List.forall_mem_cons.2 ⟨rfl, ih⟩⟩
  | pointer t ih =>
    have htext : (pointer t).wrappers.toList = '*' :: t.wrappers.toList := by simp [wrappers]
    rw [htext]
    exact List.forall_mem_cons.2 ⟨rfl, ih⟩

theorem core_of_unsupported? {s : TypeShape} {kind : Kind} (h : s.unsupported? = some kind) :
    s.core = unsupported kind := by
  induction s with
  | named _ => cases h
  | slice _ ih | pointer _ ih => exact ih h
  | unsupported k =>
    cases h
    rfl

/-- **The package is put into what stands below the slices and pointers.** -/
theorem qualify_text (package : String) (s : TypeShape) :
    qualify package s.text = s.wrappers ++ qualify package s.core.text := by
  rw [text_eq, qualify_append s.wrappers_passed]

end TypeShape

section
variable {package : String}

theorem qualify_sentinel (kind : String) :
    qualify package ("<error_unhandled_" ++ kind ++ ">") = "<error_unhandled_" ++ kind ++ ">" := by
  -- The scan stops right behind the bracket, at a small letter.
  have hscan : ScansTo ("<error_unhandled_" ++ kind ++ ">").toList ['<'] 'e'
      ("rror_unhandled_".toList ++ (kind.toList ++ ['>'])) := by
    refine ⟨?_, passed_of_all rfl, rfl⟩
    rw [String.toList_append, String.toList_append, List.append_assoc]
    rfl
  exact qualify_eq_iff.2 ((qualifyChars_eq_self hscan).2 fun h => absurd h.1 (by decide))

/-- **A sentinel stays what it is** below its slices and pointers. -/
theorem TypeShape.qualify_unsupported {s : TypeShape} {kind : Kind}
    (h : s.unsupported? = some kind) :
    qualify package s.text = s.wrappers ++ TypeShape.sentinel kind := by
  have hsentinel : qualify package (sentinel kind) = sentinel kind := qualify_sentinel kind.name
  rw [qualify_text, core_of_unsupported? h, text, hsentinel]

namespace Node
variable {n : Node}

theorem typeText_element {e : Node} (hk : n.kind = .sliceType ∨ n.kind = .arrayType)
    (he : n.child? .element = some e) : typeText package n = "[]" ++ typeText package e := by
  rw [typeText, shape_element hk he, TypeShape.text, qualify_append (passed_of_all rfl), typeText]

theorem typeText_target {t : Node} (hk : n.kind = .pointerType) (ht : n.named.head? = some t) :
    typeText package n = "*" ++ typeText package t := by
  rw [typeText, shape_target hk ht, TypeShape.text, qualify_append (passed_of_all rfl), typeText]

end Node

end

/-- **The package in the text of a type is the package in the text of what it is made of.** For
every type, the package is put into the part below its slices, arrays and pointers. So the text of
a slice or array is two brackets and the text of its element, and the text of a pointer is a star
and the text of its first named part. Below them, a sentinel stays what it is, whatever kind it
names. -/
theorem typeText_wrapped (package : String) :
    (∀ n : Node, typeText package n =
      n.shape.wrappers ++ qualify package n.shape.core.text) ∧
    (∀ n t : Node, n.kind = .sliceType ∨ n.kind = .arrayType → n.child? .element = some t →
      typeText package n = "[]" ++ typeText package t) ∧
    (∀ n t : Node, n.kind = .pointerType → n.named.head? = some t →
      typeText package n = "*" ++ typeText package t) ∧
    (∀ (n : Node) (kind : Kind), n.shape.unsupported? = some kind →
      typeText package n = n.shape.wrappers ++ ("<error_unhandled_" ++ kind.name ++ ">")) ∧
    ∀ (s : TypeShape) (kind : String),
      qualify package (s.wrappers ++ ("<error_unhandled_" ++ kind ++ ">")) =
        s.wrappers ++ ("<error_unhandled_" ++ kind ++ ">") := by
  refine ⟨fun n => n.shape.qualify_text package, fun n t hk ht => Node.typeText_element hk ht,
    fun n t hk ht => Node.typeText_target hk ht, fun n kind hkind => ?_, fun s kind => ?_⟩
  · exact TypeShape.qualify_unsupported hkind
  · rw [qualify_append s.wrappers_passed, qualify_sentinel]

/-- A slice of pointers to the given type. -/
def pointerSlice (target : Node) : Node :=
  .tree none .sliceType [.leaf none .mark "[", .leaf none .mark "]",
    .tree (some .element) .pointerType [.leaf none .mark "*", target]]

/-- A slice of pointers to channels, and of pointers to a type of the package. -/
theorem pointerSlice_texts :
    typeText "bar" (pointerSlice (.tree none .channelType [])) =
      "[]*<error_unhandled_channel_type>" ∧
    typeText "bar" (pointerSlice (.leaf none .typeIdentifier "Foo")) = "[]*bar.Foo" := by
  obtain ⟨-, hslice, hpointer, hsentinel, -⟩ := typeText_wrapped "bar"
  refine ⟨hsentinel _ .channelType rfl, ?_⟩
  rw [hslice _ _ (.inl rfl) rfl, hpointer _ _ rfl rfl]
  decide

/-! ## Names -/

/-- Whether the text has the characters of a name: letters and digits of ASCII, the low line, and
any characters beyond ASCII, since letters of every script may stand in a name. -/
def isWord (x : String) : Bool :=
  x ≠ "" && x.toList.all fun c => isAsciiAlphanumeric c || c == '_' || 128 ≤ c.toNat

/-- Whether a name is exported: it begins with an uppercase letter, of whatever script. -/
def isExportedName (x : String) : Bool := x.toList.head?.any Text.isUpper

theorem not_mem_of_isWord {x : String} (h : isWord x = true) {d : Char}
    (hd : (isAsciiAlphanumeric d || d == '_' || decide (128 ≤ d.toNat)) = false) :
    d ∉ x.toList := by
  intro hmem
  have hall := List.all_eq_true.1 (Bool.and_eq_true_iff.1 h).2 d hmem
  rw [hd] at hall
  cases hall

theorem ne_append_of_isWord {x : String} (h : isWord x = true) {d : Char} (hd : d ∉ x.toList)
    (ws us : List Char) : ws ++ [d] ≠ us ++ x.toList := by
  intro heq
  have hne : x.toList ≠ [] := by
    have hx := of_decide_eq_true (Bool.and_eq_true_iff.1 h).1
    rwa [ne_eq, String.toList_eq_nil_iff]
  have hlast := congrArg List.getLast? heq
  rw [List.getLast?_concat, List.getLast?_append_of_ne_nil _ hne] at hlast
  exact hd (List.mem_of_getLast? hlast.symm)

theorem isAlpha_of_isUpper {c : Char} (h : c.isUpper = true) : c.isAlpha = true :=
  isAlpha_iff.2 (.inl (isUpper_iff.1 h))

theorem isAsciiAlphanumeric_of_isAlpha {c : Char} (h : c.isAlpha = true) :
    isAsciiAlphanumeric c = true := by
  rw [isAsciiAlphanumeric, Char.isAlphanum, h, Bool.true_or]

theorem text_isUpper_eq {c : Char} (hc : isAsciiAlphanumeric c = true) :
    Text.isUpper c = c.isUpper := by
  have hcode : c.toNat ≤ 122 := by
    rw [isAsciiAlphanumeric, Char.isAlphanum, Bool.or_eq_true, isAlpha_iff, isDigit_iff] at hc
    omega
  obtain ⟨rest, hrest⟩ : ∃ rest, Text.LetterCase.uppercase = (0x41, 0x5a) :: (0xc0, 0xd6) :: rest :=
    ⟨_, rfl⟩
  have hfar : c.toNat < 0xc0 := by omega
  rw [Bool.eq_iff_iff, isUpper_iff, Text.isUpper, hrest, Text.inRanges_cons, Text.inRanges_cons,
    if_pos hfar, Bool.or_false]
  split
  · exact iff_of_false (by simp) (by omega)
  · rw [decide_eq_true_iff]
    omega

section
variable {package cs : List Char}

theorem qualifyChars_eq_self_of_dotless (hdot : '.' ∉ cs) : qualifyChars package cs = cs ↔
    ∀ c, cs.find? isAsciiAlphanumeric = some c → c.isUpper = false := by
  rcases scansTo_or_passed cs with ⟨before, c, after, hscan⟩ | hpassed
  · have hafter : '.' ∉ after := fun h => hdot (by simp [hscan.whole, h])
    rw [qualifyChars_eq_self hscan, hscan.find?_eq]
    simp [hafter]
  · rw [find?_eq_none_of_passed hpassed]
    exact iff_of_true (qualifyChars_of_passed hpassed) (by simp)

/-- The package is written in front of a text without dots exactly if it begins with one of `A` to
`Z`. -/
theorem qualifyChars_eq_whole (hdot : '.' ∉ cs) : qualifyChars package cs = package ++ '.' :: cs ↔
    ∃ c, cs.head? = some c ∧ c.isUpper = true := by
  constructor
  · intro heq
    have hchanged : qualifyChars package cs ≠ cs := by
      intro hself
      have hlength := congrArg List.length (heq.symm.trans hself)
      simp only [List.length_append, List.length_cons] at hlength
      omega
    obtain ⟨before, c, after, hscan, hupper, -, htext⟩ := exists_scansTo_of_changed hchanged
    -- Before the stop nothing is left: its last character would be the dot after the package.
    rcases List.eq_nil_or_concat before with rfl | ⟨front, d, rfl⟩
    · exact ⟨c, by rw [hscan.whole]; rfl, hupper⟩
    · have hsame : (front ++ [d] ++ package ++ ['.']) ++ c :: after =
          (package ++ '.' :: front ++ [d]) ++ c :: after := by
        have hboth := htext.symm.trans heq
        rw [hscan.whole] at hboth
        simpa using hboth
      have hlast := congrArg List.getLast? (List.append_cancel_right hsame)
      rw [List.getLast?_concat, List.getLast?_concat] at hlast
      cases hlast
      refine absurd ?_ hdot
      rw [hscan.whole]
      simp
  · rintro ⟨c, hhead, hupper⟩
    obtain ⟨after, rfl⟩ := List.head?_eq_some_iff.1 hhead
    have hscan : ScansTo (c :: after) [] c after :=
      ⟨rfl, passed_of_all rfl, isAsciiAlphanumeric_of_isAlpha (isAlpha_of_isUpper hupper)⟩
    rw [qualifyChars_of_scansTo hscan, if_pos ⟨hupper, fun h => hdot (.tail _ h)⟩]
    rfl

end

/-- **A name is written as it should be**, as a whole with the package if it is exported and alone
if it is not, exactly if it begins with a letter of ASCII, or it is not exported and the first
letter or digit of ASCII in it is none of `A` to `Z`. -/
theorem qualify_name_iff (package : String) {x : String} (hdot : '.' ∉ x.toList) :
    qualify package x = (if isExportedName x then package ++ "." ++ x else x) ↔
      x.toList.head?.any Char.isAlpha = true ∨ isExportedName x = false ∧
        ∀ c, x.toList.find? isAsciiAlphanumeric = some c → c.isUpper = false := by
  rw [qualify_eq_iff]
  cases hexported : isExportedName x with
  | true =>
    have hwhole : (package ++ "." ++ x).toList = package.toList ++ '.' :: x.toList := by simp
    obtain ⟨c, hhead, hupper⟩ := (Option.any_eq_true _ _).1 hexported
    have hletter : c.isUpper = true ↔ c.isAlpha = true :=
      ⟨isAlpha_of_isUpper, fun h => text_isUpper_eq (isAsciiAlphanumeric_of_isAlpha h) ▸ hupper⟩
    rw [if_pos rfl, hwhole, qualifyChars_eq_whole hdot, hhead]
    simp [hletter]
  | false =>
    rw [if_neg Bool.false_ne_true, qualifyChars_eq_self_of_dotless hdot]
    refine ⟨fun h => .inr ⟨rfl, h⟩, fun h => h.elim (fun hfirst => ?_) And.right⟩
    -- A letter of ASCII at the beginning is where the scan stops.
    obtain ⟨c, hhead, hletter⟩ := (Option.any_eq_true _ _).1 hfirst
    obtain ⟨rest, hx⟩ := List.head?_eq_some_iff.1 hhead
    have hstop := isAsciiAlphanumeric_of_isAlpha hletter
    have hsmall : c.isUpper = false := by
      rw [← text_isUpper_eq hstop]
      simpa [isExportedName, hhead] using hexported
    rw [hx, List.find?_cons_of_pos hstop]
    rintro d ⟨⟩
    exact hsmall

/-- **A name with a package is copied** exactly if its qualifier has a letter or digit of ASCII, or
the first one in the name itself is none of `A` to `Z`. -/
theorem qualify_qualified_iff (package q : String) {x : String} (hdot : '.' ∉ x.toList) :
    qualify package (q ++ "." ++ x) = q ++ "." ++ x ↔
      (∃ c ∈ q.toList, isAsciiAlphanumeric c = true) ∨
        ∀ c, x.toList.find? isAsciiAlphanumeric = some c → c.isUpper = false := by
  have htext : (q ++ "." ++ x).toList = q.toList ++ '.' :: x.toList := by simp
  rw [qualify_eq_iff, htext]
  rcases scansTo_or_passed q.toList with ⟨before, c, after, hscan⟩ | hpassed
  · have hscan' := hscan.extend ('.' :: x.toList)
    refine iff_of_true ((qualifyChars_eq_self hscan').2 fun hwritten => ?_)
      (.inl ⟨c, ?_, hscan.stop⟩)
    · exact hwritten.2 (by simp)
    · simp [hscan.whole]
  · have hunseen : ¬ ∃ c ∈ q.toList, isAsciiAlphanumeric c = true := by simpa using hpassed
    rw [qualifyChars_append hpassed, qualifyChars_cons rfl, List.append_cancel_left_eq,
      List.cons_inj_right, qualifyChars_eq_self_of_dotless hdot, or_iff_right hunseen]

/-! ## Names below slices, arrays and pointers -/

namespace Node

/-- The type is a stack of slices, arrays and pointers, written as `wrappers`, over `core`. Comments
do not count. -/
inductive Wraps : Node → String → Node → Prop
  | refl (n : Node) : Wraps n "" n
  | element {n e core : Node} {wrappers : String} (hk : n.kind = .sliceType ∨ n.kind = .arrayType)
    (he : n.child? .element = some e) (h : Wraps e wrappers core) : Wraps n ("[]" ++ wrappers) core
  | target {n t core : Node} {wrappers : String} (hk : n.kind = .pointerType)
    (ht : n.target? = some t) (h : Wraps t wrappers core) : Wraps n ("*" ++ wrappers) core

section
variable {package wrappers : String} {n core : Node}

/-- A comment before the target of a pointer is seen at the end of the text. -/
theorem HasCommentedPointer.exists_text (h : n.HasCommentedPointer) (package : String) :
    ∃ ws, (typeText package n).toList = ws ++ ['>'] := by
  refine ⟨n.shape.wrappers.toList ++ "<error_unhandled_comment".toList, ?_⟩
  rw [typeText, TypeShape.qualify_unsupported h.unsupported?_shape, String.toList_append,
    List.append_assoc]
  rfl

theorem Wraps.typeText_eq (h : n.Wraps wrappers core) (hc : ¬ n.HasCommentedPointer) :
    typeText package n = wrappers ++ typeText package core := by
  induction h with
  | refl n => rw [String.empty_append]
  | element hk he _ ih =>
    rw [typeText_element hk he, ih fun h => hc (.element hk he h), String.append_assoc]
  | @target n t _ _ hk ht _ ih =>
    obtain ⟨first, hfirst⟩ : ∃ first, n.named.head? = some first := by
      cases hnamed : n.named with
      | nil => rw [target?, hnamed] at ht; cases ht
      | cons first _ => exact ⟨first, rfl⟩
    have hcode : first.isCode = true := decide_eq_true fun hk' => hc (.here hk hfirst hk')
    cases (target?_eq_head? hfirst hcode).symm.trans ht
    rw [typeText_target hk hfirst, ih fun h => hc (.target hk hfirst h), String.append_assoc]

/-- A text that ends in a name is the text of the stack exactly if no comment is in the way and the
core has all of it but the wrappers. -/
theorem Wraps.typeText_eq_iff (h : n.Wraps wrappers core) {front x : String}
    (hx : isWord x = true) : typeText package n = wrappers ++ (front ++ x) ↔
      ¬ n.HasCommentedPointer ∧ typeText package core = front ++ x := by
  by_cases hc : n.HasCommentedPointer
  · refine iff_of_false (fun heq => ?_) fun hboth => hboth.1 hc
    obtain ⟨ws, htext⟩ := hc.exists_text package
    rw [heq, ← String.append_assoc, String.toList_append] at htext
    exact ne_append_of_isWord hx (not_mem_of_isWord hx (by decide)) _ _ htext.symm
  · rw [h.typeText_eq hc, and_iff_right hc, ← String.toList_inj, ← String.toList_inj,
      String.toList_append, String.toList_append, List.append_cancel_left_eq]

end

end Node

/-- **A bare name is written as a whole or not at all** exactly where the letters of ASCII in it
decide. For every type that is a name under slices, arrays and pointers, its text is the wrappers
with the package, a dot and the name behind them if the name is exported, and with the name alone
if it is not, if and only if no comment stands before the target of a pointer, and the name begins
with a letter of ASCII, or it is not exported and the first letter or digit of ASCII in it, if
there is one, is none of `A` to `Z`. -/
theorem typeText_name_iff (package : String) {n core : Node} {wrappers : String}
    (hw : n.Wraps wrappers core) (hk : core.kind = .typeIdentifier)
    (hx : isWord core.text = true) :
    typeText package n = wrappers ++
        (if isExportedName core.text then package ++ "." ++ core.text else core.text) ↔
      ¬ n.HasCommentedPointer ∧ (core.text.toList.head?.any Char.isAlpha = true ∨
        isExportedName core.text = false ∧
          ∀ c, core.text.toList.find? isAsciiAlphanumeric = some c → c.isUpper = false) := by
  have hfront : (if isExportedName core.text then package ++ "." ++ core.text else core.text) =
      (if isExportedName core.text then package ++ "." else "") ++ core.text := by
    split
    · rfl
    · rw [String.empty_append]
  have hcore : typeText package core = qualify package core.text := by
    rw [typeText, (Node.HasShape.name hk).eq_shape, TypeShape.text]
  rw [← qualify_name_iff package (not_mem_of_isWord hx (by decide)), hfront, hw.typeText_eq_iff hx,
    hcore]

theorem pointerSlice_wraps {target : Node} (hnamed : target.isNamed = true)
    (hcode : target.isCode = true) : (pointerSlice target).Wraps "[]*" target := by
  have htarget : (Node.tree (some .element) .pointerType [.leaf none .mark "*", target]).target? =
      some target := by
    rw [Node.target?, Node.named, Node.parts, List.filter_cons_of_neg (by decide),
      List.filter_cons_of_pos hnamed, List.find?_cons_of_pos hcode]
  exact .element (.inl rfl) rfl (.target rfl htarget (.refl target))

/-- A slice of pointers to a name that goes on in letters beyond ASCII. -/
theorem pointerSlice_name :
    typeText "bar" (pointerSlice (.leaf none .typeIdentifier "Foo_é")) = "[]*bar.Foo_é" :=
  (typeText_name_iff "bar" (pointerSlice_wraps rfl rfl) rfl (by decide)).2
    ⟨fun h => absurd h.unsupported?_shape (by decide), .inl (by decide)⟩

/-- The type of a variable that is declared with the given text. -/
def variableType (type : String) : Option Node :=
  (parse ("package p\n\nvar v " ++ type ++ "\n")).bind firstVariableType

/-- **Letters beyond ASCII mislead the scan**: a name that is not exported is cut in two where its
first capital of ASCII stands, and an exported name is left without its package. -/
theorem accentedName_cut :
    (variableType "éFoo").map (fun t => (t.kind, t.text, typeText "bar" t)) =
      some (.typeIdentifier, "éFoo", "ébar.Foo") ∧ isExportedName "éFoo" = false ∧
    (variableType "Éclair").map (fun t => (t.kind, t.text, typeText "bar" t)) =
      some (.typeIdentifier, "Éclair", "Éclair") ∧ isExportedName "Éclair" = true := by
  decide +kernel

/-- **A name with a package is copied** exactly where the letters of ASCII in it show the package.
For every type that is a name with a package under slices, arrays and pointers, its text is the
wrappers with the package, a dot and the name of the type behind them if and only if no comment
stands before the target of a pointer, and the package has a letter or digit of ASCII, or the first
one in the name, if there is one, is none of `A` to `Z`. -/
theorem typeText_qualified_iff (package : String) {n core qualifier name : Node} {wrappers : String}
    (hw : n.Wraps wrappers core) (hk : core.kind = .qualifiedType)
    (hq : core.child? .package = some qualifier) (hn : core.child? .name = some name)
    (hx : isWord name.text = true) :
    typeText package n = wrappers ++ (qualifier.text ++ "." ++ name.text) ↔
      ¬ n.HasCommentedPointer ∧ ((∃ c ∈ qualifier.text.toList, isAsciiAlphanumeric c = true) ∨
        ∀ c, name.text.toList.find? isAsciiAlphanumeric = some c → c.isUpper = false) := by
  have hcore : typeText package core = qualify package (qualifier.text ++ "." ++ name.text) := by
    rw [typeText, (Node.HasShape.qualified hk hq hn).eq_shape, TypeShape.text]
  rw [← qualify_qualified_iff package _ (not_mem_of_isWord hx (by decide)), hw.typeText_eq_iff hx,
    hcore]

/-- A type of a package whose name has one letter of ASCII. -/
def accentedQualified : Node :=
  .tree none .qualifiedType [.leaf (some .package) .packageIdentifier "été", .leaf none .mark ".",
    .leaf (some .name) .typeIdentifier "Foo"]

theorem pointerSlice_qualified :
    typeText "bar" (pointerSlice accentedQualified) = "[]*été.Foo" := by
  have hq : accentedQualified.child? .package =
      some (.leaf (some .package) .packageIdentifier "été") := rfl
  have hn : accentedQualified.child? .name = some (.leaf (some .name) .typeIdentifier "Foo") := rfl
  exact (typeText_qualified_iff "bar" (pointerSlice_wraps rfl rfl) rfl hq hn (by decide)).2
    ⟨fun h => absurd h.unsupported?_shape (by decide), .inl ⟨'t', by decide, rfl⟩⟩

/-- **A package in letters beyond ASCII goes unseen**, and another one is written behind it. -/
theorem accentedQualifier_unseen :
    (variableType "é.Foo").map (fun t => (t.kind, (t.child? .package).map Node.text,
      (t.child? .name).map Node.text, typeText "bar" t)) =
      some (.qualifiedType, some "é", some "Foo", "é.bar.Foo") := by
  decide +kernel

end Understudy.Go
