import Understudy.Template.Render

/-!
# What statements print

`Prints invoke s sts out`: in the scope `s` the statements `sts` print `out` and leave the scope as
it is. There is one rule for each kind of statement that does so. A loop leaves no trace but the
frame of its turns, in which the items of earlier turns are shadowed and all other names keep
their values (`Scope.inLoop`), so that its rule asks for one turn only. A macro is run in a frame
for its arguments (`eval_invocation`).
-/

set_option autoImplicit false

namespace Understudy.Template

-- The equations of the evaluator are made here once; otherwise all proofs below wait for them at
-- the same time.
section
attribute [local simp] eval exec execAll
end

/-! ## The scope of a turn -/

namespace Scope

/-- The scope in the turn `i` of `n` of a loop, with the items of this turn and of the earlier
ones, the latest first. -/
def inLoop (s : Scope) (target : String) (n i : Nat) (item : Value) (earlier : List Value) :
    Scope :=
  { s with frames := ⟨(item :: earlier).map (target, ·), some (loopValue n i)⟩ :: s.frames }

/-- The scope with frame `f` innermost, but for the name that it binds. -/
theorem find?_cons_of_none {f : Frame} {frames : List Frame} {outer : Nat} {name : String}
    (h : f.find? name = none) :
    find? name ⟨f :: frames, outer⟩ = find? name ⟨frames, outer⟩ := by
  simp only [find?, findIn, h]

/-- The names of a loop's frame are its target only. -/
theorem field?_turns {name target : String} (h : name ≠ target) (items : List Value) :
    Value.field? name (items.map (target, ·)) = none := by
  induction items with
  | nil => rfl
  | cons item items ih => rw [List.map_cons, Value.field?, if_neg (Ne.symm h), ih]

variable {s : Scope} {name target : String} {n i : Nat} {item : Value} {earlier : List Value}

@[simp]
theorem lookup_inLoop_target :
    (s.inLoop target n i item earlier).lookup target = item := by
  simp [lookup, find?, inLoop, findIn, Frame.find?, Value.field?]

@[simp]
theorem lookup_inLoop_loop (h : target ≠ "loop") :
    (s.inLoop target n i item earlier).lookup "loop" = loopValue n i := by
  simp only [lookup, find?, inLoop, findIn, Frame.find?, field?_turns (Ne.symm h) (item :: earlier),
    if_true]

@[simp]
theorem find?_inLoop (h : name ≠ target) (hl : name ≠ "loop") :
    (s.inLoop target n i item earlier).find? name = s.find? name := by
  rw [inLoop, find?_cons_of_none]
  rw [Frame.find?, field?_turns h (item :: earlier), if_neg hl]

@[simp]
theorem lookup_inLoop (h : name ≠ target) (hl : name ≠ "loop") :
    (s.inLoop target n i item earlier).lookup name = s.lookup name := by
  rw [lookup, lookup, find?_inLoop h hl]

@[simp]
theorem depth_inLoop : (s.inLoop target n i item earlier).depth = s.depth + 1 := rfl

/-- The next turn of a loop shadows the item of the last one. -/
theorem bind_inLoop (next : Value) (j : Nat) :
    ((s.inLoop target n i item earlier).setLoop (loopValue n j)).bind target next =
      s.inLoop target n j next (item :: earlier) := rfl

end Scope

/-! ## Expressions -/

section Expressions

variable {invoke : Invoke} {s : Scope} {line : Nat}

/-- The field of a record that a name stands for. -/
theorem eval_attr {base name : String} {fields : List (String × Value)} {v : Value}
    (hb : s.lookup base = .record fields) (hf : Value.field? name fields = some v) :
    eval invoke s (.attr line (.var line base) name) = .ok v := by
  show onLine line ((s.lookup base).attr name) = .ok v
  rw [hb, Value.attr, Value.attr?, hf]
  rfl

/-- A choice between two expressions, by a value that is defined. -/
theorem eval_ifElse {test yes no : Expr} {b : Bool} {v : Value}
    (ht : eval invoke s test = .ok v) (hv : truth v = .ok b) :
    eval invoke s (.ifElse line test yes no) =
      if b then eval invoke s yes else eval invoke s no := by
  simp only [eval, ht, hv, onLine, bind, Except.bind]

/-- Two conditions, of which the second one is read only if the first one holds. -/
theorem eval_and {left right : Expr} {b : Bool} {v : Value}
    (hl : eval invoke s left = .ok v) (hv : truth v = .ok b) :
    eval invoke s (.and line left right) = if b then eval invoke s right else .ok v := by
  simp only [eval, hl, hv, onLine, bind, Except.bind]
  rfl

/-- The opposite of a value that is defined. -/
theorem eval_not {operand : Expr} {b : Bool} {v : Value}
    (ho : eval invoke s operand = .ok v) (hv : truth v = .ok b) :
    eval invoke s (.not line operand) = .ok (.bool !b) := by
  simp only [eval, ho, hv, onLine, bind, Except.bind]
  rfl

/-- Two values that are defined under an operator. -/
theorem eval_binary {op : BinaryOp} {left right : Expr} {l r v : Value}
    (hl : eval invoke s left = .ok l) (hr : eval invoke s right = .ok r)
    (hv : op.run l r = .ok v) : eval invoke s (.binary line op left right) = .ok v := by
  simp only [eval, hl, hr, hv, onLine, bind, Except.bind]

end Expressions

/-! ## Statements -/

/-- The statements print `out` and leave the scope as it is. -/
def Prints (invoke : Invoke) (s : Scope) (sts : List Stmt) (out : String) : Prop :=
  ∃ pieces, execAll invoke sts s = .ok (s, pieces) ∧ String.join pieces = out

namespace Prints

variable {invoke : Invoke} {s : Scope} {sts : List Stmt} {out : String}

theorem nil : Prints invoke s [] "" := ⟨[], rfl, rfl⟩

theorem of_eq {out' : String} (h : Prints invoke s sts out) (ho : out = out') :
    Prints invoke s sts out' := ho ▸ h

/-- Statements after others that have made the scope and have printed nothing. -/
theorem execAll_append {first : List Stmt} {s₀ : Scope}
    (hf : execAll invoke first s₀ = .ok (s, [])) (h : Prints invoke s sts out) :
    ∃ pieces, execAll invoke (first ++ sts) s₀ = .ok (s, pieces) ∧ String.join pieces = out := by
  induction first generalizing s₀ with
  | nil =>
    cases hf
    exact h
  | cons st first ih =>
    simp only [execAll, bind, Except.bind] at hf
    cases hst : exec invoke st s₀ with
    | error e => simp [hst] at hf
    | ok r =>
      obtain ⟨s₁, printed⟩ := r
      cases hrest : execAll invoke first s₁ with
      | error e => simp [hst, hrest] at hf
      | ok r =>
        obtain ⟨s₂, more⟩ := r
        simp only [hst, hrest, pure, Except.pure, Except.ok.injEq, Prod.mk.injEq,
          List.append_eq_nil_iff] at hf
        obtain ⟨rfl, rfl, rfl⟩ := hf
        obtain ⟨pieces, hp, ho⟩ := ih hrest
        refine ⟨pieces, ?_, ho⟩
        simp only [List.cons_append, execAll, hst, hp, bind, Except.bind]
        rfl

/-- A statement that leaves the scope, before others. -/
theorem cons {st : Stmt} {pieces : Pieces} (hst : exec invoke st s = .ok (s, pieces))
    (h : Prints invoke s sts out) : Prints invoke s (st :: sts) (String.join pieces ++ out) := by
  obtain ⟨more, hmore, rfl⟩ := h
  refine ⟨pieces ++ more, ?_, String.join_append⟩
  simp only [execAll, hst, hmore, bind, Except.bind]
  rfl

theorem text {content : String} (h : Prints invoke s sts out) :
    Prints invoke s (.text content :: sts) (content ++ out) := by
  have ht : exec invoke (.text content) s = .ok (s, [content]) := rfl
  simpa using cons ht h

theorem print {e : Expr} {t : String} (he : eval invoke s e = .ok (.text t))
    (h : Prints invoke s sts out) : Prints invoke s (.print e :: sts) (t ++ out) := by
  have ht : exec invoke (.print e) s = .ok (s, [t]) := by
    simp only [exec, he, bind, Except.bind]
    rfl
  simpa using cons ht h

theorem branch {test : Expr} {yes no : List Stmt} {v : Value} {b : Bool} {t : String}
    (hv : eval invoke s test = .ok v) (hb : truth v = .ok b)
    (hyes : Prints invoke s (if b then yes else no) t) (h : Prints invoke s sts out) :
    Prints invoke s (.branch test yes no :: sts) (t ++ out) := by
  obtain ⟨pieces, hp, rfl⟩ := hyes
  refine cons ?_ h
  simp only [exec, hv, hb, onLine, bind, Except.bind]
  cases b <;> exact hp

section Loops

variable {α : Type} {value : α → Value} {line : Nat → α → String} {target : String} {n : Nat}
  {body : List Stmt}

/-- The turns of a loop print their lines one after the other and leave the scope `s` below the
frame of the loop. The scope `t` before a turn is one that the turn makes to its own. -/
theorem turns_run
    (hturn : ∀ i x earlier, Prints invoke (s.inLoop target n i (value x) earlier) body (line i x))
    (xs : List α) (i : Nat) (earlier : List Value) (t : Scope)
    (ht : ∀ j v, (t.setLoop (loopValue n j)).bind target v = s.inLoop target n j v earlier)
    (hpop : t.pop = s) :
    ∃ t' pieces, turns target n (execAll invoke body) i (xs.map value) t = .ok (t', pieces) ∧
      t'.pop = s ∧ String.join pieces = String.join (xs.mapIdx fun j x => line (i + j) x) := by
  induction xs generalizing i earlier t with
  | nil => exact ⟨t, [], rfl, hpop, rfl⟩
  | cons x xs ih =>
    obtain ⟨first, hfirst, hline⟩ := hturn i x earlier
    obtain ⟨t', more, hmore, hpop', hlines⟩ :=
      ih (i + 1) (value x :: earlier) (s.inLoop target n i (value x) earlier)
        (fun j v => Scope.bind_inLoop v j) rfl
    refine ⟨t', first ++ more, ?_, hpop', ?_⟩
    · simp only [List.map_cons, turns, ht, hfirst, hmore, bind, Except.bind]
      rfl
    · simp only [String.join_append, hline, hlines, List.mapIdx_cons, String.join_cons,
        Nat.add_zero, Nat.add_assoc, Nat.add_comm 1]

/-- **A loop prints what its turns print.** -/
theorem forEach {items : Expr} {xs : List α}
    (hitems : eval invoke s items = .ok (.list (xs.map value)))
    (hturn : ∀ i x earlier,
      Prints invoke (s.inLoop target xs.length i (value x) earlier) body (line i x))
    (h : Prints invoke s sts out) :
    Prints invoke s (.forEach target items none body [] :: sts)
      (String.join (xs.mapIdx line) ++ out) := by
  obtain ⟨t, pieces, hrun, hpop, hlines⟩ :=
    turns_run hturn xs 0 [] (s.push none) (fun _ _ => rfl) rfl
  simp only [Nat.zero_add] at hlines
  rw [← hlines]
  refine cons ?_ h
  have hall : loopItems invoke target items none s = .ok (xs.map value) := by
    simp only [loopItems, hitems, bind, Except.bind]
    rfl
  simp only [exec, hall, List.length_map, hrun, hpop, bind, Except.bind]
  cases xs with
  | nil => simp [execAll, pure, Except.pure]
  | cons x xs => rfl

end Loops

end Prints

/-! ## Macros -/

/-- Parameters without defaults are bound as they are. -/
theorem bindAll_plain (invoke : Invoke) (params : List (String × Value)) (frames : List Frame)
    (outer : Nat) :
    bindAll invoke (params.map (·, none)) ⟨⟨[], none⟩ :: frames, outer⟩ =
      .ok ⟨⟨params, none⟩ :: frames, outer⟩ := by
  induction params with
  | nil => rfl
  | cons param params ih =>
    simp only [List.map_cons, bindAll, ih, bind, Except.bind]
    rfl

theorem withDefaults_nil (params : List (String × Value)) :
    withDefaults params [] = params.map (·, none) := by
  simp only [withDefaults, List.length_nil, Nat.sub_zero, List.map_nil, List.append_nil]
  induction params with
  | nil => rfl
  | cons param params ih => simp [List.replicate_succ, ih]

/-- As many arguments as parameters are paired with them. -/
theorem bindParams_plain {params : List String} {vs : List Value}
    (h : params.length = vs.length) : bindParams ⟨vs, []⟩ params = .ok (params.zip vs) := by
  have hdrop : params.drop vs.length = [] := List.drop_eq_nil_of_le (Nat.le_of_eq h)
  simp [bindParams, hdrop, h, Value.field?]

variable {fuel line : Nat} {vs : List Value} {params : List String} {body : List Stmt}
  {frames : List Frame} {out : String}

/-- A macro without defaults prints what its body prints in a frame for its arguments. -/
theorem invokeAt_plain {depth : Nat} (hparams : params.length = vs.length)
    (hdepth : depth + macroDepth + 2 ≤ scopeLimit)
    (hbody : Prints (invokeAt fuel)
      ⟨⟨params.zip vs, none⟩ :: frames, depth + macroDepth + 1 - frames.length⟩ body out) :
    invokeAt (fuel + 1) line depth ⟨params, [], body⟩ frames ⟨vs, []⟩ = .ok out := by
  obtain ⟨pieces, hp, rfl⟩ := hbody
  simp only [invokeAt, bindParams_plain hparams, onLine, Nat.not_lt.2 hdepth, withDefaults_nil,
    bindAll_plain, hp, bind, Except.bind]
  rfl

/-- **A call of a macro gives what its body prints on the arguments.** -/
theorem eval_invocation {s : Scope} {name label : String} {args : List Expr}
    (hargs : evalAll (invokeAt (fuel + 1)) s args = .ok vs)
    (hname : s.find? name = some (.macroDef label params [] body, frames))
    (hparams : params.length = vs.length) (hdepth : s.depth + macroDepth + 2 ≤ scopeLimit)
    (hbody : Prints (invokeAt fuel)
      ⟨⟨params.zip vs, none⟩ :: frames, s.depth + macroDepth + 1 - frames.length⟩ body out) :
    eval (invokeAt (fuel + 1)) s (.call line name args []) = .ok (.text out) := by
  have hmake : Args.make vs [] = ⟨vs, []⟩ := by simp [Args.make]
  simp only [eval, hargs, hname, Value.isUndefined, hmake, callValue,
    invokeAt_plain hparams hdepth hbody, bind, Except.bind]
  rfl

end Understudy.Template
