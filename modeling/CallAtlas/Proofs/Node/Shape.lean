import CallAtlas.Node.Classify

/-!
Classification by the shape of a tree: what stands around a dot, what a capture captures, the guard
of a clause, the value of a binding.  Each of these is looked up without recursion, and the node of
a tree is put together from the nodes of what was found, which is smaller than the tree.
-/

namespace CallAtlas.Node

/-- The nodes of an argument list; what is no list has none. -/
def argNodes : Term → List Node
  | .list items => classifyAll items
  | _ => []

/-- What stands around a dot. -/
def dotOperands? : Term → Option (List Term)
  | .tuple [.text form, _, .list operands] => if form = "." then some operands else none
  | _ => none

/-- What a capture with an arity captures, and the arity. -/
def captureParts? : List Term → Option (Term × Int)
  | [.tuple [.text slash, _, .list [callee, .int arity]]] =>
    if slash = "/" then some (callee, arity) else none
  | _ => none

/-- The node of what is captured.  A captured function is never access to a field. -/
def calleeNode? : Term → Option Node
  | .tuple [head, info, args] =>
    match dotOperands? head with
    | some operands => some (classifyRemote (withoutNoParens info) [] operands)
    | none => some (classify (.tuple [head, info, args]))
  | _ => none

/-- The operands of a guard in a clause's pattern list. -/
def guardOperands? : Term → Option (List Term)
  | .list [.tuple [.text form, _, .list operands]] =>
    if form = "when" then some operands else none
  | _ => none

/-- The value of a binding in a `with` chain; other arguments are values themselves. -/
def boundValue : Term → Term
  | .tuple [.text form, info, .list [pattern, value]] =>
    if form = "<-" then value else .tuple [.text form, info, .list [pattern, value]]
  | arg => arg

/-- The arguments of a node that has this form. -/
def formArgs? (form : Text) : Term → Option (List Term)
  | .tuple [.text name, _, .list items] => if name = form then some items else none
  | _ => none

theorem formArgs?_of_ne_text {head : Term} (hhead : ∀ name, head ≠ .text name) (form : Text)
    (info args : Term) : formArgs? form (.tuple [head, info, args]) = none := by
  unfold formArgs?
  split
  · rename_i hterm
    simp only [Term.tuple.injEq, List.cons.injEq] at hterm
    exact absurd hterm.1 (hhead _)
  · rfl

theorem formArgs?_of_ne_list {args : Term} (hargs : ∀ items, args ≠ .list items) (form : Text)
    (head info : Term) : formArgs? form (.tuple [head, info, args]) = none := by
  unfold formArgs?
  split
  · rename_i hterm
    simp only [Term.tuple.injEq, List.cons.injEq] at hterm
    exact absurd hterm.2.2.1 (hargs _)
  · rfl

theorem dotOperands?_eq (head : Term) : dotOperands? head = formArgs? "." head := rfl

theorem guardOperands?_eq (pattern : Term) :
    guardOperands? pattern =
      match pattern with
      | .list [item] => formArgs? "when" item
      | _ => none := by
  unfold guardOperands? formArgs?
  split
  · rfl
  · rename_i hshape
    split
    · split
      · rename_i name mark operands
        exact absurd rfl (hshape name mark operands)
      · rfl
    · rfl

theorem captureParts?_eq (items : List Term) :
    captureParts? items =
      match items with
      | [item] =>
        match formArgs? "/" item with
        | some [callee, .int arity] => some (callee, arity)
        | _ => none
      | _ => none := by
  unfold captureParts? formArgs?
  split
  · rename_i slash _ _ _
    by_cases hslash : slash = "/" <;> simp [hslash]
  · rename_i hshape
    split
    · split
      · rename_i found hfound
        split at hfound
        · split at hfound
          · obtain rfl := Option.some.inj hfound
            exact absurd rfl (hshape _ _ _ _)
          · contradiction
        · contradiction
      · rfl
    · rfl

theorem boundValue_eq (arg : Term) :
    boundValue arg =
      match formArgs? "<-" arg with
      | some [_, value] => value
      | _ => arg := by
  unfold boundValue formArgs?
  split
  · rename_i form _ _ _
    by_cases hform : form = "<-" <;> simp [hform]
  · rename_i hshape
    split
    · rename_i found hfound
      split at hfound
      · split at hfound
        · obtain rfl := Option.some.inj hfound
          exact absurd rfl (hshape _ _ _ _)
        · contradiction
      · contradiction
    · rfl

theorem classify_applied {head : Term} (htriple : head.isTriple = true) (info args : Term) :
    classify (.tuple [head, info, args]) =
      match dotOperands? head with
      | some operands => classifyRemote info (argNodes args) operands
      | none => .sequence (classify head :: argNodes args) := by
  induction head using Term.tripleCases with
  | triple form dotInfo dotArgs =>
      cases form with
      | text form =>
          cases dotArgs with
          | list operands =>
              by_cases hdot : form = "."
              · cases args <;> simp [classify, dotOperands?, argNodes, hdot]
              · cases args <;> simp [classify, dotOperands?, argNodes, hdot]
          | _ => cases args <;> simp [classify, dotOperands?, argNodes]
      | _ => cases args <;> simp [classify, dotOperands?, argNodes]
  | _ => simp [Term.isTriple] at htriple

theorem classify_formless {head : Term} (htriple : head.isTriple = false)
    (htext : ∀ name, head ≠ .text name) (info args : Term) :
    classify (.tuple [head, info, args]) = .literal := by
  induction head using Term.tripleCases with
  | triple form dotInfo dotArgs => simp [Term.isTriple] at htriple
  | text name => exact absurd rfl (htext name)
  | _ => simp [classify]

theorem classify_alias (info : Term) (items : List Term) :
    classify (.tuple [.text "__aliases__", info, .list items]) = .literal := by
  have hpair : classifyPair "__aliases__" items = none := by
    match items with
    | [_, _] => simp [classifyPair]
    | [] | [_] | _ :: _ :: _ :: _ => rfl
  rw [classify, hpair]
  simp

theorem classify_identifier {args : Term} (hargs : ∀ items, args ≠ .list items) (name : Text)
    (info : Term) :
    classify (.tuple [.text name, info, args]) = .leaf (some name) (Position.ofMeta info) := by
  cases args with
  | list items => exact absurd rfl (hargs items)
  | _ => rw [classify]; simp

/-- A tuple that is no triple is a tuple of the language. -/
theorem classify_group {items : List Term} (hitems : items.length ≠ 3) :
    classify (.tuple items) = .grouping (classifyAll items) := by
  match items with
  | [] | [_] | _ :: _ :: _ :: _ :: _ => simp [classify]
  | [_, _] => simp [classify, classifyAll]
  | [_, _, _] => exact absurd rfl hitems

theorem exists_of_isTriple {term : Term} (h : term.isTriple = true) :
    ∃ head info args, term = .tuple [head, info, args] := by
  induction term using Term.tripleCases with
  | triple head info args => exact ⟨head, info, args, rfl⟩
  | _ => simp [Term.isTriple] at h

theorem calleeNode?_of_not_isTriple {callee : Term} (h : ¬ callee.isTriple = true) :
    calleeNode? callee = none := by
  induction callee using Term.tripleCases with
  | triple head info args => exact absurd rfl h
  | _ => rfl

theorem classifyWith_cons {arg : Term} (hlist : ∀ entries, arg ≠ .list entries)
    (clauses : List Node) (body : Node) (otherwise : Option Node) (rest : List Term) :
    classifyWith clauses body otherwise (arg :: rest) =
      classifyWith (classify (boundValue arg) :: clauses) body otherwise rest := by
  unfold boundValue
  split
  · rw [classifyWith]
    split <;> rfl
  · rename_i hshape
    rw [classifyWith]
    · exact hlist
    · exact hshape

theorem classifyEntry_cons {entry : Term}
    (hentry : ∀ name value, entry ≠ .tuple [.text name, value]) (key : Text) (rest : List Term) :
    classifyEntry key (entry :: rest) = classifyEntry key rest := by
  rw [classifyEntry]
  exact hentry

theorem classifyGuard_eq (pattern : Term) :
    classifyGuard pattern = (guardOperands? pattern).bind classifyLast := by
  unfold guardOperands?
  split
  · rw [classifyGuard]
    split <;> rfl
  · rename_i hshape
    rw [classifyGuard]
    · rfl
    · exact hshape

theorem classifyCapture_slash (info mark callee : Term) (slash : Text) (arity : Int) :
    classifyCapture info [.tuple [.text slash, mark, .list [callee, .int arity]]] =
      if slash = "/" then (calleeNode? callee).bind (captured info arity) else none := by
  rw [← ite_not]
  induction callee using Term.tripleCases with
  | triple head calleeInfo args =>
      by_cases hdotted : ∃ dot dotInfo operands, head = .tuple [.text dot, dotInfo, .list operands]
      · obtain ⟨dot, dotInfo, operands, rfl⟩ := hdotted
        rw [classifyCapture]
        by_cases hdot : dot = "." <;> simp [calleeNode?, dotOperands?, hdot]
      · have hshape : ∀ (dot : Text) (dotInfo : Term) (operands : List Term),
            head ≠ .tuple [.text dot, dotInfo, .list operands] := by
          intro dot dotInfo operands hhead
          exact hdotted ⟨dot, dotInfo, operands, hhead⟩
        rw [classifyCapture, calleeNode?, dotOperands?]
        · rfl
        · exact hshape
        · exact hshape
  | _ =>
      rw [classifyCapture, calleeNode?]
      · rfl
      all_goals simp

theorem classifyCapture_eq (info : Term) (items : List Term) :
    classifyCapture info items =
      (captureParts? items).bind fun (callee, arity) =>
        (calleeNode? callee).bind (captured info arity) := by
  unfold captureParts?
  split
  · rw [classifyCapture_slash]
    split <;> rfl
  · rename_i hshape
    rw [classifyCapture]
    · rfl
    · exact hshape

theorem classifyRemote_many (info : Term) (args : List Node) (first second third : Term)
    (rest : List Term) :
    classifyRemote info args (first :: second :: third :: rest) =
      .sequence (classify first :: classifyAll (second :: third :: rest) ++ args) := by
  -- not by computation: the match asks first whether the second operand is a name
  rw [classifyRemote] <;> simp

theorem classifyRemote_unnamed {name : Term} (hname : ∀ text, name ≠ .text text) (info : Term)
    (args : List Node) (target : Term) :
    classifyRemote info args [target, name] =
      .sequence (classify target :: classifyAll [name] ++ args) := by
  rw [classifyRemote]
  · simp
  · intro text h
    exact hname text (List.cons.inj h).1

theorem classifyRemote_target {target : Term} (htext : ∀ atom, target ≠ .text atom) (info : Term)
    (args : List Node) (name : Text) :
    classifyRemote info args [target, .text name] =
      match Alias.parts none target, Alias.currentSegments target with
      | some segments, _ =>
        .qualified (.alias segments) name args.length args none (Position.ofMeta info)
      | none, some segments =>
        .qualified (.current segments) name args.length args none (Position.ofMeta info)
      | none, none =>
        if args.isEmpty && noParens info then .block [classify target]
        else
          .qualified .dynamic name args.length args (some (classify target))
            (Position.ofMeta info) := by
  rw [classifyRemote]
  · cases Alias.parts none target <;> cases Alias.currentSegments target <;> rfl
  · exact htext

theorem sizeOf_dotOperands {head : Term} {operands : List Term}
    (h : dotOperands? head = some operands) : sizeOf operands < sizeOf head := by
  unfold dotOperands? at h
  split at h
  · split at h
    · obtain rfl := Option.some.inj h
      simp only [List.cons.sizeOf_spec, Term.tuple.sizeOf_spec, Term.list.sizeOf_spec]
      omega
    · contradiction
  · contradiction

theorem sizeOf_captureParts {items : List Term} {callee : Term} {arity : Int}
    (h : captureParts? items = some (callee, arity)) : sizeOf callee < sizeOf items := by
  unfold captureParts? at h
  split at h
  · split at h
    · simp only [Option.some.injEq, Prod.mk.injEq] at h
      obtain ⟨rfl, rfl⟩ := h
      simp only [List.cons.sizeOf_spec, Term.tuple.sizeOf_spec, Term.list.sizeOf_spec]
      omega
    · contradiction
  · contradiction

theorem sizeOf_guardOperands {pattern : Term} {operands : List Term}
    (h : guardOperands? pattern = some operands) : sizeOf operands < sizeOf pattern := by
  unfold guardOperands? at h
  split at h
  · split at h
    · obtain rfl := Option.some.inj h
      simp only [List.cons.sizeOf_spec, Term.tuple.sizeOf_spec, Term.list.sizeOf_spec]
      omega
    · contradiction
  · contradiction

theorem sizeOf_boundValue (arg : Term) : sizeOf (boundValue arg) ≤ sizeOf arg := by
  unfold boundValue
  split
  · split
    · simp only [List.cons.sizeOf_spec, Term.tuple.sizeOf_spec, Term.list.sizeOf_spec]
      omega
    · exact Nat.le_refl _
  · exact Nat.le_refl _

section Below

variable {Q : Term → Prop}

/-- Some property holds for every tree below some size. -/
def Below (Q : Term → Prop) (size : Nat) : Prop := ∀ term : Term, sizeOf term < size → Q term

theorem Below.mono {size other : Nat} (h : Below Q size) (hle : other ≤ size) : Below Q other :=
  fun term hterm => h term (Nat.lt_of_lt_of_le hterm hle)

theorem Below.head {item : Term} {rest : List Term} (h : Below Q (sizeOf (item :: rest))) :
    Q item :=
  h item (by simp only [List.cons.sizeOf_spec]; omega)

theorem Below.tail {item : Term} {rest : List Term} (h : Below Q (sizeOf (item :: rest))) :
    Below Q (sizeOf rest) :=
  h.mono (by simp only [List.cons.sizeOf_spec]; omega)

theorem Below.item {item : Term} {rest : List Term} (h : Below Q (sizeOf (item :: rest))) :
    Below Q (sizeOf item) :=
  h.mono (by simp only [List.cons.sizeOf_spec]; omega)

theorem Below.list {items : List Term} (h : Below Q (sizeOf (Term.list items))) :
    Below Q (sizeOf items) :=
  h.mono (by simp only [Term.list.sizeOf_spec]; omega)

theorem Below.tuple {items : List Term} (h : Below Q (sizeOf (Term.tuple items))) :
    Below Q (sizeOf items) :=
  h.mono (by simp only [Term.tuple.sizeOf_spec]; omega)

theorem Below.boundValue {arg : Term} {rest : List Term} (h : Below Q (sizeOf (arg :: rest))) :
    Q (boundValue arg) := by
  apply h
  have hsize := sizeOf_boundValue arg
  simp only [List.cons.sizeOf_spec]
  omega

theorem Below.dotOperands {head : Term} (h : Below Q (sizeOf head)) {operands : List Term}
    (hdot : dotOperands? head = some operands) : Below Q (sizeOf operands) :=
  h.mono (Nat.le_of_lt (sizeOf_dotOperands hdot))

theorem Below.guardOperands {pattern : Term} (h : Below Q (sizeOf pattern))
    {operands : List Term} (hguard : guardOperands? pattern = some operands) :
    Below Q (sizeOf operands) :=
  h.mono (Nat.le_of_lt (sizeOf_guardOperands hguard))

/-- What holds for a tree if it holds for all smaller ones holds for every tree. -/
theorem forall_of_below (hstep : ∀ term : Term, Below Q (sizeOf term) → Q term) (term : Term) :
    Q term :=
  hstep term fun smaller _ => forall_of_below hstep smaller
termination_by sizeOf term

end Below

theorem lookup_of_unmarked {entries : List Term}
    (h : ∀ entry ∈ entries, marksNoParens entry = false) :
    Term.keyword.lookup "no_parens" entries = .null := by
  induction entries with
  | nil => rfl
  | cons entry rest ih =>
      obtain ⟨hentry, hrest⟩ := List.forall_mem_cons.mp h
      induction entry using Term.tripleCases with
      | pair first second =>
          cases first with
          | text name =>
              have hname : name ≠ "no_parens" := by simpa [marksNoParens] using hentry
              simpa [Term.keyword.lookup, hname] using ih hrest
          | _ => exact ih hrest
      | _ => simpa [Term.keyword.lookup] using ih hrest

/-- No mark is left for a lookup to find. -/
theorem noParens_withoutNoParens (info : Term) : noParens (withoutNoParens info) = false := by
  cases info with
  | list entries =>
      have hunmarked : Term.keyword.lookup "no_parens"
          (entries.filter fun entry => !marksNoParens entry) = .null := by
        apply lookup_of_unmarked
        intro entry hentry
        simpa using (List.mem_filter.mp hentry).2
      simp [noParens, withoutNoParens, Term.keyword, hunmarked]
  | _ => rfl

end CallAtlas.Node
