import Lox.Proofs.Grammar.Derivation

/-!
How far a sequence of kinds has come on the way to an expression.

It is enough to know whether an operand or an operator comes next, and how many groups are open.
Whatever the grammar derives leads from a missing operand to a complete one inside the same groups.
-/

set_option autoImplicit false
set_option relaxedAutoImplicit false

namespace Lox.Grammar

/-- What comes next, and the number of open groups. -/
inductive Stage
  | beforeOperand (groups : Nat)
  | behindOperand (groups : Nat)
  deriving DecidableEq

namespace Stage

def groups : Stage → Nat
  | beforeOperand groups | behindOperand groups => groups

/-- The stage behind one more kind, unless that kind cannot come next. -/
def next? : Stage → Kind → Option Stage
  | beforeOperand groups, kind =>
      if kind ∈ literals then some (behindOperand groups)
      else if kind ∈ signs then some (beforeOperand groups)
      else if kind = .leftParen then some (beforeOperand (groups + 1))
      else none
  | behindOperand groups, kind =>
      if kind ∈ binaryOperators then some (beforeOperand groups)
      else if kind = .rightParen ∧ 0 < groups then some (behindOperand (groups - 1))
      else none

def after? (stage : Stage) (kinds : List Kind) : Option Stage := kinds.foldlM next? stage

theorem after?_cons (stage : Stage) (kind : Kind) (kinds : List Kind) :
    stage.after? (kind :: kinds) = (stage.next? kind).bind (·.after? kinds) := rfl

theorem after?_singleton (stage : Stage) (kind : Kind) :
    stage.after? [kind] = stage.next? kind := by
  rw [after?_cons]
  cases stage.next? kind <;> rfl

theorem after?_append (stage : Stage) (front back : List Kind) :
    stage.after? (front ++ back) = (stage.after? front).bind (·.after? back) :=
  List.foldlM_append

theorem after?_append_of_eq_some {stage middle : Stage} {front : List Kind}
    (reached : stage.after? front = some middle) (back : List Kind) :
    stage.after? (front ++ back) = middle.after? back := by
  rw [after?_append, reached, Option.bind_some]

theorem after?_append_of_stops {stage middle : Stage} {front : List Kind} {kind : Kind}
    (reached : stage.after? front = some middle) (stops : middle.next? kind = none)
    (back : List Kind) : stage.after? (front ++ kind :: back) = none := by
  rw [after?_append_of_eq_some reached, after?_cons, stops, Option.bind_none]

theorem next?_literal {kind : Kind} (literal : kind ∈ literals) (groups : Nat) :
    (beforeOperand groups).next? kind = some (behindOperand groups) := if_pos literal

theorem next?_sign {kind : Kind} (sign : kind ∈ signs) (groups : Nat) :
    (beforeOperand groups).next? kind = some (beforeOperand groups) := by
  rw [next?, if_neg (not_mem_literals sign), if_pos sign]

theorem next?_leftParen (groups : Nat) :
    (beforeOperand groups).next? .leftParen = some (beforeOperand (groups + 1)) := rfl

theorem next?_operator {kind : Kind} (operator : kind ∈ binaryOperators) (groups : Nat) :
    (behindOperand groups).next? kind = some (beforeOperand groups) := if_pos operator

theorem next?_rightParen (groups : Nat) :
    (behindOperand (groups + 1)).next? .rightParen = some (behindOperand groups) := by
  simp [next?, Nonterminal.continuing, Level.operators]

private theorem next?_eof (stage : Stage) : stage.next? .eof = none := by
  cases stage with
  | beforeOperand groups => rfl
  | behindOperand groups => simp [next?, Nonterminal.continuing, Level.operators]

theorem next?_beforeOperand_eq_none {kind : Kind} (literal : kind ∉ literals)
    (opening : kind ≠ .leftParen) (sign : kind ∉ signs) (groups : Nat) :
    (beforeOperand groups).next? kind = none := by
  rw [next?, if_neg literal, if_neg sign, if_neg opening]

theorem next?_behindOperand_eq_none {kind : Kind} {groups : Nat}
    (operator : kind ∉ binaryOperators) (closing : 0 < groups → kind ≠ .rightParen) :
    (behindOperand groups).next? kind = none := by
  rw [next?, if_neg operator, if_neg (fun both => closing both.2 both.1)]

theorem groups_of_next? {stage later : Stage} {kind : Kind} (step : stage.next? kind = some later) :
    kind = .leftParen ∧ later.groups = stage.groups + 1 ∨
      kind = .rightParen ∧ later.groups + 1 = stage.groups ∨
        kind ≠ .leftParen ∧ kind ≠ .rightParen ∧ later.groups = stage.groups := by
  have neither {kinds : List Kind} (member : kind ∈ kinds) (left : .leftParen ∉ kinds)
      (right : .rightParen ∉ kinds) : kind ≠ .leftParen ∧ kind ≠ .rightParen :=
    ⟨fun same => left (same ▸ member), fun same => right (same ▸ member)⟩
  cases stage with
  | beforeOperand outer =>
      rw [next?] at step
      split at step
      · rename_i literal
        obtain rfl := Option.some.inj step
        have kept := neither literal (by decide) (by decide)
        exact .inr (.inr ⟨kept.1, kept.2, rfl⟩)
      · split at step
        · rename_i sign
          obtain rfl := Option.some.inj step
          have kept := neither sign (by decide) (by decide)
          exact .inr (.inr ⟨kept.1, kept.2, rfl⟩)
        · split at step
          · rename_i opening
            obtain rfl := Option.some.inj step
            exact .inl ⟨opening, rfl⟩
          · contradiction
  | behindOperand outer =>
      rw [next?] at step
      split at step
      · rename_i operator
        obtain rfl := Option.some.inj step
        have kept := neither operator (by decide) (by decide)
        exact .inr (.inr ⟨kept.1, kept.2, rfl⟩)
      · split at step
        · rename_i closing
          obtain ⟨paren, positive⟩ := closing
          obtain rfl := Option.some.inj step
          exact .inr (.inl ⟨paren, Nat.sub_add_cancel positive⟩)
        · contradiction

/-- Along any kinds the open groups are the parentheses opened but not closed. -/
theorem groups_of_after? {stage later : Stage} {kinds : List Kind}
    (reached : stage.after? kinds = some later) :
    later.groups + kinds.count .rightParen = stage.groups + kinds.count .leftParen := by
  induction kinds generalizing stage with
  | nil =>
      obtain rfl := Option.some.inj reached
      rfl
  | cons kind kinds ih =>
      rw [after?_cons] at reached
      obtain ⟨middle, step, rest⟩ := Option.bind_eq_some_iff.mp reached
      have others := ih rest
      rcases groups_of_next? step with ⟨rfl, more⟩ | ⟨rfl, fewer⟩ | ⟨left, right, same⟩
      · rw [List.count_cons_self, List.count_cons_of_ne (by decide)]
        omega
      · rw [List.count_cons_self, List.count_cons_of_ne (by decide)]
        omega
      · rw [List.count_cons_of_ne left, List.count_cons_of_ne right]
        omega

private theorem eof_not_mem_of_after? {stage later : Stage} {kinds : List Kind}
    (reached : stage.after? kinds = some later) : .eof ∉ kinds := by
  intro member
  obtain ⟨front, back, rfl⟩ := List.append_of_mem member
  rw [after?_append] at reached
  obtain ⟨middle, -, rest⟩ := Option.bind_eq_some_iff.mp reached
  rw [after?_cons, next?_eof] at rest
  contradiction

theorem kind_ne_eof_of_after? {stage later : Stage} {tokens : List Token}
    (reached : stage.after? (tokens.map Token.kind) = some later) :
    ∀ token ∈ tokens, token.kind ≠ .eof := by
  intro token member eof
  apply eof_not_mem_of_after? reached
  rw [← eof]
  exact List.mem_map_of_mem member

private theorem eq_behindOperand_of_after?_closing {stage : Stage} {missing groups : Nat}
    (reached : stage.after? (List.replicate missing .rightParen) = some (behindOperand groups)) :
    stage = behindOperand (groups + missing) := by
  induction missing generalizing stage with
  | zero => exact Option.some.inj reached
  | succ missing ih =>
      rw [List.replicate_succ, after?_cons] at reached
      obtain ⟨middle, step, rest⟩ := Option.bind_eq_some_iff.mp reached
      obtain rfl := ih rest
      cases stage with
      | beforeOperand outer => contradiction
      | behindOperand outer =>
          rw [next?, if_neg (by decide)] at step
          split at step
          · rename_i closing
            have inner := Stage.behindOperand.inj (Option.some.inj step)
            congr 1
            omega
          · contradiction

end Stage

private theorem after?_continuations {level : Level} {more : List Continuation} (groups : Nat)
    (operators : ∀ next ∈ more, next.operator.kind ∈ level.operators)
    (operands : ∀ next ∈ more, (Stage.beforeOperand groups).after? (next.tokens.map Token.kind) =
      some (.behindOperand groups)) :
    (Stage.behindOperand groups).after? ((more.flatMap Continuation.text).map Token.kind) =
      some (.behindOperand groups) := by
  induction more with
  | nil => rfl
  | cons next more ih =>
      have operator := Level.operators_subset (operators next List.mem_cons_self)
      rw [List.flatMap_cons, List.map_append, Continuation.text, List.map_cons, List.cons_append,
        Stage.after?_cons, Stage.next?_operator operator, Option.bind_some,
        Stage.after?_append_of_eq_some (operands next List.mem_cons_self)]
      exact ih (fun later member => operators later (.tail _ member))
        (fun later member => operands later (.tail _ member))

namespace Derives

theorem after? {symbol : Nonterminal} {tokens : List Token} {tree : Expr}
    (derives : Derives symbol tokens tree) (groups : Nat) :
    (Stage.beforeOperand groups).after? (tokens.map Token.kind) =
      some (.behindOperand groups) := by
  induction derives generalizing groups with
  | joined _ operators _ start operands =>
      rw [List.map_append, Stage.after?_append_of_eq_some (start groups)]
      exact after?_continuations groups operators (fun next member => operands next member groups)
  | signed kind _ rest =>
      rw [List.map_cons, Stage.after?_cons, Stage.next?_sign kind]
      exact rest groups
  | bare _ ih => exact ih groups
  | literal kind =>
      rw [List.map_singleton, Stage.after?_cons, Stage.next?_literal kind]
      rfl
  | group left right _ content =>
      rw [List.map_cons, Stage.after?_cons, left, Stage.next?_leftParen, Option.bind_some,
        List.map_append, Stage.after?_append_of_eq_some (content (groups + 1)), List.map_singleton,
        right, Stage.after?_cons, Stage.next?_rightParen]
      rfl

theorem kind_ne_eof {symbol : Nonterminal} {tokens : List Token} {tree : Expr}
    (derives : Derives symbol tokens tree) : ∀ token ∈ tokens, token.kind ≠ .eof :=
  Stage.kind_ne_eof_of_after? (derives.after? 0)

theorem after?_of_closing {symbol : Nonterminal} {tokens closing : List Token} {tree : Expr}
    {missing : Nat} (derives : Derives symbol (tokens ++ closing) tree)
    (parens : closing.map Token.kind = List.replicate missing .rightParen) (groups : Nat) :
    (Stage.beforeOperand groups).after? (tokens.map Token.kind) =
      some (.behindOperand (groups + missing)) := by
  have whole := derives.after? groups
  rw [List.map_append, parens, Stage.after?_append] at whole
  obtain ⟨middle, reached, rest⟩ := Option.bind_eq_some_iff.mp whole
  rw [reached, Stage.eq_behindOperand_of_after?_closing rest]

end Derives

end Lox.Grammar
