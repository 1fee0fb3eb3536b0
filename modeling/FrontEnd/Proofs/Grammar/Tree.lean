-- SUMMARY: The grammar of programs as rules over token kinds, its parse trees, and the prefixes of its words.
import FrontEnd.Token.Kind

/-!
# The grammar of programs

    program    -> stmt* EOF
    stmt       -> simplestmt NEWLINE
    simplestmt -> NAME '=' expr | PRINT '(' expr ')'
    expr       -> term ('+' term)*
    term       -> factor ('*' factor)*
    factor     -> '+' factor | '-' factor | UNSIGNEDINT | NAME | '(' expr ')'

The grammar is data: each rule has a body, and a body is put together from
kinds and rules by sequence, choice and repetition. It knows nothing of tokens,
positions or how a program is read.
-/

namespace FrontEnd.Grammar

inductive Rule where
  | program
  | statement
  | simpleStatement
  | expr
  | term
  | factor
deriving DecidableEq, Repr

/-- What may stand in the body of a rule. -/
inductive Form where
  | token (kind : Kind)
  | rule (r : Rule)
  | seq (a b : Form)
  | either (a b : Form)
  /-- The form any number of times. -/
  | many (a : Form)
deriving DecidableEq, Repr

namespace Form

/-- A form in parentheses. -/
def parens (a : Form) : Form :=
  .seq (.token .leftParen) (.seq a (.token .rightParen))

/-- One `a`, and more of them behind a separator each. -/
def chain (separator : Kind) (a : Form) : Form :=
  .seq a (.many (.seq (.token separator) a))

end Form

def Rule.body : Rule → Form
  | program => .seq (.many (.rule statement)) (.token .endOfFile)
  | statement => .seq (.rule simpleStatement) (.token .newline)
  | simpleStatement =>
    .either (.seq (.token .name) (.seq (.token .assign) (.rule expr)))
      (.seq (.token .print) (.parens (.rule expr)))
  | expr => .chain .plus (.rule term)
  | term => .chain .times (.rule factor)
  | factor =>
    .either (.seq (.token .plus) (.rule factor))
      (.either (.seq (.token .minus) (.rule factor))
        (.either (.token .unsignedInt)
          (.either (.token .name) (.parens (.rule expr)))))

-- ---------------------------------------------------------------------------
-- Trees
-- ---------------------------------------------------------------------------

/-- A parse tree of a form. The nodes are the uses of rules; the other
constructors only say how the body of the rule was followed. -/
inductive Tree : Form → Type where
  | leaf (kind : Kind) : Tree (.token kind)
  | node {r : Rule} (t : Tree r.body) : Tree (.rule r)
  | seq {a b : Form} (t : Tree a) (u : Tree b) : Tree (.seq a b)
  | left {a b : Form} (t : Tree a) : Tree (.either a b)
  | right {a b : Form} (t : Tree b) : Tree (.either a b)
  | nil {a : Form} : Tree (.many a)
  | cons {a : Form} (t : Tree a) (u : Tree (.many a)) : Tree (.many a)

namespace Tree

variable {a b : Form} {r : Rule}

/-- The kinds at the leaves, from left to right. -/
def word : {a : Form} → Tree a → List Kind
  | _, leaf kind => [kind]
  | _, node t => t.word
  | _, seq t u => t.word ++ u.word
  | _, left t => t.word
  | _, right t => t.word
  | _, nil => []
  | _, cons t u => t.word ++ u.word

/-- The number of nodes on the longest path from the root. -/
def height : {a : Form} → Tree a → Nat
  | _, leaf _ => 0
  | _, node t => t.height + 1
  | _, seq t u => max t.height u.height
  | _, left t => t.height
  | _, right t => t.height
  | _, nil => 0
  | _, cons t u => max t.height u.height

@[simp] theorem word_leaf (k : Kind) : (leaf k).word = [k] := rfl
@[simp] theorem word_node (t : Tree r.body) : (node t).word = t.word := rfl
@[simp] theorem word_seq (t : Tree a) (u : Tree b) : (seq t u).word = t.word ++ u.word := rfl
@[simp] theorem word_left (t : Tree a) : (left t : Tree (.either a b)).word = t.word := rfl
@[simp] theorem word_right (t : Tree b) : (right t : Tree (.either a b)).word = t.word := rfl
@[simp] theorem word_nil : (nil : Tree (.many a)).word = [] := rfl
@[simp] theorem word_cons (t : Tree a) (u : Tree (.many a)) :
    (cons t u).word = t.word ++ u.word := rfl

@[simp] theorem height_leaf (k : Kind) : (leaf k).height = 0 := rfl
@[simp] theorem height_node (t : Tree r.body) : (node t).height = t.height + 1 := rfl
@[simp] theorem height_seq (t : Tree a) (u : Tree b) :
    (seq t u).height = max t.height u.height := rfl
@[simp] theorem height_left (t : Tree a) : (left t : Tree (.either a b)).height = t.height := rfl
@[simp] theorem height_right (t : Tree b) : (right t : Tree (.either a b)).height = t.height := rfl
@[simp] theorem height_nil : (nil : Tree (.many a)).height = 0 := rfl
@[simp] theorem height_cons (t : Tree a) (u : Tree (.many a)) :
    (cons t u).height = max t.height u.height := rfl

end Tree

-- ---------------------------------------------------------------------------
-- Prefixes
-- ---------------------------------------------------------------------------

theorem Rule.derives (r : Rule) : Nonempty (Tree (.rule r)) := by
  let factor : Tree (.rule .factor) := .node (.right (.right (.right (.left (.leaf .name)))))
  let term : Tree (.rule .term) := .node (.seq factor .nil)
  let expr : Tree (.rule .expr) := .node (.seq term .nil)
  let simpleStatement : Tree (.rule .simpleStatement) :=
    .node (.left (.seq (.leaf .name) (.seq (.leaf .assign) expr)))
  cases r with
  | program => exact ⟨.node (.seq .nil (.leaf .endOfFile))⟩
  | statement => exact ⟨.node (.seq simpleStatement (.leaf .newline))⟩
  | simpleStatement => exact ⟨simpleStatement⟩
  | expr => exact ⟨expr⟩
  | term => exact ⟨term⟩
  | factor => exact ⟨factor⟩

namespace Form

/-- Every form has a tree, so whatever was begun can be completed. -/
theorem derives (a : Form) : Nonempty (Tree a) := by
  induction a with
  | token k => exact ⟨.leaf k⟩
  | rule r => exact r.derives
  | seq a b iha ihb =>
    obtain ⟨t⟩ := iha
    obtain ⟨u⟩ := ihb
    exact ⟨.seq t u⟩
  | either a b iha _ =>
    obtain ⟨t⟩ := iha
    exact ⟨.left t⟩
  | many a _ => exact ⟨.nil⟩

/-- Whether some word of the form begins with `w`. -/
def Viable (a : Form) (w : List Kind) : Prop :=
  ∃ t : Tree a, w <+: t.word

/-- Whether `w` begins with some word of the form. -/
def Begins (a : Form) (w : List Kind) : Prop :=
  ∃ t : Tree a, t.word <+: w

namespace Viable

variable {a b : Form} {r : Rule} {v w : List Kind}

theorem nil (a : Form) : a.Viable [] := by
  obtain ⟨t⟩ := a.derives
  exact ⟨t, List.nil_prefix⟩

theorem of_isPrefix (h : a.Viable w) (hv : v <+: w) : a.Viable v := by
  obtain ⟨t, ht⟩ := h
  exact ⟨t, hv.trans ht⟩

theorem token (k : Kind) : (Form.token k).Viable [k] :=
  ⟨.leaf k, List.prefix_rfl⟩

theorem rule (h : r.body.Viable w) : (Form.rule r).Viable w := by
  obtain ⟨t, ht⟩ := h
  exact ⟨.node t, ht⟩

theorem left (h : a.Viable w) : (Form.either a b).Viable w := by
  obtain ⟨t, ht⟩ := h
  exact ⟨.left t, ht⟩

theorem right (h : b.Viable w) : (Form.either a b).Viable w := by
  obtain ⟨t, ht⟩ := h
  exact ⟨.right t, ht⟩

/-- What begins a word of `a` also begins one of `a` and `b`, because some word of `b` can
follow. -/
theorem seq_left (h : a.Viable w) : (Form.seq a b).Viable w := by
  obtain ⟨t, ht⟩ := h
  obtain ⟨u⟩ := b.derives
  exact ⟨.seq t u, ht.trans (List.prefix_append _ _)⟩

theorem seq_right (t : Tree a) (h : b.Viable w) : (Form.seq a b).Viable (t.word ++ w) := by
  obtain ⟨u, hu⟩ := h
  exact ⟨.seq t u, List.prefix_append_right_inj _ |>.2 hu⟩

end Viable

end Form

end FrontEnd.Grammar
