import Kite.Grammar.Terms

/-!
# The grammar as derivations

The grammar without a parser: which tokens spell which part of a syntax tree.

    program    = statement*
    statement  = scope [;] | name : expression [;] | expression [;] | ;
    scope      = { statement* }
    expression = primary (operator primary)*
    primary    = name | literal | name ( [body (, body)*] ) | ( expression )
               | ( [parameter (, parameter)*] ) -> body | [ [element (, element)*] ] | scope
    body       = expression | scope
    parameter  = name : name
    element    = literal | name

A rule speaks of the primaries and the scopes inside it only through two relations
between tokens and trees, so that it can be read for any meaning of these two.
`DerivesPrimary` and `DerivesScope` are the least relations that are closed under the
rules, and `DerivesProgram` is the derivation of a whole program.
-/

set_option autoImplicit false

namespace Kite.Grammar

/-! ## Lists in brackets -/

section Lists

variable {α : Type}

/-- One or more items with commas between them. -/
inductive Separated (item : List Token → α → Prop) : List Token → List α → Prop where
  | single {tokens : List Token} {value : α} (first : item tokens value) :
      Separated item tokens [value]
  | cons {tokens rest : List Token} {comma : Token} {value : α} {values : List α}
      (first : item tokens value) (separator : comma.kind = .comma)
      (others : Separated item rest values) :
      Separated item (tokens ++ comma :: rest) (value :: values)

/-- Items with commas between them, if there are any, in brackets. -/
inductive Enclosed (shape : Bracket) (item : List Token → α → Prop) :
    List Token → List α → Prop where
  | empty {opener closer : Token} (opens : opener.kind = .opening shape)
      (closes : closer.kind = .closing shape) : Enclosed shape item [opener, closer] []
  | items {opener closer : Token} {tokens : List Token} {values : List α}
      (opens : opener.kind = .opening shape) (items : Separated item tokens values)
      (closes : closer.kind = .closing shape) :
      Enclosed shape item (opener :: tokens ++ [closer]) values

variable {item other : List Token → α → Prop} {tokens : List Token} {values : List α}

theorem Enclosed.ne_nil {shape : Bracket} (enclosed : Enclosed shape item tokens values) :
    tokens ≠ [] := by
  cases enclosed <;> simp

theorem Separated.exists_of_mem (separated : Separated item tokens values) :
    ∀ value ∈ values, ∃ tokens, item tokens value := by
  induction separated with
  | single first => exact List.forall_mem_singleton.mpr ⟨_, first⟩
  | cons first _ _ ih => exact List.forall_mem_cons.mpr ⟨⟨_, first⟩, ih⟩

theorem Enclosed.exists_of_mem {shape : Bracket} (enclosed : Enclosed shape item tokens values) :
    ∀ value ∈ values, ∃ tokens, item tokens value := by
  cases enclosed with
  | empty => simp
  | items _ items _ => exact items.exists_of_mem

/-- Every item stands in tokens of its own among those of the list. -/
theorem Separated.exists_sublist_of_mem (separated : Separated item tokens values) :
    ∀ value ∈ values, ∃ part, part.Sublist tokens ∧ item part value := by
  induction separated with
  | @single tokens _ first => exact List.forall_mem_singleton.mpr ⟨tokens, .refl tokens, first⟩
  | @cons tokens rest comma _ _ first _ _ ih =>
    refine List.forall_mem_cons.mpr ⟨⟨tokens, List.sublist_append_left _ _, first⟩, ?_⟩
    intro value member
    obtain ⟨part, inside, item⟩ := ih value member
    have later : rest.Sublist (tokens ++ comma :: rest) :=
      (List.sublist_cons_self comma rest).trans (List.sublist_append_right _ _)
    exact ⟨part, inside.trans later, item⟩

theorem Enclosed.exists_sublist_of_mem {shape : Bracket}
    (enclosed : Enclosed shape item tokens values) :
    ∀ value ∈ values, ∃ part, part.Sublist tokens ∧ item part value := by
  cases enclosed with
  | empty => simp
  | @items opener closer tokens _ _ items _ =>
    intro value member
    obtain ⟨part, inside, item⟩ := items.exists_sublist_of_mem value member
    have whole : tokens.Sublist (opener :: tokens ++ [closer]) :=
      (List.sublist_append_left _ _).cons opener
    exact ⟨part, inside.trans whole, item⟩

theorem Separated.imp (implies : ∀ tokens value, item tokens value → other tokens value)
    (separated : Separated item tokens values) : Separated other tokens values := by
  induction separated with
  | single first => exact .single (implies _ _ first)
  | cons first separator _ ih => exact .cons (implies _ _ first) separator ih

theorem Enclosed.imp {shape : Bracket}
    (implies : ∀ tokens value, item tokens value → other tokens value)
    (enclosed : Enclosed shape item tokens values) : Enclosed shape other tokens values := by
  cases enclosed with
  | empty opens closes => exact .empty opens closes
  | items opens items closes => exact .items opens (items.imp implies) closes

end Lists

/-! ## Parts without brackets inside -/

/-- Element: a literal or a name. -/
inductive ElementRule : List Token → Element → Prop where
  | literal {token : Token} {value : Literal} (spelled : Literal.ofToken? token = some value) :
      ElementRule [token] (.literal value)
  | name {token : Token} (kind : token.kind = .identifier) :
      ElementRule [token] (.name token.lexeme)

/-- Parameter: a name, a colon and the name of the type. -/
inductive ParameterRule : List Token → Parameter → Prop where
  | annotated {name colon annotation : Token} (nameKind : name.kind = .identifier)
      (colonKind : colon.kind = .colon) (annotationKind : annotation.kind = .identifier) :
      ParameterRule [name, colon, annotation]
        { name := name.lexeme, annotation := some annotation.lexeme }

/-! ## The rules over primaries and scopes -/

section Rules

variable (primary : List Token → Expression → Prop) (scope : List Token → List Statement → Prop)

/-- Expression: primaries with operators between them, grouped to the left. -/
inductive ExpressionRule : List Token → Expression → Prop where
  | primary {tokens : List Token} {expression : Expression} (first : primary tokens expression) :
      ExpressionRule tokens expression
  | binary {leftTokens rightTokens : List Token} {operator : Token} {left right : Expression}
      (first : ExpressionRule leftTokens left)
      (kind : operator.kind = .operator ∨ operator.kind = .hyphen)
      (second : primary rightTokens right) :
      ExpressionRule (leftTokens ++ operator :: rightTokens) (.binary left operator.lexeme right)

/-- Argument of a call or body of a function: an expression or a bare scope. -/
inductive BodyRule : List Token → Body → Prop where
  | expression {tokens : List Token} {expression : Expression}
      (inner : ExpressionRule primary tokens expression) : BodyRule tokens (.expression expression)
  | scope {tokens : List Token} {statements : List Statement} (inner : scope tokens statements) :
      BodyRule tokens (.scope statements)

/-- Primary: a name, a literal, a call, a group, a function, an array or a scope. -/
inductive PrimaryRule : List Token → Expression → Prop where
  | name {token : Token} (kind : token.kind = .identifier) :
      PrimaryRule [token] (.name token.lexeme)
  | literal {token : Token} {value : Literal} (spelled : Literal.ofToken? token = some value) :
      PrimaryRule [token] (.literal value)
  | call {callee : Token} {tokens : List Token} {arguments : List Body}
      (kind : callee.kind = .identifier)
      (inner : Enclosed .round (BodyRule primary scope) tokens arguments) :
      PrimaryRule (callee :: tokens) (.call callee.lexeme arguments)
  | group {opener closer : Token} {tokens : List Token} {expression : Expression}
      (opens : opener.kind = .opening .round) (inner : ExpressionRule primary tokens expression)
      (closes : closer.kind = .closing .round) :
      PrimaryRule (opener :: tokens ++ [closer]) expression
  | function {parameterTokens bodyTokens : List Token} {arrow : Token}
      {parameters : List Parameter} {body : Body}
      (list : Enclosed .round ParameterRule parameterTokens parameters)
      (kind : arrow.kind = .arrow) (inner : BodyRule primary scope bodyTokens body) :
      PrimaryRule (parameterTokens ++ arrow :: bodyTokens) (.function parameters body)
  | array {tokens : List Token} {elements : List Element}
      (list : Enclosed .square ElementRule tokens elements) : PrimaryRule tokens (.array elements)
  | scope {tokens : List Token} {statements : List Statement} (inner : scope tokens statements) :
      PrimaryRule tokens (.scope statements)

/-- The end of a statement: a semicolon or nothing. -/
inductive EndingRule : List Token → Prop where
  | none : EndingRule []
  | semicolon {token : Token} (kind : token.kind = .semicolon) : EndingRule [token]

/-- Statement: a scope, an assignment or an expression with its ending, or a semicolon alone,
which has no node in the tree. -/
inductive StatementRule : List Token → Option Statement → Prop where
  | empty {token : Token} (kind : token.kind = .semicolon) : StatementRule [token] none
  | scope {tokens ending : List Token} {statements : List Statement}
      (inner : scope tokens statements) (ends : EndingRule ending) :
      StatementRule (tokens ++ ending) (some (.scope statements))
  | assignment {target colon : Token} {tokens ending : List Token} {value : Expression}
      (targetKind : target.kind = .identifier) (colonKind : colon.kind = .colon)
      (inner : ExpressionRule primary tokens value) (ends : EndingRule ending) :
      StatementRule (target :: colon :: tokens ++ ending) (some (.assignment target.lexeme value))
  | expression {tokens ending : List Token} {expression : Expression}
      (inner : ExpressionRule primary tokens expression) (ends : EndingRule ending) :
      StatementRule (tokens ++ ending) (some (.expression expression))

/-- Statements one after the other. -/
inductive StatementsRule : List Token → List Statement → Prop where
  | nil : StatementsRule [] []
  | cons {tokens rest : List Token} {statement : Option Statement} {statements : List Statement}
      (first : StatementRule primary scope tokens statement)
      (others : StatementsRule rest statements) :
      StatementsRule (tokens ++ rest) (statement.toList ++ statements)

/-- Scope: statements in curly brackets. -/
inductive ScopeRule : List Token → List Statement → Prop where
  | braces {opener closer : Token} {tokens : List Token} {statements : List Statement}
      (opens : opener.kind = .opening .curly)
      (inner : StatementsRule primary scope tokens statements)
      (closes : closer.kind = .closing .curly) :
      ScopeRule (opener :: tokens ++ [closer]) statements

end Rules

/-! Every rule preserves implications between the relations that it is given. -/

section Implications

variable {primary otherPrimary : List Token → Expression → Prop}
  {scope otherScope : List Token → List Statement → Prop} {tokens : List Token}

theorem ExpressionRule.imp {expression : Expression}
    (primaries : ∀ tokens expression, primary tokens expression → otherPrimary tokens expression)
    (rule : ExpressionRule primary tokens expression) :
    ExpressionRule otherPrimary tokens expression := by
  induction rule with
  | primary first => exact .primary (primaries _ _ first)
  | binary _ kind second ih => exact .binary ih kind (primaries _ _ second)

variable
  (primaries : ∀ tokens expression, primary tokens expression → otherPrimary tokens expression)
  (scopes : ∀ tokens statements, scope tokens statements → otherScope tokens statements)

include primaries scopes

theorem BodyRule.imp {body : Body} (rule : BodyRule primary scope tokens body) :
    BodyRule otherPrimary otherScope tokens body := by
  cases rule with
  | expression inner => exact .expression (inner.imp primaries)
  | scope inner => exact .scope (scopes _ _ inner)

theorem PrimaryRule.imp {expression : Expression}
    (rule : PrimaryRule primary scope tokens expression) :
    PrimaryRule otherPrimary otherScope tokens expression := by
  cases rule with
  | name kind => exact .name kind
  | literal spelled => exact .literal spelled
  | call kind inner => exact .call kind (inner.imp fun _ _ => BodyRule.imp primaries scopes)
  | group opens inner closes => exact .group opens (inner.imp primaries) closes
  | function list kind inner => exact .function list kind (inner.imp primaries scopes)
  | array list => exact .array list
  | scope inner => exact .scope (scopes _ _ inner)

theorem StatementRule.imp {statement : Option Statement}
    (rule : StatementRule primary scope tokens statement) :
    StatementRule otherPrimary otherScope tokens statement := by
  cases rule with
  | empty kind => exact .empty kind
  | scope inner ends => exact .scope (scopes _ _ inner) ends
  | assignment targetKind colonKind inner ends =>
    exact .assignment targetKind colonKind (inner.imp primaries) ends
  | expression inner ends => exact .expression (inner.imp primaries) ends

theorem StatementsRule.imp {statements : List Statement}
    (rule : StatementsRule primary scope tokens statements) :
    StatementsRule otherPrimary otherScope tokens statements := by
  induction rule with
  | nil => exact .nil
  | cons first _ ih => exact .cons (first.imp primaries scopes) ih

theorem ScopeRule.imp {statements : List Statement}
    (rule : ScopeRule primary scope tokens statements) :
    ScopeRule otherPrimary otherScope tokens statements := by
  cases rule with
  | braces opens inner closes => exact .braces opens (inner.imp primaries scopes) closes

end Implications

/-! ## Derivations

A rule is applied to parts that are derived themselves: `primary` and `scope` may stand
for any relations that hold of derived primaries and scopes only. -/

mutual

/-- The tokens derive a primary expression. -/
inductive DerivesPrimary : List Token → Expression → Prop where
  | rule {primary : List Token → Expression → Prop} {scope : List Token → List Statement → Prop}
      {tokens : List Token} {expression : Expression}
      (primaries : ∀ tokens expression, primary tokens expression →
        DerivesPrimary tokens expression)
      (scopes : ∀ tokens statements, scope tokens statements → DerivesScope tokens statements)
      (applied : PrimaryRule primary scope tokens expression) : DerivesPrimary tokens expression

/-- The tokens derive a scope. -/
inductive DerivesScope : List Token → List Statement → Prop where
  | rule {primary : List Token → Expression → Prop} {scope : List Token → List Statement → Prop}
      {tokens : List Token} {statements : List Statement}
      (primaries : ∀ tokens expression, primary tokens expression →
        DerivesPrimary tokens expression)
      (scopes : ∀ tokens statements, scope tokens statements → DerivesScope tokens statements)
      (applied : ScopeRule primary scope tokens statements) : DerivesScope tokens statements

end

/-- A primary is derived exactly if a rule makes it of derived parts. -/
theorem derivesPrimary_iff {tokens : List Token} {expression : Expression} :
    DerivesPrimary tokens expression ↔
      PrimaryRule DerivesPrimary DerivesScope tokens expression := by
  constructor
  · rintro ⟨primaries, scopes, applied⟩
    exact applied.imp primaries scopes
  · intro applied
    exact .rule (fun _ _ derived => derived) (fun _ _ derived => derived) applied

/-- A scope is derived exactly if its rule makes it of derived parts. -/
theorem derivesScope_iff {tokens : List Token} {statements : List Statement} :
    DerivesScope tokens statements ↔ ScopeRule DerivesPrimary DerivesScope tokens statements := by
  constructor
  · rintro ⟨primaries, scopes, applied⟩
    exact applied.imp primaries scopes
  · intro applied
    exact .rule (fun _ _ derived => derived) (fun _ _ derived => derived) applied

/-- The tokens derive a program: its statements, to which the mark of the end is added. -/
def DerivesProgram (tokens : List Token) (program : List Statement) : Prop :=
  ∃ statements, StatementsRule DerivesPrimary DerivesScope tokens statements ∧
    program = statements ++ [.endOfInput]

end Kite.Grammar
