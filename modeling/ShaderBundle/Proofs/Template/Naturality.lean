import ShaderBundle.Proofs.Template.Labels
import ShaderBundle.Template.Reader

/-!
# Reading with other lines

No parser looks at a line: it takes each from a token in front of it, into what it reads or into a complaint. On tokens
with other lines it does the same, and these lines are in the places of the first.

* `Natural`: what one parser does, closed under binds.
* `natural_expression`, `natural_nodes`: all of the grammar.
* `parseTokens_relabel`: all of a template.
-/

namespace ShaderBundle.Template

variable (f : Nat → Nat)

def Token.relabel (t : Token) : Token := { t with line := f t.line }

def Stream.relabel (s : Stream) : Stream :=
  ⟨s.current.relabel f, s.rest.map (Token.relabel f), s.fault.map (Malformed.relabel f)⟩

namespace Parse

/-- On tokens with other lines, the second parser does what the first does on the tokens, with these lines. -/
def Natural {α : Type} (F : α → α) (p p' : Parse α) : Prop :=
  ∀ s : Stream, Corresponds f (fun r : α × Stream => (F r.1, r.2.relabel f)) (p s) (p' (s.relabel f))

variable {f}

namespace Natural

variable {α β : Type} {F : α → α} {G : β → β} {p p' q q' : Parse α} {k k' : α → Parse β}

theorem pure {a a' : α} (h : a' = F a) : Natural f F (Pure.pure a) (Pure.pure a') := by
  subst h
  exact fun _ => rfl

theorem bind (hp : Natural f F p p') (hk : ∀ a, Natural f G (k a) (k' (F a))) : Natural f G (p >>= k) (p' >>= k') :=
  fun s => (hp s).bind fun r => hk r.1 r.2

theorem ite {c : Prop} [Decidable c] (hp : Natural f F p p') (hq : Natural f F q q') :
    Natural f F (if c then p else q) (if c then p' else q') := by
  split
  · exact hp
  · exact hq

theorem map {g g' : α → β} (hp : Natural f F p p') (hg : ∀ a, g' (F a) = G (g a)) : Natural f G (g <$> p) (g' <$> p') :=
  fun s => (hp s).bind fun r => congrArg (fun b => Except.ok (b, r.2.relabel f)) (hg r.1)

theorem fail (line : Nat) (detail : String) : Natural f F (Parse.fail line detail) (Parse.fail (f line) detail) :=
  fun _ => rfl

end Natural

/-! ## Single tokens -/

theorem advance_relabel (s : Stream) : Corresponds f (Stream.relabel f) s.advance (s.relabel f).advance := by
  obtain ⟨t, rest, fault⟩ := s
  cases rest with
  | cons t' rest => rfl
  | nil => cases fault <;> rfl

theorem natural_current : Natural f (Token.relabel f) current current := fun _ => rfl

theorem natural_lexeme : Natural f (fun l => l) lexeme lexeme := fun _ => rfl

theorem natural_line : Natural f f line line := fun _ => rfl

theorem natural_budget : Natural f id budget budget := by
  intro s
  have hlength : (s.relabel f).rest.length + 2 = s.rest.length + 2 := by rw [Stream.relabel, List.length_map]
  change (Except.ok ((s.relabel f).rest.length + 2, s.relabel f) : Except Malformed (Nat × Stream)) = _
  rw [hlength]
  rfl

theorem natural_next : Natural f (Token.relabel f) next next := by
  intro s
  obtain ⟨t, rest, fault⟩ := s
  cases rest with
  | cons t' rest => rfl
  | nil => cases fault <;> rfl

theorem natural_look : Natural f (Token.relabel f) look look := by
  intro s
  obtain ⟨t, rest, fault⟩ := s
  cases rest with
  | cons t' rest => rfl
  | nil => cases fault <;> rfl

theorem natural_expect (description : String) (test : Lexeme → Bool) :
    Natural f (Token.relabel f) (expect description test) (expect description test) :=
  natural_current.bind fun _ => .ite natural_next (.ite (.fail _ _) (.fail _ _))

theorem natural_expectName : Natural f (Prod.map id f) expectName expectName := by
  refine (natural_expect _ _).bind fun ⟨k, l⟩ => ?_
  cases l <;> exact .pure rfl

theorem natural_isOperator (o : Operator) : Natural f id (isOperator o) (isOperator o) :=
  natural_lexeme.bind fun _ => .pure rfl

theorem natural_isWord (word : String) : Natural f id (isWord word) (isWord word) :=
  natural_lexeme.bind fun _ => .pure rfl

theorem natural_skipWord (word : String) : Natural f id (skipWord word) (skipWord word) :=
  (natural_isWord word).bind fun _ => .ite (natural_next.bind fun _ => .pure rfl) (.pure rfl)

theorem natural_skipOperator (o : Operator) : Natural f id (skipOperator o) (skipOperator o) :=
  (natural_isOperator o).bind fun _ => .ite (natural_next.bind fun _ => .pure rfl) (.pure rfl)

/-! ## Lists -/

theorem natural_itemsUntil {α : Type} {F : α → α} (closer : Operator) {item : Parse α} (hitem : Natural f F item item)
    (fuel : Nat) : ∀ items : List α,
      Natural f (List.map F) (itemsUntil closer item fuel items) (itemsUntil closer item fuel (items.map F)) := by
  induction fuel with
  | zero => exact fun items => .pure List.map_reverse.symm
  | succ fuel ih =>
    intro items
    have hend : Natural f (List.map F) (pure items.reverse) (pure (items.map F).reverse) := .pure List.map_reverse.symm
    have hmore : Natural f (List.map F) (item >>= fun a => itemsUntil closer item fuel (a :: items))
        (item >>= fun a => itemsUntil closer item fuel (a :: items.map F)) := hitem.bind fun a => ih (a :: items)
    rw [itemsUntil, itemsUntil, List.isEmpty_map]
    refine (natural_isOperator closer).bind fun _ => .ite hend (.ite ?_ hmore)
    exact (natural_expect _ _).bind fun _ => (natural_isOperator closer).bind fun _ => .ite hend hmore

section
variable {expr : Parse Expr} (hexpr : Natural f (Expr.relabel f) expr expr)
include hexpr

theorem natural_tupleItems (atEnd : Lexeme → Bool) (fuel : Nat) : ∀ (items : List Expr) (isTuple : Bool) (line : Nat),
    Natural f (Prod.map (List.map (Expr.relabel f)) (Prod.map id f)) (tupleItems expr atEnd fuel items isTuple line)
      (tupleItems expr atEnd fuel (items.map (Expr.relabel f)) isTuple (f line)) := by
  have hend (items : List Expr) (isTuple : Bool) (line : Nat) :
      Natural f (Prod.map (List.map (Expr.relabel f)) (Prod.map id f)) (pure (items.reverse, isTuple, line))
        (pure ((items.map (Expr.relabel f)).reverse, isTuple, f line)) := .pure (by rw [← List.map_reverse]; rfl)
  induction fuel with
  | zero => exact hend
  | succ fuel ih =>
    intro items isTuple line
    rw [tupleItems, tupleItems, List.isEmpty_map]
    -- the same follows with a comma in front and without one
    refine (fun hmore => .ite ((natural_expect _ _).bind fun _ => hmore) hmore) ?_
    refine natural_lexeme.bind fun _ => .ite (hend _ _ _) <| hexpr.bind fun e => (natural_isOperator _).bind fun _ => ?_
    exact .ite (natural_line.bind fun l => ih (e :: items) true l) (hend (e :: items) _ _)

theorem natural_tuple (atEnd : Lexeme → Bool) (inParentheses : Bool) :
    Natural f (Expr.relabel f) (tuple expr atEnd inParentheses) (tuple expr atEnd inParentheses) := by
  refine natural_budget.bind fun n => natural_line.bind fun line =>
    (natural_tupleItems hexpr atEnd n [] false line).bind fun ⟨items, isTuple, last⟩ => ?_
  refine .ite (.pure ?_) ?_
  · rw [Expr.relabel, relabelAll_eq]
  · cases items with
    | cons e items => exact .pure rfl
    | nil => exact .ite (.pure rfl) (natural_current.bind fun t => .fail t.line _)

/-! ## Primary expressions -/

omit hexpr in
theorem natural_joinedTexts (fuel : Nat) : ∀ read, Natural f id (joinedTexts fuel read) (joinedTexts fuel read) := by
  induction fuel with
  | zero => exact fun read => .pure rfl
  | succ fuel ih =>
    intro read
    rw [joinedTexts]
    refine natural_lexeme.bind fun l => ?_
    cases l with
    | text s => exact natural_next.bind fun _ => ih _
    | _ => exact .pure rfl

theorem natural_pair : Natural f (Prod.map (Expr.relabel f) (Expr.relabel f)) (pair expr) (pair expr) :=
  hexpr.bind fun _ => (natural_expect _ _).bind fun _ => hexpr.bind fun _ => .pure rfl

theorem natural_primary (cells : Bool) : Natural f (Expr.relabel f) (primary expr cells) (primary expr cells) := by
  refine natural_current.bind fun ⟨k, l⟩ => ?_
  cases l with
  | name word =>
    refine natural_next.bind fun _ => ?_
    cases constantWord? word with
    | some c => exact .pure rfl
    | none =>
      refine (natural_isOperator _).bind fun _ => ?_
      exact .ite (natural_next.bind fun _ => natural_expectName.bind fun _ => .pure rfl) (.pure rfl)
  | text => exact natural_budget.bind fun n => (natural_joinedTexts n _).bind fun _ => .pure rfl
  | integer n => exact natural_next.bind fun _ => .pure rfl
  | real x => exact natural_next.bind fun _ => .pure rfl
  | operator o =>
    cases o with
    | openParen =>
      exact natural_next.bind fun _ => (natural_tuple hexpr _ _).bind fun _ => (natural_expect _ _).bind fun _ => .pure rfl
    | openBracket =>
      refine natural_next.bind fun _ => natural_budget.bind fun n =>
        (natural_itemsUntil _ hexpr n []).bind fun items => (natural_expect _ _).bind fun _ => .pure ?_
      rw [Expr.relabel, relabelAll_eq]
    | openBrace =>
      refine natural_next.bind fun _ => natural_budget.bind fun n =>
        (natural_itemsUntil _ (natural_pair hexpr) n []).bind fun pairs => (natural_expect _ _).bind fun _ => .pure ?_
      rw [Expr.relabel, relabelPairs_eq]
    | _ => exact .fail k _
  | _ => exact .fail k _

/-! ## Subscripts and calls -/

theorem natural_subscript : Natural f (Expr.relabel f) (subscript expr) (subscript expr) := by
  have hmissing : Natural f (relabelOptional f) (pure none) (pure none) := .pure rfl
  have hplaced : Natural f (relabelOptional f) (some <$> expr) (some <$> expr) := hexpr.map fun _ => rfl
  have hbound : Natural f (relabelOptional f)
      (lexeme >>= fun l => if boundMissing l = true then pure none else expr >>= fun e => pure (some e))
      (lexeme >>= fun l => if boundMissing l = true then pure none else expr >>= fun e => pure (some e)) :=
    natural_lexeme.bind fun _ => .ite (.pure rfl) (hexpr.bind fun _ => .pure rfl)
  refine (natural_isOperator _).bind fun _ => .ite (hmissing.bind ?first) (hplaced.bind ?first)
  intro start
  refine (natural_isOperator _).bind fun colon => ?_
  cases start <;> cases colon
  case some.false => exact .pure rfl
  -- without a first bound, or with a colon behind it, a range is read on
  all_goals
    refine natural_next.bind fun _ => (natural_isOperator _).bind fun _ => ?_
    refine (fun hstep => .ite (hmissing.bind hstep) (hbound.bind hstep)) ?_
    intro stop
    refine (natural_skipOperator _).bind fun _ => (fun hend => .ite (hbound.bind hend) (hmissing.bind hend)) ?_
    exact fun step => .pure rfl

theorem natural_subscripts (fuel : Nat) : ∀ read : List Expr,
    Natural f (List.map (Expr.relabel f)) (subscripts expr fuel read) (subscripts expr fuel (read.map (Expr.relabel f))) := by
  induction fuel with
  | zero => exact fun read => .pure List.map_reverse.symm
  | succ fuel ih =>
    intro read
    have hmore : Natural f (List.map (Expr.relabel f)) (subscript expr >>= fun e => subscripts expr fuel (e :: read))
        (subscript expr >>= fun e => subscripts expr fuel (e :: read.map (Expr.relabel f))) :=
      (natural_subscript hexpr).bind fun e => ih (e :: read)
    rw [subscripts, subscripts, List.isEmpty_map]
    exact (natural_isOperator _).bind fun _ => .ite (.pure List.map_reverse.symm)
      (.ite ((natural_expect _ _).bind fun _ => hmore) hmore)

theorem natural_arguments (line fuel : Nat) : ∀ (given : Given) (args : List (ArgKind × Expr)),
    Natural f (List.map (Prod.map id (Expr.relabel f))) (arguments expr line fuel given args)
      (arguments expr (f line) fuel given (args.map (Prod.map id (Expr.relabel f)))) := by
  induction fuel with
  | zero => exact fun given args => .pure List.map_reverse.symm
  | succ fuel ih =>
    intro given args
    have hend : Natural f (List.map (Prod.map id (Expr.relabel f))) (pure args.reverse)
        (pure (args.map (Prod.map id (Expr.relabel f))).reverse) := .pure List.map_reverse.symm
    have hensure (b : Bool) : Natural f id
        (if b = true then pure () else fail line "invalid syntax for function call expression")
        (if b = true then pure () else fail (f line) "invalid syntax for function call expression") :=
      .ite (.pure rfl) (.fail _ _)
    have hmore (given : Given) (kind : ArgKind) : Natural f (List.map (Prod.map id (Expr.relabel f)))
        (expr >>= fun e => arguments expr line fuel given ((kind, e) :: args))
        (expr >>= fun e => arguments expr (f line) fuel given ((kind, e) :: args.map (Prod.map id (Expr.relabel f)))) :=
      hexpr.bind fun e => ih given ((kind, e) :: args)
    rw [arguments, arguments, List.isEmpty_map]
    refine (natural_isOperator _).bind fun _ => .ite hend ?_
    refine (fun hread => .ite ((natural_expect _ _).bind fun _ => (natural_isOperator _).bind fun _ => .ite hend hread) hread) ?_
    refine natural_lexeme.bind fun l => ?_
    split
    · exact (hensure _).bind fun _ => natural_next.bind fun _ => hmore _ _
    · exact (hensure _).bind fun _ => natural_next.bind fun _ => hmore _ _
    · exact natural_look.bind fun _ => .ite
        ((hensure _).bind fun _ => natural_next.bind fun _ => natural_next.bind fun _ => hmore _ _)
        ((hensure _).bind fun _ => hmore _ _)
    · exact (hensure _).bind fun _ => hmore _ _

theorem natural_callArguments : Natural f (relabelArguments f) (callArguments expr) (callArguments expr) :=
  (natural_expect _ _).bind fun t => natural_budget.bind fun n => (natural_arguments hexpr t.line n {} []).bind fun args =>
    (natural_expect _ _).bind fun _ => .pure (relabelArguments_eq args).symm

omit hexpr in
theorem natural_afterDot (e : Expr) : Natural f (Expr.relabel f) (afterDot e) (afterDot (e.relabel f)) := by
  refine natural_next.bind fun ⟨k, l⟩ => ?_
  cases l with
  | name word => exact .pure rfl
  | integer n => exact .pure rfl
  | _ => exact .fail k _

theorem natural_postfixes (fuel : Nat) : ∀ e : Expr,
    Natural f (Expr.relabel f) (postfixes expr fuel e) (postfixes expr fuel (e.relabel f)) := by
  induction fuel with
  | zero => exact fun e => .pure rfl
  | succ fuel ih =>
    intro e
    rw [postfixes, postfixes]
    refine natural_current.bind fun ⟨k, l⟩ => ?_
    cases l with
    | operator o =>
      cases o with
      | dot => exact natural_next.bind fun _ => (natural_afterDot e).bind ih
      | openBracket =>
        refine natural_next.bind fun _ => natural_budget.bind fun n =>
          (natural_subscripts hexpr n []).bind fun read => (natural_expect _ _).bind fun _ => ?_
        -- one index stands for itself, and all others make a tuple
        have htuple := ih (.item e (.tuple read k))
        rw [Expr.relabel, Expr.relabel, relabelAll_eq] at htuple
        rcases read with _ | ⟨i, _ | ⟨j, rest⟩⟩
        · exact htuple
        · exact ih (.item e i)
        · exact htuple
      | openParen => exact (natural_callArguments hexpr).bind fun args => ih (.call e args)
      | _ => exact .pure rfl
    | _ => exact .pure rfl

/-! ## Filters and tests -/

omit hexpr in
theorem natural_dottedRest (fuel : Nat) : ∀ read, Natural f id (dottedRest fuel read) (dottedRest fuel read) := by
  induction fuel with
  | zero => exact fun read => .pure rfl
  | succ fuel ih =>
    intro read
    exact (natural_skipOperator _).bind fun _ => .ite (natural_expectName.bind fun _ => ih _) (.pure rfl)

theorem natural_optionalArguments : Natural f (relabelArguments f) (optionalArguments expr) (optionalArguments expr) :=
  (natural_isOperator _).bind fun _ => .ite (natural_callArguments hexpr) (.pure rfl)

theorem natural_filters (fuel : Nat) : ∀ e : Option Expr,
    Natural f (relabelOptional f) (filters expr fuel e) (filters expr fuel (relabelOptional f e)) := by
  induction fuel with
  | zero => exact fun e => .pure rfl
  | succ fuel ih =>
    intro e
    refine (natural_skipOperator _).bind fun _ => .ite ?_ (.pure rfl)
    exact natural_expectName.bind fun ⟨_, line⟩ => natural_budget.bind fun n => (natural_dottedRest n _).bind fun word =>
      (natural_optionalArguments hexpr).bind fun args => ih (some (.filter e word args line))

theorem natural_test (e : Expr) : Natural f (Expr.relabel f) (test expr e) (test expr (e.relabel f)) := by
  refine natural_next.bind fun t => (natural_skipWord _).bind fun negated => natural_expectName.bind fun _ =>
    natural_budget.bind fun n => (natural_dottedRest n _).bind fun word => ?_
  have hend (args : List (ArgKind × Expr)) : Natural f (Expr.relabel f)
      (pure (if negated = true then .negation (.test e word args t.line) else .test e word args t.line))
      (pure (if negated = true then .negation (.test (e.relabel f) word (relabelArguments f args) (f t.line))
        else .test (e.relabel f) word (relabelArguments f args) (f t.line))) := by
    split <;> exact .pure rfl
  refine (natural_isOperator _).bind fun _ => natural_lexeme.bind fun l => ?_
  refine .ite ((natural_callArguments hexpr).bind hend) (.ite ?_ (hend []))
  refine (natural_isWord _).bind fun _ => (fun hrest => .ite
    (natural_line.bind fun _ => (Natural.fail (F := id) _ _).bind fun _ => hrest) hrest) ?_
  exact natural_budget.bind fun n => (natural_primary hexpr false).bind fun e' =>
    (natural_postfixes hexpr n e').bind fun arg => hend [(.placed, arg)]

theorem natural_filtersAndTests (fuel : Nat) : ∀ e : Expr,
    Natural f (Expr.relabel f) (filtersAndTests expr fuel e) (filtersAndTests expr fuel (e.relabel f)) := by
  induction fuel with
  | zero => exact fun e => .pure rfl
  | succ fuel ih =>
    intro e
    rw [filtersAndTests, filtersAndTests]
    refine natural_lexeme.bind fun l => ?_
    split
    · refine natural_budget.bind fun n => (natural_filters hexpr n (some e)).bind fun filtered => ?_
      cases filtered with
      | some e => exact ih e
      | none => exact .pure rfl
    · exact (natural_callArguments hexpr).bind fun args => ih (.call e args)
    · exact (natural_test hexpr e).bind ih
    · exact .pure rfl

/-! ## Operators -/

theorem natural_unary (fuel : Nat) : ∀ withFilters,
    Natural f (Expr.relabel f) (unary expr withFilters fuel) (unary expr withFilters fuel) := by
  induction fuel with
  | zero => exact fun _ => natural_line.bind fun line => .fail line _
  | succ fuel ih =>
    intro withFilters
    have hend (e : Expr) : Natural f (Expr.relabel f)
        (budget >>= fun n => postfixes expr n e >>= fun e =>
          if withFilters = true then budget >>= fun n => filtersAndTests expr n e else pure e)
        (budget >>= fun n => postfixes expr n (e.relabel f) >>= fun e =>
          if withFilters = true then budget >>= fun n => filtersAndTests expr n e else pure e) :=
      natural_budget.bind fun n => (natural_postfixes hexpr n e).bind fun e =>
        .ite (natural_budget.bind fun n => natural_filtersAndTests hexpr n e) (.pure rfl)
    rw [unary]
    refine natural_lexeme.bind fun l => ?_
    cases l with
    | operator o =>
      cases o with
      | sub => exact natural_next.bind fun _ => (ih false).bind fun e => hend (.negative e)
      | add => exact natural_next.bind fun _ => (ih false).bind fun e => hend (.positive e)
      | _ => exact (natural_primary hexpr false).bind hend
    | _ => exact (natural_primary hexpr false).bind hend

end

section
variable {operand : Parse Expr} (hoperand : Natural f (Expr.relabel f) operand operand)
include hoperand

theorem natural_chain (operation? : Lexeme → Option Arithmetic) (fuel : Nat) : ∀ e : Expr,
    Natural f (Expr.relabel f) (chain operation? operand fuel e) (chain operation? operand fuel (e.relabel f)) := by
  induction fuel with
  | zero => exact fun e => .pure rfl
  | succ fuel ih =>
    intro e
    rw [chain, chain]
    refine natural_lexeme.bind fun l => ?_
    cases operation? l with
    | some op => exact natural_next.bind fun _ => hoperand.bind fun right => ih (.arithmetic op e right)
    | none => exact .pure rfl

theorem natural_chained (operation? : Lexeme → Option Arithmetic) :
    Natural f (Expr.relabel f) (chained operation? operand) (chained operation? operand) :=
  hoperand.bind fun e => natural_budget.bind fun n => natural_chain hoperand operation? n e

theorem natural_joinedBy (word : String) (join : Expr → Expr → Expr)
    (hjoin : ∀ a b, (join a b).relabel f = join (a.relabel f) (b.relabel f)) (fuel : Nat) : ∀ e : Expr,
    Natural f (Expr.relabel f) (joinedBy word join operand fuel e) (joinedBy word join operand fuel (e.relabel f)) := by
  induction fuel with
  | zero => exact fun e => .pure rfl
  | succ fuel ih =>
    intro e
    exact (natural_skipWord _).bind fun _ => .ite (hoperand.bind fun right => hjoin e right ▸ ih (join e right)) (.pure rfl)

end

section
variable {expr : Parse Expr} (hexpr : Natural f (Expr.relabel f) expr expr)
include hexpr

theorem natural_product : Natural f (Expr.relabel f) (product expr) (product expr) :=
  natural_chained (natural_budget.bind fun n => natural_chained (natural_unary hexpr n true) powerOf?) productOf?

theorem natural_concatParts (fuel : Nat) : ∀ parts : List Expr,
    Natural f (List.map (Expr.relabel f)) (concatParts expr fuel parts) (concatParts expr fuel (parts.map (Expr.relabel f))) := by
  induction fuel with
  | zero => exact fun parts => .pure List.map_reverse.symm
  | succ fuel ih =>
    intro parts
    exact (natural_skipOperator _).bind fun _ =>
      .ite ((natural_product hexpr).bind fun e => ih (e :: parts)) (.pure List.map_reverse.symm)

theorem natural_concatenation : Natural f (Expr.relabel f) (concatenation expr) (concatenation expr) := by
  refine (natural_product hexpr).bind fun e => natural_budget.bind fun n =>
    (natural_concatParts hexpr n [e]).bind fun parts => ?_
  have hconcat : Expr.concat (parts.map (Expr.relabel f)) = (Expr.concat parts).relabel f := by
    rw [Expr.relabel, relabelAll_eq]
  rcases parts with _ | ⟨i, _ | ⟨j, rest⟩⟩
  · exact .pure hconcat
  · exact .pure rfl
  · exact .pure hconcat

theorem natural_sum : Natural f (Expr.relabel f) (sum expr) (sum expr) := natural_chained (natural_concatenation hexpr) sumOf?

theorem natural_comparisons (fuel : Nat) : ∀ read : List (Comparison × Expr),
    Natural f (List.map (Prod.map id (Expr.relabel f))) (comparisons expr fuel read)
      (comparisons expr fuel (read.map (Prod.map id (Expr.relabel f)))) := by
  induction fuel with
  | zero => exact fun read => .pure List.map_reverse.symm
  | succ fuel ih =>
    intro read
    have hmore (op : Comparison) : Natural f (List.map (Prod.map id (Expr.relabel f)))
        (sum expr >>= fun e => comparisons expr fuel ((op, e) :: read))
        (sum expr >>= fun e => comparisons expr fuel ((op, e) :: read.map (Prod.map id (Expr.relabel f)))) :=
      (natural_sum hexpr).bind fun e => ih ((op, e) :: read)
    have hend : Natural f (List.map (Prod.map id (Expr.relabel f))) (pure read.reverse)
        (pure (read.map (Prod.map id (Expr.relabel f))).reverse) := .pure List.map_reverse.symm
    rw [comparisons, comparisons]
    refine natural_lexeme.bind fun l => ?_
    cases comparisonOf? l with
    | some op => exact natural_next.bind fun _ => hmore op
    | none =>
      exact (natural_isWord _).bind fun _ => .ite
        (natural_look.bind fun _ => .ite (natural_next.bind fun _ => natural_next.bind fun _ => hmore .notIn) hend) hend

theorem natural_comparison : Natural f (Expr.relabel f) (comparison expr) (comparison expr) := by
  refine (natural_sum hexpr).bind fun e => natural_budget.bind fun n => (natural_comparisons hexpr n []).bind fun rest => ?_
  have hcompare : Expr.compare (e.relabel f) (rest.map (Prod.map id (Expr.relabel f))) = (Expr.compare e rest).relabel f := by
    rw [Expr.relabel, relabelOperands_eq]
  cases rest with
  | nil => exact .pure rfl
  | cons first rest => exact .pure hcompare

theorem natural_negation (fuel : Nat) : Natural f (Expr.relabel f) (negation expr fuel) (negation expr fuel) := by
  induction fuel with
  | zero => exact natural_comparison hexpr
  | succ fuel ih =>
    exact (natural_skipWord _).bind fun _ => .ite (ih.bind fun _ => .pure rfl) (natural_comparison hexpr)

theorem natural_conjunction : Natural f (Expr.relabel f) (conjunction expr) (conjunction expr) := by
  have hoperand : Natural f (Expr.relabel f) (budget >>= negation expr) (budget >>= negation expr) :=
    natural_budget.bind fun n => natural_negation hexpr n
  exact hoperand.bind fun e => natural_budget.bind fun n => natural_joinedBy hoperand "and" .both (fun _ _ => rfl) n e

theorem natural_disjunction : Natural f (Expr.relabel f) (disjunction expr) (disjunction expr) :=
  (natural_conjunction hexpr).bind fun e => natural_budget.bind fun n =>
    natural_joinedBy (natural_conjunction hexpr) "or" .either (fun _ _ => rfl) n e

theorem natural_conditionals (fuel : Nat) : ∀ (e : Expr) (line : Nat),
    Natural f (Expr.relabel f) (conditionals expr fuel e line) (conditionals expr fuel (e.relabel f) (f line)) := by
  induction fuel with
  | zero => exact fun e line => .pure rfl
  | succ fuel ih =>
    intro e line
    refine (natural_skipWord _).bind fun _ => .ite ?_ (.pure rfl)
    refine (natural_disjunction hexpr).bind fun condition => (natural_skipWord _).bind fun _ => ?_
    have hmissing : Natural f (relabelOptional f) (pure none) (pure none) := .pure rfl
    have hplaced : Natural f (relabelOptional f) (some <$> expr) (some <$> expr) := hexpr.map fun _ => rfl
    refine .ite (hplaced.bind ?otherwise) (hmissing.bind ?otherwise)
    exact fun otherwise => natural_line.bind fun next => ih (.conditional condition e otherwise line) next

end

theorem natural_expression (depth : Nat) : Natural f (Expr.relabel f) (expression depth) (expression depth) := by
  induction depth with
  | zero => exact natural_line.bind fun line => .fail line _
  | succ depth ih =>
    exact natural_line.bind fun line => (natural_disjunction ih).bind fun e => natural_budget.bind fun n =>
      natural_conditionals ih n e line

theorem natural_unconditional (depth : Nat) : Natural f (Expr.relabel f) (unconditional depth) (unconditional depth) :=
  natural_disjunction (natural_expression depth)

/-! ## Targets -/

mutual

theorem targetOf?_relabel : ∀ e : Expr, targetOf? (e.relabel f) = (targetOf? e).map (Target.relabel f)
  | .name .. | .cell .. => rfl
  | .tuple items _ => by
    rw [Expr.relabel, targetOf?, targetOf?, targetsOf?_relabel items, Option.map_map, Option.map_map]
    rfl
  | .constant _ | .list _ | .dict _ | .member .. | .item .. | .slice .. | .call .. | .filter .. | .test .. | .negative _
  | .positive _ | .arithmetic .. | .concat _ | .compare .. | .both .. | .either .. | .negation _ | .conditional .. => rfl

theorem targetsOf?_relabel : ∀ es : List Expr, targetsOf? (relabelAll f es) = (targetsOf? es).map (relabelTargets f)
  | [] => rfl
  | e :: es => by
    rw [relabelAll, targetsOf?, targetsOf?, targetOf?_relabel e, targetsOf?_relabel es]
    cases targetOf? e <;> cases targetsOf? es <;> rfl

end

theorem natural_target (depth : Nat) (atEnd : Lexeme → Bool) (cells : Bool) :
    Natural f (Target.relabel f) (target depth atEnd cells) (target depth atEnd cells) := by
  refine natural_line.bind fun line =>
    (natural_tuple (natural_primary (natural_expression depth) cells) atEnd false).bind fun e => ?_
  rw [targetOf?_relabel]
  cases targetOf? e with
  | some t => exact .pure rfl
  | none =>
    -- what it is called and which line is blamed depend on its shape only
    cases e <;> exact .fail _ _

/-! ## Block tags -/

section
variable {body : Body} (hbody : ∀ s tags, Natural f (relabelNodes f) (body s tags) (body s tags))
include hbody

theorem natural_bodyUntil (s : Surrounding) (tags : List String) :
    Natural f (relabelNodes f) (bodyUntil body s tags) (bodyUntil body s tags) :=
  (natural_skipOperator _).bind fun _ => (natural_expect _ _).bind fun _ => (hbody _ _).bind fun _ =>
    natural_current.bind fun t => .ite (.fail t.line _) (.pure rfl)

theorem natural_bodyThrough (s : Surrounding) (tag : String) :
    Natural f (relabelNodes f) (bodyThrough body s tag) (bodyThrough body s tag) :=
  (natural_bodyUntil hbody s _).bind fun _ => natural_next.bind fun _ => .pure rfl

theorem natural_cases (depth : Nat) (s : Surrounding) (fuel : Nat) : ∀ read : List (Expr × List Node),
    Natural f (Node.relabel f) (cases depth body s fuel read)
      (cases depth body s fuel (read.map (Prod.map (Expr.relabel f) (relabelNodes f)))) := by
  have hbranch (read : List (Expr × List Node)) (otherwise : List Node) :
      Node.branch (read.map (Prod.map (Expr.relabel f) (relabelNodes f))).reverse (relabelNodes f otherwise) =
        (Node.branch read.reverse otherwise).relabel f := by
    rw [Node.relabel, relabelCases_eq, List.map_reverse]
  induction fuel with
  | zero => exact fun read => .pure (hbranch read [])
  | succ fuel ih =>
    intro read
    refine (natural_tuple (natural_unconditional depth) _ _).bind fun condition =>
      (natural_bodyUntil hbody s _).bind fun nodes => natural_next.bind fun _ => ?_
    exact .ite (ih ((condition, nodes) :: read)) <|
      .ite ((natural_bodyThrough hbody s _).bind fun otherwise => .pure (hbranch ((condition, nodes) :: read) otherwise))
        (.pure (hbranch ((condition, nodes) :: read) []))

theorem natural_loop (depth : Nat) (s : Surrounding) (line : Nat) :
    Natural f (Node.relabel f) (loop depth body s line) (loop depth body s (f line)) := by
  refine (natural_target depth _ _).bind fun into => (natural_expect _ _).bind fun _ =>
    (natural_tuple (natural_unconditional depth) _ _).bind fun sequence => (natural_skipWord _).bind fun _ => ?_
  have hmissing : Natural f (relabelOptional f) (pure none) (pure none) := .pure rfl
  have hplaced : Natural f (relabelOptional f) (some <$> expression depth) (some <$> expression depth) :=
    (natural_expression depth).map fun _ => rfl
  refine .ite (hplaced.bind ?rest) (hmissing.bind ?rest)
  intro only
  refine (natural_skipWord _).bind fun _ => (natural_bodyUntil hbody s _).bind fun nodes => natural_next.bind fun _ => ?_
  have hnone : Natural f (relabelNodes f) (pure []) (pure []) := .pure rfl
  refine .ite (hnone.bind ?last) ((natural_bodyThrough hbody s _).bind ?last)
  exact fun otherwise => .pure rfl

theorem natural_assignment (depth : Nat) (s : Surrounding) :
    Natural f (Node.relabel f) (assignment depth body s) (assignment depth body s) :=
  (natural_target depth _ _).bind fun _ => (natural_skipOperator _).bind fun _ => .ite
    ((natural_tuple (natural_expression depth) _ _).bind fun _ => .pure rfl)
    (natural_budget.bind fun n => (natural_filters (natural_expression depth) n none).bind fun _ =>
      (natural_bodyThrough hbody s _).bind fun _ => .pure rfl)

omit hbody in
theorem natural_skipWords (first : List String) (second : String) :
    Natural f id (skipWords first second) (skipWords first second) := by
  refine natural_lexeme.bind fun l => ?_
  cases l with
  | name word =>
    exact .ite (natural_look.bind fun _ => .ite (natural_next.bind fun _ => natural_next.bind fun _ => .pure rfl)
      (.pure rfl)) (.pure rfl)
  | _ => exact .pure rfl

omit hbody in
theorem natural_inclusion (depth : Nat) : Natural f (Node.relabel f) (inclusion depth) (inclusion depth) :=
  (natural_expression depth).bind fun _ => (natural_skipWords _ _).bind fun _ => (natural_skipWords _ _).bind fun _ =>
    .pure rfl

theorem natural_statement (depth : Nat) (s : Surrounding) :
    Natural f (Node.relabel f) (statement depth body s) (statement depth body s) := by
  refine natural_current.bind fun ⟨k, l⟩ => ?_
  cases l with
  | name tag =>
    dsimp only [Token.relabel]
    split
    · exact natural_next.bind fun _ => natural_budget.bind fun n => natural_cases hbody depth _ n []
    · exact natural_next.bind fun _ => natural_loop hbody depth _ k
    · exact natural_next.bind fun _ => natural_assignment hbody depth _
    · exact natural_next.bind fun _ => natural_inclusion depth
    · exact natural_next.bind fun _ => (natural_expression depth).bind fun _ => .pure rfl
    · exact .fail k _
  | _ => exact .fail k _

/-! ## Bodies -/

theorem natural_nodes (depth : Nat) (s : Surrounding) (tags : Option (List String)) (fuel : Nat) : ∀ read : List Node,
    Natural f (relabelNodes f) (nodes depth body s tags fuel read)
      (nodes depth body s tags fuel (read.map (Node.relabel f))) := by
  have hend (read : List Node) : Natural f (relabelNodes f) (pure read.reverse) (pure (read.map (Node.relabel f)).reverse) :=
    .pure (by rw [relabelNodes_eq, List.map_reverse])
  induction fuel with
  | zero => exact hend
  | succ fuel ih =>
    intro read
    rw [nodes, nodes]
    refine natural_lexeme.bind fun l => ?_
    split
    · exact natural_next.bind fun _ => ih (.data _ :: read)
    · exact natural_next.bind fun _ => (natural_tuple (natural_expression depth) _ _).bind fun e =>
        (natural_expect _ _).bind fun _ => ih (.print e :: read)
    · exact natural_next.bind fun _ => natural_lexeme.bind fun _ => .ite (hend read) <|
        (natural_statement hbody depth s).bind fun node => (natural_expect _ _).bind fun _ => ih (node :: read)
    · exact hend read

end

theorem natural_bodyAt (depth nesting : Nat) : ∀ s tags,
    Natural f (relabelNodes f) (bodyAt depth nesting s tags) (bodyAt depth nesting s tags) := by
  induction nesting with
  | zero => exact fun s tags => natural_line.bind fun line => .fail line _
  | succ nesting ih =>
    exact fun s tags => natural_budget.bind fun n => natural_nodes ih depth _ tags n []

end Parse

/-! ## Templates -/

def Tokens.relabel (ts : Tokens) : Tokens := ⟨ts.tokens.map (Token.relabel f), ts.fault.map (Malformed.relabel f)⟩

variable {f}

/-- Tokens with other lines are read as the same nodes with these lines, or refused in the same way. The first line is
that of a template without tokens. -/
theorem parseTokens_relabel (hfirst : f 1 = 1) (ts : Tokens) :
    Corresponds f (relabelNodes f) (parseTokens ts) (parseTokens (ts.relabel f)) := by
  have hstart : Stream.relabel f ⟨⟨1, .eof⟩, ts.tokens, ts.fault⟩ =
      ⟨⟨1, .eof⟩, (ts.relabel f).tokens, (ts.relabel f).fault⟩ := by
    rw [Stream.relabel, Token.relabel, hfirst]
    rfl
  have hlength : (ts.relabel f).tokens.length = ts.tokens.length := List.length_map _
  have hread : parseTokens (ts.relabel f) = Stream.advance (Stream.relabel f ⟨⟨1, .eof⟩, ts.tokens, ts.fault⟩) >>= fun s =>
      Parse.bodyAt (ts.tokens.length + 1) (ts.tokens.length + 1) {} none s >>= fun r => .ok r.1 := by
    rw [hstart, parseTokens, hlength]
    rfl
  rw [hread]
  exact (Parse.advance_relabel _).bind fun s => (Parse.natural_bodyAt _ _ {} none s).bind fun _ => rfl

end ShaderBundle.Template
