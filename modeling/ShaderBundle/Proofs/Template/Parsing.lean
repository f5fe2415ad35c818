import ShaderBundle.Proofs.Template.Lexing
import ShaderBundle.Template.Reader

/-!
# The nodes of a draft

Text gives a node of its own, and a tag with a name one that prints the name: no level of the grammar finds an operator
between the name and what ends it. A tag with something else in it is refused as soon as it is reached.

* `Idle`: a level of the grammar that adds nothing to its operand where an expression ends.
* `expression_word`, `fails_refused`: the expression in a tag.
* `Draft.Lexed.parseTokens`: the nodes of a draft.
-/

namespace ShaderBundle.Template

namespace Parse

/-! ## Failing and succeeding -/

/-- At a stream, a parser fails. -/
def Fails {α : Type} (p : Parse α) (s : Stream) : Prop := ∃ m, p s = .error m

section
variable {α β : Type} {p : Parse α} {f : α → Parse β} {s s' : Stream} {a : α}

theorem bind_apply (p : Parse α) (f : α → Parse β) (s : Stream) : (p >>= f) s = p s >>= fun q => f q.1 q.2 := rfl

theorem bind_of_ok (h : p s = .ok (a, s')) : (p >>= f) s = f a s' := by
  rw [bind_apply, h]
  rfl

theorem Fails.bind (h : Fails p s) : Fails (p >>= f) s := by
  obtain ⟨m, h⟩ := h
  exact ⟨m, by rw [bind_apply, h]; rfl⟩

theorem Fails.bind_of_ok (hp : p s = .ok (a, s')) (hf : Fails (f a) s') : Fails (p >>= f) s := by
  obtain ⟨m, h⟩ := hf
  exact ⟨m, by rw [Parse.bind_of_ok hp, h]⟩

end

/-! ## Levels -/

/-- What ends an expression. -/
def closes : Lexeme → Bool
  | .variableEnd | .operator .closeBrace => true
  | _ => false

/-- Reading an expression fails, or what ends an expression is in front behind it. -/
def Closed (r : Except Malformed (Expr × Stream)) : Prop :=
  ∀ e s, r = .ok (e, s) → closes s.current.lexeme = true

theorem Fails.closed {p : Parse Expr} {s : Stream} (h : Fails p s) : Closed (p s) := by
  obtain ⟨m, h⟩ := h
  rw [h]
  exact nofun

theorem closed_of_ok {p : Parse Expr} {s s' : Stream} {e : Expr} (h : p s = .ok (e, s')) (hs : closes s'.current.lexeme = true) : Closed (p s) := by
  rw [h]
  rintro _ _ ⟨⟩
  exact hs

/-- What a level of the grammar does behind an operand leaves the operand alone where an expression ends. -/
def Idle (f : Expr → Parse Expr) : Prop := ∀ e s, closes s.current.lexeme = true → f e s = .ok (e, s)

theorem idle_of_cases {f : Expr → Parse Expr}
    (htag : ∀ e k rest fault, f e ⟨⟨k, .variableEnd⟩, rest, fault⟩ = .ok (e, ⟨⟨k, .variableEnd⟩, rest, fault⟩))
    (hbrace : ∀ e k rest fault, f e ⟨⟨k, .operator .closeBrace⟩, rest, fault⟩ =
      .ok (e, ⟨⟨k, .operator .closeBrace⟩, rest, fault⟩)) : Idle f := by
  rintro e ⟨⟨k, l⟩, rest, fault⟩ h
  unfold closes at h
  split at h
  · next heq => cases heq; exact htag e k rest fault
  · next heq => cases heq; exact hbrace e k rest fault
  · cases h

/-- A level whose operand is read as on the levels below is read so itself. -/
theorem Idle.level {operand below : Parse Expr} {f : Expr → Parse Expr} {s : Stream} (hf : Idle f)
    (hbelow : Closed (below s)) (h : operand s = below s) : (operand >>= f) s = below s := by
  rw [bind_apply, h]
  cases hr : below s with
  | error m => rfl
  | ok r => exact hf r.1 r.2 (hbelow _ _ hr)

/-- What an operand starts with: neither a sign nor a negation. -/
def starts (l : Lexeme) : Bool := !(l.isOperator .sub || l.isOperator .add || l.isName "not")

section
variable (expr : Parse Expr) {s : Stream} (hs : starts s.current.lexeme = true) (hp : Closed (primary expr false s))
include hs hp

theorem unary_primary (fuel : Nat) : unary expr true (fuel + 1) s = primary expr false s := by
  have hunary : unary expr true (fuel + 1) s = ((primary expr false >>= fun e => budget >>= fun n => postfixes expr n e) >>=
      fun e => budget >>= fun n => filtersAndTests expr n e) s := by
    obtain ⟨⟨k, l⟩, rest, fault⟩ := s
    rw [unary, bind_assoc]
    cases l with
    | operator o => cases o <;> first | rfl | cases hs
    | _ => rfl
  have hpostfixes : Idle fun e => budget >>= fun n => postfixes expr n e :=
    idle_of_cases (fun _ _ _ _ => rfl) fun _ _ _ _ => rfl
  have hfilters : Idle fun e => budget >>= fun n => filtersAndTests expr n e :=
    idle_of_cases (fun _ _ _ _ => rfl) fun _ _ _ _ => rfl
  rw [hunary]
  exact hfilters.level hp (hpostfixes.level hp rfl)

/-- On the levels of arithmetic, no operator is found. -/
theorem sum_primary : sum expr s = primary expr false s := by
  have hpower : power expr s = primary expr false s := by
    have hidle : Idle fun e => budget >>= fun n => chain powerOf? (unary expr true (s.rest.length + 2)) n e :=
      idle_of_cases (fun _ _ _ _ => rfl) fun _ _ _ _ => rfl
    exact hidle.level hp (unary_primary expr hs hp _)
  have hproduct : product expr s = primary expr false s := by
    have hidle : Idle fun e => budget >>= fun n => chain productOf? (power expr) n e :=
      idle_of_cases (fun _ _ _ _ => rfl) fun _ _ _ _ => rfl
    exact hidle.level hp hpower
  have hconcatenation : concatenation expr s = primary expr false s := by
    obtain ⟨rest, hconcatenation, hidle⟩ : ∃ rest, concatenation expr = product expr >>= rest ∧ Idle rest :=
      ⟨_, rfl, idle_of_cases (fun _ _ _ _ => rfl) fun _ _ _ _ => rfl⟩
    rw [hconcatenation]
    exact hidle.level hp hproduct
  have hidle : Idle fun e => budget >>= fun n => chain sumOf? (concatenation expr) n e :=
    idle_of_cases (fun _ _ _ _ => rfl) fun _ _ _ _ => rfl
  exact hidle.level hp hconcatenation

theorem comparison_primary : comparison expr s = primary expr false s := by
  obtain ⟨rest, hcomparison, hidle⟩ : ∃ rest, comparison expr = sum expr >>= rest ∧ Idle rest :=
    ⟨_, rfl, idle_of_cases (fun _ _ _ _ => rfl) fun _ _ _ _ => rfl⟩
  rw [hcomparison]
  exact hidle.level hp (sum_primary expr hs hp)

theorem negation_primary (fuel : Nat) : negation expr fuel s = primary expr false s := by
  have hcomparison := comparison_primary expr hs hp
  cases fuel with
  | zero => exact hcomparison
  | succ fuel =>
    have hother : s.current.lexeme.isName "not" = false := by
      simp only [starts, Bool.not_eq_true', Bool.or_eq_false_iff] at hs
      exact hs.2
    have hskip : skipWord "not" s = .ok (false, s) := by
      have hword : isWord "not" s = .ok (s.current.lexeme.isName "not", s) := rfl
      rw [skipWord, bind_of_ok hword, hother]
      rfl
    rw [negation, bind_of_ok hskip]
    exact hcomparison

end

/-- On the levels of logic, no word is found that joins operands. -/
theorem disjunction_of_negation {expr below : Parse Expr} {s : Stream} (hbelow : Closed (below s))
    (h : ∀ fuel, negation expr (fuel + 2) s = below s) : disjunction expr s = below s := by
  have hconjunction : conjunction expr s = below s := by
    have hidle : Idle fun e => budget >>= fun n => joinedBy "and" .both (budget >>= negation expr) n e :=
      idle_of_cases (fun _ _ _ _ => rfl) fun _ _ _ _ => rfl
    exact hidle.level hbelow (h _)
  have hidle : Idle fun e => budget >>= fun n => joinedBy "or" .either (conjunction expr) n e :=
    idle_of_cases (fun _ _ _ _ => rfl) fun _ _ _ _ => rfl
  exact hidle.level hbelow hconjunction

theorem expression_of_negation {depth : Nat} {below : Parse Expr} {s : Stream} (hbelow : Closed (below s))
    (h : ∀ fuel, negation (expression depth) (fuel + 2) s = below s) : expression (depth + 1) s = below s := by
  have hidle : Idle fun e => budget >>= fun n => conditionals (expression depth) n e s.current.line :=
    idle_of_cases (fun _ _ _ _ => rfl) fun _ _ _ _ => rfl
  exact hidle.level hbelow (disjunction_of_negation hbelow h)

/-- A tuple of one expression without a comma is the expression. -/
theorem tuple_of_expression {item : Parse Expr} {s : Stream} (hs : tupleEnd s.current.lexeme = false) (h : Closed (item s)) :
    tuple item tupleEnd false s = item s := by
  let single (e : Expr) : Parse (List Expr × Bool × Nat) := isOperator .comma >>= fun comma =>
    if comma = true then Parse.line >>= tupleItems item tupleEnd (s.rest.length + 1) [e] true
    else pure ([e], false, s.current.line)
  obtain ⟨whole, hwhole, hidle⟩ : ∃ whole, tuple item tupleEnd false = (budget >>= fun n => Parse.line >>= fun line =>
      tupleItems item tupleEnd n [] false line >>= whole) ∧ Idle fun e => single e >>= whole := by
    refine ⟨_, rfl, ?_⟩
    exact idle_of_cases (fun _ _ _ _ => rfl) fun _ _ _ _ => rfl
  have hitems : tupleItems item tupleEnd (s.rest.length + 2) [] false s.current.line s = (item >>= single) s := by
    have hlexeme : lexeme s = .ok (s.current.lexeme, s) := rfl
    refine (bind_of_ok hlexeme).trans ?_
    rw [hs]
    rfl
  have htuple : tuple item tupleEnd false s = (item >>= fun e => single e >>= whole) s := by
    have hread : tuple item tupleEnd false s =
        (tupleItems item tupleEnd (s.rest.length + 2) [] false s.current.line >>= whole) s := by
      rw [hwhole]
      rfl
    rw [hread, bind_apply, hitems, ← bind_apply, bind_assoc]
  rw [htuple]
  exact hidle.level h rfl

/-! ## Operands -/

/-- What a word is read as. -/
def wordExpr (word : String) (line : Nat) : Expr :=
  match constantWord? word with
  | some c => .constant c
  | none => .name word line

section
variable {expr : Parse Expr} {depth k : Nat} {t : Token} {ts : List Token} {fault : Option Malformed} {s : Stream}

theorem primary_word (word : String) :
    primary expr false ⟨⟨k, .name word⟩, t :: ts, fault⟩ = .ok (wordExpr word k, ⟨t, ts, fault⟩) := by
  have hcurrent : current ⟨⟨k, .name word⟩, t :: ts, fault⟩ = .ok (⟨k, .name word⟩, ⟨⟨k, .name word⟩, t :: ts, fault⟩) :=
    rfl
  have hnext : next ⟨⟨k, .name word⟩, t :: ts, fault⟩ = .ok (⟨k, .name word⟩, ⟨t, ts, fault⟩) := rfl
  rw [primary, bind_of_ok hcurrent]
  dsimp only
  rw [bind_of_ok hnext, wordExpr]
  cases constantWord? word <;> rfl

/-- An opening brace has to be followed by pairs. -/
theorem fails_brace (ht : t.lexeme.isOperator .closeBrace = false) (h : Closed (expr ⟨t, ts, fault⟩)) :
    Fails (primary expr false) ⟨⟨k, .operator .openBrace⟩, t :: ts, fault⟩ := by
  have hpair : Fails (pair expr) ⟨t, ts, fault⟩ := by
    cases hr : expr ⟨t, ts, fault⟩ with
    | error m => exact Fails.bind ⟨m, hr⟩
    | ok r =>
      obtain ⟨e, s⟩ := r
      have hcolon : Fails (expectOperator .colon) s := by
        have hcloses := h e s hr
        obtain ⟨⟨k, l⟩, rest, fault⟩ := s
        unfold closes at hcloses
        split at hcloses
        · next heq => cases heq; exact ⟨_, rfl⟩
        · next heq => cases heq; exact ⟨_, rfl⟩
        · cases hcloses
      exact .bind_of_ok hr hcolon.bind
  have hitems (fuel : Nat) : Fails (itemsUntil .closeBrace (pair expr) (fuel + 1) []) ⟨t, ts, fault⟩ := by
    have hmore : isOperator .closeBrace ⟨t, ts, fault⟩ = .ok (false, ⟨t, ts, fault⟩) := by
      rw [← ht]
      rfl
    exact .bind_of_ok hmore hpair.bind
  have hcurrent : current ⟨⟨k, .operator .openBrace⟩, t :: ts, fault⟩ =
      .ok (⟨k, .operator .openBrace⟩, ⟨⟨k, .operator .openBrace⟩, t :: ts, fault⟩) := rfl
  have hnext : next ⟨⟨k, .operator .openBrace⟩, t :: ts, fault⟩ = .ok (⟨k, .operator .openBrace⟩, ⟨t, ts, fault⟩) := rfl
  have hbudget : budget ⟨t, ts, fault⟩ = .ok (ts.length + 2, ⟨t, ts, fault⟩) := rfl
  exact .bind_of_ok hcurrent (.bind_of_ok hnext (.bind_of_ok hbudget (hitems _).bind))

theorem expression_primary (hs : starts s.current.lexeme = true) (h : Closed (primary (expression depth) false s)) :
    expression (depth + 1) s = primary (expression depth) false s :=
  expression_of_negation h fun _ => negation_primary _ hs h _

theorem expression_word {word : String} (hword : word ≠ "not") (ht : closes t.lexeme = true) :
    expression (depth + 1) ⟨⟨k, .name word⟩, t :: ts, fault⟩ = .ok (wordExpr word k, ⟨t, ts, fault⟩) := by
  have hstarts : starts (.name word) = true := by
    simp [starts, Lexeme.isOperator, Lexeme.isName, hword]
  have hprimary : primary (expression depth) false ⟨⟨k, .name word⟩, t :: ts, fault⟩ = .ok (wordExpr word k, ⟨t, ts, fault⟩) :=
    primary_word word
  rw [expression_primary hstarts (closed_of_ok hprimary ht), hprimary]

theorem fails_expression (hs : starts s.current.lexeme = true) (h : Fails (primary (expression depth) false) s) :
    Fails (expression (depth + 1)) s := by
  rw [Fails, expression_primary hs h.closed]
  exact h

/-- A negation needs an operand. -/
theorem fails_negation (ht : closes t.lexeme = true) :
    Fails (expression (depth + 1)) ⟨⟨k, .name "not"⟩, t :: ts, fault⟩ := by
  have hoperand (fuel : Nat) : Fails (negation (expression depth) fuel) ⟨t, ts, fault⟩ := by
    have hprimary : Fails (primary (expression depth) false) ⟨t, ts, fault⟩ ∧ starts t.lexeme = true := by
      obtain ⟨m, l⟩ := t
      unfold closes at ht
      split at ht
      · next heq => cases heq; exact ⟨⟨_, rfl⟩, rfl⟩
      · next heq => cases heq; exact ⟨⟨_, rfl⟩, rfl⟩
      · cases ht
    rw [Fails, negation_primary _ hprimary.2 hprimary.1.closed]
    exact hprimary.1
  have hskip : skipWord "not" ⟨⟨k, .name "not"⟩, t :: ts, fault⟩ = .ok (true, ⟨t, ts, fault⟩) := rfl
  have hnegation (fuel : Nat) : Fails (negation (expression depth) (fuel + 1)) ⟨⟨k, .name "not"⟩, t :: ts, fault⟩ :=
    .bind_of_ok hskip (hoperand fuel).bind
  have hconjunction : Fails (conjunction (expression depth)) ⟨⟨k, .name "not"⟩, t :: ts, fault⟩ :=
    Fails.bind (.bind_of_ok rfl (hnegation _))
  exact .bind_of_ok rfl hconjunction.bind.bind

end

/-! ## Tags -/

/-- Its first token could start an expression, but no expression is read from it. -/
theorem fails_refused {ls : List Lexeme} (h : Refused ls) {ts : List Token} (hts : ts.map (·.lexeme) = ls) :
    ∃ t rest, ts = t :: rest ∧ tupleEnd t.lexeme = false ∧
      ∀ depth more fault, Fails (expression (depth + 2)) ⟨t, rest ++ more, fault⟩ := by
  have hdot (depth k : Nat) (ts : List Token) (fault : Option Malformed) :
      Fails (expression (depth + 1)) ⟨⟨k, .operator .dot⟩, ts, fault⟩ :=
    fails_expression rfl ⟨_, rfl⟩
  cases h with
  | dot =>
    obtain ⟨⟨k, _⟩, _, rfl, rfl, hrest⟩ := List.map_eq_cons_iff.mp hts
    exact ⟨_, _, rfl, rfl, fun depth more fault => hdot _ k _ fault⟩
  | negation =>
    obtain ⟨⟨k, _⟩, _, rfl, rfl, hrest⟩ := List.map_eq_cons_iff.mp hts
    obtain ⟨⟨m, _⟩, _, rfl, rfl, -⟩ := List.map_eq_cons_iff.mp hrest
    exact ⟨_, _, rfl, rfl, fun depth more fault => fails_negation rfl⟩
  | braced word =>
    obtain ⟨⟨k, _⟩, _, rfl, rfl, hrest⟩ := List.map_eq_cons_iff.mp hts
    obtain ⟨⟨m, _⟩, _, rfl, rfl, hrest'⟩ := List.map_eq_cons_iff.mp hrest
    obtain ⟨⟨n, _⟩, _, rfl, rfl, -⟩ := List.map_eq_cons_iff.mp hrest'
    refine ⟨_, _, rfl, rfl, fun depth more fault => fails_expression rfl (fails_brace rfl ?_)⟩
    by_cases hword : word = "not"
    · subst hword
      exact (fails_negation rfl).closed
    · exact closed_of_ok (expression_word hword rfl) rfl
  | bracedDot =>
    obtain ⟨⟨k, _⟩, _, rfl, rfl, hrest⟩ := List.map_eq_cons_iff.mp hts
    obtain ⟨⟨m, _⟩, _, rfl, rfl, -⟩ := List.map_eq_cons_iff.mp hrest
    exact ⟨_, _, rfl, rfl, fun depth more fault => fails_expression rfl (fails_brace rfl (hdot _ m _ fault).closed)⟩

/-- A parser, run on tokens behind one on a line. -/
def onward {α : Type} (p : Parse α) (line : Nat) (ts : Tokens) : Except Malformed (α × Stream) :=
  Stream.advance ⟨⟨line, .eof⟩, ts.tokens, ts.fault⟩ >>= p

theorem next_bind {α : Type} (f : Token → Parse α) (t : Token) (ts : Tokens) :
    (next >>= f) ⟨t, ts.tokens, ts.fault⟩ = onward (f t) t.line ts := by
  obtain ⟨tokens, fault⟩ := ts
  cases tokens <;> cases fault <;> rfl

section
variable {depth : Nat} {body : Body} {s : Surrounding} {tags : Option (List String)} {fuel : Nat} {read : List Node} {k m line first : Nat} {ts : Tokens}

theorem nodes_data (text : List Char) :
    onward (nodes depth body s tags (fuel + 1) read) line (ts.cons ⟨k, .data text⟩) =
      onward (nodes depth body s tags fuel (.data text :: read)) k ts :=
  next_bind (fun _ => nodes depth body s tags fuel (.data text :: read)) ⟨k, .data text⟩ ts

/-- At a print tag, an expression is read, and then the end of the tag. -/
theorem nodes_tag (t : Token) :
    onward (nodes depth body s tags (fuel + 1) read) line ((ts.cons t).cons ⟨first, .variableBegin⟩) =
      (tuple (expression depth) tupleEnd false >>= fun e => expectVariableEnd >>= fun _ =>
        nodes depth body s tags fuel (.print e :: read)) ⟨t, ts.tokens, ts.fault⟩ := rfl

theorem nodes_print {word : String} (hword : word ≠ "not") :
    onward (nodes (depth + 1) body s tags (fuel + 1) read) line
        (((ts.cons ⟨m, .variableEnd⟩).cons ⟨k, .name word⟩).cons ⟨first, .variableBegin⟩) =
      onward (nodes (depth + 1) body s tags fuel (.print (wordExpr word k) :: read)) m ts := by
  have hexpression : expression (depth + 1) ⟨⟨k, .name word⟩, ⟨m, .variableEnd⟩ :: ts.tokens, ts.fault⟩ =
      .ok (wordExpr word k, ⟨⟨m, .variableEnd⟩, ts.tokens, ts.fault⟩) := expression_word hword rfl
  have htuple : tuple (expression (depth + 1)) tupleEnd false ⟨⟨k, .name word⟩, ⟨m, .variableEnd⟩ :: ts.tokens, ts.fault⟩ =
      .ok (wordExpr word k, ⟨⟨m, .variableEnd⟩, ts.tokens, ts.fault⟩) := by
    rw [tuple_of_expression rfl (closed_of_ok hexpression rfl), hexpression]
  rw [nodes_tag]
  exact (bind_of_ok htuple).trans
    (next_bind (fun _ => nodes (depth + 1) body s tags fuel (.print (wordExpr word k) :: read)) ⟨m, .variableEnd⟩ ts)

theorem nodes_refused {ls : List Lexeme} (h : Refused ls) {refused : List Token} (hls : refused.map (·.lexeme) = ls) :
    ∃ fault, onward (nodes (depth + 2) body s tags (fuel + 1) read) line ((ts.after refused).cons ⟨first, .variableBegin⟩) =
      .error fault := by
  obtain ⟨t, rest, rfl, hend, hfails⟩ := fails_refused h hls
  have hexpression := hfails depth ts.tokens ts.fault
  have htuple : Fails (tuple (expression (depth + 2)) tupleEnd false) ⟨t, rest ++ ts.tokens, ts.fault⟩ := by
    rw [Fails, tuple_of_expression hend hexpression.closed]
    exact hexpression
  have hcons : ts.after (t :: rest) = (ts.after rest).cons t := rfl
  rw [hcons, nodes_tag]
  exact htuple.bind

theorem nodes_end : onward (nodes depth body s tags (fuel + 1) read) line ⟨[], none⟩ =
    .ok (read.reverse, ⟨⟨line, .eof⟩, [], none⟩) := rfl
end

end Parse

/-! ## Drafts -/

open Parse

/-- The nodes of text between tags. -/
def dataNodes (cs : List Char) : List Node := if cs.isEmpty then [] else [.data cs]

/-- Nodes that are the text of a draft, and print its words. -/
def Draft.Prints : Draft String → List Node → Prop
  | .text cs _, ns => ns = dataNodes cs
  | .slot cs _ word rest, ns => ∃ line ns', ns = dataNodes cs ++ .print (wordExpr word line) :: ns' ∧ rest.Prints ns'

/-- The words in the tags of a draft. -/
def Draft.words (d : Draft (Tag Word)) : Draft String := d.map fun t => String.ofList t.inside.name

section
variable (depth : Nat) (body : Body) (s : Surrounding) (tags : Option (List String))

theorem nodes_dataOf {cs : List Char} {data : List Token} (hdata : data.map (·.lexeme) = dataOf cs) (ts : Tokens)
    (line : Nat) : ∃ line', ∀ fuel read,
      onward (nodes depth body s tags (fuel + data.length) read) line (ts.after data) =
        onward (nodes depth body s tags fuel ((dataNodes cs).reverse ++ read)) line' ts := by
  cases cs with
  | nil =>
    rw [List.map_eq_nil_iff.mp hdata]
    exact ⟨line, fun _ _ => rfl⟩
  | cons c cs =>
    obtain ⟨⟨k, _⟩, data', rfl, rfl, hdata'⟩ := List.map_eq_cons_iff.mp hdata
    rw [List.map_eq_nil_iff.mp hdata']
    exact ⟨k, fun _ _ => nodes_data _⟩

/-- What the nodes of a draft are read as: nodes that print its words, or a fault. -/
def Draft.Parsed (d : Draft (Tag Word)) (read : List Node) (r : Except Malformed (List Node × Stream)) : Prop :=
  (d.All Legible → ∃ ns last, d.words.Prints ns ∧ r = .ok (read.reverse ++ ns, last)) ∧
    (¬d.All Legible → ∃ m, r = .error m)

theorem Draft.Lexed.nodes {d : Draft (Tag Word)} {ts : Tokens} (h : d.Lexed ts) (hdepth : ts.tokens.length < depth) :
    ∀ fuel line read, ts.tokens.length < fuel →
      d.Parsed read (onward (Parse.nodes depth body s tags fuel read) line ts) := by
  induction h with
  | @text cs hcs data hdata =>
    intro fuel line read hfuel
    obtain ⟨fuel, rfl⟩ : ∃ n, fuel = n + 1 + data.length := ⟨fuel - 1 - data.length, by grind⟩
    obtain ⟨line', hnodes⟩ := nodes_dataOf depth body s tags hdata ⟨[], none⟩ line
    have hend := (hnodes (fuel + 1) read).trans nodes_end
    have hdata : (Tokens.mk [] none).after data = ⟨data, none⟩ := congrArg (Tokens.mk · none) (List.append_nil data)
    rw [hdata, List.reverse_append, List.reverse_reverse] at hend
    exact ⟨fun _ => ⟨_, _, rfl, hend⟩, fun hall => absurd trivial hall⟩
  | @slot cs hcs t rest data ts first k m hlegible hdata hrest ih =>
    intro fuel line read hfuel
    simp only [Tokens.after, Tokens.cons, List.length_append, List.length_cons] at hdepth hfuel
    obtain ⟨depth, rfl⟩ : ∃ n, depth = n + 1 := ⟨depth - 1, by omega⟩
    obtain ⟨fuel, rfl⟩ : ∃ n, fuel = n + 1 + data.length := ⟨fuel - 1 - data.length, by omega⟩
    have hword : String.ofList t.inside.name ≠ "not" := fun hname =>
      hlegible.2.2 (String.ofList_injective (hname.trans (String.ofList_toList).symm))
    obtain ⟨line', hnodes⟩ := nodes_dataOf (depth + 1) body s tags hdata
      (((ts.cons ⟨m, .variableEnd⟩).cons ⟨k, .name (String.ofList t.inside.name)⟩).cons ⟨first, .variableBegin⟩) line
    obtain ⟨hgood, hbad⟩ := ih (by omega) fuel m
      (.print (wordExpr (String.ofList t.inside.name) k) :: ((dataNodes cs).reverse ++ read)) (by omega)
    rw [hnodes, nodes_print hword]
    refine ⟨fun hall => ?_, fun hall => hbad fun hrest => hall ⟨hlegible, hrest⟩⟩
    obtain ⟨ns, last, hprints, hread⟩ := hgood hall.2
    exact ⟨_, last, ⟨k, ns, rfl, hprints⟩, by rw [hread]; simp⟩
  | @refused cs before hcs t rest data refused ts first ls hlegible hdata hrefused hls =>
    intro fuel line read hfuel
    have hsome : refused ≠ [] := by
      rintro rfl
      cases hls
      cases hrefused
    have hlength := List.length_pos_iff.mpr hsome
    simp only [Tokens.after, Tokens.cons, List.length_append, List.length_cons] at hdepth hfuel
    obtain ⟨depth, rfl⟩ : ∃ n, depth = n + 2 := ⟨depth - 2, by omega⟩
    obtain ⟨fuel, rfl⟩ : ∃ n, fuel = n + 1 + data.length := ⟨fuel - 1 - data.length, by omega⟩
    obtain ⟨line', hnodes⟩ := nodes_dataOf (depth + 2) body s tags hdata
      ((ts.after refused).cons ⟨first, .variableBegin⟩) line
    rw [hnodes]
    exact ⟨fun hall => absurd hall.1 hlegible, fun _ => nodes_refused hrefused hls⟩

end

/-- A draft is read as nodes that print its words, or refused. -/
theorem Draft.Lexed.parseTokens {d : Draft (Tag Word)} {ts : Tokens} (h : d.Lexed ts) :
    (d.All Legible → ∃ ns, d.words.Prints ns ∧ parseTokens ts = .ok ns) ∧
      (¬d.All Legible → ∃ m, parseTokens ts = .error m) := by
  have hread : ∃ fuel, ts.tokens.length < fuel ∧ Template.parseTokens ts = (onward (Parse.nodes (ts.tokens.length + 1)
      (bodyAt (ts.tokens.length + 1) ts.tokens.length) {} none fuel []) 1 ts).map (·.1) := by
    have hfirst (r : Except Malformed (List Node × Stream)) : (r >>= fun read => .ok read.1) = r.map (·.1) := by
      cases r <;> rfl
    obtain ⟨tokens, fault⟩ := ts
    cases tokens with
    | nil =>
      cases fault with
      | none => exact ⟨2, Nat.zero_lt_two, by rw [← hfirst]; rfl⟩
      | some fault => exact ⟨2, Nat.zero_lt_two, rfl⟩
    | cons t tokens => exact ⟨tokens.length + 2, Nat.lt_succ_self _, by rw [← hfirst]; rfl⟩
  obtain ⟨fuel, hfuel, hread⟩ := hread
  obtain ⟨hgood, hbad⟩ := h.nodes (ts.tokens.length + 1) (bodyAt (ts.tokens.length + 1) ts.tokens.length) {} none
    (Nat.lt_succ_self _) fuel 1 [] hfuel
  constructor
  · intro hall
    obtain ⟨ns, last, hprints, hnodes⟩ := hgood hall
    exact ⟨ns, hprints, by rw [hread, hnodes]; rfl⟩
  · intro hall
    obtain ⟨m, hnodes⟩ := hbad hall
    exact ⟨m, by rw [hread, hnodes]; rfl⟩

end ShaderBundle.Template
