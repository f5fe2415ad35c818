import ShaderBundle.Proofs.Files.Walk
import ShaderBundle.Template.Render

/-!
# Templates that stand alone

A template that loads no other one is rendered in the same way whatever other templates there are. A template without
statements that include or extend loads none.

* `Standalone`: the rendering of a template does not depend on other ones.
* `render_standalone`: then it depends on the template alone.
* `standalone_of_plain`: templates that can be seen to stand alone.
-/

namespace ShaderBundle.Template

/-- Rendering the template of this name with a variant's arguments does not depend on other templates. -/
def Standalone (library : Library) (name : String) (args : VariantArgs) : Prop :=
  ∀ nodes, loadNodes library name = .ok nodes → ∀ others others',
    renderTemplate others name nodes (argBindings args) = renderTemplate others' name nodes (argBindings args)

variable {library library' : Library} {name : String} {args : VariantArgs}

theorem render_standalone (hs : Standalone library name args) (hname : library name = library' name) :
    render library name args = render library' name args := by
  have hload : loadNodes library' name = loadNodes library name := by
    unfold loadNodes
    rw [hname]
  have hothers (others others' : Others) :
      (do
        let nodes ← loadNodes library name
        return String.ofList (← renderTemplate others name nodes (argBindings args)) : Eval String) = do
        let nodes ← loadNodes library name
        return String.ofList (← renderTemplate others' name nodes (argBindings args)) := by
    cases hn : loadNodes library name with
    | error stop => rfl
    | ok nodes => exact congrArg (fun text => text >>= fun text => .ok (String.ofList text)) (hs nodes hn others others')
  rw [render, render, hload]
  exact hothers _ _

/-! ## Plain templates -/

mutual

/-- No statement in it includes or extends. -/
def Node.plain : Node → Bool
  | .data _ | .print _ | .assign .. => true
  | .branch cases otherwise => casesPlain cases && nodesPlain otherwise
  | .loop _ _ _ body otherwise _ => nodesPlain body && nodesPlain otherwise
  | .assignBody _ _ body => nodesPlain body
  | .include_ .. | .extends_ .. => false

def nodesPlain : List Node → Bool
  | [] => true
  | n :: rest => n.plain && nodesPlain rest

def casesPlain : List (Expr × List Node) → Bool
  | [] => true
  | (_, body) :: rest => nodesPlain body && casesPlain rest

end

variable (template : String) (others others' : Others)

mutual

theorem renderNode_plain : ∀ (n : Node) (s : Scope), n.plain = true →
    renderNode template others s n = renderNode template others' s n
  | .data _, _, _ => by rw [renderNode, renderNode]
  | .print _, _, _ => by rw [renderNode, renderNode]
  | .assign .., _, _ => by rw [renderNode, renderNode]
  | .branch cases otherwise, s, h => by
    rw [Node.plain, Bool.and_eq_true] at h
    have hotherwise : (fun _ : Unit => renderNodes template others s otherwise) =
        fun _ => renderNodes template others' s otherwise :=
      funext fun _ => renderNodes_plain otherwise s h.2
    rw [renderNode, renderNode, hotherwise]
    exact renderCases_plain cases s _ h.1
  | .loop target sequence only body otherwise line, s, h => by
    rw [Node.plain, Bool.and_eq_true] at h
    have hbody := fun s => renderNodes_plain body s h.1
    have hotherwise := fun s => renderNodes_plain otherwise s h.2
    rw [renderNode, renderNode]
    simp only [hbody, hotherwise]
  | .assignBody target filter body, s, h => by
    rw [Node.plain] at h
    have hbody := fun s => renderNodes_plain body s h
    rw [renderNode, renderNode]
    simp only [hbody]
  | .include_ .., _, h => by cases h
  | .extends_ .., _, h => by cases h

theorem renderNodes_plain : ∀ (nodes : List Node) (s : Scope), nodesPlain nodes = true →
    renderNodes template others s nodes = renderNodes template others' s nodes
  | [], _, _ => by rw [renderNodes, renderNodes]
  | n :: rest, s, h => by
    rw [nodesPlain, Bool.and_eq_true] at h
    have hrest := fun s => renderNodes_plain rest s h.2
    rw [renderNodes, renderNodes, renderNode_plain n s h.1]
    simp only [hrest]

theorem renderCases_plain : ∀ (cases : List (Expr × List Node)) (s : Scope) (otherwise : Unit → Rendered),
    casesPlain cases = true →
      renderCases template others s otherwise cases = renderCases template others' s otherwise cases
  | [], _, _, _ => by rw [renderCases, renderCases]
  | (condition, body) :: rest, s, otherwise, h => by
    rw [casesPlain, Bool.and_eq_true] at h
    rw [renderCases, renderCases, renderNodes_plain body s h.1, renderCases_plain rest s otherwise h.2]

end

/-! Such nodes leave no template to take over at the end. -/

theorem extended_bind (s : Scope) (word : String) (v : Value) : (s.bind word v).extended = s.extended := by
  unfold Scope.bind
  split <;> rfl

mutual

theorem extended_store : ∀ {target : Target} {v : Value} {s s' : Scope}, store s target v = .ok s' →
    s'.extended = s.extended
  | .name word _, v, s, _, h => by
    rw [store] at h
    cases h
    exact extended_bind s word v
  | .cell .., _, _, _, h => by
    rw [store] at h
    cases h
  | .tuple parts, v, s, s', h => by
    have hrest {items : List Value} {few many : String}
        (h : (if items.length < parts.length then badValue few
          else if parts.length < items.length then badValue many
          else storeAll s parts items) = .ok s') : s'.extended = s.extended := by
      split at h
      · cases h
      · split at h
        · cases h
        · exact extended_storeAll h
    unfold store at h
    dsimp only at h
    split at h <;> (obtain ⟨items, -, h⟩ := bind_eq_ok.mp h; exact hrest h)

theorem extended_storeAll : ∀ {targets : List Target} {values : List Value} {s s' : Scope},
    storeAll s targets values = .ok s' → s'.extended = s.extended
  | t :: ts, v :: vs, s, s', h => by
    rw [storeAll] at h
    obtain ⟨s1, hfirst, hrest⟩ := bind_eq_ok.mp h
    exact (extended_storeAll hrest).trans (extended_store hfirst)
  | [], _, _, _, h => by
    rw [storeAll] at h
    · cases h
      rfl
    · exact nofun
  | _ :: _, [], _, _, h => by
    rw [storeAll] at h
    · cases h
      rfl
    · exact nofun

end

mutual

theorem extended_renderNode : ∀ {n : Node} {s s' : Scope} {text : List Char}, n.plain = true →
    renderNode template others s n = .ok (text, s') → s'.extended = s.extended
  | .data _, _, _, _, _, hr => by
    rw [renderNode] at hr
    cases hr
    rfl
  | .print _, s, s', _, _, hr => by
    rw [renderNode] at hr
    split at hr
    · cases hr
      rfl
    · obtain ⟨v, -, hr⟩ := bind_eq_ok.mp hr
      obtain ⟨plain, -, hr⟩ := bind_eq_ok.mp hr
      cases hr
      rfl
  | .assign .., _, _, _, _, hr => by
    rw [renderNode] at hr
    obtain ⟨v, -, hr⟩ := bind_eq_ok.mp hr
    obtain ⟨s1, hstore, hr⟩ := bind_eq_ok.mp hr
    cases hr
    exact extended_store hstore
  | .branch cases otherwise, s, _, _, h, hr => by
    rw [Node.plain, Bool.and_eq_true] at h
    rw [renderNode] at hr
    exact extended_renderCases h.1 (fun hr => extended_renderNodes h.2 hr) hr
  -- the body of a loop, and that of an assignment, is rendered in a scope of its own that is dropped
  | .loop target sequence only body otherwise line, s, _, _, _, hr => by
    rw [renderNode] at hr
    obtain ⟨v, -, hr⟩ := bind_eq_ok.mp hr
    obtain ⟨items, -, hr⟩ := bind_eq_ok.mp hr
    obtain ⟨chosen, -, hr⟩ := bind_eq_ok.mp hr
    split at hr
    · obtain ⟨⟨text, s1⟩, -, hr⟩ := bind_eq_ok.mp hr
      cases hr
      rfl
    · obtain ⟨texts, -, hr⟩ := bind_eq_ok.mp hr
      cases hr
      rfl
  | .assignBody target filter body, s, _, _, _, hr => by
    rw [renderNode] at hr
    obtain ⟨⟨text, s1⟩, -, hr⟩ := bind_eq_ok.mp hr
    dsimp only at hr
    split at hr
    · obtain ⟨v, -, hr⟩ := bind_eq_ok.mp hr
      obtain ⟨s2, hstore, hr⟩ := bind_eq_ok.mp hr
      cases hr
      exact extended_store hstore
    · obtain ⟨v, -, hr⟩ := bind_eq_ok.mp hr
      obtain ⟨s2, hstore, hr⟩ := bind_eq_ok.mp hr
      cases hr
      exact extended_store hstore
  | .include_ .., _, _, _, h, _ => by cases h
  | .extends_ .., _, _, _, h, _ => by cases h

theorem extended_renderNodes : ∀ {nodes : List Node} {s s' : Scope} {text : List Char}, nodesPlain nodes = true →
    renderNodes template others s nodes = .ok (text, s') → s'.extended = s.extended
  | [], _, _, _, _, hr => by
    rw [renderNodes] at hr
    cases hr
    rfl
  | n :: rest, s, s', _, h, hr => by
    rw [nodesPlain, Bool.and_eq_true] at h
    rw [renderNodes] at hr
    obtain ⟨⟨first, s1⟩, hfirst, hr⟩ := bind_eq_ok.mp hr
    obtain ⟨⟨more, s2⟩, hmore, hr⟩ := bind_eq_ok.mp hr
    cases hr
    exact (extended_renderNodes h.2 hmore).trans (extended_renderNode h.1 hfirst)

theorem extended_renderCases : ∀ {cases : List (Expr × List Node)} {s s' : Scope} {otherwise : Unit → Rendered}
    {text : List Char}, casesPlain cases = true →
      (∀ {text s'}, otherwise () = .ok (text, s') → s'.extended = s.extended) →
      renderCases template others s otherwise cases = .ok (text, s') → s'.extended = s.extended
  | [], _, _, _, _, _, ho, hr => by
    rw [renderCases] at hr
    exact ho hr
  | (condition, body) :: rest, s, s', otherwise, _, h, ho, hr => by
    rw [casesPlain, Bool.and_eq_true] at h
    rw [renderCases] at hr
    obtain ⟨v, -, hr⟩ := bind_eq_ok.mp hr
    obtain ⟨truth, -, hr⟩ := bind_eq_ok.mp hr
    split at hr
    · exact extended_renderNodes h.1 hr
    · exact extended_renderCases h.2 ho hr

end

/-- A template without such statements is one that stands alone. -/
theorem standalone_of_plain (h : ∀ nodes, loadNodes library name = .ok nodes → nodesPlain nodes = true) :
    Standalone library name args := by
  intro nodes hnodes others others'
  have hplain := h nodes hnodes
  unfold renderTemplate
  rw [renderNodes_plain name others others' nodes _ hplain]
  cases hr : renderNodes name others' (.ofTemplate name (argBindings args)) nodes with
  | error stop => rfl
  | ok rendered =>
    obtain ⟨text, s⟩ := rendered
    have hnone : s.extended = none := extended_renderNodes name others' hplain hr
    dsimp only [bind, Except.bind]
    rw [hnone]

end ShaderBundle.Template
