import ShaderBundle.Template.Node

/-!
# Names that nodes use

Whether a name is looked up anywhere in an expression or in nodes. A loop tells about itself only if its body
uses the loop's name.
-/

namespace ShaderBundle.Template

mutual

def Expr.uses (word : String) : Expr → Bool
  | .constant _ | .cell .. => false
  | .name w _ => w == word
  | .list items | .tuple items _ | .concat items => anyUses word items
  | .dict entries => pairsUse word entries
  | .member of _ => of.uses word
  | .item of index => of.uses word || index.uses word
  | .slice start stop step =>
    optionalUses word start || optionalUses word stop || optionalUses word step
  | .call of args => of.uses word || argumentsUse word args
  | .filter of _ args _ => optionalUses word of || argumentsUse word args
  | .test of _ args _ => of.uses word || argumentsUse word args
  | .negative e | .positive e | .negation e => e.uses word
  | .arithmetic _ a b | .both a b | .either a b => a.uses word || b.uses word
  | .compare first rest => first.uses word || operandsUse word rest
  | .conditional condition then_ else_ _ =>
    condition.uses word || then_.uses word || optionalUses word else_

def optionalUses (word : String) : Option Expr → Bool
  | none => false
  | some e => e.uses word

def anyUses (word : String) : List Expr → Bool
  | [] => false
  | e :: rest => e.uses word || anyUses word rest

def pairsUse (word : String) : List (Expr × Expr) → Bool
  | [] => false
  | (k, v) :: rest => k.uses word || v.uses word || pairsUse word rest

def argumentsUse (word : String) : List (ArgKind × Expr) → Bool
  | [] => false
  | (_, e) :: rest => e.uses word || argumentsUse word rest

def operandsUse (word : String) : List (Comparison × Expr) → Bool
  | [] => false
  | (_, e) :: rest => e.uses word || operandsUse word rest

end

mutual

def Node.uses (word : String) : Node → Bool
  | .data _ => false
  | .print e | .assign _ e | .include_ e _ _ | .extends_ e _ => e.uses word
  | .branch cases otherwise => casesUse word cases || nodesUse word otherwise
  | .loop _ sequence only body otherwise _ =>
    sequence.uses word || optionalUses word only || nodesUse word body || nodesUse word otherwise
  | .assignBody _ filter body => optionalUses word filter || nodesUse word body

def nodesUse (word : String) : List Node → Bool
  | [] => false
  | n :: rest => n.uses word || nodesUse word rest

def casesUse (word : String) : List (Expr × List Node) → Bool
  | [] => false
  | (condition, body) :: rest => condition.uses word || nodesUse word body || casesUse word rest

end

end ShaderBundle.Template
