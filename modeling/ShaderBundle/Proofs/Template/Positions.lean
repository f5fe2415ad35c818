import Mathlib.Data.List.Infix
import ShaderBundle.Proofs.Template.Naturality
import ShaderBundle.Proofs.Template.Spans

/-!
# Where faults stand

A reader that counts characters in the place of line ends gives each token its place in the text. The line that is
counted for it is the line of this place, and so it is with the line that a complaint names.

* `lexFrom_places`: each step keeps the count right, as what it leaves is an end of the text.
* `faultOffset?`: where that stands which is complained of.
* `read_lines`: the line of it is the one that is named.
-/

namespace ShaderBundle.Template

/-! ## What is left -/

theorem dropBlank_suffix (cs : List Char) : Text.dropBlank cs <:+ cs := List.dropWhile_suffix _

theorem sign_suffix (cs : List Char) : (sign cs).2 <:+ cs := by
  unfold sign
  split
  · exact List.suffix_cons _ _
  · exact List.suffix_cons _ _
  · exact List.suffix_refl _

section
variable {cs rest : List Char}

theorem closeRaw?_suffix (h : closeRaw? cs = some rest) : rest <:+ cs := by
  unfold closeRaw? at h
  split at h <;> cases h
  · exact (dropBlank_suffix _).trans (List.suffix_append ['-', '%', '}'] _)
  · exact List.suffix_append ['%', '}'] _

theorem closeBlock?_suffix (h : closeBlock? cs = some rest) : rest <:+ cs := by
  unfold closeBlock? at h
  split at h
  · cases h
    exact List.suffix_append ['+', '%', '}'] _
  · exact closeRaw?_suffix h

theorem closeVariable?_suffix (h : closeVariable? cs = some rest) : rest <:+ cs := by
  unfold closeVariable? at h
  split at h <;> cases h
  · exact (dropBlank_suffix _).trans (List.suffix_append ['-', '}', '}'] _)
  · exact List.suffix_append ['}', '}'] _

theorem closeComment?_suffix (h : closeComment? cs = some rest) : rest <:+ cs := by
  unfold closeComment? at h
  split at h <;> cases h
  · exact List.suffix_append ['+', '#', '}'] _
  · exact (dropBlank_suffix _).trans (List.suffix_append ['-', '#', '}'] _)
  · exact List.suffix_append ['#', '}'] _

theorem blankWord?_suffix {word : List Char} (h : blankWord? word cs = some rest) : rest <:+ cs := by
  unfold blankWord? at h
  dsimp only at h
  split at h <;> cases h
  exact (dropBlank_suffix _).trans ((List.drop_suffix _ _).trans (dropBlank_suffix cs))

theorem openingAt?_suffix {found : Opening × Bool × List Char} (h : openingAt? cs = some found) : found.2.2 <:+ cs := by
  unfold openingAt? at h
  split at h
  · cases h
    exact (sign_suffix _).trans (List.suffix_append ['{', '{'] _)
  · cases h
    exact (sign_suffix _).trans (List.suffix_append ['{', '#'] _)
  · next inside =>
    have hinner : (sign inside).2 <:+ '{' :: '%' :: inside := (sign_suffix _).trans (List.suffix_append ['{', '%'] _)
    dsimp only at h
    split at h <;> cases h
    · next hraw =>
      obtain ⟨behind, hword, hclose⟩ := Option.bind_eq_some_iff.mp hraw
      exact (closeRaw?_suffix hclose).trans ((blankWord?_suffix hword).trans hinner)
    · exact hinner
  · cases h

theorem endRawAt?_suffix {found : Bool × List Char} (h : endRawAt? cs = some found) : found.2 <:+ cs := by
  unfold endRawAt? at h
  split at h
  · next inside =>
    obtain ⟨after, hafter, rfl⟩ := Option.map_eq_some_iff.mp h
    obtain ⟨behind, hword, hclose⟩ := Option.bind_eq_some_iff.mp hafter
    exact (closeBlock?_suffix hclose).trans ((blankWord?_suffix hword).trans
      ((sign_suffix _).trans (List.suffix_append ['{', '%'] _)))
  · cases h

/-- What is found is found behind the characters before it. -/
theorem cutAtMark_spec {α : Type} {mark : List Char → Option α} {before : List Char} {found : α} :
    ∀ {cs : List Char}, cutAtMark mark cs = some (before, found) → ∃ tail, cs = before ++ tail ∧ mark tail = some found := by
  intro cs
  induction cs generalizing before with
  | nil =>
    intro h
    obtain ⟨a, ha, heq⟩ := Option.map_eq_some_iff.mp h
    cases heq
    exact ⟨[], rfl, ha⟩
  | cons c cs ih =>
    intro h
    rw [cutAtMark] at h
    split at h
    · next a ha =>
      cases h
      exact ⟨c :: cs, rfl, ha⟩
    · obtain ⟨⟨before', a⟩, hcut, heq⟩ := Option.map_eq_some_iff.mp h
      cases heq
      obtain ⟨tail, rfl, htail⟩ := ih hcut
      exact ⟨tail, rfl, htail⟩

end

/-! ## Literals and operators -/

section
variable {isDigit : Char → Bool} {cs : List Char}

theorem groupedDigits_suffix (isDigit : Char → Bool) (cs : List Char) : (groupedDigits isDigit cs).2 <:+ cs := by
  induction cs with
  | nil => exact List.suffix_refl _
  | cons c cs ih =>
    rw [groupedDigits]
    split
    · exact ih.trans (List.suffix_cons c cs)
    · exact List.suffix_refl _

theorem digitGroups_suffix (fuel : Nat) : ∀ {cs : List Char} {found : List Char × List Char},
    digitGroups isDigit fuel cs = found → found.2 <:+ cs := by
  induction fuel with
  | zero =>
    rintro cs _ rfl
    exact List.suffix_refl cs
  | succ fuel ih =>
    intro cs found h
    have hfirst := groupedDigits_suffix isDigit cs
    rw [digitGroups] at h
    split at h
    · cases h
      exact List.suffix_refl cs
    · next ds rest _ hds =>
      rw [hds] at hfirst
      split at h <;> cases h
      · exact hfirst
      · next hmore => exact (ih hmore).trans ((List.suffix_cons _ _).trans hfirst)
    · cases h
      exact hfirst

theorem decimalGroups_suffix {found : List Char × List Char} (h : decimalGroups cs = found) : found.2 <:+ cs :=
  digitGroups_suffix _ h

theorem exponentAt?_suffix {found : Bool × List Char × List Char} (h : exponentAt? cs = some found) : found.2.2 <:+ cs := by
  unfold exponentAt? at h
  split at h
  · next e rest =>
    split at h
    · dsimp only at h
      split at h <;> cases h
      next hgroups =>
        refine (decimalGroups_suffix hgroups).trans (List.IsSuffix.trans ?_ (List.suffix_cons e rest))
        split
        · exact List.suffix_cons _ _
        · exact List.suffix_cons _ _
        · exact List.suffix_refl _
    · cases h
  · cases h

theorem fractionAt?_suffix {found : List Char × List Char} (h : fractionAt? cs = some found) : found.2 <:+ cs := by
  unfold fractionAt? at h
  split at h
  · split at h <;> cases h
    exact (decimalGroups_suffix rfl).trans (List.suffix_cons _ _)
  · cases h

theorem realAt?_suffix {found : Float × List Char} (h : realAt? cs = some found) : found.2 <:+ cs := by
  unfold realAt? at h
  split at h
  · cases h
  · next whole rest _ hgroups =>
    have hwhole : rest <:+ cs := decimalGroups_suffix hgroups
    dsimp only at h
    split at h
    · next fraction behind hfraction =>
      have hbehind := (fractionAt?_suffix hfraction).trans hwhole
      cases hexponent : exponentAt? behind with
      | none =>
        rw [hexponent] at h
        cases h
        exact hbehind
      | some read =>
        rw [hexponent] at h
        cases h
        exact (exponentAt?_suffix hexponent).trans hbehind
    · obtain ⟨read, hexponent, rfl⟩ := Option.map_eq_some_iff.mp h
      exact (exponentAt?_suffix hexponent).trans hwhole

theorem basedAt?_suffix {base : Nat} {found : Nat × List Char} (h : basedAt? base isDigit cs = some found) :
    found.2 <:+ cs := by
  unfold basedAt? at h
  dsimp only at h
  split at h <;> cases h
  next hgroups =>
    refine (digitGroups_suffix _ hgroups).trans ?_
    split
    · exact List.suffix_cons _ _
    · exact List.suffix_refl _

theorem integerAt?_suffix {found : Nat × List Char} (h : integerAt? cs = some found) : found.2 <:+ cs := by
  unfold integerAt? at h
  split at h
  · dsimp only at h
    split at h
    · next hbased =>
      cases h
      split at hbased
      case h_7 => cases hbased
      all_goals exact (basedAt?_suffix hbased).trans (List.suffix_append ['0', _] _)
    · cases h
      exact digitGroups_suffix _ rfl
  · split at h <;> cases h
    next hgroups => exact decimalGroups_suffix hgroups

theorem quotedAt?_suffix {mark : Char} : ∀ {cs : List Char} {found : List Char × List Char},
    quotedAt? mark cs = some found → found.2 <:+ cs := by
  intro cs
  fun_induction quotedAt? mark cs with
  | case1 => exact nofun
  | case2 c rest ih =>
    intro found h
    obtain ⟨read, hread, rfl⟩ := Option.map_eq_some_iff.mp h
    exact (ih hread).trans (List.suffix_append ['\\', c] rest)
  | case3 rest =>
    rintro _ ⟨⟩
    exact List.suffix_cons _ rest
  | case4 => exact nofun
  | case5 c rest _ _ _ ih =>
    intro found h
    obtain ⟨read, hread, rfl⟩ := Option.map_eq_some_iff.mp h
    exact (ih hread).trans (List.suffix_cons c rest)

theorem operatorAt?_suffix {found : Operator × List Char} (h : Operator.at? cs = some found) : found.2 <:+ cs := by
  unfold Operator.at? at h
  split at h <;> cases h
  all_goals first | exact List.suffix_cons _ _ | exact List.suffix_append [_, _] _

/-- What is left behind a piece, if it is not refused. -/
def Piece.Leaves (cs : List Char) : Piece → Prop
  | .blank rest | .close rest | .lexeme _ rest => rest <:+ cs
  | .failed _ => True

theorem namePiece_leaves (cs : List Char) : (namePiece cs).Leaves cs := by
  unfold namePiece
  dsimp only
  split
  · exact List.dropWhile_suffix _
  · trivial

theorem textPiece?_leaves {p : Piece} (h : textPiece? cs = some p) : p.Leaves cs := by
  unfold textPiece? at h
  dsimp only at h
  split at h
  case h_3 => cases h
  all_goals
    obtain ⟨⟨body, after⟩, hquoted, rfl⟩ := Option.map_eq_some_iff.mp h
    dsimp only
    split
    · exact (quotedAt?_suffix hquoted).trans (List.suffix_cons _ _)
    · trivial

theorem numberPiece?_leaves {afterDot : Bool} {p : Piece} (h : numberPiece? afterDot cs = some p) : p.Leaves cs := by
  unfold numberPiece? at h
  split at h
  · next x rest hreal =>
    cases h
    split at hreal
    · cases hreal
    · exact realAt?_suffix hreal
  · obtain ⟨⟨n, rest⟩, hinteger, rfl⟩ := Option.map_eq_some_iff.mp h
    exact integerAt?_suffix hinteger

theorem close?_suffix {kind : TagKind} {rest : List Char} (h : kind.close? cs = some rest) : rest <:+ cs := by
  cases kind with
  | «variable» => exact closeVariable?_suffix h
  | block => exact closeBlock?_suffix h

theorem pieceAt_leaves (kind : TagKind) (brackets : List Operator) (afterDot : Bool) (offset : Nat) (c : Char)
    (cs : List Char) : (pieceAt kind brackets afterDot offset c cs).Leaves (c :: cs) := by
  unfold pieceAt
  split
  · next rest hclose =>
    split at hclose
    · exact close?_suffix hclose
    · cases hclose
  · split
    · exact (dropBlank_suffix cs).trans (List.suffix_cons c cs)
    · split
      · next p hnumber => exact numberPiece?_leaves hnumber
      · split
        · exact namePiece_leaves _
        · split
          · next p htext => exact textPiece?_leaves htext
          · split
            · next o rest ho => exact operatorAt?_suffix ho
            · trivial

end

/-! ## Places -/

/-- The line on which the character at an offset stands. -/
def lineAt (text : List Char) (offset : Nat) : Nat := 1 + newlines (text.take offset)

/-- The line of a place; the first character has the place one. -/
def lineOf (text : List Char) (place : Nat) : Nat := lineAt text (place - 1)

/-- So much of a text is left at a place and its line. -/
def At (text : List Char) (place line : Nat) (cs : List Char) : Prop :=
  ∃ front, text = front ++ cs ∧ place = 1 + front.length ∧ line = 1 + newlines front

section
variable {text : List Char} {place line : Nat}

theorem At.lineOf_eq {cs : List Char} (h : At text place line cs) : lineOf text place = line := by
  obtain ⟨front, rfl, rfl, rfl⟩ := h
  rw [lineOf, lineAt, Nat.add_sub_cancel_left, List.take_left]

theorem At.skip {as bs : List Char} (h : At text place line (as ++ bs)) :
    At text (place + as.length) (line + newlines as) bs := by
  obtain ⟨front, rfl, rfl, rfl⟩ := h
  exact ⟨front ++ as, (List.append_assoc _ _ _).symm, by rw [List.length_append, Nat.add_assoc],
    by rw [newlines_append, Nat.add_assoc]⟩

/-- What has been used is counted in both ways. -/
theorem At.used {cs rest : List Char} (h : At text place line cs) (hrest : rest <:+ cs) :
    At text (place + (cs.take (cs.length - rest.length)).length) (line + newlines (cs.take (cs.length - rest.length))) rest :=
  At.skip ((List.suffix_iff_eq_append.mp hrest).symm ▸ h)

theorem relabel_cons (f : Nat → Nat) (t : Token) (ts : Tokens) : (ts.cons t).relabel f = (ts.relabel f).cons (t.relabel f) := rfl

theorem relabel_withData (f : Nat → Nat) (k : Nat) (data : List Char) (ts : Tokens) :
    (withData k data ts).relabel f = withData (f k) data (ts.relabel f) := by
  unfold withData
  split <;> rfl

/-- Tokens with places have the lines of these places. -/
theorem lexFrom_places (fuel : Nat) : ∀ {mode : Mode} {place line offset : Nat} {cs : List Char}, At text place line cs →
    (lexFrom List.length fuel mode place offset cs).relabel (lineOf text) = lexFrom newlines fuel mode line offset cs := by
  induction fuel with
  | zero => exact fun _ => rfl
  | succ fuel ih =>
    intro mode place line offset cs hat
    cases cs with
    | nil => rw [lexFrom, lexFrom]; rfl
    | cons c cs =>
      have hfailed (detail : String) : (Tokens.failed place detail).relabel (lineOf text) = .failed line detail := by
        rw [← hat.lineOf_eq]
        rfl
      cases mode with
      | text =>
        rw [lexFrom, lexFrom]
        cases hcut : cutAtMark openingAt? (c :: cs) with
        | none =>
          dsimp only
          rw [relabel_withData, hat.lineOf_eq]
          rfl
        | some found =>
          obtain ⟨before, opening, trims, rest⟩ := found
          obtain ⟨tail, hcs, hmark⟩ := cutAtMark_spec hcut
          have hrest : rest <:+ tail := openingAt?_suffix hmark
          obtain ⟨mark, rfl⟩ := hrest
          have hused : ((c :: cs).take ((c :: cs).length - rest.length)).drop before.length = mark := by
            rw [hcs, ← List.append_assoc, List.length_append, Nat.add_sub_cancel, List.take_left, List.drop_left]
          have hbehind := (hcs ▸ hat).skip
          have hopened (mode : Mode) : (lexFrom List.length fuel mode (place + before.length + mark.length)
              (offset + ((c :: cs).length - rest.length)) rest).relabel (lineOf text) = lexFrom newlines fuel mode
                (line + newlines before + newlines mark) (offset + ((c :: cs).length - rest.length)) rest :=
            ih hbehind.skip
          dsimp only
          rw [hused, relabel_withData, hat.lineOf_eq]
          cases opening with
          | raw => dsimp only; rw [hopened]
          | comment => dsimp only; rw [hopened]
          | block => dsimp only; rw [relabel_cons, hopened, Token.relabel, hbehind.lineOf_eq]
          | «variable» => dsimp only; rw [relabel_cons, hopened, Token.relabel, hbehind.lineOf_eq]
      | comment =>
        rw [lexFrom, lexFrom]
        cases hcut : cutAtMark closeComment? (c :: cs) with
        | none => exact hfailed _
        | some found =>
          obtain ⟨tail, hcs, hmark⟩ := cutAtMark_spec hcut
          exact ih (hat.used ((closeComment?_suffix hmark).trans (hcs ▸ List.suffix_append found.1 tail)))
      | raw =>
        rw [lexFrom, lexFrom]
        cases hcut : cutAtMark endRawAt? (c :: cs) with
        | none => exact hfailed _
        | some found =>
          obtain ⟨tail, hcs, hmark⟩ := cutAtMark_spec hcut
          dsimp only
          rw [relabel_withData, hat.lineOf_eq,
            ih (hat.used ((endRawAt?_suffix hmark).trans (hcs ▸ List.suffix_append found.1 tail)))]
      | tag kind brackets afterDot =>
        have hleaves := pieceAt_leaves kind brackets afterDot offset c cs
        rw [lexFrom, lexFrom]
        dsimp only
        cases hpiece : pieceAt kind brackets afterDot offset c cs with
        | blank rest =>
          rw [hpiece] at hleaves
          exact ih (hat.used hleaves)
        | close rest =>
          rw [hpiece] at hleaves
          dsimp only
          rw [relabel_cons, ih (hat.used hleaves), Token.relabel, hat.lineOf_eq]
        | failed detail => exact hfailed detail
        | lexeme l rest =>
          rw [hpiece] at hleaves
          dsimp only
          cases balance brackets l with
          | error detail => exact hfailed detail
          | ok brackets =>
            dsimp only
            rw [relabel_cons, ih (hat.used hleaves), Token.relabel, hat.lineOf_eq]

end

/-! ## Faults -/

/-- Reads and checks a text, for a way to count. -/
def readBy (count : List Char → Nat) (text : List Char) : Except Malformed (List Node) := do
  let nodes ← parseTokens (lexFrom count (text.length + 1) .text 1 0 text)
  check nodes
  return nodes

def fault? {α : Type} : Except Malformed α → Option Malformed
  | .error m => some m
  | .ok _ => none

theorem fault?_eq_some {α : Type} {r : Except Malformed α} {m : Malformed} : fault? r = some m ↔ r = .error m := by
  cases r <;> simp [fault?]

/-- The offset of what is wrong with a text: what is named if characters are counted in the place of line ends. -/
def faultOffset? (text : List Char) : Option Nat := (fault? (readBy List.length text)).map (·.line - 1)

/-- Whatever is wrong with a text, the line on which it stands is named. -/
theorem read_lines {text : List Char} {m : Malformed} (h : readBy newlines text = .error m) :
    ∃ offset, faultOffset? text = some offset ∧ m.line = lineAt text offset := by
  have htokens : (lexFrom List.length (text.length + 1) .text 1 0 text).relabel (lineOf text) =
      lexFrom newlines (text.length + 1) .text 1 0 text := lexFrom_places _ ⟨[], rfl, rfl, rfl⟩
  have hparsed : Corresponds (lineOf text) (relabelNodes (lineOf text))
      (parseTokens (lexFrom List.length (text.length + 1) .text 1 0 text))
      (parseTokens (lexFrom newlines (text.length + 1) .text 1 0 text)) := htokens ▸ parseTokens_relabel rfl _
  have hread : Corresponds (lineOf text) (relabelNodes (lineOf text)) (readBy List.length text) (readBy newlines text) :=
    hparsed.bind fun ns => (check_relabel ns).bind fun _ => rfl
  rw [faultOffset?]
  cases hplaced : readBy List.length text with
  | error placed =>
    rw [hplaced, h] at hread
    cases hread
    exact ⟨placed.line - 1, rfl, rfl⟩
  | ok ns =>
    rw [hplaced, h] at hread
    cases hread

end ShaderBundle.Template
