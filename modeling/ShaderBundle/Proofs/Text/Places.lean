import Mathlib.Data.List.Infix
import ShaderBundle.Text.Search

/-!
# Where a text occurs in a text

The places at which a needle stands in a text, from the left. Replacing the first occurrence takes its place away. All
others stay, and no new one comes about, if the needle and what replaces it are of one length and start with a mark: a
character that neither of them has anywhere else, so that no occurrence reaches into another or into a replacement.

* `places`: all places of a needle.
* `cut_eq_none`, `places_of_cut`: the first of them is where a text is cut.
* `places_replaceFirst`: what replacing the first occurrence leaves of them.
-/

namespace ShaderBundle.Text

/-- The places at which a needle stands in a text. -/
def places (needle text : List Char) : List Nat :=
  (List.range text.length).filter fun p => needle.isPrefixOf (text.drop p)

variable {needle text : List Char}

theorem mem_places (h : needle ≠ []) {p : Nat} : p ∈ places needle text ↔ needle <+: text.drop p := by
  rw [places, List.mem_filter, List.mem_range, List.isPrefixOf_iff_prefix, and_iff_right_iff_imp]
  intro hp
  by_contra hlength
  rw [List.drop_eq_nil_of_le (by omega), List.prefix_nil] at hp
  exact h hp

/-- A needle at a place, character by character. -/
theorem prefix_drop_iff {p : Nat} : needle <+: text.drop p ↔ ∀ j < needle.length, text[p + j]? = needle[j]? := by
  rw [List.prefix_iff_getElem?]
  refine forall₂_congr fun j hj => ?_
  rw [List.getElem?_drop, List.getElem?_eq_getElem hj]

theorem places_cons (needle : List Char) (c : Char) (cs : List Char) :
    places needle (c :: cs) = (if needle <+: c :: cs then [0] else []) ++ (places needle cs).map (· + 1) := by
  have hrest : ((List.range cs.length).map Nat.succ).filter (fun p => needle.isPrefixOf ((c :: cs).drop p)) =
      (places needle cs).map (· + 1) := List.filter_map
  rw [places, List.length_cons, List.range_succ_eq_map, List.filter_cons, hrest, List.drop_zero]
  simp only [List.isPrefixOf_iff_prefix]
  split <;> rfl

/-- In front of what follows, the needle stands nowhere in these characters. -/
def Free (needle as bs : List Char) : Prop := ∀ c cs, c :: cs <:+ as → ¬needle <+: c :: (cs ++ bs)

theorem Free.tail {c : Char} {as bs : List Char} (h : Free needle (c :: as) bs) : Free needle as bs :=
  fun d ds hs => h d ds (hs.trans (List.suffix_cons c as))

theorem Free.places {as bs : List Char} (h : Free needle as bs) :
    places needle (as ++ bs) = (Text.places needle bs).map (· + as.length) := by
  induction as with
  | nil => exact (List.map_id' _).symm
  | cons c as ih =>
    rw [List.cons_append, places_cons, if_neg (h c as (List.suffix_refl _)), ih h.tail, List.nil_append, List.map_map]
    rfl

/-! ## The first place -/

theorem free_of_cut {before after : List Char} (h : cut needle text = some (before, after)) :
    Free needle before (needle ++ after) := by
  induction text generalizing before with
  | nil =>
    rw [cut] at h
    split at h <;> cases h
    intro c cs hs
    cases List.suffix_nil.mp hs
  | cons c rest ih =>
    rw [cut] at h
    split at h
    · cases h
      intro c cs hs
      cases List.suffix_nil.mp hs
    · next hfront =>
      obtain ⟨⟨b, a⟩, hcut, heq⟩ := Option.map_eq_some_iff.mp h
      cases heq
      intro d ds hs
      rcases List.suffix_cons_iff.mp hs with hwhole | hs
      · cases hwhole
        have hrest := append_of_cut hcut
        rwa [← List.append_assoc, hrest, ← List.isPrefixOf_iff_prefix]
      · exact ih hcut d ds hs

theorem cut_eq_none (h : needle ≠ []) : cut needle text = none ↔ places needle text = [] := by
  induction text with
  | nil => simp [cut, h, places]
  | cons c rest ih =>
    rw [cut, places_cons]
    simp only [List.isPrefixOf_iff_prefix]
    split
    · simp
    · simp [ih]

/-! ## Marked texts -/

section
variable {mark : Char} {ns ws before after : List Char}

/-- Where the mark does not occur, the needle does not start. -/
theorem free_of_not_mem {as : List Char} (h : mark ∉ as) (bs : List Char) : Free (mark :: ns) as bs := by
  intro c cs hs hfront
  obtain rfl : mark = c := (List.cons_prefix_cons.mp hfront).1
  exact h (hs.subset List.mem_cons_self)

variable (hns : mark ∉ ns)
include hns

/-- The first occurrence is where the text is cut, and the others are behind it. -/
theorem places_of_cut (h : cut (mark :: ns) text = some (before, after)) :
    places (mark :: ns) text =
      before.length :: (places (mark :: ns) after).map (· + (before.length + (ns.length + 1))) := by
  have htext := append_of_cut h
  rw [List.append_assoc] at htext
  have hneedle : places (mark :: ns) (mark :: ns ++ after) =
      0 :: (places (mark :: ns) after).map (· + (ns.length + 1)) := by
    have hfront : mark :: ns <+: mark :: (ns ++ after) := List.prefix_append (mark :: ns) after
    rw [List.cons_append, places_cons, if_pos hfront, (free_of_not_mem hns after).places, List.map_map]
    rfl
  rw [← htext, (free_of_cut h).places, hneedle, List.map_cons, Nat.zero_add, List.map_map]
  refine congrArg (_ :: List.map · _) (funext fun p => ?_)
  dsimp only [Function.comp_apply]
  omega

variable (hws : mark ∉ ws) (hlength : ws.length = ns.length) (hne : ws ≠ ns)
include hws hlength hne

/-- An occurrence that reached into the replacement would hold a second mark. -/
theorem free_replaced (h : Free (mark :: ns) before (mark :: ns ++ after)) :
    Free (mark :: ns) before (mark :: ws ++ after) := by
  intro c cs hs hfront
  rcases List.prefix_or_prefix_of_prefix hfront (List.prefix_append (c :: cs) (mark :: ws ++ after)) with
    hinside | ⟨more, hneedle⟩
  · exact h c cs hs (hinside.trans (List.prefix_append _ _))
  · cases more with
    | nil =>
      rw [List.append_nil] at hneedle
      exact h c cs hs (hneedle ▸ List.prefix_append (c :: cs) _)
    | cons d more =>
      rw [← hneedle] at hfront
      have hmore : d :: more <+: mark :: ws ++ after := (List.prefix_append_right_inj (c :: cs)).mp hfront
      obtain rfl : d = mark := (List.cons_prefix_cons.mp hmore).1
      obtain ⟨-, rfl⟩ := List.cons.inj hneedle
      exact hns (List.mem_append_right _ List.mem_cons_self)

theorem places_replaced (h : cut (mark :: ns) text = some (before, after)) :
    places (mark :: ns) (before ++ (mark :: ws ++ after)) =
      (places (mark :: ns) after).map (· + (before.length + (ns.length + 1))) := by
  have hfront : ¬mark :: ns <+: mark :: (ws ++ after) := by
    intro hfront
    have hprefix : ns <+: ws ++ after := (List.cons_prefix_cons.mp hfront).2
    have heq := List.prefix_of_prefix_length_le hprefix (List.prefix_append ws after) hlength.ge
    exact hne (heq.eq_of_length hlength.symm).symm
  rw [(free_replaced hns hws hlength hne (free_of_cut h)).places, List.cons_append, places_cons, if_neg hfront,
    (free_of_not_mem hws after).places, List.nil_append, List.map_map, List.map_map, hlength]
  refine congrArg (List.map · _) (funext fun p => ?_)
  dsimp only [Function.comp_apply]
  omega

/-- The first occurrence is gone, and the others stay where they are. -/
theorem places_replaceFirst (text : List Char) :
    places (mark :: ns) (replaceFirst (mark :: ns) (mark :: ws) text) = (places (mark :: ns) text).tail := by
  unfold replaceFirst
  split
  · next before after h =>
    rw [List.append_assoc, places_replaced hns hws hlength hne h, places_of_cut hns h, List.tail_cons]
  · next h => rw [(cut_eq_none (List.cons_ne_nil _ _)).mp h, List.tail_nil]

end

end ShaderBundle.Text
