import LootFilter.Filter.Scalar

/-!
# Separated Texts

Pieces that are written one behind the other, with a separator in between, can
be told apart again as long as none of them holds the separator. This is all
that keeps a filter readable. Words are separated by spaces and lines by line
breaks. Blocks are separated by blank lines, so there the pieces are lists of
lines and the separator is the empty one.

A document is built the other way around, with its blocks finished before they
are joined by two line breaks. `intercalate_blocks` shows that this is the same
text as all of its lines joined by single ones, blank lines included. So the
same law (`eq_of_intercalate_eq`) takes a document apart twice, first into lines
and then into blocks.

Quoted texts are separated too, but may hold spaces. There the quotes do the
work: a text ends at the first quote behind the one that opens it.

## Theorems

* `Text.eq_of_append_cons_eq`: What stands ahead of the first separator.
* `Text.eq_of_intercalate_eq`: Separated pieces can be told apart.
* `Text.intercalate_blocks`: Blocks of lines are lines with blank ones between.
* `Text.eq_of_blocks_eq`: Blocks of lines can be told apart.
* `Text.eq_of_spaced_eq`: Words without spaces can be told apart.
* `Text.eq_of_spaced_quote_eq`: Texts between quotes can be told apart.
-/

namespace LootFilter

namespace Text

section Pieces

variable {α : Type} [DecidableEq α]

/-- Two lists that are equal are equal ahead of the first separator and behind
    it. -/
theorem eq_of_append_cons_eq {a : α} {x y s t : List α} (hx : a ∉ x) (hy : a ∉ y)
    (h : x ++ a :: s = y ++ a :: t) : x = y ∧ s = t := by
  have hsplit := congrArg (List.splitOn a) h
  rw [List.splitOn_append_cons_self_of_not_mem hx,
    List.splitOn_append_cons_self_of_not_mem hy] at hsplit
  have hxy : x = y := (List.cons.inj hsplit).1
  rw [hxy] at h
  exact ⟨hxy, (List.cons.inj (List.append_cancel_left h)).2⟩

/-- Pieces that do not hold their separator can be told apart. There has to be
    one at least, since no piece and an empty piece are written alike. -/
theorem eq_of_intercalate_eq {a : α} {ls ms : List (List α)} (hl : ∀ l ∈ ls, a ∉ l)
    (hm : ∀ m ∈ ms, a ∉ m) (hls : ls ≠ []) (hms : ms ≠ [])
    (h : [a].intercalate ls = [a].intercalate ms) : ls = ms := by
  rw [← List.splitOn_intercalate a hl hls, h, List.splitOn_intercalate a hm hms]

omit [DecidableEq α] in
/-- Pieces that are joined are the first ones and the last ones, joined. -/
theorem intercalate_append (sep : List α) (ls ms : List (List α)) (hls : ls ≠ [])
    (hms : ms ≠ []) :
    sep.intercalate (ls ++ ms) = sep.intercalate ls ++ sep ++ sep.intercalate ms := by
  induction ls with
  | nil => exact absurd rfl hls
  | cons l rest ih =>
      by_cases hrest : rest = []
      · rw [hrest, List.singleton_append, List.intercalate_cons_of_ne_nil hms,
          List.intercalate_singleton]
      · have hne : rest ++ ms ≠ [] := List.append_ne_nil_of_left_ne_nil hrest ms
        rw [List.cons_append, List.intercalate_cons_of_ne_nil hne, ih hrest,
          List.intercalate_cons_of_ne_nil hrest]
        simp only [List.append_assoc]

omit [DecidableEq α] in
/-- What is found in joined pieces comes from the separator or from a piece. -/
theorem mem_or_exists_of_mem_intercalate (sep : List α) (ls : List (List α)) (x : α)
    (h : x ∈ sep.intercalate ls) : x ∈ sep ∨ ∃ l ∈ ls, x ∈ l := by
  induction ls with
  | nil => exact absurd h List.not_mem_nil
  | cons l rest ih =>
      by_cases hrest : rest = []
      · rw [hrest, List.intercalate_singleton] at h
        exact Or.inr ⟨l, List.mem_cons_self, h⟩
      · rw [List.intercalate_cons_of_ne_nil hrest, List.mem_append, List.mem_append] at h
        rcases h with (h | h) | h
        · exact Or.inr ⟨l, List.mem_cons_self, h⟩
        · exact Or.inl h
        · rcases ih h with h | ⟨k, hk, hx⟩
          · exact Or.inl h
          · exact Or.inr ⟨k, List.mem_cons_of_mem l hk, hx⟩

omit [DecidableEq α] in
/-- Something is written for pieces of which the first one is not empty. -/
theorem intercalate_cons_ne_nil (sep l : List α) (rest : List (List α)) (h : l ≠ []) :
    sep.intercalate (l :: rest) ≠ [] := by
  by_cases hrest : rest = []
  · rwa [hrest, List.intercalate_singleton]
  · rw [List.intercalate_cons_of_ne_nil hrest, List.append_assoc]
    exact List.append_ne_nil_of_left_ne_nil h _

/-- A block of lines that can be told from its neighbours: there is a line, and
    no line is empty or holds the separator of lines. -/
structure IsBlock (a : α) (b : List (List α)) : Prop where
  nonempty : b ≠ []
  line_nonempty : [] ∉ b
  not_mem_line : ∀ l ∈ b, a ∉ l

omit [DecidableEq α] in
/-- Blocks with two separators between them are all of their lines with single
    separators between them, once an empty line is put between the blocks. -/
theorem intercalate_blocks (a : α) (blocks : List (List (List α)))
    (h : ∀ b ∈ blocks, IsBlock a b) :
    [a, a].intercalate (blocks.map [a].intercalate) =
      [a].intercalate ([[]].intercalate blocks) := by
  induction blocks with
  | nil => rfl
  | cons b rest ih =>
      rw [List.forall_mem_cons] at h
      cases rest with
      | nil => simp
      | cons c more =>
          have hc : c ≠ [] := (h.2 c List.mem_cons_self).nonempty
          have hlines : [[]].intercalate (c :: more) ≠ [] := intercalate_cons_ne_nil _ c more hc
          -- The blank line stands between two separators.
          have hblank : [a].intercalate ([] :: [[]].intercalate (c :: more))
              = [a] ++ [a].intercalate ([[]].intercalate (c :: more)) := by
            rw [List.intercalate_cons_of_ne_nil hlines, List.nil_append]
          have hrest := ih h.2
          rw [List.map_cons] at hrest
          rw [List.map_cons, List.map_cons, List.intercalate_cons_cons, hrest,
            List.intercalate_cons_cons, List.append_assoc b, List.singleton_append,
            intercalate_append [a] b _ h.1.nonempty (List.cons_ne_nil _ _), hblank]
          simp only [List.append_assoc, List.cons_append, List.nil_append]

/-- Blocks can be told apart. The first step takes the text apart into lines,
    and the second one takes the lines apart at the blank ones. -/
theorem eq_of_blocks_eq {a : α} {bs cs : List (List (List α))} (hbs : bs ≠ []) (hcs : cs ≠ [])
    (hb : ∀ b ∈ bs, IsBlock a b) (hc : ∀ c ∈ cs, IsBlock a c)
    (h : [a, a].intercalate (bs.map [a].intercalate) =
      [a, a].intercalate (cs.map [a].intercalate)) : bs = cs := by
  have hlines (ds : List (List (List α))) (hd : ∀ d ∈ ds, IsBlock a d) :
      ∀ l ∈ [[]].intercalate ds, a ∉ l := by
    intro l hl
    rcases mem_or_exists_of_mem_intercalate [[]] ds l hl with hl | ⟨d, hmem, hl⟩
    · rw [List.mem_singleton.mp hl]
      exact List.not_mem_nil
    · exact (hd d hmem).not_mem_line l hl
  have hne (ds : List (List (List α))) (hds : ds ≠ []) (hd : ∀ d ∈ ds, IsBlock a d) :
      [[]].intercalate ds ≠ [] := by
    cases ds with
    | nil => exact absurd rfl hds
    | cons d rest => exact intercalate_cons_ne_nil _ d rest (hd d List.mem_cons_self).nonempty
  rw [intercalate_blocks a bs hb, intercalate_blocks a cs hc] at h
  have hall := eq_of_intercalate_eq (hlines bs hb) (hlines cs hc) (hne bs hbs hb) (hne cs hcs hc) h
  exact eq_of_intercalate_eq (fun b hmem => (hb b hmem).line_nonempty)
    (fun c hmem => (hc c hmem).line_nonempty) hbs hcs hall

end Pieces

/-- Lists of texts are equal if the lists of their characters are. -/
theorem map_toList_inj {ws vs : List String} :
    ws.map String.toList = vs.map String.toList ↔ ws = vs :=
  List.map_inj_right fun _ _ => String.toList_inj.mp

/-- Words without spaces can be told apart. -/
theorem eq_of_spaced_eq {ws vs : List String} (hw : ∀ w ∈ ws, ' ' ∉ w.toList)
    (hv : ∀ v ∈ vs, ' ' ∉ v.toList) (hws : ws ≠ []) (hvs : vs ≠ []) (h : spaced ws = spaced vs) :
    ws = vs := by
  have hchars := congrArg String.toList h
  rw [spaced, spaced, String.toList_intercalate, String.toList_intercalate] at hchars
  refine map_toList_inj.mp (eq_of_intercalate_eq (List.forall_mem_map.mpr hw)
    (List.forall_mem_map.mpr hv) ?_ ?_ hchars)
  · rwa [ne_eq, List.map_eq_nil_iff]
  · rwa [ne_eq, List.map_eq_nil_iff]

/-- A character of spaced words is a space or stands in one of the words. -/
theorem eq_space_or_exists_of_mem_spaced (ws : List String) (c : Char)
    (h : c ∈ (spaced ws).toList) : c = ' ' ∨ ∃ w ∈ ws, c ∈ w.toList := by
  rw [spaced, String.toList_intercalate] at h
  rcases mem_or_exists_of_mem_intercalate _ _ c h with h | ⟨l, hl, hc⟩
  · exact Or.inl (List.mem_singleton.mp h)
  · rcases List.mem_map.mp hl with ⟨w, hw, rfl⟩
    exact Or.inr ⟨w, hw, hc⟩

/-- The characters of spaced words: those of the first word, a space, and those of the
    others. -/
theorem toList_spaced_cons (w : String) {ws : List String} (h : ws ≠ []) :
    (spaced (w :: ws)).toList = w.toList ++ ' ' :: (spaced ws).toList := by
  have hne : ws.map String.toList ≠ [] := by
    rwa [ne_eq, List.map_eq_nil_iff]
  rw [spaced, String.toList_intercalate, List.map_cons, List.intercalate_cons_of_ne_nil hne,
    List.append_assoc, spaced, String.toList_intercalate]
  rfl

/-- The characters of a text between quotes. -/
theorem toList_quote (s : String) : (Scalar.quote s).toList = '"' :: (s.toList ++ ['"']) := by
  rw [Scalar.quote, String.toList_append, String.toList_append]
  rfl

/-- The characters of texts between quotes: the first text ends at the first
    quote behind the one that opens it. -/
theorem toList_spaced_quote_cons (s : String) (rest : List String) :
    (spaced ((s :: rest).map Scalar.quote)).toList = '"' :: (s.toList ++ '"' ::
      if rest = [] then [] else ' ' :: (spaced (rest.map Scalar.quote)).toList) := by
  rw [List.map_cons]
  by_cases hrest : rest = []
  · rw [hrest, if_pos rfl]
    exact toList_quote s
  · have hne : rest.map Scalar.quote ≠ [] := by
      rwa [ne_eq, List.map_eq_nil_iff]
    rw [if_neg hrest, toList_spaced_cons _ hne, toList_quote]
    simp only [List.cons_append, List.append_assoc, List.nil_append]

/-- Texts between quotes can be told apart. -/
theorem eq_of_spaced_quote_eq {ss ts : List String} (hs : ∀ s ∈ ss, '"' ∉ s.toList)
    (ht : ∀ t ∈ ts, '"' ∉ t.toList)
    (h : spaced (ss.map Scalar.quote) = spaced (ts.map Scalar.quote)) : ss = ts := by
  induction ss generalizing ts with
  | nil =>
      cases ts with
      | nil => rfl
      | cons t more =>
          have hchars := congrArg String.toList h
          rw [toList_spaced_quote_cons] at hchars
          exact absurd hchars.symm (List.cons_ne_nil _ _)
  | cons s rest ih =>
      cases ts with
      | nil =>
          have hchars := congrArg String.toList h
          rw [toList_spaced_quote_cons] at hchars
          exact absurd hchars (List.cons_ne_nil _ _)
      | cons t more =>
          rw [List.forall_mem_cons] at hs ht
          have hchars := congrArg String.toList h
          rw [toList_spaced_quote_cons, toList_spaced_quote_cons] at hchars
          -- Both texts end at the first quote, and what follows has to agree.
          rcases eq_of_append_cons_eq hs.1 ht.1 (List.cons.inj hchars).2 with ⟨hst, htail⟩
          have hrest : rest = more := by
            by_cases hr : rest = []
            · by_cases hm : more = []
              · rw [hr, hm]
              · rw [if_pos hr, if_neg hm] at htail
                exact absurd htail.symm (List.cons_ne_nil _ _)
            · by_cases hm : more = []
              · rw [if_neg hr, if_pos hm] at htail
                exact absurd htail (List.cons_ne_nil _ _)
              · rw [if_neg hr, if_neg hm] at htail
                exact ih hs.2 ht.2 (String.toList_inj.mp (List.cons.inj htail).2)
          rw [String.toList_inj.mp hst, hrest]

end Text

end LootFilter
